import Hezarfen.AccountSteps

/-!
# Accounts belong to the person they name

Every row of a school carries the person of its own name, and every session is bound to a row
that carries its holder, in all runs.  That rows and memberships are only given to callers who
know the password of the person, or have just created it, rests on one condition: the seed of a
boot checks no password, and must not meet a stranger under its name.
-/

namespace Hezarfen.Accounts

open Interleaving

variable {Hash : Type} {argon : Argon Hash}

variable {s s' : Db Hash} {call : ℕ} {person : PersonId}

def Db.Gains (s s' : Db Hash) (person : PersonId) : Prop :=
  (∃ school, s'.personSchool.lookup (person, school) = some () ∧
    s.personSchool.lookup (person, school) = none) ∨
  ∃ school db' user row, s'.database.lookup school = some db' ∧
    db'.appUser.lookup user = some row ∧ row.person = some person ∧
      ∀ db, s.database.lookup school = some db → db.appUser.lookup user ≠ some row

def Request.password (request : Request) : Option Password :=
  (request.entry : Point Unit).password

/-- The call created the person, or its request presented a password that matches a hash stored
for the person. -/
def Db.Vouched (argon : Argon Hash) (s : Db Hash) (call : ℕ) (request : Request)
    (person : PersonId) : Prop :=
  ∃ row, s.person.lookup person = some row ∧
    (row.creator = call ∨ ∃ password hash, request.password = some password ∧
      hash ∈ row.hashes ∧ argon.verify hash password = true)

/-- `Db.Proven`, as it is evaluated. -/
def Db.proven (argon : Argon Hash) (s : Db Hash) (call : ℕ) (person : PersonId)
    (password : Password) : Bool :=
  (s.person.lookup person).any fun row =>
    decide (row.creator = call) || row.hashes.any fun hash => argon.verify hash password

def Db.linked (s : Db Hash) (joining : Joining) : Bool :=
  (s.personSchool.lookup (joining.person, joining.school)).isSome ||
    (s.school.lookup joining.school).isNone

def Db.seated (s : Db Hash) (joining : Joining) : Bool :=
  (s.database.lookup joining.school).all fun db =>
    db.appUser.any fun _ row => decide (row.username = joining.username)

/-- The seed of a boot writes a membership or a row only for a person that it created itself, or
whose password it knows. -/
def seedProven (argon : Argon Hash) (c : Config (Db Hash) (Point Hash)) :
    Move Request World → Bool
  | .advance call w =>
      match c.calls.lookup call with
      | some (.linkSchool joining) =>
          w.fails || joining.origin.checks || c.shared.linked joining ||
            c.shared.proven argon call joining.person joining.password
      | some (.createRow joining) =>
          w.fails || joining.origin.checks || c.shared.seated joining ||
            c.shared.proven argon call joining.person joining.password
      | _ => true
  | _ => true

theorem proven_iff {password : Password} :
    s.proven argon call person password = true ↔ s.Proven argon call person password := by
  simp [Db.proven, Db.Proven, Option.any_eq_true]

theorem Db.gains_irrefl (s : Db Hash) (person : PersonId) : ¬s.Gains s person := by
  rintro (⟨school, hnew, hold⟩ | ⟨school, db, user, row, hdb, hrow, -, hnew⟩)
  · rw [hold] at hnew
    cases hnew
  · exact hnew db hdb hrow

theorem Db.not_gains (hmembers : ∀ key, s'.personSchool.lookup key = some () →
      s.personSchool.lookup key = some ())
    (hrows : ∀ school db', s'.database.lookup school = some db' →
      (∃ db, s.database.lookup school = some db ∧ db'.appUser = db.appUser) ∨
        db'.appUser = ∅) : ¬s.Gains s' person := by
  rintro (⟨school, hnew, hold⟩ | ⟨school, db', user, row, hdb', hrow, -, hnew⟩)
  · rw [hmembers _ hnew] at hold
    cases hold
  · rcases hrows school db' hdb' with ⟨db, hdb, hsame⟩ | hempty
    · exact hnew db hdb (hsame ▸ hrow)
    · rw [hempty] at hrow
      simp at hrow

theorem Change.gains {p : Point Hash} (h : Change s call p s') (hgains : s.Gains s' person) :
    ∃ joining, joining.person = person ∧
      (p = .linkSchool joining ∧ s.personSchool.lookup (person, joining.school) = none ∨
        p = .createRow joining ∧ ∃ db, s.database.lookup joining.school = some db ∧
          ∀ id row, db.appUser.lookup id = some row → row.username ≠ joining.username) := by
  have hkeep : ∀ school db, s.database.lookup school = some db →
      (∃ db', s.database.lookup school = some db' ∧ db.appUser = db'.appUser) ∨ db.appUser = ∅ :=
    fun school db hdb => .inl ⟨db, hdb, rfl⟩
  cases h with
  | same => exact absurd hgains (s.gains_irrefl person)
  | registry | person | rehash | personSession | fewerPersons =>
      exact absurd hgains (Db.not_gains (fun _ h => h) hkeep)
  | @row joining user db hdb huser hfree =>
      rcases hgains with ⟨school, hnew, hold⟩ | ⟨school, db', id, row, hdb', hrow, hperson, hnew⟩
      · change s.personSchool.lookup _ = some () at hnew
        rw [hold] at hnew
        cases hnew
      · rw [Db.withSchoolDb, lookup_insert_eq] at hdb'
        split at hdb'
        · next hschool =>
          cases hdb'
          obtain ⟨-, rfl⟩ | ⟨-, hrow⟩ := insert_cases hrow
          · exact ⟨joining, Option.some.inj hperson, .inr ⟨rfl, db, hdb, hfree⟩⟩
          · exact absurd hrow (hnew db (hschool ▸ hdb))
        · exact absurd hrow (hnew db' hdb')
  | @member joining =>
      rcases hgains with ⟨school, hnew, hold⟩ | ⟨school, db', user, row, hdb', hrow, -, hnew⟩
      · rw [lookup_insert_eq] at hnew
        split at hnew
        · next hkey =>
          obtain ⟨rfl, rfl⟩ := Prod.mk.inj hkey
          exact ⟨joining, rfl, .inl ⟨rfl, hold⟩⟩
        · rw [hold] at hnew
          cases hnew
      · exact absurd hrow (hnew db' hdb')
  | members =>
      refine absurd hgains (Db.not_gains ?_ hkeep)
      intro key hkey
      rw [Db.withoutMembers, lookup_deleteWhere] at hkey
      exact (Option.filter_eq_some_iff.mp hkey).1
  | database =>
      refine absurd hgains (Db.not_gains (fun _ h => h) ?_)
      intro school db hdb
      rw [Db.withSchoolDb, lookup_insert_eq] at hdb
      split at hdb
      · cases hdb
        exact .inr rfl
      · exact .inl ⟨db, hdb, rfl⟩
  | dropped =>
      refine absurd hgains (Db.not_gains (fun _ h => h) ?_)
      intro school db hdb
      rw [Db.withoutDatabase, lookup_erase_eq] at hdb
      split at hdb
      · cases hdb
      · exact .inl ⟨db, hdb, rfl⟩
  | @session via school person version user db row token expiresAt hdb huser =>
      refine absurd hgains (Db.not_gains (fun _ h => h) ?_)
      intro id db' hdb'
      rw [Db.withSchoolDb, lookup_insert_eq] at hdb'
      split at hdb'
      · next hid =>
        cases hdb'
        exact .inl ⟨db, hid ▸ hdb, rfl⟩
      · exact .inl ⟨db', hdb', rfl⟩
  | fewer =>
      refine absurd hgains (Db.not_gains ?_ ?_)
      · intro key hkey
        rwa [Db.deleteSessions_personSchool] at hkey
      · intro id db' hdb'
        obtain ⟨db, hdb, hsame, -⟩ := s.deleteSessions_database _ _ hdb'
        exact .inl ⟨db, hdb, hsame⟩

theorem entry_password (request : Request) :
    (request.entry : Point Hash).password = request.password := by
  cases request <;> rfl

theorem serves_requests {c : Config (Db Hash) (Point Hash)} {ms : List (Move Request World)}
    (hs : s.Sound) (hrun : (machine argon).run (.initial s) ms = some c) :
    c.Serves (fun request p => p.password = none ∨ p.password = request.password)
      (requests ms) := by
  have hrely := sound_relyGuarantee argon fun _ _ => True
  have hserves := Machine.serves_run_under (M := machine argon)
    (P := fun request p => p.password = none ∨ p.password = request.password)
    (J := Config.Holds Db.Sound fun call p s => p.Knows argon call s)
    (fun request => .inr (entry_password request))
      (fun hc hstep => hrely.holds_step hc trivial hstep)
    (fun {c request id s' choice p q} hc hp hpassword hnext => ?_) (Config.initial_holds _ hs)
    (Config.initial_serves _ _) hrun
  · simpa using hserves
  · rcases (next_lands hc.shared (hc.calls id p hp) hnext).passes q rfl with hnone | hsame
    · exact .inl hnone
    · exact hsame ▸ hpassword

theorem gains_proven {c : Config (Db Hash) (Point Hash)} {p : Point Hash} {w : World}
    {n : Reply Hash} (hc : c.Holds Db.Sound fun call p s => p.Knows argon call s)
    (hguard : seedProven argon c (.advance call w) = true) (hp : c.calls.lookup call = some p)
    (hnext : (machine argon).next call c.shared p w = some (s', n))
    (hgains : c.shared.Gains s' person) :
    ∃ password, p.password = some password ∧ s'.Proven argon call person password := by
  have hchange := (next_lands hc.shared (hc.calls call p hp) hnext).change
  have hfails : w.fails = false := by
    by_contra hfails
    rw [Bool.not_eq_false] at hfails
    change next argon call c.shared p w = some (s', n) at hnext
    rw [next, if_pos hfails] at hnext
    cases hnext
    exact c.shared.gains_irrefl person hgains
  obtain ⟨joining, rfl, ⟨rfl, hnew⟩ | ⟨rfl, db, hdb, hfree⟩⟩ := hchange.gains hgains
  · have hjoins : c.shared.Joins argon call joining := hc.calls call _ hp
    refine ⟨joining.password, rfl, Db.Proven.grows ?_ hchange.grows⟩
    by_cases hchecks : joining.origin.checks = true
    · exact hjoins.proven hchecks
    · have hlinked : c.shared.linked joining = false := by
        rw [Db.linked, hnew, Option.isSome_none, Bool.false_or]
        by_contra hgone
        rw [Bool.not_eq_false] at hgone
        change next argon call c.shared (.linkSchool joining) w = some (s', n) at hnext
        simp only [next, hfails, Bool.false_eq_true, if_false, serve, linkSchool,
          Option.not_isSome_iff_eq_none.mpr (Option.isNone_iff_eq_none.mp hgone),
          Option.some.injEq, Prod.mk.injEq] at hnext
        obtain ⟨rfl, -⟩ := hnext
        exact c.shared.gains_irrefl _ hgains
      simp only [seedProven, hp, hfails, hchecks, hlinked, Bool.false_or] at hguard
      exact proven_iff.mp hguard
  · have hjoins : c.shared.Joins argon call joining := hc.calls call _ hp
    refine ⟨joining.password, rfl, Db.Proven.grows ?_ hchange.grows⟩
    by_cases hchecks : joining.origin.checks = true
    · exact hjoins.proven hchecks
    · have hseated : c.shared.seated joining = false := by
        rw [Db.seated, hdb, Option.all_some, Table.any_eq_false_iff]
        exact fun id row hrow => decide_eq_false (hfree id row hrow)
      simp only [seedProven, hp, hfails, hchecks, hseated, Bool.false_or] at hguard
      exact proven_iff.mp hguard

/-- In every run from a fresh deployment, whatever was cut off: rows carry the person of their own
name, sessions are bound to rows that carry their holder, and where the seed of a boot meets only
persons that it may, rows and memberships are given to nobody who has not proven the password. -/
theorem accounts_belong_to_their_person {s : Db Hash} {c : Config (Db Hash) (Point Hash)}
    {ms : List (Move Request World)} (hs : s.Deployed)
    (hguard : (machine argon).Guarded (fun c m => seedProven argon c m = true) (.initial s) ms)
    (hrun : (machine argon).run (.initial s) ms = some c) :
    (∀ school db user row person, c.shared.database.lookup school = some db →
      db.appUser.lookup user = some row → row.person = some person →
        c.shared.Named person row.username) ∧
    (∀ school db token session, c.shared.database.lookup school = some db →
      db.userSession.lookup token = some session →
        ∃ row, db.appUser.lookup session.user = some row ∧ row.person = some session.holder) ∧
    ∀ before m after d e person, ms = before ++ m :: after →
      (machine argon).run (.initial s) before = some d → (machine argon).step d m = some e →
      d.shared.Gains e.shared person →
        ∃ call w request, m = .advance call w ∧ (requests before)[call]? = some request ∧
          e.shared.Vouched argon call request person := by
  have hrely := sound_relyGuarantee argon fun _ _ => True
  have hsound := Db.Sound.of_deployed hs
  have hholds : ∀ {pre d}, (machine argon).run (.initial s) pre = some d →
      d.Holds Db.Sound fun call p s => p.Knows argon call s := fun hpre =>
    hrely.holds_run (Config.initial_holds _ hsound) (Machine.guarded_true _ _) hpre
  have hc := (hholds hrun).shared
  refine ⟨?_, ?_, ?_⟩
  · intro school db user row person hdb hrow hperson
    obtain ⟨carried, hcarried, hnamed⟩ := (hc.database school db hdb).rows user row hrow
    rw [hperson, Option.some.injEq] at hcarried
    exact hcarried ▸ hnamed
  · intro school db token session hdb hsession
    exact (hc.database school db hdb).sessions token session hsession
  · rintro before m after d e person rfl hd hstep hgains
    have hguardm := (hguard.drop hd).1
    obtain ⟨request, rfl, rfl⟩ | ⟨call, w, p, s', n, rfl, hp, hnext, rfl⟩
      | ⟨call, p, rfl, hp, rfl⟩ :=
      Machine.step_cases hstep
    · exact absurd hgains (d.shared.gains_irrefl person)
    · rw [Config.shared_after] at hgains ⊢
      obtain ⟨password, hpassword, row, hrow, hproof⟩ :=
        gains_proven (hholds hd) hguardm hp hnext hgains
      obtain ⟨request, hrequest, hserved⟩ := (serves_requests hsound hd).calls call p hp
      rw [hpassword] at hserved
      have hpresented : request.password = some password :=
        (hserved.resolve_left (by simp)).symm
      refine ⟨call, w, request, rfl, hrequest, row, hrow, ?_⟩
      rcases hproof with hcreated | ⟨hash, hmem, hverify⟩
      · exact .inl hcreated
      · exact .inr ⟨password, hash, hpresented, hmem, hverify⟩
    · exact absurd hgains (d.shared.gains_irrefl person)

namespace Sample

def plain : Argon (ℕ × Password) := ⟨fun salt password => (salt, password),
  fun hash password => decide (hash.2 = password)⟩

def lise : SchoolId := ⟨.ending "000a"⟩

def kolej : SchoolId := ⟨.ending "000b"⟩

def first : Uuid := .ending "0001"

def second : Uuid := .ending "0002"

def third : Uuid := .ending "0003"

def fourth : Uuid := .ending "0004"

def db : Db (ℕ × Password) :=
  { person := ∅
    personSchool := ∅
    personSession := ∅
    school := ((∅ : Table SchoolId Provisioning.SchoolStatus).insert lise .active).insert kolej
      .active
    database := ((∅ : Table SchoolId SchoolDb).insert lise ⟨∅, ∅⟩).insert kolej ⟨∅, ∅⟩
    dropped := [] }

theorem db_deployed : db.Deployed where
  person := rfl
  personSchool := rfl
  personSession := rfl
  database id school hschool := by
    rw [db, lookup_insert_eq, lookup_insert_eq] at hschool
    split at hschool
    · exact (Option.some.inj hschool).symm
    · split at hschool
      · exact (Option.some.inj hschool).symm
      · cases hschool

def world (uuid : Uuid) : World := ⟨false, uuid, 0, "t", 0⟩

def registered (call : ℕ) (school : SchoolId) (username : String) (person row : Uuid) :
    List (Move Request World) :=
  [.start (.register (some school) username "gizli-sifre"), .advance call (world person),
    .advance call (world person), .advance call (world row), .advance call (world row),
    .advance call (world row)]

def mudur : Username := ⟨"mudur", by decide⟩

/-- The seed of a boot in a school. -/
def seeded (call : ℕ) (school : SchoolId) (password : String) (person row : Uuid) :
    List (Move Request World) :=
  .start (.ensureAdmin school mudur ⟨password⟩) :: .advance call (world person) ::
    .advance call (world person) :: .advance call (world row) ::
    List.replicate 3 (.advance call (world row))

end Sample

open Sample in
def seedThenJoin : List (Move Request World) :=
  seeded 0 lise "gizli-sifre" first second ++ registered 1 kolej "mudur" third fourth

theorem accounts_belong_to_their_person_seedThenJoin :
    ∃ c, (machine Sample.plain).run (.initial Sample.db) seedThenJoin = some c ∧
      ∀ school db user row person, c.shared.database.lookup school = some db →
        db.appUser.lookup user = some row → row.person = some person →
          c.shared.Named person row.username := by
  have hends : ((machine Sample.plain).run (.initial Sample.db) seedThenJoin).any (fun c =>
      (c.shared.database.lookup Sample.kolej).any fun db =>
        db.appUser.any fun _ row => decide (row.person = some ⟨Sample.first⟩)) = true := by
    decide
  obtain ⟨c, hrun, -⟩ := (Option.any_eq_true _ _).mp hends
  exact ⟨c, hrun, (accounts_belong_to_their_person Sample.db_deployed (by decide) hrun).1⟩

open Sample in
def strangerSeeded : List (Move Request World) :=
  registered 0 lise "mudur" first second ++ seeded 1 kolej "acilis-sifresi" third fourth

theorem Db.Vouched.proven {request : Request} {password : Password}
    (h : s.Vouched argon call request person) (hpassword : request.password = some password) :
    s.Proven argon call person password := by
  obtain ⟨row, hrow, hcreated | ⟨presented, hash, hpresented, hmem, hverify⟩⟩ := h
  · exact ⟨row, hrow, .inl hcreated⟩
  · cases hpassword.symm.trans hpresented
    exact ⟨row, hrow, .inr ⟨hash, hmem, hverify⟩⟩

/-- The last step of the seed makes the stranger an admin of the other school; the seed neither
created them nor knows their password. -/
theorem seed_meets_stranger :
    ∃ d e, (machine Sample.plain).run (.initial Sample.db) strangerSeeded.dropLast = some d ∧
      (machine Sample.plain).step d (.advance 1 (Sample.world Sample.fourth)) = some e ∧
      d.shared.Gains e.shared ⟨Sample.first⟩ ∧
      ¬e.shared.Vouched Sample.plain 1
        (.ensureAdmin Sample.kolej Sample.mudur ⟨"acilis-sifresi"⟩) ⟨Sample.first⟩ := by
  have hends : ((machine Sample.plain).run (.initial Sample.db) strangerSeeded.dropLast).any
      (fun d => ((machine Sample.plain).step d (.advance 1 (Sample.world Sample.fourth))).any
        fun e => ((e.shared.database.lookup Sample.kolej).any fun db =>
            (db.appUser.lookup ⟨Sample.fourth⟩).any fun row =>
              decide (row.person = some ⟨Sample.first⟩ ∧ row.role = .admin)) &&
          ((d.shared.database.lookup Sample.kolej).all fun db =>
            (db.appUser.lookup ⟨Sample.fourth⟩).isNone) &&
          !e.shared.proven Sample.plain 1 ⟨Sample.first⟩ ⟨"acilis-sifresi"⟩) = true := by
    decide
  obtain ⟨d, hd, hends⟩ := (Option.any_eq_true _ _).mp hends
  obtain ⟨e, he, hends⟩ := (Option.any_eq_true _ _).mp hends
  rw [Bool.and_eq_true, Bool.and_eq_true, Bool.not_eq_true', ← Bool.not_eq_true,
    proven_iff] at hends
  obtain ⟨⟨hnew, hold⟩, hunproven⟩ := hends
  obtain ⟨db', hdb', hnew⟩ := (Option.any_eq_true _ _).mp hnew
  obtain ⟨row, hrow, hperson⟩ := (Option.any_eq_true _ _).mp hnew
  refine ⟨d, e, hd, he, .inr ⟨Sample.kolej, db', ⟨Sample.fourth⟩, row, hdb', hrow,
    (of_decide_eq_true hperson).1, ?_⟩, fun hvouched => hunproven (hvouched.proven rfl)⟩
  intro db hdb hsame
  rw [hdb, Option.all_some, hsame] at hold
  cases hold

end Hezarfen.Accounts
