import Hezarfen.Accounts

/-!
# What a step of the account calls does

A step changes the store in one of a few ways.  What a call has learned of a person, and of the
row of a school that carries one, stays true under all of them, and so does the soundness of the
store: names are unique, a row carries the person of its own name, and a session is bound to a
row that carries its holder.
-/

namespace Hezarfen.Accounts

open Interleaving

variable {Hash : Type}

variable {person id : PersonId} {username : Username} {school : SchoolId} {user : UserId}
  {db' db : SchoolDb} {n : Reply Hash} {via : Via} {version : ℕ}

inductive Change (s : Db Hash) (call : ℕ) : Point Hash → Db Hash → Prop where
  | same {p : Point Hash} : Change s call p s
  | registry {p : Point Hash} {school : Table SchoolId Provisioning.SchoolStatus} :
      Change s call p { s with school := school }
  | person {origin : Origin} {username : Username} {password : Password} {hash : Hash}
      {id : PersonId} (hid : s.person.lookup id = none)
      (hfree : ∀ id row, s.person.lookup id = some row → row.username ≠ username) :
      Change s call (.createPerson origin username password hash)
        { s with person := s.person.insert id ⟨username, hash, call, []⟩ }
  | rehash {school : SchoolId} {user : UserId} {username : Username} {hash : Hash} :
      Change s call (.setHash school user username hash) (s.setPasswordHash username hash)
  | row {joining : Joining} {user : UserId} {db : SchoolDb}
      (hdb : s.database.lookup joining.school = some db) (huser : db.appUser.lookup user = none)
      (hfree : ∀ id other, db.appUser.lookup id = some other →
        other.username ≠ joining.username) :
      Change s call (.createRow joining)
        (s.withSchoolDb joining.school
          { db with appUser := db.appUser.insert user joining.row })
  | member {joining : Joining} :
      Change s call (.linkSchool joining)
        { s with personSchool := s.personSchool.insert (joining.person, joining.school) () }
  | members {p : Point Hash} {school : SchoolId} : Change s call p (s.withoutMembers school)
  | database {joining : Joining} (hnone : s.database.lookup joining.school = none)
      (hnew : joining.school ∉ s.dropped) :
      Change s call (.createDatabase joining) (s.withSchoolDb joining.school ⟨∅, ∅⟩)
  | dropped {p : Point Hash} {school : SchoolId} : Change s call p (s.withoutDatabase school)
  | session {via : Via} {school : SchoolId} {person : PersonId} {version : ℕ} {user : UserId}
      {db : SchoolDb} {row : AppUser} {token : String} {expiresAt : Timestamp}
      (hdb : s.database.lookup school = some db) (huser : db.appUser.lookup user = some row) :
      Change s call (.mint via school person version user)
        (s.withSchoolDb school
          { db with userSession := db.userSession.insert token ⟨user, expiresAt, person, version⟩ })
  | fewer {p : Point Hash} {school : SchoolId} {q : UserSession → Bool} :
      Change s call p (s.deleteSessions school q)
  | personSession {person : PersonId} {version : ℕ} {schools : List SchoolId} {token : String}
      {expiresAt : Timestamp} :
      Change s call (.mintPerson person version schools)
        { s with personSession := s.personSession.insert token ⟨person, expiresAt, version⟩ }
  | fewerPersons {p : Point Hash} {sessions : Table String PersonSession}
      (hsub : ∀ token session, sessions.lookup token = some session →
        s.personSession.lookup token = some session) :
      Change s call p { s with personSession := sessions }

/-! ## What calls learn -/

/-- The person has the name. -/
def Db.Named (s : Db Hash) (person : PersonId) (username : Username) : Prop :=
  ∃ row, s.person.lookup person = some row ∧ row.username = username

def Db.Proven (argon : Argon Hash) (s : Db Hash) (call : ℕ) (person : PersonId)
    (password : Password) : Prop :=
  ∃ row, s.person.lookup person = some row ∧
    (row.creator = call ∨ ∃ hash ∈ row.hashes, argon.verify hash password = true)

/-- The calls that check the password. -/
def Origin.checks : Origin → Bool
  | .ensureAdmin _ => false
  | _ => true

structure Db.Joins (argon : Argon Hash) (s : Db Hash) (call : ℕ) (joining : Joining) : Prop where
  named : s.Named joining.person joining.username
  proven : joining.origin.checks = true → s.Proven argon call joining.person joining.password

def Db.Gone (s : Db Hash) (school : SchoolId) : Prop :=
  s.database.lookup school = none ∧ school ∈ s.dropped

def Db.Seated (s : Db Hash) (school : SchoolId) (user : UserId) (q : AppUser → Prop) : Prop :=
  s.Gone school ∨ ∃ db row, s.database.lookup school = some db ∧
    db.appUser.lookup user = some row ∧ q row

def Point.Knows (argon : Argon Hash) (call : ℕ) (s : Db Hash) : Point Hash → Prop
  | .insertSchool person username password =>
      s.Named person username ∧ s.Proven argon call person password
  | .createDatabase joining => s.Joins argon call joining
  | .activate joining => s.Joins argon call joining
  | .createRow joining => s.Joins argon call joining
  | .linkSchool joining => s.Joins argon call joining
  | .findAdmin joining => s.Joins argon call joining
  | .memberships person username _ => s.Named person username
  | .openSchool (.login username) _ person _ => s.Named person username
  | .findUser _ _ person _ username => s.Named person username
  | .purgeExpired _ school person _ user => s.Seated school user fun row => row.person = some person
  | .mint _ school person _ user => s.Seated school user fun row => row.person = some person
  | .setHash school user username _ => s.Seated school user fun row => row.username = username
  | .revokeUser school user username _ => s.Seated school user fun row => row.username = username
  | _ => True

/-- The password that the call presents. -/
def Point.password : Point Hash → Option Password
  | .register _ _ password => (Password.tryNew password).toOption
  | .createUser _ _ password _ _ => (Password.tryNew password).toOption
  | .createSchool _ password => (Password.tryNew password).toOption
  | .ensureAdmin _ _ password => some password
  | .createPerson _ _ password _ => some password
  | .loadPerson _ _ password => some password
  | .insertSchool _ _ password => some password
  | .createDatabase joining => some joining.password
  | .activate joining => some joining.password
  | .createRow joining => some joining.password
  | .linkSchool joining => some joining.password
  | .findAdmin joining => some joining.password
  | _ => none

def Point.stage : Point Hash → ℕ
  | .setHash .. => 1
  | .revokeUser .. => 2
  | .findReset .. => 3
  | .revokePerson .. => 4
  | _ => 0

structure Grows (s s' : Db Hash) : Prop where
  person : ∀ id row, s.person.lookup id = some row → ∃ row', s'.person.lookup id = some row' ∧
    row'.username = row.username ∧ row'.creator = row.creator ∧ row.hashes ⊆ row'.hashes
  gone : ∀ school, s.Gone school → s'.Gone school
  rows : ∀ school db, s.database.lookup school = some db → s'.Gone school ∨
    ∃ db', s'.database.lookup school = some db' ∧
      ∀ user row, db.appUser.lookup user = some row → db'.appUser.lookup user = some row

section Learned

variable {argon : Argon Hash} {s s' : Db Hash} {call : ℕ}

theorem Db.Named.grows (h : s.Named person username) (hgrows : Grows s s') :
    s'.Named person username := by
  obtain ⟨row, hrow, hname⟩ := h
  obtain ⟨row', hrow', hsame, -⟩ := hgrows.person person row hrow
  exact ⟨row', hrow', hsame.trans hname⟩

theorem Db.Proven.grows {password : Password} (h : s.Proven argon call person password)
    (hgrows : Grows s s') :
    s'.Proven argon call person password := by
  obtain ⟨row, hrow, hproof⟩ := h
  obtain ⟨row', hrow', -, hcreator, hhashes⟩ := hgrows.person person row hrow
  refine ⟨row', hrow', ?_⟩
  rcases hproof with hcreated | ⟨hash, hmem, hverify⟩
  · exact .inl (hcreator.trans hcreated)
  · exact .inr ⟨hash, hhashes hmem, hverify⟩

theorem Db.Joins.grows {joining : Joining} (h : s.Joins argon call joining)
    (hgrows : Grows s s') : s'.Joins argon call joining where
  named := h.named.grows hgrows
  proven hchecks := (h.proven hchecks).grows hgrows

theorem Db.Seated.grows {q : AppUser → Prop} (h : s.Seated school user q) (hgrows : Grows s s') :
    s'.Seated school user q := by
  rcases h with hgone | ⟨db, row, hdb, hrow, hq⟩
  · exact .inl (hgrows.gone school hgone)
  · rcases hgrows.rows school db hdb with hgone | ⟨db', hdb', hkept⟩
    · exact .inl hgone
    · exact .inr ⟨db', row, hdb', hkept user row hrow, hq⟩

theorem Point.Knows.grows {p : Point Hash} (h : p.Knows argon call s) (hgrows : Grows s s') :
    p.Knows argon call s' := by
  cases p with
  | insertSchool => exact ⟨h.1.grows hgrows, h.2.grows hgrows⟩
  | createDatabase | activate | createRow | linkSchool | findAdmin =>
      exact Db.Joins.grows h hgrows
  | memberships | findUser => exact Db.Named.grows h hgrows
  | openSchool via =>
      cases via with
      | login => exact Db.Named.grows h hgrows
      | select => trivial
  | purgeExpired | mint | setHash | revokeUser => exact Db.Seated.grows h hgrows
  | _ => trivial

end Learned

/-! ## The rows of the databases -/

/-- The database of a school after a deletion of sessions. -/
theorem Db.deleteSessions_database (s : Db Hash) (school : SchoolId) (q : UserSession → Bool)
    {id : SchoolId} (hdb' : (s.deleteSessions school q).database.lookup id = some db') :
    ∃ db, s.database.lookup id = some db ∧ db'.appUser = db.appUser ∧
      ∀ token session, db'.userSession.lookup token = some session →
        db.userSession.lookup token = some session ∧ (id = school → q session = false) := by
  unfold deleteSessions at hdb'
  split at hdb'
  · next hnone =>
    refine ⟨db', hdb', rfl, fun token session hsession => ⟨hsession, ?_⟩⟩
    rintro rfl
    rw [hnone] at hdb'
    cases hdb'
  · next db hdb =>
    rw [Db.withSchoolDb, lookup_insert_eq] at hdb'
    split at hdb'
    · next hid =>
      cases hdb'
      refine ⟨db, hid ▸ hdb, rfl, ?_⟩
      intro token session hsession
      obtain ⟨hold, hkept⟩ :=
        Option.filter_eq_some_iff.mp ((lookup_deleteWhere _ _ _).symm.trans hsession)
      exact ⟨hold, fun _ => by simpa using hkept⟩
    · next hid =>
      exact ⟨db', hdb', rfl, fun token session hsession => ⟨hsession, fun h => absurd h hid⟩⟩

@[simp]
theorem Db.deleteSessions_person (s : Db Hash) (school : SchoolId) (q : UserSession → Bool) :
    (s.deleteSessions school q).person = s.person := by
  unfold deleteSessions
  split <;> rfl

@[simp]
theorem Db.deleteSessions_personSchool (s : Db Hash) (school : SchoolId)
    (q : UserSession → Bool) : (s.deleteSessions school q).personSchool = s.personSchool := by
  unfold deleteSessions
  split <;> rfl

theorem Grows.refl (s : Db Hash) : Grows s s where
  person _ row hrow := ⟨row, hrow, rfl, rfl, List.Subset.refl _⟩
  gone _ h := h
  rows _ db hdb := .inr ⟨db, hdb, fun _ _ hrow => hrow⟩

theorem Grows.withSchoolDb {s : Db Hash} (hgone : ¬s.Gone school)
    (hrows : ∀ db, s.database.lookup school = some db →
      ∀ user row, db.appUser.lookup user = some row → db'.appUser.lookup user = some row) :
    Grows s (s.withSchoolDb school db') where
  person id row hrow := ⟨row, hrow, rfl, rfl, List.Subset.refl _⟩
  gone id h := by
    have hne : id ≠ school := by
      rintro rfl
      exact hgone h
    refine ⟨?_, h.2⟩
    rw [Db.withSchoolDb, lookup_insert_eq, if_neg hne]
    exact h.1
  rows id db hdb := by
    by_cases hid : id = school
    · subst hid
      refine .inr ⟨db', ?_, hrows db hdb⟩
      rw [Db.withSchoolDb, lookup_insert_eq, if_pos rfl]
    · refine .inr ⟨db, ?_, fun user row hrow => hrow⟩
      rw [Db.withSchoolDb, lookup_insert_eq, if_neg hid]
      exact hdb

theorem Db.not_gone {s : Db Hash} (hdb : s.database.lookup school = some db) : ¬s.Gone school := by
  intro hgone
  rw [hgone.1] at hdb
  cases hdb

theorem Change.grows {s s' : Db Hash} {call : ℕ} {p : Point Hash} (h : Change s call p s') :
    Grows s s' := by
  have hrefl := Grows.refl s
  cases h with
  | same => exact hrefl
  | registry | member | members | personSession | fewerPersons =>
      exact ⟨hrefl.person, hrefl.gone, hrefl.rows⟩
  | @person origin username password hash id hid hfree =>
      refine ⟨?_, hrefl.gone, hrefl.rows⟩
      intro other row hrow
      have hne : other ≠ id := by
        rintro rfl
        rw [hid] at hrow
        cases hrow
      refine ⟨row, ?_, rfl, rfl, List.Subset.refl _⟩
      rw [lookup_insert_eq, if_neg hne]
      exact hrow
  | @rehash school user username hash =>
      refine ⟨?_, hrefl.gone, hrefl.rows⟩
      intro id row hrow
      refine ⟨if row.username = username then row.rehash hash else row, ?_, ?_⟩
      · rw [Db.setPasswordHash, lookup_update, hrow, Option.map_some]
      split
      · exact ⟨rfl, rfl, List.subset_cons_self _ _⟩
      · exact ⟨rfl, rfl, List.Subset.refl _⟩
  | @row joining user db hdb huser hfree =>
      refine .withSchoolDb (Db.not_gone hdb) ?_
      intro db' hdb' id row hrow
      cases hdb.symm.trans hdb'
      have hne : id ≠ user := by
        rintro rfl
        rw [huser] at hrow
        cases hrow
      rw [lookup_insert_eq, if_neg hne]
      exact hrow
  | database hnone hnew =>
      refine .withSchoolDb (fun hgone => hnew hgone.2) ?_
      intro db hdb
      rw [hnone] at hdb
      cases hdb
  | @dropped p school =>
      refine ⟨hrefl.person, ?_, ?_⟩
      · intro id hgone
        refine ⟨?_, List.mem_cons_of_mem _ hgone.2⟩
        rw [Db.withoutDatabase, lookup_erase_eq, hgone.1, ite_self]
      · intro id db hdb
        by_cases hid : id = school
        · subst hid
          refine .inl ⟨?_, List.mem_cons_self⟩
          rw [Db.withoutDatabase, lookup_erase_eq, if_pos rfl]
        · refine .inr ⟨db, ?_, fun user row hrow => hrow⟩
          rw [Db.withoutDatabase, lookup_erase_eq, if_neg hid]
          exact hdb
  | session hdb =>
      refine .withSchoolDb (Db.not_gone hdb) ?_
      intro db' hdb' id row hrow
      cases hdb.symm.trans hdb'
      exact hrow
  | @fewer p school q =>
      unfold Db.deleteSessions
      split
      · exact hrefl
      · next db hdb =>
        refine .withSchoolDb (Db.not_gone hdb) ?_
        intro db' hdb' id row hrow
        cases hdb.symm.trans hdb'
        exact hrow

/-- What holds of the database of one school. -/
structure SchoolDb.Sound (s : Db Hash) (db : SchoolDb) : Prop where
  rows : ∀ user row, db.appUser.lookup user = some row →
    ∃ person, row.person = some person ∧ s.Named person row.username
  usernames : ∀ user user' row row', db.appUser.lookup user = some row →
    db.appUser.lookup user' = some row' → row.username = row'.username → user = user'
  sessions : ∀ token session, db.userSession.lookup token = some session →
    ∃ row, db.appUser.lookup session.user = some row ∧ row.person = some session.holder

structure Db.Sound (s : Db Hash) : Prop where
  names : ∀ id id' row row', s.person.lookup id = some row → s.person.lookup id' = some row' →
    row.username = row'.username → id = id'
  database : ∀ school db, s.database.lookup school = some db → db.Sound s

theorem Db.Sound.of_deployed {s : Db Hash} (h : s.Deployed) : s.Sound where
  names id id' row row' hrow := by simp [h.person] at hrow
  database school db hdb := by
    have hempty := h.database school db hdb
    subst hempty
    exact ⟨by simp, by simp, by simp⟩

/-- One name belongs to one person. -/
theorem Db.Sound.named_eq {s : Db Hash} (h : s.Sound) {id' : PersonId} (hid : s.Named id username)
    (hid' : s.Named id' username) : id = id' := by
  obtain ⟨row, hrow, hname⟩ := hid
  obtain ⟨row', hrow', hname'⟩ := hid'
  exact h.names id id' row row' hrow hrow' (hname.trans hname'.symm)

theorem Db.setPasswordHash_named {s : Db Hash} {name : Username} {hash : Hash}
    (h : (s.setPasswordHash username hash).Named id name) : s.Named id name := by
  obtain ⟨row, hrow, hname⟩ := h
  rw [Db.setPasswordHash, lookup_update] at hrow
  obtain ⟨old, hlookup, rfl⟩ := Option.map_eq_some_iff.mp hrow
  refine ⟨old, hlookup, hname ▸ ?_⟩
  split <;> rfl

theorem SchoolDb.Sound.grows {s s' : Db Hash} (h : db.Sound s) (hgrows : Grows s s') :
    db.Sound s' where
  rows user row hrow := by
    obtain ⟨person, hperson, hnamed⟩ := h.rows user row hrow
    exact ⟨person, hperson, hnamed.grows hgrows⟩
  usernames := h.usernames
  sessions := h.sessions

/-- Fewer sessions of the same rows. -/
theorem SchoolDb.Sound.fewer {s : Db Hash} (h : db.Sound s) (hrows : db'.appUser = db.appUser)
    (hsessions : ∀ token session, db'.userSession.lookup token = some session →
      db.userSession.lookup token = some session) : db'.Sound s where
  rows := by
    rw [hrows]
    exact h.rows
  usernames := by
    rw [hrows]
    exact h.usernames
  sessions token session hsession := by
    rw [hrows]
    exact h.sessions token session (hsessions token session hsession)

theorem Change.sound {argon : Argon Hash} {s s' : Db Hash} {call : ℕ} {p : Point Hash}
    (h : Change s call p s') (hsound : s.Sound) (hknows : p.Knows argon call s) : s'.Sound := by
  have hgrows := h.grows
  have hkeep : ∀ school db, s.database.lookup school = some db → db.Sound s' :=
    fun school db hdb => (hsound.database school db hdb).grows hgrows
  cases h with
  | same => exact hsound
  | registry | member | members | personSession | fewerPersons => exact ⟨hsound.names, hkeep⟩
  | @person origin username password hash id hid hfree =>
      refine ⟨?_, hkeep⟩
      intro id id' row row' hrow hrow' hname
      rw [lookup_insert_eq] at hrow hrow'
      split at hrow <;> split at hrow'
      · next hleft hright => exact hleft.trans hright.symm
      · cases hrow
        exact absurd hname.symm (hfree id' row' hrow')
      · cases hrow'
        exact absurd hname (hfree id row hrow)
      · exact hsound.names id id' row row' hrow hrow' hname
  | @rehash school user username hash =>
      refine ⟨?_, hkeep⟩
      intro id id' row row' hrow hrow' hname
      exact hsound.named_eq (Db.setPasswordHash_named ⟨row, hrow, rfl⟩)
        (Db.setPasswordHash_named ⟨row', hrow', hname.symm⟩)
  | @row joining user db hdb huser hfree =>
      refine ⟨hsound.names, ?_⟩
      intro school db' hdb'
      rw [Db.withSchoolDb, lookup_insert_eq] at hdb'
      split at hdb'
      · cases hdb'
        have hdbSound := (hsound.database joining.school db hdb).grows hgrows
        constructor
        · intro id other hrow
          obtain ⟨-, rfl⟩ | ⟨-, hrow⟩ := insert_cases hrow
          · exact ⟨joining.person, rfl, hknows.named.grows hgrows⟩
          · exact hdbSound.rows id other hrow
        · intro id id' other other' hrow hrow' hname
          rw [lookup_insert_eq] at hrow hrow'
          split at hrow <;> split at hrow'
          · next hleft hright => exact hleft.trans hright.symm
          · cases hrow
            exact absurd hname.symm (hfree id' other' hrow')
          · cases hrow'
            exact absurd hname (hfree id other hrow)
          · exact hdbSound.usernames id id' other other' hrow hrow' hname
        · intro token session hsession
          obtain ⟨other, hother, hholder⟩ := hdbSound.sessions token session hsession
          have hne : session.user ≠ user := by
            rintro rfl
            rw [huser] at hother
            cases hother
          refine ⟨other, ?_, hholder⟩
          rw [lookup_insert_eq, if_neg hne]
          exact hother
      · exact hkeep school db' hdb'
  | database =>
      refine ⟨hsound.names, ?_⟩
      intro school db hdb
      rw [Db.withSchoolDb, lookup_insert_eq] at hdb
      split at hdb
      · cases hdb
        exact ⟨by simp, by simp, by simp⟩
      · exact hkeep school db hdb
  | dropped =>
      refine ⟨hsound.names, ?_⟩
      intro school db hdb
      rw [Db.withoutDatabase, lookup_erase_eq] at hdb
      split at hdb
      · cases hdb
      · exact hkeep school db hdb
  | @session via school person version user db row token expiresAt hdb huser =>
      refine ⟨hsound.names, ?_⟩
      intro id db' hdb'
      rw [Db.withSchoolDb, lookup_insert_eq] at hdb'
      split at hdb'
      · cases hdb'
        have hdbSound := (hsound.database school db hdb).grows hgrows
        refine ⟨hdbSound.rows, hdbSound.usernames, ?_⟩
        intro token' session hsession
        obtain ⟨-, rfl⟩ | ⟨-, hsession⟩ := insert_cases hsession
        · rcases hknows with hgone | ⟨other, held, hother, hheld, hperson⟩
          · exact absurd hgone (Db.not_gone hdb)
          · cases hdb.symm.trans hother
            exact ⟨held, hheld, hperson⟩
        · exact hdbSound.sessions token' session hsession
      · exact hkeep id db' hdb'
  | fewer =>
      refine ⟨by rw [Db.deleteSessions_person]; exact hsound.names, ?_⟩
      intro id db' hdb'
      obtain ⟨db, hdb, hrows, hsessions⟩ := s.deleteSessions_database _ _ hdb'
      exact (hkeep id db hdb).fewer hrows fun token session hsession =>
        (hsessions token session hsession).1

/-! ## Where a step lands -/

structure Lands (argon : Argon Hash) (s : Db Hash) (call : ℕ) (p : Point Hash) (s' : Db Hash)
    (n : Reply Hash) : Prop where
  change : Change s call p s'
  knows : ∀ q, n = .goto q → q.Knows argon call s'
  passes : ∀ q, n = .goto q → q.password = none ∨ q.password = p.password
  staged : ∀ q, n = .goto q → q.stage = 0 ∨ q.stage = p.stage + 1

section Lands

variable {argon : Argon Hash} {s s' : Db Hash} {call : ℕ} {p q : Point Hash} {w : World}

theorem Lands.answer (hchange : Change s call p s') (answer : Except Refusal Answer) :
    Lands argon s call p s' (.answer answer) :=
  ⟨hchange, (fun q hq => by cases hq), (fun q hq => by cases hq), (fun q hq => by cases hq)⟩

theorem Lands.goto (hchange : Change s call p s') (hq : q.Knows argon call s')
    (hpass : q.password = none ∨ q.password = p.password)
    (hstage : q.stage = 0 ∨ q.stage = p.stage + 1) :
    Lands argon s call p s' (.goto q) := by
  constructor
  · exact hchange
  · intro q' hq'
    cases hq'
    exact hq
  · intro q' hq'
    cases hq'
    exact hpass
  · intro q' hq'
    cases hq'
    exact hstage

theorem Lands.joining {joining : Joining} (hchange : Change s call p s')
    (hn : ∀ q, n = .goto q → q.Knows argon call s' ∧ q.stage = 0 ∧
      (q.password = none ∨ q.password = some joining.password))
    (hp : p.password = some joining.password) : Lands argon s call p s' n :=
  ⟨hchange, fun q hq => (hn q hq).1, fun q hq => hp ▸ (hn q hq).2.2,
    fun q hq => .inl (hn q hq).2.1⟩

theorem Lands.refused (e : Refusal) : Lands argon s call p s (refuse e) := .answer .same _

theorem personNamed_eq_some {username : String} {row : Person Hash}
    (h : s.personNamed username = some (id, row)) :
    s.person.lookup id = some row ∧ row.username.text = SchoolSettings.trim username := by
  obtain ⟨hlookup, hname⟩ := Table.first_eq_some h
  exact ⟨hlookup, of_decide_eq_true hname⟩

theorem userNamed_eq_some {username : String} {id : UserId} {row : AppUser}
    (h : db.userNamed username = some (id, row)) :
    db.appUser.lookup id = some row ∧ row.username.text = SchoolSettings.trim username := by
  obtain ⟨hlookup, hname⟩ := Table.first_eq_some h
  exact ⟨hlookup, of_decide_eq_true hname⟩

theorem Username.eq_of_text {username' : Username}
    (h : username.text = SchoolSettings.trim username'.text) : username = username' := by
  rw [username'.trimmed] at h
  cases username
  cases username'
  cases h
  rfl

theorem personNamed_named {row : Person Hash} (h : s.personNamed username.text = some (id, row)) :
    s.Named id username := by
  obtain ⟨hlookup, hname⟩ := personNamed_eq_some h
  exact ⟨row, hlookup, Username.eq_of_text hname⟩

theorem register_lands (school : Option SchoolId) (username password : String) :
    Lands argon s call (.register school username password) s
      (register argon s w school username password) := by
  unfold register
  split
  · exact .refused _
  split
  · exact .refused _
  split
  · exact .refused _
  split
  · exact .refused _
  split
  · exact .refused _
  · next hpassword =>
    exact .goto .same trivial (.inr (by rw [Point.password, hpassword]; rfl)) (.inl rfl)

theorem createUser_lands (school : SchoolId) (username password : String)
    (role number : Option String) :
    Lands argon s call (.createUser school username password role number) s
      (createUser argon w school username password role number) := by
  unfold createUser
  split
  · exact .refused _
  split
  · exact .refused _
  split
  · exact .refused _
  split
  · exact .refused _
  split
  · exact .refused _
  · next hpassword =>
    exact .goto .same trivial (.inr (by rw [Point.password, hpassword]; rfl)) (.inl rfl)

theorem createSchool_lands (username password : String) :
    Lands argon s call (.createSchool username password) s
      (createSchool argon w username password) := by
  unfold createSchool
  split
  · exact .refused _
  split
  · exact .refused _
  · next hpassword =>
    exact .goto .same trivial (.inr (by rw [Point.password, hpassword]; rfl)) (.inl rfl)

theorem ensureAdmin_lands (school : SchoolId) (username : Username) (password : Password) :
    Lands argon s call (.ensureAdmin school username password) s
      (ensureAdmin argon s w school username password) := by
  unfold ensureAdmin
  split
  · exact .refused _
  · exact .goto .same trivial (.inr rfl) (.inl rfl)

theorem createPerson_lands {origin : Origin} {password : Password} {hash : Hash}
    (h : createPerson s call w origin username password hash = (s', n)) :
    Lands argon s call (.createPerson origin username password hash) s' n := by
  unfold createPerson at h
  split at h
  · cases h
    exact .goto .same trivial (.inr rfl) (.inl rfl)
  next hfree =>
    split at h
    · cases h
      exact .refused _
    next hid =>
      cases h
      refine .goto (.person (Option.not_isSome_iff_eq_none.mp hid) ?_) trivial (.inr rfl) (.inl rfl)
      intro id row hrow hname
      exact hfree (Table.any_iff.mpr ⟨id, row, hrow, decide_eq_true hname⟩)

theorem loadPerson_lands (origin : Origin) (username : Username) (password : Password) :
    Lands argon s call (.loadPerson origin username password) s
      (loadPerson argon s origin username password) := by
  unfold loadPerson
  split
  · exact .refused _
  next person row hfound =>
    have hnamed : s.Named person username := personNamed_named hfound
    have hproven : argon.verify row.passwordHash password = true →
        s.Proven argon call person password := fun hverify =>
      ⟨row, (personNamed_eq_some hfound).1, .inr ⟨_, List.mem_cons_self, hverify⟩⟩
    split
    · split
      · next hverify => exact .goto .same ⟨hnamed, fun _ => hproven hverify⟩ (.inr rfl) (.inl rfl)
      · exact .answer .same _
    · split
      · next hverify => exact .goto .same ⟨hnamed, fun _ => hproven hverify⟩ (.inr rfl) (.inl rfl)
      · exact .refused _
    · split
      · next hverify => exact .goto .same ⟨hnamed, hproven hverify⟩ (.inr rfl) (.inl rfl)
      · exact .refused _
    · exact .goto .same ⟨hnamed, fun hchecks => by cases hchecks⟩ (.inr rfl) (.inl rfl)

theorem refusedRow_passes {joining : Joining} (h : s.Joins argon call joining) (e : Refusal) :
    ∀ q, refusedRow joining e = .goto q → q.Knows argon call s ∧
      q.stage = 0 ∧ (q.password = none ∨ q.password = some joining.password) := by
  intro q hq
  unfold refusedRow at hq
  split at hq
  · cases hq
    exact ⟨h, rfl, .inr rfl⟩
  · cases hq
    exact ⟨trivial, rfl, .inl rfl⟩
  · cases hq

theorem afterRow_passes {joining : Joining} (h : s.Joins argon call joining) :
    ∀ q, afterRow joining = .goto q → q.Knows argon call s ∧
      q.stage = 0 ∧ (q.password = none ∨ q.password = some joining.password) := by
  intro q hq
  unfold afterRow at hq
  split at hq
  · cases hq
  · cases hq
    exact ⟨h, rfl, .inr rfl⟩

theorem afterLink_passes {joining : Joining} (h : s.Joins argon call joining) :
    ∀ q, afterLink joining = .goto q → q.Knows argon call s ∧
      q.stage = 0 ∧ (q.password = none ∨ q.password = some joining.password) := by
  intro q hq
  unfold afterLink at hq
  split at hq
  · cases hq
  · cases hq
  · cases hq
    exact ⟨trivial, rfl, .inl rfl⟩
  · cases hq
    exact ⟨h, rfl, .inr rfl⟩

theorem createRow_lands {joining : Joining} (hknows : s.Joins argon call joining)
    (h : createRow s w joining = (s', n)) :
    Lands argon s call (.createRow joining) s' n := by
  unfold createRow at h
  split at h
  · cases h
    exact .joining .same (refusedRow_passes hknows _) rfl
  next db hdb =>
    split at h
    · cases h
      exact .joining .same (refusedRow_passes hknows _) rfl
    next hid =>
      split at h
      · cases h
        exact .joining .same (refusedRow_passes hknows _) rfl
      next hfree =>
        split at h
        · cases h
          exact .joining .same (refusedRow_passes hknows _) rfl
        split at h
        · cases h
          exact .joining .same (refusedRow_passes hknows _) rfl
        · cases h
          have hchange : Change s call (.createRow joining) _ :=
            .row hdb (Option.not_isSome_iff_eq_none.mp hid) fun id other hother hname =>
              hfree (Table.any_iff.mpr ⟨id, other, hother, decide_eq_true hname⟩)
          exact .joining hchange (afterRow_passes (hknows.grows hchange.grows)) rfl

theorem linkSchool_lands {joining : Joining} (hknows : s.Joins argon call joining) :
    Lands argon s call (.linkSchool joining) (linkSchool s joining).1 (linkSchool s joining).2 := by
  have hchange : Change s call (.linkSchool joining) (linkSchool s joining).1 := by
    unfold linkSchool
    split
    · exact .member
    · exact .same
  exact .joining hchange (afterLink_passes (hknows.grows hchange.grows)) rfl

theorem findAdmin_lands {joining : Joining} (hknows : s.Joins argon call joining) :
    Lands argon s call (.findAdmin joining) s (findAdmin s joining) := by
  unfold findAdmin
  split
  · exact .refused _
  split
  · exact .answer .same _
  · exact .goto .same hknows (.inr rfl) (.inl rfl)

theorem insertSchool_lands {password : Password} (hnamed : s.Named person username)
    (hproven : s.Proven argon call person password)
    (h : insertSchool s w person username password = (s', n)) :
    Lands argon s call (.insertSchool person username password) s' n := by
  unfold insertSchool at h
  split at h
  · cases h
    exact .refused _
  · cases h
    exact .goto .registry ⟨hnamed, fun _ => hproven⟩ (.inr rfl) (.inl rfl)

theorem createDatabase_lands {joining : Joining} (hknows : s.Joins argon call joining)
    (h : createDatabase s joining = some (s', n)) :
    Lands argon s call (.createDatabase joining) s' n := by
  unfold createDatabase at h
  split at h
  · cases h
  next hnew =>
    split at h
    · cases h
      exact .goto .same hknows (.inr rfl) (.inl rfl)
    · next hnone =>
      cases h
      have hchange : Change s call (.createDatabase joining) _ :=
        .database (Option.not_isSome_iff_eq_none.mp hnone) hnew
      exact .goto hchange (hknows.grows hchange.grows) (.inr rfl) (.inl rfl)

theorem login_lands (username password : String) :
    Lands argon s call p s (login argon s username password) := by
  unfold login
  split
  · exact .refused _
  split
  · exact .refused _
  next person row hfound =>
    split
    · exact .goto .same ⟨row, (personNamed_eq_some hfound).1, rfl⟩ (.inl rfl) (.inl rfl)
    · exact .refused _

theorem memberships_lands (version : ℕ) (hnamed : s.Named person username) :
    Lands argon s call p s (memberships s person username version) := by
  unfold memberships
  split
  · split
    · exact .refused _
    · exact .refused _
  · exact .goto .same hnamed (.inl rfl) (.inl rfl)
  · exact .goto .same trivial (.inl rfl) (.inl rfl)

theorem selectSchool_lands (cookie : Option Cookie) (school : Option SchoolId) :
    Lands argon s call p s (selectSchool s w cookie school) := by
  unfold selectSchool
  split
  · exact .goto .same trivial (.inl rfl) (.inl rfl)
  · exact .refused _

theorem membershipOf_lands (token : String) (session : PersonSession) (school : SchoolId) :
    Lands argon s call p s (membershipOf s token session school) := by
  unfold membershipOf
  split
  · exact .goto .same trivial (.inl rfl) (.inl rfl)
  · exact .refused _

theorem openSchool_lands
    (hknows : (Point.openSchool via school person version).Knows argon call s) :
    Lands argon s call p s (openSchool s via school person version) := by
  unfold openSchool
  split
  · exact .refused _
  split
  · exact .goto .same hknows (.inl rfl) (.inl rfl)
  · exact .goto .same trivial (.inl rfl) (.inl rfl)

theorem readPerson_lands (token : String) (school : SchoolId) (person : PersonId)
    (version : ℕ) : Lands argon s call p s (readPerson s token school person version) := by
  unfold readPerson
  split
  · exact .refused _
  · next row hrow => exact .goto .same ⟨row, hrow, rfl⟩ (.inl rfl) (.inl rfl)

theorem findUser_lands (hsound : s.Sound) (hnamed : s.Named person username) :
    Lands argon s call p s (findUser s via school person version username) := by
  unfold findUser
  split
  · exact .refused _
  next db hdb =>
    split
    · exact .refused _
    next user row hfound =>
      obtain ⟨hrow, hname⟩ := userNamed_eq_some hfound
      obtain ⟨other, hother, hcarried⟩ := (hsound.database school db hdb).rows user row hrow
      rw [Username.eq_of_text hname] at hcarried
      have hrows : s.Seated school user fun row => row.person = some person :=
        .inr ⟨db, row, hdb, hrow, hother.trans (congrArg some (hsound.named_eq hcarried hnamed))⟩
      split
      · exact .goto .same hrows (.inl rfl) (.inl rfl)
      · exact .goto .same hrows (.inl rfl) (.inl rfl)

theorem mint_lands (h : mint s w via school person version user = (s', n)) :
    Lands argon s call (.mint via school person version user) s' n := by
  unfold mint at h
  split at h
  · cases h
    exact .refused _
  next db hdb =>
    split at h
    · next hfree =>
      cases h
      rw [Bool.and_eq_true] at hfree
      obtain ⟨row, hrow⟩ := Option.isSome_iff_exists.mp hfree.1
      cases via with
      | login => exact .answer (.session hdb hrow) _
      | select => exact .goto (.session hdb hrow) trivial (.inl rfl) (.inl rfl)
    · cases h
      exact .refused _

theorem mintPerson_lands {schools : List SchoolId}
    (h : mintPerson s w person version schools = (s', n)) :
    Lands argon s call (.mintPerson person version schools) s' n := by
  unfold mintPerson at h
  split at h
  · cases h
    exact .refused _
  · cases h
    exact .answer .personSession _

theorem resetAdminPassword_lands (school : Option SchoolId) (username password : String) :
    Lands argon s call p s (resetAdminPassword s school username password) := by
  unfold resetAdminPassword
  split
  · exact .refused _
  split
  · exact .refused _
  · exact .goto .same trivial (.inl rfl) (.inl rfl)

theorem findAccount_lands (school : SchoolId) (username password : String) :
    Lands argon s call (.findAccount school username password) s
      (findAccount argon s w school username password) := by
  unfold findAccount
  split
  · exact .refused _
  next db hdb =>
    split
    · exact .refused _
    next user row hfound =>
      split
      · exact .refused _
      split
      · exact .refused _
      · exact .goto .same (.inr ⟨db, row, hdb, (userNamed_eq_some hfound).1, rfl⟩) (.inl rfl)
          (.inr rfl)

theorem revokeUser_lands {since : ℕ} :
    Lands argon s call (.revokeUser school user username since)
      (revokeUser s school user username since).1
      (revokeUser s school user username since).2 := by
  unfold revokeUser
  split
  · exact .goto .fewer trivial (.inl rfl) (.inr rfl)
  · exact .answer .fewer _

theorem findReset_lands (school : SchoolId) (user : UserId) (username : Username) (since : ℕ) :
    Lands argon s call (.findReset school user username since) s
      (findReset s school username since) := by
  unfold findReset
  split
  · exact .answer .same _
  · exact .goto .same trivial (.inl rfl) (.inr rfl)

theorem failed_lands (hknows : p.Knows argon call s) : Lands argon s call p s p.failed := by
  cases p with
  | createRow joining => exact .joining .same (refusedRow_passes hknows _) rfl
  | linkSchool =>
      simp only [Point.failed]
      split
      · exact .goto .same trivial (.inl rfl) (.inl rfl)
      · exact .refused _
  | createDatabase | activate | deleteSchool => exact .goto .same trivial (.inl rfl) (.inl rfl)
  | purgeExpired =>
      exact .goto .same hknows (.inl rfl) (.inl rfl)
  | _ => exact .refused _

theorem serve_lands (hsound : s.Sound) (hknows : p.Knows argon call s)
    (h : serve argon call s w p = some (s', n)) : Lands argon s call p s' n := by
  cases p with
  | createPerson => exact createPerson_lands (Option.some.inj h)
  | insertSchool => exact insertSchool_lands hknows.1 hknows.2 (Option.some.inj h)
  | createRow => exact createRow_lands hknows (Option.some.inj h)
  | register school username password =>
      cases h
      exact register_lands school username password
  | createUser school username password role number =>
      cases h
      exact createUser_lands school username password role number
  | createSchool username password =>
      cases h
      exact createSchool_lands username password
  | ensureAdmin school username password =>
      cases h
      exact ensureAdmin_lands school username password
  | loadPerson origin username password =>
      cases h
      exact loadPerson_lands origin username password
  | createDatabase =>
      exact createDatabase_lands hknows h
  | activate joining =>
      cases h
      have hchange : Change s call (.activate joining) (activate s joining).1 :=
        .registry
      exact .goto hchange (Db.Joins.grows hknows hchange.grows) (.inr rfl) (.inl rfl)
  | linkSchool =>
      cases h
      exact linkSchool_lands hknows
  | findAdmin =>
      cases h
      exact findAdmin_lands hknows
  | readSchool =>
      cases h
      unfold readSchool
      split
      · exact .refused _
      · exact .answer .same _
  | deleteSchool =>
      cases h
      exact .goto .registry trivial (.inl rfl) (.inl rfl)
  | dropLeftover =>
      cases h
      exact .answer .dropped _
  | dropDatabase =>
      cases h
      exact .goto .dropped trivial (.inl rfl) (.inl rfl)
  | dropRegistry =>
      cases h
      exact .answer .members _
  | login username password =>
      cases h
      exact login_lands username password
  | memberships person username version =>
      cases h
      exact memberships_lands version hknows
  | selectSchool cookie school =>
      cases h
      exact selectSchool_lands cookie school
  | membershipOf token session school =>
      cases h
      exact membershipOf_lands token session school
  | openSchool =>
      cases h
      exact openSchool_lands hknows
  | readPerson token school person version =>
      cases h
      exact readPerson_lands token school person version
  | findUser =>
      cases h
      exact findUser_lands hsound hknows
  | purgeExpired via school person version user =>
      cases h
      have hchange : Change s call (.purgeExpired via school person version user)
          (purgeExpired s w via school person version user).1 := .fewer
      exact .goto hchange (Db.Seated.grows hknows hchange.grows) (.inl rfl) (.inl rfl)
  | mint =>
      exact mint_lands (Option.some.inj h)
  | mintPerson =>
      exact mintPerson_lands (Option.some.inj h)
  | deleteSession =>
      cases h
      refine .answer (.fewerPersons ?_) _
      intro token' session hsession
      obtain ⟨-, hsession⟩ := erase_cases hsession
      exact hsession
  | resetAdminPassword school username password =>
      cases h
      exact resetAdminPassword_lands school username password
  | findAccount school username password =>
      cases h
      exact findAccount_lands school username password
  | setHash school user username hash =>
      cases h
      have hchange : Change s call (.setHash school user username hash)
          (s.setPasswordHash username hash) := .rehash
      exact .goto hchange (Db.Seated.grows hknows hchange.grows) (.inl rfl) (.inr rfl)
  | revokeUser =>
      cases h
      exact revokeUser_lands
  | findReset school user username since =>
      cases h
      exact findReset_lands school user username since
  | revokePerson =>
      cases h
      refine .answer (.fewerPersons ?_) _
      intro token session hsession
      rw [lookup_deleteWhere] at hsession
      exact (Option.filter_eq_some_iff.mp hsession).1

theorem next_lands (hsound : s.Sound) (hknows : p.Knows argon call s)
    (hnext : (machine argon).next call s p w = some (s', n)) : Lands argon s call p s' n := by
  change next argon call s p w = some (s', n) at hnext
  unfold next at hnext
  split at hnext
  · cases hnext
    exact failed_lands hknows
  · exact serve_lands hsound hknows hnext

theorem sound_relyGuarantee (argon : Argon Hash)
    (guard : Config (Db Hash) (Point Hash) → Move Request World → Prop) :
    (machine argon).RelyGuarantee guard Db.Sound fun call p s => p.Knows argon call s where
  entry call request s _ := by cases request <;> trivial
  own hc _ hp hnext :=
    have hlands := next_lands hc.shared (hc.calls _ _ hp) hnext
    ⟨hlands.change.sound hc.shared (hc.calls _ _ hp), hlands.knows⟩
  others hc _ hp hnext id' q _ hq :=
    (hc.calls id' q hq).grows (next_lands hc.shared (hc.calls _ _ hp) hnext).change.grows
  rollback hc _ := ⟨hc.shared, fun id' q _ hq => hc.calls id' q hq⟩

end Lands

end Hezarfen.Accounts
