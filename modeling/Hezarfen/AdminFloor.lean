import Hezarfen.RoleLocks

/-!
# The last administrator

A demotion locks the administrators it counts, so that of two that demote each
other one is refused.  Whether it locks them at all is decided by an unlocked read
of its target, and the role write compares a count of its own snapshot.  A target
promoted in between slips through both.
-/

namespace Hezarfen.School

open Interleaving

def Db.HasAdmin (s : Db) : Prop := ∃ user, s.appUser.lookup user = some .admin

/-- What entitles a call at `floor` to its role write. -/
def HoldsFloor (id : ℕ) (s : Db) (job : RoleJob) : Floor → Prop
  | .promotion => job.role = .admin
  | .notAdmin => True
  | .held admins =>
      admins.Nodup ∧ 1 < admins.length ∧
        ∀ admin ∈ admins, s.appUser.lookup admin = some .admin ∧
          s.locks.lookup (.user admin) = some id

theorem HoldsFloor.keeps
    {id : ℕ} {s s' : Db} {job : RoleJob} {floor : Floor} (h : HoldsFloor id s job floor)
    (hlocks : KeepsLocks id s s')
    (hroles : ∀ user, s.locks.lookup (.user user) = some id →
      s.appUser.lookup user = some .admin → s'.appUser.lookup user = some .admin) :
    HoldsFloor id s' job floor := by
  cases floor with
  | promotion => exact h
  | notAdmin => trivial
  | held =>
      refine ⟨h.1, h.2.1, ?_⟩
      intro admin hadmin
      obtain ⟨hrole, hlock⟩ := h.2.2 admin hadmin
      exact ⟨hroles admin hlock hrole, hlocks _ hlock⟩

theorem exists_other {admins : List UserId} (hnodup : admins.Nodup) (htwo : 1 < admins.length)
    (target : UserId) : ∃ admin ∈ admins, admin ≠ target := by
  match admins, hnodup, htwo with
  | first :: second :: rest, hnodup, _ =>
      by_cases hfirst : first = target
      · refine ⟨second, by simp, ?_⟩
        rintro rfl
        rw [hfirst] at hnodup
        simp at hnodup
      · exact ⟨first, by simp, hfirst⟩

/-- The role change that has its floor. -/
def Point.floored : Point → Option (RoleJob × Floor)
  | .role (.count job floor) => some (job, floor)
  | .role (.write job floor _) => some (job, floor)
  | p => p.written

structure KnowsAdmins (id : ℕ) (p : Point) (s : Db) : Prop where
  listed : ∀ job admins, p = .role (.lockAdmins job admins) → admins.Nodup
  floored : ∀ job floor, p.floored = some (job, floor) → HoldsFloor id s job floor
  target : ∀ job, p.written = some (job, .notAdmin) →
    ∃ role, s.appUser.lookup job.target = some role ∧ role ≠ .admin

def targetKnown (c : Config Db Point) : Point → Bool
  | .role (.write job .notAdmin _) => c.shared.appUser.lookup job.target ≠ some .admin
  | _ => true

section Steps

variable {id : ℕ} {s s' : Db} {w : World} {n : Reply} {p q : Point}

variable {floor : Floor} {job : RoleJob}

theorem floored_of_written
    (h : p.written = some (job, floor)) : p.floored = some (job, floor) := by
  cases p with
  | role point => cases point <;> first | exact h | cases h
  | _ => exact h

theorem floored_goto
    (h : next id s p w = some (s', .goto q))
    (hq : q.floored = some (job, floor)) :
    p.floored = some (job, floor) ∨ (floor = .promotion ∧ job.role = .admin) ∨
      floor = .notAdmin ∨
      ∃ admins held, p = .role (.lockAdmins job admins) ∧ floor = .held held ∧
        held = (admins.filter fun admin => s.appUser.lookup admin = some .admin) ∧
        1 < held.length ∧ s' = s.lockAll id (held.map .user) := by
  obtain ⟨point, point', rfl, rfl, hgoto⟩ | ⟨point, point', -, rfl, -⟩ |
    ⟨point, point', -, rfl⟩ := next_goto h
  · cases hgoto with
    | promote =>
        cases hq
        exact .inr (.inl ⟨rfl, rfl⟩)
    | notAdmin =>
        cases hq
        exact .inr (.inr (.inl rfl))
    | @held job' admins held hfree hheld htwo =>
        cases hq
        exact .inr (.inr (.inr ⟨admins, held, rfl, rfl, hheld, htwo, rfl⟩))
    | count | staff | homerooms | bookings => exact .inl hq
    | @write job' floor' others role hfree hrow hkeeps =>
        have hwritten := floored_of_written (written_afterWrite job' floor')
        rw [hwritten] at hq
        exact .inl hq
    | _ => cases hq
  · cases hq
  · cases hq

theorem adminIds_nodup (s : Db) : s.adminIds.Nodup := by
  unfold Db.adminIds
  have hkeys : (s.appUser.entries.map Sigma.fst).Nodup := s.appUser.nodupKeys
  exact (List.filter_sublist.map Sigma.fst).nodup hkeys

theorem listed_goto
    (h : next id s p w = some (s', .goto q)) {admins : List UserId}
    (hq : q = .role (.lockAdmins job admins)) : admins.Nodup := by
  subst hq
  obtain ⟨point, point', -, hpoint, hgoto⟩ | ⟨point, point', -, hpoint, -⟩ |
    ⟨point, point', -, hpoint⟩ := next_goto h
  · cases hpoint
    generalize hpoint' : RolePoint.lockAdmins job admins = point' at hgoto
    cases hgoto with
    | admins =>
        cases hpoint'
        exact adminIds_nodup s
    | write =>
        unfold RoleJob.afterWrite at hpoint'
        split at hpoint' <;> cases hpoint'
    | _ => cases hpoint'
  · cases hpoint
  · cases hpoint

/-- A call that goes on has changed no role. -/
theorem goto_appUser (h : next id s p w = some (s', .goto q)) : s'.appUser = s.appUser := by
  rcases next_appUser h with hsame | ⟨user, hnone, hcreated⟩ | ⟨job, floor, sweep, rfl, hwritten⟩
  · exact hsame
  · obtain ⟨point, point', rfl, -, -⟩ | ⟨point, point', rfl, -, -⟩ | ⟨point, point', rfl, -⟩ :=
      next_goto h
    · rcases (nextRole_keeps h).2 with ⟨job, floor, sweep, rfl⟩ | ⟨hsame, -, -⟩
      · simp [next, nextRole] at h
      · exact hsame
    · exact (nextCalendar_only h).appUser
    · exact (nextRoster_only h).appUser
  · simp [next, nextRole] at h

theorem hasAdmin_commit
    {users : Table UserId Role}
    (hadmin : s.HasAdmin) (hfloor : HoldsFloor id s job floor)
    (htarget : floor = .notAdmin →
      ∃ role, s.appUser.lookup job.target = some role ∧ role ≠ .admin)
    (husers : users = s.appUser.insert job.target job.role) :
    ∃ user, users.lookup user = some .admin := by
  have hother : ∀ user, user ≠ job.target → s.appUser.lookup user = some .admin →
      ∃ user, users.lookup user = some .admin := by
    intro user hne hrow
    refine ⟨user, ?_⟩
    rw [husers, lookup_insert_eq, if_neg hne, hrow]
  cases floor with
  | promotion =>
      refine ⟨job.target, ?_⟩
      rw [husers, lookup_insert_eq, if_pos rfl, hfloor]
  | notAdmin =>
      obtain ⟨user, hrow⟩ := hadmin
      obtain ⟨role, htarget, hrole⟩ := htarget rfl
      apply hother user _ hrow
      rintro rfl
      rw [htarget] at hrow
      exact hrole (Option.some.inj hrow)
  | held =>
      obtain ⟨admin, hmem, hne⟩ := exists_other hfloor.1 hfloor.2.1 job.target
      exact hother admin hne (hfloor.2.2 admin hmem).1

end Steps

theorem admins_relyGuarantee :
    machine.RelyGuarantee
      (fun c m => c.Admits targetKnown m ∧ c.Holds (fun _ => True) HoldsTarget)
      Db.HasAdmin KnowsAdmins where
  entry := by
    intro id request s _
    constructor
    · intro job admins h
      cases request <;> cases h
    · intro job floor h
      cases request <;> cases h
    · intro job h
      cases request <;> cases h
  own := by
    intro c id w p s n hc hguard hp hnext
    have hknows := hc.calls id p hp
    constructor
    · rcases next_appUser hnext with hsame | ⟨user, hnone, hcreated⟩ |
        ⟨job, floor, sweep, rfl, hwritten⟩
      · obtain ⟨user, hrow⟩ := hc.shared
        exact ⟨user, by rw [hsame, hrow]⟩
      · obtain ⟨admin, hrow⟩ := hc.shared
        refine ⟨admin, ?_⟩
        rw [hcreated, lookup_insert_eq]
        split
        · next heq =>
          subst heq
          rw [hnone] at hrow
          cases hrow
        · exact hrow
      · apply hasAdmin_commit hc.shared (hknows.floored job floor rfl) _ hwritten
        rintro rfl
        exact hknows.target job rfl
    · rintro q rfl
      constructor
      · exact fun job admins hq => listed_goto hnext hq
      · intro job floor hq
        rcases floored_goto hnext hq with hbefore | ⟨rfl, hrole⟩ | rfl |
          ⟨admins, held, rfl, rfl, hheld, htwo, rfl⟩
        · apply (hknows.floored job floor hbefore).keeps (goto_keepsLocks hnext)
          intro user _ hrow
          rw [goto_appUser hnext, hrow]
        · exact hrole
        · trivial
        · have hnodup := hknows.listed job admins rfl
          refine ⟨by rw [hheld]; exact hnodup.filter _, htwo, ?_⟩
          intro admin hadmin
          constructor
          · rw [hheld] at hadmin
            exact of_decide_eq_true (List.mem_filter.mp hadmin).2
          · rw [lookup_lockAll, if_pos (List.mem_map_of_mem hadmin)]
      · intro job hq
        rcases written_goto hnext hq with hbefore | ⟨others, role, rfl, rfl, -, hrow, -⟩
        · obtain ⟨role, hrow, hrole⟩ := hknows.target job hbefore
          exact ⟨role, by rw [goto_appUser hnext, hrow], hrole⟩
        · refine ⟨role, hrow, ?_⟩
          rintro rfl
          have hknown := hguard.1.check hp
          simp [targetKnown, hrow] at hknown
  others := by
    intro c id w p s n hc hguard hp hnext id' q hne hq
    have hknows := hc.calls id' q hq
    have hroles : ∀ {user role}, c.shared.locks.lookup (.user user) = some id' →
        c.shared.appUser.lookup user = some role → s.appUser.lookup user = some role :=
      fun hlock hrow => next_role_of_locked hguard.2 hp hnext hne hlock hrow
    constructor
    · exact hknows.listed
    · intro job floor hfloored
      exact (hknows.floored job floor hfloored).keeps (next_keepsLocks hnext hne)
        fun user hlock hrow => hroles hlock hrow
    · intro job hwritten
      obtain ⟨role, hrow, hrole⟩ := hknows.target job hwritten
      have hlock := hguard.2.calls id' q hq job .notAdmin hwritten
      exact ⟨role, hroles hlock hrow, hrole⟩
  rollback := by
    intro c id p hc hp
    refine ⟨hc.shared, ?_⟩
    intro id' q hne hq
    have hknows := hc.calls id' q hq
    exact ⟨hknows.listed,
      fun job floor hfloored => (hknows.floored job floor hfloored).keeps
        (keepsLocks_releaseLocks hne) fun user _ hrow => hrow,
      hknows.target⟩

theorem nextRole_refused
    {id : ℕ} {s s' : Db} {w : World} {point : RolePoint} {n : Reply}
    (h : nextRole id s w point = some (s', n)) (hn : ∀ role, n ≠ ok (.role role)) :
    s'.appUser = s.appUser ∧ s'.calendar = s.calendar ∧ s'.roster = s.roster := by
  rcases (nextRole_keeps h).2 with ⟨job, floor, sweep, rfl⟩ | hsame
  · cases h
    exact absurd rfl (hn job.role)
  · exact hsame

/-- From every database with an administrator, in every run whose demotions find at the role
write what they read of their target, an administrator remains; and of a role change that
is refused no step writes a row. -/
theorem admin_remains
    {s : Db} (hadmin : s.HasAdmin) {ms : List (Move Request World)} {c : Config Db Point}
    (hguard : machine.Guarded (fun c m => c.Admits targetKnown m) (.initial s) ms)
    (hrun : machine.run (.initial s) ms = some c) :
    c.shared.HasAdmin ∧
      ∀ call point w s' n, c.calls.lookup call = some (.role point) →
        machine.next call c.shared (.role point) w = some (s', n) →
        (∀ role, n ≠ ok (.role role)) →
        s'.appUser = c.shared.appUser ∧ s'.calendar = c.shared.calendar ∧
          s'.roster = c.shared.roster := by
  have htargets := Machine.Guarded.invariant
    (fun hc hg hstep => target_relyGuarantee.holds_step hc hg hstep)
    (Config.initial_holds HoldsTarget (s := s) trivial) (Machine.guarded_true _ ms)
  have hholds := admins_relyGuarantee.holds_run (Config.initial_holds _ hadmin)
    (hguard.and htargets) hrun
  refine ⟨hholds.shared, ?_⟩
  intro call point w s' n _ hnext hn
  exact nextRole_refused hnext hn

section Runs

open Sample

def demoteDeputy : List (Move Request World) :=
  .start (.setRole headmaster deputy "student") :: List.replicate 11 (tick 0)

theorem admin_remains_demoteDeputy :
    ∃ c, machine.run (start accounts) demoteDeputy = some c ∧
      c.shared.appUser.lookup deputy = some .student ∧ c.shared.HasAdmin ∧
      ∀ call point w s' n, c.calls.lookup call = some (.role point) →
        machine.next call c.shared (.role point) w = some (s', n) →
        (∀ role, n ≠ ok (.role role)) →
        s'.appUser = c.shared.appUser ∧ s'.calendar = c.shared.calendar ∧
          s'.roster = c.shared.roster := by
  have hguard : machine.Guarded (fun c m => c.Admits targetKnown m) (start accounts)
      demoteDeputy := by decide
  have hadmin : (Db.ofUsers accounts).HasAdmin := ⟨headmaster, by decide⟩
  have hend : (machine.run (start accounts) demoteDeputy).any
      (fun c => c.shared.appUser.lookup deputy = some .student) = true := by decide
  obtain ⟨c, hrun, hdeputy⟩ := (Option.any_eq_true _ _).mp hend
  obtain ⟨hremains, hrefused⟩ := admin_remains hadmin hguard hrun
  exact ⟨c, hrun, of_decide_eq_true hdeputy, hremains, hrefused⟩

def oneAdmin : Table UserId Role :=
  ((∅ : Table UserId Role).insert headmaster .admin).insert ayse .teacher

/-- Call 0 demotes Ayşe and reads that she is a teacher; call 1 makes her an administrator;
call 2, hers, demotes the headmaster and holds both rows; call 0 counts the administrators on
its snapshot and waits for her row; call 2 commits, and call 0 goes on. -/
def crossedDemotions : List (Move Request World) :=
  .start (.setRole headmaster ayse "student") :: List.replicate 3 (tick 0) ++
    .start (.setRole headmaster ayse "admin") :: List.replicate 5 (tick 1) ++
    .start (.setRole ayse headmaster "student") :: List.replicate 10 (tick 2) ++
    [tick 0, tick 2] ++ List.replicate 5 (tick 0)

theorem admins_vanish :
    ¬ ∀ (s : Db) (ms : List (Move Request World)) (c : Config Db Point), s.HasAdmin →
      machine.run (.initial s) ms = some c → c.shared.HasAdmin := by
  intro h
  have hadmin : (Db.ofUsers oneAdmin).HasAdmin := ⟨headmaster, by decide⟩
  have hend : (machine.run (start oneAdmin) crossedDemotions).any
      (fun c => c.shared.adminIds = []) = true := by decide
  obtain ⟨c, hrun, hnone⟩ := (Option.any_eq_true _ _).mp hend
  obtain ⟨user, hrow⟩ := h _ _ c hadmin hrun
  have hmem : user ∈ c.shared.adminIds := by
    have hentry := mem_entries_iff_lookup.mpr hrow
    exact List.mem_map.mpr ⟨_, List.mem_filter.mpr ⟨hentry, by simp⟩, rfl⟩
  rw [of_decide_eq_true hnone] at hmem
  cases hmem

end Runs

end Hezarfen.School
