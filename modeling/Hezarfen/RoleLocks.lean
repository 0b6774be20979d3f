import Hezarfen.SchoolSteps

/-!
# The row locks of a role change

A role change holds the row of its target from the role write to the commit, and
rows it has locked are written by nobody else.  What one call holds, the steps of
the others leave alone.
-/

namespace Hezarfen.School

open Interleaving

/-! ## Lock tables -/

theorem lookup_lockAll (s : Db) (id : ℕ) (keys : List RowKey) (key : RowKey) :
    (s.lockAll id keys).locks.lookup key =
      if key ∈ keys then some id else s.locks.lookup key := by
  have hfold : ∀ (keys : List RowKey) (locks : Table RowKey ℕ),
      (keys.foldl (fun locks key => locks.insert key id) locks).lookup key =
        if key ∈ keys then some id else locks.lookup key := by
    intro keys
    induction keys with
    | nil => simp
    | cons first rest ih =>
        intro locks
        rw [List.foldl_cons, ih, lookup_insert_eq]
        by_cases hrest : key ∈ rest
        · simp [hrest]
        · by_cases hfirst : key = first <;> simp [hrest, hfirst]
  exact hfold keys s.locks

theorem lookup_releaseLocks (s : Db) (id holder : ℕ) (key : RowKey) :
    (s.releaseLocks id).locks.lookup key = some holder ↔
      s.locks.lookup key = some holder ∧ holder ≠ id := by
  simp [Db.releaseLocks, Option.filter_eq_some_iff]

variable {id : ℕ} {s : Db}

/-- A free row is held by nobody else. -/
theorem free_iff {key : RowKey} :
    s.free id key = true ↔ ∀ holder, s.locks.lookup key = some holder → holder = id := by
  unfold Db.free
  cases s.locks.lookup key <;> simp

/-- The rows that `holder` holds are still its own. -/
def KeepsLocks (holder : ℕ) (s s' : Db) : Prop :=
  ∀ key, s.locks.lookup key = some holder → s'.locks.lookup key = some holder

variable {holder : ℕ}

theorem KeepsLocks.of_eq {s' : Db} (h : s'.locks = s.locks) :
    KeepsLocks holder s s' := by
  intro key hkey
  rw [h]
  exact hkey

theorem keepsLocks_lockAll
    {keys : List RowKey}
    (hfree : ∀ key ∈ keys, s.free id key = true) : KeepsLocks holder s (s.lockAll id keys) := by
  intro key hkey
  rw [lookup_lockAll]
  split
  · next hmem => rw [free_iff.mp (hfree key hmem) holder hkey]
  · exact hkey

theorem keepsLocks_lock
    {key : RowKey} (hfree : s.free id key = true) :
    KeepsLocks holder s (s.lock id key) := by
  intro other hother
  rw [Db.lock, lookup_insert_eq]
  split
  · next heq =>
    subst heq
    rw [free_iff.mp hfree holder hother]
  · exact hother

theorem keepsLocks_releaseLocks
    (hne : holder ≠ id) : KeepsLocks holder s (s.releaseLocks id) :=
  fun _ hkey => (lookup_releaseLocks s id holder _).mpr ⟨hkey, hne⟩

section Steps

variable {s' : Db} {w : World} {n : Reply} {p q : Point}

theorem RoleGoto.keepsLocks
    {point point' : RolePoint} (h : RoleGoto id s w point s' point') :
    KeepsLocks holder s s' := by
  cases h with
  | held hfree hheld =>
      apply keepsLocks_lockAll
      intro key hkey
      obtain ⟨admin, hadmin, rfl⟩ := List.mem_map.mp hkey
      rw [hheld] at hadmin
      exact hfree admin (List.mem_filter.mp hadmin).1
  | write hfree => exact keepsLocks_lock hfree
  | homerooms hfree =>
      apply keepsLocks_lockAll
      intro key hkey
      obtain ⟨classId, hclass, rfl⟩ := List.mem_map.mp hkey
      exact hfree classId hclass
  | bookings hfree =>
      apply keepsLocks_lockAll
      intro key hkey
      obtain ⟨booking, hbooking, rfl⟩ := List.mem_map.mp hkey
      exact hfree booking hbooking
  | _ => exact .of_eq rfl

theorem nextRole_answer
    {point : RolePoint} {value : Except Refusal Answer}
    (h : nextRole id s w point = some (s', .answer value)) :
    s'.locks = s.locks ∨ s'.locks = (s.releaseLocks id).locks := by
  cases point with
  | lockAdmins =>
      simp only [nextRole, roleLockAdmins] at h
      split at h
      · split at h <;> cases h
        exact .inr rfl
      · cases h
  | write =>
      simp only [nextRole, roleWrite] at h
      split at h
      · split at h
        · cases h
          exact .inr rfl
        · split at h <;> cases h
          exact .inr rfl
      · cases h
  | homerooms =>
      simp only [nextRole, roleHomerooms] at h
      split at h <;> cases h
  | bookings =>
      simp only [nextRole, roleBookings] at h
      split at h <;> cases h
  | commit job floor sweep =>
      cases h
      cases sweep <;> exact .inr rfl
  | _ =>
      simp only [nextRole, Option.some.injEq, Prod.mk.injEq] at h
      exact .inl (by rw [h.1])

/-- No step takes a row from another call. -/
theorem next_keepsLocks
    (h : next id s p w = some (s', n)) (hne : holder ≠ id) : KeepsLocks holder s s' := by
  cases p with
  | createUser =>
      simp only [next, createUser, Option.some.injEq] at h
      split at h <;> cases h <;> exact .of_eq rfl
  | role =>
      cases n with
      | goto =>
          obtain ⟨point', -, hgoto⟩ := nextRole_goto h
          exact hgoto.keepsLocks
      | answer =>
          rcases nextRole_answer h with hsame | hreleased
          · exact .of_eq hsame
          · intro key hkey
            rw [hreleased]
            exact keepsLocks_releaseLocks hne key hkey
  | calendar => exact .of_eq (nextCalendar_only h).locks
  | roster => exact .of_eq (nextRoster_only h).locks

/-- A call that goes on keeps its rows. -/
theorem goto_keepsLocks
    (h : next id s p w = some (s', .goto q)) : KeepsLocks id s s' := by
  obtain ⟨point, point', rfl, rfl, hgoto⟩ | ⟨point, point', rfl, -, -⟩ |
    ⟨point, point', rfl, -⟩ := next_goto h
  · exact hgoto.keepsLocks
  · exact .of_eq (nextCalendar_only h).locks
  · exact .of_eq (nextRoster_only h).locks

/-- How a step can change the roles. -/
theorem next_appUser
    (h : next id s p w = some (s', n)) :
    s'.appUser = s.appUser ∨
      (∃ user, s.appUser.lookup user = none ∧ s'.appUser = s.appUser.insert user .student) ∨
      ∃ job floor sweep, p = .role (.commit job floor sweep) ∧
        s'.appUser = s.appUser.insert job.target job.role := by
  cases p with
  | createUser user =>
      simp only [next, createUser, Option.some.injEq] at h
      split at h
      · cases h
        exact .inl rfl
      · next hnone =>
        cases h
        exact .inr (.inl ⟨user, hnone, rfl⟩)
  | role =>
      rcases (nextRole_keeps h).2 with ⟨job, floor, sweep, rfl⟩ | ⟨hsame, -, -⟩
      · refine .inr (.inr ⟨job, floor, sweep, rfl, ?_⟩)
        cases h
        cases sweep <;> rfl
      · exact .inl hsame
  | calendar => exact .inl (nextCalendar_only h).appUser
  | roster => exact .inl (nextRoster_only h).appUser

end Steps

def Point.written : Point → Option (RoleJob × Floor)
  | .role (.staff job floor) => some (job, floor)
  | .role (.homerooms job floor _) => some (job, floor)
  | .role (.bookings job floor _ _) => some (job, floor)
  | .role (.commit job floor _) => some (job, floor)
  | _ => none

@[simp]
theorem written_afterWrite (job : RoleJob) (floor : Floor) :
    (Point.role (job.afterWrite floor)).written = some (job, floor) := by
  unfold RoleJob.afterWrite
  split <;> rfl

def HoldsTarget (id : ℕ) (p : Point) (s : Db) : Prop :=
  ∀ job floor, p.written = some (job, floor) → s.locks.lookup (.user job.target) = some id

theorem written_goto
    {s' : Db} {w : World} {p q : Point} (h : next id s p w = some (s', .goto q))
    {job : RoleJob} {floor : Floor} (hq : q.written = some (job, floor)) :
    p.written = some (job, floor) ∨
      ∃ others role, p = .role (.write job floor others) ∧ s' = s.lock id (.user job.target) ∧
        s.free id (.user job.target) = true ∧ s.appUser.lookup job.target = some role ∧
        ¬(role = .admin ∧ job.role ≠ .admin ∧ others = 0) := by
  obtain ⟨point, point', rfl, rfl, hgoto⟩ | ⟨point, point', -, rfl, -⟩ |
    ⟨point, point', -, rfl⟩ := next_goto h
  · cases hgoto with
    | @write job' floor' others role hfree hrow hkeeps =>
        rw [written_afterWrite] at hq
        cases hq
        exact .inr ⟨others, role, rfl, rfl, hfree, hrow, hkeeps⟩
    | staff | homerooms | bookings => exact .inl hq
    | _ => cases hq
  · cases hq
  · cases hq

theorem target_relyGuarantee :
    machine.RelyGuarantee (fun _ _ => True) (fun _ => True) HoldsTarget where
  entry := by
    intro id request s _ job floor hwritten
    cases request <;> cases hwritten
  own := by
    intro c id w p s n hc _ hp hnext
    refine ⟨trivial, ?_⟩
    rintro q rfl job floor hwritten
    rcases written_goto hnext hwritten with hbefore | ⟨others, role, -, rfl, -⟩
    · exact goto_keepsLocks hnext _ (hc.calls id p hp job floor hbefore)
    · simp [Db.lock]
  others := by
    intro c id w p s n hc _ hp hnext id' q hne hq job floor hwritten
    exact next_keepsLocks hnext hne _ (hc.calls id' q hq job floor hwritten)
  rollback := by
    intro c id p hc hp
    refine ⟨trivial, ?_⟩
    intro id' q hne hq job floor hwritten
    exact keepsLocks_releaseLocks hne _ (hc.calls id' q hq job floor hwritten)

theorem next_role_of_locked
    {c : Config Db Point} (hc : c.Holds (fun _ => True) HoldsTarget) {w : World}
    {p : Point} {n : Reply} (hp : c.calls.lookup id = some p)
    (hnext : next id c.shared p w = some (s, n)) (hne : holder ≠ id) {user : UserId}
    (hlock : c.shared.locks.lookup (.user user) = some holder) {role : Role}
    (hrow : c.shared.appUser.lookup user = some role) : s.appUser.lookup user = some role := by
  rcases next_appUser hnext with hsame | ⟨created, hnone, hcreated⟩ |
    ⟨job, floor, sweep, rfl, hwritten⟩
  · rw [hsame, hrow]
  · rw [hcreated, lookup_insert_eq]
    split
    · next heq =>
      subst heq
      rw [hnone] at hrow
      cases hrow
    · exact hrow
  · rw [hwritten, lookup_insert_eq]
    split
    · next heq =>
      subst heq
      have hheld := hc.calls id _ hp job floor rfl
      rw [hlock] at hheld
      exact absurd (Option.some.inj hheld) hne
    · exact hrow

end Hezarfen.School
