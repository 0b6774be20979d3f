import Hezarfen.EnrollmentSteps

/-!
# A hand enroll that succeeded stands

In every run that the guard admits, a pair that was enrolled by hand, and neither unenrolled
nor of an account whose role moved since, has its row, and the row is no section's.
-/

namespace Hezarfen.Enrollments

open Interleaving ReadCommitted
open School (Role ClassGroupId CourseId ClassCourseId ClassGroup Course Enrollment)

variable {enrolledBy user : UserId} {createdAt : Timestamp} {joining : Joining}
  {attaching : Attaching} {pumping : Pumping} {rest : List Pair} {leaving : Leaving} {role : Role}
  {p : Point}

section Steps

variable {s s' : Db} {tx : ℕ} {n : Reply} {w : World}

/-! ## The hand enroll and unenroll -/

variable {pair : Pair}

theorem step_ensureStudent
    (hholds : (Point.ensureStudent pair enrolledBy).Holds tx s) :
    Lands tx s s (ensureStudent tx s pair enrolledBy) := by
  unfold ensureStudent
  split
  · exact lands_answers hholds rfl fun _ hk => by cases hk
  · split
    · exact lands_answers hholds rfl fun _ hk => by cases hk
    · exact lands_reads hholds rfl rfl trivial

theorem step_readForUser (hholds : (Point.readForUser pair enrolledBy).Holds tx s) :
    Lands tx s s (readForUser tx s w pair enrolledBy) := by
  unfold readForUser
  split
  · next existing hseen =>
    split
    · next hsource =>
      exact lands_answers hholds rfl
        (stands_of_seen (hholds.idle rfl) hseen (Option.isNone_iff_eq_none.mp hsource))
    · exact lands_reads hholds rfl rfl trivial
  · exact lands_reads hholds rfl rfl trivial

theorem step_disown {existing : Enrollment}
    (hholds : (Point.disown pair existing).Holds tx s)
    (hsettled : s.settled (.disown pair existing) = true)
    (h : disown tx s pair existing = some (s', n)) : Lands tx s s' n := by
  have hidle := hholds.idle rfl
  obtain ⟨rows, halter, hout⟩ | ⟨row, rows, halter, hout⟩ := Rows.onRow_cases h
  · -- the row is there
    have hnone := (Row.seen_eq_committed (hidle pair)).symm.trans (Rows.alter_cases halter).1
    simp [Db.settled, hnone] at hsettled
  · obtain ⟨-, ⟨hnone, -⟩ | ⟨row', hrow, hfree, hrows⟩⟩ := Rows.alter_cases halter
    · cases hnone
    · cases hrow
      cases hout
      subst hrows
      exact lands_places hidle hfree rfl

theorem step_heldGate (hholds : (Point.heldGate pair enrolledBy createdAt).Holds tx s)
    (h : heldGate tx s pair enrolledBy createdAt = (s', n)) : Lands tx s s' n := by
  unfold heldGate at h
  split at h
  · cases h
    exact lands_leaves hholds rfl rfl trivial
  · cases h
    exact lands_reads hholds rfl rfl trivial

theorem step_lockStudent
    (hholds : (Point.lockStudent pair enrolledBy createdAt).Holds tx s)
    (h : lockStudent tx s pair enrolledBy createdAt = some (s', n)) : Lands tx s s' n := by
  obtain ⟨rows, -, hout⟩ | ⟨role, rows, -, hout⟩ := Rows.onRow_cases h
  · cases hout
    exact lands_ends hholds rfl rfl rfl
  · split at hout
    · cases hout
      exact lands_ends hholds rfl rfl rfl
    · cases hout
      exact lands_reads hholds rfl rfl trivial

theorem step_claimSeat
    (hholds : (Point.claimSeat pair enrolledBy createdAt).Holds tx s)
    (h : claimSeat tx s pair enrolledBy createdAt = some (s', n)) : Lands tx s s' n := by
  obtain ⟨rows, -, hout⟩ | ⟨row, rows, -, hout⟩ := Rows.onRow_cases h
  · cases hout
    exact lands_reads hholds rfl rfl trivial
  · cases hout
    exact lands_reads hholds rfl rfl trivial

theorem step_insertRow
    (hholds : (Point.insertRow pair enrolledBy createdAt).Holds tx s)
    (h : insertRow tx s pair enrolledBy createdAt = some (s', n)) : Lands tx s s' n := by
  simp only [insertRow] at h
  split at h
  · next hfree =>
    split at h
    · cases h
      exact lands_undo rfl (fun q hq => by cases hq; trivial) rfl
    · cases h
      exact lands_places (hholds.idle rfl) hfree rfl
  · cases h

theorem step_readNowHeld (hholds : (Point.readNowHeld pair).Holds tx s)
    (h : readNowHeld tx s pair = (s', n)) : Lands tx s s' n := by
  unfold readNowHeld at h
  split at h
  · cases h
    exact lands_leaves hholds rfl rfl trivial
  · cases h
    exact lands_refuses rfl rfl

theorem step_readHeld (hholds : (Point.readHeld pair).Holds tx s)
    (hsettled : s.settled (.readHeld pair) = true) : Lands tx s s (readHeld tx s pair) := by
  unfold readHeld
  split
  · next existing hseen =>
    have hcommitted := (Row.seen_eq_committed (hholds.idle rfl pair)).symm.trans hseen
    refine lands_answers hholds rfl (stands_of_seen (hholds.idle rfl) hseen ?_)
    simpa [Db.settled, hcommitted] using hsettled
  · exact lands_answers hholds rfl fun _ hk => by cases hk

theorem step_deleteRow (hholds : (Point.deleteRow pair).Holds tx s)
    (h : deleteRow tx s pair = some (s', n)) : Lands tx s s' n := by
  obtain ⟨rows, -, hout⟩ | ⟨row, rows, halter, hout⟩ := Rows.onRow_cases h
  · cases hout
    exact lands_owes hholds rfl (fun _ _ => id) rfl trivial
  · cases hout
    exact lands_deletes hholds halter rfl (fun _ _ => ⟨rfl, rfl⟩)
      (fun _ _ h => False.elim h) trivial

theorem step_returnSeat {gone : Bool}
    (hholds : (Point.returnSeat pair gone).Holds tx s)
    (h : returnSeat tx s pair gone = some (s', n)) : Lands tx s s' n := by
  obtain ⟨r, -, hout⟩ := Option.map_eq_some_iff.mp h
  cases gone with
  | true =>
      cases hout
      refine lands_commit hholds rfl (fun k row hdrop _ => .inl ?_) (fun q hq => by cases hq) rfl
      rw [hdrop.2]
      exact List.mem_singleton_self _
  | false =>
      cases hout
      exact lands_commit hholds rfl (fun k row hdrop _ => absurd hdrop.1 Bool.false_ne_true)
        (fun q hq => by cases hq) rfl

/-! ## A member joins, a course is attached -/

theorem step_memberGate (hholds : (Point.memberGate joining).Holds tx s)
    (h : memberGate tx s joining = (s', n)) : Lands tx s s' n := by
  unfold memberGate at h
  split at h
  · cases h
    exact lands_reads hholds rfl rfl trivial
  · cases h
    exact lands_ends hholds rfl rfl rfl

theorem step_lockMember (hholds : (Point.lockMember joining).Holds tx s)
    (h : lockMember tx s joining = some (s', n)) : Lands tx s s' n := by
  obtain ⟨rows, -, hout⟩ | ⟨role, rows, -, hout⟩ := Rows.onRow_cases h
  · cases hout
    exact lands_ends hholds rfl rfl rfl
  · split at hout
    · cases hout
      exact lands_ends hholds rfl rfl rfl
    · cases hout
      exact lands_reads hholds rfl rfl trivial

theorem step_memberOverload (hholds : (Point.memberOverload joining).Holds tx s)
    (h : memberOverload tx s joining = (s', n)) : Lands tx s s' n := by
  unfold memberOverload at h
  split at h
  · cases h
    exact lands_ends hholds rfl rfl rfl
  · cases h
    exact lands_reads hholds rfl rfl trivial

theorem step_insertMember (hholds : (Point.insertMember joining).Holds tx s)
    (h : insertMember tx s w joining = some (s', n)) : Lands tx s s' n := by
  simp only [insertMember] at h
  split at h
  · cases h
  · obtain ⟨rows, -, hout⟩ | ⟨row, rows, -, hout⟩ := Rows.onRow_cases h
    · cases hout
      exact lands_reads hholds rfl rfl trivial
    · split at hout
      · cases hout
        exact lands_reads hholds rfl rfl trivial
      · cases hout
        exact lands_refuses rfl rfl

theorem step_courseGate (hholds : (Point.courseGate attaching).Holds tx s)
    (h : courseGate tx s attaching = (s', n)) : Lands tx s s' n := by
  unfold courseGate at h
  split at h
  · cases h
    exact lands_ends hholds rfl rfl rfl
  · cases h
    exact lands_reads hholds rfl rfl trivial

theorem step_readKind (hholds : (Point.readKind attaching).Holds tx s)
    (h : readKind tx s attaching = (s', n)) : Lands tx s s' n := by
  unfold readKind at h
  split at h
  · cases h
    exact lands_ends hholds rfl rfl rfl
  · cases h
    exact lands_reads hholds rfl rfl trivial

theorem step_courseOverload {kind : School.CourseKind}
    (hholds : (Point.courseOverload attaching kind).Holds tx s)
    (h : courseOverload tx s attaching kind = (s', n)) : Lands tx s s' n := by
  unfold courseOverload at h
  split at h
  · cases h
    exact lands_ends hholds rfl rfl rfl
  · split at h
    · cases h
      exact lands_reads hholds rfl rfl trivial
    · cases h
      exact lands_refuses rfl rfl

theorem step_readGrade (hholds : (Point.readGrade attaching).Holds tx s)
    (h : readGrade tx s attaching = (s', n)) : Lands tx s s' n := by
  unfold readGrade at h
  split at h
  · cases h
    exact lands_reads hholds rfl rfl trivial
  · cases h
    exact lands_ends hholds rfl rfl rfl

theorem step_insertCourse (hholds : (Point.insertCourse attaching).Holds tx s)
    (h : insertCourse tx s w attaching = some (s', n)) : Lands tx s s' n := by
  simp only [insertCourse] at h
  split at h
  · cases h
  · obtain ⟨rows, -, hout⟩ | ⟨row, rows, -, hout⟩ := Rows.onRow_cases h
    · cases hout
      exact lands_reads hholds rfl rfl trivial
    · split at hout
      · cases hout
        exact lands_refuses rfl rfl
      · cases hout
        exact lands_reads hholds rfl rfl trivial

theorem step_countSection {course : CourseId} {instance_ : ClassCourseId}
    (hholds : (Point.countSection pumping course instance_).Holds tx s)
    (h : countSection tx s pumping course instance_ = some (s', n)) : Lands tx s s' n := by
  obtain ⟨r, -, hout⟩ := Option.map_eq_some_iff.mp h
  cases hout
  exact lands_reads hholds rfl rfl trivial

theorem step_pumpGate {pairs : List Pair} (hholds : (Point.pumpGate pumping pairs).Holds tx s)
    (h : pumpGate tx s pumping pairs = (s', n)) : Lands tx s s' n := by
  cases pairs with
  | nil =>
      cases h
      refine lands_commit hholds rfl (fun k row hdrop => absurd hdrop not_false)
        (fun q hq => by cases hq) ?_
      cases pumping.link <;> simp [marksOf, Db.pumped]
  | cons =>
      simp only [pumpGate] at h
      split at h
      · cases h
        exact lands_owes hholds rfl (fun _ _ => id) rfl trivial
      · cases h
        exact lands_owes hholds rfl (fun _ _ => id) rfl trivial

theorem step_pumpClaim (hholds : (Point.pumpClaim pumping pair rest).Holds tx s)
    (h : pumpClaim tx s pumping pair rest = some (s', n)) : Lands tx s s' n := by
  obtain ⟨rows, -, hout⟩ | ⟨row, rows, -, hout⟩ := Rows.onRow_cases h
  · cases hout
    refine lands_refuses rfl ?_
    cases pumping.link <;> simp [marksOf]
  · cases hout
    exact lands_owes hholds rfl (fun _ _ => id) rfl trivial

theorem step_pumpInsert (hholds : (Point.pumpInsert pumping pair rest).Holds tx s)
    (h : pumpInsert tx s pumping pair rest = some (s', n)) : Lands tx s s' n := by
  simp only [pumpInsert] at h
  split at h
  · next hfree =>
    split at h
    · cases h
      exact lands_owes hholds rfl (fun _ _ => id) rfl trivial
    · next hnone =>
      cases h
      have hseen : (s.enrollment.row pair).seen tx = none := by
        simpa using hnone
      exact lands_pumps hholds hfree hseen (fun _ _ => id) rfl trivial
  · cases h

theorem step_pumpGiveBack (hholds : (Point.pumpGiveBack pumping pair rest).Holds tx s)
    (h : pumpGiveBack tx s pumping pair rest = some (s', n)) : Lands tx s s' n := by
  obtain ⟨r, -, hout⟩ := Option.map_eq_some_iff.mp h
  cases hout
  exact lands_owes hholds rfl (fun _ _ => id) rfl trivial

theorem step_lockLeaver (hholds : (Point.lockLeaver leaving).Holds tx s)
    (h : lockLeaver tx s leaving = some (s', n)) : Lands tx s s' n := by
  obtain ⟨r, -, hout⟩ := Option.map_eq_some_iff.mp h
  cases hout
  exact lands_reads hholds rfl rfl trivial

theorem step_endStint (hholds : (Point.endStint leaving).Holds tx s)
    (h : endStint tx s w leaving = some (s', n)) : Lands tx s s' n := by
  unfold endStint at h
  split at h
  · cases h
    exact lands_ends hholds rfl rfl rfl
  · obtain ⟨rows, -, hout⟩ | ⟨row, rows, -, hout⟩ := Rows.onRow_cases h
    · cases hout
      exact lands_ends hholds rfl rfl rfl
    · cases hout
      exact lands_reads hholds rfl rfl trivial

theorem step_releaseMember (hholds : (Point.releaseMember leaving).Holds tx s)
    (h : releaseMember tx s leaving = some (s', n)) : Lands tx s s' n := by
  obtain ⟨r, -, hout⟩ := Option.map_eq_some_iff.mp h
  cases hout
  exact lands_reads hholds rfl rfl trivial

theorem step_deletePumped (hholds : (Point.deletePumped leaving rest).Holds tx s)
    (hsettled : s.settled (.deletePumped leaving rest) = true)
    (h : deletePumped tx s leaving rest = some (s', n)) : Lands tx s s' n := by
  cases rest with
  | nil =>
      cases h
      exact lands_commit hholds rfl (fun k row hdrop hsource => absurd hsource hdrop)
        (fun q hq => by cases hq) rfl
  | cons =>
      obtain ⟨rows, -, hout⟩ | ⟨row, rows, halter, hout⟩ := Rows.onRow_cases h
      · cases hout
        exact lands_goes hholds rfl (fun h => by cases h) (fun _ _ hdrop => hdrop) trivial
      · cases hout
        refine lands_deletes hholds halter rfl (fun row' hrow => ?_) (fun _ _ hdrop => hdrop)
          trivial
        have hsource : row'.source.isSome = true := by
          simpa [Db.settled, hrow] using hsettled
        exact Option.isSome_iff_ne_none.mp hsource

theorem step_returnPumped (hholds : (Point.returnPumped leaving pair rest).Holds tx s)
    (h : returnPumped tx s leaving pair rest = some (s', n)) : Lands tx s s' n := by
  obtain ⟨r, -, hout⟩ := Option.map_eq_some_iff.mp h
  cases hout
  exact lands_goes hholds rfl (fun h => by cases h) (fun _ _ hdrop => hdrop) trivial

theorem step_readRole (hholds : (Point.readRole user role).Holds tx s) :
    Lands tx s s (readRole tx s user role) := by
  unfold readRole
  split
  · exact lands_reads hholds rfl rfl trivial
  · exact lands_reads hholds rfl rfl trivial

theorem step_lockAdmins {rest : List UserId} {locked : ℕ}
    (hholds : (Point.lockAdmins user role rest locked).Holds tx s)
    (h : lockAdmins tx s user role locked rest = some (s', n)) : Lands tx s s' n := by
  cases rest with
  | nil =>
      simp only [lockAdmins] at h
      split at h
      · cases h
        exact lands_refuses rfl rfl
      · cases h
        exact lands_reads hholds rfl rfl trivial
  | cons =>
      obtain ⟨r, -, hout⟩ := Option.map_eq_some_iff.mp h
      cases hout
      exact lands_reads hholds rfl rfl trivial

theorem step_writeRole (hholds : (Point.writeRole user role).Holds tx s)
    (h : writeRole tx s user role = some (s', n)) : Lands tx s s' n := by
  simp only [writeRole] at h
  obtain ⟨rows, -, hout⟩ | ⟨old, rows, -, hout⟩ := Rows.onRow_cases h
  · cases hout
    exact lands_refuses rfl rfl
  · split at hout
    · cases hout
      exact lands_ends hholds rfl rfl rfl
    · cases hout
      exact lands_reads hholds rfl rfl trivial

theorem step_endStints {rest : List School.ClassMemberId} {gone : List ClassGroupId}
    (hholds : (Point.endStints user rest gone).Holds tx s)
    (h : endStints tx s w user gone rest = some (s', n)) : Lands tx s s' n := by
  cases rest with
  | nil =>
      cases h
      exact lands_reads hholds rfl rfl trivial
  | cons =>
      obtain ⟨rows, -, hout⟩ | ⟨row, rows, -, hout⟩ := Rows.onRow_cases h
      · cases hout
        exact lands_reads hholds rfl rfl trivial
      · cases hout
        exact lands_reads hholds rfl rfl trivial

theorem step_releaseStints {gone : List ClassGroupId}
    (hholds : (Point.releaseStints user gone).Holds tx s)
    (h : releaseStints tx s user gone = some (s', n)) : Lands tx s s' n := by
  cases gone with
  | nil =>
      cases h
      exact lands_reads hholds rfl rfl trivial
  | cons =>
      obtain ⟨r, -, hout⟩ := Option.map_eq_some_iff.mp h
      cases hout
      exact lands_reads hholds rfl rfl trivial

theorem mem_rowsOf (h : pair ∈ s.rowsOf tx user) :
    pair.2 = user := by
  obtain ⟨row, -, huser⟩ := Rows.mem_visible_keys.mp h
  exact of_decide_eq_true huser

theorem step_deleteRows {gone : List ClassCourseId}
    (hholds : (Point.deleteRows user rest gone).Holds tx s)
    (h : deleteRows tx s user gone rest = some (s', n)) : Lands tx s s' n := by
  cases rest with
  | nil =>
      cases h
      exact lands_goes hholds rfl (fun h => by cases h) (fun _ _ hdrop => hdrop) trivial
  | cons pair rest =>
      have hrest : ∀ pair' ∈ rest, pair'.2 = user :=
        fun pair' hmem => hholds.knows pair' (List.mem_cons_of_mem _ hmem)
      obtain ⟨rows, -, hout⟩ | ⟨row, rows, halter, hout⟩ := Rows.onRow_cases h
      · cases hout
        exact lands_goes hholds rfl (fun h => by cases h) (fun _ _ hdrop => hdrop) hrest
      · cases hout
        exact lands_deletes hholds halter rfl (fun _ _ => hholds.knows pair List.mem_cons_self)
          (fun _ _ hdrop => hdrop) hrest

theorem step_returnSeats {gone : List ClassCourseId}
    (hholds : (Point.returnSeats user gone).Holds tx s)
    (h : returnSeats tx s user gone = some (s', n)) : Lands tx s s' n := by
  cases gone with
  | nil =>
      cases h
      refine lands_commit hholds rfl (fun k row hdrop _ => .inr ?_) (fun q hq => by cases hq) rfl
      have huser : k.2 = user := hdrop
      rw [huser]
      exact List.mem_singleton_self _
  | cons =>
      obtain ⟨r, -, hout⟩ := Option.map_eq_some_iff.mp h
      cases hout
      exact lands_goes hholds rfl (fun h => by cases h) (fun _ _ hdrop => hdrop) trivial

/-! ## Any step -/

theorem step_lands (hsettled : s.settled p = true) (hholds : p.Holds tx s)
    (h : next tx s p w = some (s', n)) : Lands tx s s' n := by
  cases p with
  | ensureStudent =>
      cases h
      exact step_ensureStudent hholds
  | readForUser =>
      cases h
      exact step_readForUser hholds
  | disown => exact step_disown hholds hsettled h
  | heldGate => exact step_heldGate hholds (Option.some.inj h)
  | lockStudent => exact step_lockStudent hholds h
  | claimSeat => exact step_claimSeat hholds h
  | insertRow => exact step_insertRow hholds h
  | readNowHeld => exact step_readNowHeld hholds (Option.some.inj h)
  | readHeld =>
      cases h
      exact step_readHeld hholds hsettled
  | deleteRow => exact step_deleteRow hholds h
  | returnSeat => exact step_returnSeat hholds h
  | memberGate => exact step_memberGate hholds (Option.some.inj h)
  | lockMember => exact step_lockMember hholds h
  | memberOverload => exact step_memberOverload hholds (Option.some.inj h)
  | insertMember => exact step_insertMember hholds h
  | memberRefused | courseRefused =>
      cases h
      exact lands_ends hholds rfl rfl rfl
  | listInstances | listMembers | findPumped | findAdmins | findStints =>
      cases h
      exact lands_reads hholds rfl rfl trivial
  | courseGate => exact step_courseGate hholds (Option.some.inj h)
  | readKind => exact step_readKind hholds (Option.some.inj h)
  | courseOverload => exact step_courseOverload hholds (Option.some.inj h)
  | readGrade => exact step_readGrade hholds (Option.some.inj h)
  | insertCourse => exact step_insertCourse hholds h
  | countSection => exact step_countSection hholds h
  | pumpGate => exact step_pumpGate hholds (Option.some.inj h)
  | pumpClaim => exact step_pumpClaim hholds h
  | pumpInsert => exact step_pumpInsert hholds h
  | pumpGiveBack => exact step_pumpGiveBack hholds h
  | lockLeaver => exact step_lockLeaver hholds h
  | endStint => exact step_endStint hholds h
  | releaseMember => exact step_releaseMember hholds h
  | deletePumped => exact step_deletePumped hholds hsettled h
  | returnPumped => exact step_returnPumped hholds h
  | readRole =>
      cases h
      exact step_readRole hholds
  | lockAdmins => exact step_lockAdmins hholds h
  | writeRole => exact step_writeRole hholds h
  | endStints => exact step_endStints hholds h
  | releaseStints => exact step_releaseStints hholds h
  | findRows =>
      cases h
      exact lands_reads hholds rfl rfl fun pair hpair => mem_rowsOf hpair
  | deleteRows => exact step_deleteRows hholds h
  | returnSeats => exact step_returnSeats hholds h

theorem next_apart (hholds : p.Holds tx s) (h : next tx s p w = some (s', n)) :
    s.enrollment.Apart tx s'.enrollment := by
  cases hsettled : s.settled p with
  | true => exact (step_lands hsettled hholds h).apart
  | false =>
      cases p with
      | readHeld =>
          cases h
          exact .refl tx _
      | disown =>
          obtain ⟨rows, -, hout⟩ | ⟨row, rows, halter, hout⟩ := Rows.onRow_cases h
          · cases hout
            exact .refl tx _
          · cases hout
            exact (Rows.Apart.alter halter).trans (.commit tx _)
      | deletePumped leaving rest =>
          cases rest with
          | nil => cases hsettled
          | cons =>
              obtain ⟨rows, -, hout⟩ | ⟨row, rows, halter, hout⟩ := Rows.onRow_cases h
              · cases hout
                exact .refl tx _
              · cases hout
                exact .alter halter
      | _ => cases hsettled

/-- The rows of a transaction are its own. -/
theorem holds_apart {tx' : ℕ} (hne : tx' ≠ tx) (hapart : s.enrollment.Apart tx s'.enrollment)
    (hholds : p.Holds tx' s) :
    p.Holds tx' s' where
  idle hwrites := hapart.idle tx' hne (hholds.idle hwrites)
  rows k row hrow := by
    by_cases hheld : (s.enrollment.row k).Held tx'
    · rw [hapart.held tx' hne k hheld] at hrow ⊢
      exact hholds.rows k row hrow
    · exact .inl ((Row.seen_eq_committed (hapart.unheld tx' hne k hheld)).trans hrow)
  knows := hholds.knows

end Steps

abbrev guard : Config Db Point → Move Request World → Prop :=
  Config.Admits fun c p => c.shared.settled p

theorem transactional :
    machine.Transactional guard (fun _ => True) (fun tx p s => p.Holds tx s)
      (fun tx s => s.enrollment.Idle tx) fun tx s s' => s.enrollment.Apart tx s'.enrollment where
  entry := by
    intro tx s request _ hidle
    refine holds_of_idle hidle ?_
    cases request <;> trivial
  own := by
    intro c tx w p s n hguard hp hnext _ hholds
    have hlands := step_lands (Config.Admits.check hguard hp) hholds hnext
    exact ⟨trivial, hlands.goes, hlands.ends⟩
  next_apart := fun hnext _ hholds => next_apart hholds hnext
  rollback := fun {tx s} _ => ⟨trivial, Rows.idle_rollback tx s.enrollment, .rollback tx _⟩
  stable := fun hne hapart _ _ hholds => holds_apart hne hapart hholds
  idle := fun {tx tx' s s'} hne hapart hidle => hapart.idle tx' hne hidle

/-- What is answered along a run. -/
def marks (c : Config Db Point) : Move Request World → List Mark
  | .advance id w =>
      (c.calls.lookup id).elim [] fun p => (next id c.shared p w).elim [] fun out => marksOf out.2
  | _ => []

def HandPlaced (log : List Mark) (pair : Pair) : Prop :=
  ∃ before after, log = before ++ .enrolled pair :: after ∧
    Mark.unenrolled pair ∉ after ∧ Mark.changed pair.2 ∉ after

theorem not_handPlaced_nil (pair : Pair) : ¬ HandPlaced [] pair := by
  intro h
  obtain ⟨before, after, hlog, -⟩ := h
  simp at hlog

theorem HandPlaced.of_append {log marked : List Mark} {pair : Pair}
    (h : HandPlaced (log ++ marked) pair) :
    .enrolled pair ∈ marked ∨
      HandPlaced log pair ∧ .unenrolled pair ∉ marked ∧ .changed pair.2 ∉ marked := by
  obtain ⟨before, after, hlog, hunenrolled, hchanged⟩ := h
  obtain ⟨mid, hbefore, hmarked⟩ | ⟨mid, hlog', hafter⟩ := List.append_eq_append_iff.mp hlog
  · refine .inl ?_
    rw [hmarked]
    exact List.mem_append_right _ List.mem_cons_self
  · cases mid with
    | nil =>
        refine .inl ?_
        rw [List.nil_append] at hafter
        rw [← hafter]
        exact List.mem_cons_self
    | cons first mid =>
        obtain ⟨rfl, rfl⟩ := List.cons_eq_cons.mp hafter
        have hmem : ∀ m, m ∉ mid ++ marked → m ∉ mid ∧ m ∉ marked :=
          fun m hm => ⟨fun h => hm (List.mem_append_left _ h),
            fun h => hm (List.mem_append_right _ h)⟩
        exact .inr ⟨⟨before, mid, hlog', (hmem _ hunenrolled).1, (hmem _ hchanged).1⟩,
          (hmem _ hunenrolled).2, (hmem _ hchanged).2⟩

theorem placed_step {c c' : Config Db Point} {m : Move Request World} {log : List Mark}
    (hruns : c.Runs (fun _ => True) (fun tx p s => p.Holds tx s)
      fun tx s => s.enrollment.Idle tx)
    (hplaced : ∀ pair, HandPlaced log pair → c.shared.placed pair) (hguard : guard c m)
    (hstep : machine.step c m = some c') :
    ∀ pair, HandPlaced (log ++ marks c m) pair → c'.shared.placed pair := by
  intro pair hhand
  obtain ⟨request, rfl, rfl⟩ | ⟨tx, w, p, s, n, rfl, hp, hnext, rfl⟩ | ⟨tx, p, rfl, -, rfl⟩ :=
    Machine.step_cases hstep
  · simp only [marks, List.append_nil] at hhand
    exact hplaced pair hhand
  · have hmove : next tx c.shared p w = some (s, n) := hnext
    have hlands := step_lands (Config.Admits.check hguard hp) (hruns.calls tx p hp) hmove
    simp only [marks, hp, Option.elim, hmove] at hhand
    rw [Config.shared_after]
    rcases hhand.of_append with hmarked | ⟨hold, hunenrolled, hchanged⟩
    · exact hlands.stands pair hmarked
    · rcases hlands.keeps pair (hplaced pair hold) with hkept | hmark | hmark
      · exact hkept
      · exact absurd hmark hunenrolled
      · exact absurd hmark hchanged
  · simp only [marks, List.append_nil] at hhand
    exact placed_of_same (Rows.committed_rollback tx c.shared.enrollment) (hplaced pair hhand)

theorem start_runs (users : List (UserId × Role)) (classes : List (ClassGroupId × ClassGroup))
    (courses : List (CourseId × Course)) :
    (start users classes courses).Runs (fun _ => True) (fun tx p s => p.Holds tx s)
      fun tx s => s.enrollment.Idle tx := by
  refine Config.initial_runs trivial fun tx k hheld => ?_
  obtain ⟨own, hown⟩ := hheld
  cases hown

/-- A hand enroll that succeeded stands until an unenroll or a role change. -/
theorem hand_enrollments_stand {users : List (UserId × Role)}
    {classes : List (ClassGroupId × ClassGroup)} {courses : List (CourseId × Course)}
    {c : Config Db Point} {ms : List (Move Request World)}
    (hguard : machine.Guarded guard (start users classes courses) ms)
    (hrun : machine.run (start users classes courses) ms = some c) {pair : Pair}
    (hhand : HandPlaced (machine.observe marks (start users classes courses) ms) pair) :
    ∃ row, (c.shared.enrollment.row pair).committed = some row ∧ row.source = none := by
  have hJ := Machine.observe_induction (f := marks)
    (J := fun c log => c.Runs (fun _ => True) (fun tx p s => p.Holds tx s)
        (fun tx s => s.enrollment.Idle tx) ∧
      ∀ pair, HandPlaced log pair → c.shared.placed pair)
    (fun hJ hguard hstep =>
      ⟨transactional.runs_step hJ.1 hguard hstep, placed_step hJ.1 hJ.2 hguard hstep⟩)
    ⟨start_runs users classes courses, fun pair h => absurd h (not_handPlaced_nil pair)⟩
    hguard hrun
  exact hJ.2 pair hhand

namespace Sample

def pupil : UserId := ⟨.ending "0001"⟩

def manager : UserId := ⟨.ending "0002"⟩

def section_ : ClassGroupId := ⟨.ending "000a"⟩

def maths : CourseId := ⟨.ending "000b"⟩

def uuid : Uuid := .ending "000e"

def pair : Pair := (⟨uuid⟩, pupil)

def school : Config Db Point :=
  start [(pupil, .student), (manager, .manager)] [(section_, ⟨none, 0, 0⟩)]
    [(maths, ⟨.course, 0⟩)]

def advances (id n : ℕ) : List (Move Request World) :=
  List.replicate n (.advance id ⟨0, uuid⟩)

end Sample

open Sample in
def overtaken : List (Move Request World) :=
  .start (.attachCourse section_ maths manager) :: advances 0 8 ++
  .start (.enroll pair manager) :: advances 1 3 ++
  .start (.addMember section_ pupil manager none) :: advances 2 9 ++ advances 1 4 ++
  .start (.dropMember section_ pupil true) :: advances 3 7

/-- A hand enroll that met the row late has left it to the section. -/
theorem late_hand_enroll_is_lost :
    ∃ c, machine.run Sample.school overtaken = some c ∧
      HandPlaced (machine.observe marks Sample.school overtaken) Sample.pair ∧
      (c.shared.enrollment.row Sample.pair).committed = none := by
  have hends : (machine.run Sample.school overtaken).any (fun c =>
      (c.shared.enrollment.row Sample.pair).committed.isNone) = true := by
    decide
  have hlog : machine.observe marks Sample.school overtaken = [.enrolled Sample.pair] := by
    decide
  obtain ⟨c, hrun, hnone⟩ := (Option.any_eq_true _ _).mp hends
  refine ⟨c, hrun, ⟨[], [], hlog, ?_, ?_⟩, Option.isNone_iff_eq_none.mp hnone⟩
  · exact List.not_mem_nil
  · exact List.not_mem_nil

open Sample in
/-- The hand enroll takes the row off the section before the member leaves. -/
def disowned : List (Move Request World) :=
  .start (.attachCourse section_ maths manager) :: advances 0 8 ++
  .start (.addMember section_ pupil manager none) :: advances 1 9 ++
  .start (.enroll pair manager) :: advances 2 3 ++
  .start (.dropMember section_ pupil true) :: advances 3 5

theorem hand_enrollments_stand_disowned :
    ∃ c row, machine.run Sample.school disowned = some c ∧
      (c.shared.enrollment.row Sample.pair).committed = some row ∧ row.source = none := by
  have hends : (machine.run Sample.school disowned).any (fun _ => true) = true := by
    decide
  have hguard : machine.Guarded guard Sample.school disowned := by
    decide
  have hlog : machine.observe marks Sample.school disowned = [.enrolled Sample.pair] := by
    decide
  obtain ⟨c, hrun, -⟩ := (Option.any_eq_true _ _).mp hends
  have hhand : HandPlaced (machine.observe marks Sample.school disowned) Sample.pair :=
    ⟨[], [], hlog, List.not_mem_nil, List.not_mem_nil⟩
  obtain ⟨row, hrow, hsource⟩ := hand_enrollments_stand hguard hrun hhand
  exact ⟨c, row, hrun, hrow, hsource⟩

end Hezarfen.Enrollments
