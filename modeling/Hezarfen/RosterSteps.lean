import Hezarfen.SchoolSteps

/-!
# What a step of the school can do to the class tables

`RosterWrote` lists what a step can have written to the six class tables, with
everything it checked in the same step and where a call goes that has just written
a staffing row or a homeroom reference.
-/

namespace Hezarfen.School

open Interleaving

variable {role : Option Role} {pumping : Pumping} {user : UserId} {source : Option ClassGroupId}
  {course : CourseId} {classId : ClassGroupId}

namespace Roster

variable {r r' : Roster}

/-! ## The pure operations when they write -/

theorem addMember_made
    {id : ClassMemberId} {member : ClassMember}
    (h : r.addMember role id pumping user source = (.made member, r')) :
    ∃ row, r.isLiveMember pumping.classId user = false ∧ role = some .student ∧
      r.classGroup.lookup pumping.classId = some row ∧
      row.classCourseCount ≤ maxClassCourses ∧ row.classMemberCount < maxClassMembers ∧
      member = ⟨pumping.classId, user, pumping.by_, pumping.now, none, source⟩ ∧
      enrollPairs pumping
        { r with
          classGroup := r.classGroup.insert pumping.classId
            { row with classMemberCount := row.classMemberCount + 1 }
          classMember := r.classMember.insert id member }
        ((r.listForClass pumping.classId).map fun instance_ => (instance_, user)) = .ok r' := by
  unfold addMember at h
  split at h
  · cases h
  · next hlive =>
    split at h
    · cases h
    · next hrole =>
      split at h
      · cases h
      · next hcourses =>
        split at h
        · cases h
        · next row hrow =>
          split at h
          · next hroom =>
            simp only at h
            split at h
            · cases h
            · next hpump =>
              cases h
              refine ⟨row, by simpa using hlive, by simpa using hrole, hrow, ?_,
                hroom, rfl, hpump⟩
              simpa [hrow] using hcourses
          · cases h

/-- An addition that was refused commits nothing. -/
theorem addMember_refused
    {id : ClassMemberId} {verdict : Attached ClassMember}
    (h : r.addMember role id pumping user source = (verdict, r'))
    (hrefused : ∀ member, verdict ≠ .made member) : r' = r := by
  unfold addMember at h
  split at h
  · cases h
    rfl
  · split at h
    · cases h
      rfl
    · split at h
      · cases h
        rfl
      · split at h
        · cases h
          rfl
        · split at h
          · simp only at h
            split at h
            · cases h
              rfl
            · cases h
              exact absurd rfl (hrefused _)
          · cases h
            rfl

/-- An attach that went through. -/
theorem attachCourse_made
    {id : ClassCourseId} {link : ClassCourse}
    (h : r.attachCourse id pumping course = .ok (.made link, r')) :
    ∃ row taught,
      (∀ other old, r.classCourse.lookup other = some old →
        ¬(old.classId = pumping.classId ∧ old.course = course)) ∧
      r.course.lookup course = some taught ∧ taught.kind.isClassDelivered = true ∧
      r.classGroup.lookup pumping.classId = some row ∧
      row.classMemberCount ≤ maxClassMembers ∧ row.classCourseCount < maxClassCourses ∧
      enrollPairs pumping
        { r with
          classGroup := r.classGroup.insert pumping.classId
            { row with classCourseCount := row.classCourseCount + 1 }
          course := r.course.insert course
            { taught with classCourseCount := taught.classCourseCount + 1 }
          classCourse := r.classCourse.insert id
            ⟨pumping.classId, course, pumping.by_, pumping.now, 0⟩ }
        ((r.liveMembers pumping.classId).map fun user => (id, user)) = .ok r' := by
  unfold attachCourse at h
  split at h
  · cases h
  · next hnew =>
    split at h
    · cases h
    · next taught htaught =>
      split at h
      · cases h
      · next hmembers =>
        split at h
        · cases h
        · next hkind =>
          split at h
          · cases h
          · next row hrow =>
            split at h
            · next hroom =>
              simp only at h
              split at h
              · cases h
              · next hpump =>
                cases h
                refine ⟨row, taught, ?_, htaught, by simpa using hkind, hrow, ?_,
                  hroom, hpump⟩
                · intro other old hold hsame
                  apply hnew
                  rw [Table.any_iff]
                  exact ⟨other, old, hold, by simp [hsame.1, hsame.2]⟩
                · simpa [hrow] using hmembers
            · cases h

theorem attachCourse_refused
    {id : ClassCourseId} {verdict : Attached ClassCourse}
    (h : r.attachCourse id pumping course = .ok (verdict, r'))
    (hrefused : ∀ link, verdict ≠ .made link) : r' = r := by
  unfold attachCourse at h
  split at h
  · cases h
    rfl
  · split at h
    · cases h
      rfl
    · split at h
      · cases h
        rfl
      · split at h
        · cases h
        · split at h
          · cases h
            rfl
          · split at h
            · simp only at h
              split at h
              · cases h
                rfl
              · cases h
                exact absurd rfl (hrefused _)
            · cases h
              rfl

theorem enrollTx_made
    {pair : ClassCourseId × UserId} {row made : Enrollment}
    (h : r.enrollTx role pair row = .ok (.made made, r')) :
    ∃ instance_, r.enrollment.lookup pair = none ∧ role = some .student ∧
      r.classCourse.lookup pair.1 = some instance_ ∧
      r' = { r with
        classCourse := r.classCourse.insert pair.1
          { instance_ with enrollmentCount := instance_.enrollmentCount + 1 }
        enrollment := r.enrollment.insert pair row } := by
  unfold enrollTx at h
  split at h
  · cases h
  · next hnone =>
    split at h
    · cases h
    · next hrole =>
      split at h
      · cases h
      · next instance_ hinstance =>
        cases h
        exact ⟨instance_, by simpa using hnone, by simpa using hrole, hinstance, rfl⟩

theorem dropMember_false
    {soft : Bool} {now : Timestamp} (h : r.dropMember classId user soft now = (false, r')) :
    r' = r := by
  unfold dropMember at h
  split at h <;> cases h
  rfl

theorem detachCourse_false
    (h : r.detachCourse classId course = (false, r')) : r' = r := by
  unfold detachCourse at h
  split at h <;> cases h
  rfl

theorem detachCourse_true
    (h : r.detachCourse classId course = (true, r')) :
    ∃ instance_ row, r.classCourse.lookup instance_ = some row ∧ row.classId = classId ∧
      row.course = course ∧
      r' = (({ r.sweepInstance instance_ with
        classCourse := (r.sweepInstance instance_).classCourse.erase instance_ } :
          Roster).releaseCourse classId).releaseSection course := by
  unfold detachCourse at h
  split at h
  · cases h
  · next instance_ hfound =>
    cases h
    unfold instanceOf at hfound
    simp only [Option.map_eq_some_iff] at hfound
    obtain ⟨⟨key, row⟩, hfind, rfl⟩ := hfound
    have hentry := mem_entries_iff_lookup.mp (List.mem_of_find?_eq_some hfind)
    have hmatch := List.find?_some hfind
    simp only [Bool.and_eq_true, decide_eq_true_eq] at hmatch
    exact ⟨key, row, hentry, hmatch.1, hmatch.2, rfl⟩

theorem deleteClass_true
    (h : r.deleteClass classId = .ok (true, r')) :
    ∃ row, r.classGroup.lookup classId = some row ∧ row.classMemberCount = 0 ∧
      row.classCourseCount = 0 ∧
      r' = { r with
        classMember :=
          Table.update (Table.deleteWhere r.classMember fun _ row => row.classId = classId)
            fun _ row =>
              if row.sourceClassGroup = some classId then { row with sourceClassGroup := none }
              else row
        enrollment := Table.update r.enrollment fun _ row =>
          if row.source = some classId then { row with source := none } else row
        classGroup := r.classGroup.erase classId } := by
  unfold deleteClass at h
  split at h
  · cases h
  · next row hrow =>
    split at h
    · cases h
    · next hempty =>
      cases h
      simp only [not_or, not_not] at hempty
      exact ⟨row, hrow, hempty.1, hempty.2, rfl⟩

theorem dropMember_true
    {soft : Bool} {now : Timestamp} (h : r.dropMember classId user soft now = (true, r')) :
    r.isLiveMember classId user = true ∧
      ∃ ended : Roster,
        ended = { r with
          classMember :=
            if soft then
              Table.update r.classMember fun _ row =>
                if isLiveStint classId user row then { row with leftAt := some now } else row
            else Table.deleteWhere r.classMember fun _ row => isLiveStint classId user row } ∧
        r' = (r.pumpedRows classId user).foldl release (ended.releaseMember classId) := by
  unfold dropMember at h
  split at h
  · next hlive =>
    cases h
    exact ⟨hlive, _, rfl, rfl⟩
  · cases h

theorem deleteCourse_true
    {memberships : ℤ} (h : r.deleteCourse course memberships = .ok (true, r')) :
    ∃ row, r.course.lookup course = some row ∧ row.classCourseCount = 0 ∧
      r' = { r with
        enrollment := Table.deleteWhere r.enrollment fun pair _ =>
          (r.classCourse.lookup pair.1).any fun row => row.course = course
        classCourseTeacher := Table.deleteWhere r.classCourseTeacher fun pair _ =>
          (r.classCourse.lookup pair.1).any fun row => row.course = course
        classCourse := Table.deleteWhere r.classCourse fun _ row => row.course = course
        classGroup := Table.update r.classGroup fun id row =>
          if id ∈ (r.classCourse.entries.filter fun row => row.2.course = course).map
              fun row => row.2.classId then
            { row with classCourseCount := max (row.classCourseCount - 1) 0 }
          else row
        course := r.course.erase course } := by
  unfold deleteCourse at h
  split at h
  · cases h
  · next row hrow =>
    split at h
    · cases h
    · next hempty =>
      cases h
      simp only [not_or, not_not] at hempty
      exact ⟨row, hrow, hempty.1, rfl⟩

structure SameClasses (r r' : Roster) : Prop where
  classGroup : r'.classGroup = r.classGroup
  course : r'.course = r.course
  classCourseTeacher : r'.classCourseTeacher = r.classCourseTeacher
  classMember : r'.classMember = r.classMember

theorem SameClasses.trans {r'' : Roster} (h : r.SameClasses r') (h' : r'.SameClasses r'') :
    r.SameClasses r'' where
  classGroup := h'.classGroup.trans h.classGroup
  course := h'.course.trans h.course
  classCourseTeacher := h'.classCourseTeacher.trans h.classCourseTeacher
  classMember := h'.classMember.trans h.classMember

theorem enrollPairs_same
    {pairs : List (ClassCourseId × UserId)} (h : enrollPairs pumping r pairs = .ok r') :
    r.SameClasses r' := by
  induction pairs generalizing r with
  | nil =>
      cases h
      exact ⟨rfl, rfl, rfl, rfl⟩
  | cons pair rest ih =>
      simp only [enrollPairs] at h
      split at h
      · exact ih h
      · split at h
        · cases h
        · have hrest := ih h
          exact ⟨hrest.classGroup, hrest.course, hrest.classCourseTeacher, hrest.classMember⟩

theorem release_same (r : Roster) (pair : ClassCourseId × UserId) :
    r.SameClasses (r.release pair) := by
  unfold release
  split <;> exact ⟨rfl, rfl, rfl, rfl⟩

theorem foldl_release_same (r : Roster) (pairs : List (ClassCourseId × UserId)) :
    r.SameClasses (pairs.foldl release r) := by
  induction pairs generalizing r with
  | nil => exact ⟨rfl, rfl, rfl, rfl⟩
  | cons pair rest ih => exact (release_same r pair).trans (ih (r.release pair))

end Roster

/-! ## Writes of the class tables -/

/-- What the step of call `id` at a point can have made of the class tables, with the reply
of the steps that grant something. -/
inductive RosterWrote (id : ℕ) (s : Db) (w : World) : Point → Roster → Reply → Prop
  | quiet {p : Point} {n : Reply} : RosterWrote id s w p s.roster n
  | courseCreated {kind : CourseKind} {n : Reply} (hfresh : w.uuid ∉ s.minted) :
      RosterWrote id s w (.roster (.createCourse kind))
        { s.roster with course := s.roster.course.insert ⟨w.uuid⟩ ⟨kind, 0⟩ } n
  | classCreated {teacher : Option UserId} (hfresh : w.uuid ∉ s.minted) :
      RosterWrote id s w (.roster (.insertClass teacher))
        { s.roster with
          classGroup := s.roster.classGroup.insert ⟨w.uuid⟩ ⟨teacher, 0, 0⟩ }
        (granted (.newClass ⟨w.uuid⟩) teacher)
  | homeroom {classId : ClassGroupId} {teacher : Option UserId} :
      RosterWrote id s w (.roster (.homeroomWrite classId teacher))
        (s.roster.setHomeroom classId teacher) (granted (.homeroom classId) teacher)
  | assigned {instance_ : ClassCourseId} {target : UserId} :
      RosterWrote id s w (.roster (.assign instance_ target))
        (s.roster.assign instance_ target) (toRoster (.recheck (.instance_ instance_) target))
  | classesUndone {grant : Grant} {target : UserId} {n : Reply} :
      RosterWrote id s w (.roster (.undoClasses grant target))
        (s.roster.unassignClasses target) n
  | instancesUndone {grant : Grant} {target : UserId} {n : Reply} :
      RosterWrote id s w (.roster (.undoInstances grant target))
        (s.roster.unassignInstances target) n
  | unassigned {instance_ : ClassCourseId} {target : UserId} {n : Reply} :
      RosterWrote id s w (.roster (.unassign instance_ target))
        (s.roster.unassign instance_ target) n
  | classDeleted {point : RosterPoint} {classId : ClassGroupId} {roster : Roster} {n : Reply}
      (hdelete : s.roster.deleteClass classId = .ok (true, roster))
      (hpoint : point = .deleteClass classId ∨ point = .rollbackClass classId) :
      RosterWrote id s w (.roster point) roster n
  | courseDeleted {course : CourseId} {roster : Roster} {n : Reply}
      (hdelete : s.roster.deleteCourse course w.memberships = .ok (true, roster)) :
      RosterWrote id s w (.roster (.deleteCourse course)) roster n
  | memberAdded {classId : ClassGroupId} {user by_ : UserId} {source : Option ClassGroupId}
      {member : ClassMember} {roster : Roster} {n : Reply} (hfresh : w.uuid ∉ s.minted)
      (hadd : s.roster.addMember (s.appUser.lookup user) ⟨w.uuid⟩ ⟨classId, by_, w.now⟩ user
        source = (.made member, roster)) :
      RosterWrote id s w (.roster (.addMember classId user by_ source)) roster n
  | memberDropped {classId : ClassGroupId} {user : UserId} {soft : Bool} {roster : Roster}
      {n : Reply} (hdrop : s.roster.dropMember classId user soft w.now = (true, roster))
      (hgates : w.gates = none) :
      RosterWrote id s w (.roster (.dropMember classId user soft)) roster n
  | courseAttached {classId : ClassGroupId} {course : CourseId} {by_ : UserId}
      {link : ClassCourse} {roster : Roster} {n : Reply} (hfresh : w.uuid ∉ s.minted)
      (hattach : s.roster.attachCourse ⟨w.uuid⟩ ⟨classId, by_, w.now⟩ course =
        .ok (.made link, roster)) :
      RosterWrote id s w (.roster (.attachCourse classId course by_)) roster n
  | courseDetached {classId : ClassGroupId} {course : CourseId} {roster : Roster} {n : Reply}
      (hdetach : s.roster.detachCourse classId course = (true, roster)) :
      RosterWrote id s w (.roster (.detachCourse classId course)) roster n
  | disowned {instance_ : ClassCourseId} {target : UserId} {existing : Enrollment} {n : Reply} :
      RosterWrote id s w (.roster (.disown instance_ target existing))
        (s.roster.disown (instance_, target)) n
  | enrolled {instance_ : ClassCourseId} {target by_ : UserId} {row : Enrollment}
      {roster : Roster} {n : Reply}
      (henroll : s.roster.enrollTx (s.appUser.lookup target) (instance_, target)
        ⟨by_, none, w.now⟩ = .ok (.made row, roster)) :
      RosterWrote id s w (.roster (.enrollTx instance_ target by_)) roster n
  | unenrolled {instance_ : ClassCourseId} {target : UserId} {n : Reply}
      (hgates : w.gates = none) :
      RosterWrote id s w (.roster (.unenroll instance_ target))
        (s.roster.release (instance_, target)) n
  | committed {job : RoleJob} {floor : Floor} {sweep : Option Sweep} {n : Reply} :
      RosterWrote id s w (.role (.commit job floor sweep)) (s.commitRole job sweep).roster n

section Inversion

variable {id : ℕ} {s s' : Db} {w : World} {n : Reply}

theorem addMember_wrote
    {by_ : UserId} (h : addMember id s w classId user by_ source = some (s', n)) :
    RosterWrote id s w (.roster (.addMember classId user by_ source)) s'.roster n := by
  unfold addMember at h
  split at h
  · split at h
    · cases h
    · next hmint =>
      obtain ⟨hfresh, rfl⟩ := mint_eq_some.mp hmint
      generalize hverdict : s.roster.addMember (s.appUser.lookup user) ⟨w.uuid⟩
        ⟨classId, by_, w.now⟩ user source = r at h
      obtain ⟨verdict, roster⟩ := r
      cases h
      by_cases hmade : ∃ member, verdict = .made member
      · obtain ⟨member, rfl⟩ := hmade
        exact .memberAdded hfresh hverdict
      · have hsame := Roster.addMember_refused hverdict fun member h => hmade ⟨member, h⟩
        subst hsame
        exact .quiet
  · cases h

theorem attachCourse_wrote
    {by_ : UserId} (h : attachCourse id s w classId course by_ = some (s', n)) :
    RosterWrote id s w (.roster (.attachCourse classId course by_)) s'.roster n := by
  unfold attachCourse at h
  split at h
  · split at h
    · cases h
    · next hmint =>
      obtain ⟨hfresh, rfl⟩ := mint_eq_some.mp hmint
      split at h
      · cases h
        exact .quiet
      · next verdict roster hverdict =>
        cases h
        by_cases hmade : ∃ link, verdict = .made link
        · obtain ⟨link, rfl⟩ := hmade
          exact .courseAttached hfresh hverdict
        · have hsame :=
            Roster.attachCourse_refused hverdict fun link h => hmade ⟨link, h⟩
          subst hsame
          exact .quiet
  · cases h

theorem nextRoster_wrote
    {point : RosterPoint} (h : nextRoster id s w point = some (s', n)) :
    RosterWrote id s w (.roster point) s'.roster n := by
  cases point with
  | createCourse =>
      simp only [nextRoster, createCourse] at h
      split at h
      · cases h
      · next hmint =>
        obtain ⟨hfresh, rfl⟩ := mint_eq_some.mp hmint
        cases h
        exact .courseCreated hfresh
  | insertClass =>
      simp only [nextRoster, insertClass] at h
      split at h
      · cases h
      · next hmint =>
        obtain ⟨hfresh, rfl⟩ := mint_eq_some.mp hmint
        cases h
        exact .classCreated hfresh
  | addMember => exact addMember_wrote h
  | attachCourse => exact attachCourse_wrote h
  | homeroomWrite =>
      simp only [nextRoster, homeroomWrite] at h
      split at h
      · cases h
        exact .quiet
      · split at h <;> cases h
        exact .homeroom
  | assign =>
      simp only [nextRoster, assign, Option.some.injEq] at h
      split at h <;> cases h
      · exact .quiet
      · exact .assigned
  | undoClasses =>
      simp only [nextRoster, undoClasses] at h
      split at h <;> cases h
      exact .classesUndone
  | undoInstances =>
      cases h
      exact .instancesUndone
  | rollbackClass =>
      simp only [nextRoster, rollbackClass] at h
      split at h
      · split at h
        · cases h
          exact .quiet
        · cases h
          exact .quiet
        · next hdelete =>
          cases h
          exact .classDeleted hdelete (.inr rfl)
      · cases h
  | unassign =>
      simp only [nextRoster, unassign, Option.some.injEq] at h
      split at h
      · cases h
        exact .quiet
      · split at h <;> cases h
        · exact .quiet
        · exact .unassigned
  | deleteClass =>
      simp only [nextRoster, deleteClass] at h
      split at h
      · cases h
        exact .quiet
      · split at h
        · split at h
          · cases h
            exact .quiet
          · cases h
            exact .quiet
          · next hdelete =>
            cases h
            exact .classDeleted hdelete (.inl rfl)
        · cases h
  | deleteCourse =>
      simp only [nextRoster, deleteCourse, Option.some.injEq] at h
      split at h
      · cases h
        exact .quiet
      · split at h
        · cases h
          exact .quiet
        · cases h
          exact .quiet
        · next hdelete =>
          cases h
          exact .courseDeleted hdelete
  | dropMember classId user soft =>
      simp only [nextRoster, dropMember] at h
      split at h
      · cases h
        exact .quiet
      · next hgates =>
        split at h
        · generalize hdrop : s.roster.dropMember classId user soft w.now = r at h
          obtain ⟨dropped, roster⟩ := r
          cases h
          cases dropped with
          | true => exact .memberDropped hdrop hgates
          | false =>
              have hsame := Roster.dropMember_false hdrop
              subst hsame
              exact .quiet
        · cases h
  | detachCourse classId course =>
      simp only [nextRoster, detachCourse] at h
      split at h
      · generalize hdetach : s.roster.detachCourse classId course = r at h
        obtain ⟨detached, roster⟩ := r
        cases h
        cases detached with
        | true => exact .courseDetached hdetach
        | false =>
            have hsame := Roster.detachCourse_false hdetach
            subst hsame
            exact .quiet
      · cases h
  | disown =>
      cases h
      exact .disowned
  | enrollTx =>
      simp only [nextRoster, enrollTx] at h
      split at h
      · split at h
        · cases h
          exact .quiet
        · cases h
          exact .quiet
        · cases h
          exact .quiet
        · next henroll =>
          cases h
          exact .enrolled henroll
      · cases h
  | unenroll =>
      simp only [nextRoster, unenroll, Option.some.injEq] at h
      split at h
      · cases h
        exact .quiet
      · next hgates =>
        split at h <;> cases h
        · exact .quiet
        · exact .unenrolled hgates
  | _ =>
      cases h
      exact .quiet

theorem next_rosterWrote
    {p : Point} (h : next id s p w = some (s', n)) : RosterWrote id s w p s'.roster n := by
  cases p with
  | createUser =>
      simp only [next, createUser] at h
      split at h <;> cases h <;> exact .quiet
  | role =>
      rcases (nextRole_keeps h).2 with ⟨job, floor, sweep, rfl⟩ | ⟨-, -, hroster⟩
      · cases h
        exact .committed
      · rw [hroster]
        exact .quiet
  | calendar =>
      rw [(nextCalendar_only h).roster]
      exact .quiet
  | roster => exact nextRoster_wrote h

/-- The class steps that draw a key. -/
def RosterPoint.mints : RosterPoint → Bool
  | .createCourse _ => true
  | .insertClass _ => true
  | .addMember _ _ _ _ => true
  | .attachCourse _ _ _ => true
  | _ => false

theorem next_mints
    {point : RosterPoint} (h : next id s (.roster point) w = some (s', n))
    (hmints : point.mints = true) : w.uuid :: s.minted ⊆ s'.minted := by
  have hdrawn : w.uuid ∈ s'.minted := by
    cases point with
    | createCourse =>
        simp only [next, nextRoster, createCourse] at h
        split at h
        · cases h
        · next hmint =>
          obtain ⟨-, rfl⟩ := mint_eq_some.mp hmint
          cases h
          exact List.mem_cons_self
    | insertClass =>
        simp only [next, nextRoster, insertClass] at h
        split at h
        · cases h
        · next hmint =>
          obtain ⟨-, rfl⟩ := mint_eq_some.mp hmint
          cases h
          exact List.mem_cons_self
    | addMember =>
        simp only [next, nextRoster, addMember] at h
        split at h
        · split at h
          · cases h
          · next hmint =>
            obtain ⟨-, rfl⟩ := mint_eq_some.mp hmint
            cases h
            exact List.mem_cons_self
        · cases h
    | attachCourse =>
        simp only [next, nextRoster, attachCourse] at h
        split at h
        · split at h
          · cases h
          · next hmint =>
            obtain ⟨-, rfl⟩ := mint_eq_some.mp hmint
            split at h <;> cases h <;> exact List.mem_cons_self
        · cases h
    | _ => cases hmints
  exact List.cons_subset.mpr ⟨hdrawn, next_minted h⟩

end Inversion

end Hezarfen.School
