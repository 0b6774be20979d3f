import Hezarfen.YearCalls
import Hezarfen.RosterSteps

/-!
# What the transactions under the year do

The spec of each transaction on the year's store: what a success found and what it
wrote.  The calendar sees of an instance which section it is in and which course it
teaches; an attach adds one such link and a detach takes one away.
-/

namespace Hezarfen.School.Roster

variable {r r' : Roster}

variable {instance_ id : ClassCourseId} {link : ClassCourse} {pumping : Pumping} {course : CourseId}
  {classId : ClassGroupId}

def linkOf (r : Roster) (instance_ : ClassCourseId) : Option (ClassGroupId × CourseId) :=
  (r.classCourse.lookup instance_).map fun row => (row.classId, row.course)

theorem linkOf_eq_some {link : ClassGroupId × CourseId} :
    r.linkOf instance_ = some link ↔
      ∃ row, r.classCourse.lookup instance_ = some row ∧ row.classId = link.1 ∧
        row.course = link.2 := by
  simp [linkOf, Prod.ext_iff]

theorem linkOf_of_row {row : ClassCourse} (h : r.classCourse.lookup instance_ = some row) :
    r.linkOf instance_ = some (row.classId, row.course) := by
  simp [linkOf, h]

theorem enrollPairs_linkOf
    {pairs : List (ClassCourseId × UserId)} (h : enrollPairs pumping r pairs = .ok r')
    (instance_ : ClassCourseId) :
    r'.linkOf instance_ = r.linkOf instance_ := by
  induction pairs generalizing r with
  | nil =>
      cases h
      rfl
  | cons pair rest ih =>
      simp only [enrollPairs] at h
      split at h
      · exact ih h
      · split at h
        · cases h
        · next row hrow =>
          rw [ih h]
          simp only [linkOf, lookup_insert_eq]
          split
          · next heq =>
            subst heq
            simp [hrow]
          · rfl

theorem attachCourse_linkOf
    (h : r.attachCourse id pumping course = .ok (.made link, r')) (instance_ : ClassCourseId) :
    r'.linkOf instance_ =
      if instance_ = id then some (pumping.classId, course) else r.linkOf instance_ := by
  obtain ⟨row, taught, -, -, -, -, -, -, hpump⟩ := attachCourse_made h
  rw [enrollPairs_linkOf hpump]
  simp only [linkOf, lookup_insert_eq]
  split <;> rfl

theorem attachCourse_classGroup
    (h : r.attachCourse id pumping course = .ok (.made link, r')) (classId : ClassGroupId) :
    (r'.classGroup.lookup classId).isSome = (r.classGroup.lookup classId).isSome := by
  obtain ⟨row, taught, -, -, -, hrow, -, -, hpump⟩ := attachCourse_made h
  rw [(enrollPairs_same hpump).classGroup, lookup_insert_eq]
  split
  · next heq =>
    subst heq
    simp [hrow]
  · rfl

theorem instanceOf_linkOf
    (h : r.instanceOf classId course = some instance_) :
    r.linkOf instance_ = some (classId, course) := by
  unfold instanceOf at h
  simp only [Option.map_eq_some_iff] at h
  obtain ⟨⟨key, row⟩, hfind, rfl⟩ := h
  have hentry := mem_entries_iff_lookup.mp (List.mem_of_find?_eq_some hfind)
  have hmatch := List.find?_some hfind
  simp only [Bool.and_eq_true, decide_eq_true_eq] at hmatch
  exact linkOf_eq_some.mpr ⟨row, hentry, hmatch⟩

theorem detachCourse_linkOf
    {target : ClassCourseId} (h : r.instanceOf classId course = some target)
    (instance_ : ClassCourseId) :
    (r.detachCourse classId course).2.linkOf instance_ =
      if instance_ = target then none else r.linkOf instance_ := by
  simp only [detachCourse, h, linkOf, releaseSection, releaseCourse, sweepInstance,
    lookup_erase_eq]
  split <;> rfl

theorem detachCourse_classGroup
    (classId : ClassGroupId) (course : CourseId) (other : ClassGroupId) :
    ((r.detachCourse classId course).2.classGroup.lookup other).isSome =
      (r.classGroup.lookup other).isSome := by
  unfold detachCourse
  split
  · rfl
  · simp [releaseSection, releaseCourse, sweepInstance]

/-- The pump writes no instance outside its pairs. -/
theorem enrollPairs_others
    {pairs : List (ClassCourseId × UserId)} {other : ClassCourseId}
    (hpairs : ∀ pair ∈ pairs, other ≠ pair.1) (h : enrollPairs pumping r pairs = .ok r') :
    r'.classCourse.lookup other = r.classCourse.lookup other := by
  induction pairs generalizing r with
  | nil =>
      cases h
      rfl
  | cons pair rest ih =>
      have hrest : ∀ pair ∈ rest, other ≠ pair.1 := fun pair hpair =>
        hpairs pair (List.mem_cons_of_mem _ hpair)
      simp only [enrollPairs] at h
      split at h
      · exact ih hrest h
      · split at h
        · cases h
        · rw [ih hrest h, lookup_insert_eq, if_neg (hpairs pair List.mem_cons_self)]

/-- An attach writes no other instance. -/
theorem attachCourse_others
    {other : ClassCourseId} (hne : other ≠ id)
    (h : r.attachCourse id pumping course = .ok (.made link, r')) :
    r'.classCourse.lookup other = r.classCourse.lookup other := by
  obtain ⟨row, taught, -, -, -, -, -, -, hpump⟩ := attachCourse_made h
  have hpairs : ∀ pair ∈ (r.liveMembers pumping.classId).map fun user => (id, user),
      other ≠ pair.1 := by
    intro pair hpair
    obtain ⟨user, -, rfl⟩ := List.mem_map.mp hpair
    exact hne
  rw [enrollPairs_others hpairs hpump, lookup_insert_eq, if_neg hne]

theorem attachCourse_course
    (h : r.attachCourse id pumping course = .ok (.made link, r')) (other : CourseId) :
    (r'.course.lookup other).isSome = (r.course.lookup other).isSome := by
  obtain ⟨row, taught, -, htaught, -, -, -, -, hpump⟩ := attachCourse_made h
  rw [(enrollPairs_same hpump).course, lookup_insert_eq]
  split
  · next heq =>
    subst heq
    simp [htaught]
  · rfl

/-- What the two verdicts that name a record say of it. -/
theorem attachCourse_verdict
    {verdict : Attached ClassCourse} (h : r.attachCourse id pumping course = .ok (verdict, r')) :
    (verdict = .duplicate → ∃ i, r.linkOf i = some (pumping.classId, course)) ∧
      (verdict = .pivotGone → r.course.lookup course = none) := by
  unfold attachCourse at h
  split at h
  · next hany =>
    cases h
    obtain ⟨i, row, hrow, hmatch⟩ := Table.any_iff.mp hany
    simp only [Bool.and_eq_true, decide_eq_true_eq] at hmatch
    exact ⟨fun _ => ⟨i, linkOf_eq_some.mpr ⟨row, hrow, hmatch⟩⟩, by simp⟩
  · split at h
    · next hnone =>
      cases h
      exact ⟨by simp, fun _ => hnone⟩
    · split at h
      · cases h
        exact ⟨by simp, by simp⟩
      · split at h
        · cases h
        · split at h
          · cases h
            exact ⟨by simp, by simp⟩
          · split at h
            · simp only at h
              split at h
              · cases h
                exact ⟨by simp, by simp⟩
              · cases h
                exact ⟨by simp, by simp⟩
            · cases h
              exact ⟨by simp, by simp⟩

theorem exists_instanceOf
    {i : ClassCourseId} (h : r.linkOf i = some (classId, course)) :
    ∃ j, r.instanceOf classId course = some j := by
  obtain ⟨row, hrow, hmatch⟩ := linkOf_eq_some.mp h
  cases hfind : r.instanceOf classId course with
  | some j => exact ⟨j, rfl⟩
  | none =>
      unfold instanceOf at hfind
      rw [Option.map_eq_none_iff, List.find?_eq_none] at hfind
      have hentry := hfind _ (mem_entries_iff_lookup.mpr hrow)
      simp [hmatch.1, hmatch.2] at hentry

theorem detachCourse_classCourse
    {target : ClassCourseId} (h : r.instanceOf classId course = some target) :
    (r.detachCourse classId course).2.classCourse = r.classCourse.erase target := by
  simp only [detachCourse, h, releaseSection, releaseCourse, sweepInstance]

theorem detachCourse_course
    (classId : ClassGroupId) (course other : CourseId) :
    ((r.detachCourse classId course).2.course.lookup other).isSome =
      (r.course.lookup other).isSome := by
  unfold detachCourse
  split
  · rfl
  · simp [releaseSection, releaseCourse, sweepInstance]

end Hezarfen.School.Roster

namespace Hezarfen.Years

open School (Roster ClassGroupId CourseId ClassCourseId Refusal)

theorem commit_rule {f : Db → Except Refusal Db} {s : Db} (P : Db → Prop) (hsame : P s)
    (hwrite : ∀ s', f s = .ok s' → P s') : P (commit f s).2 := by
  unfold commit
  split
  · next hf => exact hwrite _ hf
  · exact hsame

variable {s s' : Db}

theorem attachSourced_cases
    {id : ClassCourseId} {pumping : Roster.Pumping} {course : CourseId}
    {source : Option GradeLevel} {landed : Landed}
    (h : s.attachSourced id pumping course source = .ok (landed, s')) :
    s' = s ∨ ∃ link roster row,
      s.roster.attachCourse id pumping course = .ok (.made link, roster) ∧
      s.classSection.lookup pumping.classId = some row ∧
      s.roster.classCourse.lookup id = none ∧
      s' = { s with
        roster := roster
        classInstance := s.classInstance.insert id (.fresh source ⟨course, row.gradeLevel⟩) } := by
  unfold Db.attachSourced at h
  split at h
  · cases h
    exact .inl rfl
  · split at h
    · cases h
      exact .inl rfl
    · split at h
      · cases h
      · next link roster hattach =>
        simp only [Db.classOr404, Gate.bind_eq_ok, Gate.found_eq_ok, Gate.ensure_eq_ok,
          Gate.pure_eq_ok, Prod.mk.injEq] at h
        obtain ⟨row, hrow, -, hfree, -, rfl⟩ := h
        exact .inr ⟨link, roster, row, hattach, hrow, by simpa using hfree, rfl⟩
      · cases h
        exact .inl rfl

theorem detachCourse_cases
    {classId : ClassGroupId} {course : CourseId} {source : Option GradeLevel}
    (h : s.detachCourse classId course source = some s') :
    ∃ instance_, s.roster.instanceOf classId course = some instance_ ∧
      (∀ grade, source = some grade →
        ∃ row, s.classInstance.lookup instance_ = some row ∧ row.source = some grade) ∧
      s' = { s.sweepInstance instance_ with
        roster := (s.roster.detachCourse classId course).2
        classInstance := s.classInstance.erase instance_
        classCourseSubject := Table.deleteWhere s.classCourseSubject fun pair _ =>
          pair.1 = instance_
        classCourseSlot := Table.deleteWhere s.classCourseSlot fun _ row =>
          row.classCourse = instance_
        classCourseExamWeight := Table.deleteWhere s.classCourseExamWeight fun pair _ =>
          pair.1 = instance_ } := by
  unfold Db.detachCourse Db.detachTarget at h
  simp only [Option.map_eq_some_iff, Option.filter_eq_some_iff] at h
  obtain ⟨instance_, ⟨hinstance, hsource⟩, rfl⟩ := h
  refine ⟨instance_, hinstance, ?_, rfl⟩
  rintro grade rfl
  simpa [Option.any_eq_true] using hsource

theorem createExam_cases
    {exam : Exams.Exam} (h : s.createExam exam = .ok s') :
    ∃ link term, s.roster.classCourse.lookup (ownerOf exam) = some link ∧
      s.term.lookup exam.term = some term ∧ s.yearOf (ownerOf exam) = some term.year ∧
      s.requireOpen (ownerOf exam) = .ok () ∧ s.exams.exam.lookup exam.id = none ∧
      s' = { s with
        term := s.term.insert exam.term { term with examCount := term.examCount + 1 }
        exams := s.exams.insertExam exam
        examAudience := s.examAudience.insert (exam.id, ownerOf exam) () } := by
  unfold Db.createExam Db.insertExam Db.instanceOr404 at h
  simp only [Gate.bind_eq_ok, Gate.found_eq_ok, Gate.ensure_eq_ok, Gate.pure_eq_ok,
    decide_eq_true_eq] at h
  obtain ⟨link, hlink, course, -, -, -, term, hterm, -, hyear, ⟨⟩, hopen, term', hterm', -,
    hfresh, -, -, rfl⟩ := h
  rw [hterm] at hterm'
  cases hterm'
  exact ⟨link, term, hlink, hterm, hyear, hopen, by simpa using hfresh, rfl⟩

end Hezarfen.Years
