import Hezarfen.Marks

/-!
# One average for a block and a line

The block of an instance in the marks report and its line on a report card are built
from one set of marks: for each exam addressed to the instance the student's latest
sitting, weighed as the instance weighs its kind.  The line leaves out the exams of
other terms, so the two averages agree where there are none.
-/

namespace Hezarfen.Marks

open School (ClassGroupId CourseId ClassCourseId ClassMemberId ClassMember)
open Years (AcademicYearId CourseOfferingId)
open Exams (ExamId TermId ExamResult ExamResultId)

/-! ## The marks of an instance -/

section Results

variable {s : Db} {user : UserId} {i : ClassCourseId} {term : TermId}
  {instances : List ClassCourseId} {r : ExamResult}

theorem mem_results : r ∈ results s ↔ s.examResult.lookup r.id = some ⟨r.mark, r.gradedBy⟩ := by
  unfold results
  rw [List.mem_map]
  constructor
  · rintro ⟨⟨key, graded⟩, hmem, rfl⟩
    exact mem_entries_iff_lookup.mp hmem
  · intro hlookup
    exact ⟨⟨r.id, ⟨r.mark, r.gradedBy⟩⟩, mem_entries_iff_lookup.mpr hlookup, rfl⟩

/-- The primary key tells the sittings of a pair apart. -/
theorem results_inj {r' : ExamResult} (h : r ∈ results s) (h' : r' ∈ results s)
    (hid : r.id = r'.id) : r = r' := by
  have hlookup := mem_results.mp h
  rw [hid, mem_results.mp h', Option.some.injEq, Graded.mk.injEq] at hlookup
  obtain ⟨exam, u, seq, mark, gradedBy⟩ := r
  obtain ⟨exam', u', seq', mark', gradedBy'⟩ := r'
  simp only [ExamResult.id, ExamResultId.mk.injEq] at hid
  obtain ⟨rfl, rfl, rfl⟩ := hid
  obtain ⟨rfl, rfl⟩ := hlookup
  rfl

/-- A mark of the student under an instance. -/
structure MarkedIn (s : Db) (user : UserId) (i : ClassCourseId) (r : ExamResult) : Prop where
  stored : r ∈ results s
  user : r.user = user
  addressed : addressed s r.exam i = true

/-- The mark of the latest sitting. -/
def LatestIn (s : Db) (user : UserId) (i : ClassCourseId) (r : ExamResult) : Prop :=
  MarkedIn s user i r ∧ ∀ r', MarkedIn s user i r' → r'.exam = r.exam → r'.seq ≤ r.seq

theorem mem_rowsInCourse : r ∈ rowsInCourse s i user ↔ MarkedIn s user i r := by
  rw [rowsInCourse, Keyed.mem_sortBy, List.mem_filter, Bool.and_eq_true, decide_eq_true_eq]
  exact ⟨fun h => ⟨h.1, h.2.1, h.2.2⟩, fun h => ⟨h.stored, h.user, h.addressed⟩⟩

theorem rowsInCourse_told :
    Keyed.Told (fun row => (row.exam, row.user)) ExamResult.seq (rowsInCourse s i user) := by
  intro r hr r' hr' hpair hseq
  rw [Prod.mk.injEq] at hpair
  refine results_inj (mem_rowsInCourse.mp hr).stored (mem_rowsInCourse.mp hr').stored ?_
  rw [ExamResult.id, ExamResult.id, hpair.1, hpair.2, hseq]

theorem mem_listForUserInCourse : r ∈ listForUserInCourse s i user ↔ LatestIn s user i r := by
  unfold listForUserInCourse latestPerPair
  rw [Keyed.mem_latest_iff rowsInCourse_told]
  unfold Keyed.Top
  simp only [mem_rowsInCourse, Prod.mk.injEq]
  apply and_congr_right
  intro hr
  constructor
  · intro h r' hr' hexam
    exact h r' hr' ⟨hexam, hr'.user.trans hr.user.symm⟩
  · intro h r' hr' hpair
    exact h r' hr' hpair.1

def OfTerm (s : Db) (term : TermId) (exam : ExamId) : Prop :=
  ∃ row, s.exam.lookup exam = some row ∧ row.term = term

theorem mem_rowsInTerm {row : ClassCourseId × ExamResult} :
    row ∈ rowsInTerm s user term instances ↔
      row.1 ∈ instances ∧ MarkedIn s user row.1 row.2 ∧ OfTerm s term row.2.exam := by
  obtain ⟨j, r⟩ := row
  rw [rowsInTerm, Keyed.mem_sortBy, List.mem_flatMap]
  simp only [List.mem_map, List.mem_filter, decide_eq_true_eq, Prod.mk.injEq,
    Option.any_eq_true]
  constructor
  · rintro ⟨row, hrow, ⟨exam, j'⟩, ⟨⟨⟨key, entry⟩, hmem, hkey⟩, rfl, hj, huser, hterm⟩, rfl, rfl⟩
    obtain rfl : key = (row.exam, j') := hkey
    have haddressed : addressed s row.exam j' = true := by
      rw [addressed, mem_entries_iff_lookup.mp hmem]
      rfl
    exact ⟨hj, ⟨hrow, huser, haddressed⟩, hterm⟩
  · rintro ⟨hj, hr, hterm⟩
    obtain ⟨entry, hentry⟩ := Option.isSome_iff_exists.mp hr.addressed
    exact ⟨r, hr.stored, (r.exam, j),
      ⟨⟨⟨(r.exam, j), entry⟩, mem_entries_iff_lookup.mpr hentry, rfl⟩, rfl, hj, hr.user,
        hterm⟩, rfl, rfl⟩

theorem rowsInTerm_told :
    Keyed.Told (fun row => (row.1, row.2.exam)) (fun row => row.2.seq)
      (rowsInTerm s user term instances) := by
  rintro ⟨j, r⟩ hr ⟨j', r'⟩ hr' hpair hseq
  obtain ⟨-, hr, -⟩ := mem_rowsInTerm.mp hr
  obtain ⟨-, hr', -⟩ := mem_rowsInTerm.mp hr'
  simp only [Prod.mk.injEq] at hpair
  obtain ⟨rfl, hexam⟩ := hpair
  have hid : r.id = r'.id := by
    rw [ExamResult.id, ExamResult.id, hexam, hr.user.trans hr'.user.symm]
    exact congrArg _ hseq
  exact Prod.ext rfl (results_inj hr.stored hr'.stored hid)

theorem rowsInTerm_falls :
    (rowsInTerm s user term instances).Pairwise fun row other =>
      (row.1, row.2.exam) = (other.1, other.2.exam) → other.2.seq ≤ row.2.seq := by
  refine (Keyed.pairwise_sortBy _ _).imp ?_
  rintro ⟨j, r⟩ ⟨j', r'⟩ hle hpair
  obtain ⟨hj, hexam⟩ := Prod.mk.inj hpair
  have hinstance := congrArg (fun j : ClassCourseId => j.uuid.hyphenated) hj
  have hkey := congrArg (fun exam : ExamId => OrderDual.toDual exam.key) hexam
  have hrest := (Prod.Lex.toLex_le_toLex'.mp hle).2 hinstance
  exact OrderDual.toDual_le_toDual.mp ((Prod.Lex.toLex_le_toLex'.mp hrest).2 hkey)

theorem mem_listForUserInTerm (hi : i ∈ instances) :
    (i, r) ∈ listForUserInTerm s user term instances ↔
      LatestIn s user i r ∧ OfTerm s term r.exam := by
  unfold listForUserInTerm
  rw [if_neg (by simpa using List.ne_nil_of_mem hi),
    Keyed.mem_distinctOn_iff_top rowsInTerm_told rowsInTerm_falls]
  unfold Keyed.Top
  simp only [mem_rowsInTerm, Prod.mk.injEq]
  constructor
  · rintro ⟨⟨-, hr, hterm⟩, hmax⟩
    refine ⟨⟨hr, fun r' hr' hexam => ?_⟩, hterm⟩
    exact hmax (i, r') ⟨hi, hr', hexam ▸ hterm⟩ ⟨rfl, hexam⟩
  · rintro ⟨⟨hr, hmax⟩, hterm⟩
    refine ⟨⟨hi, hr, hterm⟩, ?_⟩
    rintro ⟨j, r'⟩ ⟨-, hr', -⟩ ⟨rfl, hexam⟩
    exact hmax r' hr' hexam

theorem nodup_listForUserInTerm : (listForUserInTerm s user term instances).Nodup := by
  unfold listForUserInTerm
  split
  · exact List.nodup_nil
  · exact (Keyed.nodup_distinctOn _ _).of_map _

/-- With no mark in another term, the read of a term gives an instance what its own gives. -/
theorem listForUserInTerm_perm (hi : i ∈ instances)
    (hterm : ∀ r, MarkedIn s user i r → OfTerm s term r.exam) :
    (((listForUserInTerm s user term instances).filter fun row => decide (row.1 = i)).map
      Prod.snd).Perm (listForUserInCourse s i user) := by
  have hnodup : (((listForUserInTerm s user term instances).filter fun row =>
      decide (row.1 = i)).map Prod.snd).Nodup := by
    refine (nodup_listForUserInTerm.filter _).map_on ?_
    intro row hrow other hother hresult
    have hline := of_decide_eq_true (List.mem_filter.mp hrow).2
    have hother := of_decide_eq_true (List.mem_filter.mp hother).2
    exact Prod.ext (hline.trans hother.symm) hresult
  refine (List.perm_ext_iff_of_nodup hnodup (Keyed.nodup_latest _ _ _)).mpr fun r => ?_
  have hmem : r ∈ ((listForUserInTerm s user term instances).filter fun row =>
      decide (row.1 = i)).map Prod.snd ↔ (i, r) ∈ listForUserInTerm s user term instances := by
    simp [List.mem_filter]
  rw [hmem, mem_listForUserInTerm hi]
  exact Iff.trans ⟨And.left, fun h => ⟨h, hterm r h.1⟩⟩ mem_listForUserInCourse.symm

end Results

section Exams

variable {s : Db} {instances : List ClassCourseId} {id : ExamId} {e : Exam}

theorem mem_examsFor :
    (id, e) ∈ examsFor s instances ↔
      s.exam.lookup id = some e ∧ ∃ i ∈ instances, addressed s id i = true := by
  rw [examsFor, Keyed.mem_sortBy, List.mem_filter, List.any_eq_true]
  apply and_congr_left
  intro _
  rw [List.mem_map]
  constructor
  · rintro ⟨⟨stored, row⟩, hmem, hrow⟩
    obtain ⟨rfl, rfl⟩ := Prod.mk.inj hrow
    exact mem_entries_iff_lookup.mp hmem
  · intro hlookup
    exact ⟨⟨id, e⟩, mem_entries_iff_lookup.mpr hlookup, rfl⟩

/-- A list of stored exams finds those it lists. -/
theorem find_exam (exams : List (ExamId × Exam)) (id : ExamId)
    (hstored : ∀ id e, (id, e) ∈ exams → s.exam.lookup id = some e)
    (hlisted : ∀ e, s.exam.lookup id = some e → (id, e) ∈ exams) :
    exams.find? (fun exam => decide (exam.1 = id)) =
      (s.exam.lookup id).map fun e => (id, e) := by
  cases hfind : exams.find? fun exam => decide (exam.1 = id) with
  | some exam =>
      obtain ⟨other, e⟩ := exam
      have hid : other = id := by simpa using List.find?_some hfind
      subst hid
      rw [hstored _ _ (List.mem_of_find?_eq_some hfind)]
      rfl
  | none =>
      cases hlookup : s.exam.lookup id with
      | none => rfl
      | some e =>
          have hnot := List.find?_eq_none.mp hfind _ (hlisted e hlookup)
          simp at hnot

end Exams

section Pairs

variable {s : Db} {user : UserId} {i : ClassCourseId} {row : ClassCourse} {term : TermId}
  {instances : List ClassCourseId}

def pairOf (s : Db) (i : ClassCourseId) (row : ClassCourse) (r : ExamResult) : Option (ℤ × ℤ) :=
  (s.exam.lookup r.exam).map fun e => (r.mark.asI64, resolveWeight s i row e.kind)

theorem block_pairs :
    (((listForUserInCourse s i user).filterMap
      (markEntry s i row (listForClassCourse s i))).map fun entry => (entry.mark, entry.weight)) =
      (listForUserInCourse s i user).filterMap (pairOf s i row) := by
  rw [List.map_filterMap]
  apply List.filterMap_congr
  intro r hr
  have haddressed := (mem_listForUserInCourse.mp hr).1.addressed
  have hfind := find_exam (listForClassCourse s i) r.exam
    (fun _ _ hmem => (mem_examsFor.mp hmem).1)
    (fun _ hlookup => mem_examsFor.mpr ⟨hlookup, i, List.mem_singleton_self i, haddressed⟩)
  rw [markEntry, hfind, pairOf]
  simp only [Option.map_map]
  rfl

theorem line_pairs (hi : i ∈ instances) :
    (listForUserInTerm s user term instances).filterMap (linePair s i row
      ((listForClassCourseCourses s instances).filter fun exam =>
        decide (exam.2.term = term))) =
      (((listForUserInTerm s user term instances).filter fun row =>
        decide (row.1 = i)).map Prod.snd).filterMap (pairOf s i row) := by
  rw [List.filterMap_map, List.filterMap_filter]
  apply List.filterMap_congr
  rintro ⟨line, r⟩ hr
  by_cases hline : line = i
  · subst hline
    obtain ⟨⟨hmarked, -⟩, hterm⟩ := (mem_listForUserInTerm hi).mp hr
    obtain ⟨e, he, hofTerm⟩ := hterm
    have hfind := find_exam ((listForClassCourseCourses s instances).filter fun exam =>
        decide (exam.2.term = term)) r.exam
      (fun id other hmem => by
        rw [listForClassCourseCourses, if_neg (by simpa using List.ne_nil_of_mem hi)] at hmem
        exact (mem_examsFor.mp (List.mem_filter.mp hmem).1).1)
      (fun other hother => by
        rw [he, Option.some.injEq] at hother
        subst hother
        rw [listForClassCourseCourses, if_neg (by simpa using List.ne_nil_of_mem hi)]
        exact List.mem_filter.mpr ⟨mem_examsFor.mpr ⟨he, line, hi, hmarked.addressed⟩,
          decide_eq_true hofTerm⟩)
    simp [linePair, hfind, pairOf, he]
  · simp [linePair, hline]

end Pairs

theorem karneAverage_eq (pairs : List (ℤ × ℤ)) :
    Karne.weightedAverage pairs = weightedAverage pairs := rfl

theorem weightedAverage_perm {pairs pairs' : List (ℤ × ℤ)} (h : pairs.Perm pairs') :
    weightedAverage pairs = weightedAverage pairs' := by
  have hweight := (h.map Prod.snd).sum_eq
  have htotal := (h.map fun pair => pair.1 * pair.2).sum_eq
  simp only [weightedAverage, hweight, htotal]

/-! ## The instances of a student -/

section Instances

variable {s : Db} {user : UserId} {i : ClassCourseId} {row : ClassCourse} {year : AcademicYearId}

theorem mem_listForUser {member : ClassMember} :
    member ∈ listForUser s user ↔
      (∃ id, s.classMember.lookup id = some member) ∧ member.user = user ∧
        member.leftAt = none := by
  unfold listForUser
  simp only [List.mem_map, Keyed.mem_sortBy, List.mem_filter, decide_eq_true_eq]
  constructor
  · rintro ⟨_, ⟨⟨⟨id, member⟩, hmem, rfl⟩, hlive⟩, rfl⟩
    exact ⟨⟨id, mem_entries_iff_lookup.mp hmem⟩, hlive⟩
  · rintro ⟨⟨id, hlookup⟩, hlive⟩
    exact ⟨(id, member), ⟨⟨⟨id, member⟩, mem_entries_iff_lookup.mpr hlookup, rfl⟩, hlive⟩,
      rfl⟩

theorem mem_listForClassIds {classes : List ClassGroupId} :
    (i, row) ∈ listForClassIds s classes ↔
      s.classCourse.lookup i = some row ∧ row.classGroup ∈ classes := by
  unfold listForClassIds
  rw [Keyed.mem_sortBy, List.mem_filter, decide_eq_true_eq, List.mem_map]
  constructor
  · rintro ⟨⟨⟨j, other⟩, hmem, hrow⟩, hclass⟩
    obtain ⟨rfl, rfl⟩ := Prod.mk.inj hrow
    exact ⟨mem_entries_iff_lookup.mp hmem, hclass⟩
  · rintro ⟨hlookup, hclass⟩
    exact ⟨⟨⟨i, row⟩, mem_entries_iff_lookup.mpr hlookup, rfl⟩, hclass⟩

theorem mem_sectionsOfYear {section_ : ClassGroupId} :
    section_ ∈ sectionsOfYear s user year ↔
      s.classGroup.lookup section_ = some (some year) ∧
        ∃ member ∈ listForUser s user, member.classId = section_ := by
  unfold sectionsOfYear listByIds
  simp only [List.mem_map, List.mem_filter, decide_eq_true_eq]
  constructor
  · rintro ⟨_, ⟨⟨⟨⟨key, year'⟩, hmem, rfl⟩, hlisted⟩, rfl⟩, rfl⟩
    exact ⟨mem_entries_iff_lookup.mp hmem, hlisted⟩
  · rintro ⟨hlookup, hlisted⟩
    exact ⟨(section_, some year), ⟨⟨⟨⟨section_, some year⟩,
      mem_entries_iff_lookup.mpr hlookup, rfl⟩, hlisted⟩, rfl⟩, rfl⟩

structure Sits (s : Db) (user : UserId) (i : ClassCourseId) (row : ClassCourse) : Prop where
  stored : s.classCourse.lookup i = some row
  live : ∃ member ∈ listForUser s user, member.classId = row.classGroup

structure Counts (s : Db) (user : UserId) (year : AcademicYearId) (i : ClassCourseId)
    (row : ClassCourse) : Prop extends Sits s user i row where
  ofYear : s.classGroup.lookup row.classGroup = some (some year)
  policy : ∃ policy, resolvePolicy s row = .ok policy ∧ policy.countsTowardKarne = true

theorem Sits.mem_enrolledInstances (h : Sits s user i row) :
    (i, row) ∈ enrolledInstances s user := by
  obtain ⟨member, hmember, hclass⟩ := h.live
  exact mem_listForClassIds.mpr ⟨h.stored, List.mem_map.mpr ⟨member, hmember, hclass⟩⟩

theorem mapM_ok {α β ε : Type*} {f : α → Except ε β} {l : List α}
    (h : ∀ a ∈ l, ∃ b, f a = .ok b) :
    ∃ out, l.mapM f = .ok out ∧ ∀ b, b ∈ out ↔ ∃ a ∈ l, f a = .ok b := by
  induction l with
  | nil => exact ⟨[], rfl, by simp⟩
  | cons a l ih =>
      obtain ⟨b, hb⟩ := h a List.mem_cons_self
      obtain ⟨out, hout, hmem⟩ := ih fun x hx => h x (List.mem_cons_of_mem _ hx)
      refine ⟨b :: out, by simp [List.mapM_cons, hb, hout]; rfl, fun c => ?_⟩
      rw [List.mem_cons, hmem c]
      constructor
      · rintro (rfl | ⟨x, hx, hfx⟩)
        · exact ⟨a, List.mem_cons_self, hb⟩
        · exact ⟨x, List.mem_cons_of_mem _ hx, hfx⟩
      · rintro ⟨x, hx, hfx⟩
        rcases List.mem_cons.mp hx with rfl | hx
        · rw [hb] at hfx
          exact .inl (Except.ok.inj hfx).symm
        · exact .inr ⟨x, hx, hfx⟩

end Instances

theorem policied_eq_ok
    {s : Db} {row : ClassCourseId × ClassCourse}
    {line : (ClassCourseId × ClassCourse) × InstancePolicy} :
    (do let policy ← resolvePolicy s row.2; return (row, policy) :
      Except AppError ((ClassCourseId × ClassCourse) × InstancePolicy)) = .ok line ↔
      line.1 = row ∧ resolvePolicy s row.2 = .ok line.2 := by
  rw [Gate.bind_eq_ok]
  constructor
  · rintro ⟨policy, hpolicy, hline⟩
    obtain rfl := Except.ok.inj hline
    exact ⟨rfl, hpolicy⟩
  · rintro ⟨rfl, hpolicy⟩
    exact ⟨line.2, hpolicy, rfl⟩

theorem counted_ok (s : Store) (user : UserId) (year : AcademicYearId) :
    ∃ lines, counted s.toDb user year = .ok lines ∧
      ∀ i row policy, ((i, row), policy) ∈ lines ↔
        Counts s.toDb user year i row ∧ resolvePolicy s.toDb row = .ok policy ∧
          policy.countsTowardKarne = true := by
  have hresolves : ∀ row ∈ listForClassIds s.toDb (sectionsOfYear s.toDb user year), ∃ out,
      (do let policy ← resolvePolicy s.toDb row.2; return (row, policy) :
        Except AppError ((ClassCourseId × ClassCourse) × InstancePolicy)) = .ok out := by
    rintro ⟨i, row⟩ hrow
    have hoffering := s.offering_of i row (mem_listForClassIds.mp hrow).1
    obtain ⟨offering, hlookup⟩ := Option.isSome_iff_exists.mp hoffering
    simp only [resolvePolicy, hlookup]
    exact ⟨_, rfl⟩
  obtain ⟨resolved, hok, hmem⟩ := mapM_ok hresolves
  refine ⟨resolved.filter fun row => row.2.countsTowardKarne, ?_, fun i row policy => ?_⟩
  · rw [counted, hok]
    rfl
  · rw [List.mem_filter, hmem]
    constructor
    · rintro ⟨⟨line, hline, hout⟩, hcounts⟩
      obtain ⟨rfl, hpolicy⟩ := policied_eq_ok.mp hout
      obtain ⟨hstored, hsection⟩ := mem_listForClassIds.mp hline
      obtain ⟨hyear, hlive⟩ := mem_sectionsOfYear.mp hsection
      exact ⟨⟨⟨hstored, hlive⟩, hyear, policy, hpolicy, hcounts⟩, hpolicy, hcounts⟩
    · rintro ⟨hcounts, hpolicy, hkarne⟩
      have hline := mem_listForClassIds.mpr
        ⟨hcounts.stored, mem_sectionsOfYear.mpr ⟨hcounts.ofYear, hcounts.live⟩⟩
      exact ⟨⟨(i, row), hline, policied_eq_ok.mpr ⟨rfl, hpolicy⟩⟩, hkarne⟩

/-! ## The two averages -/

section Agree

variable {s : Store} {user : UserId} {term : TermId} {year : AcademicYearId}
  {i : ClassCourseId} {row : ClassCourse}

def averageIn (s : Db) (user : UserId) (i : ClassCourseId) (row : ClassCourse) : Option ℚ :=
  weightedAverage ((listForUserInCourse s i user).filterMap (pairOf s i row))

theorem courseMarks_some {s : Db} {block : CourseMarks}
    (h : courseMarks s user i row = some block) :
    block.classCourse = i ∧ block.average = averageIn s user i row := by
  unfold courseMarks at h
  obtain ⟨_, -, rfl⟩ := Option.map_eq_some_iff.mp h
  exact ⟨rfl, by rw [averageIn, ← block_pairs]⟩

theorem mem_buildReport_courses {viewer : Option (ClassCourseId → Bool)} {block : CourseMarks} :
    block ∈ (buildReport s.toDb user viewer).courses ↔
      ∃ i row, ((i, row) ∈ enrolledInstances s.toDb user ∧ viewer.all fun runs => runs i) ∧
        courseMarks s.toDb user i row = some block := by
  unfold buildReport
  simp only [List.mem_filterMap, List.mem_filter, Prod.exists]

theorem exists_block {viewer : Option (ClassCourseId → Bool)} (h : Sits s.toDb user i row)
    (hviewer : ∀ runs, viewer = some runs → runs i = true) :
    ∃ block ∈ (buildReport s.toDb user viewer).courses, block.classCourse = i := by
  obtain ⟨course, hcourse⟩ := Option.isSome_iff_exists.mp (s.course_of i row h.stored)
  have hsome : (courseMarks s.toDb user i row).isSome := by simp [courseMarks, hcourse]
  obtain ⟨block, hblock⟩ := Option.isSome_iff_exists.mp hsome
  have hall : viewer.all (fun runs => runs i) = true := by
    cases viewer with
    | none => rfl
    | some runs => exact hviewer runs rfl
  exact ⟨block, mem_buildReport_courses.mpr ⟨i, row, ⟨h.mem_enrolledInstances, hall⟩, hblock⟩,
    (courseMarks_some hblock).1⟩

theorem block_average {viewer : Option (ClassCourseId → Bool)} (h : Sits s.toDb user i row)
    {block : CourseMarks} (hblock : block ∈ (buildReport s.toDb user viewer).courses)
    (hi : block.classCourse = i) : block.average = averageIn s.toDb user i row := by
  obtain ⟨j, other, ⟨hlisted, -⟩, hsome⟩ := mem_buildReport_courses.mp hblock
  obtain ⟨hj, haverage⟩ := courseMarks_some hsome
  obtain rfl : j = i := hj.symm.trans hi
  have hstored := (mem_listForClassIds.mp hlisted).1
  rw [h.stored, Option.some.injEq] at hstored
  rw [haverage, hstored]

theorem compute_ok (s : Store) (user : UserId) (term : TermId) (year : AcademicYearId) :
    ∃ report, compute s.toDb user term year = .ok report ∧
      (∀ i row, Counts s.toDb user year i row →
        ∃ line ∈ report.instances, line.classCourse = i) ∧
      ∀ line ∈ report.instances, ∀ row, s.classCourse.lookup line.classCourse = some row →
        (∀ r, MarkedIn s.toDb user line.classCourse r → OfTerm s.toDb term r.exam) →
        line.average = averageIn s.toDb user line.classCourse row := by
  obtain ⟨lines, hok, hmem⟩ := counted_ok s user year
  have hcompute : ∃ report, compute s.toDb user term year = .ok report ∧
      report.instances = lines.map (karneLine s.toDb
        ((listForClassCourseCourses s.toDb (lines.map fun line => line.1.1)).filter fun exam =>
          decide (exam.2.term = term))
        (listForUserInTerm s.toDb user term (lines.map fun line => line.1.1))) := by
    rw [compute, hok]
    exact ⟨_, rfl, rfl⟩
  obtain ⟨report, hreport, hinstances⟩ := hcompute
  refine ⟨report, hreport, ?_, ?_⟩
  · intro i row hcounts
    obtain ⟨policy, hpolicy, hkarne⟩ := hcounts.policy
    rw [hinstances]
    exact ⟨_, List.mem_map_of_mem ((hmem i row policy).mpr ⟨hcounts, hpolicy, hkarne⟩), rfl⟩
  · intro line hline row hstored hterm
    rw [hinstances, List.mem_map] at hline
    obtain ⟨⟨⟨i, other⟩, policy⟩, hlisted, rfl⟩ := hline
    have hother := ((hmem i other policy).mp hlisted).1.stored
    obtain rfl : other = row := Option.some.inj (hother.symm.trans hstored)
    have hi : i ∈ lines.map fun line => line.1.1 := List.mem_map.mpr ⟨_, hlisted, rfl⟩
    change Karne.weightedAverage _ = _
    rw [karneAverage_eq, line_pairs hi, averageIn]
    exact weightedAverage_perm ((listForUserInTerm_perm hi hterm).filterMap _)

end Agree

/-- Where every mark a student has in an instance that counts is of the term, the report card
has a line for it, the marks report a block, and the two averages agree. -/
theorem block_average_eq_line_average
    (s : Store) (user : UserId) (term : TermId) (year : AcademicYearId)
    (viewer : Option (ClassCourseId → Bool)) (i : ClassCourseId) (row : ClassCourse)
    (hcounts : Counts s.toDb user year i row)
    (hviewer : ∀ runs, viewer = some runs → runs i = true)
    (hterm : ∀ r, MarkedIn s.toDb user i r →
      ∀ e, s.exam.lookup r.exam = some e → e.term = term) :
    ∃ report, compute s.toDb user term year = .ok report ∧
      (∃ line ∈ report.instances, line.classCourse = i) ∧
      (∃ block ∈ (buildReport s.toDb user viewer).courses, block.classCourse = i) ∧
      ∀ block ∈ (buildReport s.toDb user viewer).courses, ∀ line ∈ report.instances,
        block.classCourse = i → line.classCourse = i → block.average = line.average := by
  obtain ⟨report, hreport, hlines, haverages⟩ := compute_ok s user term year
  have hofTerm : ∀ r, MarkedIn s.toDb user i r → OfTerm s.toDb term r.exam := by
    intro r hr
    obtain ⟨e, he⟩ := Option.isSome_iff_exists.mp (s.exam_of _ _ (mem_results.mp hr.stored))
    exact ⟨e, he, hterm r hr e he⟩
  refine ⟨report, hreport, hlines i row hcounts, exists_block hcounts.toSits hviewer, ?_⟩
  rintro block hblock line hline hi rfl
  rw [block_average hcounts.toSits hblock hi, haverages line hline row hcounts.stored hofTerm]

namespace Sample

def student : UserId := ⟨.ending "00a1"⟩
def teacher : UserId := ⟨.ending "00a2"⟩
def year : AcademicYearId := ⟨.ending "00b1"⟩
def autumn : TermId := ⟨.ending "00b2"⟩
def class9A : ClassGroupId := ⟨.ending "00c1"⟩
def stint : ClassMemberId := ⟨.ending "00c2"⟩
def midterm : ExamId := ⟨.ending "00d1"⟩
def finalExam : ExamId := ⟨.ending "00d2"⟩

def algebra9A : ClassCourse :=
  { ExamWeights.Sample.inheriting with classGroup := class9A, attachedAt := 0 }

def live : ClassMember :=
  { classId := class9A
    user := student
    addedBy := teacher
    joinedAt := 0
    leftAt := none
    sourceClassGroup := none }

def retaken : Db :=
  { weights := ExamWeights.Sample.retired
    course := (∅ : Table CourseId Course).insert algebra9A.course ⟨"Algebra", ""⟩
    courseOffering := (∅ : Table CourseOfferingId CourseOffering).insert algebra9A.offering
      ⟨none, none, none, none⟩
    classGroup := (∅ : Table ClassGroupId (Option AcademicYearId)).insert class9A (some year)
    classMember := (∅ : Table ClassMemberId ClassMember).insert stint live
    classCourse := (∅ : Table ClassCourseId ClassCourse).insert ExamWeights.Sample.algebra9A
      algebra9A
    exam := ((∅ : Table ExamId Exam).insert midterm ⟨autumn, "Midterm", "midterm"⟩).insert finalExam
      ⟨autumn, "Final", "final"⟩
    examAudience := ((∅ : Table (ExamId × ClassCourseId) Unit).insert
      (midterm, ExamWeights.Sample.algebra9A) ()).insert (finalExam,
        ExamWeights.Sample.algebra9A) ()
    examResult := (((∅ : Table ExamResultId Graded).insert ⟨finalExam, student, 1⟩
      ⟨.low, teacher⟩).insert ⟨finalExam, student, 2⟩ ⟨⟨85, by decide, by decide⟩, teacher⟩).insert
      ⟨midterm, student, 1⟩ ⟨⟨55, by decide, by decide⟩, teacher⟩ }

def school : Store :=
  { retaken with
    course_of := by
      intro i row hrow
      simp only [retaken, lookup_insert_eq] at hrow
      split at hrow
      · cases hrow
        decide
      · cases hrow
    offering_of := by
      intro i row hrow
      simp only [retaken, lookup_insert_eq] at hrow
      split at hrow
      · cases hrow
        decide
      · cases hrow
    exam_of := by
      intro id graded hgraded
      obtain ⟨rfl, -⟩ | ⟨-, hgraded⟩ := insert_cases hgraded
      · decide
      obtain ⟨rfl, -⟩ | ⟨-, hgraded⟩ := insert_cases hgraded
      · decide
      obtain ⟨rfl, -⟩ | ⟨-, hgraded⟩ := insert_cases hgraded
      · decide
      · cases hgraded }

theorem counts : Counts school.toDb student year ExamWeights.Sample.algebra9A algebra9A where
  stored := by rfl
  live := ⟨live, mem_listForUser.mpr ⟨⟨stint, by rfl⟩, rfl, rfl⟩, rfl⟩
  ofYear := by rfl
  policy := ⟨⟨1, true⟩, by rfl, rfl⟩

end Sample

/-- The second sitting of the final weighs five times the midterm. -/
theorem block_average_eq_line_average_retaken :
    ∃ report, compute Sample.school.toDb Sample.student Sample.autumn Sample.year = .ok report ∧
      (∃ line ∈ report.instances, line.classCourse = ExamWeights.Sample.algebra9A) ∧
      (∃ block ∈ (buildReport Sample.school.toDb Sample.student none).courses,
        block.classCourse = ExamWeights.Sample.algebra9A ∧ block.average = some 80) ∧
      ∀ block ∈ (buildReport Sample.school.toDb Sample.student none).courses,
        ∀ line ∈ report.instances, block.classCourse = ExamWeights.Sample.algebra9A →
          line.classCourse = ExamWeights.Sample.algebra9A →
          block.average = some 80 ∧ line.average = some 80 := by
  have hblocks : (buildReport Sample.school.toDb Sample.student none).courses.map
      (fun block => block.average) = [some 80] := by
    decide +kernel
  have haverage : ∀ block ∈ (buildReport Sample.school.toDb Sample.student none).courses,
      block.average = some 80 := by
    intro block hblock
    have hmem : block.average ∈ [some 80] := hblocks ▸ List.mem_map_of_mem hblock
    exact List.mem_singleton.mp hmem
  obtain ⟨report, hreport, hline, ⟨block, hblock, hi⟩, hagree⟩ :=
    block_average_eq_line_average Sample.school Sample.student Sample.autumn Sample.year none
      ExamWeights.Sample.algebra9A Sample.algebra9A Sample.counts (fun _ h => by cases h) (by
        intro r _ e he
        obtain ⟨-, rfl⟩ | ⟨-, he⟩ := insert_cases he
        · rfl
        obtain ⟨-, rfl⟩ | ⟨-, he⟩ := insert_cases he
        · rfl
        · cases he)
  refine ⟨report, hreport, hline, ⟨block, hblock, hi, haverage block hblock⟩, ?_⟩
  intro block hblock line hline hi hi'
  have hvalue := haverage block hblock
  exact ⟨hvalue, (hagree block hblock line hline hi hi').symm.trans hvalue⟩

end Hezarfen.Marks
