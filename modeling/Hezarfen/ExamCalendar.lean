import Hezarfen.YearSteps

/-!
# Which year an exam belongs to

An exam is announced to its owner and to instances that teach the owner's course, and
it is filed under a term of the year its owner's section is in.  The last part is
checked when the exam is created and nowhere else: it holds in every state of a run
exactly when every PATCH that moved a section moved it to the year of the terms its
exams are filed under.
-/

namespace Hezarfen.Years

open School (Roster ClassGroupId CourseId ClassCourseId)
open Exams (ExamId TermId)

variable {exam : Exams.Exam} {pumping : Roster.Pumping} {course : CourseId} {w : World}
  {user : User} {classId : ClassGroupId} {instance_ target : ClassCourseId}
  {gone : ExamId → Exams.ExamRow → Bool}

/-! ## What the calendar promises -/

def Db.examAt (s : Db) (id : ExamId) : Option Exams.Exam := s.exams.readExam id

/-- Exams filed under a term. -/
def Db.examsOf (s : Db) (term : TermId) : ℕ :=
  Table.count s.exams.exam fun _ row => row.exam.term = term

structure Db.Filed (s : Db) : Prop where
  sections : ∀ id, (s.classSection.lookup id).isSome = (s.roster.classGroup.lookup id).isSome
  links : ∀ instance_ link, s.roster.linkOf instance_ = some link →
    (s.classSection.lookup link.1).isSome
  owned : ∀ id exam, s.examAt id = some exam →
    (s.examAudience.lookup (id, ownerOf exam)).isSome
  filed : ∀ id exam, s.examAt id = some exam → (s.term.lookup exam.term).isSome
  announced : ∀ id instance_, (s.examAudience.lookup (id, instance_)).isSome →
    ∃ exam link owner, s.examAt id = some exam ∧ s.roster.linkOf instance_ = some link ∧
      s.roster.linkOf (ownerOf exam) = some owner ∧ link.2 = owner.2
  counted : ∀ id term, s.term.lookup id = some term → term.examCount = s.examsOf id

def Db.InYear (s : Db) : Prop :=
  ∀ id exam, s.examAt id = some exam →
    ∃ term, s.term.lookup exam.term = some term ∧ s.yearOf (ownerOf exam) = some term.year

structure Db.Calendared (s : Db) : Prop where
  owner : ∀ id exam, s.examAt id = some exam →
    (s.examAudience.lookup (id, ownerOf exam)).isSome
  taught : ∀ id exam instance_, s.examAt id = some exam →
    (s.examAudience.lookup (id, instance_)).isSome →
    ∃ link owner, s.roster.classCourse.lookup instance_ = some link ∧
      s.roster.classCourse.lookup (ownerOf exam) = some owner ∧ link.course = owner.course
  year : s.InYear

structure Db.Unopened (s : Db) : Prop where
  classGroup : s.roster.classGroup = ∅
  classCourse : s.roster.classCourse = ∅
  classSection : s.classSection = ∅
  term : s.term = ∅
  exam : s.exams.exam = ∅
  examAudience : s.examAudience = ∅

def Db.ExamsFiledIn (s : Db) (classId : ClassGroupId) (year : Option AcademicYearId) : Prop :=
  ∀ id exam term, s.examAt id = some exam →
    (s.roster.linkOf (ownerOf exam)).map Prod.fst = some classId →
    s.term.lookup exam.term = some term → year = some term.year

def Db.KeepsExams (s : Db) : World × CalendarRequest → Prop
  | (_, .updateClass user id patch) =>
      ∀ row, s.readPatch user id patch = .ok row → s.ExamsFiledIn id (patch.merge row).year
  | _ => True

section Frame

variable {s s' : Db}

theorem yearOf_eq (s : Db) (instance_ : ClassCourseId) :
    s.yearOf instance_ = (s.roster.linkOf instance_).bind fun link =>
      (s.classSection.lookup link.1).bind Section.year := by
  unfold Db.yearOf Roster.linkOf
  cases s.roster.classCourse.lookup instance_ <;> rfl

theorem calendared_iff (hfiled : s.Filed) : s.Calendared ↔ s.InYear := by
  refine ⟨Db.Calendared.year, fun hyear => ⟨hfiled.owned, ?_, hyear⟩⟩
  intro id exam instance_ hexam haudience
  obtain ⟨exam', link, owner, hexam', hlink, howner, hsame⟩ :=
    hfiled.announced id instance_ haudience
  rw [hexam] at hexam'
  cases hexam'
  obtain ⟨row, hrow, -, hcourse⟩ := Roster.linkOf_eq_some.mp hlink
  obtain ⟨own, hown, -, htaught⟩ := Roster.linkOf_eq_some.mp howner
  exact ⟨row, own, hrow, hown, hcourse.trans (hsame.trans htaught.symm)⟩

theorem Db.Unopened.filed (h : s.Unopened) : s.Filed := by
  constructor <;>
    simp [Db.examAt, Exams.Db.readExam, Roster.linkOf, h.classGroup, h.classCourse,
      h.classSection, h.term, h.exam, h.examAudience]

theorem Db.Unopened.inYear (h : s.Unopened) : s.InYear := by
  simp [Db.InYear, Db.examAt, Exams.Db.readExam, h.exam]

structure Grown (s s' : Db) : Prop where
  exam : s'.exams.exam = s.exams.exam
  examAudience : s'.examAudience = s.examAudience
  term : s'.term = s.term
  sections : (∀ id, (s.classSection.lookup id).isSome = (s.roster.classGroup.lookup id).isSome) →
    ∀ id, (s'.classSection.lookup id).isSome = (s'.roster.classGroup.lookup id).isSome
  kept : ∀ id row, s.classSection.lookup id = some row → s'.classSection.lookup id = some row
  links : ∀ instance_ link, s.roster.linkOf instance_ = some link →
    s'.roster.linkOf instance_ = some link
  new : ∀ instance_ link, s'.roster.linkOf instance_ = some link →
    s.roster.linkOf instance_ = some link ∨ (s'.classSection.lookup link.1).isSome

theorem Grown.refl (s : Db) : Grown s s where
  exam := rfl
  examAudience := rfl
  term := rfl
  sections := id
  kept := fun _ _ hrow => hrow
  links := fun _ _ hlink => hlink
  new := fun _ _ hlink => .inl hlink

theorem Grown.trans {s'' : Db} (h : Grown s s') (h' : Grown s' s'') : Grown s s'' where
  exam := h'.exam.trans h.exam
  examAudience := h'.examAudience.trans h.examAudience
  term := h'.term.trans h.term
  sections := fun hsections => h'.sections (h.sections hsections)
  kept := fun id row hrow => h'.kept id row (h.kept id row hrow)
  links := fun instance_ link hlink => h'.links instance_ link (h.links instance_ link hlink)
  new := by
    intro instance_ link hlink
    rcases h'.new instance_ link hlink with hold | hstands
    · rcases h.new instance_ link hold with holder | hstands
      · exact .inl holder
      · obtain ⟨row, hrow⟩ := Option.isSome_iff_exists.mp hstands
        exact .inr (Option.isSome_iff_exists.mpr ⟨row, h'.kept _ row hrow⟩)
    · exact .inr hstands

theorem Grown.examAt (h : Grown s s') (id : ExamId) : s'.examAt id = s.examAt id := by
  unfold Db.examAt Exams.Db.readExam
  rw [h.exam]

theorem Db.Filed.grown (h : s.Filed) (hgrown : Grown s s') : s'.Filed where
  sections := hgrown.sections h.sections
  links := by
    intro instance_ link hlink
    rcases hgrown.new instance_ link hlink with hold | hstands
    · obtain ⟨row, hrow⟩ := Option.isSome_iff_exists.mp (h.links instance_ link hold)
      exact Option.isSome_iff_exists.mpr ⟨row, hgrown.kept _ row hrow⟩
    · exact hstands
  owned := by
    intro id exam hexam
    rw [hgrown.examAt] at hexam
    rw [hgrown.examAudience]
    exact h.owned id exam hexam
  filed := by
    intro id exam hexam
    rw [hgrown.examAt] at hexam
    rw [hgrown.term]
    exact h.filed id exam hexam
  announced := by
    intro id instance_ haudience
    rw [hgrown.examAudience] at haudience
    obtain ⟨exam, link, owner, hexam, hlink, howner, hcourse⟩ :=
      h.announced id instance_ haudience
    exact ⟨exam, link, owner, (hgrown.examAt id).trans hexam, hgrown.links _ _ hlink,
      hgrown.links _ _ howner, hcourse⟩
  counted := by
    intro id term hterm
    rw [hgrown.term] at hterm
    unfold Db.examsOf
    rw [hgrown.exam]
    exact h.counted id term hterm

theorem Db.Filed.owner_link
    (h : s.Filed) {id : ExamId} (hexam : s.examAt id = some exam) :
    ∃ link row, s.roster.linkOf (ownerOf exam) = some link ∧
      s.classSection.lookup link.1 = some row := by
  obtain ⟨exam', -, owner, hexam', -, howner, -⟩ :=
    h.announced id (ownerOf exam) (h.owned id exam hexam)
  rw [hexam] at hexam'
  cases hexam'
  obtain ⟨row, hrow⟩ := Option.isSome_iff_exists.mp (h.links _ owner howner)
  exact ⟨owner, row, howner, hrow⟩

theorem Db.InYear.grown (h : s.InYear) (hfiled : s.Filed) (hgrown : Grown s s') :
    s'.InYear := by
  intro id exam hexam
  rw [hgrown.examAt] at hexam
  obtain ⟨term, hterm, hyear⟩ := h id exam hexam
  obtain ⟨link, row, hlink, hrow⟩ := hfiled.owner_link hexam
  refine ⟨term, by rw [hgrown.term, hterm], ?_⟩
  rw [yearOf_eq, hlink, Option.bind_some, hrow] at hyear
  rw [yearOf_eq, hgrown.links _ link hlink, Option.bind_some, hgrown.kept _ row hrow]
  exact hyear

end Frame

section Sections

variable {s s' : Db}

theorem insertClass_grown
    {id : ClassGroupId} {row : Section} {teacher : Option UserId} (hfiled : s.Filed)
    (h : s.insertClass id row teacher = .ok s') : Grown s s' := by
  unfold Db.insertClass at h
  simp only [Gate.bind_eq_ok, Gate.ensure_eq_ok, Gate.pure_eq_ok] at h
  obtain ⟨-, -, -, hfree, rfl⟩ := h
  have hnone : s.classSection.lookup id = none := by
    have hsections := hfiled.sections id
    rw [Option.isNone_iff_eq_none.mp hfree] at hsections
    simpa using hsections
  refine ⟨rfl, rfl, rfl, ?_, ?_, fun _ _ hlink => hlink, fun _ _ hlink => .inl hlink⟩
  · intro hsections other
    simp only [lookup_insert_eq]
    split
    · rfl
    · exact hsections other
  · intro other old hold
    simp only [lookup_insert_eq]
    split
    · next heq =>
      rw [heq, hnone] at hold
      cases hold
    · exact hold

theorem attachSourced_grown
    {id : ClassCourseId} {source : Option GradeLevel} {landed : Landed}
    (h : s.attachSourced id pumping course source = .ok (landed, s')) : Grown s s' := by
  rcases attachSourced_cases h with rfl | ⟨link, roster, row, hattach, hrow, hfree, rfl⟩
  · exact .refl s'
  · have hlinks := Roster.attachCourse_linkOf hattach
    refine ⟨rfl, rfl, rfl, ?_, fun _ _ hold => hold, ?_, ?_⟩
    · intro hsections other
      rw [Roster.attachCourse_classGroup hattach]
      exact hsections other
    · intro instance_ old hold
      rw [hlinks]
      split
      · next heq =>
        subst heq
        simp [Roster.linkOf, hfree] at hold
      · exact hold
    · intro instance_ new hnew
      rw [hlinks] at hnew
      split at hnew
      · cases hnew
        exact .inr (by simp [hrow])
      · exact .inl hnew

theorem prune_grown (grade : GradeLevel) (course : CourseId) : Grown s (s.prune grade course) where
  exam := rfl
  examAudience := rfl
  term := rfl
  sections := id
  kept := fun _ _ hrow => hrow
  links := fun _ _ hlink => hlink
  new := fun _ _ hlink => .inl hlink

theorem applyCourses_grown
    {grade : GradeLevel} {uuid : ℕ → Uuid} (courses : List CourseId) :
    Grown s (s.applyCourses pumping grade uuid courses).2 := by
  induction courses generalizing s uuid with
  | nil => exact .refl s
  | cons course rest ih =>
      simp only [Db.applyCourses]
      split
      · exact .refl s
      · next hattach => exact attachSourced_grown hattach
      · next hattach =>
        exact (attachSourced_grown hattach).trans ((prune_grown grade course).trans ih)
      · next hattach => exact (attachSourced_grown hattach).trans ih

theorem stockFromBlueprint_grown
    {grade : GradeLevel} {uuid : ℕ → Uuid} :
    Grown s (s.stockFromBlueprint pumping grade uuid) := by
  unfold Db.stockFromBlueprint
  split
  · exact .refl s
  · exact applyCourses_grown _

theorem createClass_grown
    {row : Section} {teacher : Option UserId} (hfiled : s.Filed) :
    Grown s (createClass w user row teacher s).2 := by
  refine commit_rule (Grown s) (.refl s) fun s' hok => ?_
  simp only [Gate.bind_eq_ok, Gate.pure_eq_ok] at hok
  obtain ⟨-, -, year, -, assigned, -, created, hcreated, rfl⟩ := hok
  exact (insertClass_grown hfiled hcreated).trans stockFromBlueprint_grown

theorem attachCourse_grown :
    Grown s (attachCourse w user classId course s).2 := by
  refine commit_rule (Grown s) (.refl s) fun s' hok => ?_
  simp only [Gate.bind_eq_ok, Gate.pure_eq_ok] at hok
  obtain ⟨-, -, row, -, -, -, -, -, -, -, landed, hlanded, -, -, rfl⟩ := hok
  exact attachSourced_grown hlanded

end Sections

/-! ## A section that moves -/

section Moves

variable {s s' : Db} {id : ClassGroupId} {row : Section} {patch : SectionPatch}

theorem readPatch_row (h : s.readPatch user id patch = .ok row) :
    s.classSection.lookup id = some row := by
  unfold Db.readPatch Db.classOr404 at h
  simp only [Gate.bind_eq_ok, Gate.found_eq_ok, Gate.pure_eq_ok] at h
  obtain ⟨-, -, found, hfound, -, -, -, -, -, -, rfl⟩ := h
  exact hfound

theorem updateSection_exams :
    (s.updateSection id row patch).exams = s.exams ∧
      (s.updateSection id row patch).examAudience = s.examAudience ∧
      (s.updateSection id row patch).term = s.term := by
  unfold Db.updateSection
  dsimp only
  split <;> exact ⟨rfl, rfl, rfl⟩

theorem updateSection_section (other : ClassGroupId) :
    (s.updateSection id row patch).classSection.lookup other =
      if other = id then some (patch.merge row) else s.classSection.lookup other :=
  lookup_insert_eq _ _ _ _

theorem updateSection_linkOf (instance_ : ClassCourseId) :
    (s.updateSection id row patch).roster.linkOf instance_ = s.roster.linkOf instance_ := by
  unfold Db.updateSection
  dsimp only
  cases patch.teacher <;> rfl

theorem updateSection_classGroup (other : ClassGroupId) :
    ((s.updateSection id row patch).roster.classGroup.lookup other).isSome =
      (s.roster.classGroup.lookup other).isSome := by
  unfold Db.updateSection
  dsimp only
  cases patch.teacher with
  | none => rfl
  | some => simp [Roster.setHomeroom]

theorem updateSection_examAt (exam : ExamId) :
    (s.updateSection id row patch).examAt exam = s.examAt exam := by
  unfold Db.examAt
  rw [updateSection_exams.1]

theorem Db.Filed.moved (h : s.Filed) (hrow : s.classSection.lookup id = some row) :
    (s.updateSection id row patch).Filed where
  sections := by
    intro other
    rw [updateSection_section, updateSection_classGroup, ← h.sections other]
    split
    · next heq =>
      subst heq
      rw [hrow]
      rfl
    · rfl
  links := by
    intro instance_ link hlink
    rw [updateSection_linkOf] at hlink
    rw [updateSection_section]
    split
    · rfl
    · exact h.links instance_ link hlink
  owned := by
    intro exam row hexam
    rw [updateSection_examAt] at hexam
    rw [updateSection_exams.2.1]
    exact h.owned exam row hexam
  filed := by
    intro exam row hexam
    rw [updateSection_examAt] at hexam
    rw [updateSection_exams.2.2]
    exact h.filed exam row hexam
  announced := by
    intro exam instance_ haudience
    rw [updateSection_exams.2.1] at haudience
    obtain ⟨row, link, owner, hexam, hlink, howner, hcourse⟩ :=
      h.announced exam instance_ haudience
    exact ⟨row, link, owner, (updateSection_examAt exam).trans hexam,
      (updateSection_linkOf _).trans hlink, (updateSection_linkOf _).trans howner, hcourse⟩
  counted := by
    intro term row hterm
    rw [updateSection_exams.2.2] at hterm
    unfold Db.examsOf
    rw [updateSection_exams.1]
    exact h.counted term row hterm

/-- A PATCH keeps the exams in their year exactly when the section stays in the year they
are filed under. -/
theorem inYear_moved_iff (hfiled : s.Filed) (hyears : s.InYear) :
    (s.updateSection id row patch).InYear ↔ s.ExamsFiledIn id (patch.merge row).year := by
  have hyearOf : ∀ instance_ link, s.roster.linkOf instance_ = some link →
      (s.updateSection id row patch).yearOf instance_ =
        if link.1 = id then (patch.merge row).year else s.yearOf instance_ := by
    intro instance_ link hlink
    rw [yearOf_eq, updateSection_linkOf, hlink, Option.bind_some, updateSection_section,
      yearOf_eq, hlink, Option.bind_some]
    split <;> rfl
  constructor
  · intro hmoved exam row' term hexam hclass hterm
    obtain ⟨link, hlink, hid⟩ := Option.map_eq_some_iff.mp hclass
    obtain ⟨term', hterm', hyear⟩ := hmoved exam row' ((updateSection_examAt exam).trans hexam)
    rw [updateSection_exams.2.2, hterm] at hterm'
    cases hterm'
    rw [hyearOf _ link hlink, if_pos hid] at hyear
    exact hyear
  · intro hkept exam row' hexam
    rw [updateSection_examAt] at hexam
    obtain ⟨term, hterm, hyear⟩ := hyears exam row' hexam
    obtain ⟨link, section_, hlink, hsection⟩ := hfiled.owner_link hexam
    refine ⟨term, by rw [updateSection_exams.2.2, hterm], ?_⟩
    rw [hyearOf _ link hlink]
    split
    · next hid => exact hkept exam row' term hexam (by rw [hlink, Option.map_some, hid]) hterm
    · exact hyear

end Moves

section Terms

variable {s s' : Db}

theorem Db.Filed.termsWritten
    {years : Table AcademicYearId AcademicYear} {terms : Table TermId Term} (h : s.Filed)
    (hkept : ∀ id exam, s.examAt id = some exam → (terms.lookup exam.term).isSome)
    (hcounted : ∀ id term, terms.lookup id = some term → term.examCount = s.examsOf id) :
    ({ s with academicYear := years, term := terms } : Db).Filed where
  sections := h.sections
  links := h.links
  owned := h.owned
  filed := hkept
  announced := h.announced
  counted := hcounted

theorem Db.InYear.termsWritten
    {years : Table AcademicYearId AcademicYear} {terms : Table TermId Term} (h : s.InYear)
    (hkept : ∀ id exam term, s.examAt id = some exam → s.term.lookup exam.term = some term →
      terms.lookup exam.term = some term) :
    ({ s with academicYear := years, term := terms } : Db).InYear := by
  intro id exam hexam
  obtain ⟨term, hterm, hyear⟩ := h id exam hexam
  exact ⟨term, hkept id exam term hexam hterm, hyear⟩

theorem examsOf_eq_zero (hfiled : s.Filed) {id : TermId} (hnone : s.term.lookup id = none) :
    s.examsOf id = 0 := by
  unfold Db.examsOf
  rw [Table.count_eq_zero_iff]
  intro key row hrow
  have hstands := hfiled.filed key row.exam (by simp [Db.examAt, Exams.Db.readExam, hrow])
  simp only [decide_eq_false_iff_not]
  intro heq
  rw [heq, hnone] at hstands
  cases hstands

theorem insertTerm_kept
    {id : TermId} {year : AcademicYearId} {startsAt endsAt : Timestamp} (hfiled : s.Filed)
    (h : s.insertTerm id year startsAt endsAt = .ok s') : s'.Filed ∧ (s.InYear → s'.InYear) := by
  unfold Db.insertTerm at h
  simp only [Gate.bind_eq_ok, Gate.ensure_eq_ok, Gate.pure_eq_ok] at h
  obtain ⟨-, -, -, hfree, rfl⟩ := h
  have hnone : s.term.lookup id = none := Option.isNone_iff_eq_none.mp hfree
  constructor
  · apply hfiled.termsWritten
    · intro exam row hexam
      rw [lookup_insert_eq]
      split
      · rfl
      · exact hfiled.filed exam row hexam
    · intro other term hterm
      obtain ⟨rfl, rfl⟩ | ⟨-, hterm⟩ := insert_cases hterm
      · rw [examsOf_eq_zero hfiled hnone]
        rfl
      · exact hfiled.counted other term hterm
  · intro hyears
    apply hyears.termsWritten
    intro exam row term hexam hterm
    rw [lookup_insert_eq, if_neg]
    · exact hterm
    · intro heq
      rw [heq, hnone] at hterm
      cases hterm

theorem deleteTerm_kept
    {id : TermId} {row : Term} (hfiled : s.Filed) (hrow : s.term.lookup id = some row)
    (h : s.deleteTerm id row = some s') : s'.Filed ∧ (s.InYear → s'.InYear) := by
  unfold Db.deleteTerm at h
  split at h
  · next hempty =>
    cases h
    have hzero : s.examsOf id = 0 := by
      have hcount := hfiled.counted id row hrow
      rw [hempty.1] at hcount
      exact_mod_cast hcount.symm
    have hother : ∀ exam row, s.examAt exam = some row → row.term ≠ id := by
      intro exam row hexam heq
      obtain ⟨stored, hstored, rfl⟩ := Option.map_eq_some_iff.mp hexam
      have hmiss := Table.count_eq_zero_iff.mp hzero exam stored hstored
      simp [heq] at hmiss
    constructor
    · apply hfiled.termsWritten
      · intro exam row hexam
        rw [lookup_erase_eq, if_neg (hother exam row hexam)]
        exact hfiled.filed exam row hexam
      · intro other term hterm
        obtain ⟨-, hterm⟩ := erase_cases hterm
        exact hfiled.counted other term hterm
    · intro hyears
      apply hyears.termsWritten
      intro exam row term hexam hterm
      rw [lookup_erase_eq, if_neg (hother exam row hexam)]
      exact hterm
  · cases h

end Terms

section Exams

variable {s s' : Db}

theorem examAt_cascade {p : ExamId → Exams.ExamRow → Bool} {id : ExamId} :
    ((s.exams.cascade p).readExam id) = some exam ↔
      ∃ row, s.exams.exam.lookup id = some row ∧ row.exam = exam ∧ p id row = false := by
  simp only [Exams.Db.readExam, Exams.Db.cascade, lookup_deleteWhere,
    Option.map_eq_some_iff, Option.filter_eq_some_iff, Bool.not_eq_true']
  constructor
  · rintro ⟨row, ⟨hrow, hp⟩, rfl⟩
    exact ⟨row, hrow, rfl, hp⟩
  · rintro ⟨row, hrow, rfl, hp⟩
    exact ⟨row, ⟨hrow, hp⟩, rfl⟩

theorem examAt_of_row {id : ExamId} {row : Exams.ExamRow}
    (h : s.exams.exam.lookup id = some row) : s.examAt id = some row.exam := by
  simp [Db.examAt, Exams.Db.readExam, h]

theorem examAt_eq_some {id : ExamId} :
    s.examAt id = some exam ↔ ∃ row, s.exams.exam.lookup id = some row ∧ row.exam = exam :=
  Option.map_eq_some_iff

theorem ownerOf_eq_iff :
    ownerOf exam = instance_ ↔ exam.classCourse = ⟨instance_.uuid⟩ := by
  obtain ⟨uuid⟩ := instance_
  cases h : exam.classCourse
  simp [ownerOf, h]

def Db.withdrawnFrom (s : Db) (gone : ExamId → Exams.ExamRow → Bool) (term : TermId) : ℕ :=
  Table.count s.exams.exam fun id row => gone id row && decide (row.exam.term = term)

structure Withdrawn (s s' : Db) (gone : ExamId → Exams.ExamRow → Bool) : Prop where
  exams : s'.exams = s.exams.cascade gone
  term : ∀ id, s'.term.lookup id = (s.term.lookup id).map fun row =>
    if 0 < s.withdrawnFrom gone id then row.release (s.withdrawnFrom gone id) else row
  classSection : s'.classSection = s.classSection
  classGroup : ∀ id, (s'.roster.classGroup.lookup id).isSome =
    (s.roster.classGroup.lookup id).isSome

theorem Withdrawn.examAt (h : Withdrawn s s' gone) {id : ExamId} :
    s'.examAt id = some exam ↔
      ∃ row, s.exams.exam.lookup id = some row ∧ row.exam = exam ∧ gone id row = false := by
  unfold Db.examAt
  rw [h.exams]
  exact examAt_cascade

theorem Withdrawn.counted (h : Withdrawn s s' gone) (hfiled : s.Filed) {id : TermId} {term : Term}
    (hterm : s'.term.lookup id = some term) :
    term.examCount = s'.examsOf id := by
  rw [h.term, Option.map_eq_some_iff] at hterm
  obtain ⟨old, hold, rfl⟩ := hterm
  have hcount := hfiled.counted id old hold
  have hsplit : s'.examsOf id + s.withdrawnFrom gone id = s.examsOf id := by
    unfold Db.examsOf Db.withdrawnFrom
    rw [h.exams]
    exact Table.count_deleteWhere_add s.exams.exam gone fun _ row => decide (row.exam.term = id)
  split
  · change max (old.examCount - _) 0 = _
    omega
  · omega

theorem Withdrawn.term_of (h : Withdrawn s s' gone) {id : TermId} {term : Term}
    (hterm : s.term.lookup id = some term) :
    ∃ term', s'.term.lookup id = some term' ∧ term'.year = term.year := by
  rw [h.term, hterm]
  refine ⟨_, rfl, ?_⟩
  split <;> rfl

theorem Withdrawn.kept (h : Withdrawn s s' gone) (hfiled : s.Filed)
    (hlinks : ∀ instance_ link, s'.roster.linkOf instance_ = some link →
      s.roster.linkOf instance_ = some link)
    (haudience : ∀ id instance_, (s'.examAudience.lookup (id, instance_)).isSome →
      (s.examAudience.lookup (id, instance_)).isSome ∧
        (∀ row, s.exams.exam.lookup id = some row → gone id row = false ∧
          s'.roster.linkOf (ownerOf row.exam) = s.roster.linkOf (ownerOf row.exam)) ∧
        s'.roster.linkOf instance_ = s.roster.linkOf instance_)
    (howned : ∀ id row, s.exams.exam.lookup id = some row → gone id row = false →
      (s'.examAudience.lookup (id, ownerOf row.exam)).isSome) :
    s'.Filed ∧ (s.InYear → s'.InYear) := by
  have hsame : ∀ id exam, s'.examAt id = some exam →
      s.examAt id = some exam ∧ (s'.examAudience.lookup (id, ownerOf exam)).isSome := by
    intro id exam hexam
    obtain ⟨row, hrow, rfl, hkept⟩ := h.examAt.mp hexam
    exact ⟨examAt_of_row hrow, howned id row hrow hkept⟩
  constructor
  · constructor
    · intro id
      rw [h.classSection, h.classGroup]
      exact hfiled.sections id
    · intro instance_ link hlink
      rw [h.classSection]
      exact hfiled.links instance_ link (hlinks instance_ link hlink)
    · intro id exam hexam
      exact (hsame id exam hexam).2
    · intro id exam hexam
      obtain ⟨term, hterm⟩ :=
        Option.isSome_iff_exists.mp (hfiled.filed id exam (hsame id exam hexam).1)
      obtain ⟨term', hterm', -⟩ := h.term_of hterm
      rw [hterm']
      rfl
    · intro id instance_ hstands
      obtain ⟨hbefore, hexam, hlink⟩ := haudience id instance_ hstands
      obtain ⟨exam, link, owner, hat, hold, howner, hcourse⟩ :=
        hfiled.announced id instance_ hbefore
      obtain ⟨row, hrow, rfl⟩ := examAt_eq_some.mp hat
      obtain ⟨hkept, hown⟩ := hexam row hrow
      exact ⟨row.exam, link, owner, h.examAt.mpr ⟨row, hrow, rfl, hkept⟩, hlink.trans hold,
        hown.trans howner, hcourse⟩
    · intro id term hterm
      exact h.counted hfiled hterm
  · intro hyears id exam hexam
    obtain ⟨hbefore, hstands⟩ := hsame id exam hexam
    obtain ⟨term, hterm, hyear⟩ := hyears id exam hbefore
    obtain ⟨term', hterm', hsameYear⟩ := h.term_of hterm
    refine ⟨term', hterm', ?_⟩
    rw [hsameYear, ← hyear, yearOf_eq, yearOf_eq, h.classSection,
      (haudience id (ownerOf exam) hstands).2.2]

theorem detachCourse_kept
    {source : Option GradeLevel} (hfiled : s.Filed)
    (h : s.detachCourse classId course source = some s') :
    s'.Filed ∧ (s.InYear → s'.InYear) := by
  obtain ⟨target, hinstance, -, rfl⟩ := detachCourse_cases h
  have hlinkOf := Roster.detachCourse_linkOf hinstance
  have hwithdrawn : Withdrawn s
      { s.sweepInstance target with
        roster := (s.roster.detachCourse classId course).2
        classInstance := s.classInstance.erase target
        classCourseSubject := Table.deleteWhere s.classCourseSubject fun pair _ =>
          pair.1 = target
        classCourseSlot := Table.deleteWhere s.classCourseSlot fun _ row =>
          row.classCourse = target
        classCourseExamWeight := Table.deleteWhere s.classCourseExamWeight fun pair _ =>
          pair.1 = target }
      fun _ row => ownerOf row.exam = target := by
    refine ⟨?_, fun id => ?_, rfl, fun id => Roster.detachCourse_classGroup classId course id⟩
    · simp only [ownerOf_eq_iff]
      rfl
    · exact lookup_update _ _ id
  refine hwithdrawn.kept hfiled ?_ ?_ ?_
  · intro instance_ link hlink
    rw [hlinkOf] at hlink
    split at hlink
    · cases hlink
    · exact hlink
  · intro id instance_ hstands
    obtain ⟨found, hfound⟩ := Option.isSome_iff_exists.mp hstands
    change (Table.deleteWhere s.examAudience _).lookup (id, instance_) = some found at hfound
    rw [lookup_deleteWhere, Option.filter_eq_some_iff] at hfound
    obtain ⟨hbefore, hkept⟩ := hfound
    simp only [Bool.not_eq_true', Bool.or_eq_false_iff, decide_eq_false_iff_not] at hkept
    refine ⟨by rw [hbefore]; rfl, ?_, (hlinkOf instance_).trans (if_neg hkept.1)⟩
    intro row hrow
    have howner : ownerOf row.exam ≠ target := by simpa [hrow] using hkept.2
    exact ⟨decide_eq_false howner, (hlinkOf _).trans (if_neg howner)⟩
  · intro id row hrow hkept
    obtain ⟨found, hfound⟩ := Option.isSome_iff_exists.mp
      (hfiled.owned id row.exam (examAt_of_row hrow))
    refine Option.isSome_iff_exists.mpr ⟨found, ?_⟩
    change (Table.deleteWhere s.examAudience _).lookup (id, ownerOf row.exam) = some found
    rw [lookup_deleteWhere, hfound, Option.filter_eq_some_iff]
    exact ⟨rfl, by simpa [hrow] using hkept⟩

theorem deleteExam_kept
    {id : ExamId} (hfiled : s.Filed) (h : s.deleteExam id = .ok s') :
    s'.Filed ∧ (s.InYear → s'.InYear) := by
  unfold Db.deleteExam at h
  simp only [Gate.bind_eq_ok, Gate.found_eq_ok, Gate.pure_eq_ok] at h
  obtain ⟨row, hrow, rfl⟩ := h
  have hcount : ∀ term, s.withdrawnFrom (fun key _ => key = id) term =
      if term = row.exam.term then 1 else 0 := by
    intro term
    have herase := Table.count_erase s.exams.exam id
      fun key stored => decide (key = id) && decide (stored.exam.term = term)
    rw [hrow] at herase
    have hrest : Table.count (s.exams.exam.erase id)
        (fun key stored => decide (key = id) && decide (stored.exam.term = term)) = 0 := by
      rw [Table.count_eq_zero_iff]
      intro key stored hstored
      obtain ⟨hne, hstored⟩ := erase_cases hstored
      simp [hne]
    unfold Db.withdrawnFrom
    rw [← herase, hrest]
    by_cases hterm : term = row.exam.term
    · simp [hterm]
    · simp [hterm, Ne.symm hterm]
  have hwithdrawn : Withdrawn s
      { s with
        examAudience := Table.deleteWhere s.examAudience fun pair _ => pair.1 = id
        term := Table.update s.term fun key term =>
          if key = row.exam.term then term.release 1 else term
        exams := s.exams.cascade fun key _ => key = id }
      fun key _ => key = id := by
    refine ⟨rfl, fun term => ?_, rfl, fun _ => rfl⟩
    rw [hcount, lookup_update]
    congr 1
    funext old
    by_cases hterm : term = row.exam.term <;> simp [hterm]
  refine hwithdrawn.kept hfiled (fun _ _ hlink => hlink) ?_ ?_
  · intro other instance_ hstands
    obtain ⟨found, hfound⟩ := Option.isSome_iff_exists.mp hstands
    rw [lookup_deleteWhere, Option.filter_eq_some_iff] at hfound
    obtain ⟨hbefore, hkept⟩ := hfound
    exact ⟨by rw [hbefore]; rfl, fun stored _ => ⟨by simpa using hkept, rfl⟩, rfl⟩
  · intro other stored hstored hkept
    obtain ⟨found, hfound⟩ := Option.isSome_iff_exists.mp
      (hfiled.owned other stored.exam (examAt_of_row hstored))
    refine Option.isSome_iff_exists.mpr ⟨found, ?_⟩
    rw [lookup_deleteWhere, hfound, Option.filter_eq_some_iff]
    exact ⟨rfl, by simpa using hkept⟩

theorem createExam_kept
    (hfiled : s.Filed) (h : s.createExam exam = .ok s') :
    s'.Filed ∧ (s.InYear → s'.InYear) := by
  obtain ⟨link, term, hlink, hterm, hyear, -, hfresh, rfl⟩ := createExam_cases h
  have hexamAt : ∀ id, Db.examAt
      { s with
        term := s.term.insert exam.term { term with examCount := term.examCount + 1 }
        exams := s.exams.insertExam exam
        examAudience := s.examAudience.insert (exam.id, ownerOf exam) () } id =
      if id = exam.id then some exam else s.examAt id := by
    intro id
    simp only [Db.examAt, Exams.Db.readExam, Exams.Db.insertExam, lookup_insert_eq]
    split <;> rfl
  have hnone : s.examAt exam.id = none := by simp [Db.examAt, Exams.Db.readExam, hfresh]
  constructor
  · constructor
    · exact hfiled.sections
    · exact hfiled.links
    · intro id row hrow
      rw [hexamAt] at hrow
      rw [lookup_insert_eq]
      split at hrow
      · next heq =>
        cases hrow
        rw [if_pos (by rw [heq])]
        rfl
      · split
        · rfl
        · exact hfiled.owned id row hrow
    · intro id row hrow
      rw [hexamAt] at hrow
      rw [lookup_insert_eq]
      split
      · rfl
      · next hother =>
        split at hrow
        · cases hrow
          exact absurd rfl hother
        · exact hfiled.filed id row hrow
    · intro id instance_ hstands
      rw [lookup_insert_eq] at hstands
      split at hstands
      · next heq =>
        cases heq
        have hown := Roster.linkOf_of_row hlink
        exact ⟨exam, _, _, by rw [hexamAt, if_pos rfl], hown, hown, rfl⟩
      · obtain ⟨other, old, owner, hother, hold, howner, hcourse⟩ :=
          hfiled.announced id instance_ hstands
        refine ⟨other, old, owner, ?_, hold, howner, hcourse⟩
        rw [hexamAt, if_neg]
        · exact hother
        · intro heq
          rw [heq, hnone] at hother
          cases hother
    · intro id row hrow
      rw [lookup_insert_eq] at hrow
      have hinsert := Table.count_insert s.exams.exam exam.id ⟨exam, 0⟩
        fun _ stored => decide (stored.exam.term = id)
      rw [hfresh] at hinsert
      unfold Db.examsOf
      change row.examCount = (Table.count (s.exams.exam.insert exam.id ⟨exam, 0⟩)
        fun _ stored => decide (stored.exam.term = id) : ℕ)
      split at hrow
      · next heq =>
        cases hrow
        subst heq
        have hcount := hfiled.counted _ term hterm
        unfold Db.examsOf at hcount
        simp at hinsert
        change term.examCount + 1 = _
        omega
      · next hother =>
        have hcount := hfiled.counted id row hrow
        unfold Db.examsOf at hcount
        simp [Ne.symm hother] at hinsert
        omega
  · intro hyears id row hrow
    rw [hexamAt] at hrow
    have hterms : ∀ key old, s.term.lookup key = some old →
        ∃ new, (s.term.insert exam.term
          { term with examCount := term.examCount + 1 }).lookup key = some new ∧
          new.year = old.year := by
      intro key old hold
      rw [lookup_insert_eq]
      split
      · next heq =>
        subst heq
        rw [hterm] at hold
        cases hold
        exact ⟨_, rfl, rfl⟩
      · exact ⟨old, hold, rfl⟩
    split at hrow
    · cases hrow
      obtain ⟨new, hnew, hsame⟩ := hterms _ term hterm
      exact ⟨new, hnew, by rw [hsame]; exact hyear⟩
    · obtain ⟨old, hold, hin⟩ := hyears id row hrow
      obtain ⟨new, hnew, hsame⟩ := hterms _ old hold
      exact ⟨new, hnew, by rw [hsame]; exact hin⟩

theorem audience_announced
    {id : ExamId} {link owner : School.ClassCourse} (hfiled : s.Filed)
    (hexam : s.examAt id = some exam) (hlink : s.roster.classCourse.lookup target = some link)
    (howner : s.roster.classCourse.lookup (ownerOf exam) = some owner)
    (hcourse : link.course = owner.course) :
    ({ s with examAudience := s.examAudience.insert (id, target) () } : Db).Filed where
  sections := hfiled.sections
  links := hfiled.links
  owned := by
    intro other row hrow
    rw [lookup_insert_eq]
    split
    · rfl
    · exact hfiled.owned other row hrow
  filed := hfiled.filed
  announced := by
    intro other instance_ hstands
    rw [lookup_insert_eq] at hstands
    split at hstands
    · next heq =>
      cases heq
      exact ⟨exam, _, _, hexam, Roster.linkOf_of_row hlink, Roster.linkOf_of_row howner,
        hcourse⟩
    · exact hfiled.announced other instance_ hstands
  counted := hfiled.counted

/-- An audience row other than the owner's goes. -/
theorem audience_withdrawn
    {id : ExamId} (hfiled : s.Filed) (hexam : s.examAt id = some exam)
    (htarget : ownerOf exam ≠ target) :
    ({ s with examAudience := s.examAudience.erase (id, target) } : Db).Filed where
  sections := hfiled.sections
  links := hfiled.links
  owned := by
    intro other row hrow
    rw [lookup_erase_eq, if_neg]
    · exact hfiled.owned other row hrow
    · intro heq
      cases heq
      rw [show s.examAt id = some row from hrow] at hexam
      cases hexam
      exact htarget rfl
  filed := hfiled.filed
  announced := by
    intro other instance_ hstands
    rw [lookup_erase_eq] at hstands
    split at hstands
    · cases hstands
    · exact hfiled.announced other instance_ hstands
  counted := hfiled.counted

end Exams

/-! ## Every request -/

section Requests

variable {s : Db}

def Db.Kept (s s' : Db) : Prop := s'.Filed ∧ (s.InYear → s'.InYear)

theorem kept_refl (hfiled : s.Filed) : s.Kept s := ⟨hfiled, id⟩

theorem kept_grown {s' : Db} (hfiled : s.Filed) (h : Grown s s') : s.Kept s' :=
  ⟨hfiled.grown h, fun hyears => hyears.grown hfiled h⟩

theorem detachCourse_request
    (hfiled : s.Filed) :
    s.Kept (detachCourse user classId instance_ s).2 := by
  refine commit_rule s.Kept (kept_refl hfiled) fun s' hok => ?_
  simp only [Gate.bind_eq_ok, Gate.found_eq_ok] at hok
  obtain ⟨-, -, row, -, link, -, -, -, -, -, -, -, hdetach⟩ := hok
  exact detachCourse_kept hfiled hdetach

theorem createTerm_request
    {year : AcademicYearId} {startsAt endsAt : Timestamp} (hfiled : s.Filed) :
    s.Kept (createTerm w user year startsAt endsAt s).2 := by
  refine commit_rule s.Kept (kept_refl hfiled) fun s' hok => ?_
  simp only [Gate.bind_eq_ok] at hok
  obtain ⟨-, -, -, -, -, -, hinsert⟩ := hok
  exact insertTerm_kept hfiled hinsert

theorem deleteTerm_request {id : TermId} (hfiled : s.Filed) :
    s.Kept (deleteTerm user id s).2 := by
  refine commit_rule s.Kept (kept_refl hfiled) fun s' hok => ?_
  simp only [Gate.bind_eq_ok, Gate.found_eq_ok] at hok
  obtain ⟨-, -, row, hrow, -, -, -, -, hdelete⟩ := hok
  exact deleteTerm_kept hfiled hrow hdelete

theorem createExam_request
    (hfiled : s.Filed) : s.Kept (createExamInInstance w user instance_ exam s).2 := by
  refine commit_rule s.Kept (kept_refl hfiled) fun s' hok => ?_
  simp only [Gate.bind_eq_ok] at hok
  obtain ⟨-, -, -, -, -, -, -, -, hcreate⟩ := hok
  exact createExam_kept hfiled hcreate

theorem deleteExam_request {id : ExamId} (hfiled : s.Filed) :
    s.Kept (deleteExam user id s).2 := by
  refine commit_rule s.Kept (kept_refl hfiled) fun s' hok => ?_
  simp only [Gate.bind_eq_ok] at hok
  obtain ⟨-, -, -, -, -, -, -, -, -, -, hdelete⟩ := hok
  exact deleteExam_kept hfiled hdelete

theorem managedExam_ok {id : ExamId} (h : s.managedExam user id = .ok exam) :
    s.examAt id = some exam := by
  unfold Db.managedExam Db.examOr404 at h
  simp only [Gate.bind_eq_ok, Gate.found_eq_ok, Gate.pure_eq_ok] at h
  obtain ⟨found, hfound, -, -, rfl⟩ := h
  exact hfound

theorem addAudience_request
    {id : ExamId} (hfiled : s.Filed) :
    s.Kept (addAudience user id target s).2 := by
  refine commit_rule s.Kept (kept_refl hfiled) fun s' hok => ?_
  simp only [Db.instanceOr404, Db.insertAudience, Gate.bind_eq_ok, Gate.found_eq_ok,
    Gate.ensure_eq_ok, Gate.pure_eq_ok, decide_eq_true_eq] at hok
  obtain ⟨-, -, exam, hexam, owner, howner, link, hlink, -, -, -, hcourse, -, -, -, -, -, -, -,
    -, rfl⟩ := hok
  exact ⟨audience_announced hfiled (managedExam_ok hexam) hlink howner hcourse, fun hyears =>
    hyears⟩

theorem removeAudience_request
    {id : ExamId} (hfiled : s.Filed) :
    s.Kept (removeAudience user id target s).2 := by
  refine commit_rule s.Kept (kept_refl hfiled) fun s' hok => ?_
  simp only [Gate.bind_eq_ok, Gate.found_eq_ok, Gate.ensure_eq_ok, Gate.pure_eq_ok,
    decide_eq_true_eq] at hok
  obtain ⟨-, -, exam, hexam, -, howner, -, -, -, -, rfl⟩ := hok
  exact ⟨audience_withdrawn hfiled (managedExam_ok hexam) howner, fun hyears => hyears⟩

theorem updateClass_eq {id : ClassGroupId} {patch : SectionPatch} :
    (updateClass user id patch s).2 =
      match s.readPatch user id patch with
      | .ok row => s.updateSection id row patch
      | .error _ => s := by
  unfold updateClass commit
  dsimp only
  cases s.readPatch user id patch <;> rfl

/-- A PATCH of a section keeps the exams in their year exactly when it keeps the section in
the year they are filed under. -/
theorem updateClass_request
    {id : ClassGroupId} {patch : SectionPatch} (hfiled : s.Filed) :
    (updateClass user id patch s).2.Filed ∧
      (s.InYear → ((updateClass user id patch s).2.InYear ↔
        s.KeepsExams (w, .updateClass user id patch))) := by
  rw [updateClass_eq]
  unfold Db.KeepsExams
  cases hread : s.readPatch user id patch with
  | error =>
      refine ⟨hfiled, fun hyears => iff_of_true hyears fun row hrow => ?_⟩
      rw [hread] at hrow
      cases hrow
  | ok row =>
      refine ⟨hfiled.moved (readPatch_row hread), fun hyears => ?_⟩
      refine (inYear_moved_iff hfiled hyears).trans ⟨fun hkept row' hrow' => ?_, fun hall => ?_⟩
      · rw [hread] at hrow'
        cases hrow'
        exact hkept
      · exact hall row hread

theorem calendarStep_kept (request : World × CalendarRequest) (hfiled : s.Filed) :
    (calendarStep request s).Filed ∧
      (s.InYear → ((calendarStep request s).InYear ↔ s.KeepsExams request)) := by
  obtain ⟨w, request⟩ := request
  have hkept : ∀ s', s.Kept s' → s'.Filed ∧ (s.InYear → (s'.InYear ↔ True)) :=
    fun s' h => ⟨h.1, fun hyears => iff_true_intro (h.2 hyears)⟩
  cases request with
  | createClass => exact hkept _ (kept_grown hfiled (createClass_grown hfiled))
  | updateClass => exact updateClass_request hfiled
  | attachCourse => exact hkept _ (kept_grown hfiled attachCourse_grown)
  | detachCourse => exact hkept _ (detachCourse_request hfiled)
  | createTerm => exact hkept _ (createTerm_request hfiled)
  | deleteTerm => exact hkept _ (deleteTerm_request hfiled)
  | createExam => exact hkept _ (createExam_request hfiled)
  | deleteExam => exact hkept _ (deleteExam_request hfiled)
  | addAudience => exact hkept _ (addAudience_request hfiled)
  | removeAudience => exact hkept _ (removeAudience_request hfiled)

/-- The exams stay where the report cards look for them, in every state of a run, exactly
when every PATCH keeps the section it moves in the year its exams are filed under. -/
theorem calendared_iff_keepsExams
    {requests : List (World × CalendarRequest)} (hstart : s.Unopened) :
    (∀ before, before <+: requests → (Sequential.run calendarStep s before).Calendared) ↔
      Sequential.Meets calendarStep Db.KeepsExams s requests := by
  have hstep : ∀ s request, Db.Filed s → Db.Filed (calendarStep request s) :=
    fun s request h => (calendarStep_kept request h).1
  have hfiled : ∀ before, (Sequential.run calendarStep s before).Filed := fun before =>
    Sequential.run_invariant hstep hstart.filed
  simp only [calendared_iff (hfiled _)]
  exact Sequential.always_iff_meets hstep
    (fun s request h hyears => (calendarStep_kept request h).2 hyears)
    hstart.filed hstart.inYear

end Requests

namespace Sample

open School.Sample (headmaster accounts firstUuid secondUuid thirdUuid fourthUuid)

def office : User := ⟨headmaster, .admin⟩

def openYear : AcademicYear := ⟨[], 0, 0, none⟩

def firstYear : AcademicYearId := ⟨firstUuid⟩

def secondYear : AcademicYearId := ⟨secondUuid⟩

def ninth : GradeLevel := .ninth

def school : Db where
  appUser := accounts
  academicYear := ((∅ : Table AcademicYearId AcademicYear).insert firstYear openYear).insert
    secondYear openYear
  term := ∅
  karneSnapshot := ∅
  roster := { Roster.empty with
    course := (∅ : Table CourseId School.Course).insert ⟨firstUuid⟩ ⟨.course, 0⟩ }
  classSection := ∅
  classInstance := ∅
  classBlueprint := ∅
  courseCreator := ∅
  subjectCourse := ∅
  exams := .empty
  examAudience := ∅
  offeringSubject := ∅
  classCourseSubject := ∅
  classCourseSlot := ∅
  classCourseExamWeight := ∅
  courseSession := ∅
  homework := ∅

theorem school_unopened : school.Unopened := ⟨rfl, rfl, rfl, rfl, rfl, rfl⟩

def drawing (uuid : Uuid) : World := ⟨0, fun _ => uuid⟩

def midterm : Exams.Exam where
  id := ⟨fourthUuid⟩
  creator := headmaster
  classCourse := ⟨fourthUuid⟩
  term := ⟨thirdUuid⟩
  title := "midterm"
  description := ""
  kind := "yazılı"
  mode := none
  startsAt := none
  endsAt := none
  durationMs := none
  maxAttempts := ⟨1, by decide⟩
  allowRejoin := true
  allowReview := false
  draft := false

def fileMidterm : List (World × CalendarRequest) :=
  [(drawing secondUuid, .createClass office ⟨"9-A", ninth, some firstYear⟩ none),
    (drawing thirdUuid, .attachCourse office ⟨secondUuid⟩ ⟨firstUuid⟩),
    (drawing thirdUuid, .createTerm office firstYear 0 1000),
    (drawing fourthUuid, .createExam office ⟨thirdUuid⟩ midterm)]

def moveSection : List (World × CalendarRequest) :=
  fileMidterm ++
    [(drawing fourthUuid,
      .updateClass office ⟨secondUuid⟩ ⟨none, none, some (some secondYear), none⟩)]

def misfiled (s : Db) (id : ExamId) : Bool :=
  (s.examAt id).any fun exam => (s.term.lookup exam.term).any fun term =>
    decide (s.yearOf (ownerOf exam) ≠ some term.year)

end Sample

theorem calendared_iff_keepsExams_moveSection :
    Sample.school.Unopened ∧
      ((∀ before, before <+: Sample.moveSection →
        (Sequential.run calendarStep Sample.school before).Calendared) ↔
        Sequential.Meets calendarStep Db.KeepsExams Sample.school Sample.moveSection) :=
  ⟨Sample.school_unopened, calendared_iff_keepsExams Sample.school_unopened⟩

/-- A PATCH of the section takes the exam out of the year its term belongs to. -/
theorem moved_section_misfiles :
    Sample.school.Unopened ∧
      ¬ (Sequential.run calendarStep Sample.school Sample.moveSection).Calendared := by
  refine ⟨Sample.school_unopened, fun hcalendared => ?_⟩
  have hmisfiled : Sample.misfiled
      (Sequential.run calendarStep Sample.school Sample.moveSection) ⟨School.Sample.fourthUuid⟩ =
        true := by
    decide
  obtain ⟨exam, hexam, hmoved⟩ := (Option.any_eq_true _ _).mp hmisfiled
  obtain ⟨term, hterm, hother⟩ := (Option.any_eq_true _ _).mp hmoved
  obtain ⟨filed, hfiled, hyear⟩ := hcalendared.year _ exam hexam
  rw [hterm] at hfiled
  cases hfiled
  exact of_decide_eq_true hother hyear

end Hezarfen.Years
