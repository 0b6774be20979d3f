import Hezarfen.YearDomain

/-!
# The store of a school whose requests come one at a time

The tables under the academic year, the gates every handler reads, and the
transactions on sections, instances, terms and exams.  The roster and the exam
tables are the stores of their own developments; their rows are reached through the
same transactions.  A duplicate key is the store's error.
-/

namespace Hezarfen.Years

open School (Role Roster ClassGroupId CourseId ClassCourseId Refusal)
open Exams (ExamId TermId SubjectId)

structure Db where
  appUser : Table UserId Role
  academicYear : Table AcademicYearId AcademicYear
  term : Table TermId Term
  /-- The terms a report card was frozen for. -/
  karneSnapshot : Table TermId Unit
  roster : Roster
  /-- The rest of `class_group`. -/
  classSection : Table ClassGroupId Section
  /-- The rest of `class_course`. -/
  classInstance : Table ClassCourseId Instance
  classBlueprint : Table GradeLevel ClassBlueprint
  /-- `course.creator` -/
  courseCreator : Table CourseId UserId
  /-- `subject.course` -/
  subjectCourse : Table SubjectId CourseId
  exams : Exams.Db
  examAudience : Table (ExamId × ClassCourseId) Unit
  offeringSubject : Table (CourseOfferingId × SubjectId) Unit
  classCourseSubject : Table (ClassCourseId × SubjectId) Unit
  classCourseSlot : Table WeeklySlotId WeeklySlot
  classCourseExamWeight : Table (ClassCourseId × String) ℤ
  courseSession : Table CourseSessionId CourseSession
  homework : Table HomeworkId Homework

/-- The clock of a request and the uuids it draws, in the order it draws them. -/
structure World where
  now : Timestamp
  uuid : ℕ → Uuid

/-- `academic_year::require_open`; a year that is gone refuses nothing. -/
def Db.requireYearOpen (s : Db) (year : AcademicYearId) : Except Refusal Unit :=
  Gate.ensure (!(s.academicYear.lookup year).any AcademicYear.isArchived) archivedError

/-- `academic_year::resolve` -/
def Db.resolveYear (s : Db) :
    Option AcademicYearId → Except Refusal (Option AcademicYearId)
  | none => .ok none
  | some id => do
      let year ← Gate.found (s.academicYear.lookup id)
        (invalid "year_id" "academic year does not exist")
      Gate.ensure (!year.isArchived) archivedError
      return some id

/-- `class_group::require_open` -/
def Db.requireSectionOpen (s : Db) (row : Section) : Except Refusal Unit :=
  match row.year with
  | none => .ok ()
  | some year => s.requireYearOpen year

def Db.classOr404 (s : Db) (id : ClassGroupId) : Except Refusal Section :=
  Gate.found (s.classSection.lookup id) (app .notFound)

def Db.instanceOr404 (s : Db) (id : ClassCourseId) : Except Refusal School.ClassCourse :=
  Gate.found (s.roster.classCourse.lookup id) (app .notFound)

def Db.yearOf (s : Db) (instance_ : ClassCourseId) : Option AcademicYearId :=
  (s.roster.classCourse.lookup instance_).bind fun link =>
    (s.classSection.lookup link.classId).bind Section.year

/-- `class_course::require_open` -/
def Db.requireOpen (s : Db) (instance_ : ClassCourseId) : Except Refusal Unit :=
  match s.yearOf instance_ with
  | none => .ok ()
  | some year => s.requireYearOpen year

def Db.ensureInstanceTeacher (s : Db) (user : User) (instance_ : ClassCourseId) :
    Except Refusal Unit :=
  if user.role.atLeast .manager then .ok ()
  else do
    let link ← s.instanceOr404 instance_
    Gate.ensure
      (user.role.atLeast .teacher &&
        ((s.roster.classCourseTeacher.lookup (instance_, user.id)).isSome ||
          decide ((s.roster.classGroup.lookup link.classId).bind School.ClassGroup.teacher =
            some user.id)))
      (app (.forbidden
        "only this instance's teachers, its class's homeroom teacher, or a manager may act here"))

def Db.canManageInstance (s : Db) (user : User) (instance_ : ClassCourseId) : Bool :=
  (s.ensureInstanceTeacher user instance_).isOk

def Db.canManageCourse (s : Db) (user : User) (course : CourseId) : Bool :=
  user.role.atLeast .manager || decide (s.courseCreator.lookup course = some user.id)

def Db.teacherOrNone (s : Db) : Option UserId → Except Refusal (Option UserId)
  | none => .ok none
  | some id => do
      let role ← Gate.found (s.appUser.lookup id)
        (invalid "teacher_id" "target user does not exist")
      Gate.ensure (role.atLeast .teacher) (invalid "teacher_id"
        "only a teacher, manager or admin can be a class's homeroom teacher")
      return some id

/-! ## Counters of the calendar -/

def AcademicYear.claimClass (year : AcademicYear) : AcademicYear :=
  { year with classCount := year.classCount + 1 }

def AcademicYear.releaseClass (year : AcademicYear) : AcademicYear :=
  { year with classCount := max (year.classCount - 1) 0 }

/-- `UPDATE academic_year … WHERE id`, for the year that is named if one is. -/
def Db.updateYear (s : Db) (year : Option AcademicYearId) (f : AcademicYear → AcademicYear) :
    Db :=
  { s with academicYear := Table.update s.academicYear fun id row =>
      if year = some id then f row else row }

def Term.release (term : Term) (n : ℕ) : Term :=
  { term with examCount := max (term.examCount - n) 0 }

/-- `class_group::create`; the year's reference is claimed with the row. -/
def Db.insertClass (s : Db) (id : ClassGroupId) (row : Section) (teacher : Option UserId) :
    Except Refusal Db := do
  Gate.ensure (row.year.all fun year => (s.academicYear.lookup year).isSome)
    (invalid "year" "academic year does not exist")
  Gate.ensure (s.roster.classGroup.lookup id).isNone (app (.internal "failed to create class"))
  return { s.updateYear row.year AcademicYear.claimClass with
    roster := { s.roster with
      classGroup := s.roster.classGroup.insert id ⟨teacher, 0, 0⟩ }
    classSection := s.classSection.insert id row }

def SectionPatch.merge (patch : SectionPatch) (row : Section) : Section :=
  { name := patch.name.getD row.name
    gradeLevel := patch.gradeLevel.getD row.gradeLevel
    year := patch.year.getD row.year }

/-- `class_group::update`: a year that moves claims the new one and releases the old. -/
def Db.updateSection (s : Db) (id : ClassGroupId) (row : Section) (patch : SectionPatch) : Db :=
  let moved := (patch.merge row).year
  let counted :=
    if moved = row.year then s
    else (s.updateYear moved AcademicYear.claimClass).updateYear row.year
      AcademicYear.releaseClass
  { counted with
    classSection := s.classSection.insert id (patch.merge row)
    roster :=
      match patch.teacher with
      | none => s.roster
      | some teacher => s.roster.setHomeroom id teacher }

inductive Landed where
  | attached (verdict : School.Attached School.ClassCourse)
  | sourceGone

/-- `attach_sourced`, with the columns of the new instance. -/
def Db.attachSourced (s : Db) (id : ClassCourseId) (pumping : Roster.Pumping)
    (course : CourseId) (source : Option GradeLevel) : Except Refusal (Landed × Db) :=
  if Table.any s.roster.classCourse fun _ row =>
      decide (row.classId = pumping.classId) && decide (row.course = course) then
    .ok (.attached .duplicate, s)
  else if source.any fun grade => (s.classBlueprint.lookup grade).isNone then
    .ok (.sourceGone, s)
  else
    match s.roster.attachCourse id pumping course with
    | .error refusal => .error (app refusal)
    | .ok (.made link, roster) => do
        let row ← s.classOr404 pumping.classId
        Gate.ensure (s.roster.classCourse.lookup id).isNone (app .db)
        return (.attached (.made link),
          { s with
            roster := roster
            classInstance :=
              s.classInstance.insert id (.fresh source ⟨course, row.gradeLevel⟩) })
    | .ok (verdict, _) => .ok (.attached verdict, s)

/-- Exams of an instance under a term. -/
def Db.examsUnder (s : Db) (instance_ : ClassCourseId) (term : TermId) : ℕ :=
  Table.count s.exams.exam fun _ row => ownerOf row.exam = instance_ && row.exam.term = term

/-- `sweep_instance_subtree`, the roster apart. -/
def Db.sweepInstance (s : Db) (instance_ : ClassCourseId) : Db :=
  { s with
    examAudience := Table.deleteWhere s.examAudience fun pair _ =>
      pair.2 = instance_ ||
        (s.exams.exam.lookup pair.1).any fun row => ownerOf row.exam = instance_
    term := Table.update s.term fun id row =>
      if 0 < s.examsUnder instance_ id then row.release (s.examsUnder instance_ id) else row
    exams := s.exams.sweepInstance ⟨instance_.uuid⟩
    homework := Table.deleteWhere s.homework fun _ row => row.classCourse = instance_
    courseSession := Table.deleteWhere s.courseSession fun _ row =>
      row.classCourse = instance_ }

def Db.detachTarget (s : Db) (classId : ClassGroupId) (course : CourseId)
    (source : Option GradeLevel) : Option ClassCourseId :=
  (s.roster.instanceOf classId course).filter fun instance_ =>
    source.all fun grade =>
      (s.classInstance.lookup instance_).any fun row => row.source = some grade

/-- `class_pump::detach_course`; deleting the instance row takes its own slots, subjects and
weights.  `none` means that there was nothing to detach. -/
def Db.detachCourse (s : Db) (classId : ClassGroupId) (course : CourseId)
    (source : Option GradeLevel) : Option Db :=
  (s.detachTarget classId course source).map fun instance_ =>
    { s.sweepInstance instance_ with
      roster := (s.roster.detachCourse classId course).2
      classInstance := s.classInstance.erase instance_
      classCourseSubject := Table.deleteWhere s.classCourseSubject fun pair _ =>
        pair.1 = instance_
      classCourseSlot := Table.deleteWhere s.classCourseSlot fun _ row =>
        row.classCourse = instance_
      classCourseExamWeight := Table.deleteWhere s.classCourseExamWeight fun pair _ =>
        pair.1 = instance_ }

def Db.insertTerm (s : Db) (id : TermId) (year : AcademicYearId)
    (startsAt endsAt : Timestamp) : Except Refusal Db := do
  Gate.ensure (s.academicYear.lookup year).isSome
    (invalid "year" "academic year does not exist")
  Gate.ensure (s.term.lookup id).isNone (app .db)
  return { s.updateYear (some year) fun row => { row with termCount := row.termCount + 1 } with
    term := s.term.insert id ⟨year, startsAt, endsAt, 0, none⟩ }

/-- `term::delete`; `none` means that something still stands on the term. -/
def Db.deleteTerm (s : Db) (id : TermId) (row : Term) : Option Db :=
  if row.examCount = 0 ∧ (s.karneSnapshot.lookup id).isNone then
    some { s.updateYear (some row.year) fun year =>
        { year with termCount := max (year.termCount - 1) 0 } with
      term := s.term.erase id }
  else none

/-- `exam::insert_in`: the term is claimed, then the row, then the owner's audience row. -/
def Db.insertExam (s : Db) (exam : Exams.Exam) : Except Refusal Db := do
  let term ← Gate.found (s.term.lookup exam.term) (invalid "term_id" "term does not exist")
  Gate.ensure (s.exams.exam.lookup exam.id).isNone (app .db)
  Gate.ensure (s.examAudience.lookup (exam.id, ownerOf exam)).isNone (app .db)
  return { s with
    term := s.term.insert exam.term { term with examCount := term.examCount + 1 }
    exams := s.exams.insertExam exam
    examAudience := s.examAudience.insert (exam.id, ownerOf exam) () }

/-- `exam::delete`: the cascade under the exam, its audience and its term's count. -/
def Db.deleteExam (s : Db) (exam : ExamId) : Except Refusal Db := do
  let row ← Gate.found (s.exams.exam.lookup exam) (app .notFound)
  return { s with
    examAudience := Table.deleteWhere s.examAudience fun pair _ => pair.1 = exam
    term := Table.update s.term fun id term =>
      if id = row.exam.term then term.release 1 else term
    exams := s.exams.cascade fun id _ => id = exam }

/-- `exam_audience::add`: a row that stands is left, a parent that is gone refuses. -/
def Db.insertAudience (s : Db) (exam : ExamId) (target : ClassCourseId) : Except Refusal Db := do
  let _ ← Gate.found (s.exams.exam.lookup exam) (app .notFound)
  let _ ← s.instanceOr404 target
  return { s with examAudience := s.examAudience.insert (exam, target) () }

end Hezarfen.Years
