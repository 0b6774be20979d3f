import Hezarfen.YearStore

/-!
# Sections, terms, exams and their audience, one request at a time

Each handler runs its gates in the order of the source and ends in one transaction;
a refused one leaves the store as it was.  A new section is stocked from the template
of its grade, one transaction for each course, and what a stocking committed before it
stopped stays.  With no other request in between, the re-read of a homeroom teacher's
role after the write finds what the check found.
-/

namespace Hezarfen.Years

open School (Roster ClassGroupId CourseId ClassCourseId Refusal)
open Exams (ExamId TermId)

abbrev Handler := Db → Except Refusal Unit × Db

def commit (f : Db → Except Refusal Db) : Handler := fun s =>
  match f s with
  | .ok s' => (.ok (), s')
  | .error refusal => (.error refusal, s)

/-- `prune`: a course that is gone leaves the template. -/
def Db.prune (s : Db) (grade : GradeLevel) (course : CourseId) : Db :=
  { s with classBlueprint := Table.update s.classBlueprint fun key row =>
      if key = grade then { row with courses := row.courses.filter fun other => other ≠ course }
      else row }

/-- `apply_courses`, the template's courses that are still to be attached; `false` when the
template is gone, and a refusal ends the run where it is. -/
def Db.applyCourses (pumping : Roster.Pumping) (grade : GradeLevel) :
    (ℕ → Uuid) → List CourseId → Db → Except Refusal Bool × Db
  | _, [], s => (.ok true, s)
  | uuid, course :: rest, s =>
      match s.attachSourced ⟨uuid 0⟩ pumping course (some grade) with
      | .error refusal => (.error refusal, s)
      | .ok (.sourceGone, s') => (.ok false, s')
      | .ok (.attached .pivotGone, s') =>
          applyCourses pumping grade (fun n => uuid (n + 1)) rest (s'.prune grade course)
      | .ok (_, s') => applyCourses pumping grade (fun n => uuid (n + 1)) rest s'

/-- `stock_from_blueprint`; the caller drops the answer. -/
def Db.stockFromBlueprint (s : Db) (pumping : Roster.Pumping) (grade : GradeLevel)
    (uuid : ℕ → Uuid) : Db :=
  match s.classBlueprint.lookup grade with
  | none => s
  | some blueprint => (s.applyCourses pumping grade uuid blueprint.courses).2

def createClass (w : World) (user : User) (row : Section) (teacher : Option UserId) :
    Handler := commit fun s => do
  requireManager user
  let year ← s.resolveYear row.year
  let teacher ← s.teacherOrNone teacher
  let created ← s.insertClass ⟨w.uuid 0⟩ { row with year := year } teacher
  return created.stockFromBlueprint ⟨⟨w.uuid 0⟩, user.id, w.now⟩ row.gradeLevel
    fun n => w.uuid (n + 1)

/-- The gates of `update_class`: the year moved off must be open, and so must the year moved
onto. -/
def Db.readPatch (s : Db) (user : User) (id : ClassGroupId) (patch : SectionPatch) :
    Except Refusal Section := do
  requireManager user
  let row ← s.classOr404 id
  s.requireSectionOpen row
  let _ ← s.resolveYear (patch.year.getD none)
  let _ ← s.teacherOrNone (patch.teacher.getD none)
  return row

def updateClass (user : User) (id : ClassGroupId) (patch : SectionPatch) : Handler :=
  commit fun s => do
    let row ← s.readPatch user id patch
    return s.updateSection id row patch

/-- The answer of the attach route. -/
def settleLanded : Landed → Except Refusal Unit
  | .attached verdict => settle (School.attachAnswer verdict)
  | .sourceGone => .error (app (.internal "a hand attach has no blueprint to lose"))

def attachCourse (w : World) (user : User) (classId : ClassGroupId) (course : CourseId) :
    Handler := commit fun s => do
  requireTeacher user
  let row ← s.classOr404 classId
  let _ ← Gate.found (s.roster.course.lookup course)
    (invalid "course_id" "course does not exist")
  Gate.ensure (s.canManageCourse user course) (app (.forbidden
    "only the course creator or a manager/admin can attach this course to a class"))
  s.requireSectionOpen row
  let landed ← s.attachSourced ⟨w.uuid 0⟩ ⟨classId, user.id, w.now⟩ course none
  settleLanded landed.1
  return landed.2

def detachCourse (user : User) (classId : ClassGroupId) (instance_ : ClassCourseId) :
    Handler := commit fun s => do
  requireTeacher user
  let row ← s.classOr404 classId
  let link ← s.instanceOr404 instance_
  Gate.ensure (decide (link.classId = classId)) (app .notFound)
  -- A link whose course row is gone has no owner to ask, so only its rights check is skipped.
  Gate.ensure ((s.roster.course.lookup link.course).isNone || s.canManageCourse user link.course)
    (app (.forbidden
      "only the course creator or a manager/admin can detach this course from a class"))
  s.requireSectionOpen row
  Gate.found (s.detachCourse classId link.course none) (app .notFound)

def checkTimeRange (startsAt endsAt : Timestamp) : Except Refusal Unit :=
  Gate.ensure (startsAt ≤ endsAt) (invalid "ends_at" "must be at or after starts_at")

def createTerm (w : World) (user : User) (year : AcademicYearId) (startsAt endsAt : Timestamp) :
    Handler := commit fun s => do
  requireManager user
  let _ ← s.resolveYear (some year)
  checkTimeRange startsAt endsAt
  s.insertTerm ⟨w.uuid 0⟩ year startsAt endsAt

def deleteTerm (user : User) (id : TermId) : Handler := commit fun s => do
  requireManager user
  let row ← Gate.found (s.term.lookup id) (app .notFound)
  Gate.ensure (!row.isArchived) termArchivedError
  s.requireYearOpen row.year
  Gate.found (s.deleteTerm id row) (app (.conflict
    ("exams are still linked to this dönem, or a karne was frozen for it — " ++
      "nothing unlinks them for you")))

/-- `exam::create`: only a course that classes deliver carries exams, and the term must be
one of the year the instance's section is in. -/
def Db.createExam (s : Db) (exam : Exams.Exam) : Except Refusal Db := do
  let link ← s.instanceOr404 (ownerOf exam)
  let course ← Gate.found (s.roster.course.lookup link.course)
    (app (.internal "the instance references a missing course"))
  Gate.ensure course.kind.isClassDelivered
    (invalid "course" "only a ders can carry exams — a club or etüt is joined, not sat")
  let term ← Gate.found (s.term.lookup exam.term) (invalid "term_id" "term does not exist")
  Gate.ensure (decide (s.yearOf (ownerOf exam) = some term.year))
    (invalid "term" "the term belongs to another academic year than this class")
  s.requireOpen (ownerOf exam)
  s.insertExam exam

def createExamInInstance (w : World) (user : User) (instance_ : ClassCourseId)
    (exam : Exams.Exam) : Handler := commit fun s => do
  requireTeacher user
  let _ ← s.instanceOr404 instance_
  s.ensureInstanceTeacher user instance_
  let _ ← Gate.found (s.term.lookup exam.term) (invalid "term" "term does not exist")
  s.createExam { exam with
    id := ⟨w.uuid 0⟩
    creator := user.id
    classCourse := ⟨instance_.uuid⟩ }

def Db.classCourseOf (s : Db) (exam : Exams.Exam) : Except Refusal School.ClassCourse :=
  Gate.found (s.roster.classCourse.lookup (ownerOf exam))
    (app (.internal "exam references a missing class instance"))

/-- `exam_attempt::require_open` -/
def Db.requireExamOpen (s : Db) (exam : Exams.Exam) : Except Refusal Unit := do
  let _ ← s.classCourseOf exam
  s.requireOpen (ownerOf exam)

def Db.examOr404 (s : Db) (id : ExamId) : Except Refusal Exams.Exam :=
  Gate.found (s.exams.readExam id) (app .notFound)

def deleteExam (user : User) (id : ExamId) : Handler := commit fun s => do
  requireTeacher user
  let exam ← s.examOr404 id
  let _ ← s.classCourseOf exam
  Gate.ensure (s.canManageInstance user (ownerOf exam)) (app (.forbidden
    ("only this instance's teachers, its class's homeroom teacher, or " ++
      "a manager/admin can delete this exam")))
  s.requireExamOpen exam
  s.deleteExam id

/-- The gate of the audience routes is the owner's, not the target's. -/
def Db.managedExam (s : Db) (user : User) (id : ExamId) : Except Refusal Exams.Exam := do
  let exam ← s.examOr404 id
  s.ensureInstanceTeacher user (ownerOf exam)
  return exam

def addAudience (user : User) (id : ExamId) (target : ClassCourseId) : Handler :=
  commit fun s => do
    requireTeacher user
    let exam ← s.managedExam user id
    let owner ← s.instanceOr404 (ownerOf exam)
    let row ← s.instanceOr404 target
    Gate.ensure (decide (target ≠ ownerOf exam)) (invalid "instance"
      ("this instance owns the exam — an audience is another instance, and " ++
        "deleting the exam is what ends the owner's"))
    Gate.ensure (decide (row.course = owner.course))
      (invalid "instance" "the instance teaches another course than the exam's")
    Gate.ensure (decide (s.yearOf (ownerOf exam) = s.yearOf target))
      (invalid "instance" "the instance belongs to another academic year than the exam's")
    s.requireOpen target
    s.insertAudience id target

def removeAudience (user : User) (id : ExamId) (target : ClassCourseId) : Handler :=
  commit fun s => do
    requireTeacher user
    let exam ← s.managedExam user id
    Gate.ensure (decide (ownerOf exam ≠ target)) (invalid "instance"
      ("the owner instance is not an audience — an exam cannot lose the " ++
        "instance it belongs to; delete the exam instead"))
    s.requireExamOpen exam
    let _ ← Gate.found (s.examAudience.lookup (id, target)) (app .notFound)
    return { s with examAudience := s.examAudience.erase (id, target) }

inductive CalendarRequest where
  | createClass (user : User) (row : Section) (teacher : Option UserId)
  | updateClass (user : User) (id : ClassGroupId) (patch : SectionPatch)
  | attachCourse (user : User) (classId : ClassGroupId) (course : CourseId)
  | detachCourse (user : User) (classId : ClassGroupId) (instance_ : ClassCourseId)
  | createTerm (user : User) (year : AcademicYearId) (startsAt endsAt : Timestamp)
  | deleteTerm (user : User) (id : TermId)
  | createExam (user : User) (instance_ : ClassCourseId) (exam : Exams.Exam)
  | deleteExam (user : User) (id : ExamId)
  | addAudience (user : User) (id : ExamId) (target : ClassCourseId)
  | removeAudience (user : User) (id : ExamId) (target : ClassCourseId)

def CalendarRequest.handle (w : World) : CalendarRequest → Handler
  | .createClass user row teacher => Years.createClass w user row teacher
  | .updateClass user id patch => Years.updateClass user id patch
  | .attachCourse user classId course => Years.attachCourse w user classId course
  | .detachCourse user classId instance_ => Years.detachCourse user classId instance_
  | .createTerm user year startsAt endsAt => Years.createTerm w user year startsAt endsAt
  | .deleteTerm user id => Years.deleteTerm user id
  | .createExam user instance_ exam => createExamInInstance w user instance_ exam
  | .deleteExam user id => Years.deleteExam user id
  | .addAudience user id target => Years.addAudience user id target
  | .removeAudience user id target => Years.removeAudience user id target

def calendarStep (request : World × CalendarRequest) (s : Db) : Db :=
  (request.2.handle request.1 s).2

end Hezarfen.Years
