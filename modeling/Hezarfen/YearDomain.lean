import Hezarfen.ExamStore
import Hezarfen.SchoolCalls
import Hezarfen.Requests

/-!
# Academic years and what hangs under them

The rows of the calendar (years and terms) and of the work a section does in its
year: the columns of a section and of an instance that the roster does not read, the
grade templates, the weekly slots, the sessions and the homework.  The rows of the
roster and of the exams are those of their own stores.
-/

namespace Hezarfen.Years

open School (Role CourseId ClassCourseId Refusal)
open Exams (SubjectId)

structure AcademicYearId where
  uuid : Uuid
  deriving DecidableEq

structure WeeklySlotId where
  uuid : Uuid
  deriving DecidableEq

structure CourseSessionId where
  uuid : Uuid
  deriving DecidableEq

structure HomeworkId where
  uuid : Uuid

def minGradeLevel : ℤ := 0

def maxGradeLevel : ℤ := 12

/-- One rung of the ladder, `0` being kindergarten. -/
structure GradeLevel where
  get : ℤ
  lower : minGradeLevel ≤ get
  upper : get ≤ maxGradeLevel
  deriving DecidableEq

def GradeLevel.new (raw : ℤ) : Except ValidationError GradeLevel :=
  if h : minGradeLevel ≤ raw ∧ raw ≤ maxGradeLevel then .ok ⟨raw, h.1, h.2⟩
  else .error (.invalid "grade_level" "must be 0 (anaokulu) through 12")

def GradeLevel.ninth : GradeLevel := ⟨9, by decide, by decide⟩

structure AcademicYear where
  gradePromotions : List (GradeLevel × GradeLevel)
  classCount : ℤ
  termCount : ℤ
  archivedAt : Option Timestamp

def AcademicYear.isArchived (year : AcademicYear) : Bool := year.archivedAt.isSome

/-- `promotion_for`: the rung the sections of a grade move up to, if any. -/
def AcademicYear.promotionFor (year : AcademicYear) (grade : GradeLevel) : Option GradeLevel :=
  (year.gradePromotions.find? fun promotion => promotion.1 = grade).map Prod.snd

structure Term where
  year : AcademicYearId
  startsAt : Timestamp
  endsAt : Timestamp
  examCount : ℤ
  archivedAt : Option Timestamp

def Term.isArchived (term : Term) : Bool := term.archivedAt.isSome

/-- The columns of `class_group` beside those of the roster. -/
structure Section where
  name : String
  gradeLevel : GradeLevel
  year : Option AcademicYearId

/-- A PATCH of a section: `none` keeps a column, `some none` clears it. -/
structure SectionPatch where
  name : Option String
  gradeLevel : Option GradeLevel
  year : Option (Option AcademicYearId)
  teacher : Option (Option UserId)

structure CourseOfferingId where
  course : CourseId
  gradeLevel : GradeLevel
  deriving DecidableEq

/-- The columns of `class_course` beside those of the roster.  `source` names the grade
template that attached the course, nothing for a hand attach. -/
structure Instance where
  source : Option GradeLevel
  offering : CourseOfferingId
  title : Option String
  description : Option String
  dersSaati : Option ℤ
  countsTowardKarne : Option Bool
  subjectsInherited : Bool
  examWeightsInherited : Bool
  weeklyPlanInherited : Bool
  deriving DecidableEq

def Instance.fresh (source : Option GradeLevel) (offering : CourseOfferingId) : Instance :=
  { source := source
    offering := offering
    title := none
    description := none
    dersSaati := none
    countsTowardKarne := none
    subjectsInherited := true
    examWeightsInherited := true
    weeklyPlanInherited := true }

structure ClassBlueprint where
  courses : List CourseId
  creator : UserId

structure WeeklySlot where
  classCourse : ClassCourseId
  weekday : ℤ
  startsAt : ℤ
  endsAt : ℤ
  topic : Option String

structure CourseSession where
  classCourse : ClassCourseId
  teacher : UserId
  topic : String
  startsAt : Timestamp
  endsAt : Option Timestamp

/-- `assigned` is the roster of a subset homework, nothing for the whole instance. -/
structure Homework where
  classCourse : ClassCourseId
  subject : SubjectId
  title : String
  description : Option String
  dueAt : Timestamp
  assigned : Option (List UserId)
  createdBy : UserId

def ownerOf (exam : Exams.Exam) : ClassCourseId := ⟨exam.classCourse.uuid⟩

structure User where
  id : UserId
  role : Role

def app (error : AppError) : Refusal := .app error

def requireTeacher (user : User) : Except Refusal Unit :=
  Gate.ensure (user.role.atLeast .teacher) (app (.forbidden "requires teacher role or higher"))

def requireManager (user : User) : Except Refusal Unit :=
  Gate.ensure (user.role.atLeast .manager) (app (.forbidden "requires manager role or higher"))

def archivedError : Refusal :=
  .coded "academic_year_archived" "this academic year is archived — past years are read-only"

def termArchivedError : Refusal :=
  .coded "term_archived" "this term is archived — past years are read-only"

def invalid (field reason : String) : Refusal := app (.validation (.invalid field reason))

def settle : School.Reply → Except Refusal Unit
  | .answer (.error refusal) => .error refusal
  | _ => .ok ()

end Hezarfen.Years
