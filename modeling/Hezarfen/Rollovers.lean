import Hezarfen.Workflows
import Hezarfen.YearCalls

/-!
# The year boundary

A rollover plants the sections of one year afresh in the year that follows: the name, the
promoted grade and the homeroom teacher, then the instances with what each section had overridden
and who teaches them, then the live members, which the pump enrolls into every instance that is
there by then.  Each write is a transaction of its own.
-/

namespace Hezarfen.Rollovers

open School (Roster ClassGroupId CourseId ClassCourseId ClassMemberId ClassMember Attached Refusal)
open Years (Db Section Instance GradeLevel AcademicYear AcademicYearId app archivedError)

def gradeLabels : List String :=
  ["Anaokulu", "1", "2", "3", "4", "5", "6", "7", "8", "9", "10", "11", "12"]

/-- `GradeLevel::label` -/
def label (grade : GradeLevel) : String := gradeLabels.getD grade.get.toNat ""

structure RolloverReport where
  classes : ℕ
  students : ℕ
  graduated : List String
  deriving DecidableEq

def rolloverTargetNotEmpty : Refusal :=
  .coded "rollover_target_not_empty"
    "the target year already has classes — roll into an empty year"

structure Feed where
  uuid : ℕ → Uuid
  now : ℕ → Timestamp

structure Progress where
  db : Db
  drawn : ℕ
  report : RolloverReport

abbrev Carrying := EStateM Refusal Progress

def transact {α : Type} (feed : Feed) (f : Uuid → Timestamp → Db → Except Refusal (α × Db)) :
    Carrying α := do
  let progress ← get
  let (answer, db) ← Workflow.gate
    (f (feed.uuid progress.drawn) (feed.now progress.drawn) progress.db)
  set { progress with db := db, drawn := progress.drawn + 1 }
  return answer

/-- A section as `list_for_year` reads it. -/
structure ClassGroup where
  id : ClassGroupId
  columns : Section
  teacher : Option UserId

/-- An instance as `list_for_class_ids` reads it. -/
structure ClassCourse where
  id : ClassCourseId
  course : CourseId
  columns : Instance

def listForYear (s : Db) (year : AcademicYearId) : List ClassGroup :=
  (s.classSection.entries.filter fun e => decide (e.2.year = some year)).map fun e =>
    ⟨e.1, e.2, (s.roster.classGroup.lookup e.1).bind School.ClassGroup.teacher⟩

def listForClass (s : Db) (classId : ClassGroupId) : List ClassCourse :=
  (s.roster.classCourse.entries.filter fun e => decide (e.2.classId = classId)).filterMap fun e =>
    (s.classInstance.lookup e.1).map fun columns => ⟨e.1, e.2.course, columns⟩

/-- `class_course_teacher::list_for_instance` -/
def listForInstance (s : Db) (instance_ : ClassCourseId) : List UserId :=
  (s.roster.classCourseTeacher.entries.filter fun e => decide (e.1.1 = instance_)).map fun e =>
    e.1.2

/-- `class_course::update`: a column that is not named keeps its value. -/
def update (s : Db) (id : ClassCourseId) (title description : Option String)
    (dersSaati : Option ℤ) (counts : Option Bool) : Except Refusal Db := do
  let row ← Gate.found (s.classInstance.lookup id) (app .notFound)
  return { s with
    classInstance := s.classInstance.insert id
      { row with
        title := title.or row.title
        description := description.or row.description
        dersSaati := dersSaati.or row.dersSaati
        countsTowardKarne := counts.or row.countsTowardKarne } }

/-- `class_course_teacher::assign`, which refers to the instance and to the account. -/
def assign (s : Db) (id : ClassCourseId) (teacher : UserId) : Except Refusal Db := do
  Gate.ensure (s.roster.classCourse.lookup id).isSome (app .notFound)
  Gate.ensure (s.appUser.lookup teacher).isSome (app .notFound)
  return { s with roster := s.roster.assign id teacher }

/-- `add_member_sourced` -/
def addMemberSourced (s : Db) (id : ClassMemberId) (pumping : Roster.Pumping) (user : UserId)
    (source : Option ClassGroupId) : Except Refusal (Attached ClassMember × Db) :=
  match s.roster.addMember (s.appUser.lookup user) id pumping user source with
  | (.made member, roster) => do
      Gate.ensure (s.roster.classMember.lookup id).isNone (app .db)
      return (.made member, { s with roster := roster })
  | (verdict, _) => return (verdict, s)

def plant (feed : Feed) (columns : Section) (teacher : Option UserId) : Carrying ClassGroupId :=
  transact feed fun uuid _ s => do
    return (⟨uuid⟩, ← s.insertClass ⟨uuid⟩ columns teacher)

def copyTeacher (feed : Feed) (copied : ClassCourseId) (teacher : UserId) : Carrying Unit :=
  transact feed fun _ _ s => do return ((), ← assign s copied teacher)

def copyInstance (feed : Feed) (planted : ClassGroupId) (by_ : UserId) (old : ClassCourse) :
    Carrying Unit := do
  let (copied, landed) ← transact feed fun uuid now s => do
    let (landed, s) ← s.attachSourced ⟨uuid⟩ ⟨planted, by_, now⟩ old.course none
    return ((⟨uuid⟩, landed), s)
  match landed with
  | .attached (.made _) => do
      transact feed fun _ _ s => do
        return ((), ← update s copied old.columns.title old.columns.description
          old.columns.dersSaati old.columns.countsTowardKarne)
      let progress ← get
      (listForInstance progress.db old.id).forM (copyTeacher feed copied)
  | _ => throw (app (.internal
      ("rollover: attaching " ++ old.course.uuid.hyphenated ++ " to the new class was refused")))

def copyMember (feed : Feed) (planted old : ClassGroupId) (by_ user : UserId) :
    Carrying Unit := do
  let verdict ← transact feed fun uuid now s =>
    addMemberSourced s ⟨uuid⟩ ⟨planted, by_, now⟩ user (some old)
  match verdict with
  | .made _ => modify fun progress =>
      { progress with
        report := { progress.report with students := progress.report.students + 1 } }
  | .pivotGone => pure ()
  | .gone => pure ()
  | _ => throw (app (.internal
      ("rollover: adding " ++ user.key ++ " to the new class was refused")))

def copyClass (feed : Feed) (target : AcademicYearId) (by_ : UserId) (next : GradeLevel)
    (old : ClassGroup) : Carrying Unit := do
  let planted ← plant feed ⟨old.columns.name, next, some target⟩ old.teacher
  let progress ← get
  (listForClass progress.db old.id).forM (copyInstance feed planted by_)
  let progress ← get
  (progress.db.roster.liveMembers old.id).forM (copyMember feed planted old.id by_)
  modify fun progress =>
    { progress with report := { progress.report with classes := progress.report.classes + 1 } }

/-- A grade without an entry graduates; its label is reported once. -/
def graduate (grade : GradeLevel) (report : RolloverReport) : RolloverReport :=
  if label grade ∈ report.graduated then report
  else { report with graduated := report.graduated ++ [label grade] }

def carry (feed : Feed) (target : AcademicYearId) (by_ : UserId) (year : AcademicYear)
    (old : ClassGroup) : Carrying Unit :=
  match year.promotionFor old.columns.gradeLevel with
  | none => modify fun progress =>
      { progress with report := graduate old.columns.gradeLevel progress.report }
  | some next => copyClass feed target by_ next old

def preflight (s : Db) (target source : AcademicYearId) : Except Refusal AcademicYear := do
  let targetYear ← Gate.found (s.academicYear.lookup target) (app .notFound)
  Gate.ensure (!targetYear.isArchived) archivedError
  Gate.ensure (decide (target ≠ source)) (app (.conflict
    "a year cannot roll over into itself — name the year that follows"))
  Gate.ensure (decide (targetYear.classCount = 0)) rolloverTargetNotEmpty
  Gate.found (s.academicYear.lookup source) (app .notFound)

def carryAll (feed : Feed) (target source : AcademicYearId) (by_ : UserId) :
    Carrying RolloverReport := do
  let progress ← get
  let year ← Workflow.gate (preflight progress.db target source)
  (listForYear progress.db source).forM (carry feed target by_ year)
  let progress ← get
  return progress.report

def rollover (feed : Feed) (target source : AcademicYearId) (by_ : UserId) (s : Db) :
    Except Refusal RolloverReport × Db :=
  match carryAll feed target source by_ ⟨s, 0, ⟨0, 0, []⟩⟩ with
  | .ok report progress => (.ok report, progress.db)
  | .error refusal progress => (.error refusal, progress.db)

end Hezarfen.Rollovers
