import Hezarfen.KeyedRows
import Hezarfen.OverrideStore

/-!
# The lessons of a weekly plan

`materialize` turns the resolved week of a section into dated lessons over a range of
instants.  The range names school days: an instant is shifted by the zone offset and its day
is the floor of the division.  A day that a holiday reaches into gets no lesson, and neither
does an instant at which the section already has one.
-/

namespace Hezarfen.CourseSessions

open Exams (validateOptional)
open Overrides (WeeklySlot)
open School (ClassCourseId ClassGroupId CourseId Refusal)
open Years (AcademicYearId CourseOfferingId CourseSessionId WeeklySlotId app archivedError invalid)

def millisPerMinute : ℤ := 60000

def millisPerDay : ℤ := 24 * 60 * 60 * 1000

/-- The first and the last date that a `NaiveDate` represents, in days since the epoch. -/
def minDay : ℤ := -96465292

def maxDay : ℤ := 95026236

structure NaiveDate where
  day : ℤ
  lower : minDay ≤ day
  upper : day ≤ maxDay

def NaiveDate.ofDay (day : ℤ) : Option NaiveDate :=
  if h : minDay ≤ day ∧ day ≤ maxDay then some ⟨day, h.1, h.2⟩ else none

def NaiveDate.succOpt (date : NaiveDate) : Option NaiveDate := NaiveDate.ofDay (date.day + 1)

def zoneOffsetMinutes (timezone : String) : ℤ := if timezone = "UTC" then 0 else 3 * 60

def zonedDay (millis offsetMinutes : ℤ) : Option NaiveDate :=
  NaiveDate.ofDay ((millis + offsetMinutes * millisPerMinute) / millisPerDay)

def dayStartMillis (date : NaiveDate) (offsetMinutes : ℤ) : ℤ :=
  date.day * millisPerDay - offsetMinutes * millisPerMinute

/-- The epoch was a Thursday. -/
def isoWeekday (date : NaiveDate) : ℤ := (date.day + 3) % 7 + 1

/-- The walk of `days_between`, with fuel for the days that are left. -/
def walkDays : ℕ → NaiveDate → NaiveDate → List NaiveDate
  | 0, _, _ => []
  | fuel + 1, date, to_ =>
      if date.day ≤ to_.day then
        date :: (date.succOpt.elim [] fun next => walkDays fuel next to_)
      else []

def daysBetween (from_ to_ : NaiveDate) : List NaiveDate :=
  walkDays (to_.day + 1 - from_.day).toNat from_ to_

structure HolidayId where
  uuid : Uuid
  deriving DecidableEq

structure Holiday where
  name : String
  startsAt : Timestamp
  endsAt : Timestamp
  deriving DecidableEq

def Holiday.overlaps (holiday : Holiday) (from_ to_ : Timestamp) : Bool :=
  decide (from_ ≤ holiday.endsAt) && decide (holiday.startsAt ≤ to_)

structure ClassCourse where
  classId : ClassGroupId
  course : CourseId
  offering : CourseOfferingId
  title : Option String
  weeklyPlanInherited : Bool

structure CourseSession where
  classCourse : ClassCourseId
  teacher : UserId
  topic : String
  startsAt : Timestamp
  endsAt : Option Timestamp

structure Db where
  classCourse : Table ClassCourseId ClassCourse
  /-- `class_group.year` -/
  classGroup : Table ClassGroupId (Option AcademicYearId)
  /-- `academic_year.archived_at` -/
  academicYear : Table AcademicYearId (Option Timestamp)
  /-- `course.title` -/
  course : Table CourseId String
  /-- `course_offering.title` -/
  courseOffering : Table CourseOfferingId (Option String)
  offeringSlot : Table WeeklySlotId (CourseOfferingId × WeeklySlot)
  classCourseSlot : Table WeeklySlotId (ClassCourseId × WeeklySlot)
  classCourseTeacher : Table (ClassCourseId × UserId) Unit
  holiday : Table HolidayId Holiday
  courseSession : Table CourseSessionId CourseSession

/-! ## What the run reads -/

/-- `require_open`: a section without a year, and a year that is gone, pass. -/
def Db.requireOpen (s : Db) (instance_ : ClassCourseId) : Except Refusal Unit :=
  let year := ((s.classCourse.lookup instance_).bind fun row =>
    s.classGroup.lookup row.classId).join
  Gate.ensure (!(year.bind s.academicYear.lookup).any Option.isSome) archivedError

def Db.resolvedForInstance (s : Db) (id : ClassCourseId) (row : ClassCourse) : List WeeklySlot :=
  if row.weeklyPlanInherited then
    (s.offeringSlot.entries.filter fun slot => decide (slot.2.1 = row.offering)).map fun slot =>
      slot.2.2
  else
    (s.classCourseSlot.entries.filter fun slot => decide (slot.2.1 = id)).map fun slot => slot.2.2

def Db.firstTeacher (s : Db) (id : ClassCourseId) : Option UserId :=
  (s.classCourseTeacher.entries.filter fun row => decide (row.1.1 = id)).foldl
    (fun first row =>
      match first with
      | none => some row.1.2
      | some teacher => if row.1.2.key < teacher.key then some row.1.2 else some teacher)
    none

/-- `resolved_content`: the title of the section, of its offering or of the course. -/
def Db.resolvedTitle (s : Db) (row : ClassCourse) : String :=
  ((row.title.or (s.courseOffering.lookup row.offering).join).or
    (s.course.lookup row.course)).getD ""

def maxSessionTopicLen : ℕ := 200

def Db.fallbackTopic (s : Db) (row : ClassCourse) : String :=
  let title := s.resolvedTitle row
  if !title.isEmpty && (validateOptional "topic" title maxSessionTopicLen).isOk then title
  else "Ders"

/-- `list_between`, in the order in which a day looks for the holiday that it names. -/
def Db.blockedDays (s : Db) (from_ to_ : Timestamp) : List Holiday :=
  Keyed.sortBy Holiday.startsAt
    ((s.holiday.entries.map fun row => row.2).filter fun holiday =>
      decide (from_ ≤ holiday.endsAt) && decide (holiday.startsAt ≤ to_))

def Db.existingStarts (s : Db) (id : ClassCourseId) : List Timestamp :=
  (s.courseSession.entries.filter fun row => decide (row.2.classCourse = id)).map fun row =>
    row.2.startsAt

structure NewSession where
  id : CourseSessionId
  row : CourseSession

structure BlockedDay where
  date : NaiveDate
  holiday : String

/-- What the loops collected so far. -/
structure Draft where
  rows : List NewSession
  blocked : List BlockedDay
  skippedExisting : ℕ

/-- What the loops read and do not change. -/
structure Reads where
  instance_ : ClassCourseId
  slots : List WeeklySlot
  teacher : UserId
  fallbackTopic : String
  holidays : List Holiday
  existing : List Timestamp
  offsetMinutes : ℤ
  /-- The identifiers in the order they are drawn. -/
  mint : ℕ → Uuid

def startOf (offsetMinutes : ℤ) (date : NaiveDate) (slot : WeeklySlot) : Timestamp :=
  dayStartMillis date offsetMinutes + slot.startsAt.get * millisPerMinute

def endOf (offsetMinutes : ℤ) (date : NaiveDate) (slot : WeeklySlot) : Timestamp :=
  dayStartMillis date offsetMinutes + slot.endsAt.get * millisPerMinute

def Holiday.reaches (holiday : Holiday) (offsetMinutes : ℤ) (date : NaiveDate) : Bool :=
  holiday.overlaps (dayStartMillis date offsetMinutes)
    (dayStartMillis date offsetMinutes + millisPerDay - 1)

/-- The body of the inner loop. -/
def Reads.slot (r : Reads) (date : NaiveDate) (draft : Draft) (slot : WeeklySlot) : Draft :=
  if r.existing.contains (startOf r.offsetMinutes date slot) then
    { draft with skippedExisting := draft.skippedExisting + 1 }
  else
    { draft with
      rows := draft.rows ++
        [⟨⟨r.mint draft.rows.length⟩,
          { classCourse := r.instance_
            teacher := r.teacher
            topic := slot.topic.getD r.fallbackTopic
            startsAt := startOf r.offsetMinutes date slot
            endsAt := some (endOf r.offsetMinutes date slot) }⟩] }

/-- The body of the outer loop. -/
def Reads.date (r : Reads) (draft : Draft) (date : NaiveDate) : Draft :=
  match r.holidays.find? fun holiday => holiday.reaches r.offsetMinutes date with
  | some holiday => { draft with blocked := draft.blocked ++ [⟨date, holiday.name⟩] }
  | none =>
      (r.slots.filter fun slot => decide (slot.weekday.get = isoWeekday date)).foldl
        (r.slot date) draft

def Reads.draft (r : Reads) (dates : List NaiveDate) : Draft := dates.foldl r.date ⟨[], [], 0⟩

/-- `INSERT … ON CONFLICT (class_course, starts_at) DO NOTHING`, row after row; any other
violated key fails the statement. -/
def insertMany : List NewSession → Table CourseSessionId CourseSession →
    Except AppError (List NewSession × Table CourseSessionId CourseSession)
  | [], sessions => .ok ([], sessions)
  | new :: rows, sessions =>
      if Table.any sessions fun _ row =>
          row.classCourse = new.row.classCourse ∧ row.startsAt = new.row.startsAt then
        insertMany rows sessions
      else if (sessions.lookup new.id).isSome then .error .db
      else
        match insertMany rows (sessions.insert new.id new.row) with
        | .error e => .error e
        | .ok (created, sessions) => .ok (new :: created, sessions)

structure MaterializeOutcome where
  applied : Bool
  slots : ℕ
  candidates : ℕ
  created : List NewSession
  skippedExisting : ℕ
  skippedHoliday : ℕ
  blocked : List BlockedDay
  rangeDays : ℕ

def maxMaterializeDays : ℕ := 366

def maxMaterializeSessions : ℕ := 500

def materializeDays (s : Db) (id : ClassCourseId) (row : ClassCourse) (from_ to_ : Timestamp)
    (apply : Bool) (offsetMinutes : ℤ) (mint : ℕ → Uuid) (days : List NaiveDate) :
    Except Refusal (MaterializeOutcome × Db) := do
  Gate.ensure (decide (days.length ≤ maxMaterializeDays))
    (invalid "to" "the range must not span more than a year")
  s.requireOpen id
  let _ ← Gate.found (s.classCourse.lookup id) (app .notFound)
  let slots := s.resolvedForInstance id row
  Gate.ensure (!slots.isEmpty)
    (.coded "instance_has_no_weekly_plan"
      "this section's weekly plan is empty — add a slot first")
  let teacher ← Gate.found (s.firstTeacher id)
    (.coded "instance_has_no_teacher"
      "assign a teacher to this section before generating lessons")
  let draft := Reads.draft
    ⟨id, slots, teacher, s.fallbackTopic row, s.blockedDays from_ to_, s.existingStarts id,
      offsetMinutes, mint⟩ days
  Gate.ensure (decide (draft.rows.length ≤ maxMaterializeSessions))
    (invalid "to" "this range would create more than 500 lessons — narrow it")
  let written ← (insertMany (if apply then draft.rows else []) s.courseSession).mapError app
  return (⟨apply, slots.length, draft.rows.length, written.1, draft.skippedExisting,
    draft.blocked.length, draft.blocked, days.length⟩,
    { s with courseSession := written.2 })

/-- `none` is the panic on an instant outside the calendar, which the route rules out.  The row
of the section is the one the route has read. -/
def materialize (s : Db) (id : ClassCourseId) (row : ClassCourse) (from_ to_ : Timestamp)
    (apply : Bool) (offsetMinutes : ℤ) (mint : ℕ → Uuid) :
    Option (Except Refusal (MaterializeOutcome × Db)) := do
  let first ← zonedDay from_ offsetMinutes
  let last ← zonedDay to_ offsetMinutes
  return materializeDays s id row from_ to_ apply offsetMinutes mint (daysBetween first last)

end Hezarfen.CourseSessions
