import Hezarfen.Overlays
import Hezarfen.SettingsDomain
import Hezarfen.YearDomain

/-!
# The set-valued policies of an instance

The weekly plan, the exam weights and the subjects of a class course follow the grade
template until the section writes a row of its own.  A flag on the instance says whose
set is in force.  Each axis has three doors of its own; the reset of overrides is the
fourth, and works on the flags alone.
-/

namespace Hezarfen.Overrides

open School (CourseId ClassCourseId Refusal)
open Exams (SubjectId)
open SchoolSettings (ExamKindDef)
open Years (CourseOfferingId WeeklySlotId app invalid)
open Overlay (RowSet)

def maxDersSaati : ℕ := 40

def maxWeeklySlots : ℕ := maxDersSaati

def minSlotMinute : ℤ := 0

def maxSlotMinute : ℤ := 24 * 60 - 1

/-- An ISO weekday, Monday being `1`. -/
structure Weekday where
  get : ℤ
  lower : 1 ≤ get
  upper : get ≤ 7

instance : DecidableEq Weekday := fun a b =>
  decidable_of_iff (a.get = b.get) ⟨fun h => by cases a; cases b; simpa using h, congrArg _⟩

def Weekday.new (raw : ℤ) : Except ValidationError Weekday :=
  if h : 1 ≤ raw ∧ raw ≤ 7 then .ok ⟨raw, h.1, h.2⟩
  else .error (.invalid "weekday" "must be 1 (Monday) through 7 (Sunday)")

/-- Minutes past midnight. -/
structure SlotMinute where
  get : ℤ
  lower : minSlotMinute ≤ get
  upper : get ≤ maxSlotMinute
  deriving DecidableEq

def SlotMinute.new (raw : ℤ) : Except ValidationError SlotMinute :=
  if h : minSlotMinute ≤ raw ∧ raw ≤ maxSlotMinute then .ok ⟨raw, h.1, h.2⟩
  else .error (.invalid "slot time"
    "must be minutes past midnight, 0 (00:00) through 1439 (23:59)")

def Weekday.monday : Weekday := ⟨1, by decide, by decide⟩

def SlotMinute.nine : SlotMinute := ⟨540, by decide, by decide⟩

def SlotMinute.ten : SlotMinute := ⟨600, by decide, by decide⟩

structure WeeklySlot where
  weekday : Weekday
  startsAt : SlotMinute
  endsAt : SlotMinute
  topic : Option String
  window : startsAt.get < endsAt.get
  deriving DecidableEq

def WeeklySlot.new (weekday : Weekday) (startsAt endsAt : SlotMinute) (topic : Option String) :
    Except ValidationError WeeklySlot :=
  if h : startsAt.get < endsAt.get then .ok ⟨weekday, startsAt, endsAt, topic, h⟩
  else .error (.invalid "ends_at" "must be after starts_at — a slot needs a non-empty window")

def WeeklySlot.overlaps (slot other : WeeklySlot) : Bool :=
  decide (slot.weekday = other.weekday) && decide (slot.startsAt.get < other.endsAt.get) &&
    decide (other.startsAt.get < slot.endsAt.get)

inductive SlotAddError where
  | overlap
  | full

def checkAdd (existing : List WeeklySlot) (candidate : WeeklySlot) : Except SlotAddError Unit :=
  if existing.any fun slot => slot.overlaps candidate then .error .overlap
  else if maxWeeklySlots ≤ existing.length then .error .full
  else .ok ()

def slotAddConflict : SlotAddError → Refusal
  | .overlap => .coded "slot_overlap"
      "another slot already occupies an intersecting time on this weekday"
  | .full => .coded "slot_cap"
      ("this weekly plan already holds the maximum of " ++ toString maxWeeklySlots ++ " slots")

def fallbackWeight : ℤ := 1

structure ExamWeight where
  kind : String
  weight : ℤ
  lower : SchoolSettings.minExamKindWeight ≤ weight
  upper : weight ≤ SchoolSettings.maxExamKindWeight

def ExamWeight.tryNew (kind : String) (weight : ℤ) : Except ValidationError ExamWeight :=
  if h : SchoolSettings.minExamKindWeight ≤ weight ∧ weight ≤ SchoolSettings.maxExamKindWeight then
    .ok ⟨kind, weight, h.1, h.2⟩
  else .error (.invalid "weight" "must be between 1 and 100")

structure ClassCourse where
  course : CourseId
  offering : CourseOfferingId
  title : Option String
  description : Option String
  dersSaati : Option ℤ
  countsTowardKarne : Option Bool
  subjectsInherited : Bool
  examWeightsInherited : Bool
  weeklyPlanInherited : Bool

structure Subject where
  course : CourseId
  name : String
  description : String

inductive OverrideField where
  | title
  | description
  | dersSaati
  | countsTowardKarne
  | subjects
  | examWeights
  | weeklyPlan
  deriving DecidableEq

structure Db where
  classCourse : Table ClassCourseId ClassCourse
  subject : Table SubjectId Subject
  /-- `settings.exam_kinds` -/
  examKinds : List ExamKindDef
  offeringSlot : Table WeeklySlotId (CourseOfferingId × WeeklySlot)
  offeringSubject : Table (CourseOfferingId × SubjectId) Unit
  offeringExamWeight : Table (CourseOfferingId × String) ℤ
  classCourseSlot : Table WeeklySlotId (ClassCourseId × WeeklySlot)
  classCourseSubject : Table (ClassCourseId × SubjectId) Unit
  classCourseExamWeight : Table (ClassCourseId × String) ℤ

/-! ## The axes -/

inductive Axis where
  | subjects
  | examWeights
  | weeklyPlan
  deriving DecidableEq

def Axis.Key : Axis → Type
  | .subjects => SubjectId
  | .examWeights => String
  | .weeklyPlan => WeeklySlotId

def Axis.Row : Axis → Type
  | .subjects => Unit
  | .examWeights => ℤ
  | .weeklyPlan => WeeklySlot

instance : ∀ axis : Axis, DecidableEq axis.Key
  | .subjects => inferInstanceAs (DecidableEq SubjectId)
  | .examWeights => inferInstanceAs (DecidableEq String)
  | .weeklyPlan => inferInstanceAs (DecidableEq WeeklySlotId)

/-- The name under which the reset of overrides clears the axis. -/
def Axis.field : Axis → OverrideField
  | .subjects => .subjects
  | .examWeights => .examWeights
  | .weeklyPlan => .weeklyPlan

def ClassCourse.inherited (row : ClassCourse) : Axis → Bool
  | .subjects => row.subjectsInherited
  | .examWeights => row.examWeightsInherited
  | .weeklyPlan => row.weeklyPlanInherited

def ClassCourse.setInherited (row : ClassCourse) (flag : Bool) : Axis → ClassCourse
  | .subjects => { row with subjectsInherited := flag }
  | .examWeights => { row with examWeightsInherited := flag }
  | .weeklyPlan => { row with weeklyPlanInherited := flag }

def Db.own (s : Db) (instance_ : ClassCourseId) : (axis : Axis) → RowSet axis.Key axis.Row
  | .subjects => fun subject : SubjectId => s.classCourseSubject.lookup (instance_, subject)
  | .examWeights => fun kind : String => s.classCourseExamWeight.lookup (instance_, kind)
  | .weeklyPlan => fun slot : WeeklySlotId =>
      ((s.classCourseSlot.lookup slot).filter fun row => decide (row.1 = instance_)).map Prod.snd

/-- `exam_kind_weight` -/
def Db.examKindWeight (s : Db) (kind : String) : Option ℤ :=
  (s.examKinds.find? fun known => decide (known.name = kind)).map ExamKindDef.weight

/-- `resolved_for_offering`: what a section that inherits follows. -/
def Db.resolvedForOffering (s : Db) (offering : CourseOfferingId) :
    (axis : Axis) → RowSet axis.Key axis.Row
  | .subjects => fun subject : SubjectId => s.offeringSubject.lookup (offering, subject)
  | .examWeights => fun kind : String =>
      (s.offeringExamWeight.lookup (offering, kind)).or (s.examKindWeight kind)
  | .weeklyPlan => fun slot : WeeklySlotId =>
      ((s.offeringSlot.lookup slot).filter fun row => decide (row.1 = offering)).map Prod.snd

/-- `resolved_for_instance`: the set in force. -/
def Db.resolvedForInstance (s : Db) (instance_ : ClassCourseId) (row : ClassCourse)
    (axis : Axis) : RowSet axis.Key axis.Row :=
  if row.inherited axis then s.resolvedForOffering row.offering axis else s.own instance_ axis

def Db.flag (s : Db) (instance_ : ClassCourseId) (axis : Axis) : Option Bool :=
  (s.classCourse.lookup instance_).map fun row => row.inherited axis

/-- `instance_or_404`, and the `NotFound` of every door. -/
def Db.instanceOr404 (s : Db) (instance_ : ClassCourseId) : Except Refusal ClassCourse :=
  Gate.found (s.classCourse.lookup instance_) (app .notFound)

/-- The flag half of a door's statement. -/
def Db.flip (s : Db) (instance_ : ClassCourseId) (row : ClassCourse) (axis : Axis)
    (inherited : Bool) : Db :=
  { s with classCourse := s.classCourse.insert instance_ (row.setInherited inherited axis) }

def Db.listForClass (s : Db) (instance_ : ClassCourseId) : List WeeklySlot :=
  (s.classCourseSlot.entries.filter fun row => decide (row.2.1 = instance_)).map fun row =>
    row.2.2

def addForClass (instance_ : ClassCourseId) (id : WeeklySlotId) (weekday : Weekday)
    (startsAt endsAt : SlotMinute) (topic : Option String) (s : Db) :
    Except Refusal (WeeklySlot × Db) := do
  let slot ← (WeeklySlot.new weekday startsAt endsAt topic).mapError fun e => app (.validation e)
  let row ← s.instanceOr404 instance_
  (checkAdd (s.listForClass instance_) slot).mapError slotAddConflict
  Gate.ensure (s.classCourseSlot.lookup id).isNone (app .db)
  return (slot, { s.flip instance_ row .weeklyPlan false with
    classCourseSlot := s.classCourseSlot.insert id (instance_, slot) })

def removeForClass (instance_ : ClassCourseId) (id : WeeklySlotId) (s : Db) :
    Except Refusal Db := do
  let _ ← Gate.found
    ((s.classCourseSlot.lookup id).filter fun row => decide (row.1 = instance_)) (app .notFound)
  let row ← s.instanceOr404 instance_
  return { s.flip instance_ row .weeklyPlan false with
    classCourseSlot := s.classCourseSlot.erase id }

def resetForClass (instance_ : ClassCourseId) (s : Db) : Except Refusal Db := do
  let row ← s.instanceOr404 instance_
  return { s.flip instance_ row .weeklyPlan true with
    classCourseSlot := Table.deleteWhere s.classCourseSlot fun _ row => row.1 = instance_ }

def checkedWeight (s : Db) (kind : String) (weight : ℤ) : Except Refusal ExamWeight := do
  Gate.ensure (s.examKinds.any fun known => decide (known.name = kind))
    (invalid "kind" "unknown exam kind (the school's settings.exam_kinds is the vocabulary)")
  (ExamWeight.tryNew kind weight).mapError fun e => app (.validation e)

/-- `set_for_class` over `upsert_for_class` -/
def setForClass (instance_ : ClassCourseId) (kind : String) (weight : ℤ) (s : Db) :
    Except Refusal Db := do
  let checked ← checkedWeight s kind weight
  let row ← s.instanceOr404 instance_
  return { s.flip instance_ row .examWeights false with
    classCourseExamWeight := s.classCourseExamWeight.insert (instance_, kind) checked.weight }

/-- `remove_from_class` over `delete_from_class`; a kind without a row flips nothing. -/
def removeFromClass (instance_ : ClassCourseId) (kind : String) (s : Db) :
    Except Refusal Db := do
  let row ← s.instanceOr404 instance_
  let _ ← Gate.found (s.classCourseExamWeight.lookup (instance_, kind)) (app .notFound)
  return { s.flip instance_ row .examWeights false with
    classCourseExamWeight := s.classCourseExamWeight.erase (instance_, kind) }

def resetClass (instance_ : ClassCourseId) (s : Db) : Except Refusal Db := do
  let row ← s.instanceOr404 instance_
  return { s.flip instance_ row .examWeights true with
    classCourseExamWeight :=
      Table.deleteWhere s.classCourseExamWeight fun key _ => key.1 = instance_ }

def subjectOfCourse (s : Db) (key : SubjectId) (course : CourseId) : Except Refusal Subject := do
  let subject ← Gate.found (s.subject.lookup key) (invalid "subject_id" "subject does not exist")
  Gate.ensure (decide (subject.course = course))
    (invalid "subject_id" "subject belongs to a different course")
  return subject

def addToInstance (instance_ : ClassCourseId) (subjectKey : SubjectId) (s : Db) :
    Except Refusal ((Subject × Bool) × Db) := do
  let row ← s.instanceOr404 instance_
  let subject ← subjectOfCourse s subjectKey row.course
  return ((subject, (s.classCourseSubject.lookup (instance_, subjectKey)).isNone),
    { s.flip instance_ row .subjects false with
      classCourseSubject := s.classCourseSubject.insert (instance_, subjectKey) () })

def removeFromInstance (instance_ : ClassCourseId) (subjectKey : SubjectId) (s : Db) :
    Except Refusal Db := do
  let row ← s.instanceOr404 instance_
  let _ ← Gate.found (s.classCourseSubject.lookup (instance_, subjectKey)) (app .notFound)
  return { s.flip instance_ row .subjects false with
    classCourseSubject := s.classCourseSubject.erase (instance_, subjectKey) }

/-- `reset_instance`, with the number of rows the sweep removed. -/
def resetInstance (instance_ : ClassCourseId) (s : Db) : Except Refusal (ℕ × Db) := do
  let row ← s.instanceOr404 instance_
  return (Table.count s.classCourseSubject fun key _ => key.1 = instance_,
    { s.flip instance_ row .subjects true with
      classCourseSubject := Table.deleteWhere s.classCourseSubject fun key _ =>
        key.1 = instance_ })

def clearOverrides (fields : List OverrideField) (row : ClassCourse) : ClassCourse :=
  { row with
    title := if fields.contains .title then none else row.title
    description := if fields.contains .description then none else row.description
    dersSaati := if fields.contains .dersSaati then none else row.dersSaati
    countsTowardKarne :=
      if fields.contains .countsTowardKarne then none else row.countsTowardKarne
    subjectsInherited := if fields.contains .subjects then true else row.subjectsInherited
    examWeightsInherited :=
      if fields.contains .examWeights then true else row.examWeightsInherited
    weeklyPlanInherited := if fields.contains .weeklyPlan then true else row.weeklyPlanInherited }

def resetOverrides (instance_ : ClassCourseId) (fields : List OverrideField) (s : Db) :
    Except Refusal (ClassCourse × Db) := do
  Gate.ensure (!fields.isEmpty) (invalid "fields" "name at least one override to reset")
  let row ← s.instanceOr404 instance_
  return (clearOverrides fields row,
    { s with classCourse := s.classCourse.insert instance_ (clearOverrides fields row) })

inductive Request where
  | addForClass (instance_ : ClassCourseId) (id : WeeklySlotId) (weekday : Weekday)
      (startsAt endsAt : SlotMinute) (topic : Option String)
  | removeForClass (instance_ : ClassCourseId) (id : WeeklySlotId)
  | resetForClass (instance_ : ClassCourseId)
  | setForClass (instance_ : ClassCourseId) (kind : String) (weight : ℤ)
  | removeFromClass (instance_ : ClassCourseId) (kind : String)
  | resetClass (instance_ : ClassCourseId)
  | addToInstance (instance_ : ClassCourseId) (subjectKey : SubjectId)
  | removeFromInstance (instance_ : ClassCourseId) (subjectKey : SubjectId)
  | resetInstance (instance_ : ClassCourseId)
  | resetOverrides (instance_ : ClassCourseId) (fields : List OverrideField)

inductive Answer where
  | done
  | slot (slot : WeeklySlot)
  | subject (subject : Subject) (added : Bool)
  | swept (rows : ℕ)
  | instance_ (row : ClassCourse)

def serve (request : Request) (s : Db) : Except Refusal (Answer × Db) :=
  match request with
  | .addForClass i id weekday startsAt endsAt topic =>
      (addForClass i id weekday startsAt endsAt topic s).map fun r => (.slot r.1, r.2)
  | .removeForClass i id => (removeForClass i id s).map fun s => (.done, s)
  | .resetForClass i => (resetForClass i s).map fun s => (.done, s)
  | .setForClass i kind weight => (setForClass i kind weight s).map fun s => (.done, s)
  | .removeFromClass i kind => (removeFromClass i kind s).map fun s => (.done, s)
  | .resetClass i => (resetClass i s).map fun s => (.done, s)
  | .addToInstance i key => (addToInstance i key s).map fun r => (.subject r.1.1 r.1.2, r.2)
  | .removeFromInstance i key => (removeFromInstance i key s).map fun s => (.done, s)
  | .resetInstance i => (resetInstance i s).map fun r => (.swept r.1, r.2)
  | .resetOverrides i fields => (resetOverrides i fields s).map fun r => (.instance_ r.1, r.2)

def step (request : Request) (s : Db) : Db :=
  match serve request s with
  | .ok (_, s') => s'
  | .error _ => s

end Hezarfen.Overrides
