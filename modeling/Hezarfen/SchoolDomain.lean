import Hezarfen.Domain

/-!
# Roles, appointments and the class roster

The rows behind the appointment calendar and the class layer, with the pure rules
over them: the role hierarchy, the window of a booking and the half-open overlap
test, and the expansion of a weekly publish.
-/

namespace Hezarfen.School

inductive Role where
  | ai
  | parent
  | student
  | teacher
  | manager
  | admin
  deriving DecidableEq

def Role.rank : Role → ℕ
  | .ai => 0
  | .parent => 1
  | .student => 2
  | .teacher => 3
  | .manager => 4
  | .admin => 5

def Role.atLeast (role min : Role) : Bool := min.rank ≤ role.rank

def Role.tryFromStr (value : String) : Except ValidationError Role :=
  if value = "parent" then .ok .parent
  else if value = "student" then .ok .student
  else if value = "teacher" then .ok .teacher
  else if value = "manager" then .ok .manager
  else if value = "admin" then .ok .admin
  else .error (.invalid "role" "must be one of: parent, student, teacher, manager, admin")

structure AppointmentSlotId where
  uuid : Uuid
  deriving DecidableEq

structure AppointmentId where
  uuid : Uuid
  deriving DecidableEq

structure ClassGroupId where
  uuid : Uuid
  deriving DecidableEq

structure CourseId where
  uuid : Uuid
  deriving DecidableEq

structure ClassCourseId where
  uuid : Uuid
  deriving DecidableEq

structure ClassMemberId where
  uuid : Uuid
  deriving DecidableEq

structure SlotSeries where
  asStr : String
  deriving DecidableEq

/-- The half-open window `[startsAt, endsAt)` a teacher offers. -/
structure AppointmentSlot where
  id : AppointmentSlotId
  teacher : UserId
  startsAt : Timestamp
  endsAt : Timestamp
  note : Option String
  series : Option SlotSeries
  createdAt : Timestamp

def checkWindow (startsAt endsAt : Timestamp) : Except ValidationError Unit :=
  if startsAt ≥ endsAt then .error (.invalid "ends_at" "must be after starts_at") else .ok ()

def maxSlotOccurrences : ℕ := 52

def millisPerWeek : ℤ := 7 * 24 * 60 * 60 * 1000

/-- The checked `i64` arithmetic of a shift by whole weeks. -/
def shifted (base : Timestamp) (week : ℕ) : Option Timestamp :=
  let shift := (week : ℤ) * millisPerWeek
  if clampI64 shift = shift ∧ clampI64 (base + shift) = base + shift then some (base + shift)
  else none

def weeklyWindow (startsAt endsAt : Timestamp) (week : ℕ) :
    Except ValidationError (Timestamp × Timestamp) :=
  match shifted startsAt week, shifted endsAt week with
  | some starts, some ends =>
      match checkWindow starts ends with
      | .error e => .error e
      | .ok _ => .ok (starts, ends)
  | _, _ => .error (.invalid "ends_at" "is too far ahead to repeat weekly")

/-- The windows a weekly publish expands into, up to and including `until`. -/
def weeklyWindows (startsAt endsAt until_ : Timestamp) :
    Except ValidationError (List (Timestamp × Timestamp)) :=
  match checkWindow startsAt endsAt with
  | .error e => .error e
  | .ok _ =>
      if until_ < startsAt then .error (.invalid "until" "must not be before the first slot")
      else
        let count := ((until_ - startsAt) / millisPerWeek + 1).toNat
        if maxSlotOccurrences < count then .error (.tooLong "until" maxSlotOccurrences count)
        else (List.range count).mapM (weeklyWindow startsAt endsAt)

inductive AppointmentStatus where
  | pending
  | approved
  | rejected
  | cancelled
  deriving DecidableEq

def AppointmentStatus.isLive : AppointmentStatus → Bool
  | .pending => true
  | .approved => true
  | .rejected => false
  | .cancelled => false

structure Appointment where
  id : AppointmentId
  slot : Option AppointmentSlotId
  requester : UserId
  status : AppointmentStatus
  reason : String
  proposedStartsAt : Option Timestamp
  proposedEndsAt : Option Timestamp
  proposedBy : Option UserId
  decidedBy : Option UserId
  cancelledBy : Option UserId
  cancelReason : Option String
  rejectReason : Option String
  createdAt : Timestamp

namespace Appointment

def window (appointment : Appointment) (slot : AppointmentSlot) : Timestamp × Timestamp :=
  match appointment.proposedStartsAt, appointment.proposedEndsAt with
  | some startsAt, some endsAt => (startsAt, endsAt)
  | _, _ => (slot.startsAt, slot.endsAt)

def overlaps (aStartsAt aEndsAt bStartsAt bEndsAt : Timestamp) : Bool :=
  aStartsAt < bEndsAt && aEndsAt > bStartsAt

def hasProposal (appointment : Appointment) : Bool :=
  appointment.proposedStartsAt.isSome && appointment.proposedEndsAt.isSome

def proposes (appointment : Appointment) (window : Timestamp × Timestamp) : Bool :=
  appointment.proposedStartsAt = some window.1 && appointment.proposedEndsAt = some window.2

def Unchanged (row expected : Appointment) : Prop :=
  row.status = expected.status ∧ row.proposedStartsAt = expected.proposedStartsAt ∧
    row.proposedEndsAt = expected.proposedEndsAt ∧ row.decidedBy = expected.decidedBy

instance (row expected : Appointment) : Decidable (row.Unchanged expected) :=
  inferInstanceAs (Decidable (_ ∧ _ ∧ _ ∧ _))

def overwrite (row new : Appointment) : Appointment :=
  { row with
    status := new.status
    proposedStartsAt := new.proposedStartsAt
    proposedEndsAt := new.proposedEndsAt
    proposedBy := new.proposedBy
    decidedBy := new.decidedBy
    cancelledBy := new.cancelledBy
    cancelReason := new.cancelReason
    rejectReason := new.rejectReason }

end Appointment

def maxClassMembers : ℤ := 200

def maxClassCourses : ℤ := 50

structure ClassGroup where
  teacher : Option UserId
  classMemberCount : ℤ
  classCourseCount : ℤ

inductive CourseKind where
  | course
  | club
  | study

def CourseKind.isClassDelivered : CourseKind → Bool
  | .course => true
  | .club => false
  | .study => false

structure Course where
  kind : CourseKind
  classCourseCount : ℤ

/-- One course as one section teaches it. -/
structure ClassCourse where
  classId : ClassGroupId
  course : CourseId
  attachedBy : UserId
  attachedAt : Timestamp
  enrollmentCount : ℤ
  deriving DecidableEq

/-- One stint of a student in a section; a live one has no `leftAt`. -/
structure ClassMember where
  classId : ClassGroupId
  user : UserId
  addedBy : UserId
  joinedAt : Timestamp
  leftAt : Option Timestamp
  sourceClassGroup : Option ClassGroupId
  deriving DecidableEq

/-- A roster row; `source` is the section that pumped it, nothing for a hand-placed one. -/
structure Enrollment where
  enrolledBy : UserId
  source : Option ClassGroupId
  createdAt : Timestamp

end Hezarfen.School
