import Hezarfen.SchoolDomain
import Mathlib.Data.List.Sort

/-!
# The appointment tables and their statements

`appointment_slot` and `appointment`, with the statements the workflows run on
them: the overlap probe, the seat claim fused with the booking, the
compare-and-set every decision writes through, the approval transaction, the
publish behind the exclusion constraint, the delete of free slots and the two
statements of the demotion sweep.
-/

namespace Hezarfen.School

/-- A row of `appointment_slot` with the counter column no struct carries. -/
structure SlotRow where
  slot : AppointmentSlot
  occupied : ℤ

structure Calendar where
  slot : Table AppointmentSlotId SlotRow
  appointment : Table AppointmentId Appointment

namespace Calendar

def empty : Calendar := ⟨∅, ∅⟩

def readSlot (cal : Calendar) (id : AppointmentSlotId) : Option AppointmentSlot :=
  (cal.slot.lookup id).map SlotRow.slot

def slotOf (cal : Calendar) (appointment : Appointment) : Option SlotRow :=
  appointment.slot.bind fun id => cal.slot.lookup id

/-- The row, insisting that it is still open for a decision. -/
def readPending (cal : Calendar) (id : AppointmentId) : Except AppError Appointment :=
  match cal.appointment.lookup id with
  | none => .error .notFound
  | some row =>
      if row.status = .pending then .ok row
      else .error (.conflict "the appointment is no longer pending")

/-- An approved booking of either party that overlaps the window.  Each end of the booked
window is the proposed instant when there is one and the slot's own otherwise; a booking
without a slot joins nothing. -/
def conflictsOn (cal : Calendar) (teacher requester : UserId) (startsAt endsAt : Timestamp)
    (except : Option AppointmentId) : Bool :=
  Table.any cal.appointment fun id row =>
    decide (row.status = .approved) && decide (except ≠ some id) &&
      (cal.slotOf row).any fun booked =>
        (decide (row.requester = requester) || decide (booked.slot.teacher = teacher)) &&
          Appointment.overlaps startsAt endsAt
            (row.proposedStartsAt.getD booked.slot.startsAt)
            (row.proposedEndsAt.getD booked.slot.endsAt)

def listForSeries (cal : Calendar) (series : SlotSeries) : List AppointmentSlot :=
  ((cal.slot.entries.map fun row => row.2.slot).filter fun slot =>
    slot.series = some series).insertionSort fun a b => a.startsAt ≤ b.startsAt

/-- The published windows of `teacher` that meet `[start, stop)`. -/
def windowsInSpan (cal : Calendar) (teacher : UserId) (start stop : Timestamp) :
    List (Timestamp × Timestamp) :=
  ((cal.slot.entries.map fun row => row.2.slot).filter fun slot =>
    slot.teacher = teacher ∧ slot.startsAt < stop ∧ slot.endsAt > start).map fun slot =>
      (slot.startsAt, slot.endsAt)

def claimSlotAndCreate (cal : Calendar) (slot : AppointmentSlotId) (appointment : Appointment) :
    Claimed Appointment × Calendar :=
  match cal.slot.lookup slot with
  | none => (.full, cal)
  | some row =>
      if row.occupied < 1 then
        (.made appointment,
          { slot := cal.slot.insert slot { row with occupied := row.occupied + 1 }
            appointment := cal.appointment.insert appointment.id appointment })
      else (.full, cal)

def freeSeat (slots : Table AppointmentSlotId SlotRow) (slot : Option AppointmentSlotId) :
    Table AppointmentSlotId SlotRow :=
  Table.update slots fun id row =>
    if slot = some id then { row with occupied := max (row.occupied - 1) 0 } else row

/-- The decision on `row`: a status that left the live set hands the seat back. -/
def decided (cal : Calendar) (expected new row : Appointment) : Calendar :=
  { slot :=
      if expected.status.isLive && !new.status.isLive then freeSeat cal.slot expected.slot
      else cal.slot
    appointment := cal.appointment.insert new.id (row.overwrite new) }

/-- The conditional UPDATE of a decision.  `none` means that the row no longer carries the
state it was validated against. -/
def decisionCas (cal : Calendar) (expected new : Appointment) :
    Option Appointment × Calendar :=
  match cal.appointment.lookup new.id with
  | none => (none, cal)
  | some row =>
      if row.Unchanged expected then (some (row.overwrite new), cal.decided expected new row)
      else (none, cal)

def contended : AppError := .conflict "the appointment is being decided elsewhere"

def checkAccepting (expected : Appointment) (accepting : Option (Timestamp × Timestamp)) :
    Except AppError Unit :=
  match accepting with
  | none =>
      if expected.hasProposal then
        .error (.conflict "a counter-proposal is standing; only the requester can accept it")
      else .ok ()
  | some window =>
      if expected.hasProposal = false then .error (.conflict "no time has been proposed")
      else if expected.proposes window = false then
        .error (.conflict
          "the proposed time has changed; re-read the booking and accept the new one")
      else .ok ()

def approvable (cal : Calendar) (now : Timestamp) (id : AppointmentId)
    (expected : Appointment) (accepting : Option (Timestamp × Timestamp)) :
    Except AppError SlotRow :=
  match checkAccepting expected accepting with
  | .error e => .error e
  | .ok _ =>
      match cal.slotOf expected with
      | none => .error .notFound
      | some row =>
          let window := expected.window row.slot
          if window.1 ≤ now then .error (.conflict "that time has already started")
          else if cal.conflictsOn row.slot.teacher expected.requester window.1 window.2 (some id)
          then .error (.conflict "that time collides with another approved appointment")
          else .ok row

/-- `approve_inner`: one serializable transaction. -/
def approveTx (now : Timestamp) (id : AppointmentId) (decidedBy : UserId)
    (accepting : Option (Timestamp × Timestamp)) : Tx Calendar Appointment := fun cal =>
  match cal.readPending id with
  | .error e => .error e
  | .ok expected =>
      match cal.approvable now id expected accepting with
      | .error e => .error e
      | .ok _ =>
          match cal.decisionCas expected
              { expected with status := .approved, decidedBy := some decidedBy } with
          | (some saved, cal') => .ok (saved, cal')
          | (none, _) => .error contended

def spanTaken (slots : Table AppointmentSlotId SlotRow) (slot : AppointmentSlot) : Bool :=
  Table.any slots fun _ row =>
    decide (row.slot.teacher = slot.teacher) &&
      Appointment.overlaps slot.startsAt slot.endsAt row.slot.startsAt row.slot.endsAt

def insertSlots (slots : Table AppointmentSlotId SlotRow) :
    List AppointmentSlot → Option (Table AppointmentSlotId SlotRow)
  | [] => some slots
  | slot :: rest =>
      if spanTaken slots slot then none
      else insertSlots (slots.insert slot.id ⟨slot, 0⟩) rest

/-- The bookings on the named slots that are free: the first statement of `delete_free`. -/
def settledOf (cal : Calendar) (ids : List AppointmentSlotId) : List AppointmentId :=
  (cal.appointment.entries.filter fun row =>
    row.2.slot.any fun slot =>
      decide (slot ∈ ids) && (cal.slot.lookup slot).any fun booked => booked.occupied < 1).map
    fun row => row.1

def deleteSlots (cal : Calendar) (p : AppointmentSlotId → SlotRow → Bool) : Calendar :=
  let doomed (id : AppointmentSlotId) : Bool := (cal.slot.lookup id).any (p id)
  { slot := Table.deleteWhere cal.slot p
    appointment := Table.update cal.appointment fun _ row =>
      if row.slot.any doomed then { row with slot := none } else row }

def deleteBookings (cal : Calendar) (ids : List AppointmentId) : Calendar :=
  { cal with appointment := Table.deleteWhere cal.appointment fun id _ => id ∈ ids }

/-- The rest of `delete_free` and its verdict; a shortfall throws both statements away. -/
def deleteFree (cal : Calendar) (ids : List AppointmentSlotId) (settled : List AppointmentId) :
    Except AppError Unit × Calendar :=
  let free (id : AppointmentSlotId) (row : SlotRow) : Bool :=
    decide (id ∈ ids) && decide (row.occupied < 1)
  let gone := Table.count cal.slot free
  let standing := Table.count cal.slot fun id _ => id ∈ ids
  if gone = ids.length then (.ok (), (cal.deleteBookings settled).deleteSlots free)
  else if gone < standing then
    (.error (.conflict "the slot has a pending or approved booking"), cal)
  else (.error .notFound, cal)

/-- The live bookings on the slots of `teacher`: the rows the cancelling UPDATE takes. -/
def liveOf (cal : Calendar) (teacher : UserId) : List AppointmentId :=
  (cal.appointment.entries.filter fun row =>
    row.2.status.isLive && (cal.slotOf row.2).any fun booked => booked.slot.teacher = teacher).map
    fun row => row.1

def cancelBySweep (teacher : UserId) (row : Appointment) : Appointment :=
  { row with
    status := .cancelled
    cancelledBy := some teacher
    cancelReason := some "the teacher no longer holds a teaching role" }

/-- The rows taken by the cancelling UPDATE and the slots of the teacher at the DELETE. -/
def withdraw (cal : Calendar) (teacher : UserId) (cancelled : List AppointmentId) : Calendar :=
  deleteSlots
    { cal with
      appointment := Table.update cal.appointment fun id row =>
        if id ∈ cancelled then cancelBySweep teacher row else row }
    fun _ row => row.slot.teacher = teacher

end Calendar

end Hezarfen.School
