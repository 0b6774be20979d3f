import Hezarfen.AppointmentStore
import Hezarfen.RosterStore
import Hezarfen.Interleaving

/-!
# Role changes, appointments and class workflows as interleaved calls

Every round trip of a workflow to the store is one program point.  A transaction
that decides and commits in one go is one step.  `set_role_cascade` is cut at its
statements: the row locks it takes, the snapshot its role write counts the admins
on, the rows each sweep statement saw, and the commit that makes all of it
visible.  The gates on tables that are not modelled (sessions, course rights, the
archived year) can only refuse, and the world decides whether they do.
-/

namespace Hezarfen.School

open Interleaving

inductive RowKey where
  | user (id : UserId)
  | appointment (id : AppointmentId)
  | classGroup (id : ClassGroupId)
  deriving DecidableEq

structure Db where
  appUser : Table UserId Role
  calendar : Calendar
  roster : Roster
  /-- The rows a transaction in flight holds, with the number of its call. -/
  locks : Table RowKey ℕ
  minted : List Uuid

def Db.ofUsers (users : Table UserId Role) : Db := ⟨users, .empty, .empty, ∅, []⟩

def Db.mint (s : Db) (uuid : Uuid) : Option Db :=
  if uuid ∈ s.minted then none else some { s with minted := uuid :: s.minted }

def Db.mintAll (s : Db) (uuids : List Uuid) : Option Db :=
  if uuids.Nodup ∧ ∀ uuid ∈ uuids, uuid ∉ s.minted then
    some { s with minted := uuids ++ s.minted }
  else none

/-- The row is not held by another call. -/
def Db.free (s : Db) (id : ℕ) (key : RowKey) : Bool := (s.locks.lookup key).all (· = id)

def Db.lock (s : Db) (id : ℕ) (key : RowKey) : Db :=
  { s with locks := s.locks.insert key id }

def Db.lockAll (s : Db) (id : ℕ) (keys : List RowKey) : Db :=
  { s with locks := keys.foldl (fun locks key => locks.insert key id) s.locks }

def Db.releaseLocks (id : ℕ) (s : Db) : Db :=
  { s with locks := Table.deleteWhere s.locks fun _ holder => holder = id }

/-- What the outside decides at a step: the clock, the generator, the gates on tables that
are not modelled, and how many individual memberships a course has. -/
structure World where
  now : Timestamp
  uuid : Uuid
  uuids : List Uuid
  gates : Option AppError
  memberships : ℤ

inductive Refusal where
  | app (error : AppError)
  | unauthorized
  | coded (code message : String)
  deriving DecidableEq

/-! ## Requests and program points -/

inductive Decision where
  | approve
  | accept (startsAt endsAt : Timestamp)
  | reject (reason : Option String)
  | propose (startsAt endsAt : Timestamp)
  | cancel (reason : Option String)
  | decline

/-- One answer to a booking by one user. -/
structure DecisionJob where
  decision : Decision
  appointment : AppointmentId
  user : UserId

/-- The decisions that are written by a compare-and-set loop. -/
inductive Cas where
  | reject (reason : Option String)
  | propose (startsAt endsAt : Timestamp)
  | cancel (reason : Option String)

structure CasJob where
  cas : Cas
  appointment : AppointmentId
  user : UserId

structure PublishArgs where
  teacher : UserId
  startsAt : Timestamp
  endsAt : Timestamp
  note : Option String
  repeatWeekly : Bool
  until_ : Option Timestamp

structure BookArgs where
  slot : AppointmentSlotId
  requester : UserId
  reason : String

/-- Why a role write may go on: it promotes, it read a target that is no admin, or it holds
the rows of the admins it counted. -/
inductive Floor where
  | promotion
  | notAdmin
  | held (admins : List UserId)

structure RoleJob where
  target : UserId
  role : Role
  now : Timestamp

structure Sweep where
  instances : List ClassCourseId
  classes : List ClassGroupId
  cancelled : List AppointmentId

inductive Grant where
  | instance_ (id : ClassCourseId)
  | homeroom (id : ClassGroupId)
  /-- A homeroom written with its section, which a refusal takes back. -/
  | newClass (id : ClassGroupId)

inductive Request where
  | createUser (user : UserId)
  | setRole (caller target : UserId) (role : String)
  | publish (args : PublishArgs)
  | deleteSlot (caller : UserId) (slot : AppointmentSlotId)
  | deleteSeries (caller : UserId) (series : SlotSeries)
  | book (args : BookArgs)
  | decide (job : DecisionJob)
  | createCourse (kind : CourseKind)
  | createClass (teacher : Option UserId)
  | setHomeroom (classId : ClassGroupId) (teacher : Option UserId)
  | deleteClass (classId : ClassGroupId)
  | deleteCourse (course : CourseId)
  | assignTeacher (instance_ : ClassCourseId) (target by_ : UserId)
  | unassignTeacher (instance_ : ClassCourseId) (target : UserId)
  | addMember (classId : ClassGroupId) (user by_ : UserId) (source : Option ClassGroupId)
  | dropMember (classId : ClassGroupId) (user : UserId) (soft : Bool)
  | attachCourse (classId : ClassGroupId) (course : CourseId) (by_ : UserId)
  | detachCourse (classId : ClassGroupId) (instance_ : ClassCourseId)
  | enroll (instance_ : ClassCourseId) (target by_ : UserId)
  | unenroll (instance_ : ClassCourseId) (target : UserId)

/-- The round trips of `set_role`. -/
inductive RolePoint where
  | caller (caller target : UserId) (role : String)
  | read (target : UserId) (role : Role)
  | current (job : RoleJob)
  | admins (job : RoleJob)
  | lockAdmins (job : RoleJob) (admins : List UserId)
  | count (job : RoleJob) (floor : Floor)
  | write (job : RoleJob) (floor : Floor) (others : ℕ)
  | staff (job : RoleJob) (floor : Floor)
  | homerooms (job : RoleJob) (floor : Floor) (instances : List ClassCourseId)
  | bookings (job : RoleJob) (floor : Floor) (instances : List ClassCourseId)
      (classes : List ClassGroupId)
  | commit (job : RoleJob) (floor : Floor) (sweep : Option Sweep)

inductive CalendarPoint where
  | publish (args : PublishArgs)
  | weekly (args : PublishArgs) (windows : List (Timestamp × Timestamp))
  | insert (args : PublishArgs) (windows : List (Timestamp × Timestamp)) (refusal : String)
  | deleteSlot (caller : UserId) (slot : AppointmentSlotId)
  | deleteSeries (caller : UserId) (series : SlotSeries)
  | listSeries (series : SlotSeries)
  | sweepSettled (slots : List AppointmentSlotId)
  | deleteFree (slots : List AppointmentSlotId) (settled : List AppointmentId)
  | bookCaller (args : BookArgs)
  | bookSlot (args : BookArgs)
  | bookTeacher (args : BookArgs) (teacher : UserId)
  | bookRead (args : BookArgs)
  | bookConflicts (args : BookArgs) (slot : AppointmentSlot)
  | bookClaim (args : BookArgs)
  | bookReread (args : BookArgs)
  | decideCaller (job : DecisionJob)
  | decideGate (job : DecisionJob) (role : Role)
  | decideSlot (job : DecisionJob) (role : Role) (slot : AppointmentSlotId)
  | approve (appointment : AppointmentId) (user : UserId)
      (accepting : Option (Timestamp × Timestamp))
  | decideRead (job : CasJob) (left : ℕ)
  | cancelSlot (job : CasJob) (expected : Appointment) (slot : AppointmentSlotId) (left : ℕ)
  | save (job : CasJob) (expected new : Appointment) (left : ℕ)

/-- The round trips of the class workflows. -/
inductive RosterPoint where
  | createCourse (kind : CourseKind)
  | createClass (teacher : Option UserId)
  | insertClass (teacher : Option UserId)
  | homeroomRead (classId : ClassGroupId) (teacher : Option UserId)
  | homeroomTeacher (classId : ClassGroupId) (teacher : Option UserId)
  | homeroomWrite (classId : ClassGroupId) (teacher : Option UserId)
  | assignGate (instance_ : ClassCourseId) (target by_ : UserId)
  | assignTarget (instance_ : ClassCourseId) (target : UserId)
  | assign (instance_ : ClassCourseId) (target : UserId)
  | recheck (grant : Grant) (target : UserId)
  | undoClasses (grant : Grant) (target : UserId)
  | undoInstances (grant : Grant) (target : UserId)
  | rollbackClass (classId : ClassGroupId)
  | unassign (instance_ : ClassCourseId) (target : UserId)
  | deleteClass (classId : ClassGroupId)
  | deleteCourse (course : CourseId)
  | memberGate (classId : ClassGroupId) (user by_ : UserId) (source : Option ClassGroupId)
  | addMember (classId : ClassGroupId) (user by_ : UserId) (source : Option ClassGroupId)
  | dropMember (classId : ClassGroupId) (user : UserId) (soft : Bool)
  | attachGate (classId : ClassGroupId) (course : CourseId) (by_ : UserId)
  | attachCourse (classId : ClassGroupId) (course : CourseId) (by_ : UserId)
  | detachRead (classId : ClassGroupId) (instance_ : ClassCourseId)
  | detachCourse (classId : ClassGroupId) (course : CourseId)
  | enrollGate (instance_ : ClassCourseId) (target by_ : UserId)
  | enrollRead (instance_ : ClassCourseId) (target by_ : UserId)
  | disown (instance_ : ClassCourseId) (target : UserId) (existing : Enrollment)
  | enrollTx (instance_ : ClassCourseId) (target by_ : UserId)
  | enrollHeld (instance_ : ClassCourseId) (target : UserId)
  | unenroll (instance_ : ClassCourseId) (target : UserId)

inductive Point where
  | createUser (user : UserId)
  | role (point : RolePoint)
  | calendar (point : CalendarPoint)
  | roster (point : RosterPoint)

inductive Answer where
  | done
  | role (role : Role)
  | slots (slots : List AppointmentSlot)
  | appointment (appointment : Appointment)
  | member (member : ClassMember)
  | instance_ (link : ClassCourse)
  | enrollment (row : Enrollment)

abbrev Reply := Next Point (Except Refusal Answer)

def refuse (error : AppError) : Reply := .answer (.error (.app error))

def ok (answer : Answer) : Reply := .answer (.ok answer)

def toRole (point : RolePoint) : Reply := .goto (.role point)

def toCalendar (point : CalendarPoint) : Reply := .goto (.calendar point)

def toRoster (point : RosterPoint) : Reply := .goto (.roster point)

def gated (w : World) (reply : Reply) : Reply :=
  match w.gates with
  | some e => refuse e
  | none => reply

/-! ## Role changes -/

def lastAdmin : AppError :=
  .conflict "the school must keep at least one admin — promote another account first"

def roleCaller (s : Db) (caller target : UserId) (role : String) : Reply :=
  match s.appUser.lookup caller with
  | none => .answer (.error .unauthorized)
  | some held =>
      if held ≠ .admin then refuse (.forbidden "requires admin role")
      else
        match Role.tryFromStr role with
        | .error e => refuse (.validation e)
        | .ok role =>
            if target = caller then refuse (.forbidden "cannot change your own role")
            else toRole (.read target role)

def roleRead (s : Db) (w : World) (target : UserId) (role : Role) : Reply :=
  match s.appUser.lookup target with
  | none => refuse .notFound
  | some _ =>
      if role ≠ .admin then toRole (.current ⟨target, role, w.now⟩)
      else toRole (.count ⟨target, role, w.now⟩ .promotion)

/-- The unlocked read that decides whether the admins are locked at all. -/
def roleCurrent (s : Db) (job : RoleJob) : Reply :=
  if s.appUser.lookup job.target = some .admin then toRole (.admins job)
  else toRole (.count job .notAdmin)

def Db.adminIds (s : Db) : List UserId :=
  (s.appUser.entries.filter fun row => row.2 = .admin).map fun row => row.1

/-- `SELECT … FOR UPDATE` waits for every row of its snapshot and drops the ones that are
no admin any more when it gets them. -/
def roleLockAdmins (id : ℕ) (s : Db) (job : RoleJob) (admins : List UserId) :
    Option (Db × Reply) :=
  if admins.all fun admin => s.free id (.user admin) then
    let held := admins.filter fun admin => s.appUser.lookup admin = some .admin
    if held.length ≤ 1 then some (s.releaseLocks id, refuse lastAdmin)
    else some (s.lockAll id (held.map .user), toRole (.count job (.held held)))
  else none

def Db.otherAdmins (s : Db) (target : UserId) : ℕ :=
  Table.count s.appUser fun id role => decide (role = .admin) && decide (id ≠ target)

/-- Parents return before the staffing arm, and a teacher or above owes it nothing. -/
def RoleJob.afterWrite (job : RoleJob) (floor : Floor) : RolePoint :=
  if job.role = .parent ∨ job.role.atLeast .teacher then .commit job floor none
  else .staff job floor

/-- The role write takes the row lock and re-reads the row under it; the count of the other
admins stays the one of the statement's snapshot. -/
def roleWrite (id : ℕ) (s : Db) (job : RoleJob) (floor : Floor) (others : ℕ) :
    Option (Db × Reply) :=
  if s.free id (.user job.target) then
    match s.appUser.lookup job.target with
    | none => some (s.releaseLocks id, refuse lastAdmin)
    | some role =>
        if role = .admin ∧ job.role ≠ .admin ∧ others = 0 then
          some (s.releaseLocks id, refuse lastAdmin)
        else some (s.lock id (.user job.target), toRole (job.afterWrite floor))
  else none

def roleHomerooms (id : ℕ) (s : Db) (job : RoleJob) (floor : Floor)
    (instances : List ClassCourseId) : Option (Db × Reply) :=
  let classes := s.roster.homeroomsOf job.target
  if classes.all fun classId => s.free id (.classGroup classId) then
    some (s.lockAll id (classes.map .classGroup),
      toRole (.bookings job floor instances classes))
  else none

def roleBookings (id : ℕ) (s : Db) (job : RoleJob) (floor : Floor)
    (instances : List ClassCourseId) (classes : List ClassGroupId) : Option (Db × Reply) :=
  let cancelled := s.calendar.liveOf job.target
  if cancelled.all fun booking => s.free id (.appointment booking) then
    some (s.lockAll id (cancelled.map .appointment),
      toRole (.commit job floor (some ⟨instances, classes, cancelled⟩)))
  else none

def Db.commitRole (s : Db) (job : RoleJob) (sweep : Option Sweep) : Db :=
  let roster := if job.role ≠ .student then s.roster.shed job.target job.now else s.roster
  match sweep with
  | none => { s with appUser := s.appUser.insert job.target job.role, roster := roster }
  | some sweep =>
      { s with
        appUser := s.appUser.insert job.target job.role
        roster := roster.unstaff job.target sweep.instances sweep.classes
        calendar := s.calendar.withdraw job.target sweep.cancelled }

def nextRole (id : ℕ) (s : Db) (w : World) : RolePoint → Option (Db × Reply)
  | .caller caller target role => some (s, roleCaller s caller target role)
  | .read target role => some (s, roleRead s w target role)
  | .current job => some (s, roleCurrent s job)
  | .admins job => some (s, toRole (.lockAdmins job s.adminIds))
  | .lockAdmins job admins => roleLockAdmins id s job admins
  | .count job floor => some (s, toRole (.write job floor (s.otherAdmins job.target)))
  | .write job floor others => roleWrite id s job floor others
  | .staff job floor =>
      some (s, toRole (.homerooms job floor (s.roster.staffedBy job.target)))
  | .homerooms job floor instances => roleHomerooms id s job floor instances
  | .bookings job floor instances classes => roleBookings id s job floor instances classes
  | .commit job _ sweep =>
      some ((s.commitRole job sweep).releaseLocks id, ok (.role job.role))

def schedulePastGraceMs : ℤ := 60 * 1000

def checkNotPast (field : String) (value now : Timestamp) : Except ValidationError Unit :=
  if value < now - schedulePastGraceMs then .error (.invalid field "must not be in the past")
  else .ok ()

def checkTimeRange (startsAt endsAt : Timestamp) : Except ValidationError Unit :=
  if endsAt < startsAt then .error (.invalid "ends_at" "must be at or after starts_at")
  else .ok ()

def checkBody (startsAt endsAt now : Timestamp) : Except ValidationError Unit := do
  checkNotPast "starts_at" startsAt now
  checkNotPast "ends_at" endsAt now
  checkTimeRange startsAt endsAt

def PublishArgs.expand (args : PublishArgs) (now : Timestamp) :
    Except ValidationError CalendarPoint := do
  checkBody args.startsAt args.endsAt now
  if args.repeatWeekly then
    match args.until_ with
    | none => .error (.invalid "until" "is required with repeat_weekly")
    | some until_ =>
        checkNotPast "until" until_ now
        let windows ← weeklyWindows args.startsAt args.endsAt until_
        return .weekly args windows
  else
    checkWindow args.startsAt args.endsAt
    return .insert args [(args.startsAt, args.endsAt)]
      "this time overlaps a slot you have already published"

def requireTeacher (s : Db) (user : UserId) : Except Refusal Role :=
  match s.appUser.lookup user with
  | none => .error .unauthorized
  | some role =>
      if role.atLeast .teacher then .ok role
      else .error (.app (.forbidden "requires teacher role or higher"))

def publish (s : Db) (w : World) (args : PublishArgs) : Reply :=
  match requireTeacher s args.teacher with
  | .error e => .answer (.error e)
  | .ok _ =>
      match args.expand w.now with
      | .error e => refuse (.validation e)
      | .ok point => toCalendar point

def meets (window : Timestamp × Timestamp) (windows : List (Timestamp × Timestamp)) : Bool :=
  windows.any fun other => Appointment.overlaps window.1 window.2 other.1 other.2

def weeklyOverlap : String := "a repeated slot overlaps one you have already published"

def checkBatch (published : List (Timestamp × Timestamp)) :
    List (Timestamp × Timestamp) → List (Timestamp × Timestamp) → Except AppError Unit
  | _, [] => .ok ()
  | earlier, window :: rest =>
      if meets window published then .error (.conflictOwned weeklyOverlap)
      else if meets window earlier then
        .error (.conflictOwned "the repeated slots overlap each other")
      else checkBatch published (earlier ++ [window]) rest

def weekly (s : Db) (args : PublishArgs) (windows : List (Timestamp × Timestamp)) : Reply :=
  let published :=
    match windows.head?, windows.getLast? with
    | some first, some last => s.calendar.windowsInSpan args.teacher first.1 last.2
    | _, _ => []
  match checkBatch published [] windows with
  | .error e => refuse e
  | .ok _ => toCalendar (.insert args windows weeklyOverlap)

def PublishArgs.rows (args : PublishArgs) (w : World) (windows : List (Timestamp × Timestamp)) :
    List AppointmentSlot :=
  (w.uuids.zip windows).map fun (uuid, window) =>
    { id := ⟨uuid⟩
      teacher := args.teacher
      startsAt := window.1
      endsAt := window.2
      note := args.note
      series := if args.repeatWeekly then some ⟨w.uuid.hyphenated⟩ else none
      createdAt := w.now }

/-- `insert_claimed`: the role is read under the lock a demotion takes. -/
def insertClaimed (id : ℕ) (s : Db) (w : World) (args : PublishArgs)
    (windows : List (Timestamp × Timestamp)) (refusal : String) : Option (Db × Reply) :=
  if s.free id (.user args.teacher) ∧ w.uuids.length = windows.length then
    match s.mintAll w.uuids with
    | none => none
    | some s' =>
        if (s.appUser.lookup args.teacher).any (Role.atLeast · .teacher) = false then
          some (s', refuse (.forbidden "that account no longer holds a teaching role"))
        else
          match Calendar.insertSlots s.calendar.slot (args.rows w windows) with
          | none => some (s', refuse (.conflictOwned refusal))
          | some slots =>
              some ({ s' with calendar := { s.calendar with slot := slots } },
                ok (.slots (args.rows w windows)))
  else none

def canManage (slot : AppointmentSlot) (user : UserId) (role : Role) : Bool :=
  role.atLeast .teacher && (decide (slot.teacher = user) || role.atLeast .manager)

/-- The gate of both deletes, which reads the caller and then the slot. -/
def deleteGate (s : Db) (caller : UserId) (slot : Option AppointmentSlot)
    (point : CalendarPoint) : Reply :=
  match requireTeacher s caller with
  | .error e => .answer (.error e)
  | .ok role =>
      match slot with
      | none => refuse .notFound
      | some slot =>
          if canManage slot caller role then toCalendar point
          else refuse (.forbidden "only the slot's teacher or a manager/admin can delete it")

def listSeries (s : Db) (series : SlotSeries) : Reply :=
  match s.calendar.listForSeries series with
  | [] => refuse .notFound
  | slots => toCalendar (.sweepSettled (slots.map AppointmentSlot.id))

def deleteFree (s : Db) (slots : List AppointmentSlotId) (settled : List AppointmentId) :
    Db × Reply :=
  match s.calendar.deleteFree slots settled with
  | (.error e, _) => (s, refuse e)
  | (.ok _, calendar) => ({ s with calendar := calendar }, ok .done)

def bookCaller (s : Db) (args : BookArgs) : Reply :=
  match s.appUser.lookup args.requester with
  | none => .answer (.error .unauthorized)
  | some role =>
      if role = .student ∨ role = .parent then toCalendar (.bookSlot args)
      else refuse (.forbidden "only students and parents can book an appointment")

def bookSlot (s : Db) (args : BookArgs) : Reply :=
  match s.calendar.readSlot args.slot with
  | none => refuse .notFound
  | some slot => toCalendar (.bookTeacher args slot.teacher)

def bookTeacher (s : Db) (args : BookArgs) (teacher : UserId) : Reply :=
  if (s.appUser.lookup teacher).any (Role.atLeast · .teacher) then toCalendar (.bookRead args)
  else refuse (.conflict "the slot's teacher no longer holds a teaching role")

def bookRead (s : Db) (w : World) (args : BookArgs) : Reply :=
  match s.calendar.readSlot args.slot with
  | none => refuse .notFound
  | some slot =>
      if slot.startsAt ≤ w.now then refuse (.conflict "the slot has already started")
      else toCalendar (.bookConflicts args slot)

def bookConflicts (s : Db) (args : BookArgs) (slot : AppointmentSlot) : Reply :=
  if s.calendar.conflictsOn args.requester args.requester slot.startsAt slot.endsAt none then
    refuse (.conflict "you already have an appointment at that time")
  else toCalendar (.bookClaim args)

def BookArgs.appointment (args : BookArgs) (w : World) : Appointment :=
  { id := ⟨w.uuid⟩
    slot := some args.slot
    requester := args.requester
    status := .pending
    reason := args.reason
    proposedStartsAt := none
    proposedEndsAt := none
    proposedBy := none
    decidedBy := none
    cancelledBy := none
    cancelReason := none
    rejectReason := none
    createdAt := w.now }

def bookClaim (s : Db) (w : World) (args : BookArgs) : Option (Db × Reply) :=
  match s.mint w.uuid with
  | none => none
  | some s' =>
      match s.calendar.claimSlotAndCreate args.slot (args.appointment w) with
      | (.made created, calendar) =>
          some ({ s' with calendar := calendar }, ok (.appointment created))
      | (.full, _) => some (s', toCalendar (.bookReread args))
      | (.duplicate, _) => some (s', refuse (.internal "appointment id collided"))

def bookReread (s : Db) (args : BookArgs) : Reply :=
  match s.calendar.readSlot args.slot with
  | none => refuse .notFound
  | some _ => refuse (.conflict "the slot is already booked")

def casUpdateRetries : ℕ := 3

def decideCaller (s : Db) (w : World) (job : DecisionJob) : Reply :=
  match s.appUser.lookup job.user with
  | none => .answer (.error .unauthorized)
  | some role =>
      let proceed := toCalendar (.decideGate job role)
      let staff := refuse (.forbidden "requires teacher role or higher")
      match job.decision with
      | .approve => if role.atLeast .teacher then proceed else staff
      | .reject _ => if role.atLeast .teacher then proceed else staff
      | .propose startsAt endsAt =>
          if role.atLeast .teacher then
            match checkBody startsAt endsAt w.now with
            | .error e => refuse (.validation e)
            | .ok _ => proceed
          else staff
      | .accept _ _ => proceed
      | .cancel _ => proceed
      | .decline => proceed

def notRequester : Decision → AppError
  | .cancel _ => .forbidden "only the requester can cancel this appointment"
  | _ => .forbidden "only the requester can answer a counter-proposal"

/-- `for_decision` for the teacher's answers, `ensure_requester` for the requester's. -/
def decideGate (s : Db) (job : DecisionJob) (role : Role) : Reply :=
  match s.calendar.appointment.lookup job.appointment with
  | none => refuse .notFound
  | some row =>
      let asTeacher :=
        match row.slot with
        | none => refuse .notFound
        | some slot => toCalendar (.decideSlot job role slot)
      let asRequester (point : CalendarPoint) :=
        if row.requester = job.user then toCalendar point
        else refuse (notRequester job.decision)
      match job.decision with
      | .approve => asTeacher
      | .reject _ => asTeacher
      | .propose _ _ => asTeacher
      | .accept startsAt endsAt =>
          asRequester (.approve job.appointment job.user (some (startsAt, endsAt)))
      | .cancel reason =>
          asRequester (.decideRead ⟨.cancel reason, job.appointment, job.user⟩ casUpdateRetries)
      | .decline =>
          if row.requester = job.user then
            if row.proposedStartsAt = none then refuse (.conflict "no time has been proposed")
            else toCalendar
              (.decideRead ⟨.cancel none, job.appointment, job.user⟩ casUpdateRetries)
          else refuse (notRequester job.decision)

def decideSlot (s : Db) (job : DecisionJob) (role : Role) (slot : AppointmentSlotId) : Reply :=
  match s.calendar.readSlot slot with
  | none => refuse .notFound
  | some slot =>
      if canManage slot job.user role = false then
        refuse (.forbidden
          "only the slot's teacher or a manager/admin can decide this appointment")
      else
        match job.decision with
        | .reject reason =>
            toCalendar
              (.decideRead ⟨.reject reason, job.appointment, job.user⟩ casUpdateRetries)
        | .propose startsAt endsAt =>
            if startsAt ≥ endsAt then
              refuse (.validation
                (.invalid "proposed_ends_at" "must be after proposed_starts_at"))
            else toCalendar
              (.decideRead ⟨.propose startsAt endsAt, job.appointment, job.user⟩
                casUpdateRetries)
        | _ => toCalendar (.approve job.appointment job.user none)

/-- The serializable transaction; a write waits while the booking's row is held. -/
def approve (id : ℕ) (s : Db) (w : World) (appointment : AppointmentId) (user : UserId)
    (accepting : Option (Timestamp × Timestamp)) : Option (Db × Reply) :=
  match Calendar.approveTx w.now appointment user accepting s.calendar with
  | .error e => some (s, refuse e)
  | .ok (saved, calendar) =>
      if s.free id (.appointment appointment) then
        some ({ s with calendar := calendar }, ok (.appointment saved))
      else none

def settled : AppError := .conflict "the appointment is already settled"

def decideRead (s : Db) (w : World) (job : CasJob) (left : ℕ) : Reply :=
  match job.cas with
  | .reject reason =>
      match s.calendar.readPending job.appointment with
      | .error e => refuse e
      | .ok expected =>
          toCalendar (.save job expected
            { expected with
              status := .rejected
              decidedBy := some job.user
              rejectReason := reason }
            left)
  | .cancel _ =>
      match s.calendar.appointment.lookup job.appointment with
      | none => refuse .notFound
      | some expected =>
          if expected.status.isLive = false then refuse settled
          else
            match expected.slot with
            | none => refuse .notFound
            | some slot => toCalendar (.cancelSlot job expected slot left)
  | .propose startsAt endsAt =>
      match s.calendar.appointment.lookup job.appointment with
      | none => refuse .notFound
      | some expected =>
          if expected.status.isLive = false then refuse settled
          else if startsAt ≤ w.now then refuse (.conflict "that time has already started")
          else toCalendar (.save job expected
            { expected with
              status := .pending
              decidedBy := none
              proposedStartsAt := some startsAt
              proposedEndsAt := some endsAt
              proposedBy := some job.user }
            left)

def Cas.cancelReason : Cas → Option String
  | .cancel reason => reason
  | _ => none

def cancelSlot (s : Db) (w : World) (job : CasJob) (expected : Appointment)
    (slot : AppointmentSlotId) (left : ℕ) : Reply :=
  match s.calendar.readSlot slot with
  | none => refuse .notFound
  | some slot =>
      if (expected.window slot).1 ≤ w.now then
        refuse (.conflict "the appointment has already started")
      else toCalendar (.save job expected
        { expected with
          status := .cancelled
          cancelledBy := some job.user
          cancelReason := job.cas.cancelReason }
        left)

/-- The compare-and-set of a round; a lost one reads again, up to the retry budget. -/
def save (id : ℕ) (s : Db) (job : CasJob) (expected new : Appointment) (left : ℕ) :
    Option (Db × Reply) :=
  match s.calendar.decisionCas expected new with
  | (none, _) =>
      some (s, if left - 1 = 0 then refuse Calendar.contended
        else toCalendar (.decideRead job (left - 1)))
  | (some saved, calendar) =>
      if s.free id (.appointment new.id) then
        some ({ s with calendar := calendar }, ok (.appointment saved))
      else none

def nextCalendar (id : ℕ) (s : Db) (w : World) : CalendarPoint → Option (Db × Reply)
  | .publish args => some (s, publish s w args)
  | .weekly args windows => some (s, weekly s args windows)
  | .insert args windows refusal => insertClaimed id s w args windows refusal
  | .deleteSlot caller slot =>
      some (s, deleteGate s caller (s.calendar.readSlot slot) (.sweepSettled [slot]))
  | .deleteSeries caller series =>
      some (s, deleteGate s caller (s.calendar.listForSeries series).head? (.listSeries series))
  | .listSeries series => some (s, listSeries s series)
  | .sweepSettled slots =>
      some (s, toCalendar (.deleteFree slots (s.calendar.settledOf slots)))
  | .deleteFree slots settled => some (deleteFree s slots settled)
  | .bookCaller args => some (s, bookCaller s args)
  | .bookSlot args => some (s, bookSlot s args)
  | .bookTeacher args teacher => some (s, bookTeacher s args teacher)
  | .bookRead args => some (s, bookRead s w args)
  | .bookConflicts args slot => some (s, bookConflicts s args slot)
  | .bookClaim args => bookClaim s w args
  | .bookReread args => some (s, bookReread s args)
  | .decideCaller job => some (s, decideCaller s w job)
  | .decideGate job role => some (s, decideGate s job role)
  | .decideSlot job role slot => some (s, decideSlot s job role slot)
  | .approve appointment user accepting => approve id s w appointment user accepting
  | .decideRead job left => some (s, decideRead s w job left)
  | .cancelSlot job expected slot left => some (s, cancelSlot s w job expected slot left)
  | .save job expected new left => save id s job expected new left

/-! ## Sections and staff -/

def resolveTeacher (s : Db) (teacher : UserId) : Except AppError Unit :=
  match s.appUser.lookup teacher with
  | none => .error (.validation (.invalid "teacher_id" "target user does not exist"))
  | some role =>
      if role.atLeast .teacher then .ok ()
      else .error (.validation (.invalid "teacher_id"
        "only a teacher, manager or admin can be a class's homeroom teacher"))

def teacherOrNone (s : Db) (teacher : Option UserId) (point : RosterPoint) : Reply :=
  match teacher.elim (.ok ()) (resolveTeacher s) with
  | .error e => refuse e
  | .ok _ => toRoster point

def createCourse (s : Db) (w : World) (kind : CourseKind) : Option (Db × Reply) :=
  match s.mint w.uuid with
  | none => none
  | some s' =>
      some
        ({ s' with
            roster :=
              { s.roster with course := s.roster.course.insert ⟨w.uuid⟩ ⟨kind, 0⟩ } },
          ok .done)

def granted (grant : Grant) (teacher : Option UserId) : Reply :=
  match teacher with
  | none => ok .done
  | some target => toRoster (.recheck grant target)

def insertClass (s : Db) (w : World) (teacher : Option UserId) : Option (Db × Reply) :=
  match s.mint w.uuid with
  | none => none
  | some s' =>
      some
        ({ s' with
            roster :=
              { s.roster with
                classGroup := s.roster.classGroup.insert ⟨w.uuid⟩ ⟨teacher, 0, 0⟩ } },
          granted (.newClass ⟨w.uuid⟩) teacher)

def homeroomRead (s : Db) (w : World) (classId : ClassGroupId) (teacher : Option UserId) :
    Reply :=
  match s.roster.classGroup.lookup classId with
  | none => refuse .notFound
  | some _ => gated w (toRoster (.homeroomTeacher classId teacher))

def homeroomWrite (id : ℕ) (s : Db) (classId : ClassGroupId) (teacher : Option UserId) :
    Option (Db × Reply) :=
  match s.roster.classGroup.lookup classId with
  | none => some (s, refuse .notFound)
  | some _ =>
      if s.free id (.classGroup classId) then
        some ({ s with roster := s.roster.setHomeroom classId teacher },
          granted (.homeroom classId) teacher)
      else none

def assignGate (s : Db) (instance_ : ClassCourseId) (target by_ : UserId) : Reply :=
  match s.roster.classCourse.lookup instance_ with
  | none => refuse .notFound
  | some _ =>
      match s.appUser.lookup by_ with
      | none => .answer (.error .unauthorized)
      | some role =>
          if role.atLeast .manager then toRoster (.assignTarget instance_ target)
          else refuse (.forbidden
            "assigning a teacher is the office's call — manager role or higher")

def assignTarget (s : Db) (w : World) (instance_ : ClassCourseId) (target : UserId) : Reply :=
  match s.appUser.lookup target with
  | none => refuse (.validation (.invalid "user_id" "target user does not exist"))
  | some role =>
      if role.atLeast .teacher then gated w (toRoster (.assign instance_ target))
      else refuse (.validation
        (.invalid "user_id" "target user must hold the teacher role or higher"))

def assign (s : Db) (instance_ : ClassCourseId) (target : UserId) : Db × Reply :=
  match s.roster.classCourse.lookup instance_ with
  | none => (s, refuse .notFound)
  | some _ =>
      ({ s with roster := s.roster.assign instance_ target },
        toRoster (.recheck (.instance_ instance_) target))

def demoted : AppError :=
  .conflict
    ("that user was demoted below teacher while this request ran — " ++
      "the assignment was undone; re-read their role and retry")

/-- `undo_if_demoted`: the live role is read again after the write. -/
def recheck (s : Db) (grant : Grant) (target : UserId) : Reply :=
  if (s.appUser.lookup target).any (Role.atLeast · .teacher) then ok .done
  else toRoster (.undoClasses grant target)

def undoClasses (id : ℕ) (s : Db) (grant : Grant) (target : UserId) : Option (Db × Reply) :=
  if (s.roster.homeroomsOf target).all fun classId => s.free id (.classGroup classId) then
    some ({ s with roster := s.roster.unassignClasses target },
      toRoster (.undoInstances grant target))
  else none

def undoInstances (s : Db) (grant : Grant) (target : UserId) : Db × Reply :=
  ({ s with roster := s.roster.unassignInstances target },
    match grant with
    | .newClass classId => toRoster (.rollbackClass classId)
    | _ => refuse demoted)

def rollbackClass (id : ℕ) (s : Db) (classId : ClassGroupId) : Option (Db × Reply) :=
  if s.free id (.classGroup classId) then
    match s.roster.deleteClass classId with
    | .error e => some (s, refuse e)
    | .ok (false, _) =>
        some (s, refuse (.internal ("class " ++ classId.uuid.hyphenated ++
          (" took a member or a course between its create and the rollback of a " ++
            "demoted homeroom teacher; it is still there, without a teacher"))))
    | .ok (true, roster) => some ({ s with roster := roster }, refuse demoted)
  else none

def unassign (s : Db) (w : World) (instance_ : ClassCourseId) (target : UserId) : Db × Reply :=
  match w.gates with
  | some e => (s, refuse e)
  | none =>
      match s.roster.classCourseTeacher.lookup (instance_, target) with
      | none => (s, refuse .notFound)
      | some _ => ({ s with roster := s.roster.unassign instance_ target }, ok .done)

def deleteClass (id : ℕ) (s : Db) (w : World) (classId : ClassGroupId) : Option (Db × Reply) :=
  match w.gates with
  | some e => some (s, refuse e)
  | none =>
      if s.free id (.classGroup classId) then
        match s.roster.deleteClass classId with
        | .error e => some (s, refuse e)
        | .ok (false, _) =>
            some (s, refuse (.conflict
              ("this class still holds students or instances — " ++
                "remove its members and detach its courses first")))
        | .ok (true, roster) => some ({ s with roster := roster }, ok .done)
      else none

def deleteCourse (s : Db) (w : World) (course : CourseId) : Db × Reply :=
  match w.gates with
  | some e => (s, refuse e)
  | none =>
      match s.roster.deleteCourse course w.memberships with
      | .error e => (s, refuse e)
      | .ok (false, _) =>
          (s, refuse (.conflict
            ("a class still teaches this course, or students still hold an " ++
              "individual membership in it — detach the classes and remove the members first")))
      | .ok (true, roster) => ({ s with roster := roster }, ok .done)

/-! ## Members and instances -/

def onlyStudents (s : Db) (target : UserId) (reason : String) : Except AppError Unit :=
  match s.appUser.lookup target with
  | none => .error (.validation (.invalid "user_id" "target user does not exist"))
  | some role =>
      if role = .student then .ok () else .error (.validation (.invalid "user_id" reason))

def memberReason : String := "only students can be added to a class"

def memberGate (s : Db) (w : World) (classId : ClassGroupId) (user by_ : UserId)
    (source : Option ClassGroupId) : Reply :=
  match s.roster.classGroup.lookup classId with
  | none => refuse .notFound
  | some _ =>
      gated w <|
        match onlyStudents s user memberReason with
        | .error e => refuse e
        | .ok _ => toRoster (.addMember classId user by_ source)

def memberAnswer : Attached ClassMember → Reply
  | .made member => ok (.member member)
  | .duplicate => .answer (.error (.coded "duplicate" "the student is already in this class"))
  | .gone => refuse .notFound
  | .pivotGone => refuse (.validation (.invalid "user_id" memberReason))
  | .classFull => .answer (.error (.coded "class_at_roster_ceiling"
      s!"this class already holds {maxClassMembers} students"))
  | .classOverloaded => .answer (.error (.coded "class_course_list_too_large"
      (s!"this class holds more than {maxClassCourses} courses — " ++
        "detach some before adding a student")))
  | .courseGone course => .answer (.error (.coded "linked_course_missing"
      (course.uuid.hyphenated ++ " no longer exists — detach it from this class first")))

def addMember (id : ℕ) (s : Db) (w : World) (classId : ClassGroupId) (user by_ : UserId)
    (source : Option ClassGroupId) : Option (Db × Reply) :=
  if s.free id (.user user) ∧ s.free id (.classGroup classId) then
    match s.mint w.uuid with
    | none => none
    | some s' =>
        let r := s.roster.addMember (s.appUser.lookup user) ⟨w.uuid⟩ ⟨classId, by_, w.now⟩ user
          source
        some ({ s' with roster := r.2 }, memberAnswer r.1)
  else none

def dropMember (id : ℕ) (s : Db) (w : World) (classId : ClassGroupId) (user : UserId)
    (soft : Bool) : Option (Db × Reply) :=
  match w.gates with
  | some e => some (s, refuse e)
  | none =>
      if s.free id (.user user) ∧ s.free id (.classGroup classId) then
        let r := s.roster.dropMember classId user soft w.now
        some ({ s with roster := r.2 }, if r.1 then ok .done else refuse .notFound)
      else none

def attachGate (s : Db) (w : World) (classId : ClassGroupId) (course : CourseId)
    (by_ : UserId) : Reply :=
  match s.roster.classGroup.lookup classId with
  | none => refuse .notFound
  | some _ =>
      match s.roster.course.lookup course with
      | none => refuse (.validation (.invalid "course_id" "course does not exist"))
      | some _ => gated w (toRoster (.attachCourse classId course by_))

def attachAnswer : Attached ClassCourse → Reply
  | .made link => ok (.instance_ link)
  | .duplicate => .answer (.error (.coded "duplicate" "the course is already on this class"))
  | .gone => refuse .notFound
  | .pivotGone => refuse .notFound
  | .classFull => .answer (.error (.coded "class_at_course_ceiling"
      s!"this class already holds {maxClassCourses} courses"))
  | .classOverloaded => .answer (.error (.coded "class_roster_too_large"
      (s!"this class holds more than {maxClassMembers} students — " ++
        "remove some before attaching a course")))
  | .courseGone course => .answer (.error (.coded "linked_course_missing"
      (course.uuid.hyphenated ++ " no longer exists — detach it from this class first")))

def attachCourse (id : ℕ) (s : Db) (w : World) (classId : ClassGroupId) (course : CourseId)
    (by_ : UserId) : Option (Db × Reply) :=
  if s.free id (.classGroup classId) then
    match s.mint w.uuid with
    | none => none
    | some s' =>
        match s.roster.attachCourse ⟨w.uuid⟩ ⟨classId, by_, w.now⟩ course with
        | .error e => some (s', refuse e)
        | .ok (verdict, roster) => some ({ s' with roster := roster }, attachAnswer verdict)
  else none

def detachRead (s : Db) (w : World) (classId : ClassGroupId) (instance_ : ClassCourseId) :
    Reply :=
  match s.roster.classGroup.lookup classId, s.roster.classCourse.lookup instance_ with
  | some _, some row =>
      if row.classId = classId then gated w (toRoster (.detachCourse classId row.course))
      else refuse .notFound
  | _, _ => refuse .notFound

def detachCourse (id : ℕ) (s : Db) (classId : ClassGroupId) (course : CourseId) :
    Option (Db × Reply) :=
  if s.free id (.classGroup classId) then
    let r := s.roster.detachCourse classId course
    some ({ s with roster := r.2 }, if r.1 then ok .done else refuse .notFound)
  else none

def enrollReason : String := "only students can be enrolled in a course"

def enrollGate (s : Db) (w : World) (instance_ : ClassCourseId) (target by_ : UserId) : Reply :=
  match s.roster.classCourse.lookup instance_ with
  | none => refuse .notFound
  | some _ =>
      gated w <|
        match onlyStudents s target enrollReason with
        | .error e => refuse e
        | .ok _ => toRoster (.enrollRead instance_ target by_)

def enrollRead (s : Db) (instance_ : ClassCourseId) (target by_ : UserId) : Reply :=
  match s.roster.enrollment.lookup (instance_, target) with
  | none => toRoster (.enrollTx instance_ target by_)
  | some existing =>
      if existing.source = none then ok (.enrollment existing)
      else toRoster (.disown instance_ target existing)

def disown (s : Db) (instance_ : ClassCourseId) (target : UserId) (existing : Enrollment) :
    Db × Reply :=
  let roster := s.roster.disown (instance_, target)
  ({ s with roster := roster },
    ok (.enrollment ((roster.enrollment.lookup (instance_, target)).getD existing)))

def enrollTx (id : ℕ) (s : Db) (w : World) (instance_ : ClassCourseId) (target by_ : UserId) :
    Option (Db × Reply) :=
  if s.free id (.user target) then
    match s.roster.enrollTx (s.appUser.lookup target) (instance_, target) ⟨by_, none, w.now⟩ with
    | .error e => some (s, refuse e)
    | .ok (.held, _) => some (s, toRoster (.enrollHeld instance_ target))
    | .ok (.unfit, _) =>
        some (s, refuse (.validation (.invalid "user_id" enrollReason)))
    | .ok (.made row, roster) => some ({ s with roster := roster }, ok (.enrollment row))
  else none

def enrollHeld (s : Db) (instance_ : ClassCourseId) (target : UserId) : Reply :=
  match s.roster.enrollment.lookup (instance_, target) with
  | none => refuse (.internal "failed to enroll user")
  | some existing => ok (.enrollment existing)

def unenroll (s : Db) (w : World) (instance_ : ClassCourseId) (target : UserId) : Db × Reply :=
  match w.gates with
  | some e => (s, refuse e)
  | none =>
      match s.roster.enrollment.lookup (instance_, target) with
      | none => (s, refuse .notFound)
      | some _ => ({ s with roster := s.roster.release (instance_, target) }, ok .done)

def nextRoster (id : ℕ) (s : Db) (w : World) : RosterPoint → Option (Db × Reply)
  | .createCourse kind => createCourse s w kind
  | .createClass teacher => some (s, gated w (teacherOrNone s teacher (.insertClass teacher)))
  | .insertClass teacher => insertClass s w teacher
  | .homeroomRead classId teacher => some (s, homeroomRead s w classId teacher)
  | .homeroomTeacher classId teacher =>
      some (s, teacherOrNone s teacher (.homeroomWrite classId teacher))
  | .homeroomWrite classId teacher => homeroomWrite id s classId teacher
  | .assignGate instance_ target by_ => some (s, assignGate s instance_ target by_)
  | .assignTarget instance_ target => some (s, assignTarget s w instance_ target)
  | .assign instance_ target => some (assign s instance_ target)
  | .recheck grant target => some (s, recheck s grant target)
  | .undoClasses grant target => undoClasses id s grant target
  | .undoInstances grant target => some (undoInstances s grant target)
  | .rollbackClass classId => rollbackClass id s classId
  | .unassign instance_ target => some (unassign s w instance_ target)
  | .deleteClass classId => deleteClass id s w classId
  | .deleteCourse course => some (deleteCourse s w course)
  | .memberGate classId user by_ source => some (s, memberGate s w classId user by_ source)
  | .addMember classId user by_ source => addMember id s w classId user by_ source
  | .dropMember classId user soft => dropMember id s w classId user soft
  | .attachGate classId course by_ => some (s, attachGate s w classId course by_)
  | .attachCourse classId course by_ => attachCourse id s w classId course by_
  | .detachRead classId instance_ => some (s, detachRead s w classId instance_)
  | .detachCourse classId course => detachCourse id s classId course
  | .enrollGate instance_ target by_ => some (s, enrollGate s w instance_ target by_)
  | .enrollRead instance_ target by_ => some (s, enrollRead s instance_ target by_)
  | .disown instance_ target existing => some (disown s instance_ target existing)
  | .enrollTx instance_ target by_ => enrollTx id s w instance_ target by_
  | .enrollHeld instance_ target => some (s, enrollHeld s instance_ target)
  | .unenroll instance_ target => some (unenroll s w instance_ target)

/-- A new account is a student. -/
def createUser (s : Db) (user : UserId) : Db × Reply :=
  match s.appUser.lookup user with
  | some _ => (s, refuse (.conflict "username already taken"))
  | none => ({ s with appUser := s.appUser.insert user .student }, ok .done)

def next (id : ℕ) (s : Db) (p : Point) (w : World) : Option (Db × Reply) :=
  match p with
  | .createUser user => some (createUser s user)
  | .role point => nextRole id s w point
  | .calendar point => nextCalendar id s w point
  | .roster point => nextRoster id s w point

def entry : Request → Point
  | .createUser user => .createUser user
  | .setRole caller target role => .role (.caller caller target role)
  | .publish args => .calendar (.publish args)
  | .deleteSlot caller slot => .calendar (.deleteSlot caller slot)
  | .deleteSeries caller series => .calendar (.deleteSeries caller series)
  | .book args => .calendar (.bookCaller args)
  | .decide job => .calendar (.decideCaller job)
  | .createCourse kind => .roster (.createCourse kind)
  | .createClass teacher => .roster (.createClass teacher)
  | .setHomeroom classId teacher => .roster (.homeroomRead classId teacher)
  | .deleteClass classId => .roster (.deleteClass classId)
  | .deleteCourse course => .roster (.deleteCourse course)
  | .assignTeacher instance_ target by_ => .roster (.assignGate instance_ target by_)
  | .unassignTeacher instance_ target => .roster (.unassign instance_ target)
  | .addMember classId user by_ source => .roster (.memberGate classId user by_ source)
  | .dropMember classId user soft => .roster (.dropMember classId user soft)
  | .attachCourse classId course by_ => .roster (.attachGate classId course by_)
  | .detachCourse classId instance_ => .roster (.detachRead classId instance_)
  | .enroll instance_ target by_ => .roster (.enrollGate instance_ target by_)
  | .unenroll instance_ target => .roster (.unenroll instance_ target)

def machine : Machine Db Point Request World (Except Refusal Answer) where
  entry := entry
  next := next
  rollback := Db.releaseLocks

def start (users : Table UserId Role) : Config Db Point := .initial (.ofUsers users)

namespace Sample

def headmaster : UserId := ⟨.ending "0001"⟩

def deputy : UserId := ⟨.ending "0002"⟩

def ayse : UserId := ⟨.ending "0003"⟩

def ali : UserId := ⟨.ending "0004"⟩

def accounts : Table UserId Role :=
  (((∅ : Table UserId Role).insert headmaster .admin).insert deputy .admin
    |>.insert ayse .teacher).insert ali .student

def firstUuid : Uuid := .ending "000a"

def secondUuid : Uuid := .ending "000b"

def thirdUuid : Uuid := .ending "000c"

def fourthUuid : Uuid := .ending "000d"

/-- One step of the call `id` at the epoch that draws `uuid` if it draws one. -/
def tickWith (uuid : Uuid) (id : ℕ) : Move Request World :=
  .advance id ⟨0, uuid, [uuid], none, 0⟩

def tick (id : ℕ) : Move Request World := tickWith firstUuid id

def offer : Move Request World := .start (.publish ⟨ayse, 1000, 2000, none, false, none⟩)

def bookOffer : Move Request World := .start (.book ⟨⟨firstUuid⟩, ali, "grades"⟩)

def offerAndBook : List (Move Request World) :=
  [offer, tick 0, tick 0, bookOffer] ++ List.replicate 5 (tick 1) ++ [tickWith secondUuid 1]

def openSection : List (Move Request World) :=
  [.start (.createCourse .course), tick 0, .start (.createClass none)] ++
    List.replicate 2 (tickWith secondUuid 1)

def seatAli : List (Move Request World) :=
  openSection ++ .start (.attachCourse ⟨secondUuid⟩ ⟨firstUuid⟩ headmaster) ::
    List.replicate 2 (tickWith thirdUuid 2) ++
    .start (.addMember ⟨secondUuid⟩ ali headmaster none) ::
    List.replicate 2 (tickWith fourthUuid 3)

end Sample

end Hezarfen.School
