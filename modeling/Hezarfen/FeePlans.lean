import Hezarfen.PaymentReplay
import Hezarfen.SchoolDomain

/-!
# Fee plans and their assignment

A plan is a name and its installments.  An assign places it on a student in one
statement, with the plan's assignment count, and then bills the installments of the
stored plan one ledger append at a time.  The edit and the delete of a plan are guarded
statements on that count.  The payments of the ledger run beside them.
-/

namespace Hezarfen.FeePlans

open Interleaving
open Payment (FeePlanId FeePlanAssignmentId Installment PaymentLedgerId PaymentLedger)
open School (Role)

structure FeePlan where
  id : FeePlanId
  name : String
  installments : List Installment
  createdBy : UserId
  createdAt : Timestamp
  deriving DecidableEq

/-- A `fee_plan` row: the plan and its count of assignments. -/
structure FeePlanRow where
  plan : FeePlan
  assignmentCount : ℤ
  deriving DecidableEq

structure FeePlanAssignment where
  plan : FeePlanId
  student : UserId
  assignedBy : UserId
  createdAt : Timestamp
  deriving DecidableEq

structure Db where
  feePlan : Table FeePlanId FeePlanRow
  feePlanAssignment : Table FeePlanAssignmentId FeePlanAssignment
  paymentLedger : Payment.Db

def Db.empty : Db := ⟨∅, ∅, ∅⟩

def maxFeePlanInstallments : ℕ := 60

def maxFeePlanAssignStudents : ℕ := 200

def maxFeePlanAssignWrites : ℕ := 3000

/-- `cap::UNLIMITED`, the largest 64-bit integer. -/
def unlimited : ℤ := 9223372036854775807

def validateInstallments (installments : List Installment) : Except ValidationError Unit :=
  if installments = [] ∨ maxFeePlanInstallments < installments.length then
    .error (.invalid "installments" "a plan must carry 1 to 60 installments")
  else .ok ()

def insertPlan (s : Db) (plan : FeePlan) : Except AppError FeePlan × Db :=
  match validateInstallments plan.installments with
  | .error e => (.error (.validation e), s)
  | .ok () =>
      if (s.feePlan.lookup plan.id).isSome then (.error .db, s)
      else (.ok plan, { s with feePlan := s.feePlan.insert plan.id ⟨plan, 0⟩ })

structure PlanPatch where
  name : Option String
  installments : Option (List Installment)

def FeePlan.patched (plan : FeePlan) (patch : PlanPatch) : FeePlan :=
  { plan with
    name := patch.name.getD plan.name
    installments := patch.installments.getD plan.installments }

/-- The guarded `UPDATE`; `none` when no row qualified. -/
def updateFree (s : Db) (id : FeePlanId) (patch : PlanPatch) : Option FeePlan × Db :=
  match s.feePlan.lookup id with
  | none => (none, s)
  | some row =>
      if row.assignmentCount = 0 then
        (some (row.plan.patched patch),
          { s with feePlan := s.feePlan.insert id ⟨row.plan.patched patch, 0⟩ })
      else (none, s)

/-- The guarded `DELETE`; an assignment row still pointing at the plan fails it. -/
def deleteFree (s : Db) (id : FeePlanId) : Except AppError Bool × Db :=
  match s.feePlan.lookup id with
  | none => (.ok false, s)
  | some row =>
      if row.assignmentCount = 0 then
        if Table.any s.feePlanAssignment fun key _ => decide (key.plan = id) then (.error .db, s)
        else (.ok true, { s with feePlan := s.feePlan.erase id })
      else (.ok false, s)

def createAssignment (s : Db) (id : FeePlanAssignmentId) (assignedBy : UserId)
    (now : Timestamp) : Claimed FeePlanAssignment × Db :=
  match s.feePlan.lookup id.plan with
  | none => (.full, s)
  | some row =>
      if row.assignmentCount < unlimited then
        if (s.feePlanAssignment.lookup id).isSome then (.duplicate, s)
        else
          let assignment : FeePlanAssignment := ⟨id.plan, id.student, assignedBy, now⟩
          (.made assignment,
            { s with
              feePlan := s.feePlan.insert id.plan
                { row with assignmentCount := row.assignmentCount + 1 }
              feePlanAssignment := s.feePlanAssignment.insert id assignment })
      else (.full, s)

/-- What one student of a batch came to. -/
inductive Outcome where
  | assigned
  | alreadyAssigned
  | rejected (reason : String)

structure Batch where
  plan : FeePlanId
  assigner : UserId
  rest : List UserId
  outcomes : List (UserId × Outcome)

structure World where
  now : Timestamp
  uuid : Uuid
  /-- What the read of a user row answers. -/
  role : Option Role
  /-- A rival's line under the same id commits after the snapshot of an append. -/
  missed : Bool

inductive Request where
  | createPlan (name : String) (installments : List Installment) (createdBy : UserId)
  | updatePlan (id : FeePlanId) (patch : PlanPatch)
  | deletePlan (id : FeePlanId)
  | assign (plan : FeePlanId) (student assignedBy : UserId)
  | assignBatch (plan : FeePlanId) (students : List UserId) (assigner : UserId)
  | recordPayment (charge : PaymentLedgerId) (args : Payment.AgainstArgs)
  | recordRefund (paid : PaymentLedgerId) (args : Payment.AgainstArgs)
  | recordReversal (line : PaymentLedgerId) (note : Option String) (recordedBy : UserId)

/-- A program point is named after the round trip that comes next.  An `assign` called alone
has no batch to go on with. -/
inductive Point where
  | createPlan (name : String) (installments : List Installment) (createdBy : UserId)
  | patchRead (id : FeePlanId) (patch : PlanPatch)
  | patchBack (id : FeePlanId)
  | patchWrite (id : FeePlanId) (patch : PlanPatch)
  | patchMiss (id : FeePlanId)
  | deleteRead (id : FeePlanId)
  | deleteWrite (id : FeePlanId)
  | deleteMiss (id : FeePlanId)
  | batchRead (plan : FeePlanId) (students : List UserId) (assigner : UserId)
  | student (student : UserId) (batch : Batch)
  | claim (id : FeePlanAssignmentId) (by_ : UserId) (batch : Option Batch)
  | require (id : FeePlanAssignmentId) (by_ : UserId) (batch : Option Batch)
  | reread (id : FeePlanAssignmentId) (by_ : UserId) (existed : Bool) (batch : Option Batch)
  | bill (id : FeePlanAssignmentId) (by_ : UserId) (existed : Bool) (batch : Option Batch)
      (n : ℕ) (rest : List Installment)
  | ledger (point : Payment.Point)

inductive Answer where
  | plan (plan : FeePlan)
  | deleted (done : Bool)
  | assigned (id : FeePlanAssignmentId) (existed : Bool)
  | outcomes (outcomes : List (UserId × Outcome))
  | line (line : Option PaymentLedger)

abbrev Reply := Next Point (Except AppError Answer)

def refuse (e : AppError) : Reply := .answer (.error e)

def ok (a : Answer) : Reply := .answer (.ok a)

def settle {α : Type} (reply : α → Reply) (r : Except AppError α × Db) : Db × Reply :=
  match r with
  | (.ok a, s) => (s, reply a)
  | (.error e, s) => (s, refuse e)

/-- `require_plan` of the handlers. -/
def requirePlan (s : Db) (id : FeePlanId) (next : Point) : Reply :=
  if (s.feePlan.lookup id).isSome then .goto next else refuse .notFound

/-- What a miss of a guarded statement means; only this path pays for the read. -/
def missed (s : Db) (id : FeePlanId) (standing : Reply) : Reply :=
  if (s.feePlan.lookup id).isSome then standing else refuse .notFound

def patchBack (s : Db) (id : FeePlanId) : Reply :=
  match s.feePlan.lookup id with
  | none => refuse .notFound
  | some row => ok (.plan row.plan)

def patchRead (s : Db) (id : FeePlanId) (patch : PlanPatch) : Reply :=
  match s.feePlan.lookup id with
  | none => refuse .notFound
  | some _ =>
      match patch.installments.elim (.ok ()) validateInstallments with
      | .error e => refuse (.validation e)
      | .ok () =>
          if patch.name = none ∧ patch.installments = none then .goto (.patchBack id)
          else .goto (.patchWrite id patch)

def patchWrite (s : Db) (id : FeePlanId) (patch : PlanPatch) : Db × Reply :=
  match updateFree s id patch with
  | (some plan, s') => (s', ok (.plan plan))
  | (none, s') => (s', .goto (.patchMiss id))

def deleteWrite (s : Db) (id : FeePlanId) : Db × Reply :=
  settle (fun gone => if gone then ok (.deleted true) else .goto (.deleteMiss id)) (deleteFree s id)

def goOn (batch : Batch) : Reply :=
  match batch.rest with
  | [] => ok (.outcomes batch.outcomes)
  | student :: rest => .goto (.student student { batch with rest := rest })

def Batch.push (batch : Batch) (student : UserId) (outcome : Outcome) : Batch :=
  { batch with outcomes := batch.outcomes ++ [(student, outcome)] }

def batchRead (s : Db) (plan : FeePlanId) (students : List UserId) (assigner : UserId) : Reply :=
  if maxFeePlanAssignStudents < students.length then
    refuse (.validation (.invalid "student_ids" "may name at most 200 students"))
  else
    match s.feePlan.lookup plan with
    | none => refuse .notFound
    | some row =>
        if maxFeePlanAssignWrites < students.length * row.plan.installments.length then
          refuse (.validation (.invalid "student_ids"
            ("too many charges for one request: students × installments " ++
              "may not exceed 3000, so split the batch")))
        else goOn ⟨plan, assigner, students, []⟩

def studentRead (w : World) (student : UserId) (batch : Batch) : Reply :=
  if w.role = some .student then
    .goto (.claim ⟨batch.plan, student⟩ batch.assigner (some batch))
  else goOn (batch.push student (.rejected "no such student"))

def noPlan (student : UserId) : Option Batch → Reply
  | none => refuse .notFound
  | some batch => goOn (batch.push student (.rejected "no such plan"))

def claim (s : Db) (w : World) (id : FeePlanAssignmentId) (by_ : UserId)
    (batch : Option Batch) : Db × Reply :=
  match createAssignment s id by_ w.now with
  | (.made _, s') => (s', .goto (.reread id by_ false batch))
  | (.duplicate, s') => (s', .goto (.require id by_ batch))
  | (.full, s') => (s', noPlan id.student batch)

def require (s : Db) (id : FeePlanAssignmentId) (by_ : UserId) (batch : Option Batch) : Reply :=
  if (s.feePlanAssignment.lookup id).isSome then .goto (.reread id by_ true batch)
  else refuse (.internal "failed to assign the fee plan")

def reread (s : Db) (id : FeePlanAssignmentId) (by_ : UserId) (existed : Bool)
    (batch : Option Batch) : Reply :=
  match s.feePlan.lookup id.plan with
  | none => refuse (.internal "the assigned fee plan vanished")
  | some row => .goto (.bill id by_ existed batch 0 row.plan.installments)

def billed (id : FeePlanAssignmentId) (existed : Bool) : Option Batch → Reply
  | none => ok (.assigned id existed)
  | some batch => goOn (batch.push id.student (if existed then .alreadyAssigned else .assigned))

/-- One round of the billing loop.  An append that waited for a rival's line sees none under
its own snapshot and fails. -/
def billNext (s : Db) (w : World) (id : FeePlanAssignmentId) (by_ : UserId) (existed : Bool)
    (batch : Option Batch) (n : ℕ) : List Installment → Db × Reply
  | [] => (s, billed id existed batch)
  | installment :: rest =>
      if w.missed = true ∧
          (s.paymentLedger.lookup (.forInstallment id (n + 1))).isSome = true then
        (s, refuse (.internal "failed to write the ledger line"))
      else
        match txWithRetry (Payment.chargeForInstallment id (n + 1) installment by_ w.now)
            s.paymentLedger with
        | (.error e, ledger) => ({ s with paymentLedger := ledger }, refuse e)
        | (.ok _, ledger) =>
            ({ s with paymentLedger := ledger }, .goto (.bill id by_ existed batch (n + 1) rest))

/-- A step of the ledger's own calls. -/
def ledgerStep (s : Db) : Payment.Db × Payment.Reply → Db × Reply
  | (ledger, .goto point) => ({ s with paymentLedger := ledger }, .goto (.ledger point))
  | (ledger, .answer a) => ({ s with paymentLedger := ledger }, .answer (a.map .line))

def next (id : ℕ) (s : Db) (p : Point) (w : World) : Option (Db × Reply) :=
  match p with
  | .createPlan name installments createdBy =>
      some (settle (fun plan => ok (.plan plan))
        (insertPlan s ⟨⟨w.uuid⟩, name, installments, createdBy, w.now⟩))
  | .patchRead plan patch => some (s, patchRead s plan patch)
  | .patchBack plan => some (s, patchBack s plan)
  | .patchWrite plan patch => some (patchWrite s plan patch)
  | .patchMiss plan =>
      some (s, missed s plan (refuse (.conflict "an assigned plan cannot be edited")))
  | .deleteRead plan => some (s, requirePlan s plan (.deleteWrite plan))
  | .deleteWrite plan => some (deleteWrite s plan)
  | .deleteMiss plan =>
      some (s, missed s plan (refuse (.conflict "an assigned plan cannot be deleted")))
  | .batchRead plan students assigner => some (s, batchRead s plan students assigner)
  | .student student batch => some (s, studentRead w student batch)
  | .claim assignment by_ batch => some (claim s w assignment by_ batch)
  | .require assignment by_ batch => some (s, require s assignment by_ batch)
  | .reread assignment by_ existed batch => some (s, reread s assignment by_ existed batch)
  | .bill assignment by_ existed batch n rest =>
      some (billNext s w assignment by_ existed batch n rest)
  | .ledger point => (Payment.next id s.paymentLedger point ⟨w.now, w.uuid⟩).map (ledgerStep s)

def entry : Request → Point
  | .createPlan name installments createdBy => .createPlan name installments createdBy
  | .updatePlan plan patch => .patchRead plan patch
  | .deletePlan plan => .deleteRead plan
  | .assign plan student assignedBy => .claim ⟨plan, student⟩ assignedBy none
  | .assignBatch plan students assigner => .batchRead plan students assigner
  | .recordPayment charge args => .ledger (.creditRead charge args)
  | .recordRefund paid args => .ledger (.refundRead paid args)
  | .recordReversal line note recordedBy => .ledger (.reversalRead line note recordedBy)

/-- Every statement commits on its own, so an abandoned call leaves what it wrote. -/
def machine : Machine Db Point Request World (Except AppError Answer) where
  entry := entry
  next := next
  rollback := fun _ s => s

def start : Config Db Point := .initial .empty

end Hezarfen.FeePlans
