import Hezarfen.Interleaving
import Hezarfen.Money

/-!
# The school fee ledger

An append-only ledger of charges, credits, refunds and reversals.  Amounts are
stored positive and the sign lives in the kind.  A line points at its cause by a
bare text key: a charge at its fee plan assignment, every other line at a ledger
line.  `credit` and `refund` fold the whole subtree under their target in the
transaction that appends, under the row locks of the chain from the target up to
its charge, so that the fold and the append are one step here.
-/

namespace Hezarfen.Payment

open Interleaving

structure FeePlanId where
  uuid : Uuid
  deriving DecidableEq

def FeePlanId.key (id : FeePlanId) : String := id.uuid.hyphenated

structure FeePlanAssignmentId where
  plan : FeePlanId
  student : UserId
  deriving DecidableEq

def FeePlanAssignmentId.key (id : FeePlanAssignmentId) : String :=
  id.plan.key ++ "_" ++ id.student.key

structure Installment where
  amountMinor : LedgerAmount
  dueAt : Timestamp
  deriving DecidableEq

inductive PaymentLedgerKind where
  | charge
  | credit
  | reversal
  | refund
  deriving DecidableEq

def PaymentLedgerKind.sign : PaymentLedgerKind → ℤ
  | .charge | .refund => -1
  | .credit | .reversal => 1

@[ext]
structure PaymentLedgerId where
  key : String
  deriving DecidableEq

namespace PaymentLedgerId

def generate (uuid : Uuid) : PaymentLedgerId := ⟨uuid.hyphenated⟩

def forInstallment (assignment : FeePlanAssignmentId) (n : ℕ) : PaymentLedgerId :=
  ⟨assignment.key ++ "_" ++ ("c" ++ n.repr)⟩

def forReversal (line : PaymentLedgerId) : PaymentLedgerId := ⟨line.key ++ "_" ++ "r"⟩

def forRequest (target : PaymentLedgerId) (marker : String) (key : PaymentRequestKey) :
    PaymentLedgerId :=
  ⟨target.key ++ "_" ++ marker ++ "_" ++ key.asStr⟩

end PaymentLedgerId

structure PaymentLedger where
  id : PaymentLedgerId
  student : UserId
  kind : PaymentLedgerKind
  amountMinor : LedgerAmount
  source : Option String
  dueAt : Option Timestamp
  method : Option String
  note : Option String
  recordedBy : UserId
  createdAt : Timestamp
  deriving DecidableEq

def PaymentLedger.foldBalance (lines : List (PaymentLedgerKind × ℤ)) : ℤ :=
  lines.foldl (fun sum line => sum + line.1.sign * line.2) 0

def PaymentLedger.folded (line : PaymentLedger) : PaymentLedgerKind × ℤ :=
  (line.kind, line.amountMinor.asMinor)

/-- The `payment_ledger` table, by its primary key. -/
abbrev Db := Table PaymentLedgerId PaymentLedger

def append (row : PaymentLedger) : Tx Db PaymentLedger := fun db =>
  match db.lookup row.id with
  | none => .ok (row, db.insert row.id row)
  | some line =>
      if line.kind = row.kind then .ok (line, db)
      else .error (.internal "a ledger id resolved to a line of another kind")

/-- The lines that name `key` as their source. -/
def children (db : Db) (key : String) : List PaymentLedger :=
  (db.entries.map fun row => row.2).filter fun line => line.source = some key

/-- The recursive part of the query: `level` and, round by round, the lines that point at
the lines of the round before. -/
def appliedFrom (db : Db) : ℕ → List PaymentLedger → List PaymentLedger
  | 0, _ => []
  | rounds + 1, level =>
      level ++ appliedFrom db rounds (level.flatMap fun line => children db line.id.key)

/-- Everything that points at `key`, however deep.  The query runs until a round is empty;
a chain of lines is shorter than the table, and `appliedFrom_balance` shows that the
rounds given here are enough. -/
def applied (db : Db) (key : String) : List PaymentLedger :=
  appliedFrom db (db.entries.length + 3) (children db key)

def maxLedgerAppliedLines : ℕ := 20

def taken (db : Db) (target : PaymentLedger) : ℤ :=
  PaymentLedger.foldBalance ((applied db target.id.key).map PaymentLedger.folded) *
    -target.kind.sign

def appliedTo (db : Db) (target : PaymentLedger) : Except AppError ℤ :=
  if maxLedgerAppliedLines ≤ (applied db target.id.key).length then
    .error (.conflict ("this line already carries the most lines that may be applied to it; " ++
      "record the rest against another"))
  else .ok (taken db target)

def chargeForInstallment (assignment : FeePlanAssignmentId) (n : ℕ)
    (installment : Installment) (recordedBy : UserId) (now : Timestamp) :
    Tx Db PaymentLedger :=
  append
    { id := .forInstallment assignment n
      student := assignment.student
      kind := .charge
      amountMinor := installment.amountMinor
      source := some assignment.key
      dueAt := some installment.dueAt
      method := none
      note := none
      recordedBy := recordedBy
      createdAt := now }

/-! ## The workflows -/

structure AgainstArgs where
  amountMinor : LedgerAmount
  method : Option String
  note : Option String
  requestKey : Option PaymentRequestKey
  recordedBy : UserId
  deriving DecidableEq

structure World where
  now : Timestamp
  uuid : Uuid

/-- What tells `credit` and `refund` apart. -/
structure Side where
  expected : PaymentLedgerKind
  kind : PaymentLedgerKind
  wrongTarget : String
  overText : String
  reversed : Option String
  marker : String

def creditSide : Side :=
  { expected := .charge
    kind := .credit
    wrongTarget := "a payment must be recorded against a charge"
    overText := "the charge is already paid in full"
    reversed := some "the charge was reversed, so it is no longer owed"
    marker := "k" }

def refundSide : Side :=
  { expected := .credit
    kind := .refund
    wrongTarget := "a refund must be recorded against a payment"
    overText := "the payment is already refunded in full"
    reversed := none
    marker := "kr" }

/-- The refusal of `against` when the room is gone. -/
def overError (side : Side) (target : PaymentLedger) (db : Db) : AppError :=
  match side.reversed with
  | none => .conflictOwned side.overText
  | some text =>
      if (db.lookup (.forReversal target.id)).isSome then .conflictOwned text
      else .conflictOwned side.overText

/-- The line `against` appends. -/
def againstLine (side : Side) (target : PaymentLedger) (args : AgainstArgs) (w : World) :
    PaymentLedger :=
  { id := (args.requestKey.map (PaymentLedgerId.forRequest target.id side.marker)).getD
      (.generate w.uuid)
    student := target.student
    kind := side.kind
    amountMinor := args.amountMinor
    source := some target.id.key
    dueAt := none
    method := args.method
    note := args.note
    recordedBy := args.recordedBy
    createdAt := w.now }

/-- The shared body of `credit` and `refund`: the replay is read before the cap. -/
def against (side : Side) (target : PaymentLedger) (args : AgainstArgs) (w : World) :
    Tx Db PaymentLedger := fun db =>
  if target.kind ≠ side.expected then
    .error (.validation (.invalid "source" side.wrongTarget))
  else
    match args.requestKey.bind fun key =>
        db.lookup (.forRequest target.id side.marker key) with
    | some existing =>
        if existing.amountMinor.asMinor ≠ args.amountMinor.asMinor ∨
            existing.source ≠ some target.id.key then
          .error (.conflict
            "this request_key was already used for a different amount or target")
        else .ok (existing, db)
    | none =>
        match appliedTo db target with
        | .error e => .error e
        | .ok taken =>
            if target.amountMinor.asMinor <
                saturatingAdd taken args.amountMinor.asMinor then
              .error (overError side target db)
            else append (againstLine side target args w) db

def credit (charge : PaymentLedger) (args : AgainstArgs) (w : World) : Tx Db PaymentLedger :=
  against creditSide charge args w

def refund (credit : PaymentLedger) (args : AgainstArgs) (w : World) : Tx Db PaymentLedger :=
  against refundSide credit args w

def reversalLine (line : PaymentLedger) (note : Option String) (recordedBy : UserId)
    (w : World) : PaymentLedger :=
  { id := .forReversal line.id
    student := line.student
    kind := .reversal
    amountMinor := line.amountMinor
    source := some line.id.key
    dueAt := none
    method := none
    note := note
    recordedBy := recordedBy
    createdAt := w.now }

def reversal (line : PaymentLedger) (note : Option String) (recordedBy : UserId) (w : World) :
    Tx Db PaymentLedger := fun db =>
  if line.kind = .charge ∨ line.kind = .refund then
    append (reversalLine line note recordedBy w) db
  else
    .error (.validation (.invalid "source"
      "only a charge or a refund can be reversed; refund a payment instead"))

inductive Request where
  /-- `assign` after its claim: the installments of the frozen plan are billed in order. -/
  | bill (assignment : FeePlanAssignmentId) (installments : List Installment)
      (recordedBy : UserId)
  | recordPayment (charge : PaymentLedgerId) (args : AgainstArgs)
  | recordRefund (credit : PaymentLedgerId) (args : AgainstArgs)
  | recordReversal (line : PaymentLedgerId) (note : Option String) (recordedBy : UserId)

inductive Point where
  | bill (assignment : FeePlanAssignmentId) (n : ℕ) (rest : List Installment)
      (recordedBy : UserId)
  | creditRead (charge : PaymentLedgerId) (args : AgainstArgs)
  | credit (charge : PaymentLedger) (args : AgainstArgs)
  | refundRead (credit : PaymentLedgerId) (args : AgainstArgs)
  | refund (credit : PaymentLedger) (args : AgainstArgs)
  | reversalRead (line : PaymentLedgerId) (note : Option String) (recordedBy : UserId)
  | reversal (line : PaymentLedger) (note : Option String) (recordedBy : UserId)
  deriving DecidableEq

/-- `assign` answers with its assignment, the other calls with the line. -/
abbrev Reply := Next Point (Except AppError (Option PaymentLedger))

def requireLine (db : Db) (id : PaymentLedgerId) (next : PaymentLedger → Point) : Reply :=
  match db.lookup id with
  | none => .answer (.error .notFound)
  | some line => .goto (next line)

def answerLine (r : Except AppError PaymentLedger × Db) : Db × Reply :=
  (r.2, .answer (r.1.map some))

/-- One round of the billing loop: a failed append ends the call. -/
def billNext (assignment : FeePlanAssignmentId) (n : ℕ) (rest : List Installment)
    (recordedBy : UserId) : Except AppError PaymentLedger × Db → Db × Reply
  | (.error e, db) => (db, .answer (.error e))
  | (.ok _, db) => (db, .goto (.bill assignment (n + 1) rest recordedBy))

def next (_id : ℕ) (db : Db) (p : Point) (w : World) : Option (Db × Reply) :=
  match p with
  | .bill _ _ [] _ => some (db, .answer (.ok none))
  | .bill assignment n (installment :: rest) recordedBy =>
      some (billNext assignment n rest recordedBy
        (txWithRetry (chargeForInstallment assignment n installment recordedBy w.now) db))
  | .creditRead charge args => some (db, requireLine db charge (.credit · args))
  | .credit charge args => some (answerLine (txWithRetry (credit charge args w) db))
  | .refundRead credit args => some (db, requireLine db credit (.refund · args))
  | .refund credit args => some (answerLine (txWithRetry (refund credit args w) db))
  | .reversalRead line note recordedBy =>
      some (db, requireLine db line (.reversal · note recordedBy))
  | .reversal line note recordedBy =>
      some (answerLine (txWithRetry (reversal line note recordedBy w) db))

def entry : Request → Point
  | .bill assignment installments recordedBy => .bill assignment 1 installments recordedBy
  | .recordPayment charge args => .creditRead charge args
  | .recordRefund credit args => .refundRead credit args
  | .recordReversal line note recordedBy => .reversalRead line note recordedBy

def machine : Machine Db Point Request World (Except AppError (Option PaymentLedger)) where
  entry := entry
  next := next
  rollback := fun _ db => db

def start : Config Db Point := .initial ∅

/-! ## What a step can append -/

/-- The line `target` is stored and leaves room for `amount`. -/
structure Room (db : Db) (target : PaymentLedger) (amount : ℤ) : Prop where
  stored : db.lookup target.id = some target
  within : taken db target + amount ≤ target.amountMinor.asMinor

inductive Admitted (db : Db) : PaymentLedger → Prop
  | charge {row : PaymentLedger} (assignment : FeePlanAssignmentId) (n : ℕ)
      (hid : row.id = .forInstallment assignment n) (hkind : row.kind = .charge)
      (hsource : row.source = some assignment.key) : Admitted db row
  | against {side : Side} {target : PaymentLedger} {args : AgainstArgs} {w : World}
      (hside : side = creditSide ∨ side = refundSide) (hexpected : target.kind = side.expected)
      (hroom : Room db target args.amountMinor.asMinor) :
      Admitted db (againstLine side target args w)
  | reversal {target : PaymentLedger} {note : Option String} {recordedBy : UserId} {w : World}
      (hstored : db.lookup target.id = some target)
      (hkind : target.kind = .charge ∨ target.kind = .refund) :
      Admitted db (reversalLine target note recordedBy w)

def Appends (db db' : Db) : Prop :=
  db' = db ∨ ∃ row, db.lookup row.id = none ∧ Admitted db row ∧ db' = db.insert row.id row

variable {db db' : Db} {line : PaymentLedger}

theorem append_cases
    {row : PaymentLedger} (h : append row db = .ok (line, db')) :
    db' = db ∨ (db.lookup row.id = none ∧ db' = db.insert row.id row) := by
  unfold append at h
  split at h
  · next habsent =>
    cases h
    exact .inr ⟨habsent, rfl⟩
  · split at h
    · cases h
      exact .inl rfl
    · cases h

theorem Admitted.appends
    {row : PaymentLedger} (hrow : Admitted db row)
    (h : append row db = .ok (line, db')) : Appends db db' := by
  rcases append_cases h with rfl | ⟨habsent, rfl⟩
  · exact .inl rfl
  · exact .inr ⟨row, habsent, hrow, rfl⟩

theorem add_le_of_saturatingAdd_le
    {a b : ℤ} {amount : LedgerAmount} (h : saturatingAdd a b ≤ amount.asMinor) :
    a + b ≤ amount.asMinor := by
  have hmax := amount.le_max
  unfold maxLedgerAmountMinor at hmax
  unfold saturatingAdd clampI64 at h
  omega

variable {w : World}

theorem against_appends
    {side : Side} (hside : side = creditSide ∨ side = refundSide)
    {target : PaymentLedger} {args : AgainstArgs}
    (hstored : db.lookup target.id = some target)
    (h : against side target args w db = .ok (line, db')) : Appends db db' := by
  unfold against at h
  split at h
  · cases h
  · next hexpected =>
    split at h
    · split at h
      · cases h
      · cases h
        exact .inl rfl
    · unfold appliedTo at h
      split at h
      · cases h
      · next held hheld =>
        split at hheld
        · cases hheld
        · cases hheld
          split at h
          · cases h
          · next hfits =>
            have hroom : Room db target args.amountMinor.asMinor :=
              ⟨hstored, add_le_of_saturatingAdd_le (Int.not_lt.mp hfits)⟩
            exact Admitted.appends
              (.against hside (not_not.mp hexpected) hroom) h

theorem reversal_appends
    {target : PaymentLedger} {note : Option String} {recordedBy : UserId}
    (hstored : db.lookup target.id = some target)
    (h : reversal target note recordedBy w db = .ok (line, db')) : Appends db db' := by
  unfold reversal at h
  split at h
  · next hkind => exact Admitted.appends (.reversal hstored hkind) h
  · cases h

theorem txWithRetry_appends
    {f : Tx Db PaymentLedger}
    (hf : ∀ line db', f db = .ok (line, db') → Appends db db') :
    Appends db (txWithRetry f db).2 := by
  rcases txWithRetry_cases (rfl : txWithRetry f db = (_, _)) with ⟨line, -, hok⟩ | ⟨-, -, -, hs⟩
  · exact hf line _ hok
  · exact .inl hs

def Point.Reads (db : Db) : Point → Prop
  | .credit line _ | .refund line _ | .reversal line _ _ => db.lookup line.id = some line
  | _ => True

theorem billNext_fst
    (assignment : FeePlanAssignmentId) (n : ℕ) (rest : List Installment)
    (recordedBy : UserId) (r : Except AppError PaymentLedger × Db) :
    (billNext assignment n rest recordedBy r).1 = r.2 := by
  rcases r with ⟨_ | _, _⟩ <;> rfl

theorem next_appends
    (id : ℕ) {p : Point} {n : Reply} (hp : p.Reads db)
    (h : next id db p w = some (db', n)) : Appends db db' := by
  cases p with
  | bill assignment k rest =>
      cases rest with
      | nil =>
          cases h
          exact .inl rfl
      | cons =>
          have hdb := congrArg Prod.fst (Option.some.inj h)
          rw [billNext_fst] at hdb
          subst hdb
          apply txWithRetry_appends
          intro line db' hok
          exact Admitted.appends (.charge assignment k rfl rfl rfl) hok
  | creditRead | refundRead | reversalRead =>
      cases h
      exact .inl rfl
  | credit =>
      cases h
      exact txWithRetry_appends fun _ _ hok => against_appends (.inl rfl) hp hok
  | refund =>
      cases h
      exact txWithRetry_appends fun _ _ hok => against_appends (.inr rfl) hp hok
  | reversal =>
      cases h
      exact txWithRetry_appends fun _ _ hok => reversal_appends hp hok

theorem requireLine_reads
    (hkeyed : ∀ id line, db.lookup id = some line → line.id = id)
    {id : PaymentLedgerId} {next : PaymentLedger → Point} {q : Point}
    (h : requireLine db id next = .goto q)
    (hnext : ∀ line, db.lookup line.id = some line → (next line).Reads db) :
    q.Reads db := by
  unfold requireLine at h
  split at h
  · cases h
  · next line hline =>
    cases h
    obtain rfl := hkeyed id line hline
    exact hnext line hline

theorem next_reads
    (id : ℕ) {p q : Point}
    (hkeyed : ∀ id line, db.lookup id = some line → line.id = id)
    (h : next id db p w = some (db', .goto q)) : q.Reads db' := by
  cases p with
  | bill assignment k rest =>
      cases rest with
      | nil => cases h
      | cons =>
          simp only [next, billNext, Option.some.injEq] at h
          split at h
          · cases h
          · cases h
            trivial
  | creditRead | refundRead | reversalRead =>
      simp only [next, Option.some.injEq, Prod.mk.injEq] at h
      obtain ⟨rfl, h⟩ := h
      exact requireLine_reads hkeyed h fun _ hline => hline
  | credit | refund | reversal => cases h

end Hezarfen.Payment
