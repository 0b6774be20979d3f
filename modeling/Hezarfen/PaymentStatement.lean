import Mathlib.Data.List.Sort
import Hezarfen.PaymentReplay

/-!
# The statement and the balance

A statement groups the lines of a student by charge and shows for each charge what was
paid, what went back and what is still owed.  The balance is a flat sum of signs over the
same lines.  Every line of a student hangs under one charge of that student, so summing
the statement charge by charge reads every line once.
-/

namespace Hezarfen.Payment

open Interleaving

def newestFirst (a b : PaymentLedger) : Prop :=
  b.createdAt < a.createdAt ∨ (a.createdAt = b.createdAt ∧ b.id.key ≤ a.id.key)

instance : DecidableRel newestFirst := fun _ _ => inferInstanceAs (Decidable (_ ∨ _))

/-- The lines of `list_for_student` without a limit. -/
def listForStudent (db : Db) (student : UserId) : List PaymentLedger :=
  ((db.entries.map fun row => row.2).filter fun line => line.student = student).insertionSort
    newestFirst

def kindFolds (db : Db) (student : UserId) : List (PaymentLedgerKind × ℤ) :=
  [PaymentLedgerKind.charge, .credit, .reversal, .refund].filterMap fun kind =>
    if Table.any db fun _ line => decide (line.student = student) && decide (line.kind = kind) then
      some (kind, Table.sum db fun _ line =>
        if line.student = student ∧ line.kind = kind then line.amountMinor.asMinor else 0)
    else none

def balanceOf (db : Db) (student : UserId) : ℤ :=
  PaymentLedger.foldBalance (kindFolds db student)

def paginate {α : Type} (items : List α) (limit : Option ℤ) (offset : ℤ) : List α :=
  let start := min offset.toNat items.length
  let stop := match limit with
    | some limit => min (start + limit.toNat) items.length
    | none => items.length
  (items.take stop).drop start

theorem paginate_all {α : Type} (items : List α) : paginate items none 0 = items := by
  simp [paginate]

def childrenOf (lines : List PaymentLedger) (key : String) : List PaymentLedger :=
  lines.filter fun line => line.source = some key

def isReversed (lines : List PaymentLedger) (key : String) : Bool :=
  (childrenOf lines key).any fun kid => kid.kind = .reversal

def paid (lines : List PaymentLedger) (key : String) : List PaymentLedger :=
  (childrenOf lines key).filter fun kid => kid.kind = .credit

/-- The refunds of the payments under `key` that really left. -/
def returned (lines : List PaymentLedger) (key : String) : List PaymentLedger :=
  (paid lines key).flatMap fun credit =>
    (childrenOf lines credit.id.key).filter fun kid =>
      decide (kid.kind = .refund) && !isReversed lines kid.id.key

structure StatementEntry where
  chargeId : PaymentLedgerId
  plan : Option FeePlanId
  planName : Option String
  amountMinor : ℤ
  dueAt : Option Timestamp
  creditedMinor : ℤ
  refundedMinor : ℤ
  outstandingMinor : ℤ
  reversed : Bool
  overdue : Bool

/-- What the statement reads beside the lines. -/
structure StatementContext where
  /-- The assignments of the student. -/
  assignments : List FeePlanAssignmentId
  /-- The names of the plans that still exist. -/
  planName : FeePlanId → Option String
  now : Timestamp

def statementEntry (ctx : StatementContext) (lines : List PaymentLedger)
    (charge : PaymentLedger) : StatementEntry :=
  let key := charge.id.key
  let credited := ((paid lines key).map amountOf).sum
  let refunded := ((returned lines key).map amountOf).sum
  let chargeReversed := isReversed lines key
  let outstanding := if chargeReversed then 0 else amountOf charge - credited + refunded
  let plan := (ctx.assignments.find? fun assignment =>
    assignment.key = charge.source.getD "").map fun assignment => assignment.plan
  { chargeId := charge.id
    plan := plan
    planName := plan.bind ctx.planName
    amountMinor := amountOf charge
    dueAt := charge.dueAt
    creditedMinor := credited
    refundedMinor := refunded
    outstandingMinor := outstanding
    reversed := chargeReversed
    overdue := decide (0 < outstanding) && charge.dueAt.any fun due => due < ctx.now }

structure StatementResponse where
  student : UserId
  entries : List StatementEntry
  total : ℕ
  limit : Option ℤ
  offset : ℤ
  balanceMinor : ℤ

def statementResponse (ctx : StatementContext) (db : Db) (student : UserId)
    (limit : Option ℤ) (offset : ℤ) : StatementResponse :=
  let lines := listForStudent db student
  let charges := lines.filter fun line => line.kind = .charge
  { student := student
    entries := (paginate charges limit offset).map (statementEntry ctx lines)
    total := charges.length
    limit := limit
    offset := offset
    balanceMinor := PaymentLedger.foldBalance (lines.map PaymentLedger.folded) }

/-! ## One student's lines -/

def Kin (db : Db) : Prop :=
  ∀ id line parent, db.lookup id = some line → Under db line parent → line.student = parent.student

variable {db : Db}

theorem Admitted.kin
    (hdb : Forest db) {row parent : PaymentLedger} (hrow : Admitted db row)
    (hparent : db.lookup parent.id = some parent) (hsource : row.source = some parent.id.key) :
    row.student = parent.student := by
  cases hrow with
  | charge assignment n _ _ hassignment =>
      rw [hassignment, Option.some.injEq] at hsource
      exact absurd hsource.symm (hdb.unassigned parent.id parent hparent assignment)
  | @against side target args w _ _ hroom =>
      have hunder : Under db (againstLine side target args w) target := ⟨hroom.stored, rfl⟩
      obtain rfl := hunder.unique ⟨hparent, hsource⟩
      rfl
  | @reversal target note recordedBy w hstored _ =>
      have hunder : Under db (reversalLine target note recordedBy w) target := ⟨hstored, rfl⟩
      obtain rfl := hunder.unique ⟨hparent, hsource⟩
      rfl

theorem Kin.insert
    (hdb : Forest db) (h : Kin db) {row : PaymentLedger}
    (habsent : db.lookup row.id = none) (hrow : Admitted db row) :
    Kin (db.insert row.id row) := by
  intro id line parent hline hunder
  have hparent := hunder.stored
  rw [lookup_insert_eq] at hline hparent
  by_cases hnew : parent.id = row.id
  · rw [if_pos hnew, Option.some.injEq] at hparent
    subst hparent
    split at hline
    · cases hline
      rfl
    · exact absurd hunder.source (hdb.source_ne habsent hrow hline)
  · rw [if_neg hnew] at hparent
    split at hline
    · cases hline
      exact hrow.kin hdb hparent hunder.source
    · exact h id line parent hline ⟨hparent, hunder.source⟩

theorem kin_run
    {ms : List (Move Request World)} {c : Config Db Point}
    (hrun : machine.run start ms = some c) : Kin c.shared := by
  have hend : Settled c ∧ Kin c.shared := by
    refine Machine.run_induction (J := fun c => Settled c ∧ Kin c.shared) ?_
      ⟨settled_start, fun id line parent hline => by cases hline⟩ (Machine.guarded_true _ _) hrun
    rintro c d m ⟨hc, hkin⟩ - hstep
    refine ⟨hc.step hstep, ?_⟩
    rcases hc.appends hstep with heq | ⟨row, habsent, hrow, heq⟩
    · exact heq ▸ hkin
    · exact heq ▸ hkin.insert hc.holds.shared.forest habsent hrow
  exact hend.2

/-- The sum of `f` over the lines of one kind of a student. -/
def sumOf (db : Db) (student : UserId) (kind : PaymentLedgerKind) (f : PaymentLedger → ℤ) : ℤ :=
  Table.sum db fun _ line => if line.kind = kind ∧ line.student = student then f line else 0

section Sums

variable {student : UserId} {kind : PaymentLedgerKind} {f g : PaymentLedger → ℤ}

theorem sumOf_congr
    (h : ∀ id line, db.lookup id = some line → line.kind = kind → line.student = student →
      f line = g line) : sumOf db student kind f = sumOf db student kind g := by
  apply Table.sum_congr
  intro id line hline
  split
  · next hmatch => exact h id line hline hmatch.1 hmatch.2
  · rfl

theorem sumOf_add :
    sumOf db student kind (fun line => f line + g line) =
      sumOf db student kind f + sumOf db student kind g := by
  unfold sumOf
  rw [← Table.sum_add]
  apply Table.sum_congr
  intro id line _
  split <;> simp

theorem sumOf_eq_under
    (hdb : Forest db) (hkin : Kin db) (above : PaymentLedgerKind → Prop) [DecidablePred above]
    (habove : ∀ id line, db.lookup id = some line → line.kind = kind →
      ∃ parent, Under db line parent ∧ above parent.kind) :
    sumOf db student kind f =
      Table.sum db fun _ parent =>
        if above parent.kind ∧ parent.student = student then sumUnder db kind parent.id.key f
        else 0 := by
  let up : PaymentLedgerId → PaymentLedger → Option PaymentLedgerId := fun _ line =>
    if line.kind = kind then line.source.map PaymentLedgerId.mk else none
  have hup : ∀ (key : PaymentLedgerId) (line : PaymentLedger) (id : PaymentLedgerId),
      up key line = some id ↔ line.kind = kind ∧ line.source = some id.key := by
    intro key line id
    simp only [up]
    split
    · next hkind => simp [hkind, PaymentLedgerId.ext_iff]
    · next hkind => simp [hkind]
  have hfibers := Table.sum_fibers (t := db) (u := db) up
    (p := fun _ line => line.kind = kind ∧ line.student = student)
    (q := fun _ parent => above parent.kind ∧ parent.student = student) ?_ fun _ line => f line
  · rw [sumOf, ← hfibers]
    apply Table.sum_congr
    intro id parent hparent
    obtain rfl := hdb.keyed id parent hparent
    simp only [hup, sumUnder]
  · intro id line hline
    constructor
    · rintro ⟨hkind, hstudent⟩
      obtain ⟨parent, hunder, hparent⟩ := habove id line hline hkind
      have hsame := hkin id line parent hline hunder
      exact ⟨parent.id, parent, (hup id line parent.id).mpr ⟨hkind, hunder.source⟩, hunder.stored,
        hparent, hsame.symm.trans hstudent⟩
    · rintro ⟨id', parent, hpoints, hparent, -, hstudent⟩
      obtain rfl := hdb.keyed id' parent hparent
      obtain ⟨hkind, hsource⟩ := (hup id line parent.id).mp hpoints
      exact ⟨hkind, (hkin id line parent hline ⟨hparent, hsource⟩).trans hstudent⟩

end Sums

theorem sumOf_credit
    (hdb : Forest db) (hkin : Kin db) (student : UserId) (f : PaymentLedger → ℤ) :
    sumOf db student .credit f =
      sumOf db student .charge fun charge => sumUnder db .credit charge.id.key f := by
  refine sumOf_eq_under hdb hkin (fun kind => kind = .charge) ?_
  intro id line hline hkind
  have hrooted := hdb.rooted id line hline
  simpa only [Rooted, hkind] using hrooted

theorem sumOf_refund
    (hdb : Forest db) (hkin : Kin db) (student : UserId) (f : PaymentLedger → ℤ) :
    sumOf db student .refund f =
      sumOf db student .credit fun credit => sumUnder db .refund credit.id.key f := by
  refine sumOf_eq_under hdb hkin (fun kind => kind = .credit) ?_
  intro id line hline hkind
  have hrooted := hdb.rooted id line hline
  simpa only [Rooted, hkind] using hrooted

theorem sumOf_reversal
    (hdb : Forest db) (hkin : Kin db) (student : UserId) (f : PaymentLedger → ℤ) :
    sumOf db student .reversal f =
      (sumOf db student .charge fun charge => sumUnder db .reversal charge.id.key f) +
        sumOf db student .refund fun refund => sumUnder db .reversal refund.id.key f := by
  have habove : ∀ id line, db.lookup id = some line → line.kind = .reversal →
      ∃ parent, Under db line parent ∧ (parent.kind = .charge ∨ parent.kind = .refund) := by
    intro id line hline hkind
    have hrooted := hdb.rooted id line hline
    simp only [Rooted, hkind] at hrooted
    obtain ⟨parent, hunder, hparent, -⟩ := hrooted
    exact ⟨parent, hunder, hparent⟩
  rw [sumOf_eq_under hdb hkin (fun kind => kind = .charge ∨ kind = .refund) habove]
  unfold sumOf
  rw [← Table.sum_add]
  apply Table.sum_congr
  intro id parent _
  cases parent.kind <;> simp

/-- The signed sum of a student's lines, kind by kind. -/
theorem sum_value_kinds (db : Db) (student : UserId) :
    (Table.sum db fun _ line => if line.student = student then value line else 0) +
        (sumOf db student .charge amountOf + sumOf db student .refund amountOf) =
      sumOf db student .credit amountOf + sumOf db student .reversal amountOf := by
  unfold sumOf
  rw [← Table.sum_add, ← Table.sum_add, ← Table.sum_add]
  apply Table.sum_congr
  intro id line _
  unfold value
  by_cases hstudent : line.student = student
  · cases line.kind <;> simp [hstudent, PaymentLedgerKind.sign]
  · simp [hstudent]

def share (db : Db) (charge : PaymentLedger) : ℤ :=
  sumUnder db .reversal charge.id.key amountOf + netApplied db charge.id.key - amountOf charge

/-- The signed sum of a student's lines, charge by charge. -/
theorem sum_value_eq
    (hdb : Forest db) (hkin : Kin db) (student : UserId) :
    (Table.sum db fun _ line => if line.student = student then value line else 0) =
      sumOf db student .charge (share db) := by
  have hkinds := sum_value_kinds db student
  have hnet : sumOf db student .refund amountOf =
      sumOf db student .refund (fun refund =>
        amountOf refund - sumUnder db .reversal refund.id.key amountOf) +
        sumOf db student .refund fun refund => sumUnder db .reversal refund.id.key amountOf := by
    rw [← sumOf_add]
    simp
  have hrefunds := sumOf_refund hdb hkin student fun refund =>
    amountOf refund - sumUnder db .reversal refund.id.key amountOf
  have happlied : sumOf db student .credit amountOf =
      sumOf db student .credit (fun credit => amountOf credit - netRefunded db credit.id.key) +
        sumOf db student .credit fun credit => netRefunded db credit.id.key := by
    rw [← sumOf_add]
    simp
  have hcredits := sumOf_credit hdb hkin student fun credit =>
    amountOf credit - netRefunded db credit.id.key
  have hreversals := sumOf_reversal hdb hkin student amountOf
  have hshares : sumOf db student .charge (share db) + sumOf db student .charge amountOf =
      sumOf db student .charge (fun charge => sumUnder db .reversal charge.id.key amountOf) +
        sumOf db student .charge fun charge => netApplied db charge.id.key := by
    rw [← sumOf_add, ← sumOf_add]
    apply sumOf_congr
    intro id charge _ _ _
    unfold share
    omega
  change _ = sumOf db student .credit (fun credit => netRefunded db credit.id.key) at hrefunds
  change _ = sumOf db student .charge (fun charge => netApplied db charge.id.key) at hcredits
  omega

/-! ## The rollup reads the whole tree of a charge -/

theorem listForStudent_perm (db : Db) (student : UserId) :
    (listForStudent db student).Perm
      ((db.entries.map fun row => row.2).filter fun line => line.student = student) :=
  List.perm_insertionSort _ _

variable {line : PaymentLedger}

theorem mem_listForStudent {student : UserId} :
    line ∈ listForStudent db student ↔
      (∃ id, db.lookup id = some line) ∧ line.student = student := by
  rw [(listForStudent_perm db student).mem_iff, List.mem_filter, List.mem_map, decide_eq_true_eq]
  refine and_congr_left fun _ => ?_
  constructor
  · rintro ⟨⟨id, row⟩, hmem, rfl⟩
    exact ⟨id, mem_entries_iff_lookup.mp hmem⟩
  · rintro ⟨id, hline⟩
    exact ⟨⟨id, line⟩, mem_entries_iff_lookup.mpr hline, rfl⟩

theorem sum_listForStudent
    (db : Db) (student : UserId) (p : PaymentLedger → Bool) (f : PaymentLedger → ℤ) :
    (((listForStudent db student).filter p).map f).sum =
      Table.sum db fun _ line => if line.student = student ∧ p line = true then f line else 0 := by
  rw [(((listForStudent_perm db student).filter p).map f).sum_eq, List.filter_filter,
    Table.sum_filter_rows]
  apply Table.sum_congr
  intro id line _
  simp only [Bool.and_eq_true, decide_eq_true_eq, and_comm]

section Rollup

variable {student : UserId} {parent : PaymentLedger}

theorem sum_childrenOf
    (hkin : Kin db) (hparent : db.lookup parent.id = some parent)
    (hstudent : parent.student = student) (kind : PaymentLedgerKind) (f : PaymentLedger → ℤ) :
    (((childrenOf (listForStudent db student) parent.id.key).filter
      fun kid => kid.kind = kind).map f).sum = sumUnder db kind parent.id.key f := by
  rw [childrenOf, List.filter_filter, sum_listForStudent]
  apply Table.sum_congr
  intro id line hline
  by_cases hmatch : line.kind = kind ∧ line.source = some parent.id.key
  · have hsame := hkin id line parent hline ⟨hparent, hmatch.2⟩
    simp [hmatch.1, hmatch.2, hsame, hstudent]
  · rw [if_neg hmatch, if_neg]
    simp only [Bool.and_eq_true, decide_eq_true_eq]
    exact fun h => hmatch h.2

theorem isReversed_eq
    (hkin : Kin db) (hparent : db.lookup parent.id = some parent)
    (hstudent : parent.student = student) :
    isReversed (listForStudent db student) parent.id.key = reversed db parent := by
  rw [Bool.eq_iff_iff, isReversed, reversed, List.any_eq_true, Table.any_iff]
  simp only [childrenOf, List.mem_filter, decide_eq_true_eq, mem_listForStudent]
  constructor
  · rintro ⟨kid, ⟨⟨⟨id, hkid⟩, -⟩, hsource⟩, hkind⟩
    exact ⟨id, kid, hkid, hkind, hsource⟩
  · rintro ⟨id, kid, hkid, hkind, hsource⟩
    have hsame := hkin id kid parent hkid ⟨hparent, hsource⟩
    exact ⟨kid, ⟨⟨⟨id, hkid⟩, hsame.trans hstudent⟩, hsource⟩, hkind⟩

/-- The reversals of a line give back all of it or nothing. -/
theorem sumUnder_reversal_eq
    (hdb : Forest db) (hparent : db.lookup parent.id = some parent) :
    sumUnder db .reversal parent.id.key amountOf =
      if reversed db parent then amountOf parent else 0 := by
  split
  · next hreversed =>
    obtain ⟨id, undo, hundo, hmatch⟩ := Table.any_iff.mp hreversed
    simp only [decide_eq_true_eq] at hmatch
    have hone : ∀ id line, db.lookup id = some line → line.kind = .reversal →
        line.source = some parent.id.key →
        id = .forReversal parent.id ∧ line.amountMinor = parent.amountMinor := by
      intro id line hline hkind hsource
      rcases hdb.child_cases hline ⟨hparent, hsource⟩ with hcase | hcase | hcase
      · exact absurd (hkind.symm.trans hcase.1) (by decide)
      · exact absurd (hkind.symm.trans hcase.1) (by decide)
      · exact ⟨(hdb.keyed id line hline).symm.trans hcase.2.2.1, hcase.2.2.2⟩
    have hid := hone id undo hundo hmatch.1 hmatch.2
    unfold sumUnder
    rw [Table.sum_eq_elim id, hundo]
    · simp [hmatch, amountOf, hid.2]
    · intro id' line hline hne
      rw [if_neg]
      rintro ⟨hkind, hsource⟩
      exact hne ((hone id' line hline hkind hsource).1.trans hid.1.symm)
  · next hstands =>
    exact sumUnder_reversal_of_not_reversed (by simpa using hstands) amountOf

theorem sum_flatMap (l : List PaymentLedger) (g : PaymentLedger → List PaymentLedger)
    (f : PaymentLedger → ℤ) :
    ((l.flatMap g).map f).sum = (l.map fun line => ((g line).map f).sum).sum := by
  induction l with
  | nil => rfl
  | cons line l ih => simp [ih]

theorem sum_paid
    (hkin : Kin db) (hparent : db.lookup parent.id = some parent)
    (hstudent : parent.student = student) (f : PaymentLedger → ℤ) :
    ((paid (listForStudent db student) parent.id.key).map f).sum =
      sumUnder db .credit parent.id.key f :=
  sum_childrenOf hkin hparent hstudent .credit f

/-- What one payment gave back. -/
theorem sum_returned_of
    (hdb : Forest db) (hkin : Kin db) (hparent : db.lookup parent.id = some parent)
    (hstudent : parent.student = student) :
    (((childrenOf (listForStudent db student) parent.id.key).filter fun kid =>
      decide (kid.kind = .refund) && !isReversed (listForStudent db student) kid.id.key).map
        amountOf).sum = netRefunded db parent.id.key := by
  rw [childrenOf, List.filter_filter, sum_listForStudent, netRefunded, sumUnder]
  apply Table.sum_congr
  intro id line hline
  by_cases hmatch : line.kind = .refund ∧ line.source = some parent.id.key
  · have hsame := hkin id line parent hline ⟨hparent, hmatch.2⟩
    obtain rfl := hdb.keyed id line hline
    have hreversed := isReversed_eq hkin hline (hsame.trans hstudent)
    have hgiven := sumUnder_reversal_eq hdb hline
    cases hr : reversed db line with
    | true => simp [hmatch.1, hmatch.2, hreversed, hgiven, hr]
    | false => simp [hmatch.1, hmatch.2, hreversed, hgiven, hr, hsame, hstudent]
  · rw [if_neg hmatch, if_neg]
    simp only [Bool.and_eq_true, decide_eq_true_eq]
    exact fun h => hmatch ⟨h.2.1.1, h.2.2⟩

theorem sum_returned
    (hdb : Forest db) (hkin : Kin db) (hparent : db.lookup parent.id = some parent)
    (hstudent : parent.student = student) :
    ((returned (listForStudent db student) parent.id.key).map amountOf).sum =
      sumUnder db .credit parent.id.key fun credit => netRefunded db credit.id.key := by
  rw [returned, sum_flatMap, ← sum_paid hkin hparent hstudent]
  congr 1
  apply List.map_congr_left
  intro credit hcredit
  simp only [paid, childrenOf, List.mem_filter, mem_listForStudent] at hcredit
  obtain ⟨⟨⟨⟨id, hstored⟩, hsame⟩, -⟩, -⟩ := hcredit
  obtain rfl := hdb.keyed id credit hstored
  exact sum_returned_of hdb hkin hstored hsame

end Rollup

def StatementEntry.owed (entry : StatementEntry) : ℤ :=
  if entry.reversed then entry.creditedMinor - entry.refundedMinor else -entry.outstandingMinor

variable {charge : PaymentLedger}

theorem statementEntry_owed
    (hdb : Forest db) (hkin : Kin db) (ctx : StatementContext)
    {student : UserId} (hcharge : db.lookup charge.id = some charge)
    (hstudent : charge.student = student) :
    (statementEntry ctx (listForStudent db student) charge).owed = share db charge := by
  have hcredited := sum_paid hkin hcharge hstudent amountOf
  have hreturned := sum_returned hdb hkin hcharge hstudent
  have hnet : netApplied db charge.id.key +
      sumUnder db .credit charge.id.key (fun credit => netRefunded db credit.id.key) =
      sumUnder db .credit charge.id.key amountOf := by
    rw [netApplied, ← sumUnder_add]
    simp
  have hreversal := sumUnder_reversal_eq hdb hcharge
  have hreversed := isReversed_eq hkin hcharge hstudent
  simp only [StatementEntry.owed, statementEntry, hcredited, hreturned, hreversed, share, hreversal]
  split
  · omega
  · omega

theorem foldBalance_lines (db : Db) (student : UserId) :
    PaymentLedger.foldBalance ((listForStudent db student).map PaymentLedger.folded) =
      Table.sum db fun _ line => if line.student = student then value line else 0 := by
  rw [foldBalance_folded]
  have hsum := sum_listForStudent db student (fun _ => true) value
  simpa using hsum

/-- The grouped totals fold to the same sum. -/
theorem balanceOf_eq (db : Db) (student : UserId) :
    balanceOf db student =
      Table.sum db fun _ line => if line.student = student then value line else 0 := by
  have htotal : ∀ kind, (Table.sum db fun _ line =>
      if line.student = student ∧ line.kind = kind then line.amountMinor.asMinor else 0) =
        sumOf db student kind amountOf := by
    intro kind
    apply Table.sum_congr
    intro id line _
    simp only [and_comm, amountOf]
  have hnone : ∀ kind, Table.any db (fun _ line =>
      decide (line.student = student) && decide (line.kind = kind)) = false →
      sumOf db student kind amountOf = 0 := by
    intro kind habsent
    apply Table.sum_eq_zero
    intro id line hline
    have hother := Table.any_eq_false_iff.mp habsent id line hline
    rw [if_neg]
    rintro ⟨hkind, hstudent⟩
    simp [hkind, hstudent] at hother
  have hfolds : ∀ kinds : List PaymentLedgerKind, ((kinds.filterMap fun kind =>
      if Table.any db fun _ line => decide (line.student = student) && decide (line.kind = kind)
      then some (kind, sumOf db student kind amountOf) else none).map
        fun fold => fold.1.sign * fold.2).sum =
      (kinds.map fun kind => kind.sign * sumOf db student kind amountOf).sum := by
    intro kinds
    induction kinds with
    | nil => rfl
    | cons kind kinds ih =>
        cases hany : Table.any db fun _ line =>
            decide (line.student = student) && decide (line.kind = kind) with
        | true => simp [hany, ih]
        | false => simp [hany, ih, hnone kind hany]
  have hkinds := sum_value_kinds db student
  unfold balanceOf kindFolds
  simp only [htotal]
  rw [foldBalance_eq_sum, hfolds]
  simp only [List.map_cons, List.map_nil, List.sum_cons, List.sum_nil, PaymentLedgerKind.sign]
  omega

/-- The reference chain of `line` ends at `charge`. -/
inductive Traces (db : Db) : PaymentLedger → PaymentLedger → Prop
  | charge {line : PaymentLedger} (hkind : line.kind = .charge) : Traces db line line
  | up {line parent charge : PaymentLedger} (hunder : Under db line parent)
      (h : Traces db parent charge) : Traces db line charge

theorem Traces.unique
    (hdb : Forest db) {charge' : PaymentLedger}
    (hline : db.lookup line.id = some line) (h : Traces db line charge)
    (h' : Traces db line charge') : charge = charge' := by
  have hroot : ∀ root parent, db.lookup root.id = some root → root.kind = .charge →
      ¬ Under db root parent := by
    intro root parent hroot hkind hunder
    rcases hdb.child_cases hroot hunder with hcase | hcase | hcase <;> simp [hkind] at hcase
  induction h with
  | charge hkind =>
      cases h' with
      | charge => rfl
      | up hunder _ => exact absurd hunder (hroot _ _ hline hkind)
  | up hunder _ ih =>
      cases h' with
      | charge hkind => exact absurd hunder (hroot _ _ hline hkind)
      | up hunder' hrest =>
          obtain rfl := hunder.unique hunder'
          exact ih hunder.stored hrest

/-- `charge` is a stored charge of the student of `line`, at the end of its chain. -/
structure TracedTo (db : Db) (line charge : PaymentLedger) : Prop where
  traces : Traces db line charge
  stored : db.lookup charge.id = some charge
  kind : charge.kind = .charge
  student : charge.student = line.student

theorem TracedTo.up
    (hkin : Kin db) {parent : PaymentLedger}
    (hline : db.lookup line.id = some line) (hunder : Under db line parent)
    (h : TracedTo db parent charge) : TracedTo db line charge :=
  ⟨.up hunder h.traces, h.stored, h.kind,
    h.student.trans (hkin line.id line parent hline hunder).symm⟩

/-- A chain climbs from a refund to a credit to a charge. -/
theorem exists_tracedTo
    (hdb : Forest db) (hkin : Kin db)
    (hline : db.lookup line.id = some line) : ∃ charge, TracedTo db line charge := by
  have hcharge : ∀ root, db.lookup root.id = some root → root.kind = .charge →
      ∃ charge, TracedTo db root charge :=
    fun root hroot hkind => ⟨root, .charge hkind, hroot, hkind, rfl⟩
  have hcredit : ∀ credit, db.lookup credit.id = some credit → credit.kind = .credit →
      ∃ charge, TracedTo db credit charge := by
    intro credit hstored hkind
    have hrooted := hdb.rooted credit.id credit hstored
    simp only [Rooted, hkind] at hrooted
    obtain ⟨parent, hunder, hparent⟩ := hrooted
    obtain ⟨charge, htraced⟩ := hcharge parent hunder.stored hparent
    exact ⟨charge, htraced.up hkin hstored hunder⟩
  have hrefund : ∀ refund, db.lookup refund.id = some refund → refund.kind = .refund →
      ∃ charge, TracedTo db refund charge := by
    intro refund hstored hkind
    have hrooted := hdb.rooted refund.id refund hstored
    simp only [Rooted, hkind] at hrooted
    obtain ⟨parent, hunder, hparent⟩ := hrooted
    obtain ⟨charge, htraced⟩ := hcredit parent hunder.stored hparent
    exact ⟨charge, htraced.up hkin hstored hunder⟩
  cases hkind : line.kind with
  | charge => exact hcharge line hline hkind
  | credit => exact hcredit line hline hkind
  | refund => exact hrefund line hline hkind
  | reversal =>
      have hrooted := hdb.rooted line.id line hline
      simp only [Rooted, hkind] at hrooted
      obtain ⟨parent, hunder, hparent, -⟩ := hrooted
      rcases hparent with hparent | hparent
      · obtain ⟨charge, htraced⟩ := hcharge parent hunder.stored hparent
        exact ⟨charge, htraced.up hkin hline hunder⟩
      · obtain ⟨charge, htraced⟩ := hrefund parent hunder.stored hparent
        exact ⟨charge, htraced.up hkin hline hunder⟩

/-! ## The statement agrees with the balance -/

theorem sum_owed (entries : List StatementEntry) :
    (entries.map StatementEntry.owed).sum =
      ((entries.filter fun entry => !entry.reversed).map fun entry =>
        -entry.outstandingMinor).sum +
      ((entries.filter fun entry => entry.reversed).map fun entry =>
        entry.creditedMinor - entry.refundedMinor).sum := by
  induction entries with
  | nil => rfl
  | cons entry entries ih =>
      cases hreversed : entry.reversed with
      | true =>
          simp only [List.map_cons, List.sum_cons, ih, StatementEntry.owed, hreversed, if_true,
            List.filter_cons, Bool.not_true, Bool.false_eq_true, if_false]
          omega
      | false =>
          simp only [List.map_cons, List.sum_cons, ih, StatementEntry.owed, hreversed, if_true,
            List.filter_cons, Bool.not_false, Bool.false_eq_true, if_false]
          omega

theorem statement_owed
    (hdb : Forest db) (hkin : Kin db) (ctx : StatementContext) (student : UserId) :
    ((statementResponse ctx db student none 0).entries.map StatementEntry.owed).sum =
      sumOf db student .charge (share db) := by
  have hentries : (statementResponse ctx db student none 0).entries.map StatementEntry.owed =
      ((listForStudent db student).filter fun line => line.kind = .charge).map (share db) := by
    simp only [statementResponse, paginate_all, List.map_map]
    apply List.map_congr_left
    intro charge hcharge
    simp only [List.mem_filter, mem_listForStudent, decide_eq_true_eq] at hcharge
    obtain ⟨⟨⟨id, hstored⟩, hstudent⟩, -⟩ := hcharge
    obtain rfl := hdb.keyed id charge hstored
    exact statementEntry_owed hdb hkin ctx hstored hstudent
  rw [hentries, sum_listForStudent]
  apply Table.sum_congr
  intro id line _
  simp only [decide_eq_true_eq, and_comm]

/-- In every reachable ledger the balance of a student, read either way and on every page of
the statement, is what the statement shows: minus what is outstanding on the charges that
stand, plus the net payments of the reversed ones.  Every line of the student hangs under
exactly one charge, and it is the student's own. -/
theorem statement_agrees
    {ms : List (Move Request World)} {c : Config Db Point}
    (hrun : machine.run start ms = some c) (ctx : StatementContext) (student : UserId) :
    (∀ limit offset,
      (statementResponse ctx c.shared student limit offset).balanceMinor =
        balanceOf c.shared student) ∧
    balanceOf c.shared student =
      (((statementResponse ctx c.shared student none 0).entries.filter fun entry =>
        !entry.reversed).map fun entry => -entry.outstandingMinor).sum +
      (((statementResponse ctx c.shared student none 0).entries.filter fun entry =>
        entry.reversed).map fun entry => entry.creditedMinor - entry.refundedMinor).sum ∧
    ∀ line, c.shared.lookup line.id = some line → line.student = student →
      (∃! charge, Traces c.shared line charge) ∧ ∃ charge, TracedTo c.shared line charge := by
  have hdb := (caps_run hrun).forest
  have hkin := kin_run hrun
  have hbalance : balanceOf c.shared student =
      Table.sum c.shared fun _ line => if line.student = student then value line else 0 :=
    balanceOf_eq c.shared student
  refine ⟨?_, ?_, ?_⟩
  · intro limit offset
    rw [hbalance]
    exact foldBalance_lines c.shared student
  · rw [← sum_owed, statement_owed hdb hkin, hbalance]
    exact sum_value_eq hdb hkin student
  · intro line hline _
    obtain ⟨charge, htraced⟩ := exists_tracedTo hdb hkin hline
    refine ⟨⟨charge, htraced.traces, ?_⟩, charge, htraced⟩
    intro other hother
    exact hother.unique hdb hline htraced.traces

section Runs

open Sample

def noPlans : StatementContext := ⟨[yearly], fun _ => none, 1⟩

theorem statement_agrees_refundReversed :
    ∃ c, machine.run start refundReversed = some c ∧ balanceOf c.shared student = 100 ∧
      (((statementResponse noPlans c.shared student none 0).entries.filter fun entry =>
        !entry.reversed).map fun entry => -entry.outstandingMinor).sum +
      (((statementResponse noPlans c.shared student none 0).entries.filter fun entry =>
        entry.reversed).map fun entry => entry.creditedMinor - entry.refundedMinor).sum = 100 := by
  have hend : (machine.run start refundReversed).any (fun c =>
      decide (balanceOf c.shared student = 100)) = true := by
    decide
  obtain ⟨c, hrun, hbalance⟩ := (Option.any_eq_true _ _).mp hend
  have hbalance := of_decide_eq_true hbalance
  have hagrees := (statement_agrees hrun noPlans student).2.1
  exact ⟨c, hrun, hbalance, hagrees.symm.trans hbalance⟩

end Runs

end Hezarfen.Payment
