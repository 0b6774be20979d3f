import Hezarfen.PaymentLedger
import Mathlib.Algebra.Order.Group.Int

/-!
# The caps of the fee ledger

The ledger is a forest: a charge stands under a fee plan assignment, which is no
ledger line, credits and at most one reversal stand under a charge, refunds under
a credit, and at most one reversal under a refund.  On such a forest the fold that
`applied_to` takes over a subtree is the net amount that stands against its root.
The cap keeps the gross amount of a charge, credits less refunds, within the charge;
reversing a refund gives the refunded money back to the charge, and this is the only
way in which the net amount can pass the charge.
-/

namespace Hezarfen.Payment

open Interleaving

variable {id : PaymentLedgerId} {line parent : PaymentLedger}

theorem assignment_key_ne_join
    (assignment : FeePlanAssignmentId) {a b : String} (ha : ¬ Text.Lacks '_' a)
    (hb : Text.Lacks '_' b) : a ++ "_" ++ b ≠ assignment.key := by
  intro h
  have hparts := Text.join_inj '_' hb (Uuid.lacks_underscore _) h
  exact ha (hparts.1 ▸ Uuid.lacks_underscore _)

theorem not_lacks_join (a b : String) : ¬ Text.Lacks '_' (a ++ "_" ++ b) := by
  unfold Text.Lacks
  simp [String.toList_append]

theorem forInstallment_ne_assignment
    (assignment' assignment : FeePlanAssignmentId) (n : ℕ) :
    (PaymentLedgerId.forInstallment assignment' n).key ≠ assignment.key := by
  apply assignment_key_ne_join assignment (not_lacks_join _ _)
  exact Text.Lacks.append (by decide) (Text.lacks_natRepr rfl n)

theorem forReversal_ne_assignment
    (line : PaymentLedgerId) (assignment : FeePlanAssignmentId) :
    (PaymentLedgerId.forReversal line).key ≠ assignment.key := by
  intro h
  have hparts := Text.join_inj '_' (by decide) (Uuid.lacks_underscore _) h
  have hcanonical := assignment.student.uuid.canonical
  have hr : assignment.student.uuid.hyphenated = "r" := hparts.2.symm
  rw [hr] at hcanonical
  revert hcanonical
  decide

theorem forRequest_ne_assignment
    (target : PaymentLedgerId) (marker : String) (key : PaymentRequestKey)
    (assignment : FeePlanAssignmentId) :
    (PaymentLedgerId.forRequest target marker key).key ≠ assignment.key :=
  assignment_key_ne_join assignment (not_lacks_join _ _) key.lacks_underscore

theorem generate_ne_assignment
    (uuid : Uuid) (assignment : FeePlanAssignmentId) :
    (PaymentLedgerId.generate uuid).key ≠ assignment.key := by
  intro h
  have hlacks : Text.Lacks '_' assignment.key := h ▸ uuid.lacks_underscore
  exact not_lacks_join _ _ hlacks

variable {db : Db} {row : PaymentLedger}

theorem Admitted.key_ne_assignment
    (hrow : Admitted db row)
    (assignment : FeePlanAssignmentId) : row.id.key ≠ assignment.key := by
  cases hrow with
  | charge assignment' n hid =>
      rw [hid]
      exact forInstallment_ne_assignment assignment' assignment n
  | @against side target args w _ _ _ =>
      unfold againstLine
      cases args.requestKey with
      | none => exact generate_ne_assignment w.uuid assignment
      | some key => exact forRequest_ne_assignment target.id side.marker key assignment
  | @reversal target _ _ _ _ _ => exact forReversal_ne_assignment target.id assignment

/-! ## The forest -/

/-- `line` names the stored line `parent` as its source. -/
structure Under (db : Db) (line parent : PaymentLedger) : Prop where
  stored : db.lookup parent.id = some parent
  source : line.source = some parent.id.key

def Rooted (db : Db) (line : PaymentLedger) : Prop :=
  match line.kind with
  | .charge => ∃ assignment : FeePlanAssignmentId, line.source = some assignment.key
  | .credit => ∃ parent, Under db line parent ∧ parent.kind = .charge
  | .refund => ∃ parent, Under db line parent ∧ parent.kind = .credit
  | .reversal => ∃ parent, Under db line parent ∧
      (parent.kind = .charge ∨ parent.kind = .refund) ∧
      line.id = .forReversal parent.id ∧ line.amountMinor = parent.amountMinor

structure Forest (db : Db) : Prop where
  keyed : ∀ id line, db.lookup id = some line → line.id = id
  unassigned : ∀ id line, db.lookup id = some line →
    ∀ assignment : FeePlanAssignmentId, id.key ≠ assignment.key
  rooted : ∀ id line, db.lookup id = some line → Rooted db line

theorem forest_empty : Forest ∅ := by
  constructor <;> intro id line hline <;> simp at hline

theorem lookup_insert_of_some
    (habsent : db.lookup row.id = none)
    (hline : db.lookup id = some line) :
    (db.insert row.id row).lookup id = some line := by
  have hne : id ≠ row.id := by
    rintro rfl
    rw [habsent] at hline
    cases hline
  rw [lookup_insert_eq, if_neg hne, hline]

theorem Under.insert
    (h : Under db line parent) (habsent : db.lookup row.id = none) :
    Under (db.insert row.id row) line parent :=
  ⟨lookup_insert_of_some habsent h.stored, h.source⟩

theorem Rooted.insert
    (h : Rooted db line) (habsent : db.lookup row.id = none) :
    Rooted (db.insert row.id row) line := by
  unfold Rooted at *
  split at h
  · exact h
  · obtain ⟨parent, hunder, hkind⟩ := h
    exact ⟨parent, hunder.insert habsent, hkind⟩
  · obtain ⟨parent, hunder, hkind⟩ := h
    exact ⟨parent, hunder.insert habsent, hkind⟩
  · obtain ⟨parent, hunder, hrest⟩ := h
    exact ⟨parent, hunder.insert habsent, hrest⟩

theorem Admitted.rooted
    (hrow : Admitted db row) : Rooted db row := by
  cases hrow with
  | charge assignment n _ hkind hsource =>
      unfold Rooted
      rw [hkind]
      exact ⟨assignment, hsource⟩
  | @against side target args w hside hexpected hroom =>
      rcases hside with rfl | rfl
      · exact ⟨target, ⟨hroom.stored, rfl⟩, hexpected⟩
      · exact ⟨target, ⟨hroom.stored, rfl⟩, hexpected⟩
  | @reversal target _ _ _ hstored hkind =>
      exact ⟨target, ⟨hstored, rfl⟩, hkind, rfl, rfl⟩

theorem Forest.insert
    (hdb : Forest db)
    (habsent : db.lookup row.id = none) (hrow : Admitted db row) :
    Forest (db.insert row.id row) := by
  constructor
  · intro id line hline
    obtain ⟨hid, rfl⟩ | ⟨-, hline⟩ := insert_cases hline
    · exact hid.symm
    · exact hdb.keyed id line hline
  · intro id line hline
    rw [lookup_insert_eq] at hline
    split at hline
    · next hid => exact hid ▸ hrow.key_ne_assignment
    · exact hdb.unassigned id line hline
  · intro id line hline
    obtain ⟨-, rfl⟩ | ⟨-, hline⟩ := insert_cases hline
    · exact hrow.rooted.insert habsent
    · exact (hdb.rooted id line hline).insert habsent

theorem Under.unique
    {parent' : PaymentLedger} (h : Under db line parent) (h' : Under db line parent') :
    parent = parent' := by
  have hkey : parent.id.key = parent'.id.key := by
    have hsource := h.source.symm.trans h'.source
    simpa using hsource
  have hstored := h.stored
  rw [PaymentLedgerId.ext hkey, h'.stored] at hstored
  exact (Option.some.inj hstored).symm

/-- A line under a stored line is no charge, and its kind fits the kind of its parent. -/
theorem Forest.child_cases
    (hdb : Forest db) (hline : db.lookup id = some line) (hunder : Under db line parent) :
    (line.kind = .credit ∧ parent.kind = .charge) ∨
    (line.kind = .refund ∧ parent.kind = .credit) ∨
    (line.kind = .reversal ∧ (parent.kind = .charge ∨ parent.kind = .refund) ∧
      line.id = .forReversal parent.id ∧ line.amountMinor = parent.amountMinor) := by
  have hrooted := hdb.rooted id line hline
  unfold Rooted at hrooted
  split at hrooted
  · obtain ⟨assignment, hsource⟩ := hrooted
    rw [hunder.source] at hsource
    exact absurd (Option.some.inj hsource)
      (hdb.unassigned parent.id parent hunder.stored assignment)
  · next hkind =>
    obtain ⟨parent', hunder', hparent⟩ := hrooted
    obtain rfl := hunder.unique hunder'
    exact .inl ⟨hkind, hparent⟩
  · next hkind =>
    obtain ⟨parent', hunder', hparent⟩ := hrooted
    obtain rfl := hunder.unique hunder'
    exact .inr (.inl ⟨hkind, hparent⟩)
  · next hkind =>
    obtain ⟨parent', hunder', hparent⟩ := hrooted
    obtain rfl := hunder.unique hunder'
    exact .inr (.inr ⟨hkind, hparent⟩)

/-- Nothing points at an id that is not stored yet. -/
theorem Forest.source_ne
    (hdb : Forest db) (habsent : db.lookup row.id = none)
    (hrow : Admitted db row) (hline : db.lookup id = some line) :
    line.source ≠ some row.id.key := by
  intro hsource
  have hnew : ∀ parent, ¬ Under db line parent := by
    intro parent hunder
    have hkey : parent.id.key = row.id.key :=
      Option.some.inj (hunder.source.symm.trans hsource)
    have hstored := hunder.stored
    rw [PaymentLedgerId.ext hkey, habsent] at hstored
    cases hstored
  have hrooted := hdb.rooted id line hline
  unfold Rooted at hrooted
  split at hrooted
  · obtain ⟨assignment, hassignment⟩ := hrooted
    rw [hassignment] at hsource
    exact hrow.key_ne_assignment assignment (Option.some.inj hsource).symm
  · exact hnew _ hrooted.choose_spec.1
  · exact hnew _ hrooted.choose_spec.1
  · exact hnew _ hrooted.choose_spec.1

/-! ## The fold over a subtree -/

/-- Sum of `f` over the lines of one kind under `key`. -/
def sumUnder (db : Db) (kind : PaymentLedgerKind) (key : String) (f : PaymentLedger → ℤ) : ℤ :=
  Table.sum db fun _ line => if line.kind = kind ∧ line.source = some key then f line else 0

def amountOf (line : PaymentLedger) : ℤ := line.amountMinor.asMinor

theorem amountOf_nonneg (line : PaymentLedger) : 0 ≤ amountOf line := by
  have hpos := line.amountMinor.pos
  unfold amountOf
  omega

/-- What was refunded from the line under `key` and not taken back by a reversal. -/
def netRefunded (db : Db) (key : String) : ℤ :=
  sumUnder db .refund key fun refund =>
    amountOf refund - sumUnder db .reversal refund.id.key amountOf

/-- What is paid under `key`, less what was refunded of it. -/
def netApplied (db : Db) (key : String) : ℤ :=
  sumUnder db .credit key fun credit => amountOf credit - netRefunded db credit.id.key

def grossApplied (db : Db) (key : String) : ℤ :=
  sumUnder db .credit key fun credit => amountOf credit - sumUnder db .refund credit.id.key amountOf

/-- The refunds of the payments under `key` that were reversed. -/
def reversedRefunds (db : Db) (key : String) : ℤ :=
  sumUnder db .credit key fun credit =>
    sumUnder db .refund credit.id.key fun refund => sumUnder db .reversal refund.id.key amountOf

section Over

variable {kind : PaymentLedgerKind} {key : String} {f g : PaymentLedger → ℤ}

theorem sumUnder_congr
    (h : ∀ id line, db.lookup id = some line → line.kind = kind → line.source = some key →
      f line = g line) :
    sumUnder db kind key f = sumUnder db kind key g := by
  apply Table.sum_congr
  intro id line hline
  split
  · next hmatch => exact h id line hline hmatch.1 hmatch.2
  · rfl

theorem sumUnder_eq_zero
    (h : ∀ id line, db.lookup id = some line → line.kind = kind → line.source ≠ some key) :
    sumUnder db kind key f = 0 := by
  apply Table.sum_eq_zero
  intro id line hline
  rw [if_neg]
  rintro ⟨hkind, hsource⟩
  exact h id line hline hkind hsource

theorem sumUnder_le_sumUnder
    (h : ∀ id line, db.lookup id = some line → line.kind = kind → f line ≤ g line) :
    sumUnder db kind key f ≤ sumUnder db kind key g := by
  apply Table.sum_le_sum
  intro id line hline
  split
  · next hmatch => exact h id line hline hmatch.1
  · exact le_rfl

theorem sumUnder_add :
    sumUnder db kind key (fun line => f line + g line) =
      sumUnder db kind key f + sumUnder db kind key g := by
  unfold sumUnder
  rw [← Table.sum_add]
  apply Table.sum_congr
  intro id line _
  split <;> simp

@[simp]
theorem sumUnder_zero : sumUnder db kind key (fun _ => 0) = 0 := by
  apply Table.sum_eq_zero
  intro id line _
  split <;> rfl

theorem sumUnder_nonneg
    (h : ∀ id line, db.lookup id = some line → line.kind = kind → 0 ≤ f line) :
    0 ≤ sumUnder db kind key f := by
  calc
    0 = sumUnder db kind key fun _ => 0 := sumUnder_zero.symm
    _ ≤ sumUnder db kind key f := sumUnder_le_sumUnder h

theorem sumUnder_insert
    (habsent : db.lookup row.id = none) :
    sumUnder (db.insert row.id row) kind key f =
      (if row.kind = kind ∧ row.source = some key then f row else 0) + sumUnder db kind key f :=
  Table.sum_insert_of_lookup_none habsent row _

end Over

def value (line : PaymentLedger) : ℤ := line.kind.sign * amountOf line

theorem foldBalance_eq_sum (lines : List (PaymentLedgerKind × ℤ)) :
    PaymentLedger.foldBalance lines = (lines.map fun line => line.1.sign * line.2).sum := by
  have hfold : ∀ (acc : ℤ), lines.foldl (fun sum line => sum + line.1.sign * line.2) acc =
      acc + (lines.map fun line => line.1.sign * line.2).sum := by
    induction lines with
    | nil => simp
    | cons line lines ih =>
        intro acc
        simp only [List.foldl_cons, List.map_cons, List.sum_cons, ih]
        omega
  unfold PaymentLedger.foldBalance
  rw [hfold 0, zero_add]

theorem foldBalance_folded (lines : List PaymentLedger) :
    PaymentLedger.foldBalance (lines.map PaymentLedger.folded) = (lines.map value).sum := by
  rw [foldBalance_eq_sum, List.map_map]
  rfl

def weight (db : Db) : ℕ → PaymentLedger → ℤ
  | 0, _ => 0
  | rounds + 1, line =>
      value line + ((children db line.id.key).map (weight db rounds)).sum

theorem appliedFrom_balance (db : Db) (rounds : ℕ) (level : List PaymentLedger) :
    ((appliedFrom db rounds level).map value).sum = (level.map (weight db rounds)).sum := by
  induction rounds generalizing level with
  | zero => simp [appliedFrom, weight]
  | succ rounds ih =>
      simp only [appliedFrom, List.map_append, List.sum_append, ih]
      induction level with
      | nil => simp
      | cons line level ihLevel =>
          simp only [List.flatMap_cons, List.map_cons, List.map_append, List.sum_cons,
            List.sum_append, weight] at ihLevel ⊢
          omega

/-- The lines under a key, by kind. -/
theorem sum_children (db : Db) (key : String) (f : PaymentLedger → ℤ) :
    ((children db key).map f).sum =
      sumUnder db .charge key f + sumUnder db .credit key f + sumUnder db .refund key f +
        sumUnder db .reversal key f := by
  have hchildren : ((children db key).map f).sum =
      Table.sum db fun _ line => if line.source = some key then f line else 0 := by
    unfold children Table.sum
    induction db.entries with
    | nil => rfl
    | cons row rows ih =>
        by_cases hsource : row.2.source = some key
        · simp [hsource, ih]
        · simp [hsource, ih]
  rw [hchildren]
  unfold sumUnder
  rw [← Table.sum_add, ← Table.sum_add, ← Table.sum_add]
  apply Table.sum_congr
  intro id line _
  by_cases hsource : line.source = some key
  · cases hkind : line.kind <;> simp [hsource]
  · simp [hsource]

/-! ## The fold on a forest -/

namespace Forest

/-- No line of `kind` stands under `parent`. -/
theorem sumUnder_eq_zero_of_kind
    (hdb : Forest db) (hstored : db.lookup parent.id = some parent) {kind : PaymentLedgerKind}
    {f : PaymentLedger → ℤ} (hkind : ¬ (kind = .credit ∧ parent.kind = .charge) ∧
      ¬ (kind = .refund ∧ parent.kind = .credit) ∧
      ¬ (kind = .reversal ∧ (parent.kind = .charge ∨ parent.kind = .refund))) :
    sumUnder db kind parent.id.key f = 0 := by
  apply sumUnder_eq_zero
  rintro id line hline rfl hsource
  rcases hdb.child_cases hline ⟨hstored, hsource⟩ with hcredit | hrefund | hreversal
  · exact hkind.1 hcredit
  · exact hkind.2.1 hrefund
  · exact hkind.2.2 ⟨hreversal.1, hreversal.2.1⟩

/-- A line has at most one reversal, for its own amount. -/
theorem reversal_le_amount
    (hdb : Forest db) (hstored : db.lookup parent.id = some parent) :
    sumUnder db .reversal parent.id.key amountOf ≤ amountOf parent := by
  unfold sumUnder
  rw [Table.sum_eq_elim (.forReversal parent.id)]
  · cases hreversal : db.lookup (.forReversal parent.id) with
    | none => exact amountOf_nonneg parent
    | some =>
        simp only [Option.elim]
        split
        · next hmatch =>
          rcases hdb.child_cases hreversal ⟨hstored, hmatch.2⟩ with hcase | hcase | hcase
          · exact absurd (hmatch.1.symm.trans hcase.1) (by decide)
          · exact absurd (hmatch.1.symm.trans hcase.1) (by decide)
          · exact le_of_eq (congrArg LedgerAmount.asMinor hcase.2.2.2)
        · exact amountOf_nonneg parent
  · intro id line hline hne
    rw [if_neg]
    rintro ⟨hkind, hsource⟩
    rcases hdb.child_cases hline ⟨hstored, hsource⟩ with hcase | hcase | hcase
    · exact absurd (hkind.symm.trans hcase.1) (by decide)
    · exact absurd (hkind.symm.trans hcase.1) (by decide)
    · exact hne ((hdb.keyed id line hline).symm.trans hcase.2.2.1)

theorem weight_reversal
    (hdb : Forest db) (hstored : db.lookup line.id = some line) (hkind : line.kind = .reversal)
    (rounds : ℕ) :
    weight db (rounds + 1) line = amountOf line := by
  have hnone : ∀ kind f, sumUnder db kind line.id.key f = 0 := by
    intro kind f
    apply hdb.sumUnder_eq_zero_of_kind hstored
    simp [hkind]
  simp [weight, sum_children, hnone, value, hkind, PaymentLedgerKind.sign]

theorem weight_refund
    (hdb : Forest db) (hstored : db.lookup line.id = some line) (hkind : line.kind = .refund)
    (rounds : ℕ) :
    weight db (rounds + 2) line =
      -(amountOf line - sumUnder db .reversal line.id.key amountOf) := by
  have hnone : ∀ kind f, kind ≠ .reversal → sumUnder db kind line.id.key f = 0 := by
    intro kind f hne
    apply hdb.sumUnder_eq_zero_of_kind hstored
    simp [hkind, hne]
  have hreversal : sumUnder db .reversal line.id.key (weight db (rounds + 1)) =
      sumUnder db .reversal line.id.key amountOf := by
    apply sumUnder_congr
    intro id child hchild hchildKind _
    obtain rfl := hdb.keyed id child hchild
    exact hdb.weight_reversal hchild hchildKind rounds
  rw [weight, sum_children, hnone .charge _ (by decide), hnone .credit _ (by decide),
    hnone .refund _ (by decide), hreversal]
  simp only [value, hkind, PaymentLedgerKind.sign]
  omega

theorem sum_weight_refunds (hdb : Forest db) (key : String) (rounds : ℕ) :
    sumUnder db .refund key (weight db (rounds + 2)) = -netRefunded db key := by
  have hcancel : sumUnder db .refund key (weight db (rounds + 2)) + netRefunded db key =
      sumUnder db .refund key (fun _ => 0) := by
    unfold netRefunded
    rw [← sumUnder_add]
    apply sumUnder_congr
    intro id line hline hkind _
    obtain rfl := hdb.keyed id line hline
    rw [hdb.weight_refund hline hkind rounds]
    omega
  rw [sumUnder_zero] at hcancel
  omega

theorem weight_credit
    (hdb : Forest db) (hstored : db.lookup line.id = some line) (hkind : line.kind = .credit)
    (rounds : ℕ) :
    weight db (rounds + 3) line = amountOf line - netRefunded db line.id.key := by
  have hnone : ∀ kind f, kind ≠ .refund → sumUnder db kind line.id.key f = 0 := by
    intro kind f hne
    apply hdb.sumUnder_eq_zero_of_kind hstored
    simp [hkind, hne]
  rw [weight, sum_children, hnone .charge _ (by decide), hnone .credit _ (by decide),
    hnone .reversal _ (by decide), hdb.sum_weight_refunds]
  simp only [value, hkind, PaymentLedgerKind.sign]
  omega

theorem taken_credit
    (hdb : Forest db) (hstored : db.lookup line.id = some line) (hkind : line.kind = .credit) :
    taken db line = netRefunded db line.id.key := by
  have hnone : ∀ kind f, kind ≠ .refund → sumUnder db kind line.id.key f = 0 := by
    intro kind f hne
    apply hdb.sumUnder_eq_zero_of_kind hstored
    simp [hkind, hne]
  unfold taken applied
  rw [foldBalance_folded, appliedFrom_balance, sum_children, hnone .charge _ (by decide),
    hnone .credit _ (by decide), hnone .reversal _ (by decide),
    hdb.sum_weight_refunds _ (db.entries.length + 1)]
  simp only [hkind, PaymentLedgerKind.sign]
  omega

theorem taken_charge
    (hdb : Forest db) (hstored : db.lookup line.id = some line) (hkind : line.kind = .charge) :
    taken db line =
      netApplied db line.id.key + sumUnder db .reversal line.id.key amountOf := by
  have hnone : ∀ kind f, kind ≠ .credit → kind ≠ .reversal →
      sumUnder db kind line.id.key f = 0 := by
    intro kind f hcredit hreversal
    apply hdb.sumUnder_eq_zero_of_kind hstored
    simp [hkind, hcredit, hreversal]
  have hcredits : sumUnder db .credit line.id.key (weight db (db.entries.length + 3)) =
      netApplied db line.id.key := by
    apply sumUnder_congr
    intro id credit hcredit hcreditKind _
    obtain rfl := hdb.keyed id credit hcredit
    exact hdb.weight_credit hcredit hcreditKind _
  have hreversals : sumUnder db .reversal line.id.key (weight db (db.entries.length + 3)) =
      sumUnder db .reversal line.id.key amountOf := by
    apply sumUnder_congr
    intro id reversal hreversal hreversalKind _
    obtain rfl := hdb.keyed id reversal hreversal
    exact hdb.weight_reversal hreversal hreversalKind _
  unfold taken applied
  rw [foldBalance_folded, appliedFrom_balance, sum_children,
    hnone .charge _ (by decide) (by decide), hnone .refund _ (by decide) (by decide),
    hcredits, hreversals]
  simp only [hkind, PaymentLedgerKind.sign]
  omega

theorem netRefunded_nonneg (hdb : Forest db) (key : String) : 0 ≤ netRefunded db key := by
  apply sumUnder_nonneg
  intro id refund hrefund _
  obtain rfl := hdb.keyed id refund hrefund
  have hreversal := hdb.reversal_le_amount hrefund
  omega

end Forest

theorem sumUnder_amountOf_nonneg (db : Db) (kind : PaymentLedgerKind) (key : String) :
    0 ≤ sumUnder db kind key amountOf :=
  sumUnder_nonneg fun _ line _ _ => amountOf_nonneg line

theorem reversedRefunds_nonneg (db : Db) (key : String) : 0 ≤ reversedRefunds db key :=
  sumUnder_nonneg fun _ _ _ _ => sumUnder_nonneg fun _ refund _ _ =>
    sumUnder_amountOf_nonneg db .reversal refund.id.key

theorem netApplied_eq (db : Db) (key : String) :
    netApplied db key = grossApplied db key + reversedRefunds db key := by
  have hcredit : ∀ credit : PaymentLedger, netRefunded db credit.id.key +
      (sumUnder db .refund credit.id.key fun refund =>
        sumUnder db .reversal refund.id.key amountOf) =
      sumUnder db .refund credit.id.key amountOf := by
    intro credit
    unfold netRefunded
    rw [← sumUnder_add]
    apply sumUnder_congr
    intro id refund _ _ _
    omega
  unfold netApplied grossApplied reversedRefunds
  rw [← sumUnder_add]
  apply sumUnder_congr
  intro id credit _ _ _
  have hsplit := hcredit credit
  omega

/-! ## The caps -/

structure Caps (db : Db) : Prop where
  forest : Forest db
  credit : ∀ id line, db.lookup id = some line → line.kind = .credit →
    netRefunded db id.key ≤ amountOf line
  charge : ∀ id line, db.lookup id = some line → line.kind = .charge →
    grossApplied db id.key ≤ amountOf line

theorem caps_empty : Caps ∅ := by
  refine ⟨forest_empty, ?_, ?_⟩ <;> intro id line hline <;> simp at hline

section Insert

theorem sumUnder_amountOf_insert_le
    (habsent : db.lookup row.id = none) (kind : PaymentLedgerKind) (key : String) :
    sumUnder db kind key amountOf ≤ sumUnder (db.insert row.id row) kind key amountOf := by
  rw [sumUnder_insert habsent]
  have hrow := amountOf_nonneg row
  split <;> omega

/-- A new line raises the refunds standing under `key` by its amount at most, and only
if it is such a refund. -/
theorem netRefunded_insert_le (habsent : db.lookup row.id = none) (key : String) :
    netRefunded (db.insert row.id row) key ≤
      (if row.kind = .refund ∧ row.source = some key then amountOf row else 0) +
        netRefunded db key := by
  unfold netRefunded
  rw [sumUnder_insert habsent]
  apply add_le_add
  · split
    · have hreversal := sumUnder_amountOf_nonneg (db.insert row.id row) .reversal row.id.key
      omega
    · exact le_rfl
  · apply sumUnder_le_sumUnder
    intro id refund _ _
    have hreversal := sumUnder_amountOf_insert_le habsent .reversal refund.id.key
    omega

theorem grossApplied_insert_le (habsent : db.lookup row.id = none) (key : String) :
    grossApplied (db.insert row.id row) key ≤
      (if row.kind = .credit ∧ row.source = some key then amountOf row else 0) +
        grossApplied db key := by
  unfold grossApplied
  rw [sumUnder_insert habsent]
  apply add_le_add
  · split
    · have hrefund := sumUnder_amountOf_nonneg (db.insert row.id row) .refund row.id.key
      omega
    · exact le_rfl
  · apply sumUnder_le_sumUnder
    intro id credit _ _
    have hrefund := sumUnder_amountOf_insert_le habsent .refund credit.id.key
    omega

/-- Nothing is applied to a line that is not stored yet. -/
theorem Forest.sumUnder_new
    (hdb : Forest db) (habsent : db.lookup row.id = none) (hrow : Admitted db row)
    (kind : PaymentLedgerKind) (f : PaymentLedger → ℤ) : sumUnder db kind row.id.key f = 0 :=
  sumUnder_eq_zero fun _ _ hline _ => hdb.source_ne habsent hrow hline

theorem Admitted.room
    (hrow : Admitted db row) (hkind : row.kind = .credit ∨ row.kind = .refund)
    (hline : db.lookup line.id = some line) (hsource : row.source = some line.id.key) :
    Room db line (amountOf row) := by
  cases hrow with
  | charge _ _ _ hcharge => simp [hcharge] at hkind
  | @against side target args w hside hexpected hroom =>
      have hunder : Under db (againstLine side target args w) target := ⟨hroom.stored, rfl⟩
      obtain rfl := hunder.unique ⟨hline, hsource⟩
      exact hroom
  | reversal => simp [reversalLine] at hkind

theorem Caps.insert
    (hdb : Caps db) (habsent : db.lookup row.id = none) (hrow : Admitted db row) :
    Caps (db.insert row.id row) := by
  constructor
  · exact hdb.forest.insert habsent hrow
  · intro id line hline hkind
    have hle := netRefunded_insert_le habsent id.key
    rw [lookup_insert_eq] at hline
    split at hline
    · next hid =>
      cases hline
      have hnone : netRefunded db id.key = 0 := hid ▸ hdb.forest.sumUnder_new habsent hrow _ _
      rw [if_neg (by simp [hkind])] at hle
      have hamount := amountOf_nonneg row
      omega
    · obtain rfl := hdb.forest.keyed id line hline
      have hcap := hdb.credit _ line hline hkind
      split at hle
      · next hrefund =>
        have hroom := hrow.room (.inr hrefund.1) hline hrefund.2
        have hwithin := hroom.within
        rw [hdb.forest.taken_credit hline hkind] at hwithin
        exact hle.trans (by rw [add_comm]; exact hwithin)
      · omega
  · intro id line hline hkind
    have hle := grossApplied_insert_le habsent id.key
    rw [lookup_insert_eq] at hline
    split at hline
    · next hid =>
      cases hline
      have hnone : grossApplied db id.key = 0 := hid ▸ hdb.forest.sumUnder_new habsent hrow _ _
      rw [if_neg (by simp [hkind])] at hle
      have hamount := amountOf_nonneg row
      omega
    · obtain rfl := hdb.forest.keyed id line hline
      have hcap := hdb.charge _ line hline hkind
      split at hle
      · next hcredit =>
        have hroom := hrow.room (.inl hcredit.1) hline hcredit.2
        have hwithin := hroom.within
        rw [hdb.forest.taken_charge hline hkind, netApplied_eq] at hwithin
        have hreversed := reversedRefunds_nonneg db line.id.key
        have hreversal := sumUnder_amountOf_nonneg db .reversal line.id.key
        change _ ≤ amountOf line at hwithin
        omega
      · omega

theorem Point.Reads.insert
    {p : Point} (hp : p.Reads db) (habsent : db.lookup row.id = none) :
    p.Reads (db.insert row.id row) := by
  cases p with
  | credit | refund | reversal => exact lookup_insert_of_some habsent hp
  | _ => trivial

end Insert

theorem caps_relyGuarantee :
    machine.RelyGuarantee (fun _ _ => True) Caps (fun _ p db => p.Reads db) where
  entry := by
    intro id request db _
    cases request <;> trivial
  own := by
    intro c id w p db n hc _ hp hnext
    have hreads := hc.calls id p hp
    constructor
    · rcases next_appends id hreads hnext with rfl | ⟨row, habsent, hrow, rfl⟩
      · exact hc.shared
      · exact hc.shared.insert habsent hrow
    · rintro q rfl
      exact next_reads id hc.shared.forest.keyed hnext
  others := by
    intro c id w p db n hc _ hp hnext id' q _ hq
    have hreads := hc.calls id' q hq
    rcases next_appends id (hc.calls id p hp) hnext with rfl | ⟨row, habsent, -, rfl⟩
    · exact hreads
    · exact hreads.insert habsent
  rollback := by
    intro c id p hc _
    exact ⟨hc.shared, fun id' q _ hq => hc.calls id' q hq⟩

theorem caps_run
    {ms : List (Move Request World)} {c : Config Db Point}
    (hrun : machine.run start ms = some c) : Caps c.shared :=
  (caps_relyGuarantee.holds_run (Config.initial_holds _ caps_empty)
    (Machine.guarded_true _ _) hrun).shared

/-- Some line reverses `line`. -/
def reversed (db : Db) (line : PaymentLedger) : Bool :=
  Table.any db fun _ other => other.kind = .reversal ∧ other.source = some line.id.key

theorem sumUnder_reversal_of_not_reversed
    (h : reversed db line = false) (f : PaymentLedger → ℤ) :
    sumUnder db .reversal line.id.key f = 0 := by
  apply sumUnder_eq_zero
  intro id other hother hkind hsource
  have hnot := Table.any_eq_false_iff.mp h id other hother
  simp [hkind, hsource] at hnot

theorem Caps.netApplied_nonneg (hdb : Caps db) (key : String) :
    0 ≤ netApplied db key := by
  apply sumUnder_nonneg
  intro id credit hcredit hkind
  obtain rfl := hdb.forest.keyed id credit hcredit
  have hcap := hdb.credit _ credit hcredit hkind
  omega

/-- In every reachable ledger the net amount applied to a charge that is not reversed is
nonnegative and at most the charge and the reversed refunds under it, and the net amount
refunded from a credit lies between zero and the credit. -/
theorem applied_within_caps
    (ms : List (Move Request World)) (c : Config Db Point)
    (hrun : machine.run start ms = some c) :
    (∀ charge : PaymentLedger, c.shared.lookup charge.id = some charge →
      charge.kind = .charge → reversed c.shared charge = false →
      0 ≤ taken c.shared charge ∧
        taken c.shared charge ≤
          charge.amountMinor.asMinor + reversedRefunds c.shared charge.id.key) ∧
    (∀ credit : PaymentLedger, c.shared.lookup credit.id = some credit →
      credit.kind = .credit →
      0 ≤ taken c.shared credit ∧ taken c.shared credit ≤ credit.amountMinor.asMinor) := by
  have hcaps := caps_run hrun
  constructor
  · intro charge hcharge hkind hreversed
    rw [hcaps.forest.taken_charge hcharge hkind, sumUnder_reversal_of_not_reversed hreversed,
      add_zero]
    refine ⟨hcaps.netApplied_nonneg _, ?_⟩
    rw [netApplied_eq]
    have hcap := hcaps.charge _ charge hcharge hkind
    unfold amountOf at hcap
    omega
  · intro credit hcredit hkind
    rw [hcaps.forest.taken_credit hcredit hkind]
    exact ⟨hcaps.forest.netRefunded_nonneg _, hcaps.credit _ credit hcredit hkind⟩

/-! ## A charge paid twice over

A payment of the whole charge is refunded, the charge is paid again, and then the refund
turns out to be a mistake and is reversed. -/

namespace Sample

def student : UserId := ⟨.ending "0001"⟩

def bursar : UserId := ⟨.ending "0002"⟩

def yearly : FeePlanAssignmentId :=
  ⟨⟨.ending "0003"⟩, student⟩

def hundred : LedgerAmount := .hundred

def charge : PaymentLedgerId := .forInstallment yearly 1

def keyed (key : PaymentRequestKey) : AgainstArgs := ⟨hundred, none, none, some key, bursar⟩

def keyA : PaymentRequestKey := ⟨"a", by decide, by decide, by decide⟩

def keyB : PaymentRequestKey := ⟨"b", by decide, by decide, by decide⟩

def payment (key : PaymentRequestKey) : PaymentLedgerId := .forRequest charge "k" key

def refundOfA : PaymentLedgerId := .forRequest (payment keyA) "kr" keyA

/-- One step of the call `id` at the epoch. -/
def tick (id : ℕ) : Move Request World := .advance id ⟨0, student.uuid⟩

def billed : List (Move Request World) :=
  [.start (.bill yearly [⟨hundred, 0⟩] bursar), tick 0, tick 0]

def paidTwice : List (Move Request World) :=
  billed ++
    [.start (.recordPayment charge (keyed keyA)), tick 1, tick 1,
      .start (.recordRefund (payment keyA) (keyed keyA)), tick 2, tick 2,
      .start (.recordPayment charge (keyed keyB)), tick 3, tick 3]

def refundReversed : List (Move Request World) :=
  paidTwice ++ [.start (.recordReversal refundOfA none bursar), tick 4, tick 4]

theorem refundReversed_run :
    ∃ c charge, machine.run start refundReversed = some c ∧
      c.shared.lookup charge.id = some charge ∧ charge.kind = .charge ∧
      reversed c.shared charge = false ∧ charge.amountMinor.asMinor = 100 ∧
      taken c.shared charge = 200 := by
  have hrun : (machine.run start refundReversed).any (fun c =>
      (c.shared.lookup charge).any fun line =>
        decide (c.shared.lookup line.id = some line ∧ line.kind = .charge ∧
          reversed c.shared line = false ∧ line.amountMinor.asMinor = 100 ∧
          taken c.shared line = 200)) = true := by
    decide
  obtain ⟨c, hc, hany⟩ := (Option.any_eq_true _ _).mp hrun
  obtain ⟨line, _, hall⟩ := (Option.any_eq_true _ _).mp hany
  exact ⟨c, line, hc, of_decide_eq_true hall⟩

end Sample

theorem applied_within_caps_refundReversed :
    ∃ c charge, machine.run start Sample.refundReversed = some c ∧
      c.shared.lookup charge.id = some charge ∧ reversed c.shared charge = false ∧
      200 ≤ charge.amountMinor.asMinor + reversedRefunds c.shared charge.id.key := by
  obtain ⟨c, charge, hrun, hcharge, hkind, hreversed, -, htaken⟩ := Sample.refundReversed_run
  have hcaps := (applied_within_caps Sample.refundReversed c hrun).1 charge hcharge hkind
    hreversed
  exact ⟨c, charge, hrun, hcharge, hreversed, htaken ▸ hcaps.2⟩

theorem applied_exceeds_charge :
    ∃ c charge, machine.run start Sample.refundReversed = some c ∧
      c.shared.lookup charge.id = some charge ∧ charge.kind = .charge ∧
      reversed c.shared charge = false ∧
      charge.amountMinor.asMinor < taken c.shared charge := by
  obtain ⟨c, charge, hrun, hcharge, hkind, hreversed, hamount, htaken⟩ :=
    Sample.refundReversed_run
  exact ⟨c, charge, hrun, hcharge, hkind, hreversed, by omega⟩

end Hezarfen.Payment
