import Hezarfen.FeePlans

/-!
# An assignment that has run to its end is billed once

The claim freezes the plan: from then on its count is not zero, so neither guarded
statement qualifies.  The loop therefore bills the installments the plan keeps, each under
its own id, and a repeated assign only adds the lines that are missing.
-/

namespace Hezarfen.FeePlans

open Interleaving
open Payment (FeePlanId FeePlanAssignmentId Installment PaymentLedgerId PaymentLedger)

variable {db db' : Payment.Db} {n : ℕ} {plan : FeePlanId} {installment : Installment}
  {batch : Option Batch} {by_ : UserId} {reply : Reply}

/-- The line that bills an installment. -/
def chargeLine (id : FeePlanAssignmentId) (n : ℕ) (installment : Installment) (by_ : UserId)
    (now : Timestamp) : PaymentLedger :=
  { id := .forInstallment id n
    student := id.student
    kind := .charge
    amountMinor := installment.amountMinor
    source := some id.key
    dueAt := some installment.dueAt
    method := none
    note := none
    recordedBy := by_
    createdAt := now }

/-- The assignments of a plan. -/
def placed (s : Db) (plan : FeePlanId) : ℕ :=
  Table.count s.feePlanAssignment fun id _ => decide (id.plan = plan)

/-- The plan of the assignment has this installment at position `n`, counted from zero. -/
def Scheduled (s : Db) (id : FeePlanAssignmentId) (n : ℕ) (installment : Installment) : Prop :=
  ∃ row, s.feePlan.lookup id.plan = some row ∧ row.plan.installments[n]? = some installment

def NoCharge (ledger ledger' : Payment.Db) : Prop :=
  ∀ id line, ledger'.lookup id = some line → line.kind = .charge → ledger.lookup id = some line

inductive Moved (s : Db) : Db → Prop
  | same : Moved s s
  | planned {plan : FeePlan} (hnew : s.feePlan.lookup plan.id = none) :
      Moved s { s with feePlan := s.feePlan.insert plan.id ⟨plan, 0⟩ }
  | patched {id : FeePlanId} {row : FeePlanRow} (plan : FeePlan)
      (hrow : s.feePlan.lookup id = some row) (hfree : row.assignmentCount = 0) :
      Moved s { s with feePlan := s.feePlan.insert id ⟨plan, 0⟩ }
  | deleted {id : FeePlanId} {row : FeePlanRow} (hrow : s.feePlan.lookup id = some row)
      (hfree : row.assignmentCount = 0) : Moved s { s with feePlan := s.feePlan.erase id }
  | claimed {id : FeePlanAssignmentId} {row : FeePlanRow} (assignment : FeePlanAssignment)
      (hrow : s.feePlan.lookup id.plan = some row)
      (hnew : s.feePlanAssignment.lookup id = none) :
      Moved s
        { s with
          feePlan := s.feePlan.insert id.plan
            { row with assignmentCount := row.assignmentCount + 1 }
          feePlanAssignment := s.feePlanAssignment.insert id assignment }
  | charged {id : FeePlanAssignmentId} {n : ℕ} {installment : Installment} (by_ : UserId)
      (now : Timestamp) (hassigned : (s.feePlanAssignment.lookup id).isSome = true)
      (hscheduled : Scheduled s id n installment)
      (hnew : s.paymentLedger.lookup (.forInstallment id (n + 1)) = none) :
      Moved s
        { s with
          paymentLedger := s.paymentLedger.insert (.forInstallment id (n + 1))
            (chargeLine id (n + 1) installment by_ now) }
  | paid {ledger : Payment.Db} (happends : Payment.Appends s.paymentLedger ledger)
      (hcharges : NoCharge s.paymentLedger ledger) :
      Moved s { s with paymentLedger := ledger }

/-! ## The ledger's own calls raise no charge -/

theorem NoCharge.refl (ledger : Payment.Db) : NoCharge ledger ledger := fun _ _ hline _ => hline

theorem append_noCharge
    {row line : PaymentLedger} (hkind : row.kind ≠ .charge)
    (h : Payment.append row db = .ok (line, db')) : NoCharge db db' := by
  intro id stored hstored hcharge
  rcases Payment.append_cases h with rfl | ⟨-, rfl⟩
  · exact hstored
  · obtain ⟨-, rfl⟩ | ⟨-, hstored⟩ := insert_cases hstored
    · exact absurd hcharge hkind
    · exact hstored

theorem txWithRetry_noCharge
    {f : Tx Payment.Db PaymentLedger} (hf : ∀ line db', f db = .ok (line, db') → NoCharge db db') :
    NoCharge db (txWithRetry f db).2 := by
  rcases txWithRetry_cases (rfl : txWithRetry f db = (_, _)) with ⟨line, -, hok⟩ | ⟨-, -, -, hs⟩
  · exact hf line _ hok
  · have hsame : (txWithRetry f db).2 = db := hs
    rw [hsame]
    exact NoCharge.refl db

theorem against_noCharge
    {side : Payment.Side} (hside : Payment.IsSide side) {target line : PaymentLedger}
    {args : Payment.AgainstArgs} {w : Payment.World}
    (h : Payment.against side target args w db = .ok (line, db')) : NoCharge db db' := by
  have hkind : (Payment.againstLine side target args w).kind ≠ .charge := by
    rcases hside with rfl | rfl <;> simp [Payment.againstLine, Payment.creditSide,
      Payment.refundSide]
  unfold Payment.against at h
  split at h
  · cases h
  · split at h
    · split at h
      · cases h
      · cases h
        exact NoCharge.refl db
    · split at h
      · cases h
      · split at h
        · cases h
        · exact append_noCharge hkind h

theorem reversal_noCharge
    {target line : PaymentLedger} {note : Option String} {recordedBy : UserId} {w : Payment.World}
    (h : Payment.reversal target note recordedBy w db = .ok (line, db')) : NoCharge db db' := by
  have hkind : (Payment.reversalLine target note recordedBy w).kind ≠ .charge := by
    simp [Payment.reversalLine]
  unfold Payment.reversal at h
  split at h
  · exact append_noCharge hkind h
  · cases h

def ByHand : Payment.Point → Prop
  | .bill .. => False
  | _ => True

theorem ledger_noCharge
    {id : ℕ} {p : Payment.Point} {w : Payment.World} {n : Payment.Reply} (hp : ByHand p)
    (hnext : Payment.next id db p w = some (db', n)) : NoCharge db db' := by
  cases p with
  | bill => cases hp
  | credit =>
      cases hnext
      exact txWithRetry_noCharge fun _ _ hok => against_noCharge (.inl rfl) hok
  | refund =>
      cases hnext
      exact txWithRetry_noCharge fun _ _ hok => against_noCharge (.inr rfl) hok
  | reversal =>
      cases hnext
      exact txWithRetry_noCharge fun _ _ hok => reversal_noCharge hok
  | _ =>
      cases hnext
      exact NoCharge.refl db

theorem requireLine_byHand
    {id : PaymentLedgerId} {next : PaymentLedger → Payment.Point} {q : Payment.Point}
    (hnext : ∀ line, ByHand (next line)) (h : Payment.requireLine db id next = .goto q) :
    ByHand q := by
  unfold Payment.requireLine at h
  split at h
  · cases h
  · cases h
    exact hnext _

theorem ledger_byHand
    {id : ℕ} {p q : Payment.Point} {w : Payment.World} (hp : ByHand p)
    (hnext : Payment.next id db p w = some (db', .goto q)) : ByHand q := by
  cases p with
  | bill => cases hp
  | creditRead | refundRead | reversalRead =>
      have hgoto := congrArg Prod.snd (Option.some.inj hnext)
      refine requireLine_byHand ?_ hgoto
      exact fun _ => trivial
  | credit | refund | reversal => cases hnext

structure Sound (s : Db) : Prop where
  counted : ∀ id row, s.feePlan.lookup id = some row → row.assignmentCount = placed s id
  housed : ∀ id assignment, s.feePlanAssignment.lookup id = some assignment →
    ∃ row, s.feePlan.lookup id.plan = some row
  forest : Payment.Forest s.paymentLedger
  charges : ∀ id line, s.paymentLedger.lookup id = some line → line.kind = .charge →
    ∃ assignment n installment,
      (s.feePlanAssignment.lookup assignment).isSome = true ∧
        Scheduled s assignment n installment ∧
        line = chargeLine assignment (n + 1) installment line.recordedBy line.createdAt

theorem sound_empty : Sound .empty := by
  constructor
  · intro id row hrow
    simp [Db.empty] at hrow
  · intro id assignment hassignment
    simp [Db.empty] at hassignment
  · exact Payment.forest_empty
  · intro id line hline
    simp [Db.empty] at hline

section Steps

variable {s s' : Db} {id : FeePlanAssignmentId} {row : FeePlanRow}

theorem Sound.count_ne_zero
    (h : Sound s) (hassigned : (s.feePlanAssignment.lookup id).isSome = true)
    (hrow : s.feePlan.lookup id.plan = some row) : row.assignmentCount ≠ 0 := by
  intro hzero
  obtain ⟨assignment, hassignment⟩ := Option.isSome_iff_exists.mp hassigned
  have hcount : placed s id.plan = 0 := by
    have hcounted := h.counted id.plan row hrow
    omega
  have hnone := Table.count_eq_zero_iff.mp hcount id assignment hassignment
  simp at hnone

theorem Sound.unplaced
    (h : Sound s) (hnone : s.feePlan.lookup plan = none) :
    placed s plan = 0 := by
  refine Table.count_eq_zero_iff.mpr ?_
  intro id assignment hassignment
  obtain ⟨row, hrow⟩ := h.housed id assignment hassignment
  refine decide_eq_false ?_
  rintro rfl
  rw [hnone] at hrow
  cases hrow

/-- An assignment is never taken back. -/
theorem Moved.assigned
    (h : Moved s s') (hassigned : (s.feePlanAssignment.lookup id).isSome = true) :
    (s'.feePlanAssignment.lookup id).isSome = true := by
  cases h with
  | claimed =>
      rw [lookup_insert_eq]
      split
      · rfl
      · exact hassigned
  | same | planned | patched | deleted | charged | paid => exact hassigned

/-- The terms of an assigned plan are frozen. -/
theorem Moved.frozen
    (h : Moved s s') (hs : Sound s) (hassigned : (s.feePlanAssignment.lookup id).isSome = true)
    (hrow : s.feePlan.lookup id.plan = some row) :
    ∃ row', s'.feePlan.lookup id.plan = some row' ∧ row'.plan = row.plan := by
  have hcount := hs.count_ne_zero hassigned hrow
  cases h with
  | same | charged | paid => exact ⟨row, hrow, rfl⟩
  | @planned plan hnew =>
      have hne : id.plan ≠ plan.id := by
        intro heq
        rw [heq, hnew] at hrow
        cases hrow
      exact ⟨row, by rw [lookup_insert_eq, if_neg hne, hrow], rfl⟩
  | @patched other row' plan hrow' hfree =>
      have hne : id.plan ≠ other := by
        rintro rfl
        rw [hrow] at hrow'
        cases hrow'
        exact hcount hfree
      exact ⟨row, by rw [lookup_insert_eq, if_neg hne, hrow], rfl⟩
  | @deleted other row' hrow' hfree =>
      have hne : id.plan ≠ other := by
        rintro rfl
        rw [hrow] at hrow'
        cases hrow'
        exact hcount hfree
      exact ⟨row, by rw [lookup_erase_eq, if_neg hne, hrow], rfl⟩
  | @claimed other row' assignment hrow' hnew =>
      rw [lookup_insert_eq]
      split
      · next heq =>
        rw [heq, hrow'] at hrow
        cases hrow
        exact ⟨_, rfl, rfl⟩
      · exact ⟨row, hrow, rfl⟩

theorem Moved.scheduled
    (h : Moved s s') (hs : Sound s) (hassigned : (s.feePlanAssignment.lookup id).isSome = true)
    (hscheduled : Scheduled s id n installment) :
    Scheduled s' id n installment := by
  obtain ⟨row, hrow, hinstallment⟩ := hscheduled
  obtain ⟨row', hrow', hplan⟩ := h.frozen hs hassigned hrow
  exact ⟨row', hrow', hplan ▸ hinstallment⟩

/-- A line is never edited and never deleted. -/
theorem Moved.line
    (h : Moved s s') {lineId : PaymentLedgerId} {line : PaymentLedger}
    (hline : s.paymentLedger.lookup lineId = some line) :
    s'.paymentLedger.lookup lineId = some line := by
  cases h with
  | @charged other n installment by_ now hassigned hscheduled hnew =>
      have hne : lineId ≠ .forInstallment other (n + 1) := by
        rintro rfl
        rw [hnew] at hline
        cases hline
      rw [lookup_insert_eq, if_neg hne, hline]
  | paid happends => exact happends.stands hline
  | same | planned | patched | deleted | claimed => exact hline

/-- What the steps keep of the charges that were there. -/
theorem Sound.old_charge
    (hs : Sound s) (h : Moved s s') {lineId : PaymentLedgerId} {line : PaymentLedger}
    (hline : s.paymentLedger.lookup lineId = some line) (hkind : line.kind = .charge) :
    ∃ assignment n installment,
      (s'.feePlanAssignment.lookup assignment).isSome = true ∧
        Scheduled s' assignment n installment ∧
        line = chargeLine assignment (n + 1) installment line.recordedBy line.createdAt := by
  obtain ⟨assignment, n, installment, hassigned, hscheduled, hcharge⟩ :=
    hs.charges lineId line hline hkind
  exact ⟨assignment, n, installment, h.assigned hassigned, h.scheduled hs hassigned hscheduled,
    hcharge⟩

theorem Sound.counted_moved (hs : Sound s) (h : Moved s s') :
    ∀ plan row, s'.feePlan.lookup plan = some row → row.assignmentCount = placed s' plan := by
  intro plan row hrow
  cases h with
  | same | charged | paid => exact hs.counted plan row hrow
  | planned hnew =>
      obtain ⟨heq, rfl⟩ | ⟨-, hrow⟩ := insert_cases hrow
      · change (0 : ℤ) = placed s plan
        rw [heq, hs.unplaced hnew]
        rfl
      · exact hs.counted plan row hrow
  | @patched other row' new hrow' hfree =>
      obtain ⟨heq, rfl⟩ | ⟨-, hrow⟩ := insert_cases hrow
      · have hcounted := hs.counted other row' hrow'
        rw [hfree] at hcounted
        rw [heq]
        exact hcounted
      · exact hs.counted plan row hrow
  | deleted =>
      obtain ⟨-, hrow⟩ := erase_cases hrow
      exact hs.counted plan row hrow
  | @claimed id row' assignment hrow' hnew =>
      have hcount := Table.count_insert s.feePlanAssignment id assignment
        fun key _ => decide (key.plan = plan)
      simp only [hnew, Option.any_none, Bool.false_eq_true, if_false, add_zero,
        decide_eq_true_eq] at hcount
      rw [lookup_insert_eq] at hrow
      unfold placed
      rw [hcount]
      split at hrow
      · next heq =>
        cases hrow
        have hcounted := hs.counted id.plan row' hrow'
        simp only [heq, if_true, Nat.cast_add, Nat.cast_one]
        rw [hcounted, add_comm]
        rfl
      · next hne =>
        rw [if_neg (Ne.symm hne), zero_add]
        exact hs.counted plan row hrow

theorem Sound.housed_moved (hs : Sound s) (h : Moved s s') :
    ∀ id assignment, s'.feePlanAssignment.lookup id = some assignment →
      ∃ row, s'.feePlan.lookup id.plan = some row := by
  intro id stored hstored
  have hold : (s.feePlanAssignment.lookup id).isSome = true →
      ∃ row, s'.feePlan.lookup id.plan = some row := by
    intro hassigned
    obtain ⟨assignment, hassignment⟩ := Option.isSome_iff_exists.mp hassigned
    obtain ⟨row, hrow⟩ := hs.housed id assignment hassignment
    obtain ⟨row', hrow', -⟩ := h.frozen hs hassigned hrow
    exact ⟨row', hrow'⟩
  cases h with
  | @claimed other row' assignment hrow' hnew =>
      rw [lookup_insert_eq] at hstored
      split at hstored
      · next heq => exact ⟨_, by rw [heq, lookup_insert_eq, if_pos rfl]⟩
      · exact hold (Option.isSome_iff_exists.mpr ⟨stored, hstored⟩)
  | same | planned | patched | deleted | paid | charged =>
      exact hold (Option.isSome_iff_exists.mpr ⟨stored, hstored⟩)

theorem Sound.forest_moved (hs : Sound s) (h : Moved s s') :
    Payment.Forest s'.paymentLedger := by
  cases h with
  | @charged id n installment by_ now hassigned hscheduled hnew =>
      let line := chargeLine id (n + 1) installment by_ now
      have hadmitted : Payment.Admitted s.paymentLedger line := .charge id (n + 1) rfl rfl rfl
      have habsent : s.paymentLedger.lookup line.id = none := hnew
      exact hs.forest.insert habsent hadmitted
  | paid happends =>
      rcases happends with rfl | ⟨row, habsent, hadmitted, rfl⟩
      · exact hs.forest
      · exact hs.forest.insert habsent hadmitted
  | same | planned | patched | deleted | claimed => exact hs.forest

theorem Sound.charges_moved (hs : Sound s) (h : Moved s s') :
    ∀ id line, s'.paymentLedger.lookup id = some line → line.kind = .charge →
      ∃ assignment n installment,
        (s'.feePlanAssignment.lookup assignment).isSome = true ∧
          Scheduled s' assignment n installment ∧
          line = chargeLine assignment (n + 1) installment line.recordedBy line.createdAt := by
  intro lineId line hline hkind
  have hold := fun hbefore : s.paymentLedger.lookup lineId = some line =>
    hs.old_charge h hbefore hkind
  cases h with
  | @charged id n installment by_ now hassigned hscheduled hnew =>
      obtain ⟨-, rfl⟩ | ⟨-, hline⟩ := insert_cases hline
      · exact ⟨id, n, installment, hassigned, hscheduled, rfl⟩
      · exact hold hline
  | paid happends hcharges => exact hold (hcharges lineId line hline hkind)
  | same | planned | patched | deleted | claimed => exact hold hline

theorem Sound.moved (hs : Sound s) (h : Moved s s') : Sound s' :=
  ⟨hs.counted_moved h, hs.housed_moved h, hs.forest_moved h, hs.charges_moved h⟩

end Steps

/-! ## The calls in flight -/

/-- The charge of the installment at position `n` is raised. -/
def Charged (s : Db) (id : FeePlanAssignmentId) (n : ℕ) : Prop :=
  ∃ line, s.paymentLedger.lookup (.forInstallment id (n + 1)) = some line ∧ line.kind = .charge

def Point.Stands (s : Db) : Point → Prop
  | .require id _ _ | .reread id _ _ _ => (s.feePlanAssignment.lookup id).isSome = true
  | .bill id _ _ _ n rest =>
      (s.feePlanAssignment.lookup id).isSome = true ∧
        (∃ row, s.feePlan.lookup id.plan = some row ∧ rest = row.plan.installments.drop n) ∧
        ∀ k < n, Charged s id k
  | .ledger point => ByHand point ∧ point.Reads s.paymentLedger
  | _ => True

section Calls

variable {s s' : Db} {id : FeePlanAssignmentId} {p q : Point} {w : World}

theorem Moved.charged_stands (h : Moved s s') (hcharged : Charged s id n) :
    Charged s' id n := by
  obtain ⟨line, hline, hkind⟩ := hcharged
  exact ⟨line, h.line hline, hkind⟩

theorem Moved.stands (h : Moved s s') (hs : Sound s) (hp : p.Stands s) : p.Stands s' := by
  cases p with
  | require | reread => exact h.assigned hp
  | bill =>
      obtain ⟨hassigned, ⟨row, hrow, hrest⟩, hlines⟩ := hp
      obtain ⟨row', hrow', hplan⟩ := h.frozen hs hassigned hrow
      refine ⟨h.assigned hassigned, ⟨row', hrow', ?_⟩, fun k hk => h.charged_stands (hlines k hk)⟩
      rw [hplan]
      exact hrest
  | ledger point =>
      refine ⟨hp.1, ?_⟩
      have hreads := hp.2
      cases point with
      | credit line args | refund line args | reversal line note recordedBy =>
          exact h.line hreads
      | bill | creditRead | refundRead | reversalRead => trivial
  | _ => trivial

theorem goOn_stands {batch : Batch} (h : goOn batch = .goto q) : q.Stands s := by
  unfold goOn at h
  split at h
  · cases h
  · cases h
    trivial

theorem insertPlan_moved (plan : FeePlan) : Moved s (insertPlan s plan).2 := by
  unfold insertPlan
  split
  · exact .same
  · split
    · exact .same
    · next hfree => exact .planned (Option.not_isSome_iff_eq_none.mp hfree)

theorem updateFree_moved (plan : FeePlanId) (patch : PlanPatch) :
    Moved s (updateFree s plan patch).2 := by
  unfold updateFree
  split
  · exact .same
  · next row hrow =>
    split
    · next hfree => exact .patched _ hrow hfree
    · exact .same

theorem deleteFree_moved (plan : FeePlanId) : Moved s (deleteFree s plan).2 := by
  unfold deleteFree
  split
  · exact .same
  · next row hrow =>
    split
    · next hfree =>
      split
      · exact .same
      · exact .deleted hrow hfree
    · exact .same

theorem settle_fst {α : Type} (reply : α → Reply) (r : Except AppError α × Db) :
    (settle reply r).1 = r.2 := by
  rcases r with ⟨_ | _, _⟩ <;> rfl

theorem claim_moved
    (h : claim s w id by_ batch = (s', reply)) :
    Moved s s' ∧ ∀ q, reply = .goto q → q.Stands s' := by
  unfold claim createAssignment at h
  cases hrow : s.feePlan.lookup id.plan with
  | none =>
      rw [hrow] at h
      cases h
      refine ⟨.same, fun q hq => ?_⟩
      cases batch with
      | none => cases hq
      | some => exact goOn_stands hq
  | some row =>
      simp only [hrow] at h
      by_cases hroom : row.assignmentCount < unlimited
      · by_cases hassigned : (s.feePlanAssignment.lookup id).isSome = true
        · rw [if_pos hroom, if_pos hassigned] at h
          cases h
          refine ⟨.same, fun q hq => ?_⟩
          cases hq
          exact hassigned
        · rw [if_pos hroom, if_neg hassigned] at h
          cases h
          refine ⟨.claimed _ hrow (Option.not_isSome_iff_eq_none.mp hassigned), fun q hq => ?_⟩
          cases hq
          change ((s.feePlanAssignment.insert id _).lookup id).isSome = true
          rw [AList.lookup_insert]
          rfl
      · rw [if_neg hroom] at h
        cases h
        refine ⟨.same, fun q hq => ?_⟩
        cases batch with
        | none => cases hq
        | some => exact goOn_stands hq

theorem charge_cases
    {now : Timestamp} {line : PaymentLedger} {ledger ledger' : Payment.Db}
    (h : Payment.chargeForInstallment id n installment by_ now ledger = .ok (line, ledger')) :
    (ledger' = ledger ∧ ledger.lookup (.forInstallment id n) = some line ∧
      line.kind = .charge) ∨
    (ledger.lookup (.forInstallment id n) = none ∧
      ledger' = ledger.insert (.forInstallment id n) (chargeLine id n installment by_ now)) := by
  unfold Payment.chargeForInstallment Payment.append at h
  split at h
  · next habsent =>
    cases h
    exact .inr ⟨habsent, rfl⟩
  · next stored hstored =>
    split at h
    · next hkind =>
      cases h
      exact .inl ⟨rfl, hstored, hkind⟩
    · cases h

theorem drop_cons
    {l rest : List Installment} (h : installment :: rest = l.drop n) :
    l[n]? = some installment ∧ rest = l.drop (n + 1) := by
  constructor
  · have hhead := congrArg List.head? h
    rw [List.head?_drop] at hhead
    exact hhead.symm
  · have htail := congrArg List.tail h
    rwa [List.tail_drop] at htail

theorem Charged.of_le
    (hlines : ∀ k < n, Charged s id k) (hline : Charged s id n) :
    ∀ k < n + 1, Charged s id k := by
  intro k hk
  rcases Nat.lt_succ_iff_lt_or_eq.mp hk with hlt | rfl
  · exact hlines k hlt
  · exact hline

theorem billNext_moved
    {existed : Bool} {rest : List Installment}
    (hp : (Point.bill id by_ existed batch n rest).Stands s)
    (h : billNext s w id by_ existed batch n rest = (s', reply)) :
    Moved s s' ∧ ∀ q, reply = .goto q → q.Stands s' := by
  cases rest with
  | nil =>
      cases h
      refine ⟨.same, fun q hq => ?_⟩
      cases batch with
      | none => cases hq
      | some => exact goOn_stands hq
  | cons =>
      obtain ⟨hassigned, ⟨row, hrow, hrest⟩, hlines⟩ := hp
      obtain ⟨hinstallment, htail⟩ := drop_cons hrest
      simp only [billNext] at h
      split at h
      · cases h
        exact ⟨.same, fun q hq => by cases hq⟩
      · split at h
        · next e ledger htx =>
          rcases txWithRetry_cases htx with ⟨_, hanswer, -⟩ | ⟨_, -, -, rfl⟩
          · cases hanswer
          · cases h
            exact ⟨.same, fun q hq => by cases hq⟩
        · next line ledger htx =>
          rcases txWithRetry_cases htx with ⟨_, -, hok⟩ | ⟨_, hanswer, -⟩
          swap
          · cases hanswer
          cases h
          rcases charge_cases hok with ⟨rfl, hstored, hkind⟩ | ⟨hnew, rfl⟩
          · refine ⟨.same, fun q hq => ?_⟩
            cases hq
            exact ⟨hassigned, ⟨row, hrow, htail⟩, Charged.of_le hlines ⟨_, hstored, hkind⟩⟩
          · have hmoved : Moved s _ :=
              .charged by_ w.now hassigned ⟨row, hrow, hinstallment⟩ hnew
            refine ⟨hmoved, fun q hq => ?_⟩
            cases hq
            refine ⟨hassigned, ⟨row, hrow, htail⟩, Charged.of_le ?_ ?_⟩
            · exact fun k hk => hmoved.charged_stands (hlines k hk)
            · exact ⟨_, AList.lookup_insert _, rfl⟩

theorem patchRead_stands
    {patch : PlanPatch} (h : patchRead s plan patch = .goto q) :
    q.Stands s := by
  unfold patchRead at h
  split at h
  · cases h
  · split at h
    · cases h
    · split at h <;> cases h <;> trivial

theorem patchBack_ne_goto : patchBack s plan ≠ .goto q := by
  unfold patchBack
  split <;> intro h <;> cases h

theorem missed_ne_goto {e : AppError} :
    missed s plan (refuse e) ≠ .goto q := by
  unfold missed
  split <;> intro h <;> cases h

theorem requirePlan_stands
    {next : Point} (hpoint : next.Stands s) (h : requirePlan s plan next = .goto q) :
    q.Stands s := by
  unfold requirePlan at h
  split at h
  · cases h
    exact hpoint
  · cases h

theorem batchRead_stands
    {students : List UserId} {assigner : UserId}
    (h : batchRead s plan students assigner = .goto q) : q.Stands s := by
  unfold batchRead at h
  split at h
  · cases h
  · split at h
    · cases h
    · split at h
      · cases h
      · exact goOn_stands h

theorem studentRead_stands
    {student : UserId} {batch : Batch} (h : studentRead w student batch = .goto q) :
    q.Stands s := by
  unfold studentRead at h
  split at h
  · cases h
    trivial
  · exact goOn_stands h

theorem require_stands
    (h : require s id by_ batch = .goto q) :
    q.Stands s := by
  unfold require at h
  split at h
  · next hassigned =>
    cases h
    exact hassigned
  · cases h

/-- The loop starts from the plan as it is stored now. -/
theorem reread_stands
    {existed : Bool} (hassigned : (s.feePlanAssignment.lookup id).isSome = true)
    (h : reread s id by_ existed batch = .goto q) : q.Stands s := by
  unfold reread at h
  split at h
  · cases h
  · next row hrow =>
    cases h
    refine ⟨hassigned, ⟨row, hrow, rfl⟩, ?_⟩
    intro k hk
    exact absurd hk (Nat.not_lt_zero k)

theorem ledgerStep_moved
    {point : Payment.Point} (hs : Sound s) (hp : (Point.ledger point).Stands s)
    (h : (Payment.next n s.paymentLedger point ⟨w.now, w.uuid⟩).map (ledgerStep s) =
      some (s', reply)) :
    Moved s s' ∧ ∀ q, reply = .goto q → q.Stands s' := by
  obtain ⟨⟨ledger, answer⟩, hnext, hstep⟩ := Option.map_eq_some_iff.mp h
  have hmoved : Moved s { s with paymentLedger := ledger } :=
    .paid (Payment.next_appends n hp.2 hnext) (ledger_noCharge hp.1 hnext)
  cases answer with
  | answer =>
      cases hstep
      exact ⟨hmoved, fun q hq => by cases hq⟩
  | goto =>
      cases hstep
      refine ⟨hmoved, fun q hq => ?_⟩
      cases hq
      exact ⟨ledger_byHand hp.1 hnext, Payment.next_reads n hs.forest.keyed hnext⟩

theorem next_moved
    (hs : Sound s) (hp : p.Stands s) (hnext : next n s p w = some (s', reply)) :
    Moved s s' ∧ ∀ q, reply = .goto q → q.Stands s' := by
  cases p with
  | createPlan name installments createdBy =>
      have hmoved := insertPlan_moved (s := s) ⟨⟨w.uuid⟩, name, installments, createdBy, w.now⟩
      have hmove := Option.some.inj hnext
      cases hinsert : insertPlan s ⟨⟨w.uuid⟩, name, installments, createdBy, w.now⟩ with
      | mk answer =>
          rw [hinsert] at hmove hmoved
          cases answer <;> cases hmove <;> exact ⟨hmoved, fun q hq => by cases hq⟩
  | patchRead =>
      cases hnext
      exact ⟨.same, fun q hq => patchRead_stands hq⟩
  | patchBack =>
      cases hnext
      exact ⟨.same, fun q hq => absurd hq patchBack_ne_goto⟩
  | patchWrite plan patch =>
      have hmoved := updateFree_moved (s := s) plan patch
      have hmove := Option.some.inj hnext
      unfold patchWrite at hmove
      cases hupdate : updateFree s plan patch with
      | mk answer =>
          rw [hupdate] at hmove hmoved
          cases answer with
          | none =>
              cases hmove
              refine ⟨hmoved, fun q hq => ?_⟩
              cases hq
              trivial
          | some =>
              cases hmove
              exact ⟨hmoved, fun q hq => by cases hq⟩
  | patchMiss | deleteMiss =>
      cases hnext
      exact ⟨.same, fun q hq => absurd hq missed_ne_goto⟩
  | deleteRead plan =>
      cases hnext
      have hpoint : (Point.deleteWrite plan).Stands s := trivial
      exact ⟨.same, fun q hq => requirePlan_stands hpoint hq⟩
  | deleteWrite plan =>
      have hmoved := deleteFree_moved (s := s) plan
      have hmove := Option.some.inj hnext
      unfold deleteWrite at hmove
      cases hdelete : deleteFree s plan with
      | mk answer =>
          rw [hdelete] at hmove hmoved
          rcases answer with e | gone
          · cases hmove
            exact ⟨hmoved, fun q hq => by cases hq⟩
          · cases gone with
            | true =>
                cases hmove
                exact ⟨hmoved, fun q hq => by cases hq⟩
            | false =>
                cases hmove
                refine ⟨hmoved, fun q hq => ?_⟩
                cases hq
                trivial
  | batchRead =>
      cases hnext
      exact ⟨.same, fun q hq => batchRead_stands hq⟩
  | student =>
      cases hnext
      exact ⟨.same, fun q hq => studentRead_stands hq⟩
  | claim => exact claim_moved (Option.some.inj hnext)
  | require =>
      cases hnext
      exact ⟨.same, fun q hq => require_stands hq⟩
  | reread =>
      cases hnext
      exact ⟨.same, fun q hq => reread_stands hp hq⟩
  | bill => exact billNext_moved hp (Option.some.inj hnext)
  | ledger => exact ledgerStep_moved hs hp hnext

end Calls

end Hezarfen.FeePlans
