import Hezarfen.FeePlanBilling

/-!
# Every assignment that ran to its end is billed

The row of an assignment and its charges land in separate statements, so a call that stops
in between leaves some of them out.  Each assignment is therefore accounted for: a call is
still on its way behind the row, or one reached the end of the loop, or one was cut short.
-/

namespace Hezarfen.FeePlans

open Interleaving
open Payment (FeePlanId FeePlanAssignmentId Installment PaymentLedgerId PaymentLedger)

/-! ## How a call behind its row ends -/

def Point.placing : Point → Option FeePlanAssignmentId
  | .require id _ _ => some id
  | .reread id _ _ _ => some id
  | .bill id _ _ _ _ _ => some id
  | _ => none

def InFlight (c : Config Db Point) (id : FeePlanAssignmentId) : Prop :=
  ∃ n p, c.calls.lookup n = some p ∧ p.placing = some id

inductive End where
  | finished (id : FeePlanAssignmentId)
  | cutShort (id : FeePlanAssignmentId)
  deriving DecidableEq

/-- An assign ends when its loop is through; an error before that cuts it short. -/
def Point.ending (p : Point) (reply : Reply) : List End :=
  match p, reply with
  | .bill id _ _ _ _ [], _ => [.finished id]
  | p, .answer _ => p.placing.toList.map .cutShort
  | _, .goto _ => []

def endings (c : Config Db Point) : Move Request World → List End
  | .start _ => []
  | .advance n w =>
      match c.calls.lookup n with
      | none => []
      | some p =>
          match next n c.shared p w with
          | none => []
          | some (_, reply) => p.ending reply
  | .abandon n => ((c.calls.lookup n).bind Point.placing).toList.map .cutShort

section Steps

variable {s s' : Db} {id : FeePlanAssignmentId} {p : Point} {w : World} {n : ℕ} {reply : Reply}

theorem endings_advance
    {c : Config Db Point} (hp : c.calls.lookup n = some p)
    (hnext : next n c.shared p w = some (s', reply)) :
    endings c (.advance n w) = p.ending reply := by
  simp only [endings, hp, hnext]

/-- A call behind a row stays behind it or ends. -/
theorem next_attends
    (hplacing : p.placing = some id) (hnext : next n s p w = some (s', reply)) :
    (∃ q, reply = .goto q ∧ q.placing = some id) ∨ .finished id ∈ p.ending reply ∨
      .cutShort id ∈ p.ending reply := by
  cases p with
  | require =>
      cases hplacing
      cases hnext
      unfold require
      split
      · exact .inl ⟨_, rfl, rfl⟩
      · exact .inr (.inr (List.mem_singleton_self _))
  | reread =>
      cases hplacing
      cases hnext
      unfold reread
      split
      · exact .inr (.inr (List.mem_singleton_self _))
      · exact .inl ⟨_, rfl, rfl⟩
  | bill other by_ existed batch k rest =>
      cases hplacing
      cases rest with
      | nil => exact .inr (.inl (List.mem_singleton_self _))
      | cons =>
          have hmove := Option.some.inj hnext
          simp only [billNext] at hmove
          split at hmove
          · cases hmove
            exact .inr (.inr (List.mem_singleton_self _))
          · split at hmove
            · cases hmove
              exact .inr (.inr (List.mem_singleton_self _))
            · cases hmove
              exact .inl ⟨_, rfl, rfl⟩
  | _ => cases hplacing

theorem insertPlan_assignments (plan : FeePlan) :
    (insertPlan s plan).2.feePlanAssignment = s.feePlanAssignment := by
  unfold insertPlan
  split
  · rfl
  · split <;> rfl

theorem updateFree_assignments (plan : FeePlanId) (patch : PlanPatch) :
    (updateFree s plan patch).2.feePlanAssignment = s.feePlanAssignment := by
  unfold updateFree
  split
  · rfl
  · split <;> rfl

theorem deleteFree_assignments (plan : FeePlanId) :
    (deleteFree s plan).2.feePlanAssignment = s.feePlanAssignment := by
  unfold deleteFree
  split
  · rfl
  · split
    · split <;> rfl
    · rfl

theorem patchWrite_fst (plan : FeePlanId) (patch : PlanPatch) :
    (patchWrite s plan patch).1 = (updateFree s plan patch).2 := by
  unfold patchWrite
  rcases updateFree s plan patch with ⟨_ | _, _⟩ <;> rfl

theorem billNext_assignments
    {by_ : UserId} {existed : Bool} {batch : Option Batch} {k : ℕ} (rest : List Installment) :
    (billNext s w id by_ existed batch k rest).1.feePlanAssignment = s.feePlanAssignment := by
  cases rest with
  | nil => rfl
  | cons =>
      simp only [billNext]
      split
      · rfl
      · split <;> rfl

theorem claim_claims
    {by_ : UserId} {batch : Option Batch} {other : FeePlanAssignmentId}
    (h : claim s w other by_ batch = (s', reply))
    (hbefore : s.feePlanAssignment.lookup id = none)
    (hafter : (s'.feePlanAssignment.lookup id).isSome = true) :
    ∃ q, reply = .goto q ∧ q.placing = some id := by
  have hsame : ∀ {r : Reply}, (s, r) = (s', reply) → False := by
    intro r heq
    cases heq
    rw [hbefore] at hafter
    cases hafter
  unfold claim createAssignment at h
  cases hrow : s.feePlan.lookup other.plan with
  | none =>
      rw [hrow] at h
      exact absurd h hsame
  | some row =>
      simp only [hrow] at h
      by_cases hroom : row.assignmentCount < unlimited
      · by_cases hassigned : (s.feePlanAssignment.lookup other).isSome = true
        · rw [if_pos hroom, if_pos hassigned] at h
          exact absurd h hsame
        · rw [if_pos hroom, if_neg hassigned] at h
          cases h
          rw [lookup_insert_eq] at hafter
          split at hafter
          · next heq =>
            subst heq
            exact ⟨_, rfl, rfl⟩
          · rw [hbefore] at hafter
            cases hafter
      · rw [if_neg hroom] at h
        exact absurd h hsame

theorem next_claims
    (hnext : next n s p w = some (s', reply))
    (hbefore : s.feePlanAssignment.lookup id = none)
    (hafter : (s'.feePlanAssignment.lookup id).isSome = true) :
    ∃ q, reply = .goto q ∧ q.placing = some id := by
  by_cases hclaim : ∃ other by_ batch, p = .claim other by_ batch
  · obtain ⟨other, by_, batch, rfl⟩ := hclaim
    exact claim_claims (Option.some.inj hnext) hbefore hafter
  have hsame : s'.feePlanAssignment = s.feePlanAssignment := by
    have hstore : ∀ {r : Db × Reply}, some r = some (s', reply) →
        r.1.feePlanAssignment = s.feePlanAssignment →
        s'.feePlanAssignment = s.feePlanAssignment := by
      intro r heq hr
      cases heq
      exact hr
    cases p with
    | claim other by_ batch => exact absurd ⟨other, by_, batch, rfl⟩ hclaim
    | createPlan =>
        refine hstore hnext ?_
        rw [settle_fst]
        exact insertPlan_assignments _
    | patchWrite plan patch =>
        refine hstore hnext ?_
        rw [patchWrite_fst]
        exact updateFree_assignments plan patch
    | deleteWrite plan =>
        refine hstore hnext ?_
        unfold deleteWrite
        rw [settle_fst]
        exact deleteFree_assignments plan
    | bill other by_ existed batch k rest => exact hstore hnext (billNext_assignments rest)
    | ledger =>
        obtain ⟨⟨ledger, answer⟩, -, hstep⟩ := Option.map_eq_some_iff.mp hnext
        cases answer <;> cases hstep <;> rfl
    | _ => exact hstore hnext rfl
  rw [hsame, hbefore] at hafter
  cases hafter

theorem Moved.scheduled_iff
    (h : Moved s s') (hs : Sound s) (hassigned : (s.feePlanAssignment.lookup id).isSome = true)
    {k : ℕ} {installment : Installment} :
    Scheduled s' id k installment ↔ Scheduled s id k installment := by
  refine ⟨?_, h.scheduled hs hassigned⟩
  rintro ⟨row', hrow', hinstallment⟩
  obtain ⟨assignment, hassignment⟩ := Option.isSome_iff_exists.mp hassigned
  obtain ⟨row, hrow⟩ := hs.housed id assignment hassignment
  obtain ⟨kept, hkept, hplan⟩ := h.frozen hs hassigned hrow
  rw [hrow'] at hkept
  cases hkept
  exact ⟨row, hrow, hplan ▸ hinstallment⟩

end Steps

theorem entry_stands (request : Request) (s : Db) : (entry request).Stands s := by
  cases request with
  | recordPayment | recordRefund | recordReversal => exact ⟨trivial, trivial⟩
  | _ => trivial

theorem sound_relyGuarantee :
    machine.RelyGuarantee (fun _ _ => True) Sound (fun _ p s => p.Stands s) where
  entry := fun _ request s _ => entry_stands request s
  own := by
    intro c id w p s n hc _ hp hnext
    obtain ⟨hmoved, hgoto⟩ := next_moved hc.shared (hc.calls id p hp) hnext
    exact ⟨hc.shared.moved hmoved, hgoto⟩
  others := by
    intro c id w p s n hc _ hp hnext id' q _ hq
    exact (next_moved hc.shared (hc.calls id p hp) hnext).1.stands hc.shared (hc.calls id' q hq)
  rollback := fun hc _ => ⟨hc.shared, fun id' q _ hq => hc.calls id' q hq⟩

structure Accounted (c : Config Db Point) (seen : List End) : Prop where
  holds : c.Holds Sound (fun _ p s => p.Stands s)
  attended : ∀ id, (c.shared.feePlanAssignment.lookup id).isSome = true →
    InFlight c id ∨ .finished id ∈ seen ∨ .cutShort id ∈ seen
  finished : ∀ id, .finished id ∈ seen →
    (c.shared.feePlanAssignment.lookup id).isSome = true ∧
      ∀ n installment, Scheduled c.shared id n installment → Charged c.shared id n

theorem accounted_start : Accounted start [] := by
  constructor
  · exact Config.initial_holds _ sound_empty
  · intro id hassigned
    simp [start, Config.initial, Db.empty] at hassigned
  · intro id hfinished
    cases hfinished

section Run

variable {c d : Config Db Point} {seen : List End} {m : Move Request World}
  {id : FeePlanAssignmentId}

theorem Accounted.attended_step
    (h : Accounted c seen) (hstep : machine.step c m = some d)
    (hassigned : (d.shared.feePlanAssignment.lookup id).isSome = true) :
    InFlight d id ∨ .finished id ∈ seen ++ endings c m ∨ .cutShort id ∈ seen ++ endings c m := by
  have hseen : .finished id ∈ seen ∨ .cutShort id ∈ seen →
      .finished id ∈ seen ++ endings c m ∨ .cutShort id ∈ seen ++ endings c m :=
    Or.imp (List.mem_append_left _) (List.mem_append_left _)
  obtain ⟨request, rfl, rfl⟩ | ⟨n, w, p, s, reply, rfl, hp, hnext, rfl⟩ | ⟨n, p, rfl, hp, rfl⟩ :=
    Machine.step_cases hstep
  · rcases h.attended id hassigned with ⟨k, q, hq, hplacing⟩ | hended
    · have hne : k ≠ c.started := (h.holds.numbered k q hq).ne
      exact .inl ⟨k, q, by rw [lookup_insert_eq, if_neg hne, hq], hplacing⟩
    · exact .inr (hseen hended)
  · have hmove : next n c.shared p w = some (s, reply) := hnext
    rw [Config.shared_after] at hassigned
    have harrived : (∃ q, reply = .goto q ∧ q.placing = some id) →
        InFlight (c.after n s reply) id := by
      rintro ⟨q, rfl, hplacing⟩
      exact ⟨n, q, AList.lookup_insert _, hplacing⟩
    cases hbefore : c.shared.feePlanAssignment.lookup id with
    | none => exact .inl (harrived (next_claims hmove hbefore hassigned))
    | some assignment =>
        rcases h.attended id (Option.isSome_iff_exists.mpr ⟨assignment, hbefore⟩) with
          ⟨k, q, hq, hplacing⟩ | hended
        · by_cases hk : k = n
          · subst hk
            rw [hp] at hq
            cases hq
            rw [endings_advance hp hmove]
            rcases next_attends hplacing hmove with hgoto | hended
            · exact .inl (harrived hgoto)
            · exact .inr (hended.imp (List.mem_append_right _) (List.mem_append_right _))
          · refine .inl ⟨k, q, ?_, hplacing⟩
            rw [Config.lookup_after_ne s reply hk, hq]
        · exact .inr (hseen hended)
  · rcases h.attended id hassigned with ⟨k, q, hq, hplacing⟩ | hended
    · by_cases hk : k = n
      · subst hk
        refine .inr (.inr (List.mem_append_right _ ?_))
        simp [endings, hq, hplacing]
      · refine .inl ⟨k, q, ?_, hplacing⟩
        rw [lookup_erase_eq, if_neg hk, hq]
    · exact .inr (hseen hended)

/-- The store before and after a move of the whole server. -/
theorem step_moved
    (h : c.Holds Sound (fun _ p s => p.Stands s)) (hstep : machine.step c m = some d) :
    Moved c.shared d.shared := by
  obtain ⟨request, rfl, rfl⟩ | ⟨n, w, p, s, reply, rfl, hp, hnext, rfl⟩ | ⟨n, p, rfl, hp, rfl⟩ :=
    Machine.step_cases hstep
  · exact .same
  · rw [Config.shared_after]
    exact (next_moved h.shared (h.calls n p hp) hnext).1
  · exact .same

/-- A loop ends once it has raised all charges of its plan. -/
theorem finished_charged
    (h : c.Holds Sound (fun _ p s => p.Stands s)) (hfinished : .finished id ∈ endings c m) :
    (c.shared.feePlanAssignment.lookup id).isSome = true ∧
      ∀ n installment, Scheduled c.shared id n installment → Charged c.shared id n := by
  cases m with
  | start => cases hfinished
  | abandon => simp [endings] at hfinished
  | advance k =>
      simp only [endings] at hfinished
      split at hfinished
      · cases hfinished
      · next p hp =>
        split at hfinished
        · cases hfinished
        · unfold Point.ending at hfinished
          split at hfinished
          · cases List.mem_singleton.mp hfinished
            obtain ⟨hassigned, ⟨row, hrow, hrest⟩, hlines⟩ := h.calls k _ hp
            refine ⟨hassigned, fun n installment hscheduled => hlines n ?_⟩
            obtain ⟨row', hrow', hinstallment⟩ := hscheduled
            rw [hrow] at hrow'
            cases hrow'
            have hshort := List.drop_eq_nil_iff.mp hrest.symm
            exact lt_of_lt_of_le (List.getElem?_eq_some_iff.mp hinstallment).1 hshort
          · simp at hfinished
          · cases hfinished

theorem Accounted.step
    (h : Accounted c seen) (hstep : machine.step c m = some d) :
    Accounted d (seen ++ endings c m) := by
  have hmoved := step_moved h.holds hstep
  refine ⟨sound_relyGuarantee.holds_step h.holds trivial hstep,
    fun id hassigned => h.attended_step hstep hassigned, ?_⟩
  intro id hfinished
  have hbefore : (c.shared.feePlanAssignment.lookup id).isSome = true ∧
      ∀ n installment, Scheduled c.shared id n installment → Charged c.shared id n := by
    rcases List.mem_append.mp hfinished with hold | hnow
    · exact h.finished id hold
    · exact finished_charged h.holds hnow
  refine ⟨hmoved.assigned hbefore.1, fun n installment hscheduled => ?_⟩
  rw [hmoved.scheduled_iff h.holds.shared hbefore.1] at hscheduled
  exact hmoved.charged_stands (hbefore.2 n installment hscheduled)

end Run

/-! ## One charge for each installment -/

theorem assignment_key_injective : Function.Injective FeePlanAssignmentId.key := by
  rintro ⟨⟨plan⟩, ⟨student⟩⟩ ⟨⟨plan'⟩, ⟨student'⟩⟩ h
  have hparts := Text.join_inj '_' student.lacks_underscore student'.lacks_underscore h
  obtain ⟨plan, hplan⟩ := plan
  obtain ⟨student, hstudent⟩ := student
  obtain rfl : plan = plan'.hyphenated := hparts.1
  obtain rfl : student = student'.hyphenated := hparts.2
  rfl

theorem forInstallment_inj
    {id id' : FeePlanAssignmentId} {n m : ℕ}
    (h : PaymentLedgerId.forInstallment id n = .forInstallment id' m) : id = id' ∧ n = m := by
  have hlacks : ∀ k : ℕ, Text.Lacks '_' ("c" ++ k.repr) := fun k =>
    Text.Lacks.append (by decide) (Text.lacks_natRepr rfl k)
  obtain ⟨hkey, hnumber⟩ := Text.join_inj '_' (hlacks n) (hlacks m)
    (congrArg PaymentLedgerId.key h)
  exact ⟨assignment_key_injective hkey,
    Text.natRepr_injective (String.append_right_inj "c" |>.mp hnumber)⟩

/-- A charge that an assignment raised. -/
structure IsCharge (s : Db) (id : FeePlanAssignmentId) (line : PaymentLedger) : Prop where
  stored : s.paymentLedger.lookup line.id = some line
  kind : line.kind = .charge
  source : line.source = some id.key

theorem Sound.charge_eq
    {s : Db} (hs : Sound s) {id : FeePlanAssignmentId} {line : PaymentLedger}
    (h : IsCharge s id line) :
    ∃ n installment, Scheduled s id n installment ∧
      line = chargeLine id (n + 1) installment line.recordedBy line.createdAt := by
  obtain ⟨assignment, n, installment, -, hscheduled, hline⟩ := hs.charges _ _ h.stored h.kind
  have hsource := h.source
  rw [hline] at hsource
  obtain rfl := assignment_key_injective (Option.some.inj hsource)
  exact ⟨n, installment, hscheduled, hline⟩

theorem Sound.charge_unique
    {s : Db} (hs : Sound s) {id : FeePlanAssignmentId} {row : FeePlanRow}
    (hrow : s.feePlan.lookup id.plan = some row) {line : PaymentLedger} (h : IsCharge s id line) :
    ∃! n, line.id = .forInstallment id (n + 1) ∧
      ∃ installment, row.plan.installments[n]? = some installment ∧
        line.student = id.student ∧ line.amountMinor = installment.amountMinor := by
  obtain ⟨n, installment, ⟨row', hrow', hinstallment⟩, hline⟩ := hs.charge_eq h
  rw [hrow] at hrow'
  cases hrow'
  have hid : line.id = .forInstallment id (n + 1) := by rw [hline]; rfl
  refine ⟨n, ⟨hid, installment, hinstallment, by rw [hline]; rfl, by rw [hline]; rfl⟩, ?_⟩
  rintro m ⟨hm, -⟩
  have hnumber := (forInstallment_inj (hm.symm.trans hid)).2
  omega

/-- A raised charge is the only one of its installment. -/
theorem Sound.charged_unique
    {s : Db} (hs : Sound s) {id : FeePlanAssignmentId} {row : FeePlanRow}
    (hrow : s.feePlan.lookup id.plan = some row) {n : ℕ} {installment : Installment}
    (hinstallment : row.plan.installments[n]? = some installment) (hcharged : Charged s id n) :
    ∃! line, IsCharge s id line ∧ line.id = .forInstallment id (n + 1) ∧
      line.amountMinor = installment.amountMinor := by
  obtain ⟨line, hstored, hkind⟩ := hcharged
  have hid : line.id = .forInstallment id (n + 1) := hs.forest.keyed _ line hstored
  obtain ⟨assignment, m, billed, -, ⟨row', hrow', hbilled⟩, hline⟩ :=
    hs.charges _ line hstored hkind
  have hsame : PaymentLedgerId.forInstallment assignment (m + 1) = .forInstallment id (n + 1) := by
    rw [← hid, hline]
    rfl
  obtain ⟨rfl, hnumber⟩ := forInstallment_inj hsame
  obtain rfl : m = n := by omega
  rw [hrow] at hrow'
  cases hrow'
  rw [hinstallment] at hbilled
  cases hbilled
  refine ⟨line, ⟨⟨?_, hkind, ?_⟩, hid, ?_⟩, ?_⟩
  · rw [hid, hstored]
  · rw [hline]
    rfl
  · rw [hline]
    rfl
  · rintro other ⟨hother, hotherId, -⟩
    have hlookup := hother.stored
    rw [hotherId, hstored] at hlookup
    exact (Option.some.inj hlookup).symm

theorem accounted_run
    {ms : List (Move Request World)} {c : Config Db Point}
    (hrun : machine.run start ms = some c) :
    Accounted c (machine.observe endings start ms) := by
  have hend := Machine.observe_induction (J := Accounted)
    (fun hc _ hstep => Accounted.step hc hstep) accounted_start (Machine.guarded_true _ _) hrun
  simpa using hend

/-- The count of a plan is that of its assignments, and an assigned plan stays as it is.  A
charge belongs to one installment and has its amount.  With no assign on its way behind the
row, every installment has its one charge, if no assign of the pair was cut short there or
one has run to its end. -/
theorem assignments_billed
    {ms : List (Move Request World)} {c : Config Db Point}
    (hrun : machine.run start ms = some c) :
    (∀ plan row, c.shared.feePlan.lookup plan = some row →
      row.assignmentCount = placed c.shared plan) ∧
    ∀ id assignment, c.shared.feePlanAssignment.lookup id = some assignment →
      ∃ row, c.shared.feePlan.lookup id.plan = some row ∧
        (∀ m d, machine.step c m = some d →
          ∃ row', d.shared.feePlan.lookup id.plan = some row' ∧ row'.plan = row.plan) ∧
        (∀ line, IsCharge c.shared id line →
          ∃! n, line.id = .forInstallment id (n + 1) ∧
            ∃ installment, row.plan.installments[n]? = some installment ∧
              line.student = id.student ∧ line.amountMinor = installment.amountMinor) ∧
        (¬ InFlight c id →
          .cutShort id ∉ machine.observe endings start ms ∨
            .finished id ∈ machine.observe endings start ms →
          ∀ n installment, row.plan.installments[n]? = some installment →
            ∃! line, IsCharge c.shared id line ∧ line.id = .forInstallment id (n + 1) ∧
              line.amountMinor = installment.amountMinor) := by
  have hc := accounted_run hrun
  have hsound := hc.holds.shared
  refine ⟨hsound.counted, fun id assignment hassignment => ?_⟩
  have hassigned := Option.isSome_iff_exists.mpr ⟨assignment, hassignment⟩
  obtain ⟨row, hrow⟩ := hsound.housed id assignment hassignment
  refine ⟨row, hrow, ?_, fun line hline => hsound.charge_unique hrow hline, ?_⟩
  · intro m d hstep
    exact (step_moved hc.holds hstep).frozen hsound hassigned hrow
  · intro hnone hended n installment hinstallment
    have hfinished : .finished id ∈ machine.observe endings start ms := by
      rcases hc.attended id hassigned with hflight | hfinished | hcut
      · exact absurd hflight hnone
      · exact hfinished
      · exact hended.resolve_left (not_not.mpr hcut)
    have hcharged := (hc.finished id hfinished).2 n installment ⟨row, hrow, hinstallment⟩
    exact hsound.charged_unique hrow hinstallment hcharged

namespace Sample

def student : UserId := ⟨.ending "0001"⟩

def bursar : UserId := ⟨.ending "0002"⟩

def yearly : FeePlanId := ⟨.ending "000a"⟩

def term : Installment := ⟨⟨5000, by decide, by decide⟩, 0⟩

def placement : FeePlanAssignmentId := ⟨yearly, student⟩

def tick (n : ℕ) : Move Request World := .advance n ⟨0, yearly.uuid, some .student, false⟩

def halfBilled : List (Move Request World) :=
  [.start (.createPlan "fees" [term, term] bursar), tick 0,
    .start (.assignBatch yearly [student] bursar), tick 1, tick 1, tick 1, tick 1, tick 1,
    .abandon 1]

/-- The batch is sent again. -/
def billedAgain : List (Move Request World) :=
  halfBilled ++
    .start (.assignBatch yearly [student] bursar) :: List.replicate 8 (tick 2)

theorem halfBilled_run :
    ∃ c row, machine.run start halfBilled = some c ∧ c.calls.entries = [] ∧
      (c.shared.feePlanAssignment.lookup placement).isSome = true ∧
      c.shared.feePlan.lookup placement.plan = some row ∧
      row.plan.installments[1]? = some term ∧
      c.shared.paymentLedger.lookup (.forInstallment placement 2) = none := by
  have hrun : (machine.run start halfBilled).any (fun c =>
      (c.shared.feePlan.lookup placement.plan).any fun row =>
        decide (c.calls.keys = []) &&
          (c.shared.feePlanAssignment.lookup placement).isSome &&
          decide (c.shared.feePlan.lookup placement.plan = some row) &&
          decide (row.plan.installments[1]? = some term) &&
          (c.shared.paymentLedger.lookup (.forInstallment placement 2)).isNone) = true := by
    decide
  obtain ⟨c, hc, hany⟩ := (Option.any_eq_true _ _).mp hrun
  obtain ⟨row, _, hall⟩ := (Option.any_eq_true _ _).mp hany
  simp only [Bool.and_eq_true, decide_eq_true_eq, Option.isNone_iff_eq_none] at hall
  obtain ⟨⟨⟨⟨hcalls, hassigned⟩, hrow⟩, hterm⟩, hnone⟩ := hall
  exact ⟨c, row, hc, List.map_eq_nil_iff.mp hcalls, hassigned, hrow, hterm, hnone⟩

theorem billedAgain_run :
    ∃ c assignment row, machine.run start billedAgain = some c ∧ c.calls.entries = [] ∧
      c.shared.feePlanAssignment.lookup placement = some assignment ∧
      c.shared.feePlan.lookup placement.plan = some row ∧
      row.plan.installments = [term, term] ∧
      .finished placement ∈ machine.observe endings start billedAgain := by
  have hrun : (machine.run start billedAgain).any (fun c =>
      (c.shared.feePlan.lookup placement.plan).any fun row =>
        (c.shared.feePlanAssignment.lookup placement).any fun assignment =>
          decide (c.calls.keys = []) &&
            decide (c.shared.feePlanAssignment.lookup placement = some assignment) &&
            decide (c.shared.feePlan.lookup placement.plan = some row) &&
            decide (row.plan.installments = [term, term]) &&
            decide (.finished placement ∈ machine.observe endings start billedAgain)) = true := by
    decide
  obtain ⟨c, hc, hany⟩ := (Option.any_eq_true _ _).mp hrun
  obtain ⟨row, _, hany⟩ := (Option.any_eq_true _ _).mp hany
  obtain ⟨assignment, _, hall⟩ := (Option.any_eq_true _ _).mp hany
  simp only [Bool.and_eq_true, decide_eq_true_eq] at hall
  obtain ⟨⟨⟨⟨hcalls, hassigned⟩, hrow⟩, hterms⟩, hfinished⟩ := hall
  exact ⟨c, assignment, row, hc, List.map_eq_nil_iff.mp hcalls, hassigned, hrow, hterms, hfinished⟩

end Sample

theorem not_inFlight_of_idle
    {c : Config Db Point} (h : c.calls.entries = []) (id : FeePlanAssignmentId) :
    ¬ InFlight c id := by
  rintro ⟨n, p, hp, -⟩
  have hmem := mem_entries_iff_lookup.mpr hp
  rw [h] at hmem
  cases hmem

/-- The lost batch left the second term out; sent again it adds just that charge. -/
theorem assignments_billed_again :
    ∃ c, machine.run start Sample.billedAgain = some c ∧
      ∀ n installment, [Sample.term, Sample.term][n]? = some installment →
        ∃! line, IsCharge c.shared Sample.placement line ∧
          line.id = .forInstallment Sample.placement (n + 1) ∧
          line.amountMinor = installment.amountMinor := by
  obtain ⟨c, assignment, row, hrun, hidle, hassigned, hrow, hterms, hfinished⟩ :=
    Sample.billedAgain_run
  obtain ⟨row', hrow', -, -, hbilled⟩ := (assignments_billed hrun).2 _ assignment hassigned
  rw [hrow] at hrow'
  cases hrow'
  rw [hterms] at hbilled
  exact ⟨c, hrun, hbilled (not_inFlight_of_idle hidle _) (.inr hfinished)⟩

/-- No call is in flight, and the assigned student lacks the charge of the second term. -/
theorem assigned_unbilled :
    ∃ c row, machine.run start Sample.halfBilled = some c ∧
      (c.shared.feePlanAssignment.lookup Sample.placement).isSome = true ∧
      ¬ InFlight c Sample.placement ∧
      c.shared.feePlan.lookup Sample.placement.plan = some row ∧
      row.plan.installments[1]? = some Sample.term ∧
      ¬ ∃ line, IsCharge c.shared Sample.placement line ∧
        line.id = .forInstallment Sample.placement 2 := by
  obtain ⟨c, row, hrun, hidle, hassigned, hrow, hterm, hnone⟩ := Sample.halfBilled_run
  refine ⟨c, row, hrun, hassigned, not_inFlight_of_idle hidle _, hrow, hterm, ?_⟩
  rintro ⟨line, hline, hid⟩
  have hstored := hline.stored
  rw [hid, hnone] at hstored
  cases hstored

end Hezarfen.FeePlans
