import Hezarfen.PaymentLedgerCaps

/-!
# A keyed call lands once

The id of a keyed line is made of its target and its key, the id of a reversal of the line
it undoes.  The kind of a line fixes how many parts its id has, but for one overlap that
the last parts tell apart, so no derived id meets a line of another shape: a stored line
under it is the line of the same call.
-/

namespace Hezarfen.Payment

open Interleaving

variable {db' : Db} {id : PaymentLedgerId} {c d : Config Db Point} {ms : List (Move Request World)}
  {p : Point}

/-- The number of separators in an id. -/
def PaymentLedgerId.joints (id : PaymentLedgerId) : ℕ := id.key.toList.count '_'

theorem count_of_lacks {s : String} (h : Text.Lacks '_' s) : s.toList.count '_' = 0 :=
  List.count_eq_zero.mpr h

@[simp]
theorem joints_generate (uuid : Uuid) : (PaymentLedgerId.generate uuid).joints = 0 :=
  count_of_lacks uuid.lacks_underscore

@[simp]
theorem joints_forInstallment (assignment : FeePlanAssignmentId) (n : ℕ) :
    (PaymentLedgerId.forInstallment assignment n).joints = 2 := by
  have hplan := count_of_lacks assignment.plan.uuid.lacks_underscore
  have hstudent := count_of_lacks assignment.student.uuid.lacks_underscore
  have hdigits : Text.Lacks '_' n.repr := Text.lacks_natRepr rfl n
  have hnumber := count_of_lacks hdigits
  simpa [PaymentLedgerId.joints, PaymentLedgerId.forInstallment, FeePlanAssignmentId.key,
    FeePlanId.key, UserId.key, String.toList_append, List.count_append, hplan, hstudent]
    using hnumber

@[simp]
theorem joints_forReversal (line : PaymentLedgerId) :
    (PaymentLedgerId.forReversal line).joints = line.joints + 1 := by
  simp [PaymentLedgerId.joints, PaymentLedgerId.forReversal, String.toList_append,
    List.count_append]

theorem joints_forRequest
    (target : PaymentLedgerId) {marker : String} (hmarker : Text.Lacks '_' marker)
    (key : PaymentRequestKey) :
    (PaymentLedgerId.forRequest target marker key).joints = target.joints + 2 := by
  have hkey := count_of_lacks key.lacks_underscore
  have hcount := count_of_lacks hmarker
  simp [PaymentLedgerId.joints, PaymentLedgerId.forRequest, String.toList_append,
    List.count_append, hkey, hcount]

theorem forRequest_inj
    {target target' : PaymentLedgerId} {marker : String} (hmarker : Text.Lacks '_' marker)
    {key key' : PaymentRequestKey}
    (h : PaymentLedgerId.forRequest target marker key =
      PaymentLedgerId.forRequest target' marker key') : target = target' := by
  have hlast := Text.join_inj '_' key.lacks_underscore key'.lacks_underscore
    (congrArg PaymentLedgerId.key h)
  exact PaymentLedgerId.ext (Text.join_inj '_' hmarker hmarker hlast.1).1

theorem forRequest_ne_forInstallment
    (target : PaymentLedgerId) (key : PaymentRequestKey) (assignment : FeePlanAssignmentId)
    (n : ℕ) : PaymentLedgerId.forRequest target "kr" key ≠ .forInstallment assignment n := by
  intro h
  have hnumber : Text.Lacks '_' ("c" ++ n.repr) :=
    Text.Lacks.append (by decide) (Text.lacks_natRepr rfl n)
  have hlast := Text.join_inj '_' key.lacks_underscore hnumber (congrArg PaymentLedgerId.key h)
  have hmiddle := Text.join_inj '_' (by decide) assignment.student.uuid.lacks_underscore hlast.1
  have hcanonical := assignment.student.uuid.canonical
  have hmarker : assignment.student.uuid.hyphenated = "kr" := hmiddle.2.symm
  rw [hmarker] at hcanonical
  revert hcanonical
  decide

/-! ## The shapes of the stored lines -/

def PaymentLedgerKind.Jointed : PaymentLedgerKind → ℕ → Prop
  | .charge, joints => joints = 2
  | .credit, joints => joints = 0 ∨ joints = 4
  | .refund, joints => joints = 0 ∨ joints = 2 ∨ joints = 6
  | .reversal, joints => joints % 2 = 1

def IsSide (side : Side) : Prop := side = creditSide ∨ side = refundSide

theorem IsSide.marker_lacks {side : Side} (h : IsSide side) : Text.Lacks '_' side.marker := by
  rcases h with rfl | rfl <;> decide

structure Shaped (db : Db) : Prop where
  joints : ∀ id line, db.lookup id = some line → line.kind.Jointed id.joints
  charge : ∀ id line, db.lookup id = some line → line.kind = .charge →
    ∃ assignment n, id = .forInstallment assignment n
  against : ∀ side, IsSide side → ∀ id line, db.lookup id = some line → line.kind = side.kind →
    (∃ uuid, id = .generate uuid) ∨
      ∃ (target : PaymentLedgerId) (key : PaymentRequestKey),
        id = .forRequest target side.marker key ∧ line.source = some target.key

theorem shaped_empty : Shaped ∅ := by
  constructor <;> intros <;> simp_all

theorem Shaped.keyed
    {db : Db} (h : Shaped db) {side : Side} (hside : IsSide side) {target line : PaymentLedger}
    (htarget : db.lookup target.id = some target) (hexpected : target.kind = side.expected)
    {key : PaymentRequestKey}
    (hline : db.lookup (.forRequest target.id side.marker key) = some line) :
    line.kind = side.kind ∧ line.source = some target.id.key := by
  have hmarker := hside.marker_lacks
  have hkind : line.kind = side.kind := by
    have hjoints := h.joints _ line hline
    have hbelow := h.joints _ target htarget
    rw [joints_forRequest _ hmarker] at hjoints
    rw [hexpected] at hbelow
    rcases hside with rfl | rfl
    · simp only [creditSide, PaymentLedgerKind.Jointed] at hbelow ⊢
      cases hk : line.kind with
      | credit => rfl
      | charge | refund | reversal =>
          simp only [hk, PaymentLedgerKind.Jointed] at hjoints
          omega
    · simp only [refundSide, PaymentLedgerKind.Jointed] at hbelow ⊢
      cases hk : line.kind with
      | charge =>
          obtain ⟨assignment, n, hcharge⟩ := h.charge _ line hline hk
          exact absurd hcharge (forRequest_ne_forInstallment target.id key assignment n)
      | credit | reversal =>
          simp only [hk, PaymentLedgerKind.Jointed] at hjoints
          omega
      | refund => rfl
  refine ⟨hkind, ?_⟩
  rcases h.against side hside _ line hline hkind with ⟨uuid, hfresh⟩ | ⟨other, key', hid, hsource⟩
  · have hjoints := congrArg PaymentLedgerId.joints hfresh
    simp [joints_forRequest _ hmarker] at hjoints
  · rw [forRequest_inj hmarker hid]
    exact hsource

/-- What stands under the id of a reversal is a reversal. -/
theorem Shaped.reversal
    {db : Db} (h : Shaped db) {target line : PaymentLedger}
    (htarget : db.lookup target.id = some target)
    (hkind : target.kind = .charge ∨ target.kind = .refund)
    (hline : db.lookup (.forReversal target.id) = some line) : line.kind = .reversal := by
  have hjoints := h.joints _ line hline
  have hbelow := h.joints _ target htarget
  rw [joints_forReversal] at hjoints
  have heven : target.id.joints % 2 = 0 := by
    rcases hkind with hk | hk <;> simp only [hk, PaymentLedgerKind.Jointed] at hbelow <;> omega
  cases hk : line.kind with
  | reversal => rfl
  | charge | credit | refund =>
      simp only [hk, PaymentLedgerKind.Jointed] at hjoints
      omega

theorem Admitted.jointed
    {db : Db} (h : Shaped db) {row : PaymentLedger} (hrow : Admitted db row) :
    row.kind.Jointed row.id.joints := by
  cases hrow with
  | charge assignment n hid hkind =>
      simp [hid, hkind, PaymentLedgerKind.Jointed]
  | @against side target args w hside hexpected hroom =>
      have hbelow := h.joints _ target hroom.stored
      rw [hexpected] at hbelow
      have hmarker := IsSide.marker_lacks hside
      unfold againstLine
      cases args.requestKey with
      | none =>
          rcases hside with rfl | rfl <;>
            simp [creditSide, refundSide, PaymentLedgerKind.Jointed]
      | some key =>
          simp only [Option.map_some, Option.getD_some, joints_forRequest _ hmarker]
          rcases hside with rfl | rfl
          · simp only [creditSide, PaymentLedgerKind.Jointed] at hbelow ⊢
            omega
          · simp only [refundSide, PaymentLedgerKind.Jointed] at hbelow ⊢
            omega
  | @reversal target _ _ _ hstored hkind =>
      have hbelow := h.joints _ target hstored
      simp only [reversalLine, joints_forReversal, PaymentLedgerKind.Jointed]
      rcases hkind with hk | hk <;> simp only [hk, PaymentLedgerKind.Jointed] at hbelow <;> omega

theorem Shaped.insert
    {db : Db} (h : Shaped db) {row : PaymentLedger} (hrow : Admitted db row) :
    Shaped (db.insert row.id row) := by
  constructor
  · intro id line hline
    obtain ⟨hid, rfl⟩ | ⟨-, hline⟩ := insert_cases hline
    · exact hid ▸ hrow.jointed h
    · exact h.joints id line hline
  · intro id line hline hkind
    obtain ⟨hid, rfl⟩ | ⟨-, hline⟩ := insert_cases hline
    · cases hrow with
      | charge assignment n hrowId => exact ⟨assignment, n, hid.trans hrowId⟩
      | @against side target args w hside _ _ =>
          rcases hside with rfl | rfl <;> cases hkind
      | reversal => cases hkind
    · exact h.charge id line hline hkind
  · intro side hside id line hline hkind
    obtain ⟨hid, rfl⟩ | ⟨-, hline⟩ := insert_cases hline
    · cases hrow with
      | charge assignment n _ hcharge =>
          rw [hcharge] at hkind
          rcases hside with rfl | rfl <;> cases hkind
      | @against side' target args w hside' _ _ =>
          have hsame : side' = side := by
            rcases hside with rfl | rfl <;> rcases hside' with rfl | rfl <;>
              first | rfl | cases hkind
          subst hsame
          rw [hid]
          unfold againstLine
          cases args.requestKey with
          | none => exact .inl ⟨w.uuid, rfl⟩
          | some key => exact .inr ⟨target.id, key, rfl, rfl⟩
      | reversal => rcases hside with rfl | rfl <;> cases hkind
    · exact h.against side hside id line hline hkind

def alreadyUsed : AppError :=
  .conflict "this request_key was already used for a different amount or target"

section Transactions

variable {db : Db} {side : Side} {target line : PaymentLedger} {args : AgainstArgs}
  {key : PaymentRequestKey} {w : World}

theorem against_replay
    (h : Shaped db) (hside : IsSide side) (htarget : db.lookup target.id = some target)
    (hexpected : target.kind = side.expected) (hkey : args.requestKey = some key)
    (hline : db.lookup (.forRequest target.id side.marker key) = some line) :
    txWithRetry (against side target args w) db =
      (if line.amountMinor = args.amountMinor then .ok line else .error alreadyUsed, db) := by
  have hsource := (h.keyed hside htarget hexpected hline).2
  have hminor : line.amountMinor.asMinor = args.amountMinor.asMinor ↔
      line.amountMinor = args.amountMinor :=
    ⟨LedgerAmount.ext_minor, congrArg LedgerAmount.asMinor⟩
  unfold txWithRetry against
  simp only [hexpected, ne_eq, not_true, if_false, hkey, Option.bind_some, hline, hsource,
    or_false, hminor]
  by_cases hsame : line.amountMinor = args.amountMinor
  · simp [hsame]
  · simp [hsame, alreadyUsed]

theorem against_writes
    (h : Shaped db) (hside : IsSide side) (htarget : db.lookup target.id = some target)
    (hkey : args.requestKey = some key) {answer : Except AppError PaymentLedger}
    (hrun : txWithRetry (against side target args w) db = (answer, db')) :
    db' = db ∨
      ∃ line, line.id = .forRequest target.id side.marker key ∧ db.lookup line.id = none ∧
        answer = .ok line ∧ db' = db.insert line.id line := by
  by_cases hexpected : target.kind = side.expected
  swap
  · simp only [txWithRetry, against, ne_eq, hexpected, not_false_iff, if_true,
      Prod.mk.injEq] at hrun
    exact .inl hrun.2.symm
  cases hline : db.lookup (.forRequest target.id side.marker key) with
  | some =>
      rw [against_replay h hside htarget hexpected hkey hline] at hrun
      exact .inl (congrArg Prod.snd hrun).symm
  | none =>
      rcases txWithRetry_cases hrun with ⟨line, rfl, hok⟩ | ⟨e, -, -, rfl⟩
      swap
      · exact .inl rfl
      have hid : (againstLine side target args w).id = .forRequest target.id side.marker key := by
        simp [againstLine, hkey]
      have hnew : db.lookup (againstLine side target args w).id = none := hid ▸ hline
      unfold against at hok
      simp only [hexpected, ne_eq, not_true, if_false, hkey, Option.bind_some, hline] at hok
      split at hok
      · cases hok
      · split at hok
        · cases hok
        · simp only [append, hnew, Except.ok.injEq, Prod.mk.injEq] at hok
          obtain ⟨rfl, rfl⟩ := hok
          exact .inr ⟨_, hid, hnew, rfl, rfl⟩

theorem reversal_answers
    (h : Shaped db) (hstored : db.lookup target.id = some target)
    (hkind : target.kind = .charge ∨ target.kind = .refund) (note : Option String)
    (recordedBy : UserId) :
    ∃ undo db', txWithRetry (reversal target note recordedBy w) db = (.ok undo, db') ∧
      db'.lookup (.forReversal target.id) = some undo ∧
      (∀ old, db.lookup (.forReversal target.id) = some old → db' = db) := by
  cases hold : db.lookup (.forReversal target.id) with
  | some old =>
      have hreversal := h.reversal hstored hkind hold
      refine ⟨old, db, ?_, hold, fun _ _ => rfl⟩
      simp [txWithRetry, reversal, hkind, append, reversalLine, hold, hreversal]
  | none =>
      let undo := reversalLine target note recordedBy w
      refine ⟨undo, db.insert undo.id undo, ?_, ?_, ?_⟩
      · have hnew : db.lookup undo.id = none := hold
        simp only [txWithRetry, reversal, hkind, if_true, append, undo] at hnew ⊢
        rw [hnew]
      · exact AList.lookup_insert _
      · intro old hsome
        cases hsome

end Transactions

theorem Appends.stands
    {db : Db} (h : Appends db db') {line : PaymentLedger} (hline : db.lookup id = some line) :
    db'.lookup id = some line := by
  rcases h with rfl | ⟨row, habsent, -, rfl⟩
  · exact hline
  · exact lookup_insert_of_some habsent hline

structure Settled (c : Config Db Point) : Prop where
  holds : c.Holds Caps (fun _ p db => p.Reads db)
  shaped : Shaped c.shared

theorem Settled.appends
    {m : Move Request World} (h : Settled c) (hstep : machine.step c m = some d) :
    Appends c.shared d.shared := by
  obtain ⟨request, rfl, rfl⟩ | ⟨id, w, p, db, n, rfl, hp, hnext, rfl⟩ | ⟨id, p, rfl, hp, rfl⟩ :=
    Machine.step_cases hstep
  · exact .inl rfl
  · rw [Config.shared_after]
    exact next_appends id (h.holds.calls id p hp) hnext
  · exact .inl rfl

theorem Settled.step
    {m : Move Request World} (h : Settled c) (hstep : machine.step c m = some d) : Settled d := by
  refine ⟨caps_relyGuarantee.holds_step h.holds trivial hstep, ?_⟩
  rcases h.appends hstep with heq | ⟨row, -, hrow, heq⟩
  · exact heq ▸ h.shaped
  · exact heq ▸ h.shaped.insert hrow

theorem settled_start : Settled start :=
  ⟨Config.initial_holds _ caps_empty, shaped_empty⟩

theorem settled_run
    (h : Settled c) (hrun : machine.run c ms = some d) : Settled d :=
  Machine.run_induction (fun hc _ hstep => Settled.step hc hstep) h
    (Machine.guarded_true _ _) hrun

/-- A stored line is never edited and never deleted. -/
theorem stands_run
    (h : Settled c) (hrun : machine.run c ms = some d) {line : PaymentLedger}
    (hline : c.shared.lookup id = some line) : d.shared.lookup id = some line := by
  have hend : Settled d ∧ d.shared.lookup id = some line :=
    Machine.run_induction (J := fun c => Settled c ∧ c.shared.lookup id = some line)
      (fun hc _ hstep => ⟨hc.1.step hstep, (hc.1.appends hstep).stands hc.2⟩) ⟨h, hline⟩
      (Machine.guarded_true _ _) hrun
  exact hend.2

def written (db db' : Db) : List PaymentLedgerId :=
  db'.keys.filter fun id => (db.lookup id).isNone

theorem mem_written {db : Db} :
    id ∈ written db db' ↔ id ∈ db' ∧ id ∉ db := by
  rw [written, List.mem_filter, AList.mem_keys, Option.isNone_iff_eq_none,
    AList.lookup_eq_none]

/-- Over a whole run no id is written twice. -/
theorem written_nodup
    (hrun : machine.run start ms = some c) : (machine.collect written start ms).Nodup := by
  have hend : Settled c ∧ ([] ++ machine.collect written start ms).Nodup ∧
      ∀ id ∈ [] ++ machine.collect written start ms, id ∈ c.shared := by
    refine Machine.collect_induction
      (J := fun c l => Settled c ∧ l.Nodup ∧ ∀ id ∈ l, id ∈ c.shared) ?_
      ⟨settled_start, List.nodup_nil, by simp⟩ hrun
    rintro c d m l ⟨hc, hnodup, hstored⟩ hstep
    refine ⟨hc.step hstep, ?_, ?_⟩
    · have hnew : (written c.shared d.shared).Nodup := (AList.keys_nodup _).filter _
      refine hnodup.append hnew ?_
      intro id hold hwritten
      exact (mem_written.mp hwritten).2 (hstored id hold)
    · intro id hid
      rcases List.mem_append.mp hid with hold | hwritten
      · obtain ⟨line, hline⟩ := Option.isSome_iff_exists.mp
          (AList.lookup_isSome.mpr (hstored id hold))
        exact AList.lookup_isSome.mp
          (Option.isSome_iff_exists.mpr ⟨line, (hc.appends hstep).stands hline⟩)
      · exact (mem_written.mp hwritten).1
  simpa using hend.2.1

/-- Where the call of a request can be. -/
def Point.Serves : Request → Point → Prop
  | .recordPayment charge args, .creditRead charge' args' => charge' = charge ∧ args' = args
  | .recordPayment charge args, .credit line args' => line.id = charge ∧ args' = args
  | .recordRefund paid args, .refundRead paid' args' => paid' = paid ∧ args' = args
  | .recordRefund paid args, .refund line args' => line.id = paid ∧ args' = args
  | .recordReversal line note recordedBy, .reversalRead line' note' recordedBy' =>
      line' = line ∧ note' = note ∧ recordedBy' = recordedBy
  | .recordReversal line note recordedBy, .reversal line' note' recordedBy' =>
      line'.id = line ∧ note' = note ∧ recordedBy' = recordedBy
  | .bill .., .bill .. => True
  | _, _ => False

theorem requireLine_serves
    {db : Db} (hkeyed : ∀ id line, db.lookup id = some line → line.id = id)
    {next : PaymentLedger → Point} {q : Point} (h : requireLine db id next = .goto q) :
    ∃ line, line.id = id ∧ q = next line := by
  unfold requireLine at h
  split at h
  · cases h
  · next line hline =>
    cases h
    exact ⟨line, hkeyed id line hline, rfl⟩

theorem serves_entry (request : Request) : Point.Serves request (machine.entry request) := by
  cases request with
  | bill => trivial
  | recordPayment | recordRefund => exact ⟨rfl, rfl⟩
  | recordReversal => exact ⟨rfl, rfl, rfl⟩

theorem serves_goto
    (id : ℕ) {db : Db} (hkeyed : ∀ id line, db.lookup id = some line → line.id = id)
    {request : Request} {q : Point} {w : World} (hp : p.Serves request)
    (hnext : next id db p w = some (db', .goto q)) : q.Serves request := by
  cases p with
  | bill assignment k rest =>
      cases request with
      | bill =>
          cases rest with
          | nil => cases hnext
          | cons =>
              simp only [next, billNext, Option.some.injEq] at hnext
              split at hnext <;> cases hnext
              trivial
      | _ => cases hp
  | creditRead =>
      simp only [next, Option.some.injEq, Prod.mk.injEq] at hnext
      obtain ⟨line, hline, rfl⟩ := requireLine_serves hkeyed hnext.2
      cases request with
      | recordPayment => exact ⟨hline.trans hp.1, hp.2⟩
      | _ => cases hp
  | refundRead =>
      simp only [next, Option.some.injEq, Prod.mk.injEq] at hnext
      obtain ⟨line, hline, rfl⟩ := requireLine_serves hkeyed hnext.2
      cases request with
      | recordRefund => exact ⟨hline.trans hp.1, hp.2⟩
      | _ => cases hp
  | reversalRead =>
      simp only [next, Option.some.injEq, Prod.mk.injEq] at hnext
      obtain ⟨stored, hstored, rfl⟩ := requireLine_serves hkeyed hnext.2
      cases request with
      | recordReversal => exact ⟨hstored.trans hp.1, hp.2⟩
      | _ => cases hp
  | credit | refund | reversal => cases hnext

theorem serves_requests
    (hrun : machine.run start ms = some c) :
    c.Serves (fun request p => Point.Serves request p) (requests ms) := by
  have hserves := Machine.serves_run_under (M := machine) (J := Settled) serves_entry
    (fun hc hstep => Settled.step hc hstep)
    (fun {_ _ id _ _ _ _} hc _ hp hnext =>
      serves_goto id hc.holds.shared.forest.keyed hp hnext)
    settled_start
    (Config.initial_serves _ _) hrun
  simpa using hserves

/-! ## Each call lands once -/

def Request.against : Request → Option (Side × PaymentLedgerId × AgainstArgs)
  | .recordPayment charge args => some (creditSide, charge, args)
  | .recordRefund paid args => some (refundSide, paid, args)
  | _ => none

def Reply.reads (n : Reply) (target : PaymentLedger) (args : AgainstArgs) : Prop :=
  n = .goto (.credit target args) ∨ n = .goto (.refund target args)

/-- One step of a keyed call. -/
structure KeyedOnce (side : Side) (targetId : PaymentLedgerId) (args : AgainstArgs)
    (key : PaymentRequestKey) (db db' : Db) (n : Reply) : Prop where
  writes : db' = db ∨
    ∃ line, line.id = .forRequest targetId side.marker key ∧ db.lookup line.id = none ∧
      n = .answer (.ok (some line)) ∧ db' = db.insert line.id line
  /-- The line is there already, whatever has been applied to its target since. -/
  replayed : ∀ target line, db.lookup targetId = some target → target.kind = side.expected →
    db.lookup (.forRequest targetId side.marker key) = some line →
    db' = db ∧
      (Reply.reads n target args ∨
        n = .answer (if line.amountMinor = args.amountMinor then .ok (some line)
          else .error alreadyUsed))

/-- One step of a reversal. -/
structure ReversedOnce (lineId : PaymentLedgerId) (db db' : Db) (n : Reply) : Prop where
  answered : ∀ line, db.lookup lineId = some line → line.kind = .charge ∨ line.kind = .refund →
    (db' = db ∧ ∃ note recordedBy, n = .goto (.reversal line note recordedBy)) ∨
      ∃ undo, n = .answer (.ok (some undo)) ∧ db'.lookup (.forReversal lineId) = some undo ∧
        value undo = -value line ∧
        Table.count db' (fun _ other =>
          decide (other.kind = .reversal) && decide (other.source = some lineId.key)) = 1
  kept : ∀ line undo, db.lookup lineId = some line → line.kind = .charge ∨ line.kind = .refund →
    db.lookup (.forReversal lineId) = some undo → db' = db

theorem requireLine_found
    {db : Db} {next : PaymentLedger → Point} {line : PaymentLedger} (h : db.lookup id = some line) :
    requireLine db id next = .goto (next line) := by
  simp [requireLine, h]

/-- The transaction of a keyed call. -/
theorem keyedOnce_tx
    {db : Db} (h : Shaped db) {side : Side} (hside : IsSide side) {target : PaymentLedger}
    (hstored : db.lookup target.id = some target) {args : AgainstArgs} {key : PaymentRequestKey}
    (hkey : args.requestKey = some key) (w : World) :
    KeyedOnce side target.id args key db
      (answerLine (txWithRetry (against side target args w) db)).1
      (answerLine (txWithRetry (against side target args w) db)).2 := by
  constructor
  · cases hrun : txWithRetry (against side target args w) db with
    | mk =>
        rcases against_writes h hside hstored hkey hrun with rfl | ⟨line, hid, hnew, rfl, rfl⟩
        · exact .inl rfl
        · exact .inr ⟨line, hid, hnew, rfl, rfl⟩
  · intro found line htarget hexpected hline
    rw [hstored] at htarget
    cases htarget
    simp only [answerLine, against_replay h hside hstored hexpected hkey hline]
    refine ⟨trivial, .inr ?_⟩
    split <;> rfl

/-- The read of a keyed call. -/
theorem keyedOnce_read
    {db : Db} {side : Side} {targetId : PaymentLedgerId} {args : AgainstArgs}
    {key : PaymentRequestKey} {next : PaymentLedger → Point}
    (hnext : ∀ line, Reply.reads (.goto (next line)) line args) :
    KeyedOnce side targetId args key db db (requireLine db targetId next) := by
  refine ⟨.inl rfl, ?_⟩
  intro target line htarget _ _
  rw [requireLine_found htarget]
  exact ⟨rfl, .inl (hnext target)⟩

/-- A reversal of a line undoes it, and no second one does. -/
theorem undoes
    {db : Db} (hdb : Forest db) (h : Shaped db) {line undo : PaymentLedger}
    (hline : db.lookup line.id = some line) (hkind : line.kind = .charge ∨ line.kind = .refund)
    (hundo : db.lookup (.forReversal line.id) = some undo) :
    value undo = -value line ∧
      Table.count db (fun _ other =>
        decide (other.kind = .reversal) && decide (other.source = some line.id.key)) = 1 := by
  have hreversal := h.reversal hline hkind hundo
  have hid := hdb.keyed _ undo hundo
  have hrooted := hdb.rooted _ undo hundo
  simp only [Rooted, hreversal] at hrooted
  obtain ⟨parent, hunder, -, hparent, hamount⟩ := hrooted
  have hsame : parent.id = line.id := by
    have hkeys := congrArg PaymentLedgerId.key (hparent.symm.trans hid)
    exact PaymentLedgerId.ext (Text.join_inj '_' (by decide) (by decide) hkeys).1
  have hstored := hunder.stored
  rw [hsame, hline] at hstored
  cases hstored
  constructor
  · rcases hkind with hk | hk <;>
      simp [value, amountOf, hreversal, hk, hamount, PaymentLedgerKind.sign]
  · have hone : ∀ id other, db.lookup id = some other →
        (decide (other.kind = .reversal) && decide (other.source = some line.id.key)) = true →
        id = .forReversal line.id := by
      intro id other hother hmatch
      simp only [Bool.and_eq_true, decide_eq_true_eq] at hmatch
      rcases hdb.child_cases hother ⟨hline, hmatch.2⟩ with hcase | hcase | hcase
      · exact absurd (hmatch.1.symm.trans hcase.1) (by decide)
      · exact absurd (hmatch.1.symm.trans hcase.1) (by decide)
      · exact (hdb.keyed id other hother).symm.trans hcase.2.2.1
    have hmost : Table.count db (fun _ other =>
        decide (other.kind = .reversal) && decide (other.source = some line.id.key)) ≤ 1 := by
      apply Table.count_le_one
      intro id other id' other' hother hmatch hother' hmatch'
      rw [hone id other hother hmatch, hone id' other' hother' hmatch']
    have hsome : Table.count db (fun _ other =>
        decide (other.kind = .reversal) && decide (other.source = some line.id.key)) ≠ 0 := by
      intro hzero
      have hnot := Table.count_eq_zero_iff.mp hzero _ undo hundo
      simp [hreversal, hunder.source] at hnot
    omega

theorem reversedOnce_tx
    (hc : Settled c) (hd : Settled d) {line : PaymentLedger}
    (hstored : c.shared.lookup line.id = some line) {note : Option String} {recordedBy : UserId}
    {w : World} (hshared : d.shared = (txWithRetry (reversal line note recordedBy w) c.shared).2) :
    ReversedOnce line.id c.shared d.shared
      (answerLine (txWithRetry (reversal line note recordedBy w) c.shared)).2 := by
  constructor
  · intro found hfound hkind
    rw [hstored] at hfound
    cases hfound
    obtain ⟨undo, db', hrun, hundo, -⟩ :=
      reversal_answers (w := w) hc.shaped hstored hkind note recordedBy
    rw [hrun] at hshared
    have hundo : d.shared.lookup (.forReversal line.id) = some undo := hshared ▸ hundo
    have hstands : d.shared.lookup line.id = some line := by
      have happends : Appends c.shared
          (txWithRetry (reversal line note recordedBy w) c.shared).2 :=
        txWithRetry_appends fun _ _ hok => reversal_appends hstored hok
      rw [hshared, ← hrun]
      exact happends.stands hstored
    have hundoes := undoes hd.holds.shared.forest hd.shaped hstands hkind hundo
    refine .inr ⟨undo, ?_, hundo, hundoes⟩
    simp only [answerLine, hrun]
    rfl
  · intro found undo hfound hkind hundo
    rw [hstored] at hfound
    cases hfound
    obtain ⟨_, db', hrun, -, hkept⟩ :=
      reversal_answers (w := w) hc.shaped hstored hkind note recordedBy
    rw [hshared, hrun]
    exact hkept undo hundo

/-- Every step of the call of a keyed request. -/
theorem keyedOnce_next
    (hc : Settled c) {id : ℕ} (hp : c.calls.lookup id = some p) {request : Request}
    (hserves : p.Serves request) {side : Side} {targetId : PaymentLedgerId} {args : AgainstArgs}
    {key : PaymentRequestKey} (hagainst : request.against = some (side, targetId, args))
    (hkey : args.requestKey = some key) {w : World} {n : Reply}
    (hnext : next id c.shared p w = some (db', n)) :
    KeyedOnce side targetId args key c.shared db' n := by
  have hreads := hc.holds.calls id p hp
  cases request with
  | bill | recordReversal => cases hagainst
  | recordPayment =>
      cases hagainst
      cases p with
      | creditRead =>
          obtain ⟨rfl, rfl⟩ := hserves
          cases hnext
          exact keyedOnce_read fun _ => .inl rfl
      | credit =>
          obtain ⟨rfl, rfl⟩ := hserves
          cases hnext
          exact keyedOnce_tx hc.shaped (.inl rfl) hreads hkey w
      | _ => cases hserves
  | recordRefund =>
      cases hagainst
      cases p with
      | refundRead =>
          obtain ⟨rfl, rfl⟩ := hserves
          cases hnext
          exact keyedOnce_read fun _ => .inr rfl
      | refund =>
          obtain ⟨rfl, rfl⟩ := hserves
          cases hnext
          exact keyedOnce_tx hc.shaped (.inr rfl) hreads hkey w
      | _ => cases hserves

theorem reversedOnce_next
    (hc : Settled c) {id : ℕ} (hp : c.calls.lookup id = some p) {lineId : PaymentLedgerId}
    {note : Option String} {recordedBy : UserId}
    (hserves : p.Serves (.recordReversal lineId note recordedBy)) {w : World} {n : Reply}
    (hnext : next id c.shared p w = some (db', n)) :
    ReversedOnce lineId c.shared db' n := by
  have hreads := hc.holds.calls id p hp
  cases p with
  | reversalRead =>
      obtain ⟨rfl, rfl, rfl⟩ := hserves
      cases hnext
      constructor
      · intro found hfound _
        rw [requireLine_found hfound]
        exact .inl ⟨rfl, _, _, rfl⟩
      · intro _ _ _ _ _
        rfl
  | reversal line note' recordedBy' =>
      obtain ⟨rfl, rfl, rfl⟩ := hserves
      have hmove : machine.next id c.shared (.reversal line note' recordedBy') w =
          some (db', n) := hnext
      have hstep : machine.step c (.advance id w) = some (c.after id db' n) := by
        simp only [Machine.step, hp, hmove]
      have hd := hc.step hstep
      cases hnext
      have honce := reversedOnce_tx hc hd hreads (Config.shared_after _ _ _ _)
      rwa [Config.shared_after] at honce
  | _ => cases hserves

/-- In every run no id is written twice and no line goes; every step of a call of a keyed
payment or refund writes nothing or the one line of its key, and answers a replay from the
stored line; and a reversal that is over leaves exactly one line that undoes its line. -/
theorem calls_land_once
    {ms : List (Move Request World)} {c : Config Db Point}
    (hrun : machine.run start ms = some c) :
    (machine.collect written start ms).Nodup ∧
    (∀ ms' d, machine.run c ms' = some d → ∀ id line, c.shared.lookup id = some line →
      d.shared.lookup id = some line) ∧
    (∀ id p request side targetId args key w db' n, c.calls.lookup id = some p →
      (requests ms)[id]? = some request → request.against = some (side, targetId, args) →
      args.requestKey = some key → next id c.shared p w = some (db', n) →
      KeyedOnce side targetId args key c.shared db' n) ∧
    ∀ id p lineId note recordedBy w db' n, c.calls.lookup id = some p →
      (requests ms)[id]? = some (.recordReversal lineId note recordedBy) →
      next id c.shared p w = some (db', n) → ReversedOnce lineId c.shared db' n := by
  have hc := settled_run settled_start hrun
  have hserves := serves_requests hrun
  refine ⟨written_nodup hrun, ?_, ?_, ?_⟩
  · intro ms' d hrest id line hline
    exact stands_run hc hrest hline
  · intro id p request side targetId args key w db' n hp hrequest hagainst hkey hnext
    obtain ⟨served, hserved, hpoint⟩ := hserves.calls id p hp
    rw [hrequest] at hserved
    cases hserved
    exact keyedOnce_next hc hp hpoint hagainst hkey hnext
  · intro id p lineId note recordedBy w db' n hp hrequest hnext
    obtain ⟨served, hserved, hpoint⟩ := hserves.calls id p hp
    rw [hrequest] at hserved
    cases hserved
    exact reversedOnce_next hc hp hpoint hnext

section Runs

open Sample

def paidAgain : List (Move Request World) :=
  billed ++
    [.start (.recordPayment charge (keyed keyA)), tick 1, tick 1,
      .start (.recordPayment charge (keyed keyA)), tick 2]

theorem calls_land_once_paidAgain :
    ∃ c target line, machine.run start paidAgain = some c ∧
      c.shared.lookup (payment keyA) = some line ∧
      taken c.shared target = target.amountMinor.asMinor ∧
      (∀ w db' n, next 2 c.shared (.credit target (keyed keyA)) w = some (db', n) →
        db' = c.shared ∧
          (Reply.reads n target (keyed keyA) ∨ n = .answer (.ok (some line)))) := by
  have hend : (machine.run start paidAgain).any (fun c =>
      (c.shared.lookup charge).any fun target => (c.shared.lookup (payment keyA)).any fun line =>
        decide (c.calls.lookup 2 = some (.credit target (keyed keyA)) ∧ target.kind = .charge ∧
          line.amountMinor = hundred ∧
          taken c.shared target = target.amountMinor.asMinor)) = true := by
    decide
  obtain ⟨c, hrun, hcharge⟩ := (Option.any_eq_true _ _).mp hend
  obtain ⟨target, htarget, hpayment⟩ := (Option.any_eq_true _ _).mp hcharge
  obtain ⟨line, hline, hall⟩ := (Option.any_eq_true _ _).mp hpayment
  obtain ⟨hcall, hkind, hamount, htaken⟩ := of_decide_eq_true hall
  refine ⟨c, target, line, hrun, hline, htaken, ?_⟩
  intro w db' n hnext
  have honce := (calls_land_once hrun).2.2.1 2 _ (.recordPayment charge (keyed keyA)) creditSide
    charge (keyed keyA) keyA w db' n hcall rfl rfl rfl hnext
  have hreplayed := honce.replayed target line htarget hkind hline
  rwa [if_pos (show line.amountMinor = (keyed keyA).amountMinor from hamount)] at hreplayed

end Runs

end Hezarfen.Payment
