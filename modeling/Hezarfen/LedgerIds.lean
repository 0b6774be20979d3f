import Hezarfen.MealDomain
import Hezarfen.PaymentReplay
import Hezarfen.PrefixCodes

/-!
# The ids of the two ledgers name their causes

An id of the fee ledger is the id of a charge or a fresh uuid, followed by what was
applied to it: a keyed payment, a keyed refund or a reversal, each under its marker.  A
marker is no uuid and tells how many parts it owns, so the parts read back from the left
even though a request key may spell a marker, a number or a uuid itself.  An id of the
meal ledger is read from the right.
-/

namespace Hezarfen

/-- A text that is too short is no uuid. -/
theorem Uuid.ne_of_length (uuid : Uuid) {s : String} (hs : s.toList.length ≠ 36) :
    uuid.hyphenated ≠ s := by
  intro h
  have hcanonical := uuid.canonical
  simp only [Uuid.isCanonical, Bool.and_eq_true, beq_iff_eq] at hcanonical
  exact hs (h ▸ hcanonical.1)

theorem PaymentRequestKey.ext_asStr {a b : PaymentRequestKey} (h : a.asStr = b.asStr) :
    a = b := by
  cases a
  cases b
  simpa using h

namespace Payment

open Interleaving

/-! ## Causes -/

/-- Why a line of the fee ledger is written.  A payment stands against a charge and a
refund against a payment; the ids need no such rule, so the targets are any lines. -/
inductive LineCause where
  | charge (assignment : FeePlanAssignmentId) (n : ℕ)
  | fresh (uuid : Uuid)
  | credit (target : LineCause) (key : PaymentRequestKey)
  | refund (target : LineCause) (key : PaymentRequestKey)
  | reversal (line : LineCause)

def LineCause.id : LineCause → PaymentLedgerId
  | .charge assignment n => .forInstallment assignment n
  | .fresh uuid => .generate uuid
  | .credit target key => .forRequest target.id creditSide.marker key
  | .refund target key => .forRequest target.id refundSide.marker key
  | .reversal line => .forReversal line.id

/-- Where the chain of targets ends. -/
inductive Root where
  | charge (assignment : FeePlanAssignmentId) (n : ℕ)
  | fresh (uuid : Uuid)

inductive Applied where
  | credit (key : PaymentRequestKey)
  | refund (key : PaymentRequestKey)
  | reversal

def LineCause.root : LineCause → Root
  | .charge assignment n => .charge assignment n
  | .fresh uuid => .fresh uuid
  | .credit target _ => target.root
  | .refund target _ => target.root
  | .reversal line => line.root

def LineCause.path : LineCause → List Applied
  | .charge _ _ => []
  | .fresh _ => []
  | .credit target key => target.path ++ [.credit key]
  | .refund target key => target.path ++ [.refund key]
  | .reversal line => line.path ++ [.reversal]

theorem LineCause.eq_of_path_nil
    {c d : LineCause} (hc : c.path = []) (hd : d.path = []) (hroot : c.root = d.root) :
    c = d := by
  cases c <;> cases d <;> simp_all [LineCause.path, LineCause.root]

theorem LineCause.eq_of_root_path
    {c d : LineCause} (hroot : c.root = d.root) (hpath : c.path = d.path) : c = d := by
  induction c generalizing d with
  | charge | fresh => exact eq_of_path_nil rfl hpath.symm hroot
  | credit target key ih =>
      cases d <;> simp [LineCause.path] at hpath
      case credit target' key' =>
        rw [ih (d := target') hroot hpath.1, hpath.2]
  | refund target key ih =>
      cases d <;> simp [LineCause.path] at hpath
      case refund target' key' =>
        rw [ih (d := target') hroot hpath.1, hpath.2]
  | reversal line ih =>
      cases d <;> simp [LineCause.path] at hpath
      case reversal line' =>
        rw [ih (d := line') hroot hpath]

def Root.parts : Root → List String
  | .charge assignment n =>
      [assignment.plan.key, assignment.student.key, "c" ++ n.repr]
  | .fresh uuid => [uuid.hyphenated]

def Applied.parts : Applied → List String
  | .credit key => [creditSide.marker, key.asStr]
  | .refund key => [refundSide.marker, key.asStr]
  | .reversal => ["r"]

theorem Applied.isPrefixCode : PrefixCode.IsPrefixCode Applied.parts where
  ne_nil := by
    intro a
    cases a <;> simp [Applied.parts]
  head := by
    intro a b x y h
    cases a <;> cases b <;> simp [Applied.parts, creditSide, refundSide] at h
    case credit.credit => rw [PaymentRequestKey.ext_asStr h.1]
    case refund.refund => rw [PaymentRequestKey.ext_asStr h.1]
    case reversal.reversal => rfl

theorem Applied.parts_ne_uuid
    (word : List Applied) (uuid : Uuid) (rest : List String) :
    word.flatMap Applied.parts ≠ uuid.hyphenated :: rest := by
  intro h
  cases word with
  | nil => simp at h
  | cons a =>
      have hmarker : ∃ marker : String, marker.toList.length ≠ 36 ∧
          uuid.hyphenated = marker := by
        cases a <;> simp only [List.flatMap_cons, Applied.parts, List.cons_append,
          List.nil_append, List.cons.injEq] at h
        · exact ⟨_, by decide, h.1.symm⟩
        · exact ⟨_, by decide, h.1.symm⟩
        · exact ⟨_, by decide, h.1.symm⟩
      obtain ⟨marker, hlength, huuid⟩ := hmarker
      exact uuid.ne_of_length hlength huuid

theorem Root.parts_inj
    (c d : Root) (word word' : List Applied)
    (h : c.parts ++ word.flatMap Applied.parts = d.parts ++ word'.flatMap Applied.parts) :
    c = d := by
  cases c with
  | charge assignment =>
      cases d with
      | charge assignment' =>
          obtain ⟨⟨plan⟩, ⟨student⟩⟩ := assignment
          obtain ⟨⟨plan'⟩, ⟨student'⟩⟩ := assignment'
          simp only [Root.parts, FeePlanId.key, UserId.key, List.cons_append,
            List.nil_append, List.cons.injEq] at h
          obtain ⟨hplan, hstudent, hnumber, -⟩ := h
          rw [Uuid.ext_hyphenated hplan, Uuid.ext_hyphenated hstudent,
            Text.natRepr_injective ((String.append_right_inj _).mp hnumber)]
      | fresh uuid =>
          simp only [Root.parts, List.cons_append, List.nil_append, List.cons.injEq] at h
          exact absurd h.2.symm (Applied.parts_ne_uuid word' assignment.student.uuid _)
  | fresh uuid =>
      cases d with
      | charge assignment =>
          simp only [Root.parts, List.cons_append, List.nil_append, List.cons.injEq] at h
          exact absurd h.2 (Applied.parts_ne_uuid word assignment.student.uuid _)
      | fresh =>
          simp only [Root.parts, List.cons_append, List.nil_append, List.cons.injEq] at h
          rw [Uuid.ext_hyphenated h.1]

theorem parts_forRequest
    (target : PaymentLedgerId) {marker : String} (hmarker : Text.Lacks '_' marker)
    (key : PaymentRequestKey) :
    Text.parts '_' (PaymentLedgerId.forRequest target marker key).key =
      Text.parts '_' target.key ++ [marker, key.asStr] := by
  calc
    Text.parts '_' (target.key ++ "_" ++ marker ++ "_" ++ key.asStr) =
        Text.parts '_' (target.key ++ "_" ++ marker) ++ [key.asStr] :=
      Text.parts_join _ key.lacks_underscore
    _ = Text.parts '_' target.key ++ [marker] ++ [key.asStr] := by
      rw [show Text.parts '_' (target.key ++ "_" ++ marker) = _ from Text.parts_join _ hmarker]
    _ = Text.parts '_' target.key ++ [marker, key.asStr] := by simp

theorem parts_forInstallment (assignment : FeePlanAssignmentId) (n : ℕ) :
    Text.parts '_' (PaymentLedgerId.forInstallment assignment n).key =
      [assignment.plan.key, assignment.student.key, "c" ++ n.repr] := by
  have hnumber : Text.Lacks '_' ("c" ++ n.repr) :=
    Text.Lacks.append (by decide) (Text.lacks_natRepr rfl n)
  have hplan : Text.parts '_' assignment.plan.key = [assignment.plan.key] :=
    Text.parts_of_lacks assignment.plan.uuid.lacks_underscore
  have hkey : Text.parts '_' assignment.key = [assignment.plan.key, assignment.student.key] := by
    rw [show Text.parts '_' assignment.key = _ from
      Text.parts_join _ assignment.student.uuid.lacks_underscore, hplan]
    rfl
  rw [show Text.parts '_' (PaymentLedgerId.forInstallment assignment n).key = _ from
    Text.parts_join _ hnumber, hkey]
  rfl

theorem LineCause.parts_id (c : LineCause) :
    Text.parts '_' c.id.key = c.root.parts ++ c.path.flatMap Applied.parts := by
  induction c with
  | charge assignment n =>
      rw [show LineCause.id (.charge assignment n) = .forInstallment assignment n from rfl,
        parts_forInstallment]
      rfl
  | fresh uuid =>
      exact Text.parts_of_lacks uuid.lacks_underscore
  | credit target key ih | refund target key ih =>
      rw [LineCause.id, parts_forRequest _ (by decide), ih]
      simp [LineCause.root, LineCause.path, Applied.parts]
  | reversal line ih =>
      rw [LineCause.id, show Text.parts '_' (PaymentLedgerId.forReversal line.id).key = _ from
        Text.parts_join _ (by decide), ih]
      simp [LineCause.root, LineCause.path, Applied.parts]

theorem LineCause.id_injective : Function.Injective LineCause.id := by
  intro c d h
  have hparts : c.root.parts ++ c.path.flatMap Applied.parts =
      d.root.parts ++ d.path.flatMap Applied.parts := by
    rw [← c.parts_id, ← d.parts_id, h]
  obtain ⟨hroot, hpath⟩ := Applied.isPrefixCode.headed_injective Root.parts_inj hparts
  exact eq_of_root_path hroot hpath

def Caused (db : Db) : Prop :=
  ∀ line, db.lookup line.id = some line → ∃ cause : LineCause, cause.id = line.id

theorem againstLine_caused
    {side : Side} (hside : side = creditSide ∨ side = refundSide) {target : PaymentLedger}
    (htarget : ∃ cause : LineCause, cause.id = target.id) (args : AgainstArgs) (w : World) :
    ∃ cause : LineCause, cause.id = (againstLine side target args w).id := by
  obtain ⟨cause, hcause⟩ := htarget
  cases hkey : args.requestKey with
  | none => exact ⟨.fresh w.uuid, by simp [againstLine, hkey, LineCause.id]⟩
  | some key =>
      rcases hside with rfl | rfl
      · exact ⟨.credit cause key, by simp [againstLine, hkey, LineCause.id, hcause]⟩
      · exact ⟨.refund cause key, by simp [againstLine, hkey, LineCause.id, hcause]⟩

theorem Admitted.caused
    {db : Db} (hdb : Caused db) {row : PaymentLedger} (hrow : Admitted db row) :
    ∃ cause : LineCause, cause.id = row.id := by
  cases hrow with
  | charge assignment n hid => exact ⟨.charge assignment n, hid.symm⟩
  | against hside _ hroom => exact againstLine_caused hside (hdb _ hroom.stored) _ _
  | reversal hstored _ =>
      obtain ⟨cause, hcause⟩ := hdb _ hstored
      exact ⟨.reversal cause, by simp [reversalLine, LineCause.id, hcause]⟩

theorem Caused.appends {db db' : Db} (hdb : Caused db) (h : Appends db db') : Caused db' := by
  obtain rfl | ⟨row, -, hrow, rfl⟩ := h
  · exact hdb
  · intro line hline
    by_cases hid : line.id = row.id
    · rw [hid]
      exact hrow.caused hdb
    · rw [lookup_insert_eq, if_neg hid] at hline
      exact hdb line hline

/-- Every stored line has one cause, and its id spells it. -/
theorem caused_run
    {ms : List (Move Request World)} {c : Config Db Point}
    (hrun : machine.run start ms = some c) {line : PaymentLedger}
    (hline : c.shared.lookup line.id = some line) :
    ∃! cause : LineCause, cause.id = line.id := by
  have hend : Settled c ∧ Caused c.shared := by
    refine Machine.run_induction (J := fun c => Settled c ∧ Caused c.shared) ?_
      ⟨settled_start, fun line hline => by cases hline⟩ (Machine.guarded_true _ _) hrun
    rintro c d m ⟨hc, hcaused⟩ - hstep
    exact ⟨hc.step hstep, hcaused.appends (hc.appends hstep)⟩
  obtain ⟨cause, hcause⟩ := hend.2 line hline
  exact ⟨cause, hcause, fun other hother => LineCause.id_injective (hother.trans hcause.symm)⟩

theorem caused_run_refundReversed :
    ∃ c line, machine.run start Sample.refundReversed = some c ∧
      c.shared.lookup line.id = some line ∧ ∃! cause : LineCause, cause.id = line.id := by
  obtain ⟨c, charge, hrun, hcharge, -⟩ := Sample.refundReversed_run
  exact ⟨c, charge, hrun, hcharge, caused_run hrun hcharge⟩

end Payment

namespace Meal

/-! ## The meal ledger -/

inductive LineCause where
  | charge (booking : MealBookingId) (attempt : ℤ)
  | reversal (booking : MealBookingId) (attempt : ℤ)
  | credit (student : UserId) (key : PaymentRequestKey)
  | fresh (uuid : Uuid)

def LineCause.id : LineCause → MealLedgerId
  | .charge booking attempt => .forAttempt booking attempt .charge
  | .reversal booking attempt => .forAttempt booking attempt .reversal
  | .credit student key => .forRequest student key
  | .fresh uuid => .generate uuid

theorem forRequest_inj
    {student student' : UserId} {key key' : PaymentRequestKey}
    (h : MealLedgerId.forRequest student key = .forRequest student' key') :
    student = student' ∧ key = key' := by
  obtain ⟨hstudent, hkey⟩ := Text.join_inj '_' key.lacks_underscore key'.lacks_underscore
    (congrArg MealLedgerId.key h)
  have huuid := Uuid.ext_hyphenated ((String.append_left_inj "_k").mp hstudent)
  cases student
  cases student'
  exact ⟨congrArg UserId.mk huuid, PaymentRequestKey.ext_asStr hkey⟩

theorem forRequest_ne_generate
    (student : UserId) (key : PaymentRequestKey) (uuid : Uuid) :
    MealLedgerId.forRequest student key ≠ .generate uuid := by
  intro h
  have hkey : student.key ++ "_k" ++ "_" ++ key.asStr = uuid.hyphenated :=
    congrArg MealLedgerId.key h
  exact Payment.not_lacks_join _ _ (hkey ▸ uuid.lacks_underscore)

theorem LineCause.id_injective : Function.Injective LineCause.id := by
  intro c d h
  cases c with
  | charge =>
      cases d with
      | charge =>
          obtain ⟨rfl, rfl, -⟩ := MealLedgerId.forAttempt_inj h
          rfl
      | reversal => cases (MealLedgerId.forAttempt_inj h).2.2
      | credit => exact absurd h (MealLedgerId.forAttempt_ne_forRequest _ _ _ _ _)
      | fresh => exact absurd h (MealLedgerId.forAttempt_ne_generate _ _ _ _)
  | reversal =>
      cases d with
      | charge => cases (MealLedgerId.forAttempt_inj h).2.2
      | reversal =>
          obtain ⟨rfl, rfl, -⟩ := MealLedgerId.forAttempt_inj h
          rfl
      | credit => exact absurd h (MealLedgerId.forAttempt_ne_forRequest _ _ _ _ _)
      | fresh => exact absurd h (MealLedgerId.forAttempt_ne_generate _ _ _ _)
  | credit =>
      cases d with
      | charge | reversal =>
          exact absurd h.symm (MealLedgerId.forAttempt_ne_forRequest _ _ _ _ _)
      | credit =>
          obtain ⟨rfl, rfl⟩ := forRequest_inj h
          rfl
      | fresh => exact absurd h (forRequest_ne_generate _ _ _)
  | fresh =>
      cases d with
      | charge | reversal =>
          exact absurd h.symm (MealLedgerId.forAttempt_ne_generate _ _ _ _)
      | credit => exact absurd h.symm (forRequest_ne_generate _ _ _)
      | fresh => rw [Uuid.ext_hyphenated (congrArg MealLedgerId.key h)]

theorem forSlot_inj
    {date date' : MenuDate} {slot slot' : MenuSlot}
    (h : MenuId.forSlot date slot = .forSlot date' slot') : date = date' ∧ slot = slot' := by
  have hwidth : ∀ date : MenuDate, date.asStr.toList.length = 10 := by
    intro date
    have hday := date.calendarDay
    unfold parseDay at hday
    split at hday
    · next hlist => rw [hlist]; rfl
    · cases hday
  have hlist := congrArg (fun id => id.key.toList) h
  simp only [MenuId.forSlot, String.toList_append, List.append_assoc] at hlist
  obtain ⟨hdate, hslot⟩ := List.append_inj hlist ((hwidth date).trans (hwidth date').symm)
  cases date
  cases date'
  cases slot
  cases slot'
  simp_all [String.toList_inj]

end Meal

/-- No two causes meet in one id of their ledger, and a seat's menu names its day and slot. -/
theorem lineIds_injective :
    Function.Injective Payment.LineCause.id ∧ Function.Injective Meal.LineCause.id ∧
      ∀ date slot date' slot',
        Meal.MenuId.forSlot date slot = .forSlot date' slot' → date = date' ∧ slot = slot' :=
  ⟨Payment.LineCause.id_injective, Meal.LineCause.id_injective, fun _ _ _ _ => Meal.forSlot_inj⟩

end Hezarfen
