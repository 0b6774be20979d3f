import Hezarfen.Table
import Hezarfen.Text

/-!
# Identifiers, errors and transactions

The parts every subsystem shares: uuids in their hyphenated form, instants in
milliseconds, the 64-bit saturating arithmetic of the deadline checks, the error
type of the services, and `tx_with_retry`.  A transaction runs on the committed
store and its writes become durable exactly when its closure answers `Ok`; the
rounds lost to contention wrote nothing, so a retried transaction is one atomic
step.
-/

namespace Hezarfen

/-- Lower-case hexadecimal digits in the 8-4-4-4-12 grouping. -/
def Uuid.isCanonical (text : String) : Bool :=
  text.toList.length == 36 &&
    text.toList.zipIdx.all fun (c, i) =>
      if i = 8 ∨ i = 13 ∨ i = 18 ∨ i = 23 then c == '-'
      else c.isDigit || ('a' ≤ c && c ≤ 'f')

/-- A uuid, given by the text its `Display` writes. -/
structure Uuid where
  hyphenated : String
  canonical : Uuid.isCanonical hyphenated = true
  deriving DecidableEq

/-- The ids of the examples, which differ in their last four digits. -/
def Uuid.ending (digits : String)
    (h : Uuid.isCanonical ("018f1a00-0000-7000-8000-00000000" ++ digits) = true := by
      exact Eq.refl true) : Uuid :=
  ⟨"018f1a00-0000-7000-8000-00000000" ++ digits, h⟩

theorem Uuid.ext_hyphenated {a b : Uuid} (h : a.hyphenated = b.hyphenated) : a = b := by
  cases a
  cases b
  simpa using h

theorem Uuid.lacks_underscore (id : Uuid) : Text.Lacks '_' id.hyphenated := by
  intro hmem
  have hcanonical := id.canonical
  simp only [isCanonical, Bool.and_eq_true, List.all_eq_true] at hcanonical
  obtain ⟨i, hi, hget⟩ := List.getElem_of_mem hmem
  have hchar := hcanonical.2 ('_', i)
    (List.mem_zipIdx_iff_getElem?.mpr (by simp [List.getElem?_eq_getElem hi, hget]))
  have hhex : ¬ ('_'.isDigit || ('a' ≤ '_' && '_' ≤ 'f')) = true := by decide
  have hdash : ¬ ('_' == '-') = true := by decide
  dsimp only at hchar
  split at hchar
  · exact hdash hchar
  · exact hhex hchar

structure UserId where
  uuid : Uuid
  deriving DecidableEq

def UserId.key (id : UserId) : String := id.uuid.hyphenated

/-- The identity of a school on the registry. -/
structure SchoolId where
  uuid : Uuid
  deriving DecidableEq

abbrev Timestamp := ℤ

/-- The saturation of the `i64` arithmetic. -/
def clampI64 (n : ℤ) : ℤ := max (-2 ^ 63) (min n (2 ^ 63 - 1))

def saturatingMul (a b : ℤ) : ℤ := clampI64 (a * b)

def saturatingAdd (a b : ℤ) : ℤ := clampI64 (a + b)

def saturatingSub (a b : ℤ) : ℤ := clampI64 (a - b)

def InI64 (n : ℤ) : Prop := -2 ^ 63 ≤ n ∧ n ≤ 2 ^ 63 - 1

instance (n : ℤ) : Decidable (InI64 n) := inferInstanceAs (Decidable (_ ∧ _))

theorem clampI64_eq_iff {n : ℤ} : clampI64 n = n ↔ InI64 n := by
  unfold clampI64 InI64
  omega

/-- Arithmetic that is not checked; an overflow gives nothing. -/
def plainI64 (n : ℤ) : Option ℤ := if clampI64 n = n then some n else none

theorem plainI64_of_inI64 {n : ℤ} (h : InI64 n) : plainI64 n = some n :=
  if_pos (clampI64_eq_iff.mpr h)

inductive ValidationError where
  | empty (field : String)
  | tooLong (field : String) (max got : ℕ)
  | invalid (field reason : String)
  | unknown (field value : String)
  | contradictory (field value : String)
  deriving DecidableEq

inductive AppError where
  | validation (error : ValidationError)
  | notFound
  | forbidden (message : String)
  | conflict (message : String)
  | conflictOwned (message : String)
  /-- A store error, such as a foreign key that is gone. -/
  | db
  | internal (message : String)
  deriving DecidableEq

/-- The verdict of a counted claim. -/
inductive Claimed (α : Type*) where
  | made (row : α)
  | full
  | duplicate

abbrev Tx (σ α : Type*) := σ → Except AppError (α × σ)

/-- Commits exactly when the closure answers `Ok`. -/
def txWithRetry {σ α : Type*} (f : Tx σ α) (s : σ) : Except AppError α × σ :=
  match f s with
  | .ok (a, s') => (.ok a, s')
  | .error e => (.error e, s)

theorem txWithRetry_cases
    {σ α : Type*} {f : Tx σ α} {s s' : σ} {r : Except AppError α}
    (h : txWithRetry f s = (r, s')) :
    (∃ a, r = .ok a ∧ f s = .ok (a, s')) ∨ (∃ e, r = .error e ∧ f s = .error e ∧ s' = s) := by
  unfold txWithRetry at h
  split at h
  · next a t hf =>
    cases h
    exact .inl ⟨a, rfl, hf⟩
  · next e hf =>
    cases h
    exact .inr ⟨e, rfl, hf, rfl⟩

def capWriteTries : ℕ := 8

end Hezarfen
