import Mathlib.Data.List.Induction
import Mathlib.Data.Option.Basic

/-!
# Requests served one after another

A handler is a chain of gates in `Except` that ends in a write.  This module says
what a chain that succeeded has passed, and develops the runs of a system that
serves its requests one at a time: what one request preserves is preserved by a run,
and a property that a request keeps exactly when it meets a condition holds in every
state of a run exactly when every request met the condition where it was served.
-/

namespace Gate

universe u v

variable {ε : Type u} {α β : Type v}

def found (value : Option α) (refusal : ε) : Except ε α :=
  match value with
  | some a => .ok a
  | none => .error refusal

/-- Refused unless the condition holds. -/
def ensure (condition : Bool) (refusal : ε) : Except ε Unit :=
  if condition then .ok () else .error refusal

theorem bind_eq_ok
    {gate : Except ε α} {rest : α → Except ε β} {b : β} :
    (gate >>= rest) = .ok b ↔ ∃ a, gate = .ok a ∧ rest a = .ok b := by
  cases gate with
  | error => simp only [bind, Except.bind, reduceCtorEq, false_and, exists_false]
  | ok => simp only [bind, Except.bind, Except.ok.injEq, exists_eq_left']

@[simp]
theorem pure_eq_ok {a b : α} : (pure a : Except ε α) = .ok b ↔ a = b := by
  simp [pure, Except.pure]

@[simp]
theorem found_eq_ok {value : Option α} {refusal : ε} {a : α} :
    found value refusal = .ok a ↔ value = some a := by
  cases value <;> simp [found]

@[simp]
theorem ensure_eq_ok {condition : Bool} {refusal : ε} {u : Unit} :
    ensure condition refusal = .ok u ↔ condition = true := by
  cases condition <;> simp [ensure]

@[simp]
theorem mapError_eq_ok {ε' : Type*} {f : ε → ε'} {gate : Except ε α} {a : α} :
    gate.mapError f = .ok a ↔ gate = .ok a := by
  cases gate <;> simp [Except.mapError]

theorem mapM_eq_ok
    {gate : α → Except ε β} {g : α → β} (hgate : ∀ a b, gate a = .ok b → b = g a)
    {inputs : List α} {outputs : List β} (h : inputs.mapM gate = .ok outputs) :
    outputs = inputs.map g := by
  induction inputs generalizing outputs with
  | nil =>
      rw [List.mapM_nil, pure_eq_ok] at h
      exact h.symm
  | cons a inputs ih =>
      rw [List.mapM_cons] at h
      simp only [bind_eq_ok, pure_eq_ok] at h
      obtain ⟨b, hb, rest, hrest, rfl⟩ := h
      rw [hgate a b hb, ih hrest, List.map_cons]

end Gate

namespace Sequential

variable {σ ρ : Type*} (step : ρ → σ → σ)

def run (s : σ) (requests : List ρ) : σ := requests.foldl (fun s r => step r s) s

def Meets (condition : σ → ρ → Prop) (s : σ) : List ρ → Prop
  | [] => True
  | r :: rest => condition s r ∧ Meets condition (step r s) rest

instance decidableMeets (condition : σ → ρ → Prop) [∀ s r, Decidable (condition s r)] :
    ∀ (s : σ) (requests : List ρ), Decidable (Meets step condition s requests)
  | _, [] => isTrue trivial
  | s, r :: rest =>
      have : Decidable (Meets step condition (step r s) rest) := by
        exact decidableMeets condition (step r s) rest
      inferInstanceAs (Decidable (condition s r ∧ Meets step condition (step r s) rest))

def observe {α : Type*} (f : σ → ρ → List α) (s : σ) : List ρ → List α
  | [] => []
  | r :: rest => f s r ++ observe f (step r s) rest

variable {step} {s : σ} {condition : σ → ρ → Prop} {holds : σ → Prop}

@[simp]
theorem run_nil : run step s [] = s := rfl

@[simp]
theorem run_cons (r : ρ) (rest : List ρ) :
    run step s (r :: rest) = run step (step r s) rest := rfl

theorem run_append (before after : List ρ) :
    run step s (before ++ after) = run step (run step s before) after := by
  simp [run]

theorem run_invariant
    {requests : List ρ} (hstep : ∀ s r, holds s → holds (step r s)) (hstart : holds s) :
    holds (run step s requests) := by
  induction requests generalizing s with
  | nil => exact hstart
  | cons r rest ih => exact ih (hstep s r hstart)

theorem observe_induction
    {α : Type*} {f : σ → ρ → List α} {J : σ → List α → Prop} {requests : List ρ} {l : List α}
    (hstep : ∀ s r l, condition s r → J s l → J (step r s) (l ++ f s r))
    (hmeets : Meets step condition s requests) (hstart : J s l) :
    J (run step s requests) (l ++ observe step f s requests) := by
  induction requests generalizing s l with
  | nil => simpa [observe] using hstart
  | cons r rest ih =>
      have hrest := ih hmeets.2 (hstep s r l hmeets.1 hstart)
      simpa [observe, List.append_assoc] using hrest

theorem meets_true (s : σ) (requests : List ρ) :
    Meets step (fun _ _ => True) s requests := by
  induction requests generalizing s with
  | nil => trivial
  | cons r rest ih => exact ⟨trivial, ih _⟩

theorem meets_append {before after : List ρ} :
    Meets step condition s (before ++ after) ↔
      Meets step condition s before ∧ Meets step condition (run step s before) after := by
  induction before generalizing s with
  | nil => simp [Meets]
  | cons r rest ih => simp [Meets, ih, and_assoc]

theorem always_iff_meets
    {requests : List ρ} {base : σ → Prop} (hbase : ∀ s r, base s → base (step r s))
    (hexact : ∀ s r, base s → holds s → (holds (step r s) ↔ condition s r))
    (hstart : base s) (hholds : holds s) :
    (∀ before, before <+: requests → holds (run step s before)) ↔
      Meets step condition s requests := by
  induction requests generalizing s with
  | nil =>
      simp only [Meets, iff_true]
      intro before hprefix
      rw [List.prefix_nil.mp hprefix]
      exact hholds
  | cons r rest ih =>
      have hone : holds (step r s) ↔ condition s r := hexact s r hstart hholds
      constructor
      · intro halways
        have hnext : holds (step r s) := halways [r] ⟨rest, rfl⟩
        refine ⟨hone.mp hnext, (ih (hbase s r hstart) hnext).mp ?_⟩
        intro before hprefix
        exact halways (r :: before) (List.cons_prefix_cons.mpr ⟨rfl, hprefix⟩)
      · rintro ⟨hmeets, hrest⟩ before hprefix
        have hnext : holds (step r s) := hone.mpr hmeets
        cases before with
        | nil => exact hholds
        | cons first before =>
            obtain ⟨rfl, htail⟩ := List.cons_prefix_cons.mp hprefix
            exact (ih (hbase s first hstart) hnext).mpr hrest before htail

end Sequential
