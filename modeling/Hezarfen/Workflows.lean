import Hezarfen.Requests

/-!
# Workflows

A request that commits one transaction after another: what it has written stays when a later
one refuses.  Such a request is a computation in `EStateM`, whose errors keep the state.  A loop
that went through keeps whatever each of its turns keeps, and an invariant may speak of the
items that are done.
-/

namespace Workflow

variable {ε σ α β : Type}

/-- A gate, which writes nothing. -/
def gate (x : Except ε α) : EStateM ε σ α := fun s =>
  match x with
  | .ok a => .ok a s
  | .error e => .error e s

variable {s s' : σ}

theorem gate_eq_ok {x : Except ε α} {a : α} :
    gate x s = .ok a s' ↔ x = .ok a ∧ s' = s := by
  cases x with
  | error => simp [gate]
  | ok => simp [gate, eq_comm]

theorem bind_eq_ok {x : EStateM ε σ α} {f : α → EStateM ε σ β} {b : β} :
    (x >>= f) s = .ok b s' ↔ ∃ a mid, x s = .ok a mid ∧ f a mid = .ok b s' := by
  change (match x s with
    | .ok a s => f a s
    | .error e s => EStateM.Result.error e s) = _ ↔ _
  cases x s with
  | ok | error => simp

theorem pure_eq_ok {a b : α} :
    (pure a : EStateM ε σ α) s = .ok b s' ↔ a = b ∧ s = s' := by
  change EStateM.Result.ok a s = .ok b s' ↔ _
  simp

theorem throw_eq_ok {e : ε} {b : α} :
    (throw e : EStateM ε σ α) s = .ok b s' ↔ False := by
  change EStateM.Result.error e s = .ok b s' ↔ _
  simp

theorem get_eq_ok {r : σ} :
    (get : EStateM ε σ σ) s = .ok r s' ↔ s = r ∧ s = s' := by
  change EStateM.Result.ok s s = .ok r s' ↔ _
  simp

variable {u : PUnit}

theorem set_eq_ok {r : σ} :
    (set r : EStateM ε σ PUnit) s = .ok u s' ↔ s' = r := by
  change EStateM.Result.ok _ r = .ok u s' ↔ _
  simp [eq_comm]

theorem modify_eq_ok {f : σ → σ} :
    (modify f : EStateM ε σ PUnit) s = .ok u s' ↔ s' = f s := by
  change EStateM.Result.ok _ (f s) = .ok u s' ↔ _
  simp [eq_comm]

theorem forM_rule (Inv : List α → σ → Prop) {f : α → EStateM ε σ PUnit} {items : List α}
    (hstep : ∀ done item rest s s', items = done ++ item :: rest → Inv done s →
      f item s = .ok ⟨⟩ s' → Inv (done ++ [item]) s')
    (hstart : Inv [] s) (h : items.forM f s = .ok u s') : Inv items s' := by
  have hmain : ∀ rest done s, items = done ++ rest → Inv done s →
      rest.forM f s = .ok u s' → Inv items s' := by
    intro rest
    induction rest with
    | nil =>
        intro done s hitems hdone hrun
        obtain ⟨-, rfl⟩ := pure_eq_ok.mp hrun
        rw [hitems, List.append_nil]
        exact hdone
    | cons item rest ih =>
        intro done s hitems hdone hrun
        obtain ⟨_, mid, hitem, hrest⟩ := bind_eq_ok.mp hrun
        exact ih (done ++ [item]) mid (by rw [hitems, List.append_assoc]; rfl)
          (hstep done item rest s mid hitems hdone hitem) hrest
  exact hmain items [] s rfl hstart h

end Workflow
