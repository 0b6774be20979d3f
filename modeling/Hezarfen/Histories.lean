import Hezarfen.Interleaving

/-!
# The edits behind a value

A value under a key is the result of the edits that landed on it, one after another in the
order of their commits.  What a machine lands is read off its moves.  The step obligation is
that a move takes every value through the edits it lands; the run lemma says the same of a
whole run.
-/

namespace Interleaving

section Through

variable {α ε : Type*} {makes : ε → α → α → Prop}

def Through (makes : ε → α → α → Prop) : List ε → α → α → Prop
  | [], v, w => w = v
  | e :: es, v, w => ∃ middle, makes e v middle ∧ Through makes es middle w

theorem Through.single {e : ε} {v w : α} (h : makes e v w) : Through makes [e] v w :=
  ⟨w, h, rfl⟩

theorem Through.append {es es' : List ε} {u v w : α} (h : Through makes es u v)
    (h' : Through makes es' v w) : Through makes (es ++ es') u w := by
  induction es generalizing u with
  | nil =>
      cases h
      exact h'
  | cons e es ih =>
      obtain ⟨middle, he, hes⟩ := h
      exact ⟨middle, he, ih hes⟩

/-- What every edit keeps holds of the last value. -/
theorem Through.keeps {P : α → Prop} (hkeep : ∀ e v w, makes e v w → P v → P w)
    {es : List ε} {v w : α} (h : Through makes es v w) (hv : P v) : P w := by
  induction es generalizing v with
  | nil => exact h ▸ hv
  | cons e es ih =>
      obtain ⟨middle, he, hes⟩ := h
      exact ih hes (hkeep e v middle he hv)

end Through

section Landed

variable {K E V : Type*} [DecidableEq K]

/-- The edits of one key in their order. -/
def editsOf (key : K) (landed : List (K × E)) : List E :=
  (landed.filter fun edit => decide (edit.1 = key)).map Prod.snd

@[simp]
theorem editsOf_nil (key : K) : editsOf key ([] : List (K × E)) = [] := rfl

theorem editsOf_append (key : K) (landed landed' : List (K × E)) :
    editsOf key (landed ++ landed') = editsOf key landed ++ editsOf key landed' := by
  simp [editsOf]

theorem editsOf_single (key key' : K) (edit : E) :
    editsOf key' [(key, edit)] = if key = key' then [edit] else [] := by
  by_cases h : key = key' <;> simp [editsOf, h]

variable {σ ρ κ ε ω : Type*} {M : Machine σ ρ κ ε ω}
  {makes : E → V → V → Prop} {landed : Config σ ρ → Move κ ε → List (K × E)}

theorem Machine.through_run (read : σ → K → Option V) {J : Config σ ρ → Prop}
    {guard : Config σ ρ → Move κ ε → Prop}
    (hkeep : ∀ {c c' m}, J c → guard c m → M.step c m = some c' → J c')
    (hmove : ∀ {c c' m}, J c → guard c m → M.step c m = some c' →
      ∀ k v, read c.shared k = some v → ∃ w, read c'.shared k = some w ∧
        Through makes (editsOf k (landed c m)) v w)
    {c c' : Config σ ρ} {ms : List (Move κ ε)} (hJ : J c) (hguard : M.Guarded guard c ms)
    (hrun : M.run c ms = some c') :
    ∀ k v, read c.shared k = some v → ∃ w, read c'.shared k = some w ∧
      Through makes (editsOf k (M.observe landed c ms)) v w := by
  intro k v hv
  have hlast := Machine.observe_induction (f := landed)
    (J := fun d l => J d ∧ ∃ w, read d.shared k = some w ∧ Through makes (editsOf k l) v w)
    (l := []) (fun {d d' m l} hd hg hstep => by
      obtain ⟨hJd, w, hw, hthrough⟩ := hd
      obtain ⟨w', hw', hthrough'⟩ := hmove hJd hg hstep k w hw
      refine ⟨hkeep hJd hg hstep, w', hw', ?_⟩
      rw [editsOf_append]
      exact hthrough.append hthrough')
    ⟨hJ, v, hv, rfl⟩ hguard hrun
  exact hlast.2

end Landed

end Interleaving
