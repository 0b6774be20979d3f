import Hezarfen.Interleaving
import Hezarfen.ReadCommitted

/-!
# Calls that run one transaction each

The rely-guarantee rule for calls whose rows are held in a READ COMMITTED store.  What
one transaction does is `apart` from the rows of the others, so the assertions of the
others need a single stability proof.  A call that is not in flight holds nothing.
-/

namespace Interleaving

variable {σ ρ κ ε ω : Type*}

/-- The store satisfies `I`, every call in flight its assertion, and every other call
number is idle. -/
structure Config.Runs (I : σ → Prop) (P : ℕ → ρ → σ → Prop) (Idle : ℕ → σ → Prop)
    (c : Config σ ρ) : Prop where
  shared : I c.shared
  numbered : ∀ id p, c.calls.lookup id = some p → id < c.started
  calls : ∀ id p, c.calls.lookup id = some p → P id p c.shared
  idle : ∀ id, c.calls.lookup id = none → Idle id c.shared

theorem Config.initial_runs {I : σ → Prop} {P : ℕ → ρ → σ → Prop} {Idle : ℕ → σ → Prop}
    {s : σ} (hs : I s) (hidle : ∀ id, Idle id s) : (Config.initial s).Runs I P Idle where
  shared := hs
  numbered := fun id p hp => by simp [Config.initial] at hp
  calls := fun id p hp => by simp [Config.initial] at hp
  idle := fun id _ => hidle id

structure Machine.Transactional (M : Machine σ ρ κ ε ω)
    (guard : Config σ ρ → Move κ ε → Prop) (I : σ → Prop) (P : ℕ → ρ → σ → Prop)
    (Idle : ℕ → σ → Prop) (apart : ℕ → σ → σ → Prop) : Prop where
  entry : ∀ {id s} request, I s → Idle id s → P id (M.entry request) s
  own : ∀ {c : Config σ ρ} {id choice p s n}, guard c (.advance id choice) →
    c.calls.lookup id = some p → M.next id c.shared p choice = some (s, n) →
    I c.shared → P id p c.shared →
    I s ∧ (∀ q, n = .goto q → P id q s) ∧ (∀ a, n = .answer a → Idle id s)
  next_apart : ∀ {id s p choice s' n}, M.next id s p choice = some (s', n) → I s → P id p s →
    apart id s s'
  rollback : ∀ {id s}, I s →
    I (M.rollback id s) ∧ Idle id (M.rollback id s) ∧ apart id s (M.rollback id s)
  stable : ∀ {id id' q s s'}, id' ≠ id → apart id s s' → I s → I s' → P id' q s → P id' q s'
  idle : ∀ {id id' s s'}, id' ≠ id → apart id s s' → Idle id' s → Idle id' s'

namespace Machine.Transactional

variable {M : Machine σ ρ κ ε ω} {guard : Config σ ρ → Move κ ε → Prop}
  {I : σ → Prop} {P : ℕ → ρ → σ → Prop} {Idle : ℕ → σ → Prop} {apart : ℕ → σ → σ → Prop}

theorem runs_start (h : M.Transactional guard I P Idle apart) {c : Config σ ρ}
    (hc : c.Runs I P Idle) (request : κ) :
    ({ c with
        calls := c.calls.insert c.started (M.entry request)
        started := c.started + 1 } : Config σ ρ).Runs I P Idle := by
  have hfresh : c.calls.lookup c.started = none := by
    cases hlookup : c.calls.lookup c.started with
    | none => rfl
    | some p => exact absurd (hc.numbered _ p hlookup) (Nat.lt_irrefl _)
  constructor
  · exact hc.shared
  · intro id p hp
    rw [lookup_insert_eq] at hp
    split at hp
    · next hid => exact hid ▸ Nat.lt_succ_self _
    · exact Nat.lt_succ_of_lt (hc.numbered id p hp)
  · intro id p hp
    obtain ⟨rfl, rfl⟩ | ⟨-, hp⟩ := insert_cases hp
    · exact h.entry request hc.shared (hc.idle _ hfresh)
    · exact hc.calls id p hp
  · intro id hnone
    rw [lookup_insert_eq] at hnone
    split at hnone
    · cases hnone
    · exact hc.idle id hnone

theorem runs_advance (h : M.Transactional guard I P Idle apart) {c : Config σ ρ}
    (hc : c.Runs I P Idle) {id : ℕ} {choice : ε} {p : ρ} {s : σ} {n : Next ρ ω}
    (hguard : guard c (.advance id choice)) (hp : c.calls.lookup id = some p)
    (hnext : M.next id c.shared p choice = some (s, n)) :
    (c.after id s n).Runs I P Idle := by
  obtain ⟨hI, hgoto, hanswer⟩ := h.own hguard hp hnext hc.shared (hc.calls id p hp)
  have hapart := h.next_apart hnext hc.shared (hc.calls id p hp)
  constructor
  · rwa [Config.shared_after]
  · intro id' q hq
    have hstarted : (c.after id s n).started = c.started := by cases n <;> rfl
    rw [hstarted]
    rcases Config.lookup_after hq with ⟨-, hold⟩ | ⟨rfl, -⟩
    · exact hc.numbered id' q hold
    · exact hc.numbered id' p hp
  · intro id' q hq
    rw [Config.shared_after]
    rcases Config.lookup_after hq with ⟨hne, hold⟩ | ⟨rfl, rfl⟩
    · exact h.stable hne hapart hc.shared hI (hc.calls id' q hold)
    · exact hgoto q rfl
  · intro id' hnone
    rw [Config.shared_after]
    by_cases hid : id' = id
    · subst hid
      cases n with
      | goto => simp [Config.after] at hnone
      | answer a => exact hanswer a rfl
    · rw [Config.lookup_after_ne s n hid] at hnone
      exact h.idle hid hapart (hc.idle id' hnone)

theorem runs_abandon (h : M.Transactional guard I P Idle apart) {c : Config σ ρ}
    (hc : c.Runs I P Idle) (id : ℕ) :
    ({ c with
        shared := M.rollback id c.shared
        calls := c.calls.erase id } : Config σ ρ).Runs I P Idle := by
  have hrollback : I (M.rollback id c.shared) ∧ Idle id (M.rollback id c.shared) ∧
      apart id c.shared (M.rollback id c.shared) := h.rollback hc.shared
  obtain ⟨hI, hidle, hapart⟩ := hrollback
  constructor
  · exact hI
  · intro id' q hq
    obtain ⟨-, hq⟩ := erase_cases hq
    exact hc.numbered id' q hq
  · intro id' q hq
    obtain ⟨hne, hq⟩ := erase_cases hq
    exact h.stable hne hapart hc.shared hI (hc.calls id' q hq)
  · intro id' hnone
    rw [lookup_erase_eq] at hnone
    split at hnone
    · next hid => exact hid ▸ hidle
    · next hne => exact h.idle hne hapart (hc.idle id' hnone)

theorem runs_step (h : M.Transactional guard I P Idle apart) {c c' : Config σ ρ}
    {m : Move κ ε} (hc : c.Runs I P Idle) (hguard : guard c m) (hstep : M.step c m = some c') :
    c'.Runs I P Idle := by
  obtain ⟨request, rfl, rfl⟩ | ⟨id, choice, p, s, n, rfl, hp, hnext, rfl⟩ |
    ⟨id, p, rfl, -, rfl⟩ := step_cases hstep
  · exact h.runs_start hc request
  · exact h.runs_advance hc hguard hp hnext
  · exact h.runs_abandon hc id

theorem runs_run (h : M.Transactional guard I P Idle apart) {c c' : Config σ ρ}
    {ms : List (Move κ ε)} (hc : c.Runs I P Idle) (hguard : M.Guarded guard c ms)
    (hrun : M.run c ms = some c') : c'.Runs I P Idle :=
  run_induction (J := Config.Runs I P Idle) (fun hc hg hs => h.runs_step hc hg hs)
    hc hguard hrun

end Machine.Transactional

end Interleaving
