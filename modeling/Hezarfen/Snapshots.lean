import Hezarfen.ReadCommitted
import Mathlib.Algebra.Order.Group.Int

/-!
# What a statement finds and what a transaction may remember

A statement over many rows works on the rows that it found when it began.  Between two
statements the others commit, so of what was read only little may be relied on: a column
that no statement writes, and that a key is not used again.
-/

namespace ReadCommitted

variable {tx : ℕ}

namespace Rows

variable {K V α : Type*}

def visible (tx : ℕ) (t : Rows K V) (p : K → V → Bool) : List (K × V) :=
  t.entries.filterMap fun e =>
    ((e.2.seen tx).filter (p e.1)).map fun v => (e.1, v)

theorem count_visible [DecidableEq α] (tx : ℕ) (t : Rows K V) (p : K → V → Bool) (f : V → α)
    (a : α) :
    (((t.visible tx p).map fun e => f e.2).count a : ℤ) =
      total (fun k v => if p k v && decide (f v = a) then 1 else 0) (commit tx t) := by
  unfold visible total commit
  rw [Table.sum_update]
  unfold Table.sum
  induction t.entries with
  | nil => rfl
  | cons e rest ih =>
      simp only [List.filterMap_cons, List.map_cons, List.sum_cons, Row.committed_commit]
      simp only [Row.committed_commit] at ih
      rw [← ih]
      cases hseen : e.2.seen tx with
      | none => simp [Row.amount]
      | some v =>
          by_cases hp : p e.1 v = true
          · by_cases hf : f v = a
            · simp [Row.amount, Option.filter, hp, hf]
              omega
            · simp [Row.amount, Option.filter, hp, hf]
          · simp [Row.amount, Option.filter, hp]

theorem length_visible {p : K → V → Bool} {tx : ℕ} {t : Rows K V} :
    (t.visible tx p).length = Table.count t fun k row => (row.seen tx).any (p k) := by
  unfold visible Table.count Table.sum
  induction t.entries with
  | nil => rfl
  | cons e rows ih =>
      rw [List.filterMap_cons, List.map_cons, List.sum_cons, ← ih]
      cases hseen : e.2.seen tx with
      | none => simp [hseen]
      | some v => cases hp : p e.1 v <;> simp [Option.filter, hseen, hp, Nat.add_comm]

end Rows

namespace Row

variable {V : Type*}

def Version (row : Row V) (v : V) : Prop :=
  row.committed = some v ∨ ∃ tx, row.writer = some (tx, some v)

theorem version_of_seen {row : Row V} {v : V} (h : row.seen tx = some v) :
    row.Version v := by
  unfold seen at h
  split at h
  · exact .inl h
  · next holder own hwriter =>
    split at h
    · exact .inr ⟨holder, h ▸ hwriter⟩
    · exact .inl h

theorem Version.of_settle {row : Row V} {keep : Option V → Option V} {v : V}
    (hkeep : ∀ own w, keep own = some w → own = some w ∨ row.committed = some w)
    (h : (row.settle tx keep).Version v) : row.Version v := by
  unfold settle at h
  split at h
  · exact h
  · next holder own hwriter =>
    split at h
    · rcases h with hcommitted | ⟨tx', hgone⟩
      · rcases hkeep own v hcommitted with hown | hold
        · exact .inr ⟨holder, hown ▸ hwriter⟩
        · exact .inl hold
      · cases hgone
    · exact h

theorem Version.of_commit {row : Row V} {v : V} (h : (row.commit tx).Version v) :
    row.Version v :=
  Version.of_settle (fun _ _ hown => .inl hown) h

theorem Version.of_rollback {row : Row V} {v : V} (h : (row.rollback tx).Version v) :
    row.Version v :=
  Version.of_settle (fun _ _ hold => .inr hold) h

end Row

namespace Rows

variable {K V α : Type*} [DecidableEq K]

theorem total_le {f g : K → V → ℤ} (hfg : ∀ k v, f k v ≤ g k v) (t : Rows K V) :
    total f t ≤ total g t := by
  apply Table.sum_le_sum
  intro k row _
  cases row.committed with
  | none => exact le_refl (0 : ℤ)
  | some v => exact hfg k v

theorem total_nonneg {f : K → V → ℤ} (hf : ∀ k v, 0 ≤ f k v) (t : Rows K V) :
    0 ≤ total f t := by
  have hle : total (fun _ _ => 0) t ≤ total f t := total_le hf t
  have hzero : total (fun _ _ => 0) t = 0 := by
    unfold total Table.sum
    apply List.sum_eq_zero
    intro x hx
    obtain ⟨e, -, rfl⟩ := List.mem_map.mp hx
    cases hcommitted : e.2.committed <;> simp [Row.amount, hcommitted]
  omega

theorem length_visible_of_idle {p : K → V → Bool} {tx : ℕ} {t : Rows K V} (h : Idle tx t) :
    (t.visible tx p).length = count p t := by
  rw [length_visible]
  apply Table.count_congr
  intro k r hr
  rw [Row.seen_eq_committed (row_of_lookup hr ▸ h k)]

variable {f : V → Option V} {k : K} {old : Option V} {q : V → Bool} {t t' : Rows K V}

theorem total_commit_alter
    (h : alterWhere tx t k q f = some (old, t')) (g : K → V → ℤ) :
    total g (commit tx t') =
      total g (commit tx t) + (Row.amount (g k) (old.bind f) - Row.amount (g k) old) := by
  rw [total_commit, total_commit, total_alter h, gain_alter h, add_assoc]

variable {v : V}

theorem mem_visible {p : K → V → Bool} :
    (k, v) ∈ t.visible tx p ↔ (row t k).seen tx = some v ∧ p k v = true := by
  unfold visible
  rw [List.mem_filterMap]
  constructor
  · intro h
    obtain ⟨⟨k', r⟩, hr, hv⟩ := h
    rw [mem_entries_iff_lookup] at hr
    obtain ⟨w, hw, heq⟩ := Option.map_eq_some_iff.mp hv
    obtain ⟨hseen, hp⟩ := Option.filter_eq_some_iff.mp hw
    cases heq
    rw [row_of_lookup hr]
    exact ⟨hseen, hp⟩
  · intro h
    obtain ⟨hseen, hp⟩ := h
    cases hlookup : t.lookup k with
    | none =>
        rw [row, hlookup] at hseen
        cases hseen
    | some r =>
        rw [row_of_lookup hlookup] at hseen
        refine ⟨⟨k, r⟩, mem_entries_iff_lookup.mpr hlookup, ?_⟩
        simp [hseen, Option.filter, hp]

theorem mem_visible_keys {p : K → V → Bool} :
    k ∈ (t.visible tx p).map Prod.fst ↔ ∃ v, (row t k).seen tx = some v ∧ p k v = true := by
  constructor
  · intro h
    obtain ⟨⟨k', v⟩, hv, rfl⟩ := List.mem_map.mp h
    exact ⟨v, mem_visible.mp hv⟩
  · intro h
    obtain ⟨v, hv⟩ := h
    exact List.mem_map.mpr ⟨(k, v), mem_visible.mpr hv, rfl⟩

theorem row_vacant (h : t.lookup k = none) : row t k = .vacant := by
  rw [row, h, Option.getD_none]

/-- An `INSERT` under a fresh key is free. -/
theorem free_of_fresh (h : t.lookup k = none) (tx : ℕ) :
    (row t k).free tx = true := by
  rw [row_vacant h]
  rfl

theorem lookup_write_ne_none (h : t.lookup k ≠ none) (tx : ℕ) (k' : K)
    (version : Option V) : (write tx t k' version).lookup k ≠ none := by
  unfold write
  rw [lookup_insert_eq]
  split
  · simp
  · exact h

theorem lookup_update_ne_none (h : t.lookup k ≠ none)
    (g : K → Row V → Row V) : (Table.update t g).lookup k ≠ none := by
  rw [lookup_update]
  cases hlookup : t.lookup k with
  | none => exact absurd hlookup h
  | some => simp

/-! ## A column that is written once -/

/-- All the versions of a row agree on `g`. -/
def Agreed (g : V → α) (t : Rows K V) : Prop :=
  ∀ k v w, (row t k).Version v → (row t k).Version w → g v = g w

/-- The key was used for a row whose `g` is `a`; the row may be gone by now. -/
structure Known (g : V → α) (a : α) (t : Rows K V) (k : K) : Prop where
  used : t.lookup k ≠ none
  value : ∀ v, (row t k).Version v → g v = a
  gone : (row t k).committed = none → (row t k).writer = none

structure Keeps (g : V → α) (t t' : Rows K V) : Prop where
  known : ∀ {a k}, Known g a t k → Known g a t' k
  gone : ∀ {a k}, Known g a t k → (row t k).committed = none → (row t' k).committed = none

theorem Settled.agreed (h : Settled t) (g : V → α) : Agreed g t := by
  intro k v w hv hw
  have honly : ∀ u, (row t k).Version u → (row t k).committed = some u := by
    intro u hu
    rcases hu with hcommitted | ⟨tx, hwriter⟩
    · exact hcommitted
    · rw [h k] at hwriter
      cases hwriter
  have hsame := (honly v hv).symm.trans (honly w hw)
  cases hsame
  rfl

variable {g : V → α}

theorem Agreed.known (h : Agreed g t)
    (hv : (row t k).committed = some v) : Known g (g v) t k where
  used := by
    intro hnone
    rw [row_vacant hnone] at hv
    cases hv
  value := fun w hw => h k w v hw (.inl hv)
  gone := fun hnone => by rw [hv] at hnone; cases hnone

theorem version_write {k' : K} {version : Option V}
    (h : (row (write tx t k version) k').Version v) :
    (row t k').Version v ∨ k' = k ∧ version = some v := by
  rw [row_write] at h
  split at h
  · next heq =>
    rcases h with hcommitted | ⟨tx', hwriter⟩
    · exact .inl (.inl (heq ▸ hcommitted))
    · simp only [Option.some.injEq, Prod.mk.injEq] at hwriter
      exact .inr ⟨heq, hwriter.2⟩
  · exact .inl h

theorem Agreed.alter (h : Agreed g t)
    (hf : ∀ v w, f v = some w → g w = g v)
    (halter : Rows.alterWhere tx t k q f = some (old, t')) : Agreed g t' := by
  rcases alterWhere_cases halter with ⟨-, rfl, -⟩ | ⟨u, -, hseen, -, -, rfl⟩
  · exact h
  · have hu := Row.version_of_seen hseen
    intro k' v w hv hw
    rcases version_write hv with hold | ⟨rfl, hnew⟩
    · rcases version_write hw with hold' | ⟨rfl, hnew'⟩
      · exact h k' v w hold hold'
      · rw [hf u w hnew']
        exact h k' v u hold hu
    · rcases version_write hw with hold' | ⟨-, hnew'⟩
      · rw [hf u v hnew]
        exact h k' u w hu hold'
      · rw [hf u v hnew, hf u w hnew']

theorem Agreed.insert (h : Agreed g t)
    (hfresh : t.lookup k = none) (tx : ℕ) (v : V) : Agreed g (write tx t k (some v)) := by
  have hnone : ∀ w, ¬ (row t k).Version w := by
    intro w hw
    rw [row_vacant hfresh] at hw
    rcases hw with hcommitted | ⟨tx', hwriter⟩
    · cases hcommitted
    · cases hwriter
  intro k' w u hw hu
  rcases version_write hw with hold | ⟨rfl, hnew⟩
  · rcases version_write hu with hold' | ⟨rfl, -⟩
    · exact h k' w u hold hold'
    · exact absurd hold (hnone w)
  · rcases version_write hu with hold' | ⟨-, hnew'⟩
    · exact absurd hold' (hnone u)
    · rw [Option.some.inj (hnew.symm.trans hnew')]

theorem Agreed.commit (h : Agreed g t) (tx : ℕ) :
    Agreed g (Rows.commit tx t) := by
  intro k v w hv hw
  rw [row_commit] at hv hw
  exact h k v w hv.of_commit hw.of_commit

theorem Agreed.rollback (h : Agreed g t) (tx : ℕ) :
    Agreed g (Rows.rollback tx t) := by
  intro k v w hv hw
  rw [row_rollback] at hv hw
  exact h k v w hv.of_rollback hw.of_rollback

theorem Keeps.refl (g : V → α) (t : Rows K V) : Keeps g t t := ⟨id, fun _ hnone => hnone⟩

theorem Keeps.alter
    (hf : ∀ v w, f v = some w → g w = g v)
    (halter : Rows.alterWhere tx t k q f = some (old, t')) : Keeps g t t' := by
  constructor
  · intro a k' hknown
    rcases alterWhere_cases halter with ⟨-, rfl, -⟩ | ⟨u, -, hseen, -, -, rfl⟩
    · exact hknown
    · constructor
      · exact lookup_write_ne_none hknown.used tx k _
      · intro v hv
        rcases version_write hv with hold | ⟨rfl, hnew⟩
        · exact hknown.value v hold
        · rw [hf u v hnew]
          exact hknown.value u (Row.version_of_seen hseen)
      · intro hnone
        rw [committed_write] at hnone
        have hwriter := hknown.gone hnone
        rw [row_write]
        split
        · next heq =>
          subst heq
          rw [Row.seen, hwriter, hnone] at hseen
          cases hseen
        · exact hwriter
  · intro a k' _ hnone
    rw [committed_alter halter]
    exact hnone

theorem Keeps.insert (g : V → α) (hfresh : t.lookup k = none) (tx : ℕ)
    (v : V) : Keeps g t (write tx t k (some v)) := by
  constructor
  · intro a k' hknown
    have hne : k' ≠ k := fun heq => hknown.used (heq ▸ hfresh)
    have hrow : row (write tx t k (some v)) k' = row t k' := by
      rw [row_write, if_neg hne]
    refine ⟨lookup_write_ne_none hknown.used tx k _, ?_, ?_⟩
    · rw [hrow]
      exact hknown.value
    · rw [hrow]
      exact hknown.gone
  · intro a k' _ hnone
    rw [committed_write]
    exact hnone

theorem Known.vacant {a : α} (h : Known g a t k)
    (hnone : (row t k).committed = none) : row t k = .vacant := by
  have hwriter := h.gone hnone
  cases hrow : row t k with
  | mk =>
      rw [hrow] at hnone hwriter
      subst hnone hwriter
      rfl

theorem Keeps.commit (g : V → α) (tx : ℕ) (t : Rows K V) : Keeps g t (Rows.commit tx t) := by
  constructor
  · intro a k hknown
    refine ⟨lookup_update_ne_none hknown.used _, ?_, ?_⟩
    · intro v hv
      rw [row_commit] at hv
      exact hknown.value v hv.of_commit
    · intro hnone
      rw [row_commit] at hnone ⊢
      rcases (row t k).settle_eq_or tx id with heq | hgone
      · rw [Row.commit, heq] at hnone ⊢
        exact hknown.gone hnone
      · exact hgone.2
  · intro a k hknown hnone
    rw [row_commit, hknown.vacant hnone]
    rfl

theorem Keeps.rollback (g : V → α) (tx : ℕ) (t : Rows K V) :
    Keeps g t (Rows.rollback tx t) := by
  constructor
  · intro a k hknown
    refine ⟨lookup_update_ne_none hknown.used _, ?_, ?_⟩
    · intro v hv
      rw [row_rollback] at hv
      exact hknown.value v hv.of_rollback
    · intro hnone
      rw [committed_rollback] at hnone
      rw [row_rollback, hknown.vacant hnone]
      rfl
  · intro a k _ hnone
    rw [committed_rollback]
    exact hnone

end Rows

end ReadCommitted
