import Mathlib.Algebra.Order.Ring.Int
import Mathlib.Data.Set.Insert
import Mathlib.Order.Bounds.Basic

/-!
# Runs of consecutive days

A set of days falls into runs.  The run that ends at a day, and the longest run of the
set, when a day joins that is not before the others.
-/

namespace Streak

/-- The run of `days` that ends at `d` has length `k`; a day outside the set ends the empty
run. -/
structure IsRun (days : Set ℤ) (d : ℤ) (k : ℕ) : Prop where
  covers : ∀ i : ℕ, i < k → d - i ∈ days
  stops : d - k ∉ days

def IsLongest (days : Set ℤ) (n : ℕ) : Prop := IsGreatest {k | ∃ d, IsRun days d k} n

variable {days days' : Set ℤ} {d : ℤ} {k n : ℕ}

theorem IsRun.unique {k' : ℕ} (h : IsRun days d k) (h' : IsRun days d k') : k = k' := by
  rcases Nat.lt_trichotomy k k' with hlt | heq | hgt
  · exact absurd (h'.covers k hlt) h.stops
  · exact heq
  · exact absurd (h.covers k' hgt) h'.stops

theorem IsRun.pos (h : IsRun days d k) (hd : d ∈ days) : 0 < k := by
  apply Nat.pos_of_ne_zero
  intro hzero
  subst hzero
  have hstops := h.stops
  rw [Nat.cast_zero, sub_zero] at hstops
  exact hstops hd

theorem IsRun.mem (h : IsRun days d k) (hk : 0 < k) : d ∈ days := by
  have hfirst := h.covers 0 hk
  rwa [Nat.cast_zero, sub_zero] at hfirst

theorem IsRun.congr (h : IsRun days d k) (hsame : ∀ e ≤ d, e ∈ days ↔ e ∈ days') :
    IsRun days' d k where
  covers := by
    intro i hi
    have hle : d - i ≤ d := by omega
    exact (hsame _ hle).mp (h.covers i hi)
  stops := by
    have hle : d - k ≤ d := by omega
    exact fun hmem => h.stops ((hsame _ hle).mpr hmem)

/-- The day after a run makes it longer by one. -/
theorem IsRun.extend (h : IsRun days (d - 1) k) : IsRun (insert d days) d (k + 1) where
  covers := by
    intro i hi
    cases i with
    | zero => simp
    | succ i =>
        have hprevious := h.covers i (Nat.lt_of_succ_lt_succ hi)
        have heq : d - ((i + 1 : ℕ) : ℤ) = d - 1 - i := by omega
        rw [heq]
        exact Set.mem_insert_of_mem d hprevious
  stops := by
    have heq : d - ((k + 1 : ℕ) : ℤ) = d - 1 - k := by omega
    rw [heq, Set.mem_insert_iff, not_or]
    exact ⟨by omega, h.stops⟩

/-- A day after a gap starts a run. -/
theorem IsRun.start (h : d - 1 ∉ days) : IsRun (insert d days) d 1 where
  covers := by
    intro i hi
    obtain rfl : i = 0 := by omega
    simp
  stops := by
    rw [Nat.cast_one, Set.mem_insert_iff, not_or]
    exact ⟨by omega, h⟩

theorem isLongest_empty : IsLongest ∅ 0 := by
  constructor
  · exact ⟨0, ⟨fun i hi => absurd hi (Nat.not_lt_zero i), fun hmem => hmem⟩⟩
  · intro k hk
    obtain ⟨d, hrun⟩ := hk
    by_contra hpos
    exact hrun.mem (Nat.lt_of_not_le hpos)

theorem IsLongest.insert (h : IsLongest days n) (hlast : ∀ e ∈ days, e < d)
    (hrun : IsRun (insert d days) d k) : IsLongest (insert d days) (max n k) := by
  have hbefore : ∀ {e}, e < d → ∀ f ≤ e, f ∈ days ↔ f ∈ Insert.insert d days := by
    intro e he f hf
    have hne : f ≠ d := by omega
    simp [hne]
  constructor
  · rcases le_total n k with hle | hle
    · rw [max_eq_right hle]
      exact ⟨d, hrun⟩
    · rw [max_eq_left hle]
      obtain ⟨e, he⟩ := h.1
      by_cases hn : n = 0
      · have hk : k = 0 := Nat.le_zero.mp (hn ▸ hle)
        exact absurd (hrun.pos (Set.mem_insert d days)) (by omega)
      · have hmem := he.mem (Nat.pos_of_ne_zero hn)
        exact ⟨e, he.congr (hbefore (hlast e hmem))⟩
  · intro j hj
    obtain ⟨e, he⟩ := hj
    by_cases hpos : j = 0
    · omega
    · rcases Set.mem_insert_iff.mp (he.mem (Nat.pos_of_ne_zero hpos)) with rfl | hmem
      · rw [he.unique hrun]
        exact le_max_right n k
      · have hold : IsRun days e j :=
          he.congr fun f hf => (hbefore (hlast e hmem) f hf).symm
        exact (h.2 ⟨e, hold⟩).trans (le_max_left n k)

end Streak
