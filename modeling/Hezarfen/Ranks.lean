import Mathlib.Data.List.Sort
import Mathlib.Data.List.Perm.Subperm
import Mathlib.Tactic.Push

/-!
# Ranks in a list

An entry of a list has a rank: how many entries are cheaper, or at most as dear.  The `n`-th
smallest entry is the cutoff between ranks under `n` and the others.  A selection that runs
over the list with a budget of `n` and takes what the cutoff lets through takes `n` entries; it
takes the cheapest ones exactly when no tie at the cutoff stands before an entry that has to go.
-/

namespace Rank

variable {α β : Type*} [LinearOrder β] (w : α → β)

/-- How many entries are cheaper than `x`. -/
def below (l : List α) (x : β) : ℕ := l.countP fun a => w a < x

/-- How many entries are at most as dear as `x`. -/
def upTo (l : List α) (x : β) : ℕ := l.countP fun a => w a ≤ x

theorem countP_le_iff
    {l : List β} (hsorted : l.Pairwise (· ≤ ·)) {n : ℕ} (hn : n < l.length) (p : β → Bool)
    (hdown : ∀ a b, a ≤ b → p b = true → p a = true) (d : β) :
    l.countP p ≤ n ↔ p (l.getD n d) = false := by
  induction l generalizing n with
  | nil => exact absurd hn (Nat.not_lt_zero n)
  | cons a l ih =>
      obtain ⟨hfirst, hrest⟩ := List.pairwise_cons.mp hsorted
      cases ha : p a with
      | true =>
          rw [List.countP_cons_of_pos ha]
          cases n with
          | zero => simp [ha]
          | succ n =>
              rw [List.getD_cons_succ, ← ih hrest (by simpa using hn)]
              omega
      | false =>
          have hfails : ∀ b ∈ a :: l, p b = false := by
            intro b hb
            rcases List.mem_cons.mp hb with rfl | hb
            · exact ha
            · exact Bool.eq_false_iff.mpr fun hp =>
                Bool.false_ne_true (ha.symm.trans (hdown a b (hfirst b hb) hp))
          have hnone : (a :: l).countP p = 0 :=
            List.countP_eq_zero.mpr fun b hb => Bool.eq_false_iff.mp (hfails b hb)
          rw [hnone, List.getD_eq_getElem?_getD, List.getElem?_eq_getElem hn, Option.getD_some]
          exact iff_of_true (Nat.zero_le n) (hfails _ (List.getElem_mem hn))

/-- The `n`-th smallest weight, the first one being number zero. -/
def cutoff (l : List α) (n : ℕ) (d : β) : β := ((l.map w).insertionSort (· ≤ ·)).getD n d

section Cutoff

variable {w} {l : List α} {n : ℕ}

theorem countP_map_le_iff (hn : n < l.length) (p : β → Bool)
    (hdown : ∀ a b, a ≤ b → p b = true → p a = true) (d : β) :
    (l.countP fun a => p (w a)) ≤ n ↔ p (cutoff w l n d) = false := by
  have hlength : n < ((l.map w).insertionSort (· ≤ ·)).length := by simpa using hn
  rw [cutoff, ← countP_le_iff (List.pairwise_insertionSort _ _) hlength p hdown,
    (List.perm_insertionSort (· ≤ ·) (l.map w)).countP_eq, List.countP_map]
  rfl

theorem below_le_iff (hn : n < l.length) (x d : β) : below w l x ≤ n ↔ x ≤ cutoff w l n d := by
  rw [below, countP_map_le_iff hn (fun y => decide (y < x)) _ d]
  · simp
  · intro a b hab hb
    simpa using hab.trans_lt (by simpa using hb)

theorem upTo_le_iff (hn : n < l.length) (x d : β) : upTo w l x ≤ n ↔ x < cutoff w l n d := by
  rw [upTo, countP_map_le_iff hn (fun y => decide (y ≤ x)) _ d]
  · simp
  · intro a b hab hb
    simpa using hab.trans (by simpa using hb)

theorem cutoff_perm {l' : List α} (h : l.Perm l') (n : ℕ) (d : β) :
    cutoff w l n d = cutoff w l' n d := by
  have hsame : (l.map w).insertionSort (· ≤ ·) = (l'.map w).insertionSort (· ≤ ·) :=
    (((List.perm_insertionSort _ _).trans (h.map w)).trans
      (List.perm_insertionSort _ _).symm).eq_of_pairwise' (List.pairwise_insertionSort _ _)
        (List.pairwise_insertionSort _ _)
  rw [cutoff, hsame, cutoff]

end Cutoff

/-- The first `n` entries that the cutoff lets through. -/
def selected (l : List α) (n : ℕ) (d : β) : List α :=
  (l.filter fun a => w a ≤ cutoff w l (n - 1) d).take n

def Cheapest (l taken : List α) : Prop := ∀ a ∈ taken, ∀ b ∈ l, b ∉ taken → w a ≤ w b

section Selected

variable {w} {l : List α} {n : ℕ}

theorem mem_of_selected {d : β} {a : α} (h : a ∈ selected w l n d) : a ∈ l :=
  (List.mem_filter.mp (List.mem_of_mem_take h)).1

/-- What the cutoff lets through, told by the ranks. -/
theorem selected_eq (hpos : 0 < n) (hn : n ≤ l.length) (d : β) :
    selected w l n d = (l.filter fun a => below w l (w a) < n).take n := by
  have hlt : n - 1 < l.length := by omega
  have hsame : ∀ a ∈ l, decide (w a ≤ cutoff w l (n - 1) d) = decide (below w l (w a) < n) := by
    intro a _
    rw [decide_eq_decide, ← below_le_iff hlt]
    omega
  rw [selected, List.filter_congr hsame]

theorem length_selected (hpos : 0 < n) (hn : n ≤ l.length) (d : β) :
    (selected w l n d).length = n := by
  have hlt : n - 1 < l.length := by omega
  have hmany : n ≤ upTo w l (cutoff w l (n - 1) d) := by
    have := (not_congr (upTo_le_iff (w := w) hlt (cutoff w l (n - 1) d) d)).mpr (lt_irrefl _)
    omega
  rw [selected, List.length_take, ← List.countP_eq_length_filter]
  exact min_eq_left hmany

/-- An entry has to go when at most `n` entries, itself included, are at most as dear; the
selection is right when it comes to all of these in time. -/
theorem selected_cheapest_iff
    (hnodup : l.Nodup) (hpos : 0 < n) (hn : n ≤ l.length) (d : β) :
    Cheapest w l (selected w l n d) ↔
      ∀ b ∈ l, upTo w l (w b) ≤ n → b ∈ (l.filter fun a => below w l (w a) < n).take n := by
  have hlt : n - 1 < l.length := by omega
  rw [← selected_eq hpos hn d]
  constructor
  · intro hcheapest b hb hrank
    by_contra hout
    -- Everything selected is at most as dear as `b`, and `b` is one more.
    have hsub : (b :: selected w l n d) ⊆ l.filter fun a => w a ≤ w b := by
      intro a ha
      rcases List.mem_cons.mp ha with rfl | ha
      · simpa using hb
      · simpa using ⟨mem_of_selected ha, hcheapest a ha b hb hout⟩
    have hfresh : (b :: selected w l n d).Nodup :=
      List.nodup_cons.mpr ⟨hout, (hnodup.filter _).sublist (List.take_sublist _ _)⟩
    have hlength := (hfresh.subperm hsub).length_le
    rw [List.length_cons, length_selected hpos hn, ← List.countP_eq_length_filter] at hlength
    exact absurd hlength (Nat.not_le.mpr (Nat.lt_succ_of_le hrank))
  · intro htimely a ha b hb hout
    by_contra hdear
    have ha' := (List.mem_filter.mp (List.mem_of_mem_take ha)).2
    have hcut : w b < cutoff w l (n - 1) d := (not_le.mp hdear).trans_le (by simpa using ha')
    have hrank := (upTo_le_iff hlt (w b) d).mpr hcut
    exact hout (htimely b hb (by omega))

end Selected

end Rank
