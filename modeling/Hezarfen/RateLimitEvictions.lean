import Hezarfen.Ranks
import Hezarfen.RateLimitCharges

/-!
# Which buckets are evicted

An eviction computes a cutoff and drops buckets at or under it in the order in which the map
hands them out, until enough are gone.  It drops the right number and no exhausted bucket,
whatever that order is.  It drops the cheapest ones only when no bucket at the cutoff comes
before a cheaper one at the expense of it.
-/

namespace Hezarfen.RateLimit

variable {K : Type} [DecidableEq K]

def rowSpent (row : K × Bucket) : ℕ := row.2.spent

def evictable (order : List K) (buckets : Table K Bucket) (max : ℕ) : List (K × Bucket) :=
  (inOrder order buckets).filter fun row => row.2.spent < max

def evictableCount (buckets : Table K Bucket) (max : ℕ) : ℕ :=
  Table.count buckets fun _ b => b.spent < max

def excess (buckets : Table K Bucket) (target max : ℕ) : ℕ :=
  min (size buckets - target) (evictableCount buckets max)

/-- What an eviction is for. -/
structure Evicted (target max : ℕ) (buckets kept : Table K Bucket) : Prop where
  /-- Nothing else happens to the map. -/
  drops : ∀ key b, kept.lookup key = some b → buckets.lookup key = some b
  enough : size kept + excess buckets target max = size buckets
  exhausted : ∀ key b, buckets.lookup key = some b → max ≤ b.spent → kept.lookup key = some b
  cheapest : ∀ key b key' b', buckets.lookup key = some b → kept.lookup key = none →
    kept.lookup key' = some b' → b'.spent < max → b.spent ≤ b'.spent

/-- The iteration meets every bucket that has to go among the first ones that may go.  A bucket
has to go when at most `excess` evictable ones, itself included, have spent as little; it may go
when fewer than `excess` have spent less. -/
def MetInTime (order : List K) (buckets : Table K Bucket) (target max : ℕ) : Prop :=
  let rows := evictable order buckets max
  let n := excess buckets target max
  ∀ row ∈ rows, Rank.upTo rowSpent rows row.2.spent ≤ n →
    row ∈ (rows.filter fun other => Rank.below rowSpent rows other.2.spent < n).take n

section Iteration

variable (order : List K) (buckets : Table K Bucket) {key : K} {b : Bucket}

theorem mem_inOrder_iff : (key, b) ∈ inOrder order buckets ↔ buckets.lookup key = some b := by
  refine ⟨mem_inOrder, fun hlookup => ?_⟩
  unfold inOrder
  by_cases hkey : key ∈ order
  · refine List.mem_append_left _ (List.mem_filterMap.mpr ⟨key, List.mem_dedup.mpr hkey, ?_⟩)
    rw [hlookup]
    rfl
  · refine List.mem_append_right _ (List.mem_map.mpr ⟨⟨key, b⟩, ?_, rfl⟩)
    exact List.mem_filter.mpr ⟨mem_entries_iff_lookup.mpr hlookup, by simpa using hkey⟩

/-- An iteration meets every entry once. -/
theorem inOrder_perm :
    (inOrder order buckets).Perm (buckets.entries.map fun row => (row.1, row.2)) := by
  have hkeys : (buckets.entries.map fun row => (row.1, row.2)).map Prod.fst = buckets.keys := by
    rw [List.map_map]
    rfl
  have hentries : (buckets.entries.map fun row => (row.1, row.2)).Nodup := by
    apply List.Nodup.of_map Prod.fst
    rw [hkeys]
    exact buckets.nodupKeys
  refine (List.perm_ext_iff_of_nodup (inOrder_nodup order buckets).of_map hentries).mpr ?_
  rintro ⟨key, b⟩
  rw [mem_inOrder_iff, ← mem_entries_iff_lookup]
  constructor
  · exact fun h => List.mem_map.mpr ⟨_, h, rfl⟩
  · intro h
    obtain ⟨row, hrow, heq⟩ := List.mem_map.mp h
    cases heq
    exact hrow

theorem mem_evictable {max : ℕ} :
    (key, b) ∈ evictable order buckets max ↔ buckets.lookup key = some b ∧ b.spent < max := by
  unfold evictable
  rw [List.mem_filter, mem_inOrder_iff]
  simp

theorem evictable_nodup (max : ℕ) : ((evictable order buckets max).map Prod.fst).Nodup :=
  (inOrder_nodup order buckets).sublist (List.filter_sublist.map _)

theorem length_evictable (max : ℕ) :
    (evictable order buckets max).length = evictableCount buckets max := by
  have hperm := (inOrder_perm order buckets).filter fun row => decide (row.2.spent < max)
  unfold evictable evictableCount
  rw [hperm.length_eq, ← Table.length_filter_rows buckets fun b => decide (b.spent < max),
    List.filter_map, List.length_map, List.filter_map, List.length_map]
  rfl

end Iteration

/-! ## The buckets that are dropped -/

theorem cheapest_eq {K : Type} (max cutoff : ℕ) (rows : List (K × Bucket)) (budget : ℕ) :
    cheapest max cutoff rows budget =
      (((rows.filter fun row => row.2.spent < max).filter fun row =>
        row.2.spent ≤ cutoff).take budget).map Prod.fst := by
  induction rows generalizing budget with
  | nil => simp [cheapest]
  | cons row rows ih =>
      obtain ⟨key, b⟩ := row
      unfold cheapest
      by_cases hmax : b.spent < max
      · by_cases hcutoff : b.spent ≤ cutoff
        · cases budget with
          | zero => simp [ih]
          | succ => simp [hmax, hcutoff, ih]
        · simp [hmax, hcutoff, ih]
      · simp [hmax, ih]

/-- The entries that the eviction drops. -/
def dropped (order : List K) (buckets : Table K Bucket) (target max : ℕ) : List (K × Bucket) :=
  Rank.selected rowSpent (evictable order buckets max) (excess buckets target max) 0

theorem evictCheapest_eq (order : List K) (buckets : Table K Bucket) (target max : ℕ) :
    evictCheapest order buckets target max =
      if excess buckets target max = 0 then buckets
      else Table.deleteWhere buckets fun key _ =>
        key ∈ (dropped order buckets target max).map Prod.fst := by
  have hspent : (buckets.entries.map fun row => row.2.spent).filter (fun spent => spent < max) =
      ((buckets.entries.map fun row => (row.1, row.2)).filter fun row =>
        row.2.spent < max).map rowSpent := by
    rw [List.filter_map, List.filter_map, List.map_map]
    rfl
  have hperm : (evictable order buckets max).Perm
      ((buckets.entries.map fun row => (row.1, row.2)).filter fun row => row.2.spent < max) :=
    (inOrder_perm order buckets).filter _
  have hcount : ((buckets.entries.map fun row => row.2.spent).filter fun spent =>
      spent < max).length = evictableCount buckets max := by
    rw [hspent, List.length_map, ← hperm.length_eq, length_evictable]
  unfold evictCheapest
  simp only [hcount]
  change (if excess buckets target max = 0 then buckets else _) = _
  split
  · rfl
  · have hcutoff : ((((buckets.entries.map fun row => row.2.spent).filter fun spent =>
          spent < max)).insertionSort (· ≤ ·)).getD (excess buckets target max - 1) 0 =
        Rank.cutoff rowSpent (evictable order buckets max) (excess buckets target max - 1) 0 := by
      rw [Rank.cutoff_perm hperm, Rank.cutoff, hspent]
    have hdropped : cheapest max
        (Rank.cutoff rowSpent (evictable order buckets max) (excess buckets target max - 1) 0)
        (inOrder order buckets) (excess buckets target max) =
        (dropped order buckets target max).map Prod.fst := cheapest_eq ..
    rw [← hdropped, ← hcutoff]
    rfl

section Dropped

variable {order : List K} {buckets : Table K Bucket} {target max : ℕ} {key : K} {b : Bucket}

theorem excess_le_evictable :
    excess buckets target max ≤ (evictable order buckets max).length := by
  rw [length_evictable]
  exact min_le_right ..

theorem mem_dropped (h : (key, b) ∈ dropped order buckets target max) :
    buckets.lookup key = some b ∧ b.spent < max :=
  (mem_evictable order buckets).mp (Rank.mem_of_selected h)

/-- An entry is dropped by its key. -/
theorem mem_dropped_iff (hb : buckets.lookup key = some b) :
    key ∈ (dropped order buckets target max).map Prod.fst ↔
      (key, b) ∈ dropped order buckets target max := by
  constructor
  · intro h
    obtain ⟨⟨other, b'⟩, hrow, rfl⟩ := List.mem_map.mp h
    have hb' := (mem_dropped hrow).1
    rw [hb] at hb'
    cases hb'
    exact hrow
  · exact fun h => List.mem_map.mpr ⟨_, h, rfl⟩

theorem lookup_evicted (hpos : 0 < excess buckets target max) (hb : buckets.lookup key = some b) :
    (evictCheapest order buckets target max).lookup key =
      if (key, b) ∈ dropped order buckets target max then none else some b := by
  have hiff : key ∈ (dropped order buckets target max).map Prod.fst ↔
      (key, b) ∈ dropped order buckets target max := mem_dropped_iff hb
  rw [evictCheapest_eq, if_neg hpos.ne', lookup_deleteWhere, hb]
  by_cases hdropped : (key, b) ∈ dropped order buckets target max
  · rw [if_pos hdropped]
    simp [Option.filter, hiff.mpr hdropped]
  · rw [if_neg hdropped]
    simp only [Option.filter, Bool.not_eq_true', decide_eq_false_iff_not]
    exact if_pos (fun h => hdropped (hiff.mp h))

/-- The eviction drops as many entries as it set out to. -/
theorem size_evicted :
    size (evictCheapest order buckets target max) + excess buckets target max = size buckets := by
  rw [evictCheapest_eq]
  split
  · next hzero => rw [hzero, Nat.add_zero]
  · next hpos =>
    have hle : excess buckets target max ≤ (evictable order buckets max).length :=
      excess_le_evictable
    have hlength := Rank.length_selected (w := rowSpent) (Nat.pos_of_ne_zero hpos) hle 0
    have hnodup : ((dropped order buckets target max).map Prod.fst).Nodup :=
      (evictable_nodup order buckets max).sublist
        (((List.take_sublist _ _).trans List.filter_sublist).map _)
    have hgone : (buckets.keys.filter fun key =>
        key ∈ (dropped order buckets target max).map Prod.fst).Perm
        ((dropped order buckets target max).map Prod.fst) := by
      refine (List.perm_ext_iff_of_nodup (buckets.nodupKeys.filter _) hnodup).mpr ?_
      intro key
      rw [List.mem_filter, decide_eq_true_eq]
      refine ⟨And.right, fun h => ⟨?_, h⟩⟩
      obtain ⟨⟨other, b'⟩, hrow, rfl⟩ := List.mem_map.mp h
      exact AList.mem_keys.mp (AList.lookup_isSome.mp (by rw [(mem_dropped hrow).1]; rfl))
    have hkept : size (Table.deleteWhere buckets fun key _ =>
        key ∈ (dropped order buckets target max).map Prod.fst) =
        (buckets.keys.filter fun key =>
          !decide (key ∈ (dropped order buckets target max).map Prod.fst)).length := by
      unfold size AList.keys List.keys Table.deleteWhere
      rw [List.filter_map, List.length_map, List.length_map]
      rfl
    have hsplit := List.length_eq_length_filter_add (l := buckets.keys)
      fun key => decide (key ∈ (dropped order buckets target max).map Prod.fst)
    rw [hgone.length_eq, List.length_map] at hsplit
    rw [hkept]
    unfold size
    rw [hsplit]
    unfold dropped
    rw [hlength, Nat.add_comm]

theorem evicted_iff_cheapest :
    Evicted target max buckets (evictCheapest order buckets target max) ↔
      excess buckets target max = 0 ∨
        Rank.Cheapest rowSpent (evictable order buckets max)
          (dropped order buckets target max) := by
  have hdrops (key : K) (b : Bucket)
      (h : (evictCheapest order buckets target max).lookup key = some b) :
      buckets.lookup key = some b := by
    rcases lookup_evictCheapest order buckets target max key with hsame | ⟨hnone, -⟩
    · rw [← hsame, h]
    · rw [hnone] at h
      cases h
  constructor
  · intro h
    rcases Nat.eq_zero_or_pos (excess buckets target max) with hzero | hpos
    · exact .inl hzero
    · right
      rintro ⟨key, b⟩ hgone ⟨key', b'⟩ hrow hout
      obtain ⟨hb, -⟩ := mem_dropped hgone
      obtain ⟨hb', hspent⟩ := (mem_evictable order buckets).mp hrow
      apply h.cheapest key b key' b' hb
      · rw [lookup_evicted hpos hb, if_pos hgone]
      · rw [lookup_evicted hpos hb', if_neg hout]
      · exact hspent
  · intro h
    refine ⟨hdrops, size_evicted, ?_, ?_⟩
    · intro key b hb hspent
      rcases lookup_evictCheapest order buckets target max key with hsame | ⟨-, b', hb', hlow⟩
      · rw [hsame, hb]
      · rw [hb] at hb'
        cases hb'
        exact absurd hlow (Nat.not_lt.mpr hspent)
    · intro key b key' b' hb hnone hkept hspent
      rcases Nat.eq_zero_or_pos (excess buckets target max) with hzero | hpos
      · rw [evictCheapest_eq, if_pos hzero, hb] at hnone
        cases hnone
      · have hcheapest := h.resolve_left hpos.ne'
        have hb' := hdrops key' b' hkept
        have hgone : (key, b) ∈ dropped order buckets target max := by
          by_contra hout
          rw [lookup_evicted hpos hb, if_neg hout] at hnone
          cases hnone
        have hout : (key', b') ∉ dropped order buckets target max := by
          intro hgone'
          rw [lookup_evicted hpos hb', if_pos hgone'] at hkept
          cases hkept
        exact hcheapest _ hgone _ ((mem_evictable order buckets).mpr ⟨hb', hspent⟩) hout

end Dropped

/-- The cheapest buckets go exactly when the iteration meets all of them in time. -/
theorem evictCheapest_iff (order : List K) (buckets : Table K Bucket) (target max : ℕ) :
    Evicted target max buckets (evictCheapest order buckets target max) ↔
      MetInTime order buckets target max := by
  rw [evicted_iff_cheapest]
  have hnodup : (evictable order buckets max).Nodup := (evictable_nodup order buckets max).of_map
  rcases Nat.eq_zero_or_pos (excess buckets target max) with hzero | hpos
  · refine iff_of_true (.inl hzero) fun row hrow hrank => ?_
    have hself : 0 < Rank.upTo rowSpent (evictable order buckets max) row.2.spent :=
      List.countP_pos_iff.mpr ⟨row, hrow, by simp [rowSpent]⟩
    omega
  · rw [or_iff_right hpos.ne']
    exact Rank.selected_cheapest_iff hnodup hpos excess_le_evictable 0

/-- Two buckets at the cutoff are met before the cheapest one, and it is kept in their place. -/
theorem evictCheapest_keeps_the_cheapest :
    ¬ ∀ (order : List ℕ) (buckets : Table ℕ Bucket) (target max : ℕ),
      Evicted target max buckets (evictCheapest order buckets target max) := by
  intro h
  have hevicted := h [1, 2, 3]
    (((∅ : Table ℕ Bucket).insert 3 ⟨0, 1, 0, 0, none⟩).insert 2 ⟨0, 2, 0, 0, none⟩ |>.insert 1
      ⟨0, 2, 0, 0, none⟩) 1 5
  have hspent := hevicted.cheapest 1 ⟨0, 2, 0, 0, none⟩ 3 ⟨0, 1, 0, 0, none⟩ (by decide)
    (by decide) (by decide) (by decide)
  revert hspent
  decide

end Hezarfen.RateLimit
