import Mathlib.Data.List.AList
import Mathlib.Algebra.BigOperators.Group.List.Basic
import Mathlib.Algebra.Order.BigOperators.Group.List
import Mathlib.Algebra.Order.Group.Nat
import Mathlib.Tactic.Abel
import Mathlib.Tactic.Push

/-!
# Finite tables

A table with a primary key is a finite map from keys to rows, stored as an
association list without duplicate keys.  The reads and writes by key are those
of `AList`.  This module adds what a relational store needs beyond them: sums
and counts over all rows, deletion and update by predicate, and the accounting
laws that say how one write moves a sum.
-/

/-- A table of rows `V` under the primary key `K`. -/
abbrev Table (K V : Type*) := AList (fun _ : K => V)

namespace Table

variable {K V M : Type*}

variable {t t' : Table K V} {k : K} {v : V} {p : K → V → Bool} {f : K → V → M}

/-- Sum of `f` over all rows. -/
def sum [AddCommMonoid M] (t : Table K V) (f : K → V → M) : M :=
  (t.entries.map fun row => f row.1 row.2).sum

/-- Number of rows satisfying `p`. -/
def count (t : Table K V) (p : K → V → Bool) : ℕ :=
  sum t fun k v => if p k v then 1 else 0

/-- Some row satisfies `p`. -/
def any (t : Table K V) (p : K → V → Bool) : Bool :=
  t.entries.any fun row => p row.1 row.2

/-- `DELETE … WHERE p`. -/
def deleteWhere (t : Table K V) (p : K → V → Bool) : Table K V :=
  ⟨t.entries.filter fun row => !p row.1 row.2,
    List.NodupKeys.sublist List.filter_sublist t.nodupKeys⟩

/-- `UPDATE … SET f`; a row outside the `WHERE` is mapped to itself. -/
def update (t : Table K V) (f : K → V → V) : Table K V :=
  ⟨t.entries.map fun row => ⟨row.1, f row.1 row.2⟩, t.nodupKeys.map₂ f⟩

/-- The first row that satisfies `p`. -/
def first (t : Table K V) (p : K → V → Bool) : Option (K × V) :=
  (t.entries.find? fun row => p row.1 row.2).map fun row => (row.1, row.2)

section Lookup

variable [DecidableEq K]

theorem mem_entries_iff_lookup :
    (⟨k, v⟩ : Sigma fun _ : K => V) ∈ t.entries ↔ t.lookup k = some v := by
  rw [← AList.mem_lookup_iff, Option.mem_def]

theorem any_iff :
    any t p = true ↔ ∃ k v, t.lookup k = some v ∧ p k v = true := by
  unfold any
  rw [List.any_eq_true]
  constructor
  · rintro ⟨⟨k, v⟩, hmem, hp⟩
    exact ⟨k, v, mem_entries_iff_lookup.mp hmem, hp⟩
  · rintro ⟨k, v, hlookup, hp⟩
    exact ⟨⟨k, v⟩, mem_entries_iff_lookup.mpr hlookup, hp⟩

theorem any_eq_false_iff :
    any t p = false ↔ ∀ k v, t.lookup k = some v → p k v = false := by
  rw [← Bool.not_eq_true, any_iff]
  push Not
  simp

theorem first_eq_some (h : first t p = some (k, v)) : t.lookup k = some v ∧ p k v = true := by
  obtain ⟨row, hrow, heq⟩ := Option.map_eq_some_iff.mp h
  cases heq
  have hfound := List.find?_some hrow
  exact ⟨mem_entries_iff_lookup.mp (List.mem_of_find?_eq_some hrow), hfound⟩

theorem lookup_insert_eq
    (t : Table K V) (k k' : K) (v : V) :
    (t.insert k v).lookup k' = if k' = k then some v else t.lookup k' := by
  by_cases hk : k' = k
  · subst k'
    simp
  · rw [AList.lookup_insert_ne hk, if_neg hk]

theorem lookup_erase_eq
    (t : Table K V) (k k' : K) :
    (t.erase k).lookup k' = if k' = k then none else t.lookup k' := by
  by_cases hk : k' = k
  · subst k'
    simp
  · rw [AList.lookup_erase_ne hk, if_neg hk]

theorem insert_cases {w : V} {k' : K} (h : (t.insert k v).lookup k' = some w) :
    k' = k ∧ w = v ∨ k' ≠ k ∧ t.lookup k' = some w := by
  rw [lookup_insert_eq] at h
  split at h
  · next hk => exact .inl ⟨hk, (Option.some.inj h).symm⟩
  · next hk => exact .inr ⟨hk, h⟩

theorem insert_stands {w : V} {k' : K} (h : t.lookup k' = some w) :
    ∃ w', (t.insert k v).lookup k' = some w' := by
  rw [lookup_insert_eq]
  split
  · exact ⟨_, rfl⟩
  · exact ⟨w, h⟩

theorem insert_keys {w : V} {k' : K} (P : K → Prop) (h : (t.insert k v).lookup k' = some w)
    (hnew : P k) (hrows : ∀ k v, t.lookup k = some v → P k) : P k' := by
  obtain ⟨rfl, -⟩ | ⟨-, h⟩ := insert_cases h
  · exact hnew
  · exact hrows k' w h

theorem erase_cases {k' : K} (h : (t.erase k).lookup k' = some v) :
    k' ≠ k ∧ t.lookup k' = some v := by
  rw [lookup_erase_eq] at h
  split at h
  · cases h
  · next hk => exact ⟨hk, h⟩

@[simp]
theorem lookup_deleteWhere
    (t : Table K V) (p : K → V → Bool) (k : K) :
    (deleteWhere t p).lookup k = (t.lookup k).filter fun v => !p k v := by
  apply Option.ext
  intro v
  rw [← mem_entries_iff_lookup, Option.filter_eq_some_iff, ← mem_entries_iff_lookup]
  simp [deleteWhere]

@[simp]
theorem lookup_update
    (t : Table K V) (f : K → V → V) (k : K) :
    (update t f).lookup k = (t.lookup k).map (f k) := by
  exact List.dlookup_map₂ (f := f) k

theorem update_cases {g : K → V → V} (h : (update t g).lookup k = some v) :
    ∃ row, t.lookup k = some row ∧ g k row = v := by
  rwa [lookup_update, Option.map_eq_some_iff] at h

theorem update_stands {g : K → V → V} (h : t.lookup k = some v) :
    ∃ w, (update t g).lookup k = some w :=
  ⟨g k v, by rw [lookup_update, h]; rfl⟩

end Lookup

section Sum

variable [AddCommMonoid M]

@[simp]
theorem sum_empty (f : K → V → M) : sum (∅ : Table K V) f = 0 := rfl

theorem sum_deleteWhere
    (t : Table K V) (p : K → V → Bool) (f : K → V → M) :
    sum (deleteWhere t p) f = sum t fun k v => if p k v then 0 else f k v := by
  change ((t.entries.filter fun row => !p row.1 row.2).map
    fun row => f row.1 row.2).sum = _
  unfold sum
  induction t.entries with
  | nil => rfl
  | cons row rows ih =>
      cases hp : p row.1 row.2 <;> simp [hp, ih]

theorem sum_update
    (t : Table K V) (g : K → V → V) (f : K → V → M) :
    sum (update t g) f = sum t fun k v => f k (g k v) := by
  simp [sum, update, Function.comp_def]

theorem sum_add
    (t : Table K V) (f g : K → V → M) :
    sum t (fun k v => f k v + g k v) = sum t f + sum t g := by
  simp [sum, List.sum_map_add]

/-- The rows that `p` keeps, summed as a list. -/
theorem sum_filter_rows
    (t : Table K V) (p : V → Bool) (f : V → M) :
    (((t.entries.map fun row => row.2).filter p).map f).sum =
      sum t fun _ v => if p v then f v else 0 := by
  unfold sum
  induction t.entries with
  | nil => rfl
  | cons row rows ih => cases hp : p row.2 <;> simp [hp, ih]

theorem sum_comm
    {K' V' : Type*} (t : Table K V) (u : Table K' V') (f : K → V → K' → V' → M) :
    (sum t fun k v => sum u (f k v)) = sum u fun k' v' => sum t fun k v => f k v k' v' := by
  unfold sum
  induction t.entries with
  | nil => simp
  | cons row rows ih => simp only [List.map_cons, List.sum_cons, ih, List.sum_map_add]

variable [DecidableEq K]

theorem sum_congr
    {g : K → V → M} (h : ∀ k v, t.lookup k = some v → f k v = g k v) :
    sum t f = sum t g := by
  unfold sum
  congr 1
  apply List.map_congr_left
  rintro ⟨k, v⟩ hmem
  exact h k v (mem_entries_iff_lookup.mp hmem)

theorem sum_eq_zero
    (h : ∀ k v, t.lookup k = some v → f k v = 0) :
    sum t f = 0 := by
  rw [sum_congr h]
  simp [sum]

theorem sum_erase
    (t : Table K V) (k : K) (f : K → V → M) :
    sum (t.erase k) f + (t.lookup k).elim 0 (f k) = sum t f := by
  cases hlookup : t.lookup k with
  | none =>
      have hkey : k ∉ t.entries.keys := AList.lookup_eq_none.mp hlookup
      have herase : (t.erase k).entries = t.entries := List.kerase_of_notMem_keys hkey
      simp [sum, herase]
  | some v =>
      have hkey : k ∈ t.entries.keys :=
        AList.lookup_isSome.mp (Option.isSome_of_eq_some hlookup)
      obtain ⟨w, before, after, -, hentries, herase⟩ := List.exists_of_kerase hkey
      have hw : t.lookup k = some w := by
        rw [← mem_entries_iff_lookup, hentries]
        simp
      obtain rfl : v = w := by simpa [hlookup] using hw
      change ((t.entries.kerase k).map fun row => f row.1 row.2).sum + f k v =
        (t.entries.map fun row => f row.1 row.2).sum
      rw [herase, hentries]
      simp only [List.map_append, List.map_cons, List.sum_append, List.sum_cons]
      abel

theorem sum_eq_elim
    (k : K) (h : ∀ k' v, t.lookup k' = some v → k' ≠ k → f k' v = 0) :
    sum t f = (t.lookup k).elim 0 (f k) := by
  rw [← sum_erase t k f, sum_eq_zero, zero_add]
  intro k' v hlookup
  rw [lookup_erase_eq] at hlookup
  split at hlookup
  · cases hlookup
  · next hne => exact h k' v hlookup hne

theorem sum_fibers
    {K' V' : Type*} [DecidableEq K'] {u : Table K' V'} (up : K → V → Option K') {p : K → V → Prop}
    {q : K' → V' → Prop} [∀ k v, Decidable (p k v)] [∀ k v, Decidable (q k v)]
    (h : ∀ k v, t.lookup k = some v →
      (p k v ↔ ∃ k' v', up k v = some k' ∧ u.lookup k' = some v' ∧ q k' v')) (f : K → V → M) :
    (sum u fun k' v' =>
      if q k' v' then sum t fun k v => if up k v = some k' then f k v else 0 else 0) =
      sum t fun k v => if p k v then f k v else 0 := by
  calc
    _ = sum u fun k' v' => sum t fun k v =>
          if q k' v' ∧ up k v = some k' then f k v else 0 := by
        apply sum_congr
        intro k' v' _
        by_cases hq : q k' v'
        · simp [hq]
        · simp [hq, sum]
    _ = sum t fun k v => sum u fun k' v' =>
          if q k' v' ∧ up k v = some k' then f k v else 0 := sum_comm u t _
    _ = _ := by
        apply sum_congr
        intro k v hv
        have hmeets := h k v hv
        cases hup : up k v with
        | none =>
            rw [if_neg (by simp [hmeets, hup])]
            simp [sum]
        | some target =>
            rw [sum_eq_elim target (fun k' v' _ hne => if_neg (by simp [Ne.symm hne]))]
            cases hlookup : u.lookup target with
            | none =>
                rw [if_neg (by simp [hmeets, hup, hlookup])]
                rfl
            | some => simp [hmeets, hup, hlookup]

theorem sum_insert
    (t : Table K V) (k : K) (v : V) (f : K → V → M) :
    sum (t.insert k v) f + (t.lookup k).elim 0 (f k) = f k v + sum t f := by
  rw [← sum_erase t k f, ← add_assoc]
  rfl

theorem sum_insert_of_lookup_none
    (hlookup : t.lookup k = none) (v : V) (f : K → V → M) :
    sum (t.insert k v) f = f k v + sum t f := by
  have h := sum_insert t k v f
  simpa [hlookup] using h

theorem sum_le_sum
    [PartialOrder M] [IsOrderedAddMonoid M] {g : K → V → M}
    (h : ∀ k v, t.lookup k = some v → f k v ≤ g k v) :
    sum t f ≤ sum t g := by
  apply List.sum_le_sum
  rintro ⟨k, v⟩ hmem
  exact h k v (mem_entries_iff_lookup.mp hmem)

end Sum

section Count

@[simp]
theorem count_empty (p : K → V → Bool) : count (∅ : Table K V) p = 0 := rfl

theorem count_update
    (t : Table K V) (g : K → V → V) (p : K → V → Bool) :
    count (update t g) p = count t fun k v => p k (g k v) :=
  sum_update t g fun k v => if p k v then 1 else 0

theorem length_filter_rows
    (t : Table K V) (p : V → Bool) :
    ((t.entries.map fun row => row.2).filter p).length = count t fun _ v => p v := by
  unfold count sum
  induction t.entries with
  | nil => rfl
  | cons row rows ih => cases hp : p row.2 <;> simp [hp, ih, Nat.add_comm]

variable [DecidableEq K]

theorem count_congr
    {q : K → V → Bool} (h : ∀ k v, t.lookup k = some v → p k v = q k v) :
    count t p = count t q := by
  apply sum_congr
  intro k v hlookup
  rw [h k v hlookup]

theorem count_le_count
    {q : K → V → Bool} (h : ∀ k v, t.lookup k = some v → p k v = true → q k v = true) :
    count t p ≤ count t q := by
  apply sum_le_sum
  intro k v hlookup
  split
  · next hp => simp [h k v hlookup hp]
  · exact Nat.zero_le _

theorem count_deleteWhere
    (t : Table K V) (p q : K → V → Bool) :
    count (deleteWhere t p) q = count t fun k v => !p k v && q k v := by
  unfold count
  rw [sum_deleteWhere]
  apply sum_congr
  intro k v _
  cases hp : p k v <;> simp [hp]

theorem count_deleteWhere_add
    (t : Table K V) (p q : K → V → Bool) :
    count (deleteWhere t p) q + count t (fun k v => p k v && q k v) = count t q := by
  rw [count_deleteWhere]
  unfold count
  rw [← sum_add]
  apply sum_congr
  intro k v _
  cases hp : p k v <;> cases hq : q k v <;> simp [hp, hq]

theorem count_insert
    (t : Table K V) (k : K) (v : V) (p : K → V → Bool) :
    count (t.insert k v) p + (if (t.lookup k).any (p k) then 1 else 0) =
      (if p k v then 1 else 0) + count t p := by
  have h := sum_insert t k v fun k v => if p k v then 1 else 0
  cases hlookup : t.lookup k <;> simpa [count, hlookup] using h

theorem count_erase
    (t : Table K V) (k : K) (p : K → V → Bool) :
    count (t.erase k) p + (if (t.lookup k).any (p k) then 1 else 0) = count t p := by
  have h := sum_erase t k fun k v => if p k v then 1 else 0
  cases hlookup : t.lookup k <;> simpa [count, hlookup] using h

theorem count_eq_zero_iff :
    count t p = 0 ↔ ∀ k v, t.lookup k = some v → p k v = false := by
  constructor
  · intro hzero k v hlookup
    have hrow := List.sum_eq_zero_iff_forall_eq_nat.mp hzero
      (if p k v then 1 else 0)
      (List.mem_map.mpr ⟨⟨k, v⟩, mem_entries_iff_lookup.mpr hlookup, rfl⟩)
    by_contra hp
    simp [hp] at hrow
  · intro hall
    apply sum_eq_zero
    intro k v hlookup
    simp [hall k v hlookup]

theorem count_le_one
    (h : ∀ k v k' v', t.lookup k = some v → p k v = true →
      t.lookup k' = some v' → p k' v' = true → k = k') :
    count t p ≤ 1 := by
  by_cases hzero : count t p = 0
  · omega
  · rw [count_eq_zero_iff] at hzero
    push Not at hzero
    obtain ⟨k, v, hlookup, hp⟩ := hzero
    have hrest : count (t.erase k) p = 0 := by
      rw [count_eq_zero_iff]
      intro k' v' hlookup'
      rw [lookup_erase_eq] at hlookup'
      split at hlookup'
      · cases hlookup'
      · next hne =>
        by_contra hp'
        exact hne (h k v k' v' hlookup (by simpa using hp) hlookup'
          (by simpa using hp')).symm
    have herase := sum_erase t k fun k v => if p k v then 1 else 0
    simp only [hlookup, Option.elim] at herase
    change count (t.erase k) p + (if p k v then 1 else 0) = count t p at herase
    split at herase <;> omega

/-- Rows that determine their key are none or one. -/
theorem count_eq_any
    (h : ∀ k v k' v', t.lookup k = some v → p k v = true →
      t.lookup k' = some v' → p k' v' = true → k = k') :
    count t p = if any t p then 1 else 0 := by
  have hone := count_le_one h
  cases hany : any t p with
  | false =>
      rw [any_eq_false_iff] at hany
      simp [count_eq_zero_iff.mpr hany]
  | true =>
      have hsome : count t p ≠ 0 := by
        intro hzero
        obtain ⟨k, v, hlookup, hp⟩ := any_iff.mp hany
        rw [count_eq_zero_iff.mp hzero k v hlookup] at hp
        cases hp
      rw [if_pos rfl]
      omega

theorem count_key (t : Table K V) (key : K) :
    count t (fun k _ => k = key) = if (t.lookup key).isSome then 1 else 0 := by
  rw [count_eq_any]
  · have hany : any t (fun k _ => decide (k = key)) = (t.lookup key).isSome := by
      rw [Bool.eq_iff_iff, any_iff, Option.isSome_iff_exists]
      constructor
      · rintro ⟨k, v, hlookup, hkey⟩
        rw [decide_eq_true_eq] at hkey
        subst hkey
        exact ⟨v, hlookup⟩
      · rintro ⟨v, hlookup⟩
        exact ⟨key, v, hlookup, by simp⟩
    rw [hany]
  · intro k v k' v' _ hk _ hk'
    rw [decide_eq_true_eq] at hk hk'
    rw [hk, hk']

end Count

section Idle

theorem deleteWhere_eq_self [DecidableEq K] (h : ∀ k v, t.lookup k = some v → p k v = false) :
    deleteWhere t p = t := by
  apply AList.ext
  apply List.filter_eq_self.mpr
  rintro ⟨k, v⟩ hmem
  simp [h k v (mem_entries_iff_lookup.mp hmem)]

theorem update_eq_self {f : K → V → V} (h : ∀ k v, f k v = v) :
    update t f = t := by
  apply AList.ext
  simp [update, h]

end Idle

section NewRows

variable [DecidableEq K]

/-- The rows of `t'` under keys that `t` does not have. -/
def newRows (t t' : Table K V) : List V :=
  (t'.entries.filter fun row => (t.lookup row.1).isNone).map fun row => row.2

theorem mem_newRows :
    v ∈ newRows t t' ↔ ∃ k, t.lookup k = none ∧ t'.lookup k = some v := by
  unfold newRows
  rw [List.mem_map]
  constructor
  · intro h
    obtain ⟨⟨k, w⟩, hrow, rfl⟩ := h
    obtain ⟨hmem, hnone⟩ := List.mem_filter.mp hrow
    exact ⟨k, Option.isNone_iff_eq_none.mp hnone, mem_entries_iff_lookup.mp hmem⟩
  · intro h
    obtain ⟨k, hnone, hlookup⟩ := h
    refine ⟨⟨k, v⟩, List.mem_filter.mpr ⟨mem_entries_iff_lookup.mpr hlookup, ?_⟩, rfl⟩
    exact Option.isNone_iff_eq_none.mpr hnone

theorem newRows_eq_nil (h : ∀ k, t.lookup k = none → t'.lookup k = none) :
    newRows t t' = [] := by
  apply List.eq_nil_iff_forall_not_mem.mpr
  intro v hv
  obtain ⟨k, hnone, hlookup⟩ := mem_newRows.mp hv
  rw [h k hnone] at hlookup
  cases hlookup

theorem countP_newRows (t t' : Table K V) (p : V → Bool) :
    (newRows t t').countP p = count t' fun k v => (t.lookup k).isNone && p v := by
  have hcount : ∀ q : K → V → Bool, count t' q = t'.entries.countP fun row => q row.1 row.2 := by
    intro q
    unfold count sum
    induction t'.entries with
    | nil => rfl
    | cons row rows ih => simp [List.countP_cons, ih, Nat.add_comm]
  unfold newRows
  rw [List.countP_map, List.countP_filter, hcount]
  apply List.countP_congr
  intro row _
  simp [and_comm]

theorem length_newRows (t t' : Table K V) :
    (newRows t t').length = count t' fun k _ => (t.lookup k).isNone := by
  have h := countP_newRows t t' fun _ => true
  simpa using h

theorem length_newRows_insert (hold : t.lookup k = none) (hfresh : t'.lookup k = none) (v : V) :
    (newRows t (t'.insert k v)).length = (newRows t t').length + 1 := by
  have hinsert := count_insert t' k v fun k _ => (t.lookup k).isNone
  rw [length_newRows, length_newRows]
  simp only [hfresh, hold, Option.any_none, Bool.false_eq_true, if_false, Option.isNone_none,
    if_true] at hinsert
  omega

/-- The new row of an insert under a fresh key. -/
theorem countP_newRows_insert (hfresh : t.lookup k = none) (v : V) (p : V → Bool) :
    (newRows t (t.insert k v)).countP p = if p v then 1 else 0 := by
  have hinsert := count_insert t k v fun k v => (t.lookup k).isNone && p v
  have hold : count t (fun k v => (t.lookup k).isNone && p v) = 0 := by
    rw [count_eq_zero_iff]
    intro k' v' hlookup
    simp [hlookup]
  rw [countP_newRows]
  simp only [hfresh, Option.any_none, Bool.false_eq_true, if_false, Option.isNone_none,
    Bool.true_and] at hinsert
  omega

/-- The rows that a delete took. -/
theorem countP_newRows_deleteWhere (t : Table K V) (q : K → V → Bool) (p : V → Bool) :
    (newRows (deleteWhere t q) t).countP p = count t fun k v => q k v && p v := by
  rw [countP_newRows]
  apply count_congr
  intro k v hlookup
  rw [lookup_deleteWhere, hlookup]
  cases hq : q k v <;> simp [Option.filter, hq]

theorem countP_newRows_erase (hrow : t.lookup k = some v) (p : V → Bool) :
    (newRows (t.erase k) t).countP p = if p v then 1 else 0 := by
  have herase := count_erase t k fun k' v => ((t.erase k).lookup k').isNone && p v
  have hrest : count (t.erase k) (fun k' v => ((t.erase k).lookup k').isNone && p v) = 0 := by
    rw [count_eq_zero_iff]
    intro k' v' hlookup
    simp [hlookup]
  rw [countP_newRows]
  simp only [hrow, Option.any_some, lookup_erase_eq, if_true, Option.isNone_none,
    Bool.true_and] at herase hrest
  simp only [lookup_erase_eq]
  omega

end NewRows

end Table

export Table (lookup_insert_eq lookup_erase_eq lookup_update lookup_deleteWhere insert_cases
  erase_cases mem_entries_iff_lookup)
