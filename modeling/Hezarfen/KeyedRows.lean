import Hezarfen.Table
import Mathlib.Data.List.Induction
import Mathlib.Data.List.Nodup
import Mathlib.Data.List.Sort

/-!
# One row for each key

Rows in the order of a key, and two ways to keep one row for each key of a list: the
first row under the key, and the row of the greatest rank under the key, where the keys
come out in the order in which they were first met.  On rows whose rank tells them apart
under their key, the second keeps exactly the rows that no other outranks, and so does the
first when the list falls in rank under every key.
-/

namespace Keyed

section Order

variable {α B : Type*} [LinearOrder B]

/-- `ORDER BY f`; rows with one value stay as they come. -/
def sortBy (f : α → B) (rows : List α) : List α := rows.insertionSort fun a b => f a ≤ f b

theorem sortBy_perm (f : α → B) (rows : List α) : (sortBy f rows).Perm rows :=
  List.perm_insertionSort _ _

@[simp]
theorem mem_sortBy {f : α → B} {rows : List α} {row : α} : row ∈ sortBy f rows ↔ row ∈ rows :=
  (sortBy_perm f rows).mem_iff

theorem pairwise_sortBy (f : α → B) (rows : List α) :
    (sortBy f rows).Pairwise fun a b => f a ≤ f b := by
  have : Std.Total fun a b : α => f a ≤ f b := ⟨fun a b => le_total (f a) (f b)⟩
  have : IsTrans α fun a b => f a ≤ f b := ⟨fun _ _ _ hab hbc => le_trans hab hbc⟩
  exact List.pairwise_insertionSort _ _

/-- Rows that a key tells apart have one order under every key that orders them alike. -/
theorem sortBy_eq_sortBy {C : Type*} [LinearOrder C] {f : α → B} {g : α → C} {rows rows' : List α}
    (hperm : rows.Perm rows') (hinj : ∀ a ∈ rows, ∀ b ∈ rows, f a = f b → a = b)
    (hle : ∀ a ∈ rows, ∀ b ∈ rows, f a ≤ f b ↔ g a ≤ g b) : sortBy f rows = sortBy g rows' := by
  have hsame : (sortBy g rows').Perm rows := (sortBy_perm g rows').trans hperm.symm
  have hpairwise : (sortBy g rows').Pairwise fun a b => f a ≤ f b :=
    (pairwise_sortBy g rows').imp_of_mem fun ha hb =>
      (hle _ (hsame.mem_iff.mp ha) _ (hsame.mem_iff.mp hb)).mpr
  exact ((sortBy_perm f rows).trans hsame.symm).eq_of_pairwise
    (fun a b ha hb hab hba =>
      hinj a (mem_sortBy.mp ha) b (hsame.mem_iff.mp hb) (le_antisymm hab hba))
    (pairwise_sortBy f rows) hpairwise

end Order

variable {α K R : Type*} [DecidableEq K] {key : α → K}

/-! ## The first row under each key -/

def addNew (key : α → K) (kept : List α) (row : α) : List α :=
  if kept.any fun other => decide (key other = key row) then kept else kept ++ [row]

/-- The rows whose keys are new, behind the ones already kept. -/
def extend (key : α → K) (kept rows : List α) : List α := rows.foldl (addNew key) kept

/-- `DISTINCT ON` over rows that are in their order already. -/
def distinctOn (key : α → K) (rows : List α) : List α := extend key [] rows

theorem any_key_iff (key : α → K) (kept : List α) (row : α) :
    (kept.any fun other => decide (key other = key row)) = true ↔ key row ∈ kept.map key := by
  simp [List.any_eq_true]

theorem extend_cons (key : α → K) (kept : List α) (row : α) (rows : List α) :
    extend key kept (row :: rows) = extend key (addNew key kept row) rows := rfl

variable {kept : List α}

theorem nodup_addNew (h : (kept.map key).Nodup) (row : α) :
    ((addNew key kept row).map key).Nodup := by
  unfold addNew
  split
  · exact h
  · next hnew =>
    rw [any_key_iff] at hnew
    rw [List.map_append, List.nodup_append']
    exact ⟨h, by simp, List.disjoint_singleton.mpr hnew⟩

theorem nodup_extend (h : (kept.map key).Nodup) (rows : List α) :
    ((extend key kept rows).map key).Nodup := by
  induction rows generalizing kept with
  | nil => exact h
  | cons row rows ih => exact ih (nodup_addNew h row)

theorem nodup_distinctOn (key : α → K) (rows : List α) :
    ((distinctOn key rows).map key).Nodup :=
  nodup_extend (by simp) rows

variable {rows : List α}

theorem map_key_extend {k : K} :
    k ∈ (extend key kept rows).map key ↔ k ∈ kept.map key ∨ k ∈ rows.map key := by
  induction rows generalizing kept with
  | nil => simp [extend]
  | cons row rows ih =>
      rw [extend_cons, ih]
      unfold addNew
      split
      · next hold =>
        rw [any_key_iff] at hold
        rw [List.map_cons, List.mem_cons]
        constructor
        · rintro (h | h)
          · exact .inl h
          · exact .inr (.inr h)
        · rintro (h | rfl | h)
          · exact .inl h
          · exact .inl hold
          · exact .inr h
      · simp only [List.map_append, List.mem_append, List.map_cons, List.map_nil, List.mem_cons,
          List.not_mem_nil, or_false]
        tauto

theorem mem_extend_id {kept rows : List K} {k : K} :
    k ∈ extend id kept rows ↔ k ∈ kept ∨ k ∈ rows := by
  have h : k ∈ (extend id kept rows).map id ↔ k ∈ kept.map id ∨ k ∈ rows.map id :=
    map_key_extend
  simpa using h

theorem nodup_extend_id {kept : List K} (h : kept.Nodup) (rows : List K) :
    (extend id kept rows).Nodup := by
  have hid : ((extend id kept rows).map id).Nodup := nodup_extend (by simpa using h) rows
  simpa using hid

variable {row : α}

/-- The row that stands first under its key. -/
theorem mem_extend_iff :
    row ∈ extend key kept rows ↔
      row ∈ kept ∨ key row ∉ kept.map key ∧
        rows.find? (fun other => decide (key other = key row)) = some row := by
  induction rows generalizing kept with
  | nil => simp [extend]
  | cons first rows ih =>
      rw [extend_cons, ih]
      by_cases hkey : key first = key row
      · rw [List.find?_cons_of_pos (by simpa using hkey)]
        unfold addNew
        split
        · next hold =>
          rw [any_key_iff, hkey] at hold
          simp [hold]
        · next hnew =>
          rw [any_key_iff, hkey] at hnew
          simp only [List.mem_append, List.mem_singleton, List.map_append, List.map_cons,
            List.map_nil, hkey, Option.some.injEq]
          tauto
      · rw [List.find?_cons_of_neg (by simpa using hkey)]
        have hne : row ≠ first := fun h => hkey (h ▸ rfl)
        have hkept : row ∈ addNew key kept first ↔ row ∈ kept := by
          unfold addNew
          split
          · rfl
          · simp [hne]
        have hkeys : key row ∈ (addNew key kept first).map key ↔ key row ∈ kept.map key := by
          unfold addNew
          split
          · rfl
          · simp only [List.map_append, List.map_cons, List.map_nil, List.mem_append,
              List.mem_singleton, or_iff_left_iff_imp]
            exact fun h => absurd h.symm hkey
        rw [hkept, hkeys]

theorem mem_distinctOn_iff :
    row ∈ distinctOn key rows ↔
      rows.find? (fun other => decide (key other = key row)) = some row := by
  unfold distinctOn
  rw [mem_extend_iff]
  simp

theorem mem_of_mem_distinctOn (h : row ∈ distinctOn key rows) :
    row ∈ rows :=
  List.mem_of_find?_eq_some (mem_distinctOn_iff.mp h)

/-- Rows that the key tells apart are all kept. -/
theorem mem_distinctOn_of_inj
    (hinj : ∀ a ∈ rows, ∀ b ∈ rows, key a = key b → a = b) :
    row ∈ distinctOn key rows ↔ row ∈ rows := by
  refine ⟨mem_of_mem_distinctOn, fun h => ?_⟩
  have hkey : key row ∈ (distinctOn key rows).map key :=
    map_key_extend.mpr (.inr (List.mem_map_of_mem h))
  obtain ⟨other, hother, heq⟩ := List.mem_map.mp hkey
  exact hinj other (mem_of_mem_distinctOn hother) row h heq ▸ hother

/-! ## The row of the greatest rank -/

variable [LinearOrder R] {rank : α → R}

/-- The keys in the order they were met, and the best row of each so far. -/
structure Best (K α : Type*) where
  order : List K
  best : Table K α

def Best.add (key : α → K) (rank : α → R) (s : Best K α) (row : α) : Best K α :=
  match s.best.lookup (key row) with
  | some existing =>
      if rank row ≤ rank existing then s
      else { s with best := s.best.insert (key row) row }
  | none => ⟨s.order ++ [key row], s.best.insert (key row) row⟩

def latest (key : α → K) (rank : α → R) (rows : List α) : List α :=
  let s := rows.foldl (Best.add key rank) ⟨[], ∅⟩
  s.order.filterMap s.best.lookup

/-- What the keys seen so far hold. -/
structure Best.Of (key : α → K) (rank : α → R) (s : Best K α) (rows : List α) : Prop where
  nodup : s.order.Nodup
  listed : ∀ k, k ∈ s.order ↔ (s.best.lookup k).isSome
  under : ∀ k row, s.best.lookup k = some row →
    key row = k ∧ row ∈ rows ∧ ∀ other ∈ rows, key other = k → rank other ≤ rank row
  met : ∀ row ∈ rows, key row ∈ s.order

theorem Best.Of.add {s : Best K α} (h : s.Of key rank rows) (row : α) :
    (Best.add key rank s row).Of key rank (rows ++ [row]) := by
  unfold Best.add
  split
  · next existing hexisting =>
    obtain ⟨-, hmem, hmax⟩ := h.under _ _ hexisting
    have hlisted : key row ∈ s.order := (h.listed _).mpr (by simp [hexisting])
    have hmet : ∀ other ∈ rows ++ [row], key other ∈ s.order := by
      intro other hother
      rcases List.mem_append.mp hother with hother | hother
      · exact h.met other hother
      · rw [List.mem_singleton.mp hother]
        exact hlisted
    split
    · next hle =>
      refine ⟨h.nodup, h.listed, fun k other hother => ?_, hmet⟩
      obtain ⟨hkey, hrows, hbest⟩ := h.under k other hother
      refine ⟨hkey, List.mem_append_left _ hrows, fun x hx hxkey => ?_⟩
      rcases List.mem_append.mp hx with hx | hx
      · exact hbest x hx hxkey
      · obtain rfl := List.mem_singleton.mp hx
        rw [hxkey, hother, Option.some.injEq] at hexisting
        exact hexisting ▸ hle
    · next hlt =>
      refine ⟨h.nodup, fun k => ?_, fun k other hother => ?_, hmet⟩
      · rw [h.listed k, lookup_insert_eq]
        by_cases hk : k = key row
        · subst hk
          simp [hexisting]
        · simp [hk]
      · rw [lookup_insert_eq] at hother
        split at hother
        · next hk =>
          obtain rfl := Option.some.inj hother
          refine ⟨hk.symm, by simp, fun x hx hxkey => ?_⟩
          rcases List.mem_append.mp hx with hx | hx
          · exact (hmax x hx (hxkey.trans hk)).trans (le_of_not_ge hlt)
          · exact (List.mem_singleton.mp hx) ▸ le_rfl
        · next hk =>
          obtain ⟨hkey, hrows, hbest⟩ := h.under k other hother
          refine ⟨hkey, List.mem_append_left _ hrows, fun x hx hxkey => ?_⟩
          rcases List.mem_append.mp hx with hx | hx
          · exact hbest x hx hxkey
          · obtain rfl := List.mem_singleton.mp hx
            exact absurd hxkey.symm hk
  · next hnone =>
    have hnew : key row ∉ s.order := fun hmem => by
      have hsome := (h.listed _).mp hmem
      simp [hnone] at hsome
    refine ⟨?_, fun k => ?_, fun k other hother => ?_, fun other hother => ?_⟩
    · rw [List.nodup_append']
      exact ⟨h.nodup, by simp, List.disjoint_singleton.mpr hnew⟩
    · rw [List.mem_append, List.mem_singleton, h.listed k, lookup_insert_eq]
      by_cases hk : k = key row <;> simp [hk]
    · rw [lookup_insert_eq] at hother
      split at hother
      · next hk =>
        obtain rfl := Option.some.inj hother
        refine ⟨hk.symm, by simp, fun x hx hxkey => ?_⟩
        rcases List.mem_append.mp hx with hx | hx
        · exact absurd (hxkey.trans hk ▸ h.met x hx) hnew
        · exact (List.mem_singleton.mp hx) ▸ le_rfl
      · next hk =>
        obtain ⟨hkey, hrows, hbest⟩ := h.under k other hother
        refine ⟨hkey, List.mem_append_left _ hrows, fun x hx hxkey => ?_⟩
        rcases List.mem_append.mp hx with hx | hx
        · exact hbest x hx hxkey
        · obtain rfl := List.mem_singleton.mp hx
          exact absurd hxkey.symm hk
    · rcases List.mem_append.mp hother with hother | hother
      · exact List.mem_append_left _ (h.met other hother)
      · simp [List.mem_singleton.mp hother]

theorem best_of (key : α → K) (rank : α → R) (rows : List α) :
    (rows.foldl (Best.add key rank) ⟨[], ∅⟩).Of key rank rows := by
  induction rows using List.reverseRecOn with
  | nil => constructor <;> simp
  | append_singleton rows row ih =>
      rw [List.foldl_append]
      exact ih.add row

def Told (key : α → K) (rank : α → R) (rows : List α) : Prop :=
  ∀ row ∈ rows, ∀ other ∈ rows,
    key row = key other → rank row = rank other → row = other

/-- No row under the key of `row` outranks it. -/
def Top (key : α → K) (rank : α → R) (rows : List α) (row : α) : Prop :=
  row ∈ rows ∧ ∀ other ∈ rows, key other = key row → rank other ≤ rank row

theorem mem_latest_iff (htold : Told key rank rows) :
    row ∈ latest key rank rows ↔ Top key rank rows row := by
  have hof := best_of key rank rows
  unfold latest
  simp only [List.mem_filterMap]
  constructor
  · rintro ⟨k, -, hk⟩
    obtain ⟨rfl, hmem, hmax⟩ := hof.under k row hk
    exact ⟨hmem, hmax⟩
  · rintro ⟨hmem, hmax⟩
    have hlisted := hof.met row hmem
    obtain ⟨best, hbest⟩ := Option.isSome_iff_exists.mp ((hof.listed _).mp hlisted)
    obtain ⟨hkey, hrows, hle⟩ := hof.under _ _ hbest
    obtain rfl := htold best hrows row hmem hkey
      (le_antisymm (hmax best hrows hkey) (hle row hmem rfl))
    exact ⟨_, hlisted, hbest⟩

theorem nodup_latest (key : α → K) (rank : α → R) (rows : List α) :
    (latest key rank rows).Nodup := by
  have hof := best_of key rank rows
  unfold latest
  refine hof.nodup.filterMap fun k k' row hk hk' => ?_
  exact (hof.under k row hk).1.symm.trans (hof.under k' row hk').1

theorem mem_distinctOn_iff_top (htold : Told key rank rows)
    (hfall : rows.Pairwise fun row other => key row = key other → rank other ≤ rank row) :
      row ∈ distinctOn key rows ↔ Top key rank rows row := by
  have hfirst : ∀ row ∈ distinctOn key rows, Top key rank rows row := by
    intro row hrow
    refine ⟨mem_of_mem_distinctOn hrow, fun other hother hkey => ?_⟩
    obtain ⟨-, before, after, hrows, hbefore⟩ :=
      List.find?_eq_some_iff_append.mp (mem_distinctOn_iff.mp hrow)
    rw [hrows] at hother hfall
    have hafter := (List.pairwise_cons.mp (List.pairwise_append.mp hfall).2.1).1
    rcases List.mem_append.mp hother with hother | hother
    · exact absurd hkey (by simpa using hbefore other hother)
    · rcases List.mem_cons.mp hother with rfl | hother
      · exact le_rfl
      · exact hafter other hother hkey.symm
  refine ⟨hfirst row, fun htop => ?_⟩
  have hkeys : key row ∈ (distinctOn key rows).map key :=
    map_key_extend.mpr (.inr (List.mem_map_of_mem htop.1))
  obtain ⟨first, hmem, hkey⟩ := List.mem_map.mp hkeys
  have hother := hfirst first hmem
  obtain rfl := htold first hother.1 row htop.1 hkey
    (le_antisymm (htop.2 first hother.1 hkey) (hother.2 row htop.1 hkey.symm))
  exact hmem

end Keyed
