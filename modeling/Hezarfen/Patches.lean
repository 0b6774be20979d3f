import Mathlib.Data.List.Induction

/-!
# Columns that a patch keeps, clears or sets

A patch of a nullable column is absent, a null or a value.  Over a sequence of patches the
last one that names the column decides.  A column written through a `COALESCE` takes a
null for an absence, and differs from the fold exactly when the last word is a null over a
column that is not empty.
-/

namespace Patch

variable {α : Type*}

/-- Absent keeps the column, a null clears it, a value sets it. -/
def apply (stored : Option α) (patch : Option (Option α)) : Option α := patch.getD stored

/-- The column as `COALESCE(value, column)` writes it. -/
def coalesce (stored : Option α) (patch : Option (Option α)) : Option α :=
  patch.join.or stored

def lastWord (patches : List (Option (Option α))) : Option (Option α) :=
  (patches.filterMap id).getLast?

def Empty (stored : Option α) (patches : List (Option (Option α))) : Prop :=
  stored = none ∧ ∀ patch ∈ patches, patch.join = none

theorem lastWord_append (patches : List (Option (Option α))) (patch : Option (Option α)) :
    lastWord (patches ++ [patch]) = patch.or (lastWord patches) := by
  cases patch <;> simp [lastWord, List.filterMap_append]

theorem foldl_apply (stored : Option α) (patches : List (Option (Option α))) :
    patches.foldl apply stored = (lastWord patches).getD stored := by
  induction patches using List.reverseRecOn with
  | nil => rfl
  | append_singleton patches patch ih =>
      rw [List.foldl_append, List.foldl_cons, List.foldl_nil, ih, lastWord_append]
      cases patch <;> rfl

variable {patches : List (Option (Option α))} {stored : Option α}

theorem empty_append
    {patch : Option (Option α)} :
    Empty stored (patches ++ [patch]) ↔ Empty stored patches ∧ patch.join = none := by
  simp [Empty, or_imp, forall_and, and_assoc]

theorem foldl_coalesce_eq_none :
    patches.foldl coalesce stored = none ↔ Empty stored patches := by
  induction patches using List.reverseRecOn with
  | nil => simp [Empty]
  | append_singleton patches patch ih =>
      rw [List.foldl_append, List.foldl_cons, List.foldl_nil, empty_append, ← ih, coalesce,
        Option.or_eq_none_iff, and_comm]

theorem foldl_coalesce_of_lastWord
    (h : lastWord patches ≠ some none) :
    patches.foldl coalesce stored = patches.foldl apply stored := by
  induction patches using List.reverseRecOn with
  | nil => rfl
  | append_singleton patches patch ih =>
      rw [lastWord_append] at h
      rw [List.foldl_append, List.foldl_append]
      cases patch with
      | none => exact ih (by simpa using h)
      | some value =>
          cases value with
          | none => exact absurd rfl h
          | some => rfl

/-- The fold through `COALESCE` is the fold of the patches if and only if a last word that
clears meets a column that was empty all along. -/
theorem foldl_coalesce_eq_apply_iff :
    patches.foldl coalesce stored = patches.foldl apply stored ↔
      (lastWord patches = some none → Empty stored patches) := by
  by_cases hlast : lastWord patches = some none
  · have hcleared : patches.foldl apply stored = none := by rw [foldl_apply, hlast]; rfl
    rw [hcleared, foldl_coalesce_eq_none]
    exact ⟨fun hempty _ => hempty, fun hempty => hempty hlast⟩
  · exact ⟨fun _ hword => absurd hword hlast, fun _ => foldl_coalesce_of_lastWord hlast⟩

end Patch
