import Mathlib.Data.List.Induction
import Mathlib.Logic.Function.Basic

/-!
# Sets that override an inherited one

An owner inherits a set of rows until the first edit of its own, and again from a reset
on.  What its edits add up to is a replay of those since the last reset.
-/

namespace Overlay

variable {K V : Type*}

abbrev RowSet (K V : Type*) := K → Option V

inductive Op (K V : Type*) where
  | put (key : K) (row : V)
  | drop (key : K)
  | reset

def RowSet.empty : RowSet K V := fun _ => none

def Op.isReset : Op K V → Bool
  | .reset => true
  | _ => false

/-- The edits since the last reset. -/
def sinceReset (ops : List (Op K V)) : List (Op K V) :=
  ops.foldl (fun edits op => if op.isReset then [] else edits ++ [op]) []

def base (own : Option (RowSet K V)) (ops : List (Op K V)) : RowSet K V :=
  if ops.any Op.isReset then .empty else own.getD .empty

theorem sinceReset_snoc (ops : List (Op K V)) (op : Op K V) :
    sinceReset (ops ++ [op]) = if op.isReset then [] else sinceReset ops ++ [op] := by
  simp [sinceReset]

theorem base_snoc (own : Option (RowSet K V)) (ops : List (Op K V)) (op : Op K V) :
    base own (ops ++ [op]) = if op.isReset then .empty else base own ops := by
  unfold base
  rw [List.any_append]
  cases hreset : op.isReset <;> simp [hreset]

variable [DecidableEq K]

/-- What an edit makes of a set. -/
def Op.edit : Op K V → RowSet K V → RowSet K V
  | .put key row, rows => Function.update rows key (some row)
  | .drop key, rows => Function.update rows key none
  | .reset, _ => .empty

def replay (rows : RowSet K V) (edits : List (Op K V)) : RowSet K V :=
  edits.foldl (fun rows op => op.edit rows) rows

theorem replay_snoc (rows : RowSet K V) (edits : List (Op K V)) (op : Op K V) :
    replay rows (edits ++ [op]) = op.edit (replay rows edits) := by
  simp [replay]

/-- What the owner has decided: nothing, so that it inherits, or a set of its own. -/
def Op.decide (op : Op K V) (own : Option (RowSet K V)) : Option (RowSet K V) :=
  if op.isReset then none else some (op.edit (own.getD .empty))

def decided (own : Option (RowSet K V)) (ops : List (Op K V)) : Option (RowSet K V) :=
  ops.foldl (fun own op => op.decide own) own

theorem decided_snoc (own : Option (RowSet K V)) (ops : List (Op K V)) (op : Op K V) :
    decided own (ops ++ [op]) = op.decide (decided own ops) := by
  simp [decided]

theorem getD_decided (own : Option (RowSet K V)) (ops : List (Op K V)) :
    (decided own ops).getD .empty = replay (base own ops) (sinceReset ops) := by
  induction ops using List.reverseRecOn with
  | nil => rfl
  | append_singleton ops op ih =>
      rw [decided_snoc, sinceReset_snoc, base_snoc]
      unfold Op.decide
      by_cases hreset : op.isReset = true
      · rw [if_pos hreset, if_pos hreset, if_pos hreset]
        rfl
      · rw [if_neg hreset, if_neg hreset, if_neg hreset, replay_snoc, ← ih]
        rfl

end Overlay
