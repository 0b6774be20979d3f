import Hezarfen.Snapshots
import Mathlib.Data.List.Dedup

/-!
# Reference counts under READ COMMITTED

One table keeps a counter for each key, the rows of another add to these counters.  What a
transaction `owed` is the difference between what its rows and what its counters gain: a
transaction that owes nothing when it commits leaves every counter right.

A release is clamped at zero.  It is exact when the transaction owes it already, because
the counter it sees is then at least as high.
-/

namespace ReadCommitted

variable {tx : ℕ}

structure RefCount (K C V : Type*) where
  counter : C → ℤ
  weight : K → V → ℤ
  weight_nonneg : ∀ k v, 0 ≤ weight k v

namespace RefCount

variable {K C J V : Type*} [DecidableEq K] (R : RefCount K C V)

def reads (k : K) : K → C → ℤ := fun k' c => if k' = k then R.counter c else 0

def Counted (counters : Rows K C) (rows : Rows J V) : Prop :=
  ∀ k, counters.total (R.reads k) = rows.total fun _ => R.weight k

def owed (tx : ℕ) (counters : Rows K C) (rows : Rows J V) (k : K) : ℤ :=
  (rows.gain (fun _ => R.weight k) tx) - counters.gain (R.reads k) tx

/-- The clamped release of `n`. -/
def Releases (n : ℤ) (f : C → C) : Prop := ∀ c, R.counter (f c) = max (R.counter c - n) 0

variable {R}

theorem total_reads (counters : Rows K C) (k : K) :
    counters.total (R.reads k) = Row.amount R.counter (counters.row k).committed :=
  Rows.total_single k R.counter counters

variable {counters : Rows K C} {rows : Rows J V}

theorem Counted.commit (h : R.Counted counters rows)
    (howed : ∀ k, R.owed tx counters rows k = 0) :
    R.Counted (counters.commit tx) (rows.commit tx) := by
  intro k
  have hold := h k
  have hzero := howed k
  unfold owed at hzero
  rw [Rows.total_commit, Rows.total_commit, hold]
  omega

theorem Counted.rollback (h : R.Counted counters rows)
    (tx : ℕ) : R.Counted (counters.rollback tx) (rows.rollback tx) := by
  intro k
  rw [Rows.total_rollback, Rows.total_rollback]
  exact h k

theorem Counted.seen (h : R.Counted counters rows)
    (tx : ℕ) (k : K) :
    Row.amount R.counter ((counters.row k).seen tx) + R.owed tx counters rows k =
      (rows.commit tx).total fun _ => R.weight k := by
  have hsum : counters.total (R.reads k) + counters.gain (R.reads k) tx =
      Row.amount R.counter ((counters.row k).seen tx) :=
    Rows.total_seen k R.counter tx counters
  have hrows := Rows.total_commit (fun _ => R.weight k) tx rows
  have hold := h k
  unfold owed
  omega

variable {counters' : Rows K C} {k : K} {old : Option C} {q : C → Bool}

theorem owed_counters
    {f : C → Option C}
    (halter : counters.alterWhere tx k q f = some (old, counters')) (k' : K) :
    R.owed tx counters' rows k' = R.owed tx counters rows k' -
      if k = k' then Row.amount R.counter (old.bind f) - Row.amount R.counter old else 0 := by
  unfold owed
  rw [Rows.gain_alter halter]
  by_cases hk : k = k'
  · have hreads : R.reads k' k = R.counter := by
      funext c
      rw [reads, if_pos hk]
    rw [hreads, if_pos hk]
    omega
  · have hreads : R.reads k' k = fun _ => 0 := by
      funext c
      rw [reads, if_neg hk]
    have hzero : ∀ version : Option C, Row.amount (fun _ => (0 : ℤ)) version = 0 := by
      intro version
      cases version <;> rfl
    rw [hreads, if_neg hk, hzero, hzero]
    omega

variable {f : C → C}

/-- A write that leaves the counter alone. -/
theorem owed_counters_same
    (hf : ∀ c, R.counter (f c) = R.counter c)
    (halter : counters.alterWhere tx k q (fun c => some (f c)) = some (old, counters')) (k' : K) :
    R.owed tx counters' rows k' = R.owed tx counters rows k' := by
  rw [owed_counters halter]
  cases old with
  | none => simp
  | some => simp [Row.amount, hf]

/-- A claim runs ahead of the row that it is for. -/
theorem owed_claim
    {c : C} (hf : R.counter (f c) = R.counter c + 1)
    (halter : counters.alterWhere tx k q (fun c => some (f c)) = some (some c, counters'))
    (k' : K) :
    R.owed tx counters' rows k' = R.owed tx counters rows k' - if k = k' then 1 else 0 := by
  rw [owed_counters halter]
  simp only [Row.amount, Option.bind_some, Option.elim, hf]
  split <;> omega

variable [DecidableEq J]

theorem owed_of_idle (hcounters : counters.Idle tx)
    (hrows : rows.Idle tx) (k : K) :
    R.owed tx counters rows k = 0 := by
  unfold owed
  rw [Rows.gain_of_idle _ hcounters, Rows.gain_of_idle _ hrows, sub_self]

theorem owed_apart {tx' : ℕ} {rows' : Rows J V}
    (hcounters : counters.Apart tx counters') (hrows : rows.Apart tx rows') (hne : tx' ≠ tx)
    (k : K) :
    R.owed tx' counters' rows' k = R.owed tx' counters rows k := by
  unfold owed
  rw [hcounters.gain tx' hne, hrows.gain tx' hne]

variable {j : J}

theorem owed_rows {rows' : Rows J V} {q : V → Bool}
    {f : V → Option V} {old : Option V} (halter : rows.alterWhere tx j q f = some (old, rows'))
    (k : K) :
    R.owed tx counters rows' k = R.owed tx counters rows k +
      (Row.amount (R.weight k) (old.bind f) - Row.amount (R.weight k) old) := by
  unfold owed
  rw [Rows.gain_alter halter]
  omega

/-- A row under a key that the transaction sees empty. -/
theorem owed_write
    (hseen : (rows.row j).seen tx = none) (v : V) (k : K) :
    R.owed tx counters (rows.write tx j (some v)) k =
      R.owed tx counters rows k + R.weight k v := by
  unfold owed
  rw [Rows.gain_write, hseen]
  simp only [Row.amount, Option.elim]
  omega

theorem owed_insert (hfresh : rows.lookup j = none)
    (v : V) (k : K) :
    R.owed tx counters (rows.write tx j (some v)) k =
      R.owed tx counters rows k + R.weight k v := by
  apply owed_write
  rw [Rows.row_vacant hfresh]
  rfl

omit [DecidableEq J] in
/-- A release that is owed gives back exactly what it says. -/
theorem owed_release {n : ℤ}
    (h : R.Counted counters rows) (hf : R.Releases n f) (hn : 0 ≤ n)
    (howed : R.owed tx counters rows k + n ≤ (rows.commit tx).total fun _ => R.weight k)
    (halter : counters.alter tx k (fun c => some (f c)) = some (old, counters')) (k' : K) :
    R.owed tx counters' rows k' = R.owed tx counters rows k' + if k = k' then n else 0 := by
  have hseen := h.seen tx k
  rw [(Rows.alter_cases halter).1] at hseen
  rw [owed_counters halter]
  by_cases hk : k = k'
  · rw [if_pos hk, if_pos hk]
    cases old with
    | none =>
        simp only [Row.amount, Option.elim, Option.bind_none] at hseen ⊢
        omega
    | some c =>
        have hmove := hf c
        simp only [Row.amount, Option.elim, Option.bind_some] at hseen ⊢
        rw [hmove, max_eq_left (by omega)]
        omega
  · rw [if_neg hk, if_neg hk, sub_zero, add_zero]

omit [DecidableEq K] in
theorem total_weight_nonneg (k : K) (rows : Rows J V) :
    0 ≤ rows.total fun _ => R.weight k :=
  Rows.total_nonneg (fun _ v => R.weight_nonneg k v) rows

theorem owed_release_due
    {n : ℤ} (h : R.Counted counters rows) (hf : R.Releases n f) (hn : 0 ≤ n)
    (howed : R.owed tx counters rows k ≤ -n)
    (halter : counters.alter tx k (fun c => some (f c)) = some (old, counters')) (k' : K) :
    R.owed tx counters' rows k' = R.owed tx counters rows k' + if k = k' then n else 0 := by
  have hnonneg := total_weight_nonneg (R := R) k (rows.commit tx)
  exact owed_release h hf hn (by omega) halter k'

theorem owed_release_idle
    (h : R.Counted counters rows) (hf : R.Releases 1 f)
    (hidle : (counters.row k).seen tx = (counters.row k).committed)
    (halter : counters.alter tx k (fun c => some (f c)) = some (old, counters')) (k' : K) :
    R.owed tx counters' rows k' = R.owed tx counters rows k' +
      if k = k' ∧ 0 < counters.total (R.reads k') then 1 else 0 := by
  have hseen := (Rows.alter_cases halter).1
  rw [hidle] at hseen
  rw [owed_counters halter]
  by_cases hk : k = k'
  · subst hk
    have htotal := total_reads (R := R) counters k
    have hnonneg : 0 ≤ counters.total (R.reads k) := by
      rw [h k]
      exact total_weight_nonneg k rows
    rw [hseen] at htotal
    cases old with
    | none =>
        simp only [Row.amount, Option.elim] at htotal
        simp [htotal, Row.amount]
    | some c =>
        have hmove := hf c
        simp only [Row.amount, Option.elim] at htotal
        simp only [if_true, true_and, Row.amount, Option.bind_some, Option.elim, hmove, htotal]
        split <;> omega
  · simp [hk]

end RefCount

section Groups

variable {K : Type*} [DecidableEq K]

/-- `SELECT …, count(*) … GROUP BY …` -/
def tally (keys : List K) : List (K × ℕ) := keys.dedup.map fun k => (k, keys.count k)

def pending (groups : List (K × ℕ)) (k : K) : ℤ :=
  (groups.map fun group => if group.1 = k then (group.2 : ℤ) else 0).sum

@[simp]
theorem pending_nil (k : K) : pending [] k = 0 := rfl

@[simp]
theorem pending_cons (group : K × ℕ) (groups : List (K × ℕ)) (k : K) :
    pending (group :: groups) k = (if group.1 = k then (group.2 : ℤ) else 0) + pending groups k :=
  rfl

theorem pending_nonneg (groups : List (K × ℕ)) (k : K) : 0 ≤ pending groups k := by
  induction groups with
  | nil => exact le_refl 0
  | cons group groups ih =>
      rw [pending_cons]
      split <;> omega

theorem pending_tally (keys : List K) (k : K) : pending (tally keys) k = keys.count k := by
  have hgroups : ∀ names : List K, names.Nodup →
      pending (names.map fun name => (name, keys.count name)) k =
        if k ∈ names then (keys.count k : ℤ) else 0 := by
    intro names hnodup
    induction names with
    | nil => rfl
    | cons name names ih =>
        have hnot := (List.nodup_cons.mp hnodup).1
        rw [List.map_cons, pending_cons, ih (List.nodup_cons.mp hnodup).2]
        by_cases hname : name = k
        · subst hname
          simp [hnot]
        · simp [hname, Ne.symm hname]
  unfold tally
  rw [hgroups keys.dedup (List.nodup_dedup keys)]
  by_cases hmem : k ∈ keys
  · simp [hmem]
  · simp [hmem, List.count_eq_zero_of_not_mem hmem]

end Groups

end ReadCommitted
