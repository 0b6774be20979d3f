import Hezarfen.Table

/-!
# Rows under READ COMMITTED

A transaction holds every row that it wrote, or locked for a write, until it ends.
The committed version stays what the others read; the version of the holder becomes
the committed one at its commit and disappears at its rollback.

What a table adds up to is a sum over its committed rows.  The `gain` of a transaction
is what its commit would add to that sum.  No other transaction can move it, because
the rows behind it are held: an accounting identity over several tables is kept by
every commit whose gains cancel.
-/

namespace ReadCommitted

variable {tx' : ℕ}

/-- The versions of one row; `none` is the version of a row that is not there. -/
structure Row (V : Type*) where
  committed : Option V
  /-- The transaction that holds the row, and its own version. -/
  writer : Option (ℕ × Option V)

namespace Row

variable {V : Type*}

def vacant : Row V := ⟨none, none⟩

def Held (row : Row V) (tx : ℕ) : Prop := ∃ own, row.writer = some (tx, own)

/-- No other transaction holds the row. -/
def free (row : Row V) (tx : ℕ) : Bool := row.writer.all fun w => decide (w.1 = tx)

def seen (row : Row V) (tx : ℕ) : Option V :=
  match row.writer with
  | none => row.committed
  | some (holder, own) => if holder = tx then own else row.committed

def settle (row : Row V) (tx : ℕ) (keep : Option V → Option V) : Row V :=
  match row.writer with
  | none => row
  | some (holder, own) => if holder = tx then ⟨keep own, none⟩ else row

def commit (tx : ℕ) (row : Row V) : Row V := row.settle tx id

def rollback (tx : ℕ) (row : Row V) : Row V := row.settle tx fun _ => row.committed

def amount (f : V → ℤ) (version : Option V) : ℤ := version.elim 0 f

def gain (f : V → ℤ) (tx : ℕ) (row : Row V) : ℤ :=
  amount f (row.seen tx) - amount f row.committed

theorem Held.unique {row : Row V} {tx : ℕ} (h : row.Held tx) (h' : row.Held tx') :
    tx = tx' := by
  obtain ⟨own, hown⟩ := h
  obtain ⟨own', hown'⟩ := h'
  simp_all

theorem not_held_of_free {row : Row V} {tx : ℕ} (hfree : row.free tx = true) (hne : tx' ≠ tx) :
    ¬ row.Held tx' := by
  intro hheld
  obtain ⟨own, hown⟩ := hheld
  simp [free, hown, hne] at hfree

theorem settle_of_held {row : Row V} {tx : ℕ} (keep : Option V → Option V) (h : row.Held tx')
    (hne : tx' ≠ tx) : row.settle tx keep = row := by
  obtain ⟨own, hown⟩ := h
  simp [settle, hown, hne]

theorem seen_eq_committed {row : Row V} {tx : ℕ} (h : ¬ row.Held tx) :
    row.seen tx = row.committed := by
  unfold seen
  split
  · rfl
  · next holder own hwriter =>
    have hne : holder ≠ tx := fun heq => h ⟨own, heq ▸ hwriter⟩
    rw [if_neg hne]

theorem committed_commit (row : Row V) (tx : ℕ) : (row.commit tx).committed = row.seen tx := by
  unfold commit settle seen
  split
  · simp [*]
  · split <;> simp [*]

theorem committed_rollback (row : Row V) (tx : ℕ) :
    (row.rollback tx).committed = row.committed := by
  unfold rollback settle
  split
  · rfl
  · split <;> rfl

theorem not_held_settle (row : Row V) (tx : ℕ) (keep : Option V → Option V) :
    ¬ (row.settle tx keep).Held tx := by
  intro hheld
  obtain ⟨own, hown⟩ := hheld
  unfold settle at hown
  split at hown
  · simp_all
  · split at hown <;> simp_all

/-- The transaction that ends leaves what the others see of a row to its commit alone. -/
theorem settle_eq_or (row : Row V) (tx : ℕ) (keep : Option V → Option V) :
    row.settle tx keep = row ∨
      row.Held tx ∧ (row.settle tx keep).writer = none := by
  unfold settle
  split
  · exact .inl rfl
  · next holder own hwriter =>
    split
    · next heq => exact .inr ⟨⟨own, heq ▸ hwriter⟩, rfl⟩
    · exact .inl rfl

theorem map_seen_settle {α : Type*} {g : V → α} {row : Row V} {tx : ℕ} (keep : Option V → Option V)
    (h : (row.seen tx').map g = row.committed.map g) :
    ((row.settle tx keep).seen tx').map g = (row.settle tx keep).committed.map g := by
  rcases row.settle_eq_or tx keep with heq | hgone
  · rw [heq]
    exact h
  · simp [seen, hgone.2]

theorem gain_of_not_held {row : Row V} {tx : ℕ} (f : V → ℤ) (h : ¬ row.Held tx) :
    row.gain f tx = 0 := by
  rw [gain, seen_eq_committed h, sub_self]

theorem gain_settle {row : Row V} {tx : ℕ} (f : V → ℤ) (keep : Option V → Option V)
    (hne : tx' ≠ tx) : (row.settle tx keep).gain f tx' = row.gain f tx' := by
  rcases row.settle_eq_or tx keep with heq | hgone
  · rw [heq]
  · have hold : ¬ row.Held tx' := fun hheld => hne (hheld.unique hgone.1)
    have hnew : ¬ (row.settle tx keep).Held tx' := by
      intro hheld
      obtain ⟨own, hown⟩ := hheld
      rw [hgone.2] at hown
      cases hown
    rw [gain_of_not_held f hold, gain_of_not_held f hnew]

end Row

abbrev Rows (K V : Type*) := Table K (Row V)

namespace Rows

variable {K V : Type*}

/-- The sum over the committed rows. -/
def total (f : K → V → ℤ) (t : Rows K V) : ℤ :=
  Table.sum t fun k row => Row.amount (f k) row.committed

def gain (f : K → V → ℤ) (tx : ℕ) (t : Rows K V) : ℤ :=
  Table.sum t fun k row => row.gain (f k) tx

/-- How many committed rows satisfy `p`. -/
def count (p : K → V → Bool) (t : Rows K V) : ℕ :=
  Table.count t fun k row => row.committed.any (p k)

def contested (tx : ℕ) (t : Rows K V) (p : V → Bool) : Bool :=
  Table.any t fun _ row =>
    row.writer.any fun w => decide (w.1 ≠ tx) && (w.2.any p || row.committed.any p)

def taken (tx : ℕ) (t : Rows K V) (p : V → Bool) : Bool :=
  Table.any t fun _ row => (row.seen tx).any p

def commit (tx : ℕ) (t : Rows K V) : Rows K V := Table.update t fun _ row => row.commit tx

def rollback (tx : ℕ) (t : Rows K V) : Rows K V := Table.update t fun _ row => row.rollback tx

theorem total_count (p : K → V → Bool) (t : Rows K V) :
    total (fun k v => if p k v then 1 else 0) t = count p t := by
  unfold total count Table.count Table.sum
  induction t.entries with
  | nil => rfl
  | cons row rows ih =>
      have hrow : Row.amount (fun v => if p row.1 v then 1 else 0) row.2.committed =
          ((if row.2.committed.any (p row.1) then 1 else 0 : ℕ) : ℤ) := by
        cases row.2.committed with
        | none => rfl
        | some v => cases hp : p row.1 v <;> simp [Row.amount, hp]
      simp only [List.map_cons, List.sum_cons, ih, hrow, Nat.cast_add]

theorem total_commit (f : K → V → ℤ) (tx : ℕ) (t : Rows K V) :
    total f (commit tx t) = total f t + gain f tx t := by
  unfold total gain commit
  rw [Table.sum_update, ← Table.sum_add]
  congr 1
  funext k row
  rw [Row.committed_commit, Row.gain]
  abel

@[simp]
theorem total_rollback (f : K → V → ℤ) (tx : ℕ) (t : Rows K V) :
    total f (rollback tx t) = total f t := by
  unfold total rollback
  rw [Table.sum_update]
  congr 1
  funext k row
  rw [Row.committed_rollback]

@[simp]
theorem count_rollback (p : K → V → Bool) (tx : ℕ) (t : Rows K V) :
    count p (rollback tx t) = count p t := by
  have htotal := total_rollback (fun k v => if p k v then 1 else 0) tx t
  rw [total_count, total_count] at htotal
  exact_mod_cast htotal

/-- A statement on one row, which waits, misses the row or goes on with it. -/
def onRow {β : Type*} (r : Option (Option V × Rows K V)) (missed : β)
    (then_ : V → Rows K V → β) : Option β :=
  r.map fun
    | (none, _) => missed
    | (some v, rows) => then_ v rows

theorem onRow_cases {β : Type*} {r : Option (Option V × Rows K V)} {missed out : β}
    {then_ : V → Rows K V → β} (h : onRow r missed then_ = some out) :
    (∃ rows, r = some (none, rows) ∧ out = missed) ∨
      ∃ v rows, r = some (some v, rows) ∧ out = then_ v rows := by
  unfold onRow at h
  rw [Option.map_eq_some_iff] at h
  obtain ⟨⟨old, rows⟩, hr, hout⟩ := h
  cases old with
  | none => exact .inl ⟨rows, hr, hout.symm⟩
  | some v => exact .inr ⟨v, rows, hr, hout.symm⟩

/-- Whether the commit makes a row satisfy `p` that did not before. -/
def Brings (p : K → V → Bool) (tx : ℕ) (k : K) (row : Row V) : Prop :=
  row.committed.any (p k) = false ∧ ∃ v, row.writer = some (tx, some v) ∧ p k v = true

theorem any_commit {p : K → V → Bool} {tx : ℕ} {k : K} {row : Row V}
    (h : ¬ Brings p tx k row) :
    (row.commit tx).committed.any (p k) = true → row.committed.any (p k) = true := by
  intro hany
  rw [Row.committed_commit] at hany
  unfold Row.seen at hany
  split at hany
  · exact hany
  · next holder own hwriter =>
    split at hany
    · next hholder =>
      by_contra hold
      obtain ⟨v, rfl, hp⟩ := (Option.any_eq_true _ _).mp hany
      exact h ⟨by simpa using hold, v, by rw [hwriter, hholder], hp⟩
    · exact hany

section Keys

variable [DecidableEq K]

def row (t : Rows K V) (k : K) : Row V := (t.lookup k).getD .vacant

def write (tx : ℕ) (t : Rows K V) (k : K) (version : Option V) : Rows K V :=
  t.insert k { row t k with writer := some (tx, version) }

def Idle (tx : ℕ) (t : Rows K V) : Prop := ∀ k, ¬ (row t k).Held tx

/-- No transaction holds a row. -/
def Settled (t : Rows K V) : Prop := ∀ k, (row t k).writer = none

variable {k : K} {t : Rows K V}

theorem row_of_lookup {r : Row V} (h : t.lookup k = some r) :
    row t k = r := by
  rw [row, h, Option.getD_some]

theorem row_write (tx : ℕ) (t : Rows K V) (k k' : K) (version : Option V) :
    row (write tx t k version) k' =
      if k' = k then { row t k with writer := some (tx, version) } else row t k' := by
  unfold write
  rw [row, lookup_insert_eq]
  split
  · rfl
  · rfl

theorem row_update {g : K → Row V → Row V} (hg : ∀ k, g k .vacant = .vacant)
    (k : K) : row (Table.update t g) k = g k (row t k) := by
  unfold row
  rw [lookup_update]
  cases t.lookup k with
  | none => exact (hg k).symm
  | some => rfl

theorem row_commit (tx : ℕ) (t : Rows K V) (k : K) :
    row (commit tx t) k = (row t k).commit tx :=
  row_update (fun _ => rfl) k

theorem row_rollback (tx : ℕ) (t : Rows K V) (k : K) :
    row (rollback tx t) k = (row t k).rollback tx :=
  row_update (fun _ => rfl) k

@[simp]
theorem committed_write (tx : ℕ) (t : Rows K V) (k k' : K) (version : Option V) :
    (row (write tx t k version) k').committed = (row t k').committed := by
  rw [row_write]
  split
  · next heq => rw [heq]
  · rfl

theorem seen_write (tx : ℕ) (t : Rows K V) (k : K) (version : Option V) :
    (row (write tx t k version) k).seen tx = version := by
  simp [row_write, Row.seen]

theorem held_write (tx : ℕ) (t : Rows K V) (k : K) (version : Option V) :
    (row (write tx t k version) k).Held tx := by
  rw [row_write, if_pos rfl]
  exact ⟨version, rfl⟩

variable {tx : ℕ}

theorem held_write_of_held {k' : K} (h : (row t k').Held tx) (k : K)
    (version : Option V) : (row (write tx t k version) k').Held tx := by
  rw [row_write]
  split
  · exact ⟨version, rfl⟩
  · exact h

/-- What one write moves in a sum over the rows. -/
theorem sum_write {g : K → Row V → ℤ} (hg : ∀ k, g k .vacant = 0) (tx : ℕ) (t : Rows K V)
    (k : K) (version : Option V) :
    Table.sum (write tx t k version) g =
      Table.sum t g + (g k { row t k with writer := some (tx, version) } - g k (row t k)) := by
  have hsum := Table.sum_insert t k { row t k with writer := some (tx, version) } g
  have hrow : (t.lookup k).elim 0 (g k) = g k (row t k) := by
    unfold row
    cases t.lookup k with
    | none => exact (hg k).symm
    | some => rfl
  rw [hrow] at hsum
  unfold write
  omega

@[simp]
theorem total_write (f : K → V → ℤ) (tx : ℕ) (t : Rows K V) (k : K) (version : Option V) :
    total f (write tx t k version) = total f t := by
  unfold total
  rw [sum_write (fun _ => rfl)]
  simp

theorem gain_write (f : K → V → ℤ) (version : Option V) :
    gain f tx (write tx t k version) =
      gain f tx t + (Row.amount (f k) version - Row.amount (f k) ((row t k).seen tx)) := by
  unfold gain
  rw [sum_write (fun _ => by simp [Row.gain, Row.seen, Row.vacant])]
  simp only [Row.gain, Row.seen, if_true]
  omega

theorem gain_write_of_ne (f : K → V → ℤ) (version : Option V)
    (hfree : (row t k).free tx = true) (hne : tx' ≠ tx) :
    gain f tx' (write tx t k version) = gain f tx' t := by
  unfold gain
  rw [sum_write (fun _ => by simp [Row.gain, Row.seen, Row.vacant]),
    Row.gain_of_not_held _ (Row.not_held_of_free hfree hne)]
  simp [Row.gain, Row.seen, Ne.symm hne]

theorem gain_of_idle (f : K → V → ℤ) (h : Idle tx t) :
    gain f tx t = 0 := by
  apply Table.sum_eq_zero
  intro k r hr
  apply Row.gain_of_not_held
  rw [← row_of_lookup hr]
  exact h k

theorem idle_commit (tx : ℕ) (t : Rows K V) : Idle tx (commit tx t) := by
  intro k
  rw [row_commit]
  exact Row.not_held_settle _ tx _

theorem idle_rollback (tx : ℕ) (t : Rows K V) : Idle tx (rollback tx t) := by
  intro k
  rw [row_rollback]
  exact Row.not_held_settle _ tx _

theorem Settled.idle (h : Settled t) (tx : ℕ) : Idle tx t := by
  intro k hheld
  obtain ⟨own, hown⟩ := hheld
  rw [h k] at hown
  cases hown

theorem settled_of_all (h : (t.entries.all fun r => r.2.writer.isNone) = true) :
    Settled t := by
  intro k
  cases hk : t.lookup k with
  | none => simp [row, hk, Row.vacant]
  | some =>
      rw [row_of_lookup hk]
      have hr := List.all_eq_true.mp h _ (mem_entries_iff_lookup.mpr hk)
      exact Option.isNone_iff_eq_none.mp hr

variable {v : V}

variable {p : K → V → Bool}

/-- A committed row that satisfies `p` is counted. -/
theorem count_pos
    (hrow : (row t k).committed = some v) (hp : p k v = true) : 0 < count p t := by
  apply Nat.pos_of_ne_zero
  intro hzero
  cases hlookup : t.lookup k with
  | none =>
      rw [row, hlookup] at hrow
      cases hrow
  | some r =>
      rw [row_of_lookup hlookup] at hrow
      have hnone := Table.count_eq_zero_iff.mp hzero k r hlookup
      simp [hrow, hp] at hnone

theorem count_pos_iff :
    0 < count p t ↔ ∃ k v, (row t k).committed = some v ∧ p k v = true := by
  constructor
  · intro hpos
    by_contra hnone
    apply hpos.ne'
    unfold count
    rw [Table.count_eq_zero_iff]
    intro k r hr
    apply Bool.eq_false_of_not_eq_true
    intro hany
    obtain ⟨v, hv, hp⟩ := (Option.any_eq_true _ _).mp hany
    exact hnone ⟨k, v, by rw [row_of_lookup hr, hv], hp⟩
  · intro hrow
    obtain ⟨k, v, hv, hp⟩ := hrow
    exact count_pos hv hp

/-- The sum over one row. -/
theorem total_single (k : K) (f : V → ℤ) (t : Rows K V) :
    total (fun k' v => if k' = k then f v else 0) t = Row.amount f (row t k).committed := by
  unfold total
  rw [Table.sum_eq_elim k]
  · unfold row
    cases t.lookup k with
    | none => rfl
    | some => simp [Row.amount]
  · intro k' r _ hne
    cases r.committed with
    | none => rfl
    | some => simp [Row.amount, hne]

/-! ## What the others keep -/

/-- A statement of `tx` turned `t` into `t'`: the rows and the gains of every other
transaction are as they were. -/
structure Apart (tx : ℕ) (t t' : Rows K V) : Prop where
  held : ∀ tx', tx' ≠ tx → ∀ k, (row t k).Held tx' → row t' k = row t k
  unheld : ∀ tx', tx' ≠ tx → ∀ k, ¬ (row t k).Held tx' → ¬ (row t' k).Held tx'
  gain : ∀ tx', tx' ≠ tx → ∀ f, gain f tx' t' = gain f tx' t

variable {t' : Rows K V}

theorem Apart.idle (h : Apart tx t t') (tx' : ℕ) (hne : tx' ≠ tx)
    (hidle : Idle tx' t) : Idle tx' t' :=
  fun k => h.unheld tx' hne k (hidle k)

theorem Apart.refl (tx : ℕ) (t : Rows K V) : Apart tx t t where
  held _ _ _ _ := rfl
  unheld _ _ _ h := h
  gain _ _ _ := rfl

theorem Apart.trans {t'' : Rows K V} (h : Apart tx t t') (h' : Apart tx t' t'') :
    Apart tx t t'' where
  held := by
    intro tx' hne k hheld
    have hsame := h.held tx' hne k hheld
    rw [h'.held tx' hne k (hsame ▸ hheld), hsame]
  unheld := fun tx' hne k hnot => h'.unheld tx' hne k (h.unheld tx' hne k hnot)
  gain := fun tx' hne f => (h'.gain tx' hne f).trans (h.gain tx' hne f)

theorem Apart.write (version : Option V)
    (hfree : (row t k).free tx = true) : Apart tx t (write tx t k version) where
  held := by
    intro tx' hne k' hheld
    rw [row_write]
    split
    · next heq => exact absurd (heq ▸ hheld) (Row.not_held_of_free hfree hne)
    · rfl
  unheld := by
    intro tx' hne k' hnot hheld
    rw [row_write] at hheld
    split at hheld
    · obtain ⟨own, hown⟩ := hheld
      simp only [Option.some.injEq, Prod.mk.injEq] at hown
      exact hne hown.1.symm
    · exact hnot hheld
  gain _ hne f := gain_write_of_ne f version hfree hne

theorem Apart.update (t : Rows K V) {g : Row V → Row V} (hg : g .vacant = .vacant)
    (hsettle : ∀ r, ∃ keep, g r = r.settle tx keep) :
    Apart tx t (Table.update t fun _ r => g r) where
  held := by
    intro tx' hne k hheld
    rw [row_update (fun _ => hg)]
    obtain ⟨keep, hkeep⟩ := hsettle (row t k)
    rw [hkeep]
    exact Row.settle_of_held keep hheld hne
  unheld := by
    intro tx' hne k hnot hheld
    rw [row_update (fun _ => hg)] at hheld
    obtain ⟨keep, hkeep⟩ := hsettle (row t k)
    rw [hkeep] at hheld
    rcases (row t k).settle_eq_or tx keep with heq | hgone
    · exact hnot (heq ▸ hheld)
    · obtain ⟨own, hown⟩ := hheld
      rw [hgone.2] at hown
      cases hown
  gain := by
    intro tx' hne f
    unfold Rows.gain
    rw [Table.sum_update]
    congr 1
    funext k r
    obtain ⟨keep, hkeep⟩ := hsettle r
    rw [hkeep, Row.gain_settle _ keep hne]

theorem Apart.commit (tx : ℕ) (t : Rows K V) : Apart tx t (commit tx t) :=
  .update t rfl fun _ => ⟨id, rfl⟩

theorem Apart.rollback (tx : ℕ) (t : Rows K V) : Apart tx t (rollback tx t) :=
  .update t rfl fun r => ⟨fun _ => r.committed, rfl⟩

/-- An `UPDATE`, a `DELETE` or a locking read of the row under `k` if it satisfies `p`, with the
version it found.  A row that does not satisfy `p`, or was not committed yet, is not there for
the statement; for a row that does it waits until no other transaction holds it, which is
`none` here. -/
def alterWhere (tx : ℕ) (t : Rows K V) (k : K) (p : V → Bool) (f : V → Option V) :
    Option (Option V × Rows K V) :=
  match (row t k).seen tx with
  | none => some (none, t)
  | some v =>
      if p v then
        if (row t k).free tx then some (some v, write tx t k (f v)) else none
      else some (none, t)

def alter (tx : ℕ) (t : Rows K V) (k : K) (f : V → Option V) : Option (Option V × Rows K V) :=
  alterWhere tx t k (fun _ => true) f

/-- `SELECT … FOR UPDATE` -/
def lock (tx : ℕ) (t : Rows K V) (k : K) : Option (Option V × Rows K V) := alter tx t k some

/-- `SELECT … FOR KEY SHARE`, which waits for a deletion under way. -/
def keyShare (tx : ℕ) (t : Rows K V) (k : K) : Option (Option V) :=
  if (row t k).writer.all fun w => decide (w.1 = tx) || w.2.isSome then some ((row t k).seen tx)
  else none

/-- `INSERT … ON CONFLICT DO UPDATE`, which waits for whoever holds the key. -/
def place (tx : ℕ) (t : Rows K V) (k : K) (f : Option V → V) : Option (Rows K V) :=
  if (row t k).free tx then some (write tx t k (some (f ((row t k).seen tx)))) else none

variable {f : V → Option V} {old : Option V} {q : V → Bool}

theorem alterWhere_cases
    (h : alterWhere tx t k q f = some (old, t')) :
    (old = none ∧ t' = t ∧ ∀ v, (row t k).seen tx = some v → q v = false) ∨
      ∃ v, old = some v ∧ (row t k).seen tx = some v ∧ q v = true ∧
        (row t k).free tx = true ∧ t' = write tx t k (f v) := by
  unfold alterWhere at h
  split at h
  · next hseen =>
    cases h
    exact .inl ⟨rfl, rfl, fun v hv => by rw [hseen] at hv; cases hv⟩
  · next v hseen =>
    split at h
    · next hq =>
      split at h
      · next hfree =>
        cases h
        exact .inr ⟨v, rfl, hseen, hq, hfree, rfl⟩
      · cases h
    · next hq =>
      cases h
      refine .inl ⟨rfl, rfl, fun w hw => ?_⟩
      rw [hseen] at hw
      cases hw
      simpa using hq

theorem alter_cases
    (h : alter tx t k f = some (old, t')) :
    (row t k).seen tx = old ∧
      (old = none ∧ t' = t ∨
        ∃ v, old = some v ∧ (row t k).free tx = true ∧ t' = write tx t k (f v)) := by
  rcases alterWhere_cases h with ⟨rfl, rfl, hnone⟩ | ⟨v, rfl, hseen, -, hfree, rfl⟩
  · refine ⟨?_, .inl ⟨rfl, rfl⟩⟩
    cases hseen : (row t' k).seen tx with
    | none => rfl
    | some v => cases hnone v hseen
  · exact ⟨hseen, .inr ⟨v, rfl, hfree, rfl⟩⟩

def Whole (t : Rows K V) : Prop := ∀ k, (row t k).committed = none → (row t k).writer = none

theorem Whole.vacant (h : Whole t) (hnone : (row t k).committed = none) :
    row t k = .vacant := by
  have hwriter := h k hnone
  cases hrow : row t k with
  | mk =>
      rw [hrow] at hnone hwriter
      subst hnone hwriter
      rfl

theorem Whole.seen_none (h : Whole t)
    (hnone : (row t k).committed = none) (tx : ℕ) : (row t k).seen tx = none := by
  rw [h.vacant hnone]
  rfl

theorem Whole.alter (h : Whole t)
    (halter : Rows.alterWhere tx t k q f = some (old, t')) :
    Whole t' := by
  rcases alterWhere_cases halter with ⟨-, rfl, -⟩ | ⟨v, -, hseen, -, -, rfl⟩
  · exact h
  · intro k' hk'
    rw [committed_write] at hk'
    rw [row_write]
    split
    · next heq =>
      subst heq
      rw [h.seen_none hk'] at hseen
      cases hseen
    · exact h k' hk'

theorem Whole.settle (h : Whole t) {g : Row V → Row V}
    (hg : g .vacant = .vacant) (hsettle : ∀ r, ∃ keep, g r = r.settle tx keep) :
    Whole (Table.update t fun _ r => g r) := by
  intro k hk
  rw [row_update (fun _ => hg)] at hk ⊢
  obtain ⟨keep, hkeep⟩ := hsettle (row t k)
  rw [hkeep] at hk ⊢
  rcases (row t k).settle_eq_or tx keep with heq | hgone
  · rw [heq] at hk ⊢
    exact h k hk
  · exact hgone.2

theorem Whole.commit (h : Whole t) (tx : ℕ) : Whole (Rows.commit tx t) :=
  h.settle rfl fun _ => ⟨id, rfl⟩

theorem Whole.rollback (h : Whole t) (tx : ℕ) : Whole (Rows.rollback tx t) :=
  h.settle rfl fun r => ⟨fun _ => r.committed, rfl⟩

/-- An `INSERT` under a fresh key that is its own transaction. -/
def put (t : Rows K V) (k : K) (v : V) : Rows K V := t.insert k ⟨some v, none⟩

theorem row_put (t : Rows K V) (k k' : K) (v : V) :
    row (put t k v) k' = if k' = k then ⟨some v, none⟩ else row t k' := by
  unfold put
  rw [row, lookup_insert_eq]
  split <;> rfl

/-- What an insert adds to a sum over the rows. -/
theorem sum_put {g : K → Row V → ℤ} (hg : ∀ k, g k .vacant = 0)
    (hvacant : row t k = .vacant) (v : V) :
    Table.sum (put t k v) g = Table.sum t g + g k ⟨some v, none⟩ := by
  have hsum := Table.sum_insert t k ⟨some v, none⟩ g
  have hrow : (t.lookup k).elim 0 (g k) = 0 := by
    unfold row at hvacant
    cases hlookup : t.lookup k with
    | none => rfl
    | some =>
        rw [hlookup, Option.getD_some] at hvacant
        rw [hvacant]
        exact hg k
  rw [hrow] at hsum
  unfold put
  omega

theorem total_put (f : K → V → ℤ) (hvacant : row t k = .vacant) (v : V) :
    total f (put t k v) = total f t + f k v :=
  sum_put (fun _ => rfl) hvacant v

theorem gain_put (f : K → V → ℤ) (tx : ℕ) (hvacant : row t k = .vacant)
    (v : V) : gain f tx (put t k v) = gain f tx t := by
  unfold gain
  rw [sum_put (fun _ => by simp [Row.gain, Row.seen, Row.vacant]) hvacant]
  simp [Row.gain, Row.seen]

theorem Whole.put (h : Whole t) (k : K) (v : V) : Whole (Rows.put t k v) := by
  intro k' hk'
  rw [row_put] at hk' ⊢
  split at hk'
  · cases hk'
  · next hne =>
    rw [if_neg hne]
    exact h k' hk'

theorem idle_put (h : Idle tx t) (k : K) (v : V) :
    Idle tx (put t k v) := by
  intro k' hheld
  rw [row_put] at hheld
  split at hheld
  · obtain ⟨own, hown⟩ := hheld
    cases hown
  · exact h k' hheld

theorem Apart.put (hvacant : row t k = .vacant) (v : V) :
    Apart tx t (Rows.put t k v) where
  held := by
    intro tx' _ k' hheld
    rw [row_put]
    split
    · next heq =>
      obtain ⟨own, hown⟩ := hheld
      rw [heq, hvacant] at hown
      cases hown
    · rfl
  unheld := by
    intro tx' _ k' hnot hheld
    rw [row_put] at hheld
    split at hheld
    · obtain ⟨own, hown⟩ := hheld
      cases hown
    · exact hnot hheld
  gain tx' _ f := gain_put f tx' hvacant v

theorem place_cases {tx : ℕ} {t t' : Rows K V} {k : K} {f : Option V → V}
    (h : place tx t k f = some t') :
    (row t k).free tx = true ∧ t' = write tx t k (some (f ((row t k).seen tx))) := by
  unfold place at h
  split at h
  · next hfree =>
    cases h
    exact ⟨hfree, rfl⟩
  · cases h

theorem committed_alter
    (h : alterWhere tx t k q f = some (old, t')) (k' : K) :
    (row t' k').committed = (row t k').committed := by
  rcases alterWhere_cases h with ⟨-, rfl, -⟩ | ⟨v, -, -, -, -, rfl⟩
  · rfl
  · rw [committed_write]

theorem total_alter
    (h : alterWhere tx t k q f = some (old, t')) (g : K → V → ℤ) :
    total g t' = total g t := by
  rcases alterWhere_cases h with ⟨-, rfl, -⟩ | ⟨v, -, -, -, -, rfl⟩
  · rfl
  · rw [total_write]

theorem count_alter
    (h : alterWhere tx t k q f = some (old, t')) (p : K → V → Bool) :
    count p t' = count p t := by
  have htotal := total_alter h fun k v => if p k v then 1 else 0
  rw [total_count, total_count] at htotal
  exact_mod_cast htotal

theorem gain_place {tx : ℕ} {t t' : Rows K V} {k : K} {f : Option V → V}
    (h : place tx t k f = some t') (g : K → V → ℤ) :
    gain g tx t' = gain g tx t +
      (g k (f ((row t k).seen tx)) - Row.amount (g k) ((row t k).seen tx)) := by
  obtain ⟨-, rfl⟩ := place_cases h
  exact gain_write g _

theorem count_place {tx : ℕ} {t t' : Rows K V} {k : K} {f : Option V → V}
    (h : place tx t k f = some t') (p : K → V → Bool) : count p t' = count p t := by
  obtain ⟨-, rfl⟩ := place_cases h
  have htotal := total_write (fun k v => if p k v then 1 else 0) tx t k
    (some (f ((row t k).seen tx)))
  rw [total_count, total_count] at htotal
  exact_mod_cast htotal

theorem Apart.alter
    (h : alterWhere tx t k q f = some (old, t')) : Apart tx t t' := by
  rcases alterWhere_cases h with ⟨-, rfl, -⟩ | ⟨v, -, -, -, hfree, rfl⟩
  · exact .refl tx t'
  · exact .write (f v) hfree

theorem Apart.place {tx : ℕ} {t t' : Rows K V} {k : K} {f : Option V → V}
    (h : place tx t k f = some t') : Apart tx t t' := by
  obtain ⟨hfree, rfl⟩ := place_cases h
  exact .write _ hfree

theorem gain_alter
    (h : alterWhere tx t k q f = some (old, t')) (g : K → V → ℤ) :
    gain g tx t' = gain g tx t + (Row.amount (g k) (old.bind f) - Row.amount (g k) old) := by
  rcases alterWhere_cases h with ⟨rfl, rfl, -⟩ | ⟨v, rfl, hseen, -, -, rfl⟩
  · simp
  · rw [gain_write, hseen, Option.bind_some]

theorem gain_update {u : V → V}
    (h : alterWhere tx t k q (fun v => some (u v)) = some (old, t'))
    (g : K → V → ℤ) :
    gain g tx t' = gain g tx t + (Row.amount (g k) (old.map u) - Row.amount (g k) old) := by
  rw [gain_alter h]
  cases old <;> rfl

/-- A locking read moves nothing. -/
theorem gain_lock
    (h : lock tx t k = some (old, t')) (g : K → V → ℤ) : gain g tx t' = gain g tx t := by
  rw [gain_alter h]
  simp

theorem held_alter
    (h : alterWhere tx t k q f = some (some v, t')) :
    (row t' k).Held tx ∧ (row t' k).seen tx = f v := by
  rcases alterWhere_cases h with ⟨hnone, -⟩ | ⟨w, hw, -, -, -, rfl⟩
  · cases hnone
  · cases hw
    exact ⟨held_write tx t k (f v), seen_write tx t k (f v)⟩

theorem row_alter_ne {k' : K}
    (h : alterWhere tx t k q f = some (old, t')) (hne : k' ≠ k) :
    row t' k' = row t k' := by
  rcases alterWhere_cases h with ⟨-, rfl, -⟩ | ⟨v, -, -, -, -, rfl⟩
  · rfl
  · rw [row_write, if_neg hne]

theorem total_seen (k : K) (f : V → ℤ) (tx : ℕ) (t : Rows K V) :
    total (fun k' v => if k' = k then f v else 0) t +
        gain (fun k' v => if k' = k then f v else 0) tx t =
      Row.amount f ((row t k).seen tx) := by
  rw [← total_commit, total_single, row_commit, Row.committed_commit]

/-! ## What a commit adds to a count -/

theorem count_commit_le
    (h : ∀ k, ¬ Brings p tx k (row t k)) : count p (commit tx t) ≤ count p t := by
  unfold count commit
  rw [Table.count_update]
  apply Table.count_le_count
  intro k r hr
  exact any_commit (row_of_lookup hr ▸ h k)

theorem count_commit_le_succ (key : K)
    (h : ∀ k, k ≠ key → ¬ Brings p tx k (row t k)) :
    count p (commit tx t) ≤ count p t + 1 := by
  unfold count commit
  rw [Table.count_update]
  have hone : Table.count t (fun k _ => decide (k = key)) ≤ 1 := by
    apply Table.count_le_one
    intro k v k' v' _ hk _ hk'
    exact (of_decide_eq_true hk).trans (of_decide_eq_true hk').symm
  refine le_trans ?_ (Nat.add_le_add_left hone _)
  unfold Table.count
  rw [← Table.sum_add]
  apply Table.sum_le_sum
  intro k r hr
  by_cases hk : k = key
  · simp only [hk, decide_true, if_true]
    split <;> omega
  · have hmono := any_commit (row_of_lookup hr ▸ h k hk)
    split
    · next hany => simp [hmono hany]
    · exact Nat.zero_le _

variable {version : Option V}

theorem count_write :
    count p (write tx t k version) = count p t := by
  have htotal := total_write (fun k v => if p k v then 1 else 0) tx t k version
  rw [total_count, total_count] at htotal
  exact_mod_cast htotal

/-! ## Columns that no statement writes -/

/-- Every version of a row has the same `g`. -/
def Fixed {α : Type*} (g : V → α) (t : Rows K V) : Prop :=
  ∀ k tx, ((row t k).seen tx).map g = (row t k).committed.map g

variable {α : Type*}

theorem Settled.fixed (h : Settled t) (g : V → α) : Fixed g t := by
  intro k tx
  rw [Row.seen_eq_committed (h.idle tx k)]

variable {g : V → α}

theorem Fixed.write (h : Fixed g t)
    (hversion : version.map g = ((row t k).seen tx).map g) :
    Fixed g (Rows.write tx t k version) := by
  intro k' tx'
  rw [row_write]
  split
  · by_cases htx : tx = tx'
    · simp only [Row.seen, htx, if_true]
      rw [hversion, h k tx]
    · simp only [Row.seen, htx, if_false]
  · exact h k' tx'

theorem Fixed.commit (h : Fixed g t) (tx : ℕ) :
    Fixed g (Rows.commit tx t) := by
  intro k tx'
  rw [row_commit]
  exact Row.map_seen_settle id (h k tx')

theorem Fixed.rollback (h : Fixed g t) (tx : ℕ) :
    Fixed g (Rows.rollback tx t) := by
  intro k tx'
  rw [row_rollback]
  exact Row.map_seen_settle _ (h k tx')

theorem Fixed.committed_commit (h : Fixed g t)
    (tx : ℕ) (k : K) :
    (row (Rows.commit tx t) k).committed.map g = (row t k).committed.map g := by
  rw [row_commit, Row.committed_commit, h k tx]

@[simp]
theorem committed_rollback (tx : ℕ) (t : Rows K V) (k : K) :
    (row (rollback tx t) k).committed = (row t k).committed := by
  rw [row_rollback, Row.committed_rollback]

theorem Fixed.alter (h : Fixed g t)
    (hf : ∀ v, (f v).map g = some (g v))
    (halter : Rows.alterWhere tx t k q f = some (old, t')) : Fixed g t' := by
  rcases alterWhere_cases halter with ⟨-, rfl, -⟩ | ⟨v, -, hseen, -, -, rfl⟩
  · exact h
  · apply h.write
    rw [hf, hseen]
    rfl

/-- Every version of every row satisfies `p`. -/
def Every (p : K → V → Prop) (t : Rows K V) : Prop :=
  ∀ k v, ((row t k).committed = some v ∨ ∃ tx, (row t k).writer = some (tx, some v)) → p k v

variable {p : K → V → Prop}

theorem Every.seen (h : Every p t)
    (hseen : (row t k).seen tx = some v) : p k v := by
  apply h k v
  unfold Row.seen at hseen
  split at hseen
  · exact .inl hseen
  · next holder own hwriter =>
    split at hseen
    · next heq => exact .inr ⟨holder, hseen ▸ hwriter⟩
    · exact .inl hseen

theorem Settled.every (h : Settled t)
    (hp : ∀ k v, (row t k).committed = some v → p k v) : Every p t := by
  intro k v hv
  rcases hv with hcommitted | hwriter
  · exact hp k v hcommitted
  · obtain ⟨tx, hwriter⟩ := hwriter
    rw [h k] at hwriter
    cases hwriter

theorem Every.mono {q : K → V → Prop} (h : Every p t)
    (hpq : ∀ k v, p k v → q k v) : Every q t :=
  fun k v hv => hpq k v (h k v hv)

theorem Every.put (h : Every p t)
    (hv : p k v) : Every p (Rows.put t k v) := by
  intro k' w hw
  rw [row_put] at hw
  split at hw
  · next heq =>
    rcases hw with hcommitted | ⟨tx, hwriter⟩
    · cases hcommitted
      exact heq ▸ hv
    · cases hwriter
  · exact h k' w hw

theorem Every.write (h : Every p t)
    (hversion : ∀ v, version = some v → p k v) :
    Every p (Rows.write tx t k version) := by
  intro k' v hv
  rw [row_write] at hv
  split at hv
  · next heq =>
    subst heq
    rcases hv with hcommitted | ⟨tx', hwriter⟩
    · exact h k' v (.inl hcommitted)
    · simp only [Option.some.injEq, Prod.mk.injEq] at hwriter
      exact hversion v hwriter.2
  · exact h k' v hv

theorem Every.alter (h : Every p t)
    (hf : ∀ v w, p k v → f v = some w → p k w)
    (halter : Rows.alterWhere tx t k q f = some (old, t')) : Every p t' := by
  rcases alterWhere_cases halter with ⟨-, rfl, -⟩ | ⟨v, -, hseen, -, -, rfl⟩
  · exact h
  · exact h.write fun w hw => hf v w (h.seen hseen) hw

theorem Every.commit (h : Every p t) (tx : ℕ) :
    Every p (Rows.commit tx t) := by
  intro k v hv
  rw [row_commit] at hv
  rcases (row t k).settle_eq_or tx id with heq | hgone
  · rw [Row.commit, heq] at hv
    exact h k v hv
  · rcases hv with hcommitted | ⟨tx', hwriter⟩
    · rw [Row.committed_commit] at hcommitted
      exact h.seen hcommitted
    · rw [Row.commit, hgone.2] at hwriter
      cases hwriter

theorem Every.rollback (h : Every p t) (tx : ℕ) :
    Every p (Rows.rollback tx t) := by
  intro k v hv
  rw [row_rollback] at hv
  rcases (row t k).settle_eq_or tx (fun _ => (row t k).committed) with heq | hgone
  · rw [Row.rollback, heq] at hv
    exact h k v hv
  · rcases hv with hcommitted | ⟨tx', hwriter⟩
    · rw [Row.committed_rollback] at hcommitted
      exact h k v (.inl hcommitted)
    · rw [Row.rollback, hgone.2] at hwriter
      cases hwriter

/-- A locking read leaves what its transaction sees. -/
theorem seen_relock
    (h : Rows.alterWhere tx t k q some = some (old, t')) (k' : K) :
    (row t' k').seen tx = (row t k').seen tx := by
  rcases alterWhere_cases h with ⟨-, rfl, -⟩ | ⟨v, -, hseen, -, -, rfl⟩
  · rfl
  · by_cases hk : k' = k
    · subst hk
      rw [seen_write, hseen]
    · rw [row_write, if_neg hk]

/-- What a transaction sees is a committed row under `r`: it inserted nothing that is still
open. -/
def Descends (r : V → V → Prop) (t : Rows K V) : Prop :=
  ∀ k tx v, (row t k).seen tx = some v → ∃ v', (row t k).committed = some v' ∧ r v' v

section Descends

variable {r : V → V → Prop}

theorem Descends.of_settled_row (hr : ∀ v, r v v) (hrow : (row t k).writer = none)
    (hseen : (row t k).seen tx' = some v) :
    ∃ v', (row t k).committed = some v' ∧ r v' v := by
  rw [Row.seen, hrow] at hseen
  exact ⟨v, hseen, hr v⟩

theorem Descends.alter (h : Descends r t)
    (hf : ∀ v v' w, r v v' → f v' = some w → r v w)
    (halter : Rows.alterWhere tx t k q f = some (old, t')) : Descends r t' := by
  rcases alterWhere_cases halter with ⟨-, rfl, -⟩ | ⟨u, -, hseen, -, hfree, rfl⟩
  · exact h
  · intro k' tx' v hv
    rw [committed_write]
    by_cases hk : k' = k
    · subst hk
      rw [row_write, if_pos rfl, Row.seen] at hv
      dsimp only at hv
      split at hv
      · obtain ⟨v', hv', hr⟩ := h k' tx u hseen
        exact ⟨v', hv', hf v' u v hr hv⟩
      · next hne =>
        -- another transaction sees what is committed
        have hnot := Row.not_held_of_free hfree (Ne.symm hne)
        exact h k' tx' v ((Row.seen_eq_committed hnot).trans hv)
    · rw [row_write, if_neg hk] at hv
      exact h k' tx' v hv

theorem Descends.settle (hr : ∀ v, r v v) (keep : Row V → Option V → Option V)
    (h : ∀ k, ¬ (row t k).Held tx → ∀ tx' v, (row t k).seen tx' = some v →
      ∃ v', (row t k).committed = some v' ∧ r v' v)
    (hrow : ∀ k, row t' k = (row t k).settle tx (keep (row t k))) : Descends r t' := by
  intro k tx' v hv
  by_cases hheld : (row t k).Held tx
  · obtain ⟨own, hown⟩ := hheld
    refine Descends.of_settled_row hr ?_ hv
    rw [hrow, Row.settle, hown]
    simp
  · have hsame : row t' k = row t k := by
      rcases (row t k).settle_eq_or tx (keep (row t k)) with heq | hgone
      · rw [hrow, heq]
      · exact absurd hgone.1 hheld
    rw [hsame] at hv ⊢
    exact h k hheld tx' v hv

theorem Descends.commit (h : Descends r t) (hr : ∀ v, r v v) (tx : ℕ) :
    Descends r (Rows.commit tx t) :=
  .settle hr (fun _ => id) (fun k _ => h k) (row_commit tx t)

theorem Descends.rollback (h : Descends r t) (hr : ∀ v, r v v) (tx : ℕ) :
    Descends r (Rows.rollback tx t) :=
  .settle hr (fun row _ => row.committed) (fun k _ => h k) (row_rollback tx t)

theorem Descends.commit_write (h : Descends r t) (hr : ∀ v, r v v) (tx : ℕ) (k : K)
    (version : Option V) : Descends r (Rows.commit tx (write tx t k version)) := by
  refine .settle hr (fun _ => id) (fun k' hnot => ?_) (row_commit tx _)
  rw [row_write] at hnot ⊢
  split at hnot
  · exact absurd ⟨version, rfl⟩ hnot
  · next hne =>
    rw [if_neg hne]
    exact h k'

theorem Descends.put (h : Descends r t) (hr : ∀ v, r v v) (k : K) (v : V) :
    Descends r (Rows.put t k v) := by
  intro k' tx' w hw
  by_cases hk : k' = k
  · refine Descends.of_settled_row hr ?_ hw
    rw [row_put, if_pos hk]
  · rw [row_put, if_neg hk] at hw ⊢
    exact h k' tx' w hw

end Descends

end Keys

end Rows

end ReadCommitted
