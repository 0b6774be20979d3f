import Hezarfen.FieldUpdate

/-!
# The counter of a reference edited by field updates

In every interleaving of creates, updates and deletes, with updates computed from readings
of any age, the counter on each row a reference can name equals the number of rows that
name it, and an update that is refused writes nothing.  The pin on the old reference is
what makes the release of a move effective: the row it pins still counts on it.
-/

namespace Hezarfen.FieldUpdates

open Interleaving ReadCommitted

variable (R : Reference)

variable {row : Columns} {link : Option Uuid} {s s' : Db} {tx tx' : ℕ} {k target id uuid : Uuid}
  {q : Columns → Bool} {f : Columns → Option Columns} {old : Option Columns} {job : Moving}
  {n : Reply R} {p : Point R}

def linksTo (target : Uuid) (_ : Uuid) (row : Columns) : Bool :=
  decide (R.linkOf row = some target)

def counts (target id : Uuid) (row : Columns) : ℤ :=
  if id = target then row.int R.counterField else 0

def one (b : Bool) : ℤ := if b then 1 else 0

def Db.counter (s : Db) (target : Uuid) : ℤ := s.targets.total (counts R target)

def Db.linkCount (s : Db) (target : Uuid) : ℕ := s.rows.count (linksTo R target)

/-- Every counter is the number of the rows that name it, so none of them names a row that is
gone. -/
def Db.Counted (s : Db) : Prop := ∀ target, s.counter R target = s.linkCount R target

def Db.owed (s : Db) (tx : ℕ) (target : Uuid) : ℤ :=
  s.rows.gain (fun k row => one (linksTo R target k row)) tx -
    s.targets.gain (counts R target) tx

/-! ## The update a handler builds -/

variable {R}

theorem set_apply (u : FieldUpdate) (field : String) (value : Option Param) (row : Columns) :
    (u.set field value).apply row =
      value.elim (u.apply row) fun v => (u.apply row).set field v.value := by
  cases value <;> simp [FieldUpdate.set, FieldUpdate.apply]

theorem setAll_apply_ne {fields : List (String × Option Param)} {name : String}
    (h : ∀ s ∈ fields, s.1 ≠ name) (u : FieldUpdate) (row : Columns) :
    (setAll u fields).apply row name = u.apply row name := by
  induction fields generalizing u with
  | nil => rfl
  | cons s fields ih =>
      have hrest := ih (fun t ht => h t (List.mem_cons_of_mem s ht)) (u.set s.1 s.2)
      have hne : name ≠ s.1 := (h s List.mem_cons_self).symm
      simp only [setAll, List.foldl_cons] at hrest ⊢
      rw [hrest, set_apply]
      cases s.2 with
      | none => rfl
      | some => simp [Columns.set, hne]

theorem set_isSet (u : FieldUpdate) (field name : String) (value : Option Param) :
    (u.set field value).isSet name = (u.isSet name || (value.isSome && field == name)) := by
  cases value <;> simp [FieldUpdate.set, FieldUpdate.isSet]

theorem setAll_isSet {fields : List (String × Option Param)} {name : String}
    (h : ∀ s ∈ fields, s.1 ≠ name) (u : FieldUpdate) :
    (setAll u fields).isSet name = u.isSet name := by
  induction fields generalizing u with
  | nil => rfl
  | cons s fields ih =>
      have hrest := ih (fun t ht => h t (List.mem_cons_of_mem s ht)) (u.set s.1 s.2)
      have hne : s.1 ≠ name := h s List.mem_cons_self
      simp only [setAll, List.foldl_cons] at hrest ⊢
      rw [hrest, set_isSet]
      simp [hne]

def Patch.fields (patch : Patch R) (id : Uuid) : FieldUpdate :=
  setAll ((setAll (.new id) patch.before).set R.link (patch.link.map .optUuid)) patch.after

theorem fieldUpdate_eq (patch : Patch R) (id : Uuid) (snapshot : Columns) :
    (patch.fieldUpdate id snapshot).sets = (patch.fields id).sets ∧
      (patch.fieldUpdate id snapshot).refcount =
        some ⟨R.link, R.linkOf snapshot, (refMove (R.linkOf snapshot) patch.link).1,
          (refMove (R.linkOf snapshot) patch.link).2, R.gone⟩ := by
  unfold Patch.fieldUpdate
  cases patch.ordered <;> exact ⟨rfl, rfl⟩

theorem fieldUpdate_apply (patch : Patch R) (id : Uuid) (snapshot row : Columns) :
    (patch.fieldUpdate id snapshot).apply row R.link =
      patch.link.elim (row R.link) fun next => (Param.optUuid next).value := by
  have hsets := (fieldUpdate_eq patch id snapshot).1
  have hfields : (patch.fields id).apply row R.link =
      patch.link.elim (row R.link) fun next => (Param.optUuid next).value := by
    unfold Patch.fields
    rw [setAll_apply_ne patch.after_ne, set_apply]
    cases patch.link with
    | none => exact setAll_apply_ne patch.before_ne (.new id) row
    | some => simp [Columns.set]
  rw [← hfields]
  unfold FieldUpdate.apply
  rw [hsets]

theorem fieldUpdate_isSet (patch : Patch R) (id : Uuid) (snapshot : Columns) :
    (patch.fieldUpdate id snapshot).isSet R.link = patch.link.isSome := by
  have hfields : (patch.fields id).isSet R.link = patch.link.isSome := by
    unfold Patch.fields
    rw [setAll_isSet patch.after_ne, set_isSet, setAll_isSet patch.before_ne]
    simp [FieldUpdate.new, FieldUpdate.isSet]
  rw [← hfields]
  unfold FieldUpdate.isSet
  rw [(fieldUpdate_eq patch id snapshot).1]

theorem linkOf_param (h : row R.link = (Param.optUuid link).value) : R.linkOf row = link := by
  unfold Reference.linkOf
  rw [h]
  cases link <;> rfl

variable (R)

structure MovesTo (u : FieldUpdate) (rc : Refcount) (next : Option Uuid) : Prop where
  link : rc.link = R.link
  writes : ∀ row, R.linkOf (u.apply row) = next
  moves : (rc.claim, rc.release) = refMove rc.expected (some next)

/-- What a handler's update does with the link. -/
structure Built (u : FieldUpdate) : Prop where
  keeps : u.moved = none → ∀ row, R.linkOf (u.apply row) = R.linkOf row
  moves : ∀ rc, u.moved = some rc → ∃ next, MovesTo R u rc next

variable {R}

theorem fieldUpdate_built (patch : Patch R) (id : Uuid) (snapshot : Columns) :
    Built R (patch.fieldUpdate id snapshot) := by
  have hrefcount := (fieldUpdate_eq patch id snapshot).2
  have hset := fieldUpdate_isSet patch id snapshot
  have hmoved : (patch.fieldUpdate id snapshot).moved =
      if patch.link.isSome then some ⟨R.link, R.linkOf snapshot,
        (refMove (R.linkOf snapshot) patch.link).1,
        (refMove (R.linkOf snapshot) patch.link).2, R.gone⟩ else none := by
    rw [FieldUpdate.moved, hrefcount, Option.filter_some, hset]
  constructor
  · intro hnone row
    have homitted : patch.link = none := by
      cases hlink : patch.link with
      | none => rfl
      | some => simp [hmoved, hlink] at hnone
    have happly := fieldUpdate_apply patch id snapshot row
    rw [homitted] at happly
    unfold Reference.linkOf
    rw [happly]
    rfl
  · intro rc hrc
    cases hlink : patch.link with
    | none => simp [hmoved, hlink] at hrc
    | some next =>
        rw [hmoved, hlink] at hrc
        cases hrc
        refine ⟨next, rfl, fun row => ?_, rfl⟩
        apply linkOf_param
        rw [fieldUpdate_apply, hlink]
        rfl

theorem refMove_cases (current next : Option Uuid) :
    (next = current ∧ refMove current (some next) = (none, none)) ∨
      (next ≠ current ∧ refMove current (some next) = (next, current)) := by
  unfold refMove
  by_cases h : next = current
  · exact .inl ⟨h, if_pos h⟩
  · exact .inr ⟨h, if_neg h⟩

variable (R)

structure Inv (s : Db) : Prop where
  counted : s.Counted R
  wholeRows : s.rows.Whole
  wholeTargets : s.targets.Whole
  targetsMinted : s.targets.Every fun k _ => k ∈ s.minted
  rowsMinted : s.rows.Every fun k row =>
    k ∈ s.minted ∧ ∀ target, R.linkOf row = some target → target ∈ s.minted

variable {R}

def Db.Idle (tx : ℕ) (s : Db) : Prop := s.rows.Idle tx ∧ s.targets.Idle tx

def Released (tx : ℕ) (s : Db) (target : Option Uuid) : Prop :=
  ∀ k, target = some k →
    (s.targets.row k).Held tx ∨ k ∈ s.minted ∧ (s.targets.row k).committed = none

variable (R)

def Fits (s : Db) (job : Moving) : Prop :=
  (∃ next, MovesTo R job.update job.refcount next) ∧
    ∀ k, job.refcount.expected = some k → k ∈ s.minted

def Point.Knows (tx : ℕ) (s : Db) : Point R → Prop
  | .run update => Built R update ∧ s.Idle tx ∧
      ∀ rc, update.moved = some rc → ∀ k, rc.expected = some k → k ∈ s.minted
  | .release job => Fits R s job ∧ s.Idle tx
  | .claim job => Fits R s job ∧ s.rows.Idle tx ∧ Released tx s job.refcount.release
  | .write job => Fits R s job ∧ s.rows.Idle tx ∧ Released tx s job.refcount.release ∧
      ∀ k, job.refcount.claim = some k → k ∈ s.minted
  | .deleteRow id guard => (s.rows.row id).Held tx ∧ (s.rows.row id).seen tx = some guard
  | .probe _ | .commitUpdate _ | .releaseLink _ | .commitDelete => True
  | _ => s.Idle tx

/-- What the counter of a target owes to the rows at a point of a call.  A release counts when
the counter was not yet zero. -/
def Point.due (s : Db) (target : Uuid) : Point R → ℤ
  | .claim job =>
      one (decide (job.refcount.release = some target) && decide (0 < s.counter R target))
  | .write job =>
      one (decide (job.refcount.release = some target) && decide (0 < s.counter R target)) -
        one (decide (job.refcount.claim = some target))
  | .releaseLink link => - one (decide (link = some target))
  | _ => 0

def Point.Owes (tx : ℕ) (s : Db) (p : Point R) : Prop :=
  match p with
  | .probe _ => True
  | _ => ∀ target, s.owed R tx target = p.due R s target

structure Db.Apart (tx : ℕ) (s s' : Db) : Prop where
  rows : s.rows.Apart tx s'.rows
  targets : s.targets.Apart tx s'.targets
  minted : s.minted ⊆ s'.minted
  /-- An identifier is not used again. -/
  gone : ∀ k ∈ s.minted, (s.targets.row k).committed = none → (s'.targets.row k).committed = none

variable {R}

theorem counter_eq (s : Db) (target : Uuid) :
    s.counter R target =
      Row.amount (fun row => row.int R.counterField) (s.targets.row target).committed :=
  Rows.total_single target _ s.targets

theorem counter_seen (hcounted : s.Counted R) (tx : ℕ) (target : Uuid) :
    Row.amount (fun row => row.int R.counterField) ((s.targets.row target).seen tx) +
        s.owed R tx target =
      (s.rows.commit tx).count (linksTo R target) := by
  have hsum : s.targets.total (counts R target) + s.targets.gain (counts R target) tx =
      Row.amount (fun row => row.int R.counterField) ((s.targets.row target).seen tx) :=
    Rows.total_seen target _ tx s.targets
  have hrows := Rows.total_commit (fun k row => one (linksTo R target k row)) tx s.rows
  have hcommit : (s.rows.commit tx).total (fun k row => one (linksTo R target k row)) =
      (s.rows.commit tx).count (linksTo R target) := Rows.total_count _ _
  have hnow : s.rows.total (fun k row => one (linksTo R target k row)) =
      s.rows.count (linksTo R target) := Rows.total_count _ _
  have heq := hcounted target
  unfold Db.counter Db.linkCount at heq
  unfold Db.owed
  omega

theorem Db.Idle.owed (h : s.Idle tx) (target : Uuid) :
    s.owed R tx target = 0 := by
  unfold Db.owed
  rw [Rows.gain_of_idle _ h.1, Rows.gain_of_idle _ h.2, sub_self]

/-! ## What the writes of one table keep -/

theorem Inv.of_totals (hinv : Inv R s)
    (hcounter : ∀ target, s'.counter R target = s.counter R target)
    (hlinks : ∀ target, s'.linkCount R target = s.linkCount R target) (hwholeRows : s'.rows.Whole)
    (hwholeTargets : s'.targets.Whole) (htargets : s'.targets.Every fun k _ => k ∈ s'.minted)
    (hrows : s'.rows.Every fun k row =>
      k ∈ s'.minted ∧ ∀ target, R.linkOf row = some target → target ∈ s'.minted) :
    Inv R s' where
  counted := by
    intro target
    rw [hcounter, hlinks]
    exact hinv.counted target
  wholeRows := hwholeRows
  wholeTargets := hwholeTargets
  targetsMinted := htargets
  rowsMinted := hrows

theorem Inv.targets (hinv : Inv R s) {targets : Rows Uuid Columns}
    (halter : s.targets.alterWhere tx k q f = some (old, targets)) :
    Inv R { s with targets := targets } :=
  hinv.of_totals (fun _ => Rows.total_alter halter _) (fun _ => rfl)
    hinv.wholeRows (hinv.wholeTargets.alter halter)
    (hinv.targetsMinted.alter (fun _ _ hk _ => hk) halter) hinv.rowsMinted

theorem Inv.rows (hinv : Inv R s) {rows : Rows Uuid Columns}
    (hf : ∀ v w, f v = some w → ∀ target, R.linkOf w = some target →
      R.linkOf v = some target ∨ target ∈ s.minted)
    (halter : s.rows.alterWhere tx k q f = some (old, rows)) :
    Inv R { s with rows := rows } := by
  refine hinv.of_totals (fun _ => rfl) (fun target => Rows.count_alter halter _)
    (hinv.wholeRows.alter halter) hinv.wholeTargets hinv.targetsMinted
      (hinv.rowsMinted.alter (fun v w hv hw => ⟨hv.1, fun target ht => ?_⟩)
      halter)
  rcases hf v w hw target ht with hold | hminted
  · exact hv.2 target hold
  · exact hminted

theorem Inv.rollback (hinv : Inv R s) (tx : ℕ) : Inv R (s.rollback tx) :=
  hinv.of_totals (fun _ => Rows.total_rollback _ tx _) (fun _ => Rows.count_rollback _ tx _)
    (hinv.wholeRows.rollback tx) (hinv.wholeTargets.rollback tx)
    (hinv.targetsMinted.rollback tx) (hinv.rowsMinted.rollback tx)

/-- A transaction that owes nothing may commit. -/
theorem Inv.commit (hinv : Inv R s) (howed : ∀ target, s.owed R tx target = 0) :
    Inv R (s.commit tx) where
  counted := by
    intro target
    have hzero := howed target
    have hold := hinv.counted target
    have hrows : ((s.rows.commit tx).count (linksTo R target) : ℤ) =
        s.rows.count (linksTo R target) +
          s.rows.gain (fun k row => one (linksTo R target k row)) tx := by
      rw [← Rows.total_count, ← Rows.total_count]
      exact Rows.total_commit _ tx s.rows
    unfold Db.owed at hzero
    unfold Db.counter Db.linkCount at hold ⊢
    unfold Db.commit
    dsimp only
    rw [Rows.total_commit, hold]
    omega
  wholeRows := hinv.wholeRows.commit tx
  wholeTargets := hinv.wholeTargets.commit tx
  targetsMinted := hinv.targetsMinted.commit tx
  rowsMinted := hinv.rowsMinted.commit tx

variable (R)

def Lands (tx : ℕ) (s : Db) : Reply R → Prop
  | .goto q => Inv R s ∧ q.Knows R tx s ∧ q.Owes R tx s
  | .answer _ => Inv R s ∧ s.Idle tx

variable {R}

theorem lands_refuse (hinv : Inv R s) (tx : ℕ) (e : AppError) :
    Lands R tx (refuse (R := R) tx s e).1 (refuse (R := R) tx s e).2 :=
  ⟨hinv.rollback tx, Rows.idle_rollback tx s.rows, Rows.idle_rollback tx s.targets⟩

theorem lands_autocommit (hinv : Inv R s) (howed : ∀ target, s.owed R tx target = 0) (a : Answer) :
    Lands R tx (autocommit (R := R) tx s a).1 (autocommit (R := R) tx s a).2 :=
  ⟨hinv.commit howed, Rows.idle_commit tx s.rows, Rows.idle_commit tx s.targets⟩

theorem owed_targets {targets : Rows Uuid Columns}
    (h : s.targets.alterWhere tx k q f = some (old, targets)) :
    ({ s with targets := targets } : Db).owed R tx target =
      s.owed R tx target - (Row.amount (counts R target k) (old.bind f) -
        Row.amount (counts R target k) old) := by
  unfold Db.owed
  rw [Rows.gain_alter h]
  dsimp only
  omega

theorem owed_rows {rows : Rows Uuid Columns} (h : s.rows.alterWhere tx k q f = some (old, rows)) :
    ({ s with rows := rows } : Db).owed R tx target =
      s.owed R tx target + (Row.amount (fun row => one (linksTo R target k row)) (old.bind f) -
        Row.amount (fun row => one (linksTo R target k row)) old) := by
  unfold Db.owed
  rw [Rows.gain_alter h]
  dsimp only
  omega

theorem counts_claim (target k : Uuid) (row : Columns) :
    counts R target k (R.claim row) - counts R target k row =
      one (decide (k = target)) := by
  unfold counts Reference.claim
  by_cases hk : k = target
  · simp [hk, Columns.int, Columns.set, one]
  · simp [hk, one]

theorem counts_release (target k : Uuid) (row : Columns) :
    counts R target k (R.release row) - counts R target k row =
      - one (decide (k = target) && decide (0 < row.int R.counterField)) -
        (if k = target then min (row.int R.counterField) 0 else 0) := by
  unfold counts Reference.release
  by_cases hk : k = target
  · have hset : (row.set R.counterField (.i64 (max (row.int R.counterField - 1) 0))).int
        R.counterField = max (row.int R.counterField - 1) 0 := by
      simp [Columns.int, Columns.set]
    simp only [hk, if_true, hset, decide_true, Bool.true_and, one, decide_eq_true_eq]
    split <;> omega
  · simp [hk, one]

theorem owed_claim {targets : Rows Uuid Columns}
    (h : s.targets.alter tx k (fun row => some (R.claim row)) = some (some row, targets))
    (target : Uuid) :
    ({ s with targets := targets } : Db).owed R tx target =
      s.owed R tx target - one (decide (k = target)) := by
  rw [owed_targets h, ← counts_claim target k row]
  rfl

/-- The counters of a counted store are not negative. -/
theorem counter_nonneg (hcounted : s.Counted R) (target : Uuid) :
    0 ≤ s.counter R target := by
  rw [hcounted target]
  exact Int.natCast_nonneg _

theorem owed_release {targets : Rows Uuid Columns} (hcounted : s.Counted R)
    (hidle : (s.targets.row k).seen tx = (s.targets.row k).committed)
    (h : s.targets.alter tx k (fun row => some (R.release row)) = some (old, targets))
    (target : Uuid) :
    ({ s with targets := targets } : Db).owed R tx target =
      s.owed R tx target +
        one (decide (k = target) && decide (0 < s.counter R target)) := by
  rw [owed_targets h]
  have hseen := (Rows.alter_cases h).1
  rw [hidle] at hseen
  by_cases hk : k = target
  · subst hk
    have hcounter := counter_eq (R := R) s k
    have hnonneg := counter_nonneg hcounted k
    rw [hseen] at hcounter
    cases old with
    | none =>
        simp only [Row.amount, Option.elim] at hcounter
        simp [hcounter, Row.amount, one]
    | some row =>
        have hmoves := counts_release (R := R) k k row
        simp only [Row.amount, Option.elim] at hcounter
        simp only [if_true, ← hcounter, min_eq_right hnonneg] at hmoves
        simp only [Row.amount, Option.bind_some, Option.elim]
        omega
  · cases old with
    | none => simp [Row.amount, hk, one]
    | some => simp [Row.amount, hk, one, counts]

theorem owed_releaseLink {targets : Rows Uuid Columns} (hcounted : s.Counted R)
    (howed : ∀ target, s.owed R tx target = - one (decide (some k = some target)))
    (h : s.targets.alter tx k (fun row => some (R.release row)) = some (old, targets))
    (target : Uuid) : ({ s with targets := targets } : Db).owed R tx target = 0 := by
  rw [owed_targets h, howed target]
  have hseen := (Rows.alter_cases h).1
  by_cases hk : k = target
  · subst hk
    have hcounter := counter_seen hcounted tx k
    rw [howed k, hseen] at hcounter
    simp only [decide_true, one, if_true] at hcounter ⊢
    cases old with
    | none =>
        simp only [Row.amount, Option.elim] at hcounter
        omega
    | some row =>
        have hmoves := counts_release (R := R) k k row
        simp only [Row.amount, Option.elim] at hcounter
        have hpos : 0 < row.int R.counterField := by omega
        simp only [if_true, hpos, decide_true, Bool.and_self, one,
          min_eq_right (le_of_lt hpos)] at hmoves
        simp only [Row.amount, Option.bind_some, Option.elim]
        omega
  · cases old with
    | none => simp [Row.amount, hk, one]
    | some => simp [Row.amount, hk, one, counts]

theorem MovesTo.release_eq {u : FieldUpdate} {rc : Refcount} {next : Option Uuid}
    (h : MovesTo R u rc next) (hk : rc.release = some k) : rc.expected = some k := by
  have hmoves := h.moves
  rcases refMove_cases rc.expected next with ⟨-, hrefs⟩ | ⟨-, hrefs⟩
  · rw [hrefs, Prod.mk.injEq] at hmoves
    rw [hmoves.2] at hk
    cases hk
  · rw [hrefs, Prod.mk.injEq] at hmoves
    rw [← hmoves.2, hk]

theorem step_release (hinv : Inv R s) (hknows : (Point.release (R := R) job).Knows R tx s)
    (howes : (Point.release (R := R) job).Owes R tx s)
    (h : releaseCounter R tx s job.refcount.release = some s') :
    Lands R tx s' (.goto (.claim job)) := by
  obtain ⟨hfits, hidle⟩ := hknows
  obtain ⟨next, hmoves⟩ := hfits.1
  unfold releaseCounter at h
  cases hrelease : job.refcount.release with
  | none =>
      rw [hrelease] at h
      cases h
      refine ⟨hinv, ⟨hfits, hidle.1, fun k hk => ?_⟩, fun target => ?_⟩
      · rw [hrelease] at hk
        cases hk
      · simp only [Point.due, hrelease]
        exact howes target
  | some k =>
      simp only [hrelease, Option.map_eq_some_iff] at h
      obtain ⟨⟨old, targets⟩, halter, rfl⟩ := h
      have hrow : (s.targets.row k).seen tx = (s.targets.row k).committed :=
        Row.seen_eq_committed (hidle.2 k)
      refine ⟨hinv.targets halter, ⟨hfits, hidle.1, fun k' hk' => ?_⟩, fun target => ?_⟩
      · rw [hrelease] at hk'
        cases hk'
        cases old with
        | some => exact .inl (Rows.held_alter halter).1
        | none =>
            refine .inr ⟨hfits.2 k (hmoves.release_eq hrelease), ?_⟩
            have hseen := (Rows.alter_cases halter).1
            rw [Rows.committed_alter halter, ← hrow, hseen]
      · rw [owed_release hinv.counted hrow halter, howes target]
        have hcounter : ({ s with targets := targets } : Db).counter R target =
            s.counter R target := Rows.total_alter halter _
        simp only [Point.due, hrelease, Option.some.injEq, hcounter, zero_add]

theorem step_claim (hinv : Inv R s) (hknows : (Point.claim (R := R) job).Knows R tx s)
    (howes : (Point.claim (R := R) job).Owes R tx s) (h : claim R tx s job = some (s', n)) :
    Lands R tx s' n := by
  obtain ⟨hfits, hidle, hreleased⟩ := hknows
  unfold claim at h
  cases hclaim : job.refcount.claim with
  | none =>
      rw [hclaim] at h
      cases h
      refine ⟨hinv, ⟨hfits, hidle, hreleased, fun k hk => ?_⟩, fun target => ?_⟩
      · rw [hclaim] at hk
        cases hk
      · simp only [Point.due, hclaim, reduceCtorEq, decide_false, one, Bool.false_eq_true,
          if_false, sub_zero]
        exact howes target
  | some k =>
      simp only [hclaim] at h
      split at h
      · cases h
      · cases h
        exact lands_refuse hinv tx _
      · next row targets halter =>
        cases h
        refine ⟨hinv.targets halter, ⟨hfits, hidle, fun k' hk' => ?_, fun k' hk' => ?_⟩,
          fun target => ?_⟩
        · rcases hreleased k' hk' with hheld | ⟨hminted, hnone⟩
          · left
            obtain ⟨-, hsame | ⟨v, -, -, hwrite⟩⟩ := Rows.alter_cases halter
            · cases hsame.1
            · dsimp only
              rw [hwrite]
              exact Rows.held_write_of_held hheld k _
          · refine .inr ⟨hminted, ?_⟩
            dsimp only
            rw [Rows.committed_alter halter]
            exact hnone
        · rw [hclaim] at hk'
          cases hk'
          exact hinv.targetsMinted.seen (Rows.alter_cases halter).1
        · rw [owed_claim halter, howes target]
          have hcounter : ({ s with targets := targets } : Db).counter R target =
              s.counter R target := Rows.total_alter halter _
          simp only [Point.due, hclaim, Option.some.injEq, hcounter]

theorem step_write (hinv : Inv R s) (hknows : (Point.write (R := R) job).Knows R tx s)
    (howes : (Point.write (R := R) job).Owes R tx s) (h : write R tx s job = some (s', n)) :
    Lands R tx s' n := by
  obtain ⟨⟨⟨next, hmoves⟩, hexpected⟩, hidle, -, hclaimed⟩ := hknows
  unfold write at h
  split at h
  · cases h
  · cases h
    exact ⟨hinv, trivial, trivial⟩
  · next row rows halter =>
    cases h
    rcases Rows.alterWhere_cases halter with ⟨hnone, -⟩ | ⟨v, hv, hseen, hq, -, -⟩
    · cases hnone
    cases hv
    have hlink : R.linkOf row = job.refcount.expected := by
      rw [Bool.and_eq_true] at hq
      have hholds := of_decide_eq_true hq.2
      rw [hmoves.link] at hholds
      exact linkOf_param hholds
    have hwrites := hmoves.writes row
    refine ⟨hinv.rows (fun v w hw target ht => ?_) halter, trivial, fun target => ?_⟩
    · cases hw
      rw [hmoves.writes v] at ht
      right
      rcases refMove_cases job.refcount.expected next with ⟨hsame, -⟩ | ⟨-, hrefs⟩
      · exact hexpected target (hsame ▸ ht)
      · have hclaim := hmoves.moves
        rw [hrefs, Prod.mk.injEq] at hclaim
        exact hclaimed target (by rw [hclaim.1, ht])
    · rw [owed_rows halter, howes target]
      simp only [Point.due, Row.amount, Option.bind_some, Option.elim, linksTo, hlink, hwrites]
      rcases refMove_cases job.refcount.expected next with ⟨hsame, hrefs⟩ | ⟨-, hrefs⟩
      · have hnothing := hmoves.moves
        rw [hrefs, Prod.mk.injEq] at hnothing
        simp [hnothing.1, hnothing.2, hsame, one]
      · have hboth := hmoves.moves
        rw [hrefs, Prod.mk.injEq] at hboth
        rw [hboth.1, hboth.2]
        by_cases htarget : job.refcount.expected = some target
        · have hcommitted : (s.rows.row job.update.id).committed = some row := by
            rw [← Row.seen_eq_committed (hidle job.update.id), hseen]
          have hpos : 0 < s.linkCount R target :=
            Rows.count_pos hcommitted (by simp [linksTo, hlink, htarget])
          have hcounter : 0 < s.counter R target := by
            rw [hinv.counted target]
            exact_mod_cast hpos
          simp only [htarget, hcounter, decide_true, Bool.and_self]
          omega
        · have hnot : one false = 0 := rfl
          simp only [htarget, decide_false, Bool.false_and, hnot]
          omega

theorem step_run {u : FieldUpdate} (hinv : Inv R s) (hknows : (Point.run (R := R) u).Knows R tx s)
    (howes : (Point.run (R := R) u).Owes R tx s) (h : run R tx s u = some (s', n)) :
    Lands R tx s' n := by
  obtain ⟨hbuilt, hidle, hminted⟩ := hknows
  unfold run at h
  split at h
  · split at h
    · cases h
      exact ⟨hinv, hidle⟩
    · cases h
      exact ⟨hinv, hidle⟩
  · cases hmoved : u.moved with
    | some rc =>
        simp only [hmoved, Option.some.injEq, Prod.mk.injEq] at h
        obtain ⟨rfl, rfl⟩ := h
        exact ⟨hinv, ⟨⟨hbuilt.moves rc hmoved, hminted rc hmoved⟩, hidle⟩, howes⟩
    | none =>
        simp only [hmoved] at h
        split at h
        · cases h
        · cases h
          exact lands_refuse hinv tx _
        · next row rows halter =>
          cases h
          have hkeeps := hbuilt.keeps hmoved
          apply lands_autocommit (hinv.rows (fun v w hw target ht => ?_) halter)
          · intro target
            rw [owed_rows halter, hidle.owed]
            simp [Row.amount, linksTo, hkeeps]
          · cases hw
            left
            rw [← hkeeps v]
            exact ht

theorem Inv.mint (hinv : Inv R s) (h : s.mint id = some s') :
    Inv R s' ∧ s' = { s with minted := id :: s.minted } ∧ id ∉ s.minted := by
  unfold Db.mint at h
  split at h
  · cases h
  · next hfresh =>
    cases h
    refine ⟨?_, rfl, hfresh⟩
    have hmono : ∀ k ∈ s.minted, k ∈ id :: s.minted := fun k hk => List.mem_cons_of_mem id hk
    exact
      { counted := hinv.counted
        wholeRows := hinv.wholeRows
        wholeTargets := hinv.wholeTargets
        targetsMinted := hinv.targetsMinted.mono fun k _ hk => hmono k hk
        rowsMinted := hinv.rowsMinted.mono fun k _ hk =>
          ⟨hmono k hk.1, fun target ht => hmono target (hk.2 target ht)⟩ }

theorem Inv.fresh (hinv : Inv R s) (hfresh : id ∉ s.minted) :
    s.rows.row id = .vacant ∧ s.targets.row id = .vacant := by
  constructor
  · apply hinv.wholeRows.vacant
    cases hcommitted : (s.rows.row id).committed with
    | none => rfl
    | some v => exact absurd (hinv.rowsMinted id v (.inl hcommitted)).1 hfresh
  · apply hinv.wholeTargets.vacant
    cases hcommitted : (s.targets.row id).committed with
    | none => rfl
    | some v => exact absurd (hinv.targetsMinted id v (.inl hcommitted)) hfresh

theorem Inv.create (hinv : Inv R s) (hvacant : s.rows.row id = .vacant) (hid : id ∈ s.minted)
    (hlink : ∀ target, R.linkOf row = some target → target ∈ s.minted)
    (howed : ∀ target, s.owed R tx target = - one (linksTo R target id row)) :
    Inv R (({ s with rows := s.rows.put id row } : Db).commit tx) where
  counted := by
    intro target
    have hzero := howed target
    have hold := hinv.counted target
    have hrows : (((s.rows.put id row).commit tx).count (linksTo R target) : ℤ) =
        s.rows.count (linksTo R target) + one (linksTo R target id row) +
          s.rows.gain (fun k row => one (linksTo R target k row)) tx := by
      rw [← Rows.total_count, ← Rows.total_count, Rows.total_commit]
      have hput := Rows.total_put (fun k v => if linksTo R target k v then (1 : ℤ) else 0)
        hvacant row
      have hgain := Rows.gain_put (fun k v => if linksTo R target k v then (1 : ℤ) else 0) tx
        hvacant row
      rw [hput, hgain]
      rfl
    unfold Db.owed at hzero
    unfold Db.counter Db.linkCount at hold ⊢
    unfold Db.commit
    dsimp only
    rw [Rows.total_commit, hold]
    omega
  wholeRows := (hinv.wholeRows.put id row).commit tx
  wholeTargets := hinv.wholeTargets.commit tx
  targetsMinted := hinv.targetsMinted.commit tx
  rowsMinted := (hinv.rowsMinted.put ⟨hid, hlink⟩).commit tx

theorem step_create {columns : Columns} (hinv : Inv R s) (hidle : s.Idle tx)
    (h : create R tx s columns link id = some (s', n)) : Lands R tx s' n := by
  unfold create at h
  split at h
  · cases h
  · next minted hmint =>
    obtain ⟨hinv', rfl, hfresh⟩ := hinv.mint hmint
    have hvacant := (hinv.fresh hfresh).1
    have hrow : R.linkOf (columns.set R.link (Param.optUuid link).value) = link := by
      apply linkOf_param
      simp [Columns.set]
    have hold : ∀ k, ({ s with minted := id :: s.minted } : Db).owed R tx k = 0 := hidle.owed
    split at h
    · cases h
      refine ⟨hinv'.create hvacant List.mem_cons_self (fun target ht => ?_) (fun k => ?_),
        Rows.idle_commit tx _, Rows.idle_commit tx _⟩
      · rw [hrow] at ht
        cases ht
      · rw [hold, linksTo, hrow]
        simp [one]
    · next target =>
      split at h
      · cases h
      · cases h
        exact lands_refuse hinv' tx _
      · next seat targets halter =>
        cases h
        have hminted : target ∈ id :: s.minted :=
          hinv'.targetsMinted.seen (Rows.alter_cases halter).1
        refine ⟨(hinv'.targets halter).create hvacant List.mem_cons_self
          (fun k hk => ?_) (fun k => ?_), Rows.idle_commit tx _, Rows.idle_commit tx _⟩
        · rw [hrow] at hk
          cases hk
          exact hminted
        · rw [owed_claim halter, hold, linksTo, hrow]
          simp only [Option.some.injEq]
          omega

theorem step_delete (hinv : Inv R s) (hidle : s.Idle tx) (h : delete R tx s id = some (s', n)) :
    Lands R tx s' n := by
  unfold delete at h
  split at h
  · cases h
  · cases h
    exact lands_refuse hinv tx _
  · next row rows hlock =>
    have hinv' : Inv R { s with rows := rows } := by
      refine hinv.rows (fun v w hw target ht => ?_) hlock
      cases hw
      exact .inl ht
    have howed : ∀ target, ({ s with rows := rows } : Db).owed R tx target = 0 := by
      intro target
      rw [owed_rows hlock, hidle.owed]
      simp
    split at h
    · cases h
      exact ⟨hinv', Rows.held_alter hlock, howed⟩
    · cases h
      exact lands_autocommit hinv' howed _

theorem step_deleteRow {guard : Columns} (hinv : Inv R s)
    (hknows : (Point.deleteRow (R := R) id guard).Knows R tx s)
    (howes : (Point.deleteRow (R := R) id guard).Owes R tx s)
    (h : deleteRow R tx s id guard = some (s', n)) : Lands R tx s' n := by
  unfold deleteRow at h
  rw [Option.map_eq_some_iff] at h
  obtain ⟨⟨old, rows⟩, halter, hrest⟩ := h
  cases hrest
  have hseen := (Rows.alter_cases halter).1
  rw [hknows.2] at hseen
  subst hseen
  refine ⟨hinv.rows (fun v w hw => by cases hw) halter, trivial, fun target => ?_⟩
  have hzero : s.owed R tx target = 0 := howes target
  rw [owed_rows halter, hzero]
  simp only [Point.due, Row.amount, Option.bind_some, Option.elim, linksTo]
  omega

theorem step_releaseLink (hinv : Inv R s) (howes : (Point.releaseLink (R := R) link).Owes R tx s)
    (h : releaseCounter R tx s link = some s') : Lands R tx s' (.goto .commitDelete) := by
  unfold releaseCounter at h
  cases link with
  | none =>
      cases h
      refine ⟨hinv, trivial, fun target => ?_⟩
      have hzero := howes target
      simpa [Point.due, one] using hzero
  | some =>
      simp only [Option.map_eq_some_iff] at h
      obtain ⟨⟨old, targets⟩, halter, rfl⟩ := h
      exact ⟨hinv.targets halter, trivial, owed_releaseLink hinv.counted howes halter⟩

theorem step_createTarget {columns : Columns} (hinv : Inv R s) (hidle : s.Idle tx)
    (h : createTarget R s columns id = some (s', n)) : Lands R tx s' n := by
  unfold createTarget at h
  rw [Option.map_eq_some_iff] at h
  obtain ⟨minted, hmint, hrest⟩ := h
  obtain ⟨hinv', rfl, hfresh⟩ := hinv.mint hmint
  cases hrest
  refine ⟨hinv'.of_totals (fun target => ?_) (fun _ => rfl) hinv'.wholeRows
    (hinv'.wholeTargets.put _ _) (hinv'.targetsMinted.put List.mem_cons_self) hinv'.rowsMinted,
    hidle.1, Rows.idle_put hidle.2 _ _⟩
  have htotal := Rows.total_put (counts R target) (hinv.fresh hfresh).2
    (columns.set R.counterField (.i64 0))
  have hzero : counts R target id (columns.set R.counterField (.i64 0)) = 0 := by
    simp [counts, Columns.int, Columns.set]
  rw [hzero, add_zero] at htotal
  exact htotal

theorem step_deleteTarget (hinv : Inv R s) (hidle : s.Idle tx)
    (h : deleteTarget R tx s id = some (s', n)) : Lands R tx s' n := by
  unfold deleteTarget at h
  split at h
  · cases h
  · cases h
    exact ⟨hinv, hidle, fun target => hidle.owed target⟩
  · next row targets halter =>
    cases h
    rcases Rows.alterWhere_cases halter with ⟨hnone, -⟩ | ⟨v, hv, -, hunlinked, -, -⟩
    · cases hnone
    cases hv
    apply lands_autocommit (hinv.targets halter)
    intro target
    rw [owed_targets halter, hidle.owed]
    have hzero := R.unlinked_counter row hunlinked
    simp [Row.amount, counts, hzero]

theorem step_read {patch : Patch R} (hinv : Inv R s) (hidle : s.Idle tx) :
    Lands R tx s (read R s id patch) := by
  unfold read
  split
  · exact ⟨hinv, hidle⟩
  · next snapshot hsnapshot =>
    refine ⟨hinv, ⟨fieldUpdate_built patch id snapshot, hidle, fun rc hrc k hk => ?_⟩,
      fun target => hidle.owed target⟩
    have hrefcount := (fieldUpdate_eq patch id snapshot).2
    rw [FieldUpdate.moved, Option.filter_eq_some_iff, hrefcount] at hrc
    obtain ⟨hrc, -⟩ := hrc
    cases hrc
    exact (hinv.rowsMinted id snapshot (.inl hsnapshot)).2 k hk

/-! ## What a step leaves to the others -/

theorem Db.Apart.refl (tx : ℕ) (s : Db) : s.Apart tx s :=
  ⟨.refl tx _, .refl tx _, fun _ hk => hk, fun _ _ hk => hk⟩

theorem Db.Apart.trans {s'' : Db} (h : s.Apart tx s') (h' : s'.Apart tx s'') :
    s.Apart tx s'' :=
  ⟨h.rows.trans h'.rows, h.targets.trans h'.targets, fun _ hk => h'.minted (h.minted hk),
    fun k hk hgone => h'.gone k (h.minted hk) (h.gone k hk hgone)⟩

theorem apart_rows {rows : Rows Uuid Columns}
    (halter : s.rows.alterWhere tx k q f = some (old, rows)) :
    s.Apart tx { s with rows := rows } :=
  ⟨.alter halter, .refl tx _, fun _ hk => hk, fun _ _ hk => hk⟩

theorem apart_targets {targets : Rows Uuid Columns}
    (halter : s.targets.alterWhere tx k q f = some (old, targets)) :
    s.Apart tx { s with targets := targets } :=
  ⟨.refl tx _, .alter halter, fun _ hk => hk, fun k _ hk => by
    rw [← hk]
    exact Rows.committed_alter halter k⟩

theorem apart_rollback (tx : ℕ) (s : Db) : s.Apart tx (s.rollback tx) :=
  ⟨.rollback tx _, .rollback tx _, fun _ hk => hk, fun k _ hk => by
    rw [← hk]
    exact Rows.committed_rollback tx s.targets k⟩

theorem apart_commit (hwhole : s.targets.Whole) (tx : ℕ) : s.Apart tx (s.commit tx) :=
  ⟨.commit tx _, .commit tx _, fun _ hk => hk, fun k _ hk => by
    have hrow : (s.commit tx).targets.row k = (s.targets.row k).commit tx :=
      Rows.row_commit tx s.targets k
    rw [hrow, Row.committed_commit]
    exact hwhole.seen_none hk tx⟩

theorem apart_mint (tx : ℕ) (id : Uuid) :
    s.Apart tx { s with minted := id :: s.minted } :=
  ⟨.refl tx _, .refl tx _, fun _ hk => List.mem_cons_of_mem id hk, fun _ _ hk => hk⟩

theorem apart_create (hwhole : s.targets.Whole) (tx : ℕ) (hvacant : s.rows.row id = .vacant)
    (row : Columns) :
    s.Apart tx (({ s with rows := s.rows.put id row } : Db).commit tx) := by
  have hput : s.Apart tx { s with rows := s.rows.put id row } :=
    ⟨.put hvacant row, .refl tx _, fun _ hk => hk, fun _ _ hk => hk⟩
  exact hput.trans (apart_commit (s := { s with rows := s.rows.put id row }) hwhole tx)

theorem apart_releaseCounter {target : Option Uuid} (h : releaseCounter R tx s target = some s') :
    s.Apart tx s' := by
  unfold releaseCounter at h
  cases target with
  | none =>
      cases h
      exact .refl tx s
  | some =>
      simp only [Option.map_eq_some_iff] at h
      obtain ⟨⟨old, targets⟩, halter, rfl⟩ := h
      exact apart_targets halter

theorem next_apart (h : next R tx s p uuid = some (s', n)) (hinv : Inv R s) : s.Apart tx s' := by
  cases p with
  | create =>
      simp only [next, create] at h
      split at h
      · cases h
      · next minted hmint =>
        obtain ⟨-, rfl, hfresh⟩ := hinv.mint hmint
        have hvacant := (hinv.fresh hfresh).1
        split at h
        · cases h
          exact (apart_mint tx uuid).trans (apart_create (s := { s with
            minted := uuid :: s.minted }) hinv.wholeTargets tx hvacant _)
        · split at h
          · cases h
          · cases h
            exact (apart_mint tx uuid).trans (apart_rollback tx _)
          · next seat targets halter =>
            cases h
            exact (apart_mint tx uuid).trans ((apart_targets halter).trans
              (apart_create (s := { s with
                targets := targets
                minted := uuid :: s.minted }) (hinv.wholeTargets.alter halter) tx hvacant _))
  | read | reread =>
      cases h
      exact .refl tx s
  | run =>
      simp only [next, run] at h
      split at h
      · split at h <;> cases h <;> exact .refl tx s
      · split at h
        · cases h
          exact .refl tx s
        · split at h
          · cases h
          · cases h
            exact apart_rollback tx s
          · next row rows halter =>
            cases h
            exact (apart_rows halter).trans
              (apart_commit (s := { s with rows := rows }) hinv.wholeTargets tx)
  | release | releaseLink =>
      simp only [next, Option.map_eq_some_iff] at h
      obtain ⟨after, hrelease, hrest⟩ := h
      cases hrest
      exact apart_releaseCounter hrelease
  | claim =>
      simp only [next, claim] at h
      split at h
      · cases h
        exact .refl tx s
      · split at h
        · cases h
        · cases h
          exact apart_rollback tx s
        · next row targets halter =>
          cases h
          exact apart_targets halter
  | write =>
      simp only [next, write] at h
      split at h
      · cases h
      · cases h
        exact .refl tx s
      · next row rows halter =>
        cases h
        exact apart_rows halter
  | probe =>
      simp only [next, probe] at h
      split at h <;> cases h <;> exact apart_rollback tx s
  | commitUpdate | commitDelete =>
      cases h
      exact apart_commit hinv.wholeTargets tx
  | delete =>
      simp only [next, delete] at h
      split at h
      · cases h
      · cases h
        exact apart_rollback tx s
      · next row rows hlock =>
        split at h
        · cases h
          exact apart_rows hlock
        · cases h
          exact (apart_rows hlock).trans
            (apart_commit (s := { s with rows := rows }) hinv.wholeTargets tx)
  | deleteRow =>
      simp only [next, deleteRow, Option.map_eq_some_iff] at h
      obtain ⟨⟨old, rows⟩, halter, hrest⟩ := h
      cases hrest
      exact apart_rows halter
  | createTarget =>
      simp only [next, createTarget, Option.map_eq_some_iff] at h
      obtain ⟨minted, hmint, hrest⟩ := h
      obtain ⟨-, rfl, hfresh⟩ := hinv.mint hmint
      cases hrest
      refine ⟨.refl tx _, .put (hinv.fresh hfresh).2 _,
        fun _ hk => List.mem_cons_of_mem uuid hk, fun k hk hgone => ?_⟩
      have hne : k ≠ uuid := fun heq => hfresh (heq ▸ hk)
      dsimp only
      rw [Rows.row_put, if_neg hne]
      exact hgone
  | deleteTarget =>
      simp only [next, deleteTarget] at h
      split at h
      · cases h
      · cases h
        exact .refl tx s
      · next row targets halter =>
        cases h
        exact (apart_targets halter).trans (apart_commit (s := { s with targets := targets })
          (hinv.wholeTargets.alter halter) tx)

theorem Db.Apart.counter (h : s.Apart tx s') (hne : tx' ≠ tx)
    (hheld : (s.targets.row target).Held tx' ∨
      target ∈ s.minted ∧ (s.targets.row target).committed = none) :
    s'.counter R target = s.counter R target := by
  rw [counter_eq, counter_eq]
  rcases hheld with hheld | ⟨hminted, hnone⟩
  · rw [h.targets.held tx' hne target hheld]
  · rw [hnone, h.gone target hminted hnone]

theorem Db.Apart.owed (h : s.Apart tx s') (hne : tx' ≠ tx) (target : Uuid) :
    s'.owed R tx' target = s.owed R tx' target := by
  unfold Db.owed
  rw [h.rows.gain tx' hne, h.targets.gain tx' hne]

theorem Db.Apart.idle (h : s.Apart tx s') (hne : tx' ≠ tx) (hidle : s.Idle tx') : s'.Idle tx' :=
  ⟨h.rows.idle tx' hne hidle.1, h.targets.idle tx' hne hidle.2⟩

theorem Db.Apart.released (h : s.Apart tx s') (hne : tx' ≠ tx) {target : Option Uuid}
    (hreleased : Released tx' s target) : Released tx' s' target := by
  intro k hk
  rcases hreleased k hk with hheld | ⟨hminted, hnone⟩
  · left
    rw [h.targets.held tx' hne k hheld]
    exact hheld
  · exact .inr ⟨h.minted hminted, h.gone k hminted hnone⟩

theorem Db.Apart.fits (h : s.Apart tx s') (hfits : Fits R s job) : Fits R s' job :=
  ⟨hfits.1, fun k hk => h.minted (hfits.2 k hk)⟩

theorem Db.Apart.knows (h : s.Apart tx s') (hne : tx' ≠ tx) (hknows : p.Knows R tx' s) :
    p.Knows R tx' s' := by
  cases p with
  | create | read | delete | createTarget | deleteTarget | reread => exact h.idle hne hknows
  | run =>
      exact ⟨hknows.1, h.idle hne hknows.2.1,
        fun rc hrc k hk => h.minted (hknows.2.2 rc hrc k hk)⟩
  | release => exact ⟨h.fits hknows.1, h.idle hne hknows.2⟩
  | claim =>
      exact ⟨h.fits hknows.1, h.rows.idle tx' hne hknows.2.1, h.released hne hknows.2.2⟩
  | write =>
      exact ⟨h.fits hknows.1, h.rows.idle tx' hne hknows.2.1, h.released hne hknows.2.2.1,
        fun k hk => h.minted (hknows.2.2.2 k hk)⟩
  | probe | commitUpdate | releaseLink | commitDelete => trivial
  | deleteRow id =>
      simp only [Point.Knows]
      rw [h.rows.held tx' hne id hknows.1]
      exact hknows

theorem Db.Apart.due (h : s.Apart tx s') (hne : tx' ≠ tx) (hknows : p.Knows R tx' s)
    (target : Uuid) :
    p.due R s' target = p.due R s target := by
  have hcounter : ∀ {release : Option Uuid}, Released tx' s release →
      (decide (release = some target) && decide (0 < s'.counter R target)) =
        (decide (release = some target) && decide (0 < s.counter R target)) := by
    intro release hreleased
    by_cases htarget : release = some target
    · rw [h.counter hne (hreleased target htarget)]
    · simp [htarget]
  cases p with
  | claim => simp only [Point.due, hcounter hknows.2.2]
  | write => simp only [Point.due, hcounter hknows.2.2.1]
  | _ => rfl

theorem Db.Apart.owes (h : s.Apart tx s') (hne : tx' ≠ tx) (hknows : p.Knows R tx' s)
    (howes : p.Owes R tx' s) :
    p.Owes R tx' s' := by
  have hall : (∀ target, s.owed R tx' target = p.due R s target) →
      ∀ target, s'.owed R tx' target = p.due R s' target := by
    intro hold target
    rw [h.owed hne, h.due hne hknows, hold]
  cases p with
  | probe => trivial
  | _ => exact hall howes

theorem step_lands (hinv : Inv R s) (hknows : p.Knows R tx s) (howes : p.Owes R tx s)
    (h : next R tx s p uuid = some (s', n)) : Lands R tx s' n := by
  cases p with
  | create => exact step_create hinv hknows h
  | read =>
      cases h
      exact step_read hinv hknows
  | run => exact step_run hinv hknows howes h
  | release =>
      simp only [next, Option.map_eq_some_iff] at h
      obtain ⟨after, hrelease, hrest⟩ := h
      cases hrest
      exact step_release hinv hknows howes hrelease
  | claim => exact step_claim hinv hknows howes h
  | write => exact step_write hinv hknows howes h
  | probe =>
      simp only [next, probe] at h
      split at h <;> cases h <;> exact lands_refuse hinv tx _
  | commitUpdate | commitDelete =>
      cases h
      exact lands_autocommit hinv howes _
  | delete => exact step_delete hinv hknows h
  | deleteRow => exact step_deleteRow hinv hknows howes h
  | releaseLink =>
      simp only [next, Option.map_eq_some_iff] at h
      obtain ⟨after, hrelease, hrest⟩ := h
      cases hrest
      exact step_releaseLink hinv howes hrelease
  | createTarget => exact step_createTarget hinv hknows h
  | deleteTarget => exact step_deleteTarget hinv hknows h
  | reread =>
      cases h
      unfold reread
      split <;> exact ⟨hinv, hknows⟩

theorem transactional :
    (machine R).Transactional (fun _ _ => True) (Inv R)
      (fun tx p s => p.Knows R tx s ∧ p.Owes R tx s) Db.Idle
      (fun tx s s' => s.Apart tx s') where
  entry := by
    intro tx s request _ hidle
    have howed : ∀ target, s.owed R tx target = 0 := hidle.owed
    cases request <;> exact ⟨hidle, howed⟩
  own := by
    intro c tx choice p s n _ _ hnext hinv hpoint
    have hlands := step_lands hinv hpoint.1 hpoint.2 hnext
    cases n with
    | goto =>
        refine ⟨hlands.1, fun q' hq => ?_, fun a ha => by cases ha⟩
        cases hq
        exact hlands.2
    | answer => exact ⟨hlands.1, fun q hq => (by cases hq), fun _ _ => hlands.2⟩
  next_apart := fun h hinv _ => next_apart h hinv
  rollback := fun {tx s} hinv =>
    ⟨hinv.rollback tx, ⟨Rows.idle_rollback tx _, Rows.idle_rollback tx _⟩, apart_rollback tx s⟩
  stable := fun hne hapart _ _ hpoint =>
    ⟨hapart.knows hne hpoint.1, hapart.owes hne hpoint.1 hpoint.2⟩
  idle := fun hne hapart hidle => hapart.idle hne hidle

variable (R)

structure Db.Sound (s : Db) : Prop where
  rows : s.rows.Settled
  targets : s.targets.Settled
  counted : s.Counted R
  rowsDrawn : ∀ k row, (s.rows.row k).committed = some row →
    k ∈ s.minted ∧ ∀ target, R.linkOf row = some target → target ∈ s.minted
  targetsDrawn : ∀ k row, (s.targets.row k).committed = some row → k ∈ s.minted

variable {R}

theorem Db.Sound.inv (h : s.Sound R) : Inv R s where
  counted := h.counted
  wholeRows := fun k _ => h.rows k
  wholeTargets := fun k _ => h.targets k
  targetsMinted := h.targets.every h.targetsDrawn
  rowsMinted := h.rows.every h.rowsDrawn

/-- The points of an update. -/
def Point.updates : Point R → Bool
  | .read _ _ | .run _ | .release _ | .claim _ | .write _ | .probe _ | .commitUpdate _ => true
  | _ => false

def Db.SameCommitted (s s' : Db) : Prop :=
  (∀ k, (s'.rows.row k).committed = (s.rows.row k).committed) ∧
    ∀ k, (s'.targets.row k).committed = (s.targets.row k).committed

theorem same_rollback (tx : ℕ) (s : Db) : s.SameCommitted (s.rollback tx) :=
  ⟨Rows.committed_rollback tx s.rows, Rows.committed_rollback tx s.targets⟩

theorem same_releaseCounter {target : Option Uuid} (h : releaseCounter R tx s target = some s') :
    s.SameCommitted s' := by
  unfold releaseCounter at h
  cases target with
  | none =>
      cases h
      exact ⟨fun _ => rfl, fun _ => rfl⟩
  | some =>
      simp only [Option.map_eq_some_iff] at h
      obtain ⟨⟨old, targets⟩, halter, rfl⟩ := h
      exact ⟨fun _ => rfl, Rows.committed_alter halter⟩

/-- Only the step that answers with the row writes. -/
theorem update_same (hp : p.updates = true) (h : next R tx s p uuid = some (s', n)) :
    (∃ row, n = .answer (.ok (.row row))) ∨ s.SameCommitted s' := by
  have hrefl : s.SameCommitted s := ⟨fun _ => rfl, fun _ => rfl⟩
  cases p with
  | read =>
      cases h
      exact .inr hrefl
  | run =>
      simp only [next, run] at h
      split at h
      · split at h
        · cases h
          exact .inr hrefl
        · next row hrow =>
          cases h
          exact .inl ⟨row, rfl⟩
      · split at h
        · cases h
          exact .inr hrefl
        · split at h
          · cases h
          · cases h
            exact .inr (same_rollback tx s)
          · next row rows halter =>
            cases h
            exact .inl ⟨_, rfl⟩
  | release =>
      simp only [next, Option.map_eq_some_iff] at h
      obtain ⟨after, hrelease, hrest⟩ := h
      cases hrest
      exact .inr (same_releaseCounter hrelease)
  | claim =>
      simp only [next, claim] at h
      split at h
      · cases h
        exact .inr hrefl
      · split at h
        · cases h
        · cases h
          exact .inr (same_rollback tx s)
        · next row targets halter =>
          cases h
          exact .inr ⟨fun _ => rfl, Rows.committed_alter halter⟩
  | write =>
      simp only [next, write] at h
      split at h
      · cases h
      · cases h
        exact .inr hrefl
      · next row rows halter =>
        cases h
        exact .inr ⟨Rows.committed_alter halter, fun _ => rfl⟩
  | probe =>
      simp only [next, probe] at h
      split at h <;> cases h <;> exact .inr (same_rollback tx s)
  | commitUpdate row =>
      cases h
      exact .inl ⟨row, rfl⟩
  | _ => cases hp

/-- In every run the counter on each row a reference can name equals the number of rows that
name it.  Every step of an update other than its answer with the row leaves every committed
column and counter as it was, and an update that is refused leaves no version behind. -/
theorem counters_follow_links {start : Db} {c : Config Db (Point R)}
    {moves : List (Move (Request R) Uuid)} (hsound : start.Sound R)
    (hrun : (machine R).run (Config.initial start) moves = some c) :
    (∀ target row, (c.shared.targets.row target).committed = some row →
      row.int R.counterField = c.shared.linkCount R target) ∧
    (∀ target, (c.shared.targets.row target).committed = none →
      c.shared.linkCount R target = 0) ∧
    ∀ tx p uuid s n, c.calls.lookup tx = some p → p.updates = true →
      next R tx c.shared p uuid = some (s, n) →
        (∃ row, n = .answer (.ok (.row row))) ∨
          c.shared.SameCommitted s ∧ ∀ e, n = .answer (.error e) → s.Idle tx := by
  have hruns := transactional.runs_run (Config.initial_runs hsound.inv
    fun tx => ⟨hsound.rows.idle tx, hsound.targets.idle tx⟩) (Machine.guarded_true _ moves) hrun
  refine ⟨fun target row hrow => ?_, fun target hnone => ?_, ?_⟩
  · rw [← hruns.shared.counted target, counter_eq, hrow]
    rfl
  · have hcounted := hruns.shared.counted target
    rw [counter_eq, hnone] at hcounted
    have hzero : (0 : ℤ) = c.shared.linkCount R target := hcounted
    exact_mod_cast hzero.symm
  intro tx p uuid s n hp hupdates hnext
  have hpoint := hruns.calls tx p hp
  have hlands := step_lands hruns.shared hpoint.1 hpoint.2 hnext
  rcases update_same hupdates hnext with hdone | hsame
  · exact .inl hdone
  · refine .inr ⟨hsame, fun e he => ?_⟩
    subst he
    exact hlands.2

def Db.empty : Db := ⟨∅, ∅, []⟩

theorem empty_sound : Db.empty.Sound classYear where
  rows _ := rfl
  targets _ := rfl
  counted _ := rfl
  rowsDrawn _ _ hrow := by cases hrow
  targetsDrawn _ _ hrow := by cases hrow

def year1 : Uuid := .ending "0001"

def year2 : Uuid := .ending "0002"

def section9A : Uuid := .ending "0003"

def blank : Columns := fun _ => .null

def moveTo (year : Uuid) : Move (Request classYear) Uuid :=
  .start (.update section9A (classPatch none none (some (some year)) none))

def staleMover : List (Move (Request classYear) Uuid) :=
  [.start (.createTarget blank), .advance 0 year1, .start (.createTarget blank),
    .advance 1 year2, .start (.create blank (some year1)), .advance 2 section9A,
    moveTo year2, .advance 3 year1, moveTo year2, .advance 4 year1] ++
    List.replicate 5 (.advance 3 year1) ++ List.replicate 5 (.advance 4 year1)

theorem counters_follow_links_staleMover :
    ∃ c row1 row2, (machine classYear).run (Config.initial Db.empty) staleMover = some c ∧
      (c.shared.targets.row year1).committed = some row1 ∧
      (c.shared.targets.row year2).committed = some row2 ∧
      row1.int "class_count" = c.shared.linkCount classYear year1 ∧
      row2.int "class_count" = c.shared.linkCount classYear year2 ∧
      c.shared.linkCount classYear year2 = 1 := by
  have hend : ((machine classYear).run (Config.initial Db.empty) staleMover).any (fun c =>
      (c.shared.targets.row year1).committed.isSome &&
        (c.shared.targets.row year2).committed.isSome &&
          decide (c.shared.linkCount classYear year2 = 1)) = true := by
    decide
  obtain ⟨c, hrun, hc⟩ := (Option.any_eq_true _ _).mp hend
  rw [Bool.and_eq_true, Bool.and_eq_true, decide_eq_true_eq] at hc
  obtain ⟨row1, hrow1⟩ := Option.isSome_iff_exists.mp hc.1.1
  obtain ⟨row2, hrow2⟩ := Option.isSome_iff_exists.mp hc.1.2
  have hfollow := (counters_follow_links empty_sound hrun).1
  exact ⟨c, row1, row2, hrun, hrow1, hrow2, hfollow year1 row1 hrow1, hfollow year2 row2 hrow2,
    hc.2⟩

end Hezarfen.FieldUpdates
