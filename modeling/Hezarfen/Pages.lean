import Hezarfen.Domain
import Hezarfen.KeyedRows
import Mathlib.Data.Int.ConditionallyCompleteOrder
import Mathlib.Data.Prod.Lex
import Mathlib.Data.String.Basic
import Mathlib.Order.ConditionallyCompleteLattice.Basic
import Mathlib.Order.OrderDual
import Mathlib.Order.WithBot

/-!
# Pages and schedule windows

A list is asked for by the page, and a list of scheduled rows by a window of the schedule.  The
window stands twice: as comparisons over the rows in hand, and as numbered conditions of a
statement with the values bound to their numbers.  Both keep the same rows and put them in the
same order, so the statement lists the page of the window.
-/

namespace Hezarfen.Pages

/-- What `PageParams` hands down. -/
structure Page where
  limit : Option ℕ
  offset : ℕ

def maxPageLimit : ℤ := 500

def PageParams.resolve (limit offset : Option ℤ) : Except ValidationError Page :=
  if limit.any fun limit => !(1 ≤ limit && limit ≤ maxPageLimit) then
    .error (.invalid "limit" "must be between 1 and 500")
  else if offset.getD 0 < 0 then .error (.invalid "offset" "must not be negative")
  else .ok ⟨limit.map Int.toNat, (offset.getD 0).toNat⟩

variable {α : Type}

section Page

variable (page : Page) (rows : List α)

/-- `LIMIT … OFFSET …` -/
def Page.window : List α :=
  page.limit.elim (rows.drop page.offset) (rows.drop page.offset).take

/-- The page and the full count, which is a statement of its own once the window can hide
rows. -/
def PagedList.run : List α × ℕ :=
  if page.limit.isSome || decide (0 < page.offset) then (page.window rows, rows.length)
  else (page.window rows, (page.window rows).length)

theorem PagedList.run_eq : PagedList.run page rows = (page.window rows, rows.length) := by
  unfold PagedList.run
  split
  · rfl
  · next hwhole =>
    obtain ⟨hlimit, hoffset⟩ : page.limit = none ∧ page.offset = 0 := by simpa using hwhole
    simp [Page.window, hlimit, hoffset]

/-- The slice `items[start..end]`. -/
def paginate (items : List α) (limit : Option ℤ) (offset : ℤ) : List α :=
  let start := min (max offset 0).toNat items.length
  let stop := limit.elim items.length fun limit =>
    min (start + (max limit 0).toNat) items.length
  (items.take stop).drop start

theorem Page.window_eq_paginate :
    page.window rows = paginate rows (page.limit.map (↑)) page.offset := by
  obtain ⟨limit, offset⟩ := page
  have hstart : (max (offset : ℤ) 0).toNat = offset := by omega
  have hdrop : rows.drop (min offset rows.length) = rows.drop offset := by
    rcases Nat.le_total offset rows.length with h | h
    · rw [Nat.min_eq_left h]
    · rw [Nat.min_eq_right h, List.drop_length, List.drop_eq_nil_of_le h]
  cases limit with
  | none => simp [paginate, window, hdrop]
  | some limit =>
      have hlimit : (max (limit : ℤ) 0).toNat = limit := by omega
      simp only [paginate, window, Option.map_some, Option.elim_some, hstart, hlimit]
      rw [← List.take_eq_take_min, List.drop_take, hdrop, Nat.add_sub_cancel_left]

end Page

/-- The key of the id breaks the ties. -/
class Scheduled (α : Type) where
  startsAtMs : α → Option ℤ
  endsAtMs : α → Option ℤ
  orderKey : α → String

export Scheduled (startsAtMs endsAtMs orderKey)

structure WindowParams where
  startsAfter : Option ℤ
  endsAfter : Option ℤ
  startsBefore : Option ℤ
  endsBefore : Option ℤ

/-- `Option` orders `None` first. -/
def noneFirst (value : Option ℤ) : WithBot ℤ := value

/-- `left > right` in that order. -/
def optionGt : Option ℤ → Option ℤ → Bool
  | none, _ => false
  | some _, none => true
  | some left, some right => decide (left > right)

namespace WindowParams

variable [Scheduled α] (window : WindowParams)

def validate : Except ValidationError Unit :=
  [("starts_after", window.startsAfter), ("ends_after", window.endsAfter),
    ("starts_before", window.startsBefore), ("ends_before", window.endsBefore)].forM
      fun (field, value) =>
        if value.any (· < 0) then .error (.invalid field "must not be negative") else .ok ()

def isOpen : Bool :=
  window.startsAfter.isNone && window.endsAfter.isNone && window.startsBefore.isNone &&
    window.endsBefore.isNone

/-- What `retain` keeps. -/
def retains (item : α) : Bool :=
  let starts := startsAtMs item
  let ends := endsAtMs item
  window.startsAfter.all (fun after => optionGt starts (some after)) &&
    window.startsBefore.all (fun before => starts.any fun start => decide (start < before)) &&
    window.endsAfter.all (fun after => optionGt (ends.or starts) (some after)) &&
    window.endsBefore.all fun before => (ends.or starts).any fun end_ => decide (end_ < before)

def apply (items : List α) : Except ValidationError (List α) := do
  window.validate
  if window.isOpen then return items
  return Keyed.sortBy
    (fun item => toLex (noneFirst ((startsAtMs item).or (endsAtMs item)), orderKey item))
    (items.filter window.retains)

end WindowParams

inductive Param where
  | texts (keys : List String)
  | int (value : ℤ)

/-- `column = ANY($n)` against an array. -/
def Param.has (key : String) : Param → Bool
  | .texts keys => keys.contains key
  | .int _ => false

def Param.value : Param → Option ℤ
  | .texts _ => none
  | .int value => some value

inductive Column where
  | startsAt
  /-- `COALESCE(ends_at, starts_at)` -/
  | endsOrStarts

inductive Comparison where
  | above
  | below

def Comparison.holds (value column : ℤ) : Comparison → Bool
  | .above => decide (column > value)
  | .below => decide (column < value)

/-- `{column} {op} ${placeholder}` -/
structure Cond where
  column : Column
  op : Comparison
  placeholder : ℕ

/-- The conditions and the binds move together. -/
structure Bounds where
  conds : List Cond
  bounds : List ℤ

section Statement

variable [Scheduled α] (window : WindowParams)

def Column.read (item : α) : Column → Option ℤ
  | .startsAt => startsAtMs item
  | .endsOrStarts => (endsAtMs item).or (startsAtMs item)

/-- `NULL` compares as `NULL`. -/
def Cond.eval (binds : List Param) (item : α) (cond : Cond) : Option Bool := do
  let column ← cond.column.read item
  let value ← (binds[cond.placeholder - 1]?).bind Param.value
  return cond.op.holds value column

/-- `WHERE` keeps the rows for which every condition is true. -/
def Bounds.keeps (binds : List Param) (b : Bounds) (item : α) : Bool :=
  b.conds.all fun cond => cond.eval binds item == some true

/-- `base` binds come first. -/
def Bounds.bound (base : ℕ) (b : Bounds) (column : Column) (op : Comparison) :
    Option ℤ → Bounds
  | none => b
  | some value => ⟨b.conds ++ [⟨column, op, base + b.bounds.length + 1⟩], b.bounds ++ [value]⟩

def WindowParams.bounds (base : ℕ) : Bounds :=
  ((((⟨[], []⟩ : Bounds).bound base .startsAt .above window.startsAfter).bound
    base .startsAt .below window.startsBefore).bound
    base .endsOrStarts .above window.endsAfter).bound
    base .endsOrStarts .below window.endsBefore

/-- `ORDER BY id DESC` -/
def newestFirst (rows : List α) : List α :=
  Keyed.sortBy (fun item => OrderDual.toDual (orderKey item)) rows

/-- `ASC` puts `NULL` last. -/
def nullsLast (value : Option ℤ) : WithTop ℤ := value

/-- `ORDER BY COALESCE(starts_at, ends_at) ASC, id ASC` -/
def bySchedule (rows : List α) : List α :=
  Keyed.sortBy
    (fun item => toLex (nullsLast ((startsAtMs item).or (endsAtMs item)), orderKey item)) rows

def Bounds.order (b : Bounds) (rows : List α) : List α :=
  if b.conds.isEmpty then newestFirst rows else bySchedule rows

/-- The list over a whole table. -/
def WindowParams.listTable (page : Page) (table : List α) : List α × ℕ :=
  let conds := window.bounds 0
  PagedList.run page (conds.order (table.filter (conds.keeps (conds.bounds.map .int))))

end Statement

/-! ## One window -/

section Window

variable [Scheduled α] {first : List Param} {b : Bounds} {item : α} {kept : Bool}
  (window : WindowParams)

/-- Whatever is bound behind its own values, the conditions keep the row exactly if `kept`. -/
def Bounds.Means (first : List Param) (b : Bounds) (item : α) (kept : Bool) : Prop :=
  ∀ more, b.keeps (first ++ b.bounds.map .int ++ more) item = kept

theorem Bounds.Means.bound (h : b.Means first item kept) (column : Column) (op : Comparison)
    (value : Option ℤ) :
    (b.bound first.length column op value).Means first item
      (kept && value.all fun value => (column.read item).any (op.holds value)) := by
  intro more
  cases value with
  | none => simpa [Bounds.bound] using h more
  | some value =>
      have hbefore := h (.int value :: more)
      have hbound : (first ++ (b.bounds.map Param.int ++ Param.int value :: more))[
          first.length + b.bounds.length]? = some (.int value) := by
        rw [List.getElem?_append_right (by omega), List.getElem?_append_right (by simp)]
        simp
      have hnew : Cond.eval (first ++ (b.bounds.map Param.int ++ Param.int value :: more)) item
          ⟨column, op, first.length + b.bounds.length + 1⟩ =
            (column.read item).map (op.holds value) := by
        rw [Cond.eval, Nat.add_sub_cancel, hbound]
        cases column.read item <;> rfl
      simp only [Bounds.keeps, List.append_assoc] at hbefore
      simp only [Bounds.bound, Bounds.keeps, List.map_append, List.map_cons, List.map_nil,
        List.append_assoc, List.cons_append, List.nil_append, List.all_append, hbefore,
        List.all_cons, List.all_nil, Bool.and_true, hnew]
      cases column.read item <;> simp

theorem optionGt_some (value : Option ℤ) (after : ℤ) :
    optionGt value (some after) = value.any (Comparison.above.holds after) := by
  cases value <;> rfl

theorem WindowParams.keeps_bounds (first : List Param) (item : α) :
    (window.bounds first.length).keeps
      (first ++ (window.bounds first.length).bounds.map .int) item = window.retains item := by
  have hnone : (⟨[], []⟩ : Bounds).Means first item true := fun _ => rfl
  have hmeans := (((hnone.bound .startsAt .above window.startsAfter).bound
    .startsAt .below window.startsBefore).bound .endsOrStarts .above window.endsAfter).bound
    .endsOrStarts .below window.endsBefore
  rw [← List.append_nil (first ++ _)]
  refine (hmeans []).trans ?_
  simp only [retains, optionGt_some, Bool.true_and]
  rfl

theorem Bounds.isEmpty_bound (base : ℕ) (column : Column) (op : Comparison)
    (value : Option ℤ) :
    (b.bound base column op value).conds.isEmpty = (b.conds.isEmpty && value.isNone) := by
  cases value <;> simp [Bounds.bound]

theorem WindowParams.isEmpty_bounds (base : ℕ) :
    (window.bounds base).conds.isEmpty = window.isOpen := by
  simp only [bounds, Bounds.isEmpty_bound, isOpen, List.isEmpty_nil, Bool.true_and]
  ac_rfl

theorem WindowParams.retains_of_isOpen (h : window.isOpen = true) (item : α) :
    window.retains item = true := by
  simp only [isOpen, Bool.and_eq_true, Option.isNone_iff_eq_none] at h
  simp [retains, h]

/-- A row without a schedule is dropped by every bound. -/
theorem WindowParams.isSome_of_retains (h : window.isOpen = false)
    (hretains : window.retains item = true) :
    ((startsAtMs item).or (endsAtMs item)).isSome = true := by
  by_contra hnone
  obtain ⟨hstarts, hends⟩ : startsAtMs item = none ∧ endsAtMs item = none := by
    simpa using hnone
  obtain ⟨startsAfter, endsAfter, startsBefore, endsBefore⟩ := window
  simp [retains, hstarts, hends, optionGt_some] at hretains
  simp [isOpen, hretains] at h

/-- Where there is a schedule, the two orders are one. -/
theorem lex_le_iff {a b : Option ℤ} {i j : String} (ha : a.isSome = true)
    (hb : b.isSome = true) :
    toLex (nullsLast a, i) ≤ toLex (nullsLast b, j) ↔
      toLex (noneFirst a, i) ≤ toLex (noneFirst b, j) := by
  obtain ⟨a, rfl⟩ := Option.isSome_iff_exists.mp ha
  obtain ⟨b, rfl⟩ := Option.isSome_iff_exists.mp hb
  have hlt : nullsLast (some a) < nullsLast (some b) ↔ noneFirst (some a) < noneFirst (some b) :=
    WithTop.coe_lt_coe.trans WithBot.coe_lt_coe.symm
  have heq : nullsLast (some a) = nullsLast (some b) ↔ noneFirst (some a) = noneFirst (some b) :=
    Iff.rfl
  rw [Prod.Lex.toLex_le_toLex, Prod.Lex.toLex_le_toLex, hlt, heq]

/-- A statement whose rows are those of the list that the window retains gives the page and the
count of the window over the newest first. -/
theorem WindowParams.run_eq_apply (base : ℕ) (page : Page) {rows list : List α}
    (hperm : rows.Perm (list.filter window.retains)) (hkeys : (list.map orderKey).Nodup) :
    (window.validate.map fun _ => PagedList.run page ((window.bounds base).order rows)) =
      (window.apply (newestFirst list)).map fun items =>
        (paginate items (page.limit.map (↑)) page.offset, items.length) := by
  have hinj : ∀ a ∈ rows, ∀ b ∈ rows, orderKey a = orderKey b → a = b := fun a ha b hb =>
    List.inj_on_of_nodup_map hkeys (List.mem_of_mem_filter (hperm.mem_iff.mp ha))
      (List.mem_of_mem_filter (hperm.mem_iff.mp hb))
  unfold apply
  cases window.validate with
  | error => rfl
  | ok _ =>
      cases hopen : window.isOpen with
      | true =>
          have hall : list.filter window.retains = list :=
            List.filter_eq_self.mpr fun item _ => window.retains_of_isOpen hopen item
          have horder : (window.bounds base).order rows = newestFirst list := by
            rw [Bounds.order, isEmpty_bounds, hopen]
            exact Keyed.sortBy_eq_sortBy (hall ▸ hperm)
              (fun a ha b hb h => hinj a ha b hb (OrderDual.toDual_inj.mp h))
              fun _ _ _ _ => Iff.rfl
          simp [horder, PagedList.run_eq, Page.window_eq_paginate, Except.map, pure,
            Except.pure, bind, Except.bind]
      | false =>
          have hsome : ∀ a ∈ rows, ((startsAtMs a).or (endsAtMs a)).isSome = true := fun a ha =>
            window.isSome_of_retains hopen (List.mem_filter.mp (hperm.mem_iff.mp ha)).2
          have hfiltered : rows.Perm ((newestFirst list).filter window.retains) :=
            hperm.trans ((Keyed.sortBy_perm _ list).symm.filter _)
          have horder : (window.bounds base).order rows =
              Keyed.sortBy (fun item => toLex (noneFirst ((startsAtMs item).or (endsAtMs item)),
                orderKey item)) ((newestFirst list).filter window.retains) := by
            rw [Bounds.order, isEmpty_bounds, hopen]
            exact Keyed.sortBy_eq_sortBy hfiltered
              (fun a ha b hb h => hinj a ha b hb (Prod.mk.inj (toLex_inj.mp h)).2)
              fun a ha b hb => lex_le_iff (hsome a ha) (hsome b hb)
          simp [horder, PagedList.run_eq, Page.window_eq_paginate, Except.map, pure,
            Except.pure, bind, Except.bind]

theorem WindowParams.listTable_eq_apply (page : Page) {table : List α}
    (hkeys : (table.map orderKey).Nodup) :
    (window.validate.map fun _ => window.listTable page table) =
      (window.apply (newestFirst table)).map fun items =>
        (paginate items (page.limit.map (↑)) page.offset, items.length) := by
  have hkept : table.filter ((window.bounds 0).keeps ((window.bounds 0).bounds.map .int)) =
      table.filter window.retains :=
    List.filter_congr fun item _ => window.keeps_bounds [] item
  have hlist : window.listTable page table =
      PagedList.run page ((window.bounds 0).order (table.filter window.retains)) := by
    rw [← hkept]
    rfl
  rw [hlist]
  exact window.run_eq_apply 0 page (.refl _) hkeys

end Window

end Hezarfen.Pages
