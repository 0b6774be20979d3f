import Hezarfen.OverrideStore

/-!
# What the doors add up to

Each door that answers is one operation on one axis of one instance, and leaves the other
axes and the other instances alone.  The doors of an axis keep its flag and its rows
together.  The reset of overrides takes the rows for gone: a run keeps the set in force
the replay of its operations exactly when no such reset meets an axis with rows.
-/

namespace Hezarfen.Overrides

open School (ClassCourseId Refusal)
open Exams (SubjectId)
open Years (WeeklySlotId)
open Overlay (RowSet Op decided sinceReset base replay getD_decided)

variable {s s' : Db} {id : WeeklySlotId} {request : Request}

def Request.op (instance_ : ClassCourseId) : Request → (axis : Axis) →
    Option (Op axis.Key axis.Row)
  | .addForClass i id weekday startsAt endsAt topic, .weeklyPlan =>
      if i = instance_ then
        (WeeklySlot.new weekday startsAt endsAt topic).toOption.map fun slot => .put id slot
      else none
  | .removeForClass i id, .weeklyPlan => if i = instance_ then some (.drop id) else none
  | .resetForClass i, .weeklyPlan => if i = instance_ then some .reset else none
  | .setForClass i kind weight, .examWeights =>
      if i = instance_ then some (.put kind weight) else none
  | .removeFromClass i kind, .examWeights => if i = instance_ then some (.drop kind) else none
  | .resetClass i, .examWeights => if i = instance_ then some .reset else none
  | .addToInstance i key, .subjects => if i = instance_ then some (.put key ()) else none
  | .removeFromInstance i key, .subjects => if i = instance_ then some (.drop key) else none
  | .resetInstance i, .subjects => if i = instance_ then some .reset else none
  | .resetOverrides i fields, axis =>
      if i = instance_ ∧ fields.contains axis.field then some .reset else none
  | _, _ => none

/-- The operations that were answered. -/
def performed (instance_ : ClassCourseId) (axis : Axis) (s : Db) (request : Request) :
    List (Op axis.Key axis.Row) :=
  match serve request s with
  | .ok _ => (request.op instance_ axis).toList
  | .error _ => []

inductive Moved (instance_ : ClassCourseId) (axis : Axis) (request : Request) (s s' : Db) :
    Option (Op axis.Key axis.Row) → Prop where
  | kept (flag : s'.flag instance_ axis = s.flag instance_ axis)
      (own : s'.own instance_ axis = s.own instance_ axis) : Moved instance_ axis request s s' none
  | edited (op : Op axis.Key axis.Row) (edits : op.isReset = false)
      (flag : s'.flag instance_ axis = some false)
      (own : s'.own instance_ axis = op.edit (s.own instance_ axis)) :
      Moved instance_ axis request s s' (some op)
  | swept (flag : s'.flag instance_ axis = some true)
      (own : s'.own instance_ axis = .empty) : Moved instance_ axis request s s' (some .reset)
  | cleared (fields : List OverrideField) (asked : request = .resetOverrides instance_ fields)
      (named : fields.contains axis.field = true) (flag : s'.flag instance_ axis = some true)
      (own : s'.own instance_ axis = s.own instance_ axis) :
      Moved instance_ axis request s s' (some .reset)

def Request.Moves (request : Request) (s s' : Db) : Prop :=
  ∀ instance_ axis, Moved instance_ axis request s s' (request.op instance_ axis)

/-! ## Flags and rows -/

@[simp]
theorem setInherited_inherited (row : ClassCourse) (b : Bool) (axis axis' : Axis) :
    (row.setInherited b axis).inherited axis' = if axis' = axis then b
      else row.inherited axis' := by
  cases axis <;> cases axis' <;> rfl

theorem flag_flip {i : ClassCourseId} {row : ClassCourse} (hrow : s.classCourse.lookup i = some row)
    (axis : Axis) (b : Bool) (i' : ClassCourseId) (axis' : Axis) :
    (s.flip i row axis b).flag i' axis' =
      if i' = i ∧ axis' = axis then some b else s.flag i' axis' := by
  unfold Db.flag Db.flip
  dsimp only
  rw [lookup_insert_eq]
  by_cases hi : i' = i
  · subst hi
    rw [if_pos rfl, Option.map_some, setInherited_inherited, hrow, Option.map_some]
    by_cases haxis : axis' = axis
    · simp [haxis]
    · simp [haxis]
  · simp [hi]

theorem clearOverrides_inherited (fields : List OverrideField) (row : ClassCourse)
    (axis : Axis) :
    (clearOverrides fields row).inherited axis =
      if fields.contains axis.field then true else row.inherited axis := by
  cases axis <;> rfl

def ownedRows {K V : Type} [DecidableEq K] (t : Table (ClassCourseId × K) V)
    (instance_ : ClassCourseId) : RowSet K V :=
  fun key => t.lookup (instance_, key)

def ownedSlots (t : Table WeeklySlotId (ClassCourseId × WeeklySlot))
    (instance_ : ClassCourseId) : RowSet WeeklySlotId WeeklySlot :=
  fun slot => ((t.lookup slot).filter fun row => decide (row.1 = instance_)).map Prod.snd

variable {K V : Type} [DecidableEq K] {t : Table (ClassCourseId × K) V}
  {slots : Table WeeklySlotId (ClassCourseId × WeeklySlot)} {i i' : ClassCourseId}

theorem ownedRows_insert (t : Table (ClassCourseId × K) V) (i : ClassCourseId) (key : K) (row : V) :
    ownedRows (t.insert (i, key) row) i = Function.update (ownedRows t i) key (some row) := by
  funext key'
  unfold ownedRows Function.update
  rw [lookup_insert_eq]
  by_cases hkey : key' = key
  · subst hkey
    simp
  · simp [hkey]

theorem ownedRows_insert_of_ne (hi : i' ≠ i) (key : K) (row : V) :
    ownedRows (t.insert (i, key) row) i' = ownedRows t i' := by
  funext key'
  unfold ownedRows
  rw [lookup_insert_eq, if_neg (by simp [hi])]

theorem ownedRows_erase (t : Table (ClassCourseId × K) V) (i : ClassCourseId) (key : K) :
    ownedRows (t.erase (i, key)) i = Function.update (ownedRows t i) key none := by
  funext key'
  unfold ownedRows Function.update
  rw [lookup_erase_eq]
  by_cases hkey : key' = key
  · subst hkey
    simp
  · simp [hkey]

theorem ownedRows_erase_of_ne (hi : i' ≠ i) (key : K) :
    ownedRows (t.erase (i, key)) i' = ownedRows t i' := by
  funext key'
  unfold ownedRows
  rw [lookup_erase_eq, if_neg (by simp [hi])]

theorem ownedRows_deleteWhere (t : Table (ClassCourseId × K) V) (i i' : ClassCourseId) :
    ownedRows (Table.deleteWhere t fun key _ => key.1 = i) i' =
      if i' = i then .empty else ownedRows t i' := by
  funext key'
  unfold ownedRows
  rw [lookup_deleteWhere]
  by_cases hi : i' = i
  · subst hi
    cases t.lookup (i', key') <;> simp [RowSet.empty]
  · cases hrow : t.lookup (i', key') <;> simp [hi, hrow]

theorem ownedSlots_insert (slot : WeeklySlot) :
    ownedSlots (slots.insert id (i, slot)) i =
      Function.update (ownedSlots slots i) id (some slot) := by
  funext id'
  unfold ownedSlots Function.update
  rw [lookup_insert_eq]
  by_cases hid : id' = id
  · simp [hid]
  · simp [hid]

theorem ownedSlots_insert_of_ne (hi : i' ≠ i) (slot : WeeklySlot)
    (hfresh : slots.lookup id = none) :
    ownedSlots (slots.insert id (i, slot)) i' = ownedSlots slots i' := by
  funext id'
  unfold ownedSlots
  rw [lookup_insert_eq]
  by_cases hid : id' = id
  · subst hid
    simp [hfresh, Ne.symm hi]
  · simp [hid]

theorem ownedSlots_erase (slots : Table WeeklySlotId (ClassCourseId × WeeklySlot))
    (i : ClassCourseId) (id : WeeklySlotId) :
    ownedSlots (slots.erase id) i = Function.update (ownedSlots slots i) id none := by
  funext id'
  unfold ownedSlots Function.update
  rw [lookup_erase_eq]
  by_cases hid : id' = id
  · simp [hid]
  · simp [hid]

theorem ownedSlots_erase_of_ne (hi : i' ≠ i) {row : ClassCourseId × WeeklySlot}
    (hrow : slots.lookup id = some row) (howner : row.1 = i) :
    ownedSlots (slots.erase id) i' = ownedSlots slots i' := by
  funext id'
  unfold ownedSlots
  rw [lookup_erase_eq]
  by_cases hid : id' = id
  · subst hid
    simp [hrow, howner, Ne.symm hi]
  · simp [hid]

theorem ownedSlots_deleteWhere (slots : Table WeeklySlotId (ClassCourseId × WeeklySlot))
    (i i' : ClassCourseId) :
    ownedSlots (Table.deleteWhere slots fun _ row => row.1 = i) i' =
      if i' = i then .empty else ownedSlots slots i' := by
  funext id
  unfold ownedSlots
  rw [lookup_deleteWhere]
  by_cases hi : i' = i
  · subst hi
    cases slots.lookup id <;> simp [RowSet.empty]
  · rw [if_neg hi]
    cases slots.lookup id with
    | none => simp
    | some row =>
        by_cases howner : row.1 = i
        · simp [Option.filter_some, howner, Ne.symm hi]
        · simp [Option.filter_some, howner]

theorem any_owned_iff (t : Table (ClassCourseId × K) V) :
    (Table.any t fun key _ => key.1 = i) = false ↔ ownedRows t i = .empty := by
  rw [Table.any_eq_false_iff]
  constructor
  · intro hnone
    funext key
    apply Option.eq_none_iff_forall_ne_some.mpr
    intro row hrow
    simpa using hnone (i, key) row hrow
  · intro hempty key row hrow
    apply decide_eq_false
    intro howner
    have hnone : t.lookup (i, key.2) = none := congrFun hempty key.2
    rw [← howner, hrow] at hnone
    cases hnone

theorem any_slots_iff (slots : Table WeeklySlotId (ClassCourseId × WeeklySlot)) :
    (Table.any slots fun _ row => row.1 = i) = false ↔ ownedSlots slots i = .empty := by
  rw [Table.any_eq_false_iff]
  constructor
  · intro hnone
    funext id
    apply Option.map_eq_none_iff.mpr
    apply Option.filter_eq_none_iff.mpr
    intro row hrow
    have hother := hnone id row hrow
    simpa using hother
  · intro hempty id row hrow
    have hnone : ((slots.lookup id).filter fun row => decide (row.1 = i)).map Prod.snd = none :=
      congrFun hempty id
    rw [hrow, Option.map_eq_none_iff, Option.filter_eq_none_iff] at hnone
    simpa using hnone row rfl

/-! ## What a request did -/

/-- The axis a door belongs to. -/
def Request.door : Request → Option (ClassCourseId × Axis)
  | .addForClass i _ _ _ _ _ | .removeForClass i _ | .resetForClass i => some (i, .weeklyPlan)
  | .setForClass i _ _ | .removeFromClass i _ | .resetClass i => some (i, .examWeights)
  | .addToInstance i _ | .removeFromInstance i _ | .resetInstance i => some (i, .subjects)
  | .resetOverrides _ _ => none

theorem op_elsewhere {axis axis' : Axis} (hdoor : request.door = some (i, axis))
    (hne : ¬ (i' = i ∧ axis' = axis)) :
    request.op i' axis' = none := by
  cases request <;> cases axis' <;> cases hdoor <;>
    first
    | rfl
    | exact if_neg fun hi => hne ⟨hi.symm, rfl⟩

theorem map_eq_ok {α β : Type} {f : α → β} {r : Except Refusal α} {b : β} :
    r.map f = .ok b ↔ ∃ a, r = .ok a ∧ f a = b := by
  cases r <;> simp [Except.map]

/-- A door works on one axis of one instance. -/
theorem moved_of_door (request : Request) (axis : Axis) (op : Op axis.Key axis.Row)
    {row : ClassCourse} (hrow : s.classCourse.lookup i = some row)
    (hdoor : request.door = some (i, axis)) (hop : request.op i axis = some op)
    (hcourses : s'.classCourse = (s.flip i row axis op.isReset).classCourse)
    (hown : s'.own i axis = op.edit (s.own i axis))
    (hother : ∀ i' axis', ¬ (i' = i ∧ axis' = axis) → s'.own i' axis' = s.own i' axis') :
    request.Moves s s' := by
  intro i' axis'
  have hflag : s'.flag i' axis' =
      if i' = i ∧ axis' = axis then some op.isReset else s.flag i' axis' := by
    rw [← flag_flip hrow]
    unfold Db.flag
    rw [hcourses]
  by_cases hhere : i' = i ∧ axis' = axis
  · rw [if_pos hhere] at hflag
    obtain ⟨rfl, rfl⟩ := hhere
    rw [hop]
    cases op with
    | put | drop => exact .edited _ rfl hflag hown
    | reset => exact .swept hflag hown
  · rw [op_elsewhere hdoor hhere]
    exact .kept (hflag.trans (if_neg hhere)) (hother i' axis' hhere)

theorem moved_addForClass {weekday : Weekday} {startsAt endsAt : SlotMinute} {topic : Option String}
    {slot : WeeklySlot} (h : addForClass i id weekday startsAt endsAt topic s = .ok (slot, s')) :
    (Request.addForClass i id weekday startsAt endsAt topic).Moves s s' := by
  simp only [addForClass, Gate.bind_eq_ok, Gate.mapError_eq_ok, Gate.ensure_eq_ok,
    Gate.pure_eq_ok, Db.instanceOr404, Gate.found_eq_ok, Option.isNone_iff_eq_none,
    Prod.mk.injEq] at h
  obtain ⟨checked, hslot, row, hrow, _, -, _, hfresh, rfl, rfl⟩ := h
  have hop : (Request.addForClass i id weekday startsAt endsAt topic).op i .weeklyPlan =
      some (.put id checked) := by
    refine (if_pos rfl).trans ?_
    rw [hslot]
    rfl
  refine moved_of_door _ .weeklyPlan (.put id checked) hrow rfl hop rfl
    (ownedSlots_insert checked) ?_
  intro i' axis hne
  cases axis with
  | subjects | examWeights => rfl
  | weeklyPlan => exact ownedSlots_insert_of_ne (fun hi => hne ⟨hi, rfl⟩) checked hfresh

theorem moved_removeForClass (h : removeForClass i id s = .ok s') :
    (Request.removeForClass i id).Moves s s' := by
  simp only [removeForClass, Gate.bind_eq_ok, Gate.pure_eq_ok, Db.instanceOr404,
    Gate.found_eq_ok, Option.filter_eq_some_iff, decide_eq_true_eq] at h
  obtain ⟨slot, ⟨hslot, howner⟩, row, hrow, rfl⟩ := h
  refine moved_of_door _ .weeklyPlan (.drop id) hrow rfl (if_pos rfl) rfl
    (ownedSlots_erase s.classCourseSlot i id) ?_
  intro i' axis hne
  cases axis with
  | subjects | examWeights => rfl
  | weeklyPlan => exact ownedSlots_erase_of_ne (fun hi => hne ⟨hi, rfl⟩) hslot howner

theorem moved_resetForClass (h : resetForClass i s = .ok s') :
    (Request.resetForClass i).Moves s s' := by
  simp only [resetForClass, Gate.bind_eq_ok, Gate.pure_eq_ok, Db.instanceOr404,
    Gate.found_eq_ok] at h
  obtain ⟨row, hrow, rfl⟩ := h
  have hrows := ownedSlots_deleteWhere s.classCourseSlot i
  refine moved_of_door _ .weeklyPlan .reset hrow rfl (if_pos rfl) rfl
    ((hrows i).trans (if_pos rfl)) ?_
  intro i' axis hne
  cases axis with
  | subjects | examWeights => rfl
  | weeklyPlan => exact (hrows i').trans (if_neg fun hi => hne ⟨hi, rfl⟩)

theorem moved_setForClass {kind : String} {weight : ℤ} (h : setForClass i kind weight s = .ok s') :
    (Request.setForClass i kind weight).Moves s s' := by
  simp only [setForClass, checkedWeight, ExamWeight.tryNew, Gate.bind_eq_ok, Gate.pure_eq_ok,
    Gate.mapError_eq_ok, Db.instanceOr404, Gate.found_eq_ok] at h
  obtain ⟨checked, ⟨_, -, hchecked⟩, row, hrow, rfl⟩ := h
  have hweight : checked.weight = weight := by
    split at hchecked
    · cases hchecked
      rfl
    · cases hchecked
  refine moved_of_door _ .examWeights (.put kind weight) hrow rfl (if_pos rfl) rfl
    (hweight ▸ ownedRows_insert s.classCourseExamWeight i kind checked.weight) ?_
  intro i' axis hne
  cases axis with
  | subjects | weeklyPlan => rfl
  | examWeights => exact ownedRows_insert_of_ne (fun hi => hne ⟨hi, rfl⟩) kind checked.weight

theorem moved_removeFromClass {kind : String} (h : removeFromClass i kind s = .ok s') :
    (Request.removeFromClass i kind).Moves s s' := by
  simp only [removeFromClass, Gate.bind_eq_ok, Gate.pure_eq_ok, Db.instanceOr404,
    Gate.found_eq_ok] at h
  obtain ⟨row, hrow, _, -, rfl⟩ := h
  refine moved_of_door _ .examWeights (.drop kind) hrow rfl (if_pos rfl) rfl
    (ownedRows_erase s.classCourseExamWeight i kind) ?_
  intro i' axis hne
  cases axis with
  | subjects | weeklyPlan => rfl
  | examWeights => exact ownedRows_erase_of_ne (fun hi => hne ⟨hi, rfl⟩) kind

theorem moved_resetClass (h : resetClass i s = .ok s') :
    (Request.resetClass i).Moves s s' := by
  simp only [resetClass, Gate.bind_eq_ok, Gate.pure_eq_ok, Db.instanceOr404,
    Gate.found_eq_ok] at h
  obtain ⟨row, hrow, rfl⟩ := h
  have hrows := ownedRows_deleteWhere s.classCourseExamWeight i
  refine moved_of_door _ .examWeights .reset hrow rfl (if_pos rfl) rfl
    ((hrows i).trans (if_pos rfl)) ?_
  intro i' axis hne
  cases axis with
  | subjects | weeklyPlan => rfl
  | examWeights => exact (hrows i').trans (if_neg fun hi => hne ⟨hi, rfl⟩)

theorem moved_addToInstance {key : SubjectId} {answer : Subject × Bool}
    (h : addToInstance i key s = .ok (answer, s')) :
    (Request.addToInstance i key).Moves s s' := by
  simp only [addToInstance, Gate.bind_eq_ok, Gate.pure_eq_ok, Db.instanceOr404,
    Gate.found_eq_ok, Prod.mk.injEq] at h
  obtain ⟨row, hrow, subject, -, -, rfl⟩ := h
  refine moved_of_door _ .subjects (.put key ()) hrow rfl (if_pos rfl) rfl
    (ownedRows_insert s.classCourseSubject i key ()) ?_
  intro i' axis hne
  cases axis with
  | subjects => exact ownedRows_insert_of_ne (fun hi => hne ⟨hi, rfl⟩) key ()
  | examWeights | weeklyPlan => rfl

theorem moved_removeFromInstance {key : SubjectId} (h : removeFromInstance i key s = .ok s') :
    (Request.removeFromInstance i key).Moves s s' := by
  simp only [removeFromInstance, Gate.bind_eq_ok, Gate.pure_eq_ok, Db.instanceOr404,
    Gate.found_eq_ok] at h
  obtain ⟨row, hrow, _, -, rfl⟩ := h
  refine moved_of_door _ .subjects (.drop key) hrow rfl (if_pos rfl) rfl
    (ownedRows_erase s.classCourseSubject i key) ?_
  intro i' axis hne
  cases axis with
  | subjects => exact ownedRows_erase_of_ne (fun hi => hne ⟨hi, rfl⟩) key
  | examWeights | weeklyPlan => rfl

theorem moved_resetInstance {rows : ℕ} (h : resetInstance i s = .ok (rows, s')) :
    (Request.resetInstance i).Moves s s' := by
  simp only [resetInstance, Gate.bind_eq_ok, Gate.pure_eq_ok, Db.instanceOr404,
    Gate.found_eq_ok, Prod.mk.injEq] at h
  obtain ⟨row, hrow, -, rfl⟩ := h
  have hrows := ownedRows_deleteWhere s.classCourseSubject i
  refine moved_of_door _ .subjects .reset hrow rfl (if_pos rfl) rfl
    ((hrows i).trans (if_pos rfl)) ?_
  intro i' axis hne
  cases axis with
  | subjects => exact (hrows i').trans (if_neg fun hi => hne ⟨hi, rfl⟩)
  | examWeights | weeklyPlan => rfl

theorem moved_resetOverrides {fields : List OverrideField} {row' : ClassCourse}
    (h : resetOverrides i fields s = .ok (row', s')) (i' : ClassCourseId) (axis : Axis) :
    s'.own i' axis = s.own i' axis ∧
      s'.flag i' axis =
        if i' = i ∧ fields.contains axis.field then some true else s.flag i' axis := by
  simp only [resetOverrides, Gate.bind_eq_ok, Gate.pure_eq_ok, Db.instanceOr404,
    Gate.found_eq_ok, Prod.mk.injEq] at h
  obtain ⟨_, -, row, hrow, -, rfl⟩ := h
  constructor
  · cases axis <;> rfl
  · unfold Db.flag
    dsimp only
    rw [lookup_insert_eq]
    by_cases hi : i' = i
    · subst hi
      rw [if_pos rfl, hrow, Option.map_some, Option.map_some, clearOverrides_inherited]
      by_cases hfield : fields.contains axis.field = true
      · rw [if_pos hfield, if_pos ⟨rfl, hfield⟩]
      · rw [if_neg hfield, if_neg fun hnamed => hfield hnamed.2]
    · rw [if_neg hi, if_neg fun hnamed => hi hnamed.1]

theorem moved_serve {answer : Answer} (h : serve request s = .ok (answer, s')) :
    request.Moves s s' := by
  cases request with
  | addForClass =>
      obtain ⟨r, hr, hrest⟩ := map_eq_ok.mp h
      cases hrest
      exact moved_addForClass hr
  | removeForClass =>
      obtain ⟨r, hr, hrest⟩ := map_eq_ok.mp h
      cases hrest
      exact moved_removeForClass hr
  | resetForClass =>
      obtain ⟨r, hr, hrest⟩ := map_eq_ok.mp h
      cases hrest
      exact moved_resetForClass hr
  | setForClass =>
      obtain ⟨r, hr, hrest⟩ := map_eq_ok.mp h
      cases hrest
      exact moved_setForClass hr
  | removeFromClass =>
      obtain ⟨r, hr, hrest⟩ := map_eq_ok.mp h
      cases hrest
      exact moved_removeFromClass hr
  | resetClass =>
      obtain ⟨r, hr, hrest⟩ := map_eq_ok.mp h
      cases hrest
      exact moved_resetClass hr
  | addToInstance =>
      obtain ⟨r, hr, hrest⟩ := map_eq_ok.mp h
      cases hrest
      exact moved_addToInstance hr
  | removeFromInstance =>
      obtain ⟨r, hr, hrest⟩ := map_eq_ok.mp h
      cases hrest
      exact moved_removeFromInstance hr
  | resetInstance =>
      obtain ⟨r, hr, hrest⟩ := map_eq_ok.mp h
      cases hrest
      exact moved_resetInstance hr
  | resetOverrides i fields =>
      obtain ⟨r, hr, hrest⟩ := map_eq_ok.mp h
      cases hrest
      intro i' axis
      obtain ⟨hown, hflag⟩ := moved_resetOverrides hr i' axis
      have hop : (Request.resetOverrides i fields).op i' axis =
          if i = i' ∧ fields.contains axis.field then some .reset else none := by
        cases axis <;> rfl
      rw [hop]
      by_cases hnamed : i' = i ∧ fields.contains axis.field
      · rw [if_pos ⟨hnamed.1.symm, hnamed.2⟩]
        exact .cleared fields (hnamed.1 ▸ rfl) hnamed.2 (hflag.trans (if_pos hnamed)) hown
      · rw [if_neg fun hother => hnamed ⟨hother.1.symm, hother.2⟩]
        exact .kept (hflag.trans (if_neg hnamed)) hown

def Db.hasOwn (s : Db) (instance_ : ClassCourseId) : Axis → Bool
  | .subjects => Table.any s.classCourseSubject fun key _ => key.1 = instance_
  | .examWeights => Table.any s.classCourseExamWeight fun key _ => key.1 = instance_
  | .weeklyPlan => Table.any s.classCourseSlot fun _ row => row.1 = instance_

def Db.clearsNoRows (s : Db) : Request → Bool
  | .resetOverrides i fields =>
      [Axis.subjects, .examWeights, .weeklyPlan].all fun axis =>
        !(fields.contains axis.field && s.hasOwn i axis)
  | _ => true

def Db.override (s : Db) (instance_ : ClassCourseId) (axis : Axis) :
    Option (RowSet axis.Key axis.Row) :=
  if s.flag instance_ axis = some false then some (s.own instance_ axis) else none

def Db.Owned (s : Db) : Prop :=
  ∀ instance_ axis, s.flag instance_ axis = none → s.own instance_ axis = .empty

def Db.InheritsBare (s : Db) : Prop :=
  ∀ instance_ axis, s.flag instance_ axis = some true → s.own instance_ axis = .empty

/-- An axis that inherits has no own row, and the set in force on any other is the replay of
the operations since its last reset, over the set that came into force with the first of
them. -/
structure Replayed (start s : Db)
    (ops : ∀ (_ : ClassCourseId) (axis : Axis), List (Op axis.Key axis.Row)) : Prop where
  inherits : ∀ instance_ row axis, s.classCourse.lookup instance_ = some row →
    row.inherited axis = true → ∀ key, s.own instance_ axis key = none
  overrides : ∀ instance_ row axis, s.classCourse.lookup instance_ = some row →
    row.inherited axis = false →
      s.resolvedForInstance instance_ row axis =
        replay (base (start.override instance_ axis) (ops instance_ axis))
          (sinceReset (ops instance_ axis))

theorem hasOwn_eq_false_iff {axis : Axis} :
    s.hasOwn i axis = false ↔ s.own i axis = .empty := by
  cases axis with
  | subjects => exact any_owned_iff s.classCourseSubject
  | examWeights => exact any_owned_iff s.classCourseExamWeight
  | weeklyPlan => exact any_slots_iff s.classCourseSlot

theorem step_cases (request : Request) (s : Db) :
    (∃ answer, serve request s = .ok (answer, step request s)) ∨
      (∃ refusal, serve request s = .error refusal) ∧ step request s = s := by
  unfold step
  cases hserve : serve request s with
  | error refusal => exact .inr ⟨⟨refusal, rfl⟩, rfl⟩
  | ok served => exact .inl ⟨served.1, rfl⟩

theorem clearsNoRows_iff {i : ClassCourseId} {fields : List OverrideField} :
    s.clearsNoRows (.resetOverrides i fields) = true ↔
      ∀ axis : Axis, fields.contains axis.field = true → s.own i axis = .empty := by
  unfold Db.clearsNoRows
  rw [List.all_eq_true]
  constructor
  · intro hall axis hnamed
    have haxis := hall axis (by cases axis <;> simp)
    rw [hnamed, Bool.true_and, Bool.not_eq_true'] at haxis
    exact hasOwn_eq_false_iff.mp haxis
  · intro hempty axis _
    by_cases hnamed : fields.contains axis.field = true
    · rw [hasOwn_eq_false_iff.mpr (hempty axis hnamed), Bool.and_false]
      rfl
    · rw [Bool.eq_false_of_not_eq_true hnamed, Bool.false_and]
      rfl

theorem owned_step (h : s.Owned) (request : Request) : (step request s).Owned := by
  rcases step_cases request s with ⟨answer, hserve⟩ | ⟨-, hsame⟩
  · intro i axis hnone
    have hmoved := moved_serve hserve i axis
    generalize request.op i axis = op at hmoved
    cases hmoved with
    | kept flag own =>
        rw [own]
        exact h i axis (flag ▸ hnone)
    | edited op edits flag own | cleared fields asked named flag own =>
        rw [flag] at hnone
        cases hnone
    | swept flag own => exact own
  · rw [hsame]
    exact h

theorem inheritsBare_step (h : s.InheritsBare) (hclears : s.clearsNoRows request = true) :
    (step request s).InheritsBare := by
  rcases step_cases request s with ⟨answer, hserve⟩ | ⟨-, hsame⟩
  · intro i axis htrue
    have hmoved := moved_serve hserve i axis
    generalize request.op i axis = op at hmoved
    cases hmoved with
    | kept flag own =>
        rw [own]
        exact h i axis (flag ▸ htrue)
    | edited op edits flag =>
        rw [flag] at htrue
        cases htrue
    | swept flag own => exact own
    | cleared fields asked named flag own =>
        subst asked
        rw [own]
        exact clearsNoRows_iff.mp hclears axis named
  · rw [hsame]
    exact h

theorem clearsNoRows_of_step (howned : s.Owned) (h : (step request s).InheritsBare) :
    s.clearsNoRows request = true := by
  cases request with
  | resetOverrides i fields =>
      apply clearsNoRows_iff.mpr
      intro axis hnamed
      cases hrow : s.classCourse.lookup i with
      | none =>
          apply howned
          unfold Db.flag
          rw [hrow]
          rfl
      | some row =>
          have hfields : fields.isEmpty = false := by
            cases fields with
            | nil => simp at hnamed
            | cons => rfl
          have hreset : resetOverrides i fields s = .ok (clearOverrides fields row,
              { s with classCourse := s.classCourse.insert i (clearOverrides fields row) }) := by
            unfold resetOverrides Db.instanceOr404
            rw [hrow, hfields]
            rfl
          have hstep : step (.resetOverrides i fields) s =
              { s with classCourse := s.classCourse.insert i (clearOverrides fields row) } := by
            have hserve : serve (.resetOverrides i fields) s =
                (resetOverrides i fields s).map fun r => (.instance_ r.1, r.2) := rfl
            unfold step
            rw [hserve, hreset]
            rfl
          obtain ⟨hown, hflag⟩ := moved_resetOverrides hreset i axis
          rw [hstep] at h
          rw [← hown]
          exact h i axis (hflag.trans (if_pos ⟨rfl, hnamed⟩))
  | _ => rfl

theorem getD_override (howned : s.Owned) (hbare : s.InheritsBare) (i : ClassCourseId)
    (axis : Axis) : (s.override i axis).getD .empty = s.own i axis := by
  unfold Db.override
  cases hflag : s.flag i axis with
  | none => exact (howned i axis hflag).symm
  | some inherited =>
      cases inherited with
      | true => exact (hbare i axis hflag).symm
      | false => rfl

/-- One request extends the operations by what it did. -/
theorem override_step (howned : s.Owned) (hbare : s.InheritsBare) (request : Request)
    (i : ClassCourseId) (axis : Axis) {start : Option (RowSet axis.Key axis.Row)}
    {ops : List (Op axis.Key axis.Row)} (h : decided start ops = s.override i axis) :
    decided start (ops ++ performed i axis s request) = (step request s).override i axis := by
  unfold performed
  rcases step_cases request s with ⟨answer, hserve⟩ | ⟨⟨refusal, hserve⟩, hsame⟩
  · have hmoved := moved_serve hserve i axis
    rw [hserve]
    dsimp only
    generalize request.op i axis = op at hmoved ⊢
    cases hmoved with
    | kept flag own =>
        rw [Option.toList_none, List.append_nil, h]
        unfold Db.override
        rw [flag, own]
    | edited op edits flag own =>
        rw [Option.toList_some, Overlay.decided_snoc, h]
        unfold Op.decide
        rw [if_neg (by simp [edits]), getD_override howned hbare, ← own]
        unfold Db.override
        rw [flag, if_pos rfl]
    | swept flag own | cleared fields asked named flag own =>
        rw [Option.toList_some, Overlay.decided_snoc]
        unfold Db.override
        rw [flag]
        rfl
  · rw [hserve, hsame, List.append_nil]
    exact h

def performedIn (start : Db) (requests : List Request) (instance_ : ClassCourseId) (axis : Axis) :
    List (Op axis.Key axis.Row) :=
  Sequential.observe step (performed instance_ axis) start requests

theorem replayed_of_bare {start : Db} {ops : ∀ (_ : ClassCourseId) (axis : Axis),
      List (Op axis.Key axis.Row)} (hbare : s.InheritsBare)
    (h : ∀ i axis, decided (start.override i axis) (ops i axis) = s.override i axis) :
    Replayed start s ops where
  inherits := by
    intro i row axis hrow htrue key
    have hflag : s.flag i axis = some true := by
      unfold Db.flag
      rw [hrow, Option.map_some, htrue]
    rw [hbare i axis hflag]
    rfl
  overrides := by
    intro i row axis hrow hfalse
    have hflag : s.flag i axis = some false := by
      unfold Db.flag
      rw [hrow, Option.map_some, hfalse]
    have hdecided := h i axis
    unfold Db.resolvedForInstance
    rw [hfalse, if_neg Bool.false_ne_true, ← getD_decided, hdecided]
    unfold Db.override
    rw [hflag, if_pos rfl]
    rfl

theorem inheritsBare_of_replayed {start : Db} {ops : ∀ (_ : ClassCourseId) (axis : Axis),
      List (Op axis.Key axis.Row)} (h : Replayed start s ops) : s.InheritsBare := by
  intro i axis hflag
  obtain ⟨row, hrow, htrue⟩ := Option.map_eq_some_iff.mp hflag
  funext key
  exact h.inherits i row axis hrow htrue key

/-- In every state of a run the axes that inherit have no own rows and the sets in force are
the replays of the operations, exactly when no reset of overrides named an axis on which the
instance had rows. -/
theorem sets_follow_replay {start : Db} (howned : start.Owned) (hbare : start.InheritsBare)
    (requests : List Request) :
    (∀ before, before <+: requests →
      Replayed start (Sequential.run step start before) (performedIn start before)) ↔
    Sequential.Meets step (fun s request => s.clearsNoRows request = true) start requests := by
  have halways : (∀ before, before <+: requests →
      (Sequential.run step start before).InheritsBare) ↔
      Sequential.Meets step (fun s request => s.clearsNoRows request = true) start requests :=
    Sequential.always_iff_meets (fun s request hs => owned_step hs request)
      (fun s request hs hbare => ⟨clearsNoRows_of_step hs, inheritsBare_step hbare⟩)
      howned hbare
  rw [← halways]
  constructor
  · intro hall before hprefix
    exact inheritsBare_of_replayed (hall before hprefix)
  · intro hall before hprefix
    refine replayed_of_bare (hall before hprefix) fun i axis => ?_
    have hmeets := halways.mp hall
    obtain ⟨after, rfl⟩ := hprefix
    have hrun := Sequential.observe_induction (f := performed i axis)
      (J := fun s ops => (s.Owned ∧ s.InheritsBare) ∧
        decided (start.override i axis) ops = s.override i axis)
      (fun s request ops hclears hs => ⟨⟨owned_step hs.1.1 request,
        inheritsBare_step hs.1.2 hclears⟩, override_step hs.1.1 hs.1.2 request i axis hs.2⟩)
      (Sequential.meets_append.mp hmeets).1 ⟨⟨howned, hbare⟩, (rfl : decided _ [] = _)⟩
    exact hrun.2

def algebra : School.CourseId := ⟨.ending "0001"⟩

def algebra9A : ClassCourseId := ⟨.ending "0002"⟩

def slot1 : WeeklySlotId := ⟨.ending "0003"⟩

def slot2 : WeeklySlotId := ⟨.ending "0004"⟩

def inheriting : ClassCourse :=
  { course := algebra
    offering := ⟨algebra, .ninth⟩
    title := none
    description := none
    dersSaati := none
    countsTowardKarne := none
    subjectsInherited := true
    examWeightsInherited := true
    weeklyPlanInherited := true }

def attached : Db :=
  { classCourse := (∅ : Table ClassCourseId ClassCourse).insert algebra9A inheriting
    subject := ∅
    examKinds := [⟨"yazili", 1⟩]
    offeringSlot := ∅
    offeringSubject := ∅
    offeringExamWeight := ∅
    classCourseSlot := ∅
    classCourseSubject := ∅
    classCourseExamWeight := ∅ }

theorem attached_own (i : ClassCourseId) (axis : Axis) : attached.own i axis = .empty := by
  cases axis <;> rfl

def nine : SlotMinute := .nine

def ten : SlotMinute := .ten

def addOn (id : WeeklySlotId) (weekday : Weekday) : Request :=
  .addForClass algebra9A id weekday nine ten none

def monday : Weekday := .monday

def tuesday : Weekday := ⟨2, by decide, by decide⟩

def sweptFirst : List Request :=
  [addOn slot1 monday, .setForClass algebra9A "yazili" 3, .resetForClass algebra9A,
    .resetOverrides algebra9A [.weeklyPlan, .title], addOn slot2 tuesday]

theorem sets_follow_replay_sweptFirst :
    Replayed attached (Sequential.run step attached sweptFirst)
      (performedIn attached sweptFirst) := by
  have hmeets : Sequential.Meets step (fun s request => s.clearsNoRows request = true) attached
      sweptFirst := by
    decide
  exact (sets_follow_replay (fun i axis _ => attached_own i axis)
    (fun i axis _ => attached_own i axis) sweptFirst).mpr hmeets sweptFirst List.prefix_rfl

def clearedOver : List Request :=
  [addOn slot1 monday, .resetOverrides algebra9A [.weeklyPlan], addOn slot2 tuesday]

theorem cleared_rows_return :
    ¬ Replayed attached (Sequential.run step attached (clearedOver.take 2))
        (performedIn attached (clearedOver.take 2)) ∧
      ¬ Replayed attached (Sequential.run step attached clearedOver)
        (performedIn attached clearedOver) := by
  constructor
  · intro h
    have hflag : ((Sequential.run step attached (clearedOver.take 2)).classCourse.lookup
        algebra9A).any (fun row => row.inherited .weeklyPlan) = true := by decide
    have hslot : ((Sequential.run step attached (clearedOver.take 2)).own algebra9A .weeklyPlan
        slot1).isSome = true := by decide
    obtain ⟨row, hrow, htrue⟩ := (Option.any_eq_true _ _).mp hflag
    have hnone := h.inherits algebra9A row .weeklyPlan hrow htrue slot1
    rw [hnone] at hslot
    cases hslot
  · intro h
    have hflag : ((Sequential.run step attached clearedOver).classCourse.lookup
        algebra9A).any (fun row => !row.inherited .weeklyPlan) = true := by decide
    have hslot : ((Sequential.run step attached clearedOver).own algebra9A .weeklyPlan
        slot1).isSome = true := by decide
    have hreplay : (replay (base (attached.override algebra9A .weeklyPlan)
        (performedIn attached clearedOver algebra9A .weeklyPlan))
          (sinceReset (performedIn attached clearedOver algebra9A .weeklyPlan)) slot1).isSome =
            false := by decide
    obtain ⟨row, hrow, htrue⟩ := (Option.any_eq_true _ _).mp hflag
    rw [Bool.not_eq_true'] at htrue
    have hown := congrFun (h.overrides algebra9A row .weeklyPlan hrow htrue) slot1
    unfold Db.resolvedForInstance at hown
    rw [htrue, if_neg Bool.false_ne_true] at hown
    rw [hown, hreplay] at hslot
    cases hslot

end Hezarfen.Overrides
