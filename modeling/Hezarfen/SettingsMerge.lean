import Hezarfen.SettingsDomain

/-!
# A PATCH over a policy

A PATCH names some of the fields.  The workflow merges it over the policy it read and
validates the whole.  What comes out is that policy with the named fields replaced, if
policies are compared the way they read: unset knobs by their defaults, the two vocabularies
as sets.
-/

namespace Hezarfen.SchoolSettings

open Meal (MealSlotDef)

variable {entries : List String} {loc : Locale} {settings current : Settings}

structure ExamKindInput where
  name : String
  weight : ℤ
  deriving DecidableEq

structure GradeBandInput where
  min : ℤ
  label : String
  deriving DecidableEq

structure MealSlotInput where
  name : String
  servingMinute : Option ℤ
  deriving DecidableEq

/-- The body of the PATCH; a knob that can be cleared is named with `none` to clear it. -/
structure SettingsPatch where
  examKinds : Option (List ExamKindInput) := none
  attendanceStatuses : Option (List String) := none
  gradeBands : Option (List GradeBandInput) := none
  maxFileBytes : Option ℤ := none
  chatbotHistoryTurns : Option ℤ := none
  maxChatbotThreads : Option ℤ := none
  maxChatbotMessageLen : Option ℤ := none
  mealSlots : Option (List MealSlotInput) := none
  dietaryTags : Option (List String) := none
  mealCancelCutoffMinutes : Option (Option ℤ) := none
  branches : Option (List String) := none
  excuseKinds : Option (List String) := none
  maxExcusedAbsentDays : Option (Option ℤ) := none
  maxUnexcusedAbsentDays : Option (Option ℤ) := none
  timezone : Option (Option String) := none
  deriving DecidableEq

variable {patch : SettingsPatch}

def kindNames (kinds : List ExamKindDef) : List String := kinds.map ExamKindDef.name

def slotNames (slots : List MealSlotDef) : List String := slots.map MealSlotDef.name

/-- The names `before` carries that `after` does not. -/
def missing (before after : List String) : List String :=
  before.filter fun name => !after.contains name

/-- A named list, parsed entry by entry, or the list that is there. -/
def parsed {α β : Type} (named : Option (List α)) (parse : α → Except ValidationError β)
    (current : List β) : Except ValidationError (List β) :=
  match named with
  | none => .ok current
  | some inputs => inputs.mapM parse

def merge (loc : Locale) (current : Settings) (patch : SettingsPatch) :
    Except ValidationError Settings := do
  let examKinds ← parsed patch.examKinds
    (fun kind => ExamKindDef.tryNew kind.name kind.weight) current.examKinds
  let mealSlots ← parsed patch.mealSlots
    (fun slot => buildSlot slot.name slot.servingMinute
      ((slotNames current.getMealSlots).contains (trim slot.name))) current.getMealSlots
  let gradeBands ← parsed patch.gradeBands
    (fun band => GradeBand.tryNew band.min band.label) current.gradeBands
  let params := current.params
  Settings.tryNew loc
    { examKinds := examKinds
      attendanceStatuses := patch.attendanceStatuses.getD params.attendanceStatuses
      gradeBands := gradeBands
      maxFileBytes := patch.maxFileBytes.getD params.maxFileBytes
      chatbotHistoryTurns := patch.chatbotHistoryTurns.getD params.chatbotHistoryTurns
      maxChatbotThreads := patch.maxChatbotThreads.getD params.maxChatbotThreads
      maxChatbotMessageLen := patch.maxChatbotMessageLen.getD params.maxChatbotMessageLen
      mealSlots := mealSlots
      dietaryTags := patch.dietaryTags.getD params.dietaryTags
      mealCancelCutoffMinutes :=
        patch.mealCancelCutoffMinutes.getD params.mealCancelCutoffMinutes
      branches := patch.branches.getD params.branches
      excuseKinds := patch.excuseKinds.getD params.excuseKinds
      maxExcusedAbsentDays := patch.maxExcusedAbsentDays.getD params.maxExcusedAbsentDays
      maxUnexcusedAbsentDays := patch.maxUnexcusedAbsentDays.getD params.maxUnexcusedAbsentDays
      timezone := patch.timezone.getD params.timezone }

structure Policy where
  examKinds : List ExamKindDef
  attendanceStatuses : Finset String
  gradeBands : List GradeBand
  maxFileBytes : ℤ
  chatbotHistoryTurns : ℤ
  maxChatbotThreads : ℤ
  maxChatbotMessageLen : ℤ
  mealSlots : List MealSlotDef
  dietaryTags : Finset String
  mealCancelCutoffMinutes : Option ℤ
  branches : List String
  excuseKinds : List String
  maxExcusedAbsentDays : Option ℤ
  maxUnexcusedAbsentDays : Option ℤ
  timezone : Option String
  deriving DecidableEq

def Settings.policy (settings : Settings) : Policy :=
  let params := settings.params
  { examKinds := params.examKinds
    attendanceStatuses := params.attendanceStatuses.toFinset
    gradeBands := params.gradeBands
    maxFileBytes := params.maxFileBytes
    chatbotHistoryTurns := params.chatbotHistoryTurns
    maxChatbotThreads := params.maxChatbotThreads
    maxChatbotMessageLen := params.maxChatbotMessageLen
    mealSlots := params.mealSlots
    dietaryTags := params.dietaryTags.toFinset
    mealCancelCutoffMinutes := params.mealCancelCutoffMinutes
    branches := params.branches
    excuseKinds := params.excuseKinds
    maxExcusedAbsentDays := params.maxExcusedAbsentDays
    maxUnexcusedAbsentDays := params.maxUnexcusedAbsentDays
    timezone := params.timezone }

def Policy.replace (policy : Policy) (patch : SettingsPatch) : Policy :=
  { examKinds := patch.examKinds.elim policy.examKinds
      (List.map fun kind => ⟨trim kind.name, kind.weight⟩)
    attendanceStatuses := patch.attendanceStatuses.elim policy.attendanceStatuses
      fun statuses => (statuses.map trim).toFinset
    gradeBands := patch.gradeBands.elim policy.gradeBands fun bands =>
      (bands.map fun band => (⟨band.min, trim band.label⟩ : GradeBand)).insertionSort
        fun a b => b.min ≤ a.min
    maxFileBytes := patch.maxFileBytes.getD policy.maxFileBytes
    chatbotHistoryTurns := patch.chatbotHistoryTurns.getD policy.chatbotHistoryTurns
    maxChatbotThreads := patch.maxChatbotThreads.getD policy.maxChatbotThreads
    maxChatbotMessageLen := patch.maxChatbotMessageLen.getD policy.maxChatbotMessageLen
    mealSlots := patch.mealSlots.elim policy.mealSlots
      (List.map fun slot => ⟨trim slot.name, slot.servingMinute⟩)
    dietaryTags := patch.dietaryTags.elim policy.dietaryTags
      fun tags => (tags.map trim).toFinset
    mealCancelCutoffMinutes := patch.mealCancelCutoffMinutes.getD policy.mealCancelCutoffMinutes
    branches := patch.branches.elim policy.branches (List.map trim)
    excuseKinds := patch.excuseKinds.elim policy.excuseKinds (List.map trim)
    maxExcusedAbsentDays := patch.maxExcusedAbsentDays.getD policy.maxExcusedAbsentDays
    maxUnexcusedAbsentDays := patch.maxUnexcusedAbsentDays.getD policy.maxUnexcusedAbsentDays
    timezone := patch.timezone.getD policy.timezone }

theorem dropWhile_of_prefix
    {p : Char → Bool} {l l' : List Char} (hl : l.dropWhile p = l) (hlead : l' <+: l) :
    l'.dropWhile p = l' := by
  cases l' with
  | nil => rfl
  | cons =>
      obtain ⟨rest, rfl⟩ := hlead
      rw [List.dropWhile_eq_self_iff] at hl ⊢
      intro _
      exact hl (by simp)

theorem trim_trim (text : String) : trim (trim text) = trim text := by
  have hleft : ((text.toList.dropWhile isWhitespace).rdropWhile isWhitespace).dropWhile
      isWhitespace = (text.toList.dropWhile isWhitespace).rdropWhile isWhitespace :=
    dropWhile_of_prefix (List.dropWhile_idempotent _ _) (List.rdropWhile_prefix _ _)
  unfold trim
  rw [String.toList_ofList, hleft, List.rdropWhile_idempotent]

def Trimmed (entries : List String) : Prop := ∀ entry ∈ entries, trim entry = entry

instance (entries : List String) : Decidable (Trimmed entries) :=
  inferInstanceAs (Decidable (∀ entry ∈ entries, trim entry = entry))

theorem trimmed_map_trim (values : List String) : Trimmed (values.map trim) := by
  intro entry hentry
  obtain ⟨value, -, rfl⟩ := List.mem_map.mp hentry
  exact trim_trim value

theorem Trimmed.map_trim (h : Trimmed entries) :
    entries.map trim = entries := by
  calc
    entries.map trim = entries.map id := List.map_congr_left h
    _ = entries := List.map_id entries

theorem Trimmed.perm {entries' : List String} (h : Trimmed entries)
    (hperm : entries'.Perm entries) : Trimmed entries' :=
  fun entry hentry => h entry (hperm.mem_iff.mp hentry)

theorem examKind_eq_ok
    {name : String} {weight : ℤ} {kind : ExamKindDef}
    (h : ExamKindDef.tryNew name weight = .ok kind) : kind = ⟨trim name, weight⟩ := by
  simp only [ExamKindDef.tryNew, Gate.bind_eq_ok, Gate.pure_eq_ok] at h
  obtain ⟨-, -, -, -, rfl⟩ := h
  rfl

theorem buildSlot_eq_ok
    {name : String} {servingMinute : Option ℤ} {kept : Bool} {slot : MealSlotDef}
    (h : buildSlot name servingMinute kept = .ok slot) : slot = ⟨trim name, servingMinute⟩ := by
  simp only [buildSlot, Gate.bind_eq_ok, Gate.pure_eq_ok] at h
  obtain ⟨-, -, -, -, -, -, rfl⟩ := h
  rfl

theorem gradeBand_eq_ok
    {min : ℤ} {label : String} {band : GradeBand} (h : GradeBand.tryNew min label = .ok band) :
    band = ⟨min, trim label⟩ := by
  simp only [GradeBand.tryNew, Gate.bind_eq_ok, Gate.pure_eq_ok] at h
  obtain ⟨-, -, -, -, rfl⟩ := h
  rfl

theorem validateList_eq_ok
    {field : String} {values : List String} (h : validateList loc field values = .ok entries) :
    entries = values.map trim := by
  simp only [validateList, Gate.bind_eq_ok, Gate.pure_eq_ok] at h
  obtain ⟨-, -, -, -, -, -, -, -, rfl⟩ := h
  rfl

theorem validateListUnlessEmpty_eq_ok
    {field : String} {values : List String}
    (h : validateListUnlessEmpty loc field values = .ok entries) : entries = values.map trim := by
  unfold validateListUnlessEmpty at h
  split at h
  · next hempty =>
    cases h
    rw [List.isEmpty_iff.mp hempty]
    rfl
  · exact validateList_eq_ok h

theorem parsed_eq_ok
    {α β : Type} {named : Option (List α)} {parse : α → Except ValidationError β} {g : α → β}
    (hparse : ∀ a b, parse a = .ok b → b = g a) {current list : List β}
    (h : parsed named parse current = .ok list) : list = named.elim current (List.map g) := by
  cases named with
  | none =>
      cases h
      rfl
  | some => exact Gate.mapM_eq_ok hparse h

/-! ## Well-formed policies -/

structure Settings.WellFormed (settings : Settings) : Prop where
  core : ∀ status ∈ defaultAttendanceStatuses, status ∈ settings.attendanceStatuses
  statuses : Trimmed settings.attendanceStatuses
  tags : Trimmed settings.getDietaryTags
  branches : Trimmed (settings.branches.getD [])
  excuseKinds : Trimmed (settings.excuseKinds.getD [])
  bands : settings.gradeBands.Pairwise fun a b => b.min ≤ a.min

theorem defaults_wellFormed : Settings.defaults.WellFormed := by
  constructor
  · intro status hstatus
    exact (List.mem_insertionSort _).mpr hstatus
  · decide
  · decide
  · decide
  · decide
  · decide

def SettingsParams.normal (params : SettingsParams) : Settings :=
  { examKinds := params.examKinds
    attendanceStatuses := params.attendanceStatuses.map trim
    gradeBands := params.gradeBands.insertionSort fun a b => b.min ≤ a.min
    maxFileBytes := some params.maxFileBytes
    chatbotHistoryTurns := some params.chatbotHistoryTurns
    maxChatbotThreads := some params.maxChatbotThreads
    maxChatbotMessageLen := some params.maxChatbotMessageLen
    mealSlots := some params.mealSlots
    dietaryTags := some (params.dietaryTags.map trim)
    mealCancelCutoffMinutes := params.mealCancelCutoffMinutes
    branches := some (params.branches.map trim)
    excuseKinds := some (params.excuseKinds.map trim)
    maxExcusedAbsentDays := params.maxExcusedAbsentDays
    maxUnexcusedAbsentDays := params.maxUnexcusedAbsentDays
    timezone := params.timezone }

theorem tryNew_eq_ok
    {params : SettingsParams} (h : Settings.tryNew loc params = .ok settings) :
    settings = params.normal ∧
      ∀ status ∈ defaultAttendanceStatuses, status ∈ settings.attendanceStatuses := by
  simp only [Settings.tryNew, Gate.bind_eq_ok, Gate.pure_eq_ok, Gate.ensure_eq_ok] at h
  obtain ⟨-, -, -, -, -, -, -, -, -, -, statuses, hstatuses, -, hcore, -, -, -, -, -, -, -, -, tags,
    htags, -, -, branches, hbranches, excuses, hexcuses, -, -, -, -, -, -, rfl⟩ := h
  obtain rfl := validateList_eq_ok hstatuses
  obtain rfl := validateListUnlessEmpty_eq_ok htags
  obtain rfl := validateListUnlessEmpty_eq_ok hbranches
  obtain rfl := validateListUnlessEmpty_eq_ok hexcuses
  refine ⟨rfl, fun status hstatus => ?_⟩
  have hmem := List.all_eq_true.mp hcore status hstatus
  exact List.contains_iff_mem.mp hmem

instance : Std.Total fun a b : GradeBand => b.min ≤ a.min :=
  ⟨fun a b => le_total b.min a.min⟩

instance : IsTrans GradeBand fun a b => b.min ≤ a.min :=
  ⟨fun _ _ _ hab hbc => le_trans hbc hab⟩

theorem merge_eq_ok
    (h : merge loc current patch = .ok settings) :
    settings = SettingsParams.normal
      { examKinds := patch.examKinds.elim current.examKinds
          (List.map fun kind => ⟨trim kind.name, kind.weight⟩)
        attendanceStatuses := patch.attendanceStatuses.getD current.attendanceStatuses
        gradeBands := patch.gradeBands.elim current.gradeBands
          (List.map fun band => ⟨band.min, trim band.label⟩)
        maxFileBytes := patch.maxFileBytes.getD current.params.maxFileBytes
        chatbotHistoryTurns := patch.chatbotHistoryTurns.getD current.params.chatbotHistoryTurns
        maxChatbotThreads := patch.maxChatbotThreads.getD current.params.maxChatbotThreads
        maxChatbotMessageLen :=
          patch.maxChatbotMessageLen.getD current.params.maxChatbotMessageLen
        mealSlots := patch.mealSlots.elim current.getMealSlots
          (List.map fun slot => ⟨trim slot.name, slot.servingMinute⟩)
        dietaryTags := patch.dietaryTags.getD current.getDietaryTags
        mealCancelCutoffMinutes :=
          patch.mealCancelCutoffMinutes.getD current.mealCancelCutoffMinutes
        branches := patch.branches.getD current.params.branches
        excuseKinds := patch.excuseKinds.getD current.params.excuseKinds
        maxExcusedAbsentDays := patch.maxExcusedAbsentDays.getD current.maxExcusedAbsentDays
        maxUnexcusedAbsentDays :=
          patch.maxUnexcusedAbsentDays.getD current.maxUnexcusedAbsentDays
        timezone := patch.timezone.getD current.timezone } ∧
      ∀ status ∈ defaultAttendanceStatuses, status ∈ settings.attendanceStatuses := by
  simp only [merge, Gate.bind_eq_ok] at h
  obtain ⟨kinds, hkinds, slots, hslots, bands, hbands, hnew⟩ := h
  obtain rfl := parsed_eq_ok (fun _ _ => examKind_eq_ok) hkinds
  obtain rfl := parsed_eq_ok (fun _ _ => buildSlot_eq_ok) hslots
  obtain rfl := parsed_eq_ok (fun _ _ => gradeBand_eq_ok) hbands
  exact tryNew_eq_ok hnew

theorem merge_wellFormed
    (h : merge loc current patch = .ok settings) : settings.WellFormed := by
  obtain ⟨heq, hcore⟩ := merge_eq_ok h
  refine ⟨hcore, ?_, ?_, ?_, ?_, ?_⟩
  · rw [heq]
    exact trimmed_map_trim _
  · rw [heq]
    exact trimmed_map_trim _
  · rw [heq]
    exact trimmed_map_trim _
  · rw [heq]
    exact trimmed_map_trim _
  · rw [heq]
    exact List.pairwise_insertionSort _ _

theorem map_trim_getD
    (named : Option (List String)) {current : List String}
    (hcurrent : Trimmed current) :
    (named.getD current).map trim = named.elim current (List.map trim) := by
  cases named with
  | none => exact hcurrent.map_trim
  | some => rfl

theorem sort_elim
    (named : Option (List GradeBandInput)) {current : List GradeBand}
    (hcurrent : current.Pairwise fun a b => b.min ≤ a.min) (f : GradeBandInput → GradeBand) :
    (named.elim current (List.map f)).insertionSort (fun a b => b.min ≤ a.min) =
      named.elim current fun bands =>
        (bands.map f).insertionSort fun a b => b.min ≤ a.min := by
  cases named with
  | none => exact hcurrent.insertionSort_eq
  | some => rfl

theorem toFinset_elim {named : Option (List String)} {current : List String} :
    (named.elim current (List.map trim)).toFinset =
      named.elim current.toFinset fun values => (values.map trim).toFinset := by
  cases named <;> rfl

theorem merge_policy
    (hcurrent : current.WellFormed) (h : merge loc current patch = .ok settings) :
    settings.policy = current.policy.replace patch := by
  obtain ⟨rfl, -⟩ := merge_eq_ok h
  have hstatuses := map_trim_getD patch.attendanceStatuses hcurrent.statuses
  have htags := map_trim_getD patch.dietaryTags hcurrent.tags
  have hbranches := map_trim_getD patch.branches hcurrent.branches
  have hexcuses := map_trim_getD patch.excuseKinds hcurrent.excuseKinds
  have hbands := sort_elim patch.gradeBands hcurrent.bands
    fun band => ⟨band.min, trim band.label⟩
  simp only [Settings.policy, Policy.replace, SettingsParams.normal, Settings.params,
    Settings.getDietaryTags, Settings.getMealSlots, Option.getD_some, hstatuses, hbranches,
    hexcuses, hbands, toFinset_elim] at htags ⊢
  rw [htags, toFinset_elim]

end Hezarfen.SchoolSettings
