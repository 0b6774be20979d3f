import Mathlib.Data.Finset.Dedup
import Mathlib.Data.List.DropRight
import Mathlib.Data.List.Sort
import Mathlib.Data.String.Basic
import Hezarfen.MealDomain
import Hezarfen.Requests

/-!
# The policy of a school

The knobs of the `settings` row, the rules that a whole policy has to pass, and the merge of
a PATCH over a policy that was read.  Two things come from outside: the lower case of a
character, and the order in which the database sorts text.
-/

namespace Hezarfen.SchoolSettings

open Meal (MealSlotDef)

/-- What the standard library and the database decide about text. -/
structure Locale where
  /-- `char::to_lowercase` -/
  toLowercase : Char → List Char
  /-- The collation of the database; texts that it holds equal are put in byte order. -/
  collate : String → String → Bool

/-- The Unicode property `White_Space`. -/
def isWhitespace (c : Char) : Bool :=
  let n := c.toNat
  (9 ≤ n && n ≤ 13) || n == 0x20 || n == 0x85 || n == 0xA0 || n == 0x1680 ||
    (0x2000 ≤ n && n ≤ 0x200A) || n == 0x2028 || n == 0x2029 || n == 0x202F || n == 0x205F ||
    n == 0x3000

def trim (text : String) : String :=
  String.ofList ((text.toList.dropWhile isWhitespace).rdropWhile isWhitespace)

/-- `replace("i\u{307}", "i")` -/
def dropDots : List Char → List Char
  | 'i' :: '\u0307' :: rest => 'i' :: dropDots rest
  | c :: rest => c :: dropDots rest
  | [] => []

def caseFoldTr (loc : Locale) (text : String) : String :=
  String.ofList (dropDots (text.toList.flatMap fun c =>
    if c = 'İ' then ['i'] else if c = 'I' then ['ı'] else loc.toLowercase c))

/-- `sort` of the standard library. -/
def sorted (values : List String) : List String := values.insertionSort (· ≤ ·)

/-- `ORDER BY` of the database. -/
def Locale.orderBy (loc : Locale) (values : List String) : List String :=
  (sorted values).insertionSort fun a b => loc.collate a b = true

def maxSettingsListLen : ℕ := 20
def maxSettingsItemLen : ℕ := 50
def minExamKindWeight : ℤ := 1
def maxExamKindWeight : ℤ := 100
def maxMealServingMinute : ℤ := 1439
def minMark : ℤ := 0
def maxMark : ℤ := 100
def maxGradeBands : ℕ := 20
def maxGradeLabelLen : ℕ := 20

structure ExamKindDef where
  name : String
  weight : ℤ
  deriving DecidableEq

structure GradeBand where
  min : ℤ
  label : String
  deriving DecidableEq

/-- A trimmed entry of 1 to `max` characters. -/
def isEntry (max : ℕ) (entry : String) : Bool := entry.length != 0 && entry.length ≤ max

def inRange (field : String) (value least greatest : ℤ) (reason : String) :
    Except ValidationError Unit :=
  Gate.ensure (least ≤ value && value ≤ greatest) (.invalid field reason)

def inRangeIfSet (field : String) (value : Option ℤ) (least greatest : ℤ) (reason : String) :
    Except ValidationError Unit :=
  match value with
  | none => .ok ()
  | some value => inRange field value least greatest reason

def ExamKindDef.tryNew (name : String) (weight : ℤ) : Except ValidationError ExamKindDef := do
  Gate.ensure (isEntry maxSettingsItemLen (trim name))
    (.invalid "exam_kinds" "kind names must be 1 to 50 characters")
  inRange "exam_kinds" weight minExamKindWeight maxExamKindWeight
    "kind weights must be between 1 and 100"
  pure ⟨trim name, weight⟩

/-- `MealSlotDef::build`; a name that the stored list carries already is `kept`. -/
def buildSlot (name : String) (servingMinute : Option ℤ) (kept : Bool) :
    Except ValidationError MealSlotDef := do
  Gate.ensure (isEntry maxSettingsItemLen (trim name))
    (.invalid "meal_slots" "slot names must be 1 to 50 characters")
  Gate.ensure (kept || (trim name).toList.all Meal.isSlotChar)
    (.invalid "meal_slots" "meal slot names used for menus must not contain / \\ ? # or %")
  inRangeIfSet "meal_slots" servingMinute 0 maxMealServingMinute
    "serving minutes must be between 0 (00:00 UTC) and 1439 (23:59 UTC)"
  pure ⟨trim name, servingMinute⟩

def GradeBand.tryNew (min : ℤ) (label : String) : Except ValidationError GradeBand := do
  inRange "grade_bands" min minMark maxMark "band mins must be between 0 and 100"
  Gate.ensure (isEntry maxGradeLabelLen (trim label))
    (.invalid "grade_bands" "band labels must be 1 to 20 characters")
  pure ⟨min, trim label⟩

def validateList (loc : Locale) (field : String) (values : List String) :
    Except ValidationError (List String) := do
  Gate.ensure (!values.isEmpty) (.empty field)
  Gate.ensure (values.length ≤ maxSettingsListLen)
    (.invalid field "must contain at most 20 entries")
  Gate.ensure (values.all fun value => isEntry maxSettingsItemLen (trim value))
    (.invalid field "entries must be 1 to 50 characters")
  Gate.ensure (decide ((values.map trim).map (caseFoldTr loc)).Nodup)
    (.invalid field ("two entries are the same word apart from upper/lower case " ++
      "or Turkish letters — keep only one of them"))
  pure (values.map trim)

/-- A list that may be empty. -/
def validateListUnlessEmpty (loc : Locale) (field : String) (values : List String) :
    Except ValidationError (List String) :=
  if values.isEmpty then .ok values else validateList loc field values

/-! ## Policies -/

/-- The columns of the `settings` row. -/
structure SettingsRow where
  examKinds : List ExamKindDef
  gradeBands : List GradeBand
  maxFileBytes : Option ℤ
  chatbotHistoryTurns : Option ℤ
  maxChatbotMessageLen : Option ℤ
  maxChatbotThreads : Option ℤ
  mealSlots : Option (List MealSlotDef)
  mealCancelCutoffMinutes : Option ℤ
  branches : Option (List String)
  excuseKinds : Option (List String)
  maxExcusedAbsentDays : Option ℤ
  maxUnexcusedAbsentDays : Option ℤ
  timezone : Option String
  deriving DecidableEq

structure Settings extends SettingsRow where
  attendanceStatuses : List String
  dietaryTags : Option (List String)

structure SettingsParams where
  examKinds : List ExamKindDef
  attendanceStatuses : List String
  gradeBands : List GradeBand
  maxFileBytes : ℤ
  chatbotHistoryTurns : ℤ
  maxChatbotThreads : ℤ
  maxChatbotMessageLen : ℤ
  mealSlots : List MealSlotDef
  dietaryTags : List String
  mealCancelCutoffMinutes : Option ℤ
  branches : List String
  excuseKinds : List String
  maxExcusedAbsentDays : Option ℤ
  maxUnexcusedAbsentDays : Option ℤ
  timezone : Option String

def defaultExamKinds : List ExamKindDef := [⟨"yazili", 1⟩, ⟨"sozlu", 1⟩, ⟨"uygulama", 1⟩]

def defaultAttendanceStatuses : List String := ["present", "absent", "late", "excused"]

def defaultGradeBands : List GradeBand :=
  [⟨85, "5"⟩, ⟨70, "4"⟩, ⟨55, "3"⟩, ⟨45, "2"⟩, ⟨0, "1"⟩]

def defaultMealSlots : List MealSlotDef := [⟨"breakfast", none⟩, ⟨"lunch", none⟩, ⟨"snack", none⟩]

def defaultDietaryTags : List String :=
  ["vegetarian", "vegan", "gluten_free", "lactose_free", "nut_allergy"]

def defaultMaxFileBytes : ℤ := 5 * 1024 * 1024
def minMaxFileBytes : ℤ := 1024
def maxMaxFileBytes : ℤ := 25 * 1024 * 1024
def defaultChatbotHistoryTurns : ℤ := 10
def minChatbotHistoryTurns : ℤ := 1
def maxChatbotHistoryTurns : ℤ := 50
def defaultMaxChatbotThreads : ℤ := 50
def minMaxChatbotThreads : ℤ := 1
def maxMaxChatbotThreads : ℤ := 500
def defaultMaxChatbotMessageLen : ℤ := 4000
def minMaxChatbotMessageLen : ℤ := 100
def maxMaxChatbotMessageLen : ℤ := 8000
def maxMealCancelCutoffMinutes : ℤ := 7 * 24 * 60
def maxAbsenceDays : ℤ := 365
def timezones : List String := ["Europe/Istanbul", "UTC"]

namespace Settings

def defaults : Settings :=
  { examKinds := defaultExamKinds
    attendanceStatuses := sorted defaultAttendanceStatuses
    gradeBands := defaultGradeBands
    maxFileBytes := none
    chatbotHistoryTurns := none
    maxChatbotThreads := none
    maxChatbotMessageLen := none
    mealSlots := none
    dietaryTags := none
    mealCancelCutoffMinutes := none
    branches := none
    excuseKinds := none
    maxExcusedAbsentDays := none
    maxUnexcusedAbsentDays := none
    timezone := none }

def getMealSlots (settings : Settings) : List MealSlotDef :=
  settings.mealSlots.getD defaultMealSlots

def getDietaryTags (settings : Settings) : List String :=
  settings.dietaryTags.getD defaultDietaryTags

def params (settings : Settings) : SettingsParams :=
  { examKinds := settings.examKinds
    attendanceStatuses := settings.attendanceStatuses
    gradeBands := settings.gradeBands
    maxFileBytes := settings.maxFileBytes.getD defaultMaxFileBytes
    chatbotHistoryTurns := settings.chatbotHistoryTurns.getD defaultChatbotHistoryTurns
    maxChatbotThreads := settings.maxChatbotThreads.getD defaultMaxChatbotThreads
    maxChatbotMessageLen := settings.maxChatbotMessageLen.getD defaultMaxChatbotMessageLen
    mealSlots := settings.getMealSlots
    dietaryTags := settings.getDietaryTags
    mealCancelCutoffMinutes := settings.mealCancelCutoffMinutes
    branches := settings.branches.getD []
    excuseKinds := settings.excuseKinds.getD []
    maxExcusedAbsentDays := settings.maxExcusedAbsentDays
    maxUnexcusedAbsentDays := settings.maxUnexcusedAbsentDays
    timezone := settings.timezone }

def tryNew (loc : Locale) (params : SettingsParams) : Except ValidationError Settings := do
  inRange "max_file_bytes" params.maxFileBytes minMaxFileBytes maxMaxFileBytes
    "must be between 1024 (1 KiB) and 26214400 (25 MiB)"
  inRange "chatbot_history_turns" params.chatbotHistoryTurns minChatbotHistoryTurns
    maxChatbotHistoryTurns "must be between 1 and 50"
  inRange "max_chatbot_threads" params.maxChatbotThreads minMaxChatbotThreads
    maxMaxChatbotThreads "must be between 1 and 500"
  inRange "max_chatbot_message_len" params.maxChatbotMessageLen minMaxChatbotMessageLen
    maxMaxChatbotMessageLen "must be between 100 and 8000 characters"
  let _ ← validateList loc "exam_kinds" (params.examKinds.map ExamKindDef.name)
  let attendanceStatuses ← validateList loc "attendance_statuses" params.attendanceStatuses
  Gate.ensure (defaultAttendanceStatuses.all fun core => attendanceStatuses.contains core)
    (.invalid "attendance_statuses"
      "must keep the core statuses: present, absent, late, excused")
  Gate.ensure (params.gradeBands.length ≤ maxGradeBands)
    (.invalid "grade_bands" "must contain at most 20 bands")
  Gate.ensure (decide (params.gradeBands.map GradeBand.min).Nodup)
    (.invalid "grade_bands" "band mins must be unique")
  Gate.ensure (params.gradeBands.isEmpty || (params.gradeBands.map GradeBand.min).contains minMark)
    (.invalid "grade_bands" "one band must start at 0 so every mark gets a label")
  let _ ← validateListUnlessEmpty loc "meal_slots" (params.mealSlots.map MealSlotDef.name)
  let dietaryTags ← validateListUnlessEmpty loc "dietary_tags" params.dietaryTags
  inRangeIfSet "meal_cancel_cutoff_minutes" params.mealCancelCutoffMinutes 0
    maxMealCancelCutoffMinutes "must be between 0 and 10080 (one week) minutes"
  let branches ← validateListUnlessEmpty loc "branches" params.branches
  let excuseKinds ← validateListUnlessEmpty loc "excuse_kinds" params.excuseKinds
  inRangeIfSet "max_excused_absent_days" params.maxExcusedAbsentDays 0 maxAbsenceDays
    "must be between 0 and 365 days"
  inRangeIfSet "max_unexcused_absent_days" params.maxUnexcusedAbsentDays 0 maxAbsenceDays
    "must be between 0 and 365 days"
  Gate.ensure (params.timezone.all fun tz => timezones.contains tz)
    (.invalid "timezone" "is not a supported timezone (see GET /limits)")
  pure
    { examKinds := params.examKinds
      attendanceStatuses := attendanceStatuses
      gradeBands := params.gradeBands.insertionSort fun a b => b.min ≤ a.min
      maxFileBytes := some params.maxFileBytes
      chatbotHistoryTurns := some params.chatbotHistoryTurns
      maxChatbotThreads := some params.maxChatbotThreads
      maxChatbotMessageLen := some params.maxChatbotMessageLen
      mealSlots := some params.mealSlots
      dietaryTags := some dietaryTags
      mealCancelCutoffMinutes := params.mealCancelCutoffMinutes
      branches := some branches
      excuseKinds := some excuseKinds
      maxExcusedAbsentDays := params.maxExcusedAbsentDays
      maxUnexcusedAbsentDays := params.maxUnexcusedAbsentDays
      timezone := params.timezone }

end Settings

end Hezarfen.SchoolSettings
