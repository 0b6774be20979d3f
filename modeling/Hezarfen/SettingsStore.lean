import Hezarfen.ExamStore
import Hezarfen.MealStore
import Hezarfen.SettingsMerge

/-!
# The settings tables and the guarded save

The policy is one row with two child tables, the vocabularies.  The names on its lists have
reference counters next to the exams and the menus.  The save is one statement: it sees the
child tables as they were when it started, and the row as it is once its lock is free.
-/

namespace Hezarfen.SchoolSettings


inductive RefTable where
  | kind
  | slot
  deriving DecidableEq

/-- A row of `kind_ref` or of `slot_ref`, by its name. -/
structure NameRef where
  table : RefTable
  name : String
  deriving DecidableEq

structure Ref where
  count : ℤ
  retired : Bool

abbrev Vocabulary := Table String ℕ

structure Db where
  settings : Option SettingsRow
  settingsAttendanceStatus : Vocabulary
  settingsDietaryTag : Vocabulary
  /-- How many saves have landed. -/
  saves : ℕ
  exams : Exams.Db
  meals : Meal.Db
  /-- The counter rows that the transaction of a PATCH holds, with the number of its call. -/
  locks : Table NameRef ℕ

def vocabularyOf (entries : List String) : Vocabulary :=
  entries.foldr (fun entry rows => rows.insert entry 0) ∅

def Db.initial (stored : Option { settings : Settings // settings.WellFormed })
    (exam : Table Exams.ExamId Exams.ExamRow) (appUser : Table UserId Exams.AppUser) : Db :=
  { settings := stored.map fun settings => settings.1.toSettingsRow
    settingsAttendanceStatus :=
      vocabularyOf (stored.elim [] fun settings => settings.1.attendanceStatuses)
    settingsDietaryTag :=
      vocabularyOf (stored.elim [] fun settings => settings.1.dietaryTags.getD [])
    saves := 0
    exams := { Exams.Db.empty with exam := exam, appUser := appUser }
    meals := .empty
    locks := ∅ }

/-- `array_agg(… ORDER BY …)`, which is NULL over no row. -/
def arrayAgg (loc : Locale) (entries : List String) : Option (List String) :=
  if entries.isEmpty then none else some (loc.orderBy entries)

/-- The stored policy, or the defaults when no row exists yet. -/
def Db.load (loc : Locale) (s : Db) : Settings :=
  match s.settings with
  | none => .defaults
  | some row =>
      { row with
        attendanceStatuses := (arrayAgg loc s.settingsAttendanceStatus.keys).getD []
        dietaryTags := arrayAgg loc s.settingsDietaryTag.keys }

structure Snapshot where
  statuses : Vocabulary
  tags : Vocabulary

def Db.snapshot (s : Db) : Snapshot := ⟨s.settingsAttendanceStatus, s.settingsDietaryTag⟩

/-- The guard of the save.  Where no row exists the statement inserts one unasked; otherwise
each column has to be the expected one, and the child tables under the snapshot. -/
def Db.unchanged (loc : Locale) (s : Db) (seen : Snapshot) (expected : Settings) : Bool :=
  match s.settings with
  | none => true
  | some row =>
      decide (row = expected.toSettingsRow) &&
        decide ((arrayAgg loc seen.statuses.keys).getD [] = sorted expected.attendanceStatuses) &&
        decide (arrayAgg loc seen.tags.keys =
          expected.dietaryTags.filter fun tags => !tags.isEmpty)

/-- `none` is a violation of the primary key. -/
def insertAll (xmin : ℕ) : List String → Vocabulary → Option Vocabulary
  | [], rows => some rows
  | entry :: entries, rows =>
      if (rows.lookup entry).isSome then none
      else insertAll xmin entries (rows.insert entry xmin)

/-- The wholesale rewrite of a child table.  The delete reaches the rows of the snapshot; a
row that a rival has written since stays. -/
def rewrite (xmin : ℕ) (rows seen : Vocabulary) (entries : List String) : Option Vocabulary :=
  insertAll xmin entries
    (Table.deleteWhere rows fun entry version => seen.lookup entry = some version)

inductive Save where
  | stale
  /-- An entry that the rewrite inserts is there already. -/
  | violation
  | saved (s : Db)

def Db.saveIfUnchanged (loc : Locale) (s : Db) (seen : Snapshot) (settings expected : Settings) :
    Save :=
  if s.unchanged loc seen expected then
    match rewrite (s.saves + 1) s.settingsAttendanceStatus seen.statuses
        (sorted settings.attendanceStatuses),
      rewrite (s.saves + 1) s.settingsDietaryTag seen.tags (settings.dietaryTags.getD []) with
    | some statuses, some tags =>
        .saved
          { s with
            settings := some settings.toSettingsRow
            settingsAttendanceStatus := statuses
            settingsDietaryTag := tags
            saves := s.saves + 1 }
    | _, _ => .violation
  else .stale

def Settings.reloaded (loc : Locale) (settings : Settings) : Settings :=
  { settings with
    attendanceStatuses := (arrayAgg loc settings.attendanceStatuses).getD []
    dietaryTags := arrayAgg loc (settings.dietaryTags.getD []) }

def Db.ref (s : Db) (ref : NameRef) : Option Ref :=
  match ref.table with
  | .kind => (s.exams.kindRef.lookup ref.name).map fun row => ⟨row.count, row.retired⟩
  | .slot => (s.meals.slotRef.lookup ref.name).map fun row => ⟨row.count, row.retired⟩

def Db.setRef (s : Db) (ref : NameRef) (row : Ref) : Db :=
  match ref.table with
  | .kind =>
      { s with
        exams := { s.exams with
          kindRef := s.exams.kindRef.insert ref.name ⟨row.count, row.retired⟩ } }
  | .slot =>
      { s with
        meals := { s.meals with
          slotRef := s.meals.slotRef.insert ref.name ⟨row.count, row.retired⟩ } }

/-- The upsert of `retire_kind` and `retire_slot`. -/
def retired : Option Ref → Ref
  | none => ⟨0, true⟩
  | some row => if row.count = 0 ∧ row.retired = false then { row with retired := true } else row

/-- The upsert of `unretire_kind` and `unretire_slot`. -/
def unretired : Option Ref → Ref
  | none => ⟨0, false⟩
  | some row => { row with retired := false }

structure Switch where
  ref : NameRef
  off : Bool

def Db.flip (s : Db) (switch : Switch) : Db :=
  s.setRef switch.ref (if switch.off then retired (s.ref switch.ref)
    else unretired (s.ref switch.ref))

def Db.refuses (s : Db) (switch : Switch) : Bool :=
  switch.off && (s.ref switch.ref).any fun row => 0 < row.count

def retireError (ref : NameRef) : AppError :=
  match ref.table with
  | .kind =>
      .conflictOwned ("exams of kind '" ++ ref.name ++
        "' are already graded — the kind cannot be removed")
  | .slot =>
      .conflictOwned ("menus are already published for the '" ++ ref.name ++
        "' slot — it cannot be removed")

def switchAll (table : RefTable) (off : Bool) (names : List String) : List Switch :=
  names.map fun name => ⟨⟨table, name⟩, off⟩

/-- What the edit from `current` to `settings` takes out of service and puts back. -/
def switches (current settings : Settings) : List Switch :=
  let wasKinds := kindNames current.examKinds
  let nowKinds := kindNames settings.examKinds
  let wasSlots := slotNames current.getMealSlots
  let nowSlots := slotNames settings.getMealSlots
  switchAll .kind true (missing wasKinds nowKinds) ++
    switchAll .slot true (missing wasSlots nowSlots) ++
    switchAll .kind false (missing nowKinds wasKinds) ++
    switchAll .slot false (missing nowSlots wasSlots)

def Settings.listed (settings : Settings) : RefTable → List String
  | .kind => kindNames settings.examKinds
  | .slot => slotNames settings.getMealSlots

def Db.isRetired (s : Db) (ref : NameRef) : Bool := (s.ref ref).any Ref.retired

def Db.refCount (s : Db) (ref : NameRef) : ℤ := (s.ref ref).elim 0 Ref.count

/-- Another call holds the row. -/
def Db.heldByOther (s : Db) (id : ℕ) (ref : NameRef) : Bool :=
  (s.locks.lookup ref).any fun holder => holder != id

def Db.isHeld (s : Db) (ref : NameRef) : Bool := (s.locks.lookup ref).isSome

def Db.release (s : Db) (id : ℕ) : Db :=
  { s with locks := Table.deleteWhere s.locks fun _ holder => holder = id }

end Hezarfen.SchoolSettings
