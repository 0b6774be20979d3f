import Hezarfen.Interleaving
import Hezarfen.ExamCalls
import Hezarfen.SettingsStore

/-!
# The settings PATCH beside grading and publishing

A turn of the PATCH reads the policy, merges, and opens a transaction that switches the
names its lists drop or take back, one row lock at a time, before the guarded save.  What
the transaction wrote is seen by others once it commits, with the save, so it is applied
there; until then the locks keep the counters as the switches found them.
-/

namespace Hezarfen.SchoolSettings

open Interleaving
open Meal (MealSlotDef)
open Exams (GradeArgs)

def casUpdateRetries : ℕ := 3

structure Edit where
  patch : SettingsPatch
  round : ℕ
  tries : ℕ
  current : Settings
  settings : Settings

structure MenuArgs where
  date : Meal.MenuDate
  slot : String
  capacity : Option ℤ
  createdBy : UserId

structure World where
  now : Timestamp
  /-- The verdict of the gates that read tables not modelled here. -/
  gates : Option AppError
  /-- The store breaks a deadlock by aborting this transaction. -/
  deadlock : Bool

inductive Request where
  | apply (patch : SettingsPatch)
  | grade (args : GradeArgs)
  | removeResult (exam : Exams.ExamId) (user : UserId)
  | createMenu (args : MenuArgs)
  | deleteMenu (menu : Meal.MenuId)

inductive Point where
  | load (patch : SettingsPatch) (round : ℕ)
  | switch (edit : Edit) (rest : List Switch)
  | save (edit : Edit)
  | write (edit : Edit) (seen : Snapshot)
  | gradeExam (args : GradeArgs)
  | gradeKinds (args : GradeArgs) (exam : Exams.Exam)
  | gradeSeq (args : GradeArgs) (exam : Exams.Exam)
  | gradeTx (result : Exams.ExamResult) (kind : String)
  | removeExam (exam : Exams.ExamId) (user : UserId)
  | removeTx (exam : Exams.ExamId) (user : UserId) (kind : String)
  | menuSlots (args : MenuArgs)
  | menuTx (args : MenuArgs) (slot : Meal.MenuSlot)
  | menuRead (menu : Meal.MenuId)
  | menuDelete (menu : Meal.Menu)

inductive Answer where
  | settings (settings : Settings)
  | result (result : Exams.ExamResult)
  | menu (menu : Meal.Menu)

abbrev Reply := Next Point (Except AppError Answer)

def refuse (e : AppError) : Reply := .answer (.error e)

def gated (w : World) (next : Reply) : Reply :=
  match w.gates with
  | none => next
  | some e => refuse e

/-! ## The PATCH -/

def proceed (edit : Edit) : List Switch → Reply
  | [] => .goto (.save edit)
  | switch :: rest => .goto (.switch edit (switch :: rest))

def load (loc : Locale) (s : Db) (patch : SettingsPatch) (round : ℕ) : Reply :=
  let current := s.load loc
  match merge loc current patch with
  | .error e => refuse (.validation e)
  | .ok settings => proceed ⟨patch, round, 0, current, settings⟩ (switches current settings)

/-- An aborted transaction is sent again as it is, a few times. -/
def again (s : Db) (id : ℕ) (edit : Edit) : Db × Reply :=
  if edit.tries + 1 < capWriteTries then
    (s.release id,
      proceed { edit with tries := edit.tries + 1 } (switches edit.current edit.settings))
  else (s.release id, refuse .db)

def switchOne (s : Db) (w : World) (id : ℕ) (edit : Edit) (switch : Switch)
    (rest : List Switch) : Option (Db × Reply) :=
  if w.deadlock then some (again s id edit)
  else if s.heldByOther id switch.ref then none
  else if s.refuses switch then some (s.release id, refuse (retireError switch.ref))
  else some ({ s with locks := s.locks.insert switch.ref id }, proceed edit rest)

def stale (s : Db) (id : ℕ) (edit : Edit) : Db × Reply :=
  (s.release id,
    if edit.round + 1 < casUpdateRetries then .goto (.load edit.patch (edit.round + 1))
    else refuse (.conflict "the settings kept changing underneath this update — try again"))

def write (loc : Locale) (s : Db) (id : ℕ) (edit : Edit) (seen : Snapshot) : Db × Reply :=
  match s.saveIfUnchanged loc seen edit.settings edit.current with
  | .stale => stale s id edit
  | .violation => (s.release id, refuse .db)
  | .saved s' =>
      (((switches edit.current edit.settings).foldl Db.flip s').release id,
        .answer (.ok (.settings (edit.settings.reloaded loc))))

def gradeExam (s : Db) (w : World) (args : GradeArgs) : Reply :=
  match s.exams.readExam args.exam with
  | none => refuse .notFound
  | some exam =>
      gated w (if exam.draft then refuse Exams.draftError else .goto (.gradeKinds args exam))

def gradeKinds (loc : Locale) (s : Db) (args : GradeArgs) (exam : Exams.Exam) : Reply :=
  if ((s.load loc).listed .kind).contains exam.kind then .goto (.gradeSeq args exam)
  else refuse (Exams.retiredKindError exam.kind)

def gradeSeq (s : Db) (w : World) (args : GradeArgs) (exam : Exams.Exam) : Reply :=
  match Exams.Mark.tryNew args.mark with
  | .error e => refuse (.validation e)
  | .ok mark =>
      if args.target = args.grader then refuse (.forbidden "grading yourself is not allowed")
      else
        let seq := (s.exams.readLatestForUser args.exam args.target).elim 1 Exams.ExamAttempt.seq
        gated w (.goto (.gradeTx ⟨args.exam, args.target, seq, mark, args.grader⟩ exam.kind))

def Db.claimsKind (s : Db) (result : Exams.ExamResult) : Bool :=
  ((s.exams.exam.lookup result.exam).any fun row => !row.exam.draft) &&
    (s.exams.examResult.lookup result.id).isNone

def gradeTx (s : Db) (result : Exams.ExamResult) (kind : String) : Option (Db × Reply) :=
  if s.claimsKind result && s.isHeld ⟨.kind, kind⟩ then none
  else
    let r := txWithRetry (Exams.gradeTx result kind) s.exams
    some ({ s with exams := r.2 }, .answer (r.1.map .result))

def removeExam (s : Db) (w : World) (exam : Exams.ExamId) (user : UserId) : Reply :=
  match s.exams.readExam exam with
  | none => refuse .notFound
  | some row => gated w (.goto (.removeTx exam user row.kind))

def removeTx (s : Db) (exam : Exams.ExamId) (user : UserId) (kind : String) :
    Option (Db × Reply) :=
  if !(s.exams.marksOf exam user).isEmpty && s.isHeld ⟨.kind, kind⟩ then none
  else
    let r := txWithRetry (Exams.removeTx exam user kind) s.exams
    some ({ s with exams := r.2 },
      .answer (r.1.bind fun gone => Gate.found (gone.map .result) .notFound))

/-- `MenuSlot::try_new` -/
def menuSlot (value : String) (allowed : List MealSlotDef) :
    Except ValidationError Meal.MenuSlot :=
  if !(slotNames allowed).contains (trim value) then
    .error (.invalid "slot" "not one of the school's meal slots (see GET /settings)")
  else if h : (trim value).toList.all Meal.isSlotChar = true then .ok ⟨trim value, h⟩
  else
    .error (.invalid "slot" "meal slot names used for menus must not contain / \\ ? # or %")

def menuSlots (loc : Locale) (s : Db) (w : World) (args : MenuArgs) : Reply :=
  match menuSlot args.slot (s.load loc).getMealSlots with
  | .error e => refuse (.validation e)
  | .ok slot => gated w (.goto (.menuTx args slot))

def menuTx (s : Db) (w : World) (args : MenuArgs) (slot : Meal.MenuSlot) :
    Option (Db × Reply) :=
  if (s.meals.menu.lookup (.forSlot args.date slot)).isNone && s.isHeld ⟨.slot, slot.asStr⟩ then
    none
  else
    let r := txWithRetry (Meal.createMenu args.date slot args.capacity args.createdBy w.now) s.meals
    some ({ s with meals := r.2 }, .answer (r.1.map .menu))

def menuRead (s : Db) (w : World) (menu : Meal.MenuId) : Reply :=
  match s.meals.readMenu menu with
  | none => refuse .notFound
  | some menu => gated w (.goto (.menuDelete menu))

/-- A refused delete reads again, to tell a booked menu from one that is gone. -/
def menuDelete (s : Db) (menu : Meal.Menu) : Option (Db × Reply) :=
  if ((s.meals.menu.lookup menu.id).any fun row => row.seatsBooked = 0) &&
      s.isHeld ⟨.slot, menu.slot.asStr⟩ then
    none
  else
    let r := txWithRetry (Meal.deleteMenu menu) s.meals
    some ({ s with meals := r.2 },
      .answer (r.1.bind fun gone => Gate.found (gone.map .menu)
        (if (r.2.readMenu menu.id).isSome then .conflict "the menu still has live bookings"
          else .notFound)))

def next (loc : Locale) (id : ℕ) (s : Db) (p : Point) (w : World) : Option (Db × Reply) :=
  match p with
  | .load patch round => some (s, load loc s patch round)
  | .switch edit [] => some (s, proceed edit [])
  | .switch edit (switch :: rest) => switchOne s w id edit switch rest
  | .save edit => some (s, .goto (.write edit s.snapshot))
  | .write edit seen => some (if w.deadlock then again s id edit else write loc s id edit seen)
  | .gradeExam args => some (s, gradeExam s w args)
  | .gradeKinds args exam => some (s, gradeKinds loc s args exam)
  | .gradeSeq args exam => some (s, gradeSeq s w args exam)
  | .gradeTx result kind => gradeTx s result kind
  | .removeExam exam user => some (s, removeExam s w exam user)
  | .removeTx exam user kind => removeTx s exam user kind
  | .menuSlots args => some (s, menuSlots loc s w args)
  | .menuTx args slot => menuTx s w args slot
  | .menuRead menu => some (s, menuRead s w menu)
  | .menuDelete menu => menuDelete s menu

def entry : Request → Point
  | .apply patch => .load patch 0
  | .grade args => .gradeExam args
  | .removeResult exam user => .removeExam exam user
  | .createMenu args => .menuSlots args
  | .deleteMenu menu => .menuRead menu

def machine (loc : Locale) : Machine Db Point Request World (Except AppError Answer) where
  entry := entry
  next := next loc
  rollback := fun id s => s.release id

def start (stored : Option { settings : Settings // settings.WellFormed })
    (exam : Table Exams.ExamId Exams.ExamRow) (appUser : Table UserId Exams.AppUser) :
    Config Db Point :=
  .initial (.initial stored exam appUser)

end Hezarfen.SchoolSettings
