import Hezarfen.Interleaving
import Hezarfen.Domain
import Mathlib.Data.Finset.Basic
import Mathlib.Data.List.Sort
import Mathlib.Data.String.Basic

/-!
# What a school has bought

Builders sell a school its modules.  Each call reads the modules the school has, decides,
and then writes a whole set: the write locks the school row, deletes every module of the
school and inserts the new ones, so it is one step.  The read is a statement of its own.
-/

namespace Hezarfen.Entitlements

open Interleaving

inductive Module where
  | chatbot | notes | messages | events | appointments | courses | courseNotes | classes
  | sessions | exams | marks | meals | payments | work | pomodoro | questions | bankQuestions
  | attendance | subjects | homework | boards
  deriving DecidableEq

inductive Package where
  | academics | communication | operations | ai
  deriving DecidableEq

def Module.all : List Module :=
  [.chatbot, .notes, .messages, .events, .appointments, .courses, .courseNotes, .classes,
    .sessions, .exams, .marks, .meals, .payments, .work, .pomodoro, .questions, .bankQuestions,
    .attendance, .subjects, .homework, .boards]

def Module.asStr : Module → String
  | .chatbot => "chatbot"
  | .notes => "notes"
  | .messages => "messages"
  | .events => "events"
  | .appointments => "appointments"
  | .courses => "courses"
  | .courseNotes => "course_notes"
  | .classes => "classes"
  | .sessions => "sessions"
  | .exams => "exams"
  | .marks => "marks"
  | .meals => "meals"
  | .payments => "payments"
  | .work => "work"
  | .pomodoro => "pomodoro"
  | .questions => "questions"
  | .bankQuestions => "bank_questions"
  | .attendance => "attendance"
  | .subjects => "subjects"
  | .homework => "homework"
  | .boards => "boards"

def Module.tryFromStr (value : String) : Except ValidationError Module :=
  match Module.all.find? fun entry => entry.asStr = value with
  | some entry => .ok entry
  | none => .error (.unknown "module" value)

def Module.requires : Module → List Module
  | .subjects => [.courses]
  | .courseNotes => [.courses]
  | .sessions => [.courses]
  | .exams => [.courses, .subjects]
  | .homework => [.courses, .subjects]
  | .classes => [.courses]
  | .marks => [.exams]
  | .attendance => [.events, .sessions]
  | _ => []

def Module.package : Module → Package
  | .courses | .subjects | .sessions | .exams | .marks | .homework | .classes | .courseNotes
  | .attendance | .bankQuestions => .academics
  | .notes | .messages | .events | .appointments | .questions | .boards => .communication
  | .meals | .payments | .work | .pomodoro => .operations
  | .chatbot => .ai

def Module.dependents (entry : Module) : List Module :=
  Module.all.filter fun other => entry ∈ other.requires

def Package.all : List Package := [.academics, .communication, .operations, .ai]

def Package.asStr : Package → String
  | .academics => "academics"
  | .communication => "communication"
  | .operations => "operations"
  | .ai => "ai"

def Package.tryFromStr (value : String) : Except ValidationError Package :=
  match Package.all.find? fun entry => entry.asStr = value with
  | some entry => .ok entry
  | none => .error (.unknown "package" value)

def Package.modules (package : Package) : List Module :=
  Module.all.filter fun entry => entry.package = package

abbrev ModuleSet := Finset Module

namespace ModuleSet

def iter (set : ModuleSet) : List Module := Module.all.filter fun entry => entry ∈ set

def insertAll (set : ModuleSet) (entries : List Module) : ModuleSet :=
  entries.foldl (fun acc entry => insert entry acc) set

def removeAll (set : ModuleSet) (entries : List Module) : ModuleSet :=
  entries.foldl (fun acc entry => acc.erase entry) set

def fromNames (names : List String) : Except ValidationError ModuleSet :=
  names.foldlM (fun set name => (Module.tryFromStr name).map fun entry => insert entry set) ∅

def sorted (names : List String) : List String :=
  names.insertionSort fun a b => a.toList ≤ b.toList

def names (set : ModuleSet) : List String := sorted (set.iter.map Module.asStr)

def missingRequirements (set : ModuleSet) : List (Module × Module) :=
  set.iter.flatMap fun entry =>
    (entry.requires.filter fun needed => needed ∉ set).map fun needed => (entry, needed)

def validate (set : ModuleSet) : Except AppError Unit :=
  if set.missingRequirements.isEmpty then .ok ()
  else
    .error (.conflictOwned ("; ".intercalate (set.missingRequirements.map fun pair =>
      pair.1.asStr ++ " requires " ++ pair.2.asStr ++ ", which is not enabled")))

end ModuleSet

structure School where
  modules : List String

def School.moduleSet (school : School) : ModuleSet :=
  school.modules.foldl
    (fun set name =>
      match Module.tryFromStr name with
      | .ok entry => insert entry set
      | .error _ => set) ∅

structure Db where
  school : Table SchoolId School

structure ModulesResponse where
  enabled : List String
  disabled : List String

def ModulesResponse.new (modules : ModuleSet) : ModulesResponse where
  enabled := modules.names
  disabled := ModuleSet.sorted
    ((Module.all.filter fun entry => entry ∉ modules).map Module.asStr)

structure PatchModules where
  enable : Option (List String)
  disable : Option (List String)
  enablePackages : Option (List String)
  disablePackages : Option (List String)

/-- The modules one direction asks for. -/
def side (modules packages : Option (List String)) : Except ValidationError ModuleSet := do
  let set ← ModuleSet.fromNames (modules.getD [])
  (packages.getD []).foldlM
    (fun set name => (Package.tryFromStr name).map fun package => set.insertAll package.modules)
    set

inductive Request where
  | enable (id : SchoolId) (name : String)
  | disable (id : SchoolId) (name : String)
  | patch (id : SchoolId) (req : PatchModules)

structure Change where
  enable : ModuleSet
  disable : ModuleSet
  deriving DecidableEq

def Change.apply (change : Change) (set : ModuleSet) : ModuleSet :=
  (set.insertAll change.enable.iter).removeAll change.disable.iter

inductive Kind where
  | enable (entry : Module)
  | disable (entry : Module)
  | patch (change : Change)

def Kind.change : Kind → Change
  | .enable entry => ⟨{entry}, ∅⟩
  | .disable entry => ⟨∅, {entry}⟩
  | .patch change => change

inductive Point where
  | parse (request : Request)
  | schoolModules (id : SchoolId) (kind : Kind)
  /-- With the set the call read and the set it made of it. -/
  | storeModules (id : SchoolId) (kind : Kind) (current modules : ModuleSet)

abbrev Reply := Next Point (Except AppError ModulesResponse)

def refuse (e : AppError) : Reply := .answer (.error e)

def done (modules : ModuleSet) : Reply := .answer (.ok (.new modules))

def goto (p : Point) : Reply := .goto p

/-- A module named in the path. -/
def pathModule (name : String) (found : Module → Reply) : Reply :=
  match Module.tryFromStr name with
  | .error _ => refuse .notFound
  | .ok entry => found entry

/-- A name that is pulled both ways is refused before anything is read. -/
def parsePatch (req : PatchModules) : Except ValidationError Change := do
  let enable ← side req.enable req.enablePackages
  let disable ← side req.disable req.disablePackages
  match (ModuleSet.iter enable).find? fun entry => entry ∈ disable with
  | some entry => .error (.contradictory "module" entry.asStr)
  | none => .ok ⟨enable, disable⟩

def parse : Request → Reply
  | .enable id name => pathModule name fun entry => goto (.schoolModules id (.enable entry))
  | .disable id name => pathModule name fun entry => goto (.schoolModules id (.disable entry))
  | .patch id req =>
      match parsePatch req with
      | .error e => refuse (.validation e)
      | .ok change => goto (.schoolModules id (.patch change))

def refuseIfNeeded (entry : Module) (set : ModuleSet) : Except AppError Unit :=
  let neededBy := (entry.dependents.filter fun dependent => dependent ∈ set).map Module.asStr
  if neededBy.isEmpty then .ok ()
  else .error (.conflictOwned (entry.asStr ++ " is required by " ++ ", ".intercalate neededBy))

def checked (check : Except AppError Unit) (p : Point) : Reply :=
  match check with
  | .error e => refuse e
  | .ok () => goto p

def enableModule (id : SchoolId) (entry : Module) (modules : ModuleSet) : Reply :=
  if entry ∈ modules then done modules
  else
    let updated := insert entry modules
    checked updated.validate (.storeModules id (.enable entry) modules updated)

def disableModule (id : SchoolId) (entry : Module) (modules : ModuleSet) : Reply :=
  if entry ∉ modules then done modules
  else
    checked (refuseIfNeeded entry modules)
      (.storeModules id (.disable entry) modules (modules.erase entry))

def patchModules (id : SchoolId) (change : Change) (current : ModuleSet) : Reply :=
  let result := change.apply current
  match result.validate with
  | .error e => refuse e
  | .ok () =>
      if result = current then done current
      else goto (.storeModules id (.patch change) current result)

def schoolModules (s : Db) (id : SchoolId) (kind : Kind) : Reply :=
  match s.school.lookup id with
  | none => refuse .notFound
  | some school =>
      match kind with
      | .enable entry => enableModule id entry school.moduleSet
      | .disable entry => disableModule id entry school.moduleSet
      | .patch change => patchModules id change school.moduleSet

def setModules (s : Db) (id : SchoolId) (modules : ModuleSet) : Except AppError Db :=
  match modules.validate with
  | .error e => .error e
  | .ok () =>
      match s.school.lookup id with
      | none => .error .notFound
      | some _ => .ok { s with school := s.school.insert id ⟨modules.names⟩ }

def storeModules (s : Db) (id : SchoolId) (modules : ModuleSet) : Db × Reply :=
  match setModules s id modules with
  | .error e => (s, refuse e)
  | .ok s' => (s', done modules)

def next (_ : ℕ) (s : Db) (p : Point) (_ : Unit) : Option (Db × Reply) :=
  match p with
  | .parse request => some (s, parse request)
  | .schoolModules id kind => some (s, schoolModules s id kind)
  | .storeModules id _ _ modules => some (storeModules s id modules)

/-- The write is one transaction, so an abandoned call leaves nothing to undo. -/
def machine : Machine Db Point Request Unit (Except AppError ModulesResponse) where
  entry := .parse
  next := next
  rollback := fun _ s => s

/-- The modules the school has. -/
def Db.modules (s : Db) (id : SchoolId) : ModuleSet :=
  (s.school.lookup id).elim ∅ School.moduleSet

def Point.named : Point → List (SchoolId × Change)
  | .parse _ => []
  | .schoolModules id kind | .storeModules id kind _ _ => [(id, kind.change)]

def answered (c : Config Db Point) : Move Request Unit → List (SchoolId × Change)
  | .advance id w =>
      match c.calls.lookup id with
      | none => []
      | some p =>
          match next id c.shared p w with
          | some (_, .answer (.ok _)) => p.named
          | _ => []
  | _ => []

def unmoved (c : Config Db Point) : Point → Bool
  | .storeModules id kind current modules =>
      modules.validate.isOk && (c.shared.school.lookup id).isSome →
        Module.all.all fun entry =>
          entry ∈ kind.change.enable ∨ entry ∈ kind.change.disable ∨
            (entry ∈ current ↔ entry ∈ c.shared.modules id)
  | _ => true

end Hezarfen.Entitlements
