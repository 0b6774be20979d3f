import Hezarfen.Boards
import Hezarfen.Entitlements

/-!
# Bringing schools up

A school is a row of the registry and a database of its own.  A create inserts the row as
`provisioning`, brings the database up and then takes the row to `active`; a boot finishes
what an earlier one left half made.  Every statement is its own transaction, may fail, and is
the last one before a crash in some run: a crash abandons the calls in flight and undoes
nothing.
-/

namespace Hezarfen.Provisioning

open Interleaving
open Boards (validateRequired)
open Entitlements (ModuleSet)

def maxSchoolNameLen : ℕ := 120

def schoolMigrations : ℕ := 14

inductive SchoolStatus where
  | active
  | suspended
  | provisioning
  deriving DecidableEq

/-- The statuses a client may name. -/
def SchoolStatus.tryFromStr (value : String) : Except ValidationError SchoolStatus :=
  if value = "active" then .ok .active
  else if value = "suspended" then .ok .suspended
  else .error (.invalid "status" "must be one of: active, suspended")

structure School where
  name : String
  status : SchoolStatus
  createdAt : Timestamp
  modules : List String

structure Db where
  school : Table SchoolId School
  /-- The databases of the schools, with the number of migrations each has applied. -/
  database : Table SchoolId ℕ
  /-- The ids that were minted; none is minted twice. -/
  minted : List SchoolId

/-- Which call brings a school up. -/
inductive Origin where
  | create
  | reconcile (rest : List SchoolId)

inductive Request where
  | create (id : SchoolId) (name : String) (modules : ModuleSet)
  | reconcileProvisioning
  | updateSchool (id : SchoolId) (name status : Option String)
  | drop (id : SchoolId)

inductive Point where
  | create (id : SchoolId) (name : String) (modules : ModuleSet)
  | ensureDatabase (origin : Origin) (id : SchoolId)
  | schoolPool (origin : Origin) (id : SchoolId)
  | migrateSchool (origin : Origin) (id : SchoolId)
  | activate (origin : Origin) (id : SchoolId)
  | deleteModules (id : SchoolId)
  | deleteSchool (id : SchoolId)
  | dropLeftover (id : SchoolId)
  | listProvisioning
  | reconcile (rest : List SchoolId)
  | updateSchool (id : SchoolId) (name status : Option String)
  | update (id : SchoolId) (name : Option String) (status : Option SchoolStatus)
  | readDropped (id : SchoolId)
  | dropDatabase (id : SchoolId)
  | deleteRows (id : SchoolId)

structure World where
  fails : Bool
  now : Timestamp

inductive Answer where
  | done
  | school (row : School)

abbrev Reply := Next Point (Except AppError Answer)

def refuse (e : AppError) : Reply := .answer (.error e)

def done (a : Answer) : Reply := .answer (.ok a)

def create (s : Db) (w : World) (id : SchoolId) (name : String) (modules : ModuleSet) :
    Option (Db × Reply) :=
  match modules.validate with
  | .error e => some (s, refuse e)
  | .ok () =>
      if id ∈ s.minted then none
      else if w.fails then some ({ s with minted := id :: s.minted }, refuse .db)
      else
        let row : School := ⟨name, .provisioning, w.now, modules.names⟩
        some
          ({ s with
              school := s.school.insert id row
              minted := id :: s.minted },
            .goto (.ensureDatabase .create id))

def failed (origin : Origin) (id : SchoolId) : Point :=
  match origin with
  | .create => .deleteModules id
  | .reconcile rest => .reconcile rest

def ensureDatabase (s : Db) (w : World) (origin : Origin) (id : SchoolId) : Db × Reply :=
  if w.fails then (s, .goto (failed origin id))
  else if (s.database.lookup id).isSome then (s, .goto (.schoolPool origin id))
  else ({ s with database := s.database.insert id 0 }, .goto (.schoolPool origin id))

def schoolPool (s : Db) (w : World) (origin : Origin) (id : SchoolId) : Reply :=
  if w.fails || (s.database.lookup id).isNone then .goto (failed origin id)
  else .goto (.migrateSchool origin id)

/-- One migration, or the end of them. -/
def migrateSchool (s : Db) (w : World) (origin : Origin) (id : SchoolId) : Db × Reply :=
  match s.database.lookup id with
  | none => (s, .goto (failed origin id))
  | some applied =>
      if w.fails then (s, .goto (failed origin id))
      else if applied < schoolMigrations then
        ({ s with database := s.database.insert id (applied + 1) },
          .goto (.migrateSchool origin id))
      else (s, .goto (.activate origin id))

def Db.setStatus (s : Db) (id : SchoolId) (status : SchoolStatus) : Db :=
  { s with
    school := Table.update s.school fun key row =>
      if key = id then { row with status := status } else row }

/-- What follows when the school is up. -/
def finished : Origin → Reply
  | .create => done .done
  | .reconcile rest => .goto (.reconcile rest)

/-- `UPDATE school SET status = 'active' WHERE id = …` -/
def activate (s : Db) (w : World) (origin : Origin) (id : SchoolId) : Db × Reply :=
  if w.fails then (s, .goto (failed origin id))
  else (s.setStatus id .active, finished origin)

def Db.clearModules (s : Db) (id : SchoolId) : Db :=
  { s with
    school := Table.update s.school fun key row =>
      if key = id then { row with modules := [] } else row }

def deleteModules (s : Db) (w : World) (id : SchoolId) : Db × Reply :=
  (if w.fails then s else s.clearModules id, .goto (.deleteSchool id))

def deleteSchool (s : Db) (w : World) (id : SchoolId) : Db × Reply :=
  (if w.fails then s else { s with school := s.school.erase id }, .goto (.dropLeftover id))

def dropLeftover (s : Db) (w : World) (id : SchoolId) : Db × Reply :=
  (if w.fails then s else { s with database := s.database.erase id }, refuse .db)

/-- The rows that still say `provisioning`, the oldest first. -/
def provisioning (s : Db) : List SchoolId :=
  (((s.school.entries.filter fun row => row.2.status = .provisioning).insertionSort
    fun a b => a.2.createdAt ≤ b.2.createdAt).map Sigma.fst)

def listProvisioning (s : Db) (w : World) : Reply :=
  if w.fails then refuse .db else .goto (.reconcile (provisioning s))

def reconcile : List SchoolId → Reply
  | [] => done .done
  | id :: rest => .goto (.ensureDatabase (.reconcile rest) id)

/-! ## Builders -/

def schoolName (value : String) : Except ValidationError String :=
  (validateRequired "name" value maxSchoolNameLen).map fun _ => SchoolSettings.trim value

def parsed {α : Type} (parse : String → Except ValidationError α) :
    Option String → Except ValidationError (Option α)
  | none => .ok none
  | some value => (parse value).map some

def updateSchool (id : SchoolId) (name status : Option String) : Reply :=
  match parsed schoolName name with
  | .error e => refuse (.validation e)
  | .ok name =>
      match parsed SchoolStatus.tryFromStr status with
      | .error e => refuse (.validation e)
      | .ok status => .goto (.update id name status)

/-- `name = COALESCE($1, name), status = COALESCE($2, status)` -/
def School.patch (row : School) (name : Option String) (status : Option SchoolStatus) : School :=
  { row with
    name := name.getD row.name
    status := status.getD row.status }

def update (s : Db) (w : World) (id : SchoolId) (name : Option String)
    (status : Option SchoolStatus) : Db × Reply :=
  if w.fails then (s, refuse .db)
  else
    match s.school.lookup id with
    | none => (s, refuse .notFound)
    | some row =>
        let updated := row.patch name status
        ({ s with school := s.school.insert id updated }, done (.school updated))

def readDropped (s : Db) (w : World) (id : SchoolId) : Reply :=
  if w.fails then refuse .db
  else if (s.school.lookup id).isNone then done .done
  else .goto (.dropDatabase id)

/-- The database goes first. -/
def dropDatabase (s : Db) (w : World) (id : SchoolId) : Db × Reply :=
  if w.fails then (s, refuse .db)
  else ({ s with database := s.database.erase id }, .goto (.deleteRows id))

def deleteRows (s : Db) (w : World) (id : SchoolId) : Db × Reply :=
  if w.fails then (s, refuse .db)
  else ({ s with school := s.school.erase id }, done .done)

def next (_ : ℕ) (s : Db) (p : Point) (w : World) : Option (Db × Reply) :=
  match p with
  | .create id name modules => create s w id name modules
  | .ensureDatabase origin id => some (ensureDatabase s w origin id)
  | .schoolPool origin id => some (s, schoolPool s w origin id)
  | .migrateSchool origin id => some (migrateSchool s w origin id)
  | .activate origin id => some (activate s w origin id)
  | .deleteModules id => some (deleteModules s w id)
  | .deleteSchool id => some (deleteSchool s w id)
  | .dropLeftover id => some (dropLeftover s w id)
  | .listProvisioning => some (s, listProvisioning s w)
  | .reconcile rest => some (s, reconcile rest)
  | .updateSchool id name status => some (s, updateSchool id name status)
  | .update id name status => some (update s w id name status)
  | .readDropped id => some (s, readDropped s w id)
  | .dropDatabase id => some (dropDatabase s w id)
  | .deleteRows id => some (deleteRows s w id)

def Request.entry : Request → Point
  | .create id name modules => .create id name modules
  | .reconcileProvisioning => .listProvisioning
  | .updateSchool id name status => .updateSchool id name status
  | .drop id => .readDropped id

def machine : Machine Db Point Request World (Except AppError Answer) where
  entry := Request.entry
  next := next
  rollback := fun _ s => s

def start : Config Db Point := .initial ⟨∅, ∅, []⟩

def Db.status (s : Db) (id : SchoolId) : Option SchoolStatus :=
  (s.school.lookup id).map School.status

def Db.migrated (s : Db) (id : SchoolId) : Bool :=
  (s.database.lookup id).any fun applied => schoolMigrations ≤ applied

inductive Event where
  /-- A PATCH that answered, with the status it named. -/
  | patched (id : SchoolId) (status : SchoolStatus)
  /-- The database was removed, by a drop or by the rollback of a create. -/
  | dropped (id : SchoolId)
  deriving DecidableEq

/-- What a step at the point records. -/
def Point.events (s : Db) (w : World) : Point → List Event
  | .update school _ (some status) =>
      if !w.fails && (s.school.lookup school).isSome then [.patched school status] else []
  | .dropLeftover school | .dropDatabase school => if w.fails then [] else [.dropped school]
  | _ => []

def events (c : Config Db Point) : Move Request World → List Event
  | .advance id w => (c.calls.lookup id).elim [] fun p => p.events c.shared w
  | _ => []

def lastPatch (id : SchoolId) (log : List Event) : Option SchoolStatus :=
  log.foldl
    (fun last event =>
      match event with
      | .patched school status => if school = id then some status else last
      | .dropped _ => last) none

def Point.bringsUp : Point → List SchoolId
  | .ensureDatabase origin id | .schoolPool origin id | .migrateSchool origin id
  | .activate origin id =>
      match origin with
      | .create => [id]
      | .reconcile rest => id :: rest
  | .reconcile rest => rest
  | _ => []

def settled (c : Config Db Point) : Point → Bool
  | .update id _ (some _) =>
      decide (c.shared.status id ≠ some .provisioning) &&
        !Table.any c.calls fun _ p => id ∈ p.bringsUp
  | _ => true

end Hezarfen.Provisioning
