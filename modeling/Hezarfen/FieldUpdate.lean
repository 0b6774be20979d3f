import Hezarfen.Requests
import Hezarfen.Transactions
import Hezarfen.Domain

/-!
# The field update builder and its counted reference

One `UPDATE` built from the fields a request carried, optionally with an order between
two of them and with the counter of a reference that moves along.  The counter lives on
the row the reference names, in another table.  What the update claims and releases is
computed from the row as the handler read it, however long ago that was; the statement
itself is pinned on that reading.
-/

namespace Hezarfen.FieldUpdates

open Interleaving ReadCommitted

/-- A stored column. -/
inductive Value where
  | null
  | i64 (n : ℤ)
  | text (value : String)
  | uuid (id : Uuid)
  | texts (values : List String)
  | bool (b : Bool)
  deriving DecidableEq

inductive Param where
  | i64 (n : ℤ)
  | text (value : String)
  | uuid (id : Uuid)
  | optUuid (id : Option Uuid)
  | optText (value : Option String)
  | optI64 (n : Option ℤ)
  | texts (values : List String)
  | bool (b : Bool)

/-- What the parameter binds as. -/
def Param.value : Param → Value
  | .i64 n => .i64 n
  | .text value => .text value
  | .uuid id => .uuid id
  | .optUuid id => id.elim .null .uuid
  | .optText value => value.elim .null .text
  | .optI64 n => n.elim .null .i64
  | .texts values => .texts values
  | .bool b => .bool b

/-- `low <= high`, which an end that is `NULL` passes. -/
def Value.ordered : Value → Value → Bool
  | .null, _ => true
  | _, .null => true
  | .i64 low, .i64 high => decide (low ≤ high)
  | .text low, .text high => decide (low ≤ high)
  | _, _ => false

abbrev Columns := String → Value

/-- A `BIGINT NOT NULL` column. -/
def Columns.int (row : Columns) (field : String) : ℤ :=
  match row field with
  | .i64 n => n
  | _ => 0

def Columns.set (row : Columns) (field : String) (value : Value) : Columns :=
  fun name => if name = field then value else row name

structure Refcount where
  link : String
  expected : Option Uuid
  claim : Option Uuid
  release : Option Uuid
  refused : AppError

structure FieldUpdate where
  id : Uuid
  sets : List (String × Param)
  ordered : Option (String × String × AppError)
  refcount : Option Refcount

namespace FieldUpdate

def new (id : Uuid) : FieldUpdate := ⟨id, [], none, none⟩

def set (u : FieldUpdate) (field : String) (value : Option Param) : FieldUpdate :=
  { u with sets := u.sets ++ (value.map fun v => (field, v)).toList }

def withOrdered (u : FieldUpdate) (low high : String) (refused : AppError) : FieldUpdate :=
  { u with ordered := some (low, high, refused) }

def withRefcount (u : FieldUpdate) (refcount : Refcount) : FieldUpdate :=
  { u with refcount := some refcount }

def isSet (u : FieldUpdate) (field : String) : Bool := u.sets.any fun s => s.1 == field

def moved (u : FieldUpdate) : Option Refcount := u.refcount.filter fun rc => u.isSet rc.link

/-- The `SET` list. -/
def apply (u : FieldUpdate) (row : Columns) : Columns :=
  u.sets.foldl (fun row s => row.set s.1 s.2.value) row

def side (u : FieldUpdate) (row : Columns) (field : String) : Value :=
  ((u.sets.find? fun s => s.1 == field).map fun s => s.2.value).getD (row field)

def guarded (u : FieldUpdate) : Option (String × String × AppError) :=
  u.ordered.filter fun (low, high, _) => u.isSet low || u.isSet high

def own (u : FieldUpdate) (row : Columns) : Bool :=
  u.guarded.all fun (low, high, _) => (u.side row low).ordered (u.side row high)

/-- The answer when no row came back. -/
def unmatched (u : FieldUpdate) : AppError :=
  (u.guarded.map fun (_, _, refused) => refused).getD .notFound

end FieldUpdate

/-- `IS NOT DISTINCT FROM` the link the handler read. -/
def Refcount.holds (rc : Refcount) (row : Columns) : Bool :=
  decide (row rc.link = (Param.optUuid rc.expected).value)

def refMove (current : Option Uuid) : Option (Option Uuid) → Option Uuid × Option Uuid
  | none => (none, none)
  | some next => if next = current then (none, none) else (next, current)

def staleMove : String :=
  "the link this update moves changed since it was read; re-read and retry"

/-- The column that carries the reference, the counter on the rows it names, and the guards of
the two deletes. -/
structure Reference where
  link : String
  counterField : String
  /-- The row's own counters allow its delete. -/
  deletable : Columns → Bool
  /-- The counters of a named row allow its delete. -/
  unlinked : Columns → Bool
  unlinked_counter : ∀ row, unlinked row = true → row.int counterField = 0
  /-- The answer when the named row is gone. -/
  gone : AppError

variable (R : Reference)

def Reference.linkOf (row : Columns) : Option Uuid :=
  match row R.link with
  | .uuid id => some id
  | _ => none

/-- `GREATEST(counter - 1, 0)` -/
def Reference.release (row : Columns) : Columns :=
  row.set R.counterField (.i64 (max (row.int R.counterField - 1) 0))

def Reference.claim (row : Columns) : Columns :=
  row.set R.counterField (.i64 (row.int R.counterField + 1))

structure Patch where
  before : List (String × Option Param)
  link : Option (Option Uuid)
  after : List (String × Option Param)
  ordered : Option (String × String × AppError)
  before_ne : ∀ s ∈ before, s.1 ≠ R.link
  after_ne : ∀ s ∈ after, s.1 ≠ R.link

variable {R}

def setAll (u : FieldUpdate) (fields : List (String × Option Param)) : FieldUpdate :=
  fields.foldl (fun u s => u.set s.1 s.2) u

def Patch.fieldUpdate (patch : Patch R) (id : Uuid) (snapshot : Columns) : FieldUpdate :=
  let current := R.linkOf snapshot
  let moves := refMove current patch.link
  let fields := setAll ((setAll (.new id) patch.before).set R.link
    (patch.link.map .optUuid)) patch.after
  let guarded := patch.ordered.elim fields fun (low, high, refused) =>
    fields.withOrdered low high refused
  guarded.withRefcount ⟨R.link, current, moves.1, moves.2, R.gone⟩

/-! ## The store and the calls -/

structure Db where
  rows : Rows Uuid Columns
  targets : Rows Uuid Columns
  /-- The identifiers drawn so far; none is drawn twice. -/
  minted : List Uuid

def Db.commit (tx : ℕ) (s : Db) : Db :=
  { s with rows := s.rows.commit tx, targets := s.targets.commit tx }

def Db.rollback (tx : ℕ) (s : Db) : Db :=
  { s with rows := s.rows.rollback tx, targets := s.targets.rollback tx }

variable (R)

inductive Request where
  | create (columns : Columns) (link : Option Uuid)
  | update (id : Uuid) (patch : Patch R)
  | delete (id : Uuid)
  | createTarget (columns : Columns)
  | deleteTarget (id : Uuid)

/-- An update whose link moves or is re-stated. -/
structure Moving where
  update : FieldUpdate
  refcount : Refcount

inductive Point where
  | create (columns : Columns) (link : Option Uuid)
  | read (id : Uuid) (patch : Patch R)
  | run (update : FieldUpdate)
  | release (job : Moving)
  | claim (job : Moving)
  | write (job : Moving)
  | probe (job : Moving)
  | commitUpdate (row : Columns)
  | delete (id : Uuid)
  | deleteRow (id : Uuid) (guard : Columns)
  | releaseLink (link : Option Uuid)
  | commitDelete
  | createTarget (columns : Columns)
  | deleteTarget (id : Uuid)
  | reread (id : Uuid)

inductive Answer where
  | row (row : Columns)
  | deleted (done : Bool)
  | created (id : Uuid)

abbrev Reply := Next (Point R) (Except AppError Answer)

variable {R}

def Db.mint (s : Db) (id : Uuid) : Option Db :=
  if id ∈ s.minted then none else some { s with minted := id :: s.minted }

def autocommit (tx : ℕ) (s : Db) (a : Answer) : Db × Reply R := (s.commit tx, .answer (.ok a))

def refuse (tx : ℕ) (s : Db) (e : AppError) : Db × Reply R := (s.rollback tx, .answer (.error e))

variable (R)

def create (tx : ℕ) (s : Db) (columns : Columns) (link : Option Uuid) (id : Uuid) :
    Option (Db × Reply R) :=
  match s.mint id with
  | none => none
  | some s =>
      let row := columns.set R.link (Param.optUuid link).value
      let insert (s : Db) := { s with rows := s.rows.put id row }
      match link with
      | none => some (autocommit tx (insert s) (.row row))
      | some target =>
          match s.targets.alter tx target fun row => some (R.claim row) with
          | none => none
          | some (none, _) => some (refuse tx s R.gone)
          | some (some _, targets) =>
              some (autocommit tx (insert { s with targets := targets }) (.row row))

def read (s : Db) (id : Uuid) (patch : Patch R) : Reply R :=
  match (s.rows.row id).committed with
  | none => .answer (.error .notFound)
  | some snapshot => .goto (.run (patch.fieldUpdate id snapshot))

/-- `FieldUpdate::run`: an empty request reads the row back, one without the link is a single
statement, and one that carries it a transaction. -/
def run (tx : ℕ) (s : Db) (u : FieldUpdate) : Option (Db × Reply R) :=
  if u.sets.isEmpty then
    match (s.rows.row u.id).committed with
    | none => some (s, .answer (.error .notFound))
    | some row => some (s, .answer (.ok (.row row)))
  else
    match u.moved with
    | some rc => some (s, .goto (.release ⟨u, rc⟩))
    | none =>
        match s.rows.alterWhere tx u.id u.own fun row => some (u.apply row) with
        | none => none
        | some (none, _) => some (refuse tx s u.unmatched)
        | some (some row, rows) =>
            some (autocommit tx { s with rows := rows } (.row (u.apply row)))

def releaseCounter (tx : ℕ) (s : Db) (target : Option Uuid) : Option Db :=
  match target with
  | none => some s
  | some target =>
      (s.targets.alter tx target fun row => some (R.release row)).map fun r =>
        { s with targets := r.2 }

def claim (tx : ℕ) (s : Db) (job : Moving) : Option (Db × Reply R) :=
  match job.refcount.claim with
  | none => some (s, .goto (.write job))
  | some target =>
      match s.targets.alter tx target fun row => some (R.claim row) with
      | none => none
      | some (none, _) => some (refuse tx s job.refcount.refused)
      | some (some _, targets) => some ({ s with targets := targets }, .goto (.write job))

def write (tx : ℕ) (s : Db) (job : Moving) : Option (Db × Reply R) :=
  match s.rows.alterWhere tx job.update.id
      (fun row => job.update.own row && job.refcount.holds row)
      (fun row => some (job.update.apply row)) with
  | none => none
  | some (none, _) => some (s, .goto (.probe job))
  | some (some row, rows) =>
      some ({ s with rows := rows }, .goto (.commitUpdate (job.update.apply row)))

def probe (tx : ℕ) (s : Db) (job : Moving) : Db × Reply R :=
  if ((s.rows.row job.update.id).seen tx).any fun row =>
      job.update.own row && !job.refcount.holds row then
    refuse tx s (.conflict staleMove)
  else refuse tx s job.update.unmatched

/-- The guard and the lock, in one read. -/
def delete (tx : ℕ) (s : Db) (id : Uuid) : Option (Db × Reply R) :=
  match s.rows.lock tx id with
  | none => none
  | some (none, _) => some (refuse tx s .notFound)
  | some (some row, rows) =>
      if R.deletable row then some ({ s with rows := rows }, .goto (.deleteRow id row))
      else some (autocommit tx { s with rows := rows } (.deleted false))

def deleteRow (tx : ℕ) (s : Db) (id : Uuid) (guard : Columns) : Option (Db × Reply R) :=
  (s.rows.alter tx id fun _ => none).map fun r =>
    ({ s with rows := r.2 }, .goto (.releaseLink (R.linkOf guard)))

def createTarget (s : Db) (columns : Columns) (id : Uuid) : Option (Db × Reply R) :=
  (s.mint id).map fun s =>
    ({ s with targets := s.targets.put id (columns.set R.counterField (.i64 0)) },
      .answer (.ok (.created id)))

def deleteTarget (tx : ℕ) (s : Db) (id : Uuid) : Option (Db × Reply R) :=
  match s.targets.alterWhere tx id R.unlinked fun _ => none with
  | none => none
  | some (none, _) => some (s, .goto (.reread id))
  | some (some _, targets) => some (autocommit tx { s with targets := targets } (.deleted true))

/-- Still linked, or already gone. -/
def reread (s : Db) (id : Uuid) : Reply R :=
  match (s.targets.row id).committed with
  | some _ => .answer (.ok (.deleted false))
  | none => .answer (.error .notFound)

def next (tx : ℕ) (s : Db) (p : Point R) (uuid : Uuid) : Option (Db × Reply R) :=
  match p with
  | .create columns link => create R tx s columns link uuid
  | .read id patch => some (s, read R s id patch)
  | .run update => run R tx s update
  | .release job =>
      (releaseCounter R tx s job.refcount.release).map fun s => (s, .goto (.claim job))
  | .claim job => claim R tx s job
  | .write job => write R tx s job
  | .probe job => some (probe R tx s job)
  | .commitUpdate row => some (autocommit tx s (.row row))
  | .delete id => delete R tx s id
  | .deleteRow id guard => deleteRow R tx s id guard
  | .releaseLink link => (releaseCounter R tx s link).map fun s => (s, .goto .commitDelete)
  | .commitDelete => some (autocommit tx s (.deleted true))
  | .createTarget columns => createTarget R s columns uuid
  | .deleteTarget id => deleteTarget R tx s id
  | .reread id => some (s, reread R s id)

def entry : Request R → Point R
  | .create columns link => .create columns link
  | .update id patch => .read id patch
  | .delete id => .delete id
  | .createTarget columns => .createTarget columns
  | .deleteTarget id => .deleteTarget id

def machine : Machine Db (Point R) (Request R) Uuid (Except AppError Answer) where
  entry := entry R
  next := next R
  rollback := Db.rollback

/-- `class_group.year`, counted on `academic_year.class_count`. -/
def classYear : Reference where
  link := "year"
  counterField := "class_count"
  deletable row := row.int "class_member_count" == 0 && row.int "class_course_count" == 0
  unlinked row := row.int "class_count" == 0 && row.int "term_count" == 0
  unlinked_counter := by
    intro row h
    rw [Bool.and_eq_true, beq_iff_eq] at h
    exact h.1
  gone := .validation (.invalid "year" "academic year does not exist")

/-- `class_group::update` -/
def classPatch (name : Option String) (gradeLevel : Option ℤ) (year : Option (Option Uuid))
    (teacher : Option (Option Uuid)) : Patch classYear where
  before := [("name", name.map .text), ("grade_level", gradeLevel.map .i64)]
  link := year
  after := [("teacher", teacher.map .optUuid)]
  ordered := none
  before_ne := by simp [classYear]
  after_ne := by simp [classYear]

end Hezarfen.FieldUpdates
