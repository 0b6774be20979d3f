import Hezarfen.Interleaving
import Hezarfen.SettingsDomain

/-!
# Boards and their strokes

A board carries an epoch number and two counters; its strokes and the markers of its clears
are rows that are only ever added.  A mark is one guarded statement.  A clear takes the row
lock of the board first and holds it to its commit, and every other write to the row is a
statement of its own, so a clear is one step.  A refused mark reads the board again, in
statements of their own, to say why, and may close it.
-/

namespace Hezarfen.Boards

open Interleaving

structure BoardId where
  uuid : Uuid
  deriving DecidableEq

structure BoardStrokeId where
  uuid : Uuid
  deriving DecidableEq

inductive Kind where
  | stroke
  | clear
  deriving DecidableEq

def maxBoardStrokes : ℤ := 50000

def maxEpochStrokes : ℤ := 5000

def maxStrokePayloadLen : ℕ := 4096

structure Board where
  creator : UserId
  locked : Bool
  lockedBy : Option UserId
  lockedAt : Option Timestamp
  epoch : ℤ
  epochStrokeCount : ℤ
  totalStrokeCount : ℤ
  closedAt : Option Timestamp
  createdAt : Timestamp

/-- `payload` is null on a marker, and `count` on a stroke. -/
structure BoardStroke where
  board : BoardId
  author : UserId
  kind : Kind
  payload : Option String
  count : Option ℤ
  epoch : ℤ
  createdAt : Timestamp

structure Db where
  board : Table BoardId Board
  boardStroke : Table BoardStrokeId BoardStroke
  /-- The accounts, for the foreign keys. -/
  appUser : List UserId

def epochFull : AppError := .conflict "this board is full — clear it to keep drawing"

def boardLocked : AppError :=
  .conflict "this board is locked — the creator has paused drawing"

def boardClosed : AppError := .conflict "this board is closed — it is permanently read-only"

def boardMoved : AppError :=
  .conflict "this board changed while you were drawing — draw it again"

def canvasBlank : AppError := .conflict "there is nothing on this canvas to clear"

def notTheCreator : AppError := .forbidden "only the board's creator can clear the board"

def Board.stateRefusal (row : Board) : Option AppError :=
  if row.closedAt.isSome then some boardClosed
  else if row.locked then some boardLocked
  else none

inductive FullKind where
  | soft
  | hard

def fullKind (softCount softCap hardCount hardCap : ℤ) : FullKind :=
  if softCap ≤ softCount ∧ hardCount < hardCap then .soft else .hard

def validateRequired (field value : String) (max : ℕ) : Except ValidationError Unit :=
  if (SchoolSettings.trim value).isEmpty then .error (.empty field)
  else if max < value.toList.length then .error (.tooLong field max value.toList.length)
  else .ok ()

/-- The `WHERE` of the counters' update. -/
def Board.takes (row : Board) (epoch : ℤ) : Bool :=
  decide (row.totalStrokeCount < maxBoardStrokes) && !row.locked && row.closedAt.isNone &&
    decide (row.epoch = epoch) && decide (row.epochStrokeCount < maxEpochStrokes)

def Board.bump (row : Board) : Board :=
  { row with
    epochStrokeCount := row.epochStrokeCount + 1
    totalStrokeCount := row.totalStrokeCount + 1 }

def Board.nextEpoch (row : Board) : Board :=
  { row with
    epoch := row.epoch + 1
    epochStrokeCount := 0
    totalStrokeCount := row.totalStrokeCount + 1 }

def Db.record (s : Db) (row : Board) (id : BoardStrokeId) (mark : BoardStroke) : Db :=
  { s with
    board := s.board.insert mark.board row
    boardStroke := s.boardStroke.insert id mark }

def Db.insertable (s : Db) (id : BoardStrokeId) (author : UserId) : Bool :=
  (s.boardStroke.lookup id).isNone && decide (author ∈ s.appUser)

structure World where
  now : Timestamp
  uuid : Uuid

inductive Request where
  | create (creator : UserId)
  | append (board : BoardId) (author : UserId) (payload : String) (epoch : ℤ)
  | clear (board : BoardId) (author : UserId)
  | setLocked (board : BoardId) (locked : Bool) (author : UserId)
  | close (board : BoardId)

inductive Point where
  | create (creator : UserId)
  | append (board : BoardId) (author : UserId) (payload : String) (epoch : ℤ)
  | refusedRead (board : BoardId)
  | refusedCounts (board : BoardId)
  | refusedClose (board : BoardId)
  | refusedReread (board : BoardId)
  | clear (board : BoardId) (author : UserId)
  | setLocked (board : BoardId) (locked : Bool) (author : UserId)
  | close (board : BoardId)
  | closeReread (board : BoardId)

inductive Answer where
  | board (row : Board)
  | stroke (id : BoardStrokeId) (row : BoardStroke)

abbrev Reply := Next Point (Except AppError Answer)

def refuse (e : AppError) : Reply := .answer (.error e)

def done (a : Answer) : Reply := .answer (.ok a)

def create (s : Db) (w : World) (creator : UserId) : Db × Reply :=
  if (s.board.lookup ⟨w.uuid⟩).isSome ∨ creator ∉ s.appUser then (s, refuse .db)
  else
    let row : Board := ⟨creator, false, none, none, 0, 0, 0, none, w.now⟩
    ({ s with board := s.board.insert ⟨w.uuid⟩ row }, done (.board row))

def append (s : Db) (w : World) (board : BoardId) (author : UserId) (payload : String)
    (epoch : ℤ) : Db × Reply :=
  match validateRequired "payload" payload maxStrokePayloadLen with
  | .error e => (s, refuse (.validation e))
  | .ok () =>
      match (s.board.lookup board).filter fun row => row.takes epoch with
      | none => (s, .goto (.refusedRead board))
      | some row =>
          let stroke : BoardStroke :=
            ⟨board, author, .stroke, some payload, none, epoch, w.now⟩
          if s.insertable ⟨w.uuid⟩ author then
            (s.record row.bump ⟨w.uuid⟩ stroke, done (.stroke ⟨w.uuid⟩ stroke))
          else (s, refuse .db)

def refusedRead (s : Db) (board : BoardId) : Reply :=
  match s.board.lookup board with
  | none => refuse .notFound
  | some row =>
      match row.stateRefusal with
      | some e => refuse e
      | none => .goto (.refusedCounts board)

/-- Only a read that proves the lifetime counter to be spent may close the board. -/
def refusedCounts (s : Db) (board : BoardId) : Reply :=
  match s.board.lookup board with
  | none => refuse .db
  | some row =>
      match fullKind row.epochStrokeCount maxEpochStrokes row.totalStrokeCount
          maxBoardStrokes with
      | .soft => refuse epochFull
      | .hard =>
          if row.totalStrokeCount < maxBoardStrokes then refuse boardMoved
          else .goto (.refusedClose board)

/-- The idempotent stamp, `none` where it matched no row. -/
def Db.close (s : Db) (board : BoardId) (now : Timestamp) : Option (Board × Db) :=
  match s.board.lookup board with
  | none => none
  | some row =>
      if row.closedAt.isSome then none
      else
        let closed : Board := { row with closedAt := some now }
        some (closed, { s with board := s.board.insert board closed })

/-- A close inside a refused mark, whose answer is thrown away. -/
def refusedClose (s : Db) (w : World) (board : BoardId) : Db × Reply :=
  match s.close board w.now with
  | some (_, s') => (s', refuse boardClosed)
  | none => (s, .goto (.refusedReread board))

def reread (s : Db) (board : BoardId) (found : Board → Reply) : Reply :=
  match s.board.lookup board with
  | none => refuse .notFound
  | some row => found row

def clearTx (w : World) (board : BoardId) (author : UserId) : Tx Db Answer := fun s =>
  match s.board.lookup board with
  | none => .error .notFound
  | some row =>
      if row.stateRefusal = some boardClosed then .error boardClosed
      else if author ≠ row.creator then .error notTheCreator
      else
        match row.stateRefusal with
        | some e => .error e
        | none =>
            if row.epochStrokeCount = 0 then .error canvasBlank
            else
              let marker : BoardStroke :=
                ⟨board, author, .clear, none, some row.epochStrokeCount, row.epoch, w.now⟩
              if s.insertable ⟨w.uuid⟩ author then
                .ok (.stroke ⟨w.uuid⟩ marker, s.record row.nextEpoch ⟨w.uuid⟩ marker)
              else .error .db

def clear (s : Db) (w : World) (board : BoardId) (author : UserId) : Db × Reply :=
  match txWithRetry (clearTx w board author) s with
  | (.ok a, s') => (s', done a)
  | (.error e, s') => (s', refuse e)

/-- `locked_by` and `locked_at` are cleared on unlock. -/
def Board.withLock (row : Board) (locked : Bool) (author : UserId) (now : Timestamp) : Board :=
  { row with
    locked := locked
    lockedBy := if locked then some author else none
    lockedAt := if locked then some now else none }

def setLocked (s : Db) (w : World) (board : BoardId) (locked : Bool) (author : UserId) :
    Db × Reply :=
  match s.board.lookup board with
  | none => (s, refuse .notFound)
  | some row =>
      if locked ∧ author ∉ s.appUser then (s, refuse .db)
      else
        let updated := row.withLock locked author w.now
        ({ s with board := s.board.insert board updated }, done (.board updated))

def close (s : Db) (w : World) (board : BoardId) : Db × Reply :=
  match s.close board w.now with
  | some (closed, s') => (s', done (.board closed))
  | none => (s, .goto (.closeReread board))

def next (_ : ℕ) (s : Db) (p : Point) (w : World) : Option (Db × Reply) :=
  match p with
  | .create creator => some (create s w creator)
  | .append board author payload epoch => some (append s w board author payload epoch)
  | .refusedRead board => some (s, refusedRead s board)
  | .refusedCounts board => some (s, refusedCounts s board)
  | .refusedClose board => some (refusedClose s w board)
  | .refusedReread board => some (s, reread s board fun _ => refuse boardClosed)
  | .clear board author => some (clear s w board author)
  | .setLocked board locked author => some (setLocked s w board locked author)
  | .close board => some (close s w board)
  | .closeReread board => some (s, reread s board fun row => done (.board row))

def entry : Request → Point
  | .create creator => .create creator
  | .append board author payload epoch => .append board author payload epoch
  | .clear board author => .clear board author
  | .setLocked board locked author => .setLocked board locked author
  | .close board => .close board

def machine : Machine Db Point Request World (Except AppError Answer) where
  entry := entry
  next := next
  rollback := fun _ s => s

/-- The points of a mark: its statement, and what follows when it was refused. -/
def Point.ofAppend : Point → Bool
  | .append .. | .refusedRead _ | .refusedCounts _ | .refusedClose _ | .refusedReread _ => true
  | _ => false

def start (users : List UserId) : Config Db Point := .initial ⟨∅, ∅, users⟩

end Hezarfen.Boards
