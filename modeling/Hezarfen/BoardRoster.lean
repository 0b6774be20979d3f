import Hezarfen.Boards
import Hezarfen.Snapshots
import Mathlib.Data.List.Sort

/-!
# The roster of a board

`set_participants` replaces the roster rows of a board and `invite_group` adds to them, one
statement at a time.  An invite locks the board row before it counts; a replacement takes no
lock on it.  A `DELETE` works on the rows that were committed when it began, and a row that
was deleted and inserted again meanwhile is another tuple, which it passes over.
-/

namespace Hezarfen.BoardRoster

open Interleaving ReadCommitted
open Boards (BoardId)

def maxBoardParticipants : ℕ := 200

structure Db where
  /-- No roster statement reads a column of the board row. -/
  board : Rows BoardId Unit
  /-- The value is the tuple behind the row. -/
  boardParticipant : Rows (BoardId × UserId) ℕ
  tuples : ℕ
  /-- The accounts, for the foreign key. -/
  appUser : List UserId

structure Board where
  id : BoardId
  participants : List UserId

def unique (participants : List UserId) : List UserId :=
  participants.foldl (fun seen user => if user ∈ seen then seen else seen ++ [user]) []

def checkedParticipants (participants : List UserId) : Except ValidationError (List UserId) :=
  if maxBoardParticipants < (unique participants).length then
    .error (.tooLong "participants" maxBoardParticipants (unique participants).length)
  else .ok (unique participants)

inductive Request where
  | setParticipants (board : BoardId) (participants : List UserId)
  | inviteGroup (board : BoardId) (invited : List UserId)

inductive Writer where
  | set (participants : List UserId)
  | invite (invited : List UserId)
  deriving DecidableEq

inductive Point where
  | setParticipants (board : BoardId) (participants : List UserId)
  | delete (board : BoardId) (participants : List UserId)
  | deleteRows (board : BoardId) (participants : List UserId) (found : List (UserId × ℕ))
  | inviteGroup (board : BoardId) (invited : List UserId)
  | count (board : BoardId) (invited : List UserId)
  | insertRows (board : BoardId) (writer : Writer) (rest : List UserId)
  | readRow (board : BoardId) (writer : Writer)

/-- `invite_group` answers no board where its guard refused. -/
abbrev Reply := Next Point (Except AppError (Option Board))

def Db.commit (tx : ℕ) (s : Db) : Db :=
  { s with
    board := s.board.commit tx
    boardParticipant := s.boardParticipant.commit tx }

def Db.rollback (tx : ℕ) (s : Db) : Db :=
  { s with
    board := s.board.rollback tx
    boardParticipant := s.boardParticipant.rollback tx }

def Db.members (s : Db) (tx : ℕ) (board : BoardId) : List (UserId × ℕ) :=
  (s.boardParticipant.visible tx fun k _ => k.1 = board).map fun row => (row.1.2, row.2)

def Db.standing (s : Db) (tx : ℕ) (board : BoardId) : Bool :=
  ((s.board.row board).seen tx).isSome

/-- `None` is a board that vanished. -/
def Db.readRow (s : Db) (tx : ℕ) (board : BoardId) : Option Board :=
  if s.standing tx board then
    some ⟨board, ((s.members tx board).map Prod.fst).insertionSort fun u v =>
      u.key.toList ≤ v.key.toList⟩
  else none

def setParticipants (s : Db) (board : BoardId) (participants : List UserId) : Db × Reply :=
  match checkedParticipants participants with
  | .error e => (s, .answer (.error (.validation e)))
  | .ok list => (s, .goto (.delete board list))

/-- One row of the `DELETE`: it waits for whoever holds the row, and then takes it only if the
tuple is still the one it found. -/
def deleteRow (tx : ℕ) (s : Db) (board : BoardId) (row : UserId × ℕ) : Option Db :=
  (s.boardParticipant.alterWhere tx (board, row.1) (fun tuple => tuple = row.2) fun _ => none).map
    fun r => { s with boardParticipant := r.2 }

/-- `SELECT id … FOR NO KEY UPDATE` -/
def lockBoard (tx : ℕ) (s : Db) (board : BoardId) (invited : List UserId) :
    Option (Db × Reply) :=
  match s.board.lock tx board with
  | none => none
  | some (none, _) => some (s.commit tx, .answer (.ok none))
  | some (some _, boards) => some ({ s with board := boards }, .goto (.count board invited))

def Db.wouldBe (s : Db) (tx : ℕ) (board : BoardId) (invited : List UserId) : ℕ :=
  let members := (s.members tx board).map Prod.fst
  members.length + (invited.filter fun user => user ∉ members).length

def count (tx : ℕ) (s : Db) (board : BoardId) (invited : List UserId) : Db × Reply :=
  if maxBoardParticipants < s.wouldBe tx board invited then
    (s.commit tx, .answer (.ok none))
  else (s, .goto (.insertRows board (.invite invited) invited))

/-- One row of the `INSERT … ON CONFLICT DO NOTHING`, which waits for whoever holds the key.
The foreign keys are the board and the account. -/
def insertRow (tx : ℕ) (s : Db) (board : BoardId) (writer : Writer) (user : UserId)
    (rest : List UserId) : Option (Db × Reply) :=
  let row := s.boardParticipant.row (board, user)
  if row.free tx then
    if (row.seen tx).isSome then some (s, .goto (.insertRows board writer rest))
    else if s.standing tx board && decide (user ∈ s.appUser) then
      some
        ({ s with
            boardParticipant := s.boardParticipant.write tx (board, user) (some s.tuples)
            tuples := s.tuples + 1 },
          .goto (.insertRows board writer rest))
    else some (s.rollback tx, .answer (.error .db))
  else none

def readRow (tx : ℕ) (s : Db) (board : BoardId) : Writer → Db × Reply
  | .set _ =>
      match s.readRow tx board with
      | none => (s.rollback tx, .answer (.error .notFound))
      | some row => (s.commit tx, .answer (.ok (some row)))
  | .invite _ => (s.commit tx, .answer (.ok (s.readRow tx board)))

def next (tx : ℕ) (s : Db) (p : Point) (_ : Unit) : Option (Db × Reply) :=
  match p with
  | .setParticipants board participants => some (setParticipants s board participants)
  | .delete board participants =>
      some (s, .goto (.deleteRows board participants (s.members tx board)))
  | .deleteRows board participants [] =>
      some (s, .goto (.insertRows board (.set participants) participants))
  | .deleteRows board participants (row :: found) =>
      (deleteRow tx s board row).map fun s' => (s', .goto (.deleteRows board participants found))
  | .inviteGroup board invited => lockBoard tx s board invited
  | .count board invited => some (count tx s board invited)
  | .insertRows board writer [] => some (s, .goto (.readRow board writer))
  | .insertRows board writer (user :: rest) => insertRow tx s board writer user rest
  | .readRow board writer => some (readRow tx s board writer)

def Request.entry : Request → Point
  | .setParticipants board participants => .setParticipants board participants
  | .inviteGroup board invited => .inviteGroup board invited

/-- A transaction that is given up, for a retry too, rolls back. -/
def machine : Machine Db Point Request Unit (Except AppError (Option Board)) where
  entry := Request.entry
  next := next
  rollback := Db.rollback

def Db.roster (s : Db) (board : BoardId) : List UserId :=
  s.boardParticipant.entries.filterMap fun e =>
    if e.1.1 = board ∧ e.2.committed.isSome then some e.1.2 else none

/-- A replacement forgets the old roster and an invite adds to it. -/
def Writer.apply : Writer → List UserId → List UserId
  | .set participants, _ => participants
  | .invite invited, old => old ++ invited

/-- The call that a move commits. -/
def committed (c : Config Db Point) : Move Request Unit → List (BoardId × Writer)
  | .advance id _ =>
      match c.calls.lookup id with
      | some (.readRow board writer) =>
          if c.shared.standing id board then [(board, writer)] else []
      | _ => []
  | _ => []

def Point.opened : Point → Option BoardId
  | .deleteRows board .. | .count board _ | .insertRows board .. | .readRow board _ => some board
  | _ => none

def Point.locks : Point → Option BoardId
  | .count board _ | .insertRows board (.invite _) _ | .readRow board (.invite _) => some board
  | _ => none

/-- A replacement begins while no other call on the board is open, and an invite takes its lock
while no replacement is. -/
def alone (c : Config Db Point) : Point → Bool
  | .delete board _ => !Table.any c.calls fun _ q => q.opened = some board
  | .inviteGroup board _ =>
      !Table.any c.calls fun _ q => q.opened = some board ∧ q.locks ≠ some board
  | _ => true

end Hezarfen.BoardRoster
