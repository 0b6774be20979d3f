import Hezarfen.Domain
import Hezarfen.Transactions

/-!
# Pomodoro sessions

`start` and `finish`, one statement at a time.  The open slot of a user is a partial
unique index: a start re-stamps the open row or waits for the finish that is deleting it.
A finish deletes the open row, locks the user, decides whether the stint counts, moves
the counters and the streak, and files the closed row under a new identifier.
-/

namespace Hezarfen.Pomodoro

open Interleaving ReadCommitted

structure PomodoroSessionId where
  uuid : Uuid
  deriving DecidableEq

structure PomodoroSession where
  user : UserId
  startedAt : Timestamp
  finishedAt : Option Timestamp
  counted : Option Bool
  label : Option String

structure AppUser where
  pomodoroCountedToday : ℤ
  pomodoroCountedDay : Option ℤ
  pomodoroFinishedTotal : ℤ
  pomodoroFocusMsTotal : ℤ
  studyStreakCurrent : ℤ
  studyStreakLastDay : Option ℤ
  studyStreakLongest : ℤ

def minCountedPomodoroMs : ℤ := 300000

def maxCountedPomodoroPerDay : ℤ := 16

def millisPerDay : ℤ := 86400000

def dayNumber (t : Timestamp) : ℤ := t / millisPerDay + 719163

structure Db where
  pomodoroSession : Rows PomodoroSessionId PomodoroSession
  appUser : Rows UserId AppUser

def Db.commit (tx : ℕ) (s : Db) : Db :=
  ⟨s.pomodoroSession.commit tx, s.appUser.commit tx⟩

def Db.rollback (tx : ℕ) (s : Db) : Db :=
  ⟨s.pomodoroSession.rollback tx, s.appUser.rollback tx⟩

/-- `app_user = $1 AND finished_at IS NULL` -/
def PomodoroSession.isOpen (user : UserId) (row : PomodoroSession) : Bool :=
  decide (row.user = user) && row.finishedAt.isNone

/-- The committed open row of the user. -/
def Db.openRow (s : Db) (user : UserId) : Option PomodoroSessionId :=
  (s.pomodoroSession.entries.find? fun r =>
    r.2.committed.any (PomodoroSession.isOpen user)).map fun r => r.1

inductive Request where
  | start (user : UserId) (label : Option String)
  | finish (user : UserId)

structure Closing where
  user : UserId
  done : Timestamp
  taken : PomodoroSession

/-- `finished_at` is floored at the row's own `started_at`. -/
def Closing.finishedAt (job : Closing) : Timestamp := max job.taken.startedAt job.done

def Closing.ms (job : Closing) : ℤ := job.finishedAt - job.taken.startedAt

def Closing.day (job : Closing) : ℤ := dayNumber job.done

inductive Point where
  | start (user : UserId) (label : Option String)
  | finish (user : UserId)
  | find (user : UserId) (done : Timestamp)
  | take (user : UserId) (done : Timestamp) (id : PomodoroSessionId)
  | lockUser (job : Closing)
  | update (job : Closing) (c : AppUser)
  | file (job : Closing) (counted : Bool)
  | commit (job : Closing) (closed : PomodoroSession)

abbrev Reply := Next Point (Except AppError PomodoroSession)

structure World where
  now : Timestamp
  id : PomodoroSessionId

/-! ## The decision of a finish -/

/-- The tally of the day; a finish on a new day reopens the quota. -/
def AppUser.countedToday (c : AppUser) (day : ℤ) : ℤ :=
  if c.pomodoroCountedDay = some day then c.pomodoroCountedToday else 0

def AppUser.counts (c : AppUser) (day ms : ℤ) : Bool :=
  decide (minCountedPomodoroMs ≤ ms) &&
    decide (c.countedToday day < maxCountedPomodoroPerDay)

/-- The same day again changes nothing, the next day extends the run, any other gap starts a
new one. -/
def AppUser.streakOn (c : AppUser) (day : ℤ) : ℤ :=
  match c.studyStreakLastDay with
  | some last =>
      if last = day then c.studyStreakCurrent
      else if last = day - 1 then c.studyStreakCurrent + 1
      else 1
  | none => 1

/-- What the transaction writes over the user row, `c` being the row it read under the lock.  A
stint that does not count only rolls the day. -/
def AppUser.write (c : AppUser) (day ms : ℤ) (row : AppUser) : AppUser :=
  if c.counts day ms then
    { pomodoroCountedToday := c.countedToday day + 1
      pomodoroCountedDay := some day
      pomodoroFinishedTotal := row.pomodoroFinishedTotal + 1
      pomodoroFocusMsTotal := row.pomodoroFocusMsTotal + ms
      studyStreakCurrent := c.streakOn day
      studyStreakLastDay := some day
      studyStreakLongest := max row.studyStreakLongest (c.streakOn day) }
  else if c.pomodoroCountedDay ≠ some day then
    { row with pomodoroCountedToday := 0, pomodoroCountedDay := some day }
  else row

def start (tx : ℕ) (s : Db) (w : World) (user : UserId) (label : Option String) :
    Option (Db × Reply) :=
  let row : PomodoroSession := ⟨user, w.now, none, none, label⟩
  match s.openRow user with
  | some id =>
      (s.pomodoroSession.place tx id fun _ => row).map fun sessions =>
        (({ s with pomodoroSession := sessions } : Db).commit tx, .answer (.ok row))
  | none =>
      if (s.pomodoroSession.lookup w.id).isSome then none
      else if ((s.appUser.row user).seen tx).isNone then some (s, .answer (.error .db))
      else some ({ s with pomodoroSession := s.pomodoroSession.put w.id row }, .answer (.ok row))

/-- The rows the `DELETE` works on, as its snapshot shows them. -/
def find (s : Db) (user : UserId) (done : Timestamp) : Reply :=
  match s.openRow user with
  | none => .answer (.error (.conflict "no pomodoro session running"))
  | some id => .goto (.take user done id)

def take (tx : ℕ) (s : Db) (user : UserId) (done : Timestamp) (id : PomodoroSessionId) :
    Option (Db × Reply) :=
  match s.pomodoroSession.alterWhere tx id (PomodoroSession.isOpen user) fun _ => none with
  | none => none
  | some (none, _) =>
      some (s.rollback tx, .answer (.error (.conflict "no pomodoro session running")))
  | some (some taken, sessions) =>
      some ({ s with pomodoroSession := sessions }, .goto (.lockUser ⟨user, done, taken⟩))

def lockUser (tx : ℕ) (s : Db) (job : Closing) : Option (Db × Reply) :=
  match s.appUser.lock tx job.user with
  | none => none
  | some (none, _) => some (s.rollback tx, .answer (.error .notFound))
  | some (some c, users) => some ({ s with appUser := users }, .goto (.update job c))

def update (tx : ℕ) (s : Db) (job : Closing) (c : AppUser) : Option (Db × Reply) :=
  (s.appUser.alter tx job.user fun row => some (c.write job.day job.ms row)).map fun r =>
    ({ s with appUser := r.2 }, .goto (.file job (c.counts job.day job.ms)))

def Closing.closed (job : Closing) (counted : Bool) : PomodoroSession :=
  ⟨job.user, job.taken.startedAt, some job.finishedAt, some counted, job.taken.label⟩

def file (tx : ℕ) (s : Db) (w : World) (job : Closing) (counted : Bool) :
    Option (Db × Reply) :=
  if (s.pomodoroSession.lookup w.id).isSome then none
  else
    some ({ s with
      pomodoroSession := s.pomodoroSession.write tx w.id (some (job.closed counted)) },
        .goto (.commit job (job.closed counted)))

def next (tx : ℕ) (s : Db) (p : Point) (w : World) : Option (Db × Reply) :=
  match p with
  | .start user label => start tx s w user label
  | .finish user => some (s, .goto (.find user w.now))
  | .find user done => some (s, find s user done)
  | .take user done id => take tx s user done id
  | .lockUser job => lockUser tx s job
  | .update job c => update tx s job c
  | .file job counted => file tx s w job counted
  | .commit _ closed => some (s.commit tx, .answer (.ok closed))

def Request.entry : Request → Point
  | .start user label => .start user label
  | .finish user => .finish user

def machine : Machine Db Point Request World (Except AppError PomodoroSession) where
  entry := Request.entry
  next := next
  rollback := Db.rollback

end Hezarfen.Pomodoro
