import Hezarfen.RefCounts
import Hezarfen.SchoolDomain
import Hezarfen.Transactions

/-!
# Seats on a signup list

The registration rows of an event and the counter on its row, one statement at a time.  A seat
is taken by one statement that locks the holder's account, bumps the counter under the capacity
it finds on the event row and inserts the row.  A fall to parent frees the seats of the account
on every list that has not frozen, and a list freezes when its event starts.
-/

namespace Hezarfen.Signups

open Interleaving ReadCommitted
open School (Role)

structure EventId where
  uuid : Uuid
  deriving DecidableEq

inductive EventAudienceKind where
  | school
  | role
  | course
  | class_
  | registration
  deriving DecidableEq

structure EventAudience where
  kind : EventAudienceKind
  capacity : Option ℤ

structure Event where
  title : String
  description : String
  audience : EventAudience
  startsAt : Option Timestamp
  endsAt : Option Timestamp
  registrationCount : ℤ

structure Registration where
  event : EventId
  user : UserId
  registeredBy : UserId
  createdAt : Timestamp

namespace Event

/-- The gate of the signup routes, with the seats of the list. -/
def registrationCapacity (event : Event) (now : Timestamp) : Except AppError (Option ℤ) :=
  if event.audience.kind ≠ .registration then
    .error (.validation (.invalid "audience" "this event does not take registrations"))
  else if (event.startsAt.or event.endsAt).any fun closesAt => decide (now ≥ closesAt) then
    .error (.conflict "registration closed — the event has started or ended")
  else .ok event.audience.capacity

def frozen (event : Event) (now : Timestamp) : Bool :=
  decide (event.audience.kind = .registration) &&
    (event.startsAt.or event.endsAt).any fun closesAt => decide (closesAt ≤ now)

def hasRoom (event : Event) : Bool :=
  event.audience.capacity.all fun capacity => decide (event.registrationCount < capacity)

def take (event : Event) : Event :=
  { event with registrationCount := event.registrationCount + 1 }

/-- `GREATEST(registration_count - 1, 0)` -/
def giveBack (event : Event) : Event :=
  { event with registrationCount := max (event.registrationCount - 1) 0 }

end Event

/-- The fields that a PATCH carried. -/
structure Patch where
  title : Option String
  description : Option String
  audience : Option EventAudience
  startsAt : Option (Option Timestamp)
  endsAt : Option (Option Timestamp)

namespace Patch

def isEmpty (p : Patch) : Bool :=
  p.title.isNone && p.description.isNone && p.audience.isNone && p.startsAt.isNone &&
    p.endsAt.isNone

def apply (p : Patch) (event : Event) : Event :=
  { event with
    title := p.title.getD event.title
    description := p.description.getD event.description
    audience := p.audience.getD event.audience
    startsAt := p.startsAt.getD event.startsAt
    endsAt := p.endsAt.getD event.endsAt }

def guarded (p : Patch) : Bool := p.startsAt.isSome || p.endsAt.isSome

def ordered (p : Patch) (event : Event) : Bool :=
  !p.guarded ||
    match (p.apply event).startsAt, (p.apply event).endsAt with
    | some low, some high => decide (low ≤ high)
    | _, _ => true

end Patch

def rangeError : AppError := .validation (.invalid "ends_at" "must be at or after starts_at")

structure Db where
  appUser : Rows UserId Role
  event : Rows EventId Event
  registration : Rows (EventId × UserId) Registration
  clock : Timestamp

/-- A seat that is asked for. -/
structure Seat where
  event : EventId
  user : UserId
  registeredBy : UserId

def Seat.key (seat : Seat) : EventId × UserId := (seat.event, seat.user)

inductive Request where
  | createEvent (title description : String) (audience : EventAudience)
      (startsAt endsAt : Option Timestamp)
  | update (event : EventId) (patch : Patch)
  | delete (event : EventId)
  | register (seat : Seat)
  | remove (event : EventId) (user : UserId)
  | setRole (user : UserId) (role : Role)

inductive Point where
  | createEvent (row : Event)
  | update (event : EventId) (patch : Patch)
  | findSeats (event : EventId)
  | deleteSeats (event : EventId) (users : List UserId)
  | deleteEvent (event : EventId)
  | readForUser (seat : Seat)
  | readEvent (seat : Seat)
  | claimSeat (seat : Seat)
  | person (seat : Seat) (createdAt : Timestamp) (room : Bool)
  | takeSeat (seat : Seat) (createdAt : Timestamp)
  | insert (seat : Seat) (createdAt : Timestamp)
  | readDuplicate (seat : Seat)
  | readFull (seat : Seat)
  | readHolder (seat : Seat)
  | deleteSeat (event : EventId) (user : UserId)
  | returnSeat (gone : Registration)
  | setRole (user : UserId) (role : Role)
  | readRole (user : UserId) (role : Role) (now : Timestamp)
  | findAdmins (user : UserId) (role : Role) (now : Timestamp)
  | lockAdmins (user : UserId) (role : Role) (now : Timestamp) (rest : List UserId) (locked : ℕ)
  | writeRole (user : UserId) (role : Role) (now : Timestamp)
  | findStray (user : UserId) (now : Timestamp)
  | deleteStray (user : UserId) (now : Timestamp) (rest : List EventId)
  | findFreeable (user : UserId) (now : Timestamp)
  | deleteFreeable (user : UserId) (rest gone : List EventId)
  | returnSeats (user : UserId) (gone : List EventId)

inductive Answer where
  | event (row : Event)
  | deleted
  | seat (row : Registration)
  | removed (gone : Option Registration)
  | role (user : UserId)

abbrev Reply := Next Point (Except AppError Answer)

structure World where
  elapsed : ℕ
  uuid : Uuid

def Db.commit (tx : ℕ) (s : Db) : Db :=
  { s with
    appUser := s.appUser.commit tx
    event := s.event.commit tx
    registration := s.registration.commit tx }

def Db.rollback (tx : ℕ) (s : Db) : Db :=
  { s with
    appUser := s.appUser.rollback tx
    event := s.event.rollback tx
    registration := s.registration.rollback tx }

def refuse (tx : ℕ) (s : Db) (e : AppError) : Db × Reply := (s.rollback tx, .answer (.error e))

def finish (tx : ℕ) (s : Db) (a : Answer) : Db × Reply := (s.commit tx, .answer (.ok a))

/-- Counted from zero, under a fresh id. -/
def createEvent (s : Db) (row : Event) (id : EventId) : Option (Db × Reply) :=
  if s.event.lookup id ≠ none then none
  else some ({ s with event := s.event.put id row }, .answer (.ok (.event row)))

/-- One `UPDATE`; a request without fields reads the row. -/
def update (tx : ℕ) (s : Db) (event : EventId) (patch : Patch) : Option (Db × Reply) :=
  if patch.isEmpty then
    match (s.event.row event).seen tx with
    | none => some (s, .answer (.error .notFound))
    | some row => some (s, .answer (.ok (.event row)))
  else
    Rows.onRow (s.event.alterWhere tx event patch.ordered fun row => some (patch.apply row))
      (s, .answer (.error (if patch.guarded then rangeError else .notFound)))
      fun row rows => finish tx { s with event := rows } (.event (patch.apply row))

def Db.seatsOf (s : Db) (tx : ℕ) (event : EventId) : List UserId :=
  (s.registration.visible tx fun _ row => row.event = event).map fun row => row.1.2

def deleteSeats (tx : ℕ) (s : Db) (event : EventId) : List UserId → Option (Db × Reply)
  | [] => some (s, .goto (.deleteEvent event))
  | user :: rest =>
      (s.registration.alter tx (event, user) fun _ => none).map fun r =>
        ({ s with registration := r.2 }, .goto (.deleteSeats event rest))

/-- A seat that still names the event refuses the statement, and the wrapper runs the whole
transaction again. -/
def deleteEvent (tx : ℕ) (s : Db) (event : EventId) : Option (Db × Reply) :=
  Rows.onRow (s.event.alter tx event fun _ => none) (refuse tx s .notFound) fun _ rows =>
    if (s.seatsOf tx event).isEmpty then finish tx { s with event := rows } .deleted
    else (s.rollback tx, .goto (.findSeats event))

def readForUser (tx : ℕ) (s : Db) (seat : Seat) : Reply :=
  match (s.registration.row seat.key).seen tx with
  | some existing => .answer (.ok (.seat existing))
  | none => .goto (.readEvent seat)

/-- Read for its refusals only. -/
def readEvent (tx : ℕ) (s : Db) (seat : Seat) : Reply :=
  match (s.event.row seat.event).seen tx with
  | none => .answer (.error .notFound)
  | some event =>
      match event.registrationCapacity s.clock with
      | .error e => .answer (.error e)
      | .ok _ => .goto (.claimSeat seat)

def claimSeat (tx : ℕ) (s : Db) (seat : Seat) : Reply :=
  if ((s.appUser.row seat.user).seen tx).any fun role => decide (role ≠ .parent) then
    .goto (.person seat s.clock (((s.event.row seat.event).seen tx).any Event.hasRoom))
  else .goto (.readFull seat)

/-- `SELECT 1 FROM app_user … FOR NO KEY UPDATE` -/
def person (tx : ℕ) (s : Db) (seat : Seat) (createdAt : Timestamp) (room : Bool) :
    Option (Db × Reply) :=
  Rows.onRow (s.appUser.alterWhere tx seat.user (fun role => decide (role ≠ .parent)) some)
    (s.commit tx, .goto (.readFull seat)) fun _ rows =>
      let s' := { s with appUser := rows }
      if room then (s', .goto (.takeSeat seat createdAt))
        else (s'.commit tx, .goto (.readFull seat))

/-- `UPDATE event SET registration_count = registration_count + 1` under the capacity of the
row as it is now. -/
def takeSeat (tx : ℕ) (s : Db) (seat : Seat) (createdAt : Timestamp) : Option (Db × Reply) :=
  Rows.onRow (s.event.alterWhere tx seat.event Event.hasRoom fun row => some row.take)
    (s.commit tx, .goto (.readFull seat)) fun _ rows =>
      ({ s with event := rows }, .goto (.insert seat createdAt))

/-- The pair is the key.  A row that is there fails the whole statement. -/
def insert (tx : ℕ) (s : Db) (seat : Seat) (createdAt : Timestamp) : Option (Db × Reply) :=
  let held := s.registration.row seat.key
  if held.free tx then
    if (held.seen tx).isSome then some (s.rollback tx, .goto (.readDuplicate seat))
    else if ((s.appUser.row seat.registeredBy).seen tx).isNone then some (refuse tx s .db)
    else
      let row : Registration := ⟨seat.event, seat.user, seat.registeredBy, createdAt⟩
      some (finish tx { s with registration := s.registration.write tx seat.key (some row) }
        (.seat row))
  else none

def readDuplicate (tx : ℕ) (s : Db) (seat : Seat) : Reply :=
  match (s.registration.row seat.key).seen tx with
  | some existing => .answer (.ok (.seat existing))
  | none => .answer (.error (.internal "failed to register user"))

def readFull (tx : ℕ) (s : Db) (seat : Seat) : Reply :=
  match (s.event.row seat.event).seen tx with
  | none => .answer (.error .notFound)
  | some _ => .goto (.readHolder seat)

def readHolder (tx : ℕ) (s : Db) (seat : Seat) : Reply :=
  if (s.appUser.row seat.user).seen tx = some .parent then
    .answer (.error (.forbidden
      ("that account was demoted to parent while this request ran — " ++
        "only students can be registered for")))
  else .answer (.error (.conflict "the event is full"))

def deleteSeat (tx : ℕ) (s : Db) (event : EventId) (user : UserId) : Option (Db × Reply) :=
  Rows.onRow (s.registration.alter tx (event, user) fun _ => none)
    (finish tx s (.removed none)) fun gone rows =>
      ({ s with registration := rows }, .goto (.returnSeat gone))

def returnSeat (tx : ℕ) (s : Db) (gone : Registration) : Option (Db × Reply) :=
  (s.event.alter tx gone.event fun row => some row.giveBack).map fun r =>
    finish tx { s with event := r.2 } (.removed (some gone))

def keepOneAdmin : AppError :=
  .conflict "the school must keep at least one admin — promote another account first"

/-- Only a demotion reads the role, and only that of an admin asks for the others. -/
def readRole (tx : ℕ) (s : Db) (user : UserId) (role : Role) (now : Timestamp) : Reply :=
  if role ≠ .admin ∧ (s.appUser.row user).seen tx = some .admin then
    .goto (.findAdmins user role now)
  else .goto (.writeRole user role now)

def Db.admins (s : Db) (tx : ℕ) : List UserId :=
  (s.appUser.visible tx fun _ role => role = .admin).map Prod.fst

def lockAdmins (tx : ℕ) (s : Db) (user : UserId) (role : Role) (now : Timestamp) (locked : ℕ) :
    List UserId → Option (Db × Reply)
  | [] =>
      if locked ≤ 1 then some (refuse tx s keepOneAdmin)
      else some (s, .goto (.writeRole user role now))
  | admin :: rest =>
      (s.appUser.alterWhere tx admin (fun r => decide (r = .admin)) some).map fun r =>
        ({ s with appUser := r.2 },
          .goto (.lockAdmins user role now rest (locked + if r.1.isSome then 1 else 0)))

/-- The floor is the `WHERE` of the write.  Below it only a fall to parent goes on to the
seats. -/
def writeRole (tx : ℕ) (s : Db) (user : UserId) (role : Role) (now : Timestamp) :
    Option (Db × Reply) :=
  let others := (s.admins tx).filter fun admin => admin ≠ user
  Rows.onRow
    (s.appUser.alterWhere tx user
      (fun r => !(decide (r = .admin) && decide (role ≠ .admin) && others.isEmpty))
      fun _ => some role)
    (refuse tx s keepOneAdmin) fun _ rows =>
      let s' := { s with appUser := rows }
      if role = .parent then (s', .goto (.findStray user now)) else finish tx s' (.role user)

/-- The signups whose event is gone. -/
def Db.stray (s : Db) (tx : ℕ) (user : UserId) : List EventId :=
  (s.registration.visible tx fun k _ =>
    k.2 = user ∧ (s.event.row k.1).seen tx = none).map fun row => row.1.1

def deleteStray (tx : ℕ) (s : Db) (user : UserId) (now : Timestamp) :
    List EventId → Option (Db × Reply)
  | [] => some (s, .goto (.findFreeable user now))
  | event :: rest =>
      (s.registration.alter tx (event, user) fun _ => none).map fun r =>
        ({ s with registration := r.2 }, .goto (.deleteStray user now rest))

def Db.freeable (s : Db) (tx : ℕ) (user : UserId) (now : Timestamp) : List EventId :=
  (s.registration.visible tx fun k _ =>
    k.2 = user ∧ ((s.event.row k.1).seen tx).any fun row => !row.frozen now).map fun row => row.1.1

def deleteFreeable (tx : ℕ) (s : Db) (user : UserId) (gone : List EventId) :
    List EventId → Option (Db × Reply)
  | [] => some (s, .goto (.returnSeats user gone))
  | event :: rest =>
      (s.registration.alter tx (event, user) fun _ => none).map fun r =>
        ({ s with registration := r.2 },
          .goto (.deleteFreeable user rest (if r.1.isSome then event :: gone else gone)))

def returnSeats (tx : ℕ) (s : Db) (user : UserId) : List EventId → Option (Db × Reply)
  | [] => some (finish tx s (.role user))
  | event :: rest =>
      (s.event.alter tx event fun row => some row.giveBack).map fun r =>
        ({ s with event := r.2 }, .goto (.returnSeats user rest))

def run (tx : ℕ) (s : Db) (w : World) : Point → Option (Db × Reply)
  | .createEvent row => createEvent s row ⟨w.uuid⟩
  | .update event patch => update tx s event patch
  | .findSeats event => some (s, .goto (.deleteSeats event (s.seatsOf tx event)))
  | .deleteSeats event users => deleteSeats tx s event users
  | .deleteEvent event => deleteEvent tx s event
  | .readForUser seat => some (s, readForUser tx s seat)
  | .readEvent seat => some (s, readEvent tx s seat)
  | .claimSeat seat => some (s, claimSeat tx s seat)
  | .person seat createdAt room => person tx s seat createdAt room
  | .takeSeat seat createdAt => takeSeat tx s seat createdAt
  | .insert seat createdAt => insert tx s seat createdAt
  | .readDuplicate seat => some (s, readDuplicate tx s seat)
  | .readFull seat => some (s, readFull tx s seat)
  | .readHolder seat => some (s, readHolder tx s seat)
  | .deleteSeat event user => deleteSeat tx s event user
  | .returnSeat gone => returnSeat tx s gone
  | .setRole user role => some (s, .goto (.readRole user role s.clock))
  | .readRole user role now => some (s, readRole tx s user role now)
  | .findAdmins user role now => some (s, .goto (.lockAdmins user role now (s.admins tx) 0))
  | .lockAdmins user role now rest locked => lockAdmins tx s user role now locked rest
  | .writeRole user role now => writeRole tx s user role now
  | .findStray user now => some (s, .goto (.deleteStray user now (s.stray tx user)))
  | .deleteStray user now rest => deleteStray tx s user now rest
  | .findFreeable user now =>
      some (s, .goto (.deleteFreeable user (s.freeable tx user now) []))
  | .deleteFreeable user rest gone => deleteFreeable tx s user gone rest
  | .returnSeats user gone => returnSeats tx s user gone

def next (tx : ℕ) (s : Db) (p : Point) (w : World) : Option (Db × Reply) :=
  run tx { s with clock := s.clock + w.elapsed } w p

def Request.entry : Request → Point
  | .createEvent title description audience startsAt endsAt =>
      .createEvent ⟨title, description, audience, startsAt, endsAt, 0⟩
  | .update event patch => .update event patch
  | .delete event => .findSeats event
  | .register seat => .readForUser seat
  | .remove event user => .deleteSeat event user
  | .setRole user role => .setRole user role

/-- A transaction that is given up, for a retry too, rolls back. -/
def machine : Machine Db Point Request World (Except AppError Answer) where
  entry := Request.entry
  next := next
  rollback := Db.rollback

def start (accounts : List (UserId × Role)) (clock : Timestamp) : Config Db Point :=
  .initial ⟨accounts.foldl (fun t account => t.put account.1 account.2) ∅, ∅, ∅, clock⟩

end Hezarfen.Signups
