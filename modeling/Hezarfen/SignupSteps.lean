import Hezarfen.Signups

/-!
# What a statement does to the seats

The counter of an event is its registration rows, up to what the open transactions owe.  One
lemma for each group of points says what the point after it owes and holds, and what the step
moves in the committed tables.
-/

namespace Hezarfen.Signups

open Interleaving ReadCommitted
open School (Role)

variable {row : Registration} {p q : Point} {s' : Db} {n : Reply} {old : Option Event}
  {rows : Rows (EventId × UserId) Registration} {event : EventId} {k : EventId × UserId}

def seatCount : RefCount EventId Event Registration where
  counter := Event.registrationCount
  weight event row := if row.event = event then 1 else 0
  weight_nonneg event row := by
    split <;> decide

theorem seatCount_releases : seatCount.Releases 1 Event.giveBack := fun _ => rfl

def Event.plan (event : Event) : EventAudience × Option Timestamp × Option Timestamp :=
  (event.audience, event.startsAt, event.endsAt)

theorem frozen_congr {row row' : Event} (h : row.plan = row'.plan) (now : Timestamp) :
    row.frozen now = row'.frozen now := by
  simp only [Event.plan, Prod.mk.injEq] at h
  rw [Event.frozen, Event.frozen, h.1, h.2.1, h.2.2]

structure Inv (s : Db) : Prop where
  counted : seatCount.Counted s.event s.registration
  keyed : s.registration.Every fun k row => row.event = k.1
  events : s.event.Descends fun row row' => row.plan = row'.plan
  seats : s.registration.Descends Eq

def Db.Idle (tx : ℕ) (s : Db) : Prop :=
  s.appUser.Idle tx ∧ s.event.Idle tx ∧ s.registration.Idle tx

def Db.owed (s : Db) (tx : ℕ) (event : EventId) : ℤ :=
  seatCount.owed tx s.event s.registration event

/-- What the others keep, the clock included. -/
structure Db.Apart (tx : ℕ) (s s' : Db) : Prop where
  clock : s.clock ≤ s'.clock
  appUser : s.appUser.Apart tx s'.appUser
  event : s.event.Apart tx s'.event
  registration : s.registration.Apart tx s'.registration

structure Moves (tx : ℕ) (s s' : Db) : Prop where
  inv : Inv s'
  apart : s.Apart tx s'

def Point.due (event : EventId) : Point → ℤ
  | .insert seat _ => if seat.event = event then -1 else 0
  | .returnSeat gone => if gone.event = event then -1 else 0
  | .deleteFreeable _ _ gone => -(gone.count event : ℤ)
  | .returnSeats _ gone => -(gone.count event : ℤ)
  | _ => 0

def Point.clears : Point → Option EventId
  | .deleteSeats event _ => some event
  | .deleteEvent event => some event
  | _ => none

def Point.demotes : Point → Option UserId
  | .findStray user _ => some user
  | .deleteStray user _ _ => some user
  | .findFreeable user _ => some user
  | .deleteFreeable user _ _ => some user
  | .returnSeats user _ => some user
  | _ => none

def Point.locks : Point → Bool
  | .takeSeat .. | .insert .. | .lockAdmins .. | .writeRole .. | .findStray .. | .deleteStray ..
  | .findFreeable .. | .deleteFreeable .. | .returnSeats .. => true
  | _ => false

def Point.counts : Point → Bool
  | .insert .. | .returnSeats .. => true
  | _ => false

def Point.deletes : Point → Bool
  | .deleteSeats .. | .deleteEvent .. | .returnSeat .. | .deleteFreeable .. | .returnSeats .. =>
      true
  | _ => false

def HoldsPerson (tx : ℕ) (s : Db) (user : UserId) : Prop :=
  (s.appUser.row user).Held tx ∧
    ∃ role, (s.appUser.row user).committed = some role ∧ role ≠ .parent

def HoldsRoom (tx : ℕ) (s : Db) (event : EventId) : Prop :=
  (s.event.row event).Held tx ∧
    ∃ row, (s.event.row event).committed = some row ∧ row.hasRoom = true

def Point.Knows (tx : ℕ) (s : Db) : Point → Prop
  | .takeSeat seat _ => HoldsPerson tx s seat.user
  | .insert seat _ => HoldsPerson tx s seat.user ∧ HoldsRoom tx s seat.event
  | .readRole _ _ now | .findAdmins _ _ now | .lockAdmins _ _ now _ _ | .writeRole _ _ now
  | .findStray _ now | .findFreeable _ now => now ≤ s.clock
  | .deleteStray _ now rest => now ≤ s.clock ∧ rest = []
  | .createEvent row => row.registrationCount = 0
  | _ => True

structure Point.Holds (tx : ℕ) (p : Point) (s : Db) : Prop where
  owes : ∀ event, p.clears ≠ some event → s.owed tx event = p.due event
  accounts : p.locks = false → s.appUser.Idle tx
  events : p.counts = false → s.event.Idle tx
  rows : p.deletes = false → s.registration.Idle tx
  roles : ∀ user, p.demotes ≠ some user →
    (s.appUser.row user).seen tx = (s.appUser.row user).committed
  demoted : ∀ user, p.demotes = some user →
    (s.appUser.row user).Held tx ∧ (s.appUser.row user).seen tx = some .parent
  knows : p.Knows tx s

structure Admitted (s : Db) (seat : Seat) : Prop where
  vacant : (s.registration.row seat.key).committed = none
  room : ∃ row, (s.event.row seat.event).committed = some row ∧ row.hasRoom = true
  role : ∃ role, (s.appUser.row seat.user).committed = some role ∧ role ≠ .parent

structure Shifts (p : Point) (s s' : Db) : Prop where
  clock : s'.clock = s.clock
  seats : ∀ k, (s'.registration.row k).committed = (s.registration.row k).committed ∨
    (s'.registration.row k).committed = none ∨
    ∃ seat createdAt, p = .insert seat createdAt ∧ k = seat.key ∧ Admitted s seat
  roles : ∀ user, (s'.appUser.row user).committed = (s.appUser.row user).committed ∨
    (∃ role, (s'.appUser.row user).committed = some role ∧ role ≠ .parent) ∨
    (p = .returnSeats user [] ∧ (s'.appUser.row user).committed = some .parent)
  events : ∀ event, (s'.event.row event).committed = (s.event.row event).committed ∨
    (s'.event.row event).committed = none ∨
    (s.event.row event).committed = none ∨
    (∃ patch row, p = .update event patch ∧ (s.event.row event).committed = some row ∧
      (s'.event.row event).committed = some (patch.apply row)) ∨
    ∃ row row', (s.event.row event).committed = some row ∧
      (s'.event.row event).committed = some row' ∧ row.plan = row'.plan

def Point.registers : Point → Option Seat
  | .readForUser seat | .readEvent seat | .claimSeat seat | .person seat ..
  | .takeSeat seat _ | .insert seat _
      | .readDuplicate seat | .readFull seat | .readHolder seat => some seat
  | _ => none

def Same (s s' : Db) : Prop :=
  (∀ k, (s'.registration.row k).committed = (s.registration.row k).committed) ∧
    ∀ event, (s'.event.row event).committed = (s.event.row event).committed

structure Lands (tx : ℕ) (p : Point) (s s' : Db) (n : Reply) : Prop where
  moves : Moves tx s s'
  shifts : Shifts p s s'
  repeats : ∀ seat, p.registers = some seat → Same s s' ∨ Admitted s seat
  goes : ∀ q, n = .goto q → q.Holds tx s'
  ends : ∀ a, n = .answer a → s'.Idle tx

/-! ## Small facts -/

variable {s : Db}

theorem Inv.refl (hinv : Inv s) (tx : ℕ) : Moves tx s s :=
  ⟨hinv, ⟨le_rfl, .refl tx _, .refl tx _, .refl tx _⟩⟩

theorem Shifts.refl (p : Point) (s : Db) : Shifts p s s :=
  ⟨rfl, fun _ => .inl rfl, fun _ => .inl rfl, fun _ => .inl rfl⟩

/-- A step that leaves the committed tables alone. -/
theorem Shifts.of_same (hclock : s'.clock = s.clock)
    (hroles : ∀ user, (s'.appUser.row user).committed = (s.appUser.row user).committed)
    (h : Same s s') : Shifts p s s' :=
  ⟨hclock, fun k => .inl (h.1 k), fun user => .inl (hroles user), fun event => .inl (h.2 event)⟩

theorem Same.refl (s : Db) : Same s s := ⟨fun _ => rfl, fun _ => rfl⟩

variable {tx : ℕ}

/-- A point that owes nothing yet and has written no role. -/
theorem holds_of_idle (h : s.Idle tx) (hdue : ∀ event, q.due event = 0)
    (hdemotes : q.demotes = none) (hknows : q.Knows tx s) :
    q.Holds tx s where
  owes event _ := by
    rw [hdue]
    exact RefCount.owed_of_idle h.2.1 h.2.2 event
  accounts _ := h.1
  events _ := h.2.1
  rows _ := h.2.2
  roles user _ := Row.seen_eq_committed (h.1 user)
  demoted user huser := by
    rw [hdemotes] at huser
    cases huser
  knows := hknows

theorem Point.Holds.idle (h : p.Holds tx s) (hlocks : p.locks = false)
    (hcounts : p.counts = false) (hdeletes : p.deletes = false) :
    s.Idle tx :=
  ⟨h.accounts hlocks, h.events hcounts, h.rows hdeletes⟩

theorem Db.idle_commit (tx : ℕ) (s : Db) : (s.commit tx).Idle tx :=
  ⟨Rows.idle_commit tx _, Rows.idle_commit tx _, Rows.idle_commit tx _⟩

theorem Db.idle_rollback (tx : ℕ) (s : Db) : (s.rollback tx).Idle tx :=
  ⟨Rows.idle_rollback tx _, Rows.idle_rollback tx _, Rows.idle_rollback tx _⟩

theorem Inv.rollback (hinv : Inv s) (tx : ℕ) : Moves tx s (s.rollback tx) where
  inv :=
    { counted := hinv.counted.rollback tx
      keyed := hinv.keyed.rollback tx
      events := hinv.events.rollback (fun _ => rfl) tx
      seats := hinv.seats.rollback (fun _ => rfl) tx }
  apart := ⟨le_rfl, .rollback tx _, .rollback tx _, .rollback tx _⟩

theorem Inv.commit (hinv : Inv s) (howed : ∀ event, s.owed tx event = 0) :
    Moves tx s (s.commit tx) where
  inv :=
    { counted := hinv.counted.commit howed
      keyed := hinv.keyed.commit tx
      events := hinv.events.commit (fun _ => rfl) tx
      seats := hinv.seats.commit (fun _ => rfl) tx }
  apart := ⟨le_rfl, .commit tx _, .commit tx _, .commit tx _⟩

theorem same_rollback (tx : ℕ) (s : Db) : Same s (s.rollback tx) :=
  ⟨Rows.committed_rollback tx s.registration, Rows.committed_rollback tx s.event⟩

theorem shifts_rollback (p : Point) (tx : ℕ) (s : Db) : Shifts p s (s.rollback tx) :=
  .of_same rfl (Rows.committed_rollback tx s.appUser) (same_rollback tx s)

theorem committed_commit {K V : Type} [DecidableEq K] (tx : ℕ) (t : Rows K V) (k : K) :
    ((t.commit tx).row k).committed = (t.row k).seen tx := by
  rw [Rows.row_commit, Row.committed_commit]

theorem same_commit (hevents : s.event.Idle tx)
    (hrows : s.registration.Idle tx) : Same s (s.commit tx) := by
  refine ⟨fun k => ?_, fun event => ?_⟩
  · exact (committed_commit tx s.registration k).trans (Row.seen_eq_committed (hrows k))
  · exact (committed_commit tx s.event event).trans (Row.seen_eq_committed (hevents event))

theorem Inv.commit_seats (hinv : Inv s) (tx : ℕ) (k : EventId × UserId) :
    ((s.commit tx).registration.row k).committed = (s.registration.row k).committed ∨
      ((s.commit tx).registration.row k).committed = none := by
  have hcommitted := committed_commit tx s.registration k
  cases hseen : (s.registration.row k).seen tx with
  | none => exact .inr (hcommitted.trans hseen)
  | some row =>
      obtain ⟨row', hrow', rfl⟩ := hinv.seats k tx row hseen
      exact .inl ((hcommitted.trans hseen).trans hrow'.symm)

theorem Inv.commit_events (hinv : Inv s) (tx : ℕ) (event : EventId) :
    ((s.commit tx).event.row event).committed = none ∨
      ∃ row row', (s.event.row event).committed = some row ∧
        ((s.commit tx).event.row event).committed = some row' ∧ row.plan = row'.plan := by
  have hcommitted := committed_commit tx s.event event
  cases hseen : (s.event.row event).seen tx with
  | none => exact .inl (hcommitted.trans hseen)
  | some row' =>
      obtain ⟨row, hrow, hplan⟩ := hinv.events event tx row' hseen
      exact .inr ⟨row, row', hrow, hcommitted.trans hseen, hplan⟩

/-- A step inside a transaction that only read. -/
theorem lands_read (hinv : Inv s) (hgoes : ∀ q, n = .goto q → q.Holds tx s)
    (hends : ∀ a, n = .answer a → s.Idle tx) :
    Lands tx p s s n :=
  ⟨hinv.refl tx, .refl p s, fun _ _ => .inl (.refl s), hgoes, hends⟩

theorem lands_quiet (hinv : Inv s) (hidle : s.Idle tx)
    (hdue : ∀ event, q.due event = 0) (hdemotes : q.demotes = none) (hknows : q.Knows tx s) :
    Lands tx p s s (.goto q) :=
  lands_read hinv
    (fun q' hq => by cases hq; exact holds_of_idle hidle hdue hdemotes hknows)
    (fun a ha => by cases ha)

theorem lands_answer {a : Except AppError Answer} (hinv : Inv s)
    (hidle : s.Idle tx) : Lands tx p s s (.answer a) :=
  lands_read hinv (fun q hq => by cases hq) (fun _ _ => hidle)

theorem lands_refuse (hinv : Inv s) (tx : ℕ) (p : Point) (e : AppError) :
    Lands tx p s (refuse tx s e).1 (refuse tx s e).2 :=
  ⟨hinv.rollback tx, shifts_rollback p tx s, fun _ _ => .inl (same_rollback tx s),
    fun q hq => (by cases hq), fun _ _ => s.idle_rollback tx⟩

theorem lands_undo (hinv : Inv s) (tx : ℕ) (p : Point) (hdue : ∀ event, q.due event = 0)
    (hdemotes : q.demotes = none) (hknows : q.Knows tx (s.rollback tx)) :
    Lands tx p s (s.rollback tx) (.goto q) :=
  ⟨hinv.rollback tx, shifts_rollback p tx s, fun _ _ => .inl (same_rollback tx s),
    fun q' hq => by
      cases hq
      exact holds_of_idle (s.idle_rollback tx) hdue hdemotes hknows,
    fun a ha => by cases ha⟩

/-- The end of a statement that found nothing to write. -/
theorem lands_missed (hinv : Inv s) (hevents : s.event.Idle tx)
    (hrows : s.registration.Idle tx)
    (hroles : ∀ user, (s.appUser.row user).seen tx = (s.appUser.row user).committed)
    (hgoes : ∀ q, n = .goto q →
      (∀ event, q.due event = 0) ∧ q.demotes = none ∧ q.Knows tx (s.commit tx)) :
    Lands tx p s (s.commit tx) n where
  moves := hinv.commit (RefCount.owed_of_idle hevents hrows)
  shifts := .of_same rfl (fun user => (committed_commit tx s.appUser user).trans (hroles user))
    (same_commit hevents hrows)
  repeats _ _ := .inl (same_commit hevents hrows)
  goes q hq := by
    obtain ⟨hdue, hdemotes, hknows⟩ := hgoes q hq
    exact holds_of_idle (s.idle_commit tx) hdue hdemotes hknows
  ends _ _ := s.idle_commit tx

theorem lands_commit (hinv : Inv s) (howed : ∀ event, s.owed tx event = 0)
    (hp : p.registers = none)
    (hroles : ∀ user, (s.appUser.row user).seen tx = (s.appUser.row user).committed ∨
      (∃ role, (s.appUser.row user).seen tx = some role ∧ role ≠ .parent) ∨
      (p = .returnSeats user [] ∧ (s.appUser.row user).seen tx = some .parent))
    (a : Except AppError Answer) : Lands tx p s (s.commit tx) (.answer a) where
  moves := hinv.commit howed
  shifts :=
    { clock := rfl
      seats := fun k => (hinv.commit_seats tx k).imp_right .inl
      roles := fun user => by
        have hcommitted := committed_commit tx s.appUser user
        have hrole := hroles user
        rw [← hcommitted] at hrole
        exact hrole
      events := fun event => by
        rcases hinv.commit_events tx event with hgone | hsame
        · exact .inr (.inl hgone)
        · exact .inr (.inr (.inr (.inr hsame))) }
  repeats seat hseat := by
    rw [hp] at hseat
    cases hseat
  goes q hq := by cases hq
  ends _ _ := s.idle_commit tx

theorem Admitted.of_same {seat : Seat}
    (hroles : ∀ user, (s'.appUser.row user).committed = (s.appUser.row user).committed)
    (hsame : Same s s') (h : Admitted s' seat) : Admitted s seat where
  vacant := (hsame.1 seat.key).symm.trans h.vacant
  room := by
    rw [← hsame.2 seat.event]
    exact h.room
  role := by
    rw [← hroles seat.user]
    exact h.role

theorem Lands.after {s'' : Db} (hmoves : Moves tx s s') (hclock : s'.clock = s.clock)
    (hroles : ∀ user, (s'.appUser.row user).committed = (s.appUser.row user).committed)
    (hsame : Same s s') (h : Lands tx p s' s'' n) : Lands tx p s s'' n where
  moves :=
    { inv := h.moves.inv
      apart :=
        ⟨hmoves.apart.clock.trans h.moves.apart.clock,
          hmoves.apart.appUser.trans h.moves.apart.appUser,
          hmoves.apart.event.trans h.moves.apart.event,
          hmoves.apart.registration.trans h.moves.apart.registration⟩ }
  shifts :=
    { clock := h.shifts.clock.trans hclock
      seats := fun k => by
        have hseats := h.shifts.seats k
        rw [hsame.1 k] at hseats
        refine hseats.imp_right (Or.imp_right fun hinsert => ?_)
        obtain ⟨seat, createdAt, hp, hk, hadmitted⟩ := hinsert
        exact ⟨seat, createdAt, hp, hk, hadmitted.of_same hroles hsame⟩
      roles := fun user => by
        rw [← hroles user]
        exact h.shifts.roles user
      events := fun event => by
        rw [← hsame.2 event]
        exact h.shifts.events event }
  repeats seat hseat := by
    refine (h.repeats seat hseat).imp (fun hnext => ?_) (fun h => h.of_same hroles hsame)
    exact ⟨fun k => (hnext.1 k).trans (hsame.1 k), fun event =>
      (hnext.2 event).trans (hsame.2 event)⟩
  goes := h.goes
  ends := h.ends

/-! ## Writes of one table -/

section Writes

/-- A lock on an account, or a new version of it. -/
theorem moves_account (hinv : Inv s) {user : UserId} {q : Role → Bool} {f : Role → Option Role}
    {old : Option Role} {rows : Rows UserId Role}
    (halter : s.appUser.alterWhere tx user q f = some (old, rows)) :
    Moves tx s { s with appUser := rows } :=
  ⟨⟨hinv.counted, hinv.keyed, hinv.events, hinv.seats⟩,
    ⟨le_rfl, .alter halter, .refl tx _, .refl tx _⟩⟩

theorem shifts_account (p : Point) {user : UserId} {q : Role → Bool} {f : Role → Option Role}
    {old : Option Role} {rows : Rows UserId Role}
    (halter : s.appUser.alterWhere tx user q f = some (old, rows)) :
    Shifts p s { s with appUser := rows } :=
  .of_same rfl (Rows.committed_alter halter) (.refl s)

theorem moves_event (hinv : Inv s) {q : Event → Bool} {f : Event → Event}
    {rows : Rows EventId Event} (hf : ∀ row, (f row).plan = row.plan)
    (halter : s.event.alterWhere tx event q (fun row => some (f row)) = some (old, rows)) :
    Moves tx s { s with event := rows } where
  inv :=
    { counted := by
        intro k
        rw [Rows.total_alter halter]
        exact hinv.counted k
      keyed := hinv.keyed
      events := hinv.events.alter
        (fun row row' w hplan hw => by cases hw; exact hplan.trans (hf row').symm) halter
      seats := hinv.seats }
  apart := ⟨le_rfl, .refl tx _, .alter halter, .refl tx _⟩

theorem same_event {q : Event → Bool} {f : Event → Option Event} {rows : Rows EventId Event}
    (halter : s.event.alterWhere tx event q f = some (old, rows)) :
    Same s { s with event := rows } :=
  ⟨fun _ => rfl, Rows.committed_alter halter⟩

theorem moves_seat (hinv : Inv s) {old : Option Registration}
    (halter : s.registration.alter tx k (fun _ => none) = some (old, rows)) :
    Moves tx s { s with registration := rows } where
  inv :=
    { counted := by
        intro event
        rw [Rows.total_alter halter]
        exact hinv.counted event
      keyed := hinv.keyed.alter (fun _ _ _ hw => by cases hw) halter
      events := hinv.events
      seats := hinv.seats.alter (fun _ _ _ _ hw => by cases hw) halter }
  apart := ⟨le_rfl, .refl tx _, .refl tx _, .alter halter⟩

theorem same_seat {old : Option Registration}
    (halter : s.registration.alter tx k (fun _ => none) = some (old, rows)) :
    Same s { s with registration := rows } :=
  ⟨Rows.committed_alter halter, fun _ => rfl⟩

/-- A deleted seat is owed to the counter of its event. -/
theorem owed_seat (hinv : Inv s) {old : Option Registration}
    (halter : s.registration.alter tx k (fun _ => none) = some (old, rows)) (event : EventId) :
    Db.owed { s with registration := rows } tx event =
      s.owed tx event - if old.isSome ∧ k.1 = event then 1 else 0 := by
  have howed : Db.owed { s with registration := rows } tx event = s.owed tx event +
      (Row.amount (seatCount.weight event) (old.bind fun _ => none) -
        Row.amount (seatCount.weight event) old) := RefCount.owed_rows halter event
  rw [howed]
  cases old with
  | none => simp [Row.amount]
  | some row =>
      have hkey : row.event = k.1 := hinv.keyed.seen (Rows.alter_cases halter).1
      simp only [Row.amount, Option.bind_some, Option.elim, seatCount, hkey, Option.isSome_some,
        true_and]
      split <;> omega

/-- A seat that is owed comes back. -/
theorem owed_giveBack (hinv : Inv s) {rows : Rows EventId Event} (howed : s.owed tx event ≤ -1)
    (halter : s.event.alter tx event (fun row => some row.giveBack) = some (old, rows))
    (k : EventId) :
    Db.owed { s with event := rows } tx k = s.owed tx k + if event = k then 1 else 0 :=
  RefCount.owed_release_due hinv.counted seatCount_releases (by decide) howed halter k

/-- A seat that is counted has its event. -/
theorem event_of_row {counters : Rows EventId Event}
    (hcounted : counters.total (seatCount.reads k.1) =
      rows.total fun _ => seatCount.weight k.1) (hkey : row.event = k.1)
    (hrow : (rows.row k).committed = some row) :
    ∃ event, (counters.row k.1).committed = some event := by
  have hcount : (rows.total fun _ => seatCount.weight k.1) =
      rows.count fun _ row => decide (row.event = k.1) := by
    rw [← Rows.total_count]
    simp [seatCount]
  have hpos : 0 < rows.count fun _ row => decide (row.event = k.1) :=
    Rows.count_pos hrow (decide_eq_true hkey)
  rw [RefCount.total_reads] at hcounted
  cases hevent : (counters.row k.1).committed with
  | some event => exact ⟨event, rfl⟩
  | none =>
      rw [hevent] at hcounted
      simp only [Row.amount, Option.elim] at hcounted
      omega

theorem event_of_seat (hinv : Inv s) (howed : s.owed tx k.1 = 0)
    (hrow : (s.registration.row k).seen tx = some row) :
    ∃ event, (s.event.row k.1).seen tx = some event := by
  have hseen := hinv.counted.seen tx k.1
  have hzero : seatCount.owed tx s.event s.registration k.1 = 0 := howed
  rw [hzero, add_zero, ← committed_commit, ← RefCount.total_reads] at hseen
  obtain ⟨event, hevent⟩ := event_of_row hseen (hinv.keyed.seen hrow)
    ((committed_commit tx s.registration k).trans hrow)
  exact ⟨event, (committed_commit tx s.event k.1).symm.trans hevent⟩

theorem event_of_committed (hinv : Inv s) (hrow : (s.registration.row k).committed = some row) :
    ∃ event, (s.event.row k.1).committed = some event :=
  event_of_row (hinv.counted k.1) (hinv.keyed k row (.inl hrow)) hrow

theorem total_of_empty (h : (s.seatsOf tx event).isEmpty = true) :
    ((s.registration.commit tx).total fun _ => seatCount.weight event) = 0 := by
  rw [List.isEmpty_iff, Db.seatsOf, List.map_eq_nil_iff] at h
  have hcount := Rows.count_visible tx s.registration (fun _ row => decide (row.event = event))
    Registration.event event
  rw [h] at hcount
  simp only [List.map_nil, List.count_nil, Nat.cast_zero, Bool.and_self, decide_eq_true_eq]
    at hcount
  exact hcount.symm

end Writes

end Hezarfen.Signups
