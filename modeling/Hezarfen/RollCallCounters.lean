import Hezarfen.RollCall
import Hezarfen.Transactions

/-!
# The two counters behind the roll call

`lessons_attended_total` follows the rows of a student as long as every upsert finds the
pair on the side of the attended line where it was read.  A removal that commits between
that read and the upsert breaks this: the counter is then moved by a crossing that did
not happen.  `lessons_held_total` follows the stamps of the sessions in every run.
-/

namespace Hezarfen.RollCall

open Interleaving ReadCommitted
open School (Role ClassCourseId)

variable {s s' : Db} {tx : ℕ} {user k : UserId} {p q : Point} {f : AppUser → AppUser}
  {old : Option AppUser}

def attends (user : UserId) (pair : CourseSessionId × UserId) (row : SessionAttendance) : Bool :=
  decide (pair.2 = user) && countsAsAttended row.status

def attendedBy (user id : UserId) (row : AppUser) : ℤ :=
  if id = user then row.lessonsAttendedTotal else 0

def heldBy (teacher id : UserId) (row : AppUser) : ℤ :=
  if id = teacher then row.lessonsHeldTotal else 0

def Db.heldAt (s : Db) (session : CourseSessionId) : Option Timestamp :=
  (s.courseSession.row session).committed.bind CourseSession.heldCountedAt

/-- A session of the teacher that was stamped since `start`. -/
def Db.stampedSince (start : Db) (teacher : UserId) (session : CourseSessionId)
    (row : CourseSession) : Bool :=
  decide (row.teacher = teacher) && row.heldCountedAt.isSome && (start.heldAt session).isNone

def one (b : Bool) : ℤ := if b then 1 else 0

def Db.attendedGain (s : Db) (tx : ℕ) (user : UserId) : ℤ :=
  s.sessionAttendance.gain (fun pair row => one (attends user pair row)) tx

def Db.heldGain (start s : Db) (tx : ℕ) (teacher : UserId) : ℤ :=
  s.courseSession.gain (fun session row => one (start.stampedSince teacher session row)) tx

def Db.attendedOwed (s : Db) (tx : ℕ) (user : UserId) : ℤ :=
  s.attendedGain tx user - s.appUser.gain (attendedBy user) tx

def Db.heldOwed (start s : Db) (tx : ℕ) (teacher : UserId) : ℤ :=
  start.heldGain s tx teacher - s.appUser.gain (heldBy teacher) tx

def Db.roleOf (s : Db) (user : UserId) : Option Role :=
  (s.appUser.row user).committed.map AppUser.role

def Db.attendedCount (s : Db) (user : UserId) : ℕ := s.sessionAttendance.count (attends user)

def Db.AttendedCounted (s : Db) : Prop :=
  ∀ user row, (s.appUser.row user).committed = some row → row.role = .student →
    row.lessonsAttendedTotal = s.attendedCount user

def Db.Settled (s : Db) : Prop :=
  s.courseSession.Settled ∧ s.sessionAttendance.Settled ∧ s.appUser.Settled

/-- The row the upsert overwrites is on the side of the attended line where it was read. -/
def undisturbed (tx : ℕ) (s : Db) : Point → Bool
  | .upsert job =>
      wasAttended (((s.sessionAttendance.row job.args.pair).seen tx).map
        SessionAttendance.status) == wasAttended job.was
  | _ => true

def Undisturbed (c : Config Db Point) : Move Request Timestamp → Prop
  | .advance tx _ => (c.calls.lookup tx).all (undisturbed tx c.shared) = true
  | _ => True

instance : ∀ (c : Config Db Point) (m : Move Request Timestamp), Decidable (Undisturbed c m)
  | c, .advance tx _ =>
      inferInstanceAs (Decidable ((c.calls.lookup tx).all (undisturbed tx c.shared) = true))
  | _, .start _ => isTrue trivial
  | _, .abandon _ => isTrue trivial

/-- A stamp is the one of `start`, or the clock of a mark that came after the bell. -/
def Db.StampOk (start : Db) (session : CourseSessionId) (row : CourseSession) : Prop :=
  start.heldAt session = row.heldCountedAt ∨
    start.heldAt session = none ∧ ∃ stamp, row.heldCountedAt = some stamp ∧
      row.startsAt ≤ stamp

def CourseSession.schedule (row : CourseSession) : UserId × Timestamp :=
  (row.teacher, row.startsAt)

structure Inv (start : Db) (watched : Prop) (s : Db) : Prop where
  roles : s.appUser.Fixed AppUser.role
  roleOf : ∀ user, s.roleOf user = start.roleOf user
  schedules : s.courseSession.Fixed CourseSession.schedule
  scheduleOf : ∀ session, (s.courseSession.row session).committed.map CourseSession.schedule =
    (start.courseSession.row session).committed.map CourseSession.schedule
  stamps : s.courseSession.Every start.StampOk
  attended : watched → ∀ user, start.roleOf user = some .student →
    s.appUser.total (attendedBy user) = s.attendedCount user
  held : ∀ teacher, (start.roleOf teacher).isSome →
    s.appUser.total (heldBy teacher) = start.appUser.total (heldBy teacher) +
      s.courseSession.count (start.stampedSince teacher)

def Point.attendedDue (user : UserId) : Point → ℤ
  | .countAttended job _ =>
      if job.args.user = user then
        one (countsAsAttended job.args.status) - one (wasAttended job.was)
      else 0
  | .deleteRow job => if job.user = user then one (countsAsAttended job.gone.status) else 0
  | _ => 0

def Point.heldDue (teacher : UserId) : Point → ℤ
  | .countHeld job _ => if job.sess.teacher = teacher then 1 else 0
  | _ => 0

structure Owes (start : Db) (watched : Prop) (tx : ℕ) (p : Point) (s : Db) : Prop where
  attended : watched → ∀ user, start.roleOf user = some .student →
    s.attendedOwed tx user = p.attendedDue user
  held : ∀ teacher, (start.roleOf teacher).isSome →
    start.heldOwed s tx teacher = p.heldDue teacher

def HoldsSession (tx : ℕ) (s : Db) (session : CourseSessionId) (sess : CourseSession) : Prop :=
  (s.courseSession.row session).Held tx ∧ (s.courseSession.row session).seen tx = some sess

def HoldsPair (tx : ℕ) (s : Db) (job : Removal) : Prop :=
  (s.sessionAttendance.row (job.session, job.user)).Held tx ∧
    (s.sessionAttendance.row (job.session, job.user)).seen tx = some job.gone

def Point.Knows (start : Db) (tx : ℕ) (s : Db) : Point → Prop
  | .readStatus args _ sess => HoldsSession tx s args.session sess
  | .readRole job => HoldsSession tx s job.args.session job.sess
  | .upsert job | .countAttended job _ =>
      HoldsSession tx s job.args.session job.sess ∧
        (start.roleOf job.args.user = some .student → job.isStudent = true)
  | .stampHeld job _ => HoldsSession tx s job.args.session job.sess
  | .readStudent job => HoldsPair tx s job ∧ countsAsAttended job.gone.status = true
  | .refund job =>
      HoldsPair tx s job ∧ countsAsAttended job.gone.status = true ∧
        (start.roleOf job.user = some .student → job.student = true)
  | .deleteRow job => HoldsPair tx s job
  | _ => True

def Db.Idle (tx : ℕ) (s : Db) : Prop :=
  s.courseSession.Idle tx ∧ s.sessionAttendance.Idle tx ∧ s.appUser.Idle tx

structure Db.Apart (tx : ℕ) (s s' : Db) : Prop where
  sessions : s.courseSession.Apart tx s'.courseSession
  rows : s.sessionAttendance.Apart tx s'.sessionAttendance
  users : s.appUser.Apart tx s'.appUser

section Run

variable {start : Db} {watched : Prop}

theorem total_attends (s : Db) (user : UserId) :
    s.sessionAttendance.total (fun pair row => one (attends user pair row)) =
      s.attendedCount user :=
  Rows.total_count _ _

/-- Every statement of the call reads the role of `start`. -/
theorem Inv.seen_role (hinv : Inv start watched s) (tx : ℕ) (user : UserId) :
    ((s.appUser.row user).seen tx).map AppUser.role = start.roleOf user := by
  rw [hinv.roles user tx]
  exact hinv.roleOf user

theorem Inv.isStudent_iff (hinv : Inv start watched s) (tx : ℕ) (user : UserId) :
    s.isStudent tx user = true ↔ start.roleOf user = some .student := by
  rw [← hinv.seen_role tx user]
  unfold Db.isStudent
  cases (s.appUser.row user).seen tx with
  | none | some => simp

theorem Inv.counter_seen (hinv : Inv start watched s) (hwatched : watched) {row : AppUser}
    (hrole : start.roleOf user = some .student) (hseen : (s.appUser.row user).seen tx = some row) :
    row.lessonsAttendedTotal + s.attendedOwed tx user =
      (s.sessionAttendance.commit tx).count (attends user) := by
  have hcounter := Rows.total_seen user AppUser.lessonsAttendedTotal tx s.appUser
  rw [hseen] at hcounter
  have hsum : s.appUser.total (attendedBy user) + s.appUser.gain (attendedBy user) tx =
      row.lessonsAttendedTotal := hcounter
  rw [hinv.attended hwatched user hrole] at hsum
  have hrows := Rows.total_commit (fun pair row => one (attends user pair row)) tx
    s.sessionAttendance
  rw [total_attends] at hrows
  have hcommit : (s.sessionAttendance.commit tx).total
      (fun pair row => one (attends user pair row)) =
        (s.sessionAttendance.commit tx).count (attends user) := Rows.total_count _ _
  unfold Db.attendedOwed Db.attendedGain
  omega

/-! ## One statement -/

theorem Owes.of_eq (h : Owes start watched tx p s)
    (hattended : ∀ user, s'.attendedOwed tx user = s.attendedOwed tx user)
    (hheld : ∀ teacher, start.heldOwed s' tx teacher = start.heldOwed s tx teacher)
    (hattendedDue : ∀ user, q.attendedDue user = p.attendedDue user)
    (hheldDue : ∀ teacher, q.heldDue teacher = p.heldDue teacher) :
    Owes start watched tx q s' where
  attended := by
    intro hwatched user hrole
    rw [hattended, hattendedDue]
    exact h.attended hwatched user hrole
  held := by
    intro teacher hteacher
    rw [hheld, hheldDue]
    exact h.held teacher hteacher

theorem attendedOwed_users {users : Rows UserId AppUser}
    (h : s.appUser.alter tx k (fun row => some (f row)) = some (old, users)) :
    ({ s with appUser := users } : Db).attendedOwed tx user =
      s.attendedOwed tx user -
        (Row.amount (attendedBy user k) (old.map f) - Row.amount (attendedBy user k) old) := by
  unfold Db.attendedOwed Db.attendedGain
  rw [Rows.gain_update h]
  dsimp only
  omega

theorem heldOwed_users {teacher : UserId} {users : Rows UserId AppUser}
    (h : s.appUser.alter tx k (fun row => some (f row)) = some (old, users)) :
    start.heldOwed { s with appUser := users } tx teacher =
      start.heldOwed s tx teacher -
        (Row.amount (heldBy teacher k) (old.map f) - Row.amount (heldBy teacher k) old) := by
  unfold Db.heldOwed Db.heldGain
  rw [Rows.gain_update h]
  dsimp only
  omega

/-- The counter of attended lessons moves by `delta`, the clamp at zero notwithstanding. -/
theorem amount_countAttended {row : AppUser} {delta : ℤ}
    (h : k = user → 0 ≤ row.lessonsAttendedTotal + delta) :
    attendedBy user k (row.countAttended delta) - attendedBy user k row =
      if k = user then delta else 0 := by
  unfold attendedBy
  split
  · next hk =>
    have hclamp := h hk
    simp only [AppUser.countAttended]
    omega
  · rfl

theorem Inv.users (hinv : Inv start watched s) {users : Rows UserId AppUser}
    (hf : ∀ row, (f row).role = row.role)
    (h : s.appUser.alter tx k (fun row => some (f row)) = some (old, users)) :
    Inv start watched { s with appUser := users } where
  roles := hinv.roles.alter (f := fun row => some (f row)) (fun row => congrArg some (hf row)) h
  roleOf := by
    intro user
    rw [← hinv.roleOf user]
    unfold Db.roleOf
    rw [Rows.committed_alter h]
  schedules := hinv.schedules
  scheduleOf := hinv.scheduleOf
  stamps := hinv.stamps
  attended := by
    intro hwatched user hrole
    rw [Rows.total_alter h]
    exact hinv.attended hwatched user hrole
  held := by
    intro teacher hteacher
    rw [Rows.total_alter h]
    exact hinv.held teacher hteacher

theorem Inv.sessions (hinv : Inv start watched s) {k : CourseSessionId}
    {f : CourseSession → CourseSession} {old : Option CourseSession}
    {sessions : Rows CourseSessionId CourseSession} (hf : ∀ row, (f row).schedule = row.schedule)
    (hstamp : ∀ row, (s.courseSession.row k).seen tx = some row → start.StampOk k (f row))
    (h : s.courseSession.alter tx k (fun row => some (f row)) = some (old, sessions)) :
    Inv start watched { s with courseSession := sessions } where
  roles := hinv.roles
  roleOf := hinv.roleOf
  schedules := hinv.schedules.alter (f := fun row => some (f row))
    (fun row => congrArg some (hf row)) h
  scheduleOf := by
    intro session
    rw [← hinv.scheduleOf session, Rows.committed_alter h]
  stamps := by
    obtain ⟨hseen, hnone | hsome⟩ := Rows.alter_cases h
    · rw [hnone.2]
      exact hinv.stamps
    · obtain ⟨row, rfl, -, rfl⟩ := hsome
      apply hinv.stamps.write
      intro version hversion
      cases hversion
      exact hstamp row hseen
  attended := hinv.attended
  held := by
    intro teacher hteacher
    rw [Rows.count_alter h]
    exact hinv.held teacher hteacher

theorem Inv.rows (hinv : Inv start watched s)
    {rows : Rows (CourseSessionId × UserId) SessionAttendance}
    (h : ∀ user, rows.count (attends user) = s.sessionAttendance.count (attends user)) :
    Inv start watched { s with sessionAttendance := rows } where
  roles := hinv.roles
  roleOf := hinv.roleOf
  schedules := hinv.schedules
  scheduleOf := hinv.scheduleOf
  stamps := hinv.stamps
  attended := by
    intro hwatched user hrole
    unfold Db.attendedCount
    rw [h user]
    exact hinv.attended hwatched user hrole
  held := hinv.held

/-- Every statement keeps the invariant. -/
theorem Goto.inv (h : Goto tx s p s' q) (hinv : Inv start watched s) (hknows : p.Knows start tx s) :
    Inv start watched s' := by
  cases h with
  | clock | status | role | kept | unstamped | nothing | student | staff => exact hinv
  | locked hlock =>
      refine hinv.sessions (f := id) (fun _ => rfl) ?_ hlock
      intro row hrow
      exact hinv.stamps.seen hrow
  | upserted hplace => exact hinv.rows fun user => Rows.count_place hplace (attends user)
  | crossed hcross hupdate =>
      exact hinv.users (f := AppUser.countAttended _) (fun _ => rfl) hupdate
  | @stamped job row old sessions hnone hbegan hupdate =>
      refine hinv.sessions (f := CourseSession.stamp job.now) (fun _ => rfl) ?_ hupdate
      intro sess hsess
      have hown : (s.courseSession.row job.args.session).seen tx = some job.sess := hknows.2
      obtain rfl : job.sess = sess := Option.some.inj (hown.symm.trans hsess)
      refine .inr ⟨?_, job.now, rfl, hbegan⟩
      rcases hinv.stamps.seen hsess with heq | hafter
      · rw [heq, hnone]
      · exact hafter.1
  | held hupdate => exact hinv.users (f := AppUser.countHeld) (fun _ => rfl) hupdate
  | taken hlock => exact hinv.rows fun user => Rows.count_alter hlock (attends user)
  | refunded hstudent hupdate =>
      exact hinv.users (f := AppUser.countAttended (-1)) (fun _ => rfl) hupdate
  | deleted hdelete => exact hinv.rows fun user => Rows.count_alter hdelete (attends user)

theorem Goto.knows (h : Goto tx s p s' q) (hinv : Inv start watched s)
    (hknows : p.Knows start tx s) : q.Knows start tx s' := by
  cases h with
  | clock | stamped | unstamped | held | nothing | deleted => trivial
  | locked hlock => exact Rows.held_alter hlock
  | status | upserted => exact hknows
  | @role job => exact ⟨hknows, fun hrole => (hinv.isStudent_iff tx job.args.user).mpr hrole⟩
  | crossed | kept | refunded | staff => exact hknows.1
  | taken hlock hq =>
      have hheld := Rows.held_alter hlock
      subst hq
      split
      · next hattended => exact ⟨hheld, hattended⟩
      · exact hheld
  | @student job =>
      exact ⟨hknows.1, hknows.2, fun hrole => (hinv.isStudent_iff tx job.user).mpr hrole⟩

theorem Inv.seen_student (hinv : Inv start watched s) (tx : ℕ)
    (hrole : (start.roleOf user).isSome) :
    ∃ row, (s.appUser.row user).seen tx = some row := by
  rw [← hinv.seen_role tx user, Option.isSome_map] at hrole
  exact Option.isSome_iff_exists.mp hrole

theorem Owes.count (h : Owes start watched tx p s) (hinv : Inv start watched s) {delta : ℤ}
    {users : Rows UserId AppUser}
    (hupdate : s.appUser.alter tx k (fun row => some (row.countAttended delta)) =
      some (old, users)) (hclamp : ∀ row, watched → start.roleOf k = some .student →
      (s.appUser.row k).seen tx = some row → 0 ≤ row.lessonsAttendedTotal + delta)
    (hdue : ∀ user, start.roleOf user = some .student →
      q.attendedDue user = p.attendedDue user - if k = user then delta else 0)
    (hheldDue : ∀ teacher, q.heldDue teacher = p.heldDue teacher) :
    Owes start watched tx q { s with appUser := users } where
  attended := by
    intro hwatched user hrole
    rw [attendedOwed_users hupdate, h.attended hwatched user hrole, hdue user hrole]
    congr 1
    have hseen := (Rows.alter_cases hupdate).1
    by_cases hk : k = user
    · subst hk
      obtain ⟨row, hrow⟩ := hinv.seen_student tx (Option.isSome_of_eq_some hrole)
      obtain rfl : some row = old := hrow.symm.trans hseen
      exact amount_countAttended fun _ => hclamp row hwatched hrole hrow
    · cases old <;> simp [Row.amount, attendedBy, hk]
  held := by
    intro teacher hteacher
    rw [heldOwed_users hupdate, h.held teacher hteacher, hheldDue]
    cases old <;> simp [Row.amount, heldBy, AppUser.countAttended]

theorem Goto.owes (h : Goto tx s p s' q) (hinv : Inv start watched s) (hknows : p.Knows start tx s)
    (howes : Owes start watched tx p s) (hguard : watched → undisturbed tx s p = true) :
    Owes start watched tx q s' := by
  cases h with
  | clock | status | role | unstamped | nothing | student =>
      exact howes.of_eq (fun _ => rfl) (fun _ => rfl) (fun _ => rfl) fun _ => rfl
  | locked hlock =>
      refine howes.of_eq (fun _ => rfl) (fun teacher => ?_) (fun _ => rfl) fun _ => rfl
      unfold Db.heldOwed Db.heldGain
      rw [Rows.gain_lock hlock]
  | @upserted job row rows hplace =>
      constructor
      · intro hwatched user hrole
        have hold : s.attendedOwed tx user = 0 := howes.attended hwatched user hrole
        have hsame := hguard hwatched
        simp only [undisturbed, beq_iff_eq] at hsame
        unfold Db.attendedOwed Db.attendedGain at hold ⊢
        rw [Rows.gain_place hplace, Point.attendedDue, ← hsame]
        generalize s.sessionAttendance.gain _ tx = gained at hold ⊢
        generalize s.appUser.gain (attendedBy user) tx = counted at hold ⊢
        by_cases huser : job.args.user = user
        · rw [if_pos huser]
          have hattends : ∀ r, attends user job.args.pair r = countsAsAttended r.status := by
            intro r
            simp [attends, MarkArgs.pair, huser]
          simp only [hattends]
          cases hseen : (s.sessionAttendance.row job.args.pair).seen tx with
          | none =>
              have hnothing : one false = 0 := rfl
              simp only [Row.amount, Option.elim, wasAttended, Option.map_none, Option.any_none,
                MarkArgs.apply, hnothing] at hold ⊢
              omega
          | some r =>
              simp only [Row.amount, Option.elim, wasAttended, Option.map_some, Option.any_some,
                MarkArgs.apply] at hold ⊢
              omega
        · rw [if_neg huser]
          have hattends : ∀ r, attends user job.args.pair r = false := by
            intro r
            simp [attends, MarkArgs.pair, huser]
          simp only [hattends]
          cases (s.sessionAttendance.row job.args.pair).seen tx with
          | none | some => simpa [Row.amount, one] using hold
      · exact fun teacher hteacher => howes.held teacher hteacher
  | @crossed job row old users hcross hupdate =>
      refine howes.count hinv hupdate ?_ ?_ fun _ => rfl
      · intro user hwatched hrole hseen
        have hcounter := hinv.counter_seen hwatched hrole hseen
        have hdue := howes.attended hwatched job.args.user hrole
        rw [Bool.and_eq_true, bne_iff_ne] at hcross
        simp only [Point.attendedDue, if_true] at hdue
        rw [hdue] at hcounter
        cases hnew : countsAsAttended job.args.status with
        | true =>
            have hwas : wasAttended job.was = false := by simpa [hnew] using hcross.2
            simp only [hnew, hwas, one, reduceIte, Bool.false_eq_true] at hcounter ⊢
            omega
        | false =>
            have hwas : wasAttended job.was = true := by simpa [hnew] using hcross.2
            simp only [hnew, hwas, one, reduceIte, Bool.false_eq_true] at hcounter ⊢
            omega
      · intro user _
        rw [Bool.and_eq_true, bne_iff_ne] at hcross
        simp only [Point.attendedDue]
        split
        · cases hnew : countsAsAttended job.args.status with
          | true =>
              have hwas : wasAttended job.was = false := by simpa [hnew] using hcross.2
              simp [hwas, one]
          | false =>
              have hwas : wasAttended job.was = true := by simpa [hnew] using hcross.2
              simp [hwas, one]
        · rfl
  | @kept job row hkept =>
      constructor
      · intro hwatched user hrole
        rw [howes.attended hwatched user hrole]
        simp only [Point.attendedDue]
        split
        · next huser =>
          have hstudent := hknows.2 (huser ▸ hrole)
          have hsame : wasAttended job.was = countsAsAttended job.args.status := by
            simpa [hstudent] using hkept
          rw [hsame, sub_self]
        · rfl
      · exact howes.held
  | @stamped job row old sessions hnone hbegan hupdate =>
      constructor
      · exact fun hwatched user hrole => howes.attended hwatched user hrole
      · intro teacher hteacher
        have hold := howes.held teacher hteacher
        have hseen := (Rows.alter_cases hupdate).1
        obtain rfl : some job.sess = old := hknows.2.symm.trans hseen
        have hfresh : start.heldAt job.args.session = none := by
          rcases hinv.stamps.seen hseen with heq | hafter
          · rw [heq, hnone]
          · exact hafter.1
        unfold Db.heldOwed Db.heldGain at hold ⊢
        rw [Rows.gain_update hupdate]
        simp only [Point.heldDue, Row.amount, Option.map_some, Option.elim, Db.stampedSince,
          CourseSession.stamp, hfresh, hnone, Option.isSome_some, Option.isNone_none,
          Option.isSome_none, Bool.and_true, Bool.and_false, one, decide_eq_true_eq,
          Bool.false_eq_true, if_false] at hold ⊢
        omega
  | @held job row old users hupdate =>
      constructor
      · intro hwatched user hrole
        rw [attendedOwed_users hupdate, howes.attended hwatched user hrole]
        cases old <;> simp [Row.amount, attendedBy, AppUser.countHeld, Point.attendedDue]
      · intro teacher hteacher
        rw [heldOwed_users hupdate, howes.held teacher hteacher]
        have hseen := (Rows.alter_cases hupdate).1
        simp only [Point.heldDue]
        split
        · next hk =>
          subst hk
          obtain ⟨user, huser⟩ := hinv.seen_student tx hteacher
          obtain rfl : some user = old := huser.symm.trans hseen
          simp [Row.amount, heldBy, AppUser.countHeld]
        · next hk => cases old <;> simp [Row.amount, heldBy, hk]
  | @taken session user gone rows q hlock hq =>
      have hattended : ∀ user, ({ s with sessionAttendance := rows } : Db).attendedOwed tx user =
          s.attendedOwed tx user := by
        intro user
        unfold Db.attendedOwed Db.attendedGain
        rw [Rows.gain_lock hlock]
      subst hq
      split
      · exact howes.of_eq hattended (fun _ => rfl) (fun _ => rfl) fun _ => rfl
      · next hgone =>
        refine howes.of_eq hattended (fun _ => rfl) (fun user => ?_) fun _ => rfl
        simp [Point.attendedDue, hgone, one]
  | @refunded job old users hstudent hupdate =>
      obtain ⟨hpair, hcounts, -⟩ := hknows
      refine howes.count hinv hupdate ?_ ?_ fun _ => rfl
      · intro user hwatched hrole hseen
        have hcounter := hinv.counter_seen hwatched hrole hseen
        have hdue : s.attendedOwed tx job.user = 0 := howes.attended hwatched job.user hrole
        have hrow : ((s.sessionAttendance.commit tx).row (job.session, job.user)).committed =
            some job.gone := by
          rw [Rows.row_commit, Row.committed_commit]
          exact hpair.2
        have hpos := Rows.count_pos (p := attends job.user) hrow (by simp [attends, hcounts])
        omega
      · intro user _
        simp only [Point.attendedDue, hcounts, one, if_true]
        split <;> rfl
  | @staff job hstudent =>
      refine ⟨?_, howes.held⟩
      intro hwatched user hrole
      rw [howes.attended hwatched user hrole]
      simp only [Point.attendedDue]
      split
      · next huser =>
        have hfalse := hknows.2.2 (huser ▸ hrole)
        rw [hstudent] at hfalse
        cases hfalse
      · rfl
  | @deleted job old rows hdelete =>
      constructor
      · intro hwatched user hrole
        have hold := howes.attended hwatched user hrole
        have hseen := (Rows.alter_cases hdelete).1
        obtain rfl : some job.gone = old := hknows.2.symm.trans hseen
        unfold Db.attendedOwed Db.attendedGain at hold ⊢
        rw [Rows.gain_alter hdelete]
        by_cases huser : job.user = user
        · simp only [Point.attendedDue, attends, huser, decide_true, Bool.true_and,
            Row.amount, Option.bind_some, Option.elim, reduceIte] at hold ⊢
          omega
        · simp only [Point.attendedDue, attends, huser, decide_false, Bool.false_and,
            Row.amount, Option.bind_some, Option.elim, one, Bool.false_eq_true,
            if_false] at hold ⊢
          omega
      · exact fun teacher hteacher => howes.held teacher hteacher

theorem Inv.rollback (hinv : Inv start watched s) (tx : ℕ) :
    Inv start watched (s.rollback tx) where
  roles := hinv.roles.rollback tx
  roleOf := by
    intro user
    rw [← hinv.roleOf user]
    exact congrArg (Option.map AppUser.role) (Rows.committed_rollback tx s.appUser user)
  schedules := hinv.schedules.rollback tx
  scheduleOf := by
    intro session
    rw [← hinv.scheduleOf session]
    exact congrArg (Option.map CourseSession.schedule)
      (Rows.committed_rollback tx s.courseSession session)
  stamps := hinv.stamps.rollback tx
  attended := by
    intro hwatched user hrole
    unfold Db.attendedCount Db.rollback
    rw [Rows.total_rollback, Rows.count_rollback]
    exact hinv.attended hwatched user hrole
  held := by
    intro teacher hteacher
    unfold Db.rollback
    rw [Rows.total_rollback, Rows.count_rollback]
    exact hinv.held teacher hteacher

/-- A transaction that owes nothing may commit. -/
theorem Inv.commit (hinv : Inv start watched s)
    (hattended : watched → ∀ user, start.roleOf user = some .student →
      s.attendedOwed tx user = 0)
    (hheld : ∀ teacher, (start.roleOf teacher).isSome → start.heldOwed s tx teacher = 0) :
    Inv start watched (s.commit tx) where
  roles := hinv.roles.commit tx
  roleOf := by
    intro user
    rw [← hinv.roleOf user]
    exact hinv.roles.committed_commit tx user
  schedules := hinv.schedules.commit tx
  scheduleOf := by
    intro session
    rw [← hinv.scheduleOf session]
    exact hinv.schedules.committed_commit tx session
  stamps := hinv.stamps.commit tx
  attended := by
    intro hwatched user hrole
    have hrows : ((s.sessionAttendance.commit tx).count (attends user) : ℤ) =
        s.sessionAttendance.count (attends user) + s.attendedGain tx user := by
      rw [← Rows.total_count, ← Rows.total_count]
      exact Rows.total_commit _ tx s.sessionAttendance
    have hzero := hattended hwatched user hrole
    have hold := hinv.attended hwatched user hrole
    unfold Db.attendedOwed at hzero
    unfold Db.attendedCount at hold ⊢
    unfold Db.commit
    dsimp only
    rw [Rows.total_commit, hold]
    omega
  held := by
    intro teacher hteacher
    have hstamps : ((s.courseSession.commit tx).count (start.stampedSince teacher) : ℤ) =
        s.courseSession.count (start.stampedSince teacher) + start.heldGain s tx teacher := by
      rw [← Rows.total_count, ← Rows.total_count]
      exact Rows.total_commit _ tx s.courseSession
    have hzero := hheld teacher hteacher
    have hold := hinv.held teacher hteacher
    unfold Db.heldOwed at hzero
    unfold Db.commit
    dsimp only
    rw [Rows.total_commit, hold]
    omega

theorem Goto.apart (h : Goto tx s p s' q) :
    s.Apart tx s' := by
  have hsessions := Rows.Apart.refl tx s.courseSession
  have hrows := Rows.Apart.refl tx s.sessionAttendance
  have husers := Rows.Apart.refl tx s.appUser
  cases h with
  | clock | status | role | kept | unstamped | nothing | student | staff =>
      exact ⟨hsessions, hrows, husers⟩
  | locked hlock => exact ⟨.alter hlock, hrows, husers⟩
  | upserted hplace => exact ⟨hsessions, .place hplace, husers⟩
  | crossed hcross hupdate | held hupdate | refunded hstudent hupdate =>
      exact ⟨hsessions, hrows, .alter hupdate⟩
  | stamped hnone hbegan hupdate => exact ⟨.alter hupdate, hrows, husers⟩
  | taken hlock => exact ⟨hsessions, .alter hlock, husers⟩
  | deleted hdelete => exact ⟨hsessions, .alter hdelete, husers⟩

theorem Db.apart_rollback (tx : ℕ) (s : Db) : s.Apart tx (s.rollback tx) :=
  ⟨.rollback tx _, .rollback tx _, .rollback tx _⟩

theorem Db.apart_commit (tx : ℕ) (s : Db) : s.Apart tx (s.commit tx) :=
  ⟨.commit tx _, .commit tx _, .commit tx _⟩

theorem Db.idle_rollback (tx : ℕ) (s : Db) : (s.rollback tx).Idle tx :=
  ⟨Rows.idle_rollback tx _, Rows.idle_rollback tx _, Rows.idle_rollback tx _⟩

theorem Db.idle_commit (tx : ℕ) (s : Db) : (s.commit tx).Idle tx :=
  ⟨Rows.idle_commit tx _, Rows.idle_commit tx _, Rows.idle_commit tx _⟩

theorem Db.Apart.owes {tx' : ℕ} (h : s.Apart tx s') (hne : tx' ≠ tx)
    (howes : Owes start watched tx' p s) : Owes start watched tx' p s' := by
  refine howes.of_eq (fun user => ?_) (fun teacher => ?_) (fun _ => rfl) fun _ => rfl
  · unfold Db.attendedOwed Db.attendedGain
    rw [h.rows.gain tx' hne, h.users.gain tx' hne]
  · unfold Db.heldOwed Db.heldGain
    rw [h.sessions.gain tx' hne, h.users.gain tx' hne]

theorem Db.Apart.knows {tx' : ℕ} (h : s.Apart tx s') (hne : tx' ≠ tx)
    (hknows : p.Knows start tx' s) : p.Knows start tx' s' := by
  have hsession : ∀ {session sess}, HoldsSession tx' s session sess →
      HoldsSession tx' s' session sess := by
    intro session sess hheld
    unfold HoldsSession
    rw [h.sessions.held tx' hne session hheld.1]
    exact hheld
  have hpair : ∀ {job}, HoldsPair tx' s job → HoldsPair tx' s' job := by
    intro job hheld
    unfold HoldsPair
    rw [h.rows.held tx' hne (job.session, job.user) hheld.1]
    exact hheld
  cases p with
  | readStatus | readRole | stampHeld => exact hsession hknows
  | upsert | countAttended => exact ⟨hsession hknows.1, hknows.2⟩
  | readStudent | refund => exact ⟨hpair hknows.1, hknows.2⟩
  | deleteRow => exact hpair hknows
  | mark | lockSession | countHeld | commitMark | remove | commitRemove => trivial

theorem Db.Idle.owed (h : s.Idle tx) (start : Db) :
    (∀ user, s.attendedOwed tx user = 0) ∧ ∀ teacher, start.heldOwed s tx teacher = 0 := by
  unfold Db.attendedOwed Db.heldOwed Db.attendedGain Db.heldGain
  constructor
  · intro user
    rw [Rows.gain_of_idle _ h.2.1, Rows.gain_of_idle _ h.2.2, sub_self]
  · intro teacher
    rw [Rows.gain_of_idle _ h.1, Rows.gain_of_idle _ h.2.2, sub_self]

theorem transactional (start : Db) (watched : Prop)
    (guard : Config Db Point → Move Request Timestamp → Prop)
    (hguard : ∀ {c m}, guard c m → watched → Undisturbed c m) :
    machine.Transactional guard (Inv start watched)
      (fun tx p s => p.Knows start tx s ∧ Owes start watched tx p s)
      Db.Idle (fun tx s s' => s.Apart tx s') where
  entry := by
    intro tx s request _ hidle
    have howed := hidle.owed start
    cases request with
    | mark => exact ⟨trivial, fun _ user _ => howed.1 user, fun teacher _ => howed.2 teacher⟩
    | remove session user =>
        exact ⟨trivial, fun _ user _ => howed.1 user, fun teacher _ => howed.2 teacher⟩
  own := by
    intro c tx choice p s n hallowed hp hnext hinv hpoint
    rcases next_cases hnext with ⟨q, rfl, hgoto⟩ | ⟨a, rfl, hend⟩
    · have hsteady : watched → undisturbed tx c.shared p = true := by
        intro hwatched
        simpa [Undisturbed, hp] using hguard hallowed hwatched
      refine ⟨hgoto.inv hinv hpoint.1, ?_, fun a ha => by cases ha⟩
      rintro q' hq
      cases hq
      exact ⟨hgoto.knows hinv hpoint.1, hgoto.owes hinv hpoint.1 hpoint.2 hsteady⟩
    · refine ⟨?_, fun q hq => (by cases hq), fun _ _ => ?_⟩
      · rcases hend with rfl | ⟨hcommits, rfl⟩
        · exact hinv.rollback tx
        · have howes := hpoint.2
          cases p with
          | commitMark | commitRemove => exact hinv.commit howes.attended howes.held
          | _ => cases hcommits
      · rcases hend with rfl | ⟨-, rfl⟩
        · exact Db.idle_rollback tx c.shared
        · exact Db.idle_commit tx c.shared
  next_apart := by
    intro tx s p choice s' n hnext _ _
    rcases next_cases hnext with ⟨q, -, hgoto⟩ | ⟨a, -, rfl | ⟨-, rfl⟩⟩
    · exact hgoto.apart
    · exact Db.apart_rollback tx s
    · exact Db.apart_commit tx s
  rollback := fun {tx s} hinv =>
    ⟨hinv.rollback tx, Db.idle_rollback tx s, Db.apart_rollback tx s⟩
  stable := by
    intro tx tx' q s s' hne hapart _ _ hpoint
    exact ⟨hapart.knows hne hpoint.1, hapart.owes hne hpoint.2⟩
  idle := by
    intro tx tx' s s' hne hapart hidle
    exact ⟨hapart.sessions.idle tx' hne hidle.1, hapart.rows.idle tx' hne hidle.2.1,
      hapart.users.idle tx' hne hidle.2.2⟩

theorem inv_start (hsettled : start.Settled) (hcounted : watched → start.AttendedCounted) :
    Inv start watched start where
  roles := hsettled.2.2.fixed _
  roleOf := fun _ => rfl
  schedules := hsettled.1.fixed _
  scheduleOf := fun _ => rfl
  stamps := by
    refine hsettled.1.every fun session row hrow => ?_
    left
    rw [Db.heldAt, hrow]
    rfl
  attended := by
    intro hwatched user hrole
    unfold Db.roleOf at hrole
    rw [Option.map_eq_some_iff] at hrole
    obtain ⟨row, hrow, hstudent⟩ := hrole
    have htotal : start.appUser.total (attendedBy user) = row.lessonsAttendedTotal := by
      have hsingle := Rows.total_single user AppUser.lessonsAttendedTotal start.appUser
      rwa [hrow] at hsingle
    rw [htotal]
    exact hcounted hwatched user row hrow hstudent
  held := by
    intro teacher _
    have hnone : start.courseSession.count (start.stampedSince teacher) = 0 := by
      apply Table.count_eq_zero_iff.mpr
      intro session r hr
      rw [Option.any_eq_false]
      intro row hrow
      have hheld : start.heldAt session = row.heldCountedAt := by
        rw [Db.heldAt, Rows.row_of_lookup hr, hrow]
        rfl
      cases hstamp : row.heldCountedAt with
      | none => simp [Db.stampedSince, hstamp]
      | some => simp [Db.stampedSince, hheld, hstamp]
    rw [hnone]
    simp

end Run

/-- The counter of attended lessons follows the rows when every upsert finds its pair on the
side of the attended line where it was read.  In every run a session is credited to its
teacher at most once, by a mark that came after the bell. -/
theorem counters_follow {start : Db} {c : Config Db Point} {moves : List (Move Request Timestamp)}
    (hsettled : start.Settled)
    (hrun : machine.run (Config.initial start) moves = some c) :
    (start.AttendedCounted → machine.Guarded Undisturbed (Config.initial start) moves →
      c.shared.AttendedCounted) ∧
    (∀ teacher row, (c.shared.appUser.row teacher).committed = some row →
      ∃ before, (start.appUser.row teacher).committed = some before ∧
        row.lessonsHeldTotal =
          before.lessonsHeldTotal + c.shared.courseSession.count (start.stampedSince teacher)) ∧
    ∀ session row, (c.shared.courseSession.row session).committed = some row →
      start.StampOk session row := by
  have hidle : ∀ tx, start.Idle tx := fun tx =>
    ⟨hsettled.1.idle tx, hsettled.2.1.idle tx, hsettled.2.2.idle tx⟩
  refine ⟨?_, ?_, ?_⟩
  · intro hcounted hguarded user row hrow hstudent
    have hruns := (transactional start True Undisturbed
      fun h _ => h).runs_run (Config.initial_runs (inv_start hsettled fun _ => hcounted) hidle)
        hguarded hrun
    have hrole : start.roleOf user = some .student := by
      rw [← hruns.shared.roleOf user, Db.roleOf, hrow, Option.map_some, hstudent]
    have hsingle := Rows.total_single user AppUser.lessonsAttendedTotal c.shared.appUser
    rw [hrow] at hsingle
    exact hsingle.symm.trans (hruns.shared.attended trivial user hrole)
  all_goals
    have hruns := (transactional start False (fun _ _ => True)
      fun _ h => h.elim).runs_run (Config.initial_runs (inv_start hsettled fun h => h.elim)
        hidle) (Machine.guarded_true _ moves) hrun
  · intro teacher row hrow
    have hrole : (start.roleOf teacher).isSome := by
      rw [← hruns.shared.roleOf teacher, Db.roleOf, hrow]
      rfl
    obtain ⟨before, hbefore⟩ := Option.isSome_iff_exists.mp
      (by rwa [Db.roleOf, Option.isSome_map] at hrole)
    refine ⟨before, hbefore, ?_⟩
    have hheld := hruns.shared.held teacher hrole
    have hnow := Rows.total_single teacher AppUser.lessonsHeldTotal c.shared.appUser
    have hthen := Rows.total_single teacher AppUser.lessonsHeldTotal start.appUser
    rw [hrow] at hnow
    rw [hbefore] at hthen
    calc row.lessonsHeldTotal = c.shared.appUser.total (heldBy teacher) := hnow.symm
      _ = start.appUser.total (heldBy teacher) + _ := hheld
      _ = before.lessonsHeldTotal + _ := by
        rw [← show _ = before.lessonsHeldTotal from hthen]
        rfl
  · intro session row hrow
    exact hruns.shared.stamps session row (.inl hrow)

def lesson : CourseSessionId := ⟨.ending "0001"⟩

def pupil : UserId := ⟨.ending "0002"⟩

def instructor : UserId := ⟨.ending "0003"⟩

def group : ClassCourseId := ⟨.ending "0004"⟩

def school : Db where
  courseSession := AList.singleton lesson ⟨some ⟨instructor, 10, none⟩, none⟩
  sessionAttendance := ∅
  appUser := AList.insert pupil ⟨some ⟨.student, 0, 0⟩, none⟩
    (AList.singleton instructor ⟨some ⟨.teacher, 0, 0⟩, none⟩)

theorem school_settled : school.Settled :=
  ⟨Rows.settled_of_all rfl, Rows.settled_of_all rfl, Rows.settled_of_all rfl⟩

theorem school_counted : school.AttendedCounted := by
  intro user row hrow hstudent
  have hcount : school.attendedCount user = 0 := rfl
  rw [hcount]
  by_cases hpupil : user = pupil
  · subst hpupil
    cases hrow
    rfl
  · by_cases hinstructor : user = instructor
    · subst hinstructor
      cases hrow
      cases hstudent
    · have hnone : school.appUser.lookup user = none := by
        rw [school, AList.lookup_insert_ne hpupil]
        exact List.dlookup_eq_none.mpr (by simpa [List.keys] using hinstructor)
      rw [Rows.row, hnone] at hrow
      cases hrow

def markPresent : Move Request Timestamp :=
  .start (.mark ⟨lesson, group, pupil, ⟨"present"⟩, instructor⟩)

/-- The next `n` statements of a call. -/
def proceed (id n : ℕ) : List (Move Request Timestamp) := List.replicate n (.advance id 20)

def removedBetween : List (Move Request Timestamp) :=
  markPresent :: proceed 0 9 ++ markPresent :: proceed 1 4 ++
    .start (.remove lesson pupil) :: proceed 2 5 ++ proceed 1 4

def removedAfter : List (Move Request Timestamp) :=
  markPresent :: proceed 0 9 ++ markPresent :: proceed 1 8 ++
    .start (.remove lesson pupil) :: proceed 2 5

theorem counters_follow_removedAfter :
    ∃ c row, machine.run (Config.initial school) removedAfter = some c ∧
      c.calls = ∅ ∧ c.shared.AttendedCounted ∧
      (c.shared.appUser.row instructor).committed = some row ∧ row.lessonsHeldTotal = 1 := by
  have hend : (machine.run (Config.initial school) removedAfter).any (fun c =>
      decide (c.calls.entries.length = 0) &&
        (c.shared.appUser.row instructor).committed.any fun row =>
          decide (row.lessonsHeldTotal = 1)) = true := by
    decide
  have hguard : machine.Guarded Undisturbed (Config.initial school) removedAfter := by
    decide
  obtain ⟨c, hrun, hc⟩ := (Option.any_eq_true _ _).mp hend
  rw [Bool.and_eq_true, decide_eq_true_eq, Option.any_eq_true] at hc
  obtain ⟨hcalls, row, hrow, hheld⟩ := hc
  refine ⟨c, row, hrun, ?_, ?_, hrow, of_decide_eq_true hheld⟩
  · exact AList.ext (List.length_eq_zero_iff.mp hcalls)
  · exact (counters_follow school_settled hrun).1 school_counted hguard

theorem removedBetween_miscounts :
    school.Settled ∧ school.AttendedCounted ∧
    ∃ c row, machine.run (Config.initial school) removedBetween = some c ∧ c.calls = ∅ ∧
      (c.shared.appUser.row pupil).committed = some row ∧ row.role = .student ∧
      row.lessonsAttendedTotal = 0 ∧ c.shared.attendedCount pupil = 1 := by
  have hend : (machine.run (Config.initial school) removedBetween).any (fun c =>
      decide (c.calls.entries.length = 0) &&
        (c.shared.appUser.row pupil).committed.any fun row =>
          decide (row.role = .student ∧ row.lessonsAttendedTotal = 0 ∧
            c.shared.attendedCount pupil = 1)) = true := by
    decide
  obtain ⟨c, hrun, hc⟩ := (Option.any_eq_true _ _).mp hend
  rw [Bool.and_eq_true, decide_eq_true_eq, Option.any_eq_true] at hc
  obtain ⟨hcalls, row, hrow, hcounts⟩ := hc
  exact ⟨school_settled, school_counted, c, row, hrun,
    AList.ext (List.length_eq_zero_iff.mp hcalls), hrow, of_decide_eq_true hcounts⟩

end Hezarfen.RollCall
