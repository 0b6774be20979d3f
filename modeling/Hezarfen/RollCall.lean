import Hezarfen.Interleaving
import Hezarfen.ReadCommitted
import Hezarfen.SchoolDomain

/-!
# The roll call of a lesson

`mark` and `remove` with the two badge counters they move, one statement at a time.
A mark locks its session row and reads the stored status of the pair without a lock; a
removal locks the pair's own row.  The counter of attended lessons moves by the
difference between the new status and the one that was read.
-/

namespace Hezarfen.RollCall

open Interleaving ReadCommitted
open School (Role ClassCourseId)

structure CourseSessionId where
  uuid : Uuid
  deriving DecidableEq

structure AttendanceStatus where
  text : String

def countsAsAttended (status : AttendanceStatus) : Bool :=
  status.text == "present" || status.text == "late"

structure CourseSession where
  teacher : UserId
  startsAt : Timestamp
  /-- The stamp of the roll call that credited the teacher. -/
  heldCountedAt : Option Timestamp

structure SessionAttendance where
  classCourse : ClassCourseId
  status : AttendanceStatus
  markedBy : UserId
  markedAt : Timestamp

structure AppUser where
  role : Role
  lessonsAttendedTotal : ℤ
  lessonsHeldTotal : ℤ

structure Db where
  courseSession : Rows CourseSessionId CourseSession
  sessionAttendance : Rows (CourseSessionId × UserId) SessionAttendance
  appUser : Rows UserId AppUser

structure MarkArgs where
  session : CourseSessionId
  /-- The instance of the session, as the caller read it. -/
  classCourse : ClassCourseId
  user : UserId
  status : AttendanceStatus
  markedBy : UserId

def MarkArgs.pair (args : MarkArgs) : CourseSessionId × UserId := (args.session, args.user)

inductive Request where
  | mark (args : MarkArgs)
  | remove (session : CourseSessionId) (user : UserId)

structure Marking where
  args : MarkArgs
  now : Timestamp
  sess : CourseSession
  was : Option AttendanceStatus
  isStudent : Bool

structure Removal where
  session : CourseSessionId
  user : UserId
  gone : SessionAttendance
  student : Bool

inductive Point where
  | mark (args : MarkArgs)
  | lockSession (args : MarkArgs) (now : Timestamp)
  | readStatus (args : MarkArgs) (now : Timestamp) (sess : CourseSession)
  | readRole (job : Marking)
  | upsert (job : Marking)
  | countAttended (job : Marking) (row : SessionAttendance)
  | stampHeld (job : Marking) (row : SessionAttendance)
  | countHeld (job : Marking) (row : SessionAttendance)
  | commitMark (row : SessionAttendance)
  | remove (session : CourseSessionId) (user : UserId)
  | readStudent (job : Removal)
  | refund (job : Removal)
  | deleteRow (job : Removal)
  | commitRemove (gone : Option SessionAttendance)

inductive Answer where
  | marked (row : SessionAttendance)
  | removed (gone : Option SessionAttendance)

abbrev Reply := Next Point (Except AppError Answer)

def Db.commit (tx : ℕ) (s : Db) : Db :=
  ⟨s.courseSession.commit tx, s.sessionAttendance.commit tx, s.appUser.commit tx⟩

def Db.rollback (tx : ℕ) (s : Db) : Db :=
  ⟨s.courseSession.rollback tx, s.sessionAttendance.rollback tx, s.appUser.rollback tx⟩

/-- `SELECT role = 'student'`, false for a row that is gone. -/
def Db.isStudent (s : Db) (tx : ℕ) (user : UserId) : Bool :=
  ((s.appUser.row user).seen tx).any fun row => decide (row.role = .student)

def wasAttended (was : Option AttendanceStatus) : Bool := was.any countsAsAttended

/-- `GREATEST(lessons_attended_total + delta, 0)` -/
def AppUser.countAttended (delta : ℤ) (row : AppUser) : AppUser :=
  { row with lessonsAttendedTotal := max (row.lessonsAttendedTotal + delta) 0 }

def AppUser.countHeld (row : AppUser) : AppUser :=
  { row with lessonsHeldTotal := row.lessonsHeldTotal + 1 }

def CourseSession.stamp (now : Timestamp) (row : CourseSession) : CourseSession :=
  { row with heldCountedAt := some now }

def MarkArgs.apply (args : MarkArgs) (now : Timestamp) (old : Option SessionAttendance) :
    SessionAttendance :=
  { classCourse := old.elim args.classCourse SessionAttendance.classCourse
    status := args.status
    markedBy := args.markedBy
    markedAt := now }

def Db.updateUser (s : Db) (tx : ℕ) (user : UserId) (f : AppUser → AppUser) : Option Db :=
  (s.appUser.alter tx user fun row => some (f row)).map fun r => { s with appUser := r.2 }

def lockSession (tx : ℕ) (s : Db) (args : MarkArgs) (now : Timestamp) : Option (Db × Reply) :=
  match s.courseSession.lock tx args.session with
  | none => none
  | some (none, _) => some (s.rollback tx, .answer (.error .notFound))
  | some (some sess, sessions) =>
      some ({ s with courseSession := sessions }, .goto (.readStatus args now sess))

def readStatus (tx : ℕ) (s : Db) (args : MarkArgs) (now : Timestamp) (sess : CourseSession) :
    Reply :=
  let was := ((s.sessionAttendance.row args.pair).seen tx).map SessionAttendance.status
  .goto (.readRole ⟨args, now, sess, was, false⟩)

def upsert (tx : ℕ) (s : Db) (job : Marking) : Option (Db × Reply) :=
  if ((s.appUser.row job.args.user).seen tx).isNone ||
      ((s.appUser.row job.args.markedBy).seen tx).isNone then
    some (s.rollback tx, .answer (.error .db))
  else
    (s.sessionAttendance.place tx job.args.pair (job.args.apply job.now)).map fun rows =>
      ({ s with sessionAttendance := rows },
        .goto (.countAttended job
          (job.args.apply job.now ((s.sessionAttendance.row job.args.pair).seen tx))))

def countAttended (tx : ℕ) (s : Db) (job : Marking) (row : SessionAttendance) :
    Option (Db × Reply) :=
  let attended := countsAsAttended job.args.status
  if job.isStudent && wasAttended job.was != attended then
    (s.updateUser tx job.args.user (.countAttended (if attended then 1 else -1))).map
      fun s' => (s', .goto (.stampHeld job row))
  else some (s, .goto (.stampHeld job row))

def stampHeld (tx : ℕ) (s : Db) (job : Marking) (row : SessionAttendance) :
    Option (Db × Reply) :=
  if job.sess.heldCountedAt.isNone && decide (job.sess.startsAt ≤ job.now) then
    (s.courseSession.alter tx job.args.session fun sess => some (sess.stamp job.now)).map
      fun r => ({ s with courseSession := r.2 }, .goto (.countHeld job row))
  else some (s, .goto (.commitMark row))

def countHeld (tx : ℕ) (s : Db) (job : Marking) (row : SessionAttendance) :
    Option (Db × Reply) :=
  (s.updateUser tx job.sess.teacher .countHeld).map fun s' => (s', .goto (.commitMark row))

def remove (tx : ℕ) (s : Db) (session : CourseSessionId) (user : UserId) :
    Option (Db × Reply) :=
  match s.sessionAttendance.lock tx (session, user) with
  | none => none
  | some (none, _) => some (s, .goto (.commitRemove none))
  | some (some gone, rows) =>
      let job : Removal := ⟨session, user, gone, false⟩
      some ({ s with sessionAttendance := rows },
        .goto (if countsAsAttended gone.status then .readStudent job else .deleteRow job))

def refund (tx : ℕ) (s : Db) (job : Removal) : Option (Db × Reply) :=
  if job.student then
    (s.updateUser tx job.user (.countAttended (-1))).map fun s' => (s', .goto (.deleteRow job))
  else some (s, .goto (.deleteRow job))

def deleteRow (tx : ℕ) (s : Db) (job : Removal) : Option (Db × Reply) :=
  (s.sessionAttendance.alter tx (job.session, job.user) fun _ => none).map fun r =>
    ({ s with sessionAttendance := r.2 }, .goto (.commitRemove (some job.gone)))

def next (tx : ℕ) (s : Db) (p : Point) (clock : Timestamp) : Option (Db × Reply) :=
  match p with
  | .mark args => some (s, .goto (.lockSession args clock))
  | .lockSession args now => lockSession tx s args now
  | .readStatus args now sess => some (s, readStatus tx s args now sess)
  | .readRole job =>
      some (s, .goto (.upsert { job with isStudent := s.isStudent tx job.args.user }))
  | .upsert job => upsert tx s job
  | .countAttended job row => countAttended tx s job row
  | .stampHeld job row => stampHeld tx s job row
  | .countHeld job row => countHeld tx s job row
  | .commitMark row => some (s.commit tx, .answer (.ok (.marked row)))
  | .remove session user => remove tx s session user
  | .readStudent job =>
      some (s, .goto (.refund { job with student := s.isStudent tx job.user }))
  | .refund job => refund tx s job
  | .deleteRow job => deleteRow tx s job
  | .commitRemove gone => some (s.commit tx, .answer (.ok (.removed gone)))

def Request.entry : Request → Point
  | .mark args => .mark args
  | .remove session user => .remove session user

/-- A transaction that is given up, for a retry too, rolls back. -/
def machine : Machine Db Point Request Timestamp (Except AppError Answer) where
  entry := Request.entry
  next := next
  rollback := Db.rollback

/-! ## Every step -/

inductive Goto (tx : ℕ) (s : Db) : Point → Db → Point → Prop where
  | clock {args : MarkArgs} {now : Timestamp} : Goto tx s (.mark args) s (.lockSession args now)
  | locked {args : MarkArgs} {now : Timestamp} {sess : CourseSession}
      {sessions : Rows CourseSessionId CourseSession}
      (hlock : s.courseSession.lock tx args.session = some (some sess, sessions)) :
      Goto tx s (.lockSession args now) { s with courseSession := sessions }
        (.readStatus args now sess)
  | status {args : MarkArgs} {now : Timestamp} {sess : CourseSession}
      {was : Option AttendanceStatus} :
      Goto tx s (.readStatus args now sess) s (.readRole ⟨args, now, sess, was, false⟩)
  | role {job : Marking} :
      Goto tx s (.readRole job) s
        (.upsert { job with isStudent := s.isStudent tx job.args.user })
  | upserted {job : Marking} {row : SessionAttendance}
      {rows : Rows (CourseSessionId × UserId) SessionAttendance}
      (hplace : s.sessionAttendance.place tx job.args.pair (job.args.apply job.now) =
        some rows) :
      Goto tx s (.upsert job) { s with sessionAttendance := rows } (.countAttended job row)
  | crossed {job : Marking} {row : SessionAttendance} {old : Option AppUser}
      {users : Rows UserId AppUser}
      (hcross : (job.isStudent && wasAttended job.was != countsAsAttended job.args.status) = true)
      (hupdate : s.appUser.alter tx job.args.user (fun user => some
        (user.countAttended (if countsAsAttended job.args.status then 1 else -1))) =
          some (old, users)) :
      Goto tx s (.countAttended job row) { s with appUser := users } (.stampHeld job row)
  | kept {job : Marking} {row : SessionAttendance}
      (hkept : (job.isStudent && wasAttended job.was != countsAsAttended job.args.status) =
        false) :
      Goto tx s (.countAttended job row) s (.stampHeld job row)
  | stamped {job : Marking} {row : SessionAttendance} {old : Option CourseSession}
      {sessions : Rows CourseSessionId CourseSession}
      (hnone : job.sess.heldCountedAt = none) (hbegan : job.sess.startsAt ≤ job.now)
      (hupdate : s.courseSession.alter tx job.args.session
        (fun sess => some (sess.stamp job.now)) = some (old, sessions)) :
      Goto tx s (.stampHeld job row) { s with courseSession := sessions } (.countHeld job row)
  | unstamped {job : Marking} {row : SessionAttendance} :
      Goto tx s (.stampHeld job row) s (.commitMark row)
  | held {job : Marking} {row : SessionAttendance} {old : Option AppUser}
      {users : Rows UserId AppUser}
      (hupdate : s.appUser.alter tx job.sess.teacher (fun user => some user.countHeld) =
        some (old, users)) :
      Goto tx s (.countHeld job row) { s with appUser := users } (.commitMark row)
  | nothing {session : CourseSessionId} {user : UserId} :
      Goto tx s (.remove session user) s (.commitRemove none)
  | taken {session : CourseSessionId} {user : UserId} {gone : SessionAttendance}
      {rows : Rows (CourseSessionId × UserId) SessionAttendance} {q : Point}
      (hlock : s.sessionAttendance.lock tx (session, user) = some (some gone, rows))
      (hq : q = if countsAsAttended gone.status then .readStudent ⟨session, user, gone, false⟩
        else .deleteRow ⟨session, user, gone, false⟩) :
      Goto tx s (.remove session user) { s with sessionAttendance := rows } q
  | student {job : Removal} :
      Goto tx s (.readStudent job) s
        (.refund { job with student := s.isStudent tx job.user })
  | refunded {job : Removal} {old : Option AppUser} {users : Rows UserId AppUser}
      (hstudent : job.student = true)
      (hupdate : s.appUser.alter tx job.user (fun user => some (user.countAttended (-1))) =
        some (old, users)) :
      Goto tx s (.refund job) { s with appUser := users } (.deleteRow job)
  | staff {job : Removal} (hstudent : job.student = false) :
      Goto tx s (.refund job) s (.deleteRow job)
  | deleted {job : Removal} {old : Option SessionAttendance}
      {rows : Rows (CourseSessionId × UserId) SessionAttendance}
      (hdelete : s.sessionAttendance.alter tx (job.session, job.user) (fun _ => none) =
        some (old, rows)) :
      Goto tx s (.deleteRow job) { s with sessionAttendance := rows }
        (.commitRemove (some job.gone))

def Point.commits : Point → Bool
  | .commitMark _ | .commitRemove _ => true
  | _ => false

theorem updateUser_eq {s s' : Db} {tx : ℕ} {user : UserId} {f : AppUser → AppUser}
    (h : s.updateUser tx user f = some s') :
    ∃ old users, s.appUser.alter tx user (fun row => some (f row)) = some (old, users) ∧
      s' = { s with appUser := users } := by
  unfold Db.updateUser at h
  rw [Option.map_eq_some_iff] at h
  obtain ⟨⟨old, users⟩, halter, rfl⟩ := h
  exact ⟨old, users, halter, rfl⟩

theorem next_cases {tx : ℕ} {s s' : Db} {p : Point} {clock : Timestamp} {n : Reply}
    (h : next tx s p clock = some (s', n)) :
    (∃ q, n = .goto q ∧ Goto tx s p s' q) ∨
      (∃ a, n = .answer a ∧ (s' = s.rollback tx ∨ p.commits = true ∧ s' = s.commit tx)) := by
  cases p with
  | mark =>
      simp only [next, Option.some.injEq, Prod.mk.injEq] at h
      obtain ⟨rfl, rfl⟩ := h
      exact .inl ⟨_, rfl, .clock⟩
  | lockSession =>
      simp only [next, lockSession] at h
      split at h
      · cases h
      · cases h
        exact .inr ⟨_, rfl, .inl rfl⟩
      · next sess sessions hlock =>
        cases h
        exact .inl ⟨_, rfl, .locked hlock⟩
  | readStatus =>
      simp only [next, readStatus, Option.some.injEq, Prod.mk.injEq] at h
      obtain ⟨rfl, rfl⟩ := h
      exact .inl ⟨_, rfl, .status⟩
  | readRole =>
      simp only [next, Option.some.injEq, Prod.mk.injEq] at h
      obtain ⟨rfl, rfl⟩ := h
      exact .inl ⟨_, rfl, .role⟩
  | upsert =>
      simp only [next, upsert] at h
      split at h
      · cases h
        exact .inr ⟨_, rfl, .inl rfl⟩
      · rw [Option.map_eq_some_iff] at h
        obtain ⟨rows, hplace, hrest⟩ := h
        cases hrest
        exact .inl ⟨_, rfl, .upserted hplace⟩
  | countAttended =>
      simp only [next, countAttended] at h
      split at h
      · next hcross =>
        rw [Option.map_eq_some_iff] at h
        obtain ⟨after, hupdate, hrest⟩ := h
        obtain ⟨old, users, halter, rfl⟩ := updateUser_eq hupdate
        cases hrest
        exact .inl ⟨_, rfl, .crossed hcross halter⟩
      · next hkept =>
        cases h
        exact .inl ⟨_, rfl, .kept (Bool.not_eq_true _ ▸ hkept)⟩
  | stampHeld =>
      simp only [next, stampHeld] at h
      split at h
      · next hheld =>
        rw [Option.map_eq_some_iff] at h
        obtain ⟨⟨old, sessions⟩, hupdate, hrest⟩ := h
        cases hrest
        rw [Bool.and_eq_true, Option.isNone_iff_eq_none, decide_eq_true_eq] at hheld
        exact .inl ⟨_, rfl, .stamped hheld.1 hheld.2 hupdate⟩
      · cases h
        exact .inl ⟨_, rfl, .unstamped⟩
  | countHeld =>
      simp only [next, countHeld] at h
      rw [Option.map_eq_some_iff] at h
      obtain ⟨after, hupdate, hrest⟩ := h
      obtain ⟨old, users, halter, rfl⟩ := updateUser_eq hupdate
      cases hrest
      exact .inl ⟨_, rfl, .held halter⟩
  | commitMark | commitRemove =>
      simp only [next, Option.some.injEq, Prod.mk.injEq] at h
      obtain ⟨rfl, rfl⟩ := h
      exact .inr ⟨_, rfl, .inr ⟨rfl, rfl⟩⟩
  | remove =>
      simp only [next, remove] at h
      split at h
      · cases h
      · cases h
        exact .inl ⟨_, rfl, .nothing⟩
      · next gone rows hlock =>
        cases h
        exact .inl ⟨_, rfl, .taken hlock rfl⟩
  | readStudent =>
      simp only [next, Option.some.injEq, Prod.mk.injEq] at h
      obtain ⟨rfl, rfl⟩ := h
      exact .inl ⟨_, rfl, .student⟩
  | refund =>
      simp only [next, refund] at h
      split at h
      · next hstudent =>
        rw [Option.map_eq_some_iff] at h
        obtain ⟨after, hupdate, hrest⟩ := h
        obtain ⟨old, users, halter, rfl⟩ := updateUser_eq hupdate
        cases hrest
        exact .inl ⟨_, rfl, .refunded hstudent halter⟩
      · next hstaff =>
        cases h
        exact .inl ⟨_, rfl, .staff (Bool.not_eq_true _ ▸ hstaff)⟩
  | deleteRow =>
      simp only [next, deleteRow] at h
      rw [Option.map_eq_some_iff] at h
      obtain ⟨⟨old, rows⟩, hdelete, hrest⟩ := h
      cases hrest
      exact .inl ⟨_, rfl, .deleted hdelete⟩

end Hezarfen.RollCall
