import Hezarfen.HomeworkCounters
import Hezarfen.Pomodoro

/-!
# Badges

A badge is earned when a lifetime counter of the account reaches its threshold.  The sync
writes an award for every earned badge that the user does not hold; the services that move
a counter call it after their commit.  A service answers `Err` before it has written
anything, so a refused request leaves the store as it was.
-/

namespace Hezarfen.Badges

open Exams (ExamAttempt ExamResult GradeArgs Mark)
open Homeworks (HomeworkId HomeworkResult HomeworkSubmission Verdict World upsertTx withdrawTx
  beforeAddingFiles beforeDeleting beforeEditing invalidUser)
open Pomodoro (PomodoroSession PomodoroSessionId)

inductive BadgeStat where
  | homeworkSubmitted
  | homeworkOnTime
  | examSat
  | pomodoroFinished
  | pomodoroFocusMs
  | marksGiven
  | lessonsHeld
  | poolApproved
  | poolPublished
  | lessonsAttended
  | highMark
  | studyStreak

structure Badge where
  id : String
  stat : BadgeStat
  threshold : ℤ

/-- `BADGES` -/
def badges : List Badge :=
  [⟨"homework_submitted_1", .homeworkSubmitted, 1⟩,
    ⟨"homework_submitted_10", .homeworkSubmitted, 10⟩,
    ⟨"homework_submitted_50", .homeworkSubmitted, 50⟩,
    ⟨"homework_on_time_10", .homeworkOnTime, 10⟩,
    ⟨"homework_on_time_25", .homeworkOnTime, 25⟩,
    ⟨"exam_sat_1", .examSat, 1⟩,
    ⟨"exam_sat_10", .examSat, 10⟩,
    ⟨"exam_sat_25", .examSat, 25⟩,
    ⟨"pomodoro_finished_10", .pomodoroFinished, 10⟩,
    ⟨"pomodoro_finished_50", .pomodoroFinished, 50⟩,
    ⟨"pomodoro_finished_200", .pomodoroFinished, 200⟩,
    ⟨"pomodoro_focus_ms_36000000", .pomodoroFocusMs, 36000000⟩,
    ⟨"pomodoro_focus_ms_180000000", .pomodoroFocusMs, 180000000⟩,
    ⟨"marks_given_10", .marksGiven, 10⟩,
    ⟨"marks_given_50", .marksGiven, 50⟩,
    ⟨"marks_given_250", .marksGiven, 250⟩,
    ⟨"lessons_held_10", .lessonsHeld, 10⟩,
    ⟨"lessons_held_50", .lessonsHeld, 50⟩,
    ⟨"lessons_held_200", .lessonsHeld, 200⟩,
    ⟨"pool_approved_5", .poolApproved, 5⟩,
    ⟨"pool_approved_25", .poolApproved, 25⟩,
    ⟨"pool_approved_100", .poolApproved, 100⟩,
    ⟨"pool_published_1", .poolPublished, 1⟩,
    ⟨"pool_published_10", .poolPublished, 10⟩,
    ⟨"pool_published_50", .poolPublished, 50⟩,
    ⟨"lessons_attended_10", .lessonsAttended, 10⟩,
    ⟨"lessons_attended_50", .lessonsAttended, 50⟩,
    ⟨"lessons_attended_200", .lessonsAttended, 200⟩,
    ⟨"high_mark_1", .highMark, 1⟩,
    ⟨"high_mark_10", .highMark, 10⟩,
    ⟨"high_mark_25", .highMark, 25⟩,
    ⟨"study_streak_3", .studyStreak, 3⟩,
    ⟨"study_streak_7", .studyStreak, 7⟩,
    ⟨"study_streak_30", .studyStreak, 30⟩]

structure BadgeStats where
  homeworkSubmitted : ℤ
  homeworkOnTime : ℤ
  examSat : ℤ
  pomodoroFinished : ℤ
  pomodoroFocusMs : ℤ
  marksGiven : ℤ
  lessonsHeld : ℤ
  poolApproved : ℤ
  poolPublished : ℤ
  lessonsAttended : ℤ
  highMark : ℤ
  studyStreak : ℤ

def BadgeStats.value (stats : BadgeStats) : BadgeStat → ℤ
  | .homeworkSubmitted => stats.homeworkSubmitted
  | .homeworkOnTime => stats.homeworkOnTime
  | .examSat => stats.examSat
  | .pomodoroFinished => stats.pomodoroFinished
  | .pomodoroFocusMs => stats.pomodoroFocusMs
  | .marksGiven => stats.marksGiven
  | .lessonsHeld => stats.lessonsHeld
  | .poolApproved => stats.poolApproved
  | .poolPublished => stats.poolPublished
  | .lessonsAttended => stats.lessonsAttended
  | .highMark => stats.highMark
  | .studyStreak => stats.studyStreak

def earned (stats : BadgeStats) : List String :=
  (badges.filter fun badge => badge.threshold ≤ stats.value badge.stat).map Badge.id

structure LessonTotals where
  lessonsHeldTotal : ℤ
  poolApprovedTotal : ℤ
  poolPublishedTotal : ℤ
  lessonsAttendedTotal : ℤ

/-- The columns of `app_user` stand in one table for each subsystem that writes them. -/
structure Db where
  work : Homeworks.Db
  pomodoroSession : Table PomodoroSessionId PomodoroSession
  study : Table UserId Pomodoro.AppUser
  lessons : Table UserId LessonTotals
  /-- `earned_at`, by the primary key. -/
  badgeAward : Table (UserId × String) (Option Timestamp)

def Db.load (s : Db) (user : UserId) : BadgeStats :=
  let tally := s.work.tally.lookup user
  let exams := s.work.exams.appUser.lookup user
  let study := s.study.lookup user
  let lessons := s.lessons.lookup user
  { homeworkSubmitted := tally.elim 0 fun row => row.homeworkSubmittedTotal
    homeworkOnTime := tally.elim 0 fun row => row.homeworkOnTimeTotal
    examSat := exams.elim 0 fun row => row.examSatTotal
    pomodoroFinished := study.elim 0 fun row => row.pomodoroFinishedTotal
    pomodoroFocusMs := study.elim 0 fun row => row.pomodoroFocusMsTotal
    marksGiven := exams.elim 0 fun row => row.marksGivenTotal
    lessonsHeld := lessons.elim 0 fun row => row.lessonsHeldTotal
    poolApproved := lessons.elim 0 fun row => row.poolApprovedTotal
    poolPublished := lessons.elim 0 fun row => row.poolPublishedTotal
    lessonsAttended := lessons.elim 0 fun row => row.lessonsAttendedTotal
    highMark := exams.elim 0 fun row => row.highMarkTotal
    studyStreak := study.elim 0 fun row => row.studyStreakLongest }

/-- The insert of one award.  On a conflict `earned_at` is set to itself, and only where it is
null. -/
def award (now : Timestamp) (awards : Table (UserId × String) (Option Timestamp))
    (key : UserId × String) : Table (UserId × String) (Option Timestamp) :=
  match awards.lookup key with
  | none => awards.insert key (some now)
  | some none => awards.insert key none
  | some (some _) => awards

/-- `sync` -/
def Db.sync (s : Db) (now : Timestamp) (user : UserId) : Db :=
  { s with
    badgeAward := (earned (s.load user)).foldl
      (fun awards badge => award now awards (user, badge)) s.badgeAward }

def inWork {α : Type} (tx : Tx Homeworks.Db α) : Tx Db α := fun s =>
  (tx s.work).map fun r => (r.1, { s with work := r.2 })

/-- A transaction on the exam tables. -/
def inExams {α : Type} (tx : Tx Exams.Db α) : Tx Db α :=
  inWork fun s => (tx s.exams).map fun r => (r.1, { s with exams := r.2 })

def gate (choice : Option AppError) : Except AppError Unit :=
  match choice with
  | some e => .error e
  | none => .ok ()

def refuseIf (bad : Bool) (e : AppError) : Except AppError Unit :=
  if bad then .error e else .ok ()

/-- `gate_own_submission`, then the wall of an archived year. -/
def gateOwnSubmission (s : Db) (w : World) (id : HomeworkId) (user : UserId) :
    Except AppError Unit := do
  let some homework := s.work.readHomework id | throw .notFound
  gate w.gates
  refuseIf (!homework.studentSees user) .notFound
  gate w.wall

/-- Only a first hand-in moved a counter, so only a first hand-in is synced. -/
def submit (w : World) (homework : HomeworkId) (user : UserId) (text : Option String) :
    Tx Db (HomeworkSubmission × Bool) := fun s => do
  gateOwnSubmission s w homework user
  refuseIf (s.work.resultFor homework user).isSome beforeEditing
  let (landed, s') ← inWork (upsertTx homework user text false ⟨w.uuid⟩ w.now) s
  let some (submission, existed) := landed | throw beforeEditing
  pure ((submission, existed), if existed then s' else s'.sync w.now user)

/-- The flag of the upsert is read under the name `fresh`. -/
def ensureCanAttach (w : World) (homework : HomeworkId) (user : UserId) :
    Tx Db HomeworkSubmission := fun s => do
  refuseIf (s.work.resultFor homework user).isSome beforeAddingFiles
  match s.work.submissionFor homework user with
  | some existing => pure (existing.submission, s)
  | none =>
      let (landed, s') ← inWork (upsertTx homework user none true ⟨w.uuid⟩ w.now) s
      let some (created, fresh) := landed | throw beforeAddingFiles
      pure (created, if fresh then s'.sync w.now user else s')

def withdraw (w : World) (homework : HomeworkId) (user : UserId) :
    Tx Db HomeworkSubmission := fun s => do
  gateOwnSubmission s w homework user
  refuseIf (s.work.resultFor homework user).isSome beforeDeleting
  let some row := s.work.submissionFor homework user | throw .notFound
  let (gone, s') ← inWork (withdrawTx row.submission) s
  let some gone := gone | throw beforeDeleting
  pure (gone, s'.sync w.now user)

/-- A homework grade credits its grader. -/
def gradeHomework (w : World) (id : HomeworkId) (target : UserId) (verdict : Verdict) :
    Tx Db HomeworkResult := fun s => do
  let some homework := s.work.readHomework id | throw .notFound
  refuseIf (target = verdict.gradedBy) (.forbidden "grading yourself is not allowed")
  refuseIf (!s.work.account target) (invalidUser "target user does not exist")
  gate w.gates
  refuseIf (!homework.studentSees target)
    (invalidUser "target user is not in this homework's audience")
  let (result, s') ← inWork (Homeworks.gradeTx ⟨w.uuid⟩ id target verdict w.now) s
  pure (result, s'.sync w.now verdict.gradedBy)

def gradeExam (w : World) (args : GradeArgs) : Tx Db ExamResult := fun s => do
  let some exam := s.work.exams.readExam args.exam | throw .notFound
  gate w.wall
  refuseIf exam.draft Exams.draftError
  gate w.gates
  let mark ← (Mark.tryNew args.mark).mapError .validation
  refuseIf (args.target = args.grader) (.forbidden "grading yourself is not allowed")
  refuseIf (!s.work.account args.target)
    (.validation (.invalid "user_id" "target user does not exist"))
  let seq := (s.work.exams.readLatestForUser args.exam args.target).elim 1 ExamAttempt.seq
  let (result, s') ←
    inExams (Exams.gradeTx ⟨args.exam, args.target, seq, mark, args.grader⟩ exam.kind) s
  pure (result, (s'.sync w.now args.grader).sync w.now args.target)

/-- The open row of the user. -/
def Db.openRow (s : Db) (user : UserId) : Option (PomodoroSessionId × PomodoroSession) :=
  (s.pomodoroSession.entries.find? fun row => PomodoroSession.isOpen user row.2).map fun row =>
    (row.1, row.2)

def Db.close (s : Db) (open_ id : PomodoroSessionId) (job : Pomodoro.Closing)
    (c : Pomodoro.AppUser) : Db :=
  { s with
    pomodoroSession := (s.pomodoroSession.erase open_).insert id
      (job.closed (c.counts job.day job.ms))
    study := s.study.insert job.user (c.write job.day job.ms c) }

def finishTx (w : World) (user : UserId) : Tx Db PomodoroSession := fun s => do
  let some (open_, taken) := s.openRow user
    | throw (.conflict "no pomodoro session running")
  let job : Pomodoro.Closing := ⟨user, w.now, taken⟩
  let some c := s.study.lookup user | throw .notFound
  refuseIf (s.pomodoroSession.lookup ⟨w.uuid⟩).isSome .db
  pure (job.closed (c.counts job.day job.ms), s.close open_ ⟨w.uuid⟩ job c)

def finish (w : World) (user : UserId) : Tx Db PomodoroSession := fun s => do
  let (saved, s') ← finishTx w user s
  pure (saved, s'.sync w.now user)

inductive Request where
  | submit (homework : HomeworkId) (user : UserId) (text : Option String)
  | ensureCanAttach (homework : HomeworkId) (user : UserId)
  | withdraw (homework : HomeworkId) (user : UserId)
  | gradeHomework (homework : HomeworkId) (target : UserId) (verdict : Verdict)
  | gradeExam (args : GradeArgs)
  | finish (user : UserId)

structure Call where
  request : Request
  world : World

def serve (call : Call) (s : Db) : Db :=
  match call.request with
  | .submit homework user text => (txWithRetry (submit call.world homework user text) s).2
  | .ensureCanAttach homework user => (txWithRetry (ensureCanAttach call.world homework user) s).2
  | .withdraw homework user => (txWithRetry (withdraw call.world homework user) s).2
  | .gradeHomework homework target verdict =>
      (txWithRetry (gradeHomework call.world homework target verdict) s).2
  | .gradeExam args => (txWithRetry (gradeExam call.world args) s).2
  | .finish user => (txWithRetry (finish call.world user) s).2

end Hezarfen.Badges
