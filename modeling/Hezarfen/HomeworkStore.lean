import Hezarfen.HomeworkDomain

/-!
# The homework tables and their transactions

Every student-side write, the grade, the un-grade and the audience PATCH lock the
homework row (or the submission row) across the whole of their transaction, so each
is one step here.  The accounts and their `marks_given_total` are those of the exam
tables, which a grade on either side credits.
-/

namespace Hezarfen.Homeworks

open School (ClassCourseId)
open Exams (SubjectId Mark)

/-- A row of `homework`; the audience is in its own table. -/
structure HomeworkRow where
  classCourse : ClassCourseId
  subject : SubjectId
  title : String
  description : Option String
  dueAt : Timestamp
  createdBy : UserId
  createdAt : Timestamp

/-- A row of `homework_submission` with the columns no struct carries. -/
structure SubmissionRow where
  submission : HomeworkSubmission
  fileCount : ℤ
  countedOnTime : Option Bool
  gradedByResult : Option HomeworkResultId

/-- The homework counters of an account. -/
structure Tally where
  homeworkSubmittedTotal : ℤ
  homeworkOnTimeTotal : ℤ
  deriving DecidableEq

structure Db where
  exams : Exams.Db
  homework : Table HomeworkId HomeworkRow
  homeworkAssignment : Table (HomeworkId × UserId) Unit
  homeworkSubmission : Table HomeworkSubmissionId SubmissionRow
  homeworkFile : Table HomeworkFileId HomeworkFile
  /-- By the constraint the grade upserts against. -/
  homeworkResult : Table (HomeworkId × UserId) HomeworkResult
  tally : Table UserId Tally
  /-- `subject.homework_count` -/
  homeworkCount : Table SubjectId ℤ

def Db.empty : Db :=
  { exams := .empty
    homework := ∅
    homeworkAssignment := ∅
    homeworkSubmission := ∅
    homeworkFile := ∅
    homeworkResult := ∅
    tally := ∅
    homeworkCount := ∅ }

/-- `array_agg` over the assignment rows: no row reads as the whole course. -/
def Db.assignedTo (s : Db) (homework : HomeworkId) : Option (List UserId) :=
  match (s.homeworkAssignment.entries.filter fun row => row.1.1 = homework).map
      fun row => row.1.2 with
  | [] => none
  | students => some students

def HomeworkRow.load (row : HomeworkRow) (id : HomeworkId) (assigned : Option (List UserId)) :
    Homework :=
  { id := id
    classCourse := row.classCourse
    subject := row.subject
    title := row.title
    description := row.description
    dueAt := row.dueAt
    assigned := assigned
    createdBy := row.createdBy
    createdAt := row.createdAt }

def Db.readHomework (s : Db) (id : HomeworkId) : Option Homework :=
  (s.homework.lookup id).map fun row => row.load id (s.assignedTo id)

def Db.named (s : Db) (homework : HomeworkId) (student : UserId) : Bool :=
  !(Table.any s.homeworkAssignment fun pair _ => pair.1 = homework) ||
    (s.homeworkAssignment.lookup (homework, student)).isSome

/-- The submission of a pair. -/
def Db.submissionFor (s : Db) (homework : HomeworkId) (user : UserId) : Option SubmissionRow :=
  (s.homeworkSubmission.entries.map fun row => row.2).find? fun row =>
    row.submission.homework = homework ∧ row.submission.user = user

def Db.resultFor (s : Db) (homework : HomeworkId) (user : UserId) : Option HomeworkResult :=
  s.homeworkResult.lookup (homework, user)

def Db.isGraded (s : Db) (id : HomeworkSubmissionId) : Bool :=
  (s.homeworkSubmission.lookup id).any fun row => row.gradedByResult.isSome

def Db.account (s : Db) (user : UserId) : Bool := (s.exams.appUser.lookup user).isSome

/-! ## Submissions -/

/-- `UPDATE app_user` by the id, over the homework counters. -/
def updateTally (tallies : Table UserId Tally) (user : UserId) (f : Tally → Tally) :
    Table UserId Tally :=
  Table.update tallies fun id row => if id = user then f row else row

def onTime (now due : Timestamp) : Bool := now ≤ due

def creditSubmission (row : Tally) (onTime : Bool) : Tally :=
  { homeworkSubmittedTotal := row.homeworkSubmittedTotal + 1
    homeworkOnTimeTotal := row.homeworkOnTimeTotal + if onTime then 1 else 0 }

def debitSubmission (row : Tally) (onTime : Bool) : Tally :=
  { homeworkSubmittedTotal := max (row.homeworkSubmittedTotal - 1) 0
    homeworkOnTimeTotal := max (row.homeworkOnTimeTotal - if onTime then 1 else 0) 0 }

/-- The re-submit arm: an upload that created nothing keeps the text. -/
def SubmissionRow.resubmit (row : SubmissionRow) (text : Option String) (preserveText : Bool)
    (now : Timestamp) : SubmissionRow :=
  { row with submission :=
      { row.submission with
        text := if preserveText then row.submission.text else text
        updatedAt := now } }

def Db.putSubmission (s : Db) (row : SubmissionRow) : Db :=
  { s with homeworkSubmission := s.homeworkSubmission.insert row.submission.id row }

/-- The create arm of the upsert: the row and the counters it credits. -/
def Db.createSubmission (s : Db) (submission : HomeworkSubmission) (counted : Bool) : Db :=
  { s with
    homeworkSubmission := s.homeworkSubmission.insert submission.id
      { submission := submission
        fileCount := 0
        countedOnTime := some counted
        gradedByResult := none }
    tally := updateTally s.tally submission.user fun row => creditSubmission row counted }

/-- Creates or re-stamps the submission of the pair; `none` is the freeze.  The student is a
foreign key, and so are the homework and the fresh id. -/
def upsertTx (homework : HomeworkId) (user : UserId) (text : Option String)
    (preserveText : Bool) (id : HomeworkSubmissionId) (now : Timestamp) :
    Tx Db (Option (HomeworkSubmission × Bool)) := fun s =>
  match s.homework.lookup homework with
  | none => .error .notFound
  | some row =>
      if s.named homework user then
        match s.submissionFor homework user with
        | some existing =>
            if existing.gradedByResult.isSome then .ok (none, s)
            else
              let updated := existing.resubmit text preserveText now
              .ok (some (updated.submission, true), s.putSubmission updated)
        | none =>
            if s.account user ∧ (s.homeworkSubmission.lookup id).isNone then
              let created : HomeworkSubmission := ⟨id, homework, user, text, now, now⟩
              .ok (some (created, false), s.createSubmission created (onTime now row.dueAt))
            else .error .db
      else .error .notFound

/-- The submission and its files, with the counters its create arm credited. -/
def Db.dropSubmission (s : Db) (row : SubmissionRow) (due : Option Timestamp) : Db :=
  let judged := due.any fun due => onTime row.submission.submittedAt due
  { s with
    homeworkFile := Table.deleteWhere s.homeworkFile fun _ file =>
      file.submission = row.submission.id
    homeworkSubmission := s.homeworkSubmission.erase row.submission.id
    tally := updateTally s.tally row.submission.user fun tally =>
      debitSubmission tally (row.countedOnTime.getD judged) }

/-- `homework_submission::delete`, the withdrawal; `none` is the freeze, or a rival. -/
def withdrawTx (submission : HomeworkSubmission) : Tx Db (Option HomeworkSubmission) := fun s =>
  match s.homeworkSubmission.lookup submission.id with
  | none => .ok (none, s)
  | some row =>
      if row.gradedByResult.isSome then .ok (none, s)
      else
        .ok (some row.submission,
          s.dropSubmission row ((s.homework.lookup submission.homework).map HomeworkRow.dueAt))

def Db.touch (s : Db) (id : HomeworkSubmissionId) (now : Timestamp) : Db :=
  { s with homeworkSubmission := Table.update s.homeworkSubmission fun key row =>
      if key = id then { row with submission := { row.submission with updatedAt := now } }
      else row }

def Db.attach (s : Db) (file : HomeworkFile) (row : SubmissionRow) : Db :=
  { s with
    homeworkSubmission := s.homeworkSubmission.insert file.submission
      { row with fileCount := row.fileCount + 1 }
    homeworkFile := s.homeworkFile.insert file.id file }

/-- The row gives its seat back, and the delete's gate has moved its `updated_at`. -/
def Db.detach (s : Db) (file : HomeworkFile) (row : SubmissionRow) (now : Timestamp) : Db :=
  { s with
    homeworkSubmission := s.homeworkSubmission.insert file.submission
      { row with
        submission := { row.submission with updatedAt := now }
        fileCount := max (row.fileCount - 1) 0 }
    homeworkFile := s.homeworkFile.erase file.id }

/-- The guarded insert: the seat and the file row are one statement, and a colliding id aborts
it.  `none` is a statement that matched no row, which is told apart by a later read. -/
def insertFile (file : HomeworkFile) (s : Db) : Except AppError (Option HomeworkFile) × Db :=
  match s.homeworkSubmission.lookup file.submission with
  | none => (.ok none, s)
  | some row =>
      if row.fileCount < maxHomeworkFilesPerSubmission ∧ row.gradedByResult = none then
        if (s.homeworkFile.lookup file.id).isSome then
          (.error (.internal "homework file id collided"), s)
        else
          (.ok (some file), s.attach file row)
      else (.ok none, s)

/-- `homework_file::delete`; `none` is the freeze. -/
def deleteFileTx (file : HomeworkFile) (now : Timestamp) : Tx Db (Option HomeworkFile) :=
  fun s =>
    match s.homeworkSubmission.lookup file.submission with
    | none => .ok (none, s)
    | some row =>
        if row.gradedByResult.isSome then .ok (none, s)
        else
          match s.homeworkFile.lookup file.id with
          | none => .error .notFound
          | some stored =>
              if stored.submission = file.submission then
                .ok (some stored, s.detach file row now)
              else .error .notFound

def Db.stamp (s : Db) (homework : HomeworkId) (user : UserId) (result : HomeworkResultId) : Db :=
  { s with homeworkSubmission := Table.update s.homeworkSubmission fun _ row =>
      if row.submission.homework = homework ∧ row.submission.user = user ∧
          row.gradedByResult = none then
        { row with gradedByResult := some result }
      else row }

def Db.unstamp (s : Db) (homework : HomeworkId) (user : UserId) : Db :=
  { s with homeworkSubmission := Table.update s.homeworkSubmission fun _ row =>
      if row.submission.homework = homework ∧ row.submission.user = user ∧
          row.gradedByResult.any (fun id =>
            (s.resultFor homework user).any fun result => result.id = id) then
        { row with gradedByResult := none }
      else row }

/-- `UPDATE app_user SET marks_given_total = …`. -/
def Db.moveGiven (s : Db) (user : UserId) (f : ℤ → ℤ) : Db :=
  { s with exams := s.exams.updateUser user fun row =>
      { row with marksGivenTotal := f row.marksGivenTotal } }

/-- What a grade carries besides its pair. -/
structure Verdict where
  status : HomeworkStatus
  mark : Option Mark
  gradedBy : UserId

def Db.putResult (s : Db) (graded : HomeworkResult) : Db :=
  Db.stamp
    { s with homeworkResult := s.homeworkResult.insert (graded.homework, graded.user) graded }
    graded.homework graded.user graded.id

/-- Records or overwrites the grade of the pair and stamps its submission; only a first grade
credits its grader.  The student and the grader are foreign keys. -/
def gradeTx (id : HomeworkResultId) (homework : HomeworkId) (user : UserId) (verdict : Verdict)
    (now : Timestamp) : Tx Db HomeworkResult := fun s =>
  match s.homework.lookup homework with
  | none => .error .notFound
  | some _ =>
      if s.account user ∧ s.account verdict.gradedBy then
        let before := s.resultFor homework user
        let graded : HomeworkResult :=
          { id := (before.map HomeworkResult.id).getD id
            homework := homework
            user := user
            status := verdict.status
            mark := verdict.mark
            gradedBy := verdict.gradedBy
            createdAt := now }
        let stamped := s.putResult graded
        .ok (graded,
          if before.isSome then stamped else stamped.moveGiven verdict.gradedBy (· + 1))
      else .error .db

def Db.dropResult (s : Db) (homework : HomeworkId) (user : UserId) : Db :=
  let opened := s.unstamp homework user
  { opened with homeworkResult := opened.homeworkResult.erase (homework, user) }

/-- `homework_result::remove`: the stamp is cleared and the grader's credit goes back. -/
def removeTx (homework : HomeworkId) (user : UserId) : Tx Db (Option HomeworkResult) := fun s =>
  match s.homework.lookup homework with
  | none => .ok (none, s)
  | some _ =>
      match s.resultFor homework user with
      | none => .ok (none, s.unstamp homework user)
      | some removed =>
          .ok (some removed,
            (s.dropResult homework user).moveGiven removed.gradedBy fun given =>
              max (given - 1) 0)

/-! ## The homework row -/

def Db.replaceAudience (s : Db) (homework : HomeworkId) (students : List UserId) : Db :=
  { s with
    homeworkAssignment :=
      students.foldl (fun rows student => rows.insert (homework, student) ())
        (Table.deleteWhere s.homeworkAssignment fun pair _ => pair.1 = homework) }

def claimSubject (counts : Table SubjectId ℤ) (id : SubjectId) : Option (Table SubjectId ℤ) :=
  (counts.lookup id).map fun count => counts.insert id (count + 1)

def releaseSubject (counts : Table SubjectId ℤ) (id : SubjectId) : Table SubjectId ℤ :=
  Table.update counts fun key count => if key = id then max (count - 1) 0 else count

def Db.insertable (s : Db) (students : List UserId) : Bool :=
  students.Nodup && students.all s.account

def createTx (id : HomeworkId) (row : HomeworkRow) (assigned : Option (List UserId)) :
    Tx Db Homework := fun s =>
  match claimSubject s.homeworkCount row.subject with
  | none => .error subjectGone
  | some counts =>
      if (s.homework.lookup id).isSome then .error (.internal "failed to create homework")
      else if s.account row.createdBy ∧ s.insertable (assigned.getD []) then
        .ok (row.load id assigned,
          Db.replaceAudience
            { s with homeworkCount := counts, homework := s.homework.insert id row }
            id (assigned.getD []))
      else .error .db

structure HomeworkPatch where
  subject : Option SubjectId
  title : Option String
  description : Option (Option String)
  dueAt : Option Timestamp
  assigned : Option (Option (List UserId))

def Db.orphans (s : Db) (homework : HomeworkId) (subset : List UserId) : List UserId :=
  let submitted :=
    ((s.homeworkSubmission.entries.map fun row => row.2.submission).filter fun row =>
      row.homework = homework).map HomeworkSubmission.user
  let graded :=
    (s.homeworkResult.entries.filter fun row => row.1.1 = homework).map fun row => row.1.2
  ((submitted ++ graded).filter fun user => user ∉ subset).eraseDups

def orphansError (blocked : List UserId) : AppError :=
  .conflictOwned ("narrowing the assigned list would orphan existing work by " ++
    blocked.length.repr ++ " student(s): " ++ ", ".intercalate (blocked.map UserId.key))

def ensureNoOrphans (s : Db) (homework : HomeworkId) (assigned : Option (List UserId)) :
    Except AppError Unit :=
  match assigned with
  | none => .ok ()
  | some subset =>
      match s.orphans homework subset with
      | [] => .ok ()
      | blocked => .error (orphansError blocked)

/-- A re-tag releases the stored subject and claims the new one, unless the caller read the
new one already. -/
def retag (counts : Table SubjectId ℤ) (next : Option SubjectId) (read stored : SubjectId) :
    Option (Table SubjectId ℤ) :=
  match next with
  | none => some counts
  | some next =>
      if next = read then some counts
      else claimSubject (releaseSubject counts stored) next

def HomeworkRow.patched (row : HomeworkRow) (patch : HomeworkPatch) : HomeworkRow :=
  { row with
    subject := patch.subject.getD row.subject
    title := patch.title.getD row.title
    description := patch.description.getD row.description
    dueAt := patch.dueAt.getD row.dueAt }

/-- The audience a PATCH carries is written wholesale, then the row. -/
def Db.patched (s : Db) (id : HomeworkId) (row : HomeworkRow) (patch : HomeworkPatch)
    (counts : Table SubjectId ℤ) : Db :=
  let rescoped := patch.assigned.elim s fun assigned =>
    s.replaceAudience id (assigned.getD [])
  { rescoped with
    homeworkCount := counts
    homework := s.homework.insert id (row.patched patch) }

/-- `update`: the orphan guard, the re-tag and the write under the lock of the row.  `read` is
the homework the caller read before. -/
def updateTx (read : Homework) (patch : HomeworkPatch) : Tx Db Homework := fun s =>
  match s.homework.lookup read.id with
  | none => .error .notFound
  | some row =>
      match patch.assigned.elim (.ok ()) (ensureNoOrphans s read.id) with
      | .error e => .error e
      | .ok () =>
          match retag s.homeworkCount patch.subject read.subject row.subject with
          | none => .error subjectGone
          | some counts =>
              if patch.subject.isSome ∧ row.subject ≠ read.subject then .error staleMove
              else if s.insertable ((patch.assigned.bind id).getD []) then
                let written := s.patched read.id row patch counts
                .ok ((row.patched patch).load read.id (written.assignedTo read.id), written)
              else .error .db

def Db.dropHomework (s : Db) (homework : HomeworkId) (row : HomeworkRow) : Db :=
  { s with
    homeworkFile := Table.deleteWhere s.homeworkFile fun _ file =>
      (s.homeworkSubmission.lookup file.submission).any fun row =>
        row.submission.homework = homework
    homeworkSubmission := Table.deleteWhere s.homeworkSubmission fun _ row =>
      row.submission.homework = homework
    homeworkResult := Table.deleteWhere s.homeworkResult fun pair _ => pair.1 = homework
    homeworkAssignment := Table.deleteWhere s.homeworkAssignment fun pair _ =>
      pair.1 = homework
    homework := s.homework.erase homework
    homeworkCount := releaseSubject s.homeworkCount row.subject }

def deleteTx (homework : HomeworkId) : Tx Db Unit := fun s =>
  match s.homework.lookup homework with
  | none => .error .notFound
  | some row => .ok ((), s.dropHomework homework row)

end Hezarfen.Homeworks
