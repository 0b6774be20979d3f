import Hezarfen.ExamDomain
import Mathlib.Data.List.Sort

/-!
# The exam tables and their transactions

The rows the exam workflows read and write, together with what lives beside the
tables: the exam rows held `FOR UPDATE` by a transaction in flight, the presence
map of the exam rooms, and the uuids minted so far.  A transaction that takes the
row lock and commits in one go is one step; the sitting create and the question
writes hold the lock across several statements and are cut there by the calls.
-/

namespace Hezarfen.Exams

/-- A row of `exam` with the counter column no struct carries. -/
structure ExamRow where
  exam : Exam
  resultCount : ℤ

structure KindRef where
  count : ℤ
  retired : Bool

/-- The lifetime counters of an account. -/
structure AppUser where
  examSatTotal : ℤ
  marksGivenTotal : ℤ
  highMarkTotal : ℤ

structure Db where
  exam : Table ExamId ExamRow
  examResult : Table ExamResultId ExamResult
  kindRef : Table String KindRef
  examAttempt : Table ExamAttemptId ExamAttempt
  examQuestion : Table ExamQuestionId ExamQuestion
  examAnswer : Table ExamAnswerId ExamAnswer
  /-- `subject.exam_question_count` -/
  subject : Table SubjectId ℤ
  appUser : Table UserId AppUser
  /-- How many sockets each sitting has open, by the sitting's key. -/
  presence : Table String ℕ
  /-- The exam rows a transaction holds, with the number of the call it belongs to. -/
  locks : Table ExamId ℕ
  minted : List Uuid

def Db.empty : Db :=
  { exam := ∅
    examResult := ∅
    kindRef := ∅
    examAttempt := ∅
    examQuestion := ∅
    examAnswer := ∅
    subject := ∅
    appUser := ∅
    presence := ∅
    locks := ∅
    minted := [] }

def Db.mint (s : Db) (uuid : Uuid) : Option Db :=
  if uuid ∈ s.minted then none else some { s with minted := uuid :: s.minted }

def Db.readExam (s : Db) (id : ExamId) : Option Exam := (s.exam.lookup id).map ExamRow.exam

/-- Every sitting of `user` at `exam`, newest first. -/
def Db.listForUser (s : Db) (exam : ExamId) (user : UserId) : List ExamAttempt :=
  ((s.examAttempt.entries.map fun row => row.2).filter fun attempt =>
    attempt.exam = exam ∧ attempt.user = user).insertionSort fun a b => b.seq ≤ a.seq

def Db.readLatestForUser (s : Db) (exam : ExamId) (user : UserId) : Option ExamAttempt :=
  (s.listForUser exam user).head?

/-- Someone has started the exam. -/
def Db.anyForExam (s : Db) (exam : ExamId) : Bool :=
  Table.any s.examAttempt fun _ attempt => attempt.exam = exam

def Db.anyGraded (s : Db) (exam : ExamId) : Bool :=
  Table.any s.examResult fun _ result => result.exam = exam

def Db.lockFree (s : Db) (exam : ExamId) : Bool := (s.locks.lookup exam).isNone

/-- The claim on a kind name; `none` means that the kind is retired. -/
def claimKind (refs : Table String KindRef) (kind : String) : Option (Table String KindRef) :=
  match refs.lookup kind with
  | none => some (refs.insert kind ⟨1, false⟩)
  | some row =>
      if row.retired then none
      else some (refs.insert kind { row with count := row.count + 1 })

/-- `UPDATE app_user … WHERE id = user`. -/
def Db.updateUser (s : Db) (user : UserId) (f : AppUser → AppUser) : Db :=
  { s with appUser := Table.update s.appUser fun id row => if id = user then f row else row }

def Db.claimMark (s : Db) (exam : ExamId) (row : ExamRow) (gradedBy : UserId)
    (refs : Table String KindRef) : Db :=
  Db.updateUser
    { s with
      kindRef := refs
      exam := s.exam.insert exam { row with resultCount := row.resultCount + 1 } }
    gradedBy fun user => { user with marksGivenTotal := user.marksGivenTotal + 1 }

def moveHigh (users : Table UserId AppUser) (user : UserId) (before : Option Mark)
    (mark : Mark) : Table UserId AppUser :=
  let high : ℤ := (if mark.isHigh then 1 else 0) - (if before.any Mark.isHigh then 1 else 0)
  if high ≠ 0 then
    Table.update users fun id row =>
      if id = user then { row with highMarkTotal := max (row.highMarkTotal + high) 0 } else row
  else users

def Db.moveHigh (s : Db) (user : UserId) (before : Option Mark) (mark : Mark) : Db :=
  { s with appUser := Exams.moveHigh s.appUser user before mark }

/-- The upsert that ends `grade`; the two accounts are foreign keys. -/
def Db.putResult (s : Db) (result : ExamResult) : Except AppError (ExamResult × Db) :=
  if (s.appUser.lookup result.user).isSome ∧ (s.appUser.lookup result.gradedBy).isSome then
    .ok (result, { s with examResult := s.examResult.insert result.id result })
  else .error .db

def gradeTx (result : ExamResult) (kind : String) : Tx Db ExamResult := fun s =>
  match s.exam.lookup result.exam with
  | none => .error .notFound
  | some row =>
      if row.exam.draft then .error draftError
      else
        match s.examResult.lookup result.id with
        | some before =>
            (s.moveHigh result.user (some before.mark) result.mark).putResult result
        | none =>
            match claimKind s.kindRef kind with
            | none => .error (retiredKindError kind)
            | some refs =>
                ((s.claimMark result.exam row result.gradedBy refs).moveHigh result.user none
                  result.mark).putResult result

def Db.marksOf (s : Db) (exam : ExamId) (user : UserId) : List ExamResult :=
  ((s.examResult.entries.map fun row => row.2).filter fun result =>
    result.exam = exam ∧ result.user = user).insertionSort fun a b => a.seq ≤ b.seq

def KindRef.release (row : KindRef) (n : ℤ) : KindRef :=
  { row with count := max (row.count - n) 0 }

def ExamRow.release (row : ExamRow) (n : ℤ) : ExamRow :=
  { row with resultCount := max (row.resultCount - n) 0 }

/-- The counters of the graders and of the student after the marks `gone` were deleted. -/
def refundMarks (users : Table UserId AppUser) (student : UserId) (gone : List ExamResult) :
    Table UserId AppUser :=
  Table.update users fun id row =>
    let given : ℤ := (gone.countP fun result => result.gradedBy = id : ℕ)
    let high : ℤ := (gone.countP fun result => result.mark.isHigh : ℕ)
    let row := if id = student ∧ 0 < high then
      { row with highMarkTotal := max (row.highMarkTotal - high) 0 } else row
    if 0 < given then { row with marksGivenTotal := max (row.marksGivenTotal - given) 0 }
    else row

def Db.dropMarks (s : Db) (exam : ExamId) (user : UserId) (kind : String) : Db :=
  let gone := s.marksOf exam user
  { s with
    examResult := Table.deleteWhere s.examResult fun _ result =>
      result.exam = exam ∧ result.user = user
    kindRef := Table.update s.kindRef fun name row =>
      if name = kind then row.release gone.length else row
    exam := Table.update s.exam fun id row =>
      if id = exam then row.release gone.length else row
    appUser := refundMarks s.appUser user gone }

def removeTx (exam : ExamId) (user : UserId) (kind : String) : Tx Db (Option ExamResult) :=
  fun s =>
    match s.marksOf exam user with
    | [] => .ok (none, s)
    | first :: _ => .ok (some first, s.dropMarks exam user kind)

/-! ## The exam row -/

/-- The claim on the term and the audience row are not modelled. -/
def Db.insertExam (s : Db) (exam : Exam) : Db :=
  { s with exam := s.exam.insert exam.id ⟨exam, 0⟩ }

/-- The columns the UPDATE of `update_if_unchanged` sets. -/
def Exam.overwrite (stored merged : Exam) : Exam :=
  { stored with
    title := merged.title
    description := merged.description
    kind := merged.kind
    mode := merged.mode
    startsAt := merged.startsAt
    endsAt := merged.endsAt
    durationMs := merged.durationMs
    maxAttempts := merged.maxAttempts
    allowRejoin := merged.allowRejoin
    allowReview := merged.allowReview
    draft := merged.draft }

/-- The guarded UPDATE of `update_if_unchanged`; the caller waits while the row is held. -/
def Db.updateIfUnchanged (s : Db) (current merged : Exam) (wasResults : ℤ) : Option Db :=
  match s.exam.lookup current.id with
  | none => none
  | some row =>
      if row.exam.Unchanged current ∧ row.resultCount = wasResults then
        some
          { s with
            exam := s.exam.insert current.id
              { row with exam := row.exam.overwrite merged } }
      else none

def Db.doomed (s : Db) (p : ExamId → ExamRow → Bool) (exam : ExamId) : Bool :=
  (s.exam.lookup exam).any (p exam)

/-- Marks of the exams `p` whose exam carries the kind `name`. -/
def Db.doomedMarks (s : Db) (p : ExamId → ExamRow → Bool) (name : String) : ℕ :=
  Table.count s.examResult fun _ result =>
    (s.exam.lookup result.exam).any fun row => p result.exam row && row.exam.kind = name

def Db.doomedQuestions (s : Db) (p : ExamId → ExamRow → Bool) (subject : SubjectId) : ℕ :=
  Table.count s.examQuestion fun _ question =>
    s.doomed p question.exam && question.subject = subject

/-- The cascade under the exams `p`: marks give their kind references back, questions
their subject references, and every child row goes with its exam. -/
def Db.cascade (s : Db) (p : ExamId → ExamRow → Bool) : Db :=
  { s with
    exam := Table.deleteWhere s.exam p
    examResult := Table.deleteWhere s.examResult fun _ result => s.doomed p result.exam
    kindRef := Table.update s.kindRef fun name row =>
      if 0 < s.doomedMarks p name then row.release (s.doomedMarks p name) else row
    examAttempt := Table.deleteWhere s.examAttempt fun _ attempt => s.doomed p attempt.exam
    examQuestion := Table.deleteWhere s.examQuestion fun _ question =>
      s.doomed p question.exam
    examAnswer := Table.deleteWhere s.examAnswer fun _ answer => s.doomed p answer.exam
    subject := Table.update s.subject fun id count =>
      if 0 < s.doomedQuestions p id then max (count - s.doomedQuestions p id) 0 else count }

def deleteTx (target : ExamId) : Tx Db Unit := fun s =>
  match s.exam.lookup target with
  | none => .error .notFound
  | some _ => .ok ((), s.cascade fun id _ => id = target)

def Db.sweepInstance (s : Db) (instance_ : ClassCourseId) : Db :=
  s.cascade fun _ row => row.exam.classCourse = instance_

def ensureSittable (exam : Exam) : Except AppError Unit :=
  if exam.draft then .error .notFound
  else if exam.mode.isNone then
    .error (.conflict ("this exam is not scheduled — there is nothing to sit " ++
      "(give it a mode: sync, async, or open)"))
  else .ok ()

def checkWindow (exam : Exam) (now : Timestamp) : Except AppError Unit :=
  if exam.startsAt.any fun startsAt => now < startsAt then
    .error (.conflict "the exam has not started yet")
  else if exam.endsAt.any fun endsAt => endsAt ≤ now then
    .error (.conflict "the exam has already ended")
  else .ok ()

/-- The gates of `guard_start` on the locked exam row. -/
def guardStart (exam : Exam) (now : Timestamp) : Except AppError Unit :=
  match ensureSittable exam with
  | .error e => .error e
  | .ok _ => checkWindow exam now

/-- The counted insert of a sitting.  A duplicate key aborts the transaction, so its
increment goes with it. -/
def Db.createIn (s : Db) (attempt : ExamAttempt) (countSitting : Bool) :
    Claimed ExamAttempt × Db :=
  match s.appUser.lookup attempt.user with
  | none => (.full, s)
  | some user =>
      match s.examAttempt.lookup attempt.id with
      | some _ => (.duplicate, s)
      | none =>
          (.made attempt,
            { s with
              appUser := s.appUser.insert attempt.user
                { user with
                  examSatTotal := user.examSatTotal + if countSitting then 1 else 0 }
              examAttempt := s.examAttempt.insert attempt.id attempt })

/-- `UPDATE exam_attempt SET … WHERE` the primary key; no row is a `NotFound`. -/
def Db.updateAttempt (s : Db) (id : ExamAttemptId) (f : ExamAttempt → ExamAttempt) :
    Except AppError ExamAttempt × Db :=
  match s.examAttempt.lookup id with
  | none => (.error .notFound, s)
  | some row => (.ok (f row), { s with examAttempt := s.examAttempt.insert id (f row) })

def Db.finish (s : Db) (attempt : ExamAttempt) (now : Timestamp) :
    Except AppError ExamAttempt × Db :=
  s.updateAttempt attempt.id fun row => { row with finishedAt := some now }

def Db.setLeft (s : Db) (attempt : ExamAttempt) (leftAt : Option Timestamp) :
    Except AppError ExamAttempt × Db :=
  s.updateAttempt attempt.id fun row => { row with leftAt := leftAt }

/-- The `WHERE` of `stamp_left_if_running`. -/
def stampable (exam : Exam) (row : ExamAttempt) (now : Timestamp) : Bool :=
  row.leftAt.isNone && row.finishedAt.isNone &&
    (exam.durationMs.all fun duration => now < row.startedAt + duration.asMillis) &&
    (exam.durationMs.isSome || exam.endsAt.all fun endsAt => now < endsAt)

def Db.stampLeftIfRunning (s : Db) (id : ExamAttemptId) (now : Timestamp) : Db :=
  match s.exam.lookup id.exam, s.examAttempt.lookup id with
  | some row, some attempt =>
      if stampable row.exam attempt now then
        { s with
          examAttempt := s.examAttempt.insert id { attempt with leftAt := some now } }
      else s
  | _, _ => s

/-- The exam row is probed under its lock, then the answer is upserted; its question is a
foreign key together with the exam, and so is its student. -/
def saveInTx (answer : ExamAnswer) : Tx Db ExamAnswer := fun s =>
  match s.exam.lookup answer.exam with
  | none => .error .notFound
  | some _ =>
      if ((s.examQuestion.lookup answer.question).any fun row => row.exam = answer.exam) ∧
          (s.appUser.lookup answer.user).isSome then
        .ok (answer, { s with examAnswer := s.examAnswer.insert answer.id answer })
      else .error .db

/-! ## Questions

The bodies of the three writes after the freeze gate. -/

def deadSubject : AppError :=
  .validation (.invalid "subject_id" "subject does not exist")

def releaseSubject (subjects : Table SubjectId ℤ) (id : SubjectId) : Table SubjectId ℤ :=
  Table.update subjects fun key count => if key = id then max (count - 1) 0 else count

def claimSubject (subjects : Table SubjectId ℤ) (id : SubjectId) :
    Option (Table SubjectId ℤ) :=
  match subjects.lookup id with
  | none => none
  | some count => some (subjects.insert id (count + 1))

def insertQuestionTx (question : ExamQuestion) : Tx Db ExamQuestion := fun s =>
  match claimSubject s.subject question.subject with
  | none => .error deadSubject
  | some subjects =>
      .ok (question,
        { s with
          subject := subjects
          examQuestion := s.examQuestion.insert question.id question })

/-- What a question create or PATCH writes. -/
structure QuestionFields where
  subject : SubjectId
  text : String
  points : ℤ
  spec : QuestionSpec
  deriving DecidableEq

def ExamQuestion.withFields (row : ExamQuestion) (fields : QuestionFields) : ExamQuestion :=
  { row with
    subject := fields.subject
    text := fields.text
    points := fields.points
    spec := fields.spec }

def retag (subjects : Table SubjectId ℤ) (previous next : SubjectId) :
    Option (Table SubjectId ℤ) :=
  if next = previous then some subjects
  else claimSubject (releaseSubject subjects previous) next

def updateQuestionTx (question : ExamQuestion) (fields : QuestionFields) :
    Tx Db ExamQuestion := fun s =>
  match retag s.subject question.subject fields.subject with
  | none => .error deadSubject
  | some subjects =>
      match s.examQuestion.lookup question.id with
      | none => .error .notFound
      | some row =>
          if row.subject = question.subject then
            .ok (row.withFields fields,
              { s with
                subject := subjects
                examQuestion := s.examQuestion.insert question.id (row.withFields fields) })
          else .error (.conflict
            "the subject this question was read on changed since; re-read and retry")

def deleteQuestionTx (question : ExamQuestion) : Tx Db ExamQuestion := fun s =>
  match s.examQuestion.lookup question.id with
  | none => .error .notFound
  | some row =>
      .ok (row,
        { s with
          examQuestion := s.examQuestion.erase question.id
          examAnswer := Table.deleteWhere s.examAnswer fun _ answer =>
            answer.question = question.id
          subject := releaseSubject s.subject row.subject })

def Db.linkBankedAs (s : Db) (question : ExamQuestionId) (template : BankQuestionId) : Db :=
  { s with examQuestion := Table.update s.examQuestion fun id row =>
      if id = question then { row with bankedAs := some template } else row }

def Db.unlinkTemplate (s : Db) (template : BankQuestionId) : Db :=
  { s with examQuestion := Table.update s.examQuestion fun _ row =>
      { row with
        fromBank := row.fromBank.filter fun link => link ≠ template
        bankedAs := row.bankedAs.filter fun link => link ≠ template } }

def Db.lock (s : Db) (exam : ExamId) (call : ℕ) : Db :=
  { s with locks := s.locks.insert exam call }

def Db.unlock (s : Db) (exam : ExamId) : Db := { s with locks := s.locks.erase exam }

def Db.releaseLocks (call : ℕ) (s : Db) : Db :=
  { s with locks := Table.deleteWhere s.locks fun _ holder => holder = call }

/-- `ExamPresence::enter`. -/
def Db.enter (s : Db) (attempt : String) : Db :=
  { s with presence := s.presence.insert attempt ((s.presence.lookup attempt).getD 0 + 1) }

/-- `ExamPresence::leave`: whether this was the last socket, and the map without it. -/
def Db.leave (s : Db) (attempt : String) : Bool × Db :=
  match s.presence.lookup attempt with
  | none => (true, s)
  | some count =>
      if 1 < count then
        (false, { s with presence := s.presence.insert attempt (count - 1) })
      else (true, { s with presence := s.presence.erase attempt })

/-- A settings PATCH sets the retired bit of a kind nothing is graded under, or clears it. -/
def Db.setRetired (s : Db) (name : String) (retired : Bool) : Except AppError Unit × Db :=
  match s.kindRef.lookup name with
  | none => (.ok (), { s with kindRef := s.kindRef.insert name ⟨0, retired⟩ })
  | some row =>
      if retired = true ∧ 0 < row.count then
        (.error (.conflictOwned ("exams of kind '" ++ name ++
          "' are already graded — the kind cannot be removed")), s)
      else (.ok (), { s with kindRef := s.kindRef.insert name { row with retired := retired } })

end Hezarfen.Exams
