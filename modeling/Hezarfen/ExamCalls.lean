import Hezarfen.ExamStore
import Hezarfen.Interleaving

/-!
# The calls of the exam subsystem

Grading and ungrading, the exam PATCH with its retry loop, exam delete and the
instance sweep, the sitting create, submissions and answer saves over HTTP and in
the exam room, the question writes behind the freeze gate, and the room sockets,
each cut at its round trips to the store.  Gates on tables that are not modelled
(roles, enrollment, the archived year, the settings list) are a choice of the
world, which may refuse a call with any error where such a gate stands.
-/

namespace Hezarfen.Exams

open Interleaving

/-- What the world decides for a socket that waits for its next event. -/
inductive RoomEvent where
  | tick
  | answer (question : ExamQuestionId) (selected text : Option String)
  | finish
  | ping
  | gone

structure World where
  now : Timestamp
  /-- The second and the third reading of the clock; only `start` takes them. -/
  again : Timestamp
  thereafter : Timestamp
  uuid : Uuid
  gates : Option AppError
  event : RoomEvent

inductive Origin where
  | rest
  | room (sitting : ExamAttemptId)
  deriving DecidableEq

structure SaveArgs where
  exam : ExamId
  user : UserId
  question : ExamQuestionId
  selected : Option String
  text : Option String
  deriving DecidableEq

structure GradeArgs where
  exam : ExamId
  grader : UserId
  target : UserId
  mark : ℤ
  deriving DecidableEq

structure PatchJob where
  patch : ExamPatch
  left : ℕ
  current : Exam
  merged : Exam
  deriving DecidableEq

/-- What `start` holds when it goes for the create: the exam it was handed, the sittings it
read and the time it judged them at, the new row, and the time the window is judged at. -/
structure StartJob where
  exam : Exam
  attempts : List ExamAttempt
  readAt : Timestamp
  attempt : ExamAttempt
  judgedAt : Timestamp
  deriving DecidableEq

inductive QuestionWrite where
  | insert (exam : ExamId) (fields : QuestionFields) (fromBank : Option BankQuestionId)
  | update (question : ExamQuestion) (fields : QuestionFields)
  | delete (question : ExamQuestion)
  deriving DecidableEq

/-- The exam whose row the write locks. -/
def QuestionWrite.exam : QuestionWrite → ExamId
  | .insert exam _ _ => exam
  | .update question _ | .delete question => question.exam

inductive QuestionEdit where
  | update (fields : QuestionFields)
  | delete
  deriving DecidableEq

inductive Request where
  | createUser (user : UserId)
  | createSubject (subject : SubjectId)
  | setRetired (name : String) (retired : Bool)
  | createExam (exam : Exam)
  | patchExam (exam : ExamId) (patch : ExamPatch)
  | deleteExam (exam : ExamId)
  | sweepInstance (classCourse : ClassCourseId)
  | grade (args : GradeArgs)
  | removeResult (exam : ExamId) (user : UserId)
  | startAttempt (exam : ExamId) (user : UserId)
  | finishAttempt (exam : ExamId) (user : UserId)
  | saveAnswer (args : SaveArgs)
  | createQuestion (exam : ExamId) (fields : QuestionFields) (fromBank : Option BankQuestionId)
  | editQuestion (exam : ExamId) (question : ExamQuestionId) (edit : QuestionEdit)
  | linkBankedAs (question : ExamQuestionId) (template : BankQuestionId)
  | deleteTemplate (template : BankQuestionId)
  | enterRoom (exam : ExamId) (user : UserId)

inductive Point where
  | createUser (user : UserId)
  | createSubject (subject : SubjectId)
  | setRetired (name : String) (retired : Bool)
  | createExam (exam : Exam)
  | patchRead (exam : ExamId) (patch : ExamPatch) (left : ℕ)
  | patchModeGate (job : PatchJob)
  | patchRedraftSat (job : PatchJob)
  | patchRedraftGraded (job : PatchJob) (sat : Bool)
  | patchKindGate (job : PatchJob)
  | patchTxRedraft (job : PatchJob)
  | patchTxCount (job : PatchJob)
  | patchTxUpdate (job : PatchJob) (wasResults : ℤ)
  | deleteRead (exam : ExamId)
  | deleteTx (exam : ExamId)
  | sweepInstance (classCourse : ClassCourseId)
  | gradeExam (args : GradeArgs)
  | gradeSeq (args : GradeArgs) (exam : Exam)
  | gradeTx (result : ExamResult) (kind : String)
  | removeExam (exam : ExamId) (user : UserId)
  | removeTx (exam : ExamId) (user : UserId) (kind : String)
  | startExam (exam : ExamId) (user : UserId)
  | startList (exam : Exam) (user : UserId)
  | startGuard (job : StartJob)
  | startInsert (job : StartJob)
  | startDuplicate (job : StartJob)
  | finishExam (origin : Origin) (exam : ExamId) (user : UserId)
  | finishAttempt (origin : Origin) (exam : Exam) (user : UserId)
  | finishUpdate (origin : Origin) (attempt : ExamAttempt)
  | saveExam (origin : Origin) (args : SaveArgs)
  | saveAttempt (origin : Origin) (args : SaveArgs) (exam : Exam)
  | saveQuestion (origin : Origin) (args : SaveArgs) (attempt : ExamAttempt)
  | saveTx (origin : Origin) (answer : ExamAnswer)
  | questionRead (exam : ExamId) (question : ExamQuestionId) (edit : QuestionEdit)
  | questionLock (write : QuestionWrite)
  | questionCheck (write : QuestionWrite)
  | questionWrite (write : QuestionWrite)
  | linkBankedAs (question : ExamQuestionId) (template : BankQuestionId)
  | deleteTemplate (template : BankQuestionId)
  | roomExam (exam : ExamId) (user : UserId)
  | roomAttempt (exam : Exam) (user : UserId)
  | roomEnter (attempt : ExamAttempt)
  | roomClear (attempt : ExamAttempt)
  | roomLoop (sitting : ExamAttemptId)
  | roomStateExam (sitting : ExamAttemptId)
  | roomStateAttempt (sitting : ExamAttemptId) (exam : Exam)
  | roomLeave (sitting : ExamAttemptId)
  | roomStamp (sitting : ExamAttemptId)
  deriving DecidableEq

inductive Answer where
  | done
  | exam (exam : Exam)
  | result (result : ExamResult)
  | attempt (attempt : ExamAttempt) (created : Bool)
  | answer (answer : ExamAnswer)
  | question (question : ExamQuestion)

abbrev Reply := Next Point (Except AppError Answer)

/-- The reply of a step behind the gates on tables that are not modelled. -/
def gated (w : World) (reply : Reply) : Reply :=
  match w.gates with
  | some e => .answer (.error e)
  | none => reply

def answered {α : Type} (f : α → Answer) (r : Except AppError α × Db) : Db × Reply :=
  (r.2, .answer (r.1.map f))

/-! ## The exam PATCH -/

def casUpdateRetries : ℕ := 3

def PatchJob.modeChanged (job : PatchJob) : Bool := job.merged.mode ≠ job.current.mode

def PatchJob.redraft (job : PatchJob) : Bool := job.merged.draft && !job.current.draft

def PatchJob.kindChanged (job : PatchJob) : Bool := job.merged.kind ≠ job.current.kind

def PatchJob.toTx (job : PatchJob) : Point :=
  if job.redraft then .patchTxRedraft job else .patchTxCount job

def PatchJob.toKindGate (job : PatchJob) : Point :=
  if job.kindChanged then .patchKindGate job else job.toTx

def PatchJob.toRedraftGate (job : PatchJob) : Point :=
  if job.redraft then .patchRedraftSat job else job.toKindGate

def PatchJob.toModeGate (job : PatchJob) : Point :=
  if job.modeChanged then .patchModeGate job else job.toRedraftGate

def patchRead (s : Db) (w : World) (exam : ExamId) (patch : ExamPatch) (left : ℕ) : Reply :=
  match s.readExam exam with
  | none => .answer (.error .notFound)
  | some current =>
      gated w <|
        match patch.merge current with
        | .error e => .answer (.error (.validation e))
        | .ok merged => .goto (PatchJob.toModeGate ⟨patch, left, current, merged⟩)

def patchModeGate (s : Db) (job : PatchJob) : Reply :=
  if s.anyForExam job.current.id then
    .answer (.error (.conflict "cannot change the exam mode after attempts have started"))
  else .goto job.toRedraftGate

def patchRedraftGraded (s : Db) (job : PatchJob) (sat : Bool) : Reply :=
  if sat || s.anyGraded job.current.id then .answer (.error redraftError)
  else .goto job.toKindGate

def patchKindGate (s : Db) (job : PatchJob) : Reply :=
  match s.exam.lookup job.current.id with
  | none => .answer (.error .notFound)
  | some row =>
      if 0 < row.resultCount then
        .answer (.error (.conflict
          "cannot change the kind of an exam that already has marks"))
      else .goto job.toTx

def patchTxRedraft (s : Db) (job : PatchJob) : Reply :=
  if s.anyForExam job.current.id || s.anyGraded job.current.id then
    .answer (.error redraftError)
  else .goto (.patchTxCount job)

def patchTxCount (s : Db) (job : PatchJob) : Reply :=
  .goto (.patchTxUpdate job (((s.exam.lookup job.current.id).map ExamRow.resultCount).getD 0))

def patchLost (job : PatchJob) : Reply :=
  if job.left - 1 = 0 then
    .answer (.error (.conflict "the exam kept changing underneath this update — try again"))
  else .goto (.patchRead job.current.id job.patch (job.left - 1))

/-- The guarded UPDATE waits for the row lock; a row that moved is left alone at once. -/
def patchTxUpdate (s : Db) (job : PatchJob) (wasResults : ℤ) : Option (Db × Reply) :=
  match s.updateIfUnchanged job.current job.merged wasResults with
  | none => some (s, patchLost job)
  | some s' =>
      if s.lockFree job.current.id then some (s', .answer (.ok (.exam job.merged))) else none

def gradeExam (s : Db) (w : World) (args : GradeArgs) : Reply :=
  match s.readExam args.exam with
  | none => .answer (.error .notFound)
  | some exam =>
      gated w (if exam.draft then .answer (.error draftError) else .goto (.gradeSeq args exam))

def gradeSeq (s : Db) (w : World) (args : GradeArgs) (exam : Exam) : Reply :=
  match Mark.tryNew args.mark with
  | .error e => .answer (.error (.validation e))
  | .ok mark =>
      if args.target = args.grader then
        .answer (.error (.forbidden "grading yourself is not allowed"))
      else
        let seq := (s.readLatestForUser args.exam args.target).elim 1 ExamAttempt.seq
        gated w (.goto (.gradeTx ⟨args.exam, args.target, seq, mark, args.grader⟩ exam.kind))

def removeExam (s : Db) (w : World) (exam : ExamId) (user : UserId) : Reply :=
  match s.readExam exam with
  | none => .answer (.error .notFound)
  | some row => gated w (.goto (.removeTx exam user row.kind))

def removed (r : Except AppError (Option ExamResult) × Db) : Db × Reply :=
  match r with
  | (.ok (some result), s) => (s, .answer (.ok (.result result)))
  | (.ok none, s) => (s, .answer (.error .notFound))
  | (.error e, s) => (s, .answer (.error e))

def checkRejoin (exam : Exam) (attempt : ExamAttempt) : Except AppError Unit :=
  if attempt.leftAt.isSome ∧ exam.allowRejoin = false then
    .error (.conflict "you left the exam and rejoin is closed — ask your teacher to reopen it")
  else .ok ()

def startExam (s : Db) (w : World) (exam : ExamId) (user : UserId) : Reply :=
  match s.readExam exam with
  | none => .answer (.error .notFound)
  | some row =>
      match ensureSittable row with
      | .error e => .answer (.error e)
      | .ok _ =>
          gated w <|
            match checkWindow row w.now with
            | .error e => .answer (.error e)
            | .ok _ => .goto (.startList row user)

/-- The sitting `start` goes for, or its early answer. -/
def startNext (exam : Exam) (now : Timestamp) (attempts : List ExamAttempt) :
    Except Reply ℤ :=
  match attempts with
  | [] => .ok 1
  | latest :: _ =>
      if latest.status exam now = .inProgress then
        .error (.answer (.ok (.attempt latest false)))
      else if exam.maxAttempts.allowsAnother attempts.length then .ok (latest.seq + 1)
      else .error (.answer (.error (.conflict
        "no attempts remaining — this exam's attempt limit is used up")))

def startList (s : Db) (w : World) (exam : Exam) (user : UserId) : Reply :=
  let attempts := s.listForUser exam.id user
  match startNext exam w.now attempts with
  | .error reply => reply
  | .ok seq =>
      .goto (.startGuard
        { exam := exam
          attempts := attempts
          readAt := w.now
          attempt := ⟨exam.id, user, seq, w.again, none, none⟩
          judgedAt := w.thereafter })

/-- The exam row is taken `FOR UPDATE` and judged again under the lock. -/
def startGuard (id : ℕ) (s : Db) (job : StartJob) : Option (Db × Reply) :=
  if s.lockFree job.exam.id then
    match s.readExam job.exam.id with
    | none => some (s, .answer (.error .notFound))
    | some row =>
        match guardStart row job.judgedAt with
        | .error e => some (s, .answer (.error e))
        | .ok _ => some (s.lock job.exam.id id, .goto (.startInsert job))
  else none

def started (job : StartJob) : Claimed ExamAttempt → Reply
  | .made created => .answer (.ok (.attempt created true))
  | .duplicate => .goto (.startDuplicate job)
  | .full => .answer (.error (.internal
      "cannot start an exam attempt: the student's account row is missing"))

/-- The insert and the commit, which gives the row lock back. -/
def startInsert (s : Db) (job : StartJob) : Db × Reply :=
  let r := s.createIn job.attempt (job.attempt.seq = 1)
  (r.2.unlock job.exam.id, started job r.1)

def startDuplicate (s : Db) (w : World) (job : StartJob) : Reply :=
  match s.readLatestForUser job.exam.id job.attempt.user with
  | some existing =>
      if existing.status job.exam w.now = .inProgress then
        .answer (.ok (.attempt existing false))
      else .answer (.error (.internal "failed to start exam attempt"))
  | none => .answer (.error (.internal "failed to start exam attempt"))

def writableAttempt (s : Db) (exam : Exam) (user : UserId) (now : Timestamp) :
    Except AppError ExamAttempt :=
  match s.readLatestForUser exam.id user with
  | none => .error .notFound
  | some attempt =>
      match attempt.status exam now with
      | .submitted => .error (.conflict "the attempt is already submitted")
      | .expired => .error (.conflict "time is up — the attempt has expired")
      | .inProgress => .ok attempt

def Origin.writable (origin : Origin) (s : Db) (exam : Exam) (user : UserId)
    (now : Timestamp) : Except AppError ExamAttempt :=
  match writableAttempt s exam user now with
  | .error e => .error e
  | .ok attempt =>
      match origin with
      | .rest => .ok attempt
      | .room sitting =>
          if attempt.id = sitting then .ok attempt
          else .error (.conflict
            "this room's sitting is over — reconnect to continue in the new attempt")

def Origin.fail (origin : Origin) (e : AppError) : Reply :=
  match origin with
  | .rest => .answer (.error e)
  | .room sitting => .goto (.roomLoop sitting)

def Origin.gated (origin : Origin) (w : World) (reply : Reply) : Reply :=
  match w.gates with
  | some e => origin.fail e
  | none => reply

def finishExam (s : Db) (origin : Origin) (exam : ExamId) (user : UserId) : Reply :=
  match s.readExam exam with
  | none => origin.fail .notFound
  | some row => .goto (.finishAttempt origin row user)

def finishAttempt (s : Db) (w : World) (origin : Origin) (exam : Exam) (user : UserId) :
    Reply :=
  match origin.writable s exam user w.now with
  | .error e => origin.fail e
  | .ok attempt => origin.gated w (.goto (.finishUpdate origin attempt))

def finished (origin : Origin) : Except AppError ExamAttempt → Reply
  | .error e => origin.fail e
  | .ok attempt =>
      match origin with
      | .rest => .answer (.ok (.attempt attempt false))
      | .room sitting => .goto (.roomLeave sitting)

def finishUpdate (s : Db) (w : World) (origin : Origin) (attempt : ExamAttempt) :
    Db × Reply :=
  let r := s.finish attempt w.now
  (r.2, finished origin r.1)

def saveExam (s : Db) (origin : Origin) (args : SaveArgs) : Reply :=
  match s.readExam args.exam with
  | none => origin.fail .notFound
  | some exam => .goto (.saveAttempt origin args exam)

def saveAttempt (s : Db) (w : World) (origin : Origin) (args : SaveArgs) (exam : Exam) :
    Reply :=
  match origin.writable s exam args.user w.now with
  | .error e => origin.fail e
  | .ok attempt =>
      origin.gated w <|
        match checkRejoin exam attempt with
        | .error e => origin.fail e
        | .ok _ => .goto (.saveQuestion origin args attempt)

def saveQuestion (s : Db) (origin : Origin) (args : SaveArgs) (attempt : ExamAttempt) :
    Reply :=
  match (s.examQuestion.lookup args.question).filter fun row => row.exam = args.exam with
  | none => origin.fail .notFound
  | some question =>
      match question.payload args.selected args.text with
      | .error e => origin.fail (.validation e)
      | .ok payload =>
          .goto (.saveTx origin
            { exam := question.exam
              question := question.id
              user := attempt.user
              seq := attempt.seq
              selected := payload.1
              text := payload.2
              updatedAt := 0 })

def saved (origin : Origin) : Except AppError ExamAnswer → Reply
  | .error e => origin.fail e
  | .ok answer =>
      match origin with
      | .rest => .answer (.ok (.answer answer))
      | .room sitting => .goto (.roomStateExam sitting)

/-- The save takes the exam row's lock, so it waits while another transaction holds it. -/
def saveTx (s : Db) (w : World) (origin : Origin) (answer : ExamAnswer) :
    Option (Db × Reply) :=
  if s.lockFree answer.exam then
    let r := txWithRetry (saveInTx { answer with updatedAt := w.now }) s
    some (r.2, saved origin r.1)
  else none

def frozenError : AppError := .conflict "cannot change questions after attempts have started"

def questionRead (s : Db) (w : World) (exam : ExamId) (question : ExamQuestionId)
    (edit : QuestionEdit) : Reply :=
  match (s.examQuestion.lookup question).filter fun row => row.exam = exam with
  | none => .answer (.error .notFound)
  | some row =>
      gated w <|
        match edit with
        | .update fields => .goto (.questionLock (.update row fields))
        | .delete => .goto (.questionLock (.delete row))

/-- The first half of `freeze_gate`: the exam row `FOR UPDATE`. -/
def questionLock (id : ℕ) (s : Db) (write : QuestionWrite) : Option (Db × Reply) :=
  if s.lockFree write.exam then
    match s.exam.lookup write.exam with
    | none => some (s, .answer (.error .notFound))
    | some _ => some (s.lock write.exam id, .goto (.questionCheck write))
  else none

def questionCheck (s : Db) (write : QuestionWrite) : Db × Reply :=
  if s.anyForExam write.exam then (s.unlock write.exam, .answer (.error frozenError))
  else (s, .goto (.questionWrite write))

def newQuestion (id : Uuid) (exam : ExamId) (fields : QuestionFields)
    (fromBank : Option BankQuestionId) : ExamQuestion :=
  { id := ⟨id⟩
    exam := exam
    subject := fields.subject
    text := fields.text
    points := fields.points
    spec := fields.spec
    fromBank := fromBank
    bankedAs := none }

/-- The rest of the transaction and its commit.  A new question draws its id here: until
the row lands nothing else can have seen it. -/
def questionWrite (s : Db) (w : World) (write : QuestionWrite) : Option (Db × Reply) :=
  let commit (r : Except AppError ExamQuestion × Db) : Db × Reply :=
    (r.2.unlock write.exam, .answer (r.1.map .question))
  match write with
  | .insert exam fields fromBank =>
      match s.mint w.uuid with
      | none => none
      | some s' =>
          some (commit (txWithRetry
            (insertQuestionTx (newQuestion w.uuid exam fields fromBank)) s'))
  | .update question fields => some (commit (txWithRetry (updateQuestionTx question fields) s))
  | .delete question => some (commit (txWithRetry (deleteQuestionTx question) s))

/-! ## The exam room -/

def roomExam (s : Db) (exam : ExamId) (user : UserId) : Reply :=
  match s.readExam exam with
  | none => .answer (.error .notFound)
  | some row =>
      match ensureSittable row with
      | .error e => .answer (.error e)
      | .ok _ => .goto (.roomAttempt row user)

def roomAttempt (s : Db) (w : World) (exam : Exam) (user : UserId) : Reply :=
  match writableAttempt s exam user w.now with
  | .error e => .answer (.error e)
  | .ok attempt =>
      match checkRejoin exam attempt with
      | .error e => .answer (.error e)
      | .ok _ => gated w (.goto (.roomEnter attempt))

/-- The clear is best effort: a sitting that is gone is not an error. -/
def roomClear (s : Db) (attempt : ExamAttempt) : Db × Reply :=
  ((s.setLeft attempt none).2, .goto (.roomLoop attempt.id))

def roomLoop (w : World) (sitting : ExamAttemptId) : Reply :=
  match w.event with
  | .tick => .goto (.roomStateExam sitting)
  | .answer question selected text =>
      .goto (.saveExam (.room sitting)
        ⟨sitting.exam, sitting.user, question, selected, text⟩)
  | .finish => .goto (.finishExam (.room sitting) sitting.exam sitting.user)
  | .ping => .goto (.roomLoop sitting)
  | .gone => .goto (.roomLeave sitting)

def roomStateExam (s : Db) (sitting : ExamAttemptId) : Reply :=
  match s.readExam sitting.exam with
  | none => .goto (.roomLeave sitting)
  | some exam => .goto (.roomStateAttempt sitting exam)

def roomStateAttempt (s : Db) (w : World) (sitting : ExamAttemptId) (exam : Exam) : Reply :=
  match s.examAttempt.lookup sitting with
  | none => .goto (.roomLeave sitting)
  | some attempt =>
      if attempt.status exam w.now = .inProgress then .goto (.roomLoop sitting)
      else .goto (.roomLeave sitting)

def roomLeave (s : Db) (sitting : ExamAttemptId) : Db × Reply :=
  let r := s.leave sitting.key
  (r.2, if r.1 then .goto (.roomStamp sitting) else .answer (.ok .done))

def createExam (s : Db) (w : World) (exam : Exam) : Option (Db × Reply) :=
  match s.mint w.uuid with
  | none => none
  | some s' =>
      match w.gates with
      | some e => some (s', .answer (.error e))
      | none =>
          let exam := { exam with id := ⟨w.uuid⟩ }
          some (s'.insertExam exam, .answer (.ok (.exam exam)))

def createUser (s : Db) (user : UserId) : Db × Reply :=
  match s.appUser.lookup user with
  | some _ => (s, .answer (.error (.conflict "username already taken")))
  | none => ({ s with appUser := s.appUser.insert user ⟨0, 0, 0⟩ }, .answer (.ok .done))

def createSubject (s : Db) (subject : SubjectId) : Db × Reply :=
  match s.subject.lookup subject with
  | some _ => (s, .answer (.error .db))
  | none => ({ s with subject := s.subject.insert subject 0 }, .answer (.ok .done))

def deleteRead (s : Db) (w : World) (exam : ExamId) : Reply :=
  match s.readExam exam with
  | none => .answer (.error .notFound)
  | some row => gated w (.goto (.deleteTx row.id))

def Db.anyLocked (s : Db) (p : ExamId → ExamRow → Bool) : Bool :=
  Table.any s.locks fun exam _ => s.doomed p exam

def sweepInstance (s : Db) (classCourse : ClassCourseId) : Option (Db × Reply) :=
  if s.anyLocked fun _ row => row.exam.classCourse = classCourse then none
  else some (s.sweepInstance classCourse, .answer (.ok .done))

def next (id : ℕ) (s : Db) (p : Point) (w : World) : Option (Db × Reply) :=
  match p with
  | .createUser user => some (createUser s user)
  | .createSubject subject => some (createSubject s subject)
  | .setRetired name retired => some (answered (fun _ => .done) (s.setRetired name retired))
  | .createExam exam => createExam s w exam
  | .patchRead exam patch left => some (s, patchRead s w exam patch left)
  | .patchModeGate job => some (s, patchModeGate s job)
  | .patchRedraftSat job =>
      some (s, .goto (.patchRedraftGraded job (s.anyForExam job.current.id)))
  | .patchRedraftGraded job sat => some (s, patchRedraftGraded s job sat)
  | .patchKindGate job => some (s, patchKindGate s job)
  | .patchTxRedraft job => some (s, patchTxRedraft s job)
  | .patchTxCount job => some (s, patchTxCount s job)
  | .patchTxUpdate job wasResults => patchTxUpdate s job wasResults
  | .deleteRead exam => some (s, deleteRead s w exam)
  | .deleteTx exam =>
      if s.lockFree exam then
        some (answered (fun _ => .done) (txWithRetry (deleteTx exam) s))
      else none
  | .sweepInstance classCourse => sweepInstance s classCourse
  | .gradeExam args => some (s, gradeExam s w args)
  | .gradeSeq args exam => some (s, gradeSeq s w args exam)
  | .gradeTx result kind =>
      if s.lockFree result.exam then
        some (answered .result (txWithRetry (gradeTx result kind) s))
      else none
  | .removeExam exam user => some (s, removeExam s w exam user)
  | .removeTx exam user kind =>
      if s.lockFree exam || (s.marksOf exam user).isEmpty then
        some (removed (txWithRetry (removeTx exam user kind) s))
      else none
  | .startExam exam user => some (s, startExam s w exam user)
  | .startList exam user => some (s, startList s w exam user)
  | .startGuard job => startGuard id s job
  | .startInsert job => some (startInsert s job)
  | .startDuplicate job => some (s, startDuplicate s w job)
  | .finishExam origin exam user => some (s, finishExam s origin exam user)
  | .finishAttempt origin exam user => some (s, finishAttempt s w origin exam user)
  | .finishUpdate origin attempt => some (finishUpdate s w origin attempt)
  | .saveExam origin args => some (s, saveExam s origin args)
  | .saveAttempt origin args exam => some (s, saveAttempt s w origin args exam)
  | .saveQuestion origin args attempt => some (s, saveQuestion s origin args attempt)
  | .saveTx origin answer => saveTx s w origin answer
  | .questionRead exam question edit => some (s, questionRead s w exam question edit)
  | .questionLock write => questionLock id s write
  | .questionCheck write => some (questionCheck s write)
  | .questionWrite write => questionWrite s w write
  | .linkBankedAs question template =>
      some (s.linkBankedAs question template, .answer (.ok .done))
  | .deleteTemplate template => some (s.unlinkTemplate template, .answer (.ok .done))
  | .roomExam exam user => some (s, roomExam s exam user)
  | .roomAttempt exam user => some (s, roomAttempt s w exam user)
  | .roomEnter attempt => some (s.enter attempt.id.key, .goto (.roomClear attempt))
  | .roomClear attempt => some (roomClear s attempt)
  | .roomLoop sitting => some (s, roomLoop w sitting)
  | .roomStateExam sitting => some (s, roomStateExam s sitting)
  | .roomStateAttempt sitting exam => some (s, roomStateAttempt s w sitting exam)
  | .roomLeave sitting => some (roomLeave s sitting)
  | .roomStamp sitting =>
      some (s.stampLeftIfRunning sitting w.now, .answer (.ok .done))

def entry : Request → Point
  | .createUser user => .createUser user
  | .createSubject subject => .createSubject subject
  | .setRetired name retired => .setRetired name retired
  | .createExam exam => .createExam exam
  | .patchExam exam patch => .patchRead exam patch casUpdateRetries
  | .deleteExam exam => .deleteRead exam
  | .sweepInstance classCourse => .sweepInstance classCourse
  | .grade args => .gradeExam args
  | .removeResult exam user => .removeExam exam user
  | .startAttempt exam user => .startExam exam user
  | .finishAttempt exam user => .finishExam .rest exam user
  | .saveAnswer args => .saveExam .rest args
  | .createQuestion exam fields fromBank => .questionLock (.insert exam fields fromBank)
  | .editQuestion exam question edit => .questionRead exam question edit
  | .linkBankedAs question template => .linkBankedAs question template
  | .deleteTemplate template => .deleteTemplate template
  | .enterRoom exam user => .roomExam exam user

def machine : Machine Db Point Request World (Except AppError Answer) where
  entry := entry
  next := next
  rollback := Db.releaseLocks

def start : Config Db Point := .initial .empty

namespace Sample

def student : UserId := ⟨.ending "0001"⟩

def teacher : UserId := ⟨.ending "0002"⟩

def algebra : SubjectId := ⟨.ending "0003"⟩

def quizUuid : Uuid := .ending "000a"

def questionUuid : Uuid := .ending "000b"

def quizId : ExamId := ⟨quizUuid⟩

def quiz : Exam :=
  { id := quizId
    creator := teacher
    classCourse := ⟨.ending "0004"⟩
    term := ⟨.ending "0005"⟩
    title := "Quiz"
    description := ""
    kind := "quiz"
    mode := some .opened
    startsAt := none
    endsAt := none
    durationMs := some ⟨3600000, by decide, by decide⟩
    maxAttempts := ⟨2, by decide⟩
    allowRejoin := false
    allowReview := true
    draft := false }

def noPatch : ExamPatch :=
  { title := none
    description := none
    kind := none
    mode := none
    startsAt := none
    endsAt := none
    durationMs := none
    maxAttempts := none
    allowRejoin := none
    allowReview := none
    draft := none }

def sum : QuestionFields := ⟨algebra, "2 + 2", 10, ⟨.text, none, none⟩⟩

/-- One step of the call `id` at the time `now`. -/
def tickAt (id : ℕ) (now : Timestamp) : Move Request World :=
  .advance id ⟨now, now, now, questionUuid, none, .ping⟩

def tick (id : ℕ) : Move Request World := tickAt id 0

/-- One step of the room socket `id` that waits for `event`. -/
def hear (id : ℕ) (event : RoomEvent) : Move Request World :=
  .advance id ⟨0, 0, 0, questionUuid, none, event⟩

def startQuiz : Move Request World := .start (.startAttempt quizId student)

def gradeQuiz : Move Request World := .start (.grade ⟨quizId, teacher, student, 95⟩)

def patchQuiz (patch : ExamPatch) : Move Request World := .start (.patchExam quizId patch)

def opening : List (Move Request World) :=
  [.start (.createUser student), tick 0, .start (.createUser teacher), tick 1,
    .start (.createSubject algebra), tick 2,
    .start (.createExam quiz), .advance 3 ⟨0, 0, 0, quizUuid, none, .ping⟩]

end Sample

end Hezarfen.Exams
