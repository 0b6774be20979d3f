import Hezarfen.HomeworkStore
import Hezarfen.Interleaving

/-!
# The homework calls

Create, PATCH and delete of a homework, the student's submit, withdrawal, upload and
file delete, and the teacher's grade and un-grade, each cut at its round trips to the
store.  The graded read of a student-side call is one round trip and its write is
another, so the read can be stale when the write comes.  Gates on tables that are not
modelled are a choice of the world: `gates` for the role, the enrollment and the
management rights, `wall` for the archived year.
-/

namespace Hezarfen.Homeworks

open Interleaving
open School (ClassCourseId)
open Exams (SubjectId)

structure World where
  now : Timestamp
  uuid : Uuid
  /-- The name of the blob an upload writes. -/
  blob : Uuid
  gates : Option AppError
  wall : Option AppError

structure CreateArgs where
  classCourse : ClassCourseId
  subject : SubjectId
  title : String
  description : Option String
  dueAt : Timestamp
  assigned : Option (List UserId)
  createdBy : UserId

def CreateArgs.row (args : CreateArgs) (now : Timestamp) : HomeworkRow :=
  { classCourse := args.classCourse
    subject := args.subject
    title := args.title
    description := args.description
    dueAt := args.dueAt
    createdBy := args.createdBy
    createdAt := now }

structure Upload where
  name : String
  contentType : String
  size : ℤ

def Upload.file (upload : Upload) (submission : HomeworkSubmissionId) (w : World) :
    HomeworkFile :=
  { id := ⟨w.uuid⟩
    submission := submission
    name := upload.name
    contentType := upload.contentType
    size := upload.size
    file := w.blob.hyphenated
    createdAt := w.now }

inductive Request where
  | createUser (user : UserId)
  | createSubject (subject : SubjectId)
  | create (args : CreateArgs)
  | update (homework : HomeworkId) (patch : HomeworkPatch)
  | delete (homework : HomeworkId)
  | submit (homework : HomeworkId) (user : UserId) (text : Option String)
  | withdraw (homework : HomeworkId) (user : UserId)
  | upload (homework : HomeworkId) (user : UserId) (upload : Upload)
  | deleteFile (homework : HomeworkId) (user : UserId) (file : HomeworkFileId)
  | grade (homework : HomeworkId) (target : UserId) (verdict : Verdict)
  | ungrade (homework : HomeworkId) (target : UserId)

inductive Point where
  | createUser (user : UserId)
  | createSubject (subject : SubjectId)
  | create (args : CreateArgs)
  | patchRead (homework : HomeworkId) (patch : HomeworkPatch)
  | patchTx (read : Homework) (patch : HomeworkPatch)
  | deleteRead (homework : HomeworkId)
  | deleteTx (homework : HomeworkId)
  | submitGate (homework : HomeworkId) (user : UserId) (text : Option String)
  | submitGraded (homework : HomeworkId) (user : UserId) (text : Option String)
  | submitTx (homework : HomeworkId) (user : UserId) (text : Option String)
  | withdrawGate (homework : HomeworkId) (user : UserId)
  | withdrawGraded (homework : HomeworkId) (user : UserId)
  | withdrawRead (homework : HomeworkId) (user : UserId)
  | withdrawFiles (submission : HomeworkSubmission)
  | withdrawTx (submission : HomeworkSubmission) (files : List HomeworkFile)
  | uploadPreflight (homework : HomeworkId) (user : UserId) (upload : Upload)
  | uploadGate (homework : HomeworkId) (user : UserId) (upload : Upload)
  | attachGraded (homework : HomeworkId) (user : UserId) (upload : Upload)
  | attachRead (homework : HomeworkId) (user : UserId) (upload : Upload)
  | attachTx (homework : HomeworkId) (user : UserId) (upload : Upload)
  | fileInsert (submission : HomeworkSubmissionId) (upload : Upload)
  | fileLost (submission : HomeworkSubmissionId)
  | fileTouch (file : HomeworkFile)
  | fileGate (homework : HomeworkId) (user : UserId) (file : HomeworkFileId)
  | fileGraded (homework : HomeworkId) (user : UserId) (file : HomeworkFileId)
  | fileSubmission (homework : HomeworkId) (user : UserId) (file : HomeworkFileId)
  | fileRead (submission : HomeworkSubmissionId) (file : HomeworkFileId)
  | fileTx (file : HomeworkFile)
  | gradeRead (homework : HomeworkId) (target : UserId) (verdict : Verdict)
  | gradeGate (homework : HomeworkId) (target : UserId) (verdict : Verdict)
  | gradeTx (homework : HomeworkId) (target : UserId) (verdict : Verdict)
  | ungradeRead (homework : HomeworkId) (target : UserId)
  | ungradeTx (homework : HomeworkId) (target : UserId)

inductive Answer where
  | done
  | homework (homework : Homework)
  | submission (submission : HomeworkSubmission) (existed : Bool)
  | files (files : List HomeworkFile)
  | result (result : HomeworkResult)

abbrev Reply := Next Point (Except AppError Answer)

def refuse (e : AppError) : Reply := .answer (.error e)

/-- The reply of a step behind the gates on tables that are not modelled. -/
def gated (gate : Option AppError) (reply : Reply) : Reply :=
  match gate with
  | some e => refuse e
  | none => reply

def settle {α : Type} (reply : α → Reply) (r : Except AppError α × Db) : Db × Reply :=
  match r with
  | (.ok a, s) => (s, reply a)
  | (.error e, s) => (s, refuse e)

def answer {α : Type} (f : α → Answer) (a : α) : Reply := .answer (.ok (f a))

/-- `None` of a guarded write, under the caller's wording. -/
def orRefuse (frozen : AppError) {α : Type} (reply : α → Reply) : Option α → Reply
  | some a => reply a
  | none => refuse frozen

def beforeEditing : AppError := gradedError "editing your submission"

def beforeDeleting : AppError := gradedError "deleting your submission"

def beforeAddingFiles : AppError := gradedError "adding files"

def beforeDeletingFiles : AppError := gradedError "deleting files"

/-- `gate_own_submission`, then the wall of an archived year. -/
def gateOwnSubmission (s : Db) (w : World) (homework : HomeworkId) (user : UserId)
    (next : Point) : Reply :=
  match s.readHomework homework with
  | none => refuse .notFound
  | some row =>
      gated w.gates <|
        if row.studentSees user then gated w.wall (.goto next) else refuse .notFound

/-- The common-case gate: a grade that the call reads refuses it here. -/
def gradedGate (s : Db) (homework : HomeworkId) (user : UserId) (frozen : AppError)
    (next : Point) : Reply :=
  if (s.resultFor homework user).isSome then refuse frozen else .goto next

def withdrawRead (s : Db) (homework : HomeworkId) (user : UserId) : Reply :=
  match s.submissionFor homework user with
  | none => refuse .notFound
  | some row => .goto (.withdrawFiles row.submission)

def Db.listForSubmission (s : Db) (submission : HomeworkSubmissionId) : List HomeworkFile :=
  ((s.homeworkFile.entries.map fun row => row.2).filter fun file =>
    file.submission = submission).mergeSort
      fun a b => b.id.uuid.hyphenated ≤ a.id.uuid.hyphenated

def attachRead (s : Db) (homework : HomeworkId) (user : UserId) (upload : Upload) : Reply :=
  match s.submissionFor homework user with
  | some row => .goto (.fileInsert row.submission.id upload)
  | none => .goto (.attachTx homework user upload)

def fileInsert (s : Db) (w : World) (submission : HomeworkSubmissionId) (upload : Upload) :
    Db × Reply :=
  settle
    (fun
      | some file => .goto (.fileTouch file)
      | none => .goto (.fileLost submission))
    (insertFile (upload.file submission w) s)

def fileLost (s : Db) (submission : HomeworkSubmissionId) : Reply :=
  if s.isGraded submission then refuse beforeAddingFiles
  else
    refuse (.conflict
      "the submission already holds the maximum of 10 files — delete one first")

def fileTouch (s : Db) (w : World) (file : HomeworkFile) : Db × Reply :=
  if (s.homeworkSubmission.lookup file.submission).isSome then
    (s.touch file.submission w.now, answer .files [file])
  else (s, refuse .notFound)

def fileSubmission (s : Db) (homework : HomeworkId) (user : UserId) (file : HomeworkFileId) :
    Reply :=
  match s.submissionFor homework user with
  | none => refuse .notFound
  | some row => .goto (.fileRead row.submission.id file)

def fileRead (s : Db) (submission : HomeworkSubmissionId) (file : HomeworkFileId) : Reply :=
  match s.homeworkFile.lookup file with
  | none => refuse .notFound
  | some row =>
      if row.submission = submission then .goto (.fileTx row) else refuse .notFound

/-! ## The teacher side -/

def manage (s : Db) (w : World) (homework : HomeworkId) (next : Homework → Point) : Reply :=
  match s.readHomework homework with
  | none => refuse .notFound
  | some row => gated w.gates (gated w.wall (.goto (next row)))

def gradeGate (s : Db) (w : World) (homework : HomeworkId) (target : UserId)
    (verdict : Verdict) : Reply :=
  match s.readHomework homework with
  | none => refuse .notFound
  | some row =>
      if target = verdict.gradedBy then refuse (.forbidden "grading yourself is not allowed")
      else if s.account target then
        gated w.gates <|
          if row.studentSees target then .goto (.gradeTx homework target verdict)
          else refuse (invalidUser "target user is not in this homework's audience")
      else refuse (invalidUser "target user does not exist")

def createUser (s : Db) (user : UserId) : Db × Reply :=
  if s.account user then (s, refuse .db)
  else
    ({ s with
        exams := { s.exams with appUser := s.exams.appUser.insert user ⟨0, 0, 0⟩ }
        tally := s.tally.insert user ⟨0, 0⟩ },
      answer (fun _ => .done) ())

def createSubject (s : Db) (subject : SubjectId) : Db × Reply :=
  if (s.homeworkCount.lookup subject).isSome then (s, refuse .db)
  else
    ({ s with homeworkCount := s.homeworkCount.insert subject 0 }, answer (fun _ => .done) ())

/-- The handler's gates stand before the transaction, on tables that are not modelled. -/
def create (s : Db) (w : World) (args : CreateArgs) : Db × Reply :=
  match w.gates with
  | some e => (s, refuse e)
  | none =>
      settle (answer .homework)
        (txWithRetry (createTx ⟨w.uuid⟩ (args.row w.now) args.assigned) s)

def next (_ : ℕ) (s : Db) (p : Point) (w : World) : Option (Db × Reply) :=
  match p with
  | .createUser user => some (createUser s user)
  | .createSubject subject => some (createSubject s subject)
  | .create args => some (create s w args)
  | .patchRead homework patch => some (s, manage s w homework fun row => .patchTx row patch)
  | .patchTx read patch =>
      some (settle (answer .homework) (txWithRetry (updateTx read patch) s))
  | .deleteRead homework => some (s, manage s w homework fun _ => .deleteTx homework)
  | .deleteTx homework =>
      some (settle (answer fun _ => .done) (txWithRetry (deleteTx homework) s))
  | .submitGate homework user text =>
      some (s, gateOwnSubmission s w homework user (.submitGraded homework user text))
  | .submitGraded homework user text =>
      some (s, gradedGate s homework user beforeEditing (.submitTx homework user text))
  | .submitTx homework user text =>
      some (settle (orRefuse beforeEditing fun landed => answer (.submission landed.1) landed.2)
        (txWithRetry (upsertTx homework user text false ⟨w.uuid⟩ w.now) s))
  | .withdrawGate homework user =>
      some (s, gateOwnSubmission s w homework user (.withdrawGraded homework user))
  | .withdrawGraded homework user =>
      some (s, gradedGate s homework user beforeDeleting (.withdrawRead homework user))
  | .withdrawRead homework user => some (s, withdrawRead s homework user)
  | .withdrawFiles submission =>
      some (s, .goto (.withdrawTx submission (s.listForSubmission submission.id)))
  | .withdrawTx submission files =>
      some (settle (orRefuse beforeDeleting fun _ => answer .files files)
        (txWithRetry (withdrawTx submission) s))
  | .uploadPreflight homework user upload =>
      some (s, gateOwnSubmission s w homework user (.uploadGate homework user upload))
  | .uploadGate homework user upload =>
      some (s, gateOwnSubmission s w homework user (.attachGraded homework user upload))
  | .attachGraded homework user upload =>
      some (s, gradedGate s homework user beforeAddingFiles (.attachRead homework user upload))
  | .attachRead homework user upload => some (s, attachRead s homework user upload)
  | .attachTx homework user upload =>
      some (settle
        (orRefuse beforeAddingFiles fun landed => .goto (.fileInsert landed.1.id upload))
        (txWithRetry (upsertTx homework user none true ⟨w.uuid⟩ w.now) s))
  | .fileInsert submission upload => some (fileInsert s w submission upload)
  | .fileLost submission => some (s, fileLost s submission)
  | .fileTouch file => some (fileTouch s w file)
  | .fileGate homework user file =>
      some (s, gateOwnSubmission s w homework user (.fileGraded homework user file))
  | .fileGraded homework user file =>
      some (s, gradedGate s homework user beforeDeletingFiles (.fileSubmission homework user file))
  | .fileSubmission homework user file => some (s, fileSubmission s homework user file)
  | .fileRead submission file => some (s, fileRead s submission file)
  | .fileTx file =>
      some (settle (orRefuse beforeDeletingFiles fun _ => answer (fun _ => .done) ())
        (txWithRetry (deleteFileTx file w.now) s))
  | .gradeRead homework target verdict =>
      some (s, manage s w homework fun _ => .gradeGate homework target verdict)
  | .gradeGate homework target verdict => some (s, gradeGate s w homework target verdict)
  | .gradeTx homework target verdict =>
      some (settle (answer .result)
        (txWithRetry (gradeTx ⟨w.uuid⟩ homework target verdict w.now) s))
  | .ungradeRead homework target =>
      some (s, manage s w homework fun _ => .ungradeTx homework target)
  | .ungradeTx homework target =>
      some (settle (orRefuse .notFound (answer .result)) (txWithRetry (removeTx homework target) s))

def entry : Request → Point
  | .createUser user => .createUser user
  | .createSubject subject => .createSubject subject
  | .create args => .create args
  | .update homework patch => .patchRead homework patch
  | .delete homework => .deleteRead homework
  | .submit homework user text => .submitGate homework user text
  | .withdraw homework user => .withdrawGate homework user
  | .upload homework user upload => .uploadPreflight homework user upload
  | .deleteFile homework user file => .fileGate homework user file
  | .grade homework target verdict => .gradeRead homework target verdict
  | .ungrade homework target => .ungradeRead homework target

def machine : Machine Db Point Request World (Except AppError Answer) where
  entry := entry
  next := next
  rollback := fun _ s => s

def start : Config Db Point := .initial .empty

namespace Sample

def student : UserId := ⟨.ending "0001"⟩

def teacher : UserId := ⟨.ending "0002"⟩

def classmate : UserId := ⟨.ending "0003"⟩

def algebra : SubjectId := ⟨.ending "0004"⟩

def essayUuid : Uuid := .ending "000a"

def rowUuid : Uuid := .ending "000b"

def essay : HomeworkId := ⟨essayUuid⟩

def essayArgs : CreateArgs :=
  { classCourse := ⟨.ending "0005"⟩
    subject := algebra
    title := "Essay"
    description := none
    dueAt := 10
    assigned := none
    createdBy := teacher }

def passed : Verdict := ⟨.done, none, teacher⟩

/-- One step of the call `id`, which mints `uuid` where it mints one. -/
def mint (id : ℕ) (uuid : Uuid) : Move Request World := .advance id ⟨0, uuid, uuid, none, none⟩

def tick (id : ℕ) : Move Request World := mint id rowUuid

def submitEssay : Move Request World := .start (.submit essay student (some "draft"))

def gradeEssay : Move Request World := .start (.grade essay student passed)

def opening : List (Move Request World) :=
  [.start (.createUser student), tick 0, .start (.createUser teacher), tick 1,
    .start (.createUser classmate), tick 2, .start (.createSubject algebra), tick 3,
    .start (.create essayArgs), mint 4 essayUuid]

end Sample

end Hezarfen.Homeworks
