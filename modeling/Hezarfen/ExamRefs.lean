import Hezarfen.ExamCalls
import Hezarfen.RefCounts
import Hezarfen.Transactions

/-!
# Exams, their questions, and the counters these references keep

A question counts on its subject, an exam on its term.  Questions are written one by one
behind the lock on their exam; an exam takes its questions with it, and the instance sweep
takes every exam of an instance, with the counters given back in groups.  Nothing but the
rows that a statement takes keeps two of these transactions apart.

The key-share locks behind a foreign key are left out, as is the key on the subject of a
question, so more can happen here than in the store.  An attempt that a foreign key
refuses starts over from nothing.
-/

namespace Hezarfen.ExamRefs

open Interleaving ReadCommitted
open Exams (Exam ExamId TermId SubjectId ExamQuestion ExamQuestionId ClassCourseId
  QuestionFields deadSubject frozenError)

structure Subject where
  examQuestionCount : ℤ
  homeworkCount : ℤ

structure Term where
  examCount : ℤ

structure Db where
  subject : Rows SubjectId Subject
  term : Rows TermId Term
  classCourse : Rows ClassCourseId Unit
  exam : Rows ExamId Exam
  examQuestion : Rows ExamQuestionId ExamQuestion

def Db.commit (tx : ℕ) (s : Db) : Db where
  subject := s.subject.commit tx
  term := s.term.commit tx
  classCourse := s.classCourse.commit tx
  exam := s.exam.commit tx
  examQuestion := s.examQuestion.commit tx

def Db.rollback (tx : ℕ) (s : Db) : Db where
  subject := s.subject.rollback tx
  term := s.term.rollback tx
  classCourse := s.classCourse.rollback tx
  exam := s.exam.rollback tx
  examQuestion := s.examQuestion.rollback tx

structure World where
  uuid : Uuid
  sat : Bool

inductive QuestionWrite where
  | insert (question : ExamQuestion)
  | update (question : ExamQuestion) (fields : QuestionFields)
  | delete (question : ExamQuestion)

def QuestionWrite.exam : QuestionWrite → ExamId
  | .insert question | .update question _ | .delete question => question.exam

inductive Request where
  | createExam (exam : Exam)
  | deleteExam (exam : ExamId)
  | insertQuestion (question : ExamQuestion)
  | updateQuestion (id : ExamQuestionId) (fields : QuestionFields)
  | deleteQuestion (id : ExamQuestionId)
  | detach (classCourse : ClassCourseId)
  | deleteSubject (subject : SubjectId)
  | homework (subject : SubjectId) (count : ℤ)

inductive Point where
  | claimTerm (exam : Exam)
  | insertExam (exam : Exam)
  | commitExam (exam : Exam)
  | read (id : ExamQuestionId) (change : Option QuestionFields)
  | gate (job : QuestionWrite)
  | sat (job : QuestionWrite)
  | claimSubject (question : ExamQuestion)
  | insertRow (question : ExamQuestion)
  | release (question : ExamQuestion) (fields : QuestionFields)
  | claim (question : ExamQuestion) (fields : QuestionFields)
  | write (question : ExamQuestion) (fields : QuestionFields)
  | probe (question : ExamQuestion)
  | dropQuestion (question : ExamQuestion)
  | releaseSubject (exam : ExamId) (deleted : ExamQuestion)
  | commitQuestion (exam : ExamId) (row : ExamQuestion)
  | lockExam (exam : ExamId)
  | countQuestions (exam : ExamId) (term : TermId)
  | refundExam (exam : ExamId) (term : TermId) (subs : List (SubjectId × ℕ))
  | findQuestions (exam : ExamId) (term : TermId)
  | deleteQuestions (exam : ExamId) (term : TermId) (ids : List ExamQuestionId)
  | dropExam (exam : ExamId) (term : TermId)
  | releaseTerm (exam : ExamId) (term : TermId) (deleted : Exam)
  | commitDelete (exam : ExamId) (deleted : Exam)
  | lockInstance (classCourse : ClassCourseId)
  | listExams (classCourse : ClassCourseId)
  | findSwept (classCourse : ClassCourseId) (exams : List ExamId)
  | sweepQuestions (classCourse : ClassCourseId) (exams : List ExamId)
      (ids : List ExamQuestionId) (gone : List SubjectId)
  | refundSubjects (classCourse : ClassCourseId) (exams : List ExamId)
      (subs : List (SubjectId × ℕ))
  | findExams (classCourse : ClassCourseId) (exams : List ExamId)
  | takeExams (classCourse : ClassCourseId) (exams : List ExamId) (ids : List ExamId)
      (gone : List TermId)
  | refundTerms (classCourse : ClassCourseId) (exams : List ExamId) (terms : List (TermId × ℕ))
  | dropInstance (classCourse : ClassCourseId) (exams : List ExamId)
  | commitSweep (exams : List ExamId)
  | lockSubject (subject : SubjectId)
  | dropSubject (subject : SubjectId)
  | commitSubject
  | homework (subject : SubjectId) (count : ℤ)

inductive Answer where
  | exam (exam : Exam)
  | question (row : ExamQuestion)
  | detached (done : Bool)
  | done

abbrev Reply := Next Point (Except AppError Answer)

def refuse (tx : ℕ) (s : Db) (e : AppError) : Db × Reply := (s.rollback tx, .answer (.error e))

def finish (tx : ℕ) (s : Db) (a : Answer) : Db × Reply := (s.commit tx, .answer (.ok a))

def startOver (tx : ℕ) (s : Db) (p : Point) : Db × Reply := (s.rollback tx, .goto p)

/-- A statement on one row, which waits, misses the row or goes on with it. -/
def found {K V : Type*} (r : Option (Option V × Rows K V)) (missed : Db × Reply)
    (then_ : V → Rows K V → Db × Reply) : Option (Db × Reply) :=
  r.map fun
    | (none, _) => missed
    | (some v, rows) => then_ v rows

def Subject.claim (row : Subject) : Subject :=
  { row with examQuestionCount := row.examQuestionCount + 1 }

/-- `GREATEST(exam_question_count - n, 0)` -/
def Subject.release (n : ℕ) (row : Subject) : Subject :=
  { row with examQuestionCount := max (row.examQuestionCount - n) 0 }

def Term.claim (row : Term) : Term := { row with examCount := row.examCount + 1 }

def Term.release (n : ℕ) (row : Term) : Term :=
  { row with examCount := max (row.examCount - n) 0 }

def releaseSubject (tx : ℕ) (s : Db) (subject : SubjectId) (n : ℕ) (q : Point) :
    Option (Db × Reply) :=
  (s.subject.alter tx subject fun row => some (row.release n)).map fun r =>
    ({ s with subject := r.2 }, .goto q)

def releaseTerm (tx : ℕ) (s : Db) (term : TermId) (n : ℕ) (q : Point) : Option (Db × Reply) :=
  (s.term.alter tx term fun row => some (row.release n)).map fun r =>
    ({ s with term := r.2 }, .goto q)

/-- `term::gone_error` -/
def goneError : AppError := .validation (.invalid "term_id" "term does not exist")

def claimTerm (tx : ℕ) (s : Db) (exam : Exam) : Option (Db × Reply) :=
  found (s.term.alter tx exam.term fun row => some row.claim) (refuse tx s goneError)
    fun _ term => ({ s with term := term }, .goto (.insertExam exam))

def insertExam (tx : ℕ) (s : Db) (exam : Exam) (id : ExamId) : Option (Db × Reply) :=
  if s.exam.lookup id ≠ none then none
  else if (s.classCourse.row exam.classCourse).free tx = false then none
  else
    match (s.classCourse.row exam.classCourse).committed with
    | none => some (refuse tx s .notFound)
    | some _ =>
        let row := { exam with id := id }
        some ({ s with exam := s.exam.write tx id (some row) }, .goto (.commitExam row))

/-! ## `exam_question::insert`, `update`, `delete` -/

def read (s : Db) (id : ExamQuestionId) (change : Option QuestionFields) : Reply :=
  match (s.examQuestion.row id).committed with
  | none => .answer (.error .notFound)
  | some question => .goto (.gate (change.elim (.delete question) (.update question)))

/-- `freeze_gate`: the lock on the exam, then its attempts. -/
def gate (tx : ℕ) (s : Db) (job : QuestionWrite) : Option (Db × Reply) :=
  found (s.exam.lock tx job.exam) (refuse tx s .notFound)
    fun _ exam => ({ s with exam := exam }, .goto (.sat job))

def QuestionWrite.start : QuestionWrite → Point
  | .insert question => .claimSubject question
  | .update question fields =>
      if fields.subject = question.subject then .write question fields
      else .release question fields
  | .delete question => .dropQuestion question

def claimSubject (tx : ℕ) (s : Db) (question : ExamQuestion) : Option (Db × Reply) :=
  found (s.subject.alter tx question.subject fun row => some row.claim) (refuse tx s deadSubject)
    fun _ subject => ({ s with subject := subject }, .goto (.insertRow question))

def insertRow (tx : ℕ) (s : Db) (question : ExamQuestion) (id : ExamQuestionId) :
    Option (Db × Reply) :=
  if s.examQuestion.lookup id ≠ none then none
  else
    let row := { question with id := id }
    some ({ s with examQuestion := s.examQuestion.write tx id (some row) },
      .goto (.commitQuestion question.exam row))

def claim (tx : ℕ) (s : Db) (question : ExamQuestion) (fields : QuestionFields) :
    Option (Db × Reply) :=
  found (s.subject.alter tx fields.subject fun row => some row.claim) (refuse tx s deadSubject)
    fun _ subject => ({ s with subject := subject }, .goto (.write question fields))

def write (tx : ℕ) (s : Db) (question : ExamQuestion) (fields : QuestionFields) :
    Option (Db × Reply) :=
  found (s.examQuestion.alterWhere tx question.id
      (fun row => decide (row.subject = question.subject)) fun row => some (row.withFields fields))
    (s, .goto (.probe question))
    fun row rows => ({ s with examQuestion := rows },
      .goto (.commitQuestion question.exam (row.withFields fields)))

def probe (tx : ℕ) (s : Db) (question : ExamQuestion) : Db × Reply :=
  if ((s.examQuestion.row question.id).seen tx).isNone then refuse tx s .notFound
  else refuse tx s (.conflict
    "the subject this question was read on changed since; re-read and retry")

def dropQuestion (tx : ℕ) (s : Db) (question : ExamQuestion) : Option (Db × Reply) :=
  found (s.examQuestion.alter tx question.id fun _ => none) (refuse tx s .notFound)
    fun deleted rows => ({ s with examQuestion := rows },
      .goto (.releaseSubject question.exam deleted))

def lockExam (tx : ℕ) (s : Db) (exam : ExamId) : Option (Db × Reply) :=
  found (s.exam.lock tx exam) (refuse tx s .notFound)
    fun locked rows => ({ s with exam := rows }, .goto (.countQuestions exam locked.term))

def ofExam (exam : ExamId) (_ : ExamQuestionId) (row : ExamQuestion) : Bool :=
  decide (row.exam = exam)

def countQuestions (tx : ℕ) (s : Db) (exam : ExamId) : List (SubjectId × ℕ) :=
  tally ((s.examQuestion.visible tx (ofExam exam)).map fun e => e.2.subject)

def refundExam (tx : ℕ) (s : Db) (exam : ExamId) (term : TermId) :
    List (SubjectId × ℕ) → Option (Db × Reply)
  | [] => some (s, .goto (.findQuestions exam term))
  | sub :: subs => releaseSubject tx s sub.1 sub.2 (.refundExam exam term subs)

def deleteQuestions (tx : ℕ) (s : Db) (exam : ExamId) (term : TermId) :
    List ExamQuestionId → Option (Db × Reply)
  | [] => some (s, .goto (.dropExam exam term))
  | id :: ids =>
      (s.examQuestion.alterWhere tx id (ofExam exam id) fun _ => none).map fun r =>
        ({ s with examQuestion := r.2 }, .goto (.deleteQuestions exam term ids))

def dropExam (tx : ℕ) (s : Db) (exam : ExamId) (term : TermId) : Option (Db × Reply) :=
  if (s.examQuestion.visible tx (ofExam exam)).isEmpty then
    found (s.exam.alter tx exam fun _ => none) (refuse tx s .notFound)
      fun deleted rows => ({ s with exam := rows }, .goto (.releaseTerm exam term deleted))
  else some (startOver tx s (.lockExam exam))

def ofInstance (classCourse : ClassCourseId) (_ : ExamId) (row : Exam) : Bool :=
  decide (row.classCourse = classCourse)

def ofExams (exams : List ExamId) (_ : ExamQuestionId) (row : ExamQuestion) : Bool :=
  decide (row.exam ∈ exams)

def lockInstance (tx : ℕ) (s : Db) (classCourse : ClassCourseId) : Option (Db × Reply) :=
  found (s.classCourse.lock tx classCourse) (s, .answer (.ok (.detached false)))
    fun _ rows => ({ s with classCourse := rows }, .goto (.listExams classCourse))

def listExams (tx : ℕ) (s : Db) (classCourse : ClassCourseId) : List ExamId :=
  (s.exam.visible tx (ofInstance classCourse)).map Prod.fst

def findSwept (tx : ℕ) (s : Db) (exams : List ExamId) : List ExamQuestionId :=
  (s.examQuestion.visible tx (ofExams exams)).map Prod.fst

def sweepQuestions (tx : ℕ) (s : Db) (classCourse : ClassCourseId) (exams : List ExamId)
    (gone : List SubjectId) : List ExamQuestionId → Option (Db × Reply)
  | [] => some (s, .goto (.refundSubjects classCourse exams (tally gone)))
  | id :: ids =>
      (s.examQuestion.alterWhere tx id (ofExams exams id) fun _ => none).map fun r =>
        ({ s with examQuestion := r.2 }, .goto (.sweepQuestions classCourse exams ids
          (gone ++ (r.1.map ExamQuestion.subject).toList)))

def refundSubjects (tx : ℕ) (s : Db) (classCourse : ClassCourseId) (exams : List ExamId) :
    List (SubjectId × ℕ) → Option (Db × Reply)
  | [] => some (s, .goto (.findExams classCourse exams))
  | sub :: subs => releaseSubject tx s sub.1 sub.2 (.refundSubjects classCourse exams subs)

def takeExams (tx : ℕ) (s : Db) (classCourse : ClassCourseId) (exams : List ExamId)
    (gone : List TermId) : List ExamId → Option (Db × Reply)
  | [] => some (s, .goto (.refundTerms classCourse exams (tally gone)))
  | id :: ids =>
      if (s.examQuestion.visible tx (ofExam id)).isEmpty then
        (s.exam.alterWhere tx id (ofInstance classCourse id) fun _ => none).map fun r =>
          ({ s with exam := r.2 }, .goto (.takeExams classCourse exams ids
            (gone ++ (r.1.map Exam.term).toList)))
      else some (startOver tx s (.lockInstance classCourse))

def refundTerms (tx : ℕ) (s : Db) (classCourse : ClassCourseId) (exams : List ExamId) :
    List (TermId × ℕ) → Option (Db × Reply)
  | [] => some (s, .goto (.dropInstance classCourse exams))
  | term :: terms => releaseTerm tx s term.1 term.2 (.refundTerms classCourse exams terms)

def dropInstance (tx : ℕ) (s : Db) (classCourse : ClassCourseId) (exams : List ExamId) :
    Option (Db × Reply) :=
  if (s.exam.visible tx (ofInstance classCourse)).isEmpty then
    (s.classCourse.alter tx classCourse fun _ => none).map fun r =>
      ({ s with classCourse := r.2 }, .goto (.commitSweep exams))
  else some (startOver tx s (.lockInstance classCourse))

/-! ## `subject::delete` -/

def lockSubject (tx : ℕ) (s : Db) (subject : SubjectId) : Option (Db × Reply) :=
  found (s.subject.lock tx subject) (refuse tx s .notFound) fun held rows =>
    if 0 < held.examQuestionCount then
      refuse tx s (.conflict
        "exam questions still reference this subject — re-tag or delete them first")
    else if 0 < held.homeworkCount then
      refuse tx s (.conflict
        "homework still references this subject — re-tag or delete it first")
    else ({ s with subject := rows }, .goto (.dropSubject subject))

/-- The writes of homework, the sweep's among them, leave any value in the other counter. -/
def homework (tx : ℕ) (s : Db) (subject : SubjectId) (count : ℤ) : Option (Db × Reply) :=
  (s.subject.alter tx subject fun row => some { row with homeworkCount := count }).map fun r =>
    ({ s with subject := r.2 }, .goto .commitSubject)

def next (tx : ℕ) (s : Db) (p : Point) (w : World) : Option (Db × Reply) :=
  match p with
  | .claimTerm exam => claimTerm tx s exam
  | .insertExam exam => insertExam tx s exam ⟨w.uuid⟩
  | .commitExam exam => some (finish tx s (.exam exam))
  | .read id change => some (s, read s id change)
  | .gate job => gate tx s job
  | .sat job => some (if w.sat then refuse tx s frozenError else (s, .goto job.start))
  | .claimSubject question => claimSubject tx s question
  | .insertRow question => insertRow tx s question ⟨w.uuid⟩
  | .release question fields => releaseSubject tx s question.subject 1 (.claim question fields)
  | .claim question fields => claim tx s question fields
  | .write question fields => write tx s question fields
  | .probe question => some (probe tx s question)
  | .dropQuestion question => dropQuestion tx s question
  | .releaseSubject exam deleted =>
      releaseSubject tx s deleted.subject 1 (.commitQuestion exam deleted)
  | .commitQuestion _ row => some (finish tx s (.question row))
  | .lockExam exam => lockExam tx s exam
  | .countQuestions exam term =>
      some (s, .goto (.refundExam exam term (countQuestions tx s exam)))
  | .refundExam exam term subs => refundExam tx s exam term subs
  | .findQuestions exam term =>
      some (s, .goto (.deleteQuestions exam term
        ((s.examQuestion.visible tx (ofExam exam)).map Prod.fst)))
  | .deleteQuestions exam term ids => deleteQuestions tx s exam term ids
  | .dropExam exam term => dropExam tx s exam term
  | .releaseTerm exam term deleted => releaseTerm tx s term 1 (.commitDelete exam deleted)
  | .commitDelete _ deleted => some (finish tx s (.exam deleted))
  | .lockInstance classCourse => lockInstance tx s classCourse
  | .listExams classCourse =>
      some (s, .goto (.findSwept classCourse (listExams tx s classCourse)))
  | .findSwept classCourse exams =>
      some (s, .goto (.sweepQuestions classCourse exams (findSwept tx s exams) []))
  | .sweepQuestions classCourse exams ids gone =>
      sweepQuestions tx s classCourse exams gone ids
  | .refundSubjects classCourse exams subs => refundSubjects tx s classCourse exams subs
  | .findExams classCourse exams =>
      some (s, .goto (.takeExams classCourse exams (listExams tx s classCourse) []))
  | .takeExams classCourse exams ids gone => takeExams tx s classCourse exams gone ids
  | .refundTerms classCourse exams terms => refundTerms tx s classCourse exams terms
  | .dropInstance classCourse exams => dropInstance tx s classCourse exams
  | .commitSweep _ => some (finish tx s (.detached true))
  | .lockSubject subject => lockSubject tx s subject
  | .dropSubject subject =>
      (s.subject.alter tx subject fun _ => none).map fun r =>
        ({ s with subject := r.2 }, .goto .commitSubject)
  | .commitSubject => some (finish tx s .done)
  | .homework subject count => homework tx s subject count

def entry : Request → Point
  | .createExam exam => .claimTerm exam
  | .deleteExam exam => .lockExam exam
  | .insertQuestion question => .gate (.insert question)
  | .updateQuestion id fields => .read id (some fields)
  | .deleteQuestion id => .read id none
  | .detach classCourse => .lockInstance classCourse
  | .deleteSubject subject => .lockSubject subject
  | .homework subject count => .homework subject count

def machine : Machine Db Point Request World (Except AppError Answer) where
  entry := entry
  next := next
  rollback := Db.rollback

end Hezarfen.ExamRefs
