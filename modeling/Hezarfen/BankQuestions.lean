import Hezarfen.Histories
import Hezarfen.QuestionSpecs
import Hezarfen.SchoolDomain
import Hezarfen.Snapshots

/-!
# Edits of a bank template

A PATCH of a template merges the fields it names over a fresh read, judges the merged
question as a unit and writes it only while the row still reads as the snapshot; a row that
moved is read and merged again.  The delete of a subject clears the templates that name it
in one transaction under the lock of the subject's row.
-/

namespace Hezarfen.BankQuestions

open Exams (BankQuestionId Choice ChoiceInput ExamId QuestionKind QuestionSpec SubjectId)
open Interleaving ReadCommitted
open School (CourseId)

inductive BankVisibility where
  | private_
  | school
  deriving DecidableEq

/-- The columns that the merge states again: those of the `SET` and of the guard. -/
structure Editable where
  /-- Nothing once that subject was deleted. -/
  subject : Option SubjectId
  text : String
  points : ℤ
  /-- `kind`, `choices` and `correct` -/
  spec : QuestionSpec
  visibility : BankVisibility
  deriving DecidableEq

structure BankQuestion extends Editable where
  owner : UserId
  sourceExam : Option ExamId
  createdAt : Timestamp
  deriving DecidableEq

structure Subject where
  course : CourseId
  name : String
  description : String
  examQuestionCount : ℤ
  homeworkCount : ℤ

/-- A field that is absent is kept; `some none` is an explicit null. -/
structure BankQuestionPatch where
  subject : Option SubjectId
  text : Option String
  points : Option ℤ
  kind : Option QuestionKind
  choices : Option (Option (List ChoiceInput))
  correct : Option (Option String)
  visibility : Option BankVisibility

def Editable.stored (question : Editable) : List Choice := question.spec.choices.getD []

def BankQuestionPatch.merge (patch : BankQuestionPatch) (mint : ℕ → String)
    (question : Editable) : Except ValidationError Editable := do
  let spec ← QuestionSpec.tryNew question.stored mint (patch.kind.getD question.spec.kind)
    (patch.choices.getD (question.spec.choices.map (List.map Choice.input)))
    (patch.correct.getD question.spec.correct)
  return {
    subject := patch.subject.or question.subject
    text := patch.text.getD question.text
    points := patch.points.getD question.points
    spec := spec
    visibility := patch.visibility.getD question.visibility }

structure Db where
  bankQuestion : Rows BankQuestionId BankQuestion
  subject : Rows SubjectId Subject

def Db.commit (tx : ℕ) (s : Db) : Db := ⟨s.bankQuestion.commit tx, s.subject.commit tx⟩

def Db.rollback (tx : ℕ) (s : Db) : Db := ⟨s.bankQuestion.rollback tx, s.subject.rollback tx⟩

def casUpdateRetries : ℕ := 3

inductive Request where
  | update (id : BankQuestionId) (patch : BankQuestionPatch)
  | deleteSubject (subject : SubjectId)

inductive Point where
  | read (id : BankQuestionId) (patch : BankQuestionPatch) (left : ℕ)
  | updateIfUnchanged (id : BankQuestionId) (patch : BankQuestionPatch) (left : ℕ)
      (mint : ℕ → String) (expected merged : Editable)
  /-- The foreign key of the written row, at the end of the statement. -/
  | references (id : BankQuestionId) (patch : BankQuestionPatch) (mint : ℕ → String)
      (expected merged : Editable)
  | lockSubject (subject : SubjectId)
  | findTemplates (subject : SubjectId)
  /-- The templates that the statement found and has not reached, and those it cleared. -/
  | clearTemplates (subject : SubjectId) (found cleared : List BankQuestionId)
  | deleteSubject (subject : SubjectId) (cleared : List BankQuestionId)
  | commit (subject : SubjectId) (cleared : List BankQuestionId)

structure World where
  mint : ℕ → String
  distinct : Function.Injective mint

inductive Answer where
  | updated (question : Editable)
  | deleted (subject : SubjectId)

abbrev Reply := Next Point (Except AppError Answer)

def refuse (tx : ℕ) (s : Db) (e : AppError) : Db × Reply := (s.rollback tx, .answer (.error e))

def reload (s : Db) (id : BankQuestionId) (patch : BankQuestionPatch) (left : ℕ) : Db × Reply :=
  if left - 1 = 0 then
    (s, .answer
      (.error (.conflict "the template kept changing underneath this update — try again")))
  else (s, .goto (.read id patch (left - 1)))

/-- One round up to the guarded write. -/
def readTx (tx : ℕ) (s : Db) (id : BankQuestionId) (patch : BankQuestionPatch) (left : ℕ)
    (w : World) : Db × Reply :=
  match (s.bankQuestion.row id).seen tx with
  | none => (s, .answer (.error .notFound))
  | some question =>
      match patch.merge w.mint question.toEditable with
      | .error e => (s, .answer (.error (.validation e)))
      | .ok merged =>
          (s, .goto (.updateIfUnchanged id patch left w.mint question.toEditable merged))

def referencesTx (tx : ℕ) (s : Db) (expected merged : Editable) : Option (Db × Reply) :=
  match merged.subject with
  | none => some (s.commit tx, .answer (.ok (.updated merged)))
  | some subject =>
      if expected.subject = some subject then
        some (s.commit tx, .answer (.ok (.updated merged)))
      else if (s.subject.row subject).free tx then
        if (s.subject.row subject).committed.isSome then
          some (s.commit tx, .answer (.ok (.updated merged)))
        else some (refuse tx s .db)
      else none

def Subject.released (subject : Subject) : Except AppError Unit := do
  Gate.ensure (decide (subject.examQuestionCount ≤ 0))
    (.conflict "exam questions still reference this subject — re-tag or delete them first")
  Gate.ensure (decide (subject.homeworkCount ≤ 0))
    (.conflict "homework still references this subject — re-tag or delete it first")

def next (tx : ℕ) (s : Db) (p : Point) (w : World) : Option (Db × Reply) :=
  match p with
  | .read id patch left => some (readTx tx s id patch left w)
  | .updateIfUnchanged id patch left mint expected merged =>
      Rows.onRow
        (Rows.alterWhere tx s.bankQuestion id (fun row => decide (row.toEditable = expected))
          fun row => some { row with toEditable := merged })
        (reload s id patch left) fun _ rows =>
          ({ s with bankQuestion := rows }, .goto (.references id patch mint expected merged))
  | .references _ _ _ expected merged => referencesTx tx s expected merged
  | .lockSubject subject =>
      Rows.onRow (Rows.lock tx s.subject subject) (refuse tx s .notFound) fun row rows =>
        match row.released with
        | .error e => refuse tx s e
        | .ok () => ({ s with subject := rows }, .goto (.findTemplates subject))
  | .findTemplates subject =>
      some (s, .goto (.clearTemplates subject
        ((s.bankQuestion.visible tx fun _ row => decide (row.subject = some subject)).map Prod.fst)
        []))
  | .clearTemplates subject [] cleared => some (s, .goto (.deleteSubject subject cleared))
  | .clearTemplates subject (id :: found) cleared =>
      Rows.onRow
        (Rows.alterWhere tx s.bankQuestion id (fun row => decide (row.subject = some subject))
          fun row => some { row with subject := none })
        (s, .goto (.clearTemplates subject found cleared)) fun _ rows =>
          ({ s with bankQuestion := rows },
            .goto (.clearTemplates subject found (cleared ++ [id])))
  -- a template that still names the subject fails the statement
  | .deleteSubject subject cleared =>
      Rows.onRow (Rows.alter tx s.subject subject fun _ => none) (refuse tx s .notFound)
        fun _ rows =>
          if (s.bankQuestion.visible tx
              fun _ row => decide (row.subject = some subject)).isEmpty then
            ({ s with subject := rows }, .goto (.commit subject cleared))
          else refuse tx s .db
  | .commit subject _ => some (s.commit tx, .answer (.ok (.deleted subject)))

def entry : Request → Point
  | .update id patch => .read id patch casUpdateRetries
  | .deleteSubject subject => .lockSubject subject

def machine : Machine Db Point Request World (Except AppError Answer) where
  entry := entry
  next := next
  rollback := Db.rollback

inductive Edit where
  | patch (patch : BankQuestionPatch) (mint : ℕ → String)
  | clear

def Point.edits : Point → List (BankQuestionId × Edit)
  | .references id patch mint _ _ => [(id, .patch patch mint)]
  | .clearTemplates _ _ cleared => cleared.map fun id => (id, .clear)
  | .deleteSubject _ cleared => cleared.map fun id => (id, .clear)
  | .commit _ cleared => cleared.map fun id => (id, .clear)
  | _ => []

def Point.lands (p : Point) : Reply → List (BankQuestionId × Edit)
  | .answer (.ok _) => p.edits
  | _ => []

def landed (c : Config Db Point) : Move Request World → List (BankQuestionId × Edit)
  | .advance tx w =>
      (c.calls.lookup tx).elim [] fun p =>
        (next tx c.shared p w).elim [] fun out => p.lands out.2
  | _ => []

structure BankQuestionPatch.Replaces (patch : BankQuestionPatch) (before after : Editable) :
    Prop where
  subject : after.subject = patch.subject.or before.subject
  text : after.text = patch.text.getD before.text
  points : after.points = patch.points.getD before.points
  visibility : after.visibility = patch.visibility.getD before.visibility
  kind : after.spec.kind = patch.kind.getD before.spec.kind
  keptChoices : patch.choices = none → after.spec.choices = before.spec.choices
  clearedChoices : patch.choices = some none → after.spec.choices = none
  /-- Submitted options take the place of the stored ones; a stored key keeps its identity. -/
  setChoices : ∀ inputs, patch.choices = some (some inputs) → ∃ options,
    after.spec.choices = some options ∧ List.Forall₂ (Exams.Became before.stored) inputs options
  keptCorrect : patch.correct = none → after.spec.correct = before.spec.correct
  clearedCorrect : patch.correct = some none → after.spec.correct = none
  /-- The key names one of the options, submitted or kept. -/
  setCorrect : ∀ key, patch.correct = some (some key) → ∃ inputs options,
    patch.choices.getD (before.spec.choices.map (List.map Choice.input)) = some inputs ∧
    after.spec.choices = some options ∧ ∃ pair ∈ inputs.zip options,
      pair.1.id = some key ∧ after.spec.correct = some pair.2.id

def Edit.Makes : Edit → BankQuestion → BankQuestion → Prop
  | .patch changes mint, before, after =>
      ∃ merged, changes.merge mint before.toEditable = .ok merged ∧
        after = { before with toEditable := merged } ∧
        changes.Replaces before.toEditable merged ∧ merged.spec.Shaped
  | .clear, before, after => after = { before with subject := none }

end Hezarfen.BankQuestions
