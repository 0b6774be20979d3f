import Hezarfen.ExamDomain
import Hezarfen.Interleaving
import Hezarfen.Snapshots

/-!
# Pictures of questions

A picture of a bank template or of an exam question is a row that names a blob on disk, one
row for each slot of a question.  A write that takes a name out of the rows hands it to its
caller, who takes the file off disk.  The picture tables of the bank and of the exams are one
table here, and so are the tables of their questions; the keys say which is meant.
-/

namespace Hezarfen.Pictures

open Exams (BankQuestionId ExamId ExamQuestionId)
open Interleaving ReadCommitted

inductive QuestionId where
  | bank (id : BankQuestionId)
  | exam (id : ExamQuestionId)
  deriving DecidableEq

inductive Question where
  | bank (id : BankQuestionId)
  | exam (exam : ExamId) (id : ExamQuestionId)

def Question.id : Question → QuestionId
  | .bank id => .bank id
  | .exam _ id => .exam id

def Question.examId : Question → Option ExamId
  | .bank _ => none
  | .exam ofExam _ => some ofExam

abbrev Slot := Option String

/-- `UNIQUE NULLS NOT DISTINCT (question, slot)` -/
abbrev Key := QuestionId × Slot

structure Image where
  file : String
  contentType : String
  size : ℤ

abbrev Images := Rows Key Image

structure Db where
  exam : Rows ExamId Unit
  /-- With the exam of a question, which a template has not. -/
  question : Rows QuestionId (Option ExamId)
  image : Images

def Db.commit (tx : ℕ) (s : Db) : Db :=
  ⟨s.exam.commit tx, s.question.commit tx, s.image.commit tx⟩

def Db.rollback (tx : ℕ) (s : Db) : Db :=
  ⟨s.exam.rollback tx, s.question.rollback tx, s.image.rollback tx⟩

/-- An upload, with the blob name drawn for it. -/
structure Upload where
  question : Question
  slot : Slot
  image : Image

def Upload.key (job : Upload) : Key := (job.question.id, job.slot)

inductive Drop where
  | slot (slot : Slot)
  /-- `delete_choices_not_in` -/
  | sweep (keep : List String)
  /-- With the delete of the question; the caller listed the names of its pictures before. -/
  | question (listed : List String)

def Drop.takes : Drop → Slot → Bool
  | .slot named, one => decide (one = named)
  | .sweep keep, one => one.any fun choice => !keep.contains choice
  | .question _, _ => true

inductive Request where
  | upload (job : Upload)
  | deleteSlot (question : Question) (slot : Slot)
  | sweep (question : Question) (keep : List String)
  | deleteQuestion (question : Question)

/-- What follows the freeze gate. -/
inductive Gated where
  | upload (job : Upload)
  | drop (question : Question) (drop : Drop)

/-- A call, named after its next statement; `left` counts the rounds it may still repeat. -/
inductive Point where
  | freezeGate (exam : ExamId) (op : Gated) (left : ℕ)
  | replacedFile (job : Upload) (left : ℕ)
  | upsert (job : Upload) (left : ℕ) (was : Option String)
  | commitUpload (job : Upload) (left : ℕ) (was : Option String)
  | readSlot (question : Question) (slot : Slot)
  | listForQuestion (question : Question)
  /-- The rows the statement finds when it begins. -/
  | find (question : Question) (drop : Drop) (left : ℕ)
  /-- The rows it has not reached, and the names of those it deleted. -/
  | drop (question : Question) (drop : Drop) (left : ℕ) (keys : List Key) (swept : List String)
  | deleteRow (question : Question) (listed : List String) (left : ℕ) (swept : List String)
  | commitDelete (question : Question) (listed : List String) (left : ℕ) (swept : List String)

/-- A lost round may be sent again; another failure of the store ends the call. -/
inductive Fault where
  | retryable
  | fatal

structure World where
  fault : Option Fault
  /-- Somebody has started an attempt at the exam. -/
  sat : Bool

inductive Answer where
  /-- The name that the row has now, and the name handed back. -/
  | stored (file : String) (was : Option String)
  | retired (files : List String)
  | failed (e : AppError)

abbrev Reply := Next Point Answer

/-- The rounds of `tx_with_retry` after the first. -/
def retries : ℕ := capWriteTries - 1

def Upload.begin (job : Upload) (left : ℕ) : Point :=
  match job.question with
  | .bank _ => .replacedFile job left
  | .exam exam _ => .freezeGate exam (.upload job) left

def Drop.begin (question : Question) (left : ℕ) : Drop → Point
  | .sweep keep => .find question (.sweep keep) left
  | drop =>
      match question with
      | .bank _ => .find question drop left
      | .exam exam _ => .freezeGate exam (.drop question drop) left

def Drop.rounds (question : Question) : Drop → ℕ
  | .sweep _ => 0
  | .slot _ =>
      match question with
      | .bank _ => 0
      | .exam _ _ => retries
  | .question _ => retries

def Gated.after (left : ℕ) : Gated → Point
  | .upload job => .replacedFile job left
  | .drop question which => .find question which left

def Point.again : Point → Option Point
  | .freezeGate exam op (left + 1) => some (.freezeGate exam op left)
  | .replacedFile job (left + 1) => some (job.begin left)
  | .upsert job (left + 1) _ => some (job.begin left)
  | .commitUpload job (left + 1) _ => some (job.begin left)
  | .find question which (left + 1) => some (which.begin question left)
  | .drop question which (left + 1) _ _ => some (which.begin question left)
  | .deleteRow question listed (left + 1) _ => some ((Drop.question listed).begin question left)
  | .commitDelete question listed (left + 1) _ =>
      some ((Drop.question listed).begin question left)
  | _ => none

def fail (tx : ℕ) (s : Db) (e : AppError) : Db × Reply :=
  (s.rollback tx, .answer (.failed e))

def lost (tx : ℕ) (s : Db) (p : Point) : Db × Reply :=
  match p.again with
  | some q => (s.rollback tx, .goto q)
  | none => fail tx s .db

def settle (tx : ℕ) (s : Db) (answer : Answer) : Db × Reply := (s.commit tx, .answer answer)

def frozenError : AppError := .conflict "cannot change questions after attempts have started"

def replacedFile (tx : ℕ) (s : Db) (job : Upload) (left : ℕ) : Option (Db × Reply) :=
  match job.question with
  | .bank _ =>
      Rows.onRow (Rows.lock tx s.image job.key) (s, .goto (.upsert job left none))
        fun image rows => ({ s with image := rows }, .goto (.upsert job left (some image.file)))
  | .exam _ _ =>
      some (s, .goto (.upsert job left (((s.image.row job.key).seen tx).map Image.file)))

/-- `INSERT … ON CONFLICT DO UPDATE`; an insert has a foreign key to check. -/
def upsert (tx : ℕ) (s : Db) (job : Upload) (left : ℕ) (was : Option String) :
    Option (Db × Reply) :=
  let stored : Db :=
    { s with image := s.image.write tx job.key (some job.image) }
  if (s.image.row job.key).free tx then
    if ((s.image.row job.key).seen tx).isSome then
      some (stored, .goto (.commitUpload job left was))
    else
      (s.question.keyShare tx job.question.id).map fun parent =>
        if parent = some job.question.examId then (stored, .goto (.commitUpload job left was))
        else
          match job.question with
          | .bank _ => fail tx s .notFound
          | .exam _ _ => fail tx s .db
  else none

/-- One row of a `DELETE`, if it is still there. -/
def dropRow (tx : ℕ) (s : Db) (question : Question) (drop : Drop) (left : ℕ) (key : Key)
    (keys : List Key) (swept : List String) : Option (Db × Reply) :=
  Rows.onRow (Rows.alter tx s.image key fun _ => none)
    (s, .goto (.drop question drop left keys swept)) fun image rows =>
      ({ s with image := rows }, .goto (.drop question drop left keys (swept ++ [image.file])))

def dropped (tx : ℕ) (s : Db) (question : Question) (left : ℕ) (swept : List String) :
    Drop → Db × Reply
  | .slot _ => if swept = [] then fail tx s .notFound else settle tx s (.retired swept)
  | .sweep _ => settle tx s (.retired swept)
  | .question listed => (s, .goto (.deleteRow question listed left swept))

/-- A picture of the question is another transaction's for now. -/
def Db.pending (tx : ℕ) (s : Db) (question : QuestionId) : Bool :=
  Table.any s.image fun key row => decide (key.1 = question) && !row.free tx

def Db.pictured (tx : ℕ) (s : Db) (question : QuestionId) : Bool :=
  Table.any s.image fun key row => decide (key.1 = question) && (row.seen tx).isSome

/-- The row of the question.  A picture that came in after the sweep stands against it, which
the template's delete answers with another round. -/
def deleteRow (tx : ℕ) (s : Db) (question : Question) (listed : List String) (left : ℕ)
    (swept : List String) : Option (Db × Reply) :=
  if s.pending tx question.id then none
  else
    Rows.onRow (Rows.alter tx s.question question.id fun _ => none) (fail tx s .notFound)
      fun _ rows =>
        if s.pictured tx question.id then
          match question with
          | .bank _ => lost tx s (.deleteRow question listed left swept)
          | .exam _ _ => fail tx s .db
        else ({ s with question := rows }, .goto (.commitDelete question listed left swept))

/-- The names whose files the caller takes off disk after the delete of a question: those of
the deleted rows for a template, those listed before the delete for an exam question. -/
def retiredNames (listed swept : List String) : Question → List String
  | .bank _ => swept
  | .exam _ _ => listed

def statement (tx : ℕ) (s : Db) (w : World) : Point → Option (Db × Reply)
  | .freezeGate exam op left =>
      Rows.onRow (Rows.lock tx s.exam exam) (fail tx s .notFound) fun _ rows =>
        if w.sat then fail tx s frozenError else ({ s with exam := rows }, .goto (op.after left))
  | .replacedFile job left => replacedFile tx s job left
  | .upsert job left was => upsert tx s job left was
  | .commitUpload job _ was => some (settle tx s (.stored job.image.file was))
  | .readSlot question slot =>
      if ((s.image.row (question.id, slot)).seen tx).isSome then
        some (s, .goto ((Drop.slot slot).begin question ((Drop.slot slot).rounds question)))
      else some (fail tx s .notFound)
  | .listForQuestion question =>
      some (s, .goto ((Drop.question ((s.image.visible tx fun key _ =>
        decide (key.1 = question.id)).map fun row => row.2.file)).begin question retries))
  | .find question drop left =>
      some (s, .goto (.drop question drop left ((s.image.visible tx fun key _ =>
        decide (key.1 = question.id) && drop.takes key.2).map Prod.fst) []))
  | .drop question drop left [] swept => some (dropped tx s question left swept drop)
  | .drop question drop left (key :: keys) swept =>
      dropRow tx s question drop left key keys swept
  | .deleteRow question listed left swept => deleteRow tx s question listed left swept
  | .commitDelete question listed _ swept =>
      some (settle tx s (.retired (retiredNames listed swept question)))

def next (tx : ℕ) (s : Db) (p : Point) (w : World) : Option (Db × Reply) :=
  match w.fault with
  | some .retryable => some (lost tx s p)
  | some .fatal => some (fail tx s .db)
  | none => statement tx s w p

def entry : Request → Point
  | .upload job => job.begin retries
  | .deleteSlot question slot => .readSlot question slot
  | .sweep question keep => .find question (.sweep keep) 0
  | .deleteQuestion (.bank id) => .find (.bank id) (.question []) retries
  | .deleteQuestion (.exam exam id) => .listForQuestion (.exam exam id)

def machine : Machine Db Point Request World Answer where
  entry := entry
  next := next
  rollback := Db.rollback

inductive Event where
  | stored (file : String)
  | retired (file : String)

def Answer.events : Answer → List Event
  | .stored file was => .stored file :: was.toList.map .retired
  | .retired files => files.map .retired
  | .failed _ => []

def ledger (c : Config Db Point) : Move Request World → List (ℕ × Event)
  | .advance tx w =>
      match (c.calls.lookup tx).bind fun p => next tx c.shared p w with
      | some (_, .answer answer) => answer.events.map fun event => (tx, event)
      | _ => []
  | _ => []

def storedNames (log : List (ℕ × Event)) : List String :=
  log.filterMap fun e =>
    match e.2 with
    | .stored file => some file
    | .retired _ => none

def handedBack (log : List (ℕ × Event)) : List String :=
  log.filterMap fun e =>
    match e.2 with
    | .stored _ => none
    | .retired file => some file

def Db.names (s : Db) : List String :=
  s.image.entries.filterMap fun e => e.2.committed.map Image.file

/-- The name drawn for an upload. -/
def drawn : Move Request World → Option String
  | .start (.upload job) => some job.image.file
  | _ => none

/-- Every name ever stored that no row names was handed back to one caller, once, and no name
of a row was. -/
structure Kept (s₀ : Db) (log : List (ℕ × Event)) (s : Db) : Prop where
  once : ∀ name ∈ s₀.names ++ storedNames log, name ∉ s.names → (handedBack log).count name = 1
  live : ∀ name ∈ s.names, name ∉ handedBack log

/-- What was read of the old names still stands when the transaction commits: the row an upload
replaced is the one it read, and the names listed for an exam question are those of the rows its
delete took. -/
def Point.heeds (s : Db) (p : Point) (w : World) : Bool :=
  w.fault.isSome ||
    match p with
    | .commitUpload job _ was => decide ((s.image.row job.key).committed.map Image.file = was)
    | .commitDelete (.exam _ _) listed _ swept => listed.isPerm swept
    | _ => true

abbrev Heeds : Config Db Point → Move Request World → Prop :=
  Config.Allows Point.heeds

end Hezarfen.Pictures
