import Hezarfen.ExamRefs

/-!
# The counters of subjects and terms follow the rows

Each transaction owes its two counters a known amount at each of its points, and nothing
when it commits.  The one figure that a transaction takes from a reading is the count of
an exam's questions, which the delete of the exam gives back before it removes them.  It
stays right because a transaction that changed a question commits only while it holds the
exam of that question, or after the exam is gone.
-/

namespace Hezarfen.ExamRefs

open Interleaving ReadCommitted
open Exams (Exam ExamId TermId SubjectId ExamQuestion ExamQuestionId ClassCourseId)

def tagged : RefCount SubjectId Subject ExamQuestion where
  counter := Subject.examQuestionCount
  weight subject row := if row.subject = subject then 1 else 0
  weight_nonneg := by
    intro subject row
    split <;> decide

def inTerm : RefCount TermId Term Exam where
  counter := Term.examCount
  weight term row := if row.term = term then 1 else 0
  weight_nonneg := by
    intro term row
    split <;> decide

theorem tagged_releases (n : ℕ) : tagged.Releases n (Subject.release n) := fun _ => rfl

theorem inTerm_releases (n : ℕ) : inTerm.Releases n (Term.release n) := fun _ => rfl

structure Inv (s : Db) : Prop where
  tagged : tagged.Counted s.subject s.examQuestion
  filed : inTerm.Counted s.term s.exam
  subjects : s.subject.Whole
  exams : s.exam.Agreed Exam.classCourse
  questions : s.examQuestion.Agreed ExamQuestion.exam
  named : s.examQuestion.Every fun id row => row.id = id

def Db.Idle (tx : ℕ) (s : Db) : Prop :=
  s.subject.Idle tx ∧ s.term.Idle tx ∧ s.classCourse.Idle tx ∧ s.exam.Idle tx ∧
    s.examQuestion.Idle tx

def Db.owedSubject (s : Db) (tx : ℕ) (subject : SubjectId) : ℤ :=
  tagged.owed tx s.subject s.examQuestion subject

def Db.owedTerm (s : Db) (tx : ℕ) (term : TermId) : ℤ := inTerm.owed tx s.term s.exam term

def within (exam : ExamId) (subject : SubjectId) (id : ExamQuestionId) (row : ExamQuestion) : ℤ :=
  if ofExam exam id row && decide (row.subject = subject) then 1 else 0

def Db.remaining (s : Db) (tx : ℕ) (exam : ExamId) (subject : SubjectId) : ℤ :=
  (s.examQuestion.commit tx).total (within exam subject)

def Standing (tx : ℕ) (s : Db) (exam : ExamId) : Prop :=
  (s.exam.row exam).Held tx ∧ (s.exam.row exam).committed ≠ none

/-- The exam as its delete locked it. -/
structure Locked (tx : ℕ) (s : Db) (exam : ExamId) (term : TermId) : Prop where
  standing : Standing tx s exam
  term : ∀ row, (s.exam.row exam).seen tx = some row → row.term = term

def Only (tx : ℕ) (s : Db) (exams : List ExamId) : Prop :=
  ∀ id, (s.examQuestion.row id).Held tx →
    ∀ row, (s.examQuestion.row id).Version row → row.exam ∈ exams

def Covered (tx : ℕ) (s : Db) (exams : List ExamId) : Prop :=
  ∀ exam ∈ exams, (s.exam.row exam).Held tx ∨ (s.exam.row exam).committed = none

/-- The exams that a sweep listed. -/
def Listed (s : Db) (classCourse : ClassCourseId) (exams : List ExamId) : Prop :=
  ∀ exam ∈ exams, s.exam.Known Exam.classCourse classCourse exam

def KnownQuestion (s : Db) (question : ExamQuestion) : Prop :=
  s.examQuestion.Known ExamQuestion.exam question.exam question.id

def QuestionWrite.Known (s : Db) : QuestionWrite → Prop
  | .insert _ => True
  | .update question _ | .delete question => KnownQuestion s question

def Settles (tx : ℕ) (s : Db) (subject : SubjectId) : Prop :=
  (s.subject.row subject).Held tx ∨ (s.subject.row subject).committed = none

def Point.exams : Point → List ExamId
  | .sat job => [job.exam]
  | .claimSubject question | .insertRow question | .release question _ | .claim question _
  | .write question _ | .probe question | .dropQuestion question => [question.exam]
  | .releaseSubject exam _ | .commitQuestion exam _ => [exam]
  | .countQuestions exam _ | .refundExam exam _ _ | .findQuestions exam _
  | .deleteQuestions exam _ _ | .dropExam exam _ | .releaseTerm exam _ _
  | .commitDelete exam _ => [exam]
  | .findSwept _ exams | .sweepQuestions _ exams _ _ | .refundSubjects _ exams _
  | .findExams _ exams | .takeExams _ exams _ _ | .refundTerms _ exams _
  | .dropInstance _ exams | .commitSweep exams => exams
  | _ => []

def Point.Knows (tx : ℕ) (s : Db) : Point → Prop
  | .claimTerm _ | .read _ _ | .lockExam _ | .lockInstance _ | .lockSubject _ | .homework _ _ =>
      s.Idle tx
  | .insertExam _ | .commitExam _ | .probe _ | .commitSubject => True
  | .listExams _ => s.exam.Idle tx
  | .dropSubject subject => (s.subject.row subject).Held tx ∧
      ∀ row, (s.subject.row subject).seen tx = some row → row.examQuestionCount = 0
  | .gate job => s.Idle tx ∧ job.Known s
  | .sat job => (s.exam.row job.exam).Held tx ∧ job.Known s ∧ s.subject.Idle tx ∧
      s.examQuestion.Idle tx
  | .claimSubject question | .insertRow question => (s.exam.row question.exam).Held tx
  | .release question fields => (s.exam.row question.exam).Held tx ∧ KnownQuestion s question ∧
      s.subject.Idle tx ∧ s.examQuestion.Idle tx ∧ fields.subject ≠ question.subject
  | .claim question fields => (s.exam.row question.exam).Held tx ∧ KnownQuestion s question ∧
      Settles tx s question.subject ∧ s.examQuestion.Idle tx ∧
        fields.subject ≠ question.subject
  | .write question fields => (s.exam.row question.exam).Held tx ∧ KnownQuestion s question ∧
      (fields.subject = question.subject ∨ Settles tx s question.subject) ∧
        s.examQuestion.Idle tx
  | .dropQuestion question => (s.exam.row question.exam).Held tx ∧ KnownQuestion s question
  | .releaseSubject exam _ | .commitQuestion exam _ | .releaseTerm exam _ _
  | .commitDelete exam _ => (s.exam.row exam).Held tx
  | .countQuestions exam term | .refundExam exam term _ | .findQuestions exam term
  | .deleteQuestions exam term _ | .dropExam exam term => Locked tx s exam term
  | .findSwept classCourse exams | .sweepQuestions classCourse exams _ _
  | .refundSubjects classCourse exams _ | .findExams classCourse exams =>
      Listed s classCourse exams
  | .takeExams classCourse exams ids _ => Listed s classCourse exams ∧
      ∀ exam ∈ exams, exam ∈ ids ∨ (s.exam.row exam).Held tx ∨
        (s.exam.row exam).committed = none
  | .refundTerms classCourse exams _ | .dropInstance classCourse exams =>
      Listed s classCourse exams ∧ Covered tx s exams
  | .commitSweep exams => (∃ classCourse, Listed s classCourse exams) ∧ Covered tx s exams

def Db.given (s : Db) (released subject : SubjectId) : ℤ :=
  if released = subject ∧ 0 < s.subject.total (tagged.reads subject) then 1 else 0

/-- What the rows are ahead of the counter of a subject.  A probe only rolls back. -/
def Point.dueSubject (tx : ℕ) (s : Db) (subject : SubjectId) : Point → ℤ
  | .insertRow question => - if question.subject = subject then 1 else 0
  | .claim question _ => s.given question.subject subject
  | .write question fields =>
      if fields.subject = question.subject then 0
      else s.given question.subject subject - if fields.subject = subject then 1 else 0
  | .probe _ => s.owedSubject tx subject
  | .releaseSubject _ deleted => - if deleted.subject = subject then 1 else 0
  | .refundExam exam _ subs => s.remaining tx exam subject - pending subs subject
  | .findQuestions exam _ | .deleteQuestions exam _ _ | .dropExam exam _ =>
      s.remaining tx exam subject
  | .sweepQuestions _ _ _ gone => - (gone.count subject : ℤ)
  | .refundSubjects _ _ subs => - pending subs subject
  | _ => 0

def Point.dueTerm (term : TermId) : Point → ℤ
  | .insertExam exam => - if exam.term = term then 1 else 0
  | .releaseTerm _ released _ => - if released = term then 1 else 0
  | .takeExams _ _ _ gone => - (gone.count term : ℤ)
  | .refundTerms _ _ terms => - pending terms term
  | _ => 0

structure Point.Holds (tx : ℕ) (p : Point) (s : Db) : Prop where
  knows : p.Knows tx s
  subject : ∀ k, s.owedSubject tx k = p.dueSubject tx s k
  term : ∀ k, s.owedTerm tx k = p.dueTerm k
  only : Only tx s p.exams

/-- What a step of `tx` leaves to the others.  A question of an exam that another transaction
holds is not touched by a commit. -/
structure Db.Apart (tx : ℕ) (s s' : Db) : Prop where
  subject : s.subject.Apart tx s'.subject
  term : s.term.Apart tx s'.term
  classCourse : s.classCourse.Apart tx s'.classCourse
  exam : s.exam.Apart tx s'.exam
  examQuestion : s.examQuestion.Apart tx s'.examQuestion
  subjectGone : ∀ k, (s.subject.row k).committed = none → (s'.subject.row k).committed = none
  exams : s.exam.Keeps Exam.classCourse s'.exam
  questions : s.examQuestion.Keeps ExamQuestion.exam s'.examQuestion
  steady : ∀ tx', tx' ≠ tx → ∀ exam, Standing tx' s exam → ∀ subject,
    s'.examQuestion.total (within exam subject) = s.examQuestion.total (within exam subject)

structure Moves (tx : ℕ) (s s' : Db) : Prop where
  inv : Inv s'
  apart : s.Apart tx s'

/-! ## What the steps do to the tables -/

variable {s : Db}

theorem Moves.refl (hinv : Inv s) (tx : ℕ) : Moves tx s s where
  inv := hinv
  apart :=
    { subject := .refl tx _
      term := .refl tx _
      classCourse := .refl tx _
      exam := .refl tx _
      examQuestion := .refl tx _
      subjectGone := fun _ h => h
      exams := .refl _ _
      questions := .refl _ _
      steady := fun _ _ _ _ _ => rfl }

variable {tx : ℕ}

theorem Inv.subject (hinv : Inv s) {k : SubjectId} {q : Subject → Bool}
    {f : Subject → Option Subject} {old : Option Subject} {rows : Rows SubjectId Subject}
    (halter : s.subject.alterWhere tx k q f = some (old, rows)) :
    Moves tx s { s with subject := rows } where
  inv :=
    { hinv with
      tagged := fun subject => by
        rw [Rows.total_alter halter]
        exact hinv.tagged subject
      subjects := hinv.subjects.alter halter }
  apart :=
    { (Moves.refl hinv tx).apart with
      subject := .alter halter
      subjectGone := fun subject hnone => by
        rw [Rows.committed_alter halter]
        exact hnone }

theorem Inv.term (hinv : Inv s) {k : TermId} {q : Term → Bool}
    {f : Term → Option Term} {old : Option Term} {rows : Rows TermId Term}
    (halter : s.term.alterWhere tx k q f = some (old, rows)) :
    Moves tx s { s with term := rows } where
  inv :=
    { hinv with
      filed := fun term => by
        rw [Rows.total_alter halter]
        exact hinv.filed term }
  apart := { (Moves.refl hinv tx).apart with term := .alter halter }

theorem Inv.classCourse (hinv : Inv s) {k : ClassCourseId} {q : Unit → Bool}
    {f : Unit → Option Unit} {old : Option Unit} {rows : Rows ClassCourseId Unit}
    (halter : s.classCourse.alterWhere tx k q f = some (old, rows)) :
    Moves tx s { s with classCourse := rows } where
  inv := { hinv with }
  apart := { (Moves.refl hinv tx).apart with classCourse := .alter halter }

theorem Inv.exam (hinv : Inv s) {k : ExamId} {q : Exam → Bool}
    {f : Exam → Option Exam} {old : Option Exam} {rows : Rows ExamId Exam}
    (hf : ∀ v w, f v = some w → w.classCourse = v.classCourse)
    (halter : s.exam.alterWhere tx k q f = some (old, rows)) :
    Moves tx s { s with exam := rows } where
  inv :=
    { hinv with
      filed := fun term => by
        rw [Rows.total_alter halter]
        exact hinv.filed term
      exams := hinv.exams.alter hf halter }
  apart :=
    { (Moves.refl hinv tx).apart with
      exam := .alter halter
      exams := .alter hf halter }

theorem Inv.examQuestion (hinv : Inv s) {k : ExamQuestionId}
    {q : ExamQuestion → Bool} {f : ExamQuestion → Option ExamQuestion}
    {old : Option ExamQuestion} {rows : Rows ExamQuestionId ExamQuestion}
    (hf : ∀ v w, f v = some w → w.exam = v.exam ∧ w.id = v.id)
    (halter : s.examQuestion.alterWhere tx k q f = some (old, rows)) :
    Moves tx s { s with examQuestion := rows } where
  inv :=
    { hinv with
      tagged := fun subject => by
        rw [Rows.total_alter halter]
        exact hinv.tagged subject
      questions := hinv.questions.alter (fun v w hw => (hf v w hw).1) halter
      named := hinv.named.alter (fun v w hv hw => (hf v w hw).2.trans hv) halter }
  apart :=
    { (Moves.refl hinv tx).apart with
      examQuestion := .alter halter
      questions := .alter (fun v w hw => (hf v w hw).1) halter
      steady := fun _ _ _ _ _ => Rows.total_alter halter _ }

theorem Inv.newExam (hinv : Inv s) (tx : ℕ) {id : ExamId}
    (hfresh : s.exam.lookup id = none) (row : Exam) :
    Moves tx s { s with exam := s.exam.write tx id (some row) } where
  inv :=
    { hinv with
      filed := fun term => by
        rw [Rows.total_write]
        exact hinv.filed term
      exams := hinv.exams.insert hfresh tx row }
  apart :=
    { (Moves.refl hinv tx).apart with
      exam := .write _ (Rows.free_of_fresh hfresh tx)
      exams := .insert _ hfresh tx row }

theorem Inv.newQuestion (hinv : Inv s) (tx : ℕ) {id : ExamQuestionId}
    (hfresh : s.examQuestion.lookup id = none) {row : ExamQuestion} (hid : row.id = id) :
    Moves tx s { s with examQuestion := s.examQuestion.write tx id (some row) } where
  inv :=
    { hinv with
      tagged := fun subject => by
        rw [Rows.total_write]
        exact hinv.tagged subject
      questions := hinv.questions.insert hfresh tx row
      named := hinv.named.write fun v hv => by cases hv; exact hid }
  apart :=
    { (Moves.refl hinv tx).apart with
      examQuestion := .write _ (Rows.free_of_fresh hfresh tx)
      questions := .insert _ hfresh tx row
      steady := fun _ _ _ _ _ => Rows.total_write _ _ _ _ _ }

theorem Inv.rollback (hinv : Inv s) (tx : ℕ) : Moves tx s (s.rollback tx) where
  inv :=
    { tagged := hinv.tagged.rollback tx
      filed := hinv.filed.rollback tx
      subjects := hinv.subjects.rollback tx
      exams := hinv.exams.rollback tx
      questions := hinv.questions.rollback tx
      named := hinv.named.rollback tx }
  apart :=
    { subject := .rollback tx _
      term := .rollback tx _
      classCourse := .rollback tx _
      exam := .rollback tx _
      examQuestion := .rollback tx _
      subjectGone := fun k hnone => (Rows.committed_rollback tx s.subject k).trans hnone
      exams := .rollback _ tx _
      questions := .rollback _ tx _
      steady := fun _ _ _ _ _ => Rows.total_rollback _ tx _ }

/-- The commit of questions whose exams the transaction holds leaves the questions of every
other exam as they were. -/
theorem gain_within {tx' : ℕ} {exams : List ExamId} {exam : ExamId}
    (honly : Only tx s exams) (hcovered : Covered tx s exams) (hne : tx' ≠ tx)
    (hstanding : Standing tx' s exam) (subject : SubjectId) :
    s.examQuestion.gain (within exam subject) tx = 0 := by
  have hnot : exam ∉ exams := by
    intro hmem
    rcases hcovered exam hmem with hheld | hnone
    · exact hne (hstanding.1.unique hheld)
    · exact hstanding.2 hnone
  have hamount : ∀ id, (s.examQuestion.row id).Held tx → ∀ version : Option ExamQuestion,
      (∀ row, version = some row → (s.examQuestion.row id).Version row) →
        Row.amount (within exam subject id) version = 0 := by
    intro id hheld version hversion
    cases version with
    | none => rfl
    | some row =>
        have hmem := honly id hheld row (hversion row rfl)
        have hexam : row.exam ≠ exam := fun heq => hnot (heq ▸ hmem)
        simp [Row.amount, within, ofExam, hexam]
  apply Table.sum_eq_zero
  intro id row hrow
  have heq := Rows.row_of_lookup hrow
  by_cases hheld : (s.examQuestion.row id).Held tx
  · rw [← heq, Row.gain, hamount id hheld _ fun _ hv => Row.version_of_seen hv,
      hamount id hheld _ fun _ hv => .inl hv, sub_self]
  · rw [← heq]
    exact Row.gain_of_not_held _ hheld

theorem Inv.commit (hinv : Inv s) {exams : List ExamId}
    (hsubject : ∀ k, s.owedSubject tx k = 0) (hterm : ∀ k, s.owedTerm tx k = 0)
    (honly : Only tx s exams) (hcovered : Covered tx s exams) : Moves tx s (s.commit tx) where
  inv :=
    { tagged := hinv.tagged.commit hsubject
      filed := hinv.filed.commit hterm
      subjects := hinv.subjects.commit tx
      exams := hinv.exams.commit tx
      questions := hinv.questions.commit tx
      named := hinv.named.commit tx }
  apart :=
    { subject := .commit tx _
      term := .commit tx _
      classCourse := .commit tx _
      exam := .commit tx _
      examQuestion := .commit tx _
      subjectGone := fun k hnone => by
        have hrow := Rows.row_commit tx s.subject k
        rw [hinv.subjects.vacant hnone] at hrow
        exact congrArg Row.committed hrow
      exams := .commit _ tx _
      questions := .commit _ tx _
      steady := fun tx' hne exam hstanding subject => by
        have htotal := Rows.total_commit (within exam subject) tx s.examQuestion
        rw [gain_within honly hcovered hne hstanding, add_zero] at htotal
        exact htotal }

end Hezarfen.ExamRefs
