import Hezarfen.ExamRefSteps

/-!
# Every interleaving keeps the references counted

What a call knows and owes survives the steps of the others, so the rule for one
transaction per call gives the counters of every reachable store.
-/

namespace Hezarfen.ExamRefs

open Interleaving ReadCommitted
open Exams (Exam ExamId TermId SubjectId ExamQuestion ClassCourseId)

section Others

variable {tx tx' : ℕ} {s s' : Db}

theorem Db.Apart.idle (h : s.Apart tx s') (hne : tx' ≠ tx) (hidle : s.Idle tx') :
    s'.Idle tx' :=
  ⟨h.subject.idle tx' hne hidle.1, h.term.idle tx' hne hidle.2.1,
    h.classCourse.idle tx' hne hidle.2.2.1, h.exam.idle tx' hne hidle.2.2.2.1,
    h.examQuestion.idle tx' hne hidle.2.2.2.2⟩

theorem Db.Apart.holdsExam (h : s.Apart tx s') (hne : tx' ≠ tx) {exam : ExamId}
    (hheld : (s.exam.row exam).Held tx') : (s'.exam.row exam).Held tx' := by
  rw [h.exam.held tx' hne exam hheld]
  exact hheld

theorem Db.Apart.locked (h : s.Apart tx s') (hne : tx' ≠ tx) {exam : ExamId} {term : TermId}
    (hlocked : Locked tx' s exam term) : Locked tx' s' exam term := by
  have hrow := h.exam.held tx' hne exam hlocked.standing.1
  constructor
  · unfold Standing
    rw [hrow]
    exact hlocked.standing
  · rw [hrow]
    exact hlocked.term

theorem Db.Apart.listed (h : s.Apart tx s') {classCourse : ClassCourseId} {exams : List ExamId}
    (hlisted : Listed s classCourse exams) : Listed s' classCourse exams :=
  fun exam hexam => h.exams.known (hlisted exam hexam)

/-- An exam that a sweep took or found gone stays so. -/
theorem Db.Apart.done (h : s.Apart tx s') (hne : tx' ≠ tx) {classCourse : ClassCourseId}
    {exam : ExamId} (hknown : s.exam.Known Exam.classCourse classCourse exam)
    (hdone : (s.exam.row exam).Held tx' ∨ (s.exam.row exam).committed = none) :
    (s'.exam.row exam).Held tx' ∨ (s'.exam.row exam).committed = none := by
  rcases hdone with hheld | hnone
  · exact .inl (h.holdsExam hne hheld)
  · exact .inr (h.exams.gone hknown hnone)

theorem Db.Apart.settles (h : s.Apart tx s') (hne : tx' ≠ tx) {subject : SubjectId}
    (hsettles : Settles tx' s subject) : Settles tx' s' subject := by
  rcases hsettles with hheld | hnone
  · left
    rw [h.subject.held tx' hne subject hheld]
    exact hheld
  · exact .inr (h.subjectGone subject hnone)

theorem Db.Apart.given (h : s.Apart tx s') (hne : tx' ≠ tx) {released : SubjectId}
    (hsettles : Settles tx' s released) (k : SubjectId) :
    s'.given released k = s.given released k := by
  unfold Db.given
  by_cases hk : released = k
  · subst hk
    have hsame : s'.subject.total (tagged.reads released) =
        s.subject.total (tagged.reads released) := by
      rw [RefCount.total_reads, RefCount.total_reads]
      rcases hsettles with hheld | hnone
      · rw [h.subject.held tx' hne released hheld]
      · rw [hnone, h.subjectGone released hnone]
    rw [hsame]
  · rw [if_neg fun hand => hk hand.1, if_neg fun hand => hk hand.1]

theorem Db.Apart.remaining (h : s.Apart tx s') (hne : tx' ≠ tx) {exam : ExamId} {term : TermId}
    (hlocked : Locked tx' s exam term) (k : SubjectId) :
    s'.remaining tx' exam k = s.remaining tx' exam k := by
  unfold Db.remaining
  rw [Rows.total_commit, Rows.total_commit, h.steady tx' hne exam hlocked.standing k,
    h.examQuestion.gain tx' hne]

theorem Db.Apart.only (h : s.Apart tx s') (hne : tx' ≠ tx) {exams : List ExamId}
    (honly : Only tx' s exams) : Only tx' s' exams := by
  intro id hheld row hrow
  have hold : (s.examQuestion.row id).Held tx' := by
    by_contra hnot
    exact h.examQuestion.unheld tx' hne id hnot hheld
  rw [h.examQuestion.held tx' hne id hold] at hrow
  exact honly id hold row hrow

theorem Db.Apart.owedSubject (h : s.Apart tx s') (hne : tx' ≠ tx) (k : SubjectId) :
    s'.owedSubject tx' k = s.owedSubject tx' k :=
  RefCount.owed_apart h.subject h.examQuestion hne k

theorem Db.Apart.owedTerm (h : s.Apart tx s') (hne : tx' ≠ tx) (k : TermId) :
    s'.owedTerm tx' k = s.owedTerm tx' k :=
  RefCount.owed_apart h.term h.exam hne k

theorem Db.Apart.knows (h : s.Apart tx s') (hne : tx' ≠ tx) {p : Point}
    (hknows : p.Knows tx' s) : p.Knows tx' s' := by
  cases p with
  | claimTerm | read | lockExam | lockInstance | lockSubject | homework =>
      exact h.idle hne hknows
  | insertExam | commitExam | probe | commitSubject => trivial
  | gate job =>
      refine ⟨h.idle hne hknows.1, ?_⟩
      cases job with
      | insert => trivial
      | update | delete => exact h.questions.known hknows.2
  | sat job =>
      refine ⟨h.holdsExam hne hknows.1, ?_, h.subject.idle tx' hne hknows.2.2.1,
        h.examQuestion.idle tx' hne hknows.2.2.2⟩
      cases job with
      | insert => trivial
      | update | delete => exact h.questions.known hknows.2.1
  | claimSubject | insertRow | releaseSubject | commitQuestion | releaseTerm | commitDelete =>
      exact h.holdsExam hne hknows
  | release =>
      exact ⟨h.holdsExam hne hknows.1, h.questions.known hknows.2.1,
        h.subject.idle tx' hne hknows.2.2.1, h.examQuestion.idle tx' hne hknows.2.2.2.1,
        hknows.2.2.2.2⟩
  | claim =>
      exact ⟨h.holdsExam hne hknows.1, h.questions.known hknows.2.1,
        h.settles hne hknows.2.2.1, h.examQuestion.idle tx' hne hknows.2.2.2.1,
        hknows.2.2.2.2⟩
  | write =>
      exact ⟨h.holdsExam hne hknows.1, h.questions.known hknows.2.1,
        hknows.2.2.1.imp id (h.settles hne), h.examQuestion.idle tx' hne hknows.2.2.2⟩
  | dropQuestion => exact ⟨h.holdsExam hne hknows.1, h.questions.known hknows.2⟩
  | countQuestions | refundExam | findQuestions | deleteQuestions | dropExam =>
      exact h.locked hne hknows
  | listExams => exact h.exam.idle tx' hne hknows
  | findSwept | sweepQuestions | refundSubjects | findExams => exact h.listed hknows
  | takeExams =>
      exact ⟨h.listed hknows.1, fun exam hexam =>
        (hknows.2 exam hexam).imp id (h.done hne (hknows.1 exam hexam))⟩
  | refundTerms | dropInstance =>
      exact ⟨h.listed hknows.1, fun exam hexam =>
        h.done hne (hknows.1 exam hexam) (hknows.2 exam hexam)⟩
  | commitSweep =>
      obtain ⟨⟨classCourse, hlisted⟩, hcovered⟩ := hknows
      exact ⟨⟨classCourse, h.listed hlisted⟩, fun exam hexam =>
        h.done hne (hlisted exam hexam) (hcovered exam hexam)⟩
  | dropSubject subject =>
      simp only [Point.Knows]
      rw [h.subject.held tx' hne subject hknows.1]
      exact hknows

theorem Db.Apart.dueSubject (h : s.Apart tx s') (hne : tx' ≠ tx) {p : Point}
    (hknows : p.Knows tx' s) (k : SubjectId) :
    p.dueSubject tx' s' k = p.dueSubject tx' s k := by
  cases p with
  | claim => exact h.given hne hknows.2.2.1 k
  | write =>
      simp only [Point.dueSubject]
      rcases hknows.2.2.1 with hsame | hsettles
      · rw [if_pos hsame, if_pos hsame]
      · rw [h.given hne hsettles]
  | probe => exact h.owedSubject hne k
  | refundExam =>
      simp only [Point.dueSubject]
      rw [h.remaining hne hknows]
  | findQuestions | deleteQuestions | dropExam => exact h.remaining hne hknows k
  | _ => rfl

theorem Db.Apart.holds (h : s.Apart tx s') (hne : tx' ≠ tx) {p : Point}
    (hholds : p.Holds tx' s) : p.Holds tx' s' where
  knows := h.knows hne hholds.knows
  subject := fun k => by
    rw [h.owedSubject hne, h.dueSubject hne hholds.knows]
    exact hholds.subject k
  term := fun k => by
    rw [h.owedTerm hne]
    exact hholds.term k
  only := h.only hne hholds.only

end Others

theorem step_lands {s s' : Db} {tx : ℕ} {p : Point} {w : World} {n : Reply} (hinv : Inv s)
    (hholds : p.Holds tx s) (h : next tx s p w = some (s', n)) : Lands tx s s' n := by
  cases p with
  | claimTerm => exact step_claimTerm hinv hholds h
  | insertExam => exact step_insertExam hinv hholds h
  | commitExam exam | commitSubject =>
      cases h
      exact lands_finish hinv hholds.subject hholds.term hholds.only
        (fun exam hexam => by cases hexam) _
  | read =>
      cases h
      exact step_read hinv hholds
  | gate => exact step_gate hinv hholds h
  | sat => exact step_sat hinv hholds h
  | claimSubject => exact step_claimSubject hinv hholds h
  | insertRow => exact step_insertRow hinv hholds h
  | release => exact step_release hinv hholds h
  | claim => exact step_claim hinv hholds h
  | write => exact step_write hinv hholds h
  | probe => exact step_probe hinv (Option.some.inj h)
  | dropQuestion => exact step_dropQuestion hinv hholds h
  | releaseSubject => exact step_releaseSubject hinv hholds h
  | commitQuestion | commitDelete =>
      cases h
      exact lands_finish hinv hholds.subject hholds.term hholds.only
        (covered_one hholds.knows) _
  | lockExam => exact step_lockExam hinv hholds h
  | countQuestions =>
      cases h
      exact step_countQuestions hinv hholds
  | refundExam => exact step_refundExam hinv hholds h
  | findQuestions exam term =>
      cases h
      exact ⟨.refl hinv tx, hholds.knows, hholds.subject, hholds.term, hholds.only⟩
  | deleteQuestions => exact step_deleteQuestions hinv hholds h
  | dropExam => exact step_dropExam hinv hholds h
  | releaseTerm => exact step_releaseTerm hinv hholds h
  | lockInstance => exact step_lockInstance hinv hholds h
  | listExams =>
      cases h
      exact step_listExams hinv hholds
  | findSwept =>
      cases h
      exact step_findSwept hinv hholds
  | sweepQuestions => exact step_sweepQuestions hinv hholds h
  | refundSubjects => exact step_refundSubjects hinv hholds h
  | findExams =>
      cases h
      exact step_findExams hinv hholds
  | takeExams => exact step_takeExams hinv hholds h
  | refundTerms => exact step_refundTerms hinv hholds h
  | dropInstance => exact step_dropInstance hinv hholds h
  | commitSweep =>
      cases h
      exact lands_finish hinv hholds.subject hholds.term hholds.only hholds.knows.2 _
  | lockSubject => exact step_lockSubject hinv hholds h
  | dropSubject => exact step_dropSubject hinv hholds h
  | homework => exact step_homework hinv hholds h

theorem transactional :
    machine.Transactional (fun _ _ => True) Inv (fun tx p s => p.Holds tx s) Db.Idle
      (fun tx s s' => s.Apart tx s') where
  entry := fun request _ hidle => holds_entry hidle request
  own := by
    intro c tx choice p s n _ _ hnext hinv hholds
    have hlands := step_lands hinv hholds hnext
    cases n with
    | goto =>
        refine ⟨hlands.1.inv, fun q' hq => ?_, fun a ha => by cases ha⟩
        cases hq
        exact hlands.2
    | answer => exact ⟨hlands.1.inv, fun q hq => (by cases hq), fun _ _ => hlands.2⟩
  next_apart := by
    intro tx s p choice s' n hnext hinv hholds
    have hlands := step_lands hinv hholds hnext
    cases n with
    | goto | answer => exact hlands.1.apart
  rollback := fun {tx s} hinv =>
    ⟨(hinv.rollback tx).inv, idle_rollback tx s, (hinv.rollback tx).apart⟩
  stable := fun hne hapart _ _ hholds => hapart.holds hne hholds
  idle := fun hne hapart hidle => hapart.idle hne hidle

def Db.questionCount (s : Db) (subject : SubjectId) : ℕ :=
  s.examQuestion.count fun _ row => decide (row.subject = subject)

def Db.examCount (s : Db) (term : TermId) : ℕ :=
  s.exam.count fun _ row => decide (row.term = term)

structure Db.Sound (s : Db) : Prop where
  subject : s.subject.Settled
  term : s.term.Settled
  classCourse : s.classCourse.Settled
  exam : s.exam.Settled
  examQuestion : s.examQuestion.Settled
  named : ∀ id row, (s.examQuestion.row id).committed = some row → row.id = id
  questionCounted : ∀ k, Row.amount Subject.examQuestionCount (s.subject.row k).committed =
    s.questionCount k
  examCounted : ∀ k, Row.amount Term.examCount (s.term.row k).committed = s.examCount k

theorem total_tagged (s : Db) (k : SubjectId) :
    (s.examQuestion.total fun _ => tagged.weight k) = s.questionCount k := by
  have htotal := Rows.total_count (fun _ row => decide (row.subject = k)) s.examQuestion
  simp only [decide_eq_true_eq] at htotal
  exact htotal

theorem total_inTerm (s : Db) (k : TermId) :
    (s.exam.total fun _ => inTerm.weight k) = s.examCount k := by
  have htotal := Rows.total_count (fun _ row => decide (row.term = k)) s.exam
  simp only [decide_eq_true_eq] at htotal
  exact htotal

theorem Db.Sound.inv {s : Db} (h : s.Sound) : Inv s where
  tagged := by
    intro k
    rw [RefCount.total_reads, total_tagged]
    exact h.questionCounted k
  filed := by
    intro k
    rw [RefCount.total_reads, total_inTerm]
    exact h.examCounted k
  subjects := fun k _ => h.subject k
  exams := h.exam.agreed _
  questions := h.examQuestion.agreed _
  named := h.examQuestion.every h.named

theorem Db.Sound.idle {s : Db} (h : s.Sound) (tx : ℕ) : s.Idle tx :=
  ⟨h.subject.idle tx, h.term.idle tx, h.classCourse.idle tx, h.exam.idle tx,
    h.examQuestion.idle tx⟩

/-- In every run the question counter of each subject equals the number of questions tagged
with it, the exam counter of each term the number of its exams, and the subject of every
question is there. -/
theorem counters_follow_references {start : Db} {c : Config Db Point}
    {moves : List (Move Request World)} (hsound : start.Sound)
    (hrun : machine.run (Config.initial start) moves = some c) :
    (∀ subject row, (c.shared.subject.row subject).committed = some row →
      row.examQuestionCount = c.shared.questionCount subject) ∧
    (∀ term row, (c.shared.term.row term).committed = some row →
      row.examCount = c.shared.examCount term) ∧
    ∀ id question, (c.shared.examQuestion.row id).committed = some question →
      ∃ row, (c.shared.subject.row question.subject).committed = some row := by
  have hruns := transactional.runs_run (Config.initial_runs hsound.inv hsound.idle)
    (Machine.guarded_true _ moves) hrun
  have htagged : ∀ k, Row.amount Subject.examQuestionCount
      (c.shared.subject.row k).committed = c.shared.questionCount k := by
    intro k
    have hcounted := hruns.shared.tagged k
    rw [RefCount.total_reads, total_tagged] at hcounted
    exact hcounted
  refine ⟨fun subject row hrow => ?_, fun term row hrow => ?_, fun id question hquestion => ?_⟩
  · have hcounted := htagged subject
    rw [hrow] at hcounted
    exact hcounted
  · have hcounted := hruns.shared.filed term
    rw [RefCount.total_reads, total_inTerm, hrow] at hcounted
    exact hcounted
  · have hpos : 0 < c.shared.questionCount question.subject :=
      Rows.count_pos hquestion (decide_eq_true rfl)
    have hcounted := htagged question.subject
    cases hrow : (c.shared.subject.row question.subject).committed with
    | some row => exact ⟨row, rfl⟩
    | none =>
        rw [hrow] at hcounted
        have hzero : (0 : ℤ) = c.shared.questionCount question.subject := hcounted
        omega

def geometry : SubjectId := ⟨.ending "0013"⟩

def school : Db where
  subject := AList.insert geometry ⟨some ⟨0, 0⟩, none⟩
    (AList.singleton Exams.Sample.algebra ⟨some ⟨0, 0⟩, none⟩)
  term := AList.singleton Exams.Sample.quiz.term ⟨some ⟨0⟩, none⟩
  classCourse := AList.singleton Exams.Sample.quiz.classCourse ⟨some (), none⟩
  exam := ∅
  examQuestion := ∅

theorem amount_zero {K V : Type*} [DecidableEq K] {f : V → ℤ} {t : Rows K V}
    (h : (t.entries.all fun r => r.2.committed.all fun v => decide (f v = 0)) = true) (k : K) :
    Row.amount f (t.row k).committed = 0 := by
  cases hk : t.lookup k with
  | none => rw [Rows.row_vacant hk]; rfl
  | some r =>
      rw [Rows.row_of_lookup hk]
      have hr := List.all_eq_true.mp h _ (mem_entries_iff_lookup.mpr hk)
      cases hcommitted : r.committed with
      | none => rfl
      | some =>
          simp only [hcommitted, Option.all_some, decide_eq_true_eq] at hr
          exact hr

theorem school_sound : school.Sound where
  subject := Rows.settled_of_all rfl
  term := Rows.settled_of_all rfl
  classCourse := Rows.settled_of_all rfl
  exam := Rows.settled_of_all rfl
  examQuestion := Rows.settled_of_all rfl
  named _ _ hrow := by cases hrow
  questionCounted := amount_zero rfl
  examCounted := amount_zero rfl

def openSpec : Exams.QuestionSpec := ⟨.text, none, none⟩

def chord : ExamQuestion where
  id := ⟨Exams.Sample.questionUuid⟩
  exam := Exams.Sample.quizId
  subject := Exams.Sample.algebra
  text := "2 + 2 = ?"
  points := 1
  spec := openSpec
  fromBank := none
  bankedAs := none

def proceed (id n : ℕ) (uuid : Uuid) : List (Move Request World) :=
  List.replicate n (.advance id ⟨uuid, false⟩)

def retagUnderDetach : List (Move Request World) :=
  .start (.createExam Exams.Sample.quiz) :: proceed 0 3 Exams.Sample.quizUuid ++
    .start (.insertQuestion chord) :: proceed 1 5 Exams.Sample.questionUuid ++
    .start (.detach Exams.Sample.quiz.classCourse) :: proceed 2 2 Exams.Sample.quizUuid ++
    .start (.updateQuestion chord.id ⟨geometry, "2 + 2 = ?", 1, openSpec⟩) ::
    proceed 3 7 Exams.Sample.quizUuid ++ proceed 2 4 Exams.Sample.quizUuid

theorem counters_follow_references_retagUnderDetach :
    ∃ c row, machine.run (Config.initial school) retagUnderDetach = some c ∧
      (c.shared.subject.row geometry).committed = some row ∧
      row.examQuestionCount = c.shared.questionCount geometry ∧
      c.shared.questionCount geometry = 1 := by
  have hend : (machine.run (Config.initial school) retagUnderDetach).any (fun c =>
      (c.shared.subject.row geometry).committed.isSome &&
        decide (c.shared.questionCount geometry = 1)) = true := by
    decide
  obtain ⟨c, hrun, hc⟩ := (Option.any_eq_true _ _).mp hend
  rw [Bool.and_eq_true, decide_eq_true_eq] at hc
  obtain ⟨row, hrow⟩ := Option.isSome_iff_exists.mp hc.1
  have hfollow := (counters_follow_references school_sound hrun).1
  exact ⟨c, row, hrun, hrow, hfollow geometry row hrow, hc.2⟩

end Hezarfen.ExamRefs
