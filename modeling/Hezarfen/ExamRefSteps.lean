import Hezarfen.ExamRefCounters

/-!
# The counters over every run of exam and question writes

One lemma for each group of points: what the point owes goes over into what the next point
owes.  Every interleaving follows from these by the rule for one transaction per call.
-/

namespace Hezarfen.ExamRefs

open Interleaving ReadCommitted
open Exams (Exam ExamId TermId SubjectId ExamQuestion ExamQuestionId ClassCourseId QuestionFields)

variable {tx : ℕ} {s s' : Db} {subject : SubjectId} {n : Reply} {term : TermId}
  {exams : List ExamId} {exam : ExamId} {rows : Rows ExamId Exam} {id : ExamQuestionId}
  {question : ExamQuestion} {fields : QuestionFields} {classCourse : ClassCourseId}

def Lands (tx : ℕ) (s s' : Db) : Reply → Prop
  | .goto q => Moves tx s s' ∧ q.Holds tx s'
  | .answer _ => Moves tx s s' ∧ s'.Idle tx

theorem found_cases {K V : Type*} {r : Option (Option V × Rows K V)} {missed out : Db × Reply}
    {then_ : V → Rows K V → Db × Reply} (h : found r missed then_ = some out) :
    (∃ rows, r = some (none, rows) ∧ out = missed) ∨
      ∃ v rows, r = some (some v, rows) ∧ out = then_ v rows := by
  unfold found at h
  rw [Option.map_eq_some_iff] at h
  obtain ⟨⟨old, rows⟩, hr, hout⟩ := h
  cases old with
  | none => exact .inl ⟨rows, hr, hout.symm⟩
  | some v => exact .inr ⟨v, rows, hr, hout.symm⟩

theorem releaseSubject_cases {count : ℕ} {q : Point}
    (h : releaseSubject tx s subject count q = some (s', n)) :
    ∃ old rows, s.subject.alter tx subject (fun row => some (row.release count)) =
      some (old, rows) ∧ s' = { s with subject := rows } ∧ n = .goto q := by
  unfold releaseSubject at h
  rw [Option.map_eq_some_iff] at h
  obtain ⟨⟨old, rows⟩, halter, hrest⟩ := h
  cases hrest
  exact ⟨old, rows, halter, rfl, rfl⟩

theorem releaseTerm_cases {count : ℕ} {q : Point}
    (h : releaseTerm tx s term count q = some (s', n)) :
    ∃ old rows, s.term.alter tx term (fun row => some (row.release count)) =
      some (old, rows) ∧ s' = { s with term := rows } ∧ n = .goto q := by
  unfold releaseTerm at h
  rw [Option.map_eq_some_iff] at h
  obtain ⟨⟨old, rows⟩, halter, hrest⟩ := h
  cases hrest
  exact ⟨old, rows, halter, rfl, rfl⟩

theorem Db.Idle.owedSubject (h : s.Idle tx) (k : SubjectId) :
    s.owedSubject tx k = 0 :=
  RefCount.owed_of_idle h.1 h.2.2.2.2 k

theorem Db.Idle.owedTerm (h : s.Idle tx) (k : TermId) :
    s.owedTerm tx k = 0 :=
  RefCount.owed_of_idle h.2.1 h.2.2.2.1 k

theorem only_of_idle (h : s.examQuestion.Idle tx) (exams : List ExamId) :
    Only tx s exams :=
  fun id hheld => absurd hheld (h id)

theorem idle_rollback (tx : ℕ) (s : Db) : (s.rollback tx).Idle tx :=
  ⟨Rows.idle_rollback tx _, Rows.idle_rollback tx _, Rows.idle_rollback tx _,
    Rows.idle_rollback tx _, Rows.idle_rollback tx _⟩

theorem idle_commit (tx : ℕ) (s : Db) : (s.commit tx).Idle tx :=
  ⟨Rows.idle_commit tx _, Rows.idle_commit tx _, Rows.idle_commit tx _,
    Rows.idle_commit tx _, Rows.idle_commit tx _⟩

theorem holds_entry (h : s.Idle tx) (request : Request) :
    (entry request).Holds tx s := by
  have hsubject := h.owedSubject
  have hterm := h.owedTerm
  have honly := only_of_idle h.2.2.2.2
  cases request with
  | insertQuestion => exact ⟨⟨h, trivial⟩, hsubject, hterm, honly _⟩
  | _ => exact ⟨h, hsubject, hterm, honly _⟩

theorem lands_refuse (hinv : Inv s) (tx : ℕ) (e : AppError) :
    Lands tx s (refuse tx s e).1 (refuse tx s e).2 :=
  ⟨hinv.rollback tx, idle_rollback tx s⟩

theorem lands_startOver (hinv : Inv s) (tx : ℕ) (request : Request) :
    Lands tx s (startOver tx s (entry request)).1 (startOver tx s (entry request)).2 :=
  ⟨hinv.rollback tx, holds_entry (idle_rollback tx s) request⟩

theorem lands_finish (hinv : Inv s) (hsubject : ∀ k, s.owedSubject tx k = 0)
    (hterm : ∀ k, s.owedTerm tx k = 0) (honly : Only tx s exams) (hcovered : Covered tx s exams)
    (a : Answer) :
    Lands tx s (finish tx s a).1 (finish tx s a).2 :=
  ⟨hinv.commit hsubject hterm honly hcovered, idle_commit tx s⟩

theorem covered_one (h : (s.exam.row exam).Held tx) :
    Covered tx s [exam] := by
  intro exam' hexam
  rw [List.mem_singleton] at hexam
  exact .inl (hexam ▸ h)

theorem Only.alter (hinv : Inv s) (honly : Only tx s exams) {k : ExamQuestionId}
    {q : ExamQuestion → Bool} {f : ExamQuestion → Option ExamQuestion} {old : Option ExamQuestion}
    {rows : Rows ExamQuestionId ExamQuestion} (hf : ∀ v w, f v = some w → w.exam = v.exam)
    (hq : ∀ v, (s.examQuestion.row k).seen tx = some v → q v = true → v.exam ∈ exams)
    (halter : s.examQuestion.alterWhere tx k q f = some (old, rows)) :
    Only tx { s with examQuestion := rows } exams := by
  rcases Rows.alterWhere_cases halter with ⟨-, rfl, -⟩ | ⟨v, -, hseen, hqv, -, rfl⟩
  · exact honly
  · have hv := hq v hseen hqv
    intro id hheld row hrow
    dsimp only at hheld hrow
    rcases Rows.version_write hrow with hold | ⟨rfl, hnew⟩
    · by_cases hid : id = k
      · subst hid
        rw [hinv.questions id row v hold (Row.version_of_seen hseen)]
        exact hv
      · rw [Rows.row_write, if_neg hid] at hheld
        exact honly id hheld row hold
    · rw [hf v row hnew]
      exact hv

theorem only_insert (honly : Only tx s exams) {k : ExamQuestionId}
    (hfresh : s.examQuestion.lookup k = none) {row : ExamQuestion} (hrow : row.exam ∈ exams) :
    Only tx { s with examQuestion := s.examQuestion.write tx k (some row) } exams := by
  intro id hheld v hv
  dsimp only at hheld hv
  rcases Rows.version_write hv with hold | ⟨-, hnew⟩
  · by_cases hid : id = k
    · rw [hid, Rows.row_vacant hfresh] at hold
      rcases hold with hcommitted | ⟨tx', hwriter⟩
      · cases hcommitted
      · cases hwriter
    · rw [Rows.row_write, if_neg hid] at hheld
      exact honly id hheld v hold
  · cases hnew
    exact hrow

theorem step_claimTerm {exam : Exam} (hinv : Inv s) (hholds : (Point.claimTerm exam).Holds tx s)
    (h : claimTerm tx s exam = some (s', n)) :
    Lands tx s s' n := by
  rcases found_cases h with ⟨rows, -, heq⟩ | ⟨row, rows, halter, heq⟩
  · cases heq
    exact lands_refuse hinv tx _
  · cases heq
    refine ⟨hinv.term halter, trivial, hholds.subject, fun k => ?_, hholds.only⟩
    have hold : s.owedTerm tx k = 0 := hholds.term k
    have hclaim : ({ s with term := rows } : Db).owedTerm tx k =
        s.owedTerm tx k - if exam.term = k then 1 else 0 :=
      RefCount.owed_claim rfl halter k
    rw [hclaim, hold, zero_sub]
    rfl

theorem step_insertExam {exam : Exam} {id : ExamId} (hinv : Inv s)
    (hholds : (Point.insertExam exam).Holds tx s) (h : insertExam tx s exam id = some (s', n)) :
    Lands tx s s' n := by
  unfold insertExam at h
  split at h
  · cases h
  · next hfresh =>
    rw [not_not] at hfresh
    split at h
    · cases h
    · split at h
      · cases h
        exact lands_refuse hinv tx _
      · cases h
        refine ⟨hinv.newExam tx hfresh _, trivial, hholds.subject, fun k => ?_,
          hholds.only⟩
        have hold : s.owedTerm tx k = - if exam.term = k then 1 else 0 := hholds.term k
        have hinsert : ({ s with
            exam := s.exam.write tx id (some { exam with id := id }) } : Db).owedTerm tx k =
            s.owedTerm tx k + if exam.term = k then 1 else 0 :=
          RefCount.owed_insert hfresh _ k
        rw [hinsert, hold, neg_add_cancel]
        rfl

/-! ## `exam_question::insert`, `update`, `delete` -/

theorem step_read {change : Option QuestionFields} (hinv : Inv s)
    (hholds : (Point.read id change).Holds tx s) :
    Lands tx s s (read s id change) := by
  have hidle : s.Idle tx := hholds.knows
  unfold read
  split
  · exact ⟨.refl hinv tx, hidle⟩
  · next question hrow =>
    have hid : question.id = id := hinv.named id question (.inl hrow)
    have hknown : KnownQuestion s question := by
      unfold KnownQuestion
      rw [hid]
      exact hinv.questions.known hrow
    refine ⟨.refl hinv tx, ⟨hidle, ?_⟩, hholds.subject, hholds.term,
      only_of_idle hidle.2.2.2.2 _⟩
    cases change with
    | none | some => exact hknown

theorem step_gate {job : QuestionWrite} (hinv : Inv s) (hholds : (Point.gate job).Holds tx s)
    (h : gate tx s job = some (s', n)) :
    Lands tx s s' n := by
  obtain ⟨hidle, hknown⟩ := hholds.knows
  rcases found_cases h with ⟨rows, -, heq⟩ | ⟨row, rows, halter, heq⟩
  · cases heq
    exact lands_refuse hinv tx _
  · cases heq
    refine ⟨hinv.exam (fun v w hw => by cases hw; rfl) halter,
      ⟨(Rows.held_alter halter).1, hknown, hidle.1, hidle.2.2.2.2⟩, hholds.subject,
      fun k => ?_, only_of_idle hidle.2.2.2.2 _⟩
    have hlock : ({ s with exam := rows } : Db).owedTerm tx k = s.owedTerm tx k + _ :=
      RefCount.owed_rows halter k
    rw [hlock, hidle.owedTerm, Option.bind_some, sub_self]
    rfl

theorem step_sat {job : QuestionWrite} {w : World} (hinv : Inv s)
    (hholds : (Point.sat job).Holds tx s) (h : next tx s (.sat job) w = some (s', n)) :
    Lands tx s s' n := by
  obtain ⟨hheld, hknown, hsubject, hquestion⟩ := hholds.knows
  simp only [next, Option.some.injEq] at h
  split at h
  · cases h
    exact lands_refuse hinv tx _
  · cases h
    refine ⟨.refl hinv tx, ?_⟩
    cases job with
    | insert => exact ⟨hheld, hholds.subject, hholds.term, hholds.only⟩
    | delete => exact ⟨⟨hheld, hknown⟩, hholds.subject, hholds.term, hholds.only⟩
    | update question fields =>
        by_cases hsame : fields.subject = question.subject
        · simp only [QuestionWrite.start, hsame, if_true]
          refine ⟨⟨hheld, hknown, .inl hsame, hquestion⟩, fun k => ?_, hholds.term, hholds.only⟩
          simp only [Point.dueSubject, hsame, if_true]
          exact hholds.subject k
        · simp only [QuestionWrite.start, hsame, if_false]
          exact ⟨⟨hheld, hknown, hsubject, hquestion, hsame⟩, hholds.subject, hholds.term,
            hholds.only⟩

theorem step_claimSubject (hinv : Inv s) (hholds : (Point.claimSubject question).Holds tx s)
    (h : claimSubject tx s question = some (s', n)) : Lands tx s s' n := by
  rcases found_cases h with ⟨rows, -, heq⟩ | ⟨row, rows, halter, heq⟩
  · cases heq
    exact lands_refuse hinv tx _
  · cases heq
    refine ⟨hinv.subject halter, hholds.knows, fun k => ?_, hholds.term, hholds.only⟩
    have hold : s.owedSubject tx k = 0 := hholds.subject k
    have hclaim : ({ s with subject := rows } : Db).owedSubject tx k =
        s.owedSubject tx k - if question.subject = k then 1 else 0 :=
      RefCount.owed_claim rfl halter k
    rw [hclaim, hold, zero_sub]
    rfl

theorem step_insertRow (hinv : Inv s) (hholds : (Point.insertRow question).Holds tx s)
    (h : insertRow tx s question id = some (s', n)) : Lands tx s s' n := by
  unfold insertRow at h
  split at h
  · cases h
  · next hfresh =>
    rw [not_not] at hfresh
    cases h
    refine ⟨hinv.newQuestion tx hfresh rfl, hholds.knows, fun k => ?_, hholds.term,
      only_insert hholds.only hfresh List.mem_cons_self⟩
    have hold : s.owedSubject tx k = - if question.subject = k then 1 else 0 :=
      hholds.subject k
    have hinsert : ({ s with
        examQuestion := s.examQuestion.write tx id (some { question with id := id }) } :
          Db).owedSubject tx k =
        s.owedSubject tx k + if question.subject = k then 1 else 0 :=
      RefCount.owed_insert hfresh _ k
    rw [hinsert, hold, neg_add_cancel]
    rfl

theorem given_eq {released : SubjectId} {k : SubjectId} {q : Subject → Bool}
    {f : Subject → Option Subject} {old : Option Subject} {rows : Rows SubjectId Subject}
    (halter : s.subject.alterWhere tx k q f = some (old, rows)) (subject : SubjectId) :
    ({ s with subject := rows } : Db).given released subject = s.given released subject := by
  unfold Db.given
  rw [Rows.total_alter halter]

theorem step_release (hinv : Inv s) (hholds : (Point.release question fields).Holds tx s)
    (h : releaseSubject tx s question.subject 1 (.claim question fields) = some (s', n)) :
    Lands tx s s' n := by
  obtain ⟨hheld, hknown, hidle, hquestion, hne⟩ := hholds.knows
  obtain ⟨old, rows, halter, rfl, rfl⟩ := releaseSubject_cases h
  have hrow : (s.subject.row question.subject).seen tx =
      (s.subject.row question.subject).committed :=
    Row.seen_eq_committed (hidle question.subject)
  refine ⟨hinv.subject halter, ⟨hheld, hknown, ?_, hquestion, hne⟩, fun k => ?_, hholds.term,
    hholds.only⟩
  · cases old with
    | some => exact .inl (Rows.held_alter halter).1
    | none =>
        right
        dsimp only
        rw [Rows.committed_alter halter, ← hrow, (Rows.alter_cases halter).1]
  · have hold : s.owedSubject tx k = 0 := hholds.subject k
    have hrelease : ({ s with subject := rows } : Db).owedSubject tx k =
        s.owedSubject tx k + s.given question.subject k :=
      RefCount.owed_release_idle hinv.tagged (tagged_releases 1) hrow halter k
    rw [hrelease, hold, zero_add]
    exact (given_eq halter k).symm

theorem Settles.alter (h : Settles tx s subject) {k : SubjectId} {q : Subject → Bool}
    {f : Subject → Option Subject} {old : Option Subject} {rows : Rows SubjectId Subject}
    (halter : s.subject.alterWhere tx k q f = some (old, rows)) :
    Settles tx { s with subject := rows } subject := by
  rcases h with hheld | hnone
  · left
    rcases Rows.alterWhere_cases halter with ⟨-, rfl, -⟩ | ⟨v, -, -, -, -, rfl⟩
    · exact hheld
    · exact Rows.held_write_of_held hheld k _
  · right
    dsimp only
    rw [Rows.committed_alter halter]
    exact hnone

theorem step_claim (hinv : Inv s) (hholds : (Point.claim question fields).Holds tx s)
    (h : claim tx s question fields = some (s', n)) : Lands tx s s' n := by
  obtain ⟨hheld, hknown, hsettles, hquestion, hne⟩ := hholds.knows
  rcases found_cases h with ⟨rows, -, heq⟩ | ⟨row, rows, halter, heq⟩
  · cases heq
    exact lands_refuse hinv tx _
  · cases heq
    refine ⟨hinv.subject halter, ⟨hheld, hknown, .inr (hsettles.alter halter), hquestion⟩,
      fun k => ?_, hholds.term, hholds.only⟩
    have hold : s.owedSubject tx k = s.given question.subject k := hholds.subject k
    have hclaim : ({ s with subject := rows } : Db).owedSubject tx k =
        s.owedSubject tx k - if fields.subject = k then 1 else 0 :=
      RefCount.owed_claim rfl halter k
    simp only [Point.dueSubject, hne, if_false]
    rw [hclaim, hold, given_eq halter]

theorem given_of_tagged (hinv : Inv s) {row : ExamQuestion}
    (hrow : (s.examQuestion.row id).committed = some row) (k : SubjectId) :
    s.given row.subject k = if row.subject = k then 1 else 0 := by
  unfold Db.given
  by_cases hk : row.subject = k
  · have hpos : 0 < s.examQuestion.count fun _ row => decide (row.subject = k) :=
      Rows.count_pos hrow (decide_eq_true hk)
    have htotal := Rows.total_count (fun _ row => decide (row.subject = k)) s.examQuestion
    have hcounted : s.subject.total (tagged.reads k) =
        s.examQuestion.total fun _ row => if row.subject = k then 1 else 0 := hinv.tagged k
    simp only [decide_eq_true_eq] at htotal
    rw [htotal] at hcounted
    have hcounter : 0 < s.subject.total (tagged.reads k) := by omega
    rw [if_pos ⟨hk, hcounter⟩, if_pos hk]
  · rw [if_neg fun h => hk h.1, if_neg hk]

theorem step_write (hinv : Inv s) (hholds : (Point.write question fields).Holds tx s)
    (h : write tx s question fields = some (s', n)) : Lands tx s s' n := by
  obtain ⟨hheld, hknown, -, hquestion⟩ := hholds.knows
  rcases found_cases h with ⟨rows, -, heq⟩ | ⟨row, rows, halter, heq⟩
  · cases heq
    exact ⟨.refl hinv tx, trivial, fun _ => rfl, hholds.term, hholds.only⟩
  · cases heq
    refine ⟨hinv.examQuestion (fun v w hw => by cases hw; exact ⟨rfl, rfl⟩) halter, hheld,
      fun k => ?_, hholds.term,
      hholds.only.alter hinv (fun v w hw => by cases hw; rfl) (fun v hv _ => ?_) halter⟩
    · rcases Rows.alterWhere_cases halter with ⟨hnone, -⟩ | ⟨v, hv, hseen, hpinned, -, -⟩
      · cases hnone
      cases hv
      have hsubject : row.subject = question.subject := of_decide_eq_true hpinned
      have hcommitted : (s.examQuestion.row question.id).committed = some row := by
        rw [← Row.seen_eq_committed (hquestion question.id), hseen]
      have hgiven := given_of_tagged hinv hcommitted k
      rw [hsubject] at hgiven
      have hold : s.owedSubject tx k =
          if fields.subject = question.subject then 0
          else s.given question.subject k - if fields.subject = k then 1 else 0 :=
        hholds.subject k
      have hwrite : ({ s with examQuestion := rows } : Db).owedSubject tx k =
          s.owedSubject tx k + ((if fields.subject = k then 1 else 0) -
            if row.subject = k then 1 else 0) :=
        RefCount.owed_rows halter k
      have hzero : ({ s with examQuestion := rows } : Db).owedSubject tx k = 0 := by
        rw [hwrite, hold, hgiven, hsubject]
        by_cases hsame : fields.subject = question.subject
        · rw [if_pos hsame, hsame, sub_self, add_zero]
        · rw [if_neg hsame]
          omega
      exact hzero
    · rw [hknown.value v (Row.version_of_seen hv)]
      exact List.mem_cons_self

theorem step_probe (hinv : Inv s) (h : probe tx s question = (s', n)) : Lands tx s s' n := by
  unfold probe at h
  split at h
  · cases h
    exact lands_refuse hinv tx _
  · cases h
    exact lands_refuse hinv tx _

theorem step_dropQuestion (hinv : Inv s) (hholds : (Point.dropQuestion question).Holds tx s)
    (h : dropQuestion tx s question = some (s', n)) : Lands tx s s' n := by
  obtain ⟨hheld, hknown⟩ := hholds.knows
  rcases found_cases h with ⟨rows, -, heq⟩ | ⟨row, rows, halter, heq⟩
  · cases heq
    exact lands_refuse hinv tx _
  · cases heq
    refine ⟨hinv.examQuestion (fun v w hw => by cases hw) halter, hheld, fun k => ?_,
      hholds.term, hholds.only.alter hinv (fun v w hw => by cases hw) (fun v hv _ => ?_) halter⟩
    · have hold : s.owedSubject tx k = 0 := hholds.subject k
      have hdrop : ({ s with examQuestion := rows } : Db).owedSubject tx k =
          s.owedSubject tx k + (0 - if row.subject = k then 1 else 0) :=
        RefCount.owed_rows halter k
      rw [hdrop, hold, zero_add, zero_sub]
      rfl
    · rw [hknown.value v (Row.version_of_seen hv)]
      exact List.mem_cons_self

theorem step_releaseSubject {deleted : ExamQuestion} (hinv : Inv s)
    (hholds : (Point.releaseSubject exam deleted).Holds tx s)
    (h : releaseSubject tx s deleted.subject 1 (.commitQuestion exam deleted) = some (s', n)) :
    Lands tx s s' n := by
  obtain ⟨old, rows, halter, rfl, rfl⟩ := releaseSubject_cases h
  refine ⟨hinv.subject halter, hholds.knows, fun k => ?_, hholds.term, hholds.only⟩
  have hold : ∀ k, s.owedSubject tx k = - if deleted.subject = k then 1 else 0 :=
    hholds.subject
  have howed : s.owedSubject tx deleted.subject ≤ -((1 : ℕ) : ℤ) := by
    rw [hold, if_pos rfl]
    exact le_refl _
  have hrelease : ({ s with subject := rows } : Db).owedSubject tx k =
      s.owedSubject tx k + if deleted.subject = k then ((1 : ℕ) : ℤ) else 0 :=
    RefCount.owed_release_due hinv.tagged (tagged_releases 1) (by decide) howed halter k
  rw [hrelease, hold, Nat.cast_one, neg_add_cancel]
  rfl

/-! ## `exam::delete` -/

theorem owedTerm_lock {row : Exam} (halter : s.exam.lock tx exam = some (some row, rows))
    (k : TermId) :
    ({ s with exam := rows } : Db).owedTerm tx k = s.owedTerm tx k := by
  have hlock : ({ s with exam := rows } : Db).owedTerm tx k = s.owedTerm tx k + _ :=
    RefCount.owed_rows halter k
  rw [hlock, Option.bind_some, sub_self, add_zero]

theorem step_lockExam (hinv : Inv s) (hholds : (Point.lockExam exam).Holds tx s)
    (h : lockExam tx s exam = some (s', n)) :
    Lands tx s s' n := by
  have hidle : s.Idle tx := hholds.knows
  rcases found_cases h with ⟨rows, -, heq⟩ | ⟨row, rows, halter, heq⟩
  · cases heq
    exact lands_refuse hinv tx _
  · cases heq
    have hheld := Rows.held_alter halter
    have hcommitted : (s.exam.row exam).committed = some row := by
      rw [← Row.seen_eq_committed (hidle.2.2.2.1 exam), (Rows.alter_cases halter).1]
    refine ⟨hinv.exam (fun v w hw => by cases hw; rfl) halter, ⟨⟨hheld.1, ?_⟩, ?_⟩,
      hholds.subject, fun k => (owedTerm_lock halter k).trans (hholds.term k),
      only_of_idle hidle.2.2.2.2 _⟩
    · dsimp only
      rw [Rows.committed_alter halter, hcommitted]
      exact Option.some_ne_none row
    · intro row' hrow'
      dsimp only at hrow'
      rw [hheld.2] at hrow'
      cases hrow'
      rfl

theorem step_countQuestions (hinv : Inv s) (hholds : (Point.countQuestions exam term).Holds tx s) :
    Lands tx s s (.goto (.refundExam exam term (countQuestions tx s exam))) := by
  refine ⟨.refl hinv tx, hholds.knows, fun k => ?_, hholds.term, hholds.only⟩
  have hold : s.owedSubject tx k = 0 := hholds.subject k
  have hcount : pending (countQuestions tx s exam) k = s.remaining tx exam k := by
    unfold countQuestions
    rw [pending_tally]
    exact Rows.count_visible tx s.examQuestion (ofExam exam) ExamQuestion.subject k
  simp only [Point.dueSubject]
  rw [hold, hcount, sub_self]

theorem remaining_le (s : Db) (tx : ℕ) (exam : ExamId) (k : SubjectId) :
    s.remaining tx exam k ≤ (s.examQuestion.commit tx).total fun _ => tagged.weight k := by
  apply Rows.total_le
  intro id row
  unfold within tagged
  by_cases hexam : ofExam exam id row = true
  · simp [hexam]
  · simp only [hexam, Bool.false_and, Bool.false_eq_true, if_false]
    split <;> decide

theorem step_refundExam {subs : List (SubjectId × ℕ)} (hinv : Inv s)
    (hholds : (Point.refundExam exam term subs).Holds tx s)
    (h : refundExam tx s exam term subs = some (s', n)) : Lands tx s s' n := by
  have hold : ∀ k, s.owedSubject tx k = s.remaining tx exam k - pending subs k :=
    hholds.subject
  have hlocked : Locked tx s exam term := hholds.knows
  cases subs with
  | nil =>
      cases h
      refine ⟨.refl hinv tx, hholds.knows, fun k => ?_, hholds.term, hholds.only⟩
      rw [hold, pending_nil, sub_zero]
      rfl
  | cons sub subs =>
      obtain ⟨old, rows, halter, rfl, rfl⟩ := releaseSubject_cases h
      refine ⟨hinv.subject halter, ⟨hlocked.standing, hlocked.term⟩, fun k => ?_, hholds.term,
        hholds.only⟩
      have howed : s.owedSubject tx sub.1 + sub.2 ≤
          (s.examQuestion.commit tx).total fun _ => tagged.weight sub.1 := by
        have hle := remaining_le s tx exam sub.1
        have hnonneg := pending_nonneg subs sub.1
        rw [hold, pending_cons, if_pos rfl]
        omega
      have hrelease : ({ s with subject := rows } : Db).owedSubject tx k =
          s.owedSubject tx k + if sub.1 = k then (sub.2 : ℤ) else 0 :=
        RefCount.owed_release hinv.tagged (tagged_releases sub.2) (Int.natCast_nonneg _) howed
          halter k
      have hgoal : ({ s with subject := rows } : Db).owedSubject tx k =
          s.remaining tx exam k - pending subs k := by
        rw [hrelease, hold, pending_cons]
        omega
      exact hgoal

theorem step_deleteQuestions {ids : List ExamQuestionId} (hinv : Inv s)
    (hholds : (Point.deleteQuestions exam term ids).Holds tx s)
    (h : deleteQuestions tx s exam term ids = some (s', n)) : Lands tx s s' n := by
  have hlocked : Locked tx s exam term := hholds.knows
  cases ids with
  | nil =>
      cases h
      exact ⟨.refl hinv tx, hholds.knows, hholds.subject, hholds.term, hholds.only⟩
  | cons id =>
      simp only [deleteQuestions, Option.map_eq_some_iff] at h
      obtain ⟨⟨old, rows⟩, halter, hrest⟩ := h
      cases hrest
      refine ⟨hinv.examQuestion (fun v w hw => by cases hw) halter,
        ⟨hlocked.standing, hlocked.term⟩, fun k => ?_, hholds.term,
        hholds.only.alter hinv (fun v w hw => by cases hw) (fun v _ hv => ?_) halter⟩
      · have hold : s.owedSubject tx k = s.remaining tx exam k := hholds.subject k
        have hdrop : ({ s with examQuestion := rows } : Db).owedSubject tx k =
            s.owedSubject tx k + (Row.amount (tagged.weight k) (old.bind fun _ => none) -
              Row.amount (tagged.weight k) old) :=
          RefCount.owed_rows halter k
        have hremaining : ({ s with examQuestion := rows } : Db).remaining tx exam k =
            s.remaining tx exam k + (Row.amount (within exam k id) (old.bind fun _ => none) -
              Row.amount (within exam k id) old) :=
          Rows.total_commit_alter halter (within exam k)
        have hsame : Row.amount (within exam k id) old = Row.amount (tagged.weight k) old := by
          rcases Rows.alterWhere_cases halter with ⟨rfl, -⟩ | ⟨v, rfl, -, hv, -⟩
          · rfl
          · simp [Row.amount, within, tagged, hv]
        have hgone : old.bind (fun _ => (none : Option ExamQuestion)) = none := by
          cases old <;> rfl
        have hgoal : ({ s with examQuestion := rows } : Db).owedSubject tx k =
            ({ s with examQuestion := rows } : Db).remaining tx exam k := by
          rw [hdrop, hremaining, hold, hsame, hgone]
          rfl
        exact hgoal
      · rw [of_decide_eq_true hv]
        exact List.mem_cons_self

theorem remaining_of_empty (h : (s.examQuestion.visible tx (ofExam exam)).isEmpty = true)
    (k : SubjectId) :
    s.remaining tx exam k = 0 := by
  have hcount := Rows.count_visible tx s.examQuestion (ofExam exam) ExamQuestion.subject k
  rw [List.isEmpty_iff.mp h] at hcount
  exact hcount.symm

theorem step_dropExam (hinv : Inv s) (hholds : (Point.dropExam exam term).Holds tx s)
    (h : dropExam tx s exam term = some (s', n)) : Lands tx s s' n := by
  have hlocked : Locked tx s exam term := hholds.knows
  unfold dropExam at h
  split at h
  · next hempty =>
    rcases found_cases h with ⟨rows, -, heq⟩ | ⟨row, rows, halter, heq⟩
    · cases heq
      exact lands_refuse hinv tx _
    · cases heq
      refine ⟨hinv.exam (fun v w hw => by cases hw) halter, (Rows.held_alter halter).1,
        fun k => ?_, fun k => ?_, hholds.only⟩
      · have hold : s.owedSubject tx k = s.remaining tx exam k := hholds.subject k
        have hzero : s.owedSubject tx k = 0 := by
          rw [hold, remaining_of_empty hempty]
        exact hzero
      · have hold : s.owedTerm tx k = 0 := hholds.term k
        have hdrop : ({ s with exam := rows } : Db).owedTerm tx k =
            s.owedTerm tx k + (0 - if row.term = k then 1 else 0) :=
          RefCount.owed_rows halter k
        have hrow : row.term = term := hlocked.term row (Rows.alter_cases halter).1
        rw [hdrop, hold, zero_add, zero_sub, hrow]
        rfl
  · cases h
    exact lands_startOver hinv tx (.deleteExam exam)

theorem step_releaseTerm {deleted : Exam} (hinv : Inv s)
    (hholds : (Point.releaseTerm exam term deleted).Holds tx s)
    (h : releaseTerm tx s term 1 (.commitDelete exam deleted) = some (s', n)) :
    Lands tx s s' n := by
  obtain ⟨old, rows, halter, rfl, rfl⟩ := releaseTerm_cases h
  refine ⟨hinv.term halter, hholds.knows, hholds.subject, fun k => ?_, hholds.only⟩
  have hold : ∀ k, s.owedTerm tx k = - if term = k then 1 else 0 := hholds.term
  have howed : s.owedTerm tx term ≤ -((1 : ℕ) : ℤ) := by
    rw [hold, if_pos rfl]
    exact le_refl _
  have hrelease : ({ s with term := rows } : Db).owedTerm tx k =
      s.owedTerm tx k + if term = k then ((1 : ℕ) : ℤ) else 0 :=
    RefCount.owed_release_due hinv.filed (inTerm_releases 1) (by decide) howed halter k
  rw [hrelease, hold, Nat.cast_one, neg_add_cancel]
  rfl

/-! ## The instance sweep -/

theorem step_lockInstance (hinv : Inv s) (hholds : (Point.lockInstance classCourse).Holds tx s)
    (h : lockInstance tx s classCourse = some (s', n)) : Lands tx s s' n := by
  have hidle : s.Idle tx := hholds.knows
  rcases found_cases h with ⟨rows, -, heq⟩ | ⟨row, rows, halter, heq⟩
  · cases heq
    exact ⟨.refl hinv tx, hidle⟩
  · cases heq
    exact ⟨hinv.classCourse halter, hidle.2.2.2.1, hholds.subject, hholds.term,
      hholds.only⟩

theorem step_listExams (hinv : Inv s) (hholds : (Point.listExams classCourse).Holds tx s) :
    Lands tx s s (.goto (.findSwept classCourse (listExams tx s classCourse))) := by
  have hidle : s.exam.Idle tx := hholds.knows
  refine ⟨.refl hinv tx, fun exam hexam => ?_, hholds.subject, hholds.term,
    fun id hheld row hrow => by cases hholds.only id hheld row hrow⟩
  obtain ⟨row, hseen, hrow⟩ := Rows.mem_visible_keys.mp hexam
  rw [Row.seen_eq_committed (hidle exam)] at hseen
  have hclassCourse : row.classCourse = classCourse := of_decide_eq_true hrow
  exact hclassCourse ▸ hinv.exams.known hseen

theorem step_findSwept (hinv : Inv s) (hholds : (Point.findSwept classCourse exams).Holds tx s) :
    Lands tx s s
      (.goto (.sweepQuestions classCourse exams (findSwept tx s exams) [])) := by
  refine ⟨.refl hinv tx, hholds.knows, fun k => ?_, hholds.term, hholds.only⟩
  simp only [Point.dueSubject, List.count_nil, Nat.cast_zero, neg_zero]
  exact hholds.subject k

theorem step_sweepQuestions {ids : List ExamQuestionId} {gone : List SubjectId} (hinv : Inv s)
    (hholds : (Point.sweepQuestions classCourse exams ids gone).Holds tx s)
    (h : sweepQuestions tx s classCourse exams gone ids = some (s', n)) : Lands tx s s' n := by
  have hold : ∀ k, s.owedSubject tx k = - (gone.count k : ℤ) := hholds.subject
  cases ids with
  | nil =>
      cases h
      refine ⟨.refl hinv tx, hholds.knows, fun k => ?_, hholds.term, hholds.only⟩
      simp only [Point.dueSubject, pending_tally]
      exact hold k
  | cons id ids =>
      simp only [sweepQuestions, Option.map_eq_some_iff] at h
      obtain ⟨⟨old, rows⟩, halter, hrest⟩ := h
      cases hrest
      refine ⟨hinv.examQuestion (fun v w hw => by cases hw) halter, hholds.knows, fun k => ?_,
        hholds.term, hholds.only.alter hinv (fun v w hw => by cases hw)
          (fun v _ hv => of_decide_eq_true hv) halter⟩
      have hdrop : ({ s with examQuestion := rows } : Db).owedSubject tx k =
          s.owedSubject tx k + (Row.amount (tagged.weight k) (old.bind fun _ => none) -
            Row.amount (tagged.weight k) old) :=
        RefCount.owed_rows halter k
      simp only [Point.dueSubject, List.count_append, Nat.cast_add]
      rw [hdrop, hold]
      cases old with
      | none => simp [Row.amount]
      | some row =>
          by_cases hk : row.subject = k
          · simp [Row.amount, tagged, hk]
            omega
          · simp [Row.amount, tagged, hk]

theorem step_refundSubjects {subs : List (SubjectId × ℕ)} (hinv : Inv s)
    (hholds : (Point.refundSubjects classCourse exams subs).Holds tx s)
    (h : refundSubjects tx s classCourse exams subs = some (s', n)) : Lands tx s s' n := by
  have hold : ∀ k, s.owedSubject tx k = - pending subs k := hholds.subject
  cases subs with
  | nil =>
      cases h
      exact ⟨.refl hinv tx, hholds.knows, hold, hholds.term, hholds.only⟩
  | cons sub subs =>
      obtain ⟨old, rows, halter, rfl, rfl⟩ := releaseSubject_cases h
      refine ⟨hinv.subject halter, hholds.knows, fun k => ?_, hholds.term, hholds.only⟩
      have howed : s.owedSubject tx sub.1 ≤ - (sub.2 : ℤ) := by
        have hnonneg := pending_nonneg subs sub.1
        rw [hold, pending_cons, if_pos rfl]
        omega
      have hrelease : ({ s with subject := rows } : Db).owedSubject tx k =
          s.owedSubject tx k + if sub.1 = k then (sub.2 : ℤ) else 0 :=
        RefCount.owed_release_due hinv.tagged (tagged_releases sub.2) (Int.natCast_nonneg _)
          howed halter k
      have hgoal : ({ s with subject := rows } : Db).owedSubject tx k = - pending subs k := by
        rw [hrelease, hold, pending_cons]
        omega
      exact hgoal

theorem step_findExams (hinv : Inv s) (hholds : (Point.findExams classCourse exams).Holds tx s) :
    Lands tx s s
      (.goto (.takeExams classCourse exams (listExams tx s classCourse) [])) := by
  have hlisted : Listed s classCourse exams := hholds.knows
  refine ⟨.refl hinv tx, ⟨hlisted, fun exam hexam => ?_⟩, hholds.subject, fun k => ?_,
    hholds.only⟩
  · cases hseen : (s.exam.row exam).seen tx with
    | some row =>
        have hclassCourse := (hlisted exam hexam).value row (Row.version_of_seen hseen)
        exact .inl (Rows.mem_visible_keys.mpr ⟨row, hseen, decide_eq_true hclassCourse⟩)
    | none =>
        by_cases hheld : (s.exam.row exam).Held tx
        · exact .inr (.inl hheld)
        · rw [Row.seen_eq_committed hheld] at hseen
          exact .inr (.inr hseen)
  · simp only [Point.dueTerm, List.count_nil, Nat.cast_zero, neg_zero]
    exact hholds.term k

theorem taken {old : Option Exam} (hknown : s.exam.Known Exam.classCourse classCourse exam)
    (halter : s.exam.alterWhere tx exam (ofInstance classCourse exam) (fun _ => none) =
      some (old, rows)) :
    (rows.row exam).Held tx ∨ (rows.row exam).committed = none := by
  cases old with
  | some => exact .inl (Rows.held_alter halter).1
  | none =>
      rcases Rows.alterWhere_cases halter with ⟨-, rfl, hmiss⟩ | ⟨v, hv, -⟩
      · by_cases hheld : (s.exam.row exam).Held tx
        · exact .inl hheld
        · right
          rw [← Row.seen_eq_committed hheld]
          cases hseen : (s.exam.row exam).seen tx with
          | none => rfl
          | some row =>
              have hclassCourse := hknown.value row (Row.version_of_seen hseen)
              have hnot := hmiss row hseen
              simp [ofInstance, hclassCourse] at hnot
      · cases hv

theorem Covered.alter (h : (s.exam.row exam).Held tx ∨ (s.exam.row exam).committed = none)
    {k : ExamId} {q : Exam → Bool} {f : Exam → Option Exam} {old : Option Exam}
    (halter : s.exam.alterWhere tx k q f = some (old, rows)) :
    (rows.row exam).Held tx ∨ (rows.row exam).committed = none := by
  rcases h with hheld | hnone
  · left
    rcases Rows.alterWhere_cases halter with ⟨-, rfl, -⟩ | ⟨v, -, -, -, -, rfl⟩
    · exact hheld
    · exact Rows.held_write_of_held hheld k _
  · right
    rw [Rows.committed_alter halter]
    exact hnone

theorem step_takeExams {ids : List ExamId} {gone : List TermId} (hinv : Inv s)
    (hholds : (Point.takeExams classCourse exams ids gone).Holds tx s)
    (h : takeExams tx s classCourse exams gone ids = some (s', n)) : Lands tx s s' n := by
  obtain ⟨hlisted, htaken⟩ := hholds.knows
  have hold : ∀ k, s.owedTerm tx k = - (gone.count k : ℤ) := hholds.term
  cases ids with
  | nil =>
      cases h
      refine ⟨.refl hinv tx, ⟨hlisted, fun exam hexam => ?_⟩, hholds.subject, fun k => ?_,
        hholds.only⟩
      · rcases htaken exam hexam with hmem | hdone
        · cases hmem
        · exact hdone
      · simp only [Point.dueTerm, pending_tally]
        exact hold k
  | cons id ids =>
      simp only [takeExams] at h
      split at h
      · rw [Option.map_eq_some_iff] at h
        obtain ⟨⟨old, rows⟩, halter, hrest⟩ := h
        cases hrest
        have hmoves := hinv.exam (fun v w hw => by cases hw) halter
        refine ⟨hmoves, ⟨fun exam hexam => hmoves.apart.exams.known (hlisted exam hexam),
          fun exam hexam => ?_⟩, hholds.subject, fun k => ?_, hholds.only⟩
        · rcases htaken exam hexam with hmem | hdone
          · rcases List.mem_cons.mp hmem with rfl | hrest
            · exact .inr (taken (hlisted exam hexam) halter)
            · exact .inl hrest
          · exact .inr (Covered.alter hdone halter)
        · have hdrop : ({ s with exam := rows } : Db).owedTerm tx k =
              s.owedTerm tx k + (Row.amount (inTerm.weight k) (old.bind fun _ => none) -
                Row.amount (inTerm.weight k) old) :=
            RefCount.owed_rows halter k
          simp only [Point.dueTerm, List.count_append, Nat.cast_add]
          rw [hdrop, hold]
          cases old with
          | none => simp [Row.amount]
          | some row =>
              by_cases hk : row.term = k
              · simp [Row.amount, inTerm, hk]
                omega
              · simp [Row.amount, inTerm, hk]
      · cases h
        exact lands_startOver hinv tx (.detach classCourse)

theorem step_refundTerms {terms : List (TermId × ℕ)} (hinv : Inv s)
    (hholds : (Point.refundTerms classCourse exams terms).Holds tx s)
    (h : refundTerms tx s classCourse exams terms = some (s', n)) : Lands tx s s' n := by
  have hold : ∀ k, s.owedTerm tx k = - pending terms k := hholds.term
  cases terms with
  | nil =>
      cases h
      exact ⟨.refl hinv tx, hholds.knows, hholds.subject, hold, hholds.only⟩
  | cons term terms =>
      obtain ⟨old, rows, halter, rfl, rfl⟩ := releaseTerm_cases h
      refine ⟨hinv.term halter, hholds.knows, hholds.subject, fun k => ?_, hholds.only⟩
      have howed : s.owedTerm tx term.1 ≤ - (term.2 : ℤ) := by
        have hnonneg := pending_nonneg terms term.1
        rw [hold, pending_cons, if_pos rfl]
        omega
      have hrelease : ({ s with term := rows } : Db).owedTerm tx k =
          s.owedTerm tx k + if term.1 = k then (term.2 : ℤ) else 0 :=
        RefCount.owed_release_due hinv.filed (inTerm_releases term.2) (Int.natCast_nonneg _)
          howed halter k
      have hgoal : ({ s with term := rows } : Db).owedTerm tx k = - pending terms k := by
        rw [hrelease, hold, pending_cons]
        omega
      exact hgoal

theorem step_dropInstance (hinv : Inv s)
    (hholds : (Point.dropInstance classCourse exams).Holds tx s)
    (h : dropInstance tx s classCourse exams = some (s', n)) : Lands tx s s' n := by
  have hknows : Listed s classCourse exams ∧ Covered tx s exams := hholds.knows
  unfold dropInstance at h
  split at h
  · rw [Option.map_eq_some_iff] at h
    obtain ⟨⟨old, rows⟩, halter, hrest⟩ := h
    cases hrest
    exact ⟨hinv.classCourse halter, ⟨⟨classCourse, hknows.1⟩, hknows.2⟩, hholds.subject,
      hholds.term, hholds.only⟩
  · cases h
    exact lands_startOver hinv tx (.detach classCourse)

theorem step_lockSubject (hinv : Inv s) (hholds : (Point.lockSubject subject).Holds tx s)
    (h : lockSubject tx s subject = some (s', n)) : Lands tx s s' n := by
  have hidle : s.Idle tx := hholds.knows
  rcases found_cases h with ⟨rows, -, heq⟩ | ⟨row, rows, halter, heq⟩
  · cases heq
    exact lands_refuse hinv tx _
  · split at heq
    · cases heq
      exact lands_refuse hinv tx _
    · next hquestions =>
      split at heq
      · cases heq
        exact lands_refuse hinv tx _
      · cases heq
        have hheld := Rows.held_alter halter
        refine ⟨hinv.subject halter, ⟨hheld.1, fun row' hrow' => ?_⟩, fun k => ?_,
          hholds.term, hholds.only⟩
        · dsimp only at hrow'
          rw [hheld.2] at hrow'
          cases hrow'
          have hcommitted : (s.subject.row subject).committed = some row := by
            rw [← Row.seen_eq_committed (hidle.1 subject), (Rows.alter_cases halter).1]
          have htotal := RefCount.total_reads (R := tagged) s.subject subject
          have hnonneg := RefCount.total_weight_nonneg (R := tagged) subject s.examQuestion
          rw [hinv.tagged subject, hcommitted] at htotal
          have hcounter : tagged.counter row = row.examQuestionCount := rfl
          simp only [Row.amount, Option.elim, hcounter] at htotal
          omega
        · have hlock : ({ s with subject := rows } : Db).owedSubject tx k =
              s.owedSubject tx k :=
            RefCount.owed_counters_same (f := fun row => row) (fun _ => rfl) halter k
          rw [hlock]
          exact hholds.subject k

theorem step_dropSubject {w : World} (hinv : Inv s)
    (hholds : (Point.dropSubject subject).Holds tx s)
    (h : next tx s (.dropSubject subject) w = some (s', n)) : Lands tx s s' n := by
  obtain ⟨-, hzero⟩ := hholds.knows
  simp only [next, Option.map_eq_some_iff] at h
  obtain ⟨⟨old, rows⟩, halter, hrest⟩ := h
  cases hrest
  refine ⟨hinv.subject halter, trivial, fun k => ?_, hholds.term, hholds.only⟩
  have hold : s.owedSubject tx k = 0 := hholds.subject k
  have hdrop : ({ s with subject := rows } : Db).owedSubject tx k = s.owedSubject tx k - _ :=
    RefCount.owed_counters halter k
  have hseen := (Rows.alter_cases halter).1
  have hgoal : ({ s with subject := rows } : Db).owedSubject tx k = 0 := by
    rw [hdrop, hold]
    cases old with
    | none => simp
    | some row =>
        have hrow : tagged.counter row = 0 := hzero row hseen
        simp [Row.amount, hrow]
  exact hgoal

theorem step_homework {count : ℤ} (hinv : Inv s)
    (hholds : (Point.homework subject count).Holds tx s)
    (h : homework tx s subject count = some (s', n)) : Lands tx s s' n := by
  unfold homework at h
  rw [Option.map_eq_some_iff] at h
  obtain ⟨⟨old, rows⟩, halter, hrest⟩ := h
  cases hrest
  refine ⟨hinv.subject halter, trivial, fun k => ?_, hholds.term, hholds.only⟩
  have hsame : ({ s with subject := rows } : Db).owedSubject tx k = s.owedSubject tx k :=
    RefCount.owed_counters_same (f := fun row : Subject => { row with homeworkCount := count })
      (fun _ => rfl) halter k
  rw [hsame]
  exact hholds.subject k

end Hezarfen.ExamRefs
