import Hezarfen.ExamRows

/-!
# The questions of an exam freeze with its first sitting

A question write locks the exam row, checks that nobody has started the exam and
writes, all in one transaction; a sitting is created under the same lock.  So a
call past its check keeps the exam unstarted until it commits, and a started exam
keeps its paper for as long as it exists.
-/

namespace Hezarfen.Exams

open Interleaving

def ExamQuestion.fields (question : ExamQuestion) : QuestionFields :=
  ⟨question.subject, question.text, question.points, question.spec⟩

def Db.paper (s : Db) (exam : ExamId) (id : ExamQuestionId) : Option QuestionFields :=
  ((s.examQuestion.lookup id).filter fun row => row.exam = exam).map ExamQuestion.fields

def Unstarted (_ : ℕ) (p : Point) (s : Db) : Prop :=
  match p with
  | .questionWrite write => s.anyForExam write.exam = false
  | _ => True

section Steps

variable {id : ℕ} {s s' : Db} {w : World} {p : Point} {exam : ExamId}

theorem Wrote.sat_kept
    (h : Wrote id s w p s') (hsat : s.anyForExam exam = true) (hstands : Stands s'.exam exam) :
    s'.anyForExam exam = true := by
  obtain ⟨key, attempt, hattempt, rfl⟩ := anyForExam_iff.mp hsat
  obtain ⟨attempt', hattempt', hid, -, -⟩ := h.attempt_kept hattempt hstands
  exact anyForExam_iff.mpr ⟨key, attempt', hattempt', congrArg ExamAttemptId.exam hid⟩

theorem Wrote.unsat_kept
    (h : Wrote id s w p s') (hs : Sound s) (hp : Knows id p s)
    (hunsat : s.anyForExam exam = false) (hlock : s.locks.lookup exam ≠ some id) :
    s'.anyForExam exam = false := by
  rw [← Bool.not_eq_true]
  intro hsat
  obtain ⟨job, rfl, hexam, -⟩ := h.sat_new hs (h.sound hs hp) hunsat hsat
  rw [← hexam, hp.1] at hlock
  exact hlock hp.2

theorem Wrote.paper_kept
    (h : Wrote id s w p s') (hs : Sound s) (hp : Knows id p s) (hgate : Unstarted id p s)
    (hsat : s.anyForExam exam = true) (hstands : Stands s'.exam exam) :
    s'.paper exam = s.paper exam := by
  -- A write behind the gate is to another exam than the started one.
  have hother : ∀ write, p = .questionWrite write → write.exam ≠ exam := by
    rintro write rfl rfl
    have hunsat : s.anyForExam write.exam = false := hgate
    rw [hunsat] at hsat
    cases hsat
  have hcascade : ∀ q, Stands (s.cascade q).exam exam → (s.cascade q).paper exam =
      s.paper exam := by
    intro q hkept
    funext key
    unfold Db.paper
    rw [Db.cascade, lookup_deleteWhere]
    cases s.examQuestion.lookup key with
    | none => rfl
    | some row =>
        by_cases hexam : row.exam = exam
        · simp [Option.filter_some, hexam, not_doomed_of_stands hkept]
        · by_cases hdoomed : s.doomed q row.exam <;> simp [Option.filter_some, hexam, hdoomed]
  cases h with
  | deleted | swept => exact hcascade _ hstands
  | @questionInserted target _ _ _ hfresh =>
      have hne : target ≠ exam := hother _ rfl
      funext key
      unfold Db.paper
      rw [Db.unlock, lookup_insert_eq]
      split
      · next hkey =>
        have hnone : s.examQuestion.lookup key = none := by
          cases hrow : s.examQuestion.lookup key with
          | none => rfl
          | some =>
              subst hkey
              exact absurd (hs.questions _ _ hrow).2.1 hfresh
        rw [hnone, Option.filter_some]
        simp [newQuestion, hne]
      · rfl
  | @questionUpdated question row _ _ _ hrow =>
      have hne : question.exam ≠ exam := hother _ rfl
      rw [← hp.1.2 row hrow] at hne
      funext key
      unfold Db.paper
      rw [Db.unlock, lookup_insert_eq]
      split
      · next hkey =>
        rw [hkey, hrow, Option.filter_some, Option.filter_some]
        simp [ExamQuestion.withFields, hne]
      · rfl
  | @questionDeleted question row hrow =>
      have hne : question.exam ≠ exam := hother _ rfl
      rw [← hp.1.2 row hrow] at hne
      funext key
      unfold Db.paper
      rw [Db.unlock, lookup_erase_eq]
      split
      · next hkey =>
        rw [hkey, hrow, Option.filter_some]
        simp [hne]
      · rfl
  | relinked hrelink =>
      funext key
      unfold Db.paper
      rw [lookup_update]
      cases s.examQuestion.lookup key with
      | none => rfl
      | some row =>
          obtain ⟨fromBank, bankedAs, hlinks⟩ := hrelink key row
          rw [Option.map_some, hlinks, Option.filter_some, Option.filter_some]
          split <;> rfl
  | _ => rfl

theorem next_unstarted {q : Point} (h : next id s p w = some (s', .goto q)) :
    Unstarted id q s' := by
  have hgates (job : PatchJob) :=
    job.behind_gates (P := fun q => Unstarted id q s') trivial trivial trivial trivial trivial
  cases next_arrives h with
  | questionCheck hsat =>
      have hsame : s' = s := by simpa [next, questionCheck, hsat] using h.symm
      rw [hsame]
      exact hsat
  | patchRead => exact (hgates _).1
  | patchModeGate => exact (hgates _).2.1
  | patchRedraftGraded => exact (hgates _).2.2.1
  | patchKindGate => exact (hgates _).2.2.2
  | _ => trivial

end Steps

theorem freeze_relyGuarantee :
    machine.RelyGuarantee (fun c _ => InOrder c) (fun _ => True) Unstarted where
  entry := by
    intro id request s _
    cases request <;> trivial
  own := by
    intro c id w p s n _ _ hp hnext
    refine ⟨trivial, ?_⟩
    rintro q rfl
    exact next_unstarted hnext
  others := by
    intro c id w p s n hc hrows hp hnext id' q hne hq
    cases q with
    | questionWrite write =>
        have hheld : c.shared.locks.lookup write.exam = some id' := (hrows.calls id' _ hq).2
        apply (next_wrote hnext).unsat_kept hrows.shared (hrows.calls id p hp) (hc.calls id' _ hq)
        rw [hheld]
        exact fun h => hne (Option.some.inj h)
    | _ => trivial
  rollback := by
    intro c id p hc hp
    exact ⟨trivial, fun id' q _ hq => hc.calls id' q hq⟩

/-- Either the exam is gone for good, or it is started and has the paper `content`. -/
def Frozen (exam : ExamId) (content : ExamQuestionId → Option QuestionFields) (s : Db) : Prop :=
  exam.uuid ∈ s.minted ∧
    (Stands s.exam exam → s.anyForExam exam = true ∧ s.paper exam = content)

theorem Wrote.frozen
    {id : ℕ} {s s' : Db} {w : World} {p : Point} {exam : ExamId}
    {content : ExamQuestionId → Option QuestionFields} (h : Wrote id s w p s') (hs : Sound s)
    (hp : Knows id p s) (hgate : Unstarted id p s) (hfrozen : Frozen exam content s) :
    Frozen exam content s' := by
  refine ⟨h.minted_subset hfrozen.1, ?_⟩
  intro hstands
  obtain ⟨hsat, hpaper⟩ := hfrozen.2 (h.stands_before hfrozen.1 hstands)
  exact ⟨h.sat_kept hsat hstands, (h.paper_kept hs hp hgate hsat hstands).trans hpaper⟩

/-- What a move keeps once the exam has been started. -/
theorem frozen_step
    {c c' : Config Db Point} {m : Move Request World} {exam : ExamId}
    {content : ExamQuestionId → Option QuestionFields} (hc : InOrder c)
    (hgates : c.Holds (fun _ => True) Unstarted) (hfrozen : Frozen exam content c.shared)
    (hstep : machine.step c m = some c') : Frozen exam content c'.shared := by
  rcases move_cases hstep with hsame | ⟨id, hreleased⟩ | ⟨id, w, p, rfl, hp, hwrote⟩
  · rw [hsame]
    exact hfrozen
  · rw [hreleased]
    exact hfrozen
  · exact hwrote.frozen hc.shared (hc.calls id p hp) (hgates.calls id p hp) hfrozen

/-- Once an exam has a sitting, its questions and their content stay as they are for as long as
the exam exists. -/
theorem questions_frozen
    {ms ns : List (Move Request World)} {c c' : Config Db Point} {exam : ExamId}
    (hreach : machine.run start ms = some c) (hsat : c.shared.anyForExam exam = true)
    (hrun : machine.run c ns = some c') (hstands : Stands c'.shared.exam exam) :
    c'.shared.paper exam = c.shared.paper exam := by
  have hc := inOrder_run inOrder_start hreach
  have hgates : c.Holds (fun _ => True) Unstarted :=
    freeze_relyGuarantee.holds_run (Config.initial_holds Unstarted trivial)
      (inOrder_start.guarded ms) hreach
  obtain ⟨key, attempt, hattempt, hexam⟩ := anyForExam_iff.mp hsat
  obtain ⟨row, hrow⟩ := (hc.shared.attempts key attempt hattempt).2
  have hfrozen : Frozen exam (c.shared.paper exam) c.shared :=
    ⟨hexam ▸ (hc.shared.exams _ row hrow).2, fun _ => ⟨hsat, rfl⟩⟩
  have hend := Machine.run_induction
    (J := fun d => InOrder d ∧ d.Holds (fun _ => True) Unstarted ∧
      Frozen exam (c.shared.paper exam) d.shared)
    (fun {d d' m} hd _ hstep =>
      ⟨hd.1.step hstep, freeze_relyGuarantee.holds_step hd.2.1 hd.1 hstep,
        frozen_step hd.1 hd.2.1 hd.2.2 hstep⟩)
    ⟨hc, hgates, hfrozen⟩ (Machine.guarded_true c ns) hrun
  exact (hend.2.2.2 hstands).2

section Runs

open Sample

def sitQuiz : List (Move Request World) :=
  opening ++ [.start (.createQuestion quizId sum none), tick 4, tick 4, tick 4,
    startQuiz, tick 5, tick 5, tick 5, tick 5]

/-- An edit of the question is refused. -/
def editLate : List (Move Request World) :=
  [.start (.editQuestion quizId ⟨questionUuid⟩ (.update { sum with points := 20 })),
    tick 6, tick 6, tick 6]

theorem questions_frozen_editLate :
    ∃ c c', machine.run start sitQuiz = some c ∧ machine.run c editLate = some c' ∧
      c.shared.paper quizId ⟨questionUuid⟩ = some sum ∧
      c'.shared.paper quizId = c.shared.paper quizId := by
  have hend : (machine.run start sitQuiz).any (fun c =>
      c.shared.anyForExam quizId && (c.shared.paper quizId ⟨questionUuid⟩ == some sum) &&
        (machine.run c editLate).any fun c' => (c'.shared.exam.lookup quizId).isSome) = true := by
    decide
  obtain ⟨c, hrun, hc⟩ := (Option.any_eq_true _ _).mp hend
  simp only [Bool.and_eq_true, beq_iff_eq] at hc
  obtain ⟨c', hrun', hstands⟩ := (Option.any_eq_true _ _).mp hc.2
  exact ⟨c, c', hrun, hrun', hc.1.2,
    questions_frozen hrun hc.1.1 hrun' (Option.isSome_iff_exists.mp hstands)⟩

end Runs

end Hezarfen.Exams
