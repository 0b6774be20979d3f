import Hezarfen.ExamRows

/-!
# Redrafting an exam and changing its mode

A PATCH that turns a published exam back into a draft, or changes its mode, looks
for sittings and marks before its guarded UPDATE, in statements of their own.  The
UPDATE compares the columns of the exam and its mark counter, so it notices a mark
that lands after the counter was read; a sitting leaves no trace on the exam row.
What the gates found is still true at the UPDATE exactly when no sitting and no
first mark of the exam commits in between.
-/

namespace Hezarfen.Exams

open Interleaving

def Point.seats (s : Db) : Point → Option ExamId
  | .startInsert job =>
      if (s.appUser.lookup job.attempt.user).isSome ∧
          s.examAttempt.lookup job.attempt.id = none then some job.attempt.exam
      else none
  | _ => none

def Point.marks (s : Db) : Point → Option ExamId
  | .gradeTx result _ =>
      if s.examResult.lookup result.id = none then some result.exam else none
  | _ => none

def Point.trustsUnstarted : Point → Option ExamId
  | .patchRedraftSat job | .patchRedraftGraded job _ | .patchKindGate job
  | .patchTxRedraft job => if job.modeChanged then some job.current.id else none
  | .patchTxCount job | .patchTxUpdate job _ =>
      if job.modeChanged || job.redraft then some job.current.id else none
  | _ => none

def Point.trustsUnmarked : Point → Option ExamId
  | .patchTxCount job => if job.redraft then some job.current.id else none
  | _ => none

/-- Some call in flight is at a point that trusts `exam`. -/
def trusted (c : Config Db Point) (trusts : Point → Option ExamId) (exam : ExamId) : Bool :=
  Table.any c.calls fun _ q => trusts q = some exam

theorem not_trusted
    {c : Config Db Point} {trusts : Point → Option ExamId} {exam : ExamId}
    (hfree : trusted c trusts exam = false) {id : ℕ} {q : Point} (hq : c.calls.lookup id = some q) :
    trusts q ≠ some exam := by
  simpa using Table.any_eq_false_iff.mp hfree id q hq

def gatesRespected (c : Config Db Point) (p : Point) : Bool :=
  (p.seats c.shared).all (fun exam => !trusted c Point.trustsUnstarted exam) &&
    (p.marks c.shared).all (fun exam => !trusted c Point.trustsUnmarked exam)

def GatesKept (s s' : Db) : Prop :=
  ∀ exam row row', s.exam.lookup exam = some row → s'.exam.lookup exam = some row' →
    (row.exam.draft = false → row'.exam.draft = true →
      s.anyForExam exam = false ∧ s.anyGraded exam = false) ∧
    (row'.exam.mode ≠ row.exam.mode → s.anyForExam exam = false)

structure Trusts (id : ℕ) (p : Point) (s : Db) : Prop where
  unstarted : ∀ exam, p.trustsUnstarted = some exam → s.anyForExam exam = false
  unmarked : ∀ exam, p.trustsUnmarked = some exam → s.anyGraded exam = false
  pinned : ∀ job wasResults, p = .patchTxUpdate job wasResults → job.redraft = true →
    wasResults = 0

section Steps

variable {c : Config Db Point} {id id' : ℕ} {s s' : Db} {w : World} {p q : Point} {exam : ExamId}

theorem not_seats_of_trusted
    (hrespect : gatesRespected c p = true) (hq : c.calls.lookup id' = some q)
    (htrust : q.trustsUnstarted = some exam) : p.seats c.shared ≠ some exam := by
  intro hseats
  have hfree : trusted c Point.trustsUnstarted exam = false := by
    simpa [gatesRespected, hseats] using (Bool.and_eq_true_iff.mp hrespect).1
  exact not_trusted hfree hq htrust

theorem not_marks_of_trusted
    (hrespect : gatesRespected c p = true) (hq : c.calls.lookup id' = some q)
    (htrust : q.trustsUnmarked = some exam) : p.marks c.shared ≠ some exam := by
  intro hmarks
  have hfree : trusted c Point.trustsUnmarked exam = false := by
    simpa [gatesRespected, hmarks] using (Bool.and_eq_true_iff.mp hrespect).2
  exact not_trusted hfree hq htrust

theorem Wrote.unstarted_kept
    (h : Wrote id s w p s') (hs : Sound s) (hs' : Sound s') (hunsat : s.anyForExam exam = false)
    (hseats : p.seats s ≠ some exam) : s'.anyForExam exam = false := by
  rw [← Bool.not_eq_true]
  intro hsat
  obtain ⟨job, rfl, hexam, hrows⟩ := h.sat_new hs hs' hunsat hsat
  exact hseats (by rw [Point.seats, if_pos hrows, hexam])

theorem Wrote.unmarked_kept
    (h : Wrote id s w p s') (hs : Sound s) (hs' : Sound s') (hungraded : s.anyGraded exam = false)
    (hmarks : p.marks s ≠ some exam) : s'.anyGraded exam = false := by
  rw [← Bool.not_eq_true]
  intro hgraded
  obtain ⟨result, kind, rfl, hexam, hfirst⟩ := h.graded_new hs hs' hungraded hgraded
  exact hmarks (by rw [Point.marks, if_pos hfirst, hexam])

theorem trusts_nothing
    (hunstarted : q.trustsUnstarted = none) (hunmarked : q.trustsUnmarked = none)
    (hupdate : ∀ job wasResults, q ≠ .patchTxUpdate job wasResults) : Trusts id q s := by
  constructor
  · intro exam htrust
    rw [hunstarted] at htrust
    cases htrust
  · intro exam htrust
    rw [hunmarked] at htrust
    cases htrust
  · intro job wasResults heq
    exact absurd heq (hupdate job wasResults)

/-- Behind the mode gate and before the transaction a PATCH trusts what the mode gate read. -/
theorem trusts_modeGate
    {job : PatchJob} (hmode : job.modeChanged = true → s.anyForExam job.current.id = false)
    (hunstarted : q.trustsUnstarted = if job.modeChanged then some job.current.id else none)
    (hunmarked : q.trustsUnmarked = none)
    (hupdate : ∀ job wasResults, q ≠ .patchTxUpdate job wasResults) : Trusts id q s := by
  by_cases hchanged : job.modeChanged = true
  · constructor
    · intro exam htrust
      rw [hunstarted, if_pos hchanged] at htrust
      cases htrust
      exact hmode hchanged
    · intro exam htrust
      rw [hunmarked] at htrust
      cases htrust
    · intro job wasResults heq
      exact absurd heq (hupdate job wasResults)
  · rw [if_neg hchanged] at hunstarted
    exact trusts_nothing hunstarted hunmarked hupdate

theorem toTx_trusts
    {job : PatchJob} (hmode : job.modeChanged = true → s.anyForExam job.current.id = false) :
    Trusts id job.toTx s := by
  apply trusts_modeGate hmode
  · unfold PatchJob.toTx
    split
    · rfl
    · next hredraft => simp [Point.trustsUnstarted, hredraft]
  · unfold PatchJob.toTx
    split
    · rfl
    · next hredraft => simp [Point.trustsUnmarked, hredraft]
  · intro job' wasResults
    unfold PatchJob.toTx
    split <;> simp

theorem toKindGate_trusts
    {job : PatchJob} (hmode : job.modeChanged = true → s.anyForExam job.current.id = false) :
    Trusts id job.toKindGate s := by
  unfold PatchJob.toKindGate
  split
  · exact trusts_modeGate hmode rfl rfl (fun _ _ => by simp)
  · exact toTx_trusts hmode

theorem toRedraftGate_trusts
    {job : PatchJob} (hmode : job.modeChanged = true → s.anyForExam job.current.id = false) :
    Trusts id job.toRedraftGate s := by
  unfold PatchJob.toRedraftGate
  split
  · exact trusts_modeGate hmode rfl rfl (fun _ _ => by simp)
  · exact toKindGate_trusts hmode

theorem Trusts.mode
    {job : PatchJob} (hp : Trusts id p s)
    (htrusts : p.trustsUnstarted = if job.modeChanged then some job.current.id else none) :
    job.modeChanged = true → s.anyForExam job.current.id = false := by
  intro hchanged
  exact hp.unstarted _ (by rw [htrusts, if_pos hchanged])

/-- The counter a redraft reads behind its gate is zero. -/
theorem resultCount_of_unmarked
    (hs : Sound s) (hungraded : s.anyGraded exam = false) :
    ((s.exam.lookup exam).map ExamRow.resultCount).getD 0 = 0 := by
  cases hrow : s.exam.lookup exam with
  | none => rfl
  | some row =>
      have hcount := hs.counted exam row hrow
      rw [anyGraded_eq_false_iff.mp hungraded] at hcount
      simpa using hcount

/-- Past its gates a PATCH has just read what it trusts. -/
theorem next_trusts
    (h : next id s p w = some (s', .goto q)) (hs : Sound s) (hp : Trusts id p s) :
    Trusts id q s' := by
  cases next_arrives h with
  | @patchRead _ patch left current merged =>
      unfold PatchJob.toModeGate
      split
      · exact trusts_nothing rfl rfl (fun _ _ => by simp)
      · next hsame => exact toRedraftGate_trusts fun hchanged => absurd hchanged hsame
  | patchModeGate hsat =>
      obtain rfl : s' = s := (congrArg Prod.fst (Option.some.inj h)).symm
      exact toRedraftGate_trusts fun _ => hsat
  | patchRedraftSat =>
      obtain rfl : s' = s := (congrArg Prod.fst (Option.some.inj h)).symm
      exact trusts_modeGate (hp.mode rfl) rfl rfl (fun _ _ => by simp)
  | patchRedraftGraded =>
      obtain rfl : s' = s := (congrArg Prod.fst (Option.some.inj h)).symm
      exact toKindGate_trusts (hp.mode rfl)
  | patchKindGate =>
      obtain rfl : s' = s := (congrArg Prod.fst (Option.some.inj h)).symm
      exact toTx_trusts (hp.mode rfl)
  | patchTxRedraft hsat hgraded =>
      obtain rfl : s' = s := (congrArg Prod.fst (Option.some.inj h)).symm
      constructor
      · intro exam htrust
        obtain ⟨-, ⟨⟩⟩ := Option.ite_none_right_eq_some.mp htrust
        exact hsat
      · intro exam htrust
        obtain ⟨-, ⟨⟩⟩ := Option.ite_none_right_eq_some.mp htrust
        exact hgraded
      · rintro job wasResults ⟨⟩
  | patchTxCount =>
      obtain rfl : s' = s := (congrArg Prod.fst (Option.some.inj h)).symm
      constructor
      · exact hp.unstarted
      · rintro exam ⟨⟩
      · rintro job wasResults ⟨⟩ hredraft
        exact resultCount_of_unmarked hs (hp.unmarked _ (if_pos hredraft))
  | _ => exact trusts_nothing rfl rfl (fun _ _ => by simp)

theorem Wrote.trusts_kept
    (h : Wrote id c.shared w p s') (hs : Sound c.shared) (hs' : Sound s')
    (hrespect : gatesRespected c p = true) (hq : c.calls.lookup id' = some q)
    (htrusts : Trusts id' q c.shared) : Trusts id' q s' where
  unstarted := fun exam htrust =>
    h.unstarted_kept hs hs' (htrusts.unstarted exam htrust)
      (not_seats_of_trusted hrespect hq htrust)
  unmarked := fun exam htrust =>
    h.unmarked_kept hs hs' (htrusts.unmarked exam htrust) (not_marks_of_trusted hrespect hq htrust)
  pinned := htrusts.pinned

theorem Wrote.gatesKept
    (h : Wrote id s w p s') (hs : Sound s) (htrusts : Trusts id p s) : GatesKept s s' := by
  intro exam row row' hrow hrow'
  rcases h.exam_kept hs hrow hrow' with hsame
    | ⟨job, wasResults, rfl, rfl, hunchanged, hcount, hsaved⟩
  · rw [hsame]
    refine ⟨?_, fun hmode => absurd rfl hmode⟩
    intro hdraft hdraft'
    rw [hdraft] at hdraft'
    cases hdraft'
  · obtain ⟨-, -, -, hmode, -, -, -, -, -, -, hdraft⟩ := hunchanged
    rw [hsaved]
    constructor
    · intro hpublished hredrafted
      have hredraft : job.redraft = true := by
        have hbefore : job.current.draft = false := hdraft.symm.trans hpublished
        have hafter : job.merged.draft = true := hredrafted
        simp [PatchJob.redraft, hbefore, hafter]
      refine ⟨htrusts.unstarted _ ?_, ?_⟩
      · simp [Point.trustsUnstarted, hredraft]
      · rw [anyGraded_eq_false_iff]
        have hcounted := hs.counted _ row hrow
        rw [hcount, htrusts.pinned job wasResults rfl hredraft] at hcounted
        exact_mod_cast hcounted.symm
    · intro hchanged
      have hmerged : job.merged.mode ≠ row.exam.mode := hchanged
      have hmodeChanged : job.modeChanged = true := by
        simpa [PatchJob.modeChanged, ← hmode] using hmerged
      exact htrusts.unstarted _ (by simp [Point.trustsUnstarted, hmodeChanged])

end Steps

theorem gates_relyGuarantee :
    machine.RelyGuarantee (fun c m => InOrder c ∧ c.Admits gatesRespected m) (fun _ => True)
      Trusts where
  entry := by
    intro id request s _
    cases request <;> exact trusts_nothing rfl rfl (fun _ _ => by simp [machine, entry])
  own := by
    intro c id w p s n hc hguard hp hnext
    refine ⟨trivial, ?_⟩
    rintro q rfl
    exact next_trusts hnext hguard.1.shared (hc.calls id p hp)
  others := by
    intro c id w p s n hc hguard hp hnext id' q _ hq
    have hwrote := next_wrote hnext
    have hs' := hwrote.sound hguard.1.shared (hguard.1.calls id p hp)
    exact hwrote.trusts_kept hguard.1.shared hs' (hguard.2.check hp) hq (hc.calls id' q hq)
  rollback := by
    intro c id p hc hp
    refine ⟨trivial, ?_⟩
    intro id' q _ hq
    have htrusts := hc.calls id' q hq
    exact ⟨htrusts.unstarted, htrusts.unmarked, htrusts.pinned⟩

/-- In a run in which no sitting and no first mark lands behind the gates of a PATCH, no move
redrafts an exam that has a sitting or a mark, and none changes the mode of one that has a
sitting. -/
theorem redraft_gates_kept
    {ms : List (Move Request World)} {c c' : Config Db Point} {m : Move Request World}
    (hguard : machine.Guarded (Config.Admits gatesRespected) start ms)
    (hrun : machine.run start ms = some c) (hstep : machine.step c m = some c') :
    GatesKept c.shared c'.shared := by
  have hc := inOrder_run inOrder_start hrun
  have htrusts := gates_relyGuarantee.holds_run (Config.initial_holds Trusts trivial)
    ((inOrder_start.guarded ms).and hguard) hrun
  have hquiet : ∀ s : Db, s.exam = c.shared.exam → GatesKept c.shared s := by
    intro s hsame exam row row' hrow hrow'
    rw [hsame, hrow] at hrow'
    cases hrow'
    refine ⟨?_, fun hmode => absurd rfl hmode⟩
    intro hdraft hdraft'
    rw [hdraft] at hdraft'
    cases hdraft'
  rcases move_cases hstep with hsame | ⟨id, hreleased⟩ | ⟨id, w, p, rfl, hp, hwrote⟩
  · exact hquiet _ (congrArg Db.exam hsame)
  · exact hquiet _ (by rw [hreleased]; rfl)
  · exact hwrote.gatesKept hc.shared (htrusts.calls id p hp)

section Runs

open Sample

def redraftQuiz : List (Move Request World) :=
  opening ++ [patchQuiz { noPatch with draft := some true }, tick 4, tick 4, tick 4, tick 4, tick 4]

theorem redraft_gates_kept_redraftQuiz :
    ∃ c c', machine.run start redraftQuiz = some c ∧ machine.step c (tick 4) = some c' ∧
      ((c.shared.readExam quizId).map Exam.draft = some false ∧
        (c'.shared.readExam quizId).map Exam.draft = some true) ∧
      GatesKept c.shared c'.shared := by
  have hguard : machine.Guarded (Config.Admits gatesRespected) start redraftQuiz := by
    decide
  have hend : (machine.run start redraftQuiz).any (fun c =>
      ((c.shared.readExam quizId).map Exam.draft == some false) &&
        (machine.step c (tick 4)).any fun c' =>
          (c'.shared.readExam quizId).map Exam.draft == some true) = true := by
    decide
  obtain ⟨c, hrun, hc⟩ := (Option.any_eq_true _ _).mp hend
  rw [Bool.and_eq_true, beq_iff_eq] at hc
  obtain ⟨c', hstep, hc'⟩ := (Option.any_eq_true _ _).mp hc.2
  exact ⟨c, c', hrun, hstep, ⟨hc.1, by simpa using hc'⟩, redraft_gates_kept hguard hrun hstep⟩

def startBehindGates : List (Move Request World) :=
  opening ++ [patchQuiz { noPatch with draft := some true }, tick 4, tick 4, tick 4, tick 4,
    startQuiz, tick 5, tick 5, tick 5, tick 5, tick 4]

theorem redraft_overtaken :
    ¬ ∀ (ms : List (Move Request World)) (c c' : Config Db Point) (m : Move Request World),
      machine.run start ms = some c → machine.step c m = some c' →
        GatesKept c.shared c'.shared := by
  intro h
  have hend : (machine.run start startBehindGates).any (fun c =>
      c.shared.anyForExam quizId && ((c.shared.exam.lookup quizId).any fun row =>
        !row.exam.draft) && (machine.step c (tick 4)).any fun c' =>
          (c'.shared.exam.lookup quizId).any fun row => row.exam.draft) = true := by
    decide
  obtain ⟨c, hrun, hc⟩ := (Option.any_eq_true _ _).mp hend
  simp only [Bool.and_eq_true] at hc
  obtain ⟨⟨hsat, hpublished⟩, hredrafted⟩ := hc
  obtain ⟨c', hstep, hc'⟩ := (Option.any_eq_true _ _).mp hredrafted
  obtain ⟨row, hrow, hdraft⟩ := (Option.any_eq_true _ _).mp hpublished
  obtain ⟨row', hrow', hdraft'⟩ := (Option.any_eq_true _ _).mp hc'
  have hgates := (h _ c c' _ hrun hstep quizId row row' hrow hrow').1
  rw [(hgates (by simpa using hdraft) hdraft').1] at hsat
  cases hsat

end Runs

end Hezarfen.Exams
