import Hezarfen.ExamCalls

/-!
# What a step of the exam subsystem can do

Two inversion lemmas over the step function.  `Wrote` lists what a step can have
written, with everything it checked in the same step, and `Arrives` lists where
a call can be after it.  Every invariant of the subsystem is a case analysis over
these two.
-/

namespace Hezarfen.Exams

open Interleaving

variable {wasResults : ℤ} {job : PatchJob} {exam : ExamId} {user : UserId} {attempt : ExamAttempt}
  {write : QuestionWrite} {reply : Reply}

/-- What the step of call `id` at a point can have made of the store `s`. -/
inductive Wrote (id : ℕ) (s : Db) (w : World) : Point → Db → Prop
  | quiet {p : Point} : Wrote id s w p s
  | user {user : UserId} (habsent : s.appUser.lookup user = none) :
      Wrote id s w (.createUser user)
        { s with appUser := s.appUser.insert user ⟨0, 0, 0⟩ }
  | subject {subject : SubjectId} :
      Wrote id s w (.createSubject subject) { s with subject := s.subject.insert subject 0 }
  | retired {name : String} {retired : Bool} {refs : Table String KindRef}
      (hset : (s.setRetired name retired).2 = { s with kindRef := refs }) :
      Wrote id s w (.setRetired name retired) { s with kindRef := refs }
  | minted {p : Point} (hfresh : w.uuid ∉ s.minted) :
      Wrote id s w p { s with minted := w.uuid :: s.minted }
  | created {exam : Exam} (hfresh : w.uuid ∉ s.minted) :
      Wrote id s w (.createExam exam)
        (Db.insertExam { s with minted := w.uuid :: s.minted } { exam with id := ⟨w.uuid⟩ })
  | patched {job : PatchJob} {wasResults : ℤ} {row : ExamRow}
      (hrow : s.exam.lookup job.current.id = some row)
      (hunchanged : row.exam.Unchanged job.current) (hcount : row.resultCount = wasResults)
      (hfree : s.lockFree job.current.id = true) :
      Wrote id s w (.patchTxUpdate job wasResults)
        { s with
          exam := s.exam.insert job.current.id
            { row with exam := row.exam.overwrite job.merged } }
  | deleted {exam : ExamId} (hfree : s.lockFree exam = true) :
      Wrote id s w (.deleteTx exam) (s.cascade fun key _ => key = exam)
  | swept {classCourse : ClassCourseId}
      (hfree : (s.anyLocked fun _ row => row.exam.classCourse = classCourse) = false) :
      Wrote id s w (.sweepInstance classCourse) (s.sweepInstance classCourse)
  | regraded {result before : ExamResult} {kind : String} {row : ExamRow}
      (hfree : s.lockFree result.exam = true)
      (hexam : s.exam.lookup result.exam = some row) (hdraft : row.exam.draft = false)
      (hbefore : s.examResult.lookup result.id = some before) :
      Wrote id s w (.gradeTx result kind)
        { s.moveHigh result.user (some before.mark) result.mark with
          examResult := s.examResult.insert result.id result }
  | graded {result : ExamResult} {kind : String} {row : ExamRow} {refs : Table String KindRef}
      (hfree : s.lockFree result.exam = true)
      (hexam : s.exam.lookup result.exam = some row) (hdraft : row.exam.draft = false)
      (hfirst : s.examResult.lookup result.id = none)
      (hclaim : claimKind s.kindRef kind = some refs) :
      Wrote id s w (.gradeTx result kind)
        { (s.claimMark result.exam row result.gradedBy refs).moveHigh result.user none
            result.mark with
          examResult := s.examResult.insert result.id result }
  | ungraded {exam : ExamId} {user : UserId} {kind : String}
      (hsome : s.marksOf exam user ≠ []) (hfree : s.lockFree exam = true) :
      Wrote id s w (.removeTx exam user kind) (s.dropMarks exam user kind)
  | startLocked {job : StartJob} {row : ExamRow} (hfree : s.lockFree job.exam.id = true)
      (hexam : s.exam.lookup job.exam.id = some row)
      (hguard : guardStart row.exam job.judgedAt = .ok ()) :
      Wrote id s w (.startGuard job) (s.lock job.exam.id id)
  | startRefused {job : StartJob} : Wrote id s w (.startInsert job) (s.unlock job.exam.id)
  | sat {job : StartJob} {user : AppUser}
      (huser : s.appUser.lookup job.attempt.user = some user)
      (hfirst : s.examAttempt.lookup job.attempt.id = none) :
      Wrote id s w (.startInsert job)
        (Db.unlock
          { s with
            appUser := s.appUser.insert job.attempt.user
              { user with
                examSatTotal :=
                  user.examSatTotal + if job.attempt.seq = 1 then 1 else 0 }
            examAttempt := s.examAttempt.insert job.attempt.id job.attempt }
          job.exam.id)
  | finished {origin : Origin} {attempt row : ExamAttempt}
      (hrow : s.examAttempt.lookup attempt.id = some row) :
      Wrote id s w (.finishUpdate origin attempt)
        { s with
          examAttempt := s.examAttempt.insert attempt.id
            { row with finishedAt := some w.now } }
  | answered {origin : Origin} {answer : ExamAnswer} {row : ExamRow} {question : ExamQuestion}
      (hfree : s.lockFree answer.exam = true)
      (hexam : s.exam.lookup answer.exam = some row)
      (hquestion : s.examQuestion.lookup answer.question = some question)
      (hsame : question.exam = answer.exam) :
      Wrote id s w (.saveTx origin answer)
        { s with
          examAnswer := s.examAnswer.insert answer.id { answer with updatedAt := w.now } }
  | questionLocked {write : QuestionWrite} {row : ExamRow}
      (hfree : s.lockFree write.exam = true) (hexam : s.exam.lookup write.exam = some row) :
      Wrote id s w (.questionLock write) (s.lock write.exam id)
  | questionFrozen {write : QuestionWrite} :
      Wrote id s w (.questionCheck write) (s.unlock write.exam)
  | questionRefused {write : QuestionWrite} {minted : List Uuid}
      (hminted : s.minted ⊆ minted) :
      Wrote id s w (.questionWrite write) (Db.unlock { s with minted := minted } write.exam)
  | questionInserted {exam : ExamId} {fields : QuestionFields}
      {fromBank : Option BankQuestionId} {subjects : Table SubjectId ℤ}
      (hfresh : w.uuid ∉ s.minted)
      (hclaim : claimSubject s.subject fields.subject = some subjects) :
      Wrote id s w (.questionWrite (.insert exam fields fromBank))
        (Db.unlock
          { s with
            minted := w.uuid :: s.minted
            subject := subjects
            examQuestion := s.examQuestion.insert ⟨w.uuid⟩
              (newQuestion w.uuid exam fields fromBank) }
          exam)
  | questionUpdated {question row : ExamQuestion} {fields : QuestionFields}
      {subjects : Table SubjectId ℤ}
      (hretag : retag s.subject question.subject fields.subject = some subjects)
      (hrow : s.examQuestion.lookup question.id = some row)
      (hsubject : row.subject = question.subject) :
      Wrote id s w (.questionWrite (.update question fields))
        (Db.unlock
          { s with
            subject := subjects
            examQuestion := s.examQuestion.insert question.id (row.withFields fields) }
          question.exam)
  | questionDeleted {question row : ExamQuestion}
      (hrow : s.examQuestion.lookup question.id = some row) :
      Wrote id s w (.questionWrite (.delete question))
        (Db.unlock
          { s with
            examQuestion := s.examQuestion.erase question.id
            examAnswer := Table.deleteWhere s.examAnswer fun _ answer =>
              answer.question = question.id
            subject := releaseSubject s.subject row.subject }
          question.exam)
  | relinked {p : Point} {relink : ExamQuestionId → ExamQuestion → ExamQuestion}
      (hrelink : ∀ key row, ∃ fromBank bankedAs,
        relink key row = { row with fromBank := fromBank, bankedAs := bankedAs }) :
      Wrote id s w p { s with examQuestion := Table.update s.examQuestion relink }
  | entered {attempt : ExamAttempt} :
      Wrote id s w (.roomEnter attempt) (s.enter attempt.id.key)
  | cleared {attempt row : ExamAttempt} (hrow : s.examAttempt.lookup attempt.id = some row) :
      Wrote id s w (.roomClear attempt)
        { s with
          examAttempt := s.examAttempt.insert attempt.id { row with leftAt := none } }
  | left {sitting : ExamAttemptId} {presence : Table String ℕ}
      (hleave : (s.leave sitting.key).2 = { s with presence := presence }) :
      Wrote id s w (.roomLeave sitting) { s with presence := presence }
  | stamped {sitting : ExamAttemptId} {exam : ExamRow} {row : ExamAttempt}
      (hexam : s.exam.lookup sitting.exam = some exam)
      (hrow : s.examAttempt.lookup sitting = some row)
      (hstamp : stampable exam.exam row w.now = true) :
      Wrote id s w (.roomStamp sitting)
        { s with
          examAttempt := s.examAttempt.insert sitting { row with leftAt := some w.now } }

section WroteCases

variable {id : ℕ} {s s' : Db} {w : World} {n : Reply}

theorem updateIfUnchanged_eq
    {current merged : Exam} (h : s.updateIfUnchanged current merged wasResults = some s') :
    ∃ row, s.exam.lookup current.id = some row ∧ row.exam.Unchanged current ∧
      row.resultCount = wasResults ∧
      s' = { s with
        exam := s.exam.insert current.id { row with exam := row.exam.overwrite merged } } := by
  unfold Db.updateIfUnchanged at h
  split at h
  · cases h
  · next row hrow =>
    split at h
    · next hguard =>
      cases h
      exact ⟨row, hrow, hguard.1, hguard.2, rfl⟩
    · cases h

theorem setRetired_snd (s : Db) (name : String) (retired : Bool) :
    ∃ refs, (s.setRetired name retired).2 = { s with kindRef := refs } := by
  unfold Db.setRetired
  split
  · exact ⟨_, rfl⟩
  · split
    · exact ⟨s.kindRef, rfl⟩
    · exact ⟨_, rfl⟩

theorem leave_snd (s : Db) (key : String) :
    ∃ presence, (s.leave key).2 = { s with presence := presence } := by
  unfold Db.leave
  split
  · exact ⟨s.presence, rfl⟩
  · split
    · exact ⟨_, rfl⟩
    · exact ⟨_, rfl⟩

theorem patchTxUpdate_wrote
    (h : patchTxUpdate s job wasResults = some (s', n)) :
    Wrote id s w (.patchTxUpdate job wasResults) s' := by
  unfold patchTxUpdate at h
  split at h
  · cases h
    exact .quiet
  · next hupdate =>
    obtain ⟨row, hrow, hunchanged, hcount, rfl⟩ := updateIfUnchanged_eq hupdate
    split at h
    · next hfree =>
      cases h
      exact .patched hrow hunchanged hcount hfree
    · cases h

theorem putResult_cases
    {result stored : ExamResult} (h : s.putResult result = .ok (stored, s')) :
    s' = { s with examResult := s.examResult.insert result.id result } := by
  unfold Db.putResult at h
  split at h
  · cases h
    rfl
  · cases h

theorem gradeTx_wrote
    {result : ExamResult} {kind : String} (hfree : s.lockFree result.exam = true) :
    Wrote id s w (.gradeTx result kind) (txWithRetry (gradeTx result kind) s).2 := by
  cases hr : txWithRetry (gradeTx result kind) s with
  | mk =>
      rcases txWithRetry_cases hr with ⟨stored, -, hok⟩ | ⟨-, -, -, rfl⟩
      · unfold gradeTx at hok
        split at hok
        · cases hok
        · next row hexam =>
          split at hok
          · cases hok
          · next hdraft =>
            have hpublished : row.exam.draft = false := by simpa using hdraft
            split at hok
            · next before hbefore =>
              obtain rfl := putResult_cases hok
              exact .regraded hfree hexam hpublished hbefore
            · next hfirst =>
              split at hok
              · cases hok
              · next refs hclaim =>
                obtain rfl := putResult_cases hok
                exact .graded hfree hexam hpublished hfirst hclaim
      · exact .quiet

theorem removeTx_wrote
    {kind : String} (hfree : (s.lockFree exam || (s.marksOf exam user).isEmpty) = true) :
    Wrote id s w (.removeTx exam user kind) (txWithRetry (removeTx exam user kind) s).2 := by
  unfold txWithRetry removeTx
  cases hmarks : s.marksOf exam user with
  | nil => exact .quiet
  | cons =>
      have hlock : s.lockFree exam = true := by simpa [hmarks] using hfree
      exact .ungraded (by simp [hmarks]) hlock

theorem removed_fst (r : Except AppError (Option ExamResult) × Db) : (removed r).1 = r.2 := by
  rcases r with ⟨_ | _ | _, _⟩ <;> rfl

theorem deleteTx_wrote
    (hfree : s.lockFree exam = true) :
    Wrote id s w (.deleteTx exam) (txWithRetry (deleteTx exam) s).2 := by
  unfold txWithRetry deleteTx
  cases s.exam.lookup exam with
  | none => exact .quiet
  | some => exact .deleted hfree

theorem startGuard_wrote
    {job : StartJob} (h : startGuard id s job = some (s', n)) :
    Wrote id s w (.startGuard job) s' := by
  unfold startGuard at h
  split at h
  · next hfree =>
    split at h
    · cases h
      exact .quiet
    · next exam hread =>
      obtain ⟨row, hrow, rfl⟩ := Option.map_eq_some_iff.mp hread
      split at h
      · cases h
        exact .quiet
      · next hguard =>
        cases h
        exact .startLocked hfree hrow hguard
  · cases h

theorem startInsert_wrote {job : StartJob} :
    Wrote id s w (.startInsert job) (startInsert s job).1 := by
  unfold startInsert Db.createIn
  dsimp only
  cases huser : s.appUser.lookup job.attempt.user with
  | none => exact .startRefused
  | some =>
      cases hfirst : s.examAttempt.lookup job.attempt.id with
      | none =>
          have hwrote : Wrote id s w (.startInsert job) _ := .sat huser hfirst
          simpa using hwrote
      | some => exact .startRefused

theorem updateAttempt_cases (s : Db) (id : ExamAttemptId) (f : ExamAttempt → ExamAttempt) :
    (s.updateAttempt id f).2 = s ∨
      ∃ row, s.examAttempt.lookup id = some row ∧
        (s.updateAttempt id f).2 =
          { s with examAttempt := s.examAttempt.insert id (f row) } := by
  unfold Db.updateAttempt
  cases hrow : s.examAttempt.lookup id with
  | none => exact .inl rfl
  | some row => exact .inr ⟨row, rfl, rfl⟩

theorem finishUpdate_wrote {origin : Origin} :
    Wrote id s w (.finishUpdate origin attempt) (finishUpdate s w origin attempt).1 := by
  rcases updateAttempt_cases s attempt.id (fun row => { row with finishedAt := some w.now })
    with hs | ⟨row, hrow, hs⟩
  · change Wrote id s w _ (s.updateAttempt _ _).2
    rw [hs]
    exact .quiet
  · change Wrote id s w _ (s.updateAttempt _ _).2
    rw [hs]
    exact .finished hrow

theorem roomClear_wrote :
    Wrote id s w (.roomClear attempt) (roomClear s attempt).1 := by
  rcases updateAttempt_cases s attempt.id (fun row => { row with leftAt := none })
    with hs | ⟨row, hrow, hs⟩
  · change Wrote id s w _ (s.updateAttempt _ _).2
    rw [hs]
    exact .quiet
  · change Wrote id s w _ (s.updateAttempt _ _).2
    rw [hs]
    exact .cleared hrow

theorem saveTx_wrote
    {origin : Origin} {answer : ExamAnswer} (h : saveTx s w origin answer = some (s', n)) :
    Wrote id s w (.saveTx origin answer) s' := by
  unfold saveTx at h
  split at h
  · next hfree =>
    cases h
    unfold txWithRetry saveInTx
    dsimp only
    cases hexam : s.exam.lookup answer.exam with
    | none => exact .quiet
    | some =>
        dsimp only
        split
        · next hkeys =>
          split at hkeys
          · next hfk =>
            cases hkeys
            obtain ⟨question, hquestion, hsame⟩ := (Option.any_eq_true _ _).mp hfk.1
            exact .answered hfree hexam hquestion (by simpa using hsame)
          · cases hkeys
        · exact .quiet
  · cases h

theorem questionLock_wrote
    (h : questionLock id s write = some (s', n)) :
    Wrote id s w (.questionLock write) s' := by
  unfold questionLock at h
  split at h
  · next hfree =>
    split at h
    · cases h
      exact .quiet
    · next row hexam =>
      cases h
      exact .questionLocked hfree hexam
  · cases h

theorem questionCheck_wrote :
    Wrote id s w (.questionCheck write) (questionCheck s write).1 := by
  unfold questionCheck
  split
  · exact .questionFrozen
  · exact .quiet

theorem insertQuestion_wrote
    {fields : QuestionFields} {fromBank : Option BankQuestionId} (hfresh : w.uuid ∉ s.minted) :
    Wrote id s w (.questionWrite (.insert exam fields fromBank))
      ((txWithRetry (insertQuestionTx (newQuestion w.uuid exam fields fromBank))
        { s with minted := w.uuid :: s.minted }).2.unlock exam) := by
  unfold txWithRetry insertQuestionTx
  cases hclaim : claimSubject s.subject fields.subject with
  | none =>
      simp only [newQuestion, hclaim]
      exact .questionRefused (List.subset_cons_self _ _)
  | some =>
      simp only [newQuestion, hclaim]
      exact .questionInserted hfresh hclaim

theorem updateQuestion_wrote
    {question : ExamQuestion} {fields : QuestionFields} :
    Wrote id s w (.questionWrite (.update question fields))
      ((txWithRetry (updateQuestionTx question fields) s).2.unlock question.exam) := by
  cases hr : txWithRetry (updateQuestionTx question fields) s with
  | mk =>
      rcases txWithRetry_cases hr with ⟨stored, -, hok⟩ | ⟨-, -, -, rfl⟩
      · unfold updateQuestionTx at hok
        split at hok
        · cases hok
        · next subjects hretag =>
          split at hok
          · cases hok
          · next row hrow =>
            split at hok
            · next hsubject =>
              cases hok
              exact .questionUpdated hretag hrow hsubject
            · cases hok
      · exact .questionRefused (List.Subset.refl _)

theorem deleteQuestion_wrote {question : ExamQuestion} :
    Wrote id s w (.questionWrite (.delete question))
      ((txWithRetry (deleteQuestionTx question) s).2.unlock question.exam) := by
  unfold txWithRetry deleteQuestionTx
  cases hrow : s.examQuestion.lookup question.id with
  | none => exact .questionRefused (List.Subset.refl _)
  | some => exact .questionDeleted hrow

theorem stamp_wrote {sitting : ExamAttemptId} :
    Wrote id s w (.roomStamp sitting) (s.stampLeftIfRunning sitting w.now) := by
  unfold Db.stampLeftIfRunning
  split
  · next exam row hexam hrow =>
    split
    · next hstamp => exact .stamped hexam hrow hstamp
    · exact .quiet
  · exact .quiet

theorem mint_cases {uuid : Uuid} (h : s.mint uuid = some s') :
    uuid ∉ s.minted ∧ s' = { s with minted := uuid :: s.minted } := by
  unfold Db.mint at h
  split at h
  · cases h
  · next hfresh =>
    cases h
    exact ⟨hfresh, rfl⟩

theorem createExam_wrote
    {exam : Exam} (h : createExam s w exam = some (s', n)) :
    Wrote id s w (.createExam exam) s' := by
  unfold createExam at h
  split at h
  · cases h
  · next hmint =>
    obtain ⟨hfresh, rfl⟩ := mint_cases hmint
    split at h
    · cases h
      exact .minted hfresh
    · cases h
      exact .created hfresh

theorem questionWrite_wrote
    (h : questionWrite s w write = some (s', n)) :
    Wrote id s w (.questionWrite write) s' := by
  unfold questionWrite at h
  cases write with
  | insert =>
      dsimp only at h
      split at h
      · cases h
      · next hmint =>
        obtain ⟨hfresh, rfl⟩ := mint_cases hmint
        cases h
        exact insertQuestion_wrote hfresh
  | update =>
      cases h
      exact updateQuestion_wrote
  | delete =>
      cases h
      exact deleteQuestion_wrote

theorem sweepInstance_wrote
    {classCourse : ClassCourseId} (h : sweepInstance s classCourse = some (s', n)) :
    Wrote id s w (.sweepInstance classCourse) s' := by
  unfold sweepInstance at h
  split at h
  · cases h
  · next hfree =>
    cases h
    exact .swept (by simpa using hfree)

/-- Everything a step can have written. -/
theorem next_wrote {p : Point} (h : next id s p w = some (s', n)) : Wrote id s w p s' := by
  cases p with
  | createUser user =>
      obtain ⟨rfl, -⟩ := Prod.mk.inj (Option.some.inj h)
      cases huser : s.appUser.lookup user with
      | none => exact .user huser
      | some => exact .quiet
  | createSubject subject =>
      obtain ⟨rfl, -⟩ := Prod.mk.inj (Option.some.inj h)
      cases s.subject.lookup subject with
      | none => exact .subject
      | some => exact .quiet
  | setRetired name retired =>
      obtain rfl : s' = _ := (congrArg Prod.fst (Option.some.inj h)).symm
      obtain ⟨refs, hset⟩ := setRetired_snd s name retired
      dsimp only [Exams.answered]
      rw [hset]
      exact .retired hset
  | createExam => exact createExam_wrote h
  | patchTxUpdate => exact patchTxUpdate_wrote h
  | deleteTx =>
      simp only [next] at h
      split at h
      · next hfree =>
        cases h
        exact deleteTx_wrote hfree
      · cases h
  | sweepInstance => exact sweepInstance_wrote h
  | gradeTx =>
      simp only [next] at h
      split at h
      · next hfree =>
        cases h
        exact gradeTx_wrote hfree
      · cases h
  | removeTx =>
      simp only [next] at h
      split at h
      · next hfree =>
        obtain rfl : s' = _ := (congrArg Prod.fst (Option.some.inj h)).symm
        rw [removed_fst]
        exact removeTx_wrote hfree
      · cases h
  | startGuard => exact startGuard_wrote h
  | startInsert =>
      obtain rfl : s' = _ := (congrArg Prod.fst (Option.some.inj h)).symm
      exact startInsert_wrote
  | finishUpdate =>
      obtain rfl : s' = _ := (congrArg Prod.fst (Option.some.inj h)).symm
      exact finishUpdate_wrote
  | saveTx => exact saveTx_wrote h
  | questionLock => exact questionLock_wrote h
  | questionCheck =>
      obtain rfl : s' = _ := (congrArg Prod.fst (Option.some.inj h)).symm
      exact questionCheck_wrote
  | questionWrite => exact questionWrite_wrote h
  | linkBankedAs question template =>
      cases h
      apply Wrote.relinked
      intro key row
      split
      · exact ⟨row.fromBank, some template, rfl⟩
      · exact ⟨row.fromBank, row.bankedAs, rfl⟩
  | deleteTemplate =>
      cases h
      apply Wrote.relinked
      intro key row
      exact ⟨_, _, rfl⟩
  | roomEnter =>
      cases h
      exact .entered
  | roomClear =>
      obtain rfl : s' = _ := (congrArg Prod.fst (Option.some.inj h)).symm
      exact roomClear_wrote
  | roomLeave sitting =>
      obtain rfl : s' = _ := (congrArg Prod.fst (Option.some.inj h)).symm
      obtain ⟨presence, hleave⟩ := leave_snd s sitting.key
      dsimp only [roomLeave]
      rw [hleave]
      exact .left hleave
  | roomStamp =>
      cases h
      exact stamp_wrote
  | _ =>
      cases h
      exact .quiet

end WroteCases

/-! ## Where a call goes -/

def Point.origin : Point → Option Origin
  | .finishExam origin _ _ | .finishAttempt origin _ _ | .finishUpdate origin _ => some origin
  | .saveExam origin _ | .saveAttempt origin _ _ | .saveQuestion origin _ _ => some origin
  | .saveTx origin _ => some origin
  | _ => none

def Point.room : Point → Option ExamAttemptId
  | .roomClear attempt => some attempt.id
  | .roomLoop sitting | .roomStateExam sitting | .roomStateAttempt sitting _ => some sitting
  | .roomLeave sitting => some sitting
  | p =>
      match p.origin with
      | some (.room sitting) => some sitting
      | _ => none

/-- Where a call that did not return can be after a step from the store `s`. -/
inductive Arrives (s : Db) (w : World) : Point → Point → Prop
  | patchRead {exam : ExamId} {patch : ExamPatch} {left : ℕ} {current merged : Exam}
      (hread : s.readExam exam = some current) (hmerge : patch.merge current = .ok merged) :
      Arrives s w (.patchRead exam patch left) (PatchJob.toModeGate ⟨patch, left, current, merged⟩)
  | patchModeGate {job : PatchJob} (hsat : s.anyForExam job.current.id = false) :
      Arrives s w (.patchModeGate job) job.toRedraftGate
  | patchRedraftSat {job : PatchJob} :
      Arrives s w (.patchRedraftSat job)
        (.patchRedraftGraded job (s.anyForExam job.current.id))
  | patchRedraftGraded {job : PatchJob} (hgraded : s.anyGraded job.current.id = false) :
      Arrives s w (.patchRedraftGraded job false) job.toKindGate
  | patchKindGate {job : PatchJob} {row : ExamRow}
      (hrow : s.exam.lookup job.current.id = some row) (hnone : row.resultCount ≤ 0) :
      Arrives s w (.patchKindGate job) job.toTx
  | patchTxRedraft {job : PatchJob} (hsat : s.anyForExam job.current.id = false)
      (hgraded : s.anyGraded job.current.id = false) :
      Arrives s w (.patchTxRedraft job) (.patchTxCount job)
  | patchTxCount {job : PatchJob} :
      Arrives s w (.patchTxCount job) (.patchTxUpdate job
        (((s.exam.lookup job.current.id).map ExamRow.resultCount).getD 0))
  | patchLost {job : PatchJob} {wasResults : ℤ} :
      Arrives s w (.patchTxUpdate job wasResults)
        (.patchRead job.current.id job.patch (job.left - 1))
  | deleteRead {exam target : ExamId} : Arrives s w (.deleteRead exam) (.deleteTx target)
  | gradeExam {args : GradeArgs} {exam : Exam} (hread : s.readExam args.exam = some exam) :
      Arrives s w (.gradeExam args) (.gradeSeq args exam)
  | gradeSeq {args : GradeArgs} {exam : Exam} {seq : ℤ} {mark : Mark} :
      Arrives s w (.gradeSeq args exam)
        (.gradeTx ⟨args.exam, args.target, seq, mark, args.grader⟩ exam.kind)
  | removeExam {exam : ExamId} {user : UserId} {row : Exam}
      (hread : s.readExam exam = some row) :
      Arrives s w (.removeExam exam user) (.removeTx exam user row.kind)
  | startExam {exam : ExamId} {user : UserId} {row : Exam}
      (hread : s.readExam exam = some row) :
      Arrives s w (.startExam exam user) (.startList row user)
  | startList {exam : Exam} {user : UserId} {seq : ℤ}
      (hnext : startNext exam w.now (s.listForUser exam.id user) = .ok seq) :
      Arrives s w (.startList exam user)
        (.startGuard ⟨exam, s.listForUser exam.id user, w.now,
          ⟨exam.id, user, seq, w.again, none, none⟩, w.thereafter⟩)
  | startGuard {job : StartJob} {row : ExamRow} (hfree : s.lockFree job.exam.id = true)
      (hexam : s.exam.lookup job.exam.id = some row)
      (hguard : guardStart row.exam job.judgedAt = .ok ()) :
      Arrives s w (.startGuard job) (.startInsert job)
  | startInsert {job : StartJob} : Arrives s w (.startInsert job) (.startDuplicate job)
  | finishExam {origin : Origin} {exam : ExamId} {user : UserId} {row : Exam}
      (hread : s.readExam exam = some row) :
      Arrives s w (.finishExam origin exam user) (.finishAttempt origin row user)
  | finishAttempt {origin : Origin} {exam : Exam} {user : UserId} {attempt : ExamAttempt}
      (hwritable : origin.writable s exam user w.now = .ok attempt) :
      Arrives s w (.finishAttempt origin exam user) (.finishUpdate origin attempt)
  | saveExam {origin : Origin} {args : SaveArgs} {exam : Exam}
      (hread : s.readExam args.exam = some exam) :
      Arrives s w (.saveExam origin args) (.saveAttempt origin args exam)
  | saveAttempt {origin : Origin} {args : SaveArgs} {exam : Exam} {attempt : ExamAttempt}
      (hwritable : origin.writable s exam args.user w.now = .ok attempt)
      (hrejoin : checkRejoin exam attempt = .ok ()) :
      Arrives s w (.saveAttempt origin args exam) (.saveQuestion origin args attempt)
  | saveQuestion {origin : Origin} {args : SaveArgs} {attempt : ExamAttempt}
      {question : ExamQuestion} {selected text : Option String}
      (hquestion : s.examQuestion.lookup args.question = some question)
      (hsame : question.exam = args.exam) :
      Arrives s w (.saveQuestion origin args attempt)
        (.saveTx origin
          ⟨question.exam, question.id, attempt.user, attempt.seq, selected, text, 0⟩)
  | roomFailed {p : Point} {sitting : ExamAttemptId} (hp : p.origin = some (.room sitting)) :
      Arrives s w p (.roomLoop sitting)
  | roomFinished {sitting : ExamAttemptId} {attempt : ExamAttempt} :
      Arrives s w (.finishUpdate (.room sitting) attempt) (.roomLeave sitting)
  | roomSaved {sitting : ExamAttemptId} {answer : ExamAnswer} :
      Arrives s w (.saveTx (.room sitting) answer) (.roomStateExam sitting)
  | questionRead {exam : ExamId} {question : ExamQuestionId} {edit : QuestionEdit}
      {row : ExamQuestion} {write : QuestionWrite}
      (hrow : s.examQuestion.lookup question = some row)
      (hwrite : write = .delete row ∨ ∃ fields, write = .update row fields) :
      Arrives s w (.questionRead exam question edit) (.questionLock write)
  | questionLock {write : QuestionWrite} :
      Arrives s w (.questionLock write) (.questionCheck write)
  | questionCheck {write : QuestionWrite}
      (hsat : s.anyForExam write.exam = false) :
      Arrives s w (.questionCheck write) (.questionWrite write)
  | roomExam {exam : ExamId} {user : UserId} {row : Exam}
      (hread : s.readExam exam = some row) :
      Arrives s w (.roomExam exam user) (.roomAttempt row user)
  | roomAttempt {exam : Exam} {user : UserId} {attempt : ExamAttempt}
      (hwritable : writableAttempt s exam user w.now = .ok attempt) :
      Arrives s w (.roomAttempt exam user) (.roomEnter attempt)
  | roomEnter {attempt : ExamAttempt} :
      Arrives s w (.roomEnter attempt) (.roomClear attempt)
  | roomClear {attempt : ExamAttempt} :
      Arrives s w (.roomClear attempt) (.roomLoop attempt.id)
  | roomTick {sitting : ExamAttemptId} :
      Arrives s w (.roomLoop sitting) (.roomStateExam sitting)
  | roomAnswer {sitting : ExamAttemptId} {question : ExamQuestionId}
      {selected text : Option String} :
      Arrives s w (.roomLoop sitting)
        (.saveExam (.room sitting) ⟨sitting.exam, sitting.user, question, selected, text⟩)
  | roomFinish {sitting : ExamAttemptId} :
      Arrives s w (.roomLoop sitting)
        (.finishExam (.room sitting) sitting.exam sitting.user)
  | roomPing {sitting : ExamAttemptId} : Arrives s w (.roomLoop sitting) (.roomLoop sitting)
  | roomGone {sitting : ExamAttemptId} : Arrives s w (.roomLoop sitting) (.roomLeave sitting)
  | roomStateExam {sitting : ExamAttemptId} {exam : Exam} :
      Arrives s w (.roomStateExam sitting) (.roomStateAttempt sitting exam)
  | roomOver {p : Point} {sitting : ExamAttemptId}
      (hp : p = .roomStateExam sitting ∨ ∃ exam, p = .roomStateAttempt sitting exam) :
      Arrives s w p (.roomLeave sitting)
  | roomStateAttempt {sitting : ExamAttemptId} {exam : Exam} :
      Arrives s w (.roomStateAttempt sitting exam) (.roomLoop sitting)
  | roomLeave {sitting : ExamAttemptId} (hlast : (s.leave sitting.key).1 = true) :
      Arrives s w (.roomLeave sitting) (.roomStamp sitting)

section ArrivesCases

variable {s : Db} {w : World} {p q : Point}

theorem gated_goto (h : gated w reply = .goto q) : reply = .goto q := by
  unfold gated at h
  split at h
  · cases h
  · exact h

theorem Origin.fail_goto
    {origin : Origin} {e : AppError} (hp : p.origin = some origin)
    (h : origin.fail e = .goto q) : Arrives s w p q := by
  cases origin with
  | rest => cases h
  | room =>
      cases h
      exact .roomFailed hp

theorem Origin.gated_goto
    {origin : Origin} (hp : p.origin = some origin) (h : origin.gated w reply = .goto q)
    (hreply : reply = .goto q → Arrives s w p q) :
    Arrives s w p q := by
  unfold Origin.gated at h
  split at h
  · exact Origin.fail_goto hp h
  · exact hreply h

theorem patchRead_arrives
    {patch : ExamPatch} {left : ℕ} (h : patchRead s w exam patch left = .goto q) :
    Arrives s w (.patchRead exam patch left) q := by
  unfold patchRead at h
  split at h
  · cases h
  · next current hread =>
    have hmerged := gated_goto h
    split at hmerged
    · cases hmerged
    · next merged hmerge =>
      cases hmerged
      exact .patchRead hread hmerge

theorem patchModeGate_arrives
    (h : patchModeGate s job = .goto q) :
    Arrives s w (.patchModeGate job) q := by
  unfold patchModeGate at h
  split at h
  · cases h
  · next hsat =>
    cases h
    exact .patchModeGate (by simpa using hsat)

theorem patchRedraftGraded_arrives
    {sat : Bool} (h : patchRedraftGraded s job sat = .goto q) :
    Arrives s w (.patchRedraftGraded job sat) q := by
  unfold patchRedraftGraded at h
  split at h
  · cases h
  · next hgates =>
    cases h
    simp only [Bool.or_eq_true, not_or, Bool.not_eq_true] at hgates
    obtain ⟨rfl, hgraded⟩ := hgates
    exact .patchRedraftGraded hgraded

theorem patchKindGate_arrives
    (h : patchKindGate s job = .goto q) :
    Arrives s w (.patchKindGate job) q := by
  unfold patchKindGate at h
  split at h
  · cases h
  · next row hrow =>
    split at h
    · cases h
    · next hnone =>
      cases h
      exact .patchKindGate hrow (Int.not_lt.mp hnone)

theorem patchTxRedraft_arrives
    (h : patchTxRedraft s job = .goto q) :
    Arrives s w (.patchTxRedraft job) q := by
  unfold patchTxRedraft at h
  split at h
  · cases h
  · next hgates =>
    cases h
    simp only [Bool.or_eq_true, not_or, Bool.not_eq_true] at hgates
    exact .patchTxRedraft hgates.1 hgates.2

theorem patchTxUpdate_arrives
    {s' : Db} (h : patchTxUpdate s job wasResults = some (s', .goto q)) :
    Arrives s w (.patchTxUpdate job wasResults) q := by
  unfold patchTxUpdate at h
  split at h
  · have hlost := congrArg Prod.snd (Option.some.inj h)
    dsimp only at hlost
    unfold patchLost at hlost
    split at hlost
    · cases hlost
    · cases hlost
      exact .patchLost
  · split at h <;> cases h

theorem startExam_arrives
    (h : startExam s w exam user = .goto q) :
    Arrives s w (.startExam exam user) q := by
  unfold startExam at h
  split at h
  · cases h
  · next row hread =>
    split at h
    · cases h
    · have hwindow := gated_goto h
      split at hwindow
      · cases hwindow
      · cases hwindow
        exact .startExam hread

theorem startNext_reply
    {exam : Exam} {now : Timestamp} {attempts : List ExamAttempt}
    (h : startNext exam now attempts = .error reply) : reply ≠ .goto q := by
  unfold startNext at h
  split at h
  · cases h
  · split at h
    · cases h
      simp
    · split at h
      · cases h
      · cases h
        simp

theorem startList_arrives
    {exam : Exam} (h : startList s w exam user = .goto q) :
    Arrives s w (.startList exam user) q := by
  unfold startList at h
  dsimp only at h
  split at h
  · next hreply => exact absurd h (startNext_reply hreply)
  · next seq hnext =>
    cases h
    exact .startList hnext

theorem startGuard_arrives
    {id : ℕ} {job : StartJob} {s' : Db} (h : startGuard id s job = some (s', .goto q)) :
    Arrives s w (.startGuard job) q := by
  unfold startGuard at h
  split at h
  · next hfree =>
    split at h
    · cases h
    · next exam hread =>
      obtain ⟨row, hrow, rfl⟩ := Option.map_eq_some_iff.mp hread
      split at h
      · cases h
      · next hguard =>
        cases h
        exact .startGuard hfree hrow hguard
  · cases h

theorem startInsert_arrives
    {job : StartJob} (h : (startInsert s job).2 = .goto q) :
    Arrives s w (.startInsert job) q := by
  unfold startInsert at h
  dsimp only at h
  unfold started at h
  split at h
  · cases h
  · cases h
    exact .startInsert
  · cases h

theorem startDuplicate_ne_goto {job : StartJob} : startDuplicate s w job ≠ .goto q := by
  unfold startDuplicate
  split
  · split <;> simp
  · simp

theorem finishAttempt_arrives
    {origin : Origin} {exam : Exam} (h : finishAttempt s w origin exam user = .goto q) :
    Arrives s w (.finishAttempt origin exam user) q := by
  unfold finishAttempt at h
  split at h
  · exact Origin.fail_goto rfl h
  · next attempt hwritable =>
    apply Origin.gated_goto rfl h
    intro hreply
    cases hreply
    exact .finishAttempt hwritable

theorem finishUpdate_arrives
    {origin : Origin} (h : (finishUpdate s w origin attempt).2 = .goto q) :
    Arrives s w (.finishUpdate origin attempt) q := by
  unfold finishUpdate at h
  dsimp only at h
  unfold finished at h
  split at h
  · exact Origin.fail_goto rfl h
  · cases origin with
    | rest => cases h
    | room =>
        cases h
        exact .roomFinished

theorem saveAttempt_arrives
    {origin : Origin} {args : SaveArgs} {exam : Exam}
    (h : saveAttempt s w origin args exam = .goto q) :
    Arrives s w (.saveAttempt origin args exam) q := by
  unfold saveAttempt at h
  split at h
  · exact Origin.fail_goto rfl h
  · next attempt hwritable =>
    apply Origin.gated_goto rfl h
    intro hreply
    split at hreply
    · exact Origin.fail_goto rfl hreply
    · next hrejoin =>
      cases hreply
      exact .saveAttempt hwritable hrejoin

theorem saveQuestion_arrives
    {origin : Origin} {args : SaveArgs} (h : saveQuestion s origin args attempt = .goto q) :
    Arrives s w (.saveQuestion origin args attempt) q := by
  unfold saveQuestion at h
  split at h
  · exact Origin.fail_goto rfl h
  · next question hfilter =>
    obtain ⟨hquestion, hsame⟩ := Option.filter_eq_some_iff.mp hfilter
    split at h
    · exact Origin.fail_goto rfl h
    · cases h
      exact .saveQuestion hquestion (by simpa using hsame)

theorem saveTx_arrives
    {origin : Origin} {answer : ExamAnswer} {s' : Db}
    (h : saveTx s w origin answer = some (s', .goto q)) :
    Arrives s w (.saveTx origin answer) q := by
  unfold saveTx at h
  split at h
  · have hsaved := congrArg Prod.snd (Option.some.inj h)
    dsimp only at hsaved
    unfold saved at hsaved
    split at hsaved
    · exact Origin.fail_goto rfl hsaved
    · cases origin with
      | rest => cases hsaved
      | room =>
          cases hsaved
          exact .roomSaved
  · cases h

theorem questionRead_arrives
    {question : ExamQuestionId} {edit : QuestionEdit}
    (h : questionRead s w exam question edit = .goto q) :
    Arrives s w (.questionRead exam question edit) q := by
  unfold questionRead at h
  split at h
  · cases h
  · next row hfilter =>
    obtain ⟨hrow, -⟩ := Option.filter_eq_some_iff.mp hfilter
    have hedit := gated_goto h
    split at hedit
    · cases hedit
      exact .questionRead hrow (.inr ⟨_, rfl⟩)
    · cases hedit
      exact .questionRead hrow (.inl rfl)

theorem roomLoop_arrives
    {sitting : ExamAttemptId} (h : roomLoop w sitting = .goto q) :
    Arrives s w (.roomLoop sitting) q := by
  unfold roomLoop at h
  split at h
  · cases h
    exact .roomTick
  · cases h
    exact .roomAnswer
  · cases h
    exact .roomFinish
  · cases h
    exact .roomPing
  · cases h
    exact .roomGone

/-- Everywhere a step can lead. -/
theorem next_arrives
    {id : ℕ} {s' : Db} (h : next id s p w = some (s', .goto q)) : Arrives s w p q := by
  cases p with
  | createUser =>
      have hreply := congrArg Prod.snd (Option.some.inj h)
      unfold createUser at hreply
      split at hreply <;> cases hreply
  | createSubject =>
      have hreply := congrArg Prod.snd (Option.some.inj h)
      unfold createSubject at hreply
      split at hreply <;> cases hreply
  | setRetired | linkBankedAs | deleteTemplate | roomStamp => cases h
  | createExam =>
      simp only [next, createExam] at h
      split at h
      · cases h
      · split at h <;> cases h
  | patchRead =>
      exact patchRead_arrives (congrArg Prod.snd (Option.some.inj h))
  | patchModeGate => exact patchModeGate_arrives (congrArg Prod.snd (Option.some.inj h))
  | patchRedraftSat =>
      cases h
      exact .patchRedraftSat
  | patchRedraftGraded =>
      exact patchRedraftGraded_arrives (congrArg Prod.snd (Option.some.inj h))
  | patchKindGate => exact patchKindGate_arrives (congrArg Prod.snd (Option.some.inj h))
  | patchTxRedraft => exact patchTxRedraft_arrives (congrArg Prod.snd (Option.some.inj h))
  | patchTxCount =>
      cases h
      exact .patchTxCount
  | patchTxUpdate => exact patchTxUpdate_arrives h
  | deleteRead =>
      have hreply := congrArg Prod.snd (Option.some.inj h)
      dsimp only [deleteRead] at hreply
      split at hreply
      · cases hreply
      · cases gated_goto hreply
        exact .deleteRead
  | deleteTx | gradeTx =>
      simp only [next, answered] at h
      split at h <;> cases h
  | sweepInstance =>
      simp only [next, sweepInstance] at h
      split at h <;> cases h
  | gradeExam =>
      have hreply := congrArg Prod.snd (Option.some.inj h)
      dsimp only [gradeExam] at hreply
      split at hreply
      · cases hreply
      · next exam hread =>
        have hdraft := gated_goto hreply
        split at hdraft
        · cases hdraft
        · cases hdraft
          exact .gradeExam hread
  | gradeSeq =>
      have hreply := congrArg Prod.snd (Option.some.inj h)
      dsimp only [gradeSeq] at hreply
      split at hreply
      · cases hreply
      · split at hreply
        · cases hreply
        · cases gated_goto hreply
          exact .gradeSeq
  | removeExam =>
      have hreply := congrArg Prod.snd (Option.some.inj h)
      dsimp only [removeExam] at hreply
      split at hreply
      · cases hreply
      · next row hread =>
        cases gated_goto hreply
        exact .removeExam hread
  | removeTx =>
      simp only [next, removed] at h
      split at h
      · have hreply := congrArg Prod.snd (Option.some.inj h)
        split at hreply <;> cases hreply
      · cases h
  | startExam => exact startExam_arrives (congrArg Prod.snd (Option.some.inj h))
  | startList => exact startList_arrives (congrArg Prod.snd (Option.some.inj h))
  | startGuard => exact startGuard_arrives h
  | startInsert => exact startInsert_arrives (congrArg Prod.snd (Option.some.inj h))
  | startDuplicate =>
      exact absurd (congrArg Prod.snd (Option.some.inj h)) startDuplicate_ne_goto
  | finishExam =>
      have hreply := congrArg Prod.snd (Option.some.inj h)
      dsimp only [finishExam] at hreply
      split at hreply
      · exact Origin.fail_goto rfl hreply
      · next row hread =>
        cases hreply
        exact .finishExam hread
  | finishAttempt =>
      exact finishAttempt_arrives (congrArg Prod.snd (Option.some.inj h))
  | finishUpdate =>
      exact finishUpdate_arrives (congrArg Prod.snd (Option.some.inj h))
  | saveExam =>
      have hreply := congrArg Prod.snd (Option.some.inj h)
      dsimp only [saveExam] at hreply
      split at hreply
      · exact Origin.fail_goto rfl hreply
      · next exam hread =>
        cases hreply
        exact .saveExam hread
  | saveAttempt =>
      exact saveAttempt_arrives (congrArg Prod.snd (Option.some.inj h))
  | saveQuestion =>
      exact saveQuestion_arrives (congrArg Prod.snd (Option.some.inj h))
  | saveTx => exact saveTx_arrives h
  | questionRead =>
      exact questionRead_arrives (congrArg Prod.snd (Option.some.inj h))
  | questionLock =>
      simp only [next, questionLock] at h
      split at h
      · split at h
        · cases h
        · cases h
          exact .questionLock
      · cases h
  | questionCheck =>
      have hreply := congrArg Prod.snd (Option.some.inj h)
      dsimp only [questionCheck] at hreply
      split at hreply
      · cases hreply
      · next hsat =>
        cases hreply
        exact .questionCheck (by simpa using hsat)
  | questionWrite =>
      simp only [next, questionWrite] at h
      split at h
      · split at h <;> cases h
      · cases h
      · cases h
  | roomExam =>
      have hreply := congrArg Prod.snd (Option.some.inj h)
      dsimp only [roomExam] at hreply
      split at hreply
      · cases hreply
      · next row hread =>
        split at hreply
        · cases hreply
        · cases hreply
          exact .roomExam hread
  | roomAttempt =>
      have hreply := congrArg Prod.snd (Option.some.inj h)
      dsimp only [roomAttempt] at hreply
      split at hreply
      · cases hreply
      · next attempt hwritable =>
        split at hreply
        · cases hreply
        · cases gated_goto hreply
          exact .roomAttempt hwritable
  | roomEnter =>
      cases h
      exact .roomEnter
  | roomClear =>
      cases h
      exact .roomClear
  | roomLoop => exact roomLoop_arrives (congrArg Prod.snd (Option.some.inj h))
  | roomStateExam =>
      have hreply := congrArg Prod.snd (Option.some.inj h)
      dsimp only [roomStateExam] at hreply
      split at hreply
      · cases hreply
        exact .roomOver (.inl rfl)
      · cases hreply
        exact .roomStateExam
  | roomStateAttempt sitting exam =>
      have hreply := congrArg Prod.snd (Option.some.inj h)
      dsimp only [roomStateAttempt] at hreply
      split at hreply
      · cases hreply
        exact .roomOver (.inr ⟨exam, rfl⟩)
      · split at hreply
        · cases hreply
          exact .roomStateAttempt
        · cases hreply
          exact .roomOver (.inr ⟨exam, rfl⟩)
  | roomLeave =>
      have hreply := congrArg Prod.snd (Option.some.inj h)
      dsimp only [roomLeave] at hreply
      split at hreply
      · next hlast =>
        cases hreply
        exact .roomLeave hlast
      · cases hreply

end ArrivesCases

theorem PatchJob.behind_gates
    {P : Point → Prop} (job : PatchJob) (hmode : P (.patchModeGate job))
    (hsat : P (.patchRedraftSat job)) (hkind : P (.patchKindGate job))
    (hredraft : P (.patchTxRedraft job)) (hcount : P (.patchTxCount job)) :
    P job.toModeGate ∧ P job.toRedraftGate ∧ P job.toKindGate ∧ P job.toTx := by
  unfold toModeGate toRedraftGate toKindGate toTx
  split_ifs <;> exact ⟨by assumption, by assumption, by assumption, by assumption⟩

theorem move_cases
    {c c' : Config Db Point} {m : Move Request World} (hstep : machine.step c m = some c') :
    c'.shared = c.shared ∨ (∃ id, c'.shared = c.shared.releaseLocks id) ∨
      ∃ id w p, m = .advance id w ∧ c.calls.lookup id = some p ∧
        Wrote id c.shared w p c'.shared := by
  obtain ⟨request, rfl, rfl⟩ | ⟨id, w, p, s, n, rfl, hp, hnext, rfl⟩ | ⟨id, p, rfl, hp, rfl⟩ :=
    Machine.step_cases hstep
  · exact .inl rfl
  · refine .inr (.inr ⟨id, w, p, rfl, hp, ?_⟩)
    have hwrote := next_wrote hnext
    cases n <;> exact hwrote
  · exact .inr (.inl ⟨id, rfl⟩)

end Hezarfen.Exams
