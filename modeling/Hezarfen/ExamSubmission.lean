import Hezarfen.ExamRows

/-!
# What is written into a sitting after its submission

A save and a submission look at the sitting before they write, in round trips of
their own, and neither write looks again.  So the submission does not stop the
calls that were already past that look; it stops every other one.
-/

namespace Hezarfen.Exams

open Interleaving

variable {exam : Exam} {user : UserId} {attempt : ExamAttempt} {now : Timestamp}

def Point.submits : Point → Option ExamAttemptId
  | .finishUpdate _ attempt => some attempt.id
  | _ => none

def ExamAnswer.sitting (answer : ExamAnswer) : ExamAttemptId :=
  ⟨answer.exam, answer.user, answer.seq⟩

def Point.saves : Point → Option ExamAttemptId
  | .saveQuestion _ _ attempt => some attempt.id
  | .saveTx _ answer => some answer.sitting
  | _ => none

def SameExam : Point → Prop
  | .saveAttempt _ args exam => exam.id = args.exam
  | .saveQuestion _ args attempt => attempt.exam = args.exam
  | _ => True

def Submitted (sitting : ExamAttemptId) (s : Db) : Prop :=
  sitting.exam.uuid ∈ s.minted ∧
    (Stands s.exam sitting.exam →
      ∃ row, s.examAttempt.lookup sitting = some row ∧ row.finishedAt.isSome)

section Steps

variable {id : ℕ} {s s' : Db} {w : World} {p q : Point} {sitting : ExamAttemptId}

theorem readLatestForUser_eq
    (hs : Sound s) {exam : ExamId} (hread : s.readLatestForUser exam user = some attempt) :
    s.examAttempt.lookup attempt.id = some attempt ∧ attempt.exam = exam := by
  have hmem : attempt ∈ s.listForUser exam user := List.mem_of_head? hread
  obtain ⟨hrow, hexam, -⟩ := (mem_listForUser hs).mp hmem
  exact ⟨hrow, hexam⟩

theorem writableAttempt_eq
    (hs : Sound s) (h : writableAttempt s exam user now = .ok attempt) :
    s.examAttempt.lookup attempt.id = some attempt ∧ attempt.exam = exam.id ∧
      attempt.status exam now = .inProgress := by
  unfold writableAttempt at h
  split at h
  · cases h
  · next read hread =>
    obtain ⟨hrow, hexam⟩ := readLatestForUser_eq hs hread
    split at h
    · cases h
    · cases h
    · next hstatus =>
      cases h
      exact ⟨hrow, hexam, hstatus⟩

theorem Origin.writable_eq
    (hs : Sound s) {origin : Origin} (h : origin.writable s exam user now = .ok attempt) :
    s.examAttempt.lookup attempt.id = some attempt ∧ attempt.exam = exam.id ∧
      attempt.status exam now = .inProgress := by
  unfold Origin.writable at h
  split at h
  · cases h
  · next read hread =>
    cases origin with
    | rest =>
        cases h
        exact writableAttempt_eq hs hread
    | room =>
        dsimp only at h
        split at h
        · cases h
          exact writableAttempt_eq hs hread
        · cases h

/-- No call passes its check on a submitted sitting. -/
theorem Submitted.not_writable
    (hsubmitted : Submitted sitting s) (hs : Sound s) {origin : Origin}
    (h : origin.writable s exam user now = .ok attempt) : attempt.id ≠ sitting := by
  rintro rfl
  obtain ⟨hrow, -, hstatus⟩ := Origin.writable_eq hs h
  obtain ⟨row, hstored, hfinished⟩ := hsubmitted.2 (hs.attempts _ attempt hrow).2
  rw [hrow] at hstored
  cases hstored
  simp [ExamAttempt.status, hfinished] at hstatus

theorem Wrote.submitted
    (h : Wrote id s w p s') (hs : Sound s) (hsubmitted : Submitted sitting s) :
    Submitted sitting s' := by
  refine ⟨h.minted_subset hsubmitted.1, ?_⟩
  intro hstands
  obtain ⟨row, hrow, hfinished⟩ := hsubmitted.2 (h.stands_before hsubmitted.1 hstands)
  have hexam : row.exam = sitting.exam := congrArg ExamAttemptId.exam (hs.attempts _ row hrow).1
  obtain ⟨row', hrow', -, -, hfinished'⟩ := h.attempt_kept hrow (hexam ▸ hstands)
  exact ⟨row', hrow', hfinished' hfinished⟩

theorem Wrote.finishedAt_kept
    (h : Wrote id s w p s') {row row' : ExamAttempt}
    (hrow : s.examAttempt.lookup sitting = some row)
    (hrow' : s'.examAttempt.lookup sitting = some row') :
    row'.finishedAt = row.finishedAt ∨ p.submits = some sitting := by
  have hsame : s'.examAttempt.lookup sitting = s.examAttempt.lookup sitting →
      row'.finishedAt = row.finishedAt ∨ p.submits = some sitting := by
    intro heq
    rw [heq, hrow] at hrow'
    cases hrow'
    exact .inl rfl
  have hput : ∀ {target stored leftAt}, s.examAttempt.lookup target = some stored →
      (s.examAttempt.insert target { stored with leftAt := leftAt }).lookup sitting = some row' →
      row'.finishedAt = row.finishedAt := by
    intro target stored leftAt hstored hlookup
    rw [lookup_insert_eq] at hlookup
    split at hlookup
    · next hkey =>
      subst hkey
      rw [hrow] at hstored
      cases hstored
      cases hlookup
      rfl
    · rw [hrow] at hlookup
      cases hlookup
      rfl
  cases h with
  | deleted =>
      rw [Db.cascade, lookup_deleteWhere, Option.filter_eq_some_iff] at hrow'
      exact .inl (congrArg ExamAttempt.finishedAt (Option.some.inj (hrow'.1.symm.trans hrow)))
  | swept =>
      rw [Db.sweepInstance, Db.cascade, lookup_deleteWhere,
        Option.filter_eq_some_iff] at hrow'
      exact .inl (congrArg ExamAttempt.finishedAt (Option.some.inj (hrow'.1.symm.trans hrow)))
  | @sat job _ _ hfirst =>
      apply hsame
      rw [Db.unlock, lookup_insert_eq, if_neg]
      rintro rfl
      rw [hfirst] at hrow
      cases hrow
  | finished =>
      rw [lookup_insert_eq] at hrow'
      split at hrow'
      · next hkey => exact .inr (congrArg some hkey.symm)
      · exact .inl (congrArg ExamAttempt.finishedAt (Option.some.inj (hrow'.symm.trans hrow)))
  | cleared hstored | stamped _ hstored => exact .inl (hput hstored hrow')
  | _ => exact hsame rfl

theorem Wrote.answer_new
    (h : Wrote id s w p s') {key : ExamAnswerId} {answer' : ExamAnswer}
    (hanswer' : s'.examAnswer.lookup key = some answer') :
    s.examAnswer.lookup key = some answer' ∨ p.saves = some answer'.sitting := by
  cases h with
  | deleted =>
      rw [Db.cascade, lookup_deleteWhere, Option.filter_eq_some_iff] at hanswer'
      exact .inl hanswer'.1
  | swept =>
      rw [Db.sweepInstance, Db.cascade, lookup_deleteWhere,
        Option.filter_eq_some_iff] at hanswer'
      exact .inl hanswer'.1
  | answered =>
      obtain ⟨-, rfl⟩ | ⟨-, hanswer'⟩ := insert_cases hanswer'
      · exact .inr rfl
      · exact .inl hanswer'
  | questionDeleted =>
      rw [Db.unlock, lookup_deleteWhere, Option.filter_eq_some_iff] at hanswer'
      exact .inl hanswer'.1
  | _ => exact .inl hanswer'

theorem next_sameExam
    (h : next id s p w = some (s', .goto q)) (hs : Sound s) (hp : SameExam p) : SameExam q := by
  have hgates (job : PatchJob) :=
    job.behind_gates (P := SameExam) trivial trivial trivial trivial trivial
  cases next_arrives h with
  | saveExam hread =>
      obtain ⟨row, hrow, rfl⟩ := Option.map_eq_some_iff.mp hread
      exact (hs.exams _ row hrow).1
  | saveAttempt hwritable => exact (Origin.writable_eq hs hwritable).2.1.trans hp
  | patchRead => exact (hgates _).1
  | patchModeGate => exact (hgates _).2.1
  | patchRedraftGraded => exact (hgates _).2.2.1
  | patchKindGate => exact (hgates _).2.2.2
  | _ => trivial

theorem next_submits
    (h : next id s p w = some (s', .goto q)) (hs : Sound s) (hsubmitted : Submitted sitting s) :
    q.submits ≠ some sitting := by
  have hgates (job : PatchJob) :=
    job.behind_gates (P := fun q => q.submits ≠ some sitting) (by simp [Point.submits])
      (by simp [Point.submits]) (by simp [Point.submits]) (by simp [Point.submits])
      (by simp [Point.submits])
  cases next_arrives h with
  | finishAttempt hwritable =>
      intro hsubmits
      exact hsubmitted.not_writable hs hwritable (Option.some.inj hsubmits)
  | patchRead => exact (hgates _).1
  | patchModeGate => exact (hgates _).2.1
  | patchRedraftGraded => exact (hgates _).2.2.1
  | patchKindGate => exact (hgates _).2.2.2
  | _ => simp [Point.submits]

theorem next_saves
    (h : next id s p w = some (s', .goto q)) (hs : Sound s) (hp : SameExam p)
    (hsubmitted : Submitted sitting s) (hsaves : q.saves = some sitting) :
    p.saves = some sitting := by
  have hgates (job : PatchJob) :=
    job.behind_gates (P := fun q => q.saves ≠ some sitting) (by simp [Point.saves])
      (by simp [Point.saves]) (by simp [Point.saves]) (by simp [Point.saves])
      (by simp [Point.saves])
  cases next_arrives h with
  | saveAttempt hwritable =>
      exact absurd (Option.some.inj hsaves) (hsubmitted.not_writable hs hwritable)
  | saveQuestion hquestion hsame =>
      -- The sitting a save writes into is the one it read.
      rw [← hsaves]
      simp only [Point.saves, ExamAnswer.sitting, ExamAttempt.id]
      rw [hsame, show _ = _ from hp]
  | patchRead => exact absurd hsaves (hgates _).1
  | patchModeGate => exact absurd hsaves (hgates _).2.1
  | patchRedraftGraded => exact absurd hsaves (hgates _).2.2.1
  | patchKindGate => exact absurd hsaves (hgates _).2.2.2
  | _ => cases hsaves

end Steps

theorem saves_relyGuarantee :
    machine.RelyGuarantee (fun c _ => InOrder c) (fun _ => True) (fun _ p _ => SameExam p) :=
  .of_points (fun request => by cases request <;> trivial)
    fun horder hnext hp => next_sameExam hnext horder.shared hp

/-- Since the configuration `c₀` the sitting is submitted, and whoever is about to write into it
was about to already then. -/
structure Sealed (sitting : ExamAttemptId) (c₀ c : Config Db Point) : Prop where
  order : InOrder c
  same : c.Holds (fun _ => True) (fun _ p _ => SameExam p)
  submitted : Submitted sitting c.shared
  submits : ∀ id q, c.calls.lookup id = some q → q.submits = some sitting →
    ∃ q₀, c₀.calls.lookup id = some q₀ ∧ q₀.submits = some sitting
  saves : ∀ id q, c.calls.lookup id = some q → q.saves = some sitting →
    ∃ q₀, c₀.calls.lookup id = some q₀ ∧ q₀.saves = some sitting

theorem entry_idle (request : Request) :
    (entry request).submits = none ∧ (entry request).saves = none := by
  cases request <;> exact ⟨rfl, rfl⟩

theorem Sealed.step
    {sitting : ExamAttemptId} {c₀ c c' : Config Db Point} {m : Move Request World}
    (hc : Sealed sitting c₀ c) (hstep : machine.step c m = some c') : Sealed sitting c₀ c' := by
  constructor
  · exact hc.order.step hstep
  · exact saves_relyGuarantee.holds_step hc.same hc.order hstep
  · rcases move_cases hstep with hsame | ⟨id, hreleased⟩ | ⟨id, w, p, rfl, hp, hwrote⟩
    · rw [hsame]
      exact hc.submitted
    · rw [hreleased]
      exact hc.submitted
    · exact hwrote.submitted hc.order.shared hc.submitted
  · intro id q hq hsubmits
    rcases Machine.step_calls hstep hq with hold | ⟨request, rfl⟩ | ⟨w, p, rfl, hp, hnext⟩
    · exact hc.submits id q hold hsubmits
    · rw [show (machine.entry request).submits = none from (entry_idle request).1] at hsubmits
      cases hsubmits
    · exact absurd hsubmits (next_submits hnext hc.order.shared hc.submitted)
  · intro id q hq hsaves
    rcases Machine.step_calls hstep hq with hold | ⟨request, rfl⟩ | ⟨w, p, rfl, hp, hnext⟩
    · exact hc.saves id q hold hsaves
    · rw [show (machine.entry request).saves = none from (entry_idle request).2] at hsaves
      cases hsaves
    · exact hc.saves id p hp
        (next_saves hnext hc.order.shared (hc.same.calls id p hp) hc.submitted hsaves)

/-- What a move after the submission may do to the sitting: it never clears the submission time,
and it writes the time or an answer only if its call was past its check in `c₀`. -/
structure SealKept (sitting : ExamAttemptId) (c₀ : Config Db Point) (m : Move Request World)
    (s s' : Db) : Prop where
  finished : ∀ row', s'.examAttempt.lookup sitting = some row' → row'.finishedAt.isSome
  resubmitted : ∀ row row', s.examAttempt.lookup sitting = some row →
    s'.examAttempt.lookup sitting = some row' → row'.finishedAt ≠ row.finishedAt →
    ∃ id w q₀, m = .advance id w ∧ c₀.calls.lookup id = some q₀ ∧ q₀.submits = some sitting
  answered : ∀ key answer, s'.examAnswer.lookup key = some answer → answer.sitting = sitting →
    s.examAnswer.lookup key ≠ some answer →
    ∃ id w q₀, m = .advance id w ∧ c₀.calls.lookup id = some q₀ ∧ q₀.saves = some sitting

theorem Sealed.sealKept
    {sitting : ExamAttemptId} {c₀ c c' : Config Db Point} {m : Move Request World}
    (hc : Sealed sitting c₀ c) (hstep : machine.step c m = some c') :
    SealKept sitting c₀ m c.shared c'.shared := by
  have hc' := hc.step hstep
  constructor
  · intro row' hrow'
    obtain ⟨hid, howned⟩ := hc'.order.shared.attempts sitting row' hrow'
    have hexam : row'.exam = sitting.exam := congrArg ExamAttemptId.exam hid
    obtain ⟨row, hrow, hfinished⟩ := hc'.submitted.2 (hexam ▸ howned)
    rw [hrow'] at hrow
    cases hrow
    exact hfinished
  · intro row row' hrow hrow' hmoved
    rcases move_cases hstep with hsame | ⟨id, hreleased⟩ | ⟨id, w, p, rfl, hp, hwrote⟩
    · rw [hsame, hrow] at hrow'
      cases hrow'
      exact absurd rfl hmoved
    · rw [hreleased] at hrow'
      obtain rfl : row = row' := Option.some.inj (hrow.symm.trans hrow')
      exact absurd rfl hmoved
    · rcases hwrote.finishedAt_kept hrow hrow' with hkept | hsubmits
      · exact absurd hkept hmoved
      · obtain ⟨q₀, hq₀, hsubmits₀⟩ := hc.submits id p hp hsubmits
        exact ⟨id, w, q₀, rfl, hq₀, hsubmits₀⟩
  · intro key answer hanswer hsitting hnew
    rcases move_cases hstep with hsame | ⟨id, hreleased⟩ | ⟨id, w, p, rfl, hp, hwrote⟩
    · rw [hsame] at hanswer
      exact absurd hanswer hnew
    · rw [hreleased] at hanswer
      exact absurd hanswer hnew
    · rcases hwrote.answer_new hanswer with hold | hsaves
      · exact absurd hold hnew
      · rw [hsitting] at hsaves
        obtain ⟨q₀, hq₀, hsaves₀⟩ := hc.saves id p hp hsaves
        exact ⟨id, w, q₀, rfl, hq₀, hsaves₀⟩

/-- Once a sitting is submitted, its submission time is never cleared, and every later write of
that time or of an answer of the sitting comes from a call that was past its check of the sitting
when it was submitted. -/
theorem submission_seals
    {ms ns : List (Move Request World)} {c d d' : Config Db Point} {m : Move Request World}
    {sitting : ExamAttemptId} {row : ExamAttempt} (hreach : machine.run start ms = some c)
    (hrow : c.shared.examAttempt.lookup sitting = some row) (hfinished : row.finishedAt.isSome)
    (hrun : machine.run c ns = some d) (hstep : machine.step d m = some d') :
    SealKept sitting c m d.shared d'.shared := by
  have hc := inOrder_run inOrder_start hreach
  have hsame := saves_relyGuarantee.holds_run (Config.initial_holds _ trivial)
    (inOrder_start.guarded ms) hreach
  obtain ⟨hid, exam, hexam⟩ := hc.shared.attempts sitting row hrow
  have hminted := (hc.shared.exams _ exam hexam).2
  rw [show row.exam = sitting.exam from congrArg ExamAttemptId.exam hid] at hminted
  have hsealed : Sealed sitting c c :=
    ⟨hc, hsame, ⟨hminted, fun _ => ⟨row, hrow, hfinished⟩⟩,
      fun _ q hq hsubmits => ⟨q, hq, hsubmits⟩, fun _ q hq hsaves => ⟨q, hq, hsaves⟩⟩
  have hend := Machine.run_induction (J := Sealed sitting c) (fun hd _ hstep => hd.step hstep)
    hsealed (Machine.guarded_true c ns) hrun
  exact hend.sealKept hstep

section Runs

open Sample

def firstSitting : ExamAttemptId := ⟨quizId, student, 1⟩

def submitBehindSave : List (Move Request World) :=
  opening ++ [.start (.createQuestion quizId sum none), tick 4, tick 4, tick 4,
    startQuiz, tick 5, tick 5, tick 5, tick 5,
    .start (.saveAnswer ⟨quizId, student, ⟨questionUuid⟩, none, some "4"⟩), tick 6, tick 6, tick 6,
    .start (.finishAttempt quizId student), tick 7, tick 7, tick 7]

/-- The save lands in the submitted sitting. -/
theorem submitBehindSave_run :
    ∃ c c' row answer, machine.run start submitBehindSave = some c ∧
      machine.step c (tick 6) = some c' ∧
      c.shared.examAttempt.lookup firstSitting = some row ∧ row.finishedAt.isSome ∧
      c'.shared.examAnswer.lookup ⟨⟨questionUuid⟩, student, 1⟩ = some answer ∧
      answer.sitting = firstSitting ∧
      c.shared.examAnswer.lookup ⟨⟨questionUuid⟩, student, 1⟩ ≠ some answer := by
  have hend : (machine.run start submitBehindSave).any (fun c =>
      (c.shared.examAttempt.lookup firstSitting).any (fun row => row.finishedAt.isSome) &&
        (machine.step c (tick 6)).any fun c' =>
          (c'.shared.examAnswer.lookup ⟨⟨questionUuid⟩, student, 1⟩).any fun answer =>
            answer.sitting = firstSitting ∧
              c.shared.examAnswer.lookup ⟨⟨questionUuid⟩, student, 1⟩ ≠ some answer) = true := by
    decide
  obtain ⟨c, hrun, hc⟩ := (Option.any_eq_true _ _).mp hend
  rw [Bool.and_eq_true] at hc
  obtain ⟨row, hrow, hfinished⟩ := (Option.any_eq_true _ _).mp hc.1
  obtain ⟨c', hstep, hc'⟩ := (Option.any_eq_true _ _).mp hc.2
  obtain ⟨answer, hanswer, hnew⟩ := (Option.any_eq_true _ _).mp hc'
  have hlate := of_decide_eq_true hnew
  exact ⟨c, c', row, answer, hrun, hstep, hrow, hfinished, hanswer, hlate.1, hlate.2⟩

theorem submission_seals_submitBehindSave :
    ∃ c c' id w q₀, machine.run start submitBehindSave = some c ∧
      machine.step c (tick 6) = some c' ∧ tick 6 = .advance id w ∧
      c.calls.lookup id = some q₀ ∧ q₀.saves = some firstSitting := by
  obtain ⟨c, c', row, answer, hrun, hstep, hrow, hfinished, hanswer, hsitting, hnew⟩ :=
    submitBehindSave_run
  have hkept := @submission_seals submitBehindSave [] c c c' _ _ row hrun hrow hfinished rfl hstep
  obtain ⟨id, w, q₀, hmove, hq₀, hsaves⟩ := hkept.answered _ answer hanswer hsitting hnew
  exact ⟨c, c', id, w, q₀, hrun, hstep, hmove, hq₀, hsaves⟩

theorem save_lands_late :
    ¬ ∀ (ms : List (Move Request World)) (c c' : Config Db Point) (m : Move Request World)
      (sitting : ExamAttemptId) (row : ExamAttempt), machine.run start ms = some c →
      machine.step c m = some c' → c.shared.examAttempt.lookup sitting = some row →
      row.finishedAt.isSome →
        (∀ row', c'.shared.examAttempt.lookup sitting = some row' →
          row'.finishedAt = row.finishedAt) ∧
        ∀ key answer, c'.shared.examAnswer.lookup key = some answer →
          answer.sitting = sitting → c.shared.examAnswer.lookup key = some answer := by
  intro h
  obtain ⟨c, c', row, answer, hrun, hstep, hrow, hfinished, hanswer, hsitting, hnew⟩ :=
    submitBehindSave_run
  exact hnew ((h _ c c' _ _ row hrun hstep hrow hfinished).2 _ answer hanswer hsitting)

end Runs

end Hezarfen.Exams
