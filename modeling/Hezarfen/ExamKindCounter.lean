import Hezarfen.ExamRedraft

/-!
# The reference counter of an exam kind

A mark holds one reference on the kind of its exam.  A first grade claims the kind
its call read before the transaction, an ungrade releases the kind its call read,
and the cascades release what the stored exams carry.  The counter of a kind stays
the number of marks under it as long as the kinds read are the stored ones and no
first mark lands between the no-marks gate of a PATCH that changes the kind and the
read of the counter it pins.
-/

namespace Hezarfen.Exams

open Interleaving

/-! ## Counting marks by kind -/

/-- `kind_ref.count`, a name without a row counting nothing. -/
def kindCount (refs : Table String KindRef) (name : String) : ℤ :=
  (refs.lookup name).elim 0 KindRef.count

def kindOf (exams : Table ExamId ExamRow) (exam : ExamId) : Option String :=
  (exams.lookup exam).map fun row => row.exam.kind

/-- The marks whose exam carries the kind `name`. -/
def kindMarks (exams : Table ExamId ExamRow) (results : Table ExamResultId ExamResult)
    (name : String) : ℕ :=
  Table.count results fun _ result => kindOf exams result.exam = some name

def KindsCounted (s : Db) : Prop :=
  ∀ name, kindCount s.kindRef name = kindMarks s.exam s.examResult name

theorem kindsCounted_empty : KindsCounted .empty := fun _ => rfl

section Counts

variable {exams exams' : Table ExamId ExamRow} {results : Table ExamResultId ExamResult}
  {refs refs' : Table String KindRef}

theorem kindMarks_congr
    (h : ∀ key result, results.lookup key = some result →
      kindOf exams' result.exam = kindOf exams result.exam) (name : String) :
    kindMarks exams' results name = kindMarks exams results name := by
  apply Table.count_congr
  intro key result hresult
  rw [h key result hresult]

theorem kindMarks_insert (key : ExamResultId) (result : ExamResult) (name : String) :
    (kindMarks exams (results.insert key result) name : ℤ) =
      kindMarks exams results name + (if kindOf exams result.exam = some name then 1 else 0) -
        (if (results.lookup key).any (fun before => kindOf exams before.exam = some name)
          then 1 else 0) := by
  have hinsert := Table.count_insert results key result fun _ row =>
    kindOf exams row.exam = some name
  unfold kindMarks
  simp only [decide_eq_true_eq] at hinsert
  split_ifs at hinsert ⊢ <;> omega

theorem kindCount_claim
    {kind : String} (hclaim : claimKind refs kind = some refs') (name : String) :
    kindCount refs' name = kindCount refs name + if name = kind then 1 else 0 := by
  unfold claimKind at hclaim
  unfold kindCount
  split at hclaim
  · next hnone =>
    cases hclaim
    rw [lookup_insert_eq]
    split
    · next hname =>
      subst hname
      simp [hnone]
    · simp
  · next row hrow =>
    split at hclaim
    · cases hclaim
    · cases hclaim
      rw [lookup_insert_eq]
      split
      · next hname =>
        subst hname
        simp [hrow]
      · simp

theorem kindCount_release
    {name : String} {n : ℕ} (hn : (n : ℤ) ≤ kindCount refs name)
    {f : String → KindRef → KindRef}
    (hf : ∀ row, f name row = row.release n ∨ (n = 0 ∧ f name row = row)) :
    kindCount (Table.update refs f) name = kindCount refs name - n := by
  unfold kindCount at hn ⊢
  rw [lookup_update]
  cases hrow : refs.lookup name with
  | none =>
      rw [hrow] at hn
      simp only [Option.elim] at hn
      simp only [Option.map_none, Option.elim]
      omega
  | some row =>
      rw [hrow] at hn
      simp only [Option.elim] at hn
      simp only [Option.map_some, Option.elim]
      rcases hf row with hrelease | ⟨hzero, hsame⟩
      · rw [hrelease, KindRef.release]
        exact max_eq_left (by omega)
      · rw [hsame]
        omega

theorem kindCount_setRetired
    {s : Db} {name : String} {retired : Bool}
    (h : (s.setRetired name retired).2 = { s with kindRef := refs }) (other : String) :
    kindCount refs other = kindCount s.kindRef other := by
  have hrefs : (s.setRetired name retired).2.kindRef = refs := congrArg Db.kindRef h
  rw [← hrefs]
  unfold Db.setRetired kindCount
  split
  · next hnone =>
    rw [lookup_insert_eq]
    split
    · next hname =>
      subst hname
      simp [hnone]
    · rfl
  · next row hrow =>
    split
    · rfl
    · rw [lookup_insert_eq]
      split
      · next hname =>
        subst hname
        simp [hrow]
      · rfl

theorem kindOf_insert_same
    {exam : ExamId} {row row' : ExamRow} (hrow : exams.lookup exam = some row)
    (hkind : row'.exam.kind = row.exam.kind) (other : ExamId) :
    kindOf (exams.insert exam row') other = kindOf exams other := by
  unfold kindOf
  rw [lookup_insert_eq]
  split
  · next hother =>
    subst hother
    simp [hrow, hkind]
  · rfl

end Counts

namespace KindsCounted

variable {s : Db}

theorem withExam
    (hk : KindsCounted s) {exams : Table ExamId ExamRow}
    (hsame : ∀ key result, s.examResult.lookup key = some result →
      kindOf exams result.exam = kindOf s.exam result.exam) :
    ∀ name, kindCount s.kindRef name = kindMarks exams s.examResult name := by
  intro name
  rw [kindMarks_congr hsame name]
  exact hk name

theorem graded
    (hk : KindsCounted s) {result : ExamResult} {kind : String} {row : ExamRow}
    {refs : Table String KindRef} (hexam : s.exam.lookup result.exam = some row)
    (hfirst : s.examResult.lookup result.id = none)
    (hclaim : claimKind s.kindRef kind = some refs) (hcurrent : row.exam.kind = kind)
    (name : String) :
    kindCount refs name =
      kindMarks (s.exam.insert result.exam { row with resultCount := row.resultCount + 1 })
        (s.examResult.insert result.id result) name := by
  have hkind : kindOf s.exam result.exam = some kind := by simp [kindOf, hexam, hcurrent]
  have hexams : ∀ other, kindOf (s.exam.insert result.exam
      { row with resultCount := row.resultCount + 1 }) other = kindOf s.exam other :=
    kindOf_insert_same hexam rfl
  rw [kindMarks_congr fun _ _ _ => hexams _]
  rw [kindMarks_insert, kindCount_claim hclaim, hk name, hkind, hfirst]
  by_cases hname : name = kind
  · simp [hname]
  · have hne : kind ≠ name := fun h => hname h.symm
    simp [hname, hne]

theorem regraded
    (hk : KindsCounted s) {result before : ExamResult} (hsame : before.exam = result.exam)
    (hbefore : s.examResult.lookup result.id = some before) (name : String) :
    kindCount s.kindRef name =
      kindMarks s.exam (s.examResult.insert result.id result) name := by
  rw [kindMarks_insert, hk name, hbefore, Option.any_some, hsame]
  simp

theorem ungraded
    (hk : KindsCounted s) {exam : ExamId} {user : UserId} {kind : String}
    (hcurrent : ∀ row, s.exam.lookup exam = some row → row.exam.kind = kind)
    (hs : Sound s) : KindsCounted (s.dropMarks exam user kind) := by
  intro name
  have hexams : ∀ key result, (s.dropMarks exam user kind).examResult.lookup key = some result →
      kindOf (s.dropMarks exam user kind).exam result.exam = kindOf s.exam result.exam := by
    intro key result _
    unfold kindOf Db.dropMarks
    rw [lookup_update, Option.map_map]
    congr 1
    funext row
    simp only [Function.comp_apply]
    split <;> rfl
  have hsplit := Table.count_deleteWhere_add s.examResult
    (fun _ result => result.exam = exam ∧ result.user = user)
    fun _ result => kindOf s.exam result.exam = some name
  have hkind : ∀ key result, s.examResult.lookup key = some result → result.exam = exam →
      kindOf s.exam result.exam = some kind := by
    intro key result hresult hexam
    obtain ⟨row, hrow⟩ := (hs.results key result hresult).2
    simp [kindOf, hrow, hcurrent row (hexam ▸ hrow)]
  have hgone : (Table.count s.examResult fun _ result =>
      decide (result.exam = exam ∧ result.user = user) &&
        decide (kindOf s.exam result.exam = some name)) =
        if name = kind then (s.marksOf exam user).length else 0 := by
    split
    · next hname =>
      rw [length_marksOf]
      apply Table.count_congr
      intro key result hresult
      by_cases hexam : result.exam = exam
      · simp [hkind key result hresult hexam, hname]
      · simp [hexam]
    · next hname =>
      rw [Table.count_eq_zero_iff]
      intro key result hresult
      by_cases hexam : result.exam = exam
      · simp [hkind key result hresult hexam, Ne.symm hname]
      · simp [hexam]
  rw [hgone] at hsplit
  have hmarks : kindMarks s.exam (s.dropMarks exam user kind).examResult name +
      (if name = kind then (s.marksOf exam user).length else 0) =
        kindMarks s.exam s.examResult name := hsplit
  have hname := hk name
  rw [kindMarks_congr hexams]
  have hcount : kindCount (s.dropMarks exam user kind).kindRef name = kindCount s.kindRef name -
      (if name = kind then (s.marksOf exam user).length else 0 : ℕ) := by
    apply kindCount_release (by omega)
    intro row
    split
    · exact .inl rfl
    · exact .inr ⟨rfl, rfl⟩
  omega

theorem cascade
    (hk : KindsCounted s) (p : ExamId → ExamRow → Bool) : KindsCounted (s.cascade p) := by
  intro name
  have hexams : ∀ key result, (s.cascade p).examResult.lookup key = some result →
      kindOf (s.cascade p).exam result.exam = kindOf s.exam result.exam := by
    intro key result hresult
    rw [Db.cascade, lookup_deleteWhere, Option.filter_eq_some_iff] at hresult
    have hkept : s.doomed p result.exam = false := by simpa using hresult.2
    unfold kindOf
    rw [Db.cascade, lookup_deleteWhere]
    unfold Db.doomed at hkept
    cases hrow : s.exam.lookup result.exam with
    | none => rfl
    | some =>
        rw [hrow, Option.any_some] at hkept
        simp [Option.filter_some, hkept]
  have hsplit := Table.count_deleteWhere_add s.examResult
    (fun _ result => s.doomed p result.exam) fun _ result => kindOf s.exam result.exam = some name
  have hdoomed : (Table.count s.examResult fun _ result =>
      s.doomed p result.exam && decide (kindOf s.exam result.exam = some name)) =
        s.doomedMarks p name := by
    apply Table.count_congr
    intro key result _
    unfold Db.doomed kindOf
    cases s.exam.lookup result.exam with
    | none => rfl
    | some => simp
  rw [hdoomed] at hsplit
  rw [kindMarks_congr hexams]
  have hmarks : kindMarks s.exam (s.cascade p).examResult name + s.doomedMarks p name =
      kindMarks s.exam s.examResult name := hsplit
  have hname := hk name
  have hcount : kindCount (s.cascade p).kindRef name =
      kindCount s.kindRef name - s.doomedMarks p name := by
    apply kindCount_release (by omega)
    intro row
    split
    · exact .inl rfl
    · next hnone => exact .inr ⟨by omega, rfl⟩
  omega

end KindsCounted

def Point.trustsKind : Point → Option ExamId
  | .patchTxRedraft job | .patchTxCount job =>
      if job.kindChanged then some job.current.id else none
  | _ => none

def kindsCurrent (c : Config Db Point) : Point → Bool
  | .gradeTx result kind =>
      (c.shared.examResult.lookup result.id).isSome ||
        ((kindOf c.shared.exam result.exam).all (fun stored => stored = kind) &&
          !trusted c Point.trustsKind result.exam)
  | .removeTx exam user kind =>
      (c.shared.marksOf exam user).isEmpty ||
        (kindOf c.shared.exam exam).all fun stored => stored = kind
  | _ => true

structure TrustsKind (id : ℕ) (p : Point) (s : Db) : Prop where
  unmarked : ∀ exam, p.trustsKind = some exam → s.anyGraded exam = false
  pinned : ∀ job wasResults, p = .patchTxUpdate job wasResults → job.kindChanged = true →
    wasResults = 0

section Steps

variable {c : Config Db Point} {id id' : ℕ} {s s' : Db} {w : World} {p q : Point}

theorem trustsKind_nothing
    (hunmarked : q.trustsKind = none)
    (hupdate : ∀ job wasResults, q ≠ .patchTxUpdate job wasResults) : TrustsKind id q s := by
  constructor
  · intro exam htrust
    rw [hunmarked] at htrust
    cases htrust
  · intro job wasResults heq
    exact absurd heq (hupdate job wasResults)

/-- Up to the kind gate a PATCH trusts nothing about marks. -/
theorem toKindGate_trustsKind (job : PatchJob) :
    TrustsKind id job.toModeGate s ∧ TrustsKind id job.toRedraftGate s ∧
      TrustsKind id job.toKindGate s := by
  have hkind : TrustsKind id job.toKindGate s := by
    unfold PatchJob.toKindGate PatchJob.toTx
    split
    · exact trustsKind_nothing rfl (fun _ _ => by simp)
    · next hsame =>
      split
      · exact trustsKind_nothing (if_neg hsame) (fun _ _ => by simp)
      · exact trustsKind_nothing (if_neg hsame) (fun _ _ => by simp)
  have hredraft : TrustsKind id job.toRedraftGate s := by
    unfold PatchJob.toRedraftGate
    split
    · exact trustsKind_nothing rfl (fun _ _ => by simp)
    · exact hkind
  refine ⟨?_, hredraft, hkind⟩
  unfold PatchJob.toModeGate
  split
  · exact trustsKind_nothing rfl (fun _ _ => by simp)
  · exact hredraft

theorem toTx_trustsKind
    {job : PatchJob} (hungraded : s.anyGraded job.current.id = false) :
    TrustsKind id job.toTx s := by
  unfold PatchJob.toTx
  split
  · refine ⟨?_, fun _ _ heq => by cases heq⟩
    intro exam htrust
    obtain ⟨-, ⟨⟩⟩ := Option.ite_none_right_eq_some.mp htrust
    exact hungraded
  · refine ⟨?_, fun _ _ heq => by cases heq⟩
    intro exam htrust
    obtain ⟨-, ⟨⟩⟩ := Option.ite_none_right_eq_some.mp htrust
    exact hungraded

theorem next_trustsKind
    (h : next id s p w = some (s', .goto q)) (hs : Sound s) (hp : TrustsKind id p s) :
    TrustsKind id q s' := by
  cases next_arrives h with
  | patchRead => exact (toKindGate_trustsKind _).1
  | patchModeGate => exact (toKindGate_trustsKind _).2.1
  | patchRedraftGraded => exact (toKindGate_trustsKind _).2.2
  | patchKindGate hrow hnone =>
      obtain rfl : s' = s := (congrArg Prod.fst (Option.some.inj h)).symm
      apply toTx_trustsKind
      rw [anyGraded_eq_false_iff]
      have hcounted := hs.counted _ _ hrow
      omega
  | patchTxRedraft =>
      obtain rfl : s' = s := (congrArg Prod.fst (Option.some.inj h)).symm
      exact ⟨hp.unmarked, fun _ _ heq => by cases heq⟩
  | patchTxCount =>
      obtain rfl : s' = s := (congrArg Prod.fst (Option.some.inj h)).symm
      constructor
      · rintro exam ⟨⟩
      · rintro job wasResults ⟨⟩ hchanged
        exact resultCount_of_unmarked hs (hp.unmarked _ (if_pos hchanged))
  | _ => exact trustsKind_nothing rfl (fun _ _ => by simp)

theorem Wrote.trustsKind_kept
    (h : Wrote id c.shared w p s') (hs : Sound c.shared) (hs' : Sound s')
    (hcurrent : kindsCurrent c p = true) (hq : c.calls.lookup id' = some q)
    (htrusts : TrustsKind id' q c.shared) : TrustsKind id' q s' := by
  refine ⟨?_, htrusts.pinned⟩
  intro exam htrust
  apply h.unmarked_kept hs hs' (htrusts.unmarked exam htrust)
  intro hmarks
  cases p with
  | gradeTx result =>
      obtain ⟨hfirst, ⟨⟩⟩ := Option.ite_none_right_eq_some.mp hmarks
      have hfree : trusted c Point.trustsKind result.exam = false := by
        simp only [kindsCurrent, hfirst, Option.isSome_none, Bool.false_or,
          Bool.and_eq_true, Bool.not_eq_true'] at hcurrent
        exact hcurrent.2
      exact not_trusted hfree hq htrust
  | _ => cases hmarks

theorem Wrote.kind_kept
    (h : Wrote id s w p s') (hs : Sound s) (htrusts : TrustsKind id p s) {exam : ExamId}
    {row row' : ExamRow} (hrow : s.exam.lookup exam = some row)
    (hrow' : s'.exam.lookup exam = some row') (hchanged : row'.exam.kind ≠ row.exam.kind) :
    marksCount s.examResult exam = 0 := by
  rcases h.exam_kept hs hrow hrow' with
    hsame | ⟨job, wasResults, rfl, rfl, hunchanged, hcount, hsaved⟩
  · rw [hsame] at hchanged
    exact absurd rfl hchanged
  · rw [hsaved] at hchanged
    have hmerged : job.merged.kind ≠ row.exam.kind := hchanged
    have hkindChanged : job.kindChanged = true := by
      simpa [PatchJob.kindChanged, ← hunchanged.2.2.1] using hmerged
    have hcounted := hs.counted _ row hrow
    rw [hcount, htrusts.pinned job wasResults rfl hkindChanged] at hcounted
    omega

theorem Wrote.kindsCounted
    (h : Wrote id c.shared w p s') (hs : Sound c.shared) (hk : KindsCounted c.shared)
    (htrusts : TrustsKind id p c.shared) (hcurrent : kindsCurrent c p = true) :
    KindsCounted s' := by
  cases h with
  | retired hset =>
      intro name
      rw [kindCount_setRetired hset name]
      exact hk name
  | created hfresh =>
      apply hk.withExam
      intro key result hresult
      obtain ⟨row, hrow⟩ := (hs.results key result hresult).2
      have hne : result.exam ≠ ⟨w.uuid⟩ := by
        intro heq
        have hminted := (hs.exams _ row hrow).2
        rw [heq] at hminted
        exact hfresh hminted
      unfold kindOf
      rw [Db.insertExam, lookup_insert_eq, if_neg hne]
  | @patched job wasResults row hrow hunchanged hcount hfree =>
      apply hk.withExam
      intro key result hresult
      by_cases hkind : job.merged.kind = row.exam.kind
      · exact kindOf_insert_same hrow hkind _
      · -- The exam whose kind moves has no mark, so `result` is under another exam.
        have hwrote : Wrote id c.shared w _ _ := .patched hrow hunchanged hcount hfree
        have hnone := hwrote.kind_kept hs htrusts hrow
          (by rw [lookup_insert_eq, if_pos rfl]) hkind
        have hne : result.exam ≠ job.current.id := by
          simpa using Table.count_eq_zero_iff.mp hnone key result hresult
        unfold kindOf
        rw [lookup_insert_eq, if_neg hne]
  | deleted | swept => exact hk.cascade _
  | regraded _ _ _ hbefore =>
      exact hk.regraded (congrArg ExamResultId.exam (hs.results _ _ hbefore).1) hbefore
  | @graded result kind row refs _ hexam _ hfirst hclaim =>
      have hread : row.exam.kind = kind := by
        simp only [kindsCurrent, hfirst, Option.isSome_none, Bool.false_or, kindOf, hexam,
          Option.map_some, Option.all_some, Bool.and_eq_true, decide_eq_true_eq] at hcurrent
        exact hcurrent.1
      exact hk.graded hexam hfirst hclaim hread
  | @ungraded exam user kind hsome =>
      apply hk.ungraded _ hs
      intro row hrow
      have hempty : (c.shared.marksOf exam user).isEmpty = false := by simpa using hsome
      simp only [kindsCurrent, hempty, Bool.false_or, kindOf, hrow, Option.map_some,
        Option.all_some, decide_eq_true_eq] at hcurrent
      exact hcurrent
  | _ => exact hk

end Steps

theorem kinds_relyGuarantee :
    machine.RelyGuarantee (fun c m => InOrder c ∧ c.Admits kindsCurrent m) KindsCounted
      TrustsKind where
  entry := by
    intro id request s _
    cases request <;> exact trustsKind_nothing rfl (fun _ _ => by simp [machine, entry])
  own := by
    intro c id w p s n hc hguard hp hnext
    have htrusts := hc.calls id p hp
    refine ⟨(next_wrote hnext).kindsCounted hguard.1.shared hc.shared htrusts
      (hguard.2.check hp), ?_⟩
    rintro q rfl
    exact next_trustsKind hnext hguard.1.shared htrusts
  others := by
    intro c id w p s n hc hguard hp hnext id' q _ hq
    have hwrote := next_wrote hnext
    have hs' := hwrote.sound hguard.1.shared (hguard.1.calls id p hp)
    exact hwrote.trustsKind_kept hguard.1.shared hs' (hguard.2.check hp) hq (hc.calls id' q hq)
  rollback := by
    intro c id p hc hp
    refine ⟨hc.shared, ?_⟩
    intro id' q _ hq
    have htrusts := hc.calls id' q hq
    exact ⟨htrusts.unmarked, htrusts.pinned⟩

def KindsFixed (s s' : Db) : Prop :=
  ∀ exam row row', s.exam.lookup exam = some row → s'.exam.lookup exam = some row' →
    row'.exam.kind ≠ row.exam.kind → marksCount s.examResult exam = 0

/-- In a run whose grades and ungrades find the kind they read, and in which no first mark lands
between the gate of a kind change and its counter read, the counters of kinds and exams are the
numbers of their marks, and no move changes the kind of an exam that has one. -/
theorem kindRef_counts_marks
    {ms : List (Move Request World)} {c : Config Db Point}
    (hguard : machine.Guarded (Config.Admits kindsCurrent) start ms)
    (hrun : machine.run start ms = some c) :
    (∀ name, kindCount c.shared.kindRef name = kindMarks c.shared.exam c.shared.examResult name) ∧
      (∀ exam row, c.shared.exam.lookup exam = some row →
        row.resultCount = marksCount c.shared.examResult exam) ∧
      ∀ m c', machine.step c m = some c' → KindsFixed c.shared c'.shared := by
  have hc := inOrder_run inOrder_start hrun
  have hkinds := kinds_relyGuarantee.holds_run (Config.initial_holds TrustsKind kindsCounted_empty)
    ((inOrder_start.guarded ms).and hguard) hrun
  refine ⟨hkinds.shared, hc.shared.counted, ?_⟩
  intro m c' hstep exam row row' hrow hrow' hchanged
  rcases move_cases hstep with hsame | ⟨id, hreleased⟩ | ⟨id, w, p, rfl, hp, hwrote⟩
  · rw [hsame, hrow] at hrow'
    cases hrow'
    exact absurd rfl hchanged
  · rw [hreleased] at hrow'
    obtain rfl : row = row' := Option.some.inj (hrow.symm.trans hrow')
    exact absurd rfl hchanged
  · exact hwrote.kind_kept hc.shared (hkinds.calls id p hp) hrow hrow' hchanged

section Runs

open Sample

def gradeRenameGrade : List (Move Request World) :=
  opening ++ [gradeQuiz, tick 4, tick 4, tick 4,
    .start (.removeResult quizId student), tick 5, tick 5,
    patchQuiz { noPatch with kind := some "final" }, tick 6, tick 6, tick 6, tick 6,
    gradeQuiz, tick 7, tick 7, tick 7]

theorem kindRef_counts_marks_gradeRenameGrade :
    ∃ c, machine.run start gradeRenameGrade = some c ∧
      kindCount c.shared.kindRef "final" = 1 ∧
      ∀ name, kindCount c.shared.kindRef name =
        kindMarks c.shared.exam c.shared.examResult name := by
  have hguard : machine.Guarded (Config.Admits kindsCurrent) start gradeRenameGrade := by
    decide
  have hend : (machine.run start gradeRenameGrade).any (fun c =>
      kindCount c.shared.kindRef "final" = 1) = true := by decide
  obtain ⟨c, hrun, hfinal⟩ := (Option.any_eq_true _ _).mp hend
  exact ⟨c, hrun, of_decide_eq_true hfinal, (kindRef_counts_marks hguard hrun).1⟩

def gradeBehindGate : List (Move Request World) :=
  opening ++ [patchQuiz { noPatch with kind := some "final" }, tick 4, tick 4,
    gradeQuiz, tick 5, tick 5, tick 5, tick 4, tick 4]

theorem kindRef_left_behind :
    ¬ ∀ (ms : List (Move Request World)) (c : Config Db Point), machine.run start ms = some c →
      (∀ name, kindCount c.shared.kindRef name =
        kindMarks c.shared.exam c.shared.examResult name) ∧
      (∀ exam row, c.shared.exam.lookup exam = some row →
        row.resultCount = marksCount c.shared.examResult exam) ∧
      ∀ m c', machine.step c m = some c' → KindsFixed c.shared c'.shared := by
  intro h
  have hend : (machine.run start gradeBehindGate).any (fun c =>
      kindCount c.shared.kindRef "quiz" ≠
        (kindMarks c.shared.exam c.shared.examResult "quiz" : ℤ)) = true := by decide
  obtain ⟨c, hrun, hne⟩ := (Option.any_eq_true _ _).mp hend
  exact of_decide_eq_true hne ((h _ c hrun).1 "quiz")

end Runs

end Hezarfen.Exams
