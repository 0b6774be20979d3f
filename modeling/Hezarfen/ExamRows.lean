import Hezarfen.ExamSteps

/-!
# Keys, owners and row locks of the exam tables

The facts about the exam tables that hold in every reachable state whatever the
calls do: a row sits under its own key, a child row has its exam, ids come from
the generator, the mark counter of an exam is the number of its marks, and a row
lock is held on an exam that exists.  A call past a lock holds it, and the
question a call has read still belongs to the exam it was read under.
-/

namespace Hezarfen.Exams

open Interleaving

section Tables

variable (exam : Table ExamId ExamRow) (results : Table ExamResultId ExamResult)
  (attempts : Table ExamAttemptId ExamAttempt) (questions : Table ExamQuestionId ExamQuestion)
  (locks : Table ExamId ℕ) (minted : List Uuid)

def Stands (id : ExamId) : Prop := ∃ row, exam.lookup id = some row

def ExamsKeyed : Prop :=
  ∀ id row, exam.lookup id = some row → row.exam.id = id ∧ id.uuid ∈ minted

def ResultsOwned : Prop :=
  ∀ id result, results.lookup id = some result → result.id = id ∧ Stands exam result.exam

def AttemptsOwned : Prop :=
  ∀ id attempt, attempts.lookup id = some attempt → attempt.id = id ∧ Stands exam attempt.exam

def QuestionsOwned : Prop :=
  ∀ id question, questions.lookup id = some question →
    question.id = id ∧ id.uuid ∈ minted ∧ Stands exam question.exam

def LocksHeld : Prop := ∀ id holder, locks.lookup id = some holder → Stands exam id

/-- How many marks an exam has. -/
def marksCount (id : ExamId) : ℕ := Table.count results fun _ result => result.exam = id

def ResultsCounted : Prop :=
  ∀ id row, exam.lookup id = some row → row.resultCount = marksCount results id

variable {exam results}

theorem marksCount_insert (id : ExamId) (key : ExamResultId) (result : ExamResult) :
    (marksCount (results.insert key result) id : ℤ) =
      marksCount results id + (if result.exam = id then 1 else 0) -
        (if (results.lookup key).any (fun before => before.exam = id) then 1 else 0) := by
  have hinsert := Table.count_insert results key result fun _ row => row.exam = id
  unfold marksCount
  simp only [decide_eq_true_eq] at hinsert
  split_ifs at hinsert ⊢ <;> omega

end Tables

theorem length_marksOf (s : Db) (exam : ExamId) (user : UserId) :
    (s.marksOf exam user).length =
      Table.count s.examResult fun _ result => result.exam = exam ∧ result.user = user := by
  rw [Db.marksOf, List.length_insertionSort, Table.length_filter_rows]

theorem marksCount_dropMarks (s : Db) (exam : ExamId) (user : UserId) (kind : String)
    (id : ExamId) :
    marksCount (s.dropMarks exam user kind).examResult id +
      (if exam = id then (s.marksOf exam user).length else 0) = marksCount s.examResult id := by
  have hsplit := Table.count_deleteWhere_add s.examResult
    (fun _ result => result.exam = exam ∧ result.user = user) fun _ result => result.exam = id
  have hgone : (Table.count s.examResult fun _ result =>
      decide (result.exam = exam ∧ result.user = user) && decide (result.exam = id)) =
        if exam = id then (s.marksOf exam user).length else 0 := by
    split
    · next hid =>
      subst hid
      rw [length_marksOf]
      apply Table.count_congr
      intro key result _
      by_cases hexam : result.exam = exam <;> simp [hexam]
    · next hid =>
      rw [Table.count_eq_zero_iff]
      intro key result _
      by_cases hexam : result.exam = exam <;> simp [hexam, hid]
  rw [hgone] at hsplit
  exact hsplit

structure Sound (s : Db) : Prop where
  exams : ExamsKeyed s.exam s.minted
  results : ResultsOwned s.exam s.examResult
  attempts : AttemptsOwned s.exam s.examAttempt
  questions : QuestionsOwned s.exam s.examQuestion s.minted
  locks : LocksHeld s.exam s.locks
  counted : ResultsCounted s.exam s.examResult

theorem sound_empty : Sound Db.empty := by
  constructor <;> intro id row hrow <;> simp [Db.empty] at hrow

/-- The invariant reads six of the tables. -/
theorem Sound.frame
    {s s' : Db} (hs : Sound s) (hexam : s'.exam = s.exam) (hresult : s'.examResult = s.examResult)
    (hattempt : s'.examAttempt = s.examAttempt) (hquestion : s'.examQuestion = s.examQuestion)
    (hlocks : s'.locks = s.locks) (hminted : s'.minted = s.minted) : Sound s' := by
  constructor
  · rw [hexam, hminted]
    exact hs.exams
  · rw [hexam, hresult]
    exact hs.results
  · rw [hexam, hattempt]
    exact hs.attempts
  · rw [hexam, hquestion, hminted]
    exact hs.questions
  · rw [hexam, hlocks]
    exact hs.locks
  · rw [hexam, hresult]
    exact hs.counted

/-- The exams of `exam` are still there in `exam'`. -/
def Keeps (exam exam' : Table ExamId ExamRow) : Prop := ∀ id, Stands exam id → Stands exam' id

theorem keeps_insert (exam : Table ExamId ExamRow) (id : ExamId) (row : ExamRow) :
    Keeps exam (exam.insert id row) := by
  rintro key ⟨old, hold⟩
  unfold Stands
  rw [lookup_insert_eq]
  split
  · exact ⟨row, rfl⟩
  · exact ⟨old, hold⟩

theorem keeps_update (exam : Table ExamId ExamRow) (f : ExamId → ExamRow → ExamRow) :
    Keeps exam (Table.update exam f) := by
  rintro key ⟨old, hold⟩
  exact ⟨f key old, by simp [hold]⟩

namespace Sound

variable {s : Db}

theorem withExam
    (hs : Sound s) {exam : Table ExamId ExamRow} {minted : List Uuid}
    (hkeeps : Keeps s.exam exam) (hminted : s.minted ⊆ minted)
    (hexams : ExamsKeyed exam minted) (hcounted : ResultsCounted exam s.examResult) :
    Sound { s with exam := exam, minted := minted } where
  exams := hexams
  results := fun id row hrow => ⟨(hs.results id row hrow).1, hkeeps _ (hs.results id row hrow).2⟩
  attempts := fun id row hrow =>
    ⟨(hs.attempts id row hrow).1, hkeeps _ (hs.attempts id row hrow).2⟩
  questions := fun id row hrow =>
    ⟨(hs.questions id row hrow).1, hminted (hs.questions id row hrow).2.1,
      hkeeps _ (hs.questions id row hrow).2.2⟩
  locks := fun id holder hholder => hkeeps _ (hs.locks id holder hholder)
  counted := hcounted

theorem withMinted (hs : Sound s) {minted : List Uuid} (hminted : s.minted ⊆ minted) :
    Sound { s with minted := minted } := by
  apply hs.withExam (fun _ h => h) hminted _ hs.counted
  intro id row hrow
  exact ⟨(hs.exams id row hrow).1, hminted (hs.exams id row hrow).2⟩

theorem lookup_fresh (hs : Sound s) {uuid : Uuid} (hfresh : uuid ∉ s.minted) :
    s.exam.lookup ⟨uuid⟩ = none := by
  cases hrow : s.exam.lookup ⟨uuid⟩ with
  | none => rfl
  | some row => exact absurd (hs.exams _ row hrow).2 hfresh

theorem marksCount_fresh (hs : Sound s) {id : ExamId} (hnone : s.exam.lookup id = none) :
    marksCount s.examResult id = 0 := by
  unfold marksCount
  rw [Table.count_eq_zero_iff]
  intro key result hresult
  obtain ⟨row, hrow⟩ := (hs.results key result hresult).2
  by_contra hexam
  have hid : result.exam = id := by simpa using hexam
  rw [hid, hnone] at hrow
  cases hrow

theorem created
    (hs : Sound s) {uuid : Uuid} (hfresh : uuid ∉ s.minted) {exam : Exam} :
    Sound (Db.insertExam { s with minted := uuid :: s.minted } { exam with id := ⟨uuid⟩ }) := by
  apply hs.withExam (keeps_insert _ _ _) (List.subset_cons_self _ _)
  · intro id row hrow
    obtain ⟨rfl, rfl⟩ | ⟨-, hrow⟩ := insert_cases hrow
    · exact ⟨rfl, List.mem_cons_self⟩
    · exact ⟨(hs.exams id row hrow).1, List.mem_cons_of_mem _ (hs.exams id row hrow).2⟩
  · intro id row hrow
    obtain ⟨rfl, rfl⟩ | ⟨-, hrow⟩ := insert_cases hrow
    · rw [hs.marksCount_fresh (hs.lookup_fresh hfresh)]
      rfl
    · exact hs.counted id row hrow

theorem patched
    (hs : Sound s) {id : ExamId} {row : ExamRow} (hrow : s.exam.lookup id = some row)
    (merged : Exam) :
    Sound { s with exam := s.exam.insert id { row with exam := row.exam.overwrite merged } } := by
  apply hs.withExam (keeps_insert _ _ _) (List.Subset.refl _)
  · intro key row' hrow'
    obtain ⟨rfl, rfl⟩ | ⟨-, hrow'⟩ := insert_cases hrow'
    · exact hs.exams _ row hrow
    · exact hs.exams key row' hrow'
  · intro key row' hrow'
    obtain ⟨rfl, rfl⟩ | ⟨-, hrow'⟩ := insert_cases hrow'
    · exact hs.counted _ row hrow
    · exact hs.counted key row' hrow'

/-! ## Writes of the child tables -/

theorem putAttempt
    (hs : Sound s) {attempt : ExamAttempt} (howned : Stands s.exam attempt.exam)
    {id : ExamAttemptId} (hid : attempt.id = id) :
    Sound { s with examAttempt := s.examAttempt.insert id attempt } := by
  refine { hs with attempts := ?_ }
  intro key row hrow
  obtain ⟨hkey, rfl⟩ | ⟨-, hrow⟩ := insert_cases hrow
  · exact ⟨hid.trans hkey.symm, howned⟩
  · exact hs.attempts key row hrow

/-- A field-scoped write of a sitting keeps its key. -/
theorem updateAttempt
    (hs : Sound s) {id : ExamAttemptId} {row : ExamAttempt}
    (hrow : s.examAttempt.lookup id = some row) {row' : ExamAttempt} (hid : row'.id = row.id) :
    Sound { s with examAttempt := s.examAttempt.insert id row' } := by
  obtain ⟨hkey, howned⟩ := hs.attempts id row hrow
  have hexam : row'.exam = row.exam := congrArg ExamAttemptId.exam hid
  exact hs.putAttempt (hexam ▸ howned) (hid.trans hkey)

theorem putQuestion
    (hs : Sound s) {question : ExamQuestion} (hminted : question.id.uuid ∈ s.minted)
    (howned : Stands s.exam question.exam) {id : ExamQuestionId} (hid : question.id = id) :
    Sound { s with examQuestion := s.examQuestion.insert id question } := by
  refine { hs with questions := ?_ }
  intro key row hrow
  obtain ⟨hkey, rfl⟩ | ⟨-, hrow⟩ := insert_cases hrow
  · rw [hkey, ← hid]
    exact ⟨rfl, hminted, howned⟩
  · exact hs.questions key row hrow

theorem withLocks
    (hs : Sound s) {locks : Table ExamId ℕ} (hlocks : LocksHeld s.exam locks) :
    Sound { s with locks := locks } :=
  { hs with locks := hlocks }

theorem lock
    (hs : Sound s) {id : ExamId} (hexam : Stands s.exam id) (call : ℕ) :
    Sound (s.lock id call) := by
  apply hs.withLocks
  intro key holder hholder
  rw [lookup_insert_eq] at hholder
  split at hholder
  · next hkey => exact hkey ▸ hexam
  · exact hs.locks key holder hholder

theorem unlock (hs : Sound s) (id : ExamId) : Sound (s.unlock id) := by
  apply hs.withLocks
  intro key holder hholder
  obtain ⟨-, hholder⟩ := erase_cases hholder
  exact hs.locks key holder hholder

theorem releaseLocks (hs : Sound s) (call : ℕ) : Sound (s.releaseLocks call) := by
  apply hs.withLocks
  intro key holder hholder
  rw [lookup_deleteWhere, Option.filter_eq_some_iff] at hholder
  exact hs.locks key holder hholder.1

/-- A second grade of a sitting replaces the row in place. -/
theorem regraded
    (hs : Sound s) {result before : ExamResult} {row : ExamRow}
    (hexam : s.exam.lookup result.exam = some row)
    (hbefore : s.examResult.lookup result.id = some before) :
    Sound { s with examResult := s.examResult.insert result.id result } := by
  refine { hs with results := ?_, counted := ?_ }
  · intro key row' hrow'
    obtain ⟨hkey, rfl⟩ | ⟨-, hrow'⟩ := insert_cases hrow'
    · exact ⟨hkey.symm, row, hexam⟩
    · exact hs.results key row' hrow'
  · intro id row' hrow'
    rw [hs.counted id row' hrow', marksCount_insert]
    have hsame : before.exam = result.exam :=
      congrArg ExamResultId.exam (hs.results _ _ hbefore).1
    simp [hbefore, hsame]

theorem graded
    (hs : Sound s) {result : ExamResult} {row : ExamRow}
    (hexam : s.exam.lookup result.exam = some row)
    (hfirst : s.examResult.lookup result.id = none) :
    Sound
      { s with
        exam := s.exam.insert result.exam { row with resultCount := row.resultCount + 1 }
        examResult := s.examResult.insert result.id result } := by
  have hkeeps := keeps_insert s.exam result.exam { row with resultCount := row.resultCount + 1 }
  constructor
  · intro id row' hrow'
    obtain ⟨rfl, rfl⟩ | ⟨-, hrow'⟩ := insert_cases hrow'
    · exact hs.exams _ row hexam
    · exact hs.exams id row' hrow'
  · intro key row' hrow'
    obtain ⟨hkey, rfl⟩ | ⟨-, hrow'⟩ := insert_cases hrow'
    · exact ⟨hkey.symm, hkeeps _ ⟨row, hexam⟩⟩
    · exact ⟨(hs.results key row' hrow').1, hkeeps _ (hs.results key row' hrow').2⟩
  · intro key row' hrow'
    exact ⟨(hs.attempts key row' hrow').1, hkeeps _ (hs.attempts key row' hrow').2⟩
  · intro key row' hrow'
    exact ⟨(hs.questions key row' hrow').1, (hs.questions key row' hrow').2.1,
      hkeeps _ (hs.questions key row' hrow').2.2⟩
  · intro id holder hholder
    exact hkeeps _ (hs.locks id holder hholder)
  · intro id row' hrow'
    rw [marksCount_insert]
    obtain ⟨rfl, rfl⟩ | ⟨hid, hrow'⟩ := insert_cases hrow'
    · simp [hfirst, hs.counted _ row hexam]
    · have hne : result.exam ≠ id := fun h => hid h.symm
      simp [hfirst, hne, hs.counted id row' hrow']

theorem ungraded (hs : Sound s) (exam : ExamId) (user : UserId) (kind : String) :
    Sound (s.dropMarks exam user kind) := by
  have hkeeps : Keeps s.exam (s.dropMarks exam user kind).exam := keeps_update _ _
  constructor
  · intro id row hrow
    rw [Db.dropMarks, lookup_update, Option.map_eq_some_iff] at hrow
    obtain ⟨old, hold, rfl⟩ := hrow
    split <;> exact hs.exams id old hold
  · intro key row hrow
    rw [Db.dropMarks, lookup_deleteWhere, Option.filter_eq_some_iff] at hrow
    exact ⟨(hs.results key row hrow.1).1, hkeeps _ (hs.results key row hrow.1).2⟩
  · intro key row hrow
    exact ⟨(hs.attempts key row hrow).1, hkeeps _ (hs.attempts key row hrow).2⟩
  · intro key row hrow
    exact ⟨(hs.questions key row hrow).1, (hs.questions key row hrow).2.1,
      hkeeps _ (hs.questions key row hrow).2.2⟩
  · intro id holder hholder
    exact hkeeps _ (hs.locks id holder hholder)
  · intro id row hrow
    rw [Db.dropMarks, lookup_update, Option.map_eq_some_iff] at hrow
    obtain ⟨old, hold, rfl⟩ := hrow
    have hcount := hs.counted id old hold
    have hsplit := marksCount_dropMarks s exam user kind id
    split
    · next hid =>
      rw [if_pos hid.symm] at hsplit
      simp only [ExamRow.release]
      omega
    · next hid =>
      rw [if_neg (Ne.symm hid)] at hsplit
      omega

/-- A cascade takes whole exams with everything under them. -/
theorem cascade
    (hs : Sound s) {p : ExamId → ExamRow → Bool}
    (hfree : ∀ id holder, s.locks.lookup id = some holder → s.doomed p id = false) :
    Sound (s.cascade p) := by
  have hkept : ∀ id, Stands s.exam id → s.doomed p id = false → Stands (s.cascade p).exam id := by
    rintro id ⟨row, hrow⟩ hid
    refine ⟨row, ?_⟩
    rw [Db.doomed, hrow, Option.any_some] at hid
    rw [Db.cascade, lookup_deleteWhere, hrow, Option.filter_some, hid]
    rfl
  constructor
  · intro id row hrow
    rw [Db.cascade, lookup_deleteWhere, Option.filter_eq_some_iff] at hrow
    exact hs.exams id row hrow.1
  · intro key row hrow
    rw [Db.cascade, lookup_deleteWhere, Option.filter_eq_some_iff] at hrow
    obtain ⟨hid, howned⟩ := hs.results key row hrow.1
    exact ⟨hid, hkept _ howned (by simpa using hrow.2)⟩
  · intro key row hrow
    rw [Db.cascade, lookup_deleteWhere, Option.filter_eq_some_iff] at hrow
    obtain ⟨hid, howned⟩ := hs.attempts key row hrow.1
    exact ⟨hid, hkept _ howned (by simpa using hrow.2)⟩
  · intro key row hrow
    rw [Db.cascade, lookup_deleteWhere, Option.filter_eq_some_iff] at hrow
    obtain ⟨hid, hminted, howned⟩ := hs.questions key row hrow.1
    exact ⟨hid, hminted, hkept _ howned (by simpa using hrow.2)⟩
  · intro id holder hholder
    exact hkept id (hs.locks id holder hholder) (hfree id holder hholder)
  · intro id row hrow
    rw [Db.cascade, lookup_deleteWhere, Option.filter_eq_some_iff] at hrow
    obtain ⟨hrow, hp⟩ := hrow
    rw [hs.counted id row hrow]
    unfold marksCount
    rw [Db.cascade, Table.count_deleteWhere]
    congr 1
    apply Table.count_congr
    intro key result _
    by_cases hid : result.exam = id
    · have hkept : s.doomed p result.exam = false := by
        rw [Db.doomed, hid, hrow, Option.any_some]
        simpa using hp
      simp [hkept]
    · simp [hid]

theorem insertQuestion
    (hs : Sound s) {uuid : Uuid} {exam : ExamId} {fields : QuestionFields}
    {fromBank : Option BankQuestionId} (hexam : Stands s.exam exam) :
    Sound
      { s with
        minted := uuid :: s.minted
        examQuestion := s.examQuestion.insert ⟨uuid⟩ (newQuestion uuid exam fields fromBank) } :=
  (hs.withMinted (List.subset_cons_self uuid s.minted)).putQuestion List.mem_cons_self hexam rfl

theorem rewriteQuestion
    (hs : Sound s) {id : ExamQuestionId} {row : ExamQuestion}
    (hrow : s.examQuestion.lookup id = some row) (row' : ExamQuestion) (hid : row'.id = row.id)
    (hexam : row'.exam = row.exam) :
    Sound { s with examQuestion := s.examQuestion.insert id row' } := by
  obtain ⟨hkey, hminted, howned⟩ := hs.questions id row hrow
  rw [← hexam] at howned
  rw [← hkey, ← hid] at hminted
  exact hs.putQuestion hminted howned (hid.trans hkey)

theorem deleteQuestion (hs : Sound s) (id : ExamQuestionId) :
    Sound { s with examQuestion := s.examQuestion.erase id } := by
  refine { hs with questions := ?_ }
  intro key row hrow
  obtain ⟨-, hrow⟩ := erase_cases hrow
  exact hs.questions key row hrow

theorem relinked
    (hs : Sound s) {relink : ExamQuestionId → ExamQuestion → ExamQuestion}
    (hrelink : ∀ key row, ∃ fromBank bankedAs,
      relink key row = { row with fromBank := fromBank, bankedAs := bankedAs }) :
    Sound { s with examQuestion := Table.update s.examQuestion relink } := by
  refine { hs with questions := ?_ }
  intro key row hrow
  obtain ⟨old, hold, rfl⟩ := Table.update_cases hrow
  obtain ⟨fromBank, bankedAs, hrow⟩ := hrelink key old
  rw [hrow]
  exact hs.questions key old hold

end Sound

def QuestionWrite.Known (questions : Table ExamQuestionId ExamQuestion) (minted : List Uuid) :
    QuestionWrite → Prop
  | .insert _ _ _ => True
  | .update question _ | .delete question =>
      question.id.uuid ∈ minted ∧
        ∀ row, questions.lookup question.id = some row → row.exam = question.exam

/-- What call `id` knows at a point: whose row its sitting goes to, the question it read, and
the lock it holds. -/
def Knows (id : ℕ) (p : Point) (s : Db) : Prop :=
  match p with
  | .startGuard job => job.attempt.exam = job.exam.id
  | .startInsert job =>
      job.attempt.exam = job.exam.id ∧ s.locks.lookup job.exam.id = some id
  | .questionLock write => write.Known s.examQuestion s.minted
  | .questionCheck write | .questionWrite write =>
      write.Known s.examQuestion s.minted ∧ s.locks.lookup write.exam = some id
  | _ => True

section Steps

variable {id : ℕ} {s s' : Db} {w : World} {p : Point}

variable {exam : ExamId}

theorem lockFree_iff : s.lockFree exam = true ↔ s.locks.lookup exam = none := by
  unfold Db.lockFree
  exact Option.isNone_iff_eq_none

theorem anyForExam_iff :
    s.anyForExam exam = true ↔
      ∃ key attempt, s.examAttempt.lookup key = some attempt ∧ attempt.exam = exam := by
  unfold Db.anyForExam
  rw [Table.any_iff]
  simp

theorem mem_listForUser
    (hs : Sound s) {user : UserId} {attempt : ExamAttempt} :
    attempt ∈ s.listForUser exam user ↔
      s.examAttempt.lookup attempt.id = some attempt ∧ attempt.exam = exam ∧
        attempt.user = user := by
  unfold Db.listForUser
  rw [List.mem_insertionSort, List.mem_filter, List.mem_map, decide_eq_true_eq]
  constructor
  · rintro ⟨⟨⟨key, row⟩, hmem, rfl⟩, hexam, huser⟩
    have hrow := mem_entries_iff_lookup.mp hmem
    have hkey := (hs.attempts key row hrow).1
    exact ⟨by rw [hkey]; exact hrow, hexam, huser⟩
  · rintro ⟨hrow, hexam, huser⟩
    exact ⟨⟨⟨attempt.id, attempt⟩, mem_entries_iff_lookup.mpr hrow, rfl⟩, hexam, huser⟩

theorem anyGraded_eq_false_iff :
    s.anyGraded exam = false ↔ marksCount s.examResult exam = 0 := by
  unfold Db.anyGraded marksCount
  rw [Table.any_eq_false_iff, Table.count_eq_zero_iff]

theorem not_doomed_of_anyLocked
    {q : ExamId → ExamRow → Bool} (hfree : s.anyLocked q = false) :
    ∀ exam holder, s.locks.lookup exam = some holder → s.doomed q exam = false :=
  Table.any_eq_false_iff.mp hfree

theorem not_doomed_of_lockFree
    {target : ExamId} (hfree : s.lockFree target = true) :
    ∀ exam holder, s.locks.lookup exam = some holder →
      s.doomed (fun key _ => key = target) exam = false := by
  intro exam holder hholder
  have hne : exam ≠ target := by
    rintro rfl
    rw [lockFree_iff.mp hfree] at hholder
    cases hholder
  unfold Db.doomed
  cases s.exam.lookup exam <;> simp [hne]

theorem Wrote.sound (h : Wrote id s w p s') (hs : Sound s) (hp : Knows id p s) : Sound s' := by
  cases h with
  | quiet => exact hs
  | user | subject | retired | answered | entered | left =>
      exact hs.frame rfl rfl rfl rfl rfl rfl
  | minted => exact hs.withMinted (List.subset_cons_self _ _)
  | created hfresh => exact hs.created hfresh
  | patched hrow => exact hs.patched hrow _
  | deleted hfree => exact hs.cascade (not_doomed_of_lockFree hfree)
  | swept hfree => exact hs.cascade (not_doomed_of_anyLocked hfree)
  | regraded _ hexam _ hbefore =>
      exact (hs.regraded hexam hbefore).frame rfl rfl rfl rfl rfl rfl
  | graded _ hexam _ hfirst => exact (hs.graded hexam hfirst).frame rfl rfl rfl rfl rfl rfl
  | ungraded => exact hs.ungraded _ _ _
  | startLocked _ hexam | questionLocked _ hexam => exact hs.lock ⟨_, hexam⟩ id
  | startRefused | questionFrozen => exact hs.unlock _
  | sat =>
      have howned : Stands s.exam _ := hs.locks _ _ hp.2
      rw [← hp.1] at howned
      exact ((hs.putAttempt howned rfl).unlock _).frame rfl rfl rfl rfl rfl rfl
  | finished hrow | cleared hrow | stamped _ hrow => exact hs.updateAttempt hrow rfl
  | questionRefused hminted => exact (hs.withMinted hminted).unlock _
  | questionInserted =>
      exact ((hs.insertQuestion (hs.locks _ _ hp.2)).unlock _).frame rfl rfl rfl rfl rfl rfl
  | @questionUpdated question row fields _ _ hrow =>
      have hput := hs.rewriteQuestion hrow (row.withFields fields) rfl rfl
      exact (hput.unlock _).frame rfl rfl rfl rfl rfl rfl
  | questionDeleted =>
      exact ((hs.deleteQuestion _).unlock _).frame rfl rfl rfl rfl rfl rfl
  | relinked hrelink => exact hs.relinked hrelink

theorem Wrote.minted_subset (h : Wrote id s w p s') : s.minted ⊆ s'.minted := by
  cases h with
  | minted | created | questionInserted => exact List.subset_cons_self _ _
  | questionRefused hminted => exact hminted
  | _ => exact List.Subset.refl _

theorem Wrote.locks_kept
    (h : Wrote id s w p s') (hp : Knows id p s) {holder : ℕ}
    (hne : holder ≠ id) (hholder : s.locks.lookup exam = some holder) :
    s'.locks.lookup exam = some holder := by
  have hlock : ∀ target, s.lockFree target = true →
      (s.lock target id).locks.lookup exam = some holder := by
    intro target hfree
    have hkey : exam ≠ target := by
      rintro rfl
      rw [lockFree_iff.mp hfree] at hholder
      cases hholder
    rw [Db.lock, lookup_insert_eq, if_neg hkey, hholder]
  have hunlock : ∀ target, s.locks.lookup target = some id →
      (s.locks.erase target).lookup exam = some holder := by
    intro target hown
    have hkey : exam ≠ target := by
      rintro rfl
      rw [hown] at hholder
      exact hne (Option.some.inj hholder).symm
    rw [lookup_erase_eq, if_neg hkey, hholder]
  cases h with
  | startLocked hfree | questionLocked hfree => exact hlock _ hfree
  | startRefused | sat | questionFrozen | questionRefused | questionInserted
  | questionUpdated | questionDeleted => exact hunlock _ hp.2
  | _ => exact hholder

theorem Wrote.questions_kept
    (h : Wrote id s w p s') {question : ExamQuestionId} {row' : ExamQuestion}
    (hold : question.uuid ∈ s.minted) (hrow' : s'.examQuestion.lookup question = some row') :
    ∃ row, s.examQuestion.lookup question = some row ∧ row.exam = row'.exam := by
  cases h with
  | deleted =>
      rw [Db.cascade, lookup_deleteWhere, Option.filter_eq_some_iff] at hrow'
      exact ⟨row', hrow'.1, rfl⟩
  | swept =>
      rw [Db.sweepInstance, Db.cascade, lookup_deleteWhere,
        Option.filter_eq_some_iff] at hrow'
      exact ⟨row', hrow'.1, rfl⟩
  | questionInserted hfresh =>
      rw [Db.unlock, lookup_insert_eq] at hrow'
      split at hrow'
      · next hkey =>
        subst hkey
        exact absurd hold hfresh
      · exact ⟨row', hrow', rfl⟩
  | questionUpdated _ hrow =>
      rw [Db.unlock, lookup_insert_eq] at hrow'
      split at hrow'
      · next hkey =>
        cases hrow'
        subst hkey
        exact ⟨_, hrow, rfl⟩
      · exact ⟨row', hrow', rfl⟩
  | questionDeleted =>
      rw [Db.unlock, lookup_erase_eq] at hrow'
      split at hrow'
      · cases hrow'
      · exact ⟨row', hrow', rfl⟩
  | relinked hrelink =>
      obtain ⟨row, hrow, rfl⟩ := Table.update_cases hrow'
      obtain ⟨fromBank, bankedAs, hlinks⟩ := hrelink question row
      exact ⟨row, hrow, by rw [hlinks]⟩
  | _ => exact ⟨row', hrow', rfl⟩

theorem Wrote.stands_before
    (h : Wrote id s w p s') (hold : exam.uuid ∈ s.minted)
    (hstands : Stands s'.exam exam) : Stands s.exam exam := by
  obtain ⟨row, hrow⟩ := hstands
  cases h with
  | created hfresh =>
      rw [Db.insertExam, lookup_insert_eq] at hrow
      split at hrow
      · next hkey =>
        subst hkey
        exact absurd hold hfresh
      · exact ⟨row, hrow⟩
  | patched hstored =>
      rw [lookup_insert_eq] at hrow
      split at hrow
      · next hkey => exact ⟨_, hkey ▸ hstored⟩
      · exact ⟨row, hrow⟩
  | graded _ hstored =>
      change (s.exam.insert _ _).lookup exam = some row at hrow
      rw [lookup_insert_eq] at hrow
      split at hrow
      · next hkey => exact ⟨_, hkey ▸ hstored⟩
      · exact ⟨row, hrow⟩
  | ungraded =>
      rw [Db.dropMarks, lookup_update, Option.map_eq_some_iff] at hrow
      obtain ⟨before, hbefore, -⟩ := hrow
      exact ⟨before, hbefore⟩
  | deleted =>
      rw [Db.cascade, lookup_deleteWhere, Option.filter_eq_some_iff] at hrow
      exact ⟨row, hrow.1⟩
  | swept =>
      rw [Db.sweepInstance, Db.cascade, lookup_deleteWhere,
        Option.filter_eq_some_iff] at hrow
      exact ⟨row, hrow.1⟩
  | _ => exact ⟨row, hrow⟩

theorem not_doomed_of_stands
    {q : ExamId → ExamRow → Bool} (hstands : Stands (s.cascade q).exam exam) :
    s.doomed q exam = false := by
  obtain ⟨row, hrow⟩ := hstands
  rw [Db.cascade, lookup_deleteWhere, Option.filter_eq_some_iff] at hrow
  rw [Db.doomed, hrow.1, Option.any_some]
  simpa using hrow.2

theorem Wrote.attempt_kept
    (h : Wrote id s w p s') {key : ExamAttemptId} {attempt : ExamAttempt}
    (hattempt : s.examAttempt.lookup key = some attempt) (hstands : Stands s'.exam attempt.exam) :
    ∃ attempt', s'.examAttempt.lookup key = some attempt' ∧ attempt'.id = attempt.id ∧
      attempt'.startedAt = attempt.startedAt ∧
      (attempt.finishedAt.isSome → attempt'.finishedAt.isSome) := by
  have hput : ∀ {target row row'}, s.examAttempt.lookup target = some row →
      row'.id = row.id → row'.startedAt = row.startedAt →
      (row.finishedAt.isSome → row'.finishedAt.isSome) →
      ∃ attempt', (s.examAttempt.insert target row').lookup key = some attempt' ∧
        attempt'.id = attempt.id ∧ attempt'.startedAt = attempt.startedAt ∧
        (attempt.finishedAt.isSome → attempt'.finishedAt.isSome) := by
    intro target row row' hrow hid hstarted hfinished
    rw [lookup_insert_eq]
    split
    · next hkey =>
      subst hkey
      obtain rfl := Option.some.inj (hattempt.symm.trans hrow)
      exact ⟨row', rfl, hid, hstarted, hfinished⟩
    · exact ⟨attempt, hattempt, rfl, rfl, fun hsome => hsome⟩
  cases h with
  | deleted =>
      refine ⟨attempt, ?_, rfl, rfl, fun hsome => hsome⟩
      rw [Db.cascade, lookup_deleteWhere, hattempt, Option.filter_some,
        not_doomed_of_stands hstands]
      rfl
  | swept =>
      refine ⟨attempt, ?_, rfl, rfl, fun hsome => hsome⟩
      rw [Db.sweepInstance, Db.cascade, lookup_deleteWhere, hattempt, Option.filter_some,
        not_doomed_of_stands hstands]
      rfl
  | sat _ hfirst =>
      refine ⟨attempt, ?_, rfl, rfl, fun hsome => hsome⟩
      rw [Db.unlock, lookup_insert_eq, if_neg, hattempt]
      rintro rfl
      rw [hfirst] at hattempt
      cases hattempt
  | finished hrow => exact hput hrow rfl rfl fun _ => rfl
  | cleared hrow | stamped _ hrow => exact hput hrow rfl rfl fun hsome => hsome
  | _ => exact ⟨attempt, hattempt, rfl, rfl, fun hsome => hsome⟩

theorem Wrote.attempt_cases (h : Wrote id s w p s') :
    (∃ job account, p = .startInsert job ∧ s.appUser.lookup job.attempt.user = some account ∧
      s.examAttempt.lookup job.attempt.id = none ∧
      s'.examAttempt = s.examAttempt.insert job.attempt.id job.attempt ∧
      s'.appUser = s.appUser.insert job.attempt.user
        { account with
          examSatTotal := account.examSatTotal + if job.attempt.seq = 1 then 1 else 0 }) ∨
    ∀ key, (s'.examAttempt.lookup key).isSome → (s.examAttempt.lookup key).isSome := by
  have hput : ∀ {target row} (row' : ExamAttempt), s.examAttempt.lookup target = some row →
      ∀ key, ((s.examAttempt.insert target row').lookup key).isSome →
        (s.examAttempt.lookup key).isSome := by
    intro target row row' hrow key hsome
    rw [lookup_insert_eq] at hsome
    split at hsome
    · next hkey =>
      subst hkey
      exact Option.isSome_of_eq_some hrow
    · exact hsome
  have hcascade : ∀ q key, ((s.cascade q).examAttempt.lookup key).isSome →
      (s.examAttempt.lookup key).isSome := by
    intro q key hsome
    obtain ⟨row, hrow⟩ := Option.isSome_iff_exists.mp hsome
    rw [Db.cascade, lookup_deleteWhere, Option.filter_eq_some_iff] at hrow
    exact Option.isSome_of_eq_some hrow.1
  cases h with
  | @sat job account huser hfirst => exact .inl ⟨job, account, rfl, huser, hfirst, rfl, rfl⟩
  | deleted | swept => exact .inr (hcascade _)
  | finished hrow | cleared hrow | stamped _ hrow => exact .inr (hput _ hrow)
  | _ => exact .inr fun _ hsome => hsome

/-- The only new sitting is the one a create inserts. -/
theorem Wrote.attempt_new
    (h : Wrote id s w p s') {key : ExamAttemptId} {attempt' : ExamAttempt}
    (hattempt' : s'.examAttempt.lookup key = some attempt') :
    (∃ attempt, s.examAttempt.lookup key = some attempt) ∨
      ∃ job, p = .startInsert job ∧ key = job.attempt.id ∧ attempt' = job.attempt ∧
        (s.appUser.lookup job.attempt.user).isSome ∧
        s.examAttempt.lookup job.attempt.id = none := by
  rcases h.attempt_cases with ⟨job, account, rfl, huser, hfirst, hrows, -⟩ | hkept
  · rw [hrows, lookup_insert_eq] at hattempt'
    split at hattempt'
    · next hkey =>
      cases hattempt'
      exact .inr ⟨job, rfl, hkey, rfl, Option.isSome_of_eq_some huser, hfirst⟩
    · exact .inl ⟨attempt', hattempt'⟩
  · exact .inl (Option.isSome_iff_exists.mp (hkept key (Option.isSome_of_eq_some hattempt')))

/-- The only new mark is the one a first grade inserts. -/
theorem Wrote.result_new
    (h : Wrote id s w p s') {key : ExamResultId} {result' : ExamResult}
    (hresult' : s'.examResult.lookup key = some result') :
    (∃ result, s.examResult.lookup key = some result) ∨
      ∃ result kind, p = .gradeTx result kind ∧ key = result.id ∧
        s.examResult.lookup result.id = none := by
  cases h with
  | deleted =>
      rw [Db.cascade, lookup_deleteWhere, Option.filter_eq_some_iff] at hresult'
      exact .inl ⟨result', hresult'.1⟩
  | swept =>
      rw [Db.sweepInstance, Db.cascade, lookup_deleteWhere,
        Option.filter_eq_some_iff] at hresult'
      exact .inl ⟨result', hresult'.1⟩
  | ungraded =>
      rw [Db.dropMarks, lookup_deleteWhere, Option.filter_eq_some_iff] at hresult'
      exact .inl ⟨result', hresult'.1⟩
  | regraded _ _ _ hbefore =>
      rw [lookup_insert_eq] at hresult'
      split at hresult'
      · next hkey => exact .inl ⟨_, hkey ▸ hbefore⟩
      · exact .inl ⟨result', hresult'⟩
  | @graded result kind _ _ _ _ _ hfirst =>
      rw [lookup_insert_eq] at hresult'
      split at hresult'
      · next hkey => exact .inr ⟨result, kind, rfl, hkey, hfirst⟩
      · exact .inl ⟨result', hresult'⟩
  | _ => exact .inl ⟨result', hresult'⟩

/-- An exam gets its first sitting from a create. -/
theorem Wrote.sat_new
    (h : Wrote id s w p s') (hs : Sound s) (hs' : Sound s')
    (hunsat : s.anyForExam exam = false) (hsat : s'.anyForExam exam = true) :
    ∃ job, p = .startInsert job ∧ job.attempt.exam = exam ∧
      (s.appUser.lookup job.attempt.user).isSome ∧
      s.examAttempt.lookup job.attempt.id = none := by
  obtain ⟨key, attempt', hattempt', hexam⟩ := anyForExam_iff.mp hsat
  rcases h.attempt_new hattempt' with ⟨attempt, hattempt⟩ | ⟨job, rfl, -, rfl, hrows⟩
  · have hid : attempt.id = attempt'.id :=
      (hs.attempts _ _ hattempt).1.trans (hs'.attempts _ _ hattempt').1.symm
    have hsat' : s.anyForExam exam = true := anyForExam_iff.mpr
      ⟨key, attempt, hattempt, (congrArg ExamAttemptId.exam hid).trans hexam⟩
    rw [hunsat] at hsat'
    cases hsat'
  · exact ⟨job, rfl, hexam, hrows⟩

/-- An exam gets its first mark from a first grade. -/
theorem Wrote.graded_new
    (h : Wrote id s w p s') (hs : Sound s) (hs' : Sound s')
    (hungraded : s.anyGraded exam = false) (hgraded : s'.anyGraded exam = true) :
    ∃ result kind, p = .gradeTx result kind ∧ result.exam = exam ∧
      s.examResult.lookup result.id = none := by
  obtain ⟨key, result', hresult', hexam⟩ := Table.any_iff.mp hgraded
  have hexam' : result'.exam = exam := by simpa using hexam
  have hkey' := (hs'.results _ _ hresult').1
  rcases h.result_new hresult' with ⟨result, hresult⟩ | ⟨result, kind, rfl, hkey, hfirst⟩
  · have hid : result.id = result'.id := (hs.results _ _ hresult).1.trans hkey'.symm
    have hsame : result.exam = exam := (congrArg ExamResultId.exam hid).trans hexam'
    have hfalse := Table.any_eq_false_iff.mp hungraded key result hresult
    simp [hsame] at hfalse
  · exact ⟨result, kind, rfl, (congrArg ExamResultId.exam (hkey'.trans hkey)).symm.trans hexam',
      hfirst⟩

theorem Wrote.exam_kept
    (h : Wrote id s w p s') (hs : Sound s) {row row' : ExamRow}
    (hrow : s.exam.lookup exam = some row) (hrow' : s'.exam.lookup exam = some row') :
    row'.exam = row.exam ∨
      ∃ job wasResults, p = .patchTxUpdate job wasResults ∧ exam = job.current.id ∧
        row.exam.Unchanged job.current ∧ row.resultCount = wasResults ∧
        row'.exam = row.exam.overwrite job.merged := by
  cases h with
  | created hfresh =>
      rw [Db.insertExam, lookup_insert_eq] at hrow'
      split at hrow'
      · next hkey =>
        subst hkey
        exact absurd (hs.exams _ row hrow).2 hfresh
      · exact .inl (congrArg ExamRow.exam (Option.some.inj (hrow'.symm.trans hrow)))
  | @patched job wasResults stored hstored hunchanged hcount =>
      obtain ⟨hkey, rfl⟩ | ⟨-, hrow'⟩ := insert_cases hrow'
      · rw [hkey, hstored] at hrow
        cases hrow
        exact .inr ⟨job, wasResults, rfl, hkey, hunchanged, hcount, rfl⟩
      · exact .inl (congrArg ExamRow.exam (Option.some.inj (hrow'.symm.trans hrow)))
  | graded _ hstored =>
      change (s.exam.insert _ _).lookup exam = some row' at hrow'
      obtain ⟨hkey, rfl⟩ | ⟨-, hrow'⟩ := insert_cases hrow'
      · rw [hkey, hstored] at hrow
        cases hrow
        exact .inl rfl
      · exact .inl (congrArg ExamRow.exam (Option.some.inj (hrow'.symm.trans hrow)))
  | ungraded =>
      rw [Db.dropMarks, lookup_update, hrow] at hrow'
      cases hrow'
      refine .inl ?_
      split <;> rfl
  | deleted =>
      rw [Db.cascade, lookup_deleteWhere, Option.filter_eq_some_iff] at hrow'
      exact .inl (congrArg ExamRow.exam (Option.some.inj (hrow'.1.symm.trans hrow)))
  | swept =>
      rw [Db.sweepInstance, Db.cascade, lookup_deleteWhere,
        Option.filter_eq_some_iff] at hrow'
      exact .inl (congrArg ExamRow.exam (Option.some.inj (hrow'.1.symm.trans hrow)))
  | _ => exact .inl (congrArg ExamRow.exam (Option.some.inj (hrow'.symm.trans hrow)))

theorem Wrote.known
    (h : Wrote id s w p s') {write : QuestionWrite}
    (hknown : write.Known s.examQuestion s.minted) :
    write.Known s'.examQuestion s'.minted := by
  cases write with
  | insert => trivial
  | update | delete =>
      refine ⟨h.minted_subset hknown.1, ?_⟩
      intro row' hrow'
      obtain ⟨row, hrow, hexam⟩ := h.questions_kept hknown.1 hrow'
      exact hexam ▸ hknown.2 row hrow

/-- What another call knows survives the step. -/
theorem Wrote.knows_kept
    (h : Wrote id s w p s') (hp : Knows id p s) {id' : ℕ} {q : Point} (hne : id' ≠ id)
    (hq : Knows id' q s) : Knows id' q s' := by
  cases q with
  | startInsert => exact ⟨hq.1, h.locks_kept hp hne hq.2⟩
  | questionLock => exact h.known hq
  | questionCheck | questionWrite => exact ⟨h.known hq.1, h.locks_kept hp hne hq.2⟩
  | startGuard => exact hq
  | _ => trivial

theorem Db.lock_lookup (s : Db) (exam : ExamId) (call : ℕ) :
    (s.lock exam call).locks.lookup exam = some call := by
  rw [Db.lock, lookup_insert_eq, if_pos rfl]

/-- What the call itself knows where it arrives. -/
theorem next_knows
    {q : Point} (h : next id s p w = some (s', .goto q)) (hs : Sound s) (hp : Knows id p s) :
    Knows id q s' := by
  have hgates (job : PatchJob) :=
    job.behind_gates (P := fun q => Knows id q s') trivial trivial trivial trivial trivial
  cases next_arrives h with
  | startList => exact rfl
  | @startGuard job row hfree hexam hguard =>
      have hlocked : s' = s.lock job.exam.id id := by
        simpa [next, startGuard, hfree, Db.readExam, hexam, hguard] using h.symm
      rw [hlocked]
      exact ⟨hp, s.lock_lookup _ id⟩
  | @questionRead _ _ _ read write hrow hwrite =>
      obtain rfl : s' = s := (congrArg Prod.fst (Option.some.inj h)).symm
      obtain ⟨hkey, hminted, -⟩ := hs.questions _ _ hrow
      rw [← hkey] at hminted hrow
      have hknown : ∀ row, s'.examQuestion.lookup read.id = some row → row.exam = read.exam := by
        intro row hlookup
        rw [hrow] at hlookup
        cases hlookup
        rfl
      rcases hwrite with rfl | ⟨fields, rfl⟩
      · exact ⟨hminted, hknown⟩
      · exact ⟨hminted, hknown⟩
  | @questionLock write =>
      have hlocked : s' = s.lock write.exam id := by
        simp only [next, questionLock] at h
        split at h
        · split at h
          · cases h
          · cases h
            rfl
        · cases h
      rw [hlocked]
      exact ⟨hp, s.lock_lookup _ id⟩
  | questionCheck hsat =>
      have hsame : s' = s := by simpa [next, questionCheck, hsat] using h.symm
      rw [hsame]
      exact hp
  | patchRead => exact (hgates _).1
  | patchModeGate => exact (hgates _).2.1
  | patchRedraftGraded => exact (hgates _).2.2.1
  | patchKindGate => exact (hgates _).2.2.2
  | _ => trivial

end Steps

theorem rows_relyGuarantee : machine.RelyGuarantee (fun _ _ => True) Sound Knows where
  entry := by
    intro id request s hs
    cases request <;> trivial
  own := by
    intro c id choice p s n hc _ hp hnext
    refine ⟨(next_wrote hnext).sound hc.shared (hc.calls id p hp), ?_⟩
    rintro q rfl
    exact next_knows hnext hc.shared (hc.calls id p hp)
  others := by
    intro c id choice p s n hc _ hp hnext id' q hne hq
    exact (next_wrote hnext).knows_kept (hc.calls id p hp) hne (hc.calls id' q hq)
  rollback := by
    intro c id p hc hp
    refine ⟨hc.shared.releaseLocks id, ?_⟩
    intro id' q hne hq
    have hkept : ∀ {exam}, c.shared.locks.lookup exam = some id' →
        (c.shared.releaseLocks id).locks.lookup exam = some id' := by
      intro exam hlock
      rw [Db.releaseLocks, lookup_deleteWhere, hlock, Option.filter_some]
      simp [hne]
    have hknows := hc.calls id' q hq
    cases q with
    | startInsert | questionCheck | questionWrite => exact ⟨hknows.1, hkept hknows.2⟩
    | startGuard | questionLock => exact hknows
    | _ => trivial

def InOrder (c : Config Db Point) : Prop := c.Holds Sound Knows

theorem InOrder.step
    {c c' : Config Db Point} {m : Move Request World} (hc : InOrder c)
    (hstep : machine.step c m = some c') : InOrder c' :=
  rows_relyGuarantee.holds_step hc trivial hstep

theorem inOrder_start : InOrder start := Config.initial_holds Knows sound_empty

/-- Every reachable configuration is in order. -/
theorem inOrder_run
    {c c' : Config Db Point} {ms : List (Move Request World)} (hc : InOrder c)
    (hrun : machine.run c ms = some c') : InOrder c' :=
  rows_relyGuarantee.holds_run hc (Machine.guarded_true c ms) hrun

theorem InOrder.guarded {c : Config Db Point} (hc : InOrder c) (ms : List (Move Request World)) :
    machine.Guarded (fun c _ => InOrder c) c ms :=
  (Machine.guarded_true c ms).invariant (fun hc _ hstep => hc.step hstep) hc

/-- The exam whose row a call holds `FOR UPDATE`. -/
def Point.held : Point → Option ExamId
  | .startInsert job => some job.exam.id
  | .questionCheck write | .questionWrite write => some write.exam
  | _ => none

theorem Knows.held {s : Db} {id : ℕ} {p : Point} {exam : ExamId} (h : Knows id p s)
    (hheld : p.held = some exam) : s.locks.lookup exam = some id := by
  cases p <;> cases hheld <;> exact h.2

/-- One call at a time creates a sitting or writes a question under an exam, the exam stands
meanwhile, and no mark, sitting or question is left behind by its exam. -/
theorem exam_rows_guarded
    {ms : List (Move Request World)} {c : Config Db Point} (hrun : machine.run start ms = some c) :
    (∀ id id' p p' exam, c.calls.lookup id = some p → c.calls.lookup id' = some p' →
      p.held = some exam → p'.held = some exam → id = id') ∧
    (∀ id p exam, c.calls.lookup id = some p → p.held = some exam →
      Stands c.shared.exam exam) ∧
    ResultsOwned c.shared.exam c.shared.examResult ∧
    AttemptsOwned c.shared.exam c.shared.examAttempt ∧
    QuestionsOwned c.shared.exam c.shared.examQuestion c.shared.minted := by
  have hc := inOrder_run inOrder_start hrun
  refine ⟨?_, ?_, hc.shared.results, hc.shared.attempts, hc.shared.questions⟩
  · intro id id' p p' exam hp hp' hheld hheld'
    have hlock := (hc.calls id p hp).held hheld
    have hlock' := (hc.calls id' p' hp').held hheld'
    exact Option.some.inj (hlock.symm.trans hlock')
  · intro id p exam hp hheld
    exact hc.shared.locks exam id ((hc.calls id p hp).held hheld)

open Sample in
theorem exam_rows_guarded_startQuiz :
    ∃ c p, machine.run start (opening ++ [startQuiz, tick 4, tick 4, tick 4]) = some c ∧
      c.calls.lookup 4 = some p ∧ p.held = some quizId ∧ Stands c.shared.exam quizId := by
  have hend : (machine.run start (opening ++ [startQuiz, tick 4, tick 4, tick 4])).any (fun c =>
      (c.calls.lookup 4).any fun p => decide (p.held = some quizId)) = true := by
    decide
  obtain ⟨c, hrun, hcall⟩ := (Option.any_eq_true _ _).mp hend
  obtain ⟨p, hp, hheld⟩ := (Option.any_eq_true _ _).mp hcall
  have hheld := of_decide_eq_true hheld
  exact ⟨c, p, hrun, hp, hheld, (exam_rows_guarded hrun).2.1 4 p quizId hp hheld⟩

end Hezarfen.Exams
