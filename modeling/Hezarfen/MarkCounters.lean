import Hezarfen.ExamRows
import Hezarfen.HomeworkSteps
import Hezarfen.Requests

/-!
# The mark counters of the accounts

`marks_given_total` is credited by the first grade of a sitting or of a homework and
refunded by the un-grade to whoever the stored row names; `high_mark_total` moves by
the difference between the new and the stored mark.  A regrade rewrites the grader of
the row and moves no `marks_given_total`, so the counter follows the rows exactly as
long as every regrade names the grader already stored.  `high_mark_total` follows them
always, and its clamp at zero never bites.
-/

namespace Hezarfen.Homeworks

open Exams (ExamId ExamResult ExamResultId Mark)

inductive MarkRequest where
  | gradeExam (result : ExamResult) (kind : String)
  | removeExam (exam : ExamId) (user : UserId) (kind : String)
  | gradeHomework (id : HomeworkResultId) (homework : HomeworkId) (user : UserId)
      (verdict : Verdict) (now : Timestamp)
  | removeHomework (homework : HomeworkId) (user : UserId)

def serve : MarkRequest → Db → Db
  | .gradeExam result kind, s =>
      { s with exams := (txWithRetry (Exams.gradeTx result kind) s.exams).2 }
  | .removeExam exam user kind, s =>
      { s with exams := (txWithRetry (Exams.removeTx exam user kind) s.exams).2 }
  | .gradeHomework id homework user verdict now, s =>
      (txWithRetry (gradeTx id homework user verdict now) s).2
  | .removeHomework homework user, s => (txWithRetry (removeTx homework user) s).2

def Db.marksGiven (s : Db) (user : UserId) : ℕ :=
  Table.count s.exams.examResult (fun _ result => result.gradedBy = user) +
    Table.count s.homeworkResult fun _ result => result.gradedBy = user

/-- The exam marks of the student that clear `highMarkMin`. -/
def Db.highMarks (s : Db) (user : UserId) : ℕ :=
  Table.count s.exams.examResult fun _ result => result.user = user ∧ result.mark.isHigh = true

def Db.GivenCounted (s : Db) : Prop :=
  ∀ user row, s.exams.appUser.lookup user = some row →
    row.marksGivenTotal = s.marksGiven user

def Db.HighCounted (s : Db) : Prop :=
  ∀ user row, s.exams.appUser.lookup user = some row → row.highMarkTotal = s.highMarks user

def Db.MarksKeyed (s : Db) : Prop :=
  ∀ id result, s.exams.examResult.lookup id = some result → result.id = id

def markLands (s : Exams.Db) (result : ExamResult) (kind : String) : Bool :=
  (s.exam.lookup result.exam).any (fun row => !row.exam.draft) &&
    (s.appUser.lookup result.user).isSome && (s.appUser.lookup result.gradedBy).isSome &&
    ((s.examResult.lookup result.id).isSome || (Exams.claimKind s.kindRef kind).isSome)

def highDelta (s : Db) : MarkRequest → UserId → ℤ
  | .gradeExam result kind, user =>
      if markLands s.exams result kind ∧ user = result.user then
        (if result.mark.isHigh then 1 else 0) -
          (if (s.exams.examResult.lookup result.id).any (fun row => row.mark.isHigh) then 1 else 0)
      else 0
  | .removeExam exam student _, user =>
      if user = student then
        -((s.exams.marksOf exam student).countP fun result => result.mark.isHigh : ℕ)
      else 0
  | .gradeHomework .., _ | .removeHomework .., _ => 0

def givenDelta (s : Db) : MarkRequest → UserId → ℤ
  | .gradeExam result kind, user =>
      if markLands s.exams result kind ∧ s.exams.examResult.lookup result.id = none ∧
          user = result.gradedBy then 1
      else 0
  | .removeExam exam student _, user =>
      -((s.exams.marksOf exam student).countP fun result => result.gradedBy = user : ℕ)
  | .gradeHomework _ homework student verdict _, user =>
      if s.gradeLands homework student verdict.gradedBy ∧ s.resultFor homework student = none ∧
          user = verdict.gradedBy then 1
      else 0
  | .removeHomework homework student, user =>
      if (s.homework.lookup homework).isSome ∧
          (s.resultFor homework student).any (fun row => row.gradedBy = user) then -1
      else 0

def regrade (s : Db) : MarkRequest → Option (UserId × UserId)
  | .gradeExam result kind =>
      if markLands s.exams result kind then
        (s.exams.examResult.lookup result.id).map fun before => (before.gradedBy, result.gradedBy)
      else none
  | .gradeHomework _ homework student verdict _ =>
      if s.gradeLands homework student verdict.gradedBy then
        (s.resultFor homework student).map fun before => (before.gradedBy, verdict.gradedBy)
      else none
  | .removeExam .. | .removeHomework .. => none

def sameGrader (s : Db) (r : MarkRequest) : Bool := (regrade s r).all fun pair => pair.1 = pair.2

def graderShift (s : Db) (r : MarkRequest) (user : UserId) : ℤ :=
  (regrade s r).elim 0 fun pair =>
    (if pair.2 = user then 1 else 0) - (if pair.1 = user then 1 else 0)

/-- A counter that is not negative moves by `delta` under the clamp. -/
def Clamped (total total' delta : ℤ) : Prop := 0 ≤ total → total' = max (total + delta) 0

theorem clamped_zero (total : ℤ) : Clamped total total 0 := by
  intro h
  omega

theorem clamped_add {total total' delta : ℤ} (h : total' = total + delta) (hdelta : 0 ≤ delta) :
    Clamped total total' delta := by
  intro htotal
  omega

theorem clamped_max {total total' delta : ℤ} (h : total' = max (total + delta) 0) :
    Clamped total total' delta := fun _ => h

structure Moved (s s' : Db) (given shift high : UserId → ℤ) : Prop where
  accounts : ∀ user, ∃ f : Exams.AppUser → Exams.AppUser,
    s'.exams.appUser.lookup user = (s.exams.appUser.lookup user).map f ∧
      ∀ row, Clamped row.marksGivenTotal (f row).marksGivenTotal (given user) ∧
        Clamped row.highMarkTotal (f row).highMarkTotal (high user)
  graders : ∀ user, (s'.marksGiven user : ℤ) = s.marksGiven user + given user + shift user
  highs : ∀ user, (s'.highMarks user : ℤ) = s.highMarks user + high user

theorem Moved.nothing
    {s s' : Db} {given shift high : UserId → ℤ} (hexams : s'.exams = s.exams)
    (hresults : s'.homeworkResult = s.homeworkResult) (hgiven : ∀ user, given user = 0)
    (hshift : ∀ user, shift user = 0) (hhigh : ∀ user, high user = 0) :
    Moved s s' given shift high := by
  constructor
  · intro user
    refine ⟨fun row => row, by simp [hexams], fun row => ?_⟩
    rw [hgiven, hhigh]
    exact ⟨clamped_zero _, clamped_zero _⟩
  · intro user
    rw [hgiven, hshift]
    simp [Db.marksGiven, hexams, hresults]
  · intro user
    rw [hhigh]
    simp [Db.highMarks, hexams]

/-! ## Exam marks -/

theorem lookup_moveHigh
    (users : Table UserId Exams.AppUser) (student : UserId) (before : Option Mark) (mark : Mark)
    (user : UserId) :
    ∃ f : Exams.AppUser → Exams.AppUser,
      (Exams.moveHigh users student before mark).lookup user = (users.lookup user).map f ∧
        ∀ row, (f row).marksGivenTotal = row.marksGivenTotal ∧
          Clamped row.highMarkTotal (f row).highMarkTotal
            (if user = student then
              (if mark.isHigh then 1 else 0) - (if before.any Mark.isHigh then 1 else 0)
            else 0) := by
  unfold Exams.moveHigh
  dsimp only
  generalize (if mark.isHigh = true then (1 : ℤ) else 0) -
    (if Option.any Mark.isHigh before = true then 1 else 0) = high
  by_cases hmove : high ≠ 0
  · rw [if_pos hmove]
    refine ⟨_, lookup_update _ _ user, fun row => ?_⟩
    by_cases huser : user = student
    · simp only [huser, if_true]
      exact ⟨trivial, clamped_max rfl⟩
    · simp only [huser, if_false]
      exact ⟨trivial, clamped_zero _⟩
  · rw [if_neg hmove]
    rw [not_not] at hmove
    refine ⟨fun row => row, by simp, fun row => ⟨rfl, ?_⟩⟩
    rw [hmove, ite_self]
    exact clamped_zero _

theorem account_moveHigh
    (users : Table UserId Exams.AppUser) (student : UserId) (before : Option Mark) (mark : Mark)
    (user : UserId) :
    ((Exams.moveHigh users student before mark).lookup user).isSome =
      (users.lookup user).isSome := by
  obtain ⟨f, hf, -⟩ := lookup_moveHigh users student before mark user
  rw [hf, Option.isSome_map]

theorem account_claimMark
    (s : Exams.Db) (exam : ExamId) (row : Exams.ExamRow) (gradedBy : UserId)
    (refs : Table String Exams.KindRef) (user : UserId) :
    ((s.claimMark exam row gradedBy refs).appUser.lookup user).isSome =
      (s.appUser.lookup user).isSome := by
  rw [Exams.Db.claimMark, Exams.Db.updateUser, lookup_update, Option.isSome_map]

/-- The upsert behind writes that keep every account. -/
theorem putResult_eq
    (s s' : Exams.Db)
    (haccounts : ∀ user, (s'.appUser.lookup user).isSome = (s.appUser.lookup user).isSome)
    (result : ExamResult) :
    s'.putResult result =
      if (s.appUser.lookup result.user).isSome ∧ (s.appUser.lookup result.gradedBy).isSome then
        .ok (result, { s' with examResult := s'.examResult.insert result.id result })
      else .error .db := by
  unfold Exams.Db.putResult
  rw [haccounts, haccounts]

def firstMark (s : Exams.Db) (result : ExamResult) (row : Exams.ExamRow)
    (refs : Table String Exams.KindRef) : Exams.Db :=
  { (s.claimMark result.exam row result.gradedBy refs).moveHigh result.user none result.mark with
    examResult := s.examResult.insert result.id result }

def secondMark (s : Exams.Db) (result before : ExamResult) : Exams.Db :=
  { s.moveHigh result.user (some before.mark) result.mark with
    examResult := s.examResult.insert result.id result }

theorem gradeTx_cases (s : Exams.Db) (result : ExamResult) (kind : String) :
    (markLands s result kind = false ∧ (txWithRetry (Exams.gradeTx result kind) s).2 = s) ∨
    (markLands s result kind = true ∧ ∃ before, s.examResult.lookup result.id = some before ∧
      (txWithRetry (Exams.gradeTx result kind) s).2 = secondMark s result before) ∨
    (markLands s result kind = true ∧ s.examResult.lookup result.id = none ∧ ∃ row refs,
      (txWithRetry (Exams.gradeTx result kind) s).2 = firstMark s result row refs) := by
  unfold txWithRetry Exams.gradeTx markLands
  cases hexam : s.exam.lookup result.exam with
  | none => simp
  | some row =>
      cases hdraft : row.exam.draft with
      | true => simp [hdraft]
      | false =>
          cases hbefore : s.examResult.lookup result.id with
          | some before =>
              have hput := putResult_eq s (s.moveHigh result.user (some before.mark) result.mark)
                (fun user => account_moveHigh _ _ _ _ user) result
              by_cases haccounts : (s.appUser.lookup result.user).isSome = true ∧
                (s.appUser.lookup result.gradedBy).isSome = true
              · rw [if_pos haccounts] at hput
                refine .inr (.inl ⟨by simp [haccounts, hdraft], before, rfl, ?_⟩)
                simp only [hdraft, hput]
                rfl
              · rw [if_neg haccounts] at hput
                refine .inl ⟨by simpa [hdraft] using haccounts, ?_⟩
                simp only [hdraft, hput]
                rfl
          | none =>
              cases hclaim : Exams.claimKind s.kindRef kind with
              | none => simp [hdraft]
              | some refs =>
                  have hput := putResult_eq s
                    ((s.claimMark result.exam row result.gradedBy refs).moveHigh result.user none
                      result.mark)
                    (fun user => (account_moveHigh _ _ _ _ user).trans
                      (account_claimMark s _ _ _ _ user)) result
                  by_cases haccounts : (s.appUser.lookup result.user).isSome = true ∧
                    (s.appUser.lookup result.gradedBy).isSome = true
                  · rw [if_pos haccounts] at hput
                    refine .inr (.inr ⟨by simp [haccounts, hdraft], rfl, row, refs, ?_⟩)
                    simp only [hdraft, hput]
                    rfl
                  · rw [if_neg haccounts] at hput
                    refine .inl ⟨by simpa [hdraft] using haccounts, ?_⟩
                    simp only [hdraft, hput]
                    rfl

theorem count_gradedBy_insert
    (results : Table ExamResultId ExamResult) (result : ExamResult) (user : UserId) :
    (Table.count (results.insert result.id result) (fun _ row => row.gradedBy = user) : ℤ) =
      Table.count results (fun _ row => row.gradedBy = user) +
        (if result.gradedBy = user then 1 else 0) -
        (if (results.lookup result.id).any (fun row => row.gradedBy = user) then 1 else 0) := by
  have hinsert := Table.count_insert results result.id result fun _ row => row.gradedBy = user
  simp only [decide_eq_true_eq] at hinsert
  split_ifs at hinsert ⊢ <;> omega

theorem count_high_insert
    (results : Table ExamResultId ExamResult)
    (hkeyed : ∀ id row, results.lookup id = some row → row.id = id) (result : ExamResult)
    (user : UserId) :
    (Table.count (results.insert result.id result)
        (fun _ row => row.user = user ∧ row.mark.isHigh = true) : ℤ) =
      Table.count results (fun _ row => row.user = user ∧ row.mark.isHigh = true) +
        (if user = result.user then
          (if result.mark.isHigh then 1 else 0) -
            (if (results.lookup result.id).any (fun row => row.mark.isHigh) then 1 else 0)
        else 0) := by
  have hinsert := Table.count_insert results result.id result fun _ row =>
    row.user = user ∧ row.mark.isHigh = true
  have hbefore : (results.lookup result.id).any
      (fun row => decide (row.user = user ∧ row.mark.isHigh = true)) =
        (decide (user = result.user) &&
          (results.lookup result.id).any fun row => row.mark.isHigh) := by
    cases hrow : results.lookup result.id with
    | none => simp
    | some row =>
        have hid := hkeyed _ row hrow
        have hsame : row.user = result.user := congrArg ExamResultId.user hid
        by_cases huser : user = result.user
        · simp [hsame, huser]
        · simp [hsame, huser, Ne.symm huser]
  rw [hbefore] at hinsert
  by_cases huser : user = result.user
  · subst huser
    simp only [decide_true, Bool.true_and, true_and, if_true, decide_eq_true_eq] at hinsert ⊢
    split_ifs at hinsert ⊢ <;> omega
  · simp only [huser, Ne.symm huser, decide_false, Bool.false_and, false_and, if_false,
      Bool.false_eq_true] at hinsert ⊢
    omega

theorem countP_marksOf (s : Exams.Db) (exam : ExamId) (user : UserId) (p : ExamResult → Bool) :
    (s.marksOf exam user).countP p =
      Table.count s.examResult fun _ result =>
        decide (result.exam = exam ∧ result.user = user) && p result := by
  have hsame : (s.marksOf exam user).countP p =
      (((s.examResult.entries.map fun row => row.2).filter fun result =>
        result.exam = exam ∧ result.user = user).filter p).length := by
    rw [← List.countP_eq_length_filter]
    exact (List.perm_insertionSort _ _).countP_eq p
  rw [hsame, List.filter_filter, Table.length_filter_rows]
  apply Table.count_congr
  intro key result _
  rw [Bool.and_comm]

theorem count_dropMarks
    (s : Exams.Db) (exam : ExamId) (user : UserId) (kind : String) (p : ExamResult → Bool) :
    Table.count (s.dropMarks exam user kind).examResult (fun _ result => p result) +
      (s.marksOf exam user).countP p = Table.count s.examResult fun _ result => p result := by
  rw [countP_marksOf]
  exact Table.count_deleteWhere_add s.examResult
    (fun _ result => result.exam = exam ∧ result.user = user) fun _ result => p result

theorem gradeExam_moved {s : Db} (hkeyed : s.MarksKeyed) (result : ExamResult) (kind : String) :
    Moved s (serve (.gradeExam result kind) s) (givenDelta s (.gradeExam result kind))
      (graderShift s (.gradeExam result kind)) (highDelta s (.gradeExam result kind)) := by
  obtain ⟨hrefused, hstore⟩ | ⟨hlands, before, hbefore, hstore⟩ |
    ⟨hlands, hnone, row, refs, hstore⟩ := gradeTx_cases s.exams result kind
  · simp only [serve, hstore]
    exact .nothing rfl rfl (by simp [givenDelta, hrefused])
      (by simp [graderShift, regrade, hrefused])
      (by simp [highDelta, hrefused])
  · simp only [serve, hstore]
    constructor
    · intro user
      obtain ⟨f, hf, hmove⟩ :=
        lookup_moveHigh s.exams.appUser result.user (some before.mark) result.mark user
      refine ⟨f, hf, fun row => ⟨?_, ?_⟩⟩
      · rw [(hmove row).1]
        simpa [givenDelta, hbefore] using clamped_zero row.marksGivenTotal
      · simpa [highDelta, hlands, hbefore] using (hmove row).2
    · intro user
      have hcount := count_gradedBy_insert s.exams.examResult result user
      simp only [hbefore, Option.any_some, decide_eq_true_eq] at hcount
      simp only [Db.marksGiven, secondMark, givenDelta, graderShift, regrade, hlands, hbefore,
        Nat.cast_add, reduceCtorEq, false_and, and_false, if_false, if_true, Option.map_some,
        Option.elim_some]
      omega
    · intro user
      have hcount := count_high_insert s.exams.examResult hkeyed result user
      simp only [Db.highMarks, secondMark, highDelta, hlands, true_and]
      exact hcount
  · simp only [serve, hstore]
    constructor
    · intro user
      obtain ⟨f, hf, hmove⟩ := lookup_moveHigh
        (s.exams.claimMark result.exam row result.gradedBy refs).appUser result.user none
        result.mark user
      have hclaim : (s.exams.claimMark result.exam row result.gradedBy refs).appUser.lookup user =
          (s.exams.appUser.lookup user).map fun row =>
            if user = result.gradedBy then { row with marksGivenTotal := row.marksGivenTotal + 1 }
            else row := lookup_update _ _ user
      refine ⟨_, hf.trans ((congrArg (Option.map f) hclaim).trans (Option.map_map _ _ _)), ?_⟩
      intro account
      simp only [Function.comp_apply]
      constructor
      · rw [(hmove _).1]
        by_cases huser : user = result.gradedBy
        · simp only [huser, if_true, givenDelta, hlands, hnone, true_and]
          exact clamped_add rfl (by omega)
        · simp only [huser, if_false, givenDelta, and_false]
          exact clamped_zero _
      · have hhigh := (hmove (if user = result.gradedBy then
          { account with marksGivenTotal := account.marksGivenTotal + 1 } else account)).2
        have hsame : (if user = result.gradedBy then
            { account with marksGivenTotal := account.marksGivenTotal + 1 }
            else account).highMarkTotal = account.highMarkTotal := by
          split <;> rfl
        rw [hsame] at hhigh
        simpa [highDelta, hlands, hnone] using hhigh
    · intro user
      have hcount := count_gradedBy_insert s.exams.examResult result user
      simp only [hnone, Option.any_none, Bool.false_eq_true, if_false, sub_zero] at hcount
      have hshift : graderShift s (.gradeExam result kind) user = 0 := by
        simp [graderShift, regrade, hnone]
      have hgiven : givenDelta s (.gradeExam result kind) user =
          if result.gradedBy = user then 1 else 0 := by
        simp only [givenDelta, hlands, hnone, true_and, eq_comm]
      rw [hshift, hgiven]
      simp only [Db.marksGiven, firstMark, Nat.cast_add]
      omega
    · intro user
      have hcount := count_high_insert s.exams.examResult hkeyed result user
      simp only [Db.highMarks, firstMark, highDelta, hlands, true_and]
      exact hcount

theorem removeExam_moved (s : Db) (exam : ExamId) (student : UserId) (kind : String) :
    Moved s (serve (.removeExam exam student kind) s)
      (givenDelta s (.removeExam exam student kind))
      (graderShift s (.removeExam exam student kind))
      (highDelta s (.removeExam exam student kind)) := by
  have hshift : ∀ user, graderShift s (.removeExam exam student kind) user = 0 := fun _ => rfl
  cases hgone : s.exams.marksOf exam student with
  | nil =>
      have hstore : serve (.removeExam exam student kind) s = s := by
        simp [serve, txWithRetry, Exams.removeTx, hgone]
      rw [hstore]
      exact .nothing rfl rfl (by simp [givenDelta, hgone]) hshift (by simp [highDelta, hgone])
  | cons first rest =>
      have hstore : serve (.removeExam exam student kind) s =
          { s with exams := s.exams.dropMarks exam student kind } := by
        simp [serve, txWithRetry, Exams.removeTx, hgone]
      rw [hstore]
      constructor
      · intro user
        refine ⟨_, lookup_update _ _ user, fun row => ?_⟩
        simp only [givenDelta, highDelta]
        generalize ((s.exams.marksOf exam student).countP fun result =>
          decide (result.gradedBy = user)) = given
        generalize ((s.exams.marksOf exam student).countP fun result =>
          result.mark.isHigh) = high
        by_cases hhigh : user = student ∧ (0 : ℤ) < high
        · by_cases hgiven : (0 : ℤ) < given
          · simp only [if_pos hhigh, if_pos hgiven, if_pos hhigh.1]
            exact ⟨clamped_max rfl, clamped_max rfl⟩
          · simp only [if_pos hhigh, if_neg hgiven, if_pos hhigh.1]
            exact ⟨fun h => by omega, clamped_max rfl⟩
        · have hidle : Clamped row.highMarkTotal row.highMarkTotal
              (if user = student then -(high : ℤ) else 0) := by
            intro h
            by_cases huser : user = student
            · rw [if_pos huser]
              have hzero : ¬ (0 : ℤ) < high := fun h => hhigh ⟨huser, h⟩
              omega
            · rw [if_neg huser]
              omega
          by_cases hgiven : (0 : ℤ) < given
          · simp only [if_neg hhigh, if_pos hgiven]
            exact ⟨clamped_max rfl, hidle⟩
          · simp only [if_neg hhigh, if_neg hgiven]
            exact ⟨fun h => by omega, hidle⟩
      · intro user
        have hcount := count_dropMarks s.exams exam student kind
          fun result => decide (result.gradedBy = user)
        rw [hshift]
        simp only [Db.marksGiven, givenDelta, Nat.cast_add]
        omega
      · intro user
        have hcount := count_dropMarks s.exams exam student kind
          fun result => decide (result.user = user ∧ result.mark.isHigh = true)
        have hpair : (s.exams.marksOf exam student).countP
            (fun result => decide (result.user = user ∧ result.mark.isHigh = true)) =
              if user = student then
                (s.exams.marksOf exam student).countP fun result => result.mark.isHigh
              else 0 := by
          rw [countP_marksOf, countP_marksOf]
          split
          · next huser =>
            subst huser
            apply Table.count_congr
            intro key result _
            by_cases hresult : result.user = user <;> simp [hresult]
          · next huser =>
            rw [Table.count_eq_zero_iff]
            intro key result _
            by_cases hresult : result.user = student
            · simp [hresult, Ne.symm huser]
            · simp [hresult]
        rw [hpair] at hcount
        simp only [Db.highMarks, highDelta]
        split_ifs at hcount ⊢ <;> omega

/-! ## Homework grades -/

theorem count_gradedBy_putResult (s : Db) (graded : HomeworkResult) (user : UserId) :
    (Table.count (s.putResult graded).homeworkResult (fun _ row => row.gradedBy = user) : ℤ) =
      Table.count s.homeworkResult (fun _ row => row.gradedBy = user) +
        (if graded.gradedBy = user then 1 else 0) -
        (if (s.resultFor graded.homework graded.user).any (fun row => row.gradedBy = user)
          then 1 else 0) := by
  have hinsert := Table.count_insert s.homeworkResult (graded.homework, graded.user) graded
    fun _ row => row.gradedBy = user
  have hrows : (s.putResult graded).homeworkResult =
      s.homeworkResult.insert (graded.homework, graded.user) graded := rfl
  rw [hrows]
  simp only [decide_eq_true_eq] at hinsert
  unfold Db.resultFor
  split_ifs at hinsert ⊢ <;> omega

/-- The account of a grader under a move of its counter. -/
theorem lookup_moveGiven (s : Db) (grader : UserId) (g : ℤ → ℤ) (user : UserId) :
    (s.moveGiven grader g).exams.appUser.lookup user = (s.exams.appUser.lookup user).map fun row =>
      if user = grader then { row with marksGivenTotal := g row.marksGivenTotal } else row :=
  lookup_update _ _ user

theorem gradeTx_store
    (s : Db) (id : HomeworkResultId) (homework : HomeworkId) (user : UserId) (verdict : Verdict)
    (now : Timestamp) :
    (s.gradeLands homework user verdict.gradedBy = false ∧
      (txWithRetry (gradeTx id homework user verdict now) s).2 = s) ∨
    (s.gradeLands homework user verdict.gradedBy = true ∧ ∃ graded : HomeworkResult,
      graded.homework = homework ∧ graded.user = user ∧ graded.gradedBy = verdict.gradedBy ∧
      (txWithRetry (gradeTx id homework user verdict now) s).2 =
        if (s.resultFor homework user).isSome then s.putResult graded
        else (s.putResult graded).moveGiven verdict.gradedBy (· + 1)) := by
  unfold txWithRetry gradeTx Db.gradeLands
  cases hhomework : s.homework.lookup homework with
  | none => simp
  | some =>
      by_cases haccounts : s.account user = true ∧ s.account verdict.gradedBy = true
      · let graded : HomeworkResult :=
          { id := ((s.resultFor homework user).map HomeworkResult.id).getD id
            homework := homework
            user := user
            status := verdict.status
            mark := verdict.mark
            gradedBy := verdict.gradedBy
            createdAt := now }
        refine .inr ⟨by simp [haccounts], graded, rfl, rfl, rfl, ?_⟩
        simp only [if_pos haccounts]
        rfl
      · refine .inl ⟨by simpa using haccounts, ?_⟩
        simp only [if_neg haccounts]

theorem gradeHomework_moved
    (s : Db) (id : HomeworkResultId) (homework : HomeworkId) (student : UserId)
    (verdict : Verdict) (now : Timestamp) :
    Moved s (serve (.gradeHomework id homework student verdict now) s)
      (givenDelta s (.gradeHomework id homework student verdict now))
      (graderShift s (.gradeHomework id homework student verdict now))
      (highDelta s (.gradeHomework id homework student verdict now)) := by
  obtain ⟨hrefused, hstore⟩ | ⟨hlands, graded, hhomework, huser, hgrader, hstore⟩ :=
    gradeTx_store s id homework student verdict now
  · simp only [serve, hstore]
    exact .nothing rfl rfl (by simp [givenDelta, hrefused])
      (by simp [graderShift, regrade, hrefused])
      fun _ => rfl
  · simp only [serve, hstore]
    have hrows := count_gradedBy_putResult s graded
    simp only [hhomework, huser, hgrader] at hrows
    cases hbefore : s.resultFor homework student with
    | some before =>
        simp only [Option.isSome_some, if_true]
        constructor
        · intro user
          refine ⟨fun row => row, by simp [Db.putResult, Db.stamp], fun row => ⟨?_, ?_⟩⟩
          · simpa [givenDelta, hbefore] using clamped_zero row.marksGivenTotal
          · exact clamped_zero _
        · intro user
          have hcount := hrows user
          simp only [hbefore, Option.any_some, decide_eq_true_eq] at hcount
          have hexams : (s.putResult graded).exams = s.exams := rfl
          simp only [Db.marksGiven, hexams, givenDelta, graderShift, regrade, hlands, hbefore,
            Nat.cast_add, reduceCtorEq, false_and, and_false, if_false, if_true, Option.map_some,
            Option.elim_some]
          omega
        · intro user
          simp only [highDelta]
          exact (add_zero _).symm
    | none =>
        simp only [Option.isSome_none, Bool.false_eq_true, if_false]
        have hgiven : ∀ user,
            givenDelta s (.gradeHomework id homework student verdict now) user =
              if verdict.gradedBy = user then 1 else 0 := by
          intro user
          simp only [givenDelta, hlands, hbefore, true_and, eq_comm]
        constructor
        · intro user
          refine ⟨_, lookup_moveGiven _ _ _ user, fun row => ?_⟩
          rw [hgiven]
          by_cases hself : user = verdict.gradedBy
          · subst hself
            simp only [if_true]
            exact ⟨clamped_add rfl (by omega), clamped_zero _⟩
          · simp only [hself, Ne.symm hself, if_false]
            exact ⟨clamped_zero _, clamped_zero _⟩
        · intro user
          have hcount := hrows user
          simp only [hbefore, Option.any_none, Bool.false_eq_true, if_false, sub_zero] at hcount
          have hshift : graderShift s (.gradeHomework id homework student verdict now) user =
              0 := by
            simp [graderShift, regrade, hbefore]
          have hexams : ((s.putResult graded).moveGiven verdict.gradedBy (· + 1)).exams.examResult =
              s.exams.examResult := rfl
          have hresults :
              ((s.putResult graded).moveGiven verdict.gradedBy (· + 1)).homeworkResult =
                (s.putResult graded).homeworkResult := rfl
          rw [hgiven, hshift]
          simp only [Db.marksGiven, hexams, hresults, Nat.cast_add]
          omega
        · intro user
          simp only [highDelta]
          exact (add_zero _).symm

theorem removeHomework_moved (s : Db) (homework : HomeworkId) (student : UserId) :
    Moved s (serve (.removeHomework homework student) s)
      (givenDelta s (.removeHomework homework student))
      (graderShift s (.removeHomework homework student))
      (highDelta s (.removeHomework homework student)) := by
  cases hhomework : s.homework.lookup homework with
  | none =>
      have hstore : serve (.removeHomework homework student) s = s := by
        simp [serve, txWithRetry, removeTx, hhomework]
      rw [hstore]
      exact .nothing rfl rfl (by simp [givenDelta, hhomework]) (fun _ => rfl) fun _ => rfl
  | some row =>
      cases hremoved : s.resultFor homework student with
      | none =>
          have hstore : serve (.removeHomework homework student) s =
              s.unstamp homework student := by
            simp [serve, txWithRetry, removeTx, hhomework, hremoved]
          rw [hstore]
          exact .nothing rfl rfl (by simp [givenDelta, hremoved]) (fun _ => rfl) fun _ => rfl
      | some removed =>
          have hstore : serve (.removeHomework homework student) s =
              (s.dropResult homework student).moveGiven removed.gradedBy fun given =>
                max (given - 1) 0 := by
            simp [serve, txWithRetry, removeTx, hhomework, hremoved]
          have hgiven : ∀ user, givenDelta s (.removeHomework homework student) user =
              if removed.gradedBy = user then -1 else 0 := by
            intro user
            simp [givenDelta, hhomework, hremoved]
          rw [hstore]
          constructor
          · intro user
            refine ⟨_, lookup_moveGiven _ _ _ user, fun row => ?_⟩
            rw [hgiven]
            by_cases hself : user = removed.gradedBy
            · subst hself
              simp only [if_true]
              exact ⟨clamped_max rfl, clamped_zero _⟩
            · simp only [hself, Ne.symm hself, if_false]
              exact ⟨clamped_zero _, clamped_zero _⟩
          · intro user
            have hcount := Table.count_erase s.homeworkResult (homework, student)
              fun _ row => decide (row.gradedBy = user)
            have hlookup : s.homeworkResult.lookup (homework, student) = some removed := hremoved
            have hshift : graderShift s (.removeHomework homework student) user = 0 := rfl
            have hresults : ((s.dropResult homework student).moveGiven removed.gradedBy
                fun given => max (given - 1) 0).homeworkResult =
                  s.homeworkResult.erase (homework, student) := rfl
            have hexams : ((s.dropResult homework student).moveGiven removed.gradedBy
                fun given => max (given - 1) 0).exams.examResult = s.exams.examResult := rfl
            simp only [hlookup, Option.any_some, decide_eq_true_eq] at hcount
            rw [hgiven, hshift]
            simp only [Db.marksGiven, hresults, hexams, Nat.cast_add]
            split_ifs at hcount ⊢ <;> omega
          · intro user
            simp only [highDelta]
            exact (add_zero _).symm

theorem serve_moved {s : Db} (hkeyed : s.MarksKeyed) (r : MarkRequest) :
    Moved s (serve r s) (givenDelta s r) (graderShift s r) (highDelta s r) := by
  cases r with
  | gradeExam result kind => exact gradeExam_moved hkeyed result kind
  | removeExam exam student kind => exact removeExam_moved s exam student kind
  | gradeHomework id homework student verdict now =>
      exact gradeHomework_moved s id homework student verdict now
  | removeHomework homework student => exact removeHomework_moved s homework student

theorem serve_keyed {s : Db} (hkeyed : s.MarksKeyed) (r : MarkRequest) :
    (serve r s).MarksKeyed := by
  have hinsert : ∀ result : ExamResult, ∀ id row,
      (s.exams.examResult.insert result.id result).lookup id = some row → row.id = id := by
    intro result id row hrow
    obtain ⟨hid, rfl⟩ | ⟨-, hrow⟩ := insert_cases hrow
    · exact hid.symm
    · exact hkeyed id row hrow
  cases r with
  | gradeExam result kind =>
      obtain ⟨-, hstore⟩ | ⟨-, before, -, hstore⟩ | ⟨-, -, row, refs, hstore⟩ :=
        gradeTx_cases s.exams result kind
      · simp only [serve, hstore]
        exact hkeyed
      · simp only [serve, hstore]
        exact hinsert result
      · simp only [serve, hstore]
        exact hinsert result
  | removeExam exam student =>
      intro id row hrow
      simp only [serve, txWithRetry, Exams.removeTx] at hrow
      cases hgone : s.exams.marksOf exam student with
      | nil =>
          rw [hgone] at hrow
          exact hkeyed id row hrow
      | cons =>
          simp only [hgone, Exams.Db.dropMarks, lookup_deleteWhere,
            Option.filter_eq_some_iff] at hrow
          exact hkeyed id row hrow.1
  | gradeHomework id homework student verdict now =>
      obtain ⟨-, hstore⟩ | ⟨-, graded, -, -, -, hstore⟩ :=
        gradeTx_store s id homework student verdict now
      · simp only [serve, hstore]
        exact hkeyed
      · simp only [serve, hstore]
        split <;> exact hkeyed
  | removeHomework homework student =>
      simp only [serve, txWithRetry, removeTx]
      cases s.homework.lookup homework with
      | none => exact hkeyed
      | some => cases s.resultFor homework student <;> exact hkeyed

theorem regrade_some
    {s : Db} {r : MarkRequest} {pair : UserId × UserId} (h : regrade s r = some pair) :
    (∀ user, givenDelta s r user = 0) ∧ (s.exams.appUser.lookup pair.2).isSome = true := by
  cases r with
  | gradeExam =>
      simp only [regrade, Option.ite_none_right_eq_some, Option.map_eq_some_iff] at h
      obtain ⟨hlands, before, hbefore, rfl⟩ := h
      refine ⟨fun user => by simp [givenDelta, hbefore], ?_⟩
      simp only [markLands, Bool.and_eq_true] at hlands
      exact hlands.1.2
  | gradeHomework =>
      simp only [regrade, Option.ite_none_right_eq_some, Option.map_eq_some_iff] at h
      obtain ⟨hlands, before, hbefore, rfl⟩ := h
      refine ⟨fun user => by simp [givenDelta, hbefore], ?_⟩
      simp only [Db.gradeLands, Bool.and_eq_true] at hlands
      exact hlands.2
  | removeExam | removeHomework => cases h

theorem graderShift_zero {s : Db} {r : MarkRequest} (h : sameGrader s r = true) (user : UserId) :
    graderShift s r user = 0 := by
  unfold graderShift
  cases hpair : regrade s r with
  | none => rfl
  | some pair =>
      have hsame : pair.1 = pair.2 := by simpa [sameGrader, hpair] using h
      simp [hsame]

theorem givenCounted_iff
    {s : Db} (hkeyed : s.MarksKeyed) (hgiven : s.GivenCounted) (r : MarkRequest) :
    (serve r s).GivenCounted ↔ sameGrader s r = true := by
  have hmoved := serve_moved hkeyed r
  constructor
  · intro hafter
    by_contra hother
    simp only [sameGrader, Option.all_eq_true, not_forall] at hother
    obtain ⟨pair, hpair, hne⟩ := hother
    have hne : pair.1 ≠ pair.2 := by simpa using hne
    obtain ⟨hzero, haccount⟩ := regrade_some hpair
    obtain ⟨row, hrow⟩ := Option.isSome_iff_exists.mp haccount
    obtain ⟨f, hf, hclamped⟩ := hmoved.accounts pair.2
    rw [hrow, Option.map_some] at hf
    have hbefore := hgiven pair.2 row hrow
    have htotal := (hclamped row).1 (by omega)
    have hrows := hmoved.graders pair.2
    have hcounted := hafter pair.2 (f row) hf
    have hshift : graderShift s r pair.2 = 1 := by simp [graderShift, hpair, hne]
    rw [hzero] at htotal hrows
    omega
  · intro hsame user row' hrow'
    obtain ⟨f, hf, hclamped⟩ := hmoved.accounts user
    rw [hf, Option.map_eq_some_iff] at hrow'
    obtain ⟨row, hrow, rfl⟩ := hrow'
    have hbefore := hgiven user row hrow
    have htotal := (hclamped row).1 (by omega)
    have hrows := hmoved.graders user
    rw [graderShift_zero hsame] at hrows
    omega

/-- With the rows counted before a step, the clamp is the identity and the rows are counted
after it. -/
theorem highCounted_step
    {s : Db} (hkeyed : s.MarksKeyed) (hhigh : s.HighCounted) (r : MarkRequest) {user : UserId}
    {row' : Exams.AppUser} (hrow' : (serve r s).exams.appUser.lookup user = some row') :
    row'.highMarkTotal = (serve r s).highMarks user ∧
      ∃ row, s.exams.appUser.lookup user = some row ∧
        row'.highMarkTotal = row.highMarkTotal + highDelta s r user := by
  have hmoved := serve_moved hkeyed r
  obtain ⟨f, hf, hclamped⟩ := hmoved.accounts user
  rw [hf, Option.map_eq_some_iff] at hrow'
  obtain ⟨row, hrow, rfl⟩ := hrow'
  have hbefore := hhigh user row hrow
  have htotal := (hclamped row).2 (by omega)
  have hrows := hmoved.highs user
  exact ⟨by omega, row, hrow, by omega⟩

/-- Each `marks_given_total` is the number of rows its user graded in every state of a run
exactly when every regrade names the grader already stored. -/
theorem marks_given_counts_iff
    {s : Db} {requests : List MarkRequest} (hkeyed : s.MarksKeyed) (hgiven : s.GivenCounted) :
    (∀ before, before <+: requests → (Sequential.run serve s before).GivenCounted) ↔
      Sequential.Meets serve (fun s r => sameGrader s r = true) s requests :=
  Sequential.always_iff_meets (fun _ r hkeyed => serve_keyed hkeyed r)
    (fun _ r hkeyed hgiven => givenCounted_iff hkeyed hgiven r) hkeyed hgiven

/-- In every state of a run each `high_mark_total` is the number of the student's marks that
clear `highMarkMin`, and the next request moves it by exactly what it computes before the
clamp. -/
theorem high_mark_counts
    {s t : Db} {requests : List MarkRequest} (hkeyed : s.MarksKeyed) (hhigh : s.HighCounted)
    (ht : Sequential.run serve s requests = t) :
    t.HighCounted ∧
    ∀ r user row', (serve r t).exams.appUser.lookup user = some row' →
      ∃ row, t.exams.appUser.lookup user = some row ∧
        row'.highMarkTotal = row.highMarkTotal + highDelta t r user := by
  have hstep : ∀ (s : Db) (r : MarkRequest), s.MarksKeyed ∧ s.HighCounted →
      (serve r s).MarksKeyed ∧ (serve r s).HighCounted := by
    intro s r hs
    exact ⟨serve_keyed hs.1 r, fun user row' hrow' => (highCounted_step hs.1 hs.2 r hrow').1⟩
  have hrun : t.MarksKeyed ∧ t.HighCounted := by
    rw [← ht]
    exact Sequential.run_invariant hstep ⟨hkeyed, hhigh⟩
  exact ⟨hrun.2, fun r user row' hrow' => (highCounted_step hrun.1 hrun.2 r hrow').2⟩

section Samples

open Sample

def term : Db :=
  { Db.empty with
    exams :=
      { Exams.Db.empty with
        exam := (∅ : Table _ _).insert Exams.Sample.quizId ⟨Exams.Sample.quiz, 0⟩
        appUser := (((∅ : Table _ _).insert student ⟨0, 0, 0⟩).insert teacher ⟨0, 0, 0⟩).insert
          classmate ⟨0, 0, 0⟩ } }

def sitting (mark : Mark) (gradedBy : UserId) : MarkRequest :=
  .gradeExam ⟨Exams.Sample.quizId, student, 1, mark, gradedBy⟩ "quiz"

def high : Mark := ⟨95, by decide, by decide⟩

def low : Mark := .low

def gradedTwice : List MarkRequest :=
  [sitting high teacher, sitting low teacher, .removeExam Exams.Sample.quizId student "quiz"]

theorem term_keyed : term.MarksKeyed := by
  intro id result hresult
  cases hresult

theorem term_total (user : UserId) (row : Exams.AppUser)
    (hrow : term.exams.appUser.lookup user = some row) :
    row.marksGivenTotal = 0 ∧ row.highMarkTotal = 0 := by
  simp only [term, lookup_insert_eq] at hrow
  split_ifs at hrow <;> cases hrow <;> exact ⟨rfl, rfl⟩

theorem term_given : term.GivenCounted := fun user row hrow => (term_total user row hrow).1

theorem term_high : term.HighCounted := fun user row hrow => (term_total user row hrow).2

theorem marks_given_counts_iff_gradedTwice :
    (Sequential.run serve term gradedTwice).GivenCounted :=
  (marks_given_counts_iff term_keyed term_given).mpr
    (by decide : Sequential.Meets serve (fun s r => sameGrader s r = true) term gradedTwice)
    gradedTwice (List.prefix_refl _)

theorem high_mark_counts_gradedTwice : (Sequential.run serve term gradedTwice).HighCounted :=
  (high_mark_counts term_keyed term_high rfl).1

def regradedByAnother : List MarkRequest := [sitting high teacher, sitting high classmate]

theorem regradedByAnother_not_counted :
    term.GivenCounted ∧ ¬ (Sequential.run serve term regradedByAnother).GivenCounted := by
  refine ⟨term_given, ?_⟩
  intro hcounted
  have hrow : ((Sequential.run serve term regradedByAnother).exams.appUser.lookup classmate).any
      (fun row => row.marksGivenTotal ≠
        ((Sequential.run serve term regradedByAnother).marksGiven classmate : ℤ)) = true := by
    decide
  obtain ⟨row, hrow, hne⟩ := (Option.any_eq_true _ _).mp hrow
  exact of_decide_eq_true hne (hcounted classmate row hrow)

end Samples

end Hezarfen.Homeworks
