import Hezarfen.ExamCalls

/-!
# The deadline in the statement of the exam room

A student who leaves the room is stamped by one conditional statement.  Its `WHERE`
judges the deadline a second time, next to `ExamAttempt.status`.  The two judgements
are compared at every position of the clock.
-/

namespace Hezarfen.Exams

/-- `a.started_at + e.duration_ms` stays within a `bigint`. -/
def sumFits (exam : Exam) (row : ExamAttempt) : Bool :=
  exam.durationMs.all fun duration => decide (row.startedAt + duration.asMillis < 2 ^ 63)

/-- The statement with the addition checked: a sum out of range is an error of the whole
statement, which then writes nothing. -/
def Db.stampChecked (s : Db) (id : ExamAttemptId) (now : Timestamp) : Db :=
  match s.exam.lookup id.exam, s.examAttempt.lookup id with
  | some exam, some row =>
      if sumFits exam.exam row then s.stampLeftIfRunning id now else s
  | _, _ => s

/-- The statement turns an absent `left_at` into `now`. -/
def Db.Stamps (s : Db) (id : ExamAttemptId) (now : Timestamp) : Prop :=
  ∃ row, s.examAttempt.lookup id = some row ∧ row.leftAt = none ∧
    (s.stampChecked id now).examAttempt.lookup id = some { row with leftAt := some now }

/-- Where both judgements agree.  A sitting that was left or submitted is stamped by
neither.  Otherwise an `async` exam must not be past the end of its window and within the
student's own time at once, and a sum that overflows must belong to a sitting that is over. -/
def ExamAttempt.JudgedAlike (row : ExamAttempt) (exam : Exam) (now : Timestamp) : Prop :=
  row.leftAt.isSome ∨ row.finishedAt.isSome ∨
    ∀ duration, exam.durationMs = some duration →
      if row.startedAt + duration.asMillis < 2 ^ 63 then
        exam.mode = some .async → ∀ endsAt, exam.endsAt = some endsAt →
          now < endsAt ∨ row.startedAt + duration.asMillis ≤ now
      else 2 ^ 63 - 1 ≤ now ∨ ∃ endsAt, exam.endsAt = some endsAt ∧ endsAt ≤ now

variable {s : Db} {id : ExamAttemptId} {exam : Exam} {row : ExamAttempt} {now : Timestamp}

/-- Only an `async` exam has both an end and a duration. -/
theorem ExamSchedule.async_of_tryNew
    {mode : Option ExamMode} {startsAt endsAt : Option Timestamp}
    {durationMs : Option ExamDuration} {schedule : ExamSchedule} {ends : Timestamp}
    {duration : ExamDuration}
    (h : ExamSchedule.tryNew mode startsAt endsAt durationMs = .ok schedule)
    (hends : endsAt = some ends) (hduration : durationMs = some duration) :
    mode = some .async := by
  subst hends hduration
  cases mode with
  | none => simp [ExamSchedule.tryNew] at h
  | some mode =>
      cases mode with
      | async => rfl
      | opened => simp [ExamSchedule.tryNew] at h
      | sync =>
          cases startsAt with
          | none => simp [ExamSchedule.tryNew, ExamSchedule.tryWindow] at h
          | some =>
              simp only [ExamSchedule.tryNew, ExamSchedule.tryWindow] at h
              split at h <;> simp at h

theorem lookup_stampChecked {examRow : ExamRow}
    (hexam : s.exam.lookup id.exam = some examRow) (hrow : s.examAttempt.lookup id = some row) :
    (s.stampChecked id now).examAttempt.lookup id =
      if sumFits examRow.exam row ∧ stampable examRow.exam row now then
        some { row with leftAt := some now }
      else some row := by
  unfold Db.stampChecked Db.stampLeftIfRunning
  rw [hexam, hrow]
  by_cases hfits : sumFits examRow.exam row = true
  · by_cases hstamp : stampable examRow.exam row now = true
    · simp [hfits, hstamp]
    · simp [hfits, hstamp, hrow]
  · simp [hfits, hrow]

theorem stamps_iff {examRow : ExamRow}
    (hexam : s.exam.lookup id.exam = some examRow) (hrow : s.examAttempt.lookup id = some row) :
    s.Stamps id now ↔ sumFits examRow.exam row = true ∧ stampable examRow.exam row now = true := by
  constructor
  · rintro ⟨stored, hstored, hleft, hafter⟩
    obtain rfl : row = stored := Option.some.inj (hrow.symm.trans hstored)
    by_contra hnot
    rw [lookup_stampChecked hexam hrow, if_neg hnot] at hafter
    have hstamped := congrArg ExamAttempt.leftAt (Option.some.inj hafter)
    rw [hleft] at hstamped
    cases hstamped
  · rintro ⟨hfits, hstamp⟩
    have hleft : row.leftAt = none := by
      simp only [stampable, Bool.and_eq_true, Option.isNone_iff_eq_none] at hstamp
      exact hstamp.1.1.1
    exact ⟨row, hrow, hleft, by rw [lookup_stampChecked hexam hrow, if_pos ⟨hfits, hstamp⟩]⟩

theorem stampable_iff :
    stampable exam row now = true ↔
      row.leftAt = none ∧ row.finishedAt = none ∧
        (∀ duration, exam.durationMs = some duration →
          now < row.startedAt + duration.asMillis) ∧
        (exam.durationMs = none → ∀ endsAt, exam.endsAt = some endsAt → now < endsAt) := by
  unfold stampable
  cases exam.durationMs <;> cases exam.endsAt <;> simp [and_assoc]

theorem status_inProgress_iff :
    row.status exam now = .inProgress ↔
      row.finishedAt = none ∧
        (∀ duration, exam.durationMs = some duration →
          now < saturatingAdd row.startedAt duration.asMillis) ∧
        (∀ endsAt, exam.endsAt = some endsAt → now < endsAt) := by
  unfold ExamAttempt.status ExamAttempt.deadline
  cases row.finishedAt with
  | some => simp
  | none => cases exam.durationMs <;> cases exam.endsAt <;> simp [and_comm]

theorem saturatingAdd_of_fits {a b : ℤ} (ha : -2 ^ 63 ≤ a) (hb : 0 ≤ b) (hfits : a + b < 2 ^ 63) :
    saturatingAdd a b = a + b := by
  unfold saturatingAdd clampI64
  omega

theorem saturatingAdd_of_overflow {a b : ℤ} (hover : ¬a + b < 2 ^ 63) :
    saturatingAdd a b = 2 ^ 63 - 1 := by
  unfold saturatingAdd clampI64
  omega

theorem ExamDuration.asMillis_nonneg (duration : ExamDuration) : 0 ≤ duration.asMillis :=
  le_trans (by decide) duration.lower

/-- On a sitting that is neither left nor submitted, the two judgements of a duration agree
under the stated condition and nowhere else. -/
theorem judged_duration_iff (duration : ExamDuration) (now : Timestamp)
    (hstarted : -2 ^ 63 ≤ row.startedAt)
    (hasync : ∀ endsAt, exam.endsAt = some endsAt → exam.mode = some .async) :
    (row.startedAt + duration.asMillis < 2 ^ 63 ∧ now < row.startedAt + duration.asMillis ↔
        now < saturatingAdd row.startedAt duration.asMillis ∧
          ∀ endsAt, exam.endsAt = some endsAt → now < endsAt) ↔
      if row.startedAt + duration.asMillis < 2 ^ 63 then
        exam.mode = some .async → ∀ endsAt, exam.endsAt = some endsAt →
          now < endsAt ∨ row.startedAt + duration.asMillis ≤ now
      else 2 ^ 63 - 1 ≤ now ∨ ∃ endsAt, exam.endsAt = some endsAt ∧ endsAt ≤ now := by
  have hnonneg := duration.asMillis_nonneg
  by_cases hfits : row.startedAt + duration.asMillis < 2 ^ 63
  · rw [if_pos hfits, saturatingAdd_of_fits hstarted hnonneg hfits]
    cases hends : exam.endsAt with
    | none => simp_all
    | some endsAt =>
        have hmode := hasync endsAt hends
        simp only [hmode, Option.some.injEq, forall_eq', forall_const, hfits, true_and]
        constructor
        · intro hagree
          by_contra hnot
          push Not at hnot
          exact absurd (hagree.mp hnot.2).2 (not_lt.mpr hnot.1)
        · rintro (hopen | hover)
          · exact ⟨fun htime => ⟨htime, hopen⟩, And.left⟩
          · exact ⟨fun htime => absurd htime (not_lt.mpr hover),
              fun hboth => absurd hboth.1 (not_lt.mpr hover)⟩
  · rw [if_neg hfits, saturatingAdd_of_overflow hfits]
    cases exam.endsAt with
    | none =>
        simp only [hfits, false_and, reduceCtorEq, exists_false, or_false, false_implies,
          implies_true, and_true, false_iff, not_lt]
    | some =>
        simp only [hfits, false_and, Option.some.injEq, forall_eq', exists_eq_left', false_iff,
          not_and_or, not_lt]

/-- Under an accepted schedule the statement stamps exactly the running sittings that were
not left, if and only if the two judgements of the deadline agree. -/
theorem stamps_running_iff_judgedAlike {examRow : ExamRow} {schedule : ExamSchedule}
    (hexam : s.exam.lookup id.exam = some examRow) (hrow : s.examAttempt.lookup id = some row)
    (hschedule : ExamSchedule.tryNew examRow.exam.mode examRow.exam.startsAt
      examRow.exam.endsAt examRow.exam.durationMs = .ok schedule)
    (hstarted : -2 ^ 63 ≤ row.startedAt) :
    (s.Stamps id now ↔ row.leftAt = none ∧ row.status examRow.exam now = .inProgress) ↔
      row.JudgedAlike examRow.exam now := by
  rw [stamps_iff hexam hrow, stampable_iff, status_inProgress_iff]
  unfold ExamAttempt.JudgedAlike sumFits
  cases hleft : row.leftAt with
  | some => simp
  | none =>
      cases hfinished : row.finishedAt with
      | some => simp
      | none =>
          cases hduration : examRow.exam.durationMs with
          | none => simp
          | some duration =>
              have hasync : ∀ endsAt, examRow.exam.endsAt = some endsAt →
                  examRow.exam.mode = some .async := fun endsAt hends =>
                ExamSchedule.async_of_tryNew hschedule hends hduration
              have hjudged := judged_duration_iff duration now hstarted hasync
              simpa using hjudged

section Sample

open Sample

def finalExam : Exam :=
  { quiz with
    mode := some .async
    startsAt := some 0
    endsAt := some 7200000 }

def lateSitting : ExamAttempt := ⟨quizId, student, 1, 5400000, none, none⟩

def lateStore : Db :=
  { Db.empty with
    exam := (∅ : Table ExamId ExamRow).insert quizId ⟨finalExam, 0⟩
    examAttempt := (∅ : Table ExamAttemptId ExamAttempt).insert lateSitting.id lateSitting }

theorem finalExam_accepted :
    ExamSchedule.tryNew finalExam.mode finalExam.startsAt finalExam.endsAt
        finalExam.durationMs =
      .ok ⟨finalExam.mode, finalExam.startsAt, finalExam.endsAt, finalExam.durationMs⟩ := by
  decide

/-- The student is thrown out a minute after the end of the window. -/
theorem stamps_running_iff_judgedAlike_late :
    (lateStore.Stamps lateSitting.id 7260000 ↔ lateSitting.leftAt = none ∧
      lateSitting.status finalExam 7260000 = .inProgress) ↔
        lateSitting.JudgedAlike finalExam 7260000 :=
  stamps_running_iff_judgedAlike
    (rfl : lateStore.exam.lookup lateSitting.id.exam = some ⟨finalExam, 0⟩) rfl
    finalExam_accepted (by decide)

/-- The sitting expired with its window and is stamped all the same. -/
theorem late_sitting_stamped :
    (∃ schedule, ExamSchedule.tryNew finalExam.mode finalExam.startsAt finalExam.endsAt
      finalExam.durationMs = .ok schedule) ∧
    lateSitting.status finalExam 7260000 = .expired ∧
    lateStore.Stamps lateSitting.id 7260000 :=
  ⟨⟨_, finalExam_accepted⟩, by decide, lateSitting, by decide, by decide, by decide⟩

end Sample

end Hezarfen.Exams
