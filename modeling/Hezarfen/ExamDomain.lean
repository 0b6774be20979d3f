import Hezarfen.Domain

/-!
# Exams, sittings, questions, answers and marks

The rows of the exam tables and the pure rules over them: the schedule as a unit,
the deadline and the status of a sitting under the exam's current schedule, the
attempt limit, and the wire key of a sitting.
-/

namespace Hezarfen.Exams

structure ExamId where
  uuid : Uuid
  deriving DecidableEq

def ExamId.key (id : ExamId) : String := id.uuid.hyphenated

structure ClassCourseId where
  uuid : Uuid
  deriving DecidableEq

structure TermId where
  uuid : Uuid
  deriving DecidableEq

structure SubjectId where
  uuid : Uuid
  deriving DecidableEq

structure ExamQuestionId where
  uuid : Uuid
  deriving DecidableEq

structure BankQuestionId where
  uuid : Uuid
  deriving DecidableEq

inductive ExamMode where
  | sync
  | async
  | opened
  deriving DecidableEq

def minExamDurationMs : ℤ := 60 * 1000

def maxExamDurationMs : ℤ := 24 * 60 * 60 * 1000

structure ExamDuration where
  asMillis : ℤ
  lower : minExamDurationMs ≤ asMillis
  upper : asMillis ≤ maxExamDurationMs
  deriving DecidableEq

def maxExamAttempts : ℤ := 100

def unlimitedExamAttempts : ℤ := 0

structure ExamAttemptLimit where
  asI64 : ℤ
  valid : asI64 = unlimitedExamAttempts ∨ (1 ≤ asI64 ∧ asI64 ≤ maxExamAttempts)
  deriving DecidableEq

def ExamAttemptLimit.isUnlimited (limit : ExamAttemptLimit) : Bool :=
  limit.asI64 = unlimitedExamAttempts

def ExamAttemptLimit.allowsAnother (limit : ExamAttemptLimit) (used : ℕ) : Bool :=
  limit.isUnlimited || (used : ℤ) < limit.asI64

structure ExamSchedule where
  mode : Option ExamMode
  startsAt : Option Timestamp
  endsAt : Option Timestamp
  durationMs : Option ExamDuration
  deriving DecidableEq

/-- The window rules of a `sync` or an `async` exam. -/
def ExamSchedule.tryWindow (mode : ExamMode) (startsAt endsAt : Option Timestamp)
    (durationMs : Option ExamDuration) : Except ValidationError ExamSchedule :=
  match startsAt, endsAt with
  | none, _ => .error (.invalid "starts_at" "required for a scheduled exam")
  | some _, none => .error (.invalid "ends_at" "required for a scheduled exam")
  | some starts, some ends =>
      if ends ≤ starts then .error (.invalid "ends_at" "must be after starts_at")
      else
        match mode, durationMs with
        | .async, none => .error (.invalid "duration_ms" "required for an async exam")
        | .sync, some _ =>
            .error (.invalid "duration_ms" "only async and open exams take a duration")
        | _, none => .ok ⟨some mode, startsAt, endsAt, durationMs⟩
        | _, some duration =>
            if saturatingSub ends starts < duration.asMillis then
              .error (.invalid "duration_ms" "must fit within the starts_at..ends_at window")
            else .ok ⟨some mode, startsAt, endsAt, durationMs⟩

def ExamSchedule.tryNew (mode : Option ExamMode) (startsAt endsAt : Option Timestamp)
    (durationMs : Option ExamDuration) : Except ValidationError ExamSchedule :=
  match mode with
  | none =>
      if startsAt.isSome ∨ endsAt.isSome ∨ durationMs.isSome then
        .error (.invalid "mode"
          "starts_at, ends_at, and duration_ms require a mode (sync, async, or open)")
      else .ok ⟨none, startsAt, endsAt, durationMs⟩
  | some .opened =>
      if startsAt.isSome ∨ endsAt.isSome then
        .error (.invalid "starts_at"
          "an open exam has no window — drop starts_at/ends_at or pick sync/async")
      else .ok ⟨some .opened, startsAt, endsAt, durationMs⟩
  | some mode => ExamSchedule.tryWindow mode startsAt endsAt durationMs

structure Exam where
  id : ExamId
  creator : UserId
  classCourse : ClassCourseId
  term : TermId
  title : String
  description : String
  kind : String
  mode : Option ExamMode
  startsAt : Option Timestamp
  endsAt : Option Timestamp
  durationMs : Option ExamDuration
  maxAttempts : ExamAttemptLimit
  allowRejoin : Bool
  allowReview : Bool
  draft : Bool
  deriving DecidableEq

structure ExamPatch where
  title : Option String
  description : Option String
  kind : Option String
  mode : Option (Option ExamMode)
  startsAt : Option (Option Timestamp)
  endsAt : Option (Option Timestamp)
  durationMs : Option (Option ExamDuration)
  maxAttempts : Option ExamAttemptLimit
  allowRejoin : Option Bool
  allowReview : Option Bool
  draft : Option Bool
  deriving DecidableEq

/-- The merge of a patch over the row it was read against, the schedule validated as a
unit. -/
def ExamPatch.merge (patch : ExamPatch) (current : Exam) : Except ValidationError Exam :=
  match ExamSchedule.tryNew (patch.mode.getD current.mode)
      (patch.startsAt.getD current.startsAt) (patch.endsAt.getD current.endsAt)
      (patch.durationMs.getD current.durationMs) with
  | .error e => .error e
  | .ok schedule =>
      .ok
        { current with
          title := patch.title.getD current.title
          description := patch.description.getD current.description
          kind := patch.kind.getD current.kind
          mode := schedule.mode
          startsAt := schedule.startsAt
          endsAt := schedule.endsAt
          durationMs := schedule.durationMs
          maxAttempts := patch.maxAttempts.getD current.maxAttempts
          allowRejoin := patch.allowRejoin.getD current.allowRejoin
          allowReview := patch.allowReview.getD current.allowReview
          draft := patch.draft.getD current.draft }

/-- The columns the guard of `update_if_unchanged` compares, the mark counter apart. -/
def Exam.Unchanged (stored expected : Exam) : Prop :=
  stored.title = expected.title ∧ stored.description = expected.description ∧
    stored.kind = expected.kind ∧ stored.mode = expected.mode ∧
    stored.startsAt = expected.startsAt ∧ stored.endsAt = expected.endsAt ∧
    stored.durationMs = expected.durationMs ∧ stored.maxAttempts = expected.maxAttempts ∧
    stored.allowRejoin = expected.allowRejoin ∧ stored.allowReview = expected.allowReview ∧
    stored.draft = expected.draft

instance (stored expected : Exam) : Decidable (stored.Unchanged expected) := by
  unfold Exam.Unchanged
  infer_instance

def redraftError : AppError :=
  .conflict "cannot turn a published exam back into a draft after attempts or results exist"

structure ExamAttemptId where
  exam : ExamId
  user : UserId
  seq : ℤ
  deriving DecidableEq

def sitting (scope user : String) (seq : ℤ) : String :=
  if seq = 1 then scope ++ "_" ++ user else scope ++ "_" ++ user ++ "_" ++ toString seq

def ExamAttemptId.key (id : ExamAttemptId) : String :=
  sitting id.exam.key id.user.key id.seq

structure ExamAttempt where
  exam : ExamId
  user : UserId
  seq : ℤ
  startedAt : Timestamp
  finishedAt : Option Timestamp
  leftAt : Option Timestamp
  deriving DecidableEq

def ExamAttempt.id (attempt : ExamAttempt) : ExamAttemptId :=
  ⟨attempt.exam, attempt.user, attempt.seq⟩

inductive AttemptStatus where
  | inProgress
  | submitted
  | expired
  deriving DecidableEq

def ExamAttempt.deadline (attempt : ExamAttempt) (exam : Exam) : Option Timestamp :=
  let byDuration := exam.durationMs.map fun duration =>
    saturatingAdd attempt.startedAt duration.asMillis
  match exam.endsAt, byDuration with
  | some endsAt, some cap => some (min endsAt cap)
  | some endsAt, none => some endsAt
  | none, some cap => some cap
  | none, none => none

def ExamAttempt.status (attempt : ExamAttempt) (exam : Exam) (now : Timestamp) :
    AttemptStatus :=
  if attempt.finishedAt.isSome then .submitted
  else if (attempt.deadline exam).any fun deadline => deadline ≤ now then .expired
  else .inProgress

/-! ## Questions, answers and marks -/

structure Choice where
  id : String
  text : String
  deriving DecidableEq

inductive QuestionKind where
  | choice
  | text
  deriving DecidableEq

structure QuestionSpec where
  kind : QuestionKind
  choices : Option (List Choice)
  correct : Option String
  deriving DecidableEq

structure ExamQuestion where
  id : ExamQuestionId
  exam : ExamId
  subject : SubjectId
  text : String
  points : ℤ
  spec : QuestionSpec
  fromBank : Option BankQuestionId
  bankedAs : Option BankQuestionId
  deriving DecidableEq

structure ExamAnswerId where
  question : ExamQuestionId
  user : UserId
  seq : ℤ
  deriving DecidableEq

structure ExamAnswer where
  exam : ExamId
  question : ExamQuestionId
  user : UserId
  seq : ℤ
  selected : Option String
  text : Option String
  updatedAt : Timestamp
  deriving DecidableEq

def ExamAnswer.id (answer : ExamAnswer) : ExamAnswerId :=
  ⟨answer.question, answer.user, answer.seq⟩

def maxAnswerTextLen : ℕ := 10000

def validateOptional (field value : String) (max : ℕ) : Except ValidationError Unit :=
  if max < value.toList.length then .error (.tooLong field max value.toList.length)
  else .ok ()

/-- The payload a question takes: a choice question one of its options, a text question a
bounded text. -/
def ExamQuestion.payload (question : ExamQuestion) (selected text : Option String) :
    Except ValidationError (Option String × Option String) :=
  match question.spec.kind with
  | .choice =>
      match text, selected with
      | some _, _ => .error (.invalid "text" "a choice question takes selected, not text")
      | none, none => .error (.invalid "selected" "required for a choice question")
      | none, some selected =>
          if (question.spec.choices.getD []).any fun choice => choice.id = selected then
            .ok (some selected, none)
          else .error (.invalid "selected" "must name one of the question's choices")
  | .text =>
      match selected, text with
      | some _, _ => .error (.invalid "selected" "a text question takes text, not selected")
      | none, none => .error (.invalid "text" "required for a text question")
      | none, some text =>
          match validateOptional "text" text maxAnswerTextLen with
          | .error e => .error e
          | .ok _ => .ok (none, some text)

def maxMark : ℤ := 100

def highMarkMin : ℤ := 90

structure Mark where
  asI64 : ℤ
  nonneg : 0 ≤ asI64
  le_max : asI64 ≤ maxMark
  deriving DecidableEq

def Mark.tryNew (value : ℤ) : Except ValidationError Mark :=
  if h : 0 ≤ value ∧ value ≤ maxMark then .ok ⟨value, h.1, h.2⟩
  else .error (.invalid "mark" "must be between 0 and 100")

def Mark.low : Mark := ⟨40, by decide, by decide⟩

def Mark.isHigh (mark : Mark) : Bool := highMarkMin ≤ mark.asI64

structure ExamResultId where
  exam : ExamId
  user : UserId
  seq : ℤ
  deriving DecidableEq

structure ExamResult where
  exam : ExamId
  user : UserId
  seq : ℤ
  mark : Mark
  gradedBy : UserId
  deriving DecidableEq

def ExamResult.id (result : ExamResult) : ExamResultId :=
  ⟨result.exam, result.user, result.seq⟩

def draftError : AppError :=
  .conflict "this exam is a draft — publish it before grading"

def retiredKindError (kind : String) : AppError :=
  .conflictOwned ("the '" ++ kind ++ "' exam kind has been removed from the school's settings" ++
    " — add it back before grading this exam")

theorem sitting_injective : Function.Injective ExamAttemptId.key := by
  rintro ⟨⟨e⟩, ⟨u⟩, k⟩ ⟨⟨e'⟩, ⟨u'⟩, k'⟩ h
  have hjoin : ∀ a b : String, ¬ Text.Lacks '_' (a ++ "_" ++ b) := by
    intro a b
    simp [Text.Lacks, String.toList_append]
  have hseq : ∀ n : ℤ, Text.Lacks '_' (toString n) :=
    fun n => Text.lacks_intRepr (by decide) (by decide) n
  have huuid : ∀ {a b : Uuid}, a.hyphenated = b.hyphenated → a = b := by
    rintro ⟨a, _⟩ ⟨b, _⟩ rfl
    rfl
  simp only [ExamAttemptId.key, sitting, ExamId.key, UserId.key] at h
  split at h <;> split at h
  · next hk hk' =>
    have hparts := Text.join_inj '_' u.lacks_underscore u'.lacks_underscore h
    rw [huuid hparts.1, huuid hparts.2, hk, hk']
  · have hparts := Text.join_inj '_' u.lacks_underscore (hseq k') h
    exact absurd (hparts.1 ▸ e.lacks_underscore) (hjoin _ _)
  · have hparts := Text.join_inj '_' (hseq k) u'.lacks_underscore h
    exact absurd (hparts.1 ▸ e'.lacks_underscore) (hjoin _ _)
  · have hlast := Text.join_inj '_' (hseq k) (hseq k') h
    have hparts := Text.join_inj '_' u.lacks_underscore u'.lacks_underscore hlast.1
    rw [huuid hparts.1, huuid hparts.2, Text.intToString_injective hlast.2]

end Hezarfen.Exams
