import Hezarfen.ExamSubmission

/-!
# Presence in the exam room and the walk-out marker

A socket counts itself into the room of its sitting and then clears `left_at`; it
counts itself out and, if it was the last one, stamps `left_at` while the sitting
runs.  The count lives in memory and the marker in the database.  The count is the
number of sockets in the room, a pending stamp means that nobody is inside as long
as nobody clears before it lands, and so a socket past its clear keeps the marker off.
-/

namespace Hezarfen.Exams

open Interleaving

variable {origin : Origin} {value : Except AppError Answer} {id' : ℕ} {row : ExamAttempt}

def inRoom (c : Config Db Point) (sitting : ExamAttemptId) : ℕ :=
  Table.count c.calls fun _ q => q.room = some sitting

def roomAfter : Reply → Option ExamAttemptId
  | .goto q => q.room
  | .answer _ => none

/-! ## Who is in the room -/

section Room

variable {id : ℕ} {s s' : Db} {w : World} {p q : Point} {sitting : ExamAttemptId}

theorem inRoom_after
    {c : Config Db Point} (hp : c.calls.lookup id = some p) (s : Db) (n : Reply)
    (sitting : ExamAttemptId) :
    inRoom (c.after id s n) sitting + (if p.room = some sitting then 1 else 0) =
      (if roomAfter n = some sitting then 1 else 0) + inRoom c sitting := by
  cases n with
  | goto q =>
      have hinsert := Table.count_insert c.calls id q fun _ q => q.room = some sitting
      rw [hp, Option.any_some] at hinsert
      simp only [decide_eq_true_eq] at hinsert
      unfold inRoom Config.after roomAfter
      dsimp only
      split_ifs at hinsert ⊢ <;> omega
  | answer value =>
      have herase := Table.count_erase c.calls id fun _ q => q.room = some sitting
      rw [hp, Option.any_some] at herase
      simp only [decide_eq_true_eq] at herase
      unfold inRoom Config.after roomAfter
      dsimp only
      simp only [reduceCtorEq, if_false]
      split_ifs at herase ⊢ <;> omega

theorem room_of_origin (hp : p.origin = some (.room sitting)) : p.room = some sitting := by
  cases p with
  | finishExam | finishAttempt | finishUpdate | saveExam | saveAttempt | saveQuestion
  | saveTx =>
      cases hp
      rfl
  | _ => cases hp

theorem next_room
    (h : next id s p w = some (s', .goto q)) :
    q.room = p.room ∨ (∃ attempt, p = .roomEnter attempt ∧ q = .roomClear attempt) ∨
      ∃ sitting, p = .roomLeave sitting ∧ q = .roomStamp sitting := by
  have hgates (job : PatchJob) :=
    job.behind_gates (P := fun q => q.room = none) rfl rfl rfl rfl rfl
  cases next_arrives h with
  | patchRead => exact .inl (hgates _).1
  | patchModeGate => exact .inl (hgates _).2.1
  | patchRedraftGraded => exact .inl (hgates _).2.2.1
  | patchKindGate => exact .inl (hgates _).2.2.2
  | roomFailed hp => exact .inl (room_of_origin hp).symm
  | roomOver hp =>
      rcases hp with rfl | ⟨exam, rfl⟩
      · exact .inl rfl
      · exact .inl rfl
  | roomEnter => exact .inr (.inl ⟨_, rfl, rfl⟩)
  | roomLeave => exact .inr (.inr ⟨_, rfl, rfl⟩)
  | _ => exact .inl rfl

theorem Origin.fail_answer
    {e : AppError} (h : origin.fail e = .answer value) : origin = .rest := by
  cases origin with
  | rest => rfl
  | room => cases h

theorem Origin.gated_answer
    {reply : Reply} (h : origin.gated w reply = .answer value)
    (hreply : reply = .answer value → origin = .rest) :
    origin = .rest := by
  unfold Origin.gated at h
  split at h
  · exact Origin.fail_answer h
  · exact hreply h

/-- A submission or a save that returns came over HTTP. -/
theorem next_answer_origin
    (h : next id s p w = some (s', .answer value)) (hp : p.origin = some origin) :
    origin = .rest := by
  cases p with
  | finishExam =>
      cases hp
      have hreply := congrArg Prod.snd (Option.some.inj h)
      dsimp only [finishExam] at hreply
      split at hreply
      · exact Origin.fail_answer hreply
      · cases hreply
  | finishAttempt =>
      cases hp
      have hreply := congrArg Prod.snd (Option.some.inj h)
      dsimp only [finishAttempt] at hreply
      split at hreply
      · exact Origin.fail_answer hreply
      · exact Origin.gated_answer hreply fun hgoto => by cases hgoto
  | finishUpdate =>
      cases hp
      have hreply := congrArg Prod.snd (Option.some.inj h)
      dsimp only [finishUpdate] at hreply
      unfold finished at hreply
      split at hreply
      · exact Origin.fail_answer hreply
      · cases origin with
        | rest => rfl
        | room => cases hreply
  | saveExam =>
      cases hp
      have hreply := congrArg Prod.snd (Option.some.inj h)
      dsimp only [saveExam] at hreply
      split at hreply
      · exact Origin.fail_answer hreply
      · cases hreply
  | saveAttempt =>
      cases hp
      have hreply := congrArg Prod.snd (Option.some.inj h)
      dsimp only [saveAttempt] at hreply
      split at hreply
      · exact Origin.fail_answer hreply
      · apply Origin.gated_answer hreply
        intro hrejoin
        split at hrejoin
        · exact Origin.fail_answer hrejoin
        · cases hrejoin
  | saveQuestion =>
      cases hp
      have hreply := congrArg Prod.snd (Option.some.inj h)
      dsimp only [saveQuestion] at hreply
      split at hreply
      · exact Origin.fail_answer hreply
      · split at hreply
        · exact Origin.fail_answer hreply
        · cases hreply
  | saveTx =>
      cases hp
      simp only [next, saveTx] at h
      split at h
      · have hreply := congrArg Prod.snd (Option.some.inj h)
        dsimp only at hreply
        unfold saved at hreply
        split at hreply
        · exact Origin.fail_answer hreply
        · cases origin with
          | rest => rfl
          | room => cases hreply
      · cases h
  | _ => cases hp

/-- A call in a room does not return before it has left. -/
theorem next_answer_room
    (h : next id s p w = some (s', .answer value)) (hp : p.room = some sitting) :
    p = .roomLeave sitting := by
  cases hori : p.origin with
  | some =>
      obtain rfl := next_answer_origin h hori
      cases p with
      | finishExam | finishAttempt | finishUpdate | saveExam | saveAttempt | saveQuestion
      | saveTx =>
          cases hori
          cases hp
      | _ => cases hori
  | none =>
      cases p with
      | roomClear => cases h
      | roomLoop =>
          have hreply := congrArg Prod.snd (Option.some.inj h)
          dsimp only [roomLoop] at hreply
          split at hreply <;> cases hreply
      | roomStateExam =>
          have hreply := congrArg Prod.snd (Option.some.inj h)
          dsimp only [roomStateExam] at hreply
          split at hreply <;> cases hreply
      | roomStateAttempt =>
          have hreply := congrArg Prod.snd (Option.some.inj h)
          dsimp only [roomStateAttempt] at hreply
          split at hreply
          · cases hreply
          · split at hreply <;> cases hreply
      | roomLeave =>
          cases hp
          rfl
      | finishExam | finishAttempt | finishUpdate | saveExam | saveAttempt | saveQuestion
      | saveTx => cases hori
      | _ => cases hp

theorem room_kept
    {n : Reply} (h : next id s p w = some (s', n)) (henter : ∀ attempt, p ≠ .roomEnter attempt)
    (hleave : ∀ sitting, p ≠ .roomLeave sitting) : roomAfter n = p.room := by
  cases n with
  | goto =>
      rcases next_room h with hsame | ⟨attempt, heq, -⟩ | ⟨sitting, heq, -⟩
      · exact hsame
      · exact absurd heq (henter attempt)
      · exact absurd heq (hleave sitting)
  | answer =>
      cases hp : p.room with
      | none => rfl
      | some sitting => exact absurd (next_answer_room h hp) (hleave sitting)

theorem Wrote.presence_kept
    (h : Wrote id s w p s') (henter : ∀ attempt, p ≠ .roomEnter attempt)
    (hleave : ∀ sitting, p ≠ .roomLeave sitting) : s'.presence = s.presence := by
  cases h with
  | entered => exact absurd rfl (henter _)
  | left => exact absurd rfl (hleave _)
  | _ => rfl

def Db.present (s : Db) (key : String) : ℕ := (s.presence.lookup key).getD 0

theorem present_enter (s : Db) (key other : String) :
    (s.enter key).present other = s.present other + if other = key then 1 else 0 := by
  unfold Db.present Db.enter
  rw [lookup_insert_eq]
  split
  · next hother =>
    subst hother
    simp
  · simp

theorem present_leave (s : Db) (key other : String) :
    (s.leave key).2.present other = s.present other - if other = key then 1 else 0 := by
  unfold Db.present Db.leave
  split
  · next hnone =>
    by_cases hother : other = key
    · subst hother
      simp [hnone]
    · simp [hother]
  · next count hcount =>
    by_cases hother : other = key
    · subst hother
      split
      · simp [hcount]
      · simp [hcount]
        omega
    · split
      · rw [lookup_insert_eq, if_neg hother]
        rfl
      · rw [lookup_erase_eq, if_neg hother]
        rfl

/-- The last socket out was alone. -/
theorem present_last {key : String} (hlast : (s.leave key).1 = true) : s.present key ≤ 1 := by
  unfold Db.present
  unfold Db.leave at hlast
  split at hlast
  · next hnone => simp [hnone]
  · next count hcount =>
    split at hlast
    · cases hlast
    · rw [hcount, Option.getD_some]
      omega

end Room

/-! ## The marker -/

section Marker

variable {id : ℕ} {s s' : Db} {w : World} {p q : Point} {sitting : ExamAttemptId}

def FreshSeat : Point → Prop
  | .startGuard job | .startInsert job => job.attempt.leftAt = none
  | _ => True

theorem next_freshSeat (h : next id s p w = some (s', .goto q)) (hp : FreshSeat p) :
    FreshSeat q := by
  have hgates (job : PatchJob) :=
    job.behind_gates (P := FreshSeat) trivial trivial trivial trivial trivial
  cases next_arrives h with
  | startList => exact rfl
  | startGuard => exact hp
  | patchRead => exact (hgates _).1
  | patchModeGate => exact (hgates _).2.1
  | patchRedraftGraded => exact (hgates _).2.2.1
  | patchKindGate => exact (hgates _).2.2.2
  | _ => trivial

theorem freshSeat_relyGuarantee :
    machine.RelyGuarantee (fun _ _ => True) (fun _ => True) (fun _ p _ => FreshSeat p) :=
  .of_points (fun request => by cases request <;> trivial)
    fun _ hnext hp => next_freshSeat hnext hp

/-- Where the marker of a sitting after a step comes from. -/
theorem Wrote.leftAt_cases
    (h : Wrote id s w p s') {row' : ExamAttempt}
    (hrow' : s'.examAttempt.lookup sitting = some row') :
    (∃ row, s.examAttempt.lookup sitting = some row ∧ row'.leftAt = row.leftAt) ∨
      (∃ job, p = .startInsert job ∧ row' = job.attempt ∧
        s.examAttempt.lookup sitting = none) ∨
      (∃ attempt, p = .roomClear attempt ∧ attempt.id = sitting ∧ row'.leftAt = none) ∨
      (p = .roomStamp sitting ∧ row'.leftAt = some w.now) := by
  cases h with
  | deleted =>
      rw [Db.cascade, lookup_deleteWhere, Option.filter_eq_some_iff] at hrow'
      exact .inl ⟨row', hrow'.1, rfl⟩
  | swept =>
      rw [Db.sweepInstance, Db.cascade, lookup_deleteWhere,
        Option.filter_eq_some_iff] at hrow'
      exact .inl ⟨row', hrow'.1, rfl⟩
  | @sat job _ _ hfirst =>
      rw [Db.unlock, lookup_insert_eq] at hrow'
      split at hrow'
      · next hkey =>
        cases hrow'
        subst hkey
        exact .inr (.inl ⟨job, rfl, rfl, hfirst⟩)
      · exact .inl ⟨row', hrow', rfl⟩
  | finished hrow =>
      obtain ⟨rfl, rfl⟩ | ⟨-, hrow'⟩ := insert_cases hrow'
      · exact .inl ⟨_, hrow, rfl⟩
      · exact .inl ⟨row', hrow', rfl⟩
  | @cleared attempt row hrow =>
      obtain ⟨hkey, rfl⟩ | ⟨-, hrow'⟩ := insert_cases hrow'
      · exact .inr (.inr (.inl ⟨attempt, rfl, hkey.symm, rfl⟩))
      · exact .inl ⟨row', hrow', rfl⟩
  | stamped =>
      obtain ⟨rfl, rfl⟩ | ⟨-, hrow'⟩ := insert_cases hrow'
      · exact .inr (.inr (.inr ⟨rfl, rfl⟩))
      · exact .inl ⟨row', hrow', rfl⟩
  | _ => exact .inl ⟨row', hrow', rfl⟩

end Marker

/-- A socket does not clear the marker while the walk-out from its sitting is still to be
stamped. -/
def clearsRespected (c : Config Db Point) : Point → Bool
  | .roomClear attempt => !Table.any c.calls fun _ q => q = .roomStamp attempt.id
  | _ => true

def socketsLeave (c : Config Db Point) : Move Request World → Prop
  | .abandon id => (c.calls.lookup id).all (fun p => p.room = none) = true
  | _ => True

instance : ∀ c m, Decidable (socketsLeave c m)
  | _, .start _ => isTrue trivial
  | _, .advance _ _ => isTrue trivial
  | c, .abandon id =>
      inferInstanceAs (Decidable ((c.calls.lookup id).all (fun p => p.room = none) = true))

def Point.inside (q : Point) (sitting : ExamAttemptId) : Prop :=
  q.room = some sitting ∧ ∀ attempt, q ≠ .roomClear attempt

structure Present (c : Config Db Point) : Prop where
  counted : ∀ sitting : ExamAttemptId, c.shared.present sitting.key = inRoom c sitting
  stamping : ∀ id sitting, c.calls.lookup id = some (.roomStamp sitting) →
    ∀ id' q, c.calls.lookup id' = some q → ¬ q.inside sitting
  unmarked : ∀ id q sitting row, c.calls.lookup id = some q → q.inside sitting →
    c.shared.examAttempt.lookup sitting = some row → row.leftAt = none

theorem present_start : Present start := by
  constructor
  · intro sitting
    rfl
  · intro id sitting hq
    cases hq
  · intro id q sitting row hq
    cases hq

section Steps

variable {c : Config Db Point} {id : ℕ} {s : Db} {w : World} {p q : Point} {n : Reply}
  {sitting : ExamAttemptId}

theorem inRoom_pos
    (hq : c.calls.lookup id' = some q) (hroom : q.room = some sitting) :
    inRoom c sitting ≠ 0 := by
  intro hzero
  have hfalse := Table.count_eq_zero_iff.mp hzero id' q hq
  simp [hroom] at hfalse

theorem Present.counted_after
    (hc : Present c) (hp : c.calls.lookup id = some p)
    (hnext : next id c.shared p w = some (s, n)) (sitting : ExamAttemptId) :
    s.present sitting.key = inRoom (c.after id s n) sitting := by
  have hcount := hc.counted sitting
  have hafter := inRoom_after hp s n sitting
  by_cases henter : ∃ attempt, p = .roomEnter attempt
  · obtain ⟨attempt, rfl⟩ := henter
    cases hnext
    rw [present_enter, hcount]
    simp only [roomAfter, Point.room, Point.origin, reduceCtorEq, if_false,
      Option.some.injEq] at hafter
    by_cases hsame : attempt.id = sitting
    · rw [if_pos hsame] at hafter
      rw [if_pos (congrArg ExamAttemptId.key hsame.symm)]
      omega
    · rw [if_neg hsame] at hafter
      rw [if_neg fun hkey => hsame (sitting_injective hkey).symm]
      omega
  · by_cases hleave : ∃ left, p = .roomLeave left
    · obtain ⟨left, rfl⟩ := hleave
      obtain rfl : s = (c.shared.leave left.key).2 :=
        (congrArg Prod.fst (Option.some.inj hnext)).symm
      have hout : roomAfter n = none := by
        have hreply := congrArg Prod.snd (Option.some.inj hnext)
        dsimp only [roomLeave] at hreply
        rw [← hreply]
        split <;> rfl
      rw [present_leave, hcount]
      simp only [hout, Point.room, reduceCtorEq, if_false, Option.some.injEq] at hafter
      by_cases hsame : left = sitting
      · rw [if_pos hsame] at hafter
        rw [if_pos (congrArg ExamAttemptId.key hsame.symm)]
        omega
      · rw [if_neg hsame] at hafter
        rw [if_neg fun hkey => hsame (sitting_injective hkey).symm]
        omega
    · have henter' : ∀ attempt, p ≠ .roomEnter attempt := fun attempt h => henter ⟨attempt, h⟩
      have hleave' : ∀ left, p ≠ .roomLeave left := fun left h => hleave ⟨left, h⟩
      rw [room_kept hnext henter' hleave'] at hafter
      have hsame := (next_wrote hnext).presence_kept henter' hleave'
      unfold Db.present at hcount ⊢
      rw [hsame]
      omega

/-- Only the last socket out goes on to a stamp. -/
theorem next_stamp
    (h : next id c.shared p w = some (s, .goto (.roomStamp sitting))) :
    p = .roomLeave sitting ∧ (c.shared.leave sitting.key).1 = true := by
  have hgates (job : PatchJob) :=
    job.behind_gates (P := fun q => .roomStamp sitting ≠ q) (by simp) (by simp) (by simp) (by simp)
      (by simp)
  have harrives := next_arrives h
  generalize hq : Point.roomStamp sitting = q at harrives
  cases harrives with
  | roomLeave hlast =>
      cases hq
      exact ⟨rfl, hlast⟩
  | patchRead => exact absurd hq (hgates _).1
  | patchModeGate => exact absurd hq (hgates _).2.1
  | patchRedraftGraded => exact absurd hq (hgates _).2.2.1
  | patchKindGate => exact absurd hq (hgates _).2.2.2
  | _ => cases hq

/-- A socket gets inside only by its clear. -/
theorem inside_before
    (hnext : next id c.shared p w = some (s, .goto q)) (hinside : q.inside sitting) :
    p.inside sitting ∨ ∃ attempt, p = .roomClear attempt ∧ attempt.id = sitting := by
  rcases next_room hnext with hroom | ⟨attempt, rfl, rfl⟩ | ⟨left, rfl, rfl⟩
  · by_cases hclear : ∃ attempt, p = .roomClear attempt
    · obtain ⟨attempt, rfl⟩ := hclear
      exact .inr ⟨attempt, rfl, Option.some.inj (hroom.symm.trans hinside.1)⟩
    · exact .inl ⟨hroom.symm.trans hinside.1, fun attempt h => hclear ⟨attempt, h⟩⟩
  · exact absurd rfl (hinside.2 attempt)
  · cases hinside.1

theorem Present.stamping_after
    (hc : Present c) (hrespect : clearsRespected c p = true) (hp : c.calls.lookup id = some p)
    (hnext : next id c.shared p w = some (s, n)) {id'' : ℕ}
    (hstamp : (c.after id s n).calls.lookup id' = some (.roomStamp sitting))
    (hq : (c.after id s n).calls.lookup id'' = some q) : ¬ q.inside sitting := by
  intro hinside
  rcases Config.lookup_after hstamp with ⟨-, hold⟩ | ⟨rfl, rfl⟩
  · rcases Config.lookup_after hq with ⟨-, hq⟩ | ⟨rfl, rfl⟩
    · exact hc.stamping id' sitting hold id'' q hq hinside
    · rcases inside_before hnext hinside with hbefore | ⟨attempt, rfl, rfl⟩
      · exact hc.stamping id' sitting hold id'' p hp hbefore
      · have hnone : Table.any c.calls (fun _ q => q = .roomStamp attempt.id) = false := by
          simpa [clearsRespected] using hrespect
        simpa using Table.any_eq_false_iff.mp hnone id' _ hold
  · -- The stamp was ordered in this step, by the last socket out.
    obtain ⟨rfl, hlast⟩ := next_stamp hnext
    have hafter := inRoom_after hp s (.goto (.roomStamp sitting)) sitting
    have halone := present_last hlast
    have hsome := inRoom_pos hq hinside.1
    rw [hc.counted] at halone
    simp only [roomAfter, Point.room, Point.origin, reduceCtorEq, if_false, if_true] at hafter
    omega

theorem roomClear_unmarks
    {attempt : ExamAttempt} (hrow : ((roomClear c.shared attempt).1).examAttempt.lookup
      attempt.id = some row) : row.leftAt = none := by
  unfold roomClear Db.setLeft Db.updateAttempt at hrow
  dsimp only at hrow
  split at hrow
  · next hnone =>
    rw [hnone] at hrow
    cases hrow
  · rw [lookup_insert_eq, if_pos rfl] at hrow
    cases hrow
    rfl

theorem Present.unmarked_after
    (hc : Present c) (hfresh : FreshSeat p) (hp : c.calls.lookup id = some p)
    (hnext : next id c.shared p w = some (s, n)) (hq : (c.after id s n).calls.lookup id' = some q)
    (hinside : q.inside sitting) {row' : ExamAttempt}
    (hrow' : s.examAttempt.lookup sitting = some row') :
    row'.leftAt = none := by
  rcases (next_wrote hnext).leftAt_cases hrow' with
    ⟨row, hrow, hsame⟩ | ⟨job, rfl, rfl, -⟩ | ⟨attempt, -, -, hnone⟩ | ⟨rfl, -⟩
  · rcases Config.lookup_after hq with ⟨-, hold⟩ | ⟨rfl, rfl⟩
    · exact hsame.trans (hc.unmarked id' q sitting row hold hinside hrow)
    · rcases inside_before hnext hinside with hbefore | ⟨attempt, rfl, rfl⟩
      · exact hsame.trans (hc.unmarked id' p sitting row hp hbefore hrow)
      · obtain rfl : s = _ := (congrArg Prod.fst (Option.some.inj hnext)).symm
        exact roomClear_unmarks hrow'
  · exact hfresh
  · exact hnone
  · rcases Config.lookup_after hq with ⟨-, hold⟩ | ⟨rfl, rfl⟩
    · exact absurd hinside (hc.stamping id sitting hp id' q hold)
    · cases hnext

end Steps

theorem entry_room (request : Request) :
    (entry request).room = none ∧ ∀ sitting, entry request ≠ .roomStamp sitting := by
  cases request <;> exact ⟨rfl, fun _ => by simp [entry]⟩

theorem inRoom_start
    {c : Config Db Point} (horder : InOrder c) (request : Request) (sitting : ExamAttemptId) :
    Table.count (c.calls.insert c.started (entry request)) (fun _ q => q.room = some sitting) =
      inRoom c sitting := by
  have hnew : c.calls.lookup c.started = none := by
    by_contra hsome
    obtain ⟨p, hp⟩ := Option.ne_none_iff_exists'.mp hsome
    exact absurd (horder.numbered c.started p hp) (lt_irrefl _)
  have hinsert := Table.count_insert c.calls c.started (entry request) fun _ q =>
    q.room = some sitting
  rw [hnew] at hinsert
  simpa [(entry_room request).1, inRoom] using hinsert

theorem inRoom_abandon
    {c : Config Db Point} {id : ℕ} {p : Point} (hp : c.calls.lookup id = some p)
    (hroom : p.room = none) (sitting : ExamAttemptId) :
    Table.count (c.calls.erase id) (fun _ q => q.room = some sitting) = inRoom c sitting := by
  have herase := Table.count_erase c.calls id fun _ q => q.room = some sitting
  rw [hp] at herase
  simpa [hroom, inRoom] using herase

theorem Present.step
    {c c' : Config Db Point} {m : Move Request World} (hc : Present c) (horder : InOrder c)
    (hfresh : c.Holds (fun _ => True) (fun _ p _ => FreshSeat p)) (hleave : socketsLeave c m)
    (hrespect : c.Admits clearsRespected m) (hstep : machine.step c m = some c') :
    Present c' := by
  obtain ⟨request, rfl, rfl⟩ | ⟨id, w, p, s, n, rfl, hp, hnext, rfl⟩ | ⟨id, p, rfl, hp, rfl⟩ :=
    Machine.step_cases hstep
  · have hcalls : ∀ {id q}, (c.calls.insert c.started (entry request)).lookup id = some q →
        c.calls.lookup id = some q ∨ q = entry request := by
      intro id q hq
      rw [lookup_insert_eq] at hq
      split at hq
      · exact .inr (Option.some.inj hq).symm
      · exact .inl hq
    have hout : ∀ sitting, ¬ (entry request).inside sitting := by
      intro sitting hinside
      rw [Point.inside, (entry_room request).1] at hinside
      cases hinside.1
    constructor
    · intro sitting
      exact (hc.counted sitting).trans (inRoom_start horder request sitting).symm
    · intro id sitting hstamp id' q hq
      rcases hcalls hstamp with hold | hnew
      · rcases hcalls hq with hq | rfl
        · exact hc.stamping id sitting hold id' q hq
        · exact hout sitting
      · exact absurd hnew.symm ((entry_room request).2 sitting)
    · intro id q sitting row hq hinside hrow
      rcases hcalls hq with hold | rfl
      · exact hc.unmarked id q sitting row hold hinside hrow
      · exact absurd hinside (hout sitting)
  · have hclears := hrespect.check hp
    have hshared : (c.after id s n).shared = s := by cases n <;> rfl
    constructor
    · intro sitting
      rw [hshared]
      exact hc.counted_after hp hnext sitting
    · intro id' sitting hstamp id'' q hq
      exact hc.stamping_after hclears hp hnext hstamp hq
    · intro id' q sitting row hq hinside hrow
      rw [hshared] at hrow
      exact hc.unmarked_after (hfresh.calls id p hp) hp hnext hq hinside hrow
  · have hroom : p.room = none := by simpa [socketsLeave, hp] using hleave
    have hcalls : ∀ {id' q}, (c.calls.erase id).lookup id' = some q →
        c.calls.lookup id' = some q := by
      intro id' q hq
      obtain ⟨-, hq⟩ := erase_cases hq
      exact hq
    constructor
    · intro sitting
      exact (hc.counted sitting).trans (inRoom_abandon hp hroom sitting).symm
    · intro id' sitting hstamp id'' q hq
      exact hc.stamping id' sitting (hcalls hstamp) id'' q (hcalls hq)
    · intro id' q sitting row hq hinside hrow
      exact hc.unmarked id' q sitting row (hcalls hq) hinside hrow

/-! ## The stamp -/

section Stamp

variable {id : ℕ} {s s' : Db} {w : World} {p : Point} {sitting : ExamAttemptId}

theorem lt_of_lt_saturatingAdd
    {a b now : ℤ} (hnow : -2 ^ 63 ≤ now) (h : now < saturatingAdd a b) : now < a + b := by
  unfold saturatingAdd clampI64 at h
  omega

theorem stampable_of_running
    {exam : Exam} {now : Timestamp} (hnow : -2 ^ 63 ≤ now)
    (hstatus : row.status exam now = .inProgress) (hleft : row.leftAt = none) :
    stampable exam row now = true := by
  unfold ExamAttempt.status at hstatus
  split at hstatus
  · cases hstatus
  · next hfinished =>
    split at hstatus
    · cases hstatus
    · next hdeadline =>
      have hopen : row.finishedAt = none := by simpa using hfinished
      unfold ExamAttempt.deadline at hdeadline
      cases hduration : exam.durationMs with
      | none =>
          cases hends : exam.endsAt with
          | none => simp [stampable, hleft, hopen, hduration, hends]
          | some => simpa [stampable, hleft, hopen, hduration, hends] using hdeadline
      | some duration =>
          have hcap : now < row.startedAt + duration.asMillis := by
            apply lt_of_lt_saturatingAdd hnow
            cases hends : exam.endsAt with
            | none => simpa [hends, hduration] using hdeadline
            | some endsAt =>
                have hmin : now < endsAt ∧
                    now < saturatingAdd row.startedAt duration.asMillis := by
                  simpa [hends, hduration] using hdeadline
                exact hmin.2
          simpa [stampable, hleft, hopen, hduration] using hcap

def Point.clears : Point → Option ExamAttemptId
  | .roomClear attempt => some attempt.id
  | _ => none

def WalkedOut (sitting : ExamAttemptId) (s : Db) : Prop :=
  sitting.exam.uuid ∈ s.minted ∧
    (Stands s.exam sitting.exam →
      ∃ row, s.examAttempt.lookup sitting = some row ∧ row.leftAt.isSome)

theorem Wrote.walkedOut
    (h : Wrote id s w p s') (hs : Sound s) (hclears : p.clears ≠ some sitting)
    (hout : WalkedOut sitting s) : WalkedOut sitting s' := by
  refine ⟨h.minted_subset hout.1, ?_⟩
  intro hstands
  obtain ⟨row, hrow, hleft⟩ := hout.2 (h.stands_before hout.1 hstands)
  have hexam : row.exam = sitting.exam := congrArg ExamAttemptId.exam (hs.attempts _ row hrow).1
  obtain ⟨row', hrow', -⟩ := h.attempt_kept hrow (hexam ▸ hstands)
  refine ⟨row', hrow', ?_⟩
  rcases h.leftAt_cases hrow' with
    ⟨old, hold, hsame⟩ | ⟨job, -, -, hnone⟩ | ⟨attempt, rfl, hid, -⟩ | ⟨-, hstamp⟩
  · rw [hrow] at hold
    cases hold
    rw [hsame]
    exact hleft
  · rw [hrow] at hnone
    cases hnone
  · exact absurd (congrArg some hid) hclears
  · rw [hstamp]
    rfl

/-- The stamp of a running sitting leaves the marker on. -/
theorem stampLeftIfRunning_marks
    {exam : ExamRow} (hs : Sound s) (hnow : -2 ^ 63 ≤ w.now)
    (hexam : s.exam.lookup sitting.exam = some exam)
    (hrow : s.examAttempt.lookup sitting = some row)
    (hstatus : row.status exam.exam w.now = .inProgress) :
    WalkedOut sitting (s.stampLeftIfRunning sitting w.now) := by
  have hminted := (hs.exams _ exam hexam).2
  unfold Db.stampLeftIfRunning
  rw [hexam, hrow]
  dsimp only
  split
  · exact ⟨hminted, fun _ => ⟨_, AList.lookup_insert _, rfl⟩⟩
  · next hkept =>
    refine ⟨hminted, fun _ => ⟨row, hrow, ?_⟩⟩
    by_contra hleft
    exact hkept (stampable_of_running hnow hstatus (by simpa using hleft))

end Stamp

def clearsElsewhere (sitting : ExamAttemptId) (_ : Config Db Point) (p : Point) : Bool :=
  p.clears ≠ some sitting

theorem walkedOut_run
    {sitting : ExamAttemptId} {c d : Config Db Point} {ns : List (Move Request World)}
    (horder : InOrder c) (hout : WalkedOut sitting c.shared)
    (hguard : machine.Guarded (Config.Admits (clearsElsewhere sitting)) c ns)
    (hrun : machine.run c ns = some d) : WalkedOut sitting d.shared := by
  have hend := Machine.run_induction (J := fun c => InOrder c ∧ WalkedOut sitting c.shared) ?_
    ⟨horder, hout⟩ hguard hrun
  · exact hend.2
  · rintro c c' m ⟨horder, hout⟩ hadmits hstep
    refine ⟨horder.step hstep, ?_⟩
    rcases move_cases hstep with hsame | ⟨id, hreleased⟩ | ⟨id, w, p, rfl, hp, hwrote⟩
    · rw [hsame]
      exact hout
    · rw [hreleased]
      exact hout
    · exact hwrote.walkedOut horder.shared (of_decide_eq_true (hadmits.check hp)) hout

/-! ## The room -/

def roomQuiet (c : Config Db Point) (sitting : ExamAttemptId) : Bool :=
  !Table.any c.calls fun _ q => q = .roomStamp sitting ∨ q.clears = some sitting

/-- What holds of the marker in one configuration: it is off while a socket is open, a walk-out
from a running sitting puts it on until the next clear, and no save is refused for it while the
student is inside. -/
structure MarkerKept (c : Config Db Point) : Prop where
  opened : ∀ sitting id q row, roomQuiet c sitting = true → c.calls.lookup id = some q →
    q.room = some sitting → c.shared.examAttempt.lookup sitting = some row → row.leftAt = none
  closed : ∀ sitting id w c' exam row ns d row', c.calls.lookup id = some (.roomStamp sitting) →
    machine.step c (.advance id w) = some c' → c.shared.exam.lookup sitting.exam = some exam →
    c.shared.examAttempt.lookup sitting = some row → -2 ^ 63 ≤ w.now →
    row.status exam.exam w.now = .inProgress → machine.run c' ns = some d →
    machine.Guarded (Config.Admits (clearsElsewhere sitting)) c' ns →
    d.shared.examAttempt.lookup sitting = some row' → row'.leftAt.isSome
  admitted : ∀ (origin : Origin) exam user now attempt id q,
    origin.writable c.shared exam user now = .ok attempt → c.calls.lookup id = some q →
    q.inside attempt.id → checkRejoin exam attempt = .ok ()

theorem Present.markerKept {c : Config Db Point} (hc : Present c) (horder : InOrder c) :
    MarkerKept c := by
  constructor
  · intro sitting id q row hquiet hq hroom hrow
    have hnone : Table.any c.calls
        (fun _ q => q = .roomStamp sitting ∨ q.clears = some sitting) = false := by
      simpa [roomQuiet] using hquiet
    have hsettled := Table.any_eq_false_iff.mp hnone id q hq
    refine hc.unmarked id q sitting row hq ⟨hroom, ?_⟩ hrow
    rintro attempt rfl
    obtain rfl : attempt.id = sitting := Option.some.inj hroom
    simp [Point.clears] at hsettled
  · intro sitting id w c' exam row ns d row' hp hstep hexam hrow hnow hstatus hrun hguard hrow'
    have horder' := horder.step hstep
    have hshared : c'.shared = c.shared.stampLeftIfRunning sitting w.now := by
      simp only [Machine.step, hp, machine, next, Option.some.injEq] at hstep
      rw [← hstep]
      rfl
    have hmarked := stampLeftIfRunning_marks horder.shared hnow hexam hrow hstatus
    have hout := walkedOut_run horder' (hshared ▸ hmarked) hguard hrun
    obtain ⟨hid, hstands⟩ := (inOrder_run horder' hrun).shared.attempts sitting row' hrow'
    have hexam' : row'.exam = sitting.exam := congrArg ExamAttemptId.exam hid
    obtain ⟨stored, hstored, hleft⟩ := hout.2 (hexam' ▸ hstands)
    rw [hrow'] at hstored
    cases hstored
    exact hleft
  · intro origin exam user now attempt id q hwritable hq hinside
    have hrow := (Origin.writable_eq horder.shared hwritable).1
    have hleft := hc.unmarked id q attempt.id attempt hq hinside hrow
    simp [checkRejoin, hleft]

/-- As long as no socket clears the marker of a sitting while the walk-out from it is still to
be stamped, the marker tells who is in the room. -/
theorem room_marker_kept
    {ms : List (Move Request World)} {c : Config Db Point}
    (hleave : machine.Guarded socketsLeave start ms)
    (hrespect : machine.Guarded (Config.Admits clearsRespected) start ms)
    (hreach : machine.run start ms = some c) : MarkerKept c := by
  have hend := Machine.run_induction
    (J := fun c => InOrder c ∧ c.Holds (fun _ => True) (fun _ p _ => FreshSeat p) ∧ Present c)
    ?_ ⟨inOrder_start, Config.initial_holds _ trivial, present_start⟩ (hleave.and hrespect) hreach
  · exact hend.2.2.markerKept hend.1
  · rintro c c' m ⟨horder, hfresh, hc⟩ ⟨hleave, hrespect⟩ hstep
    exact ⟨horder.step hstep, freshSeat_relyGuarantee.holds_step hfresh trivial hstep,
      hc.step horder hfresh hleave hrespect hstep⟩

section Runs

open Sample

/-- One step of the socket `id`, which loses its student. -/
def goneFrom (id : ℕ) : Move Request World := hear id .gone

def enterQuiz : Move Request World := .start (.enterRoom quizId student)

def closeOneTab : List (Move Request World) :=
  opening ++ [startQuiz, tick 4, tick 4, tick 4, tick 4,
    enterQuiz, tick 5, tick 5, tick 5, tick 5, enterQuiz, tick 6, tick 6, tick 6, tick 6,
    goneFrom 5, tick 5]

def closeBothTabs : List (Move Request World) := closeOneTab ++ [goneFrom 6, tick 6]

def reconnect : List (Move Request World) :=
  opening ++ [startQuiz, tick 4, tick 4, tick 4, tick 4,
    enterQuiz, tick 5, tick 5, tick 5, tick 5, enterQuiz, tick 6, tick 6,
    goneFrom 5, tick 5, tick 6, tick 6, tick 5]

theorem closeBothTabs_run :
    machine.Guarded socketsLeave start closeBothTabs ∧
      machine.Guarded (Config.Admits clearsRespected) start closeBothTabs ∧
      ∃ c c' exam row row', machine.run start closeBothTabs = some c ∧
        c.calls.lookup 6 = some (.roomStamp firstSitting) ∧
        machine.step c (tick 6) = some c' ∧ c.shared.exam.lookup firstSitting.exam = some exam ∧
        c.shared.examAttempt.lookup firstSitting = some row ∧
        row.status exam.exam 0 = .inProgress ∧
        c'.shared.examAttempt.lookup firstSitting = some row' := by
  have hguarded : machine.Guarded socketsLeave start closeBothTabs ∧
      machine.Guarded (Config.Admits clearsRespected) start closeBothTabs := by
    decide
  have hend : (machine.run start closeBothTabs).any (fun c =>
      c.calls.lookup 6 = some (.roomStamp firstSitting) ∧
        (machine.step c (tick 6)).any (fun c' =>
          (c.shared.exam.lookup firstSitting.exam).any fun exam =>
            (c.shared.examAttempt.lookup firstSitting).any fun row =>
              row.status exam.exam 0 = .inProgress ∧
                (c'.shared.examAttempt.lookup firstSitting).isSome) = true) = true := by
    decide
  obtain ⟨c, hrun, hc⟩ := (Option.any_eq_true _ _).mp hend
  obtain ⟨hp, hstep⟩ := of_decide_eq_true hc
  obtain ⟨c', hstep, hc'⟩ := (Option.any_eq_true _ _).mp hstep
  obtain ⟨exam, hexam, hexams⟩ := (Option.any_eq_true _ _).mp hc'
  obtain ⟨row, hrow, hrows⟩ := (Option.any_eq_true _ _).mp hexams
  obtain ⟨hstatus, hkept⟩ := of_decide_eq_true hrows
  obtain ⟨row', hrow'⟩ := Option.isSome_iff_exists.mp hkept
  exact ⟨hguarded.1, hguarded.2, c, c', exam, row, row', hrun, hp, hstep, hexam, hrow, hstatus,
    hrow'⟩

theorem room_marker_kept_closeBothTabs :
    ∃ c c' row', machine.run start closeBothTabs = some c ∧
      machine.step c (tick 6) = some c' ∧
      c'.shared.examAttempt.lookup firstSitting = some row' ∧ row'.leftAt.isSome := by
  obtain ⟨hleave, hrespect, c, c', exam, row, row', hrun, hp, hstep, hexam, hrow, hstatus, hrow'⟩ :=
    closeBothTabs_run
  have hkept := room_marker_kept hleave hrespect hrun
  exact ⟨c, c', row', hrun, hstep, hrow', hkept.closed firstSitting 6 _ c' exam row [] c' row' hp
    hstep hexam hrow (by decide) hstatus rfl trivial hrow'⟩

theorem stamp_lands_late :
    ¬ ∀ (ms : List (Move Request World)) (c : Config Db Point) (sitting : ExamAttemptId) (id : ℕ)
      (q : Point) (row : ExamAttempt), machine.Guarded socketsLeave start ms →
      machine.run start ms = some c → roomQuiet c sitting = true → c.calls.lookup id = some q →
      q.room = some sitting → c.shared.examAttempt.lookup sitting = some row →
      row.leftAt = none := by
  intro h
  have hguarded : machine.Guarded socketsLeave start reconnect := by decide
  have hend : (machine.run start reconnect).any (fun c =>
      roomQuiet c firstSitting = true ∧ c.calls.lookup 6 = some (.roomLoop firstSitting) ∧
        (c.shared.examAttempt.lookup firstSitting).any (fun row => row.leftAt = some 0) = true) =
      true := by
    decide
  obtain ⟨c, hrun, hc⟩ := (Option.any_eq_true _ _).mp hend
  obtain ⟨hquiet, hq, hrows⟩ := of_decide_eq_true hc
  obtain ⟨row, hrow, hleft⟩ := (Option.any_eq_true _ _).mp hrows
  have hnone := h reconnect c firstSitting 6 _ row hguarded hrun hquiet hq rfl hrow
  rw [of_decide_eq_true hleft] at hnone
  cases hnone

end Runs

end Hezarfen.Exams
