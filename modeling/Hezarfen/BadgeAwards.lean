import Hezarfen.Badges

/-!
# Awards keep up with the counters

An operation moves the counters of some users and then syncs them, so the awards keep up
and are never taken back.  The photo hand-in syncs nobody when it created the row, so
there they keep up exactly when the credit brings no counter onto a new threshold.
-/

namespace Hezarfen.Homeworks

/-- What the flag of the upsert says. -/
theorem upsertTx_landed
    {homework : HomeworkId} {user : UserId} {text : Option String} {preserveText existed : Bool}
    {id : HomeworkSubmissionId} {now : Timestamp} {s s' : Db} {submission : HomeworkSubmission}
    (h : upsertTx homework user text preserveText id now s =
      .ok (some (submission, existed), s')) :
    (existed = true ∧ s'.tally = s.tally ∧ s'.exams = s.exams ∧
      (s.submissionFor homework user).isSome = true) ∨
    (existed = false ∧ s.handsIn homework user id = true ∧
      ∃ row, s.homework.lookup homework = some row ∧
        s' = s.createSubmission ⟨id, homework, user, text, now, now⟩ (onTime now row.dueAt)) := by
  unfold upsertTx at h
  split at h
  · cases h
  next row hrow =>
    split at h
    · next hnamed =>
      split at h
      · next existing hexisting =>
        split at h
        · cases h
        · cases h
          exact .inl ⟨rfl, rfl, rfl, by rw [hexisting]; rfl⟩
      · next hnone =>
        split at h
        · next hfresh =>
          cases h
          refine .inr ⟨rfl, ?_, row, hrow, rfl⟩
          simp [Db.handsIn, hrow, hnamed, hnone, hfresh]
        · cases h
    · cases h

theorem Db.Stamps.next {s s' : Db} (hs : s.Stamps) {p : Point} {w : World} {n : Reply}
    (h : next 0 s p w = some (s', n)) : s'.Stamps :=
  (next_wrote h).stamps hs

theorem Db.Stamps.submit
    {s s' : Db} (hs : s.Stamps) {w : World} {homework : HomeworkId} {user : UserId}
    {text : Option String} {landed : Option (HomeworkSubmission × Bool)}
    (h : upsertTx homework user text false ⟨w.uuid⟩ w.now s = .ok (landed, s')) : s'.Stamps := by
  have hnext : ∃ n, Homeworks.next 0 s (.submitTx homework user text) w = some (s', n) :=
    ⟨_, by simp only [Homeworks.next, settle, txWithRetry, h]; rfl⟩
  obtain ⟨n, hnext⟩ := hnext
  exact hs.next hnext

theorem Db.Stamps.attach
    {s s' : Db} (hs : s.Stamps) {w : World} {homework : HomeworkId} {user : UserId}
    {landed : Option (HomeworkSubmission × Bool)}
    (h : upsertTx homework user none true ⟨w.uuid⟩ w.now s = .ok (landed, s')) : s'.Stamps := by
  have hnext : ∃ n, Homeworks.next 0 s (.attachTx homework user ⟨"", "", 0⟩) w = some (s', n) :=
    ⟨_, by simp only [Homeworks.next, settle, txWithRetry, h]; rfl⟩
  obtain ⟨n, hnext⟩ := hnext
  exact hs.next hnext

theorem Db.Stamps.withdraw
    {s s' : Db} (hs : s.Stamps) (w : World) {submission : HomeworkSubmission}
    {gone : Option HomeworkSubmission} (h : withdrawTx submission s = .ok (gone, s')) :
    s'.Stamps := by
  have hnext : ∃ n, Homeworks.next 0 s (.withdrawTx submission []) w = some (s', n) :=
    ⟨_, by simp only [Homeworks.next, settle, txWithRetry, h]; rfl⟩
  obtain ⟨n, hnext⟩ := hnext
  exact hs.next hnext

theorem Db.Stamps.grade
    {s s' : Db} (hs : s.Stamps) {w : World} {homework : HomeworkId} {target : UserId}
    {verdict : Verdict} {graded : HomeworkResult}
    (h : gradeTx ⟨w.uuid⟩ homework target verdict w.now s = .ok (graded, s')) : s'.Stamps := by
  have hnext : ∃ n, Homeworks.next 0 s (.gradeTx homework target verdict) w = some (s', n) :=
    ⟨_, by simp only [Homeworks.next, settle, txWithRetry, h]; rfl⟩
  obtain ⟨n, hnext⟩ := hnext
  exact hs.next hnext

theorem lookup_updateTally_ne {tallies : Table UserId Tally} {user other : UserId}
    (h : other ≠ user) (f : Tally → Tally) :
    (updateTally tallies user f).lookup other = tallies.lookup other := by
  unfold updateTally
  rw [lookup_update]
  simp [h]

theorem lookup_moveHigh_ne {users : Table UserId Exams.AppUser} {user other : UserId}
    (h : other ≠ user) (before : Option Exams.Mark) (mark : Exams.Mark) :
    (Exams.moveHigh users user before mark).lookup other = users.lookup other := by
  have hupdate : ∀ f : Exams.AppUser → Exams.AppUser,
      (Table.update users fun id row => if id = user then f row else row).lookup other =
        users.lookup other := by
    intro f
    rw [lookup_update]
    simp [h]
  unfold Exams.moveHigh
  by_cases hhigh : ((if mark.isHigh then 1 else 0) -
      (if before.any Exams.Mark.isHigh then 1 else 0) : ℤ) ≠ 0
  · rw [if_pos hhigh]
    exact hupdate _
  · rw [if_neg hhigh]

/-- A homework grade moves the counter of its grader only. -/
theorem gradeHomework_others {id : HomeworkResultId} {homework : HomeworkId} {target : UserId}
    {verdict : Verdict} {now : Timestamp} {s s' : Db} {graded : HomeworkResult}
    (h : gradeTx id homework target verdict now s = .ok (graded, s')) :
    s'.tally = s.tally ∧ ∀ user, user ≠ verdict.gradedBy →
      s'.exams.appUser.lookup user = s.exams.appUser.lookup user := by
  have hstore : (txWithRetry (gradeTx id homework target verdict now) s).2 = s' := by
    simp only [txWithRetry, h]
  obtain ⟨-, heq⟩ | ⟨-, result, -, -, -, heq⟩ := gradeTx_store s id homework target verdict now
  · rw [← hstore, heq]
    exact ⟨rfl, fun _ _ => rfl⟩
  · rw [← hstore, heq]
    split
    · exact ⟨rfl, fun _ _ => rfl⟩
    · refine ⟨rfl, fun user hother => ?_⟩
      rw [lookup_moveGiven]
      simp only [hother, if_false, Option.map_id']
      rfl

/-- An exam grade moves the counters of its two sides only. -/
theorem gradeExam_others {s s' : Exams.Db} {result graded : Exams.ExamResult} {kind : String}
    (h : Exams.gradeTx result kind s = .ok (graded, s')) {user : UserId}
    (hstudent : user ≠ result.user) (hgrader : user ≠ result.gradedBy) :
    s'.appUser.lookup user = s.appUser.lookup user := by
  have hstore : (txWithRetry (Exams.gradeTx result kind) s).2 = s' := by
    simp only [txWithRetry, h]
  obtain ⟨-, heq⟩ | ⟨-, before, -, heq⟩ | ⟨-, -, row, refs, heq⟩ := gradeTx_cases s result kind
  · rw [← hstore, heq]
  · rw [← hstore, heq]
    exact lookup_moveHigh_ne hstudent _ _
  · rw [← hstore, heq]
    have hclaim : (s.claimMark result.exam row result.gradedBy refs).appUser.lookup user =
        s.appUser.lookup user := by
      simp only [Exams.Db.claimMark, Exams.Db.updateUser, lookup_update]
      simp [hgrader]
    exact (lookup_moveHigh_ne hstudent _ _).trans hclaim

end Hezarfen.Homeworks

namespace Hezarfen.Badges

open Gate
open Exams (ExamResult GradeArgs)
open Homeworks (HomeworkId HomeworkResult HomeworkSubmission Verdict World onTime upsertTx
  withdrawTx)

variable {s s' : Db} {user : UserId} {α : Type} {w : World} {homework : HomeworkId}

def Db.holds (s : Db) (user : UserId) (badge : String) : Bool :=
  (s.badgeAward.lookup (user, badge)).isSome

def Db.AwardedTo (s : Db) (user : UserId) : Prop :=
  ∀ badge ∈ earned (s.load user), s.holds user badge = true

def Db.Awarded (s : Db) : Prop := ∀ user, s.AwardedTo user

/-- No award is removed, and no `earned_at` changes. -/
def Db.Keeps (s s' : Db) : Prop :=
  ∀ key earnedAt, s.badgeAward.lookup key = some earnedAt →
    s'.badgeAward.lookup key = some earnedAt

theorem Db.Keeps.refl (s : Db) : s.Keeps s := fun _ _ h => h

theorem Db.Keeps.trans {s'' : Db} (h : s.Keeps s') (h' : s'.Keeps s'') : s.Keeps s'' :=
  fun key earnedAt hrow => h' key earnedAt (h key earnedAt hrow)

theorem Db.Keeps.holds (h : s.Keeps s') {badge : String} (hholds : s.holds user badge = true) :
    s'.holds user badge = true := by
  obtain ⟨earnedAt, hrow⟩ := Option.isSome_iff_exists.mp hholds
  unfold Db.holds
  rw [h _ _ hrow]
  rfl

section Awards

variable {now : Timestamp} {awards : Table (UserId × String) (Option Timestamp)}
  {key key' : UserId × String}

theorem award_keeps {earnedAt : Option Timestamp} (h : awards.lookup key' = some earnedAt) :
    (award now awards key).lookup key' = some earnedAt := by
  unfold award
  split
  · next hnone =>
    rw [lookup_insert_eq, if_neg (fun heq => by rw [heq, hnone] at h; cases h)]
    exact h
  · next hnull =>
    rw [lookup_insert_eq]
    split
    · next heq =>
      rw [heq, hnull] at h
      exact h
    · exact h
  · exact h

theorem award_holds : ((award now awards key).lookup key).isSome = true := by
  unfold award
  split
  · rw [lookup_insert_eq, if_pos rfl]
    rfl
  · rw [lookup_insert_eq, if_pos rfl]
    rfl
  · next hrow =>
    rw [hrow]
    rfl

theorem foldl_award_keeps {ids : List String} {earnedAt : Option Timestamp}
    (h : awards.lookup key = some earnedAt) :
    (ids.foldl (fun awards badge => award now awards (user, badge)) awards).lookup key =
      some earnedAt := by
  induction ids generalizing awards with
  | nil => exact h
  | cons badge ids ih => exact ih (award_keeps h)

theorem foldl_award_holds {ids : List String} {badge : String} (h : badge ∈ ids) :
    ((ids.foldl (fun awards badge => award now awards (user, badge)) awards).lookup
      (user, badge)).isSome = true := by
  induction ids generalizing awards with
  | nil => cases h
  | cons first ids ih =>
      cases h with
      | head =>
          have hfirst : ((award now awards (user, badge)).lookup (user, badge)).isSome = true :=
            award_holds
          obtain ⟨earnedAt, hrow⟩ := Option.isSome_iff_exists.mp hfirst
          rw [List.foldl_cons, foldl_award_keeps hrow]
          rfl
      | tail _ h => exact ih h

end Awards

theorem keeps_sync (s : Db) (now : Timestamp) (user : UserId) : s.Keeps (s.sync now user) :=
  fun _ _ hrow => foldl_award_keeps hrow

theorem load_sync (s : Db) (now : Timestamp) (user other : UserId) :
    (s.sync now user).load other = s.load other := rfl

theorem awardedTo_sync (s : Db) (now : Timestamp) (user : UserId) :
    (s.sync now user).AwardedTo user := by
  intro badge hbadge
  rw [load_sync] at hbadge
  exact foldl_award_holds hbadge

theorem Db.AwardedTo.sync (h : s.AwardedTo user) (now : Timestamp) (other : UserId) :
    (s.sync now other).AwardedTo user := by
  intro badge hbadge
  exact (keeps_sync s now other).holds (h badge hbadge)

/-! ## What an operation moves -/

structure Rests (users : List UserId) (s s' : Db) : Prop where
  load : ∀ user, user ∉ users → s'.load user = s.load user
  awards : s'.badgeAward = s.badgeAward

def Db.syncAll (s : Db) (now : Timestamp) (users : List UserId) : Db :=
  users.foldl (fun s user => s.sync now user) s

def Synced (s : Db) (now : Timestamp) (s' : Db) : Prop :=
  ∃ users mid, Rests users s mid ∧ mid.work.Stamps ∧ s' = mid.syncAll now users

theorem Rests.refl (s : Db) : Rests [] s s := ⟨fun _ _ => rfl, rfl⟩

theorem Rests.work {users : List UserId} {work : Homeworks.Db}
    (htally : ∀ user, user ∉ users → work.tally.lookup user = s.work.tally.lookup user)
    (hexams : ∀ user, user ∉ users →
      work.exams.appUser.lookup user = s.work.exams.appUser.lookup user) :
    Rests users s { s with work := work } where
  load := by
    intro user hother
    simp only [Db.load, htally user hother, hexams user hother]
  awards := rfl

theorem syncAll_keeps (s : Db) (now : Timestamp) (users : List UserId) :
    s.Keeps (s.syncAll now users) := by
  induction users generalizing s with
  | nil => exact .refl s
  | cons user users ih => exact (keeps_sync s now user).trans (ih _)

theorem syncAll_work (s : Db) (now : Timestamp) (users : List UserId) :
    (s.syncAll now users).work = s.work := by
  induction users generalizing s with
  | nil => rfl
  | cons user users ih => exact ih _

theorem syncAll_awardedTo {now : Timestamp} {users : List UserId}
    (h : user ∉ users → s.AwardedTo user) : (s.syncAll now users).AwardedTo user := by
  induction users generalizing s with
  | nil => exact h List.not_mem_nil
  | cons first users ih =>
      apply ih
      intro hother
      by_cases hfirst : user = first
      · rw [hfirst]
        exact awardedTo_sync s now first
      · exact (h (by simp [hfirst, hother])).sync now first

theorem Synced.awarded {now : Timestamp} (h : Synced s now s') (hs : s.Awarded) :
    s'.Awarded := by
  obtain ⟨users, mid, hrests, -, rfl⟩ := h
  intro user
  apply syncAll_awardedTo
  intro hother badge hbadge
  rw [hrests.load user hother] at hbadge
  unfold Db.holds
  rw [hrests.awards]
  exact hs user badge hbadge

theorem Synced.keeps {now : Timestamp} (h : Synced s now s') : s.Keeps s' := by
  obtain ⟨users, mid, hrests, -, rfl⟩ := h
  intro key earnedAt hrow
  rw [← hrests.awards] at hrow
  exact syncAll_keeps mid now users key earnedAt hrow

theorem Synced.stamps {now : Timestamp} (h : Synced s now s') : s'.work.Stamps := by
  obtain ⟨users, mid, -, hstamps, rfl⟩ := h
  rw [syncAll_work]
  exact hstamps

theorem synced_retry {f : Tx Db α} {now : Timestamp} (hs : s.work.Stamps)
    (h : ∀ a s', f s = .ok (a, s') → Synced s now s') : Synced s now (txWithRetry f s).2 := by
  cases hf : txWithRetry f s with
  | mk r s' =>
      obtain ⟨a, -, hok⟩ | ⟨e, -, -, rfl⟩ := txWithRetry_cases hf
      · exact h a s' hok
      · exact ⟨[], s', .refl s', hs, rfl⟩

theorem inWork_ok {tx : Tx Homeworks.Db α} {a : α} (h : inWork tx s = .ok (a, s')) :
    ∃ work, tx s.work = .ok (a, work) ∧ s' = { s with work := work } := by
  unfold inWork at h
  cases htx : tx s.work with
  | error =>
      rw [htx] at h
      cases h
  | ok r =>
      rw [htx] at h
      cases h
      exact ⟨r.2, rfl, rfl⟩

theorem inExams_ok {tx : Tx Exams.Db α} {a : α} (h : inExams tx s = .ok (a, s')) :
    ∃ exams, tx s.work.exams = .ok (a, exams) ∧
      s' = { s with work := { s.work with exams := exams } } := by
  obtain ⟨work, htx, rfl⟩ := inWork_ok h
  cases hexams : tx s.work.exams with
  | error =>
      rw [hexams] at htx
      cases htx
  | ok r =>
      rw [hexams] at htx
      cases htx
      exact ⟨r.2, rfl, rfl⟩

theorem submit_synced {text : Option String} {a : HomeworkSubmission × Bool} (hs : s.work.Stamps)
    (h : submit w homework user text s = .ok (a, s')) : Synced s w.now s' := by
  simp only [submit, bind_eq_ok] at h
  obtain ⟨-, -, -, -, ⟨landed, s₁⟩, hmove, h⟩ := h
  obtain ⟨work, hupsert, rfl⟩ := inWork_ok hmove
  cases landed with
  | none => cases h
  | some landed =>
      obtain ⟨submission, existed⟩ := landed
      have hstamps := hs.submit hupsert
      obtain ⟨rfl, htally, hexams, -⟩ | ⟨rfl, -, row, -, hwork⟩ :=
        Homeworks.upsertTx_landed hupsert
      · cases h
        refine ⟨[], _, .work (fun _ _ => ?_) (fun _ _ => ?_), hstamps, rfl⟩
        · rw [htally]
        · rw [hexams]
      · cases h
        refine ⟨[user], { s with work := work }, .work (fun other hother => ?_) (fun _ _ => ?_),
          hstamps, rfl⟩
        · rw [hwork]
          exact Homeworks.lookup_updateTally_ne (by simpa using hother) _
        · rw [hwork]
          rfl

theorem withdraw_synced {a : HomeworkSubmission} (hs : s.work.Stamps)
    (h : withdraw w homework user s = .ok (a, s')) : Synced s w.now s' := by
  simp only [withdraw, bind_eq_ok] at h
  obtain ⟨-, -, -, -, h⟩ := h
  cases hrow : s.work.submissionFor homework user with
  | none =>
      rw [hrow] at h
      cases h
  | some =>
      rw [hrow] at h
      simp only [bind_eq_ok] at h
      obtain ⟨⟨gone, s₁⟩, hmove, h⟩ := h
      obtain ⟨work, hgone, rfl⟩ := inWork_ok hmove
      cases gone with
      | none => cases h
      | some =>
          cases h
          have hstamps := hs.withdraw w hgone
          refine ⟨[user], _, ?_, hstamps, rfl⟩
          obtain rfl | ⟨stored, due, hstored, -, rfl⟩ := Homeworks.withdrawTx_ok hgone
          · exact .work (fun _ _ => rfl) fun _ _ => rfl
          · obtain ⟨hthere, hfor⟩ := Homeworks.Db.submissionFor_some hs.keyed hrow
            rw [hthere] at hstored
            cases hstored
            refine .work (fun other hother => ?_) fun _ _ => rfl
            apply Homeworks.lookup_updateTally_ne
            rw [hfor.2]
            simpa using hother

theorem gradeHomework_synced {target : UserId} {verdict : Verdict} {a : HomeworkResult}
    (hs : s.work.Stamps) (h : gradeHomework w homework target verdict s = .ok (a, s')) :
    Synced s w.now s' := by
  simp only [gradeHomework] at h
  cases hread : s.work.readHomework homework with
  | none =>
      rw [hread] at h
      cases h
  | some =>
      rw [hread] at h
      simp only [bind_eq_ok] at h
      obtain ⟨-, -, -, -, -, -, -, -, ⟨graded, s₁⟩, hmove, h⟩ := h
      obtain ⟨work, hgrade, rfl⟩ := inWork_ok hmove
      cases h
      have hstamps := hs.grade hgrade
      obtain ⟨htally, hothers⟩ := Homeworks.gradeHomework_others hgrade
      refine ⟨[verdict.gradedBy], _, .work (fun _ _ => ?_) (fun user hother => ?_), hstamps, rfl⟩
      · rw [htally]
      · exact hothers user (by simpa using hother)

theorem gradeExam_synced {args : GradeArgs} {a : ExamResult} (hs : s.work.Stamps)
    (h : gradeExam w args s = .ok (a, s')) : Synced s w.now s' := by
  simp only [gradeExam] at h
  cases hread : s.work.exams.readExam args.exam with
  | none =>
      rw [hread] at h
      cases h
  | some =>
      rw [hread] at h
      simp only [bind_eq_ok] at h
      obtain ⟨-, -, -, -, -, -, mark, -, -, -, -, -, ⟨result, s₁⟩, hmove, h⟩ := h
      obtain ⟨exams, hgrade, rfl⟩ := inExams_ok hmove
      cases h
      have hstamps : ({ s.work with exams := exams } : Homeworks.Db).Stamps :=
        ⟨hs.keyed, hs.named⟩
      refine ⟨[args.grader, args.target], { s with work := { s.work with exams := exams } },
        .work (fun _ _ => rfl) (fun user hother => ?_), hstamps, rfl⟩
      simp only [List.mem_cons, List.not_mem_nil, or_false, not_or] at hother
      exact Homeworks.gradeExam_others hgrade hother.2 hother.1

theorem finish_synced {a : Pomodoro.PomodoroSession} (hs : s.work.Stamps)
    (h : finish w user s = .ok (a, s')) : Synced s w.now s' := by
  simp only [finish, bind_eq_ok] at h
  obtain ⟨⟨saved, s₁⟩, hclosed, h⟩ := h
  cases h
  simp only [finishTx] at hclosed
  cases hopen : s.openRow user with
  | none =>
      rw [hopen] at hclosed
      cases hclosed
  | some row =>
      cases hstudy : s.study.lookup user with
      | none =>
          rw [hopen, hstudy] at hclosed
          cases hclosed
      | some c =>
          rw [hopen, hstudy] at hclosed
          simp only [bind_eq_ok] at hclosed
          obtain ⟨-, -, hclosed⟩ := hclosed
          cases hclosed
          refine ⟨[user], s.close row.1 ⟨w.uuid⟩ ⟨user, w.now, row.2⟩ c,
            ⟨fun other hother => ?_, rfl⟩, hs, rfl⟩
          have hne : other ≠ user := by simpa using hother
          simp only [Db.load, Db.close, lookup_insert_eq, hne, if_false]

/-! ## The photo hand-in -/

/-- The hand-in is taken by the arm of `ensure_can_attach` that creates the row. -/
def Db.creates (s : Db) (w : World) (homework : HomeworkId) (user : UserId) : Bool :=
  (s.work.resultFor homework user).isNone && s.work.handsIn homework user ⟨w.uuid⟩

def Db.punctual (s : Db) (w : World) (homework : HomeworkId) : Bool :=
  (s.work.homework.lookup homework).any fun row => onTime w.now row.dueAt

def Db.crossed (s : Db) (user : UserId) (punctual : Bool) : List String :=
  (s.work.tally.lookup user).elim [] fun tally =>
    (badges.filter fun badge =>
      match badge.stat with
      | .homeworkSubmitted => badge.threshold = tally.homeworkSubmittedTotal + 1
      | .homeworkOnTime => punctual && badge.threshold = tally.homeworkOnTimeTotal + 1
      | _ => false).map Badge.id

def covered (s : Db) (call : Call) : Bool :=
  match call.request with
  | .ensureCanAttach homework user =>
      !s.creates call.world homework user ||
        (s.crossed user (s.punctual call.world homework)).all (s.holds user)
  | _ => true

def Db.photographed (s : Db) (w : World) (homework : HomeworkId) (user : UserId) : Db :=
  let created : HomeworkSubmission := ⟨⟨w.uuid⟩, homework, user, none, w.now, w.now⟩
  { s with work := s.work.createSubmission created (s.punctual w homework) }

theorem ensureCanAttach_cases (w : World) (homework : HomeworkId) (user : UserId) (s : Db) :
    (s.creates w homework user = false ∧
      (txWithRetry (ensureCanAttach w homework user) s).2 = s) ∨
    (s.creates w homework user = true ∧
      (∃ landed, upsertTx homework user none true ⟨w.uuid⟩ w.now s.work =
        .ok (landed, (s.photographed w homework user).work)) ∧
      (txWithRetry (ensureCanAttach w homework user) s).2 = s.photographed w homework user) := by
  cases hresult : s.work.resultFor homework user with
  | some =>
      refine .inl ⟨by simp [Db.creates, hresult], ?_⟩
      simp [txWithRetry, ensureCanAttach, refuseIf, hresult, bind, Except.bind]
  | none =>
      cases hexisting : s.work.submissionFor homework user with
      | some =>
          refine .inl ⟨by simp [Db.creates, Homeworks.Db.handsIn, hexisting], ?_⟩
          simp [txWithRetry, ensureCanAttach, refuseIf, hresult, hexisting, bind, Except.bind,
            pure, Except.pure]
      | none =>
          have hcreates : s.creates w homework user =
              s.work.handsIn homework user ⟨w.uuid⟩ := by
            simp [Db.creates, hresult]
          cases hupsert : upsertTx homework user none true ⟨w.uuid⟩ w.now s.work with
          | error =>
              refine .inl ⟨?_, ?_⟩
              · rw [hcreates, Bool.eq_false_iff]
                intro hlands
                obtain ⟨landed, counted, hok⟩ := Homeworks.upsertTx_handsIn hlands none true w.now
                rw [hupsert] at hok
                cases hok
              · simp [txWithRetry, ensureCanAttach, refuseIf, hresult, hexisting, inWork, hupsert,
                  bind, Except.bind, Except.map]
          | ok r =>
              obtain ⟨landed, work⟩ := r
              cases landed with
              | none =>
                  refine .inl ⟨?_, ?_⟩
                  · rw [hcreates, Bool.eq_false_iff]
                    intro hlands
                    obtain ⟨landed, counted, hok⟩ :=
                      Homeworks.upsertTx_handsIn hlands none true w.now
                    rw [hupsert] at hok
                    cases hok
                  · simp [txWithRetry, ensureCanAttach, refuseIf, hresult, hexisting, inWork,
                      hupsert, bind, Except.bind, Except.map, throw, throwThe,
                      MonadExceptOf.throw]
              | some landed =>
                  obtain ⟨created, existed⟩ := landed
                  obtain ⟨-, -, -, hthere⟩ | ⟨rfl, hlands, row, hrow, rfl⟩ :=
                    Homeworks.upsertTx_landed hupsert
                  · rw [hexisting] at hthere
                    cases hthere
                  · have hpunctual : s.punctual w homework = onTime w.now row.dueAt := by
                      simp [Db.punctual, hrow]
                    refine .inr ⟨by rw [hcreates, hlands], ⟨some (created, false), ?_⟩, ?_⟩
                    · simp only [Db.photographed, hpunctual]
                    · simp [txWithRetry, ensureCanAttach, refuseIf, hresult, hexisting, inWork,
                        hupsert, bind, Except.bind, Except.map, pure, Except.pure,
                        Db.photographed, hpunctual]

theorem serve_synced (hs : s.work.Stamps) (call : Call) :
    Synced s call.world.now (serve call s) ∨
      ∃ homework user, call.request = .ensureCanAttach homework user ∧
        s.creates call.world homework user = true ∧
        (s.photographed call.world homework user).work.Stamps ∧
        serve call s = s.photographed call.world homework user := by
  unfold serve
  cases hrequest : call.request with
  | submit => exact .inl (synced_retry hs fun _ _ h => submit_synced hs h)
  | ensureCanAttach homework user =>
      obtain ⟨-, hsame⟩ | ⟨hcreates, ⟨landed, hupsert⟩, hstore⟩ :=
        ensureCanAttach_cases call.world homework user s
      · left
        dsimp only
        rw [hsame]
        exact ⟨[], s, .refl s, hs, rfl⟩
      · exact .inr ⟨homework, user, rfl, hcreates, hs.attach hupsert, hstore⟩
  | withdraw => exact .inl (synced_retry hs fun _ _ h => withdraw_synced hs h)
  | gradeHomework =>
      exact .inl (synced_retry hs fun _ _ h => gradeHomework_synced hs h)
  | gradeExam => exact .inl (synced_retry hs fun _ _ h => gradeExam_synced hs h)
  | finish => exact .inl (synced_retry hs fun _ _ h => finish_synced hs h)

theorem serve_stamps (hs : s.work.Stamps) (call : Call) :
    (serve call s).work.Stamps := by
  obtain hsynced | ⟨homework, user, -, -, hstamps, hstore⟩ := serve_synced hs call
  · exact hsynced.stamps
  · rw [hstore]
    exact hstamps

theorem serve_keeps (hs : s.work.Stamps) (call : Call) : s.Keeps (serve call s) := by
  obtain hsynced | ⟨homework, user, -, -, -, hstore⟩ := serve_synced hs call
  · exact hsynced.keeps
  · rw [hstore]
    exact .refl s

theorem mem_earned {stats : BadgeStats} {id : String} :
    id ∈ earned stats ↔
      ∃ badge ∈ badges, badge.id = id ∧ badge.threshold ≤ stats.value badge.stat := by
  simp only [earned, List.mem_map, List.mem_filter, decide_eq_true_eq]
  constructor
  · intro h
    obtain ⟨badge, ⟨hmem, hle⟩, rfl⟩ := h
    exact ⟨badge, hmem, rfl, hle⟩
  · intro h
    obtain ⟨badge, hmem, rfl, hle⟩ := h
    exact ⟨badge, ⟨hmem, hle⟩, rfl⟩

def raise (punctual : Bool) : BadgeStat → ℤ
  | .homeworkSubmitted => 1
  | .homeworkOnTime => if punctual then 1 else 0
  | _ => 0

theorem photographed_value {tally : Homeworks.Tally}
    (htally : s.work.tally.lookup user = some tally) (stat : BadgeStat) :
    ((s.photographed w homework user).load user).value stat =
      (s.load user).value stat + raise (s.punctual w homework) stat := by
  have hafter : (s.photographed w homework user).work.tally.lookup user =
      some (Homeworks.creditSubmission tally (s.punctual w homework)) := by
    simp [Db.photographed, Homeworks.Db.createSubmission, Homeworks.updateTally,
      lookup_update, htally]
  cases stat <;> simp only [BadgeStats.value, Db.load, hafter, htally, raise, Option.elim_some,
    Homeworks.creditSubmission] <;> exact (add_zero _).symm

theorem photographed_load_ne {other : UserId} (h : other ≠ user ∨ s.work.tally.lookup user = none) :
    (s.photographed w homework user).load other = s.load other := by
  have hsame : (s.photographed w homework user).work.tally.lookup other =
      s.work.tally.lookup other := by
    simp only [Db.photographed, Homeworks.Db.createSubmission, Homeworks.updateTally,
      lookup_update]
    obtain hother | hnone := h
    · simp [hother]
    · by_cases hother : other = user
      · rw [hother, hnone]
        rfl
      · simp [hother]
  simp only [Db.load, hsame]
  rfl

theorem mem_crossed {punctual : Bool} {tally : Homeworks.Tally}
    (htally : s.work.tally.lookup user = some tally) {id : String} :
    id ∈ s.crossed user punctual ↔ ∃ badge ∈ badges, badge.id = id ∧
      0 < raise punctual badge.stat ∧
      badge.threshold = (s.load user).value badge.stat + raise punctual badge.stat := by
  simp only [Db.crossed, htally, Option.elim_some, List.mem_map, List.mem_filter]
  constructor
  · intro h
    obtain ⟨badge, ⟨hmem, hline⟩, rfl⟩ := h
    refine ⟨badge, hmem, rfl, ?_⟩
    cases hstat : badge.stat <;> rw [hstat] at hline <;>
      simp_all [raise, BadgeStats.value, Db.load]
  · intro h
    obtain ⟨badge, hmem, rfl, hraise, hline⟩ := h
    refine ⟨badge, ⟨hmem, ?_⟩, rfl⟩
    cases punctual <;> cases hstat : badge.stat <;> rw [hstat] at hline hraise <;>
      simp_all [raise, BadgeStats.value, Db.load]

theorem photographed_awarded (hawarded : s.Awarded) :
    (s.photographed w homework user).Awarded ↔
      (s.crossed user (s.punctual w homework)).all (s.holds user) = true := by
  rw [List.all_eq_true]
  cases htally : s.work.tally.lookup user with
  | none =>
      constructor
      · intro _ id hid
        simp [Db.crossed, htally] at hid
      · intro _ other
        unfold Db.AwardedTo
        rw [photographed_load_ne (.inr htally)]
        exact hawarded other
  | some tally =>
      constructor
      · intro hafter id hid
        obtain ⟨badge, hmem, rfl, -, hline⟩ := (mem_crossed htally).mp hid
        apply hafter user
        rw [mem_earned]
        refine ⟨badge, hmem, rfl, ?_⟩
        rw [photographed_value htally]
        omega
      · intro hcovered other id hid
        by_cases hother : other = user
        · subst hother
          obtain ⟨badge, hmem, rfl, hle⟩ := mem_earned.mp hid
          rw [photographed_value htally] at hle
          by_cases hbefore : badge.threshold ≤ (s.load other).value badge.stat
          · exact hawarded other _ (mem_earned.mpr ⟨badge, hmem, rfl, hbefore⟩)
          · -- a counter moves by one, so the new value is the threshold
            have hstep : raise (s.punctual w homework) badge.stat ≤ 1 := by
              unfold raise
              split
              · exact le_refl _
              · split <;> decide
              · decide
            apply hcovered
            rw [mem_crossed htally]
            exact ⟨badge, hmem, rfl, by omega, by omega⟩
        · rw [photographed_load_ne (.inl hother)] at hid
          exact hawarded other id hid

theorem serve_awarded_iff (hs : s.work.Stamps) (hawarded : s.Awarded) (call : Call) :
    (serve call s).Awarded ↔ covered s call = true := by
  cases hrequest : call.request with
  | ensureCanAttach homework user =>
      have hserve : serve call s =
          (txWithRetry (ensureCanAttach call.world homework user) s).2 := by
        simp only [serve, hrequest]
      rw [hserve]
      simp only [covered, hrequest]
      obtain ⟨hcreates, hsame⟩ | ⟨hcreates, -, hstore⟩ :=
        ensureCanAttach_cases call.world homework user s
      · rw [hsame, hcreates]
        exact ⟨fun _ => rfl, fun _ => hawarded⟩
      · rw [hstore, hcreates, photographed_awarded hawarded]
        rfl
  | _ =>
      obtain hsynced | ⟨homework, user, hphoto, -⟩ := serve_synced hs call
      · simp only [covered, hrequest, iff_true]
        exact hsynced.awarded hawarded
      · rw [hphoto] at hrequest
        cases hrequest

/-- The awards keep up in every state of a run and are never taken back exactly when every
photo hand-in of the run is covered. -/
theorem awards_keep_up_iff {s : Db} {calls : List Call} (hs : s.work.Stamps)
    (hawarded : s.Awarded) :
    ((∀ before, before <+: calls → (Sequential.run serve s before).Awarded) ∧
      ∀ before after, before ++ after <+: calls →
        (Sequential.run serve s before).Keeps (Sequential.run serve s (before ++ after))) ↔
      Sequential.Meets serve (fun s call => covered s call = true) s calls := by
  have hbase : ∀ (s : Db) (call : Call), s.work.Stamps → (serve call s).work.Stamps :=
    fun _ call h => serve_stamps h call
  have hexact : ∀ (s : Db) (call : Call), s.work.Stamps → s.Awarded →
      ((serve call s).Awarded ↔ covered s call = true) :=
    fun _ call h hawarded => serve_awarded_iff h hawarded call
  have hkept : ∀ first : Db, ∀ (s : Db) (call : Call), s.work.Stamps ∧ first.Keeps s →
      (serve call s).work.Stamps ∧ first.Keeps (serve call s) :=
    fun _ _ call h => ⟨serve_stamps h.1 call, h.2.trans (serve_keeps h.1 call)⟩
  have hkeeps : ∀ before after,
      (Sequential.run serve s before).Keeps (Sequential.run serve s (before ++ after)) := by
    intro before after
    rw [Sequential.run_append]
    have hstamps : (Sequential.run serve s before).work.Stamps :=
      (Sequential.run_invariant (hkept s) ⟨hs, .refl s⟩).1
    exact (Sequential.run_invariant (hkept _) ⟨hstamps, .refl _⟩).2
  have halways : (∀ before, before <+: calls → (Sequential.run serve s before).Awarded) ↔
      Sequential.Meets serve (fun s call => covered s call = true) s calls :=
    Sequential.always_iff_meets hbase hexact hs hawarded
  exact (and_iff_left fun before after _ => hkeeps before after).trans halways

section Samples

open Homeworks.Sample

def term : Db :=
  { work :=
      { Homeworks.Db.empty with
        exams := { Exams.Db.empty with
          appUser := (∅ : Table _ _).insert student ⟨0, 0, 0⟩ }
        homework := (∅ : Table _ _).insert essay (essayArgs.row 0)
        tally := (∅ : Table _ _).insert student ⟨0, 0⟩ }
    pomodoroSession := ∅
    study := ∅
    lessons := ∅
    badgeAward := ∅ }

def clock : World := ⟨1, rowUuid, rowUuid, none, none⟩

def photo : Call := ⟨.ensureCanAttach essay student, clock⟩

def photoAfterText : List Call :=
  [⟨.submit essay student (some "draft"), clock⟩, ⟨.withdraw essay student, clock⟩, photo]

theorem term_stamps : term.work.Stamps := by
  constructor
  · intro id row hrow
    cases hrow
  · intro id row stamp hrow
    cases hrow

theorem term_awarded : term.Awarded := by
  intro user badge hbadge
  obtain ⟨line, hmem, -, hle⟩ := mem_earned.mp hbadge
  have hpositive : ∀ line ∈ badges, 0 < line.threshold := by decide
  have hzero : (term.load user).value line.stat = 0 := by
    by_cases huser : user = student
    · subst huser
      cases line.stat <;> rfl
    · have htally : term.work.tally.lookup user = none := by
        simp only [term, lookup_insert_eq, huser, if_false]
        rfl
      have hexams : term.work.exams.appUser.lookup user = none := by
        simp only [term, lookup_insert_eq, huser, if_false]
        rfl
      cases line.stat <;> simp only [BadgeStats.value, Db.load, htally, hexams] <;> rfl
  have := hpositive line hmem
  omega

theorem awards_keep_up_iff_photoAfterText :
    (Sequential.run serve term photoAfterText).Awarded :=
  ((awards_keep_up_iff term_stamps term_awarded).mpr
    (by decide :
      Sequential.Meets serve (fun s call => covered s call = true) term photoAfterText)).1
    photoAfterText (List.prefix_refl _)

/-- The first hand-in of a student is a photo. -/
theorem photo_not_awarded : term.Awarded ∧ ¬ (Sequential.run serve term [photo]).Awarded := by
  refine ⟨term_awarded, ?_⟩
  intro hawarded
  have hearned : "homework_submitted_1" ∈
      earned ((Sequential.run serve term [photo]).load student) := by decide
  have hmissing : (Sequential.run serve term [photo]).holds student "homework_submitted_1" =
      false := by decide
  rw [hawarded student _ hearned] at hmissing
  cases hmissing

end Samples

end Hezarfen.Badges
