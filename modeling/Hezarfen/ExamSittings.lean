import Hezarfen.ExamRows
import Mathlib.Data.Int.Interval

/-!
# The sittings of a student at an exam

The next sitting's number comes from a list read before the transaction, and the
composite key decides between two creates of the same number.  Sittings are never
deleted while their exam stands, so the rows of a student at an exam carry the
numbers `1..n` and a create that commits found exactly the sittings its call read.
The lifetime counter of exams sat moves with the first of them.
-/

namespace Hezarfen.Exams

open Interleaving

/-- The student's rows at the exam carry exactly the numbers `1..n`. -/
def NumberedTo (s : Db) (exam : ExamId) (user : UserId) (n : ℕ) : Prop :=
  ∀ k : ℤ, (s.examAttempt.lookup ⟨exam, user, k⟩).isSome ↔ 1 ≤ k ∧ k ≤ n

def Numbered (s : Db) : Prop := ∀ exam user, ∃ n, NumberedTo s exam user n

theorem numbered_empty : Numbered .empty := by
  intro exam user
  refine ⟨0, ?_⟩
  intro k
  constructor
  · intro hrow
    cases hrow
  · rintro ⟨hlower, hupper⟩
    omega

/-! ## The list `start` reads -/

section Reads

variable {s : Db} {exam : ExamId} {user : UserId} {n : ℕ}

theorem seq_mem_listForUser
    (hs : Sound s) (hn : NumberedTo s exam user n) (k : ℤ) :
    k ∈ (s.listForUser exam user).map ExamAttempt.seq ↔ 1 ≤ k ∧ k ≤ n := by
  rw [← hn k, List.mem_map, Option.isSome_iff_exists]
  constructor
  · rintro ⟨attempt, hmem, rfl⟩
    obtain ⟨hrow, rfl, rfl⟩ := (mem_listForUser hs).mp hmem
    exact ⟨attempt, hrow⟩
  · rintro ⟨attempt, hrow⟩
    have hid := (hs.attempts _ attempt hrow).1
    refine ⟨attempt, (mem_listForUser hs).mpr ⟨by rw [hid]; exact hrow, ?_, ?_⟩, ?_⟩
    · exact congrArg ExamAttemptId.exam hid
    · exact congrArg ExamAttemptId.user hid
    · exact congrArg ExamAttemptId.seq hid

theorem nodup_seqs (hs : Sound s) : ((s.listForUser exam user).map ExamAttempt.seq).Nodup := by
  have hperm : (s.listForUser exam user).Perm _ := List.perm_insertionSort _ _
  rw [(hperm.map _).nodup_iff]
  -- Two rows of one student at one exam that share a number share their key.
  have hids : ((s.examAttempt.entries.map fun row => row.2).map ExamAttempt.id).Nodup := by
    have hkeys : (s.examAttempt.entries.map fun row => row.2).map ExamAttempt.id =
        s.examAttempt.entries.map Sigma.fst := by
      rw [List.map_map]
      apply List.map_congr_left
      rintro ⟨key, row⟩ hmem
      exact (hs.attempts key row (mem_entries_iff_lookup.mp hmem)).1
    rw [hkeys]
    exact s.examAttempt.nodupKeys
  have hrows := (List.Nodup.of_map _ hids).filter fun attempt =>
    decide (attempt.exam = exam ∧ attempt.user = user)
  apply List.Nodup.map_on _ hrows
  intro a ha b hb hseq
  simp only [List.mem_filter, decide_eq_true_eq] at ha hb
  have hid : a.id = b.id := by
    simp only [ExamAttempt.id, ha.2.1, ha.2.2, hb.2.1, hb.2.2, hseq]
  exact List.inj_on_of_nodup_map hids ha.1 hb.1 hid

theorem length_listForUser
    (hs : Sound s) (hn : NumberedTo s exam user n) : (s.listForUser exam user).length = n := by
  have hset : ((s.listForUser exam user).map ExamAttempt.seq).toFinset = Finset.Icc 1 (n : ℤ) := by
    ext k
    rw [List.mem_toFinset, seq_mem_listForUser hs hn, Finset.mem_Icc]
  have hcard := congrArg Finset.card hset
  rw [List.toFinset_card_of_nodup (nodup_seqs hs), List.length_map, Int.card_Icc] at hcard
  omega

/-- The newest sitting comes first. -/
theorem head_listForUser
    (hs : Sound s) (hn : NumberedTo s exam user n) {latest : ExamAttempt}
    {rest : List ExamAttempt} (hlist : s.listForUser exam user = latest :: rest) :
    latest.seq = n := by
  have hmem := seq_mem_listForUser hs hn
  rw [hlist] at hmem
  have hlatest := (hmem latest.seq).mp (by simp)
  have hlast := (hmem n).mpr ⟨by omega, le_refl _⟩
  have hsorted : (s.listForUser exam user).Pairwise fun a b => b.seq ≤ a.seq :=
    List.pairwise_insertionSort _ _
  rw [hlist, List.pairwise_cons] at hsorted
  rw [List.map_cons, List.mem_cons, List.mem_map] at hlast
  rcases hlast with heq | ⟨attempt, hattempt, heq⟩
  · exact heq.symm
  · have hle := hsorted.1 attempt hattempt
    omega

end Reads

/-! ## What `start` judged -/

/-- What `start` found in the list it read. -/
structure StartJob.Judged (job : StartJob) : Prop where
  number : job.attempt.seq = job.attempts.length + 1
  allowed : job.exam.maxAttempts.allowsAnother job.attempts.length = true
  read : ∀ k : ℤ, 1 ≤ k → k ≤ job.attempts.length →
    ∃ attempt ∈ job.attempts, attempt.id = ⟨job.exam.id, job.attempt.user, k⟩
  ended : ∀ attempt ∈ job.attempts, attempt.seq = job.attempts.length →
    attempt.status job.exam job.readAt ≠ .inProgress

theorem allowsAnother_zero (limit : ExamAttemptLimit) : limit.allowsAnother 0 = true := by
  have hvalid := limit.valid
  simp only [ExamAttemptLimit.allowsAnother, ExamAttemptLimit.isUnlimited, Bool.or_eq_true,
    decide_eq_true_eq]
  omega

variable {user : UserId}

theorem startNext_judged
    {s : Db} (hs : Sound s) (hnumbered : Numbered s) {exam : Exam} {seq : ℤ}
    {now again thereafter : Timestamp}
    (hnext : startNext exam now (s.listForUser exam.id user) = .ok seq) :
    StartJob.Judged ⟨exam, s.listForUser exam.id user, now,
      ⟨exam.id, user, seq, again, none, none⟩, thereafter⟩ := by
  obtain ⟨n, hn⟩ := hnumbered exam.id user
  have hlength := length_listForUser hs hn
  have hread : ∀ k : ℤ, 1 ≤ k → k ≤ (s.listForUser exam.id user).length →
      ∃ attempt ∈ s.listForUser exam.id user, attempt.id = ⟨exam.id, user, k⟩ := by
    intro k hlower hupper
    rw [hlength] at hupper
    obtain ⟨attempt, hmem, rfl⟩ :=
      List.mem_map.mp ((seq_mem_listForUser hs hn k).mpr ⟨hlower, hupper⟩)
    obtain ⟨-, hexam, huser⟩ := (mem_listForUser hs).mp hmem
    exact ⟨attempt, hmem, by rw [ExamAttempt.id, hexam, huser]⟩
  cases hlist : s.listForUser exam.id user with
  | nil =>
      rw [hlist] at hnext hread
      cases hnext
      exact ⟨rfl, allowsAnother_zero _, hread, fun _ hmem => by cases hmem⟩
  | cons latest =>
      rw [hlist] at hnext hread hlength
      have hhead := head_listForUser hs hn hlist
      simp only [startNext] at hnext
      split at hnext
      · cases hnext
      · next hover =>
        split at hnext
        · next hallowed =>
          cases hnext
          refine ⟨?_, hallowed, hread, ?_⟩
          · simp only [hhead, hlength]
          · -- The sitting with the highest number is the one `start` looked at.
            intro attempt hmem hseq
            have hnodup := @nodup_seqs s exam.id user hs
            rw [hlist] at hnodup
            have hsame : attempt = latest :=
              List.inj_on_of_nodup_map hnodup hmem List.mem_cons_self
                (by rw [hseq, hlength, hhead])
            rw [hsame]
            exact hover
        · cases hnext

def StartJob.Standing (job : StartJob) (s : Db) : Prop :=
  job.exam.id.uuid ∈ s.minted ∧
    (Stands s.exam job.exam.id → ∀ attempt ∈ job.attempts, attempt.exam = job.exam.id →
      ∃ stored, s.examAttempt.lookup attempt.id = some stored ∧
        stored.startedAt = attempt.startedAt ∧
        (attempt.finishedAt.isSome → stored.finishedAt.isSome))

def Seated (_ : ℕ) (p : Point) (s : Db) : Prop :=
  match p with
  | .startList exam _ => exam.id.uuid ∈ s.minted
  | .startGuard job | .startInsert job => job.Judged ∧ job.Standing s
  | _ => True

section Steps

variable {id : ℕ} {s s' : Db} {w : World} {p q : Point}

theorem Wrote.standing_kept
    (h : Wrote id s w p s') (hs : Sound s) {job : StartJob} (hjob : job.Standing s) :
    job.Standing s' := by
  refine ⟨h.minted_subset hjob.1, ?_⟩
  intro hstands attempt hmem hexam
  obtain ⟨stored, hstored, hstarted, hfinished⟩ :=
    hjob.2 (h.stands_before hjob.1 hstands) attempt hmem hexam
  have hid : stored.id = attempt.id := (hs.attempts _ stored hstored).1
  have hstands' : Stands s'.exam stored.exam := by
    rw [show stored.exam = attempt.exam from congrArg ExamAttemptId.exam hid, hexam]
    exact hstands
  obtain ⟨stored', hstored', -, hstarted', hfinished'⟩ := h.attempt_kept hstored hstands'
  exact ⟨stored', hstored', hstarted'.trans hstarted, fun hsome => hfinished' (hfinished hsome)⟩

theorem Wrote.seated_kept
    (h : Wrote id s w p s') (hs : Sound s) {id' : ℕ} (hq : Seated id' q s) : Seated id' q s' := by
  cases q with
  | startList => exact h.minted_subset hq
  | startGuard | startInsert => exact ⟨hq.1, h.standing_kept hs hq.2⟩
  | _ => trivial

theorem next_seated
    (h : next id s p w = some (s', .goto q)) (hs : Sound s) (hnumbered : Numbered s)
    (hp : Seated id p s) : Seated id q s' := by
  have hgates (job : PatchJob) :=
    job.behind_gates (P := fun q => Seated id q s') trivial trivial trivial trivial trivial
  cases next_arrives h with
  | startExam hread =>
      obtain rfl : s' = s := (congrArg Prod.fst (Option.some.inj h)).symm
      obtain ⟨row, hrow, rfl⟩ := Option.map_eq_some_iff.mp hread
      obtain ⟨hid, hminted⟩ := hs.exams _ row hrow
      rw [← hid] at hminted
      exact hminted
  | startList hnext =>
      obtain rfl : s' = s := (congrArg Prod.fst (Option.some.inj h)).symm
      refine ⟨startNext_judged hs hnumbered hnext, hp, ?_⟩
      intro _ attempt hmem _
      exact ⟨attempt, ((mem_listForUser hs).mp hmem).1, rfl, fun hsome => hsome⟩
  | startGuard =>
      exact ⟨hp.1, (next_wrote h).standing_kept hs hp.2⟩
  | patchRead => exact (hgates _).1
  | patchModeGate => exact (hgates _).2.1
  | patchRedraftGraded => exact (hgates _).2.2.1
  | patchKindGate => exact (hgates _).2.2.2
  | _ => trivial

theorem seated_count
    {job : StartJob} (hs : Sound s) (hp : Knows id (.startInsert job) s)
    (hseated : Seated id (.startInsert job) s)
    (hfirst : s.examAttempt.lookup job.attempt.id = none) {n : ℕ}
    (hn : NumberedTo s job.exam.id job.attempt.user n) : n = job.attempts.length := by
  obtain ⟨hjudged, -, hstanding⟩ := hseated
  have habsent : ¬ (1 ≤ job.attempt.seq ∧ job.attempt.seq ≤ n) := by
    rw [← hn, ← hp.1]
    change ¬ (s.examAttempt.lookup job.attempt.id).isSome = true
    rw [hfirst]
    simp
  have hnumber := hjudged.number
  by_cases hnone : job.attempts.length = 0
  · omega
  · obtain ⟨attempt, hmem, hid⟩ := hjudged.read job.attempts.length (by omega) (le_refl _)
    obtain ⟨stored, hstored, -, -⟩ := hstanding (hs.locks _ _ hp.2) attempt hmem
      (congrArg ExamAttemptId.exam hid)
    rw [hid] at hstored
    have hpresent := (hn job.attempts.length).mp (Option.isSome_of_eq_some hstored)
    omega

theorem Wrote.sitting_new
    (h : Wrote id s w p s') (hs : Sound s) (hp : Knows id p s) (hseated : Seated id p s)
    {exam : ExamId} {n : ℕ} (hn : NumberedTo s exam user n) {k : ℤ}
    {row' : ExamAttempt} (hrow' : s'.examAttempt.lookup ⟨exam, user, k⟩ = some row')
    (hnone : s.examAttempt.lookup ⟨exam, user, k⟩ = none) :
    ∃ job, p = .startInsert job ∧ row' = job.attempt ∧ job.exam.id = exam ∧
      job.attempt.user = user ∧ k = n + 1 ∧ n = job.attempts.length ∧ job.Judged ∧
      job.Standing s := by
  rcases h.attempt_new hrow' with ⟨row, hrow⟩ | ⟨job, rfl, hkey, rfl, -, hfirst⟩
  · rw [hnone] at hrow
    cases hrow
  · obtain ⟨rfl, rfl, rfl⟩ := ExamAttemptId.mk.inj hkey
    rw [hp.1] at hn
    have hcount := seated_count hs hp hseated hfirst hn
    refine ⟨job, rfl, rfl, hp.1.symm, rfl, ?_, hcount, hseated.1, hseated.2⟩
    rw [hseated.1.number, hcount]

/-- The numbers of a student's sittings stay `1..n`: a cascade takes all of them, and a create
adds the next. -/
theorem Wrote.numbered
    (h : Wrote id s w p s') (hs : Sound s) (hp : Knows id p s) (hseated : Seated id p s)
    (hnumbered : Numbered s) : Numbered s' := by
  intro exam user
  obtain ⟨n, hn⟩ := hnumbered exam user
  have hs' := h.sound hs hp
  by_cases hstands : Stands s'.exam exam
  · have hkept : ∀ k, (s.examAttempt.lookup ⟨exam, user, k⟩).isSome →
        (s'.examAttempt.lookup ⟨exam, user, k⟩).isSome := by
      intro k hsome
      obtain ⟨attempt, hattempt⟩ := Option.isSome_iff_exists.mp hsome
      have hexam : attempt.exam = exam :=
        congrArg ExamAttemptId.exam (hs.attempts _ attempt hattempt).1
      obtain ⟨attempt', hattempt', -⟩ := h.attempt_kept hattempt (hexam ▸ hstands)
      exact Option.isSome_of_eq_some hattempt'
    have hnew : ∀ k : ℤ, (s'.examAttempt.lookup ⟨exam, user, k⟩).isSome →
        ¬ (1 ≤ k ∧ k ≤ n) → k = n + 1 := by
      intro k hsome hrange
      obtain ⟨row', hrow'⟩ := Option.isSome_iff_exists.mp hsome
      rw [← hn k, Option.not_isSome_iff_eq_none] at hrange
      obtain ⟨job, -, -, -, -, hk, -⟩ := h.sitting_new hs hp hseated hn hrow' hrange
      exact hk
    by_cases hnext : (s'.examAttempt.lookup ⟨exam, user, n + 1⟩).isSome
    · refine ⟨n + 1, ?_⟩
      intro k
      constructor
      · intro hsome
        have hk := hnew k hsome
        push_cast
        omega
      · rintro ⟨hlower, hupper⟩
        rcases Int.lt_or_eq_of_le hupper with hlt | rfl
        · exact hkept k ((hn k).mpr ⟨hlower, by push_cast at hlt; omega⟩)
        · exact_mod_cast hnext
    · refine ⟨n, ?_⟩
      intro k
      constructor
      · intro hsome
        by_contra hrange
        rw [hnew k hsome hrange] at hsome
        exact hnext hsome
      · intro hrange
        exact hkept k ((hn k).mpr hrange)
  · -- Without the exam there is no sitting.
    refine ⟨0, ?_⟩
    intro k
    constructor
    · intro hsome
      obtain ⟨attempt', hattempt'⟩ := Option.isSome_iff_exists.mp hsome
      obtain ⟨hid, howned⟩ := hs'.attempts _ attempt' hattempt'
      have hexam : attempt'.exam = exam := congrArg ExamAttemptId.exam hid
      exact absurd (hexam ▸ howned) hstands
    · rintro ⟨hlower, hupper⟩
      omega

end Steps

theorem sittings_relyGuarantee :
    machine.RelyGuarantee (fun c _ => InOrder c) Numbered Seated where
  entry := by
    intro id request s _
    cases request <;> trivial
  own := by
    intro c id w p s n hc horder hp hnext
    have hknows := horder.calls id p hp
    have hseated := hc.calls id p hp
    refine ⟨(next_wrote hnext).numbered horder.shared hknows hseated hc.shared, ?_⟩
    rintro q rfl
    exact next_seated hnext horder.shared hc.shared hseated
  others := by
    intro c id w p s n hc horder _ hnext id' q _ hq
    exact (next_wrote hnext).seated_kept horder.shared (hc.calls id' q hq)
  rollback := by
    intro c id p hc _
    refine ⟨hc.shared, ?_⟩
    intro id' q _ hq
    have hseated := hc.calls id' q hq
    cases q <;> exact hseated

/-! ## Exams sat -/

/-- `exam_sat_total`, an account that does not exist counting nothing. -/
def satTotal (users : Table UserId AppUser) (user : UserId) : ℤ :=
  (users.lookup user).elim 0 AppUser.examSatTotal

def newlySat (user : UserId) (s s' : Db) : List ExamId :=
  s'.examAttempt.entries.filterMap fun row =>
    if row.1.user = user ∧ row.1.seq = 1 ∧ s.examAttempt.lookup row.1 = none then
      some row.1.exam
    else none

theorem mem_newlySat {s s' : Db} {exam : ExamId} :
    exam ∈ newlySat user s s' ↔
      s.examAttempt.lookup ⟨exam, user, 1⟩ = none ∧
        (s'.examAttempt.lookup ⟨exam, user, 1⟩).isSome := by
  unfold newlySat
  rw [List.mem_filterMap]
  constructor
  · rintro ⟨⟨⟨exam', user', k⟩, row⟩, hmem, hrow⟩
    obtain ⟨⟨rfl, rfl, hnone⟩, ⟨⟩⟩ := Option.ite_none_right_eq_some.mp hrow
    exact ⟨hnone, Option.isSome_of_eq_some (mem_entries_iff_lookup.mp hmem)⟩
  · rintro ⟨hnone, hsome⟩
    obtain ⟨row, hrow⟩ := Option.isSome_iff_exists.mp hsome
    exact ⟨⟨⟨exam, user, 1⟩, row⟩, mem_entries_iff_lookup.mpr hrow, by simp [hnone]⟩

theorem satTotal_update
    {users : Table UserId AppUser} {f : UserId → AppUser → AppUser}
    (hf : ∀ key row, (f key row).examSatTotal = row.examSatTotal) (user : UserId) :
    satTotal (Table.update users f) user = satTotal users user := by
  unfold satTotal
  rw [lookup_update]
  cases users.lookup user with
  | none => rfl
  | some row => exact hf user row

theorem satTotal_moveHigh
    (users : Table UserId AppUser) (student : UserId) (before : Option Mark) (mark : Mark)
    (user : UserId) : satTotal (moveHigh users student before mark) user = satTotal users user := by
  have hmoved : ∀ high : ℤ, satTotal
      (if high ≠ 0 then
        Table.update users fun key row =>
          if key = student then { row with highMarkTotal := max (row.highMarkTotal + high) 0 }
          else row
      else users) user = satTotal users user := by
    intro high
    split
    · apply satTotal_update
      intro key row
      split <;> rfl
    · rfl
  exact hmoved _

section Steps

variable {id : ℕ} {s s' : Db} {w : World} {p : Point}

theorem Wrote.satTotal_kept
    (h : Wrote id s w p s')
    (hkept : ∀ key, (s'.examAttempt.lookup key).isSome → (s.examAttempt.lookup key).isSome)
    (user : UserId) : satTotal s'.appUser user = satTotal s.appUser user := by
  cases h with
  | @sat job _ _ hfirst =>
      have hsome := hkept job.attempt.id (by
        rw [Db.unlock, lookup_insert_eq, if_pos rfl]
        rfl)
      rw [hfirst] at hsome
      cases hsome
  | @user created habsent =>
      unfold satTotal
      rw [lookup_insert_eq]
      split
      · next hcreated =>
        subst hcreated
        rw [habsent]
        rfl
      · rfl
  | regraded => exact satTotal_moveHigh _ _ _ _ user
  | @graded result _ row refs =>
      have hclaimed : satTotal (s.claimMark result.exam row result.gradedBy refs).appUser user =
          satTotal s.appUser user := by
        apply satTotal_update
        intro key account
        split <;> rfl
      exact (satTotal_moveHigh _ _ _ _ user).trans hclaimed
  | ungraded =>
      apply satTotal_update
      intro key account
      dsimp only
      split <;> split <;> rfl
  | _ => rfl

/-- The exams `seen` are those whose first sitting the student ever started: the counter is their
number, and one that still stands still has that sitting. -/
structure SatSoFar (user : UserId) (s : Db) (seen : List ExamId) : Prop where
  total : satTotal s.appUser user = seen.toFinset.card
  minted : ∀ exam ∈ seen, exam.uuid ∈ s.minted
  standing : ∀ exam ∈ seen, Stands s.exam exam →
    (s.examAttempt.lookup ⟨exam, user, 1⟩).isSome

theorem newlySat_eq_nil
    (hkept : ∀ exam, (s'.examAttempt.lookup ⟨exam, user, 1⟩).isSome →
      (s.examAttempt.lookup ⟨exam, user, 1⟩).isSome) : newlySat user s s' = [] := by
  rw [List.eq_nil_iff_forall_not_mem]
  intro exam hmem
  obtain ⟨hnone, hsome⟩ := mem_newlySat.mp hmem
  have hsome' := hkept exam hsome
  rw [hnone] at hsome'
  cases hsome'

theorem satTotal_created
    {job : StartJob} {account : AppUser} {seen : List ExamId}
    (huser : s.appUser.lookup job.attempt.user = some account)
    (hfirst : s.examAttempt.lookup job.attempt.id = none)
    (hrows : s'.examAttempt = s.examAttempt.insert job.attempt.id job.attempt)
    (husers : s'.appUser = s.appUser.insert job.attempt.user
      { account with
        examSatTotal := account.examSatTotal + if job.attempt.seq = 1 then 1 else 0 })
    (hstands : Stands s.exam job.attempt.exam) (hseen : SatSoFar user s seen) :
    satTotal s'.appUser user = (seen ++ newlySat user s s').toFinset.card := by
  have htotal : satTotal s'.appUser user = satTotal s.appUser user +
      if job.attempt.user = user ∧ job.attempt.seq = 1 then 1 else 0 := by
    unfold satTotal
    rw [husers, lookup_insert_eq]
    split
    · next hsame =>
      subst hsame
      simp [huser]
    · next hother =>
      have hne : job.attempt.user ≠ user := fun heq => hother heq.symm
      simp [hne]
  rw [htotal, hseen.total, List.toFinset_append]
  by_cases hcounted : job.attempt.user = user ∧ job.attempt.seq = 1
  · have hid : job.attempt.id = ⟨job.attempt.exam, user, 1⟩ := by
      rw [ExamAttempt.id, hcounted.1, hcounted.2]
    have hnew : (newlySat user s s').toFinset = {job.attempt.exam} := by
      ext exam
      rw [List.mem_toFinset, mem_newlySat, Finset.mem_singleton, hrows,
        lookup_insert_eq, hid]
      constructor
      · rintro ⟨hnone, hsome⟩
        split at hsome
        · next hkey => exact congrArg ExamAttemptId.exam hkey
        · rw [hnone] at hsome
          cases hsome
      · rintro rfl
        rw [if_pos rfl, ← hid]
        exact ⟨hfirst, rfl⟩
    have hfresh : job.attempt.exam ∉ seen.toFinset := by
      intro hmem
      have hsome := hseen.standing _ (List.mem_toFinset.mp hmem) hstands
      rw [← hid, hfirst] at hsome
      cases hsome
    rw [if_pos hcounted, hnew, Finset.card_union_of_disjoint (by simpa using hfresh),
      Finset.card_singleton]
    push_cast
    rfl
  · have hnew : newlySat user s s' = [] := by
      apply newlySat_eq_nil
      intro exam hsome
      rw [hrows, lookup_insert_eq] at hsome
      split at hsome
      · next hkey =>
        obtain ⟨-, huser', hseq'⟩ := ExamAttemptId.mk.inj hkey
        exact absurd ⟨huser'.symm, hseq'.symm⟩ hcounted
      · exact hsome
    simp [hcounted, hnew]

theorem Wrote.satSoFar
    (h : Wrote id s w p s') (hs : Sound s) (hp : Knows id p s)
    {seen : List ExamId} (hseen : SatSoFar user s seen) :
    SatSoFar user s' (seen ++ newlySat user s s') := by
  have hs' := h.sound hs hp
  constructor
  · rcases h.attempt_cases with ⟨job, account, rfl, huser, hfirst, hrows, husers⟩ | hkept
    · have hstands := hs.locks _ _ hp.2
      rw [← hp.1] at hstands
      exact satTotal_created huser hfirst hrows husers hstands hseen
    · rw [h.satTotal_kept hkept, newlySat_eq_nil fun _ => hkept _, List.append_nil]
      exact hseen.total
  · intro exam hmem
    rcases List.mem_append.mp hmem with hold | hnew
    · exact h.minted_subset (hseen.minted exam hold)
    · obtain ⟨row, hrow⟩ := Option.isSome_iff_exists.mp (mem_newlySat.mp hnew).2
      obtain ⟨hid, stored, hstored⟩ := hs'.attempts _ row hrow
      have hexam : row.exam = exam := congrArg ExamAttemptId.exam hid
      exact hexam ▸ (hs'.exams _ stored hstored).2
  · intro exam hmem hstands
    rcases List.mem_append.mp hmem with hold | hnew
    · have hbefore := hseen.standing exam hold (h.stands_before (hseen.minted exam hold) hstands)
      obtain ⟨row, hrow⟩ := Option.isSome_iff_exists.mp hbefore
      have hexam : row.exam = exam := congrArg ExamAttemptId.exam (hs.attempts _ row hrow).1
      obtain ⟨row', hrow', -⟩ := h.attempt_kept hrow (hexam ▸ hstands)
      exact Option.isSome_of_eq_some hrow'
    · exact (mem_newlySat.mp hnew).2

end Steps

theorem status_over
    {read stored : ExamAttempt} {exam : Exam} {now : Timestamp}
    (hstarted : stored.startedAt = read.startedAt)
    (hfinished : read.finishedAt.isSome → stored.finishedAt.isSome)
    (hover : read.status exam now ≠ .inProgress) : stored.status exam now ≠ .inProgress := by
  have hdeadline : stored.deadline exam = read.deadline exam := by
    unfold ExamAttempt.deadline
    rw [hstarted]
  unfold ExamAttempt.status at hover ⊢
  rw [hdeadline]
  by_cases hstored : stored.finishedAt.isSome
  · simp [hstored]
  · have hread : ¬ read.finishedAt.isSome := fun hsome => hstored (hfinished hsome)
    simpa [hstored, hread] using hover

/-- The sitting that the move inserts is the next one of its student, and the call that inserts
it had read an exam that allows one more and under which the sitting before it was over. -/
def DulyCreated (c : Config Db Point) (m : Move Request World) (row : ExamAttempt) : Prop :=
  ∃ id w job n, m = .advance id w ∧ c.calls.lookup id = some (.startInsert job) ∧
    row = job.attempt ∧ job.exam.id = row.exam ∧ NumberedTo c.shared row.exam row.user n ∧
    row.seq = n + 1 ∧ job.exam.maxAttempts.allowsAnother n = true ∧
    ∀ previous, c.shared.examAttempt.lookup ⟨row.exam, row.user, n⟩ = some previous →
      previous.status job.exam job.readAt ≠ .inProgress

variable {c : Config Db Point}

theorem dulyCreated
    (hc : InOrder c) (hseats : c.Holds Numbered Seated) {id : ℕ} {w : World}
    {p : Point} {s' : Db} (hp : c.calls.lookup id = some p) (h : Wrote id c.shared w p s')
    {key : ExamAttemptId} {row' : ExamAttempt} (hrow' : s'.examAttempt.lookup key = some row')
    (hnone : c.shared.examAttempt.lookup key = none) :
    DulyCreated c (.advance id w) row' := by
  obtain ⟨n, hn⟩ := hseats.shared key.exam key.user
  obtain ⟨job, rfl, rfl, hexam, huser, hk, hlength, hjudged, hstanding⟩ :=
    h.sitting_new hc.shared (hc.calls id p hp) (hseats.calls id p hp) hn hrow' hnone
  have hknows := hc.calls id _ hp
  rw [← hexam, ← huser] at hn
  refine ⟨id, w, job, n, rfl, hp, rfl, hknows.1.symm, ?_, ?_, ?_, ?_⟩
  · rw [hknows.1]
    exact hn
  · rw [hjudged.number, hlength]
  · rw [hlength]
    exact hjudged.allowed
  · intro previous hprevious
    rw [hknows.1] at hprevious
    have hrange := (hn n).mp (Option.isSome_of_eq_some hprevious)
    obtain ⟨read, hmem, hid⟩ := hjudged.read n hrange.1 (by rw [hlength])
    obtain ⟨stored, hstored, hstarted, hfinished⟩ := hstanding.2 (hc.shared.locks _ _ hknows.2)
      read hmem (congrArg ExamAttemptId.exam hid)
    rw [hid, hprevious] at hstored
    cases hstored
    have hseq : read.seq = job.attempts.length := by
      rw [← hlength]
      exact congrArg ExamAttemptId.seq hid
    exact status_over hstarted hfinished (hjudged.ended read hmem hseq)

/-- What a move does to the sittings. -/
theorem sittings_step
    {c' : Config Db Point} {m : Move Request World} (hc : InOrder c)
    (hseats : c.Holds Numbered Seated) (hstep : machine.step c m = some c')
    {key : ExamAttemptId} {row' : ExamAttempt}
    (hrow' : c'.shared.examAttempt.lookup key = some row') :
    (c.shared.examAttempt.lookup key = none → DulyCreated c m row') ∧
      ∀ row, c.shared.examAttempt.lookup key = some row → row'.startedAt = row.startedAt := by
  have hquiet : c'.shared.examAttempt = c.shared.examAttempt →
      (c.shared.examAttempt.lookup key = none → DulyCreated c m row') ∧
        ∀ row, c.shared.examAttempt.lookup key = some row → row'.startedAt = row.startedAt := by
    intro hsame
    rw [hsame] at hrow'
    constructor
    · intro hnone
      rw [hnone] at hrow'
      cases hrow'
    · intro row hrow
      rw [hrow] at hrow'
      cases hrow'
      rfl
  rcases move_cases hstep with hsame | ⟨id, hreleased⟩ | ⟨id, w, p, rfl, hp, hwrote⟩
  · exact hquiet (congrArg Db.examAttempt hsame)
  · exact hquiet (by rw [hreleased]; rfl)
  · refine ⟨dulyCreated hc hseats hp hwrote hrow', ?_⟩
    intro row hrow
    have hs' := hwrote.sound hc.shared (hc.calls id p hp)
    have hid : row'.id = row.id :=
      (hs'.attempts key row' hrow').1.trans (hc.shared.attempts key row hrow).1.symm
    have hstands : Stands c'.shared.exam row.exam := by
      rw [← show row'.exam = row.exam from congrArg ExamAttemptId.exam hid]
      exact (hs'.attempts key row' hrow').2
    obtain ⟨kept, hkept, -, hstarted, -⟩ := hwrote.attempt_kept hrow hstands
    rw [hrow'] at hkept
    cases hkept
    exact hstarted

theorem satSoFar_step
    {c' : Config Db Point} {m : Move Request World} {seen : List ExamId}
    (hc : InOrder c) (hseen : SatSoFar user c.shared seen) (hstep : machine.step c m = some c') :
    SatSoFar user c'.shared (seen ++ newlySat user c.shared c'.shared) := by
  rcases move_cases hstep with hsame | ⟨id, hreleased⟩ | ⟨id, w, p, rfl, hp, hwrote⟩
  · rw [hsame, newlySat_eq_nil fun _ hsome => hsome, List.append_nil]
    exact hseen
  · have hnone : newlySat user c.shared (c.shared.releaseLocks id) = [] :=
      newlySat_eq_nil fun _ hsome => hsome
    rw [hreleased, hnone, List.append_nil]
    exact ⟨hseen.total, hseen.minted, hseen.standing⟩
  · exact hwrote.satSoFar hc.shared (hc.calls id p hp) hseen

theorem satSoFar_run
    {ms : List (Move Request World)} (hrun : machine.run start ms = some c)
    (user : UserId) : SatSoFar user c.shared (machine.collect (newlySat user) start ms) := by
  have hstart : SatSoFar user start.shared [] := by
    refine ⟨rfl, ?_, ?_⟩
    · intro exam hmem
      cases hmem
    · intro exam hmem
      cases hmem
  have hend := Machine.collect_induction (f := newlySat user)
    (J := fun d seen => InOrder d ∧ SatSoFar user d.shared seen)
    (fun hd hstep => ⟨hd.1.step hstep, satSoFar_step hd.1 hd.2 hstep⟩) ⟨inOrder_start, hstart⟩ hrun
  exact hend.2

/-- In every reachable state a student's sittings at an exam are numbered `1..n`; a move adds
only a sitting that was duly judged and rewrites no start; and the account counts the exams ever
sat. -/
theorem sittings_numbered
    {ms : List (Move Request World)} {c : Config Db Point} (hrun : machine.run start ms = some c) :
    (∀ exam user, ∃ n, NumberedTo c.shared exam user n) ∧
      (∀ m c' key row', machine.step c m = some c' →
        c'.shared.examAttempt.lookup key = some row' →
        (c.shared.examAttempt.lookup key = none → DulyCreated c m row') ∧
          ∀ row, c.shared.examAttempt.lookup key = some row → row'.startedAt = row.startedAt) ∧
      ∀ user account, c.shared.appUser.lookup user = some account →
        account.examSatTotal = (machine.collect (newlySat user) start ms).toFinset.card := by
  have hc := inOrder_run inOrder_start hrun
  have hseats := sittings_relyGuarantee.holds_run (Config.initial_holds Seated numbered_empty)
    (inOrder_start.guarded ms) hrun
  refine ⟨hseats.shared, ?_, ?_⟩
  · intro m c' key row' hstep hrow'
    exact sittings_step hc hseats hstep hrow'
  · intro user account haccount
    have htotal := (satSoFar_run hrun user).total
    rwa [satTotal, haccount] at htotal

section Runs

open Sample

def retakeQuiz : List (Move Request World) :=
  opening ++ [startQuiz, tick 4, tick 4, tick 4, tick 4,
    .start (.finishAttempt quizId student), tick 5, tick 5, tick 5,
    startQuiz, tick 6, tick 6, tick 6, tick 6]

theorem sittings_numbered_retakeQuiz :
    ∃ c account, machine.run start retakeQuiz = some c ∧
      (c.shared.examAttempt.lookup ⟨quizId, student, 2⟩).isSome ∧
      c.shared.appUser.lookup student = some account ∧
      (∃ n, NumberedTo c.shared quizId student n) ∧
      account.examSatTotal =
        (machine.collect (newlySat student) start retakeQuiz).toFinset.card := by
  have hend : (machine.run start retakeQuiz).any (fun c =>
      (c.shared.examAttempt.lookup ⟨quizId, student, 2⟩).isSome &&
        (c.shared.appUser.lookup student).isSome) = true := by decide
  obtain ⟨c, hrun, hc⟩ := (Option.any_eq_true _ _).mp hend
  rw [Bool.and_eq_true] at hc
  obtain ⟨account, haccount⟩ := Option.isSome_iff_exists.mp hc.2
  have hsittings := sittings_numbered hrun
  exact ⟨c, account, hrun, hc.1, haccount, hsittings.1 quizId student,
    hsittings.2.2 student account haccount⟩

/-- The first sitting has expired when the retake is judged; a PATCH gives every sitting two
hours; then the retake is created. -/
def extendBehindRetake : List (Move Request World) :=
  opening ++ [startQuiz, tick 4, tick 4, tick 4, tick 4,
    startQuiz, tickAt 5 4000000, tickAt 5 4000000,
    patchQuiz { noPatch with durationMs := some (some ⟨7200000, by decide, by decide⟩) },
    tick 6, tick 6, tick 6, tickAt 5 4000000]

theorem retake_overlaps :
    ¬ ∀ (ms : List (Move Request World)) (c c' : Config Db Point) (m : Move Request World)
      (exam : ExamId) (user : UserId) (k : ℤ) (row : ExamRow) (previous created : ExamAttempt),
      machine.run start ms = some c → machine.step c m = some c' →
        c.shared.exam.lookup exam = some row →
        c.shared.examAttempt.lookup ⟨exam, user, k⟩ = some previous →
        c.shared.examAttempt.lookup ⟨exam, user, k + 1⟩ = none →
        c'.shared.examAttempt.lookup ⟨exam, user, k + 1⟩ = some created →
        previous.status row.exam created.startedAt ≠ .inProgress := by
  intro h
  have hend : (machine.run start extendBehindRetake).any (fun c =>
      (c.shared.exam.lookup quizId).any fun row =>
        (c.shared.examAttempt.lookup ⟨quizId, student, 1⟩).any fun previous =>
          (c.shared.examAttempt.lookup ⟨quizId, student, 1 + 1⟩).isNone &&
            (machine.step c (tickAt 5 4000000)).any fun c' =>
              (c'.shared.examAttempt.lookup ⟨quizId, student, 1 + 1⟩).any fun created =>
                previous.status row.exam created.startedAt = .inProgress) = true := by
    decide
  obtain ⟨c, hrun, hc⟩ := (Option.any_eq_true _ _).mp hend
  obtain ⟨row, hrow, hc⟩ := (Option.any_eq_true _ _).mp hc
  obtain ⟨previous, hprevious, hc⟩ := (Option.any_eq_true _ _).mp hc
  rw [Bool.and_eq_true, Option.isNone_iff_eq_none] at hc
  obtain ⟨c', hstep, hc'⟩ := (Option.any_eq_true _ _).mp hc.2
  obtain ⟨created, hcreated, hrunning⟩ := (Option.any_eq_true _ _).mp hc'
  exact h _ c c' _ quizId student 1 row previous created hrun hstep hrow hprevious hc.1 hcreated
    (of_decide_eq_true hrunning)

end Runs

end Hezarfen.Exams
