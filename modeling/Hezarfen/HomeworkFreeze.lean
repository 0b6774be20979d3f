import Hezarfen.HomeworkSteps

/-!
# The freeze of graded work

A grade stamps the submission of its pair, and every student-side write is
conditional on the stamp being absent.  `Frozen` says that a submission beside a grade
carries its stamp.  The stamp has one gap: a first hand-in whose graded read came
before the grade creates its row without one.  The runs without such a hand-in are
exactly the runs that are frozen throughout, and in them graded work does not move.
-/

namespace Hezarfen.Homeworks

open Interleaving

variable {s s' : Db} {graded : HomeworkResult} {id : HomeworkSubmissionId}
  {row' row : SubmissionRow} {homework : HomeworkId} {user : UserId} {fresh : HomeworkResultId}
  {w : World} {p : Point}

def Db.Frozen (s : Db) : Prop :=
  ∀ id row result, s.homeworkSubmission.lookup id = some row →
    s.resultFor row.submission.homework row.submission.user = some result →
    row.gradedByResult = some result.id

structure Db.Stamps (s : Db) : Prop where
  keyed : s.Keyed
  named : ∀ id row stamp, s.homeworkSubmission.lookup id = some row →
    row.gradedByResult = some stamp →
    ∃ result, s.resultFor row.submission.homework row.submission.user = some result ∧
      result.id = stamp

structure Db.Carries (s s' : Db) : Prop where
  rows : ∀ id row', s'.homeworkSubmission.lookup id = some row' →
    ∃ row, s.homeworkSubmission.lookup id = some row ∧
      row'.submission.id = row.submission.id ∧
      row'.submission.homework = row.submission.homework ∧
      row'.submission.user = row.submission.user ∧
      row'.gradedByResult = row.gradedByResult ∧
      s'.resultFor row.submission.homework row.submission.user =
        s.resultFor row.submission.homework row.submission.user
  results : ∀ homework user, (s'.resultFor homework user).isSome = true →
    (s.resultFor homework user).isSome = true

theorem Db.Carries.of_eq
    (hrows : s'.homeworkSubmission = s.homeworkSubmission)
    (hresults : s'.homeworkResult = s.homeworkResult) : s.Carries s' := by
  constructor
  · intro id row hrow
    rw [hrows] at hrow
    exact ⟨row, hrow, rfl, rfl, rfl, rfl, by simp only [Db.resultFor, hresults]⟩
  · intro homework user h
    simpa only [Db.resultFor, hresults] using h

/-- A write to one row that keeps its pair and its stamp. -/
theorem Db.Carries.of_insert
    {key : HomeworkSubmissionId} {old new : SubmissionRow}
    (hrows : s'.homeworkSubmission = s.homeworkSubmission.insert key new)
    (hresults : s'.homeworkResult = s.homeworkResult)
    (hold : s.homeworkSubmission.lookup key = some old)
    (hid : new.submission.id = old.submission.id)
    (hhomework : new.submission.homework = old.submission.homework)
    (huser : new.submission.user = old.submission.user)
    (hstamp : new.gradedByResult = old.gradedByResult) : s.Carries s' := by
  have hsame : ∀ h u, s'.resultFor h u = s.resultFor h u := by
    intro h u
    simp only [Db.resultFor, hresults]
  constructor
  · intro id row hrow
    rw [hrows, lookup_insert_eq] at hrow
    split at hrow
    · next hkey =>
      cases hrow
      exact ⟨old, hkey ▸ hold, hid, hhomework, huser, hstamp, hsame _ _⟩
    · exact ⟨row, hrow, rfl, rfl, rfl, rfl, hsame _ _⟩
  · intro homework user h
    rwa [hsame] at h

theorem Db.Carries.stamps (h : s.Carries s') (hs : s.Stamps) : s'.Stamps := by
  constructor
  · intro id row' hrow'
    obtain ⟨row, hrow, hid, -⟩ := h.rows id row' hrow'
    rw [hid]
    exact hs.keyed id row hrow
  · intro id row' stamp hrow' hstamp
    obtain ⟨row, hrow, -, hhomework, huser, hsame, hresult⟩ := h.rows id row' hrow'
    rw [hhomework, huser, hresult]
    exact hs.named id row stamp hrow (hsame ▸ hstamp)

theorem Db.Carries.frozen (h : s.Carries s') (hs : s.Frozen) : s'.Frozen := by
  intro id row' result hrow' hresult'
  obtain ⟨row, hrow, -, hhomework, huser, hsame, hresult⟩ := h.rows id row' hrow'
  rw [hhomework, huser, hresult] at hresult'
  rw [hsame]
  exact hs id row result hrow hresult'

/-! ## The steps that do -/

theorem patched_tables
    (s : Db) (id : HomeworkId) (row : HomeworkRow) (patch : HomeworkPatch)
    (counts : Table Exams.SubjectId ℤ) :
    (s.patched id row patch counts).homeworkSubmission = s.homeworkSubmission ∧
      (s.patched id row patch counts).homeworkResult = s.homeworkResult ∧
      (s.patched id row patch counts).homeworkFile = s.homeworkFile := by
  unfold Db.patched
  cases patch.assigned <;> exact ⟨rfl, rfl, rfl⟩

theorem Db.Credited.tables (h : s.Credited s') :
    s'.homeworkSubmission = s.homeworkSubmission ∧ s'.homeworkResult = s.homeworkResult ∧
      s'.homeworkFile = s.homeworkFile ∧ s'.homework = s.homework ∧
      s'.homeworkAssignment = s.homeworkAssignment := by
  obtain ⟨exams, rfl⟩ := h
  exact ⟨rfl, rfl, rfl, rfl, rfl⟩

@[simp]
theorem resultFor_putResult (s : Db) (graded : HomeworkResult) (homework : HomeworkId)
    (user : UserId) :
    (s.putResult graded).resultFor homework user =
      if (homework, user) = (graded.homework, graded.user) then some graded
      else s.resultFor homework user := by
  simp only [Db.resultFor, Db.putResult, Db.stamp, lookup_insert_eq]

@[simp]
theorem resultFor_dropResult (s : Db) (homework h : HomeworkId) (user u : UserId) :
    (s.dropResult homework user).resultFor h u =
      if (h, u) = (homework, user) then none else s.resultFor h u := by
  simp only [Db.resultFor, Db.dropResult, Db.unstamp, lookup_erase_eq]

theorem lookup_putResult
    (hrow' : (s.putResult graded).homeworkSubmission.lookup id = some row') :
    ∃ row, s.homeworkSubmission.lookup id = some row ∧ row'.submission = row.submission ∧
      row'.gradedByResult =
        if row.isFor graded.homework graded.user ∧ row.gradedByResult = none then some graded.id
        else row.gradedByResult := by
  simp only [Db.putResult, Db.stamp, lookup_update, Option.map_eq_some_iff] at hrow'
  obtain ⟨row, hrow, rfl⟩ := hrow'
  refine ⟨row, hrow, ?_, ?_⟩
  · split <;> rfl
  · simp only [SubmissionRow.isFor, and_assoc]
    split <;> rfl

theorem lookup_unstamp
    (hrow' : (s.unstamp homework user).homeworkSubmission.lookup id = some row') :
    ∃ row, s.homeworkSubmission.lookup id = some row ∧ row'.submission = row.submission ∧
      row'.gradedByResult =
        if row.isFor homework user ∧
            ∃ result, s.resultFor homework user = some result ∧
              row.gradedByResult = some result.id then none
        else row.gradedByResult := by
  simp only [Db.unstamp, lookup_update, Option.map_eq_some_iff] at hrow'
  obtain ⟨row, hrow, rfl⟩ := hrow'
  refine ⟨row, hrow, by split <;> rfl, ?_⟩
  have hiff :
      (row.submission.homework = homework ∧ row.submission.user = user ∧
        (row.gradedByResult.any fun id =>
          (s.resultFor homework user).any fun result => result.id = id) = true) ↔
      row.isFor homework user ∧
        ∃ result, s.resultFor homework user = some result ∧
          row.gradedByResult = some result.id := by
    simp only [SubmissionRow.isFor, Option.any_eq_true, decide_eq_true_eq, and_assoc]
    constructor
    · rintro ⟨hh, hu, stamp, hstamp, result, hresult, rfl⟩
      exact ⟨hh, hu, result, hresult, hstamp⟩
    · rintro ⟨hh, hu, result, hresult, hstamp⟩
      exact ⟨hh, hu, result.id, hstamp, result, hresult, rfl⟩
  by_cases hclear : row.isFor homework user ∧
      ∃ result, s.resultFor homework user = some result ∧
        row.gradedByResult = some result.id
  · rw [if_pos hclear, if_pos (hiff.mpr hclear)]
  · rw [if_neg hclear, if_neg fun h => hclear (hiff.mp h)]

theorem unstamp_carries
    (hnone : s.resultFor homework user = none) :
    s.Carries (s.unstamp homework user) := by
  refine ⟨?_, fun homework user h => h⟩
  intro id row' hrow'
  obtain ⟨row, hrow, hsub, hstamp⟩ := lookup_unstamp hrow'
  rw [if_neg (by simp [hnone])] at hstamp
  exact ⟨row, hrow, by rw [hsub], by rw [hsub], by rw [hsub], hstamp, rfl⟩

theorem dropHomework_carries (s : Db) (homework : HomeworkId) (row : HomeworkRow) :
    s.Carries (s.dropHomework homework row) := by
  constructor
  · intro id row' hrow'
    simp only [Db.dropHomework, lookup_deleteWhere, Option.filter_eq_some_iff] at hrow'
    obtain ⟨hrow, hother⟩ := hrow'
    refine ⟨row', hrow, rfl, rfl, rfl, rfl, ?_⟩
    simp only [Db.resultFor, Db.dropHomework, lookup_deleteWhere]
    cases s.homeworkResult.lookup (row'.submission.homework, row'.submission.user) with
    | none => rfl
    | some => simpa using hother
  · intro h u hsome
    obtain ⟨result, hresult⟩ := Option.isSome_iff_exists.mp hsome
    simp only [Db.resultFor, Db.dropHomework, lookup_deleteWhere,
      Option.filter_eq_some_iff] at hresult
    exact Option.isSome_iff_exists.mpr ⟨result, hresult.1⟩

theorem touch_carries (s : Db) (id : HomeworkSubmissionId) (now : Timestamp) :
    s.Carries (s.touch id now) := by
  refine ⟨?_, fun homework user h => h⟩
  intro key row' hrow'
  simp only [Db.touch, lookup_update, Option.map_eq_some_iff] at hrow'
  obtain ⟨row, hrow, rfl⟩ := hrow'
  refine ⟨row, hrow, ?_, ?_, ?_, ?_, rfl⟩ <;> split <;> rfl

theorem dropSubmission_carries (s : Db) (row : SubmissionRow) (due : Option Timestamp) :
    s.Carries (s.dropSubmission row due) := by
  refine ⟨?_, fun homework user h => h⟩
  intro id row' hrow'
  simp only [Db.dropSubmission, lookup_erase_eq] at hrow'
  split at hrow'
  · cases hrow'
  · exact ⟨row', hrow', rfl, rfl, rfl, rfl, rfl⟩

theorem putResult_stamp
    (hs : s.Stamps) (hid : graded.id =
      ((s.resultFor graded.homework graded.user).map HomeworkResult.id).getD fresh)
    (hrow : s.homeworkSubmission.lookup id = some row)
    (hfor : row.isFor graded.homework graded.user) {stamp : HomeworkResultId}
    (hstamp : row.gradedByResult = some stamp) : stamp = graded.id := by
  obtain ⟨result, hresult, rfl⟩ := hs.named id row stamp hrow hstamp
  rw [hfor.1, hfor.2] at hresult
  rw [hid, hresult]
  rfl

theorem putResult_stamps
    (hs : s.Stamps) (hid : graded.id =
      ((s.resultFor graded.homework graded.user).map HomeworkResult.id).getD fresh) :
    (s.putResult graded).Stamps := by
  constructor
  · intro id row' hrow'
    obtain ⟨row, hrow, hsub, -⟩ := lookup_putResult hrow'
    rw [hsub]
    exact hs.keyed id row hrow
  · intro id row' stamp hrow' hstamp
    obtain ⟨row, hrow, hsub, hset⟩ := lookup_putResult hrow'
    rw [hsub, resultFor_putResult]
    by_cases hfor : row.isFor graded.homework graded.user
    · rw [if_pos (by rw [hfor.1, hfor.2])]
      refine ⟨graded, rfl, ?_⟩
      by_cases hopen : row.gradedByResult = none
      · rw [if_pos ⟨hfor, hopen⟩, hstamp] at hset
        exact (Option.some.inj hset).symm
      · rw [if_neg fun h => hopen h.2, hstamp] at hset
        exact (putResult_stamp hs hid hrow hfor hset.symm).symm
    · rw [if_neg fun h => hfor h.1, hstamp] at hset
      rw [if_neg fun h => hfor ⟨congrArg Prod.fst h, congrArg Prod.snd h⟩]
      exact hs.named id row stamp hrow hset.symm

theorem putResult_frozen
    (hs : s.Stamps) (hfrozen : s.Frozen) (hid : graded.id =
      ((s.resultFor graded.homework graded.user).map HomeworkResult.id).getD fresh) :
    (s.putResult graded).Frozen := by
  intro id row' result hrow' hresult
  obtain ⟨row, hrow, hsub, hset⟩ := lookup_putResult hrow'
  rw [hsub, resultFor_putResult] at hresult
  by_cases hfor : row.isFor graded.homework graded.user
  · rw [if_pos (by rw [hfor.1, hfor.2])] at hresult
    cases hresult
    rw [hset]
    cases hstamp : row.gradedByResult with
    | none => simp [hfor]
    | some => simp [putResult_stamp hs hid hrow hfor hstamp]
  · rw [if_neg fun h => hfor ⟨congrArg Prod.fst h, congrArg Prod.snd h⟩] at hresult
    rw [hset, if_neg fun h => hfor h.1]
    exact hfrozen id row result hrow hresult

theorem lookup_dropResult
    (hrow' : (s.dropResult homework user).homeworkSubmission.lookup id = some row') :
    (s.unstamp homework user).homeworkSubmission.lookup id = some row' := hrow'

theorem dropResult_stamps
    (hs : s.Stamps) (homework : HomeworkId) (user : UserId) :
    (s.dropResult homework user).Stamps := by
  constructor
  · intro id row' hrow'
    obtain ⟨row, hrow, hsub, -⟩ := lookup_unstamp (lookup_dropResult hrow')
    rw [hsub]
    exact hs.keyed id row hrow
  · intro id row' stamp hrow' hstamp
    obtain ⟨row, hrow, hsub, hset⟩ := lookup_unstamp (lookup_dropResult hrow')
    rw [hsub, resultFor_dropResult]
    split at hset
    · rw [hstamp] at hset
      cases hset
    · next hkeep =>
      obtain ⟨result, hresult, rfl⟩ := hs.named id row stamp hrow (hset ▸ hstamp)
      rw [if_neg]
      · exact ⟨result, hresult, rfl⟩
      · intro hpair
        obtain ⟨rfl, rfl⟩ := Prod.mk.inj hpair
        exact hkeep ⟨⟨rfl, rfl⟩, result, hresult, hset ▸ hstamp⟩

theorem dropResult_frozen
    (hfrozen : s.Frozen) (homework : HomeworkId) (user : UserId) :
    (s.dropResult homework user).Frozen := by
  intro id row' result hrow' hresult
  obtain ⟨row, hrow, hsub, hset⟩ := lookup_unstamp (lookup_dropResult hrow')
  rw [hsub, resultFor_dropResult] at hresult
  split at hresult
  · cases hresult
  · next hother =>
    rw [hset, if_neg fun h => hother (by rw [h.1.1, h.1.2])]
    exact hfrozen id row result hrow hresult

theorem createSubmission_stamps
    (hs : s.Stamps) (submission : HomeworkSubmission) (counted : Bool) :
    (s.createSubmission submission counted).Stamps := by
  constructor
  · intro id row hrow
    simp only [Db.createSubmission, lookup_insert_eq] at hrow
    split at hrow
    · next hid =>
      cases hrow
      exact hid.symm
    · exact hs.keyed id row hrow
  · intro id row stamp hrow hstamp
    simp only [Db.createSubmission, lookup_insert_eq] at hrow
    split at hrow
    · cases hrow
      cases hstamp
    · exact hs.named id row stamp hrow hstamp

theorem createSubmission_frozen_iff
    (hfrozen : s.Frozen) (submission : HomeworkSubmission) (counted : Bool) :
    (s.createSubmission submission counted).Frozen ↔
      s.resultFor submission.homework submission.user = none := by
  constructor
  · intro h
    rw [Option.eq_none_iff_forall_ne_some]
    intro result hresult
    have hstamp := h submission.id ⟨submission, 0, some counted, none⟩ result
      (by simp only [Db.createSubmission, lookup_insert_eq, if_true]) hresult
    cases hstamp
  · intro hnone id row result hrow hresult
    simp only [Db.createSubmission, lookup_insert_eq] at hrow
    split at hrow
    · cases hrow
      have hsome : s.resultFor submission.homework submission.user = some result := hresult
      rw [hnone] at hsome
      cases hsome
    · exact hfrozen id row result hrow hresult

/-! ## The runs that stay frozen -/

def handInUngraded (s : Db) (p : Point) (w : World) : Bool :=
  p.handIn.all fun pair =>
    !(s.handsIn pair.1 pair.2 ⟨w.uuid⟩ && (s.resultFor pair.1 pair.2).isSome)

inductive StampMove (s s' : Db) (w : World) (p : Point) : Prop
  | carried (hcarries : s.Carries s')
  | handedIn {pair : HomeworkId × UserId} {text : Option String} {counted : Bool}
      (hp : p.handIn = some pair) (hlands : s.handsIn pair.1 pair.2 ⟨w.uuid⟩ = true)
      (heq : s' = s.createSubmission ⟨⟨w.uuid⟩, pair.1, pair.2, text, w.now, w.now⟩ counted)
  | graded {graded : HomeworkResult} {fresh : HomeworkResultId} {grader : UserId}
      (hp : p.grades = some (graded.homework, graded.user, grader))
      (hlands : s.gradeLands graded.homework graded.user grader = true)
      (hid : graded.id =
        ((s.resultFor graded.homework graded.user).map HomeworkResult.id).getD fresh)
      (hcarries : (s.putResult graded).Carries s')
  | ungraded {homework : HomeworkId} {user : UserId}
      (hcarries : (s.dropResult homework user).Carries s')

theorem Db.Credited.carries (h : s.Credited s') : s.Carries s' := by
  have htables := h.tables
  exact .of_eq htables.1 htables.2.1

theorem Wrote.stampMove
    (h : Wrote s w p s') (hs : s.Stamps) :
    StampMove s s' w p := by
  cases h with
  | quiet | counters | created => exact .carried (.of_eq rfl rfl)
  | @patched read patch row counts hrow horphans =>
      have htables := patched_tables s read.id row patch counts
      exact .carried (.of_eq htables.1 htables.2.1)
  | deleted => exact .carried (dropHomework_carries s _ _)
  | resubmitted hnamed hexisting =>
      have hrow := (Db.submissionFor_some hs.keyed hexisting).1
      exact .carried (.of_insert rfl rfl hrow rfl rfl rfl rfl)
  | handedIn hp hlands => exact .handedIn hp hlands rfl
  | withdrawn => exact .carried (dropSubmission_carries s _ _)
  | touched => exact .carried (touch_carries s _ _)
  | attached hrow hopen hfresh | detached hrow hopen hstored hsame =>
      exact .carried (.of_insert rfl rfl hrow rfl rfl rfl rfl)
  | graded hhomework huser hid hlands hcredit =>
      subst hhomework huser
      exact .graded rfl hlands hid hcredit.carries
  | unstamped hnone => exact .carried (unstamp_carries hnone)
  | ungraded hsome hcredit => exact .ungraded hcredit.carries

theorem Wrote.stamps (h : Wrote s w p s') (hs : s.Stamps) :
    s'.Stamps := by
  cases h.stampMove hs with
  | carried hcarries => exact hcarries.stamps hs
  | handedIn hp hlands heq =>
      rw [heq]
      exact createSubmission_stamps hs _ _
  | graded hp hlands hid hcarries => exact hcarries.stamps (putResult_stamps hs hid)
  | ungraded hcarries => exact hcarries.stamps (dropResult_stamps hs _ _)

theorem Wrote.frozen
    (h : Wrote s w p s') (hs : s.Stamps) (hfrozen : s.Frozen)
    (hguard : handInUngraded s p w = true) : s'.Frozen := by
  cases h.stampMove hs with
  | carried hcarries => exact hcarries.frozen hfrozen
  | handedIn hp hlands heq =>
      rw [heq]
      refine (createSubmission_frozen_iff hfrozen _ _).mpr ?_
      simpa [handInUngraded, hp, hlands] using hguard
  | graded hp hlands hid hcarries => exact hcarries.frozen (putResult_frozen hs hfrozen hid)
  | ungraded hcarries => exact hcarries.frozen (dropResult_frozen hfrozen _ _)

theorem next_handsIn
    {pair : HomeworkId × UserId} (hp : p.handIn = some pair)
    (hlands : s.handsIn pair.1 pair.2 ⟨w.uuid⟩ = true) (id : ℕ) :
    ∃ text counted n,
      next id s p w =
        some (s.createSubmission ⟨⟨w.uuid⟩, pair.1, pair.2, text, w.now, w.now⟩ counted, n) := by
  cases p with
  | submitTx homework user text =>
      cases hp
      obtain ⟨landed, counted, hok⟩ := upsertTx_handsIn hlands text false w.now
      exact ⟨text, counted, _, by simp only [next, settle, txWithRetry, hok]; rfl⟩
  | attachTx =>
      cases hp
      obtain ⟨landed, counted, hok⟩ := upsertTx_handsIn hlands none true w.now
      exact ⟨none, counted, _, by simp only [next, settle, txWithRetry, hok]; rfl⟩
  | _ => cases hp

theorem allows_iff_frozen
    {c d : Config Db Point} {m : Move Request World} (hs : c.shared.Stamps)
    (hfrozen : c.shared.Frozen) (hstep : machine.step c m = some d) :
    c.Allows handInUngraded m ↔ d.shared.Frozen := by
  obtain ⟨request, rfl, rfl⟩ | ⟨id, w, p, s, n, rfl, hp, hnext, rfl⟩ | ⟨id, p, rfl, hp, rfl⟩ :=
    Machine.step_cases hstep
  · exact ⟨fun _ => hfrozen, fun _ => trivial⟩
  · rw [Config.shared_after]
    have hmove : next id c.shared p w = some (s, n) := hnext
    have hallows : c.Allows handInUngraded (.advance id w : Move Request World) ↔
        handInUngraded c.shared p w = true := by
      simp [Config.Allows, hp]
    rw [hallows]
    constructor
    · exact (next_wrote hmove).frozen hs hfrozen
    · intro hafter
      by_contra hguard
      simp only [handInUngraded, Option.all_eq_true, not_forall] at hguard
      obtain ⟨pair, hpair, hbad⟩ := hguard
      simp only [Bool.not_eq_true, Bool.not_eq_false', Bool.and_eq_true] at hbad
      obtain ⟨text, counted, n', hcreate⟩ := next_handsIn hpair hbad.1 id
      rw [hmove] at hcreate
      obtain ⟨rfl, -⟩ := Prod.mk.inj (Option.some.inj hcreate)
      have hnone := (createSubmission_frozen_iff hfrozen _ _).mp hafter
      dsimp only at hnone
      rw [hnone] at hbad
      exact absurd hbad.2 (by simp)
  · exact ⟨fun _ => hfrozen, fun _ => trivial⟩

theorem stamps_step
    {c d : Config Db Point} {m : Move Request World} (hs : c.shared.Stamps)
    (hstep : machine.step c m = some d) : d.shared.Stamps := by
  obtain heq | ⟨id, w, p, -, -, hwrote⟩ := step_wrote hstep
  · rw [heq]
    exact hs
  · exact hwrote.stamps hs

theorem empty_stamps : Db.empty.Stamps := by
  constructor
  · intro id row hrow
    cases hrow
  · intro id row stamp hrow
    cases hrow

/-! ## Graded work does not move -/

def Db.HasText (s : Db) (homework : HomeworkId) (user : UserId) (id : HomeworkSubmissionId)
    (text : Option String) : Prop :=
  ∃ row, s.homeworkSubmission.lookup id = some row ∧ row.isFor homework user ∧
    row.submission.text = text

def Db.HasFile (s : Db) (homework : HomeworkId) (user : UserId) (id : HomeworkFileId)
    (file : HomeworkFile) : Prop :=
  s.homeworkFile.lookup id = some file ∧
    ∃ row, s.homeworkSubmission.lookup file.submission = some row ∧ row.isFor homework user

structure Db.SameWork (s s' : Db) (homework : HomeworkId) (user : UserId) : Prop where
  text : ∀ id text, s'.HasText homework user id text ↔ s.HasText homework user id text
  file : ∀ id file, s'.HasFile homework user id file ↔ s.HasFile homework user id file

theorem Db.SameWork.of_rows
    (hfiles : s'.homeworkFile = s.homeworkFile) (hrows : ∀ id, ∃ f : SubmissionRow → SubmissionRow,
      s'.homeworkSubmission.lookup id = (s.homeworkSubmission.lookup id).map f ∧
        ∀ row, (f row).submission.homework = row.submission.homework ∧
          (f row).submission.user = row.submission.user ∧
          (f row).submission.text = row.submission.text) :
    s.SameWork s' homework user := by
  have hfor : ∀ id text, s'.HasText homework user id text ↔ s.HasText homework user id text := by
    intro id text
    obtain ⟨f, hlookup, hsame⟩ := hrows id
    simp only [Db.HasText, SubmissionRow.isFor, hlookup, Option.map_eq_some_iff]
    constructor
    · rintro ⟨row', ⟨row, hrow, rfl⟩, hpair, htext⟩
      obtain ⟨hh, hu, ht⟩ := hsame row
      exact ⟨row, hrow, hh ▸ hu ▸ hpair, ht ▸ htext⟩
    · rintro ⟨row, hrow, hpair, htext⟩
      obtain ⟨hh, hu, ht⟩ := hsame row
      exact ⟨f row, ⟨row, hrow, rfl⟩, by rw [hh, hu]; exact hpair, by rw [ht]; exact htext⟩
  refine ⟨hfor, ?_⟩
  intro id file
  have hrow := fun text => hfor file.submission text
  simp only [Db.HasFile, hfiles]
  refine and_congr_right fun _ => ?_
  constructor
  · rintro ⟨row, hlookup, hpair⟩
    obtain ⟨row', hlookup', hpair', -⟩ := (hrow _).mp ⟨row, hlookup, hpair, rfl⟩
    exact ⟨row', hlookup', hpair'⟩
  · rintro ⟨row, hlookup, hpair⟩
    obtain ⟨row', hlookup', hpair', -⟩ := (hrow _).mpr ⟨row, hlookup, hpair, rfl⟩
    exact ⟨row', hlookup', hpair'⟩

theorem Db.SameWork.of_other
    (key : HomeworkSubmissionId) (hrest : ∀ id, id ≠ key →
      s'.homeworkSubmission.lookup id = s.homeworkSubmission.lookup id)
    (hbefore : ∀ row, s.homeworkSubmission.lookup key = some row → ¬ row.isFor homework user)
    (hafter : ∀ row, s'.homeworkSubmission.lookup key = some row → ¬ row.isFor homework user)
    (hfiles : ∀ id file, file.submission ≠ key →
      (s'.homeworkFile.lookup id = some file ↔ s.homeworkFile.lookup id = some file)) :
    s.SameWork s' homework user := by
  have hrow : ∀ id row, row.isFor homework user →
      (s'.homeworkSubmission.lookup id = some row ↔
        s.homeworkSubmission.lookup id = some row) := by
    intro id row hpair
    by_cases hid : id = key
    · subst hid
      exact ⟨fun h => absurd hpair (hafter row h), fun h => absurd hpair (hbefore row h)⟩
    · rw [hrest id hid]
  constructor
  · intro id text
    simp only [Db.HasText]
    refine exists_congr fun row => ?_
    constructor
    · rintro ⟨hlookup, hpair, htext⟩
      exact ⟨(hrow id row hpair).mp hlookup, hpair, htext⟩
    · rintro ⟨hlookup, hpair, htext⟩
      exact ⟨(hrow id row hpair).mpr hlookup, hpair, htext⟩
  · intro id file
    simp only [Db.HasFile]
    constructor
    · rintro ⟨hfile, row, hlookup, hpair⟩
      have hother : file.submission ≠ key := fun h => hafter row (h ▸ hlookup) hpair
      exact ⟨(hfiles id file hother).mp hfile, row, (hrow _ row hpair).mp hlookup, hpair⟩
    · rintro ⟨hfile, row, hlookup, hpair⟩
      have hother : file.submission ≠ key := fun h => hbefore row (h ▸ hlookup) hpair
      exact ⟨(hfiles id file hother).mpr hfile, row, (hrow _ row hpair).mpr hlookup, hpair⟩

theorem Db.Frozen.open_other
    (hfrozen : s.Frozen) (hrow : s.homeworkSubmission.lookup id = some row)
    (hopen : row.gradedByResult = none) (hgraded : (s.resultFor homework user).isSome = true) :
    ¬ row.isFor homework user := by
  rintro ⟨rfl, rfl⟩
  obtain ⟨result, hresult⟩ := Option.isSome_iff_exists.mp hgraded
  rw [hfrozen id row result hrow hresult] at hopen
  cases hopen

/-- A write to an open row, which keeps its pair. -/
theorem Db.SameWork.of_insert
    {key : HomeworkSubmissionId} {old new : SubmissionRow}
    (hrows : s'.homeworkSubmission = s.homeworkSubmission.insert key new)
    (hold : s.homeworkSubmission.lookup key = some old) (hother : ¬ old.isFor homework user)
    (hpair : new.isFor homework user → old.isFor homework user)
    (hfiles : ∀ id file, file.submission ≠ key →
      (s'.homeworkFile.lookup id = some file ↔ s.homeworkFile.lookup id = some file)) :
    s.SameWork s' homework user := by
  refine .of_other key ?_ ?_ ?_ hfiles
  · intro id hid
    rw [hrows, lookup_insert_eq, if_neg hid]
  · intro row hlookup
    cases hold.symm.trans hlookup
    exact hother
  · intro row hlookup hfor
    rw [hrows, lookup_insert_eq, if_pos rfl] at hlookup
    cases hlookup
    exact hother (hpair hfor)

/-- The delete of another homework. -/
theorem dropHomework_sameWork
    (s : Db) {gone : HomeworkId} (row : HomeworkRow) (user : UserId) (hother : homework ≠ gone) :
    s.SameWork (s.dropHomework gone row) homework user := by
  have hkept : ∀ id kept, kept.isFor homework user →
      ((s.dropHomework gone row).homeworkSubmission.lookup id = some kept ↔
        s.homeworkSubmission.lookup id = some kept) := by
    intro id kept hpair
    simp only [Db.dropHomework, lookup_deleteWhere, Option.filter_eq_some_iff]
    simp [hpair.1, hother]
  constructor
  · intro id text
    refine exists_congr fun kept => ?_
    constructor
    · rintro ⟨hlookup, hpair, htext⟩
      exact ⟨(hkept id kept hpair).mp hlookup, hpair, htext⟩
    · rintro ⟨hlookup, hpair, htext⟩
      exact ⟨(hkept id kept hpair).mpr hlookup, hpair, htext⟩
  · intro id file
    constructor
    · rintro ⟨hfile, kept, hlookup, hpair⟩
      simp only [Db.dropHomework, lookup_deleteWhere, Option.filter_eq_some_iff] at hfile
      exact ⟨hfile.1, kept, (hkept _ kept hpair).mp hlookup, hpair⟩
    · rintro ⟨hfile, kept, hlookup, hpair⟩
      refine ⟨?_, kept, (hkept _ kept hpair).mpr hlookup, hpair⟩
      simp only [Db.dropHomework, lookup_deleteWhere, Option.filter_eq_some_iff]
      exact ⟨hfile, by simp [hlookup, hpair.1, hother]⟩

theorem createSubmission_sameWork
    {submission : HomeworkSubmission} (counted : Bool)
    (hfresh : s.homeworkSubmission.lookup submission.id = none)
    (hother : (submission.homework, submission.user) ≠ (homework, user)) :
    s.SameWork (s.createSubmission submission counted) homework user := by
  refine .of_other submission.id ?_ ?_ ?_ fun id file _ => Iff.rfl
  · intro id hid
    exact (lookup_insert_eq _ _ _ _).trans (if_neg hid)
  · intro row hlookup
    rw [hfresh] at hlookup
    cases hlookup
  · rintro row hlookup ⟨hhomework, huser⟩
    simp only [Db.createSubmission, lookup_insert_eq, if_true] at hlookup
    cases hlookup
    exact hother (by rw [hhomework, huser])

theorem dropSubmission_sameWork
    (hkeyed : s.Keyed) (hrow : s.homeworkSubmission.lookup id = some row) (due : Option Timestamp)
    (hother : ¬ row.isFor homework user) :
    s.SameWork (s.dropSubmission row due) homework user := by
  have hkey := hkeyed id row hrow
  refine .of_other id ?_ ?_ ?_ ?_
  · intro other hid
    exact (lookup_erase_eq _ _ _).trans (if_neg (hkey ▸ hid))
  · intro other hlookup
    cases hrow.symm.trans hlookup
    exact hother
  · intro other hlookup
    simp [Db.dropSubmission, hkey] at hlookup
  · intro fileId file hfile
    simp [Db.dropSubmission, Option.filter_eq_some_iff, hkey, hfile]

theorem attach_sameWork
    {file : HomeworkFile} (hrow : s.homeworkSubmission.lookup file.submission = some row)
    (hfresh : s.homeworkFile.lookup file.id = none) (hother : ¬ row.isFor homework user) :
    s.SameWork (s.attach file row) homework user := by
  refine .of_insert rfl hrow hother (fun h => h) ?_
  intro id stored hstored
  simp only [Db.attach, lookup_insert_eq]
  split
  · next hid =>
    subst hid
    rw [hfresh]
    simp only [reduceCtorEq, iff_false, Option.some.injEq]
    rintro rfl
    exact hstored rfl
  · exact Iff.rfl

theorem detach_sameWork
    {file stored : HomeworkFile} (now : Timestamp)
    (hrow : s.homeworkSubmission.lookup file.submission = some row)
    (hstored : s.homeworkFile.lookup file.id = some stored)
    (hsame : stored.submission = file.submission) (hother : ¬ row.isFor homework user) :
    s.SameWork (s.detach file row now) homework user := by
  refine .of_insert rfl hrow hother (fun h => h) ?_
  intro id other hfile
  simp only [Db.detach, lookup_erase_eq]
  split
  · next hid =>
    subst hid
    rw [hstored]
    simp only [reduceCtorEq, false_iff, Option.some.injEq]
    rintro rfl
    exact hfile hsame
  · exact Iff.rfl

theorem Wrote.sameWork
    (h : Wrote s w p s') (hs : s.Stamps) (hfrozen : s.Frozen) (hguard : handInUngraded s p w = true)
    (hbefore : (s.resultFor homework user).isSome = true)
    (hafter : (s'.resultFor homework user).isSome = true) : s.SameWork s' homework user := by
  have hquiet : ∀ {t : Db}, t.homeworkFile = s.homeworkFile →
      t.homeworkSubmission = s.homeworkSubmission → s.SameWork t homework user := by
    intro t hfiles hrows
    exact .of_rows hfiles fun id => ⟨fun row => row, by simp [hrows], fun row => ⟨rfl, rfl, rfl⟩⟩
  cases h with
  | quiet | counters | created => exact hquiet rfl rfl
  | @patched read patch row counts hrow horphans =>
      have htables := patched_tables s read.id row patch counts
      exact hquiet htables.2.2 htables.1
  | @deleted gone row hrow =>
      refine dropHomework_sameWork s row user ?_
      -- The grade stands after the delete, so the pair belongs to another homework.
      rintro rfl
      simp [Db.resultFor, Db.dropHomework] at hafter
  | resubmitted hnamed hexisting hopen =>
      obtain ⟨hrow, -⟩ := Db.submissionFor_some hs.keyed hexisting
      exact .of_insert rfl hrow (hfrozen.open_other hrow hopen hbefore) (fun h => h)
        fun id file _ => Iff.rfl
  | @handedIn p author writer text counted hp hlands =>
      have hnone : s.resultFor author writer = none := by
        simpa [handInUngraded, hp, hlands] using hguard
      simp only [Db.handsIn, Bool.and_eq_true, Option.isNone_iff_eq_none] at hlands
      refine createSubmission_sameWork counted hlands.2 ?_
      intro hpair
      obtain ⟨rfl, rfl⟩ := Prod.mk.inj hpair
      simp [hnone] at hbefore
  | withdrawn hrow hopen =>
      exact dropSubmission_sameWork hs.keyed hrow _ (hfrozen.open_other hrow hopen hbefore)
  | touched | unstamped =>
      refine .of_rows rfl fun id => ⟨_, lookup_update _ _ id, fun row => ?_⟩
      split <;> exact ⟨rfl, rfl, rfl⟩
  | attached hrow hopen hfresh =>
      exact attach_sameWork hrow hfresh (hfrozen.open_other hrow hopen hbefore)
  | detached hrow hopen hstored hsame =>
      exact detach_sameWork _ hrow hstored hsame (hfrozen.open_other hrow hopen hbefore)
  | graded hhomework huser hid hlands hcredit | ungraded hsome hcredit =>
      have htables := hcredit.tables
      refine .of_rows htables.2.2.1 fun id =>
        ⟨_, (congrArg (AList.lookup id) htables.1).trans (lookup_update _ _ id),
          fun row => ?_⟩
      split <;> exact ⟨rfl, rfl, rfl⟩

/-! ## The results -/

/-- The runs in which no first hand-in lands beside a grade are exactly those in which every
submission beside a grade carries its stamp; in them the work of a graded pair stays. -/
theorem submission_frozen_iff
    {ms : List (Move Request World)} {c : Config Db Point}
    (hrun : machine.run start ms = some c) :
    (machine.Guarded (Config.Allows handInUngraded) start ms ↔
      ∀ pre d, pre <+: ms → machine.run start pre = some d → d.shared.Frozen) ∧
    (machine.Guarded (Config.Allows handInUngraded) start ms →
      ∀ pre m d d', pre ++ [m] <+: ms → machine.run start pre = some d →
        machine.step d m = some d' → ∀ homework user,
        (d.shared.resultFor homework user).isSome = true →
        (d'.shared.resultFor homework user).isSome = true →
        d.shared.SameWork d'.shared homework user) := by
  have hiff : machine.Guarded (Config.Allows handInUngraded) start ms ↔
      ∀ pre d, pre <+: ms → machine.run start pre = some d → d.shared.Frozen :=
    Machine.guarded_iff_always (M := machine)
      (J := fun c => c.shared.Stamps) (Q := fun c => c.shared.Frozen) stamps_step
      (fun hs hfrozen hstep => allows_iff_frozen hs hfrozen hstep)
      empty_stamps (fun id row result hrow => by cases hrow) hrun
  refine ⟨hiff, ?_⟩
  intro hguard pre m d d' hpre hd hstep homework user hbefore hafter
  have hprefix : pre <+: ms := (List.prefix_append pre [m]).trans hpre
  have hs : d.shared.Stamps :=
    Machine.run_induction (J := fun c => c.shared.Stamps)
      (fun hc _ hmove => stamps_step hc hmove) empty_stamps (Machine.guarded_true _ _) hd
  have hfrozen := hiff.mp hguard pre d hprefix hd
  have hd' : machine.run start (pre ++ [m]) = some d' := by
    rw [Machine.run_append, hd]
    simp [Machine.run, hstep]
  have hallows := (allows_iff_frozen hs hfrozen hstep).mpr (hiff.mp hguard _ d' hpre hd')
  obtain heq | ⟨id, w, p, rfl, hp, hwrote⟩ := step_wrote hstep
  · rw [heq]
    exact .of_rows rfl fun id => ⟨fun row => row, by simp, fun row => ⟨rfl, rfl, rfl⟩⟩
  · exact hwrote.sameWork hs hfrozen (by simpa [Config.Allows, hp] using hallows) hbefore hafter

section Runs

open Sample

/-- The essay is handed in and graded, and then a second submit is refused. -/
def handedInThenGraded : List (Move Request World) :=
  opening ++ [submitEssay, tick 5, tick 5, tick 5, gradeEssay, tick 6, tick 6, tick 6,
    submitEssay, tick 7, tick 7]

theorem submission_frozen_iff_handedInThenGraded :
    ∃ c row result, machine.run start handedInThenGraded = some c ∧
      c.shared.homeworkSubmission.lookup ⟨rowUuid⟩ = some row ∧
      c.shared.resultFor essay student = some result ∧ row.gradedByResult = some result.id := by
  have hend : (machine.run start handedInThenGraded).any (fun c =>
      (c.shared.homeworkSubmission.lookup ⟨rowUuid⟩).any fun row =>
        (c.shared.resultFor essay student).isSome &&
          decide (row.submission.homework = essay ∧ row.submission.user = student)) = true := by
    decide
  have hguard : machine.Guarded (Config.Allows handInUngraded) start handedInThenGraded := by
    decide
  obtain ⟨c, hrun, hrow⟩ := (Option.any_eq_true _ _).mp hend
  obtain ⟨row, hrow, hgraded⟩ := (Option.any_eq_true _ _).mp hrow
  rw [Bool.and_eq_true, decide_eq_true_eq] at hgraded
  obtain ⟨result, hresult⟩ := Option.isSome_iff_exists.mp hgraded.1
  have hfrozen := (submission_frozen_iff hrun).1.mp hguard handedInThenGraded c
    (List.prefix_refl _) hrun
  refine ⟨c, row, result, hrun, hrow, hresult, hfrozen _ row result hrow ?_⟩
  rw [hgraded.2.1, hgraded.2.2]
  exact hresult

def gradedBetween : List (Move Request World) :=
  opening ++ [submitEssay, tick 5, tick 5, submitEssay, tick 6, tick 6, gradeEssay, tick 7,
    tick 7, tick 7, tick 5, tick 6]

theorem gradedBetween_not_frozen :
    ∃ c, machine.run start gradedBetween = some c ∧ ¬ c.shared.Frozen := by
  have hend : (machine.run start gradedBetween).any (fun c =>
      (c.shared.homeworkSubmission.lookup ⟨rowUuid⟩).any fun row =>
        (c.shared.resultFor row.submission.homework row.submission.user).isSome &&
          row.gradedByResult.isNone) = true := by
    decide
  obtain ⟨c, hrun, hrow⟩ := (Option.any_eq_true _ _).mp hend
  obtain ⟨row, hrow, hopen⟩ := (Option.any_eq_true _ _).mp hrow
  rw [Bool.and_eq_true, Option.isNone_iff_eq_none] at hopen
  refine ⟨c, hrun, ?_⟩
  intro hfrozen
  obtain ⟨result, hresult⟩ := Option.isSome_iff_exists.mp hopen.1
  have hstamp := hfrozen _ row result hrow hresult
  rw [hopen.2] at hstamp
  cases hstamp

end Runs

end Hezarfen.Homeworks
