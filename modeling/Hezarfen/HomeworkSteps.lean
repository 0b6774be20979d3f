import Hezarfen.HomeworkCalls

/-!
# What a step of the homework subsystem can do

One inversion lemma for each transaction, and `Wrote`, which lists what a step can
have written together with everything it checked under its lock.  The graded reads of
the student-side calls write nothing, so no case of `Wrote` mentions them: what a call
read before counts for nothing when its transaction comes.
-/

namespace Hezarfen.Homeworks

open Interleaving
open Exams (SubjectId)

variable {s s' : Db} {homework : HomeworkId} {user : UserId} {now : Timestamp} {n : Reply}

def Db.Keyed (s : Db) : Prop :=
  ∀ id row, s.homeworkSubmission.lookup id = some row → row.submission.id = id

def SubmissionRow.isFor (row : SubmissionRow) (homework : HomeworkId) (user : UserId) : Prop :=
  row.submission.homework = homework ∧ row.submission.user = user

instance (row : SubmissionRow) (homework : HomeworkId) (user : UserId) :
    Decidable (row.isFor homework user) :=
  inferInstanceAs (Decidable (_ ∧ _))

theorem Db.submissionFor_some
    (hkeyed : s.Keyed) {row : SubmissionRow} (h : s.submissionFor homework user = some row) :
    s.homeworkSubmission.lookup row.submission.id = some row ∧ row.isFor homework user := by
  have hmem := List.mem_of_find?_eq_some h
  have hpair := List.find?_some h
  obtain ⟨entry, hentry, hrow⟩ := List.mem_map.mp hmem
  have hlookup : s.homeworkSubmission.lookup entry.1 = some row := by
    rw [← hrow]
    exact mem_entries_iff_lookup.mp hentry
  refine ⟨?_, by simpa [SubmissionRow.isFor] using hpair⟩
  rw [hkeyed entry.1 row hlookup]
  exact hlookup

/-- The conditions under which the create arm of the upsert lands. -/
def Db.handsIn (s : Db) (homework : HomeworkId) (user : UserId) (id : HomeworkSubmissionId) :
    Bool :=
  (s.homework.lookup homework).isSome && s.named homework user &&
    (s.submissionFor homework user).isNone && s.account user &&
    (s.homeworkSubmission.lookup id).isNone

theorem upsertTx_ok
    {text : Option String} {preserveText : Bool} {id : HomeworkSubmissionId}
    {landed : Option (HomeworkSubmission × Bool)}
    (h : upsertTx homework user text preserveText id now s = .ok (landed, s')) :
    s' = s ∨
    (∃ existing, s.named homework user = true ∧
      s.submissionFor homework user = some existing ∧ existing.gradedByResult = none ∧
      s' = s.putSubmission (existing.resubmit text preserveText now)) ∨
    (∃ counted, s.handsIn homework user id = true ∧
      s' = s.createSubmission ⟨id, homework, user, text, now, now⟩ counted) := by
  unfold upsertTx at h
  split at h
  · cases h
  next row hrow =>
    split at h
    · next hnamed =>
      split at h
      · next existing hexisting =>
        split at h
        · cases h
          exact .inl rfl
        · next hopen =>
          cases h
          exact .inr (.inl ⟨existing, hnamed, hexisting, by simpa using hopen, rfl⟩)
      · next hnone =>
        split at h
        · next hfk =>
          cases h
          refine .inr (.inr ⟨_, ?_, rfl⟩)
          simp [Db.handsIn, hrow, hnamed, hnone, hfk.1, Option.isNone_iff_eq_none.mp hfk.2]
        · cases h
    · cases h

theorem upsertTx_handsIn
    {id : HomeworkSubmissionId} (h : s.handsIn homework user id = true) (text : Option String)
    (preserveText : Bool) (now : Timestamp) :
    ∃ landed counted, upsertTx homework user text preserveText id now s =
      .ok (some landed, s.createSubmission ⟨id, homework, user, text, now, now⟩ counted) := by
  simp only [Db.handsIn, Bool.and_eq_true, Option.isSome_iff_exists,
    Option.isNone_iff_eq_none] at h
  obtain ⟨⟨⟨⟨⟨row, hrow⟩, hnamed⟩, hnone⟩, haccount⟩, hfresh⟩ := h
  exact ⟨_, _, by simp only [upsertTx, hrow, hnamed, hnone, haccount, hfresh,
    Option.isNone_none, and_self, if_true]; rfl⟩

theorem withdrawTx_ok
    {submission : HomeworkSubmission} {gone : Option HomeworkSubmission}
    (h : withdrawTx submission s = .ok (gone, s')) :
    s' = s ∨
    ∃ row due, s.homeworkSubmission.lookup submission.id = some row ∧
      row.gradedByResult = none ∧ s' = s.dropSubmission row due := by
  unfold withdrawTx at h
  split at h
  · cases h
    exact .inl rfl
  next row hrow =>
    split at h
    · cases h
      exact .inl rfl
    · next hopen =>
      cases h
      exact .inr ⟨row, _, hrow, by simpa using hopen, rfl⟩

theorem insertFile_store (file : HomeworkFile) (s : Db) :
    (insertFile file s).2 = s ∨
    ∃ row, s.homeworkSubmission.lookup file.submission = some row ∧
      row.gradedByResult = none ∧ s.homeworkFile.lookup file.id = none ∧
      (insertFile file s).2 = s.attach file row := by
  unfold insertFile
  split
  · exact .inl rfl
  next row hrow =>
    split
    · next hseat =>
      split
      · exact .inl rfl
      · next hfresh => exact .inr ⟨row, hrow, hseat.2, by simpa using hfresh, rfl⟩
    · exact .inl rfl

theorem deleteFileTx_ok
    {file : HomeworkFile} {gone : Option HomeworkFile}
    (h : deleteFileTx file now s = .ok (gone, s')) :
    s' = s ∨
    ∃ row stored, s.homeworkSubmission.lookup file.submission = some row ∧
      row.gradedByResult = none ∧ s.homeworkFile.lookup file.id = some stored ∧
      stored.submission = file.submission ∧ s' = s.detach file row now := by
  unfold deleteFileTx at h
  split at h
  · cases h
    exact .inl rfl
  next row hrow =>
    split at h
    · cases h
      exact .inl rfl
    next hopen =>
      split at h
      · cases h
      next stored hstored =>
        split at h
        · next hsame =>
          cases h
          exact .inr ⟨row, stored, hrow, by simpa using hopen, hstored, hsame, rfl⟩
        · cases h

def Db.gradeLands (s : Db) (homework : HomeworkId) (user grader : UserId) : Bool :=
  (s.homework.lookup homework).isSome && s.account user && s.account grader

def Db.Credited (s s' : Db) : Prop :=
  ∃ exams, s' = { s with exams := exams }

theorem gradeTx_ok
    {id : HomeworkResultId} {verdict : Verdict} {graded : HomeworkResult}
    (h : gradeTx id homework user verdict now s = .ok (graded, s')) :
    graded.homework = homework ∧ graded.user = user ∧
      graded.id = ((s.resultFor homework user).map HomeworkResult.id).getD id ∧
      s.gradeLands homework user verdict.gradedBy = true ∧ (s.putResult graded).Credited s' := by
  unfold gradeTx at h
  split at h
  · cases h
  next row hrow =>
    split at h
    · next hfk =>
      cases h
      refine ⟨rfl, rfl, rfl, by simp [Db.gradeLands, hrow, hfk], ?_⟩
      split
      · exact ⟨_, rfl⟩
      · exact ⟨_, rfl⟩
    · cases h

/-- A grade that meets the conditions lands. -/
theorem gradeTx_lands
    {verdict : Verdict} (h : s.gradeLands homework user verdict.gradedBy = true)
    (id : HomeworkResultId) (now : Timestamp) :
    ∃ graded s', gradeTx id homework user verdict now s = .ok (graded, s') := by
  simp only [Db.gradeLands, Bool.and_eq_true, Option.isSome_iff_exists] at h
  obtain ⟨⟨⟨row, hrow⟩, huser⟩, hgrader⟩ := h
  exact ⟨_, _, by simp only [gradeTx, hrow, huser, hgrader, and_self, if_true]; rfl⟩

theorem removeTx_ok
    {gone : Option HomeworkResult} (h : removeTx homework user s = .ok (gone, s')) :
    s' = s ∨ (s.resultFor homework user = none ∧ s' = s.unstamp homework user) ∨
      ((s.resultFor homework user).isSome = true ∧ (s.dropResult homework user).Credited s') := by
  unfold removeTx at h
  split at h
  · cases h
    exact .inl rfl
  · split at h
    · next hnone =>
      cases h
      exact .inr (.inl ⟨hnone, rfl⟩)
    · next removed hremoved =>
      cases h
      exact .inr (.inr ⟨by simp [hremoved], _, rfl⟩)

theorem createTx_ok
    {id : HomeworkId} {row : HomeworkRow} {assigned : Option (List UserId)} {created : Homework}
    (h : createTx id row assigned s = .ok (created, s')) :
    s.homework.lookup id = none ∧ ∃ counts,
      s' = Db.replaceAudience
        { s with homeworkCount := counts, homework := s.homework.insert id row }
        id (assigned.getD []) := by
  unfold createTx at h
  split at h
  · cases h
  next counts hcounts =>
    split at h
    · cases h
    next hfresh =>
      split at h
      · cases h
        exact ⟨by simpa using hfresh, counts, rfl⟩
      · cases h

theorem updateTx_ok
    {read : Homework} {patch : HomeworkPatch} {updated : Homework}
    (h : updateTx read patch s = .ok (updated, s')) :
    ∃ row counts, s.homework.lookup read.id = some row ∧
      patch.assigned.elim (.ok ()) (ensureNoOrphans s read.id) = .ok () ∧
      s' = s.patched read.id row patch counts := by
  unfold updateTx at h
  split at h
  · cases h
  next row hrow =>
    split at h
    · cases h
    next horphans =>
      split at h
      · cases h
      next counts hcounts =>
        split at h
        · cases h
        · split at h
          · cases h
            exact ⟨row, counts, hrow, horphans, rfl⟩
          · cases h

theorem deleteTx_ok
    {u : Unit} (h : deleteTx homework s = .ok (u, s')) :
    ∃ row, s.homework.lookup homework = some row ∧ s' = s.dropHomework homework row := by
  unfold deleteTx at h
  split at h
  · cases h
  next row hrow =>
    cases h
    exact ⟨row, hrow, rfl⟩

def Point.handIn : Point → Option (HomeworkId × UserId)
  | .submitTx homework user _ => some (homework, user)
  | .attachTx homework user _ => some (homework, user)
  | _ => none

def Point.grades : Point → Option (HomeworkId × UserId × UserId)
  | .gradeTx homework target verdict => some (homework, target, verdict.gradedBy)
  | _ => none

/-- What a step at a point can have made of the store `s`. -/
inductive Wrote (s : Db) (w : World) : Point → Db → Prop
  | quiet {p : Point} : Wrote s w p s
  | counters {p : Point} {exams : Exams.Db} {tally : Table UserId Tally}
      {counts : Table SubjectId ℤ} :
      Wrote s w p { s with exams := exams, tally := tally, homeworkCount := counts }
  | created {args : CreateArgs} {row : HomeworkRow} {counts : Table SubjectId ℤ}
      (hfresh : s.homework.lookup ⟨w.uuid⟩ = none) :
      Wrote s w (.create args)
        (Db.replaceAudience
          { s with homeworkCount := counts, homework := s.homework.insert ⟨w.uuid⟩ row }
          ⟨w.uuid⟩ (args.assigned.getD []))
  | patched {read : Homework} {patch : HomeworkPatch} {row : HomeworkRow}
      {counts : Table SubjectId ℤ} (hrow : s.homework.lookup read.id = some row)
      (horphans : patch.assigned.elim (.ok ()) (ensureNoOrphans s read.id) = .ok ()) :
      Wrote s w (.patchTx read patch) (s.patched read.id row patch counts)
  | deleted {homework : HomeworkId} {row : HomeworkRow}
      (hrow : s.homework.lookup homework = some row) :
      Wrote s w (.deleteTx homework) (s.dropHomework homework row)
  | resubmitted {p : Point} {homework : HomeworkId} {user : UserId} {existing : SubmissionRow}
      {text : Option String} {preserveText : Bool}
      (hnamed : s.named homework user = true)
      (hexisting : s.submissionFor homework user = some existing)
      (hopen : existing.gradedByResult = none) :
      Wrote s w p (s.putSubmission (existing.resubmit text preserveText w.now))
  | handedIn {p : Point} {homework : HomeworkId} {user : UserId} {text : Option String}
      {counted : Bool} (hp : p.handIn = some (homework, user))
      (hlands : s.handsIn homework user ⟨w.uuid⟩ = true) :
      Wrote s w p (s.createSubmission ⟨⟨w.uuid⟩, homework, user, text, w.now, w.now⟩ counted)
  | withdrawn {submission : HomeworkSubmission} {files : List HomeworkFile}
      {row : SubmissionRow} {due : Option Timestamp}
      (hrow : s.homeworkSubmission.lookup submission.id = some row)
      (hopen : row.gradedByResult = none) :
      Wrote s w (.withdrawTx submission files) (s.dropSubmission row due)
  | touched {file : HomeworkFile} :
      Wrote s w (.fileTouch file) (s.touch file.submission w.now)
  | attached {submission : HomeworkSubmissionId} {upload : Upload} {row : SubmissionRow}
      (hrow : s.homeworkSubmission.lookup submission = some row)
      (hopen : row.gradedByResult = none) (hfresh : s.homeworkFile.lookup ⟨w.uuid⟩ = none) :
      Wrote s w (.fileInsert submission upload) (s.attach (upload.file submission w) row)
  | detached {file stored : HomeworkFile} {row : SubmissionRow}
      (hrow : s.homeworkSubmission.lookup file.submission = some row)
      (hopen : row.gradedByResult = none) (hstored : s.homeworkFile.lookup file.id = some stored)
      (hsame : stored.submission = file.submission) :
      Wrote s w (.fileTx file) (s.detach file row w.now)
  | graded {homework : HomeworkId} {target : UserId} {verdict : Verdict}
      {graded : HomeworkResult} {s' : Db}
      (hhomework : graded.homework = homework) (huser : graded.user = target)
      (hid : graded.id = ((s.resultFor homework target).map HomeworkResult.id).getD ⟨w.uuid⟩)
      (hlands : s.gradeLands homework target verdict.gradedBy = true)
      (hcredit : (s.putResult graded).Credited s') :
      Wrote s w (.gradeTx homework target verdict) s'
  | unstamped {homework : HomeworkId} {target : UserId}
      (hnone : s.resultFor homework target = none) :
      Wrote s w (.ungradeTx homework target) (s.unstamp homework target)
  | ungraded {homework : HomeworkId} {target : UserId} {s' : Db}
      (hsome : (s.resultFor homework target).isSome = true)
      (hcredit : (s.dropResult homework target).Credited s') :
      Wrote s w (.ungradeTx homework target) s'

theorem settle_store {α : Type} (reply : α → Reply) (r : Except AppError α × Db) :
    (settle reply r).1 = r.2 := by
  obtain ⟨verdict, s⟩ := r
  cases verdict <;> rfl

theorem settle_cases
    {α : Type} {reply : α → Reply} {f : Tx Db α} (h : settle reply (txWithRetry f s) = (s', n)) :
    s' = s ∨ ∃ a, f s = .ok (a, s') := by
  unfold settle at h
  split at h
  · next a t htx =>
    cases h
    obtain ⟨b, hb, hok⟩ | ⟨e, he, -, -⟩ := txWithRetry_cases htx
    · exact .inr ⟨b, hok⟩
    · cases he
  · next e t htx =>
    cases h
    obtain ⟨b, hb, -⟩ | ⟨-, -, -, heq⟩ := txWithRetry_cases htx
    · cases hb
    · exact .inl heq

theorem wrote_upsert
    {w : World} {p : Point} {text : Option String} {preserveText : Bool}
    {reply : Option (HomeworkSubmission × Bool) → Reply} (hp : p.handIn = some (homework, user))
    (h : settle reply (txWithRetry (upsertTx homework user text preserveText ⟨w.uuid⟩ w.now) s) =
      (s', n)) :
    Wrote s w p s' := by
  obtain rfl | ⟨landed, hok⟩ := settle_cases h
  · exact .quiet
  · obtain rfl | ⟨existing, hnamed, hexisting, hopen, rfl⟩ | ⟨counted, hlands, rfl⟩ :=
      upsertTx_ok hok
    · exact .quiet
    · exact .resubmitted hnamed hexisting hopen
    · exact .handedIn hp hlands

theorem next_wrote
    {id : ℕ} {p : Point} {w : World} (h : next id s p w = some (s', n)) : Wrote s w p s' := by
  cases p with
  | createUser =>
      simp only [next, createUser, Option.some.injEq] at h
      split at h <;> cases h
      · exact .quiet
      · exact .counters
  | createSubject =>
      simp only [next, createSubject, Option.some.injEq] at h
      split at h <;> cases h
      · exact .quiet
      · exact .counters
  | create =>
      simp only [next, create, Option.some.injEq] at h
      split at h
      · cases h
        exact .quiet
      · obtain rfl | ⟨created, hok⟩ := settle_cases h
        · exact .quiet
        · obtain ⟨hfresh, counts, rfl⟩ := createTx_ok hok
          exact .created hfresh
  | patchTx =>
      simp only [next, Option.some.injEq] at h
      obtain rfl | ⟨updated, hok⟩ := settle_cases h
      · exact .quiet
      · obtain ⟨row, counts, hrow, horphans, rfl⟩ := updateTx_ok hok
        exact .patched hrow horphans
  | deleteTx =>
      simp only [next, Option.some.injEq] at h
      obtain rfl | ⟨u, hok⟩ := settle_cases h
      · exact .quiet
      · obtain ⟨row, hrow, rfl⟩ := deleteTx_ok hok
        exact .deleted hrow
  | submitTx | attachTx =>
      simp only [next, Option.some.injEq] at h
      exact wrote_upsert rfl h
  | withdrawTx =>
      simp only [next, Option.some.injEq] at h
      obtain rfl | ⟨gone, hok⟩ := settle_cases h
      · exact .quiet
      · obtain rfl | ⟨row, due, hrow, hopen, rfl⟩ := withdrawTx_ok hok
        · exact .quiet
        · exact .withdrawn hrow hopen
  | fileInsert submission upload =>
      simp only [next, fileInsert, Option.some.injEq] at h
      have hstore := congrArg Prod.fst h
      rw [settle_store] at hstore
      dsimp only at hstore
      rw [← hstore]
      obtain heq | ⟨row, hrow, hopen, hfresh, heq⟩ :=
        insertFile_store (upload.file submission w) s
      · rw [heq]
        exact .quiet
      · rw [heq]
        exact .attached hrow hopen hfresh
  | fileTouch =>
      simp only [next, fileTouch, Option.some.injEq] at h
      split at h <;> cases h
      · exact .touched
      · exact .quiet
  | fileTx =>
      simp only [next, Option.some.injEq] at h
      obtain rfl | ⟨gone, hok⟩ := settle_cases h
      · exact .quiet
      · obtain rfl | ⟨row, stored, hrow, hopen, hstored, hsame, rfl⟩ := deleteFileTx_ok hok
        · exact .quiet
        · exact .detached hrow hopen hstored hsame
  | gradeTx =>
      simp only [next, Option.some.injEq] at h
      obtain rfl | ⟨graded, hok⟩ := settle_cases h
      · exact .quiet
      · obtain ⟨hhomework, huser, hid, hlands, hcredit⟩ := gradeTx_ok hok
        exact .graded hhomework huser hid hlands hcredit
  | ungradeTx =>
      simp only [next, Option.some.injEq] at h
      obtain rfl | ⟨gone, hok⟩ := settle_cases h
      · exact .quiet
      · obtain rfl | ⟨hnone, rfl⟩ | ⟨hsome, hcredit⟩ := removeTx_ok hok
        · exact .quiet
        · exact .unstamped hnone
        · exact .ungraded hsome hcredit
  | _ =>
      simp only [next, Option.some.injEq, Prod.mk.injEq] at h
      rw [← h.1]
      exact .quiet

/-- What a move of a run can have written. -/
theorem step_wrote
    {c d : Config Db Point} {m : Move Request World} (hstep : machine.step c m = some d) :
    d.shared = c.shared ∨
      ∃ id w p, m = .advance id w ∧ c.calls.lookup id = some p ∧ Wrote c.shared w p d.shared := by
  obtain ⟨request, -, rfl⟩ | ⟨id, w, p, s, n, rfl, hp, hnext, rfl⟩ | ⟨id, p, -, -, rfl⟩ :=
    Machine.step_cases hstep
  · exact .inl rfl
  · rw [Config.shared_after]
    have hstep : next id c.shared p w = some (s, n) := hnext
    exact .inr ⟨id, w, p, rfl, hp, next_wrote hstep⟩
  · exact .inl rfl

end Hezarfen.Homeworks
