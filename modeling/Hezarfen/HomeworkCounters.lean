import Mathlib.Algebra.Order.Group.Nat
import Hezarfen.HomeworkFreeze
import Hezarfen.MarkCounters

/-!
# The counters of hand-ins

A hand-in credits the student and stores the verdict it credited; a withdrawal gives back
what the row stored, whatever the deadline has become.  So the two totals of a student
follow the rows that were created and not withdrawn, by their stored verdicts, and the
seats of a submission follow its files.
-/

namespace Hezarfen.Homeworks

open Interleaving

variable {id : HomeworkSubmissionId} {row row' : SubmissionRow} {homework : HomeworkId}
  {user : UserId}

abbrev Credit := UserId × Option Bool

def SubmissionRow.credit (row : SubmissionRow) : Credit := (row.submission.user, row.countedOnTime)

def mine (user : UserId) (credit : Credit) : Bool := decide (credit.1 = user)

def mineOnTime (user : UserId) (credit : Credit) : Bool :=
  decide (credit.1 = user) && decide (credit.2 = some true)

inductive Passing where
  | created (row : SubmissionRow)
  | withdrawn (row : SubmissionRow)
  | erased (row : SubmissionRow)

variable {l : List Passing}

def Point.withdraws : Point → Bool
  | .withdrawTx _ _ => true
  | _ => false

def Point.passings (p : Point) (s s' : Db) : List Passing :=
  (Table.newRows s.homeworkSubmission s'.homeworkSubmission).map .created ++
    (Table.newRows s'.homeworkSubmission s.homeworkSubmission).map
      (if p.withdraws then .withdrawn else .erased)

def passings (c : Config Db Point) : Move Request World → List Passing
  | .advance id w =>
      (c.calls.lookup id).elim [] fun p =>
        (next id c.shared p w).elim [] fun r => p.passings c.shared r.1
  | _ => []

def history (moves : List (Move Request World)) : List Passing :=
  machine.observe passings start moves

def created (p : Credit → Bool) (l : List Passing) : ℕ :=
  l.countP fun
    | .created row => p row.credit
    | _ => false

def withdrawn (p : Credit → Bool) (l : List Passing) : ℕ :=
  l.countP fun
    | .withdrawn row => p row.credit
    | _ => false

def erased (p : Credit → Bool) (l : List Passing) : ℕ :=
  l.countP fun
    | .erased row => p row.credit
    | _ => false

def standing (p : Credit → Bool) (l : List Passing) : ℤ := created p l - withdrawn p l

def Db.rowCount (s : Db) (p : Credit → Bool) : ℕ :=
  Table.count s.homeworkSubmission fun _ row => p row.credit

def Db.fileCount (s : Db) (submission : HomeworkSubmissionId) : ℕ :=
  Table.count s.homeworkFile fun _ file => decide (file.submission = submission)

/-! ## What a step does to the rows and the totals -/

/-- The rows keep their credit and their seats. -/
structure Rewrites (s s' : Db) : Prop where
  rows : ∀ id, (s'.homeworkSubmission.lookup id).map (fun row => (row.credit, row.fileCount)) =
    (s.homeworkSubmission.lookup id).map fun row => (row.credit, row.fileCount)
  counts : ∀ p, s'.rowCount p = s.rowCount p
  files : s'.homeworkFile = s.homeworkFile
  tally : s'.tally = s.tally
  accounts : ∀ user, s.account user = true → s'.account user = true

inductive Booked (s : Db) (p : Point) : Db → Prop
  | kept {s' : Db} (h : Rewrites s s') : Booked s p s'
  | opened {user : UserId} {exams : Exams.Db} (hfresh : s.account user = false)
      (haccounts : ∀ user, s.account user = true → (exams.appUser.lookup user).isSome = true) :
      Booked s p { s with exams := exams, tally := s.tally.insert user ⟨0, 0⟩ }
  | handedIn {submission : HomeworkSubmission} {counted : Bool}
      (hfresh : s.homeworkSubmission.lookup submission.id = none)
      (haccount : s.account submission.user = true) (hp : p.withdraws = false) :
      Booked s p (s.createSubmission submission counted)
  | withdrawn {row : SubmissionRow} {due : Option Timestamp} (hp : p.withdraws = true)
      (hrow : s.homeworkSubmission.lookup row.submission.id = some row) :
      Booked s p (s.dropSubmission row due)
  | erased {homework : HomeworkId} {row : HomeworkRow} (hp : p.withdraws = false) :
      Booked s p (s.dropHomework homework row)
  | attached {file : HomeworkFile} {row : SubmissionRow}
      (hrow : s.homeworkSubmission.lookup file.submission = some row)
      (hroom : row.fileCount < maxHomeworkFilesPerSubmission)
      (hfresh : s.homeworkFile.lookup file.id = none) : Booked s p (s.attach file row)
  | detached {file stored : HomeworkFile} {row : SubmissionRow} {now : Timestamp}
      (hrow : s.homeworkSubmission.lookup file.submission = some row)
      (hstored : s.homeworkFile.lookup file.id = some stored)
      (hsame : stored.submission = file.submission) : Booked s p (s.detach file row now)

theorem Rewrites.refl (s : Db) : Rewrites s s where
  rows _ := rfl
  counts _ := rfl
  files := rfl
  tally := rfl
  accounts _ h := h

/-- A row is written back with its credit. -/
theorem rowCount_insert {s s' : Db} (hrow : s.homeworkSubmission.lookup id = some row)
    (hcredit : row'.credit = row.credit)
    (hrows : s'.homeworkSubmission = s.homeworkSubmission.insert id row') (p : Credit → Bool) :
    s'.rowCount p = s.rowCount p := by
  have hinsert := Table.count_insert s.homeworkSubmission id row' fun _ row => p row.credit
  unfold Db.rowCount
  rw [hrows]
  simp only [hrow, Option.any_some, hcredit] at hinsert
  omega

theorem rewrites_putSubmission {s : Db} {text : Option String} {preserveText : Bool}
    {now : Timestamp} (hrow : s.homeworkSubmission.lookup row.submission.id = some row) :
    Rewrites s (s.putSubmission (row.resubmit text preserveText now)) where
  rows := by
    intro id
    simp only [Db.putSubmission, lookup_insert_eq]
    split
    · next heq =>
      have hid : id = row.submission.id := heq
      rw [hid, hrow]
      rfl
    · rfl
  counts := by
    have hcredit : (row.resubmit text preserveText now).credit = row.credit := rfl
    exact rowCount_insert hrow hcredit rfl
  files := rfl
  tally := rfl
  accounts _ h := h

theorem map_kept {f : SubmissionRow → SubmissionRow}
    (hf : ∀ row, (f row).credit = row.credit ∧ (f row).fileCount = row.fileCount)
    (row : Option SubmissionRow) :
    (row.map f).map (fun row => (row.credit, row.fileCount)) =
      row.map fun row => (row.credit, row.fileCount) := by
  cases row with
  | none => rfl
  | some row => simp [hf row]

theorem account_moveGiven (s : Db) (grader : UserId) (g : ℤ → ℤ) (user : UserId) :
    (s.moveGiven grader g).account user = s.account user := by
  unfold Db.account
  rw [lookup_moveGiven]
  cases s.exams.appUser.lookup user <;> rfl

theorem rewrites_touch (s : Db) (id : HomeworkSubmissionId) (now : Timestamp) :
    Rewrites s (s.touch id now) where
  rows := by
    intro key
    simp only [Db.touch, lookup_update]
    exact map_kept (fun row => by split <;> exact ⟨rfl, rfl⟩) _
  counts := by
    intro p
    simp only [Db.rowCount, Db.touch, Table.count_update]
    exact Table.count_congr fun key row _ => by split <;> rfl
  files := rfl
  tally := rfl
  accounts _ h := h

theorem rewrites_putResult (s : Db) (graded : HomeworkResult) :
    Rewrites s (s.putResult graded) where
  rows := by
    intro key
    simp only [Db.putResult, Db.stamp, lookup_update]
    exact map_kept (fun row => by split <;> exact ⟨rfl, rfl⟩) _
  counts := by
    intro p
    simp only [Db.rowCount, Db.putResult, Db.stamp, Table.count_update]
    exact Table.count_congr fun key row _ => by split <;> rfl
  files := rfl
  tally := rfl
  accounts _ h := h

theorem rewrites_unstamp (s : Db) (homework : HomeworkId) (user : UserId) :
    Rewrites s (s.unstamp homework user) where
  rows := by
    intro key
    simp only [Db.unstamp, lookup_update]
    exact map_kept (fun row => by split <;> exact ⟨rfl, rfl⟩) _
  counts := by
    intro p
    simp only [Db.rowCount, Db.unstamp, Table.count_update]
    exact Table.count_congr fun key row _ => by split <;> rfl
  files := rfl
  tally := rfl
  accounts _ h := h

/-- The credit of a grader is no credit of a hand-in. -/
theorem Rewrites.moveGiven {s s' : Db} (h : Rewrites s s') (grader : UserId) (g : ℤ → ℤ) :
    Rewrites s (s'.moveGiven grader g) where
  rows := h.rows
  counts := h.counts
  files := h.files
  tally := h.tally
  accounts := by
    intro user haccount
    rw [account_moveGiven]
    exact h.accounts user haccount

theorem rewrites_grade (s : Db) (id : HomeworkResultId) (homework : HomeworkId) (user : UserId)
    (verdict : Verdict) (now : Timestamp) :
    Rewrites s (txWithRetry (gradeTx id homework user verdict now) s).2 := by
  obtain ⟨-, hstore⟩ | ⟨-, graded, -, -, -, hstore⟩ :=
    gradeTx_store s id homework user verdict now
  · rw [hstore]
    exact .refl s
  · rw [hstore]
    split
    · exact rewrites_putResult s graded
    · exact (rewrites_putResult s graded).moveGiven _ _

theorem rewrites_remove {s s' : Db} {gone : Option HomeworkResult}
    (h : removeTx homework user s = .ok (gone, s')) :
    Rewrites s s' := by
  unfold removeTx at h
  split at h
  · cases h
    exact .refl s
  · split at h
    · cases h
      exact rewrites_unstamp s homework user
    · next removed _ =>
      cases h
      have hopened := rewrites_unstamp s homework user
      have hdropped : Rewrites s (s.dropResult homework user) :=
        ⟨hopened.rows, hopened.counts, hopened.files, hopened.tally, hopened.accounts⟩
      exact hdropped.moveGiven _ _

theorem insertFile_room (file : HomeworkFile) (s : Db) :
    (insertFile file s).2 = s ∨
    ∃ row, s.homeworkSubmission.lookup file.submission = some row ∧
      row.fileCount < maxHomeworkFilesPerSubmission ∧ s.homeworkFile.lookup file.id = none ∧
      (insertFile file s).2 = s.attach file row := by
  unfold insertFile
  split
  · exact .inl rfl
  next row hrow =>
    split
    · next hseat =>
      split
      · exact .inl rfl
      · next hfresh => exact .inr ⟨row, hrow, hseat.1, by simpa using hfresh, rfl⟩
    · exact .inl rfl

theorem booked_upsert {s s' : Db} {w : World} {p : Point} {text : Option String}
    {preserveText : Bool} {reply : Option (HomeworkSubmission × Bool) → Reply} {n : Reply}
    (hkeyed : s.Keyed) (hp : p.withdraws = false)
    (h : settle reply (txWithRetry (upsertTx homework user text preserveText ⟨w.uuid⟩ w.now) s) =
      (s', n)) : Booked s p s' := by
  obtain rfl | ⟨landed, hok⟩ := settle_cases h
  · exact .kept (.refl _)
  · obtain rfl | ⟨existing, -, hexisting, -, rfl⟩ | ⟨counted, hlands, rfl⟩ := upsertTx_ok hok
    · exact .kept (.refl _)
    · exact .kept (rewrites_putSubmission (Db.submissionFor_some hkeyed hexisting).1)
    · simp only [Db.handsIn, Bool.and_eq_true, Option.isNone_iff_eq_none] at hlands
      exact .handedIn hlands.2 hlands.1.2 hp

theorem next_booked {id : ℕ} {s s' : Db} {p : Point} {w : World} {n : Reply}
    (hkeyed : s.Keyed) (h : next id s p w = some (s', n)) : Booked s p s' := by
  cases p with
  | createUser =>
      simp only [next, createUser, Option.some.injEq] at h
      split at h
      · cases h
        exact .kept (.refl _)
      · next hfresh =>
        cases h
        refine .opened (Bool.eq_false_iff.mpr hfresh) fun other hother => ?_
        rw [lookup_insert_eq]
        split
        · rfl
        · exact hother
  | createSubject =>
      simp only [next, createSubject, Option.some.injEq] at h
      split at h
      · cases h
        exact .kept (.refl _)
      · cases h
        exact .kept ⟨fun _ => rfl, fun _ => rfl, rfl, rfl, fun _ h => h⟩
  | create =>
      simp only [next, create, Option.some.injEq] at h
      split at h
      · cases h
        exact .kept (.refl _)
      · obtain rfl | ⟨created, hok⟩ := settle_cases h
        · exact .kept (.refl _)
        · obtain ⟨-, counts, rfl⟩ := createTx_ok hok
          exact .kept ⟨fun _ => rfl, fun _ => rfl, rfl, rfl, fun _ h => h⟩
  | patchTx read patch =>
      simp only [next, Option.some.injEq] at h
      obtain rfl | ⟨updated, hok⟩ := settle_cases h
      · exact .kept (.refl _)
      · obtain ⟨row, counts, -, -, rfl⟩ := updateTx_ok hok
        have hsame : Rewrites s (s.patched read.id row patch counts) := by
          unfold Db.patched
          cases patch.assigned <;> exact ⟨fun _ => rfl, fun _ => rfl, rfl, rfl, fun _ h => h⟩
        exact .kept hsame
  | deleteTx =>
      simp only [next, Option.some.injEq] at h
      obtain rfl | ⟨u, hok⟩ := settle_cases h
      · exact .kept (.refl _)
      · obtain ⟨row, -, rfl⟩ := deleteTx_ok hok
        exact .erased rfl
  | submitTx | attachTx =>
      simp only [next, Option.some.injEq] at h
      exact booked_upsert hkeyed rfl h
  | withdrawTx submission =>
      simp only [next, Option.some.injEq] at h
      obtain rfl | ⟨gone, hok⟩ := settle_cases h
      · exact .kept (.refl _)
      · obtain rfl | ⟨row, due, hrow, -, rfl⟩ := withdrawTx_ok hok
        · exact .kept (.refl _)
        · refine .withdrawn rfl ?_
          rw [hkeyed submission.id row hrow]
          exact hrow
  | fileInsert submission upload =>
      simp only [next, fileInsert, Option.some.injEq] at h
      have hstore := congrArg Prod.fst h
      rw [settle_store] at hstore
      dsimp only at hstore
      rw [← hstore]
      obtain heq | ⟨row, hrow, hroom, hfresh, heq⟩ :=
        insertFile_room (upload.file submission w) s
      · rw [heq]
        exact .kept (.refl _)
      · rw [heq]
        exact .attached hrow hroom hfresh
  | fileTouch file =>
      simp only [next, fileTouch, Option.some.injEq] at h
      split at h
      · cases h
        exact .kept (rewrites_touch s file.submission w.now)
      · cases h
        exact .kept (.refl _)
  | fileTx =>
      simp only [next, Option.some.injEq] at h
      obtain rfl | ⟨gone, hok⟩ := settle_cases h
      · exact .kept (.refl _)
      · obtain rfl | ⟨row, stored, hrow, -, hstored, hsame, rfl⟩ := deleteFileTx_ok hok
        · exact .kept (.refl _)
        · exact .detached hrow hstored hsame
  | gradeTx homework target verdict =>
      simp only [next, Option.some.injEq] at h
      have hstore := congrArg Prod.fst h
      rw [settle_store] at hstore
      dsimp only at hstore
      rw [← hstore]
      exact .kept (rewrites_grade s ⟨w.uuid⟩ homework target verdict w.now)
  | ungradeTx =>
      simp only [next, Option.some.injEq] at h
      obtain rfl | ⟨gone, hok⟩ := settle_cases h
      · exact .kept (.refl _)
      · exact .kept (rewrites_remove hok)
  | _ =>
      simp only [next, Option.some.injEq, Prod.mk.injEq] at h
      rw [← h.1]
      exact .kept (.refl _)

/-! ## The books -/

/-- The rows, the totals and the seats agree with the history `l`. -/
structure Inv (s : Db) (l : List Passing) : Prop where
  rows : ∀ p, (s.rowCount p : ℤ) = standing p l - erased p l
  totals : ∀ user tally, s.tally.lookup user = some tally →
    tally.homeworkSubmittedTotal = standing (mine user) l ∧
      tally.homeworkOnTimeTotal = standing (mineOnTime user) l
  stored : ∀ id row, s.homeworkSubmission.lookup id = some row → row.countedOnTime.isSome = true
  people : ∀ id row, s.homeworkSubmission.lookup id = some row →
    s.account row.submission.user = true
  /-- Nobody hands in before the account is there. -/
  nobody : ∀ user, s.account user = false →
    standing (mine user) l = 0 ∧ standing (mineOnTime user) l = 0
  seats : ∀ id row, s.homeworkSubmission.lookup id = some row →
    row.fileCount = s.fileCount id ∧ row.fileCount ≤ maxHomeworkFilesPerSubmission
  filed : ∀ id file, s.homeworkFile.lookup id = some file →
    (s.homeworkSubmission.lookup file.submission).isSome = true

section History

variable (p : Point) (s s' : Db) (q : Credit → Bool)

def Db.arrived : ℕ :=
  (Table.newRows s.homeworkSubmission s'.homeworkSubmission).countP fun row => q row.credit

theorem created_passings : created q (p.passings s s') = s.arrived s' q := by
  unfold created Point.passings Db.arrived
  cases p.withdraws <;> simp [List.countP_append, List.countP_map, Function.comp_def]

theorem withdrawn_passings :
    withdrawn q (p.passings s s') = if p.withdraws then s'.arrived s q else 0 := by
  unfold withdrawn Point.passings Db.arrived
  cases p.withdraws <;> simp [List.countP_append, List.countP_map, Function.comp_def]

theorem erased_passings :
    erased q (p.passings s s') = if p.withdraws then 0 else s'.arrived s q := by
  unfold erased Point.passings Db.arrived
  cases p.withdraws <;> simp [List.countP_append, List.countP_map, Function.comp_def]

theorem standing_append (l l' : List Passing) :
    standing q (l ++ l') = standing q l + standing q l' := by
  unfold standing created withdrawn
  rw [List.countP_append, List.countP_append]
  push_cast
  omega

theorem erased_append (l l' : List Passing) :
    erased q (l ++ l') = erased q l + erased q l' := by
  unfold erased
  rw [List.countP_append]

end History

theorem arrived_zero {s s' : Db}
    (h : ∀ id, s.homeworkSubmission.lookup id = none → s'.homeworkSubmission.lookup id = none)
    (q : Credit → Bool) : s.arrived s' q = 0 := by
  unfold Db.arrived
  rw [Table.newRows_eq_nil h]
  rfl

theorem passings_same {s s' : Db} (p : Point)
    (h : ∀ id, s'.homeworkSubmission.lookup id = none ↔ s.homeworkSubmission.lookup id = none) :
    p.passings s s' = [] := by
  unfold Point.passings
  rw [Table.newRows_eq_nil fun id hnone => (h id).mpr hnone,
    Table.newRows_eq_nil fun id hnone => (h id).mp hnone]
  rfl

theorem Rewrites.lookup {s s' : Db} (h : Rewrites s s')
    (hrow' : s'.homeworkSubmission.lookup id = some row') :
    ∃ row, s.homeworkSubmission.lookup id = some row ∧ row'.credit = row.credit ∧
      row'.fileCount = row.fileCount := by
  have hsame := h.rows id
  rw [hrow'] at hsame
  cases hrow : s.homeworkSubmission.lookup id with
  | none =>
      rw [hrow] at hsame
      cases hsame
  | some row =>
      rw [hrow] at hsame
      simp only [Option.map_some, Option.some.injEq, Prod.mk.injEq] at hsame
      exact ⟨row, rfl, hsame.1, hsame.2⟩

theorem Rewrites.none_iff {s s' : Db} (h : Rewrites s s') (id : HomeworkSubmissionId) :
    s'.homeworkSubmission.lookup id = none ↔ s.homeworkSubmission.lookup id = none := by
  have hsame := h.rows id
  constructor
  · intro hnone
    rw [hnone, Option.map_none] at hsame
    exact Option.map_eq_none_iff.mp hsame.symm
  · intro hnone
    rw [hnone, Option.map_none] at hsame
    exact Option.map_eq_none_iff.mp hsame

theorem credit_eq (h : row'.credit = row.credit) :
    row'.submission.user = row.submission.user ∧ row'.countedOnTime = row.countedOnTime := by
  unfold SubmissionRow.credit at h
  rw [Prod.mk.injEq] at h
  exact h

theorem Inv.kept {s s' : Db} (hinv : Inv s l) (h : Rewrites s s') :
    Inv s' l where
  rows := by
    intro p
    rw [h.counts]
    exact hinv.rows p
  totals := by
    rw [h.tally]
    exact hinv.totals
  stored := by
    intro id row' hrow'
    obtain ⟨row, hrow, hcredit, -⟩ := h.lookup hrow'
    rw [(credit_eq hcredit).2]
    exact hinv.stored id row hrow
  people := by
    intro id row' hrow'
    obtain ⟨row, hrow, hcredit, -⟩ := h.lookup hrow'
    rw [(credit_eq hcredit).1]
    exact h.accounts _ (hinv.people id row hrow)
  nobody := by
    intro user hnone
    apply hinv.nobody
    rw [Bool.eq_false_iff] at hnone ⊢
    exact fun haccount => hnone (h.accounts user haccount)
  seats := by
    intro id row' hrow'
    obtain ⟨row, hrow, -, hseats⟩ := h.lookup hrow'
    unfold Db.fileCount
    rw [hseats, h.files]
    exact hinv.seats id row hrow
  filed := by
    rw [h.files]
    intro id file hfile
    have hfiled := hinv.filed id file hfile
    rw [Option.isSome_iff_ne_none] at hfiled ⊢
    exact fun hnone => hfiled ((h.none_iff _).mp hnone)

theorem Inv.opened {s : Db} (hinv : Inv s l) {exams : Exams.Db} (hfresh : s.account user = false)
    (haccounts : ∀ user, s.account user = true → (exams.appUser.lookup user).isSome = true) :
    Inv { s with exams := exams, tally := s.tally.insert user ⟨0, 0⟩ } l where
  rows := hinv.rows
  totals := by
    intro other tally hlookup
    obtain ⟨heq, rfl⟩ | ⟨-, hlookup⟩ := insert_cases hlookup
    · have hzero := hinv.nobody user hfresh
      rw [heq, hzero.1, hzero.2]
      exact ⟨rfl, rfl⟩
    · exact hinv.totals other tally hlookup
  stored := hinv.stored
  people := fun id row hrow => haccounts _ (hinv.people id row hrow)
  nobody := by
    intro other hnone
    apply hinv.nobody
    rw [Bool.eq_false_iff] at hnone ⊢
    exact fun haccount => hnone (haccounts other haccount)
  seats := hinv.seats
  filed := hinv.filed

theorem lookup_insert_none {s : Db} {key : HomeworkSubmissionId}
    (hrow : s.homeworkSubmission.lookup id = some row) :
    (s.homeworkSubmission.insert id row').lookup key = none ↔
      s.homeworkSubmission.lookup key = none := by
  rw [lookup_insert_eq]
  split
  · next heq =>
    rw [heq, hrow]
    exact ⟨nofun, nofun⟩
  · exact Iff.rfl

theorem lookup_updateTally {s : Db} {other : UserId} {f : Tally → Tally} {tally : Tally}
    (h : (updateTally s.tally user f).lookup other = some tally) :
    ∃ before, s.tally.lookup other = some before ∧
      tally = if other = user then f before else before := by
  unfold updateTally at h
  obtain ⟨before, hbefore, rfl⟩ := Table.update_cases h
  exact ⟨before, hbefore, rfl⟩

theorem Inv.handedIn {s : Db} (hinv : Inv s l) {p : Point} {submission : HomeworkSubmission}
    {counted : Bool} (hfresh : s.homeworkSubmission.lookup submission.id = none)
    (haccount : s.account submission.user = true) (hp : p.withdraws = false) :
    Inv (s.createSubmission submission counted)
      (l ++ p.passings s (s.createSubmission submission counted)) := by
  have harrived : ∀ q, s.arrived (s.createSubmission submission counted) q =
      if q (submission.user, some counted) then 1 else 0 := fun q =>
    Table.countP_newRows_insert hfresh _ fun row => q row.credit
  have hleft : ∀ q, (s.createSubmission submission counted).arrived s q = 0 := by
    apply arrived_zero
    intro id hnone
    simp only [Db.createSubmission, lookup_insert_eq] at hnone
    split at hnone
    · cases hnone
    · exact hnone
  have hstanding : ∀ q, standing q (l ++ p.passings s (s.createSubmission submission counted)) =
      standing q l + if q (submission.user, some counted) then 1 else 0 := by
    intro q
    rw [standing_append]
    unfold standing
    rw [created_passings, withdrawn_passings, harrived, hp]
    push_cast
    simp
  have herased : ∀ q, erased q (l ++ p.passings s (s.createSubmission submission counted)) =
      erased q l := by
    intro q
    rw [erased_append, erased_passings, hleft]
    simp
  constructor
  · intro q
    have hinsert := Table.count_insert s.homeworkSubmission submission.id
      ⟨submission, 0, some counted, none⟩ fun _ row => q row.credit
    have hcount : (s.createSubmission submission counted).rowCount q =
        (if q (submission.user, some counted) then 1 else 0) + s.rowCount q := by
      rw [hfresh] at hinsert
      exact hinsert
    have hold := hinv.rows q
    rw [hstanding, herased, hcount]
    push_cast
    omega
  · intro user tally hlookup
    obtain ⟨before, hbefore, rfl⟩ := lookup_updateTally hlookup
    have hold := hinv.totals user before hbefore
    rw [hstanding, hstanding]
    by_cases huser : user = submission.user
    · subst huser
      cases counted <;> simp [creditSubmission, mine, mineOnTime, hold]
    · simp [huser, Ne.symm huser, mine, mineOnTime, hold]
  · intro id row hrow
    simp only [Db.createSubmission, lookup_insert_eq] at hrow
    split at hrow
    · cases hrow
      rfl
    · exact hinv.stored id row hrow
  · intro id row hrow
    simp only [Db.createSubmission, lookup_insert_eq] at hrow
    split at hrow
    · cases hrow
      exact haccount
    · exact hinv.people id row hrow
  · intro user hnone
    have hne : submission.user ≠ user := by
      intro heq
      have hthere : s.account user = false := hnone
      rw [← heq, haccount] at hthere
      cases hthere
    have hold := hinv.nobody user hnone
    rw [hstanding, hstanding]
    simp [mine, mineOnTime, hne, hold]
  · intro id row hrow
    simp only [Db.createSubmission, lookup_insert_eq] at hrow
    split at hrow
    · next heq =>
      cases hrow
      have hnone : s.fileCount id = 0 := by
        unfold Db.fileCount
        rw [Table.count_eq_zero_iff]
        intro key file hfile
        have hfiled := hinv.filed key file hfile
        rw [decide_eq_false_iff_not]
        intro hsame
        rw [hsame, heq, hfresh] at hfiled
        cases hfiled
      have hfiles : (s.createSubmission submission counted).fileCount id = s.fileCount id := rfl
      rw [hfiles, hnone]
      exact ⟨rfl, (by decide : (0 : ℤ) ≤ maxHomeworkFilesPerSubmission)⟩
    · exact hinv.seats id row hrow
  · intro id file hfile
    have hfiled := hinv.filed id file hfile
    simp only [Db.createSubmission, lookup_insert_eq]
    split
    · rfl
    · exact hfiled

theorem standing_eq_rowCount {s : Db} (hinv : Inv s l) (q : Credit → Bool) :
    standing q l = s.rowCount q + erased q l := by
  have hrows := hinv.rows q
  omega

/-- A row that is there has been credited. -/
theorem Inv.one_le {s : Db} (hinv : Inv s l) (hrow : s.homeworkSubmission.lookup id = some row)
    {q : Credit → Bool} (hq : q row.credit = true) : 1 ≤ standing q l := by
  have hcount : s.rowCount q ≠ 0 := by
    unfold Db.rowCount
    rw [ne_eq, Table.count_eq_zero_iff]
    intro hnone
    rw [hnone id row hrow] at hq
    cases hq
  rw [standing_eq_rowCount hinv]
  omega

theorem Inv.withdrawn {s : Db} (hinv : Inv s l) {p : Point} {due : Option Timestamp}
    (hp : p.withdraws = true) (hrow : s.homeworkSubmission.lookup row.submission.id = some row) :
    Inv (s.dropSubmission row due) (l ++ p.passings s (s.dropSubmission row due)) := by
  obtain ⟨counted, hcounted⟩ := Option.isSome_iff_exists.mp (hinv.stored _ row hrow)
  have hleft : ∀ q, (s.dropSubmission row due).arrived s q = if q row.credit then 1 else 0 :=
    fun q => Table.countP_newRows_erase hrow fun row => q row.credit
  have harrived : ∀ q, s.arrived (s.dropSubmission row due) q = 0 := by
    apply arrived_zero
    intro id hnone
    simp only [Db.dropSubmission, lookup_erase_eq, hnone, ite_self]
  have hstanding : ∀ q, standing q (l ++ p.passings s (s.dropSubmission row due)) =
      standing q l - if q row.credit then 1 else 0 := by
    intro q
    rw [standing_append]
    unfold standing
    rw [created_passings, withdrawn_passings, harrived, hleft, hp]
    push_cast
    simp only [if_true]
    omega
  have herased : ∀ q, erased q (l ++ p.passings s (s.dropSubmission row due)) = erased q l := by
    intro q
    rw [erased_append, erased_passings, hp]
    rfl
  constructor
  · intro q
    have herase := Table.count_erase s.homeworkSubmission row.submission.id
      fun _ row => q row.credit
    have hcount : (s.dropSubmission row due).rowCount q + (if q row.credit then 1 else 0) =
        s.rowCount q := by
      rw [hrow] at herase
      exact herase
    have hold := hinv.rows q
    rw [hstanding, herased]
    rw [← hcount] at hold
    push_cast at hold
    omega
  · intro user tally hlookup
    obtain ⟨before, hbefore, rfl⟩ := lookup_updateTally hlookup
    have hold := hinv.totals user before hbefore
    rw [hstanding, hstanding]
    by_cases huser : user = row.submission.user
    · -- the clamps do not bite: the row that goes was counted
      have hsubmitted : 1 ≤ standing (mine user) l :=
        hinv.one_le hrow (by simp [mine, SubmissionRow.credit, huser])
      have honTime : counted = true → 1 ≤ standing (mineOnTime user) l := by
        intro htrue
        exact hinv.one_le hrow
          (by simp [mineOnTime, SubmissionRow.credit, huser, hcounted, htrue])
      have hnonneg : 0 ≤ standing (mineOnTime user) l := by
        rw [standing_eq_rowCount hinv]
        omega
      simp only [huser, if_true, hcounted, Option.getD_some, debitSubmission]
      simp only [SubmissionRow.credit, mine, mineOnTime, hcounted, decide_true, if_true,
        Option.some.injEq, Bool.true_and, decide_eq_true_eq]
      rw [huser] at hold hsubmitted honTime hnonneg
      cases counted <;> simp only [Bool.false_eq_true, if_false, if_true,
        true_implies] at honTime ⊢ <;>
        omega
    · simp [huser, Ne.symm huser, mine, mineOnTime, SubmissionRow.credit, hold]
  · intro id kept hkept
    simp only [Db.dropSubmission, lookup_erase_eq] at hkept
    split at hkept
    · cases hkept
    · exact hinv.stored id kept hkept
  · intro id kept hkept
    simp only [Db.dropSubmission, lookup_erase_eq] at hkept
    split at hkept
    · cases hkept
    · exact hinv.people id kept hkept
  · intro user hnone
    have hne : row.submission.user ≠ user := by
      intro heq
      have hthere : s.account user = false := hnone
      rw [← heq, hinv.people _ row hrow] at hthere
      cases hthere
    have hold := hinv.nobody user hnone
    rw [hstanding, hstanding]
    simp [mine, mineOnTime, SubmissionRow.credit, hne, hold]
  · intro id kept hkept
    simp only [Db.dropSubmission, lookup_erase_eq] at hkept
    split at hkept
    · cases hkept
    · next hother =>
      have hfiles : (s.dropSubmission row due).fileCount id = s.fileCount id := by
        unfold Db.fileCount Db.dropSubmission
        rw [Table.count_deleteWhere]
        apply Table.count_congr
        intro key file _
        by_cases hfile : file.submission = id
        · simp [hfile, hother]
        · simp [hfile]
      rw [hfiles]
      exact hinv.seats id kept hkept
  · intro id file hfile
    simp only [Db.dropSubmission, lookup_deleteWhere, Option.filter_eq_some_iff] at hfile
    have hother : file.submission ≠ row.submission.id := by simpa using hfile.2
    simp only [Db.dropSubmission, lookup_erase_eq, hother, if_false]
    exact hinv.filed id file hfile.1

theorem Inv.dropped {s : Db} (hinv : Inv s l) {p : Point} {gone : HomeworkRow}
    (hp : p.withdraws = false) :
    Inv (s.dropHomework homework gone) (l ++ p.passings s (s.dropHomework homework gone)) := by
  have hkept : ∀ {id : HomeworkSubmissionId} {row : SubmissionRow},
      (s.dropHomework homework gone).homeworkSubmission.lookup id = some row →
      s.homeworkSubmission.lookup id = some row ∧ row.submission.homework ≠ homework := by
    intro id row hrow
    simp only [Db.dropHomework, lookup_deleteWhere, Option.filter_eq_some_iff] at hrow
    simpa using hrow
  have harrived : ∀ q, s.arrived (s.dropHomework homework gone) q = 0 := by
    apply arrived_zero
    intro id hnone
    simp only [Db.dropHomework, lookup_deleteWhere, hnone, Option.filter_none]
  have hstanding : ∀ q, standing q (l ++ p.passings s (s.dropHomework homework gone)) =
      standing q l := by
    intro q
    rw [standing_append]
    unfold standing
    rw [created_passings, withdrawn_passings, harrived, hp]
    simp
  have herased : ∀ q, (erased q (l ++ p.passings s (s.dropHomework homework gone)) : ℤ) =
      erased q l + (s.dropHomework homework gone).arrived s q := by
    intro q
    rw [erased_append, erased_passings, hp]
    simp
  constructor
  · intro q
    have hcount := Table.count_deleteWhere_add s.homeworkSubmission
      (fun _ row => decide (row.submission.homework = homework)) fun _ row => q row.credit
    have hleft : (s.dropHomework homework gone).arrived s q =
        Table.count s.homeworkSubmission fun _ row =>
          decide (row.submission.homework = homework) && q row.credit :=
      Table.countP_newRows_deleteWhere s.homeworkSubmission _ _
    have hrest : (s.dropHomework homework gone).rowCount q +
        (s.dropHomework homework gone).arrived s q = s.rowCount q := by
      rw [hleft]
      exact hcount
    have hold := hinv.rows q
    rw [hstanding, herased]
    omega
  · intro user tally hlookup
    rw [hstanding, hstanding]
    exact hinv.totals user tally hlookup
  · intro id row hrow
    exact hinv.stored id row (hkept hrow).1
  · intro id row hrow
    exact hinv.people id row (hkept hrow).1
  · intro user hnone
    rw [hstanding, hstanding]
    exact hinv.nobody user hnone
  · intro id row hrow
    obtain ⟨hthere, hother⟩ := hkept hrow
    have hfiles : (s.dropHomework homework gone).fileCount id = s.fileCount id := by
      unfold Db.fileCount Db.dropHomework
      rw [Table.count_deleteWhere]
      apply Table.count_congr
      intro key file _
      by_cases hfile : file.submission = id
      · subst hfile
        simp [hthere, hother]
      · simp [hfile]
    rw [hfiles]
    exact hinv.seats id row hthere
  · intro id file hfile
    simp only [Db.dropHomework, lookup_deleteWhere, Option.filter_eq_some_iff] at hfile
    have hthere := hinv.filed id file hfile.1
    obtain ⟨row, hrow⟩ := Option.isSome_iff_exists.mp hthere
    simp only [Db.dropHomework, lookup_deleteWhere, hrow, Option.any_some] at hfile ⊢
    simpa [Option.filter] using hfile.2

theorem Inv.attached {s : Db} (hinv : Inv s l) {file : HomeworkFile}
    (hrow : s.homeworkSubmission.lookup file.submission = some row)
    (hroom : row.fileCount < maxHomeworkFilesPerSubmission)
    (hfresh : s.homeworkFile.lookup file.id = none) : Inv (s.attach file row) l where
  rows := by
    intro q
    have hcredit : ({ row with fileCount := row.fileCount + 1 } : SubmissionRow).credit =
        row.credit := rfl
    rw [rowCount_insert hrow hcredit rfl]
    exact hinv.rows q
  totals := hinv.totals
  stored := by
    intro id kept hkept
    simp only [Db.attach, lookup_insert_eq] at hkept
    split at hkept
    · cases hkept
      exact hinv.stored _ row hrow
    · exact hinv.stored id kept hkept
  people := by
    intro id kept hkept
    simp only [Db.attach, lookup_insert_eq] at hkept
    split at hkept
    · cases hkept
      exact hinv.people _ row hrow
    · exact hinv.people id kept hkept
  nobody := hinv.nobody
  seats := by
    intro id kept hkept
    have hinsert := Table.count_insert s.homeworkFile file.id file
      fun _ file => decide (file.submission = id)
    have hfiles : (s.attach file row).fileCount id =
        (if file.submission = id then 1 else 0) + s.fileCount id := by
      rw [hfresh] at hinsert
      simp only [decide_eq_true_eq] at hinsert
      exact hinsert
    rw [hfiles]
    simp only [Db.attach, lookup_insert_eq] at hkept
    split at hkept
    · next heq =>
      cases hkept
      have hold := hinv.seats _ row hrow
      rw [heq, if_pos rfl]
      push_cast
      constructor <;> omega
    · next hother =>
      rw [if_neg (Ne.symm hother), zero_add]
      exact hinv.seats id kept hkept
  filed := by
    intro id kept hkept
    simp only [Db.attach, lookup_insert_eq] at hkept ⊢
    split
    · rfl
    · next hother =>
      split at hkept
      · cases hkept
        exact absurd rfl hother
      · exact hinv.filed id kept hkept

theorem Inv.detached {s : Db} (hinv : Inv s l) {file stored : HomeworkFile} {now : Timestamp}
    (hrow : s.homeworkSubmission.lookup file.submission = some row)
    (hstored : s.homeworkFile.lookup file.id = some stored)
    (hsame : stored.submission = file.submission) : Inv (s.detach file row now) l where
  rows := by
    intro q
    have hcredit : ({ row with
        submission := { row.submission with updatedAt := now }
        fileCount := max (row.fileCount - 1) 0 } : SubmissionRow).credit = row.credit := rfl
    rw [rowCount_insert hrow hcredit rfl]
    exact hinv.rows q
  totals := hinv.totals
  stored := by
    intro id kept hkept
    simp only [Db.detach, lookup_insert_eq] at hkept
    split at hkept
    · cases hkept
      exact hinv.stored _ row hrow
    · exact hinv.stored id kept hkept
  people := by
    intro id kept hkept
    simp only [Db.detach, lookup_insert_eq] at hkept
    split at hkept
    · cases hkept
      exact hinv.people _ row hrow
    · exact hinv.people id kept hkept
  nobody := hinv.nobody
  seats := by
    intro id kept hkept
    have herase := Table.count_erase s.homeworkFile file.id
      fun _ file => decide (file.submission = id)
    have hfiles : (s.detach file row now).fileCount id +
        (if file.submission = id then 1 else 0) = s.fileCount id := by
      simp only [hstored, Option.any_some, hsame, decide_eq_true_eq] at herase
      exact herase
    simp only [Db.detach, lookup_insert_eq] at hkept
    split at hkept
    · next heq =>
      cases hkept
      have hold := hinv.seats _ row hrow
      rw [if_pos heq.symm] at hfiles
      rw [← heq] at hold
      dsimp only
      omega
    · next hother =>
      rw [if_neg (Ne.symm hother), add_zero] at hfiles
      rw [hfiles]
      exact hinv.seats id kept hkept
  filed := by
    intro id kept hkept
    simp only [Db.detach, lookup_erase_eq, lookup_insert_eq] at hkept ⊢
    split
    · rfl
    · split at hkept
      · cases hkept
      · exact hinv.filed id kept hkept

theorem Inv.booked {s s' : Db} {p : Point} (hinv : Inv s l) (h : Booked s p s') :
    Inv s' (l ++ p.passings s s') := by
  cases h with
  | kept h =>
      rw [passings_same p h.none_iff, List.append_nil]
      exact hinv.kept h
  | @opened user exams hfresh haccounts =>
      have hsame : p.passings s
          { s with exams := exams, tally := s.tally.insert user ⟨0, 0⟩ } = [] :=
        passings_same p fun id => Iff.rfl
      rw [hsame, List.append_nil]
      exact hinv.opened hfresh haccounts
  | handedIn hfresh haccount hp => exact hinv.handedIn hfresh haccount hp
  | withdrawn hp hrow => exact hinv.withdrawn hp hrow
  | erased hp => exact hinv.dropped hp
  | @attached file row hrow hroom hfresh =>
      have hsame : ∀ id, (s.attach file row).homeworkSubmission.lookup id = none ↔
          s.homeworkSubmission.lookup id = none := fun id => lookup_insert_none hrow
      rw [passings_same p hsame, List.append_nil]
      exact hinv.attached hrow hroom hfresh
  | @detached file stored row now hrow hstored hfor =>
      have hsame : ∀ id, (s.detach file row now).homeworkSubmission.lookup id = none ↔
          s.homeworkSubmission.lookup id = none := fun id => lookup_insert_none hrow
      rw [passings_same p hsame, List.append_nil]
      exact hinv.detached hrow hstored hfor

theorem empty_inv : Inv Db.empty [] where
  rows _ := rfl
  totals _ _ h := by cases h
  stored _ _ h := by cases h
  people _ _ h := by cases h
  nobody _ _ := ⟨rfl, rfl⟩
  seats _ _ h := by cases h
  filed _ _ h := by cases h

theorem inv_step {c d : Config Db Point} {m : Move Request World} (hs : c.shared.Stamps)
    (hinv : Inv c.shared l) (hstep : machine.step c m = some d) :
    Inv d.shared (l ++ passings c m) := by
  obtain ⟨request, rfl, rfl⟩ | ⟨id, w, p, s, n, rfl, hp, hnext, rfl⟩ | ⟨id, p, rfl, hp, rfl⟩ :=
    Machine.step_cases hstep
  · simpa [passings] using hinv
  · have hmove : next id c.shared p w = some (s, n) := hnext
    have hbooked := hinv.booked (next_booked hs.keyed hmove)
    rw [Config.shared_after]
    simpa [passings, hp, hmove] using hbooked
  · have hback : Inv (machine.rollback id c.shared) l := hinv
    simpa [passings] using hback

theorem inv_run {moves : List (Move Request World)} {c : Config Db Point}
    (hrun : machine.run start moves = some c) : Inv c.shared (history moves) := by
  have hrules : c.shared.Stamps ∧ Inv c.shared ([] ++ machine.observe passings start moves) :=
    Machine.observe_induction (J := fun c l => c.shared.Stamps ∧ Inv c.shared l)
      (fun hc _ hstep => ⟨stamps_step hc.1 hstep, inv_step hc.1 hc.2 hstep⟩)
      ⟨empty_stamps, empty_inv⟩ (Machine.guarded_true _ moves) hrun
  exact hrules.2

/-- What holds of fewer credits stands fewer times. -/
theorem Inv.standing_mono {s : Db} (hinv : Inv s l) {q q' : Credit → Bool}
    (h : ∀ credit, q credit = true → q' credit = true) : standing q l ≤ standing q' l := by
  have hrows : s.rowCount q ≤ s.rowCount q' := by
    unfold Db.rowCount Table.count
    apply Table.sum_le_sum
    intro id row _
    by_cases hq : q row.credit = true
    · simp [hq, h _ hq]
    · simp [hq]
  have hgone : erased q l ≤ erased q' l := by
    apply List.countP_mono_left
    intro passing _ hq
    cases passing with
    | created | withdrawn => cases hq
    | erased => exact h _ hq
  rw [standing_eq_rowCount hinv, standing_eq_rowCount hinv]
  omega

theorem mine_of_onTime {credit : Credit} (h : mineOnTime user credit = true) :
    mine user credit = true := by
  unfold mineOnTime at h
  rw [Bool.and_eq_true] at h
  exact h.1

/-- On every run the two totals of a student are the hand-ins created and not withdrawn, by
their stored verdicts, and every submission has as many seats taken as it has files. -/
theorem counters_follow_hand_ins {moves : List (Move Request World)} {c : Config Db Point}
    (hrun : machine.run start moves = some c) :
    (∀ user tally, c.shared.tally.lookup user = some tally →
      tally.homeworkSubmittedTotal = standing (mine user) (history moves) ∧
      tally.homeworkOnTimeTotal = standing (mineOnTime user) (history moves) ∧
      tally.homeworkOnTimeTotal ≤ tally.homeworkSubmittedTotal) ∧
    ∀ id row, c.shared.homeworkSubmission.lookup id = some row →
      row.fileCount = c.shared.fileCount id ∧
        row.fileCount ≤ maxHomeworkFilesPerSubmission := by
  have hinv := inv_run hrun
  constructor
  · intro user tally hlookup
    obtain ⟨hsubmitted, honTime⟩ := hinv.totals user tally hlookup
    refine ⟨hsubmitted, honTime, ?_⟩
    rw [hsubmitted, honTime]
    exact hinv.standing_mono fun credit => mine_of_onTime
  · exact hinv.seats

/-- An essay handed in on time, withdrawn after its deadline was moved back, and handed in
again, late, by a photo. -/
def rehandedIn : List (Move Request World) :=
  Sample.opening ++
    [Sample.submitEssay, Sample.tick 5, Sample.tick 5, Sample.tick 5,
      .start (.update Sample.essay ⟨none, none, none, some (-1), none⟩), Sample.tick 6,
      Sample.tick 6,
      .start (.withdraw Sample.essay Sample.student), Sample.tick 7, Sample.tick 7,
      Sample.tick 7, Sample.tick 7, Sample.tick 7,
      .start (.upload Sample.essay Sample.student ⟨"p.jpg", "image/jpeg", 3⟩), Sample.tick 8,
      Sample.tick 8, Sample.tick 8, Sample.tick 8, Sample.tick 8, Sample.tick 8, Sample.tick 8]

theorem counters_follow_hand_ins_rehandedIn :
    ∃ c, machine.run start rehandedIn = some c ∧
      c.shared.tally.lookup Sample.student = some ⟨1, 0⟩ ∧
      standing (mine Sample.student) (history rehandedIn) = 1 ∧
      standing (mineOnTime Sample.student) (history rehandedIn) = 0 ∧
      ∀ id row, c.shared.homeworkSubmission.lookup id = some row →
        row.fileCount = c.shared.fileCount id := by
  have hends : (machine.run start rehandedIn).any (fun c =>
      decide (c.shared.tally.lookup Sample.student = some ⟨1, 0⟩)) = true := by
    decide
  obtain ⟨c, hrun, htally⟩ := (Option.any_eq_true _ _).mp hends
  have htally := of_decide_eq_true htally
  have hbooks := counters_follow_hand_ins hrun
  obtain ⟨hsubmitted, honTime, -⟩ := hbooks.1 _ _ htally
  exact ⟨c, hrun, htally, hsubmitted.symm, honTime.symm,
    fun id row hrow => (hbooks.2 id row hrow).1⟩

end Hezarfen.Homeworks
