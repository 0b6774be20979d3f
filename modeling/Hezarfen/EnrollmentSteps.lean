import Hezarfen.Enrollments

/-!
# What a statement does to a hand-placed row

A call that has deleted rows and not committed yet owes them to its kind: a leave deletes rows
that carry a source, an unenroll its own pair, a role change the rows of its account.  The
guard names the three places where a hand enroll is not what it says.
-/

namespace Hezarfen.Enrollments

open Interleaving ReadCommitted
open School (Enrollment)

/-- The row is there, and no section's. -/
def Db.placed (s : Db) (pair : Pair) : Prop :=
  ∃ row, (s.enrollment.row pair).committed = some row ∧ row.source = none

/-- A row that the call meets late is hand-placed already, a row that is to lose its source is
still there, and a leave deletes no row that has lost its source since it was listed. -/
def Db.settled (s : Db) : Point → Bool
  | .readHeld pair => (s.enrollment.row pair).committed.all fun row => row.source.isNone
  | .disown pair _ => (s.enrollment.row pair).committed.isSome
  | .deletePumped _ (pair :: _) =>
      (s.enrollment.row pair).committed.all fun row => row.source.isSome
  | _ => true

inductive Mark where
  | enrolled (pair : Pair)
  | unenrolled (pair : Pair)
  | changed (user : UserId)
  deriving DecidableEq

def Mark.enrolls : Mark → Bool
  | .enrolled _ => true
  | _ => false

def marksOf : Reply → List Mark
  | .answer (.ok (.enrollment pair _)) => [.enrolled pair]
  | .answer (.ok (.unenrolled pair)) => [.unenrolled pair]
  | .answer (.ok (.role user)) => [.changed user]
  | _ => []

/-! ## What a point holds -/

def Point.writes : Point → Bool
  | .returnSeat .. | .pumpGate .. | .pumpClaim .. | .pumpInsert .. | .pumpGiveBack ..
  | .deletePumped .. | .returnPumped .. | .deleteRows .. | .returnSeats .. => true
  | _ => false

def Point.Drops (k : Pair) (row : Enrollment) : Point → Prop
  | .returnSeat pair gone => gone = true ∧ k = pair
  | .deletePumped .. => row.source ≠ none
  | .returnPumped .. => row.source ≠ none
  | .deleteRows user _ _ => k.2 = user
  | .returnSeats user _ => k.2 = user
  | _ => False

def Point.Knows : Point → Prop
  | .deleteRows user rest _ => ∀ pair ∈ rest, pair.2 = user
  | _ => True

structure Point.Holds (tx : ℕ) (p : Point) (s : Db) : Prop where
  idle : p.writes = false → s.enrollment.Idle tx
  rows : ∀ k row, (s.enrollment.row k).committed = some row →
    (s.enrollment.row k).seen tx = some row ∨ p.Drops k row
  knows : p.Knows

structure Lands (tx : ℕ) (s s' : Db) (n : Reply) : Prop where
  apart : s.enrollment.Apart tx s'.enrollment
  goes : ∀ q, n = .goto q → q.Holds tx s'
  ends : ∀ a, n = .answer a → s'.enrollment.Idle tx
  keeps : ∀ k, s.placed k →
    s'.placed k ∨ .unenrolled k ∈ marksOf n ∨ .changed k.2 ∈ marksOf n
  stands : ∀ k, .enrolled k ∈ marksOf n → s'.placed k

section Steps

variable {s s' : Db} {tx : ℕ} {p q : Point} {n : Reply}

theorem holds_of_idle (h : s.enrollment.Idle tx) (hknows : q.Knows) : q.Holds tx s where
  idle _ := h
  rows k _ hrow := .inl ((Row.seen_eq_committed (h k)).trans hrow)
  knows := hknows

theorem notMem_of_silent (h : (marksOf n).any Mark.enrolls = false) (k : Pair) :
    Mark.enrolled k ∉ marksOf n := by
  intro hk
  have hany : (marksOf n).any Mark.enrolls = true := List.any_eq_true.mpr ⟨_, hk, rfl⟩
  rw [h] at hany
  cases hany

variable {k : Pair}

theorem placed_of_same (h : ∀ k, (s'.enrollment.row k).committed = (s.enrollment.row k).committed)
    (hplaced : s.placed k) : s'.placed k := by
  unfold Db.placed
  rw [h]
  exact hplaced

/-- A step that leaves the enrollment rows alone. -/
theorem lands_goes (hholds : p.Holds tx s) (hsame : s'.enrollment = s.enrollment)
    (hwrites : q.writes = false → p.writes = false)
    (hdrops : ∀ k row, p.Drops k row → q.Drops k row) (hknows : q.Knows) :
    Lands tx s s' (.goto q) where
  apart := by
    rw [hsame]
    exact .refl tx _
  goes q' hq := by
    cases hq
    refine ⟨fun h => ?_, fun k row hrow => ?_, hknows⟩
    · rw [hsame]
      exact hholds.idle (hwrites h)
    · rw [hsame] at hrow ⊢
      exact (hholds.rows k row hrow).imp_right (hdrops k row)
  ends a ha := by cases ha
  keeps k hplaced := .inl (placed_of_same (fun k => by rw [hsame]) hplaced)
  stands k hk := by cases hk

theorem lands_owes (hholds : p.Holds tx s) (hsame : s'.enrollment = s.enrollment)
    (hp : ∀ k row, ¬ p.Drops k row) (hq : q.writes = true) (hknows : q.Knows) :
    Lands tx s s' (.goto q) :=
  lands_goes hholds hsame (fun h => by rw [hq] at h; cases h)
    (fun k row hdrop => absurd hdrop (hp k row)) hknows

theorem lands_reads (hholds : p.Holds tx s) (hp : p.writes = false)
    (hsame : s'.enrollment = s.enrollment) (hknows : q.Knows) : Lands tx s s' (.goto q) where
  apart := by
    rw [hsame]
    exact .refl tx _
  goes q' hq := by
    cases hq
    refine holds_of_idle ?_ hknows
    rw [hsame]
    exact hholds.idle hp
  ends a ha := by cases ha
  keeps k hplaced := .inl (placed_of_same (fun k => by rw [hsame]) hplaced)
  stands k hk := by cases hk

variable {a : Except AppError Answer}

theorem lands_answers (hholds : p.Holds tx s) (hp : p.writes = false)
    (hstands : ∀ k, .enrolled k ∈ marksOf (.answer a) → s.placed k) :
    Lands tx s s (.answer a) where
  apart := .refl tx _
  goes q hq := by cases hq
  ends _ _ := hholds.idle hp
  keeps _ hplaced := .inl hplaced
  stands := hstands

theorem lands_undo (hsame : s'.enrollment = s.enrollment.rollback tx)
    (hgoes : ∀ q, n = .goto q → q.Knows) (hsilent : (marksOf n).any Mark.enrolls = false) :
    Lands tx s s' n where
  apart := by
    rw [hsame]
    exact .rollback tx _
  goes q hq := by
    refine holds_of_idle ?_ (hgoes q hq)
    rw [hsame]
    exact Rows.idle_rollback tx _
  ends a ha := by
    rw [hsame]
    exact Rows.idle_rollback tx _
  keeps k hplaced := by
    refine .inl (placed_of_same (fun k => ?_) hplaced)
    rw [hsame, Rows.committed_rollback]
  stands k hk := absurd hk (notMem_of_silent hsilent k)

theorem lands_refuses
    (hsame : s'.enrollment = s.enrollment.rollback tx)
    (hsilent : (marksOf (.answer a)).any Mark.enrolls = false) : Lands tx s s' (.answer a) :=
  lands_undo hsame (fun q hq => by cases hq) hsilent

theorem lands_commit (hholds : p.Holds tx s) (hsame : s'.enrollment = s.enrollment.commit tx)
    (hdrops : ∀ k row, p.Drops k row → row.source = none →
      .unenrolled k ∈ marksOf n ∨ .changed k.2 ∈ marksOf n)
    (hgoes : ∀ q, n = .goto q → q.Knows) (hsilent : (marksOf n).any Mark.enrolls = false) :
    Lands tx s s' n where
  apart := by
    rw [hsame]
    exact .commit tx _
  goes q hq := by
    refine holds_of_idle ?_ (hgoes q hq)
    rw [hsame]
    exact Rows.idle_commit tx _
  ends a ha := by
    rw [hsame]
    exact Rows.idle_commit tx _
  keeps k hplaced := by
    obtain ⟨row, hrow, hsource⟩ := hplaced
    rcases hholds.rows k row hrow with hseen | hdrop
    · refine .inl ⟨row, ?_, hsource⟩
      rw [hsame, Rows.row_commit, Row.committed_commit, hseen]
    · exact .inr (hdrops k row hdrop hsource)
  stands k hk := absurd hk (notMem_of_silent hsilent k)

theorem not_drops (hp : p.writes = false) (k : Pair) (row : Enrollment) : ¬ p.Drops k row := by
  intro hdrop
  cases p <;> first
    | exact hdrop
    | cases hp

theorem lands_ends (hholds : p.Holds tx s) (hp : p.writes = false)
    (hsame : s'.enrollment = s.enrollment.commit tx)
    (hsilent : (marksOf (.answer a)).any Mark.enrolls = false) : Lands tx s s' (.answer a) :=
  lands_commit hholds hsame (fun k row hdrop => absurd hdrop (not_drops hp k row))
    (fun q hq => by cases hq) hsilent

theorem lands_leaves (hholds : p.Holds tx s) (hp : p.writes = false)
    (hsame : s'.enrollment = s.enrollment.commit tx) (hknows : q.Knows) :
    Lands tx s s' (.goto q) :=
  lands_commit hholds hsame (fun k row hdrop => absurd hdrop (not_drops hp k row))
    (fun q' hq => by cases hq; exact hknows) rfl

variable {row : Enrollment}

/-- A deletion that is still open. -/
theorem lands_deletes {rows : Rows Pair Enrollment}
    (hholds : p.Holds tx s)
    (halter : s.enrollment.alter tx k (fun _ => none) = some (some row, rows))
    (hq : q.writes = true)
    (hdrop : ∀ row, (s.enrollment.row k).committed = some row → q.Drops k row)
    (hdrops : ∀ k row, p.Drops k row → q.Drops k row) (hknows : q.Knows) :
    Lands tx s { s with enrollment := rows } (.goto q) where
  apart := .alter halter
  goes q' hq' := by
    cases hq'
    refine ⟨fun h => (by rw [hq] at h; cases h), fun k' row' hrow => ?_, hknows⟩
    have hcommitted := (Rows.committed_alter halter k').symm.trans hrow
    by_cases hk : k' = k
    · subst hk
      exact .inr (hdrop row' hcommitted)
    · have hsame := Rows.row_alter_ne halter hk
      dsimp only
      rw [hsame]
      exact (hholds.rows k' row' hcommitted).imp_right (hdrops k' row')
  ends a ha := by cases ha
  keeps k' hplaced := by
    refine .inl (placed_of_same (fun k => ?_) hplaced)
    exact Rows.committed_alter halter k
  stands k' hk := by cases hk

/-- A pumped row that is still open. -/
theorem lands_pumps (hholds : p.Holds tx s)
    (hfree : (s.enrollment.row k).free tx = true) (hseen : (s.enrollment.row k).seen tx = none)
    (hp : ∀ k row, ¬ p.Drops k row) (hq : q.writes = true) (hknows : q.Knows) :
    Lands tx s { s with enrollment := s.enrollment.write tx k (some row) } (.goto q) where
  apart := .write _ hfree
  goes q' hq' := by
    cases hq'
    refine ⟨fun h => (by rw [hq] at h; cases h), fun k' row' hrow => ?_, hknows⟩
    have hcommitted := (Rows.committed_write tx s.enrollment k k' _).symm.trans hrow
    have hold := (hholds.rows k' row' hcommitted).resolve_right (hp k' row')
    have hne : k' ≠ k := by
      intro heq
      rw [heq, hseen] at hold
      cases hold
    refine .inl ?_
    dsimp only
    rw [Rows.row_write, if_neg hne]
    exact hold
  ends a ha := by cases ha
  keeps k' hplaced := by
    refine .inl (placed_of_same (fun k'' => ?_) hplaced)
    exact Rows.committed_write tx s.enrollment k k'' _
  stands k' hk := by cases hk

/-- One hand-placed row is written and committed. -/
theorem lands_places (hidle : s.enrollment.Idle tx)
    (hfree : (s.enrollment.row k).free tx = true) (hsource : row.source = none) :
    Lands tx s (Db.commit tx { s with enrollment := s.enrollment.write tx k (some row) })
      (.answer (.ok (.enrollment k row))) := by
  have hwritten : ((s.enrollment.write tx k (some row)).commit tx).row k =
      ⟨some row, none⟩ := by
    rw [Rows.row_commit, Rows.row_write, if_pos rfl]
    simp [Row.commit, Row.settle]
  have hplaced : Db.placed (Db.commit tx
      { s with enrollment := s.enrollment.write tx k (some row) }) k := by
    refine ⟨row, ?_, hsource⟩
    exact congrArg Row.committed hwritten
  constructor
  case apart => exact (Rows.Apart.write _ hfree).trans (.commit tx _)
  case goes => exact fun q hq => by cases hq
  case ends => exact fun _ _ => Rows.idle_commit tx _
  case keeps =>
    intro k' hold
    by_cases hk : k' = k
    · rw [hk]
      exact .inl hplaced
    · obtain ⟨row', hrow', hsource'⟩ := hold
      refine .inl ⟨row', ?_, hsource'⟩
      have hseen := (Row.seen_eq_committed (hidle k')).trans hrow'
      refine (congrArg Row.committed (Rows.row_commit tx _ k')).trans ?_
      rw [Row.committed_commit, Rows.row_write, if_neg hk, hseen]
  case stands =>
    intro k' hk
    have heq : k' = k := by simpa [marksOf] using hk
    rw [heq]
    exact hplaced

theorem stands_of_seen {pair : Pair} (hidle : s.enrollment.Idle tx)
    (hseen : (s.enrollment.row pair).seen tx = some row) (hsource : row.source = none) :
    ∀ k, .enrolled k ∈ marksOf (.answer (.ok (.enrollment pair row))) → s.placed k := by
  intro k hk
  have heq : k = pair := by simpa [marksOf] using hk
  rw [heq]
  exact ⟨row, (Row.seen_eq_committed (hidle pair)).symm.trans hseen, hsource⟩

end Steps

end Hezarfen.Enrollments
