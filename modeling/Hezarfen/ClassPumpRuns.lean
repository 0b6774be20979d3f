import Hezarfen.ClassPump
import Hezarfen.Transactions

/-!
# An attach writes everything or nothing

Before the seat is claimed the transaction of an attach holds no row of the class tables, so
the verdicts up to there commit nothing.  From then on every refusal rolls back, and only the
answer that made the link commits what was written.
-/

namespace Hezarfen.ClassPump

open Interleaving ReadCommitted
open School
open School.Roster (Pumping)
open Years (CourseOfferingId GradeLevel)

variable {tx tx' : ℕ} {s s' : Db} {p : Point} {w : World} {n : Reply}

variable {t : Db} {q : Point} {f : ClassGroup → Option ClassGroup} {old : Option ClassGroup}
  {seated : Rows ClassGroupId ClassGroup} {link : Link} {log : List (ℕ × Event)} {pumping : Pumping}

/-! ## The class tables -/

structure Db.Same (s s' : Db) : Prop where
  classGroup : ∀ k, (s'.classGroup.row k).committed = (s.classGroup.row k).committed
  course : ∀ k, (s'.course.row k).committed = (s.course.row k).committed
  classCourse : ∀ k, (s'.classCourse.row k).committed = (s.classCourse.row k).committed
  classMember : ∀ k, (s'.classMember.row k).committed = (s.classMember.row k).committed
  enrollment : ∀ k, (s'.enrollment.row k).committed = (s.enrollment.row k).committed

structure Db.Idle (tx : ℕ) (s : Db) : Prop where
  classGroup : Rows.Idle tx s.classGroup
  course : Rows.Idle tx s.course
  classCourse : Rows.Idle tx s.classCourse
  classMember : Rows.Idle tx s.classMember
  enrollment : Rows.Idle tx s.enrollment

/-- The rows of the others are as they were. -/
structure Db.Apart (tx : ℕ) (s s' : Db) : Prop where
  classGroup : Rows.Apart tx s.classGroup s'.classGroup
  course : Rows.Apart tx s.course s'.course
  classCourse : Rows.Apart tx s.classCourse s'.classCourse
  classMember : Rows.Apart tx s.classMember s'.classMember
  enrollment : Rows.Apart tx s.enrollment s'.enrollment

theorem Db.Same.refl (s : Db) : s.Same s :=
  ⟨fun _ => rfl, fun _ => rfl, fun _ => rfl, fun _ => rfl, fun _ => rfl⟩

theorem Db.Same.rollback (tx : ℕ) (s : Db) : s.Same (s.rollback tx) where
  classGroup := Rows.committed_rollback tx s.classGroup
  course := Rows.committed_rollback tx s.course
  classCourse := Rows.committed_rollback tx s.classCourse
  classMember := Rows.committed_rollback tx s.classMember
  enrollment := Rows.committed_rollback tx s.enrollment

theorem Db.Same.trans {s'' : Db} (h : s.Same s') (h' : s'.Same s'') : s.Same s'' where
  classGroup k := (h'.classGroup k).trans (h.classGroup k)
  course k := (h'.course k).trans (h.course k)
  classCourse k := (h'.classCourse k).trans (h.classCourse k)
  classMember k := (h'.classMember k).trans (h.classMember k)
  enrollment k := (h'.enrollment k).trans (h.enrollment k)

theorem committed_commit_of_idle {K V : Type} [DecidableEq K] {t : Rows K V}
    (h : Rows.Idle tx t) (k : K) : ((t.commit tx).row k).committed = (t.row k).committed := by
  rw [Rows.row_commit, Row.committed_commit, Row.seen_eq_committed (h k)]

/-- The commit of a transaction that wrote nothing. -/
theorem Db.Idle.same_commit (h : s.Idle tx) : s.Same (s.commit tx) where
  classGroup := committed_commit_of_idle h.classGroup
  course := committed_commit_of_idle h.course
  classCourse := committed_commit_of_idle h.classCourse
  classMember := committed_commit_of_idle h.classMember
  enrollment := committed_commit_of_idle h.enrollment

theorem Db.idle_commit (tx : ℕ) (s : Db) : (s.commit tx).Idle tx where
  classGroup := Rows.idle_commit tx _
  course := Rows.idle_commit tx _
  classCourse := Rows.idle_commit tx _
  classMember := Rows.idle_commit tx _
  enrollment := Rows.idle_commit tx _

theorem Db.idle_rollback (tx : ℕ) (s : Db) : (s.rollback tx).Idle tx where
  classGroup := Rows.idle_rollback tx _
  course := Rows.idle_rollback tx _
  classCourse := Rows.idle_rollback tx _
  classMember := Rows.idle_rollback tx _
  enrollment := Rows.idle_rollback tx _

theorem Db.Apart.refl (tx : ℕ) (s : Db) : s.Apart tx s :=
  ⟨.refl tx _, .refl tx _, .refl tx _, .refl tx _, .refl tx _⟩

theorem Db.Apart.commit (tx : ℕ) (s : Db) : s.Apart tx (s.commit tx) :=
  ⟨.commit tx _, .commit tx _, .commit tx _, .commit tx _, .commit tx _⟩

theorem Db.Apart.rollback (tx : ℕ) (s : Db) : s.Apart tx (s.rollback tx) :=
  ⟨.rollback tx _, .rollback tx _, .rollback tx _, .rollback tx _, .rollback tx _⟩

theorem Db.Apart.trans {s'' : Db} (h : s.Apart tx s') (h' : s'.Apart tx s'') : s.Apart tx s'' where
  classGroup := h.classGroup.trans h'.classGroup
  course := h.course.trans h'.course
  classCourse := h.classCourse.trans h'.classCourse
  classMember := h.classMember.trans h'.classMember
  enrollment := h.enrollment.trans h'.enrollment

theorem Db.Apart.idle (h : s.Apart tx s') (hne : tx' ≠ tx) (hidle : s.Idle tx') : s'.Idle tx' where
  classGroup := h.classGroup.idle tx' hne hidle.classGroup
  course := h.course.idle tx' hne hidle.course
  classCourse := h.classCourse.idle tx' hne hidle.classCourse
  classMember := h.classMember.idle tx' hne hidle.classMember
  enrollment := h.enrollment.idle tx' hne hidle.enrollment

structure Db.Writes (tx : ℕ) (s s' : Db) : Prop where
  same : s.Same s'
  apart : s.Apart tx s'

theorem Db.Writes.refl (tx : ℕ) (s : Db) : s.Writes tx s := ⟨.refl s, .refl tx s⟩

section Writes

theorem Db.Writes.appUser (rows : Rows UserId Role) : s.Writes tx { s with appUser := rows } where
  same := ⟨fun _ => rfl, fun _ => rfl, fun _ => rfl, fun _ => rfl, fun _ => rfl⟩
  apart := ⟨.refl tx _, .refl tx _, .refl tx _, .refl tx _, .refl tx _⟩

theorem Db.Writes.courseOffering (rows : Rows CourseOfferingId UserId) :
    s.Writes tx { s with courseOffering := rows } where
  same := ⟨fun _ => rfl, fun _ => rfl, fun _ => rfl, fun _ => rfl, fun _ => rfl⟩
  apart := ⟨.refl tx _, .refl tx _, .refl tx _, .refl tx _, .refl tx _⟩

theorem Db.Idle.appUser (h : s.Idle tx) (rows : Rows UserId Role) :
    Db.Idle tx { s with appUser := rows } :=
  ⟨h.1, h.2, h.3, h.4, h.5⟩

theorem Db.Idle.courseOffering (h : s.Idle tx) (rows : Rows CourseOfferingId UserId) :
    Db.Idle tx { s with courseOffering := rows } :=
  ⟨h.1, h.2, h.3, h.4, h.5⟩

theorem Db.Writes.classCourse {rows : Rows ClassCourseId ClassCourse} {k : ClassCourseId}
    {q : ClassCourse → Bool} {f : ClassCourse → Option ClassCourse} {old : Option ClassCourse}
    (h : Rows.alterWhere tx s.classCourse k q f = some (old, rows)) :
    s.Writes tx { s with classCourse := rows } where
  same := { Db.Same.refl s with classCourse := Rows.committed_alter h }
  apart := { Db.Apart.refl tx s with classCourse := .alter h }

theorem Db.Writes.course {rows : Rows CourseId Course} {k : CourseId}
    {q : Course → Bool} {f : Course → Option Course} {old : Option Course}
    (h : Rows.alterWhere tx s.course k q f = some (old, rows)) :
    s.Writes tx { s with course := rows } where
  same := { Db.Same.refl s with course := Rows.committed_alter h }
  apart := { Db.Apart.refl tx s with course := .alter h }

theorem Db.Writes.enrollment {pair : Pair} {version : Option Enrollment}
    (hfree : (s.enrollment.row pair).free tx = true) :
    s.Writes tx { s with enrollment := s.enrollment.write tx pair version } where
  same := { Db.Same.refl s with
    enrollment := fun k => Rows.committed_write tx s.enrollment pair k version }
  apart := { Db.Apart.refl tx s with enrollment := .write version hfree }

/-- The claim of a member's seat with its link. -/
theorem Db.Writes.seatMember {k : ClassGroupId} {q : ClassGroup → Bool} {id : ClassMemberId}
    {row : ClassMember} (h : Rows.alterWhere tx s.classGroup k q f = some (old, seated))
    (hfresh : s.classMember.lookup id = none) :
    s.Writes tx { s with
      classGroup := seated
      classMember := s.classMember.write tx id (some row) } where
  same := { Db.Same.refl s with
    classGroup := Rows.committed_alter h
    classMember := fun k => Rows.committed_write tx s.classMember id k _ }
  apart := { Db.Apart.refl tx s with
    classGroup := .alter h
    classMember := .write _ (Rows.free_of_fresh hfresh tx) }

theorem Db.Writes.seatCourse {k : ClassGroupId} {q : ClassGroup → Bool} {id : ClassCourseId}
    {row : ClassCourse} (h : Rows.alterWhere tx s.classGroup k q f = some (old, seated))
    (hfresh : s.classCourse.lookup id = none) :
    s.Writes tx { s with
      classGroup := seated
      classCourse := s.classCourse.write tx id (some row) } where
  same := { Db.Same.refl s with
    classGroup := Rows.committed_alter h
    classCourse := fun k => Rows.committed_write tx s.classCourse id k _ }
  apart := { Db.Apart.refl tx s with
    classGroup := .alter h
    classCourse := .write _ (Rows.free_of_fresh hfresh tx) }

end Writes

def Link.Written (tx : ℕ) (s : Db) : Link → Prop
  | .member id row => (s.classMember.row id).writer = some (tx, some row)
  | .course id row => ∃ count, (s.classCourse.row id).writer =
      some (tx, some { row with enrollmentCount := count })

def Link.Holds (tx : ℕ) (s : Db) : Link → Prop
  | .member id row => (s.classMember.row id).writer = some (tx, some row)
  | .course id row => (s.classCourse.row id).writer = some (tx, some row)

def Link.Stands (s : Db) : Link → Prop
  | .member id row => (s.classMember.row id).committed = some row
  | .course id row => (s.classCourse.row id).committed = some row

/-- The pairs that a link implies by the committed rows: the member with every instance of the
section, the instance with every live member. -/
def Link.Implies (s : Db) : Link → Pair → Prop
  | .member _ row, pair => pair.2 = row.user ∧
      ∃ instance_, (s.classCourse.row pair.1).committed = some instance_ ∧
        instance_.classId = row.classId
  | .course id row, pair => pair.1 = id ∧
      ∃ stintId stint, (s.classMember.row stintId).committed = some stint ∧
        stint.classId = row.classId ∧ stint.leftAt = none ∧ stint.user = pair.2

/-- The pump writes for the section and the actor of the link. -/
def Link.Of (pumping : Pumping) : Link → Prop
  | .member _ row => row.classId = pumping.classId ∧ row.addedBy = pumping.by_
  | .course _ row => row.classId = pumping.classId ∧ row.attachedBy = pumping.by_

theorem Link.Holds.commit (h : link.Holds tx s) : link.Stands (s.commit tx) := by
  cases link with
  | member id row =>
      have hwriter : (s.classMember.row id).writer = some (tx, some row) := h
      change ((Rows.commit tx s.classMember).row id).committed = some row
      rw [Rows.row_commit, Row.committed_commit]
      simp [Row.seen, hwriter]
  | course id row =>
      have hwriter : (s.classCourse.row id).writer = some (tx, some row) := h
      change ((Rows.commit tx s.classCourse).row id).committed = some row
      rw [Rows.row_commit, Row.committed_commit]
      simp [Row.seen, hwriter]

/-- The link that the call has written. -/
def Point.written : Point → Option Link
  | .instances job => some (.member job.id job.row)
  | .countSection job offering => some (.course job.id (job.row offering))
  | .members job offering => some (.course job.id (job.row offering))
  | .held link _ _ => some link
  | .claim link _ _ _ => some link
  | .insert link _ _ _ => some link
  | .giveBack link _ _ _ => some link
  | _ => none

/-- What the call has not written yet when it lists its pairs. -/
def Point.Unlisted (tx : ℕ) (s : Db) : Point → Prop
  | .instances _ => Rows.Idle tx s.classCourse ∧ Rows.Idle tx s.enrollment
  | .countSection _ _ => Rows.Idle tx s.classMember ∧ Rows.Idle tx s.enrollment
  | .members _ _ => Rows.Idle tx s.classMember ∧ Rows.Idle tx s.enrollment
  | _ => True

def Point.Knows (p : Point) (tx : ℕ) (s : Db) : Prop :=
  match p.written with
  | some link => link.Written tx s ∧ p.Unlisted tx s
  | none => p ≠ .other → s.Idle tx

theorem Link.Written.apart (h : link.Written tx' s) (hapart : s.Apart tx s') (hne : tx' ≠ tx) :
    link.Written tx' s' := by
  cases link with
  | member id =>
      have hrow := hapart.classMember.held tx' hne id ⟨_, h⟩
      exact (congrArg Row.writer hrow).trans h
  | course id =>
      obtain ⟨count, hwriter⟩ := h
      have hrow := hapart.classCourse.held tx' hne id ⟨_, hwriter⟩
      exact ⟨count, (congrArg Row.writer hrow).trans hwriter⟩

theorem Point.Unlisted.apart (h : p.Unlisted tx' s) (hapart : s.Apart tx s') (hne : tx' ≠ tx) :
    p.Unlisted tx' s' := by
  cases p with
  | instances =>
      exact ⟨hapart.classCourse.idle tx' hne h.1, hapart.enrollment.idle tx' hne h.2⟩
  | countSection | members =>
      exact ⟨hapart.classMember.idle tx' hne h.1, hapart.enrollment.idle tx' hne h.2⟩
  | _ => trivial

theorem Point.Knows.apart (h : p.Knows tx' s) (hapart : s.Apart tx s') (hne : tx' ≠ tx) :
    p.Knows tx' s' := by
  unfold Point.Knows at h ⊢
  split
  · next link hlink =>
    rw [hlink] at h
    exact ⟨Link.Written.apart h.1 hapart hne, Point.Unlisted.apart h.2 hapart hne⟩
  · next hnone =>
    rw [hnone] at h
    exact fun hpump => hapart.idle hne (h hpump)

theorem Link.Written.counted {k : ClassCourseId} {rows : Rows ClassCourseId ClassCourse}
    {old : Option ClassCourse} {f : ℤ → ℤ} (h : link.Written tx s)
    (halter : Rows.alter tx s.classCourse k (fun row =>
      some { row with enrollmentCount := f row.enrollmentCount }) = some (old, rows)) :
    link.Written tx { s with classCourse := rows } := by
  cases link with
  | member => exact h
  | course id row =>
      obtain ⟨count, hwriter⟩ := h
      obtain ⟨hseen, ⟨-, rfl⟩ | ⟨v, rfl, -, rfl⟩⟩ := Rows.alter_cases halter
      · exact ⟨count, hwriter⟩
      · by_cases hk : id = k
        · subst hk
          have hv : v = { row with enrollmentCount := count } := by
            rw [Row.seen, hwriter] at hseen
            simpa using hseen.symm
          subst hv
          exact ⟨f count, by rw [Rows.row_write, if_pos rfl]⟩
        · exact ⟨count, by rw [Rows.row_write, if_neg hk, hwriter]⟩

/-! ## The pairs of the loop -/

def rowOf (pumping : Pumping) : Enrollment := ⟨pumping.by_, some pumping.classId, pumping.now⟩

def Point.rest : Point → Option (Link × Pumping × List Pair)
  | .held link pumping pairs => some (link, pumping, pairs)
  | .claim link pumping pair pairs => some (link, pumping, pair :: pairs)
  | .insert link pumping pair pairs => some (link, pumping, pair :: pairs)
  | .giveBack link pumping _ pairs => some (link, pumping, pairs)
  | _ => none

def Point.Fits : Point → Prop
  | .held link pumping _ => link.Of pumping
  | .claim link pumping _ _ => link.Of pumping
  | .insert link pumping _ _ => link.Of pumping
  | .giveBack link pumping _ _ => link.Of pumping
  | _ => True

/-- Every pair the link implied at the listing is still to come, was found, or is written. -/
structure Accounts (tx : ℕ) (s : Db) (log : List (ℕ × Event)) (link : Link) (pumping : Pumping)
    (rest : List Pair) : Prop where
  pairs : ∃ tables, (tx, .listed tables) ∈ log ∧ ∀ pair, link.Implies tables pair →
    pair ∈ rest ∨ (tx, .found pair) ∈ log ∨
      (s.enrollment.row pair).writer = some (tx, some (rowOf pumping))
  own : ∀ pair version, (s.enrollment.row pair).writer = some (tx, version) →
    version = some (rowOf pumping)

variable {pair : Pair}

/-- A pair with a row has a committed one or the one of this call. -/
theorem Accounts.seen {rest : List Pair} (h : Accounts tx s log link pumping rest)
    (hseen : ((s.enrollment.row pair).seen tx).isSome = true) :
    (s.enrollment.row pair).committed.isSome = true ∨
      (s.enrollment.row pair).writer = some (tx, some (rowOf pumping)) := by
  by_cases hheld : (s.enrollment.row pair).Held tx
  · obtain ⟨version, hwriter⟩ := hheld
    exact .inr (by rw [hwriter, h.own pair version hwriter])
  · rw [Row.seen_eq_committed hheld] at hseen
    exact .inl hseen

def Point.Accounted (p : Point) (tx : ℕ) (s : Db) (log : List (ℕ × Event)) : Prop :=
  ∀ link pumping rest, p.rest = some (link, pumping, rest) →
    Accounts tx s log link pumping rest

theorem Point.Accounted.of_none (h : p.rest = none) :
    p.Accounted tx s log := by
  intro link pumping rest hrest
  rw [h] at hrest
  cases hrest

/-- Others write elsewhere, and the log only grows. -/
theorem Point.Accounted.apart {more : List (ℕ × Event)} (h : p.Accounted tx' s log)
    (hapart : s.Apart tx s') (hne : tx' ≠ tx) : p.Accounted tx' s' (log ++ more) := by
  intro link pumping rest hrest
  obtain ⟨⟨tables, hlisted, hpairs⟩, hown⟩ := h link pumping rest hrest
  constructor
  · refine ⟨tables, List.mem_append_left _ hlisted, fun pair hpair => ?_⟩
    obtain hleft | hfound | hwritten := hpairs pair hpair
    · exact .inl hleft
    · exact .inr (.inl (List.mem_append_left _ hfound))
    · have hrow := hapart.enrollment.held tx' hne pair ⟨_, hwritten⟩
      exact .inr (.inr ((congrArg Row.writer hrow).trans hwritten))
  · intro pair version hwriter
    by_cases hheld : (s.enrollment.row pair).Held tx'
    · have hrow := hapart.enrollment.held tx' hne pair hheld
      exact hown pair version ((congrArg Row.writer hrow).symm.trans hwriter)
    · exact absurd ⟨version, hwriter⟩ (hapart.enrollment.unheld tx' hne pair hheld)

def Point.logged (p : Point) (tx : ℕ) (s : Db) : List (ℕ × Event) :=
  (p.sees s).map fun event => (tx, event)

/-- A step from `p` to `q` keeps the accounts. -/
structure Tracks (tx : ℕ) (s : Db) (p : Point) (s' : Db) (q : Point) : Prop where
  accounts : ∀ log, p.Accounted tx s log → q.Accounted tx s' (log ++ p.logged tx s)
  fits : p.Fits → q.Fits

theorem Tracks.of_none (h : q.rest = none) : Tracks tx s p s' q where
  accounts _ _ := .of_none h
  fits _ := by cases q <;> trivial

variable {pairs : List Pair}

/-- The list that starts the loop. -/
theorem Tracks.of_listed (hsees : p.sees s = [.listed s])
    (hrest : q.rest = some (link, pumping, pairs)) (hfits : q.Fits)
    (hidle : Rows.Idle tx s.enrollment) (himplies : ∀ pair, link.Implies s pair → pair ∈ pairs) :
    Tracks tx s p s q := by
  refine ⟨?_, fun _ => hfits⟩
  intro log _ link' pumping' rest hrest'
  rw [hrest] at hrest'
  cases hrest'
  refine ⟨⟨s, ?_, fun pair hpair => .inl (himplies pair hpair)⟩, fun pair version hwriter => ?_⟩
  · simp [Point.logged, hsees]
  · exact absurd ⟨version, hwriter⟩ (hidle pair)

/-- The first pair is dealt with, and the own rows are those of before and its row. -/
theorem Tracks.of_rest {rest : List Pair}
    (hp : p.rest = some (link, pumping, pair :: pairs)) (hq : q.rest = some (link, pumping, rest))
    (hpairs : ∀ other ∈ pairs, other ∈ rest)
    (hwritten : ∀ other version, (s'.enrollment.row other).writer = some (tx, version) →
      version = some (rowOf pumping) ∨ (s.enrollment.row other).writer = some (tx, version))
    (hkept : ∀ other, (s.enrollment.row other).writer = some (tx, some (rowOf pumping)) →
      (s'.enrollment.row other).writer = some (tx, some (rowOf pumping)))
    (hfirst : pair ∈ rest ∨ .found pair ∈ p.sees s ∨
      (s'.enrollment.row pair).writer = some (tx, some (rowOf pumping)) ∨
      ((s.enrollment.row pair).committed.isSome = false ∧
        ((s.enrollment.row pair).seen tx).isSome = true)) (hfits : p.Fits → q.Fits) :
    Tracks tx s p s' q := by
  refine ⟨?_, hfits⟩
  intro log hlog link' pumping' rest' hrest'
  rw [hq] at hrest'
  cases hrest'
  have haccounts := hlog link pumping (pair :: pairs) hp
  obtain ⟨tables, hlisted, hall⟩ := haccounts.pairs
  constructor
  · refine ⟨tables, List.mem_append_left _ hlisted, fun other hother => ?_⟩
    obtain hleft | hfound | hheld := hall other hother
    · obtain rfl | hleft := List.mem_cons.mp hleft
      · obtain hrest | hsees | hnow | ⟨hnone, hseen⟩ := hfirst
        · exact .inl hrest
        · exact .inr (.inl (List.mem_append_right _ (List.mem_map_of_mem hsees)))
        · exact .inr (.inr hnow)
        · obtain hsome | hmine := haccounts.seen hseen
          · rw [hnone] at hsome
            cases hsome
          · exact .inr (.inr (hkept other hmine))
      · exact .inl (hpairs other hleft)
    · exact .inr (.inl (List.mem_append_left _ hfound))
    · exact .inr (.inr (hkept other hheld))
  · intro other version hwriter
    obtain hrow | hold := hwritten other version hwriter
    · exact hrow
    · exact haccounts.own other version hold

/-- The first pair has a row already. -/
theorem Tracks.of_found
    (hp : p.rest = some (link, pumping, pair :: pairs)) (hq : q.rest = some (link, pumping, pairs))
    (hsees : p.sees s = if (s.enrollment.row pair).committed.isSome then [.found pair] else [])
    (hseen : ((s.enrollment.row pair).seen tx).isSome = true) (hfits : p.Fits → q.Fits) :
    Tracks tx s p s q := by
  refine .of_rest hp hq (fun _ hother => hother) (fun _ _ hwriter => .inr hwriter)
    (fun _ hwritten => hwritten) ?_ hfits
  cases hcommitted : (s.enrollment.row pair).committed.isSome with
  | true => exact .inr (.inl (by simp [hsees, hcommitted]))
  | false => exact .inr (.inr (.inr ⟨rfl, hseen⟩))

theorem Tracks.of_same (hrest : q.rest = p.rest) (hsame : s'.enrollment = s.enrollment)
    (hfits : p.Fits → q.Fits) : Tracks tx s p s' q := by
  refine ⟨?_, hfits⟩
  intro log hlog link pumping rest hq
  obtain ⟨⟨tables, hlisted, hall⟩, hown⟩ := hlog link pumping rest (hrest ▸ hq)
  constructor
  · refine ⟨tables, List.mem_append_left _ hlisted, fun pair hpair => ?_⟩
    obtain hleft | hfound | hwritten := hall pair hpair
    · exact .inl hleft
    · exact .inr (.inl (List.mem_append_left _ hfound))
    · exact .inr (.inr (by rw [hsame]; exact hwritten))
  · rw [hsame]
    exact hown

/-- What a step of an attach can do.  Before the claim it leaves the class tables alone, and
what it commits without a link is nothing. -/
inductive Moved (tx : ℕ) (s : Db) (p : Point) : Db → Reply → Prop
  | works {s' : Db} {q : Point} (h : s.Writes tx s') (hknows : q.Knows tx s')
      (htracks : Tracks tx s p s' q) : Moved tx s p s' (.goto q)
  | refuses {t : Db} {outcome : Attached} (h : s.Writes tx t) (hidle : t.Idle tx)
      (hrefused : outcome.isMade = false) :
      Moved tx s p (t.commit tx) (.answer (.settled outcome))
  | aborts {outcome : Attached} (hrefused : outcome.isMade = false) :
      Moved tx s p (s.rollback tx) (.answer (.settled outcome))
  | fails (e : AppError) : Moved tx s p (s.rollback tx) (.answer (.failed e))
  | makes {link made : Link} {pumping : Pumping} (hpoint : p = .held link pumping [])
      (hmade : made.Holds tx s) (hof : link.Of pumping → made.Of pumping)
      (himplies : ∀ t pair, made.Implies t pair → link.Implies t pair) :
      Moved tx s p (s.commit tx) (.answer (.settled (.made made)))

theorem Moved.of_settle {outcome : Attached} (hout : settle tx t outcome = (s', n))
    (h : s.Writes tx t) (hidle : t.Idle tx) (hrefused : outcome.isMade = false) :
    Moved tx s p s' n := by
  cases hout
  exact .refuses h hidle hrefused

theorem Moved.of_abort {outcome : Attached} (hout : abort tx s outcome = (s', n))
    (hrefused : outcome.isMade = false) : Moved tx s p s' n := by
  cases hout
  exact .aborts hrefused

theorem Moved.of_fail {e : AppError} (hout : fail tx s e = (s', n)) : Moved tx s p s' n := by
  cases hout
  exact .fails e

theorem Moved.of_goto (hout : (t, (.goto q : Reply)) = (s', n)) (h : s.Writes tx t)
    (hknows : q.Knows tx t) (htracks : Tracks tx s p t q) :
    Moved tx s p s' n := by
  cases hout
  exact .works h hknows htracks

/-- The loop belongs to a call that has written its link. -/
theorem rest_none (h : p.written = none) : p.rest = none := by
  cases p <;> first | rfl | cases h

/-- A statement before the claim. -/
theorem Moved.of_idle (hout : (t, (.goto q : Reply)) = (s', n)) (h : s.Writes tx t)
    (hidle : t.Idle tx) (hnone : q.written = none) : Moved tx s p s' n := by
  refine .of_goto hout h ?_ (.of_none (rest_none hnone))
  unfold Point.Knows
  rw [hnone]
  exact fun _ => hidle

theorem insertMember_moved {job : AddMember} {q : ClassGroup → Bool}
    (hidle : s.Idle tx)
    (hseat : Rows.alterWhere tx s.classGroup job.classId q f = some (old, seated))
    (h : insertMember tx s job seated = some (s', n)) : Moved tx s p s' n := by
  unfold insertMember at h
  split at h
  · cases h
  · split at h
    · exact .of_abort (Option.some.inj h) rfl
    · split at h
      · exact .of_abort (Option.some.inj h) rfl
      · split at h
        · exact .of_fail (Option.some.inj h)
        · next hfresh =>
          have hnone : s.classMember.lookup job.id = none := by simpa using hfresh
          refine .of_goto (Option.some.inj h) (.seatMember hseat hnone)
            ⟨?_, hidle.classCourse, hidle.enrollment⟩ (.of_none rfl)
          change (Rows.row (Rows.write tx s.classMember job.id (some job.row)) job.id).writer = _
          rw [Rows.row_write, if_pos rfl]

theorem insertCourse_moved {job : AttachCourse} {offering : CourseOfferingId}
    {q : ClassGroup → Bool}
    (hidle : s.Idle tx)
    (hseat : Rows.alterWhere tx s.classGroup job.classId q f = some (old, seated))
    (h : insertCourse tx s job offering seated = some (s', n)) : Moved tx s p s' n := by
  unfold insertCourse at h
  split at h
  · cases h
  · split at h
    · exact .of_abort (Option.some.inj h) rfl
    · split at h
      · exact .of_abort (Option.some.inj h) rfl
      · split at h
        · exact .of_fail (Option.some.inj h)
        · next hfresh =>
          have hnone : s.classCourse.lookup job.id = none := by simpa using hfresh
          refine .of_goto (Option.some.inj h) (.seatCourse hseat hnone)
            ⟨⟨0, ?_⟩, hidle.classMember, hidle.enrollment⟩ (.of_none rfl)
          change (Rows.row (Rows.write tx s.classCourse job.id (some (job.row offering)))
            job.id).writer = _
          rw [Rows.row_write, if_pos rfl]
          rfl

theorem finish_moved (hpoint : p = .held link pumping []) (hlink : link.Written tx s)
    (h : finish tx s link = (s', n)) : Moved tx s p s' n := by
  cases link with
  | member =>
      cases h
      exact .makes hpoint hlink (fun hof => hof) fun _ _ himplies => himplies
  | course id row =>
      simp only [finish] at h
      split at h
      · exact .of_fail h
      · next stored hseen =>
        cases h
        have hwritten := hlink
        obtain ⟨count, hwriter⟩ := hwritten
        have hstored : stored = { row with enrollmentCount := count } := by
          rw [Row.seen, hwriter] at hseen
          simpa using hseen.symm
        exact .makes hpoint (hwriter.trans (by rw [hstored])) (fun hof => hof)
          fun _ _ himplies => himplies

/-- The listing of a call that has no row of the instances reads the committed ones. -/
theorem mem_instancePairs {job : AddMember} (hidle : Rows.Idle tx s.classCourse)
    (h : Link.Implies s (.member job.id job.row) pair) : pair ∈ instancePairs tx s job := by
  obtain ⟨huser, row, hrow, hclass⟩ := h
  rw [← Row.seen_eq_committed (hidle pair.1)] at hrow
  exact List.mem_map.mpr ⟨(pair.1, row), Rows.mem_visible.mpr ⟨hrow, decide_eq_true hclass⟩,
    Prod.ext rfl huser.symm⟩

theorem mem_memberPairs {job : AttachCourse} {offering : CourseOfferingId}
    (hidle : Rows.Idle tx s.classMember)
    (h : Link.Implies s (.course job.id (job.row offering)) pair) :
    pair ∈ memberPairs tx s job := by
  obtain ⟨hid, stintId, stint, hstint, hclass, hlive, huser⟩ := h
  rw [← Row.seen_eq_committed (hidle stintId)] at hstint
  have hsection : stint.classId = job.classId := hclass
  exact List.mem_map.mpr ⟨(stintId, stint),
    Rows.mem_visible.mpr ⟨hstint, by simp [hsection, hlive]⟩, Prod.ext hid.symm huser⟩

theorem statement_moved (hpump : p ≠ .other) (hknows : p.Knows tx s)
    (h : statement tx s w p = some (s', n)) : Moved tx s p s' n := by
  cases p with
  | other => exact absurd rfl hpump
  | liveStint | courseLoad =>
      have hidle : s.Idle tx := hknows hpump
      simp only [statement] at h
      split at h
      · exact .of_settle (Option.some.inj h) (.refl tx s) hidle rfl
      · exact .of_idle (Option.some.inj h) (.refl tx s) hidle rfl
  | lockUser =>
      have hidle : s.Idle tx := hknows hpump
      obtain ⟨rows, -, hmissed⟩ | ⟨role, rows, -, hfound⟩ := Rows.onRow_cases h
      · exact .of_settle hmissed.symm (.refl tx s) hidle rfl
      · -- the lock is on the row of the user, which is not in the class tables
        have hlocked : s.Writes tx { s with appUser := rows } := .appUser rows
        have hidle' : Db.Idle tx { s with appUser := rows } := hidle.appUser rows
        split at hfound
        · exact .of_settle hfound.symm hlocked hidle' rfl
        · exact .of_idle hfound.symm hlocked hidle' rfl
  | seatMember =>
      have hidle : s.Idle tx := hknows hpump
      simp only [statement, seatMember] at h
      split at h
      · cases h
      · exact .of_idle (Option.some.inj h) (.refl tx s) hidle rfl
      · next hseat => exact insertMember_moved hidle hseat h
  | instances =>
      obtain ⟨hlink, hcourses, henrollment⟩ := hknows
      exact .of_goto (Option.some.inj h) (.refl tx s) ⟨hlink, trivial⟩
        (.of_listed rfl rfl ⟨rfl, rfl⟩ henrollment fun _ => mem_instancePairs hcourses)
  | heldCourse =>
      have hidle : s.Idle tx := hknows hpump
      simp only [statement] at h
      split at h
      · exact .of_settle (Option.some.inj h) (.refl tx s) hidle rfl
      · split at h
        · exact .of_idle (Option.some.inj h) (.refl tx s) hidle rfl
        · exact .of_idle (Option.some.inj h) (.refl tx s) hidle rfl
  | lockSource | lockCourse | lockGrade =>
      have hidle : s.Idle tx := hknows hpump
      obtain ⟨found, -, hout⟩ := Option.map_eq_some_iff.mp h
      cases found with
      | none => exact .of_settle hout (.refl tx s) hidle rfl
      | some => exact .of_idle hout (.refl tx s) hidle rfl
  | memberLoad =>
      have hidle : s.Idle tx := hknows hpump
      simp only [statement] at h
      split at h
      · exact .of_settle (Option.some.inj h) (.refl tx s) hidle rfl
      · split at h
        · exact .of_idle (Option.some.inj h) (.refl tx s) hidle rfl
        · exact .of_fail (Option.some.inj h)
  | ensureOffering =>
      have hidle : s.Idle tx := hknows hpump
      simp only [statement, ensureOffering] at h
      split at h
      · split at h
        · exact .of_idle (Option.some.inj h) (.refl tx s) hidle rfl
        · exact .of_idle (Option.some.inj h) (.courseOffering _) (hidle.courseOffering _) rfl
      · cases h
  | seatCourse =>
      have hidle : s.Idle tx := hknows hpump
      simp only [statement, seatCourse] at h
      split at h
      · cases h
      · exact .of_idle (Option.some.inj h) (.refl tx s) hidle rfl
      · next hseat => exact insertCourse_moved hidle hseat h
  | countSection =>
      obtain ⟨rows, -, hmissed⟩ | ⟨row, rows, halter, hfound⟩ := Rows.onRow_cases h
      · exact .of_goto hmissed.symm (.refl tx s) hknows (.of_none rfl)
      · exact .of_goto hfound.symm (.course halter) hknows (.of_none rfl)
  | members =>
      obtain ⟨hlink, hmembers, henrollment⟩ := hknows
      exact .of_goto (Option.some.inj h) (.refl tx s) ⟨hlink, trivial⟩
        (.of_listed rfl rfl ⟨rfl, rfl⟩ henrollment fun _ => mem_memberPairs hmembers)
  | standing =>
      have hidle : s.Idle tx := hknows hpump
      refine .of_settle (Option.some.inj h) (.refl tx s) hidle ?_
      split <;> rfl
  | held link pumping pairs =>
      have hlink : link.Written tx s := hknows.1
      cases pairs with
      | nil => exact finish_moved rfl hlink (Option.some.inj h)
      | cons =>
          simp only [statement] at h
          split at h
          · next hheld =>
            exact .of_goto (Option.some.inj h) (.refl tx s) ⟨hlink, trivial⟩
              (.of_found rfl rfl rfl hheld id)
          · exact .of_goto (Option.some.inj h) (.refl tx s) ⟨hlink, trivial⟩ (.of_same rfl rfl id)
  | claim link =>
      have hlink : link.Written tx s := hknows.1
      obtain ⟨rows, -, hmissed⟩ | ⟨row, rows, halter, hfound⟩ := Rows.onRow_cases h
      · exact .of_abort hmissed.symm rfl
      · exact .of_goto hfound.symm (.classCourse halter)
          ⟨hlink.counted (f := (· + 1)) halter, trivial⟩ (.of_same rfl rfl id)
  | insert link =>
      have hlink : link.Written tx s := hknows.1
      simp only [statement, insertPair] at h
      split at h
      · next hfree =>
        split at h
        · next hheld =>
          exact .of_goto (Option.some.inj h) (.refl tx s) ⟨hlink, trivial⟩
            (.of_found rfl rfl rfl hheld id)
        · split at h
          · exact .of_fail (Option.some.inj h)
          · refine .of_goto (Option.some.inj h) (.enrollment hfree) ⟨?_, trivial⟩
              (.of_rest rfl rfl (fun _ hother => hother) ?_ ?_ (.inr (.inr (.inl ?_))) id)
            · cases link with
              | member | course => exact hlink
            · intro other version hwriter
              rw [Rows.row_write] at hwriter
              split at hwriter
              · cases hwriter
                exact .inl rfl
              · exact .inr hwriter
            · intro other hwritten
              rw [Rows.row_write]
              split
              · rfl
              · exact hwritten
            · rw [Rows.row_write, if_pos rfl]
              rfl
      · cases h
  | giveBack link =>
      have hlink : link.Written tx s := hknows.1
      obtain ⟨rows, -, hmissed⟩ | ⟨row, rows, halter, hfound⟩ := Rows.onRow_cases h
      · exact .of_goto hmissed.symm (.refl tx s) ⟨hlink, trivial⟩ (.of_same rfl rfl id)
      · exact .of_goto hfound.symm (.classCourse halter)
          ⟨hlink.counted (f := fun count => max (count - 1) 0) halter, trivial⟩
          (.of_same rfl rfl id)

theorem next_moved (hpump : p ≠ .other) (hknows : p.Knows tx s)
    (h : next tx s p w = some (s', n)) : Moved tx s p s' n := by
  unfold next at h
  split at h
  · exact .of_fail (Option.some.inj h)
  · exact statement_moved hpump hknows h

/-! ## What a step keeps -/

theorem Moved.apart (h : Moved tx s p s' n) : s.Apart tx s' := by
  cases h with
  | works h => exact h.apart
  | refuses h => exact h.apart.trans (.commit tx _)
  | aborts | fails => exact .rollback tx s
  | makes => exact .commit tx s

theorem Moved.same (h : Moved tx s p s' n) (hother : ∀ link, n ≠ .answer (.settled (.made link))) :
    s.Same s' := by
  cases h with
  | works h => exact h.same
  | refuses h hidle => exact h.same.trans hidle.same_commit
  | aborts | fails => exact .rollback tx s
  | makes => exact absurd rfl (hother _)

theorem Moved.knows (h : Moved tx s p s' (.goto q)) : q.Knows tx s' := by
  cases h with
  | works _ hknows => exact hknows

theorem Moved.idle {a : Answer} (h : Moved tx s p s' (.answer a)) : s'.Idle tx := by
  cases h with
  | refuses => exact Db.idle_commit tx _
  | aborts | fails => exact Db.idle_rollback tx s
  | makes => exact Db.idle_commit tx s

theorem writeFree_apart {K V : Type} [DecidableEq K] {t t' : Rows K V} {k : K}
    {version : Option V} (h : writeFree tx t k version = some t') : Rows.Apart tx t t' := by
  unfold writeFree at h
  split at h
  · next hfree =>
    cases h
    exact .write version hfree
  · cases h

theorem act_apart {act : Act} (h : act.run tx s = some (s', n)) : s.Apart tx s' := by
  cases act with
  | appUser | classBlueprint | courseOffering =>
      obtain ⟨rows, -, hout⟩ := Option.map_eq_some_iff.mp h
      cases hout
      exact ⟨.refl tx _, .refl tx _, .refl tx _, .refl tx _, .refl tx _⟩
  | classGroup =>
      obtain ⟨rows, hwrite, hout⟩ := Option.map_eq_some_iff.mp h
      cases hout
      exact { Db.Apart.refl tx s with classGroup := writeFree_apart hwrite }
  | course =>
      obtain ⟨rows, hwrite, hout⟩ := Option.map_eq_some_iff.mp h
      cases hout
      exact { Db.Apart.refl tx s with course := writeFree_apart hwrite }
  | classCourse =>
      obtain ⟨rows, hwrite, hout⟩ := Option.map_eq_some_iff.mp h
      cases hout
      exact { Db.Apart.refl tx s with classCourse := writeFree_apart hwrite }
  | classMember =>
      obtain ⟨rows, hwrite, hout⟩ := Option.map_eq_some_iff.mp h
      cases hout
      exact { Db.Apart.refl tx s with classMember := writeFree_apart hwrite }
  | enrollment =>
      obtain ⟨rows, hwrite, hout⟩ := Option.map_eq_some_iff.mp h
      cases hout
      exact { Db.Apart.refl tx s with enrollment := writeFree_apart hwrite }
  | commit =>
      cases h
      exact .commit tx s
  | rollback =>
      cases h
      exact .rollback tx s

/-- Another transaction goes on as itself, or is over. -/
theorem act_next {act : Act} (h : act.run tx s = some (s', n)) :
    n = .goto .other ∨ n = .answer .other ∧ s'.Idle tx := by
  cases act with
  | commit =>
      cases h
      exact .inr ⟨rfl, Db.idle_commit tx s⟩
  | rollback =>
      cases h
      exact .inr ⟨rfl, Db.idle_rollback tx s⟩
  | _ =>
      obtain ⟨rows, -, hout⟩ := Option.map_eq_some_iff.mp h
      cases hout
      exact .inl rfl

theorem other_cases (h : next tx s .other w = some (s', n)) :
    fail tx s .db = (s', n) ∨ w.act.run tx s = some (s', n) := by
  unfold next at h
  split at h
  · exact .inl (Option.some.inj h)
  · exact .inr h

theorem next_apart (hknows : p.Knows tx s) (h : next tx s p w = some (s', n)) :
    s.Apart tx s' := by
  by_cases hpump : p = .other
  · subst hpump
    obtain hfail | hact := other_cases h
    · cases hfail
      exact .rollback tx s
    · exact act_apart hact
  · exact (next_moved hpump hknows h).apart

theorem next_follows (hknows : p.Knows tx s) (h : next tx s p w = some (s', n)) :
    (∀ q, n = .goto q → q.Knows tx s') ∧ ∀ a, n = .answer a → s'.Idle tx := by
  by_cases hpump : p = .other
  · subst hpump
    obtain hfail | hact := other_cases h
    · cases hfail
      exact ⟨fun q hq => (by cases hq), fun _ _ => Db.idle_rollback tx s⟩
    · obtain rfl | ⟨rfl, hidle⟩ := act_next hact
      · refine ⟨fun q hq => ?_, fun a ha => (by cases ha)⟩
        cases hq
        exact fun hother => absurd rfl hother
      · exact ⟨fun q hq => (by cases hq), fun _ _ => hidle⟩
  · have hmoved := next_moved hpump hknows h
    constructor
    · rintro q rfl
      exact hmoved.knows
    · rintro a rfl
      exact hmoved.idle

theorem transactional : machine.Transactional (fun _ _ => True) (fun _ => True)
    (fun tx p s => p.Knows tx s) (fun tx s => s.Idle tx) (fun tx s s' => s.Apart tx s') where
  entry request _ hidle := by
    cases request with
    | addMember | attachCourse => exact fun _ => hidle
    | other => exact fun hother => absurd rfl hother
  own _ _ hnext _ hknows := ⟨trivial, next_follows hknows hnext⟩
  next_apart hnext _ hknows := next_apart hknows hnext
  rollback _ := ⟨trivial, Db.idle_rollback _ _, .rollback _ _⟩
  stable hne hapart _ _ hknows := hknows.apart hapart hne
  idle hne hapart hidle := hapart.idle hne hidle

abbrev Runs (c : Config Db Point) : Prop :=
  c.Runs (fun _ => True) (fun tx p s => p.Knows tx s) fun tx s => s.Idle tx

structure Inv (c : Config Db Point) (log : List (ℕ × Event)) : Prop where
  runs : Runs c
  accounted : ∀ tx p, c.calls.lookup tx = some p → p.Accounted tx c.shared log
  fits : ∀ tx p, c.calls.lookup tx = some p → p.Fits

theorem next_tracks (hknows : p.Knows tx s) (h : next tx s p w = some (s', .goto q)) :
    Tracks tx s p s' q := by
  by_cases hpump : p = .other
  · subst hpump
    obtain hfail | hact := other_cases h
    · cases hfail
    · obtain hgoto | ⟨hanswer, -⟩ := act_next hact
      · cases hgoto
        exact .of_none rfl
      · cases hanswer
  · cases next_moved hpump hknows h with
    | works _ _ htracks => exact htracks

variable {c : Config Db Point}

theorem Inv.step {c' : Config Db Point} {m : Move Request World} (h : Inv c log)
    (hstep : machine.step c m = some c') : Inv c' (log ++ events c m) := by
  have hruns := transactional.runs_step h.runs trivial hstep
  obtain ⟨request, rfl, rfl⟩ | ⟨tx, w, p, s', n, rfl, hp, hnext, rfl⟩ | ⟨tx, p, rfl, hp, rfl⟩ :=
    Machine.step_cases hstep
  · have hentry : ∀ request, (entry request).rest = none ∧ (entry request).Fits := by
      intro request
      cases request <;> exact ⟨rfl, trivial⟩
    refine ⟨hruns, fun tx q hq => ?_, fun tx q hq => ?_⟩
    · obtain ⟨-, rfl⟩ | ⟨-, hq⟩ := insert_cases hq
      · exact .of_none (hentry request).1
      · simpa [events] using h.accounted tx q hq
    · obtain ⟨-, rfl⟩ | ⟨-, hq⟩ := insert_cases hq
      · exact (hentry request).2
      · exact h.fits tx q hq
  · have hevents : events c (.advance tx w) = p.logged tx c.shared := by
      simp [events, hp, Point.logged]
    have hknows := h.runs.calls tx p hp
    rw [hevents]
    refine ⟨hruns, fun tx' q hq => ?_, fun tx' q hq => ?_⟩
    · rw [Config.shared_after]
      obtain ⟨hne, hold⟩ | ⟨rfl, rfl⟩ := Config.lookup_after hq
      · exact (h.accounted tx' q hold).apart (next_apart hknows hnext) hne
      · exact (next_tracks hknows hnext).accounts log (h.accounted tx' p hp)
    · obtain ⟨hne, hold⟩ | ⟨rfl, rfl⟩ := Config.lookup_after hq
      · exact h.fits tx' q hold
      · exact (next_tracks hknows hnext).fits (h.fits tx' p hp)
  · refine ⟨hruns, fun tx' q hq => ?_, fun tx' q hq => ?_⟩
    · obtain ⟨hne, hq⟩ := erase_cases hq
      exact (h.accounted tx' q hq).apart (.rollback tx c.shared) hne
    · obtain ⟨-, hq⟩ := erase_cases hq
      exact h.fits tx' q hq

structure Db.Settled (s : Db) : Prop where
  classGroup : Rows.Settled s.classGroup
  course : Rows.Settled s.course
  classCourse : Rows.Settled s.classCourse
  classMember : Rows.Settled s.classMember
  enrollment : Rows.Settled s.enrollment

theorem Db.Settled.idle (h : s.Settled) (tx : ℕ) : s.Idle tx :=
  ⟨h.classGroup.idle tx, h.course.idle tx, h.classCourse.idle tx, h.classMember.idle tx,
    h.enrollment.idle tx⟩

theorem inv_run {ms : List (Move Request World)} (hsettled : s.Settled)
    (hrun : machine.run (.initial s) ms = some c) :
    Inv c (machine.observe events (.initial s) ms) := by
  have hstart : Inv (.initial s) [] :=
    ⟨Config.initial_runs trivial hsettled.idle, fun tx p hp => by simp [Config.initial] at hp,
      fun tx p hp => by simp [Config.initial] at hp⟩
  have hinv := Machine.observe_induction (f := events) (J := Inv)
    (fun h _ hstep => h.step hstep) hstart (Machine.guarded_true _ ms) hrun
  simpa using hinv

def OfOther (c : Config Db Point) (m : Move Request World) : Prop :=
  ∃ tx w, m = .advance tx w ∧ c.calls.lookup tx = some .other

/-- The move answers that the call `tx` made the link. -/
def Makes (c : Config Db Point) (m : Move Request World) (tx : ℕ) (link : Link) : Prop :=
  ∃ w p s', m = .advance tx w ∧ c.calls.lookup tx = some p ∧
    next tx c.shared p w = some (s', .answer (.settled (.made link)))

/-- An attach that answers anything but the link it made leaves the class tables and their
counters as they were, at every statement of it; and the one that made its link has committed
the link and the enrollment of every pair that the committed rows implied when it listed them,
but for the pairs it found with a committed row. -/
theorem attach_all_or_nothing (hsettled : s.Settled) {pre : List (Move Request World)}
    {m : Move Request World} {c c' : Config Db Point}
    (hrun : machine.run (.initial s) pre = some c) (hstep : machine.step c m = some c') :
    (¬ OfOther c m → (∀ tx link, ¬ Makes c m tx link) → c.shared.Same c'.shared) ∧
    ∀ tx link, Makes c m tx link → link.Stands c'.shared ∧
      ∃ pumping tables, link.Of pumping ∧
        (tx, .listed tables) ∈ machine.observe events (.initial s) pre ∧
        ∀ pair, link.Implies tables pair →
          (tx, .found pair) ∈ machine.observe events (.initial s) pre ∨
            (c'.shared.enrollment.row pair).committed = some (rowOf pumping) := by
  have hinv := inv_run hsettled hrun
  constructor
  · intro hpump hmakes
    obtain ⟨request, rfl, rfl⟩ | ⟨tx, w, p, s', n, rfl, hp, hnext, rfl⟩ | ⟨tx, p, rfl, hp, rfl⟩ :=
      Machine.step_cases hstep
    · exact .refl _
    · rw [Config.shared_after]
      have hknows := hinv.runs.calls tx p hp
      have hmine : p ≠ .other := by
        rintro rfl
        exact hpump ⟨tx, w, rfl, hp⟩
      apply (next_moved hmine hknows hnext).same
      rintro link rfl
      exact hmakes tx link ⟨w, p, s', rfl, hp, hnext⟩
    · exact .rollback tx _
  · rintro tx link ⟨w, p, s', rfl, hp, hnext⟩
    have hshared : c'.shared = s' := by
      obtain ⟨_, hcase, -⟩ | ⟨_, _, p', s'', n, hcase, hp', hnext', rfl⟩ | ⟨_, _, hcase, -⟩ :=
        Machine.step_cases hstep
      · cases hcase
      · cases hcase
        cases hp.symm.trans hp'
        have hsame : next tx c.shared p w = some (s'', n) := hnext'
        cases hnext.symm.trans hsame
        exact Config.shared_after c tx _ _
      · cases hcase
    rw [hshared]
    have hknows := hinv.runs.calls tx p hp
    have hmine : p ≠ .other := by
      rintro rfl
      obtain hfail | hact := other_cases hnext
      · cases hfail
      · obtain hgoto | ⟨hanswer, -⟩ := act_next hact
        · cases hgoto
        · cases hanswer
    cases next_moved hmine hknows hnext with
    | refuses _ _ hrefused | aborts hrefused => cases hrefused
    | makes hpoint hmade hof himplies =>
        subst hpoint
        obtain ⟨tables, hlisted, hall⟩ := (hinv.accounted tx _ hp _ _ _ rfl).pairs
        refine ⟨hmade.commit, _, tables, hof (hinv.fits tx _ hp), hlisted, fun pair hpair => ?_⟩
        obtain hleft | hfound | hwritten := hall pair (himplies tables pair hpair)
        · cases hleft
        · exact .inl hfound
        · right
          change ((Rows.commit tx c.shared.enrollment).row pair).committed = _
          rw [Rows.row_commit, Row.committed_commit]
          simp [Row.seen, hwritten]

namespace Sample

def studentId : UserId := ⟨.ending "0901"⟩

def managerId : UserId := ⟨.ending "0902"⟩

def sectionId : ClassGroupId := ⟨.ending "0903"⟩

def physicsId : CourseId := ⟨.ending "0904"⟩

def musicId : CourseId := ⟨.ending "0905"⟩

def physicsInstance : ClassCourseId := ⟨.ending "0906"⟩

def musicInstance : ClassCourseId := ⟨.ending "0907"⟩

def stintId : ClassMemberId := ⟨.ending "0908"⟩

def ninth : GradeLevel := .ninth

def taught (course : CourseId) : ClassCourse where
  toClassCourse := ⟨sectionId, course, managerId, 0, 0⟩
  toInstance := .fresh none ⟨course, ninth⟩

def store : Db where
  appUser := ((∅ : Rows UserId Role).put studentId .student).put managerId .manager
  classBlueprint := ∅
  courseOffering := ((∅ : Rows CourseOfferingId UserId).put ⟨physicsId, ninth⟩ managerId).put
    ⟨musicId, ninth⟩ managerId
  classGroup := (∅ : Rows ClassGroupId ClassGroup).put sectionId ⟨⟨none, 0, 2⟩,
    ⟨"9-A", ninth, none⟩⟩
  course := ((∅ : Rows CourseId Course).put physicsId ⟨.course, 1⟩).put musicId ⟨.course, 1⟩
  classCourse := ((∅ : Rows ClassCourseId ClassCourse).put physicsInstance (taught physicsId)).put
    musicInstance (taught musicId)
  classMember := ∅
  enrollment := ∅

def join : AddMember := ⟨stintId, sectionId, studentId, managerId, none, 5⟩

def still : World := ⟨false, 7, .commit⟩

/-- The row of a hand enrollment. -/
def byHand : Enrollment := ⟨managerId, none, 6⟩

/-- A student joins the section while another transaction enrolls them in music. -/
def joined : List (Move Request World) :=
  [.start (.addMember join), .start .other,
    .advance 1 ⟨false, 6, .enrollment (musicInstance, studentId) (some byHand)⟩,
    .advance 1 still] ++
    List.replicate 9 (.advance 0 still)

def chemistryId : CourseId := ⟨.ending "0909"⟩

def chemistryInstance : ClassCourseId := ⟨.ending "090a"⟩

def formerId : UserId := ⟨.ending "090b"⟩

def formerStint : ClassMemberId := ⟨.ending "090c"⟩

/-- A section with a student who is in it and one who has left. -/
def populated : Db := { store with
  course := store.course.put chemistryId ⟨.course, 0⟩
  classMember := ((∅ : Rows ClassMemberId ClassMember).put stintId join.row).put formerStint
    ⟨sectionId, formerId, managerId, 1, some 3, none⟩ }

def attach : AttachCourse := ⟨chemistryInstance, sectionId, chemistryId, managerId, none, 5⟩

def attached : List (Move Request World) :=
  .start (.attachCourse attach) :: List.replicate 11 (.advance 0 still)

def chemistry : Link :=
  .course chemistryInstance { attach.row ⟨chemistryId, ninth⟩ with enrollmentCount := 1 }

def makes (link : Link) (c : Config Db Point) : Bool :=
  (c.calls.lookup 0).any fun p => (next 0 c.shared p still).any fun r =>
    match r.2 with
    | .answer answer => decide (answer = .settled (.made link))
    | .goto _ => false

theorem makes_step (h : makes link c = true) :
    Makes c (.advance 0 still) 0 link ∧ ∃ c', machine.step c (.advance 0 still) = some c' := by
  obtain ⟨p, hp, hnext⟩ := (Option.any_eq_true _ _).mp h
  obtain ⟨⟨s', n⟩, hr, hn⟩ := (Option.any_eq_true _ _).mp hnext
  cases n with
  | goto => cases hn
  | answer answer =>
      obtain rfl : answer = .settled (.made link) := of_decide_eq_true hn
      have hmove : machine.next 0 c.shared p still = some (s', _) := hr
      exact ⟨⟨still, p, s', rfl, hp, hr⟩, _, by simp only [Machine.step, hp, hmove]; rfl⟩

def listsPhysics : ℕ × Event → Bool
  | (0, .listed tables) =>
      (tables.classCourse.row physicsInstance).committed = some (taught physicsId)
  | (0, .found pair) => pair = (musicInstance, studentId)
  | _ => true

def listsStudent : ℕ × Event → Bool
  | (0, .listed tables) => (tables.classMember.row stintId).committed = some join.row
  | (0, .found _) => false
  | _ => true

/-- Both axes: the student is enrolled in what the section has, and in what it gets. -/
theorem attach_all_or_nothing_joined :
    (∃ c c', machine.run (.initial store) joined = some c ∧
      machine.step c (.advance 0 still) = some c' ∧
      Link.Stands c'.shared (.member stintId join.row) ∧
      ∃ now, (c'.shared.enrollment.row (physicsInstance, studentId)).committed =
        some ⟨managerId, some sectionId, now⟩) ∧
    ∃ c c', machine.run (.initial populated) attached = some c ∧
      machine.step c (.advance 0 still) = some c' ∧ chemistry.Stands c'.shared ∧
      ∃ now, (c'.shared.enrollment.row (chemistryInstance, studentId)).committed =
        some ⟨managerId, some sectionId, now⟩ := by
  constructor
  · have hend : (machine.run (.initial store) joined).any
        (makes (.member stintId join.row)) = true := by decide
    have hlog : (machine.observe events (.initial store) joined).all listsPhysics = true := by
      decide
    obtain ⟨c, hrun, hc⟩ := (Option.any_eq_true _ _).mp hend
    obtain ⟨hmakes, c', hstep⟩ := makes_step hc
    have hsettled : store.Settled :=
      ⟨Rows.settled_of_all (by decide), Rows.settled_of_all (by decide),
        Rows.settled_of_all (by decide), Rows.settled_of_all (by decide),
        Rows.settled_of_all (by decide)⟩
    obtain ⟨hstands, pumping, tables, ⟨hclass, hby⟩, hlisted, hpairs⟩ :=
      (attach_all_or_nothing hsettled hrun hstep).2 0 _ hmakes
    have hphysics : Link.Implies tables (.member stintId join.row) (physicsInstance, studentId) :=
      ⟨rfl, _, of_decide_eq_true (List.all_eq_true.mp hlog _ hlisted), rfl⟩
    refine ⟨c, c', hrun, hstep, hstands, pumping.now, ?_⟩
    obtain hfound | hcommitted := hpairs _ hphysics
    · have hmusic := List.all_eq_true.mp hlog _ hfound
      exact absurd hmusic (by decide)
    · rw [hcommitted, rowOf, ← hclass, ← hby]
      rfl
  · have hend : (machine.run (.initial populated) attached).any (makes chemistry) = true := by
      decide
    have hlog : (machine.observe events (.initial populated) attached).all listsStudent = true := by
      decide
    obtain ⟨c, hrun, hc⟩ := (Option.any_eq_true _ _).mp hend
    obtain ⟨hmakes, c', hstep⟩ := makes_step hc
    have hsettled : populated.Settled :=
      ⟨Rows.settled_of_all (by decide), Rows.settled_of_all (by decide),
        Rows.settled_of_all (by decide), Rows.settled_of_all (by decide),
        Rows.settled_of_all (by decide)⟩
    obtain ⟨hstands, pumping, tables, ⟨hclass, hby⟩, hlisted, hpairs⟩ :=
      (attach_all_or_nothing hsettled hrun hstep).2 0 _ hmakes
    have hstudent : chemistry.Implies tables (chemistryInstance, studentId) :=
      ⟨rfl, stintId, _, of_decide_eq_true (List.all_eq_true.mp hlog _ hlisted), rfl, rfl, rfl⟩
    refine ⟨c, c', hrun, hstep, hstands, pumping.now, ?_⟩
    obtain hfound | hcommitted := hpairs _ hstudent
    · have hnone := List.all_eq_true.mp hlog _ hfound
      cases hnone
    · rw [hcommitted, rowOf, ← hclass, ← hby]
      rfl

end Sample

end Hezarfen.ClassPump
