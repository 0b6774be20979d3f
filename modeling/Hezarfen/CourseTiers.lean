import Mathlib.Logic.Function.Basic
import Hezarfen.CourseCalls

/-!
# The two tiers stay apart while no PATCH moves a course across

Every write of the calls is one act on the tiers: which courses are class-delivered,
which course an instance teaches and who joined which course.  The tiers stay apart
under an act that fits them and under no other.
-/

namespace Hezarfen.Courses

open Interleaving
open School

variable {course : CourseId} {s : Db} {w : World} {classId : ClassGroupId} {by_ : UserId}
  {p : Point}

/-! ## The tiers -/

@[ext]
structure Tiers where
  delivered : CourseId → Option Bool
  teaches : ClassCourseId → Option CourseId
  joins : CourseId × UserId → Bool

structure Tiers.Apart (t : Tiers) : Prop where
  taught : ∀ instance_ course, t.teaches instance_ = some course → t.delivered course = some true
  joined : ∀ pair, t.joins pair = true → t.delivered pair.1 = some false

inductive Act where
  | create (course : CourseId) (delivered : Bool)
  | rekind (course : CourseId) (delivered : Bool)
  | attach (instance_ : ClassCourseId) (course : CourseId)
  | detach (instance_ : ClassCourseId)
  | join (pair : CourseId × UserId)
  | leave (pair : CourseId × UserId)
  | pass

def Tiers.apply (t : Tiers) : Act → Tiers
  | .create course delivered =>
      { t with delivered := Function.update t.delivered course (some delivered) }
  | .rekind course delivered =>
      { t with
        delivered := Function.update t.delivered course
          ((t.delivered course).map fun _ => delivered) }
  | .attach instance_ course =>
      { t with teaches := Function.update t.teaches instance_ (some course) }
  | .detach instance_ => { t with teaches := Function.update t.teaches instance_ none }
  | .join pair => { t with joins := Function.update t.joins pair true }
  | .leave pair => { t with joins := Function.update t.joins pair false }
  | .pass => t

def Tiers.Fits (t : Tiers) : Act → Prop
  | .create course _ => t.delivered course = none
  | .rekind course true => ∀ user, t.joins (course, user) = false
  | .rekind course false => ∀ instance_, t.teaches instance_ ≠ some course
  | .attach _ course => t.delivered course = some true
  | .join pair => t.delivered pair.1 = some false
  | _ => True

variable {t : Tiers}

theorem Tiers.Apart.create
    (h : t.Apart) (hnew : t.delivered course = none) (delivered : Bool) :
    (t.apply (.create course delivered)).Apart := by
  constructor
  · intro instance_ taught hteaches
    have hold := h.taught instance_ taught hteaches
    have hne : taught ≠ course := by
      rintro rfl
      simp [hnew] at hold
    simpa [Tiers.apply, hne] using hold
  · intro pair hjoins
    have hold := h.joined pair hjoins
    have hne : pair.1 ≠ course := by
      rintro rfl
      simp [hnew] at hold
    simpa [Tiers.apply, hne] using hold

theorem Tiers.Apart.deliver
    (h : t.Apart) (course : CourseId) :
    (t.apply (.rekind course true)).Apart ↔ ∀ user, t.joins (course, user) = false := by
  constructor
  · intro hafter user
    by_contra hjoins
    have hjoins : t.joins (course, user) = true := by simpa using hjoins
    have hbefore := h.joined _ hjoins
    have hmoved := hafter.joined _ hjoins
    simp [Tiers.apply, hbefore] at hmoved
  · intro hnobody
    constructor
    · intro instance_ taught hteaches
      have hold := h.taught instance_ taught hteaches
      by_cases heq : taught = course
      · subst heq
        simp [Tiers.apply, hold]
      · simpa [Tiers.apply, heq] using hold
    · intro pair hjoins
      have hne : pair.1 ≠ course := by
        rintro rfl
        exact absurd (hjoins.symm.trans (hnobody pair.2)) (by simp)
      simpa [Tiers.apply, hne] using h.joined pair hjoins

theorem Tiers.Apart.undeliver
    (h : t.Apart) (course : CourseId) :
    (t.apply (.rekind course false)).Apart ↔ ∀ instance_, t.teaches instance_ ≠ some course := by
  constructor
  · intro hafter instance_ hteaches
    have hbefore := h.taught instance_ course hteaches
    have hmoved := hafter.taught instance_ course hteaches
    simp [Tiers.apply, hbefore] at hmoved
  · intro hnone
    constructor
    · intro instance_ taught hteaches
      have hne : taught ≠ course := by
        rintro rfl
        exact hnone instance_ hteaches
      simpa [Tiers.apply, hne] using h.taught instance_ taught hteaches
    · intro pair hjoins
      have hold := h.joined pair hjoins
      by_cases heq : pair.1 = course
      · subst heq
        simp [Tiers.apply, hold]
      · simpa [Tiers.apply, heq] using hold

theorem Tiers.Apart.attach
    (h : t.Apart) (instance_ : ClassCourseId) (course : CourseId) :
    (t.apply (.attach instance_ course)).Apart ↔ t.delivered course = some true := by
  constructor
  · intro hafter
    exact hafter.taught instance_ course (by simp [Tiers.apply])
  · intro hdelivered
    refine ⟨?_, h.joined⟩
    intro other taught hteaches
    by_cases heq : other = instance_
    · simp only [Tiers.apply, heq, Function.update_self, Option.some.injEq] at hteaches
      exact hteaches ▸ hdelivered
    · simp only [Tiers.apply, Function.update_of_ne heq] at hteaches
      exact h.taught other taught hteaches

theorem Tiers.Apart.detach
    (h : t.Apart) (instance_ : ClassCourseId) : (t.apply (.detach instance_)).Apart := by
  refine ⟨?_, h.joined⟩
  intro other taught hteaches
  by_cases heq : other = instance_
  · simp [Tiers.apply, heq] at hteaches
  · simp only [Tiers.apply, Function.update_of_ne heq] at hteaches
    exact h.taught other taught hteaches

theorem Tiers.Apart.join
    (h : t.Apart) (pair : CourseId × UserId) :
    (t.apply (.join pair)).Apart ↔ t.delivered pair.1 = some false := by
  constructor
  · intro hafter
    exact hafter.joined pair (by simp [Tiers.apply])
  · intro hdelivered
    refine ⟨h.taught, ?_⟩
    intro other hjoins
    by_cases heq : other = pair
    · exact heq ▸ hdelivered
    · simp only [Tiers.apply, Function.update_of_ne heq] at hjoins
      exact h.joined other hjoins

theorem Tiers.Apart.leave
    (h : t.Apart) (pair : CourseId × UserId) : (t.apply (.leave pair)).Apart := by
  refine ⟨h.taught, ?_⟩
  intro other hjoins
  by_cases heq : other = pair
  · simp [Tiers.apply, heq] at hjoins
  · simp only [Tiers.apply, Function.update_of_ne heq] at hjoins
    exact h.joined other hjoins

theorem Tiers.Apart.apply_iff
    (h : t.Apart) {a : Act}
    (hcreate : ∀ course delivered, a = .create course delivered → t.delivered course = none) :
    (t.apply a).Apart ↔ t.Fits a := by
  cases a with
  | create course delivered =>
      have hnew := hcreate course delivered rfl
      exact ⟨fun _ => hnew, fun _ => h.create hnew delivered⟩
  | rekind course delivered =>
      cases delivered with
      | true => exact h.deliver course
      | false => exact h.undeliver course
  | attach instance_ course => exact h.attach instance_ course
  | detach instance_ => exact ⟨fun _ => trivial, fun _ => h.detach instance_⟩
  | join pair => exact h.join pair
  | leave pair => exact ⟨fun _ => trivial, fun _ => h.leave pair⟩
  | pass => exact ⟨fun _ => trivial, fun _ => h⟩

/-! ## What the calls do to the tiers -/

def Db.tiers (s : Db) : Tiers where
  delivered course := (s.roster.course.lookup course).map fun row => row.kind.isClassDelivered
  teaches instance_ := (s.roster.classCourse.lookup instance_).map fun row => row.course
  joins pair := (s.courseMembership.lookup pair).isSome

def Db.attachLands (s : Db) (instance_ : ClassCourseId) (classId : ClassGroupId)
    (course : CourseId) : Bool :=
  (s.roster.classGroup.lookup classId).any (fun row => row.classCourseCount < maxClassCourses) &&
    (s.roster.classCourse.lookup instance_).isNone &&
    !Table.any s.roster.classCourse (fun _ row =>
      decide (row.classId = classId) && decide (row.course = course)) &&
    (s.roster.course.lookup course).isSome

def Db.joinLands (s : Db) (course : CourseId) (target by_ : UserId) : Bool :=
  (s.courseMembership.lookup (course, target)).isNone &&
    decide (s.role.lookup target = some .student) &&
    (s.roster.course.lookup course).isSome && (s.role.lookup by_).isSome

def act (s : Db) (w : World) : Point → Act
  | .create args =>
      if (s.roster.course.lookup ⟨w.uuid⟩).isNone && (s.role.lookup args.creator).isSome then
        .create ⟨w.uuid⟩ args.kind.isClassDelivered
      else .pass
  | .patchWrite course patch =>
      match patch.kind with
      | none => .pass
      | some kind => .rekind course kind.isClassDelivered
  | .attachInsert classId course _ =>
      if s.attachLands ⟨w.uuid⟩ classId course then .attach ⟨w.uuid⟩ course else .pass
  | .detach classId course =>
      if w.gates.isSome then .pass
      else
        match s.roster.instanceOf classId course with
        | none => .pass
        | some instance_ => .detach instance_
  | .joinTx course target by_ =>
      if s.joinLands course target by_ then .join (course, target) else .pass
  | .leaveRemove course target => .leave (course, target)
  | _ => .pass

/-- A store with the same tiers under another roster. -/
theorem tiers_withRoster
    {r : Roster} (hcourse : r.course = s.roster.course)
    (hlinks : ∀ instance_, r.linkOf instance_ = s.roster.linkOf instance_) :
    ({ s with roster := r } : Db).tiers = s.tiers := by
  ext1
  · simp only [Db.tiers, hcourse]
  · funext instance_
    have hlink := congrArg (Option.map Prod.snd) (hlinks instance_)
    simpa [Roster.linkOf, Db.tiers, Function.comp_def] using hlink
  · rfl

theorem create_tiers
    {args : CreateArgs} {reply : Unit → Reply} :
    (settle reply (txWithRetry (create ⟨w.uuid⟩ args) s)).1.tiers =
      s.tiers.apply (act s w (.create args)) := by
  simp only [act, txWithRetry, create]
  cases hcourse : s.roster.course.lookup ⟨w.uuid⟩ with
  | some => simp [settle, Tiers.apply]
  | none =>
      cases hcreator : s.role.lookup args.creator with
      | none => simp [settle, Tiers.apply]
      | some =>
          simp only [Option.isSome_none, Option.isNone_none, Option.isSome_some, Bool.and_self,
            Bool.false_eq_true, if_true, if_false, settle, Tiers.apply]
          ext1
          · funext course
            simp only [Db.tiers, lookup_insert_eq, Function.update_apply]
            split <;> rfl
          · rfl
          · rfl

theorem update_tiers
    {patch : CoursePatch} {reply : Unit → Reply} :
    (settle reply (txWithRetry (update course patch) s)).1.tiers =
      s.tiers.apply (act s w (.patchWrite course patch)) := by
  simp only [act, txWithRetry, update]
  cases hcourse : s.roster.course.lookup course with
  | none =>
      cases patch.kind with
      | none => rfl
      | some =>
          ext1
          · funext other
            simp only [settle, Tiers.apply, Db.tiers, Function.update_apply]
            split
            · next heq =>
              subst heq
              simp [hcourse]
            · rfl
          · rfl
          · rfl
  | some =>
      ext1
      · funext other
        cases patch.kind with
        | none =>
            simp only [settle, Tiers.apply, Db.tiers, lookup_insert_eq]
            split
            · next heq =>
              subst heq
              simp [hcourse]
            · rfl
        | some =>
            simp only [settle, Tiers.apply, Db.tiers, lookup_insert_eq, Function.update_apply]
            split
            · simp [hcourse]
            · rfl
      · cases patch.kind <;> rfl
      · cases patch.kind <;> rfl

/-- The pump finds the instance it was just given. -/
theorem enrollPairs_ok
    (pumping : Roster.Pumping) {pairs : List (ClassCourseId × UserId)} {r : Roster}
    (hpairs : ∀ pair ∈ pairs, (r.classCourse.lookup pair.1).isSome = true) :
    ∃ r', Roster.enrollPairs pumping r pairs = .ok r' := by
  induction pairs generalizing r with
  | nil => exact ⟨r, rfl⟩
  | cons pair rest ih =>
      simp only [Roster.enrollPairs]
      split
      · exact ih fun other hother => hpairs other (List.mem_cons_of_mem _ hother)
      · obtain ⟨row, hrow⟩ := Option.isSome_iff_exists.mp (hpairs pair (List.mem_cons_self ..))
        rw [hrow]
        refine ih fun other hother => ?_
        have hold := hpairs other (List.mem_cons_of_mem _ hother)
        simp only [lookup_insert_eq]
        split
        · rfl
        · exact hold

theorem attachInsert_lands
    {id : ClassCourseId} (pumping : Roster.Pumping)
    (hlands : s.attachLands id pumping.classId course = true) :
    ∃ verdict r', attachInsert s.roster id pumping course = .ok (verdict, r') ∧
      ({ s with roster := r' } : Db).tiers = s.tiers.apply (.attach id course) := by
  simp only [Db.attachLands, Bool.and_eq_true, Option.any_eq_true, decide_eq_true_eq,
    Option.isNone_iff_eq_none, Bool.not_eq_true', Option.isSome_iff_exists] at hlands
  obtain ⟨⟨⟨⟨row, hclass, hroom⟩, hfresh⟩, hnew⟩, taught, hcourse⟩ := hlands
  let linked : Roster :=
    { s.roster with
      classGroup := s.roster.classGroup.insert pumping.classId
        { row with classCourseCount := row.classCourseCount + 1 }
      course := s.roster.course.insert course
        { taught with classCourseCount := taught.classCourseCount + 1 }
      classCourse := s.roster.classCourse.insert id
        ⟨pumping.classId, course, pumping.by_, pumping.now, 0⟩ }
  have hfound : ∀ pair ∈ (linked.liveMembers pumping.classId).map fun user => (id, user),
      (linked.classCourse.lookup pair.1).isSome = true := by
    intro pair hmem
    obtain ⟨user, -, rfl⟩ := List.mem_map.mp hmem
    exact Option.isSome_iff_exists.mpr ⟨_, AList.lookup_insert _⟩
  obtain ⟨r', hpump⟩ := enrollPairs_ok pumping hfound
  have hok : attachInsert s.roster id pumping course =
      .ok (.made ((r'.classCourse.lookup id).getD
        ⟨pumping.classId, course, pumping.by_, pumping.now, 0⟩), r') := by
    unfold attachInsert
    simp only [hclass, hroom, hfresh, hnew, hcourse, if_true, Option.isSome_none,
      Bool.false_eq_true, if_false]
    rw [show Roster.enrollPairs pumping _ _ = .ok r' from hpump]
  refine ⟨_, r', hok, ?_⟩
  have hlinks := Roster.enrollPairs_linkOf hpump
  have hkinds := (Roster.enrollPairs_same hpump).course
  ext1
  · funext other
    simp only [Db.tiers, Tiers.apply, hkinds, linked, lookup_insert_eq]
    split
    · next heq =>
      subst heq
      simp [hcourse]
    · rfl
  · funext other
    have hlink := congrArg (Option.map Prod.snd) (hlinks other)
    simp only [Roster.linkOf, Option.map_map, Function.comp_def, linked,
      lookup_insert_eq] at hlink
    simp only [Db.tiers, Tiers.apply, hlink, Function.update_apply]
    split <;> rfl
  · rfl

theorem attachInsert_refused
    {id : ClassCourseId} {pumping : Roster.Pumping}
    (hrefused : s.attachLands id pumping.classId course = false) {verdict : Attached ClassCourse}
    {r' : Roster} (hok : attachInsert s.roster id pumping course = .ok (verdict, r')) :
    r' = s.roster := by
  unfold attachInsert at hok
  split at hok
  · cases hok
    rfl
  next row hclass =>
    split at hok
    next hroom =>
      split at hok
      · cases hok
      next hfresh =>
        split at hok
        · cases hok
          rfl
        next hnew =>
          split at hok
          · cases hok
            rfl
          · next taught hcourse =>
            simp [Db.attachLands, hclass, hroom, hcourse, hfresh, hnew] at hrefused
    · cases hok
      rfl

theorem attach_tiers :
    (attachTx s w classId course by_).1.tiers =
      s.tiers.apply (act s w (.attachInsert classId course by_)) := by
  simp only [act]
  split
  · next hlands =>
    obtain ⟨verdict, r', hok, htiers⟩ := attachInsert_lands ⟨classId, by_, w.now⟩ hlands
    simp only [attachTx, hok, htiers]
  · next hrefused =>
    simp only [attachTx]
    split
    · rfl
    · next verdict r' hok =>
      rw [attachInsert_refused (by simpa using hrefused) hok]
      rfl

theorem detachCourse_kinds (r : Roster) (classId : ClassGroupId) (course other : CourseId) :
    ((r.detachCourse classId course).2.course.lookup other).map (fun row => row.kind) =
      (r.course.lookup other).map fun row => row.kind := by
  unfold Roster.detachCourse
  split
  · rfl
  · simp only [Roster.releaseSection, Roster.releaseCourse, Roster.sweepInstance,
      lookup_update]
    cases r.course.lookup other with
    | none => rfl
    | some =>
        simp only [Option.map_some]
        split <;> rfl

theorem detach_tiers :
    (detach s w classId course).1.tiers = s.tiers.apply (act s w (.detach classId course)) := by
  unfold detach act
  cases hgates : w.gates with
  | some => rfl
  | none =>
      simp only [Option.isSome_none, Bool.false_eq_true, if_false]
      cases htarget : s.roster.instanceOf classId course with
      | none =>
          simp only [Roster.detachCourse, htarget]
          rfl
      | some =>
          have hlinks := Roster.detachCourse_linkOf htarget
          have hkinds := detachCourse_kinds s.roster classId course
          ext1
          · funext other
            have hkind := congrArg (Option.map CourseKind.isClassDelivered) (hkinds other)
            simpa [Db.tiers, Tiers.apply, Option.map_map, Function.comp_def] using hkind
          · funext other
            have hlink := congrArg (Option.map Prod.snd) (hlinks other)
            simp only [Roster.linkOf, Option.map_map, Function.comp_def] at hlink
            simp only [Db.tiers, Tiers.apply, Function.update_apply, hlink]
            split
            · rfl
            · simp [Option.map_map, Function.comp_def]
          · rfl

theorem addMember_tiers
    {user : UserId} :
    (addMember s w classId user by_).1.tiers = s.tiers := by
  unfold addMember
  split
  · rfl
  · dsimp only
    cases hadd : s.roster.addMember (s.role.lookup user) ⟨w.uuid⟩
      ⟨classId, by_, w.now⟩ user none with
    | mk verdict =>
        cases verdict with
        | made =>
            obtain ⟨row, -, -, -, -, -, -, hpump⟩ := Roster.addMember_made hadd
            have hlinks := Roster.enrollPairs_linkOf hpump
            exact tiers_withRoster (Roster.enrollPairs_same hpump).course hlinks
        | _ =>
            rw [Roster.addMember_refused hadd (by simp)]

theorem join_tiers
    {target : UserId} {reply : Verdict → Reply} :
    (settle reply (txWithRetry (addTx course target by_ w.now) s)).1.tiers =
      s.tiers.apply (act s w (.joinTx course target by_)) := by
  simp only [act]
  split
  · next hlands =>
    simp only [Db.joinLands, Bool.and_eq_true, Option.isNone_iff_eq_none, decide_eq_true_eq,
      Option.isSome_iff_exists] at hlands
    obtain ⟨⟨⟨hnew, hrole⟩, taught, hcourse⟩, role, hby⟩ := hlands
    simp only [txWithRetry, addTx, hnew, hrole, hcourse, hby, Option.isSome_none,
      Option.isSome_some, Bool.false_eq_true, if_false, if_true, ne_eq, not_true, settle]
    ext1
    · rfl
    · rfl
    · funext pair
      simp only [Db.tiers, Tiers.apply, lookup_insert_eq, Function.update_apply]
      split <;> rfl
  · next hrefused =>
    simp only [txWithRetry, addTx]
    split
    next verdict s' hadd =>
      split at hadd
      · cases hadd
        rfl
      next hnew =>
        split at hadd
        · cases hadd
          rfl
        next hrole =>
          split at hadd
          · cases hadd
          next taught hcourse =>
            split at hadd
            next hby => simp_all [Db.joinLands]
            · cases hadd
    · rfl

theorem leave_tiers
    {target : UserId} :
    (leaveRemove s course target).1.tiers = s.tiers.apply (.leave (course, target)) := by
  unfold leaveRemove remove
  cases hheld : s.courseMembership.lookup (course, target) with
  | none =>
      ext1
      · rfl
      · rfl
      · funext pair
        simp only [Db.tiers, Tiers.apply, Function.update_apply]
        split
        · next heq =>
          subst heq
          simp [hheld]
        · rfl
  | some =>
      ext1
      · rfl
      · rfl
      · funext pair
        simp only [Db.tiers, Tiers.apply, lookup_erase_eq, Function.update_apply]
        split <;> rfl

/-- Every step of a call is its act. -/
theorem next_tiers
    {id : ℕ} {r : Db × Reply} (hnext : next id s p w = some r) :
    r.1.tiers = s.tiers.apply (act s w p) := by
  cases p with
  | create =>
      cases hnext
      exact create_tiers
  | patchWrite =>
      cases hnext
      exact update_tiers
  | attachInsert =>
      cases hnext
      exact attach_tiers
  | detach =>
      cases hnext
      exact detach_tiers
  | addMember =>
      cases hnext
      exact addMember_tiers
  | joinTx =>
      cases hnext
      exact join_tiers
  | leaveRemove =>
      cases hnext
      exact leave_tiers
  | createUser =>
      cases hnext
      simp only [createUser]
      split <;> rfl
  | createClass =>
      cases hnext
      simp only [createClass]
      split <;> rfl
  | _ =>
      cases hnext
      rfl

/-! ## The runs that keep the tiers apart -/

structure Db.Apart (s : Db) : Prop where
  taught : ∀ instance_ row, s.roster.classCourse.lookup instance_ = some row →
    ∃ course, s.roster.course.lookup row.course = some course ∧
      course.kind.isClassDelivered = true
  joined : ∀ course user row, s.courseMembership.lookup (course, user) = some row →
    ∃ activity, s.roster.course.lookup course = some activity ∧
      activity.kind.isClassDelivered = false

theorem Db.apart_iff : s.Apart ↔ s.tiers.Apart := by
  constructor
  · intro h
    constructor
    · intro instance_ course hteaches
      simp only [Db.tiers, Option.map_eq_some_iff] at hteaches ⊢
      obtain ⟨row, hrow, rfl⟩ := hteaches
      exact h.taught instance_ row hrow
    · intro pair hjoins
      simp only [Db.tiers, Option.isSome_iff_exists] at hjoins
      obtain ⟨row, hrow⟩ := hjoins
      simpa only [Db.tiers, Option.map_eq_some_iff] using h.joined pair.1 pair.2 row hrow
  · intro h
    constructor
    · intro instance_ row hrow
      simpa only [Db.tiers, Option.map_eq_some_iff] using
        h.taught instance_ row.course (by simp [Db.tiers, hrow])
    · intro course user row hrow
      simpa only [Db.tiers, Option.map_eq_some_iff] using
        h.joined (course, user) (by simp [Db.tiers, hrow])

/-- What the writes do not check: a PATCH moves no course away from a row of its tier, and the
transaction of an attach or of a join finds the kind still as its gate read it. -/
def keepsTiers (s : Db) (p : Point) (w : World) : Bool :=
  match p with
  | .patchWrite course patch =>
      patch.kind.all fun kind =>
        if kind.isClassDelivered then
          !Table.any s.courseMembership fun pair _ => decide (pair.1 = course)
        else !Table.any s.roster.classCourse fun _ row => decide (row.course = course)
  | .attachInsert classId course _ =>
      !s.attachLands ⟨w.uuid⟩ classId course ||
        (s.roster.course.lookup course).any fun row => row.kind.isClassDelivered
  | .joinTx course target by_ =>
      !s.joinLands course target by_ ||
        (s.roster.course.lookup course).any fun row => !row.kind.isClassDelivered
  | _ => true

theorem rekind_fits
    {delivered : Bool} :
    (if delivered then !Table.any s.courseMembership fun pair _ => decide (pair.1 = course)
      else !Table.any s.roster.classCourse fun _ row => decide (row.course = course)) = true ↔
      s.tiers.Fits (.rekind course delivered) := by
  cases delivered with
  | true =>
      simp only [if_true, Bool.not_eq_true', Table.any_eq_false_iff, decide_eq_false_iff_not,
        Tiers.Fits, Db.tiers, Option.isSome_eq_false_iff, Option.isNone_iff_eq_none]
      constructor
      · intro hnobody user
        by_contra hjoined
        obtain ⟨row, hrow⟩ := Option.ne_none_iff_exists'.mp hjoined
        exact hnobody (course, user) row hrow rfl
      · rintro hnobody ⟨other, user⟩ row hrow rfl
        rw [hnobody user] at hrow
        cases hrow
  | false =>
      simp only [Bool.false_eq_true, if_false, Bool.not_eq_true', Table.any_eq_false_iff,
        decide_eq_false_iff_not, Tiers.Fits, Db.tiers, ne_eq, Option.map_eq_some_iff, not_exists,
        not_and]

/-- The guard is what the act of the step needs. -/
theorem keepsTiers_iff : keepsTiers s p w = true ↔ s.tiers.Fits (act s w p) := by
  cases p with
  | create =>
      simp only [keepsTiers, act, true_iff]
      split
      · next hlands =>
        simp only [Bool.and_eq_true, Option.isNone_iff_eq_none] at hlands
        simp [Tiers.Fits, Db.tiers, hlands.1]
      · trivial
  | patchWrite course patch =>
      simp only [keepsTiers, act]
      cases patch.kind with
      | none => exact ⟨fun _ => trivial, fun _ => rfl⟩
      | some => exact rekind_fits
  | attachInsert | joinTx =>
      simp only [keepsTiers, act]
      split
      · next hlands => simp [hlands, Tiers.Fits, Db.tiers, Option.any_eq_true]
      · next hrefused => exact ⟨fun _ => trivial, fun _ => by simp [hrefused]⟩
  | detach =>
      simp only [keepsTiers, act, true_iff]
      split
      · trivial
      · split <;> trivial
  | _ => exact ⟨fun _ => trivial, fun _ => rfl⟩

theorem act_create
    {delivered : Bool} (h : act s w p = .create course delivered) :
    s.tiers.delivered course = none := by
  cases p with
  | create =>
      simp only [act] at h
      split at h
      · next hlands =>
        cases h
        simp only [Bool.and_eq_true, Option.isNone_iff_eq_none] at hlands
        simp [Db.tiers, hlands.1]
      · cases h
  | patchWrite | attachInsert | joinTx =>
      simp only [act] at h
      split at h <;> cases h
  | detach =>
      simp only [act] at h
      split at h
      · cases h
      · split at h <;> cases h
  | _ => cases h

theorem allows_iff_apart
    {c d : Config Db Point} {m : Move Request World} (hs : c.shared.Apart)
    (hstep : machine.step c m = some d) : c.Allows keepsTiers m ↔ d.shared.Apart := by
  obtain ⟨request, rfl, rfl⟩ | ⟨id, w, p, s, n, rfl, hp, hnext, rfl⟩ | ⟨id, p, rfl, hp, rfl⟩ :=
    Machine.step_cases hstep
  · exact ⟨fun _ => hs, fun _ => trivial⟩
  · have htiers : s.tiers = c.shared.tiers.apply (act c.shared w p) :=
      next_tiers (show next id c.shared p w = some (s, n) from hnext)
    have hallows : c.Allows keepsTiers (.advance id w : Move Request World) ↔
        keepsTiers c.shared p w = true := by
      simp [Config.Allows, hp]
    rw [hallows, keepsTiers_iff, Config.shared_after, Db.apart_iff, htiers]
    exact ((Db.apart_iff.mp hs).apply_iff fun _ _ => act_create).symm
  · exact ⟨fun _ => hs, fun _ => trivial⟩

/-- The runs in which no write takes a course out of the tier of a row are exactly those in
which the tiers stay apart throughout. -/
theorem tiers_apart_iff
    {ms : List (Move Request World)} {c : Config Db Point}
    (hrun : machine.run start ms = some c) :
    machine.Guarded (Config.Allows keepsTiers) start ms ↔
      ∀ pre d, pre <+: ms → machine.run start pre = some d → d.shared.Apart := by
  have hempty : start.shared.Apart := by
    constructor
    · intro instance_ row hrow
      cases hrow
    · intro course user row hrow
      cases hrow
  exact Machine.guarded_iff_always (M := machine) (J := fun _ => True)
    (Q := fun c => c.shared.Apart) (fun _ _ => trivial)
    (fun _ hs hstep => allows_iff_apart hs hstep) trivial hempty hrun

section Runs

def headmaster : UserId := ⟨.ending "0001"⟩

def sectionUuid : Uuid := .ending "0002"

def algebraUuid : Uuid := .ending "0003"

def instanceUuid : Uuid := .ending "0004"

/-- One step of the call `id`, which mints `uuid` where it mints one. -/
def mint (id : ℕ) (uuid : Uuid) : Move Request World := .advance id ⟨0, uuid, none⟩

def opening : List (Move Request World) :=
  [.start (.createUser headmaster .manager), mint 0 sectionUuid,
    .start .createClass, mint 1 sectionUuid,
    .start (.create ⟨headmaster, "Algebra", "", .course⟩), mint 2 algebraUuid,
    .start (.attach ⟨sectionUuid⟩ ⟨algebraUuid⟩ headmaster), mint 3 instanceUuid]

def rekind (kind : CourseKind) : Move Request World :=
  .start (.update ⟨algebraUuid⟩ ⟨none, none, some kind⟩)

def attached : List (Move Request World) :=
  opening ++ [mint 3 instanceUuid, rekind .course, mint 4 instanceUuid, mint 4 instanceUuid]

theorem tiers_apart_iff_attached :
    ∃ c row course, machine.run start attached = some c ∧
      c.shared.roster.classCourse.lookup ⟨instanceUuid⟩ = some row ∧
      c.shared.roster.course.lookup row.course = some course ∧
      course.kind.isClassDelivered = true := by
  have hend : (machine.run start attached).any (fun c =>
      (c.shared.roster.classCourse.lookup ⟨instanceUuid⟩).isSome) = true := by
    decide
  have hguard : machine.Guarded (Config.Allows keepsTiers) start attached := by
    decide
  obtain ⟨c, hrun, hattached⟩ := (Option.any_eq_true _ _).mp hend
  obtain ⟨row, hrow⟩ := Option.isSome_iff_exists.mp hattached
  have hapart := (tiers_apart_iff hrun).mp hguard attached c (List.prefix_refl _) hrun
  obtain ⟨course, hcourse, hkind⟩ := hapart.taught ⟨instanceUuid⟩ row hrow
  exact ⟨c, row, course, hrun, hrow, hcourse, hkind⟩

/-- The PATCH to a club lands between the gate of the attach and its insert. -/
def rekindedBetween : List (Move Request World) :=
  opening ++ [rekind .club, mint 4 instanceUuid, mint 4 instanceUuid, mint 3 instanceUuid]

def rekindedAfter : List (Move Request World) :=
  opening ++ [mint 3 instanceUuid, rekind .club, mint 4 instanceUuid, mint 4 instanceUuid]

def Db.crossed (s : Db) : Bool :=
  (s.roster.classCourse.lookup ⟨instanceUuid⟩).any fun row =>
    (s.roster.course.lookup row.course).any fun course => !course.kind.isClassDelivered

theorem Db.Apart.not_crossed (h : s.Apart) : s.crossed = false := by
  by_contra hcrossed
  simp only [Db.crossed, Bool.not_eq_false, Option.any_eq_true] at hcrossed
  obtain ⟨row, hrow, course, hcourse, hkind⟩ := hcrossed
  obtain ⟨delivered, hdelivered, htier⟩ := h.taught ⟨instanceUuid⟩ row hrow
  rw [hcourse] at hdelivered
  cases hdelivered
  simp [htier] at hkind

theorem rekinded_crosses :
    (∃ c, machine.run start rekindedBetween = some c ∧ ¬ c.shared.Apart) ∧
      ∃ c, machine.run start rekindedAfter = some c ∧ ¬ c.shared.Apart := by
  have hbetween : (machine.run start rekindedBetween).any (fun c => c.shared.crossed) = true := by
    decide
  have hafter : (machine.run start rekindedAfter).any (fun c => c.shared.crossed) = true := by
    decide
  constructor
  · obtain ⟨c, hrun, hcrossed⟩ := (Option.any_eq_true _ _).mp hbetween
    refine ⟨c, hrun, ?_⟩
    intro hapart
    simp [hapart.not_crossed] at hcrossed
  · obtain ⟨c, hrun, hcrossed⟩ := (Option.any_eq_true _ _).mp hafter
    refine ⟨c, hrun, ?_⟩
    intro hapart
    simp [hapart.not_crossed] at hcrossed

end Runs

end Hezarfen.Courses
