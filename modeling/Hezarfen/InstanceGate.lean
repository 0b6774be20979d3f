import Mathlib.Data.List.Sort
import Hezarfen.RoleSweep
import Hezarfen.RosterPump

/-!
# The list of a caller's instances and the gate on each

`visible_instances` reads live stints, homerooms and assignments; the gate
`can_view_instance` reads homerooms, assignments and enrollment rows.  They agree
exactly as long as the enrollment rows are the join of stints and instances, which
hand placement, hand removal and a leave can break.
-/

namespace Hezarfen.School

open Interleaving

namespace Roster

/-- `ORDER BY attached_at DESC, id DESC` -/
def newestFirst (rows : List (ClassCourseId × ClassCourse)) :
    List (ClassCourseId × ClassCourse) :=
  rows.insertionSort fun a b =>
    b.2.attachedAt < a.2.attachedAt ∨
      a.2.attachedAt = b.2.attachedAt ∧ b.1.uuid.hyphenated ≤ a.1.uuid.hyphenated

/-- The rows of `class_course` that satisfy a condition. -/
def instancesWhere (r : Roster) (p : ClassCourseId → ClassCourse → Bool) :
    List (ClassCourseId × ClassCourse) :=
  newestFirst ((r.classCourse.entries.filter fun row => p row.1 row.2).map
    fun row => (row.1, row.2))

/-- `class_course::list_for_class_ids` -/
def listForClassIds (r : Roster) (classes : List ClassGroupId) :
    List (ClassCourseId × ClassCourse) :=
  r.instancesWhere fun _ row => row.classId ∈ classes

/-- `class_course::list_for_teacher_ids` -/
def listForTeacherIds (r : Roster) (teacher : UserId) : List (ClassCourseId × ClassCourse) :=
  r.instancesWhere fun instance_ _ => (r.classCourseTeacher.lookup (instance_, teacher)).isSome

/-- `class_member::list_for_user`, as far as the sections go. -/
def listForUser (r : Roster) (user : UserId) : List ClassGroupId :=
  (r.classMember.entries.filter fun row =>
    decide (row.2.user = user) && row.2.leftAt.isNone).map fun row => row.2.classId

end Roster

def ensureInstanceTeacher (s : Db) (user : UserId) (role : Role) (instance_ : ClassCourseId) :
    Except AppError Unit :=
  if role.atLeast .manager then .ok ()
  else
    match s.roster.classCourse.lookup instance_ with
    | none => .error .notFound
    | some link =>
        if role.atLeast .teacher &&
            ((s.roster.classCourseTeacher.lookup (instance_, user)).isSome ||
              decide ((s.roster.classGroup.lookup link.classId).bind ClassGroup.teacher =
                some user)) then
          .ok ()
        else
          .error (.forbidden
            ("only this instance's teachers, its class's homeroom teacher, or " ++
              "a manager may act here"))

def canManageInstance (s : Db) (user : UserId) (role : Role) (instance_ : ClassCourseId) : Bool :=
  (ensureInstanceTeacher s user role instance_).isOk

def canViewInstance (s : Db) (user : UserId) (role : Role) (instance_ : ClassCourseId) : Bool :=
  if canManageInstance s user role instance_ then true
  else (s.roster.enrollment.lookup (instance_, user)).isSome

abbrev Listed := (ClassCourseId × ClassCourse) × Bool

/-- An assigned instance that the section arm already carried is dropped. -/
def pushAssigned (rows : List Listed) (assigned : ClassCourseId × ClassCourse) : List Listed :=
  if rows.any fun row => row.1.1 = assigned.1 then rows else rows ++ [(assigned, true)]

def visibleInstances (s : Db) (user : UserId) (role : Role) : List Listed :=
  let staff := role.atLeast .teacher
  let members := s.roster.listForUser user
  let homeroom := if staff then s.roster.homeroomsOf user else []
  let classes := members ++ homeroom.filter fun classId => classId ∉ members
  let rows := (s.roster.listForClassIds classes).map fun row =>
    (row, decide (row.2.classId ∈ homeroom))
  if staff then (s.roster.listForTeacherIds user).foldl pushAssigned rows else rows

/-- What `GET /instances/me` promises of its list. -/
def ListsAgree (s : Db) : Prop :=
  ∀ user role, s.appUser.lookup user = some role → role.atLeast .manager = false →
    ((visibleInstances s user role).map fun row => row.1.1).Nodup ∧
    (∀ instance_, instance_ ∈ (visibleInstances s user role).map (fun row => row.1.1) ↔
      canViewInstance s user role instance_ = true) ∧
    ∀ row ∈ visibleInstances s user role, row.2 = canManageInstance s user role row.1.1

section Reads

variable {r : Roster} {s : Db} {user : UserId} {role : Role} {instance_ : ClassCourseId}

theorem mem_instancesWhere {p : ClassCourseId → ClassCourse → Bool} {link : ClassCourse} :
    (instance_, link) ∈ r.instancesWhere p ↔
      r.classCourse.lookup instance_ = some link ∧ p instance_ link = true := by
  simp only [Roster.instancesWhere, Roster.newestFirst, List.mem_insertionSort, List.mem_map,
    List.mem_filter, Prod.mk.injEq]
  constructor
  · rintro ⟨⟨key, row⟩, ⟨hentry, hp⟩, rfl, rfl⟩
    exact ⟨mem_entries_iff_lookup.mp hentry, hp⟩
  · rintro ⟨hlookup, hp⟩
    exact ⟨⟨instance_, link⟩, ⟨mem_entries_iff_lookup.mpr hlookup, hp⟩, rfl, rfl⟩

theorem nodup_instancesWhere (r : Roster) (p : ClassCourseId → ClassCourse → Bool) :
    ((r.instancesWhere p).map Prod.fst).Nodup := by
  have hkeys : (r.classCourse.entries.map Sigma.fst).Nodup := r.classCourse.nodupKeys
  have hperm := (List.perm_insertionSort
    (fun a b : ClassCourseId × ClassCourse => b.2.attachedAt < a.2.attachedAt ∨
      a.2.attachedAt = b.2.attachedAt ∧ b.1.uuid.hyphenated ≤ a.1.uuid.hyphenated)
    ((r.classCourse.entries.filter fun row => p row.1 row.2).map
      fun row => (row.1, row.2))).map Prod.fst
  rw [Roster.instancesWhere, Roster.newestFirst, hperm.nodup_iff, List.map_map]
  exact hkeys.sublist (List.filter_sublist.map Sigma.fst)

theorem mem_listForUser {classId : ClassGroupId} :
    classId ∈ r.listForUser user ↔ r.pump.Member classId user := by
  simp only [Roster.listForUser, List.mem_map, List.mem_filter, Bool.and_eq_true,
    decide_eq_true_eq, JoinView.State.Member, Roster.pump_live, Option.isNone_iff_eq_none]
  constructor
  · rintro ⟨⟨key, row⟩, ⟨hentry, huser, hopen⟩, rfl⟩
    exact ⟨key, row, mem_entries_iff_lookup.mp hentry, hopen, rfl, huser⟩
  · rintro ⟨key, row, hrow, hopen, rfl, huser⟩
    exact ⟨⟨key, row⟩, ⟨mem_entries_iff_lookup.mpr hrow, huser, hopen⟩, rfl⟩

/-! ## The union -/

theorem mem_pushAssigned {rows : List Listed} {assigned : List (ClassCourseId × ClassCourse)}
    {instance_ : ClassCourseId} :
    instance_ ∈ (assigned.foldl pushAssigned rows).map (fun row => row.1.1) ↔
      instance_ ∈ rows.map (fun row => row.1.1) ∨ instance_ ∈ assigned.map Prod.fst := by
  induction assigned generalizing rows with
  | nil => simp
  | cons first rest ih =>
      rw [List.foldl_cons, ih, pushAssigned]
      split
      · next hheld =>
        have hfirst : first.1 ∈ rows.map fun row => row.1.1 := by
          obtain ⟨row, hrow, heq⟩ := List.any_eq_true.mp hheld
          exact List.mem_map.mpr ⟨row, hrow, of_decide_eq_true heq⟩
        simp only [List.map_cons, List.mem_cons]
        constructor
        · rintro (hold | hrest)
          · exact .inl hold
          · exact .inr (.inr hrest)
        · rintro (hold | rfl | hrest)
          · exact .inl hold
          · exact .inl hfirst
          · exact .inr hrest
      · simp only [List.map_append, List.map_cons, List.map_nil, List.mem_append, List.mem_cons,
          List.not_mem_nil, or_false, or_assoc]

theorem foldl_pushAssigned_cases {rows : List Listed}
    {assigned : List (ClassCourseId × ClassCourse)} {row : Listed}
    (h : row ∈ assigned.foldl pushAssigned rows) :
    row ∈ rows ∨ row.1 ∈ assigned ∧ row.2 = true := by
  induction assigned generalizing rows with
  | nil => exact .inl h
  | cons first rest ih =>
      rcases ih h with hpushed | ⟨hrest, hflag⟩
      · unfold pushAssigned at hpushed
        split at hpushed
        · exact .inl hpushed
        · rcases List.mem_append.mp hpushed with hold | hnew
          · exact .inl hold
          · rw [List.mem_singleton] at hnew
            subst hnew
            exact .inr ⟨List.mem_cons_self, rfl⟩
      · exact .inr ⟨List.mem_cons_of_mem _ hrest, hflag⟩

theorem nodup_pushAssigned {rows : List Listed}
    (assigned : List (ClassCourseId × ClassCourse))
    (h : (rows.map fun row => row.1.1).Nodup) :
    ((assigned.foldl pushAssigned rows).map fun row => row.1.1).Nodup := by
  induction assigned generalizing rows with
  | nil => exact h
  | cons first rest ih =>
      apply ih
      unfold pushAssigned
      split
      · exact h
      · next hnew =>
        rw [List.map_append, List.nodup_append]
        refine ⟨h, by simp, ?_⟩
        rintro instance_ hold other hother rfl
        obtain ⟨row, hrow, heq⟩ := List.mem_map.mp hold
        simp only [List.map_cons, List.map_nil, List.mem_singleton] at hother
        apply hnew
        exact List.any_eq_true.mpr ⟨row, hrow, by simp [heq, hother]⟩

theorem canManageInstance_iff (hrole : role.atLeast .manager = false) :
    canManageInstance s user role instance_ = true ↔
      role.atLeast .teacher = true ∧ ∃ link,
        s.roster.classCourse.lookup instance_ = some link ∧
          ((s.roster.classCourseTeacher.lookup (instance_, user)).isSome ∨
            link.classId ∈ s.roster.homeroomsOf user) := by
  have hhomeroom : ∀ classId, classId ∈ s.roster.homeroomsOf user ↔
      (s.roster.classGroup.lookup classId).bind ClassGroup.teacher = some user := by
    intro classId
    rw [mem_homeroomsOf, Option.bind_eq_some_iff]
    rfl
  unfold canManageInstance ensureInstanceTeacher
  rw [hrole]
  cases hlink : s.roster.classCourse.lookup instance_ with
  | none => simp [Except.isOk, Except.toBool]
  | some link =>
      cases role.atLeast .teacher with
      | false => simp [Except.isOk, Except.toBool]
      | true =>
          by_cases hteaches : (s.roster.classCourseTeacher.lookup (instance_, user)).isSome
          · simp [hteaches, Except.isOk, Except.toBool]
          · by_cases hleads : (s.roster.classGroup.lookup link.classId).bind ClassGroup.teacher =
                some user
            · simp [hhomeroom, hleads, Except.isOk, Except.toBool]
            · simp [hhomeroom, hteaches, hleads, Except.isOk, Except.toBool]

theorem mem_visibleInstances (hrole : role.atLeast .manager = false) :
    instance_ ∈ (visibleInstances s user role).map (fun row => row.1.1) ↔
      (∃ classId, s.roster.pump.home instance_ = some classId ∧
        s.roster.pump.Member classId user) ∨
      canManageInstance s user role instance_ = true := by
  have hcarried : ∀ (classes homeroom : List ClassGroupId),
      instance_ ∈ ((s.roster.listForClassIds classes).map fun row =>
        (row, decide (row.2.classId ∈ homeroom))).map (fun row => row.1.1) ↔
      ∃ link, s.roster.classCourse.lookup instance_ = some link ∧ link.classId ∈ classes := by
    intro classes homeroom
    simp only [List.map_map, List.mem_map, Function.comp_apply, Prod.exists,
      Roster.listForClassIds, mem_instancesWhere, decide_eq_true_eq]
    constructor
    · rintro ⟨key, link, hlink, rfl⟩
      exact ⟨link, hlink⟩
    · rintro ⟨link, hlink⟩
      exact ⟨instance_, link, hlink, rfl⟩
  have hassigned : instance_ ∈ (s.roster.listForTeacherIds user).map Prod.fst ↔
      ∃ link, s.roster.classCourse.lookup instance_ = some link ∧
        (s.roster.classCourseTeacher.lookup (instance_, user)).isSome := by
    simp only [List.mem_map, Prod.exists, Roster.listForTeacherIds, mem_instancesWhere]
    constructor
    · rintro ⟨key, link, hlink, rfl⟩
      exact ⟨link, hlink⟩
    · rintro ⟨link, hlink⟩
      exact ⟨instance_, link, hlink, rfl⟩
  rw [canManageInstance_iff hrole]
  unfold visibleInstances
  simp only [Roster.pump_home]
  split
  · next hstaff =>
    rw [mem_pushAssigned, hcarried, hassigned]
    simp only [hstaff, List.mem_append, List.mem_filter, mem_listForUser, true_and]
    constructor
    · rintro (⟨link, hlink, hmember | hhomeroom⟩ | ⟨link, hlink, hteaches⟩)
      · exact .inl ⟨link.classId, ⟨link, hlink, rfl⟩, hmember⟩
      · exact .inr ⟨link, hlink, .inr hhomeroom.1⟩
      · exact .inr ⟨link, hlink, .inl hteaches⟩
    · rintro (⟨classId, ⟨link, hlink, rfl⟩, hmember⟩ | ⟨link, hlink, hteaches | hleads⟩)
      · exact .inl ⟨link, hlink, .inl hmember⟩
      · exact .inr ⟨link, hlink, hteaches⟩
      · by_cases hmember : s.roster.pump.Member link.classId user
        · exact .inl ⟨link, hlink, .inl hmember⟩
        · exact .inl ⟨link, hlink, .inr ⟨hleads, by simpa [mem_listForUser] using hmember⟩⟩
  · next hstaff =>
    rw [hcarried]
    simp [hstaff, mem_listForUser]

theorem nodup_visibleInstances (s : Db) (user : UserId) (role : Role) :
    ((visibleInstances s user role).map fun row => row.1.1).Nodup := by
  have hcarried : ∀ (classes homeroom : List ClassGroupId),
      (((s.roster.listForClassIds classes).map fun row =>
        (row, decide (row.2.classId ∈ homeroom))).map fun row => row.1.1).Nodup := by
    intro classes homeroom
    rw [List.map_map]
    exact nodup_instancesWhere s.roster fun _ row => row.classId ∈ classes
  unfold visibleInstances
  dsimp only
  split
  · exact nodup_pushAssigned _ (hcarried _ _)
  · exact hcarried _ _

def Students (s : Db) : Prop :=
  ∀ user, s.roster.pump.Involves user → s.appUser.lookup user = some .student

theorem visible_manages
    (h : Students s) (hrow : s.appUser.lookup user = some role)
    (hrole : role.atLeast .manager = false) {row : Listed}
    (hlisted : row ∈ visibleInstances s user role) :
    row.2 = canManageInstance s user role row.1.1 := by
  have hclear : role.atLeast .teacher = true →
      ∀ classId, ¬s.roster.pump.Member classId user := by
    intro hstaff classId hmember
    have hstudent := h user (.inl ⟨classId, hmember⟩)
    rw [hrow] at hstudent
    cases hstudent
    cases hstaff
  have hcarried : ∀ {classes homeroom : List ClassGroupId},
      row ∈ ((s.roster.listForClassIds classes).map fun row =>
        (row, decide (row.2.classId ∈ homeroom))) →
      s.roster.classCourse.lookup row.1.1 = some row.1.2 ∧ row.1.2.classId ∈ classes ∧
        row.2 = decide (row.1.2.classId ∈ homeroom) := by
    intro classes homeroom hmem
    obtain ⟨⟨instance_, link⟩, hlink, rfl⟩ := List.mem_map.mp hmem
    obtain ⟨hlookup, hclass⟩ := mem_instancesWhere.mp hlink
    exact ⟨hlookup, of_decide_eq_true hclass, rfl⟩
  unfold visibleInstances at hlisted
  dsimp only at hlisted
  split at hlisted
  · next hstaff =>
    have hmanages : canManageInstance s user role row.1.1 = true := by
      rw [canManageInstance_iff hrole]
      refine ⟨hstaff, row.1.2, ?_⟩
      rcases foldl_pushAssigned_cases hlisted with hclass | ⟨hassigned, -⟩
      · obtain ⟨hlink, hmem, -⟩ := hcarried hclass
        refine ⟨hlink, .inr ?_⟩
        rcases List.mem_append.mp hmem with hmember | hhomeroom
        · exact absurd (mem_listForUser.mp hmember) (hclear hstaff _)
        · simpa [hstaff] using List.mem_of_mem_filter hhomeroom
      · exact ⟨(mem_instancesWhere.mp hassigned).1, .inl (mem_instancesWhere.mp hassigned).2⟩
    rw [hmanages]
    rcases foldl_pushAssigned_cases hlisted with hclass | ⟨-, hflag⟩
    · obtain ⟨-, hmem, hflag⟩ := hcarried hclass
      rw [hflag, decide_eq_true_eq]
      rcases List.mem_append.mp hmem with hmember | hhomeroom
      · exact absurd (mem_listForUser.mp hmember) (hclear hstaff _)
      · exact List.mem_of_mem_filter hhomeroom
    · exact hflag
  · next hstaff =>
    obtain ⟨-, -, hflag⟩ := hcarried hlisted
    have hmanages : canManageInstance s user role row.1.1 = false := by
      rw [← Bool.not_eq_true, canManageInstance_iff hrole]
      exact fun hmanages => hstaff hmanages.1
    rw [hmanages, hflag]
    simp

theorem listsAgree_iff_matched (h : Students s) : ListsAgree s ↔ s.roster.pump.Matched := by
  have htag : ∀ instance_ user, (s.roster.pump.tag (instance_, user)).isSome =
      (s.roster.enrollment.lookup (instance_, user)).isSome := by
    intro instance_ user
    simp [Roster.pump]
  have hview : ∀ user role instance_, canViewInstance s user role instance_ = true ↔
      canManageInstance s user role instance_ = true ∨
        (s.roster.pump.tag (instance_, user)).isSome := by
    intro user role instance_
    rw [htag]
    unfold canViewInstance
    cases canManageInstance s user role instance_ <;> simp
  constructor
  · intro hagree instance_ user
    by_cases hinvolved : s.roster.pump.Involves user
    · have hlist := (hagree user .student (h user hinvolved) rfl).2.1 instance_
      have hidle : ¬canManageInstance s user .student instance_ = true := by
        rw [canManageInstance_iff rfl]
        exact fun hstaff => by cases hstaff.1
      rw [mem_visibleInstances rfl, hview] at hlist
      simpa [hidle] using hlist.symm
    · constructor
      · exact fun hpaired => absurd (.inr ⟨instance_, hpaired⟩) hinvolved
      · rintro ⟨classId, -, hmember⟩
        exact absurd (.inl ⟨classId, hmember⟩) hinvolved
  · intro hmatched user role hrow hrole
    refine ⟨nodup_visibleInstances s user role, ?_, ?_⟩
    · intro instance_
      rw [mem_visibleInstances hrole, hview, hmatched instance_ user, or_comm]
    · exact fun row hlisted => visible_manages h hrow hrole hlisted

end Reads

section Steps

variable {id : ℕ} {s s' : Db} {w : World} {n : Reply} {instance_ : ClassCourseId}
  {classId : ClassGroupId} {target user by_ : UserId} {soft : Bool}

def sidesMeet (s : Db) (p : Point) (w : World) : Bool :=
  match p with
  | .roster (.enrollTx instance_ target _) =>
      decide (s.appUser.lookup target ≠ some .student) ||
        (s.roster.enrollment.lookup (instance_, target)).isSome ||
        (s.roster.classCourse.lookup instance_).all
          fun link => s.roster.isLiveMember link.classId target
  | .roster (.unenroll instance_ target) =>
      w.gates.isSome || (s.roster.enrollment.lookup (instance_, target)).isNone ||
        (s.roster.classCourse.lookup instance_).all
          fun link => !s.roster.isLiveMember link.classId target
  | .roster (.dropMember classId user _) =>
      w.gates.isSome || !s.roster.isLiveMember classId user ||
        !Table.any s.roster.enrollment fun pair row =>
          decide (pair.2 = user) && row.source.isNone &&
            (s.roster.classCourse.lookup pair.1).any fun link => link.classId = classId
  | _ => true

theorem enrollTx_places
    (h : next id s (.roster (.enrollTx instance_ target by_)) w = some (s', n))
    (hrole : s.appUser.lookup target = some .student)
    (hnew : s.roster.enrollment.lookup (instance_, target) = none) {link : ClassCourse}
    (hlink : s.roster.classCourse.lookup instance_ = some link) :
    s'.roster.pump = s.roster.pump.apply (.place instance_ target) := by
  obtain ⟨roster, henroll⟩ : ∃ roster, s.roster.enrollTx (s.appUser.lookup target)
      (instance_, target) ⟨by_, none, w.now⟩ = .ok (.made ⟨by_, none, w.now⟩, roster) := by
    simp only [Roster.enrollTx, hnew, hrole, hlink]
    exact ⟨_, rfl⟩
  simp only [next, nextRoster, enrollTx, henroll] at h
  split at h
  · cases h
    exact Roster.pump_enrolled rfl henroll
  · cases h

theorem unenroll_removes
    (h : next id s (.roster (.unenroll instance_ target)) w = some (s', n))
    (henrolled : s.roster.Enrolled) (hgates : w.gates = none) {row : Enrollment}
    (hrow : s.roster.enrollment.lookup (instance_, target) = some row) :
    s'.roster.pump = s.roster.pump.apply (.remove instance_ target) := by
  simp only [next, nextRoster, unenroll, hgates, hrow] at h
  cases h
  exact Roster.pump_release henrolled (instance_, target)

theorem dropMember_leaves
    (h : next id s (.roster (.dropMember classId user soft)) w = some (s', n))
    (henrolled : s.roster.Enrolled) (hgates : w.gates = none)
    (hlive : s.roster.isLiveMember classId user = true) :
    s'.roster.pump = s.roster.pump.apply (.leave classId user) := by
  have hdrop : (s.roster.dropMember classId user soft w.now).1 = true := by
    simp [Roster.dropMember, hlive]
  simp only [next, nextRoster, dropMember, hgates] at h
  split at h
  · cases h
    exact Roster.pump_memberDropped henrolled (Prod.ext hdrop rfl)
  · cases h

theorem sidesMeet_keeps
    {p : Point} {act : PumpAct} (hmatched : s.roster.pump.Matched)
    (hmeet : sidesMeet s p w = true) (hacts : Acts s w p act) : s.roster.pump.Keeps act := by
  have htag : ∀ instance_ user, (s.roster.pump.tag (instance_, user)).isSome =
      (s.roster.enrollment.lookup (instance_, user)).isSome := by
    intro instance_ user
    simp [Roster.pump]
  cases hacts with
  | @leave classId user soft hgates =>
      intro instance_ hhome hhand
      have hmember := (hmatched instance_ user).mp (by simp [hhand])
      obtain ⟨classId', hhome', hmember⟩ := hmember
      rw [hhome] at hhome'
      cases hhome'
      rw [Roster.pump_member] at hmember
      simp only [sidesMeet, hgates, hmember, Option.isSome_none, Bool.not_true, Bool.false_or,
        Bool.not_eq_true', Table.any_eq_false_iff] at hmeet
      obtain ⟨row, hrow, hsource⟩ := Option.map_eq_some_iff.mp hhand
      obtain ⟨link, hlink, hclass⟩ := Roster.pump_home.mp hhome
      have hnone := hmeet (instance_, user) row hrow
      simp [hsource, hlink, hclass] at hnone
  | @place instance_ target by_ hrole hnew hinstance =>
      obtain ⟨link, hlink⟩ := hinstance
      refine ⟨link.classId, Roster.pump_home.mpr ⟨link, hlink, rfl⟩, ?_⟩
      rw [Roster.pump_member]
      simpa [sidesMeet, hrole, hnew, hlink] using hmeet
  | @remove instance_ target hgates =>
      rintro ⟨classId, hhome, hmember⟩
      have hpaired := (hmatched instance_ target).mpr ⟨classId, hhome, hmember⟩
      obtain ⟨link, hlink, rfl⟩ := Roster.pump_home.mp hhome
      rw [htag, Option.isSome_iff_exists] at hpaired
      obtain ⟨row, hrow⟩ := hpaired
      rw [Roster.pump_member] at hmember
      simp [sidesMeet, hgates, hrow, hlink, hmember] at hmeet
  | _ => trivial

theorem sidesMeet_of_matched
    {p : Point} (henrolled : s.roster.Enrolled)
    (hnext : next id s p w = some (s', n)) (hafter : s'.roster.pump.Matched) :
    sidesMeet s p w = true := by
  by_contra hbroken
  rw [Bool.not_eq_true] at hbroken
  unfold sidesMeet at hbroken
  split at hbroken
  · next instance_ target by_ =>
    simp only [Bool.or_eq_false_iff, decide_eq_false_iff_not, not_not,
      Option.isSome_eq_false_iff, Option.isNone_iff_eq_none] at hbroken
    obtain ⟨⟨hrole, hnew⟩, houtside⟩ := hbroken
    cases hlink : s.roster.classCourse.lookup instance_ with
    | none => simp [hlink] at houtside
    | some =>
        rw [enrollTx_places hnext hrole hnew hlink] at hafter
        obtain ⟨classId, hhome, hmember⟩ := JoinView.keeps_of_matched hafter
        obtain ⟨link', hlink', rfl⟩ := Roster.pump_home.mp hhome
        rw [hlink] at hlink'
        cases hlink'
        rw [Roster.pump_member] at hmember
        simp [hlink, hmember] at houtside
  · next instance_ target =>
    simp only [Bool.or_eq_false_iff, Option.isSome_eq_false_iff, Option.isNone_iff_eq_none,
      Option.isNone_eq_false_iff, Option.isSome_iff_exists] at hbroken
    obtain ⟨⟨hgates, row, hrow⟩, hinside⟩ := hbroken
    rw [unenroll_removes hnext henrolled hgates hrow] at hafter
    cases hlink : s.roster.classCourse.lookup instance_ with
    | none => simp [hlink] at hinside
    | some link =>
        refine JoinView.keeps_of_matched hafter ⟨link.classId, ?_, ?_⟩
        · exact Roster.pump_home.mpr ⟨link, hlink, rfl⟩
        · rw [Roster.pump_member]
          simpa [hlink] using hinside
  · next classId user soft =>
    simp only [Bool.or_eq_false_iff, Option.isSome_eq_false_iff, Option.isNone_iff_eq_none,
      Bool.not_eq_false', Table.any_iff, Bool.and_eq_true, decide_eq_true_eq] at hbroken
    obtain ⟨⟨hgates, hlive⟩, ⟨instance_, holder⟩, row, hrow, ⟨rfl, hsource⟩, hclass⟩ := hbroken
    rw [dropMember_leaves hnext henrolled hgates hlive] at hafter
    obtain ⟨link, hlink, hclass⟩ := (Option.any_eq_true _ _).mp hclass
    refine JoinView.keeps_of_matched hafter instance_ ?_ ?_
    · exact Roster.pump_home.mpr ⟨link, hlink, of_decide_eq_true hclass⟩
    · simp [Roster.pump, hrow, hsource]
  · cases hbroken

theorem Students.next
    {p : Point} (h : Students s) (hsound : s.roster.Sound s.minted)
    (htagged : s.roster.pump.Tagged) (hnext : next id s p w = some (s', n)) : Students s' := by
  obtain ⟨act, hacts, hfits, heq⟩ := wrote_acts hsound htagged (next_rosterWrote hnext)
  intro user hinvolved
  have hbefore : s.appUser.lookup user = some .student := by
    rw [heq] at hinvolved
    rcases JoinView.involves_apply hfits hinvolved with hold | hnew
    · exact h user hold
    · cases hacts with
      | join hrole | place hrole => exact hnew ▸ hrole
      | _ => exact hnew.elim
  rcases next_appUser hnext with hsame | ⟨created, -, hcreated⟩ |
    ⟨job, floor, sweep, rfl, hwritten⟩
  · rw [hsame, hbefore]
  · rw [hcreated, lookup_insert_eq]
    split
    · rfl
    · exact hbefore
  · rw [hwritten, lookup_insert_eq]
    split
    · next htarget =>
      by_contra hrole
      have hrole : job.role ≠ .student := fun heq => hrole (congrArg some heq)
      cases hnext
      subst htarget
      change (s.commitRole job sweep).roster.pump.Involves job.target at hinvolved
      rw [commitRole_shed hrole] at hinvolved
      exact JoinView.not_involves_shed hinvolved
    · exact hbefore

/-- What every configuration has, whatever the requests were. -/
structure Db.Steady (s : Db) : Prop where
  sound : s.roster.Sound s.minted
  tagged : s.roster.pump.Tagged
  students : Students s

theorem Db.Steady.step
    {c c' : Config Db Point} {m : Move Request World} (h : c.shared.Steady)
    (hstep : machine.step c m = some c') : c'.shared.Steady := by
  obtain ⟨request, rfl, rfl⟩ | ⟨id, w, p, s, n, rfl, hp, hnext, rfl⟩ | ⟨id, p, rfl, hp, rfl⟩ :=
    Machine.step_cases hstep
  · exact h
  · rw [Config.shared_after]
    obtain ⟨act, -, hfits, heq⟩ := wrote_acts h.sound h.tagged (next_rosterWrote hnext)
    refine ⟨next_sound h.sound hnext, ?_, h.students.next h.sound h.tagged hnext⟩
    rw [heq]
    exact h.tagged.apply hfits
  · exact ⟨h.sound, h.tagged, h.students⟩

theorem steady_start (users : Table UserId Role) : (start users).shared.Steady := by
  refine ⟨Roster.sound_empty, ?_, ?_⟩
  · intro instance_ user classId htag
    simp [start, Config.initial, Db.ofUsers, Roster.empty, Roster.pump] at htag
  · rintro user (⟨classId, id, hlive⟩ | ⟨instance_, hpaired⟩)
    · simp [start, Config.initial, Db.ofUsers, Roster.empty, Roster.pump] at hlive
    · simp [start, Config.initial, Db.ofUsers, Roster.empty, Roster.pump] at hpaired

theorem allows_iff_listsAgree
    {c d : Config Db Point} {m : Move Request World} (h : c.shared.Steady)
    (hagree : ListsAgree c.shared) (hstep : machine.step c m = some d) :
    c.Allows sidesMeet m ↔ ListsAgree d.shared := by
  have hmatched := (listsAgree_iff_matched h.students).mp hagree
  rw [listsAgree_iff_matched (h.step hstep).students]
  obtain ⟨request, rfl, rfl⟩ | ⟨id, w, p, s, n, rfl, hp, hnext, rfl⟩ | ⟨id, p, rfl, hp, rfl⟩ :=
    Machine.step_cases hstep
  · exact ⟨fun _ => hmatched, fun _ => trivial⟩
  · simp only [Config.Allows, hp, Option.all_some, Config.shared_after]
    constructor
    · intro hmeet
      obtain ⟨act, hacts, hfits, heq⟩ := wrote_acts h.sound h.tagged (next_rosterWrote hnext)
      rw [heq]
      exact hmatched.apply h.tagged hfits (sidesMeet_keeps hmatched hmeet hacts)
    · exact sidesMeet_of_matched h.sound.enrolled hnext
  · exact ⟨fun _ => hmatched, fun _ => trivial⟩

/-- A run keeps the list of every caller below manager equal to the gate, and its flags to
the right to manage, in every state it reaches exactly when each of its hand writes and
leaves meets the condition. -/
theorem lists_agree_iff_sidesMeet
    {users : Table UserId Role} {ms : List (Move Request World)} {c : Config Db Point}
    (hrun : machine.run (start users) ms = some c) :
    machine.Guarded (Config.Allows sidesMeet) (start users) ms ↔
      ∀ pre d, pre <+: ms → machine.run (start users) pre = some d → ListsAgree d.shared := by
  refine Machine.guarded_iff_always (J := fun c => c.shared.Steady)
    (Q := fun c => ListsAgree c.shared) (fun h hstep => h.step hstep)
    (fun h hagree hstep => allows_iff_listsAgree h hagree hstep) (steady_start users) ?_ hrun
  rw [listsAgree_iff_matched (steady_start users).students]
  intro instance_ user
  simp [start, Config.initial, Db.ofUsers, Roster.empty, Roster.pump]

end Steps

section Runs

open Sample

theorem lists_agree_iff_sidesMeet_seatAli :
    ∃ c, machine.run (start accounts) seatAli = some c ∧ ListsAgree c.shared := by
  have hend : (machine.run (start accounts) seatAli).isSome = true := by decide
  obtain ⟨c, hrun⟩ := Option.isSome_iff_exists.mp hend
  have hguard : machine.Guarded (Config.Allows sidesMeet) (start accounts) seatAli := by
    decide
  exact ⟨c, hrun, (lists_agree_iff_sidesMeet hrun).mp hguard seatAli c (List.prefix_refl _) hrun⟩

def placeAli : List (Move Request World) :=
  openSection ++ .start (.attachCourse ⟨secondUuid⟩ ⟨firstUuid⟩ headmaster) ::
    List.replicate 2 (tickWith thirdUuid 2) ++
    .start (.enroll ⟨thirdUuid⟩ ali headmaster) :: List.replicate 3 (tick 3)

/-- He may read the instance and does not find it among his own. -/
theorem placed_not_listed :
    ∃ c, machine.run (start accounts) placeAli = some c ∧
      c.shared.appUser.lookup ali = some .student ∧
      canViewInstance c.shared ali .student ⟨thirdUuid⟩ = true ∧
      visibleInstances c.shared ali .student = [] ∧ ¬ListsAgree c.shared := by
  have hend : (machine.run (start accounts) placeAli).any (fun c =>
      decide (c.shared.appUser.lookup ali = some .student) &&
        canViewInstance c.shared ali .student ⟨thirdUuid⟩ &&
        (visibleInstances c.shared ali .student).isEmpty) = true := by decide
  obtain ⟨c, hrun, hdone⟩ := (Option.any_eq_true _ _).mp hend
  simp only [Bool.and_eq_true, decide_eq_true_eq, List.isEmpty_iff] at hdone
  obtain ⟨⟨hrole, hview⟩, hlist⟩ := hdone
  refine ⟨c, hrun, hrole, hview, hlist, ?_⟩
  intro hagree
  have hlisted := ((hagree ali .student hrole rfl).2.1 ⟨thirdUuid⟩).mpr hview
  rw [hlist] at hlisted
  cases hlisted

end Runs

end Hezarfen.School
