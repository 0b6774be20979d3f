import Mathlib.Data.Prod.Lex
import Mathlib.Data.String.Basic
import Mathlib.Order.OrderDual
import Hezarfen.KeyedRows
import Hezarfen.RosterCounters
import Hezarfen.Signups

/-!
# Who an event expects

The roster of an event is resolved live, one way for a single user who is about to be
marked and another for the report of who missed it.  Each of the five kinds of audience
has a pair of queries of its own; both see the same people, and nobody is listed twice.
-/

namespace Hezarfen.EventAudiences

open School (Role Roster ClassGroupId CourseId ClassCourseId ClassMember ClassMemberId)
open Signups (EventId EventAudienceKind)

structure Event where
  id : EventId
  audienceKind : EventAudienceKind
  audienceRole : Option Role
  audienceCourse : Option CourseId
  audienceClass : Option ClassGroupId

structure User where
  id : UserId
  role : Role

structure Db where
  appUser : Table UserId Role
  roster : Roster
  courseMembership : Table (CourseId × UserId) Unit
  /-- With the account that placed the seat. -/
  registration : Table (EventId × UserId) UserId

/-- A store under its unique indexes; `class_member_live_pair` is the partial one. -/
structure Store extends Db where
  live_pair : ∀ id row id' row', roster.classMember.lookup id = some row → row.leftAt = none →
    roster.classMember.lookup id' = some row' → row'.leftAt = none →
    row.classId = row'.classId → row.user = row'.user → id = id'

/-- `SELECT id FROM class_course WHERE course = $1` -/
def teaches (s : Db) (course : CourseId) (i : ClassCourseId) : Bool :=
  (s.roster.classCourse.lookup i).any fun row => decide (row.course = course)

def userIsInCourse (s : Db) (course : CourseId) (user : UserId) : Bool :=
  (Table.any s.roster.enrollment fun pair _ => decide (pair.2 = user) && teaches s course pair.1) ||
    (s.courseMembership.lookup (course, user)).isSome

def isLiveMember (s : Db) (section_ : ClassGroupId) (user : UserId) : Bool :=
  Table.any s.roster.classMember fun _ row =>
    decide (row.classId = section_ ∧ row.user = user ∧ row.leftAt = none)

def includes (s : Db) (event : Event) (user : User) : Bool :=
  match event.audienceKind with
  | .school => true
  | .role => decide (some user.role = event.audienceRole)
  | .course =>
      match event.audienceCourse with
      | some course => userIsInCourse s course user.id
      | none => false
  | .class_ =>
      match event.audienceClass with
      | some section_ => isLiveMember s section_ user.id
      | none => false
  | .registration => (s.registration.lookup (event.id, user.id)).isSome

/-- `ORDER BY id DESC` -/
def newestFirst (users : List UserId) : List UserId :=
  Keyed.sortBy (fun user => OrderDual.toDual user.key) users

def listAll (s : Db) : List UserId := newestFirst s.appUser.keys

def listByRole (s : Db) (role : Role) : List UserId :=
  newestFirst ((s.appUser.entries.filter fun row => decide (row.2 = role)).map fun row => row.1)

/-- Both tiers; the `DISTINCT` keeps a student of two instances once. -/
def listUsersForCourse (s : Db) (course : CourseId) : List UserId :=
  Keyed.sortBy UserId.key (Keyed.distinctOn id
    (((s.roster.enrollment.keys.filter fun pair => teaches s course pair.1).map Prod.snd) ++
      ((s.courseMembership.keys.filter fun pair => decide (pair.1 = course)).map Prod.snd)))

/-- The live stints, newest first. -/
def listForClass (s : Db) (section_ : ClassGroupId) : List (ClassMemberId × ClassMember) :=
  Keyed.sortBy
    (fun row => toLex (OrderDual.toDual row.2.joinedAt, OrderDual.toDual row.1.uuid.hyphenated))
    ((s.roster.classMember.entries.map fun row => (row.1, row.2)).filter fun row =>
      decide (row.2.classId = section_ ∧ row.2.leftAt = none))

def listForEvent (s : Db) (event : EventId) : List UserId :=
  newestFirst ((s.registration.keys.filter fun pair => decide (pair.1 = event)).map Prod.snd)

def members (s : Db) (event : Event) : List UserId :=
  match event.audienceKind with
  | .school => listAll s
  | .role =>
      match event.audienceRole with
      | some role => listByRole s role
      | none => []
  | .course =>
      match event.audienceCourse with
      | some course => listUsersForCourse s course
      | none => []
  | .class_ =>
      match event.audienceClass with
      | some section_ => (listForClass s section_).map fun row => row.2.user
      | none => []
  | .registration => listForEvent s event.id

section Kinds

variable {s : Db} {user : UserId} {course : CourseId} {section_ : ClassGroupId}

theorem mem_newestFirst {users : List UserId} : user ∈ newestFirst users ↔ user ∈ users :=
  Keyed.mem_sortBy

theorem nodup_newestFirst {users : List UserId} (h : users.Nodup) : (newestFirst users).Nodup :=
  (Keyed.sortBy_perm _ _).nodup_iff.mpr h

theorem mem_keys_iff {K V : Type*} [DecidableEq K] {t : Table K V} {k : K} :
    k ∈ t.keys ↔ (t.lookup k).isSome = true := by
  rw [← AList.mem_keys, AList.lookup_isSome]

theorem mem_listAll : user ∈ listAll s ↔ (s.appUser.lookup user).isSome = true := by
  rw [listAll, mem_newestFirst, mem_keys_iff]

theorem mem_listByRole {role : Role} :
    user ∈ listByRole s role ↔ s.appUser.lookup user = some role := by
  rw [listByRole, mem_newestFirst, List.mem_map]
  constructor
  · rintro ⟨⟨key, stored⟩, hmem, rfl⟩
    obtain ⟨hentry, hrole⟩ := List.mem_filter.mp hmem
    have hrole : stored = role := of_decide_eq_true hrole
    rw [mem_entries_iff_lookup.mp hentry, hrole]
  · intro hlookup
    exact ⟨⟨user, role⟩, List.mem_filter.mpr
      ⟨mem_entries_iff_lookup.mpr hlookup, decide_eq_true rfl⟩, rfl⟩

theorem mem_listUsersForCourse :
    user ∈ listUsersForCourse s course ↔ userIsInCourse s course user = true := by
  rw [listUsersForCourse, Keyed.mem_sortBy, Keyed.distinctOn, Keyed.mem_extend_id,
    userIsInCourse, Bool.or_eq_true, Table.any_iff]
  simp only [List.not_mem_nil, false_or, List.mem_append, List.mem_map, List.mem_filter,
    mem_keys_iff, Bool.and_eq_true, decide_eq_true_eq]
  apply or_congr
  · constructor
    · rintro ⟨pair, ⟨hpair, hteaches⟩, rfl⟩
      obtain ⟨row, hrow⟩ := Option.isSome_iff_exists.mp hpair
      exact ⟨pair, row, hrow, rfl, hteaches⟩
    · rintro ⟨pair, row, hrow, rfl, hteaches⟩
      exact ⟨pair, ⟨by simp [hrow], hteaches⟩, rfl⟩
  · constructor
    · rintro ⟨⟨_, _⟩, ⟨hpair, rfl⟩, rfl⟩
      exact hpair
    · intro hmember
      exact ⟨(course, user), ⟨hmember, rfl⟩, rfl⟩

theorem mem_listForClass {row : ClassMemberId × ClassMember} :
    row ∈ listForClass s section_ ↔
      s.roster.classMember.lookup row.1 = some row.2 ∧ row.2.classId = section_ ∧
        row.2.leftAt = none := by
  rw [listForClass, Keyed.mem_sortBy, List.mem_filter, decide_eq_true_eq, List.mem_map]
  apply and_congr_left
  intro _
  constructor
  · rintro ⟨entry, hmem, rfl⟩
    exact mem_entries_iff_lookup.mp hmem
  · intro hlookup
    exact ⟨⟨row.1, row.2⟩, mem_entries_iff_lookup.mpr hlookup, rfl⟩

theorem mem_members_of_class :
    user ∈ (listForClass s section_).map (fun row => row.2.user) ↔
      isLiveMember s section_ user = true := by
  rw [isLiveMember, Table.any_iff, List.mem_map]
  simp only [decide_eq_true_eq]
  constructor
  · rintro ⟨row, hrow, rfl⟩
    obtain ⟨hlookup, hclass, hlive⟩ := mem_listForClass.mp hrow
    exact ⟨row.1, row.2, hlookup, hclass, rfl, hlive⟩
  · rintro ⟨id, row, hlookup, hclass, rfl, hlive⟩
    exact ⟨(id, row), mem_listForClass.mpr ⟨hlookup, hclass, hlive⟩, rfl⟩

theorem mem_listForEvent {event : EventId} :
    user ∈ listForEvent s event ↔ (s.registration.lookup (event, user)).isSome = true := by
  rw [listForEvent, mem_newestFirst, List.mem_map]
  simp only [List.mem_filter, mem_keys_iff, decide_eq_true_eq]
  constructor
  · rintro ⟨⟨_, _⟩, ⟨hseat, rfl⟩, rfl⟩
    exact hseat
  · intro hseat
    exact ⟨(event, user), ⟨hseat, rfl⟩, rfl⟩

end Kinds

theorem includes_iff {s : Db} {event : Event} {user : User}
    (huser : s.appUser.lookup user.id = some user.role) :
    includes s event user = true ↔ user.id ∈ members s event := by
  unfold includes members
  cases event.audienceKind with
  | school => simp [mem_listAll, huser]
  | role =>
      cases event.audienceRole with
      | none => simp
      | some => simp [mem_listByRole, huser]
  | course =>
      cases event.audienceCourse with
      | none => simp
      | some => exact mem_listUsersForCourse.symm
  | class_ =>
      cases event.audienceClass with
      | none => simp
      | some => exact mem_members_of_class.symm
  | registration => exact mem_listForEvent.symm

/-! ## Nobody is listed twice -/

theorem nodup_entries_map_fst {K V : Type*} (t : Table K V) (p : (Sigma fun _ : K => V) → Bool) :
    ((t.entries.filter p).map fun row => row.1).Nodup :=
  (show (t.entries.map fun row => row.1).Nodup from t.nodupKeys).sublist
    (List.filter_sublist.map _)

theorem nodup_listForEvent (s : Db) (event : EventId) : (listForEvent s event).Nodup := by
  refine nodup_newestFirst ((s.registration.nodupKeys.filter _).map_on ?_)
  intro pair hpair other hother hsame
  have hevent := of_decide_eq_true (List.mem_filter.mp hpair).2
  have hother := of_decide_eq_true (List.mem_filter.mp hother).2
  exact Prod.ext (hevent.trans hother.symm) hsame

/-- A student has one live stint in a section. -/
theorem nodup_members_of_class (s : Store) (section_ : ClassGroupId) :
    ((listForClass s.toDb section_).map fun row => row.2.user).Nodup := by
  have hkeys : (listForClass s.toDb section_).Nodup := by
    refine (Keyed.sortBy_perm _ _).nodup_iff.mpr (List.Nodup.filter _ ?_)
    refine List.Nodup.of_map Prod.fst ?_
    rw [List.map_map]
    exact s.roster.classMember.nodupKeys
  refine hkeys.map_on ?_
  rintro ⟨id, row⟩ hrow ⟨id', row'⟩ hrow' hsame
  obtain ⟨hlookup, hclass, hlive⟩ := mem_listForClass.mp hrow
  obtain ⟨hlookup', hclass', hlive'⟩ := mem_listForClass.mp hrow'
  have hid := s.live_pair id row id' row' hlookup hlive hlookup' hlive'
    (hclass.trans hclass'.symm) hsame
  subst hid
  rw [hlookup, Option.some.injEq] at hlookup'
  exact Prod.ext rfl hlookup'

theorem nodup_members (s : Store) (event : Event) : (members s.toDb event).Nodup := by
  unfold members
  cases event.audienceKind with
  | school => exact nodup_newestFirst s.appUser.nodupKeys
  | role =>
      cases event.audienceRole with
      | none => exact List.nodup_nil
      | some => exact nodup_newestFirst (nodup_entries_map_fst _ _)
  | course =>
      cases event.audienceCourse with
      | none => exact List.nodup_nil
      | some course =>
          have hdistinct := Keyed.nodup_extend_id List.nodup_nil
            (((s.roster.enrollment.keys.filter fun pair => teaches s.toDb course pair.1).map
              Prod.snd) ++
              ((s.courseMembership.keys.filter fun pair => decide (pair.1 = course)).map Prod.snd))
          exact (Keyed.sortBy_perm _ _).nodup_iff.mpr hdistinct
  | class_ =>
      cases event.audienceClass with
      | none => exact List.nodup_nil
      | some section_ => exact nodup_members_of_class s section_
  | registration => exact nodup_listForEvent s.toDb event.id

def Store.ofRun
    {users : Table UserId Role} {ms : List (Interleaving.Move School.Request School.World)}
    {c : Interleaving.Config School.Db School.Point}
    (hrun : School.machine.run (School.start users) ms = some c)
    (courseMembership : Table (CourseId × UserId) Unit)
    (registration : Table (EventId × UserId) UserId) : Store where
  appUser := c.shared.appUser
  roster := c.shared.roster
  courseMembership := courseMembership
  registration := registration
  live_pair := (School.roster_sound hrun).linked.stints

/-- A user is marked for an event exactly when the roster lists them, and it lists them once. -/
theorem includes_iff_mem_members
    (s : Store) (event : Event) (user : User)
    (huser : s.appUser.lookup user.id = some user.role) :
    (includes s.toDb event user = true ↔ user.id ∈ members s.toDb event) ∧
      (members s.toDb event).Nodup :=
  ⟨includes_iff huser, nodup_members s event⟩

namespace Sample

def student : User := ⟨⟨.ending "00a1"⟩, .student⟩
def class9A : ClassGroupId := ⟨.ending "00c1"⟩
def left : ClassMemberId := ⟨.ending "00c2"⟩
def live : ClassMemberId := ⟨.ending "00c3"⟩
def algebra : CourseId := ⟨.ending "00d1"⟩
def chess : CourseId := ⟨.ending "00d2"⟩
def algebra9A : ClassCourseId := ⟨.ending "00d3"⟩
def algebraExtra : ClassCourseId := ⟨.ending "00d4"⟩

def stint (joinedAt : Timestamp) (leftAt : Option Timestamp) : ClassMember :=
  { classId := class9A
    user := student.id
    addedBy := student.id
    joinedAt := joinedAt
    leftAt := leftAt
    sourceClassGroup := none }

def assembly : Event :=
  { id := ⟨.ending "00e1"⟩
    audienceKind := .class_
    audienceRole := none
    audienceCourse := none
    audienceClass := some class9A }

def forCourse (course : CourseId) : Event :=
  { assembly with audienceKind := .course, audienceCourse := some course, audienceClass := none }

def instanceOf (course : CourseId) : School.ClassCourse := ⟨class9A, course, student.id, 0, 1⟩

def byHand : School.Enrollment := ⟨student.id, none, 0⟩

/-- A student who left the section and joined it again, is in two instances of one course and
in the club of another. -/
def rejoined : Store where
  appUser := (∅ : Table UserId Role).insert student.id .student
  roster := { Roster.empty with
    classCourse := ((∅ : Table ClassCourseId School.ClassCourse).insert algebra9A
      (instanceOf algebra)).insert algebraExtra (instanceOf algebra)
    enrollment := ((∅ : Table (ClassCourseId × UserId) School.Enrollment).insert
      (algebra9A, student.id) byHand).insert (algebraExtra, student.id) byHand
    classMember := ((∅ : Table ClassMemberId ClassMember).insert left (stint 0 (some 5))).insert
      live (stint 9 none) }
  courseMembership := (∅ : Table (CourseId × UserId) Unit).insert (chess, student.id) ()
  registration := ∅
  live_pair := by
    have hlive : ∀ id row, (((∅ : Table ClassMemberId ClassMember).insert left
        (stint 0 (some 5))).insert live (stint 9 none)).lookup id = some row →
        row.leftAt = none → id = live := by
      intro id row hlookup hopen
      simp only [lookup_insert_eq] at hlookup
      split at hlookup
      · next hid => exact hid
      · split at hlookup
        · cases hlookup
          cases hopen
        · cases hlookup
    intro id row id' row' hrow hopen hrow' hopen' _ _
    rw [hlive id row hrow hopen, hlive id' row' hrow' hopen']

/-- The check lets the student in, who is on the list once. -/
def Invited (event : Event) : Prop :=
  ((includes rejoined.toDb event student = true ↔ student.id ∈ members rejoined.toDb event) ∧
    (members rejoined.toDb event).Nodup) ∧ members rejoined.toDb event = [student.id]

end Sample

open Sample in
theorem includes_iff_mem_members_rejoined :
    Invited assembly ∧ Invited (forCourse algebra) ∧ Invited (forCourse chess) := by
  have hmembers : ∀ event ∈ [assembly, forCourse algebra, forCourse chess],
      members rejoined.toDb event = [student.id] := by
    decide
  have hinvited : ∀ event ∈ [assembly, forCourse algebra, forCourse chess], Invited event :=
    fun event hevent =>
      ⟨includes_iff_mem_members rejoined event student (by rfl), hmembers event hevent⟩
  exact ⟨hinvited _ (by simp), hinvited _ (by simp), hinvited _ (by simp)⟩

end Hezarfen.EventAudiences
