import Hezarfen.RosterSteps

/-!
# The counters of the class layer

Four counters ride on parent rows: the live members and the courses of a section,
the sections of a course and the roster of an instance.  Each is the number of its
rows after every run, and the two of a section stay below their ceilings.  At most
one live stint joins a student to a section and at most one instance joins a course
to it, which is why one decrement per statement is enough.
-/

namespace Hezarfen.School

open Interleaving

variable {pumping : Pumping} {classId : ClassGroupId} {user : UserId} {course : CourseId}

namespace Roster

/-- The live stints of a section. -/
def membersOf (r : Roster) (classId : ClassGroupId) : ℕ :=
  Table.count r.classMember fun _ row => decide (row.classId = classId) && row.leftAt.isNone

/-- The instances of a section. -/
def coursesOf (r : Roster) (classId : ClassGroupId) : ℕ :=
  Table.count r.classCourse fun _ row => row.classId = classId

/-- The instances of a course. -/
def sectionsOf (r : Roster) (course : CourseId) : ℕ :=
  Table.count r.classCourse fun _ row => row.course = course

/-- The roster of an instance. -/
def enrolledIn (r : Roster) (instance_ : ClassCourseId) : ℕ :=
  Table.count r.enrollment fun pair _ => pair.1 = instance_

structure Linked (r : Roster) (minted : List Uuid) : Prop where
  classes : ∀ id row, r.classGroup.lookup id = some row → id.uuid ∈ minted
  courses : ∀ id row, r.course.lookup id = some row → id.uuid ∈ minted
  members : ∀ id row, r.classMember.lookup id = some row →
    id.uuid ∈ minted ∧ ∃ group, r.classGroup.lookup row.classId = some group
  instances : ∀ id row, r.classCourse.lookup id = some row →
    id.uuid ∈ minted ∧ (∃ group, r.classGroup.lookup row.classId = some group) ∧
      ∃ taught, r.course.lookup row.course = some taught
  stints : ∀ id row id' row', r.classMember.lookup id = some row → row.leftAt = none →
    r.classMember.lookup id' = some row' → row'.leftAt = none →
    row.classId = row'.classId → row.user = row'.user → id = id'
  pairs : ∀ id row id' row', r.classCourse.lookup id = some row →
    r.classCourse.lookup id' = some row' → row.classId = row'.classId →
    row.course = row'.course → id = id'

structure Counted (r : Roster) : Prop where
  members : ∀ id row, r.classGroup.lookup id = some row →
    row.classMemberCount = r.membersOf id ∧ row.classMemberCount ≤ maxClassMembers
  courses : ∀ id row, r.classGroup.lookup id = some row →
    row.classCourseCount = r.coursesOf id ∧ row.classCourseCount ≤ maxClassCourses
  sections : ∀ id row, r.course.lookup id = some row →
    row.classCourseCount = r.sectionsOf id

structure Enrolled (r : Roster) : Prop where
  counts : ∀ id row, r.classCourse.lookup id = some row →
    row.enrollmentCount = r.enrolledIn id
  owned : ∀ pair row, r.enrollment.lookup pair = some row →
    ∃ instance_, r.classCourse.lookup pair.1 = some instance_

structure Sound (r : Roster) (minted : List Uuid) : Prop where
  linked : r.Linked minted
  counted : r.Counted
  enrolled : r.Enrolled

theorem sound_empty : Roster.empty.Sound [] := by
  constructor <;> constructor <;> simp [Roster.empty]

variable {r r' : Roster} {minted minted' : List Uuid}

theorem Linked.mono (h : r.Linked minted) (hminted : minted ⊆ minted') : r.Linked minted' where
  classes := fun id row hrow => hminted (h.classes id row hrow)
  courses := fun id row hrow => hminted (h.courses id row hrow)
  members := fun id row hrow => ⟨hminted (h.members id row hrow).1, (h.members id row hrow).2⟩
  instances := fun id row hrow =>
    ⟨hminted (h.instances id row hrow).1, (h.instances id row hrow).2⟩
  stints := h.stints
  pairs := h.pairs

theorem Sound.mono (h : r.Sound minted) (hminted : minted ⊆ minted') : r.Sound minted' :=
  ⟨h.linked.mono hminted, h.counted, h.enrolled⟩

/-! ## Writes of the enrollment table -/

structure SameLinks (r r' : Roster) : Prop where
  classes : r.SameClasses r'
  back : ∀ id row', r'.classCourse.lookup id = some row' →
    ∃ row, r.classCourse.lookup id = some row ∧ row'.classId = row.classId ∧
      row'.course = row.course
  forth : ∀ id row, r.classCourse.lookup id = some row →
    ∃ row', r'.classCourse.lookup id = some row' ∧ row'.classId = row.classId ∧
      row'.course = row.course
  courses : ∀ classId, r'.coursesOf classId = r.coursesOf classId
  sections : ∀ course, r'.sectionsOf course = r.sectionsOf course

theorem SameLinks.refl (r : Roster) : r.SameLinks r where
  classes := ⟨rfl, rfl, rfl, rfl⟩
  back := fun _ row hrow => ⟨row, hrow, rfl, rfl⟩
  forth := fun _ row hrow => ⟨row, hrow, rfl, rfl⟩
  courses := fun _ => rfl
  sections := fun _ => rfl

theorem SameLinks.trans {r'' : Roster} (h : r.SameLinks r') (h' : r'.SameLinks r'') :
    r.SameLinks r'' where
  classes := h.classes.trans h'.classes
  back := by
    intro id row'' hrow''
    obtain ⟨row', hrow', hclass', hcourse'⟩ := h'.back id row'' hrow''
    obtain ⟨row, hrow, hclass, hcourse⟩ := h.back id row' hrow'
    exact ⟨row, hrow, hclass'.trans hclass, hcourse'.trans hcourse⟩
  forth := by
    intro id row hrow
    obtain ⟨row', hrow', hclass, hcourse⟩ := h.forth id row hrow
    obtain ⟨row'', hrow'', hclass', hcourse'⟩ := h'.forth id row' hrow'
    exact ⟨row'', hrow'', hclass'.trans hclass, hcourse'.trans hcourse⟩
  courses := fun classId => (h'.courses classId).trans (h.courses classId)
  sections := fun course => (h'.sections course).trans (h.sections course)

theorem Sound.sameLinks
    (h : r.Sound minted) (hsame : r.SameLinks r') (henrolled : r'.Enrolled) :
    r'.Sound minted := by
  obtain ⟨hclassGroup, hcourse, -, hclassMember⟩ := hsame.classes
  have hmembers : ∀ classId, r'.membersOf classId = r.membersOf classId := by
    intro classId
    unfold membersOf
    rw [hclassMember]
  refine ⟨?_, ?_, henrolled⟩
  · constructor
    · rw [hclassGroup]
      exact h.linked.classes
    · rw [hcourse]
      exact h.linked.courses
    · rw [hclassGroup, hclassMember]
      exact h.linked.members
    · intro id row' hrow'
      obtain ⟨row, hrow, hclass, htaught⟩ := hsame.back id row' hrow'
      rw [hclassGroup, hcourse, hclass, htaught]
      exact h.linked.instances id row hrow
    · rw [hclassMember]
      exact h.linked.stints
    · intro id rowA' id' rowB' hA' hB' hclass htaught
      obtain ⟨rowA, hA, hclassA, hcourseA⟩ := hsame.back id rowA' hA'
      obtain ⟨rowB, hB, hclassB, hcourseB⟩ := hsame.back id' rowB' hB'
      apply h.linked.pairs id rowA id' rowB hA hB
      · rw [← hclassA, hclass, hclassB]
      · rw [← hcourseA, htaught, hcourseB]
  · constructor
    · intro id row hrow
      rw [hclassGroup] at hrow
      rw [hmembers]
      exact h.counted.members id row hrow
    · intro id row hrow
      rw [hclassGroup] at hrow
      rw [hsame.courses]
      exact h.counted.courses id row hrow
    · intro id row hrow
      rw [hcourse] at hrow
      rw [hsame.sections]
      exact h.counted.sections id row hrow

/-- Setting the roster counter of one instance. -/
theorem SameLinks.insert
    {instance_ : ClassCourseId} {row : ClassCourse} {count : ℤ}
    {enrollment : Table (ClassCourseId × UserId) Enrollment}
    (hrow : r.classCourse.lookup instance_ = some row) :
    r.SameLinks
      { r with
        classCourse := r.classCourse.insert instance_ { row with enrollmentCount := count }
        enrollment := enrollment } where
  classes := ⟨rfl, rfl, rfl, rfl⟩
  back := by
    intro id row' hrow'
    obtain ⟨rfl, rfl⟩ | ⟨-, hrow'⟩ := insert_cases hrow'
    · exact ⟨row, hrow, rfl, rfl⟩
    · exact ⟨row', hrow', rfl, rfl⟩
  forth := by
    intro id old hold
    rw [lookup_insert_eq]
    split
    · next hid =>
      subst hid
      rw [hrow] at hold
      cases hold
      exact ⟨_, rfl, rfl, rfl⟩
    · exact ⟨old, hold, rfl, rfl⟩
  courses := by
    intro classId
    have hcount := Table.count_insert r.classCourse instance_
      { row with enrollmentCount := count } fun _ row => row.classId = classId
    rw [hrow] at hcount
    simp only [Option.any_some] at hcount
    change (Table.count (r.classCourse.insert instance_ { row with enrollmentCount := count })
      fun _ row => row.classId = classId) = r.coursesOf classId
    unfold coursesOf
    omega
  sections := by
    intro course
    have hcount := Table.count_insert r.classCourse instance_
      { row with enrollmentCount := count } fun _ row => row.course = course
    rw [hrow] at hcount
    simp only [Option.any_some] at hcount
    change (Table.count (r.classCourse.insert instance_ { row with enrollmentCount := count })
      fun _ row => row.course = course) = r.sectionsOf course
    unfold sectionsOf
    omega

/-- Setting the roster counters of many instances. -/
theorem SameLinks.update
    {f : ClassCourseId → ClassCourse → ClassCourse}
    {enrollment : Table (ClassCourseId × UserId) Enrollment}
    (hf : ∀ id row, (f id row).classId = row.classId ∧ (f id row).course = row.course) :
    r.SameLinks
      { r with classCourse := Table.update r.classCourse f, enrollment := enrollment } where
  classes := ⟨rfl, rfl, rfl, rfl⟩
  back := by
    intro id row' hrow'
    obtain ⟨row, hrow, rfl⟩ := Table.update_cases hrow'
    exact ⟨row, hrow, hf id row⟩
  forth := by
    intro id row hrow
    exact ⟨f id row, by rw [lookup_update, hrow]; rfl, hf id row⟩
  courses := by
    intro classId
    unfold coursesOf
    rw [Table.count_update]
    exact Table.count_congr fun id row _ => by rw [(hf id row).1]
  sections := by
    intro course
    unfold sectionsOf
    rw [Table.count_update]
    exact Table.count_congr fun id row _ => by rw [(hf id row).2]

/-- One new row and one more on its instance. -/
theorem Enrolled.insert
    (h : r.Enrolled) {pair : ClassCourseId × UserId} {row : Enrollment}
    {instance_ : ClassCourse} (hnew : r.enrollment.lookup pair = none)
    (hinstance : r.classCourse.lookup pair.1 = some instance_) :
    ({ r with
      classCourse := r.classCourse.insert pair.1
        { instance_ with enrollmentCount := instance_.enrollmentCount + 1 }
      enrollment := r.enrollment.insert pair row } : Roster).Enrolled := by
  constructor
  · intro id row' hrow'
    have hcount := Table.count_insert r.enrollment pair row fun pair _ => pair.1 = id
    rw [hnew] at hcount
    simp only [Option.any_none, Bool.false_eq_true, if_false, add_zero,
      decide_eq_true_eq] at hcount
    change row'.enrollmentCount =
      (Table.count (r.enrollment.insert pair row) fun pair _ => pair.1 = id : ℤ)
    rw [hcount, lookup_insert_eq] at *
    split at hrow'
    · next hid =>
      cases hrow'
      subst hid
      have hold := h.counts _ instance_ hinstance
      unfold enrolledIn at hold
      rw [if_pos rfl]
      push_cast
      omega
    · next hid =>
      have hold := h.counts id row' hrow'
      unfold enrolledIn at hold
      rw [if_neg (Ne.symm hid)]
      push_cast
      omega
  · intro other row' hrow'
    have hstands : ∃ old, r.classCourse.lookup other.1 = some old := by
      rw [lookup_insert_eq] at hrow'
      split at hrow'
      · next hpair =>
        subst hpair
        exact ⟨instance_, hinstance⟩
      · exact h.owned other row' hrow'
    obtain ⟨old, hold⟩ := hstands
    exact Table.insert_stands hold

theorem enrollPairs_enrolled
    {pairs : List (ClassCourseId × UserId)} (h : r.Enrolled)
    (hpump : enrollPairs pumping r pairs = .ok r') : r.SameLinks r' ∧ r'.Enrolled := by
  induction pairs generalizing r with
  | nil =>
      cases hpump
      exact ⟨.refl _, h⟩
  | cons pair rest ih =>
      simp only [enrollPairs] at hpump
      split at hpump
      · exact ih h hpump
      · next hnew =>
        split at hpump
        · cases hpump
        · next instance_ hinstance =>
          have hstep := ih (h.insert (by simpa using hnew) hinstance) hpump
          exact ⟨(SameLinks.insert hinstance).trans hstep.1, hstep.2⟩

/-- One row less and one less on its instance. -/
theorem Enrolled.release
    (h : r.Enrolled) (pair : ClassCourseId × UserId) :
    r.SameLinks (r.release pair) ∧ (r.release pair).Enrolled := by
  unfold Roster.release
  split
  · exact ⟨.refl r, h⟩
  · next row hrow =>
    refine ⟨.update fun id row => by split <;> exact ⟨rfl, rfl⟩, ?_⟩
    constructor
    · intro id row' hrow'
      simp only [releaseEnrolled, lookup_update, Option.map_eq_some_iff] at hrow'
      obtain ⟨old, hold, rfl⟩ := hrow'
      have hcount := Table.count_erase r.enrollment pair fun pair _ => pair.1 = id
      rw [hrow] at hcount
      simp only [Option.any_some, decide_eq_true_eq] at hcount
      have hbefore := h.counts id old hold
      unfold enrolledIn at hbefore
      change _ = (Table.count (r.enrollment.erase pair) fun pair _ => pair.1 = id : ℤ)
      by_cases hid : id = pair.1
      · rw [if_pos hid.symm] at hcount
        rw [if_pos hid]
        change max (old.enrollmentCount - 1) 0 = _
        omega
      · rw [if_neg (Ne.symm hid)] at hcount
        rw [if_neg hid]
        omega
    · intro other row' hrow'
      have hold : r.enrollment.lookup other = some row' := by
        simp only [releaseEnrolled] at hrow'
        obtain ⟨-, hrow'⟩ := erase_cases hrow'
        exact hrow'
      obtain ⟨instance_, hinstance⟩ := h.owned other row' hold
      exact Table.update_stands hinstance

theorem Enrolled.foldl_release
    (h : r.Enrolled) (pairs : List (ClassCourseId × UserId)) :
    r.SameLinks (pairs.foldl Roster.release r) ∧ (pairs.foldl Roster.release r).Enrolled := by
  induction pairs generalizing r with
  | nil => exact ⟨.refl r, h⟩
  | cons pair rest ih =>
      have hpair := h.release pair
      have hrest := ih hpair.2
      exact ⟨hpair.1.trans hrest.1, hrest.2⟩

/-! ## Members -/

theorem Linked.count_stint
    (h : r.Linked minted) (classId : ClassGroupId) (user : UserId) :
    (Table.count r.classMember fun _ row => isLiveStint classId user row) =
      if r.isLiveMember classId user then 1 else 0 := by
  apply Table.count_eq_any
  intro id row id' row' hrow hstint hrow' hstint'
  simp only [isLiveStint, Bool.and_eq_true, decide_eq_true_eq,
    Option.isNone_iff_eq_none] at hstint hstint'
  exact h.stints id row id' row' hrow hstint.2 hrow' hstint'.2
    (hstint.1.1.trans hstint'.1.1.symm) (hstint.1.2.trans hstint'.1.2.symm)

theorem not_isLiveMember
    (h : r.isLiveMember classId user = false) {id : ClassMemberId} {row : ClassMember}
    (hrow : r.classMember.lookup id = some row) (hlive : row.leftAt = none) :
    ¬(row.classId = classId ∧ row.user = user) := by
  rintro ⟨hclass, huser⟩
  have hstint := Table.any_eq_false_iff.mp h id row hrow
  simp [isLiveStint, hclass, huser, hlive] at hstint

/-- A new stint takes one seat of its section. -/
theorem Sound.seated
    (h : r.Sound minted) {id : ClassMemberId} (hfresh : id.uuid ∉ minted)
    (member : ClassMember) {row : ClassGroup}
    (hrow : r.classGroup.lookup member.classId = some row)
    (hlive : member.leftAt = none)
    (hnew : r.isLiveMember member.classId member.user = false)
    (hroom : row.classMemberCount < maxClassMembers) :
    ({ r with
      classGroup := r.classGroup.insert member.classId
        { row with classMemberCount := row.classMemberCount + 1 }
      classMember := r.classMember.insert id member } : Roster).Sound (id.uuid :: minted) := by
  have hnone : r.classMember.lookup id = none :=
    Option.eq_none_iff_forall_ne_some.mpr fun old hold =>
      hfresh (h.linked.members id old hold).1
  have hcount : ∀ classId, (Table.count (r.classMember.insert id member) fun _ row =>
      decide (row.classId = classId) && row.leftAt.isNone) =
      (if member.classId = classId then 1 else 0) + r.membersOf classId := by
    intro classId
    have hinsert := Table.count_insert r.classMember id member fun _ row =>
      decide (row.classId = classId) && row.leftAt.isNone
    rw [hnone] at hinsert
    simpa [hlive, membersOf] using hinsert
  refine ⟨?_, ?_, ⟨h.enrolled.counts, h.enrolled.owned⟩⟩
  · constructor
    · exact fun _ _ hgroup => List.mem_cons_of_mem _
        (Table.insert_keys (·.uuid ∈ minted) hgroup (h.linked.classes _ row hrow) h.linked.classes)
    · exact fun key taught htaught =>
        List.mem_cons_of_mem _ (h.linked.courses key taught htaught)
    · intro key stint hstint
      obtain ⟨rfl, rfl⟩ | ⟨-, hstint⟩ := insert_cases hstint
      · exact ⟨List.mem_cons_self, Table.insert_stands hrow⟩
      · obtain ⟨hminted, group, hgroup⟩ := h.linked.members key stint hstint
        exact ⟨List.mem_cons_of_mem _ hminted, Table.insert_stands hgroup⟩
    · intro key link hlink
      obtain ⟨hminted, ⟨group, hgroup⟩, htaught⟩ := h.linked.instances key link hlink
      exact ⟨List.mem_cons_of_mem _ hminted, Table.insert_stands hgroup, htaught⟩
    · intro key stint key' stint' hstint hopen hstint' hopen' hclass huser
      rw [lookup_insert_eq] at hstint hstint'
      split at hstint
      · next hkey =>
        split at hstint'
        · next hkey' => rw [hkey, hkey']
        · cases hstint
          exact absurd ⟨hclass.symm, huser.symm⟩ (not_isLiveMember hnew hstint' hopen')
      · next hkey =>
        split at hstint'
        · cases hstint'
          exact absurd ⟨hclass, huser⟩ (not_isLiveMember hnew hstint hopen)
        · exact h.linked.stints key stint key' stint' hstint hopen hstint' hopen' hclass huser
    · exact h.linked.pairs
  · constructor
    · intro key group hgroup
      change group.classMemberCount = (Table.count (r.classMember.insert id member) fun _ row =>
        decide (row.classId = key) && row.leftAt.isNone : ℤ) ∧ _
      rw [hcount]
      obtain ⟨hkey, rfl⟩ | ⟨hkey, hgroup⟩ := insert_cases hgroup
      · have hold := (h.counted.members _ row hrow).1
        rw [if_pos hkey.symm, hkey]
        push_cast
        constructor <;> omega
      · have hold := h.counted.members key group hgroup
        rw [if_neg (Ne.symm hkey)]
        push_cast
        constructor <;> omega
    · intro key group hgroup
      change group.classCourseCount = (r.coursesOf key : ℤ) ∧ _
      obtain ⟨rfl, rfl⟩ | ⟨-, hgroup⟩ := insert_cases hgroup
      · exact h.counted.courses _ row hrow
      · exact h.counted.courses key group hgroup
    · exact h.counted.sections

theorem Sound.memberAdded
    (h : r.Sound minted) {role : Option Role} {id : ClassMemberId} {source : Option ClassGroupId}
    {member : ClassMember} (hfresh : id.uuid ∉ minted)
    (hadd : r.addMember role id pumping user source = (.made member, r')) :
    r'.Sound (id.uuid :: minted) := by
  obtain ⟨row, hnew, -, hrow, -, hroom, rfl, hpump⟩ := addMember_made hadd
  have hseated := h.seated hfresh
    ⟨pumping.classId, user, pumping.by_, pumping.now, none, source⟩ hrow rfl hnew hroom
  have hpumped := enrollPairs_enrolled hseated.enrolled hpump
  exact hseated.sameLinks hpumped.1 hpumped.2

theorem Sound.unseated
    (h : r.Sound minted) {members : Table ClassMemberId ClassMember}
    {f : ClassGroupId → ClassGroup → ClassGroup} (leaves : ClassGroupId → Bool)
    (hf : ∀ id row, (f id row).classMemberCount =
      (if leaves id then max (row.classMemberCount - 1) 0 else row.classMemberCount) ∧
        (f id row).classCourseCount = row.classCourseCount)
    (hback : ∀ id row', members.lookup id = some row' →
      ∃ row, r.classMember.lookup id = some row ∧ row'.classId = row.classId ∧
        row'.user = row.user ∧ (row'.leftAt = none → row.leftAt = none))
    (hcount : ∀ classId, (Table.count members fun _ row =>
        decide (row.classId = classId) && row.leftAt.isNone) +
      (if leaves classId then 1 else 0) = r.membersOf classId) :
    ({ r with classGroup := Table.update r.classGroup f, classMember := members } :
      Roster).Sound minted := by
  have hgroups : ∀ key group, r.classGroup.lookup key = some group →
      ∃ group', (Table.update r.classGroup f).lookup key = some group' := by
    intro key group hgroup
    exact ⟨f key group, by rw [lookup_update, hgroup]; rfl⟩
  have hsplit : ∀ {key group'}, (Table.update r.classGroup f).lookup key = some group' →
      ∃ group, r.classGroup.lookup key = some group ∧ group' = f key group := by
    intro key group' hgroup'
    obtain ⟨group, hgroup, rfl⟩ := Table.update_cases hgroup'
    exact ⟨group, hgroup, rfl⟩
  refine ⟨?_, ?_, ⟨h.enrolled.counts, h.enrolled.owned⟩⟩
  · constructor
    · intro key group' hgroup'
      obtain ⟨group, hgroup, -⟩ := hsplit hgroup'
      exact h.linked.classes key group hgroup
    · exact h.linked.courses
    · intro key stint' hstint'
      obtain ⟨stint, hstint, hclass, -, -⟩ := hback key stint' hstint'
      obtain ⟨hminted, group, hgroup⟩ := h.linked.members key stint hstint
      rw [hclass]
      exact ⟨hminted, hgroups _ group hgroup⟩
    · intro key link hlink
      obtain ⟨hminted, ⟨group, hgroup⟩, htaught⟩ := h.linked.instances key link hlink
      exact ⟨hminted, hgroups _ group hgroup, htaught⟩
    · intro key stintA' key' stintB' hA' hopenA hB' hopenB hclass huser
      obtain ⟨stintA, hA, hclassA, huserA, hliveA⟩ := hback key stintA' hA'
      obtain ⟨stintB, hB, hclassB, huserB, hliveB⟩ := hback key' stintB' hB'
      apply h.linked.stints key stintA key' stintB hA (hliveA hopenA) hB (hliveB hopenB)
      · rw [← hclassA, hclass, hclassB]
      · rw [← huserA, huser, huserB]
    · exact h.linked.pairs
  · constructor
    · intro key group' hgroup'
      obtain ⟨group, hgroup, rfl⟩ := hsplit hgroup'
      have hold := h.counted.members key group hgroup
      have hmoved := hcount key
      change _ = (Table.count members fun _ row =>
        decide (row.classId = key) && row.leftAt.isNone : ℤ) ∧ _
      rw [(hf key group).1]
      unfold maxClassMembers at *
      split at hmoved
      · next hleaves =>
        rw [if_pos hleaves]
        constructor <;> omega
      · next hleaves =>
        rw [if_neg hleaves]
        constructor <;> omega
    · intro key group' hgroup'
      obtain ⟨group, hgroup, rfl⟩ := hsplit hgroup'
      rw [(hf key group).2]
      exact h.counted.courses key group hgroup
    · exact h.counted.sections

theorem count_ended
    (members : Table ClassMemberId ClassMember) (stint : ClassMember → Bool)
    (now : Timestamp) (classId : ClassGroupId) :
    (Table.count
      (Table.update members fun _ row =>
        if stint row then { row with leftAt := some now } else row)
      fun _ row => decide (row.classId = classId) && row.leftAt.isNone) =
    Table.count (Table.deleteWhere members fun _ row => stint row) fun _ row =>
      decide (row.classId = classId) && row.leftAt.isNone := by
  rw [Table.count_update, Table.count_deleteWhere]
  apply Table.count_congr
  intro key row _
  cases hstint : stint row <;> simp

theorem lookup_ended
    {members : Table ClassMemberId ClassMember} {stint : ClassMember → Bool} {now : Timestamp}
    {id : ClassMemberId} {row' : ClassMember}
    (h : (Table.update members fun _ row =>
      if stint row then { row with leftAt := some now } else row).lookup id = some row') :
    ∃ row, members.lookup id = some row ∧ row'.classId = row.classId ∧ row'.user = row.user ∧
      (row'.leftAt = none → row.leftAt = none) := by
  obtain ⟨row, hrow, rfl⟩ := Table.update_cases h
  refine ⟨row, hrow, ?_⟩
  split
  · exact ⟨rfl, rfl, fun hopen => by cases hopen⟩
  · exact ⟨rfl, rfl, fun hopen => hopen⟩

theorem Sound.memberDropped
    (h : r.Sound minted) {soft : Bool} {now : Timestamp}
    (hdrop : r.dropMember classId user soft now = (true, r')) :
    r'.Sound minted := by
  obtain ⟨hlive, ended, rfl, rfl⟩ := dropMember_true hdrop
  have hone := h.linked.count_stint classId user
  rw [hlive, if_pos rfl] at hone
  have hdeleted : ∀ key, (Table.count
      (Table.deleteWhere r.classMember fun _ row => isLiveStint classId user row) fun _ row =>
        decide (row.classId = key) && row.leftAt.isNone) +
      (if decide (key = classId) then 1 else 0) = r.membersOf key := by
    intro key
    have hsplit := Table.count_deleteWhere_add r.classMember
      (fun _ row => isLiveStint classId user row) fun _ row =>
        decide (row.classId = key) && row.leftAt.isNone
    have hstint : (Table.count r.classMember fun _ row =>
        isLiveStint classId user row && (decide (row.classId = key) && row.leftAt.isNone)) =
        if decide (key = classId) then 1 else 0 := by
      by_cases hkey : key = classId
      · subst hkey
        rw [if_pos (by simp), ← hone]
        apply Table.count_congr
        intro id row _
        unfold isLiveStint
        cases decide (row.classId = key) <;> cases decide (row.user = user) <;>
          cases row.leftAt.isNone <;> rfl
      · rw [if_neg (by simpa using hkey), Table.count_eq_zero_iff]
        intro id row _
        by_cases hclass : row.classId = classId
        · simp [hclass, Ne.symm hkey]
        · simp [isLiveStint, hclass]
    rw [← hstint]
    exact hsplit
  have hseated : (({ r with
      classMember :=
        if soft then
          Table.update r.classMember fun _ row =>
            if isLiveStint classId user row then { row with leftAt := some now } else row
        else Table.deleteWhere r.classMember fun _ row => isLiveStint classId user row } :
      Roster).releaseMember classId).Sound minted := by
    apply h.unseated fun key => decide (key = classId)
    · intro key row
      by_cases hkey : key = classId
      · simp [hkey]
      · simp [hkey]
    · cases soft with
      | true => exact fun id row' hrow' => lookup_ended hrow'
      | false =>
          intro id row' hrow'
          simp only [Bool.false_eq_true, if_false, lookup_deleteWhere,
            Option.filter_eq_some_iff] at hrow'
          exact ⟨row', hrow'.1, rfl, rfl, fun hopen => hopen⟩
    · intro key
      cases soft with
      | true =>
          rw [if_pos rfl, count_ended]
          exact hdeleted key
      | false => exact hdeleted key
  have hreleased := hseated.enrolled.foldl_release (r.pumpedRows classId user)
  exact hseated.sameLinks hreleased.1 hreleased.2

theorem Sound.shed
    (h : r.Sound minted) (user : UserId) (now : Timestamp) : (r.shed user now).Sound minted := by
  have hunseated : ({ r with
      classGroup := Table.update r.classGroup fun id row =>
        if r.isLiveMember id user then
          { row with classMemberCount := max (row.classMemberCount - 1) 0 }
        else row
      classMember := Table.update r.classMember fun _ row =>
        if row.user = user ∧ row.leftAt = none then { row with leftAt := some now } else row } :
      Roster).Sound minted := by
    have hended : (fun (_ : ClassMemberId) (row : ClassMember) =>
        if row.user = user ∧ row.leftAt = none then { row with leftAt := some now } else row) =
        fun _ row => if (decide (row.user = user) && row.leftAt.isNone) = true then
          { row with leftAt := some now } else row := by
      funext _ row
      simp
    rw [hended]
    apply h.unseated fun id => r.isLiveMember id user
    · intro id row
      split <;> exact ⟨rfl, rfl⟩
    · exact fun id row' hrow' => lookup_ended hrow'
    · intro key
      rw [count_ended, ← h.linked.count_stint key user]
      have hsplit := Table.count_deleteWhere_add r.classMember
        (fun _ row => decide (row.user = user) && row.leftAt.isNone) fun _ row =>
          decide (row.classId = key) && row.leftAt.isNone
      have hstint : (Table.count r.classMember fun _ row =>
          (decide (row.user = user) && row.leftAt.isNone) &&
            (decide (row.classId = key) && row.leftAt.isNone)) =
          Table.count r.classMember fun _ row => isLiveStint key user row := by
        apply Table.count_congr
        intro id row _
        unfold isLiveStint
        cases decide (row.classId = key) <;> cases decide (row.user = user) <;>
          cases row.leftAt.isNone <;> rfl
      rw [← hstint]
      exact hsplit
  have hlinks : Roster.SameLinks _ (r.shed user now) := SameLinks.update
    (r := { r with
      classGroup := Table.update r.classGroup fun id row =>
        if r.isLiveMember id user then
          { row with classMemberCount := max (row.classMemberCount - 1) 0 }
        else row
      classMember := Table.update r.classMember fun _ row =>
        if row.user = user ∧ row.leftAt = none then { row with leftAt := some now } else row })
    (f := fun id row =>
      if (r.enrollment.lookup (id, user)).isSome then
        { row with enrollmentCount := max (row.enrollmentCount - 1) 0 }
      else row)
    fun id row => by split <;> exact ⟨rfl, rfl⟩
  refine hunseated.sameLinks hlinks ?_
  constructor
  · intro id row' hrow'
    simp only [Roster.shed, lookup_update, Option.map_eq_some_iff] at hrow'
    obtain ⟨row, hrow, rfl⟩ := hrow'
    have hold := h.enrolled.counts id row hrow
    have hsplit := Table.count_deleteWhere_add r.enrollment (fun pair _ => pair.2 = user)
      fun pair _ => pair.1 = id
    have hkey : (Table.count r.enrollment fun pair _ =>
        decide (pair.2 = user) && decide (pair.1 = id)) =
        if (r.enrollment.lookup (id, user)).isSome then 1 else 0 := by
      rw [← Table.count_key]
      apply Table.count_congr
      rintro ⟨instance_, holder⟩ enrollment _
      by_cases hid : instance_ = id <;> by_cases huser : holder = user <;> simp [hid, huser]
    unfold enrolledIn at hold
    change _ = (Table.count (Table.deleteWhere r.enrollment fun pair _ => pair.2 = user)
      fun pair _ => pair.1 = id : ℤ)
    rw [hkey] at hsplit
    split at hsplit
    · next hsome =>
      rw [if_pos hsome]
      change max (row.enrollmentCount - 1) 0 = _
      omega
    · next hnone =>
      rw [if_neg hnone]
      omega
  · intro pair row hrow
    simp only [Roster.shed, lookup_deleteWhere, Option.filter_eq_some_iff] at hrow
    obtain ⟨instance_, hinstance⟩ := h.enrolled.owned pair row hrow.1
    exact Table.update_stands hinstance

/-- A write of the teachers and of the staffing rows. -/
theorem Sound.staffed
    (h : r.Sound minted) {f : ClassGroupId → ClassGroup → ClassGroup}
    {staff : Table (ClassCourseId × UserId) Unit}
    (hf : ∀ id row, (f id row).classMemberCount = row.classMemberCount ∧
      (f id row).classCourseCount = row.classCourseCount) :
    ({ r with classGroup := Table.update r.classGroup f, classCourseTeacher := staff } :
      Roster).Sound minted := by
  have hkept : ({ r with
      classGroup := Table.update r.classGroup f, classMember := r.classMember } :
      Roster).Sound minted :=
    h.unseated (fun _ => false) (fun id row => ⟨(hf id row).1, (hf id row).2⟩)
      (fun _ row hrow => ⟨row, hrow, rfl, rfl, fun hopen => hopen⟩)
      (fun classId => by simp [membersOf])
  exact ⟨⟨hkept.linked.classes, hkept.linked.courses, hkept.linked.members,
    hkept.linked.instances, hkept.linked.stints, hkept.linked.pairs⟩,
    ⟨hkept.counted.members, hkept.counted.courses, hkept.counted.sections⟩,
    ⟨hkept.enrolled.counts, hkept.enrolled.owned⟩⟩

theorem Sound.sameStaff
    (h : r.Sound minted) (staff : Table (ClassCourseId × UserId) Unit) :
    ({ r with classCourseTeacher := staff } : Roster).Sound minted :=
  ⟨⟨h.linked.classes, h.linked.courses, h.linked.members, h.linked.instances, h.linked.stints,
    h.linked.pairs⟩, ⟨h.counted.members, h.counted.courses, h.counted.sections⟩,
    ⟨h.enrolled.counts, h.enrolled.owned⟩⟩

/-! ## Sections, courses and instances -/

/-- A new row under a fresh key has no children. -/
theorem Sound.classCreated
    (h : r.Sound minted) {uuid : Uuid} (hfresh : uuid ∉ minted) (teacher : Option UserId) :
    ({ r with classGroup := r.classGroup.insert ⟨uuid⟩ ⟨teacher, 0, 0⟩ } : Roster).Sound
      (uuid :: minted) := by
  have hnew : r.classGroup.lookup ⟨uuid⟩ = none :=
    Option.eq_none_iff_forall_ne_some.mpr fun old hold =>
      hfresh (h.linked.classes _ old hold)
  have hmembers : r.membersOf ⟨uuid⟩ = 0 := by
    unfold membersOf
    rw [Table.count_eq_zero_iff]
    intro key stint hstint
    obtain ⟨-, group, hgroup⟩ := h.linked.members key stint hstint
    have hother : stint.classId ≠ ⟨uuid⟩ := by
      intro hclass
      rw [hclass, hnew] at hgroup
      cases hgroup
    simp [hother]
  have hcourses : r.coursesOf ⟨uuid⟩ = 0 := by
    unfold coursesOf
    rw [Table.count_eq_zero_iff]
    intro key link hlink
    obtain ⟨-, ⟨group, hgroup⟩, -⟩ := h.linked.instances key link hlink
    have hother : link.classId ≠ ⟨uuid⟩ := by
      intro hclass
      rw [hclass, hnew] at hgroup
      cases hgroup
    simp [hother]
  refine ⟨?_, ?_, ⟨h.enrolled.counts, h.enrolled.owned⟩⟩
  · constructor
    · refine fun _ _ hgroup =>
        Table.insert_keys (·.uuid ∈ uuid :: minted) hgroup List.mem_cons_self
          fun key group hold => ?_
      exact List.mem_cons_of_mem _ (h.linked.classes key group hold)
    · exact fun key taught htaught =>
        List.mem_cons_of_mem _ (h.linked.courses key taught htaught)
    · intro key stint hstint
      obtain ⟨hminted, group, hgroup⟩ := h.linked.members key stint hstint
      exact ⟨List.mem_cons_of_mem _ hminted, Table.insert_stands hgroup⟩
    · intro key link hlink
      obtain ⟨hminted, ⟨group, hgroup⟩, htaught⟩ := h.linked.instances key link hlink
      exact ⟨List.mem_cons_of_mem _ hminted, Table.insert_stands hgroup, htaught⟩
    · exact h.linked.stints
    · exact h.linked.pairs
  · constructor
    · intro key group hgroup
      change _ = (r.membersOf key : ℤ) ∧ _
      obtain ⟨rfl, rfl⟩ | ⟨-, hgroup⟩ := insert_cases hgroup
      · rw [hmembers]
        exact ⟨rfl, by simp [maxClassMembers]⟩
      · exact h.counted.members key group hgroup
    · intro key group hgroup
      change _ = (r.coursesOf key : ℤ) ∧ _
      obtain ⟨rfl, rfl⟩ | ⟨-, hgroup⟩ := insert_cases hgroup
      · rw [hcourses]
        exact ⟨rfl, by simp [maxClassCourses]⟩
      · exact h.counted.courses key group hgroup
    · exact h.counted.sections

theorem Sound.courseCreated
    (h : r.Sound minted) {uuid : Uuid} (hfresh : uuid ∉ minted) (kind : CourseKind) :
    ({ r with course := r.course.insert ⟨uuid⟩ ⟨kind, 0⟩ } : Roster).Sound
      (uuid :: minted) := by
  have hnew : r.course.lookup ⟨uuid⟩ = none :=
    Option.eq_none_iff_forall_ne_some.mpr fun old hold =>
      hfresh (h.linked.courses _ old hold)
  have hsections : r.sectionsOf ⟨uuid⟩ = 0 := by
    unfold sectionsOf
    rw [Table.count_eq_zero_iff]
    intro key link hlink
    obtain ⟨-, -, taught, htaught⟩ := h.linked.instances key link hlink
    have hother : link.course ≠ ⟨uuid⟩ := by
      intro hcourse
      rw [hcourse, hnew] at htaught
      cases htaught
    simp [hother]
  refine ⟨?_, ?_, ⟨h.enrolled.counts, h.enrolled.owned⟩⟩
  · constructor
    · exact fun key group hgroup => List.mem_cons_of_mem _ (h.linked.classes key group hgroup)
    · refine fun _ _ htaught =>
        Table.insert_keys (·.uuid ∈ uuid :: minted) htaught List.mem_cons_self
          fun key taught hold => ?_
      exact List.mem_cons_of_mem _ (h.linked.courses key taught hold)
    · intro key stint hstint
      obtain ⟨hminted, hgroup⟩ := h.linked.members key stint hstint
      exact ⟨List.mem_cons_of_mem _ hminted, hgroup⟩
    · intro key link hlink
      obtain ⟨hminted, hgroup, taught, htaught⟩ := h.linked.instances key link hlink
      refine ⟨List.mem_cons_of_mem _ hminted, hgroup, ?_⟩
      exact Table.insert_stands htaught
    · exact h.linked.stints
    · exact h.linked.pairs
  · constructor
    · exact h.counted.members
    · exact h.counted.courses
    · intro key taught htaught
      change _ = (r.sectionsOf key : ℤ)
      obtain ⟨rfl, rfl⟩ | ⟨-, htaught⟩ := insert_cases htaught
      · rw [hsections]
        rfl
      · exact h.counted.sections key taught htaught

theorem Sound.instanceCreated
    (h : r.Sound minted) {id : ClassCourseId} (hfresh : id.uuid ∉ minted) (link : ClassCourse)
    {row : ClassGroup} {taught : Course}
    (hrow : r.classGroup.lookup link.classId = some row)
    (htaught : r.course.lookup link.course = some taught)
    (hnew : ∀ other old, r.classCourse.lookup other = some old →
      ¬(old.classId = link.classId ∧ old.course = link.course))
    (hempty : link.enrollmentCount = 0) (hroom : row.classCourseCount < maxClassCourses) :
    ({ r with
      classGroup := r.classGroup.insert link.classId
        { row with classCourseCount := row.classCourseCount + 1 }
      course := r.course.insert link.course
        { taught with classCourseCount := taught.classCourseCount + 1 }
      classCourse := r.classCourse.insert id link } : Roster).Sound (id.uuid :: minted) := by
  have hnone : r.classCourse.lookup id = none :=
    Option.eq_none_iff_forall_ne_some.mpr fun old hold =>
      hfresh (h.linked.instances id old hold).1
  have hcount : ∀ p : ClassCourse → Bool, (Table.count (r.classCourse.insert id link)
      fun _ row => p row) = (if p link then 1 else 0) +
        Table.count r.classCourse fun _ row => p row := by
    intro p
    have hinsert := Table.count_insert r.classCourse id link fun _ row => p row
    rw [hnone] at hinsert
    simpa using hinsert
  refine ⟨?_, ?_, ?_⟩
  · constructor
    · exact fun _ _ hgroup => List.mem_cons_of_mem _
        (Table.insert_keys (·.uuid ∈ minted) hgroup (h.linked.classes _ row hrow) h.linked.classes)
    · exact fun _ _ hold => List.mem_cons_of_mem _
        (Table.insert_keys (·.uuid ∈ minted) hold (h.linked.courses _ taught htaught)
          h.linked.courses)
    · intro key stint hstint
      obtain ⟨hminted, group, hgroup⟩ := h.linked.members key stint hstint
      exact ⟨List.mem_cons_of_mem _ hminted, Table.insert_stands hgroup⟩
    · intro key old hold
      obtain ⟨rfl, rfl⟩ | ⟨-, hold⟩ := insert_cases hold
      · exact ⟨List.mem_cons_self, Table.insert_stands hrow, Table.insert_stands htaught⟩
      · obtain ⟨hminted, ⟨group, hgroup⟩, other, hother⟩ := h.linked.instances key old hold
        exact ⟨List.mem_cons_of_mem _ hminted, Table.insert_stands hgroup,
          Table.insert_stands hother⟩
    · exact h.linked.stints
    · intro key linkA key' linkB hA hB hclass hcourse
      rw [lookup_insert_eq] at hA hB
      split at hA
      · next hkey =>
        split at hB
        · next hkey' => rw [hkey, hkey']
        · cases hA
          exact absurd ⟨hclass.symm, hcourse.symm⟩ (hnew key' linkB hB)
      · next hkey =>
        split at hB
        · cases hB
          exact absurd ⟨hclass, hcourse⟩ (hnew key linkA hA)
        · exact h.linked.pairs key linkA key' linkB hA hB hclass hcourse
  · constructor
    · intro key group hgroup
      change _ = (r.membersOf key : ℤ) ∧ _
      obtain ⟨rfl, rfl⟩ | ⟨-, hgroup⟩ := insert_cases hgroup
      · exact h.counted.members _ row hrow
      · exact h.counted.members key group hgroup
    · intro key group hgroup
      change _ = (Table.count (r.classCourse.insert id link) fun _ row => row.classId = key : ℤ) ∧ _
      rw [hcount fun row => row.classId = key]
      change _ = ((_ + r.coursesOf key : ℕ) : ℤ) ∧ _
      obtain ⟨hkey, rfl⟩ | ⟨hkey, hgroup⟩ := insert_cases hgroup
      · have hold := (h.counted.courses _ row hrow).1
        rw [if_pos (by simp [hkey]), hkey]
        push_cast
        constructor <;> omega
      · have hold := h.counted.courses key group hgroup
        rw [if_neg (by simpa using Ne.symm hkey)]
        push_cast
        constructor <;> omega
    · intro key old hold
      change _ = (Table.count (r.classCourse.insert id link) fun _ row => row.course = key : ℤ)
      rw [hcount fun row => row.course = key]
      change _ = ((_ + r.sectionsOf key : ℕ) : ℤ)
      obtain ⟨hkey, rfl⟩ | ⟨hkey, hold⟩ := insert_cases hold
      · have hbefore := h.counted.sections _ taught htaught
        rw [if_pos (by simp [hkey]), hkey]
        push_cast
        omega
      · have hbefore := h.counted.sections key old hold
        rw [if_neg (by simpa using Ne.symm hkey)]
        push_cast
        omega
  · constructor
    · intro key old hold
      obtain ⟨rfl, rfl⟩ | ⟨-, hold⟩ := insert_cases hold
      · have hzero : r.enrolledIn key = 0 := by
          unfold enrolledIn
          rw [Table.count_eq_zero_iff]
          intro pair enrollment henrollment
          obtain ⟨old, hold⟩ := h.enrolled.owned pair enrollment henrollment
          have hother : pair.1 ≠ key := by
            intro hpair
            rw [hpair, hnone] at hold
            cases hold
          simp [hother]
        change _ = (r.enrolledIn key : ℤ)
        rw [hzero, hempty]
        rfl
      · exact h.enrolled.counts key old hold
    · intro pair enrollment henrollment
      obtain ⟨old, hold⟩ := h.enrolled.owned pair enrollment henrollment
      exact Table.insert_stands hold

theorem Sound.courseAttached
    (h : r.Sound minted) {id : ClassCourseId} {link : ClassCourse} (hfresh : id.uuid ∉ minted)
    (hattach : r.attachCourse id pumping course = .ok (.made link, r')) :
    r'.Sound (id.uuid :: minted) := by
  obtain ⟨row, taught, hnew, htaught, -, hrow, -, hroom, hpump⟩ := attachCourse_made hattach
  have hlinked := h.instanceCreated hfresh
    ⟨pumping.classId, course, pumping.by_, pumping.now, 0⟩ hrow htaught hnew rfl hroom
  have hpumped := enrollPairs_enrolled hlinked.enrolled hpump
  exact hlinked.sameLinks hpumped.1 hpumped.2

/-- A detached instance leaves both counts it was in. -/
theorem Sound.courseDetached
    (h : r.Sound minted) (hdetach : r.detachCourse classId course = (true, r')) :
    r'.Sound minted := by
  obtain ⟨instance_, row, hrow, hclass, hcourse, rfl⟩ := detachCourse_true hdetach
  have hback : ∀ {key link}, (r.classCourse.erase instance_).lookup key = some link →
      key ≠ instance_ ∧ r.classCourse.lookup key = some link := by
    intro key link hlink
    obtain ⟨hkey, hlink⟩ := erase_cases hlink
    exact ⟨hkey, hlink⟩
  have hcount : ∀ p : ClassCourse → Bool, (Table.count (r.classCourse.erase instance_)
      fun _ row => p row) + (if p row then 1 else 0) =
        Table.count r.classCourse fun _ row => p row := by
    intro p
    have herase := Table.count_erase r.classCourse instance_ fun _ row => p row
    rw [hrow] at herase
    simpa using herase
  have hgroups : ∀ {key group}, r.classGroup.lookup key = some group →
      ∃ group', (({ r.sweepInstance instance_ with
        classCourse := (r.sweepInstance instance_).classCourse.erase instance_ } :
          Roster).releaseCourse classId |>.releaseSection course).classGroup.lookup key =
            some group' := by
    intro key group hgroup
    simp only [releaseSection, releaseCourse, sweepInstance, lookup_update, hgroup]
    exact ⟨_, rfl⟩
  refine ⟨?_, ?_, ?_⟩
  · constructor
    · intro key group' hgroup'
      simp only [releaseSection, releaseCourse, lookup_update,
        Option.map_eq_some_iff] at hgroup'
      obtain ⟨group, hgroup, -⟩ := hgroup'
      exact h.linked.classes key group hgroup
    · intro key taught' htaught'
      simp only [releaseSection, releaseCourse, lookup_update,
        Option.map_eq_some_iff] at htaught'
      obtain ⟨taught, htaught, -⟩ := htaught'
      exact h.linked.courses key taught htaught
    · intro key stint hstint
      obtain ⟨hminted, group, hgroup⟩ := h.linked.members key stint hstint
      exact ⟨hminted, hgroups hgroup⟩
    · intro key link hlink
      obtain ⟨hminted, ⟨group, hgroup⟩, taught, htaught⟩ :=
        h.linked.instances key link (hback hlink).2
      refine ⟨hminted, hgroups hgroup, ?_⟩
      simp only [releaseSection, releaseCourse, sweepInstance, lookup_update, htaught]
      exact ⟨_, rfl⟩
    · exact h.linked.stints
    · intro key linkA key' linkB hA hB
      exact h.linked.pairs key linkA key' linkB (hback hA).2 (hback hB).2
  · constructor
    · intro key group' hgroup'
      simp only [releaseSection, releaseCourse, lookup_update,
        Option.map_eq_some_iff] at hgroup'
      obtain ⟨group, hgroup, rfl⟩ := hgroup'
      have hold := h.counted.members key group hgroup
      change _ = (r.membersOf key : ℤ) ∧ _
      split <;> exact hold
    · intro key group' hgroup'
      simp only [releaseSection, releaseCourse, lookup_update,
        Option.map_eq_some_iff] at hgroup'
      obtain ⟨group, hgroup, rfl⟩ := hgroup'
      have hold := h.counted.courses key group hgroup
      have hmoved := hcount fun row => row.classId = key
      change _ = (Table.count (r.classCourse.erase instance_) fun _ row =>
        row.classId = key : ℤ) ∧ _
      unfold coursesOf maxClassCourses at *
      by_cases hkey : key = classId
      · rw [if_pos (by simp [hclass, hkey])] at hmoved
        rw [if_pos hkey]
        constructor <;> simp only <;> omega
      · rw [if_neg (by simpa [hclass] using Ne.symm hkey)] at hmoved
        rw [if_neg hkey]
        constructor <;> omega
    · intro key taught' htaught'
      simp only [releaseSection, releaseCourse, lookup_update,
        Option.map_eq_some_iff] at htaught'
      obtain ⟨taught, htaught, rfl⟩ := htaught'
      have hold := h.counted.sections key taught htaught
      have hmoved := hcount fun row => row.course = key
      change _ = (Table.count (r.classCourse.erase instance_) fun _ row => row.course = key : ℤ)
      unfold sectionsOf at hold
      by_cases hkey : key = course
      · rw [if_pos (by simp [hcourse, hkey])] at hmoved
        rw [if_pos hkey]
        simp only
        omega
      · rw [if_neg (by simpa [hcourse] using Ne.symm hkey)] at hmoved
        rw [if_neg hkey]
        omega
  · constructor
    · intro key link hlink
      obtain ⟨hother, hlink⟩ := hback hlink
      rw [h.enrolled.counts key link hlink]
      change (r.enrolledIn key : ℤ) =
        (Table.count (Table.deleteWhere r.enrollment fun pair _ => pair.1 = instance_)
          fun pair _ => pair.1 = key : ℤ)
      rw [Table.count_deleteWhere]
      unfold enrolledIn
      congr 1
      apply Table.count_congr
      intro pair enrollment _
      by_cases hpair : pair.1 = key
      · simp [hpair, hother]
      · simp [hpair]
    · intro pair enrollment henrollment
      have hkept : r.enrollment.lookup pair = some enrollment ∧ pair.1 ≠ instance_ := by
        simpa [releaseSection, releaseCourse, sweepInstance,
          Option.filter_eq_some_iff] using henrollment
      obtain ⟨link, hlink⟩ := h.enrolled.owned pair enrollment hkept.1
      refine ⟨link, ?_⟩
      change (r.classCourse.erase instance_).lookup pair.1 = some link
      rw [lookup_erase_eq, if_neg hkept.2, hlink]

theorem Sound.classDeleted
    (h : r.Sound minted) (hdelete : r.deleteClass classId = .ok (true, r')) : r'.Sound minted := by
  obtain ⟨row, hrow, -, hempty, rfl⟩ := deleteClass_true hdelete
  have hnone : ∀ key link, r.classCourse.lookup key = some link → link.classId ≠ classId := by
    have hzero : r.coursesOf classId = 0 := by
      have hcount := (h.counted.courses classId row hrow).1
      omega
    intro key link hlink hclass
    have hcounted := Table.count_eq_zero_iff.mp hzero key link hlink
    simp [hclass] at hcounted
  have hgroups : ∀ key group, key ≠ classId → r.classGroup.lookup key = some group →
      ∃ group', (r.classGroup.erase classId).lookup key = some group' := by
    intro key group hkey hgroup
    exact ⟨group, by rw [lookup_erase_eq, if_neg hkey, hgroup]⟩
  have hback : ∀ {key group}, (r.classGroup.erase classId).lookup key = some group →
      key ≠ classId ∧ r.classGroup.lookup key = some group := by
    intro key group hgroup
    obtain ⟨hkey, hgroup⟩ := erase_cases hgroup
    exact ⟨hkey, hgroup⟩
  have hstints : ∀ {key stint'}, (Table.update
      (Table.deleteWhere r.classMember fun _ row => row.classId = classId) fun _ row =>
        if row.sourceClassGroup = some classId then { row with sourceClassGroup := none }
        else row).lookup key = some stint' →
      ∃ stint, r.classMember.lookup key = some stint ∧ stint.classId ≠ classId ∧
        stint'.classId = stint.classId ∧ stint'.user = stint.user ∧
        stint'.leftAt = stint.leftAt := by
    intro key stint' hstint'
    simp only [lookup_update, lookup_deleteWhere, Option.map_eq_some_iff,
      Option.filter_eq_some_iff] at hstint'
    obtain ⟨stint, ⟨hstint, hclass⟩, rfl⟩ := hstint'
    refine ⟨stint, hstint, by simpa using hclass, ?_⟩
    split <;> exact ⟨rfl, rfl, rfl⟩
  refine ⟨?_, ?_, ⟨?_, ?_⟩⟩
  · constructor
    · exact fun key group hgroup => h.linked.classes key group (hback hgroup).2
    · exact h.linked.courses
    · intro key stint' hstint'
      obtain ⟨stint, hstint, hother, hclass, -, -⟩ := hstints hstint'
      obtain ⟨hminted, group, hgroup⟩ := h.linked.members key stint hstint
      rw [hclass]
      exact ⟨hminted, hgroups _ group hother hgroup⟩
    · intro key link hlink
      obtain ⟨hminted, ⟨group, hgroup⟩, htaught⟩ := h.linked.instances key link hlink
      exact ⟨hminted, hgroups _ group (hnone key link hlink) hgroup, htaught⟩
    · intro key stintA' key' stintB' hA' hopenA hB' hopenB hclass huser
      obtain ⟨stintA, hA, -, hclassA, huserA, hleftA⟩ := hstints hA'
      obtain ⟨stintB, hB, -, hclassB, huserB, hleftB⟩ := hstints hB'
      rw [hleftA] at hopenA
      rw [hleftB] at hopenB
      rw [hclassA, hclassB] at hclass
      rw [huserA, huserB] at huser
      exact h.linked.stints key stintA key' stintB hA hopenA hB hopenB hclass huser
    · exact h.linked.pairs
  · constructor
    · intro key group hgroup
      obtain ⟨hkey, hgroup⟩ := hback hgroup
      have hsame : (Table.count (Table.update
          (Table.deleteWhere r.classMember fun _ row => row.classId = classId) fun _ row =>
            if row.sourceClassGroup = some classId then { row with sourceClassGroup := none }
            else row) fun _ row => decide (row.classId = key) && row.leftAt.isNone) =
          r.membersOf key := by
        rw [Table.count_update, Table.count_deleteWhere]
        apply Table.count_congr
        intro id stint _
        by_cases hclass : stint.classId = key
        · split <;> simp [hclass, hkey]
        · split <;> simp [hclass]
      change _ = ((Table.count (Table.update
          (Table.deleteWhere r.classMember fun _ row => row.classId = classId) fun _ row =>
            if row.sourceClassGroup = some classId then { row with sourceClassGroup := none }
            else row) fun _ row => decide (row.classId = key) && row.leftAt.isNone : ℕ) : ℤ) ∧ _
      rw [hsame]
      exact h.counted.members key group hgroup
    · exact fun key group hgroup => h.counted.courses key group (hback hgroup).2
    · exact h.counted.sections
  · intro key link hlink
    rw [h.enrolled.counts key link hlink]
    change (r.enrolledIn key : ℤ) = ((Table.count (Table.update r.enrollment fun _ row =>
      if row.source = some classId then { row with source := none } else row)
        fun pair _ => pair.1 = key : ℕ) : ℤ)
    rw [Table.count_update]
    rfl
  · intro pair enrollment' henrollment'
    simp only [lookup_update, Option.map_eq_some_iff] at henrollment'
    obtain ⟨enrollment, henrollment, -⟩ := henrollment'
    exact h.enrolled.owned pair enrollment henrollment

/-- A course that no section teaches takes nothing along. -/
theorem courseDeleted_eq
    (h : r.Sound minted) {memberships : ℤ}
    (hdelete : r.deleteCourse course memberships = .ok (true, r')) :
    r' = { r with course := r.course.erase course } ∧
      ∀ key link, r.classCourse.lookup key = some link → link.course ≠ course := by
  obtain ⟨row, hrow, hempty, rfl⟩ := deleteCourse_true hdelete
  have hnone : ∀ key link, r.classCourse.lookup key = some link → link.course ≠ course := by
    have hzero : r.sectionsOf course = 0 := by
      have hcount := h.counted.sections course row hrow
      omega
    intro key link hlink hcourse
    have hcounted := Table.count_eq_zero_iff.mp hzero key link hlink
    simp [hcourse] at hcounted
  have htaught : ∀ key : ClassCourseId,
      ((r.classCourse.lookup key).any fun row => row.course = course) = false := by
    intro key
    cases hlink : r.classCourse.lookup key with
    | none => rfl
    | some link => simpa using hnone key link hlink
  have hclasses : ((r.classCourse.entries.filter fun row => row.2.course = course).map
      fun row => row.2.classId) = [] := by
    rw [List.map_eq_nil_iff, List.filter_eq_nil_iff]
    rintro ⟨key, link⟩ hentry
    simpa using hnone key link (mem_entries_iff_lookup.mp hentry)
  refine ⟨?_, hnone⟩
  have henrollment : (Table.deleteWhere r.enrollment fun pair _ =>
      (r.classCourse.lookup pair.1).any fun row => row.course = course) = r.enrollment :=
    Table.deleteWhere_eq_self fun pair _ _ => htaught pair.1
  have hteachers : (Table.deleteWhere r.classCourseTeacher fun pair _ =>
      (r.classCourse.lookup pair.1).any fun row => row.course = course) =
        r.classCourseTeacher :=
    Table.deleteWhere_eq_self fun pair _ _ => htaught pair.1
  have hlinks : (Table.deleteWhere r.classCourse fun _ row => row.course = course) =
      r.classCourse :=
    Table.deleteWhere_eq_self fun key link hlink => by simpa using hnone key link hlink
  rw [henrollment, hteachers, hlinks, hclasses]
  simp only [List.not_mem_nil, if_false]
  rw [Table.update_eq_self fun _ _ => rfl]

theorem Sound.courseDeleted
    (h : r.Sound minted) {memberships : ℤ}
    (hdelete : r.deleteCourse course memberships = .ok (true, r')) : r'.Sound minted := by
  obtain ⟨rfl, hnone⟩ := courseDeleted_eq h hdelete
  have hback : ∀ {key taught}, (r.course.erase course).lookup key = some taught →
      r.course.lookup key = some taught := by
    intro key taught htaught
    obtain ⟨-, htaught⟩ := erase_cases htaught
    exact htaught
  refine ⟨?_, ⟨h.counted.members, h.counted.courses, ?_⟩, ⟨h.enrolled.counts, h.enrolled.owned⟩⟩
  · constructor
    · exact h.linked.classes
    · exact fun key taught htaught => h.linked.courses key taught (hback htaught)
    · exact h.linked.members
    · intro key link hlink
      obtain ⟨hminted, hgroup, taught, htaught⟩ := h.linked.instances key link hlink
      refine ⟨hminted, hgroup, taught, ?_⟩
      rw [lookup_erase_eq, if_neg (hnone key link hlink), htaught]
    · exact h.linked.stints
    · exact h.linked.pairs
  · exact fun key taught htaught => h.counted.sections key taught (hback htaught)

theorem Sound.enrolled_made
    (h : r.Sound minted) {role : Option Role} {pair : ClassCourseId × UserId}
    {row made : Enrollment} (henroll : r.enrollTx role pair row = .ok (.made made, r')) :
    r'.Sound minted := by
  obtain ⟨instance_, hnew, -, hinstance, rfl⟩ := enrollTx_made henroll
  exact h.sameLinks (.insert hinstance) (h.enrolled.insert hnew hinstance)

theorem Sound.disowned (h : r.Sound minted) (pair : ClassCourseId × UserId) :
    (r.disown pair).Sound minted := by
  have hsame : r.SameLinks (r.disown pair) := by
    refine ⟨⟨rfl, rfl, rfl, rfl⟩, ?_, ?_, fun _ => rfl, fun _ => rfl⟩
    · exact fun id row hrow => ⟨row, hrow, rfl, rfl⟩
    · exact fun id row hrow => ⟨row, hrow, rfl, rfl⟩
  refine h.sameLinks hsame ⟨?_, ?_⟩
  · intro key link hlink
    rw [h.enrolled.counts key link hlink]
    change (r.enrolledIn key : ℤ) = ((Table.count (Table.update r.enrollment fun key row =>
      if key = pair then { row with source := none } else row)
        fun pair _ => pair.1 = key : ℕ) : ℤ)
    rw [Table.count_update]
    rfl
  · intro other enrollment' henrollment'
    simp only [disown, lookup_update, Option.map_eq_some_iff] at henrollment'
    obtain ⟨enrollment, henrollment, -⟩ := henrollment'
    exact h.enrolled.owned other enrollment henrollment

end Roster

section Steps

variable {id : ℕ} {s s' : Db} {w : World} {p : Point} {n : Reply}

/-- The staffing arm of a role change clears homerooms and staffing rows, the other arm
gives seats back. -/
theorem sound_committed
    (h : s.roster.Sound s.minted) (job : RoleJob) (sweep : Option Sweep) :
    (s.commitRole job sweep).roster.Sound s.minted := by
  have hshed : (if job.role ≠ .student then s.roster.shed job.target job.now
      else s.roster).Sound s.minted := by
    split
    · exact h.shed job.target job.now
    · exact h
  cases sweep with
  | none => exact hshed
  | some => exact hshed.staffed fun _ row => by split <;> exact ⟨rfl, rfl⟩

theorem next_sound
    (h : s.roster.Sound s.minted) (hnext : next id s p w = some (s', n)) :
    s'.roster.Sound s'.minted := by
  have hwrote := next_rosterWrote hnext
  have hmints : ∀ point, p = .roster point → point.mints = true →
      w.uuid :: s.minted ⊆ s'.minted := by
    rintro point rfl
    exact next_mints hnext
  have hminted := next_minted hnext
  generalize s'.roster = roster at hwrote ⊢
  cases hwrote with
  | quiet => exact h.mono hminted
  | courseCreated hfresh => exact (h.courseCreated hfresh _).mono (hmints _ rfl rfl)
  | classCreated hfresh => exact (h.classCreated hfresh _).mono (hmints _ rfl rfl)
  | memberAdded hfresh hadd => exact (h.memberAdded hfresh hadd).mono (hmints _ rfl rfl)
  | courseAttached hfresh hattach =>
      exact (h.courseAttached hfresh hattach).mono (hmints _ rfl rfl)
  | homeroom | classesUndone =>
      exact (h.staffed fun _ row => by split <;> exact ⟨rfl, rfl⟩).mono hminted
  | assigned =>
      unfold Roster.assign
      split
      · exact h.mono hminted
      · exact (h.sameStaff _).mono hminted
  | instancesUndone | unassigned => exact (h.sameStaff _).mono hminted
  | classDeleted hdelete => exact (h.classDeleted hdelete).mono hminted
  | courseDeleted hdelete => exact (h.courseDeleted hdelete).mono hminted
  | memberDropped hdrop => exact (h.memberDropped hdrop).mono hminted
  | courseDetached hdetach => exact (h.courseDetached hdetach).mono hminted
  | disowned => exact (h.disowned _).mono hminted
  | enrolled henroll => exact (h.enrolled_made henroll).mono hminted
  | @unenrolled instance_ target =>
      have hreleased := h.enrolled.release (instance_, target)
      exact (h.sameLinks hreleased.1 hreleased.2).mono hminted
  | committed => exact (sound_committed h _ _).mono hminted

end Steps

theorem roster_relyGuarantee :
    machine.RelyGuarantee (fun _ _ => True) (fun s => s.roster.Sound s.minted)
      (fun _ _ _ => True) where
  entry := fun _ _ _ _ => trivial
  own := fun hc _ _ hnext => ⟨next_sound hc.shared hnext, fun _ _ => trivial⟩
  others := fun _ _ _ _ _ _ _ _ => trivial
  rollback := fun hc _ => ⟨hc.shared, fun _ _ _ _ => trivial⟩

theorem roster_start (users : Table UserId Role) :
    (start users).Holds (fun s => s.roster.Sound s.minted) fun _ _ _ => True :=
  Config.initial_holds _ Roster.sound_empty

theorem roster_sound
    {users : Table UserId Role} {ms : List (Move Request World)} {c : Config Db Point}
    (hrun : machine.run (start users) ms = some c) : c.shared.roster.Sound c.shared.minted :=
  (roster_relyGuarantee.holds_run (roster_start users) (Machine.guarded_true _ ms) hrun).shared

/-- In every run the four counters are the numbers of their rows, and those of a section
stay below their ceilings. -/
theorem counters_eq_rows
    {users : Table UserId Role} {ms : List (Move Request World)} {c : Config Db Point}
    (hrun : machine.run (start users) ms = some c) :
    (∀ id row, c.shared.roster.classGroup.lookup id = some row →
      row.classMemberCount = c.shared.roster.membersOf id ∧
        row.classMemberCount ≤ maxClassMembers ∧
        row.classCourseCount = c.shared.roster.coursesOf id ∧
        row.classCourseCount ≤ maxClassCourses) ∧
    (∀ id row, c.shared.roster.course.lookup id = some row →
      row.classCourseCount = c.shared.roster.sectionsOf id) ∧
    (∀ id row, c.shared.roster.classCourse.lookup id = some row →
      row.enrollmentCount = c.shared.roster.enrolledIn id) := by
  have hsound := roster_sound hrun
  refine ⟨?_, hsound.counted.sections, hsound.enrolled.counts⟩
  intro id row hrow
  have hmembers := hsound.counted.members id row hrow
  have hcourses := hsound.counted.courses id row hrow
  exact ⟨hmembers.1, hmembers.2, hcourses.1, hcourses.2⟩

/-- No stint, instance or enrollment outlives what it points at, a student has one live stint in
a section, and a course one instance there. -/
theorem references_stand
    {users : Table UserId Role} {ms : List (Move Request World)} {c : Config Db Point}
    (hrun : machine.run (start users) ms = some c) :
    (∀ id row, c.shared.roster.classMember.lookup id = some row →
      ∃ group, c.shared.roster.classGroup.lookup row.classId = some group) ∧
    (∀ id row, c.shared.roster.classCourse.lookup id = some row →
      (∃ group, c.shared.roster.classGroup.lookup row.classId = some group) ∧
        ∃ taught, c.shared.roster.course.lookup row.course = some taught) ∧
    (∀ pair row, c.shared.roster.enrollment.lookup pair = some row →
      ∃ instance_, c.shared.roster.classCourse.lookup pair.1 = some instance_) ∧
    (∀ id row id' row', c.shared.roster.classMember.lookup id = some row → row.leftAt = none →
      c.shared.roster.classMember.lookup id' = some row' → row'.leftAt = none →
      row.classId = row'.classId → row.user = row'.user → id = id') ∧
    ∀ id row id' row', c.shared.roster.classCourse.lookup id = some row →
      c.shared.roster.classCourse.lookup id' = some row' → row.classId = row'.classId →
      row.course = row'.course → id = id' := by
  have hsound := roster_sound hrun
  exact ⟨fun id row hrow => (hsound.linked.members id row hrow).2,
    fun id row hrow => (hsound.linked.instances id row hrow).2, hsound.enrolled.owned,
    hsound.linked.stints, hsound.linked.pairs⟩

section Runs

open Sample

theorem references_stand_seatAli :
    ∃ c, machine.run (start accounts) seatAli = some c ∧
      ∀ id row, c.shared.roster.classMember.lookup id = some row →
        ∃ group, c.shared.roster.classGroup.lookup row.classId = some group := by
  have hend : (machine.run (start accounts) seatAli).isSome = true := by decide
  obtain ⟨c, hrun⟩ := Option.isSome_iff_exists.mp hend
  exact ⟨c, hrun, (references_stand hrun).1⟩

theorem counters_eq_rows_seatAli :
    ∃ c row, machine.run (start accounts) seatAli = some c ∧
      c.shared.roster.classGroup.lookup ⟨secondUuid⟩ = some row ∧ row.classMemberCount = 1 ∧
      row.classMemberCount = c.shared.roster.membersOf ⟨secondUuid⟩ := by
  have hend : (machine.run (start accounts) seatAli).any
      (fun c => (c.shared.roster.classGroup.lookup ⟨secondUuid⟩).any fun row =>
        row.classMemberCount = 1) = true := by decide
  obtain ⟨c, hrun, hgroup⟩ := (Option.any_eq_true _ _).mp hend
  obtain ⟨row, hrow, hone⟩ := (Option.any_eq_true _ _).mp hgroup
  exact ⟨c, row, hrun, hrow, of_decide_eq_true hone,
    ((counters_eq_rows hrun).1 ⟨secondUuid⟩ row hrow).1⟩

end Runs

end Hezarfen.School
