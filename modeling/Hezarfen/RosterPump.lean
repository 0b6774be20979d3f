import Hezarfen.RosterCounters
import Hezarfen.JoinView

/-!
# The pump keeps a join

Live stints and instances hang off the section, and the enrollment rows are their
join, with the rows placed and removed by hand beside it.  Every write of the class
tables is one act of that view.
-/

namespace Hezarfen.School

open Interleaving

variable {classId : ClassGroupId} {user : UserId} {instance_ : ClassCourseId} {pumping : Pumping}
  {pair : ClassCourseId × UserId} {s : Db} {c : Config Db Point} {users : Table UserId Role}
  {ms : List (Move Request World)}

namespace Roster

def pump (r : Roster) : JoinView.State ClassMemberId ClassCourseId ClassGroupId UserId where
  live id := ((r.classMember.lookup id).filter fun row => row.leftAt.isNone).map
    fun row => (row.classId, row.user)
  home instance_ := (r.classCourse.lookup instance_).map fun row => row.classId
  tag pair := (r.enrollment.lookup pair).map fun row => row.source

variable {r r' : Roster} {minted : List Uuid}

@[simp]
theorem pump_live {id : ClassMemberId} :
    r.pump.live id = some (classId, user) ↔
      ∃ row, r.classMember.lookup id = some row ∧ row.leftAt = none ∧ row.classId = classId ∧
        row.user = user := by
  simp only [pump, Option.map_eq_some_iff, Option.filter_eq_some_iff, Prod.mk.injEq,
    Option.isNone_iff_eq_none, and_assoc]

@[simp]
theorem pump_home :
    r.pump.home instance_ = some classId ↔
      ∃ row, r.classCourse.lookup instance_ = some row ∧ row.classId = classId := by
  simp only [pump, Option.map_eq_some_iff]

theorem pump_member :
    r.pump.Member classId user ↔ r.isLiveMember classId user = true := by
  unfold isLiveMember JoinView.State.Member
  rw [Table.any_iff]
  simp only [pump_live, isLiveStint, Bool.and_eq_true, decide_eq_true_eq,
    Option.isNone_iff_eq_none]
  constructor
  · rintro ⟨id, row, hrow, hopen, hclass, huser⟩
    exact ⟨id, row, hrow, ⟨hclass, huser⟩, hopen⟩
  · rintro ⟨id, row, hrow, ⟨hclass, huser⟩, hopen⟩
    exact ⟨id, row, hrow, hopen, hclass, huser⟩

theorem SameLinks.pump_home (h : r.SameLinks r') : r'.pump.home = r.pump.home := by
  funext instance_
  simp only [pump]
  cases hrow : r.classCourse.lookup instance_ with
  | some row =>
      obtain ⟨row', hrow', hclass, -⟩ := h.forth instance_ row hrow
      simp [hrow', hclass]
  | none =>
      cases hrow' : r'.classCourse.lookup instance_ with
      | none => rfl
      | some row' =>
          obtain ⟨row, hold, -⟩ := h.back instance_ row' hrow'
          rw [hrow] at hold
          cases hold

theorem SameClasses.pump_live (h : r.SameClasses r') : r'.pump.live = r.pump.live := by
  funext id
  simp only [pump, h.classMember]

/-- The pump writes the pairs without a row and no others. -/
theorem enrollPairs_lookup
    {pairs : List (ClassCourseId × UserId)} (hpump : enrollPairs pumping r pairs = .ok r')
    (pair : ClassCourseId × UserId) :
    r'.enrollment.lookup pair =
      if r.enrollment.lookup pair = none ∧ pair ∈ pairs then
        some ⟨pumping.by_, some pumping.classId, pumping.now⟩
      else r.enrollment.lookup pair := by
  induction pairs generalizing r with
  | nil =>
      cases hpump
      simp
  | cons first rest ih =>
      simp only [enrollPairs] at hpump
      split at hpump
      · next hheld =>
        rw [ih hpump]
        by_cases hpair : pair = first
        · subst hpair
          rw [Option.isSome_iff_ne_none] at hheld
          simp [hheld]
        · simp [hpair]
      · next hnew =>
        split at hpump
        · cases hpump
        · rw [ih hpump]
          simp only [lookup_insert_eq]
          by_cases hpair : pair = first
          · subst hpair
            have hnone : r.enrollment.lookup pair = none := by simpa using hnew
            simp [hnone]
          · simp [hpair]

theorem release_lookup (r : Roster) (pair other : ClassCourseId × UserId) :
    (r.release pair).enrollment.lookup other =
      if other = pair then none else r.enrollment.lookup other := by
  unfold release
  split
  · next hnone =>
    split
    · next heq => rw [heq, hnone]
    · rfl
  · exact lookup_erase_eq _ _ _

theorem foldl_release_lookup
    (r : Roster) (pairs : List (ClassCourseId × UserId)) (other : ClassCourseId × UserId) :
    (pairs.foldl release r).enrollment.lookup other =
      if other ∈ pairs then none else r.enrollment.lookup other := by
  induction pairs generalizing r with
  | nil => simp
  | cons pair rest ih =>
      rw [List.foldl_cons, ih, release_lookup]
      by_cases hrest : other ∈ rest
      · simp [hrest]
      · simp [hrest]

theorem mem_pumpedRows :
    pair ∈ r.pumpedRows classId user ↔
      pair.2 = user ∧ ∃ row, r.enrollment.lookup pair = some row ∧ row.source = some classId := by
  simp only [pumpedRows, List.mem_map, List.mem_filter, Bool.and_eq_true, decide_eq_true_eq]
  constructor
  · rintro ⟨⟨key, row⟩, ⟨hentry, huser, hsource⟩, rfl⟩
    exact ⟨huser, row, mem_entries_iff_lookup.mp hentry, hsource⟩
  · rintro ⟨huser, row, hrow, hsource⟩
    exact ⟨⟨pair, row⟩, ⟨mem_entries_iff_lookup.mpr hrow, huser, hsource⟩, rfl⟩

theorem mem_listForClass :
    instance_ ∈ r.listForClass classId ↔ r.pump.home instance_ = some classId := by
  simp only [listForClass, List.mem_map, List.mem_filter, decide_eq_true_eq, pump_home]
  constructor
  · rintro ⟨⟨key, row⟩, ⟨hentry, hclass⟩, rfl⟩
    exact ⟨row, mem_entries_iff_lookup.mp hentry, hclass⟩
  · rintro ⟨row, hrow, hclass⟩
    exact ⟨⟨instance_, row⟩, ⟨mem_entries_iff_lookup.mpr hrow, hclass⟩, rfl⟩

theorem mem_liveMembers :
    user ∈ r.liveMembers classId ↔ r.pump.Member classId user := by
  simp only [liveMembers, List.mem_map, List.mem_filter, Bool.and_eq_true, decide_eq_true_eq,
    JoinView.State.Member, pump_live, Option.isNone_iff_eq_none]
  constructor
  · rintro ⟨⟨key, row⟩, ⟨hentry, hclass, hopen⟩, rfl⟩
    exact ⟨key, row, mem_entries_iff_lookup.mp hentry, hopen, hclass, rfl⟩
  · rintro ⟨key, row, hrow, hopen, hclass, rfl⟩
    exact ⟨⟨key, row⟩, ⟨mem_entries_iff_lookup.mpr hrow, hclass, hopen⟩, rfl⟩

/-- The pairs of the pump in the terms of the join. -/
theorem enrollPairs_tag
    {pairs : List (ClassCourseId × UserId)} (hpump : enrollPairs pumping r pairs = .ok r')
    (pair : ClassCourseId × UserId) {q : Prop} (hmem : pair ∈ pairs ↔ q) :
    (r.pump.tag pair = none ∧ q → r'.pump.tag pair = some (some pumping.classId)) ∧
      (¬(r.pump.tag pair = none ∧ q) → r'.pump.tag pair = r.pump.tag pair) := by
  have hnone : r.pump.tag pair = none ↔ r.enrollment.lookup pair = none := Option.map_eq_none_iff
  have hlookup := enrollPairs_lookup hpump pair
  rw [hnone, ← hmem]
  constructor
  · intro hnew
    rw [if_pos hnew] at hlookup
    simp [pump, hlookup]
  · intro hold
    rw [if_neg hold] at hlookup
    simp only [pump, hlookup]

/-! ## Each write is an act -/

theorem pump_memberAdded
    (h : r.Enrolled) {role : Option Role} {id : ClassMemberId} {source : Option ClassGroupId}
    {member : ClassMember} (hadd : r.addMember role id pumping user source = (.made member, r')) :
    r'.pump = r.pump.apply (.join id pumping.classId user) := by
  obtain ⟨row, -, -, -, -, -, rfl, hpump⟩ := addMember_made hadd
  have hseated : ({ r with
      classGroup := r.classGroup.insert pumping.classId
        { row with classMemberCount := row.classMemberCount + 1 }
      classMember := r.classMember.insert id
        ⟨pumping.classId, user, pumping.by_, pumping.now, none, source⟩ } : Roster).Enrolled :=
    ⟨h.counts, h.owned⟩
  apply JoinView.State.ext
  · rw [(enrollPairs_same hpump).pump_live]
    funext key
    by_cases hkey : key = id
    · subst hkey
      simp [pump, JoinView.State.apply]
    · simp [pump, JoinView.State.apply, lookup_insert_eq, hkey]
  · exact (enrollPairs_enrolled hseated hpump).1.pump_home
  · funext pair
    have hmem : pair ∈ (r.listForClass pumping.classId).map (fun instance_ => (instance_, user)) ↔
        r.pump.home pair.1 = some pumping.classId ∧ pair.2 = user := by
      rw [← mem_listForClass, List.mem_map]
      constructor
      · rintro ⟨instance_, hinstance, rfl⟩
        exact ⟨hinstance, rfl⟩
      · rintro ⟨hinstance, rfl⟩
        exact ⟨pair.1, hinstance, rfl⟩
    have htag := enrollPairs_tag hpump pair hmem
    simp only [JoinView.State.apply]
    split
    · next hnew => exact htag.1 hnew
    · next hold => exact htag.2 hold

theorem pump_courseAttached
    (h : r.Sound minted) {id : ClassCourseId} {course : CourseId} {link : ClassCourse}
    (hfresh : id.uuid ∉ minted)
    (hattach : r.attachCourse id pumping course = .ok (.made link, r')) :
    r'.pump = r.pump.apply (.attach id pumping.classId) := by
  obtain ⟨row, taught, hnew, htaught, -, hrow, -, hroom, hpump⟩ := attachCourse_made hattach
  have hlinked := h.instanceCreated hfresh
    ⟨pumping.classId, course, pumping.by_, pumping.now, 0⟩ hrow htaught hnew rfl hroom
  apply JoinView.State.ext
  · exact (enrollPairs_same hpump).pump_live
  · rw [(enrollPairs_enrolled hlinked.enrolled hpump).1.pump_home]
    funext key
    by_cases hkey : key = id
    · subst hkey
      simp [pump, JoinView.State.apply]
    · simp [pump, JoinView.State.apply, lookup_insert_eq, hkey]
  · funext pair
    have hmem : pair ∈ (r.liveMembers pumping.classId).map (fun user => (id, user)) ↔
        pair.1 = id ∧ r.pump.Member pumping.classId pair.2 := by
      rw [← mem_liveMembers, List.mem_map]
      constructor
      · rintro ⟨user, huser, rfl⟩
        exact ⟨rfl, huser⟩
      · rintro ⟨rfl, huser⟩
        exact ⟨pair.2, huser, rfl⟩
    have htag := enrollPairs_tag hpump pair hmem
    simp only [JoinView.State.apply]
    split
    · next hnew => exact htag.1 hnew
    · next hold => exact htag.2 hold

/-- A stamped stint is no more live than a deleted one. -/
theorem filter_ended
    (members : Table ClassMemberId ClassMember) (stint : ClassMember → Bool) (now : Timestamp)
    (key : ClassMemberId) :
    ((Table.update members fun _ row =>
      if stint row then { row with leftAt := some now } else row).lookup key).filter
        (fun row => row.leftAt.isNone) =
      (members.lookup key).filter fun row => row.leftAt.isNone && !stint row := by
  rw [lookup_update]
  cases members.lookup key with
  | none => rfl
  | some row => cases hstint : stint row <;> simp [Option.filter, hstint]

theorem filter_deleted
    (members : Table ClassMemberId ClassMember) (stint : ClassMember → Bool)
    (key : ClassMemberId) :
    ((Table.deleteWhere members fun _ row => stint row).lookup key).filter
        (fun row => row.leftAt.isNone) =
      (members.lookup key).filter fun row => row.leftAt.isNone && !stint row := by
  rw [lookup_deleteWhere]
  cases members.lookup key with
  | none => rfl
  | some row => cases hstint : stint row <;> simp [Option.filter, hstint]

theorem pump_memberDropped
    (h : r.Enrolled) {soft : Bool} {now : Timestamp}
    (hdrop : r.dropMember classId user soft now = (true, r')) :
    r'.pump = r.pump.apply (.leave classId user) := by
  obtain ⟨-, ended, hended, rfl⟩ := dropMember_true hdrop
  have hfilter : ∀ key, (ended.classMember.lookup key).filter (fun row => row.leftAt.isNone) =
      (r.classMember.lookup key).filter
        fun row => row.leftAt.isNone && !isLiveStint classId user row := by
    intro key
    rw [hended]
    cases soft with
    | true => exact filter_ended _ _ _ _
    | false => exact filter_deleted _ _ _
  have hreleased : (ended.releaseMember classId).SameLinks
      ((r.pumpedRows classId user).foldl release (ended.releaseMember classId)) ∧ _ :=
    Enrolled.foldl_release (by rw [hended]; exact ⟨h.counts, h.owned⟩) _
  apply JoinView.State.ext
  · rw [(foldl_release_same _ _).pump_live]
    funext key
    change ((ended.classMember.lookup key).filter _).map _ = _
    rw [hfilter]
    simp only [JoinView.State.apply]
    split
    · next hlive =>
      obtain ⟨row, hrow, hopen, hclass, huser⟩ := pump_live.mp hlive
      simp [Option.filter, isLiveStint, hrow, hopen, hclass, huser]
    · next hother =>
      simp only [pump]
      cases hrow : r.classMember.lookup key with
      | none => rfl
      | some row =>
          have hkept : ¬(row.leftAt = none ∧ row.classId = classId ∧ row.user = user) :=
            fun hstint => hother (pump_live.mpr ⟨row, hrow, hstint⟩)
          by_cases hopen : row.leftAt = none
          · by_cases hclass : row.classId = classId
            · simp_all [Option.filter, isLiveStint]
            · simp [Option.filter, isLiveStint, hopen, hclass]
          · simp [Option.filter, hopen]
  · rw [hreleased.1.pump_home, hended]
    rfl
  · funext pair
    have htaken : pair ∈ r.pumpedRows classId user ↔
        pair.2 = user ∧ r.pump.tag pair = some (some classId) := by
      rw [mem_pumpedRows]
      simp [pump]
    simp only [JoinView.State.apply, ← htaken]
    simp only [pump, foldl_release_lookup, hended]
    split
    · rfl
    · rfl

theorem pump_courseDetached
    {course : CourseId} (hdetach : r.detachCourse classId course = (true, r')) :
    ∃ instance_, r'.pump = r.pump.apply (.detach instance_) := by
  obtain ⟨instance_, row, -, -, -, rfl⟩ := detachCourse_true hdetach
  refine ⟨instance_, JoinView.State.ext rfl ?_ ?_⟩
  · funext key
    simp only [pump, releaseSection, releaseCourse, JoinView.State.apply, lookup_erase_eq]
    by_cases hkey : key = instance_
    · subst hkey
      simp
    · simp [hkey, sweepInstance]
  · funext pair
    simp only [pump, releaseSection, releaseCourse, sweepInstance, JoinView.State.apply,
      lookup_deleteWhere]
    by_cases hpair : pair.1 = instance_
    · cases r.enrollment.lookup pair <;> simp [Option.filter, hpair]
    · cases r.enrollment.lookup pair <;> simp [Option.filter, hpair]

theorem pump_classDeleted
    (h : r.Sound minted) (htagged : r.pump.Tagged)
    (hdelete : r.deleteClass classId = .ok (true, r')) : r'.pump = r.pump := by
  obtain ⟨row, hrow, hmembers, hcourses, rfl⟩ := deleteClass_true hdelete
  have hnobody : ∀ key stint, r.classMember.lookup key = some stint → stint.leftAt = none →
      stint.classId ≠ classId := by
    have hzero : r.membersOf classId = 0 := by
      have hcount := (h.counted.members classId row hrow).1
      omega
    intro key stint hstint hopen hclass
    have hcounted := Table.count_eq_zero_iff.mp hzero key stint hstint
    simp [hclass, hopen] at hcounted
  have hnothing : ∀ key link, r.classCourse.lookup key = some link → link.classId ≠ classId := by
    have hzero : r.coursesOf classId = 0 := by
      have hcount := (h.counted.courses classId row hrow).1
      omega
    intro key link hlink hclass
    have hcounted := Table.count_eq_zero_iff.mp hzero key link hlink
    simp [hclass] at hcounted
  apply JoinView.State.ext
  · funext key
    simp only [pump, lookup_update, lookup_deleteWhere]
    cases hstint : r.classMember.lookup key with
    | none => rfl
    | some stint =>
        by_cases hopen : stint.leftAt = none
        · have hother := hnobody key stint hstint hopen
          by_cases hsource : stint.sourceClassGroup = some classId
          · simp [Option.filter, hother, hsource, hopen]
          · simp [Option.filter, hother, hsource, hopen]
        · by_cases hclass : stint.classId = classId
          · simp [Option.filter, hclass, hopen]
          · by_cases hsource : stint.sourceClassGroup = some classId
            · simp [Option.filter, hclass, hsource, hopen]
            · simp [Option.filter, hclass, hsource, hopen]
  · rfl
  · funext pair
    simp only [pump, lookup_update]
    cases henrollment : r.enrollment.lookup pair with
    | none => rfl
    | some enrollment =>
        have hother : enrollment.source ≠ some classId := by
          intro hsource
          have htag : r.pump.tag (pair.1, pair.2) = some (some classId) := by
            simp [pump, henrollment, hsource]
          obtain ⟨link, hlink, hclass⟩ := pump_home.mp (htagged pair.1 pair.2 classId htag).1
          exact hnothing pair.1 link hlink hclass
        simp [hother]

theorem pump_enrolled
    {role : Option Role} {row made : Enrollment} (hrow : row.source = none)
    (henroll : r.enrollTx role pair row = .ok (.made made, r')) :
    r'.pump = r.pump.apply (.place pair.1 pair.2) := by
  obtain ⟨instance_, -, -, hinstance, rfl⟩ := enrollTx_made henroll
  apply JoinView.State.ext
  · rfl
  · exact (SameLinks.insert hinstance).pump_home
  · funext other
    by_cases hpair : other = pair
    · subst hpair
      simp [pump, JoinView.State.apply, hrow]
    · simp [pump, JoinView.State.apply, lookup_insert_eq, hpair]

theorem pump_disown (r : Roster) (pair : ClassCourseId × UserId) :
    (r.disown pair).pump = r.pump.apply (.disown pair.1 pair.2) := by
  apply JoinView.State.ext
  · rfl
  · rfl
  · funext other
    by_cases hpair : other = pair
    · subst hpair
      cases hrow : r.enrollment.lookup other <;>
        simp [pump, disown, JoinView.State.apply, hrow]
    · simp [pump, disown, JoinView.State.apply, hpair, Function.comp_def]

theorem pump_release (h : r.Enrolled) (pair : ClassCourseId × UserId) :
    (r.release pair).pump = r.pump.apply (.remove pair.1 pair.2) := by
  apply JoinView.State.ext
  · exact (release_same r pair).pump_live
  · exact (h.release pair).1.pump_home
  · funext other
    simp only [pump, release_lookup, JoinView.State.apply]
    by_cases hpair : other = pair
    · subst hpair
      simp
    · simp [hpair]

theorem pump_shed (r : Roster) (user : UserId) (now : Timestamp) :
    (r.shed user now).pump = r.pump.apply (.shed user) := by
  have hended : (r.shed user now).classMember = Table.update r.classMember fun _ row =>
      if (decide (row.user = user) && row.leftAt.isNone) = true then
        { row with leftAt := some now } else row := by
    simp [shed]
  apply JoinView.State.ext
  · funext key
    change (((r.shed user now).classMember.lookup key).filter _).map _ = _
    rw [hended, filter_ended]
    simp only [JoinView.State.apply]
    split
    · next htheirs =>
      obtain ⟨⟨classId, other⟩, hlive, huser⟩ := (Option.any_eq_true _ _).mp htheirs
      obtain ⟨row, hrow, hopen, -, hother⟩ := pump_live.mp hlive
      have hmine : row.user = user := hother.trans (by simpa using huser)
      simp [Option.filter, hrow, hopen, hmine]
    · next hothers =>
      simp only [pump] at hothers ⊢
      cases hrow : r.classMember.lookup key with
      | none => rfl
      | some row =>
          by_cases hopen : row.leftAt = none
          · have hother : row.user ≠ user := by
              simpa [hrow, Option.filter, hopen] using hothers
            simp [Option.filter, hopen, hother]
          · simp [Option.filter, hopen]
  · funext key
    simp only [pump, shed, lookup_update, JoinView.State.apply]
    cases r.classCourse.lookup key with
    | none => rfl
    | some =>
        by_cases hheld : (r.enrollment.lookup (key, user)).isSome
        · simp [hheld]
        · simp [hheld]
  · funext pair
    simp only [pump, shed, lookup_deleteWhere, JoinView.State.apply]
    by_cases hpair : pair.2 = user
    · cases r.enrollment.lookup pair <;> simp [Option.filter, hpair]
    · cases r.enrollment.lookup pair <;> simp [Option.filter, hpair]

end Roster

abbrev PumpAct := JoinView.Act ClassMemberId ClassCourseId ClassGroupId UserId

inductive Acts (s : Db) (w : World) : Point → PumpAct → Prop
  | idle {p : Point} : Acts s w p .idle
  | join {classId : ClassGroupId} {user by_ : UserId} {source : Option ClassGroupId}
      (hrole : s.appUser.lookup user = some .student) :
      Acts s w (.roster (.addMember classId user by_ source)) (.join ⟨w.uuid⟩ classId user)
  | leave {classId : ClassGroupId} {user : UserId} {soft : Bool} (hgates : w.gates = none) :
      Acts s w (.roster (.dropMember classId user soft)) (.leave classId user)
  | attach {classId : ClassGroupId} {course : CourseId} {by_ : UserId} :
      Acts s w (.roster (.attachCourse classId course by_)) (.attach ⟨w.uuid⟩ classId)
  | detach {classId : ClassGroupId} {course : CourseId} {instance_ : ClassCourseId} :
      Acts s w (.roster (.detachCourse classId course)) (.detach instance_)
  | disown {instance_ : ClassCourseId} {target : UserId} {existing : Enrollment} :
      Acts s w (.roster (.disown instance_ target existing)) (.disown instance_ target)
  | place {instance_ : ClassCourseId} {target by_ : UserId}
      (hrole : s.appUser.lookup target = some .student)
      (hnew : s.roster.enrollment.lookup (instance_, target) = none)
      (hinstance : ∃ link, s.roster.classCourse.lookup instance_ = some link) :
      Acts s w (.roster (.enrollTx instance_ target by_)) (.place instance_ target)
  | remove {instance_ : ClassCourseId} {target : UserId} (hgates : w.gates = none) :
      Acts s w (.roster (.unenroll instance_ target)) (.remove instance_ target)
  | shed {job : RoleJob} {floor : Floor} {sweep : Option Sweep} (hrole : job.role ≠ .student) :
      Acts s w (.role (.commit job floor sweep)) (.shed job.target)

theorem commitRole_student {job : RoleJob} {sweep : Option Sweep} (hrole : job.role = .student) :
    (s.commitRole job sweep).roster.pump = s.roster.pump := by
  cases sweep with
  | none => simp [Db.commitRole, hrole]
  | some =>
      simp only [Db.commitRole, hrole, ne_eq, not_true_eq_false, if_false]
      rfl

theorem commitRole_shed {job : RoleJob} {sweep : Option Sweep} (hrole : job.role ≠ .student) :
    (s.commitRole job sweep).roster.pump = s.roster.pump.apply (.shed job.target) := by
  rw [← Roster.pump_shed s.roster job.target job.now]
  cases sweep with
  | none => simp [Db.commitRole, hrole]
  | some =>
      simp only [Db.commitRole, hrole, ne_eq, not_false_eq_true, if_true]
      rfl

theorem wrote_acts
    {id : ℕ} {w : World} {p : Point} {roster : Roster} {n : Reply} (h : s.roster.Sound s.minted)
    (htagged : s.roster.pump.Tagged) (hwrote : RosterWrote id s w p roster n) :
    ∃ act, Acts s w p act ∧ s.roster.pump.Fits act ∧
      roster.pump = s.roster.pump.apply act := by
  cases hwrote with
  | quiet | courseCreated | classCreated | homeroom | classesUndone | instancesUndone
  | unassigned => exact ⟨.idle, .idle, trivial, rfl⟩
  | assigned =>
      refine ⟨.idle, .idle, trivial, ?_⟩
      unfold Roster.assign
      split <;> rfl
  | classDeleted hdelete =>
      exact ⟨.idle, .idle, trivial, Roster.pump_classDeleted h htagged hdelete⟩
  | courseDeleted hdelete =>
      refine ⟨.idle, .idle, trivial, ?_⟩
      rw [(Roster.courseDeleted_eq h hdelete).1]
      rfl
  | memberAdded hfresh hadd =>
      obtain ⟨row, -, hrole, -⟩ := Roster.addMember_made hadd
      refine ⟨.join ⟨w.uuid⟩ _ _, .join hrole, ?_, Roster.pump_memberAdded h.enrolled hadd⟩
      change s.roster.pump.live _ = none
      cases hold : s.roster.classMember.lookup ⟨w.uuid⟩ with
      | none => simp [Roster.pump, hold]
      | some old => exact absurd (h.linked.members _ old hold).1 hfresh
  | memberDropped hdrop hgates =>
      exact ⟨_, .leave hgates, trivial, Roster.pump_memberDropped h.enrolled hdrop⟩
  | courseAttached hfresh hattach =>
      refine ⟨.attach ⟨w.uuid⟩ _, .attach, ?_, Roster.pump_courseAttached h hfresh hattach⟩
      change s.roster.pump.home _ = none
      cases hold : s.roster.classCourse.lookup ⟨w.uuid⟩ with
      | none => simp [Roster.pump, hold]
      | some old => exact absurd (h.linked.instances _ old hold).1 hfresh
  | courseDetached hdetach =>
      obtain ⟨instance_, heq⟩ := Roster.pump_courseDetached hdetach
      exact ⟨.detach instance_, .detach, trivial, heq⟩
  | disowned => exact ⟨_, .disown, trivial, Roster.pump_disown _ _⟩
  | enrolled henroll =>
      obtain ⟨link, hnew, hrole, hlink, -⟩ := Roster.enrollTx_made henroll
      exact ⟨_, .place hrole hnew ⟨link, hlink⟩, trivial, Roster.pump_enrolled rfl henroll⟩
  | unenrolled hgates =>
      exact ⟨_, .remove hgates, trivial, Roster.pump_release h.enrolled _⟩
  | @committed job floor sweep =>
      by_cases hrole : job.role = .student
      · exact ⟨.idle, .idle, trivial, commitRole_student hrole⟩
      · exact ⟨.shed job.target, .shed hrole, trivial, commitRole_shed hrole⟩

theorem step_acts
    {c' : Config Db Point} {m : Move Request World} (h : c.shared.roster.Sound c.shared.minted)
    (htagged : c.shared.roster.pump.Tagged) (hstep : machine.step c m = some c') :
    ∃ act, c.shared.roster.pump.Fits act ∧
      c'.shared.roster.pump = c.shared.roster.pump.apply act ∧
      (act = .idle ∨ ∃ id w p, m = .advance id w ∧ c.calls.lookup id = some p ∧
        Acts c.shared w p act) := by
  obtain ⟨request, rfl, rfl⟩ | ⟨id, w, p, s, n, rfl, hp, hnext, rfl⟩ | ⟨id, p, rfl, hp, rfl⟩ :=
    Machine.step_cases hstep
  · exact ⟨.idle, trivial, rfl, .inl rfl⟩
  · obtain ⟨act, hacts, hfits, heq⟩ := wrote_acts h htagged (next_rosterWrote hnext)
    exact ⟨act, hfits, by simpa using heq, .inr ⟨id, w, p, rfl, hp, hacts⟩⟩
  · exact ⟨.idle, trivial, rfl, .inl rfl⟩

theorem roster_tagged
    (hrun : machine.run (start users) ms = some c) : c.shared.roster.pump.Tagged := by
  refine Machine.run_history (J := fun _ c => c.shared.roster.pump.Tagged) ?_ ?_ hrun
  · intro instance_ user classId htag
    simp [start, Config.initial, Db.ofUsers, Roster.empty, Roster.pump] at htag
  · intro pre d m d' hpre htagged hstep
    obtain ⟨act, hfits, heq, -⟩ := step_acts (roster_sound hpre) htagged hstep
    rw [heq]
    exact htagged.apply hfits

/-- In the run `ms` the row of `user` in the instance was taken by a hand unenroll, after
the stint had begun and the instance was attached. -/
def RemovedByHand (users : Table UserId Role) (ms : List (Move Request World))
    (stint : ClassMemberId) (instance_ : ClassCourseId) (user : UserId) : Prop :=
  ∃ pre id w post d d', ms = pre ++ .advance id w :: post ∧
    machine.run (start users) pre = some d ∧
    d.calls.lookup id = some (.roster (.unenroll instance_ user)) ∧
    machine.step d (.advance id w) = some d' ∧
    (∃ row, d.shared.roster.classMember.lookup stint = some row ∧ row.leftAt = none ∧
      row.user = user) ∧
    (∃ link, d.shared.roster.classCourse.lookup instance_ = some link) ∧
    (∃ row, d.shared.roster.enrollment.lookup (instance_, user) = some row) ∧
    d'.shared.roster.enrollment.lookup (instance_, user) = none

theorem RemovedByHand.later
    {stint : ClassMemberId} (h : RemovedByHand users ms stint instance_ user)
    (m : Move Request World) :
    RemovedByHand users (ms ++ [m]) stint instance_ user := by
  obtain ⟨pre, id, w, post, d, d', rfl, hrest⟩ := h
  exact ⟨pre, id, w, post ++ [m], d, d', by simp, hrest⟩

/-- A live stint and an instance of its section have their row, unless it was removed by
hand. -/
theorem pair_enrolled_or_removed
    (hrun : machine.run (start users) ms = some c) :
    ∀ stint instance_ classId user, c.shared.roster.pump.live stint = some (classId, user) →
      c.shared.roster.pump.home instance_ = some classId →
      (c.shared.roster.pump.tag (instance_, user)).isSome ∨
        RemovedByHand users ms stint instance_ user := by
  refine Machine.run_history (J := fun ms c =>
    ∀ stint instance_ classId user, c.shared.roster.pump.live stint = some (classId, user) →
      c.shared.roster.pump.home instance_ = some classId →
      (c.shared.roster.pump.tag (instance_, user)).isSome ∨
        RemovedByHand users ms stint instance_ user) ?_ ?_ hrun
  · intro stint instance_ classId user hlive
    simp [start, Config.initial, Db.ofUsers, Roster.empty, Roster.pump] at hlive
  · intro pre d m d' hpre ih hstep stint instance_ classId user hlive hhome
    have htagged := roster_tagged hpre
    obtain ⟨act, hfits, heq, hact⟩ := step_acts (roster_sound hpre) htagged hstep
    rw [heq] at hlive hhome ⊢
    rcases htagged.covers hlive hhome with hpaired | ⟨hlive', hhome', hcause⟩
    · exact .inl hpaired
    · rcases ih stint instance_ classId user hlive' hhome' with hpaired | hremoved
      · rcases hcause with hnone | rfl
        · simp [hnone] at hpaired
        · rcases hact with hidle | ⟨id, w, p, rfl, hp, hacts⟩
          · cases hidle
          · right
            cases hacts
            obtain ⟨row, hrow, hopen, -, huser⟩ := Roster.pump_live.mp hlive'
            obtain ⟨link, hlink, -⟩ := Roster.pump_home.mp hhome'
            obtain ⟨tag, htag⟩ := Option.isSome_iff_exists.mp hpaired
            obtain ⟨old, hold, -⟩ := Option.map_eq_some_iff.mp htag
            refine ⟨pre, id, w, [], d, d', rfl, hpre, hp, hstep, ⟨row, hrow, hopen, huser⟩,
              ⟨link, hlink⟩, ⟨old, hold⟩, ?_⟩
            have hgone : d'.shared.roster.pump.tag (instance_, user) = none := by
              rw [heq]
              simp [JoinView.State.apply]
            simpa [Roster.pump] using hgone
      · exact .inr (hremoved.later m)

def Point.pumps : Point → Bool
  | .roster (.memberGate _ _ _ _) => true
  | .roster (.addMember _ _ _ _) => true
  | .roster (.dropMember _ _ _) => true
  | .roster (.attachGate _ _ _) => true
  | .roster (.attachCourse _ _ _) => true
  | _ => false

theorem wrote_keeps_hand
    {id : ℕ} {w : World} {p : Point} {roster : Roster} {n : Reply}
    (hwrote : RosterWrote id s w p roster n) (hpumps : p.pumps = true) {row : Enrollment}
    (hhand : row.source = none) :
    roster.enrollment.lookup pair = some row ↔ s.roster.enrollment.lookup pair = some row := by
  cases hwrote with
  | quiet => rfl
  | classDeleted _ hpoint => rcases hpoint with rfl | rfl <;> cases hpumps
  | memberAdded _ hadd =>
      obtain ⟨group, -, -, -, -, -, -, hpump⟩ := Roster.addMember_made hadd
      rw [Roster.enrollPairs_lookup hpump]
      split
      · next hnew =>
        simp only [hnew.1, reduceCtorEq, iff_false, Option.some.injEq]
        rintro rfl
        cases hhand
      · rfl
  | courseAttached _ hattach =>
      obtain ⟨group, taught, -, -, -, -, -, -, hpump⟩ := Roster.attachCourse_made hattach
      rw [Roster.enrollPairs_lookup hpump]
      split
      · next hnew =>
        simp only [hnew.1, reduceCtorEq, iff_false, Option.some.injEq]
        rintro rfl
        cases hhand
      · rfl
  | memberDropped hdrop =>
      obtain ⟨-, ended, hended, rfl⟩ := Roster.dropMember_true hdrop
      rw [Roster.foldl_release_lookup, hended]
      split
      · next htaken =>
        obtain ⟨-, old, hold, hsource⟩ := Roster.mem_pumpedRows.mp htaken
        simp only [reduceCtorEq, hold, Option.some.injEq, false_iff]
        rintro rfl
        rw [hhand] at hsource
        cases hsource
      · rfl
  | _ => cases hpumps

/-- In every run: a pumped row joins an instance of its section with a live member; a live
member has a row in every instance of the section unless that row was removed by hand after
the join and the attach; and no step of an add, a leave or an attach touches a hand-placed
row. -/
theorem enrollment_is_join
    {users : Table UserId Role} {ms : List (Move Request World)} {c : Config Db Point}
    (hrun : machine.run (start users) ms = some c) :
    (∀ pair row classId, c.shared.roster.enrollment.lookup pair = some row →
      row.source = some classId →
      (∃ link, c.shared.roster.classCourse.lookup pair.1 = some link ∧
        link.classId = classId) ∧
      c.shared.roster.isLiveMember classId pair.2 = true) ∧
    (∀ stint row instance_ link, c.shared.roster.classMember.lookup stint = some row →
      row.leftAt = none → c.shared.roster.classCourse.lookup instance_ = some link →
      link.classId = row.classId →
      (∃ enrollment, c.shared.roster.enrollment.lookup (instance_, row.user) =
        some enrollment) ∨
      RemovedByHand users ms stint instance_ row.user) ∧
    (∀ id w p d, c.calls.lookup id = some p → p.pumps = true →
      machine.step c (.advance id w) = some d →
      ∀ pair row, row.source = none →
        (d.shared.roster.enrollment.lookup pair = some row ↔
          c.shared.roster.enrollment.lookup pair = some row)) := by
  refine ⟨?_, ?_, ?_⟩
  · intro pair row classId hrow hsource
    have htag : c.shared.roster.pump.tag (pair.1, pair.2) = some (some classId) := by
      simp [Roster.pump, hrow, hsource]
    obtain ⟨hhome, hmember⟩ := roster_tagged hrun pair.1 pair.2 classId htag
    exact ⟨Roster.pump_home.mp hhome, Roster.pump_member.mp hmember⟩
  · intro stint row instance_ link hrow hopen hlink hclass
    have hpaired := pair_enrolled_or_removed hrun stint instance_ row.classId row.user
      (Roster.pump_live.mpr ⟨row, hrow, hopen, rfl, rfl⟩)
      (Roster.pump_home.mpr ⟨link, hlink, hclass⟩)
    rcases hpaired with hpaired | hremoved
    · obtain ⟨tag, htag⟩ := Option.isSome_iff_exists.mp hpaired
      obtain ⟨enrollment, henrollment, -⟩ := Option.map_eq_some_iff.mp htag
      exact .inl ⟨enrollment, henrollment⟩
    · exact .inr hremoved
  · intro id w p d hp hpumps hstep pair row hhand
    obtain ⟨request, hm, -⟩ | ⟨id', w', p', s, n, hm, hp', hnext, rfl⟩ | ⟨id', p', hm, -⟩ :=
      Machine.step_cases hstep
    · cases hm
    · cases hm
      rw [hp] at hp'
      cases hp'
      rw [Config.shared_after]
      exact wrote_keeps_hand (next_rosterWrote hnext) hpumps hhand
    · cases hm

section Runs

open Sample

theorem enrollment_is_join_seatAli :
    ∃ c row, machine.run (start accounts) seatAli = some c ∧
      c.shared.roster.enrollment.lookup (⟨thirdUuid⟩, ali) = some row ∧
      row.source = some ⟨secondUuid⟩ ∧
      c.shared.roster.isLiveMember ⟨secondUuid⟩ ali = true := by
  have hend : (machine.run (start accounts) seatAli).any
      (fun c => (c.shared.roster.enrollment.lookup (⟨thirdUuid⟩, ali)).any fun row =>
        row.source = some ⟨secondUuid⟩) = true := by decide
  obtain ⟨c, hrun, hrow⟩ := (Option.any_eq_true _ _).mp hend
  obtain ⟨row, hrow, hsource⟩ := (Option.any_eq_true _ _).mp hrow
  have hsource := of_decide_eq_true hsource
  exact ⟨c, row, hrun, hrow, hsource,
    ((enrollment_is_join hrun).1 (⟨thirdUuid⟩, ali) row ⟨secondUuid⟩ hrow hsource).2⟩

end Runs

end Hezarfen.School
