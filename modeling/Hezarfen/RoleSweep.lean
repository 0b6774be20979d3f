import Hezarfen.AppointmentWindows
import Hezarfen.RoleLocks
import Hezarfen.RosterSteps

/-!
# What a demotion leaves behind

A role below teacher owes the staffing rows, the homerooms and the slots of its
holder.  The sweep takes what its statements see; what is granted meanwhile is for
the granting call to take back, which reads the role once more after its write.
-/

namespace Hezarfen.School

open Interleaving

variable {course : CourseId} {classId : ClassGroupId} {seat' : SlotRow} {job : RoleJob}

/-! ## Posts -/

inductive Post where
  | teaches (id : ClassCourseId)
  | leads (id : ClassGroupId)
  deriving DecidableEq

def Grant.post : Grant → Post
  | .instance_ id => .teaches id
  | .homeroom id => .leads id
  | .newClass id => .leads id

namespace Roster

def Holds (r : Roster) (user : UserId) : Post → Prop
  | .teaches id => (r.classCourseTeacher.lookup (id, user)).isSome = true
  | .leads id => ∃ row, r.classGroup.lookup id = some row ∧ row.teacher = some user

/-- A write that grants no post. -/
structure NoNewPosts (r r' : Roster) : Prop where
  staff : ∀ key, (r'.classCourseTeacher.lookup key).isSome = true →
    (r.classCourseTeacher.lookup key).isSome = true
  classes : ∀ id row', r'.classGroup.lookup id = some row' →
    ∃ row, r.classGroup.lookup id = some row ∧
      (row'.teacher = row.teacher ∨ row'.teacher = none)

variable {r r' : Roster}

theorem NoNewPosts.holds
    (h : r.NoNewPosts r') {user : UserId} {post : Post} (hpost : r'.Holds user post) :
    r.Holds user post := by
  cases post with
  | teaches => exact h.staff _ hpost
  | leads id =>
      obtain ⟨row', hrow', hteacher⟩ := hpost
      obtain ⟨row, hrow, hsame | hnone⟩ := h.classes id row' hrow'
      · exact ⟨row, hrow, hsame ▸ hteacher⟩
      · rw [hnone] at hteacher
        cases hteacher

theorem NoNewPosts.trans {r'' : Roster} (h : r.NoNewPosts r') (h' : r'.NoNewPosts r'') :
    r.NoNewPosts r'' where
  staff := fun key hkey => h.staff key (h'.staff key hkey)
  classes := by
    intro id row'' hrow''
    obtain ⟨row', hrow', hteacher'⟩ := h'.classes id row'' hrow''
    obtain ⟨row, hrow, hteacher⟩ := h.classes id row' hrow'
    refine ⟨row, hrow, ?_⟩
    rcases hteacher' with hsame | hnone
    · rw [hsame]
      exact hteacher
    · exact .inr hnone

theorem NoNewPosts.of_same
    (hstaff : r'.classCourseTeacher = r.classCourseTeacher)
    (hclasses : r'.classGroup = r.classGroup) : r.NoNewPosts r' where
  staff := fun key hkey => by rwa [hstaff] at hkey
  classes := fun id row' hrow' => ⟨row', by rwa [hclasses] at hrow', .inl rfl⟩

theorem SameClasses.noNewPosts (h : r.SameClasses r') : r.NoNewPosts r' :=
  .of_same h.classCourseTeacher h.classGroup

theorem classes_of_update
    {classes : Table ClassGroupId ClassGroup} {f : ClassGroupId → ClassGroup → ClassGroup}
    (hf : ∀ id row, (f id row).teacher = row.teacher ∨ (f id row).teacher = none)
    {id : ClassGroupId} {row' : ClassGroup}
    (h : (Table.update classes f).lookup id = some row') :
    ∃ row, classes.lookup id = some row ∧
      (row'.teacher = row.teacher ∨ row'.teacher = none) := by
  obtain ⟨row, hrow, rfl⟩ := Table.update_cases h
  exact ⟨row, hrow, hf id row⟩

theorem classes_of_insert
    {classes : Table ClassGroupId ClassGroup} {key : ClassGroupId} {old new : ClassGroup}
    (hold : classes.lookup key = some old) (hteacher : new.teacher = old.teacher)
    {id : ClassGroupId} {row' : ClassGroup}
    (h : (classes.insert key new).lookup id = some row') :
    ∃ row, classes.lookup id = some row ∧
      (row'.teacher = row.teacher ∨ row'.teacher = none) := by
  obtain ⟨rfl, rfl⟩ | ⟨-, h⟩ := insert_cases h
  · exact ⟨old, hold, .inl hteacher⟩
  · exact ⟨row', h, .inl rfl⟩

theorem isSome_of_deleteWhere
    {K : Type} {V : Type} [DecidableEq K] {t : Table K V} {p : K → V → Bool} {key : K}
    (h : ((Table.deleteWhere t p).lookup key).isSome = true) :
    (t.lookup key).isSome = true := by
  rw [lookup_deleteWhere] at h
  cases hrow : t.lookup key with
  | none => simp [hrow] at h
  | some => rfl

theorem NoNewPosts.shed (user : UserId) (now : Timestamp) : r.NoNewPosts (r.shed user now) where
  staff := fun _ hkey => hkey
  classes := fun _ _ hrow' => classes_of_update (fun _ _ => by split <;> exact .inl rfl) hrow'

theorem NoNewPosts.unstaff
    (user : UserId) (instances : List ClassCourseId) (classes : List ClassGroupId) :
    r.NoNewPosts (r.unstaff user instances classes) where
  staff := fun _ hkey => isSome_of_deleteWhere hkey
  classes := fun _ _ hrow' =>
    classes_of_update (fun _ _ => by split <;> first | exact .inr rfl | exact .inl rfl) hrow'

theorem NoNewPosts.unassignClasses (user : UserId) : r.NoNewPosts (r.unassignClasses user) where
  staff := fun _ hkey => hkey
  classes := fun _ _ hrow' =>
    classes_of_update (fun _ _ => by split <;> first | exact .inr rfl | exact .inl rfl) hrow'

theorem NoNewPosts.unassignInstances (user : UserId) :
    r.NoNewPosts (r.unassignInstances user) where
  staff := fun _ hkey => isSome_of_deleteWhere hkey
  classes := fun _ row' hrow' => ⟨row', hrow', .inl rfl⟩

theorem NoNewPosts.unassign (instance_ : ClassCourseId) (user : UserId) :
    r.NoNewPosts (r.unassign instance_ user) := by
  refine ⟨?_, fun _ row' hrow' => ⟨row', hrow', .inl rfl⟩⟩
  intro key hkey
  rw [Roster.unassign, lookup_erase_eq] at hkey
  split at hkey
  · cases hkey
  · exact hkey

theorem NoNewPosts.releaseCourse (classId : ClassGroupId) :
    r.NoNewPosts (r.releaseCourse classId) where
  staff := fun _ hkey => hkey
  classes := fun _ _ hrow' => classes_of_update (fun _ _ => by split <;> exact .inl rfl) hrow'

theorem NoNewPosts.memberAdded
    {role : Option Role} {id : ClassMemberId} {pumping : Pumping} {user : UserId}
    {source : Option ClassGroupId} {member : ClassMember}
    (h : r.addMember role id pumping user source = (.made member, r')) : r.NoNewPosts r' := by
  obtain ⟨row, -, -, hrow, -, -, -, hpump⟩ := addMember_made h
  refine NoNewPosts.trans ?_ (enrollPairs_same hpump).noNewPosts
  exact ⟨fun _ hkey => hkey, fun _ _ hrow' => classes_of_insert hrow (by rfl) hrow'⟩

theorem NoNewPosts.courseAttached
    {id : ClassCourseId} {pumping : Pumping} {link : ClassCourse}
    (h : r.attachCourse id pumping course = .ok (.made link, r')) : r.NoNewPosts r' := by
  obtain ⟨row, taught, -, -, -, hrow, -, -, hpump⟩ := attachCourse_made h
  refine NoNewPosts.trans ?_ (enrollPairs_same hpump).noNewPosts
  exact ⟨fun _ hkey => hkey, fun _ _ hrow' => classes_of_insert hrow (by rfl) hrow'⟩

theorem NoNewPosts.memberDropped
    {user : UserId} {soft : Bool} {now : Timestamp}
    (h : r.dropMember classId user soft now = (true, r')) : r.NoNewPosts r' := by
  obtain ⟨-, ended, rfl, rfl⟩ := dropMember_true h
  refine NoNewPosts.trans ?_ (foldl_release_same _ _).noNewPosts
  exact ⟨fun _ hkey => hkey,
    fun _ _ hrow' => classes_of_update (fun _ _ => by split <;> exact .inl rfl) hrow'⟩

theorem NoNewPosts.courseDetached
    (h : r.detachCourse classId course = (true, r')) : r.NoNewPosts r' := by
  obtain ⟨instance_, row, -, -, -, rfl⟩ := detachCourse_true h
  have hswept : r.NoNewPosts { r.sweepInstance instance_ with
      classCourse := (r.sweepInstance instance_).classCourse.erase instance_ } :=
    ⟨fun _ hkey => isSome_of_deleteWhere hkey, fun _ row' hrow' => ⟨row', hrow', .inl rfl⟩⟩
  exact (hswept.trans (.releaseCourse classId)).trans (.of_same rfl rfl)

theorem NoNewPosts.classDeleted
    (h : r.deleteClass classId = .ok (true, r')) :
    r.NoNewPosts r' := by
  obtain ⟨row, -, -, -, rfl⟩ := deleteClass_true h
  refine ⟨fun _ hkey => hkey, ?_⟩
  intro id row' hrow'
  obtain ⟨-, hrow'⟩ := erase_cases hrow'
  exact ⟨row', hrow', .inl rfl⟩

theorem NoNewPosts.courseDeleted
    {memberships : ℤ} (h : r.deleteCourse course memberships = .ok (true, r')) :
    r.NoNewPosts r' := by
  obtain ⟨row, -, -, rfl⟩ := deleteCourse_true h
  exact ⟨fun _ hkey => isSome_of_deleteWhere hkey,
    fun _ _ hrow' => classes_of_update (fun _ _ => by split <;> exact .inl rfl) hrow'⟩

theorem NoNewPosts.committed (s : Db) (job : RoleJob) (sweep : Option Sweep) :
    s.roster.NoNewPosts (s.commitRole job sweep).roster := by
  have hshed : s.roster.NoNewPosts
      (if job.role ≠ .student then s.roster.shed job.target job.now else s.roster) := by
    split
    · exact .shed _ _
    · exact .of_same rfl rfl
  cases sweep with
  | none => exact hshed
  | some => exact hshed.trans (.unstaff _ _ _)

end Roster

theorem holds_wrote
    {id : ℕ} {s : Db} {w : World} {p : Point} {roster : Roster} {n : Reply}
    (h : RosterWrote id s w p roster n) {user : UserId} {post : Post}
    (hpost : roster.Holds user post) :
    s.roster.Holds user post ∨
      ∃ grant : Grant, grant.post = post ∧ n = toRoster (.recheck grant user) := by
  cases h with
  | quiet => exact .inl hpost
  | courseCreated | disowned => exact .inl ((Roster.NoNewPosts.of_same rfl rfl).holds hpost)
  | @classCreated teacher hfresh =>
      cases post with
      | teaches => exact .inl hpost
      | leads =>
          obtain ⟨row, hrow, hteacher⟩ := hpost
          obtain ⟨rfl, rfl⟩ | ⟨-, hrow⟩ := insert_cases hrow
          · have hteacher : teacher = some user := hteacher
            subst hteacher
            exact .inr ⟨.newClass ⟨w.uuid⟩, rfl, rfl⟩
          · exact .inl ⟨row, hrow, hteacher⟩
  | @homeroom classId teacher =>
      cases post with
      | teaches => exact .inl hpost
      | leads key =>
          obtain ⟨row', hrow', hteacher⟩ := hpost
          simp only [Roster.setHomeroom, lookup_update, Option.map_eq_some_iff] at hrow'
          obtain ⟨row, hrow, rfl⟩ := hrow'
          by_cases hkey : key = classId
          · subst hkey
            rw [if_pos rfl] at hteacher
            have hteacher : teacher = some user := hteacher
            subst hteacher
            exact .inr ⟨.homeroom key, rfl, rfl⟩
          · rw [if_neg hkey] at hteacher
            exact .inl ⟨row, hrow, hteacher⟩
  | @assigned instance_ target =>
      unfold Roster.assign at hpost
      split at hpost
      · exact .inl hpost
      · cases post with
        | teaches key =>
            have hlookup : ((s.roster.classCourseTeacher.insert (instance_, target) ()).lookup
                (key, user)).isSome = true := hpost
            rw [lookup_insert_eq] at hlookup
            split at hlookup
            · next heq =>
              cases heq
              exact .inr ⟨.instance_ instance_, rfl, rfl⟩
            · exact .inl hlookup
        | leads => exact .inl hpost
  | classesUndone => exact .inl ((Roster.NoNewPosts.unassignClasses _).holds hpost)
  | instancesUndone => exact .inl ((Roster.NoNewPosts.unassignInstances _).holds hpost)
  | unassigned => exact .inl ((Roster.NoNewPosts.unassign _ _).holds hpost)
  | classDeleted hdelete => exact .inl ((Roster.NoNewPosts.classDeleted hdelete).holds hpost)
  | courseDeleted hdelete => exact .inl ((Roster.NoNewPosts.courseDeleted hdelete).holds hpost)
  | memberAdded hfresh hadd => exact .inl ((Roster.NoNewPosts.memberAdded hadd).holds hpost)
  | memberDropped hdrop => exact .inl ((Roster.NoNewPosts.memberDropped hdrop).holds hpost)
  | courseAttached hfresh hattach =>
      exact .inl ((Roster.NoNewPosts.courseAttached hattach).holds hpost)
  | courseDetached hdetach =>
      exact .inl ((Roster.NoNewPosts.courseDetached hdetach).holds hpost)
  | enrolled henroll =>
      obtain ⟨instance_, -, -, -, rfl⟩ := Roster.enrollTx_made henroll
      exact .inl ((Roster.NoNewPosts.of_same rfl rfl).holds hpost)
  | unenrolled => exact .inl ((Roster.release_same _ _).noNewPosts.holds hpost)
  | committed => exact .inl ((Roster.NoNewPosts.committed s _ _).holds hpost)

section Calendars

variable {id : ℕ} {s : Db} {w : World} {p : Point} {cal' : Calendar} {minted' : List Uuid}

theorem slot_wrote
    (h : CalendarWrote id s w p cal' minted') {slot : AppointmentSlotId}
    (hseat' : cal'.slot.lookup slot = some seat') :
    (∃ seat, s.calendar.slot.lookup slot = some seat ∧ seat'.slot = seat.slot) ∨
      (s.appUser.lookup seat'.slot.teacher).any (Role.atLeast · .teacher) = true := by
  cases h with
  | quiet => exact .inl ⟨seat', hseat', rfl⟩
  | @published args windows refusal slots hfree hrole hnodup hfresh hinsert =>
      rcases Calendar.insertSlots_lookup hinsert slot with hsame | ⟨new, hmem, rfl, hnew⟩
      · rw [hsame] at hseat'
        exact .inl ⟨seat', hseat', rfl⟩
      · rw [hnew] at hseat'
        cases hseat'
        simp only [PublishArgs.rows, List.mem_map] at hmem
        obtain ⟨⟨uuid, window⟩, -, rfl⟩ := hmem
        exact .inr hrole
  | @booked args seat hfresh hseat hfree =>
      obtain ⟨rfl, rfl⟩ | ⟨-, hseat'⟩ := insert_cases hseat'
      · exact .inl ⟨seat, hseat, rfl⟩
      · exact .inl ⟨seat', hseat', rfl⟩
  | approved | saved =>
      obtain ⟨seat, hseat, hsame, -⟩ := Calendar.lookup_decided_slot hseat'
      exact .inl ⟨seat, hseat, hsame⟩
  | deleted hdelete =>
      rw [Calendar.deleteFree_eq hdelete] at hseat'
      exact .inl ⟨seat', (Calendar.lookup_deleteSlots_slot.mp hseat').1, rfl⟩
  | withdrawn => exact .inl ⟨seat', (Calendar.lookup_deleteSlots_slot.mp hseat').1, rfl⟩

theorem live_wrote
    (hs : s.calendar.Sound s.minted) (hknows : s.calendar.Knows s.minted p)
    (h : CalendarWrote id s w p cal' minted') {booking : AppointmentId} {row' : Appointment}
    (hrow' : cal'.appointment.lookup booking = some row') (hlive' : row'.status.isLive = true)
    (hseat' : cal'.slotOf row' = some seat') :
    (∃ row seat, s.calendar.appointment.lookup booking = some row ∧
        row.status.isLive = true ∧ s.calendar.slotOf row = some seat ∧
        seat'.slot = seat.slot) ∨
      ∃ args seat, p = .calendar (.bookClaim args) ∧
        s.calendar.slot.lookup args.slot = some seat ∧ seat'.slot = seat.slot := by
  have hevolves := (hs.wrote hknows h).2
  by_cases hknown : booking.uuid ∈ s.minted
  · obtain ⟨row, hrow, -, hdead, hslot⟩ := hevolves.bookings booking row' hknown hrow'
    obtain ⟨seat, hseat, hsame⟩ := hevolves.slotOf hs hrow (hslot.imp (fun h => h) And.left) hseat'
    refine .inl ⟨row, seat, hrow, ?_, hseat, hsame⟩
    by_contra hlive
    rw [hdead (by simpa using hlive)] at hlive'
    cases hlive'
  · have hnew : ∀ row, s.calendar.appointment.lookup booking ≠ some row :=
      fun row hrow => hknown (hs.bookings booking row hrow).2
    cases h with
    | quiet | published => exact absurd hrow' (hnew row')
    | @booked args seat hfresh hseat hfree =>
        obtain ⟨-, rfl⟩ | ⟨-, hrow'⟩ := insert_cases hrow'
        · obtain ⟨slot, hslot, hlookup⟩ := Calendar.slotOf_eq_some.mp hseat'
          cases hslot
          rw [lookup_insert_eq, if_pos rfl] at hlookup
          cases hlookup
          exact .inr ⟨args, seat, rfl, hseat, rfl⟩
        · exact absurd hrow' (hnew row')
    | approved hread hpending happrove hrow | saved hrow =>
        rw [Calendar.decided, lookup_insert_eq] at hrow'
        split at hrow'
        · next heq =>
          subst heq
          exact absurd hrow (hnew _)
        · exact absurd hrow' (hnew row')
    | deleted hdelete =>
        rw [Calendar.deleteFree_eq hdelete] at hrow'
        obtain ⟨row, hrow, -⟩ := Calendar.lookup_deleteSlots_booking hrow'
        exact absurd (Calendar.lookup_deleteBookings.mp hrow).1 (hnew row)
    | withdrawn =>
        obtain ⟨mid, hmid, -⟩ := Calendar.lookup_deleteSlots_booking hrow'
        simp only [lookup_update, Option.map_eq_some_iff] at hmid
        obtain ⟨row, hrow, -⟩ := hmid
        exact absurd hrow (hnew row)

/-- When every live booking on a slot of the teacher was cancelled, the withdrawal leaves no
live booking without its slot. -/
theorem Calendar.Housed.withdraw
    {cal : Calendar} (hh : cal.Housed) {teacher : UserId} {cancelled : List AppointmentId}
    (hall : ∀ booking row seat, cal.appointment.lookup booking = some row →
      row.status.isLive = true → cal.slotOf row = some seat → seat.slot.teacher = teacher →
      booking ∈ cancelled) :
    (cal.withdraw teacher cancelled).Housed := by
  intro booking row' hrow' hlive'
  obtain ⟨mid, hmid, hslots⟩ := lookup_deleteSlots_booking hrow'
  simp only [lookup_update, Option.map_eq_some_iff] at hmid
  obtain ⟨row, hrow, hcancel⟩ := hmid
  have hlivemid : mid.status.isLive = true := by
    rcases hslots with ⟨rfl, -⟩ | ⟨rfl, -⟩ <;> exact hlive'
  have hkept : booking ∉ cancelled := by
    intro hmem
    rw [if_pos hmem] at hcancel
    subst hcancel
    cases hlivemid
  rw [if_neg hkept] at hcancel
  subst hcancel
  obtain ⟨seat, hseat⟩ := hh booking row hrow hlivemid
  obtain ⟨slot, hslot, hlookup⟩ := slotOf_eq_some.mp hseat
  have hother : seat.slot.teacher ≠ teacher :=
    fun hteacher => hkept (hall booking row seat hrow hlivemid hseat hteacher)
  have hstands : (cal.withdraw teacher cancelled).slot.lookup slot = some seat :=
    lookup_deleteSlots_slot.mpr ⟨hlookup, by simpa using hother⟩
  rcases hslots with ⟨rfl, -⟩ | ⟨-, hgone⟩
  · exact ⟨seat, slotOf_eq_some.mpr ⟨slot, hslot, hstands⟩⟩
  · have hnone := hgone slot hslot
    rw [Calendar.withdraw] at hstands
    rw [hnone] at hstands
    cases hstands

end Calendars

/-! ## Who answers for a post -/

def Db.mayTeach (s : Db) (user : UserId) : Bool :=
  (s.appUser.lookup user).any (Role.atLeast · .teacher)

def Point.grantee : Point → Option UserId
  | .roster (.recheck _ target) => some target
  | .roster (.undoClasses _ target) => some target
  | .roster (.undoInstances _ target) => some target
  | _ => none

def Point.covers (user : UserId) (post : Post) : Point → Bool
  | .roster (.recheck grant target) => grant.post = post && target = user
  | .roster (.undoClasses _ target) => target = user
  | .roster (.undoInstances _ target) =>
      decide (target = user) &&
        match post with
        | .teaches _ => true
        | .leads _ => false
  | _ => false

theorem Point.grantee_of_covers
    {p : Point} {user : UserId} {post : Post} (h : p.covers user post = true) :
    p.grantee = some user := by
  unfold Point.covers at h
  split at h <;> simp_all [Point.grantee]

def Post.recorded (instances : List ClassCourseId) (classes : Option (List ClassGroupId)) :
    Post → Bool
  | .teaches id => id ∈ instances
  | .leads id => classes.all fun classes => decide (id ∈ classes)

/-- A sweep of `user` that is past the statement for this kind of post has it on record. -/
def Point.records (user : UserId) (post : Post) : Point → Bool
  | .role (.homerooms job _ instances) => job.target ≠ user || post.recorded instances none
  | .role (.bookings job _ instances classes) =>
      job.target ≠ user || post.recorded instances (some classes)
  | .role (.commit job _ (some sweep)) =>
      job.target ≠ user || post.recorded sweep.instances (some sweep.classes)
  | _ => true

theorem mem_staffedBy {r : Roster} {user : UserId} {id : ClassCourseId} :
    id ∈ r.staffedBy user ↔ r.Holds user (.teaches id) := by
  change id ∈ r.staffedBy user ↔ (r.classCourseTeacher.lookup (id, user)).isSome = true
  rw [Option.isSome_iff_exists, Roster.staffedBy]
  constructor
  · intro h
    obtain ⟨⟨key, row⟩, hmem, rfl⟩ := List.mem_map.mp h
    obtain ⟨hentry, huser⟩ := List.mem_filter.mp hmem
    obtain ⟨instance_, teacher⟩ := key
    have hteacher : teacher = user := of_decide_eq_true huser
    subst hteacher
    exact ⟨row, mem_entries_iff_lookup.mp hentry⟩
  · rintro ⟨row, hrow⟩
    have hentry := mem_entries_iff_lookup.mpr hrow
    exact List.mem_map.mpr ⟨_, List.mem_filter.mpr ⟨hentry, by simp⟩, rfl⟩

theorem mem_homeroomsOf {r : Roster} {user : UserId} {id : ClassGroupId} :
    id ∈ r.homeroomsOf user ↔ r.Holds user (.leads id) := by
  unfold Roster.homeroomsOf Roster.Holds
  constructor
  · intro h
    obtain ⟨⟨key, row⟩, hmem, rfl⟩ := List.mem_map.mp h
    obtain ⟨hentry, hteacher⟩ := List.mem_filter.mp hmem
    exact ⟨row, mem_entries_iff_lookup.mp hentry, of_decide_eq_true hteacher⟩
  · rintro ⟨row, hrow, hteacher⟩
    have hentry := mem_entries_iff_lookup.mpr hrow
    exact List.mem_map.mpr ⟨_, List.mem_filter.mpr ⟨hentry, by simp [hteacher]⟩, rfl⟩

section Steps

variable {id : ℕ} {s s' : Db} {w : World} {p q : Point} {user : UserId} {post : Post}

theorem records_goto
    (h : next id s p w = some (s', .goto q)) (hp : p.records user post = true)
    (hpost : s.roster.Holds user post) : q.records user post = true := by
  obtain ⟨point, point', rfl, rfl, hgoto⟩ | ⟨point, point', -, rfl, -⟩ |
    ⟨point, point', -, rfl⟩ := next_goto h
  · cases hgoto with
    | write =>
        unfold RoleJob.afterWrite
        split <;> rfl
    | @staff job floor =>
        by_cases huser : job.target = user
        · subst huser
          cases post with
          | teaches =>
              have hmem := mem_staffedBy.mpr hpost
              simp [Point.records, Post.recorded, hmem]
          | leads => simp [Point.records, Post.recorded]
        · simp [Point.records, huser]
    | @homerooms job floor instances hfree =>
        by_cases huser : job.target = user
        · subst huser
          cases post with
          | teaches => simpa [Point.records, Post.recorded] using hp
          | leads =>
              have hmem := mem_homeroomsOf.mpr hpost
              simp [Point.records, Post.recorded, hmem]
        · simp [Point.records, huser]
    | bookings => exact hp
    | _ => rfl
  · rfl
  · rfl

/-- What a sweep has on record is gone at its commit. -/
theorem not_holds_committed
    {sweep : Sweep} (hrecorded : post.recorded sweep.instances (some sweep.classes) = true) :
    ¬ (s.commitRole job (some sweep)).roster.Holds job.target post := by
  cases post with
  | teaches instance_ =>
      intro hpost
      have hmem : instance_ ∈ sweep.instances := by simpa [Post.recorded] using hrecorded
      simp [Roster.Holds, Db.commitRole, Roster.unstaff, hmem] at hpost
  | leads classId =>
      rintro ⟨row, hrow, hteacher⟩
      have hmem : classId ∈ sweep.classes := by simpa [Post.recorded] using hrecorded
      simp only [Db.commitRole, Roster.unstaff, lookup_update,
        Option.map_eq_some_iff] at hrow
      obtain ⟨old, -, rfl⟩ := hrow
      simp [hmem] at hteacher

/-- A call that answers for a post goes on answering for it, finds its holder a teacher, or
has taken it back. -/
theorem covers_next
    {n : Reply} (h : next id s p w = some (s', n)) (hp : p.covers user post = true)
    (hpost : s'.roster.Holds user post) :
    (∃ q, n = .goto q ∧ q.covers user post = true) ∨
      (s.mayTeach user = true ∧ s' = s ∧
        ∃ grant, p = .roster (.recheck grant user) ∧ grant.post = post) := by
  cases p with
  | roster point =>
      cases point with
      | recheck grant =>
          simp only [Point.covers, Bool.and_eq_true, decide_eq_true_eq] at hp
          obtain ⟨rfl, rfl⟩ := hp
          simp only [next, nextRoster, recheck, Option.some.injEq, Prod.mk.injEq] at h
          obtain ⟨rfl, rfl⟩ := h
          split
          · next hteacher => exact .inr ⟨hteacher, rfl, grant, rfl, rfl⟩
          · exact .inl ⟨_, rfl, by simp [Point.covers]⟩
      | undoClasses =>
          simp only [Point.covers, decide_eq_true_eq] at hp
          subst hp
          simp only [next, nextRoster, undoClasses] at h
          split at h <;> cases h
          cases post with
          | teaches => exact .inl ⟨_, rfl, by simp [Point.covers]⟩
          | leads =>
              obtain ⟨row, hrow, hteacher⟩ := hpost
              simp only [Roster.unassignClasses, lookup_update,
                Option.map_eq_some_iff] at hrow
              obtain ⟨old, -, rfl⟩ := hrow
              split at hteacher
              · cases hteacher
              · next hother => exact absurd hteacher hother
      | undoInstances =>
          cases post with
          | teaches =>
              simp only [Point.covers, Bool.and_true, decide_eq_true_eq] at hp
              subst hp
              cases h
              simp [Roster.Holds, Roster.unassignInstances] at hpost
          | leads => simp [Point.covers] at hp
      | _ => cases hp
  | _ => cases hp

end Steps

/-! ## The runs whose grants and bookings a sweep meets -/

def grantCurrent (c : Config Db Point) : Point → Bool
  | .roster (.recheck grant target) =>
      !c.shared.mayTeach target || !Table.any c.calls fun _ q => !q.records target grant.post
  | _ => true

def parentEmpty (c : Config Db Point) : Point → Bool
  | .role (.commit job _ none) =>
      job.role ≠ .parent ||
        (decide (c.shared.roster.staffedBy job.target = []) &&
          decide (c.shared.roster.homeroomsOf job.target = []) &&
          !Table.any c.shared.calendar.slot fun _ seat => seat.slot.teacher = job.target)
  | _ => true

def bookingCurrent (c : Config Db Point) : Point → Bool
  | .calendar (.bookClaim args) =>
      !Table.any c.calls fun _ q =>
        match q with
        | .role (.commit job _ (some _)) =>
            (c.shared.calendar.slot.lookup args.slot).any fun seat =>
              seat.slot.teacher = job.target
        | _ => false
  | _ => true

def sweepsMeet (c : Config Db Point) : Move Request World → Prop
  | .start _ => True
  | .advance id _ =>
      (c.calls.lookup id).all (fun p => grantCurrent c p && parentEmpty c p &&
        bookingCurrent c p) = true
  | .abandon id => (c.calls.lookup id).all (fun p => p.grantee.isNone) = true

instance : ∀ c m, Decidable (sweepsMeet c m)
  | _, .start _ => isTrue trivial
  | c, .advance id _ => inferInstanceAs (Decidable ((c.calls.lookup id).all _ = true))
  | c, .abandon id => inferInstanceAs (Decidable ((c.calls.lookup id).all _ = true))

def CommitsUnswept : Point → Prop
  | .role (.commit job _ none) => job.role = .parent ∨ job.role.atLeast .teacher = true
  | _ => True

theorem commitsUnswept_relyGuarantee :
    machine.RelyGuarantee (fun _ _ => True) (fun _ => True)
      (fun _ p _ => CommitsUnswept p) := by
  apply Machine.RelyGuarantee.of_points
  · intro request
    cases request <;> trivial
  · intro c id w p s q _ hnext _
    obtain ⟨point, point', -, rfl, hgoto⟩ | ⟨point, point', -, rfl, -⟩ |
      ⟨point, point', -, rfl⟩ := next_goto hnext
    · cases hgoto with
      | @write job floor others role hfree hrow hkeeps =>
          unfold RoleJob.afterWrite
          split
          · next hrole => exact hrole
          · trivial
      | _ => trivial
    · trivial
    · trivial

structure Swept (user : UserId) (c : Config Db Point) : Prop where
  posts : ∀ post, c.shared.roster.Holds user post →
    (c.shared.mayTeach user = true ∧
      ∀ id p, c.calls.lookup id = some p → p.records user post = true) ∨
    ∃ id p, c.calls.lookup id = some p ∧ p.covers user post = true
  slots : ∀ id seat, c.shared.calendar.slot.lookup id = some seat →
    seat.slot.teacher = user → c.shared.mayTeach user = true
  housed : c.shared.calendar.Housed
  bookings : ∀ id job floor sweep booking row seat,
    c.calls.lookup id = some (.role (.commit job floor (some sweep))) →
    c.shared.calendar.appointment.lookup booking = some row → row.status.isLive = true →
    c.shared.calendar.slotOf row = some seat → seat.slot.teacher = job.target →
    booking ∈ sweep.cancelled

/-- The layers of invariants below. -/
structure Layers (c : Config Db Point) : Prop where
  seats : c.Holds (fun s => s.calendar.Sound s.minted) (fun _ p s => s.calendar.Knows s.minted p)
  targets : c.Holds (fun _ => True) HoldsTarget
  unswept : c.Holds (fun _ => True) (fun _ p _ => CommitsUnswept p)

theorem layers_start {s : Db} (hsound : s.calendar.Sound s.minted) :
    Layers (.initial s) where
  seats := by
    apply Config.initial_holds
    exact hsound
  targets := Config.initial_holds HoldsTarget trivial
  unswept := Config.initial_holds (fun _ p _ => CommitsUnswept p) trivial

theorem layers_step
    {c c' : Config Db Point} {m : Move Request World} (hl : Layers c)
    (hstep : machine.step c m = some c') : Layers c' where
  seats := seats_relyGuarantee.holds_step hl.seats trivial hstep
  targets := target_relyGuarantee.holds_step hl.targets trivial hstep
  unswept := commitsUnswept_relyGuarantee.holds_step hl.unswept trivial hstep

section Advance

variable {c : Config Db Point} {id : ℕ} {w : World} {p : Point} {s : Db} {n : Reply}
  {user : UserId} {post : Post}

theorem mayTeach_next
    (hnext : next id c.shared p w = some (s, n)) (hteacher : c.shared.mayTeach user = true) :
    s.mayTeach user = true ∨
      ∃ job floor sweep, p = .role (.commit job floor sweep) ∧ job.target = user ∧
        s = (c.shared.commitRole job sweep).releaseLocks id := by
  unfold Db.mayTeach at hteacher ⊢
  rcases next_appUser hnext with hsame | ⟨created, hnone, hcreated⟩ |
    ⟨job, floor, sweep, rfl, hwritten⟩
  · exact .inl (by rw [hsame, hteacher])
  · refine .inl ?_
    rw [hcreated, lookup_insert_eq]
    split
    · next heq =>
      subst heq
      rw [hnone] at hteacher
      cases hteacher
    · exact hteacher
  · by_cases huser : job.target = user
    · cases hnext
      exact .inr ⟨job, floor, sweep, rfl, huser, rfl⟩
    · refine .inl ?_
      rw [hwritten, lookup_insert_eq, if_neg (Ne.symm huser), hteacher]

/-- The commit of a role without a sweep: the new role may teach, or nothing was held. -/
theorem commit_unswept
    (hl : Layers c) {floor : Floor} (hp : c.calls.lookup id = some (.role (.commit job floor none)))
    (hguard : parentEmpty c (.role (.commit job floor none)) = true) :
    job.role.atLeast .teacher = true ∨
      (∀ post, ¬ c.shared.roster.Holds job.target post) ∧
        ∀ slot seat, c.shared.calendar.slot.lookup slot = some seat →
          seat.slot.teacher ≠ job.target := by
  rcases hl.unswept.calls id _ hp with hparent | hteacher
  · refine .inr ?_
    simp only [parentEmpty, hparent, ne_eq, not_true_eq_false, decide_false, Bool.false_or,
      Bool.and_eq_true, decide_eq_true_eq, Bool.not_eq_true', Table.any_eq_false_iff] at hguard
    obtain ⟨⟨hstaff, hclasses⟩, hslots⟩ := hguard
    constructor
    · intro post hpost
      cases post with
      | teaches =>
          have hmem := mem_staffedBy.mpr hpost
          rw [hstaff] at hmem
          cases hmem
      | leads =>
          have hmem := mem_homeroomsOf.mpr hpost
          rw [hclasses] at hmem
          cases hmem
    · intro slot seat hseat
      simpa using hslots slot seat hseat
  · exact .inl hteacher

theorem mayTeach_committed
    {sweep : Option Sweep} :
    ((c.shared.commitRole job sweep).releaseLocks id).mayTeach job.target =
      job.role.atLeast .teacher := by
  cases sweep <;> simp [Db.mayTeach, Db.releaseLocks, Db.commitRole]

theorem posts_of_teacher
    (hl : Layers c) (hp : c.calls.lookup id = some p)
    (hnext : next id c.shared p w = some (s, n)) (hguard : parentEmpty c p = true)
    (hbefore : c.shared.roster.Holds user post) (hpost : s.roster.Holds user post)
    (hteacher : c.shared.mayTeach user = true)
    (hrecords : ∀ id p, c.calls.lookup id = some p → p.records user post = true) :
    s.mayTeach user = true ∧
      ∀ id' q, (c.after id s n).calls.lookup id' = some q → q.records user post = true := by
  constructor
  · rcases mayTeach_next hnext hteacher with hstill | ⟨job, floor, sweep, rfl, rfl, rfl⟩
    · exact hstill
    · cases sweep with
      | none =>
          rw [mayTeach_committed]
          rcases commit_unswept hl hp hguard with hteach | ⟨hnone, -⟩
          · exact hteach
          · exact absurd hbefore (hnone post)
      | some =>
          have hrecorded := hrecords id _ hp
          simp only [Point.records, ne_eq, not_true_eq_false, decide_false,
            Bool.false_or] at hrecorded
          exact absurd hpost (not_holds_committed hrecorded)
  · intro id' q hq
    rcases Config.lookup_after hq with ⟨-, hold⟩ | ⟨rfl, rfl⟩
    · exact hrecords id' q hold
    · exact records_goto hnext (hrecords _ p hp) hbefore

theorem Swept.posts_after
    (hsw : Swept user c) (hl : Layers c) (hp : c.calls.lookup id = some p)
    (hnext : next id c.shared p w = some (s, n)) (hguard : parentEmpty c p = true)
    (hgrant : grantCurrent c p = true) (hpost : s.roster.Holds user post) :
    (s.mayTeach user = true ∧
      ∀ id' q, (c.after id s n).calls.lookup id' = some q → q.records user post = true) ∨
    ∃ id' q, (c.after id s n).calls.lookup id' = some q ∧ q.covers user post = true := by
  rcases holds_wrote (next_rosterWrote hnext) hpost with hbefore | ⟨grant, rfl, rfl⟩
  · rcases hsw.posts post hbefore with ⟨hteacher, hrecords⟩ | ⟨id', q, hq, hcovers⟩
    · exact .inl (posts_of_teacher hl hp hnext hguard hbefore hpost hteacher hrecords)
    · by_cases hid : id' = id
      · subst hid
        have hsame : q = p := by
          rw [hp] at hq
          exact (Option.some.inj hq).symm
        subst hsame
        rcases covers_next hnext hcovers hpost with
          ⟨q', rfl, hcovers'⟩ | ⟨hteacher, rfl, grant, rfl, rfl⟩
        · exact .inr ⟨id', q', by simp [Config.after], hcovers'⟩
        · -- The recheck passes, so every sweep past it has the post on record.
          simp only [grantCurrent, hteacher, Bool.not_true, Bool.false_or, Bool.not_eq_true',
            Table.any_eq_false_iff, Bool.not_eq_false'] at hgrant
          exact .inl (posts_of_teacher hl hp hnext hguard hbefore hpost hteacher
            fun id p hp => hgrant id p hp)
      · exact .inr ⟨id', q, by rw [Config.lookup_after_ne s n hid, hq], hcovers⟩
  · exact .inr ⟨id, .roster (.recheck grant user), by simp [Config.after, toRoster],
      by simp [Point.covers]⟩

theorem Swept.slots_after
    (hsw : Swept user c) (hl : Layers c) (hp : c.calls.lookup id = some p)
    (hnext : next id c.shared p w = some (s, n)) (hguard : parentEmpty c p = true)
    {slot : AppointmentSlotId} (hseat' : s.calendar.slot.lookup slot = some seat')
    (huser : seat'.slot.teacher = user) :
    s.mayTeach user = true := by
  have hteacher : c.shared.mayTeach user = true := by
    rcases slot_wrote (next_calendarWrote hnext) hseat' with ⟨seat, hseat, hsame⟩ | hteacher
    · exact hsw.slots slot seat hseat (by rw [← hsame, huser])
    · rw [huser] at hteacher
      exact hteacher
  rcases mayTeach_next hnext hteacher with hstill | ⟨job, floor, sweep, rfl, rfl, rfl⟩
  · exact hstill
  · cases sweep with
    | none =>
        rw [mayTeach_committed]
        rcases commit_unswept hl hp hguard with hteach | ⟨-, hnone⟩
        · exact hteach
        · exact absurd huser (hnone slot seat' hseat')
    | some =>
        have hkept := (Calendar.lookup_deleteSlots_slot.mp hseat').2
        simp [huser] at hkept

theorem Swept.bookings_after
    (hsw : Swept user c) (hl : Layers c) (hp : c.calls.lookup id = some p)
    (hnext : next id c.shared p w = some (s, n)) (hguard : bookingCurrent c p = true) {id' : ℕ}
    {floor : Floor} {sweep : Sweep} (hq : (c.after id s n).calls.lookup id' =
      some (.role (.commit job floor (some sweep)))) {booking : AppointmentId} {row' : Appointment}
    (hrow' : s.calendar.appointment.lookup booking = some row') (hlive' : row'.status.isLive = true)
    (hseat' : s.calendar.slotOf row' = some seat') (hteacher' : seat'.slot.teacher = job.target) :
    booking ∈ sweep.cancelled := by
  rcases Config.lookup_after hq with ⟨-, hold⟩ | ⟨rfl, rfl⟩
  · rcases live_wrote hl.seats.shared (hl.seats.calls id p hp) (next_calendarWrote hnext)
      hrow' hlive' hseat' with ⟨row, seat, hrow, hlive, hseat, hsame⟩
        | ⟨args, seat, rfl, hseat, hsame⟩
    · exact hsw.bookings id' job floor sweep booking row seat hold hrow hlive hseat
        (by rw [← hsame, hteacher'])
    · simp only [bookingCurrent, Bool.not_eq_true', Table.any_eq_false_iff] at hguard
      have hfree := hguard id' _ hold
      simp [hseat, ← hsame, hteacher'] at hfree
  · -- The call has just taken the live bookings of its target.
    obtain ⟨point, point', rfl, hpoint, hgoto⟩ | ⟨point, point', -, hpoint, -⟩ |
      ⟨point, point', -, hpoint⟩ := next_goto hnext
    · cases hpoint
      generalize hpoint' : RolePoint.commit job floor (some sweep) = point' at hgoto
      cases hgoto with
      | bookings =>
          cases hpoint'
          have hentry := mem_entries_iff_lookup.mpr hrow'
          have hseat' : c.shared.calendar.slotOf row' = some seat' := hseat'
          refine List.mem_map.mpr ⟨_, List.mem_filter.mpr ⟨hentry, ?_⟩, rfl⟩
          simp [hlive', hseat', hteacher']
      | write =>
          unfold RoleJob.afterWrite at hpoint'
          split at hpoint' <;> cases hpoint'
      | _ => cases hpoint'
    · cases hpoint
    · cases hpoint

theorem Swept.housed_after
    (hsw : Swept user c) (hl : Layers c) (hp : c.calls.lookup id = some p)
    (hnext : next id c.shared p w = some (s, n)) : s.calendar.Housed := by
  apply hsw.housed.wrote hl.seats.shared (hl.seats.calls id p hp) _ (next_calendarWrote hnext)
  rintro job floor sweep rfl
  apply hsw.housed.withdraw
  intro booking row seat hrow hlive hseat hteacher
  exact hsw.bookings id job floor sweep booking row seat hp hrow hlive hseat hteacher

end Advance

theorem swept_step
    {user : UserId} {c c' : Config Db Point} {m : Move Request World} (hsw : Swept user c)
    (hmeet : sweepsMeet c m) (hl : Layers c) (hstep : machine.step c m = some c') :
    Swept user c' := by
  obtain ⟨request, rfl, rfl⟩ | ⟨id, w, p, s, n, rfl, hp, hnext, rfl⟩ | ⟨id, p, rfl, hp, rfl⟩ :=
    Machine.step_cases hstep
  · have hnew : ∀ {id q}, (c.calls.insert c.started (machine.entry request)).lookup id = some q →
        c.calls.lookup id = some q ∨ q = entry request := by
      intro id q hq
      obtain ⟨-, rfl⟩ | ⟨-, hq⟩ := insert_cases hq
      · exact .inr rfl
      · exact .inl hq
    refine ⟨?_, hsw.slots, hsw.housed, ?_⟩
    · intro post hpost
      rcases hsw.posts post hpost with ⟨hteacher, hrecords⟩ | ⟨id, q, hq, hcovers⟩
      · refine .inl ⟨hteacher, ?_⟩
        intro id q hq
        rcases hnew hq with hold | rfl
        · exact hrecords id q hold
        · cases request <;> rfl
      · refine .inr ⟨id, q, ?_, hcovers⟩
        have hid : id ≠ c.started := (hl.seats.numbered id q hq).ne
        rw [lookup_insert_eq, if_neg hid, hq]
    · intro id job floor sweep booking row seat hq hrow hlive hseat hteacher
      rcases hnew hq with hold | hentry
      · exact hsw.bookings id job floor sweep booking row seat hold hrow hlive hseat hteacher
      · cases request <;> cases hentry
  · have hguard : (grantCurrent c p && parentEmpty c p && bookingCurrent c p) = true := by
      simpa [sweepsMeet, hp] using hmeet
    simp only [Bool.and_eq_true] at hguard
    constructor
    · intro post hpost
      rw [Config.shared_after] at hpost ⊢
      exact hsw.posts_after hl hp hnext hguard.1.2 hguard.1.1 hpost
    · intro slot seat hseat huser
      rw [Config.shared_after] at hseat ⊢
      exact hsw.slots_after hl hp hnext hguard.1.2 hseat huser
    · rw [Config.shared_after]
      exact hsw.housed_after hl hp hnext
    · intro id' job floor sweep booking row seat hq hrow hlive hseat hteacher
      rw [Config.shared_after] at hrow hseat
      exact hsw.bookings_after hl hp hnext hguard.2 hq hrow hlive hseat hteacher
  · have hfree : p.grantee = none := by
      simpa [sweepsMeet, hp] using hmeet
    have hold : ∀ {id' q}, (c.calls.erase id).lookup id' = some q →
        c.calls.lookup id' = some q := by
      intro id' q hq
      obtain ⟨-, hq⟩ := erase_cases hq
      exact hq
    refine ⟨?_, hsw.slots, hsw.housed, ?_⟩
    · intro post hpost
      rcases hsw.posts post hpost with ⟨hteacher, hrecords⟩ | ⟨id', q, hq, hcovers⟩
      · exact .inl ⟨hteacher, fun id' q hq => hrecords id' q (hold hq)⟩
      · refine .inr ⟨id', q, ?_, hcovers⟩
        have hid : id' ≠ id := by
          rintro rfl
          rw [hp] at hq
          cases hq
          rw [Point.grantee_of_covers hcovers] at hfree
          cases hfree
        rw [lookup_erase_eq, if_neg hid, hq]
    · intro id' job floor sweep booking row seat hq hrow hlive hseat hteacher
      exact hsw.bookings id' job floor sweep booking row seat (hold hq) hrow hlive hseat hteacher

/-- In every run whose grants and bookings the sweeps meet, an account that may not teach, and
whose grants have all been checked, holds no staffing row, no homeroom and no slot, and every
live booking sits on a slot of somebody else.  The account starts as a teacher or above, or
holding nothing. -/
theorem demoted_holds_nothing
    {s : Db} {user : UserId} (hsound : s.calendar.Sound s.minted) (hhoused : s.calendar.Housed)
    (hstart : s.mayTeach user = true ∨
      (∀ post, ¬ s.roster.Holds user post) ∧
        ∀ slot seat, s.calendar.slot.lookup slot = some seat → seat.slot.teacher ≠ user)
    {ms : List (Move Request World)} {c : Config Db Point}
    (hguard : machine.Guarded sweepsMeet (.initial s) ms)
    (hrun : machine.run (.initial s) ms = some c) (hrole : c.shared.mayTeach user = false)
    (hchecked : ∀ id p, c.calls.lookup id = some p → p.grantee ≠ some user) :
    c.shared.roster.staffedBy user = [] ∧ c.shared.roster.homeroomsOf user = [] ∧
      (∀ slot seat, c.shared.calendar.slot.lookup slot = some seat →
        seat.slot.teacher ≠ user) ∧
      ∀ booking row, c.shared.calendar.appointment.lookup booking = some row →
        row.status.isLive = true →
        ∃ seat, c.shared.calendar.slotOf row = some seat ∧ seat.slot.teacher ≠ user := by
  have hlayers : machine.Guarded (fun c _ => Layers c) (.initial s) ms :=
    Machine.Guarded.invariant (fun hl _ hstep => layers_step hl hstep) (layers_start hsound)
      (Machine.guarded_true _ ms)
  have hswept : Swept user (.initial s) := by
    refine ⟨?_, ?_, hhoused, ?_⟩
    · intro post hpost
      rcases hstart with hteacher | ⟨hnone, -⟩
      · refine .inl ⟨hteacher, ?_⟩
        intro id p hp
        simp [Config.initial] at hp
      · exact absurd hpost (hnone post)
    · intro slot seat hseat huser
      rcases hstart with hteacher | ⟨-, hnone⟩
      · exact hteacher
      · exact absurd huser (hnone slot seat hseat)
    · intro id job floor sweep booking row seat hq
      simp [Config.initial] at hq
  have hend : Swept user c :=
    Machine.run_induction (fun hc hg hstep => swept_step hc hg.1 hg.2 hstep)
      hswept (hguard.and hlayers) hrun
  have hposts : ∀ post, ¬ c.shared.roster.Holds user post := by
    intro post hpost
    rcases hend.posts post hpost with ⟨hteacher, -⟩ | ⟨id, p, hp, hcovers⟩
    · rw [hrole] at hteacher
      cases hteacher
    · exact hchecked id p hp (Point.grantee_of_covers hcovers)
  have hslots : ∀ slot seat, c.shared.calendar.slot.lookup slot = some seat →
      seat.slot.teacher ≠ user := by
    intro slot seat hseat huser
    have hteacher := hend.slots slot seat hseat huser
    rw [hrole] at hteacher
    cases hteacher
  refine ⟨?_, ?_, hslots, ?_⟩
  · exact List.eq_nil_iff_forall_not_mem.mpr fun id hid => hposts _ (mem_staffedBy.mp hid)
  · exact List.eq_nil_iff_forall_not_mem.mpr fun id hid => hposts _ (mem_homeroomsOf.mp hid)
  · intro booking row hrow hlive
    obtain ⟨seat, hseat⟩ := hend.housed booking row hrow hlive
    obtain ⟨slot, -, hlookup⟩ := Calendar.slotOf_eq_some.mp hseat
    exact ⟨seat, hseat, hslots slot seat hlookup⟩

section Runs

open Sample

def offerAndDemote : List (Move Request World) :=
  [offer, tick 0, tick 0] ++
    .start (.setRole headmaster ayse "student") :: List.replicate 9 (tick 1)

theorem demoted_holds_nothing_offerAndDemote :
    ∃ c, machine.run (start accounts) offerAndDemote = some c ∧
      c.shared.appUser.lookup ayse = some .student ∧
      c.shared.roster.staffedBy ayse = [] ∧ c.shared.roster.homeroomsOf ayse = [] ∧
      (∀ slot seat, c.shared.calendar.slot.lookup slot = some seat →
        seat.slot.teacher ≠ ayse) ∧
      ∀ booking row, c.shared.calendar.appointment.lookup booking = some row →
        row.status.isLive = true →
        ∃ seat, c.shared.calendar.slotOf row = some seat ∧ seat.slot.teacher ≠ ayse := by
  have hguard : machine.Guarded sweepsMeet (start accounts) offerAndDemote := by decide
  have hend : (machine.run (start accounts) offerAndDemote).any (fun c =>
      decide (c.shared.appUser.lookup ayse = some .student) &&
        !Table.any c.calls fun _ p => decide (p.grantee = some ayse)) = true := by
    decide
  obtain ⟨c, hrun, hdone⟩ := (Option.any_eq_true _ _).mp hend
  rw [Bool.and_eq_true, Bool.not_eq_true', Table.any_eq_false_iff] at hdone
  have hstudent := of_decide_eq_true hdone.1
  have hhoused : Calendar.empty.Housed := by
    intro booking row hrow
    simp [Calendar.empty] at hrow
  exact ⟨c, hrun, hstudent, demoted_holds_nothing (s := .ofUsers accounts)
    Calendar.sound_empty hhoused (.inl (by decide)) hguard hrun
    (by simp [Db.mayTeach, hstudent, Role.atLeast, Role.rank])
    fun id p hp => of_decide_eq_false (hdone.2 id p hp)⟩

def offerAndBecomeParent : List (Move Request World) :=
  [offer, tick 0, tick 0] ++
    .start (.setRole headmaster ayse "parent") :: List.replicate 6 (tick 1)

/-- A role change to parent returns before the sweep. -/
theorem parent_keeps_slots :
    ¬ ∀ (users : Table UserId Role) (ms : List (Move Request World)) (c : Config Db Point)
      (user : UserId), machine.run (start users) ms = some c →
      (∀ id p, c.calls.lookup id ≠ some p) → c.shared.mayTeach user = false →
      ∀ slot seat, c.shared.calendar.slot.lookup slot = some seat →
        seat.slot.teacher ≠ user := by
  intro h
  have hend : (machine.run (start accounts) offerAndBecomeParent).any (fun c =>
      (!Table.any c.calls fun _ _ => true) && !c.shared.mayTeach ayse &&
        (c.shared.calendar.slot.lookup ⟨firstUuid⟩).any fun seat =>
          seat.slot.teacher = ayse) = true := by decide
  obtain ⟨c, hrun, hboth⟩ := (Option.any_eq_true _ _).mp hend
  simp only [Bool.and_eq_true, Bool.not_eq_true', Table.any_eq_false_iff] at hboth
  obtain ⟨⟨hcalls, hrole⟩, hslot⟩ := hboth
  obtain ⟨seat, hseat, hteacher⟩ := (Option.any_eq_true _ _).mp hslot
  refine h accounts _ c ayse hrun ?_ hrole _ seat hseat (of_decide_eq_true hteacher)
  intro id p hp
  exact absurd (hcalls id p hp) (by decide)

end Runs

end Hezarfen.School
