import Hezarfen.SchoolCalls

/-!
# What a step of the school can do to the appointment tables

`CalendarWrote` lists what a step can have written to the two appointment tables,
with everything it checked in the same step.  A call never leaves the workflow it
started in, so the program points of one workflow are reached from its own points
only.
-/

namespace Hezarfen.School

open Interleaving

variable {cal : Calendar} {expected : Appointment} {appointment : AppointmentId} {job : CasJob}
  {left : ℕ} {point : CalendarPoint} {p : Point}

section Replies

variable {q : Point}

@[simp]
theorem refuse_ne_goto (e : AppError) : refuse e = .goto q ↔ False := by
  simp [refuse]

@[simp]
theorem ok_ne_goto (answer : Answer) : ok answer = .goto q ↔ False := by
  simp [ok]

@[simp]
theorem toCalendar_eq_goto (point : CalendarPoint) :
    toCalendar point = .goto q ↔ q = .calendar point := by
  simp [toCalendar, eq_comm]

end Replies

/-- Where the step goes on, it does so as `P` says. -/
def Leads (P : Db → Point → Prop) : Option (Db × Reply) → Prop
  | some (s, .goto q) => P s q
  | _ => True

theorem Leads.goto {P : Db → Point → Prop} {out : Option (Db × Reply)} {s : Db} {q : Point}
    (h : Leads P out) (hout : out = some (s, .goto q)) : P s q := by
  subst hout
  exact h

def InRole (R : Db → RolePoint → Prop) : Db → Point → Prop
  | s, .role point => R s point
  | _, _ => False

def InCalendar (R : CalendarPoint → Prop) : Db → Point → Prop
  | _, .calendar point => R point
  | _, _ => False

def InRoster : Db → Point → Prop
  | _, .roster _ => True
  | _, _ => False

/-! ## Writes of the appointment tables -/

/-- What the step of call `id` at a point can have made of the appointment tables and the
generator. -/
inductive CalendarWrote (id : ℕ) (s : Db) (w : World) : Point → Calendar → List Uuid → Prop
  | quiet {p : Point} {minted : List Uuid} (hminted : s.minted ⊆ minted) :
      CalendarWrote id s w p s.calendar minted
  | published {args : PublishArgs} {windows : List (Timestamp × Timestamp)} {refusal : String}
      {slots : Table AppointmentSlotId SlotRow}
      (hfree : s.free id (.user args.teacher) = true)
      (hrole : (s.appUser.lookup args.teacher).any (Role.atLeast · .teacher) = true)
      (hnodup : w.uuids.Nodup) (hfresh : ∀ uuid ∈ w.uuids, uuid ∉ s.minted)
      (hinsert : Calendar.insertSlots s.calendar.slot (args.rows w windows) = some slots) :
      CalendarWrote id s w (.calendar (.insert args windows refusal))
        { s.calendar with slot := slots } (w.uuids ++ s.minted)
  | booked {args : BookArgs} {row : SlotRow} (hfresh : w.uuid ∉ s.minted)
      (hrow : s.calendar.slot.lookup args.slot = some row) (hseat : row.occupied < 1) :
      CalendarWrote id s w (.calendar (.bookClaim args))
        { slot := s.calendar.slot.insert args.slot { row with occupied := row.occupied + 1 }
          appointment :=
            s.calendar.appointment.insert ⟨w.uuid⟩ (args.appointment w) }
        (w.uuid :: s.minted)
  | approved {appointment : AppointmentId} {user : UserId}
      {accepting : Option (Timestamp × Timestamp)} {expected row : Appointment} {slot : SlotRow}
      (hread : s.calendar.appointment.lookup appointment = some expected)
      (hpending : expected.status = .pending)
      (happrove : s.calendar.approvable w.now appointment expected accepting = .ok slot)
      (hrow : s.calendar.appointment.lookup expected.id = some row)
      (hunchanged : row.Unchanged expected)
      (hfree : s.free id (.appointment appointment) = true) :
      CalendarWrote id s w (.calendar (.approve appointment user accepting))
        (s.calendar.decided expected
          { expected with status := .approved, decidedBy := some user } row)
        s.minted
  | saved {job : CasJob} {expected new row : Appointment} {left : ℕ}
      (hrow : s.calendar.appointment.lookup new.id = some row)
      (hunchanged : row.Unchanged expected)
      (hfree : s.free id (.appointment new.id) = true) :
      CalendarWrote id s w (.calendar (.save job expected new left))
        (s.calendar.decided expected new row) s.minted
  | deleted {slots : List AppointmentSlotId} {settled : List AppointmentId}
      {calendar : Calendar}
      (hdelete : s.calendar.deleteFree slots settled = (.ok (), calendar)) :
      CalendarWrote id s w (.calendar (.deleteFree slots settled)) calendar s.minted
  | withdrawn {job : RoleJob} {floor : Floor} {sweep : Sweep} :
      CalendarWrote id s w (.role (.commit job floor (some sweep)))
        (s.calendar.withdraw job.target sweep.cancelled) s.minted

section Inversion

variable {id : ℕ} {s s' : Db} {w : World} {n : Reply}

theorem decisionCas_eq
    {cal' : Calendar} {new saved : Appointment}
    (h : cal.decisionCas expected new = (some saved, cal')) :
    ∃ row, cal.appointment.lookup new.id = some row ∧ row.Unchanged expected ∧
      saved = row.overwrite new ∧ cal' = cal.decided expected new row := by
  unfold Calendar.decisionCas at h
  split at h
  · cases h
  · next row hrow =>
    split at h
    · next hunchanged =>
      cases h
      exact ⟨row, hrow, hunchanged, rfl, rfl⟩
    · cases h

theorem readPending_ok
    (h : cal.readPending appointment = .ok expected) :
    cal.appointment.lookup appointment = some expected ∧ expected.status = .pending := by
  unfold Calendar.readPending at h
  split at h
  · cases h
  · next row hrow =>
    split at h
    · next hpending =>
      cases h
      exact ⟨hrow, hpending⟩
    · cases h

theorem approveTx_ok
    {now : Timestamp} {user : UserId} {accepting : Option (Timestamp × Timestamp)} {cal' : Calendar}
    {saved : Appointment}
    (h : Calendar.approveTx now appointment user accepting cal = .ok (saved, cal')) :
    ∃ expected slot row, cal.appointment.lookup appointment = some expected ∧
      expected.status = .pending ∧ cal.approvable now appointment expected accepting = .ok slot ∧
      cal.appointment.lookup expected.id = some row ∧ row.Unchanged expected ∧
      cal' = cal.decided expected
        { expected with status := .approved, decidedBy := some user } row := by
  unfold Calendar.approveTx at h
  split at h
  · cases h
  · next expected hread =>
    obtain ⟨hlookup, hpending⟩ := readPending_ok hread
    split at h
    · cases h
    · next slot happrove =>
      split at h
      · next saved' cal'' hcas =>
        cases h
        obtain ⟨row, hrow, hunchanged, -, rfl⟩ := decisionCas_eq hcas
        exact ⟨expected, slot, row, hlookup, hpending, happrove, hrow, hunchanged, rfl⟩
      · cases h

@[simp]
theorem mint_eq_some {uuid : Uuid} :
    s.mint uuid = some s' ↔
      uuid ∉ s.minted ∧ s' = { s with minted := uuid :: s.minted } := by
  unfold Db.mint
  split
  · simp_all
  · simp_all [eq_comm]

@[simp]
theorem mintAll_eq_some {uuids : List Uuid} :
    s.mintAll uuids = some s' ↔
      (uuids.Nodup ∧ ∀ uuid ∈ uuids, uuid ∉ s.minted) ∧
        s' = { s with minted := uuids ++ s.minted } := by
  unfold Db.mintAll
  split
  · simp_all [eq_comm]
  · simp_all

theorem deleteFree_wrote
    {slots : List AppointmentSlotId} {settled : List AppointmentId}
    (h : deleteFree s slots settled = (s', n)) :
    CalendarWrote id s w (.calendar (.deleteFree slots settled)) s'.calendar s'.minted := by
  unfold deleteFree at h
  split at h
  · cases h
    exact .quiet (by simp)
  · next calendar hdelete =>
    cases h
    exact .deleted hdelete

theorem insertClaimed_wrote
    {args : PublishArgs} {windows : List (Timestamp × Timestamp)} {refusal : String}
    (h : insertClaimed id s w args windows refusal = some (s', n)) :
    CalendarWrote id s w (.calendar (.insert args windows refusal)) s'.calendar s'.minted := by
  unfold insertClaimed at h
  split at h
  · next hfree =>
    split at h
    · cases h
    · next minted hmint =>
      obtain ⟨⟨hnodup, hfresh⟩, rfl⟩ := mintAll_eq_some.mp hmint
      split at h
      · cases h
        exact .quiet (by simp)
      · next hrole =>
        split at h
        · cases h
          exact .quiet (by simp)
        · next slots hinsert =>
          cases h
          exact .published hfree.1 (by simpa using hrole) hnodup hfresh hinsert
  · cases h

theorem bookClaim_wrote
    {args : BookArgs} (h : bookClaim s w args = some (s', n)) :
    CalendarWrote id s w (.calendar (.bookClaim args)) s'.calendar s'.minted := by
  unfold bookClaim at h
  split at h
  · cases h
  · next minted hmint =>
    obtain ⟨hfresh, rfl⟩ := mint_eq_some.mp hmint
    unfold Calendar.claimSlotAndCreate at h
    split at h
    · next created calendar hclaim =>
      split at hclaim
      · cases hclaim
      · next row hrow =>
        split at hclaim
        · next hseat =>
          cases hclaim
          cases h
          exact .booked hfresh hrow hseat
        · cases hclaim
    · cases h
      exact .quiet (by simp)
    · cases h
      exact .quiet (by simp)

theorem approve_wrote
    {user : UserId} {accepting : Option (Timestamp × Timestamp)}
    (h : approve id s w appointment user accepting = some (s', n)) :
    CalendarWrote id s w (.calendar (.approve appointment user accepting)) s'.calendar
      s'.minted := by
  unfold approve at h
  split at h
  · cases h
    exact .quiet (by simp)
  · next saved calendar htx =>
    split at h
    · next hfree =>
      cases h
      obtain ⟨expected, slot, row, hread, hpending, happrove, hrow, hunchanged, rfl⟩ :=
        approveTx_ok htx
      exact .approved hread hpending happrove hrow hunchanged hfree
    · cases h

theorem save_wrote
    {new : Appointment} (h : save id s job expected new left = some (s', n)) :
    CalendarWrote id s w (.calendar (.save job expected new left)) s'.calendar s'.minted := by
  unfold save at h
  split at h
  · cases h
    exact .quiet (by simp)
  · next saved calendar hcas =>
    split at h
    · next hfree =>
      cases h
      obtain ⟨row, hrow, hunchanged, -, rfl⟩ := decisionCas_eq hcas
      exact .saved hrow hunchanged hfree
    · cases h

theorem nextCalendar_wrote
    (h : nextCalendar id s w point = some (s', n)) :
    CalendarWrote id s w (.calendar point) s'.calendar s'.minted := by
  cases point with
  | insert => exact insertClaimed_wrote h
  | deleteFree =>
      exact deleteFree_wrote (Option.some.inj h)
  | bookClaim => exact bookClaim_wrote h
  | approve => exact approve_wrote h
  | save => exact save_wrote h
  | _ =>
      simp only [nextCalendar, Option.some.injEq, Prod.mk.injEq] at h
      rw [← h.1]
      exact .quiet (by simp)

/-! ## What the class workflows leave alone -/

structure RosterOnly (s s' : Db) : Prop where
  appUser : s'.appUser = s.appUser
  calendar : s'.calendar = s.calendar
  locks : s'.locks = s.locks
  minted : s.minted ⊆ s'.minted

theorem RosterOnly.quiet : RosterOnly s s := ⟨rfl, rfl, rfl, List.Subset.refl _⟩

theorem RosterOnly.write (roster : Roster) : RosterOnly s { s with roster := roster } :=
  ⟨rfl, rfl, rfl, List.Subset.refl _⟩

theorem RosterOnly.minting (roster : Roster) (uuid : Uuid) :
    RosterOnly s { s with minted := uuid :: s.minted, roster := roster } :=
  ⟨rfl, rfl, rfl, List.subset_cons_self _ _⟩

theorem nextRoster_only
    {point : RosterPoint} (h : nextRoster id s w point = some (s', n)) : RosterOnly s s' := by
  cases point with
  | createCourse =>
      simp only [nextRoster, createCourse] at h
      split at h <;> cases h
      next hmint =>
        obtain ⟨-, rfl⟩ := mint_eq_some.mp hmint
        exact .minting _ _
  | insertClass =>
      simp only [nextRoster, insertClass] at h
      split at h <;> cases h
      next hmint =>
        obtain ⟨-, rfl⟩ := mint_eq_some.mp hmint
        exact .minting _ _
  | addMember =>
      simp only [nextRoster, addMember] at h
      split at h
      · split at h <;> cases h
        next hmint =>
          obtain ⟨-, rfl⟩ := mint_eq_some.mp hmint
          exact .minting _ _
      · cases h
  | attachCourse =>
      simp only [nextRoster, attachCourse] at h
      split at h
      · split at h
        · cases h
        · next hmint =>
          obtain ⟨-, rfl⟩ := mint_eq_some.mp hmint
          split at h <;> cases h <;> exact .minting _ _
      · cases h
  | homeroomWrite =>
      simp only [nextRoster, homeroomWrite] at h
      split at h
      · cases h
        exact .quiet
      · split at h <;> cases h
        exact .write _
  | assign =>
      simp only [nextRoster, assign] at h
      split at h <;> cases h
      · exact .quiet
      · exact .write _
  | undoClasses =>
      simp only [nextRoster, undoClasses] at h
      split at h <;> cases h
      exact .write _
  | undoInstances | disown =>
      cases h
      exact .write _
  | rollbackClass =>
      simp only [nextRoster, rollbackClass] at h
      split at h
      · split at h <;> cases h
        · exact .quiet
        · exact .quiet
        · exact .write _
      · cases h
  | unassign =>
      simp only [nextRoster, unassign] at h
      split at h
      · cases h
        exact .quiet
      · split at h <;> cases h
        · exact .quiet
        · exact .write _
  | deleteClass =>
      simp only [nextRoster, deleteClass] at h
      split at h
      · cases h
        exact .quiet
      · split at h
        · split at h <;> cases h
          · exact .quiet
          · exact .quiet
          · exact .write _
        · cases h
  | deleteCourse =>
      simp only [nextRoster, deleteCourse] at h
      split at h
      · cases h
        exact .quiet
      · split at h <;> cases h
        · exact .quiet
        · exact .quiet
        · exact .write _
  | dropMember =>
      simp only [nextRoster, dropMember] at h
      split at h
      · cases h
        exact .quiet
      · split at h <;> cases h
        exact .write _
  | detachCourse =>
      simp only [nextRoster, detachCourse] at h
      split at h <;> cases h
      exact .write _
  | enrollTx =>
      simp only [nextRoster, enrollTx] at h
      split at h
      · split at h <;> cases h
        · exact .quiet
        · exact .quiet
        · exact .quiet
        · exact .write _
      · cases h
  | unenroll =>
      simp only [nextRoster, unenroll] at h
      split at h
      · cases h
        exact .quiet
      · split at h <;> cases h
        · exact .quiet
        · exact .write _
  | _ =>
      cases h
      exact .quiet

structure CalendarOnly (s s' : Db) : Prop where
  appUser : s'.appUser = s.appUser
  roster : s'.roster = s.roster
  locks : s'.locks = s.locks
  minted : s.minted ⊆ s'.minted

theorem CalendarOnly.quiet : CalendarOnly s s := ⟨rfl, rfl, rfl, List.Subset.refl _⟩

theorem CalendarOnly.write (calendar : Calendar) :
    CalendarOnly s { s with calendar := calendar } :=
  ⟨rfl, rfl, rfl, List.Subset.refl _⟩

theorem CalendarOnly.minting (calendar : Calendar) (uuid : Uuid) :
    CalendarOnly s { s with minted := uuid :: s.minted, calendar := calendar } :=
  ⟨rfl, rfl, rfl, List.subset_cons_self _ _⟩

theorem CalendarOnly.mintingAll (calendar : Calendar) (uuids : List Uuid) :
    CalendarOnly s { s with minted := uuids ++ s.minted, calendar := calendar } :=
  ⟨rfl, rfl, rfl, List.subset_append_right _ _⟩

theorem nextCalendar_only
    (h : nextCalendar id s w point = some (s', n)) :
    CalendarOnly s s' := by
  cases point with
  | insert =>
      simp only [nextCalendar, insertClaimed] at h
      split at h
      · split at h
        · cases h
        · next hmint =>
          obtain ⟨-, rfl⟩ := mintAll_eq_some.mp hmint
          split at h
          · cases h
            exact .mintingAll _ _
          · split at h <;> cases h <;> exact .mintingAll _ _
      · cases h
  | bookClaim =>
      simp only [nextCalendar, bookClaim] at h
      split at h
      · cases h
      · next hmint =>
        obtain ⟨-, rfl⟩ := mint_eq_some.mp hmint
        split at h <;> cases h <;> exact .minting _ _
  | deleteFree =>
      simp only [nextCalendar, deleteFree] at h
      split at h <;> cases h
      · exact .quiet
      · exact .write _
  | approve =>
      simp only [nextCalendar, approve] at h
      split at h
      · cases h
        exact .quiet
      · split at h <;> cases h
        exact .write _
  | save =>
      simp only [nextCalendar, save] at h
      split at h
      · cases h
        exact .quiet
      · split at h <;> cases h
        exact .write _
  | _ =>
      cases h
      exact .quiet

theorem nextRole_keeps
    {point : RolePoint} (h : nextRole id s w point = some (s', n)) :
    s'.minted = s.minted ∧
      ((∃ job floor sweep, point = .commit job floor sweep) ∨
        (s'.appUser = s.appUser ∧ s'.calendar = s.calendar ∧ s'.roster = s.roster)) := by
  cases point with
  | commit job floor sweep =>
      cases h
      refine ⟨?_, .inl ⟨job, floor, sweep, rfl⟩⟩
      cases sweep <;> rfl
  | lockAdmins =>
      simp only [nextRole, roleLockAdmins] at h
      split at h
      · split at h <;> cases h <;> exact ⟨rfl, .inr ⟨rfl, rfl, rfl⟩⟩
      · cases h
  | write =>
      simp only [nextRole, roleWrite] at h
      split at h
      · split at h
        · cases h
          exact ⟨rfl, .inr ⟨rfl, rfl, rfl⟩⟩
        · split at h <;> cases h <;> exact ⟨rfl, .inr ⟨rfl, rfl, rfl⟩⟩
      · cases h
  | homerooms =>
      simp only [nextRole, roleHomerooms] at h
      split at h <;> cases h
      exact ⟨rfl, .inr ⟨rfl, rfl, rfl⟩⟩
  | bookings =>
      simp only [nextRole, roleBookings] at h
      split at h <;> cases h
      exact ⟨rfl, .inr ⟨rfl, rfl, rfl⟩⟩
  | _ =>
      cases h
      exact ⟨rfl, .inr ⟨rfl, rfl, rfl⟩⟩

theorem next_calendarWrote
    (h : next id s p w = some (s', n)) : CalendarWrote id s w p s'.calendar s'.minted := by
  cases p with
  | createUser =>
      simp only [next, createUser] at h
      split at h <;> cases h <;> exact .quiet (List.Subset.refl _)
  | role =>
      rcases (nextRole_keeps h).2 with ⟨job, floor, sweep, rfl⟩ | ⟨-, hcalendar, -⟩
      · cases h
        cases sweep with
        | none => exact .quiet (List.Subset.refl _)
        | some => exact .withdrawn
      · rw [hcalendar, (nextRole_keeps h).1]
        exact .quiet (List.Subset.refl _)
  | calendar => exact nextCalendar_wrote h
  | roster =>
      rw [(nextRoster_only h).calendar]
      exact .quiet (nextRoster_only h).minted

/-- The generator only ever grows. -/
theorem next_minted (h : next id s p w = some (s', n)) : s.minted ⊆ s'.minted := by
  cases p with
  | createUser =>
      simp only [next, createUser] at h
      split at h <;> cases h <;> exact List.Subset.refl _
  | role =>
      rw [(nextRole_keeps h).1]
      exact List.Subset.refl _
  | calendar => exact (nextCalendar_only h).minted
  | roster => exact (nextRoster_only h).minted

/-! ## Where a call goes next -/

/-- How a role change moves on. -/
inductive RoleGoto (id : ℕ) (s : Db) (w : World) : RolePoint → Db → RolePoint → Prop
  | read {caller target : UserId} {value : String} {role : Role} (hne : target ≠ caller) :
      RoleGoto id s w (.caller caller target value) s (.read target role)
  | promote {target : UserId} :
      RoleGoto id s w (.read target .admin) s (.count ⟨target, .admin, w.now⟩ .promotion)
  | demote {target : UserId} {role : Role} (hrole : role ≠ .admin) :
      RoleGoto id s w (.read target role) s (.current ⟨target, role, w.now⟩)
  | admin {job : RoleJob} (hadmin : s.appUser.lookup job.target = some .admin) :
      RoleGoto id s w (.current job) s (.admins job)
  | notAdmin {job : RoleJob} (hadmin : s.appUser.lookup job.target ≠ some .admin) :
      RoleGoto id s w (.current job) s (.count job .notAdmin)
  | admins {job : RoleJob} : RoleGoto id s w (.admins job) s (.lockAdmins job s.adminIds)
  | held {job : RoleJob} {admins held : List UserId}
      (hfree : ∀ admin ∈ admins, s.free id (.user admin) = true)
      (hheld : held = admins.filter fun admin => s.appUser.lookup admin = some .admin)
      (htwo : 1 < held.length) :
      RoleGoto id s w (.lockAdmins job admins) (s.lockAll id (held.map .user))
        (.count job (.held held))
  | count {job : RoleJob} {floor : Floor} :
      RoleGoto id s w (.count job floor) s (.write job floor (s.otherAdmins job.target))
  | write {job : RoleJob} {floor : Floor} {others : ℕ} {role : Role}
      (hfree : s.free id (.user job.target) = true)
      (hrow : s.appUser.lookup job.target = some role)
      (hkeeps : ¬(role = .admin ∧ job.role ≠ .admin ∧ others = 0)) :
      RoleGoto id s w (.write job floor others) (s.lock id (.user job.target))
        (job.afterWrite floor)
  | staff {job : RoleJob} {floor : Floor} :
      RoleGoto id s w (.staff job floor) s
        (.homerooms job floor (s.roster.staffedBy job.target))
  | homerooms {job : RoleJob} {floor : Floor} {instances : List ClassCourseId}
      (hfree : ∀ classId ∈ s.roster.homeroomsOf job.target,
        s.free id (.classGroup classId) = true) :
      RoleGoto id s w (.homerooms job floor instances)
        (s.lockAll id ((s.roster.homeroomsOf job.target).map .classGroup))
        (.bookings job floor instances (s.roster.homeroomsOf job.target))
  | bookings {job : RoleJob} {floor : Floor} {instances : List ClassCourseId}
      {classes : List ClassGroupId}
      (hfree : ∀ booking ∈ s.calendar.liveOf job.target,
        s.free id (.appointment booking) = true) :
      RoleGoto id s w (.bookings job floor instances classes)
        (s.lockAll id ((s.calendar.liveOf job.target).map .appointment))
        (.commit job floor (some ⟨instances, classes, s.calendar.liveOf job.target⟩))

theorem nextRole_leads (point : RolePoint) :
    Leads (InRole (RoleGoto id s w point)) (nextRole id s w point) := by
  cases point with
  | caller =>
      simp only [nextRole, roleCaller]
      split
      · trivial
      · split
        · trivial
        · split
          · trivial
          · split
            · trivial
            · next hne => exact .read hne
  | read target role =>
      simp only [nextRole, roleRead]
      split
      · trivial
      · split
        · next hrole => exact .demote hrole
        · next hrole =>
          obtain rfl : role = .admin := by simpa using hrole
          exact .promote
  | current =>
      simp only [nextRole, roleCurrent]
      split
      · next hadmin => exact .admin hadmin
      · next hadmin => exact .notAdmin hadmin
  | admins => exact .admins
  | lockAdmins job admins =>
      simp only [nextRole, roleLockAdmins]
      split
      · next hfree =>
        split
        · trivial
        · next htwo => exact .held (by simpa using hfree) rfl (by omega)
      · trivial
  | count => exact .count
  | write =>
      simp only [nextRole, roleWrite]
      split
      · next hfree =>
        split
        · trivial
        · next role hrow =>
          split
          · trivial
          · next hkeeps => exact .write hfree hrow hkeeps
      · trivial
  | staff => exact .staff
  | homerooms =>
      simp only [nextRole, roleHomerooms]
      split
      · next hfree => exact .homerooms (by simpa using hfree)
      · trivial
  | bookings =>
      simp only [nextRole, roleBookings]
      split
      · next hfree => exact .bookings (by simpa using hfree)
      · trivial
  | commit => trivial

theorem nextRole_goto
    {point : RolePoint} {q : Point} (h : nextRole id s w point = some (s', .goto q)) :
    ∃ point', q = .role point' ∧ RoleGoto id s w point s' point' := by
  have hleads := (nextRole_leads point).goto h
  cases q with
  | role point' => exact ⟨point', rfl, hleads⟩
  | _ => exact hleads.elim

def CalendarPoint.carries : CalendarPoint → Bool
  | .deleteFree _ _ => true
  | .decideCaller _ => true
  | .decideGate _ _ => true
  | .approve _ _ _ => true
  | .cancelSlot _ _ _ _ => true
  | .save _ _ _ _ => true
  | _ => false

inductive CalendarGoto (s : Db) (w : World) : CalendarPoint → CalendarPoint → Prop
  | plain {point point' : CalendarPoint} (hplain : point'.carries = false) :
      CalendarGoto s w point point'
  | settled {slots : List AppointmentSlotId} :
      CalendarGoto s w (.sweepSettled slots) (.deleteFree slots (s.calendar.settledOf slots))
  | decide {job : DecisionJob} {role : Role} :
      CalendarGoto s w (.decideCaller job) (.decideGate job role)
  | accept {job : DecisionJob} {role : Role} {row : Appointment}
      {window : Timestamp × Timestamp}
      (hdecision : job.decision = .accept window.1 window.2)
      (hrow : s.calendar.appointment.lookup job.appointment = some row)
      (hrequester : row.requester = job.user) :
      CalendarGoto s w (.decideGate job role) (.approve job.appointment job.user (some window))
  | approve {job : DecisionJob} {role : Role} {slot : AppointmentSlotId} :
      CalendarGoto s w (.decideSlot job role slot) (.approve job.appointment job.user none)
  | reject {job : CasJob} {expected : Appointment} {reason : Option String} {left : ℕ}
      (hread : s.calendar.appointment.lookup job.appointment = some expected)
      (hpending : expected.status = .pending) :
      CalendarGoto s w (.decideRead job left)
        (.save job expected
          { expected with
            status := .rejected
            decidedBy := some job.user
            rejectReason := reason }
          left)
  | propose {job : CasJob} {expected : Appointment} {startsAt endsAt : Timestamp} {left : ℕ}
      (hread : s.calendar.appointment.lookup job.appointment = some expected)
      (hlive : expected.status.isLive = true) :
      CalendarGoto s w (.decideRead job left)
        (.save job expected
          { expected with
            status := .pending
            decidedBy := none
            proposedStartsAt := some startsAt
            proposedEndsAt := some endsAt
            proposedBy := some job.user }
          left)
  | cancel {job : CasJob} {expected : Appointment} {slot : AppointmentSlotId} {left : ℕ}
      (hread : s.calendar.appointment.lookup job.appointment = some expected)
      (hlive : expected.status.isLive = true) :
      CalendarGoto s w (.decideRead job left) (.cancelSlot job expected slot left)
  | cancelSlot {job : CasJob} {expected : Appointment} {slot : AppointmentSlotId} {left : ℕ} :
      CalendarGoto s w (.cancelSlot job expected slot left)
        (.save job expected
          { expected with
            status := .cancelled
            cancelledBy := some job.user
            cancelReason := job.cas.cancelReason }
          left)

theorem decideGate_leads (job : DecisionJob) (role : Role) :
    Leads (InCalendar (CalendarGoto s w (.decideGate job role)))
      (some (s, decideGate s job role)) := by
  unfold decideGate
  split
  · trivial
  · next row hrow =>
    cases hdecision : job.decision with
    | accept =>
        dsimp only
        split
        · next hrequester => exact .accept hdecision hrow hrequester
        · trivial
    | cancel =>
        dsimp only
        split
        · exact .plain rfl
        · trivial
    | decline =>
        dsimp only
        split
        · split
          · trivial
          · exact .plain rfl
        · trivial
    | _ =>
        dsimp only
        split
        · trivial
        · exact .plain rfl

theorem decideSlot_leads (job : DecisionJob) (role : Role) (slot : AppointmentSlotId) :
    Leads (InCalendar (CalendarGoto s w (.decideSlot job role slot)))
      (some (s, decideSlot s job role slot)) := by
  unfold decideSlot
  split
  · trivial
  · split
    · trivial
    · split
      · exact .plain rfl
      · split
        · trivial
        · exact .plain rfl
      · exact .approve

theorem decideRead_leads :
    Leads (InCalendar (CalendarGoto s w (.decideRead job left)))
      (some (s, decideRead s w job left)) := by
  unfold decideRead
  split
  · split
    · trivial
    · next expected hread =>
      obtain ⟨hrow, hpending⟩ := readPending_ok hread
      exact .reject hrow hpending
  · split
    · trivial
    · next expected hrow =>
      split
      · trivial
      · next hlive =>
        split
        · trivial
        · exact .cancel hrow (by simpa using hlive)
  · split
    · trivial
    · next expected hrow =>
      split
      · trivial
      · next hlive =>
        split
        · trivial
        · exact .propose hrow (by simpa using hlive)

theorem expand_plain
    {args : PublishArgs} {now : Timestamp} (h : args.expand now = .ok point) :
    point.carries = false := by
  unfold PublishArgs.expand at h
  simp only [bind, Except.bind, pure, Except.pure] at h
  split at h
  · cases h
  · split at h
    · split at h
      · cases h
      · split at h
        · cases h
        · split at h <;> cases h
          rfl
    · split at h <;> cases h
      rfl

theorem deleteGate_leads {caller : UserId} {slot : Option AppointmentSlot}
    {point' : CalendarPoint} (hplain : point'.carries = false) :
    Leads (InCalendar (CalendarGoto s w point)) (some (s, deleteGate s caller slot point')) := by
  unfold deleteGate
  split
  · trivial
  · split
    · trivial
    · split
      · exact .plain hplain
      · trivial

theorem nextCalendar_leads (point : CalendarPoint) :
    Leads (InCalendar (CalendarGoto s w point)) (nextCalendar id s w point) := by
  cases point with
  | publish =>
      simp only [nextCalendar, publish]
      split
      · trivial
      · split
        · trivial
        · next hpoint => exact .plain (expand_plain hpoint)
  | weekly =>
      simp only [nextCalendar, weekly]
      split
      · trivial
      · exact .plain rfl
  | insert =>
      simp only [nextCalendar, insertClaimed]
      split
      · split
        · trivial
        · split
          · trivial
          · split <;> trivial
      · trivial
  | deleteSlot | deleteSeries => exact deleteGate_leads rfl
  | listSeries =>
      simp only [nextCalendar, listSeries]
      split
      · trivial
      · exact .plain rfl
  | sweepSettled => exact .settled
  | deleteFree =>
      simp only [nextCalendar, deleteFree]
      split <;> trivial
  | bookCaller =>
      simp only [nextCalendar, bookCaller]
      split
      · trivial
      · split
        · exact .plain rfl
        · trivial
  | bookSlot =>
      simp only [nextCalendar, bookSlot]
      split
      · trivial
      · exact .plain rfl
  | bookTeacher =>
      simp only [nextCalendar, bookTeacher]
      split
      · exact .plain rfl
      · trivial
  | bookRead =>
      simp only [nextCalendar, bookRead]
      split
      · trivial
      · split
        · trivial
        · exact .plain rfl
  | bookConflicts =>
      simp only [nextCalendar, bookConflicts]
      split
      · trivial
      · exact .plain rfl
  | bookClaim =>
      simp only [nextCalendar, bookClaim]
      split
      · trivial
      · split
        · trivial
        · exact .plain rfl
        · trivial
  | bookReread =>
      simp only [nextCalendar, bookReread]
      split <;> trivial
  | decideCaller =>
      simp only [nextCalendar, decideCaller]
      split
      · trivial
      · split
        · split
          · exact .decide
          · trivial
        · split
          · exact .decide
          · trivial
        · split
          · split
            · trivial
            · exact .decide
          · trivial
        · exact .decide
        · exact .decide
        · exact .decide
  | decideGate job role => exact decideGate_leads job role
  | decideSlot job role slot => exact decideSlot_leads job role slot
  | approve =>
      simp only [nextCalendar, approve]
      split
      · trivial
      · split <;> trivial
  | decideRead => exact decideRead_leads
  | cancelSlot =>
      simp only [nextCalendar, cancelSlot]
      split
      · trivial
      · split
        · trivial
        · exact .cancelSlot
  | save =>
      simp only [nextCalendar, save]
      split
      · split
        · trivial
        · exact .plain rfl
      · split <;> trivial

theorem gated_leads {reply : Reply} (h : Leads InRoster (some (s, reply))) :
    Leads InRoster (some (s, gated w reply)) := by
  unfold gated
  split
  · trivial
  · exact h

theorem teacherOrNone_leads (teacher : Option UserId) (point : RosterPoint) :
    Leads InRoster (some (s, teacherOrNone s teacher point)) := by
  unfold teacherOrNone
  split <;> trivial

theorem granted_leads (grant : Grant) (teacher : Option UserId) :
    Leads InRoster (some (s, granted grant teacher)) := by
  cases teacher <;> trivial

theorem nextRoster_leads (point : RosterPoint) : Leads InRoster (nextRoster id s w point) := by
  cases point with
  | createCourse =>
      simp only [nextRoster, createCourse]
      split <;> trivial
  | createClass teacher => exact gated_leads (teacherOrNone_leads teacher _)
  | insertClass teacher =>
      simp only [nextRoster, insertClass]
      split
      · trivial
      · exact granted_leads _ teacher
  | homeroomRead =>
      simp only [nextRoster, homeroomRead]
      split
      · trivial
      · exact gated_leads trivial
  | homeroomTeacher classId teacher => exact teacherOrNone_leads teacher _
  | homeroomWrite classId teacher =>
      simp only [nextRoster, homeroomWrite]
      split
      · trivial
      · split
        · exact granted_leads _ teacher
        · trivial
  | assignGate =>
      simp only [nextRoster, assignGate]
      split
      · trivial
      · split
        · trivial
        · split <;> trivial
  | assignTarget =>
      simp only [nextRoster, assignTarget]
      split
      · trivial
      · split
        · exact gated_leads trivial
        · trivial
  | assign =>
      simp only [nextRoster, assign]
      split <;> trivial
  | recheck =>
      simp only [nextRoster, recheck]
      split <;> trivial
  | undoClasses =>
      simp only [nextRoster, undoClasses]
      split <;> trivial
  | undoInstances grant => cases grant <;> trivial
  | rollbackClass =>
      simp only [nextRoster, rollbackClass]
      split
      · split <;> trivial
      · trivial
  | unassign =>
      simp only [nextRoster, unassign]
      split
      · trivial
      · split <;> trivial
  | deleteClass =>
      simp only [nextRoster, deleteClass]
      split
      · trivial
      · split
        · split <;> trivial
        · trivial
  | deleteCourse =>
      simp only [nextRoster, deleteCourse]
      split
      · trivial
      · split <;> trivial
  | memberGate =>
      simp only [nextRoster, memberGate]
      split
      · trivial
      · refine gated_leads ?_
        split <;> trivial
  | addMember =>
      simp only [nextRoster, addMember]
      split
      · split
        · trivial
        · generalize Roster.addMember _ _ _ _ _ _ = r
          cases r.1 <;> trivial
      · trivial
  | dropMember =>
      simp only [nextRoster, dropMember]
      split
      · trivial
      · split
        · split <;> trivial
        · trivial
  | attachGate =>
      simp only [nextRoster, attachGate]
      split
      · trivial
      · split
        · trivial
        · exact gated_leads trivial
  | attachCourse =>
      simp only [nextRoster, attachCourse]
      split
      · split
        · trivial
        · split
          · trivial
          · next verdict _ _ => cases verdict <;> trivial
      · trivial
  | detachRead =>
      simp only [nextRoster, detachRead]
      split
      · split
        · exact gated_leads trivial
        · trivial
      · trivial
  | detachCourse =>
      simp only [nextRoster, detachCourse]
      split
      · split <;> trivial
      · trivial
  | enrollGate =>
      simp only [nextRoster, enrollGate]
      split
      · trivial
      · refine gated_leads ?_
        split <;> trivial
  | enrollRead =>
      simp only [nextRoster, enrollRead]
      split
      · trivial
      · split <;> trivial
  | disown => trivial
  | enrollTx =>
      simp only [nextRoster, enrollTx]
      split
      · split <;> trivial
      · trivial
  | enrollHeld =>
      simp only [nextRoster, enrollHeld]
      split <;> trivial
  | unenroll =>
      simp only [nextRoster, unenroll]
      split
      · trivial
      · split <;> trivial

/-- A call moves on within the workflow it started in. -/
theorem next_goto
    {q : Point} (h : next id s p w = some (s', .goto q)) :
    (∃ point point', p = .role point ∧ q = .role point' ∧ RoleGoto id s w point s' point') ∨
      (∃ point point', p = .calendar point ∧ q = .calendar point' ∧
        CalendarGoto s w point point') ∨
      ∃ point point', p = .roster point ∧ q = .roster point' := by
  cases p with
  | createUser =>
      simp only [next, createUser, Option.some.injEq] at h
      split at h <;> cases h
  | role point =>
      obtain ⟨point', rfl, hgoto⟩ := nextRole_goto h
      exact .inl ⟨point, point', rfl, rfl, hgoto⟩
  | calendar point =>
      have hleads := (nextCalendar_leads point).goto h
      cases q with
      | calendar point' => exact .inr (.inl ⟨point, point', rfl, rfl, hleads⟩)
      | _ => exact hleads.elim
  | roster point =>
      have hleads := (nextRoster_leads point).goto h
      cases q with
      | roster point' => exact .inr (.inr ⟨point, point', rfl, rfl⟩)
      | _ => exact hleads.elim

end Inversion

end Hezarfen.School
