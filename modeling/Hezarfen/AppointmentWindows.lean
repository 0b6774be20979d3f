import Hezarfen.AppointmentSeats

/-!
# The windows of the approved bookings

Approved bookings of one teacher or of one requester never overlap, and a booking
is approved for the slot's own window or for the window its requester accepted.
Only the approval transaction makes a row approved; it tests the row it writes
against every other approved row in one snapshot.
-/

namespace Hezarfen.School

open Interleaving

variable {row expected new : Appointment} {seat : SlotRow} {minted' : List Uuid} {q : Point}

/-! ## Windows -/

theorem Appointment.overlaps_comm (aStartsAt aEndsAt bStartsAt bEndsAt : Timestamp) :
    Appointment.overlaps aStartsAt aEndsAt bStartsAt bEndsAt =
      Appointment.overlaps bStartsAt bEndsAt aStartsAt aEndsAt := by
  unfold Appointment.overlaps
  rw [Bool.and_comm]

def Appointment.Paired (row : Appointment) : Prop :=
  row.proposedStartsAt.isSome = row.proposedEndsAt.isSome

theorem Appointment.Paired.window
    (h : row.Paired) (slot : AppointmentSlot) :
    row.window slot =
      (row.proposedStartsAt.getD slot.startsAt, row.proposedEndsAt.getD slot.endsAt) := by
  unfold Appointment.Paired at h
  unfold Appointment.window
  cases hstart : row.proposedStartsAt <;> cases hend : row.proposedEndsAt <;>
    simp_all

theorem Appointment.Paired.none_of_hasProposal
    (h : row.Paired) (hnone : row.hasProposal = false) :
    row.proposedStartsAt = none ∧ row.proposedEndsAt = none := by
  unfold Appointment.Paired at h
  unfold Appointment.hasProposal at hnone
  cases hstart : row.proposedStartsAt <;> cases hend : row.proposedEndsAt <;>
    simp_all

theorem Appointment.window_of_proposes
    {window : Timestamp × Timestamp} (h : row.proposes window = true) (slot : AppointmentSlot) :
    row.window slot = window := by
  simp only [Appointment.proposes, Bool.and_eq_true, decide_eq_true_eq] at h
  simp [Appointment.window, h.1, h.2]

def Clash (rowA : Appointment) (slotA : AppointmentSlot) (rowB : Appointment)
    (slotB : AppointmentSlot) : Prop :=
  (slotA.teacher = slotB.teacher ∨ rowA.requester = rowB.requester) ∧
    Appointment.overlaps (rowA.window slotA).1 (rowA.window slotA).2
      (rowB.window slotB).1 (rowB.window slotB).2 = true

theorem Clash.symm
    {rowA rowB : Appointment} {slotA slotB : AppointmentSlot}
    (h : Clash rowA slotA rowB slotB) : Clash rowB slotB rowA slotA := by
  refine ⟨h.1.imp Eq.symm Eq.symm, ?_⟩
  rw [Appointment.overlaps_comm]
  exact h.2

namespace Calendar

variable {cal cal' : Calendar} {minted : List Uuid}

structure Agreed (cal : Calendar) : Prop where
  paired : ∀ id row, cal.appointment.lookup id = some row → row.Paired
  apart : ∀ a b rowA rowB seatA seatB, a ≠ b →
    cal.appointment.lookup a = some rowA → rowA.status = .approved →
    cal.appointment.lookup b = some rowB → rowB.status = .approved →
    cal.slotOf rowA = some seatA → cal.slotOf rowB = some seatB →
    ¬ Clash rowA seatA.slot rowB seatB.slot

theorem agreed_empty : Calendar.empty.Agreed := by
  constructor
  · intro id row hrow
    simp [Calendar.empty] at hrow
  · intro a b rowA rowB seatA seatB _ hA
    simp [Calendar.empty] at hA

def Kept (cal cal' : Calendar) : Prop :=
  ∀ id row', cal'.appointment.lookup id = some row' → row'.status = .approved →
    ∃ row, cal.appointment.lookup id = some row ∧ row.status = .approved ∧
      row'.requester = row.requester ∧ row'.proposedStartsAt = row.proposedStartsAt ∧
      row'.proposedEndsAt = row.proposedEndsAt ∧ (row'.slot = row.slot ∨ row'.slot = none)

theorem slotOf_eq_some :
    cal.slotOf row = some seat ↔
      ∃ slot, row.slot = some slot ∧ cal.slot.lookup slot = some seat := by
  simp [slotOf, Option.bind_eq_some_iff]

/-- The slot a booking still has is the one it had. -/
theorem Evolves.slotOf
    (hs : cal.Sound minted) (hevolves : cal.Evolves cal' minted) {id : AppointmentId}
    {row' : Appointment} (hrow : cal.appointment.lookup id = some row)
    (hslot : row'.slot = row.slot ∨ row'.slot = none) {seat' : SlotRow}
    (hseat' : cal'.slotOf row' = some seat') :
    ∃ seat, cal.slotOf row = some seat ∧ seat'.slot = seat.slot := by
  obtain ⟨slot, hon, hlookup⟩ := slotOf_eq_some.mp hseat'
  have hsame : row.slot = some slot := by
    rcases hslot with hsame | hnone
    · rw [← hsame, hon]
    · rw [hnone] at hon
      cases hon
  obtain ⟨old, hold⟩ := hs.owned id row slot hrow hsame
  obtain ⟨seat, hseat, hkept⟩ := hevolves.slots slot seat' (hs.slots slot old hold) hlookup
  exact ⟨seat, slotOf_eq_some.mpr ⟨slot, hsame, hseat⟩, hkept⟩

theorem Agreed.kept
    (ha : cal.Agreed) (hs : cal.Sound minted) (hevolves : cal.Evolves cal' minted)
    (hkept : cal.Kept cal')
    (hpaired : ∀ id row', cal'.appointment.lookup id = some row' → row'.Paired) :
    cal'.Agreed := by
  refine ⟨hpaired, ?_⟩
  intro a b rowA' rowB' seatA' seatB' hne hA' happA' hB' happB' hseatA' hseatB' hclash
  obtain ⟨rowA, hA, happA, hreqA, hstartA, hendA, hslotA⟩ := hkept a rowA' hA' happA'
  obtain ⟨rowB, hB, happB, hreqB, hstartB, hendB, hslotB⟩ := hkept b rowB' hB' happB'
  obtain ⟨seatA, hseatA, hsameA⟩ := hevolves.slotOf hs hA hslotA hseatA'
  obtain ⟨seatB, hseatB, hsameB⟩ := hevolves.slotOf hs hB hslotB hseatB'
  have hwindowA : rowA'.window seatA'.slot = rowA.window seatA.slot := by
    simp only [Appointment.window, hstartA, hendA, hsameA]
  have hwindowB : rowB'.window seatB'.slot = rowB.window seatB.slot := by
    simp only [Appointment.window, hstartB, hendB, hsameB]
  apply ha.apart a b rowA rowB seatA seatB hne hA happA hB happB hseatA hseatB
  unfold Clash at hclash ⊢
  rwa [hwindowA, hwindowB, hsameA, hsameB, hreqA, hreqB] at hclash

/-! ## Approving -/

/-- The overlap probe finds every approved booking that clashes with the window it is
asked for. -/
theorem conflictsOn_of_clash
    {id other : AppointmentId} {rowB : Appointment} {slot seatB : SlotRow} (hne : id ≠ other)
    (hB : cal.appointment.lookup other = some rowB) (happB : rowB.status = .approved)
    (hpaired : rowB.Paired) (hseatB : cal.slotOf rowB = some seatB)
    (hclash : Clash row slot.slot rowB seatB.slot) :
    cal.conflictsOn slot.slot.teacher row.requester (row.window slot.slot).1
      (row.window slot.slot).2 (some id) = true := by
  rw [conflictsOn, Table.any_iff]
  refine ⟨other, rowB, hB, ?_⟩
  have hoverlap := hclash.2
  rw [hpaired.window] at hoverlap
  have hshare : (decide (rowB.requester = row.requester) ||
      decide (seatB.slot.teacher = slot.slot.teacher)) = true := by
    simp only [Bool.or_eq_true, decide_eq_true_eq]
    exact hclash.1.symm.imp Eq.symm Eq.symm
  simp [happB, hne, hseatB, hshare, hoverlap]

/-- What an approvable booking satisfied in the snapshot. -/
theorem approvable_ok
    {now : Timestamp} {id : AppointmentId} {accepting : Option (Timestamp × Timestamp)}
    (h : cal.approvable now id expected accepting = .ok seat) :
    cal.slotOf expected = some seat ∧
      cal.conflictsOn seat.slot.teacher expected.requester (expected.window seat.slot).1
        (expected.window seat.slot).2 (some id) = false ∧
      (match accepting with
        | none => expected.hasProposal = false
        | some window => expected.proposes window = true) := by
  unfold approvable at h
  split at h
  · cases h
  · next haccepting =>
    split at h
    · cases h
    · next seat' hseat =>
      simp only at h
      split at h
      · cases h
      · split at h
        · cases h
        · next hfree =>
          cases h
          refine ⟨hseat, by simpa using hfree, ?_⟩
          unfold checkAccepting at haccepting
          cases accepting with
          | none =>
              simp only at haccepting ⊢
              split at haccepting
              · cases haccepting
              · next hnone => simpa using hnone
          | some =>
              simp only at haccepting ⊢
              split at haccepting
              · cases haccepting
              · split at haccepting
                · cases haccepting
                · next hsome => simpa using hsome

theorem decided_slot_of_live
    (hlive : new.status.isLive = true) :
    (cal.decided expected new row).slot = cal.slot := by
  simp [decided, hlive]

theorem Agreed.approved
    (ha : cal.Agreed) (hs : cal.Sound minted) {now : Timestamp} {id : AppointmentId} {user : UserId}
    {accepting : Option (Timestamp × Timestamp)} (hread : cal.appointment.lookup id = some expected)
    (happrove : cal.approvable now id expected accepting = .ok seat) :
    (cal.decided expected { expected with status := .approved, decidedBy := some user }
      expected).Agreed := by
  obtain ⟨hseat, hfree, -⟩ := approvable_ok happrove
  have hid : expected.id = id := (hs.bookings id expected hread).1
  -- Against the approved row, every other approved row was tested by the probe.
  have hnew : ∀ b rowB seatB, id ≠ b → cal.appointment.lookup b = some rowB →
      rowB.status = .approved → cal.slotOf rowB = some seatB →
      ¬ Clash expected seat.slot rowB seatB.slot := by
    intro b rowB seatB hne hB happB hseatB hclash
    have hconflict :=
      conflictsOn_of_clash hne hB happB (ha.paired b rowB hB) hseatB hclash
    rw [hfree] at hconflict
    cases hconflict
  have hlookup : ∀ {b row'}, (cal.decided expected
      { expected with status := .approved, decidedBy := some user }
      expected).appointment.lookup b = some row' →
      (b = id ∧ row' = { expected with status := .approved, decidedBy := some user }) ∨
        (b ≠ id ∧ cal.appointment.lookup b = some row') := by
    intro b row' hrow'
    rw [decided, lookup_insert_eq] at hrow'
    split at hrow'
    · next hkey =>
      cases hrow'
      exact .inl ⟨hkey.trans hid, rfl⟩
    · next hkey => exact .inr ⟨fun h => hkey (h.trans hid.symm), hrow'⟩
  have hslots : ∀ row, (cal.decided expected
      { expected with status := .approved, decidedBy := some user } expected).slotOf row =
      cal.slotOf row := by
    intro row
    unfold slotOf
    rw [decided_slot_of_live rfl]
  constructor
  · intro b row' hrow'
    rcases hlookup hrow' with ⟨-, rfl⟩ | ⟨-, hold⟩
    · exact ha.paired id expected hread
    · exact ha.paired b row' hold
  · intro a b rowA rowB seatA seatB hne hA happA hB happB hseatA hseatB
    rw [hslots] at hseatA hseatB
    rcases hlookup hA with ⟨rfl, rfl⟩ | ⟨hneA, hA⟩
    · have hsameA : seat = seatA := Option.some.inj (hseat.symm.trans hseatA)
      subst hsameA
      rcases hlookup hB with ⟨rfl, -⟩ | ⟨-, hB⟩
      · exact absurd rfl hne
      · exact hnew b rowB seatB hne hB happB hseatB
    · rcases hlookup hB with ⟨rfl, rfl⟩ | ⟨-, hB⟩
      · have hsameB : seat = seatB := Option.some.inj (hseat.symm.trans hseatB)
        subst hsameB
        exact fun hclash => hnew a rowA seatA hneA.symm hA happA hseatA hclash.symm
      · exact ha.apart a b rowA rowB seatA seatB hne hA happA hB happB hseatA hseatB

theorem Kept.of_same (h : cal'.appointment = cal.appointment) : cal.Kept cal' := by
  intro id row' hrow' happ
  rw [h] at hrow'
  exact ⟨row', hrow', happ, rfl, rfl, rfl, .inl rfl⟩

theorem Kept.inserted
    {slots : Table AppointmentSlotId SlotRow} {id : AppointmentId} (hnew : new.status ≠ .approved) :
    cal.Kept ⟨slots, cal.appointment.insert id new⟩ := by
  intro other row' hrow' happ
  obtain ⟨-, rfl⟩ | ⟨-, hrow'⟩ := insert_cases hrow'
  · exact absurd happ hnew
  · exact ⟨row', hrow', happ, rfl, rfl, rfl, .inl rfl⟩

theorem Kept.deleteSlots {p : AppointmentSlotId → SlotRow → Bool} :
    cal.Kept (cal.deleteSlots p) := by
  intro id row' hrow' happ
  obtain ⟨row, hrow, ⟨rfl, -⟩ | ⟨rfl, -⟩⟩ := lookup_deleteSlots_booking hrow'
  · exact ⟨_, hrow, happ, rfl, rfl, rfl, .inl rfl⟩
  · exact ⟨row, hrow, happ, rfl, rfl, rfl, .inr rfl⟩

theorem Kept.trans {cal'' : Calendar} (h : cal.Kept cal') (h' : cal'.Kept cal'') :
    cal.Kept cal'' := by
  intro id row'' hrow'' happ
  obtain ⟨row', hrow', happ', hreq', hstart', hend', hslot'⟩ := h' id row'' hrow'' happ
  obtain ⟨row, hrow, happ, hreq, hstart, hend, hslot⟩ := h id row' hrow' happ'
  refine ⟨row, hrow, happ, hreq'.trans hreq, hstart'.trans hstart, hend'.trans hend, ?_⟩
  rcases hslot' with hsame | hnone
  · rw [hsame]
    exact hslot
  · exact .inr hnone

theorem Kept.deletedFree
    {slots : List AppointmentSlotId} {settled : List AppointmentId}
    (h : cal.deleteFree slots settled = (.ok (), cal')) : cal.Kept cal' := by
  have hbookings : cal.Kept (cal.deleteBookings settled) := by
    intro id row hrow happ
    exact ⟨row, (lookup_deleteBookings.mp hrow).1, happ, rfl, rfl, rfl, .inl rfl⟩
  rw [deleteFree_eq h]
  exact hbookings.trans .deleteSlots

theorem Kept.withdraw (teacher : UserId) (cancelled : List AppointmentId) :
    cal.Kept (cal.withdraw teacher cancelled) := by
  refine Kept.trans ?_ .deleteSlots
  intro id row' hrow' happ
  simp only [lookup_update, Option.map_eq_some_iff] at hrow'
  obtain ⟨row, hrow, rfl⟩ := hrow'
  split at happ
  · cases happ
  · next hkept =>
    rw [if_neg hkept]
    exact ⟨row, hrow, happ, rfl, rfl, rfl, .inl rfl⟩

/-! ## What a decision in flight is about to write -/

/-- The row a call will write is paired and not approved, and an acceptance is made by the
requester. -/
def Intends (cal : Calendar) (minted : List Uuid) : Point → Prop
  | .calendar (.cancelSlot _ expected _ _) => expected.Paired
  | .calendar (.save _ _ new _) => new.Paired ∧ new.status ≠ .approved
  | .calendar (.approve appointment user (some _)) =>
      appointment.uuid ∈ minted ∧
        ∀ row, cal.appointment.lookup appointment = some row → row.requester = user
  | _ => True

theorem Intends.evolves
    {p : Point} (h : cal.Intends minted p) (hevolves : cal.Evolves cal' minted)
    (hminted : minted ⊆ minted') :
    cal'.Intends minted' p := by
  cases p with
  | calendar point =>
      cases point with
      | cancelSlot | save => exact h
      | approve appointment user accepting =>
          cases accepting with
          | none => trivial
          | some =>
              refine ⟨hminted h.1, ?_⟩
              intro row' hrow'
              obtain ⟨row, hrow, hrequester, -⟩ := hevolves.bookings _ row' h.1 hrow'
              rw [hrequester]
              exact h.2 row hrow
      | _ => trivial
  | _ => trivial

end Calendar

section Steps

variable {id : ℕ} {s s' : Db} {w : World} {n : Reply} {p : Point}

theorem Calendar.Intends.goto
    (hs : s.calendar.Sound s.minted) (ha : s.calendar.Agreed)
    (hintends : s.calendar.Intends s.minted p) (h : next id s p w = some (s', .goto q)) :
    s.calendar.Intends s.minted q := by
  obtain ⟨point, point', rfl, rfl, hgoto⟩ | ⟨point, point', rfl, rfl, hgoto⟩ |
    ⟨point, point', rfl, rfl⟩ := next_goto h
  · trivial
  · cases hgoto with
    | plain => cases point' <;> trivial
    | settled | decide | approve => trivial
    | accept hdecision hrow hrequester =>
        refine ⟨(hs.bookings _ _ hrow).2, ?_⟩
        intro row hrow'
        rw [hrow] at hrow'
        cases hrow'
        exact hrequester
    | reject hread =>
        have hpaired := ha.paired _ _ hread
        exact ⟨hpaired, fun happ => AppointmentStatus.noConfusion happ⟩
    | propose => exact ⟨rfl, fun happ => AppointmentStatus.noConfusion happ⟩
    | cancel hread => exact ha.paired _ _ hread
    | cancelSlot => exact ⟨hintends, fun happ => AppointmentStatus.noConfusion happ⟩
  · trivial

/-- What the approval transaction committed. -/
structure Approval (s : Db) (w : World) (p : Point) (cal' : Calendar) (id : AppointmentId)
    (user : UserId) (accepting : Option (Timestamp × Timestamp)) (expected : Appointment)
    (seat : SlotRow) : Prop where
  point : p = .calendar (.approve id user accepting)
  read : s.calendar.appointment.lookup id = some expected
  pending : expected.status = .pending
  approvable : s.calendar.approvable w.now id expected accepting = .ok seat
  written : cal' = s.calendar.decided expected
    { expected with status := .approved, decidedBy := some user } expected

/-- A step approves nothing or is one approval. -/
theorem kept_or_approval
    (hs : s.calendar.Sound s.minted) (hintends : s.calendar.Intends s.minted p) {cal' : Calendar}
    (h : CalendarWrote id s w p cal' minted') :
    s.calendar.Kept cal' ∨
      ∃ id user accepting expected seat, Approval s w p cal' id user accepting expected seat := by
  cases h with
  | quiet | published => exact .inl (.of_same rfl)
  | booked => exact .inl (.inserted fun happ => AppointmentStatus.noConfusion happ)
  | @approved appointment user accepting expected row seat hread hpending happrove hrow =>
      have hid := (hs.bookings _ _ hread).1
      have hsame : row = expected := by
        rw [hid, hread] at hrow
        exact (Option.some.inj hrow).symm
      subst hsame
      exact .inr ⟨appointment, user, accepting, row, seat, rfl, hread, hpending, happrove, rfl⟩
  | saved =>
      exact .inl (.inserted hintends.2)
  | deleted hdelete => exact .inl (.deletedFree hdelete)
  | withdrawn => exact .inl (.withdraw _ _)

theorem paired_wrote
    (ha : s.calendar.Agreed) (hintends : s.calendar.Intends s.minted p) {cal' : Calendar}
    (h : CalendarWrote id s w p cal' minted') :
    ∀ id row', cal'.appointment.lookup id = some row' → row'.Paired := by
  intro key row' hrow'
  cases h with
  | quiet | published => exact ha.paired key row' hrow'
  | booked =>
      obtain ⟨-, rfl⟩ | ⟨-, hrow'⟩ := insert_cases hrow'
      · rfl
      · exact ha.paired key row' hrow'
  | approved hread =>
      rw [Calendar.decided, lookup_insert_eq] at hrow'
      split at hrow'
      · cases hrow'
        have hpaired := ha.paired _ _ hread
        exact hpaired
      · exact ha.paired key row' hrow'
  | saved =>
      rw [Calendar.decided, lookup_insert_eq] at hrow'
      split at hrow'
      · cases hrow'
        exact hintends.1
      · exact ha.paired key row' hrow'
  | deleted hdelete =>
      rw [Calendar.deleteFree_eq hdelete] at hrow'
      obtain ⟨row, hrow, ⟨rfl, -⟩ | ⟨rfl, -⟩⟩ := Calendar.lookup_deleteSlots_booking hrow'
      · exact ha.paired key _ (Calendar.lookup_deleteBookings.mp hrow).1
      · exact ha.paired key row (Calendar.lookup_deleteBookings.mp hrow).1
  | withdrawn =>
      obtain ⟨mid, hmid, hslots⟩ := Calendar.lookup_deleteSlots_booking hrow'
      simp only [lookup_update, Option.map_eq_some_iff] at hmid
      obtain ⟨row, hrow, rfl⟩ := hmid
      have hpaired := ha.paired key row hrow
      obtain ⟨rfl, -⟩ | ⟨rfl, -⟩ := hslots
      · split <;> exact hpaired
      · split <;> exact hpaired

theorem Calendar.Agreed.wrote
    (ha : s.calendar.Agreed) (hs : s.calendar.Sound s.minted)
    (hintends : s.calendar.Intends s.minted p) {cal' : Calendar}
    (hevolves : s.calendar.Evolves cal' s.minted) (h : CalendarWrote id s w p cal' minted') :
    cal'.Agreed := by
  rcases kept_or_approval hs hintends h with
    hkept | ⟨appointment, user, accepting, expected, seat, happroval⟩
  · exact ha.kept hs hevolves hkept (paired_wrote ha hintends h)
  · rw [happroval.written]
    exact ha.approved hs happroval.read happroval.approvable

end Steps

theorem windows_relyGuarantee :
    machine.RelyGuarantee
      (fun c _ => c.Holds (fun s => s.calendar.Sound s.minted)
        (fun _ p s => s.calendar.Knows s.minted p))
      (fun s => s.calendar.Agreed) (fun _ p s => s.calendar.Intends s.minted p) where
  entry := by
    intro id request s hs
    cases request <;> trivial
  own := by
    intro c id w p s n hc hseats hp hnext
    have hwrote := next_calendarWrote hnext
    have hevolves := (hseats.shared.wrote (hseats.calls id p hp) hwrote).2
    refine ⟨hc.shared.wrote hseats.shared (hc.calls id p hp) hevolves hwrote, ?_⟩
    rintro q rfl
    have hintends := (hc.calls id p hp).goto hseats.shared hc.shared hnext
    exact hintends.evolves hevolves (next_minted hnext)
  others := by
    intro c id w p s n hc hseats hp hnext id' q _ hq
    have hwrote := next_calendarWrote hnext
    have hevolves := (hseats.shared.wrote (hseats.calls id p hp) hwrote).2
    exact (hc.calls id' q hq).evolves hevolves (next_minted hnext)
  rollback := fun hc _ => ⟨hc.shared, fun id' q _ hq => hc.calls id' q hq⟩

/-- Both invariants after every run. -/
theorem windows_run
    {users : Table UserId Role} {ms : List (Move Request World)} {c : Config Db Point}
    (hrun : machine.run (start users) ms = some c) :
    c.Holds (fun s => s.calendar.Sound s.minted) (fun _ p s => s.calendar.Knows s.minted p) ∧
      c.Holds (fun s => s.calendar.Agreed) (fun _ p s => s.calendar.Intends s.minted p) := by
  have hseats := seats_relyGuarantee.holds_run (seats_start users)
    (Machine.guarded_true _ ms) hrun
  have hguard := Machine.Guarded.invariant
    (fun hc hg hstep => seats_relyGuarantee.holds_step hc hg hstep)
    (seats_start users) (Machine.guarded_true _ ms)
  exact ⟨hseats, windows_relyGuarantee.holds_run
    (Config.initial_holds _ Calendar.agreed_empty) hguard hrun⟩

/-! ## Every live booking has its slot while no role changes -/

def Request.isSetRole : Request → Bool
  | .setRole _ _ _ => true
  | _ => false

def noRoleChange (_ : Config Db Point) : Move Request World → Prop
  | .start request => request.isSetRole = false
  | _ => True

instance : ∀ c m, Decidable (noRoleChange c m)
  | _, .start request => inferInstanceAs (Decidable (request.isSetRole = false))
  | _, .advance _ _ => isTrue trivial
  | _, .abandon _ => isTrue trivial

def Point.isRole : Point → Bool
  | .role _ => true
  | _ => false

def Calendar.Housed (cal : Calendar) : Prop :=
  ∀ id row, cal.appointment.lookup id = some row → row.status.isLive = true →
    ∃ seat, cal.slotOf row = some seat

section Steps

variable {id : ℕ} {s s' : Db} {w : World} {p : Point}

theorem Calendar.Housed.kept
    {cal cal' : Calendar} (hh : cal.Housed)
    (hslots : ∀ slot seat, cal.slot.lookup slot = some seat →
      ∃ seat', cal'.slot.lookup slot = some seat')
    (hbookings : ∀ id row', cal'.appointment.lookup id = some row' →
      row'.status.isLive = true →
        (∃ seat, cal'.slotOf row' = some seat) ∨
          ∃ row, cal.appointment.lookup id = some row ∧ row.status.isLive = true ∧
            row'.slot = row.slot) :
    cal'.Housed := by
  intro id row' hrow' hlive'
  rcases hbookings id row' hrow' hlive' with hhoused | ⟨row, hrow, hlive, hsame⟩
  · exact hhoused
  · obtain ⟨seat, hseat⟩ := hh id row hrow hlive
    obtain ⟨slot, hslot, hlookup⟩ := Calendar.slotOf_eq_some.mp hseat
    obtain ⟨seat', hseat'⟩ := hslots slot seat hlookup
    exact ⟨seat', Calendar.slotOf_eq_some.mpr ⟨slot, hsame.trans hslot, hseat'⟩⟩

theorem Calendar.Housed.decided
    {cal : Calendar} (hh : cal.Housed) (hrow : cal.appointment.lookup new.id = some row)
    (hlive : row.status.isLive = true) :
    (cal.decided expected new row).Housed := by
  apply hh.kept
  · intro slot seat hseat
    exact Calendar.lookup_decided_slot_isSome hseat
  · intro key row' hrow' hlive'
    rw [Calendar.decided, lookup_insert_eq] at hrow'
    split at hrow'
    · next hkey =>
      cases hrow'
      subst hkey
      exact .inr ⟨row, hrow, hlive, rfl⟩
    · exact .inr ⟨row', hrow', hlive', rfl⟩

theorem Calendar.Housed.deletedFree
    {cal cal' : Calendar} {minted : List Uuid} (hh : cal.Housed) (hs : cal.Sound minted)
    {slots : List AppointmentSlotId} {settled : List AppointmentId}
    (h : cal.deleteFree slots settled = (.ok (), cal')) : cal'.Housed := by
  rw [Calendar.deleteFree_eq h]
  intro id row' hrow' hlive'
  obtain ⟨row, hrow, hslots⟩ := Calendar.lookup_deleteSlots_booking hrow'
  have hlive : row.status.isLive = true := by
    rcases hslots with ⟨rfl, -⟩ | ⟨rfl, -⟩ <;> exact hlive'
  have hold := (Calendar.lookup_deleteBookings.mp hrow).1
  obtain ⟨seat, hseat⟩ := hh id row hold hlive
  obtain ⟨slot, hslot, hlookup⟩ := Calendar.slotOf_eq_some.mp hseat
  have hkept : (decide (slot ∈ slots) && decide (seat.occupied < 1)) = false := by
    by_contra hfree
    simp only [Bool.not_eq_false, Bool.and_eq_true, decide_eq_true_eq] at hfree
    have hdead := hs.not_live hlookup hfree.2 hold hslot
    rw [hlive] at hdead
    cases hdead
  have hstands : ((cal.deleteBookings settled).deleteSlots fun id row =>
      decide (id ∈ slots) && decide (row.occupied < 1)).slot.lookup slot = some seat :=
    Calendar.lookup_deleteSlots_slot.mpr ⟨hlookup, hkept⟩
  rcases hslots with ⟨rfl, -⟩ | ⟨-, hgone⟩
  · exact ⟨seat, Calendar.slotOf_eq_some.mpr ⟨slot, hslot, hstands⟩⟩
  · rw [hgone slot hslot] at hstands
    cases hstands

theorem Calendar.Housed.wrote
    (hh : s.calendar.Housed) (hs : s.calendar.Sound s.minted) (hknows : s.calendar.Knows s.minted p)
    (hsweep : ∀ job floor sweep, p = .role (.commit job floor (some sweep)) →
      (s.calendar.withdraw job.target sweep.cancelled).Housed) {cal' : Calendar}
    (h : CalendarWrote id s w p cal' minted') :
    cal'.Housed := by
  cases h with
  | quiet => exact hh
  | published hfree hrole hnodup hfresh hinsert =>
      apply hh.kept
      · intro slot seat hseat
        rcases Calendar.insertSlots_lookup hinsert slot with hsame | ⟨_, -, -, hnew⟩
        · exact ⟨seat, hsame.trans hseat⟩
        · exact ⟨_, hnew⟩
      · exact fun key row hrow hlive => .inr ⟨row, hrow, hlive, rfl⟩
  | @booked args seat hfresh hseat hfree =>
      apply hh.kept
      · intro slot seat' hseat'
        rw [lookup_insert_eq]
        split
        · exact ⟨_, rfl⟩
        · exact ⟨seat', hseat'⟩
      · intro key row' hrow' hlive'
        obtain ⟨-, rfl⟩ | ⟨-, hrow'⟩ := insert_cases hrow'
        · refine .inl ⟨{ seat with occupied := seat.occupied + 1 }, ?_⟩
          exact Calendar.slotOf_eq_some.mpr ⟨args.slot, rfl, by simp⟩
        · exact .inr ⟨row', hrow', hlive', rfl⟩
  | approved hread hpending happrove hrow hunchanged =>
      exact hh.decided hrow (by rw [hunchanged.1, hpending]; rfl)
  | saved hrow hunchanged => exact hh.decided hrow (by rw [hunchanged.1, hknows.2.1])
  | deleted hdelete => exact hh.deletedFree hs hdelete
  | withdrawn => exact hsweep _ _ _ rfl

end Steps

structure Unswept (c : Config Db Point) : Prop where
  calls : ∀ id p, c.calls.lookup id = some p → p.isRole = false
  housed : c.shared.calendar.Housed

theorem isRole_goto
    {id : ℕ} {s s' : Db} {w : World} {p : Point} (hp : p.isRole = false)
    (h : next id s p w = some (s', .goto q)) : q.isRole = false := by
  obtain ⟨point, point', rfl, rfl, -⟩ | ⟨point, point', rfl, rfl, -⟩ |
    ⟨point, point', rfl, rfl⟩ := next_goto h
  · cases hp
  · rfl
  · rfl

theorem unswept_step
    {c c' : Config Db Point} {m : Move Request World} (hc : Unswept c)
    (hrole : noRoleChange c m)
    (hseats : c.Holds (fun s => s.calendar.Sound s.minted)
      (fun _ p s => s.calendar.Knows s.minted p))
    (hstep : machine.step c m = some c') : Unswept c' := by
  obtain ⟨request, rfl, rfl⟩ | ⟨id, w, p, s, n, rfl, hp, hnext, rfl⟩ | ⟨id, p, rfl, hp, rfl⟩ :=
    Machine.step_cases hstep
  · refine ⟨?_, hc.housed⟩
    intro id p hp
    obtain ⟨-, rfl⟩ | ⟨-, hp⟩ := insert_cases hp
    · cases request with
      | setRole => cases hrole
      | _ => rfl
    · exact hc.calls id p hp
  · constructor
    · intro id' q hq
      rcases Config.lookup_after hq with ⟨-, hold⟩ | ⟨-, rfl⟩
      · exact hc.calls id' q hold
      · exact isRole_goto (hc.calls id p hp) hnext
    · have hshared : (c.after id s n).shared = s := by cases n <;> rfl
      rw [hshared]
      apply hc.housed.wrote hseats.shared (hseats.calls id p hp) _ (next_calendarWrote hnext)
      rintro job floor sweep rfl
      exact absurd (hc.calls id _ hp) (by simp [Point.isRole])
  · refine ⟨?_, hc.housed⟩
    intro id' q hq
    obtain ⟨-, hq⟩ := erase_cases hq
    exact hc.calls id' q hq

theorem unswept_start (users : Table UserId Role) : Unswept (start users) := by
  constructor
  · intro id p hp
    simp [start, Config.initial] at hp
  · intro id row hrow
    simp [start, Config.initial, Db.ofUsers, Calendar.empty] at hrow

/-- While no role changes, two approved bookings have slots that exist and clash neither in
their teacher nor in their requester. -/
theorem approved_apart
    {users : Table UserId Role} {ms : List (Move Request World)} {c : Config Db Point}
    (hguard : machine.Guarded noRoleChange (start users) ms)
    (hrun : machine.run (start users) ms = some c) {a b : AppointmentId}
    {rowA rowB : Appointment} (hne : a ≠ b)
    (hA : c.shared.calendar.appointment.lookup a = some rowA) (happA : rowA.status = .approved)
    (hB : c.shared.calendar.appointment.lookup b = some rowB)
    (happB : rowB.status = .approved) :
    ∃ seatA seatB, c.shared.calendar.slotOf rowA = some seatA ∧
      c.shared.calendar.slotOf rowB = some seatB ∧
      ((seatA.slot.teacher = seatB.slot.teacher ∨ rowA.requester = rowB.requester) →
        Appointment.overlaps (rowA.window seatA.slot).1 (rowA.window seatA.slot).2
          (rowB.window seatB.slot).1 (rowB.window seatB.slot).2 = false) := by
  have hseats := Machine.Guarded.invariant
    (fun hc hg hstep => seats_relyGuarantee.holds_step hc hg hstep)
    (seats_start users) (Machine.guarded_true _ ms)
  have hunswept : Unswept c :=
    Machine.run_induction (fun hc hg hstep => unswept_step hc hg.1 hg.2 hstep)
      (unswept_start users) (hguard.and hseats) hrun
  obtain ⟨seatA, hseatA⟩ := hunswept.housed a rowA hA (by rw [happA]; rfl)
  obtain ⟨seatB, hseatB⟩ := hunswept.housed b rowB hB (by rw [happB]; rfl)
  have hagreed := (windows_run hrun).2.shared
  refine ⟨seatA, seatB, hseatA, hseatB, ?_⟩
  intro hshare
  by_contra hoverlap
  rw [Bool.not_eq_false] at hoverlap
  exact hagreed.apart a b rowA rowB seatA seatB hne hA happA hB happB hseatA hseatB
    ⟨hshare, hoverlap⟩

section Runs

open Sample

def twoLessons : List (Move Request World) :=
  [offer, tick 0, tick 0, .start (.publish ⟨ayse, 2000, 3000, none, false, none⟩)] ++
    List.replicate 2 (tickWith secondUuid 1) ++ [bookOffer] ++
    List.replicate 6 (tickWith thirdUuid 2) ++
    [.start (.book ⟨⟨secondUuid⟩, ali, "homework"⟩)] ++
    List.replicate 6 (tickWith fourthUuid 3) ++
    [.start (.decide ⟨.approve, ⟨thirdUuid⟩, ayse⟩)] ++ List.replicate 4 (tick 4) ++
    [.start (.decide ⟨.approve, ⟨fourthUuid⟩, ayse⟩)] ++ List.replicate 4 (tick 5)

theorem approved_apart_twoLessons :
    ∃ c rowA rowB seatA seatB, machine.run (start accounts) twoLessons = some c ∧
      c.shared.calendar.appointment.lookup ⟨thirdUuid⟩ = some rowA ∧
      c.shared.calendar.appointment.lookup ⟨fourthUuid⟩ = some rowB ∧
      c.shared.calendar.slotOf rowA = some seatA ∧ c.shared.calendar.slotOf rowB = some seatB ∧
      ((seatA.slot.teacher = seatB.slot.teacher ∨ rowA.requester = rowB.requester) →
        Appointment.overlaps (rowA.window seatA.slot).1 (rowA.window seatA.slot).2
          (rowB.window seatB.slot).1 (rowB.window seatB.slot).2 = false) := by
  have hguard : machine.Guarded noRoleChange (start accounts) twoLessons := by decide
  have hend : (machine.run (start accounts) twoLessons).any (fun c =>
      (c.shared.calendar.appointment.lookup ⟨thirdUuid⟩).any (fun row =>
        row.status = .approved) &&
      (c.shared.calendar.appointment.lookup ⟨fourthUuid⟩).any fun row =>
        row.status = .approved) = true := by decide
  obtain ⟨c, hrun, hrows⟩ := (Option.any_eq_true _ _).mp hend
  rw [Bool.and_eq_true] at hrows
  obtain ⟨rowA, hA, happA⟩ := (Option.any_eq_true _ _).mp hrows.1
  obtain ⟨rowB, hB, happB⟩ := (Option.any_eq_true _ _).mp hrows.2
  obtain ⟨seatA, seatB, hseatA, hseatB, hapart⟩ := approved_apart hguard hrun
    (by decide : (⟨thirdUuid⟩ : AppointmentId) ≠ ⟨fourthUuid⟩) hA (of_decide_eq_true happA) hB
    (of_decide_eq_true happB)
  exact ⟨c, rowA, rowB, seatA, seatB, hrun, hA, hB, hseatA, hseatB, hapart⟩

end Runs

/-! ## What the requester agreed to -/

def Answers (request : Request) : Point → Prop
  | .calendar (.decideCaller job) => request = .decide job
  | .calendar (.decideGate job _) => request = .decide job
  | .calendar (.approve appointment user (some window)) =>
      request = .decide ⟨.accept window.1 window.2, appointment, user⟩
  | _ => True

theorem answers_entry (request : Request) : Answers request (entry request) := by
  cases request <;> first | rfl | trivial

theorem Answers.goto
    {request : Request} {id : ℕ} {s s' : Db} {w : World} {p : Point} (h : Answers request p)
    (hnext : next id s p w = some (s', .goto q)) : Answers request q := by
  obtain ⟨point, point', rfl, rfl, -⟩ | ⟨point, point', rfl, rfl, hgoto⟩ |
    ⟨point, point', rfl, rfl⟩ := next_goto hnext
  · trivial
  · cases hgoto with
    | plain => cases point' <;> trivial
    | decide => exact h
    | @accept job role row window hdecision hrow hrequester =>
        obtain ⟨decision, appointment, user⟩ := job
        subst hdecision
        exact h
    | _ => trivial
  · trivial

/-- A booking becomes approved for its slot's own window while no proposal stands, or for the
window that its requester named in the acceptance that approved it. -/
theorem approved_window
    {users : Table UserId Role} {ms : List (Move Request World)} {c c' : Config Db Point}
    {m : Move Request World} (hrun : machine.run (start users) ms = some c)
    (hstep : machine.step c m = some c') {id : AppointmentId} {row : Appointment}
    (hrow : c'.shared.calendar.appointment.lookup id = some row)
    (happ : row.status = .approved)
    (hbefore : ∀ old, c.shared.calendar.appointment.lookup id = some old →
      old.status ≠ .approved) :
    ∃ seat, c'.shared.calendar.slotOf row = some seat ∧
      ((row.proposedStartsAt = none ∧ row.proposedEndsAt = none ∧
          row.window seat.slot = (seat.slot.startsAt, seat.slot.endsAt)) ∨
        ∃ call w startsAt endsAt, m = .advance call w ∧
          (requests ms)[call]? =
            some (.decide ⟨.accept startsAt endsAt, id, row.requester⟩) ∧
          row.proposedStartsAt = some startsAt ∧ row.proposedEndsAt = some endsAt ∧
          row.window seat.slot = (startsAt, endsAt)) := by
  obtain ⟨hseats, hwindows⟩ := windows_run hrun
  have hserves := Machine.serves_run (M := machine) (P := Answers) answers_entry
    (fun h hnext => Answers.goto h hnext) (Config.initial_serves _ _) hrun
  rw [List.nil_append] at hserves
  obtain ⟨request, rfl, rfl⟩ | ⟨call, w, p, s, n, rfl, hp, hnext, rfl⟩ | ⟨call, p, rfl, hp, rfl⟩ :=
    Machine.step_cases hstep
  · exact absurd happ (hbefore row hrow)
  · have hshared : (c.after call s n).shared = s := by cases n <;> rfl
    rw [hshared] at hrow ⊢
    rcases kept_or_approval hseats.shared (hwindows.calls call p hp) (next_calendarWrote hnext) with
      hkept | ⟨appointment, user, accepting, expected, seat, happroval⟩
    · obtain ⟨old, hold, hwas, -⟩ := hkept id row hrow happ
      exact absurd hwas (hbefore old hold)
    · have hid := (hseats.shared.bookings _ _ happroval.read).1
      rw [happroval.written, Calendar.decided, lookup_insert_eq] at hrow
      split at hrow
      · next hkey =>
        cases hrow
        have hsame : id = appointment := hkey.trans hid
        subst hsame
        obtain ⟨hseat, -, haccepting⟩ := Calendar.approvable_ok happroval.approvable
        refine ⟨seat, ?_, ?_⟩
        · rw [happroval.written, Calendar.slotOf, Calendar.decided_slot_of_live rfl]
          exact hseat
        · cases accepting with
          | none =>
              have hpaired := hwindows.shared.paired _ _ happroval.read
              obtain ⟨hstart, hend⟩ := hpaired.none_of_hasProposal haccepting
              refine .inl ⟨hstart, hend, ?_⟩
              simp [Appointment.window, Appointment.overwrite, hstart]
          | some window =>
              have hpoint := happroval.point
              subst hpoint
              obtain ⟨request, hrequest, hanswers⟩ := hserves.calls call _ hp
              have hrequester := (hwindows.calls call _ hp).2 expected happroval.read
              have hproposes := haccepting
              simp only [Appointment.proposes, Bool.and_eq_true,
                decide_eq_true_eq] at hproposes
              refine .inr ⟨call, w, window.1, window.2, rfl, ?_, hproposes.1, hproposes.2, ?_⟩
              · rw [hrequest, hanswers]
                simp [Appointment.overwrite, hrequester]
              · exact Appointment.window_of_proposes haccepting seat.slot
      · exact absurd happ (hbefore row hrow)
  · exact absurd happ (hbefore row hrow)

section Runs

open Sample

def counterProposal : List (Move Request World) :=
  offerAndBook ++ [.start (.decide ⟨.propose 5000 6000, ⟨secondUuid⟩, ayse⟩)] ++
    List.replicate 5 (tick 2) ++ [.start (.decide ⟨.accept 5000 6000, ⟨secondUuid⟩, ali⟩)] ++
    List.replicate 2 (tick 3)

theorem approved_window_counterProposal :
    ∃ c c' row seat, machine.run (start accounts) counterProposal = some c ∧
      machine.step c (tick 3) = some c' ∧
      c'.shared.calendar.appointment.lookup ⟨secondUuid⟩ = some row ∧
      c'.shared.calendar.slotOf row = some seat ∧
      ((row.proposedStartsAt = none ∧ row.proposedEndsAt = none ∧
          row.window seat.slot = (seat.slot.startsAt, seat.slot.endsAt)) ∨
        ∃ call w startsAt endsAt, tick 3 = .advance call w ∧
          (requests counterProposal)[call]? =
            some (.decide ⟨.accept startsAt endsAt, ⟨secondUuid⟩, row.requester⟩) ∧
          row.proposedStartsAt = some startsAt ∧ row.proposedEndsAt = some endsAt ∧
          row.window seat.slot = (startsAt, endsAt)) := by
  have hend : (machine.run (start accounts) counterProposal).any (fun c =>
      ((c.shared.calendar.appointment.lookup ⟨secondUuid⟩).all fun old =>
        old.status ≠ .approved) &&
      (machine.step c (tick 3)).any fun c' =>
        (c'.shared.calendar.appointment.lookup ⟨secondUuid⟩).any fun row =>
          row.status = .approved) = true := by decide
  obtain ⟨c, hrun, hboth⟩ := (Option.any_eq_true _ _).mp hend
  rw [Bool.and_eq_true] at hboth
  obtain ⟨c', hstep, hrow⟩ := (Option.any_eq_true _ _).mp hboth.2
  obtain ⟨row, hlookup, happ⟩ := (Option.any_eq_true _ _).mp hrow
  have hbefore : ∀ old, c.shared.calendar.appointment.lookup ⟨secondUuid⟩ = some old →
      old.status ≠ .approved := by
    intro old hold
    have hall := hboth.1
    rw [hold] at hall
    exact of_decide_eq_true hall
  obtain ⟨seat, hseat, hwindow⟩ :=
    approved_window hrun hstep hlookup (of_decide_eq_true happ) hbefore
  exact ⟨c, c', row, seat, hrun, hstep, hlookup, hseat, hwindow⟩

end Runs

end Hezarfen.School
