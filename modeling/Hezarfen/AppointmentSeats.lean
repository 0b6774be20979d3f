import Hezarfen.SchoolSteps

/-!
# The seat of an appointment slot

The `occupied` counter of a slot is the number of its live bookings, and that
number is zero or one, whatever bookings, decisions, publishes, deletes and role
sweeps interleave.  A decision carries the row it read; the row may have lost its
slot to a sweep in between, and then the seat it hands back belongs to a slot that
is gone for good.
-/

namespace Hezarfen.School

open Interleaving

variable {minted' : List Uuid} {slot : AppointmentSlotId} {row expected new : Appointment}
  {cal' : Calendar} {seat : SlotRow} {ids : List AppointmentId}

namespace Calendar

/-- The live bookings of a slot. -/
def liveOn (cal : Calendar) (slot : AppointmentSlotId) : ℕ :=
  Table.count cal.appointment fun _ row => decide (row.slot = some slot) && row.status.isLive

structure Sound (cal : Calendar) (minted : List Uuid) : Prop where
  slots : ∀ id row, cal.slot.lookup id = some row → id.uuid ∈ minted
  bookings : ∀ id row, cal.appointment.lookup id = some row → row.id = id ∧ id.uuid ∈ minted
  owned : ∀ id row slot, cal.appointment.lookup id = some row → row.slot = some slot →
    ∃ booked, cal.slot.lookup slot = some booked
  seats : ∀ id row, cal.slot.lookup id = some row →
    row.occupied = cal.liveOn id ∧ cal.liveOn id ≤ 1

theorem sound_empty : Calendar.empty.Sound [] := by
  constructor
  · intro id row hrow
    simp [Calendar.empty] at hrow
  · intro id row hrow
    simp [Calendar.empty] at hrow
  · intro id row slot hrow
    simp [Calendar.empty] at hrow
  · intro id row hrow
    simp [Calendar.empty] at hrow

variable {cal : Calendar} {minted : List Uuid}

theorem Sound.mono
    (hs : cal.Sound minted) (hminted : minted ⊆ minted') :
    cal.Sound minted' where
  slots := fun id row hrow => hminted (hs.slots id row hrow)
  bookings := fun id row hrow =>
    ⟨(hs.bookings id row hrow).1, hminted (hs.bookings id row hrow).2⟩
  owned := hs.owned
  seats := hs.seats

/-- No booking names a slot that has no row. -/
theorem Sound.liveOn_eq_zero
    (hs : cal.Sound minted)
    (hnone : cal.slot.lookup slot = none) : cal.liveOn slot = 0 := by
  unfold liveOn
  rw [Table.count_eq_zero_iff]
  intro id row hrow
  by_contra hlive
  simp only [Bool.not_eq_false, Bool.and_eq_true, decide_eq_true_eq] at hlive
  obtain ⟨booked, hbooked⟩ := hs.owned id row slot hrow hlive.1
  rw [hnone] at hbooked
  cases hbooked

/-- A free slot has no live booking. -/
theorem Sound.not_live
    (hs : cal.Sound minted) {booked : SlotRow}
    (hbooked : cal.slot.lookup slot = some booked) (hfree : booked.occupied < 1)
    {id : AppointmentId} (hrow : cal.appointment.lookup id = some row)
    (hslot : row.slot = some slot) :
    row.status.isLive = false := by
  have hzero : cal.liveOn slot = 0 := by
    have hseats := (hs.seats slot booked hbooked).1
    omega
  unfold liveOn at hzero
  rw [Table.count_eq_zero_iff] at hzero
  simpa [hslot] using hzero id row hrow

/-- What a call that has read the tables may rely on later: ids are not reused, a slot keeps
its teacher and window, and a booking keeps its requester, never comes back to life, and
loses its slot only when the slot goes. -/
structure Evolves (cal cal' : Calendar) (minted : List Uuid) : Prop where
  slots : ∀ id row', id.uuid ∈ minted → cal'.slot.lookup id = some row' →
    ∃ row, cal.slot.lookup id = some row ∧ row'.slot = row.slot
  bookings : ∀ id row', id.uuid ∈ minted → cal'.appointment.lookup id = some row' →
    ∃ row, cal.appointment.lookup id = some row ∧ row'.requester = row.requester ∧
      (row.status.isLive = false → row'.status.isLive = false) ∧
      (row'.slot = row.slot ∨
        (row'.slot = none ∧ ∀ slot, row.slot = some slot → cal'.slot.lookup slot = none))

theorem Evolves.refl (cal : Calendar) (minted : List Uuid) : cal.Evolves cal minted where
  slots := fun _ row' _ h => ⟨row', h, rfl⟩
  bookings := fun _ row' _ h => ⟨row', h, rfl, id, .inl rfl⟩

variable {id : AppointmentSlotId}

/-- Ids are not reused. -/
theorem Evolves.gone
    (h : cal.Evolves cal' minted)
    (hminted : id.uuid ∈ minted) (hnone : cal.slot.lookup id = none) :
    cal'.slot.lookup id = none := by
  cases hrow : cal'.slot.lookup id with
  | none => rfl
  | some row' =>
      obtain ⟨row, hold, -⟩ := h.slots id row' hminted hrow
      rw [hnone] at hold
      cases hold

/-! ## Publishing -/

theorem insertSlots_lookup
    {slots slots' : Table AppointmentSlotId SlotRow} {rows : List AppointmentSlot}
    (h : insertSlots slots rows = some slots') (id : AppointmentSlotId) :
    slots'.lookup id = slots.lookup id ∨
      ∃ slot ∈ rows, slot.id = id ∧ slots'.lookup id = some ⟨slot, 0⟩ := by
  induction rows generalizing slots with
  | nil =>
      simp only [insertSlots, Option.some.injEq] at h
      exact .inl (by rw [h])
  | cons slot rest ih =>
      simp only [insertSlots] at h
      split at h
      · cases h
      · rcases ih h with hsame | ⟨other, hmem, hid, hlookup⟩
        · rw [lookup_insert_eq] at hsame
          split at hsame
          · next hid => exact .inr ⟨slot, List.mem_cons_self, hid.symm, hsame⟩
          · exact .inl hsame
        · exact .inr ⟨other, List.mem_cons_of_mem _ hmem, hid, hlookup⟩

/-- The slots published under fresh ids are new and free. -/
theorem Sound.published
    (hs : cal.Sound minted) {rows : List AppointmentSlot} {uuids : List Uuid}
    (hrows : ∀ slot ∈ rows, slot.id.uuid ∈ uuids) (hfresh : ∀ uuid ∈ uuids, uuid ∉ minted)
    {slots : Table AppointmentSlotId SlotRow} (h : insertSlots cal.slot rows = some slots) :
    ({ cal with slot := slots } : Calendar).Sound (uuids ++ minted) ∧
      cal.Evolves { cal with slot := slots } minted := by
  have hkept : ∀ id : AppointmentSlotId, id.uuid ∈ minted →
      slots.lookup id = cal.slot.lookup id := by
    intro id hid
    rcases insertSlots_lookup h id with hsame | ⟨slot, hmem, rfl, -⟩
    · exact hsame
    · exact absurd hid (hfresh _ (hrows slot hmem))
  constructor
  · constructor
    · intro id row hrow
      rcases insertSlots_lookup h id with hsame | ⟨slot, hmem, rfl, -⟩
      · rw [hsame] at hrow
        exact List.mem_append_right _ (hs.slots id row hrow)
      · exact List.mem_append_left _ (hrows slot hmem)
    · intro id row hrow
      exact ⟨(hs.bookings id row hrow).1, List.mem_append_right _ (hs.bookings id row hrow).2⟩
    · intro id row slot hrow hslot
      obtain ⟨booked, hbooked⟩ := hs.owned id row slot hrow hslot
      exact ⟨booked, by rw [hkept slot (hs.slots slot booked hbooked), hbooked]⟩
    · intro id row hrow
      change row.occupied = cal.liveOn id ∧ cal.liveOn id ≤ 1
      rcases insertSlots_lookup h id with hsame | ⟨slot, hmem, rfl, hnew⟩
      · rw [hsame] at hrow
        exact hs.seats id row hrow
      · have hnone : cal.slot.lookup slot.id = none := by
          cases hold : cal.slot.lookup slot.id with
          | none => rfl
          | some old => exact absurd (hs.slots _ old hold) (hfresh _ (hrows slot hmem))
        rw [hnew] at hrow
        cases hrow
        simp [hs.liveOn_eq_zero hnone]
  · constructor
    · intro id row' hid hrow'
      rw [hkept id hid] at hrow'
      exact ⟨row', hrow', rfl⟩
    · intro id row' hid hrow'
      exact ⟨row', hrow', rfl, fun h => h, .inl rfl⟩

theorem liveOn_insert (cal : Calendar) (id : AppointmentId) (row : Appointment)
    (slots : Table AppointmentSlotId SlotRow) (slot : AppointmentSlotId) :
    liveOn ⟨slots, cal.appointment.insert id row⟩ slot +
        (if (cal.appointment.lookup id).any
          (fun old => decide (old.slot = some slot) && old.status.isLive) then 1 else 0) =
      (if row.slot = some slot ∧ row.status.isLive then 1 else 0) + cal.liveOn slot := by
  have h := Table.count_insert cal.appointment id row
    fun _ row => decide (row.slot = some slot) && row.status.isLive
  simpa [liveOn] using h

/-- A claim takes the free seat of an existing slot. -/
theorem Sound.booked
    (hs : cal.Sound minted) (hseat : cal.slot.lookup slot = some seat) (hfree : seat.occupied < 1)
    (hfresh : row.id.uuid ∉ minted) (hslot : row.slot = some slot)
    (hlive : row.status.isLive = true) :
    (Calendar.mk (cal.slot.insert slot { seat with occupied := seat.occupied + 1 })
        (cal.appointment.insert row.id row)).Sound (row.id.uuid :: minted) ∧
      cal.Evolves
        (Calendar.mk (cal.slot.insert slot { seat with occupied := seat.occupied + 1 })
          (cal.appointment.insert row.id row)) minted := by
  have hnew : cal.appointment.lookup row.id = none := by
    cases hold : cal.appointment.lookup row.id with
    | none => rfl
    | some old => exact absurd (hs.bookings _ old hold).2 hfresh
  constructor
  · constructor
    · intro id row' hrow'
      rw [lookup_insert_eq] at hrow'
      split at hrow'
      · next hid =>
        subst hid
        exact List.mem_cons_of_mem _ (hs.slots _ seat hseat)
      · exact List.mem_cons_of_mem _ (hs.slots id row' hrow')
    · intro id row' hrow'
      obtain ⟨rfl, rfl⟩ | ⟨-, hrow'⟩ := insert_cases hrow'
      · exact ⟨rfl, List.mem_cons_self⟩
      · exact ⟨(hs.bookings id row' hrow').1,
          List.mem_cons_of_mem _ (hs.bookings id row' hrow').2⟩
    · intro id row' slot' hrow' hslot'
      have hold : ∃ booked, cal.slot.lookup slot' = some booked := by
        obtain ⟨-, rfl⟩ | ⟨-, hrow'⟩ := insert_cases hrow'
        · rw [hslot] at hslot'
          cases hslot'
          exact ⟨seat, hseat⟩
        · exact hs.owned id row' slot' hrow' hslot'
      obtain ⟨booked, hbooked⟩ := hold
      rw [lookup_insert_eq]
      split
      · exact ⟨_, rfl⟩
      · exact ⟨booked, hbooked⟩
    · intro id row' hrow'
      have hcount := cal.liveOn_insert row.id row
        (cal.slot.insert slot { seat with occupied := seat.occupied + 1 }) id
      simp only [hnew, hslot, hlive, Option.any_none, Bool.false_eq_true, if_false,
        Option.some.injEq, and_true] at hcount
      obtain ⟨rfl, rfl⟩ | ⟨hid, hrow'⟩ := insert_cases hrow'
      · have hold := hs.seats _ seat hseat
        rw [if_pos rfl] at hcount
        constructor
        · change seat.occupied + 1 = _
          omega
        · omega
      · have hold := hs.seats id row' hrow'
        rw [if_neg (Ne.symm hid)] at hcount
        constructor <;> omega
  · constructor
    · intro id row' hid hrow'
      obtain ⟨rfl, rfl⟩ | ⟨-, hrow'⟩ := insert_cases hrow'
      · exact ⟨seat, hseat, rfl⟩
      · exact ⟨row', hrow', rfl⟩
    · intro id row' hid hrow'
      rw [lookup_insert_eq] at hrow'
      split at hrow'
      · next heq =>
        subst heq
        exact absurd hid hfresh
      · exact ⟨row', hrow', rfl, fun h => h, .inl rfl⟩

structure Remembers (cal : Calendar) (minted : List Uuid) (expected : Appointment) : Prop where
  id : expected.id.uuid ∈ minted
  slot : ∀ slot, expected.slot = some slot → slot.uuid ∈ minted
  row : ∀ row, cal.appointment.lookup expected.id = some row →
    row.slot = expected.slot ∨
      (row.slot = none ∧ ∀ slot, expected.slot = some slot → cal.slot.lookup slot = none)

theorem Sound.remembers
    (hs : cal.Sound minted) {id : AppointmentId} (hrow : cal.appointment.lookup id = some row) :
    cal.Remembers minted row := by
  obtain ⟨hid, hminted⟩ := hs.bookings id row hrow
  constructor
  · rw [hid]
    exact hminted
  · intro slot hslot
    obtain ⟨booked, hbooked⟩ := hs.owned id row slot hrow hslot
    exact hs.slots slot booked hbooked
  · intro row' hrow'
    rw [hid, hrow] at hrow'
    cases hrow'
    exact .inl rfl

theorem Remembers.evolves
    (h : cal.Remembers minted expected) (hevolves : cal.Evolves cal' minted)
    (hminted : minted ⊆ minted') : cal'.Remembers minted' expected := by
  refine ⟨hminted h.id, fun slot hslot => hminted (h.slot slot hslot), ?_⟩
  intro row' hrow'
  obtain ⟨row, hrow, -, -, hslot⟩ := hevolves.bookings _ row' h.id hrow'
  rcases h.row row hrow with hsame | ⟨hnone, hgone⟩
  · rcases hslot with hkept | ⟨hlost, hgone⟩
    · exact .inl (hkept.trans hsame)
    · exact .inr ⟨hlost, fun slot hexpected => hgone slot (hsame.trans hexpected)⟩
  · refine .inr ⟨?_, fun slot hexpected =>
      hevolves.gone (h.slot slot hexpected) (hgone slot hexpected)⟩
    rcases hslot with hkept | ⟨hlost, -⟩
    · exact hkept.trans hnone
    · exact hlost

theorem lookup_freeSeat
    (slots : Table AppointmentSlotId SlotRow) (slot : Option AppointmentSlotId)
    (id : AppointmentSlotId) :
    (freeSeat slots slot).lookup id = (slots.lookup id).map fun row =>
      if slot = some id then { row with occupied := max (row.occupied - 1) 0 } else row := by
  simp [freeSeat]

theorem lookup_decided_slot
    {seat' : SlotRow}
    (h : (cal.decided expected new row).slot.lookup id = some seat') :
    ∃ seat, cal.slot.lookup id = some seat ∧ seat'.slot = seat.slot ∧
      seat'.occupied =
        if expected.status.isLive ∧ new.status.isLive = false ∧ expected.slot = some id then
          max (seat.occupied - 1) 0
        else seat.occupied := by
  unfold decided at h
  by_cases hfrees : (expected.status.isLive && !new.status.isLive) = true
  · rw [if_pos hfrees, lookup_freeSeat, Option.map_eq_some_iff] at h
    obtain ⟨seat, hseat, rfl⟩ := h
    simp only [Bool.and_eq_true, Bool.not_eq_eq_eq_not, Bool.not_true] at hfrees
    refine ⟨seat, hseat, ?_, ?_⟩
    · split <;> rfl
    · simp only [hfrees.1, hfrees.2, true_and]
      split <;> rfl
  · rw [if_neg hfrees] at h
    refine ⟨seat', h, rfl, ?_⟩
    rw [if_neg]
    simp only [Bool.and_eq_true, Bool.not_eq_eq_eq_not, Bool.not_true, not_and] at hfrees
    exact fun hall => absurd hall.2.1 (hfrees hall.1)

theorem lookup_decided_slot_isSome
    (hseat : cal.slot.lookup id = some seat) :
    ∃ seat', (cal.decided expected new row).slot.lookup id = some seat' := by
  unfold decided
  split
  · rw [lookup_freeSeat, hseat]
    exact ⟨_, rfl⟩
  · exact ⟨seat, hseat⟩

/-- A decision moves the seat of its slot exactly when the booking leaves the live set. -/
theorem Sound.decided
    (hs : cal.Sound minted) (hknown : cal.Remembers minted expected) (hid : new.id = expected.id)
    (hrow : cal.appointment.lookup new.id = some row) (hunchanged : row.Unchanged expected)
    (hlive : expected.status.isLive = true) :
    (cal.decided expected new row).Sound minted ∧
      cal.Evolves (cal.decided expected new row) minted := by
  have hstatus : row.status.isLive = true := by rw [hunchanged.1, hlive]
  constructor
  · constructor
    · intro id seat' hseat'
      obtain ⟨seat, hseat, -, -⟩ := lookup_decided_slot hseat'
      exact hs.slots id seat hseat
    · intro id row' hrow'
      rw [Calendar.decided, lookup_insert_eq] at hrow'
      split at hrow'
      · next heq =>
        cases hrow'
        subst heq
        exact hs.bookings _ row hrow
      · exact hs.bookings id row' hrow'
    · intro id row' slot hrow' hslot
      have hold : ∃ booked, cal.slot.lookup slot = some booked := by
        rw [Calendar.decided, lookup_insert_eq] at hrow'
        split at hrow'
        · cases hrow'
          exact hs.owned _ row slot hrow hslot
        · exact hs.owned id row' slot hrow' hslot
      obtain ⟨booked, hbooked⟩ := hold
      exact lookup_decided_slot_isSome hbooked
    · intro id seat' hseat'
      obtain ⟨seat, hseat, -, hoccupied⟩ := lookup_decided_slot hseat'
      have hold := hs.seats id seat hseat
      have hcount := cal.liveOn_insert new.id (row.overwrite new)
        (cal.decided expected new row).slot id
      have hslot : row.slot = some id ↔ expected.slot = some id := by
        rcases hknown.row row (hid ▸ hrow) with hsame | ⟨hnone, hgone⟩
        · rw [hsame]
        · constructor
          · intro h
            rw [hnone] at h
            cases h
          · intro h
            rw [hgone id h] at hseat
            cases hseat
      change (cal.decided expected new row).liveOn id + _ = _ at hcount
      have hnewslot : (row.overwrite new).slot = row.slot := rfl
      have hnewstatus : (row.overwrite new).status = new.status := rfl
      simp only [hrow, Option.any_some, hstatus, Bool.and_true, decide_eq_true_eq, hnewslot,
        hnewstatus, hslot] at hcount
      simp only [hlive, true_and] at hoccupied
      by_cases hon : expected.slot = some id
      · cases hnew : new.status.isLive
        · simp only [hnew, hon, Bool.false_eq_true, and_false, if_false, if_true,
            true_and] at hcount hoccupied
          constructor <;> omega
        · simp only [hnew, hon, and_true, if_true, Bool.true_eq_false,
            if_false] at hcount hoccupied
          constructor <;> omega
      · simp only [hon, and_false, false_and, if_false] at hcount hoccupied
        constructor <;> omega
  · constructor
    · intro id seat' _ hseat'
      obtain ⟨seat, hseat, hsame, -⟩ := lookup_decided_slot hseat'
      exact ⟨seat, hseat, hsame⟩
    · intro id row' _ hrow'
      rw [Calendar.decided, lookup_insert_eq] at hrow'
      split at hrow'
      · next heq =>
        cases hrow'
        subst heq
        refine ⟨row, hrow, rfl, ?_, .inl rfl⟩
        intro hdead
        rw [hstatus] at hdead
        cases hdead
      · exact ⟨row', hrow', rfl, fun h => h, .inl rfl⟩

/-! ## Withdrawing slots -/

section Withdraw

variable {p : AppointmentSlotId → SlotRow → Bool}

theorem lookup_deleteSlots_slot :
    (cal.deleteSlots p).slot.lookup id = some seat ↔
      cal.slot.lookup id = some seat ∧ p id seat = false := by
  simp [deleteSlots, Option.filter_eq_some_iff]

/-- A booking outlives its slot without a reference to it. -/
theorem lookup_deleteSlots_booking {id : AppointmentId} {row' : Appointment}
    (h : (cal.deleteSlots p).appointment.lookup id = some row') :
    ∃ row, cal.appointment.lookup id = some row ∧
      ((row' = row ∧ ∀ slot seat, row.slot = some slot → cal.slot.lookup slot = some seat →
          p slot seat = false) ∨
        (row' = { row with slot := none } ∧
          ∀ slot, row.slot = some slot → (cal.deleteSlots p).slot.lookup slot = none)) := by
  simp only [deleteSlots, lookup_update, Option.map_eq_some_iff] at h
  obtain ⟨row, hrow, rfl⟩ := h
  refine ⟨row, hrow, ?_⟩
  split
  · next hdoomed =>
    refine .inr ⟨rfl, ?_⟩
    intro slot hslot
    simp only [hslot, Option.any_some, Option.any_eq_true] at hdoomed
    obtain ⟨seat, hseat, hp⟩ := hdoomed
    simp [deleteSlots, hseat, hp]
  · next hkept =>
    refine .inl ⟨rfl, ?_⟩
    intro slot seat hslot hseat
    simpa [hslot, hseat] using hkept

theorem liveOn_deleteSlots (hseat : cal.slot.lookup id = some seat)
    (hkept : p id seat = false) :
    (cal.deleteSlots p).liveOn id = cal.liveOn id := by
  unfold liveOn deleteSlots
  rw [Table.count_update]
  apply Table.count_congr
  intro key row _
  split
  · next hdoomed =>
    have hother : row.slot ≠ some id := by
      intro hslot
      simp [hslot, hseat, hkept] at hdoomed
    simp [hother]
  · rfl

theorem Sound.deleteSlots (hs : cal.Sound minted) :
    (cal.deleteSlots p).Sound minted ∧ cal.Evolves (cal.deleteSlots p) minted := by
  constructor
  · constructor
    · intro id seat hseat
      exact hs.slots id seat (lookup_deleteSlots_slot.mp hseat).1
    · intro id row' hrow'
      obtain ⟨row, hrow, ⟨rfl, -⟩ | ⟨rfl, -⟩⟩ := lookup_deleteSlots_booking hrow'
      · exact hs.bookings id _ hrow
      · exact hs.bookings id row hrow
    · intro id row' slot hrow' hslot
      obtain ⟨row, hrow, ⟨rfl, hkept⟩ | ⟨rfl, -⟩⟩ := lookup_deleteSlots_booking hrow'
      · obtain ⟨seat, hseat⟩ := hs.owned id _ slot hrow hslot
        exact ⟨seat, lookup_deleteSlots_slot.mpr ⟨hseat, hkept slot seat hslot hseat⟩⟩
      · cases hslot
    · intro id seat hseat
      obtain ⟨hold, hkept⟩ := lookup_deleteSlots_slot.mp hseat
      rw [liveOn_deleteSlots hold hkept]
      exact hs.seats id seat hold
  · constructor
    · intro id seat _ hseat
      exact ⟨seat, (lookup_deleteSlots_slot.mp hseat).1, rfl⟩
    · intro id row' _ hrow'
      obtain ⟨row, hrow, ⟨rfl, -⟩ | ⟨rfl, hgone⟩⟩ := lookup_deleteSlots_booking hrow'
      · exact ⟨_, hrow, rfl, fun h => h, .inl rfl⟩
      · exact ⟨row, hrow, rfl, fun h => h, .inr ⟨rfl, hgone⟩⟩

theorem lookup_deleteBookings {id : AppointmentId} :
    (cal.deleteBookings ids).appointment.lookup id = some row ↔
      cal.appointment.lookup id = some row ∧ id ∉ ids := by
  simp [deleteBookings, Option.filter_eq_some_iff]

/-- Settled bookings can be deleted without moving a seat. -/
theorem Sound.deleteBookings (hs : cal.Sound minted)
    (hsettled : ∀ id ∈ ids, ∀ row, cal.appointment.lookup id = some row →
      row.status.isLive = false) :
    (cal.deleteBookings ids).Sound minted := by
  constructor
  · exact hs.slots
  · intro id row hrow
    exact hs.bookings id row (lookup_deleteBookings.mp hrow).1
  · intro id row slot hrow hslot
    exact hs.owned id row slot (lookup_deleteBookings.mp hrow).1 hslot
  · intro id seat hseat
    have hsame : (cal.deleteBookings ids).liveOn id = cal.liveOn id := by
      unfold liveOn Calendar.deleteBookings
      rw [Table.count_deleteWhere]
      apply Table.count_congr
      intro key row hrow
      by_cases hkey : key ∈ ids
      · simp [hkey, hsettled key hkey row hrow]
      · simp [hkey]
    rw [hsame]
    exact hs.seats id seat hseat

theorem deleteFree_eq
    {slots : List AppointmentSlotId} {settled : List AppointmentId}
    (h : cal.deleteFree slots settled = (.ok (), cal')) :
    cal' = (cal.deleteBookings settled).deleteSlots fun id row =>
      decide (id ∈ slots) && decide (row.occupied < 1) := by
  simp only [deleteFree] at h
  split at h
  · cases h
    rfl
  · split at h <;> cases h

/-- `delete_free` takes slots that nobody waits on. -/
theorem Sound.deletedFree
    (hs : cal.Sound minted) {slots : List AppointmentSlotId} {settled : List AppointmentId}
    (h : cal.deleteFree slots settled = (.ok (), cal'))
    (hsettled : ∀ id ∈ settled, ∀ row, cal.appointment.lookup id = some row →
      row.status.isLive = false) :
    cal'.Sound minted ∧ cal.Evolves cal' minted := by
  rw [deleteFree_eq h]
  have hrest := (hs.deleteBookings hsettled).deleteSlots (p := fun id row =>
    decide (id ∈ slots) && decide (row.occupied < 1))
  refine ⟨hrest.1, hrest.2.slots, ?_⟩
  intro id row' hid hrow'
  obtain ⟨row, hrow, hkeeps⟩ := hrest.2.bookings id row' hid hrow'
  exact ⟨row, (lookup_deleteBookings.mp hrow).1, hkeeps⟩

def OnSlotsOf (cal : Calendar) (minted : List Uuid) (teacher : UserId)
    (ids : List AppointmentId) : Prop :=
  ∀ id ∈ ids, id.uuid ∈ minted ∧
    ∀ row slot seat, cal.appointment.lookup id = some row → row.slot = some slot →
      cal.slot.lookup slot = some seat → seat.slot.teacher = teacher

theorem Sound.withdraw
    (hs : cal.Sound minted) {teacher : UserId} {cancelled : List AppointmentId}
    (hon : cal.OnSlotsOf minted teacher cancelled) :
    (cal.withdraw teacher cancelled).Sound minted ∧
      cal.Evolves (cal.withdraw teacher cancelled) minted := by
  have hbooking : ∀ {id row'},
      (cal.withdraw teacher cancelled).appointment.lookup id = some row' →
      ∃ row, cal.appointment.lookup id = some row ∧ row'.id = row.id ∧
        row'.requester = row.requester ∧
        (row.status.isLive = false → row'.status.isLive = false) ∧
        ((row'.slot = row.slot ∧ ∀ slot seat, row.slot = some slot →
            cal.slot.lookup slot = some seat → seat.slot.teacher ≠ teacher) ∨
          (row'.slot = none ∧ ∀ slot, row.slot = some slot →
            (cal.withdraw teacher cancelled).slot.lookup slot = none)) := by
    intro id row' hrow'
    obtain ⟨mid, hmid, hslots⟩ := lookup_deleteSlots_booking hrow'
    simp only [lookup_update, Option.map_eq_some_iff] at hmid
    obtain ⟨row, hrow, rfl⟩ := hmid
    refine ⟨row, hrow, ?_⟩
    rcases hslots with ⟨rfl, hkept⟩ | ⟨rfl, hgone⟩
    · refine ⟨by split <;> rfl, by split <;> rfl, ?_, .inl ⟨by split <;> rfl, ?_⟩⟩
      · intro hdead
        split
        · rfl
        · exact hdead
      · intro slot seat hslot hseat
        simpa using hkept slot seat (by split <;> exact hslot) hseat
    · refine ⟨by split <;> rfl, by split <;> rfl, ?_, .inr ⟨rfl, ?_⟩⟩
      · intro hdead
        split
        · rfl
        · exact hdead
      · intro slot hslot
        exact hgone slot (by split <;> exact hslot)
  have hslot : ∀ {id seat}, (cal.withdraw teacher cancelled).slot.lookup id = some seat ↔
      cal.slot.lookup id = some seat ∧ seat.slot.teacher ≠ teacher := by
    intro id seat
    rw [Calendar.withdraw, lookup_deleteSlots_slot]
    simp
  constructor
  · constructor
    · intro id seat hseat
      exact hs.slots id seat (hslot.mp hseat).1
    · intro id row' hrow'
      obtain ⟨row, hrow, hid, -⟩ := hbooking hrow'
      rw [hid]
      exact hs.bookings id row hrow
    · intro id row' slot hrow' hslot'
      obtain ⟨row, hrow, -, -, -, ⟨hsame, hkept⟩ | ⟨hnone, -⟩⟩ := hbooking hrow'
      · rw [hsame] at hslot'
        obtain ⟨seat, hseat⟩ := hs.owned id row slot hrow hslot'
        exact ⟨seat, hslot.mpr ⟨hseat, hkept slot seat hslot' hseat⟩⟩
      · rw [hnone] at hslot'
        cases hslot'
    · intro id seat hseat
      obtain ⟨hold, hteacher⟩ := hslot.mp hseat
      have hsame : (cal.withdraw teacher cancelled).liveOn id = cal.liveOn id := by
        have hdelete : (cal.withdraw teacher cancelled).liveOn id =
            liveOn ⟨cal.slot, Table.update cal.appointment fun id row =>
              if id ∈ cancelled then cancelBySweep teacher row else row⟩ id :=
          liveOn_deleteSlots hold (by simpa using hteacher)
        rw [hdelete]
        unfold liveOn
        rw [Table.count_update]
        apply Table.count_congr
        intro key row hrow
        split
        · next hkey =>
          have hother : row.slot ≠ some id := fun hon' =>
            hteacher ((hon key hkey).2 row id seat hrow hon' hold)
          simp [cancelBySweep, hother]
        · rfl
      rw [hsame]
      exact hs.seats id seat hold
  · constructor
    · intro id seat _ hseat
      exact ⟨seat, (hslot.mp hseat).1, rfl⟩
    · intro id row' _ hrow'
      obtain ⟨row, hrow, -, hrequester, hdead, ⟨hsame, -⟩ | hgone⟩ := hbooking hrow'
      · exact ⟨row, hrow, hrequester, hdead, .inl hsame⟩
      · exact ⟨row, hrow, hrequester, hdead, .inr hgone⟩

theorem OnSlotsOf.evolves
    {teacher : UserId} (h : cal.OnSlotsOf minted teacher ids) (hs : cal.Sound minted)
    (hevolves : cal.Evolves cal' minted) (hminted : minted ⊆ minted') :
    cal'.OnSlotsOf minted' teacher ids := by
  intro id hid
  refine ⟨hminted (h id hid).1, ?_⟩
  intro row' slot seat' hrow' hslot' hseat'
  obtain ⟨row, hrow, -, -, hsame | ⟨hnone, -⟩⟩ := hevolves.bookings id row' (h id hid).1 hrow'
  · rw [hsame] at hslot'
    obtain ⟨old, hold⟩ := hs.owned id row slot hrow hslot'
    obtain ⟨seat, hseat, hslot⟩ := hevolves.slots slot seat' (hs.slots slot old hold) hseat'
    rw [hslot]
    exact (h id hid).2 row slot seat hrow hslot' hseat
  · rw [hnone] at hslot'
    cases hslot'

end Withdraw

/-! ## What the calls in flight know -/

def Settled (cal : Calendar) (minted : List Uuid) (ids : List AppointmentId) : Prop :=
  ∀ id ∈ ids, id.uuid ∈ minted ∧
    ∀ row, cal.appointment.lookup id = some row → row.status.isLive = false

theorem Settled.evolves
    (h : cal.Settled minted ids) (hevolves : cal.Evolves cal' minted) (hminted : minted ⊆ minted') :
    cal'.Settled minted' ids := by
  intro id hid
  refine ⟨hminted (h id hid).1, ?_⟩
  intro row' hrow'
  obtain ⟨row, hrow, -, hdead, -⟩ := hevolves.bookings id row' (h id hid).1 hrow'
  exact hdead ((h id hid).2 row hrow)

/-- A booking on a free slot is settled. -/
theorem Sound.settledOf (hs : cal.Sound minted) (slots : List AppointmentSlotId) :
    cal.Settled minted (cal.settledOf slots) := by
  intro id hid
  simp only [Calendar.settledOf, List.mem_map, List.mem_filter] at hid
  obtain ⟨⟨key, row⟩, ⟨hentry, hon⟩, rfl⟩ := hid
  have hrow := mem_entries_iff_lookup.mp hentry
  refine ⟨(hs.bookings _ row hrow).2, ?_⟩
  intro row' hrow'
  rw [hrow] at hrow'
  cases hrow'
  obtain ⟨slot, hslot, hfree⟩ := (Option.any_eq_true _ _).mp hon
  simp only [Bool.and_eq_true, decide_eq_true_eq] at hfree
  obtain ⟨seat, hseat, hoccupied⟩ := (Option.any_eq_true _ _).mp hfree.2
  exact hs.not_live hseat (by simpa using hoccupied) hrow hslot

theorem Sound.liveOf (hs : cal.Sound minted) (teacher : UserId) :
    cal.OnSlotsOf minted teacher (cal.liveOf teacher) := by
  intro id hid
  simp only [Calendar.liveOf, List.mem_map, List.mem_filter] at hid
  obtain ⟨⟨key, row⟩, ⟨hentry, hlive⟩, rfl⟩ := hid
  have hrow := mem_entries_iff_lookup.mp hentry
  refine ⟨(hs.bookings _ row hrow).2, ?_⟩
  intro row' slot seat hrow' hslot hseat
  rw [hrow] at hrow'
  cases hrow'
  simp only [Bool.and_eq_true, slotOf, hslot, Option.bind_some, hseat, Option.any_some,
    decide_eq_true_eq] at hlive
  exact hlive.2

def Knows (cal : Calendar) (minted : List Uuid) : Point → Prop
  | .calendar (.deleteFree _ settled) => cal.Settled minted settled
  | .calendar (.cancelSlot _ expected _ _) =>
      cal.Remembers minted expected ∧ expected.status.isLive = true
  | .calendar (.save _ expected new _) =>
      cal.Remembers minted expected ∧ expected.status.isLive = true ∧ new.id = expected.id
  | .role (.commit job _ (some sweep)) => cal.OnSlotsOf minted job.target sweep.cancelled
  | _ => True

theorem Knows.evolves
    {p : Point} (h : cal.Knows minted p) (hs : cal.Sound minted)
    (hevolves : cal.Evolves cal' minted) (hminted : minted ⊆ minted') :
    cal'.Knows minted' p := by
  cases p with
  | createUser | roster => trivial
  | role point =>
      cases point with
      | commit job floor sweep =>
          cases sweep with
          | none => trivial
          | some => exact OnSlotsOf.evolves h hs hevolves hminted
      | _ => trivial
  | calendar point =>
      cases point with
      | deleteFree => exact Settled.evolves h hevolves hminted
      | cancelSlot | save => exact ⟨h.1.evolves hevolves hminted, h.2⟩
      | _ => trivial

end Calendar

section Steps

variable {id : ℕ} {s s' : Db} {w : World} {n : Reply} {p : Point}

theorem Calendar.Sound.wrote
    (hs : s.calendar.Sound s.minted) (hknows : s.calendar.Knows s.minted p)
    (h : CalendarWrote id s w p cal' minted') :
    cal'.Sound minted' ∧ s.calendar.Evolves cal' s.minted := by
  cases h with
  | quiet hminted => exact ⟨hs.mono hminted, .refl _ _⟩
  | @published args windows refusal slots hfree hrole hnodup hfresh hinsert =>
      apply hs.published _ hfresh hinsert
      intro slot hslot
      simp only [PublishArgs.rows, List.mem_map] at hslot
      obtain ⟨⟨uuid, window⟩, hzip, rfl⟩ := hslot
      exact (List.of_mem_zip hzip).1
  | @booked args row hfresh hrow hseat =>
      have hnew : (args.appointment w).id.uuid ∉ s.minted := hfresh
      have hslot : (args.appointment w).slot = some args.slot := rfl
      exact hs.booked hrow hseat hnew hslot rfl
  | approved hread hpending _ hrow hunchanged =>
      exact hs.decided (hs.remembers hread) rfl hrow hunchanged (by rw [hpending]; rfl)
  | saved hrow hunchanged =>
      exact hs.decided hknows.1 hknows.2.2 hrow hunchanged hknows.2.1
  | deleted hdelete =>
      exact hs.deletedFree hdelete fun id hid row hrow => (hknows id hid).2 row hrow
  | withdrawn => exact hs.withdraw hknows

/-- What a call reads, it knows. -/
theorem Calendar.Knows.goto
    (hs : s.calendar.Sound s.minted) (hknows : s.calendar.Knows s.minted p) {q : Point}
    (h : next id s p w = some (s', .goto q)) : s.calendar.Knows s.minted q := by
  obtain ⟨point, point', rfl, rfl, hgoto⟩ | ⟨point, point', rfl, rfl, hgoto⟩ |
    ⟨point, point', rfl, rfl⟩ := next_goto h
  · cases hgoto with
    | bookings => exact hs.liveOf _
    | @write job floor others role hfree hrow hkeeps =>
        unfold RoleJob.afterWrite
        split <;> trivial
    | _ => trivial
  · cases hgoto with
    | plain => cases point' <;> trivial
    | settled => exact hs.settledOf _
    | decide | accept | approve => trivial
    | reject hread hpending => exact ⟨hs.remembers hread, by rw [hpending]; rfl, rfl⟩
    | propose hread hlive => exact ⟨hs.remembers hread, hlive, rfl⟩
    | cancel hread hlive => exact ⟨hs.remembers hread, hlive⟩
    | cancelSlot => exact ⟨hknows.1, hknows.2, rfl⟩
  · trivial

end Steps

theorem seats_relyGuarantee :
    machine.RelyGuarantee (fun _ _ => True) (fun s => s.calendar.Sound s.minted)
      (fun _ p s => s.calendar.Knows s.minted p) where
  entry := by
    intro id request s hs
    cases request <;> trivial
  own := by
    intro c id w p s n hc _ hp hnext
    have hwrote := hc.shared.wrote (hc.calls id p hp) (next_calendarWrote hnext)
    refine ⟨hwrote.1, ?_⟩
    rintro q rfl
    have hknows := (hc.calls id p hp).goto hc.shared hnext
    exact hknows.evolves hc.shared hwrote.2 (next_minted hnext)
  others := by
    intro c id w p s n hc _ hp hnext id' q _ hq
    have hwrote := hc.shared.wrote (hc.calls id p hp) (next_calendarWrote hnext)
    exact (hc.calls id' q hq).evolves hc.shared hwrote.2 (next_minted hnext)
  rollback := fun hc _ => ⟨hc.shared, fun id' q _ hq => hc.calls id' q hq⟩

theorem seats_start (users : Table UserId Role) :
    (start users).Holds (fun s => s.calendar.Sound s.minted)
      (fun _ p s => s.calendar.Knows s.minted p) :=
  Config.initial_holds _ Calendar.sound_empty

/-- In every run, `occupied` of each slot is the number of its live bookings, which is zero
or one. -/
theorem occupied_eq_liveOn
    {users : Table UserId Role} {ms : List (Move Request World)} {c : Config Db Point}
    (hrun : machine.run (start users) ms = some c) (id : AppointmentSlotId) (row : SlotRow)
    (hrow : c.shared.calendar.slot.lookup id = some row) :
    row.occupied = c.shared.calendar.liveOn id ∧ c.shared.calendar.liveOn id ≤ 1 := by
  have hholds := seats_relyGuarantee.holds_run (seats_start users)
    (Machine.guarded_true _ ms) hrun
  exact hholds.shared.seats id row hrow

section Runs

open Sample

theorem occupied_eq_liveOn_offerAndBook :
    ∃ c row, machine.run (start accounts) offerAndBook = some c ∧
      c.shared.calendar.slot.lookup ⟨firstUuid⟩ = some row ∧
      row.occupied = c.shared.calendar.liveOn ⟨firstUuid⟩ ∧
      c.shared.calendar.liveOn ⟨firstUuid⟩ ≤ 1 := by
  have hend : (machine.run (start accounts) offerAndBook).any
      (fun c => (c.shared.calendar.slot.lookup ⟨firstUuid⟩).any fun row =>
        row.occupied = 1) = true := by decide
  obtain ⟨c, hrun, hslot⟩ := (Option.any_eq_true _ _).mp hend
  obtain ⟨row, hrow, -⟩ := (Option.any_eq_true _ _).mp hslot
  exact ⟨c, row, hrun, hrow, occupied_eq_liveOn hrun ⟨firstUuid⟩ row hrow⟩

end Runs

end Hezarfen.School
