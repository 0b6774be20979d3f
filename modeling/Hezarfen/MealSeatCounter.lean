import Hezarfen.MealCalls
import Mathlib.Tactic.Ring

/-!
# The seat counter of a menu

`seats_booked` is the authority on how many seats of a menu are taken, and the
booked rows follow it.  Every write keeps the two equal except one: a claim whose
seat bump succeeds and whose row has moved on since the call read it.  Such a
claim places nothing and answers `Duplicate` through `Ok`, so its bump commits.
-/

namespace Hezarfen.Meal

open Interleaving

variable {s s' : Db} {menu : MenuId}

/-- The seat counter of a menu; a menu that is not published counts none. -/
def Db.seatsBooked (s : Db) (menu : MenuId) : ℤ :=
  (s.menu.lookup menu).elim 0 MenuRow.seatsBooked

def isSeatOn (menu : MenuId) (id : MealBookingId) (row : MealBooking) : Bool :=
  id.menu = menu ∧ row.status = .booked

/-- Number of booked rows of a menu. -/
def Db.seatsTaken (s : Db) (menu : MenuId) : ℕ :=
  Table.count s.mealBooking (isSeatOn menu)

/-- An unpublished menu has counter zero, so the equation also says that it has no booked
row. -/
def SeatInvariant (s : Db) : Prop := ∀ menu, s.seatsBooked menu = (s.seatsTaken menu : ℤ)

theorem seatInvariant_empty : SeatInvariant Db.empty := by
  intro menu
  simp [Db.seatsBooked, Db.seatsTaken, Db.empty]

/-! ## The counter under the writes -/

theorem seatsBooked_insert
    (s : Db) (menus : Table MenuId MenuRow) (menu other : MenuId) (row : MenuRow)
    (hmenus : s.menu = menus.insert menu row) :
    s.seatsBooked other =
      if other = menu then row.seatsBooked
        else (menus.lookup other).elim 0 MenuRow.seatsBooked := by
  unfold Db.seatsBooked
  rw [hmenus, lookup_insert_eq]
  split <;> rfl

theorem seatsBooked_replace
    {row row' : MenuRow} (hrow : s.menu.lookup menu = some row)
    (hmenus : s'.menu = s.menu.insert menu row') (hseats : row'.seatsBooked = row.seatsBooked)
    (other : MenuId) :
    s'.seatsBooked other = s.seatsBooked other := by
  rw [seatsBooked_insert s' s.menu menu other row' hmenus]
  split
  · next hother =>
    subst hother
    simp [Db.seatsBooked, hrow, hseats]
  · rfl

theorem seatsTaken_insert
    {id : MealBookingId} {row : MealBooking}
    (hbooking : s'.mealBooking = s.mealBooking.insert id row) (menu : MenuId) :
    s'.seatsTaken menu +
        (if (s.mealBooking.lookup id).any (isSeatOn menu id) then 1 else 0) =
      (if isSeatOn menu id row then 1 else 0) + s.seatsTaken menu := by
  unfold Db.seatsTaken
  rw [hbooking]
  exact Table.count_insert s.mealBooking id row (isSeatOn menu)

theorem seatInvariant_of_frame
    (hs : SeatInvariant s) (hseats : ∀ menu, s'.seatsBooked menu = s.seatsBooked menu)
    (hbooking : s'.mealBooking = s.mealBooking) :
    SeatInvariant s' := by
  intro menu
  rw [hseats menu, hs menu]
  simp [Db.seatsTaken, hbooking]

theorem SeatInvariant.placed
    (hs : SeatInvariant s) (id : MealBookingId) {m : MenuRow} {booking : MealBooking}
    (hmenu : s.menu.lookup id.menu = some m) (hheld : s.held id = false)
    (hbooked : booking.status = .booked) (hmenus : s'.menu =
      s.menu.insert id.menu { m with seatsBooked := m.seatsBooked + 1 })
    (hbooking : s'.mealBooking = s.mealBooking.insert id booking) :
    SeatInvariant s' := by
  intro menu
  have htaken := seatsTaken_insert hbooking menu
  have hold : (s.mealBooking.lookup id).any (isSeatOn menu id) = false := by
    cases hrow : s.mealBooking.lookup id with
    | none => rfl
    | some old =>
        have hstatus : old.status ≠ .booked := by simpa [Db.held, hrow] using hheld
        simp [isSeatOn, hstatus]
  simp only [hold, Bool.false_eq_true, if_false, add_zero] at htaken
  rw [seatsBooked_insert s' s.menu id.menu menu _ hmenus]
  have hcounter := hs menu
  split
  · next hother =>
    subst hother
    have hseats : s.seatsBooked id.menu = m.seatsBooked := by simp [Db.seatsBooked, hmenu]
    have hnew : isSeatOn id.menu id booking = true := by simp [isSeatOn, hbooked]
    simp only [hnew, if_true] at htaken
    rw [← hseats, hcounter, htaken]
    push_cast
    ring
  · next hother =>
    have hnew : isSeatOn menu id booking = false := by
      simp [isSeatOn, Ne.symm hother]
    simp only [hnew, Bool.false_eq_true, if_false, zero_add] at htaken
    rw [htaken]
    exact hcounter

theorem seatsBooked_giveBackSeat
    (hmenus : s'.menu = giveBackSeat s.menu menu) (hpos : 0 < s.seatsBooked menu) (other : MenuId) :
    s'.seatsBooked other =
      if other = menu then s.seatsBooked menu - 1 else s.seatsBooked other := by
  cases hrow : s.menu.lookup menu with
  | none => simp [Db.seatsBooked, hrow] at hpos
  | some row =>
      have hseats : s.seatsBooked menu = row.seatsBooked := by simp [Db.seatsBooked, hrow]
      simp only [giveBackSeat, hrow] at hmenus
      rw [seatsBooked_insert s' s.menu menu other _ hmenus]
      split
      · have hone : 0 ≤ row.seatsBooked - 1 := by omega
        rw [hseats]
        exact max_eq_left hone
      · rfl

theorem SeatInvariant.released
    (hs : SeatInvariant s) {id : MealBookingId} {row flipped : MealBooking}
    (hrow : s.mealBooking.lookup id = some row) (hbooked : row.status = .booked)
    (hflipped : flipped.status = .cancelled) (hmenus : s'.menu = giveBackSeat s.menu id.menu)
    (hbooking : s'.mealBooking = s.mealBooking.insert id flipped) :
    SeatInvariant s' := by
  have hpos : 0 < s.seatsBooked id.menu := by
    have hseat := seatsTaken_insert hbooking id.menu
    simp only [hrow, Option.any_some, isSeatOn, hbooked, hflipped] at hseat
    have hcounter := hs id.menu
    simp at hseat
    omega
  intro menu
  rw [seatsBooked_giveBackSeat hmenus hpos menu]
  have htaken := seatsTaken_insert hbooking menu
  have hcounter := hs menu
  split
  · next hother =>
    subst hother
    simp [hrow, isSeatOn, hbooked, hflipped] at htaken
    omega
  · next hother =>
    simp [hrow, isSeatOn, hflipped, Ne.symm hother] at htaken
    omega

theorem SeatInvariant.deleted
    (hs : SeatInvariant s) {row : MenuRow} (hrow : s.menu.lookup menu = some row)
    (hempty : row.seatsBooked = 0) (hmenus : s'.menu = s.menu.erase menu)
    (hbooking : s'.mealBooking = s.mealBooking) :
    SeatInvariant s' := by
  apply seatInvariant_of_frame hs _ hbooking
  intro other
  unfold Db.seatsBooked
  rw [hmenus, lookup_erase_eq]
  split
  · next hother =>
    subst hother
    simp [hrow, hempty]
  · rfl

theorem SeatInvariant.published
    (hs : SeatInvariant s) {menu : Menu} (habsent : s.menu.lookup menu.id = none)
    (hmenus : s'.menu = s.menu.insert menu.id ⟨menu, 0⟩)
    (hbooking : s'.mealBooking = s.mealBooking) :
    SeatInvariant s' := by
  apply seatInvariant_of_frame hs _ hbooking
  intro other
  rw [seatsBooked_insert s' s.menu menu.id other _ hmenus]
  split
  · next hother =>
    subst hother
    simp [Db.seatsBooked, habsent]
  · rfl

/-! ## The claims that keep it -/

def Point.rowCurrent (s : Db) : Point → Bool
  | .bookClaim args _ fresh attempt _ =>
      !s.seatFree args.menu (fresh.capacity.getD unlimited) fresh.getVersion ||
        s.held args.id || s.placeable args.id attempt
  | _ => true

/-- Every claim of the run finds its row as `Point.rowCurrent` says. -/
def rowsCurrent (c : Config Db Point) : Move Request World → Prop
  | .advance id _ => (c.calls.lookup id).all (Point.rowCurrent c.shared) = true
  | _ => True

instance : ∀ c m, Decidable (rowsCurrent c m)
  | c, .advance id _ =>
      inferInstanceAs (Decidable ((c.calls.lookup id).all (Point.rowCurrent c.shared) = true))
  | _, .start _ => isTrue trivial
  | _, .abandon _ => isTrue trivial

theorem SeatInvariant.claim
    (hs : SeatInvariant s) {w : World} {args : BookArgs} {round : ℕ} {fresh : Menu} {attempt : ℤ}
    {price : Option LedgerAmount} {r : Except AppError (Claimed MealBooking)}
    (hcurrent : (Point.bookClaim args round fresh attempt price).rowCurrent s = true)
    (h : txWithRetry (bookClaim w args fresh attempt price) s = (r, s')) :
    SeatInvariant s' := by
  obtain ⟨rfl, -⟩ | ⟨m, old, hmenu, hcap, hversion, hold, hcancelled, hattempt, -, -⟩ |
    ⟨m, booking, hmenu, -, -, hheld, -, -, hbooking, rfl⟩ := claimAndPlace_cases h
  · exact hs
  · -- The guard excludes exactly this commit.
    have hold' : s.mealBooking.lookup args.id = some old := hold
    have hfree : s.seatFree args.menu (fresh.capacity.getD unlimited) fresh.getVersion =
        true := by
      simp [Db.seatFree, hmenu, hcap, hversion]
    have hattempt' : old.attempt ≠ attempt - 1 := hattempt
    simp [Point.rowCurrent, hfree, Db.held, Db.placeable, hold', hcancelled,
      hattempt'] at hcurrent
  · have hstatus : booking.status = .booked := by
      obtain ⟨old, -, rfl⟩ | ⟨-, rfl⟩ := hbooking <;> rfl
    exact hs.placed args.id hmenu hheld hstatus rfl rfl

theorem SeatInvariant.write
    (hs : SeatInvariant s) {w : World} {p : Point} {n : Reply} (hcurrent : p.rowCurrent s = true)
    (h : Writes s w p s' n) :
    SeatInvariant s' := by
  cases h with
  | claim h => exact hs.claim hcurrent h
  | release h =>
      obtain ⟨-, rfl⟩ | ⟨row, hrow, hbooked, -, -, rfl⟩ := releaseSeat_cases h
      · exact hs
      · exact hs.released hrow hbooked rfl rfl rfl
  | append | credit => exact seatInvariant_of_frame hs (fun _ => rfl) rfl
  | createMenu h =>
      obtain ⟨-, rfl⟩ | ⟨menu, refs, habsent, -, -, -, rfl⟩ := createMenu_cases h
      · exact hs
      · exact hs.published habsent rfl rfl
  | updateMenu h =>
      obtain rfl | ⟨row, cap, hrow, rfl⟩ := updateMenu_cases h
      · exact hs
      · exact seatInvariant_of_frame hs (seatsBooked_replace hrow rfl rfl) rfl
  | deleteMenu h =>
      obtain rfl | ⟨row, hrow, hempty, rfl⟩ := deleteMenu_cases h
      · exact hs
      · exact hs.deleted hrow hempty rfl rfl
  | createDish hfresh h =>
      obtain rfl | ⟨row, hrow, rfl⟩ := createDish_cases h
      · exact hs
      · exact seatInvariant_of_frame hs (seatsBooked_replace hrow rfl rfl) rfl
  | updateDish h =>
      obtain rfl | ⟨row, stored, hrow, -, rfl⟩ := updateDish_cases h
      · exact hs
      · exact seatInvariant_of_frame hs (seatsBooked_replace hrow rfl rfl) rfl
  | deleteDish h =>
      obtain rfl | ⟨row, stored, hrow, -, rfl⟩ := deleteDish_cases h
      · exact hs
      · exact seatInvariant_of_frame hs (seatsBooked_replace hrow rfl rfl) rfl

theorem seatCounter_relyGuarantee :
    machine.RelyGuarantee rowsCurrent SeatInvariant (fun _ _ _ => True) where
  entry := fun _ _ _ _ => trivial
  own := by
    intro c id w p s n hc hguard hp hnext
    refine ⟨?_, fun _ _ => trivial⟩
    have hcurrent : p.rowCurrent c.shared = true := by
      simpa [rowsCurrent, hp] using hguard
    obtain rfl | hwrites := next_cases hnext
    · exact hc.shared
    · exact hc.shared.write hcurrent hwrites
  others := fun _ _ _ _ _ _ _ _ => trivial
  rollback := fun hc _ => ⟨hc.shared, fun _ _ _ _ => trivial⟩

/-- In every run whose claims find their row current, each menu's `seats_booked` is the
number of its booked rows. -/
theorem seatsBooked_eq_seatsTaken
    {ms : List (Move Request World)} {c : Config Db Point}
    (hguard : machine.Guarded rowsCurrent start ms) (hrun : machine.run start ms = some c)
    (menu : MenuId) (row : MenuRow) (hrow : c.shared.menu.lookup menu = some row) :
    row.seatsBooked = (c.shared.seatsTaken menu : ℤ) := by
  have hholds := seatCounter_relyGuarantee.holds_run
    (Config.initial_holds _ seatInvariant_empty) hguard hrun
  have hcounter := hholds.shared menu
  simpa [Db.seatsBooked, hrow] using hcounter

section Runs

open Sample

def bookAndCancel : List (Move Request World) :=
  [publishLunch, tick 0, bookLunch, tick 1, tick 1, tick 1, tick 1,
    cancelLunch, tick 2, tick 2, tick 2]

theorem seatsBooked_eq_seatsTaken_bookAndCancel :
    ∃ c row, machine.run start bookAndCancel = some c ∧
      c.shared.menu.lookup lunchMenu = some row ∧
      row.seatsBooked = (c.shared.seatsTaken lunchMenu : ℤ) := by
  have hguard : machine.Guarded rowsCurrent start bookAndCancel := by decide
  have hend : (machine.run start bookAndCancel).any
      (fun c => (c.shared.menu.lookup lunchMenu).isSome) = true := by decide
  obtain ⟨c, hrun, hmenu⟩ := (Option.any_eq_true _ _).mp hend
  obtain ⟨row, hrow⟩ := Option.isSome_iff_exists.mp hmenu
  exact ⟨c, row, hrun, hrow, seatsBooked_eq_seatsTaken hguard hrun lunchMenu row hrow⟩

/-- Call 1 prices the menu for its first attempt; call 2 books that attempt and call 3
cancels it; then call 1 claims. -/
def overtakenClaim : List (Move Request World) :=
  [publishLunch, tick 0, bookLunch, tick 1, tick 1, tick 1,
    bookLunch, tick 2, tick 2, tick 2, tick 2,
    cancelLunch, tick 3, tick 3, tick 3, tick 1]

theorem seat_leaks :
    ¬ ∀ (ms : List (Move Request World)) (c : Config Db Point),
      machine.run start ms = some c → ∀ menu row, c.shared.menu.lookup menu = some row →
        row.seatsBooked = (c.shared.seatsTaken menu : ℤ) := by
  intro h
  have hend : (machine.run start overtakenClaim).any (fun c =>
      (c.shared.menu.lookup lunchMenu).any fun row =>
        row.seatsBooked ≠ (c.shared.seatsTaken lunchMenu : ℤ)) = true := by decide
  obtain ⟨c, hrun, hmenu⟩ := (Option.any_eq_true _ _).mp hend
  obtain ⟨row, hrow, hne⟩ := (Option.any_eq_true _ _).mp hmenu
  exact of_decide_eq_true hne (h _ c hrun lunchMenu row hrow)

end Runs

end Hezarfen.Meal
