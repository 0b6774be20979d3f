import Hezarfen.MealDomain

/-!
# The tables of the food program and their transactions

Every write of the meal subsystem is one transaction of `db/menu.rs`,
`db/menu_dish.rs`, `db/meal_booking.rs` or `db/meal_ledger.rs`, embedded here
statement by statement.  Each transaction comes with one inversion lemma that
lists everything its commit can have done; the invariants of later modules are
case analyses over these lemmas and never unfold the transactions.
-/

namespace Hezarfen.Meal

variable {menu : MenuId} {price : Option LedgerAmount} {ledger : Table MealLedgerId MealLedger}
  {line stored : MealLedger} {id : MealBookingId} {cap seen : ℤ} {row : MealBooking}
  {r : Except AppError MenuDish} {dish : MenuDish}

/-- A row of `slot_ref`. -/
structure SlotRef where
  count : ℤ
  retired : Bool

/-- A stored menu with its seat counter, which no query returns. -/
structure MenuRow where
  menu : Menu
  seatsBooked : ℤ

/-- `publications` counts the publishes so far and `minted` holds every uuid that
`next_uuid` has handed out. -/
structure Db where
  menu : Table MenuId MenuRow
  menuDish : Table MenuDishId MenuDish
  mealBooking : Table MealBookingId MealBooking
  mealLedger : Table MealLedgerId MealLedger
  slotRef : Table String SlotRef
  publications : ℕ
  minted : List Uuid

variable {s s' : Db}

def Db.empty : Db := ⟨∅, ∅, ∅, ∅, ∅, 0, []⟩

def Db.readMenu (s : Db) (id : MenuId) : Option Menu := (s.menu.lookup id).map MenuRow.menu

def Db.readBooking (s : Db) (id : MealBookingId) : Option MealBooking :=
  s.mealBooking.lookup id

def Db.readLine (s : Db) (id : MealLedgerId) : Option MealLedger := s.mealLedger.lookup id

def Db.readDish (s : Db) (id : MenuDishId) : Option MenuDish := s.menuDish.lookup id

def Db.dishTotal (s : Db) (menu : MenuId) : ℤ :=
  Table.sum s.menuDish fun _ dish => if dish.menu = menu then dish.priceMinor.asMinor else 0

def Db.priceSnapshot (s : Db) (menu : MenuId) : Except AppError (Option LedgerAmount) :=
  if s.dishTotal menu = 0 then .ok none
  else
    match LedgerAmount.tryNew (s.dishTotal menu) with
    | .ok amount => .ok (some amount)
    | .error error => .error (.validation error)

theorem Db.priceSnapshot_eq_ok
    (h : s.priceSnapshot menu = .ok price) :
    LedgerAmount.minorOf price = s.dishTotal menu := by
  unfold priceSnapshot at h
  split at h
  · next hzero =>
    cases h
    simp [hzero]
  · split at h
    · next amount hamount =>
      cases h
      exact LedgerAmount.tryNew_eq_ok hamount
    · cases h

/-- `INSERT … ON CONFLICT (id) DO NOTHING`. -/
def appendLine (ledger : Table MealLedgerId MealLedger) (line : MealLedger) :
    Table MealLedgerId MealLedger :=
  match ledger.lookup line.id with
  | some _ => ledger
  | none => ledger.insert line.id line

def appendLine? (ledger : Table MealLedgerId MealLedger) :
    Option MealLedger → Table MealLedgerId MealLedger
  | some line => appendLine ledger line
  | none => ledger

/-- The insert of `append`; the answer is the inserted row, or nothing on a conflict. -/
def Db.insertLine (s : Db) (line : MealLedger) : Option MealLedger × Db :=
  match s.mealLedger.lookup line.id with
  | some _ => (none, s)
  | none => (some line, { s with mealLedger := s.mealLedger.insert line.id line })

theorem Db.insertLine_snd (s : Db) (line : MealLedger) :
    (s.insertLine line).2 = { s with mealLedger := appendLine s.mealLedger line } := by
  unfold insertLine appendLine
  split <;> rfl

theorem appendLine_of_present
    (h : ledger.lookup line.id = some stored) :
    appendLine ledger line = ledger := by
  simp [appendLine, h]

theorem appendLine_of_absent
    (h : ledger.lookup line.id = none) :
    appendLine ledger line = ledger.insert line.id line := by
  simp [appendLine, h]

theorem lookup_appendLine_of_some
    (line : MealLedger) {id : MealLedgerId} (h : ledger.lookup id = some stored) :
    (appendLine ledger line).lookup id = some stored := by
  unfold appendLine
  split
  · exact h
  · next habsent =>
    have hne : id ≠ line.id := by
      rintro rfl
      simp [h] at habsent
    rw [AList.lookup_insert_ne hne, h]

theorem lookup_appendLine_cases
    {id : MealLedgerId} (h : (appendLine ledger line).lookup id = some stored) :
    ledger.lookup id = some stored ∨ (id = line.id ∧ stored = line) := by
  unfold appendLine at h
  split at h
  · exact .inl h
  · obtain ⟨hid, rfl⟩ | ⟨-, h⟩ := insert_cases h
    · exact .inr ⟨hid, rfl⟩
    · exact .inl h

def Db.held (s : Db) (id : MealBookingId) : Bool :=
  (s.mealBooking.lookup id).any fun row => row.status = .booked

/-- The conditional seat bump: `WHERE seats_booked < cap AND COALESCE(version, 0) = seen`. -/
def Db.takeSeat (s : Db) (menu : MenuId) (cap seen : ℤ) : Option Db :=
  match s.menu.lookup menu with
  | none => none
  | some row =>
      if row.seatsBooked < cap ∧ row.menu.getVersion = seen then
        some { s with
          menu := s.menu.insert menu { row with seatsBooked := row.seatsBooked + 1 } }
      else none

/-- Revive a cancelled row that still stands at the attempt before `attempt`. -/
def Db.reviveSeat (s : Db) (id : MealBookingId) (attempt : ℤ)
    (price : Option LedgerAmount) : Option (MealBooking × Db) :=
  match s.mealBooking.lookup id with
  | none => none
  | some row =>
      if row.status = .cancelled ∧ row.attempt = attempt - 1 then
        let revived : MealBooking :=
          { row with
            status := .booked
            attempt := attempt
            priceMinor := price
            cancelledAt := none }
        some (revived, { s with mealBooking := s.mealBooking.insert id revived })
      else none

/-- `INSERT … ON CONFLICT (menu, student) DO NOTHING`. -/
def Db.insertSeat (s : Db) (row : MealBooking) : Option (MealBooking × Db) :=
  match s.mealBooking.lookup row.id with
  | some _ => none
  | none => some (row, { s with mealBooking := s.mealBooking.insert row.id row })

def unlimited : ℤ := 2 ^ 63 - 1

def claimAndPlace (menu : MenuId) (cap seen : ℤ) (row : MealBooking)
    (price : Option LedgerAmount) (charge : Option MealLedger) :
    Tx Db (Claimed MealBooking) := fun s =>
  if s.held ⟨menu, row.student⟩ then .ok (.duplicate, s)
  else
    match s.takeSeat menu cap seen with
    | none => if s.held ⟨menu, row.student⟩ then .ok (.duplicate, s) else .ok (.full, s)
    | some s1 =>
        let placed :=
          match s1.reviveSeat ⟨menu, row.student⟩ row.attempt price with
          | some revived => some revived
          | none => s1.insertSeat { row with menu := menu, priceMinor := price }
        match placed with
        -- The seat is already bumped here, and `Ok` commits it.
        | none => .ok (.duplicate, s1)
        | some (booking, s2) =>
            .ok (.made booking, { s2 with mealLedger := appendLine? s2.mealLedger charge })

/-- The seat bump of `claimAndPlace` finds a menu with a free seat at revision `seen`. -/
def Db.seatFree (s : Db) (menu : MenuId) (cap seen : ℤ) : Bool :=
  (s.menu.lookup menu).any fun row => row.seatsBooked < cap ∧ row.menu.getVersion = seen

/-- The row under `id` lets attempt `attempt` be placed: there is none, or it is cancelled
at the attempt before. -/
def Db.placeable (s : Db) (id : MealBookingId) (attempt : ℤ) : Bool :=
  match s.mealBooking.lookup id with
  | none => true
  | some row => row.status = .cancelled ∧ row.attempt = attempt - 1

theorem Db.takeSeat_eq_none
    (h : s.takeSeat menu cap seen = none) :
    s.seatFree menu cap seen = false := by
  unfold takeSeat at h
  unfold seatFree
  split at h
  · next hmenu => simp [hmenu]
  · next row hmenu =>
    split at h
    · cases h
    · next hfull => simpa [hmenu] using hfull

theorem Db.takeSeat_eq_some
    (h : s.takeSeat menu cap seen = some s') :
    ∃ m, s.menu.lookup menu = some m ∧ m.seatsBooked < cap ∧ m.menu.getVersion = seen ∧
      s' = { s with
        menu := s.menu.insert menu { m with seatsBooked := m.seatsBooked + 1 } } := by
  unfold takeSeat at h
  split at h
  · cases h
  · next m hmenu =>
    split at h
    · next hfree =>
      cases h
      exact ⟨m, hmenu, hfree.1, hfree.2, rfl⟩
    · cases h

theorem Db.reviveSeat_eq_some
    {attempt : ℤ} {booking : MealBooking} (h : s.reviveSeat id attempt price = some (booking, s')) :
    ∃ old, s.mealBooking.lookup id = some old ∧ old.status = .cancelled ∧
      old.attempt = attempt - 1 ∧
      booking = { old with
        status := .booked
        attempt := attempt
        priceMinor := price
        cancelledAt := none } ∧
      s' = { s with mealBooking := s.mealBooking.insert id booking } := by
  unfold reviveSeat at h
  split at h
  · cases h
  · next old hold =>
    split at h
    · next hcancelled =>
      cases h
      exact ⟨old, hold, hcancelled.1, hcancelled.2, rfl, rfl⟩
    · cases h

theorem Db.reviveSeat_eq_none
    {attempt : ℤ} (h : s.reviveSeat id attempt price = none) {old : MealBooking}
    (hold : s.mealBooking.lookup id = some old) (hcancelled : old.status = .cancelled) :
    old.attempt ≠ attempt - 1 := by
  intro hattempt
  simp [reviveSeat, hold, hcancelled, hattempt] at h

theorem Db.insertSeat_eq_some
    {booking : MealBooking} (h : s.insertSeat row = some (booking, s')) :
    s.mealBooking.lookup row.id = none ∧ booking = row ∧
      s' = { s with mealBooking := s.mealBooking.insert row.id row } := by
  unfold insertSeat at h
  split at h
  · cases h
  · next habsent =>
    cases h
    exact ⟨habsent, rfl, rfl⟩

theorem Db.insertSeat_eq_none
    (h : s.insertSeat row = none) :
    ∃ old, s.mealBooking.lookup row.id = some old := by
  unfold insertSeat at h
  split at h
  · next old hold => exact ⟨old, hold⟩
  · cases h

theorem MealBooking.cancelled_of_not_held
    (h : ¬ s.held id = true) {old : MealBooking} (hold : s.mealBooking.lookup id = some old) :
    old.status = .cancelled := by
  cases hstatus : old.status with
  | booked => simp [Db.held, hold, hstatus] at h
  | cancelled => rfl

/-- Everything the commit of `claimAndPlace` can have done. -/
theorem claimAndPlace_cases
    {charge : Option MealLedger} {r : Except AppError (Claimed MealBooking)}
    (h : txWithRetry (claimAndPlace menu cap seen row price charge) s = (r, s')) :
    (s' = s ∧ ((r = .ok .duplicate ∧ s.held ⟨menu, row.student⟩ = true) ∨
      (r = .ok .full ∧ s.seatFree menu cap seen = false))) ∨
    (∃ m old, s.menu.lookup menu = some m ∧ m.seatsBooked < cap ∧
      m.menu.getVersion = seen ∧
      s.mealBooking.lookup ⟨menu, row.student⟩ = some old ∧ old.status = .cancelled ∧
      old.attempt ≠ row.attempt - 1 ∧ r = .ok .duplicate ∧
      s' = { s with
        menu := s.menu.insert menu { m with seatsBooked := m.seatsBooked + 1 } }) ∨
    (∃ m booking, s.menu.lookup menu = some m ∧ m.seatsBooked < cap ∧
      m.menu.getVersion = seen ∧ s.held ⟨menu, row.student⟩ = false ∧
      s.placeable ⟨menu, row.student⟩ row.attempt = true ∧ r = .ok (.made booking) ∧
      ((∃ old, s.mealBooking.lookup ⟨menu, row.student⟩ = some old ∧
        booking = { old with
          status := .booked
          attempt := row.attempt
          priceMinor := price
          cancelledAt := none }) ∨
        (s.mealBooking.lookup ⟨menu, row.student⟩ = none ∧
          booking = { row with menu := menu, priceMinor := price })) ∧
      s' = { s with
        menu := s.menu.insert menu { m with seatsBooked := m.seatsBooked + 1 }
        mealBooking := s.mealBooking.insert ⟨menu, row.student⟩ booking
        mealLedger := appendLine? s.mealLedger charge }) := by
  have hclaim : ∀ v t, claimAndPlace menu cap seen row price charge s = .ok (v, t) →
      r = .ok v ∧ s' = t := by
    intro v t hv
    simp only [txWithRetry, hv, Prod.mk.injEq] at h
    exact ⟨h.1.symm, h.2.symm⟩
  unfold claimAndPlace at hclaim
  by_cases hheld : s.held ⟨menu, row.student⟩ = true
  · rw [if_pos hheld] at hclaim
    obtain ⟨hr, hs⟩ := hclaim _ _ rfl
    exact .inl ⟨hs, .inl ⟨hr, hheld⟩⟩
  rw [if_neg hheld] at hclaim
  cases hseat : s.takeSeat menu cap seen with
  | none =>
      simp only [hseat, if_neg hheld] at hclaim
      obtain ⟨hr, hs⟩ := hclaim _ _ rfl
      exact .inl ⟨hs, .inr ⟨hr, Db.takeSeat_eq_none hseat⟩⟩
  | some =>
      obtain ⟨m, hmenu, hcap, hversion, rfl⟩ := Db.takeSeat_eq_some hseat
      simp only [hseat] at hclaim
      split at hclaim
      · next hplaced =>
        obtain ⟨hr, hs⟩ := hclaim _ _ rfl
        split at hplaced
        · cases hplaced
        · next hrevive =>
          obtain ⟨old, hold⟩ := Db.insertSeat_eq_none hplaced
          have hcancelled := MealBooking.cancelled_of_not_held hheld hold
          exact .inr (.inl ⟨m, old, hmenu, hcap, hversion, hold, hcancelled,
            Db.reviveSeat_eq_none hrevive hold hcancelled, hr, hs⟩)
      · next booking s2 hplaced =>
        obtain ⟨hr, hs⟩ := hclaim _ _ rfl
        refine .inr (.inr ⟨m, booking, hmenu, hcap, hversion, by simpa using hheld, ?_⟩)
        split at hplaced
        · next revived hrevive =>
          cases hplaced
          obtain ⟨old, hold, hcancelled, hattempt, hbooking, rfl⟩ :=
            Db.reviveSeat_eq_some hrevive
          have hplaceable : s.placeable ⟨menu, row.student⟩ row.attempt = true := by
            have hold' : s.mealBooking.lookup ⟨menu, row.student⟩ = some old := hold
            simp [Db.placeable, hold', hcancelled, hattempt]
          exact ⟨hplaceable, hr, .inl ⟨old, hold, hbooking⟩, hs⟩
        · obtain ⟨habsent, rfl, rfl⟩ := Db.insertSeat_eq_some hplaced
          have habsent' : s.mealBooking.lookup ⟨menu, row.student⟩ = none := habsent
          have hplaceable : s.placeable ⟨menu, row.student⟩ row.attempt = true := by
            simp [Db.placeable, habsent']
          exact ⟨hplaceable, hr, .inr ⟨habsent', rfl⟩, hs⟩

/-- `seats_booked = GREATEST(seats_booked - 1, 0)`. -/
def giveBackSeat (menus : Table MenuId MenuRow) (menu : MenuId) : Table MenuId MenuRow :=
  match menus.lookup menu with
  | none => menus
  | some row => menus.insert menu { row with seatsBooked := max (row.seatsBooked - 1) 0 }

def refundLine (ledger : Table MealLedgerId MealLedger) :
    Option (MealLedgerId × MealLedger) → Table MealLedgerId MealLedger
  | none => ledger
  | some (charge, line) =>
      if (ledger.lookup charge).isSome ∧ (ledger.lookup line.id).isNone then
        appendLine ledger line
      else ledger

/-- Flip the seat to `cancelled`, give it back to the menu's counter and refund it. -/
def releaseSeat (booked : MealBooking) (recordedBy : UserId) (now : Timestamp) :
    Tx Db (Option MealBooking) := fun s =>
  match s.mealBooking.lookup booked.id with
  | none => .ok (none, s)
  | some row =>
      if row.status = .booked ∧ row.attempt = booked.attempt then
        let flipped : MealBooking :=
          { row with status := .cancelled, cancelledAt := some now }
        .ok (some flipped,
          { s with
            mealBooking := s.mealBooking.insert booked.id flipped
            menu := giveBackSeat s.menu booked.menu
            mealLedger :=
              refundLine s.mealLedger (MealLedger.reversalFor booked recordedBy now) })
      else .ok (none, s)

theorem releaseSeat_cases
    {booked : MealBooking} {recordedBy : UserId} {now : Timestamp}
    {r : Except AppError (Option MealBooking)}
    (h : txWithRetry (releaseSeat booked recordedBy now) s = (r, s')) :
    (r = .ok none ∧ s' = s) ∨
    (∃ row, s.mealBooking.lookup booked.id = some row ∧ row.status = .booked ∧
      row.attempt = booked.attempt ∧
      r = .ok (some { row with status := .cancelled, cancelledAt := some now }) ∧
      s' = { s with
        mealBooking := s.mealBooking.insert booked.id
          { row with status := .cancelled, cancelledAt := some now }
        menu := giveBackSeat s.menu booked.menu
        mealLedger :=
          refundLine s.mealLedger (MealLedger.reversalFor booked recordedBy now) }) := by
  unfold txWithRetry releaseSeat at h
  cases hrow : s.mealBooking.lookup booked.id with
  | none =>
      simp only [hrow, Prod.mk.injEq] at h
      exact .inl ⟨h.1.symm, h.2.symm⟩
  | some row =>
      simp only [hrow] at h
      by_cases hbooked : row.status = .booked ∧ row.attempt = booked.attempt
      · simp only [if_pos hbooked, Prod.mk.injEq] at h
        exact .inr ⟨row, rfl, hbooked.1, hbooked.2, h.1.symm, h.2.symm⟩
      · simp only [if_neg hbooked, Prod.mk.injEq] at h
        exact .inl ⟨h.1.symm, h.2.symm⟩

/-- Claim one reference on a slot, unless the slot is retired. -/
def claimSlotRef (refs : Table String SlotRef) (name : String) :
    Option (Table String SlotRef) :=
  match refs.lookup name with
  | none => some (refs.insert name ⟨1, false⟩)
  | some ref =>
      if ref.retired then none
      else some (refs.insert name { ref with count := ref.count + 1 })

def releaseSlotRef (refs : Table String SlotRef) (name : String) : Table String SlotRef :=
  match refs.lookup name with
  | none => refs
  | some ref => refs.insert name { ref with count := max (ref.count - 1) 0 }

def createMenu (date : MenuDate) (slot : MenuSlot) (capacity : Option ℤ)
    (createdBy : UserId) (now : Timestamp) : Tx Db Menu := fun s =>
  if (s.menu.lookup (.forSlot date slot)).isSome then
    .error (.conflict "a menu is already published for that date and slot")
  else
    match claimSlotRef s.slotRef slot.asStr with
    | none =>
        .error (.conflictOwned ("the '" ++ slot.asStr ++
          "' meal slot has been removed from the school's settings"))
    | some refs =>
        let menu : Menu :=
          { id := .forSlot date slot
            date := date
            slot := slot
            capacity := capacity
            version := some 0
            createdBy := createdBy
            createdAt := now
            publication := s.publications }
        .ok (menu,
          { s with
            slotRef := refs
            menu := s.menu.insert menu.id ⟨menu, 0⟩
            publications := s.publications + 1 })

theorem createMenu_cases
    {date : MenuDate} {slot : MenuSlot} {capacity : Option ℤ} {createdBy : UserId} {now : Timestamp}
    {r : Except AppError Menu}
    (h : txWithRetry (createMenu date slot capacity createdBy now) s = (r, s')) :
    ((∃ e, r = .error e) ∧ s' = s) ∨
    (∃ menu refs, s.menu.lookup menu.id = none ∧ menu.version = some 0 ∧
      menu.publication = s.publications ∧ r = .ok menu ∧
      s' = { s with
        slotRef := refs
        menu := s.menu.insert menu.id ⟨menu, 0⟩
        publications := s.publications + 1 }) := by
  unfold txWithRetry createMenu at h
  by_cases htaken : (s.menu.lookup (.forSlot date slot)).isSome = true
  · simp only [if_pos htaken, Prod.mk.injEq] at h
    exact .inl ⟨⟨_, h.1.symm⟩, h.2.symm⟩
  · simp only [if_neg htaken] at h
    cases hrefs : claimSlotRef s.slotRef slot.asStr with
    | none =>
        simp only [hrefs, Prod.mk.injEq] at h
        exact .inl ⟨⟨_, h.1.symm⟩, h.2.symm⟩
    | some refs =>
        simp only [hrefs, Prod.mk.injEq] at h
        refine .inr ⟨_, refs, ?_, ?_, ?_, h.1.symm, h.2.symm⟩
        · simpa using htaken
        · rfl
        · rfl

/-- A PATCH without a capacity writes nothing; otherwise cap and revision move together. -/
def updateMenu (menu : Menu) (capacity : Option (Option ℤ)) : Tx Db Menu := fun s =>
  match s.menu.lookup menu.id with
  | none => .error .notFound
  | some row =>
      match capacity with
      | none => .ok (row.menu, s)
      | some capacity =>
          let updated : Menu :=
            { row.menu with
              capacity := capacity
              version := some (row.menu.getVersion + 1) }
          .ok (updated, { s with menu := s.menu.insert menu.id { row with menu := updated } })

theorem updateMenu_cases
    {menu : Menu} {capacity : Option (Option ℤ)} {r : Except AppError Menu}
    (h : txWithRetry (updateMenu menu capacity) s = (r, s')) :
    s' = s ∨
    (∃ row cap, s.menu.lookup menu.id = some row ∧
      s' = { s with
        menu := s.menu.insert menu.id
          { row with
            menu :=
              { row.menu with
                capacity := cap
                version := some (row.menu.getVersion + 1) } } }) := by
  unfold txWithRetry updateMenu at h
  cases hrow : s.menu.lookup menu.id with
  | none =>
      simp only [hrow, Prod.mk.injEq] at h
      exact .inl h.2.symm
  | some row =>
      cases capacity with
      | none =>
          simp only [hrow, Prod.mk.injEq] at h
          exact .inl h.2.symm
      | some cap =>
          simp only [hrow, Prod.mk.injEq] at h
          exact .inr ⟨row, cap, rfl, h.2.symm⟩

def deleteMenu (menu : Menu) : Tx Db (Option Menu) := fun s =>
  match s.menu.lookup menu.id with
  | none => .ok (none, s)
  | some row =>
      if row.seatsBooked = 0 then
        .ok (some row.menu,
          { s with
            menuDish := Table.deleteWhere s.menuDish fun _ dish => dish.menu = menu.id
            menu := s.menu.erase menu.id
            slotRef := releaseSlotRef s.slotRef menu.slot.asStr })
      else .ok (none, s)

theorem deleteMenu_cases
    {menu : Menu} {r : Except AppError (Option Menu)}
    (h : txWithRetry (deleteMenu menu) s = (r, s')) :
    s' = s ∨
    (∃ row, s.menu.lookup menu.id = some row ∧ row.seatsBooked = 0 ∧
      s' = { s with
        menuDish := Table.deleteWhere s.menuDish fun _ dish => dish.menu = menu.id
        menu := s.menu.erase menu.id
        slotRef := releaseSlotRef s.slotRef menu.slot.asStr }) := by
  unfold txWithRetry deleteMenu at h
  cases hrow : s.menu.lookup menu.id with
  | none =>
      simp only [hrow, Prod.mk.injEq] at h
      exact .inl h.2.symm
  | some row =>
      simp only [hrow] at h
      by_cases hempty : row.seatsBooked = 0
      · simp only [if_pos hempty, Prod.mk.injEq] at h
        exact .inr ⟨row, rfl, hempty, h.2.symm⟩
      · simp only [if_neg hempty, Prod.mk.injEq] at h
        exact .inl h.2.symm

/-- `UPDATE menu SET version = COALESCE(version, 0) + 1`. -/
def MenuRow.bumped (row : MenuRow) : MenuRow :=
  { row with menu := { row.menu with version := some (row.menu.getVersion + 1) } }

def maxDishesPerMenu : ℕ := 50

def createDish (dish : MenuDish) (cap : ℕ) : Tx Db MenuDish := fun s =>
  match s.menu.lookup dish.menu with
  | none => .error .notFound
  | some row =>
      if Table.count s.menuDish (fun _ other => other.menu = dish.menu) < cap then
        .ok (dish,
          { s with
            menu := s.menu.insert dish.menu row.bumped
            menuDish := s.menuDish.insert dish.id dish
            minted := dish.id.uuid :: s.minted })
      else .error (.conflict "the menu already carries the maximum number of dishes")

theorem createDish_cases
    {cap : ℕ} (h : txWithRetry (createDish dish cap) s = (r, s')) :
    s' = s ∨
    (∃ row, s.menu.lookup dish.menu = some row ∧
      s' = { s with
        menu := s.menu.insert dish.menu row.bumped
        menuDish := s.menuDish.insert dish.id dish
        minted := dish.id.uuid :: s.minted }) := by
  unfold txWithRetry createDish at h
  cases hrow : s.menu.lookup dish.menu with
  | none =>
      simp only [hrow, Prod.mk.injEq] at h
      exact .inl h.2.symm
  | some row =>
      simp only [hrow] at h
      by_cases hroom :
          Table.count s.menuDish (fun _ other => other.menu = dish.menu) < cap
      · simp only [if_pos hroom, Prod.mk.injEq] at h
        exact .inr ⟨row, rfl, h.2.symm⟩
      · simp only [if_neg hroom, Prod.mk.injEq] at h
        exact .inl h.2.symm

structure DishPatch where
  name : Option String
  description : Option (Option String)
  priceMinor : Option DishPrice
  tags : Option (List String)
  deriving DecidableEq

def DishPatch.apply (patch : DishPatch) (dish : MenuDish) : MenuDish :=
  { dish with
    name := patch.name.getD dish.name
    description := patch.description.getD dish.description
    priceMinor := patch.priceMinor.getD dish.priceMinor
    tags := patch.tags.getD dish.tags }

def updateDish (dish : MenuDish) (patch : DishPatch) : Tx Db MenuDish := fun s =>
  match s.menu.lookup dish.menu with
  | none => .error .notFound
  | some row =>
      match s.menuDish.lookup dish.id with
      | none => .error .notFound
      | some stored =>
          .ok (patch.apply stored,
            { s with
              menu := s.menu.insert dish.menu row.bumped
              menuDish := s.menuDish.insert dish.id (patch.apply stored) })

theorem updateDish_cases
    {patch : DishPatch} (h : txWithRetry (updateDish dish patch) s = (r, s')) :
    s' = s ∨
    (∃ row stored, s.menu.lookup dish.menu = some row ∧
      s.menuDish.lookup dish.id = some stored ∧
      s' = { s with
        menu := s.menu.insert dish.menu row.bumped
        menuDish := s.menuDish.insert dish.id (patch.apply stored) }) := by
  unfold txWithRetry updateDish at h
  cases hrow : s.menu.lookup dish.menu with
  | none =>
      simp only [hrow, Prod.mk.injEq] at h
      exact .inl h.2.symm
  | some row =>
      cases hstored : s.menuDish.lookup dish.id with
      | none =>
          simp only [hrow, hstored, Prod.mk.injEq] at h
          exact .inl h.2.symm
      | some stored =>
          simp only [hrow, hstored, Prod.mk.injEq] at h
          exact .inr ⟨row, stored, rfl, rfl, h.2.symm⟩

def deleteDish (dish : MenuDish) : Tx Db MenuDish := fun s =>
  match s.menu.lookup dish.menu with
  | none => .error .notFound
  | some row =>
      match s.menuDish.lookup dish.id with
      | none => .error .notFound
      | some stored =>
          .ok (stored,
            { s with
              menu := s.menu.insert dish.menu row.bumped
              menuDish := s.menuDish.erase dish.id })

theorem deleteDish_cases
    (h : txWithRetry (deleteDish dish) s = (r, s')) :
    s' = s ∨
    (∃ row stored, s.menu.lookup dish.menu = some row ∧
      s.menuDish.lookup dish.id = some stored ∧
      s' = { s with
        menu := s.menu.insert dish.menu row.bumped
        menuDish := s.menuDish.erase dish.id }) := by
  unfold txWithRetry deleteDish at h
  cases hrow : s.menu.lookup dish.menu with
  | none =>
      simp only [hrow, Prod.mk.injEq] at h
      exact .inl h.2.symm
  | some row =>
      cases hstored : s.menuDish.lookup dish.id with
      | none =>
          simp only [hrow, hstored, Prod.mk.injEq] at h
          exact .inl h.2.symm
      | some stored =>
          simp only [hrow, hstored, Prod.mk.injEq] at h
          exact .inr ⟨row, stored, rfl, rfl, h.2.symm⟩

end Hezarfen.Meal
