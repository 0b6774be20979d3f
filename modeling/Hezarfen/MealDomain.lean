import Hezarfen.Money

/-!
# Menus, dishes, seats and ledger lines

The rows of the food program and the pure functions over them: the derived ids,
the two deadline checks of a booking, and the charge and reversal lines of one
attempt on a seat.
-/

namespace Hezarfen.Meal

def isLeapYear (y : ℕ) : Bool := y % 4 = 0 ∧ (y % 100 ≠ 0 ∨ y % 400 = 0)

def daysInMonth (y m : ℕ) : ℕ :=
  if m = 2 then (if isLeapYear y then 29 else 28)
  else if m = 4 ∨ m = 6 ∨ m = 9 ∨ m = 11 then 30
  else 31

/-- Leap days of the years before `y`. -/
def leapDaysBefore (y : ℕ) : ℕ := (y + 3) / 4 - (y + 99) / 100 + (y + 399) / 400

def daysBeforeMonth (y m : ℕ) : ℕ :=
  ((List.range (m - 1)).map fun i => daysInMonth y (i + 1)).sum

def dayNumber (y m d : ℕ) : ℤ :=
  365 * y + leapDaysBefore y + daysBeforeMonth y m + d - 1 - 719528

def digitsToNat (digits : List Char) : ℕ :=
  digits.foldl (fun n c => 10 * n + (c.toNat - '0'.toNat)) 0

/-- The day number of a `YYYY-MM-DD` text that names a day the calendar has. -/
def parseDay (text : String) : Option ℤ :=
  match text.toList with
  | [y1, y2, y3, y4, s1, m1, m2, s2, d1, d2] =>
      let y := digitsToNat [y1, y2, y3, y4]
      let m := digitsToNat [m1, m2]
      let d := digitsToNat [d1, d2]
      if s1 = '-' ∧ s2 = '-' ∧ [y1, y2, y3, y4, m1, m2, d1, d2].all Char.isDigit ∧
          1 ≤ m ∧ m ≤ 12 ∧ 1 ≤ d ∧ d ≤ daysInMonth y m then
        some (dayNumber y m d)
      else none
  | _ => none

/-- A menu's day is text: the uniqueness rule of menus is an equality test on it. -/
structure MenuDate where
  asStr : String
  calendarDay : (parseDay asStr).isSome = true
  deriving DecidableEq

def MenuDate.dayEnd (date : MenuDate) : Option Timestamp :=
  (parseDay date.asStr).map fun day => (day + 1) * 86_400_000

/-! ## Slots and menus -/

structure MealSlotDef where
  name : String
  servingMinute : Option ℤ
  deriving DecidableEq

/-- The characters that no slot of a menu id may carry: the id is a URL segment. -/
def isSlotChar (c : Char) : Bool :=
  c != '/' && c != '\\' && c != '?' && c != '#' && c != '%'

structure MenuSlot where
  asStr : String
  addressable : asStr.toList.all isSlotChar = true
  deriving DecidableEq

structure MenuId where
  key : String
  deriving DecidableEq

def MenuId.forSlot (date : MenuDate) (slot : MenuSlot) : MenuId :=
  ⟨date.asStr ++ "_" ++ slot.asStr⟩

/-- A row of `menu` as the queries return it.  `publication` is not a column: it numbers
the publishes, so that two rows under one derived id are told apart. -/
structure Menu where
  id : MenuId
  date : MenuDate
  slot : MenuSlot
  capacity : Option ℤ
  version : Option ℤ
  createdBy : UserId
  createdAt : Timestamp
  publication : ℕ
  deriving DecidableEq

def Menu.getVersion (menu : Menu) : ℤ := menu.version.getD 0

structure MenuDishId where
  uuid : Uuid
  deriving DecidableEq

def maxDishPriceMinor : ℤ := 1_000_000

structure DishPrice where
  asMinor : ℤ
  nonneg : 0 ≤ asMinor
  le_max : asMinor ≤ maxDishPriceMinor

instance : DecidableEq DishPrice := fun a b =>
  decidable_of_iff (a.asMinor = b.asMinor) ⟨fun h => by cases a; cases b; simpa using h, congrArg _⟩

def DishPrice.hundred : DishPrice := ⟨100, by decide, by decide⟩

structure MenuDish where
  id : MenuDishId
  menu : MenuId
  name : String
  description : Option String
  priceMinor : DishPrice
  tags : List String
  createdAt : Timestamp
  deriving DecidableEq

/-- The (menu, student) pair, the primary key of `meal_booking`. -/
structure MealBookingId where
  menu : MenuId
  student : UserId
  deriving DecidableEq

def MealBookingId.key (id : MealBookingId) : String :=
  id.menu.key ++ "_" ++ id.student.key

inductive MealBookingStatus where
  | booked
  | cancelled
  deriving DecidableEq

structure MealBooking where
  menu : MenuId
  student : UserId
  bookedBy : UserId
  status : MealBookingStatus
  attempt : ℤ
  priceMinor : Option LedgerAmount
  cancelledAt : Option Timestamp
  createdAt : Timestamp
  deriving DecidableEq

def MealBooking.id (booking : MealBooking) : MealBookingId :=
  ⟨booking.menu, booking.student⟩

structure MealCutoff where
  minutes : Option ℤ
  slots : List MealSlotDef
  deriving DecidableEq

def MealCutoff.servingMinute (cutoff : MealCutoff) (slot : MenuSlot) : Option ℤ :=
  (cutoff.slots.find? fun slotDef => slotDef.name == slot.asStr).bind
    MealSlotDef.servingMinute

def servedAt (date : MenuDate) (servingMinute : Option ℤ) : Option Timestamp :=
  (parseDay date.asStr).map fun day =>
    day * 86_400_000 + saturatingMul (servingMinute.getD 0) 60_000

def checkDayNotPast (date : MenuDate) (now : Timestamp) : Except AppError Unit :=
  match date.dayEnd with
  | none => .ok ()
  | some dayEnd =>
      if dayEnd ≤ now then
        .error (.conflict "that meal's day has passed, so its menu takes no more bookings")
      else .ok ()

def checkCutoff (date : MenuDate) (slot : MenuSlot) (cutoff : MealCutoff)
    (now : Timestamp) : Except AppError Unit :=
  match cutoff.minutes with
  | none => .ok ()
  | some minutes =>
      match servedAt date (cutoff.servingMinute slot) with
      | none =>
          .error (.conflict
            "the menu's date is not a real calendar day, so its cutoff cannot be worked out")
      | some serving =>
          if (cutoff.servingMinute slot).isNone then .ok ()
          else if saturatingSub serving (saturatingMul minutes 60_000) ≤ now then
            .error (.conflict "the menu's booking cutoff has passed")
          else .ok ()

def maxMealBookingAttempts : ℤ := 10

inductive MealLedgerKind where
  | charge
  | credit
  | reversal
  deriving DecidableEq

def MealLedgerKind.sign : MealLedgerKind → ℤ
  | .charge => -1
  | .credit | .reversal => 1

structure MealLedgerId where
  key : String
  deriving DecidableEq

def MealLedgerKind.marker : MealLedgerKind → String
  | .charge => "c"
  | .reversal => "r"
  | .credit => "k"

def MealLedgerId.forAttempt (booking : MealBookingId) (attempt : ℤ)
    (kind : MealLedgerKind) : MealLedgerId :=
  ⟨booking.key ++ "_" ++ (kind.marker ++ toString attempt)⟩

def MealLedgerId.forRequest (student : UserId) (key : PaymentRequestKey) : MealLedgerId :=
  ⟨student.key ++ "_k" ++ "_" ++ key.asStr⟩

def MealLedgerId.generate (uuid : Uuid) : MealLedgerId := ⟨uuid.hyphenated⟩

structure MealLedger where
  id : MealLedgerId
  student : UserId
  kind : MealLedgerKind
  amountMinor : LedgerAmount
  source : Option String
  method : Option String
  note : Option String
  recordedBy : UserId
  createdAt : Timestamp
  deriving DecidableEq

def MealLedger.chargeFor (booking : MealBooking) (recordedBy : UserId) (now : Timestamp) :
    Option MealLedger :=
  booking.priceMinor.map fun amount =>
    { id := .forAttempt booking.id booking.attempt .charge
      student := booking.student
      kind := .charge
      amountMinor := amount
      source := some booking.id.key
      method := none
      note := none
      recordedBy := recordedBy
      createdAt := now }

def MealLedger.reversalFor (booking : MealBooking) (recordedBy : UserId)
    (now : Timestamp) : Option (MealLedgerId × MealLedger) :=
  booking.priceMinor.map fun amount =>
    let charge := MealLedgerId.forAttempt booking.id booking.attempt .charge
    (charge,
      { id := .forAttempt booking.id booking.attempt .reversal
        student := booking.student
        kind := .reversal
        amountMinor := amount
        source := some charge.key
        method := none
        note := none
        recordedBy := recordedBy
        createdAt := now })

theorem MealBookingId.key_injective : Function.Injective MealBookingId.key := by
  rintro ⟨⟨menu⟩, ⟨student⟩⟩ ⟨⟨menu'⟩, ⟨student'⟩⟩ h
  have hparts := Text.join_inj '_' student.lacks_underscore
    student'.lacks_underscore h
  obtain ⟨rfl, htext⟩ := hparts
  cases student
  cases student'
  simp_all

theorem lacks_underscore_attempt (kind : MealLedgerKind) (attempt : ℤ) :
    Text.Lacks '_' (kind.marker ++ toString attempt) := by
  apply Text.Lacks.append _ (Text.lacks_intRepr (by decide) (by decide) attempt)
  cases kind <;> decide

theorem marker_append_inj
    {kind kind' : MealLedgerKind} {attempt attempt' : ℤ}
    (h : kind.marker ++ toString attempt = kind'.marker ++ toString attempt') :
    kind = kind' ∧ attempt = attempt' := by
  have hlists := congrArg String.toList h
  have hkind : kind = kind' := by
    clear h
    cases kind <;> cases kind' <;>
      simp_all [MealLedgerKind.marker, String.toList_append]
  subst hkind
  exact ⟨rfl, Text.intToString_injective ((String.append_right_inj _).mp h)⟩

theorem MealLedgerId.forAttempt_inj
    {id id' : MealBookingId} {attempt attempt' : ℤ} {kind kind' : MealLedgerKind}
    (h : MealLedgerId.forAttempt id attempt kind = .forAttempt id' attempt' kind') :
    id = id' ∧ attempt = attempt' ∧ kind = kind' := by
  have hkey := congrArg MealLedgerId.key h
  obtain ⟨hid, htail⟩ := Text.join_inj '_'
    (lacks_underscore_attempt kind attempt) (lacks_underscore_attempt kind' attempt') hkey
  obtain ⟨hkind, hattempt⟩ := marker_append_inj htail
  exact ⟨MealBookingId.key_injective hid, hattempt, hkind⟩

/-- No keyed credit carries the id of a booking line: the part before its last separator
ends in `k`, where the booking line has a uuid. -/
theorem MealLedgerId.forAttempt_ne_forRequest
    (id : MealBookingId) (attempt : ℤ) (kind : MealLedgerKind)
    (student : UserId) (key : PaymentRequestKey) :
    MealLedgerId.forAttempt id attempt kind ≠ .forRequest student key := by
  intro h
  have hkey := congrArg MealLedgerId.key h
  obtain ⟨hid, -⟩ := Text.join_inj '_'
    (lacks_underscore_attempt kind attempt) key.lacks_underscore hkey
  have hseat : id.menu.key ++ String.singleton '_' ++ id.student.key =
      student.key ++ String.singleton '_' ++ "k" := by
    simpa [MealBookingId.key, String.append_assoc] using hid
  obtain ⟨-, hstudent⟩ := Text.join_inj '_' id.student.uuid.lacks_underscore
    (by decide) hseat
  have hcanonical := id.student.uuid.canonical
  rw [show id.student.uuid.hyphenated = "k" from hstudent] at hcanonical
  exact absurd hcanonical (by decide)

theorem MealLedgerId.forAttempt_ne_generate
    (id : MealBookingId) (attempt : ℤ) (kind : MealLedgerKind) (uuid : Uuid) :
    MealLedgerId.forAttempt id attempt kind ≠ .generate uuid := by
  intro h
  have hkey := congrArg MealLedgerId.key h
  have hmem : '_' ∈ uuid.hyphenated.toList := by
    have htext : uuid.hyphenated =
        id.key ++ "_" ++ (kind.marker ++ toString attempt) := hkey.symm
    rw [htext]
    simp [String.toList_append]
  exact uuid.lacks_underscore hmem

end Hezarfen.Meal
