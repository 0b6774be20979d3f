import Hezarfen.Interleaving
import Hezarfen.MealStore

/-!
# The calls of the food program

The service functions `book`, `cancel`, `credit` and the kitchen's menu and dish
calls, cut at their round trips to the store.  Between two program points of a
call any step of another call may run, so every value a call carries to its next
point is a stale read there.  A point either reads, and then its function returns
only where the call goes next, or it runs one transaction.
-/

namespace Hezarfen.Meal

open Interleaving

structure BookArgs where
  menu : MenuId
  student : UserId
  bookedBy : UserId
  cutoff : MealCutoff
  deriving DecidableEq

def BookArgs.id (args : BookArgs) : MealBookingId := ⟨args.menu, args.student⟩

structure CancelArgs where
  id : MealBookingId
  cutoff : MealCutoff
  recordedBy : UserId
  deriving DecidableEq

structure CreditArgs where
  student : UserId
  amountMinor : LedgerAmount
  method : Option String
  note : Option String
  requestKey : Option PaymentRequestKey
  recordedBy : UserId
  deriving DecidableEq

structure MenuArgs where
  date : MenuDate
  slot : MenuSlot
  capacity : Option ℤ
  createdBy : UserId
  deriving DecidableEq

structure DishArgs where
  menu : MenuId
  name : String
  description : Option String
  priceMinor : DishPrice
  tags : List String
  deriving DecidableEq

inductive Request where
  | book (args : BookArgs)
  | cancel (args : CancelArgs)
  | credit (args : CreditArgs)
  | createMenu (args : MenuArgs)
  | updateMenu (id : MenuId) (capacity : Option (Option ℤ))
  | deleteMenu (id : MenuId)
  | createDish (args : DishArgs)
  | updateDish (id : MenuDishId) (patch : DishPatch)
  | deleteDish (id : MenuDishId)

/-- What the call does with the line that `append` answers. -/
inductive AfterAppend where
  | replayed (args : BookArgs) (round : ℕ)
  | cancelled (saved : MealBooking)
  | credited (requestKey : Option PaymentRequestKey) (amountMinor : LedgerAmount)
  deriving DecidableEq

inductive Point where
  | bookMenu (args : BookArgs) (round : ℕ)
  | bookRow (args : BookArgs) (round : ℕ) (fresh : Menu)
  | bookHeld (args : BookArgs) (round : ℕ)
  | bookPrice (args : BookArgs) (round : ℕ) (fresh : Menu) (attempt : ℤ)
  | bookClaim (args : BookArgs) (round : ℕ) (fresh : Menu) (attempt : ℤ)
      (price : Option LedgerAmount)
  | bookFull (args : BookArgs) (round : ℕ) (fresh : Menu)
  | cancelRow (args : CancelArgs)
  | cancelMenu (args : CancelArgs) (fresh : MealBooking)
  | cancelRelease (args : CancelArgs) (fresh : MealBooking)
  | cancelLost (args : CancelArgs) (fresh : MealBooking)
  | reverseCharge (charge : MealLedgerId) (line : MealLedger) (saved : MealBooking)
  | appendRead (line : MealLedger) (after : AfterAppend)
  | appendInsert (line : MealLedger) (after : AfterAppend)
  | appendReadBack (line : MealLedger) (after : AfterAppend)
  | credit (args : CreditArgs)
  | createMenu (args : MenuArgs)
  | updateMenuRead (id : MenuId) (capacity : Option (Option ℤ))
  | updateMenu (menu : Menu) (capacity : Option (Option ℤ))
  | deleteMenuRead (id : MenuId)
  | deleteMenu (menu : Menu)
  | deleteMenuRefused (id : MenuId)
  | createDish (args : DishArgs)
  | updateDishRead (id : MenuDishId) (patch : DishPatch)
  | updateDish (dish : MenuDish) (patch : DishPatch)
  | deleteDishRead (id : MenuDishId)
  | deleteDish (dish : MenuDish)
  deriving DecidableEq

inductive Answer where
  | booking (booking : MealBooking)
  | line (line : MealLedger)
  | menu (menu : Menu)
  | dish (dish : MenuDish)
  deriving DecidableEq

abbrev Reply := Next Point (Except AppError Answer)

structure World where
  now : Timestamp
  uuid : Uuid

def retryBook (args : BookArgs) (round : ℕ) : Reply :=
  if round + 1 < capWriteTries then .goto (.bookMenu args (round + 1))
  else .answer (.error (.conflict "the menu kept changing underneath this booking"))

def bookMenu (s : Db) (w : World) (args : BookArgs) (round : ℕ) : Reply :=
  match s.readMenu args.menu with
  | none => .answer (.error .notFound)
  | some fresh =>
      match checkDayNotPast fresh.date w.now with
      | .error e => .answer (.error e)
      | .ok _ =>
          match checkCutoff fresh.date fresh.slot args.cutoff w.now with
          | .error e => .answer (.error e)
          | .ok _ => .goto (.bookRow args round fresh)

/-- The row decides: a held seat replays its charge, anything else settles the attempt. -/
def bookRow (s : Db) (w : World) (args : BookArgs) (round : ℕ) (fresh : Menu) : Reply :=
  let existing := s.readBooking args.id
  match existing.filter fun row => row.status = .booked with
  | some held =>
      match MealLedger.chargeFor held args.bookedBy w.now with
      | none => .goto (.bookHeld args round)
      | some line => .goto (.appendRead line (.replayed args round))
  | none =>
      let attempt := existing.elim 1 fun prior => prior.attempt + 1
      if maxMealBookingAttempts < attempt then
        .answer (.error (.conflict
          "this seat has been booked and cancelled its maximum number of times"))
      else .goto (.bookPrice args round fresh attempt)

def bookHeld (s : Db) (args : BookArgs) (round : ℕ) : Reply :=
  match s.readBooking args.id with
  | some live =>
      if live.status = .booked then .answer (.ok (.booking live)) else retryBook args round
  | none => retryBook args round

def bookPrice (s : Db) (args : BookArgs) (round : ℕ) (fresh : Menu) (attempt : ℤ) : Reply :=
  match s.priceSnapshot args.menu with
  | .error e => .answer (.error e)
  | .ok price => .goto (.bookClaim args round fresh attempt price)

def freshRow (w : World) (args : BookArgs) (attempt : ℤ) (price : Option LedgerAmount) :
    MealBooking :=
  { menu := args.menu
    student := args.student
    bookedBy := args.bookedBy
    status := .booked
    attempt := attempt
    priceMinor := price
    cancelledAt := none
    createdAt := w.now }

def bookClaim (w : World) (args : BookArgs) (fresh : Menu) (attempt : ℤ)
    (price : Option LedgerAmount) : Tx Db (Claimed MealBooking) :=
  claimAndPlace args.menu (fresh.capacity.getD unlimited) fresh.getVersion
    (freshRow w args attempt price) price
    (MealLedger.chargeFor (freshRow w args attempt price) args.bookedBy w.now)

def bookClaimed (args : BookArgs) (round : ℕ) (fresh : Menu) :
    Except AppError (Claimed MealBooking) → Reply
  | .error e => .answer (.error e)
  | .ok (.made booking) => .answer (.ok (.booking booking))
  | .ok .duplicate => retryBook args round
  | .ok .full => .goto (.bookFull args round fresh)

def bookFull (s : Db) (args : BookArgs) (round : ℕ) (fresh : Menu) : Reply :=
  match s.readMenu args.menu with
  | none => .answer (.error .notFound)
  | some now =>
      if now.getVersion ≠ fresh.getVersion then retryBook args round
      else .answer (.error (.conflict "the menu is fully booked"))

def appended (stored : MealLedger) : AfterAppend → Reply
  | .replayed args round => .goto (.bookHeld args round)
  | .cancelled saved => .answer (.ok (.booking saved))
  | .credited requestKey amountMinor =>
      if requestKey.isSome ∧ stored.amountMinor ≠ amountMinor then
        .answer (.error (.conflict
          "this request_key was already used for a different amount"))
      else .answer (.ok (.line stored))

def appendRead (s : Db) (line : MealLedger) (after : AfterAppend) : Reply :=
  match s.readLine line.id with
  | some existing => appended existing after
  | none => .goto (.appendInsert line after)

def appendInserted (line : MealLedger) (after : AfterAppend) : Option MealLedger → Reply
  | some created => appended created after
  | none => .goto (.appendReadBack line after)

def appendReadBack (s : Db) (line : MealLedger) (after : AfterAppend) : Reply :=
  match s.readLine line.id with
  | some existing => appended existing after
  | none => .answer (.error (.internal "failed to write the ledger line"))

def creditLine (w : World) (args : CreditArgs) : MealLedger :=
  { id :=
      match args.requestKey with
      | some key => .forRequest args.student key
      | none => .generate w.uuid
    student := args.student
    kind := .credit
    amountMinor := args.amountMinor
    source := none
    method := args.method
    note := args.note
    recordedBy := args.recordedBy
    createdAt := w.now }

def reverseBooking (w : World) (booking : MealBooking) (recordedBy : UserId) : Reply :=
  match MealLedger.reversalFor booking recordedBy w.now with
  | none => .answer (.ok (.booking booking))
  | some (charge, line) => .goto (.reverseCharge charge line booking)

def reverseCharge (s : Db) (charge : MealLedgerId) (line : MealLedger)
    (saved : MealBooking) : Reply :=
  match s.readLine charge with
  | none => .answer (.ok (.booking saved))
  | some _ => .goto (.appendRead line (.cancelled saved))

def cancelRow (s : Db) (w : World) (args : CancelArgs) : Reply :=
  match s.readBooking args.id with
  | none => .answer (.error .notFound)
  | some fresh =>
      match fresh.status with
      | .cancelled => reverseBooking w fresh args.recordedBy
      | .booked => .goto (.cancelMenu args fresh)

def cancelMenu (s : Db) (w : World) (args : CancelArgs) (fresh : MealBooking) : Reply :=
  match s.readMenu fresh.menu with
  | none => .answer (.error .notFound)
  | some menu =>
      match checkCutoff menu.date menu.slot args.cutoff w.now with
      | .error e => .answer (.error e)
      | .ok _ => .goto (.cancelRelease args fresh)

def cancelReleased (w : World) (args : CancelArgs) (fresh : MealBooking) :
    Except AppError (Option MealBooking) → Reply
  | .error e => .answer (.error e)
  | .ok (some cancelled) => reverseBooking w cancelled args.recordedBy
  | .ok none => .goto (.cancelLost args fresh)

def refundableAfterLostFlip (seen live : MealBooking) : Except AppError Bool :=
  match live.status with
  | .booked => .error (.conflict "the seat was booked again while this cancellation ran")
  | .cancelled => .ok (live.attempt = seen.attempt)

def cancelLost (s : Db) (w : World) (args : CancelArgs) (fresh : MealBooking) : Reply :=
  match s.readBooking args.id with
  | none => .answer (.error .notFound)
  | some live =>
      match refundableAfterLostFlip fresh live with
      | .error e => .answer (.error e)
      | .ok false => .answer (.ok (.booking live))
      | .ok true => reverseBooking w live args.recordedBy

/-! ## The kitchen -/

def answerMenu (r : Except AppError Menu) : Reply := .answer (r.map Answer.menu)

def answerDish (r : Except AppError MenuDish) : Reply := .answer (r.map Answer.dish)

def readMenuThen (s : Db) (id : MenuId) (next : Menu → Point) : Reply :=
  match s.readMenu id with
  | none => .answer (.error .notFound)
  | some menu => .goto (next menu)

def readDishThen (s : Db) (id : MenuDishId) (next : MenuDish → Point) : Reply :=
  match s.readDish id with
  | none => .answer (.error .notFound)
  | some dish => .goto (next dish)

def menuDeleted (menu : Menu) : Except AppError (Option Menu) → Reply
  | .error e => .answer (.error e)
  | .ok (some deleted) => .answer (.ok (.menu deleted))
  | .ok none => .goto (.deleteMenuRefused menu.id)

def deleteMenuRefused (s : Db) (id : MenuId) : Reply :=
  match s.readMenu id with
  | some _ => .answer (.error (.conflict "the menu still has live bookings"))
  | none => .answer (.error .notFound)

def newDish (w : World) (args : DishArgs) : MenuDish :=
  { id := ⟨w.uuid⟩
    menu := args.menu
    name := args.name
    description := args.description
    priceMinor := args.priceMinor
    tags := args.tags
    createdAt := w.now }

def Request.entry : Request → Point
  | .book args => .bookMenu args 0
  | .cancel args => .cancelRow args
  | .credit args => .credit args
  | .createMenu args => .createMenu args
  | .updateMenu id capacity => .updateMenuRead id capacity
  | .deleteMenu id => .deleteMenuRead id
  | .createDish args => .createDish args
  | .updateDish id patch => .updateDishRead id patch
  | .deleteDish id => .deleteDishRead id

def commit {α : Type} (s : Db) (f : Tx Db α) (reply : Except AppError α → Reply) :
    Option (Db × Reply) :=
  some ((txWithRetry f s).2, reply (txWithRetry f s).1)

/-- One round trip of a call.  A step that mints a uuid waits for a fresh one. -/
def next (s : Db) (p : Point) (w : World) : Option (Db × Reply) :=
  match p with
  | .bookMenu args round => some (s, bookMenu s w args round)
  | .bookRow args round fresh => some (s, bookRow s w args round fresh)
  | .bookHeld args round => some (s, bookHeld s args round)
  | .bookPrice args round fresh attempt => some (s, bookPrice s args round fresh attempt)
  | .bookClaim args round fresh attempt price =>
      commit s (bookClaim w args fresh attempt price) (bookClaimed args round fresh)
  | .bookFull args round fresh => some (s, bookFull s args round fresh)
  | .cancelRow args => some (s, cancelRow s w args)
  | .cancelMenu args fresh => some (s, cancelMenu s w args fresh)
  | .cancelRelease args fresh =>
      commit s (releaseSeat fresh args.recordedBy w.now) (cancelReleased w args fresh)
  | .cancelLost args fresh => some (s, cancelLost s w args fresh)
  | .reverseCharge charge line saved => some (s, reverseCharge s charge line saved)
  | .appendRead line after => some (s, appendRead s line after)
  | .appendInsert line after =>
      some ((s.insertLine line).2, appendInserted line after (s.insertLine line).1)
  | .appendReadBack line after => some (s, appendReadBack s line after)
  | .credit args =>
      if w.uuid ∈ s.minted then none
      else
        some ({ s with minted := w.uuid :: s.minted },
          .goto (.appendRead (creditLine w args)
            (.credited args.requestKey args.amountMinor)))
  | .createMenu args =>
      commit s (createMenu args.date args.slot args.capacity args.createdBy w.now) answerMenu
  | .updateMenuRead id capacity =>
      some (s, readMenuThen s id fun menu => .updateMenu menu capacity)
  | .updateMenu menu capacity => commit s (updateMenu menu capacity) answerMenu
  | .deleteMenuRead id => some (s, readMenuThen s id .deleteMenu)
  | .deleteMenu menu => commit s (deleteMenu menu) (menuDeleted menu)
  | .deleteMenuRefused id => some (s, deleteMenuRefused s id)
  | .createDish args =>
      if w.uuid ∈ s.minted then none
      else commit s (createDish (newDish w args) maxDishesPerMenu) answerDish
  | .updateDishRead id patch =>
      some (s, readDishThen s id fun dish => .updateDish dish patch)
  | .updateDish dish patch => commit s (updateDish dish patch) answerDish
  | .deleteDishRead id => some (s, readDishThen s id .deleteDish)
  | .deleteDish dish => commit s (deleteDish dish) answerDish

def machine : Machine Db Point Request World (Except AppError Answer) where
  entry := Request.entry
  next := fun _ s p w => next s p w
  rollback := fun _ s => s

def start : Config Db Point := Config.initial Db.empty

/-! ## What one step can do -/

inductive Writes (s : Db) (w : World) : Point → Db → Reply → Prop where
  | claim {args round fresh attempt price r s'} :
      txWithRetry (bookClaim w args fresh attempt price) s = (r, s') →
      Writes s w (.bookClaim args round fresh attempt price) s'
        (bookClaimed args round fresh r)
  | release {args fresh r s'} :
      txWithRetry (releaseSeat fresh args.recordedBy w.now) s = (r, s') →
      Writes s w (.cancelRelease args fresh) s' (cancelReleased w args fresh r)
  | append {line after} :
      Writes s w (.appendInsert line after)
        { s with mealLedger := appendLine s.mealLedger line }
        (appendInserted line after (s.insertLine line).1)
  | credit {args} :
      w.uuid ∉ s.minted →
      Writes s w (.credit args) { s with minted := w.uuid :: s.minted }
        (.goto (.appendRead (creditLine w args)
          (.credited args.requestKey args.amountMinor)))
  | createMenu {args r s'} :
      txWithRetry (createMenu args.date args.slot args.capacity args.createdBy w.now) s =
        (r, s') →
      Writes s w (.createMenu args) s' (answerMenu r)
  | updateMenu {menu capacity r s'} :
      txWithRetry (updateMenu menu capacity) s = (r, s') →
      Writes s w (.updateMenu menu capacity) s' (answerMenu r)
  | deleteMenu {menu r s'} :
      txWithRetry (deleteMenu menu) s = (r, s') →
      Writes s w (.deleteMenu menu) s' (menuDeleted menu r)
  | createDish {args r s'} :
      w.uuid ∉ s.minted →
      txWithRetry (createDish (newDish w args) maxDishesPerMenu) s = (r, s') →
      Writes s w (.createDish args) s' (answerDish r)
  | updateDish {dish patch r s'} :
      txWithRetry (updateDish dish patch) s = (r, s') →
      Writes s w (.updateDish dish patch) s' (answerDish r)
  | deleteDish {dish r s'} :
      txWithRetry (deleteDish dish) s = (r, s') →
      Writes s w (.deleteDish dish) s' (answerDish r)

variable {s s' : Db} {w : World}

theorem next_cases
    {p : Point} {n : Reply} (h : next s p w = some (s', n)) :
    s' = s ∨ Writes s w p s' n := by
  cases p with
  | bookClaim =>
      cases h
      exact .inr (.claim rfl)
  | cancelRelease =>
      cases h
      exact .inr (.release rfl)
  | appendInsert =>
      simp only [next, Option.some.injEq, Prod.mk.injEq] at h
      obtain ⟨rfl, rfl⟩ := h
      rw [Db.insertLine_snd]
      exact .inr .append
  | credit =>
      simp only [next] at h
      split at h
      · cases h
      · next hfresh =>
        cases h
        exact .inr (.credit hfresh)
  | createMenu =>
      cases h
      exact .inr (.createMenu rfl)
  | updateMenu =>
      cases h
      exact .inr (.updateMenu rfl)
  | deleteMenu =>
      cases h
      exact .inr (.deleteMenu rfl)
  | createDish =>
      simp only [next] at h
      split at h
      · cases h
      · next hfresh =>
        cases h
        exact .inr (.createDish hfresh rfl)
  | updateDish =>
      cases h
      exact .inr (.updateDish rfl)
  | deleteDish =>
      cases h
      exact .inr (.deleteDish rfl)
  | _ =>
      cases h
      exact .inl rfl

def Point.idle : Point → Bool
  | .bookMenu .. | .bookHeld .. | .bookFull .. | .cancelLost .. | .deleteMenuRefused .. =>
      true
  | _ => false

/-- Where the value a point carries comes from: `Arrives s s' w p q` says how a step of
`p` from `s` to `s'` can lead to `q`. -/
inductive Arrives (s s' : Db) (w : World) : Point → Point → Prop where
  | idle {p q} : q.idle = true → Arrives s s' w p q
  | bookRow {args round fresh} :
      s.readMenu args.menu = some fresh →
      Arrives s s' w (.bookMenu args round) (.bookRow args round fresh)
  | replay {args round fresh held line} :
      s.readBooking args.id = some held → held.status = .booked →
      MealLedger.chargeFor held args.bookedBy w.now = some line →
      Arrives s s' w (.bookRow args round fresh) (.appendRead line (.replayed args round))
  | bookPrice {args round fresh attempt} :
      Arrives s s' w (.bookRow args round fresh) (.bookPrice args round fresh attempt)
  | bookClaim {args round fresh attempt price} :
      s.priceSnapshot args.menu = .ok price →
      Arrives s s' w (.bookPrice args round fresh attempt)
        (.bookClaim args round fresh attempt price)
  | cancelMenu {args fresh} :
      s.readBooking args.id = some fresh →
      Arrives s s' w (.cancelRow args) (.cancelMenu args fresh)
  | cancelRelease {args fresh} :
      Arrives s s' w (.cancelMenu args fresh) (.cancelRelease args fresh)
  | reverse {p id booking recordedBy charge line} :
      s.readBooking id = some booking → booking.status = .cancelled →
      MealLedger.reversalFor booking recordedBy w.now = some (charge, line) →
      Arrives s s' w p (.reverseCharge charge line booking)
  | released {args fresh booking recordedBy charge line} :
      txWithRetry (releaseSeat fresh args.recordedBy w.now) s = (.ok (some booking), s') →
      MealLedger.reversalFor booking recordedBy w.now = some (charge, line) →
      Arrives s s' w (.cancelRelease args fresh) (.reverseCharge charge line booking)
  | reverseAppend {charge line saved} :
      Arrives s s' w (.reverseCharge charge line saved) (.appendRead line (.cancelled saved))
  | appendInsert {line after} :
      Arrives s s' w (.appendRead line after) (.appendInsert line after)
  | appendReadBack {line after} :
      Arrives s s' w (.appendInsert line after) (.appendReadBack line after)
  | credit {args} :
      Arrives s s' w (.credit args)
        (.appendRead (creditLine w args) (.credited args.requestKey args.amountMinor))
  | updateMenu {id menu capacity} :
      s.readMenu id = some menu →
      Arrives s s' w (.updateMenuRead id capacity) (.updateMenu menu capacity)
  | deleteMenu {id menu} :
      s.readMenu id = some menu →
      Arrives s s' w (.deleteMenuRead id) (.deleteMenu menu)
  | updateDish {id dish patch} :
      s.readDish id = some dish →
      Arrives s s' w (.updateDishRead id patch) (.updateDish dish patch)
  | deleteDish {id dish} :
      s.readDish id = some dish →
      Arrives s s' w (.deleteDishRead id) (.deleteDish dish)

variable {q : Point}

theorem retryBook_idle
    {args : BookArgs} {round : ℕ} (h : retryBook args round = .goto q) :
    q.idle = true := by
  unfold retryBook at h
  split at h
  · cases h
    rfl
  · cases h

theorem reverseBooking_goto
    {booking : MealBooking} {recordedBy : UserId}
    (h : reverseBooking w booking recordedBy = .goto q) :
    ∃ charge line, MealLedger.reversalFor booking recordedBy w.now = some (charge, line) ∧
      q = .reverseCharge charge line booking := by
  unfold reverseBooking at h
  split at h
  · cases h
  · next charge line hline =>
    cases h
    exact ⟨charge, line, hline, rfl⟩

theorem appended_idle
    {stored : MealLedger} {after : AfterAppend}
    (h : appended stored after = .goto q) : q.idle = true := by
  unfold appended at h
  split at h
  · cases h
    rfl
  · cases h
  · split at h <;> cases h

theorem bookRow_arrives
    {args : BookArgs} {round : ℕ} {fresh : Menu}
    (h : bookRow s w args round fresh = .goto q) :
    Arrives s s' w (.bookRow args round fresh) q := by
  simp only [bookRow] at h
  split at h
  · next held hheld =>
    obtain ⟨hread, hstatus⟩ := Option.filter_eq_some_iff.mp hheld
    split at h
    · cases h
      exact .idle rfl
    · next line hline =>
      cases h
      exact .replay hread (by simpa using hstatus) hline
  · split at h
    · cases h
    · cases h
      exact .bookPrice

theorem cancelLost_arrives
    {args : CancelArgs} {fresh : MealBooking}
    (h : cancelLost s w args fresh = .goto q) :
    Arrives s s' w (.cancelLost args fresh) q := by
  unfold cancelLost at h
  split at h
  · cases h
  · next live hlive =>
    split at h
    · cases h
    · cases h
    · next hrefundable =>
      obtain ⟨charge, line, hline, rfl⟩ := reverseBooking_goto h
      have hcancelled : live.status = .cancelled := by
        cases hstatus : live.status with
        | booked => simp [refundableAfterLostFlip, hstatus] at hrefundable
        | cancelled => rfl
      exact .reverse hlive hcancelled hline

theorem next_arrives
    {p : Point} (h : next s p w = some (s', .goto q)) :
    Arrives s s' w p q := by
  cases p with
  | bookMenu =>
      simp only [next, bookMenu, Option.some.injEq, Prod.mk.injEq] at h
      obtain ⟨rfl, h⟩ := h
      split at h
      · cases h
      · next fresh hfresh =>
        split at h
        · cases h
        · split at h
          · cases h
          · cases h
            exact .bookRow hfresh
  | bookRow =>
      simp only [next, Option.some.injEq, Prod.mk.injEq] at h
      exact bookRow_arrives h.2
  | bookHeld =>
      simp only [next, bookHeld, Option.some.injEq, Prod.mk.injEq] at h
      obtain ⟨rfl, h⟩ := h
      split at h
      · split at h
        · cases h
        · exact .idle (retryBook_idle h)
      · exact .idle (retryBook_idle h)
  | bookPrice =>
      simp only [next, bookPrice, Option.some.injEq, Prod.mk.injEq] at h
      obtain ⟨rfl, h⟩ := h
      split at h
      · cases h
      · next price hprice =>
        cases h
        exact .bookClaim hprice
  | bookClaim =>
      simp only [next, commit, Option.some.injEq, Prod.mk.injEq] at h
      obtain ⟨-, h⟩ := h
      unfold bookClaimed at h
      split at h
      · cases h
      · cases h
      · exact .idle (retryBook_idle h)
      · cases h
        exact .idle rfl
  | bookFull =>
      simp only [next, bookFull, Option.some.injEq, Prod.mk.injEq] at h
      obtain ⟨rfl, h⟩ := h
      split at h
      · cases h
      · split at h
        · exact .idle (retryBook_idle h)
        · cases h
  | cancelRow =>
      simp only [next, cancelRow, Option.some.injEq, Prod.mk.injEq] at h
      obtain ⟨rfl, h⟩ := h
      split at h
      · cases h
      · next fresh hfresh =>
        split at h
        · next hcancelled =>
          obtain ⟨charge, line, hline, rfl⟩ := reverseBooking_goto h
          exact .reverse hfresh hcancelled hline
        · cases h
          exact .cancelMenu hfresh
  | cancelMenu =>
      simp only [next, cancelMenu, Option.some.injEq, Prod.mk.injEq] at h
      obtain ⟨rfl, h⟩ := h
      split at h
      · cases h
      · split at h
        · cases h
        · cases h
          exact .cancelRelease
  | cancelRelease =>
      simp only [next, commit, Option.some.injEq, Prod.mk.injEq] at h
      obtain ⟨rfl, h⟩ := h
      unfold cancelReleased at h
      split at h
      · cases h
      · next booking hreleased =>
        obtain ⟨charge, line, hline, rfl⟩ := reverseBooking_goto h
        exact .released (Prod.ext hreleased rfl) hline
      · cases h
        exact .idle rfl
  | cancelLost =>
      simp only [next, Option.some.injEq, Prod.mk.injEq] at h
      exact cancelLost_arrives h.2
  | reverseCharge =>
      simp only [next, reverseCharge, Option.some.injEq, Prod.mk.injEq] at h
      obtain ⟨rfl, h⟩ := h
      split at h
      · cases h
      · cases h
        exact .reverseAppend
  | appendRead =>
      simp only [next, appendRead, Option.some.injEq, Prod.mk.injEq] at h
      obtain ⟨rfl, h⟩ := h
      split at h
      · exact .idle (appended_idle h)
      · cases h
        exact .appendInsert
  | appendInsert =>
      simp only [next, Option.some.injEq, Prod.mk.injEq] at h
      obtain ⟨-, h⟩ := h
      unfold appendInserted at h
      split at h
      · exact .idle (appended_idle h)
      · cases h
        exact .appendReadBack
  | appendReadBack =>
      simp only [next, appendReadBack, Option.some.injEq, Prod.mk.injEq] at h
      obtain ⟨rfl, h⟩ := h
      split at h
      · exact .idle (appended_idle h)
      · cases h
  | credit =>
      simp only [next] at h
      split at h
      · cases h
      · cases h
        exact .credit
  | createMenu | updateMenu | updateDish | deleteDish => cases h
  | updateMenuRead =>
      simp only [next, readMenuThen, Option.some.injEq, Prod.mk.injEq] at h
      obtain ⟨rfl, h⟩ := h
      split at h
      · cases h
      · next menu hmenu =>
        cases h
        exact .updateMenu hmenu
  | deleteMenuRead =>
      simp only [next, readMenuThen, Option.some.injEq, Prod.mk.injEq] at h
      obtain ⟨rfl, h⟩ := h
      split at h
      · cases h
      · next menu hmenu =>
        cases h
        exact .deleteMenu hmenu
  | deleteMenu =>
      simp only [next, commit, Option.some.injEq, Prod.mk.injEq] at h
      obtain ⟨-, h⟩ := h
      unfold menuDeleted at h
      split at h
      · cases h
      · cases h
      · cases h
        exact .idle rfl
  | deleteMenuRefused =>
      simp only [next, deleteMenuRefused, Option.some.injEq, Prod.mk.injEq] at h
      obtain ⟨rfl, h⟩ := h
      split at h <;> cases h
  | createDish =>
      simp only [next] at h
      split at h <;> cases h
  | updateDishRead =>
      simp only [next, readDishThen, Option.some.injEq, Prod.mk.injEq] at h
      obtain ⟨rfl, h⟩ := h
      split at h
      · cases h
      · next dish hdish =>
        cases h
        exact .updateDish hdish
  | deleteDishRead =>
      simp only [next, readDishThen, Option.some.injEq, Prod.mk.injEq] at h
      obtain ⟨rfl, h⟩ := h
      split at h
      · cases h
      · next dish hdish =>
        cases h
        exact .deleteDish hdish

namespace Sample

def ali : UserId := ⟨.ending "0001"⟩

def lunchDay : MenuDate := ⟨"2099-09-14", by decide⟩

def lunch : MenuSlot := ⟨"lunch", by decide⟩

def lunchMenu : MenuId := .forSlot lunchDay lunch

/-- No cutoff is configured. -/
def noCutoff : MealCutoff := ⟨none, []⟩

def publishLunch : Move Request World := .start (.createMenu ⟨lunchDay, lunch, none, ali⟩)

def bookLunch : Move Request World := .start (.book ⟨lunchMenu, ali, ali, noCutoff⟩)

def cancelLunch : Move Request World := .start (.cancel ⟨⟨lunchMenu, ali⟩, noCutoff, ali⟩)

def addDish (price : DishPrice) : Move Request World :=
  .start (.createDish ⟨lunchMenu, "soup", none, price, []⟩)

def firstUuid : Uuid := .ending "000a"

def secondUuid : Uuid := .ending "000b"

/-- One step of the call `id` at the epoch. -/
def tick (id : ℕ) : Move Request World := .advance id ⟨0, firstUuid⟩

end Sample

end Hezarfen.Meal
