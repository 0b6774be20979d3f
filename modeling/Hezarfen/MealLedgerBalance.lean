import Hezarfen.MealCalls
import Mathlib.Tactic.Linarith

/-!
# The meal ledger balances against the seats

A charge rides the transaction that takes the seat and a reversal the one that
gives it back, each under an id made of the seat and the attempt.  The appends
that follow in `book` and `cancel` only replay a line that is already there.
Hence in every reachable state, with no exception for calls in flight, the
charges of a student less the reversals are what the booked seats cost.

The calls hold stale rows.  `Snapshot` says what stays true of a row after it was
read: the stored row stands at the same or a later attempt, and the lines the row
owed at its attempt are in the ledger.
-/

namespace Hezarfen.Meal

open Interleaving

variable {s s' : Db} {line : MealLedger} {id : MealBookingId} {row seen booking : MealBooking}
  {recordedBy : UserId} {now : Timestamp} {kind : MealLedgerKind} {w : World} {p : Point}

def isLineOf (kind : MealLedgerKind) (student : UserId) (line : MealLedger) : Bool :=
  line.kind = kind ∧ line.student = student

def Db.ledgerTotal (s : Db) (kind : MealLedgerKind) (student : UserId) : ℤ :=
  Table.sum s.mealLedger fun _ line =>
    if isLineOf kind student line then line.amountMinor.asMinor else 0

def seatPrice (student : UserId) (id : MealBookingId) (row : MealBooking) : ℤ :=
  if id.student = student ∧ row.status = .booked then LedgerAmount.minorOf row.priceMinor
  else 0

/-- What a student's booked seats cost. -/
def Db.seatPrices (s : Db) (student : UserId) : ℤ :=
  Table.sum s.mealBooking (seatPrice student)

structure LedgerInvariant (s : Db) : Prop where
  rowKey : ∀ id row, s.mealBooking.lookup id = some row → row.id = id
  lineKey : ∀ id line, s.mealLedger.lookup id = some line → line.id = id
  /-- A line that is no credit belongs to an attempt its seat has reached. -/
  lineOf : ∀ key line, s.mealLedger.lookup key = some line → line.kind ≠ .credit →
    ∃ id n row, key = .forAttempt id n line.kind ∧ line.student = id.student ∧
      s.mealBooking.lookup id = some row ∧ n ≤ row.attempt
  lineKind : ∀ id n kind line, s.mealLedger.lookup (.forAttempt id n kind) = some line →
    line.kind = kind ∧ kind ≠ .credit
  charged : ∀ id row price, s.mealBooking.lookup id = some row →
    row.priceMinor = some price →
    ∃ line, s.mealLedger.lookup (.forAttempt id row.attempt .charge) = some line ∧
      line.amountMinor = price
  refunded : ∀ id row price, s.mealBooking.lookup id = some row →
    row.status = .cancelled → row.priceMinor = some price →
    ∃ line, s.mealLedger.lookup (.forAttempt id row.attempt .reversal) = some line
  backed : ∀ id n line, s.mealLedger.lookup (.forAttempt id n .reversal) = some line →
    ∃ charge, s.mealLedger.lookup (.forAttempt id n .charge) = some charge ∧
      charge.amountMinor = line.amountMinor
  /-- The attempt a seat stands at is reversed only once it is cancelled. -/
  standing : ∀ id row line, s.mealBooking.lookup id = some row →
    s.mealLedger.lookup (.forAttempt id row.attempt .reversal) = some line →
    row.status = .cancelled
  balance : ∀ student,
    s.ledgerTotal .charge student - s.ledgerTotal .reversal student = s.seatPrices student

theorem ledgerInvariant_empty : LedgerInvariant Db.empty := by
  constructor <;> simp [Db.empty, Db.ledgerTotal, Db.seatPrices]

theorem ledgerTotal_insert
    (habsent : s.mealLedger.lookup line.id = none)
    (hledger : s'.mealLedger = s.mealLedger.insert line.id line) (kind : MealLedgerKind)
    (student : UserId) :
    s'.ledgerTotal kind student =
      (if isLineOf kind student line then line.amountMinor.asMinor else 0) +
        s.ledgerTotal kind student := by
  unfold Db.ledgerTotal
  rw [hledger, Table.sum_insert_of_lookup_none habsent]

theorem seatPrices_insert
    (hbooking : s'.mealBooking = s.mealBooking.insert id row) (student : UserId) :
    s'.seatPrices student +
        (s.mealBooking.lookup id).elim 0 (seatPrice student id) =
      seatPrice student id row + s.seatPrices student := by
  unfold Db.seatPrices
  rw [hbooking]
  exact Table.sum_insert s.mealBooking id row (seatPrice student)

theorem LedgerInvariant.of_frame
    (hs : LedgerInvariant s) (hbooking : s'.mealBooking = s.mealBooking)
    (hledger : s'.mealLedger = s.mealLedger) :
    LedgerInvariant s' := by
  obtain ⟨h1, h2, h3, h4, h5, h6, h7, h8, h9⟩ := hs
  constructor
  all_goals
    simp only [hbooking, hledger, Db.ledgerTotal, Db.seatPrices] at *
    assumption

theorem LedgerInvariant.absent_above
    (hs : LedgerInvariant s) {n : ℤ}
    (hbelow : ∀ row, s.mealBooking.lookup id = some row → row.attempt < n) (kind : MealLedgerKind) :
    s.mealLedger.lookup (.forAttempt id n kind) = none := by
  cases hline : s.mealLedger.lookup (.forAttempt id n kind) with
  | none => rfl
  | some line =>
      obtain ⟨hkind, hcredit⟩ := hs.lineKind id n kind line hline
      obtain ⟨id', n', row, hkey, -, hrow, hle⟩ :=
        hs.lineOf _ line hline (hkind ▸ hcredit)
      obtain ⟨rfl, rfl, -⟩ := MealLedgerId.forAttempt_inj hkey
      exact absurd (hbelow row hrow) (by omega)

structure Extends (s s' : Db) : Prop where
  lines : ∀ id line, s.mealLedger.lookup id = some line →
    s'.mealLedger.lookup id = some line
  rows : ∀ id row, s.mealBooking.lookup id = some row →
    ∃ row', s'.mealBooking.lookup id = some row' ∧ row.attempt ≤ row'.attempt ∧
      (row.attempt = row'.attempt → row.priceMinor = row'.priceMinor)

theorem Extends.of_frame
    (hbooking : s'.mealBooking = s.mealBooking)
    (hlines : ∀ id line, s.mealLedger.lookup id = some line →
      s'.mealLedger.lookup id = some line) :
    Extends s s' where
  lines := hlines
  rows := fun id row hrow => ⟨row, by rw [hbooking, hrow], le_rfl, fun _ => rfl⟩

/-- What stays true of a row after it was read. -/
structure Snapshot (s : Db) (seen : MealBooking) : Prop where
  row : ∃ row, s.mealBooking.lookup seen.id = some row ∧ seen.attempt ≤ row.attempt ∧
    (seen.attempt = row.attempt → seen.priceMinor = row.priceMinor)
  charged : ∀ price, seen.priceMinor = some price →
    ∃ line, s.mealLedger.lookup (.forAttempt seen.id seen.attempt .charge) = some line
  refunded : seen.status = .cancelled → ∀ price, seen.priceMinor = some price →
    ∃ line, s.mealLedger.lookup (.forAttempt seen.id seen.attempt .reversal) = some line

theorem Snapshot.mono
    (h : Snapshot s seen) (hext : Extends s s') :
    Snapshot s' seen where
  row := by
    obtain ⟨row, hrow, hle, hprice⟩ := h.row
    obtain ⟨row', hrow', hle', hprice'⟩ := hext.rows _ row hrow
    refine ⟨row', hrow', hle.trans hle', ?_⟩
    intro hattempt
    rw [hprice (by omega), hprice' (by omega)]
  charged := by
    intro price hprice
    obtain ⟨line, hline⟩ := h.charged price hprice
    exact ⟨line, hext.lines _ line hline⟩
  refunded := by
    intro hcancelled price hprice
    obtain ⟨line, hline⟩ := h.refunded hcancelled price hprice
    exact ⟨line, hext.lines _ line hline⟩

theorem LedgerInvariant.snapshot
    (hs : LedgerInvariant s) (hrow : s.mealBooking.lookup id = some row) :
    Snapshot s row := by
  obtain rfl := hs.rowKey id row hrow
  constructor
  · exact ⟨row, hrow, le_rfl, fun _ => rfl⟩
  · intro price hprice
    obtain ⟨line, hline, -⟩ := hs.charged _ row price hrow hprice
    exact ⟨line, hline⟩
  · intro hcancelled price hprice
    exact hs.refunded _ row price hrow hcancelled hprice

def LineSettled (s : Db) (line : MealLedger) : Prop :=
  (∃ stored, s.mealLedger.lookup line.id = some stored) ∨
    (line.kind = .credit ∧ ∀ id n kind, line.id ≠ .forAttempt id n kind)

theorem LineSettled.mono
    (h : LineSettled s line) (hext : Extends s s') :
    LineSettled s' line := by
  obtain ⟨stored, hstored⟩ | hcredit := h
  · exact .inl ⟨stored, hext.lines _ stored hstored⟩
  · exact .inr hcredit

/-! ## The writes of the seats and the ledger -/

theorem chargeFor_id
    (h : MealLedger.chargeFor booking recordedBy now = some line) :
    line.id = .forAttempt booking.id booking.attempt .charge ∧ line.kind = .charge ∧
      line.student = booking.student ∧ booking.priceMinor = some line.amountMinor := by
  unfold MealLedger.chargeFor at h
  obtain ⟨amount, hamount, rfl⟩ := Option.map_eq_some_iff.mp h
  exact ⟨rfl, rfl, rfl, hamount⟩

theorem reversalFor_id
    {charge : MealLedgerId}
    (h : MealLedger.reversalFor booking recordedBy now = some (charge, line)) :
    charge = .forAttempt booking.id booking.attempt .charge ∧
      line.id = .forAttempt booking.id booking.attempt .reversal ∧
      line.kind = .reversal ∧ line.student = booking.student ∧
      booking.priceMinor = some line.amountMinor := by
  unfold MealLedger.reversalFor at h
  obtain ⟨amount, hamount, hpair⟩ := Option.map_eq_some_iff.mp h
  cases hpair
  exact ⟨rfl, rfl, rfl, rfl, hamount⟩

structure LineMoved (s s' : Db) (id : MealBookingId) (n : ℤ) (kind : MealLedgerKind)
    (price : Option LedgerAmount) : Prop where
  cases : ∀ key line, s'.mealLedger.lookup key = some line →
    s.mealLedger.lookup key = some line ∨
      (key = .forAttempt id n kind ∧ line.id = key ∧ line.kind = kind ∧
        line.student = id.student ∧ price = some line.amountMinor)
  lines : ∀ key line, s.mealLedger.lookup key = some line →
    s'.mealLedger.lookup key = some line
  new : ∀ amount, price = some amount →
    ∃ line, s'.mealLedger.lookup (.forAttempt id n kind) = some line ∧
      line.amountMinor = amount
  total : ∀ kind' student, s'.ledgerTotal kind' student =
    (if kind' = kind ∧ id.student = student then LedgerAmount.minorOf price else 0) +
      s.ledgerTotal kind' student

theorem LineMoved.of_free
    (id : MealBookingId) (n : ℤ) (kind : MealLedgerKind) (hledger : s'.mealLedger = s.mealLedger) :
    LineMoved s s' id n kind none := by
  constructor
  · intro key line hline
    exact .inl (hledger ▸ hline)
  · intro key line hline
    rw [hledger, hline]
  · intro amount hamount
    cases hamount
  · intro kind' student
    simp [Db.ledgerTotal, hledger]

theorem LineMoved.of_line
    {n : ℤ} (hid : line.id = .forAttempt id n kind) (hkind : line.kind = kind)
    (hstudent : line.student = id.student)
    (habsent : s.mealLedger.lookup (.forAttempt id n kind) = none)
    (hledger : s'.mealLedger = appendLine s.mealLedger line) :
    LineMoved s s' id n kind (some line.amountMinor) := by
  have habsent' : s.mealLedger.lookup line.id = none := by rw [hid, habsent]
  constructor
  · intro key stored hstored
    rw [hledger] at hstored
    obtain hold | ⟨rfl, rfl⟩ := lookup_appendLine_cases hstored
    · exact .inl hold
    · exact .inr ⟨hid, rfl, hkind, hstudent, rfl⟩
  · intro key stored hstored
    rw [hledger]
    exact lookup_appendLine_of_some line hstored
  · intro amount hamount
    cases hamount
    refine ⟨line, ?_, rfl⟩
    rw [hledger, appendLine_of_absent habsent', ← hid]
    exact AList.lookup_insert _
  · intro kind' student
    rw [appendLine_of_absent habsent'] at hledger
    rw [ledgerTotal_insert habsent' hledger]
    simp only [isLineOf, hkind, hstudent, LedgerAmount.minorOf_some, decide_eq_true_eq]
    congr 1
    simp only [eq_comm]

/-- A row moves forward under its key and the ledger gains the line of its attempt: what
is left to show is about that row alone. -/
theorem LedgerInvariant.moved
    (hs : LedgerInvariant s) (hcredit : kind ≠ .credit)
    (hbooking : s'.mealBooking = s.mealBooking.insert row.id row)
    (hmoved : LineMoved s s' row.id row.attempt kind row.priceMinor)
    (hlater : ∀ old, s.mealBooking.lookup row.id = some old → old.attempt ≤ row.attempt)
    (hcharged : ∀ price, row.priceMinor = some price →
      ∃ line, s'.mealLedger.lookup (.forAttempt row.id row.attempt .charge) = some line ∧
        line.amountMinor = price)
    (hrefunded : row.status = .cancelled → ∀ price, row.priceMinor = some price →
      ∃ line, s'.mealLedger.lookup (.forAttempt row.id row.attempt .reversal) = some line)
    (hstanding : ∀ line,
      s'.mealLedger.lookup (.forAttempt row.id row.attempt .reversal) = some line →
      row.status = .cancelled) (hbalance : ∀ student,
      s'.ledgerTotal .charge student - s'.ledgerTotal .reversal student =
        s'.seatPrices student) :
    LedgerInvariant s' := by
  have hrows : ∀ id row', s'.mealBooking.lookup id = some row' →
      (id = row.id ∧ row' = row) ∨
        (id ≠ row.id ∧ s.mealBooking.lookup id = some row') := by
    intro id row' hrow'
    rw [hbooking, lookup_insert_eq] at hrow'
    split at hrow'
    · next hid =>
      cases hrow'
      exact .inl ⟨hid, rfl⟩
    · next hid => exact .inr ⟨hid, hrow'⟩
  have hself : s'.mealBooking.lookup row.id = some row := by
    rw [hbooking, AList.lookup_insert]
  constructor
  case rowKey =>
    intro id row' hrow'
    obtain ⟨rfl, rfl⟩ | ⟨-, hrow'⟩ := hrows id row' hrow'
    · rfl
    · exact hs.rowKey id row' hrow'
  case lineKey =>
    intro id line hline
    obtain hline | ⟨-, hid, -⟩ := hmoved.cases id line hline
    · exact hs.lineKey id line hline
    · exact hid
  case lineOf =>
    intro key line hline hnot
    obtain hline | ⟨hkey, -, hkind, hstudent, -⟩ := hmoved.cases key line hline
    · obtain ⟨id, n, row', hkey, hstudent, hrow', hle⟩ := hs.lineOf key line hline hnot
      by_cases hid : id = row.id
      · subst hid
        exact ⟨_, n, row, hkey, hstudent, hself, hle.trans (hlater row' hrow')⟩
      · refine ⟨id, n, row', hkey, hstudent, ?_, hle⟩
        rw [hbooking, AList.lookup_insert_ne hid, hrow']
    · exact ⟨row.id, row.attempt, row, hkind ▸ hkey, hstudent, hself, le_rfl⟩
  case lineKind =>
    intro id n kind' line hline
    obtain hline | ⟨hkey, -, hkind, -⟩ := hmoved.cases _ line hline
    · exact hs.lineKind id n kind' line hline
    · obtain ⟨-, -, rfl⟩ := MealLedgerId.forAttempt_inj hkey
      exact ⟨hkind, hcredit⟩
  case charged =>
    intro id row' price hrow' hprice
    obtain ⟨rfl, rfl⟩ | ⟨-, hrow'⟩ := hrows id row' hrow'
    · exact hcharged price hprice
    · obtain ⟨line, hline, hamount⟩ := hs.charged id row' price hrow' hprice
      exact ⟨line, hmoved.lines _ line hline, hamount⟩
  case refunded =>
    intro id row' price hrow' hcancelled hprice
    obtain ⟨rfl, rfl⟩ | ⟨-, hrow'⟩ := hrows id row' hrow'
    · exact hrefunded hcancelled price hprice
    · obtain ⟨line, hline⟩ := hs.refunded id row' price hrow' hcancelled hprice
      exact ⟨line, hmoved.lines _ line hline⟩
  case backed =>
    intro id n line hline
    obtain hline | ⟨hkey, -, -, -, hamount⟩ := hmoved.cases _ line hline
    · obtain ⟨charge, hcharge, hamount⟩ := hs.backed id n line hline
      exact ⟨charge, hmoved.lines _ charge hcharge, hamount⟩
    · obtain ⟨rfl, rfl, -⟩ := MealLedgerId.forAttempt_inj hkey
      exact hcharged _ hamount
  case standing =>
    intro id row' line hrow' hline
    obtain ⟨rfl, rfl⟩ | ⟨hne, hrow'⟩ := hrows id row' hrow'
    · exact hstanding line hline
    · obtain hline | ⟨hkey, -⟩ := hmoved.cases _ line hline
      · exact hs.standing id row' line hrow' hline
      · exact absurd (MealLedgerId.forAttempt_inj hkey).1 hne
  case balance => exact hbalance

theorem LedgerInvariant.placed
    (hs : LedgerInvariant s) (hbooked : booking.status = .booked)
    (hold : ∀ old, s.mealBooking.lookup booking.id = some old →
      old.status = .cancelled ∧ old.attempt < booking.attempt)
    (hbooking : s'.mealBooking = s.mealBooking.insert booking.id booking)
    (hmoved : LineMoved s s' booking.id booking.attempt .charge booking.priceMinor) :
    LedgerInvariant s' := by
  refine hs.moved (by decide) hbooking hmoved (fun old h => (hold old h).2.le)
    (fun price hprice => hmoved.new price hprice) ?_ ?_ ?_
  · intro hcancelled
    rw [hbooked] at hcancelled
    cases hcancelled
  · intro line hline
    obtain hline | ⟨hkey, -⟩ := hmoved.cases _ line hline
    · rw [hs.absent_above (fun old h => (hold old h).2) .reversal] at hline
      cases hline
    · exact absurd (MealLedgerId.forAttempt_inj hkey).2.2 (by decide)
  · intro student
    have hprices := seatPrices_insert hbooking student
    have hnone : (s.mealBooking.lookup booking.id).elim 0 (seatPrice student booking.id) =
        0 := by
      cases hrow : s.mealBooking.lookup booking.id with
      | none => rfl
      | some old => simp [seatPrice, (hold old hrow).1]
    rw [hnone, add_zero] at hprices
    have hbalance := hs.balance student
    rw [hmoved.total .charge, hmoved.total .reversal, hprices]
    simp only [seatPrice, hbooked, and_true, true_and, reduceCtorEq, false_and, if_false]
    linarith

theorem LedgerInvariant.released
    (hs : LedgerInvariant s) {flipped : MealBooking}
    (hrow : s.mealBooking.lookup flipped.id = some row) (hbooked : row.status = .booked)
    (hcancelled : flipped.status = .cancelled) (hattempt : flipped.attempt = row.attempt)
    (hprice : flipped.priceMinor = row.priceMinor)
    (hbooking : s'.mealBooking = s.mealBooking.insert flipped.id flipped)
    (hmoved : LineMoved s s' flipped.id flipped.attempt .reversal flipped.priceMinor) :
    LedgerInvariant s' := by
  refine hs.moved (by decide) hbooking hmoved ?_ ?_ ?_ (fun _ _ => hcancelled) ?_
  · intro old hold
    obtain rfl : row = old := by simpa [hrow] using hold
    exact hattempt.ge
  · intro price hprice'
    obtain ⟨line, hline, hamount⟩ := hs.charged _ row price hrow (hprice ▸ hprice')
    exact ⟨line, hmoved.lines _ line (hattempt ▸ hline), hamount⟩
  · intro _ price hprice'
    obtain ⟨line, hline, -⟩ := hmoved.new price hprice'
    exact ⟨line, hline⟩
  · intro student
    have hprices := seatPrices_insert hbooking student
    have hflipped : seatPrice student flipped.id flipped = 0 := by
      simp [seatPrice, hcancelled]
    have hseat : seatPrice student flipped.id row =
        if flipped.id.student = student then LedgerAmount.minorOf flipped.priceMinor
        else 0 := by
      simp [seatPrice, hbooked, hprice]
    simp only [hrow, Option.elim, hflipped, hseat, zero_add] at hprices
    have hbalance := hs.balance student
    rw [hmoved.total .charge, hmoved.total .reversal]
    simp only [true_and, reduceCtorEq, false_and, if_false]
    linarith

/-- A credit touches neither side of the balance. -/
theorem LedgerInvariant.credited
    (hs : LedgerInvariant s) (hcredit : line.kind = .credit)
    (hid : ∀ id n kind, line.id ≠ .forAttempt id n kind) (hbooking : s'.mealBooking = s.mealBooking)
    (hledger : s'.mealLedger = appendLine s.mealLedger line) :
    LedgerInvariant s' := by
  cases hline : s.mealLedger.lookup line.id with
  | some =>
      rw [appendLine_of_present hline] at hledger
      exact hs.of_frame hbooking hledger
  | none =>
      have hcases : ∀ id n kind stored,
          s'.mealLedger.lookup (.forAttempt id n kind) = some stored ↔
            s.mealLedger.lookup (.forAttempt id n kind) = some stored := by
        intro id n kind stored
        rw [hledger, appendLine_of_absent hline,
          AList.lookup_insert_ne (hid id n kind).symm]
      have htotal : ∀ kind student, kind ≠ .credit →
          s'.ledgerTotal kind student = s.ledgerTotal kind student := by
        intro kind student hkind
        rw [appendLine_of_absent hline] at hledger
        rw [ledgerTotal_insert hline hledger]
        simp [isLineOf, hcredit, hkind.symm]
      constructor
      case lineKey =>
        intro id stored hstored
        rw [hledger] at hstored
        obtain hstored | ⟨rfl, rfl⟩ := lookup_appendLine_cases hstored
        · exact hs.lineKey id stored hstored
        · rfl
      case lineOf =>
        intro key stored hstored hnot
        rw [hledger] at hstored
        rw [hbooking]
        obtain hstored | ⟨-, rfl⟩ := lookup_appendLine_cases hstored
        · exact hs.lineOf key stored hstored hnot
        · exact absurd hcredit hnot
      case balance =>
        intro student
        rw [htotal _ _ (by decide), htotal _ _ (by decide)]
        simpa [Db.seatPrices, hbooking] using hs.balance student
      all_goals simp only [hcases, hbooking]
      case rowKey => exact hs.rowKey
      case lineKind => exact hs.lineKind
      case charged => exact hs.charged
      case refunded => exact hs.refunded
      case backed => exact hs.backed
      case standing => exact hs.standing

theorem Extends.of_moved
    (hbooking : s'.mealBooking = s.mealBooking.insert row.id row)
    (hmoved : LineMoved s s' row.id row.attempt kind row.priceMinor)
    (hlater : ∀ old, s.mealBooking.lookup row.id = some old →
      old.attempt ≤ row.attempt ∧
        (old.attempt = row.attempt → old.priceMinor = row.priceMinor)) :
    Extends s s' where
  lines := hmoved.lines
  rows := by
    intro id old hold
    by_cases hid : id = row.id
    · subst hid
      refine ⟨row, ?_, hlater old hold⟩
      rw [hbooking, AList.lookup_insert]
    · refine ⟨old, ?_, le_rfl, fun _ => rfl⟩
      rw [hbooking, AList.lookup_insert_ne hid, hold]

theorem LedgerInvariant.lineMoved_charge
    (hs : LedgerInvariant s) (hold : ∀ old, s.mealBooking.lookup booking.id = some old →
      old.attempt < booking.attempt) (hledger : s'.mealLedger =
      appendLine? s.mealLedger (MealLedger.chargeFor booking recordedBy now)) :
    LineMoved s s' booking.id booking.attempt .charge booking.priceMinor := by
  cases hcharge : MealLedger.chargeFor booking recordedBy now with
  | none =>
      have hfree : booking.priceMinor = none := by
        simpa [MealLedger.chargeFor] using hcharge
      rw [hcharge] at hledger
      rw [hfree]
      exact .of_free _ _ _ hledger
  | some =>
      obtain ⟨hid, hkind, hstudent, hprice⟩ := chargeFor_id hcharge
      rw [hcharge] at hledger
      rw [hprice]
      exact .of_line hid hkind hstudent (hs.absent_above hold .charge) hledger

theorem LedgerInvariant.lineMoved_refund
    (hs : LedgerInvariant s) (hseen : Snapshot s seen)
    (hrow : s.mealBooking.lookup seen.id = some row) (hbooked : row.status = .booked)
    (hattempt : row.attempt = seen.attempt) (hledger : s'.mealLedger =
      refundLine s.mealLedger (MealLedger.reversalFor seen recordedBy now)) :
    LineMoved s s' seen.id seen.attempt .reversal seen.priceMinor := by
  cases hreversal : MealLedger.reversalFor seen recordedBy now with
  | none =>
      have hfree : seen.priceMinor = none := by
        simpa [MealLedger.reversalFor] using hreversal
      rw [hreversal] at hledger
      rw [hfree]
      exact .of_free _ _ _ hledger
  | some refund =>
      obtain ⟨charge, line⟩ := refund
      obtain ⟨hcharge, hid, hkind, hstudent, hprice⟩ := reversalFor_id hreversal
      obtain ⟨stored, hstored⟩ := hseen.charged _ hprice
      have habsent : s.mealLedger.lookup (.forAttempt seen.id seen.attempt .reversal) =
          none := by
        cases hline : s.mealLedger.lookup (.forAttempt seen.id seen.attempt .reversal) with
        | none => rfl
        | some reversal =>
            have hcancelled := hs.standing _ row reversal hrow (hattempt ▸ hline)
            rw [hbooked] at hcancelled
            cases hcancelled
      have hwritten : s'.mealLedger = appendLine s.mealLedger line := by
        rw [hledger, hreversal, refundLine, if_pos]
        rw [hcharge, hid, hstored, habsent]
        exact ⟨rfl, rfl⟩
      rw [hprice]
      exact .of_line hid hkind hstudent habsent hwritten

theorem chargeFor_freshRow
    {args : BookArgs} (hid : booking.id = args.id) :
    MealLedger.chargeFor (freshRow w args booking.attempt booking.priceMinor)
        args.bookedBy w.now =
      MealLedger.chargeFor booking args.bookedBy w.now := by
  have hfresh : (freshRow w args booking.attempt booking.priceMinor).id = booking.id :=
    hid.symm
  have hstudent : booking.student = args.student := congrArg MealBookingId.student hid
  unfold MealLedger.chargeFor
  rw [hfresh, hstudent]
  rfl

theorem LedgerInvariant.claim
    (hs : LedgerInvariant s) {args : BookArgs} {fresh : Menu} {attempt : ℤ}
    {price : Option LedgerAmount} {r : Except AppError (Claimed MealBooking)}
    (h : txWithRetry (bookClaim w args fresh attempt price) s = (r, s')) :
    LedgerInvariant s' ∧ Extends s s' := by
  obtain ⟨rfl, -⟩ | ⟨m, old, -, -, -, -, -, -, -, rfl⟩ |
    ⟨m, booking, -, -, -, -, hplaceable, -, hbooking, hs'⟩ := claimAndPlace_cases h
  · exact ⟨hs, .of_frame rfl fun _ _ h => h⟩
  · exact ⟨hs.of_frame rfl rfl, .of_frame rfl fun _ _ h => h⟩
  · have hshape : booking.id = args.id ∧ booking.status = .booked ∧
        booking.attempt = attempt ∧ booking.priceMinor = price := by
      obtain ⟨old, hold, rfl⟩ | ⟨-, rfl⟩ := hbooking
      · exact ⟨hs.rowKey _ old hold, rfl, rfl, rfl⟩
      · exact ⟨rfl, rfl, rfl, rfl⟩
    obtain ⟨hid, hbooked, rfl, rfl⟩ := hshape
    have hold : ∀ old, s.mealBooking.lookup booking.id = some old →
        old.status = .cancelled ∧ old.attempt < booking.attempt := by
      intro old hrow
      have hrow' : s.mealBooking.lookup ⟨args.menu, args.student⟩ = some old := by
        rw [← hrow, hid]
        rfl
      simp only [Db.placeable, freshRow, hrow'] at hplaceable
      obtain ⟨hcancelled, hattempt⟩ := of_decide_eq_true hplaceable
      exact ⟨hcancelled, by omega⟩
    have hrows : s'.mealBooking = s.mealBooking.insert booking.id booking := by
      rw [hs', hid]
      rfl
    have hledger : s'.mealLedger =
        appendLine? s.mealLedger (MealLedger.chargeFor booking args.bookedBy w.now) := by
      rw [hs', chargeFor_freshRow hid]
    have hmoved := hs.lineMoved_charge (fun old h => (hold old h).2) hledger
    refine ⟨hs.placed hbooked hold hrows hmoved, .of_moved hrows hmoved ?_⟩
    intro old hrow
    have hlt := (hold old hrow).2
    exact ⟨hlt.le, fun heq => absurd heq hlt.ne⟩

theorem LedgerInvariant.release
    (hs : LedgerInvariant s) {r : Except AppError (Option MealBooking)} (hseen : Snapshot s seen)
    (h : txWithRetry (releaseSeat seen recordedBy now) s = (r, s')) :
    LedgerInvariant s' ∧ Extends s s' := by
  obtain ⟨-, rfl⟩ | ⟨row, hrow, hbooked, hattempt, -, hs'⟩ := releaseSeat_cases h
  · exact ⟨hs, .of_frame rfl fun _ _ h => h⟩
  · have hid : row.id = seen.id := hs.rowKey _ row hrow
    have hprice : seen.priceMinor = row.priceMinor := by
      obtain ⟨row', hrow', -, hsame⟩ := hseen.row
      obtain rfl : row = row' := by simpa [hrow] using hrow'
      exact hsame hattempt.symm
    obtain ⟨flipped, hflipped⟩ : ∃ flipped : MealBooking,
        flipped = { row with status := .cancelled, cancelledAt := some now } := ⟨_, rfl⟩
    have hid' : flipped.id = seen.id := by rw [hflipped, ← hid]; rfl
    have hattempt' : flipped.attempt = row.attempt := by rw [hflipped]
    have hprice' : flipped.priceMinor = row.priceMinor := by rw [hflipped]
    have hrow' : s.mealBooking.lookup flipped.id = some row := by rw [hid', hrow]
    have hrows : s'.mealBooking = s.mealBooking.insert flipped.id flipped := by
      rw [hs', hid', hflipped]
    have hmoved : LineMoved s s' flipped.id flipped.attempt .reversal flipped.priceMinor := by
      rw [hid', hattempt', hattempt, hprice', ← hprice]
      exact hs.lineMoved_refund hseen hrow hbooked hattempt (by rw [hs'])
    refine ⟨hs.released hrow' hbooked (by rw [hflipped]) hattempt' hprice' hrows hmoved,
      .of_moved hrows hmoved ?_⟩
    intro old hold
    obtain rfl : row = old := by simpa [hrow'] using hold
    exact ⟨hattempt'.ge, fun _ => hprice'.symm⟩

def Point.MoneySound (s : Db) : Point → Prop
  | .cancelMenu _ fresh | .cancelRelease _ fresh => Snapshot s fresh
  | .reverseCharge _ line _ | .appendRead line _ | .appendInsert line _ => LineSettled s line
  | _ => True

theorem Point.MoneySound.mono
    (h : p.MoneySound s) (hext : Extends s s') :
    p.MoneySound s' := by
  cases p with
  | cancelMenu | cancelRelease => exact Snapshot.mono h hext
  | reverseCharge | appendRead | appendInsert => exact LineSettled.mono h hext
  | _ => trivial

theorem LedgerInvariant.write
    (hs : LedgerInvariant s) {n : Reply} (hp : p.MoneySound s) (h : Writes s w p s' n) :
    LedgerInvariant s' ∧ Extends s s' := by
  have hframe : ∀ {t : Db}, t.mealBooking = s.mealBooking → t.mealLedger = s.mealLedger →
      LedgerInvariant t ∧ Extends s t := by
    intro t hbooking hledger
    exact ⟨hs.of_frame hbooking hledger,
      .of_frame hbooking fun id line hline => by rw [hledger, hline]⟩
  cases h with
  | claim h => exact hs.claim h
  | release h => exact hs.release hp h
  | @append line after =>
      obtain ⟨stored, hstored⟩ | ⟨hcredit, hid⟩ := hp
      · exact hframe rfl (appendLine_of_present hstored)
      · exact ⟨hs.credited hcredit hid rfl rfl,
          .of_frame rfl fun _ _ => lookup_appendLine_of_some line⟩
  | credit => exact hframe rfl rfl
  | createMenu h =>
      obtain ⟨-, rfl⟩ | ⟨menu, refs, -, -, -, -, rfl⟩ := createMenu_cases h <;>
        exact hframe rfl rfl
  | updateMenu h =>
      obtain rfl | ⟨row, cap, -, rfl⟩ := updateMenu_cases h <;> exact hframe rfl rfl
  | deleteMenu h =>
      obtain rfl | ⟨row, -, -, rfl⟩ := deleteMenu_cases h <;> exact hframe rfl rfl
  | createDish hfresh h =>
      obtain rfl | ⟨row, -, rfl⟩ := createDish_cases h <;> exact hframe rfl rfl
  | updateDish h =>
      obtain rfl | ⟨row, stored, -, -, rfl⟩ := updateDish_cases h <;> exact hframe rfl rfl
  | deleteDish h =>
      obtain rfl | ⟨row, stored, -, -, rfl⟩ := deleteDish_cases h <;> exact hframe rfl rfl

theorem LedgerInvariant.next
    (hs : LedgerInvariant s) {n : Reply} (hp : p.MoneySound s) (h : next s p w = some (s', n)) :
    LedgerInvariant s' ∧ Extends s s' := by
  obtain rfl | hwrites := next_cases h
  · exact ⟨hs, .of_frame rfl fun _ _ h => h⟩
  · exact hs.write hp hwrites

theorem creditLine_settled (s : Db) (w : World) (args : CreditArgs) :
    LineSettled s (creditLine w args) := by
  refine .inr ⟨rfl, ?_⟩
  intro id n kind
  cases hkey : args.requestKey with
  | none =>
      simp only [creditLine, hkey]
      exact (MealLedgerId.forAttempt_ne_generate id n kind w.uuid).symm
  | some key =>
      simp only [creditLine, hkey]
      exact (MealLedgerId.forAttempt_ne_forRequest id n kind args.student key).symm

/-- A cancelled row's reversal is already in the ledger. -/
theorem Snapshot.reversal_settled
    (h : Snapshot s booking) (hcancelled : booking.status = .cancelled) {charge : MealLedgerId}
    (hline : MealLedger.reversalFor booking recordedBy now = some (charge, line)) :
    LineSettled s line := by
  obtain ⟨-, hid, -, -, hprice⟩ := reversalFor_id hline
  obtain ⟨stored, hstored⟩ := h.refunded hcancelled _ hprice
  exact .inl ⟨stored, by rw [hid, hstored]⟩

theorem moneySound_arrives
    (hs : LedgerInvariant s) (hs' : LedgerInvariant s') (hext : Extends s s') {q : Point}
    (hp : p.MoneySound s) (h : Arrives s s' w p q) :
    q.MoneySound s' := by
  cases h with
  | idle hidle =>
      cases q with
      | bookMenu | bookHeld | bookFull | cancelLost | deleteMenuRefused => trivial
      | _ => cases hidle
  | replay hread hbooked hline =>
      obtain ⟨hid, -, -, hprice⟩ := chargeFor_id hline
      obtain ⟨stored, hstored⟩ := (hs.snapshot hread).charged _ hprice
      exact LineSettled.mono (.inl ⟨stored, by rw [hid, hstored]⟩) hext
  | cancelMenu hread => exact (hs.snapshot hread).mono hext
  | cancelRelease => exact Snapshot.mono hp hext
  | reverse hread hcancelled hline =>
      exact ((hs.snapshot hread).reversal_settled hcancelled hline).mono hext
  | @released args fresh booking recordedBy charge line hreleased hline =>
      obtain ⟨hnone, -⟩ | ⟨row, hrow, -, -, hsome, hstore⟩ := releaseSeat_cases hreleased
      · cases hnone
      · cases hsome
        have hrow' : s'.mealBooking.lookup fresh.id =
            some { row with status := .cancelled, cancelledAt := some w.now } := by
          rw [hstore]
          exact AList.lookup_insert _
        exact (hs'.snapshot hrow').reversal_settled rfl hline
  | reverseAppend | appendInsert => exact LineSettled.mono hp hext
  | credit => exact creditLine_settled s' w _
  | _ => trivial

theorem ledger_relyGuarantee :
    machine.RelyGuarantee (fun _ _ => True) LedgerInvariant
      (fun _ p s => p.MoneySound s) where
  entry := by
    intro id request s hs
    cases request <;> trivial
  own := by
    intro c id w p s n hc hguard hp hnext
    obtain ⟨hs, hext⟩ := hc.shared.next (hc.calls id p hp) hnext
    refine ⟨hs, ?_⟩
    rintro q rfl
    exact moneySound_arrives hc.shared hs hext (hc.calls id p hp) (next_arrives hnext)
  others := by
    intro c id w p s n hc hguard hp hnext id' q hne hq
    obtain ⟨-, hext⟩ := hc.shared.next (hc.calls id p hp) hnext
    exact (hc.calls id' q hq).mono hext
  rollback := fun hc _ => ⟨hc.shared, fun id' q _ hq => hc.calls id' q hq⟩

theorem ledgerInvariant_run
    {ms : List (Move Request World)} {c : Config Db Point}
    (hrun : machine.run start ms = some c) :
    LedgerInvariant c.shared :=
  (ledger_relyGuarantee.holds_run (Config.initial_holds _ ledgerInvariant_empty)
    (Machine.guarded_true _ _) hrun).shared

def MealLedger.isFor (id : MealBookingId) (n : ℤ) (kind : MealLedgerKind)
    (line : MealLedger) : Bool :=
  line.kind = kind ∧ line.id = .forAttempt id n kind

/-- In every reachable state each charge or reversal line belongs to one attempt on a seat
of its student, an attempt has at most one line of each kind, a reversal undoes a charge
of its own attempt and amount, and charges less reversals are the price of the booked
seats. -/
theorem meal_ledger_balances
    {ms : List (Move Request World)} {c : Config Db Point}
    (hrun : machine.run start ms = some c) (student : UserId) :
    (∀ key line, c.shared.mealLedger.lookup key = some line → line.kind ≠ .credit →
      ∃ id n, id.student = line.student ∧ line.isFor id n line.kind = true) ∧
    (∀ id n kind,
      Table.count c.shared.mealLedger (fun _ line => line.isFor id n kind) ≤ 1) ∧
    (∀ id n key reversal, c.shared.mealLedger.lookup key = some reversal →
      reversal.isFor id n .reversal = true →
      ∃ key' charge, c.shared.mealLedger.lookup key' = some charge ∧
        charge.isFor id n .charge = true ∧ charge.amountMinor = reversal.amountMinor) ∧
    c.shared.ledgerTotal .charge student - c.shared.ledgerTotal .reversal student =
      c.shared.seatPrices student := by
  have hs := ledgerInvariant_run hrun
  refine ⟨?_, ?_, ?_, hs.balance student⟩
  · intro key line hline hcredit
    obtain ⟨id, n, row, hkey, hstudent, -, -⟩ := hs.lineOf key line hline hcredit
    refine ⟨id, n, hstudent.symm, ?_⟩
    simp [MealLedger.isFor, ← hkey, hs.lineKey key line hline]
  · intro id n kind
    apply Table.count_le_one
    intro key line key' line' hline hfor hline' hfor'
    rw [← hs.lineKey key line hline, ← hs.lineKey key' line' hline',
      (of_decide_eq_true hfor).2, (of_decide_eq_true hfor').2]
  · intro id n key reversal hreversal hfor
    have hid := (of_decide_eq_true hfor).2
    have hkey := hs.lineKey key reversal hreversal
    rw [← hkey, hid] at hreversal
    obtain ⟨charge, hcharge, hamount⟩ := hs.backed id n reversal hreversal
    refine ⟨_, charge, hcharge, ?_, hamount⟩
    have hkind := (hs.lineKind id n .charge charge hcharge).1
    simp [MealLedger.isFor, hkind, hs.lineKey _ charge hcharge]

/-- The attempt a priced seat stands at has its charge at the seat's price, and a reversal of that
charge exactly when the seat is cancelled. -/
theorem attempts_documented
    {ms : List (Move Request World)} {c : Config Db Point}
    (hrun : machine.run start ms = some c) {id : MealBookingId} {row : MealBooking}
    {price : LedgerAmount} (hrow : c.shared.mealBooking.lookup id = some row)
    (hprice : row.priceMinor = some price) :
    (∃ line, c.shared.mealLedger.lookup (.forAttempt id row.attempt .charge) = some line ∧
      line.amountMinor = price) ∧
    (row.status = .cancelled ↔
      ∃ line, c.shared.mealLedger.lookup (.forAttempt id row.attempt .reversal) = some line ∧
        line.amountMinor = price) := by
  have hs := ledgerInvariant_run hrun
  obtain ⟨charge, hcharge, hamount⟩ := hs.charged id row price hrow hprice
  refine ⟨⟨charge, hcharge, hamount⟩, fun hcancelled => ?_, fun ⟨line, hline, _⟩ =>
    hs.standing id row line hrow hline⟩
  obtain ⟨line, hline⟩ := hs.refunded id row price hrow hcancelled hprice
  obtain ⟨charge', hcharge', hsame⟩ := hs.backed id row.attempt line hline
  rw [hcharge, Option.some.injEq] at hcharge'
  exact ⟨line, hline, hsame.symm.trans (hcharge' ▸ hamount)⟩

section Runs

open Sample

def bookTwice : List (Move Request World) :=
  [publishLunch, tick 0, addDish .hundred, tick 1,
    bookLunch, tick 2, tick 2, tick 2, tick 2,
    cancelLunch, tick 3, tick 3, tick 3, tick 3, tick 3,
    bookLunch, tick 4, tick 4, tick 4, tick 4]

theorem meal_ledger_balances_bookTwice :
    ∃ c, machine.run start bookTwice = some c ∧
      c.shared.ledgerTotal .charge ali = 200 ∧ c.shared.ledgerTotal .reversal ali = 100 ∧
      c.shared.ledgerTotal .charge ali - c.shared.ledgerTotal .reversal ali =
        c.shared.seatPrices ali := by
  have hend : (machine.run start bookTwice).any (fun c =>
      c.shared.ledgerTotal .charge ali = 200 ∧ c.shared.ledgerTotal .reversal ali = 100) =
      true := by decide
  obtain ⟨c, hrun, htotals⟩ := (Option.any_eq_true _ _).mp hend
  have htotals := of_decide_eq_true htotals
  exact ⟨c, hrun, htotals.1, htotals.2, (meal_ledger_balances hrun ali).2.2.2⟩

theorem attempts_documented_bookTwice :
    ∃ c id row, machine.run start bookTwice = some c ∧
      c.shared.mealBooking.lookup id = some row ∧ row.status = .booked ∧
      ∃ line, c.shared.mealLedger.lookup (.forAttempt id row.attempt .charge) = some line ∧
        line.amountMinor = .hundred := by
  have hend : (machine.run start bookTwice).any (fun c => c.shared.mealBooking.any fun id row =>
      decide (c.shared.mealBooking.lookup id = some row ∧ row.status = .booked ∧
        row.priceMinor = some .hundred)) = true := by decide
  obtain ⟨c, hrun, hseat⟩ := (Option.any_eq_true _ _).mp hend
  rw [Table.any_iff] at hseat
  obtain ⟨id, row, -, hfacts⟩ := hseat
  obtain ⟨hrow, hbooked, hprice⟩ := of_decide_eq_true hfacts
  exact ⟨c, id, row, hrun, hrow, hbooked, (attempts_documented hrun hrow hprice).1⟩

end Runs

end Hezarfen.Meal
