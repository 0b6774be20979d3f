import Hezarfen.Domain

/-!
# Amounts and request keys of the two ledgers

Money is an integer number of minor units.  A stored amount is positive and
bounded, and the sign of a line lives in its kind.  A request key is the
client-chosen idempotence key that both ledgers put into the id of a line.
-/

namespace Hezarfen

def maxLedgerAmountMinor : ℤ := 10_000_000

structure LedgerAmount where
  asMinor : ℤ
  pos : 1 ≤ asMinor
  le_max : asMinor ≤ maxLedgerAmountMinor
  deriving DecidableEq

def LedgerAmount.tryNew (value : ℤ) : Except ValidationError LedgerAmount :=
  if h : 1 ≤ value ∧ value ≤ maxLedgerAmountMinor then .ok ⟨value, h.1, h.2⟩
  else .error (.invalid "amount_minor" "must be between 1 and 10000000 minor units")

def LedgerAmount.hundred : LedgerAmount := ⟨100, by decide, by decide⟩

theorem LedgerAmount.ext_minor
    {a b : LedgerAmount} (h : a.asMinor = b.asMinor) : a = b := by
  cases a
  cases b
  simpa using h

theorem LedgerAmount.tryNew_eq_ok
    {value : ℤ} {amount : LedgerAmount}
    (h : LedgerAmount.tryNew value = .ok amount) : amount.asMinor = value := by
  unfold tryNew at h
  split at h
  · cases h
    rfl
  · cases h

def LedgerAmount.minorOf (price : Option LedgerAmount) : ℤ :=
  price.elim 0 LedgerAmount.asMinor

@[simp]
theorem LedgerAmount.minorOf_none : LedgerAmount.minorOf none = 0 := rfl

@[simp]
theorem LedgerAmount.minorOf_some (amount : LedgerAmount) :
    LedgerAmount.minorOf (some amount) = amount.asMinor := rfl

def maxPaymentRequestKeyLen : ℕ := 64

def isRequestKeyChar (c : Char) : Bool := c.isAlphanum || c == '-'

structure PaymentRequestKey where
  asStr : String
  nonempty : asStr.toList.length ≠ 0
  length_le : asStr.toList.length ≤ maxPaymentRequestKeyLen
  charset : asStr.toList.all isRequestKeyChar = true
  deriving DecidableEq

def PaymentRequestKey.tryNew (value : String) : Except ValidationError PaymentRequestKey :=
  if h0 : value.toList.length = 0 then .error (.empty "request_key")
  else if h1 : maxPaymentRequestKeyLen < value.toList.length then
    .error (.tooLong "request_key" maxPaymentRequestKeyLen value.toList.length)
  else if h2 : value.toList.all isRequestKeyChar = true then
    .ok ⟨value, h0, not_lt.mp h1, h2⟩
  else .error (.invalid "request_key" "may contain only letters, digits and '-'")

theorem PaymentRequestKey.lacks_underscore (key : PaymentRequestKey) :
    Text.Lacks '_' key.asStr := by
  intro hmem
  have hchar := List.all_eq_true.mp key.charset '_' hmem
  revert hchar
  decide

end Hezarfen
