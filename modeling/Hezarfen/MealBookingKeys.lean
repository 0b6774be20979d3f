import Hezarfen.LedgerIds
import Hezarfen.SettingsDomain

/-!
# The wire form of a booking id

A booking id is written as its menu and its student, joined by an underscore.  The menu half
has underscores of its own, one behind the day and whatever the slot carries, so the id is
read from the right: a uuid has none.
-/

namespace Hezarfen

/-! ## Uuids from text -/

def Uuid.ofHyphenated (text : List Char) : Option Uuid :=
  let text := String.ofList (text.map Char.toLower)
  if h : Uuid.isCanonical text = true then some ⟨text, h⟩ else none

def Uuid.grouped (digits : List Char) : List Char :=
  ['-'].intercalate [digits.take 8, (digits.drop 8).take 4, (digits.drop 12).take 4,
    (digits.drop 16).take 4, digits.drop 20]

/-- `Uuid::parse_str`: the plain, the hyphenated, the braced and the URN form. -/
def Uuid.parseStr (key : String) : Option Uuid :=
  let text := key.toList
  if text.length = 32 then ofHyphenated (grouped text)
  else if text.length = 36 then ofHyphenated text
  else if text.length = 38 then
    if text.head? = some '{' ∧ text.getLast? = some '}' then ofHyphenated (text.tail.dropLast)
    else none
  else if text.length = 45 then
    if text.take 9 = "urn:uuid:".toList then ofHyphenated (text.drop 9) else none
  else none

def Uuid.nil : Uuid := .ending "0000"

/-- A key that is no uuid reads as the nil one, which no row has. -/
def UserId.fromKey (key : String) : UserId := ⟨(Uuid.parseStr key).getD .nil⟩

theorem Uuid.length_hyphenated (id : Uuid) : id.hyphenated.toList.length = 36 := by
  have hcanonical := id.canonical
  simp only [isCanonical, Bool.and_eq_true, beq_iff_eq] at hcanonical
  exact hcanonical.1

theorem Uuid.toLower_of_mem
    (id : Uuid) {c : Char} (hmem : c ∈ id.hyphenated.toList) : c.toLower = c := by
  have hcanonical := id.canonical
  simp only [isCanonical, Bool.and_eq_true, List.all_eq_true] at hcanonical
  obtain ⟨i, hi, hget⟩ := List.getElem_of_mem hmem
  have hchar := hcanonical.2 (c, i)
    (List.mem_zipIdx_iff_getElem?.mpr (by simp [List.getElem?_eq_getElem hi, hget]))
  have hlower : ¬ (c.val ≥ 'A'.val ∧ c.val ≤ 'Z'.val) := by
    dsimp only at hchar
    split at hchar
    · rw [beq_iff_eq.mp hchar]
      decide
    · simp only [Bool.or_eq_true, Bool.and_eq_true, decide_eq_true_eq, Char.isDigit,
        Char.le_def, UInt32.le_iff_toNat_le, ge_iff_le] at hchar ⊢
      have hbounds : '9'.val.toNat < 'A'.val.toNat ∧ 'Z'.val.toNat < 'a'.val.toNat := by decide
      omega
  exact dif_neg hlower

theorem Uuid.parseStr_hyphenated (id : Uuid) : Uuid.parseStr id.hyphenated = some id := by
  have hlength := id.length_hyphenated
  have hlower : id.hyphenated.toList.map Char.toLower = id.hyphenated.toList :=
    (List.map_congr_left fun _ hmem => id.toLower_of_mem hmem).trans (List.map_id _)
  have hparsed : ofHyphenated id.hyphenated.toList = some id := by
    simp only [ofHyphenated, hlower, String.ofList_toList, id.canonical, dite_true]
  simp [parseStr, hlength, hparsed]

theorem UserId.fromKey_key (id : UserId) : UserId.fromKey id.key = id := by
  rw [UserId.fromKey, UserId.key, Uuid.parseStr_hyphenated]
  rfl

namespace Meal

open SchoolSettings (trim)

/-- `MenuDate::try_new`: the trimmed text is the one that its own day is written as. -/
def MenuDate.tryNew (value : String) : Except ValidationError MenuDate :=
  if h : (parseDay (trim value)).isSome = true then .ok ⟨trim value, h⟩
  else .error (.invalid "date" "must be a calendar day as YYYY-MM-DD")

def MenuId.fromKey (key : String) : MenuId := ⟨key⟩

/-- A key without an underscore reads as the nil pair. -/
def MealBookingId.fromKey (key : String) : MealBookingId :=
  let (menu, student) := (Text.rsplitOnce '_' key).getD ("", "")
  ⟨.fromKey menu, .fromKey student⟩

theorem MealBookingId.fromKey_key (id : MealBookingId) : MealBookingId.fromKey id.key = id := by
  have hsplit : Text.rsplitOnce '_' id.key = some (id.menu.key, id.student.key) :=
    Text.rsplitOnce_join id.menu.key id.student.uuid.lacks_underscore
  rw [MealBookingId.fromKey, hsplit]
  simp only [Option.getD_some, UserId.fromKey_key]
  rfl

example : MealBookingId.fromKey "no-pair-here" = ⟨⟨""⟩, ⟨.nil⟩⟩ := by decide

/-- Every booking id reads back from its key, whatever the slot of its menu carries; so a key
belongs to one id, and to one day, slot and student. -/
theorem MealBookingId.key_round_trip :
    (∀ id : MealBookingId, MealBookingId.fromKey id.key = id) ∧
      (∀ id id' : MealBookingId, id.key = id'.key → id = id') ∧
      ∀ (date date' : MenuDate) (slot slot' : MenuSlot) (student student' : UserId),
        MealBookingId.key ⟨.forSlot date slot, student⟩ =
            MealBookingId.key ⟨.forSlot date' slot', student'⟩ →
          date = date' ∧ slot = slot' ∧ student = student' := by
  refine ⟨fromKey_key, fun id id' hkey => key_injective hkey, ?_⟩
  intro date date' slot slot' student student' hkey
  obtain ⟨hmenu, hstudent⟩ := MealBookingId.mk.inj (key_injective hkey)
  obtain ⟨hdate, hslot⟩ := forSlot_inj hmenu
  exact ⟨hdate, hslot, hstudent⟩

end Meal

end Hezarfen
