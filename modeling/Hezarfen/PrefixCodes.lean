import Hezarfen.Text

/-!
# Words over a prefix code

A code gives every symbol a non-empty word, and the word of one symbol followed by
anything never reads as the word of another.  A text of such words, one after the
other, reads back in one way, from the left.  A header in front of the text reads
back too when no header, with the text behind it, can be taken for another.
-/

namespace PrefixCode

variable {α β γ : Type*} {code : α → List β}

structure IsPrefixCode (code : α → List β) : Prop where
  ne_nil : ∀ a, code a ≠ []
  head : ∀ a b x y, code a ++ x = code b ++ y → a = b

theorem IsPrefixCode.flatMap_ne_nil
    (hcode : IsPrefixCode code) (a : α) (word : List α) : (a :: word).flatMap code ≠ [] := by
  rw [List.flatMap_cons]
  exact List.append_ne_nil_of_left_ne_nil (hcode.ne_nil a) _

/-- Equal texts are texts of one word. -/
theorem IsPrefixCode.flatMap_injective
    (hcode : IsPrefixCode code) : Function.Injective fun word : List α => word.flatMap code := by
  intro word
  induction word with
  | nil =>
      intro word' h
      cases word' with
      | nil => rfl
      | cons a word' => exact absurd h.symm (hcode.flatMap_ne_nil a word')
  | cons a word ih =>
      intro word' h
      cases word' with
      | nil => exact absurd h (hcode.flatMap_ne_nil a word)
      | cons b =>
          simp only [List.flatMap_cons] at h
          obtain rfl := hcode.head a b _ _ h
          rw [ih (List.append_cancel_left h)]

/-- The header of a text is read before its word. -/
theorem IsPrefixCode.headed_injective
    (hcode : IsPrefixCode code) {header : γ → List β}
    (hheader : ∀ c d (w w' : List α),
      header c ++ w.flatMap code = header d ++ w'.flatMap code → c = d)
    {c d : γ} {word word' : List α}
    (h : header c ++ word.flatMap code = header d ++ word'.flatMap code) :
    c = d ∧ word = word' := by
  obtain rfl := hheader c d word word' h
  exact ⟨rfl, hcode.flatMap_injective (List.append_cancel_left h)⟩

end PrefixCode

namespace Text

def parts (sep : Char) (s : String) : List String :=
  (s.toList.splitOn sep).map String.ofList

theorem parts_of_lacks
    {sep : Char} {s : String} (h : Lacks sep s) : parts sep s = [s] := by
  rw [parts, List.splitOn_eq_singleton h]
  simp

theorem parts_join
    {sep : Char} (a : String) {b : String} (hb : Lacks sep b) :
    parts sep (a ++ String.singleton sep ++ b) = parts sep a ++ [b] := by
  have hlist : (a ++ String.singleton sep ++ b).toList = a.toList ++ sep :: b.toList := by
    simp [String.toList_append]
  rw [parts, hlist, List.splitOn_append_cons_self, List.map_append]
  exact congrArg _ (parts_of_lacks hb)

end Text
