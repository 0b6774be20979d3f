import Mathlib.Data.List.Basic
import Mathlib.Data.List.TakeWhile
import Mathlib.Data.Int.Notation

/-!
# Texts joined by a separator

A key made of parts joined by a separator reads back uniquely when its last part
does not contain the separator.  The decimal text of an integer is such a part.
-/

namespace Text

/-- Splitting at the last separator is unambiguous. -/
theorem append_cons_inj
    {sep : Char} {a b c d : List Char} (hb : sep ∉ b) (hd : sep ∉ d)
    (h : a ++ sep :: b = c ++ sep :: d) :
    a = c ∧ b = d := by
  rw [List.append_eq_append_iff] at h
  obtain ⟨mid, hc, htail⟩ | ⟨mid, ha, htail⟩ := h
  · cases mid with
    | nil =>
        simp only [List.nil_append, List.cons.injEq, true_and] at htail
        exact ⟨by simpa using hc.symm, htail⟩
    | cons =>
        simp only [List.cons_append, List.cons.injEq] at htail
        exact absurd (by rw [htail.2]; simp) hb
  · cases mid with
    | nil =>
        simp only [List.nil_append, List.cons.injEq, true_and] at htail
        exact ⟨by simpa using ha, htail.symm⟩
    | cons =>
        simp only [List.cons_append, List.cons.injEq] at htail
        exact absurd (by rw [htail.2]; simp) hd

/-- `sep` does not occur in `s`. -/
def Lacks (sep : Char) (s : String) : Prop := sep ∉ s.toList

instance (sep : Char) (s : String) : Decidable (Lacks sep s) :=
  inferInstanceAs (Decidable (sep ∉ s.toList))

theorem Lacks.append
    {sep : Char} {s t : String} (hs : Lacks sep s) (ht : Lacks sep t) :
    Lacks sep (s ++ t) := by
  unfold Lacks at *
  simp [String.toList_append, hs, ht]

/-- Two joined texts agree only if both parts do. -/
theorem join_inj
    (sep : Char) {a b c d : String} (hb : Lacks sep b) (hd : Lacks sep d)
    (h : a ++ String.singleton sep ++ b = c ++ String.singleton sep ++ d) :
    a = c ∧ b = d := by
  have hlists : a.toList ++ sep :: b.toList = c.toList ++ sep :: d.toList := by
    have htoList := congrArg String.toList h
    simpa [String.toList_append] using htoList
  have hparts := append_cons_inj hb hd hlists
  exact ⟨String.toList_inj.mp hparts.1, String.toList_inj.mp hparts.2⟩

/-- `rsplit_once` of the standard library. -/
def rsplitOnce (sep : Char) (s : String) : Option (String × String) :=
  let last := s.toList.reverse.takeWhile (· != sep)
  match s.toList.reverse.dropWhile (· != sep) with
  | [] => none
  | _ :: front => some (String.ofList front.reverse, String.ofList last.reverse)

theorem rsplitOnce_join
    {sep : Char} (a : String) {b : String} (hb : Lacks sep b) :
    rsplitOnce sep (a ++ String.singleton sep ++ b) = some (a, b) := by
  have hlist : (a ++ String.singleton sep ++ b).toList.reverse =
      b.toList.reverse ++ sep :: a.toList.reverse := by
    simp [String.toList_append]
  have hlast : ∀ c ∈ b.toList.reverse, (c != sep) = true := by
    intro c hc
    have hmem : c ∈ b.toList := List.mem_reverse.mp hc
    exact bne_iff_ne.mpr fun heq => hb (heq ▸ hmem)
  simp only [rsplitOnce, hlist]
  rw [List.takeWhile_append_of_pos hlast, List.dropWhile_append_of_pos hlast]
  simp

theorem natRepr_injective : Function.Injective Nat.repr := by
  intro m n h
  have hdigits := congrArg (fun s => Nat.ofDigitChars 10 s.toList 0) h
  simpa using hdigits

theorem lacks_natRepr
    {sep : Char} (hsep : sep.isDigit = false) (n : ℕ) : Lacks sep n.repr := by
  unfold Lacks
  intro hmem
  rw [Nat.toList_repr] at hmem
  have hdigit := Nat.isDigit_of_mem_toDigits (b := 10) (by decide) (by decide) hmem
  simp [hsep] at hdigit

theorem lacks_intRepr
    {sep : Char} (hsep : sep.isDigit = false) (hdash : sep ≠ '-') (n : ℤ) :
    Lacks sep (toString n) := by
  rw [Int.toString_eq_repr, Int.repr_eq_if]
  split
  · exact lacks_natRepr hsep _
  · apply Lacks.append _ (lacks_natRepr hsep _)
    simpa [Lacks] using hdash

theorem intToString_injective : Function.Injective (toString : ℤ → String) := by
  intro m n h
  rw [Int.toString_eq_repr, Int.toString_eq_repr, Int.repr_eq_if, Int.repr_eq_if] at h
  have hlacks : ∀ k : ℕ, '-' ∉ k.repr.toList := fun k => lacks_natRepr rfl k
  split at h <;> split at h
  · have hnat := natRepr_injective h
    omega
  · next _ _ =>
    exact absurd (by rw [h]; simp [String.toList_append]) (hlacks m.toNat)
  · next _ _ =>
    exact absurd (by rw [← h]; simp [String.toList_append]) (hlacks n.toNat)
  · have hnat := natRepr_injective ((String.append_right_inj _).mp h)
    omega

end Text
