import Mathlib.Data.List.Basic
import Mathlib.Data.List.MinMax
import Mathlib.Data.List.TakeWhile
import Mathlib.Data.String.Basic

/-!
# Path templates

A path is a list of segments, and so is a template, in which a segment in braces is a
placeholder for one segment that is not empty.  Two templates that fit one path overlap; where
several do, a router takes the one with the static segment at the first position in which they
differ.
-/

namespace PathTemplates

variable {mark : Char}

abbrev Segment := List Char

variable {template path other : List Segment}

def segments (path : String) : List Segment := (path.toList.drop 1).splitOn '/'

def isPlaceholder (segment : Segment) : Bool :=
  segment.head? == some '{' && segment.getLast? == some '}'

def fits : List Segment → List Segment → Bool
  | [], [] => true
  | expected :: template, given :: path =>
      (if isPlaceholder expected then !given.isEmpty else expected == given) && fits template path
  | _, _ => false

theorem fits_cons (expected given : Segment) (template path : List Segment) :
    fits (expected :: template) (given :: path) =
      ((if isPlaceholder expected then !given.isEmpty else expected == given) &&
        fits template path) := rfl

def overlaps : List Segment → List Segment → Bool
  | [], [] => true
  | s :: template, t :: other =>
      (isPlaceholder s || isPlaceholder t || s == t) && overlaps template other
  | _, _ => false

theorem overlaps_cons (s t : Segment) (template other : List Segment) :
    overlaps (s :: template) (t :: other) =
      ((isPlaceholder s || isPlaceholder t || s == t) && overlaps template other) := rfl

/-- At the first position in which one has a literal and the other a placeholder, the first
has the literal. -/
def prefers : List Segment → List Segment → Bool
  | s :: template, t :: other =>
      if isPlaceholder s = isPlaceholder t then prefers template other else !isPlaceholder s
  | _, _ => false

theorem prefers_cons (s t : Segment) (template other : List Segment) :
    prefers (s :: template) (t :: other) =
      if isPlaceholder s = isPlaceholder t then prefers template other
      else !isPlaceholder s := rfl

theorem fits_length (h : fits template path = true) :
    template.length = path.length := by
  induction template generalizing path with
  | nil =>
      cases path with
      | nil => rfl
      | cons => cases h
  | cons expected template ih =>
      cases path with
      | nil => cases h
      | cons =>
          rw [fits_cons, Bool.and_eq_true] at h
          rw [List.length_cons, List.length_cons, ih h.2]

theorem overlaps_of_fits (h : fits template path = true) (h' : fits other path = true) :
    overlaps template other = true := by
  induction template generalizing other path with
  | nil =>
      cases path with
      | nil =>
          cases other with
          | nil => rfl
          | cons => cases h'
      | cons => cases h
  | cons s template ih =>
      cases path with
      | nil => cases h
      | cons =>
          cases other with
          | nil => cases h'
          | cons t =>
              rw [fits_cons, Bool.and_eq_true] at h h'
              rw [overlaps_cons, Bool.and_eq_true]
              refine ⟨?_, ih h.2 h'.2⟩
              by_cases hs : isPlaceholder s = true
              · rw [hs, Bool.true_or, Bool.true_or]
              · by_cases ht : isPlaceholder t = true
                · rw [ht, Bool.or_true, Bool.true_or]
                · have hsame := h.1
                  have hsame' := h'.1
                  rw [if_neg hs, beq_iff_eq] at hsame
                  rw [if_neg ht, beq_iff_eq] at hsame'
                  rw [hsame, hsame', beq_self_eq_true, Bool.or_true]

theorem eq_of_fits (hliteral : ∀ s ∈ template, isPlaceholder s = false)
    (h : fits template path = true) :
    path = template := by
  induction template generalizing path with
  | nil =>
      cases path with
      | nil => rfl
      | cons => cases h
  | cons s template ih =>
      cases path with
      | nil => cases h
      | cons given =>
          rw [fits_cons, Bool.and_eq_true] at h
          have hs := h.1
          rw [hliteral s List.mem_cons_self] at hs
          have hsame : s = given := by simpa using hs
          rw [hsame, ih (fun t ht => hliteral t (List.mem_cons_of_mem s ht)) h.2]

/-- What both templates ask for. -/
def meet (template other : List Segment) : List Segment :=
  List.zipWith (fun s t => if isPlaceholder s then t else s) template other

theorem fits_meet (h : fits template path = true) (h' : fits other path = true) :
    fits (meet template other) path = true := by
  induction template generalizing other path with
  | nil =>
      cases path with
      | nil => rfl
      | cons => cases h
  | cons s template ih =>
      cases path with
      | nil => cases h
      | cons =>
          cases other with
          | nil => cases h'
          | cons =>
              rw [fits_cons, Bool.and_eq_true] at h h'
              rw [meet, List.zipWith_cons_cons, fits_cons, Bool.and_eq_true]
              refine ⟨?_, ih h.2 h'.2⟩
              by_cases hs : isPlaceholder s = true
              · rw [if_pos hs]
                exact h'.1
              · rw [if_neg hs]
                exact h.1

/-- No placeholder takes an empty segment. -/
theorem nil_mem_of_fits (h : fits template path = true) (hlast : path.getLast? = some []) :
    [] ∈ template := by
  induction template generalizing path with
  | nil =>
      cases path with
      | nil => cases hlast
      | cons => cases h
  | cons expected template ih =>
      cases path with
      | nil => cases h
      | cons given path =>
          rw [fits_cons, Bool.and_eq_true] at h
          cases path with
          | nil =>
              rw [List.getLast?_singleton, Option.some.injEq] at hlast
              subst hlast
              have hempty : expected = [] := by
                by_cases hplaceholder : isPlaceholder expected = true
                · have hnot := h.1
                  rw [if_pos hplaceholder] at hnot
                  cases hnot
                · have hsame := h.1
                  rwa [if_neg hplaceholder, beq_iff_eq] at hsame
              exact hempty ▸ List.mem_cons_self
          | cons =>
              rw [List.getLast?_cons_cons] at hlast
              exact List.mem_cons_of_mem _ (ih h.2 hlast)

theorem head?_eq_of_fits {segment : Segment} (h : fits template path = true)
    (hhead : template.head? = some segment) (hliteral : isPlaceholder segment = false) :
    path.head? = some segment := by
  cases template with
  | nil => cases hhead
  | cons =>
      cases hhead
      cases path with
      | nil => cases h
      | cons =>
          rw [fits_cons, Bool.and_eq_true, if_neg (by simp [hliteral]), beq_iff_eq] at h
          rw [List.head?_cons, h.1]

theorem head?_splitOn_append (sep : Char) (front back : List Char) :
    ∃ segment rest, (front ++ back).splitOn sep = segment :: rest ∧
      ∀ first, (front.splitOn sep).head? = some first → first <+: segment := by
  induction front with
  | nil =>
      cases hsplit : (([] : List Char) ++ back).splitOn sep with
      | nil => exact absurd hsplit (List.splitOnP_ne_nil _ _)
      | cons segment rest =>
          refine ⟨segment, rest, rfl, ?_⟩
          intro first hfirst
          rw [List.splitOn_nil, List.head?_cons, Option.some.injEq] at hfirst
          exact hfirst ▸ List.nil_prefix
  | cons c front ih =>
      obtain ⟨segment, rest, hsplit, hhead⟩ := ih
      unfold List.splitOn at hsplit hhead ⊢
      rw [List.cons_append, List.splitOnP_cons_eq_if_modifyHead c (front ++ back),
        List.splitOnP_cons_eq_if_modifyHead c front]
      split
      · refine ⟨[], _, rfl, ?_⟩
        intro first hfirst
        rw [List.head?_cons, Option.some.injEq] at hfirst
        exact hfirst ▸ List.nil_prefix
      · rw [hsplit]
        refine ⟨c :: segment, rest, rfl, ?_⟩
        intro first hfirst
        cases hfront : front.splitOnP (· == sep) with
        | nil => exact absurd hfront (List.splitOnP_ne_nil _ _)
        | cons head =>
            rw [hfront, List.modifyHead_cons, List.head?_cons, Option.some.injEq] at hfirst
            rw [hfront] at hhead
            exact hfirst ▸ (List.prefix_cons_inj c).mpr (hhead head rfl)

theorem segments_append {mount : String} (template : String) (hmount : mount.toList ≠ []) :
    ∃ segment rest, segments (mount ++ template) = segment :: rest ∧
      ∀ first, (segments mount).head? = some first → first <+: segment := by
  unfold segments
  rw [String.toList_append, List.drop_append_of_le_length
    (Nat.one_le_iff_ne_zero.mpr fun hzero => hmount (List.length_eq_zero_iff.mp hzero))]
  exact head?_splitOn_append '/' _ _

structure PrefersStatic {α : Type*} (template : α → List Segment)
    (select : List α → List Segment → Option α) : Prop where
  found : ∀ {table path route}, select table path = some route →
    route ∈ table ∧ fits (template route) path = true
  preferred : ∀ {table path route}, select table path = some route →
    ∀ other ∈ table, fits (template other) path = true →
      prefers (template other) (template route) = false
  nothing : ∀ {table path}, select table path = none →
    ∀ other ∈ table, fits (template other) path = false

theorem PrefersStatic.eq_some {α : Type*} {template : α → List Segment}
    {select : List α → List Segment → Option α} (h : PrefersStatic template select) {table : List α}
    {route : α} (hmem : route ∈ table) (hfits : fits (template route) path = true)
    (hbest : ∀ other ∈ table, fits (template other) path = true →
      other = route ∨ prefers (template route) (template other) = true) :
    select table path = some route := by
  cases hselect : select table path with
  | none =>
      have hnot := h.nothing hselect route hmem
      rw [hfits] at hnot
      cases hnot
  | some other =>
      obtain ⟨hother, hother'⟩ := h.found hselect
      rcases hbest other hother hother' with rfl | hprefers
      · rfl
      · have hnot := h.preferred hselect route hmem hfits
        rw [hprefers] at hnot
        cases hnot

def rank : List Segment → ℕ
  | [] => 0
  | s :: template => (if isPlaceholder s then 2 ^ template.length else 0) + rank template

theorem rank_cons (s : Segment) (template : List Segment) :
    rank (s :: template) =
      (if isPlaceholder s then 2 ^ template.length else 0) + rank template := rfl

theorem rank_lt (template : List Segment) : rank template < 2 ^ template.length := by
  induction template with
  | nil => exact Nat.one_pos
  | cons s template ih =>
      rw [rank_cons, List.length_cons, pow_succ]
      split <;> omega

theorem prefers_iff (h : template.length = other.length) :
    prefers template other = true ↔ rank template < rank other := by
  induction template generalizing other with
  | nil =>
      cases other with
      | nil =>
          change false = true ↔ 0 < 0
          simp
      | cons => cases h
  | cons s template ih =>
      cases other with
      | nil => cases h
      | cons t other =>
          have hlength : template.length = other.length := by simpa using h
          have hrest := ih hlength
          have hbound := rank_lt template
          have hbound' := rank_lt other
          rw [rank_cons, rank_cons, prefers_cons]
          rw [hlength] at hbound ⊢
          cases isPlaceholder s <;> cases isPlaceholder t <;> simp [hrest] <;> omega

def leastRank {α : Type*} (template : α → List Segment) (table : List α) (path : List Segment) :
    Option α :=
  (table.filter fun route => fits (template route) path).argmin fun route => rank (template route)

theorem leastRank_prefersStatic {α : Type*} (template : α → List Segment) :
    PrefersStatic template (leastRank template) where
  found h := List.mem_filter.mp (List.argmin_mem h)
  preferred {table path route} h other hother hfits := by
    obtain ⟨-, hroute⟩ := List.mem_filter.mp (List.argmin_mem h)
    have hfitting : other ∈ table.filter fun route => fits (template route) path :=
      List.mem_filter.mpr ⟨hother, hfits⟩
    have hle : rank (template route) ≤ rank (template other) :=
      List.le_of_mem_argmin (f := fun route => rank (template route)) hfitting h
    by_contra hprefers
    rw [Bool.not_eq_false,
      prefers_iff ((fits_length hfits).trans (fits_length hroute).symm)] at hprefers
    exact absurd hprefers (not_lt_of_ge hle)
  nothing {table path} h other hother := by
    by_contra hfits
    rw [Bool.not_eq_false] at hfits
    have hnil := List.argmin_eq_none.mp h
    have hfitting : other ∈ table.filter fun route => fits (template route) path :=
      List.mem_filter.mpr ⟨hother, hfits⟩
    rw [hnil] at hfitting
    cases hfitting

/-! ## Paths that are cut -/

def cutAt (mark : Char) : List Segment → List Segment
  | [] => []
  | segment :: path =>
      if mark ∈ segment then [segment.takeWhile (· ≠ mark)] else segment :: cutAt mark path

theorem cutAt_cons_char {c : Char} (hc : c ≠ mark) (path : List Segment) :
    cutAt mark (path.modifyHead (c :: ·)) = (cutAt mark path).modifyHead (c :: ·) := by
  cases path with
  | nil => rfl
  | cons segment =>
      by_cases hmark : mark ∈ segment
      · simp [cutAt, hmark, hc]
      · simp [cutAt, hmark, hc.symm]

theorem splitOn_takeWhile {sep : Char} (hne : mark ≠ sep) (text : List Char) :
    (text.takeWhile (· ≠ mark)).splitOn sep = cutAt mark (text.splitOn sep) := by
  induction text with
  | nil => simp [cutAt]
  | cons c text ih =>
      unfold List.splitOn at ih ⊢
      rw [List.takeWhile_cons, List.splitOnP_cons_eq_if_modifyHead c text]
      by_cases hmark : c = mark
      · subst hmark
        have hsep : (c == sep) = false := by simpa using hne
        rw [if_neg (by simp), hsep, if_neg (by simp), List.splitOnP_nil]
        cases hsplit : text.splitOnP (· == sep) with
        | nil => exact absurd hsplit (List.splitOnP_ne_nil _ _)
        | cons => simp [cutAt]
      · rw [if_pos (by simpa using hmark), List.splitOnP_cons_eq_if_modifyHead, ih]
        by_cases hsep : c = sep
        · rw [if_pos (by simpa using hsep), if_pos (by simpa using hsep)]
          simp [cutAt]
        · rw [if_neg (by simpa using hsep), if_neg (by simpa using hsep), cutAt_cons_char hmark]

theorem exists_mem_splitOn {sep : Char} (hne : mark ≠ sep) {text : List Char} (hmem : mark ∈ text) :
    ∃ segment ∈ text.splitOn sep, mark ∈ segment := by
  induction text with
  | nil => cases hmem
  | cons c text ih =>
      unfold List.splitOn at ih ⊢
      rw [List.splitOnP_cons_eq_if_modifyHead c text]
      rcases List.mem_cons.mp hmem with rfl | hrest
      · have hsep : (mark == sep) = false := by simpa using hne
        rw [hsep, if_neg (by simp)]
        cases hsplit : text.splitOnP (· == sep) with
        | nil => exact absurd hsplit (List.splitOnP_ne_nil _ _)
        | cons segment => exact ⟨mark :: segment, by simp, by simp⟩
      · obtain ⟨segment, hsegment, hmark⟩ := ih hrest
        split
        · exact ⟨segment, List.mem_cons_of_mem _ hsegment, hmark⟩
        · cases hsplit : text.splitOnP (· == sep) with
          | nil => exact absurd hsplit (List.splitOnP_ne_nil _ _)
          | cons =>
              rw [hsplit] at hsegment
              rcases List.mem_cons.mp hsegment with rfl | htail
              · exact ⟨c :: segment, by simp, List.mem_cons_of_mem c hmark⟩
              · exact ⟨segment, by simp [htail], hmark⟩

theorem cutAt_length_le (mark : Char) (path : List Segment) :
    (cutAt mark path).length ≤ path.length := by
  induction path with
  | nil => exact le_rfl
  | cons segment path ih =>
      rw [cutAt]
      split
      · exact Nat.succ_le_succ (Nat.zero_le _)
      · exact Nat.succ_le_succ ih

/-- A template of a path fits what is left of the path as far as it goes, unless the path was
cut at the beginning of a segment; the segment with the cut is that of a placeholder. -/
theorem fits_cutAt (h : fits template path = true) (hliteral : ∀ s ∈ template, mark ∉ s)
    (hmark : ∃ segment ∈ path, mark ∈ segment) (hlast : (cutAt mark path).getLast? ≠ some []) :
    fits (template.take (cutAt mark path).length) (cutAt mark path) = true ∧
      (template.take (cutAt mark path).length).getLast?.any isPlaceholder = true := by
  induction template generalizing path with
  | nil =>
      cases path with
      | nil =>
          obtain ⟨segment, hsegment, -⟩ := hmark
          cases hsegment
      | cons => cases h
  | cons expected template ih =>
      cases path with
      | nil => cases h
      | cons given path =>
          rw [fits_cons, Bool.and_eq_true] at h
          rw [cutAt] at hlast ⊢
          split at hlast
          · next hgiven =>
            have hplaceholder : isPlaceholder expected = true := by
              by_contra hnot
              have hsame := h.1
              rw [if_neg hnot, beq_iff_eq] at hsame
              exact hliteral expected List.mem_cons_self (hsame ▸ hgiven)
            have hne : (given.takeWhile (· ≠ mark)).isEmpty = false := by
              rw [List.isEmpty_eq_false_iff]
              simpa using hlast
            rw [if_pos hgiven, List.length_singleton, List.take_succ_cons, List.take_zero,
              fits_cons, hne,
              if_pos hplaceholder]
            exact ⟨rfl, hplaceholder⟩
          · next hgiven =>
            have hrest : ∃ segment ∈ path, mark ∈ segment := by
              obtain ⟨segment, hsegment, hin⟩ := hmark
              rcases List.mem_cons.mp hsegment with rfl | htail
              · exact absurd hin hgiven
              · exact ⟨segment, htail, hin⟩
            have hne : cutAt mark path ≠ [] := by
              obtain ⟨segment, hsegment, -⟩ := hrest
              cases path with
              | nil => cases hsegment
              | cons =>
                  rw [cutAt]
                  split <;> simp
            have hlast' : (cutAt mark path).getLast? ≠ some [] := by
              rwa [List.getLast?_cons_of_ne_nil hne] at hlast
            obtain ⟨hfits, hplaceholder⟩ :=
              ih h.2 (fun s hs => hliteral s (List.mem_cons_of_mem _ hs)) hrest hlast'
            rw [if_neg hgiven, List.length_cons, List.take_succ_cons, fits_cons, Bool.and_eq_true]
            refine ⟨⟨h.1, hfits⟩, ?_⟩
            have hsome : template.take (cutAt mark path).length ≠ [] := by
              intro hnil
              rw [hnil] at hplaceholder
              cases hplaceholder
            rwa [List.getLast?_cons_of_ne_nil hsome]

end PathTemplates
