import Hezarfen.SettingsDomain
import Mathlib.Data.List.Infix

/-!
# The identity fold of the settings lists

Two entries of a list are one word when their Turkish folds agree.  The fold maps the
characters one by one and then takes away, in one pass, the dot that stands above an `i`.  One
pass leaves the second of two dots, and an `I` with a combining dot has become `ı` before the
dot is looked at.
-/

namespace Hezarfen.SchoolSettings

def Locale.lowerTr (loc : Locale) (c : Char) : List Char :=
  if c = 'İ' then ['i'] else if c = 'I' then ['ı'] else loc.toLowercase c

structure Locale.Unicode (loc : Locale) : Prop where
  idempotent : ∀ c, ∀ d ∈ loc.toLowercase c, loc.toLowercase d = [d]
  ne_nil : ∀ c, loc.toLowercase c ≠ []
  capital : loc.toLowercase 'I' = ['i']
  dotted : loc.toLowercase 'İ' = ['i', '\u0307']
  dotless : loc.toLowercase 'ı' = ['ı']
  /-- No other character has a lower case with an `i` or with the dot. -/
  letter : ∀ c, 'i' ∈ loc.toLowercase c → c = 'i' ∨ c = 'I' ∨ c = 'İ'
  dot : ∀ c, '\u0307' ∈ loc.toLowercase c → c = '\u0307' ∨ c = 'İ'

theorem dropDots_head (c : Char) (text : List Char) :
    ∃ rest, dropDots (c :: text) = c :: rest := by
  unfold dropDots
  split
  · next heq =>
    obtain ⟨rfl, -⟩ := List.cons.inj heq
    exact ⟨_, rfl⟩
  · next heq =>
    obtain ⟨rfl, -⟩ := List.cons.inj heq
    exact ⟨_, rfl⟩
  · next heq => cases heq

variable {c : Char}

theorem prefix_dropDots {text : List Char} : [c] <+: dropDots text ↔ [c] <+: text := by
  cases text with
  | nil => rfl
  | cons d text =>
      obtain ⟨rest, hrest⟩ := dropDots_head d text
      rw [hrest, List.cons_prefix_cons, List.cons_prefix_cons]
      simp

theorem length_dropDots_le (text : List Char) : (dropDots text).length ≤ text.length := by
  fun_induction dropDots text with
  | case1 | case2 =>
      simp only [List.length_cons]
      omega
  | case3 => exact le_refl _

theorem mem_of_mem_dropDots {text : List Char} (h : c ∈ dropDots text) : c ∈ text := by
  fun_induction dropDots text with
  | case1 rest ih =>
      rcases List.mem_cons.mp h with rfl | hrest
      · exact List.mem_cons_self
      · exact List.mem_cons_of_mem _ (List.mem_cons_of_mem _ (ih hrest))
  | case2 d rest _ ih =>
      rcases List.mem_cons.mp h with rfl | hrest
      · exact List.mem_cons_self
      · exact List.mem_cons_of_mem _ (ih hrest)
  | case3 => exact h

/-- A text keeps its dots when none stands above an `i`. -/
theorem dropDots_eq_self_iff (text : List Char) :
    dropDots text = text ↔ ¬ ['i', '\u0307'] <:+: text := by
  fun_induction dropDots text with
  | case1 rest ih =>
      have hlength := length_dropDots_le rest
      constructor
      · intro heq
        have hsame := congrArg List.length heq
        simp only [List.length_cons] at hsame
        omega
      · exact fun h => absurd ⟨[], rest, rfl⟩ h
  | case2 c rest hhead ih =>
      have hprefix : ¬ ['i', '\u0307'] <+: c :: rest := by
        rintro ⟨tail, htail⟩
        obtain ⟨rfl, rfl⟩ := List.cons.inj htail
        exact hhead _ rfl rfl
      simp only [List.cons.injEq, true_and, List.infix_cons_iff, hprefix, false_or, ih]
  | case3 => simp

/-- One pass leaves a dot above an `i` where there were two. -/
theorem infix_dropDots_iff (text : List Char) :
    ['i', '\u0307'] <:+: dropDots text ↔ ['i', '\u0307', '\u0307'] <:+: text := by
  fun_induction dropDots text with
  | case1 rest ih =>
      simp [List.infix_cons_iff, List.cons_prefix_cons, prefix_dropDots, ih]
  | case2 c rest hhead ih =>
      have hone : ¬ ['i', '\u0307'] <+: c :: dropDots rest := by
        intro h
        obtain ⟨rfl, hdot⟩ := List.cons_prefix_cons.mp h
        obtain ⟨tail, htail⟩ := prefix_dropDots.mp hdot
        exact hhead tail rfl htail.symm
      have htwo : ¬ ['i', '\u0307', '\u0307'] <+: c :: rest := by
        rintro ⟨tail, htail⟩
        obtain ⟨rfl, rfl⟩ := List.cons.inj htail
        exact hhead _ rfl rfl
      simp only [List.infix_cons_iff, hone, htwo, false_or, ih]
  | case3 => simp

theorem dropDots_append (hc : c ≠ '\u0307') (text rest : List Char) :
    dropDots (text ++ c :: rest) = dropDots text ++ dropDots (c :: rest) := by
  fun_induction dropDots text with
  | case1 text ih => simp [dropDots, ih]
  | case2 d text hhead ih =>
      have hstep : dropDots (d :: (text ++ c :: rest)) = d :: dropDots (text ++ c :: rest) := by
        apply dropDots.eq_2
        rintro tail rfl htail
        cases text with
        | nil => exact hc (List.cons.inj htail).1
        | cons e text => exact hhead text rfl (by rw [(List.cons.inj htail).1])
      rw [List.cons_append, hstep, ih, List.cons_append]
  | case3 => rfl

/-! ## The fold of a text -/

theorem caseFoldTr_toList (loc : Locale) (text : String) :
    (caseFoldTr loc text).toList = dropDots (text.toList.flatMap loc.lowerTr) := by
  rw [caseFoldTr, String.toList_ofList]
  rfl

section Letters

variable {loc : Locale} (hloc : loc.Unicode) {d : Char}

include hloc

theorem toLowercase_letter : loc.toLowercase 'i' = ['i'] :=
  hloc.idempotent 'I' 'i' (by rw [hloc.capital]; exact List.mem_singleton_self _)

theorem toLowercase_dot : loc.toLowercase '\u0307' = ['\u0307'] :=
  hloc.idempotent 'İ' '\u0307' (by rw [hloc.dotted]; simp)

theorem lowerTr_of_mem_toLowercase (h : d ∈ loc.toLowercase c) : loc.lowerTr d = [d] := by
  have hfixed := hloc.idempotent c d h
  have hdotted : d ≠ 'İ' := by
    rintro rfl
    rw [hloc.dotted] at hfixed
    cases hfixed
  have hcapital : d ≠ 'I' := by
    rintro rfl
    rw [hloc.capital] at hfixed
    cases hfixed
  rw [Locale.lowerTr, if_neg hdotted, if_neg hcapital, hfixed]

theorem lowerTr_of_mem (h : d ∈ loc.lowerTr c) : loc.lowerTr d = [d] := by
  unfold Locale.lowerTr at h
  split at h
  · obtain rfl := List.mem_singleton.mp h
    exact toLowercase_letter hloc
  · split at h
    · obtain rfl := List.mem_singleton.mp h
      exact hloc.dotless
    · exact lowerTr_of_mem_toLowercase hloc h

theorem lowerTr_letter (hc : c = 'i' ∨ c = 'İ') : loc.lowerTr c = ['i'] := by
  rcases hc with rfl | rfl
  · exact toLowercase_letter hloc
  · rfl

theorem letter_of_mem_lowerTr (h : 'i' ∈ loc.lowerTr c) : c = 'i' ∨ c = 'İ' := by
  unfold Locale.lowerTr at h
  split at h
  · next hc => exact .inr hc
  · next hdotted =>
    split at h
    · exact absurd h (by decide)
    · next hcapital =>
      rcases hloc.letter c h with hc | hc | hc
      · exact .inl hc
      · exact absurd hc hcapital
      · exact .inr hc

theorem lowerTr_eq_cons (hc : c ≠ '\u0307') :
    ∃ d rest, loc.lowerTr c = d :: rest ∧ d ≠ '\u0307' := by
  unfold Locale.lowerTr
  split
  · exact ⟨_, _, rfl, by decide⟩
  · next hdotted =>
    split
    · exact ⟨_, _, rfl, by decide⟩
    · cases hlower : loc.toLowercase c with
      | nil => exact absurd hlower (hloc.ne_nil c)
      | cons d rest =>
          refine ⟨d, rest, rfl, ?_⟩
          rintro rfl
          rcases hloc.dot c (by rw [hlower]; exact List.mem_cons_self) with hdot | hdot
          · exact hc hdot
          · exact hdotted hdot

theorem dots_prefix_flatMap (n : ℕ) (text : List Char) :
    List.replicate n '\u0307' <+: text.flatMap loc.lowerTr ↔
      List.replicate n '\u0307' <+: text := by
  induction text generalizing n with
  | nil => rfl
  | cons c text ih =>
      cases n with
      | zero => simp
      | succ =>
          rw [List.flatMap_cons, List.replicate_succ]
          by_cases hc : c = '\u0307'
          · have hdot : loc.lowerTr '\u0307' = ['\u0307'] := toLowercase_dot hloc
            simp [hc, hdot, List.cons_prefix_cons, ih]
          · obtain ⟨d, rest, hlower, hd⟩ := lowerTr_eq_cons hloc hc
            simp [hlower, List.cons_prefix_cons, Ne.symm hc, Ne.symm hd]

omit hloc in
theorem infix_append_iff {a : Char} {word front : List Char} (ha : a ∉ front) (text : List Char) :
    a :: word <:+: front ++ text ↔ a :: word <:+: text := by
  induction front with
  | nil => rfl
  | cons b front ih =>
      rw [List.mem_cons, not_or] at ha
      obtain ⟨hab, hfront⟩ := ha
      rw [List.cons_append, List.infix_cons_iff, List.cons_prefix_cons, ih hfront]
      simp [hab]

theorem dotted_flatMap_iff (text : List Char) :
    ['i', '\u0307', '\u0307'] <:+: text.flatMap loc.lowerTr ↔
      ['i', '\u0307', '\u0307'] <:+: text ∨ ['İ', '\u0307', '\u0307'] <:+: text := by
  induction text with
  | nil => simp
  | cons c text ih =>
      have hdots := dots_prefix_flatMap hloc 2 text
      simp only [List.replicate] at hdots
      rw [List.flatMap_cons]
      by_cases hc : c = 'i' ∨ c = 'İ'
      · rw [lowerTr_letter hloc hc, List.singleton_append]
        simp only [List.infix_cons_iff, List.cons_prefix_cons, hdots, true_and, ih]
        rcases hc with rfl | rfl
        · simp only [true_and, show ('İ' = 'i') = False by simp, false_and, false_or]
          tauto
        · simp only [true_and, show ('i' = 'İ') = False by simp, false_and, false_or]
          tauto
      · have hmem : 'i' ∉ loc.lowerTr c := fun h => hc (letter_of_mem_lowerTr hloc h)
        rw [not_or] at hc
        rw [infix_append_iff hmem, ih]
        simp [List.infix_cons_iff, List.cons_prefix_cons, Ne.symm hc.1, Ne.symm hc.2]

end Letters

/-- An `i` or an `İ` with two combining dots behind it. -/
def DoublyDotted (text : String) : Prop :=
  ['i', '\u0307', '\u0307'] <:+: text.toList ∨ ['İ', '\u0307', '\u0307'] <:+: text.toList

variable {loc : Locale}

theorem caseFoldTr_idempotent_iff (hloc : loc.Unicode) (text : String) :
    caseFoldTr loc (caseFoldTr loc text) = caseFoldTr loc text ↔ ¬ DoublyDotted text := by
  have hlower : ∀ d ∈ dropDots (text.toList.flatMap loc.lowerTr), loc.lowerTr d = [d] := by
    intro d hd
    obtain ⟨c, -, hc⟩ := List.mem_flatMap.mp (mem_of_mem_dropDots hd)
    exact lowerTr_of_mem hloc hc
  have hagain : (dropDots (text.toList.flatMap loc.lowerTr)).flatMap loc.lowerTr =
      dropDots (text.toList.flatMap loc.lowerTr) := by
    rw [List.flatMap_congr hlower]
    simp
  rw [← String.toList_inj, caseFoldTr_toList, caseFoldTr_toList, hagain, dropDots_eq_self_iff,
    infix_dropDots_iff, dotted_flatMap_iff hloc]
  rfl

/-- The two forms of the dotted capital never fold to one text. -/
theorem flatMap_parted (loc : Locale) (before after after' : List Char) :
    dropDots ((before ++ 'I' :: after).flatMap loc.lowerTr) ≠
      dropDots ((before ++ 'İ' :: after').flatMap loc.lowerTr) := by
  have hcapital : loc.lowerTr 'I' = ['ı'] := rfl
  have hdotted : loc.lowerTr 'İ' = ['i'] := rfl
  simp only [List.flatMap_append, List.flatMap_cons, hcapital, hdotted, List.singleton_append]
  rw [dropDots_append (by decide), dropDots_append (by decide)]
  intro h
  obtain ⟨rest, hrest⟩ := dropDots_head 'ı' (after.flatMap loc.lowerTr)
  obtain ⟨rest', hrest'⟩ := dropDots_head 'i' (after'.flatMap loc.lowerTr)
  rw [hrest, hrest'] at h
  exact absurd (List.cons.inj (List.append_cancel_left h)).1 (by decide)

/-! ## The entries of a list -/

def SameLetters (loc : Locale) (a b : String) : Prop :=
  List.Forall₂ (fun c d => loc.lowerTr c = loc.lowerTr d) a.toList b.toList

/-- The text with every `İ` as an `I` and a combining dot. -/
def decomposed (text : String) : List Char :=
  text.toList.flatMap fun c => if c = 'İ' then ['I', '\u0307'] else [c]

/-- The rules accept no two entries that differ only in letter case or in that composition. -/
def KeepsApart (loc : Locale) (field : String) (values : List String) : Prop :=
  ∀ entries, validateList loc field values = .ok entries →
    entries.Pairwise fun a b => ¬ SameLetters loc a b ∧ decomposed a ≠ decomposed b

/-- No rule of a list refuses the values: each is an entry, and no two are one to the fold. -/
structure Admissible (loc : Locale) (values : List String) : Prop where
  nonempty : values ≠ []
  length : values.length ≤ maxSettingsListLen
  entries : ∀ value ∈ values, isEntry maxSettingsItemLen (trim value) = true
  folds : (values.map trim).Pairwise fun a b => caseFoldTr loc a ≠ caseFoldTr loc b

def SpelledOnce (values : List String) : Prop :=
  (values.map trim).Pairwise fun a b => decomposed a = decomposed b → a = b

variable {a b : String}

theorem caseFoldTr_of_sameLetters (h : SameLetters loc a b) :
    caseFoldTr loc a = caseFoldTr loc b := by
  have hflat : ∀ {as bs : List Char},
      List.Forall₂ (fun c d => loc.lowerTr c = loc.lowerTr d) as bs →
        as.flatMap loc.lowerTr = bs.flatMap loc.lowerTr := by
    intro as bs has
    induction has with
    | nil => rfl
    | cons hhead _ ih => rw [List.flatMap_cons, List.flatMap_cons, hhead, ih]
  rw [← String.toList_inj, caseFoldTr_toList, caseFoldTr_toList, hflat h]

/-- Where two texts with one decomposition part, one has the letter and the other its parts. -/
theorem parted_of_decomposed {a b : List Char}
    (h : (a.flatMap fun c => if c = 'İ' then ['I', '\u0307'] else [c]) =
      b.flatMap fun c => if c = 'İ' then ['I', '\u0307'] else [c]) :
    a = b ∨ ∃ front rest rest', a = front ++ 'I' :: rest ∧ b = front ++ 'İ' :: rest' ∨
      a = front ++ 'İ' :: rest ∧ b = front ++ 'I' :: rest' := by
  induction a generalizing b with
  | nil =>
      cases b with
      | nil => exact .inl rfl
      | cons =>
          rw [List.flatMap_cons] at h
          split at h <;> cases h
  | cons c a ih =>
      cases b with
      | nil =>
          rw [List.flatMap_cons] at h
          split at h <;> cases h
      | cons d b =>
          by_cases hcd : c = d
          · subst hcd
            rw [List.flatMap_cons, List.flatMap_cons] at h
            rcases ih (List.append_cancel_left h) with rfl | ⟨front, rest, rest', hparts⟩
            · exact .inl rfl
            · refine .inr ⟨c :: front, rest, rest', ?_⟩
              rcases hparts with ⟨rfl, rfl⟩ | ⟨rfl, rfl⟩
              · exact .inl ⟨rfl, rfl⟩
              · exact .inr ⟨rfl, rfl⟩
          · right
            rw [List.flatMap_cons, List.flatMap_cons] at h
            split at h
            · next hc =>
              rw [if_neg fun hd => hcd (hc.trans hd.symm)] at h
              obtain rfl := (List.cons.inj h).1
              exact ⟨[], a, b, .inr ⟨by rw [hc]; rfl, rfl⟩⟩
            · split at h
              · next hd =>
                obtain rfl := (List.cons.inj h).1
                exact ⟨[], a, b, .inl ⟨rfl, by rw [hd]; rfl⟩⟩
              · exact absurd (List.cons.inj h).1 hcd

theorem caseFoldTr_ne_of_decomposed (loc : Locale)
    (h : decomposed a = decomposed b) (hne : a ≠ b) : caseFoldTr loc a ≠ caseFoldTr loc b := by
  intro hfold
  rw [← String.toList_inj, caseFoldTr_toList, caseFoldTr_toList] at hfold
  rcases parted_of_decomposed h with heq | ⟨front, rest, rest', ⟨ha, hb⟩ | ⟨ha, hb⟩⟩
  · exact hne (String.toList_inj.mp heq)
  · rw [ha, hb] at hfold
    exact flatMap_parted loc front rest rest' hfold
  · rw [ha, hb] at hfold
    exact flatMap_parted loc front rest' rest hfold.symm

variable {field : String} {values : List String}

theorem validateList_ok_iff {entries : List String} :
    validateList loc field values = .ok entries ↔
      Admissible loc values ∧ values.map trim = entries := by
  have hrules : validateList loc field values = .ok entries ↔
      values ≠ [] ∧ values.length ≤ maxSettingsListLen ∧
        (∀ value ∈ values, isEntry maxSettingsItemLen (trim value) = true) ∧
        (values.map trim).Pairwise (fun a b => caseFoldTr loc a ≠ caseFoldTr loc b) ∧
        values.map trim = entries := by
    simp only [validateList, Gate.bind_eq_ok, Gate.ensure_eq_ok, Gate.pure_eq_ok]
    simp [List.nodup_iff_pairwise_ne, List.pairwise_map]
  rw [hrules]
  constructor
  · rintro ⟨hnonempty, hlength, hentries, hfolds, heq⟩
    exact ⟨⟨hnonempty, hlength, hentries, hfolds⟩, heq⟩
  · rintro ⟨⟨hnonempty, hlength, hentries, hfolds⟩, heq⟩
    exact ⟨hnonempty, hlength, hentries, hfolds, heq⟩

theorem pairwise_not_sameLetters {entries : List String}
    (h : validateList loc field values = .ok entries) :
    entries.Pairwise fun a b => ¬ SameLetters loc a b := by
  obtain ⟨hadmissible, rfl⟩ := validateList_ok_iff.mp h
  exact hadmissible.folds.imp fun hfold hletters => hfold (caseFoldTr_of_sameLetters hletters)

theorem keepsApart_iff :
    KeepsApart loc field values ↔ (Admissible loc values → SpelledOnce values) := by
  constructor
  · intro hapart hadmissible
    have hpairs := hapart _ (validateList_ok_iff.mpr ⟨hadmissible, rfl⟩)
    exact hpairs.imp fun hpair hparts => absurd hparts hpair.2
  · intro hspelled entries hentries
    have hletters := pairwise_not_sameLetters hentries
    obtain ⟨hadmissible, rfl⟩ := validateList_ok_iff.mp hentries
    refine (hletters.and ((hspelled hadmissible).and hadmissible.folds)).imp fun {a b} hab =>
      ⟨hab.1, fun hparts => ?_⟩
    exact hab.2.2 (by rw [hab.2.1 hparts])

theorem spelledOnce_pair :
    SpelledOnce [a, b] ↔ (decomposed (trim a) = decomposed (trim b) → trim a = trim b) := by
  simp [SpelledOnce]

/-- A list of two entries with one decomposition passes. -/
theorem keepsApart_pair_iff
    (ha : isEntry maxSettingsItemLen (trim a) = true)
    (hb : isEntry maxSettingsItemLen (trim b) = true) :
    KeepsApart loc field [a, b] ↔ SpelledOnce [a, b] := by
  rw [keepsApart_iff]
  refine ⟨fun h => ?_, fun h _ => h⟩
  rw [spelledOnce_pair]
  by_contra hnot
  push Not at hnot
  obtain ⟨hparts, hne⟩ := hnot
  -- two spellings of one word never fold alike, so no rule refuses them
  have hfold := caseFoldTr_ne_of_decomposed loc hparts hne
  have hadmissible : Admissible loc [a, b] :=
    ⟨by simp, by simp [maxSettingsListLen], by simpa using ⟨ha, hb⟩, by simpa using hfold⟩
  exact hne (spelledOnce_pair.mp (h hadmissible) hparts)

/-! ## What the fold keeps -/

namespace Sample

def capitals : List (Char × Char) :=
  "ABCDEFGHIJKLMNOPQRSTUVWXYZ".toList.zip "abcdefghijklmnopqrstuvwxyz".toList

def latin : Locale :=
  ⟨fun c => if c = 'İ' then ['i', '\u0307'] else [(capitals.lookup c).getD c],
    fun a b => decide (a ≤ b)⟩

theorem lookup_capitals {d : Char} (h : capitals.lookup c = some d) : (c, d) ∈ capitals := by
  obtain ⟨front, rest, heq, -⟩ := List.lookup_eq_some_iff.mp h
  rw [heq]
  simp

theorem latin_unicode : latin.Unicode where
  idempotent := by
    intro c d hd
    have hsmall : ∀ p ∈ capitals, latin.toLowercase p.2 = [p.2] := by decide
    by_cases hdotted : c = 'İ'
    · subst hdotted
      obtain rfl | rfl : d = 'i' ∨ d = '\u0307' := by simpa [latin] using hd
      · decide
      · decide
    · simp only [latin, if_neg hdotted, List.mem_singleton] at hd
      cases hlookup : capitals.lookup c with
      | none =>
          rw [hlookup] at hd
          obtain rfl : d = c := hd
          simp [latin, hdotted, hlookup]
      | some e =>
          rw [hlookup] at hd
          obtain rfl : d = e := hd
          exact hsmall (c, d) (lookup_capitals hlookup)
  ne_nil := by
    intro c
    unfold latin
    dsimp only
    split <;> simp
  capital := by decide
  dotted := rfl
  dotless := by decide
  letter := by
    intro c hc
    have hone : ∀ p ∈ capitals, p.2 = 'i' → p.1 = 'I' := by decide
    by_cases hdotted : c = 'İ'
    · exact .inr (.inr hdotted)
    · simp only [latin, if_neg hdotted, List.mem_singleton] at hc
      cases hlookup : capitals.lookup c with
      | none =>
          rw [hlookup] at hc
          exact .inl hc.symm
      | some d =>
          rw [hlookup] at hc
          exact .inr (.inl (hone (c, d) (lookup_capitals hlookup) hc.symm))
  dot := by
    intro c hc
    have hnone : ∀ p ∈ capitals, p.2 ≠ '\u0307' := by decide
    by_cases hdotted : c = 'İ'
    · exact .inr hdotted
    · simp only [latin, if_neg hdotted, List.mem_singleton] at hc
      cases hlookup : capitals.lookup c with
      | none =>
          rw [hlookup] at hc
          exact .inl hc.symm
      | some d =>
          rw [hlookup] at hc
          exact absurd hc.symm (hnone (c, d) (lookup_capitals hlookup))

end Sample

end Hezarfen.SchoolSettings
