import Hezarfen.Boards
import Hezarfen.ExamDomain
import Hezarfen.Requests

/-!
# The options of a question and its score

A submitted option names itself by a key.  A key of a stored option is that option; any
other key, and no key at all, is an option of its own under an identifier minted here.
The correct answer names a submitted key.  The score of a choice question compares the
stored answer with the resolved identifier.
-/

namespace Hezarfen.Exams

open Boards (validateRequired)

def minQuestionChoices : ℕ := 2

def maxQuestionChoices : ℕ := 10

def maxChoiceTextLen : ℕ := 500

def minQuestionPoints : ℤ := 1

def maxQuestionPoints : ℤ := 100

structure ChoiceInput where
  id : Option String
  text : String

/-- `ChoiceText::try_new` -/
def choiceText (value : String) : Except ValidationError String :=
  (validateRequired "choice" value maxChoiceTextLen).map fun _ => value

structure Resolving where
  resolved : List Choice
  keys : List (String × String)
  minted : ℕ

def Resolving.start : Resolving := ⟨[], [], 0⟩

section Resolve

variable (existing : List Choice) (mint : ℕ → String)

def Resolving.name (r : Resolving) (input : ChoiceInput) :
    Except ValidationError (String × Resolving) :=
  match input.id with
  | some key =>
      if r.keys.any fun seen => seen.1 = key then
        .error (.invalid "choices" "duplicate choice id")
      else
        match existing.find? fun choice => choice.id = key with
        | some choice => .ok (choice.id, { r with keys := r.keys ++ [(key, choice.id)] })
        | none => .ok (mint r.minted,
            { r with keys := r.keys ++ [(key, mint r.minted)], minted := r.minted + 1 })
  | none => .ok (mint r.minted, { r with minted := r.minted + 1 })

def Resolving.push (r : Resolving) (input : ChoiceInput) : Except ValidationError Resolving := do
  let (id, r) ← r.name existing mint input
  let text ← choiceText input.text
  return { r with resolved := r.resolved ++ [⟨id, text⟩] }

def resolveChoices (inputs : List ChoiceInput) (correct : Option String) :
    Except ValidationError QuestionSpec := do
  Gate.ensure (decide (minQuestionChoices ≤ inputs.length ∧ inputs.length ≤ maxQuestionChoices))
    (.invalid "choices" "must list 2 to 10 choices")
  let r ← inputs.foldlM (Resolving.push existing mint) Resolving.start
  let correct ← Gate.found correct (.invalid "correct" "required for a choice question")
  let named ← Gate.found (r.keys.find? fun seen => seen.1 = correct)
    (.invalid "correct" "must name one of the choices")
  return ⟨.choice, some r.resolved, some named.2⟩

def QuestionSpec.tryNew (kind : QuestionKind) (choices : Option (List ChoiceInput))
    (correct : Option String) : Except ValidationError QuestionSpec :=
  match kind, choices with
  | .text, some _ => .error (.invalid "choices" "only choice questions take choices")
  | .text, none =>
      if correct.isSome then
        .error (.invalid "correct" "only choice questions take a correct choice")
      else .ok ⟨.text, none, none⟩
  | .choice, none => .error (.invalid "choices" "required for a choice question")
  | .choice, some inputs => resolveChoices existing mint inputs correct

end Resolve

/-! ## What a specification looks like -/

def Choice.ids (choices : List Choice) : List String := choices.map Choice.id

/-- The rules of the two kinds. -/
def QuestionSpec.Shaped (spec : QuestionSpec) : Prop :=
  match spec.kind, spec.choices, spec.correct with
  | .text, none, none => True
  | .choice, some choices, some correct =>
      minQuestionChoices ≤ choices.length ∧ choices.length ≤ maxQuestionChoices ∧
        (Choice.ids choices).Nodup ∧ correct ∈ Choice.ids choices ∧
        ∀ choice ∈ choices, choiceText choice.text = .ok choice.text
  | _, _, _ => False

structure Became (existing : List Choice) (input : ChoiceInput) (choice : Choice) : Prop where
  text : choice.text = input.text
  kept : ∀ key, input.id = some key → key ∈ Choice.ids existing → choice.id = key
  stored : choice.id ∈ Choice.ids existing → input.id = some choice.id

structure Fresh (existing : List Choice) (mint : ℕ → String) : Prop where
  inj : Function.Injective mint
  unseen : ∀ n, mint n ∉ Choice.ids existing

/-- Where the loop stands after `inputs`. -/
structure Resolving.Sound (existing : List Choice) (mint : ℕ → String)
    (inputs : List ChoiceInput) (r : Resolving) : Prop where
  became : List.Forall₂ (Became existing) inputs r.resolved
  texts : ∀ choice ∈ r.resolved, choiceText choice.text = .ok choice.text
  distinct : (Choice.ids r.resolved).Nodup
  /-- An identifier is a key seen so far or one minted so far. -/
  sources : ∀ choice ∈ r.resolved,
    (choice.id ∈ Choice.ids existing ∧ choice.id ∈ r.keys.map Prod.fst) ∨
      ∃ k < r.minted, choice.id = mint k
  keys : ∀ key id, (key, id) ∈ r.keys →
    ∃ pair ∈ inputs.zip r.resolved, pair.1.id = some key ∧ pair.2.id = id

section Loop

variable {existing : List Choice} {mint : ℕ → String} {inputs : List ChoiceInput}
  {input : ChoiceInput} {r r' : Resolving} {id : String}

theorem choiceText_ok {value text : String} (h : choiceText value = .ok text) : text = value := by
  unfold choiceText at h
  cases hvalid : validateRequired "choice" value maxChoiceTextLen with
  | error => rw [hvalid] at h; cases h
  | ok => rw [hvalid] at h; exact (Except.ok.inj h).symm

/-- What the name of an option can be. -/
theorem Resolving.name_cases (h : r.name existing mint input = .ok (id, r')) :
    (∃ key, input.id = some key ∧ key ∉ r.keys.map Prod.fst ∧ key ∈ Choice.ids existing ∧
        id = key ∧ r' = { r with keys := r.keys ++ [(key, key)] }) ∨
      (id = mint r.minted ∧ (∀ key, input.id = some key → key ∉ Choice.ids existing) ∧
        (input.id = none ∧ r' = { r with minted := r.minted + 1 } ∨
          ∃ key, input.id = some key ∧
            r' = { r with keys := r.keys ++ [(key, mint r.minted)], minted := r.minted + 1 })) := by
  unfold Resolving.name at h
  cases hid : input.id with
  | none =>
      rw [hid] at h
      cases h
      exact .inr ⟨rfl, by simp, .inl ⟨rfl, rfl⟩⟩
  | some key =>
      rw [hid] at h
      dsimp only at h
      split at h
      · cases h
      · next hseen =>
        have hnew : key ∉ r.keys.map Prod.fst := by
          simp only [List.any_eq_true, decide_eq_true_eq, not_exists, not_and] at hseen
          intro hmem
          obtain ⟨pair, hpair, hkey⟩ := List.mem_map.mp hmem
          exact hseen pair hpair hkey
        split at h
        · next choice hfind =>
          cases h
          have hkey : choice.id = key := by simpa using List.find?_some hfind
          refine .inl ⟨key, rfl, hnew, ?_, hkey, by rw [hkey]⟩
          exact List.mem_map.mpr ⟨choice, List.mem_of_find?_eq_some hfind, hkey⟩
        · next hfind =>
          cases h
          refine .inr ⟨rfl, ?_, .inr ⟨key, rfl, rfl⟩⟩
          rintro _ ⟨⟩ hmem
          obtain ⟨choice, hchoice, hkey⟩ := List.mem_map.mp hmem
          exact absurd (by simpa using hkey) (List.find?_eq_none.mp hfind choice hchoice)

theorem Resolving.push_eq_ok (h : r.push existing mint input = .ok r') :
    ∃ id named, r.name existing mint input = .ok (id, named) ∧
      choiceText input.text = .ok input.text ∧
      r' = { named with resolved := r.resolved ++ [⟨id, input.text⟩] } := by
  unfold Resolving.push at h
  obtain ⟨⟨id, named⟩, hname, h⟩ := Gate.bind_eq_ok.mp h
  obtain ⟨text, htext, h⟩ := Gate.bind_eq_ok.mp h
  obtain rfl := choiceText_ok htext
  cases h
  have hresolved : named.resolved = r.resolved := by
    obtain ⟨key, -, -, -, -, rfl⟩ | ⟨-, -, ⟨-, rfl⟩ | ⟨key, -, rfl⟩⟩ := name_cases hname <;> rfl
  exact ⟨id, named, hname, htext, by rw [hresolved]⟩

theorem Resolving.Sound.start : Resolving.Sound existing mint [] Resolving.start where
  became := .nil
  texts := by simp [Resolving.start]
  distinct := List.nodup_nil
  sources := by simp [Resolving.start]
  keys := by simp [Resolving.start]

theorem zip_snoc {l : List ChoiceInput} {l' : List Choice}
    (hlength : l.length = l'.length) (a : ChoiceInput) (b : Choice) :
    (l ++ [a]).zip (l' ++ [b]) = l.zip l' ++ [(a, b)] := by
  rw [List.zip_append hlength]
  rfl

theorem Resolving.Sound.snoc {keys : List (String × String)} {minted : ℕ}
    (hr : r.Sound existing mint inputs) (htext : choiceText input.text = .ok input.text)
    (hbecame : Became existing input ⟨id, input.text⟩) (hnew : id ∉ Choice.ids r.resolved)
    (hsource : (id ∈ Choice.ids existing ∧ id ∈ keys.map Prod.fst) ∨ ∃ k < minted, id = mint k)
    (hkeys : keys = r.keys ∨ ∃ key, input.id = some key ∧ keys = r.keys ++ [(key, id)])
    (hminted : r.minted ≤ minted) :
    Resolving.Sound existing mint (inputs ++ [input])
      ⟨r.resolved ++ [⟨id, input.text⟩], keys, minted⟩ where
  became := List.rel_append hr.became (.cons hbecame .nil)
  texts choice hchoice := by
    obtain hchoice | hchoice := List.mem_append.mp hchoice
    · exact hr.texts choice hchoice
    · rw [List.mem_singleton.mp hchoice]
      exact htext
  distinct := by
    unfold Choice.ids
    rw [List.map_append, List.nodup_append]
    refine ⟨hr.distinct, List.nodup_singleton _, ?_⟩
    rintro old hold new hid rfl
    have hsame : old = id := List.mem_singleton.mp hid
    exact hnew (hsame ▸ hold)
  sources choice hchoice := by
    obtain hchoice | hchoice := List.mem_append.mp hchoice
    · obtain ⟨hstored, hkey⟩ | ⟨k, hk, hid⟩ := hr.sources choice hchoice
      · refine .inl ⟨hstored, ?_⟩
        obtain rfl | ⟨key, -, rfl⟩ := hkeys
        · exact hkey
        · rw [List.map_append]
          exact List.mem_append_left _ hkey
      · exact .inr ⟨k, hk.trans_le hminted, hid⟩
    · rw [List.mem_singleton.mp hchoice]
      exact hsource
  keys key id' hmem := by
    have hlength := hr.became.length_eq
    have hold : (key, id') ∈ r.keys → ∃ pair ∈ (inputs ++ [input]).zip
        (r.resolved ++ [⟨id, input.text⟩]), pair.1.id = some key ∧ pair.2.id = id' := by
      intro hmem
      obtain ⟨pair, hpair, hnames⟩ := hr.keys key id' hmem
      rw [zip_snoc hlength]
      exact ⟨pair, List.mem_append_left _ hpair, hnames⟩
    obtain rfl | ⟨newKey, hinput, rfl⟩ := hkeys
    · exact hold hmem
    · obtain hmem | hmem := List.mem_append.mp hmem
      · exact hold hmem
      · obtain ⟨rfl, rfl⟩ := Prod.mk.inj (List.mem_singleton.mp hmem)
        rw [zip_snoc hlength]
        exact ⟨_, List.mem_append_right _ (List.mem_singleton.mpr rfl), hinput, rfl⟩

theorem Resolving.Sound.minted_new (hmint : Fresh existing mint)
    (hr : r.Sound existing mint inputs) : mint r.minted ∉ Choice.ids r.resolved := by
  intro hmem
  obtain ⟨choice, hchoice, hid⟩ := List.mem_map.mp hmem
  obtain ⟨hstored, -⟩ | ⟨k, hk, hminted⟩ := hr.sources choice hchoice
  · exact hmint.unseen _ (hid ▸ hstored)
  · exact absurd (hmint.inj (hminted.symm.trans hid)) hk.ne

theorem Resolving.Sound.key_new {key : String} (hmint : Fresh existing mint)
    (hr : r.Sound existing mint inputs) (hstored : key ∈ Choice.ids existing)
    (hkey : key ∉ r.keys.map Prod.fst) : key ∉ Choice.ids r.resolved := by
  intro hmem
  obtain ⟨choice, hchoice, rfl⟩ := List.mem_map.mp hmem
  obtain ⟨-, hseen⟩ | ⟨k, -, hminted⟩ := hr.sources choice hchoice
  · exact hkey hseen
  · exact hmint.unseen k (hminted ▸ hstored)

/-- One round keeps the loop sound. -/
theorem Resolving.Sound.push (hmint : Fresh existing mint)
    (hr : r.Sound existing mint inputs) (h : r.push existing mint input = .ok r') :
    r'.Sound existing mint (inputs ++ [input]) := by
  obtain ⟨id, named, hname, htext, rfl⟩ := Resolving.push_eq_ok h
  obtain ⟨key, hkey, hunseen, hstored, rfl, rfl⟩ | ⟨rfl, hother, hnamed⟩ :=
    Resolving.name_cases hname
  · refine hr.snoc htext ⟨rfl, ?_, fun _ => hkey⟩ (hr.key_new hmint hstored hunseen)
      (.inl ⟨hstored, by simp⟩) (.inr ⟨_, hkey, rfl⟩) le_rfl
    rintro other hother -
    exact Option.some.inj (hkey.symm.trans hother)
  · have hbecame : Became existing input ⟨mint r.minted, input.text⟩ :=
      ⟨rfl, fun key hkey hmem => absurd hmem (hother key hkey),
        fun hmem => absurd hmem (hmint.unseen _)⟩
    have hsource : ∃ k < r.minted + 1, mint r.minted = mint k := ⟨_, Nat.lt_succ_self _, rfl⟩
    obtain ⟨-, rfl⟩ | ⟨key, hkey, rfl⟩ := hnamed
    · exact hr.snoc htext hbecame (hr.minted_new hmint) (.inr hsource) (.inl rfl)
        (Nat.le_succ _)
    · exact hr.snoc htext hbecame (hr.minted_new hmint) (.inr hsource) (.inr ⟨key, hkey, rfl⟩)
        (Nat.le_succ _)

theorem Resolving.Sound.run {rest : List ChoiceInput} (hmint : Fresh existing mint)
    (hr : r.Sound existing mint inputs)
    (h : rest.foldlM (Resolving.push existing mint) r = .ok r') :
    r'.Sound existing mint (inputs ++ rest) := by
  induction rest generalizing inputs r with
  | nil =>
      cases h
      simpa using hr
  | cons input rest ih =>
      rw [List.foldlM_cons] at h
      obtain ⟨middle, hpush, h⟩ := Gate.bind_eq_ok.mp h
      have hrun := ih (hr.push hmint hpush) h
      rwa [List.append_assoc] at hrun

/-- What an accepted choice question is made of. -/
theorem resolveChoices_eq_ok {correct : Option String} {spec : QuestionSpec}
    (hmint : Fresh existing mint)
    (h : resolveChoices existing mint inputs correct = .ok spec) :
    ∃ choices key pair, spec = ⟨.choice, some choices, some pair.2.id⟩ ∧
      minQuestionChoices ≤ inputs.length ∧ inputs.length ≤ maxQuestionChoices ∧
      List.Forall₂ (Became existing) inputs choices ∧ (Choice.ids choices).Nodup ∧
      (∀ choice ∈ choices, choiceText choice.text = .ok choice.text) ∧
      correct = some key ∧ pair ∈ inputs.zip choices ∧ pair.1.id = some key := by
  unfold resolveChoices at h
  obtain ⟨u, hlength, h⟩ := Gate.bind_eq_ok.mp h
  obtain ⟨r, hloop, h⟩ := Gate.bind_eq_ok.mp h
  obtain ⟨key, hcorrect, h⟩ := Gate.bind_eq_ok.mp h
  obtain ⟨named, hnamed, h⟩ := Gate.bind_eq_ok.mp h
  rw [Gate.found_eq_ok] at hcorrect hnamed
  have hbounds := of_decide_eq_true (Gate.ensure_eq_ok.mp hlength)
  have hsound : r.Sound existing mint inputs := by
    simpa using Resolving.Sound.start.run hmint hloop
  have hkey : named.1 = key := by simpa using List.find?_some hnamed
  obtain ⟨pair, hpair, hinput, hid⟩ :=
    hsound.keys key named.2 (hkey ▸ List.mem_of_find?_eq_some hnamed)
  cases h
  exact ⟨r.resolved, key, pair, by rw [hid], hbounds.1, hbounds.2, hsound.became,
    hsound.distinct, hsound.texts, hcorrect, hpair, hinput⟩

end Loop

def QuestionSpec.Keeps (spec : QuestionSpec) (existing : List Choice)
    (choices : Option (List ChoiceInput)) (correct : Option String) : Prop :=
  ∀ inputs, choices = some inputs → ∃ options, spec.choices = some options ∧
    List.Forall₂ (Became existing) inputs options ∧
      ∃ key, correct = some key ∧ ∃ pair ∈ inputs.zip options,
        pair.1.id = some key ∧ spec.correct = some pair.2.id

section Result

variable {existing : List Choice} {mint : ℕ → String} {kind : QuestionKind}
  {choices : Option (List ChoiceInput)} {correct : Option String} {spec : QuestionSpec}

theorem QuestionSpec.tryNew_shaped (hmint : Fresh existing mint)
    (h : tryNew existing mint kind choices correct = .ok spec) :
    spec.kind = kind ∧ spec.Shaped ∧ spec.Keeps existing choices correct := by
  cases kind with
  | text =>
      cases choices with
      | some => simp [tryNew] at h
      | none =>
          simp only [tryNew] at h
          split at h
          · cases h
          · cases h
            exact ⟨rfl, trivial, by simp [QuestionSpec.Keeps]⟩
  | choice =>
      cases choices with
      | none => simp [tryNew] at h
      | some =>
          obtain ⟨options, key, pair, rfl, hmin, hmax, hbecame, hdistinct, htexts, rfl, hpair,
            hinput⟩ := resolveChoices_eq_ok hmint h
          have hlength := hbecame.length_eq
          have hcorrect : pair.2.id ∈ Choice.ids options :=
            List.mem_map_of_mem (List.of_mem_zip hpair).2
          refine ⟨rfl, ⟨hlength ▸ hmin, hlength ▸ hmax, hdistinct, hcorrect, htexts⟩, ?_⟩
          rintro _ ⟨⟩
          exact ⟨options, rfl, hbecame, key, rfl, pair, hpair, hinput, rfl⟩

end Result

def Choice.input (choice : Choice) : ChoiceInput := ⟨some choice.id, choice.text⟩

section Resubmit

variable {existing choices : List Choice} {choice : Choice} {r : Resolving} {mint : ℕ → String}

theorem Resolving.push_input (hstored : choice.id ∈ Choice.ids existing)
    (hunseen : choice.id ∉ r.keys.map Prod.fst)
    (htext : choiceText choice.text = .ok choice.text) :
    r.push existing mint choice.input =
      .ok { r with
        resolved := r.resolved ++ [choice]
        keys := r.keys ++ [(choice.id, choice.id)] } := by
  have hseen : (r.keys.any fun seen => seen.1 = choice.id) = false := by
    rw [List.any_eq_false]
    intro pair hpair
    rw [decide_eq_true_eq]
    exact fun hkey => hunseen (List.mem_map.mpr ⟨pair, hpair, hkey⟩)
  obtain ⟨stored, hmem, hid⟩ := List.mem_map.mp hstored
  obtain ⟨found, hfind⟩ : ∃ found, existing.find? (fun stored => stored.id = choice.id) =
      some found := by
    rw [← Option.isSome_iff_exists, List.find?_isSome]
    exact ⟨stored, hmem, by simpa using hid⟩
  have hfound : found.id = choice.id := by simpa using List.find?_some hfind
  simp only [Resolving.push, Resolving.name, Choice.input, hseen, hfind, hfound, htext]
  rfl

theorem Resolving.foldlM_input (mint : ℕ → String) (r : Resolving)
    (hstored : ∀ choice ∈ choices, choice.id ∈ Choice.ids existing)
    (hdistinct : (Choice.ids choices).Nodup)
    (hunseen : ∀ choice ∈ choices, choice.id ∉ r.keys.map Prod.fst)
    (htexts : ∀ choice ∈ choices, choiceText choice.text = .ok choice.text) :
    (choices.map Choice.input).foldlM (Resolving.push existing mint) r =
      .ok { r with
        resolved := r.resolved ++ choices
        keys := r.keys ++ choices.map fun choice => (choice.id, choice.id) } := by
  induction choices generalizing r with
  | nil => simp only [List.map_nil, List.foldlM_nil, List.append_nil]; rfl
  | cons choice choices ih =>
      simp only [Choice.ids, List.map_cons, List.nodup_cons] at hdistinct
      simp only [List.forall_mem_cons] at hstored hunseen htexts
      rw [List.map_cons, List.foldlM_cons, push_input hstored.1 hunseen.1 htexts.1]
      refine (ih _ hstored.2 hdistinct.2 ?_ htexts.2).trans ?_
      · intro other hother
        rw [List.map_append, List.mem_append, not_or]
        refine ⟨hunseen.2 other hother, fun hsame => hdistinct.1 ?_⟩
        have hid : other.id = choice.id := List.mem_singleton.mp hsame
        exact hid ▸ List.mem_map_of_mem hother
      · simp

theorem QuestionSpec.tryNew_resubmit {correct : String} (mint : ℕ → String)
    (hspec : Shaped ⟨.choice, some choices, some correct⟩)
    (hstored : ∀ choice ∈ choices, choice.id ∈ Choice.ids existing) :
    tryNew existing mint .choice (some (choices.map Choice.input)) (some correct) =
      .ok ⟨.choice, some choices, some correct⟩ := by
  obtain ⟨hmin, hmax, hdistinct, hcorrect, htexts⟩ := hspec
  have hloop := Resolving.foldlM_input mint Resolving.start hstored hdistinct
    (by simp [Resolving.start]) htexts
  obtain ⟨choice, hchoice, rfl⟩ := List.mem_map.mp hcorrect
  obtain ⟨named, hfind⟩ : ∃ named,
      (choices.map fun choice => (choice.id, choice.id)).find?
        (fun seen => seen.1 = choice.id) = some named := by
    rw [← Option.isSome_iff_exists, List.find?_isSome]
    exact ⟨(choice.id, choice.id), List.mem_map.mpr ⟨choice, hchoice, rfl⟩, by simp⟩
  have hnamed : named.2 = choice.id := by
    obtain ⟨other, -, rfl⟩ := List.mem_map.mp (List.mem_of_find?_eq_some hfind)
    simpa using List.find?_some hfind
  have hlength : decide (minQuestionChoices ≤ (choices.map Choice.input).length ∧
      (choices.map Choice.input).length ≤ maxQuestionChoices) = true := by
    simpa using ⟨hmin, hmax⟩
  simp only [tryNew, resolveChoices, hlength, hloop]
  simp [Gate.ensure, Gate.found, Resolving.start, bind, Except.bind, hfind, hnamed]

end Resubmit

/-! ## The score -/

def ExamAnswer.isCorrect (answer : ExamAnswer) (question : ExamQuestion) : Option Bool :=
  question.spec.correct.map fun correct => decide (answer.selected = some correct)

def autoScore (questions : List ExamQuestion) (answers : List ExamAnswer) : ℤ × ℤ :=
  questions.foldl
    (fun score question =>
      match question.spec.correct with
      | none => score
      | some correct =>
          (if answers.any fun a => a.question = question.id && a.selected = some correct then
            score.1 + question.points
          else score.1, score.2 + question.points))
    (0, 0)

def ExamQuestion.Hit (question : ExamQuestion) (answers : List ExamAnswer) : Prop :=
  ∃ answer ∈ answers, answer.question = question.id ∧ answer.isCorrect question = some true

instance (question : ExamQuestion) (answers : List ExamAnswer) :
    Decidable (question.Hit answers) := by
  unfold ExamQuestion.Hit
  infer_instance

def ExamQuestion.possible (question : ExamQuestion) : ℤ :=
  if question.spec.correct.isSome then question.points else 0

def ExamQuestion.earned (question : ExamQuestion) (answers : List ExamAnswer) : ℤ :=
  if question.Hit answers then question.points else 0

theorem ExamQuestion.not_hit {question : ExamQuestion} {answers : List ExamAnswer}
    (h : question.spec.correct = none) : ¬question.Hit answers := by
  simp [ExamQuestion.Hit, ExamAnswer.isCorrect, h]

theorem ExamQuestion.any_iff_hit {question : ExamQuestion} {answers : List ExamAnswer}
    {correct : String} (h : question.spec.correct = some correct) :
    (answers.any fun a => a.question = question.id && a.selected = some correct) = true ↔
      question.Hit answers := by
  simp [ExamQuestion.Hit, ExamAnswer.isCorrect, h]

/-- The loop adds up question by question. -/
theorem autoScore_eq_sum (questions : List ExamQuestion) (answers : List ExamAnswer) :
    autoScore questions answers =
      ((questions.map fun question => question.earned answers).sum,
        (questions.map ExamQuestion.possible).sum) := by
  induction questions using List.reverseRecOn with
  | nil => rfl
  | append_singleton questions question ih =>
      unfold autoScore at ih ⊢
      rw [List.foldl_append, ih, List.foldl_cons, List.foldl_nil]
      simp only [List.map_append, List.map_cons, List.map_nil, List.sum_append, List.sum_cons,
        List.sum_nil, add_zero]
      cases hcorrect : question.spec.correct with
      | none =>
          simp [ExamQuestion.earned, ExamQuestion.possible, hcorrect,
            ExamQuestion.not_hit hcorrect]
      | some =>
          simp only [ExamQuestion.any_iff_hit hcorrect, ExamQuestion.earned,
            ExamQuestion.possible, hcorrect, Option.isSome_some, if_true]
          split <;> simp

theorem autoScore_singleton (question : ExamQuestion) (answers : List ExamAnswer) :
    autoScore [question] answers = (question.earned answers, question.possible) := by
  simp [autoScore_eq_sum]

theorem autoScore_reordered (question : ExamQuestion) (answers : List ExamAnswer)
    (choices : Option (List Choice)) :
    autoScore [{ question with spec := { question.spec with choices := choices } }] answers =
      autoScore [question] answers := rfl

theorem QuestionSpec.Shaped.kind_of_choices {spec : QuestionSpec} {listed : List Choice}
    (h : spec.Shaped) (hlisted : spec.choices = some listed) : spec.kind = .choice := by
  obtain ⟨kind, choices, correct⟩ := spec
  obtain rfl : choices = some listed := hlisted
  cases kind with
  | choice => rfl
  | text => exact h.elim

/-- The shape does not depend on the order of the options. -/
theorem QuestionSpec.Shaped.reordered {spec : QuestionSpec} {listed listed' : List Choice}
    (h : spec.Shaped) (hlisted : spec.choices = some listed) (hperm : listed'.Perm listed) :
    ∃ correct, spec.correct = some correct ∧
      QuestionSpec.Shaped ⟨.choice, some listed', some correct⟩ := by
  have hkind := h.kind_of_choices hlisted
  obtain ⟨kind, choices, correct⟩ := spec
  obtain rfl : choices = some listed := hlisted
  obtain rfl : kind = .choice := hkind
  cases correct with
  | none => exact h.elim
  | some correct =>
      obtain ⟨hmin, hmax, hdistinct, hcorrect, htexts⟩ := h
      have hids : (Choice.ids listed').Perm (Choice.ids listed) := hperm.map _
      exact ⟨correct, rfl, hperm.length_eq ▸ hmin, hperm.length_eq ▸ hmax,
        hids.nodup_iff.mpr hdistinct, hids.mem_iff.mpr hcorrect,
        fun choice hchoice => htexts choice (hperm.subset hchoice)⟩

/-- An accepted question keeps the identity of its options and names one of them, and its
score is the points of the question for the correct answer and nothing for any other. -/
theorem tryNew_scored {existing : List Choice} {mint : ℕ → String} {kind : QuestionKind}
    {choices : Option (List ChoiceInput)} {correct : Option String} {spec : QuestionSpec}
    (hmint : Fresh existing mint)
    (h : QuestionSpec.tryNew existing mint kind choices correct = .ok spec) :
    spec.kind = kind ∧ spec.Shaped ∧ spec.Keeps existing choices correct ∧
      ∀ question : ExamQuestion, question.spec = spec →
        minQuestionPoints ≤ question.points → question.points ≤ maxQuestionPoints →
        ∀ answers : List ExamAnswer,
          (0 ≤ (autoScore [question] answers).1 ∧
            (autoScore [question] answers).1 ≤ question.points) ∧
          ((autoScore [question] answers).1 = question.points ↔ question.Hit answers) ∧
          ∀ mint' listed listed', spec.choices = some listed → listed'.Perm listed →
            ∃ spec', QuestionSpec.tryNew listed mint' kind (some (listed'.map Choice.input))
                spec.correct = .ok spec' ∧ spec'.choices = some listed' ∧
              autoScore [{ question with spec := spec' }] answers =
                autoScore [question] answers := by
  obtain ⟨hkind, hshaped, hkeeps⟩ := QuestionSpec.tryNew_shaped hmint h
  refine ⟨hkind, hshaped, hkeeps, ?_⟩
  rintro question rfl hmin - answers
  have hpos : 0 < question.points := lt_of_lt_of_le (by decide) hmin
  refine ⟨?_, ?_, fun mint' listed listed' hlisted hperm => ?_⟩
  · rw [autoScore_singleton, ExamQuestion.earned]
    split <;> simp [hpos.le]
  · rw [autoScore_singleton, ExamQuestion.earned]
    split
    · next hhit => simp [hhit]
    · next hmiss => simp [hmiss, hpos.ne]
  · obtain ⟨correct, hcorrect, hshaped'⟩ := hshaped.reordered hlisted hperm
    have hresubmit := QuestionSpec.tryNew_resubmit mint' hshaped' fun choice hchoice =>
      List.mem_map_of_mem (hperm.subset hchoice)
    have hchoice := hshaped.kind_of_choices hlisted
    rw [← hkind, hchoice, hcorrect]
    refine ⟨_, hresubmit, rfl, ?_⟩
    rw [← hcorrect, ← hchoice]
    exact autoScore_reordered question answers (some listed')

namespace Sample

def uuidSample (n : ℕ) : String :=
  "0198f1a2-3b4c-7d5e-8f90-1a2b3c4d" ++ (1000 + n).repr

theorem uuidSample_injective : Function.Injective uuidSample := by
  intro m n h
  have hdigits := Text.natRepr_injective ((String.append_right_inj _).mp h)
  exact Nat.add_left_cancel hdigits

def storedOption : Choice := ⟨uuidSample 0, "evet"⟩

def mintSample (n : ℕ) : String := uuidSample (n + 1)

def submitted : List ChoiceInput := [⟨some "a", "hayır"⟩, storedOption.input]

theorem mintSample_fresh : Fresh [storedOption] mintSample where
  inj m n h := Nat.succ_injective (uuidSample_injective h)
  unseen n hmem := by
    have hid : uuidSample (n + 1) = uuidSample 0 := by
      simpa [Choice.ids, storedOption, mintSample] using hmem
    cases uuidSample_injective hid

def resolvedSpec : QuestionSpec :=
  ⟨.choice, some [⟨mintSample 0, "hayır"⟩, storedOption], some (mintSample 0)⟩

def uuid : Uuid := .ending "0401"

def question : ExamQuestion :=
  { id := ⟨uuid⟩
    exam := ⟨uuid⟩
    subject := ⟨uuid⟩
    text := "2 + 2 = 5?"
    points := 10
    spec := resolvedSpec
    fromBank := none
    bankedAs := none }

def hit : ExamAnswer := ⟨⟨uuid⟩, ⟨uuid⟩, ⟨uuid⟩, 1, some (mintSample 0), none, 0⟩

theorem tryNew_scored_submitted :
    QuestionSpec.tryNew [storedOption] mintSample .choice (some submitted) (some "a") =
        .ok resolvedSpec ∧
      resolvedSpec.Shaped ∧ resolvedSpec.Keeps [storedOption] (some submitted) (some "a") ∧
      (autoScore [question] [hit]).1 = 10 :=
  have haccepted : QuestionSpec.tryNew [storedOption] mintSample .choice (some submitted)
      (some "a") = .ok resolvedSpec := by
    decide
  have hscored := tryNew_scored mintSample_fresh haccepted
  ⟨haccepted, hscored.2.1, hscored.2.2.1,
    (hscored.2.2.2 question rfl (by decide) (by decide) [hit]).2.1.mpr (by decide)⟩

end Sample

end Hezarfen.Exams
