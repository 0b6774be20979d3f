import Hezarfen.BankQuestions
import Hezarfen.Transactions

/-!
# A template is what its edits made of it

The guard compares every column that the merge states again, so the row that an update
writes is the merge of the row it replaces.  A transaction holds the rows of its edits until
it ends, and each row it holds went through exactly these edits.
-/

namespace Hezarfen.BankQuestions

open Exams (BankQuestionId Became Choice ChoiceInput Fresh QuestionKind QuestionSpec SubjectId)
open Interleaving ReadCommitted

variable {edits : List (BankQuestionId × Edit)} {k : BankQuestionId} {v : BankQuestion}
  {c : Config Db Point}

section Merge

variable {existing : List Choice} {mint : ℕ → String} {kind : QuestionKind}
  {correct : Option String} {spec : QuestionSpec}

/-- Without options a question is a text question. -/
theorem tryNew_none (h : QuestionSpec.tryNew existing mint kind none correct = .ok spec) :
    spec.choices = none ∧ spec.correct = none ∧ correct = none := by
  cases kind with
  | choice => cases h
  | text =>
      simp only [QuestionSpec.tryNew] at h
      split at h
      · cases h
      · next hnone =>
        cases h
        exact ⟨rfl, rfl, by simpa using hnone⟩

theorem eq_of_became {stored choice : Choice} (hstored : stored.id ∈ Choice.ids existing)
    (h : Became existing stored.input choice) : choice = stored := by
  have hid : choice.id = stored.id := h.kept stored.id rfl hstored
  have htext : choice.text = stored.text := h.text
  cases choice
  cases stored
  cases hid
  cases htext
  rfl

theorem eq_of_resubmitted {stored options : List Choice}
    (hstored : ∀ choice ∈ stored, choice.id ∈ Choice.ids existing)
    (h : List.Forall₂ (Became existing) (stored.map Choice.input) options) : options = stored := by
  induction stored generalizing options with
  | nil =>
      cases h
      rfl
  | cons choice stored ih =>
      rw [List.map_cons] at h
      obtain ⟨option, rest, hbecame, hrest, rfl⟩ := List.forall₂_cons_left_iff.mp h
      rw [eq_of_became (hstored choice List.mem_cons_self) hbecame,
        ih (fun other hother => hstored other (List.mem_cons_of_mem _ hother)) hrest]

theorem became_of_mem_zip {inputs : List ChoiceInput} {options : List Choice}
    (h : List.Forall₂ (Became existing) inputs options) {pair : ChoiceInput × Choice}
    (hpair : pair ∈ inputs.zip options) : Became existing pair.1 pair.2 :=
  List.forall₂_iff_zip.mp h |>.2 hpair

/-- The key of the correct answer is the key of an option. -/
theorem shaped_correct {before : Editable} {key : String} (hshaped : before.spec.Shaped)
    (hkey : before.spec.correct = some key) : key ∈ Choice.ids before.stored := by
  unfold Editable.stored
  generalize before.spec = spec at hshaped hkey ⊢
  obtain ⟨kind, choices, correct⟩ := spec
  obtain rfl : correct = some key := hkey
  cases kind <;> cases choices <;> try exact hshaped.elim
  exact hshaped.2.2.2.1

variable {patch : BankQuestionPatch} {before merged : Editable}

theorem merge_eq_ok (h : patch.merge mint before = .ok merged) :
    QuestionSpec.tryNew before.stored mint (patch.kind.getD before.spec.kind)
        (patch.choices.getD (before.spec.choices.map (List.map Choice.input)))
        (patch.correct.getD before.spec.correct) = .ok merged.spec ∧
      merged = ⟨patch.subject.or before.subject, patch.text.getD before.text,
        patch.points.getD before.points, merged.spec,
        patch.visibility.getD before.visibility⟩ := by
  obtain ⟨spec, hspec, hmerged⟩ := Gate.bind_eq_ok.mp h
  cases hmerged
  exact ⟨hspec, rfl⟩

theorem merge_replaces (hshaped : before.spec.Shaped) (hmint : Fresh before.stored mint)
    (h : patch.merge mint before = .ok merged) :
    patch.Replaces before merged ∧ merged.spec.Shaped := by
  obtain ⟨hspec, hfields⟩ := merge_eq_ok h
  obtain ⟨hkind, hshaped', hkeeps⟩ := QuestionSpec.tryNew_shaped hmint hspec
  refine ⟨?_, hshaped'⟩
  constructor
  · rw [hfields]
  · rw [hfields]
  · rw [hfields]
  · rw [hfields]
  · exact hkind
  · intro hkept
    rw [hkept, Option.getD_none] at hspec hkeeps
    cases hstored : before.spec.choices with
    | none =>
        rw [hstored, Option.map_none] at hspec
        exact (tryNew_none hspec).1
    | some stored =>
        obtain ⟨options, hoptions, hbecame, -⟩ := hkeeps _ (by rw [hstored]; rfl)
        rw [hoptions, eq_of_resubmitted _ hbecame]
        intro choice hchoice
        rw [Editable.stored, hstored]
        exact List.mem_map_of_mem hchoice
  · intro hcleared
    rw [hcleared, Option.getD_some] at hspec
    exact (tryNew_none hspec).1
  · intro inputs hset
    rw [hset, Option.getD_some] at hkeeps
    obtain ⟨options, hoptions, hbecame, -⟩ := hkeeps inputs rfl
    exact ⟨options, hoptions, hbecame⟩
  · intro hkept
    rw [hkept, Option.getD_none] at hspec hkeeps
    cases hinputs : patch.choices.getD (before.spec.choices.map (List.map Choice.input)) with
    | none =>
        rw [hinputs] at hspec
        obtain ⟨-, hcorrect, hbefore⟩ := tryNew_none hspec
        rw [hcorrect, hbefore]
    | some inputs =>
        obtain ⟨options, -, hbecame, key, hkey, pair, hpair, hinput, hcorrect⟩ :=
          hkeeps inputs hinputs
        have hid : pair.2.id = key :=
          (became_of_mem_zip hbecame hpair).kept key hinput (shaped_correct hshaped hkey)
        rw [hcorrect, hkey, hid]
  · intro hcleared
    rw [hcleared, Option.getD_some] at hspec hkeeps
    cases hinputs : patch.choices.getD (before.spec.choices.map (List.map Choice.input)) with
    | none =>
        rw [hinputs] at hspec
        exact (tryNew_none hspec).2.1
    | some inputs =>
        obtain ⟨-, -, -, key, hkey, -⟩ := hkeeps inputs hinputs
        cases hkey
  · intro key hset
    rw [hset, Option.getD_some] at hspec hkeeps
    cases hinputs : patch.choices.getD (before.spec.choices.map (List.map Choice.input)) with
    | none =>
        rw [hinputs] at hspec
        cases (tryNew_none hspec).2.2
    | some inputs =>
        obtain ⟨options, hoptions, -, key', hkey, pair, hpair, hinput, hcorrect⟩ :=
          hkeeps inputs hinputs
        cases hkey
        exact ⟨inputs, options, rfl, hoptions, pair, hpair, hinput, hcorrect⟩

end Merge

variable {tx tx' : ℕ} {s s' : Db} {p : Point} {w : World} {n : Reply}

abbrev Templates := Rows BankQuestionId BankQuestion

variable {t : Templates}

structure Stages (tx : ℕ) (edits : List (BankQuestionId × Edit)) (t : Templates) : Prop where
  held : ∀ k, (t.row k).Held tx → ∃ old new, t.row k = ⟨some old, some (tx, some new)⟩ ∧
    Through Edit.Makes (editsOf k edits) old new
  rest : ∀ k, ¬ (t.row k).Held tx → editsOf k edits = []

theorem Stages.of_idle (h : Rows.Idle tx t) : Stages tx [] t where
  held k hheld := absurd hheld (h k)
  rest _ _ := rfl

/-- An update of a row that the statement found. -/
theorem Stages.alter {t' : Templates} {q : BankQuestion → Bool}
    {f : BankQuestion → Option BankQuestion} {new : BankQuestion} {e : Edit} (h : Stages tx edits t)
    (halter : Rows.alterWhere tx t k q f = some (some v, t')) (hnew : f v = some new)
    (hmakes : e.Makes v new) : Stages tx (edits ++ [(k, e)]) t' := by
  obtain ⟨hnone, -⟩ | ⟨u, hu, hseen, -, -, rfl⟩ := Rows.alterWhere_cases halter
  · cases hnone
  · cases hu
    rw [hnew]
    constructor
    · intro k' hheld
      rw [editsOf_append, editsOf_single, Rows.row_write] at *
      by_cases hk : k' = k
      · subst hk
        rw [if_pos rfl, if_pos rfl]
        by_cases hbefore : (t.row k').Held tx
        · obtain ⟨old, middle, hrow, hthrough⟩ := h.held k' hbefore
          rw [hrow] at hseen ⊢
          simp only [Row.seen, if_true] at hseen
          cases hseen
          exact ⟨old, new, rfl, hthrough.append (.single hmakes)⟩
        · rw [Row.seen_eq_committed hbefore] at hseen
          rw [h.rest k' hbefore]
          refine ⟨v, new, ?_, .single hmakes⟩
          rw [← hseen]
      · rw [if_neg hk] at hheld ⊢
        rw [if_neg (Ne.symm hk), List.append_nil]
        exact h.held k' hheld
    · intro k' hnot
      by_cases hk : k' = k
      · subst hk
        exact absurd (Rows.held_write tx t k' _) hnot
      · rw [Rows.row_write, if_neg hk] at hnot
        rw [editsOf_append, editsOf_single, if_neg (Ne.symm hk), h.rest k' hnot]
        rfl

/-- The commit takes every row through the edits. -/
theorem Stages.commit (h : Stages tx edits t) (hv : (t.row k).committed = some v) :
    ∃ new, ((t.commit tx).row k).committed = some new ∧
      Through Edit.Makes (editsOf k edits) v new := by
  rw [Rows.row_commit, Row.committed_commit]
  by_cases hheld : (t.row k).Held tx
  · obtain ⟨old, new, hrow, hthrough⟩ := h.held k hheld
    rw [hrow] at hv ⊢
    cases hv
    exact ⟨new, by simp [Row.seen], hthrough⟩
  · rw [Row.seen_eq_committed hheld, hv, h.rest k hheld]
    exact ⟨v, rfl, rfl⟩

/-- No row appears at a commit. -/
theorem Stages.commit_none (h : Stages tx edits t) (hnone : (t.row k).committed = none) :
    ((t.commit tx).row k).committed = none := by
  rw [Rows.row_commit, Row.committed_commit]
  by_cases hheld : (t.row k).Held tx
  · obtain ⟨old, new, hrow, -⟩ := h.held k hheld
    rw [hrow] at hnone
    cases hnone
  · rw [Row.seen_eq_committed hheld, hnone]

theorem Stages.apart {t' : Templates} (h : Stages tx' edits t) (hapart : Rows.Apart tx t t')
    (hne : tx' ≠ tx) :
    Stages tx' edits t' where
  held k hheld := by
    have hbefore : (t.row k).Held tx' := by
      by_contra hnot
      exact hapart.unheld tx' hne k hnot hheld
    rw [hapart.held tx' hne k hbefore]
    exact h.held k hbefore
  rest k hnot := by
    apply h.rest k
    intro hbefore
    rw [hapart.held tx' hne k hbefore] at hnot
    exact hnot hbefore

/-! ## Invariants -/

def Db.Shaped (s : Db) : Prop :=
  ∀ k row, (s.bankQuestion.row k).committed = some row → row.spec.Shaped

theorem makes_shaped (e : Edit) (before after : BankQuestion) (h : e.Makes before after)
    (hshaped : before.spec.Shaped) : after.spec.Shaped := by
  cases e with
  | patch =>
      obtain ⟨merged, -, rfl, -, hmerged⟩ := h
      exact hmerged
  | clear =>
      cases h
      exact hshaped

def Point.Knows : Point → ℕ → Db → Prop
  | .read _ _ _, tx, s => Rows.Idle tx s.bankQuestion
  | .updateIfUnchanged _ patch _ mint expected merged, tx, s =>
      Rows.Idle tx s.bankQuestion ∧ patch.merge mint expected = .ok merged ∧
        Fresh expected.stored mint
  | .lockSubject _, tx, s => Rows.Idle tx s.bankQuestion
  | .findTemplates _, tx, s => Rows.Idle tx s.bankQuestion
  | p, tx, s => Stages tx p.edits s.bankQuestion

theorem Point.Knows.stages (h : p.Knows tx s) : Stages tx p.edits s.bankQuestion := by
  cases p with
  | read | lockSubject | findTemplates => exact .of_idle h
  | updateIfUnchanged => exact .of_idle h.1
  | references | clearTemplates | deleteSubject | commit => exact h

theorem Point.Knows.apart (h : p.Knows tx' s)
    (hapart : Rows.Apart tx s.bankQuestion s'.bankQuestion) (hne : tx' ≠ tx) : p.Knows tx' s' := by
  cases p with
  | read | lockSubject | findTemplates => exact hapart.idle tx' hne h
  | updateIfUnchanged => exact ⟨hapart.idle tx' hne h.1, h.2⟩
  | references | clearTemplates | deleteSubject | commit => exact Stages.apart h hapart hne

def Unseen (c : Config Db Point) : Move Request World → Prop
  | .advance _ w => ∀ k row, (c.shared.bankQuestion.row k).committed = some row →
      ∀ n, w.mint n ∉ Choice.ids row.stored
  | _ => True

theorem Unseen.fresh (h : Unseen c (.advance tx w)) {row : BankQuestion}
    (hrow : (c.shared.bankQuestion.row k).committed = some row) :
    Fresh row.stored w.mint where
  inj := w.distinct
  unseen := h k row hrow

/-- What a step can do to the templates. -/
inductive Moved (tx : ℕ) (s : Db) (p : Point) : Db → Reply → Prop
  | stays {s' : Db} {n : Reply} (h : s'.bankQuestion = s.bankQuestion) (hn : p.lands n = []) :
      Moved tx s p s' n
  | alters {s' : Db} {n : Reply} {k : BankQuestionId} {q : BankQuestion → Bool}
      {f : BankQuestion → Option BankQuestion} {v : BankQuestion}
      (h : Rows.alterWhere tx s.bankQuestion k q f = some (some v, s'.bankQuestion))
      (hn : p.lands n = []) : Moved tx s p s' n
  | rollback (e : AppError) : Moved tx s p (s.rollback tx) (.answer (.error e))
  | commit (a : Answer) : Moved tx s p (s.commit tx) (.answer (.ok a))

theorem Moved.of_refuse {e : AppError} (h : refuse tx s e = (s', n)) : Moved tx s p s' n := by
  cases h
  exact .rollback e

theorem next_moved (h : next tx s p w = some (s', n)) : Moved tx s p s' n := by
  cases p with
  | read =>
      have hread := Option.some.inj h
      unfold readTx at hread
      split at hread
      · cases hread
        exact .stays rfl rfl
      · split at hread
        · cases hread
          exact .stays rfl rfl
        · cases hread
          exact .stays rfl rfl
  | updateIfUnchanged =>
      obtain ⟨rows, -, hmissed⟩ | ⟨row, rows, halter, hfound⟩ := Rows.onRow_cases h
      · unfold reload at hmissed
        split at hmissed
        · cases hmissed
          exact .stays rfl rfl
        · cases hmissed
          exact .stays rfl rfl
      · cases hfound
        exact .alters halter rfl
  | references id patch mint expected merged =>
      change referencesTx tx s expected merged = _ at h
      unfold referencesTx at h
      split at h
      · cases h
        exact .commit _
      · split at h
        · cases h
          exact .commit _
        · split at h
          · split at h
            · cases h
              exact .commit _
            · exact .of_refuse (Option.some.inj h)
          · cases h
  | lockSubject =>
      obtain ⟨rows, -, hmissed⟩ | ⟨row, rows, -, hfound⟩ := Rows.onRow_cases h
      · exact .of_refuse hmissed.symm
      · split at hfound
        · exact .of_refuse hfound.symm
        · cases hfound
          exact .stays rfl rfl
  | findTemplates =>
      cases h
      exact .stays rfl rfl
  | clearTemplates subject found =>
      cases found with
      | nil =>
          cases h
          exact .stays rfl rfl
      | cons =>
          obtain ⟨rows, -, hmissed⟩ | ⟨row, rows, halter, hfound⟩ := Rows.onRow_cases h
          · cases hmissed
            exact .stays rfl rfl
          · cases hfound
            exact .alters halter rfl
  | deleteSubject =>
      obtain ⟨rows, -, hmissed⟩ | ⟨row, rows, -, hfound⟩ := Rows.onRow_cases h
      · exact .of_refuse hmissed.symm
      · split at hfound
        · cases hfound
          exact .stays rfl rfl
        · exact .of_refuse hfound.symm
  | commit =>
      cases h
      exact .commit _

theorem Moved.apart (h : Moved tx s p s' n) :
    Rows.Apart tx s.bankQuestion s'.bankQuestion := by
  cases h with
  | stays h => exact h ▸ .refl tx _
  | alters h => exact .alter h
  | rollback => exact .rollback tx _
  | commit => exact .commit tx _

/-- A step that lands nothing leaves what is committed. -/
theorem Moved.committed (h : Moved tx s p s' n) (hfails : ∀ a, n ≠ .answer (.ok a))
    (k : BankQuestionId) :
    (s'.bankQuestion.row k).committed = (s.bankQuestion.row k).committed := by
  cases h with
  | stays h => rw [h]
  | alters h => exact Rows.committed_alter h k
  | rollback => exact Rows.committed_rollback tx s.bankQuestion k
  | commit a => exact absurd rfl (hfails a)

/-- A step takes every template through the edits it lands. -/
theorem Moved.through (h : Moved tx s p s' n) (hstages : Stages tx p.edits s.bankQuestion)
    (hv : (s.bankQuestion.row k).committed = some v) :
    ∃ v', (s'.bankQuestion.row k).committed = some v' ∧
      Through Edit.Makes (editsOf k (p.lands n)) v v' := by
  cases h with
  | stays h hn => exact ⟨v, by rw [h, hv], by rw [hn]; rfl⟩
  | alters h hn => exact ⟨v, by rw [Rows.committed_alter h, hv], by rw [hn]; rfl⟩
  | rollback =>
      exact ⟨v, (Rows.committed_rollback tx s.bankQuestion k).trans hv, rfl⟩
  | commit => exact hstages.commit hv

/-- A committed template after the step was one before it. -/
theorem Moved.committed_before (h : Moved tx s p s' n) (hstages : Stages tx p.edits s.bankQuestion)
    {v' : BankQuestion} (hv' : (s'.bankQuestion.row k).committed = some v') :
    ∃ v, (s.bankQuestion.row k).committed = some v := by
  by_contra hnone
  rw [← Option.isSome_iff_exists, Bool.not_eq_true, Option.isSome_eq_false_iff,
    Option.isNone_iff_eq_none] at hnone
  have hafter : (s'.bankQuestion.row k).committed = none := by
    cases h with
    | stays h => rw [h, hnone]
    | alters h => rw [Rows.committed_alter h, hnone]
    | rollback => exact (Rows.committed_rollback tx s.bankQuestion k).trans hnone
    | commit => exact hstages.commit_none hnone
  rw [hafter] at hv'
  cases hv'

theorem Moved.shaped (h : Moved tx s p s' n) (hstages : Stages tx p.edits s.bankQuestion)
    (hshaped : s.Shaped) : s'.Shaped := by
  intro k v' hv'
  obtain ⟨v, hv⟩ := h.committed_before hstages hv'
  obtain ⟨v'', hv'', hthrough⟩ := h.through hstages hv
  rw [hv'] at hv''
  cases hv''
  exact hthrough.keeps makes_shaped (hshaped k v hv)

structure Follows (tx : ℕ) (s' : Db) (n : Reply) : Prop where
  goto : ∀ q, n = .goto q → q.Knows tx s'
  idle : ∀ a, n = .answer a → Rows.Idle tx s'.bankQuestion

theorem Follows.of_goto {q : Point} (h : q.Knows tx s') : Follows tx s' (.goto q) where
  goto _ heq := by
    cases heq
    exact h
  idle _ heq := by cases heq

theorem Follows.of_answer {a : Except AppError Answer} (h : Rows.Idle tx s'.bankQuestion) :
    Follows tx s' (.answer a) where
  goto _ heq := by cases heq
  idle _ _ := h

theorem Follows.of_refuse {e : AppError} (h : refuse tx s e = (s', n)) : Follows tx s' n := by
  cases h
  exact .of_answer (Rows.idle_rollback tx _)

theorem next_follows (hshaped : s.Shaped) (hknows : p.Knows tx s)
    (hfresh : ∀ k row, (s.bankQuestion.row k).committed = some row → Fresh row.stored w.mint)
    (h : next tx s p w = some (s', n)) : Follows tx s' n := by
  cases p with
  | read id =>
      have hidle : Rows.Idle tx s.bankQuestion := hknows
      have hread := Option.some.inj h
      unfold readTx at hread
      split at hread
      · cases hread
        exact .of_answer hidle
      · next question hseen =>
        rw [Row.seen_eq_committed (hidle id)] at hseen
        split at hread
        · cases hread
          exact .of_answer hidle
        · next merged hmerged =>
          cases hread
          exact .of_goto ⟨hidle, hmerged, hfresh id question hseen⟩
  | updateIfUnchanged id patch left mint expected merged =>
      obtain ⟨hidle, hmerged, hmint⟩ := hknows
      obtain ⟨rows, -, hmissed⟩ | ⟨row, rows, halter, hfound⟩ := Rows.onRow_cases h
      · unfold reload at hmissed
        split at hmissed
        · cases hmissed
          exact .of_answer hidle
        · cases hmissed
          exact .of_goto hidle
      · cases hfound
        obtain ⟨hnone, -⟩ | ⟨v, hv, hseen, hguard, -, -⟩ := Rows.alterWhere_cases halter
        · cases hnone
        · cases hv
          rw [Row.seen_eq_committed (hidle id)] at hseen
          -- the guard found the columns that the merge was made from
          obtain rfl : row.toEditable = expected := of_decide_eq_true hguard
          obtain ⟨hreplaces, hmergedShaped⟩ :=
            merge_replaces (hshaped id row hseen) hmint hmerged
          exact .of_goto ((Stages.of_idle hidle).alter (e := .patch patch mint) halter rfl
            ⟨merged, hmerged, rfl, hreplaces, hmergedShaped⟩)
  | references id patch mint expected merged =>
      have hcommit : Follows tx (s.commit tx) (.answer (.ok (.updated merged))) :=
        .of_answer (Rows.idle_commit tx _)
      change referencesTx tx s expected merged = _ at h
      unfold referencesTx at h
      split at h
      · cases h
        exact hcommit
      · split at h
        · cases h
          exact hcommit
        · split at h
          · split at h
            · cases h
              exact hcommit
            · exact .of_refuse (Option.some.inj h)
          · cases h
  | lockSubject =>
      obtain ⟨rows, -, hmissed⟩ | ⟨row, rows, -, hfound⟩ := Rows.onRow_cases h
      · exact .of_refuse hmissed.symm
      · split at hfound
        · exact .of_refuse hfound.symm
        · cases hfound
          exact .of_goto hknows
  | findTemplates =>
      cases h
      exact .of_goto (Stages.of_idle hknows)
  | clearTemplates subject found cleared =>
      have hstages : Stages tx (cleared.map fun id => (id, .clear)) s.bankQuestion := hknows
      cases found with
      | nil =>
          cases h
          exact .of_goto hstages
      | cons =>
          obtain ⟨rows, -, hmissed⟩ | ⟨row, rows, halter, hfound⟩ := Rows.onRow_cases h
          · cases hmissed
            exact .of_goto hstages
          · cases hfound
            have hcleared := hstages.alter (e := .clear) halter rfl rfl
            refine .of_goto ?_
            simpa [Point.Knows, Point.edits] using hcleared
  | deleteSubject =>
      obtain ⟨rows, -, hmissed⟩ | ⟨row, rows, -, hfound⟩ := Rows.onRow_cases h
      · exact .of_refuse hmissed.symm
      · split at hfound
        · cases hfound
          exact .of_goto hknows
        · exact .of_refuse hfound.symm
  | commit =>
      cases h
      exact .of_answer (Rows.idle_commit tx _)

theorem transactional : machine.Transactional Unseen Db.Shaped (fun tx p s => p.Knows tx s)
    (fun tx s => Rows.Idle tx s.bankQuestion)
    (fun tx s s' => Rows.Apart tx s.bankQuestion s'.bankQuestion) where
  entry request _ hidle := by
    cases request with
    | update | deleteSubject => exact hidle
  own hguard _ hnext hshaped hknows := by
    have hfollows := next_follows hshaped hknows (fun k row hrow => hguard.fresh hrow) hnext
    exact ⟨(next_moved hnext).shaped hknows.stages hshaped, hfollows.goto, hfollows.idle⟩
  next_apart hnext _ _ := (next_moved hnext).apart
  rollback hshaped := by
    refine ⟨fun k row hrow => hshaped k row ?_, Rows.idle_rollback _ _, .rollback _ _⟩
    exact (Rows.committed_rollback _ _ k).symm.trans hrow
  stable hne hapart _ _ hknows := hknows.apart hapart hne
  idle hne hapart hidle := hapart.idle _ hne hidle

abbrev Runs (c : Config Db Point) : Prop :=
  c.Runs Db.Shaped (fun tx p s => p.Knows tx s) fun tx s => Rows.Idle tx s.bankQuestion

/-- A move takes every template through the edits it lands. -/
theorem step_through {c' : Config Db Point} {m : Move Request World} (hc : Runs c)
    (hstep : machine.step c m = some c') (hv : (c.shared.bankQuestion.row k).committed = some v) :
    ∃ v', (c'.shared.bankQuestion.row k).committed = some v' ∧
      Through Edit.Makes (editsOf k (landed c m)) v v' := by
  obtain ⟨request, rfl, rfl⟩ | ⟨tx, w, p, s', n, rfl, hp, hnext, rfl⟩ | ⟨tx, p, rfl, hp, rfl⟩ :=
    Machine.step_cases hstep
  · exact ⟨v, hv, rfl⟩
  · have hlanded : landed c (.advance tx w) = p.lands n := by
      have hnext' : next tx c.shared p w = some (s', n) := hnext
      simp [landed, hp, hnext']
    rw [hlanded, Config.shared_after]
    exact (next_moved hnext).through (hc.calls tx p hp).stages hv
  · exact ⟨v, (Rows.committed_rollback tx c.shared.bankQuestion k).trans hv, rfl⟩

def Succeeds (c : Config Db Point) (m : Move Request World) : Prop :=
  ∃ tx w p s' a, m = .advance tx w ∧ c.calls.lookup tx = some p ∧
    next tx c.shared p w = some (s', .answer (.ok a))

theorem step_committed {c' : Config Db Point} {m : Move Request World}
    (hstep : machine.step c m = some c') (hfails : ¬ Succeeds c m) (k : BankQuestionId) :
    (c'.shared.bankQuestion.row k).committed = (c.shared.bankQuestion.row k).committed := by
  obtain ⟨request, rfl, rfl⟩ | ⟨tx, w, p, s', n, rfl, hp, hnext, rfl⟩ | ⟨tx, p, rfl, hp, rfl⟩ :=
    Machine.step_cases hstep
  · rfl
  · rw [Config.shared_after]
    apply (next_moved hnext).committed
    rintro a rfl
    exact hfails ⟨tx, w, p, s', a, rfl, hp, hnext⟩
  · exact Rows.committed_rollback tx c.shared.bankQuestion k

/-- Every template is what the edits of the successes made of it in the order of their commits,
a move that answers no success has written nothing, and every template keeps its shape. -/
theorem templates_replayed {s : Db} {c : Config Db Point} {ms : List (Move Request World)}
    (hsettled : Rows.Settled s.bankQuestion) (hshaped : s.Shaped)
    (hguard : machine.Guarded Unseen (.initial s) ms)
    (hrun : machine.run (.initial s) ms = some c) :
    (∀ k v, (s.bankQuestion.row k).committed = some v →
      ∃ v', (c.shared.bankQuestion.row k).committed = some v' ∧
        Through Edit.Makes (editsOf k (machine.observe landed (.initial s) ms)) v v') ∧
    (∀ pre m post d d', ms = pre ++ m :: post → machine.run (.initial s) pre = some d →
      machine.step d m = some d' → ¬ Succeeds d m →
      ∀ k, (d'.shared.bankQuestion.row k).committed = (d.shared.bankQuestion.row k).committed) ∧
    c.shared.Shaped := by
  have hstart : Runs (.initial s) := Config.initial_runs hshaped fun tx => hsettled.idle tx
  refine ⟨?_, ?_, (transactional.runs_run hstart hguard hrun).shared⟩
  · exact Machine.through_run (fun s k => (s.bankQuestion.row k).committed) (J := Runs)
      (fun hc hg hstep => transactional.runs_step hc hg hstep)
      (fun hc _ hstep k v hv => step_through hc hstep hv) hstart hguard hrun
  · intro pre m post d d' _ _ hstep hfails k
    exact step_committed hstep hfails k

namespace Sample

open Exams.Sample (uuidSample uuidSample_injective)

def templateId : BankQuestionId := ⟨.ending "0701"⟩

def algebra : SubjectId := ⟨.ending "0702"⟩

def template : BankQuestion where
  subject := some algebra
  text := "2 + 2 = ?"
  points := 5
  spec := ⟨.choice, some [⟨uuidSample 0, "dört"⟩, ⟨uuidSample 1, "beş"⟩], some (uuidSample 0)⟩
  visibility := .private_
  owner := ⟨.ending "0703"⟩
  sourceExam := none
  createdAt := 0

def store : Db where
  bankQuestion := (∅ : Templates).put templateId template
  subject := (∅ : Rows SubjectId Subject).put algebra
    ⟨⟨.ending "0704"⟩, "Cebir", "", 0, 0⟩

def retext : BankQuestionPatch := ⟨none, some "1 + 3 = ?", none, none, none, none, none⟩

def rescore : BankQuestionPatch := ⟨none, none, some 10, none, none, none, none⟩

def world : World where
  mint n := uuidSample (n + 2)
  distinct _ _ h := Nat.add_right_cancel (uuidSample_injective h)

/-- One step of the call `tx`. -/
def step (tx : ℕ) : Move Request World := .advance tx world

def contended : List (Move Request World) :=
  [.start (.update templateId retext), .start (.update templateId rescore),
    .start (.deleteSubject algebra)] ++
    [0, 1, 0, 0, 1, 2, 2, 1, 2, 2, 2, 2, 1, 1, 1, 1].map step

def unminted (c : Config Db Point) : Bool :=
  c.shared.bankQuestion.entries.all fun e => e.2.committed.all fun row =>
    (Choice.ids row.stored).all fun id => id = uuidSample 0 || id = uuidSample 1

theorem contended_unseen : machine.Guarded Unseen (.initial store) contended := by
  have hguard : machine.Guarded (fun c _ => unminted c = true) (.initial store) contended := by
    decide
  refine hguard.mono fun c m hm hunminted => ?_
  have hworld : ∀ tx w, m = .advance tx w → w = world := by
    rintro tx w rfl
    obtain hstart | hstep := List.mem_append.mp hm
    · simp at hstart
    · obtain ⟨tx', -, hmove⟩ := List.mem_map.mp hstep
      cases hmove
      rfl
  cases m with
  | start | abandon => trivial
  | advance tx w =>
      obtain rfl := hworld tx w rfl
      intro k row hrow n hmem
      cases hlookup : c.shared.bankQuestion.lookup k with
      | none =>
          rw [Rows.row_vacant hlookup] at hrow
          cases hrow
      | some =>
          rw [Rows.row_of_lookup hlookup] at hrow
          have hr := List.all_eq_true.mp hunminted _ (mem_entries_iff_lookup.mpr hlookup)
          rw [hrow] at hr
          have hid := List.all_eq_true.mp hr _ hmem
          simp only [Bool.or_eq_true, decide_eq_true_eq] at hid
          rcases hid with hid | hid <;> cases uuidSample_injective hid

theorem store_shaped : store.Shaped := by
  intro k row hrow
  unfold store at hrow
  rw [Rows.row_put] at hrow
  split at hrow
  · cases hrow
    have htexts : ∀ choice ∈ [(⟨uuidSample 0, "dört"⟩ : Choice), ⟨uuidSample 1, "beş"⟩],
        Exams.choiceText choice.text = .ok choice.text := by
      decide
    exact ⟨by decide, by decide, by decide, by decide, htexts⟩
  · cases hrow

theorem templates_replayed_contended :
    ∃ c v, machine.run (.initial store) contended = some c ∧
      (c.shared.bankQuestion.row templateId).committed = some v ∧
      v.toEditable = { template with subject := none, text := "1 + 3 = ?", points := 10 } ∧
      Through Edit.Makes
        (editsOf templateId (machine.observe landed (.initial store) contended)) template v ∧
      c.shared.Shaped := by
  have hend : (machine.run (.initial store) contended).any (fun c =>
      (c.shared.bankQuestion.row templateId).committed.any fun v =>
        v.toEditable = { template with subject := none, text := "1 + 3 = ?", points := 10 }) =
          true := by
    decide
  obtain ⟨c, hrun, hc⟩ := (Option.any_eq_true _ _).mp hend
  obtain ⟨v, hv, hfields⟩ := (Option.any_eq_true _ _).mp hc
  have hreplayed := templates_replayed (Rows.settled_of_all (by decide)) store_shaped
    contended_unseen hrun
  obtain ⟨v', hv', hthrough⟩ := hreplayed.1 templateId template (by decide)
  rw [hv] at hv'
  cases hv'
  exact ⟨c, v, hrun, hv, of_decide_eq_true hfields, hthrough, hreplayed.2.2⟩

end Sample

end Hezarfen.BankQuestions
