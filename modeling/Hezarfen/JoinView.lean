import Mathlib.Logic.Function.Basic

/-!
# A join maintained from both sides

Members and items hang off a group, and a table of pairs is to hold their join: who
joins a group is paired with its items, and an item attached to a group is paired
with its members.  A pair written this way is tagged with its group, so that a leave
can take it back.  A pair placed by hand has no tag, and the maintenance leaves it
alone.
-/

namespace JoinView

open Classical

variable {M I S U : Type*}

/-- The stints `M` of members `U` in groups `S`, the items `I` of the groups, and the pairs
that stand, with the group that wrote them if one did. -/
@[ext]
structure State (M I S U : Type*) where
  live : M → Option (S × U)
  home : I → Option S
  tag : I × U → Option (Option S)

inductive Act (M I S U : Type*) where
  | idle
  | join (m : M) (s : S) (u : U)
  | leave (s : S) (u : U)
  | attach (i : I) (s : S)
  | detach (i : I)
  | place (i : I) (u : U)
  | disown (i : I) (u : U)
  | remove (i : I) (u : U)
  | shed (u : U)

namespace State

variable (p : State M I S U)

def Member (s : S) (u : U) : Prop := ∃ m, p.live m = some (s, u)

@[simp]
noncomputable def apply : Act M I S U → State M I S U
  | .idle => p
  | .join m s u =>
      { p with
        live := Function.update p.live m (some (s, u))
        tag := fun pair =>
          if p.tag pair = none ∧ p.home pair.1 = some s ∧ pair.2 = u then some (some s)
          else p.tag pair }
  | .leave s u =>
      { p with
        live := fun m => if p.live m = some (s, u) then none else p.live m
        tag := fun pair =>
          if pair.2 = u ∧ p.tag pair = some (some s) then none else p.tag pair }
  | .attach i s =>
      { p with
        home := Function.update p.home i (some s)
        tag := fun pair =>
          if p.tag pair = none ∧ pair.1 = i ∧ p.Member s pair.2 then some (some s)
          else p.tag pair }
  | .detach i =>
      { p with
        home := Function.update p.home i none
        tag := fun pair => if pair.1 = i then none else p.tag pair }
  | .place i u => { p with tag := Function.update p.tag (i, u) (some none) }
  | .disown i u =>
      { p with tag := Function.update p.tag (i, u) ((p.tag (i, u)).map fun _ => none) }
  | .remove i u => { p with tag := Function.update p.tag (i, u) none }
  | .shed u =>
      { p with
        live := fun m => if (p.live m).any fun stint => stint.2 = u then none else p.live m
        tag := fun pair => if pair.2 = u then none else p.tag pair }

def Fits : Act M I S U → Prop
  | .join m _ _ => p.live m = none
  | .attach i _ => p.home i = none
  | _ => True

def Tagged : Prop :=
  ∀ i u s, p.tag (i, u) = some (some s) → p.home i = some s ∧ p.Member s u

/-- The pairs are exactly the join. -/
def Matched : Prop :=
  ∀ i u, (p.tag (i, u)).isSome ↔ ∃ s, p.home i = some s ∧ p.Member s u

def Involves (u : U) : Prop := (∃ s, p.Member s u) ∨ ∃ i, (p.tag (i, u)).isSome

def Keeps : Act M I S U → Prop
  | .place i u => ∃ s, p.home i = some s ∧ p.Member s u
  | .remove i u => ¬∃ s, p.home i = some s ∧ p.Member s u
  | .leave s u => ∀ i, p.home i = some s → p.tag (i, u) ≠ some none
  | _ => True

end State

def Act.Introduces (u : U) : Act M I S U → Prop
  | .join _ _ v => v = u
  | .place _ v => v = u
  | _ => False

open State

variable {p : State M I S U} {act : Act M I S U}

@[simp]
theorem member_tag {s : S} {u : U} {tag : I × U → Option (Option S)} :
    ({ p with tag := tag } : State M I S U).Member s u ↔ p.Member s u := Iff.rfl

theorem member_join {m : M} {s t : S} {u v : U} (hfits : p.live m = none) :
    (p.apply (.join m s u)).Member t v ↔ p.Member t v ∨ (t = s ∧ v = u) := by
  constructor
  · rintro ⟨m', hm'⟩
    by_cases hm : m' = m
    · subst hm
      simp only [apply, Function.update_self, Option.some.injEq, Prod.mk.injEq] at hm'
      exact .inr ⟨hm'.1.symm, hm'.2.symm⟩
    · exact .inl ⟨m', by simpa [apply, hm] using hm'⟩
  · rintro (⟨m', hm'⟩ | ⟨rfl, rfl⟩)
    · have hne : m' ≠ m := by
        rintro rfl
        rw [hfits] at hm'
        cases hm'
      exact ⟨m', by simp [apply, hne, hm']⟩
    · exact ⟨m, by simp [apply]⟩

theorem member_leave {s t : S} {u v : U} :
    (p.apply (.leave s u)).Member t v ↔ p.Member t v ∧ ¬(t = s ∧ v = u) := by
  constructor
  · rintro ⟨m, hm⟩
    simp only [apply] at hm
    split at hm
    · cases hm
    · next hother =>
      refine ⟨⟨m, hm⟩, ?_⟩
      rintro ⟨rfl, rfl⟩
      exact hother hm
  · rintro ⟨⟨m, hm⟩, hother⟩
    refine ⟨m, ?_⟩
    have hne : ¬(some (t, v) = some (s, u)) := by simpa using hother
    simp only [apply, hm, if_neg hne]

theorem member_shed {t : S} {u v : U} :
    (p.apply (.shed u)).Member t v ↔ p.Member t v ∧ v ≠ u := by
  constructor
  · rintro ⟨m, hm⟩
    simp only [apply] at hm
    split at hm
    · cases hm
    · next hother =>
      refine ⟨⟨m, hm⟩, ?_⟩
      rintro rfl
      simp [hm] at hother
  · rintro ⟨⟨m, hm⟩, hother⟩
    exact ⟨m, by simp [apply, hm, hother]⟩

/-! ## Who takes part -/

theorem involves_apply {u : U} (hfits : p.Fits act) (h : (p.apply act).Involves u) :
    p.Involves u ∨ act.Introduces u := by
  by_cases hintroduces : act.Introduces u
  · exact .inr hintroduces
  · left
    cases act with
    | idle => exact h
    | join =>
        rcases h with ⟨t, hmember⟩ | ⟨i, hpaired⟩
        · rcases (member_join hfits).mp hmember with hold | ⟨-, rfl⟩
          · exact .inl ⟨t, hold⟩
          · exact absurd rfl hintroduces
        · simp only [State.apply] at hpaired
          split at hpaired
          · next hnew => exact absurd hnew.2.2.symm hintroduces
          · exact .inr ⟨i, hpaired⟩
    | leave =>
        rcases h with ⟨t, hmember⟩ | ⟨i, hpaired⟩
        · exact .inl ⟨t, (member_leave.mp hmember).1⟩
        · simp only [State.apply] at hpaired
          split at hpaired
          · cases hpaired
          · exact .inr ⟨i, hpaired⟩
    | attach j s =>
        rcases h with ⟨t, hmember⟩ | ⟨i, hpaired⟩
        · exact .inl ⟨t, hmember⟩
        · simp only [State.apply] at hpaired
          split at hpaired
          · next hnew => exact .inl ⟨s, hnew.2.2⟩
          · exact .inr ⟨i, hpaired⟩
    | detach =>
        rcases h with ⟨t, hmember⟩ | ⟨i, hpaired⟩
        · exact .inl ⟨t, hmember⟩
        · simp only [State.apply] at hpaired
          split at hpaired
          · cases hpaired
          · exact .inr ⟨i, hpaired⟩
    | place j v =>
        rcases h with ⟨t, hmember⟩ | ⟨i, hpaired⟩
        · exact .inl ⟨t, hmember⟩
        · have hpair : (i, u) ≠ (j, v) := by
            rintro hpair
            exact hintroduces (Prod.mk.inj hpair).2.symm
          exact .inr ⟨i, by simpa [State.apply, hpair] using hpaired⟩
    | disown j v =>
        rcases h with ⟨t, hmember⟩ | ⟨i, hpaired⟩
        · exact .inl ⟨t, hmember⟩
        · by_cases hpair : (i, u) = (j, v)
          · exact .inr ⟨i, by simpa [State.apply, ← hpair] using hpaired⟩
          · exact .inr ⟨i, by simpa [State.apply, hpair] using hpaired⟩
    | remove j v =>
        rcases h with ⟨t, hmember⟩ | ⟨i, hpaired⟩
        · exact .inl ⟨t, hmember⟩
        · by_cases hpair : (i, u) = (j, v)
          · simp [State.apply, ← hpair] at hpaired
          · exact .inr ⟨i, by simpa [State.apply, hpair] using hpaired⟩
    | shed =>
        rcases h with ⟨t, hmember⟩ | ⟨i, hpaired⟩
        · exact .inl ⟨t, (member_shed.mp hmember).1⟩
        · simp only [State.apply] at hpaired
          split at hpaired
          · cases hpaired
          · exact .inr ⟨i, hpaired⟩

theorem not_involves_shed {u : U} : ¬(p.apply (.shed u)).Involves u := by
  rintro (⟨t, hmember⟩ | ⟨i, hpaired⟩)
  · exact (member_shed.mp hmember).2 rfl
  · simp [State.apply] at hpaired

theorem State.Tagged.apply (h : p.Tagged) (hfits : p.Fits act) : (p.apply act).Tagged := by
  intro i v t htag
  cases act with
  | idle => exact h i v t htag
  | join =>
      rw [member_join hfits]
      simp only [State.apply] at htag ⊢
      split at htag
      · next hnew =>
        simp only [Option.some.injEq] at htag
        subst htag
        exact ⟨hnew.2.1, .inr ⟨rfl, hnew.2.2⟩⟩
      · exact ⟨(h i v t htag).1, .inl (h i v t htag).2⟩
  | leave =>
      rw [member_leave]
      simp only [State.apply] at htag ⊢
      split at htag
      · cases htag
      · next hother =>
        refine ⟨(h i v t htag).1, (h i v t htag).2, ?_⟩
        rintro ⟨rfl, rfl⟩
        exact hother ⟨rfl, htag⟩
  | attach j =>
      simp only [State.apply] at htag
      split at htag
      · next hnew =>
        simp only [Option.some.injEq] at htag
        subst htag
        obtain ⟨-, rfl, hmember⟩ := hnew
        exact ⟨by simp [State.apply], hmember⟩
      · obtain ⟨hhome, hmember⟩ := h i v t htag
        have hne : i ≠ j := by
          rintro rfl
          rw [show p.home i = none from hfits] at hhome
          cases hhome
        exact ⟨by simp [State.apply, hne, hhome], hmember⟩
  | detach j =>
      simp only [State.apply] at htag
      split at htag
      · cases htag
      · next hne =>
        obtain ⟨hhome, hmember⟩ := h i v t htag
        exact ⟨by simp [State.apply, show i ≠ j from hne, hhome], hmember⟩
  | place j u | disown j u | remove j u =>
      by_cases hpair : (i, v) = (j, u)
      · rw [hpair] at htag
        simp [State.apply] at htag
      · exact h i v t (by simpa [State.apply, hpair] using htag)
  | shed =>
      rw [member_shed]
      simp only [State.apply] at htag ⊢
      split at htag
      · cases htag
      · next hne => exact ⟨(h i v t htag).1, (h i v t htag).2, hne⟩

/-- A stint and an item of one group have their pair, unless they were without one before or
the act takes it away. -/
theorem State.Tagged.covers (h : p.Tagged) {m : M} {s : S} {u : U} {i : I}
    (hlive : (p.apply act).live m = some (s, u)) (hhome : (p.apply act).home i = some s) :
    ((p.apply act).tag (i, u)).isSome ∨
      p.live m = some (s, u) ∧ p.home i = some s ∧
        (p.tag (i, u) = none ∨ act = .remove i u) := by
  by_cases hpaired : ((p.apply act).tag (i, u)).isSome
  · exact .inl hpaired
  · right
    rw [Option.not_isSome_iff_eq_none] at hpaired
    cases act with
    | idle => exact ⟨hlive, hhome, .inl hpaired⟩
    | join m' =>
        simp only [State.apply] at hlive hhome hpaired
        split at hpaired
        · cases hpaired
        · next hold =>
          by_cases hm : m = m'
          · subst hm
            simp only [Function.update_self, Option.some.injEq, Prod.mk.injEq] at hlive
            obtain ⟨rfl, rfl⟩ := hlive
            exact absurd ⟨hpaired, hhome, rfl⟩ hold
          · rw [Function.update_of_ne hm] at hlive
            exact ⟨hlive, hhome, .inl hpaired⟩
    | leave t =>
        simp only [State.apply] at hlive hhome hpaired
        split at hlive
        · cases hlive
        · next hother =>
          refine ⟨hlive, hhome, .inl ?_⟩
          split at hpaired
          · next htaken =>
            obtain ⟨rfl, htag⟩ := htaken
            have hgroup := (h i u t htag).1
            rw [hhome] at hgroup
            cases hgroup
            exact absurd hlive hother
          · exact hpaired
    | attach j =>
        simp only [State.apply] at hlive hhome hpaired
        split at hpaired
        · cases hpaired
        · next hold =>
          by_cases hi : i = j
          · subst hi
            simp only [Function.update_self, Option.some.injEq] at hhome
            subst hhome
            exact absurd ⟨hpaired, rfl, m, hlive⟩ hold
          · rw [Function.update_of_ne hi] at hhome
            exact ⟨hlive, hhome, .inl hpaired⟩
    | detach j =>
        simp only [State.apply] at hlive hhome hpaired
        by_cases hi : i = j
        · subst hi
          simp at hhome
        · rw [Function.update_of_ne hi] at hhome
          rw [if_neg hi] at hpaired
          exact ⟨hlive, hhome, .inl hpaired⟩
    | place j v =>
        by_cases hpair : (i, u) = (j, v)
        · rw [hpair] at hpaired
          simp [State.apply] at hpaired
        · exact ⟨hlive, hhome, .inl (by simpa [State.apply, hpair] using hpaired)⟩
    | disown j v =>
        refine ⟨hlive, hhome, .inl ?_⟩
        by_cases hpair : (i, u) = (j, v)
        · simpa [State.apply, hpair] using hpaired
        · simpa [State.apply, hpair] using hpaired
    | remove j v =>
        refine ⟨hlive, hhome, ?_⟩
        by_cases hpair : (i, u) = (j, v)
        · obtain ⟨rfl, rfl⟩ := Prod.mk.inj hpair
          exact .inr rfl
        · exact .inl (by simpa [State.apply, hpair] using hpaired)
    | shed v =>
        simp only [State.apply] at hlive hhome hpaired
        split at hlive
        · cases hlive
        · next hother =>
          have hne : u ≠ v := by
            rintro rfl
            simp [hlive] at hother
          rw [if_neg hne] at hpaired
          exact ⟨hlive, hhome, .inl hpaired⟩

theorem State.Matched.apply (h : p.Matched) (htagged : p.Tagged) (hfits : p.Fits act)
    (hkeeps : p.Keeps act) : (p.apply act).Matched := by
  intro i v
  have hold := h i v
  cases act with
  | idle => exact hold
  | join m s u =>
      simp only [member_join hfits, show (p.apply (.join m s u)).home = p.home from rfl]
      simp only [State.apply]
      constructor
      · intro hpaired
        split at hpaired
        · next hnew => exact ⟨s, hnew.2.1, .inr ⟨rfl, hnew.2.2⟩⟩
        · obtain ⟨t, hhome, hmember⟩ := hold.mp hpaired
          exact ⟨t, hhome, .inl hmember⟩
      · rintro ⟨t, hhome, hmember | ⟨rfl, rfl⟩⟩
        · split
          · rfl
          · exact hold.mpr ⟨t, hhome, hmember⟩
        · by_cases hnone : p.tag (i, v) = none
          · simp [hnone, hhome]
          · simpa [hnone] using Option.isSome_iff_ne_none.mpr hnone
  | leave s u =>
      simp only [member_leave, show (p.apply (.leave s u)).home = p.home from rfl]
      simp only [State.apply]
      constructor
      · intro hpaired
        split at hpaired
        · cases hpaired
        · next hother =>
          obtain ⟨t, hhome, hmember⟩ := hold.mp hpaired
          refine ⟨t, hhome, hmember, ?_⟩
          rintro ⟨rfl, rfl⟩
          obtain ⟨tag, htag⟩ := Option.isSome_iff_exists.mp hpaired
          cases tag with
          | none => exact hkeeps i hhome htag
          | some t' =>
              have hgroup := (htagged i v t' htag).1
              rw [hhome] at hgroup
              cases hgroup
              exact hother ⟨rfl, htag⟩
      · rintro ⟨t, hhome, hmember, hother⟩
        split
        · next htaken =>
          have hgroup := (htagged i v s htaken.2).1
          rw [hhome] at hgroup
          cases hgroup
          exact absurd ⟨rfl, htaken.1⟩ hother
        · exact hold.mpr ⟨t, hhome, hmember⟩
  | attach j s =>
      simp only [show ∀ t, (p.apply (.attach j s)).Member t v = p.Member t v from fun _ => rfl]
      simp only [State.apply]
      by_cases hi : i = j
      · subst hi
        have hnone : p.tag (i, v) = none := by
          rw [← Option.not_isSome_iff_eq_none, hold]
          rintro ⟨t, hhome, -⟩
          rw [show p.home i = none from hfits] at hhome
          cases hhome
        by_cases hmember : p.Member s v
        · simp [hnone, hmember]
        · simp [hnone, hmember]
      · simpa [hi] using hold
  | detach j =>
      simp only [show ∀ t, (p.apply (.detach j)).Member t v = p.Member t v from fun _ => rfl]
      simp only [State.apply]
      by_cases hi : i = j
      · simp [hi]
      · simpa [hi] using hold
  | place j u | remove j u =>
      by_cases hpair : (i, v) = (j, u)
      · obtain ⟨rfl, rfl⟩ := Prod.mk.inj hpair
        simpa [State.apply, Keeps] using hkeeps
      · simpa [State.apply, hpair] using hold
  | disown j u =>
      by_cases hpair : (i, v) = (j, u)
      · simpa [State.apply, ← hpair] using hold
      · simpa [State.apply, hpair] using hold
  | shed u =>
      simp only [member_shed, show (p.apply (.shed u)).home = p.home from rfl]
      simp only [State.apply]
      by_cases hv : v = u
      · simp [hv]
      · simpa [hv] using hold

theorem keeps_of_matched (hafter : (p.apply act).Matched) : p.Keeps act := by
  cases act with
  | place i u =>
      have hpaired := (hafter i u).mp (by simp [State.apply])
      exact hpaired
  | remove i u =>
      intro hmember
      have hpaired := (hafter i u).mpr hmember
      simp [State.apply] at hpaired
  | leave s u =>
      intro i hhome htag
      have hpaired : ((p.apply (.leave s u)).tag (i, u)).isSome := by
        simp [State.apply, htag]
      obtain ⟨t, hhome', hmember⟩ := (hafter i u).mp hpaired
      rw [show (p.apply (.leave s u)).home = p.home from rfl, hhome] at hhome'
      cases hhome'
      exact (member_leave.mp hmember).2 ⟨rfl, rfl⟩
  | _ => trivial

end JoinView
