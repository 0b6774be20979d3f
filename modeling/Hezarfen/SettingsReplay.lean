import Mathlib.Data.Finset.Basic
import Hezarfen.SettingsSerial

/-!
# PATCHes one after another

A stored policy reads as the successful PATCHes replayed over the first one, each replacing
the fields it names, with one exception: a policy without dietary tags is stored as no row,
and reads as the default tags.
-/

namespace Hezarfen.SchoolSettings

open Interleaving

def Policy.stored (policy : Policy) : Policy :=
  { policy with
    dietaryTags := if policy.dietaryTags = ∅ then defaultDietaryTags.toFinset
      else policy.dietaryTags }

def lastTags (patches : List SettingsPatch) : Option (List String) :=
  (patches.filterMap SettingsPatch.dietaryTags).getLast?

section Replay

variable {loc : Locale} {policy : Policy} {patch : SettingsPatch} {patches : List SettingsPatch}

theorem default_tags_ne : defaultDietaryTags.toFinset ≠ ∅ := by decide

theorem Policy.stored_of_tags (h : policy.dietaryTags ≠ ∅) : policy.stored = policy := by
  unfold Policy.stored
  rw [if_neg h]

theorem Policy.stored_tags_ne (policy : Policy) : policy.stored.dietaryTags ≠ ∅ := by
  unfold Policy.stored
  dsimp only
  split
  · exact default_tags_ne
  · next hne => exact hne

theorem Policy.stored_eq_iff : policy.stored = policy ↔ policy.dietaryTags ≠ ∅ := by
  constructor
  · intro h
    rw [← h]
    exact policy.stored_tags_ne
  · exact stored_of_tags

theorem Policy.stored_replace :
    (policy.stored.replace patch).stored = (policy.replace patch).stored := by
  unfold Policy.stored Policy.replace
  cases patch.dietaryTags with
  | some => rfl
  | none =>
      by_cases hempty : policy.dietaryTags = ∅
      · simp only [Option.elim_none, hempty, if_true, default_tags_ne, if_false]
      · simp only [Option.elim_none, hempty, if_false]

theorem policy_reloaded (settings : Settings) :
    (settings.reloaded loc).policy = settings.policy.stored := by
  have hstatuses : ((arrayAgg loc settings.attendanceStatuses).getD []).toFinset =
      settings.attendanceStatuses.toFinset := by
    rw [arrayAgg_getD]
    exact List.toFinset_eq_of_perm _ _ (orderBy_perm _)
  have htags : (settings.reloaded loc).getDietaryTags.toFinset =
      if settings.policy.dietaryTags = ∅ then defaultDietaryTags.toFinset
      else settings.policy.dietaryTags := by
    rw [getDietaryTags_reloaded]
    change _ = if settings.getDietaryTags.toFinset = ∅ then _ else settings.getDietaryTags.toFinset
    unfold Settings.getDietaryTags
    cases settings.dietaryTags with
    | none => simp
    | some =>
        simp only [Option.getD_some, List.toFinset_eq_empty_iff, List.isEmpty_iff]
        split
        · rfl
        · exact List.toFinset_eq_of_perm _ _ (orderBy_perm _)
  calc
    (settings.reloaded loc).policy =
        { settings.policy with
          attendanceStatuses := ((arrayAgg loc settings.attendanceStatuses).getD []).toFinset
          dietaryTags := (settings.reloaded loc).getDietaryTags.toFinset } := rfl
    _ = settings.policy.stored := by
      rw [hstatuses, htags]
      rfl

theorem load_tags_ne (s : Db) : (s.load loc).policy.dietaryTags ≠ ∅ := by
  change (s.load loc).getDietaryTags.toFinset ≠ ∅
  unfold Db.load
  split
  · exact default_tags_ne
  · unfold Settings.getDietaryTags
    cases htags : arrayAgg loc s.settingsDietaryTag.keys with
    | none => exact default_tags_ne
    | some =>
        rw [Option.getD_some, ne_eq, List.toFinset_eq_empty_iff]
        rintro rfl
        exact arrayAgg_ne_nil _ htags

/-- One PATCH, as the policies read. -/
theorem serve_policy
    {view view' : View} (hcurrent : view.settings.WellFormed)
    (h : view.serve loc patch = .ok view') :
    view'.settings.policy = (view.settings.policy.replace patch).stored ∧
      view'.settings.WellFormed := by
  simp only [View.serve, Gate.bind_eq_ok, Gate.pure_eq_ok] at h
  obtain ⟨settings, hmerge, rfl⟩ := h
  refine ⟨?_, reloaded_wellFormed (merge_wellFormed hmerge)⟩
  dsimp only
  rw [policy_reloaded, merge_policy hcurrent hmerge]

theorem serve_policies
    {view view' : View} (hcurrent : view.settings.WellFormed)
    (htags : view.settings.policy.dietaryTags ≠ ∅)
    (h : patches.foldlM (View.serve loc) view = .ok view') :
    view'.settings.policy = (patches.foldl Policy.replace view.settings.policy).stored := by
  have hstart : view.settings.policy.stored = view.settings.policy := Policy.stored_of_tags htags
  generalize hpolicy : view.settings.policy = first at hstart ⊢
  have hview : view.settings.policy = first.stored := hpolicy.trans hstart.symm
  clear hpolicy hstart htags
  induction patches generalizing view first with
  | nil =>
      cases h
      exact hview
  | cons patch patches ih =>
      rw [List.foldlM_cons, Gate.bind_eq_ok] at h
      obtain ⟨next, hserve, hrest⟩ := h
      obtain ⟨hreplaced, hnext⟩ := serve_policy hcurrent hserve
      rw [hview, Policy.stored_replace] at hreplaced
      exact ih hnext hrest _ hreplaced

/-- The tags after a replay are the last that were named. -/
theorem replay_tags (policy : Policy) (patches : List SettingsPatch) :
    (patches.foldl Policy.replace policy).dietaryTags =
      (lastTags patches).elim policy.dietaryTags fun tags => (tags.map trim).toFinset := by
  induction patches using List.reverseRecOn with
  | nil => rfl
  | append_singleton patches patch ih =>
      rw [List.foldl_append, List.foldl_cons, List.foldl_nil]
      unfold lastTags at ih ⊢
      rw [List.filterMap_append]
      cases htags : patch.dietaryTags with
      | none =>
          simp only [Policy.replace, htags, Option.elim_none, List.filterMap_cons,
            List.filterMap_nil,
            List.append_nil]
          exact ih
      | some => simp [Policy.replace, htags]

theorem replay_tags_ne
    (hpolicy : policy.dietaryTags ≠ ∅) :
    (patches.foldl Policy.replace policy).dietaryTags ≠ ∅ ↔ lastTags patches ≠ some [] := by
  rw [replay_tags]
  cases lastTags patches with
  | none => simpa using hpolicy
  | some => simp [List.toFinset_eq_empty_iff]

/-- The stored policy is the replay of the PATCHes that landed, just when the last of them
that names dietary tags names one. -/
theorem policy_replayed
    {stored : Option { settings : Settings // settings.WellFormed }}
    {exam : Table Exams.ExamId Exams.ExamRow} {appUser : Table UserId Exams.AppUser}
    {ms : List (Move Request World)} {c : Config Db Point}
    (hrun : (machine loc).run (start stored exam appUser) ms = some c) :
    (c.shared.load loc).policy =
        ((machine loc).observe (landed loc) (start stored exam appUser) ms).foldl Policy.replace
          ((start stored exam appUser).shared.load loc).policy ↔
      lastTags ((machine loc).observe (landed loc) (start stored exam appUser) ms) ≠ some [] := by
  have hstart : Holds loc (start stored exam appUser) := holds_start stored exam appUser
  have htags : ((start stored exam appUser).shared.load loc).policy.dietaryTags ≠ ∅ :=
    load_tags_ne _
  have hserial := landed_run hstart hrun
  have hend : (c.shared.load loc).policy = _ :=
    serve_policies hstart.shared.wellFormed htags hserial
  rw [hend, ← replay_tags_ne htags]
  exact Policy.stored_eq_iff

end Replay

/-- A PATCH, alone in the school. -/
def alone (patch : SettingsPatch) : List (Move Request World) :=
  [.start (.apply patch), tick 0, tick 0, tick 0]

def noTags : SettingsPatch := { dietaryTags := some [] }

/-- The school clears its dietary tags, is told that it has none, and reads five. -/
theorem tags_come_back :
    ∃ c, (machine plain).run (start none ∅ ∅) (alone noTags) = some c ∧
      (machine plain).observe (landed plain) (start none ∅ ∅) (alone noTags) = [noTags] ∧
      (c.shared.load plain).policy ≠
        [noTags].foldl Policy.replace ((start none ∅ ∅).shared.load plain).policy ∧
      (c.shared.load plain).policy.dietaryTags = defaultDietaryTags.toFinset := by
  have hrun : ((machine plain).run (start none ∅ ∅) (alone noTags)).any (fun c =>
      decide ((c.shared.load plain).policy ≠
        [noTags].foldl Policy.replace ((start none ∅ ∅).shared.load plain).policy) &&
      decide ((c.shared.load plain).policy.dietaryTags = defaultDietaryTags.toFinset)) = true := by
    decide
  have hlanded : (machine plain).observe (landed plain) (start none ∅ ∅) (alone noTags) =
      [noTags] := by
    decide
  obtain ⟨c, hsome, hc⟩ := (Option.any_eq_true _ _).mp hrun
  rw [Bool.and_eq_true] at hc
  exact ⟨c, hsome, hlanded, of_decide_eq_true hc.1, of_decide_eq_true hc.2⟩

theorem policy_replayed_rivals :
    ∃ c, (machine plain).run (start none ∅ ∅) rivals = some c ∧
      (c.shared.load plain).policy =
        ((machine plain).observe (landed plain) (start none ∅ ∅) rivals).foldl Policy.replace
          ((start none ∅ ∅).shared.load plain).policy := by
  have hsome : ((machine plain).run (start none ∅ ∅) rivals).isSome = true := by decide
  have htags : lastTags ((machine plain).observe (landed plain) (start none ∅ ∅) rivals) ≠
      some [] := by
    decide
  obtain ⟨c, hrun⟩ := Option.isSome_iff_exists.mp hsome
  exact ⟨c, hrun, (policy_replayed hrun).mpr htags⟩

end Hezarfen.SchoolSettings
