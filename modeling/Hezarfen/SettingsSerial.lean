import Hezarfen.SettingsNames

/-!
# The PATCHes that landed

Every PATCH that answers success did to the stored policy and to the retired bits what it
would have done alone at that moment, so the two are those of the successful PATCHes served
one after another.
-/

namespace Hezarfen.SchoolSettings

open Interleaving

/-! ## The invariant along a run -/

section Start

variable {loc : Locale}

theorem lookup_vocabularyOf (entries : List String) (entry : String) :
    (vocabularyOf entries).lookup entry = if entry ∈ entries then some 0 else none := by
  unfold vocabularyOf
  induction entries with
  | nil => rfl
  | cons first entries ih =>
      rw [List.foldr_cons, lookup_insert_eq, ih]
      by_cases hfirst : entry = first <;> simp [hfirst]

theorem mem_keys_vocabularyOf {entries : List String} {entry : String} :
    entry ∈ (vocabularyOf entries).keys ↔ entry ∈ entries := by
  rw [← AList.mem_keys, ← AList.lookup_isSome, lookup_vocabularyOf]
  split <;> simp_all

theorem load_initial_wellFormed
    (stored : Option { settings : Settings // settings.WellFormed })
    (exam : Table Exams.ExamId Exams.ExamRow) (appUser : Table UserId Exams.AppUser) :
    ((Db.initial stored exam appUser).load loc).WellFormed := by
  cases stored with
  | none => exact defaults_wellFormed
  | some settings =>
      obtain ⟨settings, hsettings⟩ := settings
      have hstatus : ∀ status,
          status ∈ loc.orderBy (vocabularyOf settings.attendanceStatuses).keys ↔
          status ∈ settings.attendanceStatuses := fun status =>
        (orderBy_perm _).mem_iff.trans mem_keys_vocabularyOf
      rw [load_of_row rfl]
      refine ⟨?_, ?_, ?_, hsettings.branches, hsettings.excuseKinds, hsettings.bands⟩
      · exact fun status hcore => (hstatus status).mpr (hsettings.core status hcore)
      · exact fun status hmem => hsettings.statuses status ((hstatus status).mp hmem)
      · unfold Settings.getDietaryTags arrayAgg
        split
        · exact defaults_wellFormed.tags
        · intro tag hmem
          have htag := mem_keys_vocabularyOf.mp ((orderBy_perm _).mem_iff.mp hmem)
          have htags := hsettings.tags
          unfold Settings.getDietaryTags at htags
          dsimp only [Option.elim_some] at htag
          cases hnamed : settings.dietaryTags with
          | none =>
              rw [hnamed] at htag
              cases htag
          | some =>
              rw [hnamed] at htag htags
              exact htags tag htag

theorem sound_initial
    (stored : Option { settings : Settings // settings.WellFormed })
    (exam : Table Exams.ExamId Exams.ExamRow) (appUser : Table UserId Exams.AppUser) :
    Sound loc (Db.initial stored exam appUser) := by
  have href : ∀ ref, (Db.initial stored exam appUser).ref ref = none := by
    rintro ⟨table, name⟩
    cases table <;> rfl
  refine ⟨?_, ?_, ?_, ?_, ?_, ?_, load_initial_wellFormed stored exam appUser, ?_⟩
  · intro ref _
    simp [Db.isRetired, href]
  · intro ref _
    simp [Db.refCount, href]
  · intro ref
    simp [Db.refCount, href]
  · intro status version hrow
    rw [Db.initial, lookup_vocabularyOf] at hrow
    split at hrow <;> cases hrow
    rfl
  · intro tag version hrow
    rw [Db.initial, lookup_vocabularyOf] at hrow
    split at hrow <;> cases hrow
    rfl
  · intro hrow status hstatus
    cases stored with
    | none => exact absurd rfl hrow
    | some settings =>
        rw [Db.initial, lookup_vocabularyOf, if_pos]
        exact settings.2.core status hstatus
  · intro hpos
    exact absurd hpos (Nat.lt_irrefl 0)

end Start

section Runs

variable {loc : Locale} {c c' : Config Db Point} {m : Move Request World}

theorem relyGuarantee (loc : Locale) :
    (machine loc).RelyGuarantee (fun _ _ => True) (Sound loc) fun id p s => p.Stands loc id s where
  entry := by
    intro id request s _
    cases request <;> trivial
  own := by
    intro c id w p s reply hc _ hp hnext
    have heffect := next_effect hc.shared (hc.calls id p hp) hnext
    exact ⟨heffect.sound hc.shared, heffect.own⟩
  others := by
    intro c id w p s reply hc _ hp hnext id' q hne hq
    have heffect := next_effect hc.shared (hc.calls id p hp) hnext
    exact (hc.calls id' q hq).kept heffect.kept hne
  rollback := by
    intro c id p hc hp
    refine ⟨hc.shared.of_locks _, fun id' q hne hq => ?_⟩
    exact (hc.calls id' q hq).kept (.release loc id c.shared) hne

abbrev Holds (loc : Locale) (c : Config Db Point) : Prop :=
  c.Holds (Sound loc) fun id p s => p.Stands loc id s

theorem holds_start
    (stored : Option { settings : Settings // settings.WellFormed })
    (exam : Table Exams.ExamId Exams.ExamRow) (appUser : Table UserId Exams.AppUser) :
    Holds loc (start stored exam appUser) :=
  Config.initial_holds _ (sound_initial stored exam appUser)

theorem holds_step (hc : Holds loc c) (hstep : (machine loc).step c m = some c') : Holds loc c' :=
  (relyGuarantee loc).holds_step hc trivial hstep

/-- What a move does, seen from the call that makes it. -/
theorem step_effect
    (hc : Holds loc c) (hstep : (machine loc).step c m = some c') :
    (∃ id w p reply, m = .advance id w ∧ c.calls.lookup id = some p ∧
      next loc id c.shared p w = some (c'.shared, reply) ∧
      Effect loc id c.shared p c'.shared reply) ∨
    ((∀ id w, m ≠ .advance id w) ∧ ∃ locks, c'.shared = { c.shared with locks := locks }) := by
  obtain ⟨request, rfl, rfl⟩ | ⟨id, w, p, s, reply, rfl, hp, hnext, rfl⟩ | ⟨id, p, rfl, hp, rfl⟩ :=
    Machine.step_cases hstep
  · exact .inr ⟨by simp, c.shared.locks, rfl⟩
  · rw [Config.shared_after]
    exact .inl ⟨id, w, p, reply, rfl, hp, hnext, next_effect hc.shared (hc.calls id p hp) hnext⟩
  · exact .inr ⟨by simp, _, rfl⟩

theorem step_named (hc : Holds loc c) (hstep : (machine loc).step c m = some c') :
    Named loc c.shared c'.shared := by
  rcases step_effect hc hstep with ⟨id, w, p, reply, -, -, -, heffect⟩ | ⟨-, locks, hlocks⟩
  · exact heffect.named
  · rw [hlocks]
    exact .of_fewer (fun _ h => h) fun _ h => h

/-! ## The serial run -/

/-- The stored policy and the retired bits. -/
structure View where
  settings : Settings
  retired : NameRef → Bool

def Db.view (loc : Locale) (s : Db) : View := ⟨s.load loc, s.isRetired⟩

def View.serve (loc : Locale) (view : View) (patch : SettingsPatch) :
    Except ValidationError View := do
  let settings ← merge loc view.settings patch
  return ⟨settings.reloaded loc, bitAfter view.settings settings view.retired⟩

def Point.patch : Point → Option SettingsPatch
  | .load patch _ => some patch
  | .switch edit _ | .save edit | .write edit _ => some edit.patch
  | _ => none

def landed (loc : Locale) (c : Config Db Point) : Move Request World → List SettingsPatch
  | .advance id w =>
      match c.calls.lookup id with
      | none => []
      | some p =>
          match next loc id c.shared p w with
          | some (_, .answer (.ok (.settings _))) => p.patch.toList
          | _ => []
  | _ => []

theorem Stirred.view {s s' : Db} (h : Stirred s s') : s'.view loc = s.view loc := by
  have hbits := h.bits
  obtain ⟨exams, meals, rfl⟩ := h.frame
  unfold Db.view
  rw [hbits]
  rfl

theorem landed_of_quiet
    {id : ℕ} {w : World} {p : Point} {s : Db} {reply : Reply} (hp : c.calls.lookup id = some p)
    (hnext : next loc id c.shared p w = some (s, reply)) (hquiet : reply.Quiet) :
    landed loc c (.advance id w) = [] := by
  simp only [landed, hp, hnext]
  split
  · next heq =>
    obtain ⟨-, rfl⟩ := Prod.mk.inj (Option.some.inj heq)
    exact absurd rfl (hquiet _)
  · rfl

theorem landed_step
    (hc : Holds loc c) (hstep : (machine loc).step c m = some c') :
    (landed loc c m).foldlM (View.serve loc) (c.shared.view loc) = .ok (c'.shared.view loc) := by
  rcases step_effect hc hstep with ⟨id, w, p, reply, rfl, hp, hnext, heffect⟩ | ⟨hm, locks, hlocks⟩
  · generalize c'.shared = s' at hnext heffect ⊢
    cases heffect with
    | locks hkept hown hquiet =>
        rw [landed_of_quiet hp hnext hquiet]
        rfl
    | stirred hstirred hnamed hquiet =>
        rw [landed_of_quiet hp hnext hquiet, hstirred.view]
        rfl
    | @committed _ edit seen hwrite hjudged hcommitted =>
        have hlanded : landed loc c (.advance id w) = [edit.patch] := by
          simp only [landed, hp, hnext]
          rw [hwrite]
          rfl
        have hmerge : merge loc (c.shared.load loc) edit.patch = .ok edit.settings := by
          rw [← hcommitted.current]
          exact hjudged.merged
        have hserve : View.serve loc (c.shared.view loc) edit.patch = .ok (s'.view loc) := by
          unfold View.serve Db.view
          rw [hmerge, hcommitted.load, hcommitted.bits, hcommitted.current]
          rfl
        rw [hlanded, List.foldlM_cons, hserve]
        rfl
  · have hquiet : landed loc c m = [] := by
      cases m with
      | advance id w => exact absurd rfl (hm id w)
      | start | abandon => rfl
    rw [hquiet, hlocks]
    rfl

theorem landed_run
    {ms : List (Move Request World)} (hc : Holds loc c) (hrun : (machine loc).run c ms = some c') :
    ((machine loc).observe (landed loc) c ms).foldlM (View.serve loc) (c.shared.view loc) =
      .ok (c'.shared.view loc) := by
  have hserial := Machine.observe_induction
    (J := fun d patches => Holds loc d ∧
      patches.foldlM (View.serve loc) (c.shared.view loc) = .ok (d.shared.view loc))
    (f := landed loc) (l := [])
    (by
      intro d d' m patches hd _ hstep
      refine ⟨holds_step hd.1 hstep, ?_⟩
      rw [List.foldlM_append, hd.2]
      exact landed_step hd.1 hstep)
    ⟨hc, rfl⟩ (Machine.guarded_true _ _) hrun
  exact hserial.2

theorem holds_run
    {stored : Option { settings : Settings // settings.WellFormed }}
    {exam : Table Exams.ExamId Exams.ExamRow} {appUser : Table UserId Exams.AppUser}
    {ms : List (Move Request World)}
    (hrun : (machine loc).run (start stored exam appUser) ms = some c) : Holds loc c :=
  (relyGuarantee loc).holds_run (holds_start stored exam appUser) (Machine.guarded_true _ _) hrun

/-- A listed name is in service, a retired one counts nothing, marks and menus come in under
listed names, and what the PATCHes left is what the successful ones leave one by one. -/
theorem names_in_service
    {stored : Option { settings : Settings // settings.WellFormed }}
    {exam : Table Exams.ExamId Exams.ExamRow} {appUser : Table UserId Exams.AppUser}
    {ms : List (Move Request World)}
    (hrun : (machine loc).run (start stored exam appUser) ms = some c) :
    (∀ ref, ref.name ∈ (c.shared.load loc).listed ref.table → c.shared.isRetired ref = false) ∧
    (∀ ref, c.shared.isRetired ref = true → c.shared.refCount ref = 0) ∧
    (∀ m c', (machine loc).step c m = some c' → Named loc c.shared c'.shared) ∧
    ((machine loc).observe (landed loc) (start stored exam appUser) ms).foldlM (View.serve loc)
        ((start stored exam appUser).shared.view loc) =
      .ok (c.shared.view loc) := by
  have hc := holds_run hrun
  refine ⟨hc.shared.inService, hc.shared.idle, fun m c' hstep => step_named hc hstep, ?_⟩
  exact landed_run (holds_start stored exam appUser) hrun

/-- The policy that a load returns keeps the core statuses, trimmed lists and ordered bands, and
what is stored beside it is of the last save. -/
theorem policy_wellFormed
    {stored : Option { settings : Settings // settings.WellFormed }}
    {exam : Table Exams.ExamId Exams.ExamRow} {appUser : Table UserId Exams.AppUser}
    {ms : List (Move Request World)}
    (hrun : (machine loc).run (start stored exam appUser) ms = some c) :
    (c.shared.load loc).WellFormed ∧
    (∀ ref, 0 ≤ c.shared.refCount ref) ∧
    (∀ status version, c.shared.settingsAttendanceStatus.lookup status = some version →
      version = c.shared.saves) ∧
    ∀ tag version, c.shared.settingsDietaryTag.lookup tag = some version →
      version = c.shared.saves := by
  have hc := holds_run hrun
  exact ⟨hc.shared.wellFormed, hc.shared.counted, hc.shared.statusVersions,
    hc.shared.tagVersions⟩

end Runs

def plain : Locale := ⟨fun c => [c.toLower], fun a b => decide (a ≤ b)⟩

def quietWorld : World := ⟨0, none, false⟩

def tick (id : ℕ) : Move Request World := .advance id quietWorld

/-- One PATCH drops the kind `uygulama` while another closes the snack slot. -/
def rivals : List (Move Request World) :=
  [.start (.apply { examKinds := some [⟨"yazili", 1⟩, ⟨"sozlu", 1⟩] }),
    .start (.apply { mealSlots := some [⟨"breakfast", none⟩, ⟨"lunch", none⟩] }),
    tick 0, tick 1, tick 0, tick 1, tick 0, tick 1, tick 0, tick 1, tick 1, tick 1, tick 1, tick 1]

theorem names_in_service_rivals :
    ∃ c, (machine plain).run (start none ∅ ∅) rivals = some c ∧
      ∀ ref, ref.name ∈ (c.shared.load plain).listed ref.table → c.shared.isRetired ref =
        false := by
  have hsome : ((machine plain).run (start none ∅ ∅) rivals).isSome = true := by decide
  obtain ⟨c, hrun⟩ := Option.isSome_iff_exists.mp hsome
  exact ⟨c, hrun, (names_in_service hrun).1⟩

theorem policy_wellFormed_rivals :
    ∃ c, (machine plain).run (start none ∅ ∅) rivals = some c ∧
      (c.shared.load plain).WellFormed := by
  have hsome : ((machine plain).run (start none ∅ ∅) rivals).isSome = true := by decide
  obtain ⟨c, hrun⟩ := Option.isSome_iff_exists.mp hsome
  exact ⟨c, hrun, (policy_wellFormed hrun).1⟩

end Hezarfen.SchoolSettings
