import Hezarfen.Entitlements

/-!
# Closed sets and lost updates

Every write is checked, so what a school has is always closed under what its modules
require.  A write replaces the whole set by what the call made of an earlier read: it is
what the calls add up to exactly when nothing moved, between the read and the write, outside
the modules that the call named.
-/

namespace Hezarfen.Entitlements

open Interleaving

variable {set : ModuleSet} {entry : Module} {change : Change} {id : SchoolId}
  {c d : Config Db Point}

theorem Module.mem_all (entry : Module) : entry ∈ Module.all := by
  cases entry <;> decide

namespace ModuleSet

@[simp]
theorem mem_iter : entry ∈ set.iter ↔ entry ∈ set := by
  simp [iter, Module.mem_all]

@[simp]
theorem mem_insertAll {entries : List Module} :
    entry ∈ set.insertAll entries ↔ entry ∈ set ∨ entry ∈ entries := by
  unfold insertAll
  induction entries generalizing set with
  | nil => simp
  | cons head rest ih =>
      rw [List.foldl_cons, ih, Finset.mem_insert, List.mem_cons]
      tauto

@[simp]
theorem mem_removeAll {entries : List Module} :
    entry ∈ set.removeAll entries ↔ entry ∈ set ∧ entry ∉ entries := by
  unfold removeAll
  induction entries generalizing set with
  | nil => simp
  | cons head rest ih =>
      rw [List.foldl_cons, ih, Finset.mem_erase, List.mem_cons]
      tauto

/-- Every module has what it requires. -/
def Closed (set : ModuleSet) : Prop := ∀ entry ∈ set, ∀ needed ∈ entry.requires, needed ∈ set

theorem validate_eq_ok_iff : set.validate = .ok () ↔ set.Closed := by
  have hempty : set.missingRequirements = [] ↔ set.Closed := by
    simp only [missingRequirements, List.flatMap_eq_nil_iff, List.map_eq_nil_iff,
      List.filter_eq_nil_iff, mem_iter, decide_eq_true_eq, not_not]
    rfl
  unfold validate
  rw [← hempty, ← List.isEmpty_iff]
  split <;> simp [*]

end ModuleSet

@[simp]
theorem Change.mem_apply :
    entry ∈ change.apply set ↔
      (entry ∈ set ∨ entry ∈ change.enable) ∧ entry ∉ change.disable := by
  simp [Change.apply]

theorem Module.tryFromStr_asStr (entry : Module) :
    Module.tryFromStr entry.asStr = .ok entry := by
  cases entry <;> rfl

theorem Module.asStr_of_tryFromStr {name : String} (h : Module.tryFromStr name = .ok entry) :
    entry.asStr = name := by
  unfold Module.tryFromStr at h
  split at h
  · next found hfound =>
    cases h
    have hname := List.find?_some hfound
    exact of_decide_eq_true hname
  · cases h

theorem School.mem_moduleSet {school : School} :
    entry ∈ school.moduleSet ↔ entry.asStr ∈ school.modules := by
  have hfold : entry ∈ school.moduleSet ↔
      entry ∈ (∅ : ModuleSet) ∨ entry.asStr ∈ school.modules := by
    unfold School.moduleSet
    generalize (∅ : ModuleSet) = set
    induction school.modules generalizing set with
    | nil => simp
    | cons name rest ih =>
        rw [List.foldl_cons, ih, List.mem_cons]
        cases hname : Module.tryFromStr name with
        | ok found =>
            have hiff : entry = found ↔ entry.asStr = name := by
              constructor
              · rintro rfl
                exact Module.asStr_of_tryFromStr hname
              · rintro rfl
                rw [Module.tryFromStr_asStr] at hname
                cases hname
                rfl
            simp only [Finset.mem_insert, hiff]
            tauto
        | error =>
            have hne : entry.asStr ≠ name := by
              rintro rfl
              rw [Module.tryFromStr_asStr] at hname
              cases hname
            simp [hne]
  rw [hfold]
  simp

/-- What a write stores is read back as it was. -/
@[simp]
theorem School.moduleSet_names (set : ModuleSet) : School.moduleSet ⟨set.names⟩ = set := by
  ext entry
  rw [School.mem_moduleSet, ModuleSet.names, ModuleSet.sorted, List.mem_insertionSort,
    List.mem_map]
  constructor
  · intro h
    obtain ⟨found, hfound, hname⟩ := h
    have hsame := Module.tryFromStr_asStr found
    rw [hname, Module.tryFromStr_asStr] at hsame
    cases hsame
    exact ModuleSet.mem_iter.mp hfound
  · intro hentry
    exact ⟨entry, ModuleSet.mem_iter.mpr hentry, rfl⟩

/-! ## One call -/

def Point.Made : Point → Prop
  | .storeModules _ kind current modules => modules = kind.change.apply current
  | _ => True

theorem enable_apply (entry : Module) (set : ModuleSet) :
    (Kind.enable entry).change.apply set = insert entry set := by
  ext other
  simp [Kind.change, or_comm]

theorem disable_apply (entry : Module) (set : ModuleSet) :
    (Kind.disable entry).change.apply set = set.erase entry := by
  ext other
  simp [Kind.change, and_comm]

theorem schoolModules_cases {s : Db} {kind : Kind} {n : Reply} (h : schoolModules s id kind = n) :
    (∃ e, n = refuse e) ∨
      (n = done (s.modules id) ∧ kind.change.apply (s.modules id) = s.modules id) ∨
      n = goto (.storeModules id kind (s.modules id) (kind.change.apply (s.modules id))) := by
  unfold schoolModules at h
  cases hschool : s.school.lookup id with
  | none =>
      rw [hschool] at h
      exact .inl ⟨_, h.symm⟩
  | some school =>
      have hmodules : s.modules id = school.moduleSet := by rw [Db.modules, hschool]; rfl
      rw [hschool] at h
      simp only at h
      rw [hmodules]
      cases kind with
      | enable =>
          simp only [enableModule] at h
          rw [enable_apply]
          split at h
          · next hmem => exact .inr (.inl ⟨h.symm, Finset.insert_eq_of_mem hmem⟩)
          · unfold checked at h
            split at h
            · exact .inl ⟨_, h.symm⟩
            · exact .inr (.inr h.symm)
      | disable =>
          simp only [disableModule] at h
          rw [disable_apply]
          split at h
          · next hmem => exact .inr (.inl ⟨h.symm, Finset.erase_eq_of_notMem hmem⟩)
          · unfold checked at h
            split at h
            · exact .inl ⟨_, h.symm⟩
            · exact .inr (.inr h.symm)
      | patch =>
          simp only [patchModules] at h
          split at h
          · exact .inl ⟨_, h.symm⟩
          · split at h
            · next hsame => exact .inr (.inl ⟨h.symm, hsame⟩)
            · exact .inr (.inr h.symm)

theorem storeModules_cases (s : Db) (id : SchoolId) (modules : ModuleSet) :
    (∃ e, storeModules s id modules = (s, refuse e)) ∧
        ¬ (modules.Closed ∧ (s.school.lookup id).isSome = true) ∨
      storeModules s id modules =
          ({ s with school := s.school.insert id ⟨modules.names⟩ }, done modules) ∧
        modules.Closed ∧ (s.school.lookup id).isSome = true := by
  unfold storeModules setModules
  cases hvalid : modules.validate with
  | error e =>
      refine .inl ⟨⟨e, rfl⟩, fun h => ?_⟩
      rw [ModuleSet.validate_eq_ok_iff.mpr h.1] at hvalid
      cases hvalid
  | ok =>
      have hclosed := ModuleSet.validate_eq_ok_iff.mp hvalid
      cases hschool : s.school.lookup id with
      | none => exact .inl ⟨⟨_, rfl⟩, fun h => by simp at h⟩
      | some => exact .inr ⟨rfl, hclosed, rfl⟩

theorem modules_insert (s : Db) (id id' : SchoolId) (modules : ModuleSet) :
    Db.modules { s with school := s.school.insert id ⟨modules.names⟩ } id' =
      if id' = id then modules else s.modules id' := by
  unfold Db.modules
  rw [lookup_insert_eq]
  split
  · simp
  · rfl

theorem parse_cases {request : Request} {n : Reply} (h : parse request = n) :
    (∃ e, n = refuse e) ∨ ∃ id kind, n = goto (.schoolModules id kind) := by
  subst h
  cases request with
  | enable | disable =>
      simp only [parse, pathModule]
      split
      · exact .inl ⟨_, rfl⟩
      · exact .inr ⟨_, _, rfl⟩
  | patch =>
      simp only [parse]
      split
      · exact .inl ⟨_, rfl⟩
      · exact .inr ⟨_, _, rfl⟩

theorem Change.apply_eq_iff {set' : ModuleSet} :
    change.apply set = change.apply set' ↔
      ∀ entry, entry ∈ change.enable ∨ entry ∈ change.disable ∨ (entry ∈ set ↔ entry ∈ set') := by
  simp only [Finset.ext_iff, Change.mem_apply]
  refine forall_congr' fun entry => ?_
  tauto

theorem unmoved_store {kind : Kind} {current modules : ModuleSet} :
    unmoved c (.storeModules id kind current modules) = true ↔
      (modules.Closed ∧ (c.shared.school.lookup id).isSome = true →
        kind.change.apply current = kind.change.apply (c.shared.modules id)) := by
  have hvalid : modules.validate.isOk = true ↔ modules.Closed := by
    rw [← ModuleSet.validate_eq_ok_iff]
    cases modules.validate with
    | error => exact iff_of_false (by simp [Except.isOk, Except.toBool]) (fun h => by cases h)
    | ok => exact iff_of_true rfl rfl
  simp only [unmoved, decide_eq_true_eq, Bool.and_eq_true, List.all_eq_true, hvalid,
    Change.apply_eq_iff, Module.mem_all, true_implies]

theorem made_relyGuarantee :
    machine.RelyGuarantee (fun _ _ => True) (fun _ => True) (fun _ p _ => p.Made) := by
  refine Machine.RelyGuarantee.of_points (fun request => trivial) ?_
  intro c id w p s q _ hnext _
  have hmove : next id c.shared p w = some (s, .goto q) := hnext
  cases p with
  | parse =>
      simp only [next, Option.some.injEq, Prod.mk.injEq] at hmove
      obtain ⟨e, he⟩ | ⟨id, kind, heq⟩ := parse_cases hmove.2
      · cases he
      · cases heq
        trivial
  | schoolModules =>
      simp only [next, Option.some.injEq, Prod.mk.injEq] at hmove
      obtain ⟨e, he⟩ | ⟨hdone, -⟩ | heq := schoolModules_cases hmove.2
      · cases he
      · cases hdone
      · cases heq
        rfl
  | storeModules id kind current modules =>
      simp only [next, Option.some.injEq] at hmove
      obtain ⟨⟨e, he⟩, -⟩ | ⟨he, -⟩ := storeModules_cases c.shared id modules
      · rw [he] at hmove
        cases hmove
      · rw [he] at hmove
        cases hmove

theorem closed_step {m : Move Request Unit} (hc : ∀ id, (c.shared.modules id).Closed)
    (hstep : machine.step c m = some d) :
    ∀ id, (d.shared.modules id).Closed := by
  obtain ⟨request, rfl, rfl⟩ | ⟨id, w, p, s, n, rfl, hp, hnext, rfl⟩ | ⟨id, p, rfl, hp, rfl⟩ :=
    Machine.step_cases hstep
  · exact hc
  · have hmove : next id c.shared p w = some (s, n) := hnext
    rw [Config.shared_after]
    cases p with
    | parse | schoolModules =>
        cases hmove
        exact hc
    | storeModules school kind current modules =>
        simp only [next, Option.some.injEq] at hmove
        obtain ⟨⟨e, he⟩, -⟩ | ⟨he, hclosed, -⟩ := storeModules_cases c.shared school modules
        · rw [he] at hmove
          cases hmove
          exact hc
        · rw [he] at hmove
          cases hmove
          intro id'
          rw [modules_insert]
          split
          · exact hclosed
          · exact hc id'
  · exact hc

def Kept (start : SchoolId → ModuleSet) (c : Config Db Point)
    (calls : List (SchoolId × Change)) : Prop :=
  ∀ id, c.shared.modules id = replay Change.apply id calls (start id)

/-- A call that moves nothing where it acts keeps the account, whether it is recorded or not. -/
theorem kept_snoc {start : SchoolId → ModuleSet} {calls : List (SchoolId × Change)}
    (hc : Kept start c calls)
    (hothers : ∀ id', id' ≠ id → d.shared.modules id' = c.shared.modules id') :
    Kept start d (calls ++ [(id, change)]) ↔
      d.shared.modules id = change.apply (c.shared.modules id) := by
  have hkey : ∀ id', replay Change.apply id' (calls ++ [(id, change)]) (start id') =
      if id = id' then change.apply (c.shared.modules id') else c.shared.modules id' := by
    intro id'
    rw [replay_snoc, hc id']
  constructor
  · intro hd
    have hid := hd id
    rwa [hkey, if_pos rfl] at hid
  · intro hid id'
    rw [hkey]
    split
    · next heq =>
      subst heq
      exact hid
    · next hne => exact hothers id' (Ne.symm hne)

theorem unmoved_iff_kept {start : SchoolId → ModuleSet} {m : Move Request Unit}
    {calls : List (SchoolId × Change)} (hmade : ∀ id p, c.calls.lookup id = some p → p.Made)
    (hc : Kept start c calls) (hstep : machine.step c m = some d) :
    c.Admits unmoved m ↔ Kept start d (calls ++ answered c m) := by
  obtain ⟨request, rfl, rfl⟩ | ⟨id, w, p, s, n, rfl, hp, hnext, rfl⟩ | ⟨id, p, rfl, hp, rfl⟩ :=
    Machine.step_cases hstep
  · simp only [answered, List.append_nil]
    exact iff_of_true trivial hc
  · have hmove : next id c.shared p w = some (s, n) := hnext
    simp only [Config.Admits, answered, hp, hmove, Option.all_some]
    cases p with
    | parse =>
        simp only [next, Option.some.injEq, Prod.mk.injEq] at hmove
        obtain ⟨rfl, hparse⟩ := hmove
        refine iff_of_true rfl ?_
        obtain ⟨e, rfl⟩ | ⟨school, kind, rfl⟩ := parse_cases hparse
        · simpa [refuse, Kept] using hc
        · simpa [goto, Kept] using hc
    | schoolModules =>
        simp only [next, Option.some.injEq, Prod.mk.injEq] at hmove
        obtain ⟨rfl, hread⟩ := hmove
        refine iff_of_true rfl ?_
        obtain ⟨e, rfl⟩ | ⟨rfl, hsame⟩ | rfl := schoolModules_cases hread
        · simpa [refuse, Kept] using hc
        · refine (kept_snoc hc fun id' _ => ?_).mpr ?_
          · rw [Config.shared_after]
          · rw [Config.shared_after]
            exact hsame.symm
        · simpa [goto, Kept] using hc
    | storeModules school kind current modules =>
        simp only [next, Option.some.injEq] at hmove
        obtain rfl : modules = kind.change.apply current := hmade id _ hp
        obtain ⟨⟨e, he⟩, hnot⟩ | ⟨he, hclosed, hthere⟩ := storeModules_cases c.shared school _
        · rw [he] at hmove
          cases hmove
          refine iff_of_true (unmoved_store.mpr fun h => absurd h hnot) ?_
          simpa [refuse, Kept] using hc
        · rw [he] at hmove
          cases hmove
          rw [unmoved_store]
          refine Iff.trans ?_ (kept_snoc hc fun id' hne => ?_).symm
          · rw [Config.shared_after, modules_insert, if_pos rfl]
            exact forall_prop_of_true ⟨hclosed, hthere⟩
          · rw [Config.shared_after, modules_insert, if_neg hne]
  · simp only [answered, List.append_nil]
    exact iff_of_true trivial hc

/-- What a school has is closed on every run.  It is what the answered calls add up to, each
adding and taking back only what it named, at every moment of a run exactly when, at each write
of the run, the school still has what that call read but for the modules the call named. -/
theorem modules_follow_calls {s : Db} (hs : ∀ id, (s.modules id).Closed)
    {moves : List (Move Request Unit)} {c : Config Db Point}
    (hrun : machine.run (.initial s) moves = some c) :
    (∀ id, (c.shared.modules id).Closed) ∧
      (machine.Guarded (Config.Admits unmoved) (.initial s) moves ↔
        ∀ pre d, pre <+: moves → machine.run (.initial s) pre = some d →
          ∀ id, d.shared.modules id =
            replay Change.apply id (machine.observe answered (.initial s) pre) (s.modules id)) := by
  constructor
  · exact Machine.run_induction (J := fun c => ∀ id, (c.shared.modules id).Closed)
      (fun hc _ hstep => closed_step hc hstep) hs (Machine.guarded_true _ moves) hrun
  · refine Machine.guarded_iff_observed (f := answered) (Q := Kept s.modules) (l := [])
      (J := fun c => c.Holds (fun _ => True) (fun _ p _ => p.Made))
      (fun hc hstep => made_relyGuarantee.holds_step hc trivial hstep)
      (fun hc hkept hstep => unmoved_iff_kept hc.calls hkept hstep)
      (Config.initial_holds _ trivial) (fun id => rfl) hrun

namespace Sample

def school : SchoolId := ⟨.ending "000c"⟩

def db : Db := ⟨(∅ : Table SchoolId School).insert school ⟨["notes"]⟩⟩

theorem db_closed (id : SchoolId) : (db.modules id).Closed := by
  unfold Db.modules db
  rw [lookup_insert_eq]
  split
  · rw [← ModuleSet.validate_eq_ok_iff]
    decide
  · intro entry hentry
    simp at hentry

end Sample

open Sample in
def overlapping : List (Move Request Unit) :=
  [.start (.enable school "courses"), .start (.enable school "meals"), .advance 0 (),
    .advance 1 (), .advance 0 (), .advance 1 (), .advance 0 (), .advance 1 ()]

/-- Both calls answered with success, and the school has lost the courses. -/
theorem overlapping_sales_lose_one :
    (machine.run (.initial Sample.db) overlapping).any (fun c =>
      decide (machine.observe answered (.initial Sample.db) overlapping =
          [(Sample.school, ⟨{.courses}, ∅⟩), (Sample.school, ⟨{.meals}, ∅⟩)] ∧
        c.shared.modules Sample.school = {.notes, .meals} ∧
        replay Change.apply Sample.school
            (machine.observe answered (.initial Sample.db) overlapping)
            (Sample.db.modules Sample.school) = {.notes, .courses, .meals})) = true := by
  decide

theorem modules_follow_calls_overlapping :
    ∃ c, machine.run (.initial Sample.db) overlapping = some c ∧
      (∀ id, (c.shared.modules id).Closed) ∧
      ¬ machine.Guarded (Config.Admits unmoved) (.initial Sample.db) overlapping := by
  have hends : (machine.run (.initial Sample.db) overlapping).any (fun _ => true) = true := by
    decide
  obtain ⟨c, hrun, -⟩ := (Option.any_eq_true _ _).mp hends
  exact ⟨c, hrun, (modules_follow_calls Sample.db_closed hrun).1, by decide⟩

end Hezarfen.Entitlements
