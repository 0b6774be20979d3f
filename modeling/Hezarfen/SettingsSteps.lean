import Hezarfen.SettingsCalls

/-!
# What the save and the switches do

A save that lands was judged on the policy that is stored, although its view of the child
tables may be an old one: every save rewrites the core statuses, so a statement that missed
a rival's rewrite collides with it.  A switch moves one bit and no count.
-/

namespace Hezarfen.SchoolSettings

open Interleaving

section Sorting

variable {loc : Locale} {entries entries' : List String}

theorem sorted_perm (entries : List String) : (sorted entries).Perm entries :=
  List.perm_insertionSort _ _

theorem sorted_congr (h : entries.Perm entries') : sorted entries = sorted entries' := by
  have hperm : (sorted entries).Perm (sorted entries') :=
    (sorted_perm entries).trans (h.trans (sorted_perm entries').symm)
  exact hperm.eq_of_sortedLE List.sortedLE_insertionSort List.sortedLE_insertionSort

theorem orderBy_perm (entries : List String) : (loc.orderBy entries).Perm entries :=
  (List.perm_insertionSort _ _).trans (sorted_perm entries)

theorem orderBy_congr (h : entries.Perm entries') : loc.orderBy entries = loc.orderBy entries' := by
  unfold Locale.orderBy
  rw [sorted_congr h]

theorem arrayAgg_congr (h : entries.Perm entries') :
    arrayAgg loc entries = arrayAgg loc entries' := by
  unfold arrayAgg
  rw [orderBy_congr h, h.isEmpty_eq]

theorem arrayAgg_getD (entries : List String) :
    (arrayAgg loc entries).getD [] = loc.orderBy entries := by
  unfold arrayAgg
  cases entries with
  | nil | cons => rfl

theorem arrayAgg_ne_nil (entries : List String) : arrayAgg loc entries ≠ some [] := by
  unfold arrayAgg
  split
  · simp
  · next hne =>
    intro h
    have hnil := (orderBy_perm entries).symm.trans (List.Perm.of_eq (Option.some.inj h))
    rw [hnil.eq_nil] at hne
    exact hne rfl

end Sorting

section Rewrite

variable {xmin : ℕ} {rows rows' seen : Vocabulary} {entries : List String}

theorem insertAll_perm
    (h : insertAll xmin entries rows = some rows') : rows'.keys.Perm (entries ++ rows.keys) := by
  induction entries generalizing rows with
  | nil =>
      cases h
      exact List.Perm.refl _
  | cons entry entries ih =>
      simp only [insertAll] at h
      split at h
      · cases h
      · next habsent =>
        have hnew : entry ∉ rows.keys := by
          rw [← AList.mem_keys, ← AList.lookup_isSome]
          exact habsent
        have hkeys : (rows.insert entry xmin).keys = entry :: rows.keys := by
          rw [AList.keys_insert, List.erase_of_not_mem hnew]
        refine (ih h).trans ?_
        rw [hkeys]
        exact List.perm_middle

theorem insertAll_version
    (h : insertAll xmin entries rows = some rows') {entry : String} {version : ℕ}
    (hrow : rows'.lookup entry = some version) :
    version = xmin ∨ rows.lookup entry = some version := by
  induction entries generalizing rows with
  | nil =>
      cases h
      exact .inr hrow
  | cons first entries ih =>
      simp only [insertAll] at h
      split at h
      · cases h
      · rcases ih h with heq | hold
        · exact .inl heq
        · rw [lookup_insert_eq] at hold
          split at hold
          · exact .inl (Option.some.inj hold).symm
          · exact .inr hold

theorem insertAll_absent
    (h : insertAll xmin entries rows = some rows') {entry : String} (hmem : entry ∈ entries) :
    rows.lookup entry = none := by
  induction entries generalizing rows with
  | nil => cases hmem
  | cons first entries ih =>
      simp only [insertAll] at h
      split at h
      · cases h
      · next habsent =>
        rcases List.mem_cons.mp hmem with rfl | hrest
        · exact Option.not_isSome_iff_eq_none.mp habsent
        · have hnone := ih h hrest
          rw [lookup_insert_eq] at hnone
          split at hnone
          · cases hnone
          · exact hnone

theorem rewrite_fresh
    (h : rewrite xmin rows rows entries = some rows') :
    rows'.keys.Perm entries ∧
      ∀ entry version, rows'.lookup entry = some version → version = xmin := by
  have hempty : ∀ entry, (Table.deleteWhere rows fun entry version =>
      decide (rows.lookup entry = some version)).lookup entry = none := by
    intro entry
    rw [lookup_deleteWhere]
    cases hrow : rows.lookup entry with
    | none => rfl
    | some => simp [Option.filter]
  have hnil : (Table.deleteWhere rows fun entry version =>
      decide (rows.lookup entry = some version)).keys = [] := by
    rw [List.eq_nil_iff_forall_not_mem]
    intro entry hmem
    rw [← AList.mem_keys, ← AList.lookup_isSome, hempty] at hmem
    cases hmem
  constructor
  · have hperm := insertAll_perm h
    rwa [hnil, List.append_nil] at hperm
  · intro entry version hrow
    rcases insertAll_version h hrow with heq | hold
    · exact heq
    · rw [hempty] at hold
      cases hold

theorem rewrite_collides
    (h : rewrite xmin rows seen entries = some rows') {entry : String} (hmem : entry ∈ entries)
    {version : ℕ} (hrow : rows.lookup entry = some version) : seen.lookup entry = some version := by
  have hnone := insertAll_absent h hmem
  rw [lookup_deleteWhere, hrow] at hnone
  by_contra hother
  simp [Option.filter, hother] at hnone

end Rewrite

section Switches

variable {s : Db} {ref other : NameRef} {switch : Switch}

theorem ref_setRef (s : Db) (ref other : NameRef) (row : Ref) :
    (s.setRef ref row).ref other = if other = ref then some row else s.ref other := by
  obtain ⟨table, name⟩ := ref
  obtain ⟨table', name'⟩ := other
  cases table <;> cases table' <;>
    simp only [Db.setRef, Db.ref, lookup_insert_eq, NameRef.mk.injEq, true_and, false_and,
      reduceCtorEq, if_false] <;>
    by_cases hname : name' = name <;> simp [hname]

theorem isRetired_flip (s : Db) (switch : Switch) (ref : NameRef) :
    (s.flip switch).isRetired ref =
      if ref = switch.ref then
        if switch.off then (retired (s.ref ref)).retired else false
      else s.isRetired ref := by
  unfold Db.isRetired Db.flip
  rw [ref_setRef]
  by_cases href : ref = switch.ref
  · subst href
    cases switch.off
    · cases s.ref switch.ref <;> simp [unretired]
    · simp
  · simp [href]

/-- A switch leaves every count as it is. -/
theorem refCount_flip (s : Db) (switch : Switch) (ref : NameRef) :
    (s.flip switch).refCount ref = s.refCount ref := by
  unfold Db.refCount Db.flip
  rw [ref_setRef]
  by_cases href : ref = switch.ref
  · subst href
    cases switch.off <;> cases s.ref switch.ref <;>
      simp only [if_true, if_false, Option.elim_some, Option.elim_none, retired, unretired,
        Bool.false_eq_true]
    split <;> rfl
  · simp [href]

theorem retired_of_count_zero
    (h : s.refCount ref = 0) : (retired (s.ref ref)).retired = true := by
  unfold Db.refCount at h
  unfold retired
  cases hrow : s.ref ref with
  | none => rfl
  | some row =>
      rw [hrow] at h
      simp only [Option.elim_some] at h
      cases hbit : row.retired <;> simp [h, hbit]

theorem refCount_flips (s : Db) (switches : List Switch) (ref : NameRef) :
    (switches.foldl Db.flip s).refCount ref = s.refCount ref := by
  induction switches generalizing s with
  | nil => rfl
  | cons switch switches ih => rw [List.foldl_cons, ih, refCount_flip]

theorem isRetired_flips
    {switches : List Switch} (off : Bool) (hagree : ∀ sw ∈ switches, sw.ref = ref → sw.off = off)
    (hidle : off = true → s.refCount ref = 0) :
    (switches.foldl Db.flip s).isRetired ref =
      if ref ∈ switches.map Switch.ref then off else s.isRetired ref := by
  induction switches generalizing s with
  | nil => simp
  | cons switch switches ih =>
      have hrest := ih (s := s.flip switch) (fun sw hsw => hagree sw (List.mem_cons_of_mem _ hsw))
        (fun hoff => by rw [refCount_flip]; exact hidle hoff)
      rw [List.foldl_cons, hrest, isRetired_flip]
      by_cases hmem : ref ∈ switches.map Switch.ref
      · simp [hmem]
      · by_cases href : ref = switch.ref
        · have hoff := hagree switch (List.mem_cons_self ..) href.symm
          cases off with
          | true =>
              have hbit := retired_of_count_zero (hidle rfl)
              simp [hmem, ← href, hoff, hbit]
          | false => simp [hmem, ← href, hoff]
        · simp [hmem, href]

end Switches

theorem mem_missing {before after : List String} {name : String} :
    name ∈ missing before after ↔ name ∈ before ∧ name ∉ after := by
  simp [missing]

theorem mem_switchAll {table : RefTable} {off : Bool} {names : List String} {switch : Switch} :
    switch ∈ switchAll table off names ↔
      switch.ref.table = table ∧ switch.off = off ∧ switch.ref.name ∈ names := by
  obtain ⟨⟨table', name⟩, off'⟩ := switch
  simp only [switchAll, List.mem_map, Switch.mk.injEq, NameRef.mk.injEq]
  constructor
  · rintro ⟨entry, hentry, ⟨rfl, rfl⟩, rfl⟩
    exact ⟨rfl, rfl, hentry⟩
  · rintro ⟨rfl, rfl, hname⟩
    exact ⟨name, hname, ⟨rfl, rfl⟩, rfl⟩

theorem mem_switches {current settings : Settings} {switch : Switch} :
    switch ∈ switches current settings ↔
      switch.ref.name ∈
        if switch.off then
          missing (current.listed switch.ref.table) (settings.listed switch.ref.table)
        else missing (settings.listed switch.ref.table) (current.listed switch.ref.table) := by
  obtain ⟨⟨table, name⟩, off⟩ := switch
  cases table <;> cases off <;>
    simp [switches, List.mem_append, mem_switchAll, Settings.listed]

theorem mem_switches_ref {current settings : Settings} {ref : NameRef} :
    ref ∈ (switches current settings).map Switch.ref ↔
      ref.name ∈ missing (current.listed ref.table) (settings.listed ref.table) ∨
        ref.name ∈ missing (settings.listed ref.table) (current.listed ref.table) := by
  rw [List.mem_map]
  constructor
  · rintro ⟨⟨ref, off⟩, hswitch, rfl⟩
    rw [mem_switches] at hswitch
    cases off with
    | true => exact .inl hswitch
    | false => exact .inr hswitch
  · rintro (hdropped | hadded)
    · exact ⟨⟨ref, true⟩, mem_switches.mpr hdropped, rfl⟩
    · exact ⟨⟨ref, false⟩, mem_switches.mpr hadded, rfl⟩

/-- The bit of a name after an edit: set for what is dropped, clear for what is added. -/
def bitAfter (current settings : Settings) (bit : NameRef → Bool) (ref : NameRef) : Bool :=
  if ref.name ∈ missing (current.listed ref.table) (settings.listed ref.table) then true
  else if ref.name ∈ missing (settings.listed ref.table) (current.listed ref.table) then false
  else bit ref

theorem isRetired_switches
    {s : Db} {current settings : Settings}
    (hidle : ∀ sw ∈ switches current settings, sw.off = true → s.refCount sw.ref = 0) :
    ((switches current settings).foldl Db.flip s).isRetired =
      bitAfter current settings s.isRetired := by
  funext ref
  unfold bitAfter
  split
  · next hdropped =>
    have hkept := (mem_missing.mp hdropped).2
    rw [isRetired_flips true, if_pos (mem_switches_ref.mpr (.inl hdropped))]
    · rintro sw hsw rfl
      by_contra hoff
      rw [mem_switches, if_neg hoff] at hsw
      exact hkept (mem_missing.mp hsw).1
    · intro _
      exact hidle ⟨ref, true⟩ (mem_switches.mpr hdropped) rfl
  · next hkept =>
    rw [isRetired_flips false]
    · simp only [mem_switches_ref, hkept, false_or]
    · rintro sw hsw rfl
      by_contra hoff
      rw [Bool.not_eq_false] at hoff
      rw [mem_switches, if_pos hoff] at hsw
      exact hkept hsw
    · intro hoff
      cases hoff

/-! ## Policies that were read -/

section Read

variable {loc : Locale} {s : Db} {settings : Settings}

theorem load_of_row {row : SettingsRow} (hrow : s.settings = some row) :
    s.load loc =
      { row with
        attendanceStatuses := loc.orderBy s.settingsAttendanceStatus.keys
        dietaryTags := arrayAgg loc s.settingsDietaryTag.keys } := by
  unfold Db.load
  rw [hrow]
  simp only [arrayAgg_getD]

theorem load_reloaded {row : SettingsRow} (hrow : s.settings = some row) :
    (s.load loc).reloaded loc = s.load loc := by
  have htags : arrayAgg loc ((arrayAgg loc s.settingsDietaryTag.keys).getD []) =
      arrayAgg loc s.settingsDietaryTag.keys := by
    rw [arrayAgg_getD]
    exact arrayAgg_congr (orderBy_perm _)
  rw [load_of_row hrow]
  simp only [Settings.reloaded, htags]
  rw [arrayAgg_getD, orderBy_congr (orderBy_perm _)]

theorem getDietaryTags_reloaded (settings : Settings) :
    (settings.reloaded loc).getDietaryTags =
      if (settings.dietaryTags.getD []).isEmpty then defaultDietaryTags
      else loc.orderBy (settings.dietaryTags.getD []) := by
  simp only [Settings.reloaded, Settings.getDietaryTags, arrayAgg]
  split <;> rfl

theorem reloaded_wellFormed (h : settings.WellFormed) : (settings.reloaded loc).WellFormed := by
  refine ⟨?_, ?_, ?_, h.branches, h.excuseKinds, h.bands⟩
  · intro status hstatus
    change status ∈ (arrayAgg loc settings.attendanceStatuses).getD []
    rw [arrayAgg_getD]
    exact (orderBy_perm _).mem_iff.mpr (h.core status hstatus)
  · change Trimmed ((arrayAgg loc settings.attendanceStatuses).getD [])
    rw [arrayAgg_getD]
    exact h.statuses.perm (orderBy_perm _)
  · rw [getDietaryTags_reloaded]
    split
    · exact defaults_wellFormed.tags
    · next hsome =>
      have htags := h.tags
      unfold Settings.getDietaryTags at htags
      cases hd : settings.dietaryTags with
      | none => simp [hd] at hsome
      | some =>
          rw [hd] at htags
          exact htags.perm (orderBy_perm _)

end Read

structure Sound (loc : Locale) (s : Db) : Prop where
  inService : ∀ ref, ref.name ∈ (s.load loc).listed ref.table → s.isRetired ref = false
  idle : ∀ ref, s.isRetired ref = true → s.refCount ref = 0
  counted : ∀ ref, 0 ≤ s.refCount ref
  statusVersions : ∀ status version, s.settingsAttendanceStatus.lookup status = some version →
    version = s.saves
  tagVersions : ∀ tag version, s.settingsDietaryTag.lookup tag = some version →
    version = s.saves
  core : s.settings ≠ none → ∀ status ∈ defaultAttendanceStatuses,
    s.settingsAttendanceStatus.lookup status = some s.saves
  wellFormed : (s.load loc).WellFormed
  /-- A row that a save wrote has every knob set. -/
  landed : 0 < s.saves → ∃ row, s.settings = some row ∧ row.maxFileBytes ≠ none

structure Db.Read (loc : Locale) (s : Db) (current : Settings) : Prop where
  wellFormed : current.WellFormed
  defaults : s.settings = none → current = .defaults
  reloaded : ∀ row, s.settings = some row →
    current.reloaded loc = current ∨ (current = .defaults ∧ row.maxFileBytes ≠ none)

structure Db.Seen (s : Db) (seen : Snapshot) (version : ℕ) : Prop where
  le : version ≤ s.saves
  statuses : ∀ status v, seen.statuses.lookup status = some v → v = version
  fresh : version = s.saves →
    seen.statuses = s.settingsAttendanceStatus ∧ seen.tags = s.settingsDietaryTag

section Save

variable {loc : Locale} {s s' : Db} {current settings : Settings} {seen : Snapshot} {version : ℕ}

theorem Sound.read (h : Sound loc s) : s.Read loc (s.load loc) := by
  refine ⟨h.wellFormed, fun hnone => ?_, fun row hrow => .inl (load_reloaded hrow)⟩
  unfold Db.load
  rw [hnone]

theorem Sound.seen_snapshot (h : Sound loc s) : s.Seen s.snapshot s.saves :=
  ⟨le_rfl, h.statusVersions, fun _ => ⟨rfl, rfl⟩⟩

theorem saveIfUnchanged_saved
    (hsave : s.saveIfUnchanged loc seen settings current = .saved s') :
    s.unchanged loc seen current = true ∧
      ∃ statuses tags,
        rewrite (s.saves + 1) s.settingsAttendanceStatus seen.statuses
          (sorted settings.attendanceStatuses) = some statuses ∧
        rewrite (s.saves + 1) s.settingsDietaryTag seen.tags (settings.dietaryTags.getD []) =
          some tags ∧
        s' = { s with
          settings := some settings.toSettingsRow
          settingsAttendanceStatus := statuses
          settingsDietaryTag := tags
          saves := s.saves + 1 } := by
  unfold Db.saveIfUnchanged at hsave
  split at hsave
  · next hguard =>
    split at hsave
    · next statuses tags hstatuses htags =>
      cases hsave
      exact ⟨hguard, statuses, tags, hstatuses, htags, rfl⟩
    · cases hsave
  · cases hsave

/-- A statement that missed a rival's save inserts a core status that is there already. -/
theorem Sound.fresh
    (h : Sound loc s) (hseen : s.Seen seen version) (hsettings : settings.WellFormed)
    {statuses : Vocabulary}
    (hrewrite : rewrite (s.saves + 1) s.settingsAttendanceStatus seen.statuses
      (sorted settings.attendanceStatuses) = some statuses) : version = s.saves := by
  by_cases hrow : s.settings = none
  · have hzero : s.saves = 0 := by
      by_contra hpos
      obtain ⟨row, hsome, -⟩ := h.landed (Nat.pos_of_ne_zero hpos)
      rw [hrow] at hsome
      cases hsome
    have hle := hseen.le
    omega
  · have hpresent : "present" ∈ defaultAttendanceStatuses := by decide
    have hmem : "present" ∈ sorted settings.attendanceStatuses :=
      (sorted_perm _).mem_iff.mpr (hsettings.core _ hpresent)
    have hold := rewrite_collides hrewrite hmem (h.core hrow _ hpresent)
    exact (hseen.statuses _ _ hold).symm

/-- The guard holds of the stored policy alone. -/
theorem Db.Read.current_eq
    (hread : s.Read loc current)
    (hguard : s.unchanged loc s.snapshot current = true) : current = s.load loc := by
  unfold Db.unchanged at hguard
  cases hrow : s.settings with
  | none =>
      rw [hread.defaults hrow]
      unfold Db.load
      rw [hrow]
  | some row =>
      rw [hrow] at hguard
      simp only [Bool.and_eq_true, decide_eq_true_eq] at hguard
      obtain ⟨⟨hcolumns, hstatuses⟩, htags⟩ := hguard
      dsimp only [Db.snapshot] at hstatuses htags
      rcases hread.reloaded row hrow with hcanonical | ⟨rfl, hset⟩
      swap
      · rw [hcolumns] at hset
        exact absurd rfl hset
      have hperm : s.settingsAttendanceStatus.keys.Perm current.attendanceStatuses := by
        rw [arrayAgg_getD] at hstatuses
        exact (orderBy_perm _).symm.trans (hstatuses ▸ sorted_perm _)
      have hcurrentStatuses :
          loc.orderBy current.attendanceStatuses = current.attendanceStatuses := by
        have hfield := congrArg Settings.attendanceStatuses hcanonical
        simp only [Settings.reloaded, arrayAgg_getD] at hfield
        exact hfield
      have hcurrentTags : arrayAgg loc (current.dietaryTags.getD []) = current.dietaryTags :=
        congrArg Settings.dietaryTags hcanonical
      have hfilter : current.dietaryTags.filter (fun tags => !tags.isEmpty) =
          current.dietaryTags := by
        cases hd : current.dietaryTags with
        | none => rfl
        | some tags =>
            have hne : tags ≠ [] := by
              rintro rfl
              rw [hd] at hcurrentTags
              exact arrayAgg_ne_nil _ hcurrentTags
            simp [Option.filter, hne]
      rw [load_of_row hrow, hcolumns, htags, hfilter, orderBy_congr hperm, hcurrentStatuses]

/-- A save that lands was judged on the stored policy, and its policy is the next one read. -/
theorem Sound.saved
    (h : Sound loc s) (hread : s.Read loc current) (hseen : s.Seen seen version)
    (hsettings : settings.WellFormed)
    (hsave : s.saveIfUnchanged loc seen settings current = .saved s') :
    current = s.load loc ∧ s'.load loc = settings.reloaded loc ∧
      s'.settings = some settings.toSettingsRow ∧ s'.saves = s.saves + 1 ∧
      (∀ status v, s'.settingsAttendanceStatus.lookup status = some v → v = s'.saves) ∧
      (∀ tag v, s'.settingsDietaryTag.lookup tag = some v → v = s'.saves) ∧
      s'.settingsAttendanceStatus.keys.Perm settings.attendanceStatuses ∧
      s'.exams = s.exams ∧ s'.meals = s.meals ∧ s'.locks = s.locks := by
  obtain ⟨hguard, statuses, tags, hstatuses, htags, rfl⟩ := saveIfUnchanged_saved hsave
  obtain ⟨hseenStatuses, hseenTags⟩ := hseen.fresh (h.fresh hseen hsettings hstatuses)
  rw [hseenStatuses] at hstatuses
  rw [hseenTags] at htags
  have hsnapshot : seen = s.snapshot := by
    cases seen
    simp only at hseenStatuses hseenTags
    rw [hseenStatuses, hseenTags]
    rfl
  rw [hsnapshot] at hguard
  obtain ⟨hstatusKeys, hstatusVersions⟩ := rewrite_fresh hstatuses
  obtain ⟨htagKeys, htagVersions⟩ := rewrite_fresh htags
  have hkeys : statuses.keys.Perm settings.attendanceStatuses := hstatusKeys.trans (sorted_perm _)
  refine ⟨hread.current_eq hguard, ?_, rfl, rfl, hstatusVersions, htagVersions, hkeys, rfl, rfl,
    rfl⟩
  rw [load_of_row rfl]
  simp only [Settings.reloaded, arrayAgg_getD]
  rw [orderBy_congr hkeys, arrayAgg_congr htagKeys]

end Save

end Hezarfen.SchoolSettings
