import Hezarfen.KeyedRows
import Hezarfen.OverrideStore
import Hezarfen.SettingsMerge

/-!
# What an exam weighs in a section

Grades ask for the weight of one kind, screens for the whole map of a section.  Both
walk from the section's own rows, or the template's while it inherits, to the school's
vocabulary and to one; each has queries of its own.  The map never names a kind twice,
and a kind it leaves out weighs one.
-/

namespace Hezarfen.ExamWeights

open School (ClassCourseId)
open Years (CourseOfferingId)
open SchoolSettings (ExamKindDef Settings SettingsParams sorted)
open Overrides (ClassCourse fallbackWeight)

structure ExamWeight where
  kind : String
  weight : ℤ

structure Weights where
  school : Settings
  offeringExamWeight : Table (CourseOfferingId × String) ℤ
  classCourseExamWeight : Table (ClassCourseId × String) ℤ

/-- `exam_kind_weight` -/
def examKindWeight (school : Settings) (kind : String) : Option ℤ :=
  (school.examKinds.find? fun known => decide (known.name = kind)).map ExamKindDef.weight

section Queries

variable {O : Type*} [DecidableEq O]

def inOrder (loc : SchoolSettings.Locale) (rows : List ExamWeight) : List ExamWeight :=
  (rows.insertionSort fun a b => a.kind ≤ b.kind).insertionSort fun a b =>
    loc.collate a.kind b.kind = true

/-- `WHERE owner = $1 ORDER BY kind` -/
def listFor (loc : SchoolSettings.Locale) (table : Table (O × String) ℤ) (owner : O) :
    List ExamWeight :=
  inOrder loc ((table.entries.filter fun row => decide (row.1.1 = owner)).map fun row =>
    ⟨row.1.2, row.2⟩)

/-- `WHERE owner = $1 AND kind = $2` -/
def weightFor (table : Table (O × String) ℤ) (owner : O) (kind : String) :
    Option ExamWeight :=
  (table.lookup (owner, kind)).map fun weight => ⟨kind, weight⟩

theorem mem_inOrder (loc : SchoolSettings.Locale) {rows : List ExamWeight} {row : ExamWeight} :
    row ∈ inOrder loc rows ↔ row ∈ rows := by
  simp [inOrder, List.mem_insertionSort]

theorem inOrder_perm (loc : SchoolSettings.Locale) (rows : List ExamWeight) :
    (inOrder loc rows).Perm rows :=
  (List.perm_insertionSort _ _).trans (List.perm_insertionSort _ _)

theorem mem_listFor (loc : SchoolSettings.Locale) {table : Table (O × String) ℤ} {owner : O}
    {row : ExamWeight} :
    row ∈ listFor loc table owner ↔ table.lookup (owner, row.kind) = some row.weight := by
  unfold listFor
  rw [mem_inOrder, List.mem_map]
  constructor
  · rintro ⟨⟨⟨o, kind⟩, weight⟩, hmem, rfl⟩
    obtain ⟨hentry, howner⟩ := List.mem_filter.mp hmem
    obtain rfl := of_decide_eq_true howner
    exact mem_entries_iff_lookup.mp hentry
  · intro hlookup
    refine ⟨⟨(owner, row.kind), row.weight⟩, List.mem_filter.mpr ⟨?_, by simp⟩, rfl⟩
    exact mem_entries_iff_lookup.mpr hlookup

omit [DecidableEq O] in
theorem nodup_entries_key (table : Table (O × String) ℤ) :
    (table.entries.map fun row => row.1).Nodup :=
  table.nodupKeys

/-- The primary key leaves an owner one row for each kind. -/
theorem nodup_listFor (loc : SchoolSettings.Locale) (table : Table (O × String) ℤ) (owner : O) :
    ((listFor loc table owner).map ExamWeight.kind).Nodup := by
  have hperm := (inOrder_perm loc ((table.entries.filter fun row =>
    decide (row.1.1 = owner)).map fun row => ⟨row.1.2, row.2⟩)).map ExamWeight.kind
  refine hperm.nodup_iff.mpr ?_
  rw [List.map_map]
  have hkeys := (nodup_entries_key table).sublist
    (List.Sublist.map _ (List.filter_sublist (p := fun row => decide (row.1.1 = owner))))
  refine List.Nodup.of_map (fun kind => (owner, kind)) ?_
  rw [List.map_map]
  convert hkeys using 1
  apply List.map_congr_left
  intro row hrow
  have howner := of_decide_eq_true (List.mem_filter.mp hrow).2
  exact Prod.ext howner.symm rfl

/-- The batch read answers what the single read answers. -/
theorem find_listFor (loc : SchoolSettings.Locale) (table : Table (O × String) ℤ) (owner : O)
    (kind : String) :
    ((listFor loc table owner).find? fun row => decide (row.kind = kind)).map
      ExamWeight.weight = table.lookup (owner, kind) := by
  cases hfind : (listFor loc table owner).find? fun row => decide (row.kind = kind) with
  | some row =>
      have hkind : row.kind = kind := by simpa using List.find?_some hfind
      subst hkind
      exact ((mem_listFor loc).mp (List.mem_of_find?_eq_some hfind)).symm
  | none =>
      cases hlookup : table.lookup (owner, kind) with
      | none => rfl
      | some weight =>
          have hmem : (⟨kind, weight⟩ : ExamWeight) ∈ listFor loc table owner :=
            (mem_listFor loc).mpr hlookup
          have hnot := List.find?_eq_none.mp hfind _ hmem
          simp at hnot

end Queries

def resolve (s : Weights) (instance_ : ClassCourseId) (row : ClassCourse) (kind : String) : ℤ :=
  if !row.examWeightsInherited then
    ((weightFor s.classCourseExamWeight instance_ kind).map ExamWeight.weight).getD fallbackWeight
  else
    match weightFor s.offeringExamWeight row.offering kind with
    | some own => own.weight
    | none => (examKindWeight s.school kind).getD fallbackWeight

def resolvedInherited (loc : SchoolSettings.Locale) (s : Weights) (offering : CourseOfferingId) :
    List ExamWeight :=
  let rows := listFor loc s.offeringExamWeight offering
  let weightOf := fun kind =>
    (((rows.find? fun row => decide (row.kind = kind)).map ExamWeight.weight).or
      (examKindWeight s.school kind)).getD fallbackWeight
  let kinds := Keyed.extend id (s.school.examKinds.map ExamKindDef.name)
    (rows.map ExamWeight.kind)
  (sorted kinds).map fun kind => ⟨kind, weightOf kind⟩

def resolvedForClass (loc : SchoolSettings.Locale) (s : Weights) (instance_ : ClassCourseId)
    (row : ClassCourse) : Bool × List ExamWeight :=
  if !row.examWeightsInherited then (false, listFor loc s.classCourseExamWeight instance_)
  else (true, resolvedInherited loc s row.offering)

/-! ## One chain -/

section Chain

variable {loc : SchoolSettings.Locale} {s : Weights} {instance_ : ClassCourseId} {row : ClassCourse}
  {kind : String}

theorem resolve_own (h : row.examWeightsInherited = false) :
    resolve s instance_ row kind =
      (s.classCourseExamWeight.lookup (instance_, kind)).getD fallbackWeight := by
  simp [resolve, weightFor, h, Function.comp_def]

theorem resolve_inherited (h : row.examWeightsInherited = true) :
    resolve s instance_ row kind =
      ((s.offeringExamWeight.lookup (row.offering, kind)).or
        (examKindWeight s.school kind)).getD fallbackWeight := by
  unfold resolve weightFor
  cases hlookup : s.offeringExamWeight.lookup (row.offering, kind) <;> simp [h]

theorem mem_resolvedInherited {entry : ExamWeight} {offering : CourseOfferingId} :
    entry ∈ resolvedInherited loc s offering ↔
      (entry.kind ∈ s.school.examKinds.map ExamKindDef.name ∨
        (s.offeringExamWeight.lookup (offering, entry.kind)).isSome) ∧
      entry.weight = ((s.offeringExamWeight.lookup (offering, entry.kind)).or
        (examKindWeight s.school entry.kind)).getD fallbackWeight := by
  have hlisted : ∀ kind, kind ∈ sorted (Keyed.extend id
      (s.school.examKinds.map ExamKindDef.name)
      ((listFor loc s.offeringExamWeight offering).map ExamWeight.kind)) ↔
      kind ∈ s.school.examKinds.map ExamKindDef.name ∨
        (s.offeringExamWeight.lookup (offering, kind)).isSome := by
    intro kind
    rw [sorted, List.mem_insertionSort, Keyed.mem_extend_id]
    apply or_congr_right
    rw [List.mem_map, Option.isSome_iff_exists]
    constructor
    · rintro ⟨row, hrow, rfl⟩
      exact ⟨row.weight, (mem_listFor loc).mp hrow⟩
    · rintro ⟨weight, hweight⟩
      exact ⟨⟨kind, weight⟩, (mem_listFor loc).mpr hweight, rfl⟩
  unfold resolvedInherited
  simp only [List.mem_map, hlisted, find_listFor]
  constructor
  · rintro ⟨kind, hkind, rfl⟩
    exact ⟨hkind, rfl⟩
  · rintro ⟨hkind, hweight⟩
    exact ⟨entry.kind, hkind, by rw [← hweight]⟩

theorem mem_resolvedForClass_weight {entry : ExamWeight}
    (h : entry ∈ (resolvedForClass loc s instance_ row).2) :
    entry.weight = resolve s instance_ row entry.kind := by
  unfold resolvedForClass at h
  cases hflag : row.examWeightsInherited with
  | false =>
      rw [hflag] at h
      have hlookup := (mem_listFor loc).mp h
      rw [resolve_own hflag, hlookup]
      rfl
  | true =>
      rw [hflag] at h
      rw [resolve_inherited hflag]
      exact (mem_resolvedInherited.mp h).2

theorem resolve_of_not_listed
    (h : ∀ entry ∈ (resolvedForClass loc s instance_ row).2, entry.kind ≠ kind) :
    resolve s instance_ row kind = fallbackWeight := by
  unfold resolvedForClass at h
  cases hflag : row.examWeightsInherited with
  | false =>
      rw [hflag] at h
      rw [resolve_own hflag]
      cases hlookup : s.classCourseExamWeight.lookup (instance_, kind) with
      | none => rfl
      | some weight => exact absurd rfl (h ⟨kind, weight⟩ ((mem_listFor loc).mpr hlookup))
  | true =>
      rw [hflag] at h
      have habsent : ¬ (kind ∈ s.school.examKinds.map ExamKindDef.name ∨
          (s.offeringExamWeight.lookup (row.offering, kind)).isSome) := by
        intro hlisted
        have hmem : (⟨kind, resolve s instance_ row kind⟩ : ExamWeight) ∈
            resolvedInherited loc s row.offering :=
          mem_resolvedInherited.mpr ⟨hlisted, resolve_inherited hflag⟩
        exact h _ hmem rfl
      obtain ⟨hkind, hlookup⟩ := not_or.mp habsent
      have hunknown : examKindWeight s.school kind = none := by
        unfold examKindWeight
        rw [Option.map_eq_none_iff, List.find?_eq_none]
        intro known hknown hname
        exact hkind (List.mem_map.mpr ⟨known, hknown, of_decide_eq_true hname⟩)
      rw [resolve_inherited hflag, Option.not_isSome_iff_eq_none.mp hlookup, hunknown]
      rfl

theorem nodup_resolvedForClass
    (hkinds : (s.school.examKinds.map ExamKindDef.name).Nodup) :
    ((resolvedForClass loc s instance_ row).2.map ExamWeight.kind).Nodup := by
  unfold resolvedForClass
  split
  · exact nodup_listFor loc _ _
  · unfold resolvedInherited
    simp only [List.map_map]
    have hnodup := Keyed.nodup_extend_id hkinds
      ((listFor loc s.offeringExamWeight row.offering).map ExamWeight.kind)
    have hsorted := (List.perm_insertionSort (· ≤ ·) _).nodup_iff.mpr hnodup
    simpa [sorted, Function.comp_def] using hsorted

end Chain

/-- A policy that a load can return: one that passed the rules, or the defaults. -/
def InForce (loc : SchoolSettings.Locale) (school : Settings) : Prop :=
  school = .defaults ∨ ∃ params : SettingsParams, Settings.tryNew loc params = .ok school

theorem InForce.nodup_kinds
    {loc : SchoolSettings.Locale} {school : Settings} (h : InForce loc school) :
    (school.examKinds.map ExamKindDef.name).Nodup := by
  rcases h with rfl | ⟨params, hparams⟩
  · decide
  · obtain ⟨hnormal, -⟩ := SchoolSettings.tryNew_eq_ok hparams
    have hkinds : school.examKinds = params.examKinds := by
      rw [hnormal]
      rfl
    simp only [Settings.tryNew, Gate.bind_eq_ok, Gate.ensure_eq_ok] at hparams
    obtain ⟨-, -, -, -, -, -, -, -, names, hnames, -⟩ := hparams
    simp only [SchoolSettings.validateList, Gate.bind_eq_ok, Gate.ensure_eq_ok,
      decide_eq_true_eq] at hnames
    obtain ⟨-, -, -, -, -, -, -, hfolded, -⟩ := hnames
    rw [hkinds]
    exact (hfolded.of_map _).of_map _

/-- A kind weighs what the section's map says, or one when the map leaves it out, and the
map has one entry for a kind. -/
theorem resolve_eq_map
    (loc : SchoolSettings.Locale) (s : Weights) (hschool : InForce loc s.school)
    (instance_ : ClassCourseId) (row : ClassCourse) (kind : String) :
    (∀ entry ∈ (resolvedForClass loc s instance_ row).2, entry.kind = kind →
      resolve s instance_ row kind = entry.weight) ∧
    ((∀ entry ∈ (resolvedForClass loc s instance_ row).2, entry.kind ≠ kind) →
      resolve s instance_ row kind = fallbackWeight) ∧
    ((resolvedForClass loc s instance_ row).2.map ExamWeight.kind).Nodup := by
  refine ⟨?_, resolve_of_not_listed, nodup_resolvedForClass hschool.nodup_kinds⟩
  rintro entry hentry rfl
  exact (mem_resolvedForClass_weight hentry).symm

namespace Sample

def algebra : CourseOfferingId :=
  ⟨⟨.ending "a19e"⟩, .ninth⟩

def algebra9A : ClassCourseId := ⟨.ending "09a1"⟩

def inheriting : ClassCourse :=
  { course := algebra.course
    offering := algebra
    title := none
    description := none
    dersSaati := none
    countsTowardKarne := none
    subjectsInherited := true
    examWeightsInherited := true
    weeklyPlanInherited := true }

def retired : Weights :=
  { school := .defaults
    offeringExamWeight := (∅ : Table (CourseOfferingId × String) ℤ).insert (algebra, "final") 5
    classCourseExamWeight := ∅ }

def plain : SchoolSettings.Locale := ⟨fun c => [c], fun a b => decide (a ≤ b)⟩

end Sample

theorem resolve_eq_map_retired :
    (∀ entry ∈ (resolvedForClass Sample.plain Sample.retired Sample.algebra9A
        Sample.inheriting).2, entry.kind = "final" →
      resolve Sample.retired Sample.algebra9A Sample.inheriting "final" = entry.weight) ∧
    ((∀ entry ∈ (resolvedForClass Sample.plain Sample.retired Sample.algebra9A
        Sample.inheriting).2, entry.kind ≠ "final") →
      resolve Sample.retired Sample.algebra9A Sample.inheriting "final" = fallbackWeight) ∧
    ((resolvedForClass Sample.plain Sample.retired Sample.algebra9A
      Sample.inheriting).2.map ExamWeight.kind).Nodup :=
  resolve_eq_map Sample.plain Sample.retired (.inl rfl) Sample.algebra9A Sample.inheriting "final"

end Hezarfen.ExamWeights
