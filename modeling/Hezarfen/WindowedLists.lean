import Hezarfen.ExamDomain
import Hezarfen.Pages
import Hezarfen.Signups

/-!
# The windowed lists of exams and events

`GET /exams` and `GET /events` page a schedule window in the database.  A manager reads the whole
table of exams; everyone else reads it joined with its audience, where an exam shared by several
instances comes up once for each of them and is listed once.
-/

namespace Hezarfen.WindowedLists

open Exams (ExamId ClassCourseId Exam)
open Pages
open Signups (EventId Event)

instance : Scheduled (ExamId × Exam) where
  startsAtMs row := row.2.startsAt
  endsAtMs row := row.2.endsAt
  orderKey row := row.1.uuid.hyphenated

instance : Scheduled (EventId × Event) where
  startsAtMs row := row.2.startsAt
  endsAtMs row := row.2.endsAt
  orderKey row := row.1.uuid.hyphenated

structure Db where
  exam : Table ExamId Exam
  examAudience : Table (ExamId × ClassCourseId) Unit
  event : Table EventId Event

def ClassCourseId.key (id : ClassCourseId) : String := id.uuid.hyphenated

variable (s : Db)

def Db.exams : List (ExamId × Exam) := s.exam.entries.map fun row => (row.1, row.2)

def Db.events : List (EventId × Event) := s.event.entries.map fun row => (row.1, row.2)

/-- `exam e JOIN exam_audience a ON a.exam = e.id` -/
def Db.examsWithAudience : List ((ExamId × Exam) × ClassCourseId) :=
  s.exams.flatMap fun row =>
    (s.examAudience.keys.filter fun pair => decide (pair.1 = row.1)).map fun pair => (row, pair.2)

section Exam

variable (visible managed : List ClassCourseId) (window : WindowParams) (page : Page)

/-- The `WHERE` of the subquery, with `$1` and `$2` bound first. -/
def visibleWhere (binds : List Param) (conds : Bounds)
    (joined : (ExamId × Exam) × ClassCourseId) : Bool :=
  (binds[0]?).any (Param.has (ClassCourseId.key joined.2)) &&
    (!joined.1.2.draft ||
      (binds[1]?).any (Param.has (ClassCourseId.key joined.1.2.classCourse))) &&
    conds.keeps binds joined.1

/-- `SELECT DISTINCT ON (e.id) e.* … ORDER BY e.id` -/
def Db.selectVisible (binds : List Param) (conds : Bounds) : List (ExamId × Exam) :=
  Keyed.distinctOn orderKey (Keyed.sortBy orderKey
    ((s.examsWithAudience.filter (visibleWhere binds conds)).map Prod.fst))

def visibilityBinds : List Param :=
  [.texts (visible.map ClassCourseId.key), .texts (managed.map ClassCourseId.key)]

/-- `visible` and `managed` travel together; neither is the read of a manager. -/
def Db.listWindowedExams (visibility : Option (List ClassCourseId × List ClassCourseId)) :
    List (ExamId × Exam) × ℕ :=
  match visibility with
  | none => window.listTable page s.exams
  | some (visible, managed) =>
      let conds := window.bounds 2
      let binds := visibilityBinds visible managed ++ conds.bounds.map .int
      PagedList.run page (conds.order (s.selectVisible binds conds))

def Db.Addressed (row : ExamId × Exam) : Prop :=
  (∃ instance_ ∈ visible, (s.examAudience.lookup (row.1, instance_)).isSome = true) ∧
    (row.2.draft = true → row.2.classCourse ∈ managed)

instance (row : ExamId × Exam) : Decidable (s.Addressed visible managed row) :=
  inferInstanceAs (Decidable (_ ∧ _))

/-- The exams that the reader may see. -/
def Db.addressed : Option (List ClassCourseId × List ClassCourseId) → List (ExamId × Exam)
  | none => s.exams
  | some (visible, managed) =>
      s.exams.filter fun row => decide (s.Addressed visible managed row)

end Exam

def Db.listWindowedEvents (window : WindowParams) (page : Page) : List (EventId × Event) × ℕ :=
  window.listTable page s.events

/-! ## Each row once -/

theorem has_key {id : ClassCourseId} {ids : List ClassCourseId} :
    (Param.texts (ids.map ClassCourseId.key)).has (ClassCourseId.key id) = true ↔ id ∈ ids := by
  have hinj : Function.Injective ClassCourseId.key := fun a b h =>
    congrArg ClassCourseId.mk (Uuid.ext_hyphenated h)
  rw [Param.has, List.contains_iff_mem, List.mem_map_of_injective hinj]

theorem nodup_keys {K V : Type} (table : Table K V) (key : K → String)
    (hkey : Function.Injective key) :
    ((table.entries.map fun row => (row.1, row.2)).map fun row => key row.1).Nodup := by
  rw [List.map_map]
  have hkeys : (table.entries.map Sigma.fst).Nodup := table.nodupKeys
  simpa [Function.comp_def] using hkeys.map hkey

theorem nodup_exams : (s.exams.map orderKey).Nodup :=
  nodup_keys s.exam (fun id => id.uuid.hyphenated) fun _ _ h =>
    congrArg ExamId.mk (Uuid.ext_hyphenated h)

theorem nodup_events : (s.events.map orderKey).Nodup :=
  nodup_keys s.event (fun id => id.uuid.hyphenated) fun _ _ h =>
    congrArg EventId.mk (Uuid.ext_hyphenated h)

theorem mem_examsWithAudience {row : ExamId × Exam} {instance_ : ClassCourseId} :
    (row, instance_) ∈ s.examsWithAudience ↔
      row ∈ s.exams ∧ (s.examAudience.lookup (row.1, instance_)).isSome = true := by
  simp only [Db.examsWithAudience, List.mem_flatMap, List.mem_map, List.mem_filter,
    decide_eq_true_eq, Prod.mk.injEq, AList.lookup_isSome, ← AList.mem_keys]
  constructor
  · rintro ⟨row', hrow, pair, ⟨hpair, hid⟩, rfl, rfl⟩
    exact ⟨hrow, hid ▸ hpair⟩
  · rintro ⟨hrow, hpair⟩
    exact ⟨row, hrow, _, ⟨hpair, rfl⟩, rfl, rfl⟩

variable (visible managed : List ClassCourseId) (window : WindowParams) (page : Page)

theorem visibleWhere_iff (row : ExamId × Exam) (instance_ : ClassCourseId) :
    visibleWhere (visibilityBinds visible managed ++ (window.bounds 2).bounds.map .int)
        (window.bounds 2) (row, instance_) = true ↔
      instance_ ∈ visible ∧ (row.2.draft = true → row.2.classCourse ∈ managed) ∧
        window.retains row = true := by
  have hkeeps := window.keeps_bounds (visibilityBinds visible managed) row
  simp only [visibleWhere, visibilityBinds, List.cons_append, List.nil_append,
    List.length_cons, List.length_nil, List.getElem?_cons_zero, List.getElem?_cons_succ,
    Option.any_some, Bool.and_eq_true, Bool.or_eq_true, Bool.not_eq_true', has_key] at hkeeps ⊢
  rw [hkeeps, and_assoc]
  cases row.2.draft <;> simp

theorem selectVisible_perm :
    (s.selectVisible (visibilityBinds visible managed ++ (window.bounds 2).bounds.map .int)
      (window.bounds 2)).Perm
        ((s.addressed (some (visible, managed))).filter window.retains) := by
  have hinj : ∀ a ∈ s.exams, ∀ b ∈ s.exams, orderKey a = orderKey b → a = b := fun _ ha _ hb =>
    List.inj_on_of_nodup_map (nodup_exams s) ha hb
  have hnodup : s.exams.Nodup := .of_map _ (nodup_exams s)
  have hmem : ∀ row, row ∈ (s.examsWithAudience.filter (visibleWhere
      (visibilityBinds visible managed ++ (window.bounds 2).bounds.map .int)
      (window.bounds 2))).map Prod.fst ↔
        row ∈ (s.addressed (some (visible, managed))).filter window.retains := by
    intro row
    simp only [List.mem_map, List.mem_filter, Prod.exists, exists_and_right, exists_eq_right,
      mem_examsWithAudience, visibleWhere_iff, Db.addressed, decide_eq_true_eq]
    constructor
    · rintro ⟨instance_, ⟨hrow, haudience⟩, hvisible, hdraft, hretains⟩
      exact ⟨⟨hrow, ⟨instance_, hvisible, haudience⟩, hdraft⟩, hretains⟩
    · rintro ⟨⟨hrow, ⟨instance_, hvisible, haudience⟩, hdraft⟩, hretains⟩
      exact ⟨instance_, ⟨hrow, haudience⟩, hvisible, hdraft, hretains⟩
  refine (List.perm_ext_iff_of_nodup (.of_map _ (Keyed.nodup_distinctOn _ _))
    ((hnodup.filter _).filter _)).mpr fun row => ?_
  rw [Keyed.mem_distinctOn_of_inj, Keyed.mem_sortBy]
  · exact hmem row
  intro a ha b hb
  rw [Keyed.mem_sortBy, hmem] at ha hb
  exact hinj a (List.mem_of_mem_filter (List.mem_of_mem_filter ha)) b
    (List.mem_of_mem_filter (List.mem_of_mem_filter hb))

theorem listWindowed_eq_paginate
    (visibility : Option (List ClassCourseId × List ClassCourseId)) :
    ((window.validate.map fun _ => s.listWindowedExams window page visibility) =
      (window.apply (newestFirst (s.addressed visibility))).map fun items =>
        (paginate items (page.limit.map (↑)) page.offset, items.length)) ∧
    ((window.validate.map fun _ => s.listWindowedEvents window page) =
      (window.apply (newestFirst s.events)).map fun items =>
        (paginate items (page.limit.map (↑)) page.offset, items.length)) := by
  refine ⟨?_, window.listTable_eq_apply page (nodup_events s)⟩
  cases visibility with
  | none => exact window.listTable_eq_apply page (nodup_exams s)
  | some both =>
      obtain ⟨visible, managed⟩ := both
      exact window.run_eq_apply 2 page (selectVisible_perm s visible managed window)
        ((nodup_exams s).sublist (List.filter_sublist.map _))

end Hezarfen.WindowedLists
