import Hezarfen.Boards
import Hezarfen.ExamDomain
import Hezarfen.Patches
import Hezarfen.YearDomain

/-!
# The patches of a course offering

An offering is the template of one course at one grade.  Its four content fields may be
absent, which means inherit.  A `PATCH` names a field or leaves it out, and the statement
writes each column under a present flag.  The weekly hours alone go through a `COALESCE`.
-/

namespace Hezarfen.Offerings

open Boards (validateRequired)
open Exams (validateOptional)
open School (CourseId)
open Years (GradeLevel)

structure CourseOfferingId where
  uuid : Uuid
  deriving DecidableEq

def maxCourseTitleLen : ℕ := 200

def maxCourseDescriptionLen : ℕ := 2000

def minDersSaati : ℤ := 1

def maxDersSaati : ℤ := 40

structure CourseTitle where
  asStr : String
  valid : validateRequired "title" asStr maxCourseTitleLen = .ok ()
  deriving DecidableEq

def CourseTitle.tryNew (value : String) : Except ValidationError CourseTitle :=
  match h : validateRequired "title" value maxCourseTitleLen with
  | .error e => .error e
  | .ok () => .ok ⟨value, h⟩

structure CourseDescription where
  asStr : String
  valid : validateOptional "description" asStr maxCourseDescriptionLen = .ok ()
  deriving DecidableEq

def CourseDescription.tryNew (value : String) : Except ValidationError CourseDescription :=
  match h : validateOptional "description" value maxCourseDescriptionLen with
  | .error e => .error e
  | .ok () => .ok ⟨value, h⟩

structure DersSaati where
  asI64 : ℤ
  lower : minDersSaati ≤ asI64
  upper : asI64 ≤ maxDersSaati
  deriving DecidableEq

def DersSaati.tryNew (value : ℤ) : Except ValidationError DersSaati :=
  if h : minDersSaati ≤ value ∧ value ≤ maxDersSaati then .ok ⟨value, h.1, h.2⟩
  else .error (.invalid "ders_saati" "must be between 1 and 40 weekly hours")

structure CourseOffering where
  course : CourseId
  gradeLevel : GradeLevel
  title : Option CourseTitle
  description : Option CourseDescription
  defaultDersSaati : Option DersSaati
  defaultCountsTowardKarne : Option Bool
  createdBy : UserId
  createdAt : Timestamp
  updatedAt : Timestamp
  deriving DecidableEq

/-- The body of the `PATCH`: an absent field, a null or a value. -/
structure UpdateOffering where
  title : Option (Option String)
  description : Option (Option String)
  defaultDersSaati : Option (Option ℤ)
  defaultCountsTowardKarne : Option (Option Bool)

/-- The arguments of `update`. -/
structure OfferingPatch where
  title : Option (Option CourseTitle)
  description : Option (Option CourseDescription)
  defaultDersSaati : Option (Option DersSaati)
  defaultCountsTowardKarne : Option (Option Bool)

def named {α β : Type} (tryNew : α → Except ValidationError β) :
    Option (Option α) → Except ValidationError (Option (Option β))
  | none => .ok none
  | some none => .ok (some none)
  | some (some value) => (tryNew value).map fun checked => some (some checked)

/-- The checks of `update_offering`, in the order of the handler. -/
def UpdateOffering.check (req : UpdateOffering) : Except ValidationError OfferingPatch := do
  let title ← named CourseTitle.tryNew req.title
  let description ← named CourseDescription.tryNew req.description
  let staff ← named DersSaati.tryNew req.defaultDersSaati
  return ⟨title, description, staff, req.defaultCountsTowardKarne⟩

/-- `CASE WHEN present THEN value ELSE column END`. -/
def caseWhen {α : Type} (present : Bool) (value column : Option α) : Option α :=
  if present then value else column

/-- The `SET` of the statement. -/
def OfferingPatch.set (patch : OfferingPatch) (now : Timestamp) (row : CourseOffering) :
    CourseOffering :=
  { row with
    title := caseWhen patch.title.isSome patch.title.join row.title
    description := caseWhen patch.description.isSome patch.description.join row.description
    defaultDersSaati := caseWhen patch.defaultDersSaati.isSome
      (patch.defaultDersSaati.join.or row.defaultDersSaati) row.defaultDersSaati
    defaultCountsTowardKarne := caseWhen patch.defaultCountsTowardKarne.isSome
      patch.defaultCountsTowardKarne.join row.defaultCountsTowardKarne
    updatedAt := now }

def OfferingPatch.isEmpty (patch : OfferingPatch) : Bool :=
  patch.title.isNone && patch.description.isNone && patch.defaultDersSaati.isNone &&
    patch.defaultCountsTowardKarne.isNone

/-- `course_offering` -/
abbrev Rows : Type := Table CourseOfferingId CourseOffering

def update (rows : Rows) (id : CourseOfferingId) (patch : OfferingPatch) (now : Timestamp) :
    Except AppError CourseOffering × Rows :=
  match rows.lookup id with
  | none => (.error .notFound, rows)
  | some row =>
      if patch.isEmpty then (.ok row, rows)
      else (.ok (patch.set now row), rows.insert id (patch.set now row))

/-- `PATCH /offerings/{id}` -/
def updateOffering (rows : Rows) (id : CourseOfferingId) (req : UpdateOffering)
    (now : Timestamp) : Except AppError CourseOffering × Rows :=
  match req.check with
  | .error e => (.error (.validation e), rows)
  | .ok patch => update rows id patch now

/-! ## The four columns -/

/-- The patchable columns. -/
structure Template where
  title : Option CourseTitle
  description : Option CourseDescription
  defaultDersSaati : Option DersSaati
  defaultCountsTowardKarne : Option Bool
  deriving DecidableEq

def CourseOffering.template (row : CourseOffering) : Template :=
  ⟨row.title, row.description, row.defaultDersSaati, row.defaultCountsTowardKarne⟩

def Template.patched (template : Template) (patch : OfferingPatch) : Template :=
  { title := Patch.apply template.title patch.title
    description := Patch.apply template.description patch.description
    defaultDersSaati := Patch.apply template.defaultDersSaati patch.defaultDersSaati
    defaultCountsTowardKarne :=
      Patch.apply template.defaultCountsTowardKarne patch.defaultCountsTowardKarne }

/-- What the statement writes. -/
def Template.written (template : Template) (patch : OfferingPatch) : Template :=
  { template.patched patch with
    defaultDersSaati := Patch.coalesce template.defaultDersSaati patch.defaultDersSaati }

def accepted (reqs : List (UpdateOffering × Timestamp)) : List OfferingPatch :=
  reqs.filterMap fun req => req.1.check.toOption

def serve (rows : Rows) (id : CourseOfferingId) (reqs : List (UpdateOffering × Timestamp)) :
    Rows :=
  reqs.foldl (fun rows req => (updateOffering rows id req.1 req.2).2) rows

variable {rows : Rows} {id : CourseOfferingId} {row : CourseOffering}

theorem caseWhen_named {α : Type} (patch : Option (Option α)) (column : Option α) :
    caseWhen patch.isSome patch.join column = Patch.apply column patch := by
  cases patch <;> rfl

theorem caseWhen_coalesced {α : Type} (patch : Option (Option α)) (column : Option α) :
    caseWhen patch.isSome (patch.join.or column) column = Patch.coalesce column patch := by
  cases patch <;> rfl

theorem template_set (patch : OfferingPatch) (now : Timestamp) (row : CourseOffering) :
    (patch.set now row).template = row.template.written patch := by
  simp only [OfferingPatch.set, CourseOffering.template, Template.written, Template.patched,
    caseWhen_named, caseWhen_coalesced]

theorem written_of_isEmpty {patch : OfferingPatch} (h : patch.isEmpty = true)
    (template : Template) : template.written patch = template := by
  obtain ⟨title, description, defaultDersSaati, defaultCountsTowardKarne⟩ := patch
  simp only [OfferingPatch.isEmpty, Bool.and_eq_true, Option.isNone_iff_eq_none] at h
  obtain ⟨⟨⟨rfl, rfl⟩, rfl⟩, rfl⟩ := h
  rfl

theorem lookup_update (hrow : rows.lookup id = some row) (patch : OfferingPatch)
    (now : Timestamp) :
    ∃ row', (update rows id patch now).2.lookup id = some row' ∧
      row'.template = row.template.written patch := by
  unfold update
  rw [hrow]
  dsimp only
  split
  · next hempty => exact ⟨row, hrow, (written_of_isEmpty hempty _).symm⟩
  · exact ⟨_, AList.lookup_insert _, template_set patch now row⟩

theorem lookup_serve (hrow : rows.lookup id = some row)
    (reqs : List (UpdateOffering × Timestamp)) :
    ∃ row', (serve rows id reqs).lookup id = some row' ∧
      row'.template = (accepted reqs).foldl Template.written row.template := by
  induction reqs generalizing rows row with
  | nil => exact ⟨row, hrow, rfl⟩
  | cons req reqs ih =>
      cases hcheck : req.1.check with
      | error =>
          have hkept : (updateOffering rows id req.1 req.2).2 = rows := by
            simp [updateOffering, hcheck]
          have haccepted : accepted (req :: reqs) = accepted reqs := by
            simp [accepted, hcheck, Except.toOption]
          rw [haccepted]
          simpa only [serve, List.foldl_cons, hkept] using ih hrow
      | ok patch =>
          have hsent : updateOffering rows id req.1 req.2 = update rows id patch req.2 := by
            simp [updateOffering, hcheck]
          have haccepted : accepted (req :: reqs) = patch :: accepted reqs := by
            simp [accepted, hcheck, Except.toOption]
          obtain ⟨row', hrow', htemplate⟩ := lookup_update hrow patch req.2
          rw [haccepted, List.foldl_cons, ← htemplate]
          simpa only [serve, List.foldl_cons, hsent] using ih hrow'

theorem foldl_written (patches : List OfferingPatch) (template : Template) :
    patches.foldl Template.written template =
      { patches.foldl Template.patched template with
        defaultDersSaati := (patches.map OfferingPatch.defaultDersSaati).foldl Patch.coalesce
          template.defaultDersSaati } := by
  induction patches using List.reverseRecOn with
  | nil => rfl
  | append_singleton patches patch ih =>
      simp only [List.foldl_append, List.foldl_cons, List.foldl_nil, List.map_append,
        List.map_cons, List.map_nil, ih]
      rfl

theorem defaultDersSaati_foldl_patched (patches : List OfferingPatch) (template : Template) :
    (patches.foldl Template.patched template).defaultDersSaati =
      (patches.map OfferingPatch.defaultDersSaati).foldl Patch.apply template.defaultDersSaati := by
  induction patches using List.reverseRecOn with
  | nil => rfl
  | append_singleton patches patch ih =>
      simp only [List.foldl_append, List.foldl_cons, List.foldl_nil, List.map_append,
        List.map_cons, List.map_nil, ← ih]
      rfl

theorem Template.hours_eq_iff (template : Template) (hours : Option DersSaati) :
    { template with defaultDersSaati := hours } = template ↔
      hours = template.defaultDersSaati := by
  cases template
  simp

/-- The four columns after a sequence of requests are the fold of the accepted patches, if
and only if a last word on the weekly hours that is a null finds them unset all along. -/
theorem template_eq_patched_iff (hrow : rows.lookup id = some row)
    (reqs : List (UpdateOffering × Timestamp)) :
    ((serve rows id reqs).lookup id).map CourseOffering.template =
        some ((accepted reqs).foldl Template.patched row.template) ↔
      (Patch.lastWord ((accepted reqs).map OfferingPatch.defaultDersSaati) = some none →
        Patch.Empty row.defaultDersSaati
          ((accepted reqs).map OfferingPatch.defaultDersSaati)) := by
  obtain ⟨row', hrow', htemplate⟩ := lookup_serve hrow reqs
  rw [hrow', Option.map_some, Option.some.injEq, htemplate, foldl_written,
    Template.hours_eq_iff, defaultDersSaati_foldl_patched]
  exact Patch.foldl_coalesce_eq_apply_iff

section Sample

def ayse : UserId := ⟨.ending "0301"⟩

def algebra : CourseId := ⟨.ending "0302"⟩

def ninth : CourseOfferingId := ⟨.ending "0303"⟩

def fiveHours : CourseOffering :=
  { course := algebra
    gradeLevel := .ninth
    title := none
    description := none
    defaultDersSaati := some ⟨5, by decide, by decide⟩
    defaultCountsTowardKarne := none
    createdBy := ayse
    createdAt := 0
    updatedAt := 0 }

def sample : Rows := (∅ : Rows).insert ninth fiveHours

def inheritHours : UpdateOffering := ⟨none, none, some none, none⟩

def threeHours : UpdateOffering := ⟨some (some "Cebir"), none, some (some 3), none⟩

theorem template_eq_patched_iff_threeHours :
    ((serve sample ninth [(inheritHours, 1), (threeHours, 2)]).lookup ninth).map
        CourseOffering.template =
        some ((accepted [(inheritHours, 1), (threeHours, 2)]).foldl Template.patched
          fiveHours.template) ↔
      (Patch.lastWord ((accepted [(inheritHours, 1), (threeHours, 2)]).map
          OfferingPatch.defaultDersSaati) = some none →
        Patch.Empty fiveHours.defaultDersSaati
          ((accepted [(inheritHours, 1), (threeHours, 2)]).map
            OfferingPatch.defaultDersSaati)) :=
  template_eq_patched_iff (rfl : sample.lookup ninth = some fiveHours) _

/-- A null leaves the five hours in place. -/
theorem null_hours_kept :
    sample.lookup ninth = some fiveHours ∧
    ((serve sample ninth [(inheritHours, 1)]).lookup ninth).map CourseOffering.template =
      some fiveHours.template ∧
    ((accepted [(inheritHours, 1)]).foldl Template.patched
      fiveHours.template).defaultDersSaati = none := by
  decide

end Sample

end Hezarfen.Offerings
