import Mathlib.Algebra.Order.Field.Rat
import Mathlib.Data.Prod.Lex
import Mathlib.Order.OrderDual
import Hezarfen.ExamWeights

/-!
# Marks reports and report cards

A student's marks are shown twice.  The marks report has a block for each instance of
the sections the student is live in; the report card of a term has a line for each of
these instances that lies in the term's year and counts.  Each has queries and sums of
its own.  A mark counts under every instance its exam is addressed to, and only the
latest sitting counts.
-/

namespace Hezarfen.Marks

open School (ClassGroupId CourseId ClassCourseId ClassMemberId ClassMember)
open Years (AcademicYearId CourseOfferingId)
open Exams (ExamId TermId ExamResult ExamResultId Mark)
open SchoolSettings (GradeBand Settings)

structure Course where
  title : String
  description : String

structure CourseOffering where
  title : Option String
  description : Option String
  defaultDersSaati : Option ℤ
  defaultCountsTowardKarne : Option Bool

structure ClassCourse extends Overrides.ClassCourse where
  classGroup : ClassGroupId
  attachedAt : Timestamp

structure Exam where
  term : TermId
  title : String
  kind : String

structure Graded where
  mark : Mark
  gradedBy : UserId

structure Db where
  weights : ExamWeights.Weights
  course : Table CourseId Course
  courseOffering : Table CourseOfferingId CourseOffering
  /-- With the year the section is in. -/
  classGroup : Table ClassGroupId (Option AcademicYearId)
  classMember : Table ClassMemberId ClassMember
  classCourse : Table ClassCourseId ClassCourse
  exam : Table ExamId Exam
  examAudience : Table (ExamId × ClassCourseId) Unit
  examResult : Table ExamResultId Graded

structure Store extends Db where
  course_of : ∀ i row, classCourse.lookup i = some row → (course.lookup row.course).isSome
  offering_of : ∀ i row, classCourse.lookup i = some row →
    (courseOffering.lookup row.offering).isSome
  exam_of : ∀ id graded, examResult.lookup id = some graded → (exam.lookup id.exam).isSome

/-- `list_for_user`: the live stints, newest first. -/
def listForUser (s : Db) (user : UserId) : List ClassMember :=
  (Keyed.sortBy
    (fun row => toLex (OrderDual.toDual row.2.joinedAt, OrderDual.toDual row.1.uuid.hyphenated))
    ((s.classMember.entries.map fun row => (row.1, row.2)).filter fun row =>
      decide (row.2.user = user ∧ row.2.leftAt = none))).map Prod.snd

/-- `list_by_ids`, with the year of each section. -/
def listByIds (s : Db) (ids : List ClassGroupId) : List (ClassGroupId × Option AcademicYearId) :=
  (s.classGroup.entries.map fun row => (row.1, row.2)).filter fun row => decide (row.1 ∈ ids)

def listForClassIds (s : Db) (classes : List ClassGroupId) : List (ClassCourseId × ClassCourse) :=
  Keyed.sortBy
    (fun row => toLex (OrderDual.toDual row.2.attachedAt, OrderDual.toDual row.1.uuid.hyphenated))
    ((s.classCourse.entries.map fun row => (row.1, row.2)).filter fun row =>
      decide (row.2.classGroup ∈ classes))

def addressed (s : Db) (exam : ExamId) (i : ClassCourseId) : Bool :=
  (s.examAudience.lookup (exam, i)).isSome

/-- `DISTINCT ON (e.id)` over the join with the audience: each exam once, newest first. -/
def examsFor (s : Db) (instances : List ClassCourseId) : List (ExamId × Exam) :=
  Keyed.sortBy (fun row => OrderDual.toDual row.1.uuid.hyphenated)
    ((s.exam.entries.map fun row => (row.1, row.2)).filter fun row =>
      instances.any fun i => addressed s row.1 i)

def listForClassCourse (s : Db) (i : ClassCourseId) : List (ExamId × Exam) := examsFor s [i]

def listForClassCourseCourses (s : Db) (instances : List ClassCourseId) : List (ExamId × Exam) :=
  if instances.isEmpty then [] else examsFor s instances

/-- The rows of `exam_result` as the queries select them. -/
def results (s : Db) : List ExamResult :=
  s.examResult.entries.map fun row =>
    ⟨row.1.exam, row.1.user, row.1.seq, row.2.mark, row.2.gradedBy⟩

def latestPerPair (rows : List ExamResult) : List ExamResult :=
  Keyed.latest (fun row => (row.exam, row.user)) ExamResult.seq rows

def rowsInCourse (s : Db) (i : ClassCourseId) (user : UserId) : List ExamResult :=
  Keyed.sortBy (fun row => toLex (OrderDual.toDual row.exam.key, OrderDual.toDual row.seq))
    ((results s).filter fun row => decide (row.user = user) && addressed s row.exam i)

def listForUserInCourse (s : Db) (i : ClassCourseId) (user : UserId) : List ExamResult :=
  latestPerPair (rowsInCourse s i user)

def rowsInTerm (s : Db) (user : UserId) (term : TermId) (instances : List ClassCourseId) :
    List (ClassCourseId × ExamResult) :=
  Keyed.sortBy
    (fun row => toLex (row.1.uuid.hyphenated,
      toLex (OrderDual.toDual row.2.exam.key, OrderDual.toDual row.2.seq)))
    ((results s).flatMap fun row =>
      ((s.examAudience.entries.map fun entry => entry.1).filter fun audience =>
        decide (audience.1 = row.exam ∧ audience.2 ∈ instances ∧ row.user = user ∧
          (s.exam.lookup row.exam).any fun exam => decide (exam.term = term))).map
        fun audience => (audience.2, row))

/-- `DISTINCT ON (a.class_course, r.exam)` -/
def listForUserInTerm (s : Db) (user : UserId) (term : TermId)
    (instances : List ClassCourseId) : List (ClassCourseId × ExamResult) :=
  if instances.isEmpty then []
  else Keyed.distinctOn (fun row => (row.1, row.2.exam)) (rowsInTerm s user term instances)

def minDersSaati : ℤ := 1

structure InstancePolicy where
  dersSaati : ℤ
  countsTowardKarne : Bool

def resolvePolicy (s : Db) (row : ClassCourse) : Except AppError InstancePolicy :=
  match s.courseOffering.lookup row.offering with
  | none => .error .notFound
  | some offering => .ok
      { dersSaati := (row.dersSaati.or offering.defaultDersSaati).getD minDersSaati
        countsTowardKarne :=
          (row.countsTowardKarne.or offering.defaultCountsTowardKarne).getD true }

structure ResolvedContent where
  title : String
  description : String

/-- `resolved_content` of one instance. -/
def resolvedContent (s : Db) (row : ClassCourse) : ResolvedContent :=
  let template := s.courseOffering.lookup row.offering
  let catalog := s.course.lookup row.course
  { title := ((row.title.or (template.bind CourseOffering.title)).or
      (catalog.map Course.title)).getD ""
    description := ((row.description.or (template.bind CourseOffering.description)).or
      (catalog.map Course.description)).getD "" }

def resolveWeight (s : Db) (i : ClassCourseId) (row : ClassCourse) (kind : String) : ℤ :=
  ExamWeights.resolve s.weights i row.toClassCourse kind

/-- `Σ(mark×weight) / Σ(weight)` -/
def weightedAverage (pairs : List (ℤ × ℤ)) : Option ℚ :=
  let totalWeight := (pairs.map Prod.snd).sum
  if totalWeight = 0 then none
  else some (((pairs.map fun pair => pair.1 * pair.2).sum : ℤ) / (totalWeight : ℤ))

/-- The report card's own copy of `weighted_average`. -/
def Karne.weightedAverage (pairs : List (ℤ × ℤ)) : Option ℚ :=
  let totalWeight := (pairs.map Prod.snd).sum
  if totalWeight = 0 then none
  else
    let total : ℤ := (pairs.map fun pair => pair.1 * pair.2).sum
    some ((total : ℚ) / (totalWeight : ℚ))

def mean (averages : List ℚ) : Option ℚ :=
  if averages.isEmpty then none else some (averages.sum / averages.length)

def dersSaatiAverage (weighted : List (ℚ × ℤ)) : Option ℚ :=
  let totalWeight := (weighted.map Prod.snd).sum
  if totalWeight = 0 then none
  else some ((weighted.map fun pair => pair.1 * (pair.2 : ℚ)).sum / (totalWeight : ℤ))

/-- The band with the greatest `min` at or below the mark. -/
def gradeLabel (school : Settings) (mark : ℚ) : Option String :=
  ((school.gradeBands.filter fun band => decide ((band.min : ℚ) ≤ mark)).foldl
    (fun best band =>
      match best with
      | none => some band
      | some other => if other.min ≤ band.min then some band else some other)
    none).map GradeBand.label

/-- The passing floor is the band labelled `2`, else the lowest that demands something. -/
def verdict (school : Settings) (average : Option ℚ) : Option String := do
  let average ← average
  let floor ← (school.gradeBands.find? fun band => decide (band.label = "2")).or
    ((school.gradeBands.filter fun band => decide (0 < band.min)).foldl
      (fun best band =>
        match best with
        | none => some band
        | some other => if band.min < other.min then some band else some other)
      none)
  return if (floor.min : ℚ) ≤ average then "gecti" else "kaldi"

structure MarkEntry where
  exam : ExamId
  title : String
  kind : String
  weight : ℤ
  mark : ℤ
  grade : Option String
  gradedBy : UserId

structure CourseMarks where
  classCourse : ClassCourseId
  course : CourseId
  content : ResolvedContent
  results : List MarkEntry
  average : Option ℚ
  averageGrade : Option String

structure MarksReport where
  user : UserId
  courses : List CourseMarks
  overallAverage : Option ℚ
  overallGrade : Option String

def enrolledInstances (s : Db) (user : UserId) : List (ClassCourseId × ClassCourse) :=
  listForClassIds s ((listForUser s user).map ClassMember.classId)

def markEntry (s : Db) (i : ClassCourseId) (row : ClassCourse) (exams : List (ExamId × Exam))
    (result : ExamResult) : Option MarkEntry :=
  (exams.find? fun exam => decide (exam.1 = result.exam)).map fun exam =>
    { exam := exam.1
      title := exam.2.title
      kind := exam.2.kind
      weight := resolveWeight s i row exam.2.kind
      mark := result.mark.asI64
      grade := gradeLabel s.weights.school result.mark.asI64
      gradedBy := result.gradedBy }

def courseMarks (s : Db) (user : UserId) (i : ClassCourseId) (row : ClassCourse) :
    Option CourseMarks :=
  let entries := (listForUserInCourse s i user).filterMap
    (markEntry s i row (listForClassCourse s i))
  let average := weightedAverage (entries.map fun entry => (entry.mark, entry.weight))
  (s.course.lookup row.course).map fun _ =>
    { classCourse := i
      course := row.course
      content := resolvedContent s row
      results := entries
      average := average
      averageGrade := average.bind (gradeLabel s.weights.school) }

/-- `viewer` says which instances a narrowed caller runs. -/
def buildReport (s : Db) (user : UserId) (viewer : Option (ClassCourseId → Bool)) : MarksReport :=
  let instances := (enrolledInstances s user).filter fun row =>
    viewer.all fun runs => runs row.1
  let blocks := instances.filterMap fun row => courseMarks s user row.1 row.2
  let overall := mean (blocks.filterMap CourseMarks.average)
  { user := user
    courses := blocks
    overallAverage := overall
    overallGrade := overall.bind (gradeLabel s.weights.school) }

structure KarneInstance where
  classCourse : ClassCourseId
  course : String
  dersSaati : ℤ
  average : Option ℚ
  band : Option String

structure KarneReport where
  user : UserId
  term : TermId
  instances : List KarneInstance
  yearAverage : Option ℚ
  verdict : Option String

def sectionsOfYear (s : Db) (user : UserId) (year : AcademicYearId) : List ClassGroupId :=
  ((listByIds s ((listForUser s user).map ClassMember.classId)).filter fun row =>
    decide (row.2 = some year)).map Prod.fst

def counted (s : Db) (user : UserId) (year : AcademicYearId) :
    Except AppError (List ((ClassCourseId × ClassCourse) × InstancePolicy)) := do
  let resolved ← (listForClassIds s (sectionsOfYear s user year)).mapM fun row => do
    let policy ← resolvePolicy s row.2
    return (row, policy)
  return resolved.filter fun row => row.2.countsTowardKarne

def linePair (s : Db) (i : ClassCourseId) (row : ClassCourse) (exams : List (ExamId × Exam))
    (result : ClassCourseId × ExamResult) : Option (ℤ × ℤ) :=
  if result.1 ≠ i then none
  else
    (exams.find? fun exam => decide (exam.1 = result.2.exam)).map fun exam =>
      (result.2.mark.asI64, resolveWeight s i row exam.2.kind)

def karneLine (s : Db) (exams : List (ExamId × Exam))
    (results : List (ClassCourseId × ExamResult))
    (line : (ClassCourseId × ClassCourse) × InstancePolicy) : KarneInstance :=
  let average := Karne.weightedAverage (results.filterMap (linePair s line.1.1 line.1.2 exams))
  { classCourse := line.1.1
    course := (resolvedContent s line.1.2).title
    dersSaati := line.2.dersSaati
    average := average
    band := average.bind (gradeLabel s.weights.school) }

def compute (s : Db) (user : UserId) (term : TermId) (year : AcademicYearId) :
    Except AppError KarneReport := do
  let counted ← counted s user year
  let instances := counted.map fun line => line.1.1
  let exams := (listForClassCourseCourses s instances).filter fun exam =>
    decide (exam.2.term = term)
  let results := listForUserInTerm s user term instances
  let lines := counted.map (karneLine s exams results)
  let yearAverage := dersSaatiAverage (lines.filterMap fun line =>
    line.average.map fun average => (average, line.dersSaati))
  return {
    user := user
    term := term
    instances := lines
    yearAverage := yearAverage
    verdict := verdict s.weights.school yearAverage }

end Hezarfen.Marks
