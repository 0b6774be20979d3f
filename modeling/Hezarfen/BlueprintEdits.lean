import Hezarfen.YearCalls

/-!
# Edits of a grade's template

An edit writes the course list while it still reads as the caller's, detaches the courses the
stored list does not justify from the sections its tag reached, and attaches the list to every
section at the grade, one transaction for each section and course.  A pair that does not fit is
skipped and reported.  What the sweep takes is read off the stored list, so that a later edit
finishes one that stopped halfway.
-/

namespace Hezarfen.Blueprints

open School (ClassGroupId CourseId ClassCourseId Refusal)
open Years (Db GradeLevel Landed Section app invalid)

/-- A template as its caller holds it. -/
structure ClassBlueprint where
  gradeLevel : GradeLevel
  courses : List CourseId
  creator : UserId

/-- A section and a course it carries. -/
structure Held where
  classId : ClassGroupId
  course : CourseId

structure Skip where
  classId : ClassGroupId
  className : String
  course : CourseId
  reason : String

/-- How many sections the pump reached, and the pairs that were refused. -/
structure Pumped where
  matched : ℕ
  skipped : List Skip

structure SectionStatus where
  classId : ClassGroupId
  className : String
  missing : List CourseId

/-- What one transaction of a request draws.  A request that has none left has stopped: the
store failed, or the connection was lost. -/
structure Turn where
  id : ClassCourseId
  now : Timestamp

def stopped : Refusal := app .db

/-! ## The list -/

/-- Without duplicates, and no longer than what one section may carry. -/
def courseList (courses : List CourseId) : Except Refusal (List CourseId) :=
  let list := courses.foldl
    (fun list course => if course ∈ list then list else list ++ [course]) []
  if (list.length : ℤ) > School.maxClassCourses then
    .error (invalid "course_ids"
      "a blueprint cannot hold more courses than a class may carry (max_class_courses)")
  else .ok list

def noSuchCourse : Refusal := invalid "course_ids" "one of these courses does not exist"

/-- The junction rows have no order of their own: the comparison sorts both lists. -/
def setCoursesIfUnchanged (s : Db) (grade : GradeLevel) (held wanted : List CourseId) :
    Except Refusal (Option (ClassBlueprint × Db)) :=
  if wanted.any fun course => (s.roster.course.lookup course).isNone then .error noSuchCourse
  else
    match s.classBlueprint.lookup grade with
    | none => .ok none
    | some row =>
        if row.courses.isPerm held then
          .ok (some (⟨grade, wanted, row.creator⟩,
            { s with
              classBlueprint := s.classBlueprint.insert grade
                { row with
                  courses := (row.courses.filter fun course => course ∈ wanted) ++
                    wanted.filter fun course => course ∉ row.courses } }))
        else .ok none

/-- `read`: a stored template. -/
def read (s : Db) (grade : GradeLevel) : Option ClassBlueprint :=
  (s.classBlueprint.lookup grade).map fun row => ⟨grade, row.courses, row.creator⟩

def sourcedLinks (s : Db) (grade : GradeLevel) (keep : List CourseId) : List Held :=
  (s.roster.classCourse.entries.filter fun e =>
    decide ((s.classInstance.lookup e.1).bind Years.Instance.source = some grade) &&
      decide (e.2.course ∉ keep)).map fun e => ⟨e.2.classId, e.2.course⟩

def dropLinks (grade : GradeLevel) : List Turn → List Held → Db → Except Refusal (List Turn) × Db
  | turns, [], s => (.ok turns, s)
  | [], _ :: _, s => (.error stopped, s)
  | _ :: turns, link :: links, s =>
      dropLinks grade turns links
        ((s.detachCourse link.classId link.course (some grade)).getD s)

/-- `Attached::refusal_code` on the course axis; a course that is already there is no skip. -/
def skipReason : Landed → Option String
  | .attached (.made _) => none
  | .attached .duplicate => none
  | .attached .gone => some "class_deleted"
  | .attached .pivotGone => some "course_deleted"
  | .attached .classFull => some "class_at_course_ceiling"
  | .attached .classOverloaded => some "class_roster_too_large"
  | .attached (.courseGone _) => some "linked_course_missing"
  | .sourceGone => some "blueprint_deleted"

structure Run where
  db : Db
  turns : List Turn
  dead : List CourseId
  skipped : List Skip

def Run.attach (run : Run) (grade : GradeLevel) (classId : ClassGroupId) (course : CourseId)
    (by_ : UserId) : Except Refusal Landed × Run :=
  match run.turns with
  | [] => (.error stopped, run)
  | turn :: turns =>
      match run.db.attachSourced turn.id ⟨classId, by_, turn.now⟩ course (some grade) with
      | .error refusal => (.error refusal, { run with turns := turns })
      | .ok (landed, db) => (.ok landed, { run with db := db, turns := turns })

def Run.report (run : Run) (section_ : ClassGroupId × Section) (course : CourseId)
    (landed : Landed) : Run :=
  { run with
    skipped := run.skipped ++ (skipReason landed).toList.map fun reason =>
      ⟨section_.1, section_.2.name, course, reason⟩ }

/-- One section's share; `false` when the template is gone. -/
def applyCourses (grade : GradeLevel) (by_ : UserId) (section_ : ClassGroupId × Section) :
    List CourseId → Run → Except Refusal Bool × Run
  | [], run => (.ok true, run)
  | course :: rest, run =>
      if course ∈ run.dead then applyCourses grade by_ section_ rest run
      else
        match run.attach grade section_.1 course by_ with
        | (.error refusal, run) => (.error refusal, run)
        | (.ok .sourceGone, run) => (.ok false, run.report section_ course .sourceGone)
        | (.ok (.attached .pivotGone), run) =>
            match run.turns with
            | [] => (.error stopped, run)
            | _ :: turns =>
                applyCourses grade by_ section_ rest
                  ({ run with
                    db := run.db.prune grade course
                    turns := turns
                    dead := run.dead ++ [course] }.report section_ course (.attached .pivotGone))
        | (.ok landed, run) =>
            applyCourses grade by_ section_ rest (run.report section_ course landed)

def listForGrade (s : Db) (grade : GradeLevel) : List (ClassGroupId × Section) :=
  (s.classSection.entries.filter fun e => decide (e.2.gradeLevel = grade)).map fun e =>
    (e.1, e.2)

def pump (grade : GradeLevel) (courses : List CourseId) (by_ : UserId) :
    List (ClassGroupId × Section) → ℕ → Run → Except Refusal ℕ × Run
  | [], matched, run => (.ok matched, run)
  | section_ :: rest, matched, run =>
      match applyCourses grade by_ section_ courses run with
      | (.error refusal, run) => (.error refusal, run)
      | (.ok false, run) => (.ok (matched + 1), run)
      | (.ok true, run) => pump grade courses by_ rest (matched + 1) run

/-- A call of `set_courses`, with what its transactions draw. -/
structure Edit where
  turns : List Turn
  blueprint : ClassBlueprint
  courses : List CourseId
  by_ : UserId

def staleError : Refusal :=
  app (.conflict "this blueprint changed since you read it — re-read and retry")

def reconcile (saved : ClassBlueprint) (by_ : UserId) (turns : List Turn) (s : Db) :
    Except Refusal (ClassBlueprint × Pumped) × Db :=
  match dropLinks saved.gradeLevel turns (sourcedLinks s saved.gradeLevel saved.courses) s with
  | (.error refusal, s) => (.error refusal, s)
  | (.ok turns, s) =>
      match pump saved.gradeLevel saved.courses by_ (listForGrade s saved.gradeLevel) 0
          ⟨s, turns, [], []⟩ with
      | (.error refusal, run) => (.error refusal, run.db)
      | (.ok matched, run) =>
          (.ok ({ saved with courses := saved.courses.filter fun course => course ∉ run.dead },
            ⟨matched, run.skipped⟩), run.db)

def setCourses (edit : Edit) (s : Db) : Except Refusal (ClassBlueprint × Pumped) × Db :=
  match courseList edit.courses with
  | .error refusal => (.error refusal, s)
  | .ok wanted =>
      match edit.turns with
      | [] => (.error stopped, s)
      | _ :: turns =>
          match setCoursesIfUnchanged s edit.blueprint.gradeLevel edit.blueprint.courses wanted with
          | .error refusal => (.error refusal, s)
          | .ok none =>
              (.error (if (read s edit.blueprint.gradeLevel).isSome then staleError
                else app .notFound), s)
          | .ok (some (saved, s)) => reconcile saved edit.by_ turns s

def status (s : Db) (blueprint : ClassBlueprint) : List SectionStatus :=
  (listForGrade s blueprint.gradeLevel).map fun section_ =>
    ⟨section_.1, section_.2.name, blueprint.courses.filter fun course =>
      !Table.any s.roster.classCourse fun _ row =>
        decide (row.classId = section_.1) && decide (row.course = course)⟩

end Hezarfen.Blueprints
