import Hezarfen.Interleaving
import Hezarfen.YearSteps

/-!
# The catalog and its two membership tiers

A class-delivered course is taught through the sections it is attached to; a club or a
study is joined by one student at a time.  The calls here are the catalog create and
PATCH, attach and detach, the join of a section, and the join and leave of an activity.  The attach
transaction reads the kind under `FOR KEY SHARE`, which an update of the kind does not
wait for, so the read and the insert that commits are two steps; a course row is locked
against its delete in between, and no call here deletes one.
-/

namespace Hezarfen.Courses

open Interleaving
open School

/-- The columns of `course` beside its kind and its section counter. -/
structure CourseDetails where
  creator : UserId
  title : String
  description : String
  courseMembershipCount : ℤ

structure CourseMembership where
  course : CourseId
  user : UserId
  addedBy : UserId
  createdAt : Timestamp

structure Db where
  /-- The class tables and, of `course`, the kind and the section counter. -/
  roster : Roster
  details : Table CourseId CourseDetails
  courseMembership : Table (CourseId × UserId) CourseMembership
  role : Table UserId Role

def Db.empty : Db := ⟨.empty, ∅, ∅, ∅⟩

structure CoursePatch where
  title : Option String
  description : Option String
  kind : Option CourseKind

structure CreateArgs where
  creator : UserId
  title : String
  description : String
  kind : CourseKind

/-- `course::create`: the creator is a foreign key. -/
def create (id : CourseId) (args : CreateArgs) : Tx Db Unit := fun s =>
  if (s.roster.course.lookup id).isSome then .error (.internal "failed to create course")
  else if (s.role.lookup args.creator).isSome then
    .ok ((),
      { s with
        roster := { s.roster with course := s.roster.course.insert id ⟨args.kind, 0⟩ }
        details := s.details.insert id ⟨args.creator, args.title, args.description, 0⟩ })
  else .error .notFound

def CourseDetails.patched (row : CourseDetails) (patch : CoursePatch) : CourseDetails :=
  { row with
    title := patch.title.getD row.title
    description := patch.description.getD row.description }

/-- `course::update`: only the fields of the request are written, and nothing is checked. -/
def update (course : CourseId) (patch : CoursePatch) : Tx Db Unit := fun s =>
  match s.roster.course.lookup course with
  | none => .error .notFound
  | some row =>
      .ok ((),
        { s with
          roster :=
            { s.roster with
              course := s.roster.course.insert course
                { row with kind := patch.kind.getD row.kind } }
          details := Table.update s.details fun id row =>
            if id = course then row.patched patch else row })

/-- `early_verdicts` on the course axis: a refusal, or the kind of the locked course. -/
def earlyVerdicts (r : Roster) (classId : ClassGroupId) (course : CourseId) :
    Except (Attached ClassCourse) CourseKind :=
  if Table.any r.classCourse fun _ row =>
      decide (row.classId = classId) && decide (row.course = course) then .error .duplicate
  else
    match r.course.lookup course with
    | none => .error .pivotGone
    | some taught =>
        if (r.classGroup.lookup classId).any fun row => row.classMemberCount > maxClassMembers then
          .error .classOverloaded
        else .ok taught.kind

def notAttachable : AppError :=
  .validation (.invalid "course"
    "only a ders attaches to a class — a club or etüt is joined individually, not attached")

/-- The rest of the transaction after the kind was accepted: the seat, the instance under its
unique pair, the section counter and the enrollment of the live roster. -/
def attachInsert (r : Roster) (id : ClassCourseId) (pumping : Roster.Pumping) (course : CourseId) :
    Except AppError (Attached ClassCourse × Roster) :=
  match r.classGroup.lookup pumping.classId with
  | none => .ok (.gone, r)
  | some row =>
      if row.classCourseCount < maxClassCourses then
        if (r.classCourse.lookup id).isSome then .error .db
        else if Table.any r.classCourse fun _ row =>
            decide (row.classId = pumping.classId) && decide (row.course = course) then
          .ok (.duplicate, r)
        else
          match r.course.lookup course with
          | none => .ok (.pivotGone, r)
          | some taught =>
              let link : ClassCourse :=
                ⟨pumping.classId, course, pumping.by_, pumping.now, 0⟩
              let linked : Roster :=
                { r with
                  classGroup := r.classGroup.insert pumping.classId
                    { row with classCourseCount := row.classCourseCount + 1 }
                  course := r.course.insert course
                    { taught with classCourseCount := taught.classCourseCount + 1 }
                  classCourse := r.classCourse.insert id link }
              match Roster.enrollPairs pumping linked
                  ((linked.liveMembers pumping.classId).map fun user => (id, user)) with
              | .error instance_ => .ok (.courseGone instance_, r)
              | .ok r' => .ok (.made ((r'.classCourse.lookup id).getD link), r')
      else .ok (.classFull, r)

theorem attach_halves
    (r : Roster) {id : ClassCourseId} (pumping : Roster.Pumping) (course : CourseId)
    (hfresh : r.classCourse.lookup id = none) :
    r.attachCourse id pumping course =
      match earlyVerdicts r pumping.classId course with
      | .error verdict => .ok (verdict, r)
      | .ok kind =>
          if kind.isClassDelivered then attachInsert r id pumping course
          else .error notAttachable := by
  unfold Roster.attachCourse earlyVerdicts attachInsert
  split
  · rfl
  next hnew =>
    cases htaught : r.course.lookup course with
    | none => rfl
    | some taught =>
        dsimp only
        split
        · rfl
        next hroom =>
          dsimp only
          cases hkind : taught.kind.isClassDelivered with
          | false => rfl
          | true =>
              have hnone : (r.classCourse.lookup id).isSome = false := by simp [hfresh]
              cases hclass : r.classGroup.lookup pumping.classId with
              | none => simp
              | some row =>
                  by_cases hseat : row.classCourseCount < maxClassCourses
                  · dsimp only
                    generalize Roster.enrollPairs pumping _ _ = enrolled
                    cases enrolled <;> simp [hseat, hnone]
                  · simp [hseat]

/-! ## Activities -/

/-- What `course_membership::add` settled. -/
inductive Verdict where
  | held
  | unfit
  | made (row : CourseMembership)

/-- The transaction of `add`: it locks the user row and counts the course, and reads no kind. -/
def addTx (course : CourseId) (user addedBy : UserId) (now : Timestamp) : Tx Db Verdict :=
  fun s =>
    if (s.courseMembership.lookup (course, user)).isSome then .ok (.held, s)
    else if s.role.lookup user ≠ some .student then .ok (.unfit, s)
    else
      match s.roster.course.lookup course with
      | none => .error .notFound
      | some _ =>
          if (s.role.lookup addedBy).isSome then
            let row : CourseMembership := ⟨course, user, addedBy, now⟩
            .ok (.made row,
              { s with
                courseMembership := s.courseMembership.insert (course, user) row
                details := Table.update s.details fun id row =>
                  if id = course then
                    { row with courseMembershipCount := row.courseMembershipCount + 1 }
                  else row })
          else .error .db

/-- `course_membership::remove`: the row goes and the counter with it. -/
def remove (course : CourseId) (user : UserId) (s : Db) : Option CourseMembership × Db :=
  match s.courseMembership.lookup (course, user) with
  | none => (none, s)
  | some row =>
      (some row,
        { s with
          courseMembership := s.courseMembership.erase (course, user)
          details := Table.update s.details fun id row =>
            if id = course then
              { row with courseMembershipCount := max (row.courseMembershipCount - 1) 0 }
            else row })

structure World where
  now : Timestamp
  uuid : Uuid
  gates : Option AppError

inductive Request where
  | createUser (user : UserId) (role : Role)
  | createClass
  | create (args : CreateArgs)
  | update (course : CourseId) (patch : CoursePatch)
  | attach (classId : ClassGroupId) (course : CourseId) (by_ : UserId)
  | detach (classId : ClassGroupId) (course : CourseId)
  | addMember (classId : ClassGroupId) (user by_ : UserId)
  | join (course : CourseId) (target by_ : UserId)
  | leave (course : CourseId) (target : UserId)

inductive Point where
  | createUser (user : UserId) (role : Role)
  | createClass
  | create (args : CreateArgs)
  | patchRead (course : CourseId) (patch : CoursePatch)
  | patchWrite (course : CourseId) (patch : CoursePatch)
  | attachRead (classId : ClassGroupId) (course : CourseId) (by_ : UserId)
  | attachInsert (classId : ClassGroupId) (course : CourseId) (by_ : UserId)
  | detach (classId : ClassGroupId) (course : CourseId)
  | addMember (classId : ClassGroupId) (user by_ : UserId)
  | joinRead (course : CourseId) (target by_ : UserId)
  | joinKind (course : CourseId) (target by_ : UserId)
  | joinStudent (course : CourseId) (target by_ : UserId)
  | joinHeld (course : CourseId) (target by_ : UserId)
  | joinTx (course : CourseId) (target by_ : UserId)
  | joinAgain (course : CourseId) (target : UserId)
  | leaveRead (course : CourseId) (target : UserId)
  | leaveRemove (course : CourseId) (target : UserId)

inductive Answer where
  | done
  | attached (verdict : Attached ClassCourse)
  | membership (row : CourseMembership)

abbrev Reply := Next Point (Except AppError Answer)

def refuse (e : AppError) : Reply := .answer (.error e)

def ok (a : Answer) : Reply := .answer (.ok a)

/-- The reply behind the role and the catalog rights of the caller. -/
def gated (w : World) (reply : Reply) : Reply :=
  match w.gates with
  | some e => refuse e
  | none => reply

def settle {α : Type} (reply : α → Reply) (r : Except AppError α × Db) : Db × Reply :=
  match r with
  | (.ok a, s) => (s, reply a)
  | (.error e, s) => (s, refuse e)

def onlyStudents : AppError :=
  .validation (.invalid "user_id" "only students can join a course")

def joinedThroughClass : AppError :=
  .validation (.invalid "course_id"
    "a ders is joined through the class instance that teaches it, not directly")

def createUser (s : Db) (user : UserId) (role : Role) : Db × Reply :=
  if (s.role.lookup user).isSome then (s, refuse .db)
  else ({ s with role := s.role.insert user role }, ok .done)

def createClass (s : Db) (w : World) : Db × Reply :=
  if (s.roster.classGroup.lookup ⟨w.uuid⟩).isSome then (s, refuse .db)
  else
    ({ s with
        roster :=
          { s.roster with classGroup := s.roster.classGroup.insert ⟨w.uuid⟩ ⟨none, 0, 0⟩ } },
      ok .done)

def catalogRead (s : Db) (w : World) (course : CourseId) (next : Point) : Reply :=
  match s.roster.course.lookup course with
  | none => refuse .notFound
  | some _ => gated w (.goto next)

def attachRead (s : Db) (w : World) (classId : ClassGroupId) (course : CourseId)
    (by_ : UserId) : Reply :=
  gated w <|
    match earlyVerdicts s.roster classId course with
    | .error verdict => ok (.attached verdict)
    | .ok kind =>
        if kind.isClassDelivered then .goto (.attachInsert classId course by_)
        else refuse notAttachable

def attachTx (s : Db) (w : World) (classId : ClassGroupId) (course : CourseId)
    (by_ : UserId) : Db × Reply :=
  match attachInsert s.roster ⟨w.uuid⟩ ⟨classId, by_, w.now⟩ course with
  | .error e => (s, refuse e)
  | .ok (verdict, roster) => ({ s with roster := roster }, ok (.attached verdict))

def detach (s : Db) (w : World) (classId : ClassGroupId) (course : CourseId) : Db × Reply :=
  match w.gates with
  | some e => (s, refuse e)
  | none =>
      let r := s.roster.detachCourse classId course
      ({ s with roster := r.2 }, if r.1 then ok .done else refuse .notFound)

def addMember (s : Db) (w : World) (classId : ClassGroupId) (user by_ : UserId) : Db × Reply :=
  match w.gates with
  | some e => (s, refuse e)
  | none =>
      let r := s.roster.addMember (s.role.lookup user) ⟨w.uuid⟩ ⟨classId, by_, w.now⟩ user none
      ({ s with roster := r.2 }, ok .done)

/-- The one gate on the kind: it is read a second time here, before the transaction. -/
def joinKind (s : Db) (course : CourseId) (target by_ : UserId) : Reply :=
  match s.roster.course.lookup course with
  | none => refuse .notFound
  | some row =>
      if row.kind.isClassDelivered then refuse joinedThroughClass
      else .goto (.joinStudent course target by_)

def joinStudent (s : Db) (course : CourseId) (target by_ : UserId) : Reply :=
  match s.role.lookup target with
  | none => refuse (.validation (.invalid "user_id" "target user does not exist"))
  | some role =>
      if role ≠ .student then refuse onlyStudents else .goto (.joinHeld course target by_)

def joinHeld (s : Db) (course : CourseId) (target by_ : UserId) : Reply :=
  match s.courseMembership.lookup (course, target) with
  | some row => ok (.membership row)
  | none => .goto (.joinTx course target by_)

def joined (course : CourseId) (target : UserId) : Verdict → Reply
  | .made row => ok (.membership row)
  | .held => .goto (.joinAgain course target)
  | .unfit => refuse onlyStudents

def joinAgain (s : Db) (course : CourseId) (target : UserId) : Reply :=
  match s.courseMembership.lookup (course, target) with
  | some row => ok (.membership row)
  | none => refuse (.internal "failed to add course membership")

def leaveRemove (s : Db) (course : CourseId) (target : UserId) : Db × Reply :=
  let r := remove course target s
  (r.2, if r.1.isSome then ok .done else refuse .notFound)

def next (_ : ℕ) (s : Db) (p : Point) (w : World) : Option (Db × Reply) :=
  match p with
  | .createUser user role => some (createUser s user role)
  | .createClass => some (createClass s w)
  | .create args =>
      some (settle (fun _ => ok .done) (txWithRetry (create ⟨w.uuid⟩ args) s))
  | .patchRead course patch => some (s, catalogRead s w course (.patchWrite course patch))
  | .patchWrite course patch =>
      some (settle (fun _ => ok .done) (txWithRetry (update course patch) s))
  | .attachRead classId course by_ => some (s, attachRead s w classId course by_)
  | .attachInsert classId course by_ => some (attachTx s w classId course by_)
  | .detach classId course => some (detach s w classId course)
  | .addMember classId user by_ => some (addMember s w classId user by_)
  | .joinRead course target by_ =>
      some (s, catalogRead s w course (.joinKind course target by_))
  | .joinKind course target by_ => some (s, joinKind s course target by_)
  | .joinStudent course target by_ => some (s, joinStudent s course target by_)
  | .joinHeld course target by_ => some (s, joinHeld s course target by_)
  | .joinTx course target by_ =>
      some (settle (joined course target) (txWithRetry (addTx course target by_ w.now) s))
  | .joinAgain course target => some (s, joinAgain s course target)
  | .leaveRead course target => some (s, catalogRead s w course (.leaveRemove course target))
  | .leaveRemove course target => some (leaveRemove s course target)

def entry : Request → Point
  | .createUser user role => .createUser user role
  | .createClass => .createClass
  | .create args => .create args
  | .update course patch => .patchRead course patch
  | .attach classId course by_ => .attachRead classId course by_
  | .detach classId course => .detach classId course
  | .addMember classId user by_ => .addMember classId user by_
  | .join course target by_ => .joinRead course target by_
  | .leave course target => .leaveRead course target

def machine : Machine Db Point Request World (Except AppError Answer) where
  entry := entry
  next := next
  rollback := fun _ s => s

def start : Config Db Point := .initial .empty

end Hezarfen.Courses
