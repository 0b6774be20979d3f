import Hezarfen.Interleaving
import Hezarfen.RosterStore
import Hezarfen.Snapshots
import Hezarfen.YearDomain

/-!
# The pump, statement by statement

An attach on either axis is one transaction: the checks that settle a refusal before any
counter moves, the claim of a seat fused with the insert of the link, and one enrollment for
each pair the link implies.  A verdict commits, an error rolls back; a statement that failed
has aborted its transaction, so that a verdict after it commits nothing, and a refusal found
after some pairs were written travels as an error.  Any other transaction is in the model as
an arbitrary series of row writes.
-/

namespace Hezarfen.ClassPump

open Interleaving ReadCommitted
open School
open School.Roster (Pumping isLiveStint)
open Years (CourseOfferingId GradeLevel Instance)

structure ClassGroup extends School.ClassGroup, Years.Section

structure ClassCourse extends School.ClassCourse, Years.Instance
  deriving DecidableEq

abbrev Pair := ClassCourseId × UserId

structure Db where
  appUser : Rows UserId Role
  /-- By the grade, which names the template. -/
  classBlueprint : Rows GradeLevel Years.ClassBlueprint
  /-- With the actor whose attach asked for the template. -/
  courseOffering : Rows CourseOfferingId UserId
  classGroup : Rows ClassGroupId ClassGroup
  course : Rows CourseId Course
  classCourse : Rows ClassCourseId ClassCourse
  classMember : Rows ClassMemberId ClassMember
  enrollment : Rows Pair Enrollment

def Db.commit (tx : ℕ) (s : Db) : Db :=
  ⟨s.appUser.commit tx, s.classBlueprint.commit tx, s.courseOffering.commit tx,
    s.classGroup.commit tx, s.course.commit tx, s.classCourse.commit tx, s.classMember.commit tx,
    s.enrollment.commit tx⟩

def Db.rollback (tx : ℕ) (s : Db) : Db :=
  ⟨s.appUser.rollback tx, s.classBlueprint.rollback tx, s.courseOffering.rollback tx,
    s.classGroup.rollback tx, s.course.rollback tx, s.classCourse.rollback tx,
    s.classMember.rollback tx, s.enrollment.rollback tx⟩

/-- `add_member_sourced`, with the identifier and the time drawn before the transaction. -/
structure AddMember where
  id : ClassMemberId
  classId : ClassGroupId
  user : UserId
  by_ : UserId
  source : Option ClassGroupId
  joinedAt : Timestamp

def AddMember.row (job : AddMember) : ClassMember :=
  ⟨job.classId, job.user, job.by_, job.joinedAt, none, job.source⟩

/-- `attach_course` -/
structure AttachCourse where
  id : ClassCourseId
  classId : ClassGroupId
  course : CourseId
  by_ : UserId
  source : Option GradeLevel
  attachedAt : Timestamp

def AttachCourse.row (job : AttachCourse) (offering : CourseOfferingId) : ClassCourse where
  toClassCourse := ⟨job.classId, job.course, job.by_, job.attachedAt, 0⟩
  toInstance := .fresh job.source offering

/-- The link that a call wrote. -/
inductive Link where
  | member (id : ClassMemberId) (row : ClassMember)
  | course (id : ClassCourseId) (row : ClassCourse)
  deriving DecidableEq

inductive Attached where
  | made (link : Link)
  | duplicate
  | gone
  | pivotGone
  | classFull
  | classOverloaded
  | courseGone (instance_ : ClassCourseId)
  | sourceGone
  deriving DecidableEq

def Attached.isMade : Attached → Bool
  | .made _ => true
  | _ => false

/-- One statement of some other transaction. -/
inductive Act where
  | appUser (k : UserId) (version : Option Role)
  | classBlueprint (k : GradeLevel) (version : Option Years.ClassBlueprint)
  | courseOffering (k : CourseOfferingId) (version : Option UserId)
  | classGroup (k : ClassGroupId) (version : Option ClassGroup)
  | course (k : CourseId) (version : Option Course)
  | classCourse (k : ClassCourseId) (version : Option ClassCourse)
  | classMember (k : ClassMemberId) (version : Option ClassMember)
  | enrollment (k : Pair) (version : Option Enrollment)
  | commit
  | rollback

inductive Request where
  | addMember (job : AddMember)
  | attachCourse (job : AttachCourse)
  /-- A transaction that is not of the pump. -/
  | other

inductive Point where
  | liveStint (job : AddMember)
  | lockUser (job : AddMember)
  | courseLoad (job : AddMember)
  | seatMember (job : AddMember)
  | instances (job : AddMember)
  | heldCourse (job : AttachCourse)
  | lockSource (job : AttachCourse) (source : GradeLevel)
  | lockCourse (job : AttachCourse)
  | memberLoad (job : AttachCourse) (kind : CourseKind)
  | lockGrade (job : AttachCourse)
  | ensureOffering (job : AttachCourse) (grade : GradeLevel)
  | seatCourse (job : AttachCourse) (offering : CourseOfferingId)
  | countSection (job : AttachCourse) (offering : CourseOfferingId)
  | members (job : AttachCourse) (offering : CourseOfferingId)
  /-- The read that tells a full section from one that is gone. -/
  | standing (classId : ClassGroupId)
  | held (link : Link) (pumping : Pumping) (pairs : List Pair)
  | claim (link : Link) (pumping : Pumping) (pair : Pair) (pairs : List Pair)
  | insert (link : Link) (pumping : Pumping) (pair : Pair) (pairs : List Pair)
  | giveBack (link : Link) (pumping : Pumping) (pair : Pair) (pairs : List Pair)
  | other

structure World where
  fault : Bool
  now : Timestamp
  act : Act

inductive Answer where
  | settled (outcome : Attached)
  | failed (e : AppError)
  | other
  deriving DecidableEq

abbrev Reply := Next Point Answer

/-- Any `Ok` of the closure commits. -/
def settle (tx : ℕ) (s : Db) (outcome : Attached) : Db × Reply :=
  (s.commit tx, .answer (.settled outcome))

/-- A verdict on a statement that failed: the commit of an aborted transaction undoes it.  A
marked error is mapped to its verdict after the rollback, which is the same. -/
def abort (tx : ℕ) (s : Db) (outcome : Attached) : Db × Reply :=
  (s.rollback tx, .answer (.settled outcome))

def fail (tx : ℕ) (s : Db) (e : AppError) : Db × Reply :=
  (s.rollback tx, .answer (.failed e))

/-! ## The member axis -/

/-- The insert fused with the claim, once the claim has its row. -/
def insertMember (tx : ℕ) (s : Db) (job : AddMember) (seated : Rows ClassGroupId ClassGroup) :
    Option (Db × Reply) :=
  if s.classMember.contested tx (isLiveStint job.classId job.user) then none
  else if s.classMember.taken tx (isLiveStint job.classId job.user) then
    some (abort tx s .duplicate)
  else if ((s.appUser.row job.user).seen tx).isNone ∨ ((s.appUser.row job.by_).seen tx).isNone ∨
      (job.source.any fun source => ((s.classGroup.row source).seen tx).isNone) then
    some (abort tx s .pivotGone)
  else if (s.classMember.lookup job.id).isSome then some (fail tx s .db)
  else
    some ({ s with
      classGroup := seated
      classMember := s.classMember.write tx job.id (some job.row) }, .goto (.instances job))

def seatMember (tx : ℕ) (s : Db) (job : AddMember) : Option (Db × Reply) :=
  match Rows.alterWhere tx s.classGroup job.classId
      (fun row => decide (row.classMemberCount < maxClassMembers))
      (fun row => some { row with classMemberCount := row.classMemberCount + 1 }) with
  | none => none
  | some (none, _) => some (s, .goto (.standing job.classId))
  | some (some _, seated) => insertMember tx s job seated

def insertCourse (tx : ℕ) (s : Db) (job : AttachCourse) (offering : CourseOfferingId)
    (seated : Rows ClassGroupId ClassGroup) : Option (Db × Reply) :=
  if s.classCourse.contested tx
      (fun row => decide (row.classId = job.classId ∧ row.course = job.course)) then none
  else if s.classCourse.taken tx
      (fun row => decide (row.classId = job.classId ∧ row.course = job.course)) then
    some (abort tx s .duplicate)
  else if ((s.course.row job.course).seen tx).isNone ∨ ((s.appUser.row job.by_).seen tx).isNone ∨
      ((s.courseOffering.row offering).seen tx).isNone ∨
      (job.source.any fun source => ((s.classBlueprint.row source).seen tx).isNone) then
    some (abort tx s .pivotGone)
  else if (s.classCourse.lookup job.id).isSome then some (fail tx s .db)
  else
    some ({ s with
      classGroup := seated
      classCourse := s.classCourse.write tx job.id (some (job.row offering)) },
      .goto (.countSection job offering))

def seatCourse (tx : ℕ) (s : Db) (job : AttachCourse) (offering : CourseOfferingId) :
    Option (Db × Reply) :=
  match Rows.alterWhere tx s.classGroup job.classId
      (fun row => decide (row.classCourseCount < maxClassCourses))
      (fun row => some { row with classCourseCount := row.classCourseCount + 1 }) with
  | none => none
  | some (none, _) => some (s, .goto (.standing job.classId))
  | some (some _, seated) => insertCourse tx s job offering seated

/-- `ensure_tx`: the template of the pair, minted empty when there is none. -/
def ensureOffering (tx : ℕ) (s : Db) (job : AttachCourse) (grade : GradeLevel) :
    Option (Db × Reply) :=
  let offering : CourseOfferingId := ⟨job.course, grade⟩
  if (s.courseOffering.row offering).free tx then
    if ((s.courseOffering.row offering).seen tx).isSome then
      some (s, .goto (.seatCourse job offering))
    else
      some ({ s with courseOffering := s.courseOffering.write tx offering (some job.by_) },
        .goto (.seatCourse job offering))
  else none

def claim (tx : ℕ) (s : Db) (link : Link) (pumping : Pumping) (pair : Pair)
    (pairs : List Pair) : Option (Db × Reply) :=
  Rows.onRow (Rows.alter tx s.classCourse pair.1 fun row =>
      some { row with enrollmentCount := row.enrollmentCount + 1 })
    (abort tx s (.courseGone pair.1)) fun _ rows =>
      ({ s with classCourse := rows }, .goto (.insert link pumping pair pairs))

/-- `ON CONFLICT DO NOTHING`, which waits for whoever holds the key. -/
def insertPair (tx : ℕ) (s : Db) (link : Link) (pumping : Pumping) (pair : Pair)
    (pairs : List Pair) : Option (Db × Reply) :=
  if (s.enrollment.row pair).free tx then
    if ((s.enrollment.row pair).seen tx).isSome then
      some (s, .goto (.giveBack link pumping pair pairs))
    else if ((s.classCourse.row pair.1).seen tx).isNone ∨
        ((s.appUser.row pair.2).seen tx).isNone then some (fail tx s .db)
    else
      some ({ s with
        enrollment := s.enrollment.write tx pair
          (some ⟨pumping.by_, some pumping.classId, pumping.now⟩) },
        .goto (.held link pumping pairs))
  else none

def finish (tx : ℕ) (s : Db) : Link → Db × Reply
  | .member id row => settle tx s (.made (.member id row))
  | .course id row =>
      match (s.classCourse.row id).seen tx with
      | none => fail tx s .notFound
      | some stored =>
          settle tx s (.made (.course id { row with enrollmentCount := stored.enrollmentCount }))

/-! ## Other transactions -/

def writeFree {K V : Type} [DecidableEq K] (tx : ℕ) (t : Rows K V) (k : K) (version : Option V) :
    Option (Rows K V) :=
  if (t.row k).free tx then some (t.write tx k version) else none

def Act.run (tx : ℕ) (s : Db) : Act → Option (Db × Reply)
  | .appUser k version => (writeFree tx s.appUser k version).map fun rows =>
      ({ s with appUser := rows }, .goto .other)
  | .classBlueprint k version => (writeFree tx s.classBlueprint k version).map fun rows =>
      ({ s with classBlueprint := rows }, .goto .other)
  | .courseOffering k version => (writeFree tx s.courseOffering k version).map fun rows =>
      ({ s with courseOffering := rows }, .goto .other)
  | .classGroup k version => (writeFree tx s.classGroup k version).map fun rows =>
      ({ s with classGroup := rows }, .goto .other)
  | .course k version => (writeFree tx s.course k version).map fun rows =>
      ({ s with course := rows }, .goto .other)
  | .classCourse k version => (writeFree tx s.classCourse k version).map fun rows =>
      ({ s with classCourse := rows }, .goto .other)
  | .classMember k version => (writeFree tx s.classMember k version).map fun rows =>
      ({ s with classMember := rows }, .goto .other)
  | .enrollment k version => (writeFree tx s.enrollment k version).map fun rows =>
      ({ s with enrollment := rows }, .goto .other)
  | .commit => some (s.commit tx, .answer .other)
  | .rollback => some (s.rollback tx, .answer .other)

def notClassDelivered : AppError :=
  .validation (.invalid "course"
    "only a ders attaches to a class — a club or etüt is joined individually, not attached")

def instancePairs (tx : ℕ) (s : Db) (job : AddMember) : List Pair :=
  (s.classCourse.visible tx fun _ row => decide (row.classId = job.classId)).map fun row =>
    (row.1, job.user)

def memberPairs (tx : ℕ) (s : Db) (job : AttachCourse) : List Pair :=
  (s.classMember.visible tx fun _ row =>
    decide (row.classId = job.classId) && row.leftAt.isNone).map fun row => (job.id, row.2.user)

def statement (tx : ℕ) (s : Db) (w : World) : Point → Option (Db × Reply)
  | .liveStint job =>
      if s.classMember.taken tx (isLiveStint job.classId job.user) then
        some (settle tx s .duplicate)
      else some (s, .goto (.lockUser job))
  | .lockUser job =>
      Rows.onRow (Rows.lock tx s.appUser job.user) (settle tx s .pivotGone) fun role rows =>
        if role ≠ .student then settle tx { s with appUser := rows } .pivotGone
        else ({ s with appUser := rows }, .goto (.courseLoad job))
  | .courseLoad job =>
      if ((s.classGroup.row job.classId).seen tx).any
          fun row => decide (row.classCourseCount > maxClassCourses) then
        some (settle tx s .classOverloaded)
      else some (s, .goto (.seatMember job))
  | .seatMember job => seatMember tx s job
  | .instances job =>
      some (s, .goto (.held (.member job.id job.row) ⟨job.classId, job.by_, w.now⟩
        (instancePairs tx s job)))
  | .heldCourse job =>
      if s.classCourse.taken tx
          (fun row => decide (row.classId = job.classId ∧ row.course = job.course)) then
        some (settle tx s .duplicate)
      else
        match job.source with
        | some source => some (s, .goto (.lockSource job source))
        | none => some (s, .goto (.lockCourse job))
  | .lockSource job source =>
      (s.classBlueprint.keyShare tx source).map fun
        | none => settle tx s .sourceGone
        | some _ => (s, .goto (.lockCourse job))
  | .lockCourse job =>
      (s.course.keyShare tx job.course).map fun
        | none => settle tx s .pivotGone
        | some row => (s, .goto (.memberLoad job row.kind))
  | .memberLoad job kind =>
      if ((s.classGroup.row job.classId).seen tx).any
          fun row => decide (row.classMemberCount > maxClassMembers) then
        some (settle tx s .classOverloaded)
      else if kind.isClassDelivered then some (s, .goto (.lockGrade job))
      else some (fail tx s notClassDelivered)
  | .lockGrade job =>
      (s.classGroup.keyShare tx job.classId).map fun
        | none => settle tx s .gone
        | some row => (s, .goto (.ensureOffering job row.gradeLevel))
  | .ensureOffering job grade => ensureOffering tx s job grade
  | .seatCourse job offering => seatCourse tx s job offering
  | .countSection job offering =>
      Rows.onRow (Rows.alter tx s.course job.course fun row =>
          some { row with classCourseCount := row.classCourseCount + 1 })
        (s, .goto (.members job offering)) fun _ rows =>
          ({ s with course := rows }, .goto (.members job offering))
  | .members job offering =>
      some (s, .goto (.held (.course job.id (job.row offering)) ⟨job.classId, job.by_, w.now⟩
        (memberPairs tx s job)))
  | .standing classId =>
      some (settle tx s
        (if ((s.classGroup.row classId).seen tx).isSome then .classFull else .gone))
  | .held link _ [] => some (finish tx s link)
  | .held link pumping (pair :: pairs) =>
      if ((s.enrollment.row pair).seen tx).isSome then some (s, .goto (.held link pumping pairs))
      else some (s, .goto (.claim link pumping pair pairs))
  | .claim link pumping pair pairs => claim tx s link pumping pair pairs
  | .insert link pumping pair pairs => insertPair tx s link pumping pair pairs
  | .giveBack link pumping pair pairs =>
      Rows.onRow (Rows.alter tx s.classCourse pair.1 fun row =>
          some { row with enrollmentCount := max (row.enrollmentCount - 1) 0 })
        (s, .goto (.held link pumping pairs)) fun _ rows =>
          ({ s with classCourse := rows }, .goto (.held link pumping pairs))
  | .other => w.act.run tx s

def next (tx : ℕ) (s : Db) (p : Point) (w : World) : Option (Db × Reply) :=
  if w.fault then some (fail tx s .db) else statement tx s w p

def entry : Request → Point
  | .addMember job => .liveStint job
  | .attachCourse job => .heldCourse job
  | .other => .other

def machine : Machine Db Point Request World Answer where
  entry := entry
  next := next
  rollback := Db.rollback

inductive Event where
  /-- The store at the statement that lists the pairs of the link. -/
  | listed (tables : Db)
  /-- A committed row was there when the call looked the pair up. -/
  | found (pair : Pair)

def Point.sees (s : Db) : Point → List Event
  | .instances _ => [.listed s]
  | .members _ _ => [.listed s]
  | .held _ _ (pair :: _) =>
      if (s.enrollment.row pair).committed.isSome then [.found pair] else []
  | .insert _ _ pair _ =>
      if (s.enrollment.row pair).committed.isSome then [.found pair] else []
  | _ => []

def events (c : Config Db Point) : Move Request World → List (ℕ × Event)
  | .advance tx _ =>
      ((c.calls.lookup tx).elim [] fun p => p.sees c.shared).map fun event => (tx, event)
  | _ => []

end Hezarfen.ClassPump
