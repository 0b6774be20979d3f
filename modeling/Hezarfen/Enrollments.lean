import Hezarfen.RosterStore
import Hezarfen.Snapshots
import Hezarfen.Transactions

/-!
# Enrollment rows, one statement at a time

A hand enroll leaves a row without a source; a section that gains a member or a course pumps
rows that carry it as their source, and a leave takes the rows of its section back.  The hand
enroll meets a row of its pair in three places: at its first read, at the gate of its
transaction and at the unique key of its insert.
-/

namespace Hezarfen.Enrollments

open Interleaving ReadCommitted
open School (Role ClassGroupId CourseId ClassCourseId ClassMemberId ClassGroup Course ClassCourse
  ClassMember Enrollment Attached)

abbrev Pair := ClassCourseId × UserId

structure Db where
  appUser : Rows UserId Role
  classGroup : Rows ClassGroupId ClassGroup
  course : Rows CourseId Course
  classCourse : Rows ClassCourseId ClassCourse
  classMember : Rows ClassMemberId ClassMember
  enrollment : Rows Pair Enrollment

inductive Request where
  | enroll (pair : Pair) (enrolledBy : UserId)
  | unenroll (pair : Pair)
  | addMember (classId : ClassGroupId) (user : UserId) (addedBy : UserId)
      (source : Option ClassGroupId)
  | attachCourse (classId : ClassGroupId) (course : CourseId) (attachedBy : UserId)
  | dropMember (classId : ClassGroupId) (user : UserId) (soft : Bool)
  | setRole (user : UserId) (role : Role)

/-- The link that a pump run is for. -/
inductive Link where
  | member (row : ClassMember)
  | course (id : ClassCourseId) (row : ClassCourse)

structure Pumping where
  classId : ClassGroupId
  enrolledBy : UserId
  now : Timestamp
  link : Link

structure Joining where
  classId : ClassGroupId
  user : UserId
  addedBy : UserId
  source : Option ClassGroupId

structure Attaching where
  classId : ClassGroupId
  course : CourseId
  attachedBy : UserId

structure Leaving where
  classId : ClassGroupId
  user : UserId
  soft : Bool

inductive Point where
  | ensureStudent (pair : Pair) (enrolledBy : UserId)
  | readForUser (pair : Pair) (enrolledBy : UserId)
  | disown (pair : Pair) (existing : Enrollment)
  | heldGate (pair : Pair) (enrolledBy : UserId) (createdAt : Timestamp)
  | lockStudent (pair : Pair) (enrolledBy : UserId) (createdAt : Timestamp)
  | claimSeat (pair : Pair) (enrolledBy : UserId) (createdAt : Timestamp)
  | insertRow (pair : Pair) (enrolledBy : UserId) (createdAt : Timestamp)
  | readNowHeld (pair : Pair)
  | readHeld (pair : Pair)
  | deleteRow (pair : Pair)
  | returnSeat (pair : Pair) (gone : Bool)
  | memberGate (joining : Joining)
  | lockMember (joining : Joining)
  | memberOverload (joining : Joining)
  | insertMember (joining : Joining)
  | memberRefused (joining : Joining)
  | listInstances (pumping : Pumping) (user : UserId)
  | courseGate (attaching : Attaching)
  | readKind (attaching : Attaching)
  | courseOverload (attaching : Attaching) (kind : School.CourseKind)
  | readGrade (attaching : Attaching)
  | insertCourse (attaching : Attaching)
  | courseRefused (attaching : Attaching)
  | countSection (pumping : Pumping) (course : CourseId) (instance_ : ClassCourseId)
  | listMembers (pumping : Pumping) (instance_ : ClassCourseId)
  | pumpGate (pumping : Pumping) (pairs : List Pair)
  | pumpClaim (pumping : Pumping) (pair : Pair) (rest : List Pair)
  | pumpInsert (pumping : Pumping) (pair : Pair) (rest : List Pair)
  | pumpGiveBack (pumping : Pumping) (pair : Pair) (rest : List Pair)
  | lockLeaver (leaving : Leaving)
  | endStint (leaving : Leaving)
  | releaseMember (leaving : Leaving)
  | findPumped (leaving : Leaving)
  | deletePumped (leaving : Leaving) (rest : List Pair)
  | returnPumped (leaving : Leaving) (pair : Pair) (rest : List Pair)
  | readRole (user : UserId) (role : Role)
  | findAdmins (user : UserId) (role : Role)
  | lockAdmins (user : UserId) (role : Role) (rest : List UserId) (locked : ℕ)
  | writeRole (user : UserId) (role : Role)
  | findStints (user : UserId)
  | endStints (user : UserId) (rest : List ClassMemberId) (gone : List ClassGroupId)
  | releaseStints (user : UserId) (gone : List ClassGroupId)
  | findRows (user : UserId)
  | deleteRows (user : UserId) (rest : List Pair) (gone : List ClassCourseId)
  | returnSeats (user : UserId) (gone : List ClassCourseId)

inductive Answer where
  | enrollment (pair : Pair) (row : Enrollment)
  | unenrolled (pair : Pair)
  | member (verdict : Attached ClassMember)
  | course (verdict : Attached ClassCourse)
  | left (stints : ℕ)
  | role (user : UserId)

abbrev Reply := Next Point (Except AppError Answer)

/-- The clock at a step, and a fresh id. -/
structure World where
  now : Timestamp
  uuid : Uuid

def Db.commit (tx : ℕ) (s : Db) : Db :=
  ⟨s.appUser.commit tx, s.classGroup.commit tx, s.course.commit tx, s.classCourse.commit tx,
    s.classMember.commit tx, s.enrollment.commit tx⟩

def Db.rollback (tx : ℕ) (s : Db) : Db :=
  ⟨s.appUser.rollback tx, s.classGroup.rollback tx, s.course.rollback tx,
    s.classCourse.rollback tx, s.classMember.rollback tx, s.enrollment.rollback tx⟩

def refuse (tx : ℕ) (s : Db) (e : AppError) : Db × Reply := (s.rollback tx, .answer (.error e))

def finish (tx : ℕ) (s : Db) (a : Answer) : Db × Reply := (s.commit tx, .answer (.ok a))

def Db.claim (s : Db) (tx : ℕ) (instance_ : ClassCourseId) :
    Option (Option ClassCourse × Rows ClassCourseId ClassCourse) :=
  s.classCourse.alter tx instance_ fun row =>
    some { row with enrollmentCount := row.enrollmentCount + 1 }

/-- `GREATEST(enrollment_count - 1, 0)` -/
def Db.giveBack (s : Db) (tx : ℕ) (instance_ : ClassCourseId) :
    Option (Option ClassCourse × Rows ClassCourseId ClassCourse) :=
  s.classCourse.alter tx instance_ fun row =>
    some { row with enrollmentCount := max (row.enrollmentCount - 1) 0 }

/-! ## The hand enroll -/

def studentsOnly : AppError :=
  .validation (.invalid "user_id" "only students can be enrolled in a course")

def ensureStudent (tx : ℕ) (s : Db) (pair : Pair) (enrolledBy : UserId) : Reply :=
  match (s.appUser.row pair.2).seen tx with
  | none => .answer (.error (.validation (.invalid "user_id" "target user does not exist")))
  | some role =>
      if role ≠ .student then .answer (.error studentsOnly)
      else .goto (.readForUser pair enrolledBy)

def readForUser (tx : ℕ) (s : Db) (w : World) (pair : Pair) (enrolledBy : UserId) : Reply :=
  match (s.enrollment.row pair).seen tx with
  | some existing =>
      if existing.source.isNone then .answer (.ok (.enrollment pair existing))
      else .goto (.disown pair existing)
  | none => .goto (.heldGate pair enrolledBy w.now)

def disown (tx : ℕ) (s : Db) (pair : Pair) (existing : Enrollment) : Option (Db × Reply) :=
  Rows.onRow (s.enrollment.alter tx pair fun row => some { row with source := none })
    (s, .answer (.ok (.enrollment pair existing)))
    fun row rows =>
      finish tx { s with enrollment := rows } (.enrollment pair { row with source := none })

def heldGate (tx : ℕ) (s : Db) (pair : Pair) (enrolledBy : UserId) (createdAt : Timestamp) :
    Db × Reply :=
  if ((s.enrollment.row pair).seen tx).isSome then (s.commit tx, .goto (.readHeld pair))
  else (s, .goto (.lockStudent pair enrolledBy createdAt))

def lockStudent (tx : ℕ) (s : Db) (pair : Pair) (enrolledBy : UserId) (createdAt : Timestamp) :
    Option (Db × Reply) :=
  Rows.onRow (s.appUser.lock tx pair.2) (s.commit tx, .answer (.error studentsOnly))
    fun role rows =>
      let s' := { s with appUser := rows }
      if role ≠ .student then (s'.commit tx, .answer (.error studentsOnly))
      else (s', .goto (.claimSeat pair enrolledBy createdAt))

def claimSeat (tx : ℕ) (s : Db) (pair : Pair) (enrolledBy : UserId) (createdAt : Timestamp) :
    Option (Db × Reply) :=
  Rows.onRow (s.claim tx pair.1) (s, .goto (.readNowHeld pair)) fun _ rows =>
    ({ s with classCourse := rows }, .goto (.insertRow pair enrolledBy createdAt))

def insertRow (tx : ℕ) (s : Db) (pair : Pair) (enrolledBy : UserId) (createdAt : Timestamp) :
    Option (Db × Reply) :=
  let held := s.enrollment.row pair
  if held.free tx then
    if (held.seen tx).isSome then some (s.rollback tx, .goto (.readHeld pair))
    else
      let row : Enrollment := ⟨enrolledBy, none, createdAt⟩
      some (finish tx { s with enrollment := s.enrollment.write tx pair (some row) }
        (.enrollment pair row))
  else none

def readNowHeld (tx : ℕ) (s : Db) (pair : Pair) : Db × Reply :=
  if ((s.enrollment.row pair).seen tx).isSome then (s.commit tx, .goto (.readHeld pair))
  else refuse tx s .notFound

def readHeld (tx : ℕ) (s : Db) (pair : Pair) : Reply :=
  match (s.enrollment.row pair).seen tx with
  | some existing => .answer (.ok (.enrollment pair existing))
  | none => .answer (.error (.internal "failed to enroll user"))

def deleteRow (tx : ℕ) (s : Db) (pair : Pair) : Option (Db × Reply) :=
  Rows.onRow (s.enrollment.alter tx pair fun _ => none) (s, .goto (.returnSeat pair false))
    fun _ rows => ({ s with enrollment := rows }, .goto (.returnSeat pair true))

/-- `GREATEST(enrollment_count - (SELECT count(*) FROM gone), 0)` -/
def returnSeat (tx : ℕ) (s : Db) (pair : Pair) (gone : Bool) : Option (Db × Reply) :=
  (s.classCourse.alter tx pair.1 fun row =>
      some { row with
        enrollmentCount := max (row.enrollmentCount - if gone then 1 else 0) 0 }).map fun r =>
    let s' := { s with classCourse := r.2 }
    if gone then finish tx s' (.unenrolled pair) else (s'.commit tx, .answer (.error .notFound))

def Db.liveStint (s : Db) (tx : ℕ) (classId : ClassGroupId) (user : UserId) :
    List ClassMemberId :=
  (s.classMember.visible tx fun _ row => School.Roster.isLiveStint classId user row).map Prod.fst

def memberGate (tx : ℕ) (s : Db) (joining : Joining) : Db × Reply :=
  if (s.liveStint tx joining.classId joining.user).isEmpty then (s, .goto (.lockMember joining))
  else finish tx s (.member .duplicate)

def lockMember (tx : ℕ) (s : Db) (joining : Joining) : Option (Db × Reply) :=
  Rows.onRow (s.appUser.lock tx joining.user) (finish tx s (.member .pivotGone)) fun role rows =>
    let s' := { s with appUser := rows }
    if role ≠ .student then finish tx s' (.member .pivotGone)
    else (s', .goto (.memberOverload joining))

def memberOverload (tx : ℕ) (s : Db) (joining : Joining) : Db × Reply :=
  if ((s.classGroup.row joining.classId).seen tx).any fun row =>
      decide (School.maxClassCourses < row.classCourseCount) then
    finish tx s (.member .classOverloaded)
  else (s, .goto (.insertMember joining))

/-- The seat of the section and the stint are one statement.  The account is locked, so no
other stint of the pair is under way. -/
def insertMember (tx : ℕ) (s : Db) (w : World) (joining : Joining) : Option (Db × Reply) :=
  let id : ClassMemberId := ⟨w.uuid⟩
  let row : ClassMember :=
    ⟨joining.classId, joining.user, joining.addedBy, w.now, none, joining.source⟩
  if s.classMember.lookup id ≠ none then none
  else
    Rows.onRow
      (s.classGroup.alterWhere tx joining.classId
        (fun c => decide (c.classMemberCount < School.maxClassMembers))
        fun c => some { c with classMemberCount := c.classMemberCount + 1 })
      (s, .goto (.memberRefused joining)) fun _ rows =>
        if (s.liveStint tx joining.classId joining.user).isEmpty then
          ({ s with
              classGroup := rows
              classMember := s.classMember.write tx id (some row) },
            .goto (.listInstances ⟨joining.classId, joining.addedBy, w.now, .member row⟩
              joining.user))
        else (s.rollback tx, .answer (.ok (.member .duplicate)))

def memberRefused (tx : ℕ) (s : Db) (joining : Joining) : Db × Reply :=
  finish tx s (.member (if ((s.classGroup.row joining.classId).seen tx).isSome then .classFull
    else .gone))

def Db.instancesOf (s : Db) (tx : ℕ) (classId : ClassGroupId) : List ClassCourseId :=
  (s.classCourse.visible tx fun _ row => row.classId = classId).map Prod.fst

/-! ## A course is attached -/

def Db.attached (s : Db) (tx : ℕ) (classId : ClassGroupId) (course : CourseId) : Bool :=
  !(s.classCourse.visible tx fun _ row => row.classId = classId ∧ row.course = course).isEmpty

def courseGate (tx : ℕ) (s : Db) (attaching : Attaching) : Db × Reply :=
  if s.attached tx attaching.classId attaching.course then finish tx s (.course .duplicate)
  else (s, .goto (.readKind attaching))

/-- A `KEY SHARE` lock, which nothing here has to wait for. -/
def readKind (tx : ℕ) (s : Db) (attaching : Attaching) : Db × Reply :=
  match (s.course.row attaching.course).seen tx with
  | none => finish tx s (.course .pivotGone)
  | some course => (s, .goto (.courseOverload attaching course.kind))

def courseOverload (tx : ℕ) (s : Db) (attaching : Attaching) (kind : School.CourseKind) :
    Db × Reply :=
  if ((s.classGroup.row attaching.classId).seen tx).any fun row =>
      decide (School.maxClassMembers < row.classMemberCount) then
    finish tx s (.course .classOverloaded)
  else if kind.isClassDelivered then (s, .goto (.readGrade attaching))
  else
    refuse tx s (.validation (.invalid "course"
      "only a ders attaches to a class — a club or etüt is joined individually, not attached"))

def readGrade (tx : ℕ) (s : Db) (attaching : Attaching) : Db × Reply :=
  if ((s.classGroup.row attaching.classId).seen tx).isSome then
    (s, .goto (.insertCourse attaching))
  else finish tx s (.course .gone)

def insertCourse (tx : ℕ) (s : Db) (w : World) (attaching : Attaching) : Option (Db × Reply) :=
  let id : ClassCourseId := ⟨w.uuid⟩
  let row : ClassCourse :=
    ⟨attaching.classId, attaching.course, attaching.attachedBy, w.now, 0⟩
  if s.classCourse.lookup id ≠ none then none
  else
    Rows.onRow
      (s.classGroup.alterWhere tx attaching.classId
        (fun c => decide (c.classCourseCount < School.maxClassCourses))
        fun c => some { c with classCourseCount := c.classCourseCount + 1 })
      (s, .goto (.courseRefused attaching)) fun _ rows =>
        if s.attached tx attaching.classId attaching.course then
          (s.rollback tx, .answer (.ok (.course .duplicate)))
        else
          ({ s with
              classGroup := rows
              classCourse := s.classCourse.write tx id (some row) },
            .goto (.countSection ⟨attaching.classId, attaching.attachedBy, w.now, .course id row⟩
              attaching.course id))

def courseRefused (tx : ℕ) (s : Db) (attaching : Attaching) : Db × Reply :=
  finish tx s (.course (if ((s.classGroup.row attaching.classId).seen tx).isSome then .classFull
    else .gone))

def countSection (tx : ℕ) (s : Db) (pumping : Pumping) (course : CourseId)
    (instance_ : ClassCourseId) : Option (Db × Reply) :=
  (s.course.alter tx course fun row =>
      some { row with classCourseCount := row.classCourseCount + 1 }).map fun r =>
    ({ s with course := r.2 }, .goto (.listMembers pumping instance_))

def Db.membersOf (s : Db) (tx : ℕ) (classId : ClassGroupId) : List UserId :=
  (s.classMember.visible tx fun _ row =>
    row.classId = classId ∧ row.leftAt.isNone).map fun e => e.2.user

def Db.pumped (s : Db) (tx : ℕ) : Link → Answer
  | .member row => .member (.made row)
  | .course id row => .course (.made (((s.classCourse.row id).seen tx).getD row))

def pumpGate (tx : ℕ) (s : Db) (pumping : Pumping) : List Pair → Db × Reply
  | [] => finish tx s (s.pumped tx pumping.link)
  | pair :: rest =>
      if ((s.enrollment.row pair).seen tx).isSome then (s, .goto (.pumpGate pumping rest))
      else (s, .goto (.pumpClaim pumping pair rest))

def pumpClaim (tx : ℕ) (s : Db) (pumping : Pumping) (pair : Pair) (rest : List Pair) :
    Option (Db × Reply) :=
  Rows.onRow (s.claim tx pair.1)
    (s.rollback tx, .answer (.ok (match pumping.link with
      | .member _ => .member (.courseGone pair.1)
      | .course _ _ => .course (.courseGone pair.1)))) fun _ rows =>
    ({ s with classCourse := rows }, .goto (.pumpInsert pumping pair rest))

/-- `ON CONFLICT DO NOTHING` -/
def pumpInsert (tx : ℕ) (s : Db) (pumping : Pumping) (pair : Pair) (rest : List Pair) :
    Option (Db × Reply) :=
  let held := s.enrollment.row pair
  if held.free tx then
    if (held.seen tx).isSome then some (s, .goto (.pumpGiveBack pumping pair rest))
    else
      let row : Enrollment := ⟨pumping.enrolledBy, some pumping.classId, pumping.now⟩
      some ({ s with enrollment := s.enrollment.write tx pair (some row) },
        .goto (.pumpGate pumping rest))
  else none

def pumpGiveBack (tx : ℕ) (s : Db) (pumping : Pumping) (pair : Pair) (rest : List Pair) :
    Option (Db × Reply) :=
  (s.giveBack tx pair.1).map fun r =>
    ({ s with classCourse := r.2 }, .goto (.pumpGate pumping rest))

def lockLeaver (tx : ℕ) (s : Db) (leaving : Leaving) : Option (Db × Reply) :=
  (s.appUser.lock tx leaving.user).map fun r =>
    ({ s with appUser := r.2 }, .goto (.endStint leaving))

def endStint (tx : ℕ) (s : Db) (w : World) (leaving : Leaving) : Option (Db × Reply) :=
  match s.liveStint tx leaving.classId leaving.user with
  | [] => some (finish tx s (.left 0))
  | id :: _ =>
      Rows.onRow
        (s.classMember.alterWhere tx id
          (School.Roster.isLiveStint leaving.classId leaving.user)
          fun row => if leaving.soft then some { row with leftAt := some w.now } else none)
        (finish tx s (.left 0)) fun _ rows =>
          ({ s with classMember := rows }, .goto (.releaseMember leaving))

def releaseMember (tx : ℕ) (s : Db) (leaving : Leaving) : Option (Db × Reply) :=
  (s.classGroup.alter tx leaving.classId fun row =>
      some { row with classMemberCount := max (row.classMemberCount - 1) 0 }).map fun r =>
    ({ s with classGroup := r.2 }, .goto (.findPumped leaving))

def Db.pumpedRows (s : Db) (tx : ℕ) (classId : ClassGroupId) (user : UserId) : List Pair :=
  (s.enrollment.visible tx fun pair row =>
    pair.2 = user ∧ row.source = some classId).map Prod.fst

/-- `release`: the row goes by its key. -/
def deletePumped (tx : ℕ) (s : Db) (leaving : Leaving) : List Pair → Option (Db × Reply)
  | [] => some (finish tx s (.left 1))
  | pair :: rest =>
      Rows.onRow (s.enrollment.alter tx pair fun _ => none)
        (s, .goto (.deletePumped leaving rest)) fun _ rows =>
          ({ s with enrollment := rows }, .goto (.returnPumped leaving pair rest))

def returnPumped (tx : ℕ) (s : Db) (leaving : Leaving) (pair : Pair) (rest : List Pair) :
    Option (Db × Reply) :=
  (s.giveBack tx pair.1).map fun r =>
    ({ s with classCourse := r.2 }, .goto (.deletePumped leaving rest))

def keepOneAdmin : AppError :=
  .conflict "the school must keep at least one admin — promote another account first"

def readRole (tx : ℕ) (s : Db) (user : UserId) (role : Role) : Reply :=
  if role ≠ .admin ∧ (s.appUser.row user).seen tx = some .admin then .goto (.findAdmins user role)
  else .goto (.writeRole user role)

def Db.admins (s : Db) (tx : ℕ) : List UserId :=
  (s.appUser.visible tx fun _ role => role = .admin).map Prod.fst

def lockAdmins (tx : ℕ) (s : Db) (user : UserId) (role : Role) (locked : ℕ) :
    List UserId → Option (Db × Reply)
  | [] => some (if locked ≤ 1 then refuse tx s keepOneAdmin else (s, .goto (.writeRole user role)))
  | admin :: rest =>
      (s.appUser.alterWhere tx admin (fun r => decide (r = .admin)) some).map fun r =>
        ({ s with appUser := r.2 },
          .goto (.lockAdmins user role rest (locked + if r.1.isSome then 1 else 0)))

def writeRole (tx : ℕ) (s : Db) (user : UserId) (role : Role) : Option (Db × Reply) :=
  let others := (s.admins tx).filter fun admin => admin ≠ user
  Rows.onRow
    (s.appUser.alterWhere tx user
      (fun r => !(decide (r = .admin) && decide (role ≠ .admin) && others.isEmpty))
      fun _ => some role)
    (refuse tx s keepOneAdmin) fun _ rows =>
      let s' := { s with appUser := rows }
      if role = .student then finish tx s' (.role user) else (s', .goto (.findStints user))

def Db.liveStints (s : Db) (tx : ℕ) (user : UserId) : List ClassMemberId :=
  (s.classMember.visible tx fun _ row => row.user = user ∧ row.leftAt.isNone).map Prod.fst

def endStints (tx : ℕ) (s : Db) (w : World) (user : UserId) (gone : List ClassGroupId) :
    List ClassMemberId → Option (Db × Reply)
  | [] => some (s, .goto (.releaseStints user gone))
  | id :: rest =>
      Rows.onRow
        (s.classMember.alterWhere tx id (fun row => row.leftAt.isNone)
          fun row => some { row with leftAt := some w.now })
        (s, .goto (.endStints user rest gone)) fun row rows =>
          ({ s with classMember := rows }, .goto (.endStints user rest (row.classId :: gone)))

def releaseStints (tx : ℕ) (s : Db) (user : UserId) : List ClassGroupId → Option (Db × Reply)
  | [] => some (s, .goto (.findRows user))
  | classId :: rest =>
      (s.classGroup.alter tx classId fun row =>
          some { row with classMemberCount := max (row.classMemberCount - 1) 0 }).map fun r =>
        ({ s with classGroup := r.2 }, .goto (.releaseStints user rest))

def Db.rowsOf (s : Db) (tx : ℕ) (user : UserId) : List Pair :=
  (s.enrollment.visible tx fun pair _ => pair.2 = user).map Prod.fst

def deleteRows (tx : ℕ) (s : Db) (user : UserId) (gone : List ClassCourseId) :
    List Pair → Option (Db × Reply)
  | [] => some (s, .goto (.returnSeats user gone))
  | pair :: rest =>
      Rows.onRow (s.enrollment.alter tx pair fun _ => none)
        (s, .goto (.deleteRows user rest gone)) fun _ rows =>
          ({ s with enrollment := rows }, .goto (.deleteRows user rest (pair.1 :: gone)))

def returnSeats (tx : ℕ) (s : Db) (user : UserId) : List ClassCourseId → Option (Db × Reply)
  | [] => some (finish tx s (.role user))
  | instance_ :: rest =>
      (s.giveBack tx instance_).map fun r =>
        ({ s with classCourse := r.2 }, .goto (.returnSeats user rest))

def next (tx : ℕ) (s : Db) (p : Point) (w : World) : Option (Db × Reply) :=
  match p with
  | .ensureStudent pair enrolledBy => some (s, ensureStudent tx s pair enrolledBy)
  | .readForUser pair enrolledBy => some (s, readForUser tx s w pair enrolledBy)
  | .disown pair existing => disown tx s pair existing
  | .heldGate pair enrolledBy createdAt => some (heldGate tx s pair enrolledBy createdAt)
  | .lockStudent pair enrolledBy createdAt => lockStudent tx s pair enrolledBy createdAt
  | .claimSeat pair enrolledBy createdAt => claimSeat tx s pair enrolledBy createdAt
  | .insertRow pair enrolledBy createdAt => insertRow tx s pair enrolledBy createdAt
  | .readNowHeld pair => some (readNowHeld tx s pair)
  | .readHeld pair => some (s, readHeld tx s pair)
  | .deleteRow pair => deleteRow tx s pair
  | .returnSeat pair gone => returnSeat tx s pair gone
  | .memberGate joining => some (memberGate tx s joining)
  | .lockMember joining => lockMember tx s joining
  | .memberOverload joining => some (memberOverload tx s joining)
  | .insertMember joining => insertMember tx s w joining
  | .memberRefused joining => some (memberRefused tx s joining)
  | .listInstances pumping user =>
      some (s, .goto (.pumpGate pumping
        ((s.instancesOf tx pumping.classId).map fun instance_ => (instance_, user))))
  | .courseGate attaching => some (courseGate tx s attaching)
  | .readKind attaching => some (readKind tx s attaching)
  | .courseOverload attaching kind => some (courseOverload tx s attaching kind)
  | .readGrade attaching => some (readGrade tx s attaching)
  | .insertCourse attaching => insertCourse tx s w attaching
  | .courseRefused attaching => some (courseRefused tx s attaching)
  | .countSection pumping course instance_ => countSection tx s pumping course instance_
  | .listMembers pumping instance_ =>
      some (s, .goto (.pumpGate pumping
        ((s.membersOf tx pumping.classId).map fun user => (instance_, user))))
  | .pumpGate pumping pairs => some (pumpGate tx s pumping pairs)
  | .pumpClaim pumping pair rest => pumpClaim tx s pumping pair rest
  | .pumpInsert pumping pair rest => pumpInsert tx s pumping pair rest
  | .pumpGiveBack pumping pair rest => pumpGiveBack tx s pumping pair rest
  | .lockLeaver leaving => lockLeaver tx s leaving
  | .endStint leaving => endStint tx s w leaving
  | .releaseMember leaving => releaseMember tx s leaving
  | .findPumped leaving =>
      some (s, .goto (.deletePumped leaving (s.pumpedRows tx leaving.classId leaving.user)))
  | .deletePumped leaving rest => deletePumped tx s leaving rest
  | .returnPumped leaving pair rest => returnPumped tx s leaving pair rest
  | .readRole user role => some (s, readRole tx s user role)
  | .findAdmins user role => some (s, .goto (.lockAdmins user role (s.admins tx) 0))
  | .lockAdmins user role rest locked => lockAdmins tx s user role locked rest
  | .writeRole user role => writeRole tx s user role
  | .findStints user => some (s, .goto (.endStints user (s.liveStints tx user) []))
  | .endStints user rest gone => endStints tx s w user gone rest
  | .releaseStints user gone => releaseStints tx s user gone
  | .findRows user => some (s, .goto (.deleteRows user (s.rowsOf tx user) []))
  | .deleteRows user rest gone => deleteRows tx s user gone rest
  | .returnSeats user gone => returnSeats tx s user gone

def Request.entry : Request → Point
  | .enroll pair enrolledBy => .ensureStudent pair enrolledBy
  | .unenroll pair => .deleteRow pair
  | .addMember classId user addedBy source => .memberGate ⟨classId, user, addedBy, source⟩
  | .attachCourse classId course attachedBy => .courseGate ⟨classId, course, attachedBy⟩
  | .dropMember classId user soft => .lockLeaver ⟨classId, user, soft⟩
  | .setRole user role => .readRole user role

/-- A transaction that is given up, for a retry too, rolls back. -/
def machine : Machine Db Point Request World (Except AppError Answer) where
  entry := Request.entry
  next := next
  rollback := Db.rollback

def rowsOf {K V : Type} [DecidableEq K] (entries : List (K × V)) : Rows K V :=
  entries.foldl (fun t entry => t.put entry.1 entry.2) ∅

def start (users : List (UserId × Role)) (classes : List (ClassGroupId × ClassGroup))
    (courses : List (CourseId × Course)) : Config Db Point :=
  .initial ⟨rowsOf users, rowsOf classes, rowsOf courses, ∅, ∅, ∅⟩

end Hezarfen.Enrollments
