import Hezarfen.SchoolDomain

/-!
# The class tables and the roster pump

`class_group`, `course`, `class_course`, `class_course_teacher`, `class_member`
and `enrollment`, with the transactions that move them.  A member and an attached
course imply enrollment rows; the pump writes them with the link that implies
them, tagged with the section, and takes them back with it.  Each function here is
one transaction of the source.
-/

namespace Hezarfen.School

structure Roster where
  classGroup : Table ClassGroupId ClassGroup
  course : Table CourseId Course
  classCourse : Table ClassCourseId ClassCourse
  classCourseTeacher : Table (ClassCourseId × UserId) Unit
  classMember : Table ClassMemberId ClassMember
  enrollment : Table (ClassCourseId × UserId) Enrollment

/-- What an attach on either axis settled. -/
inductive Attached (α : Type) where
  | made (row : α)
  | duplicate
  | gone
  | pivotGone
  | classFull
  | classOverloaded
  | courseGone (instance_ : ClassCourseId)

namespace Roster

def empty : Roster := ⟨∅, ∅, ∅, ∅, ∅, ∅⟩

def isLiveStint (classId : ClassGroupId) (user : UserId) (row : ClassMember) : Bool :=
  decide (row.classId = classId) && decide (row.user = user) && row.leftAt.isNone

def isLiveMember (r : Roster) (classId : ClassGroupId) (user : UserId) : Bool :=
  Table.any r.classMember fun _ row => isLiveStint classId user row

def listForClass (r : Roster) (classId : ClassGroupId) : List ClassCourseId :=
  (r.classCourse.entries.filter fun row => row.2.classId = classId).map fun row => row.1

def liveMembers (r : Roster) (classId : ClassGroupId) : List UserId :=
  (r.classMember.entries.filter fun row =>
    decide (row.2.classId = classId) && row.2.leftAt.isNone).map fun row => row.2.user

/-! ## Counters given back, never below zero -/

def releaseMember (r : Roster) (classId : ClassGroupId) : Roster :=
  { r with
    classGroup := Table.update r.classGroup fun id row =>
      if id = classId then { row with classMemberCount := max (row.classMemberCount - 1) 0 }
      else row }

def releaseCourse (r : Roster) (classId : ClassGroupId) : Roster :=
  { r with
    classGroup := Table.update r.classGroup fun id row =>
      if id = classId then { row with classCourseCount := max (row.classCourseCount - 1) 0 }
      else row }

def releaseSection (r : Roster) (course : CourseId) : Roster :=
  { r with
    course := Table.update r.course fun id row =>
      if id = course then { row with classCourseCount := max (row.classCourseCount - 1) 0 }
      else row }

def releaseEnrolled (r : Roster) (instance_ : ClassCourseId) : Roster :=
  { r with
    classCourse := Table.update r.classCourse fun id row =>
      if id = instance_ then { row with enrollmentCount := max (row.enrollmentCount - 1) 0 }
      else row }

/-- Who pumps, for which section and when. -/
structure Pumping where
  classId : ClassGroupId
  by_ : UserId
  now : Timestamp

def enrollPairs (pumping : Pumping) (r : Roster) :
    List (ClassCourseId × UserId) → Except ClassCourseId Roster
  | [] => .ok r
  | pair :: rest =>
      if (r.enrollment.lookup pair).isSome then enrollPairs pumping r rest
      else
        match r.classCourse.lookup pair.1 with
        | none => .error pair.1
        | some row =>
            enrollPairs pumping
              { r with
                classCourse := r.classCourse.insert pair.1
                  { row with enrollmentCount := row.enrollmentCount + 1 }
                enrollment := r.enrollment.insert pair
                  ⟨pumping.by_, some pumping.classId, pumping.now⟩ }
              rest

/-- `add_member_sourced`, with the role read under the lock on the user row. -/
def addMember (r : Roster) (role : Option Role) (id : ClassMemberId) (pumping : Pumping)
    (user : UserId) (source : Option ClassGroupId) : Attached ClassMember × Roster :=
  if r.isLiveMember pumping.classId user then (.duplicate, r)
  else if role ≠ some .student then (.pivotGone, r)
  else if (r.classGroup.lookup pumping.classId).any fun row =>
      row.classCourseCount > maxClassCourses then (.classOverloaded, r)
  else
    match r.classGroup.lookup pumping.classId with
    | none => (.gone, r)
    | some row =>
        if row.classMemberCount < maxClassMembers then
          let member : ClassMember :=
            ⟨pumping.classId, user, pumping.by_, pumping.now, none, source⟩
          let seated : Roster :=
            { r with
              classGroup := r.classGroup.insert pumping.classId
                { row with classMemberCount := row.classMemberCount + 1 }
              classMember := r.classMember.insert id member }
          match enrollPairs pumping seated
              ((seated.listForClass pumping.classId).map fun instance_ => (instance_, user)) with
          | .error instance_ => (.courseGone instance_, r)
          | .ok r' => (.made member, r')
        else (.classFull, r)

/-- `attach_course` by hand: the instance and the enrollment of the whole live roster. -/
def attachCourse (r : Roster) (id : ClassCourseId) (pumping : Pumping) (course : CourseId) :
    Except AppError (Attached ClassCourse × Roster) :=
  if Table.any r.classCourse fun _ row =>
      decide (row.classId = pumping.classId) && decide (row.course = course) then
    .ok (.duplicate, r)
  else
    match r.course.lookup course with
    | none => .ok (.pivotGone, r)
    | some taught =>
        if (r.classGroup.lookup pumping.classId).any fun row =>
            row.classMemberCount > maxClassMembers then .ok (.classOverloaded, r)
        else if taught.kind.isClassDelivered = false then
          .error (.validation (.invalid "course"
            ("only a ders attaches to a class — a club or etüt is joined " ++
              "individually, not attached")))
        else
          match r.classGroup.lookup pumping.classId with
          | none => .ok (.gone, r)
          | some row =>
              if row.classCourseCount < maxClassCourses then
                let link : ClassCourse :=
                  ⟨pumping.classId, course, pumping.by_, pumping.now, 0⟩
                let linked : Roster :=
                  { r with
                    classGroup := r.classGroup.insert pumping.classId
                      { row with classCourseCount := row.classCourseCount + 1 }
                    course := r.course.insert course
                      { taught with classCourseCount := taught.classCourseCount + 1 }
                    classCourse := r.classCourse.insert id link }
                match enrollPairs pumping linked
                    ((linked.liveMembers pumping.classId).map fun user => (id, user)) with
                | .error instance_ => .ok (.courseGone instance_, r)
                | .ok r' => .ok (.made ((r'.classCourse.lookup id).getD link), r')
              else .ok (.classFull, r)

def release (r : Roster) (pair : ClassCourseId × UserId) : Roster :=
  match r.enrollment.lookup pair with
  | none => r
  | some _ => releaseEnrolled { r with enrollment := r.enrollment.erase pair } pair.1

/-- The enrollment rows of `user` that the section pumped. -/
def pumpedRows (r : Roster) (classId : ClassGroupId) (user : UserId) :
    List (ClassCourseId × UserId) :=
  (r.enrollment.entries.filter fun row =>
    decide (row.1.2 = user) && decide (row.2.source = some classId)).map fun row => row.1

/-- `drop_member`: the soft exit stamps the stint, the hard one deletes it.  `false` means
that there was no live stint. -/
def dropMember (r : Roster) (classId : ClassGroupId) (user : UserId) (soft : Bool)
    (now : Timestamp) : Bool × Roster :=
  if r.isLiveMember classId user then
    let ended : Roster :=
      { r with
        classMember :=
          if soft then
            Table.update r.classMember fun _ row =>
              if isLiveStint classId user row then { row with leftAt := some now } else row
          else Table.deleteWhere r.classMember fun _ row => isLiveStint classId user row }
    let seated := ended.releaseMember classId
    (true, (seated.pumpedRows classId user).foldl release seated)
  else (false, r)

/-- `sweep_instance_subtree`, as far as the roster goes. -/
def sweepInstance (r : Roster) (instance_ : ClassCourseId) : Roster :=
  { r with
    enrollment := Table.deleteWhere r.enrollment fun pair _ => pair.1 = instance_
    classCourseTeacher :=
      Table.deleteWhere r.classCourseTeacher fun pair _ => pair.1 = instance_ }

def instanceOf (r : Roster) (classId : ClassGroupId) (course : CourseId) :
    Option ClassCourseId :=
  (r.classCourse.entries.find? fun row =>
    decide (row.2.classId = classId) && decide (row.2.course = course)).map fun row => row.1

/-- `detach_course` by hand. -/
def detachCourse (r : Roster) (classId : ClassGroupId) (course : CourseId) : Bool × Roster :=
  match r.instanceOf classId course with
  | none => (false, r)
  | some instance_ =>
      let swept := r.sweepInstance instance_
      let unlinked := { swept with classCourse := swept.classCourse.erase instance_ }
      (true, (unlinked.releaseCourse classId).releaseSection course)

/-- The verdict of the enroll transaction. -/
inductive Verdict where
  | held
  | unfit
  | made (row : Enrollment)

/-- The transaction of `enroll`, with the role read under the lock on the user row. -/
def enrollTx (r : Roster) (role : Option Role) (pair : ClassCourseId × UserId)
    (row : Enrollment) : Except AppError (Verdict × Roster) :=
  if (r.enrollment.lookup pair).isSome then .ok (.held, r)
  else if role ≠ some .student then .ok (.unfit, r)
  else
    match r.classCourse.lookup pair.1 with
    | none => .error .notFound
    | some instance_ =>
        .ok (.made row,
          { r with
            classCourse := r.classCourse.insert pair.1
              { instance_ with enrollmentCount := instance_.enrollmentCount + 1 }
            enrollment := r.enrollment.insert pair row })

/-- `UPDATE enrollment SET source = NULL` of a pumped row. -/
def disown (r : Roster) (pair : ClassCourseId × UserId) : Roster :=
  { r with
    enrollment := Table.update r.enrollment fun key row =>
      if key = pair then { row with source := none } else row }

/-! ## Sections, courses and staff -/

/-- `class_group::delete`: refused while the section holds students or courses. -/
def deleteClass (r : Roster) (classId : ClassGroupId) : Except AppError (Bool × Roster) :=
  match r.classGroup.lookup classId with
  | none => .error .notFound
  | some row =>
      if row.classMemberCount ≠ 0 ∨ row.classCourseCount ≠ 0 then .ok (false, r)
      else
        .ok (true,
          { r with
            classMember :=
              Table.update (Table.deleteWhere r.classMember fun _ row => row.classId = classId)
                fun _ row =>
                  if row.sourceClassGroup = some classId then
                    { row with sourceClassGroup := none }
                  else row
            enrollment := Table.update r.enrollment fun _ row =>
              if row.source = some classId then { row with source := none } else row
            classGroup := r.classGroup.erase classId })

/-- `course::delete`, the guard on individual memberships taken from outside. -/
def deleteCourse (r : Roster) (course : CourseId) (memberships : ℤ) :
    Except AppError (Bool × Roster) :=
  match r.course.lookup course with
  | none => .error .notFound
  | some row =>
      if row.classCourseCount ≠ 0 ∨ memberships ≠ 0 then .ok (false, r)
      else
        let taught (id : ClassCourseId) : Bool :=
          (r.classCourse.lookup id).any fun row => row.course = course
        let classes := (r.classCourse.entries.filter fun row => row.2.course = course).map
          fun row => row.2.classId
        .ok (true,
          { r with
            enrollment := Table.deleteWhere r.enrollment fun pair _ => taught pair.1
            classCourseTeacher :=
              Table.deleteWhere r.classCourseTeacher fun pair _ => taught pair.1
            classCourse := Table.deleteWhere r.classCourse fun _ row => row.course = course
            classGroup := Table.update r.classGroup fun id row =>
              if id ∈ classes then
                { row with classCourseCount := max (row.classCourseCount - 1) 0 }
              else row
            course := r.course.erase course })

def setHomeroom (r : Roster) (classId : ClassGroupId) (teacher : Option UserId) : Roster :=
  { r with
    classGroup := Table.update r.classGroup fun id row =>
      if id = classId then { row with teacher := teacher } else row }

/-- `class_course_teacher::assign`: idempotent, and nothing for an instance that is gone. -/
def assign (r : Roster) (instance_ : ClassCourseId) (teacher : UserId) : Roster :=
  match r.classCourse.lookup instance_ with
  | none => r
  | some _ =>
      { r with
        classCourseTeacher := r.classCourseTeacher.insert (instance_, teacher) () }

def unassign (r : Roster) (instance_ : ClassCourseId) (teacher : UserId) : Roster :=
  { r with classCourseTeacher := r.classCourseTeacher.erase (instance_, teacher) }

/-- `class_course_teacher::unassign_everywhere` -/
def unassignInstances (r : Roster) (user : UserId) : Roster :=
  { r with
    classCourseTeacher := Table.deleteWhere r.classCourseTeacher fun pair _ => pair.2 = user }

/-- `class_group::unassign_everywhere` -/
def unassignClasses (r : Roster) (user : UserId) : Roster :=
  { r with
    classGroup := Table.update r.classGroup fun _ row =>
      if row.teacher = some user then { row with teacher := none } else row }

/-- What a role other than `student` sheds: the live stints and every enrollment row, each
section and instance getting its count back once. -/
def shed (r : Roster) (user : UserId) (now : Timestamp) : Roster :=
  { r with
    classMember := Table.update r.classMember fun _ row =>
      if row.user = user ∧ row.leftAt = none then { row with leftAt := some now } else row
    classGroup := Table.update r.classGroup fun id row =>
      if r.isLiveMember id user then
        { row with classMemberCount := max (row.classMemberCount - 1) 0 }
      else row
    enrollment := Table.deleteWhere r.enrollment fun pair _ => pair.2 = user
    classCourse := Table.update r.classCourse fun id row =>
      if (r.enrollment.lookup (id, user)).isSome then
        { row with enrollmentCount := max (row.enrollmentCount - 1) 0 }
      else row }

/-- The staffing rows and the homeroom references of `user`, as a statement sees them. -/
def staffedBy (r : Roster) (user : UserId) : List ClassCourseId :=
  (r.classCourseTeacher.entries.filter fun row => row.1.2 = user).map fun row => row.1.1

def homeroomsOf (r : Roster) (user : UserId) : List ClassGroupId :=
  (r.classGroup.entries.filter fun row => row.2.teacher = some user).map fun row => row.1

def unstaff (r : Roster) (user : UserId) (instances : List ClassCourseId)
    (classes : List ClassGroupId) : Roster :=
  { r with
    classCourseTeacher := Table.deleteWhere r.classCourseTeacher fun pair _ =>
      pair.2 = user ∧ pair.1 ∈ instances
    classGroup := Table.update r.classGroup fun id row =>
      if id ∈ classes then { row with teacher := none } else row }

end Roster

end Hezarfen.School
