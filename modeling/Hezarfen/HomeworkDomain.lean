import Hezarfen.ExamStore
import Hezarfen.SchoolDomain

/-!
# Homework, submissions, files and grades

The rows of the homework tables.  A homework is handed out in one instance, to its
whole roster or to the students its assignment rows name; a student has one
submission with any number of files, and a teacher's grade freezes it.
-/

namespace Hezarfen.Homeworks

open School (ClassCourseId)
open Exams (SubjectId Mark)

structure HomeworkId where
  uuid : Uuid
  deriving DecidableEq

structure HomeworkSubmissionId where
  uuid : Uuid
  deriving DecidableEq

structure HomeworkFileId where
  uuid : Uuid
  deriving DecidableEq

structure HomeworkResultId where
  uuid : Uuid
  deriving DecidableEq

/-- A homework as it is loaded, `assigned` put together from its assignment rows. -/
structure Homework where
  id : HomeworkId
  classCourse : ClassCourseId
  subject : SubjectId
  title : String
  description : Option String
  dueAt : Timestamp
  assigned : Option (List UserId)
  createdBy : UserId
  createdAt : Timestamp

/-- Nobody is named, or the user is. -/
def Homework.studentSees (homework : Homework) (user : UserId) : Bool :=
  match homework.assigned with
  | none => true
  | some assigned => assigned.isEmpty || user ∈ assigned

structure HomeworkSubmission where
  id : HomeworkSubmissionId
  homework : HomeworkId
  user : UserId
  text : Option String
  submittedAt : Timestamp
  updatedAt : Timestamp

structure HomeworkFile where
  id : HomeworkFileId
  submission : HomeworkSubmissionId
  name : String
  contentType : String
  size : ℤ
  file : String
  createdAt : Timestamp

inductive HomeworkStatus where
  | done
  | incomplete
  | missing

structure HomeworkResult where
  id : HomeworkResultId
  homework : HomeworkId
  user : UserId
  status : HomeworkStatus
  mark : Option Mark
  gradedBy : UserId
  createdAt : Timestamp

def maxHomeworkFilesPerSubmission : ℤ := 10

def subjectGone : AppError := .validation (.invalid "subject_id" "subject does not exist")

def staleMove : AppError :=
  .conflict "the link this update moves changed since it was read; re-read and retry"

/-- The wall before a write to graded work; `doing` ends the sentence. -/
def gradedError (doing : String) : AppError :=
  .conflict ("this homework has been graded — ask the teacher to remove the grade before " ++ doing)

def invalidUser (reason : String) : AppError := .validation (.invalid "user" reason)

end Hezarfen.Homeworks
