import Hezarfen.Provisioning
import Hezarfen.SchoolDomain
import Hezarfen.SettingsMerge

/-!
# Accounts, memberships and sessions

A person is a global account of the control database, and every school keeps an `app_user` row
of its own for the people it knows.  No transaction spans two databases: a call writes one half
after the other, each statement commits by itself and may fail, and a crash after any of them
leaves what was written.
-/

namespace Hezarfen.Accounts

open Interleaving
open Provisioning (SchoolStatus)
open School (Role)
open SchoolSettings (trim trim_trim)

structure PersonId where
  uuid : Uuid
  deriving DecidableEq

/-! ## Credentials -/

inductive Malformed where
  | domain (error : ValidationError)
  | notAscii (field : String)
  | tooShort (field : String) (min got : ℕ)

inductive Refusal where
  | unauthorized
  | malformed (error : Malformed)
  | conflictCoded (code message : String)
  | app (error : AppError)

def minUsernameLen : ℕ := 3

def maxUsernameLen : ℕ := 32

def minPasswordLen : ℕ := 6

def maxPasswordLen : ℕ := 128

def maxStudentNumberLen : ℕ := 32

def sessionDurationDays : ℤ := 7

def usernameSeparators : List Char := ['.', '_', '-']

def reservedUsernames : List String :=
  ["admin", "administrator", "root", "support", "system", "moderator", "staff"]

/-- The checks on a trimmed name, in the order of the refusals. -/
def validateUsername (value : List Char) : Except Malformed Unit :=
  let refused (reason : String) : Except Malformed Unit :=
    .error (.domain (.invalid "username" reason))
  if value.isEmpty then .error (.domain (.empty "username"))
  else if value.any fun c => decide (127 < c.toNat) then .error (.notAscii "username")
  else if value.length < minUsernameLen then
    .error (.tooShort "username" minUsernameLen value.length)
  else if maxUsernameLen < value.length then
    .error (.domain (.tooLong "username" maxUsernameLen value.length))
  else if value.any Char.isUpper then refused "must be all lowercase"
  else if !value.all fun c => c.isLower || c.isDigit || usernameSeparators.contains c then
    refused "may contain only lowercase letters, digits, '.', '_' and '-'"
  else if !(value.head?.any Char.isAlphanum && value.getLast?.any Char.isAlphanum) then
    refused "must start and end with a letter or digit"
  else if (value.zip value.tail).any fun pair =>
      usernameSeparators.contains pair.1 && usernameSeparators.contains pair.2 then
    refused "must not contain consecutive '.', '_' or '-'"
  else .ok ()

/-- Names are stored trimmed. -/
structure Username where
  text : String
  trimmed : trim text = text
  deriving DecidableEq

def Username.tryNew (value : String) : Except Malformed Username :=
  (validateUsername (trim value).toList).map fun _ => ⟨trim value, trim_trim value⟩

structure Password where
  text : String
  deriving DecidableEq

def Password.tryNew (value : String) : Except Malformed Password :=
  let len := value.toList.length
  if len < minPasswordLen then .error (.tooShort "password" minPasswordLen len)
  else if maxPasswordLen < len then .error (.domain (.tooLong "password" maxPasswordLen len))
  else .ok ⟨value⟩

/-- The password hash; the first argument of `hash` is the salt. -/
structure Argon (Hash : Type) where
  hash : ℕ → Password → Hash
  verify : Hash → Password → Bool

def nonStudentRefusal : ValidationError :=
  .invalid "student_number" "only a student account may hold a student number"

/-- A number that is blank is none. -/
def mergeStudentNumber (patch : Option String) (role : Role) :
    Except ValidationError (Option String) :=
  match patch with
  | none => .ok none
  | some raw =>
      if (trim raw).isEmpty then .ok none
      else if role ≠ .student then .error nonStudentRefusal
      else
        (Boards.validateRequired "student_number" (trim raw) maxStudentNumberLen).map
          fun _ => some (trim raw)

/-- `creator` is the call that inserted the row, `replaced` the hashes that it had before, the
last one first. -/
structure Person (Hash : Type) where
  username : Username
  passwordHash : Hash
  creator : ℕ
  replaced : List Hash

section Person

variable {Hash : Type} (row : Person Hash)

/-- How often the password was replaced. -/
def Person.version : ℕ := row.replaced.length

def Person.hashes : List Hash := row.passwordHash :: row.replaced

def Person.rehash (hash : Hash) : Person Hash :=
  { row with
    passwordHash := hash
    replaced := row.passwordHash :: row.replaced }

end Person

/-- `version` is that of the password that the login was checked against. -/
structure PersonSession where
  person : PersonId
  expiresAt : Timestamp
  version : ℕ

structure AppUser where
  username : Username
  person : Option PersonId
  role : Role
  studentNumber : Option String

/-- `holder` is the person who logged in, `version` as in a session of a person. -/
structure UserSession where
  user : UserId
  expiresAt : Timestamp
  holder : PersonId
  version : ℕ

/-- The database of one school. -/
structure SchoolDb where
  appUser : Table UserId AppUser
  userSession : Table String UserSession

structure Db (Hash : Type) where
  person : Table PersonId (Person Hash)
  personSchool : Table (PersonId × SchoolId) Unit
  personSession : Table String PersonSession
  school : Table SchoolId SchoolStatus
  database : Table SchoolId SchoolDb
  /-- The schools whose database was dropped.  Its name comes from the id, and is not used again. -/
  dropped : List SchoolId

structure Db.Deployed {Hash : Type} (s : Db Hash) : Prop where
  person : s.person = ∅
  personSchool : s.personSchool = ∅
  personSession : s.personSession = ∅
  database : ∀ id db, s.database.lookup id = some db → db = ⟨∅, ∅⟩

def isPast (t now : Timestamp) : Bool := decide (t < now)

def inDays (days : ℤ) (now : Timestamp) : Timestamp :=
  saturatingAdd now (saturatingMul days 86400000)

section Reads

variable {Hash : Type} (s : Db Hash)

def Db.personNamed (username : String) : Option (PersonId × Person Hash) :=
  s.person.first fun _ row => decide (row.username.text = trim username)

def SchoolDb.userNamed (db : SchoolDb) (username : String) : Option (UserId × AppUser) :=
  db.appUser.first fun _ row => decide (row.username.text = trim username)

def Db.memberships (person : PersonId) : List (SchoolId × SchoolStatus) :=
  (s.school.entries.map fun row => (row.1, row.2)).filter fun school =>
    (s.personSchool.lookup (person, school.1)).isSome

/-- `Tenants::get`: a school that the caller may enter. -/
def Db.tenant (id : SchoolId) : Except Refusal Unit :=
  match s.school.lookup id with
  | none => .error .unauthorized
  | some .suspended => .error (.app (.forbidden "school is suspended"))
  | some .provisioning => .error (.app (.forbidden "school is still being provisioned"))
  | some .active => .ok ()

/-- `Tenants::get_any_status` -/
def Db.tenantAnyStatus (id : SchoolId) : Except Refusal Unit :=
  match s.school.lookup id with
  | none => .error (.app .notFound)
  | some .provisioning => .error (.app (.conflict "school is still being provisioned"))
  | some _ => .ok ()

/-- A `session` cookie, by its prefix. -/
inductive Cookie where
  | person (token : String)
  | school (id : SchoolId) (token : String)
  | builder (token : String)

def Db.personOf (now : Timestamp) : Option Cookie → Option (String × PersonSession)
  | some (.person token) =>
      ((s.personSession.lookup token).filter fun session =>
        !isPast session.expiresAt now).map fun session => (token, session)
  | _ => none

end Reads

inductive Origin where
  | register (school : SchoolId)
  | createUser (school : SchoolId) (role : Role) (studentNumber : Option String)
  | createSchool
  | ensureAdmin (school : SchoolId)

def Origin.role : Origin → Role
  | .register _ => .student
  | .createUser _ role _ => role
  | .createSchool => .admin
  | .ensureAdmin _ => .admin

def Origin.studentNumber : Origin → Option String
  | .createUser _ _ number => number
  | _ => none

/-- A person on the way into a school. -/
structure Joining where
  origin : Origin
  school : SchoolId
  person : PersonId
  username : Username
  password : Password

/-- How a person comes to a school session. -/
inductive Via where
  | login (username : Username)
  | select (token : String)

inductive Request where
  | register (school : Option SchoolId) (username password : String)
  | createUser (school : SchoolId) (username password : String) (role studentNumber : Option String)
  | createSchool (adminUsername adminPassword : String)
  | ensureAdmin (school : SchoolId) (username : Username) (password : Password)
  | login (username password : String)
  | selectSchool (cookie : Option Cookie) (school : Option SchoolId)
  | resetAdminPassword (school : Option SchoolId) (username password : String)

/-- A program point is named after the statement that comes next.  `since` is the version of the
person once the password was replaced. -/
inductive Point (Hash : Type) where
  | register (school : Option SchoolId) (username password : String)
  | createUser (school : SchoolId) (username password : String) (role studentNumber : Option String)
  | createSchool (adminUsername adminPassword : String)
  | ensureAdmin (school : SchoolId) (username : Username) (password : Password)
  | createPerson (origin : Origin) (username : Username) (password : Password) (hash : Hash)
  | loadPerson (origin : Origin) (username : Username) (password : Password)
  | insertSchool (person : PersonId) (username : Username) (password : Password)
  | createDatabase (joining : Joining)
  | activate (joining : Joining)
  | createRow (joining : Joining)
  | linkSchool (joining : Joining)
  | findAdmin (joining : Joining)
  | readSchool (school : SchoolId)
  | deleteSchool (school : SchoolId)
  | dropLeftover (school : SchoolId)
  | dropDatabase (school : SchoolId) (refusal : Refusal)
  | dropRegistry (school : SchoolId) (refusal : Refusal)
  | login (username password : String)
  | memberships (person : PersonId) (username : Username) (version : ℕ)
  | selectSchool (cookie : Option Cookie) (school : Option SchoolId)
  | membershipOf (token : String) (session : PersonSession) (school : SchoolId)
  | openSchool (via : Via) (school : SchoolId) (person : PersonId) (version : ℕ)
  | readPerson (token : String) (school : SchoolId) (person : PersonId) (version : ℕ)
  | findUser (via : Via) (school : SchoolId) (person : PersonId) (version : ℕ)
      (username : Username)
  | purgeExpired (via : Via) (school : SchoolId) (person : PersonId) (version : ℕ) (user : UserId)
  | mint (via : Via) (school : SchoolId) (person : PersonId) (version : ℕ) (user : UserId)
  | mintPerson (person : PersonId) (version : ℕ) (schools : List SchoolId)
  | deleteSession (token : String) (cookie : Cookie)
  | resetAdminPassword (school : Option SchoolId) (username password : String)
  | findAccount (school : SchoolId) (username password : String)
  | setHash (school : SchoolId) (user : UserId) (username : Username) (hash : Hash)
  | revokeUser (school : SchoolId) (user : UserId) (username : Username) (since : ℕ)
  | findReset (school : SchoolId) (user : UserId) (username : Username) (since : ℕ)
  | revokePerson (school : SchoolId) (person : PersonId) (since : ℕ)

structure World where
  fails : Bool
  uuid : Uuid
  salt : ℕ
  token : String
  now : Timestamp

inductive Answer where
  /-- The same for every outcome of a registration. -/
  | registered (username : Username)
  | created (username : Username) (role : Role)
  | school (id : SchoolId)
  | seeded
  | loggedIn (cookie : Cookie)
  | choose (cookie : Cookie) (schools : List SchoolId)
  | reset

abbrev Reply (Hash : Type) := Next (Point Hash) (Except Refusal Answer)

def refuse {Hash : Type} (e : Refusal) : Reply Hash := .answer (.error e)

def done {Hash : Type} (a : Answer) : Reply Hash := .answer (.ok a)

variable {Hash : Type} (argon : Argon Hash)

def register (s : Db Hash) (w : World) (school : Option SchoolId) (username password : String) :
    Reply Hash :=
  match school with
  | none => refuse .unauthorized
  | some school =>
      match s.tenant school with
      | .error e => refuse e
      | .ok () =>
          match Username.tryNew username with
          | .error e => refuse (.malformed e)
          | .ok username =>
              if username.text ∈ reservedUsernames then
                refuse (.malformed (.domain (.invalid "username" "this username is reserved")))
              else
                match Password.tryNew password with
                | .error e => refuse (.malformed e)
                | .ok password =>
                    .goto (.createPerson (.register school) username password
                      (argon.hash w.salt password))

/-- An admin of the school asks. -/
def createUser (w : World) (school : SchoolId) (username password : String)
    (role studentNumber : Option String) : Reply Hash :=
  match Username.tryNew username with
  | .error e => refuse (.malformed e)
  | .ok username =>
      if username.text ∈ reservedUsernames then
        refuse (.malformed (.domain (.invalid "username" "this username is reserved")))
      else
        match (role.map Role.tryFromStr).getD (.ok .student) with
        | .error e => refuse (.app (.validation e))
        | .ok role =>
            match mergeStudentNumber studentNumber role with
            | .error e => refuse (.app (.validation e))
            | .ok number =>
                match Password.tryNew password with
                | .error e => refuse (.malformed e)
                | .ok password =>
                    .goto (.createPerson (.createUser school role number) username password
                      (argon.hash w.salt password))

def createSchool (w : World) (adminUsername adminPassword : String) : Reply Hash :=
  match Username.tryNew adminUsername with
  | .error e => refuse (.malformed e)
  | .ok username =>
      match Password.tryNew adminPassword with
      | .error e => refuse (.malformed e)
      | .ok password =>
          .goto (.createPerson .createSchool username password (argon.hash w.salt password))

def ensureAdmin (s : Db Hash) (w : World) (school : SchoolId) (username : Username)
    (password : Password) : Reply Hash :=
  match s.tenant school with
  | .error e => refuse e
  | .ok () =>
      .goto (.createPerson (.ensureAdmin school) username password (argon.hash w.salt password))

/-- The unique index on the name is the availability check, and a conflict is no refusal. -/
def createPerson (s : Db Hash) (call : ℕ) (w : World) (origin : Origin) (username : Username)
    (password : Password) (hash : Hash) : Db Hash × Reply Hash :=
  if s.person.any fun _ row => decide (row.username = username) then
    (s, .goto (.loadPerson origin username password))
  else if (s.person.lookup ⟨w.uuid⟩).isSome then (s, refuse (.app .db))
  else
    ({ s with person := s.person.insert ⟨w.uuid⟩ ⟨username, hash, call, []⟩ },
      .goto (.loadPerson origin username password))

def differentPassword : Refusal :=
  .app (.conflict "an account with that username exists under a different password")

def loadPerson (s : Db Hash) (origin : Origin) (username : Username) (password : Password) :
    Reply Hash :=
  match s.personNamed username.text with
  | none => refuse (.app (.internal "the person vanished as it was written"))
  | some (person, row) =>
      match origin with
      | .register school =>
          if argon.verify row.passwordHash password then
            .goto (.createRow ⟨origin, school, person, username, password⟩)
          else done (.registered username)
      | .createUser school _ _ =>
          if argon.verify row.passwordHash password then
            .goto (.createRow ⟨origin, school, person, username, password⟩)
          else refuse differentPassword
      | .createSchool =>
          if argon.verify row.passwordHash password then
            .goto (.insertSchool person username password)
          else refuse differentPassword
      | .ensureAdmin school =>
          .goto (.linkSchool ⟨origin, school, person, username, password⟩)

/-! ## The school half -/

/-- A row that was refused: a registration takes a conflict for a membership, and a new school is
taken back. -/
def refusedRow (joining : Joining) (e : Refusal) : Reply Hash :=
  match joining.origin, e with
  | .register _, .app (.conflict _) => .goto (.linkSchool joining)
  | .createSchool, _ => .goto (.dropDatabase joining.school e)
  | _, _ => refuse e

def afterRow (joining : Joining) : Reply Hash :=
  match joining.origin with
  | .ensureAdmin _ => done .seeded
  | _ => .goto (.linkSchool joining)

/-- The row that the school is to keep. -/
def Joining.row (joining : Joining) : AppUser :=
  { username := joining.username
    person := some joining.person
    role := joining.origin.role
    studentNumber := joining.origin.studentNumber }

def Db.withSchoolDb (s : Db Hash) (school : SchoolId) (db : SchoolDb) : Db Hash :=
  { s with database := s.database.insert school db }

/-- `INSERT INTO app_user …`, with its key and its three unique indexes. -/
def createRow (s : Db Hash) (w : World) (joining : Joining) : Db Hash × Reply Hash :=
  match s.database.lookup joining.school with
  | none => (s, refusedRow joining (.app .db))
  | some db =>
      if (db.appUser.lookup ⟨w.uuid⟩).isSome then (s, refusedRow joining (.app .db))
      else if db.appUser.any fun _ other => decide (other.username = joining.username) then
        (s, refusedRow joining (.app (.conflict "username already taken")))
      else if db.appUser.any fun _ other => decide (other.person = some joining.person) then
        (s, refusedRow joining (.app .db))
      else if joining.origin.studentNumber.isSome && db.appUser.any fun _ other =>
          decide (other.studentNumber = joining.origin.studentNumber) then
        (s, refusedRow joining
          (.conflictCoded "student_number_taken" "student number already taken"))
      else
        (s.withSchoolDb joining.school
            { db with appUser := db.appUser.insert ⟨w.uuid⟩ joining.row },
          afterRow joining)

def afterLink (joining : Joining) : Reply Hash :=
  match joining.origin with
  | .register _ => done (.registered joining.username)
  | .createUser _ role _ => done (.created joining.username role)
  | .createSchool => .goto (.readSchool joining.school)
  | .ensureAdmin _ => .goto (.findAdmin joining)

/-- A school that is gone joins nothing. -/
def linkSchool (s : Db Hash) (joining : Joining) : Db Hash × Reply Hash :=
  (if (s.school.lookup joining.school).isSome then
    { s with personSchool := s.personSchool.insert (joining.person, joining.school) () }
  else s, afterLink joining)

/-- An account that is there is left alone, whatever its role. -/
def findAdmin (s : Db Hash) (joining : Joining) : Reply Hash :=
  match s.database.lookup joining.school with
  | none => refuse (.app .db)
  | some db =>
      match db.userNamed joining.username.text with
      | some _ => done .seeded
      | none => .goto (.createRow joining)

def insertSchool (s : Db Hash) (w : World) (person : PersonId) (username : Username)
    (password : Password) : Db Hash × Reply Hash :=
  if (s.school.lookup ⟨w.uuid⟩).isSome then (s, refuse (.app .db))
  else
    ({ s with school := s.school.insert ⟨w.uuid⟩ .provisioning },
      .goto (.createDatabase ⟨.createSchool, ⟨w.uuid⟩, person, username, password⟩))

def createDatabase (s : Db Hash) (joining : Joining) : Option (Db Hash × Reply Hash) :=
  if joining.school ∈ s.dropped then none
  else if (s.database.lookup joining.school).isSome then some (s, .goto (.activate joining))
  else some (s.withSchoolDb joining.school ⟨∅, ∅⟩, .goto (.activate joining))

def activate (s : Db Hash) (joining : Joining) : Db Hash × Reply Hash :=
  ({ s with
      school := Table.update s.school fun id status =>
        if id = joining.school then .active else status },
    .goto (.createRow joining))

def readSchool (s : Db Hash) (school : SchoolId) : Reply Hash :=
  match s.school.lookup school with
  | none => refuse (.app (.internal "the school vanished as it was created"))
  | some _ => done (.school school)

def Db.withoutSchool (s : Db Hash) (school : SchoolId) : Db Hash :=
  { s with school := s.school.erase school }

def Db.withoutDatabase (s : Db Hash) (school : SchoolId) : Db Hash :=
  { s with
    database := s.database.erase school
    dropped := school :: s.dropped }

/-- The memberships and the registry row go in one transaction. -/
def Db.withoutMembers (s : Db Hash) (school : SchoolId) : Db Hash :=
  { s with
    personSchool := s.personSchool.deleteWhere fun key _ => decide (key.2 = school)
    school := s.school.erase school }

/-! ## Sessions -/

def login (s : Db Hash) (username password : String) : Reply Hash :=
  match Password.tryNew password with
  | .error _ => refuse .unauthorized
  | .ok password =>
      match s.personNamed username with
      | none => refuse .unauthorized
      | some (person, row) =>
          if argon.verify row.passwordHash password then
            .goto (.memberships person row.username row.version)
          else refuse .unauthorized

def memberships (s : Db Hash) (person : PersonId) (username : Username) (version : ℕ) :
    Reply Hash :=
  match (s.memberships person).filter fun school => decide (school.2 = .active) with
  | [] =>
      if (s.memberships person).isEmpty then refuse .unauthorized
      else refuse (.app (.forbidden "school is suspended"))
  | [only] => .goto (.openSchool (.login username) only.1 person version)
  | many => .goto (.mintPerson person version (many.map Prod.fst))

def selectSchool (s : Db Hash) (w : World) (cookie : Option Cookie) (school : Option SchoolId) :
    Reply Hash :=
  match s.personOf w.now cookie, school with
  | some (token, session), some school => .goto (.membershipOf token session school)
  | _, _ => refuse .unauthorized

def membershipOf (s : Db Hash) (token : String) (session : PersonSession) (school : SchoolId) :
    Reply Hash :=
  if (s.personSchool.lookup (session.person, school)).isSome && (s.school.lookup school).isSome then
    .goto (.openSchool (.select token) school session.person session.version)
  else refuse .unauthorized

def openSchool (s : Db Hash) (via : Via) (school : SchoolId) (person : PersonId) (version : ℕ) :
    Reply Hash :=
  match s.tenant school with
  | .error e => refuse e
  | .ok () =>
      match via with
      | .login username => .goto (.findUser via school person version username)
      | .select token => .goto (.readPerson token school person version)

def readPerson (s : Db Hash) (token : String) (school : SchoolId) (person : PersonId)
    (version : ℕ) : Reply Hash :=
  match s.person.lookup person with
  | none => refuse .unauthorized
  | some row => .goto (.findUser (.select token) school person version row.username)

def findUser (s : Db Hash) (via : Via) (school : SchoolId) (person : PersonId) (version : ℕ)
    (username : Username) : Reply Hash :=
  match s.database.lookup school with
  | none => refuse (.app .db)
  | some db =>
      match db.userNamed username.text with
      | none => refuse .unauthorized
      | some (user, _) =>
          match via with
          | .login _ => .goto (.purgeExpired via school person version user)
          | .select _ => .goto (.mint via school person version user)

/-- `DELETE FROM user_session WHERE p` in the database of a school, when it is there. -/
def Db.deleteSessions (s : Db Hash) (school : SchoolId) (p : UserSession → Bool) : Db Hash :=
  match s.database.lookup school with
  | none => s
  | some db =>
      s.withSchoolDb school
        { db with userSession := db.userSession.deleteWhere fun _ session => p session }

def purgeExpired (s : Db Hash) (w : World) (via : Via) (school : SchoolId) (person : PersonId)
    (version : ℕ) (user : UserId) : Db Hash × Reply Hash :=
  (s.deleteSessions school fun session => decide (session.expiresAt < w.now),
    .goto (.mint via school person version user))

def mint (s : Db Hash) (w : World) (via : Via) (school : SchoolId) (person : PersonId)
    (version : ℕ) (user : UserId) : Db Hash × Reply Hash :=
  match s.database.lookup school with
  | none => (s, refuse (.app .db))
  | some db =>
      if (db.appUser.lookup user).isSome && (db.userSession.lookup w.token).isNone then
        (s.withSchoolDb school
            { db with
              userSession := db.userSession.insert w.token
                ⟨user, inDays sessionDurationDays w.now, person, version⟩ },
          match via with
          | .login _ => done (.loggedIn (.school school w.token))
          | .select token => .goto (.deleteSession token (.school school w.token)))
      else (s, refuse (.app .db))

def mintPerson (s : Db Hash) (w : World) (person : PersonId) (version : ℕ)
    (schools : List SchoolId) : Db Hash × Reply Hash :=
  if (s.personSession.lookup w.token).isSome then (s, refuse (.app .db))
  else
    ({ s with
        personSession := s.personSession.insert w.token
          ⟨person, inDays sessionDurationDays w.now, version⟩ },
      done (.choose (.person w.token) schools))

def deleteSession (s : Db Hash) (token : String) (cookie : Cookie) : Db Hash × Reply Hash :=
  ({ s with personSession := s.personSession.erase token }, done (.loggedIn cookie))

/-! ## A password reset -/

def resetAdminPassword (s : Db Hash) (school : Option SchoolId) (username password : String) :
    Reply Hash :=
  match school with
  | none => refuse (.app .notFound)
  | some school =>
      match s.tenantAnyStatus school with
      | .error e => refuse e
      | .ok () => .goto (.findAccount school username password)

def findAccount (s : Db Hash) (w : World) (school : SchoolId) (username password : String) :
    Reply Hash :=
  match s.database.lookup school with
  | none => refuse (.app .db)
  | some db =>
      match db.userNamed username with
      | none => refuse (.app .notFound)
      | some (user, row) =>
          if row.role ≠ .admin then
            refuse (.app (.conflict "that account is not an admin of this school"))
          else
            match Password.tryNew password with
            | .error e => refuse (.malformed e)
            | .ok password =>
                .goto (.setHash school user row.username (argon.hash w.salt password))

/-- `UPDATE person SET password_hash = … WHERE username = …` -/
def Db.setPasswordHash (s : Db Hash) (username : Username) (hash : Hash) : Db Hash :=
  { s with
    person := Table.update s.person fun _ row =>
      if row.username = username then row.rehash hash else row }

def Db.versionOf (s : Db Hash) (username : Username) : ℕ :=
  (s.personNamed username.text).elim 0 fun row => row.2.version

def setHash (s : Db Hash) (school : SchoolId) (user : UserId) (username : Username)
    (hash : Hash) : Db Hash × Reply Hash :=
  let s' := s.setPasswordHash username hash
  (s', .goto (.revokeUser school user username (s'.versionOf username)))

def revokeUser (s : Db Hash) (school : SchoolId) (user : UserId) (username : Username)
    (since : ℕ) : Db Hash × Reply Hash :=
  (s.deleteSessions school fun session => decide (session.user = user),
    if (s.database.lookup school).isSome then .goto (.findReset school user username since)
    else refuse (.app .db))

def findReset (s : Db Hash) (school : SchoolId) (username : Username) (since : ℕ) : Reply Hash :=
  match s.personNamed username.text with
  | none => done .reset
  | some (person, _) => .goto (.revokePerson school person since)

def revokePerson (s : Db Hash) (person : PersonId) : Db Hash × Reply Hash :=
  ({ s with
      personSession := s.personSession.deleteWhere fun _ session =>
        decide (session.person = person) },
    done .reset)

/-- What follows a statement that fails. -/
def Point.failed : Point Hash → Reply Hash
  | .createRow joining => refusedRow joining (.app .db)
  | .linkSchool joining =>
      match joining.origin with
      | .createSchool => .goto (.dropDatabase joining.school (.app .db))
      | _ => refuse (.app .db)
  | .createDatabase joining => .goto (.deleteSchool joining.school)
  | .activate joining => .goto (.deleteSchool joining.school)
  | .deleteSchool school => .goto (.dropLeftover school)
  | .dropDatabase _ e => refuse e
  | .dropRegistry _ e => refuse e
  | .purgeExpired via school person version user => .goto (.mint via school person version user)
  | _ => refuse (.app .db)

def serve (call : ℕ) (s : Db Hash) (w : World) :
    Point Hash → Option (Db Hash × Reply Hash)
  | .register school username password => some (s, register argon s w school username password)
  | .createUser school username password role number =>
      some (s, createUser argon w school username password role number)
  | .createSchool username password => some (s, createSchool argon w username password)
  | .ensureAdmin school username password =>
      some (s, ensureAdmin argon s w school username password)
  | .createPerson origin username password hash =>
      some (createPerson s call w origin username password hash)
  | .loadPerson origin username password => some (s, loadPerson argon s origin username password)
  | .insertSchool person username password => some (insertSchool s w person username password)
  | .createDatabase joining => createDatabase s joining
  | .activate joining => some (activate s joining)
  | .createRow joining => some (createRow s w joining)
  | .linkSchool joining => some (linkSchool s joining)
  | .findAdmin joining => some (s, findAdmin s joining)
  | .readSchool school => some (s, readSchool s school)
  | .deleteSchool school => some (s.withoutSchool school, .goto (.dropLeftover school))
  | .dropLeftover school => some (s.withoutDatabase school, refuse (.app .db))
  | .dropDatabase school e => some (s.withoutDatabase school, .goto (.dropRegistry school e))
  | .dropRegistry school e => some (s.withoutMembers school, refuse e)
  | .login username password => some (s, login argon s username password)
  | .memberships person username version => some (s, memberships s person username version)
  | .selectSchool cookie school => some (s, selectSchool s w cookie school)
  | .membershipOf token session school => some (s, membershipOf s token session school)
  | .openSchool via school person version => some (s, openSchool s via school person version)
  | .readPerson token school person version => some (s, readPerson s token school person version)
  | .findUser via school person version username =>
      some (s, findUser s via school person version username)
  | .purgeExpired via school person version user =>
      some (purgeExpired s w via school person version user)
  | .mint via school person version user => some (mint s w via school person version user)
  | .mintPerson person version schools => some (mintPerson s w person version schools)
  | .deleteSession token cookie => some (deleteSession s token cookie)
  | .resetAdminPassword school username password =>
      some (s, resetAdminPassword s school username password)
  | .findAccount school username password =>
      some (s, findAccount argon s w school username password)
  | .setHash school user username hash => some (setHash s school user username hash)
  | .revokeUser school user username since => some (revokeUser s school user username since)
  | .findReset school _ username since => some (s, findReset s school username since)
  | .revokePerson _ person _ => some (revokePerson s person)

def next (call : ℕ) (s : Db Hash) (p : Point Hash) (w : World) :
    Option (Db Hash × Reply Hash) :=
  if w.fails then some (s, p.failed) else serve argon call s w p

def Request.entry : Request → Point Hash
  | .register school username password => .register school username password
  | .createUser school username password role number =>
      .createUser school username password role number
  | .createSchool username password => .createSchool username password
  | .ensureAdmin school username password => .ensureAdmin school username password
  | .login username password => .login username password
  | .selectSchool cookie school => .selectSchool cookie school
  | .resetAdminPassword school username password => .resetAdminPassword school username password

def machine : Machine (Db Hash) (Point Hash) Request World (Except Refusal Answer) where
  entry := Request.entry
  next := next argon
  rollback _ s := s

end Hezarfen.Accounts
