import Hezarfen.Domain
import Hezarfen.Interleaving
import Hezarfen.Requests

/-!
# Messages between two people

The two parties of a message share one row, in which each has a folder and a restore origin of
its own.  A handler reads the row, checks what it was asked for and writes the fields of its
own side; every statement commits by itself.
-/

namespace Hezarfen.Messages

open Interleaving

structure MessageId where
  uuid : Uuid
  deriving DecidableEq

/-! ## Folders -/

inductive Folder where
  | inbox
  | sent
  | archive
  | trash
  /-- The hidden folder of a copy that is gone. -/
  | deleted
  deriving DecidableEq

/-- The names a caller can give. -/
def Folder.tryNew (value : String) : Except ValidationError Folder :=
  if value = "inbox" then .ok .inbox
  else if value = "sent" then .ok .sent
  else if value = "archive" then .ok .archive
  else if value = "trash" then .ok .trash
  else .error (.invalid "folder" "must be one of: inbox, sent, archive, trash")

def Folder.home (isSender : Bool) : Folder := if isSender then .sent else .inbox

def senderFolders : List Folder := [.sent, .archive, .trash]

def recipientFolders : List Folder := [.inbox, .archive, .trash]

def Folder.allowedFor (isSender : Bool) : List Folder :=
  if isSender then senderFolders else recipientFolders

def Folder.isFiled : Folder → Bool
  | .archive | .trash => true
  | _ => false

def Folder.isRestoreTarget : Folder → Bool
  | .inbox | .sent | .archive => true
  | _ => false

theorem Folder.tryNew_ne_deleted {name : String} {folder : Folder}
    (h : Folder.tryNew name = .ok folder) : folder ≠ .deleted := by
  unfold tryNew at h
  split_ifs at h <;> cases h <;> decide

theorem Folder.home_not_filed (isSender : Bool) : (Folder.home isSender).isFiled = false := by
  cases isSender <;> rfl

theorem Folder.allowedFor_ne_deleted {isSender : Bool} {folder : Folder}
    (h : folder ∈ Folder.allowedFor isSender) : folder ≠ .deleted := by
  rintro rfl
  revert h
  cases isSender <;> decide

/-- A letter to somebody else.  The check of `send_message` compares the recipient as text with
the sender's key, so it lets the sender's own id in upper case pass; letters that reach their
own sender that way are left out. -/
structure Letter where
  sender : UserId
  recipient : UserId
  subject : String
  body : String
  label : Option String
  sentAt : Timestamp
  distinct : sender ≠ recipient

structure Message where
  sender : UserId
  recipient : UserId
  subject : String
  body : String
  label : Option String
  sentAt : Timestamp
  read : Bool
  senderFolder : Folder
  recipientFolder : Folder
  senderOrigin : Option Folder
  recipientOrigin : Option Folder

def send (letter : Letter) : Message :=
  { sender := letter.sender
    recipient := letter.recipient
    subject := letter.subject
    body := letter.body
    label := letter.label
    sentAt := letter.sentAt
    read := false
    senderFolder := .sent
    recipientFolder := .inbox
    senderOrigin := none
    recipientOrigin := none }

namespace Message

def isSender (message : Message) (user : UserId) : Bool := decide (message.sender = user)

def isParty (message : Message) (user : UserId) : Bool :=
  decide (message.sender = user ∨ message.recipient = user)

def folderAt (message : Message) (isSender : Bool) : Folder :=
  if isSender then message.senderFolder else message.recipientFolder

def originAt (message : Message) (isSender : Bool) : Option Folder :=
  if isSender then message.senderOrigin else message.recipientOrigin

def folderOf (message : Message) (user : UserId) : Folder :=
  message.folderAt (message.isSender user)

def originOf (message : Message) (user : UserId) : Option Folder :=
  message.originAt (message.isSender user)

def file (row : Message) (isSender : Bool) (folder : Folder) (origin : Option Folder) : Message :=
  if isSender then { row with senderFolder := folder, senderOrigin := origin }
  else { row with recipientFolder := folder, recipientOrigin := origin }

def bothDeleted (row : Message) : Bool :=
  decide (row.senderFolder = .deleted ∧ row.recipientFolder = .deleted)

section File

variable (row : Message) (isSender : Bool) (folder : Folder) (origin : Option Folder)

@[simp]
theorem file_sender : (row.file isSender folder origin).sender = row.sender := by
  cases isSender <;> rfl

@[simp]
theorem file_recipient : (row.file isSender folder origin).recipient = row.recipient := by
  cases isSender <;> rfl

@[simp]
theorem file_folderAt : (row.file isSender folder origin).folderAt isSender = folder := by
  cases isSender <;> rfl

@[simp]
theorem file_originAt : (row.file isSender folder origin).originAt isSender = origin := by
  cases isSender <;> rfl

/-- What one side files leaves the other side where it is. -/
theorem file_other {side : Bool} (hne : side ≠ isSender) :
    (row.file isSender folder origin).folderAt side = row.folderAt side ∧
      (row.file isSender folder origin).originAt side = row.originAt side := by
  cases side <;> cases isSender <;> first | exact absurd rfl hne | exact ⟨rfl, rfl⟩

end File

theorem bothDeleted_iff {row : Message} :
    row.bothDeleted = true ↔ ∀ side, row.folderAt side = .deleted := by
  simp [bothDeleted, folderAt, and_comm]

/-- `move_to`: what the copy that was read makes of the restore origin. -/
def originAfter (stale : Message) (user : UserId) (folder : Folder) : Option Folder :=
  if !folder.isFiled then none
  else if stale.folderOf user = folder then stale.originOf user
  else if (stale.folderOf user).isRestoreTarget then some (stale.folderOf user)
  else none

/-- The folder predicate of a listing. -/
def inFolder (message : Message) (user : UserId) : Folder → Bool
  | .sent => decide (message.sender = user ∧ message.senderFolder = .sent)
  | .archive =>
      decide (message.recipient = user ∧ message.recipientFolder = .archive ∨
        message.sender = user ∧ message.senderFolder = .archive)
  | .trash =>
      decide (message.recipient = user ∧ message.recipientFolder = .trash ∨
        message.sender = user ∧ message.senderFolder = .trash)
  | folder => decide (message.recipient = user ∧ message.recipientFolder = folder)

/-- The filters are appended to the text of the folder's predicate.  `AND` binds tighter than
the `OR` of the archive and of the trash, so there they narrow the sent copies only. -/
def selected (message : Message) (user : UserId) (folder : Folder) (filters : Bool) : Bool :=
  if folder.isFiled then
    decide (message.recipient = user ∧ message.recipientFolder = folder) ||
      decide (message.sender = user ∧ message.senderFolder = folder) && filters
  else message.inFolder user folder && filters

theorem selected_true (message : Message) (user : UserId) (folder : Folder) :
    message.selected user folder true = message.inFolder user folder := by
  cases folder <;> simp [selected, inFolder, Folder.isFiled]

theorem inFolder_of_selected {message : Message} {user : UserId} {folder : Folder}
    {filters : Bool} (h : message.selected user folder filters = true) :
    message.inFolder user folder = true := by
  rw [← selected_true]
  cases filters with
  | true => exact h
  | false =>
      unfold selected at h ⊢
      split at h <;> simp_all

end Message

structure Db where
  message : Table MessageId Message

def Db.Delivered (s : Db) : Prop :=
  ∀ id row, s.message.lookup id = some row → ∃ letter, row = send letter

/-- What a request for a folder of the user selects.  `needle` is the free text search. -/
def Db.listFolder (s : Db) (user : UserId) (folder : Folder) (read : Option Bool)
    (needle : Message → Bool) : List (MessageId × Message) :=
  (s.message.entries.map fun row => (row.1, row.2)).filter fun row =>
    row.2.selected user folder (read.all (fun flag => row.2.read == flag) && needle row.2)

def Db.readFor (s : Db) (id : MessageId) (user : UserId) : Option Message :=
  (s.message.lookup id).filter fun message =>
    message.isParty user && decide (message.folderOf user ≠ .deleted)

/-! ## The handlers -/

structure UpdateMessage where
  read : Option Bool
  folder : Option String

inductive Request where
  | update (id : MessageId) (user : UserId) (patch : UpdateMessage)
  | delete (id : MessageId) (user : UserId)

/-- A program point is named after the statement that comes next.  `stale` is the row as the
handler knows it. -/
inductive Point where
  | readForUpdate (id : MessageId) (user : UserId) (patch : UpdateMessage)
  | setRead (id : MessageId) (user : UserId) (stale : Message) (read : Bool)
      (folder : Option Folder)
  | moveTo (id : MessageId) (user : UserId) (stale : Message) (folder : Folder)
  | readForDelete (id : MessageId) (user : UserId)
  | deleteFor (id : MessageId) (user : UserId) (stale : Message)
  | removeRow (id : MessageId) (user : UserId)

abbrev Reply := Next Point (Except AppError (Option Message))

def checked (message : Message) (user : UserId) (patch : UpdateMessage) :
    Except AppError (Option Folder) := do
  Gate.ensure (!(patch.read.isSome && message.isSender user))
    (.forbidden "only the recipient can change the read flag")
  match patch.folder with
  | none => pure none
  | some name =>
      let folder ← (Folder.tryNew name).mapError .validation
      Gate.ensure (decide (folder ∈ Folder.allowedFor (message.isSender user)))
        (.validation (.invalid "folder" "not a folder this side of the message can move to"))
      pure (some folder)

def afterFlag (id : MessageId) (user : UserId) (message : Message) : Option Folder → Reply
  | none => .answer (.ok (some message))
  | some folder => .goto (.moveTo id user message folder)

def readForUpdate (s : Db) (id : MessageId) (user : UserId) (patch : UpdateMessage) : Reply :=
  match s.readFor id user with
  | none => .answer (.error .notFound)
  | some message =>
      match checked message user patch with
      | .error e => .answer (.error e)
      | .ok folder =>
          match patch.read with
          | none => afterFlag id user message folder
          | some read => .goto (.setRead id user message read folder)

/-- `UPDATE message SET read = … WHERE id = …` -/
def setRead (s : Db) (id : MessageId) (user : UserId) (read : Bool) (folder : Option Folder) :
    Db × Reply :=
  match s.message.lookup id with
  | none => (s, .answer (.error .notFound))
  | some row =>
      (⟨s.message.insert id { row with read := read }⟩,
        afterFlag id user { row with read := read } folder)

/-- The `UPDATE` of one side, by the id alone. -/
def moveTo (s : Db) (id : MessageId) (user : UserId) (stale : Message) (folder : Folder) :
    Db × Reply :=
  match s.message.lookup id with
  | none => (s, .answer (.error .notFound))
  | some row =>
      let moved := row.file (stale.isSender user) folder (stale.originAfter user folder)
      (⟨s.message.insert id moved⟩, .answer (.ok (some moved)))

def readForDelete (s : Db) (id : MessageId) (user : UserId) : Reply :=
  match s.readFor id user with
  | none => .answer (.error .notFound)
  | some message => .goto (.deleteFor id user message)

/-- The `UPDATE` whose `WHERE` asks for the trash. -/
def deleteFor (s : Db) (id : MessageId) (user : UserId) (stale : Message) : Db × Reply :=
  match (s.message.lookup id).filter fun row =>
      decide (row.folderAt (stale.isSender user) = .trash) with
  | none =>
      (s, .answer (.error
        (.conflict "only messages in the trash can be permanently deleted")))
  | some row =>
      let after := row.file (stale.isSender user) .deleted none
      (⟨s.message.insert id after⟩,
        if after.bothDeleted then .goto (.removeRow id user) else .answer (.ok none))

/-- `DELETE FROM message WHERE id = …` -/
def removeRow (s : Db) (id : MessageId) : Db := ⟨s.message.erase id⟩

def next (_ : ℕ) (s : Db) (p : Point) (_ : Unit) : Option (Db × Reply) :=
  match p with
  | .readForUpdate id user patch => some (s, readForUpdate s id user patch)
  | .setRead id user _ read folder => some (setRead s id user read folder)
  | .moveTo id user stale folder => some (moveTo s id user stale folder)
  | .readForDelete id user => some (s, readForDelete s id user)
  | .deleteFor id user stale => some (deleteFor s id user stale)
  | .removeRow id _ => some (removeRow s id, .answer (.ok none))

def machine : Machine Db Point Request Unit (Except AppError (Option Message)) where
  entry
    | .update id user patch => .readForUpdate id user patch
    | .delete id user => .readForDelete id user
  next := next
  rollback _ s := s

end Hezarfen.Messages
