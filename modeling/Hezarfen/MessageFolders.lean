import Hezarfen.Messages
import Hezarfen.Pages
import Hezarfen.SettingsDomain
import Mathlib.Data.List.Infix

/-!
# The page of a folder

A folder is read through one predicate, and the filters of the request are appended to its text.
The predicate of the archive and of the trash is a disjunction without parentheses, so a filter
lets the received copies pass: the page is the one that was asked for exactly when every
received copy in the folder satisfies the filters anyway.
-/

namespace Hezarfen.Messages

open Pages (Page PagedList.run PagedList.run_eq)
open SchoolSettings (trim)

structure Lowering where
  toLowercase : String → List Char
  lower : String → List Char

/-- The combining dot is what `İ` leaves behind in lower case. -/
def textFoldReplacements : List (Char × List Char) :=
  [('\u0307', []), ('ı', ['i']), ('ş', ['s']), ('ğ', ['g']), ('ç', ['c']), ('ö', ['o']),
    ('ü', ['u']), ('â', ['a']), ('î', ['i']), ('û', ['u'])]

def replaced (text : List Char) (pair : Char × List Char) : List Char :=
  text.flatMap fun c => if c = pair.1 then pair.2 else [c]

variable (lowering : Lowering)

def searchFold (text : String) : List Char :=
  textFoldReplacements.foldl replaced (lowering.toLowercase text)

def searchFoldSql (column : String) : List Char :=
  textFoldReplacements.foldl replaced (lowering.lower column)

/-- `position(needle in subject) > 0 OR position(needle in body) > 0`, over folded columns. -/
def Message.mentions (message : Message) (needle : List Char) : Bool :=
  decide (needle <:+: searchFoldSql lowering message.subject ∨
    needle <:+: searchFoldSql lowering message.body)

def needleOf (q : Option String) : Option (List Char) :=
  (q.map fun q => searchFold lowering (trim q)).filter fun needle => !needle.isEmpty

theorem mentions_nil (message : Message) : message.mentions lowering [] = true := by
  simp [Message.mentions]

/-- `ORDER BY id DESC`: an id is drawn in the order of the sending. -/
def newestFirst (rows : List (MessageId × Message)) : List (MessageId × Message) :=
  Keyed.sortBy (fun row => OrderDual.toDual row.1.uuid.hyphenated) rows

theorem length_newestFirst (rows : List (MessageId × Message)) :
    (newestFirst rows).length = rows.length :=
  (Keyed.sortBy_perm _ rows).length_eq

variable (s : Db) (user : UserId) (folder : Folder) (read : Option Bool) (q : Option String)

/-- `list_folder`, for the folders that `Folder::try_new` knows. -/
def Db.folderPage (page : Page) : List (MessageId × Message) × ℕ :=
  PagedList.run page (newestFirst (s.listFolder user folder read fun message =>
    (needleOf lowering q).all (message.mentions lowering)))

/-! ## What is asked for -/

def Message.passes (message : Message) : Bool :=
  read.all (fun flag => message.read == flag) &&
    q.all fun q => message.mentions lowering (searchFold lowering (trim q))

def Message.wanted (message : Message) : Bool :=
  message.inFolder user folder && message.passes lowering read q

def Db.mailbox : List (MessageId × Message) :=
  newestFirst ((s.message.entries.map fun row => (row.1, row.2)).filter fun row =>
    row.2.wanted lowering user folder read q)

theorem needleOf_all (message : Message) :
    (needleOf lowering q).all (message.mentions lowering) =
      q.all fun q => message.mentions lowering (searchFold lowering (trim q)) := by
  cases q with
  | none => rfl
  | some q =>
      cases hfold : searchFold lowering (trim q) with
      | nil => simp [needleOf, hfold, mentions_nil]
      | cons => simp [needleOf, hfold]

variable {lowering user folder read q}

theorem selected_eq_wanted {message : Message}
    (h : folder.isFiled = true → message.recipient = user → message.recipientFolder = folder →
      message.passes lowering read q = true) :
    message.selected user folder (message.passes lowering read q) =
      message.wanted lowering user folder read q := by
  unfold Message.wanted
  cases hpasses : message.passes lowering read q with
  | true => rw [Message.selected_true, Bool.and_true]
  | false => cases folder <;> simp_all [Message.selected, Folder.isFiled]

theorem selected_of_wanted {message : Message}
    (h : message.wanted lowering user folder read q = true) :
    message.selected user folder (message.passes lowering read q) = true := by
  rw [Message.wanted, Bool.and_eq_true] at h
  rw [h.2, Message.selected_true, h.1]

theorem folderPage_eq (page : Page) :
    s.folderPage lowering user folder read q page =
      (page.window (newestFirst ((s.message.entries.map fun row => (row.1, row.2)).filter
        fun row => row.2.selected user folder (row.2.passes lowering read q))),
      ((s.message.entries.map fun row => (row.1, row.2)).filter
        fun row => row.2.selected user folder (row.2.passes lowering read q)).length) := by
  simp only [Db.folderPage, PagedList.run_eq, length_newestFirst, Db.listFolder, needleOf_all,
    Message.passes]

/-- The page and the total are those of the mailbox exactly when no received copy in the archive
or in the trash had to be filtered out. -/
theorem folderPage_eq_mailbox_iff (page : Page) :
    s.folderPage lowering user folder read q page =
        (page.window (s.mailbox lowering user folder read q),
          (s.mailbox lowering user folder read q).length) ↔
      (folder.isFiled = true → ∀ id message, s.message.lookup id = some message →
        message.recipient = user → message.recipientFolder = folder →
        message.passes lowering read q = true) := by
  rw [folderPage_eq, Db.mailbox, length_newestFirst]
  generalize hrows : s.message.entries.map (fun row => (row.1, row.2)) = rows
  have hmem : ∀ id message, (id, message) ∈ rows ↔ s.message.lookup id = some message := by
    intro id message
    rw [← hrows, ← mem_entries_iff_lookup]
    simp
  constructor
  · intro heq hfiled id message hrow hrecipient hfolder
    -- The list asked for is a part of the list read, so equal lengths make them one list.
    have hpart := List.monotone_filter_right rows
      fun row (hrow : row.2.wanted lowering user folder read q = true) => selected_of_wanted hrow
    have hsame := hpart.eq_of_length (Prod.mk.inj heq).2.symm
    have hlisted : (id, message) ∈ rows.filter fun row =>
        row.2.selected user folder (row.2.passes lowering read q) :=
      List.mem_filter.mpr ⟨(hmem id message).mpr hrow, by
        simp [Message.selected, hfiled, hrecipient, hfolder]⟩
    rw [← hsame] at hlisted
    have hwanted := (List.mem_filter.mp hlisted).2
    rw [Message.wanted, Bool.and_eq_true] at hwanted
    exact hwanted.2
  · intro hpass
    have hsame : rows.filter (fun row =>
        row.2.selected user folder (row.2.passes lowering read q)) =
        rows.filter fun row => row.2.wanted lowering user folder read q :=
      List.filter_congr fun row hrow => selected_eq_wanted fun hfiled =>
        hpass hfiled row.1 row.2 ((hmem row.1 row.2).mp hrow)
    rw [hsame]

namespace Sample

def reader : UserId := ⟨.ending "0a01"⟩

def writer : UserId := ⟨.ending "0a02"⟩

def letterId : MessageId := ⟨.ending "0a0a"⟩

def filed : Message :=
  (send ⟨writer, reader, "s", "", none, 0, by decide⟩).file false .archive (some .inbox)

def archive : Db := ⟨(∅ : Table MessageId Message).insert letterId filed⟩

def ascii : Lowering := ⟨String.toList, String.toList⟩

end Sample

open Sample in
/-- The unread copy is on the page of the read ones. -/
theorem archive_filter_leaks :
    archive.folderPage ascii reader .archive (some true) none ⟨none, 0⟩ ≠
      (Page.window ⟨none, 0⟩ (archive.mailbox ascii reader .archive (some true) none),
        (archive.mailbox ascii reader .archive (some true) none).length) := by
  intro heq
  have hlength := congrArg Prod.snd heq
  revert hlength
  decide

end Hezarfen.Messages
