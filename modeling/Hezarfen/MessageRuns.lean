import Hezarfen.Messages

/-!
# Deleted copies stay deleted

Every row and every copy of it that a handler works from was written by `send` and the moves
of its two parties.  A move that lands on a deleted copy of its own side would bring it back:
as long as none does, and every deletion of a last copy runs on to its `DELETE`, the two sides
are independent and the row is gone once both are.
-/

namespace Hezarfen.Messages

open Interleaving

variable {w : Unit} {row' row stale : Message} {folder : Folder} {user : UserId}

inductive Did (s : Db) : Point → Db → Reply → Prop where
  | refused {p : Point} (e : AppError) (hpoint : ∀ id user, p ≠ .removeRow id user) :
      Did s p s (.answer (.error e))
  | unchanged {id : MessageId} {user : UserId} {patch : UpdateMessage} {stale : Message}
      (hread : s.readFor id user = some stale) :
      Did s (.readForUpdate id user patch) s (.answer (.ok (some stale)))
  | toSetRead {id : MessageId} {user : UserId} {patch : UpdateMessage} {stale : Message}
      {read : Bool} {folder : Option Folder} (hread : s.readFor id user = some stale)
      (hchecked : checked stale user patch = .ok folder) :
      Did s (.readForUpdate id user patch) s (.goto (.setRead id user stale read folder))
  | toMoveTo {id : MessageId} {user : UserId} {patch : UpdateMessage} {stale : Message}
      {folder : Folder} (hread : s.readFor id user = some stale)
      (hchecked : checked stale user patch = .ok (some folder)) :
      Did s (.readForUpdate id user patch) s (.goto (.moveTo id user stale folder))
  | setRead {id : MessageId} {user : UserId} {stale row : Message} {read : Bool}
      {folder : Option Folder} (hrow : s.message.lookup id = some row) :
      Did s (.setRead id user stale read folder) ⟨s.message.insert id { row with read := read }⟩
        (afterFlag id user { row with read := read } folder)
  | moveTo {id : MessageId} {user : UserId} {stale row : Message} {folder : Folder}
      (hrow : s.message.lookup id = some row) (answer : Option Message) :
      Did s (.moveTo id user stale folder)
        ⟨s.message.insert id
          (row.file (stale.isSender user) folder (stale.originAfter user folder))⟩
        (.answer (.ok answer))
  | toDeleteFor {id : MessageId} {user : UserId} {stale : Message}
      (hread : s.readFor id user = some stale) :
      Did s (.readForDelete id user) s (.goto (.deleteFor id user stale))
  | deleteFor {id : MessageId} {user : UserId} {stale row : Message}
      (hrow : s.message.lookup id = some row)
      (htrash : row.folderAt (stale.isSender user) = .trash) :
      Did s (.deleteFor id user stale)
        ⟨s.message.insert id (row.file (stale.isSender user) .deleted none)⟩
        (if (row.file (stale.isSender user) .deleted none).bothDeleted then
          .goto (.removeRow id user) else .answer (.ok none))
  | removeRow {id : MessageId} {user : UserId} :
      Did s (.removeRow id user) ⟨s.message.erase id⟩ (.answer (.ok none))

theorem readForUpdate_did (s : Db) (id : MessageId) (user : UserId) (patch : UpdateMessage) :
    Did s (.readForUpdate id user patch) s (readForUpdate s id user patch) := by
  unfold readForUpdate
  split
  · exact .refused _ (by simp)
  · next stale hread =>
    split
    · exact .refused _ (by simp)
    · next folder hchecked =>
      split
      · cases folder with
        | none => exact .unchanged hread
        | some => exact .toMoveTo hread hchecked
      · exact .toSetRead hread hchecked

variable {n : Reply} {p : Point} {s s' : Db}

theorem next_did {call : ℕ}
    (hnext : machine.next call s p w = some (s', n)) : Did s p s' n := by
  change next call s p w = some (s', n) at hnext
  cases p with
  | readForUpdate id user patch =>
      cases hnext
      exact readForUpdate_did s id user patch
  | setRead =>
      simp only [next, setRead, Option.some.injEq] at hnext
      split at hnext
      · cases hnext
        exact .refused _ (by simp)
      · next row hrow =>
        cases hnext
        exact .setRead hrow
  | moveTo =>
      simp only [next, moveTo, Option.some.injEq] at hnext
      split at hnext
      · cases hnext
        exact .refused _ (by simp)
      · next row hrow =>
        cases hnext
        exact .moveTo hrow _
  | readForDelete =>
      simp only [next, readForDelete, Option.some.injEq, Prod.mk.injEq] at hnext
      obtain ⟨rfl, rfl⟩ := hnext
      split
      · exact .refused _ (by simp)
      · next stale hread => exact .toDeleteFor hread
  | deleteFor =>
      simp only [next, deleteFor, Option.some.injEq] at hnext
      split at hnext
      · cases hnext
        exact .refused _ (by simp)
      · next row hrow =>
        cases hnext
        obtain ⟨hrow, htrash⟩ := Option.filter_eq_some_iff.mp hrow
        exact .deleteFor hrow (of_decide_eq_true htrash)
  | removeRow =>
      cases hnext
      exact .removeRow

variable {id : MessageId}

/-- No step inserts a row. -/
theorem Did.known (h : Did s p s' n)
    (hrow' : s'.message.lookup id = some row') :
    ∃ row, s.message.lookup id = some row := by
  have hinsert : ∀ {id' row₀ row₁}, s.message.lookup id' = some row₀ →
      (s.message.insert id' row₁).lookup id = some row' →
      ∃ row, s.message.lookup id = some row := by
    intro id' row₀ row₁ hrow₀ hlookup
    rw [lookup_insert_eq] at hlookup
    split at hlookup
    · next hid => exact ⟨row₀, hid ▸ hrow₀⟩
    · exact ⟨row', hlookup⟩
  cases h with
  | setRead hrow | moveTo hrow answer | deleteFor hrow htrash => exact hinsert hrow hrow'
  | removeRow =>
      obtain ⟨-, hrow'⟩ := erase_cases hrow'
      exact ⟨row', hrow'⟩
  | _ => exact ⟨row', hrow'⟩

/-! ## Copies of a letter -/

/-- The restore origin of a side is never the trash, and a copy in its home folder has none. -/
def Message.Restorable (message : Message) : Prop :=
  ∀ side, message.originAt side ≠ some .trash ∧
    (message.folderAt side = Folder.home side → message.originAt side = none)

structure Letter.Became (letter : Letter) (message : Message) : Prop where
  sender : message.sender = letter.sender
  recipient : message.recipient = letter.recipient
  restorable : message.Restorable

def Db.Copy (old : Db) (id : MessageId) (message : Message) : Prop :=
  ∃ letter, old.message.lookup id = some (send letter) ∧ letter.Became message

section Copies

variable {old : Db} {message other : Message}

theorem Db.Copy.same (h : old.Copy id message) (h' : old.Copy id other) :
    message.sender = other.sender ∧ message.recipient = other.recipient := by
  obtain ⟨letter, hletter, hbecame⟩ := h
  obtain ⟨letter', hletter', hbecame'⟩ := h'
  have hsend : send letter = send letter' := Option.some.inj (hletter.symm.trans hletter')
  have hsender : letter.sender = letter'.sender := congrArg Message.sender hsend
  have hrecipient : letter.recipient = letter'.recipient := congrArg Message.recipient hsend
  exact ⟨hbecame.sender.trans (hsender.trans hbecame'.sender.symm),
    hbecame.recipient.trans (hrecipient.trans hbecame'.recipient.symm)⟩

theorem Db.Copy.isSender (h : old.Copy id message) (h' : old.Copy id other) (user : UserId) :
    message.isSender user = other.isSender user := by
  unfold Message.isSender
  rw [(h.same h').1]

theorem Db.Copy.isParty (h : old.Copy id message) (h' : old.Copy id other) (user : UserId) :
    message.isParty user = other.isParty user := by
  unfold Message.isParty
  rw [(h.same h').1, (h.same h').2]

theorem Db.Copy.restorable (h : old.Copy id message) : message.Restorable :=
  h.choose_spec.2.restorable

theorem Db.Copy.of_same (h : old.Copy id message) (hsender : other.sender = message.sender)
    (hrecipient : other.recipient = message.recipient) (hrestorable : other.Restorable) :
    old.Copy id other := by
  obtain ⟨letter, hletter, hbecame⟩ := h
  exact ⟨letter, hletter, hsender.trans hbecame.sender, hrecipient.trans hbecame.recipient,
    hrestorable⟩

end Copies

theorem send_restorable (letter : Letter) : (send letter).Restorable := by
  intro side
  cases side <;> exact ⟨by simp [send, Message.originAt], fun _ => rfl⟩

theorem Db.Delivered.copy (h : s.Delivered)
    (hrow : s.message.lookup id = some row) : s.Copy id row := by
  obtain ⟨letter, rfl⟩ := h id row hrow
  exact ⟨letter, hrow, rfl, rfl, send_restorable letter⟩

theorem Message.Restorable.file (h : row.Restorable) {isSender : Bool} {origin : Option Folder}
    (htrash : origin ≠ some .trash) (hhome : folder = Folder.home isSender → origin = none) :
    (row.file isSender folder origin).Restorable := by
  intro side
  by_cases hside : side = isSender
  · subst hside
    rw [Message.file_folderAt, Message.file_originAt]
    exact ⟨htrash, hhome⟩
  · obtain ⟨hfolder, horigin⟩ := row.file_other isSender folder origin hside
    rw [hfolder, horigin]
    exact h side

theorem Message.Restorable.originAfter (h : stale.Restorable) (user : UserId) (folder : Folder) :
    stale.originAfter user folder ≠ some .trash ∧
      (folder = Folder.home (stale.isSender user) → stale.originAfter user folder = none) := by
  constructor
  · unfold Message.originAfter
    split
    · exact Option.some_ne_none _ |>.symm
    · split
      · exact (h (stale.isSender user)).1
      · split
        · next htarget =>
          intro htrash
          rw [Option.some.injEq] at htrash
          rw [htrash] at htarget
          exact absurd htarget (by decide)
        · exact Option.some_ne_none _ |>.symm
  · rintro rfl
    simp [Message.originAfter, Folder.home_not_filed]

theorem readFor_eq_some {message : Message} :
    s.readFor id user = some message ↔
      s.message.lookup id = some message ∧ message.isParty user = true ∧
        message.folderOf user ≠ .deleted := by
  simp [Db.readFor, Option.filter_eq_some_iff]

theorem checked_allowed {message : Message} {patch : UpdateMessage}
    (h : checked message user patch = .ok (some folder)) :
    folder ∈ Folder.allowedFor (message.isSender user) := by
  unfold checked at h
  obtain ⟨u, hflag, h⟩ := Gate.bind_eq_ok.mp h
  split at h
  · simp at h
  · obtain ⟨named, hname, h⟩ := Gate.bind_eq_ok.mp h
    obtain ⟨u', hallowed, h⟩ := Gate.bind_eq_ok.mp h
    rw [Gate.ensure_eq_ok, decide_eq_true_eq] at hallowed
    rw [Gate.pure_eq_ok, Option.some.injEq] at h
    exact h ▸ hallowed

/-- Each side has one party. -/
theorem Message.party_eq {user' : UserId} (h : row.isParty user = true)
    (h' : row.isParty user' = true) (hside : row.isSender user = row.isSender user') :
    user = user' := by
  simp only [isParty, isSender, decide_eq_true_eq, decide_eq_decide] at h h' hside
  by_cases hsender : row.sender = user
  · exact hsender.symm.trans (hside.mp hsender)
  · have hsender' : row.sender ≠ user' := fun heq => hsender (hside.mpr heq)
    exact (h.resolve_left hsender).symm.trans (h'.resolve_left hsender')

/-! ## The moves that keep a deletion -/

/-- No move lands on a deleted copy of its own side, and no deletion that took the last copy
is cut off before its `DELETE`. -/
def carriedOut (c : Config Db Point) : Move Request Unit → Bool
  | .start _ => true
  | .advance call _ =>
      match c.calls.lookup call with
      | some (.moveTo id user _ _) =>
          (c.shared.message.lookup id).all fun row => decide (row.folderOf user ≠ .deleted)
      | _ => true
  | .abandon call =>
      match c.calls.lookup call with
      | some (.removeRow _ _) => false
      | _ => true

def Point.Knows (old : Db) : Point → Prop
  | .setRead id user stale _ folder =>
      old.Copy id stale ∧ stale.isParty user = true ∧
        ∀ target, folder = some target → target ∈ Folder.allowedFor (stale.isSender user)
  | .moveTo id user stale folder =>
      old.Copy id stale ∧ stale.isParty user = true ∧
        folder ∈ Folder.allowedFor (stale.isSender user)
  | .deleteFor id user stale => old.Copy id stale ∧ stale.isParty user = true
  | _ => True

structure Inv (old : Db) (c : Config Db Point) : Prop where
  numbered : ∀ call p, c.calls.lookup call = some p → call < c.started
  rows : ∀ id row, c.shared.message.lookup id = some row → old.Copy id row
  knows : ∀ call p, c.calls.lookup call = some p → p.Knows old
  doomed : ∀ call id user, c.calls.lookup call = some (.removeRow id user) →
    ∀ row, c.shared.message.lookup id = some row → row.bothDeleted = true
  pending : ∀ id row, c.shared.message.lookup id = some row → row.bothDeleted = true →
    ∃ call user, c.calls.lookup call = some (.removeRow id user)

theorem initial_inv (hs : s.Delivered) : Inv s (.initial s) where
  numbered call p hp := by simp [Config.initial] at hp
  rows id row hrow := hs.copy hrow
  knows call p hp := by simp [Config.initial] at hp
  doomed call id user hp := by simp [Config.initial] at hp
  pending id row hrow hboth := by
    obtain ⟨letter, rfl⟩ := hs id row hrow
    exact absurd hboth (by simp [send, Message.bothDeleted])

section Step

variable {old : Db} {c : Config Db Point}

theorem Inv.start (h : Inv old c) (request : Request) :
    Inv old
      { c with
        calls := c.calls.insert c.started (machine.entry request)
        started := c.started + 1 } where
  numbered call p hp := by
    rw [lookup_insert_eq] at hp
    split at hp
    · next hcall => exact hcall ▸ Nat.lt_succ_self _
    · exact Nat.lt_succ_of_lt (h.numbered call p hp)
  rows := h.rows
  knows call p hp := by
    obtain ⟨-, rfl⟩ | ⟨-, hp⟩ := insert_cases hp
    · cases request <;> trivial
    · exact h.knows call p hp
  doomed call id user hp := by
    rw [lookup_insert_eq] at hp
    split at hp
    · cases request <;> cases hp
    · exact h.doomed call id user hp
  pending id row hrow hboth := by
    obtain ⟨call, user, hcall⟩ := h.pending id row hrow hboth
    refine ⟨call, user, ?_⟩
    have hne : call ≠ c.started := Nat.ne_of_lt (h.numbered call _ hcall)
    rw [lookup_insert_eq, if_neg hne]
    exact hcall

theorem Inv.abandon (h : Inv old c) {call : ℕ}
    (hgone : ∀ id user, c.calls.lookup call ≠ some (.removeRow id user)) :
    Inv old { c with shared := machine.rollback call c.shared, calls := c.calls.erase call } where
  numbered call' p hp := by
    obtain ⟨-, hp⟩ := erase_cases hp
    exact h.numbered call' p hp
  rows := h.rows
  knows call' p hp := by
    obtain ⟨-, hp⟩ := erase_cases hp
    exact h.knows call' p hp
  doomed call' id user hp := by
    obtain ⟨-, hp⟩ := erase_cases hp
    exact h.doomed call' id user hp
  pending id row hrow hboth := by
    obtain ⟨call', user, hcall⟩ := h.pending id row hrow hboth
    refine ⟨call', user, ?_⟩
    have hne : call' ≠ call := by
      rintro rfl
      exact hgone id user hcall
    rw [lookup_erase_eq, if_neg hne]
    exact hcall

variable {call : ℕ}

theorem Inv.advance (h : Inv old c) (hp : c.calls.lookup call = some p)
    (hrows : ∀ id row, s.message.lookup id = some row → old.Copy id row)
    (hknows : ∀ q, n = .goto q → q.Knows old)
    (hdoomed : ∀ id user, n = .goto (.removeRow id user) ∨
        (∃ call', call' ≠ call ∧ c.calls.lookup call' = some (.removeRow id user)) →
      ∀ row, s.message.lookup id = some row → row.bothDeleted = true)
    (hpending : ∀ id row, s.message.lookup id = some row → row.bothDeleted = true →
      (∃ user, n = .goto (.removeRow id user)) ∨
        ∃ call' user, call' ≠ call ∧ c.calls.lookup call' = some (.removeRow id user)) :
    Inv old (c.after call s n) where
  numbered call' q hq := by
    have hstarted : (c.after call s n).started = c.started := by cases n <;> rfl
    rw [hstarted]
    rcases Config.lookup_after hq with ⟨-, hold⟩ | ⟨rfl, -⟩
    · exact h.numbered call' q hold
    · exact h.numbered call' p hp
  rows id row hrow := hrows id row (by simpa using hrow)
  knows call' q hq := by
    rcases Config.lookup_after hq with ⟨-, hold⟩ | ⟨-, hn⟩
    · exact h.knows call' q hold
    · exact hknows q hn
  doomed call' id user hq row hrow := by
    rw [Config.shared_after] at hrow
    rcases Config.lookup_after hq with ⟨hne, hold⟩ | ⟨-, hn⟩
    · exact hdoomed id user (.inr ⟨call', hne, hold⟩) row hrow
    · exact hdoomed id user (.inl hn) row hrow
  pending id row hrow hboth := by
    rw [Config.shared_after] at hrow
    rcases hpending id row hrow hboth with ⟨user, rfl⟩ | ⟨call', user, hne, hcall⟩
    · exact ⟨call, user, by rw [Config.after, lookup_insert_eq, if_pos rfl]⟩
    · exact ⟨call', user, by rw [Config.lookup_after_ne s n hne, hcall]⟩

theorem Inv.unwritten (h : Inv old c) (hp : c.calls.lookup call = some p)
    (hremove : ∀ id user, p ≠ .removeRow id user)
    (hn : ∀ q, n = .goto q → q.Knows old ∧ ∀ id user, q ≠ .removeRow id user) :
    Inv old (c.after call c.shared n) := by
  refine h.advance hp h.rows (fun q hq => (hn q hq).1) ?_ ?_
  · rintro id user (hgoto | ⟨call', -, hcall⟩)
    · exact absurd rfl ((hn _ hgoto).2 id user)
    · exact h.doomed call' id user hcall
  · intro id row hrow hboth
    obtain ⟨call', user, hcall⟩ := h.pending id row hrow hboth
    refine .inr ⟨call', user, ?_, hcall⟩
    rintro rfl
    exact hremove id user (Option.some.inj (hp.symm.trans hcall))

/-- A step that writes one row, which a `DELETE` is pending for afterwards exactly when it was
before or is the step's own next statement. -/
theorem Inv.written (h : Inv old c) (hp : c.calls.lookup call = some p)
    (hremove : ∀ id user, p ≠ .removeRow id user)
    (hrow : c.shared.message.lookup id = some row) (hcopy : old.Copy id row')
    (hkept : row.bothDeleted = true → row'.bothDeleted = true)
    (hknows : ∀ q, n = .goto q → q.Knows old)
    (hgoto : ∀ id' user, n = .goto (.removeRow id' user) → id' = id ∧ row'.bothDeleted = true)
    (hboth : row'.bothDeleted = true →
      row.bothDeleted = true ∨ ∃ user, n = .goto (.removeRow id user)) :
    Inv old (c.after call ⟨c.shared.message.insert id row'⟩ n) := by
  refine h.advance hp ?_ hknows ?_ ?_
  · intro id' row'' hlookup
    obtain ⟨hid, rfl⟩ | ⟨-, hlookup⟩ := insert_cases hlookup
    · exact hid ▸ hcopy
    · exact h.rows id' row'' hlookup
  · intro id' user hdoomed row'' hlookup
    obtain ⟨hid, rfl⟩ | ⟨hid, hlookup⟩ := insert_cases hlookup
    · rcases hdoomed with hn | ⟨call', -, hcall⟩
      · exact (hgoto id' user hn).2
      · exact hkept (h.doomed call' id' user hcall row (hid ▸ hrow))
    · rcases hdoomed with hn | ⟨call', -, hcall⟩
      · exact absurd (hgoto id' user hn).1 hid
      · exact h.doomed call' id' user hcall row'' hlookup
  · intro id' row'' hlookup hdeleted
    have hother : ∀ row₀, c.shared.message.lookup id' = some row₀ → row₀.bothDeleted = true →
        ∃ call' user, call' ≠ call ∧ c.calls.lookup call' = some (.removeRow id' user) := by
      intro row₀ hrow₀ hdeleted₀
      obtain ⟨call', user, hcall⟩ := h.pending id' row₀ hrow₀ hdeleted₀
      refine ⟨call', user, ?_, hcall⟩
      rintro rfl
      exact hremove id' user (Option.some.inj (hp.symm.trans hcall))
    obtain ⟨hid, rfl⟩ | ⟨-, hlookup⟩ := insert_cases hlookup
    · rcases hboth hdeleted with hbefore | ⟨user, hn⟩
      · exact .inr (hother row (hid ▸ hrow) hbefore)
      · exact .inl ⟨user, hid ▸ hn⟩
    · exact .inr (hother row'' hlookup hdeleted)

theorem Inv.side (h : Inv old c) (hstale : old.Copy id stale)
    (hrow : c.shared.message.lookup id = some row) (user : UserId) :
    stale.isSender user = row.isSender user :=
  hstale.isSender (h.rows id row hrow) user

theorem Inv.read (h : Inv old c) (hread : c.shared.readFor id user = some stale) :
    old.Copy id stale ∧ stale.isParty user = true :=
  have hfound := readFor_eq_some.mp hread
  ⟨h.rows id stale hfound.1, hfound.2.1⟩

theorem Inv.setRead (h : Inv old c) {read : Bool} {folder : Option Folder}
    (hp : c.calls.lookup call = some (.setRead id user stale read folder))
    (hrow : c.shared.message.lookup id = some row) :
    Inv old (c.after call ⟨c.shared.message.insert id { row with read := read }⟩
      (afterFlag id user { row with read := read } folder)) := by
  obtain ⟨hstale, hparty, hfolder⟩ := h.knows call _ hp
  have hcopy : old.Copy id { row with read := read } :=
    (h.rows id row hrow).of_same rfl rfl (h.rows id row hrow).restorable
  refine h.written hp (by simp) hrow hcopy (fun hboth => hboth) ?_ ?_ .inl
  · intro q hq
    cases folder with
    | none => cases hq
    | some target =>
        cases hq
        refine ⟨hcopy, (hstale.isParty hcopy user).symm.trans hparty, ?_⟩
        rw [← hstale.isSender hcopy user]
        exact hfolder target rfl
  · intro id' user' hq
    cases folder <;> cases hq

theorem Inv.moveTo (h : Inv old c)
    (hp : c.calls.lookup call = some (.moveTo id user stale folder))
    (hrow : c.shared.message.lookup id = some row) (hkept : row.folderOf user ≠ .deleted)
    (answer : Option Message) :
    Inv old (c.after call
      ⟨c.shared.message.insert id
        (row.file (stale.isSender user) folder (stale.originAfter user folder))⟩
      (.answer (.ok answer) : Reply)) := by
  obtain ⟨hstale, hparty, hallowed⟩ := h.knows call _ hp
  have horigin := hstale.restorable.originAfter user folder
  have hcopy : old.Copy id
      (row.file (stale.isSender user) folder (stale.originAfter user folder)) :=
    (h.rows id row hrow).of_same (by simp) (by simp)
      ((h.rows id row hrow).restorable.file horigin.1 horigin.2)
  refine h.written hp (by simp) hrow hcopy ?_ (by simp) (by simp) ?_
  · intro hboth
    exact absurd (Message.bothDeleted_iff.mp hboth (row.isSender user)) hkept
  · intro hboth
    have hdeleted := Message.bothDeleted_iff.mp hboth (stale.isSender user)
    rw [Message.file_folderAt] at hdeleted
    exact absurd hdeleted (Folder.allowedFor_ne_deleted hallowed)

theorem Inv.deleteFor (h : Inv old c)
    (hp : c.calls.lookup call = some (.deleteFor id user stale))
    (hrow : c.shared.message.lookup id = some row)
    (htrash : row.folderAt (stale.isSender user) = .trash) :
    Inv old (c.after call
      ⟨c.shared.message.insert id (row.file (stale.isSender user) .deleted none)⟩
      (if (row.file (stale.isSender user) .deleted none).bothDeleted then
        .goto (.removeRow id user) else .answer (.ok none) : Reply)) := by
  have hcopy : old.Copy id (row.file (stale.isSender user) .deleted none) :=
    (h.rows id row hrow).of_same (by simp) (by simp)
      ((h.rows id row hrow).restorable.file (by simp) fun _ => rfl)
  refine h.written hp (by simp) hrow hcopy ?_ ?_ ?_ ?_
  · intro hboth
    have hdeleted := Message.bothDeleted_iff.mp hboth (stale.isSender user)
    rw [htrash] at hdeleted
    exact absurd hdeleted (by decide)
  · intro q hq
    split at hq
    · cases hq
      trivial
    · cases hq
  · intro id' user' hq
    split at hq
    · next hboth =>
      cases hq
      exact ⟨rfl, hboth⟩
    · cases hq
  · intro hboth
    exact .inr ⟨user, by rw [if_pos hboth]⟩

theorem Inv.removeRow (h : Inv old c)
    (hp : c.calls.lookup call = some (.removeRow id user)) :
    Inv old (c.after call ⟨c.shared.message.erase id⟩ (.answer (.ok none) : Reply)) := by
  have hold : ∀ id' row, (c.shared.message.erase id).lookup id' = some row →
      id' ≠ id ∧ c.shared.message.lookup id' = some row := by
    intro id' row hrow
    obtain ⟨hne, hrow⟩ := erase_cases hrow
    exact ⟨hne, hrow⟩
  refine h.advance hp ?_ (by simp) ?_ ?_
  · intro id' row hrow
    exact h.rows id' row (hold id' row hrow).2
  · rintro id' user' (hn | ⟨call', -, hcall⟩) row hrow
    · cases hn
    · exact h.doomed call' id' user' hcall row (hold id' row hrow).2
  · intro id' row hrow hboth
    obtain ⟨hne, hlookup⟩ := hold id' row hrow
    obtain ⟨call', user', hcall⟩ := h.pending id' row hlookup hboth
    refine .inr ⟨call', user', ?_, hcall⟩
    rintro rfl
    rw [hp] at hcall
    cases hcall
    exact hne rfl

/-- The side that a guarded move files was not deleted. -/
theorem carriedOut_moveTo (hguard : carriedOut c (.advance call w) = true)
    (hp : c.calls.lookup call = some (.moveTo id user stale folder))
    (hrow : c.shared.message.lookup id = some row) : row.folderOf user ≠ .deleted := by
  simpa [carriedOut, hp, hrow] using hguard

theorem Inv.did (h : Inv old c) (hguard : carriedOut c (.advance call w) = true)
    (hp : c.calls.lookup call = some p) (hdid : Did c.shared p s n) :
    Inv old (c.after call s n) := by
  cases hdid with
  | refused e hpoint => exact h.unwritten hp hpoint (by simp)
  | unchanged => exact h.unwritten hp (by simp) (by simp)
  | toSetRead hread hchecked =>
      obtain ⟨hcopy, hparty⟩ := h.read hread
      refine h.unwritten hp (by simp) fun q hq => ?_
      cases hq
      refine ⟨⟨hcopy, hparty, ?_⟩, by simp⟩
      rintro target rfl
      exact checked_allowed hchecked
  | toMoveTo hread hchecked =>
      obtain ⟨hcopy, hparty⟩ := h.read hread
      refine h.unwritten hp (by simp) fun q hq => ?_
      cases hq
      exact ⟨⟨hcopy, hparty, checked_allowed hchecked⟩, by simp⟩
  | setRead hrow => exact h.setRead hp hrow
  | moveTo hrow answer => exact h.moveTo hp hrow (carriedOut_moveTo hguard hp hrow) answer
  | toDeleteFor hread =>
      refine h.unwritten hp (by simp) fun q hq => ?_
      cases hq
      exact ⟨h.read hread, by simp⟩
  | deleteFor hrow htrash => exact h.deleteFor hp hrow htrash
  | removeRow => exact h.removeRow hp

def Point.files : Point → Option (MessageId × UserId)
  | .moveTo id user _ _ | .deleteFor id user _ => some (id, user)
  | _ => none

/-- The two sides of a row are as they were, or one of them was there and its own party wrote
it. -/
theorem Inv.sides (h : Inv old c) (hguard : carriedOut c (.advance call w) = true)
    (hp : c.calls.lookup call = some p) (hdid : Did c.shared p s n)
    (hrow : c.shared.message.lookup id = some row) (hrow' : s.message.lookup id = some row') :
    (∀ side, row'.folderAt side = row.folderAt side ∧ row'.originAt side = row.originAt side) ∨
      ∃ user, p.files = some (id, user) ∧ row.isParty user = true ∧ row.folderOf user ≠ .deleted ∧
        ∀ side, side ≠ row.isSender user →
          row'.folderAt side = row.folderAt side ∧ row'.originAt side = row.originAt side := by
  have hsame : s = c.shared →
      ∀ side, row'.folderAt side = row.folderAt side ∧ row'.originAt side = row.originAt side := by
    rintro rfl side
    obtain rfl : row = row' := Option.some.inj (hrow.symm.trans hrow')
    exact ⟨rfl, rfl⟩
  cases hdid with
  | refused | unchanged | toSetRead | toMoveTo | toDeleteFor => exact .inl (hsame rfl)
  | @setRead id' user stale found read folder hfound =>
      obtain ⟨hid, rfl⟩ | ⟨-, hrow'⟩ := insert_cases hrow'
      · obtain rfl : row = found := Option.some.inj (hrow.symm.trans (hid ▸ hfound))
        exact .inl fun side => ⟨rfl, rfl⟩
      · obtain rfl : row = row' := Option.some.inj (hrow.symm.trans hrow')
        exact .inl fun side => ⟨rfl, rfl⟩
  | @moveTo id' user stale found folder hfound answer =>
      obtain ⟨rfl, rfl⟩ | ⟨-, hrow'⟩ := insert_cases hrow'
      · obtain rfl : row = found := Option.some.inj (hrow.symm.trans hfound)
        obtain ⟨hstale, hparty, -⟩ := h.knows call _ hp
        refine .inr ⟨user, rfl, (hstale.isParty (h.rows _ row hrow) user).symm.trans hparty,
          carriedOut_moveTo hguard hp hrow, ?_⟩
        rw [← h.side hstale hrow user]
        exact fun side hside => row.file_other _ _ _ hside
      · obtain rfl : row = row' := Option.some.inj (hrow.symm.trans hrow')
        exact .inl fun side => ⟨rfl, rfl⟩
  | @deleteFor id' user stale found hfound htrash =>
      obtain ⟨rfl, rfl⟩ | ⟨-, hrow'⟩ := insert_cases hrow'
      · obtain rfl : row = found := Option.some.inj (hrow.symm.trans hfound)
        obtain ⟨hstale, hparty⟩ := h.knows call _ hp
        have hside := h.side hstale hrow user
        refine .inr ⟨user, rfl, (hstale.isParty (h.rows _ row hrow) user).symm.trans hparty, ?_, ?_⟩
        · unfold Message.folderOf
          rw [← hside, htrash]
          decide
        · rw [← hside]
          exact fun side hne => row.file_other _ _ _ hne
      · obtain rfl : row = row' := Option.some.inj (hrow.symm.trans hrow')
        exact .inl fun side => ⟨rfl, rfl⟩
  | @removeRow id' user =>
      obtain ⟨-, hrow'⟩ := erase_cases hrow'
      obtain rfl : row = row' := Option.some.inj (hrow.symm.trans hrow')
      exact .inl fun side => ⟨rfl, rfl⟩

theorem Inv.removed (h : Inv old c) (hp : c.calls.lookup call = some p) (hdid : Did c.shared p s n)
    (hrow : c.shared.message.lookup id = some row)
    (hgone : s.message.lookup id = none) :
    row.bothDeleted = true := by
  have hthere : s = c.shared → row.bothDeleted = true := by
    rintro rfl
    rw [hrow] at hgone
    cases hgone
  have hwritten : ∀ id' row', s = ⟨c.shared.message.insert id' row'⟩ →
      row.bothDeleted = true := by
    rintro id' row' rfl
    rw [lookup_insert_eq] at hgone
    split at hgone
    · cases hgone
    · rw [hrow] at hgone
      cases hgone
  cases hdid with
  | refused | unchanged | toSetRead | toMoveTo | toDeleteFor => exact hthere rfl
  | setRead | moveTo | deleteFor => exact hwritten _ _ rfl
  | @removeRow id' user =>
      rw [lookup_erase_eq] at hgone
      split at hgone
      · next hid => exact h.doomed call id' user hp row (hid ▸ hrow)
      · rw [hrow] at hgone
        cases hgone

end Step

section Runs

variable {old : Db} {c c' : Config Db Point} {m : Move Request Unit}

theorem Inv.step (h : Inv old c) (hguard : carriedOut c m = true)
    (hstep : machine.step c m = some c') : Inv old c' := by
  obtain ⟨request, rfl, rfl⟩ | ⟨call, w, p, s, n, rfl, hp, hnext, rfl⟩ |
    ⟨call, p, rfl, hp, rfl⟩ := Machine.step_cases hstep
  · exact h.start request
  · exact h.did hguard hp (next_did hnext)
  · refine h.abandon fun id user hremove => ?_
    simp [carriedOut, hremove] at hguard

def Db.Parted (s : Db) (id : MessageId) (side : Bool) : Prop :=
  ∀ row, s.message.lookup id = some row → row.folderAt side = .deleted

theorem Db.Parted.step (h : Inv old c) (hguard : carriedOut c m = true)
    (hstep : machine.step c m = some c') {side : Bool}
    (hparted : c.shared.Parted id side) : c'.shared.Parted id side := by
  obtain ⟨request, rfl, rfl⟩ | ⟨call, w, p, s, n, rfl, hp, hnext, rfl⟩ |
    ⟨call, p, rfl, hp, rfl⟩ := Machine.step_cases hstep
  · exact hparted
  · intro row' hrow'
    rw [Config.shared_after] at hrow'
    have hdid := next_did hnext
    obtain ⟨row, hrow⟩ := hdid.known hrow'
    have hdeleted := hparted row hrow
    rcases h.sides hguard hp hdid hrow hrow' with hsame | ⟨user, -, -, hkept, hother⟩
    · rw [(hsame side).1]
      exact hdeleted
    · have hne : side ≠ row.isSender user := by
        rintro rfl
        exact hkept hdeleted
      rw [(hother side hne).1]
      exact hdeleted
  · exact hparted

/-- A side is written by its own party alone. -/
theorem Inv.own_step (h : Inv old c) (hguard : carriedOut c m = true)
    (hstep : machine.step c m = some c')
    (hrow : c.shared.message.lookup id = some row) (hrow' : c'.shared.message.lookup id = some row')
    (hparty : row.isParty user = true)
    (hmoved : (row'.folderOf user, row'.originOf user) ≠ (row.folderOf user, row.originOf user)) :
    ∃ call w p, m = .advance call w ∧ c.calls.lookup call = some p ∧
      p.files = some (id, user) := by
  have hside : row'.isSender user = row.isSender user :=
    ((h.step hguard hstep).rows id row' hrow').isSender (h.rows id row hrow) user
  have hunmoved : ¬ (row'.folderAt (row.isSender user) = row.folderAt (row.isSender user) ∧
      row'.originAt (row.isSender user) = row.originAt (row.isSender user)) := by
    rintro ⟨hfolder, horigin⟩
    apply hmoved
    simp only [Message.folderOf, Message.originOf, hside, hfolder, horigin]
  obtain ⟨request, rfl, rfl⟩ | ⟨call, w, p, s, n, rfl, hp, hnext, rfl⟩ |
    ⟨call, p, rfl, hp, rfl⟩ := Machine.step_cases hstep
  · obtain rfl : row = row' := Option.some.inj (hrow.symm.trans hrow')
    exact absurd rfl hmoved
  · rw [Config.shared_after] at hrow'
    refine ⟨call, w, p, rfl, hp, ?_⟩
    rcases h.sides hguard hp (next_did hnext) hrow hrow' with hsame
      | ⟨writer, hfiles, hwriter, -, hother⟩
    · exact absurd (hsame _) hunmoved
    · have hone : row.isSender user = row.isSender writer := by
        by_contra hne
        exact hunmoved (hother _ hne)
      rw [Message.party_eq hparty hwriter hone]
      exact hfiles
  · obtain rfl : row = row' := Option.some.inj (hrow.symm.trans hrow')
    exact absurd rfl hmoved

theorem Inv.removed_step (h : Inv old c) (hstep : machine.step c m = some c')
    (hrow : c.shared.message.lookup id = some row) (hgone : c'.shared.message.lookup id = none) :
    row.bothDeleted = true := by
  obtain ⟨request, rfl, rfl⟩ | ⟨call, w, p, s, n, rfl, hp, hnext, rfl⟩ |
    ⟨call, p, rfl, hp, rfl⟩ := Machine.step_cases hstep
  · cases hrow.symm.trans hgone
  · rw [Config.shared_after] at hgone
    exact h.removed hp (next_did hnext) hrow hgone
  · cases hrow.symm.trans hgone

/-- A deleted copy is in no folder that can be asked for. -/
theorem Db.Copy.not_inFolder (h : old.Copy id row)
    (hparty : row.isParty user = true) (hdeleted : row.folderOf user = .deleted)
    (hfolder : folder ≠ .deleted) : row.inFolder user folder = false := by
  obtain ⟨letter, -, hbecame⟩ := h
  have hdistinct : row.sender ≠ row.recipient := by
    rw [hbecame.sender, hbecame.recipient]
    exact letter.distinct
  rw [Message.isParty, decide_eq_true_eq] at hparty
  rcases hparty with rfl | rfl
  · have hmine : row.senderFolder = .deleted := by
      simpa [Message.folderOf, Message.folderAt, Message.isSender] using hdeleted
    cases folder <;> simp [Message.inFolder, hmine, hdistinct.symm]
  · have hmine : row.recipientFolder = .deleted := by
      simpa [Message.folderOf, Message.folderAt, Message.isSender, hdistinct] using hdeleted
    cases folder <;> simp_all [Message.inFolder]

end Runs

/-- Let no move land on a deleted copy of its own side, and let no deletion of a last copy be
cut off before its `DELETE`.  Then a deleted copy is in no folder ever after; a folder and a
restore origin change only through their own party; the row goes in a step after both sides
are deleted, and a row with both sides deleted has its `DELETE` pending; and the origin of a
copy is never the trash, and is nothing while the copy is at home. -/
theorem deleted_copies_stay_deleted {s : Db} (hs : s.Delivered) {moves : List (Move Request Unit)}
    {c : Config Db Point}
    (hguard : machine.Guarded (fun c m => carriedOut c m = true) (.initial s) moves)
    (hrun : machine.run (.initial s) moves = some c) :
    (∀ before after d, moves = before ++ after → machine.run (.initial s) before = some d →
      ∀ id row user, d.shared.message.lookup id = some row → row.isParty user = true →
        row.folderOf user = .deleted →
        ∀ name folder read needle row', Folder.tryNew name = .ok folder →
          (id, row') ∉ c.shared.listFolder user folder read needle) ∧
    (∀ before m after d d', moves = before ++ m :: after →
      machine.run (.initial s) before = some d → machine.step d m = some d' →
      (∀ id row row' user, d.shared.message.lookup id = some row →
        d'.shared.message.lookup id = some row' → row.isParty user = true →
        (row'.folderOf user, row'.originOf user) ≠ (row.folderOf user, row.originOf user) →
        ∃ call w p, m = .advance call w ∧ d.calls.lookup call = some p ∧
          p.files = some (id, user)) ∧
      ∀ id row, d.shared.message.lookup id = some row → d'.shared.message.lookup id = none →
        row.bothDeleted = true) ∧
    (∀ id row, c.shared.message.lookup id = some row →
      row.Restorable ∧
        (row.bothDeleted = true → ∃ call user, c.calls.lookup call =
          some (.removeRow id user))) := by
  have hstart := initial_inv hs
  have hinv : ∀ {before d}, machine.Guarded (fun c m => carriedOut c m = true) (.initial s) before →
      machine.run (.initial s) before = some d → Inv s d := fun hguard hrun =>
    Machine.run_induction (J := Inv s)
      (fun h hguard hstep => h.step hguard hstep) hstart hguard hrun
  refine ⟨?_, ?_, ?_⟩
  · rintro before after d rfl hd id row user hrow hparty hdeleted name folder read needle row' hname
      hlisted
    have hmiddle := hinv hguard.of_append hd
    obtain ⟨d', hd', hrest⟩ := Machine.run_split hrun
    obtain rfl : d = d' := Option.some.inj (hd.symm.trans hd')
    have hparted : d.shared.Parted id (row.isSender user) := by
      intro row₀ hrow₀
      obtain rfl : row = row₀ := Option.some.inj (hrow.symm.trans hrow₀)
      exact hdeleted
    have hend := Machine.run_induction
      (J := fun c => Inv s c ∧ c.shared.Parted id (row.isSender user))
      (fun h hguard hstep => ⟨h.1.step hguard hstep, h.2.step h.1 hguard hstep⟩)
      ⟨hmiddle, hparted⟩ (hguard.drop hd) hrest
    simp only [Db.listFolder, List.mem_filter, List.mem_map] at hlisted
    obtain ⟨⟨found, hfound, heq⟩, hselected⟩ := hlisted
    obtain ⟨rfl, rfl⟩ := Prod.mk.inj heq
    have hfolder := Message.inFolder_of_selected hselected
    have hrow' := mem_entries_iff_lookup.mp hfound
    have hcopy := hend.1.rows _ _ hrow'
    have hcopy' := hmiddle.rows _ _ hrow
    have hgone : found.2.folderOf user = .deleted := by
      unfold Message.folderOf
      rw [hcopy.isSender hcopy' user]
      exact hend.2 _ hrow'
    rw [hcopy.not_inFolder ((hcopy.isParty hcopy' user).trans hparty) hgone
      (Folder.tryNew_ne_deleted hname)] at hfolder
    cases hfolder
  · rintro before m after d d' rfl hd hstep
    have hmiddle := hinv hguard.of_append hd
    have hmove : carriedOut d m = true := (hguard.drop hd).1
    exact ⟨fun id row row' user hrow hrow' hparty hmoved =>
        hmiddle.own_step hmove hstep hrow hrow' hparty hmoved,
      fun id row hrow hgone => hmiddle.removed_step hstep hrow hgone⟩
  · intro id row hrow
    exact ⟨((hinv hguard hrun).rows id row hrow).restorable, (hinv hguard hrun).pending id row hrow⟩

namespace Sample

def ali : UserId := ⟨.ending "0001"⟩

def ece : UserId := ⟨.ending "0002"⟩

def note : MessageId := ⟨.ending "000a"⟩

def letter : Letter := ⟨ali, ece, "s", "", none, 0, by decide⟩

def db : Db := ⟨(∅ : Table MessageId Message).insert note (send letter)⟩

theorem db_delivered : db.Delivered := by
  intro id row hrow
  unfold db at hrow
  rw [lookup_insert_eq] at hrow
  split at hrow
  · exact ⟨letter, (Option.some.inj hrow).symm⟩
  · cases hrow

end Sample

open Sample in
def bothDelete : List (Move Request Unit) :=
  [.start (.update note ali ⟨none, some "trash"⟩),
    .start (.update note ece ⟨some true, some "trash"⟩),
    .advance 0 (), .advance 1 (), .advance 1 (), .advance 0 (), .advance 1 (),
    .start (.delete note ali), .start (.delete note ece), .advance 2 (), .advance 3 (),
    .advance 2 (), .advance 3 (), .advance 3 ()]

theorem deleted_copies_stay_deleted_both :
    ∃ c, machine.run (.initial Sample.db) bothDelete = some c ∧
      c.shared.message.lookup Sample.note = none ∧
      ∀ row, (Sample.note, row) ∉ c.shared.listFolder Sample.ece .trash none fun _ => true := by
  have hends : (machine.run (.initial Sample.db) bothDelete).any (fun c =>
      decide (c.shared.message.lookup Sample.note = none)) = true := by
    decide
  obtain ⟨c, hrun, hgone⟩ := (Option.any_eq_true _ _).mp hends
  have hmiddle : (machine.run (.initial Sample.db) (bothDelete.take 13)).any (fun d =>
      (d.shared.message.lookup Sample.note).any fun row =>
        row.isParty Sample.ece && decide (row.folderOf Sample.ece = .deleted)) = true := by
    decide
  obtain ⟨d, hd, hrow⟩ := (Option.any_eq_true _ _).mp hmiddle
  obtain ⟨row, hrow, hdeleted⟩ := (Option.any_eq_true _ _).mp hrow
  rw [Bool.and_eq_true, decide_eq_true_eq] at hdeleted
  have hfate := deleted_copies_stay_deleted Sample.db_delivered (by decide) hrun
  exact ⟨c, hrun, of_decide_eq_true hgone, fun row' =>
    hfate.1 (bothDelete.take 13) [.advance 3 ()] d rfl hd Sample.note row Sample.ece hrow
      hdeleted.1 hdeleted.2 "trash" .trash none _ row' (by decide)⟩

open Sample in
def lateMove : List (Move Request Unit) :=
  [.start (.update note ece ⟨none, some "trash"⟩), .advance 0 (), .advance 0 (),
    .start (.update note ece ⟨none, some "inbox"⟩), .advance 1 (),
    .start (.delete note ece), .advance 2 (), .advance 2 ()]

/-- The deletion has answered, and the move brings the copy back into the inbox. -/
theorem late_move_revives_copy :
    (machine.run (.initial Sample.db) lateMove).any (fun d =>
      (d.shared.message.lookup Sample.note).any (fun row =>
        decide (row.folderOf Sample.ece = .deleted)) &&
      (machine.run d [.advance 1 ()]).any fun c =>
        c.calls.entries.isEmpty &&
          !(c.shared.listFolder Sample.ece .inbox none fun _ => true).isEmpty) = true := by
  decide

/-! ## What no move changes -/

def Message.resealed (message : Message) (letter : Letter) : Message :=
  { message with
    sender := letter.sender
    recipient := letter.recipient
    subject := letter.subject
    body := letter.body
    label := letter.label
    sentAt := letter.sentAt }

structure Letter.Filed (letter : Letter) (message : Message) : Prop where
  sealed : message.resealed letter = message
  restorable : message.Restorable
  folders : ∀ side, message.folderAt side = .deleted ∨
    message.folderAt side ∈ Folder.allowedFor side

def Db.Filed (old : Db) (id : MessageId) (message : Message) : Prop :=
  ∃ letter, old.message.lookup id = some (send letter) ∧ letter.Filed message

section Filed

variable {old : Db} {message : Message}

theorem send_filed (letter : Letter) : letter.Filed (send letter) where
  sealed := rfl
  restorable := send_restorable letter
  folders := by
    intro side
    cases side <;> exact .inr List.mem_cons_self

theorem Db.Filed.copy (h : old.Filed id message) : old.Copy id message := by
  obtain ⟨letter, hletter, hfiled⟩ := h
  exact ⟨letter, hletter, (congrArg Message.sender hfiled.sealed).symm,
    (congrArg Message.recipient hfiled.sealed).symm, hfiled.restorable⟩

theorem Db.Filed.setRead (h : old.Filed id message) (read : Bool) :
    old.Filed id { message with read := read } := by
  obtain ⟨letter, hletter, hfiled⟩ := h
  exact ⟨letter, hletter, congrArg (fun message => { message with read := read }) hfiled.sealed,
    hfiled.restorable, hfiled.folders⟩

theorem Db.Filed.file (h : old.Filed id message) {isSender : Bool} {folder : Folder}
    {origin : Option Folder} (hfolder : folder = .deleted ∨ folder ∈ Folder.allowedFor isSender)
    (htrash : origin ≠ some .trash) (hhome : folder = Folder.home isSender → origin = none) :
    old.Filed id (message.file isSender folder origin) := by
  obtain ⟨letter, hletter, hfiled⟩ := h
  refine ⟨letter, hletter, ?_, hfiled.restorable.file htrash hhome, fun side => ?_⟩
  · have hsealed := congrArg (fun message => message.file isSender folder origin) hfiled.sealed
    cases isSender <;> exact hsealed
  · by_cases hside : side = isSender
    · rw [hside, Message.file_folderAt]
      exact hfolder
    · rw [(message.file_other isSender folder origin hside).1]
      exact hfiled.folders side

def Point.Files (old : Db) : Point → Prop
  | .setRead id user stale _ folder => old.Filed id stale ∧
      ∀ target, folder = some target → target ∈ Folder.allowedFor (stale.isSender user)
  | .moveTo id user stale folder => old.Filed id stale ∧
      folder ∈ Folder.allowedFor (stale.isSender user)
  | .deleteFor id _ stale => old.Filed id stale
  | _ => True

theorem Did.files (h : Did s p s' n)
    (hs : ∀ id row, s.message.lookup id = some row → old.Filed id row) (hp : p.Files old) :
    (∀ id row, s'.message.lookup id = some row → old.Filed id row) ∧
      ∀ q, n = .goto q → q.Files old := by
  have hinsert : ∀ {id row}, old.Filed id row →
      ∀ id' row', (s.message.insert id row).lookup id' = some row' → old.Filed id' row' := by
    intro id row hrow id' row' hlookup
    rw [lookup_insert_eq] at hlookup
    split at hlookup
    · next hid => exact hid ▸ Option.some.inj hlookup ▸ hrow
    · exact hs id' row' hlookup
  have hknown : ∀ {id user stale}, s.readFor id user = some stale → old.Filed id stale :=
    fun hread => hs _ _ (readFor_eq_some.mp hread).1
  cases h with
  | refused | unchanged => exact ⟨hs, fun q hq => by cases hq⟩
  | toSetRead hread hchecked =>
      refine ⟨hs, ?_⟩
      rintro q ⟨⟩
      exact ⟨hknown hread, fun target htarget => checked_allowed (htarget ▸ hchecked)⟩
  | toMoveTo hread hchecked =>
      refine ⟨hs, ?_⟩
      rintro q ⟨⟩
      exact ⟨hknown hread, checked_allowed hchecked⟩
  | @setRead id user stale row read folder hrow =>
      have hread := (hs id row hrow).setRead read
      refine ⟨hinsert hread, fun q hq => ?_⟩
      cases folder with
      | none => cases hq
      | some folder =>
          cases hq
          have hside := hp.1.copy.isSender hread.copy user
          exact ⟨hread, hside ▸ hp.2 folder rfl⟩
  | @moveTo id user stale row folder hrow answer =>
      have horigin := hp.1.copy.restorable.originAfter user folder
      exact ⟨hinsert ((hs id row hrow).file (.inr hp.2) horigin.1 horigin.2),
        fun q hq => by cases hq⟩
  | toDeleteFor hread =>
      refine ⟨hs, ?_⟩
      rintro q ⟨⟩
      exact hknown hread
  | @deleteFor id user stale row hrow htrash =>
      refine ⟨hinsert ((hs id row hrow).file (.inl rfl) (by simp) fun _ => rfl), fun q hq => ?_⟩
      split at hq <;> cases hq
      trivial
  | removeRow =>
      exact ⟨fun id row hrow => hs id row (erase_cases hrow).2, fun q hq => by cases hq⟩

end Filed

theorem files_relyGuarantee (old : Db) :
    machine.RelyGuarantee (fun _ _ => True)
      (fun s => ∀ id row, s.message.lookup id = some row → old.Filed id row)
      (fun _ p _ => p.Files old) where
  entry := fun _ request _ _ => by cases request <;> trivial
  own := fun hc _ hp hnext => (next_did hnext).files hc.shared (hc.calls _ _ hp)
  others := fun hc _ _ _ id' q _ hq => hc.calls id' q hq
  rollback := fun hc _ => ⟨hc.shared, fun id' q _ hq => hc.calls id' q hq⟩

/-- Whatever the two parties do in any order, a message is the letter that was sent, and each
side has it in a folder of its own. -/
theorem messages_keep_letters {s : Db} (hs : s.Delivered) {moves : List (Move Request Unit)}
    {c : Config Db Point} (hrun : machine.run (.initial s) moves = some c) {id : MessageId}
    {row : Message} (hrow : c.shared.message.lookup id = some row) :
    ∃ letter, s.message.lookup id = some (send letter) ∧ letter.Filed row := by
  refine ((files_relyGuarantee s).holds_run (Config.initial_holds _ ?_)
    (Machine.guarded_true _ _) hrun).shared id row hrow
  intro id row hrow
  obtain ⟨letter, rfl⟩ := hs id row hrow
  exact ⟨letter, hrow, send_filed letter⟩

theorem messages_keep_letters_lateMove :
    ∃ c row, machine.run (.initial Sample.db) lateMove = some c ∧
      c.shared.message.lookup Sample.note = some row ∧
      ∃ letter, Sample.db.message.lookup Sample.note = some (send letter) ∧ letter.Filed row := by
  have hends : (machine.run (.initial Sample.db) lateMove).any (fun c =>
      (c.shared.message.lookup Sample.note).isSome) = true := by
    decide
  obtain ⟨c, hrun, hrow⟩ := (Option.any_eq_true _ _).mp hends
  obtain ⟨row, hrow⟩ := Option.isSome_iff_exists.mp hrow
  exact ⟨c, row, hrun, hrow, messages_keep_letters Sample.db_delivered hrun hrow⟩

end Hezarfen.Messages
