import Hezarfen.BoardRoster

/-!
# Rosters that are written one call at a time

A roster stays within its limit, and is what its calls left one after the other, as long as
no replacement of it overlaps another call on the same board.  Two replacements that overlap
leave the union of their lists.
-/

namespace Hezarfen.BoardRoster

open Interleaving ReadCommitted
open Boards (BoardId)

variable {s s' : Db} {user : UserId} {tx id : ℕ} {writer : Writer} {n : Reply} {p q : Point}
  {old : BoardId → List UserId} {c : Config Db Point} {log : List (BoardId × Writer)}

/-! ## Rosters -/

theorem mem_roster {board : BoardId} :
    user ∈ s.roster board ↔
      ((s.boardParticipant.row (board, user)).committed).isSome = true := by
  unfold Db.roster
  rw [List.mem_filterMap]
  constructor
  · intro h
    obtain ⟨⟨⟨b, u⟩, r⟩, hr, hkey⟩ := h
    split at hkey
    · next hcond =>
      cases hkey
      obtain ⟨rfl, hsome⟩ := hcond
      rw [Rows.row_of_lookup (mem_entries_iff_lookup.mp hr)]
      exact hsome
    · cases hkey
  · intro hsome
    cases hlookup : s.boardParticipant.lookup (board, user) with
    | none =>
        rw [Rows.row_vacant hlookup] at hsome
        cases hsome
    | some r =>
        rw [Rows.row_of_lookup hlookup] at hsome
        refine ⟨⟨(board, user), r⟩, mem_entries_iff_lookup.mpr hlookup, ?_⟩
        simp [hsome]

theorem nodup_roster (s : Db) (board : BoardId) : (s.roster board).Nodup := by
  unfold Db.roster
  rw [List.Nodup, List.pairwise_filterMap]
  refine (List.nodupKeys_iff_pairwise.mp s.boardParticipant.nodupKeys).imp ?_
  intro e e' hne user huser user' huser' heq
  split at huser
  · next hcond =>
    split at huser'
    · next hcond' =>
      cases huser
      cases huser'
      exact hne (Prod.ext (hcond.1.trans hcond'.1.symm) heq)
    · cases huser'
  · cases huser

theorem mem_members {board : BoardId} {row : UserId × ℕ} :
    row ∈ s.members tx board ↔
      (s.boardParticipant.row (board, row.1)).seen tx = some row.2 := by
  unfold Db.members
  rw [List.mem_map]
  constructor
  · intro h
    obtain ⟨⟨⟨b, u⟩, tuple⟩, hrow, rfl⟩ := h
    obtain ⟨hseen, hboard⟩ := Rows.mem_visible.mp hrow
    obtain rfl : b = board := of_decide_eq_true hboard
    exact hseen
  · intro hseen
    exact ⟨((board, row.1), row.2), Rows.mem_visible.mpr ⟨hseen, by simp⟩, rfl⟩

theorem mem_members_fst {board : BoardId} :
    user ∈ (s.members tx board).map Prod.fst ↔
      ((s.boardParticipant.row (board, user)).seen tx).isSome = true := by
  rw [List.mem_map]
  constructor
  · intro h
    obtain ⟨row, hrow, rfl⟩ := h
    rw [mem_members.mp hrow]
    rfl
  · intro h
    obtain ⟨tuple, htuple⟩ := Option.isSome_iff_exists.mp h
    exact ⟨(user, tuple), mem_members.mpr htuple, rfl⟩

theorem length_roster_le {board : BoardId} {list : List UserId}
    (h : ∀ user ∈ s.roster board, user ∈ list) : (s.roster board).length ≤ list.length :=
  ((nodup_roster s board).subperm h).length_le

inductive Goto (tx : ℕ) (s : Db) : Point → Db → Point → Prop where
  | checked {board : BoardId} {participants list : List UserId}
      (hlist : checkedParticipants participants = .ok list) :
      Goto tx s (.setParticipants board participants) s (.delete board list)
  | found {board : BoardId} {list : List UserId} :
      Goto tx s (.delete board list) s (.deleteRows board list (s.members tx board))
  | deleted {board : BoardId} {list : List UserId} {row : UserId × ℕ} {found : List (UserId × ℕ)}
      {old : Option ℕ} {rows : Rows (BoardId × UserId) ℕ}
      (halter : s.boardParticipant.alterWhere tx (board, row.1) (fun tuple => tuple = row.2)
        (fun _ => none) = some (old, rows)) :
      Goto tx s (.deleteRows board list (row :: found)) { s with boardParticipant := rows }
        (.deleteRows board list found)
  | emptied {board : BoardId} {list : List UserId} :
      Goto tx s (.deleteRows board list []) s (.insertRows board (.set list) list)
  | locked {board : BoardId} {invited : List UserId} {boards : Rows BoardId Unit}
      (hlock : s.board.lock tx board = some (some (), boards)) :
      Goto tx s (.inviteGroup board invited) { s with board := boards } (.count board invited)
  | counted {board : BoardId} {invited : List UserId}
      (hfits : s.wouldBe tx board invited ≤ maxBoardParticipants) :
      Goto tx s (.count board invited) s (.insertRows board (.invite invited) invited)
  | present {board : BoardId} {writer : Writer} {user : UserId} {rest : List UserId}
      (hseen : ((s.boardParticipant.row (board, user)).seen tx).isSome = true) :
      Goto tx s (.insertRows board writer (user :: rest)) s (.insertRows board writer rest)
  | inserted {board : BoardId} {writer : Writer} {user : UserId} {rest : List UserId}
      (hfree : (s.boardParticipant.row (board, user)).free tx = true) :
      Goto tx s (.insertRows board writer (user :: rest))
        { s with
          boardParticipant := s.boardParticipant.write tx (board, user) (some s.tuples)
          tuples := s.tuples + 1 }
        (.insertRows board writer rest)
  | filled {board : BoardId} {writer : Writer} :
      Goto tx s (.insertRows board writer []) s (.readRow board writer)

/-- A step that ends the call. -/
inductive Ends (tx : ℕ) (s : Db) : Point → Db → Prop where
  | refused {board : BoardId} {participants : List UserId} :
      Ends tx s (.setParticipants board participants) s
  | vanished {board : BoardId} {invited : List UserId} :
      Ends tx s (.inviteGroup board invited) (s.commit tx)
  | full {board : BoardId} {invited : List UserId} :
      Ends tx s (.count board invited) (s.commit tx)
  | unknown {board : BoardId} {writer : Writer} {user : UserId} {rest : List UserId} :
      Ends tx s (.insertRows board writer (user :: rest)) (s.rollback tx)
  | notFound {board : BoardId} {list : List UserId} (hgone : s.standing tx board = false) :
      Ends tx s (.readRow board (.set list)) (s.rollback tx)
  | done {board : BoardId} {writer : Writer}
      (hstanding : (∃ list, writer = .set list) → s.standing tx board = true) :
      Ends tx s (.readRow board writer) (s.commit tx)

theorem insertRow_cases {board : BoardId} {rest : List UserId}
    (h : insertRow tx s board writer user rest = some (s', n)) :
    (∃ q, n = .goto q ∧ Goto tx s (.insertRows board writer (user :: rest)) s' q) ∨
      (∃ a, n = .answer a) ∧ Ends tx s (.insertRows board writer (user :: rest)) s' := by
  simp only [insertRow] at h
  split at h
  · next hfree =>
    split at h
    · next hseen =>
      cases h
      exact .inl ⟨_, rfl, .present hseen⟩
    · split at h
      · cases h
        exact .inl ⟨_, rfl, .inserted hfree⟩
      · cases h
        exact .inr ⟨⟨_, rfl⟩, .unknown⟩
  · cases h

theorem readRow_ends {board : BoardId} (h : readRow tx s board writer = (s', n)) :
    (∃ a, n = .answer a) ∧ Ends tx s (.readRow board writer) s' := by
  cases writer with
  | set =>
      unfold readRow at h
      cases hstanding : s.standing tx board with
      | true =>
          simp only [Db.readRow, hstanding, if_true] at h
          cases h
          exact ⟨⟨_, rfl⟩, .done fun _ => hstanding⟩
      | false =>
          simp only [Db.readRow, hstanding, Bool.false_eq_true, if_false] at h
          cases h
          exact ⟨⟨_, rfl⟩, .notFound hstanding⟩
  | invite =>
      cases h
      refine ⟨⟨_, rfl⟩, .done ?_⟩
      rintro ⟨list, hlist⟩
      cases hlist

theorem next_cases {w : Unit} (h : next id s p w = some (s', n)) :
    (∃ q, n = .goto q ∧ Goto id s p s' q) ∨ (∃ a, n = .answer a) ∧ Ends id s p s' := by
  cases p with
  | setParticipants =>
      simp only [next, Option.some.injEq] at h
      unfold setParticipants at h
      split at h
      · cases h
        exact .inr ⟨⟨_, rfl⟩, .refused⟩
      · next hlist =>
        cases h
        exact .inl ⟨_, rfl, .checked hlist⟩
  | delete =>
      cases h
      exact .inl ⟨_, rfl, .found⟩
  | deleteRows board list found =>
      cases found with
      | nil =>
          cases h
          exact .inl ⟨_, rfl, .emptied⟩
      | cons =>
          obtain ⟨d, hd, heq⟩ := Option.map_eq_some_iff.mp h
          obtain ⟨r, hr, rfl⟩ := Option.map_eq_some_iff.mp hd
          cases heq
          exact .inl ⟨_, rfl, .deleted hr⟩
  | inviteGroup =>
      simp only [next] at h
      unfold lockBoard at h
      split at h
      · cases h
      · cases h
        exact .inr ⟨⟨_, rfl⟩, .vanished⟩
      · next hlock =>
        cases h
        exact .inl ⟨_, rfl, .locked hlock⟩
  | count =>
      simp only [next, Option.some.injEq] at h
      unfold count at h
      split at h
      · cases h
        exact .inr ⟨⟨_, rfl⟩, .full⟩
      · next hfits =>
        cases h
        exact .inl ⟨_, rfl, .counted (Nat.le_of_not_lt hfits)⟩
  | insertRows board writer rest =>
      cases rest with
      | nil =>
          cases h
          exact .inl ⟨_, rfl, .filled⟩
      | cons => exact insertRow_cases h
  | readRow =>
      simp only [next, Option.some.injEq] at h
      exact .inr (readRow_ends h)

def Writer.Fits (writer : Writer) (old : List UserId) : Prop :=
  ∃ list : List UserId, list.length ≤ maxBoardParticipants ∧
    ∀ user ∈ writer.apply old, user ∈ list

theorem Writer.mem_apply_congr {old old' : List UserId} (h : ∀ user, user ∈ old ↔ user ∈ old')
    (user : UserId) :
    user ∈ writer.apply old ↔ user ∈ writer.apply old' := by
  cases writer with
  | set => rfl
  | invite =>
      simp only [Writer.apply, List.mem_append]
      rw [h user]

theorem Writer.Fits.congr {old old' : List UserId} (h : writer.Fits old)
    (hmem : ∀ user, user ∈ old ↔ user ∈ old') : writer.Fits old' := by
  obtain ⟨list, hlength, hlist⟩ := h
  exact ⟨list, hlength, fun user huser =>
    hlist user ((Writer.mem_apply_congr hmem user).mpr huser)⟩

/-- `finds user` says that the transaction finds a row of the user. -/
def Db.finds (s : Db) (tx : ℕ) (board : BoardId) (user : UserId) : Prop :=
  ((s.boardParticipant.row (board, user)).seen tx).isSome = true

def Point.Knows (tx : ℕ) (s : Db) : Point → Prop
  | .delete _ list => list.length ≤ maxBoardParticipants
  | .deleteRows board list found =>
      list.length ≤ maxBoardParticipants ∧
        ∀ user tuple, (s.boardParticipant.row (board, user)).seen tx = some tuple →
          (user, tuple) ∈ found
  | .count board _ => ∀ user, ¬ (s.boardParticipant.row (board, user)).Held tx
  | .insertRows board writer rest =>
      writer.Fits (s.roster board) ∧
        ∀ user, s.finds tx board user ∨ user ∈ rest ↔ user ∈ writer.apply (s.roster board)
  | .readRow board writer =>
      writer.Fits (s.roster board) ∧
        ∀ user, s.finds tx board user ↔ user ∈ writer.apply (s.roster board)
  | _ => True

def Point.Locks (tx : ℕ) (s : Db) (p : Point) : Prop :=
  ∀ board, p.locks = some board → (s.board.row board).Held tx ∧ s.standing tx board = true

theorem Point.Knows.congr (h : p.Knows tx s) (hrows : ∀ board user, p.opened = some board →
      s'.boardParticipant.row (board, user) = s.boardParticipant.row (board, user)) :
    p.Knows tx s' := by
  have hroster : ∀ board, p.opened = some board →
      ∀ user, user ∈ s.roster board ↔ user ∈ s'.roster board := by
    intro board hopened user
    rw [mem_roster, mem_roster, hrows board user hopened]
  cases p with
  | setParticipants | inviteGroup => trivial
  | delete => exact h
  | deleteRows board =>
      refine ⟨h.1, fun user tuple htuple => h.2 user tuple ?_⟩
      rwa [hrows board user rfl] at htuple
  | count board =>
      intro user
      rw [hrows board user rfl]
      exact h user
  | insertRows board writer rest | readRow board writer =>
      refine ⟨h.1.congr (hroster board rfl), fun user => ?_⟩
      rw [← Writer.mem_apply_congr (hroster board rfl) user, ← h.2 user, Db.finds, Db.finds,
        hrows board user rfl]

/-! ## The rows a step leaves alone -/

/-- A step of `id` at `p` touches no row that another call holds, and no roster row of a board
that it has not opened. -/
structure Frame (id : ℕ) (p : Point) (s s' : Db) : Prop where
  board : Rows.Apart id s.board s'.board
  roster : Rows.Apart id s.boardParticipant s'.boardParticipant
  rows : ∀ k : BoardId × UserId, p.opened ≠ some k.1 →
    s'.boardParticipant.row k = s.boardParticipant.row k

theorem Frame.refl (id : ℕ) (p : Point) (s : Db) : Frame id p s s :=
  ⟨.refl id _, .refl id _, fun _ _ => rfl⟩

theorem Goto.frame (h : Goto id s p s' q) :
    Frame id p s s' := by
  cases h with
  | checked | found | emptied | counted | present | filled => exact .refl id _ s
  | deleted halter =>
      refine ⟨.refl id _, .alter halter, fun k hk => ?_⟩
      rcases Rows.alterWhere_cases halter with ⟨-, rfl, -⟩ | ⟨v, -, -, -, -, rfl⟩
      · rfl
      · rw [Rows.row_write, if_neg]
        rintro rfl
        exact hk rfl
  | locked hlock => exact ⟨.alter hlock, .refl id _, fun _ _ => rfl⟩
  | inserted hfree =>
      refine ⟨.refl id _, .write _ hfree, fun k hk => ?_⟩
      rw [Rows.row_write, if_neg]
      rintro rfl
      exact hk rfl

theorem row_settle
    (hheld : ∀ k : BoardId × UserId, (s.boardParticipant.row k).Held id → p.opened = some k.1)
    {k : BoardId × UserId} (hk : p.opened ≠ some k.1) (keep : Option ℕ → Option ℕ) :
    (s.boardParticipant.row k).settle id keep = s.boardParticipant.row k := by
  rcases (s.boardParticipant.row k).settle_eq_or id keep with heq | hgone
  · exact heq
  · exact absurd (hheld k hgone.1) hk

theorem frame_commit
    (hheld : ∀ k : BoardId × UserId, (s.boardParticipant.row k).Held id → p.opened = some k.1) :
    Frame id p s (s.commit id) where
  board := .commit id _
  roster := .commit id _
  rows k hk := by
    rw [Db.commit, Rows.row_commit]
    exact row_settle hheld hk _

theorem frame_rollback
    (hheld : ∀ k : BoardId × UserId, (s.boardParticipant.row k).Held id → p.opened = some k.1) :
    Frame id p s (s.rollback id) where
  board := .rollback id _
  roster := .rollback id _
  rows k hk := by
    rw [Db.rollback, Rows.row_rollback]
    exact row_settle hheld hk _

theorem Goto.committed (h : Goto id s p s' q) (k : BoardId × UserId) :
    (s'.boardParticipant.row k).committed = (s.boardParticipant.row k).committed := by
  cases h with
  | deleted halter => exact Rows.committed_alter halter k
  | inserted => exact Rows.committed_write id _ _ k _
  | _ => rfl

theorem Goto.held (h : Goto id s p s' q)
    (hheld : ∀ k : BoardId × UserId, (s.boardParticipant.row k).Held id → p.opened = some k.1)
    (k : BoardId × UserId) (hk : (s'.boardParticipant.row k).Held id) : q.opened = some k.1 := by
  have hwritten : ∀ key version, p.opened = some key.1 →
      ((s.boardParticipant.write id key version).row k).Held id → p.opened = some k.1 := by
    intro key version hopened hrow
    rw [Rows.row_write] at hrow
    split at hrow
    · next heq => rw [heq, hopened]
    · exact hheld k hrow
  cases h with
  | checked | found | locked => cases hheld k hk
  | deleted halter =>
      rcases Rows.alterWhere_cases halter with ⟨-, rfl, -⟩ | ⟨v, -, -, -, -, rfl⟩
      · exact hheld k hk
      · exact hwritten _ _ rfl hk
  | emptied | counted | present | filled => exact hheld k hk
  | inserted => exact hwritten _ _ rfl hk

theorem length_wouldBe {board : BoardId} {invited : List UserId} :
    (((s.members id board).map Prod.fst) ++
      invited.filter fun user => user ∉ (s.members id board).map Prod.fst).length =
        s.wouldBe id board invited := by
  rw [List.length_append, Db.wouldBe]

/-- What a call knows at its next point.  While it is open nobody else writes the rows it found,
so that a `DELETE` clears the roster and a count is still right at the last insert. -/
theorem Goto.knows (h : Goto id s p s' q)
    (hheld : ∀ k : BoardId × UserId, (s.boardParticipant.row k).Held id → p.opened = some k.1)
    (hp : p.Knows id s) : q.Knows id s' := by
  cases h with
  | checked hlist =>
      unfold checkedParticipants at hlist
      split at hlist
      · cases hlist
      · next hle =>
        cases hlist
        exact Nat.le_of_not_lt hle
  | found => exact ⟨hp, fun user tuple htuple => mem_members.mpr htuple⟩
  | @deleted board list row found old rows halter =>
      refine ⟨hp.1, fun user tuple htuple => ?_⟩
      rcases Rows.alterWhere_cases halter with ⟨-, rfl, hother⟩ | ⟨v, -, hseen, -, -, rfl⟩
      · obtain heq | hmem := List.mem_cons.mp (hp.2 user tuple htuple)
        · subst heq
          have hne := hother tuple htuple
          simp at hne
        · exact hmem
      · by_cases huser : user = row.1
        · subst huser
          rw [Rows.seen_write] at htuple
          cases htuple
        · rw [Rows.row_write, if_neg (fun heq => huser (congrArg Prod.snd heq))] at htuple
          obtain heq | hmem := List.mem_cons.mp (hp.2 user tuple htuple)
          · exact absurd (congrArg Prod.fst heq) huser
          · exact hmem
  | @emptied board list =>
      refine ⟨⟨list, hp.1, fun user huser => huser⟩, fun user => ?_⟩
      constructor
      · rintro (hfinds | hmem)
        · obtain ⟨tuple, htuple⟩ := Option.isSome_iff_exists.mp hfinds
          cases hp.2 user tuple htuple
        · exact hmem
      · exact .inr
  | locked =>
      intro user hrow
      cases hheld _ hrow
  | @counted board invited hfits =>
      have hfinds : ∀ user, s.finds id board user ↔ user ∈ s.roster board := by
        intro user
        rw [mem_roster, Db.finds, Row.seen_eq_committed (hp user)]
      refine ⟨⟨_, length_wouldBe.trans_le hfits, fun user huser => ?_⟩, fun user => ?_⟩
      · by_cases hmember : s.finds id board user
        · exact List.mem_append_left _ (mem_members_fst.mpr hmember)
        · refine List.mem_append_right _ (List.mem_filter.mpr ⟨?_, ?_⟩)
          · obtain hold | hnew := List.mem_append.mp huser
            · exact absurd ((hfinds user).mpr hold) hmember
            · exact hnew
          · exact decide_eq_true fun hmem => hmember (mem_members_fst.mp hmem)
      · rw [hfinds user]
        exact List.mem_append.symm
  | @present board writer user rest hseen =>
      refine ⟨hp.1, fun user' => ?_⟩
      rw [← hp.2 user', List.mem_cons]
      constructor
      · exact fun hcase => hcase.imp_right .inr
      · rintro (hfinds | rfl | hmem)
        · exact .inl hfinds
        · exact .inl hseen
        · exact .inr hmem
  | @inserted board writer user rest hfree =>
      have hroster : ∀ user', user' ∈ s.roster board ↔ user' ∈ Db.roster { s with
          boardParticipant := s.boardParticipant.write id (board, user) (some s.tuples)
          tuples := s.tuples + 1 } board := by
        intro user'
        rw [mem_roster, mem_roster, Rows.committed_write]
      refine ⟨hp.1.congr hroster, fun user' => ?_⟩
      rw [← Writer.mem_apply_congr hroster user', ← hp.2 user', List.mem_cons, Db.finds, Db.finds]
      by_cases huser : user' = user
      · subst huser
        simp [Rows.seen_write]
      · rw [Rows.row_write, if_neg (fun heq => huser (congrArg Prod.snd heq))]
        simp [huser]
  | @filled board writer =>
      refine ⟨hp.1, fun user => ?_⟩
      rw [← hp.2 user]
      exact ⟨.inl, fun hcase => hcase.resolve_right List.not_mem_nil⟩

/-- `old` are the rosters of the start and `log` the calls that committed since. -/
structure Inv (old : BoardId → List UserId) (c : Config Db Point)
    (log : List (BoardId × Writer)) : Prop where
  numbered : ∀ id p, c.calls.lookup id = some p → id < c.started
  knows : ∀ id p, c.calls.lookup id = some p → p.Knows id c.shared ∧ p.Locks id c.shared
  held : ∀ id k, (c.shared.boardParticipant.row k).Held id →
    ∃ p, c.calls.lookup id = some p ∧ p.opened = some k.1
  single : ∀ id id' p p' board, c.calls.lookup id = some p → c.calls.lookup id' = some p' →
    p.opened = some board → p'.opened = some board → id = id'
  fits : ∀ board, (c.shared.roster board).length ≤ maxBoardParticipants
  turn : ∀ board user, user ∈ c.shared.roster board ↔
    user ∈ replay Writer.apply board log (old board)

theorem Inv.held_opened (h : Inv old c log) (hp : c.calls.lookup id = some p) (k : BoardId × UserId)
    (hk : (c.shared.boardParticipant.row k).Held id) : p.opened = some k.1 := by
  obtain ⟨q, hq, hopened⟩ := h.held id k hk
  rw [hp] at hq
  cases hq
  exact hopened

/-- The other calls keep what they rely on. -/
theorem Inv.others (h : Inv old c log) (hp : c.calls.lookup id = some p)
    (hframe : Frame id p c.shared s) {id' : ℕ} (hne : id' ≠ id) (hq : c.calls.lookup id' = some q) :
    q.Knows id' s ∧ q.Locks id' s := by
  obtain ⟨hknows, hlocks⟩ := h.knows id' q hq
  constructor
  · refine hknows.congr fun board user hopened => hframe.rows (board, user) fun hown => ?_
    exact hne (h.single id' id q p board hq hp hopened hown)
  · intro board hlock
    obtain ⟨hheld, hstanding⟩ := hlocks board hlock
    have hsame := hframe.board.held id' hne board hheld
    rw [Db.standing, hsame]
    exact ⟨hheld, hstanding⟩

theorem Inv.held_others (h : Inv old c log) (hframe : Frame id p c.shared s) {id' : ℕ}
    (hne : id' ≠ id) {k : BoardId × UserId} (hk : (s.boardParticipant.row k).Held id') :
    ∃ q, c.calls.lookup id' = some q ∧ q.opened = some k.1 := by
  refine h.held id' k ?_
  by_contra hnot
  exact hframe.roster.unheld id' hne k hnot hk

/-- A statement opens a board only where the guard has seen that nobody else has it open. -/
theorem Inv.opens (h : Inv old c log) (hguard : alone c p = true) (hgoto : Goto id c.shared p s q)
    {board : BoardId} (hq : q.opened = some board) :
    p.opened = some board ∨
      ∀ id' p', id' ≠ id → c.calls.lookup id' = some p' → p'.opened ≠ some board := by
  cases hgoto with
  | checked => cases hq
  | found =>
      cases hq
      refine .inr fun id' p' _ hp' hopened => ?_
      have hnone := Table.any_eq_false_iff.mp (Bool.not_eq_true' _ ▸ hguard) id' p' hp'
      exact absurd hopened (of_decide_eq_false hnone)
  | locked hlock =>
      cases hq
      refine .inr fun id' p' hne hp' hopened => ?_
      have hnone := Table.any_eq_false_iff.mp (Bool.not_eq_true' _ ▸ hguard) id' p' hp'
      have hlocks : p'.locks = some board := by
        by_contra hnot
        exact of_decide_eq_false hnone ⟨hopened, hnot⟩
      have hheld := ((h.knows id' p' hp').2 board hlocks).1
      obtain ⟨hnone, -⟩ | ⟨v, -, -, -, hfree, -⟩ := Rows.alterWhere_cases hlock
      · cases hnone
      · exact Row.not_held_of_free hfree hne hheld
  | deleted | emptied | counted | present | inserted | filled => exact .inl hq

theorem Goto.locks (h : Goto id s p s' q) (hp : p.Locks id s) : q.Locks id s' := by
  cases h with
  | locked hlock =>
      intro board hboard
      cases hboard
      obtain ⟨hheld, hseen⟩ := Rows.held_alter hlock
      exact ⟨hheld, by rw [Db.standing, hseen]; rfl⟩
  | checked | found | deleted | emptied => exact fun board hboard => by cases hboard
  | counted => exact hp
  | @present board writer user rest hseen | @inserted board writer user rest hfree =>
      cases writer <;> exact hp
  | @filled board writer => cases writer <;> exact hp

theorem Inv.start (h : Inv old c log) (request : Request) :
    Inv old
      { c with
        calls := c.calls.insert c.started request.entry
        started := c.started + 1 } log := by
  have hopened : request.entry.opened = none := by cases request <;> rfl
  have hlookup : ∀ id p, (c.calls.insert c.started request.entry).lookup id = some p →
      c.calls.lookup id = some p ∨ id = c.started ∧ p = request.entry := by
    intro id p hp
    obtain ⟨hid, rfl⟩ | ⟨-, hp⟩ := insert_cases hp
    · exact .inr ⟨hid, rfl⟩
    · exact .inl hp
  refine ⟨fun id p hp => ?_, fun id p hp => ?_, fun id k hk => ?_, ?_, h.fits, h.turn⟩
  · obtain hold | ⟨rfl, -⟩ := hlookup id p hp
    · exact Nat.lt_succ_of_lt (h.numbered id p hold)
    · exact Nat.lt_succ_self _
  · obtain hold | ⟨rfl, rfl⟩ := hlookup id p hp
    · exact h.knows id p hold
    · cases request
      all_goals exact ⟨trivial, fun board hboard => by cases hboard⟩
  · obtain ⟨p, hp, hboard⟩ := h.held id k hk
    refine ⟨p, ?_, hboard⟩
    rw [lookup_insert_eq, if_neg (Nat.ne_of_lt (h.numbered id p hp))]
    exact hp
  · intro id id' p p' board hp hp' hboard hboard'
    obtain hold | ⟨rfl, rfl⟩ := hlookup id p hp
    · obtain hold' | ⟨rfl, rfl⟩ := hlookup id' p' hp'
      · exact h.single id id' p p' board hold hold' hboard hboard'
      · rw [hopened] at hboard'
        cases hboard'
    · rw [hopened] at hboard
      cases hboard

theorem Inv.goto (h : Inv old c log) (hguard : BoardRoster.alone c p = true)
    (hp : c.calls.lookup id = some p) (hgoto : Goto id c.shared p s q) :
    Inv old (c.after id s (.goto q : Reply)) log := by
  have hheld := h.held_opened hp
  have hframe := hgoto.frame
  have hroster : ∀ board user, user ∈ s.roster board ↔ user ∈ c.shared.roster board := by
    intro board user
    rw [mem_roster, mem_roster, hgoto.committed]
  refine ⟨fun id' p' hp' => ?_, fun id' p' hp' => ?_, fun id' k hk => ?_, ?_, fun board => ?_,
    fun board user => ?_⟩
  · rcases Config.lookup_after hp' with ⟨-, hold⟩ | ⟨rfl, -⟩
    · exact h.numbered id' p' hold
    · exact h.numbered id' p hp
  · rcases Config.lookup_after hp' with ⟨hne, hold⟩ | ⟨rfl, heq⟩
    · exact h.others hp hframe hne hold
    · cases heq
      exact ⟨hgoto.knows hheld (h.knows _ p hp).1, hgoto.locks (h.knows _ p hp).2⟩
  · by_cases hid : id' = id
    · subst hid
      exact ⟨q, by rw [Config.after, lookup_insert_eq, if_pos rfl], hgoto.held hheld k hk⟩
    · obtain ⟨p', hp', hopened⟩ := h.held_others hframe hid hk
      exact ⟨p', by rw [Config.lookup_after_ne s _ hid, hp'], hopened⟩
  · have hself : ∀ id' p' board, id' ≠ id → c.calls.lookup id' = some p' →
        p'.opened = some board → q.opened ≠ some board := by
      intro id' p' board hne hp' hboard hq
      obtain hown | hnone := h.opens hguard hgoto hq
      · exact hne (h.single id' id p' p board hp' hp hboard hown)
      · exact hnone id' p' hne hp' hboard
    intro id' id'' p' p'' board hp' hp'' hboard hboard'
    rcases Config.lookup_after hp' with ⟨hne, hold⟩ | ⟨rfl, heq⟩
    · rcases Config.lookup_after hp'' with ⟨-, hold'⟩ | ⟨rfl, heq⟩
      · exact h.single id' id'' p' p'' board hold hold' hboard hboard'
      · cases heq
        exact absurd hboard' (hself id' p' board hne hold hboard)
    · cases heq
      rcases Config.lookup_after hp'' with ⟨hne, hold'⟩ | ⟨rfl, -⟩
      · exact absurd hboard (hself id'' p'' board hne hold' hboard')
      · rfl
  · exact (length_roster_le fun user huser => (hroster board user).mp huser).trans (h.fits board)
  · rw [← h.turn board user]
    exact hroster board user

/-- A call that is over leaves its rows to the others. -/
theorem Inv.over {log' : List (BoardId × Writer)} (h : Inv old c log)
    (hp : c.calls.lookup id = some p) (hframe : Frame id p c.shared s)
    (hidle : ∀ k, ¬ (s.boardParticipant.row k).Held id)
    (hfits : ∀ board, (s.roster board).length ≤ maxBoardParticipants)
    (hturn : ∀ board user, user ∈ s.roster board ↔
      user ∈ replay Writer.apply board log' (old board)) :
    Inv old { c with shared := s, calls := c.calls.erase id } log' := by
  have hlookup : ∀ id' p', (c.calls.erase id).lookup id' = some p' →
      id' ≠ id ∧ c.calls.lookup id' = some p' := by
    intro id' p' hp'
    obtain ⟨hne, hp'⟩ := erase_cases hp'
    exact ⟨hne, hp'⟩
  refine ⟨fun id' p' hp' => ?_, fun id' p' hp' => ?_, fun id' k hk => ?_, ?_, hfits, hturn⟩
  · exact h.numbered id' p' (hlookup id' p' hp').2
  · exact h.others hp hframe (hlookup id' p' hp').1 (hlookup id' p' hp').2
  · have hne : id' ≠ id := by
      rintro rfl
      exact hidle k hk
    obtain ⟨p', hp', hopened⟩ := h.held_others hframe hne hk
    refine ⟨p', ?_, hopened⟩
    rw [lookup_erase_eq, if_neg hne]
    exact hp'
  · intro id' id'' p' p'' board hp' hp''
    exact h.single id' id'' p' p'' board (hlookup id' p' hp').2 (hlookup id'' p'' hp'').2

theorem Inv.rollback (h : Inv old c log) (hp : c.calls.lookup id = some p) :
    Inv old { c with shared := c.shared.rollback id, calls := c.calls.erase id } log := by
  have hroster : ∀ board user,
      user ∈ (c.shared.rollback id).roster board ↔ user ∈ c.shared.roster board := by
    intro board user
    rw [mem_roster, mem_roster, Db.rollback, Rows.committed_rollback]
  refine h.over hp (frame_rollback (h.held_opened hp)) (Rows.idle_rollback id _) ?_ ?_
  · intro board
    exact (length_roster_le fun user huser => (hroster board user).mp huser).trans (h.fits board)
  · intro board user
    rw [hroster, h.turn board user]

theorem mem_roster_commit {board : BoardId} :
    user ∈ (s.commit id).roster board ↔ s.finds id board user := by
  rw [mem_roster, Db.commit, Rows.row_commit, Row.committed_commit, Db.finds]

/-- The commit of a call that wrote nothing. -/
theorem Inv.commit_idle (h : Inv old c log) (hp : c.calls.lookup id = some p)
    (hidle : ∀ k, ¬ (c.shared.boardParticipant.row k).Held id) :
    Inv old { c with shared := c.shared.commit id, calls := c.calls.erase id } log := by
  have hroster : ∀ board user,
      user ∈ (c.shared.commit id).roster board ↔ user ∈ c.shared.roster board := by
    intro board user
    rw [mem_roster_commit, mem_roster, Db.finds, Row.seen_eq_committed (hidle (board, user))]
  refine h.over hp (frame_commit (h.held_opened hp)) (Rows.idle_commit id _) ?_ ?_
  · intro board
    exact (length_roster_le fun user huser => (hroster board user).mp huser).trans (h.fits board)
  · intro board user
    rw [hroster, h.turn board user]

theorem Inv.commit_done (h : Inv old c log) {board : BoardId}
    (hp : c.calls.lookup id = some (.readRow board writer)) :
    Inv old { c with shared := c.shared.commit id, calls := c.calls.erase id }
      (log ++ [(board, writer)]) := by
  have hknows : writer.Fits (c.shared.roster board) ∧
      ∀ user, c.shared.finds id board user ↔ user ∈ writer.apply (c.shared.roster board) :=
    (h.knows id _ hp).1
  have hroster : ∀ board' user, user ∈ (c.shared.commit id).roster board' ↔
      user ∈ if board = board' then writer.apply (c.shared.roster board')
        else c.shared.roster board' := by
    intro board' user
    rw [mem_roster_commit]
    split
    · next heq =>
      subst heq
      exact hknows.2 user
    · next hne =>
      rw [mem_roster, Db.finds, Row.seen_eq_committed]
      intro hheld
      exact hne (Option.some.inj (h.held_opened hp _ hheld))
  refine h.over hp (frame_commit (h.held_opened hp)) (Rows.idle_commit id _) ?_ ?_
  · intro board'
    by_cases heq : board = board'
    · subst heq
      obtain ⟨list, hlength, hlist⟩ := hknows.1
      refine (length_roster_le fun user huser => hlist user ?_).trans hlength
      simpa using (hroster board user).mp huser
    · refine (length_roster_le fun user huser => ?_).trans (h.fits board')
      simpa [heq] using (hroster board' user).mp huser
  · intro board' user
    rw [hroster, replay_snoc]
    split
    · exact Writer.mem_apply_congr (h.turn board') user
    · exact h.turn board' user

theorem Inv.ends (h : Inv old c log) (hp : c.calls.lookup id = some p)
    (hends : Ends id c.shared p s) :
    Inv old { c with shared := s, calls := c.calls.erase id }
      (log ++ committed c (.advance id ())) := by
  have hunopened : p.opened = none → ∀ k, ¬ (c.shared.boardParticipant.row k).Held id := by
    intro hnone k hk
    rw [h.held_opened hp k hk] at hnone
    cases hnone
  cases hends with
  | refused =>
      simp only [committed, hp, List.append_nil]
      exact h.over hp (.refl id _ _) (hunopened rfl) h.fits h.turn
  | vanished =>
      simp only [committed, hp, List.append_nil]
      exact h.commit_idle hp (hunopened rfl)
  | @full board invited =>
      simp only [committed, hp, List.append_nil]
      refine h.commit_idle hp fun k hk => ?_
      obtain rfl : board = k.1 := Option.some.inj (h.held_opened hp k hk)
      exact (h.knows id _ hp).1 k.2 hk
  | unknown =>
      simp only [committed, hp, List.append_nil]
      exact h.rollback hp
  | notFound hgone =>
      simp only [committed, hp, hgone, Bool.false_eq_true, if_false, List.append_nil]
      exact h.rollback hp
  | @done board writer hstanding =>
      have hthere : c.shared.standing id board = true := by
        cases writer with
        | set list => exact hstanding ⟨list, rfl⟩
        | invite => exact ((h.knows id _ hp).2 board rfl).2
      simp only [committed, hp, hthere, if_true]
      exact h.commit_done hp

theorem Inv.step {c' : Config Db Point} {m : Move Request Unit} (h : Inv old c log)
    (hguard : c.Admits alone m) (hstep : machine.step c m = some c') :
    Inv old c' (log ++ committed c m) := by
  obtain ⟨request, rfl, rfl⟩ | ⟨id, w, p, s, n, rfl, hp, hnext, rfl⟩ | ⟨id, p, rfl, hp, rfl⟩ :=
    Machine.step_cases hstep
  · simp only [committed, List.append_nil]
    exact h.start request
  · have hmove : next id c.shared p w = some (s, n) := hnext
    obtain ⟨q, rfl, hgoto⟩ | ⟨⟨a, rfl⟩, hends⟩ := next_cases hmove
    · have hnil : committed c (.advance id w) = [] := by
        simp only [committed, hp]
        cases hgoto <;> rfl
      rw [hnil, List.append_nil]
      exact h.goto (hguard.check hp) hp hgoto
    · exact h.ends hp hends
  · simp only [committed, List.append_nil]
    exact h.rollback hp

structure Db.Begins (s : Db) : Prop where
  settled : s.boardParticipant.Settled
  fits : ∀ board, (s.roster board).length ≤ maxBoardParticipants

theorem initial_inv (hs : s.Begins) : Inv s.roster (.initial s) [] where
  numbered id p hp := by simp [Config.initial] at hp
  knows id p hp := by simp [Config.initial] at hp
  held id k hk := absurd hk (hs.settled.idle id k)
  single id id' p p' board hp := by simp [Config.initial] at hp
  fits := hs.fits
  turn board user := Iff.rfl

/-- As long as no replacement of a roster overlaps another call on the same board, every
committed roster is within its limit and is what the calls that committed left there one after
the other: the list of the last replacement, and the groups that were invited since. -/
theorem rosters_in_turn {s : Db} (hs : s.Begins) {moves : List (Move Request Unit)}
    {c : Config Db Point} (hguard : machine.Guarded (Config.Admits alone) (.initial s) moves)
    (hrun : machine.run (.initial s) moves = some c) (board : BoardId) :
    (c.shared.roster board).length ≤ maxBoardParticipants ∧
      ∀ user, user ∈ c.shared.roster board ↔
        user ∈ replay Writer.apply board (machine.observe committed (.initial s) moves)
          (s.roster board) := by
  have hinv := Machine.observe_induction (f := committed) (J := Inv s.roster)
    (fun h hguard hstep => h.step hguard hstep) (initial_inv hs) hguard hrun
  exact ⟨hinv.fits board, hinv.turn board⟩

namespace Sample

def ali : UserId := ⟨.ending "0001"⟩

def ece : UserId := ⟨.ending "0002"⟩

def board : BoardId := ⟨.ending "000a"⟩

/-- A board nobody was invited to yet. -/
def db : Db := ⟨(∅ : Rows BoardId Unit).insert board ⟨some (), none⟩, ∅, 0, [ali, ece]⟩

theorem db_begins : db.Begins where
  settled := Rows.settled_of_all rfl
  fits _ := Nat.zero_le _

end Sample

open Sample in
def inTurn : List (Move Request Unit) :=
  [.start (.setParticipants board [ali, ali]), .advance 0 (), .advance 0 (), .advance 0 (),
    .advance 0 (), .advance 0 (), .advance 0 (), .start (.inviteGroup board [ece]),
    .advance 1 (), .advance 1 (), .advance 1 (), .advance 1 (), .advance 1 ()]

theorem rosters_in_turn_invited :
    ∃ c, machine.run (.initial Sample.db) inTurn = some c ∧
      c.shared.roster Sample.board = [Sample.ece, Sample.ali] ∧
      (c.shared.roster Sample.board).length ≤ maxBoardParticipants := by
  have hends : (machine.run (.initial Sample.db) inTurn).any (fun c =>
      decide (c.shared.roster Sample.board = [Sample.ece, Sample.ali])) = true := by
    decide
  obtain ⟨c, hrun, hroster⟩ := (Option.any_eq_true _ _).mp hends
  exact ⟨c, hrun, of_decide_eq_true hroster,
    (rosters_in_turn Sample.db_begins (by decide) hrun Sample.board).1⟩

open Sample in
def overlapping : List (Move Request Unit) :=
  [.start (.setParticipants board [ali]), .start (.setParticipants board [ece]),
    .advance 0 (), .advance 1 (), .advance 0 (), .advance 1 (), .advance 0 (), .advance 1 (),
    .advance 0 (), .advance 1 (), .advance 0 (), .advance 1 (), .advance 0 (), .advance 1 ()]

/-- Both replacements committed, and the roster is the list of neither. -/
theorem overlapping_rosters_merge :
    (machine.run (.initial Sample.db) overlapping).any (fun c =>
      c.calls.entries.isEmpty &&
        decide (c.shared.roster Sample.board = [Sample.ece, Sample.ali] ∧
          machine.observe committed (.initial Sample.db) overlapping =
            [(Sample.board, .set [Sample.ali]), (Sample.board, .set [Sample.ece])])) = true := by
  decide

end Hezarfen.BoardRoster
