import Hezarfen.Boards

/-!
# The log of a board

Every row is counted by the lifetime counter and every stroke by the counter of its epoch;
a clear files the count of the epoch it ends.  A guarded statement writes the counter and
the row together, whatever epoch its caller believes in, so the log and the counters agree
in every order of the statements.
-/

namespace Hezarfen.Boards

open Interleaving

variable {s s' : Db} {id : BoardStrokeId} {p : Point} {row : Board} {mark : BoardStroke}

def Db.rowsOf (s : Db) (board : BoardId) (p : BoardStroke → Bool) : ℕ :=
  Table.count s.boardStroke fun _ mark => decide (mark.board = board) && p mark

def strokeOf (epoch : ℤ) (mark : BoardStroke) : Bool :=
  decide (mark.kind = .stroke) && decide (mark.epoch = epoch)

def markerOf (epoch : ℤ) (mark : BoardStroke) : Bool :=
  decide (mark.kind = .clear) && decide (mark.epoch = epoch)

/-- The counters of a board against its rows. -/
structure Books (s : Db) (board : BoardId) (row : Board) : Prop where
  total : row.totalStrokeCount = s.rowsOf board fun _ => true
  /-- Only the marker of the last clear is stored above the cap. -/
  lifetime : row.totalStrokeCount ≤ maxBoardStrokes ∨
    row.totalStrokeCount = maxBoardStrokes + 1 ∧ row.epochStrokeCount = 0
  live : row.epochStrokeCount = s.rowsOf board (strokeOf row.epoch)
  canvas : row.epochStrokeCount ≤ maxEpochStrokes
  started : 0 ≤ row.epoch
  ended : ∀ epoch, 0 ≤ epoch → epoch < row.epoch →
    s.rowsOf board (markerOf epoch) = 1 ∧ 1 ≤ s.rowsOf board (strokeOf epoch)
  marked : ∀ id mark, s.boardStroke.lookup id = some mark → mark.board = board →
    mark.kind = .clear → mark.count = some (s.rowsOf board (strokeOf mark.epoch) : ℤ) ∧
      mark.epoch < row.epoch
  filed : ∀ id mark, s.boardStroke.lookup id = some mark → mark.board = board →
    0 ≤ mark.epoch ∧ mark.epoch ≤ row.epoch

structure Inv (s : Db) : Prop where
  books : ∀ board row, s.board.lookup board = some row → Books s board row
  /-- A foreign key. -/
  owned : ∀ id mark, s.boardStroke.lookup id = some mark →
    (s.board.lookup mark.board).isSome = true

/-! ## What a step writes -/

inductive Wrote (s : Db) (p : Point) : Db → Prop
  | quiet : Wrote s p s
  | created {board : BoardId} {creator : UserId} {now : Timestamp}
      (hfresh : s.board.lookup board = none) :
      Wrote s p { s with
        board := s.board.insert board ⟨creator, false, none, none, 0, 0, 0, none, now⟩ }
  | drew {row : Board} {id : BoardStrokeId} {mark : BoardStroke}
      (hrow : s.board.lookup mark.board = some row) (htakes : row.takes mark.epoch = true)
      (hkind : mark.kind = .stroke) (hfresh : s.boardStroke.lookup id = none) :
      Wrote s p (s.record row.bump id mark)
  | cleared {row : Board} {id : BoardStrokeId} {mark : BoardStroke}
      (hrow : s.board.lookup mark.board = some row) (hopen : row.stateRefusal = none)
      (hdrawn : row.epochStrokeCount ≠ 0) (hkind : mark.kind = .clear)
      (hcount : mark.count = some row.epochStrokeCount) (hepoch : mark.epoch = row.epoch)
      (hfresh : s.boardStroke.lookup id = none) :
      Wrote s p (s.record row.nextEpoch id mark)
  | locked {board : BoardId} {row : Board} {locked : Bool} {author : UserId} {now : Timestamp}
      (hrow : s.board.lookup board = some row) :
      Wrote s p { s with board := s.board.insert board (row.withLock locked author now) }
  | closed {board : BoardId} {row : Board} {now : Timestamp}
      (hrow : s.board.lookup board = some row) (hopen : row.closedAt = none)
      (hp : p = .close board ∨ p = .refusedClose board) :
      Wrote s p { s with board := s.board.insert board { row with closedAt := some now } }

theorem insertable_fresh {author : UserId} (h : s.insertable id author = true) :
    s.boardStroke.lookup id = none := by
  unfold Db.insertable at h
  rw [Bool.and_eq_true, Option.isNone_iff_eq_none] at h
  exact h.1

theorem close_cases (s : Db) (board : BoardId) (now : Timestamp) :
    s.close board now = none ∨
      ∃ row, s.board.lookup board = some row ∧ row.closedAt = none ∧
        s.close board now = some ({ row with closedAt := some now },
          { s with board := s.board.insert board { row with closedAt := some now } }) := by
  unfold Db.close
  split
  · exact .inl rfl
  · next row hrow =>
    split
    · exact .inl rfl
    · next hopen => exact .inr ⟨row, hrow, by simpa using hopen, rfl⟩

theorem next_wrote {id : ℕ} {w : World} {n : Reply} (h : next id s p w = some (s', n)) :
    Wrote s p s' := by
  cases p with
  | create =>
      simp only [next, create, Option.some.injEq] at h
      split at h
      · cases h
        exact .quiet
      · next hfresh =>
        cases h
        exact .created (by simpa using (not_or.mp hfresh).1)
  | append =>
      simp only [next, append, Option.some.injEq] at h
      split at h
      · cases h
        exact .quiet
      · split at h
        · cases h
          exact .quiet
        · next row hrow =>
          rw [Option.filter_eq_some_iff] at hrow
          split at h
          · next hinsertable =>
            cases h
            exact .drew hrow.1 hrow.2 rfl (insertable_fresh hinsertable)
          · cases h
            exact .quiet
  | refusedClose board =>
      simp only [next, refusedClose, Option.some.injEq] at h
      obtain hnone | ⟨row, hrow, hopen, hclosed⟩ := close_cases s board w.now
      · rw [hnone] at h
        cases h
        exact .quiet
      · rw [hclosed] at h
        cases h
        exact .closed hrow hopen (.inr rfl)
  | clear board author =>
      simp only [next, clear, Option.some.injEq] at h
      cases htx : txWithRetry (clearTx w board author) s with
      | mk =>
          rw [htx] at h
          obtain ⟨a, rfl, hok⟩ | ⟨e, rfl, -, rfl⟩ := txWithRetry_cases htx
          · cases h
            unfold clearTx at hok
            split at hok
            · cases hok
            next row hrow =>
              split at hok
              · cases hok
              split at hok
              · cases hok
              split at hok
              · cases hok
              next hopen =>
                split at hok
                · cases hok
                next hdrawn =>
                  split at hok
                  · next hinsertable =>
                    cases hok
                    exact .cleared hrow hopen hdrawn rfl rfl rfl (insertable_fresh hinsertable)
                  · cases hok
          · cases h
            exact .quiet
  | setLocked board locked =>
      simp only [next, setLocked, Option.some.injEq] at h
      split at h
      · cases h
        exact .quiet
      · next row hrow =>
        split at h
        · cases h
          exact .quiet
        · cases h
          exact .locked hrow
  | close board =>
      simp only [next, close, Option.some.injEq] at h
      obtain hnone | ⟨row, hrow, hopen, hclosed⟩ := close_cases s board w.now
      · rw [hnone] at h
        cases h
        exact .quiet
      · rw [hclosed] at h
        cases h
        exact .closed hrow hopen (.inl rfl)
  | _ =>
      simp only [next, Option.some.injEq, Prod.mk.injEq] at h
      rw [← h.1]
      exact .quiet

/-! ## The books stay right -/

theorem rowsOf_record (hfresh : s.boardStroke.lookup id = none) (board : BoardId)
    (p : BoardStroke → Bool) :
    (s.record row id mark).rowsOf board p =
      (if mark.board = board ∧ p mark = true then 1 else 0) + s.rowsOf board p := by
  have hinsert := Table.count_insert s.boardStroke id mark
    fun _ mark => decide (mark.board = board) && p mark
  rw [hfresh] at hinsert
  simp only [Bool.and_eq_true, decide_eq_true_eq] at hinsert
  exact hinsert

theorem lookup_record {key : BoardStrokeId} {found : BoardStroke}
    (h : (s.record row id mark).boardStroke.lookup key = some found) :
    (key = id ∧ found = mark) ∨ s.boardStroke.lookup key = some found := by
  simp only [Db.record, lookup_insert_eq] at h
  split at h
  · next heq =>
    cases h
    exact .inl ⟨heq, rfl⟩
  · exact .inr h

theorem Books.of_same {board : BoardId} {row' : Board} (h : Books s board row)
    (hrows : ∀ p, s'.rowsOf board p = s.rowsOf board p)
    (hmarks : ∀ id mark, s'.boardStroke.lookup id = some mark → mark.board = board →
      s.boardStroke.lookup id = some mark) (hepoch : row'.epoch = row.epoch)
    (hlive : row'.epochStrokeCount = row.epochStrokeCount)
    (htotal : row'.totalStrokeCount = row.totalStrokeCount) : Books s' board row' where
  total := by
    rw [htotal, hrows]
    exact h.total
  lifetime := by
    rw [htotal, hlive]
    exact h.lifetime
  live := by
    rw [hlive, hepoch, hrows]
    exact h.live
  canvas := by
    rw [hlive]
    exact h.canvas
  started := by
    rw [hepoch]
    exact h.started
  ended := by
    intro epoch hstarted hended
    rw [hepoch] at hended
    rw [hrows, hrows]
    exact h.ended epoch hstarted hended
  marked := by
    intro id mark hmark hboard hkind
    rw [hrows, hepoch]
    exact h.marked id mark (hmarks id mark hmark hboard) hboard hkind
  filed := by
    intro id mark hmark hboard
    rw [hepoch]
    exact h.filed id mark (hmarks id mark hmark hboard) hboard

/-- A row filed under another board. -/
theorem Books.record_ne {board : BoardId} {row' : Board} (h : Books s board row)
    (hne : mark.board ≠ board) (hfresh : s.boardStroke.lookup id = none) :
    Books (s.record row' id mark) board row := by
  refine h.of_same (fun p => ?_) (fun key found hfound hboard => ?_) rfl rfl rfl
  · rw [rowsOf_record hfresh, if_neg (fun hsame => hne hsame.1), zero_add]
  · obtain ⟨-, rfl⟩ | hold := lookup_record hfound
    · exact absurd hboard hne
    · exact hold

theorem Books.drew (h : Books s mark.board row) (htakes : row.takes mark.epoch = true)
    (hkind : mark.kind = .stroke) (hfresh : s.boardStroke.lookup id = none) :
    Books (s.record row.bump id mark) mark.board row.bump := by
  simp only [Board.takes, Bool.and_eq_true, decide_eq_true_eq] at htakes
  obtain ⟨⟨⟨⟨hroom, -⟩, -⟩, hepoch⟩, hcanvas⟩ := htakes
  have hrows : ∀ p, (s.record row.bump id mark).rowsOf mark.board p =
      (if p mark = true then 1 else 0) + s.rowsOf mark.board p := by
    intro p
    rw [rowsOf_record hfresh]
    simp
  -- the strokes of any other epoch are as they were
  have hother : ∀ epoch, epoch ≠ row.epoch →
      (s.record row.bump id mark).rowsOf mark.board (strokeOf epoch) =
        s.rowsOf mark.board (strokeOf epoch) := by
    intro epoch hne
    rw [hrows]
    simp [strokeOf, ← hepoch, Ne.symm hne]
  constructor
  · have htotal := h.total
    rw [hrows]
    simp only [Board.bump, if_true]
    push_cast
    omega
  · simp only [Board.bump]
    exact .inl (by omega)
  · have hlive := h.live
    have hself : strokeOf row.epoch mark = true := by simp [strokeOf, hkind, hepoch]
    rw [hrows]
    simp only [Board.bump, hself, if_true]
    push_cast
    omega
  · simp only [Board.bump]
    omega
  · exact h.started
  · intro epoch hstarted hended
    have hended : epoch < row.epoch := hended
    rw [hother epoch (by omega), hrows]
    simp only [markerOf, hkind, reduceCtorEq, decide_false, Bool.false_and, Bool.false_eq_true,
      if_false, zero_add]
    exact h.ended epoch hstarted hended
  · intro key found hfound hboard hclear
    obtain ⟨-, rfl⟩ | hold := lookup_record hfound
    · rw [hkind] at hclear
      cases hclear
    · have hmarked := h.marked key found hold hboard hclear
      rw [hother found.epoch (by omega)]
      exact hmarked
  · intro key found hfound hboard
    obtain ⟨-, rfl⟩ | hold := lookup_record hfound
    · have hstarted := h.started
      simp only [Board.bump]
      omega
    · exact h.filed key found hold hboard

theorem Books.cleared (h : Books s mark.board row) (hdrawn : row.epochStrokeCount ≠ 0)
    (hkind : mark.kind = .clear) (hcount : mark.count = some row.epochStrokeCount)
    (hepoch : mark.epoch = row.epoch) (hfresh : s.boardStroke.lookup id = none) :
    Books (s.record row.nextEpoch id mark) mark.board row.nextEpoch := by
  have hrows : ∀ p, (s.record row.nextEpoch id mark).rowsOf mark.board p =
      (if p mark = true then 1 else 0) + s.rowsOf mark.board p := by
    intro p
    rw [rowsOf_record hfresh]
    simp
  have hstrokes : ∀ epoch,
      (s.record row.nextEpoch id mark).rowsOf mark.board (strokeOf epoch) =
        s.rowsOf mark.board (strokeOf epoch) := by
    intro epoch
    rw [hrows]
    simp [strokeOf, hkind]
  have hlive := h.live
  constructor
  · have htotal := h.total
    rw [hrows]
    simp only [Board.nextEpoch, if_true]
    push_cast
    omega
  · have hlifetime := h.lifetime
    have hcapped : row.totalStrokeCount ≤ maxBoardStrokes := by omega
    simp only [Board.nextEpoch, and_true]
    omega
  · -- nothing has been drawn in the epoch that begins
    rw [hstrokes]
    have hnone : s.rowsOf mark.board (strokeOf (row.epoch + 1)) = 0 := by
      unfold Db.rowsOf
      rw [Table.count_eq_zero_iff]
      intro key found hfound
      by_contra hthere
      simp only [strokeOf, Bool.not_eq_false, Bool.and_eq_true, decide_eq_true_eq] at hthere
      have hfiled := h.filed key found hfound hthere.1
      omega
    simp only [Board.nextEpoch, hnone]
    rfl
  · simp only [Board.nextEpoch]
    decide
  · have hstarted := h.started
    simp only [Board.nextEpoch]
    omega
  · intro epoch hstarted hended
    rw [hstrokes, hrows]
    simp only [Board.nextEpoch] at hended
    by_cases hlast : epoch = row.epoch
    · have hunmarked : s.rowsOf mark.board (markerOf row.epoch) = 0 := by
        unfold Db.rowsOf
        rw [Table.count_eq_zero_iff]
        intro key found hfound
        by_contra hthere
        simp only [markerOf, Bool.not_eq_false, Bool.and_eq_true, decide_eq_true_eq] at hthere
        have hmarked := (h.marked key found hfound hthere.1 hthere.2.1).2
        omega
      rw [hlast, hunmarked]
      simp only [markerOf, hkind, hepoch, decide_true, Bool.and_self, if_true, true_and]
      omega
    · have hbefore := h.ended epoch hstarted (by omega)
      have hnew : ¬ markerOf epoch mark = true := by
        simp [markerOf, hepoch, Ne.symm hlast]
      rw [if_neg hnew, zero_add]
      exact hbefore
  · intro key found hfound hboard hclear
    rw [hstrokes]
    simp only [Board.nextEpoch]
    obtain ⟨-, rfl⟩ | hold := lookup_record hfound
    · rw [hcount, hepoch, hlive]
      exact ⟨rfl, by omega⟩
    · have hmarked := h.marked key found hold hboard hclear
      exact ⟨hmarked.1, by omega⟩
  · intro key found hfound hboard
    simp only [Board.nextEpoch]
    obtain ⟨-, rfl⟩ | hold := lookup_record hfound
    · have hstarted := h.started
      omega
    · have hfiled := h.filed key found hold hboard
      omega

theorem Inv.wrote (hinv : Inv s) (h : Wrote s p s') : Inv s' := by
  have hsame : ∀ {board : BoardId} {row row' : Board}, s.board.lookup board = some row →
      row'.epoch = row.epoch → row'.epochStrokeCount = row.epochStrokeCount →
      row'.totalStrokeCount = row.totalStrokeCount →
      Inv { s with board := s.board.insert board row' } := by
    intro board row row' hrow hepoch hlive htotal
    constructor
    · intro key found hfound
      obtain ⟨heq, rfl⟩ | ⟨-, hfound⟩ := insert_cases hfound
      · rw [heq]
        exact (hinv.books board row hrow).of_same (fun _ => rfl) (fun _ _ hmark _ => hmark)
          hepoch hlive htotal
      · exact (hinv.books key found hfound).of_same (fun _ => rfl) (fun _ _ hmark _ => hmark)
          rfl rfl rfl
    · intro id mark hmark
      have howned := hinv.owned id mark hmark
      rw [lookup_insert_eq]
      split
      · rfl
      · exact howned
  have hrecord : ∀ {row row' : Board} {id : BoardStrokeId} {mark : BoardStroke},
      s.board.lookup mark.board = some row → s.boardStroke.lookup id = none →
      Books (s.record row' id mark) mark.board row' → Inv (s.record row' id mark) := by
    intro row row' id mark hrow hfresh hbooks
    constructor
    · intro key found hfound
      simp only [Db.record, lookup_insert_eq] at hfound
      split at hfound
      · next heq =>
        cases hfound
        rw [heq]
        exact hbooks
      · next hne => exact (hinv.books key found hfound).record_ne (Ne.symm hne) hfresh
    · intro key found hfound
      simp only [Db.record, lookup_insert_eq]
      split
      · rfl
      · next hne =>
        obtain ⟨-, rfl⟩ | hold := lookup_record hfound
        · exact absurd rfl hne
        · exact hinv.owned key found hold
  cases h with
  | quiet => exact hinv
  | @created board creator now hfresh =>
      have hempty : ∀ p, s.rowsOf board p = 0 := by
        intro p
        unfold Db.rowsOf
        rw [Table.count_eq_zero_iff]
        intro id mark hmark
        have howned := hinv.owned id mark hmark
        have hne : mark.board ≠ board := by
          intro heq
          rw [heq, hfresh] at howned
          cases howned
        simp [hne]
      constructor
      · intro key found hfound
        obtain ⟨heq, rfl⟩ | ⟨-, hfound⟩ := insert_cases hfound
        · rw [heq]
          have hnone : ∀ id mark, s.boardStroke.lookup id = some mark → mark.board ≠ board := by
            intro id mark hmark hboard
            have howned := hinv.owned id mark hmark
            rw [hboard, hfresh] at howned
            cases howned
          exact
            { total := by
                have := hempty fun _ => true
                exact congrArg Nat.cast this.symm
              lifetime := .inl (by decide : (0 : ℤ) ≤ maxBoardStrokes)
              live := congrArg Nat.cast (hempty _).symm
              canvas := (by decide : (0 : ℤ) ≤ maxEpochStrokes)
              started := le_refl _
              ended := fun epoch hstarted hended => by
                have hended : epoch < 0 := hended
                omega
              marked := fun id mark hmark hboard => absurd hboard (hnone id mark hmark)
              filed := fun id mark hmark hboard => absurd hboard (hnone id mark hmark) }
        · exact (hinv.books key found hfound).of_same (fun _ => rfl) (fun _ _ hmark _ => hmark)
            rfl rfl rfl
      · intro id mark hmark
        have howned := hinv.owned id mark hmark
        rw [lookup_insert_eq]
        split
        · rfl
        · exact howned
  | drew hrow htakes hkind hfresh =>
      exact hrecord hrow hfresh ((hinv.books _ _ hrow).drew htakes hkind hfresh)
  | cleared hrow hopen hdrawn hkind hcount hepoch hfresh =>
      exact hrecord hrow hfresh
        ((hinv.books _ _ hrow).cleared hdrawn hkind hcount hepoch hfresh)
  | locked hrow | closed hrow hopen hp => exact hsame hrow rfl rfl rfl

/-! ## What never goes back -/

/-- A row is only added under a board that is open. -/
theorem Wrote.added (h : Wrote s p s') (hnone : s.boardStroke.lookup id = none)
    (hmark : s'.boardStroke.lookup id = some mark) :
    ∃ row, s.board.lookup mark.board = some row ∧ row.locked = false ∧ row.closedAt = none := by
  have hold : ∀ {found : BoardStroke}, s.boardStroke.lookup id ≠ some found := by
    intro found hfound
    rw [hnone] at hfound
    cases hfound
  cases h with
  | drew hrow htakes =>
      obtain ⟨-, rfl⟩ | hthere := lookup_record hmark
      · simp only [Board.takes, Bool.and_eq_true, Bool.not_eq_true', Option.isNone_iff_eq_none]
          at htakes
        exact ⟨_, hrow, htakes.1.1.1.2, htakes.1.1.2⟩
      · exact absurd hthere hold
  | @cleared row _ _ hrow hopen hdrawn hkind hcount hepoch hfresh =>
      obtain ⟨-, rfl⟩ | hthere := lookup_record hmark
      · refine ⟨row, hrow, ?_⟩
        unfold Board.stateRefusal at hopen
        split at hopen
        · cases hopen
        · next hclosed =>
          split at hopen
          · cases hopen
          · next hlocked => exact ⟨by simpa using hlocked, by simpa using hclosed⟩
      · exact absurd hthere hold
  | _ => exact absurd hmark hold

/-- A board stays, its lifetime counter does not come down, and `closed_at` is only set by a
close. -/
theorem Wrote.kept (h : Wrote s p s') {board : BoardId} (hrow : s.board.lookup board = some row) :
    ∃ row', s'.board.lookup board = some row' ∧ row.totalStrokeCount ≤ row'.totalStrokeCount ∧
      (∀ stamp, row.closedAt = some stamp → row'.closedAt = some stamp) ∧
      (row'.closedAt = row.closedAt ∨ p = .close board ∨ p = .refusedClose board) := by
  have hwritten : ∀ {key : BoardId} {before after : Board}, s.board.lookup key = some before →
      before.totalStrokeCount ≤ after.totalStrokeCount →
      (∀ stamp, before.closedAt = some stamp → after.closedAt = some stamp) →
      (after.closedAt = before.closedAt ∨ p = .close key ∨ p = .refusedClose key) →
      ∃ row', (s.board.insert key after).lookup board = some row' ∧
        row.totalStrokeCount ≤ row'.totalStrokeCount ∧
        (∀ stamp, row.closedAt = some stamp → row'.closedAt = some stamp) ∧
        (row'.closedAt = row.closedAt ∨ p = .close board ∨ p = .refusedClose board) := by
    intro key before after hbefore htotal hstamp hpoint
    rw [lookup_insert_eq]
    split
    · next heq =>
      rw [heq] at hrow ⊢
      rw [hbefore] at hrow
      cases hrow
      exact ⟨after, rfl, htotal, hstamp, hpoint⟩
    · exact ⟨row, hrow, le_refl _, fun _ hstamp => hstamp, .inl rfl⟩
  cases h with
  | quiet => exact ⟨row, hrow, le_refl _, fun _ hstamp => hstamp, .inl rfl⟩
  | @created key creator now hfresh =>
      refine ⟨row, ?_, le_refl _, fun _ hstamp => hstamp, .inl rfl⟩
      rw [lookup_insert_eq, if_neg]
      · exact hrow
      · intro heq
        rw [heq, hfresh] at hrow
        cases hrow
  | @drew before id mark hbefore htakes hkind hfresh =>
      have hgrows : before.totalStrokeCount ≤ before.bump.totalStrokeCount := by
        simp only [Board.bump]
        omega
      exact hwritten hbefore hgrows (fun _ hstamp => hstamp) (.inl rfl)
  | @cleared before id mark hbefore hopen hdrawn hkind hcount hepoch hfresh =>
      have hgrows : before.totalStrokeCount ≤ before.nextEpoch.totalStrokeCount := by
        simp only [Board.nextEpoch]
        omega
      exact hwritten hbefore hgrows (fun _ hstamp => hstamp) (.inl rfl)
  | locked hbefore => exact hwritten hbefore (le_refl _) (fun _ hstamp => hstamp) (.inl rfl)
  | closed hbefore hopen hp =>
      refine hwritten hbefore (le_refl _) (fun stamp hstamp => ?_) (.inr hp)
      rw [hopen] at hstamp
      cases hstamp

/-- A call about to close a board on behalf of a refused mark has seen the lifetime counter
spent. -/
def Point.Knows (s : Db) : Point → Prop
  | .refusedClose board => ∃ row, s.board.lookup board = some row ∧
      maxBoardStrokes ≤ row.totalStrokeCount
  | _ => True

theorem Wrote.knows {q : Point} (h : Wrote s p s') (hq : q.Knows s) :
    q.Knows s' := by
  cases q with
  | refusedClose board =>
      obtain ⟨row, hrow, hspent⟩ := hq
      obtain ⟨row', hrow', hgrows, -⟩ := h.kept hrow
      exact ⟨row', hrow', by omega⟩
  | _ => trivial

theorem next_knows {id : ℕ} {q : Point} {w : World} (h : next id s p w = some (s', .goto q)) :
    q.Knows s' := by
  cases p with
  | refusedCounts =>
      simp only [next, refusedCounts, Option.some.injEq, Prod.mk.injEq] at h
      obtain ⟨rfl, h⟩ := h
      split at h
      · cases h
      next row hrow =>
        split at h
        · cases h
        · split at h
          · cases h
          · next hspent =>
            cases h
            exact ⟨row, hrow, not_lt.mp hspent⟩
  | append =>
      simp only [next, append, Option.some.injEq] at h
      split at h
      · cases h
      · split at h
        · cases h
          trivial
        · split at h <;> cases h
  | create =>
      simp only [next, create, Option.some.injEq] at h
      split at h <;> cases h
  | refusedRead =>
      simp only [next, refusedRead, Option.some.injEq, Prod.mk.injEq] at h
      obtain ⟨rfl, h⟩ := h
      split at h
      · cases h
      · split at h
        · cases h
        · cases h
          trivial
  | refusedClose =>
      simp only [next, refusedClose, Option.some.injEq] at h
      split at h
      · cases h
      · cases h
        trivial
  | refusedReread | closeReread =>
      simp only [next, reread, Option.some.injEq, Prod.mk.injEq] at h
      obtain ⟨rfl, h⟩ := h
      split at h <;> cases h
  | clear =>
      simp only [next, clear, Option.some.injEq] at h
      split at h <;> cases h
  | setLocked =>
      simp only [next, setLocked, Option.some.injEq] at h
      split at h
      · cases h
      · split at h <;> cases h
  | close =>
      simp only [next, close, Option.some.injEq] at h
      split at h
      · cases h
      · cases h
        trivial

theorem log_relyGuarantee :
    machine.RelyGuarantee (fun _ _ => True) Inv (fun _ p s => p.Knows s) where
  entry := by
    intro id request s _
    cases request <;> trivial
  own := by
    intro c id w p s n hc _ hp hnext
    have hmove : next id c.shared p w = some (s, n) := hnext
    refine ⟨hc.shared.wrote (next_wrote hmove), fun q hq => ?_⟩
    rw [hq] at hmove
    exact next_knows hmove
  others := by
    intro c id w p s n hc _ hp hnext id' q _ hq
    have hmove : next id c.shared p w = some (s, n) := hnext
    exact (next_wrote hmove).knows (hc.calls id' q hq)
  rollback := fun hc _ => ⟨hc.shared, fun id' q _ hq => hc.calls id' q hq⟩

theorem start_inv (users : List UserId) :
    (start users).Holds Inv (fun _ p s => p.Knows s) := by
  refine Config.initial_holds _ ⟨?_, ?_⟩
  · intro board row hrow
    cases hrow
  · intro id mark hmark
    cases hmark

/-- On every run the counters and the markers of every board agree with its rows; a step adds
rows under open boards only, keeps every `closed_at`, and when it belongs to a mark it sets one
only if the lifetime counter is spent. -/
theorem boards_keep_their_books {users : List UserId} {moves : List (Move Request World)}
    {c : Config Db Point} (hrun : machine.run (start users) moves = some c) :
    (∀ board row, c.shared.board.lookup board = some row →
      Books c.shared board row ∧ row.totalStrokeCount ≤ maxBoardStrokes + 1) ∧
    ∀ m d, machine.step c m = some d →
      (∀ id mark, c.shared.boardStroke.lookup id = none →
        d.shared.boardStroke.lookup id = some mark →
        ∃ row, c.shared.board.lookup mark.board = some row ∧
          row.locked = false ∧ row.closedAt = none) ∧
      (∀ board row stamp, c.shared.board.lookup board = some row → row.closedAt = some stamp →
        ∃ row', d.shared.board.lookup board = some row' ∧ row'.closedAt = some stamp) ∧
      ∀ id w p board row row', m = .advance id w → c.calls.lookup id = some p →
        p.ofAppend = true → c.shared.board.lookup board = some row →
        d.shared.board.lookup board = some row' → row.closedAt = none → row'.closedAt ≠ none →
        maxBoardStrokes ≤ row.totalStrokeCount := by
  have hholds := log_relyGuarantee.holds_run (start_inv users) (Machine.guarded_true _ moves) hrun
  constructor
  · intro board row hrow
    have hbooks := hholds.shared.books board row hrow
    have hlifetime := hbooks.lifetime
    exact ⟨hbooks, by omega⟩
  intro m d hstep
  obtain ⟨request, rfl, rfl⟩ | ⟨id, w, p, s, n, rfl, hp, hnext, rfl⟩ | ⟨id, p, rfl, hp, rfl⟩ :=
    Machine.step_cases hstep
  · refine ⟨fun id mark hnone hmark => ?_, fun board row stamp hrow hstamp => ⟨row, hrow, hstamp⟩,
      fun id w p board row row' hm => by cases hm⟩
    rw [hnone] at hmark
    cases hmark
  · have hmove : next id c.shared p w = some (s, n) := hnext
    have hwrote := next_wrote hmove
    rw [Config.shared_after]
    refine ⟨fun id mark => hwrote.added, fun board row stamp hrow hstamp => ?_, ?_⟩
    · obtain ⟨row', hrow', -, hkept, -⟩ := hwrote.kept hrow
      exact ⟨row', hrow', hkept stamp hstamp⟩
    · intro id' w' p' board row row' hm hp' happend hrow hrow' hopen hclosed
      cases hm
      rw [hp] at hp'
      cases hp'
      obtain ⟨found, hfound, -, -, hpoint⟩ := hwrote.kept hrow
      rw [hrow'] at hfound
      cases hfound
      obtain hsame | rfl | rfl := hpoint
      · rw [hsame] at hclosed
        exact absurd hopen hclosed
      · cases happend
      · obtain ⟨spent, hspent, hle⟩ := hholds.calls _ _ hp
        rw [hrow] at hspent
        cases hspent
        exact hle
  · refine ⟨fun id mark hnone hmark => ?_, fun board row stamp hrow hstamp => ⟨row, hrow, hstamp⟩,
      fun id w p board row row' hm => by cases hm⟩
    have hmark : c.shared.boardStroke.lookup _ = some mark := hmark
    rw [hnone] at hmark
    cases hmark

namespace Sample

def ali : UserId := ⟨.ending "0001"⟩

def boardUuid : Uuid := .ending "000a"

def firstUuid : Uuid := .ending "000b"

def secondUuid : Uuid := .ending "000c"

def board : BoardId := ⟨boardUuid⟩

end Sample

open Sample in
def staleMark : List (Move Request World) :=
  [.start (.create ali), .advance 0 ⟨0, boardUuid⟩,
    .start (.append board ali "m" 0), .start (.append board ali "m" 0),
    .start (.clear board ali), .advance 1 ⟨1, firstUuid⟩, .advance 3 ⟨2, secondUuid⟩,
    .advance 2 ⟨3, boardUuid⟩]

theorem boards_keep_their_books_staleMark :
    ∃ c, machine.run (start [Sample.ali]) staleMark = some c ∧
      ∃ row, c.shared.board.lookup Sample.board = some row ∧ row.totalStrokeCount = 2 ∧
        row.epoch = 1 ∧ Books c.shared Sample.board row := by
  have hends : (machine.run (start [Sample.ali]) staleMark).any (fun c =>
      (c.shared.board.lookup Sample.board).any fun row =>
        decide (row.totalStrokeCount = 2 ∧ row.epoch = 1)) = true := by
    decide
  obtain ⟨c, hrun, hboard⟩ := (Option.any_eq_true _ _).mp hends
  obtain ⟨row, hrow, hcounts⟩ := (Option.any_eq_true _ _).mp hboard
  obtain ⟨htotal, hepoch⟩ := of_decide_eq_true hcounts
  exact ⟨c, hrun, row, hrow, htotal, hepoch,
    ((boards_keep_their_books hrun).1 Sample.board row hrow).1⟩

/-! ## A closed board -/

structure Db.Grows (s d : Db) : Prop where
  marks : ∀ id mark, s.boardStroke.lookup id = some mark → d.boardStroke.lookup id = some mark
  boards : ∀ board row, s.board.lookup board = some row →
    ∃ row', d.board.lookup board = some row' ∧ row.totalStrokeCount ≤ row'.totalStrokeCount ∧
      ∀ stamp, row.closedAt = some stamp → row'.closedAt = some stamp
  frozen : ∀ board row stamp, s.board.lookup board = some row → row.closedAt = some stamp →
    ∀ id mark, mark.board = board → d.boardStroke.lookup id = some mark →
      s.boardStroke.lookup id = some mark

theorem Db.Grows.refl (s : Db) : s.Grows s :=
  ⟨fun _ _ hmark => hmark, fun _ row hrow => ⟨row, hrow, le_refl _, fun _ hstamp => hstamp⟩,
    fun _ _ _ _ _ _ _ _ hmark => hmark⟩

theorem Db.Grows.trans {d e : Db} (h : s.Grows d) (h' : d.Grows e) : s.Grows e where
  marks := fun id mark hmark => h'.marks id mark (h.marks id mark hmark)
  boards := by
    intro board row hrow
    obtain ⟨row', hrow', htotal, hkept⟩ := h.boards board row hrow
    obtain ⟨row'', hrow'', htotal', hkept'⟩ := h'.boards board row' hrow'
    exact ⟨row'', hrow'', htotal.trans htotal',
      fun stamp hstamp => hkept' stamp (hkept stamp hstamp)⟩
  frozen := by
    intro board row stamp hrow hstamp id mark hboard hmark
    obtain ⟨row', hrow', -, hkept⟩ := h.boards board row hrow
    exact h.frozen board row stamp hrow hstamp id mark hboard
      (h'.frozen board row' stamp hrow' (hkept stamp hstamp) id mark hboard hmark)

theorem Wrote.grows (h : Wrote s p s') : s.Grows s' := by
  have hmarks : ∀ id mark, s.boardStroke.lookup id = some mark →
      s'.boardStroke.lookup id = some mark := by
    have hrecord : ∀ {row : Board} {key : BoardStrokeId} {fresh : BoardStroke},
        s.boardStroke.lookup key = none → ∀ id mark, s.boardStroke.lookup id = some mark →
          (s.record row key fresh).boardStroke.lookup id = some mark := by
      intro row key fresh hfresh id mark hmark
      rw [Db.record, lookup_insert_eq, if_neg]
      · exact hmark
      · rintro rfl
        rw [hfresh] at hmark
        cases hmark
    cases h with
    | drew hrow htakes hkind hfresh | cleared hrow hopen hdrawn hkind hcount hepoch hfresh =>
        exact hrecord hfresh
    | _ => exact fun id mark hmark => hmark
  refine ⟨hmarks, fun board row hrow => ?_, ?_⟩
  · obtain ⟨row', hrow', htotal, hkept, -⟩ := h.kept hrow
    exact ⟨row', hrow', htotal, hkept⟩
  · intro board row stamp hrow hstamp id mark hboard hmark
    cases hold : s.boardStroke.lookup id with
    | none =>
        obtain ⟨found, hfound, -, hopen⟩ := h.added hold hmark
        rw [hboard, hrow] at hfound
        cases hfound
        rw [hopen] at hstamp
        cases hstamp
    | some old => exact (hmarks id old hold).symm.trans hmark

/-- Until a board is deleted its marks stay as they were drawn, and once it is closed it keeps the
marks it was closed with. -/
theorem closed_board_frozen {c d : Config Db Point} {moves : List (Move Request World)}
    (hrun : machine.run c moves = some d) : c.shared.Grows d.shared := by
  refine Machine.run_induction (J := fun d => c.shared.Grows d.shared) ?_ (.refl _)
    (Machine.guarded_true _ _) hrun
  intro d e m hd _ hstep
  obtain ⟨request, rfl, rfl⟩ | ⟨id, w, p, s, n, rfl, hp, hnext, rfl⟩ | ⟨id, p, rfl, hp, rfl⟩ :=
    Machine.step_cases hstep
  · exact hd
  · have hmove : next id d.shared p w = some (s, n) := hnext
    rw [Config.shared_after]
    exact hd.trans (next_wrote hmove).grows
  · exact hd

open Sample in
def closedThenDrawn : List (Move Request World) :=
  [.start (.close board), .advance 4 ⟨4, boardUuid⟩, .start (.append board ali "m" 1),
    .start (.clear board ali), .advance 5 ⟨5, firstUuid⟩, .advance 6 ⟨6, firstUuid⟩]

theorem closed_board_frozen_staleMark :
    ∃ c d, machine.run (start [Sample.ali]) (staleMark ++ closedThenDrawn.take 2) = some c ∧
      machine.run c (closedThenDrawn.drop 2) = some d ∧
      (∃ row, c.shared.board.lookup Sample.board = some row ∧ row.closedAt = some 4) ∧
      c.shared.Grows d.shared := by
  have hends : ((machine.run (start [Sample.ali]) (staleMark ++ closedThenDrawn.take 2)).any
      fun c => (c.shared.board.lookup Sample.board).any (fun row =>
        decide (row.closedAt = some 4)) &&
          (machine.run c (closedThenDrawn.drop 2)).isSome) = true := by
    decide
  obtain ⟨c, hc, hends⟩ := (Option.any_eq_true _ _).mp hends
  rw [Bool.and_eq_true] at hends
  obtain ⟨row, hrow, hclosed⟩ := (Option.any_eq_true _ _).mp hends.1
  obtain ⟨d, hd⟩ := Option.isSome_iff_exists.mp hends.2
  exact ⟨c, d, hc, hd, ⟨row, hrow, of_decide_eq_true hclosed⟩, closed_board_frozen hd⟩

end Hezarfen.Boards
