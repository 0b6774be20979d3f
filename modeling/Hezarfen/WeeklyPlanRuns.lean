import Hezarfen.Transactions
import Hezarfen.WeeklyPlans

/-!
# The week of an owner never overlaps

An open insert belongs to a transaction that holds the row of its owner, so there is one at
a time for each owner, and the room it was judged by can only grow until it ends.
-/

namespace Hezarfen.WeeklyPlans

open Interleaving ReadCommitted
open Overrides (WeeklySlot checkAdd maxWeeklySlots)

variable {tx tx' : ℕ} {s s' : Db} {owner : Owner}

variable {v : Owner × WeeklySlot} {owner' : Rows Owner OwnerRow}
  {slot' : Rows SlotKey (Owner × WeeklySlot)} {id : Years.WeeklySlotId} {slot : WeeklySlot}
  {n : Reply} {w : World}

/-- The transaction is about to insert `v` under `k`. -/
def Db.Inserts (s : Db) (tx : ℕ) (k : SlotKey) (v : Owner × WeeklySlot) : Prop :=
  (s.slot.row k).writer = some (tx, some v)

structure Db.Sound (s : Db) : Prop where
  planned : s.Planned
  vacant : ∀ tx k v, s.Inserts tx k v → (s.slot.row k).committed = none
  locked : ∀ tx k v, s.Inserts tx k v → (s.owner.row v.1).Held tx
  room : ∀ tx k v, s.Inserts tx k v → s.Room v
  single : ∀ tx k k' v v', s.Inserts tx k v → s.Inserts tx k' v' → k = k'

/-- What a step of `tx` does to the others: their rows stay, and the week of an owner that
`tx` does not hold loses slots at most. -/
structure Db.Apart (tx : ℕ) (s s' : Db) : Prop where
  owner : Rows.Apart tx s.owner s'.owner
  slot : Rows.Apart tx s.slot s'.slot
  kept : ∀ k u, ¬ (s.owner.row u.1).Held tx → (s'.slot.row k).committed = some u →
    (s.slot.row k).committed = some u
  counted : ∀ owner, ¬ (s.owner.row owner).Held tx →
    Rows.count (owned owner) s'.slot ≤ Rows.count (owned owner) s.slot

/-- Room lasts as long as the lock of the owner. -/
theorem Db.Apart.room (h : Db.Apart tx s s') (hheld : ¬ (s.owner.row v.1).Held tx)
    (hroom : s.Room v) : s'.Room v where
  apart k u hu howner := hroom.apart k u (h.kept k u (howner ▸ hheld) hu) howner
  below := lt_of_le_of_lt (h.counted v.1 hheld) hroom.below

theorem Db.Apart.inserts {k : SlotKey} (h : Db.Apart tx s s') (hne : tx' ≠ tx)
    (hinserts : s'.Inserts tx' k v) :
    s.Inserts tx' k v ∧ s'.slot.row k = s.slot.row k := by
  have hheld : (s.slot.row k).Held tx' := by
    by_contra hnot
    exact h.slot.unheld tx' hne k hnot ⟨_, hinserts⟩
  have hsame := h.slot.held tx' hne k hheld
  unfold Db.Inserts at hinserts ⊢
  rw [hsame] at hinserts
  exact ⟨hinserts, hsame⟩

theorem Db.Sound.of_apart (h : s.Sound) (hapart : Db.Apart tx s s') (hplanned : s'.Planned)
    (hown : ∀ k v, s'.Inserts tx k v → (s'.slot.row k).committed = none ∧
      (s'.owner.row v.1).Held tx ∧ s'.Room v)
    (hsingle : ∀ k k' v v', s'.Inserts tx k v → s'.Inserts tx k' v' → k = k') : s'.Sound := by
  refine ⟨hplanned, ?_, ?_, ?_, ?_⟩
  · intro tx' k v hinserts
    by_cases htx : tx' = tx
    · exact (hown k v (htx ▸ hinserts)).1
    · obtain ⟨hold, hsame⟩ := hapart.inserts htx hinserts
      rw [hsame]
      exact h.vacant tx' k v hold
  · intro tx' k v hinserts
    by_cases htx : tx' = tx
    · exact htx ▸ (hown k v (htx ▸ hinserts)).2.1
    · have hheld := h.locked tx' k v (hapart.inserts htx hinserts).1
      rw [hapart.owner.held tx' htx _ hheld]
      exact hheld
  · intro tx' k v hinserts
    by_cases htx : tx' = tx
    · exact (hown k v (htx ▸ hinserts)).2.2
    · obtain ⟨hold, -⟩ := hapart.inserts htx hinserts
      have hheld := h.locked tx' k v hold
      exact hapart.room (fun hmine => htx (hheld.unique hmine)) (h.room tx' k v hold)
  · intro tx' k k' v v' hinserts hinserts'
    by_cases htx : tx' = tx
    · exact hsingle k k' v v' (htx ▸ hinserts) (htx ▸ hinserts')
    · exact h.single tx' k k' v v' (hapart.inserts htx hinserts).1 (hapart.inserts htx hinserts').1

/-- A statement that writes no slot that was not there, as everything but an insert and a
commit. -/
theorem Db.Apart.of_slot (howner : Rows.Apart tx s.owner owner')
    (hslot : Rows.Apart tx s.slot slot')
    (hcommitted : ∀ k, (slot'.row k).committed = (s.slot.row k).committed)
    (hcount : ∀ owner, Rows.count (owned owner) slot' = Rows.count (owned owner) s.slot) :
    Db.Apart tx s ⟨owner', slot'⟩ where
  owner := howner
  slot := hslot
  kept k _ _ hu := (hcommitted k).symm.trans hu
  counted owner _ := (hcount owner).le

theorem Db.Planned.of_slot (h : s.Planned)
    (hcommitted : ∀ k, (slot'.row k).committed = (s.slot.row k).committed)
    (hcount : ∀ owner, Rows.count (owned owner) slot' = Rows.count (owned owner) s.slot) :
    Db.Planned ⟨owner', slot'⟩ where
  apart k k' u u' hne hu hu' :=
    h.apart k k' u u' hne ((hcommitted k).symm.trans hu) ((hcommitted k').symm.trans hu')
  capped owner := (hcount owner).trans_le (h.capped owner)

theorem Db.Room.of_slot (h : s.Room v)
    (hcommitted : ∀ k, (slot'.row k).committed = (s.slot.row k).committed)
    (hcount : ∀ owner, Rows.count (owned owner) slot' = Rows.count (owned owner) s.slot) :
    Db.Room ⟨owner', slot'⟩ v where
  apart k u hu := h.apart k u ((hcommitted k).symm.trans hu)
  below := (hcount v.1).trans_lt h.below

/-- A lock or a flip of an owner's row. -/
theorem Db.Sound.alter_owner {f : OwnerRow → Option OwnerRow} {old : Option OwnerRow}
    {rows : Rows Owner OwnerRow} (h : s.Sound)
    (halter : Rows.alter tx s.owner owner f = some (old, rows)) :
    Db.Sound { s with owner := rows } ∧ Db.Apart tx s { s with owner := rows } ∧
      (old.isSome → (rows.row owner).Held tx) ∧
      ∀ owner, (s.owner.row owner).Held tx → (rows.row owner).Held tx := by
  have hapart : Db.Apart tx s { s with owner := rows } :=
    .of_slot (.alter halter) (.refl tx _) (fun _ => rfl) (fun _ => rfl)
  have hheld : ∀ owner, (s.owner.row owner).Held tx → (rows.row owner).Held tx := by
    intro owner' hheld
    obtain ⟨-, ⟨-, rfl⟩ | ⟨v, -, -, rfl⟩⟩ := Rows.alter_cases halter
    · exact hheld
    · exact Rows.held_write_of_held hheld owner _
  refine ⟨h.of_apart hapart (h.planned.of_slot (fun _ => rfl) fun _ => rfl) ?_ (h.single tx),
    hapart, ?_, hheld⟩
  · intro k v hinserts
    exact ⟨h.vacant tx k v hinserts, hheld _ (h.locked tx k v hinserts),
      (h.room tx k v hinserts).of_slot (fun _ => rfl) fun _ => rfl⟩
  · intro hold
    obtain ⟨-, ⟨rfl, -⟩ | ⟨v, -, -, rfl⟩⟩ := Rows.alter_cases halter
    · cases hold
    · exact Rows.held_write tx _ owner _

/-- The transaction has no open insert. -/
def Db.NoInsert (s : Db) (tx : ℕ) : Prop := ∀ k v, ¬ s.Inserts tx k v

theorem Db.Sound.delete_slot {key : SlotKey} {q : Owner × WeeklySlot → Bool}
    {old : Option (Owner × WeeklySlot)} {rows : Rows SlotKey (Owner × WeeklySlot)}
    (h : s.Sound) (hnone : s.NoInsert tx)
    (halter : Rows.alterWhere tx s.slot key q (fun _ => none) = some (old, rows)) :
    Db.Sound { s with slot := rows } ∧ Db.Apart tx s { s with slot := rows } ∧
      Db.NoInsert { s with slot := rows } tx := by
  have hcommitted : ∀ k, (rows.row k).committed = (s.slot.row k).committed :=
    Rows.committed_alter halter
  have hcount : ∀ owner, Rows.count (owned owner) rows = Rows.count (owned owner) s.slot :=
    fun owner => Rows.count_alter halter (owned owner)
  have hapart : Db.Apart tx s { s with slot := rows } :=
    .of_slot (.refl tx _) (.alter halter) hcommitted hcount
  have hnone' : Db.NoInsert { s with slot := rows } tx := by
    intro k v hinserts
    obtain ⟨-, rfl, -⟩ | ⟨u, -, -, -, -, rfl⟩ := Rows.alterWhere_cases halter
    · exact hnone k v hinserts
    · unfold Db.Inserts at hinserts
      rw [Rows.row_write] at hinserts
      split at hinserts
      · cases hinserts
      · exact hnone k v hinserts
  exact ⟨h.of_apart hapart (h.planned.of_slot hcommitted hcount)
    (fun k v hinserts => absurd hinserts (hnone' k v))
    (fun k _ v _ hinserts => absurd hinserts (hnone' k v)), hapart, hnone'⟩

theorem Db.Sound.insert_slot {key : SlotKey} (h : s.Sound) (hnone : s.NoInsert tx)
    (hvacant : s.slot.row key = .vacant) (hheld : (s.owner.row v.1).Held tx) (hroom : s.Room v) :
    Db.Sound { s with slot := s.slot.write tx key (some v) } ∧
      Db.Apart tx s { s with slot := s.slot.write tx key (some v) } := by
  have hcommitted := Rows.committed_write tx s.slot key
  have hcount : ∀ owner, Rows.count (owned owner) (s.slot.write tx key (some v)) =
      Rows.count (owned owner) s.slot := fun _ => Rows.count_write
  have hapart : Db.Apart tx s { s with slot := s.slot.write tx key (some v) } :=
    .of_slot (.refl tx _) (.write _ (by rw [hvacant]; rfl)) (fun k => hcommitted k _) hcount
  have hown : ∀ k u, Db.Inserts { s with slot := s.slot.write tx key (some v) } tx k u →
      k = key ∧ u = v := by
    intro k u hinserts
    unfold Db.Inserts at hinserts
    rw [Rows.row_write] at hinserts
    split at hinserts
    · next hkey =>
      simp only [Option.some.injEq, Prod.mk.injEq, true_and] at hinserts
      exact ⟨hkey, hinserts.symm⟩
    · exact absurd hinserts (hnone k u)
  refine ⟨h.of_apart hapart (h.planned.of_slot (fun k => hcommitted k _) hcount) ?_ ?_, hapart⟩
  · intro k u hinserts
    obtain ⟨rfl, rfl⟩ := hown k u hinserts
    refine ⟨?_, hheld, hroom.of_slot (fun k => hcommitted k _) hcount⟩
    rw [hcommitted, hvacant]
    rfl
  · intro k k' u u' hinserts hinserts'
    rw [(hown k u hinserts).1, (hown k' u' hinserts').1]

theorem committed_commit_cases {k : SlotKey} {u : Owner × WeeklySlot}
    (h : ((s.commit tx).slot.row k).committed = some u) :
    (s.slot.row k).committed = some u ∨ s.Inserts tx k u := by
  change ((s.slot.commit tx).row k).committed = some u at h
  rw [Rows.row_commit, Row.committed_commit] at h
  unfold Row.seen at h
  split at h
  · exact .inl h
  · next holder own hwriter =>
    split at h
    · next hholder => exact .inr (by rw [Db.Inserts, hwriter, hholder, h])
    · exact .inl h

theorem not_brings_owned (hheld : ¬ (s.owner.row owner).Held tx) (h : s.Sound) (k : SlotKey) :
    ¬ Rows.Brings (owned owner) tx k (s.slot.row k) := by
  rintro ⟨-, v, hwriter, howned⟩
  have howner : v.1 = owner := of_decide_eq_true howned
  exact hheld (howner ▸ h.locked tx k v hwriter)

theorem Db.Sound.planned_commit (h : s.Sound) : (s.commit tx).Planned where
  apart k k' u u' hne hu hu' howner := by
    rcases committed_commit_cases hu with hold | hnew
    · rcases committed_commit_cases hu' with hold' | hnew'
      · exact h.planned.apart k k' u u' hne hold hold' howner
      · exact (h.room tx k' u' hnew').apart k u hold howner
    · rcases committed_commit_cases hu' with hold' | hnew'
      · rw [overlaps_comm]
        exact (h.room tx k u hnew).apart k' u' hold' howner.symm
      · exact absurd (h.single tx k k' u u' hnew hnew') hne
  capped owner := by
    by_cases hadds : ∃ k v, s.Inserts tx k v ∧ v.1 = owner
    · obtain ⟨key, v, hinserts, rfl⟩ := hadds
      refine le_trans (Rows.count_commit_le_succ key ?_) (h.room tx key v hinserts).below
      rintro k hne ⟨-, u, hwriter, -⟩
      exact hne (h.single tx k key u v hwriter hinserts)
    · refine le_trans (Rows.count_commit_le ?_) (h.planned.capped owner)
      rintro k ⟨-, v, hwriter, howned⟩
      exact hadds ⟨k, v, hwriter, of_decide_eq_true howned⟩

def Db.Idle (s : Db) (tx : ℕ) : Prop := Rows.Idle tx s.owner ∧ Rows.Idle tx s.slot

theorem Db.Idle.noInsert (h : s.Idle tx) : s.NoInsert tx := fun k _ hinserts => h.2 k ⟨_, hinserts⟩

theorem Db.Sound.commit (h : s.Sound) (tx : ℕ) :
    (s.commit tx).Sound ∧ Db.Apart tx s (s.commit tx) ∧ (s.commit tx).Idle tx := by
  have hidle : (s.commit tx).Idle tx := ⟨Rows.idle_commit tx _, Rows.idle_commit tx _⟩
  have hapart : Db.Apart tx s (s.commit tx) :=
    { owner := .commit tx _
      slot := .commit tx _
      kept := by
        intro k u hheld hu
        exact (committed_commit_cases hu).resolve_right fun hnew => hheld (h.locked tx k u hnew)
      counted := fun owner hheld => Rows.count_commit_le (not_brings_owned hheld h) }
  exact ⟨h.of_apart hapart h.planned_commit (fun k v hinserts =>
    absurd hinserts (hidle.noInsert k v))
    (fun k _ v _ hinserts => absurd hinserts (hidle.noInsert k v)), hapart, hidle⟩

theorem Db.Sound.rollback (h : s.Sound) (tx : ℕ) :
    (s.rollback tx).Sound ∧ Db.Apart tx s (s.rollback tx) ∧ (s.rollback tx).Idle tx := by
  have hidle : (s.rollback tx).Idle tx := ⟨Rows.idle_rollback tx _, Rows.idle_rollback tx _⟩
  have hcommitted := fun k => Rows.committed_rollback tx s.slot k
  have hcount := fun owner => Rows.count_rollback (owned owner) tx s.slot
  have hapart : Db.Apart tx s (s.rollback tx) :=
    .of_slot (.rollback tx _) (.rollback tx _) hcommitted hcount
  exact ⟨h.of_apart hapart (h.planned.of_slot hcommitted hcount)
    (fun k v hinserts => absurd hinserts (hidle.noInsert k v))
    (fun k _ v _ hinserts => absurd hinserts (hidle.noInsert k v)), hapart, hidle⟩

/-! ## Program points -/

def Holds (tx : ℕ) (p : Point) (s : Db) : Prop :=
  match p with
  | .new .. | .lock .. | .delete .. | .find _ => Rows.Idle tx s.slot
  | .list owner _ _ => Rows.Idle tx s.slot ∧ (s.owner.row owner).Held tx
  | .insert owner _ slot =>
      Rows.Idle tx s.slot ∧ (s.owner.row owner).Held tx ∧ s.Room (owner, slot)
  | .sweep .. | .flip .. => s.NoInsert tx
  | .commit _ => True

/-- A statement of a call: the store stays sound, the others notice no more than a
transaction may show them, and the call knows what its next point needs. -/
def Steps (tx : ℕ) (s s' : Db) (n : Reply) : Prop :=
  s'.Sound ∧ Db.Apart tx s s' ∧ (∀ q, n = .goto q → Holds tx q s') ∧
    ∀ a, n = .answer a → s'.Idle tx

theorem Db.Sound.refuse (h : s.Sound) (tx : ℕ) (refusal : School.Refusal) :
    Steps tx s (refuse tx s refusal).1 (refuse tx s refusal).2 :=
  ⟨(h.rollback tx).1, (h.rollback tx).2.1, fun _ hgoto => (by cases hgoto),
    fun _ _ => (h.rollback tx).2.2⟩

theorem Db.Apart.refl (tx : ℕ) (s : Db) : Db.Apart tx s s :=
  .of_slot (.refl tx _) (.refl tx _) (fun _ => rfl) fun _ => rfl

/-- A point that goes on without touching the store. -/
theorem Db.Sound.goto (h : s.Sound) {q : Point} (hq : Holds tx q s) :
    Steps tx s s (.goto q : Reply) :=
  ⟨h, .refl tx s, fun _ hgoto => by cases hgoto; exact hq, fun _ hanswer => by cases hanswer⟩

theorem step_lock (h : s.Sound) (hidle : Rows.Idle tx s.slot)
    (hnext : next tx s (.lock owner id slot) w = some (s', n)) : Steps tx s s' n := by
  obtain ⟨rows, -, hout⟩ | ⟨v, rows, hlock, hout⟩ := Rows.onRow_cases hnext
  · cases hout
    exact h.refuse tx _
  · cases hout
    obtain ⟨hsound, hapart, hheld, -⟩ := h.alter_owner hlock
    refine ⟨hsound, hapart, ?_, fun _ hanswer => by cases hanswer⟩
    rintro q ⟨⟩
    exact ⟨hidle, hheld rfl⟩

/-- The check of an add finds room in the committed week. -/
theorem room_of_checkAdd {u : Unit} (hidle : Rows.Idle tx s.slot)
    (h : checkAdd (s.listOn tx owner) slot = .ok u) : s.Room (owner, slot) := by
  unfold checkAdd at h
  split at h
  · cases h
  · next hfree =>
    split at h
    · cases h
    · next hlength =>
      constructor
      · intro k row hrow howner
        by_contra hoverlap
        apply hfree
        rw [List.any_eq_true]
        refine ⟨row.2, List.mem_map.mpr ⟨(k, row), ?_, rfl⟩, by simpa using hoverlap⟩
        rw [Rows.mem_visible, Row.seen_eq_committed (hidle k)]
        exact ⟨hrow, by simpa [owned] using howner⟩
      · rw [Db.listOn, List.length_map, Rows.length_visible_of_idle hidle] at hlength
        exact not_le.mp hlength

theorem step_list (h : s.Sound) (hp : Holds tx (.list owner id slot) s)
    (hnext : next tx s (.list owner id slot) w = some (s', n)) : Steps tx s s' n := by
  obtain ⟨hidle, hheld⟩ := hp
  simp only [next] at hnext
  split at hnext
  · cases hnext
    exact h.refuse tx _
  · next hcheck =>
    cases hnext
    exact h.goto ⟨hidle, hheld, room_of_checkAdd hidle hcheck⟩

theorem step_insert (h : s.Sound) (hp : Holds tx (.insert owner id slot) s)
    (hnext : next tx s (.insert owner id slot) w = some (s', n)) : Steps tx s s' n := by
  obtain ⟨hidle, hheld, hroom⟩ := hp
  simp only [next, insertTx] at hnext
  split at hnext
  · cases hnext
  split at hnext
  · cases hnext
    exact h.refuse tx _
  split at hnext
  · cases hnext
  next hunheld =>
  split at hnext
  · cases hnext
    exact h.refuse tx _
  next habsent =>
  obtain ⟨rows, -, hout⟩ | ⟨v, rows, halter, hout⟩ := Rows.onRow_cases hnext
  · cases hout
    exact h.refuse tx _
  · cases hout
    obtain ⟨hsound, hapart, -, hkept⟩ := h.alter_owner halter
    have hvacant : s.slot.row ⟨owner.side, id⟩ = .vacant := by
      cases hrow : s.slot.row ⟨owner.side, id⟩ with
      | mk =>
          rw [hrow] at hunheld habsent
          simp only [Option.isSome_iff_ne_none, ne_eq, not_not] at hunheld habsent
          rw [hunheld, habsent]
          rfl
    have hinsert := hsound.insert_slot (fun k v hinserts => hidle k ⟨_, hinserts⟩) hvacant
      (hkept (owner, slot).1 hheld) (hroom.of_slot (fun _ => rfl) fun _ => rfl)
    refine ⟨hinsert.1, ?_, ?_, fun _ hanswer => by cases hanswer⟩
    · exact .of_slot hapart.owner hinsert.2.slot (fun k => Rows.committed_write tx _ _ k _)
        fun _ => Rows.count_write
    · rintro q ⟨⟩
      trivial

theorem step_delete {slot : Years.WeeklySlotId} (h : s.Sound) (hidle : Rows.Idle tx s.slot)
    (hnext : next tx s (.delete owner slot) w = some (s', n)) :
    Steps tx s s' n := by
  obtain ⟨rows, -, hout⟩ | ⟨v, rows, halter, hout⟩ := Rows.onRow_cases hnext
  · cases hout
    exact h.refuse tx _
  · cases hout
    obtain ⟨hsound, hapart, hnone⟩ :=
      h.delete_slot (fun k v hinserts => hidle k ⟨_, hinserts⟩) halter
    refine ⟨hsound, hapart, ?_, ?_⟩
    · cases owner with
      | offering =>
          rintro q ⟨⟩
          trivial
      | classCourse =>
          rintro q ⟨⟩
          exact hnone
    · cases owner <;> exact fun _ hanswer => by cases hanswer

theorem step_sweep {id : School.ClassCourseId} {found : List SlotKey} (h : s.Sound)
    (hnone : s.NoInsert tx) (hnext : next tx s (.sweep id found) w = some (s', n)) :
    Steps tx s s' n := by
  cases found with
  | nil =>
      cases hnext
      exact h.goto hnone
  | cons =>
      obtain ⟨rows, -, hout⟩ | ⟨v, rows, halter, hout⟩ := Rows.onRow_cases hnext
      · cases hout
        exact h.goto hnone
      · cases hout
        obtain ⟨hsound, hapart, hnone'⟩ := h.delete_slot hnone halter
        refine ⟨hsound, hapart, ?_, fun _ hanswer => by cases hanswer⟩
        rintro q ⟨⟩
        exact hnone'

theorem step_flip {id : School.ClassCourseId} {flag : Bool} (h : s.Sound)
    (hnext : next tx s (.flip id flag) w = some (s', n)) : Steps tx s s' n := by
  obtain ⟨rows, -, hout⟩ | ⟨v, rows, halter, hout⟩ := Rows.onRow_cases hnext
  · cases hout
    exact ⟨(h.commit tx).1, (h.commit tx).2.1, fun _ hgoto => (by cases hgoto),
      fun _ _ => (h.commit tx).2.2⟩
  · cases hout
    obtain ⟨hsound, hapart, -, -⟩ := h.alter_owner halter
    refine ⟨hsound, hapart, ?_, fun _ hanswer => by cases hanswer⟩
    rintro q ⟨⟩
    trivial

theorem next_steps {p : Point} (h : s.Sound) (hp : Holds tx p s)
    (hnext : next tx s p w = some (s', n)) : Steps tx s s' n := by
  cases p with
  | new =>
      simp only [next] at hnext
      split at hnext
      · cases hnext
        exact h.refuse tx _
      · cases hnext
        exact h.goto hp
  | lock => exact step_lock h hp hnext
  | list => exact step_list h hp hnext
  | insert => exact step_insert h hp hnext
  | delete => exact step_delete h hp hnext
  | find =>
      cases hnext
      exact h.goto fun k v hinserts => hp k ⟨_, hinserts⟩
  | sweep => exact step_sweep h hp hnext
  | flip => exact step_flip h hnext
  | commit =>
      cases hnext
      exact ⟨(h.commit tx).1, (h.commit tx).2.1, fun _ hgoto => (by cases hgoto),
        fun _ _ => (h.commit tx).2.2⟩

theorem Db.Apart.noInsert (h : Db.Apart tx s s') (hne : tx' ≠ tx) (hnone : s.NoInsert tx') :
    s'.NoInsert tx' :=
  fun k v hinserts => hnone k v (h.inserts hne hinserts).1

theorem Holds.apart {p : Point} (hne : tx' ≠ tx) (h : Db.Apart tx s s') (hp : Holds tx' p s) :
    Holds tx' p s' := by
  have hlocked : ∀ owner, (s.owner.row owner).Held tx' → (s'.owner.row owner).Held tx' := by
    intro owner hheld
    rw [h.owner.held tx' hne owner hheld]
    exact hheld
  cases p with
  | new | lock | delete | find => exact h.slot.idle tx' hne hp
  | list owner id slot => exact ⟨h.slot.idle tx' hne hp.1, hlocked owner hp.2⟩
  | insert owner id slot =>
      refine ⟨h.slot.idle tx' hne hp.1, hlocked owner hp.2.1, h.room ?_ hp.2.2⟩
      exact fun hmine => hne (hp.2.1.unique hmine)
  | sweep | flip => exact h.noInsert hne hp
  | commit => trivial

theorem transactional :
    machine.Transactional (fun _ _ => True) Db.Sound Holds (fun tx s => s.Idle tx) Db.Apart where
  entry := by
    intro id s request _ hidle
    cases request <;> exact hidle.2
  own := by
    intro c id w p s n _ _ hnext h hp
    obtain ⟨hsound, -, hgoto, hanswer⟩ := next_steps h hp hnext
    exact ⟨hsound, hgoto, hanswer⟩
  next_apart := by
    intro id s p w s' n hnext h hp
    exact (next_steps h hp hnext).2.1
  rollback := by
    intro id s h
    exact ⟨(h.rollback id).1, (h.rollback id).2.2, (h.rollback id).2.1⟩
  stable := by
    intro id id' q s s' hne hapart _ _ hp
    exact hp.apart hne hapart
  idle := by
    intro id id' s s' hne hapart hidle
    exact ⟨hapart.owner.idle id' hne hidle.1, hapart.slot.idle id' hne hidle.2⟩

def Db.Settled (s : Db) : Prop := s.owner.Settled ∧ s.slot.Settled

theorem Db.Settled.sound (h : s.Settled) (hplanned : s.Planned) : s.Sound := by
  have hnone : ∀ tx k v, ¬ s.Inserts tx k v := fun tx k v hinserts => h.2.idle tx k ⟨_, hinserts⟩
  exact ⟨hplanned, fun tx k v hinserts => absurd hinserts (hnone tx k v),
    fun tx k v hinserts => absurd hinserts (hnone tx k v),
    fun tx k v hinserts => absurd hinserts (hnone tx k v),
    fun tx k _ v _ hinserts => absurd hinserts (hnone tx k v)⟩

/-- In every reachable state the week of every owner has disjoint slots, and no more of them
than the cap. -/
theorem weeks_disjoint_and_capped {c : Config Db Point} {ms : List (Move Request World)}
    (hsettled : s.Settled) (hplanned : s.Planned) (hrun : machine.run (.initial s) ms = some c) :
    (∀ owner k k' slot slot', k ≠ k' → (c.shared.slot.row k).committed = some (owner, slot) →
        (c.shared.slot.row k').committed = some (owner, slot') → slot.weekday = slot'.weekday →
        Disjoint (Set.Ico slot.startsAt.get slot.endsAt.get)
          (Set.Ico slot'.startsAt.get slot'.endsAt.get)) ∧
      ∀ owner, Rows.count (owned owner) c.shared.slot ≤ maxWeeklySlots := by
  have hstart : (Config.initial s).Runs Db.Sound Holds (fun tx s => s.Idle tx) :=
    Config.initial_runs (hsettled.sound hplanned) fun tx =>
      ⟨hsettled.1.idle tx, hsettled.2.idle tx⟩
  have hend := transactional.runs_run hstart (machine.guarded_true _ ms) hrun
  have hweeks := hend.shared.planned
  refine ⟨fun owner k k' slot slot' hne hslot hslot' hday => ?_, hweeks.capped⟩
  exact (overlaps_eq_false_iff slot slot' hday).mp
    (hweeks.apart k k' _ _ hne hslot hslot' rfl)

namespace Sample

def algebra : School.ClassCourseId := ⟨.ending "0501"⟩

def firstUuid : Uuid := .ending "0502"

def secondUuid : Uuid := .ending "0503"

def store : Db := ⟨(∅ : Rows Owner OwnerRow).put (.classCourse algebra) (.classCourse true), ∅⟩

def monday (startsAt endsAt : Overrides.SlotMinute) : Move Request World :=
  .start (.add (.classCourse algebra) .monday startsAt endsAt none)

def nine : Overrides.SlotMinute := .nine

def ten : Overrides.SlotMinute := .ten

def eleven : Overrides.SlotMinute := ⟨660, by decide, by decide⟩

/-- One step of the call `id`. -/
def step (id : ℕ) (uuid : Uuid) : Move Request World := .advance id ⟨uuid⟩

/-- Two adds of touching hours: the second waits for the lock of the first. -/
def touching : List (Move Request World) :=
  [monday nine ten, monday ten eleven, step 0 firstUuid, step 1 secondUuid,
    step 0 firstUuid, step 0 firstUuid, step 0 firstUuid, step 0 firstUuid,
    step 1 secondUuid, step 1 secondUuid, step 1 secondUuid, step 1 secondUuid]

theorem store_planned : store.Planned where
  apart k k' u u' _ hu := by simp [store, Rows.row, Row.vacant] at hu
  capped owner := by simp [store, Rows.count]

theorem weeks_disjoint_and_capped_touching :
    ∃ c, machine.run (.initial store) touching = some c ∧
      Rows.count (owned (.classCourse algebra)) c.shared.slot = 2 ∧
      ∀ owner, Rows.count (owned owner) c.shared.slot ≤ maxWeeklySlots := by
  have hend : (machine.run (.initial store) touching).any (fun c =>
      Rows.count (owned (.classCourse algebra)) c.shared.slot = 2) = true := by
    decide
  obtain ⟨c, hrun, hcount⟩ := (Option.any_eq_true _ _).mp hend
  have hsettled : store.Settled :=
    ⟨Rows.settled_of_all (by decide), Rows.settled_of_all (by decide)⟩
  exact ⟨c, hrun, of_decide_eq_true hcount,
    (weeks_disjoint_and_capped hsettled store_planned hrun).2⟩

end Sample

end Hezarfen.WeeklyPlans
