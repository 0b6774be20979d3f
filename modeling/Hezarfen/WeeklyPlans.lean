import Hezarfen.Interleaving
import Hezarfen.OverrideStore
import Hezarfen.Snapshots
import Mathlib

/-!
# The weekly plan under concurrent writers

A template week belongs to an offering and an own week to a section.  An add takes the lock
of its owner's row, reads the week, judges the slot and inserts it; the three statements see
what is committed at their own time.  A removal and a reset are one statement each: they
delete first and flip the flag of the section afterwards, waiting for the owner's row in
between.
-/

namespace Hezarfen.WeeklyPlans

open Interleaving ReadCommitted
open Overrides (Weekday SlotMinute WeeklySlot checkAdd slotAddConflict maxWeeklySlots)
open School (ClassCourseId Refusal)
open Years (CourseOfferingId WeeklySlotId app)

/-- The table a slot is stored in. -/
inductive Side where
  | offering
  | classCourse
  deriving DecidableEq

inductive Owner where
  | offering (id : CourseOfferingId)
  | classCourse (id : ClassCourseId)
  deriving DecidableEq

def Owner.side : Owner → Side
  | .offering _ => .offering
  | .classCourse _ => .classCourse

inductive OwnerRow where
  | courseOffering
  | classCourse (weeklyPlanInherited : Bool)

def OwnerRow.setInherited (flag : Bool) : OwnerRow → OwnerRow
  | .courseOffering => .courseOffering
  | .classCourse _ => .classCourse flag

structure SlotKey where
  side : Side
  id : WeeklySlotId
  deriving DecidableEq

structure Db where
  owner : Rows Owner OwnerRow
  /-- `offering_slot` and `class_course_slot` -/
  slot : Rows SlotKey (Owner × WeeklySlot)

def Db.commit (tx : ℕ) (s : Db) : Db := ⟨s.owner.commit tx, s.slot.commit tx⟩

def Db.rollback (tx : ℕ) (s : Db) : Db := ⟨s.owner.rollback tx, s.slot.rollback tx⟩

def owned (owner : Owner) (_ : SlotKey) (row : Owner × WeeklySlot) : Bool :=
  decide (row.1 = owner)

/-- `list_for_offering_on` and `list_for_class_on` -/
def Db.listOn (s : Db) (tx : ℕ) (owner : Owner) : List WeeklySlot :=
  (s.slot.visible tx (owned owner)).map fun row => row.2.2

inductive Request where
  | add (owner : Owner) (weekday : Weekday) (startsAt endsAt : SlotMinute)
      (topic : Option String)
  | remove (owner : Owner) (slot : WeeklySlotId)
  | reset (section_ : ClassCourseId)

inductive Point where
  | new (owner : Owner) (weekday : Weekday) (startsAt endsAt : SlotMinute)
      (topic : Option String)
  | lock (owner : Owner) (id : WeeklySlotId) (slot : WeeklySlot)
  | list (owner : Owner) (id : WeeklySlotId) (slot : WeeklySlot)
  | insert (owner : Owner) (id : WeeklySlotId) (slot : WeeklySlot)
  | delete (owner : Owner) (slot : WeeklySlotId)
  | find (section_ : ClassCourseId)
  /-- The reset with the rows its snapshot found. -/
  | sweep (section_ : ClassCourseId) (found : List SlotKey)
  | flip (section_ : ClassCourseId) (flag : Bool)
  | commit (slot : Option WeeklySlot)

structure World where
  uuid : Uuid

abbrev Reply := Next Point (Except Refusal (Option WeeklySlot))

def refuse (tx : ℕ) (s : Db) (refusal : Refusal) : Db × Reply :=
  (s.rollback tx, .answer (.error refusal))

def slotOverlap : Refusal :=
  .coded "slot_overlap" "a slot already occupies this weekday and start time"

/-- What a violated `UNIQUE` becomes; only the insert of a template slot maps it. -/
def Owner.duplicate : Owner → Refusal
  | .offering _ => slotOverlap
  | .classCourse _ => app .db

/-- The two columns of the `UNIQUE` beside the owner. -/
def sameStart (owner : Owner) (slot : WeeklySlot) (row : Owner × WeeklySlot) : Bool :=
  decide (row.1 = owner ∧ row.2.weekday = slot.weekday ∧ row.2.startsAt = slot.startsAt)

/-- Another transaction has an open insert of the same start, which the index waits for. -/
def Db.startOpen (s : Db) (tx : ℕ) (owner : Owner) (slot : WeeklySlot) : Bool :=
  Table.any s.slot fun _ row =>
    row.writer.any fun w => decide (w.1 ≠ tx) && w.2.any (sameStart owner slot)

def Db.startTaken (s : Db) (tx : ℕ) (owner : Owner) (slot : WeeklySlot) : Bool :=
  Table.any s.slot fun _ row => (row.seen tx).any (sameStart owner slot)

/-- The insert and the flip of a section's flag; the lock is already held, so that the write
of an offering's row changes nothing. -/
def insertTx (tx : ℕ) (s : Db) (owner : Owner) (id : WeeklySlotId) (slot : WeeklySlot) :
    Option (Db × Reply) :=
  if s.startOpen tx owner slot then none
  else if s.startTaken tx owner slot then some (refuse tx s owner.duplicate)
  else if (s.slot.row ⟨owner.side, id⟩).writer.isSome then none
  else if (s.slot.row ⟨owner.side, id⟩).committed.isSome then some (refuse tx s owner.duplicate)
  else
    Rows.onRow (Rows.alter tx s.owner owner fun row => some (row.setInherited false))
      (refuse tx s (app .notFound)) fun _ rows =>
        (⟨rows, s.slot.write tx ⟨owner.side, id⟩ (some (owner, slot))⟩, .goto (.commit (some slot)))

def next (tx : ℕ) (s : Db) (p : Point) (w : World) : Option (Db × Reply) :=
  match p with
  | .new owner weekday startsAt endsAt topic =>
      match WeeklySlot.new weekday startsAt endsAt topic with
      | .error e => some (refuse tx s (app (.validation e)))
      | .ok slot => some (s, .goto (.lock owner ⟨w.uuid⟩ slot))
  | .lock owner id slot =>
      Rows.onRow (Rows.lock tx s.owner owner) (refuse tx s (app .notFound)) fun _ rows =>
        ({ s with owner := rows }, .goto (.list owner id slot))
  | .list owner id slot =>
      match checkAdd (s.listOn tx owner) slot with
      | .error e => some (refuse tx s (slotAddConflict e))
      | .ok () => some (s, .goto (.insert owner id slot))
  | .insert owner id slot => insertTx tx s owner id slot
  | .delete owner slot =>
      Rows.onRow
        (Rows.alterWhere tx s.slot ⟨owner.side, slot⟩ (fun row => decide (row.1 = owner))
          fun _ => none)
        (refuse tx s (app .notFound)) fun _ rows =>
          ({ s with slot := rows },
            match owner with
            | .offering _ => .goto (.commit none)
            | .classCourse id => .goto (.flip id false))
  | .find id =>
      some (s, .goto (.sweep id ((s.slot.visible tx (owned (.classCourse id))).map Prod.fst)))
  | .sweep id [] => some (s, .goto (.flip id true))
  | .sweep id (key :: found) =>
      Rows.onRow
        (Rows.alterWhere tx s.slot key (fun row => decide (row.1 = .classCourse id))
          fun _ => none)
        (s, .goto (.sweep id found)) fun _ rows =>
          ({ s with slot := rows }, .goto (.sweep id found))
  -- the statement has succeeded without a row, so that its deletions stay
  | .flip id flag =>
      Rows.onRow (Rows.alter tx s.owner (.classCourse id) fun row => some (row.setInherited flag))
        (s.commit tx, .answer (.error (app .notFound))) fun _ rows =>
          ({ s with owner := rows }, .goto (.commit none))
  | .commit slot => some (s.commit tx, .answer (.ok slot))

def entry : Request → Point
  | .add owner weekday startsAt endsAt topic => .new owner weekday startsAt endsAt topic
  | .remove owner slot => .delete owner slot
  | .reset id => .find id

def machine : Machine Db Point Request World (Except Refusal (Option WeeklySlot)) where
  entry := entry
  next := next
  rollback := Db.rollback

structure Db.Planned (s : Db) : Prop where
  apart : ∀ k k' u u', k ≠ k' → (s.slot.row k).committed = some u →
    (s.slot.row k').committed = some u' → u.1 = u'.1 → u.2.overlaps u'.2 = false
  capped : ∀ owner, Rows.count (owned owner) s.slot ≤ maxWeeklySlots

structure Db.Room (s : Db) (v : Owner × WeeklySlot) : Prop where
  apart : ∀ k u, (s.slot.row k).committed = some u → u.1 = v.1 → u.2.overlaps v.2 = false
  below : Rows.count (owned v.1) s.slot < maxWeeklySlots

theorem overlaps_comm (slot other : WeeklySlot) : slot.overlaps other = other.overlaps slot := by
  unfold WeeklySlot.overlaps
  rw [Bool.eq_iff_iff]
  simp only [Bool.and_eq_true, decide_eq_true_eq]
  constructor
  · rintro ⟨⟨hday, hleft⟩, hright⟩
    exact ⟨⟨hday.symm, hright⟩, hleft⟩
  · rintro ⟨⟨hday, hleft⟩, hright⟩
    exact ⟨⟨hday.symm, hright⟩, hleft⟩

theorem overlaps_eq_false_iff (slot other : WeeklySlot) (hday : slot.weekday = other.weekday) :
    slot.overlaps other = false ↔
      Disjoint (Set.Ico slot.startsAt.get slot.endsAt.get)
        (Set.Ico other.startsAt.get other.endsAt.get) := by
  rw [Set.Ico_disjoint_Ico]
  simp only [WeeklySlot.overlaps, hday, decide_true, Bool.true_and, Bool.and_eq_false_iff,
    decide_eq_false_iff_not, not_lt]
  have hslot := slot.window
  have hother := other.window
  omega

end Hezarfen.WeeklyPlans
