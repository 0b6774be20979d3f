import Hezarfen.CourseSessions
import Hezarfen.KeyedRows
import Mathlib.Data.Finset.Card
import Mathlib.Data.Prod.Lex
import Mathlib.Data.String.Basic
import Mathlib.Order.OrderDual

/-!
# The days a student was away

The absence block of an attendance report joins roll-call rows to their lessons and lessons to
terms, and counts school days: two lessons missed on one day are one day.  Terms may overlap, and
a lesson belongs to the one that started last.  The block is a function of what the rows say, and
not of their order: one entry for each term they reach, with the number of distinct days.
-/

namespace Hezarfen.Attendance

open CourseSessions (CourseSession zonedDay zoneOffsetMinutes)
open Exams (TermId)
open School (ClassCourseId)
open Years (CourseSessionId)

structure SessionAttendance where
  session : CourseSessionId
  status : String

structure Term where
  name : String
  startsAt : Timestamp
  endsAt : Timestamp

structure AbsenceLimits where
  maxExcusedDays : Option ℤ
  maxUnexcusedDays : Option ℤ

structure Db where
  courseSession : Table CourseSessionId CourseSession
  term : Table TermId Term
  timezone : String
  limits : AbsenceLimits

structure TermAbsence where
  term : TermId
  name : String
  absentDays : ℕ
  excusedDays : ℕ
  unexcusedDays : ℕ
  limits : AbsenceLimits
  overLimit : Bool

/-- The two classes of rows that count. -/
inductive Away where
  | unexcused
  | excused
  deriving DecidableEq

def Away.ofStatus (status : String) : Option Away :=
  if status = "absent" then some .unexcused
  else if status = "excused" then some .excused
  else none

/-- `max_by_key` keeps the last of equal starts. -/
def laterStart (best : Option (TermId × Term)) (term : TermId × Term) :
    Option (TermId × Term) :=
  match best with
  | none => some term
  | some held => if held.2.startsAt ≤ term.2.startsAt then some term else some held

def termOf (instant : ℤ) (terms : List (TermId × Term)) : Option (TermId × Term) :=
  (terms.filter fun term =>
    decide (term.2.startsAt ≤ instant) && decide (instant ≤ term.2.endsAt)).foldl laterStart none

structure Tally where
  unexcused : Finset (TermId × ℤ)
  excused : Finset (TermId × ℤ)
  order : List (TermId × Term)

def Tally.add (tally : Tally) (term : TermId × Term) (day : ℤ) : Away → Tally
  | .unexcused =>
      { tally with
        unexcused := insert (term.1, day) tally.unexcused
        order := Keyed.addNew Prod.fst tally.order term }
  | .excused =>
      { tally with
        excused := insert (term.1, day) tally.excused
        order := Keyed.addNew Prod.fst tally.order term }

section Report

variable (s : Db) (blocks : List ClassCourseId) (rows : List SessionAttendance)

/-- `term ORDER BY starts_at DESC, id DESC` -/
def Db.terms : List (TermId × Term) :=
  Keyed.sortBy (fun term => OrderDual.toDual (toLex (term.2.startsAt, term.1.uuid.hyphenated)))
    (s.term.entries.map fun row => (row.1, row.2))

def Db.startOf (session : CourseSessionId) : Option ℤ :=
  ((s.courseSession.lookup session).filter fun held =>
    blocks.contains held.classCourse).map CourseSession.startsAt

/-- The class, the term and the start of a row; nothing for a row that is passed over. -/
def Db.reached (row : SessionAttendance) : Option (Away × (TermId × Term) × ℤ) := do
  let away ← Away.ofStatus row.status
  let start ← s.startOf blocks row.session
  let term ← termOf start s.terms
  return (away, term, start)

def Db.dayOf (start : ℤ) : Option ℤ :=
  (zonedDay start (zoneOffsetMinutes s.timezone)).map CourseSessions.NaiveDate.day

def Db.tallyRow (tally : Tally) (row : SessionAttendance) : Option Tally :=
  match s.reached blocks row with
  | none => some tally
  | some (away, term, start) => (s.dayOf start).map fun day => tally.add term day away

def Db.entry (absentDays excusedDays : ℕ) (term : TermId × Term) : TermAbsence :=
  { term := term.1
    name := term.2.name
    absentDays := absentDays
    excusedDays := excusedDays
    unexcusedDays := absentDays
    limits := s.limits
    overLimit := s.limits.maxExcusedDays.any (fun max => decide ((excusedDays : ℤ) > max)) ||
      s.limits.maxUnexcusedDays.any fun max => decide ((absentDays : ℤ) > max) }

def Tally.entry (tally : Tally) (term : TermId × Term) : TermAbsence :=
  s.entry (tally.unexcused.filter fun day => day.1 = term.1).card
    (tally.excused.filter fun day => day.1 = term.1).card term

/-- Nothing where the day of a lesson is out of the range of dates. -/
def Db.absenceByTerm : Option (List TermAbsence) :=
  if rows.isEmpty || blocks.isEmpty then some []
  else
    (rows.foldlM (s.tallyRow blocks) ⟨∅, ∅, []⟩).map fun tally =>
      Keyed.sortBy (fun entry => entry.term.uuid.hyphenated)
        (tally.order.map (tally.entry s))

/-- No lesson that counts is out of the range of dates. -/
def Db.dated : Bool :=
  rows.all fun row => (s.reached blocks row).all fun reached => (s.dayOf reached.2.2).isSome

def Db.awayDays (away : Away) (term : TermId) : Finset ℤ :=
  (rows.filterMap fun row => (s.reached blocks row).bind fun reached =>
    if reached.1 = away ∧ reached.2.1.1 = term then s.dayOf reached.2.2 else none).toFinset

def Db.reachedTerms : List (TermId × Term) :=
  s.terms.filter fun term => rows.any fun row =>
    (s.reached blocks row).any fun reached => decide (reached.2.1.1 = term.1)

def Db.marked (away : Away) : Finset (TermId × ℤ) :=
  (rows.filterMap fun row => (s.reached blocks row).bind fun reached =>
    if reached.1 = away then (s.dayOf reached.2.2).map fun day => (reached.2.1.1, day)
    else none).toFinset

def Db.tallied (tally : Tally) : Tally :=
  { unexcused := tally.unexcused ∪ s.marked blocks rows .unexcused
    excused := tally.excused ∪ s.marked blocks rows .excused
    order := Keyed.extend Prod.fst tally.order
      (rows.filterMap fun row => (s.reached blocks row).map fun reached => reached.2.1) }

theorem foldlM_tallyRow (tally : Tally) :
    rows.foldlM (s.tallyRow blocks) tally =
      if s.dated blocks rows then some (s.tallied blocks rows tally) else none := by
  induction rows generalizing tally with
  | nil => simp [Db.dated, Db.tallied, Db.marked, Keyed.extend]
  | cons row rows ih =>
      rw [List.foldlM_cons]
      cases hreached : s.reached blocks row with
      | none =>
          rw [Db.tallyRow, hreached]
          simp [ih, Db.dated, Db.tallied, Db.marked, hreached]
      | some reached =>
          obtain ⟨away, term, start⟩ := reached
          rw [Db.tallyRow, hreached]
          cases hday : s.dayOf start with
          | none => simp [Db.dated, hreached, hday]
          | some =>
              cases away <;>
                simp [ih, Db.dated, Db.tallied, Db.marked, hreached, hday, Tally.add,
                  Keyed.extend_cons, Finset.insert_union, Finset.union_insert]

variable {s blocks rows} in
theorem mem_awayDays {away : Away} {term : TermId} {day : ℤ} :
    day ∈ s.awayDays blocks rows away term ↔ (term, day) ∈ s.marked blocks rows away := by
  rw [Db.awayDays, Db.marked, List.mem_toFinset, List.mem_toFinset, List.mem_filterMap,
    List.mem_filterMap]
  refine exists_congr fun row => and_congr_right fun _ => ?_
  cases s.reached blocks row with
  | none => simp
  | some =>
      rw [Option.bind_some, Option.bind_some, ite_and]
      split
      · split
        · next hterm => simp [hterm]
        · next hterm => simp [hterm]
      · simp

variable {s blocks rows} in
theorem card_marked (away : Away) (term : TermId) :
    ((s.marked blocks rows away).filter fun day => day.1 = term).card =
      (s.awayDays blocks rows away term).card := by
  have himage : s.awayDays blocks rows away term =
      ((s.marked blocks rows away).filter fun day => day.1 = term).image Prod.snd := by
    ext day
    simp [mem_awayDays]
  rw [himage]
  refine (Finset.card_image_of_injOn fun a ha b hb heq => ?_).symm
  rw [Finset.mem_coe, Finset.mem_filter] at ha hb
  exact Prod.ext (ha.2.trans hb.2.symm) heq

/-! ## One entry for each term -/

theorem nodup_terms : (s.terms.map Prod.fst).Nodup := by
  have hperm := (Keyed.sortBy_perm (fun term : TermId × Term =>
    OrderDual.toDual (toLex (term.2.startsAt, term.1.uuid.hyphenated)))
    (s.term.entries.map fun row => (row.1, row.2))).map Prod.fst
  refine hperm.nodup_iff.mpr ?_
  rw [List.map_map]
  exact s.term.nodupKeys

theorem laterStart_foldl {terms : List (TermId × Term)} {best : Option (TermId × Term)}
    {term : TermId × Term} (h : terms.foldl laterStart best = some term) :
    best = some term ∨ term ∈ terms := by
  induction terms generalizing best with
  | nil => exact .inl h
  | cons first terms ih =>
      rw [List.foldl_cons] at h
      rcases ih h with hbest | hmem
      · unfold laterStart at hbest
        split at hbest
        · exact .inr (by simp [Option.some.inj hbest])
        · split at hbest
          · exact .inr (by simp [Option.some.inj hbest])
          · exact .inl hbest
      · exact .inr (List.mem_cons_of_mem _ hmem)

theorem termOf_mem {instant : ℤ} {terms : List (TermId × Term)} {term : TermId × Term}
    (h : termOf instant terms = some term) : term ∈ terms :=
  List.mem_of_mem_filter ((laterStart_foldl h).resolve_left (by simp))

variable {s blocks rows} in
theorem reached_mem {row : SessionAttendance} {reached : Away × (TermId × Term) × ℤ}
    (h : s.reached blocks row = some reached) : reached.2.1 ∈ s.terms := by
  simp only [Db.reached, Option.bind_eq_bind, Option.bind_eq_some_iff, Option.pure_def,
    Option.some.injEq] at h
  obtain ⟨away, -, start, -, term, hterm, rfl⟩ := h
  exact termOf_mem hterm

theorem order_perm :
    (Keyed.extend Prod.fst [] (rows.filterMap fun row =>
      (s.reached blocks row).map fun reached => reached.2.1)).Perm
        (s.reachedTerms blocks rows) := by
  have hinj : ∀ a ∈ s.terms, ∀ b ∈ s.terms, a.1 = b.1 → a = b := fun _ ha _ hb =>
    List.inj_on_of_nodup_map (nodup_terms s) ha hb
  have hterms : ∀ term ∈ rows.filterMap (fun row =>
      (s.reached blocks row).map fun reached => reached.2.1), term ∈ s.terms := by
    intro term hterm
    obtain ⟨row, -, hrow⟩ := List.mem_filterMap.mp hterm
    obtain ⟨reached, hreached, rfl⟩ := Option.map_eq_some_iff.mp hrow
    exact reached_mem hreached
  refine (List.perm_ext_iff_of_nodup (.of_map _ (Keyed.nodup_distinctOn Prod.fst _))
    ((List.Nodup.of_map _ (nodup_terms s)).filter _)).mpr fun term => ?_
  refine (Keyed.mem_distinctOn_of_inj fun a ha b hb =>
    hinj a (hterms a ha) b (hterms b hb)).trans ?_
  rw [List.mem_filter, List.mem_filterMap]
  simp only [List.any_eq_true, Option.any_eq_true, decide_eq_true_eq, Option.map_eq_some_iff]
  constructor
  · rintro ⟨row, hrow, reached, hreached, rfl⟩
    exact ⟨reached_mem hreached, row, hrow, reached, hreached, rfl⟩
  · rintro ⟨hterm, row, hrow, reached, hreached, hid⟩
    exact ⟨row, hrow, reached, hreached, hinj _ (reached_mem hreached) _ hterm hid⟩

theorem reached_of_isEmpty (h : blocks.isEmpty = true) (row : SessionAttendance) :
    s.reached blocks row = none := by
  rw [List.isEmpty_iff] at h
  subst h
  have hstart : s.startOf [] row.session = none := by
    unfold Db.startOf
    cases s.courseSession.lookup row.session <;> simp
  unfold Db.reached
  cases Away.ofStatus row.status <;> simp [hstart]

/-- The report has one entry for each term that the rows reach, in the order of their ids, with
the number of different days; it has an answer unless the day of some lesson is no date. -/
theorem absenceByTerm_eq :
    s.absenceByTerm blocks rows =
      if s.dated blocks rows then
        some (Keyed.sortBy (fun entry => entry.term.uuid.hyphenated)
          ((s.reachedTerms blocks rows).map fun term =>
            s.entry (s.awayDays blocks rows .unexcused term.1).card
              (s.awayDays blocks rows .excused term.1).card term))
      else none := by
  unfold Db.absenceByTerm
  split
  · next hempty =>
    have hnone : ∀ row ∈ rows, s.reached blocks row = none := by
      intro row hrow
      rcases Bool.or_eq_true_iff.mp hempty with hrows | hblocks
      · simp [List.isEmpty_iff.mp hrows] at hrow
      · exact reached_of_isEmpty s blocks hblocks row
    have hdated : s.dated blocks rows = true :=
      List.all_eq_true.mpr fun row hrow => by simp [hnone row hrow]
    have hterms : s.reachedTerms blocks rows = [] := by
      refine List.filter_eq_nil_iff.mpr fun term _ => ?_
      simp only [List.any_eq_true, not_exists, not_and]
      exact fun row hrow => by simp [hnone row hrow]
    rw [if_pos hdated, hterms]
    rfl
  · rw [foldlM_tallyRow]
    split
    · rw [Option.map_some]
      have hentry : (s.tallied blocks rows ⟨∅, ∅, []⟩).entry s = fun term =>
          s.entry (s.awayDays blocks rows .unexcused term.1).card
            (s.awayDays blocks rows .excused term.1).card term := by
        funext term
        simp only [Tally.entry, Db.tallied, Finset.empty_union, card_marked]
      rw [hentry]
      refine congrArg some (Keyed.sortBy_eq_sortBy ((order_perm s blocks rows).map _) ?_
        fun _ _ _ _ => Iff.rfl)
      intro a ha b hb hkey
      obtain ⟨term, hterm, rfl⟩ := List.mem_map.mp ha
      obtain ⟨term', hterm', rfl⟩ := List.mem_map.mp hb
      have hmem : ∀ t ∈ (s.tallied blocks rows ⟨∅, ∅, []⟩).order, t ∈ s.terms := fun t ht =>
        List.mem_of_mem_filter ((order_perm s blocks rows).mem_iff.mp ht)
      have hid : term.1 = term'.1 := congrArg TermId.mk (Uuid.ext_hyphenated hkey)
      rw [List.inj_on_of_nodup_map (nodup_terms s) (hmem term hterm) (hmem term' hterm') hid]
    · rfl

end Report

end Hezarfen.Attendance
