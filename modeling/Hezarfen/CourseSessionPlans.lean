import Hezarfen.CourseSessions

/-!
# The lessons that a run creates

A lesson is due for every school day of the range and every slot of its weekday, unless a
holiday reaches into the day or the section has a lesson at that instant.  The run creates
what is due, and nothing else, as long as the holidays it fetched are those of the days.
-/

namespace Hezarfen.CourseSessions

open Overrides (WeeklySlot)
open School (ClassCourseId)
open Years (CourseSessionId)

variable {slot : WeeklySlot} {new : NewSession} {dates : List NaiveDate} {start : Timestamp}
  {rows : List NewSession}

def dayOf (millis offsetMinutes : ℤ) : ℤ :=
  (millis + offsetMinutes * millisPerMinute) / millisPerDay

variable {date : NaiveDate}

theorem NaiveDate.ofDay_eq_some {day : ℤ} :
    NaiveDate.ofDay day = some date ↔ date.day = day := by
  obtain ⟨day', hlower, hupper⟩ := date
  unfold NaiveDate.ofDay
  constructor
  · intro h
    split at h
    · cases h
      rfl
    · cases h
  · rintro rfl
    rw [dif_pos ⟨hlower, hupper⟩]

theorem NaiveDate.ext_day {date' : NaiveDate} (h : date.day = date'.day) : date = date' := by
  cases date
  cases date'
  cases h
  rfl

variable {offsetMinutes : ℤ}

theorem zonedDay_eq_some {millis : ℤ} :
    zonedDay millis offsetMinutes = some date ↔ date.day = dayOf millis offsetMinutes :=
  NaiveDate.ofDay_eq_some

theorem mem_walkDays {fuel : ℕ} {from_ to_ : NaiveDate}
    (hfuel : fuel = (to_.day + 1 - from_.day).toNat) :
    date ∈ walkDays fuel from_ to_ ↔ from_.day ≤ date.day ∧ date.day ≤ to_.day := by
  induction fuel generalizing from_ with
  | zero =>
      simp only [walkDays, List.not_mem_nil, false_iff]
      omega
  | succ fuel ih =>
      have hle : from_.day ≤ to_.day := by omega
      rw [walkDays, if_pos hle, List.mem_cons]
      cases hnext : from_.succOpt with
      | none =>
          have hlast : ¬(minDay ≤ from_.day + 1 ∧ from_.day + 1 ≤ maxDay) := by
            intro hin
            simp [NaiveDate.succOpt, NaiveDate.ofDay, hin] at hnext
          have hlower := from_.lower
          have hupper := date.upper
          simp only [Option.elim_none, List.not_mem_nil, or_false]
          constructor
          · rintro rfl
            exact ⟨le_rfl, hle⟩
          · intro hrange
            apply NaiveDate.ext_day
            omega
      | some next =>
          have hday : next.day = from_.day + 1 := NaiveDate.ofDay_eq_some.mp hnext
          rw [Option.elim_some, ih (by omega)]
          constructor
          · rintro (rfl | hrest)
            · exact ⟨le_rfl, hle⟩
            · omega
          · intro hrange
            by_cases hfirst : date.day = from_.day
            · exact .inl (NaiveDate.ext_day hfirst)
            · exact .inr (by omega)

theorem mem_daysBetween {from_ to_ : NaiveDate} :
    date ∈ daysBetween from_ to_ ↔ from_.day ≤ date.day ∧ date.day ≤ to_.day :=
  mem_walkDays rfl

/-- A lesson stands on one day only. -/
theorem date_of_startOf {date' : NaiveDate} {slot' : WeeklySlot}
    (h : startOf offsetMinutes date slot = startOf offsetMinutes date' slot') : date = date' := by
  have hlower := slot.startsAt.lower
  have hupper := slot.startsAt.upper
  have hlower' := slot'.startsAt.lower
  have hupper' := slot'.startsAt.upper
  have hmillis : date.day * (24 * 60 * 60 * 1000) - offsetMinutes * 60000 +
      slot.startsAt.get * 60000 = date'.day * (24 * 60 * 60 * 1000) - offsetMinutes * 60000 +
      slot'.startsAt.get * 60000 := h
  unfold Overrides.minSlotMinute at hlower hlower'
  unfold Overrides.maxSlotMinute at hupper hupper'
  apply NaiveDate.ext_day
  omega

/-! ## The loops -/

structure Reads.Takes (r : Reads) (dates : List NaiveDate) (date : NaiveDate)
    (slot : WeeklySlot) : Prop where
  dated : date ∈ dates
  planned : slot ∈ r.slots
  weekday : slot.weekday.get = isoWeekday date
  free : ∀ holiday ∈ r.holidays, holiday.reaches r.offsetMinutes date = false
  absent : startOf r.offsetMinutes date slot ∉ r.existing

def NewSession.StandsFor (r : Reads) (new : NewSession) (date : NaiveDate) (slot : WeeklySlot) :
    Prop :=
  new.row.classCourse = r.instance_ ∧ new.row.startsAt = startOf r.offsetMinutes date slot ∧
    new.row.endsAt = some (endOf r.offsetMinutes date slot)

variable {r : Reads} {draft : Draft}

/-- The inner loop adds the slots without a lesson. -/
theorem mem_slots_rows {slots : List WeeklySlot} :
    (new ∈ (slots.foldl (r.slot date) draft).rows → new ∈ draft.rows ∨ ∃ slot ∈ slots,
      startOf r.offsetMinutes date slot ∉ r.existing ∧ new.StandsFor r date slot) ∧
    (new ∈ draft.rows → new ∈ (slots.foldl (r.slot date) draft).rows) := by
  induction slots generalizing draft with
  | nil => exact ⟨.inl, fun h => h⟩
  | cons slot slots ih =>
      rw [List.foldl_cons]
      by_cases hexists : startOf r.offsetMinutes date slot ∈ r.existing
      · have hstep : (r.slot date draft slot).rows = draft.rows := by
          simp [Reads.slot, hexists]
        rw [← hstep]
        refine ⟨fun hnew => (ih.1 hnew).imp_right ?_, ih.2⟩
        rintro ⟨other, hother, hrest⟩
        exact ⟨other, List.mem_cons_of_mem _ hother, hrest⟩
      · obtain ⟨added, hadded, hrows⟩ : ∃ added : NewSession, added.StandsFor r date slot ∧
            (r.slot date draft slot).rows = draft.rows ++ [added] := by
          simp only [Reads.slot, List.contains_eq_mem, hexists, decide_false, Bool.false_eq_true,
            if_false]
          exact ⟨_, ⟨rfl, rfl, rfl⟩, rfl⟩
        refine ⟨fun hnew => ?_, fun hnew => ih.2 (hrows ▸ List.mem_append_left _ hnew)⟩
        obtain hold | ⟨other, hother, hrest⟩ := ih.1 hnew
        · rw [hrows] at hold
          obtain hold | hold := List.mem_append.mp hold
          · exact .inl hold
          · obtain rfl := List.mem_singleton.mp hold
            exact .inr ⟨slot, List.mem_cons_self, hexists, hadded⟩
        · exact .inr ⟨other, List.mem_cons_of_mem _ hother, hrest⟩

theorem exists_slots_rows (draft : Draft) {slots : List WeeklySlot} (hslot : slot ∈ slots)
    (habsent : startOf r.offsetMinutes date slot ∉ r.existing) :
    ∃ new ∈ (slots.foldl (r.slot date) draft).rows, new.StandsFor r date slot := by
  induction slots generalizing draft with
  | nil => cases hslot
  | cons first slots ih =>
      rw [List.foldl_cons]
      obtain rfl | hslot := List.mem_cons.mp hslot
      · obtain ⟨added, hadded, hrows⟩ : ∃ added : NewSession, added.StandsFor r date slot ∧
            (r.slot date draft slot).rows = draft.rows ++ [added] := by
          simp only [Reads.slot, List.contains_eq_mem, habsent, decide_false, Bool.false_eq_true,
            if_false]
          exact ⟨_, ⟨rfl, rfl, rfl⟩, rfl⟩
        exact ⟨added, mem_slots_rows.2 (by simp [hrows]), hadded⟩
      · exact ih _ hslot

/-- A day that no fetched holiday reaches adds its slots, and any other day adds nothing. -/
theorem date_cases (r : Reads) (draft : Draft) (date : NaiveDate) :
    (r.date draft date).rows = draft.rows ∧
        (∃ holiday ∈ r.holidays, holiday.reaches r.offsetMinutes date = true) ∨
      r.date draft date = (r.slots.filter fun slot =>
          decide (slot.weekday.get = isoWeekday date)).foldl (r.slot date) draft ∧
        ∀ holiday ∈ r.holidays, holiday.reaches r.offsetMinutes date = false := by
  unfold Reads.date
  split
  · next holiday hfind =>
    exact .inl ⟨rfl, holiday, List.mem_of_find?_eq_some hfind,
      by simpa using List.find?_some hfind⟩
  · next hfind =>
    refine .inr ⟨rfl, fun holiday hholiday => ?_⟩
    simpa using List.find?_eq_none.mp hfind holiday hholiday

theorem mem_date_rows :
    (new ∈ (r.date draft date).rows → new ∈ draft.rows ∨ ∃ slot,
      r.Takes [date] date slot ∧ new.StandsFor r date slot) ∧
    (new ∈ draft.rows → new ∈ (r.date draft date).rows) := by
  obtain ⟨hrows, -⟩ | ⟨hrows, hfree⟩ := date_cases r draft date
  · rw [hrows]
    exact ⟨.inl, fun h => h⟩
  · rw [hrows]
    refine ⟨fun hnew => (mem_slots_rows.1 hnew).imp_right ?_, mem_slots_rows.2⟩
    rintro ⟨slot, hslot, habsent, hstands⟩
    obtain ⟨hplanned, hweekday⟩ := List.mem_filter.mp hslot
    exact ⟨slot, ⟨List.mem_singleton.mpr rfl, hplanned, of_decide_eq_true hweekday, hfree, habsent⟩,
      hstands⟩

theorem mem_draft_rows :
    (new ∈ (dates.foldl r.date draft).rows → new ∈ draft.rows ∨ ∃ date slot,
      r.Takes dates date slot ∧ new.StandsFor r date slot) ∧
    (new ∈ draft.rows → new ∈ (dates.foldl r.date draft).rows) := by
  induction dates generalizing draft with
  | nil => exact ⟨.inl, fun h => h⟩
  | cons first dates ih =>
      rw [List.foldl_cons]
      refine ⟨fun hnew => ?_, fun hnew => ih.2 (mem_date_rows.2 hnew)⟩
      obtain hold | ⟨date, slot, htakes, hstands⟩ := ih.1 hnew
      · refine (mem_date_rows.1 hold).imp_right ?_
        rintro ⟨slot, htakes, hstands⟩
        exact ⟨first, slot, { htakes with dated := List.mem_cons_self }, hstands⟩
      · exact .inr ⟨date, slot, { htakes with dated := List.mem_cons_of_mem _ htakes.dated },
          hstands⟩

/-- Every day and slot that the loops take has its row. -/
theorem exists_draft_rows (h : r.Takes dates date slot) :
    ∃ new ∈ (dates.foldl r.date draft).rows, new.StandsFor r date slot := by
  induction dates generalizing draft with
  | nil => cases h.dated
  | cons first dates ih =>
      rw [List.foldl_cons]
      obtain rfl | hrest := List.mem_cons.mp h.dated
      · obtain ⟨-, holiday, hholiday, hreaches⟩ | ⟨hrows, -⟩ := date_cases r draft date
        · rw [h.free holiday hholiday] at hreaches
          cases hreaches
        · have hslot : slot ∈ r.slots.filter fun slot =>
              decide (slot.weekday.get = isoWeekday date) :=
            List.mem_filter.mpr ⟨h.planned, decide_eq_true h.weekday⟩
          obtain ⟨new, hnew, hstands⟩ := exists_slots_rows draft hslot h.absent
          exact ⟨new, mem_draft_rows.2 (hrows ▸ hnew), hstands⟩
      · exact ih { h with dated := hrest }

/-! ## The insert -/

abbrev Sessions := Table CourseSessionId CourseSession

variable {before after : Sessions}

def HasLesson (sessions : Sessions) (id : ClassCourseId) (start : Timestamp) : Prop :=
  ∃ key row, sessions.lookup key = some row ∧ row.classCourse = id ∧ row.startsAt = start

variable {id : ClassCourseId}

theorem any_iff_hasLesson {sessions : Sessions} :
    Table.any sessions (fun _ row => row.classCourse = id ∧ row.startsAt = start) = true ↔
      HasLesson sessions id start := by
  rw [Table.any_iff]
  simp [HasLesson]

/-- What the statement did to the table. -/
structure Inserted (rows : List NewSession) (before after : Sessions) : Prop where
  kept : ∀ key row, before.lookup key = some row → after.lookup key = some row
  covered : ∀ new ∈ rows, HasLesson after new.row.classCourse new.row.startsAt
  source : ∀ key row, before.lookup key = none → after.lookup key = some row →
    ∃ new ∈ rows, row = new.row ∧ ¬ HasLesson before row.classCourse row.startsAt
  single : ∀ key key' row row', before.lookup key = none → before.lookup key' = none →
    after.lookup key = some row → after.lookup key' = some row' →
    row.classCourse = row'.classCourse → row.startsAt = row'.startsAt → key = key'

theorem Inserted.hasLesson (h : Inserted rows before after)
    (hlesson : HasLesson before id start) : HasLesson after id start := by
  obtain ⟨key, row, hrow, hnames⟩ := hlesson
  exact ⟨key, row, h.kept key row hrow, hnames⟩

/-- A row that is inserted first and the rest after it. -/
theorem Inserted.cons (habsent : ¬ HasLesson before new.row.classCourse new.row.startsAt)
    (hfresh : before.lookup new.id = none)
    (h : Inserted rows (before.insert new.id new.row) after) :
    Inserted (new :: rows) before after := by
  have hnew : HasLesson (before.insert new.id new.row) new.row.classCourse new.row.startsAt :=
    ⟨new.id, new.row, AList.lookup_insert _, rfl, rfl⟩
  have hgrows : ∀ {id start}, HasLesson before id start →
      HasLesson (before.insert new.id new.row) id start := by
    rintro id start ⟨key, row, hrow, hnames⟩
    refine ⟨key, row, ?_, hnames⟩
    rw [lookup_insert_eq, if_neg, hrow]
    rintro rfl
    rw [hfresh] at hrow
    cases hrow
  -- a key of the result is the inserted one, or new to the table after it
  have hcases : ∀ key row, before.lookup key = none → after.lookup key = some row →
      key = new.id ∧ row = new.row ∨ (before.insert new.id new.row).lookup key = none := by
    intro key row hnone hrow
    by_cases hkey : key = new.id
    · subst hkey
      have hstored := h.kept new.id new.row (AList.lookup_insert _)
      rw [hrow] at hstored
      exact .inl ⟨rfl, Option.some.inj hstored⟩
    · right
      rw [lookup_insert_eq, if_neg hkey]
      exact hnone
  constructor
  · intro key row hrow
    apply h.kept key row
    rw [lookup_insert_eq, if_neg, hrow]
    rintro rfl
    rw [hfresh] at hrow
    cases hrow
  · intro other hother
    obtain rfl | hother := List.mem_cons.mp hother
    · exact h.hasLesson hnew
    · exact h.covered other hother
  · intro key row hnone hrow
    obtain ⟨-, rfl⟩ | hnone' := hcases key row hnone hrow
    · exact ⟨new, List.mem_cons_self, rfl, habsent⟩
    · obtain ⟨other, hother, rfl, habsent'⟩ := h.source key row hnone' hrow
      exact ⟨other, List.mem_cons_of_mem _ hother, rfl, fun hlesson => habsent' (hgrows hlesson)⟩
  · intro key key' row row' hnone hnone' hrow hrow' hclass hstart
    obtain ⟨rfl, rfl⟩ | hlater := hcases key row hnone hrow
    · obtain ⟨rfl, -⟩ | hlater' := hcases key' row' hnone' hrow'
      · rfl
      · obtain ⟨-, -, -, habsent'⟩ := h.source key' row' hlater' hrow'
        exact absurd (hclass ▸ hstart ▸ hnew) habsent'
    · obtain ⟨rfl, rfl⟩ | hlater' := hcases key' row' hnone' hrow'
      · obtain ⟨-, -, -, habsent'⟩ := h.source key row hlater hrow
        exact absurd (hclass.symm ▸ hstart.symm ▸ hnew) habsent'
      · exact h.single key key' row row' hlater hlater' hrow hrow' hclass hstart

theorem insertMany_inserted {created : List NewSession}
    (h : insertMany rows before = .ok (created, after)) : Inserted rows before after := by
  induction rows generalizing before created with
  | nil =>
      cases h
      exact ⟨fun _ _ hrow => hrow, by simp, fun _ _ hnone hrow => by simp [hnone] at hrow,
        fun _ _ _ _ hnone _ hrow => by simp [hnone] at hrow⟩
  | cons new rows ih =>
      rw [insertMany] at h
      split at h
      · next hany =>
        have hlesson := any_iff_hasLesson.mp hany
        have hrest := ih h
        refine ⟨hrest.kept, ?_, ?_, hrest.single⟩
        · intro other hother
          obtain rfl | hother := List.mem_cons.mp hother
          · exact hrest.hasLesson hlesson
          · exact hrest.covered other hother
        · intro key row hnone hrow
          obtain ⟨other, hother, hsame⟩ := hrest.source key row hnone hrow
          exact ⟨other, List.mem_cons_of_mem _ hother, hsame⟩
      · next hany =>
        split at h
        · cases h
        · next hfresh =>
          split at h
          · cases h
          · next created' after' hrest =>
            cases h
            exact (ih hrest).cons (fun hlesson => hany (any_iff_hasLesson.mpr hlesson))
              (by simpa using hfresh)

/-! ## One run -/

structure Db.Missing (s : Db) (id : ClassCourseId) (row : ClassCourse) (from_ to_ : Timestamp)
    (offsetMinutes : ℤ) (date : NaiveDate) (slot : WeeklySlot) : Prop where
  first : dayOf from_ offsetMinutes ≤ date.day
  last : date.day ≤ dayOf to_ offsetMinutes
  planned : slot ∈ s.resolvedForInstance id row
  weekday : slot.weekday.get = isoWeekday date
  absent : ¬ HasLesson s.courseSession id (startOf offsetMinutes date slot)

/-- Some holiday reaches into the day. -/
def Db.OnHoliday (s : Db) (offsetMinutes : ℤ) (date : NaiveDate) : Prop :=
  ∃ key holiday, s.holiday.lookup key = some holiday ∧ holiday.reaches offsetMinutes date = true

def Db.Fetches (s : Db) (from_ to_ : Timestamp) (offsetMinutes : ℤ) (date : NaiveDate) : Prop :=
  ∃ holiday ∈ s.blockedDays from_ to_, holiday.reaches offsetMinutes date = true

theorem Db.Fetches.onHoliday {s : Db} {from_ to_ : Timestamp}
    (h : s.Fetches from_ to_ offsetMinutes date) : s.OnHoliday offsetMinutes date := by
  obtain ⟨holiday, hholiday, hreaches⟩ := h
  obtain ⟨⟨key, _⟩, hentry, rfl⟩ :=
    List.mem_map.mp (List.mem_filter.mp (Keyed.mem_sortBy.mp hholiday)).1
  exact ⟨key, _, mem_entries_iff_lookup.mp hentry, hreaches⟩

theorem mem_existingStarts {s : Db} :
    start ∈ s.existingStarts id ↔ HasLesson s.courseSession id start := by
  unfold Db.existingStarts HasLesson
  simp only [List.mem_map, List.mem_filter, decide_eq_true_eq]
  constructor
  · rintro ⟨⟨key, row⟩, ⟨hentry, hclass⟩, hstart⟩
    exact ⟨key, row, mem_entries_iff_lookup.mp hentry, hclass, hstart⟩
  · rintro ⟨key, row, hrow, hclass, hstart⟩
    exact ⟨⟨key, row⟩, ⟨mem_entries_iff_lookup.mpr hrow, hclass⟩, hstart⟩

/-- What a run that applied its plan did. -/
structure Ran (s s' : Db) (id : ClassCourseId) (row : ClassCourse) (from_ to_ : Timestamp)
    (offsetMinutes : ℤ) : Prop where
  frame : s' = { s with courseSession := s'.courseSession }
  kept : ∀ key lesson, s.courseSession.lookup key = some lesson →
    s'.courseSession.lookup key = some lesson
  covered : ∀ date slot, s.Missing id row from_ to_ offsetMinutes date slot →
    ¬ s.Fetches from_ to_ offsetMinutes date →
    HasLesson s'.courseSession id (startOf offsetMinutes date slot)
  source : ∀ key lesson, s.courseSession.lookup key = none →
    s'.courseSession.lookup key = some lesson → lesson.classCourse = id ∧ ∃ date slot,
      s.Missing id row from_ to_ offsetMinutes date slot ∧
      ¬ s.Fetches from_ to_ offsetMinutes date ∧
      lesson.startsAt = startOf offsetMinutes date slot ∧
      lesson.endsAt = some (endOf offsetMinutes date slot)
  single : ∀ key key' lesson lesson', s.courseSession.lookup key = none →
    s.courseSession.lookup key' = none → s'.courseSession.lookup key = some lesson →
    s'.courseSession.lookup key' = some lesson' → lesson.startsAt = lesson'.startsAt → key = key'
  idle : (∀ date slot, s.Missing id row from_ to_ offsetMinutes date slot →
    s.Fetches from_ to_ offsetMinutes date) → s' = s

section Run

variable {s s' : Db} {row : ClassCourse} {from_ to_ : Timestamp} {mint : ℕ → Uuid}
  {outcome : MaterializeOutcome}

theorem Reads.takes_iff (hslots : r.slots = s.resolvedForInstance id row)
    (hholidays : r.holidays = s.blockedDays from_ to_)
    (hexisting : r.existing = s.existingStarts id) (hoffset : r.offsetMinutes = offsetMinutes)
    (hdates : ∀ date, date ∈ dates ↔
      dayOf from_ offsetMinutes ≤ date.day ∧ date.day ≤ dayOf to_ offsetMinutes) :
    r.Takes dates date slot ↔ s.Missing id row from_ to_ offsetMinutes date slot ∧
      ¬ s.Fetches from_ to_ offsetMinutes date := by
  subst hoffset
  constructor
  · intro h
    have hrange := (hdates date).mp h.dated
    refine ⟨⟨hrange.1, hrange.2, hslots ▸ h.planned, h.weekday, fun hlesson => ?_⟩, ?_⟩
    · exact h.absent (hexisting ▸ mem_existingStarts.mpr hlesson)
    · rintro ⟨holiday, hholiday, hreaches⟩
      rw [h.free holiday (hholidays ▸ hholiday)] at hreaches
      cases hreaches
  · rintro ⟨hmissing, hfetches⟩
    refine ⟨(hdates date).mpr ⟨hmissing.first, hmissing.last⟩, hslots ▸ hmissing.planned,
      hmissing.weekday, fun holiday hholiday => ?_, fun hexists => ?_⟩
    · rw [Bool.eq_false_iff]
      intro hreaches
      exact hfetches ⟨holiday, hholidays ▸ hholiday, hreaches⟩
    · exact hmissing.absent (mem_existingStarts.mp (hexisting ▸ hexists))

theorem materializeDays_eq_ok {days : List NaiveDate}
    (h : materializeDays s id row from_ to_ true offsetMinutes mint days = .ok (outcome, s')) :
    ∃ r : Reads, r.instance_ = id ∧ r.slots = s.resolvedForInstance id row ∧
      r.holidays = s.blockedDays from_ to_ ∧ r.existing = s.existingStarts id ∧
      r.offsetMinutes = offsetMinutes ∧ s' = { s with courseSession := s'.courseSession } ∧
      ∃ created, insertMany (r.draft days).rows s.courseSession =
        .ok (created, s'.courseSession) := by
  simp only [materializeDays, Gate.bind_eq_ok, Gate.mapError_eq_ok] at h
  obtain ⟨-, -, -, -, -, -, -, -, teacher, -, -, -, written, hwritten, hreturn⟩ := h
  cases hreturn
  exact ⟨_, rfl, rfl, rfl, rfl, rfl, rfl, written.1, hwritten⟩

theorem materialize_ran
    (h : materialize s id row from_ to_ true offsetMinutes mint = some (.ok (outcome, s'))) :
    Ran s s' id row from_ to_ offsetMinutes := by
  obtain ⟨first, hfirst, h⟩ := Option.bind_eq_some_iff.mp h
  obtain ⟨last, hlast, h⟩ := Option.bind_eq_some_iff.mp h
  obtain ⟨r, rfl, hslots, hholidays, hexisting, rfl, hframe, created, hinsert⟩ :=
    materializeDays_eq_ok (Option.some.inj h)
  have htakes : ∀ {date slot}, r.Takes (daysBetween first last) date slot ↔
      s.Missing r.instance_ row from_ to_ r.offsetMinutes date slot ∧
        ¬ s.Fetches from_ to_ r.offsetMinutes date := by
    intro date slot
    apply Reads.takes_iff hslots hholidays hexisting rfl
    intro date
    rw [mem_daysBetween, zonedDay_eq_some.mp hfirst, zonedDay_eq_some.mp hlast]
  have hinserted := insertMany_inserted hinsert
  have hdrafted : ∀ new ∈ (r.draft (daysBetween first last)).rows, ∃ date slot,
      r.Takes (daysBetween first last) date slot ∧ new.StandsFor r date slot := by
    intro new hnew
    obtain hnone | hsome := mem_draft_rows.1 hnew
    · cases hnone
    · exact hsome
  have hsource : ∀ key lesson, s.courseSession.lookup key = none →
      s'.courseSession.lookup key = some lesson → lesson.classCourse = r.instance_ ∧
        ∃ date slot, r.Takes (daysBetween first last) date slot ∧
          lesson.startsAt = startOf r.offsetMinutes date slot ∧
          lesson.endsAt = some (endOf r.offsetMinutes date slot) := by
    intro key lesson hnone hlesson
    obtain ⟨new, hnew, rfl, -⟩ := hinserted.source key lesson hnone hlesson
    obtain ⟨date, slot, htake, hclass, hstart, hend⟩ := hdrafted new hnew
    exact ⟨hclass, date, slot, htake, hstart, hend⟩
  refine ⟨hframe, hinserted.kept, ?_, ?_, ?_, ?_⟩
  · intro date slot hmissing hfetches
    obtain ⟨new, hnew, hclass, hstart, -⟩ := exists_draft_rows (htakes.mpr ⟨hmissing, hfetches⟩)
    rw [← hclass, ← hstart]
    exact hinserted.covered new hnew
  · intro key lesson hnone hlesson
    obtain ⟨hclass, date, slot, htake, hends⟩ := hsource key lesson hnone hlesson
    have hpair := htakes.mp htake
    exact ⟨hclass, date, slot, hpair.1, hpair.2, hends⟩
  · intro key key' lesson lesson' hnone hnone' hlesson hlesson' hstart
    have hclass := (hsource key lesson hnone hlesson).1
    have hclass' := (hsource key' lesson' hnone' hlesson').1
    exact hinserted.single key key' lesson lesson' hnone hnone' hlesson hlesson'
      (hclass.trans hclass'.symm) hstart
  · intro hnothing
    have hempty : (r.draft (daysBetween first last)).rows = [] := by
      apply List.eq_nil_iff_forall_not_mem.mpr
      intro new hnew
      obtain ⟨date, slot, htake, -⟩ := hdrafted new hnew
      have hpair := htakes.mp htake
      exact hpair.2 (hnothing date slot hpair.1)
    rw [hempty] at hinsert
    have hsame : s.courseSession = s'.courseSession :=
      (Prod.mk.inj (Except.ok.inj hinsert)).2
    rw [hframe, ← hsame]

end Run

/-! ## What is due -/

structure Db.Due (s : Db) (id : ClassCourseId) (row : ClassCourse) (from_ to_ : Timestamp)
    (offsetMinutes : ℤ) (date : NaiveDate) (slot : WeeklySlot) : Prop
    extends s.Missing id row from_ to_ offsetMinutes date slot where
  free : ¬ s.OnHoliday offsetMinutes date

structure Exact (s s' : Db) (id : ClassCourseId) (row : ClassCourse) (from_ to_ : Timestamp)
    (offsetMinutes : ℤ) : Prop where
  frame : s' = { s with courseSession := s'.courseSession }
  kept : ∀ key lesson, s.courseSession.lookup key = some lesson →
    s'.courseSession.lookup key = some lesson
  once : ∀ date slot, s.Due id row from_ to_ offsetMinutes date slot →
    ∃! key, s.courseSession.lookup key = none ∧ ∃ lesson,
      s'.courseSession.lookup key = some lesson ∧ lesson.classCourse = id ∧
      lesson.startsAt = startOf offsetMinutes date slot
  only : ∀ key lesson, s.courseSession.lookup key = none →
    s'.courseSession.lookup key = some lesson → lesson.classCourse = id ∧ ∃ date slot,
      s.Due id row from_ to_ offsetMinutes date slot ∧
      lesson.startsAt = startOf offsetMinutes date slot ∧
      lesson.endsAt = some (endOf offsetMinutes date slot)

def Db.Heeds (s : Db) (id : ClassCourseId) (row : ClassCourse) (from_ to_ : Timestamp)
    (offsetMinutes : ℤ) : Prop :=
  ∀ date slot, s.Missing id row from_ to_ offsetMinutes date slot →
    s.OnHoliday offsetMinutes date → s.Fetches from_ to_ offsetMinutes date

def Db.FetchAlike (s : Db) (id : ClassCourseId) (row : ClassCourse) (offsetMinutes : ℤ)
    (from_ to_ from_' to_' : Timestamp) : Prop :=
  ∀ date slot, s.Missing id row from_ to_ offsetMinutes date slot →
    (s.Fetches from_ to_ offsetMinutes date ↔ s.Fetches from_' to_' offsetMinutes date)

def Creates (s s' : Db) (id : ClassCourseId) (start : Timestamp) : Prop :=
  ¬ HasLesson s.courseSession id start ∧ HasLesson s'.courseSession id start

section Due

variable {s s' s₂ : Db} {row : ClassCourse} {from_ to_ from_' to_' : Timestamp}

theorem Db.Missing.congr (h : s.Missing id row from_ to_ offsetMinutes date slot)
    (hfirst : dayOf from_ offsetMinutes = dayOf from_' offsetMinutes)
    (hlast : dayOf to_ offsetMinutes = dayOf to_' offsetMinutes) :
    s.Missing id row from_' to_' offsetMinutes date slot :=
  { h with first := hfirst ▸ h.first, last := hlast ▸ h.last }

/-- A lesson at an instant without one has a new key. -/
theorem Ran.lookup_before (h : Ran s s' id row from_ to_ offsetMinutes) {key : CourseSessionId}
    {lesson : CourseSession} (habsent : ¬ HasLesson s.courseSession id start)
    (hlesson : s'.courseSession.lookup key = some lesson) (hclass : lesson.classCourse = id)
    (hstart : lesson.startsAt = start) : s.courseSession.lookup key = none := by
  by_contra hsome
  obtain ⟨old, hold⟩ := Option.ne_none_iff_exists'.mp hsome
  have hsame := h.kept key old hold
  rw [hlesson] at hsame
  cases hsame
  exact habsent ⟨key, lesson, hold, hclass, hstart⟩

theorem Ran.creates_iff (h : Ran s s' id row from_ to_ offsetMinutes) :
    Creates s s' id start ↔ ∃ date slot, s.Missing id row from_ to_ offsetMinutes date slot ∧
      ¬ s.Fetches from_ to_ offsetMinutes date ∧ startOf offsetMinutes date slot = start := by
  constructor
  · rintro ⟨habsent, key, lesson, hlesson, hclass, hstart⟩
    have hnone := h.lookup_before habsent hlesson hclass hstart
    obtain ⟨-, date, slot, hmissing, hfetches, hstarts, -⟩ := h.source key lesson hnone hlesson
    exact ⟨date, slot, hmissing, hfetches, hstarts.symm.trans hstart⟩
  · rintro ⟨date, slot, hmissing, hfetches, rfl⟩
    exact ⟨hmissing.absent, h.covered date slot hmissing hfetches⟩

theorem Ran.exact_iff (h : Ran s s' id row from_ to_ offsetMinutes) :
    Exact s s' id row from_ to_ offsetMinutes ↔ s.Heeds id row from_ to_ offsetMinutes := by
  constructor
  · intro hexact date slot hmissing honHoliday
    by_contra hfetches
    obtain ⟨key, lesson, hlesson, hclass, hstart⟩ := h.covered date slot hmissing hfetches
    have hnone := h.lookup_before hmissing.absent hlesson hclass hstart
    obtain ⟨-, date', slot', hdue, hstart', -⟩ := hexact.only key lesson hnone hlesson
    obtain rfl := date_of_startOf (hstart.symm.trans hstart')
    exact hdue.free honHoliday
  · intro hheeds
    refine ⟨h.frame, h.kept, ?_, ?_⟩
    · intro date slot hdue
      have hfetches : ¬ s.Fetches from_ to_ offsetMinutes date :=
        fun hfetches => hdue.free hfetches.onHoliday
      obtain ⟨key, lesson, hlesson, hclass, hstart⟩ := h.covered date slot hdue.toMissing hfetches
      have hnone := h.lookup_before hdue.absent hlesson hclass hstart
      refine ⟨key, ⟨hnone, lesson, hlesson, hclass, hstart⟩, ?_⟩
      rintro key' ⟨hnone', lesson', hlesson', -, hstart'⟩
      exact h.single key' key lesson' lesson hnone' hnone hlesson' hlesson
        (hstart'.trans hstart.symm)
    · intro key lesson hnone hlesson
      obtain ⟨hclass, date, slot, hmissing, hfetches, hends⟩ := h.source key lesson hnone hlesson
      exact ⟨hclass, date, slot, ⟨hmissing, fun hday => hfetches (hheeds date slot hmissing hday)⟩,
        hends⟩

/-- Two runs on one state create the same lessons exactly if their ranges fetch alike. -/
theorem Ran.creates_alike_iff (h : Ran s s' id row from_ to_ offsetMinutes)
    (h' : Ran s s₂ id row from_' to_' offsetMinutes)
    (hfirst : dayOf from_ offsetMinutes = dayOf from_' offsetMinutes)
    (hlast : dayOf to_ offsetMinutes = dayOf to_' offsetMinutes) :
    (∀ start, Creates s s' id start ↔ Creates s s₂ id start) ↔
      s.FetchAlike id row offsetMinutes from_ to_ from_' to_' := by
  constructor
  · intro hsame date slot hmissing
    have hstarts := hsame (startOf offsetMinutes date slot)
    rw [h.creates_iff, h'.creates_iff] at hstarts
    apply not_iff_not.mp
    constructor
    · intro hfetches
      obtain ⟨date', slot', -, hfetches', hstart⟩ :=
        hstarts.mp ⟨date, slot, hmissing, hfetches, rfl⟩
      obtain rfl := date_of_startOf hstart
      exact hfetches'
    · intro hfetches
      obtain ⟨date', slot', -, hfetches', hstart⟩ :=
        hstarts.mpr ⟨date, slot, hmissing.congr hfirst hlast, hfetches, rfl⟩
      obtain rfl := date_of_startOf hstart
      exact hfetches'
  · intro halike start
    rw [h.creates_iff, h'.creates_iff]
    constructor
    · rintro ⟨date, slot, hmissing, hfetches, hstart⟩
      exact ⟨date, slot, hmissing.congr hfirst hlast,
        fun hother => hfetches ((halike date slot hmissing).mpr hother), hstart⟩
    · rintro ⟨date, slot, hmissing, hfetches, hstart⟩
      have hmissing' := hmissing.congr hfirst.symm hlast.symm
      exact ⟨date, slot, hmissing', fun hother => hfetches ((halike date slot hmissing').mp hother),
        hstart⟩

theorem Ran.again_iff (h : Ran s s' id row from_ to_ offsetMinutes)
    (h' : Ran s' s₂ id row from_' to_' offsetMinutes)
    (hfirst : dayOf from_ offsetMinutes ≤ dayOf from_' offsetMinutes)
    (hlast : dayOf to_' offsetMinutes ≤ dayOf to_ offsetMinutes) :
    s₂ = s' ↔ s'.Heeds id row from_' to_' offsetMinutes := by
  constructor
  · rintro rfl date slot hmissing -
    by_contra hfetches
    exact hmissing.absent (h'.covered date slot hmissing hfetches)
  · intro hheeds
    apply h'.idle
    intro date slot hmissing
    by_contra hfetches
    have hday : ¬ s'.OnHoliday offsetMinutes date :=
      fun honHoliday => hfetches (hheeds date slot hmissing honHoliday)
    -- the first run saw the same plan and the same holidays, and had no more lessons
    have hplanned := hmissing.planned
    rw [h.frame] at hday hplanned
    have habsent : ¬ HasLesson s.courseSession id (startOf offsetMinutes date slot) := by
      rintro ⟨key, lesson, hlesson, hnames⟩
      exact hmissing.absent ⟨key, lesson, h.kept key lesson hlesson, hnames⟩
    exact hmissing.absent (h.covered date slot
      ⟨hfirst.trans hmissing.first, hmissing.last.trans hlast, hplanned, hmissing.weekday, habsent⟩
      fun hfetched => hday hfetched.onHoliday)

end Due

section WholeDays

variable {s s' s₂ : Db} {row : ClassCourse} {from_ to_ from_' to_' : Timestamp}

theorem Db.heeds_of_wholeDays {first last : NaiveDate}
    (hfirst : dayOf (dayStartMillis first offsetMinutes) offsetMinutes = first.day)
    (hlast : dayOf (dayStartMillis last offsetMinutes + millisPerDay - 1) offsetMinutes =
      last.day) :
    s.Heeds id row (dayStartMillis first offsetMinutes)
      (dayStartMillis last offsetMinutes + millisPerDay - 1) offsetMinutes := by
  rintro date slot hmissing ⟨key, holiday, hholiday, hreaches⟩
  refine ⟨holiday, Keyed.mem_sortBy.mpr (List.mem_filter.mpr ⟨?_, ?_⟩), hreaches⟩
  · exact List.mem_map.mpr ⟨⟨key, holiday⟩, mem_entries_iff_lookup.mpr hholiday, rfl⟩
  · have hlower := hmissing.first
    have hupper := hmissing.last
    rw [hfirst] at hlower
    rw [hlast] at hupper
    simp only [Holiday.reaches, Holiday.overlaps, Bool.and_eq_true, decide_eq_true_eq] at hreaches ⊢
    simp only [dayStartMillis, millisPerDay] at hreaches ⊢
    constructor
    · calc first.day * (24 * 60 * 60 * 1000) - offsetMinutes * millisPerMinute
          ≤ date.day * (24 * 60 * 60 * 1000) - offsetMinutes * millisPerMinute := by omega
        _ ≤ holiday.endsAt := hreaches.1
    · calc holiday.startsAt
          ≤ date.day * (24 * 60 * 60 * 1000) - offsetMinutes * millisPerMinute +
            24 * 60 * 60 * 1000 - 1 := hreaches.2
        _ ≤ last.day * (24 * 60 * 60 * 1000) - offsetMinutes * millisPerMinute +
            24 * 60 * 60 * 1000 - 1 := by omega

end WholeDays

/-- A run creates exactly what is due, its range counts through its days only, and a second run
over days of the first creates nothing: each holds exactly if the holidays that the instants
fetch are those of the days on which a lesson is missing. -/
theorem creates_due_iff_heeds {s s' : Db} {id : ClassCourseId} {row : ClassCourse}
    {from_ to_ : Timestamp} {offsetMinutes : ℤ} {mint : ℕ → Uuid} {outcome : MaterializeOutcome}
    (hrun : materialize s id row from_ to_ true offsetMinutes mint = some (.ok (outcome, s'))) :
    (Exact s s' id row from_ to_ offsetMinutes ↔ s.Heeds id row from_ to_ offsetMinutes) ∧
    (∀ from_' to_' mint' outcome' s₂,
      materialize s id row from_' to_' true offsetMinutes mint' = some (.ok (outcome', s₂)) →
      dayOf from_ offsetMinutes = dayOf from_' offsetMinutes →
      dayOf to_ offsetMinutes = dayOf to_' offsetMinutes →
      ((∀ start, Creates s s' id start ↔ Creates s s₂ id start) ↔
        s.FetchAlike id row offsetMinutes from_ to_ from_' to_')) ∧
    ∀ from_' to_' mint' outcome' s₂,
      materialize s' id row from_' to_' true offsetMinutes mint' = some (.ok (outcome', s₂)) →
      dayOf from_ offsetMinutes ≤ dayOf from_' offsetMinutes →
      dayOf to_' offsetMinutes ≤ dayOf to_ offsetMinutes →
      (s₂ = s' ↔ s'.Heeds id row from_' to_' offsetMinutes) := by
  have hran := materialize_ran hrun
  refine ⟨hran.exact_iff, ?_, ?_⟩
  · intro from_' to_' mint' outcome' s₂ hrun' hfirst hlast
    exact hran.creates_alike_iff (materialize_ran hrun') hfirst hlast
  · intro from_' to_' mint' outcome' s₂ hrun' hfirst hlast
    exact hran.again_iff (materialize_ran hrun') hfirst hlast

namespace Sample

def algebra : ClassCourseId := ⟨.ending "0601"⟩

def row : ClassCourse :=
  { classId := ⟨.ending "0602"⟩
    course := ⟨.ending "0603"⟩
    offering := ⟨⟨.ending "0603"⟩, .ninth⟩
    title := none
    weeklyPlanInherited := false }

/-- A lesson at 13:00 on Mondays. -/
def afternoon : WeeklySlot :=
  ⟨.monday, ⟨780, by decide, by decide⟩, ⟨820, by decide, by decide⟩, none,
    by decide⟩

def monday : NaiveDate := ⟨20724, by decide, by decide⟩

def morning : Holiday :=
  ⟨"Tören", dayStartMillis monday 180 + 480 * millisPerMinute,
    dayStartMillis monday 180 + 540 * millisPerMinute⟩

def noon : Timestamp := dayStartMillis monday 180 + 720 * millisPerMinute

def store : Db where
  classCourse := (∅ : Table ClassCourseId ClassCourse).insert algebra row
  classGroup := ∅
  academicYear := ∅
  course := ∅
  courseOffering := ∅
  offeringSlot := ∅
  classCourseSlot := (∅ : Table Years.WeeklySlotId (ClassCourseId × WeeklySlot)).insert
    ⟨.ending "0605"⟩ (algebra, afternoon)
  classCourseTeacher := (∅ : Table (ClassCourseId × UserId) Unit).insert
    (algebra, ⟨.ending "0606"⟩) ()
  holiday := (∅ : Table HolidayId Holiday).insert ⟨.ending "0607"⟩ morning
  courseSession := ∅

def mint : ℕ → Uuid := fun _ => .ending "0608"

/-- The whole Monday: the holiday is fetched, and no lesson is due. -/
theorem creates_due_iff_heeds_monday :
    ∃ outcome s', materialize store algebra row (dayStartMillis monday 180)
        (dayStartMillis monday 180 + millisPerDay - 1) true 180 mint = some (.ok (outcome, s')) ∧
      outcome.created = [] ∧
      Exact store s' algebra row (dayStartMillis monday 180)
        (dayStartMillis monday 180 + millisPerDay - 1) 180 := by
  have hend : (materialize store algebra row (dayStartMillis monday 180)
      (dayStartMillis monday 180 + millisPerDay - 1) true 180 mint).any (fun result =>
        match result with
        | .ok (outcome, _) => decide (outcome.created = [])
        | .error _ => false) = true := by
    decide
  obtain ⟨result, hrun, hcreated⟩ := (Option.any_eq_true _ _).mp hend
  match result, hcreated with
  | .ok (outcome, s'), hcreated =>
      exact ⟨outcome, s', hrun, of_decide_eq_true hcreated,
        (creates_due_iff_heeds hrun).1.mpr
          (Db.heeds_of_wholeDays (by decide) (by decide))⟩

/-- A run from noon of that Monday does not see the holiday of its morning. -/
theorem lesson_on_reached_day :
    ∃ outcome s', materialize store algebra row noon noon true 180 mint =
        some (.ok (outcome, s')) ∧
      HasLesson s'.courseSession algebra (startOf 180 monday afternoon) ∧
      store.OnHoliday 180 monday ∧ ¬ Exact store s' algebra row noon noon 180 := by
  have hend : (materialize store algebra row noon noon true 180 mint).any (fun result =>
        result.isOk) = true := by
    decide
  obtain ⟨result, hrun, hok⟩ := (Option.any_eq_true _ _).mp hend
  match result, hok with
  | .ok (outcome, s'), _ =>
      have hran := materialize_ran hrun
      have hmissing : store.Missing algebra row noon noon 180 monday afternoon := by
        refine ⟨by decide, by decide, by decide, by decide, ?_⟩
        rintro ⟨key, lesson, hlesson, -⟩
        simp [store] at hlesson
      have honHoliday : store.OnHoliday 180 monday :=
        ⟨⟨.ending "0607"⟩, morning, by decide, by decide⟩
      have hfetches : ¬ store.Fetches noon noon 180 monday := by
        rintro ⟨holiday, hholiday, -⟩
        have hnone : store.blockedDays noon noon = [] := by decide
        rw [hnone] at hholiday
        cases hholiday
      exact ⟨outcome, s', hrun, hran.covered monday afternoon hmissing hfetches, honHoliday,
        fun hexact => hfetches (hran.exact_iff.mp hexact monday afternoon hmissing honHoliday)⟩

end Sample

end Hezarfen.CourseSessions
