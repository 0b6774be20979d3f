import Hezarfen.AppointmentWindows

/-!
# Weekly publishes

A weekly publish names its first window and the last instant at which an occurrence may start.
The number of occurrences comes from a division before the windows are made, with plain `i64`
arithmetic; the shifts are checked.  What the expansion returns is inserted whole or not at
all, and no two slots of a teacher overlap, whatever else runs in the meantime.
-/

namespace Hezarfen.School

open Interleaving

/-- `weekly_windows` with every operation that it does not check. -/
def weeklyWindowsI64 (startsAt endsAt until_ : Timestamp) :
    Option (Except ValidationError (List (Timestamp × Timestamp))) :=
  match checkWindow startsAt endsAt with
  | .error e => some (.error e)
  | .ok _ =>
      if until_ < startsAt then
        some (.error (.invalid "until" "must not be before the first slot"))
      else
        (plainI64 (until_ - startsAt)).bind fun span =>
          (plainI64 (span / millisPerWeek + 1)).map fun (count : ℤ) =>
            if (maxSlotOccurrences : ℤ) < count then
              .error (.tooLong "until" maxSlotOccurrences count.toNat)
            else (List.range count.toNat).mapM (weeklyWindow startsAt endsAt)

theorem checkWindow_ok {startsAt endsAt : Timestamp} (h : startsAt < endsAt) :
    checkWindow startsAt endsAt = .ok () :=
  if_neg (not_le.mpr h)

/-- What the route lets through: three `i64` numbers that pass the checks of the body, at a
clock past the first minute of the epoch. -/
structure Admitted (now startsAt endsAt until_ : Timestamp) : Prop where
  first : InI64 startsAt ∧ InI64 endsAt
  last : InI64 until_
  clock : schedulePastGraceMs ≤ now
  body : checkBody startsAt endsAt now = .ok ()
  notPast : checkNotPast "until" until_ now = .ok ()

theorem checkNotPast_ok {field : String} {value now : Timestamp}
    (h : checkNotPast field value now = .ok ()) : now - schedulePastGraceMs ≤ value := by
  unfold checkNotPast at h
  split at h
  · cases h
  · next hpast => exact not_lt.mp hpast

theorem checkBody_ok {startsAt endsAt now : Timestamp}
    (h : checkBody startsAt endsAt now = .ok ()) :
    now - schedulePastGraceMs ≤ startsAt := by
  unfold checkBody at h
  cases hstart : checkNotPast "starts_at" startsAt now with
  | error =>
      rw [hstart] at h
      cases h
  | ok => exact checkNotPast_ok hstart

theorem Admitted.startsAt_nonneg {now startsAt endsAt until_ : Timestamp}
    (h : Admitted now startsAt endsAt until_) : 0 ≤ startsAt := by
  have hstart := checkBody_ok h.body
  exact (Int.sub_nonneg.mpr h.clock).trans hstart

theorem span_inI64 {first last : ℤ} (hfirst : 0 ≤ first) (hle : first ≤ last) (hlast : InI64 last) :
    InI64 (last - first) ∧ InI64 ((last - first) / millisPerWeek + 1) ∧
      ((maxSlotOccurrences : ℤ) < (last - first) / millisPerWeek + 1 ↔
        maxSlotOccurrences < ((last - first) / millisPerWeek + 1).toNat) := by
  unfold InI64 millisPerWeek at *
  omega

/-- No operation of the expansion overflows. -/
theorem weeklyWindowsI64_eq {now startsAt endsAt until_ : Timestamp}
    (h : Admitted now startsAt endsAt until_) :
    weeklyWindowsI64 startsAt endsAt until_ = some (weeklyWindows startsAt endsAt until_) := by
  unfold weeklyWindowsI64 weeklyWindows
  cases checkWindow startsAt endsAt with
  | error => rfl
  | ok =>
      simp only
      split
      · rfl
      · next huntil =>
        obtain ⟨hspan, hcount, hiff⟩ := span_inI64 h.startsAt_nonneg (not_lt.mp huntil) h.last
        rw [plainI64_of_inI64 hspan, Option.bind_some, plainI64_of_inI64 hcount,
          Option.map_some]
        simp only [hiff]

/-! ## The occurrences -/

/-- The instant so many weeks later. -/
def weeksAfter (base : ℤ) (week : ℕ) : ℤ := base + week * millisPerWeek

/-- How many occurrences start by `until_`. -/
def occurrences (startsAt until_ : Timestamp) : ℕ :=
  ((until_ - startsAt) / millisPerWeek + 1).toNat

theorem lt_occurrences_iff (first last : ℤ) (week : ℕ) :
    week < occurrences first last ↔ weeksAfter first week ≤ last := by
  unfold occurrences weeksAfter millisPerWeek
  omega

def windowAt (startsAt endsAt : Timestamp) (week : ℕ) : Timestamp × Timestamp :=
  (weeksAfter startsAt week, weeksAfter endsAt week)

/-- The windows of an expansion: those whose start is no later than `until_`, in order. -/
def Repeats (startsAt endsAt until_ : Timestamp) (windows : List (Timestamp × Timestamp)) : Prop :=
  ∃ n : ℕ, windows = (List.range n).map (windowAt startsAt endsAt) ∧
    ∀ week : ℕ, week < n ↔ weeksAfter startsAt week ≤ until_

/-- Why an expansion is refused. -/
inductive Refused (startsAt endsAt until_ : Timestamp) : ValidationError → Prop
  | inverted (h : endsAt ≤ startsAt) :
      Refused startsAt endsAt until_ (.invalid "ends_at" "must be after starts_at")
  | before (h : until_ < startsAt) :
      Refused startsAt endsAt until_ (.invalid "until" "must not be before the first slot")
  /-- One more than the cap would start in time. -/
  | many (h : weeksAfter startsAt maxSlotOccurrences ≤ until_) (got : ℕ) :
      Refused startsAt endsAt until_ (.tooLong "until" maxSlotOccurrences got)
  /-- An occurrence starts in time, and its end is no `i64`. -/
  | far (week : ℕ) (h : weeksAfter startsAt week ≤ until_)
      (hend : ¬ InI64 (weeksAfter endsAt week)) :
      Refused startsAt endsAt until_ (.invalid "ends_at" "is too far ahead to repeat weekly")

/-- What an expansion answers. -/
def Expands (startsAt endsAt until_ : Timestamp) :
    Except ValidationError (List (Timestamp × Timestamp)) → Prop
  | .ok windows => Repeats startsAt endsAt until_ windows ∧ windows ≠ [] ∧
      windows.length ≤ maxSlotOccurrences ∧ ∀ window ∈ windows, InI64 window.1 ∧ InI64 window.2
  | .error e => Refused startsAt endsAt until_ e

/-- A pass whose only error is the same everywhere. -/
theorem mapM_ite {α β ε : Type*} (p : α → Prop) [DecidablePred p] (f : α → β) (e : ε) (l : List α) :
    l.mapM (fun a => if p a then Except.ok (f a) else .error e) =
      if ∀ a ∈ l, p a then .ok (l.map f) else .error e := by
  induction l with
  | nil => simp [pure, Except.pure]
  | cons a l ih =>
      rw [List.mapM_cons, ih]
      by_cases ha : p a
      · by_cases hl : ∀ b ∈ l, p b
        · rw [if_pos ha, if_pos hl, if_pos (by simpa using ⟨ha, hl⟩)]
          rfl
        · have hnot : ¬ ∀ b ∈ a :: l, p b := fun h => hl fun b hb => h b (List.mem_cons_of_mem a hb)
          rw [if_pos ha, if_neg hl, if_neg hnot]
          rfl
      · have hnot : ¬ ∀ b ∈ a :: l, p b := fun h => ha (h a List.mem_cons_self)
        rw [if_neg ha, if_neg hnot]
        rfl

section Expansion

variable {startsAt endsAt until_ : Timestamp}

theorem weeksAfter_inI64 {first last : ℤ} (hfirst : 0 ≤ first) (hwindow : first < last) {week : ℕ}
    (hend : InI64 (weeksAfter last week)) :
    InI64 (week * millisPerWeek) ∧ InI64 (weeksAfter first week) ∧
      weeksAfter first week < weeksAfter last week := by
  have hshift : 0 ≤ (week : ℤ) * millisPerWeek :=
    Int.mul_nonneg (Int.natCast_nonneg week) (by decide)
  unfold InI64 weeksAfter at *
  generalize (week : ℤ) * millisPerWeek = shift at *
  omega

theorem shifted_eq (base : Timestamp) (week : ℕ) :
    shifted base week =
      if InI64 (week * millisPerWeek) ∧ InI64 (weeksAfter base week) then
        some (weeksAfter base week)
      else none := by
  have hraw : shifted base week =
      if clampI64 (week * millisPerWeek) = week * millisPerWeek ∧
          clampI64 (weeksAfter base week) = weeksAfter base week then
        some (weeksAfter base week)
      else none := rfl
  rw [hraw]
  exact if_congr (and_congr clampI64_eq_iff clampI64_eq_iff) rfl rfl

-- `weeklyWindow` is unfolded before it is applied: its `match` on two shifts by an unknown number
-- of weeks must not be evaluated.
theorem weeklyWindow_of_shifted {week : ℕ} {first last : Timestamp}
    (hfirst : shifted startsAt week = some first) (hlast : shifted endsAt week = some last)
    (h : first < last) : weeklyWindow startsAt endsAt week = .ok (first, last) := by
  conv_lhs => fun; fun; fun; delta weeklyWindow
  simp only [hfirst, hlast, checkWindow_ok h]

theorem weeklyWindow_of_far {week : ℕ} (hlast : shifted endsAt week = none) :
    weeklyWindow startsAt endsAt week =
      .error (.invalid "ends_at" "is too far ahead to repeat weekly") := by
  conv_lhs => fun; fun; fun; delta weeklyWindow
  cases shifted startsAt week with
  | none => rfl
  | some => simp only [hlast]

theorem weeklyWindow_eq (hstart : 0 ≤ startsAt) (hwindow : startsAt < endsAt) (week : ℕ) :
    weeklyWindow startsAt endsAt week =
      if InI64 (weeksAfter endsAt week) then .ok (windowAt startsAt endsAt week)
      else .error (.invalid "ends_at" "is too far ahead to repeat weekly") := by
  by_cases hend : InI64 (weeksAfter endsAt week)
  · obtain ⟨hshift, hfirst, hlt⟩ := weeksAfter_inI64 hstart hwindow hend
    rw [if_pos hend, windowAt]
    apply weeklyWindow_of_shifted _ _ hlt
    · rw [shifted_eq, if_pos ⟨hshift, hfirst⟩]
    · rw [shifted_eq, if_pos ⟨hshift, hend⟩]
  · rw [if_neg hend]
    apply weeklyWindow_of_far
    rw [shifted_eq, if_neg fun h => hend h.2]

theorem weeklyWindows_expands
    (hstart : 0 ≤ startsAt) :
    Expands startsAt endsAt until_ (weeklyWindows startsAt endsAt until_) := by
  unfold weeklyWindows
  by_cases hwindow : startsAt < endsAt
  · rw [checkWindow_ok hwindow]
    simp only
    split
    · next hbefore => exact .before hbefore
    · next hbefore =>
      have hle : startsAt ≤ until_ := not_lt.mp hbefore
      split
      · next hmany =>
        exact .many ((lt_occurrences_iff startsAt until_ maxSlotOccurrences).mp hmany) _
      · next hfew =>
        change Expands startsAt endsAt until_
          ((List.range (occurrences startsAt until_)).mapM (weeklyWindow startsAt endsAt))
        have heq : weeklyWindow startsAt endsAt = fun (week : ℕ) =>
            if InI64 (weeksAfter endsAt week) then
              Except.ok (windowAt startsAt endsAt week)
            else .error (ValidationError.invalid "ends_at"
              "is too far ahead to repeat weekly") :=
          funext fun week => weeklyWindow_eq hstart hwindow week
        rw [heq, mapM_ite]
        have hpos : 0 < occurrences startsAt until_ :=
          (lt_occurrences_iff startsAt until_ 0).mpr (by simpa [weeksAfter] using hle)
        split
        · next hfits =>
          refine ⟨⟨_, rfl, lt_occurrences_iff startsAt until_⟩, ?_, ?_, ?_⟩
          · simpa using hpos.ne'
          · rw [List.length_map, List.length_range]
            exact not_lt.mp hfew
          · intro window hmem
            obtain ⟨week, hweek, rfl⟩ := List.mem_map.mp hmem
            exact ⟨(weeksAfter_inI64 hstart hwindow (hfits week hweek)).2.1, hfits week hweek⟩
        · next hfar =>
          push Not at hfar
          obtain ⟨week, hweek, hend⟩ := hfar
          exact .far week ((lt_occurrences_iff startsAt until_ week).mp
            (List.mem_range.mp hweek)) hend
  · have hcheck : checkWindow startsAt endsAt =
        .error (.invalid "ends_at" "must be after starts_at") :=
      if_pos (not_lt.mp hwindow)
    rw [hcheck]
    exact .inverted (not_lt.mp hwindow)

end Expansion

/-! ## The slots of a teacher -/

namespace Calendar

def SlotsApart (slots : Table AppointmentSlotId SlotRow) : Prop :=
  ∀ a b rowA rowB, a ≠ b → slots.lookup a = some rowA → slots.lookup b = some rowB →
    rowA.slot.teacher = rowB.slot.teacher →
      Appointment.overlaps rowA.slot.startsAt rowA.slot.endsAt rowB.slot.startsAt
        rowB.slot.endsAt = false

structure InsertedAll (slots slots' : Table AppointmentSlotId SlotRow)
    (rows : List AppointmentSlot) : Prop where
  new : ∀ row ∈ rows, slots.lookup row.id = none ∧ slots'.lookup row.id = some ⟨row, 0⟩
  others : ∀ id, (∀ row ∈ rows, row.id ≠ id) → slots'.lookup id = slots.lookup id

section Inserts

variable {slots slots' : Table AppointmentSlotId SlotRow} {slot : AppointmentSlot}
  {rows : List AppointmentSlot}

theorem spanTaken_eq_false (h : spanTaken slots slot = false) {id : AppointmentSlotId}
    {row : SlotRow} (hrow : slots.lookup id = some row)
    (hteacher : row.slot.teacher = slot.teacher) :
    Appointment.overlaps slot.startsAt slot.endsAt row.slot.startsAt row.slot.endsAt = false := by
  have hnone := Table.any_eq_false_iff.mp h id row hrow
  simpa [hteacher] using hnone

theorem SlotsApart.insert (h : SlotsApart slots) (hfree : spanTaken slots slot = false) :
    SlotsApart (slots.insert slot.id ⟨slot, 0⟩) := by
  intro a b rowA rowB hne hA hB hteacher
  rw [lookup_insert_eq] at hA hB
  split at hA
  · next ha =>
    cases hA
    rw [if_neg fun hb => hne (ha.trans hb.symm)] at hB
    exact spanTaken_eq_false hfree hB hteacher.symm
  · split at hB
    · cases hB
      rw [Appointment.overlaps_comm]
      exact spanTaken_eq_false hfree hA hteacher
    · exact h a b rowA rowB hne hA hB hteacher

theorem SlotsApart.insertSlots (hapart : SlotsApart slots)
    (h : insertSlots slots rows = some slots') :
    SlotsApart slots' := by
  induction rows generalizing slots with
  | nil =>
      cases h
      exact hapart
  | cons slot rest ih =>
      simp only [Calendar.insertSlots] at h
      split at h
      · cases h
      · next hfree => exact ih (hapart.insert (by simpa using hfree)) h

/-- Slots that are deleted or booked stay apart. -/
theorem SlotsApart.kept (hapart : SlotsApart slots)
    (h : ∀ id row', slots'.lookup id = some row' →
      ∃ row, slots.lookup id = some row ∧ row'.slot = row.slot) : SlotsApart slots' := by
  intro a b rowA rowB hne hA hB hteacher
  obtain ⟨oldA, hA, hsameA⟩ := h a rowA hA
  obtain ⟨oldB, hB, hsameB⟩ := h b rowB hB
  rw [hsameA, hsameB] at hteacher ⊢
  exact hapart a b oldA oldB hne hA hB hteacher

theorem insertSlots_all (hnodup : (rows.map AppointmentSlot.id).Nodup)
    (hfresh : ∀ row ∈ rows, slots.lookup row.id = none)
    (h : insertSlots slots rows = some slots') : InsertedAll slots slots' rows := by
  induction rows generalizing slots with
  | nil =>
      cases h
      exact ⟨fun row hrow => absurd hrow List.not_mem_nil, fun id _ => rfl⟩
  | cons slot rest ih =>
      obtain ⟨hout, hrest⟩ := List.nodup_cons.mp hnodup
      have hother : ∀ row ∈ rest, row.id ≠ slot.id := fun row hrow heq =>
        hout (heq ▸ List.mem_map_of_mem hrow)
      simp only [insertSlots] at h
      split at h
      · cases h
      · have htail := ih hrest (fun row hrow => by
          rw [lookup_insert_eq, if_neg (hother row hrow)]
          exact hfresh row (List.mem_cons_of_mem _ hrow)) h
        constructor
        · intro row hrow
          rcases List.mem_cons.mp hrow with rfl | hrow
          · refine ⟨hfresh _ List.mem_cons_self, ?_⟩
            rw [htail.others _ hother, AList.lookup_insert]
          · exact ⟨hfresh row (List.mem_cons_of_mem _ hrow), (htail.new row hrow).2⟩
        · intro id hid
          rw [htail.others id fun row hrow => hid row (List.mem_cons_of_mem _ hrow),
            lookup_insert_eq, if_neg (hid slot List.mem_cons_self).symm]

end Inserts

end Calendar

section Steps

variable {id : ℕ} {s s' : Db} {w : World} {n : Reply}

theorem slotsApart_wrote
    {p : Point} {cal' : Calendar} {minted' : List Uuid} (h : CalendarWrote id s w p cal' minted')
    (hapart : Calendar.SlotsApart s.calendar.slot) : Calendar.SlotsApart cal'.slot := by
  cases h with
  | quiet => exact hapart
  | published hfree hrole hnodup hfresh hinsert => exact hapart.insertSlots hinsert
  | @booked args row hfresh hrow hseat =>
      apply hapart.kept
      intro slot row' hrow'
      obtain ⟨hslot, rfl⟩ | ⟨-, hrow'⟩ := insert_cases hrow'
      · exact ⟨row, hslot ▸ hrow, rfl⟩
      · exact ⟨row', hrow', rfl⟩
  | approved | saved =>
      apply hapart.kept
      intro slot row' hrow'
      obtain ⟨row, hrow, hsame, -⟩ := Calendar.lookup_decided_slot hrow'
      exact ⟨row, hrow, hsame⟩
  | deleted hdelete =>
      rw [Calendar.deleteFree_eq hdelete]
      exact hapart.kept fun slot row' hrow' =>
        ⟨row', (Calendar.lookup_deleteSlots_slot.mp hrow').1, rfl⟩
  | withdrawn =>
      exact hapart.kept fun slot row' hrow' =>
        ⟨row', (Calendar.lookup_deleteSlots_slot.mp hrow').1, rfl⟩

def windowsOf (rows : List AppointmentSlot) : List (Timestamp × Timestamp) :=
  rows.map fun row => (row.startsAt, row.endsAt)

theorem insertClaimed_slots
    {args : PublishArgs} {windows : List (Timestamp × Timestamp)} {refusal : String}
    (hs : s.calendar.Sound s.minted)
    (h : insertClaimed id s w args windows refusal = some (s', n)) :
    s'.calendar.slot = s.calendar.slot ∨
      (Calendar.InsertedAll s.calendar.slot s'.calendar.slot (args.rows w windows) ∧
        windowsOf (args.rows w windows) = windows) := by
  unfold insertClaimed at h
  split at h
  · next hfree =>
    obtain ⟨-, hlength⟩ := hfree
    split at h
    · cases h
    · next s₁ hmint =>
      unfold Db.mintAll at hmint
      split at hmint
      · next hnew =>
        cases hmint
        split at h
        · cases h
          exact .inl rfl
        · split at h
          · cases h
            exact .inl rfl
          · next slots hinsert =>
            cases h
            right
            have hids : (args.rows w windows).map (fun row => row.id.uuid) = w.uuids := by
              unfold PublishArgs.rows
              rw [List.map_map]
              exact List.map_fst_zip hlength.le
            have hwindows : windowsOf (args.rows w windows) = windows := by
              unfold windowsOf PublishArgs.rows
              rw [List.map_map]
              exact List.map_snd_zip hlength.ge
            refine ⟨Calendar.insertSlots_all ?_ ?_ hinsert, hwindows⟩
            · apply List.Nodup.of_map AppointmentSlotId.uuid
              rw [List.map_map]
              exact (congrArg List.Nodup hids).mpr hnew.1
            · intro row hrow
              have hmem : row.id.uuid ∈ w.uuids :=
                hids ▸ List.mem_map_of_mem (f := fun row => row.id.uuid) hrow
              cases hold : s.calendar.slot.lookup row.id with
              | none => rfl
              | some old => exact absurd (hs.slots _ old hold) (hnew.2 _ hmem)
      · cases hmint
  · cases h

def PublishArgs.Unfolds (args : PublishArgs) (windows : List (Timestamp × Timestamp)) : Prop :=
  if args.repeatWeekly then
    ∃ until_, args.until_ = some until_ ∧
      weeklyWindows args.startsAt args.endsAt until_ = .ok windows
  else windows = [(args.startsAt, args.endsAt)]

/-- Where the call of a publish stands. -/
def Publishes : Request → Point → Prop
  | .publish args, p =>
      p = .calendar (.publish args) ∨
        ∃ windows, args.Unfolds windows ∧
          (p = .calendar (.weekly args windows) ∨
            ∃ refusal, p = .calendar (.insert args windows refusal))
  | _, _ => True

theorem publishes_entry (request : Request) : Publishes request (entry request) := by
  cases request <;> first | exact .inl rfl | trivial

theorem expand_unfolds
    {args : PublishArgs} {now : Timestamp} {point : CalendarPoint}
    (h : args.expand now = .ok point) :
    ∃ windows, args.Unfolds windows ∧
      (point = .weekly args windows ∨ ∃ refusal, point = .insert args windows refusal) := by
  unfold PublishArgs.expand at h
  simp only [bind, Except.bind, pure, Except.pure] at h
  split at h
  · cases h
  · split at h
    · next hweekly =>
      split at h
      · cases h
      · next until_ huntil =>
        split at h
        · cases h
        · split at h
          · cases h
          · next windows hwindows =>
            cases h
            refine ⟨windows, ?_, .inl rfl⟩
            rw [PublishArgs.Unfolds, if_pos hweekly]
            exact ⟨until_, huntil, hwindows⟩
    · next honce =>
      split at h
      · cases h
      · cases h
        refine ⟨_, ?_, .inr ⟨_, rfl⟩⟩
        rw [PublishArgs.Unfolds, if_neg honce]

theorem Publishes.goto
    {request : Request} {p q : Point} (h : Publishes request p)
    (hnext : next id s p w = some (s', .goto q)) : Publishes request q := by
  cases request with
  | publish =>
      obtain rfl | ⟨windows, hunfolds, rfl | ⟨refusal, rfl⟩⟩ := h
      · simp only [next, nextCalendar, publish, Option.some.injEq, Prod.mk.injEq] at hnext
        obtain ⟨-, hnext⟩ := hnext
        split at hnext
        · cases hnext
        · split at hnext
          · simp at hnext
          · next point hpoint =>
            obtain ⟨windows, hunfolds, hpoint⟩ := expand_unfolds hpoint
            rw [toCalendar_eq_goto] at hnext
            subst hnext
            refine .inr ⟨windows, hunfolds, ?_⟩
            rcases hpoint with rfl | ⟨refusal, rfl⟩
            · exact .inl rfl
            · exact .inr ⟨refusal, rfl⟩
      · simp only [next, nextCalendar, weekly, Option.some.injEq, Prod.mk.injEq] at hnext
        obtain ⟨-, hnext⟩ := hnext
        split at hnext
        · simp at hnext
        · rw [toCalendar_eq_goto] at hnext
          exact .inr ⟨windows, hunfolds, .inr ⟨_, hnext⟩⟩
      · simp only [next, nextCalendar, insertClaimed] at hnext
        split at hnext
        · split at hnext
          · cases hnext
          · split at hnext
            · simp at hnext
            · split at hnext <;> simp at hnext
        · cases hnext
  | _ => trivial

theorem publish_step
    {args : PublishArgs} {p : Point} (hpublishes : Publishes (.publish args) p)
    (hs : s.calendar.Sound s.minted) (hnext : next id s p w = some (s', n)) :
    s'.calendar.slot = s.calendar.slot ∨
      ∃ windows, args.Unfolds windows ∧
        Calendar.InsertedAll s.calendar.slot s'.calendar.slot (args.rows w windows) ∧
        windowsOf (args.rows w windows) = windows := by
  obtain rfl | ⟨windows, hunfolds, rfl | ⟨refusal, rfl⟩⟩ := hpublishes
  · simp only [next, nextCalendar, Option.some.injEq, Prod.mk.injEq] at hnext
    exact .inl (by rw [← hnext.1])
  · simp only [next, nextCalendar, Option.some.injEq, Prod.mk.injEq] at hnext
    exact .inl (by rw [← hnext.1])
  · exact (insertClaimed_slots hs hnext).imp_right fun hall => ⟨windows, hunfolds, hall⟩

end Steps

theorem slotsApart_step
    {c c' : Config Db Point} {m : Move Request World}
    (hapart : Calendar.SlotsApart c.shared.calendar.slot) (hstep : machine.step c m = some c') :
    Calendar.SlotsApart c'.shared.calendar.slot := by
  obtain ⟨request, rfl, rfl⟩ | ⟨id, w, p, s, n, rfl, hp, hnext, rfl⟩ | ⟨id, p, rfl, hp, rfl⟩ :=
    Machine.step_cases hstep
  · exact hapart
  · rw [Config.shared_after]
    exact slotsApart_wrote (next_calendarWrote hnext) hapart
  · exact hapart

theorem slotsApart_run
    {users : Table UserId Role} {ms : List (Move Request World)} {c : Config Db Point}
    (hrun : machine.run (start users) ms = some c) :
    Calendar.SlotsApart c.shared.calendar.slot := by
  refine Machine.run_induction (fun hapart _ hstep => slotsApart_step hapart hstep) ?_
    (Machine.guarded_true _ ms) hrun
  intro a b rowA rowB hne hA
  simp [start, Config.initial, Db.ofUsers, Calendar.empty] at hA

/-- The expansion of an admitted publish overflows nowhere and answers the windows that start by
`until_`, or one of four refusals; and in every run a weekly publish inserts all of its windows
in one step or none, and the slots of a teacher never overlap. -/
theorem publish_weekly_whole
    {users : Table UserId Role} {ms : List (Move Request World)} {c : Config Db Point}
    (hrun : machine.run (start users) ms = some c) :
    (∀ now startsAt endsAt until_, Admitted now startsAt endsAt until_ →
      weeklyWindowsI64 startsAt endsAt until_ = some (weeklyWindows startsAt endsAt until_) ∧
        Expands startsAt endsAt until_ (weeklyWindows startsAt endsAt until_)) ∧
      Calendar.SlotsApart c.shared.calendar.slot ∧
      ∀ call w args c', (requests ms)[call]? = some (.publish args) → args.repeatWeekly = true →
        machine.step c (.advance call w) = some c' →
          c'.shared.calendar.slot = c.shared.calendar.slot ∨
            ∃ until_ windows, args.until_ = some until_ ∧
              weeklyWindows args.startsAt args.endsAt until_ = .ok windows ∧
              Calendar.InsertedAll c.shared.calendar.slot c'.shared.calendar.slot
                (args.rows w windows) ∧
              windowsOf (args.rows w windows) = windows := by
  refine ⟨?_, slotsApart_run hrun, ?_⟩
  · intro now startsAt endsAt until_ hadmitted
    exact ⟨weeklyWindowsI64_eq hadmitted, weeklyWindows_expands hadmitted.startsAt_nonneg⟩
  · intro call w args c' hrequest hweekly hstep
    have hserves := Machine.serves_run (M := machine) (P := Publishes) publishes_entry
      (fun h hnext => Publishes.goto h hnext) (Config.initial_serves _ _) hrun
    rw [List.nil_append] at hserves
    obtain ⟨request, hm, -⟩ | ⟨id, w', p, s, n, hm, hp, hnext, rfl⟩ | ⟨id, p, hm, -⟩ :=
      Machine.step_cases hstep
    · cases hm
    · cases hm
      obtain ⟨request, hsame, hpublishes⟩ := hserves.calls call p hp
      rw [hrequest] at hsame
      cases hsame
      rw [Config.shared_after]
      rcases publish_step hpublishes (windows_run hrun).1.shared hnext with
        hquiet | ⟨windows, hunfolds, hall⟩
      · exact .inl hquiet
      · rw [PublishArgs.Unfolds, if_pos hweekly] at hunfolds
        obtain ⟨until_, huntil, hwindows⟩ := hunfolds
        exact .inr ⟨until_, windows, huntil, hwindows, hall⟩
    · cases hm

section Samples

open Sample

/-- A slot that lasts to the end of time, repeated once. -/
theorem weeklyWindows_refuses_the_far :
    ¬ ∀ now startsAt endsAt until_, Admitted now startsAt endsAt until_ →
      (∃ windows, weeklyWindows startsAt endsAt until_ = .ok windows ∧
        Repeats startsAt endsAt until_ windows) ∨
        weeksAfter startsAt maxSlotOccurrences ≤ until_ := by
  intro h
  have hadmitted : Admitted 60000 0 (2 ^ 63 - 1) 604800000 := by
    constructor <;> decide
  have hrefused : weeklyWindows 0 (2 ^ 63 - 1) 604800000 =
      .error (.invalid "ends_at" "is too far ahead to repeat weekly") := by
    decide
  obtain ⟨windows, hok, -⟩ | hmany := h 60000 0 (2 ^ 63 - 1) 604800000 hadmitted
  · rw [hrefused] at hok
    cases hok
  · revert hmany
    decide

def twoWeeks : List (Move Request World) :=
  [.start (.publish ⟨ayse, 1000, 2000, none, true, some 604801000⟩), tick 0, tick 0]

def insertTwoWeeks : World := ⟨0, firstUuid, [secondUuid, thirdUuid], none, 0⟩

theorem publish_weekly_whole_twoWeeks :
    Expands 1000 2000 604801000 (weeklyWindows 1000 2000 604801000) ∧
      ∃ c c', machine.run (start accounts) twoWeeks = some c ∧
        machine.step c (.advance 0 insertTwoWeeks) = some c' ∧
        Calendar.SlotsApart c.shared.calendar.slot ∧
        ∃ until_ windows, some 604801000 = some until_ ∧
          weeklyWindows 1000 2000 until_ = .ok windows ∧
          Calendar.InsertedAll c.shared.calendar.slot c'.shared.calendar.slot
            (PublishArgs.rows ⟨ayse, 1000, 2000, none, true, some 604801000⟩ insertTwoWeeks
              windows) ∧
          windowsOf (PublishArgs.rows ⟨ayse, 1000, 2000, none, true, some 604801000⟩
            insertTwoWeeks windows) = windows := by
  have hend : (machine.run (start accounts) twoWeeks).any (fun c =>
      (machine.step c (.advance 0 insertTwoWeeks)).any fun c' =>
        (c.shared.calendar.slot.lookup ⟨secondUuid⟩).isNone &&
          (c'.shared.calendar.slot.lookup ⟨secondUuid⟩).isSome) = true := by decide
  obtain ⟨c, hrun, hstep⟩ := (Option.any_eq_true _ _).mp hend
  obtain ⟨c', hstep, hgrown⟩ := (Option.any_eq_true _ _).mp hstep
  obtain ⟨hexpands, hapart, hwhole⟩ := publish_weekly_whole hrun
  refine ⟨(hexpands 60000 1000 2000 604801000 (by constructor <;> decide)).2, c, c', hrun, hstep,
    hapart, ?_⟩
  rcases hwhole 0 insertTwoWeeks _ c' rfl rfl hstep with hsame | hall
  · rw [hsame] at hgrown
    cases hrow : c.shared.calendar.slot.lookup ⟨secondUuid⟩ <;> simp [hrow] at hgrown
  · exact hall

end Samples

end Hezarfen.School
