import Hezarfen.SettingsSteps

/-!
# Listed names are in service

A name on a stored list is not retired, a retired name counts nothing, and a name that was
ever listed is listed or retired.  The last one is what a grade or a publish relies on
between its look at the list and its claim: the claim refuses a retired name, so a name it
is granted is still listed.
-/

namespace Hezarfen.SchoolSettings

open Interleaving

variable {exams : Exams.Db} {meals : Meal.Db} {slot : Meal.MenuSlot} {exam : Exams.ExamId}
  {w : World} {current settings : Settings} {bit : NameRef → Bool} {q : Point}

/-- The answer is no saved policy. -/
def Reply.Quiet (reply : Reply) : Prop := ∀ settings, reply ≠ .answer (.ok (.settings settings))

theorem Reply.quiet_goto (q : Point) : Reply.Quiet (.goto q) := by
  intro settings h
  cases h

theorem Reply.quiet_refuse (e : AppError) : Reply.Quiet (refuse e) := by
  intro settings h
  cases h

theorem Reply.quiet_map
    {α : Type} {f : α → Answer} (hf : ∀ a settings, f a ≠ .settings settings)
    (r : Except AppError α) : Reply.Quiet (.answer (r.map f)) := by
  intro settings h
  cases r with
  | error => cases h
  | ok a => exact hf a settings (Except.ok.inj (Next.answer.inj h))

theorem Reply.quiet_found
    {α : Type} {f : α → Answer} (hf : ∀ a settings, f a ≠ .settings settings)
    (r : Except AppError (Option α)) (e : AppError) :
    Reply.Quiet (.answer (r.bind fun gone => Gate.found (gone.map f) e)) := by
  intro settings h
  cases r with
  | error => cases h
  | ok gone =>
      cases gone with
      | none => cases h
      | some a => exact hf a settings (Except.ok.inj (Next.answer.inj h))

/-! ## Marks and menus -/

theorem ref_kind (s : Db) (name : String) :
    s.ref ⟨.kind, name⟩ = (s.exams.kindRef.lookup name).map fun row => ⟨row.count, row.retired⟩ :=
  rfl

theorem ref_slot (s : Db) (name : String) :
    s.ref ⟨.slot, name⟩ = (s.meals.slotRef.lookup name).map fun row => ⟨row.count, row.retired⟩ :=
  rfl

theorem claimKind_ref
    {s s' : Db} {kind : String} (hframe : s' = { s with exams := exams })
    (h : Exams.claimKind s.exams.kindRef kind = some exams.kindRef) :
    s.isRetired ⟨.kind, kind⟩ = false ∧
      s'.ref ⟨.kind, kind⟩ = some ⟨s.refCount ⟨.kind, kind⟩ + 1, false⟩ ∧
      ∀ other, other ≠ ⟨.kind, kind⟩ → s'.ref other = s.ref other := by
  subst hframe
  have hothers : ∀ row, exams.kindRef = s.exams.kindRef.insert kind row →
      ∀ other : NameRef, other ≠ ⟨.kind, kind⟩ →
        Db.ref { s with exams := exams } other = s.ref other := by
    rintro row hrefs ⟨table, name⟩ hne
    cases table with
    | kind =>
        have hname : name ≠ kind := fun heq => hne (heq ▸ rfl)
        rw [ref_kind, ref_kind, hrefs, lookup_insert_eq, if_neg hname]
    | slot => rfl
  unfold Exams.claimKind at h
  split at h
  · next hnone =>
    have hrefs := (Option.some.inj h).symm
    refine ⟨?_, ?_, hothers _ hrefs⟩
    · simp [Db.isRetired, ref_kind, hnone]
    · simp [Db.refCount, ref_kind, hnone, hrefs]
  · next row hrow =>
    split at h
    · cases h
    · next hbit =>
      rw [Bool.not_eq_true] at hbit
      have hrefs := (Option.some.inj h).symm
      refine ⟨?_, ?_, hothers _ hrefs⟩
      · simp [Db.isRetired, ref_kind, hrow, hbit]
      · simp [Db.refCount, ref_kind, hrow, hrefs, hbit]

theorem claimSlotRef_ref
    {s s' : Db} {slot : String} (hframe : s' = { s with meals := meals })
    (h : Meal.claimSlotRef s.meals.slotRef slot = some meals.slotRef) :
    s.isRetired ⟨.slot, slot⟩ = false ∧
      s'.ref ⟨.slot, slot⟩ = some ⟨s.refCount ⟨.slot, slot⟩ + 1, false⟩ ∧
      ∀ other, other ≠ ⟨.slot, slot⟩ → s'.ref other = s.ref other := by
  subst hframe
  have hothers : ∀ row, meals.slotRef = s.meals.slotRef.insert slot row →
      ∀ other : NameRef, other ≠ ⟨.slot, slot⟩ →
        Db.ref { s with meals := meals } other = s.ref other := by
    rintro row hrefs ⟨table, name⟩ hne
    cases table with
    | kind => rfl
    | slot =>
        have hname : name ≠ slot := fun heq => hne (heq ▸ rfl)
        rw [ref_slot, ref_slot, hrefs, lookup_insert_eq, if_neg hname]
  unfold Meal.claimSlotRef at h
  split at h
  · next hnone =>
    have hrefs := (Option.some.inj h).symm
    refine ⟨?_, ?_, hothers _ hrefs⟩
    · simp [Db.isRetired, ref_slot, hnone]
    · simp [Db.refCount, ref_slot, hnone, hrefs]
  · next row hrow =>
    split at h
    · cases h
    · next hbit =>
      rw [Bool.not_eq_true] at hbit
      have hrefs := (Option.some.inj h).symm
      refine ⟨?_, ?_, hothers _ hrefs⟩
      · simp [Db.isRetired, ref_slot, hrow, hbit]
      · simp [Db.refCount, ref_slot, hrow, hrefs, hbit]

section Grade

variable {s s' : Exams.Db} {result : Exams.ExamResult} {kind : String}
  {r : Except AppError Exams.ExamResult}

theorem putResult_eq_ok
    {answer : Exams.ExamResult} (h : s.putResult result = .ok (answer, s')) :
    s' = { s with examResult := s.examResult.insert result.id result } := by
  unfold Exams.Db.putResult at h
  split at h
  · cases h
    rfl
  · cases h

inductive Graded (s : Exams.Db) (result : Exams.ExamResult) (kind : String) :
    Exams.Db → Prop
  | refused : Graded s result kind s
  | regraded {s' : Exams.Db} {before : Exams.ExamResult}
      (hbefore : s.examResult.lookup result.id = some before) (hkinds : s'.kindRef = s.kindRef)
      (hexams : s'.exam = s.exam)
      (hresults : s'.examResult = s.examResult.insert result.id result) :
      Graded s result kind s'
  | graded {s' : Exams.Db} {row : Exams.ExamRow}
      (hrow : s.exam.lookup result.exam = some row) (hopen : row.exam.draft = false)
      (hnew : s.examResult.lookup result.id = none)
      (hclaim : Exams.claimKind s.kindRef kind = some s'.kindRef)
      (hexams : s'.exam = s.exam.insert result.exam { row with resultCount := row.resultCount + 1 })
      (hresults : s'.examResult = s.examResult.insert result.id result) :
      Graded s result kind s'

theorem graded_of_tx (h : txWithRetry (Exams.gradeTx result kind) s = (r, s')) :
    Graded s result kind s' := by
  rcases txWithRetry_cases h with ⟨answer, -, hok⟩ | ⟨-, -, -, rfl⟩
  swap
  · exact .refused
  unfold Exams.gradeTx at hok
  split at hok
  · cases hok
  · next row hrow =>
    split at hok
    · cases hok
    · next hopen =>
      split at hok
      · next before hbefore =>
        obtain rfl := putResult_eq_ok hok
        exact .regraded hbefore rfl rfl rfl
      · next hnew =>
        split at hok
        · cases hok
        · next refs hclaim =>
          obtain rfl := putResult_eq_ok hok
          exact .graded hrow (by simpa using hopen) hnew hclaim rfl rfl

end Grade

section Menu

variable {s s' : Meal.Db}

theorem lookup_releaseSlotRef (refs : Table String Meal.SlotRef) (slot name : String) :
    (Meal.releaseSlotRef refs slot).lookup name =
      if name = slot then
        (refs.lookup name).map fun row => { row with count := max (row.count - 1) 0 }
      else refs.lookup name := by
  unfold Meal.releaseSlotRef
  by_cases hname : name = slot
  · subst hname
    rw [if_pos rfl]
    split
    · next hnone => rw [hnone, Option.map_none]
    · next row hrow => rw [hrow, AList.lookup_insert, Option.map_some]
  · rw [if_neg hname]
    split
    · rfl
    · rw [lookup_insert_eq, if_neg hname]

inductive Published (s : Meal.Db) (date : Meal.MenuDate) (slot : Meal.MenuSlot) : Meal.Db → Prop
  | refused : Published s date slot s
  | published {s' : Meal.Db} {row : Meal.MenuRow} (hslot : row.menu.slot = slot)
      (hnew : s.menu.lookup (.forSlot date slot) = none)
      (hclaim : Meal.claimSlotRef s.slotRef slot.asStr = some s'.slotRef)
      (hmenus : s'.menu = s.menu.insert (.forSlot date slot) row) : Published s date slot s'

theorem published_of_tx
    {date : Meal.MenuDate} {capacity : Option ℤ} {createdBy : UserId} {now : Timestamp}
    {r : Except AppError Meal.Menu}
    (h : txWithRetry (Meal.createMenu date slot capacity createdBy now) s = (r, s')) :
    Published s date slot s' := by
  rcases txWithRetry_cases h with ⟨answer, -, hok⟩ | ⟨-, -, -, rfl⟩
  swap
  · exact .refused
  unfold Meal.createMenu at hok
  split at hok
  · cases hok
  · next hfree =>
    split at hok
    · cases hok
    · next refs hclaim =>
      cases hok
      exact .published rfl (Option.not_isSome_iff_eq_none.mp hfree) hclaim rfl

end Menu

/-! ## A transaction on the exams or on the menus -/

structure Stirred (s s' : Db) : Prop where
  frame : ∃ exams meals, s' = { s with exams := exams, meals := meals }
  bits : s'.isRetired = s.isRetired
  held : ∀ ref, s.isHeld ref = true → s'.refCount ref = s.refCount ref
  counted : ∀ ref, 0 ≤ s.refCount ref → 0 ≤ s'.refCount ref
  idle : ∀ ref, s.isRetired ref = true → s.refCount ref = 0 → s'.refCount ref = 0
  exam : ∀ id row, s.exams.exam.lookup id = some row →
    ∃ row', s'.exams.exam.lookup id = some row' ∧ row'.exam = row.exam

section Stir

variable {s s' : Db} {ref : NameRef}

theorem Stirred.of_move
    (hframe : s' = { s with exams := exams, meals := meals }) (hfree : s.isHeld ref = false)
    (hothers : ∀ other, other ≠ ref → s'.ref other = s.ref other)
    (hbit : s'.isRetired ref = s.isRetired ref)
    (hcounted : 0 ≤ s.refCount ref → 0 ≤ s'.refCount ref)
    (hidle : s.isRetired ref = true → s.refCount ref = 0 → s'.refCount ref = 0)
    (hexam : ∀ id row, s.exams.exam.lookup id = some row →
      ∃ row', s'.exams.exam.lookup id = some row' ∧ row'.exam = row.exam) : Stirred s s' := by
  have hcount : ∀ other, other ≠ ref → s'.refCount other = s.refCount other := by
    intro other hne
    unfold Db.refCount
    rw [hothers other hne]
  refine ⟨⟨exams, meals, hframe⟩, ?_, ?_, ?_, ?_, hexam⟩
  · funext other
    by_cases hne : other = ref
    · rw [hne, hbit]
    · unfold Db.isRetired
      rw [hothers other hne]
  · intro other hheld
    refine hcount other ?_
    rintro rfl
    rw [hfree] at hheld
    cases hheld
  · intro other hother
    by_cases hne : other = ref
    · subst hne
      exact hcounted hother
    · rw [hcount other hne]
      exact hother
  · intro other hretired hother
    by_cases hne : other = ref
    · subst hne
      exact hidle hretired hother
    · rw [hcount other hne]
      exact hother

theorem Stirred.refl (s : Db) : Stirred s s :=
  ⟨⟨s.exams, s.meals, rfl⟩, rfl, fun _ _ => rfl, fun _ h => h, fun _ _ h => h,
    fun _ row hrow => ⟨row, hrow, rfl⟩⟩

/-- Where the counters stay, nothing is stirred. -/
theorem Stirred.of_refs
    (hframe : s' = { s with exams := exams, meals := meals }) (hrefs : s'.ref = s.ref)
    (hexam : ∀ id row, s.exams.exam.lookup id = some row →
      ∃ row', s'.exams.exam.lookup id = some row' ∧ row'.exam = row.exam) : Stirred s s' := by
  have hcount : s'.refCount = s.refCount := by
    unfold Db.refCount
    rw [hrefs]
  have hbits : s'.isRetired = s.isRetired := by
    unfold Db.isRetired
    rw [hrefs]
  refine ⟨⟨exams, meals, hframe⟩, hbits, ?_, ?_, ?_, hexam⟩
  · exact fun ref _ => congrFun hcount ref
  · exact fun ref h => (congrFun hcount ref).symm ▸ h
  · exact fun ref _ h => (congrFun hcount ref).symm ▸ h

theorem ref_eq_of_tables
    (hkinds : s'.exams.kindRef = s.exams.kindRef) (hslots : s'.meals.slotRef = s.meals.slotRef) :
    s'.ref = s.ref := by
  funext ⟨table, name⟩
  cases table
  · rw [ref_kind, ref_kind, hkinds]
  · rw [ref_slot, ref_slot, hslots]

/-- A claim moves a counter that is in service. -/
theorem Stirred.of_claim
    (hframe : s' = { s with exams := exams, meals := meals }) (hfree : s.isHeld ref = false)
    (hothers : ∀ other, other ≠ ref → s'.ref other = s.ref other) (hbit : s.isRetired ref = false)
    (hclaimed : s'.ref ref = some ⟨s.refCount ref + 1, false⟩)
    (hexam : ∀ id row, s.exams.exam.lookup id = some row →
      ∃ row', s'.exams.exam.lookup id = some row' ∧ row'.exam = row.exam) : Stirred s s' := by
  have hcount : s'.refCount ref = s.refCount ref + 1 := by
    unfold Db.refCount at hclaimed ⊢
    rw [hclaimed]
    rfl
  refine Stirred.of_move hframe hfree hothers ?_ ?_ ?_ hexam
  · rw [hbit]
    unfold Db.isRetired
    rw [hclaimed]
    rfl
  · intro hcounted
    rw [hcount]
    omega
  · intro hretired
    rw [hbit] at hretired
    cases hretired

/-- A release stops at zero and keeps the bit. -/
theorem Stirred.of_release
    (hframe : s' = { s with exams := exams, meals := meals }) (hfree : s.isHeld ref = false)
    (hothers : ∀ other, other ≠ ref → s'.ref other = s.ref other) {n : ℕ}
    (hreleased : s'.ref ref = (s.ref ref).map fun row => ⟨max (row.count - n) 0, row.retired⟩)
    (hexam : ∀ id row, s.exams.exam.lookup id = some row →
      ∃ row', s'.exams.exam.lookup id = some row' ∧ row'.exam = row.exam) : Stirred s s' := by
  have hcount : s'.refCount ref = max (s.refCount ref - n) 0 := by
    unfold Db.refCount
    rw [hreleased]
    cases s.ref ref with
    | none => simp
    | some => rfl
  refine Stirred.of_move hframe hfree hothers ?_ ?_ ?_ hexam
  · unfold Db.isRetired
    rw [hreleased]
    cases s.ref ref <;> rfl
  · intro _
    rw [hcount]
    exact le_max_right _ _
  · intro _ hidle
    rw [hcount, hidle]
    omega

theorem gradeTx_stirred
    {result : Exams.ExamResult} {kind : String} {reply : Reply}
    (h : gradeTx s result kind = some (s', reply)) :
    Stirred s s' ∧ ∃ answer, reply = .answer answer ∧ Reply.Quiet (.answer answer) := by
  unfold gradeTx at h
  split at h
  · cases h
  · next hfree =>
    cases htx : txWithRetry (Exams.gradeTx result kind) s.exams with
    | mk r =>
        simp only [htx, Option.some.injEq, Prod.mk.injEq] at h
        obtain ⟨rfl, rfl⟩ := h
        refine ⟨?_, _, rfl, Reply.quiet_map (fun _ _ h => Answer.noConfusion h) r⟩
        cases graded_of_tx htx with
        | refused => exact Stirred.refl s
        | regraded hbefore hkinds hexams =>
            refine Stirred.of_refs rfl (ref_eq_of_tables hkinds rfl) fun id row hrow => ?_
            exact ⟨row, by rw [hexams, hrow], rfl⟩
        | @graded _ row hrow hopen hnew hclaim hexams hresults =>
            obtain ⟨hbit, hclaimed, hothers⟩ := claimKind_ref (s := s) rfl hclaim
            have hclaims : s.claimsKind result = true := by
              simp [Db.claimsKind, hrow, hopen, hnew]
            rw [hclaims, Bool.true_and, Bool.not_eq_true] at hfree
            refine Stirred.of_claim rfl hfree hothers hbit hclaimed fun id row' hrow' => ?_
            rw [hexams, lookup_insert_eq]
            by_cases hid : id = result.exam
            · subst hid
              rw [hrow] at hrow'
              cases hrow'
              exact ⟨_, if_pos rfl, rfl⟩
            · exact ⟨row', by rw [if_neg hid, hrow'], rfl⟩

theorem removeTx_stirred
    {user : UserId} {kind : String} {reply : Reply}
    (h : removeTx s exam user kind = some (s', reply)) :
    Stirred s s' ∧ ∃ answer, reply = .answer answer ∧ Reply.Quiet (.answer answer) := by
  unfold removeTx at h
  split at h
  · cases h
  · next hfree =>
    cases htx : txWithRetry (Exams.removeTx exam user kind) s.exams with
    | mk r exams =>
        simp only [htx, Option.some.injEq, Prod.mk.injEq] at h
        obtain ⟨rfl, rfl⟩ := h
        refine ⟨?_, _, rfl, Reply.quiet_found (fun _ _ h => Answer.noConfusion h) r _⟩
        rcases txWithRetry_cases htx with ⟨answer, -, hok⟩ | ⟨-, -, -, rfl⟩
        swap
        · exact Stirred.refl s
        unfold Exams.removeTx at hok
        split at hok
        · cases hok
          exact Stirred.refl s
        · next first rest hmarks =>
          cases hok
          simp only [hmarks, List.isEmpty_cons, Bool.not_false, Bool.true_and,
            Bool.not_eq_true] at hfree
          refine Stirred.of_release (n := (s.exams.marksOf exam user).length) rfl hfree
            ?_ ?_ ?_
          · rintro ⟨table, name⟩ hne
            cases table with
            | kind =>
                have hname : name ≠ kind := fun heq => hne (heq ▸ rfl)
                simp [ref_kind, Exams.Db.dropMarks, lookup_update, hname]
            | slot => rfl
          · simp [ref_kind, Exams.Db.dropMarks, lookup_update, Exams.KindRef.release,
              Function.comp_def]
          · intro id row hrow
            refine ⟨if id = exam then row.release (s.exams.marksOf exam user).length else row,
              by simp [Exams.Db.dropMarks, lookup_update, hrow], ?_⟩
            split <;> rfl

theorem menuTx_stirred
    {args : MenuArgs} {reply : Reply} (h : menuTx s w args slot = some (s', reply)) :
    Stirred s s' ∧ ∃ answer, reply = .answer answer ∧ Reply.Quiet (.answer answer) := by
  unfold menuTx at h
  split at h
  · cases h
  · next hfree =>
    cases htx : txWithRetry (Meal.createMenu args.date slot args.capacity args.createdBy w.now)
        s.meals with
    | mk r =>
        simp only [htx, Option.some.injEq, Prod.mk.injEq] at h
        obtain ⟨rfl, rfl⟩ := h
        refine ⟨?_, _, rfl, Reply.quiet_map (fun _ _ h => Answer.noConfusion h) r⟩
        cases published_of_tx htx with
        | refused => exact Stirred.refl s
        | published hslot hnew hclaim =>
            obtain ⟨hbit, hclaimed, hothers⟩ := claimSlotRef_ref (s := s) rfl hclaim
            rw [hnew, Option.isNone_none, Bool.true_and, Bool.not_eq_true] at hfree
            exact Stirred.of_claim rfl hfree hothers hbit hclaimed fun id row hrow =>
              ⟨row, hrow, rfl⟩

theorem menuDelete_stirred
    {menu : Meal.Menu} {reply : Reply} (h : menuDelete s menu = some (s', reply)) :
    Stirred s s' ∧ ∃ answer, reply = .answer answer ∧ Reply.Quiet (.answer answer) := by
  unfold menuDelete at h
  split at h
  · cases h
  · next hfree =>
    cases htx : txWithRetry (Meal.deleteMenu menu) s.meals with
    | mk r =>
        simp only [htx, Option.some.injEq, Prod.mk.injEq] at h
        obtain ⟨rfl, rfl⟩ := h
        refine ⟨?_, _, rfl, Reply.quiet_found (fun _ _ h => Answer.noConfusion h) r _⟩
        obtain rfl | ⟨row, hrow, hempty, rfl⟩ := Meal.deleteMenu_cases htx
        · exact Stirred.refl s
        · simp only [hrow, hempty, Option.any_some, decide_true, Bool.true_and,
            Bool.not_eq_true] at hfree
          refine Stirred.of_release (n := 1) rfl hfree ?_ ?_ fun id row hrow => ⟨row, hrow, rfl⟩
          · rintro ⟨table, name⟩ hne
            cases table with
            | kind => rfl
            | slot =>
                have hname : name ≠ menu.slot.asStr := fun heq => hne (heq ▸ rfl)
                rw [ref_slot, ref_slot, lookup_releaseSlotRef, if_neg hname]
          · rw [ref_slot, ref_slot, lookup_releaseSlotRef, if_pos rfl, Option.map_map,
              Option.map_map]
            rfl

end Stir

/-! ## What a turn of the PATCH holds -/

def Db.Known (loc : Locale) (s : Db) (ref : NameRef) : Prop :=
  ref.name ∈ (s.load loc).listed ref.table ∨ s.isRetired ref = true

/-- The transaction of the call behind the switches `done`. -/
structure Edit.Judged (loc : Locale) (s : Db) (id : ℕ) (edit : Edit) (done : List Switch) :
    Prop where
  read : s.Read loc edit.current
  merged : merge loc edit.current edit.patch = .ok edit.settings
  locked : ∀ switch ∈ done, s.locks.lookup switch.ref = some id
  idle : ∀ switch ∈ done, switch.off = true → s.refCount switch.ref = 0

def Point.Stands (loc : Locale) (id : ℕ) (p : Point) (s : Db) : Prop :=
  match p with
  | .load _ _ => True
  | .switch edit rest =>
      ∃ done, switches edit.current edit.settings = done ++ rest ∧ edit.Judged loc s id done
  | .save edit => edit.Judged loc s id (switches edit.current edit.settings)
  | .write edit seen =>
      edit.Judged loc s id (switches edit.current edit.settings) ∧ ∃ version, s.Seen seen version
  | .gradeExam _ => True
  | .gradeKinds args exam =>
      ∃ row, s.exams.exam.lookup args.exam = some row ∧ row.exam = exam
  | .gradeSeq args exam =>
      (∃ row, s.exams.exam.lookup args.exam = some row ∧ row.exam = exam) ∧
        s.Known loc ⟨.kind, exam.kind⟩
  | .gradeTx result kind =>
      (∃ row, s.exams.exam.lookup result.exam = some row ∧ row.exam.kind = kind) ∧
        s.Known loc ⟨.kind, kind⟩
  | .removeExam _ _ => True
  | .removeTx _ _ _ => True
  | .menuSlots _ => True
  | .menuTx _ slot => s.Known loc ⟨.slot, slot.asStr⟩
  | .menuRead _ => True
  | .menuDelete _ => True

/-- What a step of the call `id` leaves to the other calls. -/
structure Kept (loc : Locale) (id : ℕ) (s s' : Db) : Prop where
  locked : ∀ ref id', id' ≠ id → s.locks.lookup ref = some id' →
    s'.locks.lookup ref = some id' ∧ s'.refCount ref = s.refCount ref
  known : ∀ ref, s.Known loc ref → s'.Known loc ref
  exam : ∀ id row, s.exams.exam.lookup id = some row →
    ∃ row', s'.exams.exam.lookup id = some row' ∧ row'.exam = row.exam
  read : ∀ current, s.Read loc current → s'.Read loc current
  seen : ∀ seen version, s.Seen seen version → s'.Seen seen version

section Kept

variable {loc : Locale} {id id' : ℕ} {s s' : Db} {edit : Edit} {done : List Switch} {p : Point}

theorem Edit.Judged.kept
    (h : edit.Judged loc s id' done) (hkept : Kept loc id s s') (hne : id' ≠ id) :
    edit.Judged loc s' id' done := by
  refine ⟨hkept.read _ h.read, h.merged, ?_, ?_⟩
  · intro switch hswitch
    exact (hkept.locked _ _ hne (h.locked switch hswitch)).1
  · intro switch hswitch hoff
    rw [(hkept.locked _ _ hne (h.locked switch hswitch)).2]
    exact h.idle switch hswitch hoff

theorem Kept.exam_eq
    {P : Exams.Exam → Prop} (hkept : Kept loc id s s')
    (h : ∃ row, s.exams.exam.lookup exam = some row ∧ P row.exam) :
    ∃ row, s'.exams.exam.lookup exam = some row ∧ P row.exam := by
  obtain ⟨row, hrow, hP⟩ := h
  obtain ⟨row', hrow', heq⟩ := hkept.exam _ _ hrow
  exact ⟨row', hrow', heq ▸ hP⟩

theorem Point.Stands.kept
    (h : p.Stands loc id' s) (hkept : Kept loc id s s') (hne : id' ≠ id) :
    p.Stands loc id' s' := by
  cases p with
  | switch =>
      obtain ⟨done, hswitches, hjudged⟩ := h
      exact ⟨done, hswitches, hjudged.kept hkept hne⟩
  | save => exact Edit.Judged.kept h hkept hne
  | write edit seen =>
      obtain ⟨hjudged, version, hseen⟩ := h
      exact ⟨hjudged.kept hkept hne, version, hkept.seen _ _ hseen⟩
  | gradeKinds args exam => exact hkept.exam_eq (P := fun row => row = exam) h
  | gradeSeq args exam => exact ⟨hkept.exam_eq (P := fun row => row = exam) h.1, hkept.known _ h.2⟩
  | gradeTx result kind =>
      exact ⟨hkept.exam_eq (P := fun row => row.kind = kind) h.1, hkept.known _ h.2⟩
  | menuTx => exact hkept.known _ h
  | load _ _ | gradeExam _ | removeExam _ _ | removeTx _ _ _ | menuSlots _ | menuRead _
    | menuDelete _ => trivial

theorem Kept.refl (loc : Locale) (id : ℕ) (s : Db) : Kept loc id s s :=
  ⟨fun _ _ _ h => ⟨h, rfl⟩, fun _ h => h, fun _ row h => ⟨row, h, rfl⟩, fun _ h => h,
    fun _ _ h => h⟩

/-- A transaction on the exams or on the menus. -/
theorem Stirred.kept (h : Stirred s s') : Kept loc id s s' := by
  obtain ⟨exams, meals, rfl⟩ := h.frame
  refine ⟨?_, ?_, h.exam, fun current hread => ⟨hread.wellFormed, hread.defaults, hread.reloaded⟩,
    fun seen version hseen => ⟨hseen.le, hseen.statuses, hseen.fresh⟩⟩
  · intro ref id' _ hlock
    have hheld : s.isHeld ref = true := by
      unfold Db.isHeld
      rw [hlock]
      rfl
    exact ⟨hlock, h.held ref hheld⟩
  · intro ref hknown
    unfold Db.Known at hknown ⊢
    rw [h.bits]
    exact hknown

theorem Stirred.sound (hsound : Sound loc s) (h : Stirred s s') : Sound loc s' := by
  obtain ⟨exams, meals, rfl⟩ := h.frame
  refine ⟨?_, ?_, fun ref => h.counted ref (hsound.counted ref), hsound.statusVersions,
    hsound.tagVersions, hsound.core, hsound.wellFormed, hsound.landed⟩
  · intro ref hlisted
    rw [h.bits]
    exact hsound.inService ref hlisted
  · intro ref hretired
    rw [h.bits] at hretired
    exact h.idle ref hretired (hsound.idle ref hretired)

theorem Kept.of_locks
    {locks : Table NameRef ℕ}
    (hlocks : ∀ ref id', id' ≠ id → s.locks.lookup ref = some id' → locks.lookup ref = some id') :
    Kept loc id s { s with locks := locks } :=
  ⟨fun ref id' hne h => ⟨hlocks ref id' hne h, rfl⟩, fun _ h => h, fun _ row h => ⟨row, h, rfl⟩,
    fun _ h => ⟨h.wellFormed, h.defaults, h.reloaded⟩, fun _ _ h => ⟨h.le, h.statuses, h.fresh⟩⟩

theorem Sound.of_locks (h : Sound loc s) (locks : Table NameRef ℕ) :
    Sound loc { s with locks := locks } :=
  ⟨h.inService, h.idle, h.counted, h.statusVersions, h.tagVersions, h.core, h.wellFormed, h.landed⟩

theorem lookup_release_ne {ref : NameRef} (hne : id' ≠ id) (hlock : s.locks.lookup ref = some id') :
    (s.release id).locks.lookup ref = some id' := by
  unfold Db.release
  rw [lookup_deleteWhere, hlock]
  simp [Option.filter, hne]

theorem Kept.release (loc : Locale) (id : ℕ) (s : Db) : Kept loc id s (s.release id) :=
  Kept.of_locks fun _ _ hne hlock => lookup_release_ne hne hlock

theorem Kept.lock
    {ref : NameRef} (hfree : s.heldByOther id ref = false) :
    Kept loc id s { s with locks := s.locks.insert ref id } := by
  refine Kept.of_locks fun other id' hne hlock => ?_
  rw [lookup_insert_eq]
  split
  · next heq =>
    subst heq
    unfold Db.heldByOther at hfree
    rw [hlock] at hfree
    simp [hne] at hfree
  · exact hlock

end Kept

/-! ## The commit -/

section Commit

variable {loc : Locale} {id : ℕ} {s s' : Db} {edit : Edit} {seen : Snapshot} {version : ℕ}

/-- The switches write the two tables of counters only. -/
theorem flips_frame (s : Db) (switches : List Switch) :
    ∃ kinds slots, switches.foldl Db.flip s =
      { s with
        exams := { s.exams with kindRef := kinds }
        meals := { s.meals with slotRef := slots } } := by
  induction switches generalizing s with
  | nil => exact ⟨s.exams.kindRef, s.meals.slotRef, rfl⟩
  | cons switch switches ih =>
      obtain ⟨kinds, slots, hrest⟩ := ih (s.flip switch)
      rw [List.foldl_cons, hrest]
      unfold Db.flip Db.setRef
      split
      · exact ⟨kinds, slots, rfl⟩
      · exact ⟨kinds, slots, rfl⟩

theorem merge_maxFileBytes
    {patch : SettingsPatch} (h : merge loc current patch = .ok settings) :
    settings.maxFileBytes ≠ none := by
  obtain ⟨rfl, -⟩ := merge_eq_ok h
  exact Option.some_ne_none _

structure Committed (loc : Locale) (id : ℕ) (s : Db) (edit : Edit) (s' : Db) : Prop where
  current : edit.current = s.load loc
  load : s'.load loc = edit.settings.reloaded loc
  bits : s'.isRetired = bitAfter edit.current edit.settings s.isRetired
  count : s'.refCount = s.refCount
  row : s'.settings = some edit.settings.toSettingsRow
  saves : s'.saves = s.saves + 1
  exam : s'.exams.exam = s.exams.exam
  examResult : s'.exams.examResult = s.exams.examResult
  menu : s'.meals.menu = s.meals.menu
  statusVersions : ∀ status v, s'.settingsAttendanceStatus.lookup status = some v → v = s'.saves
  tagVersions : ∀ tag v, s'.settingsDietaryTag.lookup tag = some v → v = s'.saves
  statuses : s'.settingsAttendanceStatus.keys.Perm edit.settings.attendanceStatuses
  others : ∀ ref id', id' ≠ id → s.locks.lookup ref = some id' → s'.locks.lookup ref = some id'

theorem write_cases
    {reply : Reply} (hsound : Sound loc s)
    (hjudged : edit.Judged loc s id (switches edit.current edit.settings))
    (hseen : s.Seen seen version) (h : write loc s id edit seen = (s', reply)) :
    (Committed loc id s edit s' ∧
      reply = .answer (.ok (.settings (edit.settings.reloaded loc)))) ∨
    (s' = s.release id ∧
      ((∃ e, reply = refuse e) ∨ reply = .goto (.load edit.patch (edit.round + 1)))) := by
  unfold write at h
  split at h
  · unfold stale at h
    cases h
    refine .inr ⟨rfl, ?_⟩
    split
    · exact .inr rfl
    · exact .inl ⟨_, rfl⟩
  · cases h
    exact .inr ⟨rfl, .inl ⟨_, rfl⟩⟩
  · next saved hsave =>
    cases h
    refine .inl ⟨?_, rfl⟩
    obtain ⟨hcurrent, hload, hrow, hsaves, hstatusVersions, htagVersions, hkeys, hexams, hmeals,
      hlocks⟩ := hsound.saved hjudged.read hseen (merge_wellFormed hjudged.merged) hsave
    have hrefs : saved.ref = s.ref := by
      unfold Db.ref
      rw [hexams, hmeals]
    have hidle : ∀ sw ∈ switches edit.current edit.settings, sw.off = true →
        saved.refCount sw.ref = 0 := by
      intro sw hsw hoff
      have hzero := hjudged.idle sw hsw hoff
      unfold Db.refCount at hzero ⊢
      rw [hrefs, hzero]
    have hbits := isRetired_switches hidle
    have hcount := funext (refCount_flips saved (switches edit.current edit.settings))
    obtain ⟨kinds, slots, hflips⟩ := flips_frame saved (switches edit.current edit.settings)
    rw [hflips] at hbits hcount ⊢
    refine ⟨hcurrent, hload, ?_, ?_, hrow, hsaves, ?_, ?_, ?_, hstatusVersions, htagVersions,
      hkeys,
      ?_⟩
    · have hold : saved.isRetired = s.isRetired := by
        unfold Db.isRetired
        rw [hrefs]
      rw [← hold]
      exact hbits
    · have hold : saved.refCount = s.refCount := by
        unfold Db.refCount
        rw [hrefs]
      rw [← hold]
      exact hcount
    · change saved.exams.exam = s.exams.exam
      rw [hexams]
    · change saved.exams.examResult = s.exams.examResult
      rw [hexams]
    · change saved.meals.menu = s.meals.menu
      rw [hmeals]
    · intro ref id' hne hlock
      refine lookup_release_ne hne ?_
      change saved.locks.lookup ref = some id'
      rw [hlocks, hlock]

theorem bitAfter_of_listed
    {ref : NameRef} (h : ref.name ∈ current.listed ref.table → bit ref = false)
    (hlisted : ref.name ∈ settings.listed ref.table) :
    bitAfter current settings bit ref = false := by
  unfold bitAfter
  rw [if_neg fun hdropped => (mem_missing.mp hdropped).2 hlisted]
  split
  · rfl
  · next hold =>
    refine h ?_
    by_contra habsent
    exact hold (mem_missing.mpr ⟨hlisted, habsent⟩)

theorem bitAfter_of_dropped
    {ref : NameRef} (h : ref.name ∈ current.listed ref.table ∨ bit ref = true)
    (hdropped : ref.name ∉ settings.listed ref.table) :
    bitAfter current settings bit ref = true := by
  unfold bitAfter
  split
  · rfl
  · next hkept =>
    rw [if_neg fun hadded => hdropped (mem_missing.mp hadded).1]
    refine h.resolve_left fun hlisted => ?_
    exact hkept (mem_missing.mpr ⟨hlisted, hdropped⟩)

/-- Only a dropped name gets its bit set. -/
theorem bitAfter_cases
    {ref : NameRef} (h : bitAfter current settings bit ref = true) :
    ref.name ∈ missing (current.listed ref.table) (settings.listed ref.table) ∨ bit ref = true := by
  unfold bitAfter at h
  split at h
  · next hdropped => exact .inl hdropped
  · split at h
    · cases h
    · exact .inr h

theorem listed_reloaded (settings : Settings) (table : RefTable) :
    (settings.reloaded loc).listed table = settings.listed table := by
  cases table <;> rfl

theorem Committed.sound
    (hsound : Sound loc s) (hjudged : edit.Judged loc s id (switches edit.current edit.settings))
    (h : Committed loc id s edit s') : Sound loc s' := by
  have hsettings := merge_wellFormed hjudged.merged
  refine ⟨?_, ?_, ?_, h.statusVersions, h.tagVersions, ?_, ?_, ?_⟩
  · intro ref hlisted
    rw [h.load, listed_reloaded] at hlisted
    rw [h.bits]
    refine bitAfter_of_listed (fun hold => hsound.inService ref ?_) hlisted
    rw [← h.current]
    exact hold
  · intro ref hretired
    rw [h.bits] at hretired
    rw [h.count]
    rcases bitAfter_cases hretired with hdropped | hbit
    · exact hjudged.idle ⟨ref, true⟩ (mem_switches.mpr hdropped) rfl
    · exact hsound.idle ref hbit
  · intro ref
    rw [h.count]
    exact hsound.counted ref
  · intro _ status hstatus
    have hmem := h.statuses.mem_iff.mpr (hsettings.core status hstatus)
    rw [← AList.mem_keys, ← AList.lookup_isSome, Option.isSome_iff_exists] at hmem
    obtain ⟨v, hv⟩ := hmem
    rw [hv, h.statusVersions status v hv]
  · rw [h.load]
    exact reloaded_wellFormed hsettings
  · exact fun _ => ⟨_, h.row, merge_maxFileBytes hjudged.merged⟩

theorem Committed.kept
    (hjudged : edit.Judged loc s id (switches edit.current edit.settings))
    (h : Committed loc id s edit s') : Kept loc id s s' := by
  refine ⟨?_, ?_, ?_, ?_, ?_⟩
  · intro ref id' hne hlock
    exact ⟨h.others ref id' hne hlock, congrFun h.count ref⟩
  · intro ref hknown
    unfold Db.Known at hknown ⊢
    rw [h.load, listed_reloaded, h.bits]
    rw [← h.current] at hknown
    by_cases hlisted : ref.name ∈ edit.settings.listed ref.table
    · exact .inl hlisted
    · exact .inr (bitAfter_of_dropped hknown hlisted)
  · intro exam row hrow
    exact ⟨row, by rw [h.exam, hrow], rfl⟩
  · intro current hread
    have hset := merge_maxFileBytes hjudged.merged
    refine ⟨hread.wellFormed, fun hnone => ?_, fun row hrow => ?_⟩
    · rw [h.row] at hnone
      cases hnone
    · rw [h.row] at hrow
      cases hrow
      cases hold : s.settings with
      | none => exact .inr ⟨hread.defaults hold, hset⟩
      | some row =>
          rcases hread.reloaded row hold with hcanonical | ⟨hdefaults, -⟩
          · exact .inl hcanonical
          · exact .inr ⟨hdefaults, hset⟩
  · intro seen version hseen
    have hle := hseen.le
    refine ⟨?_, hseen.statuses, ?_⟩
    · rw [h.saves]
      omega
    · rw [h.saves]
      intro heq
      omega

end Commit

section Runs

variable {loc : Locale} {id : ℕ} {s s' : Db} {edit : Edit} {done rest : List Switch} {p : Point}

theorem proceed_stands
    (hswitches : switches edit.current edit.settings = done ++ rest)
    (hjudged : edit.Judged loc s id done) (h : proceed edit rest = .goto q) :
    q.Stands loc id s := by
  cases rest with
  | nil =>
      cases h
      rw [List.append_nil] at hswitches
      change edit.Judged loc s id (switches edit.current edit.settings)
      rw [hswitches]
      exact hjudged
  | cons =>
      cases h
      exact ⟨done, hswitches, hjudged⟩

theorem load_stands
    {patch : SettingsPatch} {round : ℕ} (hsound : Sound loc s)
    (h : load loc s patch round = .goto q) : q.Stands loc id s := by
  unfold load at h
  simp only at h
  split at h
  · cases h
  · next settings hmerge =>
    have hjudged : Edit.Judged loc s id ⟨patch, round, 0, s.load loc, settings⟩ [] :=
      ⟨hsound.read, hmerge, by simp, by simp⟩
    exact proceed_stands (List.nil_append _).symm hjudged h

/-- The next attempt of a transaction starts with no lock. -/
theorem again_stands
    (hjudged : edit.Judged loc s id done) (h : again s id edit = (s', .goto q)) :
    s' = s.release id ∧ q.Stands loc id s' := by
  unfold again at h
  split at h
  · simp only [Prod.mk.injEq] at h
    obtain ⟨rfl, hproceed⟩ := h
    have hagain : Edit.Judged loc (s.release id) id { edit with tries := edit.tries + 1 } [] :=
      ⟨(Kept.release loc id s).read _ hjudged.read, hjudged.merged, by simp, by simp⟩
    exact ⟨rfl, proceed_stands (List.nil_append _).symm hagain hproceed⟩
  · cases h

variable {reply : Reply}

theorem again_release (h : again s id edit = (s', reply)) : s' = s.release id := by
  unfold again at h
  split at h <;> cases h <;> rfl

theorem Edit.Judged.lock
    {switch : Switch} (hsound : Sound loc s) (h : edit.Judged loc s id done)
    (hgranted : s.refuses switch = false) :
    edit.Judged loc { s with locks := s.locks.insert switch.ref id } id (done ++ [switch]) := by
  refine ⟨⟨h.read.wellFormed, h.read.defaults, h.read.reloaded⟩, h.merged, ?_, ?_⟩
  · intro other hother
    rw [lookup_insert_eq]
    split
    · rfl
    · next hne =>
      rcases List.mem_append.mp hother with hold | hnew
      · exact h.locked other hold
      · rw [List.mem_singleton.mp hnew] at hne
        exact absurd rfl hne
  · intro other hother hoff
    rcases List.mem_append.mp hother with hold | hnew
    · exact h.idle other hold hoff
    · rw [List.mem_singleton.mp hnew] at hoff ⊢
      have hcounted := hsound.counted switch.ref
      change s.refCount switch.ref = 0
      unfold Db.refuses at hgranted
      rw [hoff, Bool.true_and] at hgranted
      unfold Db.refCount at hcounted ⊢
      cases hrow : s.ref switch.ref with
      | none => rfl
      | some row =>
          rw [hrow] at hgranted hcounted
          simp only [Option.any_some, decide_eq_false_iff_not,
            Option.elim_some] at hgranted hcounted ⊢
          omega

theorem menuSlot_listed
    {value : String} {allowed : List Meal.MealSlotDef} (h : menuSlot value allowed = .ok slot) :
    slot.asStr ∈ slotNames allowed := by
  unfold menuSlot at h
  split at h
  · cases h
  · next hlisted =>
    split at h
    · cases h
      simpa using hlisted
    · cases h

structure Named (loc : Locale) (s s' : Db) : Prop where
  marks : ∀ id result, s.exams.examResult.lookup id = none →
    s'.exams.examResult.lookup id = some result →
    ∃ row, s.exams.exam.lookup result.exam = some row ∧
      row.exam.kind ∈ (s.load loc).listed .kind
  menus : ∀ id row, s.meals.menu.lookup id = none → s'.meals.menu.lookup id = some row →
    row.menu.slot.asStr ∈ (s.load loc).listed .slot

theorem Named.of_fewer
    (hmarks : ∀ id, s.exams.examResult.lookup id = none → s'.exams.examResult.lookup id = none)
    (hmenus : ∀ id, s.meals.menu.lookup id = none → s'.meals.menu.lookup id = none) :
    Named loc s s' := by
  constructor
  · intro id result hnone hsome
    rw [hmarks id hnone] at hsome
    cases hsome
  · intro id row hnone hsome
    rw [hmenus id hnone] at hsome
    cases hsome

theorem gradeTx_named
    {result : Exams.ExamResult} {kind : String}
    (hstands : (Point.gradeTx result kind).Stands loc id s)
    (h : gradeTx s result kind = some (s', reply)) : Named loc s s' := by
  unfold gradeTx at h
  split at h
  · cases h
  · cases htx : txWithRetry (Exams.gradeTx result kind) s.exams with
    | mk =>
        simp only [htx, Option.some.injEq, Prod.mk.injEq] at h
        obtain ⟨rfl, -⟩ := h
        obtain ⟨⟨row, hrow, hkind⟩, hknown⟩ := hstands
        cases graded_of_tx htx with
        | refused => exact .of_fewer (fun _ h => h) fun _ h => h
        | regraded hbefore hkinds hexams hresults =>
            refine .of_fewer (fun id hnone => ?_) fun _ h => h
            rw [hresults, lookup_insert_eq]
            split
            · next hid =>
              rw [hid, hbefore] at hnone
              cases hnone
            · exact hnone
        | graded hrow' hopen hnew hclaim hexams hresults =>
            have hbit := (claimKind_ref (s := s) rfl hclaim).1
            refine ⟨fun id mark hnone hsome => ?_, fun id row hnone hsome => ?_⟩
            · rw [hresults, lookup_insert_eq] at hsome
              split at hsome
              · cases hsome
                refine ⟨row, hrow, ?_⟩
                rw [hkind]
                refine hknown.resolve_right ?_
                rw [hbit]
                exact Bool.false_ne_true
              · rw [hnone] at hsome
                cases hsome
            · rw [hnone] at hsome
              cases hsome

theorem menuTx_named
    {args : MenuArgs} (hstands : (Point.menuTx args slot).Stands loc id s)
    (h : menuTx s w args slot = some (s', reply)) : Named loc s s' := by
  unfold menuTx at h
  split at h
  · cases h
  · cases htx : txWithRetry (Meal.createMenu args.date slot args.capacity args.createdBy w.now)
        s.meals with
    | mk =>
        simp only [htx, Option.some.injEq, Prod.mk.injEq] at h
        obtain ⟨rfl, -⟩ := h
        cases published_of_tx htx with
        | refused => exact .of_fewer (fun _ h => h) fun _ h => h
        | published hslot hnew hclaim hmenus =>
            have hbit := (claimSlotRef_ref (s := s) rfl hclaim).1
            refine ⟨fun id mark hnone hsome => ?_, fun id row hnone hsome => ?_⟩
            · rw [hnone] at hsome
              cases hsome
            · rw [hmenus, lookup_insert_eq] at hsome
              split at hsome
              · cases hsome
                rw [hslot]
                refine Or.resolve_right hstands ?_
                rw [hbit]
                exact Bool.false_ne_true
              · rw [hnone] at hsome
                cases hsome

theorem removeTx_named
    {user : UserId} {kind : String}
    (h : removeTx s exam user kind = some (s', reply)) : Named loc s s' := by
  unfold removeTx at h
  split at h
  · cases h
  · cases htx : txWithRetry (Exams.removeTx exam user kind) s.exams with
    | mk r exams =>
        simp only [htx, Option.some.injEq, Prod.mk.injEq] at h
        obtain ⟨rfl, -⟩ := h
        refine .of_fewer (fun id hnone => ?_) fun _ h => h
        rcases txWithRetry_cases htx with ⟨answer, -, hok⟩ | ⟨-, -, -, rfl⟩
        swap
        · exact hnone
        unfold Exams.removeTx at hok
        split at hok
        · cases hok
          exact hnone
        · cases hok
          change (Table.deleteWhere s.exams.examResult _).lookup id = none
          rw [lookup_deleteWhere, hnone, Option.filter_none]

theorem menuDelete_named
    {menu : Meal.Menu} (h : menuDelete s menu = some (s', reply)) :
    Named loc s s' := by
  unfold menuDelete at h
  split at h
  · cases h
  · cases htx : txWithRetry (Meal.deleteMenu menu) s.meals with
    | mk r meals =>
        simp only [htx, Option.some.injEq, Prod.mk.injEq] at h
        obtain ⟨rfl, -⟩ := h
        refine .of_fewer (fun _ h => h) fun id hnone => ?_
        obtain rfl | ⟨row, hrow, hempty, rfl⟩ := Meal.deleteMenu_cases htx
        · exact hnone
        · change (s.meals.menu.erase menu.id).lookup id = none
          rw [lookup_erase_eq]
          split
          · rfl
          · exact hnone

/-- What a step of the call `id` can do. -/
inductive Effect (loc : Locale) (id : ℕ) (s : Db) (p : Point) : Db → Reply → Prop
  | locks {locks : Table NameRef ℕ} {reply : Reply}
      (hkept : Kept loc id s { s with locks := locks })
      (hown : ∀ q, reply = .goto q → q.Stands loc id { s with locks := locks })
      (hquiet : reply.Quiet) : Effect loc id s p { s with locks := locks } reply
  | stirred {s' : Db} {answer : Except AppError Answer} (hstirred : Stirred s s')
      (hnamed : Named loc s s') (hquiet : Reply.Quiet (.answer answer)) :
      Effect loc id s p s' (.answer answer)
  | committed {s' : Db} {edit : Edit} {seen : Snapshot} (hp : p = .write edit seen)
      (hjudged : edit.Judged loc s id (switches edit.current edit.settings))
      (hcommitted : Committed loc id s edit s') :
      Effect loc id s p s' (.answer (.ok (.settings (edit.settings.reloaded loc))))

theorem Effect.read
    (hown : ∀ q, reply = .goto q → q.Stands loc id s) (hquiet : reply.Quiet) :
    Effect loc id s p s reply :=
  .locks (.refl loc id s) hown hquiet

theorem Effect.release
    (hown : ∀ q, reply = .goto q → q.Stands loc id (s.release id))
    (hquiet : reply.Quiet) : Effect loc id s p (s.release id) reply :=
  .locks (.release loc id s) hown hquiet

theorem proceed_quiet (edit : Edit) (rest : List Switch) : (proceed edit rest).Quiet := by
  cases rest <;> exact Reply.quiet_goto _

theorem again_effect
    (hjudged : edit.Judged loc s id done) (h : again s id edit = (s', reply)) :
    Effect loc id s p s' reply := by
  obtain rfl := again_release h
  refine .release ?_ ?_
  · rintro q rfl
    exact (again_stands hjudged h).2
  · unfold again at h
    split at h
    · cases h
      exact proceed_quiet _ _
    · cases h
      exact Reply.quiet_refuse _

theorem switchOne_effect
    {switch : Switch} (hsound : Sound loc s)
    (hstands : (Point.switch edit (switch :: rest)).Stands loc id s)
    (h : switchOne s w id edit switch rest = some (s', reply)) : Effect loc id s p s' reply := by
  obtain ⟨done, hswitches, hjudged⟩ := hstands
  unfold switchOne at h
  split at h
  · exact again_effect hjudged (Option.some.inj h)
  · split at h
    · cases h
    · next hfree =>
      split at h
      · cases h
        exact .release (by simp [refuse]) (Reply.quiet_refuse _)
      · next hgranted =>
        rw [Bool.not_eq_true] at hfree hgranted
        simp only [Option.some.injEq, Prod.mk.injEq] at h
        obtain ⟨rfl, rfl⟩ := h
        refine .locks (.lock hfree) (fun q hq => ?_) (proceed_quiet _ _)
        refine proceed_stands ?_ (hjudged.lock hsound hgranted) hq
        rw [hswitches, List.append_assoc, List.singleton_append]

theorem write_effect
    {seen : Snapshot} (hsound : Sound loc s)
    (hstands : (Point.write edit seen).Stands loc id s)
    (h : write loc s id edit seen = (s', reply)) :
    Effect loc id s (.write edit seen) s' reply := by
  obtain ⟨hjudged, version, hseen⟩ := hstands
  rcases write_cases hsound hjudged hseen h with ⟨hcommitted, rfl⟩ | ⟨rfl, ⟨e, rfl⟩ | rfl⟩
  · exact .committed rfl hjudged hcommitted
  · exact .release (by simp [refuse]) (Reply.quiet_refuse _)
  · refine .release (fun q hq => ?_) (Reply.quiet_goto _)
    cases hq
    trivial

theorem refuse_effect (e : AppError) : Effect loc id s p s (refuse e) :=
  .read (by simp [refuse]) (Reply.quiet_refuse e)

theorem gated_effect (w : World) (hq : q.Stands loc id s) :
    Effect loc id s p s (gated w (.goto q)) := by
  unfold gated
  split
  · refine .read (fun q' hq' => ?_) (Reply.quiet_goto q)
    cases hq'
    exact hq
  · exact refuse_effect _

theorem gradeExam_effect
    (w : World) (args : Exams.GradeArgs) : Effect loc id s p s (gradeExam s w args) := by
  unfold gradeExam
  split
  · exact refuse_effect _
  · next exam hexam =>
    obtain ⟨row, hrow, rfl⟩ := Option.map_eq_some_iff.mp hexam
    split
    · unfold gated
      split <;> exact refuse_effect _
    · exact gated_effect w ⟨row, hrow, rfl⟩

theorem gradeKinds_effect
    {args : Exams.GradeArgs} {exam : Exams.Exam}
    (hstands : (Point.gradeKinds args exam).Stands loc id s) :
    Effect loc id s p s (gradeKinds loc s args exam) := by
  unfold gradeKinds
  split
  · next hlisted =>
    refine .read (fun q hq => ?_) (Reply.quiet_goto _)
    cases hq
    exact ⟨hstands, .inl (List.contains_iff_mem.mp hlisted)⟩
  · exact refuse_effect _

theorem gradeSeq_effect
    {args : Exams.GradeArgs} {exam : Exams.Exam} (w : World)
    (hstands : (Point.gradeSeq args exam).Stands loc id s) :
    Effect loc id s p s (gradeSeq s w args exam) := by
  obtain ⟨⟨row, hrow, rfl⟩, hknown⟩ := hstands
  unfold gradeSeq
  split
  · exact refuse_effect _
  · split
    · exact refuse_effect _
    · exact gated_effect w ⟨⟨row, hrow, rfl⟩, hknown⟩

theorem menuSlots_effect
    (w : World) (args : MenuArgs) : Effect loc id s p s (menuSlots loc s w args) := by
  unfold menuSlots
  split
  · exact refuse_effect _
  · next slot hslot => exact gated_effect w (.inl (menuSlot_listed hslot))

theorem next_effect
    (hsound : Sound loc s) (hstands : p.Stands loc id s)
    (h : next loc id s p w = some (s', reply)) : Effect loc id s p s' reply := by
  cases p with
  | load =>
      simp only [next, Option.some.injEq, Prod.mk.injEq] at h
      obtain ⟨rfl, rfl⟩ := h
      refine .read (fun q hq => load_stands hsound hq) ?_
      unfold load
      simp only
      split
      · exact Reply.quiet_refuse _
      · exact proceed_quiet _ _
  | switch edit rest =>
      cases rest with
      | nil =>
          simp only [next, Option.some.injEq, Prod.mk.injEq] at h
          obtain ⟨rfl, rfl⟩ := h
          obtain ⟨done, hswitches, hjudged⟩ := hstands
          exact .read (fun q hq => proceed_stands hswitches hjudged hq) (proceed_quiet _ _)
      | cons => exact switchOne_effect hsound hstands h
  | save =>
      simp only [next, Option.some.injEq, Prod.mk.injEq] at h
      obtain ⟨rfl, rfl⟩ := h
      refine .read (fun q hq => ?_) (Reply.quiet_goto _)
      cases hq
      exact ⟨hstands, _, hsound.seen_snapshot⟩
  | write =>
      have hwrite := Option.some.inj h
      split at hwrite
      · exact again_effect hstands.1 hwrite
      · exact write_effect hsound hstands hwrite
  | gradeExam args =>
      cases h
      exact gradeExam_effect w args
  | gradeKinds =>
      cases h
      exact gradeKinds_effect hstands
  | gradeSeq =>
      cases h
      exact gradeSeq_effect w hstands
  | gradeTx =>
      obtain ⟨hstirred, answer, rfl, hquiet⟩ := gradeTx_stirred h
      exact .stirred hstirred (gradeTx_named hstands h) hquiet
  | removeExam =>
      cases h
      unfold removeExam
      split
      · exact refuse_effect _
      · exact gated_effect w trivial
  | removeTx =>
      obtain ⟨hstirred, answer, rfl, hquiet⟩ := removeTx_stirred h
      exact .stirred hstirred (removeTx_named h) hquiet
  | menuSlots args =>
      cases h
      exact menuSlots_effect w args
  | menuTx =>
      obtain ⟨hstirred, answer, rfl, hquiet⟩ := menuTx_stirred h
      exact .stirred hstirred (menuTx_named hstands h) hquiet
  | menuRead =>
      cases h
      unfold menuRead
      split
      · exact refuse_effect _
      · exact gated_effect w trivial
  | menuDelete =>
      obtain ⟨hstirred, answer, rfl, hquiet⟩ := menuDelete_stirred h
      exact .stirred hstirred (menuDelete_named h) hquiet

theorem Effect.sound (hsound : Sound loc s) (h : Effect loc id s p s' reply) : Sound loc s' := by
  cases h with
  | locks => exact hsound.of_locks _
  | stirred hstirred => exact hstirred.sound hsound
  | committed hp hjudged hcommitted => exact hcommitted.sound hsound hjudged

theorem Effect.kept (h : Effect loc id s p s' reply) : Kept loc id s s' := by
  cases h with
  | locks hkept => exact hkept
  | stirred hstirred => exact hstirred.kept
  | committed hp hjudged hcommitted => exact hcommitted.kept hjudged

theorem Effect.own (h : Effect loc id s p s' reply) :
    ∀ q, reply = .goto q → q.Stands loc id s' := by
  cases h with
  | locks hkept hown => exact hown
  | stirred | committed => simp

theorem Effect.named (h : Effect loc id s p s' reply) : Named loc s s' := by
  cases h with
  | locks => exact .of_fewer (fun _ h => h) fun _ h => h
  | stirred hstirred hnamed => exact hnamed
  | committed hp hjudged hcommitted =>
      refine .of_fewer (fun id hnone => ?_) fun id hnone => ?_
      · rw [hcommitted.examResult, hnone]
      · rw [hcommitted.menu, hnone]

end Runs

end Hezarfen.SchoolSettings
