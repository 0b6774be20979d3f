import Hezarfen.HomeworkFreeze

/-!
# Work stays inside the audience

A PATCH that narrows the audience looks for work it would strand, and a submission
reads the audience again, both under the lock of the homework row.  The grade judges
the audience on a read its service made before, so its transaction can land after the
student was left out.  The runs in which every grade lands on a student its homework
still names are exactly those in which all work belongs to the audience throughout.
-/

namespace Hezarfen.Homeworks

open Interleaving

variable {s s' : Db} {homework : HomeworkId} {user : UserId} {w : World} {p : Point}

def Db.Work (s : Db) (homework : HomeworkId) (user : UserId) : Prop :=
  (∃ id row, s.homeworkSubmission.lookup id = some row ∧ row.isFor homework user) ∨
    (s.resultFor homework user).isSome = true

def Db.InAudience (s : Db) : Prop :=
  ∀ homework user, s.Work homework user → s.named homework user = true

/-- Work is work for a homework that stands. -/
structure Db.Housed (s : Db) : Prop where
  stamps : s.Stamps
  homed : ∀ homework user, s.Work homework user → (s.homework.lookup homework).isSome = true

/-! ## The audience -/

theorem lookup_assign
    (students : List UserId) (rows : Table (HomeworkId × UserId) Unit) (homework : HomeworkId)
    (pair : HomeworkId × UserId) :
    (students.foldl (fun rows student => rows.insert (homework, student) ()) rows).lookup pair =
      if pair.1 = homework ∧ pair.2 ∈ students then some () else rows.lookup pair := by
  induction students generalizing rows with
  | nil => simp
  | cons student rest ih =>
      rw [List.foldl_cons, ih, lookup_insert_eq]
      by_cases hrest : pair.1 = homework ∧ pair.2 ∈ rest
      · rw [if_pos hrest, if_pos ⟨hrest.1, List.mem_cons_of_mem _ hrest.2⟩]
      · rw [if_neg hrest]
        by_cases hpair : pair = (homework, student)
        · subst hpair
          simp
        · rw [if_neg hpair, if_neg]
          rintro ⟨hh, hmem⟩
          rcases List.mem_cons.mp hmem with heq | hmem
          · exact hpair (Prod.ext hh heq)
          · exact hrest ⟨hh, hmem⟩

theorem lookup_replaceAudience
    (s : Db) (homework : HomeworkId) (students : List UserId) (pair : HomeworkId × UserId) :
    (s.replaceAudience homework students).homeworkAssignment.lookup pair =
      if pair.1 = homework then if pair.2 ∈ students then some () else none
      else s.homeworkAssignment.lookup pair := by
  simp only [Db.replaceAudience, lookup_assign, lookup_deleteWhere]
  by_cases hh : pair.1 = homework
  · by_cases hmem : pair.2 ∈ students
    · simp [hh, hmem]
    · simp [hh, hmem]
  · simp only [hh, false_and, if_false, decide_false, Bool.not_false]
    cases s.homeworkAssignment.lookup pair <;> rfl

/-- Nobody is assigned, or the user is. -/
theorem named_iff :
    s.named homework user = true ↔
      (∀ student, s.homeworkAssignment.lookup (homework, student) = none) ∨
        (s.homeworkAssignment.lookup (homework, user)).isSome = true := by
  simp only [Db.named, Bool.or_eq_true, Bool.not_eq_true', Table.any_eq_false_iff,
    decide_eq_false_iff_not]
  refine or_congr_left ?_
  constructor
  · intro hnone student
    rw [Option.eq_none_iff_forall_ne_some]
    intro u hu
    exact hnone (homework, student) u hu rfl
  · rintro hnone ⟨h, student⟩ u hu rfl
    rw [hnone student] at hu
    cases hu

theorem named_congr
    (h : ∀ student, s'.homeworkAssignment.lookup (homework, student) =
      s.homeworkAssignment.lookup (homework, student)) (user : UserId) :
    s'.named homework user = s.named homework user := by
  rw [Bool.eq_iff_iff, named_iff, named_iff]
  simp only [h]

theorem named_replaceAudience_self
    (s : Db) (homework : HomeworkId) (students : List UserId) (user : UserId) :
    (s.replaceAudience homework students).named homework user = true ↔
      students = [] ∨ user ∈ students := by
  rw [named_iff]
  simp only [lookup_replaceAudience, if_true]
  refine or_congr ?_ ?_
  · rw [List.eq_nil_iff_forall_not_mem]
    refine forall_congr' fun student => ?_
    by_cases hmem : student ∈ students <;> simp [hmem]
  · by_cases hmem : user ∈ students <;> simp [hmem]

theorem named_replaceAudience_other
    (s : Db) {h : HomeworkId} (students : List UserId) (user : UserId) (hother : h ≠ homework) :
    (s.replaceAudience homework students).named h user = s.named h user := by
  refine named_congr ?_ user
  intro student
  rw [lookup_replaceAudience, if_neg hother]

theorem ensureNoOrphans_ok
    {subset : List UserId} (h : ensureNoOrphans s homework (some subset) = .ok ())
    (hwork : s.Work homework user) : user ∈ subset := by
  have hnil : s.orphans homework subset = [] := by
    unfold ensureNoOrphans at h
    dsimp only at h
    split at h
    · assumption
    · cases h
  by_contra hmem
  have hblocked : user ∈ s.orphans homework subset := by
    simp only [Db.orphans, List.mem_eraseDups, List.mem_filter, List.mem_append, List.mem_map]
    refine ⟨?_, decide_eq_true hmem⟩
    rcases hwork with ⟨id, row, hrow, hpair⟩ | hgraded
    · refine .inl ⟨row.submission, ⟨?_, decide_eq_true hpair.1⟩, hpair.2⟩
      exact ⟨⟨id, row⟩, mem_entries_iff_lookup.mpr hrow, rfl⟩
    · obtain ⟨result, hresult⟩ := Option.isSome_iff_exists.mp hgraded
      refine .inr ⟨⟨(homework, user), result⟩, ⟨?_, by simp⟩, rfl⟩
      exact mem_entries_iff_lookup.mpr hresult
  rw [hnil] at hblocked
  cases hblocked

theorem named_patched
    {read : HomeworkId} {row : HomeworkRow} {patch : HomeworkPatch}
    {counts : Table Exams.SubjectId ℤ}
    (horphans : patch.assigned.elim (.ok ()) (ensureNoOrphans s read) = .ok ())
    (hwork : s.Work homework user) (hnamed : s.named homework user = true) :
    (s.patched read row patch counts).named homework user = true := by
  unfold Db.patched
  cases hassigned : patch.assigned with
  | none => exact hnamed
  | some assigned =>
      have haudience :
          (s.replaceAudience read (assigned.getD [])).named homework user = true := by
        by_cases hh : homework = read
        · subst hh
          rw [named_replaceAudience_self]
          cases assigned with
          | none => exact .inl rfl
          | some =>
              rw [hassigned] at horphans
              exact .inr (ensureNoOrphans_ok horphans hwork)
        · rw [named_replaceAudience_other _ _ _ hh]
          exact hnamed
      exact haudience

/-! ## What a step does to the work -/

def gradeNamed (s : Db) (p : Point) (_ : World) : Bool :=
  p.grades.all fun grade =>
    !s.gradeLands grade.1 grade.2.1 grade.2.2 || s.named grade.1 grade.2.1

theorem Db.Carries.work
    (h : s.Carries s') (hwork : s'.Work homework user) : s.Work homework user := by
  rcases hwork with ⟨id, row', hrow', hpair⟩ | hgraded
  · obtain ⟨row, hrow, -, hh, hu, -⟩ := h.rows id row' hrow'
    exact .inl ⟨id, row, hrow, by rw [← hh, hpair.1], by rw [← hu, hpair.2]⟩
  · exact .inr (h.results homework user hgraded)

theorem putResult_work
    {graded : HomeworkResult} (hwork : (s.putResult graded).Work homework user) :
    s.Work homework user ∨ (homework, user) = (graded.homework, graded.user) := by
  rcases hwork with ⟨id, row', hrow', hpair⟩ | hgraded
  · obtain ⟨row, hrow, hsub, -⟩ := lookup_putResult hrow'
    exact .inl (.inl ⟨id, row, hrow, by rw [← hsub, hpair.1], by rw [← hsub, hpair.2]⟩)
  · rw [resultFor_putResult] at hgraded
    split at hgraded
    · next hself => exact .inr hself
    · exact .inl (.inr hgraded)

theorem dropResult_work
    {h : HomeworkId} {u : UserId} (hwork : (s.dropResult h u).Work homework user) :
    s.Work homework user := by
  rcases hwork with ⟨id, row', hrow', hpair⟩ | hgraded
  · obtain ⟨row, hrow, hsub, -⟩ := lookup_unstamp (lookup_dropResult hrow')
    exact .inl ⟨id, row, hrow, by rw [← hsub, hpair.1], by rw [← hsub, hpair.2]⟩
  · rw [resultFor_dropResult] at hgraded
    split at hgraded
    · cases hgraded
    · exact .inr hgraded

theorem createSubmission_work
    {submission : HomeworkSubmission} {counted : Bool}
    (hwork : (s.createSubmission submission counted).Work homework user) :
    s.Work homework user ∨ (homework, user) = (submission.homework, submission.user) := by
  rcases hwork with ⟨id, row, hrow, hpair⟩ | hgraded
  · simp only [Db.createSubmission, lookup_insert_eq] at hrow
    split at hrow
    · cases hrow
      exact .inr (Prod.ext hpair.1.symm hpair.2.symm)
    · exact .inl (.inl ⟨id, row, hrow, hpair⟩)
  · exact .inl (.inr hgraded)

/-- Work after a step was there before it, was just handed in by a named student, or was just
graded. -/
theorem Wrote.work
    (h : Wrote s w p s') (hs : s.Stamps) (hwork : s'.Work homework user) :
    s.Work homework user ∨ s.handsIn homework user ⟨w.uuid⟩ = true ∨
      ∃ grader, p.grades = some (homework, user, grader) ∧
        s.gradeLands homework user grader = true := by
  cases h.stampMove hs with
  | carried hcarries => exact .inl (hcarries.work hwork)
  | handedIn hp hlands heq =>
      rw [heq] at hwork
      rcases createSubmission_work hwork with hold | hnew
      · exact .inl hold
      · obtain ⟨rfl, rfl⟩ := Prod.mk.inj hnew
        exact .inr (.inl hlands)
  | graded hp hlands hid hcarries =>
      rcases putResult_work (hcarries.work hwork) with hold | hnew
      · exact .inl hold
      · obtain ⟨rfl, rfl⟩ := Prod.mk.inj hnew
        exact .inr (.inr ⟨_, hp, hlands⟩)
  | ungraded hcarries => exact .inl (dropResult_work (hcarries.work hwork))

theorem dropHomework_no_work
    (s : Db) (homework : HomeworkId) (row : HomeworkRow) (user : UserId) :
    ¬ (s.dropHomework homework row).Work homework user := by
  rintro (⟨id, kept, hkept, hpair⟩ | hgraded)
  · simp only [Db.dropHomework, lookup_deleteWhere, Option.filter_eq_some_iff] at hkept
    exact absurd hkept.2 (by simp [hpair.1])
  · simp [Db.resultFor, Db.dropHomework] at hgraded

theorem patched_work
    {id : HomeworkId} {row : HomeworkRow} {patch : HomeworkPatch} {counts : Table Exams.SubjectId ℤ}
    (hwork : (s.patched id row patch counts).Work homework user) : s.Work homework user := by
  have htables := patched_tables s id row patch counts
  exact (Db.Carries.of_eq htables.1 htables.2.1).work hwork

/-- A homework that has work after a step stands after it. -/
theorem Wrote.homed
    (h : Wrote s w p s') (hhome : (s.homework.lookup homework).isSome = true)
    (hwork : s'.Work homework user) : (s'.homework.lookup homework).isSome = true := by
  cases h with
  | created =>
      refine (congrArg Option.isSome (lookup_insert_eq _ _ _ _)).trans ?_
      split
      · rfl
      · exact hhome
  | @patched read patch row counts hrow horphans =>
      have hrows : (s.patched read.id row patch counts).homework =
          s.homework.insert read.id (row.patched patch) := rfl
      rw [hrows, lookup_insert_eq]
      split
      · rfl
      · exact hhome
  | @deleted gone row hrow =>
      have hother : homework ≠ gone := by
        rintro rfl
        exact dropHomework_no_work s homework row user hwork
      simpa [Db.dropHomework, lookup_erase_eq, hother] using hhome
  | graded hhomework huser hid hlands hcredit | ungraded hsome hcredit =>
      rw [hcredit.tables.2.2.2.1]
      exact hhome
  | _ => exact hhome

/-- A step keeps whoever has work after it in the audience. -/
theorem Wrote.named
    (h : Wrote s w p s') (hhome : (s.homework.lookup homework).isSome = true)
    (hwork : s'.Work homework user) (hnamed : s.named homework user = true) :
    s'.named homework user = true := by
  cases h with
  | @created args row counts hfresh =>
      rw [named_replaceAudience_other]
      · exact hnamed
      · rintro rfl
        simp [hfresh] at hhome
  | patched hrow horphans => exact named_patched horphans (patched_work hwork) hnamed
  | @deleted gone row hrow =>
      have hother : homework ≠ gone := by
        rintro rfl
        exact dropHomework_no_work s homework row user hwork
      rw [named_congr]
      · exact hnamed
      · intro student
        simp only [Db.dropHomework, lookup_deleteWhere, hother, decide_false, Bool.not_false]
        cases s.homeworkAssignment.lookup (homework, student) <;> rfl
  | graded hhomework huser hid hlands hcredit | ungraded hsome hcredit =>
      rw [named_congr]
      · exact hnamed
      · intro student
        rw [hcredit.tables.2.2.2.2]
        rfl
  | _ => exact hnamed

theorem Wrote.housed
    (h : Wrote s w p s') (hs : s.Housed) : s'.Housed := by
  refine ⟨h.stamps hs.stamps, ?_⟩
  intro homework user hwork
  refine h.homed ?_ hwork
  rcases h.work hs.stamps hwork with hold | hlands | ⟨grader, -, hlands⟩
  · exact hs.homed homework user hold
  · simp only [Db.handsIn, Bool.and_eq_true] at hlands
    exact hlands.1.1.1.1
  · simp only [Db.gradeLands, Bool.and_eq_true] at hlands
    exact hlands.1.1

theorem Wrote.inAudience
    (h : Wrote s w p s') (hs : s.Housed) (haudience : s.InAudience)
    (hguard : gradeNamed s p w = true) : s'.InAudience := by
  intro homework user hwork
  rcases h.work hs.stamps hwork with hold | hlands | ⟨grader, hp, hlands⟩
  · exact h.named (hs.homed homework user hold) hwork (haudience homework user hold)
  · simp only [Db.handsIn, Bool.and_eq_true] at hlands
    exact h.named hlands.1.1.1.1 hwork hlands.1.1.1.2
  · have hnamed : s.named homework user = true := by
      simpa [gradeNamed, hp, hlands] using hguard
    simp only [Db.gradeLands, Bool.and_eq_true] at hlands
    exact h.named hlands.1.1 hwork hnamed

/-- A grade that meets the conditions leaves its student with work under the old audience. -/
theorem next_grades
    {grader : UserId} (hp : p.grades = some (homework, user, grader))
    (hlands : s.gradeLands homework user grader = true) {id : ℕ} {n : Reply}
    (hnext : next id s p w = some (s', n)) :
    s'.Work homework user ∧ s'.named homework user = s.named homework user := by
  cases p with
  | gradeTx =>
      cases hp
      obtain ⟨graded, s'', hok⟩ := gradeTx_lands hlands ⟨w.uuid⟩ w.now
      simp only [next, settle, txWithRetry, hok, Option.some.injEq, Prod.mk.injEq] at hnext
      obtain ⟨rfl, -⟩ := hnext
      obtain ⟨hhomework, huser, -, -, hcredit⟩ := gradeTx_ok hok
      have htables := hcredit.tables
      constructor
      · refine .inr ?_
        simp only [Db.resultFor, htables.2.1]
        have hresult := resultFor_putResult s graded homework user
        rw [if_pos (by rw [hhomework, huser])] at hresult
        exact Option.isSome_iff_exists.mpr ⟨graded, hresult⟩
      · refine named_congr ?_ user
        intro student
        rw [htables.2.2.2.2]
        rfl
  | _ => cases hp

theorem allows_iff_inAudience
    {c d : Config Db Point} {m : Move Request World} (hs : c.shared.Housed)
    (haudience : c.shared.InAudience) (hstep : machine.step c m = some d) :
    c.Allows gradeNamed m ↔ d.shared.InAudience := by
  obtain ⟨request, rfl, rfl⟩ | ⟨id, w, p, s, n, rfl, hp, hnext, rfl⟩ | ⟨id, p, rfl, hp, rfl⟩ :=
    Machine.step_cases hstep
  · exact ⟨fun _ => haudience, fun _ => trivial⟩
  · rw [Config.shared_after]
    have hmove : next id c.shared p w = some (s, n) := hnext
    have hallows : c.Allows gradeNamed (.advance id w : Move Request World) ↔
        gradeNamed c.shared p w = true := by
      simp [Config.Allows, hp]
    rw [hallows]
    constructor
    · exact (next_wrote hmove).inAudience hs haudience
    · intro hafter
      simp only [gradeNamed, Option.all_eq_true, Bool.or_eq_true, Bool.not_eq_true']
      rintro ⟨homework, user, grader⟩ hgrade
      by_cases hlands : c.shared.gradeLands homework user grader = true
      · obtain ⟨hwork, hnamed⟩ := next_grades hgrade hlands hmove
        exact .inr (hnamed ▸ hafter homework user hwork)
      · exact .inl (by simpa using hlands)
  · exact ⟨fun _ => haudience, fun _ => trivial⟩

theorem housed_step
    {c d : Config Db Point} {m : Move Request World} (hs : c.shared.Housed)
    (hstep : machine.step c m = some d) : d.shared.Housed := by
  obtain heq | ⟨id, w, p, -, -, hwrote⟩ := step_wrote hstep
  · rw [heq]
    exact hs
  · exact hwrote.housed hs

theorem empty_no_work (homework : HomeworkId) (user : UserId) :
    ¬ Db.empty.Work homework user := by
  rintro (⟨id, row, hrow, -⟩ | hgraded)
  · cases hrow
  · cases hgraded

theorem empty_housed : Db.empty.Housed :=
  ⟨empty_stamps, fun homework user hwork => absurd hwork (empty_no_work homework user)⟩

/-- The runs in which every grade lands on a student the homework then names are exactly those
in which everybody with work is in the audience throughout. -/
theorem work_in_audience_iff
    {ms : List (Move Request World)} {c : Config Db Point}
    (hrun : machine.run start ms = some c) :
    machine.Guarded (Config.Allows gradeNamed) start ms ↔
      ∀ pre d, pre <+: ms → machine.run start pre = some d → d.shared.InAudience :=
  Machine.guarded_iff_always (M := machine)
    (J := fun c => c.shared.Housed) (Q := fun c => c.shared.InAudience)
    housed_step (fun hs haudience hstep => allows_iff_inAudience hs haudience hstep)
    empty_housed (fun homework user hwork => absurd hwork (empty_no_work homework user)) hrun

section Runs

open Sample

def narrow : Move Request World :=
  .start (.update essay ⟨none, none, none, none, some (some [classmate])⟩)

/-- The student is graded, and a narrowing that would leave the grade behind is refused. -/
def gradedThenNarrowed : List (Move Request World) :=
  opening ++ [gradeEssay, tick 5, tick 5, tick 5, narrow, tick 6, tick 6]

theorem work_in_audience_iff_gradedThenNarrowed :
    ∃ c, machine.run start gradedThenNarrowed = some c ∧
      c.shared.Work essay student ∧ c.shared.named essay student = true := by
  have hend : (machine.run start gradedThenNarrowed).any (fun c =>
      (c.shared.resultFor essay student).isSome) = true := by
    decide
  have hguard : machine.Guarded (Config.Allows gradeNamed) start gradedThenNarrowed := by
    decide
  obtain ⟨c, hrun, hgraded⟩ := (Option.any_eq_true _ _).mp hend
  have haudience := (work_in_audience_iff hrun).mp hguard gradedThenNarrowed c
    (List.prefix_refl _) hrun
  exact ⟨c, hrun, .inr hgraded, haudience essay student (.inr hgraded)⟩

/-- The narrowing lands between the gate of a grade and its transaction. -/
def narrowedBetween : List (Move Request World) :=
  opening ++ [gradeEssay, tick 5, tick 5, narrow, tick 6, tick 6, tick 5]

theorem narrowedBetween_strands :
    ∃ c, machine.run start narrowedBetween = some c ∧ ¬ c.shared.InAudience := by
  have hend : (machine.run start narrowedBetween).any (fun c =>
      (c.shared.resultFor essay student).isSome && !c.shared.named essay student) = true := by
    decide
  obtain ⟨c, hrun, hstranded⟩ := (Option.any_eq_true _ _).mp hend
  rw [Bool.and_eq_true, Bool.not_eq_true'] at hstranded
  refine ⟨c, hrun, ?_⟩
  intro haudience
  rw [haudience essay student (.inr hstranded.1)] at hstranded
  exact absurd hstranded.2 (by simp)

end Runs

end Hezarfen.Homeworks
