import Hezarfen.RolloverSteps

/-!
# What a rollover leaves behind

The loops of a rollover, from the inside out: the teachers of one instance, the instances of one
section, its members, the sections of the year.  Each has an invariant over the items that are
done; what a later turn writes lies outside the copies that stand.
-/

namespace Hezarfen.Rollovers

open School (Roster ClassGroupId CourseId ClassCourseId ClassMemberId ClassMember Attached Refusal)
open Years (Db Section Instance GradeLevel AcademicYear AcademicYearId)

variable {s s' s'' : Db} {target : AcademicYearId} {feed : Feed} {p p' : Progress}
  {c : ClassGroupId} {j : ClassCourseId}

theorem transact_eq_ok {α : Type} {f : Uuid → Timestamp → Db → Except Refusal (α × Db)} {a : α} :
    transact feed f p = .ok a p' ↔
      ∃ db, f (feed.uuid p.drawn) (feed.now p.drawn) p.db = .ok (a, db) ∧
        p' = ⟨db, p.drawn + 1, p.report⟩ := by
  unfold transact
  simp only [Workflow.bind_eq_ok, Workflow.get_eq_ok, Workflow.gate_eq_ok, Workflow.set_eq_ok,
    Workflow.pure_eq_ok]
  constructor
  · rintro ⟨_, _, ⟨rfl, rfl⟩, ⟨answer, db⟩, _, ⟨hf, rfl⟩, _, _, rfl, rfl, rfl⟩
    exact ⟨db, hf, rfl⟩
  · rintro ⟨db, hf, rfl⟩
    exact ⟨_, _, ⟨rfl, rfl⟩, (a, db), _, ⟨hf, rfl⟩, ⟨⟩, _, rfl, rfl, rfl⟩

theorem Writes.refl (hown : ∀ row, s.roster.classCourse.lookup j = some row → row.classId = c) :
    Writes c j s s :=
  ⟨rfl, fun _ _ => rfl, rfl, fun _ _ => rfl, hown, hown,
    fun _ _ => ⟨rfl, fun _ => rfl, fun _ => rfl⟩, rfl⟩

theorem Writes.trans (h : Writes c j s s') (h' : Writes c j s' s'') : Writes c j s s'' where
  rest := by rw [h'.rest, h.rest]
  groups other hne := (h'.groups other hne).trans (h.groups other hne)
  homeroom := h'.homeroom.trans h.homeroom
  links i hne := (h'.links i hne).trans (h.links i hne)
  before := h.before
  after := h'.after
  same i hne := (h.same i hne).trans (h'.same i hne)
  members := h'.members.trans h.members

variable {user : UserId}

theorem mem_listForInstance :
    user ∈ listForInstance s j ↔ (s.roster.classCourseTeacher.lookup (j, user)).isSome := by
  unfold listForInstance
  simp only [List.mem_map, List.mem_filter, decide_eq_true_eq]
  constructor
  · rintro ⟨⟨⟨i, other⟩, _⟩, ⟨hentry, rfl⟩, rfl⟩
    rw [mem_entries_iff_lookup.mp hentry]
    rfl
  · intro hsome
    obtain ⟨_, hlookup⟩ := Option.isSome_iff_exists.mp hsome
    exact ⟨⟨(j, user), _⟩, ⟨mem_entries_iff_lookup.mpr hlookup, rfl⟩, rfl⟩

structure Staffed (c : ClassGroupId) (j : ClassCourseId) (users : List UserId) (p p' : Progress) :
    Prop where
  writes : Writes c j p.db p'.db
  columns : p'.db.classInstance = p.db.classInstance
  links : p'.db.roster.classCourse = p.db.roster.classCourse
  teachers : ∀ user, p'.db.roster.classCourseTeacher.lookup (j, user) =
    if user ∈ users then some () else p.db.roster.classCourseTeacher.lookup (j, user)
  report : p'.report = p.report

theorem copyTeachers_staffed {users : List UserId} {row : School.ClassCourse}
    (hrow : p.db.roster.classCourse.lookup j = some row) (hclass : row.classId = c)
    (h : users.forM (copyTeacher feed j) p = .ok ⟨⟩ p') : Staffed c j users p p' := by
  refine Workflow.forM_rule (fun done q => Staffed c j done p q) ?_ ?_ h
  · intro done user rest q q' hsplit hinv hone
    unfold copyTeacher at hone
    obtain ⟨db, htx, rfl⟩ := transact_eq_ok.mp hone
    simp only [Gate.bind_eq_ok, Gate.pure_eq_ok, Prod.mk.injEq, true_and] at htx
    obtain ⟨_, hassign, rfl⟩ := htx
    have hrow' : q.db.roster.classCourse.lookup j = some row := by rw [hinv.links, hrow]
    have hwrites := assign_writes hrow' hclass hassign
    obtain ⟨_, -, rfl⟩ := assign_cases hassign
    refine ⟨hinv.writes.trans hwrites, hinv.columns, hinv.links, fun other => ?_, hinv.report⟩
    change (q.db.roster.classCourseTeacher.insert (j, user) ()).lookup (j, other) = _
    rw [lookup_insert_eq, hinv.teachers]
    by_cases hother : other = user
    · simp [hother]
    · simp [hother]
  · have hown : ∀ other, p.db.roster.classCourse.lookup j = some other → other.classId = c := by
      intro other hother
      rw [hrow] at hother
      cases hother
      exact hclass
    exact ⟨.refl hown, rfl, rfl, fun user => by simp, rfl⟩

/-! ## The instances of a section -/

/-- The instance `j` of the planted section copies an instance of the old one. -/
structure CopyOf (s : Db) (old : ClassCourse) (s' : Db) (c : ClassGroupId) (j : ClassCourseId) :
    Prop where
  link : s'.roster.linkOf j = some (c, old.course)
  columns : ∃ columns, s'.classInstance.lookup j = some columns ∧ columns.source = none ∧
    columns.title = old.columns.title ∧ columns.description = old.columns.description ∧
    columns.dersSaati = old.columns.dersSaati ∧
    columns.countsTowardKarne = old.columns.countsTowardKarne
  teachers : ∀ user, s'.roster.classCourseTeacher.lookup (j, user) =
    s.roster.classCourseTeacher.lookup (old.id, user)

variable {classId : ClassGroupId}

theorem mem_listForClass {old : ClassCourse} :
    old ∈ listForClass s classId ↔
      s.roster.linkOf old.id = some (classId, old.course) ∧
        s.classInstance.lookup old.id = some old.columns := by
  unfold listForClass
  simp only [List.mem_filterMap, List.mem_filter, decide_eq_true_eq, Option.map_eq_some_iff]
  constructor
  · rintro ⟨⟨i, row⟩, ⟨hentry, hclass⟩, columns, hcolumns, rfl⟩
    exact ⟨Roster.linkOf_eq_some.mpr ⟨row, mem_entries_iff_lookup.mp hentry, hclass, rfl⟩,
      hcolumns⟩
  · rintro ⟨hlink, hcolumns⟩
    obtain ⟨row, hrow, hclass, hcourse⟩ := Roster.linkOf_eq_some.mp hlink
    refine ⟨⟨old.id, row⟩, ⟨mem_entries_iff_lookup.mpr hrow, hclass⟩, old.columns, hcolumns,
      ?_⟩
    cases old
    simp_all

variable {pumping : Roster.Pumping}

theorem attachSourced_link {course : CourseId}
    {link : School.ClassCourse}
    (h : s.attachSourced j pumping course none = .ok (.attached (.made link), s')) :
    s.roster.classCourse.lookup j = none ∧
      (∀ i, s.roster.linkOf i ≠ some (pumping.classId, course)) ∧
      s'.roster.linkOf j = some (pumping.classId, course) ∧
      (∃ grade, s'.classInstance.lookup j = some (.fresh none ⟨course, grade⟩)) ∧
      s'.roster.classCourseTeacher = s.roster.classCourseTeacher := by
  obtain ⟨roster, grade, hattach, hfree, rfl⟩ := Years.attachSourced_made h
  obtain ⟨row, taught, hnew, -, -, -, -, -, hpump⟩ := Roster.attachCourse_made hattach
  refine ⟨hfree, fun i hlink => ?_, ?_, ⟨grade, ?_⟩,
    (Roster.enrollPairs_same hpump).classCourseTeacher⟩
  · obtain ⟨old, hold, hmatch⟩ := Roster.linkOf_eq_some.mp hlink
    exact hnew i old hold hmatch
  · exact (Roster.attachCourse_linkOf hattach j).trans (if_pos rfl)
  · exact (lookup_insert_eq _ _ _ _).trans (if_pos rfl)

theorem update_columns {columns : Instance} {course : CourseId} {grade : GradeLevel}
    (hfresh : s.classInstance.lookup j = some (.fresh none ⟨course, grade⟩))
    (h : update s j columns.title columns.description columns.dersSaati columns.countsTowardKarne =
      .ok s') :
    s'.roster = s.roster ∧ ∃ copied, s'.classInstance.lookup j = some copied ∧
      copied.source = none ∧ copied.title = columns.title ∧
      copied.description = columns.description ∧ copied.dersSaati = columns.dersSaati ∧
      copied.countsTowardKarne = columns.countsTowardKarne := by
  unfold update at h
  rw [hfresh] at h
  simp only [Gate.found, Gate.bind_eq_ok, Gate.pure_eq_ok, Except.ok.injEq] at h
  obtain ⟨_, rfl, rfl⟩ := h
  refine ⟨rfl, _, (lookup_insert_eq _ _ _ _).trans (if_pos rfl), rfl, ?_, ?_, ?_, ?_⟩ <;>
    exact Option.or_none

variable {by_ : UserId}

theorem copyInstance_spec {old : ClassCourse} (hstored : Stored p.db)
    (hgroup : (p.db.roster.classGroup.lookup c).isSome)
    (h : copyInstance feed c by_ old p = .ok ⟨⟩ p') :
    ∃ j, p.db.roster.classCourse.lookup j = none ∧
      (∀ i, p.db.roster.linkOf i ≠ some (c, old.course)) ∧ Writes c j p.db p'.db ∧
      Stored p'.db ∧ CopyOf p.db old p'.db c j ∧ p'.report = p.report := by
  unfold copyInstance at h
  obtain ⟨⟨j, answer⟩, mid, hattach, h⟩ := Workflow.bind_eq_ok.mp h
  obtain ⟨_, htx, rfl⟩ := transact_eq_ok.mp hattach
  simp only [Gate.bind_eq_ok, Gate.pure_eq_ok, Prod.mk.injEq, Prod.exists] at htx
  obtain ⟨landed, attached, hsourced, ⟨rfl, rfl⟩, rfl⟩ := htx
  have hmade : ∃ link, landed = .attached (.made link) := by
    cases landed with
    | sourceGone => exact (Workflow.throw_eq_ok.mp h).elim
    | attached verdict =>
        cases verdict with
        | made link => exact ⟨link, rfl⟩
        | _ => exact (Workflow.throw_eq_ok.mp h).elim
  obtain ⟨link, rfl⟩ := hmade
  obtain ⟨_, q, hupdate, h⟩ := Workflow.bind_eq_ok.mp h
  obtain ⟨_, htx, rfl⟩ := transact_eq_ok.mp hupdate
  simp only [Gate.bind_eq_ok, Gate.pure_eq_ok, Prod.mk.injEq, true_and] at htx
  obtain ⟨updated, hcolumns, rfl⟩ := htx
  obtain ⟨_, _, hget, hteachers⟩ := Workflow.bind_eq_ok.mp h
  obtain ⟨rfl, rfl⟩ := Workflow.get_eq_ok.mp hget
  obtain ⟨hfree, hnew, hlink, ⟨grade, hfresh⟩, hsame⟩ := attachSourced_link hsourced
  obtain ⟨row, hrow, hclass, -⟩ := Roster.linkOf_eq_some.mp hlink
  obtain ⟨hroster, copied, hcopied, hoverrides⟩ := update_columns hfresh hcolumns
  have hwrites := (attachSourced_writes hsourced).trans (update_writes hrow hclass hcolumns)
  rw [← hroster] at hrow
  have hstaffed := copyTeachers_staffed hrow hclass hteachers
  have hwrites' := hwrites.trans hstaffed.writes
  have hlinks : p'.db.roster.classCourse = attached.roster.classCourse := by
    rw [hstaffed.links, hroster]
  have hteacher : updated.roster.classCourseTeacher = p.db.roster.classCourseTeacher := by
    rw [hroster, hsame]
  have hvacant : ∀ user, p.db.roster.classCourseTeacher.lookup (⟨feed.uuid p.drawn⟩, user) =
      none := by
    intro user
    by_contra hne
    have hheld := hstored.teachers _ _ (Option.isSome_iff_ne_none.mpr hne)
    rw [hfree] at hheld
    cases hheld
  refine ⟨⟨feed.uuid p.drawn⟩, hfree, hnew, hwrites',
    hwrites'.stored hstored hgroup ?_ ?_, ⟨?_, ⟨copied, ?_, hoverrides⟩, fun user => ?_⟩,
    hstaffed.report⟩
  · rw [hstaffed.links, hrow]
    rfl
  · rw [hstaffed.columns, hcopied]
    rfl
  · rw [Roster.linkOf, hlinks]
    exact hlink
  · rw [hstaffed.columns, hcopied]
  · rw [hstaffed.teachers, hteacher, hvacant]
    by_cases hmem : user ∈ listForInstance updated old.id
    · rw [if_pos hmem]
      rw [mem_listForInstance, hteacher] at hmem
      obtain ⟨_, hheld⟩ := Option.isSome_iff_exists.mp hmem
      rw [hheld]
    · rw [if_neg hmem]
      rw [mem_listForInstance, hteacher] at hmem
      exact (Option.not_isSome_iff_eq_none.mp hmem).symm

theorem CopyOf.of_writes {old : ClassCourse} {i : ClassCourseId} (h : CopyOf s old s' c i)
    (hwrites : Writes c j s' s'') (hne : i ≠ j) : CopyOf s old s'' c i where
  link := by
    rw [Roster.linkOf, hwrites.links i hne]
    exact h.link
  columns := by
    rw [(hwrites.same i hne).columns]
    exact h.columns
  teachers user := by
    rw [(hwrites.same i hne).teachers]
    exact h.teachers user

structure Taught (target : AcademicYearId) (c : ClassGroupId) (done : List ClassCourse)
    (p p' : Progress) : Prop where
  outside : Outside target (· = c) p.db p'.db
  stored : Stored p'.db
  rest : p'.db = { p.db with
    roster := p'.db.roster
    classInstance := p'.db.classInstance }
  homeroom : (p'.db.roster.classGroup.lookup c).map School.ClassGroup.teacher =
    (p.db.roster.classGroup.lookup c).map School.ClassGroup.teacher
  members : p'.db.roster.classMember = p.db.roster.classMember
  report : p'.report = p.report
  forth : ∀ old ∈ done, ∃ i, CopyOf p.db old p'.db c i
  back : ∀ i course, p'.db.roster.linkOf i = some (c, course) →
    ∃ old ∈ done, CopyOf p.db old p'.db c i
  once : ∀ i i' course, p'.db.roster.linkOf i = some (c, course) →
    p'.db.roster.linkOf i' = some (c, course) → i = i'

theorem copyInstances_taught {items : List ClassCourse} (hstored : Stored p.db)
    (hgroup : (p.db.roster.classGroup.lookup c).isSome)
    (hempty : ∀ i course, p.db.roster.linkOf i ≠ some (c, course))
    (hitems : ∀ old ∈ items, ∃ link, p.db.roster.linkOf old.id = some link)
    (h : items.forM (copyInstance feed c by_) p = .ok ⟨⟩ p') :
    Taught target c items p p' := by
  refine Workflow.forM_rule (fun done q => Taught target c done p q) ?_ ?_ h
  · intro done old rest q q' hsplit hinv hone
    obtain ⟨link, hlink⟩ := hitems old (by simp [hsplit])
    have hother : link.1 ≠ c := by
      rintro rfl
      exact hempty old.id link.2 hlink
    obtain ⟨row, hrow, hclass, -⟩ := Roster.linkOf_eq_some.mp hlink
    have hgroup' := hinv.outside.stand c hgroup
    obtain ⟨j, hfree, hnew, hwrites, hstored', hcopy, hreport⟩ :=
      copyInstance_spec hinv.stored hgroup' hone
    have hvacant : ∀ i link, q.db.roster.linkOf i = some link → i ≠ j := by
      rintro i link hheld rfl
      rw [Roster.linkOf, hfree] at hheld
      cases hheld
    have hbase : CopyOf p.db old q'.db c j := by
      refine ⟨hcopy.link, hcopy.columns, fun user => ?_⟩
      rw [hcopy.teachers]
      exact (hinv.outside.same old.id row hrow (by rw [hclass]; exact hother)).teachers user
    have hlater : ∀ i link, i ≠ j → q'.db.roster.linkOf i = some link →
        q.db.roster.linkOf i = some link := by
      intro i link hne hheld
      rw [Roster.linkOf, hwrites.links i hne] at hheld
      exact hheld
    refine ⟨hinv.outside.trans hwrites.outside, hstored', ?_,
      hwrites.homeroom.trans hinv.homeroom, hwrites.members.trans hinv.members,
      hreport.trans hinv.report, fun item hitem => ?_, fun i course hheld => ?_,
      fun i i' course hi hi' => ?_⟩
    · rw [hwrites.rest, hinv.rest]
    · obtain hitem | hitem := List.mem_append.mp hitem
      · obtain ⟨i, hi⟩ := hinv.forth item hitem
        exact ⟨i, hi.of_writes hwrites (hvacant i _ hi.link)⟩
      · obtain rfl := List.mem_singleton.mp hitem
        exact ⟨j, hbase⟩
    · by_cases hij : i = j
      · subst hij
        exact ⟨old, List.mem_append_right _ (List.mem_singleton.mpr rfl), hbase⟩
      · obtain ⟨item, hitem, hcopied⟩ := hinv.back i course (hlater i _ hij hheld)
        exact ⟨item, List.mem_append_left _ hitem, hcopied.of_writes hwrites hij⟩
    · have hcourse : ∀ k, q'.db.roster.linkOf k = some (c, course) → k ≠ j →
        course ≠ old.course := by
        rintro k hk hne rfl
        exact hnew k (hlater k _ hne hk)
      have hown : ∀ k, q'.db.roster.linkOf k = some (c, course) → k = j → course = old.course := by
        rintro k hk rfl
        rw [hbase.link] at hk
        cases hk
        rfl
      by_cases hij : i = j
      · by_contra hne
        exact hcourse i' hi' (fun h' => hne (hij.trans h'.symm)) (hown i hi hij)
      · by_cases hij' : i' = j
        · exact absurd (hown i' hi' hij') (hcourse i hi hij)
        · exact hinv.once i i' course (hlater i _ hij hi) (hlater i' _ hij' hi')
  · exact ⟨.refl target _ _, hstored, rfl, rfl, rfl, rfl, fun _ h => absurd h List.not_mem_nil,
      fun i course hlink => absurd hlink (hempty i course),
      fun i _ course hlink _ => absurd hlink (hempty i course)⟩

/-! ## The members of a section -/

def IsStudent (s : Db) (user : UserId) : Prop := s.appUser.lookup user = some .student

/-- What the verdicts that pass a member over say. -/
theorem addMember_verdict {m : ClassMemberId}
    {source : Option ClassGroupId} {verdict : Attached ClassMember} {roster : Roster}
    (h : s.roster.addMember (s.appUser.lookup user) m pumping user source = (verdict, roster)) :
    (verdict = .pivotGone → ¬ IsStudent s user) ∧
      (verdict = .gone → s.roster.classGroup.lookup pumping.classId = none) := by
  unfold Roster.addMember at h
  split at h
  · cases h
    exact ⟨by simp, by simp⟩
  · split at h
    · next hrole =>
      cases h
      exact ⟨fun _ => hrole, by simp⟩
    · split at h
      · cases h
        exact ⟨by simp, by simp⟩
      · split at h
        · next hgone =>
          cases h
          exact ⟨by simp, fun _ => hgone⟩
        · split at h
          · simp only at h
            split at h
            · cases h
              exact ⟨by simp, by simp⟩
            · cases h
              exact ⟨by simp, by simp⟩
          · cases h
            exact ⟨by simp, by simp⟩

theorem addMemberSourced_verdict {m : ClassMemberId}
    {source : Option ClassGroupId} {verdict : Attached ClassMember}
    (h : addMemberSourced s m pumping user source = .ok (verdict, s')) :
    (verdict = .pivotGone → ¬ IsStudent s user) ∧
      (verdict = .gone → s.roster.classGroup.lookup pumping.classId = none) := by
  unfold addMemberSourced at h
  split at h
  · simp only [Gate.bind_eq_ok, Gate.pure_eq_ok, Prod.mk.injEq] at h
    obtain ⟨-, -, rfl, -⟩ := h
    exact ⟨by simp, by simp⟩
  · next hadd =>
    cases h
    exact addMember_verdict hadd

/-- A member was seated, or is no student any more. -/
theorem copyMember_spec {old : ClassGroupId}
    (hgroup : (p.db.roster.classGroup.lookup c).isSome)
    (h : copyMember feed c old by_ user p = .ok ⟨⟩ p') :
    (Seats c user (some old) p.db p'.db ∧
        p'.report = { p.report with students := p.report.students + 1 }) ∨
      (p'.db = p.db ∧ p'.report = p.report ∧ ¬ IsStudent p.db user) := by
  unfold copyMember at h
  obtain ⟨verdict, mid, hadd, h⟩ := Workflow.bind_eq_ok.mp h
  obtain ⟨db, hsourced, rfl⟩ := transact_eq_ok.mp hadd
  obtain ⟨rfl, hother⟩ | ⟨member, roster, rfl, hfree, hmade, rfl⟩ := addMemberSourced_cases hsourced
  · have hrefused : verdict = .pivotGone ∨ verdict = .gone := by
      cases verdict with
      | made member => exact absurd rfl (hother member)
      | pivotGone => exact .inl rfl
      | gone => exact .inr rfl
      | _ => exact (Workflow.throw_eq_ok.mp h).elim
    obtain ⟨hpivot, hgone⟩ := addMemberSourced_verdict hsourced
    obtain rfl | rfl := hrefused
    · obtain ⟨-, rfl⟩ := Workflow.pure_eq_ok.mp h
      exact .inr ⟨rfl, rfl, hpivot rfl⟩
    · rw [hgone rfl] at hgroup
      cases hgroup
  · obtain rfl := Workflow.modify_eq_ok.mp h
    exact .inl ⟨addMember_seats hfree hmade, rfl⟩

structure Seated (target : AcademicYearId) (c old : ClassGroupId) (done : List UserId)
    (p p' : Progress) : Prop where
  outside : Outside target (· = c) p.db p'.db
  stored : Stored p'.db
  rest : p'.db = { p.db with roster := p'.db.roster }
  homeroom : (p'.db.roster.classGroup.lookup c).map School.ClassGroup.teacher =
    (p.db.roster.classGroup.lookup c).map School.ClassGroup.teacher
  links : ∀ i, p'.db.roster.linkOf i = p.db.roster.linkOf i
  teachers : p'.db.roster.classCourseTeacher = p.db.roster.classCourseTeacher
  report : p'.report = { p.report with students := p'.report.students }
  stints : ∀ m row, p'.db.roster.classMember.lookup m = some row → row.classId = c →
    row.leftAt = none ∧ row.sourceClassGroup = some old ∧ row.user ∈ done ∧
      IsStudent p.db row.user ∧ ∀ i course, p.db.roster.linkOf i = some (c, course) →
        (p'.db.roster.enrollment.lookup (i, row.user)).isSome
  seated : ∀ user ∈ done, IsStudent p.db user →
    ∃ m row, p'.db.roster.classMember.lookup m = some row ∧ row.classId = c ∧ row.user = user
  alone : ∀ m m' row row', p'.db.roster.classMember.lookup m = some row →
    p'.db.roster.classMember.lookup m' = some row' → row.classId = c → row'.classId = c →
    row.user = row'.user → m = m'
  stand : ∀ m, (p.db.roster.classMember.lookup m).isSome →
    (p'.db.roster.classMember.lookup m).isSome
  counted : ∀ t : Table ClassMemberId ClassMember,
    (∀ m, (t.lookup m).isSome → (p.db.roster.classMember.lookup m).isSome) →
    (Table.newRows t p'.db.roster.classMember).length + p.report.students =
      (Table.newRows t p.db.roster.classMember).length + p'.report.students

theorem copyMembers_seated {old : ClassGroupId} {users : List UserId}
    (hstored : Stored p.db) (hgroup : (p.db.roster.classGroup.lookup c).isSome)
    (hempty : ∀ m row, p.db.roster.classMember.lookup m = some row → row.classId ≠ c)
    (h : users.forM (copyMember feed c old by_) p = .ok ⟨⟩ p') :
    Seated target c old users p p' := by
  refine Workflow.forM_rule (fun done q => Seated target c old done p q) ?_ ?_ h
  · intro done user rest q q' hsplit hinv hone
    have hgroup' := hinv.outside.stand c hgroup
    have hstudent : IsStudent q.db user ↔ IsStudent p.db user := by
      rw [IsStudent, hinv.outside.appUser, IsStudent]
    obtain ⟨hseats, hreport⟩ | ⟨hdb, hreport, hno⟩ := copyMember_spec hgroup' hone
    · obtain ⟨m, row, hfree, hmembers, hclass, huser, hleft, hsource⟩ := hseats.stint
      have hlookup : ∀ key, q'.db.roster.classMember.lookup key =
          if key = m then some row else q.db.roster.classMember.lookup key := by
        intro key
        rw [hmembers, lookup_insert_eq]
      have hnone : ∀ key other, q.db.roster.classMember.lookup key = some other →
          other.classId = c → other.user ≠ user := by
        intro key other hother hother' hsame
        have hlive : q.db.roster.isLiveMember c user = true := by
          rw [← Roster.pump_member]
          exact ⟨key, Roster.pump_live.mpr ⟨other, hother, (hinv.stints key other hother hother').1,
            hother', hsame⟩⟩
        rw [hseats.absent] at hlive
        cases hlive
      refine ⟨hinv.outside.trans hseats.outside, hseats.stored hinv.stored hgroup', ?_,
        hseats.homeroom.trans hinv.homeroom, fun i => (hseats.links i).trans (hinv.links i),
        hseats.teachers.trans hinv.teachers, ?_, fun key other hother hother' => ?_,
        fun other hother hyes => ?_, fun key key' other other' hkey hkey' hc hc' hsame => ?_,
        fun key hkey => ?_, fun t ht => ?_⟩
      · rw [hseats.rest, hinv.rest]
      · rw [hreport, hinv.report]
      · rw [hlookup] at hother
        split at hother
        · cases hother
          refine ⟨hleft, hsource, ?_, ?_, fun i course hlink => ?_⟩
          · rw [huser]
            exact List.mem_append_right _ (List.mem_singleton.mpr rfl)
          · rw [huser, ← hstudent]
            exact hseats.student
          · rw [huser]
            exact hseats.enrolled i course (by rw [hinv.links, hlink])
        · obtain ⟨hleft', hsource', hdone, hyes, henrolled⟩ := hinv.stints key other hother hother'
          exact ⟨hleft', hsource', List.mem_append_left _ hdone, hyes,
            fun i course hlink => hseats.kept _ (henrolled i course hlink)⟩
      · obtain hother | hother := List.mem_append.mp hother
        · obtain ⟨key, stint, hstint, hmatch⟩ := hinv.seated other hother hyes
          refine ⟨key, stint, ?_, hmatch⟩
          rw [hlookup, if_neg, hstint]
          rintro rfl
          rw [hfree] at hstint
          cases hstint
        · obtain rfl := List.mem_singleton.mp hother
          exact ⟨m, row, by rw [hlookup, if_pos rfl], hclass, huser⟩
      · rw [hlookup] at hkey hkey'
        split at hkey
        · next heq =>
          cases hkey
          split at hkey'
          · next heq' => rw [heq, heq']
          · exact absurd (hsame.symm.trans huser) (hnone key' other' hkey' hc')
        · split at hkey'
          · cases hkey'
            exact absurd (hsame.trans huser) (hnone key other hkey hc)
          · exact hinv.alone key key' other other' hkey hkey' hc hc' hsame
      · rw [hlookup]
        split
        · rfl
        · exact hinv.stand key hkey
      · have hold : t.lookup m = none := by
          by_contra hne
          have hsome := hinv.stand m (ht m (Option.isSome_iff_ne_none.mpr hne))
          rw [hfree] at hsome
          cases hsome
        have hlength := Table.length_newRows_insert hold hfree row
        have hcounted := hinv.counted t ht
        rw [hmembers, hlength, hreport]
        simp only
        omega
    · refine ⟨hdb ▸ hinv.outside, hdb ▸ hinv.stored, by rw [hdb]; exact hinv.rest,
        by rw [hdb]; exact hinv.homeroom, by rw [hdb]; exact hinv.links,
        by rw [hdb]; exact hinv.teachers, by rw [hreport]; exact hinv.report, ?_, ?_, ?_, ?_, ?_⟩
      · rw [hdb]
        intro key other hother hother'
        obtain ⟨hleft, hsource, hdone, hrest⟩ := hinv.stints key other hother hother'
        exact ⟨hleft, hsource, List.mem_append_left _ hdone, hrest⟩
      · rw [hdb]
        intro other hother hyes
        obtain hother | hother := List.mem_append.mp hother
        · exact hinv.seated other hother hyes
        · obtain rfl := List.mem_singleton.mp hother
          exact absurd (hstudent.mpr hyes) hno
      · rw [hdb]
        exact hinv.alone
      · rw [hdb]
        exact hinv.stand
      · rw [hdb, hreport]
        exact hinv.counted
  · exact ⟨.refl target _ _, hstored, rfl, rfl, fun _ => rfl, rfl, rfl,
      fun m row hrow hclass => absurd hclass (hempty m row hrow), fun _ h =>
        absurd h List.not_mem_nil,
      fun m _ row _ hrow _ hclass _ _ => absurd hclass (hempty m row hrow), fun _ hm => hm,
      fun _ _ => rfl⟩

/-! ## The copy of a section -/

structure Copied (target : AcademicYearId) (next : GradeLevel) (s : Db) (old : ClassGroup) (s' : Db)
    (c : ClassGroupId) : Prop where
  columns : s'.classSection.lookup c = some ⟨old.columns.name, next, some target⟩
  homeroom : (s'.roster.classGroup.lookup c).map School.ClassGroup.teacher = some old.teacher
  forth : ∀ item ∈ listForClass s old.id, ∃ i, CopyOf s item s' c i
  back : ∀ i course, s'.roster.linkOf i = some (c, course) →
    ∃ item ∈ listForClass s old.id, CopyOf s item s' c i
  once : ∀ i i' course, s'.roster.linkOf i = some (c, course) →
    s'.roster.linkOf i' = some (c, course) → i = i'
  stints : ∀ m row, s'.roster.classMember.lookup m = some row → row.classId = c →
    row.leftAt = none ∧ row.sourceClassGroup = some old.id ∧
      s.roster.isLiveMember old.id row.user = true ∧ IsStudent s row.user ∧
      ∀ i course, s'.roster.linkOf i = some (c, course) →
        (s'.roster.enrollment.lookup (i, row.user)).isSome
  seated : ∀ user, s.roster.isLiveMember old.id user = true → IsStudent s user →
    ∃ m row, s'.roster.classMember.lookup m = some row ∧ row.classId = c ∧ row.user = user
  alone : ∀ m m' row row', s'.roster.classMember.lookup m = some row →
    s'.roster.classMember.lookup m' = some row' → row.classId = c → row'.classId = c →
    row.user = row'.user → m = m'

/-- What the copy of one section writes beside the image: the claim of the year and what the
report counts. -/
structure Planted (target : AcademicYearId) (c : ClassGroupId) (p p' : Progress) : Prop where
  fresh : p.db.roster.classGroup.lookup c = none
  outside : Outside target (· = c) p.db p'.db
  stored : Stored p'.db
  sections : ∃ columns, p'.db.classSection = p.db.classSection.insert c columns
  year : p'.db.academicYear.lookup target =
    (p.db.academicYear.lookup target).map AcademicYear.claimClass
  classes : p'.report.classes = p.report.classes + 1
  stand : ∀ m, (p.db.roster.classMember.lookup m).isSome →
    (p'.db.roster.classMember.lookup m).isSome
  counted : ∀ t : Table ClassMemberId ClassMember,
    (∀ m, (t.lookup m).isSome → (p.db.roster.classMember.lookup m).isSome) →
    (Table.newRows t p'.db.roster.classMember).length + p.report.students =
      (Table.newRows t p.db.roster.classMember).length + p'.report.students

variable {inside : ClassGroupId → Prop}

theorem Outside.isLiveMember (h : Outside target inside s s')
    (hclass : ¬ inside classId) (user : UserId) :
    s'.roster.isLiveMember classId user = true ↔ s.roster.isLiveMember classId user = true := by
  rw [← Roster.pump_member, ← Roster.pump_member]
  constructor
  · rintro ⟨m, hm⟩
    obtain ⟨row, hrow, hleft, hown, huser⟩ := Roster.pump_live.mp hm
    exact ⟨m, Roster.pump_live.mpr
      ⟨row, (h.members m row (by rwa [hown])).mp hrow, hleft, hown, huser⟩⟩
  · rintro ⟨m, hm⟩
    obtain ⟨row, hrow, hleft, hown, huser⟩ := Roster.pump_live.mp hm
    exact ⟨m, Roster.pump_live.mpr
      ⟨row, (h.members m row (by rwa [hown])).mpr hrow, hleft, hown, huser⟩⟩

theorem Outside.isStudent (h : Outside target inside s s')
    (user : UserId) : IsStudent s' user ↔ IsStudent s user := by
  rw [IsStudent, h.appUser, IsStudent]

theorem Outside.mem_listForClass (h : Outside target inside s s')
    (hclass : ¬ inside classId) {item : ClassCourse} :
    item ∈ listForClass s' classId ↔ item ∈ listForClass s classId := by
  rw [Rollovers.mem_listForClass, Rollovers.mem_listForClass, h.linkOf hclass]
  refine and_congr_right fun hlink => ?_
  obtain ⟨row, hrow, hown, -⟩ := Roster.linkOf_eq_some.mp hlink
  rw [(h.same item.id row hrow (by rwa [hown])).columns]

variable {next : GradeLevel} {old : ClassGroup}

theorem Copied.of_earlier {s₀ : Db}
    (h : Copied target next s old s' c) (houtside : Outside target inside s₀ s)
    (hold : ¬ inside old.id) : Copied target next s₀ old s' c := by
  have hcopy : ∀ item ∈ listForClass s₀ old.id, ∀ i, CopyOf s item s' c i →
      CopyOf s₀ item s' c i := by
    intro item hitem i hi
    obtain ⟨row, hrow, hown, -⟩ :=
      Roster.linkOf_eq_some.mp (Rollovers.mem_listForClass.mp hitem).1
    refine ⟨hi.link, hi.columns, fun user => ?_⟩
    rw [hi.teachers, (houtside.same item.id row hrow (by rwa [hown])).teachers]
  refine ⟨h.columns, h.homeroom, fun item hitem => ?_, fun i course hlink => ?_, h.once,
    fun m row hrow hclass => ?_, fun user hlive hstudent => ?_, h.alone⟩
  · obtain ⟨i, hi⟩ := h.forth item ((houtside.mem_listForClass hold).mpr hitem)
    exact ⟨i, hcopy item hitem i hi⟩
  · obtain ⟨item, hitem, hi⟩ := h.back i course hlink
    have hitem' := (houtside.mem_listForClass hold).mp hitem
    exact ⟨item, hitem', hcopy item hitem' i hi⟩
  · obtain ⟨hleft, hsource, hlive, hstudent, henrolled⟩ := h.stints m row hrow hclass
    exact ⟨hleft, hsource, (houtside.isLiveMember hold _).mp hlive,
      (houtside.isStudent _).mp hstudent, henrolled⟩
  · exact h.seated user ((houtside.isLiveMember hold user).mpr hlive)
      ((houtside.isStudent user).mpr hstudent)

/-- What is written outside an image leaves it an image. -/
theorem Copied.of_later
    (h : Copied target next s old s' c) (houtside : Outside target inside s' s'')
    (hc : ¬ inside c) : Copied target next s old s'' c := by
  have hcopy : ∀ item i, CopyOf s item s' c i → CopyOf s item s'' c i := by
    intro item i hi
    obtain ⟨row, hrow, hown, -⟩ := Roster.linkOf_eq_some.mp hi.link
    have hown' : row.classId = c := hown
    have hsame := houtside.same i row hrow (by rwa [hown'])
    exact ⟨(houtside.linkOf hc).mpr hi.link, by rw [hsame.columns]; exact hi.columns,
      fun user => (hsame.teachers user).trans (hi.teachers user)⟩
  refine ⟨(houtside.sections c hc).trans h.columns, by rw [houtside.groups c hc]; exact h.homeroom,
    fun item hitem => ?_, fun i course hlink => ?_, fun i i' course hi hi' => ?_,
    fun m row hrow hclass => ?_, fun user hlive hstudent => ?_,
    fun m m' row row' hm hm' hrow hrow' => ?_⟩
  · obtain ⟨i, hi⟩ := h.forth item hitem
    exact ⟨i, hcopy item i hi⟩
  · obtain ⟨item, hitem, hi⟩ := h.back i course ((houtside.linkOf hc).mp hlink)
    exact ⟨item, hitem, hcopy item i hi⟩
  · exact h.once i i' course ((houtside.linkOf hc).mp hi) ((houtside.linkOf hc).mp hi')
  · obtain ⟨hleft, hsource, hlive, hstudent, henrolled⟩ :=
      h.stints m row ((houtside.members m row (by rwa [hclass])).mp hrow) hclass
    refine ⟨hleft, hsource, hlive, hstudent, fun i course hlink => ?_⟩
    have hlink' := (houtside.linkOf hc).mp hlink
    obtain ⟨held, hheld, hown, -⟩ := Roster.linkOf_eq_some.mp hlink'
    have hown' : held.classId = c := hown
    rw [(houtside.same i held hheld (by rwa [hown'])).enrollments]
    exact henrolled i course hlink'
  · obtain ⟨m, row, hrow, hclass, huser⟩ := h.seated user hlive hstudent
    exact ⟨m, row, (houtside.members m row (by rwa [hclass])).mpr hrow, hclass, huser⟩
  · exact h.alone m m' row row' ((houtside.members m row (by rwa [hrow])).mp hm)
      ((houtside.members m' row' (by rwa [hrow'])).mp hm') hrow hrow'

/-- Both loops over a section make an image of it. -/
theorem copied_of_loops {q : Progress}
    (hold : old.id ≠ c) (htaught : Taught target c (listForClass p.db old.id) p q)
    (hseated : Seated target c old.id (q.db.roster.liveMembers old.id) q p')
    (hcolumns : p.db.classSection.lookup c = some ⟨old.columns.name, next, some target⟩)
    (hteacher : (p.db.roster.classGroup.lookup c).map School.ClassGroup.teacher =
      some old.teacher) : Copied target next p.db old p'.db c := by
  have hcopy : ∀ item i, CopyOf p.db item q.db c i → CopyOf p.db item p'.db c i := by
    intro item i hi
    refine ⟨(hseated.links i).trans hi.link, ?_, fun user => ?_⟩
    · rw [hseated.rest]
      exact hi.columns
    · rw [hseated.teachers]
      exact hi.teachers user
  have hlive : ∀ user, user ∈ q.db.roster.liveMembers old.id ↔
      p.db.roster.isLiveMember old.id user = true := by
    intro user
    rw [Roster.mem_liveMembers, Roster.pump_member, htaught.outside.isLiveMember hold]
  refine ⟨?_, hseated.homeroom.trans (htaught.homeroom.trans hteacher), fun item hitem => ?_,
    fun i course hlink => ?_, fun i i' course hi hi' => ?_, fun m row hrow hclass => ?_,
    fun user hyes hstudent => ?_, hseated.alone⟩
  · rw [hseated.rest, htaught.rest]
    exact hcolumns
  · obtain ⟨i, hi⟩ := htaught.forth item hitem
    exact ⟨i, hcopy item i hi⟩
  · obtain ⟨item, hitem, hi⟩ := htaught.back i course (by rw [← hseated.links, hlink])
    exact ⟨item, hitem, hcopy item i hi⟩
  · rw [hseated.links] at hi hi'
    exact htaught.once i i' course hi hi'
  · obtain ⟨hleft, hsource, hdone, hstudent, henrolled⟩ := hseated.stints m row hrow hclass
    refine ⟨hleft, hsource, (hlive _).mp hdone, (htaught.outside.isStudent _).mp hstudent,
      fun i course hlink => henrolled i course (by rw [← hseated.links, hlink])⟩
  · exact hseated.seated user ((hlive user).mpr hyes)
      ((htaught.outside.isStudent user).mpr hstudent)

theorem copyClass_spec
    (hstored : Stored p.db) (hold : (p.db.roster.classGroup.lookup old.id).isSome)
    (h : copyClass feed target by_ next old p = .ok ⟨⟩ p') :
    ∃ c, Planted target c p p' ∧ Copied target next p.db old p'.db c := by
  unfold copyClass at h
  obtain ⟨c, q, hplant, h⟩ := Workflow.bind_eq_ok.mp h
  obtain ⟨db, htx, rfl⟩ := transact_eq_ok.mp hplant
  simp only [Gate.bind_eq_ok, Gate.pure_eq_ok, Prod.mk.injEq] at htx
  obtain ⟨planted, hinsert, hc, rfl⟩ := htx
  rw [hc] at hinsert
  obtain ⟨_, _, hget, h⟩ := Workflow.bind_eq_ok.mp h
  obtain ⟨rfl, rfl⟩ := Workflow.get_eq_ok.mp hget
  obtain ⟨_, r, hinstances, h⟩ := Workflow.bind_eq_ok.mp h
  obtain ⟨_, _, hget, h⟩ := Workflow.bind_eq_ok.mp h
  obtain ⟨rfl, rfl⟩ := Workflow.get_eq_ok.mp hget
  obtain ⟨_, q, hmembers, h⟩ := Workflow.bind_eq_ok.mp h
  obtain rfl := Workflow.modify_eq_ok.mp h
  have hyear : (⟨old.columns.name, next, some target⟩ : Section).year = some target := rfl
  have houtside := insertClass_outside hyear hinsert
  have hstored' := insertClass_stored hstored hinsert
  obtain ⟨hfree, hplanted⟩ := Years.insertClass_cases hinsert
  have hgroup : planted.roster.classGroup.lookup c = some ⟨old.teacher, 0, 0⟩ := by
    rw [hplanted]
    exact (lookup_insert_eq _ _ _ _).trans (if_pos rfl)
  have hne : old.id ≠ c := by
    intro heq
    rw [heq, hfree] at hold
    cases hold
  have hinstances' : planted.roster.classCourse = p.db.roster.classCourse := by rw [hplanted]
  have hmembers' : planted.roster.classMember = p.db.roster.classMember := by rw [hplanted]
  have htaught : Taught target c (listForClass planted old.id)
      ⟨planted, p.drawn + 1, p.report⟩ r := by
    refine copyInstances_taught hstored' (by rw [hgroup]; rfl) ?_ ?_ hinstances
    · intro i course hlink
      obtain ⟨row, hrow, hown, -⟩ := Roster.linkOf_eq_some.mp hlink
      have hown' : row.classId = c := hown
      rw [hinstances'] at hrow
      have hheld := hstored.links i row hrow
      rw [hown', hfree] at hheld
      cases hheld
    · intro item hitem
      exact ⟨_, (mem_listForClass.mp hitem).1⟩
  have hseated : Seated target c old.id (r.db.roster.liveMembers old.id) r q := by
    refine copyMembers_seated htaught.stored ?_ ?_ hmembers
    · exact htaught.outside.stand c (by rw [hgroup]; rfl)
    · intro m row hrow hown
      rw [htaught.members] at hrow
      change planted.roster.classMember.lookup m = _ at hrow
      rw [hmembers'] at hrow
      have hheld := hstored.members m row hrow
      rw [hown, hfree] at hheld
      cases hheld
  have hcolumns : planted.classSection.lookup c =
      some ⟨old.columns.name, next, some target⟩ := by
    rw [hplanted]
    exact (lookup_insert_eq _ _ _ _).trans (if_pos rfl)
  have hteacher : (planted.roster.classGroup.lookup c).map School.ClassGroup.teacher =
      some old.teacher := by
    rw [hgroup]
    rfl
  have hcopied : Copied target next planted old q.db c :=
    copied_of_loops (p := ⟨planted, p.drawn + 1, p.report⟩) hne htaught hseated hcolumns hteacher
  refine ⟨c, ⟨hfree, houtside.trans (htaught.outside.trans hseated.outside), hseated.stored,
    ⟨⟨old.columns.name, next, some target⟩, ?_⟩, ?_, ?_, ?_, ?_⟩, hcopied.of_earlier houtside hne⟩
  · change q.db.classSection = _
    rw [hseated.rest, htaught.rest, hplanted]
  · change q.db.academicYear.lookup target = _
    rw [hseated.rest, htaught.rest, hplanted]
    change (Table.update p.db.academicYear _).lookup target = _
    rw [lookup_update]
    cases p.db.academicYear.lookup target with
    | none => rfl
    | some => simp
  · change q.report.classes + 1 = _
    rw [hseated.report, htaught.report]
  · intro m hm
    refine hseated.stand m ?_
    rw [htaught.members]
    change (planted.roster.classMember.lookup m).isSome
    rw [hmembers']
    exact hm
  · intro t ht
    have hbase : r.db.roster.classMember = p.db.roster.classMember := by
      rw [htaught.members]
      exact hmembers'
    have hcounted := hseated.counted t (by rw [hbase]; exact ht)
    rw [hbase, htaught.report] at hcounted
    exact hcounted

/-! ## The sections of a year -/

theorem mem_listForYear {year : AcademicYearId} :
    old ∈ listForYear s year ↔
      s.classSection.lookup old.id = some old.columns ∧ old.columns.year = some year ∧
        old.teacher = (s.roster.classGroup.lookup old.id).bind School.ClassGroup.teacher := by
  unfold listForYear
  simp only [List.mem_map, List.mem_filter, decide_eq_true_eq]
  constructor
  · rintro ⟨⟨c, columns⟩, ⟨hentry, hyear⟩, rfl⟩
    exact ⟨mem_entries_iff_lookup.mp hentry, hyear, rfl⟩
  · rintro ⟨hlookup, hyear, hteacher⟩
    refine ⟨⟨old.id, old.columns⟩, ⟨mem_entries_iff_lookup.mpr hlookup, hyear⟩, ?_⟩
    cases old
    simp_all

theorem listForYear_nodup (s : Db) (year : AcademicYearId) :
    ((listForYear s year).map ClassGroup.id).Nodup := by
  have hkeys : (s.classSection.entries.map Sigma.fst).Nodup := s.classSection.nodupKeys
  unfold listForYear
  rw [List.map_map]
  exact hkeys.sublist (List.filter_sublist.map _)

/-- The section moves up to the grade `next`. -/
def Promoted (year : AcademicYear) (old : ClassGroup) (next : GradeLevel) : Prop :=
  year.promotionFor old.columns.gradeLevel = some next

structure Carried (target : AcademicYearId) (year : AcademicYear) (targetYear : AcademicYear)
    (done : List ClassGroup) (s : Db) (p : Progress) (copies : List (ClassGroup × ClassGroupId)) :
    Prop where
  outside : Outside target (fun c => s.roster.classGroup.lookup c = none) s p.db
  stored : Stored p.db
  sources : ∀ old, (∃ c, (old, c) ∈ copies) ↔ old ∈ done ∧ ∃ next, Promoted year old next
  distinct : (copies.map fun copy => copy.1.id).Nodup
  apart : (copies.map Prod.snd).Nodup
  planted : ∀ c, c ∈ copies.map Prod.snd ↔
    s.roster.classGroup.lookup c = none ∧ (p.db.roster.classGroup.lookup c).isSome
  image : ∀ copy ∈ copies, ∀ next, Promoted year copy.1 next →
    Copied target next s copy.1 p.db copy.2
  classes : p.report.classes = copies.length
  sections : (Table.newRows s.classSection p.db.classSection).length = copies.length
  stand : ∀ m, (s.roster.classMember.lookup m).isSome → (p.db.roster.classMember.lookup m).isSome
  students : (Table.newRows s.roster.classMember p.db.roster.classMember).length =
    p.report.students
  counter : p.db.academicYear.lookup target =
    some { targetYear with classCount := targetYear.classCount + copies.length }

theorem carry_carried {year targetYear : AcademicYear}
    {done : List ClassGroup} {copies : List (ClassGroup × ClassGroupId)} (hstored : Stored s)
    (hinv : Carried target year targetYear done s p copies)
    (hold : (s.roster.classGroup.lookup old.id).isSome)
    (hnew : old.id ∉ done.map ClassGroup.id)
    (h : carry feed target by_ year old p = .ok ⟨⟩ p') :
    ∃ copies', Carried target year targetYear (done ++ [old]) s p' copies' := by
  unfold carry at h
  cases hnext : year.promotionFor old.columns.gradeLevel with
  | none =>
      rw [hnext] at h
      obtain rfl := Workflow.modify_eq_ok.mp h
      have hreport : ∀ report : RolloverReport,
          (graduate old.columns.gradeLevel report).classes = report.classes ∧
            (graduate old.columns.gradeLevel report).students = report.students := by
        intro report
        unfold graduate
        split <;> exact ⟨rfl, rfl⟩
      refine ⟨copies, hinv.outside, hinv.stored, fun other => ?_, hinv.distinct, hinv.apart,
        hinv.planted, hinv.image, (hreport _).1.trans hinv.classes, hinv.sections, hinv.stand,
        hinv.students.trans (hreport _).2.symm, hinv.counter⟩
      rw [hinv.sources, List.mem_append, List.mem_singleton]
      constructor
      · rintro ⟨hdone, hsome⟩
        exact ⟨.inl hdone, hsome⟩
      · rintro ⟨hdone | rfl, next, hsome⟩
        · exact ⟨hdone, next, hsome⟩
        · rw [Promoted, hnext] at hsome
          cases hsome
  | some next =>
      rw [hnext] at h
      obtain ⟨c, hplanted, hcopied⟩ :=
        copyClass_spec hinv.stored (hinv.outside.stand _ hold) h
      have habsent : s.roster.classGroup.lookup c = none := by
        by_contra hne
        have hstand := hinv.outside.stand c (Option.isSome_iff_ne_none.mpr hne)
        rw [hplanted.fresh] at hstand
        cases hstand
      have hinside : ¬ s.roster.classGroup.lookup old.id = none :=
        Option.isSome_iff_ne_none.mp hold
      have hlater : ∀ copy ∈ copies, copy.2 ≠ c := by
        intro copy hcopy heq
        have hthere := ((hinv.planted copy.2).mp (List.mem_map_of_mem hcopy)).2
        rw [heq, hplanted.fresh] at hthere
        cases hthere
      have hstands : (p'.db.roster.classGroup.lookup c).isSome := by
        have hhome := congrArg Option.isSome hcopied.homeroom
        simpa using hhome
      obtain ⟨columns, hsections⟩ := hplanted.sections
      have hvacant : ∀ t : Db, Stored t → t.roster.classGroup.lookup c = none →
          t.classSection.lookup c = none := by
        intro t ht hnone
        have hsome := ht.sections c
        rw [hnone] at hsome
        simpa using hsome
      refine ⟨copies ++ [(old, c)], hinv.outside.trans (hplanted.outside.mono ?_), hplanted.stored,
        fun other => ?_, ?_, ?_, fun other => ?_, fun copy hcopy next' hnext' => ?_, ?_, ?_,
        fun m hm => hplanted.stand m (hinv.stand m hm), ?_, ?_⟩
      · rintro other rfl
        exact habsent
      · rw [List.mem_append, List.mem_singleton]
        constructor
        · rintro ⟨other', hmem⟩
          obtain hmem | hmem := List.mem_append.mp hmem
          · obtain ⟨hdone, hsome⟩ := (hinv.sources other).mp ⟨other', hmem⟩
            exact ⟨.inl hdone, hsome⟩
          · obtain ⟨rfl, -⟩ := Prod.mk.inj (List.mem_singleton.mp hmem)
            exact ⟨.inr rfl, next, hnext⟩
        · rintro ⟨hdone | rfl, hsome⟩
          · obtain ⟨other', hmem⟩ := (hinv.sources other).mpr ⟨hdone, hsome⟩
            exact ⟨other', List.mem_append_left _ hmem⟩
          · exact ⟨c, List.mem_append_right _ (List.mem_singleton.mpr rfl)⟩
      · rw [List.map_append, List.nodup_append]
        refine ⟨hinv.distinct, List.nodup_singleton _, fun id hid id' hid' heq => hnew ?_⟩
        obtain ⟨copy, hcopy, rfl⟩ := List.mem_map.mp hid
        obtain rfl := List.mem_singleton.mp hid'
        have hdone := ((hinv.sources copy.1).mp ⟨copy.2, hcopy⟩).1
        exact List.mem_map.mpr ⟨copy.1, hdone, heq⟩
      · rw [List.map_append, List.nodup_append]
        refine ⟨hinv.apart, List.nodup_singleton _, fun id hid id' hid' heq => ?_⟩
        obtain ⟨copy, hcopy, rfl⟩ := List.mem_map.mp hid
        obtain rfl := List.mem_singleton.mp hid'
        exact hlater copy hcopy heq
      · rw [List.map_append, List.mem_append, hinv.planted]
        constructor
        · rintro (⟨hnone, hsome⟩ | hmem)
          · exact ⟨hnone, hplanted.outside.stand other hsome⟩
          · obtain rfl := List.mem_singleton.mp hmem
            exact ⟨habsent, hstands⟩
        · rintro ⟨hnone, hsome⟩
          by_cases hother : other = c
          · exact .inr (List.mem_singleton.mpr hother)
          · rw [hplanted.outside.groups other hother] at hsome
            exact .inl ⟨hnone, hsome⟩
      · obtain hcopy | hcopy := List.mem_append.mp hcopy
        · exact (hinv.image copy hcopy next' hnext').of_later hplanted.outside (hlater copy hcopy)
        · obtain rfl := List.mem_singleton.mp hcopy
          rw [Promoted, hnext, Option.some.injEq] at hnext'
          subst hnext'
          exact hcopied.of_earlier hinv.outside hinside
      · rw [hplanted.classes, hinv.classes, List.length_append, List.length_singleton]
      · rw [hsections, Table.length_newRows_insert (hvacant s hstored habsent)
          (hvacant p.db hinv.stored hplanted.fresh), hinv.sections, List.length_append,
          List.length_singleton]
      · have hcounted := hplanted.counted _ hinv.stand
        have hstudents := hinv.students
        omega
      · rw [hplanted.year, hinv.counter, List.length_append, List.length_singleton]
        simp only [Option.map_some, AcademicYear.claimClass, Nat.cast_add, Nat.cast_one, add_assoc]

variable {source : AcademicYearId}

theorem preflight_eq_ok {year : AcademicYear}
    (h : preflight s target source = .ok year) :
    source ≠ target ∧ s.academicYear.lookup source = some year ∧
      ∃ targetYear, s.academicYear.lookup target = some targetYear ∧ targetYear.classCount = 0 := by
  unfold preflight at h
  simp only [Gate.bind_eq_ok, Gate.found_eq_ok, Gate.ensure_eq_ok, decide_eq_true_eq] at h
  obtain ⟨targetYear, htarget, _, -, _, hne, _, hcount, hyear⟩ := h
  exact ⟨fun heq => hne heq.symm, hyear, targetYear, htarget, hcount⟩

structure Unchanged (target : AcademicYearId) (s s' : Db) : Prop where
  rest : s' = { s with
    academicYear := s'.academicYear
    roster := s'.roster
    classSection := s'.classSection
    classInstance := s'.classInstance }
  years : ∀ year, year ≠ target → s'.academicYear.lookup year = s.academicYear.lookup year
  sections : ∀ c, (s.classSection.lookup c).isSome →
    s'.classSection.lookup c = s.classSection.lookup c ∧
      s'.roster.classGroup.lookup c = s.roster.classGroup.lookup c
  instances : ∀ i, (s.roster.classCourse.lookup i).isSome →
    s'.roster.classCourse.lookup i = s.roster.classCourse.lookup i ∧ Same s s' i
  members : ∀ m, (s.roster.classMember.lookup m).isSome →
    s'.roster.classMember.lookup m = s.roster.classMember.lookup m

theorem Outside.unchanged (hstored : Stored s)
    (h : Outside target (fun c => s.roster.classGroup.lookup c = none) s s') :
    Unchanged target s s' where
  rest := h.rest
  years := h.years
  sections c hc := by
    rw [hstored.sections, Option.isSome_iff_ne_none] at hc
    exact ⟨h.sections c hc, h.groups c hc⟩
  instances i hi := by
    obtain ⟨row, hrow⟩ := Option.isSome_iff_exists.mp hi
    have hclass := Option.isSome_iff_ne_none.mp (hstored.links i row hrow)
    exact ⟨((h.links i row hclass).mpr hrow).trans hrow.symm, h.same i row hrow hclass⟩
  members m hm := by
    obtain ⟨row, hrow⟩ := Option.isSome_iff_exists.mp hm
    have hclass := Option.isSome_iff_ne_none.mp (hstored.members m row hrow)
    exact ((h.members m row hclass).mpr hrow).trans hrow.symm

/-- A rollover that came back with its report: `copies` pairs each promoted section of the source
year with the section that was planted for it. -/
structure RolledOver (target source : AcademicYearId) (s s' : Db) (report : RolloverReport)
    (promotions : AcademicYear) (copies : List (ClassGroup × ClassGroupId)) : Prop where
  year : source ≠ target ∧ s.academicYear.lookup source = some promotions
  sources : ∀ old, (∃ c, (old, c) ∈ copies) ↔
    old ∈ listForYear s source ∧ ∃ next, Promoted promotions old next
  distinct : (copies.map fun copy => copy.1.id).Nodup
  apart : (copies.map Prod.snd).Nodup
  planted : ∀ c, c ∈ copies.map Prod.snd ↔
    s.classSection.lookup c = none ∧ (s'.classSection.lookup c).isSome
  image : ∀ copy ∈ copies, ∀ next, Promoted promotions copy.1 next →
    Copied target next s copy.1 s' copy.2
  unchanged : Unchanged target s s'
  classes : report.classes = copies.length ∧
    (Table.newRows s.classSection s'.classSection).length = report.classes
  students : (Table.newRows s.roster.classMember s'.roster.classMember).length = report.students

theorem carryAll_carried {report : RolloverReport}
    (hstored : Stored s) (h : carryAll feed target source by_ ⟨s, 0, ⟨0, 0, []⟩⟩ = .ok report p') :
    report = p'.report ∧ ∃ year targetYear copies, preflight s target source = .ok year ∧
      targetYear.classCount = 0 ∧
      Carried target year targetYear (listForYear s source) s p' copies := by
  unfold carryAll at h
  obtain ⟨_, _, hget, h⟩ := Workflow.bind_eq_ok.mp h
  obtain ⟨rfl, rfl⟩ := Workflow.get_eq_ok.mp hget
  obtain ⟨year, _, hgate, h⟩ := Workflow.bind_eq_ok.mp h
  obtain ⟨hpreflight, rfl⟩ := Workflow.gate_eq_ok.mp hgate
  obtain ⟨_, q, hloop, h⟩ := Workflow.bind_eq_ok.mp h
  obtain ⟨_, _, hget, h⟩ := Workflow.bind_eq_ok.mp h
  obtain ⟨rfl, rfl⟩ := Workflow.get_eq_ok.mp hget
  obtain ⟨rfl, rfl⟩ := Workflow.pure_eq_ok.mp h
  obtain ⟨-, -, targetYear, htarget, hcount⟩ := preflight_eq_ok hpreflight
  refine ⟨rfl, year, targetYear, ?_⟩
  have hcarried : ∃ copies, Carried target year targetYear (listForYear s source) s q copies := by
    refine Workflow.forM_rule
      (fun done q => ∃ copies, Carried target year targetYear done s q copies) ?_ ?_ hloop
    · rintro done old rest q q' hsplit ⟨copies, hinv⟩ hone
      have hmem : old ∈ listForYear s source := by
        rw [hsplit]
        exact List.mem_append_right _ List.mem_cons_self
      have hold : (s.roster.classGroup.lookup old.id).isSome := by
        rw [← hstored.sections, (mem_listForYear.mp hmem).1]
        rfl
      have hnodup := listForYear_nodup s source
      rw [hsplit, List.map_append, List.map_cons, List.nodup_append] at hnodup
      have hnew : old.id ∉ done.map ClassGroup.id := fun hdone =>
        hnodup.2.2 old.id hdone old.id List.mem_cons_self rfl
      exact carry_carried hstored hinv hold hnew hone
    · refine ⟨[], .refl _ _ _, hstored, fun old => ?_, List.nodup_nil, List.nodup_nil,
        fun c => ?_, nofun, rfl, ?_, fun _ hm => hm, ?_, ?_⟩
      · simp
      · constructor
        · nofun
        · rintro ⟨hnone, hsome⟩
          rw [hnone] at hsome
          cases hsome
      · rw [Table.newRows_eq_nil fun _ hnone => hnone]
        rfl
      · rw [Table.newRows_eq_nil fun _ hnone => hnone]
        rfl
      · simp [htarget]
  obtain ⟨copies, hcarried⟩ := hcarried
  exact ⟨copies, hpreflight, hcount, hcarried⟩

theorem rollover_refused {refusal : Refusal}
    (h : preflight s target source = .error refusal) :
    rollover feed target source by_ s = (.error refusal, s) := by
  have hrun : carryAll feed target source by_ ⟨s, 0, ⟨0, 0, []⟩⟩ =
      .error refusal ⟨s, 0, ⟨0, 0, []⟩⟩ := by
    change EStateM.bind (Workflow.gate (preflight s target source)) _ _ = _
    simp only [EStateM.bind, Workflow.gate, h]
  unfold rollover
  rw [hrun]

/-- What a rollover that returns a report has created, counted and left alone; the next one into
the same year is turned away unless nothing moved up. -/
theorem rollover_is_image {source : AcademicYearId} {by_ : UserId} {report : RolloverReport}
    (hstored : Stored s) (h : rollover feed target source by_ s = (.ok report, s')) :
    (∃ year copies, RolledOver target source s s' report year copies) ∧
      (report.classes ≠ 0 → ∀ feed' source' by', ∃ refusal,
        rollover feed' target source' by' s' = (.error refusal, s')) := by
  unfold rollover at h
  split at h
  · next answer progress hrun =>
    cases h
    obtain ⟨rfl, year, targetYear, copies, hpreflight, hcount, hcarried⟩ :=
      carryAll_carried hstored hrun
    obtain ⟨hne, hyear, -⟩ := preflight_eq_ok hpreflight
    have hplanted : ∀ c, c ∈ copies.map Prod.snd ↔
        s.classSection.lookup c = none ∧ (progress.db.classSection.lookup c).isSome := by
      intro c
      rw [hcarried.planted, hcarried.stored.sections, ← Option.not_isSome_iff_eq_none,
        ← hstored.sections, Option.not_isSome_iff_eq_none]
    refine ⟨⟨year, copies, ⟨hne, hyear⟩, hcarried.sources, hcarried.distinct, hcarried.apart,
      hplanted, hcarried.image, hcarried.outside.unchanged hstored,
      ⟨hcarried.classes, hcarried.sections.trans hcarried.classes.symm⟩, hcarried.students⟩,
      fun hsome feed' source' by' => ?_⟩
    cases hagain : preflight progress.db target source' with
    | error refusal => exact ⟨refusal, rollover_refused hagain⟩
    | ok again =>
        obtain ⟨-, -, row, hrow, hzero⟩ := preflight_eq_ok hagain
        rw [hcarried.counter, Option.some.injEq] at hrow
        subst hrow
        rw [hcarried.classes] at hsome
        simp only at hzero
        omega
  · cases h

namespace Sample

open School.Sample (headmaster ayse accounts ali firstUuid secondUuid fourthUuid)

def ninth : GradeLevel := .ninth

def tenth : GradeLevel := ⟨10, by decide, by decide⟩

def oldYear : AcademicYearId := ⟨firstUuid⟩

def newYear : AcademicYearId := ⟨secondUuid⟩

def nineA : ClassGroupId := ⟨firstUuid⟩

def maths : CourseId := ⟨firstUuid⟩

def mathsOf (c : Uuid) : ClassCourseId := ⟨c⟩

/-- One section with a live member, and with an instance that the member is enrolled in and a
teacher runs. -/
def roster : Roster where
  classGroup := (∅ : Table ClassGroupId School.ClassGroup).insert nineA ⟨some ayse, 1, 1⟩
  course := (∅ : Table CourseId School.Course).insert maths ⟨.course, 1⟩
  classCourse := (∅ : Table ClassCourseId School.ClassCourse).insert (mathsOf firstUuid)
    ⟨nineA, maths, headmaster, 0, 1⟩
  classCourseTeacher := (∅ : Table (ClassCourseId × UserId) Unit).insert
    (mathsOf firstUuid, ayse) ()
  classMember := (∅ : Table ClassMemberId ClassMember).insert ⟨firstUuid⟩
    ⟨nineA, ali, headmaster, 0, none, none⟩
  enrollment := (∅ : Table (ClassCourseId × UserId) School.Enrollment).insert
    (mathsOf firstUuid, ali) ⟨headmaster, some nineA, 0⟩

def school : Db where
  appUser := accounts
  academicYear := ((∅ : Table AcademicYearId AcademicYear).insert oldYear
    ⟨[(ninth, tenth)], 1, 0, none⟩).insert newYear ⟨[], 0, 0, none⟩
  term := ∅
  karneSnapshot := ∅
  roster := roster
  classSection := (∅ : Table ClassGroupId Section).insert nineA ⟨"9-A", ninth, some oldYear⟩
  classInstance := (∅ : Table ClassCourseId Instance).insert (mathsOf firstUuid)
    { Instance.fresh (some ninth) ⟨maths, ninth⟩ with dersSaati := some 4 }
  classBlueprint := ∅
  courseCreator := ∅
  subjectCourse := ∅
  exams := .empty
  examAudience := ∅
  offeringSubject := ∅
  classCourseSubject := ∅
  classCourseSlot := ∅
  classCourseExamWeight := ∅
  courseSession := ∅
  homework := ∅

theorem school_stored : Stored school where
  sections other := by
    simp only [school, roster, lookup_insert_eq]
    split <;> rfl
  columns i hi := by
    simp only [school, roster, lookup_insert_eq] at hi ⊢
    split at hi
    · next heq =>
      rw [if_pos heq]
      rfl
    · cases hi
  links i row hrow := by
    obtain ⟨-, rfl⟩ | ⟨-, hrow⟩ := insert_cases hrow
    · rfl
    · cases hrow
  teachers i user hteaches := by
    obtain ⟨_, hlookup⟩ := Option.isSome_iff_exists.mp hteaches
    obtain ⟨hkey, -⟩ | ⟨-, hlookup⟩ := insert_cases hlookup
    · cases hkey
      rfl
    · cases hlookup
  members m row hrow := by
    obtain ⟨-, rfl⟩ | ⟨-, hrow⟩ := insert_cases hrow
    · rfl
    · cases hrow

def drawing : Feed := ⟨fun _ => fourthUuid, fun n => n⟩

def rolled : Except Refusal RolloverReport × Db :=
  rollover drawing newYear oldYear headmaster school

theorem rollover_is_image_ninth :
    ∃ year copies, RolledOver newYear oldYear school rolled.2 ⟨1, 1, []⟩ year copies ∧
      rolled.2.roster.linkOf (mathsOf fourthUuid) = some (⟨fourthUuid⟩, maths) ∧
      (rolled.2.roster.enrollment.lookup (mathsOf fourthUuid, ali)).map
        School.Enrollment.source = some (some ⟨fourthUuid⟩) := by
  have hreport : rolled.1 = .ok ⟨1, 1, []⟩ := by
    decide +kernel
  have hrun : rolled = (.ok ⟨1, 1, []⟩, rolled.2) := by rw [← hreport]
  obtain ⟨year, copies, hrolled⟩ := (rollover_is_image school_stored hrun).1
  exact ⟨year, copies, hrolled, by decide +kernel, by decide +kernel⟩

end Sample

end Hezarfen.Rollovers
