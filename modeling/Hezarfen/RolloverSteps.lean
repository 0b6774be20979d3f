import Hezarfen.Rollovers
import Hezarfen.RosterPump
import Hezarfen.YearSteps

/-!
# What the transactions of a rollover write

Each of them writes rows of the section that is being planted and no others.  The relation
`Outside` says so of any stretch of the run, whatever hangs under the sections that it leaves
alone.
-/

namespace Hezarfen.Years

open School (Roster ClassGroupId CourseId ClassCourseId)

variable {s s' : Db}

theorem insertClass_cases {id : ClassGroupId} {columns : Section} {teacher : Option UserId}
    (h : s.insertClass id columns teacher = .ok s') :
    s.roster.classGroup.lookup id = none ∧
      s' = { s.updateYear columns.year AcademicYear.claimClass with
        roster := { s.roster with
          classGroup := s.roster.classGroup.insert id ⟨teacher, 0, 0⟩ }
        classSection := s.classSection.insert id columns } := by
  unfold Db.insertClass at h
  simp only [Gate.bind_eq_ok, Gate.ensure_eq_ok, Gate.pure_eq_ok] at h
  obtain ⟨-, -, -, hfree, rfl⟩ := h
  exact ⟨by simpa using hfree, rfl⟩

theorem attachSourced_made {id : ClassCourseId} {pumping : Roster.Pumping} {course : CourseId}
    {source : Option GradeLevel} {link : School.ClassCourse}
    (h : s.attachSourced id pumping course source = .ok (.attached (.made link), s')) :
    ∃ roster row, s.roster.attachCourse id pumping course = .ok (.made link, roster) ∧
      s.roster.classCourse.lookup id = none ∧
      s' = { s with
        roster := roster
        classInstance := s.classInstance.insert id (.fresh source ⟨course, row⟩) } := by
  unfold Db.attachSourced at h
  split at h
  · cases h
  · split at h
    · cases h
    · split at h
      · cases h
      · next hattach =>
        simp only [Db.classOr404, Gate.bind_eq_ok, Gate.found_eq_ok, Gate.ensure_eq_ok,
          Gate.pure_eq_ok, Prod.mk.injEq, Landed.attached.injEq, School.Attached.made.injEq] at h
        obtain ⟨row, -, -, hfree, rfl, rfl⟩ := h
        exact ⟨_, row.gradeLevel, hattach, by simpa using hfree, rfl⟩
      · next hother _ =>
        cases h
        exact (hother link rfl).elim

end Hezarfen.Years

namespace Hezarfen.Rollovers

open School (Roster ClassGroupId CourseId ClassCourseId ClassMemberId ClassMember Attached)
open Years (Db Section Landed GradeLevel AcademicYear AcademicYearId)

variable {s s' s'' : Db} {target : AcademicYearId}

/-- The references of the schema. -/
structure Stored (s : Db) : Prop where
  sections : ∀ c, (s.classSection.lookup c).isSome = (s.roster.classGroup.lookup c).isSome
  columns : ∀ i, (s.roster.classCourse.lookup i).isSome → (s.classInstance.lookup i).isSome
  links : ∀ i row, s.roster.classCourse.lookup i = some row →
    (s.roster.classGroup.lookup row.classId).isSome
  teachers : ∀ i user, (s.roster.classCourseTeacher.lookup (i, user)).isSome →
    (s.roster.classCourse.lookup i).isSome
  members : ∀ m row, s.roster.classMember.lookup m = some row →
    (s.roster.classGroup.lookup row.classId).isSome

structure Same (s s' : Db) (i : ClassCourseId) : Prop where
  columns : s'.classInstance.lookup i = s.classInstance.lookup i
  teachers : ∀ user, s'.roster.classCourseTeacher.lookup (i, user) =
    s.roster.classCourseTeacher.lookup (i, user)
  enrollments : ∀ user, s'.roster.enrollment.lookup (i, user) =
    s.roster.enrollment.lookup (i, user)

/-- Nothing was written but rows of the sections `inside`, and the counter of the target. -/
structure Outside (target : AcademicYearId) (inside : ClassGroupId → Prop) (s s' : Db) :
    Prop where
  rest : s' = { s with
    academicYear := s'.academicYear
    roster := s'.roster
    classSection := s'.classSection
    classInstance := s'.classInstance }
  years : ∀ year, year ≠ target → s'.academicYear.lookup year = s.academicYear.lookup year
  sections : ∀ c, ¬ inside c → s'.classSection.lookup c = s.classSection.lookup c
  groups : ∀ c, ¬ inside c → s'.roster.classGroup.lookup c = s.roster.classGroup.lookup c
  links : ∀ i row, ¬ inside row.classId →
    (s'.roster.classCourse.lookup i = some row ↔ s.roster.classCourse.lookup i = some row)
  same : ∀ i row, s.roster.classCourse.lookup i = some row → ¬ inside row.classId → Same s s' i
  members : ∀ m row, ¬ inside row.classId →
    (s'.roster.classMember.lookup m = some row ↔ s.roster.classMember.lookup m = some row)
  stand : ∀ c, (s.roster.classGroup.lookup c).isSome → (s'.roster.classGroup.lookup c).isSome

variable {inside inside' : ClassGroupId → Prop}

theorem Same.trans {i : ClassCourseId} (h : Same s s' i) (h' : Same s' s'' i) : Same s s'' i where
  columns := h'.columns.trans h.columns
  teachers user := (h'.teachers user).trans (h.teachers user)
  enrollments user := (h'.enrollments user).trans (h.enrollments user)

theorem Outside.refl (target : AcademicYearId) (inside : ClassGroupId → Prop) (s : Db) :
    Outside target inside s s where
  rest := rfl
  years _ _ := rfl
  sections _ _ := rfl
  groups _ _ := rfl
  links _ _ _ := Iff.rfl
  same _ _ _ _ := ⟨rfl, fun _ => rfl, fun _ => rfl⟩
  members _ _ _ := Iff.rfl
  stand _ h := h

theorem Outside.trans (h : Outside target inside s s') (h' : Outside target inside s' s'') :
    Outside target inside s s'' where
  rest := by
    rw [h'.rest, h.rest]
  years year hne := (h'.years year hne).trans (h.years year hne)
  sections c hc := (h'.sections c hc).trans (h.sections c hc)
  groups c hc := (h'.groups c hc).trans (h.groups c hc)
  links i row hrow := (h'.links i row hrow).trans (h.links i row hrow)
  same i row hlookup hrow :=
    (h.same i row hlookup hrow).trans (h'.same i row ((h.links i row hrow).mpr hlookup) hrow)
  members m row hrow := (h'.members m row hrow).trans (h.members m row hrow)
  stand c hc := h'.stand c (h.stand c hc)

theorem Outside.mono (h : Outside target inside s s') (hsub : ∀ c, inside c → inside' c) :
    Outside target inside' s s' where
  rest := h.rest
  years := h.years
  sections c hc := h.sections c (mt (hsub c) hc)
  groups c hc := h.groups c (mt (hsub c) hc)
  links i row hrow := h.links i row (mt (hsub _) hrow)
  same i row hlookup hrow := h.same i row hlookup (mt (hsub _) hrow)
  members m row hrow := h.members m row (mt (hsub _) hrow)
  stand := h.stand

theorem Outside.appUser (h : Outside target inside s s') : s'.appUser = s.appUser := by
  rw [h.rest]

theorem Outside.linkOf (h : Outside target inside s s') {i : ClassCourseId}
    {link : ClassGroupId × CourseId} (hlink : ¬ inside link.1) :
    s'.roster.linkOf i = some link ↔ s.roster.linkOf i = some link := by
  rw [Roster.linkOf_eq_some, Roster.linkOf_eq_some]
  constructor
  · rintro ⟨row, hrow, hclass, hcourse⟩
    exact ⟨row, (h.links i row (by rwa [hclass])).mp hrow, hclass, hcourse⟩
  · rintro ⟨row, hrow, hclass, hcourse⟩
    exact ⟨row, (h.links i row (by rwa [hclass])).mpr hrow, hclass, hcourse⟩

section Planted

variable {c : ClassGroupId} {columns : Section} {teacher : Option UserId}

theorem insertClass_outside (hyear : columns.year = some target)
    (h : s.insertClass c columns teacher = .ok s') : Outside target (· = c) s s' := by
  obtain ⟨hfree, rfl⟩ := Years.insertClass_cases h
  have hstand : ∀ other, (s.roster.classGroup.lookup other).isSome →
      ((s.roster.classGroup.insert c ⟨teacher, 0, 0⟩).lookup other).isSome := by
    intro other hother
    rw [lookup_insert_eq]
    split
    · rfl
    · exact hother
  refine ⟨rfl, fun year hne => ?_, fun other hne => ?_, fun other hne => ?_, fun _ _ _ => Iff.rfl,
    fun _ _ _ _ => ⟨rfl, fun _ => rfl, fun _ => rfl⟩, fun _ _ _ => Iff.rfl, hstand⟩
  · change (Table.update s.academicYear _).lookup year = _
    rw [lookup_update, hyear]
    cases s.academicYear.lookup year with
    | none => rfl
    | some => simp [Ne.symm hne]
  · exact (lookup_insert_eq _ _ _ _).trans (if_neg hne)
  · exact (lookup_insert_eq _ _ _ _).trans (if_neg hne)

theorem insertClass_stored (hstored : Stored s) (h : s.insertClass c columns teacher = .ok s') :
    Stored s' := by
  obtain ⟨hfree, rfl⟩ := Years.insertClass_cases h
  have hstand : ∀ other, (s.roster.classGroup.lookup other).isSome →
      ((s.roster.classGroup.insert c ⟨teacher, 0, 0⟩).lookup other).isSome := by
    intro other hother
    rw [lookup_insert_eq]
    split
    · rfl
    · exact hother
  refine ⟨fun other => ?_, hstored.columns, fun i row hrow => hstand _ (hstored.links i row hrow),
    hstored.teachers, fun m row hrow => hstand _ (hstored.members m row hrow)⟩
  change ((s.classSection.insert c columns).lookup other).isSome =
    ((s.roster.classGroup.insert c ⟨teacher, 0, 0⟩).lookup other).isSome
  rw [lookup_insert_eq, lookup_insert_eq]
  split
  · rfl
  · exact hstored.sections other

end Planted

/-! ## An instance is copied -/

/-- Only the instance `j` of the section was written. -/
structure Writes (c : ClassGroupId) (j : ClassCourseId) (s s' : Db) : Prop where
  rest : s' = { s with
    roster := s'.roster
    classInstance := s'.classInstance }
  groups : ∀ other, other ≠ c → s'.roster.classGroup.lookup other = s.roster.classGroup.lookup other
  homeroom : (s'.roster.classGroup.lookup c).map School.ClassGroup.teacher =
    (s.roster.classGroup.lookup c).map School.ClassGroup.teacher
  links : ∀ i, i ≠ j → s'.roster.classCourse.lookup i = s.roster.classCourse.lookup i
  before : ∀ row, s.roster.classCourse.lookup j = some row → row.classId = c
  after : ∀ row, s'.roster.classCourse.lookup j = some row → row.classId = c
  same : ∀ i, i ≠ j → Same s s' i
  members : s'.roster.classMember = s.roster.classMember

variable {c : ClassGroupId} {j : ClassCourseId}

theorem Writes.group_isSome (h : Writes c j s s') (other : ClassGroupId) :
    (s'.roster.classGroup.lookup other).isSome = (s.roster.classGroup.lookup other).isSome := by
  by_cases hother : other = c
  · subst hother
    have hmap := congrArg Option.isSome h.homeroom
    simpa using hmap
  · rw [h.groups other hother]

theorem Writes.outside (h : Writes c j s s') : Outside target (· = c) s s' where
  rest := by
    rw [h.rest]
  years _ _ := by rw [h.rest]
  sections _ _ := by rw [h.rest]
  groups := h.groups
  links i row hrow := by
    by_cases hi : i = j
    · subst hi
      exact ⟨fun hlookup => absurd (h.after row hlookup) hrow,
        fun hlookup => absurd (h.before row hlookup) hrow⟩
    · rw [h.links i hi]
  same i row hlookup hrow := h.same i fun hi => hrow (h.before row (hi ▸ hlookup))
  members _ _ _ := by rw [h.members]
  stand other hother := by rwa [h.group_isSome]

theorem Writes.stored (h : Writes c j s s') (hstored : Stored s)
    (hgroup : (s.roster.classGroup.lookup c).isSome)
    (hlink : (s'.roster.classCourse.lookup j).isSome)
    (hcolumns : (s'.classInstance.lookup j).isSome) : Stored s' where
  sections other := by
    rw [h.group_isSome, ← hstored.sections, h.rest]
  columns i hi := by
    by_cases hij : i = j
    · rw [hij]
      exact hcolumns
    · rw [h.links i hij] at hi
      rw [(h.same i hij).columns]
      exact hstored.columns i hi
  links i row hrow := by
    rw [h.group_isSome]
    by_cases hij : i = j
    · rw [h.after row (hij ▸ hrow)]
      exact hgroup
    · rw [h.links i hij] at hrow
      exact hstored.links i row hrow
  teachers i user hi := by
    by_cases hij : i = j
    · rw [hij]
      exact hlink
    · rw [(h.same i hij).teachers] at hi
      rw [h.links i hij]
      exact hstored.teachers i user hi
  members m row hrow := by
    rw [h.members] at hrow
    rw [h.group_isSome]
    exact hstored.members m row hrow

variable {pumping : Roster.Pumping}

theorem attachSourced_writes {course : CourseId}
    {link : School.ClassCourse}
    (h : s.attachSourced j pumping course none = .ok (.attached (.made link), s')) :
    Writes pumping.classId j s s' := by
  obtain ⟨roster, grade, hattach, hfree, rfl⟩ := Years.attachSourced_made h
  obtain ⟨row, taught, -, -, -, hrow, -, -, hpump⟩ := Roster.attachCourse_made hattach
  have hsame := Roster.enrollPairs_same hpump
  refine ⟨rfl, fun other hne => ?_, ?_, fun i hne => Roster.attachCourse_others hne hattach,
    fun row hrow => ?_, fun row hrow => ?_, fun i hne => ⟨?_, fun user => ?_, fun user => ?_⟩,
    hsame.classMember⟩
  · change roster.classGroup.lookup other = _
    rw [hsame.classGroup, lookup_insert_eq, if_neg hne]
  · change (roster.classGroup.lookup pumping.classId).map _ = _
    rw [hsame.classGroup, lookup_insert_eq, if_pos rfl, hrow]
    rfl
  · rw [hfree] at hrow
    cases hrow
  · have hlink := Roster.attachCourse_linkOf hattach j
    rw [if_pos rfl, Roster.linkOf_of_row hrow, Option.some.injEq, Prod.mk.injEq] at hlink
    exact hlink.1
  · exact (lookup_insert_eq _ _ _ _).trans (if_neg hne)
  · change roster.classCourseTeacher.lookup (i, user) = _
    rw [hsame.classCourseTeacher]
  · change roster.enrollment.lookup (i, user) = _
    rw [Roster.enrollPairs_lookup hpump, if_neg]
    rintro ⟨-, hmem⟩
    obtain ⟨_, -, hpair⟩ := List.mem_map.mp hmem
    exact hne (congrArg Prod.fst hpair).symm

theorem update_writes {title description : Option String} {dersSaati : Option ℤ}
    {counts : Option Bool} {row : School.ClassCourse}
    (hrow : s.roster.classCourse.lookup j = some row) (hclass : row.classId = c)
    (h : update s j title description dersSaati counts = .ok s') : Writes c j s s' := by
  unfold update at h
  simp only [Gate.bind_eq_ok, Gate.found_eq_ok, Gate.pure_eq_ok] at h
  obtain ⟨old, -, rfl⟩ := h
  have hown : ∀ other, s.roster.classCourse.lookup j = some other → other.classId = c := by
    intro other hother
    rw [hrow] at hother
    cases hother
    exact hclass
  refine ⟨rfl, fun _ _ => rfl, rfl, fun _ _ => rfl, hown, hown, fun i hne => ?_, rfl⟩
  exact ⟨(lookup_insert_eq _ _ _ _).trans (if_neg hne), fun _ => rfl, fun _ => rfl⟩

variable {user : UserId}

theorem assign_cases (h : assign s j user = .ok s') :
    ∃ row, s.roster.classCourse.lookup j = some row ∧
      s' = { s with roster := { s.roster with
        classCourseTeacher := s.roster.classCourseTeacher.insert (j, user) () } } := by
  unfold assign at h
  simp only [Gate.bind_eq_ok, Gate.ensure_eq_ok, Gate.pure_eq_ok] at h
  obtain ⟨-, hlink, -, -, rfl⟩ := h
  obtain ⟨row, hrow⟩ := Option.isSome_iff_exists.mp hlink
  refine ⟨row, hrow, ?_⟩
  simp only [Roster.assign, hrow]

theorem assign_writes {row : School.ClassCourse}
    (hrow : s.roster.classCourse.lookup j = some row) (hclass : row.classId = c)
    (h : assign s j user = .ok s') : Writes c j s s' := by
  obtain ⟨_, -, rfl⟩ := assign_cases h
  have hown : ∀ other, s.roster.classCourse.lookup j = some other → other.classId = c := by
    intro other hother
    rw [hrow] at hother
    cases hother
    exact hclass
  refine ⟨rfl, fun _ _ => rfl, rfl, fun _ _ => rfl, hown, hown, fun i hne => ?_, rfl⟩
  refine ⟨rfl, fun other => ?_, fun _ => rfl⟩
  refine (lookup_insert_eq _ _ _ _).trans (if_neg fun heq => hne ?_)
  exact congrArg Prod.fst heq

/-! ## A member is copied -/

structure Seats (c : ClassGroupId) (user : UserId) (source : Option ClassGroupId) (s s' : Db) :
    Prop where
  rest : s' = { s with roster := s'.roster }
  student : s.appUser.lookup user = some .student
  absent : s.roster.isLiveMember c user = false
  groups : ∀ other, other ≠ c → s'.roster.classGroup.lookup other = s.roster.classGroup.lookup other
  homeroom : (s'.roster.classGroup.lookup c).map School.ClassGroup.teacher =
    (s.roster.classGroup.lookup c).map School.ClassGroup.teacher
  links : ∀ i, s'.roster.linkOf i = s.roster.linkOf i
  others : ∀ i row, row.classId ≠ c →
    (s'.roster.classCourse.lookup i = some row ↔ s.roster.classCourse.lookup i = some row)
  teachers : s'.roster.classCourseTeacher = s.roster.classCourseTeacher
  away : ∀ i row, s.roster.classCourse.lookup i = some row → row.classId ≠ c →
    ∀ other, s'.roster.enrollment.lookup (i, other) = s.roster.enrollment.lookup (i, other)
  kept : ∀ pair, (s.roster.enrollment.lookup pair).isSome →
    (s'.roster.enrollment.lookup pair).isSome
  enrolled : ∀ i course, s.roster.linkOf i = some (c, course) →
    (s'.roster.enrollment.lookup (i, user)).isSome
  stint : ∃ m row, s.roster.classMember.lookup m = none ∧
    s'.roster.classMember = s.roster.classMember.insert m row ∧ row.classId = c ∧
    row.user = user ∧ row.leftAt = none ∧ row.sourceClassGroup = source

theorem addMemberSourced_cases {m : ClassMemberId}
    {source : Option ClassGroupId} {verdict : Attached ClassMember}
    (h : addMemberSourced s m pumping user source = .ok (verdict, s')) :
    (s' = s ∧ ∀ member, verdict ≠ .made member) ∨
      ∃ member roster, verdict = .made member ∧ s.roster.classMember.lookup m = none ∧
        s.roster.addMember (s.appUser.lookup user) m pumping user source =
          (.made member, roster) ∧ s' = { s with roster := roster } := by
  unfold addMemberSourced at h
  split at h
  · next member roster hadd =>
    simp only [Gate.bind_eq_ok, Gate.ensure_eq_ok, Gate.pure_eq_ok, Prod.mk.injEq] at h
    obtain ⟨-, hfree, rfl, rfl⟩ := h
    exact .inr ⟨member, roster, rfl, by simpa using hfree, hadd, rfl⟩
  · next hother _ =>
    cases h
    exact .inl ⟨rfl, fun member heq => hother member heq⟩

theorem addMember_seats {m : ClassMemberId}
    {source : Option ClassGroupId} {member : ClassMember} {roster : Roster}
    (hfree : s.roster.classMember.lookup m = none)
    (h : s.roster.addMember (s.appUser.lookup user) m pumping user source =
      (.made member, roster)) :
    Seats pumping.classId user source s { s with roster := roster } := by
  obtain ⟨row, habsent, hstudent, hrow, -, -, rfl, hpump⟩ := Roster.addMember_made h
  have hsame := Roster.enrollPairs_same hpump
  have hlinks := Roster.enrollPairs_linkOf hpump
  have hmem : ∀ pair : ClassCourseId × UserId,
      pair ∈ (s.roster.listForClass pumping.classId).map (fun i => (i, user)) ↔
        (∃ row, s.roster.classCourse.lookup pair.1 = some row ∧ row.classId = pumping.classId) ∧
          pair.2 = user := by
    intro pair
    rw [← Roster.pump_home, ← Roster.mem_listForClass, List.mem_map]
    constructor
    · rintro ⟨i, hi, rfl⟩
      exact ⟨hi, rfl⟩
    · rintro ⟨hi, rfl⟩
      exact ⟨pair.1, hi, rfl⟩
  have haway : ∀ i row, s.roster.classCourse.lookup i = some row →
      row.classId ≠ pumping.classId → ∀ pair ∈ (s.roster.listForClass pumping.classId).map
        (fun i => (i, user)), i ≠ pair.1 := by
    rintro i row hlookup hclass pair hpair rfl
    obtain ⟨⟨other, hother, hother'⟩, -⟩ := (hmem pair).mp hpair
    rw [hlookup] at hother
    cases hother
    exact hclass hother'
  refine ⟨rfl, hstudent, habsent, fun other hne => ?_, ?_, hlinks, fun i old hclass => ?_,
    hsame.classCourseTeacher, fun i old hlookup hclass other => ?_, fun pair hpair => ?_,
    fun i course hlink => ?_, m, _, hfree, hsame.classMember, rfl, rfl, rfl, rfl⟩
  · change roster.classGroup.lookup other = _
    rw [hsame.classGroup, lookup_insert_eq, if_neg hne]
  · change (roster.classGroup.lookup pumping.classId).map _ = _
    rw [hsame.classGroup, lookup_insert_eq, if_pos rfl, hrow]
    rfl
  · constructor
    · intro hlookup
      have hlink := hlinks i
      rw [Roster.linkOf_of_row hlookup] at hlink
      obtain ⟨before, hbefore, hbefore', -⟩ := Roster.linkOf_eq_some.mp hlink.symm
      have hrow' := Roster.enrollPairs_others
        (haway i before hbefore (by rw [hbefore']; exact hclass)) hpump
      exact hrow' ▸ hlookup
    · intro hlookup
      exact (Roster.enrollPairs_others (haway i old hlookup hclass) hpump).trans hlookup
  · change roster.enrollment.lookup (i, other) = _
    rw [Roster.enrollPairs_lookup hpump, if_neg]
    rintro ⟨-, hpair⟩
    exact haway i old hlookup hclass _ hpair rfl
  · change (roster.enrollment.lookup pair).isSome
    rw [Roster.enrollPairs_lookup hpump]
    split
    · rfl
    · exact hpair
  · change (roster.enrollment.lookup (i, user)).isSome
    rw [Roster.enrollPairs_lookup hpump]
    obtain ⟨old, hlookup, hclass, -⟩ := Roster.linkOf_eq_some.mp hlink
    split
    · rfl
    · next hheld =>
      have hpair := (hmem (i, user)).mpr ⟨⟨old, hlookup, hclass⟩, rfl⟩
      rw [Option.isSome_iff_ne_none]
      exact fun hnone => hheld ⟨hnone, hpair⟩

variable {source : Option ClassGroupId}

theorem Seats.group_isSome (h : Seats c user source s s') (other : ClassGroupId) :
    (s'.roster.classGroup.lookup other).isSome = (s.roster.classGroup.lookup other).isSome := by
  by_cases hother : other = c
  · subst hother
    have hmap := congrArg Option.isSome h.homeroom
    simpa using hmap
  · rw [h.groups other hother]

theorem Seats.link_isSome (h : Seats c user source s s') (i : ClassCourseId) :
    (s'.roster.classCourse.lookup i).isSome = (s.roster.classCourse.lookup i).isSome := by
  have hmap := congrArg Option.isSome (h.links i)
  simpa [Roster.linkOf] using hmap

theorem Seats.outside (h : Seats c user source s s') : Outside target (· = c) s s' where
  rest := by
    rw [h.rest]
  years _ _ := by rw [h.rest]
  sections _ _ := by rw [h.rest]
  groups := h.groups
  links := h.others
  same i row hlookup hrow :=
    ⟨by rw [h.rest], fun _ => by rw [h.teachers], h.away i row hlookup hrow⟩
  members m row hrow := by
    obtain ⟨key, stint, hfree, hmembers, hclass, -⟩ := h.stint
    rw [hmembers, lookup_insert_eq]
    split
    · next heq =>
      subst heq
      rw [hfree]
      constructor
      · intro hsome
        cases hsome
        exact absurd hclass hrow
      · intro hnone
        cases hnone
    · exact Iff.rfl
  stand other hother := by rwa [h.group_isSome]

theorem Seats.stored (h : Seats c user source s s') (hstored : Stored s)
    (hgroup : (s.roster.classGroup.lookup c).isSome) : Stored s' where
  sections other := by
    rw [h.group_isSome, ← hstored.sections, h.rest]
  columns i hi := by
    rw [h.link_isSome] at hi
    rw [h.rest]
    exact hstored.columns i hi
  links i row hrow := by
    have hlink := h.links i
    rw [Roster.linkOf_of_row hrow] at hlink
    obtain ⟨old, hold, hclass, -⟩ := Roster.linkOf_eq_some.mp hlink.symm
    have hsection := hstored.links i old hold
    rw [hclass] at hsection
    rwa [h.group_isSome]
  teachers i other hi := by
    rw [h.teachers] at hi
    rw [h.link_isSome]
    exact hstored.teachers i other hi
  members m row hrow := by
    obtain ⟨key, stint, -, hmembers, hclass, -⟩ := h.stint
    rw [h.group_isSome]
    rw [hmembers, lookup_insert_eq] at hrow
    split at hrow
    · cases hrow
      rw [hclass]
      exact hgroup
    · exact hstored.members m row hrow

end Hezarfen.Rollovers
