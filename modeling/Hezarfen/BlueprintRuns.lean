import Hezarfen.BlueprintEdits
import Hezarfen.YearSteps

/-!
# What an edit of a template leaves behind

The sweep only takes rows with the template's tag whose course the stored list does not hold,
and the pump only adds rows with the tag for pairs that were not carried.  Both are read off the
store they find, so the result does not depend on where an earlier edit stopped.
-/

namespace Hezarfen.Blueprints

open School (Roster ClassGroupId CourseId ClassCourseId Refusal)
open Years (Db GradeLevel Landed Section Instance)

variable {s s' s'' : Db} {grade : GradeLevel} {keep courses : List CourseId}

variable {i : ClassCourseId} {classId : ClassGroupId} {course : CourseId} {link : Held}
  {r : Except Refusal (ClassBlueprint × Pumped)} {run run' : Run} {by_ : UserId}
  {saved : ClassBlueprint} {edit : Edit}

def tag (s : Db) (i : ClassCourseId) : Option GradeLevel :=
  (s.classInstance.lookup i).bind Instance.source

/-- The whole row of an instance. -/
def row (s : Db) (i : ClassCourseId) : Option School.ClassCourse × Option Instance :=
  (s.roster.classCourse.lookup i, s.classInstance.lookup i)

def Carries (s : Db) (classId : ClassGroupId) (course : CourseId) : Prop :=
  ∃ i, s.roster.linkOf i = some (classId, course)

/-- `UNIQUE (class, course)` -/
def Unique (s : Db) : Prop :=
  ∀ i j pair, s.roster.linkOf i = some pair → s.roster.linkOf j = some pair → i = j

theorem tag_of_row (h : row s' i = row s i) : tag s' i = tag s i := by
  have hinstance : s'.classInstance.lookup i = s.classInstance.lookup i := congrArg Prod.snd h
  rw [tag, tag, hinstance]

theorem linkOf_of_row (h : row s' i = row s i) :
    s'.roster.linkOf i = s.roster.linkOf i := by
  have hlink : s'.roster.classCourse.lookup i = s.roster.classCourse.lookup i :=
    congrArg Prod.fst h
  rw [Roster.linkOf, Roster.linkOf, hlink]

/-! ## What a sweep and a pump do -/

/-- Neither touches these. -/
structure Stands (s s' : Db) : Prop where
  sections : s'.classSection = s.classSection
  templates : s'.classBlueprint = s.classBlueprint
  alive : ∀ course, (s'.roster.course.lookup course).isSome =
    (s.roster.course.lookup course).isSome

structure Grew (grade : GradeLevel) (aims : ClassGroupId × CourseId → Prop) (s s' : Db) : Prop
    extends Stands s s' where
  kept : ∀ i, (s.roster.linkOf i).isSome → row s' i = row s i
  new : ∀ i pair, s.roster.linkOf i = none → s'.roster.linkOf i = some pair →
    tag s' i = some grade ∧ ¬ Carries s pair.1 pair.2 ∧ aims pair
  unique : Unique s → Unique s'

structure Shed (grade : GradeLevel) (keep : List CourseId) (s s' : Db) : Prop
    extends Stands s s' where
  left : ∀ i, (s'.roster.linkOf i).isSome → row s' i = row s i
  gone : ∀ i pair, s.roster.linkOf i = some pair → s'.roster.linkOf i = none →
    tag s i = some grade ∧ pair.2 ∉ keep

variable {aims aims' : ClassGroupId × CourseId → Prop}

theorem Stands.refl (s : Db) : Stands s s := ⟨rfl, rfl, fun _ => rfl⟩

theorem Stands.trans (h : Stands s s') (h' : Stands s' s'') : Stands s s'' where
  sections := h'.sections.trans h.sections
  templates := h'.templates.trans h.templates
  alive course := (h'.alive course).trans (h.alive course)

theorem Grew.refl (grade : GradeLevel) (aims : ClassGroupId × CourseId → Prop) (s : Db) :
    Grew grade aims s s where
  toStands := .refl s
  kept _ _ := rfl
  new i pair hnone hsome := by
    rw [hnone] at hsome
    cases hsome
  unique := id

theorem Grew.carries (h : Grew grade aims s s') (hcarries : Carries s classId course) :
    Carries s' classId course := by
  obtain ⟨i, hi⟩ := hcarries
  exact ⟨i, by rw [linkOf_of_row (h.kept i (by rw [hi]; rfl)), hi]⟩

theorem Grew.mono (h : Grew grade aims s s') (haims : ∀ pair, aims pair → aims' pair) :
    Grew grade aims' s s' where
  toStands := h.toStands
  kept := h.kept
  new i pair hnone hsome :=
    have hnew := h.new i pair hnone hsome
    ⟨hnew.1, hnew.2.1, haims pair hnew.2.2⟩
  unique := h.unique

theorem Grew.trans (h : Grew grade aims s s') (h' : Grew grade aims s' s'') :
    Grew grade aims s s'' where
  toStands := h.toStands.trans h'.toStands
  kept i hi := by
    have hrow := h.kept i hi
    have hi' : (s'.roster.linkOf i).isSome := by rwa [linkOf_of_row hrow]
    rw [h'.kept i hi', hrow]
  new i pair hnone hsome := by
    cases hmid : s'.roster.linkOf i with
    | none =>
        obtain ⟨htag, hfree, haims⟩ := h'.new i pair hmid hsome
        exact ⟨htag, fun hcarries => hfree (h.carries hcarries), haims⟩
    | some =>
        have hrow := h'.kept i (by rw [hmid]; rfl)
        rw [linkOf_of_row hrow, hmid] at hsome
        cases hsome
        rw [tag_of_row hrow]
        exact h.new i pair hnone hmid
  unique hunique := h'.unique (h.unique hunique)

theorem Shed.refl (grade : GradeLevel) (keep : List CourseId) (s : Db) : Shed grade keep s s where
  toStands := .refl s
  left _ _ := rfl
  gone i pair hsome hnone := by
    rw [hsome] at hnone
    cases hnone

theorem Shed.trans (h : Shed grade keep s s') (h' : Shed grade keep s' s'') :
    Shed grade keep s s'' where
  toStands := h.toStands.trans h'.toStands
  left i hi := by
    have hrow := h'.left i hi
    have hi' : (s'.roster.linkOf i).isSome := by rwa [← linkOf_of_row hrow]
    rw [hrow, h.left i hi']
  gone i pair hsome hnone := by
    cases hmid : s'.roster.linkOf i with
    | none => exact h.gone i pair hsome hmid
    | some =>
        have hrow := h.left i (by rw [hmid]; rfl)
        rw [← tag_of_row hrow]
        exact h'.gone i pair (by rw [linkOf_of_row hrow, hsome]) hnone

theorem Shed.unique (h : Shed grade keep s s') (hunique : Unique s) : Unique s' := by
  intro i j pair hi hj
  have hi' := linkOf_of_row (h.left i (by rw [hi]; rfl))
  have hj' := linkOf_of_row (h.left j (by rw [hj]; rfl))
  exact hunique i j pair (by rw [← hi', hi]) (by rw [← hj', hj])

theorem mem_sourcedLinks :
    link ∈ sourcedLinks s grade keep ↔
      ∃ i, s.roster.linkOf i = some (link.classId, link.course) ∧ tag s i = some grade ∧
        link.course ∉ keep := by
  unfold sourcedLinks
  simp only [List.mem_map, List.mem_filter, Bool.and_eq_true, decide_eq_true_eq]
  constructor
  · rintro ⟨⟨i, held⟩, ⟨hentry, htag, hkeep⟩, rfl⟩
    exact ⟨i, Roster.linkOf_of_row (mem_entries_iff_lookup.mp hentry), htag, hkeep⟩
  · rintro ⟨i, hlink, htag, hkeep⟩
    obtain ⟨held, hrow, hclass, hcourse⟩ := Roster.linkOf_eq_some.mp hlink
    refine ⟨⟨i, held⟩, ⟨mem_entries_iff_lookup.mpr hrow, htag, ?_⟩, ?_⟩
    · change held.course ∉ keep
      rw [hcourse]
      exact hkeep
    · cases link
      simp_all

theorem detach_fields (h : s.detachCourse classId course (some grade) = some s') :
    ∃ target, s.roster.instanceOf classId course = some target ∧ tag s target = some grade ∧
      s'.roster = (s.roster.detachCourse classId course).2 ∧
      s'.classInstance = s.classInstance.erase target ∧ s'.classSection = s.classSection ∧
      s'.classBlueprint = s.classBlueprint := by
  obtain ⟨target, htarget, htag, rfl⟩ := Years.detachCourse_cases h
  obtain ⟨old, hold, hsource⟩ := htag grade rfl
  have htagged : tag s target = some grade := by
    rw [tag, hold, Option.bind_some, hsource]
  exact ⟨target, htarget, htagged, rfl, rfl, rfl, rfl⟩

/-- One link of the sweep. -/
theorem detach_shed (hkeep : course ∉ keep)
    (h : s.detachCourse classId course (some grade) = some s') : Shed grade keep s s' := by
  obtain ⟨target, htarget, htag, hroster, hinstance, hsections, htemplates⟩ := detach_fields h
  have hlinkOf := Roster.instanceOf_linkOf htarget
  have hclasses : s'.roster.classCourse = s.roster.classCourse.erase target := by
    rw [hroster, Roster.detachCourse_classCourse htarget]
  have hrow : ∀ i, i ≠ target → row s' i = row s i := by
    intro i hne
    rw [row, row, hclasses, hinstance, lookup_erase_eq, lookup_erase_eq,
      if_neg hne, if_neg hne]
  have hgone : s'.roster.linkOf target = none := by
    rw [Roster.linkOf, hclasses, lookup_erase_eq, if_pos rfl]
    rfl
  refine ⟨⟨hsections, htemplates, fun other => ?_⟩, fun i hi => ?_, fun i pair hi hnone => ?_⟩
  · rw [hroster]
    exact Roster.detachCourse_course classId course other
  · by_cases hne : i = target
    · rw [hne, hgone] at hi
      cases hi
    · exact hrow i hne
  · by_cases hne : i = target
    · subst hne
      rw [hlinkOf] at hi
      cases hi
      exact ⟨htag, hkeep⟩
    · rw [linkOf_of_row (hrow i hne), hi] at hnone
      cases hnone

theorem detach_getD_shed (hkeep : link.course ∉ keep) :
    Shed grade keep s ((s.detachCourse link.classId link.course (some grade)).getD s) := by
  cases h : s.detachCourse link.classId link.course (some grade) with
  | none => exact .refl grade keep s
  | some => exact detach_shed hkeep h

theorem detach_clears (hunique : Unique s)
    (hlink : ((s.detachCourse link.classId link.course (some grade)).getD s).roster.linkOf i =
      some (link.classId, link.course)) :
    tag ((s.detachCourse link.classId link.course (some grade)).getD s) i ≠ some grade := by
  intro htag
  cases h : s.detachCourse link.classId link.course (some grade) with
  | none =>
      rw [h, Option.getD_none] at hlink htag
      obtain ⟨j, hj⟩ := Roster.exists_instanceOf hlink
      have hsame := hunique i j _ hlink (Roster.instanceOf_linkOf hj)
      subst hsame
      rw [tag, Option.bind_eq_some_iff] at htag
      obtain ⟨old, hold, hsource⟩ := htag
      unfold Db.detachCourse Db.detachTarget at h
      simp [hj, hold, hsource] at h
  | some =>
      obtain ⟨target, htarget, -, hroster, -⟩ := detach_fields h
      rw [h, Option.getD_some, hroster, Roster.detachCourse_linkOf htarget i] at hlink
      split at hlink
      · cases hlink
      · next hne => exact hne (hunique i target _ hlink (Roster.instanceOf_linkOf htarget))

/-- The sweep, wherever it stops; one that went through leaves none of its links tagged. -/
theorem dropLinks_shed {turns : List Turn} {links : List Held}
    {r : Except Refusal (List Turn)} (hunique : Unique s)
    (hlinks : ∀ link ∈ links, link.course ∉ keep)
    (h : dropLinks grade turns links s = (r, s')) :
    Shed grade keep s s' ∧ ∀ rest, r = .ok rest → ∀ link ∈ links, ∀ i,
      s'.roster.linkOf i = some (link.classId, link.course) → tag s' i ≠ some grade := by
  induction links generalizing s turns with
  | nil =>
      cases turns <;> cases h <;> exact ⟨.refl grade keep _, fun _ _ link hlink => nomatch hlink⟩
  | cons link links ih =>
      cases turns with
      | nil =>
          cases h
          exact ⟨.refl grade keep _, fun _ hr => nomatch hr⟩
      | cons =>
          have hone : Shed grade keep s
              ((s.detachCourse link.classId link.course (some grade)).getD s) :=
            detach_getD_shed (hlinks link List.mem_cons_self)
          obtain ⟨hrest, hclear⟩ := ih (hone.unique hunique)
            (fun link hlink => hlinks link (List.mem_cons_of_mem _ hlink)) h
          refine ⟨hone.trans hrest, fun rest hr other hother i hi htag => ?_⟩
          obtain rfl | hother := List.mem_cons.mp hother
          · have hrow := hrest.left i (by rw [hi]; rfl)
            rw [linkOf_of_row hrow] at hi
            rw [tag_of_row hrow] at htag
            exact detach_clears hunique hi htag
          · exact hclear rest hr other hother i hi htag

theorem attachSourced_grew {id : ClassCourseId} {pumping : Roster.Pumping} {landed : Landed}
    (hgrade : (s.classBlueprint.lookup grade).isSome)
    (hcourse : (s.roster.course.lookup course).isSome)
    (h : s.attachSourced id pumping course (some grade) = .ok (landed, s')) :
    Grew grade (fun pair => pair = (pumping.classId, course)) s s' ∧ landed ≠ .sourceGone ∧
      landed ≠ .attached .pivotGone ∧
      (skipReason landed = none → Carries s' pumping.classId course) := by
  unfold Db.attachSourced at h
  split at h
  · next hany =>
    cases h
    obtain ⟨i, held, hrow, hmatch⟩ := Table.any_iff.mp hany
    simp only [Bool.and_eq_true, decide_eq_true_eq] at hmatch
    exact ⟨.refl _ _ _, by simp, by simp,
      fun _ => ⟨i, Roster.linkOf_eq_some.mpr ⟨held, hrow, hmatch⟩⟩⟩
  · next hfree =>
    split at h
    · next hgone =>
      simp only [Option.any_some, Option.isNone_iff_eq_none] at hgone
      rw [hgone] at hgrade
      cases hgrade
    · split at h
      · cases h
      · next link roster hattach =>
        simp only [Db.classOr404, Gate.bind_eq_ok, Gate.found_eq_ok, Gate.ensure_eq_ok,
          Gate.pure_eq_ok, Prod.mk.injEq] at h
        obtain ⟨section_, -, -, hid, rfl, rfl⟩ := h
        have hid' : s.roster.classCourse.lookup id = none := by simpa using hid
        have hvacant : s.roster.linkOf id = none := by rw [Roster.linkOf, hid']; rfl
        have hlinks := Roster.attachCourse_linkOf hattach
        have hcarried : ¬ Carries s pumping.classId course := by
          rintro ⟨i, hi⟩
          obtain ⟨held, hrow, hmatch⟩ := Roster.linkOf_eq_some.mp hi
          exact hfree (Table.any_iff.mpr ⟨i, held, hrow, by simp [hmatch.1, hmatch.2]⟩)
        refine ⟨⟨⟨rfl, rfl, Roster.attachCourse_course hattach⟩, ?_, ?_, ?_⟩,
          by simp, by simp, fun _ => ⟨id, (hlinks id).trans (if_pos rfl)⟩⟩
        · intro i hi
          have hne : i ≠ id := by
            rintro rfl
            rw [hvacant] at hi
            cases hi
          refine Prod.ext (Roster.attachCourse_others hne hattach) ?_
          change (s.classInstance.insert id _).lookup i = _
          rw [lookup_insert_eq, if_neg hne]
          rfl
        · intro i pair hnone hsome
          change roster.linkOf i = _ at hsome
          rw [hlinks] at hsome
          split at hsome
          · next heq =>
            cases hsome
            subst heq
            refine ⟨?_, hcarried, rfl⟩
            change ((s.classInstance.insert i _).lookup i).bind _ = _
            rw [lookup_insert_eq, if_pos rfl]
            rfl
          · rw [hnone] at hsome
            cases hsome
        · intro hunique i j pair hi hj
          change roster.linkOf i = _ at hi
          change roster.linkOf j = _ at hj
          rw [hlinks] at hi hj
          split at hi
          · next hi' =>
            cases hi
            split at hj
            · next hj' => rw [hi', hj']
            · exact absurd ⟨j, hj⟩ hcarried
          · split at hj
            · cases hj
              exact absurd ⟨i, hi⟩ hcarried
            · exact hunique i j pair hi hj
      · next verdict roster hother hattach =>
        cases h
        obtain ⟨hduplicate, hpivot⟩ := Roster.attachCourse_verdict hattach
        refine ⟨.refl _ _ _, by simp, ?_, ?_⟩
        · intro heq
          cases heq
          rw [hpivot rfl] at hcourse
          cases hcourse
        · intro hreason
          cases verdict with
          | made link => exact (hother link rfl).elim
          | duplicate => exact hduplicate rfl
          | gone | pivotGone | classFull | classOverloaded | courseGone => cases hreason

/-- What one attach of the pump leaves of the run. -/
theorem attach_cases {r : Except Refusal Landed}
    (h : run.attach grade classId course by_ = (r, run')) :
    run'.dead = run.dead ∧ run'.skipped = run.skipped ∧
      ((∃ refusal, r = .error refusal) ∧ run'.db = run.db ∨
        ∃ id pumping landed, r = .ok landed ∧ pumping.classId = classId ∧
          run.db.attachSourced id pumping course (some grade) = .ok (landed, run'.db)) := by
  unfold Run.attach at h
  split at h
  · cases h
    exact ⟨rfl, rfl, .inl ⟨⟨_, rfl⟩, rfl⟩⟩
  · split at h
    · cases h
      exact ⟨rfl, rfl, .inl ⟨⟨_, rfl⟩, rfl⟩⟩
    · next hattach =>
      cases h
      exact ⟨rfl, rfl, .inr ⟨_, _, _, rfl, rfl, hattach⟩⟩

def Names (skip : Skip) (classId : ClassGroupId) (course : CourseId) : Prop :=
  skip.classId = classId ∧ skip.course = course

/-- A pump from `run` to `run'`. -/
structure Ran (grade : GradeLevel) (aims : ClassGroupId × CourseId → Prop) (run run' : Run) :
    Prop where
  grew : Grew grade aims run.db run'.db
  dead : run'.dead = run.dead
  skipped : run.skipped ⊆ run'.skipped

theorem Ran.refl (grade : GradeLevel) (aims : ClassGroupId × CourseId → Prop) (run : Run) :
    Ran grade aims run run :=
  ⟨.refl grade aims run.db, rfl, fun _ h => h⟩

theorem Ran.trans {run'' : Run} (h : Ran grade aims run run') (h' : Ran grade aims run' run'') :
    Ran grade aims run run'' :=
  ⟨h.grew.trans h'.grew, h'.dead.trans h.dead, fun _ hskip => h'.skipped (h.skipped hskip)⟩

structure Live (grade : GradeLevel) (courses : List CourseId) (s : Db) : Prop where
  template : (s.classBlueprint.lookup grade).isSome
  courses : ∀ course ∈ courses, (s.roster.course.lookup course).isSome

theorem Live.of_stands (h : Live grade courses s) (hstands : Stands s s') :
    Live grade courses s' where
  template := by rw [hstands.templates]; exact h.template
  courses course hcourse := by rw [hstands.alive]; exact h.courses course hcourse

theorem Live.tail (h : Live grade (course :: courses) s) :
    Live grade courses s :=
  ⟨h.template, fun other hother => h.courses other (List.mem_cons_of_mem _ hother)⟩

def Met (run : Run) (classId : ClassGroupId) (course : CourseId) : Prop :=
  Carries run.db classId course ∨ ∃ skip ∈ run.skipped, Names skip classId course

theorem Met.of_ran (h : Ran grade aims run run') (hmet : Met run classId course) :
    Met run' classId course := by
  obtain hcarries | ⟨skip, hskip, hnames⟩ := hmet
  · exact .inl (h.grew.carries hcarries)
  · exact .inr ⟨skip, h.skipped hskip, hnames⟩

/-- The report of a pair meets it. -/
theorem report_ran (section_ : ClassGroupId × Section) {landed : Landed} {id : ClassCourseId}
    {pumping : Roster.Pumping} (hlive : Live grade (course :: courses) run.db)
    (hclass : pumping.classId = section_.1) (hdead : run'.dead = run.dead)
    (hskipped : run'.skipped = run.skipped)
    (hattach : run.db.attachSourced id pumping course (some grade) = .ok (landed, run'.db)) :
    Ran grade (fun pair => pair = (section_.1, course)) run (run'.report section_ course landed) ∧
      landed ≠ .sourceGone ∧ landed ≠ .attached .pivotGone ∧
      Met (run'.report section_ course landed) section_.1 course := by
  obtain ⟨hgrew, hsource, hpivot, hcarries⟩ := attachSourced_grew hlive.template
    (hlive.courses course List.mem_cons_self) hattach
  rw [hclass] at hgrew hcarries
  refine ⟨⟨hgrew, hdead, fun skip hskip => ?_⟩, hsource, hpivot, ?_⟩
  · change skip ∈ run'.skipped ++ _
    rw [hskipped]
    exact List.mem_append_left _ hskip
  · cases hreason : skipReason landed with
    | none => exact .inl (hcarries hreason)
    | some reason =>
        refine .inr ⟨⟨section_.1, section_.2.name, course, reason⟩, ?_, rfl, rfl⟩
        change _ ∈ run'.skipped ++ _
        simp [hreason]

theorem applyCourses_ran {section_ : ClassGroupId × Section} {r : Except Refusal Bool}
    (hlive : Live grade courses run.db) (hdead : run.dead = [])
    (h : applyCourses grade by_ section_ courses run = (r, run')) :
    Ran grade (fun pair => pair.1 = section_.1 ∧ pair.2 ∈ courses) run run' ∧ r ≠ .ok false ∧
      (r = .ok true → ∀ course ∈ courses, Met run' section_.1 course) := by
  induction courses generalizing run with
  | nil =>
      cases h
      exact ⟨.refl _ _ _, nofun, fun _ course hcourse => nomatch hcourse⟩
  | cons course rest ih =>
      simp only [applyCourses, hdead, List.not_mem_nil, if_false] at h
      have hnext : ∀ {mid : Run} {landed : Landed} {id : ClassCourseId}
          {pumping : Roster.Pumping}, mid.dead = run.dead → mid.skipped = run.skipped →
          pumping.classId = section_.1 →
          run.db.attachSourced id pumping course (some grade) = .ok (landed, mid.db) →
          applyCourses grade by_ section_ rest (mid.report section_ course landed) = (r, run') →
          Ran grade (fun pair => pair.1 = section_.1 ∧ pair.2 ∈ course :: rest) run run' ∧
            r ≠ .ok false ∧
            (r = .ok true → ∀ c ∈ course :: rest, Met run' section_.1 c) := by
        intro mid landed id pumping hmid hskipped hclass hattach hrest
        obtain ⟨hone, -, -, hmet⟩ := report_ran section_ hlive hclass hmid hskipped hattach
        have hdead' : (mid.report section_ course landed).dead = [] := by
          rw [hone.dead, hdead]
        obtain ⟨hran, hfalse, hall⟩ :=
          ih (hlive.tail.of_stands hone.grew.toStands) hdead' hrest
        refine ⟨Ran.trans ⟨hone.grew.mono fun pair hpair => ?_, hone.dead, hone.skipped⟩
          ⟨hran.grew.mono fun pair hpair => ?_, hran.dead, hran.skipped⟩, hfalse,
          fun hr c hc => ?_⟩
        · subst hpair
          exact ⟨rfl, List.mem_cons_self⟩
        · exact ⟨hpair.1, List.mem_cons_of_mem _ hpair.2⟩
        · obtain rfl | hc := List.mem_cons.mp hc
          · exact hmet.of_ran hran
          · exact hall hr c hc
      generalize hattach : run.attach grade section_.1 course by_ = attached at h
      obtain ⟨landed, mid⟩ := attached
      obtain ⟨hmid, hskipped, hcase⟩ := attach_cases hattach
      obtain ⟨⟨refusal, rfl⟩, hdb⟩ | ⟨id, pumping, landed, rfl, hclass, hlanded⟩ := hcase
      · cases h
        have hran : Ran grade (fun pair => pair.1 = section_.1 ∧
            pair.2 ∈ course :: rest) run run' :=
          ⟨hdb ▸ .refl _ _ _, hmid, hskipped ▸ fun _ hskip => hskip⟩
        exact ⟨hran, nofun, nofun⟩
      · obtain ⟨-, hsource, hpivot, -⟩ :=
          report_ran section_ hlive hclass hmid hskipped hlanded
        split at h
        · next heq => cases heq
        · next heq =>
          cases heq
          exact absurd rfl hsource
        · next heq =>
          cases heq
          exact absurd rfl hpivot
        · next heq =>
          cases heq
          exact hnext hmid hskipped hclass hlanded h

theorem mem_listForGrade {section_ : ClassGroupId × Section} :
    section_ ∈ listForGrade s grade ↔
      s.classSection.lookup section_.1 = some section_.2 ∧ section_.2.gradeLevel = grade := by
  unfold listForGrade
  simp only [List.mem_map, List.mem_filter, decide_eq_true_eq]
  constructor
  · rintro ⟨⟨k, v⟩, ⟨hentry, hlevel⟩, rfl⟩
    exact ⟨mem_entries_iff_lookup.mp hentry, hlevel⟩
  · rintro ⟨hlookup, hlevel⟩
    exact ⟨⟨section_.1, section_.2⟩, ⟨mem_entries_iff_lookup.mpr hlookup, hlevel⟩, rfl⟩

theorem pump_ran {sections : List (ClassGroupId × Section)} {matched : ℕ} {r : Except Refusal ℕ}
    (hlive : Live grade courses run.db) (hdead : run.dead = [])
    (h : pump grade courses by_ sections matched run = (r, run')) :
    Ran grade (fun pair => (∃ section_ ∈ sections, section_.1 = pair.1) ∧ pair.2 ∈ courses)
        run run' ∧
      ∀ n, r = .ok n → ∀ section_ ∈ sections, ∀ course ∈ courses, Met run' section_.1 course := by
  induction sections generalizing run matched with
  | nil =>
      cases h
      exact ⟨.refl _ _ _, fun _ _ section_ hsection => nomatch hsection⟩
  | cons first rest ih =>
      simp only [pump] at h
      generalize happly : applyCourses grade by_ first courses run = applied at h
      obtain ⟨answer, mid⟩ := applied
      obtain ⟨hran, hfalse, hall⟩ := applyCourses_ran hlive hdead happly
      have hone : Ran grade
          (fun pair => (∃ section_ ∈ first :: rest, section_.1 = pair.1) ∧ pair.2 ∈ courses)
          run mid :=
        ⟨hran.grew.mono fun pair hpair => ⟨⟨first, List.mem_cons_self, hpair.1.symm⟩, hpair.2⟩,
          hran.dead, hran.skipped⟩
      split at h
      · next heq =>
        cases heq
        cases h
        exact ⟨hone, nofun⟩
      · next heq =>
        cases heq
        exact absurd rfl hfalse
      · next heq =>
        cases heq
        obtain ⟨hrest, hmet⟩ := ih (hlive.of_stands hran.grew.toStands)
          (by rw [hran.dead, hdead]) h
        have hwide : Ran grade
            (fun pair => (∃ section_ ∈ first :: rest, section_.1 = pair.1) ∧ pair.2 ∈ courses)
            _ run' :=
          ⟨hrest.grew.mono fun pair hpair => by
            obtain ⟨⟨section_, hsection, hpair'⟩, hcourse⟩ := hpair
            exact ⟨⟨section_, List.mem_cons_of_mem _ hsection, hpair'⟩, hcourse⟩,
            hrest.dead, hrest.skipped⟩
        refine ⟨hone.trans hwide, fun n hn section_ hsection course hcourse => ?_⟩
        obtain rfl | hsection := List.mem_cons.mp hsection
        · exact (hall rfl course hcourse).of_ran hwide
        · exact hmet n hn section_ hsection course hcourse

/-- The section is at the grade. -/
def AtGrade (s : Db) (grade : GradeLevel) (classId : ClassGroupId) : Prop :=
  ∃ section_, s.classSection.lookup classId = some section_ ∧ section_.gradeLevel = grade

def Justified (s : Db) (grade : GradeLevel) (keep : List CourseId) : Prop :=
  ∀ i link, s.roster.linkOf i = some link → tag s i = some grade → link.2 ∈ keep

theorem reconcile_spec {turns : List Turn} (hunique : Unique s)
    (hlive : Live saved.gradeLevel saved.courses s) (h : reconcile saved by_ turns s = (r, s')) :
    ∃ mid, Shed saved.gradeLevel saved.courses s mid ∧
      Grew saved.gradeLevel
        (fun pair => AtGrade s saved.gradeLevel pair.1 ∧ pair.2 ∈ saved.courses) mid s' ∧
      ∀ saved' pumped, r = .ok (saved', pumped) →
        saved' = saved ∧ Justified mid saved.gradeLevel saved.courses ∧
        ∀ classId, AtGrade s saved.gradeLevel classId → ∀ course ∈ saved.courses,
          Carries s' classId course ∨ ∃ skip ∈ pumped.skipped, Names skip classId course := by
  unfold reconcile at h
  generalize hdrop : dropLinks saved.gradeLevel turns
    (sourcedLinks s saved.gradeLevel saved.courses) s = dropped at h
  obtain ⟨left, mid⟩ := dropped
  have hdoomed : ∀ link ∈ sourcedLinks s saved.gradeLevel saved.courses,
      link.course ∉ saved.courses := by
    intro link hlink
    obtain ⟨_, -, -, hkeep⟩ := mem_sourcedLinks.mp hlink
    exact hkeep
  obtain ⟨hshed, hclear⟩ := dropLinks_shed hunique hdoomed hdrop
  split at h
  · next heq =>
    cases heq
    cases h
    exact ⟨_, hshed, .refl _ _ _, nofun⟩
  · next turns' _ heq =>
    cases heq
    generalize hpump : pump saved.gradeLevel saved.courses by_
      (listForGrade mid saved.gradeLevel) 0 ⟨mid, turns', [], []⟩ = pumped at h
    obtain ⟨answer, run⟩ := pumped
    obtain ⟨hran, hmet⟩ := pump_ran (hlive.of_stands hshed.toStands) rfl hpump
    have hgrew : Grew saved.gradeLevel
        (fun pair => AtGrade s saved.gradeLevel pair.1 ∧ pair.2 ∈ saved.courses) mid run.db := by
      refine hran.grew.mono fun pair hpair => ?_
      obtain ⟨⟨section_, hsection, hpair'⟩, hcourse⟩ := hpair
      obtain ⟨hlookup, hlevel⟩ := mem_listForGrade.mp hsection
      rw [hshed.sections, hpair'] at hlookup
      exact ⟨⟨_, hlookup, hlevel⟩, hcourse⟩
    split at h
    · next heq =>
      cases heq
      cases h
      exact ⟨mid, hshed, hgrew, nofun⟩
    · next matched _ heq =>
      cases heq
      cases h
      refine ⟨mid, hshed, hgrew, fun saved' pumped hr => ?_⟩
      cases hr
      have hdead : run.dead = [] := hran.dead
      refine ⟨?_, ?_, ?_⟩
      · simp [hdead]
      · intro i link hlink htag
        by_contra hkeep
        have hrow := hshed.left i (by rw [hlink]; rfl)
        have hmem : (⟨link.1, link.2⟩ : Held) ∈
            sourcedLinks s saved.gradeLevel saved.courses :=
          mem_sourcedLinks.mpr ⟨i, by rw [← linkOf_of_row hrow, hlink],
            by rw [← tag_of_row hrow, htag], hkeep⟩
        exact hclear turns' rfl _ hmem i hlink htag
      · intro classId hgrade course hcourse
        obtain ⟨section_, hlookup, hlevel⟩ := hgrade
        have hsection : (classId, section_) ∈ listForGrade mid saved.gradeLevel :=
          mem_listForGrade.mpr ⟨by rw [hshed.sections]; exact hlookup, hlevel⟩
        exact hmet matched rfl _ hsection course hcourse

/-- The list was written, and nothing else. -/
theorem setCoursesIfUnchanged_spec {held wanted : List CourseId}
    (h : setCoursesIfUnchanged s grade held wanted = .ok (some (saved, s'))) :
    saved.gradeLevel = grade ∧ saved.courses = wanted ∧ s'.roster = s.roster ∧
      s'.classInstance = s.classInstance ∧ s'.classSection = s.classSection ∧
      Live grade wanted s' ∧
      ∃ row, s'.classBlueprint.lookup grade = some row ∧
        ∀ course, course ∈ row.courses ↔ course ∈ wanted := by
  unfold setCoursesIfUnchanged at h
  split at h
  · cases h
  · next halive =>
    have hcourses : ∀ course ∈ wanted, (s.roster.course.lookup course).isSome := by
      simpa [Option.isSome_iff_ne_none] using halive
    split at h
    · cases h
    · next old _ =>
      split at h
      · simp only [Except.ok.injEq, Option.some.injEq, Prod.mk.injEq] at h
        obtain ⟨rfl, rfl⟩ := h
        refine ⟨rfl, rfl, rfl, rfl, rfl, ⟨?_, hcourses⟩, _, lookup_insert_eq .. |>.trans
          (if_pos rfl), fun course => ?_⟩
        · rw [lookup_insert_eq, if_pos rfl]
          rfl
        · by_cases hold : course ∈ old.courses <;> simp [hold]
      · simp at h

theorem setCourses_cases (h : setCourses edit s = (r, s')) :
    (s' = s ∧ ∃ refusal, r = .error refusal) ∨
      ∃ wanted saved stored turns, courseList edit.courses = .ok wanted ∧
        setCoursesIfUnchanged s edit.blueprint.gradeLevel edit.blueprint.courses wanted =
          .ok (some (saved, stored)) ∧
        reconcile saved edit.by_ turns stored = (r, s') := by
  unfold setCourses at h
  split at h
  · cases h
    exact .inl ⟨rfl, _, rfl⟩
  · next wanted hwanted =>
    split at h
    · cases h
      exact .inl ⟨rfl, _, rfl⟩
    · next turns _ =>
      split at h
      · cases h
        exact .inl ⟨rfl, _, rfl⟩
      · cases h
        exact .inl ⟨rfl, _, rfl⟩
      · next saved stored hsaved =>
        exact .inr ⟨wanted, saved, stored, turns, hwanted, hsaved, h⟩

theorem unique_of_rows (hrows : ∀ i, row s' i = row s i) (hunique : Unique s) : Unique s' := by
  intro i j pair hi hj
  rw [linkOf_of_row (hrows i)] at hi
  rw [linkOf_of_row (hrows j)] at hj
  exact hunique i j pair hi hj

theorem setCourses_spec (hunique : Unique s) (h : setCourses edit s = (r, s')) :
    (s' = s ∧ ∃ refusal, r = .error refusal) ∨
      ∃ saved stored mid, courseList edit.courses = .ok saved.courses ∧
        saved.gradeLevel = edit.blueprint.gradeLevel ∧
        (∀ i, row stored i = row s i) ∧ stored.classSection = s.classSection ∧
        (∃ blueprint, read stored saved.gradeLevel = some blueprint ∧
          ∀ course, course ∈ blueprint.courses ↔ course ∈ saved.courses) ∧
        Shed saved.gradeLevel saved.courses stored mid ∧
        Grew saved.gradeLevel
          (fun pair => AtGrade stored saved.gradeLevel pair.1 ∧ pair.2 ∈ saved.courses) mid s' ∧
        ∀ saved' pumped, r = .ok (saved', pumped) →
          saved' = saved ∧ Justified mid saved.gradeLevel saved.courses ∧
          ∀ classId, AtGrade stored saved.gradeLevel classId → ∀ course ∈ saved.courses,
            Carries s' classId course ∨ ∃ skip ∈ pumped.skipped, Names skip classId course := by
  obtain hrefused | ⟨wanted, saved, stored, turns, hwanted, hsaved, hreconcile⟩ :=
    setCourses_cases h
  · exact .inl hrefused
  · obtain ⟨hgrade, rfl, hroster, hinstance, hsections, hlive, old, hold, hcourses⟩ :=
      setCoursesIfUnchanged_spec hsaved
    rw [← hgrade] at hlive hold
    have hrows : ∀ i, row stored i = row s i := by
      intro i
      rw [row, row, hroster, hinstance]
    obtain ⟨mid, hshed, hgrew, hdone⟩ :=
      reconcile_spec (unique_of_rows hrows hunique) hlive hreconcile
    have hread : read stored saved.gradeLevel =
        some ⟨saved.gradeLevel, old.courses, old.creator⟩ := by
      rw [read, hold]
      rfl
    exact .inr ⟨saved, stored, mid, hwanted, hgrade, hrows, hsections, ⟨_, hread, hcourses⟩,
      hshed, hgrew, hdone⟩

theorem setCourses_unique (edit : Edit) (hunique : Unique s) :
    Unique (setCourses edit s).2 := by
  obtain ⟨heq, -⟩ | ⟨saved, stored, mid, -, -, hrows, -, -, hshed, hgrew, -⟩ :=
    setCourses_spec hunique (Prod.mk.eta (p := setCourses edit s)).symm
  · rw [heq]
    exact hunique
  · exact hgrew.unique (hshed.unique (unique_of_rows hrows hunique))

def after (edits : List Edit) (s : Db) : Db :=
  Sequential.run (fun edit s => (setCourses edit s).2) s edits

theorem after_unique (edits : List Edit) (hunique : Unique s) : Unique (after edits s) :=
  Sequential.run_invariant (fun _ edit => setCourses_unique edit) hunique

/-! ## What a call leaves -/

theorem mem_status {blueprint : ClassBlueprint} :
    (∃ st ∈ status s blueprint, st.classId = classId ∧ course ∈ st.missing) ↔
      AtGrade s blueprint.gradeLevel classId ∧ course ∈ blueprint.courses ∧
        ¬ Carries s classId course := by
  have hany : (Table.any s.roster.classCourse fun _ row =>
      decide (row.classId = classId) && decide (row.course = course)) = true ↔
        Carries s classId course := by
    rw [Table.any_iff]
    constructor
    · rintro ⟨i, held, hrow, hmatch⟩
      simp only [Bool.and_eq_true, decide_eq_true_eq] at hmatch
      exact ⟨i, Roster.linkOf_eq_some.mpr ⟨held, hrow, hmatch⟩⟩
    · rintro ⟨i, hi⟩
      obtain ⟨held, hrow, hmatch⟩ := Roster.linkOf_eq_some.mp hi
      exact ⟨i, held, hrow, by simp [hmatch.1, hmatch.2]⟩
  unfold status
  constructor
  · rintro ⟨st, hst, rfl, hmissing⟩
    obtain ⟨section_, hsection, rfl⟩ := List.mem_map.mp hst
    obtain ⟨hlookup, hlevel⟩ := mem_listForGrade.mp hsection
    obtain ⟨hcourse, hfree⟩ := List.mem_filter.mp hmissing
    refine ⟨⟨section_.2, hlookup, hlevel⟩, hcourse, fun hcarries => ?_⟩
    rw [hany.mpr hcarries] at hfree
    cases hfree
  · rintro ⟨⟨section_, hlookup, hlevel⟩, hcourse, hfree⟩
    refine ⟨_, List.mem_map.mpr ⟨(classId, section_), mem_listForGrade.mpr ⟨hlookup, hlevel⟩, rfl⟩,
      rfl, List.mem_filter.mpr ⟨hcourse, ?_⟩⟩
    rw [Bool.not_eq_true', Bool.eq_false_iff]
    exact fun hcarries => hfree (hany.mp hcarries)

structure Reconciled (edit : Edit) (saved : ClassBlueprint) (pumped : Pumped) (s s' : Db) :
    Prop where
  returned : saved.gradeLevel = edit.blueprint.gradeLevel ∧
    courseList edit.courses = .ok saved.courses
  stored : ∃ blueprint, read s' saved.gradeLevel = some blueprint ∧
    (∀ course, course ∈ blueprint.courses ↔ course ∈ saved.courses) ∧
    (∀ i link, s'.roster.linkOf i = some link → tag s' i = some saved.gradeLevel →
      link.2 ∈ blueprint.courses) ∧
    ∀ classId course, (∃ st ∈ status s' blueprint, st.classId = classId ∧ course ∈ st.missing) ↔
      AtGrade s' saved.gradeLevel classId ∧ course ∈ saved.courses ∧ ¬ Carries s' classId course
  stocked : ∀ classId, AtGrade s' saved.gradeLevel classId → ∀ course ∈ saved.courses,
    Carries s' classId course ∨ ∃ skip ∈ pumped.skipped, Names skip classId course
  others : ∀ i, (s.roster.linkOf i).isSome → tag s i ≠ some saved.gradeLevel →
    row s' i = row s i

/-- The list that is stored, sent once more: nothing is taken away, and what is added are pairs
that were not carried. -/
theorem setCourses_again (edit : Edit) (hunique : Unique s)
    (hjustified : ∀ wanted, courseList edit.courses = .ok wanted →
      Justified s edit.blueprint.gradeLevel wanted) :
    (∀ i, (s.roster.linkOf i).isSome → row (setCourses edit s).2 i = row s i) ∧
      ∀ i pair, s.roster.linkOf i = none → (setCourses edit s).2.roster.linkOf i = some pair →
        ∃ wanted, courseList edit.courses = .ok wanted ∧
          AtGrade s edit.blueprint.gradeLevel pair.1 ∧ pair.2 ∈ wanted ∧
          ¬ Carries s pair.1 pair.2 := by
  obtain ⟨heq, -⟩ | ⟨saved, stored, mid, hwanted, hgrade, hrows, hsections, -, hshed, hgrew, -⟩ :=
    setCourses_spec hunique (Prod.mk.eta (p := setCourses edit s)).symm
  · rw [heq]
    refine ⟨fun _ _ => rfl, fun i pair hnone hsome => ?_⟩
    rw [hnone] at hsome
    cases hsome
  · have hkept : ∀ i, (s.roster.linkOf i).isSome → (mid.roster.linkOf i).isSome := by
      intro i hi
      obtain ⟨link, hlink⟩ := Option.isSome_iff_exists.mp hi
      rw [Option.isSome_iff_ne_none]
      intro hnone
      obtain ⟨htag, hkeep⟩ := hshed.gone i link (by rw [linkOf_of_row (hrows i), hlink]) hnone
      rw [tag_of_row (hrows i), hgrade] at htag
      exact hkeep (hjustified _ hwanted i link hlink htag)
    have hmid : ∀ i, (mid.roster.linkOf i).isSome → row mid i = row s i := fun i hi =>
      (hshed.left i hi).trans (hrows i)
    refine ⟨fun i hi => ?_, fun i pair hnone hsome => ?_⟩
    · rw [hgrew.kept i (hkept i hi), hmid i (hkept i hi)]
    · have hfree : mid.roster.linkOf i = none := by
        by_contra hne
        have hsome' := Option.isSome_iff_ne_none.mpr hne
        rw [linkOf_of_row (hmid i hsome')] at hne
        exact hne hnone
      obtain ⟨-, hcarried, hatgrade, hcourse⟩ := hgrew.new i pair hfree hsome
      refine ⟨saved.courses, hwanted, ?_, hcourse, ?_⟩
      · rw [AtGrade, hsections, hgrade] at hatgrade
        exact hatgrade
      · rintro ⟨j, hj⟩
        have hj' : (s.roster.linkOf j).isSome := by rw [hj]; rfl
        exact hcarried ⟨j, by rw [linkOf_of_row (hmid j (hkept j hj')), hj]⟩

theorem setCourses_reconciled {pumped : Pumped} (hunique : Unique s)
    (h : setCourses edit s = (.ok (saved, pumped), s')) :
    Reconciled edit saved pumped s s' := by
  obtain ⟨-, refusal, hr⟩ | ⟨saved', stored, mid, hwanted, hgrade, hrows, hsections, hread, hshed,
    hgrew, hdone⟩ := setCourses_spec hunique h
  · cases hr
  · obtain ⟨rfl, hjustified, hmet⟩ := hdone _ _ rfl
    obtain ⟨blueprint, hblueprint, hcourses⟩ := hread
    have hlevel : blueprint.gradeLevel = saved.gradeLevel := by
      rw [read, Option.map_eq_some_iff] at hblueprint
      obtain ⟨_, -, rfl⟩ := hblueprint
      rfl
    have hsame : s'.classSection = stored.classSection := hgrew.sections.trans hshed.sections
    have htagged : ∀ i link, s'.roster.linkOf i = some link →
        tag s' i = some saved.gradeLevel → link.2 ∈ saved.courses := by
      intro i link hlink htag
      cases hmid : mid.roster.linkOf i with
      | none => exact (hgrew.new i link hmid hlink).2.2.2
      | some =>
          have hrow := hgrew.kept i (by rw [hmid]; rfl)
          rw [linkOf_of_row hrow, hmid] at hlink
          cases hlink
          exact hjustified i link hmid (by rw [← tag_of_row hrow, htag])
    refine ⟨⟨hgrade, hwanted⟩, ⟨blueprint, ?_, hcourses, ?_, fun classId course => ?_⟩, ?_, ?_⟩
    · rw [read, hgrew.templates, hshed.templates]
      exact hblueprint
    · intro i link hlink htag
      exact (hcourses _).mpr (htagged i link hlink htag)
    · rw [mem_status, hlevel, hcourses]
    · intro classId hatgrade course hcourse
      rw [AtGrade, hsame] at hatgrade
      exact hmet classId hatgrade course hcourse
    · intro i hi htag
      have hi' : (stored.roster.linkOf i).isSome := by rw [linkOf_of_row (hrows i)]; exact hi
      have hmid : (mid.roster.linkOf i).isSome := by
        obtain ⟨link, hlink⟩ := Option.isSome_iff_exists.mp hi'
        rw [Option.isSome_iff_ne_none]
        intro hnone
        refine htag ?_
        rw [← tag_of_row (hrows i)]
        exact (hshed.gone i link hlink hnone).1
      rw [hgrew.kept i hmid, hshed.left i hmid, hrows i]

/-- A call that comes back leaves the sections at the stored list, whichever calls stopped
midway before it, and sending the list again only retries the pairs it reported. -/
theorem set_courses_reconciles {s₀ : Db} (hunique : Unique s₀) (earlier : List Edit)
    {edit : Edit} {saved : ClassBlueprint} {pumped : Pumped}
    (h : setCourses edit (after earlier s₀) = (.ok (saved, pumped), s')) :
    Reconciled edit saved pumped (after earlier s₀) s' ∧
      ∀ again : Edit, again.blueprint.gradeLevel = saved.gradeLevel →
        again.courses = edit.courses →
        (∀ i, (s'.roster.linkOf i).isSome → row (setCourses again s').2 i = row s' i) ∧
          ∀ i pair, s'.roster.linkOf i = none →
            (setCourses again s').2.roster.linkOf i = some pair →
            ∃ skip ∈ pumped.skipped, Names skip pair.1 pair.2 := by
  have hreconciled := setCourses_reconciled (after_unique earlier hunique) h
  have hunique' : Unique s' := by
    have hnext := setCourses_unique edit (after_unique earlier hunique)
    rwa [h] at hnext
  refine ⟨hreconciled, fun again hgrade hcourses => ?_⟩
  obtain ⟨blueprint, -, hlist, htagged, -⟩ := hreconciled.stored
  have hsame : ∀ wanted, courseList again.courses = .ok wanted → wanted = saved.courses := by
    intro wanted hwanted
    rw [hcourses, hreconciled.returned.2] at hwanted
    cases hwanted
    rfl
  have hjustified : ∀ wanted, courseList again.courses = .ok wanted →
      Justified s' again.blueprint.gradeLevel wanted := by
    intro wanted hwanted i link hlink htag
    rw [hsame wanted hwanted, ← hlist]
    exact htagged i link hlink (by rw [← hgrade, htag])
  obtain ⟨hkept, hnew⟩ := setCourses_again again hunique' hjustified
  refine ⟨hkept, fun i pair hnone hsome => ?_⟩
  obtain ⟨wanted, hwanted, hatgrade, hcourse, hfree⟩ := hnew i pair hnone hsome
  rw [hsame wanted hwanted] at hcourse
  rw [hgrade] at hatgrade
  exact (hreconciled.stocked _ hatgrade _ hcourse).resolve_left hfree

namespace Sample

open School.Sample (headmaster accounts firstUuid secondUuid thirdUuid fourthUuid)

def ninth : GradeLevel := .ninth

def maths : CourseId := ⟨firstUuid⟩

def physics : CourseId := ⟨secondUuid⟩

def art : CourseId := ⟨thirdUuid⟩

def nineA : ClassGroupId := ⟨firstUuid⟩

def nineB : ClassGroupId := ⟨secondUuid⟩

def store : Db where
  appUser := accounts
  academicYear := ∅
  term := ∅
  karneSnapshot := ∅
  roster := { Roster.empty with
    course := (((∅ : Table CourseId School.Course).insert maths ⟨.course, 1⟩).insert physics
      ⟨.course, 0⟩).insert art ⟨.course, 1⟩
    classGroup := ((∅ : Table ClassGroupId School.ClassGroup).insert nineA ⟨none, 0, 2⟩).insert
      nineB ⟨none, 0, 0⟩
    classCourse := ((∅ : Table ClassCourseId School.ClassCourse).insert ⟨firstUuid⟩
      ⟨nineA, maths, headmaster, 0, 0⟩).insert ⟨secondUuid⟩ ⟨nineA, art, headmaster, 0, 0⟩ }
  classSection := ((∅ : Table ClassGroupId Section).insert nineA ⟨"9-A", ninth, none⟩).insert
    nineB ⟨"9-B", ninth, none⟩
  classInstance := ((∅ : Table ClassCourseId Instance).insert ⟨firstUuid⟩
    (.fresh (some ninth) ⟨maths, ninth⟩)).insert ⟨secondUuid⟩ (.fresh none ⟨art, ninth⟩)
  classBlueprint := (∅ : Table GradeLevel Years.ClassBlueprint).insert ninth
    ⟨[maths], headmaster⟩
  courseCreator := ∅
  subjectCourse := ∅
  exams := .empty
  examAudience := ∅
  offeringSubject := ∅
  classCourseSubject := ∅
  classCourseSlot := ∅
  classCourseExamWeight := ∅
  courseSession := ∅
  homework := ∅

theorem store_unique : Unique store := by
  intro i j pair hi hj
  obtain ⟨held, hrow, hclass, hcourse⟩ := Roster.linkOf_eq_some.mp hi
  obtain ⟨held', hrow', hclass', hcourse'⟩ := Roster.linkOf_eq_some.mp hj
  have hall : ∀ e ∈ store.roster.classCourse.entries, ∀ e' ∈ store.roster.classCourse.entries,
      e.2.classId = e'.2.classId → e.2.course = e'.2.course → e.1 = e'.1 := by decide
  exact hall _ (mem_entries_iff_lookup.mpr hrow) _ (mem_entries_iff_lookup.mpr hrow')
    (hclass.trans hclass'.symm) (hcourse.trans hcourse'.symm)

def stoppedEdit : Edit :=
  ⟨[⟨⟨thirdUuid⟩, 0⟩], ⟨ninth, [maths], headmaster⟩, [physics, art], headmaster⟩

def finishingEdit : Edit :=
  ⟨[⟨⟨thirdUuid⟩, 0⟩, ⟨⟨thirdUuid⟩, 0⟩, ⟨⟨thirdUuid⟩, 0⟩, ⟨⟨fourthUuid⟩, 0⟩, ⟨⟨firstUuid⟩, 0⟩,
    ⟨⟨firstUuid⟩, 0⟩], ⟨ninth, [physics, art], headmaster⟩, [physics, art], headmaster⟩

theorem set_courses_reconciles_finished :
    ∃ saved pumped, Reconciled finishingEdit saved pumped (after [stoppedEdit] store)
        (setCourses finishingEdit (after [stoppedEdit] store)).2 ∧
      after [stoppedEdit] store ≠ store := by
  have hok : (setCourses finishingEdit (after [stoppedEdit] store)).1.isOk = true := by decide
  have hmoved : after [stoppedEdit] store ≠ store := by
    intro heq
    have hlist := congrArg (fun s : Db => (s.classBlueprint.lookup ninth).map (·.courses)) heq
    revert hlist
    decide
  generalize hcall : setCourses finishingEdit (after [stoppedEdit] store) = called at hok ⊢
  obtain ⟨answer, s'⟩ := called
  cases answer with
  | error => cases hok
  | ok answered =>
      exact ⟨answered.1, answered.2,
        (set_courses_reconciles store_unique [stoppedEdit] hcall).1, hmoved⟩

end Sample

end Hezarfen.Blueprints
