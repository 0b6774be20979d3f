import Hezarfen.PodcastJobs

/-!
# The life of a podcast job

The stored states of a job follow the transitions of the service, a terminal state stays, a
finished job names its audio, and the format and the transcript are written once.  The
sources are the exception: a later report that carries sources overwrites them.
-/

namespace Hezarfen.Podcast

open Interleaving

variable {α : Type} {s s' : Db} {id : PodcastJobId} {p q : Point} {call : ℕ} {w : World} {n : Reply}
  {row row' : PodcastJob}

/-! ## What a write does to a row -/

inductive Transition : PodcastJobState → PodcastJobState → Prop
  | repeated (state : PodcastJobState) : Transition state state
  | started : Transition .queued .running
  | queuedCancelled : Transition .queued .cancelled
  | queuedFailed : Transition .queued .failed
  | finished : Transition .running .done
  | runningFailed : Transition .running .failed
  | runningCancelled : Transition .running .cancelled

theorem transition_of_can {source target : PodcastJobState}
    (h : source.canTransitionTo target = true) : Transition source target := by
  revert h
  cases source <;> cases target <;> intro h
  all_goals first
    | exact .repeated _
    | exact .started
    | exact .queuedCancelled
    | exact .queuedFailed
    | exact .finished
    | exact .runningFailed
    | exact .runningCancelled
    | cases h

theorem Transition.terminal {source target : PodcastJobState} (h : Transition source target)
    (hterminal : source.isTerminal = true) : target = source := by
  cases h with
  | repeated => rfl
  | _ => cases hterminal

/-- A column that keeps a value it has. -/
def WrittenOnce {α : Type} (before after : Option α) : Prop := ∀ a, before = some a → after = some a

theorem WrittenOnce.refl (before : Option α) : WrittenOnce before before :=
  fun _ h => h

/-- `COALESCE` with the stored value first. -/
theorem WrittenOnce.or (before new : Option α) : WrittenOnce before (before.or new) := by
  rintro a rfl
  rfl

/-- `COALESCE` with the new value first. -/
theorem writtenOnce_or_iff {before new : Option α} :
    WrittenOnce before (new.or before) ↔ new = none ∨ before = none ∨ before = new := by
  cases new with
  | none => simp [WrittenOnce]
  | some =>
      cases before with
      | none => simp [WrittenOnce]
      | some b =>
          simp only [WrittenOnce, Option.some_or, Option.some.injEq, reduceCtorEq, false_or]
          exact ⟨fun h => (h b rfl).symm, fun h c hc => h.symm.trans hc⟩

structure Follows (before after : PodcastJob) : Prop where
  transition : Transition before.state after.state
  audio : after.state = .done → after.audioKey.isSome = true
  format : WrittenOnce before.format after.format
  transcript : WrittenOnce before.transcript after.transcript

/-- A lawful write of a row. -/
structure Lawful (before after : PodcastJob) : Prop extends Follows before after where
  terminal : before.state.isTerminal = true → after.state = before.state
  sources : WrittenOnce before.sources after.sources

/-- The writes of an existing row. -/
inductive Change (p : Point) (id : PodcastJobId) (row : PodcastJob) : PodcastJob → Prop
  | eta (etaSecs : ℤ) : Change p id row { row with etaSecs := some etaSecs }
  | reported (job : Write) (now : Timestamp) (hp : p = .report job) (hid : job.id = id)
      (hstate : row.state = job.source) (haudio : (row.reported job now).doneHasAudio = true) :
      Change p id row (row.reported job now)
  | cancelled (now : Timestamp) (hlive : row.isLive = true) : Change p id row (row.cancel now)
  | failed (errorCode : String) (now : Timestamp) (hlive : row.isLive = true) :
      Change p id row (row.fail errorCode now)
  | audio (request : UploadRequest) (key : String) (now : Timestamp) :
      Change p id row (row.withAudio request key now)

/-- What a step does to the store. -/
inductive Wrote (p : Point) (s : Db) : Db → Prop
  | nothing : Wrote p s s
  | created (id : PodcastJobId) (row : PodcastJob) (hfresh : s.podcastJob.lookup id = none)
      (hqueued : row.state = .queued) : Wrote p s (s.put id row)
  | changed (id : PodcastJobId) (row row' : PodcastJob)
      (hrow : s.podcastJob.lookup id = some row) (hchange : Change p id row row') :
      Wrote p s (s.put id row')

theorem update_cases {p : PodcastJob → Bool} {f : PodcastJob → PodcastJob}
    {r : Option PodcastJob × Db} (h : s.update id p f = r) :
    (r = (none, s) ∧ ∀ row, s.podcastJob.lookup id = some row → p row = false) ∨
      ∃ row, s.podcastJob.lookup id = some row ∧ p row = true ∧
        r = (some (f row), s.put id (f row)) := by
  unfold Db.update at h
  split at h
  · next hnone =>
    refine .inl ⟨h.symm, fun row hrow => ?_⟩
    rw [hrow] at hnone
    simpa [Option.filter] using hnone
  · next row hrow =>
    obtain ⟨hlookup, hp⟩ := Option.filter_eq_some_iff.mp hrow
    exact .inr ⟨row, hlookup, hp, h.symm⟩

theorem wrote_update {q : PodcastJob → Bool} {f : PodcastJob → PodcastJob}
    (hchange : ∀ row, q row = true → Change p id row (f row)) :
    Wrote p s (s.update id q f).2 := by
  obtain ⟨hnone, -⟩ | ⟨row, hrow, hq, hsome⟩ := update_cases (rfl : s.update id q f = _)
  · rw [hnone]
    exact .nothing
  · rw [hsome]
    exact .changed id row (f row) hrow (hchange row hq)

theorem next_wrote (h : next call s p w = some (s', n)) : Wrote p s s' := by
  cases p with
  | create =>
      simp only [next, create, Option.some.injEq] at h
      split at h
      · cases h
        exact .nothing
      · next hfresh =>
        cases h
        refine .created _ _ ?_ rfl
        by_contra hnot
        exact hfresh (.inl (Option.isSome_iff_ne_none.mpr hnot))
  | setEta =>
      cases h
      exact wrote_update fun row _ => .eta _
  | readReported | reread | readIngested =>
      cases h
      exact .nothing
  | report job =>
      simp only [next, report, Option.some.injEq] at h
      obtain ⟨hnone, -⟩ | ⟨row, hrow, hstate, hsome⟩ :=
        update_cases (rfl : s.update job.id (fun row => row.state = job.source)
          (fun row => row.reported job w.now) = _)
      · rw [hnone] at h
        cases h
        exact .nothing
      · rw [hsome] at h
        simp only at h
        split at h
        · next haudio =>
          cases h
          exact .changed _ row _ hrow
            (.reported job w.now rfl rfl (of_decide_eq_true hstate) haudio)
        · cases h
          exact .nothing
  | setCancelled =>
      cases h
      exact wrote_update fun row hlive => .cancelled w.now hlive
  | setFailed id errorCode =>
      cases h
      exact wrote_update fun row hlive => .failed errorCode w.now hlive
  | setAudio request key =>
      simp only [next, setAudio, Option.some.injEq] at h
      obtain ⟨hnone, -⟩ | ⟨row, hrow, -, hsome⟩ :=
        update_cases (rfl : s.update request.jobId (fun _ => true)
          (PodcastJob.withAudio request key w.now) = _)
      · rw [hnone] at h
        cases h
        exact .nothing
      · rw [hsome] at h
        cases h
        exact .changed _ row _ hrow (.audio request key w.now)

/-- A finished job names its audio. -/
def Inv (s : Db) : Prop :=
  ∀ id row, s.podcastJob.lookup id = some row → row.doneHasAudio = true

def Point.Knows (s : Db) : Point → Prop
  | .report job =>
      job.source.canTransitionTo job.target = true ∧
        (job.target = .done →
          ∃ row, s.podcastJob.lookup job.id = some row ∧ row.audioKey.isSome = true)
  | _ => True

theorem transition_of_live (h : row.isLive = true) :
    Transition row.state .cancelled ∧ Transition row.state .failed := by
  have hlive : row.state = .queued ∨ row.state = .running := of_decide_eq_true h
  obtain hqueued | hrunning := hlive
  · rw [hqueued]
    exact ⟨.queuedCancelled, .queuedFailed⟩
  · rw [hrunning]
    exact ⟨.runningCancelled, .runningFailed⟩

theorem doneHasAudio_iff :
    row.doneHasAudio = true ↔ (row.state = .done → row.audioKey.isSome = true) := by
  simp only [PodcastJob.doneHasAudio, decide_eq_true_eq]
  exact ⟨fun h hdone => h.resolve_left (not_not.mpr hdone), fun h => or_iff_not_imp_left.mpr
    fun hdone => h (not_not.mp hdone)⟩

theorem Change.follows (h : Change p id row row') (hknows : p.Knows s)
    (haudio : row.doneHasAudio = true) :
    Follows row row' := by
  rw [doneHasAudio_iff] at haudio
  cases h with
  | eta => exact ⟨.repeated _, haudio, .refl _, .refl _⟩
  | reported job now hp hid hstate hdone =>
      subst hp
      refine ⟨?_, doneHasAudio_iff.mp hdone, .or _ _, .or _ _⟩
      rw [hstate]
      exact transition_of_can hknows.1
  | cancelled now hlive =>
      exact ⟨(transition_of_live hlive).1, fun hdone => (by cases hdone), .refl _, .refl _⟩
  | failed errorCode now hlive =>
      exact ⟨(transition_of_live hlive).2, fun hdone => (by cases hdone), .refl _, .refl _⟩
  | audio => exact ⟨.repeated _, fun _ => rfl, .refl _, .refl _⟩

theorem Change.lawful_iff (h : Change p id row row') (hknows : p.Knows s)
    (haudio : row.doneHasAudio = true) :
    Lawful row row' ↔ WrittenOnce row.sources row'.sources :=
  ⟨Lawful.sources, fun hsources =>
    { toFollows := h.follows hknows haudio
      terminal := (h.follows hknows haudio).transition.terminal
      sources := hsources }⟩

theorem lookup_put (s : Db) (id id' : PodcastJobId) (row : PodcastJob) :
    (s.put id row).podcastJob.lookup id' =
      if id' = id then some row else s.podcastJob.lookup id' :=
  lookup_insert_eq _ _ _ _

theorem Inv.step (h : Inv s) (hknows : p.Knows s) (hwrote : Wrote p s s') : Inv s' := by
  cases hwrote with
  | nothing => exact h
  | created id row hfresh hqueued =>
      intro id' row' hrow'
      rw [lookup_put] at hrow'
      split at hrow'
      · cases hrow'
        rw [doneHasAudio_iff, hqueued]
        rintro ⟨⟩
      · exact h id' row' hrow'
  | changed id row new hrow hchange =>
      intro id' row' hrow'
      rw [lookup_put] at hrow'
      split at hrow'
      · cases hrow'
        exact doneHasAudio_iff.mpr (hchange.follows hknows (h id row hrow)).audio
      · exact h id' row' hrow'

theorem Change.keeps_audio (h : Change p id row row') (haudio : row.audioKey.isSome = true) :
    row'.audioKey.isSome = true := by
  cases h with
  | audio => rfl
  | _ => exact haudio

theorem Wrote.knows (h : Wrote p s s') (hq : q.Knows s) :
    q.Knows s' := by
  cases q with
  | report job =>
      refine ⟨hq.1, fun hdone => ?_⟩
      obtain ⟨row, hrow, haudio⟩ := hq.2 hdone
      cases h with
      | nothing => exact ⟨row, hrow, haudio⟩
      | created id new hfresh =>
          have hne : job.id ≠ id := by
            rintro rfl
            rw [hrow] at hfresh
            cases hfresh
          exact ⟨row, by rw [lookup_put, if_neg hne, hrow], haudio⟩
      | changed id old new hold hchange =>
          by_cases heq : job.id = id
          · subst heq
            rw [hrow] at hold
            cases hold
            exact ⟨new, by rw [lookup_put, if_pos rfl], hchange.keeps_audio haudio⟩
          · exact ⟨row, by rw [lookup_put, if_neg heq, hrow], haudio⟩
  | _ => trivial

theorem readReported_knows {input : ReportInput} (h : readReported s w input = .goto q) :
    q.Knows s := by
  unfold readReported at h
  split at h
  · cases h
  · next target progress hshape =>
    split at h
    · cases h
    · next row hrow =>
      split at h
      · cases h
      · next hcheck =>
        cases h
        unfold checkRow at hcheck
        split at hcheck
        · cases hcheck
        · split at hcheck
          · cases hcheck
          · split at hcheck
            · cases hcheck
            · split at hcheck
              · cases hcheck
              · split at hcheck
                · cases hcheck
                · next hcan =>
                  split at hcheck
                  · cases hcheck
                  · next haudio =>
                    refine ⟨by simpa using hcan, fun hdone => ⟨row, hrow, ?_⟩⟩
                    rw [Option.isSome_iff_ne_none]
                    exact fun hnone => haudio ⟨hdone, hnone⟩

theorem next_knows (h : next call s p w = some (s', .goto q)) : q.Knows s' := by
  cases p with
  | create =>
      simp only [next, create, Option.some.injEq] at h
      split at h
      · cases h
      · cases h
  | readReported =>
      simp only [next, Option.some.injEq, Prod.mk.injEq] at h
      obtain ⟨rfl, h⟩ := h
      exact readReported_knows h
  | report =>
      simp only [next, report, Option.some.injEq] at h
      split at h
      · cases h
        trivial
      · split at h
        · cases h
        · cases h
  | reread =>
      simp only [next, reread, Option.some.injEq, Prod.mk.injEq] at h
      obtain ⟨-, h⟩ := h
      split at h
      · cases h
      · cases h
  | readIngested =>
      simp only [next, readIngested, Option.some.injEq, Prod.mk.injEq] at h
      obtain ⟨-, h⟩ := h
      split at h
      · cases h
      · split at h
        · cases h
        · split at h
          · cases h
          · cases h
            trivial
  | setAudio =>
      simp only [next, setAudio, Option.some.injEq] at h
      split at h
      · cases h
      · cases h
  | setEta | setCancelled | setFailed => cases h

theorem relyGuarantee :
    machine.RelyGuarantee (fun _ _ => True) Inv (fun _ p s => p.Knows s) where
  entry _ request _ _ := by cases request <;> trivial
  own := by
    intro c call w p s n hc _ hp hnext
    have hmove : next call c.shared p w = some (s, n) := hnext
    refine ⟨hc.shared.step (hc.calls call p hp) (next_wrote hmove), ?_⟩
    rintro q rfl
    exact next_knows hmove
  others := by
    intro c call w p s n hc _ hp hnext call' q _ hq
    have hmove : next call c.shared p w = some (s, n) := hnext
    exact (next_wrote hmove).knows (hc.calls call' q hq)
  rollback := fun hc _ => ⟨hc.shared, fun call' q _ hq => hc.calls call' q hq⟩

def LawfulStores (stores : Db × Db) : Prop :=
  ∀ id before, stores.1.podcastJob.lookup id = some before →
    ∃ after, stores.2.podcastJob.lookup id = some after ∧ Lawful before after

theorem Lawful.refl (h : row.doneHasAudio = true) : Lawful row row where
  transition := .repeated _
  audio := doneHasAudio_iff.mp h
  format := .refl _
  transcript := .refl _
  terminal _ := rfl
  sources := .refl _

theorem lawfulStores_refl (h : Inv s) : LawfulStores (s, s) :=
  fun id before hbefore => ⟨before, hbefore, .refl (h id before hbefore)⟩

theorem lawfulStores_put (h : Inv s) {new : PodcastJob} (hrow : s.podcastJob.lookup id = some row) :
    LawfulStores (s, s.put id new) ↔ Lawful row new := by
  constructor
  · intro hstores
    obtain ⟨after, hafter, hlawful⟩ := hstores id row hrow
    rw [lookup_put, if_pos rfl] at hafter
    cases hafter
    exact hlawful
  · intro hlawful id' before hbefore
    by_cases heq : id' = id
    · subst heq
      have hbefore : s.podcastJob.lookup id' = some before := hbefore
      rw [hrow] at hbefore
      cases hbefore
      exact ⟨new, by rw [lookup_put, if_pos rfl], hlawful⟩
    · exact ⟨before, by rw [lookup_put, if_neg heq]; exact hbefore, .refl (h id' before hbefore)⟩

theorem report_cases {job : Write} (hknows : (Point.report job).Knows s)
    (h : next call s (.report job) w = some (s', n)) :
    (s' = s ∧ ∀ row, s.podcastJob.lookup job.id = some row → row.state ≠ job.source) ∨
      ∃ row, s.podcastJob.lookup job.id = some row ∧ row.state = job.source ∧
        (row.reported job w.now).doneHasAudio = true ∧
        s' = s.put job.id (row.reported job w.now) := by
  simp only [next, report, Option.some.injEq] at h
  obtain ⟨hnone, hmoved⟩ | ⟨row, hrow, hstate, hsome⟩ :=
    update_cases (rfl : s.update job.id (fun row => row.state = job.source)
      (fun row => row.reported job w.now) = _)
  · rw [hnone] at h
    cases h
    exact .inl ⟨rfl, fun row hrow => of_decide_eq_false (hmoved row hrow)⟩
  · have haudio : (row.reported job w.now).doneHasAudio = true := by
      rw [doneHasAudio_iff]
      intro hdone
      obtain ⟨found, hfound, haudio⟩ := hknows.2 hdone
      rw [hrow] at hfound
      cases hfound
      exact haudio
    rw [hsome] at h
    simp only [haudio, if_true] at h
    cases h
    exact .inr ⟨row, hrow, of_decide_eq_true hstate, haudio, rfl⟩

theorem Change.keeps_sources (h : Change p id row row') (hp : ∀ job, p ≠ .report job) :
    row'.sources = row.sources := by
  cases h with
  | reported job now hreport => exact absurd hreport (hp job)
  | _ => rfl

/-- A step is lawful exactly when it keeps the sources. -/
theorem keepsSources_iff {c : Config Db Point} (hinv : Inv c.shared) (hknows : p.Knows c.shared)
    (h : next call c.shared p w = some (s, n)) :
    keepsSources c p = true ↔ LawfulStores (c.shared, s) := by
  by_cases hp : ∀ job, p ≠ .report job
  · have hkeeps : keepsSources c p = true := by
      cases p with
      | report job => exact absurd rfl (hp job)
      | _ => rfl
    refine iff_of_true hkeeps ?_
    cases next_wrote h with
    | nothing => exact lawfulStores_refl hinv
    | created id row hfresh =>
        intro id' before hbefore
        have hbefore : c.shared.podcastJob.lookup id' = some before := hbefore
        have hne : id' ≠ id := by
          rintro rfl
          rw [hfresh] at hbefore
          cases hbefore
        exact ⟨before, by rw [lookup_put, if_neg hne, hbefore], .refl (hinv id' before hbefore)⟩
    | changed id row row' hrow hchange =>
        refine (lawfulStores_put hinv hrow).mpr ?_
        refine (hchange.lawful_iff hknows (hinv id row hrow)).mpr ?_
        rw [hchange.keeps_sources hp]
        exact .refl _
  · push Not at hp
    obtain ⟨job, rfl⟩ := hp
    obtain ⟨rfl, hmoved⟩ | ⟨row, hrow, hstate, haudio, rfl⟩ := report_cases hknows h
    · refine iff_of_true ?_ (lawfulStores_refl hinv)
      cases hlookup : c.shared.podcastJob.lookup job.id with
      | none => simp [keepsSources, hlookup]
      | some row => simp [keepsSources, hlookup, hmoved row hlookup]
    · have hchange : Change (.report job) job.id row (row.reported job w.now) :=
        .reported job w.now rfl rfl hstate haudio
      rw [lawfulStores_put hinv hrow, hchange.lawful_iff hknows (hinv job.id row hrow)]
      refine Iff.trans ?_ writtenOnce_or_iff.symm
      simp [keepsSources, hrow, hstate]

/-- In every run a stored job that is done names its audio.  All that the stored states of the
jobs do in a run is lawful (they follow the transitions, a terminal state stays, and the format,
the transcript and the sources are written once) exactly when no report that carries sources is
stored over other sources. -/
theorem jobs_lawful_iff {users : List UserId} {moves : List (Move Request World)}
    {c : Config Db Point} (hrun : machine.run (start users) moves = some c) :
    (∀ id row, c.shared.podcastJob.lookup id = some row → row.state = .done →
      row.audioKey.isSome = true) ∧
    (machine.Guarded (Config.Admits keepsSources) (start users) moves ↔
      ∀ step ∈ machine.observe stores (start users) moves, LawfulStores step) := by
  have hstart : (start users).Holds Inv (fun _ p s => p.Knows s) :=
    Config.initial_holds _ fun id row hrow => by cases hrow
  constructor
  · have hends := relyGuarantee.holds_run hstart (Machine.guarded_true _ moves) hrun
    exact fun id row hrow => doneHasAudio_iff.mp (hends.shared id row hrow)
  · refine Machine.guarded_iff_forall_observed (fun hc hstep =>
      relyGuarantee.holds_step hc trivial hstep)
      (fun {c m d} hc hstep => ?_) hstart hrun
    simp only [stores, hstep, Option.toList_some, List.map_cons, List.map_nil,
      List.forall_mem_singleton]
    obtain ⟨request, rfl, rfl⟩ | ⟨id, w, p, s, n, rfl, hp, hnext, rfl⟩ | ⟨id, p, rfl, hp, rfl⟩ :=
      Machine.step_cases hstep
    · exact iff_of_true trivial (lawfulStores_refl hc.shared)
    · have hmove : next id c.shared p w = some (s, n) := hnext
      rw [Config.shared_after, ← keepsSources_iff hc.shared (hc.calls id p hp) hmove]
      simp [Config.Admits, hp]
    · exact iff_of_true trivial (lawfulStores_refl hc.shared)

namespace Sample

def ali : UserId := ⟨.ending "0001"⟩

def jobUuid : Uuid := .ending "000d"

def job : PodcastJobId := ⟨jobUuid⟩

def world : World := ⟨0, jobUuid⟩

def running (status : String) : ReportInput :=
  { jobId := job, sourceId := "note", format := none, userId := ali.key, state := "running",
    stage := "", progress := some 0, errorCode := none, transcript := none,
    sources := some [⟨"a.pdf", "a.pdf", status⟩] }

end Sample

open Sample in
def reportedTwice : List (Move Request World) :=
  [.start (.create ali "note" none), .advance 0 world,
    .start (.report (running "ok")), .advance 1 world, .advance 1 world,
    .start (.report (running "skipped:empty")), .advance 2 world, .advance 2 world]

theorem jobs_lawful_iff_reportedTwice :
    ∃ c, machine.run (start [Sample.ali]) reportedTwice = some c ∧
      ¬ ∀ step ∈ machine.observe stores (start [Sample.ali]) reportedTwice, LawfulStores step := by
  have hends : (machine.run (start [Sample.ali]) reportedTwice).any (fun _ => true) = true := by
    decide
  obtain ⟨c, hrun, -⟩ := (Option.any_eq_true _ _).mp hends
  exact ⟨c, hrun, fun hlawful =>
    absurd ((jobs_lawful_iff hrun).2.mpr hlawful) (by decide)⟩

/-- The second report replaced sources that were stored already. -/
theorem sources_overwritten :
    ((machine.run (start [Sample.ali]) (reportedTwice.take 5)).any fun c =>
      (c.shared.podcastJob.lookup Sample.job).any fun row =>
        decide (row.sources = (Sample.running "ok").sources)) = true ∧
    ((machine.run (start [Sample.ali]) reportedTwice).any fun c =>
      (c.shared.podcastJob.lookup Sample.job).any fun row =>
        decide (row.sources = (Sample.running "skipped:empty").sources)) = true := by
  decide

end Hezarfen.Podcast
