import Hezarfen.AiRegistryPicks

/-!
# Loads and leases

The load of an allocation is the number of the leases on it, and at most its ceiling, on
every run.  What a pick answers follows from the registry its scan began with and the one it ends
with, and what a worker offers from what the registry was told since the worker was inserted.
-/

namespace Hezarfen.AiRegistry

open Interleaving

variable {C V : Type}

variable {w : Worker C} {capability id : String} {r r' : Registry C} {arc call : ℕ}
  {f : Worker C → Worker C} {log : List Event} {p : Point C V} {n : Next (Point C V) (Answer V)}
  {c : Server C V}

/-! ## One step of a call -/

theorem leases_withdraw (r : Registry C) (id capability : String) :
    (r.withdraw id capability).leases = r.leases := by
  unfold Registry.withdraw
  split
  · rfl
  · split <;> rfl

theorem lookup_drop (r : Registry C) (call call' : ℕ) :
    (r.drop call).leases.lookup call' = if call' = call then none else r.leases.lookup call' := by
  unfold Registry.drop
  split
  · next hnone =>
    split
    · next hcall => rw [hcall, hnone]
    · rfl
  · exact lookup_erase_eq _ _ _

theorem next_leases {w : World V} (h : next call r p w = some (r', n))
    (hp : r.leases.lookup call = p.held) (call' : ℕ) :
    r'.leases.lookup call' = if call' = call then heldBy n else r.leases.lookup call' := by
  have hsame : ∀ l : Option ℕ, p.held = l →
      r.leases.lookup call' = if call' = call then l else r.leases.lookup call' := by
    intro l hl
    split
    · next hcall => rw [hcall, hp, hl]
    · rfl
  cases next_did h with
  | withdraws id capability _ hheld =>
      rw [leases_withdraw]
      exact hsame _ hheld
  | stays hheld => exact hsame _ hheld
  | reserves => exact lookup_insert_eq _ _ _ _
  | drops => exact lookup_drop r call call'
  | _ => exact hsame _ rfl

theorem next_sound {w : World V} (h : next call r p w = some (r', n))
    (hp : r.leases.lookup call = p.held) (hscanning : p.Scanning r) (hr : Sound r) :
    Sound r' := by
  cases next_did h with
  | inserts id service capabilities maxConcurrent conn =>
      exact hr.insert id service capabilities maxConcurrent conn
  | removes id => exact hr.remove id
  | withdraws id capability => exact hr.withdraw id capability
  | stays => exact hr
  | locks | givesUp => exact hr.mutex _
  | reserves s arc id hbest =>
      obtain ⟨-, v, hv, hroom, -⟩ := Scan.Under.leads hscanning arc hbest
      exact hr.reserve hp hv hroom
  | drops => exact hr.drop call

theorem mutex_withdraw (r : Registry C) (id capability : String) :
    (r.withdraw id capability).mutex = r.mutex := by
  unfold Registry.withdraw
  split
  · rfl
  · split <;> rfl

theorem mutex_drop (r : Registry C) (call : ℕ) : (r.drop call).mutex = r.mutex := by
  unfold Registry.drop
  split <;> rfl

theorem mutex_release (r : Registry C) (call call' : ℕ) :
    (r.release call).mutex = some call' ↔ call' ≠ call ∧ r.mutex = some call' := by
  unfold Registry.release
  split
  · next hcall =>
    constructor
    · intro h
      cases h
    · rintro ⟨hne, h⟩
      exact absurd (Option.some.inj (h.symm.trans hcall)) hne
  · next hcall =>
    refine ⟨fun h => ⟨?_, h⟩, And.right⟩
    rintro rfl
    exact hcall h

/-- The mutex is with the call that scans. -/
theorem next_mutex {w : World V} (h : next call r p w = some (r', n))
    (hp : r.mutex = some call ↔ p.scans = true) (call' : ℕ) :
    r'.mutex = some call' ↔ if call' = call then Next.scans n = true else r.mutex = some call' := by
  have hsame : p.scans = Next.scans n →
      (r.mutex = some call' ↔
        if call' = call then Next.scans n = true else r.mutex = some call') := by
    intro hn
    split
    · next hcall => rw [hcall, hp, hn]
    · exact Iff.rfl
  cases next_did h with
  | inserts | removes => exact hsame rfl
  | withdraws id capability _ _ hscans hends =>
      rw [mutex_withdraw]
      exact hsame (hscans.trans hends.symm)
  | stays _ hscans => exact hsame hscans
  | locks capability deadlineMs s hmutex =>
      rw [hmutex]
      simp [Next.scans, Point.scans, eq_comm]
  | givesUp =>
      rw [mutex_release, hp.mpr rfl]
      simp [Next.scans]
  | reserves =>
      rw [hp.mpr rfl]
      simp [Registry.reserve, Next.scans, Point.scans, eq_comm]
  | drops =>
      rw [mutex_drop]
      exact hsame rfl

/-- While a call scans, another one can only lower loads. -/
theorem next_fell {w : World V} (h : next call r p w = some (r', n)) (hr : Sound r)
    (hmutex : r.mutex ≠ none) (hscans : p.scans = false) : Fell r r' := by
  cases next_did h with
  | inserts _ _ _ _ _ hfree | removes _ hfree | withdraws _ _ hfree | locks _ _ _ hfree =>
      exact absurd hfree hmutex
  | stays => exact .same rfl rfl
  | givesUp | reserves => cases hscans
  | drops => exact hr.fell_drop call

theorem told_same (hr : Told r log)
    (h : ∀ id capability, r'.Offers id capability ↔ r.Offers id capability) :
    Told r' (log ++ []) := by
  intro id capability
  rw [List.append_nil, h]
  exact hr id capability

theorem told_withdraw (hsound : Sound r) (hr : Told r log) (id capability : String) :
    Told (r.withdraw id capability) (log ++ [.withdrawn id capability]) := by
  intro id' capability'
  rw [offers_withdraw hsound, offered_snoc, hr id' capability']
  simp only [Event.spares, reduceCtorEq, false_and, exists_false, false_or, decide_eq_true_eq]

theorem offers_fetch (hf : f = Worker.fetchAdd ∨ f = Worker.fetchSub)
    (hworkers : r'.workers = r.workers) (harcs : r'.arcs = (r.alter arc f).arcs) :
    ∀ id capability, r'.Offers id capability ↔ r.Offers id capability := by
  intro id capability
  refine offers_alter hworkers harcs fun w _ => ?_
  obtain rfl | rfl := hf
  · rfl
  · rfl

theorem offers_drop (r : Registry C) (call : ℕ) :
    ∀ id capability, (r.drop call).Offers id capability ↔ r.Offers id capability := by
  unfold Registry.drop
  split
  · exact fun _ _ => Iff.rfl
  · exact offers_fetch (.inr rfl) rfl rfl

theorem offers_mutex (m : Option ℕ) :
    ∀ id capability, ({ r with mutex := m } : Registry C).Offers id capability ↔
      r.Offers id capability := by
  intro id capability
  constructor
  · intro h
    obtain ⟨arc, w, hreg, hoffers⟩ := h
    exact ⟨arc, w, ⟨hreg.entry, hreg.arc⟩, hoffers⟩
  · intro h
    obtain ⟨arc, w, hreg, hoffers⟩ := h
    exact ⟨arc, w, ⟨hreg.entry, hreg.arc⟩, hoffers⟩

theorem next_told {w : World V} (h : next call r p w = some (r', n)) (hsound : Sound r)
    (hr : Told r log) :
    Told r' (log ++ p.tells r) := by
  cases next_did h with
  | inserts id service capabilities =>
      intro id' capability
      rw [offers_insert hsound, Point.tells, offered_snoc, hr id' capability]
      simp only [Event.spares, Event.inserted.injEq, decide_eq_true_eq]
      constructor
      · intro h
        obtain ⟨rfl, hdeclared⟩ | ⟨hne, hbefore⟩ := h
        · exact .inl ⟨capabilities, ⟨rfl, rfl⟩, hdeclared⟩
        · exact .inr ⟨hbefore, hne⟩
      · intro h
        obtain ⟨_, ⟨rfl, rfl⟩, hdeclared⟩ | ⟨hbefore, hne⟩ := h
        · exact .inl ⟨rfl, hdeclared⟩
        · exact .inr ⟨hne, hbefore⟩
  | removes =>
      intro id' capability
      rw [offers_remove, Point.tells, offered_snoc, hr id' capability]
      simp only [Event.spares, reduceCtorEq, false_and, exists_false, false_or,
        decide_eq_true_eq]
      exact and_comm
  | withdraws id capability _ _ _ _ htells =>
      rw [htells]
      exact told_withdraw hsound hr id capability
  | stays _ _ htells =>
      rw [htells]
      exact told_same hr fun _ _ => Iff.rfl
  | locks | givesUp => exact told_same hr (offers_mutex _)
  | reserves => exact told_same hr (offers_fetch (.inl rfl) rfl rfl)
  | drops => exact told_same hr (offers_drop r call)

structure Inv (c : Server C V) (log : List Event) : Prop where
  sound : Sound c.shared
  leased : ∀ call, c.shared.leases.lookup call = (c.calls.lookup call).bind Point.held
  numbered : ∀ call p, c.calls.lookup call = some p → call < c.started
  told : Told c.shared log
  mutex : ∀ call, c.shared.mutex = some call ↔ (c.calls.lookup call).any Point.scans = true
  scanning : ∀ call p, c.calls.lookup call = some p → p.Scanning c.shared

theorem held_entry (request : Request C) : (entry request : Point C V).held = none := by
  cases request <;> rfl

theorem scans_entry (request : Request C) : (entry request : Point C V).scans = false := by
  cases request <;> rfl

theorem scanning_of_not_scans (h : p.scans = false) : p.Scanning r := by
  cases p <;> trivial

theorem Inv.initial : Inv (Config.initial Registry.empty : Server C V) [] where
  sound := .empty
  leased call := rfl
  numbered call p h := by cases h
  told id capability := by
    constructor
    · intro h
      obtain ⟨arc, w, hreg, -⟩ := h
      cases hreg.entry
    · intro h
      obtain ⟨before, capabilities, after, hlog, -⟩ := h
      simp at hlog
  mutex call := by
    constructor
    · intro h
      cases h
    · intro h
      cases h
  scanning call p h := by cases h

/-- The points that the calls in flight have after a step of `call`, and the mutex. -/
theorem Inv.scanning_after {w : World V} (hc : Inv c log) (hp : c.calls.lookup call = some p)
    (h : next call c.shared p w = some (r, n)) (call' : ℕ) (q : Point C V)
    (hq : (c.after call r n).calls.lookup call' = some q) : q.Scanning r := by
  obtain ⟨hne, hq⟩ | ⟨-, rfl⟩ := Config.lookup_after hq
  · cases hscans : q.scans with
    | false => exact scanning_of_not_scans hscans
    | true =>
        have hheld : c.shared.mutex = some call' := (hc.mutex call').mpr (by simp [hq, hscans])
        -- the mutex is with the other call, so this one does not scan
        have hother : p.scans = false := by
          by_contra hself
          rw [Bool.not_eq_false] at hself
          have hmine := (hc.mutex call).mpr (by simp [hp, hself])
          exact hne (Option.some.inj (hheld.symm.trans hmine))
        have hsome : c.shared.mutex ≠ none := by simp [hheld]
        exact (hc.scanning call' q hq).fell (next_fell h hc.sound hsome hother)
  · exact next_scanning hc.sound (hc.scanning call p hp) h

theorem Inv.step {c' : Server C V} {m : Step C V} (hc : Inv c log)
    (hstep : machine.step c m = some c') : Inv c' (log ++ AiRegistry.told c m) := by
  obtain ⟨request, rfl, rfl⟩ | ⟨call, w, p, r, n, rfl, hp, hnext, rfl⟩ | ⟨call, p, rfl, hp, rfl⟩ :=
    Machine.step_cases hstep
  · -- the number of the new call is fresh
    have hnone : c.calls.lookup c.started = none := by
      by_contra hsome
      obtain ⟨p, hp⟩ := Option.ne_none_iff_exists'.mp hsome
      exact absurd (hc.numbered _ p hp) (Nat.lt_irrefl _)
    refine ⟨hc.sound, fun call => ?_, fun call p h => ?_, ?_, fun call => ?_, fun call p h => ?_⟩
    · rw [lookup_insert_eq]
      split
      · next hcall =>
        rw [hc.leased, hcall, hnone]
        exact (held_entry request).symm
      · exact hc.leased call
    · rw [lookup_insert_eq] at h
      split at h
      · next hcall => exact hcall ▸ Nat.lt_succ_self _
      · exact Nat.lt_succ_of_lt (hc.numbered call p h)
    · exact told_same hc.told fun _ _ => Iff.rfl
    · rw [lookup_insert_eq]
      split
      · next hcall =>
        rw [hc.mutex, hcall, hnone]
        simp [machine, scans_entry]
      · exact hc.mutex call
    · obtain ⟨-, rfl⟩ | ⟨-, h⟩ := insert_cases h
      · exact scanning_of_not_scans (scans_entry request)
      · exact hc.scanning call p h
  · have hmove : next call c.shared p w = some (r, n) := hnext
    have hheld : c.shared.leases.lookup call = p.held := by rw [hc.leased, hp, Option.bind_some]
    have hscans : c.shared.mutex = some call ↔ p.scans = true := by
      rw [hc.mutex, hp, Option.any_some]
    refine ⟨?_, fun call' => ?_, fun call' q h => ?_, ?_, fun call' => ?_, fun call' q h => ?_⟩
    · rw [Config.shared_after]
      exact next_sound hmove hheld (hc.scanning call p hp) hc.sound
    · rw [Config.shared_after, next_leases hmove hheld call']
      cases n with
      | goto =>
          rw [Config.after, lookup_insert_eq]
          split
          · rfl
          · exact hc.leased call'
      | answer =>
          rw [Config.after, lookup_erase_eq]
          split
          · rfl
          · exact hc.leased call'
    · have hold : (c.after call r n).started = c.started := by cases n <;> rfl
      rw [hold]
      obtain ⟨-, hq⟩ | ⟨rfl, -⟩ := Config.lookup_after h
      · exact hc.numbered call' q hq
      · exact hc.numbered _ p hp
    · rw [Config.shared_after]
      have htells : AiRegistry.told c (.advance call w) =
          p.tells c.shared := by simp [AiRegistry.told, hp]
      rw [htells]
      exact next_told hmove hc.sound hc.told
    · rw [Config.shared_after, next_mutex hmove hscans call']
      cases n with
      | goto =>
          rw [Config.after, lookup_insert_eq]
          split
          · rfl
          · exact hc.mutex call'
      | answer =>
          rw [Config.after, lookup_erase_eq]
          split
          · simp [Next.scans]
          · exact hc.mutex call'
    · rw [Config.shared_after]
      exact hc.scanning_after hp hmove call' q h
  · refine ⟨(hc.sound.drop call).mutex _, fun call' => ?_, fun call' q h => ?_, ?_, fun call' => ?_,
      fun call' q h => ?_⟩
    · refine (lookup_drop c.shared call call').trans ?_
      rw [lookup_erase_eq]
      split
      · rfl
      · exact hc.leased call'
    · obtain ⟨-, h⟩ := erase_cases h
      exact hc.numbered call' q h
    · refine told_same hc.told fun id capability => ?_
      exact (offers_mutex _ id capability).trans (offers_drop c.shared call id capability)
    · refine (mutex_release _ call call').trans ?_
      rw [mutex_drop, hc.mutex, lookup_erase_eq]
      split
      · next hcall => simp [hcall]
      · next hcall => simp [hcall]
    · obtain ⟨-, h⟩ := erase_cases h
      exact (hc.scanning call' q h).fell ((hc.sound.fell_drop call).trans (.same rfl rfl))

theorem inv_run {ms : List (Step C V)}
    (hrun : machine.run (Config.initial Registry.empty) ms = some c) :
    Inv c (machine.observe told (Config.initial Registry.empty) ms) := by
  have h := Machine.observe_induction (f := told) (J := Inv)
    (fun hJ _ hstep => hJ.step hstep) Inv.initial (Machine.guarded_true _ _) hrun
  exact h

/-! ## The registry on every run -/

structure Counted (c : Server C V) : Prop where
  live : ∀ call arc, c.shared.leases.lookup call = some arc ↔
    ∃ p, c.calls.lookup call = some p ∧ p.held = some arc
  registered : ∀ id arc, c.shared.workers.lookup id = some arc →
    ∃ w, c.shared.arcs.lookup arc = some w ∧ w.id = id
  load : ∀ arc w, c.shared.arcs.lookup arc = some w →
    w.inflight.toNat = c.shared.leasesOn arc ∧ w.inflight.toNat ≤ w.maxConcurrent.toNat
  positive : ∀ call arc, c.shared.leases.lookup call = some arc →
    ∃ w, c.shared.arcs.lookup arc = some w ∧ 0 < w.inflight.toNat

/-- What a pick answers, by the registry of now and the one that its scan began with. -/
structure Picks (c : Server C V) : Prop where
  noWorker : ∀ call capability deadlineMs (w : World V) r n,
    c.calls.lookup call = some (.pick capability deadlineMs) →
    next call c.shared (.pick capability deadlineMs) w = some (r, n) →
    (n = .answer (.dispatched (.error (.noWorker capability))) ↔
      c.shared.hasCapability capability = false)
  fell : ∀ call s, c.calls.lookup call = some (.hasRoom s) → Fell s.began c.shared
  chosen : ∀ call s arc, c.calls.lookup call = some (.hasRoom s) → s.rest = [] →
    s.best = some arc →
    ∃ id w, c.shared.Registered id arc w ∧ w.offers s.capability = true ∧
      w.inflight.toNat < w.maxConcurrent.toNat ∧
      ∀ id' arc' w', s.began.Registered id' arc' w' → w'.offers s.capability = true →
        w'.inflight.toNat < w'.maxConcurrent.toNat →
        w.inflight.toNat < w'.inflight.toNat ∨ (w.inflight = w'.inflight ∧ id' ≤ id)
  busy : ∀ call s, c.calls.lookup call = some (.hasRoom s) → s.rest = [] → s.best = none →
    (∃ id arc w, c.shared.Registered id arc w ∧ w.offers s.capability = true) ∧
      ∀ id arc w, s.began.Registered id arc w → w.offers s.capability = true →
        w.inflight.toNat = w.maxConcurrent.toNat
  /-- Where no lease was dropped meanwhile, the scan began with the registry of now. -/
  undisturbed : ∀ call s, c.calls.lookup call = some (.hasRoom s) →
    c.shared.leases = s.began.leases →
    ∀ id arc w, s.began.Registered id arc w ↔ c.shared.Registered id arc w

structure Shows (c : Server C V) (log : List Event) : Prop where
  offers : ∀ id capability,
    (∃ arc w, c.shared.Registered id arc w ∧ w.offers capability = true) ↔
      Offered log id capability
  hasCapability : ∀ capability,
    c.shared.hasCapability capability = true ↔ ∃ id, Offered log id capability
  snapshot : ∀ id capability,
    (∃ s ∈ c.shared.snapshot, s.id = id ∧ capability ∈ s.capabilities) ↔
      Offered log id capability
  pick : ∀ call s arc, c.calls.lookup call = some (.hasRoom s) → s.rest = [] →
    s.best = some arc →
    ∃ w, c.shared.arcs.lookup arc = some w ∧ Offered log w.id s.capability

structure Kept (c c' : Server C V) (m : Step C V) : Prop where
  removal : ∀ call w id, m = .advance call w → c.calls.lookup call = some (.remove id) →
    c'.shared.arcs = c.shared.arcs ∧ c'.shared.leases = c.shared.leases ∧
      ∀ other, other ≠ id → c'.shared.workers.lookup other = c.shared.workers.lookup other
  drop : ∀ call arc, c.shared.leases.lookup call = some arc →
    c'.shared.leases.lookup call = none →
    c'.shared.workers = c.shared.workers ∧
      ∀ other, other ≠ arc → c'.shared.arcs.lookup other = c.shared.arcs.lookup other

theorem Inv.counted (hc : Inv c log) : Counted c where
  live call arc := by rw [hc.leased, Option.bind_eq_some_iff]
  registered id arc h := by
    obtain ⟨w, hreg, hid⟩ := hc.sound.placed id arc h
    exact ⟨w, hreg.arc, hid⟩
  load arc w h :=
    ⟨hc.sound.counted arc w h, UInt64.le_iff_toNat_le.mp (hc.sound.bounded arc w h)⟩
  positive call arc h := by
    obtain ⟨w, hw⟩ := hc.sound.held call arc h
    exact ⟨w, hw, hc.sound.counted arc w hw ▸ leasesOn_pos h⟩

theorem hasCapability_eq_false_iff :
    r.hasCapability capability = false ↔
      ∀ id arc w, r.Registered id arc w → w.offers capability = false := by
  rw [← Bool.not_eq_true, hasCapability_iff]
  push Not
  simp

theorem Inv.under (hc : Inv c log) {s : Scan C} (h : c.calls.lookup call = some (.hasRoom s)) :
    s.Under s.rest c.shared := hc.scanning call _ h

/-- Equal leases are equal loads. -/
theorem Inv.undisturbed (hc : Inv c log) {s : Scan C}
    (h : c.calls.lookup call = some (.hasRoom s)) (hleases : c.shared.leases = s.began.leases)
    (id : String) (arc : ℕ) (w : Worker C) :
    s.began.Registered id arc w ↔ c.shared.Registered id arc w := by
  have hunder := hc.under h
  have hsame : ∀ {a v}, s.began.arcs.lookup a = some v → c.shared.arcs.lookup a = some v := by
    intro a v hv
    obtain ⟨inflight, -, hnow⟩ := hunder.fell.arcs a v hv
    have hload : inflight.toNat = v.inflight.toNat := by
      have hcount := hc.sound.counted a _ hnow
      rw [Registry.leasesOn, hleases] at hcount
      exact hcount.trans (hunder.sound.counted a v hv).symm
    rw [hnow, UInt64.toNat_inj.mp hload]
    rfl
  constructor
  · intro hreg
    exact ⟨hunder.fell.workers ▸ hreg.entry, hsame hreg.arc⟩
  · intro hreg
    have hentry : s.began.workers.lookup id = some arc := hunder.fell.workers ▸ hreg.entry
    obtain ⟨v, hv, -⟩ := hunder.sound.placed id arc hentry
    cases (hsame hv.arc).symm.trans hreg.arc
    exact hv

theorem Inv.picks (hc : Inv c log) : Picks c where
  noWorker call capability deadlineMs w r n hp h := by
    have hempty : c.shared.offering capability = [] ↔
        c.shared.hasCapability capability = false := by
      rw [hasCapability_eq_false_iff, List.eq_nil_iff_forall_not_mem]
      simp only [mem_offering, not_exists, not_and, Bool.not_eq_true]
      exact ⟨fun h id arc w => h arc id w, fun h arc id w => h id arc w⟩
    rw [← hempty]
    obtain ⟨-, ⟨hnil, -, rfl⟩ | ⟨hsome, -, -, rfl⟩⟩ := pick_cases h
    · simp [hnil]
    · simp [hsome]
  fell call s h := (hc.under h).fell
  chosen call s arc h hrest hbest := by
    have hunder := hc.under h
    obtain ⟨hoffering, v, hv, hroom, hleads⟩ := hunder.leads arc hbest
    obtain ⟨id, w, hreg, hoffers⟩ := mem_offering.mp hoffering
    obtain ⟨inflight, -, hnow⟩ := hunder.fell.arcs arc w hreg.arc
    cases hnow.symm.trans hv
    refine ⟨id, _, ⟨hunder.fell.workers ▸ hreg.entry, hnow⟩, hoffers, hasRoom_iff.mp hroom, ?_⟩
    intro id' arc' w' hreg' hoffers' hroom'
    have hle := load_le_iff.mp
      (hleads id' arc' w' hreg' hoffers' (by simp [hrest]) (hasRoom_iff.mpr hroom'))
    obtain ⟨u, hu, hid⟩ := hunder.sound.placed id arc hreg.entry
    obtain ⟨u', hu', hid'⟩ := hunder.sound.placed id' arc' hreg'.entry
    cases hu.arc.symm.trans hreg.arc
    cases hu'.arc.symm.trans hreg'.arc
    rw [← hid, ← hid']
    exact hle
  busy call s h hrest hbest := by
    have hunder := hc.under h
    refine ⟨?_, fun id arc w hreg hoffers => ?_⟩
    · obtain ⟨arc, harc⟩ := List.exists_mem_of_ne_nil _ hunder.offered
      obtain ⟨id, w, hreg, hoffers⟩ := mem_offering.mp harc
      obtain ⟨inflight, -, hnow⟩ := hunder.fell.arcs arc w hreg.arc
      exact ⟨id, arc, _, ⟨hunder.fell.workers ▸ hreg.entry, hnow⟩, hoffers⟩
    · have hbound := UInt64.le_iff_toNat_le.mp (hunder.sound.bounded arc w hreg.arc)
      have hfull := hunder.full hbest id arc w hreg hoffers (by simp [hrest])
      rw [← Bool.not_eq_true, hasRoom_iff] at hfull
      omega
  undisturbed call s h hleases := hc.undisturbed h hleases

theorem Inv.shows (hc : Inv c log) :
    Shows c log where
  offers := hc.told
  hasCapability capability := by
    rw [hasCapability_iff]
    exact exists_congr fun id => hc.told id capability
  snapshot id capability := by
    rw [← hc.told id capability]
    unfold Registry.snapshot
    constructor
    · intro h
      obtain ⟨s, hs, rfl, hcap⟩ := h
      rw [List.mem_mergeSort, List.mem_map] at hs
      obtain ⟨⟨arc, w⟩, hvalue, rfl⟩ := hs
      obtain ⟨id, hreg⟩ := mem_values.mp hvalue
      obtain ⟨v, hv, hid⟩ := hc.sound.placed id arc hreg.entry
      cases hv.arc.symm.trans hreg.arc
      exact ⟨arc, w, hid ▸ hreg, (List.mem_filter.mp hcap).2⟩
    · intro h
      obtain ⟨arc, w, hreg, hoffers⟩ := h
      obtain ⟨v, hv, hid⟩ := hc.sound.placed id arc hreg.entry
      cases hv.arc.symm.trans hreg.arc
      refine ⟨_, List.mem_mergeSort.mpr
        (List.mem_map.mpr ⟨(arc, w), mem_values.mpr ⟨id, hreg⟩, rfl⟩), hid, ?_⟩
      exact List.mem_filter.mpr ⟨(offers_iff.mp hoffers).1, hoffers⟩
  pick call s arc h hrest hbest := by
    obtain ⟨id, w, hreg, hoffers, -⟩ := hc.picks.chosen call s arc h hrest hbest
    obtain ⟨v, hv, hid⟩ := hc.sound.placed id arc hreg.entry
    cases hv.arc.symm.trans hreg.arc
    exact ⟨w, hreg.arc, (hc.told w.id s.capability).mp ⟨arc, w, hid ▸ hreg, hoffers⟩⟩

theorem drop_frame (hlease : r.leases.lookup call = some arc) :
    (r.drop call).workers = r.workers ∧
      ∀ other, other ≠ arc → (r.drop call).arcs.lookup other = r.arcs.lookup other := by
  simp only [Registry.drop, hlease]
  exact ⟨rfl, fun other hne => lookup_alter_ne _ hne⟩

theorem next_drops {w : World V} (h : next call r p w = some (r', n)) (hp : p.held = some arc)
    (hn : heldBy n = none) : r' = r.drop call := by
  cases next_did h with
  | withdraws _ _ _ hheld | stays hheld => cases hp.symm.trans (hheld.trans hn)
  | drops => rfl
  | _ => cases hp

theorem Inv.kept {c' : Server C V} {m : Step C V} (hc : Inv c log)
    (hstep : machine.step c m = some c') : Kept c c' m where
  removal call w id hm hp := by
    subst hm
    obtain ⟨request, hm, -⟩ | ⟨call', choice, p, r, n, hm, hp', hnext, rfl⟩ | ⟨call', p, hm, -⟩ :=
      Machine.step_cases hstep
    · cases hm
    · cases hm
      cases hp.symm.trans hp'
      simp only [machine, next] at hnext
      obtain ⟨-, rfl, rfl⟩ := locked_cases hnext
      exact ⟨rfl, rfl, fun other hne => AList.lookup_erase_ne hne⟩
    · cases hm
  drop call arc hlease hnone := by
    obtain ⟨request, rfl, rfl⟩ | ⟨call', w, p, r, n, rfl, hp, hnext, rfl⟩ |
      ⟨call', p, rfl, hp, rfl⟩ := Machine.step_cases hstep
    · cases hlease.symm.trans hnone
    · have hmove : next call' c.shared p w = some (r, n) := hnext
      have hheld : c.shared.leases.lookup call' = p.held := by
        rw [hc.leased, hp, Option.bind_some]
      rw [Config.shared_after] at hnone ⊢
      rw [next_leases hmove hheld call] at hnone
      split at hnone
      · next hcall =>
        subst hcall
        rw [next_drops hmove (hheld.symm.trans hlease) hnone]
        exact drop_frame hlease
      · cases hlease.symm.trans hnone
    · have hdropped := (lookup_drop c.shared call' call).symm.trans hnone
      split at hdropped
      · next hcall =>
        subst hcall
        exact drop_frame hlease
      · cases hlease.symm.trans hdropped

namespace Sample

def refused (order : List ℕ) : World Unit :=
  ⟨"r1", .response (.err "r1" "unknown_capability" "no such model"), order⟩

def hello (id : String) : Request Unit := .insert id "ocr" ["ocr.extract", "ocr.classify"] 1 ()

def steps (call : ℕ) (order : List ℕ) (n : ℕ) : List (Step Unit Unit) :=
  List.replicate n (.advance call (refused order))

end Sample

open Sample in
def removedWhileLeased : List (Step Unit Unit) :=
  [.start (hello "w1")] ++ steps 0 [] 1 ++ [.start (hello "w2")] ++ steps 1 [] 1 ++
    [.start (.dispatch "ocr.extract" 100)] ++ steps 2 [0, 1] 6 ++
    [.start (.remove "w2")] ++ steps 3 [] 1 ++
    [.start (.dispatch "ocr.extract" 100)] ++ steps 4 [0] 6 ++
    [.start (.dispatch "ocr.extract" 100)]

/-- Some worker with room offers the capability and is as `f` says. -/
def Registry.vacant (r : Registry C) (capability : String) (f : Worker C → Bool) : Bool :=
  r.values.any fun entry => entry.2.offers capability && entry.2.hasRoom && f entry.2

/-- Such a worker has fewer requests in flight. -/
def Registry.outdone (r : Registry C) (capability : String) (arc : ℕ) : Bool :=
  r.vacant capability fun other =>
    (r.arcs.lookup arc).any fun w => decide (other.inflight < w.inflight)

/-- The scan is through and came upon no room. -/
def Point.turnsAway : Point C V → Bool
  | .hasRoom s => s.rest.isEmpty && s.best.isNone && decide (s.capability = "ocr.extract")
  | _ => false

theorem next_turnsAway (h : p.turnsAway = true) (w : World V) :
    next call r p w =
      some (r.release call, .answer (.dispatched (.error (.busy "ocr.extract")))) := by
  unfold Point.turnsAway at h
  split at h
  · next s =>
    simp only [Bool.and_eq_true, List.isEmpty_iff, Option.isNone_iff_eq_none,
      decide_eq_true_eq] at h
    simp [next, h]
  · cases h

namespace Sample

def roomy (call : ℕ) (id : String) : List (Step Unit Unit) :=
  .start (.insert id "ocr" ["ocr.extract", id] 4 ()) :: steps call [] 1

def lease (call arc : ℕ) (id : String) : List (Step Unit Unit) :=
  .start (.dispatch id 100) :: steps call [arc] 3

/-- Three workers with one, two and two requests in flight, and a dispatch to any of them. -/
def leased : List (Step Unit Unit) :=
  roomy 0 "w1" ++ roomy 1 "w2" ++ roomy 2 "w3" ++ lease 3 0 "w1" ++ lease 4 1 "w2" ++
    lease 5 1 "w2" ++ lease 6 2 "w3" ++ lease 7 2 "w3" ++ [.start (.dispatch "ocr.extract" 100)]

/-- The third worker is compared with the second one before this loses its requests, and with
the first one after it has lost a request itself. -/
def scanning : List (Step Unit Unit) :=
  steps 8 [1, 2, 0] 5 ++ [.abandon 4, .abandon 5] ++ steps 8 [] 1 ++ [.abandon 6] ++ steps 8 [] 3

/-- The only worker loses its only request after the second dispatch has seen it full. -/
def emptied : List (Step Unit Unit) :=
  .start (hello "w1") :: steps 0 [] 1 ++ lease 1 0 "ocr.extract" ++
    .start (.dispatch "ocr.extract" 100) :: steps 2 [0] 2 ++ [.abandon 1]

end Sample

end Hezarfen.AiRegistry
