import Hezarfen.AiRegistrySteps

/-!
# A pick under way

The mutex keeps every other call off the registry while a `pick` loads the counters, and the drops
of leases only lower them.  So the worker that is ahead has room, and its load is at most what
every worker behind it had when the mutex was taken.
-/

namespace Hezarfen.AiRegistry

open Interleaving

variable {C V : Type}

variable {w v : Worker C} {capability id : String} {r r' : Registry C} {arc call : ℕ}
  {p : Point C V} {n : Next (Point C V) (Answer V)} {s : Scan C} {pending : List ℕ}

/-! ## Falling loads -/

/-- Nothing but loads changed, and these only fell. -/
structure Fell (r r' : Registry C) : Prop where
  workers : r'.workers = r.workers
  arcs : ∀ arc w, r.arcs.lookup arc = some w →
    ∃ inflight ≤ w.inflight, r'.arcs.lookup arc = some (w.withLoad inflight)

theorem Fell.same (hworkers : r'.workers = r.workers) (harcs : r'.arcs = r.arcs) : Fell r r' where
  workers := hworkers
  arcs arc w h := ⟨w.inflight, UInt64.le_refl _, by rw [harcs, h]; rfl⟩

theorem Fell.trans {r'' : Registry C} (h : Fell r r') (h' : Fell r' r'') : Fell r r'' where
  workers := h'.workers.trans h.workers
  arcs arc w hw := by
    obtain ⟨inflight, hle, hmid⟩ := h.arcs arc w hw
    obtain ⟨inflight', hle', hend⟩ := h'.arcs arc _ hmid
    exact ⟨inflight', UInt64.le_trans hle' hle, hend⟩

theorem Sound.fell_drop (hr : Sound r) (call : ℕ) : Fell r (r.drop call) := by
  unfold Registry.drop
  split
  · exact .same rfl rfl
  · next leased hlease =>
    refine ⟨rfl, fun arc w hw => ?_⟩
    by_cases harc : arc = leased
    · subst arc
      refine ⟨w.fetchSub.inflight, ?_, lookup_altered _ hw⟩
      have hpos : 0 < w.inflight.toNat := hr.counted leased w hw ▸ leasesOn_pos hlease
      rw [UInt64.le_iff_toNat_le, toNat_fetchSub hpos]
      exact Nat.sub_le _ _
    · exact ⟨w.inflight, UInt64.le_refl _, (lookup_alter_ne _ harc).trans hw⟩

theorem withLoad_hasRoom {inflight : UInt64} (hle : inflight ≤ w.inflight)
    (hroom : w.hasRoom = true) : (w.withLoad inflight).hasRoom = true := by
  rw [hasRoom_iff] at hroom ⊢
  exact lt_of_le_of_lt (UInt64.le_iff_toNat_le.mp hle) hroom

theorem load_le_iff {w' : Worker C} :
    w.load ≤ w'.load ↔
      w.inflight.toNat < w'.inflight.toNat ∨ (w.inflight = w'.inflight ∧ w'.id ≤ w.id) := by
  rw [Worker.load, Worker.load, Prod.Lex.toLex_le_toLex, OrderDual.toDual_le_toDual,
    UInt64.toNat_inj]

theorem withLoad_le {inflight : UInt64} (hle : inflight ≤ w.inflight) :
    (w.withLoad inflight).load ≤ w.load := by
  rw [load_le_iff]
  obtain hlt | heq := lt_or_eq_of_le (UInt64.le_iff_toNat_le.mp hle)
  · exact .inl hlt
  · exact .inr ⟨UInt64.toNat_inj.mp heq, le_refl _⟩

/-! ## What a scan carries -/

/-- `v` is no worse than the workers with room that the scan has behind it, as these were when
the mutex was taken. -/
def Scan.Leads (s : Scan C) (pending : List ℕ) (v : Worker C) : Prop :=
  ∀ id arc w, s.began.Registered id arc w → w.offers s.capability = true → arc ∉ pending →
    w.hasRoom = true → v.load ≤ w.load

structure Scan.Under (s : Scan C) (pending : List ℕ) (r : Registry C) : Prop where
  sound : Sound s.began
  fell : Fell s.began r
  offered : s.began.offering s.capability ≠ []
  listed : ∀ arc ∈ pending, arc ∈ s.began.offering s.capability
  full : s.best = none → ∀ id arc w, s.began.Registered id arc w →
    w.offers s.capability = true → arc ∉ pending → w.hasRoom = false
  leads : ∀ best, s.best = some best → best ∈ s.began.offering s.capability ∧
    ∃ v, r.arcs.lookup best = some v ∧ v.hasRoom = true ∧ s.Leads pending v

def Roomy (r : Registry C) (arc : ℕ) : Prop :=
  ∃ w, r.arcs.lookup arc = some w ∧ w.hasRoom = true

def Point.Scanning (r : Registry C) : Point C V → Prop
  | .hasRoom s => s.Under s.rest r
  | .loadBest s best arc => s.best = some best ∧ s.Under (arc :: s.rest) r ∧ Roomy r arc
  | .loadNext s best load arc =>
      s.best = some best ∧ s.Under (arc :: s.rest) r ∧ Roomy r arc ∧
        ∃ v, r.arcs.lookup best = some v ∧ v.inflight ≤ load ∧
          s.Leads (arc :: s.rest) (v.withLoad load)
  | _ => True

theorem Scan.Leads.fell {inflight : UInt64} (h : s.Leads pending v) (hle : inflight ≤ v.inflight) :
    s.Leads pending (v.withLoad inflight) :=
  fun id arc w hreg hoffers hvisited hroom =>
    le_trans (withLoad_le hle) (h id arc w hreg hoffers hvisited hroom)

theorem Scan.Under.fell_to (h : s.Under pending r) (hfell : Fell r r') : s.Under pending r' where
  sound := h.sound
  fell := h.fell.trans hfell
  offered := h.offered
  listed := h.listed
  full := h.full
  leads best hbest := by
    obtain ⟨hoffering, v, hv, hroom, hleads⟩ := h.leads best hbest
    obtain ⟨inflight, hle, hv'⟩ := hfell.arcs best v hv
    exact ⟨hoffering, _, hv', withLoad_hasRoom hle hroom, hleads.fell hle⟩

theorem Roomy.fell_to (h : Roomy r arc) (hfell : Fell r r') : Roomy r' arc := by
  obtain ⟨w, hw, hroom⟩ := h
  obtain ⟨inflight, hle, hw'⟩ := hfell.arcs arc w hw
  exact ⟨_, hw', withLoad_hasRoom hle hroom⟩

/-- What a scan carries is stable under the drops of leases. -/
theorem Point.Scanning.fell (h : p.Scanning r) (hfell : Fell r r') : p.Scanning r' := by
  cases p with
  | hasRoom => exact Scan.Under.fell_to h hfell
  | loadBest =>
      obtain ⟨hbest, hunder, hroom⟩ := h
      exact ⟨hbest, hunder.fell_to hfell, hroom.fell_to hfell⟩
  | loadNext s best =>
      obtain ⟨hbest, hunder, hroom, v, hv, hle, hleads⟩ := h
      obtain ⟨inflight, hle', hv'⟩ := hfell.arcs best v hv
      exact ⟨hbest, hunder.fell_to hfell, hroom.fell_to hfell, _, hv', UInt64.le_trans hle' hle,
        hleads⟩
  | _ => trivial

/-- The worker at the head of what is left, before its first load. -/
theorem Scan.Under.head (h : s.Under (arc :: pending) r) :
    ∃ id w, s.began.Registered id arc w ∧ w.offers s.capability = true ∧
      ∃ inflight ≤ w.inflight, r.arcs.lookup arc = some (w.withLoad inflight) := by
  obtain ⟨id, w, hreg, hoffers⟩ := mem_offering.mp (h.listed arc List.mem_cons_self)
  exact ⟨id, w, hreg, hoffers, h.fell.arcs arc w hreg.arc⟩

/-- A lead passes to a shorter rest where the lead is no worse than the worker taken off it. -/
theorem Scan.Leads.tail (h : s.Leads (arc :: pending) v)
    (hhead : ∀ w, s.began.arcs.lookup arc = some w → w.hasRoom = true → v.load ≤ w.load) :
    s.Leads pending v := by
  intro id a w hreg hoffers hvisited hroom
  by_cases ha : a = arc
  · subst ha
    exact hhead w hreg.arc hroom
  · refine h id a w hreg hoffers ?_ hroom
    simp [ha, hvisited]

/-- The scan moves on with the worker taken off the rest in front. -/
theorem Scan.Under.take (h : s.Under (arc :: pending) r) (hw : r.arcs.lookup arc = some w)
    (hroom : w.hasRoom = true) (hleads : s.Leads pending w) {rest : List ℕ} :
    ({ s with rest := rest, best := some arc } : Scan C).Under pending r where
  sound := h.sound
  fell := h.fell
  offered := h.offered
  listed a ha := h.listed a (List.mem_cons_of_mem _ ha)
  full hbest := by cases hbest
  leads best hbest := by
    cases hbest
    exact ⟨h.listed arc List.mem_cons_self, w, hw, hroom, hleads⟩

/-- The scan moves on with the worker that was in front. -/
theorem Scan.Under.leave (h : s.Under (arc :: pending) r)
    (hhead : ∀ w, s.began.arcs.lookup arc = some w → w.hasRoom = true →
      ∃ best v, s.best = some best ∧ r.arcs.lookup best = some v ∧ v.load ≤ w.load)
    {rest : List ℕ} : ({ s with rest := rest } : Scan C).Under pending r where
  sound := h.sound
  fell := h.fell
  offered := h.offered
  listed a ha := h.listed a (List.mem_cons_of_mem _ ha)
  full hbest id a w hreg hoffers hvisited := by
    by_contra hroom
    rw [Bool.not_eq_false] at hroom
    by_cases ha : a = arc
    · subst ha
      obtain ⟨best, v, hsome, -⟩ := hhead w hreg.arc hroom
      cases hbest.symm.trans hsome
    · have hfull := h.full hbest id a w hreg hoffers (by simp [ha, hvisited])
      cases hroom.symm.trans hfull
  leads best hbest := by
    obtain ⟨hoffering, v, hv, hroom, hleads⟩ := h.leads best hbest
    refine ⟨hoffering, v, hv, hroom, hleads.tail fun w hw hwroom => ?_⟩
    obtain ⟨best', v', hbest', hv', hle⟩ := hhead w hw hwroom
    cases hbest.symm.trans hbest'
    cases hv.symm.trans hv'
    exact hle

/-! ## The steps of a call -/

def heldBy (n : Next (Point C V) (Answer V)) : Option ℕ :=
  match n with
  | .goto q => q.held
  | .answer _ => none

def Next.scans (n : Next (Point C V) (Answer V)) : Bool :=
  match n with
  | .goto q => q.scans
  | .answer _ => false

theorem locked_cases {f : Registry C → Registry C} {n' : Next (Point C V) (Answer V)}
    (h : locked r n f = some (r', n')) : r.mutex = none ∧ r' = f r ∧ n' = n := by
  unfold locked at h
  split at h
  · cases h
  · next hmutex =>
    cases h
    exact ⟨by simpa using hmutex, rfl, rfl⟩

/-- A `pick` that does not wait finds no worker or begins its scan. -/
theorem pick_cases {w : World V} {deadlineMs : ℕ}
    (h : next call r (.pick capability deadlineMs) w = some (r', n)) :
    r.mutex = none ∧
      ((r.offering capability = [] ∧ r' = r ∧
          n = .answer (.dispatched (.error (.noWorker capability)))) ∨
        (r.offering capability ≠ [] ∧ w.order.isPerm (r.offering capability) = true ∧
          r' = { r with mutex := some call } ∧
          n = .goto (.hasRoom ⟨capability, deadlineMs, r, w.order, none⟩))) := by
  simp only [next] at h
  split at h
  · next hempty =>
    obtain ⟨hmutex, rfl, rfl⟩ := locked_cases h
    exact ⟨hmutex, .inl ⟨List.isEmpty_iff.mp hempty, rfl, rfl⟩⟩
  · next hsome =>
    split at h
    · next hperm =>
      obtain ⟨hmutex, rfl, rfl⟩ := locked_cases h
      exact ⟨hmutex, .inr ⟨fun hnil => hsome (List.isEmpty_iff.mpr hnil), hperm, rfl, rfl⟩⟩
    · cases h

/-- What a step of a call does to the registry, with what the invariants read of the points. -/
inductive Did (call : ℕ) (r : Registry C) :
    Point C V → Registry C → Next (Point C V) (Answer V) → Prop where
  | inserts (id service : String) (capabilities : List String) (maxConcurrent : UInt64) (conn : C)
      (hmutex : r.mutex = none) :
      Did call r (.insert id service capabilities maxConcurrent conn)
        (r.insert id service capabilities maxConcurrent conn) (.answer .done)
  | removes (id : String) (hmutex : r.mutex = none) :
      Did call r (.remove id) (r.remove id) (.answer .done)
  | withdraws {p : Point C V} {n : Next (Point C V) (Answer V)} (id capability : String)
      (hmutex : r.mutex = none) (hheld : p.held = heldBy n) (hscans : p.scans = false)
      (hends : Next.scans n = false) (htells : p.tells r = [.withdrawn id capability]) :
      Did call r p (r.withdraw id capability) n
  | stays {p : Point C V} {n : Next (Point C V) (Answer V)} (hheld : p.held = heldBy n)
      (hscans : p.scans = Next.scans n) (htells : p.tells r = []) : Did call r p r n
  | locks (capability : String) (deadlineMs : ℕ) (s : Scan C) (hmutex : r.mutex = none) :
      Did call r (.pick capability deadlineMs) { r with mutex := some call } (.goto (.hasRoom s))
  | givesUp (s : Scan C) :
      Did call r (.hasRoom s) (r.release call)
        (.answer (.dispatched (.error (.busy s.capability))))
  | reserves (s : Scan C) (arc : ℕ) (id : String) (hbest : s.best = some arc) :
      Did call r (.hasRoom s) (r.reserve call arc) (.goto (.await s.capability s.deadlineMs arc id))
  | drops (arc : ℕ) (outcome : Except AiError V) :
      Did call r (.dropLease arc outcome) (r.drop call) (.answer (.dispatched outcome))

theorem next_did {choice : World V} (h : next call r p choice = some (r', n)) :
    Did call r p r' n := by
  cases p with
  | insert id service capabilities maxConcurrent conn =>
      simp only [next] at h
      obtain ⟨hmutex, rfl, rfl⟩ := locked_cases h
      exact .inserts id service capabilities maxConcurrent conn hmutex
  | remove id =>
      simp only [next] at h
      obtain ⟨hmutex, rfl, rfl⟩ := locked_cases h
      exact .removes id hmutex
  | withdraw id capability =>
      simp only [next] at h
      obtain ⟨hmutex, rfl, rfl⟩ := locked_cases h
      exact .withdraws id capability hmutex rfl rfl rfl rfl
  | pick capability deadlineMs =>
      obtain ⟨hmutex, ⟨-, rfl, rfl⟩ | ⟨-, -, rfl, rfl⟩⟩ := pick_cases h
      · exact .stays rfl rfl rfl
      · exact .locks capability deadlineMs _ hmutex
  | hasRoom s =>
      simp only [next] at h
      split at h
      · cases h
        exact .givesUp s
      · next hbest =>
        cases h
        exact .reserves s _ _ hbest
      · split at h
        · cases h
        · split at h
          · split at h <;> cases h <;> exact .stays rfl rfl rfl
          · cases h
            exact .stays rfl rfl rfl
  | loadBest =>
      simp only [next] at h
      split at h
      · cases h
      · cases h
        exact .stays rfl rfl rfl
  | loadNext =>
      simp only [next] at h
      split at h
      · split at h <;> cases h <;> exact .stays rfl rfl rfl
      · cases h
  | await =>
      simp only [next] at h
      split at h <;> cases h <;> exact .stays rfl rfl rfl
  | withdrawClaim capability =>
      simp only [next] at h
      split at h
      · cases h
      · next worker hworker =>
        obtain ⟨hmutex, rfl, rfl⟩ := locked_cases h
        exact .withdraws worker.id capability hmutex rfl rfl rfl
          (by rw [Point.tells, hworker]; rfl)
  | dropLease arc outcome =>
      cases h
      exact .drops arc outcome

theorem next_scanning {choice : World V} {q : Point C V} (hr : Sound r) (hp : p.Scanning r)
    (h : next call r p choice = some (r', .goto q)) : q.Scanning r' := by
  cases p with
  | pick =>
      obtain ⟨-, ⟨-, -, hn⟩ | ⟨hsome, hperm, rfl, hn⟩⟩ := pick_cases h
      · cases hn
      · cases hn
        have hmem := fun a => (List.isPerm_iff.mp hperm).mem_iff (a := a)
        refine ⟨hr, .same rfl rfl, hsome, fun a ha => (hmem a).mp ha, ?_, fun best hbest => ?_⟩
        · intro _ id a w hreg hoffers hvisited
          exact absurd ((hmem a).mpr (mem_offering.mpr ⟨id, w, hreg, hoffers⟩)) hvisited
        · cases hbest
  | hasRoom s =>
      obtain ⟨capability, deadlineMs, began, rest, best⟩ := s
      simp only [next] at h
      have hunder : Scan.Under _ _ r := hp
      split at h
      · cases h
      · cases h
        trivial
      · next _ arc rest =>
        obtain ⟨id, w, hreg, hoffers, inflight, hle, hlookup⟩ := hunder.head
        rw [hlookup] at h
        split at h
        · cases h
        · next worker hworker =>
          cases hworker
          split at h
          · next hroom =>
            split at h
            · next hbest =>
              cases h
              refine hunder.take hlookup hroom ?_
              refine Scan.Leads.tail (?_ : Scan.Leads _ (arc :: _) _) fun old hold _ => ?_
              · intro id' a w' hreg' hoffers' hvisited hroom'
                have hfull := hunder.full rfl id' a w' hreg' hoffers' hvisited
                cases hroom'.symm.trans hfull
              · cases hreg.arc.symm.trans hold
                exact withLoad_le hle
            · next best =>
              cases h
              have hlong : Scan.Under ⟨capability, deadlineMs, began, rest, some best⟩
                  (arc :: rest) r :=
                ⟨hunder.sound, hunder.fell, hunder.offered, hunder.listed, hunder.full,
                  hunder.leads⟩
              exact ⟨rfl, hlong, _, hlookup, hroom⟩
          · next hfull =>
            cases h
            refine hunder.leave fun old hold hroom => ?_
            -- a worker found full was full when the mutex was taken
            cases hreg.arc.symm.trans hold
            exact absurd (withLoad_hasRoom hle hroom) hfull
  | loadBest s best =>
      obtain ⟨hbest, hunder, hroom⟩ := hp
      obtain ⟨-, v, hv, -, hleads⟩ := hunder.leads best hbest
      simp only [next, hv] at h
      cases h
      exact ⟨hbest, hunder, hroom, v, hv, UInt64.le_refl _, hleads⟩
  | loadNext s best load arc =>
      obtain ⟨hbest, hunder, hroom, v, hv, hle, hleads⟩ := hp
      obtain ⟨id, w, hreg, hoffers, inflight, hfallen, hlookup⟩ := hunder.head
      simp only [next] at h
      split at h
      · next worker other hworker hother =>
        cases hv.symm.trans hworker
        cases hlookup.symm.trans hother
        split at h
        · next hless =>
          cases h
          obtain ⟨other, hother, hothers⟩ := hroom
          cases hlookup.symm.trans hother
          refine hunder.take hlookup hothers ?_
          refine Scan.Leads.tail (?_ : Scan.Leads _ (arc :: _) _) fun old hold _ => ?_
          · intro id' a w' hreg' hoffers' hvisited hroom'
            exact le_trans (le_of_lt hless) (hleads id' a w' hreg' hoffers' hvisited hroom')
          · cases hreg.arc.symm.trans hold
            exact withLoad_le hfallen
        · next hmore =>
          cases h
          refine hunder.leave fun old hold _ => ⟨best, v, hbest, hv, ?_⟩
          cases hreg.arc.symm.trans hold
          calc v.load ≤ (v.withLoad load).load := withLoad_le (w := v.withLoad load) hle
            _ ≤ (w.withLoad inflight).load := le_of_not_gt hmore
            _ ≤ w.load := withLoad_le hfallen
      · cases h
  | await =>
      simp only [next] at h
      split at h <;> cases h <;> trivial
  | withdrawClaim =>
      simp only [next, locked] at h
      split at h
      · cases h
      · split at h <;> cases h
        trivial
  | dropLease => cases h
  | _ =>
      simp only [next, locked] at h
      split at h <;> cases h

end Hezarfen.AiRegistry
