import Hezarfen.AiRegistry

/-!
# Operations of the registry

What each operation does to the loads, the leases and the capabilities that are offered.  The
load of an allocation is the number of the leases on it, and at most its ceiling.
-/

namespace Hezarfen.AiRegistry

variable {C V : Type}

variable {w : Worker C} {capability id : String} {r r' : Registry C} {arc call : ℕ}
  {f : Worker C → Worker C} {log : List Event}

structure Registry.Registered (r : Registry C) (id : String) (arc : ℕ) (w : Worker C) :
    Prop where
  entry : r.workers.lookup id = some arc
  arc : r.arcs.lookup arc = some w

def Registry.leasesOn (r : Registry C) (arc : ℕ) : ℕ := r.leases.count fun _ a => a = arc

structure Sound (r : Registry C) : Prop where
  allocated : ∀ arc w, r.arcs.lookup arc = some w → arc < r.allocated
  placed : ∀ id arc, r.workers.lookup id = some arc →
    ∃ w, r.Registered id arc w ∧ w.id = id
  held : ∀ call arc, r.leases.lookup call = some arc → ∃ w, r.arcs.lookup arc = some w
  counted : ∀ arc w, r.arcs.lookup arc = some w → w.inflight.toNat = r.leasesOn arc
  bounded : ∀ arc w, r.arcs.lookup arc = some w → w.inflight ≤ w.maxConcurrent

/-! ## Small facts of the operations -/

theorem offers_iff :
    w.offers capability = true ↔ capability ∈ w.capabilities ∧ capability ∉ w.withdrawn := by
  simp [Worker.offers]

theorem hasRoom_iff :
    w.hasRoom = true ↔ w.inflight.toNat < w.maxConcurrent.toNat := by
  rw [Worker.hasRoom, decide_eq_true_eq, UInt64.lt_iff_toNat_lt]

theorem lookup_alter (r : Registry C) (arc a : ℕ) (f : Worker C → Worker C) :
    (r.alter arc f).arcs.lookup a =
      (r.arcs.lookup a).map fun w => if a = arc then f w else w :=
  lookup_update _ _ _

theorem lookup_alter_ne {a : ℕ} (f : Worker C → Worker C) (hne : a ≠ arc) :
    (r.alter arc f).arcs.lookup a = r.arcs.lookup a := by
  rw [lookup_alter]
  cases r.arcs.lookup a with
  | none => rfl
  | some => rw [Option.map_some, if_neg hne]

theorem alter_cases {a : ℕ} (h : (r.alter arc f).arcs.lookup a = some w) :
    (a ≠ arc ∧ r.arcs.lookup a = some w) ∨
      ∃ old, a = arc ∧ r.arcs.lookup arc = some old ∧ w = f old := by
  by_cases ha : a = arc
  · subst a
    rw [lookup_alter, Option.map_eq_some_iff] at h
    obtain ⟨old, hold, hw⟩ := h
    rw [if_pos rfl] at hw
    exact .inr ⟨old, rfl, hold, hw.symm⟩
  · rw [lookup_alter_ne f ha] at h
    exact .inl ⟨ha, h⟩

theorem lookup_altered (f : Worker C → Worker C) (h : r.arcs.lookup arc = some w) :
    (r.alter arc f).arcs.lookup arc = some (f w) := by
  rw [lookup_alter, h, Option.map_some, if_pos rfl]

theorem mem_values :
    (arc, w) ∈ r.values ↔ ∃ id, r.Registered id arc w := by
  unfold Registry.values
  rw [List.mem_filterMap]
  constructor
  · intro h
    obtain ⟨⟨id, a⟩, hentry, hmap⟩ := h
    obtain ⟨v, hv, hpair⟩ := Option.map_eq_some_iff.mp hmap
    cases hpair
    exact ⟨id, mem_entries_iff_lookup.mp hentry, hv⟩
  · intro h
    obtain ⟨id, hentry, harc⟩ := h
    exact ⟨⟨id, arc⟩, mem_entries_iff_lookup.mpr hentry, by simp [harc]⟩

theorem mem_offering :
    arc ∈ r.offering capability ↔
      ∃ id w, r.Registered id arc w ∧ w.offers capability = true := by
  unfold Registry.offering
  simp only [List.mem_map, List.mem_filter]
  constructor
  · intro h
    obtain ⟨⟨a, w⟩, ⟨hvalue, hoffers⟩, rfl⟩ := h
    obtain ⟨id, hreg⟩ := mem_values.mp hvalue
    exact ⟨id, w, hreg, hoffers⟩
  · intro h
    obtain ⟨id, w, hreg, hoffers⟩ := h
    exact ⟨(arc, w), ⟨mem_values.mpr ⟨id, hreg⟩, hoffers⟩, rfl⟩

theorem hasCapability_iff :
    r.hasCapability capability = true ↔
      ∃ id arc w, r.Registered id arc w ∧ w.offers capability = true := by
  unfold Registry.hasCapability
  rw [List.any_eq_true]
  constructor
  · intro h
    obtain ⟨⟨arc, w⟩, hmem, hoffers⟩ := h
    obtain ⟨id, hreg⟩ := mem_values.mp hmem
    exact ⟨id, arc, w, hreg, hoffers⟩
  · intro h
    obtain ⟨id, arc, w, hreg, hoffers⟩ := h
    exact ⟨(arc, w), mem_values.mpr ⟨id, hreg⟩, hoffers⟩

theorem leasesOn_pos (h : r.leases.lookup call = some arc) :
    0 < r.leasesOn arc := by
  apply Nat.pos_of_ne_zero
  intro hzero
  have hnone := Table.count_eq_zero_iff.mp hzero call arc h
  simp at hnone

theorem leasesOn_insert (hfree : r.leases.lookup call = none) (arc a : ℕ) :
    Table.count (r.leases.insert call arc) (fun _ b => b = a) =
      r.leasesOn a + if arc = a then 1 else 0 := by
  have hcount := Table.count_insert r.leases call arc fun _ b => decide (b = a)
  rw [hfree] at hcount
  simp only [Option.any_none, Bool.false_eq_true, if_false, Nat.add_zero,
    decide_eq_true_eq] at hcount
  rw [hcount, Registry.leasesOn, Nat.add_comm]

theorem leasesOn_erase (hlease : r.leases.lookup call = some arc) (a : ℕ) :
    Table.count (r.leases.erase call) (fun _ b => b = a) + (if arc = a then 1 else 0) =
      r.leasesOn a := by
  have hcount := Table.count_erase r.leases call fun _ b => decide (b = a)
  rw [hlease] at hcount
  simp only [Option.any_some, decide_eq_true_eq] at hcount
  rw [hcount, Registry.leasesOn]

/-! ## The invariant of the registry -/

theorem Sound.empty : Sound (Registry.empty : Registry C) where
  allocated arc w h := by cases h
  placed id arc h := by cases h
  held call arc h := by cases h
  counted arc w h := by cases h
  bounded arc w h := by cases h

/-- Taking the mutex and giving it up changes none of the tables. -/
theorem Sound.mutex (hr : Sound r) (m : Option ℕ) : Sound { r with mutex := m } where
  allocated := hr.allocated
  placed id arc h := by
    obtain ⟨w, hreg, hid⟩ := hr.placed id arc h
    exact ⟨w, ⟨hreg.entry, hreg.arc⟩, hid⟩
  held := hr.held
  counted := hr.counted
  bounded := hr.bounded

theorem Sound.remove (hr : Sound r) (id : String) : Sound (r.remove id) where
  allocated := hr.allocated
  placed id' arc h := by
    simp only [Registry.remove, lookup_erase_eq] at h
    split at h
    · cases h
    · next hne =>
      obtain ⟨w, hreg, hid⟩ := hr.placed id' arc h
      refine ⟨w, ⟨?_, hreg.arc⟩, hid⟩
      simp only [Registry.remove, lookup_erase_eq, if_neg hne, hreg.entry]
  held := hr.held
  counted := hr.counted
  bounded := hr.bounded

theorem Sound.insert (hr : Sound r) (id service : String) (capabilities : List String)
    (maxConcurrent : UInt64) (conn : C) :
    Sound (r.insert id service capabilities maxConcurrent conn) := by
  have hold : ∀ arc, (r.insert id service capabilities maxConcurrent conn).arcs.lookup arc =
      if arc = r.allocated then
        some ⟨id, service, capabilities, ∅, maxConcurrent, 0, conn⟩
      else r.arcs.lookup arc := fun arc => lookup_insert_eq _ _ _ _
  have hlive : ∀ {arc w}, r.arcs.lookup arc = some w →
      (r.insert id service capabilities maxConcurrent conn).arcs.lookup arc = some w := by
    intro arc w h
    rw [hold, if_neg (Nat.ne_of_lt (hr.allocated arc w h)), h]
  constructor
  case allocated =>
    intro arc w h
    rw [hold] at h
    split at h
    · next harc => exact harc ▸ Nat.lt_succ_self _
    · exact Nat.lt_succ_of_lt (hr.allocated arc w h)
  case placed =>
    intro id' arc h
    have hentry := h
    simp only [Registry.insert, lookup_insert_eq] at h
    split at h
    · next hid =>
      cases h
      exact ⟨_, ⟨hentry, by rw [hold, if_pos rfl]⟩, hid.symm⟩
    · obtain ⟨w, hreg, hid⟩ := hr.placed id' arc h
      exact ⟨w, ⟨hentry, hlive hreg.arc⟩, hid⟩
  case held =>
    intro call arc h
    obtain ⟨w, hw⟩ := hr.held call arc h
    exact ⟨w, hlive hw⟩
  case counted =>
    intro arc w h
    rw [hold] at h
    split at h
    · next harc =>
      -- no lease is on an allocation that did not exist
      cases h
      symm
      refine Table.count_eq_zero_iff.mpr fun call a hlease => ?_
      obtain ⟨v, hv⟩ := hr.held call a hlease
      exact decide_eq_false (harc ▸ Nat.ne_of_lt (hr.allocated a v hv))
    · exact hr.counted arc w h
  case bounded =>
    intro arc w h
    rw [hold] at h
    split at h
    · cases h
      exact UInt64.zero_le
    · exact hr.bounded arc w h

/-- A write through an allocation that leaves the id of the worker, with leases that count
what the new loads say. -/
theorem Sound.alter (hr : Sound r) (arc : ℕ) (hworkers : r'.workers = r.workers)
    (harcs : r'.arcs = (r.alter arc f).arcs) (hallocated : r'.allocated = r.allocated)
    (hid : ∀ w, (f w).id = w.id)
    (hheld : ∀ call a, r'.leases.lookup call = some a → ∃ w, r.arcs.lookup a = some w)
    (hother : ∀ a, a ≠ arc → r'.leasesOn a = r.leasesOn a)
    (hself : ∀ w, r.arcs.lookup arc = some w →
      (f w).inflight.toNat = r'.leasesOn arc ∧ (f w).inflight ≤ (f w).maxConcurrent) :
    Sound r' := by
  have hlive : ∀ {a w}, r.arcs.lookup a = some w →
      ∃ w', r'.arcs.lookup a = some w' ∧ w'.id = w.id := by
    intro a w h
    rw [harcs, lookup_alter, h]
    refine ⟨_, rfl, ?_⟩
    split
    · exact hid w
    · rfl
  constructor
  case allocated =>
    intro a w h
    rw [harcs] at h
    rw [hallocated]
    obtain ⟨-, h⟩ | ⟨old, rfl, hold, -⟩ := alter_cases h
    · exact hr.allocated a w h
    · exact hr.allocated a old hold
  case placed =>
    intro id a h
    obtain ⟨w, hreg, hwid⟩ := hr.placed id a (hworkers ▸ h)
    obtain ⟨w', hw', hid'⟩ := hlive hreg.arc
    exact ⟨w', ⟨h, hw'⟩, hid'.trans hwid⟩
  case held =>
    intro call a h
    obtain ⟨w, hw⟩ := hheld call a h
    obtain ⟨w', hw', -⟩ := hlive hw
    exact ⟨w', hw'⟩
  case counted =>
    intro a w h
    rw [harcs] at h
    obtain ⟨hne, h⟩ | ⟨old, rfl, hold, rfl⟩ := alter_cases h
    · rw [hother a hne]
      exact hr.counted a w h
    · exact (hself old hold).1
  case bounded =>
    intro a w h
    rw [harcs] at h
    obtain ⟨-, h⟩ | ⟨old, rfl, hold, rfl⟩ := alter_cases h
    · exact hr.bounded a w h
    · exact (hself old hold).2

theorem Sound.withdraw (hr : Sound r) (id capability : String) :
    Sound (r.withdraw id capability) := by
  unfold Registry.withdraw
  split
  · exact hr
  · next arc _ =>
    split
    · exact hr.alter arc rfl rfl rfl (fun _ => rfl) hr.held (fun _ _ => rfl)
        fun w hw => ⟨hr.counted arc w hw, hr.bounded arc w hw⟩
    · exact hr

theorem toNat_fetchAdd (h : w.hasRoom = true) :
    w.fetchAdd.inflight.toNat = w.inflight.toNat + 1 := by
  have hroom := hasRoom_iff.mp h
  have hmax := w.maxConcurrent.toNat_lt
  simp only [Worker.fetchAdd, UInt64.toNat_add, UInt64.toNat_one]
  omega

theorem toNat_fetchSub (h : 0 < w.inflight.toNat) :
    w.fetchSub.inflight.toNat = w.inflight.toNat - 1 := by
  have hone : (1 : UInt64) ≤ w.inflight := by
    rw [UInt64.le_iff_toNat_le]
    exact h
  simp only [Worker.fetchSub, UInt64.toNat_sub_of_le _ _ hone, UInt64.toNat_one]

theorem Sound.reserve (hr : Sound r) (hfree : r.leases.lookup call = none)
    (hw : r.arcs.lookup arc = some w) (hroom : w.hasRoom = true) :
    Sound (r.reserve call arc) := by
  have hcount : ∀ a, (r.reserve call arc).leasesOn a =
      r.leasesOn a + if arc = a then 1 else 0 := leasesOn_insert hfree arc
  refine hr.alter arc rfl rfl rfl (fun _ => rfl) ?_ ?_ ?_
  · intro call' a h
    simp only [Registry.reserve, lookup_insert_eq] at h
    split at h
    · cases h
      exact ⟨w, hw⟩
    · exact hr.held call' a h
  · intro a hne
    rw [hcount, if_neg (Ne.symm hne), Nat.add_zero]
  · intro old hold
    cases hw.symm.trans hold
    have hadd := toNat_fetchAdd hroom
    refine ⟨?_, ?_⟩
    · rw [hcount, if_pos rfl, hadd, hr.counted arc w hw]
    · rw [UInt64.le_iff_toNat_le, hadd]
      exact hasRoom_iff.mp hroom

theorem Sound.drop (hr : Sound r) (call : ℕ) : Sound (r.drop call) := by
  unfold Registry.drop
  split
  · exact hr
  · next arc hlease =>
    have hcount : ∀ a, Registry.leasesOn
        { r.alter arc Worker.fetchSub with leases := r.leases.erase call } a +
          (if arc = a then 1 else 0) = r.leasesOn a := leasesOn_erase hlease
    refine hr.alter arc rfl rfl rfl (fun _ => rfl) ?_ ?_ ?_
    · intro call' a h
      simp only [lookup_erase_eq] at h
      split at h
      · cases h
      · exact hr.held call' a h
    · intro a hne
      have hsame := hcount a
      rwa [if_neg (Ne.symm hne)] at hsame
    · intro w hw
      -- the lease itself is counted, so the load is not zero
      have hload := hr.counted arc w hw
      have hpos := leasesOn_pos hlease
      have hself := hcount arc
      rw [if_pos rfl] at hself
      have hsub := toNat_fetchSub (w := w) (by omega)
      refine ⟨by omega, ?_⟩
      have hbound := UInt64.le_iff_toNat_le.mp (hr.bounded arc w hw)
      rw [UInt64.le_iff_toNat_le, hsub]
      simp only [Worker.fetchSub]
      omega

/-! ## What a worker offers -/

def Registry.Offers (r : Registry C) (id capability : String) : Prop :=
  ∃ arc w, r.Registered id arc w ∧ w.offers capability = true

def Told (r : Registry C) (log : List Event) : Prop :=
  ∀ id capability, r.Offers id capability ↔ Offered log id capability

theorem Registry.Registered.offers (h : r.Registered id arc w) (capability : String) :
    r.Offers id capability ↔ w.offers capability = true := by
  constructor
  · intro hoffers
    obtain ⟨arc', w', h', hw'⟩ := hoffers
    cases h.entry.symm.trans h'.entry
    cases h.arc.symm.trans h'.arc
    exact hw'
  · intro hw
    exact ⟨arc, w, h, hw⟩

theorem offered_snoc {e : Event} :
    Offered (log ++ [e]) id capability ↔
      (∃ capabilities, e = .inserted id capabilities ∧ capability ∈ capabilities) ∨
        (Offered log id capability ∧ e.spares id capability = true) := by
  constructor
  · intro h
    obtain ⟨before, capabilities, after, hlog, hdeclared, hspared⟩ := h
    cases after using List.reverseRecOn with
    | nil =>
        obtain ⟨-, hlast⟩ := List.append_inj' hlog rfl
        cases hlast
        exact .inl ⟨capabilities, rfl, hdeclared⟩
    | append_singleton after =>
        rw [← List.cons_append, ← List.append_assoc] at hlog
        obtain ⟨hinit, hlast⟩ := List.append_inj' hlog rfl
        cases hlast
        refine .inr ⟨⟨before, capabilities, after, hinit, hdeclared, fun e' he' => ?_⟩, ?_⟩
        · exact hspared e' (List.mem_append_left _ he')
        · exact hspared e (List.mem_append_right _ (List.mem_singleton_self e))
  · intro h
    obtain ⟨capabilities, rfl, hdeclared⟩ |
      ⟨⟨before, capabilities, after, rfl, hdeclared, hspared⟩, hlast⟩ := h
    · exact ⟨log, capabilities, [], rfl, hdeclared, by simp⟩
    · refine ⟨before, capabilities, after ++ [e], by simp, hdeclared, fun e' he' => ?_⟩
      rcases List.mem_append.mp he' with hin | hin
      · exact hspared e' hin
      · rw [List.mem_singleton.mp hin]
        exact hlast

theorem offers_insert (hr : Sound r) (id service : String) (capabilities : List String)
    (maxConcurrent : UInt64) (conn : C) (id' capability : String) :
    (r.insert id service capabilities maxConcurrent conn).Offers id' capability ↔
      (id = id' ∧ capability ∈ capabilities) ∨ (id ≠ id' ∧ r.Offers id' capability) := by
  have hentry : (r.insert id service capabilities maxConcurrent conn).workers.lookup id' =
      if id' = id then some r.allocated else r.workers.lookup id' := lookup_insert_eq _ _ _ _
  have harc : ∀ arc, (r.insert id service capabilities maxConcurrent conn).arcs.lookup arc =
      if arc = r.allocated then some ⟨id, service, capabilities, ∅, maxConcurrent, 0, conn⟩
      else r.arcs.lookup arc := fun arc => lookup_insert_eq _ _ _ _
  by_cases hid : id = id'
  · subst hid
    rw [if_pos rfl] at hentry
    have hnew : (r.insert id service capabilities maxConcurrent conn).Registered id r.allocated
        ⟨id, service, capabilities, ∅, maxConcurrent, 0, conn⟩ :=
      ⟨hentry, by rw [harc, if_pos rfl]⟩
    rw [hnew.offers, offers_iff]
    simp
  · rw [if_neg (Ne.symm hid)] at hentry
    have hkept : ∀ {arc w}, r.Registered id' arc w →
        (r.insert id service capabilities maxConcurrent conn).arcs.lookup arc = some w := by
      intro arc w hreg
      rw [harc, if_neg (Nat.ne_of_lt (hr.allocated arc w hreg.arc)), hreg.arc]
    constructor
    · intro h
      obtain ⟨arc, w, hreg, hoffers⟩ := h
      obtain ⟨old, hold, -⟩ := hr.placed id' arc (hentry ▸ hreg.entry)
      cases hreg.arc.symm.trans (hkept hold)
      exact .inr ⟨hid, arc, w, hold, hoffers⟩
    · intro h
      obtain ⟨heq, -⟩ | ⟨-, arc, w, hreg, hoffers⟩ := h
      · exact absurd heq hid
      · exact ⟨arc, w, ⟨hentry.trans hreg.entry, hkept hreg⟩, hoffers⟩

theorem offers_remove (r : Registry C) (id id' capability : String) :
    (r.remove id).Offers id' capability ↔ id ≠ id' ∧ r.Offers id' capability := by
  have hentry : (r.remove id).workers.lookup id' =
      if id' = id then none else r.workers.lookup id' := lookup_erase_eq _ _ _
  by_cases hid : id = id'
  · subst hid
    rw [if_pos rfl] at hentry
    constructor
    · intro h
      obtain ⟨arc, w, hreg, -⟩ := h
      cases hentry.symm.trans hreg.entry
    · intro h
      exact absurd rfl h.1
  · rw [if_neg (Ne.symm hid)] at hentry
    constructor
    · intro h
      obtain ⟨arc, w, hreg, hoffers⟩ := h
      exact ⟨hid, arc, w, ⟨hentry ▸ hreg.entry, hreg.arc⟩, hoffers⟩
    · intro h
      obtain ⟨-, arc, w, hreg, hoffers⟩ := h
      exact ⟨arc, w, ⟨hentry.trans hreg.entry, hreg.arc⟩, hoffers⟩

theorem offers_alter (hworkers : r'.workers = r.workers) (harcs : r'.arcs = (r.alter arc f).arcs)
    (hf : ∀ w, r.Registered id arc w → (f w).offers capability = w.offers capability) :
    r'.Offers id capability ↔ r.Offers id capability := by
  constructor
  · intro h
    obtain ⟨a, w, hreg, hoffers⟩ := h
    have hw := hreg.arc
    rw [harcs] at hw
    have hentry := hworkers ▸ hreg.entry
    obtain ⟨-, hold⟩ | ⟨old, rfl, hold, rfl⟩ := alter_cases hw
    · exact ⟨a, w, ⟨hentry, hold⟩, hoffers⟩
    · exact ⟨a, old, ⟨hentry, hold⟩, hf old ⟨hentry, hold⟩ ▸ hoffers⟩
  · intro h
    obtain ⟨a, w, hreg, hoffers⟩ := h
    have hentry : r'.workers.lookup id = some a := hworkers ▸ hreg.entry
    by_cases ha : a = arc
    · subst a
      refine ⟨arc, f w, ⟨hentry, ?_⟩, (hf w hreg).trans hoffers⟩
      rw [harcs, lookup_altered f hreg.arc]
    · refine ⟨a, w, ⟨hentry, ?_⟩, hoffers⟩
      rw [harcs, lookup_alter_ne f ha, hreg.arc]

theorem offers_withdrawn {capability' : String} :
    (w.withdraw capability).offers capability' = true ↔
      w.offers capability' = true ∧ capability ≠ capability' := by
  rw [offers_iff, offers_iff, Worker.withdraw, Finset.mem_insert, not_or, and_assoc]
  exact and_congr_right fun _ => by rw [and_comm, ne_comm]

theorem offers_withdraw (hr : Sound r) (id capability id' capability' : String) :
    (r.withdraw id capability).Offers id' capability' ↔
      r.Offers id' capability' ∧ ¬(id = id' ∧ capability = capability') := by
  unfold Registry.withdraw
  split
  · next hnone =>
    refine ⟨fun h => ⟨h, fun hsame => ?_⟩, And.left⟩
    obtain ⟨arc, w, hreg, -⟩ := h
    cases (hsame.1 ▸ hnone).symm.trans hreg.entry
  · next arc hentry =>
    obtain ⟨w, hreg, hwid⟩ := hr.placed id arc hentry
    rw [hreg.arc, Option.any_some]
    by_cases hdeclared : (w.capabilities.any fun c => c = capability) = true
    · rw [if_pos hdeclared]
      by_cases hid : id = id'
      · subst hid
        have hnew : (r.alter arc (Worker.withdraw capability)).Registered id arc
            (w.withdraw capability) := ⟨hentry, lookup_altered _ hreg.arc⟩
        rw [hnew.offers, hreg.offers, offers_withdrawn]
        simp
      · -- the other id has another allocation
        have hkept : (r.alter arc (Worker.withdraw capability)).Offers id' capability' ↔
            r.Offers id' capability' := by
          refine offers_alter rfl rfl fun other hother => ?_
          obtain ⟨other', hreg', hid'⟩ := hr.placed id' arc hother.entry
          cases hreg.arc.symm.trans hreg'.arc
          exact absurd (hwid.symm.trans hid') hid
        rw [hkept]
        simp [hid]
    · -- a capability that was never declared is not offered
      rw [if_neg hdeclared]
      refine ⟨fun h => ⟨h, ?_⟩, And.left⟩
      intro hsame
      obtain ⟨rfl, rfl⟩ := hsame
      rw [hreg.offers, offers_iff] at h
      exact hdeclared (by simpa using h.1)

end Hezarfen.AiRegistry
