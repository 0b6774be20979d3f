import Hezarfen.RateLimit

/-!
# What a limiter never does

The counters of a bucket stay in order, the map stays under its cap, an exhausted bucket
stays until its window ends, and no window of a bucket admits more than the tier allows.
-/

namespace Hezarfen.RateLimit

open Sequential

variable {epoch : ℤ} {b' : Bucket}

theorem wrappingSub_of_le {a b : ℕ} (ha : a < u32Size) (hba : b ≤ a) : wrappingSub a b = a - b := by
  unfold wrappingSub
  rw [Nat.sub_add_comm hba, Nat.add_mod_right, Nat.mod_eq_of_lt (by omega)]

/-! ## The map -/

theorem size_deleteWhere_le {K : Type} (buckets : Table K Bucket) (p : K → Bucket → Bool) :
    size (Table.deleteWhere buckets p) ≤ size buckets := by
  unfold size AList.keys List.keys Table.deleteWhere
  rw [List.length_map, List.length_map]
  exact List.length_filter_le _ _

theorem size_update {K : Type} (buckets : Table K Bucket) (f : K → Bucket → Bucket) :
    size (Table.update buckets f) = size buckets := by
  unfold size AList.keys List.keys Table.update
  rw [List.length_map, List.length_map, List.length_map]

theorem mem_cheapest
    {K : Type} {key : K} {max cutoff budget : ℕ} {rows : List (K × Bucket)}
    (h : key ∈ cheapest max cutoff rows budget) :
    ∃ b, (key, b) ∈ rows ∧ b.spent < max := by
  induction rows generalizing budget with
  | nil => cases h
  | cons row rows ih =>
      obtain ⟨first, b⟩ := row
      unfold cheapest at h
      split at h
      · next hcheap =>
        rcases List.mem_cons.mp h with rfl | hrest
        · exact ⟨b, List.mem_cons_self .., hcheap.2.1⟩
        · obtain ⟨b', hmem, hspent⟩ := ih hrest
          exact ⟨b', List.mem_cons_of_mem _ hmem, hspent⟩
      · obtain ⟨b', hmem, hspent⟩ := ih h
        exact ⟨b', List.mem_cons_of_mem _ hmem, hspent⟩

section Map

variable {K : Type} [DecidableEq K] {order : List K} {buckets : Table K Bucket} {key : K}
  {b : Bucket}

theorem mem_inOrder (h : (key, b) ∈ inOrder order buckets) : buckets.lookup key = some b := by
  unfold inOrder at h
  rcases List.mem_append.mp h with hlisted | hrest
  · obtain ⟨other, -, hrow⟩ := List.mem_filterMap.mp hlisted
    obtain ⟨b', hlookup, heq⟩ := Option.map_eq_some_iff.mp hrow
    cases heq
    exact hlookup
  · obtain ⟨row, hrow, heq⟩ := List.mem_map.mp hrest
    obtain ⟨key', b'⟩ := row
    cases heq
    exact mem_entries_iff_lookup.mp (List.mem_filter.mp hrow).1

theorem size_insert (buckets : Table K Bucket) (key : K) (b : Bucket) :
    size (buckets.insert key b) = if key ∈ buckets then size buckets else size buckets + 1 := by
  unfold size
  rw [AList.keys_insert, List.length_cons]
  split
  · next hmem =>
    have hkey : key ∈ buckets.keys := AList.mem_keys.mp hmem
    rw [List.length_erase_of_mem hkey]
    have hpos := List.length_pos_of_mem hkey
    omega
  · next habsent =>
    rw [List.erase_of_not_mem fun hkey => habsent (AList.mem_keys.mpr hkey)]

theorem lookup_evictCheapest (order : List K) (buckets : Table K Bucket) (target max : ℕ)
    (key : K) :
    (evictCheapest order buckets target max).lookup key = buckets.lookup key ∨
      ((evictCheapest order buckets target max).lookup key = none ∧
        ∃ b, buckets.lookup key = some b ∧ b.spent < max) := by
  unfold evictCheapest
  simp only
  split
  · exact .inl rfl
  · rw [lookup_deleteWhere]
    generalize hdropped : cheapest max _ (inOrder order buckets) _ = dropped
    by_cases hkey : key ∈ dropped
    · rw [← hdropped] at hkey
      obtain ⟨b, hmem, hspent⟩ := mem_cheapest hkey
      refine .inr ⟨?_, b, mem_inOrder hmem, hspent⟩
      rw [hdropped] at hkey
      cases buckets.lookup key <;> simp [Option.filter, hkey]
    · refine .inl ?_
      cases buckets.lookup key <;> simp [Option.filter, hkey]

theorem size_evictCheapest_le (order : List K) (buckets : Table K Bucket) (target max : ℕ) :
    size (evictCheapest order buckets target max) ≤ size buckets := by
  unfold evictCheapest
  simp only
  split
  · exact Nat.le_refl _
  · exact size_deleteWhere_le _ _

theorem lookup_makeRoom (tier : Tier) (now : ℕ) (order : List K) (buckets : Table K Bucket)
    (key : K) :
    (makeRoom tier now order buckets).lookup key = buckets.lookup key ∨
      ((makeRoom tier now order buckets).lookup key = none ∧
        ∃ b, buckets.lookup key = some b ∧ (b.lapsed tier now = true ∨ b.spent < tier.max)) := by
  have hlive : (Table.deleteWhere buckets fun _ b => b.lapsed tier now).lookup key =
      (buckets.lookup key).filter fun b => !b.lapsed tier now := lookup_deleteWhere ..
  have hroom : (makeRoom tier now order buckets).lookup key =
        (buckets.lookup key).filter (fun b => !b.lapsed tier now) ∨
      ((makeRoom tier now order buckets).lookup key = none ∧
        ∃ b, (buckets.lookup key).filter (fun b => !b.lapsed tier now) = some b ∧
          b.spent < tier.max) := by
    rw [← hlive]
    unfold makeRoom
    simp only
    split
    · exact lookup_evictCheapest ..
    · exact .inl rfl
  rcases hroom with hsame | ⟨hnone, b, hb, hspent⟩
  · rw [hsame]
    cases hrow : buckets.lookup key with
    | none => exact .inl rfl
    | some b =>
        cases hlapsed : b.lapsed tier now with
        | true => exact .inr ⟨by simp [Option.filter, hlapsed], b, rfl, .inl hlapsed⟩
        | false => exact .inl (by simp [Option.filter, hlapsed])
  · exact .inr ⟨hnone, b, (Option.filter_eq_some_iff.mp hb).1, .inr hspent⟩

theorem size_makeRoom_le (tier : Tier) (now : ℕ) (order : List K) (buckets : Table K Bucket) :
    size (makeRoom tier now order buckets) ≤ size buckets := by
  unfold makeRoom
  simp only
  split
  · exact (size_evictCheapest_le ..).trans (size_deleteWhere_le _ _)
  · exact size_deleteWhere_le _ _

end Map

structure Bucket.Sane (tier : Tier) (b : Bucket) : Prop where
  pushed : b.pushed ≤ b.count
  count : b.count ≤ tier.max

def Pending.Sane {K : Type} [DecidableEq K] (s : Limiter K) (epoch : ℤ) (p : Pending K) : Prop :=
  ∀ b, s.buckets.lookup p.key = some b → b.epoch = some epoch → b.windowStart = p.windowStart →
    p.counted ≤ b.count

structure Limiter.Sane {K : Type} [DecidableEq K] (tier : Tier) (s : Limiter K) : Prop where
  buckets : ∀ key b, s.buckets.lookup key = some b → b.Sane tier
  small : size s.buckets ≤ purgeAt
  pending : ∀ round, s.round = some round → ∀ p ∈ round.pending, p.Sane s round.epoch

section Buckets

variable {tier : Tier} {now : ℕ} {b : Bucket}

theorem Bucket.Sane.lt (h : b.Sane tier) : b.count < u32Size := h.count.trans_lt tier.max_lt

theorem openedAt_sane (tier : Tier) (now : ℕ) : (Bucket.openedAt now).Sane tier :=
  ⟨Nat.le_refl 0, Nat.zero_le _⟩

theorem Bucket.Sane.current (h : b.Sane tier) : (b.current tier now).Sane tier := by
  unfold Bucket.current
  split
  · exact openedAt_sane tier now
  · exact h

theorem count_le_spent (b : Bucket) : b.count ≤ b.spent := Nat.le_max_left _ _

theorem admit_count (hspent : b.spent < tier.max) :
    b.admit.count = b.count + 1 ∧ b.count + 1 ≤ tier.max := by
  have hcount := count_le_spent b
  have hmax := tier.max_lt
  refine ⟨Nat.mod_eq_of_lt (by omega), by omega⟩

/-- What a request leaves of its bucket. -/
theorem Bucket.Sane.check (h : b.Sane tier) (now : ℕ) :
    let after := (b.check tier now Bucket.spent tier.max).2
    after.Sane tier ∧ after.windowStart = b.windowStart ∧ after.pushed = b.pushed ∧
      after.epoch = b.epoch ∧ b.count ≤ after.count ∧
      after.count = b.count +
        if (b.check tier now Bucket.spent tier.max).1.isOk then 1 else 0 := by
  unfold Bucket.check
  split
  · next hspent =>
    obtain ⟨hcount, hle⟩ := admit_count hspent
    have hpushed := h.pushed
    refine ⟨⟨?_, ?_⟩, rfl, rfl, rfl, ?_, hcount⟩
    · change b.pushed ≤ b.admit.count
      omega
    · change b.admit.count ≤ tier.max
      omega
    · change b.count ≤ b.admit.count
      omega
  · exact ⟨h, rfl, rfl, rfl, Nat.le_refl _, rfl⟩

theorem Bucket.turn_count (epoch : ℤ) (b : Bucket) :
    (b.turn epoch).count = b.count ∧ (b.turn epoch).windowStart = b.windowStart ∧
      (b.turn epoch).epoch = some epoch := by
  unfold Bucket.turn
  split
  · next hepoch => exact ⟨rfl, rfl, hepoch⟩
  · exact ⟨rfl, rfl, rfl⟩

theorem Bucket.Sane.turn (h : b.Sane tier) (epoch : ℤ) : (b.turn epoch).Sane tier := by
  unfold Bucket.turn
  split
  · exact h
  · refine ⟨?_, h.count⟩
    dsimp only
    split
    · exact Nat.le_refl _
    · exact h.pushed

end Buckets

section Steps

variable {K : Type} [DecidableEq K] {tier : Tier} {s : Limiter K} {order : List K} {key : K}

theorem lookup_room (tier : Tier) (order : List K) (s : Limiter K) (key other : K) :
    (s.room tier order key).lookup other = s.buckets.lookup other ∨
      ((s.room tier order key).lookup other = none ∧
        ∃ b, s.buckets.lookup other = some b ∧
          (b.lapsed tier s.now = true ∨ b.spent < tier.max)) := by
  unfold Limiter.room
  split
  · exact lookup_makeRoom ..
  · exact .inl rfl

variable {other : K}

theorem room_sane (h : s.Sane tier) {b : Bucket}
    (hrow : (s.room tier order key).lookup other = some b) :
    s.buckets.lookup other = some b ∧ b.Sane tier := by
  rcases lookup_room tier order s key other with hsame | ⟨hnone, -⟩
  · rw [hsame] at hrow
    exact ⟨hrow, h.buckets _ _ hrow⟩
  · rw [hnone] at hrow
    cases hrow

theorem size_room_le (h : s.Sane tier) (order : List K) (key : K) :
    size (s.room tier order key) ≤ purgeAt := by
  unfold Limiter.room
  split
  · exact (size_makeRoom_le ..).trans h.small
  · exact h.small

theorem size_insert_le
    (h : s.Sane tier) (hroom : s.saturated tier order key = false) (b : Bucket) :
    size ((s.room tier order key).insert key b) ≤ purgeAt := by
  have hle := size_room_le h order key
  rw [size_insert]
  split
  · exact hle
  · next habsent =>
    unfold Limiter.saturated at hroom
    cases hneeds : s.needsRoom key with
    | true =>
        rw [hneeds, Bool.true_and, decide_eq_false_iff_not] at hroom
        omega
    | false =>
        unfold Limiter.room at habsent ⊢
        rw [hneeds] at habsent ⊢
        simp only [Bool.false_eq_true, if_false] at habsent ⊢
        unfold Limiter.needsRoom at hneeds
        rw [Bool.and_eq_false_iff] at hneeds
        rcases hneeds with hsmall | hpresent
        · rw [decide_eq_false_iff_not] at hsmall
          omega
        · rw [decide_eq_false_iff_not, not_not] at hpresent
          exact absurd hpresent habsent

theorem bucketOf_sane (h : s.Sane tier) (order : List K) (key : K) (now : ℕ) :
    (bucketOf tier now (s.room tier order key) key).Sane tier := by
  unfold bucketOf
  cases hrow : (s.room tier order key).lookup key with
  | none => exact (openedAt_sane tier now).current
  | some => exact (room_sane h hrow).2.current

/-- What a request does to the map. -/
theorem checkKey_cases (tier : Tier) (order : List K) (s : Limiter K) (key : K) :
    (tier.max = 0 ∧ s.checkKey tier order key = (.ok (), s)) ∨
    (tier.max ≠ 0 ∧ s.saturated tier order key = true ∧ ∃ overflow,
      (s.checkKey tier order key).2 =
        { s with buckets := s.room tier order key, overflow := overflow }) ∨
    (tier.max ≠ 0 ∧ s.saturated tier order key = false ∧
      s.checkKey tier order key =
        let answer := (bucketOf tier s.now (s.room tier order key) key).check tier s.now
          Bucket.spent tier.max
        (answer.1, { s with buckets := (s.room tier order key).insert key answer.2 })) := by
  unfold Limiter.checkKey
  by_cases hmax : tier.max = 0
  · exact .inl ⟨hmax, by rw [if_pos hmax]⟩
  · rw [if_neg hmax]
    cases hsaturated : s.saturated tier order key with
    | true => exact .inr (.inl ⟨hmax, rfl, _, rfl⟩)
    | false => exact .inr (.inr ⟨hmax, rfl, rfl⟩)

/-- Every bucket of `s'` is a bucket of `s` that has grown, or one that no sync has seen. -/
def Limiter.Grows (s s' : Limiter K) : Prop :=
  ∀ key b', s'.buckets.lookup key = some b' →
    b'.epoch = none ∨
      ∃ b, s.buckets.lookup key = some b ∧ b.epoch = b'.epoch ∧ b.windowStart = b'.windowStart ∧
        b.count ≤ b'.count

variable {s' : Limiter K}

theorem Limiter.Grows.of_fewer
    (h : ∀ key b, s'.buckets.lookup key = some b → s.buckets.lookup key = some b) : s.Grows s' :=
  fun key b hb => .inr ⟨b, h key b hb, rfl, rfl, Nat.le_refl _⟩

variable {p : Pending K}

theorem Limiter.Grows.pending
    (h : s.Grows s') (hp : p.Sane s epoch) :
    p.Sane s' epoch := by
  intro b' hb' hepoch hstart
  rcases h p.key b' hb' with hnone | ⟨b, hb, hsame, hwindow, hle⟩
  · rw [hnone] at hepoch
    cases hepoch
  · exact (hp b hb (hsame.trans hepoch) (hwindow.trans hstart)).trans hle

/-- A step that only lets buckets grow keeps the invariant. -/
theorem Limiter.Sane.grows
    (h : s.Sane tier) (hgrows : s.Grows s') (hround : s'.round = s.round)
    (hbuckets : ∀ key b, s'.buckets.lookup key = some b → b.Sane tier)
    (hsize : size s'.buckets ≤ purgeAt) : s'.Sane tier := by
  refine ⟨hbuckets, hsize, fun round hr p hp => hgrows.pending ?_⟩
  exact h.pending round (hround ▸ hr) p hp

theorem bucketOf_cases (h : s.Sane tier) (order : List K) (key : K) :
    (bucketOf tier s.now (s.room tier order key) key).epoch = none ∨
      s.buckets.lookup key = some (bucketOf tier s.now (s.room tier order key) key) := by
  unfold bucketOf Bucket.current
  split
  · exact .inl rfl
  · cases hrow : (s.room tier order key).lookup key with
    | none => exact .inl rfl
    | some => exact .inr (room_sane h hrow).1

theorem checkKey_sane (h : s.Sane tier) (order : List K) (key : K) :
    (s.checkKey tier order key).2.Sane tier := by
  rcases checkKey_cases tier order s key with ⟨-, heq⟩ | ⟨-, -, overflow, heq⟩ | ⟨-, hroom, heq⟩
  · rw [heq]
    exact h
  · rw [heq]
    refine h.grows (.of_fewer fun other b hb =>
      (room_sane h hb).1) rfl ?_ (size_room_le h order key)
    exact fun other b hb => (room_sane h hb).2
  · rw [heq]
    have hbucket := bucketOf_sane h order key s.now
    have hgrown := bucketOf_cases h order key
    obtain ⟨hsane, hstart, -, hepoch, hcount, -⟩ := hbucket.check s.now
    refine h.grows ?_ rfl ?_ (size_insert_le h hroom _)
    · intro other b' hb'
      obtain ⟨rfl, rfl⟩ | ⟨-, hb'⟩ := insert_cases hb'
      · rcases hgrown with hnone | hold
        · exact .inl (hepoch.trans hnone)
        · exact .inr ⟨_, hold, hepoch.symm, hstart.symm, hcount⟩
      · exact .inr ⟨b', (room_sane h hb').1, rfl, rfl, Nat.le_refl _⟩
    · intro other b' hb'
      obtain ⟨-, rfl⟩ | ⟨-, hb'⟩ := insert_cases hb'
      · exact hsane
      · exact (room_sane h hb').2

theorem Limiter.Sane.overflow (h : s.Sane tier) (overflow : Bucket) :
    Limiter.Sane tier { s with overflow := overflow } :=
  ⟨h.buckets, h.small, h.pending⟩

theorem Limiter.Sane.after (h : s.Sane tier) (elapsed : ℕ) : (s.after elapsed).Sane tier :=
  ⟨h.buckets, h.small, h.pending⟩

theorem evict_sane (h : s.Sane tier) (order : List K) (target : ℕ) :
    Limiter.Sane tier { s with buckets := evictCheapest order s.buckets target tier.max } := by
  have hfewer : ∀ key b, (evictCheapest order s.buckets target tier.max).lookup key = some b →
      s.buckets.lookup key = some b := by
    intro key b hb
    rcases lookup_evictCheapest order s.buckets target tier.max key with hsame | ⟨hnone, -⟩
    · rw [← hsame, hb]
    · rw [hnone] at hb
      cases hb
  refine h.grows (.of_fewer hfewer) rfl ?_ ((size_evictCheapest_le ..).trans h.small)
  exact fun key b hb => h.buckets key b (hfewer key b hb)

theorem lookup_snapshot (tier : Tier) (order : List K) (epoch : ℤ) (s : Limiter K) (key : K) :
    (s.snapshot tier order epoch).buckets.lookup key =
      (s.buckets.lookup key).map fun b =>
        if key ∈ s.reported tier order then b.turn epoch else b :=
  lookup_update ..

theorem mem_pending
    {keys : List K} {buckets : Table K Bucket}
    (h : p ∈ Limiter.pending keys buckets) :
    p.key ∈ keys ∧ ∃ b, buckets.lookup p.key = some b ∧
      p.delta = wrappingSub b.count b.pushed ∧ p.counted = b.count ∧
      p.windowStart = b.windowStart := by
  obtain ⟨key, hkey, hp⟩ := List.mem_filterMap.mp h
  obtain ⟨b, hb, rfl⟩ := Option.map_eq_some_iff.mp hp
  exact ⟨hkey, b, hb, rfl, rfl, rfl⟩

theorem snapshot_sane (h : s.Sane tier) (order : List K) (epoch : ℤ) :
    (s.snapshot tier order epoch).Sane tier := by
  refine ⟨?_, ?_, ?_⟩
  · intro key b hb
    rw [lookup_snapshot] at hb
    obtain ⟨b, hrow, rfl⟩ := Option.map_eq_some_iff.mp hb
    split
    · exact (h.buckets key b hrow).turn epoch
    · exact h.buckets key b hrow
  · exact (size_update ..).trans_le h.small
  · intro round hround p hp b hb _ _
    unfold Limiter.snapshot at hround
    simp only at hround
    split at hround
    · cases hround
    · cases hround
      obtain ⟨-, b', hb', -, hcounted, -⟩ := mem_pending hp
      change (Table.update s.buckets _).lookup p.key = some b at hb
      rw [hb] at hb'
      cases hb'
      exact hcounted.le

theorem lookup_settle
    {totals : K → Option ℤ} {buckets : Table K Bucket}
    (h : (Limiter.settle epoch totals buckets p).lookup other = some b') :
    ∃ b, buckets.lookup other = some b ∧ b'.count = b.count ∧ b'.windowStart = b.windowStart ∧
      b'.epoch = b.epoch ∧
      (b'.pushed = b.pushed ∨
        (other = p.key ∧ b.epoch = some epoch ∧ b.windowStart = p.windowStart ∧
          b'.pushed = p.counted)) := by
  unfold Limiter.settle at h
  split at h
  · next total b htotal hb =>
    split at h
    · next hsame =>
      obtain ⟨rfl, rfl⟩ | ⟨-, h⟩ := insert_cases h
      · exact ⟨b, hb, rfl, rfl, rfl, .inr ⟨rfl, hsame.1, hsame.2, rfl⟩⟩
      · exact ⟨b', h, rfl, rfl, rfl, .inl rfl⟩
    · exact ⟨b', h, rfl, rfl, rfl, .inl rfl⟩
  · exact ⟨b', h, rfl, rfl, rfl, .inl rfl⟩

theorem size_settle (epoch : ℤ) (totals : K → Option ℤ) (buckets : Table K Bucket) (p : Pending K) :
    size (Limiter.settle epoch totals buckets p) = size buckets := by
  unfold Limiter.settle
  split
  · next total b htotal hb =>
    split
    · rw [size_insert, if_pos (AList.lookup_isSome.mp (by rw [hb]; rfl))]
    · rfl
  · rfl

theorem settle_sane
    (totals : K → Option ℤ) (h : s.Sane tier) (hp : p.Sane s epoch) :
    ∀ key b, (Limiter.settle epoch totals s.buckets p).lookup key = some b → b.Sane tier := by
  intro key b' hb'
  obtain ⟨b, hb, hcount, -, -, hpushed⟩ := lookup_settle hb'
  have hsane := h.buckets key b hb
  refine ⟨?_, hcount ▸ hsane.count⟩
  rcases hpushed with hold | ⟨rfl, hepoch, hstart, hnew⟩
  · rw [hold, hcount]
    exact hsane.pushed
  · rw [hnew, hcount]
    exact hp b hb hepoch hstart

/-- The answers come in one by one. -/
theorem settles_sane
    (totals : K → Option ℤ) {pending : List (Pending K)} (h : s.Sane tier)
    (hpending : ∀ p ∈ pending, p.Sane s epoch) :
    (∀ key b, (pending.foldl (Limiter.settle epoch totals) s.buckets).lookup key = some b →
      b.Sane tier) ∧
      size (pending.foldl (Limiter.settle epoch totals) s.buckets) = size s.buckets := by
  induction pending generalizing s with
  | nil => exact ⟨h.buckets, rfl⟩
  | cons p pending ih =>
      have hp := hpending p (List.mem_cons_self ..)
      have hgrows : s.Grows { s with buckets := Limiter.settle epoch totals s.buckets p } := by
        intro key b' hb'
        obtain ⟨b, hb, hcount, hstart, hepoch, -⟩ := lookup_settle hb'
        exact .inr ⟨b, hb, hepoch.symm, hstart.symm, hcount.ge⟩
      have hnext : Limiter.Sane tier
          { s with buckets := Limiter.settle epoch totals s.buckets p } :=
        h.grows hgrows rfl (settle_sane totals h hp) ((size_settle ..).trans_le h.small)
      obtain ⟨hbuckets, hsize⟩ :=
        ih hnext fun q hq => hgrows.pending (hpending q (List.mem_cons_of_mem _ hq))
      exact ⟨hbuckets, hsize.trans (size_settle ..)⟩

theorem land_sane (h : s.Sane tier) (totals : Option (K → Option ℤ)) :
    (s.land totals).Sane tier := by
  unfold Limiter.land
  split
  · next round totals hround =>
    obtain ⟨hbuckets, hsize⟩ := settles_sane totals h (h.pending round hround)
    exact ⟨hbuckets, hsize.trans_le h.small, nofun⟩
  · exact ⟨h.buckets, h.small, nofun⟩

theorem step_sane (h : s.Sane tier) (op : Op K) : (step tier op s).Sane tier := by
  cases op with
  | check elapsed order key => exact checkKey_sane (h.after elapsed) order key
  | checkOverflow elapsed => exact (h.after elapsed).overflow _
  | evict order target => exact evict_sane h order target
  | snapshot elapsed order epoch =>
      simp only [step]
      split
      · exact h
      · exact snapshot_sane (h.after elapsed) order epoch
  | land totals => exact land_sane h totals

theorem new_sane (tier : Tier) (now : ℕ) : (Limiter.new now : Limiter K).Sane tier := by
  refine ⟨?_, Nat.zero_le _, nofun⟩
  intro key b hb
  cases hb

theorem run_sane (tier : Tier) (now : ℕ) (ops : List (Op K)) :
    (run (step tier) (.new now) ops).Sane tier :=
  run_invariant (fun _ op h => step_sane h op) (new_sane tier now)

theorem room_spares
    {b : Bucket} (hb : s.buckets.lookup other = some b) (hfull : tier.max ≤ b.count)
    (hlive : b.lapsed tier s.now = false) : (s.room tier order key).lookup other = some b := by
  rcases lookup_room tier order s key other with hsame | ⟨-, b', hb', hdropped⟩
  · rw [hsame, hb]
  · rw [hb] at hb'
    cases hb'
    have hspent := count_le_spent b
    rcases hdropped with hlapsed | hcheap
    · rw [hlive] at hlapsed
      cases hlapsed
    · omega

theorem checkKey_now (tier : Tier) (order : List K) (s : Limiter K) (key : K) :
    (s.checkKey tier order key).2.now = s.now := by
  rcases checkKey_cases tier order s key with ⟨-, heq⟩ | ⟨-, -, overflow, heq⟩ | ⟨-, -, heq⟩
  all_goals rw [heq]

theorem checkKey_spares
    {b : Bucket} (h : s.Sane tier) (hb : s.buckets.lookup other = some b)
    (hfull : tier.max ≤ b.count) (hlive : b.lapsed tier s.now = false) :
    ∃ b', (s.checkKey tier order key).2.buckets.lookup other = some b' ∧
      b'.windowStart = b.windowStart ∧ b.count ≤ b'.count := by
  have hroom : (s.room tier order key).lookup other = some b := room_spares hb hfull hlive
  rcases checkKey_cases tier order s key with ⟨-, heq⟩ | ⟨-, -, overflow, heq⟩ | ⟨-, -, heq⟩
  · rw [heq]
    exact ⟨b, hb, rfl, Nat.le_refl _⟩
  · rw [heq]
    exact ⟨b, hroom, rfl, Nat.le_refl _⟩
  · rw [heq]
    simp only [lookup_insert_eq]
    split
    · next hkey =>
      subst hkey
      have hbucket : bucketOf tier s.now (s.room tier order other) other = b := by
        unfold bucketOf Bucket.current
        rw [hroom, Option.getD_some, hlive]
        rfl
      obtain ⟨-, hstart, -, -, hcount, -⟩ := (h.buckets other b hb).check s.now
      rw [hbucket]
      exact ⟨_, rfl, hstart, hcount⟩
    · exact ⟨b, hroom, rfl, Nat.le_refl _⟩

theorem settles_spares
    (totals : K → Option ℤ) (pending : List (Pending K)) {buckets : Table K Bucket} {b : Bucket}
    (hb : buckets.lookup key = some b) :
    ∃ b', (pending.foldl (Limiter.settle epoch totals) buckets).lookup key = some b' ∧
      b'.windowStart = b.windowStart ∧ b.count ≤ b'.count := by
  induction pending generalizing buckets b with
  | nil => exact ⟨b, hb, rfl, Nat.le_refl _⟩
  | cons p pending ih =>
      obtain ⟨b', hb'⟩ : ∃ b', (Limiter.settle epoch totals buckets p).lookup key = some b' := by
        unfold Limiter.settle
        split
        · split
          · rw [lookup_insert_eq]
            split
            · exact ⟨_, rfl⟩
            · exact ⟨b, hb⟩
          · exact ⟨b, hb⟩
        · exact ⟨b, hb⟩
      obtain ⟨old, hold, hcount, hstart, -, -⟩ := lookup_settle hb'
      rw [hb] at hold
      cases hold
      obtain ⟨last, hlast, hlastStart, hlastCount⟩ := ih hb'
      exact ⟨last, hlast, hlastStart.trans hstart, hcount ▸ hlastCount⟩

theorem step_spares
    {b : Bucket} (h : s.Sane tier) (op : Op K) (hb : s.buckets.lookup key = some b)
    (hfull : tier.max ≤ b.count) (hlive : b.lapsed tier (step tier op s).now = false) :
    ∃ b', (step tier op s).buckets.lookup key = some b' ∧ b'.windowStart = b.windowStart ∧
      b.count ≤ b'.count := by
  cases op with
  | check elapsed =>
      simp only [step] at hlive ⊢
      rw [checkKey_now] at hlive
      exact checkKey_spares (h.after elapsed) hb hfull hlive
  | checkOverflow => exact ⟨b, hb, rfl, Nat.le_refl _⟩
  | evict order target =>
      rcases lookup_evictCheapest order s.buckets target tier.max key with hsame
        | ⟨-, b', hb', hspent⟩
      · exact ⟨b, hsame.trans hb, rfl, Nat.le_refl _⟩
      · rw [hb] at hb'
        cases hb'
        have hle := count_le_spent b
        omega
  | snapshot elapsed order epoch =>
      simp only [step]
      split
      · exact ⟨b, hb, rfl, Nat.le_refl _⟩
      · rw [lookup_snapshot]
        change ∃ b', (s.buckets.lookup key).map _ = some b' ∧ _
        rw [hb]
        refine ⟨_, rfl, ?_⟩
        split
        · obtain ⟨hcount, hstart, -⟩ := b.turn_count epoch
          exact ⟨hstart, hcount.ge⟩
        · exact ⟨rfl, Nat.le_refl _⟩
  | land =>
      simp only [step, Limiter.land]
      split
      · exact settles_spares _ _ hb
      · exact ⟨b, hb, rfl, Nat.le_refl _⟩

end Steps

/-! ## Admissions -/

inductive Event (K : Type) where
  | opened (key : K)
  | admitted (key : K)
  deriving DecidableEq

section Admissions

variable {K : Type} [DecidableEq K] {tier : Tier} {key : K}

def Limiter.opens (tier : Tier) (order : List K) (s : Limiter K) (key : K) : Bool :=
  ((s.room tier order key).lookup key).all fun b => b.lapsed tier s.now

def events (tier : Tier) (s : Limiter K) : Op K → List (Event K)
  | .check elapsed order key =>
      let s := s.after elapsed
      if tier.max = 0 ∨ s.saturated tier order key then []
      else
        (if s.opens tier order key then [.opened key] else []) ++
          if (s.checkKey tier order key).1.isOk then [.admitted key] else []
  | _ => []

def tally (key : K) (n : ℕ) : Event K → ℕ
  | .opened other => if other = key then 0 else n
  | .admitted other => if other = key then n + 1 else n

/-- In a stretch of events that opens no bucket of the key the tally counts its admissions. -/
theorem tally_stretch
    {stretch : List (Event K)} (h : Event.opened key ∉ stretch) (n : ℕ) :
    stretch.foldl (tally key) n = n + stretch.count (.admitted key) := by
  induction stretch generalizing n with
  | nil => rfl
  | cons e stretch ih =>
      have hrest : Event.opened key ∉ stretch := fun hmem => h (List.mem_cons_of_mem _ hmem)
      rw [List.foldl_cons, ih hrest, List.count_cons]
      cases e with
      | opened other =>
          have hne : other ≠ key := by
            rintro rfl
            exact h (List.mem_cons_self ..)
          simp [tally, hne]
      | admitted other =>
          by_cases hother : other = key
          · simp [tally, hother]
            omega
          · simp [tally, hother]

def Tallied (tier : Tier) (key : K) (seen : List (Event K)) : Prop :=
  ∀ before, before <+: seen → before.foldl (tally key) 0 ≤ tier.max

theorem Tallied.snoc
    {seen : List (Event K)} {e : Event K} (h : Tallied tier key seen)
    (hlast : tally key (seen.foldl (tally key) 0) e ≤ tier.max) :
      Tallied tier key (seen ++ [e]) := by
  intro before hbefore
  rcases List.prefix_concat_iff.mp hbefore with rfl | hold
  · rw [List.foldl_append]
    exact hlast
  · exact h before hold

structure Tracks (tier : Tier) (key : K) (s : Limiter K) (seen : List (Event K)) : Prop where
  sane : s.Sane tier
  tallied : Tallied tier key seen
  count : ∀ b, s.buckets.lookup key = some b → seen.foldl (tally key) 0 = b.count

theorem Tracks.quiet
    {s s' : Limiter K} {seen : List (Event K)} (h : Tracks tier key s seen) (hsane : s'.Sane tier)
    (hcounts : ∀ b', s'.buckets.lookup key = some b' →
      ∃ b, s.buckets.lookup key = some b ∧ b'.count = b.count) : Tracks tier key s' seen := by
  refine ⟨hsane, h.tallied, fun b' hb' => ?_⟩
  obtain ⟨b, hb, hcount⟩ := hcounts b' hb'
  rw [h.count b hb, hcount]

theorem bucketOf_count
    {s : Limiter K} {seen : List (Event K)} (h : Tracks tier key s seen) (order : List K) :
    (bucketOf tier s.now (s.room tier order key) key).count =
      if s.opens tier order key then 0 else seen.foldl (tally key) 0 := by
  unfold bucketOf Limiter.opens Bucket.current
  cases hrow : (s.room tier order key).lookup key with
  | none =>
      simp only [Option.getD_none, Option.all_none, if_true]
      split <;> rfl
  | some b =>
      simp only [Option.getD_some, Option.all_some]
      split
      · rfl
      · exact (h.count b (room_sane h.sane hrow).1).symm

theorem Tracks.check
    {s : Limiter K} {seen : List (Event K)} (h : Tracks tier key s seen) (order : List K)
    (hmax : tier.max ≠ 0) (hroom : s.saturated tier order key = false) :
    Tracks tier key (s.checkKey tier order key).2
      (seen ++ ((if s.opens tier order key then [.opened key] else []) ++
        if (s.checkKey tier order key).1.isOk then [.admitted key] else [])) := by
  have hsane := checkKey_sane h.sane order key
  have hcount := bucketOf_count h order
  rcases checkKey_cases tier order s key with ⟨hzero, -⟩ | ⟨-, hfull, -⟩ | ⟨-, -, heq⟩
  · exact absurd hzero hmax
  · rw [hroom] at hfull
    cases hfull
  · obtain ⟨hafter, -, -, -, -, hcounted⟩ := (bucketOf_sane h.sane order key s.now).check s.now
    have hle := hafter.count
    generalize bucketOf tier s.now (s.room tier order key) key = b at heq hcount hafter hcounted hle
    rw [heq] at hsane ⊢
    simp only at hsane ⊢
    -- the tally behind the opening is the count that the request finds
    have hopened : Tallied tier key
          (seen ++ if s.opens tier order key then [.opened key] else []) ∧
        (seen ++ if s.opens tier order key then [Event.opened key] else []).foldl (tally key) 0 =
          b.count := by
      rw [hcount]
      split
      · refine ⟨h.tallied.snoc ?_, ?_⟩
        · simp [tally]
        · simp [tally, List.foldl_append]
      · rw [List.append_nil]
        exact ⟨h.tallied, rfl⟩
    rw [← List.append_assoc]
    generalize (seen ++ if s.opens tier order key then [Event.opened key] else []) =
      opened at hopened
    obtain ⟨htallied, hfound⟩ := hopened
    refine ⟨hsane, ?_, ?_⟩
    · split
      · next hok =>
        rw [if_pos hok] at hcounted
        refine htallied.snoc ?_
        simp only [tally, if_true]
        omega
      · rw [List.append_nil]
        exact htallied
    · intro b' hb'
      rw [AList.lookup_insert] at hb'
      cases hb'
      rw [hcounted]
      split
      · simp [List.foldl_append, tally, hfound]
      · rw [List.append_nil, Nat.add_zero, hfound]

/-- The requests of other keys leave the count of a bucket. -/
theorem checkKey_count
    {s : Limiter K} {order : List K} {other : K} (h : s.Sane tier)
    (hother : key ≠ other ∨ s.saturated tier order other = true ∨ tier.max = 0)
    (hb' : (s.checkKey tier order other).2.buckets.lookup key = some b') :
    ∃ b, s.buckets.lookup key = some b ∧ b'.count = b.count := by
  rcases checkKey_cases tier order s other with ⟨-, heq⟩ | ⟨-, -, overflow, heq⟩
    | ⟨hmax, hroom, heq⟩
  · rw [heq] at hb'
    exact ⟨b', hb', rfl⟩
  · rw [heq] at hb'
    exact ⟨b', (room_sane h hb').1, rfl⟩
  · rw [heq] at hb'
    simp only [lookup_insert_eq] at hb'
    split at hb'
    · next hkey =>
      rcases hother with hne | hfull | hzero
      · exact absurd hkey hne
      · rw [hroom] at hfull
        cases hfull
      · exact absurd hzero hmax
    · exact ⟨b', (room_sane h hb').1, rfl⟩

theorem settles_count
    {totals : K → Option ℤ} {pending : List (Pending K)} {buckets : Table K Bucket}
    (hb' : (pending.foldl (Limiter.settle epoch totals) buckets).lookup key = some b') :
    ∃ b, buckets.lookup key = some b ∧ b'.count = b.count := by
  induction pending generalizing buckets with
  | nil => exact ⟨b', hb', rfl⟩
  | cons p pending ih =>
      obtain ⟨b, hb, hcount⟩ := ih hb'
      obtain ⟨old, hold, hsame, -⟩ := lookup_settle hb
      exact ⟨old, hold, hcount.trans hsame⟩

/-- The events of another key do not count. -/
theorem Tracks.others
    {s s' : Limiter K} {seen new : List (Event K)} (h : Tracks tier key s seen)
    (hsane : s'.Sane tier)
    (hcounts : ∀ b', s'.buckets.lookup key = some b' →
      ∃ b, s.buckets.lookup key = some b ∧ b'.count = b.count)
    (hnew : ∀ e ∈ new, ∀ n, tally key n e = n) : Tracks tier key s' (seen ++ new) := by
  induction new using List.reverseRecOn with
  | nil =>
      rw [List.append_nil]
      exact h.quiet hsane hcounts
  | append_singleton new e ih =>
      have hrest := ih fun e' he' => hnew e' (List.mem_append_left _ he')
      have he := hnew e (List.mem_append_right _ (List.mem_singleton_self e))
      rw [← List.append_assoc]
      refine ⟨hsane, hrest.tallied.snoc ?_, fun b hb => ?_⟩
      · rw [he]
        exact hrest.tallied _ List.prefix_rfl
      · rw [List.foldl_append, List.foldl_cons, List.foldl_nil, he]
        exact hrest.count b hb

theorem Tracks.request
    {s : Limiter K} {seen : List (Event K)} (h : Tracks tier key s seen) (order : List K)
    (other : K) :
    Tracks tier key (s.checkKey tier order other).2
      (seen ++
        if tier.max = 0 ∨ s.saturated tier order other = true then []
        else
          (if s.opens tier order other then [.opened other] else []) ++
            if (s.checkKey tier order other).1.isOk then [.admitted other] else []) := by
  have hsane := checkKey_sane h.sane order other
  split
  · next hunmetered =>
    rw [List.append_nil]
    refine h.quiet hsane fun b' hb' => checkKey_count h.sane ?_ hb'
    rcases hunmetered with hzero | hfull
    · exact .inr (.inr hzero)
    · exact .inr (.inl hfull)
  · next hmetered =>
    rw [not_or, Bool.not_eq_true] at hmetered
    by_cases hkey : key = other
    · subst hkey
      exact h.check order hmetered.1 hmetered.2
    · refine h.others hsane (fun b' hb' => checkKey_count h.sane (.inl hkey) hb') ?_
      intro e he n
      rcases List.mem_append.mp he with hopened | hadmitted
      · split at hopened
        · rw [List.mem_singleton.mp hopened]
          simp [tally, Ne.symm hkey]
        · cases hopened
      · split at hadmitted
        · rw [List.mem_singleton.mp hadmitted]
          simp [tally, Ne.symm hkey]
        · cases hadmitted

theorem Tracks.step
    {s : Limiter K} {seen : List (Event K)} (h : Tracks tier key s seen) (op : Op K) :
    Tracks tier key (step tier op s) (seen ++ events tier s op) := by
  have hsane := step_sane h.sane op
  have hquiet : ∀ (s' : Limiter K), s'.Sane tier → (∀ b', s'.buckets.lookup key = some b' →
      ∃ b, s.buckets.lookup key = some b ∧ b'.count = b.count) →
      Tracks tier key s' (seen ++ []) := by
    intro s' hs' hcounts
    rw [List.append_nil]
    exact h.quiet hs' hcounts
  cases op with
  | check elapsed order other =>
      have hafter : Tracks tier key (s.after elapsed) seen :=
        ⟨h.sane.after elapsed, h.tallied, h.count⟩
      exact hafter.request order other
  | checkOverflow => exact hquiet _ hsane fun b' hb' => ⟨b', hb', rfl⟩
  | evict order target =>
      refine hquiet _ hsane fun b' hb' => ?_
      rcases lookup_evictCheapest order s.buckets target tier.max key with hsame | ⟨hnone, -⟩
      · exact ⟨b', hsame.symm.trans hb', rfl⟩
      · have habsent := hnone.symm.trans hb'
        cases habsent
  | snapshot elapsed order epoch =>
      refine hquiet _ hsane fun b' hb' => ?_
      simp only [RateLimit.step] at hb'
      split at hb'
      · exact ⟨b', hb', rfl⟩
      · rw [lookup_snapshot] at hb'
        obtain ⟨b, hb, rfl⟩ := Option.map_eq_some_iff.mp hb'
        refine ⟨b, hb, ?_⟩
        split
        · exact (b.turn_count epoch).1
        · rfl
  | land =>
      refine hquiet _ hsane fun b' hb' => ?_
      simp only [RateLimit.step, Limiter.land] at hb'
      split at hb'
      · exact settles_count hb'
      · exact ⟨b', hb', rfl⟩

theorem tracks_run (tier : Tier) (now : ℕ) (ops : List (Op K)) (key : K) :
    Tracks tier key (run (step tier) (.new now) ops)
      (observe (step tier) (events tier) (.new now) ops) := by
  have hstart : Tracks tier key (.new now) [] := by
    refine ⟨new_sane tier now, ?_, ?_⟩
    · intro before hbefore
      rw [List.prefix_nil.mp hbefore]
      exact Nat.zero_le _
    · intro b hb
      cases hb
  exact observe_induction (J := Tracks tier key) (fun s op seen _ h => h.step op)
    (meets_true _ ops) hstart

/-- No stretch of a run in which the bucket of a key is not opened admits the key more often
than the tier allows. -/
theorem admissions_le
    {now : ℕ} {ops : List (Op K)} {before stretch after : List (Event K)}
    (hsplit : observe (step tier) (events tier) (.new now) ops = before ++ stretch ++ after)
    (hstretch : Event.opened key ∉ stretch) : stretch.count (.admitted key) ≤ tier.max := by
  have htallied := (tracks_run tier now ops key).tallied (before ++ stretch)
    (hsplit ▸ List.prefix_append _ after)
  rw [List.foldl_append, tally_stretch hstretch] at htallied
  omega

/-- The counters stay in order, the map under its cap, an exhausted bucket in its place until
its window ends, and a window of a bucket admits at most `max`. -/
theorem limiter_bounds (tier : Tier) (now : ℕ) (ops : List (Op K)) :
    let s := run (step tier) (.new now) ops
    (∀ key b, s.buckets.lookup key = some b → b.pushed ≤ b.count) ∧
    size s.buckets ≤ purgeAt ∧
    (∀ op key b, s.buckets.lookup key = some b → tier.max ≤ b.count →
      b.lapsed tier (step tier op s).now = false →
      ∃ b', (step tier op s).buckets.lookup key = some b' ∧ b'.windowStart = b.windowStart ∧
        b.count ≤ b'.count) ∧
    (∀ key before stretch after,
      observe (step tier) (events tier) (.new now) ops = before ++ stretch ++ after →
      Event.opened key ∉ stretch → stretch.count (.admitted key) ≤ tier.max) := by
  have hsane := run_sane tier now ops
  refine ⟨fun key b hb => (hsane.buckets key b hb).pushed, hsane.small, ?_, ?_⟩
  · exact fun op key b hb hfull hlive => step_spares hsane op hb hfull hlive
  · exact fun key before stretch after hsplit hstretch => admissions_le hsplit hstretch

end Admissions

end Hezarfen.RateLimit
