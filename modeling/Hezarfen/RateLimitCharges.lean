import Mathlib.Algebra.BigOperators.Group.List.Basic
import Hezarfen.RateLimitBounds

/-!
# What the shared rows are charged

Every admit of a bucket is charged to a shared row, is still to be reported, or is forfeited.
A bucket forfeits what it has not reported when it is dropped, when it is opened again, and
when a round finds that it last reported to another epoch.
-/

namespace Hezarfen.RateLimit

open Sequential

variable {K : Type} [DecidableEq K]

variable {totals : Option (K → Option ℤ)} {round : Round K} {b : Bucket} {p : Pending K}
  {s' : Limiter K} {order : List K} {epoch : ℤ} {buckets : Table K Bucket}

def Round.reports (round : Round K) (key : K) (b : Bucket) : Option (Pending K) :=
  round.pending.find? fun p =>
    decide (p.key = key) &&
      (decide (b.epoch = some round.epoch) && decide (b.windowStart = p.windowStart))

def Limiter.accounted (s : Limiter K) (key : K) (b : Bucket) : ℕ :=
  match s.round.bind fun round => round.reports key b with
  | some p => p.counted
  | none => b.pushed

def Limiter.unreported (s : Limiter K) (key : K) : ℕ :=
  (s.buckets.lookup key).elim 0 fun b => b.count - s.accounted key b

def Round.pushes (round : Round K) (key : K) : List (ℤ × ℕ) :=
  (round.pending.filter fun p => p.key = key).map fun p => (round.epoch, p.delta)

def Limiter.inFlight (s : Limiter K) (key : K) : ℕ :=
  s.round.elim 0 fun round => ((round.pushes key).map Prod.snd).sum

/-- The admits of the bucket of the key. -/
def admits (tier : Tier) (key : K) (s : Limiter K) (op : Op K) : List (Event K) :=
  (events tier s op).filter fun e => e = .admitted key

def pushes (key : K) (s : Limiter K) : Op K → List (ℤ × ℕ)
  | .land (some _) => s.round.elim [] fun round => round.pushes key
  | _ => []

def forfeits (tier : Tier) (key : K) (s : Limiter K) : Op K → Bool
  | .check elapsed order other =>
      let s := s.after elapsed
      decide (tier.max ≠ 0) &&
        (((s.room tier order other).lookup key).isNone ||
          (decide (other = key) && !s.saturated tier order key && s.opens tier order key))
  | .evict order target => ((evictCheapest order s.buckets target tier.max).lookup key).isNone
  | .snapshot elapsed order epoch =>
      s.round.isNone && decide (key ∈ (s.after elapsed).reported tier order) &&
        (s.buckets.lookup key).any fun b => b.epoch.any fun old => old ≠ epoch
  | _ => false

def Answered (s : Limiter K) : Op K → Prop
  | .land totals =>
      (s.round.all fun round =>
        totals.any fun rows => round.pending.all fun p => (rows p.key).isSome) = true
  | _ => True

instance (s : Limiter K) : ∀ op, Decidable (Answered s op)
  | .land _ => inferInstanceAs (Decidable (_ = true))
  | .check .. | .checkOverflow .. | .evict .. | .snapshot .. => isTrue trivial

theorem Answered.rows
    {s : Limiter K} (h : Answered s (.land totals)) (hround : s.round = some round) :
    ∃ rows, totals = some rows ∧ ∀ p ∈ round.pending, (rows p.key).isSome = true := by
  simp only [Answered, hround, Option.all_some] at h
  obtain ⟨rows, htotals, hrows⟩ := (Option.any_eq_true _ _).mp h
  exact ⟨rows, htotals, List.all_eq_true.mp hrows⟩

section Step

variable {tier : Tier} {s : Limiter K} {key : K}

def Limiter.Distinct (s : Limiter K) : Prop :=
  ∀ round, s.round = some round → (round.pending.map Pending.key).Nodup

theorem Limiter.unreported_of_none (h : s.buckets.lookup key = none) : s.unreported key = 0 := by
  unfold Limiter.unreported
  rw [h]
  rfl

theorem Limiter.unreported_of_some (h : s.buckets.lookup key = some b) :
    s.unreported key = b.count - s.accounted key b := by
  unfold Limiter.unreported
  rw [h]
  rfl

theorem reports_eq_some
    (h : round.reports key b = some p) :
    p ∈ round.pending ∧ p.key = key ∧ b.epoch = some round.epoch ∧
      b.windowStart = p.windowStart := by
  unfold Round.reports at h
  have hp := List.find?_some h
  simp only [Bool.and_eq_true, decide_eq_true_eq] at hp
  exact ⟨List.mem_of_find?_eq_some h, hp.1, hp.2.1, hp.2.2⟩

/-- A bucket that no sync has seen is in no report. -/
theorem accounted_of_fresh (h : b.epoch = none) : s.accounted key b = b.pushed := by
  unfold Limiter.accounted
  split
  · next p hp =>
    obtain ⟨round, -, hreports⟩ := Option.bind_eq_some_iff.mp hp
    rw [(reports_eq_some hreports).2.2.1] at h
    cases h
  · rfl

theorem accounted_of_idle (h : s.round = none) : s.accounted key b = b.pushed := by
  unfold Limiter.accounted
  rw [h]
  rfl

/-- What is accounted for has been counted. -/
theorem accounted_le (h : s.Sane tier) (hb : s.buckets.lookup key = some b) :
    s.accounted key b ≤ b.count := by
  unfold Limiter.accounted
  split
  · next p hp =>
    obtain ⟨round, hround, hreports⟩ := Option.bind_eq_some_iff.mp hp
    obtain ⟨hmem, rfl, hepoch, hstart⟩ := reports_eq_some hreports
    exact h.pending round hround p hmem b hb hepoch hstart
  · exact (h.buckets key b hb).pushed

theorem accounted_congr
    {b' : Bucket} (hround : s'.round = s.round) (hepoch : b'.epoch = b.epoch)
    (hstart : b'.windowStart = b.windowStart) (hpushed : b'.pushed = b.pushed) :
    s'.accounted key b' = s.accounted key b := by
  unfold Limiter.accounted Round.reports
  rw [hround, hepoch, hstart, hpushed]

/-- The law of a step: what is owed before it and what it admits is pushed, forfeited or owed
after it. -/
def Balanced (tier : Tier) (key : K) (s : Limiter K) (op : Op K) : Prop :=
  s.inFlight key + s.unreported key + (admits tier key s op).length =
    ((pushes key s op).map Prod.snd).sum +
      (if forfeits tier key s op then s.unreported key else 0) +
      ((step tier op s).inFlight key + (step tier op s).unreported key)

/-- A step that admits, pushes and forfeits nothing. -/
theorem Balanced.quiet
    {op : Op K} (hadmits : admits tier key s op = []) (hpushes : pushes key s op = [])
    (hforfeits : forfeits tier key s op = false)
    (hsame : (step tier op s).inFlight key = s.inFlight key ∧
      (step tier op s).unreported key = s.unreported key) : Balanced tier key s op := by
  unfold Balanced
  rw [hadmits, hpushes, hforfeits, hsame.1, hsame.2]
  simp

theorem length_admits
    (elapsed : ℕ) (order : List K) (other : K) :
    (admits tier key s (.check elapsed order other)).length =
      if other = key ∧ tier.max ≠ 0 ∧ (s.after elapsed).saturated tier order other = false ∧
          ((s.after elapsed).checkKey tier order other).1.isOk = true then 1
      else 0 := by
  have hopened : (List.filter (fun e => decide (e = Event.admitted key))
      (if (s.after elapsed).opens tier order other then [Event.opened other] else [])) = [] := by
    split <;> simp
  unfold admits events
  simp only
  cases hok : ((s.after elapsed).checkKey tier order other).1.isOk <;>
    by_cases hkey : other = key <;>
    cases (s.after elapsed).saturated tier order other <;>
    by_cases hmax : tier.max = 0 <;>
    simp [hkey, hmax, hopened]

/-- What a map that has lost some buckets owes. -/
theorem room_unreported
    (order : List K) (other : K) (hround : s'.round = s.round)
    (hlookup : s'.buckets.lookup key = (s.room tier order other).lookup key) :
    s'.unreported key =
      if ((s.room tier order other).lookup key).isNone then 0 else s.unreported key := by
  cases hrow : (s.room tier order other).lookup key with
  | none => exact s'.unreported_of_none (hlookup.trans hrow)
  | some b =>
      have hold : s.buckets.lookup key = some b := by
        rcases lookup_room tier order s other key with hsame | ⟨hnone, -⟩
        · exact hsame.symm.trans hrow
        · rw [hrow] at hnone
          cases hnone
      rw [s'.unreported_of_some (hlookup.trans hrow), s.unreported_of_some hold,
        accounted_congr hround rfl rfl rfl]
      rfl

theorem inFlight_congr (h : s'.round = s.round) :
    s'.inFlight key = s.inFlight key := by
  unfold Limiter.inFlight
  rw [h]

theorem request_opened
    (h : s.Sane tier) (order : List K) (hopens : s.opens tier order key = true) :
    let found := bucketOf tier s.now (s.room tier order key) key
    let after := (found.check tier s.now Bucket.spent tier.max).2
    after.epoch = none ∧ after.pushed = 0 ∧
      after.count = if (found.check tier s.now Bucket.spent tier.max).1.isOk then 1 else 0 := by
  have hfound : bucketOf tier s.now (s.room tier order key) key = .openedAt s.now := by
    unfold bucketOf Bucket.current
    unfold Limiter.opens at hopens
    cases hrow : (s.room tier order key).lookup key with
    | none =>
        rw [Option.getD_none]
        split <;> rfl
    | some =>
        rw [hrow, Option.all_some] at hopens
        rw [Option.getD_some, if_pos hopens]
  obtain ⟨-, -, hpushed, hepoch, -, hcount⟩ := (bucketOf_sane h order key s.now).check s.now
  rw [hfound] at hpushed hepoch hcount ⊢
  refine ⟨hepoch, hpushed, ?_⟩
  rw [hcount]
  exact Nat.zero_add _

theorem request_kept
    (h : s.Sane tier) (order : List K) (hopens : s.opens tier order key = false) :
    ∃ b, s.buckets.lookup key = some b ∧ (s.room tier order key).lookup key = some b ∧
      bucketOf tier s.now (s.room tier order key) key = b := by
  unfold Limiter.opens at hopens
  cases hrow : (s.room tier order key).lookup key with
  | none =>
      rw [hrow] at hopens
      cases hopens
  | some b =>
      rw [hrow, Option.all_some] at hopens
      refine ⟨b, (room_sane h hrow).1, rfl, ?_⟩
      unfold bucketOf Bucket.current
      rw [hrow, Option.getD_some, hopens]
      rfl

/-- The balance of a request for the key itself. -/
theorem own_request_balanced
    (h : s.Sane tier) (order : List K) (hmax : tier.max ≠ 0)
    (hroom : s.saturated tier order key = false) :
    s.unreported key + (if (s.checkKey tier order key).1.isOk then 1 else 0) =
      (if s.opens tier order key then s.unreported key else 0) +
        (s.checkKey tier order key).2.unreported key := by
  rcases checkKey_cases tier order s key with ⟨hzero, -⟩ | ⟨-, hfull, -⟩ | ⟨-, -, heq⟩
  · exact absurd hzero hmax
  · rw [hroom] at hfull
    cases hfull
  · simp only at heq
    have hnew : (s.checkKey tier order key).2.buckets.lookup key =
        some ((bucketOf tier s.now (s.room tier order key) key).check tier s.now Bucket.spent
          tier.max).2 := by
      rw [heq]
      exact AList.lookup_insert _
    have hround : (s.checkKey tier order key).2.round = s.round := by rw [heq]
    rw [Limiter.unreported_of_some hnew]
    cases hopens : s.opens tier order key with
    | true =>
        obtain ⟨hepoch, hpushed, hcount⟩ := request_opened h order hopens
        rw [accounted_of_fresh hepoch, hpushed, hcount, heq, if_pos rfl]
        dsimp only
        omega
    | false =>
        obtain ⟨b, hb, -, hfound⟩ := request_kept h order hopens
        obtain ⟨-, hstart, hpushed, hepoch, -, hcount⟩ := (h.buckets key b hb).check s.now
        have hle := accounted_le h hb
        rw [hfound, accounted_congr hround hepoch hstart hpushed, hcount,
          Limiter.unreported_of_some hb, heq, hfound, if_neg Bool.false_ne_true]
        dsimp only
        omega

theorem other_request_balanced
    (order : List K) (other : K) (hmax : tier.max ≠ 0)
    (hother : other ≠ key ∨ s.saturated tier order other = true) :
    s.unreported key =
      (if ((s.room tier order other).lookup key).isNone then s.unreported key else 0) +
        (s.checkKey tier order other).2.unreported key := by
  have hafter : (s.checkKey tier order other).2.unreported key =
      if ((s.room tier order other).lookup key).isNone then 0 else s.unreported key := by
    rcases checkKey_cases tier order s other with ⟨hzero, -⟩ | ⟨-, -, overflow, heq⟩
      | ⟨-, hroom, heq⟩
    · exact absurd hzero hmax
    · rw [heq]
      exact room_unreported order other rfl rfl
    · have hne : key ≠ other := by
        rintro rfl
        rcases hother with hne | hfull
        · exact hne rfl
        · rw [hroom] at hfull
          cases hfull
      rw [heq]
      exact room_unreported order other rfl (AList.lookup_insert_ne hne)
  rw [hafter]
  split
  · rfl
  · exact (Nat.zero_add _).symm

theorem checkKey_round (tier : Tier) (order : List K) (s : Limiter K) (key : K) :
    (s.checkKey tier order key).2.round = s.round := by
  rcases checkKey_cases tier order s key with ⟨-, heq⟩ | ⟨-, -, overflow, heq⟩ | ⟨-, -, heq⟩
  all_goals rw [heq]

theorem request_balanced
    (h : s.Sane tier) (elapsed : ℕ) (order : List K) (other : K) :
    Balanced tier key s (.check elapsed order other) := by
  have hafter := h.after elapsed
  have hflight : (step tier (.check elapsed order other) s).inFlight key = s.inFlight key :=
    inFlight_congr (checkKey_round tier order (s.after elapsed) other)
  have hstep : step tier (.check elapsed order other) s =
      ((s.after elapsed).checkKey tier order other).2 := rfl
  have hpushes : pushes key s (.check elapsed order other) = [] := rfl
  have hforfeits : forfeits tier key s (.check elapsed order other) =
      (decide (tier.max ≠ 0) && (((s.after elapsed).room tier order other).lookup key).isNone ||
        (decide (tier.max ≠ 0) && (decide (other = key) &&
          !(s.after elapsed).saturated tier order key &&
            (s.after elapsed).opens tier order key))) :=
    Bool.and_or_distrib_left ..
  have hsame : s.unreported key = (s.after elapsed).unreported key := rfl
  unfold Balanced
  rw [length_admits, hflight, hstep, hpushes, hforfeits, hsame, List.map_nil, List.sum_nil,
    Nat.zero_add]
  by_cases hmax : tier.max = 0
  · rcases checkKey_cases tier order (s.after elapsed) other with ⟨-, heq⟩ | ⟨hne, -⟩ | ⟨hne, -⟩
    · rw [heq]
      simp [hmax]
    · exact absurd hmax hne
    · exact absurd hmax hne
  · by_cases hown : other = key ∧ (s.after elapsed).saturated tier order other = false
    · obtain ⟨rfl, hroom⟩ := hown
      have hlaw := own_request_balanced hafter order hmax hroom
      have hopened : (((s.after elapsed).room tier order other).lookup other).isNone = true →
          (s.after elapsed).opens tier order other = true := by
        intro hnone
        unfold Limiter.opens
        rw [Option.isNone_iff_eq_none.mp hnone]
        rfl
      have hcause : (decide (tier.max ≠ 0) &&
            (((s.after elapsed).room tier order other).lookup other).isNone ||
          (decide (tier.max ≠ 0) && (decide (other = other) &&
            !(s.after elapsed).saturated tier order other &&
              (s.after elapsed).opens tier order other))) =
          (s.after elapsed).opens tier order other := by
        rw [hroom]
        cases hopens : (s.after elapsed).opens tier order other with
        | true => simp [hmax]
        | false =>
            rw [hopens] at hopened
            simp only [Bool.false_eq_true, imp_false, Bool.not_eq_true] at hopened
            simp [hopened]
      rw [hcause]
      simp only [hmax, hroom, ne_eq, not_false_eq_true, true_and]
      omega
    · have hother : other ≠ key ∨ (s.after elapsed).saturated tier order other = true := by
        rw [not_and_or, Bool.not_eq_false] at hown
        exact hown
      have hlaw := other_request_balanced order other hmax hother
      have hsilent : ¬(other = key ∧ tier.max ≠ 0 ∧
          (s.after elapsed).saturated tier order other = false ∧
          ((s.after elapsed).checkKey tier order other).1.isOk = true) :=
        fun hcounts => hown ⟨hcounts.1, hcounts.2.2.1⟩
      have hquiet : (decide (other = key) && !(s.after elapsed).saturated tier order key &&
          (s.after elapsed).opens tier order key) = false := by
        by_cases hkey : other = key
        · subst hkey
          rw [hother.resolve_left (not_not.mpr rfl)]
          simp
        · simp [hkey]
      rw [if_neg hsilent, hquiet, Bool.and_false, Bool.or_false, decide_eq_true hmax, Bool.true_and]
      omega

theorem evict_balanced (order : List K) (target : ℕ) :
    Balanced tier key s (.evict order target) := by
  have hforfeits : forfeits tier key s (.evict order target) =
      ((evictCheapest order s.buckets target tier.max).lookup key).isNone := rfl
  have hflight : (step tier (.evict order target) s).inFlight key = s.inFlight key :=
    inFlight_congr rfl
  have hafter : (step tier (.evict order target) s).unreported key =
      if ((evictCheapest order s.buckets target tier.max).lookup key).isNone then 0
      else s.unreported key := by
    rcases lookup_evictCheapest order s.buckets target tier.max key with hsame | ⟨hnone, -⟩
    · have hlookup : (step tier (.evict order target) s).buckets.lookup key =
        s.buckets.lookup key :=
        hsame
      cases hrow : s.buckets.lookup key with
      | none =>
          rw [Limiter.unreported_of_none (hlookup.trans hrow), Limiter.unreported_of_none hrow]
          split <;> rfl
      | some =>
          rw [Limiter.unreported_of_some (hlookup.trans hrow), Limiter.unreported_of_some hrow,
            hsame, hrow]
          rfl
    · have hlookup : (step tier (.evict order target) s).buckets.lookup key = none := hnone
      rw [Limiter.unreported_of_none hlookup, hnone]
      rfl
  unfold Balanced
  rw [hforfeits, hflight, hafter]
  simp only [admits, events, pushes, List.filter_nil, List.length_nil, List.map_nil, List.sum_nil]
  split <;> omega

/-! ### Rounds -/

theorem inOrder_nodup (order : List K) (buckets : Table K Bucket) :
    ((inOrder order buckets).map Prod.fst).Nodup := by
  have hlisted : (order.dedup.filterMap fun key =>
      (buckets.lookup key).map fun b => (key, b)).map Prod.fst =
      order.dedup.filter fun key => (buckets.lookup key).isSome := by
    induction order.dedup with
    | nil => rfl
    | cons first rest ih =>
        rw [List.filterMap_cons, List.filter_cons]
        cases buckets.lookup first with
        | none | some => simpa using ih
  have hrest : ((buckets.entries.filter fun row => row.1 ∉ order).map
      fun row => (row.1, row.2)).map Prod.fst =
      buckets.keys.filter fun key => key ∉ order := by
    unfold AList.keys List.keys
    rw [List.map_map, List.filter_map]
    rfl
  unfold inOrder
  rw [List.map_append, hlisted, hrest, List.nodup_append]
  refine ⟨order.nodup_dedup.filter _, buckets.nodupKeys.filter _, ?_⟩
  rintro key hkey other hother rfl
  have hmem := List.mem_dedup.mp (List.mem_filter.mp hkey).1
  simpa [hmem] using (List.mem_filter.mp hother).2

theorem reported_nodup (tier : Tier) (order : List K) (s : Limiter K) :
    (s.reported tier order).Nodup := by
  refine List.Nodup.sublist (List.take_sublist _ _) ?_
  exact List.Nodup.sublist (List.Sublist.map _ List.filter_sublist) (inOrder_nodup order s.buckets)

/-- What a round reports is in the map. -/
theorem lookup_of_reported (h : key ∈ s.reported tier order) :
    ∃ b, s.buckets.lookup key = some b := by
  obtain ⟨⟨other, b⟩, hrow, rfl⟩ := List.mem_map.mp (List.mem_of_mem_take h)
  exact ⟨b, mem_inOrder (List.mem_filter.mp hrow).1⟩

/-- The reports about one key. -/
theorem filter_pending
    {keys : List K} (hkeys : keys.Nodup) (buckets : Table K Bucket) (key : K) :
    (Limiter.pending keys buckets).filter (fun p => p.key = key) =
      if key ∈ keys then
        ((buckets.lookup key).map fun b =>
          (⟨key, wrappingSub b.count b.pushed, b.count, b.windowStart⟩ : Pending K)).toList
      else [] := by
  induction keys with
  | nil => rfl
  | cons first keys ih =>
      obtain ⟨hfirst, hrest⟩ := List.nodup_cons.mp hkeys
      unfold Limiter.pending at ih ⊢
      rw [List.filterMap_cons]
      by_cases hkey : first = key
      · subst hkey
        rw [if_neg hfirst] at ih
        cases buckets.lookup first with
        | none | some => simpa using ih hrest
      · cases buckets.lookup first with
        | none => simpa [Ne.symm hkey] using ih hrest
        | some => simpa [hkey, Ne.symm hkey] using ih hrest

theorem pending_keys_nodup
    {keys : List K} (hkeys : keys.Nodup) (buckets : Table K Bucket) :
    ((Limiter.pending keys buckets).map Pending.key).Nodup := by
  refine List.Nodup.sublist ?_ hkeys
  induction keys with
  | nil => exact List.Sublist.slnil
  | cons first keys ih =>
      unfold Limiter.pending at ih ⊢
      rw [List.filterMap_cons]
      cases buckets.lookup first with
      | none => exact (ih (List.nodup_cons.mp hkeys).2).cons _
      | some => exact (ih (List.nodup_cons.mp hkeys).2).cons_cons _

theorem reports_eq (round : Round K) (key : K) (b : Bucket) :
    round.reports key b = (round.pending.filter fun p => p.key = key).find? fun p =>
      decide (b.epoch = some round.epoch) && decide (b.windowStart = p.windowStart) := by
  unfold Round.reports
  rw [List.find?_filter]
  congr 1
  funext p
  simp

theorem snapshot_round (order : List K) (epoch : ℤ)
    (hp : p ∈ Limiter.pending (s.reported tier order) (s.snapshot tier order epoch).buckets) :
    (s.snapshot tier order epoch).round =
      some ⟨epoch, Limiter.pending (s.reported tier order)
        (s.snapshot tier order epoch).buckets⟩ := by
  have hne : (Limiter.pending (s.reported tier order)
      (s.snapshot tier order epoch).buckets).isEmpty = false :=
    List.isEmpty_eq_false_iff_exists_mem.mpr ⟨p, hp⟩
  unfold Limiter.snapshot at hne ⊢
  simp only at hne ⊢
  rw [hne]
  rfl

theorem snapshot_reported
    (h : s.Sane tier) (epoch : ℤ) (hkey : key ∈ s.reported tier order)
    (hb : s.buckets.lookup key = some b) :
    (s.snapshot tier order epoch).inFlight key = b.count - (b.turn epoch).pushed ∧
      (s.snapshot tier order epoch).unreported key = 0 := by
  have hturn : (s.snapshot tier order epoch).buckets.lookup key = some (b.turn epoch) := by
    rw [lookup_snapshot, hb, Option.map_some, if_pos hkey]
  obtain ⟨hcount, hstart, hepoch⟩ := b.turn_count epoch
  have hsane := (h.buckets key b hb).turn epoch
  have hfilter := filter_pending (reported_nodup tier order s)
    (s.snapshot tier order epoch).buckets key
  rw [if_pos hkey, hturn, Option.map_some, Option.toList_some,
    wrappingSub_of_le hsane.lt hsane.pushed] at hfilter
  have hsingle := List.mem_singleton_self
    (⟨key, (b.turn epoch).count - (b.turn epoch).pushed, (b.turn epoch).count,
      (b.turn epoch).windowStart⟩ : Pending K)
  rw [← hfilter] at hsingle
  have hround := snapshot_round order epoch (List.mem_filter.mp hsingle).1
  constructor
  · unfold Limiter.inFlight Round.pushes
    rw [hround, Option.elim_some, hfilter]
    simp only [List.map_cons, List.map_nil, List.sum_cons, List.sum_nil, Nat.add_zero]
    rw [hcount]
  · rw [Limiter.unreported_of_some hturn]
    unfold Limiter.accounted
    rw [hround, Option.bind_some, reports_eq, hfilter]
    simp [hepoch]

theorem snapshot_unreported
    (epoch : ℤ) (hidle : s.round = none) (hkey : key ∉ s.reported tier order) :
    (s.snapshot tier order epoch).inFlight key = 0 ∧
      (s.snapshot tier order epoch).unreported key = s.unreported key := by
  have hlookup : (s.snapshot tier order epoch).buckets.lookup key = s.buckets.lookup key := by
    rw [lookup_snapshot]
    simp only [hkey, if_false, Option.map_id']
  have hfilter := filter_pending (reported_nodup tier order s)
    (s.snapshot tier order epoch).buckets key
  rw [if_neg hkey] at hfilter
  have hround : ∀ round, (s.snapshot tier order epoch).round = some round →
      (round.pending.filter fun p => p.key = key) = [] := by
    intro round hround
    unfold Limiter.snapshot at hround
    simp only at hround
    split at hround
    · cases hround
    · cases hround
      exact hfilter
  constructor
  · unfold Limiter.inFlight
    cases hr : (s.snapshot tier order epoch).round with
    | none => rfl
    | some round =>
        rw [Option.elim_some]
        unfold Round.pushes
        rw [hround round hr]
        rfl
  · cases hrow : s.buckets.lookup key with
    | none =>
        rw [Limiter.unreported_of_none (hlookup.trans hrow), Limiter.unreported_of_none hrow]
    | some =>
        rw [Limiter.unreported_of_some (hlookup.trans hrow), Limiter.unreported_of_some hrow,
          accounted_of_idle hidle]
        unfold Limiter.accounted
        cases hr : (s.snapshot tier order epoch).round with
        | none => rfl
        | some round =>
            rw [Option.bind_some, reports_eq, hround round hr]
            rfl

theorem inFlight_of_idle (h : s.round = none) : s.inFlight key = 0 := by
  unfold Limiter.inFlight
  rw [h]
  rfl

theorem snapshot_balanced
    (h : s.Sane tier) (elapsed : ℕ) (order : List K) (epoch : ℤ) :
    Balanced tier key s (.snapshot elapsed order epoch) := by
  have hadmits : admits tier key s (.snapshot elapsed order epoch) = [] := rfl
  have hpushes : pushes key s (.snapshot elapsed order epoch) = [] := rfl
  have hforfeits : forfeits tier key s (.snapshot elapsed order epoch) =
      (s.round.isNone && decide (key ∈ (s.after elapsed).reported tier order) &&
        (s.buckets.lookup key).any fun b => b.epoch.any fun old => old ≠ epoch) := rfl
  have hstep : step tier (.snapshot elapsed order epoch) s =
      if s.round.isSome then s else (s.after elapsed).snapshot tier order epoch := rfl
  cases hround : s.round with
  | some =>
      have hbusy : step tier (.snapshot elapsed order epoch) s = s := by
        rw [hstep, hround]
        rfl
      rw [hround, Option.isNone_some, Bool.false_and, Bool.false_and] at hforfeits
      refine .quiet hadmits hpushes hforfeits ?_
      rw [hbusy]
      exact ⟨rfl, rfl⟩
  | none =>
      rw [hround, Option.isNone_none, Bool.true_and] at hforfeits
      rw [hround] at hstep
      simp only [Option.isSome_none, Bool.false_eq_true, if_false] at hstep
      have hafter := h.after elapsed
      have hidle : (s.after elapsed).round = none := hround
      by_cases hkey : key ∈ (s.after elapsed).reported tier order
      · obtain ⟨b, hb⟩ := lookup_of_reported hkey
        obtain ⟨hflight, hunreported⟩ := snapshot_reported hafter epoch hkey hb
        have hold : s.buckets.lookup key = some b := hb
        have hpushed := (h.buckets key b hold).pushed
        unfold Balanced
        rw [hadmits, hpushes, hforfeits, hstep, hflight, hunreported, inFlight_of_idle hround,
          Limiter.unreported_of_some hold, accounted_of_idle hround, hold]
        simp only [hkey, decide_true, Bool.true_and, Option.any_some, List.length_nil,
          List.map_nil, List.sum_nil]
        unfold Bucket.turn
        cases hepoch : b.epoch with
        | none => simp
        | some old =>
            by_cases hsame : old = epoch
            · simp [hsame]
            · simp [hsame]
      · obtain ⟨hflight, hunreported⟩ := snapshot_unreported epoch hidle hkey
        rw [decide_eq_false hkey, Bool.false_and] at hforfeits
        refine .quiet hadmits hpushes hforfeits ?_
        rw [hstep, hflight, hunreported, inFlight_of_idle hround]
        exact ⟨rfl, rfl⟩

theorem lookup_settle_other
    {totals : K → Option ℤ} (hkey : p.key ≠ key) :
    (Limiter.settle epoch totals buckets p).lookup key = buckets.lookup key := by
  unfold Limiter.settle
  split
  · split
    · exact AList.lookup_insert_ne (Ne.symm hkey)
    · rfl
  · rfl

theorem lookup_settle_own
    (epoch : ℤ) {totals : K → Option ℤ} (htotal : (totals p.key).isSome = true)
    (hb : buckets.lookup p.key = some b) :
    ∃ b', (Limiter.settle epoch totals buckets p).lookup p.key = some b' ∧ b'.count = b.count ∧
      b'.pushed = if b.epoch = some epoch ∧ b.windowStart = p.windowStart then p.counted
        else b.pushed := by
  obtain ⟨total, htotal⟩ := Option.isSome_iff_exists.mp htotal
  unfold Limiter.settle
  rw [htotal, hb]
  simp only
  split
  · exact ⟨_, AList.lookup_insert _, rfl, rfl⟩
  · exact ⟨b, hb, rfl, rfl⟩

theorem lookup_settles_other
    {totals : K → Option ℤ} {pending : List (Pending K)} (h : key ∉ pending.map Pending.key) :
    (pending.foldl (Limiter.settle epoch totals) buckets).lookup key = buckets.lookup key := by
  induction pending generalizing buckets with
  | nil => rfl
  | cons p pending ih =>
      rw [List.map_cons, List.mem_cons, not_or] at h
      rw [List.foldl_cons, ih h.2, lookup_settle_other (Ne.symm h.1)]

theorem lookup_settles
    {totals : K → Option ℤ} (hdistinct : (round.pending.map Pending.key).Nodup)
    (htotals : ∀ p ∈ round.pending, (totals p.key).isSome = true)
    (hb : buckets.lookup key = some b) :
    ∃ b', (round.pending.foldl (Limiter.settle round.epoch totals) buckets).lookup key = some b' ∧
      b'.count = b.count ∧
      b'.pushed = (round.reports key b).elim b.pushed Pending.counted := by
  obtain ⟨epoch, pending⟩ := round
  unfold Round.reports
  simp only at hdistinct htotals ⊢
  induction pending generalizing buckets with
  | nil => exact ⟨b, hb, rfl, rfl⟩
  | cons p pending ih =>
      obtain ⟨hp, hrest⟩ := List.nodup_cons.mp hdistinct
      have htail : ∀ q ∈ pending, (totals q.key).isSome = true :=
        fun q hq => htotals q (List.mem_cons_of_mem _ hq)
      rw [List.foldl_cons, List.find?_cons]
      by_cases hkey : p.key = key
      · subst hkey
        obtain ⟨b', hb', hcount, hpushed⟩ :=
          lookup_settle_own epoch (htotals p (List.mem_cons_self ..)) hb
        refine ⟨b', (lookup_settles_other hp).trans hb', hcount, hpushed.trans ?_⟩
        have hnone : pending.find? (fun q => decide (q.key = p.key) &&
            (decide (b.epoch = some epoch) && decide (b.windowStart = q.windowStart))) = none := by
          rw [List.find?_eq_none]
          intro q hq hmatch
          simp only [Bool.and_eq_true, decide_eq_true_eq] at hmatch
          exact hp (hmatch.1 ▸ List.mem_map_of_mem hq)
        rw [hnone]
        by_cases hmatch : b.epoch = some epoch ∧ b.windowStart = p.windowStart
        · simp [hmatch]
        · rw [if_neg hmatch]
          rw [← Bool.decide_and, decide_eq_false hmatch, Bool.and_false]
          rfl
      · rw [decide_eq_false hkey, Bool.false_and]
        exact ih ((lookup_settle_other hkey).trans hb) hrest htail

theorem land_idle (h : s.round = none) (totals : Option (K → Option ℤ)) : s.land totals = s := by
  unfold Limiter.land
  rw [h]
  simp only
  rw [← h]

theorem land_round (totals : Option (K → Option ℤ)) : (s.land totals).round = none := by
  unfold Limiter.land
  split <;> rfl

theorem land_unreported
    (hdistinct : s.Distinct) (hanswered : Answered s (.land totals)) :
    (s.land totals).unreported key = s.unreported key := by
  cases hround : s.round with
  | none => rw [land_idle hround]
  | some round =>
      obtain ⟨rows, rfl, hrows⟩ := hanswered.rows hround
      have hbuckets : (s.land (some rows)).buckets =
          round.pending.foldl (Limiter.settle round.epoch rows) s.buckets := by
        unfold Limiter.land
        rw [hround]
      cases hrow : s.buckets.lookup key with
      | none =>
          have hnone : (s.land (some rows)).buckets.lookup key = none := by
            cases hnew : (s.land (some rows)).buckets.lookup key with
            | none => rfl
            | some =>
                rw [hbuckets] at hnew
                obtain ⟨b, hb, -⟩ := settles_count hnew
                rw [hrow] at hb
                cases hb
          rw [Limiter.unreported_of_none hrow, Limiter.unreported_of_none hnone]
      | some b =>
          obtain ⟨b', hb', hcount, hpushed⟩ := lookup_settles (hdistinct round hround) hrows hrow
          rw [← hbuckets] at hb'
          rw [Limiter.unreported_of_some hb', Limiter.unreported_of_some hrow,
            accounted_of_idle (land_round _), hcount, hpushed]
          unfold Limiter.accounted
          rw [hround, Option.bind_some]
          cases round.reports key b <;> rfl

theorem land_balanced
    (hdistinct : s.Distinct) (hanswered : Answered s (.land totals)) :
    Balanced tier key s (.land totals) := by
  have hadmits : admits tier key s (.land totals) = [] := rfl
  have hforfeits : forfeits tier key s (.land totals) = false := rfl
  have hstep : step tier (.land totals) s = s.land totals := rfl
  have hpushes : ((pushes key s (.land totals)).map Prod.snd).sum = s.inFlight key := by
    unfold pushes Limiter.inFlight
    cases hround : s.round with
    | none => cases totals <;> rfl
    | some =>
        obtain ⟨rows, rfl, -⟩ := hanswered.rows hround
        rfl
  unfold Balanced
  rw [hadmits, hforfeits, hpushes, hstep, land_unreported hdistinct hanswered,
    inFlight_of_idle (land_round totals)]
  simp

theorem step_balanced
    (h : s.Sane tier) (hdistinct : s.Distinct) {op : Op K} (hanswered : Answered s op) :
    Balanced tier key s op := by
  cases op with
  | check elapsed order other => exact request_balanced h elapsed order other
  | checkOverflow => exact .quiet rfl rfl rfl ⟨rfl, rfl⟩
  | evict order target => exact evict_balanced order target
  | snapshot elapsed order epoch => exact snapshot_balanced h elapsed order epoch
  | land => exact land_balanced hdistinct hanswered

theorem step_distinct (h : s.Distinct) (op : Op K) : (step tier op s).Distinct := by
  cases op with
  | check =>
      intro round hround
      simp only [step] at hround
      rw [checkKey_round] at hround
      exact h round hround
  | checkOverflow | evict => exact h
  | snapshot elapsed order =>
      simp only [step]
      split
      · exact h
      · intro round hround
        unfold Limiter.snapshot at hround
        simp only at hround
        split at hround
        · cases hround
        · cases hround
          exact pending_keys_nodup (reported_nodup tier order _) _
  | land =>
      intro round hround
      simp only [step, Limiter.land] at hround
      split at hround <;> cases hround

end Step

section Runs

variable {tier : Tier} {s : Limiter K} {key : K} {ops : List (Op K)}

def Spares (tier : Tier) (key : K) (s : Limiter K) (op : Op K) : Prop :=
  forfeits tier key s op = true → s.unreported key = 0

instance (tier : Tier) (key : K) (s : Limiter K) (op : Op K) : Decidable (Spares tier key s op) :=
  inferInstanceAs (Decidable (_ → _))

/-- Along a run the admits are what was pushed, what is owed, and what was forfeited; nothing
was forfeited just when every step spared the key. -/
theorem run_balanced
    (key : K) (h : s.Sane tier) (hdistinct : s.Distinct)
    (hanswered : Meets (step tier) Answered s ops) :
    ∃ lost, s.inFlight key + s.unreported key +
        (observe (step tier) (admits tier key) s ops).length =
      ((observe (step tier) (pushes key) s ops).map Prod.snd).sum + lost +
        ((run (step tier) s ops).inFlight key + (run (step tier) s ops).unreported key) ∧
      (lost = 0 ↔ Meets (step tier) (Spares tier key) s ops) := by
  induction ops generalizing s with
  | nil => exact ⟨0, by simp [observe], by simp [Meets]⟩
  | cons op ops ih =>
      obtain ⟨lost, hlaw, hlost⟩ :=
        ih (step_sane h op) (step_distinct hdistinct op) hanswered.2
      have hstep : Balanced tier key s op := step_balanced h hdistinct hanswered.1
      unfold Balanced at hstep
      refine ⟨(if forfeits tier key s op then s.unreported key else 0) + lost, ?_, ?_⟩
      · simp only [observe, List.length_append, List.map_append, List.sum_append, run_cons]
        omega
      · have hone : (if forfeits tier key s op then s.unreported key else 0) = 0 ↔
            Spares tier key s op := by
          unfold Spares
          split
          · next hforfeits => simp [hforfeits]
          · next hkept => simp [hkept]
        rw [Nat.add_eq_zero_iff, hone, hlost]
        rfl

theorem run_distinct (tier : Tier) (now : ℕ) (ops : List (Op K)) :
    (run (step tier) (.new now) ops).Distinct :=
  run_invariant (fun _ op h => step_distinct h op) nofun

/-- After a round that is answered, a key owes what it owed before if the round did not report
it, and nothing otherwise. -/
theorem round_unreported
    (key : K) {elapsed : ℕ} (h : s.Sane tier) (hdistinct : s.Distinct) (hidle : s.round = none)
    (hanswered : Meets (step tier) Answered s [.snapshot elapsed order epoch, .land totals]) :
    let last := run (step tier) s [.snapshot elapsed order epoch, .land totals]
    last.inFlight key = 0 ∧
      (last.unreported key = 0 ↔
        key ∈ (s.after elapsed).reported tier order ∨ s.unreported key = 0) := by
  have hsnapshot : step tier (.snapshot elapsed order epoch) s =
      (s.after elapsed).snapshot tier order epoch := by
    simp only [step, hidle, Option.isSome_none, Bool.false_eq_true, if_false]
  have hdistinct' : (step tier (.snapshot elapsed order epoch) s).Distinct :=
    step_distinct hdistinct _
  have hland := hanswered.2.1
  simp only [run_cons, run_nil]
  change (Limiter.land totals _).inFlight key = 0 ∧ ((Limiter.land totals _).unreported key = 0 ↔ _)
  rw [inFlight_of_idle (land_round totals), land_unreported hdistinct' hland, hsnapshot]
  refine ⟨rfl, ?_⟩
  by_cases hkey : key ∈ (s.after elapsed).reported tier order
  · obtain ⟨b, hb⟩ := lookup_of_reported hkey
    simp [(snapshot_reported (h.after elapsed) epoch hkey hb).2, hkey]
  · have hafter : (s.after elapsed).round = none := hidle
    rw [(snapshot_unreported epoch hafter hkey).2]
    simp only [hkey, false_or]
    rfl

/-- After a last round the rows of a key hold its admits, just when no step before forfeited
one and the round reported what was left. -/
theorem charged_iff
    {now elapsed : ℕ} {order : List K} {epoch : ℤ} {totals : Option (K → Option ℤ)}
    (hidle : (run (step tier) (.new now) ops).round = none)
    (hanswered : Meets (step tier) Answered (.new now)
      (ops ++ [.snapshot elapsed order epoch, .land totals])) :
    ((observe (step tier) (pushes key) (.new now)
        (ops ++ [.snapshot elapsed order epoch, .land totals])).map Prod.snd).sum =
      (observe (step tier) (admits tier key) (.new now)
        (ops ++ [.snapshot elapsed order epoch, .land totals])).length ↔
    Meets (step tier) (Spares tier key) (.new now)
        (ops ++ [.snapshot elapsed order epoch, .land totals]) ∧
      (key ∈ ((run (step tier) (.new now) ops).after elapsed).reported tier order ∨
        (run (step tier) (.new now) ops).unreported key = 0) := by
  obtain ⟨lost, hlaw, hlost⟩ :=
    run_balanced key (new_sane tier now) (run_distinct tier now []) hanswered
  obtain ⟨hflight, hunreported⟩ := round_unreported key (run_sane tier now ops)
    (run_distinct tier now ops) hidle (meets_append.mp hanswered).2
  have hstart : (Limiter.new now : Limiter K).inFlight key +
      (Limiter.new now : Limiter K).unreported key = 0 := rfl
  rw [run_append] at hlaw
  rw [← hlost, ← hunreported]
  omega

end Runs

def strict : Tier := ⟨5, 60 * 10 ^ 9, by decide, by decide⟩

def stored (total : ℤ) : Op String := .land (some fun _ => some total)

def early : List (Op String) := [.check 0 [] "a", .snapshot 1 [] 0, stored 1, .check 1 [] "a"]

/-- The wall clock rolls before the second request is reported, and no row is charged for it. -/
theorem roll_charges_nobody :
    Meets (step strict) Answered (.new 0) (early ++ [.snapshot 1 [] 60000, stored 0]) ∧
    (observe (step strict) (pushes "a") (.new 0) (early ++ [.snapshot 1 [] 60000, stored 0])) =
      [(0, 1), (60000, 0)] ∧
    (observe (step strict) (admits strict "a") (.new 0)
      (early ++ [.snapshot 1 [] 60000, stored 0])).length = 2 := by
  decide

/-- The same run with the second round in the first epoch. -/
theorem charged_iff_early :
    ((observe (step strict) (pushes "a") (.new 0)
        (early ++ [.snapshot 1 [] 0, stored 2])).map Prod.snd).sum =
      (observe (step strict) (admits strict "a") (.new 0)
        (early ++ [.snapshot 1 [] 0, stored 2])).length :=
  (charged_iff (by decide) (by decide)).mpr (by decide)

end Hezarfen.RateLimit
