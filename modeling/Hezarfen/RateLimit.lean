import Mathlib.Data.List.Sort
import Mathlib.Data.List.Dedup
import Hezarfen.Requests
import Hezarfen.Table

/-!
# The rate limiter

A fixed window per client, in a map of bounded size.  A background task reports what every
bucket has admitted to a shared row and takes the stored total back; it works on a snapshot,
so a round is two steps with requests between them.  The clock is in nanoseconds, the
counters are machine words, and the map hands its entries out in any order.
-/

namespace Hezarfen.RateLimit

def purgeAt : ℕ := 10000

def rateLimitOverflowMax : ℕ := 60000

def rateSyncMaxKeys : ℕ := 512

/-- How many values a `u32` has. -/
def u32Size : ℕ := 2 ^ 32

/-- `-` of two words -/
def wrappingSub (a b : ℕ) : ℕ := (a + u32Size - b) % u32Size

def saturatingAdd (a b : ℕ) : ℕ := min (u32Size - 1) (a + b)

/-- `clamp(0, u32::MAX)` of a stored total -/
def clampTotal (total : ℤ) : ℕ := (max 0 (min total (u32Size - 1))).toNat

/-! ## Buckets -/

structure Tier where
  max : ℕ
  window : ℕ
  max_lt : max < u32Size
  window_pos : 0 < window

structure Bucket where
  windowStart : ℕ
  count : ℕ
  /-- How many of `count` are accounted for against the shared row of `epoch`. -/
  pushed : ℕ
  /-- The stored total that the last sync read back. -/
  remote : ℕ
  epoch : Option ℤ
  deriving DecidableEq

def Bucket.openedAt (now : ℕ) : Bucket := ⟨now, 0, 0, 0, none⟩

def Bucket.spent (b : Bucket) : ℕ :=
  max b.count (saturatingAdd b.remote (wrappingSub b.count b.pushed))

/-- `duration_since` stops at zero. -/
def Bucket.age (b : Bucket) (now : ℕ) : ℕ := now - b.windowStart

def Bucket.lapsed (tier : Tier) (now : ℕ) (b : Bucket) : Bool := tier.window ≤ b.age now

/-- The bucket of this window: a lapsed one is opened again. -/
def Bucket.current (tier : Tier) (now : ℕ) (b : Bucket) : Bucket :=
  if b.lapsed tier now then .openedAt now else b

def Bucket.retryAfter (tier : Tier) (now : ℕ) (b : Bucket) : ℕ :=
  max 1 ((tier.window - b.age now + (10 ^ 9 - 1)) / 10 ^ 9)

def Bucket.admit (b : Bucket) : Bucket := { b with count := (b.count + 1) % u32Size }

/-- One request on a bucket that may count up to `limit`. -/
def Bucket.check (tier : Tier) (now : ℕ) (spent : Bucket → ℕ) (limit : ℕ) (b : Bucket) :
    Except ℕ Unit × Bucket :=
  if spent b < limit then (.ok (), b.admit) else (.error (b.retryAfter tier now), b)

variable {K : Type} [DecidableEq K]

/-- The entries of the map in the order of an iteration over it. -/
def inOrder (order : List K) (buckets : Table K Bucket) : List (K × Bucket) :=
  order.dedup.filterMap (fun key => (buckets.lookup key).map fun b => (key, b)) ++
    (buckets.entries.filter fun row => row.1 ∉ order).map fun row => (row.1, row.2)

def size (buckets : Table K Bucket) : ℕ := buckets.keys.length

/-- The keys that the budgeted `retain` drops. -/
def cheapest (max cutoff : ℕ) : List (K × Bucket) → ℕ → List K
  | [], _ => []
  | (key, b) :: rest, budget =>
      if 0 < budget ∧ b.spent < max ∧ b.spent ≤ cutoff then
        key :: cheapest max cutoff rest (budget - 1)
      else cheapest max cutoff rest budget

/-- Drops buckets until at most `target` remain, cheapest first, and never one that has spent
`max` or more. -/
def evictCheapest (order : List K) (buckets : Table K Bucket) (target max : ℕ) :
    Table K Bucket :=
  let spent := ((buckets.entries.map fun row => row.2.spent).filter fun spent => spent < max)
  let excess := min (size buckets - target) spent.length
  if excess = 0 then buckets
  else
    let cutoff := (spent.insertionSort (· ≤ ·)).getD (excess - 1) 0
    let dropped := cheapest max cutoff (inOrder order buckets) excess
    Table.deleteWhere buckets fun key _ => key ∈ dropped

structure Pending (K : Type) where
  key : K
  delta : ℕ
  counted : ℕ
  windowStart : ℕ

structure Round (K : Type) where
  epoch : ℤ
  pending : List (Pending K)

structure Limiter (K : Type) [DecidableEq K] where
  buckets : Table K Bucket
  /-- The one counter of the clients that got no bucket. -/
  overflow : Bucket
  round : Option (Round K)
  /-- The last reading of the clock. -/
  now : ℕ

def Limiter.new (now : ℕ) : Limiter K := ⟨∅, .openedAt now, none, now⟩

def Limiter.checkOverflow (tier : Tier) (s : Limiter K) : Except ℕ Unit × Limiter K :=
  let answer := (s.overflow.current tier s.now).check tier s.now Bucket.count rateLimitOverflowMax
  (answer.1, { s with overflow := answer.2 })

def Limiter.needsRoom (s : Limiter K) (key : K) : Bool :=
  decide (purgeAt ≤ size s.buckets) && decide (key ∉ s.buckets)

/-- Lapsed windows go first; if that frees nothing, the cheapest buckets. -/
def makeRoom (tier : Tier) (now : ℕ) (order : List K) (buckets : Table K Bucket) :
    Table K Bucket :=
  let live := Table.deleteWhere buckets fun _ b => b.lapsed tier now
  if purgeAt ≤ size live then evictCheapest order live (purgeAt - purgeAt / 4) tier.max
  else live

/-- The map that the request of `key` finds. -/
def Limiter.room (tier : Tier) (order : List K) (s : Limiter K) (key : K) : Table K Bucket :=
  if s.needsRoom key then makeRoom tier s.now order s.buckets else s.buckets

def Limiter.saturated (tier : Tier) (order : List K) (s : Limiter K) (key : K) : Bool :=
  s.needsRoom key && decide (purgeAt ≤ size (s.room tier order key))

def bucketOf (tier : Tier) (now : ℕ) (buckets : Table K Bucket) (key : K) : Bucket :=
  ((buckets.lookup key).getD (.openedAt now)).current tier now

def Limiter.checkKey (tier : Tier) (order : List K) (s : Limiter K) (key : K) :
    Except ℕ Unit × Limiter K :=
  if tier.max = 0 then (.ok (), s)
  else
    let buckets := s.room tier order key
    if s.saturated tier order key then Limiter.checkOverflow tier { s with buckets := buckets }
    else
      let answer := (bucketOf tier s.now buckets key).check tier s.now Bucket.spent tier.max
      (answer.1, { s with buckets := buckets.insert key answer.2 })

/-- A bucket that is reported to another shared row than the last time: what was charged to
that row is not charged again. -/
def Bucket.turn (epoch : ℤ) (b : Bucket) : Bucket :=
  if b.epoch = some epoch then b
  else
    { b with
      pushed := if b.epoch.isSome then b.count else b.pushed
      epoch := some epoch
      remote := 0 }

/-- The keys that a round reports. -/
def Limiter.reported (tier : Tier) (order : List K) (s : Limiter K) : List K :=
  (((inOrder order s.buckets).filter fun row =>
    decide (0 < row.2.count) && !row.2.lapsed tier s.now).map Prod.fst).take rateSyncMaxKeys

def Limiter.pending (keys : List K) (buckets : Table K Bucket) : List (Pending K) :=
  keys.filterMap fun key =>
    (buckets.lookup key).map fun b =>
      ⟨key, wrappingSub b.count b.pushed, b.count, b.windowStart⟩

/-- The first half of `sync_once`, under the lock of the map. -/
def Limiter.snapshot (tier : Tier) (order : List K) (epoch : ℤ) (s : Limiter K) : Limiter K :=
  let keys := s.reported tier order
  let buckets := Table.update s.buckets fun key b => if key ∈ keys then b.turn epoch else b
  let pending := Limiter.pending keys buckets
  { s with
    buckets := buckets
    round := if pending.isEmpty then none else some ⟨epoch, pending⟩ }

def Limiter.settle (epoch : ℤ) (totals : K → Option ℤ) (buckets : Table K Bucket)
    (p : Pending K) : Table K Bucket :=
  match totals p.key, buckets.lookup p.key with
  | some total, some b =>
      if b.epoch = some epoch ∧ b.windowStart = p.windowStart then
        buckets.insert p.key { b with pushed := p.counted, remote := clampTotal total }
      else buckets
  | _, _ => buckets

def Limiter.land (totals : Option (K → Option ℤ)) (s : Limiter K) : Limiter K :=
  match s.round, totals with
  | some round, some totals =>
      { s with
        buckets := round.pending.foldl (Limiter.settle round.epoch totals) s.buckets
        round := none }
  | _, _ => { s with round := none }

inductive Op (K : Type) where
  | check (elapsed : ℕ) (order : List K) (key : K)
  | checkOverflow (elapsed : ℕ)
  | evict (order : List K) (target : ℕ)
  /-- A round starts; the one task runs them one after another. -/
  | snapshot (elapsed : ℕ) (order : List K) (epoch : ℤ)
  /-- The database has answered, or has not. -/
  | land (totals : Option (K → Option ℤ))

def Limiter.after (elapsed : ℕ) (s : Limiter K) : Limiter K := { s with now := s.now + elapsed }

def step (tier : Tier) (op : Op K) (s : Limiter K) : Limiter K :=
  match op with
  | .check elapsed order key => ((s.after elapsed).checkKey tier order key).2
  | .checkOverflow elapsed => ((s.after elapsed).checkOverflow tier).2
  | .evict order target => { s with buckets := evictCheapest order s.buckets target tier.max }
  | .snapshot elapsed order epoch =>
      if s.round.isSome then s else (s.after elapsed).snapshot tier order epoch
  | .land totals => s.land totals

end Hezarfen.RateLimit
