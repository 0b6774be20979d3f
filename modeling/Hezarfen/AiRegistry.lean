import Hezarfen.AiFrames
import Hezarfen.Interleaving
import Mathlib.Data.Finset.Insert
import Mathlib.Data.List.MinMax
import Mathlib.Data.Prod.Lex
import Mathlib.Data.String.Basic

/-!
# The registry of AI services

Which services are connected and which one gets the next request.  The registry maps worker
ids to shared allocations, and a lease keeps its allocation when the entry is gone.  Every
operation on the registry holds one mutex for its whole body.  A lease is dropped without it, by
an atomic decrement: `pick` therefore takes one step for each load of a counter, and leases may
be dropped between two of them.
-/

namespace Hezarfen.AiRegistry

open Interleaving
open Ai (FrameError)

variable {C V : Type}

inductive AiError where
  | noWorker (capability : String)
  | busy (capability : String)
  | timeout (deadlineMs : ℕ)
  | remote (code message : String)
  | transport (text : String)
  | protocol (e : FrameError)
  | idMismatch (expected got : String)

/-- One connected service, under the handle `C` of its connection. -/
structure Worker (C : Type) where
  id : String
  service : String
  capabilities : List String
  withdrawn : Finset String
  maxConcurrent : UInt64
  inflight : UInt64
  conn : C

namespace Worker

def offers (w : Worker C) (capability : String) : Bool :=
  (w.capabilities.any fun c => c = capability) && !decide (capability ∈ w.withdrawn)

def hasRoom (w : Worker C) : Bool := w.inflight < w.maxConcurrent

/-- The order of `min_by`: the lower load, and among equal loads the newer id. -/
def load (w : Worker C) : ℕ ×ₗ Stringᵒᵈ := toLex (w.inflight.toNat, OrderDual.toDual w.id)

def withLoad (w : Worker C) (inflight : UInt64) : Worker C := { w with inflight }

def fetchAdd (w : Worker C) : Worker C := { w with inflight := w.inflight + 1 }

def fetchSub (w : Worker C) : Worker C := { w with inflight := w.inflight - 1 }

def withdraw (capability : String) (w : Worker C) : Worker C :=
  { w with withdrawn := insert capability w.withdrawn }

end Worker

structure WorkerSnapshot where
  id : String
  service : String
  capabilities : List String
  inflight : UInt64
  maxConcurrent : UInt64

structure Registry (C : Type) where
  workers : Table String ℕ
  arcs : Table ℕ (Worker C)
  allocated : ℕ
  leases : Table ℕ ℕ
  /-- The call whose `pick` holds the mutex between two of its loads. -/
  mutex : Option ℕ

namespace Registry

def empty : Registry C := ⟨∅, ∅, 0, ∅, none⟩

def alter (r : Registry C) (arc : ℕ) (f : Worker C → Worker C) : Registry C :=
  { r with arcs := r.arcs.update fun a w => if a = arc then f w else w }

def insert (r : Registry C) (id service : String) (capabilities : List String)
    (maxConcurrent : UInt64) (conn : C) : Registry C :=
  let worker : Worker C :=
    { id, service, capabilities, withdrawn := ∅, maxConcurrent, inflight := 0, conn }
  { r with
    workers := r.workers.insert id r.allocated
    arcs := r.arcs.insert r.allocated worker
    allocated := r.allocated + 1 }

def remove (r : Registry C) (id : String) : Registry C :=
  { r with workers := r.workers.erase id }

def values (r : Registry C) : List (ℕ × Worker C) :=
  r.workers.entries.filterMap fun entry => (r.arcs.lookup entry.2).map fun w => (entry.2, w)

def offering (r : Registry C) (capability : String) : List ℕ :=
  (r.values.filter fun entry => entry.2.offers capability).map Prod.fst

/-- The increment and the lease at the end of a `pick`, which gives up the mutex. -/
def reserve (r : Registry C) (call arc : ℕ) : Registry C :=
  { r.alter arc Worker.fetchAdd with leases := r.leases.insert call arc, mutex := none }

def release (r : Registry C) (call : ℕ) : Registry C :=
  { r with mutex := if r.mutex = some call then none else r.mutex }

def drop (r : Registry C) (call : ℕ) : Registry C :=
  match r.leases.lookup call with
  | none => r
  | some arc => { r.alter arc Worker.fetchSub with leases := r.leases.erase call }

/-- The loads are those of one moment, which the source reads one by one. -/
def snapshot (r : Registry C) : List WorkerSnapshot :=
  (r.values.map fun entry =>
    { id := entry.2.id
      service := entry.2.service
      capabilities := entry.2.capabilities.filter entry.2.offers
      inflight := entry.2.inflight
      maxConcurrent := entry.2.maxConcurrent : WorkerSnapshot }).mergeSort
    fun a b => a.id ≤ b.id

def hasCapability (r : Registry C) (capability : String) : Bool :=
  r.values.any fun entry => entry.2.offers capability

def withdraw (r : Registry C) (id capability : String) : Registry C :=
  match r.workers.lookup id with
  | none => r
  | some arc =>
      if (r.arcs.lookup arc).any (fun w => w.capabilities.any fun c => c = capability) then
        r.alter arc (Worker.withdraw capability)
      else r

end Registry

/-! ## Dispatch -/

inductive Response (V : Type) where
  | ok (id : String) (payload : V)
  | err (id code message : String)

inductive Answered (V : Type) where
  | timedOut
  | transport (text : String)
  | frame (e : FrameError)
  | response (r : Response V)

def outcome (deadlineMs : ℕ) (id : String) : Answered V → Except AiError V
  | .timedOut => .error (.timeout deadlineMs)
  | .transport text => .error (.transport text)
  | .frame e => .error (.protocol e)
  | .response (.ok got payload) =>
      if got = id then .ok payload else .error (.idMismatch id got)
  | .response (.err got code message) =>
      if got = id then .error (.remote code message) else .error (.idMismatch id got)

def contradictsItsOwnClaim (code : String) : Bool := code = "unknown_capability"

def refusesClaim : Except AiError V → Bool
  | .error (.remote code _) => contradictsItsOwnClaim code
  | _ => false

inductive Request (C : Type) where
  | insert (id service : String) (capabilities : List String) (maxConcurrent : UInt64) (conn : C)
  | remove (id : String)
  | withdraw (id capability : String)
  | dispatch (capability : String) (deadlineMs : ℕ)

/-- A `pick` under way: `min_by` is at the workers of `rest`, with the least of those before
them in `best`.  No step reads `began`, the registry when the mutex was taken. -/
structure Scan (C : Type) where
  capability : String
  deadlineMs : ℕ
  began : Registry C
  rest : List ℕ
  best : Option ℕ

/-- A call, named after what it does next.  The loads of `hasRoom`, `loadBest` and `loadNext` are
those of a `pick`, and from `await` on a dispatch holds a lease. -/
inductive Point (C V : Type) where
  | insert (id service : String) (capabilities : List String) (maxConcurrent : UInt64) (conn : C)
  | remove (id : String)
  | withdraw (id capability : String)
  | pick (capability : String) (deadlineMs : ℕ)
  | hasRoom (s : Scan C)
  | loadBest (s : Scan C) (best arc : ℕ)
  | loadNext (s : Scan C) (best : ℕ) (load : UInt64) (arc : ℕ)
  | await (capability : String) (deadlineMs arc : ℕ) (id : String)
  | withdrawClaim (capability : String) (arc : ℕ) (outcome : Except AiError V)
  | dropLease (arc : ℕ) (outcome : Except AiError V)

/-- `order` is the order in which the hash map hands out the workers that offer a capability. -/
structure World (V : Type) where
  uuid : String
  answered : Answered V
  order : List ℕ

inductive Answer (V : Type) where
  | done
  | dispatched (outcome : Except AiError V)

def entry : Request C → Point C V
  | .insert id service capabilities maxConcurrent conn =>
      .insert id service capabilities maxConcurrent conn
  | .remove id => .remove id
  | .withdraw id capability => .withdraw id capability
  | .dispatch capability deadlineMs => .pick capability deadlineMs

/-- What a call does that needs the mutex. -/
def locked (r : Registry C) (n : Next (Point C V) (Answer V)) (f : Registry C → Registry C) :
    Option (Registry C × Next (Point C V) (Answer V)) :=
  if r.mutex.isSome then none else some (f r, n)

def next (call : ℕ) (r : Registry C) :
    Point C V → World V → Option (Registry C × Next (Point C V) (Answer V))
  | .insert id service capabilities maxConcurrent conn, _ =>
      locked r (.answer .done) fun r => r.insert id service capabilities maxConcurrent conn
  | .remove id, _ => locked r (.answer .done) fun r => r.remove id
  | .withdraw id capability, _ => locked r (.answer .done) fun r => r.withdraw id capability
  | .pick capability deadlineMs, w =>
      if (r.offering capability).isEmpty then
        locked r (.answer (.dispatched (.error (.noWorker capability)))) id
      else if w.order.isPerm (r.offering capability) then
        locked r (.goto (.hasRoom ⟨capability, deadlineMs, r, w.order, none⟩))
          fun r => { r with mutex := some call }
      else none
  | .hasRoom s, w =>
      match s.rest, s.best with
      | [], none =>
          some (r.release call, .answer (.dispatched (.error (.busy s.capability))))
      | [], some arc =>
          some (r.reserve call arc, .goto (.await s.capability s.deadlineMs arc w.uuid))
      | arc :: rest, best =>
          match r.arcs.lookup arc with
          | none => none
          | some worker =>
              if worker.hasRoom then
                match best with
                | none => some (r, .goto (.hasRoom { s with rest, best := some arc }))
                | some best => some (r, .goto (.loadBest { s with rest } best arc))
              else some (r, .goto (.hasRoom { s with rest }))
  | .loadBest s best arc, _ =>
      match r.arcs.lookup best with
      | none => none
      | some worker => some (r, .goto (.loadNext s best worker.inflight arc))
  | .loadNext s best load arc, _ =>
      match r.arcs.lookup best, r.arcs.lookup arc with
      | some worker, some other =>
          -- `min_by` moves on to the later worker only where the comparison is `Greater`
          if other.load < (worker.withLoad load).load then
            some (r, .goto (.hasRoom { s with best := some arc }))
          else some (r, .goto (.hasRoom s))
      | _, _ => none
  | .await capability deadlineMs arc id, w =>
      let outcome := outcome deadlineMs id w.answered
      if refusesClaim outcome then some (r, .goto (.withdrawClaim capability arc outcome))
      else some (r, .goto (.dropLease arc outcome))
  | .withdrawClaim capability arc outcome, _ =>
      -- `lease.worker().id`, read through the lease whether the worker is registered or not
      match r.arcs.lookup arc with
      | none => none
      | some worker =>
          locked r (.goto (.dropLease arc outcome)) fun r => r.withdraw worker.id capability
  | .dropLease _ outcome, _ => some (r.drop call, .answer (.dispatched outcome))

/-- A call that is abandoned drops its lease or gives up the mutex, wherever it stands. -/
def machine : Machine (Registry C) (Point C V) (Request C) (World V) (Answer V) where
  entry := entry
  next := next
  rollback call r := (r.drop call).release call

abbrev Server (C V : Type) := Config (Registry C) (Point C V)

abbrev Step (C V : Type) := Move (Request C) (World V)

def Point.scans : Point C V → Bool
  | .hasRoom _ | .loadBest _ _ _ | .loadNext _ _ _ _ => true
  | _ => false

def Point.held : Point C V → Option ℕ
  | .await _ _ arc _ => some arc
  | .withdrawClaim _ arc _ => some arc
  | .dropLease arc _ => some arc
  | _ => none

inductive Event where
  | inserted (id : String) (capabilities : List String)
  | removed (id : String)
  | withdrawn (id capability : String)
  deriving DecidableEq

def Event.spares (id capability : String) : Event → Bool
  | .inserted id' _ => id' ≠ id
  | .removed id' => id' ≠ id
  | .withdrawn id' capability' => ¬(id' = id ∧ capability' = capability)

def Offered (log : List Event) (id capability : String) : Prop :=
  ∃ before capabilities after,
    log = before ++ .inserted id capabilities :: after ∧
      capability ∈ capabilities ∧ ∀ e ∈ after, e.spares id capability = true

def Point.tells (r : Registry C) : Point C V → List Event
  | .insert id _ capabilities _ _ => [.inserted id capabilities]
  | .remove id => [.removed id]
  | .withdraw id capability => [.withdrawn id capability]
  | .withdrawClaim capability arc _ =>
      (r.arcs.lookup arc).toList.map fun worker => .withdrawn worker.id capability
  | _ => []

def told (c : Server C V) : Step C V → List Event
  | .advance id _ => (c.calls.lookup id).toList.flatMap (Point.tells c.shared)
  | _ => []

end Hezarfen.AiRegistry
