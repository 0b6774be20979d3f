import Hezarfen.SignupCalls

/-!
# Seats, parents and lists that are taken out of the freeze

The counters are right in every reachable state, and no seat is taken on a full list.  The
sweep of a fall to parent leaves the seats on frozen lists where they are: a parent's seat on
an open list is one whose list a later PATCH took out of the freeze.
-/

namespace Hezarfen.Signups

open Interleaving ReadCommitted
open School (Role)

variable {p : Point} {now : Timestamp} {w : World} {n : Reply} {seat : Registration}
  {rest : List EventId} {out : Db × Reply}

section Others

variable {s s' : Db} {tx tx' : ℕ}

theorem Db.Apart.idle (h : s.Apart tx s') (hne : tx' ≠ tx) (hidle : s.Idle tx') : s'.Idle tx' :=
  ⟨h.appUser.idle tx' hne hidle.1, h.event.idle tx' hne hidle.2.1,
    h.registration.idle tx' hne hidle.2.2⟩

theorem Db.Apart.person (h : s.Apart tx s') (hne : tx' ≠ tx) {user : UserId}
    (hperson : HoldsPerson tx' s user) : HoldsPerson tx' s' user := by
  unfold HoldsPerson
  rw [h.appUser.held tx' hne user hperson.1]
  exact hperson

theorem Db.Apart.room (h : s.Apart tx s') (hne : tx' ≠ tx) {event : EventId}
    (hroom : HoldsRoom tx' s event) : HoldsRoom tx' s' event := by
  unfold HoldsRoom
  rw [h.event.held tx' hne event hroom.1]
  exact hroom

theorem Db.Apart.knows (h : s.Apart tx s') (hne : tx' ≠ tx) (hknows : p.Knows tx' s) :
    p.Knows tx' s' := by
  cases p with
  | takeSeat => exact h.person hne hknows
  | insert => exact ⟨h.person hne hknows.1, h.room hne hknows.2⟩
  | readRole | findAdmins | lockAdmins | writeRole | findStray | findFreeable =>
      exact hknows.trans h.clock
  | deleteStray => exact ⟨hknows.1.trans h.clock, hknows.2⟩
  | createEvent => exact hknows
  | _ => trivial

theorem Db.Apart.holds (h : s.Apart tx s') (hne : tx' ≠ tx) (hholds : p.Holds tx' s) :
    p.Holds tx' s' where
  owes event hevent :=
    (RefCount.owed_apart h.event h.registration hne event).trans (hholds.owes event hevent)
  accounts hlocks := h.appUser.idle tx' hne (hholds.accounts hlocks)
  events hcounts := h.event.idle tx' hne (hholds.events hcounts)
  rows hdeletes := h.registration.idle tx' hne (hholds.rows hdeletes)
  roles user huser := by
    by_cases hheld : (s.appUser.row user).Held tx'
    · rw [h.appUser.held tx' hne user hheld]
      exact hholds.roles user huser
    · exact Row.seen_eq_committed (h.appUser.unheld tx' hne user hheld)
  demoted user huser := by
    rw [h.appUser.held tx' hne user (hholds.demoted user huser).1]
    exact hholds.demoted user huser
  knows := h.knows hne hholds.knows

end Others

/-! ## The clock -/

theorem frozen_mono {row : Event} {now' : Timestamp} (h : row.frozen now = true)
    (hle : now ≤ now') : row.frozen now' = true := by
  simp only [Event.frozen, Bool.and_eq_true, decide_eq_true_eq, Option.any_eq_true] at h ⊢
  obtain ⟨hkind, closesAt, hclosesAt, hclosed⟩ := h
  exact ⟨hkind, closesAt, hclosesAt, hclosed.trans hle⟩

/-- A list that takes signups is not frozen. -/
theorem frozen_of_capacity {row : Event} {capacity : Option ℤ}
    (h : row.registrationCapacity now = .ok capacity) : row.frozen now = false := by
  unfold Event.registrationCapacity at h
  split at h
  · cases h
  · split at h
    · cases h
    · next hclosed => simpa [Event.frozen] using fun _ => hclosed

def Db.later (s : Db) (w : World) : Db := { s with clock := s.clock + w.elapsed }

theorem clock_later (s : Db) (w : World) : s.clock ≤ (s.later w).clock := by
  simp [Db.later]

variable {s : Db} {tx : ℕ}

theorem Point.Holds.later (h : p.Holds tx s) (w : World) :
    p.Holds tx (s.later w) := by
  refine ⟨h.owes, h.accounts, h.events, h.rows, h.roles, h.demoted, ?_⟩
  have hclock := clock_later s w
  have hknows := h.knows
  cases p with
  | readRole | findAdmins | lockAdmins | writeRole | findStray | findFreeable =>
      exact le_trans hknows hclock
  | deleteStray => exact ⟨le_trans hknows.1 hclock, hknows.2⟩
  | _ => exact hknows

variable {s' : Db}

theorem step_lands (hinv : Inv s) (hholds : p.Holds tx s)
    (h : run tx s w p = some (s', n)) : Lands tx p s s' n := by
  cases p with
  | createEvent => exact step_createEvent hinv hholds h
  | update => exact step_update hinv hholds h
  | findSeats =>
      cases h
      exact lands_quiet hinv (hholds.idle rfl rfl rfl) (fun _ => rfl) rfl trivial
  | deleteSeats => exact step_deleteSeats hinv hholds h
  | deleteEvent => exact step_deleteEvent hinv hholds h
  | readForUser =>
      cases h
      exact step_readForUser hinv hholds
  | readEvent =>
      cases h
      exact step_readEvent hinv hholds
  | claimSeat =>
      cases h
      exact step_claimSeat hinv hholds
  | person => exact step_person hinv hholds h
  | takeSeat => exact step_takeSeat hinv hholds h
  | insert => exact step_insert hinv hholds h
  | readDuplicate =>
      cases h
      exact step_readDuplicate hinv hholds
  | readFull =>
      cases h
      exact step_readFull hinv hholds
  | readHolder =>
      cases h
      exact step_readHolder hinv hholds
  | deleteSeat => exact step_deleteSeat hinv hholds h
  | returnSeat => exact step_returnSeat hinv hholds h
  | setRole =>
      cases h
      exact lands_quiet hinv (hholds.idle rfl rfl rfl) (fun _ => rfl) rfl le_rfl
  | readRole =>
      cases h
      exact step_readRole hinv hholds
  | findAdmins =>
      cases h
      exact lands_quiet hinv (hholds.idle rfl rfl rfl) (fun _ => rfl) rfl hholds.knows
  | lockAdmins => exact step_lockAdmins hinv hholds h
  | writeRole => exact step_writeRole hinv hholds h
  | findStray =>
      cases h
      exact step_findStray hinv hholds
  | deleteStray => exact step_deleteStray hinv hholds h
  | findFreeable =>
      cases h
      exact step_findFreeable hinv hholds _
  | deleteFreeable => exact step_deleteFreeable hinv hholds h
  | returnSeats => exact step_returnSeats hinv hholds h

theorem next_lands (hinv : Inv s) (hholds : p.Holds tx s)
    (h : next tx s p w = some (s', n)) : Lands tx p (s.later w) s' n :=
  step_lands ⟨hinv.counted, hinv.keyed, hinv.events, hinv.seats⟩ (hholds.later w) h

theorem holds_entry (hidle : s.Idle tx) (request : Request) :
    request.entry.Holds tx s := by
  cases request with
  | createEvent =>
      exact holds_of_idle hidle (fun _ => rfl) rfl rfl
  | update | delete | register | remove | setRole =>
      exact holds_of_idle hidle (fun _ => rfl) rfl trivial

theorem transactional :
    machine.Transactional (fun _ _ => True) Inv (fun tx p s => p.Holds tx s) Db.Idle
      (fun tx s s' => s.Apart tx s') where
  entry := fun request _ hidle => holds_entry hidle request
  own := by
    intro c tx w p s n _ _ hnext hinv hholds
    have hlands := next_lands hinv hholds hnext
    exact ⟨hlands.moves.inv, hlands.goes, hlands.ends⟩
  next_apart := by
    intro tx s p w s' n hnext hinv hholds
    have hapart := (next_lands hinv hholds hnext).moves.apart
    exact { hapart with clock := (clock_later s w).trans hapart.clock }
  rollback := fun {tx s} hinv =>
    ⟨(hinv.rollback tx).inv, s.idle_rollback tx, (hinv.rollback tx).apart⟩
  stable := fun hne hapart _ _ hholds => hapart.holds hne hholds
  idle := fun hne hapart hidle => hapart.idle hne hidle

inductive Mark where
  | swept (call : ℕ) (user : UserId)
  | demoted (call : ℕ) (user : UserId)
  | thawed (event : EventId)

def Db.closed (s : Db) (event : EventId) : Bool :=
  (s.event.row event).committed.any fun row => row.frozen s.clock

def thaws (tx : ℕ) (s : Db) (w : World) (event : EventId) (patch : Patch) : Bool :=
  (next tx s (.update event patch) w).any fun out =>
    (s.later w).closed event && !out.1.closed event

def marksAt (tx : ℕ) (s : Db) (w : World) : Point → List Mark
  | .findFreeable user _ => [.swept tx user]
  | .returnSeats user [] => [.demoted tx user]
  | .update event patch => if thaws tx s w event patch then [.thawed event] else []
  | _ => []

def marks (c : Config Db Point) : Move Request World → List Mark
  | .advance id w => (c.calls.lookup id).elim [] (marksAt id c.shared w)
  | _ => []

def Settled (s : Db) (since : List Mark) (event : EventId) : Prop :=
  s.closed event = true ∨ .thawed event ∈ since

def Swept (tx : ℕ) (s : Db) (log : List Mark) (user : UserId) (rest : List EventId) : Prop :=
  ∃ before since, log = before ++ .swept tx user :: since ∧
    ∀ event seat, (s.registration.row (event, user)).committed = some seat →
      event ∈ rest ∨ (s.registration.row (event, user)).seen tx = none ∨ Settled s since event

def Demoted (s : Db) (log : List Mark) (user : UserId) (event : EventId) : Prop :=
  ∃ tx before mid after, log = before ++ .swept tx user :: mid ++ .demoted tx user :: after ∧
    (∀ tx', Mark.demoted tx' user ∉ after) ∧ Settled s (mid ++ after) event

def Point.sweep : Point → Option (UserId × List EventId)
  | .deleteFreeable user rest _ => some (user, rest)
  | .returnSeats user _ => some (user, [])
  | _ => none

structure Traced (c : Config Db Point) (log : List Mark) : Prop where
  parents : ∀ event user seat,
    (c.shared.registration.row (event, user)).committed = some seat →
    (c.shared.appUser.row user).committed = some .parent → Demoted c.shared log user event
  sweeps : ∀ tx p user rest, c.calls.lookup tx = some p → p.sweep = some (user, rest) →
    Swept tx c.shared log user rest

/-! ## One step of a run -/

structure Traces (tx : ℕ) (s s' : Db) (log : List Mark) : Prop where
  apart : s.Apart tx s'
  seats : ∀ k seat, (s'.registration.row k).committed = some seat →
    (s.registration.row k).committed = some seat ∨
      HoldsPerson tx s k.2 ∧ (s'.appUser.row k.2).committed ≠ some .parent
  closed : ∀ k seat, (s'.registration.row k).committed = some seat → s.closed k.1 = true →
    s'.closed k.1 = true ∨ .thawed k.1 ∈ log

variable {event : EventId}

theorem closed_later (w : World) (h : s.closed event = true) :
    (s.later w).closed event = true := by
  unfold Db.closed at h ⊢
  obtain ⟨row, hrow, hfrozen⟩ := (Option.any_eq_true _ _).mp h
  exact (Option.any_eq_true _ _).mpr ⟨row, hrow, frozen_mono hfrozen (clock_later s w)⟩

theorem thaw_of_step {k : EventId × UserId} (hinv : Inv s') (hshifts : Shifts p s s')
    (hrow : (s'.registration.row k).committed = some seat) (hclosed : s.closed k.1 = true)
    (hnot : s'.closed k.1 = false) : ∃ patch, p = .update k.1 patch := by
  obtain ⟨row', hrow'⟩ := event_of_committed hinv hrow
  obtain ⟨row, hold, hfrozen⟩ := (Option.any_eq_true _ _).mp hclosed
  have hfrozen' : row'.frozen s.clock = false := by
    simpa [Db.closed, hrow', hshifts.clock] using hnot
  obtain hsame | hnone | hnone | ⟨patch, -, hp, -, -⟩ | ⟨old, new, hold', hnew, hplan⟩ :=
    hshifts.events k.1
  · rw [hrow', hold] at hsame
    cases hsame
    rw [hfrozen] at hfrozen'
    cases hfrozen'
  · rw [hrow'] at hnone
    cases hnone
  · rw [hold] at hnone
    cases hnone
  · exact ⟨patch, hp⟩
  · rw [hold] at hold'
    rw [hrow'] at hnew
    cases hold'
    cases hnew
    rw [← frozen_congr hplan, hfrozen] at hfrozen'
    cases hfrozen'

theorem traces_next (hinv : Inv s) (hholds : p.Holds tx s)
    (hnext : next tx s p w = some (s', n)) :
    Traces tx s s' (marksAt tx s w p) := by
  have hlands := next_lands hinv hholds hnext
  constructor
  case apart =>
    have hapart := hlands.moves.apart
    exact { hapart with clock := (clock_later s w).trans hapart.clock }
  case seats =>
    intro k seat hrow
    obtain hsame | hnone | ⟨claimed, createdAt, rfl, rfl, hadmitted⟩ := hlands.shifts.seats k
    · exact .inl (hsame.symm.trans hrow)
    · rw [hrow] at hnone
      cases hnone
    · refine .inr ⟨hholds.knows.1, fun hparent => ?_⟩
      obtain ⟨role, hrole, hne⟩ := hadmitted.role
      obtain hsame | ⟨role', hrole', hne'⟩ | ⟨hp, -⟩ := hlands.shifts.roles claimed.user
      · exact hne (Option.some.inj (hrole.symm.trans (hsame.symm.trans hparent)))
      · exact hne' (Option.some.inj (hrole'.symm.trans hparent))
      · cases hp
  case closed =>
    intro k seat hrow hclosed
    cases hnot : s'.closed k.1 with
    | true => exact .inl rfl
    | false =>
        obtain ⟨patch, rfl⟩ :=
          thaw_of_step hlands.moves.inv hlands.shifts hrow (closed_later w hclosed) hnot
        refine .inr ?_
        simp [marksAt, thaws, hnext, closed_later w hclosed, hnot]

theorem traces_rollback (hinv : Inv s) (tx : ℕ) : Traces tx s (s.rollback tx) [] where
  apart := (hinv.rollback tx).apart
  seats k seat hrow := .inl (((same_rollback tx s).1 k).symm.trans hrow)
  closed k seat _ hclosed := by
    refine .inl ?_
    unfold Db.closed
    rw [(same_rollback tx s).2 k.1]
    exact hclosed

section Traces

variable {tx' : ℕ} {log marked : List Mark} {user : UserId}

theorem Traces.settled (h : Traces tx s s' marked) {since : List Mark}
    (hrow : (s'.registration.row (event, user)).committed = some seat)
    (hsettled : Settled s since event) : Settled s' (since ++ marked) event := by
  rcases hsettled with hclosed | hthawed
  · rcases h.closed _ seat hrow hclosed with hclosed' | hmarked
    · exact .inl hclosed'
    · exact .inr (List.mem_append_right _ hmarked)
  · exact .inr (List.mem_append_left _ hthawed)

theorem Traces.swept (h : Traces tx s s' marked) (hne : tx' ≠ tx)
    (hheld : (s.appUser.row user).Held tx') (hswept : Swept tx' s log user rest) :
    Swept tx' s' (log ++ marked) user rest := by
  obtain ⟨before, since, rfl, hrows⟩ := hswept
  refine ⟨before, since ++ marked, by simp, fun event seat hrow => ?_⟩
  rcases h.seats _ seat hrow with hold | hinsert
  · rcases hrows event seat hold with hrest | hnone | hsettled
    · exact .inl hrest
    · refine .inr (.inl ?_)
      have hkept : (s.registration.row (event, user)).Held tx' := by
        by_contra hnot
        rw [Row.seen_eq_committed hnot, hold] at hnone
        cases hnone
      rw [h.apart.registration.held tx' hne _ hkept]
      exact hnone
    · exact .inr (.inr (h.settled hrow hsettled))
  · exact absurd (hheld.unique hinsert.1.1) hne

theorem Traces.demoted (h : Traces tx s s' marked)
    (hrow : (s'.registration.row (event, user)).committed = some seat)
    (hnone : ∀ tx', Mark.demoted tx' user ∉ marked) (hdemoted : Demoted s log user event) :
    Demoted s' (log ++ marked) user event := by
  obtain ⟨call, before, mid, after, rfl, hlast, hsettled⟩ := hdemoted
  refine ⟨call, before, mid, after ++ marked, by simp, fun tx' hmem => ?_, ?_⟩
  · rcases List.mem_append.mp hmem with hafter | hmarked
    · exact hlast tx' hafter
    · exact hnone tx' hmarked
  · rw [← List.append_assoc]
    exact h.settled hrow hsettled

end Traces

def Unswept (out : Db × Reply) : Prop := ∀ q, out.2 = .goto q → q.sweep = none

theorem unswept_answer (s : Db) (a : Except AppError Answer) : Unswept (s, .answer a) := nofun

theorem unswept_goto (s : Db) {q : Point} (h : q.sweep = none) : Unswept (s, .goto q) := by
  intro q' hq
  cases hq
  exact h

theorem unswept_onRow {K V : Type} [DecidableEq K] {r : Option (Option V × Rows K V)}
    {missed : Db × Reply} {then_ : V → Rows K V → Db × Reply}
    (h : Rows.onRow r missed then_ = some out) (hmissed : Unswept missed)
    (hthen : ∀ v rows, Unswept (then_ v rows)) : Unswept out := by
  obtain ⟨rows, -, rfl⟩ | ⟨v, rows, -, rfl⟩ := Rows.onRow_cases h
  · exact hmissed
  · exact hthen v rows

theorem unswept_map {α : Type} {r : Option α} {f : α → Db × Reply} (h : r.map f = some out)
    (hf : ∀ a, Unswept (f a)) : Unswept out := by
  obtain ⟨a, -, rfl⟩ := Option.map_eq_some_iff.mp h
  exact hf a

theorem unswept_ite {p : Prop} [Decidable p] {out' : Db × Reply} (h : Unswept out)
    (h' : Unswept out') : Unswept (if p then out else out') := by
  split
  · exact h
  · exact h'

/-- Where a sweep comes from. -/
def Point.sweeps : Point → Bool
  | .findFreeable .. | .deleteFreeable .. | .returnSeats .. => true
  | _ => false

theorem unswept_run (hp : p.sweeps = false) (h : run tx s w p = some out) :
    Unswept out := by
  cases p with
  | createEvent =>
      simp only [run, createEvent] at h
      split at h
      · cases h
      · cases h
        exact unswept_answer _ _
  | update =>
      simp only [run, update] at h
      split at h
      · split at h
        · cases h
          exact unswept_answer _ _
        · cases h
          exact unswept_answer _ _
      · exact unswept_onRow h (unswept_answer _ _) fun _ _ => unswept_answer _ _
  | findSeats | setRole | findAdmins | findStray =>
      cases h
      exact unswept_goto _ rfl
  | deleteSeats event users =>
      cases users with
      | nil =>
          cases h
          exact unswept_goto _ rfl
      | cons => exact unswept_map h fun _ => unswept_goto _ rfl
  | deleteEvent =>
      exact unswept_onRow h (unswept_answer _ _) fun _ _ =>
        unswept_ite (unswept_answer _ _) (unswept_goto _ rfl)
  | readForUser =>
      cases h
      unfold readForUser
      split
      · exact unswept_answer _ _
      · exact unswept_goto _ rfl
  | readEvent =>
      cases h
      unfold readEvent
      split
      · exact unswept_answer _ _
      · split
        · exact unswept_answer _ _
        · exact unswept_goto _ rfl
  | claimSeat =>
      cases h
      unfold claimSeat
      split
      · exact unswept_goto _ rfl
      · exact unswept_goto _ rfl
  | person =>
      exact unswept_onRow h (unswept_goto _ rfl) fun _ _ =>
        unswept_ite (unswept_goto _ rfl) (unswept_goto _ rfl)
  | takeSeat =>
      exact unswept_onRow h (unswept_goto _ rfl) fun _ _ => unswept_goto _ rfl
  | insert =>
      simp only [run, insert] at h
      split at h
      · split at h
        · cases h
          exact unswept_goto _ rfl
        · split at h
          · cases h
            exact unswept_answer _ _
          · cases h
            exact unswept_answer _ _
      · cases h
  | readDuplicate =>
      cases h
      unfold readDuplicate
      split
      · exact unswept_answer _ _
      · exact unswept_answer _ _
  | readFull =>
      cases h
      unfold readFull
      split
      · exact unswept_answer _ _
      · exact unswept_goto _ rfl
  | readHolder =>
      cases h
      unfold readHolder
      split
      · exact unswept_answer _ _
      · exact unswept_answer _ _
  | deleteSeat =>
      exact unswept_onRow h (unswept_answer _ _) fun _ _ => unswept_goto _ rfl
  | returnSeat => exact unswept_map h fun _ => unswept_answer _ _
  | readRole =>
      cases h
      unfold readRole
      split
      · exact unswept_goto _ rfl
      · exact unswept_goto _ rfl
  | lockAdmins user role now rest =>
      cases rest with
      | nil =>
          simp only [run, lockAdmins] at h
          split at h
          · cases h
            exact unswept_answer _ _
          · cases h
            exact unswept_goto _ rfl
      | cons => exact unswept_map h fun _ => unswept_goto _ rfl
  | writeRole =>
      exact unswept_onRow h (unswept_answer _ _) fun _ _ =>
        unswept_ite (unswept_goto _ rfl) (unswept_answer _ _)
  | deleteStray user now rest =>
      cases rest with
      | nil =>
          cases h
          exact unswept_goto _ rfl
      | cons => exact unswept_map h fun _ => unswept_goto _ rfl
  | findFreeable | deleteFreeable | returnSeats => cases hp

variable {user : UserId}

theorem swept_find (hinv : Inv s)
    (hholds : (Point.findFreeable user now).Holds tx s) (log : List Mark) :
    Swept tx (s.later w) (log ++ [.swept tx user]) user ((s.later w).freeable tx user now) := by
  refine ⟨log, [], rfl, fun event seat hrow => ?_⟩
  have hseen : (s.registration.row (event, user)).seen tx = some seat :=
    (Row.seen_eq_committed (hholds.rows rfl (event, user))).trans hrow
  have howed : s.owed tx event = 0 := hholds.owes event nofun
  obtain ⟨row, hevent⟩ := event_of_seat (k := (event, user)) hinv howed hseen
  cases hfrozen : row.frozen now with
  | false =>
      have hfreeable : ((s.event.row event).seen tx).any (fun row => !row.frozen now) = true := by
        simp [hevent, hfrozen]
      have hmem : ((event, user), seat) ∈ s.registration.visible tx fun k _ =>
          k.2 = user ∧ ((s.event.row k.1).seen tx).any fun row => !row.frozen now :=
        Rows.mem_visible.mpr ⟨hseen, by simpa using hfreeable⟩
      exact .inl (List.mem_map.mpr ⟨_, hmem, rfl⟩)
  | true =>
      refine .inr (.inr (.inl ?_))
      have hcommitted : (s.event.row event).committed = some row :=
        (Row.seen_eq_committed (hholds.events rfl event)).symm.trans hevent
      have hclock : now ≤ (s.later w).clock := le_trans hholds.knows (clock_later s w)
      exact (Option.any_eq_true _ _).mpr ⟨row, hcommitted, frozen_mono hfrozen hclock⟩

variable {log : List Mark}

/-- A step of the sweep itself. -/
theorem Swept.own {rest' : List EventId}
    (htraces : Traces tx s s' [])
    (hrows : ∀ k, (s'.registration.row k).committed = (s.registration.row k).committed)
    (hnone : ∀ event, (s.registration.row (event, user)).seen tx = none →
      (s'.registration.row (event, user)).seen tx = none) (hrest : ∀ event ∈ rest, event ∈ rest' ∨
      (s'.registration.row (event, user)).seen tx = none) (hswept : Swept tx s log user rest) :
    Swept tx s' log user rest' := by
  obtain ⟨before, since, rfl, hold⟩ := hswept
  refine ⟨before, since, rfl, fun event seat hrow => ?_⟩
  rcases hold event seat ((hrows _).symm.trans hrow) with hmem | hgone | hsettled
  · rcases hrest event hmem with hmem' | hgone
    · exact .inl hmem'
    · exact .inr (.inl hgone)
  · exact .inr (.inl (hnone event hgone))
  · refine .inr (.inr ?_)
    have hsettled' := htraces.settled hrow hsettled
    rwa [List.append_nil] at hsettled'

theorem swept_next {q : Point} (hinv : Inv s)
    (hholds : p.Holds tx s) (hnext : next tx s p w = some (s', .goto q))
    (hq : q.sweep = some (user, rest))
    (hlog : ∀ user rest, p.sweep = some (user, rest) → Swept tx s log user rest) :
    Swept tx s' (log ++ marksAt tx s w p) user rest := by
  have htraces := traces_next hinv hholds hnext
  cases hp : p.sweeps with
  | false =>
      have hnone := unswept_run hp hnext q rfl
      rw [hnone] at hq
      cases hq
  | true =>
      cases p with
      | findFreeable =>
          cases hnext
          cases hq
          exact swept_find hinv hholds log
      | deleteFreeable user' events =>
          simp only [marksAt, List.append_nil] at htraces ⊢
          cases events with
          | nil =>
              cases hnext
              cases hq
              exact (hlog _ _ rfl).own htraces (fun _ => rfl) (fun _ h => h)
                (fun _ hmem => by cases hmem)
          | cons event =>
              obtain ⟨⟨old, rows⟩, halter, heq⟩ := Option.map_eq_some_iff.mp hnext
              cases heq
              cases hq
              have hgone : (rows.row (event, user)).seen tx = none := by
                cases old with
                | none =>
                    obtain ⟨hseen, ⟨-, rfl⟩ | ⟨v, hv, -⟩⟩ := Rows.alter_cases halter
                    · exact hseen
                    · cases hv
                | some => exact (Rows.held_alter halter).2
              have hothers : ∀ e, e ≠ event →
                  rows.row (e, user) = s.registration.row (e, user) := by
                intro e hne
                exact Rows.row_alter_ne halter fun heq => hne (congrArg Prod.fst heq)
              refine (hlog _ _ rfl).own htraces (Rows.committed_alter halter) (fun e hnone => ?_)
                (fun e hmem => ?_)
              · by_cases he : e = event
                · rw [he]
                  exact hgone
                · dsimp only
                  rw [hothers e he]
                  exact hnone
              · rcases List.mem_cons.mp hmem with rfl | hmem'
                · exact .inr hgone
                · exact .inl hmem'
      | returnSeats user' gone =>
          cases gone with
          | nil => cases hnext
          | cons =>
              simp only [marksAt, List.append_nil] at htraces ⊢
              obtain ⟨⟨old, rows⟩, halter, heq⟩ := Option.map_eq_some_iff.mp hnext
              cases heq
              cases hq
              exact (hlog _ _ rfl).own htraces (fun _ => rfl) (fun _ h => h)
                (fun _ hmem => by cases hmem)
      | _ => cases hp

/-- The commit of a fall to parent. -/
theorem demoted_next
    (hinv : Inv s) (hholds : (Point.returnSeats user []).Holds tx s)
    (hnext : next tx s (.returnSeats user []) w = some (s', n))
    (hrow : (s'.registration.row (event, user)).committed = some seat)
    (hswept : Swept tx s log user []) :
    Demoted s' (log ++ [.demoted tx user]) user event := by
  have htraces := traces_next hinv hholds hnext
  obtain ⟨before, since, rfl, hold⟩ := hswept
  refine ⟨tx, before, since, [], rfl, fun _ hmem => (by cases hmem), ?_⟩
  have hseen : (s.registration.row (event, user)).seen tx = some seat := by
    cases hnext
    exact (committed_commit tx s.registration (event, user)).symm.trans hrow
  obtain ⟨seat', hseat', rfl⟩ := hinv.seats (event, user) tx seat hseen
  rw [List.append_nil]
  rcases hold event seat' hseat' with hmem | hnone | hsettled
  · cases hmem
  · rw [hseen] at hnone
    cases hnone
  · rcases htraces.settled hrow hsettled with hclosed | hthawed
    · exact .inl hclosed
    · refine .inr ?_
      simpa [marksAt] using hthawed

section Runs

variable {c c' : Config Db Point}

theorem sweep_entry (request : Request) : request.entry.sweep = none := by
  cases request <;> rfl

theorem traced_start (htraced : Traced c log) (request : Request) :
    Traced { c with
      calls := c.calls.insert c.started (machine.entry request)
      started := c.started + 1 } log where
  parents := htraced.parents
  sweeps := by
    intro tx p user rest hp hsweep
    obtain ⟨-, rfl⟩ | ⟨-, hp⟩ := insert_cases hp
    · have hnone : (machine.entry request).sweep = none := sweep_entry request
      rw [hnone] at hsweep
      cases hsweep
    · exact htraced.sweeps tx p user rest hp hsweep

/-- The account of a sweep is held. -/
theorem held_of_sweep (hholds : p.Holds tx s)
    (hsweep : p.sweep = some (user, rest)) :
    (s.appUser.row user).Held tx := by
  cases p with
  | deleteFreeable | returnSeats =>
      cases hsweep
      exact (hholds.demoted user rfl).1
  | _ => cases hsweep

theorem demoted_notMem_marksAt {tx' : ℕ}
    (hp : p ≠ .returnSeats user []) : Mark.demoted tx' user ∉ marksAt tx s w p := by
  intro hmem
  cases p with
  | findFreeable => simp [marksAt] at hmem
  | returnSeats user' gone =>
      cases gone with
      | nil =>
          simp only [marksAt, List.mem_singleton, Mark.demoted.injEq] at hmem
          exact hp (by rw [hmem.2])
      | cons => simp [marksAt] at hmem
  | update =>
      simp only [marksAt] at hmem
      split at hmem
      · simp at hmem
      · cases hmem
  | _ => cases hmem

theorem traced_advance (hruns : c.Runs Inv (fun tx p s => p.Holds tx s) Db.Idle)
    (htraced : Traced c log) (hp : c.calls.lookup tx = some p)
    (hnext : next tx c.shared p w = some (s, n)) :
    Traced (c.after tx s n) (log ++ marksAt tx c.shared w p) := by
  have hinv := hruns.shared
  have hholds := hruns.calls tx p hp
  have htraces := traces_next hinv hholds hnext
  have hlands := next_lands hinv hholds hnext
  constructor
  case parents =>
    intro event user seat hrow hparent
    rw [Config.shared_after] at hrow hparent ⊢
    by_cases hlast : p = .returnSeats user []
    · subst hlast
      exact demoted_next hinv hholds hnext hrow (htraced.sweeps tx _ user [] hp rfl)
    · rcases htraces.seats _ seat hrow with hold | hinsert
      · obtain hsame | ⟨role, hrole, hne⟩ | ⟨heq, -⟩ := hlands.shifts.roles user
        · have hold' := htraced.parents event user seat hold (hsame.symm.trans hparent)
          exact htraces.demoted hrow (fun _ => demoted_notMem_marksAt hlast) hold'
        · exact absurd (Option.some.inj (hrole.symm.trans hparent)) hne
        · exact absurd heq hlast
      · exact absurd hparent hinsert.2
  case sweeps =>
    intro tx' q user rest hq hsweep
    rw [Config.shared_after]
    rcases Config.lookup_after hq with ⟨hne, hold⟩ | ⟨rfl, rfl⟩
    · exact htraces.swept hne (held_of_sweep (hruns.calls tx' q hold) hsweep)
        (htraced.sweeps tx' q user rest hold hsweep)
    · exact swept_next hinv hholds hnext hsweep fun user rest hrest =>
        htraced.sweeps tx' p user rest hp hrest

theorem traced_abandon (hruns : c.Runs Inv (fun tx p s => p.Holds tx s) Db.Idle)
    (htraced : Traced c log) (tx : ℕ) :
    Traced { c with shared := machine.rollback tx c.shared, calls := c.calls.erase tx } log := by
  have htraces : Traces tx c.shared (machine.rollback tx c.shared) [] :=
    traces_rollback hruns.shared tx
  constructor
  case parents =>
    intro event user seat hrow hparent
    have hrole : (c.shared.appUser.row user).committed = some .parent :=
      (Rows.committed_rollback tx c.shared.appUser user).symm.trans hparent
    have hold : (c.shared.registration.row (event, user)).committed = some seat :=
      (Rows.committed_rollback tx c.shared.registration _).symm.trans hrow
    have hdemoted := htraces.demoted hrow (fun _ hmem => by cases hmem)
      (htraced.parents event user seat hold hrole)
    rwa [List.append_nil] at hdemoted
  case sweeps =>
    intro tx' q user rest hq hsweep
    obtain ⟨hne, hq⟩ := erase_cases hq
    have hswept := htraces.swept hne (held_of_sweep (hruns.calls tx' q hq) hsweep)
      (htraced.sweeps tx' q user rest hq hsweep)
    rwa [List.append_nil] at hswept

theorem traced_step (hruns : c.Runs Inv (fun tx p s => p.Holds tx s) Db.Idle)
    (htraced : Traced c log) {m : Move Request World} (hstep : machine.step c m = some c') :
    Traced c' (log ++ marks c m) := by
  obtain ⟨request, rfl, rfl⟩ | ⟨tx, w, p, s, n, rfl, hp, hnext, rfl⟩ | ⟨tx, p, rfl, -, rfl⟩ :=
    Machine.step_cases hstep
  · simp only [marks, List.append_nil]
    exact traced_start htraced request
  · simp only [marks, hp, Option.elim]
    exact traced_advance hruns htraced hp hnext
  · simp only [marks, List.append_nil]
    exact traced_abandon hruns htraced tx

end Runs

theorem start_runs (accounts : List (UserId × Role)) (clock : Timestamp) :
    (start accounts clock).Runs Inv (fun tx p s => p.Holds tx s) Db.Idle := by
  have haccounts : ∀ (rows : Rows UserId Role) (tx : ℕ), rows.Idle tx →
      (accounts.foldl (fun t account => t.put account.1 account.2) rows).Idle tx := by
    induction accounts with
    | nil => exact fun rows tx h => h
    | cons account rest ih =>
        exact fun rows tx h => ih _ tx (Rows.idle_put h account.1 account.2)
  have hempty : ∀ {K V : Type} [DecidableEq K] (k : K), (∅ : Rows K V).row k = .vacant :=
    fun k => rfl
  have hidle : ∀ {K V : Type} [DecidableEq K] (tx : ℕ), (∅ : Rows K V).Idle tx := by
    intro K V _ tx k hheld
    obtain ⟨own, hown⟩ := hheld
    rw [hempty] at hown
    cases hown
  refine Config.initial_runs ⟨fun _ => rfl, fun k v hv => ?_, fun k tx v hv => ?_,
    fun k tx v hv => ?_⟩ fun tx => ⟨haccounts ∅ tx (hidle tx), hidle tx, hidle tx⟩
  · rw [hempty] at hv
    rcases hv with hcommitted | ⟨tx, hwriter⟩
    · cases hcommitted
    · cases hwriter
  · rw [hempty] at hv
    cases hv
  · rw [hempty] at hv
    cases hv

variable {c : Config Db Point}

theorem run_traced {accounts : List (UserId × Role)} {clock : Timestamp}
    {ms : List (Move Request World)} (hrun : machine.run (start accounts clock) ms = some c) :
    c.Runs Inv (fun tx p s => p.Holds tx s) Db.Idle ∧
      Traced c (machine.observe marks (start accounts clock) ms) := by
  have htraced : Traced (start accounts clock) [] :=
    { parents := fun event user seat hrow => by cases hrow
      sweeps := fun tx p user rest hp => by simp [start, Config.initial] at hp }
  exact Machine.observe_induction (f := marks)
    (J := fun c log => c.Runs Inv (fun tx p s => p.Holds tx s) Db.Idle ∧ Traced c log)
    (fun hJ _ hstep =>
      ⟨transactional.runs_step hJ.1 trivial hstep, traced_step hJ.1 hJ.2 hstep⟩)
    ⟨start_runs accounts clock, htraced⟩ (Machine.guarded_true _ ms) hrun

def Db.registrations (s : Db) (event : EventId) : ℕ :=
  s.registration.count fun _ row => decide (row.event = event)

theorem Inv.registrations (hinv : Inv s) (event : EventId) :
    Row.amount Event.registrationCount (s.event.row event).committed = s.registrations event := by
  have hcounted := hinv.counted event
  have hcount : (s.registration.total fun _ => seatCount.weight event) =
      s.registrations event := by
    rw [Db.registrations, ← Rows.total_count]
    simp [seatCount]
  rw [RefCount.total_reads, hcount] at hcounted
  exact hcounted

/-- What one more step does to the seats. -/
theorem step_seats {c' : Config Db Point}
    (hruns : c.Runs Inv (fun tx p s => p.Holds tx s) Db.Idle) {m : Move Request World}
    (hstep : machine.step c m = some c') :
    (∀ k, (c.shared.registration.row k).committed = none →
        (c'.shared.registration.row k).committed ≠ none →
        ∃ row, (c.shared.event.row k.1).committed = some row ∧ row.hasRoom = true) ∧
      ∀ tx w p seat, m = .advance tx w → c.calls.lookup tx = some p → p.registers = some seat →
        (c.shared.registration.row seat.key).committed ≠ none → Same c.shared c'.shared := by
  obtain ⟨request, rfl, rfl⟩ | ⟨tx, w, p, s, n, rfl, hp, hnext, rfl⟩ | ⟨tx, p, rfl, -, rfl⟩ :=
    Machine.step_cases hstep
  · exact ⟨fun k hnone hsome => absurd hnone hsome, fun tx w p seat hm => by cases hm⟩
  · have hlands := next_lands hruns.shared (hruns.calls tx p hp) hnext
    rw [Config.shared_after]
    refine ⟨fun k hnone hsome => ?_, fun tx' w' p' seat hm hp' hseat hrow => ?_⟩
    · obtain hsame | hgone | ⟨seat, createdAt, -, rfl, hadmitted⟩ := hlands.shifts.seats k
      · exact absurd (hsame.trans hnone) hsome
      · exact absurd hgone hsome
      · exact hadmitted.room
    · cases hm
      rw [hp] at hp'
      cases hp'
      rcases hlands.repeats seat hseat with hsame | hadmitted
      · exact hsame
      · exact absurd hadmitted.vacant hrow
  · refine ⟨fun k hnone hsome => ?_, fun tx' w' p' seat hm => by cases hm⟩
    exact absurd ((Rows.committed_rollback tx c.shared.registration k).trans hnone) hsome

/-- Every counter is the number of its seats, a parent's seat on an open list is on one that a
PATCH took out of the freeze after the sweep of the parent's last fall, no seat is taken on a
full list, and a repeated signup moves nothing. -/
theorem seats_are_accounted_for {accounts : List (UserId × Role)} {clock : Timestamp}
    {c : Config Db Point} {ms : List (Move Request World)}
    (hrun : machine.run (start accounts clock) ms = some c) :
    (∀ event row, (c.shared.event.row event).committed = some row →
      row.registrationCount = c.shared.registrations event) ∧
    (∀ event, (c.shared.event.row event).committed = none → c.shared.registrations event = 0) ∧
    (∀ event user row seat capacity, (c.shared.event.row event).committed = some row →
      (c.shared.registration.row (event, user)).committed = some seat →
      (c.shared.appUser.row user).committed = some .parent →
      row.registrationCapacity c.shared.clock = .ok capacity →
      ∃ tx before mid after, machine.observe marks (start accounts clock) ms =
          before ++ .swept tx user :: mid ++ .demoted tx user :: after ∧
        (∀ tx', Mark.demoted tx' user ∉ after) ∧ Mark.thawed event ∈ mid ++ after) ∧
    ∀ m c', machine.step c m = some c' →
      (∀ k, (c.shared.registration.row k).committed = none →
        (c'.shared.registration.row k).committed ≠ none →
        ∃ row, (c.shared.event.row k.1).committed = some row ∧ row.hasRoom = true) ∧
      ∀ tx w p seat, m = .advance tx w → c.calls.lookup tx = some p → p.registers = some seat →
        (c.shared.registration.row seat.key).committed ≠ none → Same c.shared c'.shared := by
  obtain ⟨hruns, htraced⟩ := run_traced hrun
  have hcounted := hruns.shared.registrations
  refine ⟨fun event row hrow => ?_, fun event hnone => ?_,
    fun event user row seat capacity hrow hseat hparent hopen => ?_,
    fun m c' hstep => step_seats hruns hstep⟩
  · have hevent := hcounted event
    rw [hrow] at hevent
    exact hevent
  · have hevent := hcounted event
    rw [hnone] at hevent
    exact Int.natCast_eq_zero.mp hevent.symm
  · obtain ⟨tx, before, mid, after, hlog, hlast, hclosed | hthawed⟩ :=
      htraced.parents event user seat hseat hparent
    · have hfrozen := frozen_of_capacity hopen
      simp [Db.closed, hrow, hfrozen] at hclosed
    · exact ⟨tx, before, mid, after, hlog, hlast, hthawed⟩

namespace Sample

def pupil : UserId := ⟨.ending "0001"⟩

def teacher : UserId := ⟨.ending "0002"⟩

def uuid : Uuid := .ending "000e"

def trip : EventId := ⟨uuid⟩

def accounts : List (UserId × Role) := [(pupil, .student), (teacher, .teacher)]

def advances (id n : ℕ) : List (Move Request World) :=
  List.replicate n (.advance id ⟨0, uuid⟩)

end Sample

open Sample in
/-- A pupil takes the last seat, becomes a parent after the trip has started, and the trip is
moved to a later day. -/
def postponed : List (Move Request World) :=
  .start (.createEvent "trip" "" ⟨.registration, some 1⟩ (some 50) none) :: advances 0 1 ++
  .start (.register ⟨trip, pupil, teacher⟩) :: advances 1 6 ++
  .start (.setRole pupil .parent) :: .advance 2 ⟨100, uuid⟩ :: advances 2 7 ++
  .start (.update trip ⟨none, none, none, some (some 500), none⟩) :: advances 3 1

def Config.openSeat (c : Config Db Point) (event : EventId) (user : UserId) : Bool :=
  ((c.shared.event.row event).committed.any fun row =>
      (row.registrationCapacity c.shared.clock).toOption.isSome) &&
    (c.shared.registration.row (event, user)).committed.isSome &&
    decide ((c.shared.appUser.row user).committed = some .parent)

theorem openSeat_spec
    (h : Config.openSeat c event user = true) :
    ∃ row seat capacity, (c.shared.event.row event).committed = some row ∧
      (c.shared.registration.row (event, user)).committed = some seat ∧
      (c.shared.appUser.row user).committed = some .parent ∧
      row.registrationCapacity c.shared.clock = .ok capacity := by
  simp only [Config.openSeat, Bool.and_eq_true, decide_eq_true_eq, Option.any_eq_true] at h
  obtain ⟨⟨⟨row, hrow, hopen⟩, hseat⟩, hparent⟩ := h
  obtain ⟨seat, hseat⟩ := Option.isSome_iff_exists.mp hseat
  cases hcapacity : row.registrationCapacity c.shared.clock with
  | error =>
      rw [hcapacity] at hopen
      cases hopen
  | ok capacity => exact ⟨row, seat, capacity, hrow, hseat, hparent, hcapacity⟩

/-- A parent's seat on a list that is open. -/
theorem parent_sits_on_open_list :
    ∃ c row seat capacity, machine.run (start Sample.accounts 0) postponed = some c ∧
      (c.shared.event.row Sample.trip).committed = some row ∧
      (c.shared.registration.row (Sample.trip, Sample.pupil)).committed = some seat ∧
      (c.shared.appUser.row Sample.pupil).committed = some .parent ∧
      row.registrationCapacity c.shared.clock = .ok capacity := by
  have hends : (machine.run (start Sample.accounts 0) postponed).any (fun c =>
      Config.openSeat c Sample.trip Sample.pupil) = true := by
    decide
  obtain ⟨c, hrun, hopen⟩ := (Option.any_eq_true _ _).mp hends
  obtain ⟨row, seat, capacity, hseat⟩ := openSeat_spec hopen
  exact ⟨c, row, seat, capacity, hrun, hseat⟩

theorem seats_are_accounted_for_postponed :
    ∃ c row, machine.run (start Sample.accounts 0) postponed = some c ∧
      (c.shared.event.row Sample.trip).committed = some row ∧
      row.registrationCount = c.shared.registrations Sample.trip ∧
      ∃ tx before mid after, machine.observe marks (start Sample.accounts 0) postponed =
          before ++ .swept tx Sample.pupil :: mid ++ .demoted tx Sample.pupil :: after ∧
        (∀ tx', Mark.demoted tx' Sample.pupil ∉ after) ∧
        Mark.thawed Sample.trip ∈ mid ++ after := by
  have hends : (machine.run (start Sample.accounts 0) postponed).any (fun c =>
      Config.openSeat c Sample.trip Sample.pupil) = true := by
    decide
  obtain ⟨c, hrun, hopen⟩ := (Option.any_eq_true _ _).mp hends
  obtain ⟨row, seat, capacity, hrow, hseat, hparent, hcapacity⟩ := openSeat_spec hopen
  obtain ⟨hcounted, -, hparents, -⟩ := seats_are_accounted_for hrun
  exact ⟨c, row, hrun, hrow, hcounted _ row hrow,
    hparents _ _ row seat capacity hrow hseat hparent hcapacity⟩

end Hezarfen.Signups
