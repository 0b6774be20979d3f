import Hezarfen.SignupSteps

/-!
# The calls on a signup list, statement by statement

What each point owes goes over into what the next one owes, and a transaction that ends owes
nothing.
-/

namespace Hezarfen.Signups

open Interleaving ReadCommitted
open School (Role)

variable {s s' : Db} {tx : ℕ} {n : Reply}

variable {event : EventId} {seat : Seat} {createdAt now : Timestamp} {user : UserId} {role : Role}

theorem step_createEvent {row : Event} {id : EventId} (hinv : Inv s)
    (hholds : (Point.createEvent row).Holds tx s) (h : createEvent s row id = some (s', n)) :
    Lands tx (.createEvent row) s s' n := by
  unfold createEvent at h
  split at h
  · cases h
  · next hlookup =>
    cases h
    have hvacant : s.event.row id = .vacant := Rows.row_vacant (not_not.mp hlookup)
    have hcount : row.registrationCount = 0 := hholds.knows
    have hidle := hholds.idle rfl rfl rfl
    constructor
    case moves =>
      refine ⟨⟨?_, hinv.keyed, hinv.events.put (fun _ => rfl) id row, hinv.seats⟩,
        ⟨le_rfl, .refl tx _, .put hvacant row, .refl tx _⟩⟩
      intro k
      rw [Rows.total_put _ hvacant, hinv.counted k]
      simp [RefCount.reads, seatCount, hcount]
    case shifts =>
      refine ⟨rfl, fun _ => .inl rfl, fun _ => .inl rfl, fun event => ?_⟩
      by_cases hevent : event = id
      · refine .inr (.inr (.inl ?_))
        rw [hevent, hvacant]
        rfl
      · refine .inl ?_
        rw [Rows.row_put, if_neg hevent]
    case repeats => exact fun seat hseat => by cases hseat
    case goes => exact fun q hq => by cases hq
    case ends => exact fun _ _ => ⟨hidle.1, Rows.idle_put hidle.2.1 id row, hidle.2.2⟩

theorem step_update {patch : Patch} (hinv : Inv s) (hholds : (Point.update event patch).Holds tx s)
    (h : update tx s event patch = some (s', n)) :
    Lands tx (.update event patch) s s' n := by
  have hidle := hholds.idle rfl rfl rfl
  unfold update at h
  split at h
  · split at h
    · cases h
      exact lands_answer hinv hidle
    · cases h
      exact lands_answer hinv hidle
  · obtain ⟨rows, halter, hout⟩ | ⟨row, rows, halter, hout⟩ := Rows.onRow_cases h
    · cases hout
      exact lands_answer hinv hidle
    · cases hout
      have howed : ∀ k, Db.owed { s with event := rows } tx k = 0 := by
        intro k
        have hsame : Db.owed { s with event := rows } tx k = s.owed tx k :=
          RefCount.owed_counters_same (R := seatCount) (f := patch.apply) (fun _ => rfl) halter k
        rw [hsame]
        exact RefCount.owed_of_idle hidle.2.1 hidle.2.2 k
      have hwrite := Rows.alterWhere_cases halter
      obtain ⟨hnone, -⟩ | ⟨row', hrow', hseen, -, -, rfl⟩ := hwrite
      · cases hnone
      · cases hrow'
        have hcommitted : (s.event.row event).committed = some row :=
          (Row.seen_eq_committed (hidle.2.1 event)).symm.trans hseen
        constructor
        case moves =>
          refine ⟨⟨?_, hinv.keyed.commit tx, hinv.events.commit_write (fun _ => rfl) tx event _,
            hinv.seats.commit (fun _ => rfl) tx⟩,
            ⟨le_rfl, .commit tx _, (Rows.Apart.alter halter).trans (.commit tx _), .commit tx _⟩⟩
          refine RefCount.Counted.commit (fun k => ?_) howed
          rw [Rows.total_write]
          exact hinv.counted k
        case shifts =>
          refine ⟨rfl, fun k => .inl ?_, fun user => .inl ?_, fun k => ?_⟩
          · exact (committed_commit tx s.registration k).trans
              (Row.seen_eq_committed (hidle.2.2 k))
          · exact (committed_commit tx s.appUser user).trans
              (Row.seen_eq_committed (hidle.1 user))
          · by_cases hk : k = event
            · subst hk
              refine .inr (.inr (.inr (.inl ⟨patch, row, rfl, hcommitted, ?_⟩)))
              exact (committed_commit tx _ k).trans (Rows.seen_write tx s.event k _)
            · refine .inl ((committed_commit tx _ k).trans ?_)
              rw [Rows.row_write, if_neg hk]
              exact Row.seen_eq_committed (hidle.2.1 k)
        case repeats => exact fun seat hseat => by cases hseat
        case goes => exact fun q hq => by cases hq
        case ends => exact fun _ _ => Db.idle_commit tx _

theorem step_deleteSeats {users : List UserId} (hinv : Inv s)
    (hholds : (Point.deleteSeats event users).Holds tx s)
    (h : deleteSeats tx s event users = some (s', n)) :
    Lands tx (.deleteSeats event users) s s' n := by
  cases users with
  | nil =>
      cases h
      refine lands_read hinv (fun q hq => ?_) (fun a ha => by cases ha)
      cases hq
      exact ⟨hholds.owes, hholds.accounts, hholds.events, fun hrows => (by cases hrows),
        hholds.roles, fun user huser => (by cases huser), trivial⟩
  | cons user =>
      obtain ⟨⟨old, rows⟩, halter, heq⟩ := Option.map_eq_some_iff.mp h
      cases heq
      refine ⟨moves_seat hinv halter, .of_same rfl (fun _ => rfl) (same_seat halter),
        fun seat hseat => (by cases hseat), fun q hq => ?_, fun a ha => by cases ha⟩
      cases hq
      refine ⟨fun k hk => ?_, hholds.accounts, hholds.events, fun hrows => (by cases hrows),
        hholds.roles, fun user huser => (by cases huser), trivial⟩
      have hne : ¬ event = k := fun heq => hk (congrArg some heq)
      have howed := owed_seat hinv halter k
      rw [if_neg fun hand => hne hand.2, sub_zero] at howed
      exact howed.trans (hholds.owes k hk)

theorem step_deleteEvent (hinv : Inv s) (hholds : (Point.deleteEvent event).Holds tx s)
    (h : deleteEvent tx s event = some (s', n)) :
    Lands tx (.deleteEvent event) s s' n := by
  unfold deleteEvent at h
  obtain ⟨rows, halter, hout⟩ | ⟨row, rows, halter, hout⟩ := Rows.onRow_cases h
  · cases hout
    exact lands_refuse hinv tx _ _
  · split at hout
    · next hempty =>
      cases hout
      have hseen := hinv.counted.seen tx event
      rw [(Rows.alter_cases halter).1, total_of_empty hempty] at hseen
      have hmoves : Moves tx s { s with event := rows } :=
        { inv :=
            { counted := by
                intro k
                rw [Rows.total_alter halter]
                exact hinv.counted k
              keyed := hinv.keyed
              events := hinv.events.alter (fun _ _ _ _ hw => by cases hw) halter
              seats := hinv.seats }
          apart := ⟨le_rfl, .refl tx _, .alter halter, .refl tx _⟩ }
      have howed : ∀ k, Db.owed { s with event := rows } tx k = 0 := by
        intro k
        have hmove : Db.owed { s with event := rows } tx k = s.owed tx k -
            if event = k then Row.amount seatCount.counter none -
              Row.amount seatCount.counter (some row) else 0 :=
          RefCount.owed_counters halter k
        rw [hmove]
        by_cases hk : event = k
        · subst hk
          rw [if_pos rfl]
          have hsame : s.owed tx event = seatCount.owed tx s.event s.registration event := rfl
          simp only [Row.amount, Option.elim] at hseen ⊢
          omega
        · rw [if_neg hk, sub_zero]
          exact hholds.owes k fun heq => hk (Option.some.inj heq)
      exact (lands_commit hmoves.inv howed rfl
        (fun user => .inl (hholds.roles user fun huser => by cases huser)) _).after
        hmoves rfl (fun _ => rfl) (same_event halter)
    · cases hout
      exact lands_undo hinv tx _ (fun _ => rfl) rfl trivial

theorem step_readForUser (hinv : Inv s) (hholds : (Point.readForUser seat).Holds tx s) :
    Lands tx (.readForUser seat) s s (readForUser tx s seat) := by
  have hidle := hholds.idle rfl rfl rfl
  unfold readForUser
  split
  · exact lands_answer hinv hidle
  · exact lands_quiet hinv hidle (fun _ => rfl) rfl trivial

theorem step_readEvent (hinv : Inv s) (hholds : (Point.readEvent seat).Holds tx s) :
    Lands tx (.readEvent seat) s s (readEvent tx s seat) := by
  have hidle := hholds.idle rfl rfl rfl
  unfold readEvent
  split
  · exact lands_answer hinv hidle
  · split
    · exact lands_answer hinv hidle
    · exact lands_quiet hinv hidle (fun _ => rfl) rfl trivial

theorem step_claimSeat (hinv : Inv s) (hholds : (Point.claimSeat seat).Holds tx s) :
    Lands tx (.claimSeat seat) s s (claimSeat tx s seat) := by
  have hidle := hholds.idle rfl rfl rfl
  unfold claimSeat
  split
  · exact lands_quiet hinv hidle (fun _ => rfl) rfl trivial
  · exact lands_quiet hinv hidle (fun _ => rfl) rfl trivial

/-- A seat that is not to be had ends the statement. -/
theorem lands_full {p : Point} (hinv : Inv s) (hholds : p.Holds tx s)
    (hdemotes : p.demotes = none) (hcounts : p.counts = false) (hdeletes : p.deletes = false)
    (seat : Seat) : Lands tx p s (s.commit tx) (.goto (.readFull seat)) := by
  refine lands_missed hinv (hholds.events hcounts) (hholds.rows hdeletes)
    (fun user => hholds.roles user ?_) (fun q hq => ?_)
  · rw [hdemotes]
    exact nofun
  · cases hq
    exact ⟨fun _ => rfl, rfl, trivial⟩

theorem step_person {room : Bool} (hinv : Inv s)
    (hholds : (Point.person seat createdAt room).Holds tx s)
    (h : person tx s seat createdAt room = some (s', n)) :
    Lands tx (.person seat createdAt room) s s' n := by
  unfold person at h
  obtain ⟨rows, halter, hout⟩ | ⟨role, rows, halter, hout⟩ := Rows.onRow_cases h
  · cases hout
    exact lands_full hinv hholds rfl rfl rfl seat
  · have hmoves := moves_account hinv halter
    have hlocked : ∀ user, (rows.row user).seen tx = (rows.row user).committed := by
      intro user
      rw [Rows.seen_relock halter, Rows.committed_alter halter]
      exact hholds.roles user fun huser => by cases huser
    cases room with
    | false =>
        cases hout
        refine (lands_missed hmoves.inv (hholds.events rfl) (hholds.rows rfl) hlocked
          fun q hq => ?_).after hmoves rfl (Rows.committed_alter halter) (.refl s)
        cases hq
        exact ⟨fun _ => rfl, rfl, trivial⟩
    | true =>
        cases hout
        refine ⟨hmoves, shifts_account _ halter, fun _ _ => .inl (.refl s), fun q hq => ?_,
          fun a ha => by cases ha⟩
        cases hq
        refine ⟨hholds.owes, fun hlocks => (by cases hlocks), hholds.events, hholds.rows,
          fun user _ => hlocked user, fun user huser => (by cases huser), ?_⟩
        -- the account that the statement locked is no parent's
        obtain ⟨hnone, -⟩ | ⟨role', hrole, hseen, hparent, -, -⟩ := Rows.alterWhere_cases halter
        · cases hnone
        · cases hrole
          refine ⟨(Rows.held_alter halter).1, role, ?_, of_decide_eq_true hparent⟩
          rw [← hlocked, (Rows.held_alter halter).2]

theorem step_takeSeat (hinv : Inv s) (hholds : (Point.takeSeat seat createdAt).Holds tx s)
    (h : takeSeat tx s seat createdAt = some (s', n)) :
    Lands tx (.takeSeat seat createdAt) s s' n := by
  unfold takeSeat at h
  obtain ⟨rows, halter, hout⟩ | ⟨row, rows, halter, hout⟩ := Rows.onRow_cases h
  · cases hout
    exact lands_full hinv hholds rfl rfl rfl seat
  · cases hout
    refine ⟨moves_event (f := Event.take) hinv (fun _ => rfl) halter,
      .of_same rfl (fun _ => rfl) (same_event halter), fun _ _ => .inl (same_event halter),
      fun q hq => ?_, fun a ha => by cases ha⟩
    cases hq
    refine ⟨fun k _ => ?_, fun hlocks => (by cases hlocks), fun hcounts => (by cases hcounts),
      hholds.rows, hholds.roles, fun user huser => (by cases huser), hholds.knows, ?_⟩
    · have hclaim : Db.owed { s with event := rows } tx k =
          s.owed tx k - if seat.event = k then 1 else 0 :=
        RefCount.owed_claim (R := seatCount) (f := Event.take) rfl halter k
      have hzero : s.owed tx k = 0 := hholds.owes k nofun
      rw [hclaim, hzero]
      simp only [Point.due]
      split <;> rfl
    · obtain ⟨hnone, -⟩ | ⟨row', hrow, hseen, hroom, -, -⟩ := Rows.alterWhere_cases halter
      · cases hnone
      · cases hrow
        refine ⟨(Rows.held_alter halter).1, row, ?_, hroom⟩
        rw [Rows.committed_alter halter, ← hseen]
        exact (Row.seen_eq_committed (hholds.events rfl seat.event)).symm

theorem step_insert (hinv : Inv s) (hholds : (Point.insert seat createdAt).Holds tx s)
    (h : insert tx s seat createdAt = some (s', n)) :
    Lands tx (.insert seat createdAt) s s' n := by
  simp only [insert] at h
  split at h
  · next hfree =>
    split at h
    · cases h
      exact lands_undo hinv tx _ (fun _ => rfl) rfl trivial
    · next hvacant =>
      split at h
      · cases h
        exact lands_refuse hinv tx _ _
      · cases h
        have hseen : (s.registration.row seat.key).seen tx = none := by
          simpa using hvacant
        have hrows := hholds.rows rfl
        have hadmitted : Admitted s seat :=
          { vacant := (Row.seen_eq_committed (hrows seat.key)).symm.trans hseen
            room := hholds.knows.2.2
            role := hholds.knows.1.2 }
        have howed : ∀ k, seatCount.owed tx s.event
            (s.registration.write tx seat.key
              (some ⟨seat.event, seat.user, seat.registeredBy, createdAt⟩)) k = 0 := by
          intro k
          have hdue : seatCount.owed tx s.event s.registration k =
            if seat.event = k then -1 else 0 := hholds.owes k fun h => by cases h
          rw [RefCount.owed_write hseen, hdue]
          simp only [seatCount]
          split <;> rfl
        constructor
        case moves =>
          refine ⟨⟨RefCount.Counted.commit (fun k => ?_) howed,
            (hinv.keyed.write fun row hrow => ?_).commit tx,
            hinv.events.commit (fun _ => rfl) tx,
            hinv.seats.commit_write (fun _ => rfl) tx _ _⟩,
            ⟨le_rfl, .commit tx _, .commit tx _,
              (Rows.Apart.write _ hfree).trans (.commit tx _)⟩⟩
          · rw [Rows.total_write]
            exact hinv.counted k
          · cases hrow
            rfl
        case shifts =>
          refine ⟨rfl, fun k => ?_, fun user => .inl ?_, fun event => ?_⟩
          · by_cases hk : k = seat.key
            · exact .inr (.inr ⟨seat, createdAt, rfl, hk, hadmitted⟩)
            · refine .inl ((committed_commit tx _ k).trans ?_)
              rw [Rows.row_write, if_neg hk]
              exact Row.seen_eq_committed (hrows k)
          · exact (committed_commit tx s.appUser user).trans
              (hholds.roles user fun huser => by cases huser)
          · rcases hinv.commit_events tx event with hgone | hsame
            · exact .inr (.inl hgone)
            · exact .inr (.inr (.inr (.inr hsame)))
        case repeats =>
          intro seat' hseat
          cases hseat
          exact .inr hadmitted
        case goes => exact fun q hq => by cases hq
        case ends => exact fun _ _ => Db.idle_commit tx _
  · cases h

theorem step_readDuplicate (hinv : Inv s) (hholds : (Point.readDuplicate seat).Holds tx s) :
    Lands tx (.readDuplicate seat) s s (readDuplicate tx s seat) := by
  have hidle := hholds.idle rfl rfl rfl
  unfold readDuplicate
  split
  · exact lands_answer hinv hidle
  · exact lands_answer hinv hidle

theorem step_readFull (hinv : Inv s) (hholds : (Point.readFull seat).Holds tx s) :
    Lands tx (.readFull seat) s s (readFull tx s seat) := by
  have hidle := hholds.idle rfl rfl rfl
  unfold readFull
  split
  · exact lands_answer hinv hidle
  · exact lands_quiet hinv hidle (fun _ => rfl) rfl trivial

theorem step_readHolder (hinv : Inv s) (hholds : (Point.readHolder seat).Holds tx s) :
    Lands tx (.readHolder seat) s s (readHolder tx s seat) := by
  have hidle := hholds.idle rfl rfl rfl
  unfold readHolder
  split
  · exact lands_answer hinv hidle
  · exact lands_answer hinv hidle

theorem step_deleteSeat (hinv : Inv s) (hholds : (Point.deleteSeat event user).Holds tx s)
    (h : deleteSeat tx s event user = some (s', n)) :
    Lands tx (.deleteSeat event user) s s' n := by
  unfold deleteSeat at h
  obtain ⟨rows, halter, hout⟩ | ⟨gone, rows, halter, hout⟩ := Rows.onRow_cases h
  · cases hout
    exact lands_missed hinv (hholds.events rfl) (hholds.rows rfl)
      (fun user => hholds.roles user fun huser => by cases huser) (fun q hq => by cases hq)
  · cases hout
    refine ⟨moves_seat hinv halter, .of_same rfl (fun _ => rfl) (same_seat halter),
      fun seat hseat => (by cases hseat), fun q hq => ?_, fun a ha => by cases ha⟩
    cases hq
    refine ⟨fun k _ => ?_, hholds.accounts, hholds.events, fun hrows => (by cases hrows),
      hholds.roles, fun user huser => (by cases huser), trivial⟩
    have hzero : s.owed tx k = 0 := hholds.owes k nofun
    have hevent : gone.event = event := hinv.keyed.seen (Rows.alter_cases halter).1
    rw [owed_seat hinv halter k, hzero]
    simp only [Point.due, hevent, Option.isSome_some, true_and]
    split <;> rfl

theorem step_returnSeat {gone : Registration} (hinv : Inv s)
    (hholds : (Point.returnSeat gone).Holds tx s) (h : returnSeat tx s gone = some (s', n)) :
    Lands tx (.returnSeat gone) s s' n := by
  obtain ⟨⟨old, rows⟩, halter, heq⟩ := Option.map_eq_some_iff.mp h
  cases heq
  have hmoves := moves_event (f := Event.giveBack) hinv (fun _ => rfl) halter
  have hdue : ∀ k, s.owed tx k = if gone.event = k then -1 else 0 := fun k => hholds.owes k nofun
  have howed : ∀ k, Db.owed { s with event := rows } tx k = 0 := by
    intro k
    have hone : s.owed tx gone.event ≤ -1 := by
      rw [hdue, if_pos rfl]
    rw [owed_giveBack hinv hone halter k, hdue]
    split <;> rfl
  exact (lands_commit hmoves.inv howed rfl
    (fun user => .inl (hholds.roles user fun huser => by cases huser)) _).after
    hmoves rfl (fun _ => rfl) (same_event halter)

theorem step_readRole (hinv : Inv s) (hholds : (Point.readRole user role now).Holds tx s) :
    Lands tx (.readRole user role now) s s (readRole tx s user role now) := by
  have hidle := hholds.idle rfl rfl rfl
  unfold readRole
  split
  · exact lands_quiet hinv hidle (fun _ => rfl) rfl hholds.knows
  · exact lands_quiet hinv hidle (fun _ => rfl) rfl hholds.knows

theorem step_lockAdmins {rest : List UserId} {locked : ℕ} (hinv : Inv s)
    (hholds : (Point.lockAdmins user role now rest locked).Holds tx s)
    (h : lockAdmins tx s user role now locked rest = some (s', n)) :
    Lands tx (.lockAdmins user role now rest locked) s s' n := by
  cases rest with
  | nil =>
      simp only [lockAdmins] at h
      split at h
      · cases h
        exact lands_refuse hinv tx _ _
      · cases h
        refine lands_read hinv (fun q hq => ?_) (fun a ha => by cases ha)
        cases hq
        exact ⟨hholds.owes, fun hlocks => (by cases hlocks), hholds.events, hholds.rows,
          hholds.roles, fun user huser => (by cases huser), hholds.knows⟩
  | cons =>
      obtain ⟨⟨old, rows⟩, halter, heq⟩ := Option.map_eq_some_iff.mp h
      cases heq
      refine ⟨moves_account hinv halter, shifts_account _ halter, fun _ _ => .inl (.refl s),
        fun q hq => ?_, fun a ha => by cases ha⟩
      cases hq
      refine ⟨hholds.owes, fun hlocks => (by cases hlocks), hholds.events, hholds.rows,
        fun account haccount => ?_, fun user huser => (by cases huser), hholds.knows⟩
      dsimp only
      rw [Rows.seen_relock halter, Rows.committed_alter halter]
      exact hholds.roles account haccount

theorem step_writeRole (hinv : Inv s) (hholds : (Point.writeRole user role now).Holds tx s)
    (h : writeRole tx s user role now = some (s', n)) :
    Lands tx (.writeRole user role now) s s' n := by
  simp only [writeRole] at h
  obtain ⟨rows, halter, hout⟩ | ⟨old, rows, halter, hout⟩ := Rows.onRow_cases h
  · cases hout
    exact lands_refuse hinv tx _ _
  · have hmoves := moves_account hinv halter
    have hothers : ∀ account, account ≠ user →
        (rows.row account).seen tx = (rows.row account).committed := by
      intro account hne
      rw [Rows.row_alter_ne halter hne]
      exact hholds.roles account fun haccount => by cases haccount
    split at hout
    · next hparent =>
      cases hout
      refine ⟨hmoves, shifts_account _ halter, fun seat hseat => (by cases hseat),
        fun q hq => ?_, fun a ha => by cases ha⟩
      cases hq
      refine ⟨hholds.owes, fun hlocks => (by cases hlocks), hholds.events, hholds.rows,
        fun account haccount => ?_, fun account haccount => ?_, hholds.knows⟩
      · exact hothers account fun heq => haccount (congrArg some heq.symm)
      · cases haccount
        exact ⟨(Rows.held_alter halter).1,
          (Rows.held_alter halter).2.trans (congrArg some hparent)⟩
    · next hparent =>
      cases hout
      refine (lands_commit hmoves.inv (fun k => hholds.owes k nofun) rfl (fun account => ?_)
        _).after hmoves rfl (Rows.committed_alter halter) (.refl s)
      by_cases haccount : account = user
      · subst haccount
        exact .inr (.inl ⟨role, (Rows.held_alter halter).2, hparent⟩)
      · exact .inl (hothers account haccount)

theorem step_findStray (hinv : Inv s) (hholds : (Point.findStray user now).Holds tx s) :
    Lands tx (.findStray user now) s s (.goto (.deleteStray user now (s.stray tx user))) := by
  refine lands_read hinv (fun q hq => ?_) (fun a ha => by cases ha)
  cases hq
  refine ⟨hholds.owes, fun hlocks => (by cases hlocks), hholds.events, hholds.rows, hholds.roles,
    hholds.demoted, hholds.knows, ?_⟩
  -- a seat keeps its event from being deleted
  refine List.eq_nil_iff_forall_not_mem.mpr fun event hevent => ?_
  obtain ⟨⟨k, seat⟩, hseat, -⟩ := List.mem_map.mp hevent
  obtain ⟨hseen, hstray⟩ := Rows.mem_visible.mp hseat
  obtain ⟨row, hrow⟩ := event_of_seat hinv (hholds.owes k.1 nofun) hseen
  have hgone := (of_decide_eq_true hstray).2
  rw [hrow] at hgone
  cases hgone

theorem step_deleteStray {rest : List EventId} (hinv : Inv s)
    (hholds : (Point.deleteStray user now rest).Holds tx s)
    (h : deleteStray tx s user now rest = some (s', n)) :
    Lands tx (.deleteStray user now rest) s s' n := by
  have hrest : rest = [] := hholds.knows.2
  subst hrest
  cases h
  refine lands_read hinv (fun q hq => ?_) (fun a ha => by cases ha)
  cases hq
  exact ⟨hholds.owes, fun hlocks => (by cases hlocks), hholds.events, hholds.rows, hholds.roles,
    hholds.demoted, hholds.knows.1⟩

theorem step_findFreeable (hinv : Inv s) (hholds : (Point.findFreeable user now).Holds tx s)
    (rest : List EventId) :
    Lands tx (.findFreeable user now) s s (.goto (.deleteFreeable user rest [])) := by
  refine lands_read hinv (fun q hq => ?_) (fun a ha => by cases ha)
  cases hq
  refine ⟨fun k hk => ?_, fun hlocks => (by cases hlocks), hholds.events,
    fun hrows => (by cases hrows), hholds.roles, hholds.demoted, trivial⟩
  rw [hholds.owes k nofun]
  rfl

theorem step_deleteFreeable {rest gone : List EventId} (hinv : Inv s)
    (hholds : (Point.deleteFreeable user rest gone).Holds tx s)
    (h : deleteFreeable tx s user gone rest = some (s', n)) :
    Lands tx (.deleteFreeable user rest gone) s s' n := by
  cases rest with
  | nil =>
      cases h
      refine lands_read hinv (fun q hq => ?_) (fun a ha => by cases ha)
      cases hq
      exact ⟨hholds.owes, fun hlocks => (by cases hlocks), fun hcounts => (by cases hcounts),
        fun hrows => (by cases hrows), hholds.roles, hholds.demoted, trivial⟩
  | cons event rest =>
      obtain ⟨⟨old, rows⟩, halter, heq⟩ := Option.map_eq_some_iff.mp h
      cases heq
      refine ⟨moves_seat hinv halter, .of_same rfl (fun _ => rfl) (same_seat halter),
        fun seat hseat => (by cases hseat), fun q hq => ?_, fun a ha => by cases ha⟩
      cases hq
      refine ⟨fun k _ => ?_, fun hlocks => (by cases hlocks), hholds.events,
        fun hrows => (by cases hrows), hholds.roles, hholds.demoted, trivial⟩
      have hdue : s.owed tx k = -(gone.count k : ℤ) := hholds.owes k nofun
      rw [owed_seat hinv halter k, hdue]
      -- the rows that the statement removes are the ones it will give back
      cases old with
      | none => simp [Point.due]
      | some row =>
          by_cases hk : event = k
          · subst hk
            simp [Point.due]
            omega
          · simp [Point.due, hk]

theorem step_returnSeats {gone : List EventId} (hinv : Inv s)
    (hholds : (Point.returnSeats user gone).Holds tx s)
    (h : returnSeats tx s user gone = some (s', n)) :
    Lands tx (.returnSeats user gone) s s' n := by
  cases gone with
  | nil =>
      cases h
      refine lands_commit hinv (fun k => ?_) rfl (fun account => ?_) _
      · rw [hholds.owes k nofun]
        rfl
      · by_cases haccount : user = account
        · subst haccount
          exact .inr (.inr ⟨rfl, (hholds.demoted user rfl).2⟩)
        · exact .inl (hholds.roles account fun heq => haccount (Option.some.inj heq))
  | cons event rest =>
      obtain ⟨⟨old, rows⟩, halter, heq⟩ := Option.map_eq_some_iff.mp h
      cases heq
      refine ⟨moves_event (f := Event.giveBack) hinv (fun _ => rfl) halter,
        .of_same rfl (fun _ => rfl) (same_event halter), fun seat hseat => (by cases hseat),
        fun q hq => ?_, fun a ha => by cases ha⟩
      cases hq
      refine ⟨fun k _ => ?_, fun hlocks => (by cases hlocks), fun hcounts => (by cases hcounts),
        fun hrows => (by cases hrows), hholds.roles, hholds.demoted, trivial⟩
      have hdue : ∀ k, s.owed tx k = -((event :: rest).count k : ℤ) :=
        fun k => hholds.owes k nofun
      have hone : s.owed tx event ≤ -1 := by
        rw [hdue, List.count_cons_self]
        omega
      rw [owed_giveBack hinv hone halter k, hdue]
      by_cases hk : event = k
      · subst hk
        simp [Point.due]
      · simp [Point.due, hk]

end Hezarfen.Signups
