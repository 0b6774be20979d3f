import Hezarfen.PodcastLifecycle
import Mathlib.Tactic.Linarith

/-!
# Stale podcast jobs

A live job that nobody has updated for longer than its window reads as failed.  The window is
three times the estimate of the service, and at least ten minutes.  The product in seconds
saturates; its turn into milliseconds and the sum with the time of the last update do not.
-/

namespace Hezarfen.Podcast

open Interleaving

def podcastJobStaleFloorSecs : ℤ := 600

def podcastJobStaleEtaFactor : ℤ := 3

def podcastInterruptedCode : String := "interrupted"

def PodcastJob.interrupted (job : PodcastJob) : PodcastJob :=
  { job with state := .failed, errorCode := some podcastInterruptedCode, stage := "" }

def PodcastJob.projected (job : PodcastJob) (now : Timestamp) : Option PodcastJob :=
  if job.state.isTerminal then some job
  else
    let etaSecs := max (job.etaSecs.getD 0) 0
    let windowSecs := max (saturatingMul etaSecs podcastJobStaleEtaFactor) podcastJobStaleFloorSecs
    (plainI64 (windowSecs * 1_000)).bind fun windowMs =>
      (plainI64 (job.updatedAt + windowMs)).map fun deadline =>
        if now > deadline then job.interrupted else job

def projectedList (jobs : List PodcastJob) (now : Timestamp) : Option (List PodcastJob) :=
  jobs.mapM fun job => job.projected now

/-! ## The window over the integers -/

def PodcastJob.staleAfterMs (job : PodcastJob) : ℤ :=
  1_000 * max podcastJobStaleFloorSecs (podcastJobStaleEtaFactor * max (job.etaSecs.getD 0) 0)

def PodcastJob.presented (job : PodcastJob) (now : Timestamp) : PodcastJob :=
  if job.updatedAt + job.staleAfterMs < now then job.interrupted else job

def PodcastJob.Bounded (job : PodcastJob) : Prop :=
  job.staleAfterMs ≤ 2 ^ 63 - 1 ∧ job.updatedAt + job.staleAfterMs ≤ 2 ^ 63 - 1

theorem plainI64_eq_some_iff {n m : ℤ} : plainI64 n = some m ↔ InI64 n ∧ n = m := by
  unfold plainI64
  rw [← clampI64_eq_iff]
  split <;> simp [*]

section Window

variable {job : PodcastJob} {now : Timestamp}

theorem staleAfterMs_pos (job : PodcastJob) : 600_000 ≤ job.staleAfterMs := by
  unfold PodcastJob.staleAfterMs podcastJobStaleFloorSecs
  omega

/-- A product that saturates gives a window that does not fit. -/
theorem windowMs_inI64_iff (job : PodcastJob) :
    InI64 (max (saturatingMul (max (job.etaSecs.getD 0) 0) podcastJobStaleEtaFactor)
      podcastJobStaleFloorSecs * 1_000) ↔ job.staleAfterMs ≤ 2 ^ 63 - 1 := by
  unfold PodcastJob.staleAfterMs InI64 saturatingMul clampI64 podcastJobStaleEtaFactor
    podcastJobStaleFloorSecs
  omega

theorem windowMs_eq (h : job.staleAfterMs ≤ 2 ^ 63 - 1) :
    max (saturatingMul (max (job.etaSecs.getD 0) 0) podcastJobStaleEtaFactor)
      podcastJobStaleFloorSecs * 1_000 = job.staleAfterMs := by
  unfold PodcastJob.staleAfterMs saturatingMul clampI64 podcastJobStaleEtaFactor
    podcastJobStaleFloorSecs at *
  omega

theorem projected_live (hlive : job.state.isTerminal = false) (hupdated : InI64 job.updatedAt)
    (now : Timestamp) :
    job.projected now = some (job.presented now) ∧ job.Bounded ∨
      job.projected now = none ∧ ¬ job.Bounded := by
  have hpos := staleAfterMs_pos job
  simp only [PodcastJob.projected, hlive, Bool.false_eq_true, if_false]
  by_cases hwindow : job.staleAfterMs ≤ 2 ^ 63 - 1
  · have hmillis := plainI64_of_inI64 ((windowMs_inI64_iff job).mpr hwindow)
    rw [windowMs_eq hwindow] at hmillis ⊢
    rw [hmillis, Option.bind_some]
    by_cases hdeadline : job.updatedAt + job.staleAfterMs ≤ 2 ^ 63 - 1
    · left
      have hsum : InI64 (job.updatedAt + job.staleAfterMs) :=
        ⟨by linarith only [hupdated.1, hpos], hdeadline⟩
      rw [plainI64_of_inI64 hsum]
      exact ⟨rfl, hwindow, hdeadline⟩
    · right
      have hsum : plainI64 (job.updatedAt + job.staleAfterMs) = none := by
        refine Option.eq_none_iff_forall_ne_some.mpr fun m hm => hdeadline ?_
        exact (plainI64_eq_some_iff.mp hm).1.2
      rw [hsum]
      exact ⟨rfl, fun h => hdeadline h.2⟩
  · right
    have hmillis : plainI64 (max (saturatingMul (max (job.etaSecs.getD 0) 0)
        podcastJobStaleEtaFactor) podcastJobStaleFloorSecs * 1_000) = none := by
      refine Option.eq_none_iff_forall_ne_some.mpr fun m hm => hwindow ?_
      exact (windowMs_inI64_iff job).mp (plainI64_eq_some_iff.mp hm).1
    rw [hmillis]
    exact ⟨rfl, fun h => hwindow h.1⟩

/-- A read presents a live job as failed exactly when its window is over, and without an
overflow, if and only if the end of the window is a 64-bit instant. -/
theorem projected_iff_bounded (hlive : job.state.isTerminal = false)
    (hupdated : InI64 job.updatedAt) :
    (∃ shown, job.projected now = some shown ∧
      (shown.state = .failed ↔ job.updatedAt + job.staleAfterMs < now)) ↔ job.Bounded := by
  have hfailed : (job.presented now).state = .failed ↔
      job.updatedAt + job.staleAfterMs < now := by
    unfold PodcastJob.presented
    split
    · next hover => exact ⟨fun _ => hover, fun _ => rfl⟩
    · next hover =>
      refine ⟨fun hstate => ?_, fun h => absurd h hover⟩
      rw [hstate] at hlive
      cases hlive
  rcases projected_live hlive hupdated now with ⟨heq, hbounded⟩ | ⟨hnone, hunbounded⟩
  · exact ⟨fun _ => hbounded, fun _ => ⟨_, heq, hfailed⟩⟩
  · refine ⟨fun ⟨shown, hshown, _⟩ => ?_, fun h => absurd h hunbounded⟩
    rw [hnone] at hshown
    cases hshown

end Window

namespace Sample

def estimated (etaSecs : ℤ) : List (Move Request World) :=
  [.start (.create ali "note" none), .advance 0 world,
    .start (.setEta job etaSecs), .advance 1 world]

end Sample

open Sample in
theorem projected_iff_bounded_hour :
    ∃ c row, machine.run (start [ali]) (estimated 3_600) = some c ∧
      c.shared.podcastJob.lookup job = some row ∧
      ((∃ shown, row.projected 10_800_001 = some shown ∧
        (shown.state = .failed ↔ row.updatedAt + row.staleAfterMs < 10_800_001)) ↔
          row.Bounded) := by
  have hends : ((machine.run (start [ali]) (estimated 3_600)).any fun c =>
      (c.shared.podcastJob.lookup job).any fun row =>
        !row.state.isTerminal && decide (InI64 row.updatedAt)) = true := by decide
  obtain ⟨c, hrun, hrow⟩ := (Option.any_eq_true _ _).mp hends
  obtain ⟨row, hlookup, hfacts⟩ := (Option.any_eq_true _ _).mp hrow
  rw [Bool.and_eq_true, Bool.not_eq_true', decide_eq_true_eq] at hfacts
  exact ⟨c, row, hrun, hlookup, projected_iff_bounded hfacts.1 hfacts.2⟩

open Sample in
/-- The largest estimate is stored, and then no read of the job has an answer. -/
theorem largest_estimate_overflows :
    ∃ c row, machine.run (start [ali]) (estimated (2 ^ 63 - 1)) = some c ∧
      c.shared.podcastJob.lookup job = some row ∧ row.state = .queued ∧
      row.projected 0 = none ∧ projectedList [row] 0 = none := by
  have hends : ((machine.run (start [ali]) (estimated (2 ^ 63 - 1))).any fun c =>
      (c.shared.podcastJob.lookup job).any fun row =>
        decide (row.state = .queued) && decide (row.projected 0 = none) &&
          decide (projectedList [row] 0 = none)) = true := by decide
  obtain ⟨c, hrun, hrow⟩ := (Option.any_eq_true _ _).mp hends
  obtain ⟨row, hlookup, hfacts⟩ := (Option.any_eq_true _ _).mp hrow
  simp only [Bool.and_eq_true, decide_eq_true_eq] at hfacts
  exact ⟨c, row, hrun, hlookup, hfacts.1.1, hfacts.1.2, hfacts.2⟩

end Hezarfen.Podcast
