import Hezarfen.Pomodoro
import Hezarfen.Streaks

/-!
# The log of a user and the counters kept beside it

The user row keeps seven numbers.  They are related here to the whole list of the user's
finishes in commit order: the totals to every list, the day's tally and the streak pair to
a list whose days do not go back.
-/

namespace Hezarfen.Pomodoro

variable {c : AppUser}

structure Close where
  day : ℤ
  session : PomodoroSession

variable {e : Close} {l : List Close}

namespace Close

def counted (e : Close) : Bool := e.session.counted == some true

def ms (e : Close) : ℤ := e.session.finishedAt.elim 0 fun t => t - e.session.startedAt

end Close

def AppUser.fresh : AppUser := ⟨0, none, 0, 0, 0, none, 0⟩

def AppUser.close (c : AppUser) (e : Close) : AppUser := c.write e.day e.ms c

inductive Played : List Close → AppUser → Prop where
  | nil : Played [] .fresh
  | snoc {l : List Close} {c : AppUser} {e : Close} (h : Played l c)
      (verdict : e.counted = c.counts e.day e.ms)
      (day : e.counted = true → e.session.finishedAt.map dayNumber = some e.day) :
      Played (l ++ [e]) (c.close e)

theorem close_counted (h : c.counts e.day e.ms = true) :
    c.close e =
      { pomodoroCountedToday := c.countedToday e.day + 1
        pomodoroCountedDay := some e.day
        pomodoroFinishedTotal := c.pomodoroFinishedTotal + 1
        pomodoroFocusMsTotal := c.pomodoroFocusMsTotal + e.ms
        studyStreakCurrent := c.streakOn e.day
        studyStreakLastDay := some e.day
        studyStreakLongest := max c.studyStreakLongest (c.streakOn e.day) } := by
  unfold AppUser.close AppUser.write
  rw [if_pos h]

theorem close_uncounted (h : c.counts e.day e.ms = false) :
    c.close e =
      { c with
        pomodoroCountedToday := c.countedToday e.day
        pomodoroCountedDay := some e.day } := by
  unfold AppUser.close AppUser.write AppUser.countedToday
  rw [if_neg (by simp [h])]
  by_cases hday : c.pomodoroCountedDay = some e.day
  · rw [if_neg (not_not.mpr hday), if_pos hday, ← hday]
  · rw [if_pos hday, if_neg hday]

theorem Played.totals (h : Played l c) :
    c.pomodoroFinishedTotal = l.countP Close.counted ∧
      c.pomodoroFocusMsTotal = ((l.filter Close.counted).map Close.ms).sum := by
  induction h with
  | nil => exact ⟨rfl, rfl⟩
  | @snoc l c e _ verdict _ ih =>
      obtain ⟨hfinished, hfocus⟩ := ih
      cases hcounts : c.counts e.day e.ms with
      | true =>
          have hcounted : e.counted = true := verdict.trans hcounts
          rw [close_counted hcounts]
          simp [List.countP_append, hcounted, hfinished, hfocus]
      | false =>
          have hcounted : e.counted = false := verdict.trans hcounts
          rw [close_uncounted hcounts]
          simp [List.countP_append, hcounted, hfinished, hfocus]

theorem Played.day_eq (h : Played l c) (he : e ∈ l) (hcounted : e.counted = true) :
    e.session.finishedAt.map dayNumber = some e.day := by
  induction h with
  | nil => cases he
  | @snoc l c last _ _ day ih =>
      rw [List.mem_append, List.mem_singleton] at he
      rcases he with hold | rfl
      · exact ih hold
      · exact day hcounted

theorem longest_le_close (c : AppUser) (e : Close) :
    c.studyStreakLongest ≤ (c.close e).studyStreakLongest := by
  cases hcounts : c.counts e.day e.ms with
  | true =>
      rw [close_counted hcounts]
      exact le_max_left _ _
  | false =>
      rw [close_uncounted hcounts]

/-! ## A list whose days do not go back -/

/-- A counted finish of the day. -/
def Close.on (d : ℤ) (e : Close) : Bool := e.counted && decide (e.day = d)

/-- The days on which a finish counted. -/
def countedDays (l : List Close) : Set ℤ := {d | ∃ e ∈ l, e.counted = true ∧ e.day = d}

/-- What the user row says about the list. -/
structure Tracks (l : List Close) (c : AppUser) : Prop where
  reached : ∀ e ∈ l, ∃ d, c.pomodoroCountedDay = some d ∧ e.day ≤ d
  rolled : ∀ d, c.pomodoroCountedDay = some d → ∃ e ∈ l, e.day = d
  today : ∀ d, c.pomodoroCountedDay = some d → c.pomodoroCountedToday = l.countP (Close.on d)
  quota : ∀ d, (l.countP (Close.on d) : ℤ) ≤ maxCountedPomodoroPerDay
  idle : c.studyStreakLastDay = none → countedDays l = ∅ ∧ c.studyStreakCurrent = 0
  current : ∀ d, c.studyStreakLastDay = some d → IsGreatest (countedDays l) d ∧
    ∃ k : ℕ, c.studyStreakCurrent = k ∧ Streak.IsRun (countedDays l) d k
  longest : ∃ n : ℕ, c.studyStreakLongest = n ∧ Streak.IsLongest (countedDays l) n

theorem tracks_nil : Tracks [] .fresh where
  reached := fun e he => by cases he
  rolled := fun d hd => by cases hd
  today := fun d hd => by cases hd
  quota := fun d => by simp [maxCountedPomodoroPerDay]
  idle := fun _ => ⟨by simp [countedDays], rfl⟩
  current := fun d hd => by cases hd
  longest := ⟨0, rfl, by simpa [countedDays] using Streak.isLongest_empty⟩

/-- The tally of the day that a finish reads is the number of counted finishes of that day. -/
theorem Tracks.countedToday (h : Tracks l c) {day : ℤ} (hlast : ∀ e ∈ l, e.day ≤ day) :
    c.countedToday day = l.countP (Close.on day) := by
  unfold AppUser.countedToday
  split
  · next hday => exact h.today day hday
  · next hday =>
    have hnone : l.countP (Close.on day) = 0 := by
      rw [List.countP_eq_zero]
      intro e he hon
      simp only [Close.on, Bool.and_eq_true, decide_eq_true_eq] at hon
      obtain ⟨d, hd, hle⟩ := h.reached e he
      obtain ⟨latest, hlatest, rfl⟩ := h.rolled d hd
      have hback := hlast latest hlatest
      have heq : latest.day = day := by omega
      exact hday (heq ▸ hd)
    rw [hnone]
    rfl

theorem countedDays_snoc (l : List Close) (e : Close) :
    countedDays (l ++ [e]) =
      if e.counted then insert e.day (countedDays l) else countedDays l := by
  ext d
  split
  · next hcounted =>
    simp only [countedDays, Set.mem_ofPred_eq, List.mem_append, List.mem_singleton,
      Set.mem_insert_iff]
    constructor
    · rintro ⟨f, hold | rfl, hf, rfl⟩
      · exact .inr ⟨f, hold, hf, rfl⟩
      · exact .inl rfl
    · rintro (rfl | ⟨f, hf, hcount, rfl⟩)
      · exact ⟨e, .inr rfl, hcounted, rfl⟩
      · exact ⟨f, .inl hf, hcount, rfl⟩
  · next hcounted =>
    simp only [countedDays, Set.mem_ofPred_eq, List.mem_append, List.mem_singleton]
    constructor
    · rintro ⟨f, hold | rfl, hf, rfl⟩
      · exact ⟨f, hold, hf, rfl⟩
      · exact absurd hf hcounted
    · rintro ⟨f, hf, hcount, rfl⟩
      exact ⟨f, .inl hf, hcount, rfl⟩

theorem countP_on_snoc (l : List Close) (e : Close) (d : ℤ) :
    ((l ++ [e]).countP (Close.on d) : ℤ) =
      l.countP (Close.on d) + if e.on d then 1 else 0 := by
  rw [List.countP_append]
  cases h : e.on d <;> simp [h]

theorem Tracks.streakOn (h : Tracks l c) {day : ℤ} (hlast : ∀ e ∈ l, e.day ≤ day) :
    ∃ k : ℕ, c.streakOn day = k ∧ Streak.IsRun (insert day (countedDays l)) day k := by
  have hbound : ∀ {d}, d ∈ countedDays l → d ≤ day := by
    intro d hd
    obtain ⟨e, he, -, rfl⟩ := hd
    exact hlast e he
  unfold AppUser.streakOn
  cases hday : c.studyStreakLastDay with
  | none =>
      refine ⟨1, rfl, Streak.IsRun.start ?_⟩
      rw [(h.idle hday).1]
      exact fun hmem => hmem
  | some last =>
      obtain ⟨⟨hmem, hmax⟩, k, hk, hrun⟩ := h.current last hday
      dsimp only
      split
      · next hsame =>
        subst hsame
        exact ⟨k, hk, by rwa [Set.insert_eq_of_mem hmem]⟩
      · split
        · next hnext =>
          subst hnext
          exact ⟨k + 1, by rw [hk]; norm_cast, hrun.extend⟩
        · next hne hgap =>
          refine ⟨1, rfl, Streak.IsRun.start fun hprevious => ?_⟩
          have hle := hmax hprevious
          have hback := hbound hmem
          omega

/-- One finish on a day that is not before the others. -/
theorem Tracks.close (h : Tracks l c) (hverdict : e.counted = c.counts e.day e.ms)
    (hlast : ∀ f ∈ l, f.day ≤ e.day) :
    Tracks (l ++ [e]) (c.close e) := by
  have htoday := h.countedToday hlast
  have hrolled : (c.close e).pomodoroCountedDay = some e.day := by
    cases hcounts : c.counts e.day e.ms with
    | true => rw [close_counted hcounts]
    | false => rw [close_uncounted hcounts]
  have hall : ∀ f ∈ l ++ [e], f.day ≤ e.day := by
    intro f hf
    rw [List.mem_append, List.mem_singleton] at hf
    rcases hf with hold | rfl
    · exact hlast f hold
    · exact le_refl _
  have hcountedToday : (c.close e).pomodoroCountedToday = (l ++ [e]).countP (Close.on e.day) := by
    rw [countP_on_snoc, ← htoday]
    cases hcounts : c.counts e.day e.ms with
    | true =>
        rw [close_counted hcounts]
        simp [Close.on, hverdict.trans hcounts]
    | false =>
        rw [close_uncounted hcounts]
        simp [Close.on, hverdict.trans hcounts]
  have hquota : ∀ d, ((l ++ [e]).countP (Close.on d) : ℤ) ≤ maxCountedPomodoroPerDay := by
    intro d
    rw [countP_on_snoc]
    split
    · next hon =>
      simp only [Close.on, Bool.and_eq_true, decide_eq_true_eq] at hon
      obtain ⟨hcounted, rfl⟩ := hon
      rw [hverdict, AppUser.counts, Bool.and_eq_true, decide_eq_true_eq, decide_eq_true_eq,
        htoday] at hcounted
      exact Int.add_one_le_iff.mpr hcounted.2
    · rw [add_zero]
      exact h.quota d
  have hdays := countedDays_snoc l e
  constructor
  · exact fun f hf => ⟨e.day, hrolled, hall f hf⟩
  · intro d hd
    rw [hrolled] at hd
    cases hd
    exact ⟨e, by simp, rfl⟩
  · intro d hd
    rw [hrolled] at hd
    cases hd
    exact hcountedToday
  · exact hquota
  all_goals cases hcounts : c.counts e.day e.ms
  all_goals rw [hdays, hverdict, hcounts]
  · rw [close_uncounted hcounts]
    exact h.idle
  · rw [close_counted hcounts]
    intro hnone
    cases hnone
  · rw [close_uncounted hcounts]
    exact h.current
  · rw [close_counted hcounts]
    intro d hd
    cases hd
    refine ⟨⟨Set.mem_insert _ _, fun d hd => ?_⟩, h.streakOn hlast⟩
    rcases Set.mem_insert_iff.mp hd with rfl | ⟨f, hf, -, rfl⟩
    · exact le_refl _
    · exact hlast f hf
  · rw [close_uncounted hcounts]
    exact h.longest
  · rw [close_counted hcounts]
    obtain ⟨n, hn, hlongest⟩ := h.longest
    obtain ⟨k, hk, hrun⟩ := h.streakOn hlast
    refine ⟨max n k, ?_, ?_⟩
    · dsimp only
      rw [hn, hk]
      omega
    · by_cases hmem : e.day ∈ countedDays l
      · rw [if_pos rfl, Set.insert_eq_of_mem hmem]
        rw [Set.insert_eq_of_mem hmem] at hrun
        have hle : k ≤ n := hlongest.2 ⟨e.day, hrun⟩
        rwa [max_eq_left hle]
      · rw [if_pos rfl]
        refine hlongest.insert (fun d hd => ?_) hrun
        obtain ⟨f, hf, hcount, rfl⟩ := hd
        have hle := hlast f hf
        have hne : f.day ≠ e.day := fun heq => hmem ⟨f, hf, hcount, heq⟩
        omega

theorem Played.tracks (h : Played l c) (hdays : (l.map Close.day).Pairwise (· ≤ ·)) :
    Tracks l c := by
  induction h with
  | nil => exact tracks_nil
  | @snoc l c e _ verdict _ ih =>
      rw [List.map_append, List.pairwise_append] at hdays
      refine (ih hdays.1).close verdict fun f hf => ?_
      exact hdays.2.2 f.day (List.mem_map_of_mem hf) e.day (by simp)

end Hezarfen.Pomodoro
