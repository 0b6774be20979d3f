import Hezarfen.PomodoroCounters

/-!
# The user row against the log

The counters of a user are read off the committed closed rows.  The totals and the open
slot hold in every run; the day's quota and the streak pair need the days of the finishes
to be in order.
-/

namespace Hezarfen.Pomodoro

open Interleaving ReadCommitted

variable {s : Db} {l : List Close} {c : AppUser} {user : UserId}

def countedRow (user : UserId) (row : PomodoroSession) : Bool :=
  decide (row.user = user) && row.finishedAt.isSome && row.counted == some true

def PomodoroSession.duration (row : PomodoroSession) : ℤ :=
  row.finishedAt.elim 0 fun t => t - row.startedAt

def PomodoroSession.closedOn (row : PomodoroSession) (d : ℤ) : Bool :=
  row.finishedAt.map dayNumber == some d

def Db.countedCount (s : Db) (user : UserId) : ℕ :=
  s.pomodoroSession.count fun _ row => countedRow user row

def Db.countedDuration (s : Db) (user : UserId) : ℤ :=
  s.pomodoroSession.total fun _ row => if countedRow user row then row.duration else 0

def Db.countedOn (s : Db) (user : UserId) (d : ℤ) : ℕ :=
  s.pomodoroSession.count fun _ row => countedRow user row && row.closedOn d

/-- The days with a counted row. -/
def Db.countedDays (s : Db) (user : UserId) : Set ℤ :=
  {d | ∃ id row, (s.pomodoroSession.row id).committed = some row ∧ countedRow user row = true ∧
    row.closedOn d = true}

theorem sum_finishesOf (user : UserId) (p : Close → Bool) (w : Close → ℤ) (l : List Close) :
    (l.map fun e => if decide (e.session.user = user) && p e then w e else 0).sum =
      (((finishesOf user l).filter p).map w).sum := by
  induction l with
  | nil => rfl
  | cons e l ih =>
      rw [List.map_cons, List.sum_cons, ih]
      unfold finishesOf
      by_cases huser : e.session.user = user
      · cases hp : p e with
        | true | false => simp [huser, hp]
      · simp [huser]

theorem total_counted (h : Logged s l) (user : UserId) (p : PomodoroSession → Bool)
    (w : PomodoroSession → ℤ) :
    s.pomodoroSession.total (fun _ row => if countedRow user row && p row then w row else 0) =
      (((finishesOf user l).filter fun e => e.counted && p e.session).map
        fun e => w e.session).sum := by
  have hclosed := h.closed fun row =>
    if decide (row.user = user) && ((row.counted == some true) && p row) then w row else 0
  have hlog := sum_finishesOf user (fun e => e.counted && p e.session) (fun e => w e.session) l
  rw [← hlog]
  unfold Close.counted
  rw [← hclosed]
  unfold Db.closedTotal
  congr 1
  funext id row
  unfold closedWeight countedRow
  cases row.finishedAt.isSome with
  | true => simp [Bool.and_assoc]
  | false => simp

theorem countedOn_eq (h : Logged s l) (user : UserId) (hplayed : Played (finishesOf user l) c)
    (d : ℤ) :
    s.countedOn user d = (finishesOf user l).countP (Close.on d) := by
  have htotal := total_counted h user (fun row => row.closedOn d) fun _ => 1
  have hcount : s.pomodoroSession.total
      (fun _ row => if countedRow user row && row.closedOn d then 1 else 0) =
        s.countedOn user d := Rows.total_count _ _
  rw [hcount, List.map_const', List.sum_replicate, ← List.countP_eq_length_filter] at htotal
  have hcongr : (finishesOf user l).countP (fun e => e.counted && e.session.closedOn d) =
      (finishesOf user l).countP (Close.on d) := by
    apply List.countP_congr
    intro e he
    unfold Close.on
    rw [Bool.and_eq_true, Bool.and_eq_true]
    apply and_congr_right
    intro hcounted
    unfold PomodoroSession.closedOn
    rw [hplayed.day_eq he hcounted]
    simp
  rw [hcongr] at htotal
  simpa using htotal

theorem countedDays_eq (h : Logged s l) (hplayed : Played (finishesOf user l) c) :
    s.countedDays user = Pomodoro.countedDays (finishesOf user l) := by
  ext d
  have hrows : d ∈ s.countedDays user ↔ 0 < s.countedOn user d := by
    unfold Db.countedOn
    rw [Rows.count_pos_iff]
    simp only [Db.countedDays, Set.mem_ofPred_eq, Bool.and_eq_true]
  rw [hrows, countedOn_eq h user hplayed, List.countP_pos_iff]
  simp only [Pomodoro.countedDays, Set.mem_ofPred_eq, Close.on, Bool.and_eq_true,
    decide_eq_true_eq]

theorem Played.eq_foldl (h : Played l c) :
    c = l.foldl AppUser.close .fresh := by
  induction h with
  | nil => rfl
  | snoc _ _ _ ih => rw [List.foldl_append, ← ih, List.foldl_cons, List.foldl_nil]

theorem longest_le_foldl (l : List Close) (c : AppUser) :
    c.studyStreakLongest ≤ (l.foldl AppUser.close c).studyStreakLongest := by
  induction l generalizing c with
  | nil => exact le_refl _
  | cons e l ih => exact (longest_le_close c e).trans (ih (c.close e))

theorem Played.longest_le {l' : List Close} {c' : AppUser} (h : Played l c)
    (h' : Played (l ++ l') c') : c.studyStreakLongest ≤ c'.studyStreakLongest := by
  rw [h'.eq_foldl, List.foldl_append, ← h.eq_foldl]
  exact longest_le_foldl l' c

/-! ## Every reachable state -/

structure Db.Start (s : Db) : Prop where
  settled : s.appUser.Settled
  sessions : s.pomodoroSession = ∅
  fresh : ∀ user row, (s.appUser.row user).committed = some row → row = .fresh

theorem Db.Start.runs (h : s.Start) : Runs (Config.initial s) := by
  have hrow : ∀ id, s.pomodoroSession.row id = .vacant := by
    intro id
    rw [h.sessions]
    rfl
  have hsettled : s.pomodoroSession.Settled := by
    intro id
    rw [hrow id]
    rfl
  apply Config.initial_runs
  · constructor
    · refine hsettled.every fun id row hcommitted => ?_
      rw [hrow id] at hcommitted
      cases hcommitted
    · intro user
      unfold Db.openCount
      rw [h.sessions]
      exact Nat.zero_le 1
  · exact fun tx => ⟨hsettled.idle tx, h.settled.idle tx⟩

theorem Db.Start.logged (h : s.Start) : Logged s [] where
  played := by
    intro user row hrow
    rw [h.fresh user row hrow]
    exact .nil
  closed := by
    intro f
    unfold Db.closedTotal
    rw [h.sessions]
    rfl

structure Totals (s : Db) (user : UserId) (row : AppUser) : Prop where
  finished : row.pomodoroFinishedTotal = s.countedCount user
  focus : row.pomodoroFocusMsTotal = s.countedDuration user

structure InDayOrder (s : Db) (user : UserId) (row : AppUser) : Prop where
  quota : ∀ d, (s.countedOn user d : ℤ) ≤ maxCountedPomodoroPerDay
  none : s.countedDays user = ∅ → row.studyStreakCurrent = 0
  current : ∀ d, IsGreatest (s.countedDays user) d →
    ∃ k : ℕ, row.studyStreakCurrent = k ∧ Streak.IsRun (s.countedDays user) d k
  longest : ∃ n : ℕ, row.studyStreakLongest = n ∧ Streak.IsLongest (s.countedDays user) n

theorem Logged.totals (h : Logged s l) {row : AppUser} (hplayed : Played (finishesOf user l) row) :
    Totals s user row := by
  obtain ⟨hfinished, hfocus⟩ := hplayed.totals
  have hcount := total_counted h user (fun _ => true) fun _ => 1
  have hduration := total_counted h user (fun _ => true) PomodoroSession.duration
  simp only [Bool.and_true] at hcount hduration
  constructor
  · have hrows : s.pomodoroSession.total (fun _ row => if countedRow user row then 1 else 0) =
        s.countedCount user := Rows.total_count _ _
    rw [hfinished, ← hrows, hcount, List.map_const', List.sum_replicate,
      List.countP_eq_length_filter]
    simp
  · rw [hfocus]
    exact hduration.symm

theorem Logged.inDayOrder (h : Logged s l) {row : AppUser}
    (hplayed : Played (finishesOf user l) row)
    (hdays : ((finishesOf user l).map Close.day).Pairwise (· ≤ ·)) : InDayOrder s user row := by
  have htracks := hplayed.tracks hdays
  have heq := countedDays_eq h hplayed
  constructor
  · intro d
    rw [countedOn_eq h user hplayed]
    exact htracks.quota d
  · intro hempty
    rw [heq] at hempty
    cases hlast : row.studyStreakLastDay with
    | none => exact (htracks.idle hlast).2
    | some d =>
        have hmem := (htracks.current d hlast).1.1
        rw [hempty] at hmem
        cases hmem
  · intro d hd
    rw [heq] at hd ⊢
    cases hlast : row.studyStreakLastDay with
    | none =>
        have hmem := hd.1
        rw [(htracks.idle hlast).1] at hmem
        cases hmem
    | some last =>
        obtain ⟨hgreatest, hrun⟩ := htracks.current last hlast
        rwa [hd.unique hgreatest]
  · rw [heq]
    exact htracks.longest

/-- In every run each user has at most one open session, and the totals of the user row are
those of the closed rows stamped counted.  When the finishes of a user commit in the order of
their days, the quota bounds the counted rows of each day and the streak pair is the last and
the longest run of days with a counted row.  Durations are never negative and the longest
streak never comes down, in whatever order the days come. -/
theorem counters_follow_log {start : Db} {c : Config Db Point} {moves : List (Move Request World)}
    (hstart : start.Start) (hrun : machine.run (Config.initial start) moves = some c) :
    (∀ user, c.shared.openCount user ≤ 1) ∧
    (∀ user row, (c.shared.appUser.row user).committed = some row →
      Totals c.shared user row ∧
        (((finishesOf user (machine.observe committedFinishes (Config.initial start) moves)).map
          Close.day).Pairwise (· ≤ ·) → InDayOrder c.shared user row)) ∧
    (∀ id row t, (c.shared.pomodoroSession.row id).committed = some row →
      row.finishedAt = some t → 0 ≤ t - row.startedAt) ∧
    ∀ more c' user row row', machine.run c more = some c' →
      (c.shared.appUser.row user).committed = some row →
      (c'.shared.appUser.row user).committed = some row' →
      row.studyStreakLongest ≤ row'.studyStreakLongest := by
  obtain ⟨hruns, hlogged⟩ := logged_run hstart.runs hstart.logged hrun
  rw [List.nil_append] at hlogged
  refine ⟨hruns.shared.slot, fun user row hrow => ?_, fun id row t hrow ht => ?_,
    fun more c' user row row' hmore hrow hrow' => ?_⟩
  · have hplayed := hlogged.played user row hrow
    exact ⟨hlogged.totals hplayed, hlogged.inDayOrder hplayed⟩
  · have hle := hruns.shared.ordered id row (.inl hrow) t ht
    exact sub_nonneg.mpr hle
  · have hlater := (logged_run hruns hlogged hmore).2.played user row' hrow'
    unfold finishesOf at hlater
    rw [List.filter_append] at hlater
    exact (hlogged.played user row hrow).longest_le hlater

def student : UserId := ⟨.ending "0001"⟩

def stint1 : PomodoroSessionId := ⟨.ending "0002"⟩

def stint2 : PomodoroSessionId := ⟨.ending "0003"⟩

def stint3 : PomodoroSessionId := ⟨.ending "0004"⟩

def stint4 : PomodoroSessionId := ⟨.ending "0005"⟩

def enrolled : Db := ⟨∅, (∅ : Rows UserId AppUser).put student .fresh⟩

theorem enrolled_start : enrolled.Start where
  settled := by
    intro user
    unfold enrolled
    rw [Rows.row_put]
    split
    · rfl
    · rfl
  sessions := rfl
  fresh := by
    intro user row hrow
    unfold enrolled at hrow
    rw [Rows.row_put] at hrow
    split at hrow
    · cases hrow
      rfl
    · cases hrow

def twoDays : List (Move Request World) :=
  [.start (.start student none), .advance 0 ⟨0, stint1⟩, .start (.finish student)] ++
    List.replicate 7 (.advance 1 ⟨600000, stint2⟩) ++
    [.start (.start student none), .advance 2 ⟨86400000, stint3⟩,
      .start (.start student none), .advance 3 ⟨86440000, stint4⟩, .start (.finish student)] ++
    List.replicate 7 (.advance 4 ⟨86800000, stint4⟩)

theorem counters_follow_log_twoDays :
    ∃ c row, machine.run (Config.initial enrolled) twoDays = some c ∧
      (c.shared.appUser.row student).committed = some row ∧
      Totals c.shared student row ∧ InDayOrder c.shared student row ∧
      c.shared.openCount student ≤ 1 ∧ row.pomodoroFinishedTotal = 2 ∧
      row.studyStreakLongest = 2 := by
  have hend : (machine.run (Config.initial enrolled) twoDays).any (fun c =>
      (c.shared.appUser.row student).committed.any fun row =>
        decide (row.pomodoroFinishedTotal = 2 ∧ row.studyStreakLongest = 2)) = true := by
    decide
  have hdays : ((finishesOf student
      (machine.observe committedFinishes (Config.initial enrolled) twoDays)).map
        Close.day).Pairwise (· ≤ ·) := by
    decide
  obtain ⟨c, hrun, hc⟩ := (Option.any_eq_true _ _).mp hend
  obtain ⟨row, hrow, hcounters⟩ := (Option.any_eq_true _ _).mp hc
  obtain ⟨hfinished, hlongest⟩ := of_decide_eq_true hcounters
  obtain ⟨hslot, hrows, -⟩ := counters_follow_log enrolled_start hrun
  obtain ⟨htotals, horder⟩ := hrows student row hrow
  exact ⟨c, row, hrun, hrow, htotals, horder hdays, hslot student, hfinished, hlongest⟩

end Hezarfen.Pomodoro
