import Hezarfen.PomodoroStreak

/-!
# The counters of the user row in every interleaving

A finish holds the user row from its read to its commit, so what it decides is decided on
the committed counters, and its commit is the next finish of the user's log.
-/

namespace Hezarfen.Pomodoro

open Interleaving ReadCommitted

variable {id : PomodoroSessionId} {row : PomodoroSession} {user : UserId} {l : List Close}
  {w : World} {n : Reply} {job : Closing} {c : AppUser} {p : Point}

/-- A quantity of the closed rows. -/
def closedWeight (f : PomodoroSession → ℤ) (_ : PomodoroSessionId) (row : PomodoroSession) : ℤ :=
  if row.finishedAt.isSome then f row else 0

def opens (user : UserId) (_ : PomodoroSessionId) (row : PomodoroSession) : Bool :=
  row.isOpen user

def Db.openCount (s : Db) (user : UserId) : ℕ := s.pomodoroSession.count (opens user)

def Db.closedTotal (s : Db) (f : PomodoroSession → ℤ) : ℤ :=
  s.pomodoroSession.total (closedWeight f)

structure Inv (s : Db) : Prop where
  ordered : s.pomodoroSession.Every fun _ row => ∀ t, row.finishedAt = some t → row.startedAt ≤ t
  slot : ∀ user, s.openCount user ≤ 1

def Db.Idle (tx : ℕ) (s : Db) : Prop := s.pomodoroSession.Idle tx ∧ s.appUser.Idle tx

def Db.openGain (s : Db) (tx : ℕ) (user : UserId) : ℤ :=
  s.pomodoroSession.gain (fun id row => if opens user id row then 1 else 0) tx

structure Db.Gains (s : Db) (tx : ℕ) (filed : Option PomodoroSession) : Prop where
  closed : ∀ f, s.pomodoroSession.gain (closedWeight f) tx = filed.elim 0 f
  opened : ∀ user, s.openGain tx user ≤ 0

/-- The user row is the only one the transaction holds, with `own` over the committed `c`. -/
structure HoldsUser (tx : ℕ) (s : Db) (user : UserId) (c own : AppUser) : Prop where
  held : (s.appUser.row user).Held tx
  committed : (s.appUser.row user).committed = some c
  seen : (s.appUser.row user).seen tx = some own
  others : ∀ other, other ≠ user → ¬ (s.appUser.row other).Held tx

def Point.Knows (tx : ℕ) (s : Db) : Point → Prop
  | .lockUser _ => s.Gains tx none ∧ s.appUser.Idle tx
  | .update job c => s.Gains tx none ∧ HoldsUser tx s job.user c c
  | .file job counted => s.Gains tx none ∧ ∃ c, counted = c.counts job.day job.ms ∧
      HoldsUser tx s job.user c (c.write job.day job.ms c)
  | .commit job closed => s.Gains tx (some closed) ∧
      ∃ c, closed = job.closed (c.counts job.day job.ms) ∧
        HoldsUser tx s job.user c (c.write job.day job.ms c)
  | _ => s.Idle tx

def finishesOf (user : UserId) (l : List Close) : List Close :=
  l.filter fun e => decide (e.session.user = user)

structure Logged (s : Db) (l : List Close) : Prop where
  played : ∀ user row, (s.appUser.row user).committed = some row → Played (finishesOf user l) row
  closed : ∀ f, s.closedTotal f = (l.map fun e => f e.session).sum

def Point.closes : Point → List Close
  | .commit job closed => [⟨job.day, closed⟩]
  | _ => []

/-- The committed finishes along a run. -/
def committedFinishes (c : Config Db Point) : Move Request World → List Close
  | .advance tx _ => (c.calls.lookup tx).elim [] Point.closes
  | _ => []

structure Db.Apart (tx : ℕ) (s s' : Db) : Prop where
  sessions : s.pomodoroSession.Apart tx s'.pomodoroSession
  users : s.appUser.Apart tx s'.appUser

theorem closedWeight_open {f : PomodoroSession → ℤ} (h : row.isOpen user = true) :
    closedWeight f id row = 0 := by
  unfold PomodoroSession.isOpen at h
  rw [Bool.and_eq_true, Option.isNone_iff_eq_none] at h
  simp [closedWeight, h.2]

theorem isOpen_closed (job : Closing) (counted : Bool) (user : UserId) :
    (job.closed counted).isOpen user = false := by
  simp [Closing.closed, PomodoroSession.isOpen]

theorem openWeight_nonneg (user : UserId) (id : PomodoroSessionId) (row : PomodoroSession) :
    (0 : ℤ) ≤ if opens user id row then 1 else 0 := by
  split <;> omega

/-- Two open rows of one user weigh the same. -/
theorem openWeight_congr {user' : UserId} {row' : PomodoroSession} (h : row.isOpen user = true)
    (h' : row'.isOpen user = true) :
    opens user' id row = opens user' id row' := by
  unfold PomodoroSession.isOpen at h h'
  rw [Bool.and_eq_true, decide_eq_true_eq] at h h'
  simp only [opens, PomodoroSession.isOpen, h.1, h'.1, h.2, h'.2]

variable {s : Db}

theorem openRow_some (h : s.openRow user = some id) :
    ∃ row, (s.pomodoroSession.row id).committed = some row ∧ row.isOpen user = true := by
  unfold Db.openRow at h
  rw [Option.map_eq_some_iff] at h
  obtain ⟨entry, hfind, rfl⟩ := h
  have hopen := List.find?_some hfind
  have hlookup := mem_entries_iff_lookup.mp (List.mem_of_find?_eq_some hfind)
  rw [Rows.row_of_lookup hlookup]
  exact (Option.any_eq_true _ _).mp hopen

theorem openRow_none (h : s.openRow user = none) :
    s.openCount user = 0 := by
  unfold Db.openRow at h
  rw [Option.map_eq_none_iff, List.find?_eq_none] at h
  unfold Db.openCount Rows.count
  rw [Table.count_eq_zero_iff]
  intro id row hrow
  have hnot := h ⟨id, row⟩ (mem_entries_iff_lookup.mpr hrow)
  exact Bool.eq_false_of_not_eq_true hnot

theorem vacant_of_lookup {t : Rows PomodoroSessionId PomodoroSession}
    (h : ¬ (t.lookup id).isSome = true) : t.row id = .vacant := by
  have hnone : t.lookup id = none := by simpa using h
  rw [Rows.row, hnone]
  rfl

theorem total_opens (t : Rows PomodoroSessionId PomodoroSession) (user : UserId) :
    t.total (fun id row => if opens user id row then 1 else 0) = t.count (opens user) :=
  Rows.total_count _ _

/-! ## What ends a transaction -/

theorem idle_rollback (s : Db) (tx : ℕ) : (s.rollback tx).Idle tx :=
  ⟨Rows.idle_rollback tx _, Rows.idle_rollback tx _⟩

theorem idle_commit (s : Db) (tx : ℕ) : (s.commit tx).Idle tx :=
  ⟨Rows.idle_commit tx _, Rows.idle_commit tx _⟩

theorem Inv.rollback (h : Inv s) (tx : ℕ) : Inv (s.rollback tx) where
  ordered := h.ordered.rollback tx
  slot := by
    intro user
    have hsame : (s.rollback tx).openCount user = s.openCount user :=
      Rows.count_rollback (opens user) tx s.pomodoroSession
    rw [hsame]
    exact h.slot user

theorem Logged.rollback (h : Logged s l) (tx : ℕ) :
    Logged (s.rollback tx) l where
  played := by
    intro user row hrow
    have hsame : ((s.rollback tx).appUser.row user).committed = (s.appUser.row user).committed :=
      Rows.committed_rollback tx s.appUser user
    exact h.played user row (hsame ▸ hrow)
  closed := by
    intro f
    have hsame : (s.rollback tx).closedTotal f = s.closedTotal f :=
      Rows.total_rollback _ tx s.pomodoroSession
    rw [hsame]
    exact h.closed f

theorem openCount_commit (s : Db) (tx : ℕ) (user : UserId) :
    ((s.commit tx).openCount user : ℤ) = s.openCount user + s.openGain tx user := by
  have htotal := Rows.total_commit (fun id row => if opens user id row then 1 else 0) tx
    s.pomodoroSession
  rw [total_opens, total_opens] at htotal
  exact htotal

variable {tx : ℕ}

/-- A transaction that opens no row may commit. -/
theorem Inv.commit (h : Inv s) (hopen : ∀ user, s.openGain tx user ≤ 0) :
    Inv (s.commit tx) where
  ordered := h.ordered.commit tx
  slot := by
    intro user
    have hcommit := openCount_commit s tx user
    have hgain := hopen user
    have hslot := h.slot user
    omega

variable {s' : Db}

theorem Logged.of_same (h : Logged s l)
    (husers : ∀ user, (s'.appUser.row user).committed = (s.appUser.row user).committed)
    (hclosed : ∀ f, s'.closedTotal f = s.closedTotal f) : Logged s' l where
  played := by
    intro user row hrow
    rw [husers] at hrow
    exact h.played user row hrow
  closed := by
    intro f
    rw [hclosed]
    exact h.closed f

def Lands (tx : ℕ) (s : Db) : Reply → Prop
  | .goto q => Inv s ∧ q.Knows tx s
  | .answer _ => Inv s ∧ s.Idle tx

theorem lands_refuse (h : Inv s) (tx : ℕ) (e : AppError) :
    Lands tx (s.rollback tx) (.answer (.error e)) :=
  ⟨h.rollback tx, idle_rollback s tx⟩

theorem Inv.write (h : Inv s) {version : Option PomodoroSession}
    (hversion : ∀ row, version = some row → ∀ t, row.finishedAt = some t → row.startedAt ≤ t) :
    Inv { s with pomodoroSession := s.pomodoroSession.write tx id version } where
  ordered := h.ordered.write hversion
  slot := by
    intro user
    have htotal := Rows.total_write (fun id row => if opens user id row then 1 else 0) tx
      s.pomodoroSession id version
    rw [total_opens, total_opens] at htotal
    have hslot : s.pomodoroSession.count (opens user) ≤ 1 := h.slot user
    have hgoal : (s.pomodoroSession.write tx id version).count (opens user) ≤ 1 := by omega
    exact hgoal

/-- A start on the open slot stamps the open row again. -/
theorem start_restamp {sessions : Rows PomodoroSessionId PomodoroSession}
    (hidle : s.Idle tx) (hopen : s.openRow user = some id) (hrow : row.isOpen user = true)
    (hplace : s.pomodoroSession.place tx id (fun _ => row) = some sessions) :
    ({ s with pomodoroSession := sessions } : Db).Gains tx none := by
  obtain ⟨old, hold, holdOpen⟩ := openRow_some hopen
  have hseen : (s.pomodoroSession.row id).seen tx = some old := by
    rw [Row.seen_eq_committed (hidle.1 id), hold]
  constructor
  · intro f
    rw [Rows.gain_place hplace, Rows.gain_of_idle _ hidle.1, hseen]
    simp [Row.amount, closedWeight_open hrow, closedWeight_open holdOpen]
  · intro user'
    unfold Db.openGain
    rw [Rows.gain_place hplace, Rows.gain_of_idle _ hidle.1, hseen]
    simp [Row.amount, openWeight_congr hrow holdOpen]

/-- A start on a free slot opens the only row of its user. -/
theorem start_open (hinv : Inv s) (hnone : s.openRow user = none)
    (hvacant : s.pomodoroSession.row id = .vacant) (hrow : row.isOpen user = true) :
    Inv { s with pomodoroSession := s.pomodoroSession.put id row } where
  ordered := by
    apply hinv.ordered.put
    intro t ht
    unfold PomodoroSession.isOpen at hrow
    simp [ht] at hrow
  slot := by
    intro user'
    have htotal := Rows.total_put (fun id row => if opens user' id row then 1 else 0) hvacant row
    rw [total_opens, total_opens] at htotal
    have hslot : s.pomodoroSession.count (opens user') ≤ 1 := hinv.slot user'
    have hgoal : (s.pomodoroSession.put id row).count (opens user') ≤ 1 := by
      by_cases huser : user = user'
      · subst huser
        have hzero : s.pomodoroSession.count (opens user) = 0 := openRow_none hnone
        split at htotal <;> omega
      · have hother : opens user' id row = false := by
          unfold PomodoroSession.isOpen at hrow
          rw [Bool.and_eq_true, decide_eq_true_eq] at hrow
          simp [opens, PomodoroSession.isOpen, hrow.1, huser]
        rw [if_neg (by simp [hother])] at htotal
        omega
    exact hgoal

theorem step_start {label : Option String} (hinv : Inv s) (hidle : s.Idle tx)
    (h : start tx s w user label = some (s', n)) :
    Lands tx s' n ∧ ∀ l, Logged s l → Logged s' l := by
  have hrow : PomodoroSession.isOpen user ⟨user, w.now, none, none, label⟩ = true := by
    simp [PomodoroSession.isOpen]
  unfold start at h
  split at h
  · next id hopen =>
    rw [Option.map_eq_some_iff] at h
    obtain ⟨sessions, hplace, hrest⟩ := h
    cases hrest
    have hgains := start_restamp hidle hopen hrow hplace
    have hwritten : Inv { s with pomodoroSession := sessions } := by
      obtain ⟨-, rfl⟩ := Rows.place_cases hplace
      apply hinv.write
      intro row hsome t ht
      cases hsome
      cases ht
    refine ⟨⟨hwritten.commit hgains.opened, idle_commit _ tx⟩, fun l hl => ?_⟩
    apply hl.of_same
    · intro other
      have hsame : ((s.appUser.commit tx).row other).committed =
          (s.appUser.row other).committed := by
        rw [Rows.row_commit, Row.committed_commit, Row.seen_eq_committed (hidle.2 other)]
      exact hsame
    · intro f
      have htotal := Rows.total_commit (closedWeight f) tx sessions
      have hzero : sessions.gain (closedWeight f) tx = 0 := hgains.closed f
      have hplaced : sessions.total (closedWeight f) =
          s.pomodoroSession.total (closedWeight f) := by
        obtain ⟨-, rfl⟩ := Rows.place_cases hplace
        exact Rows.total_write _ tx _ id _
      unfold Db.closedTotal
      rw [hzero, hplaced, add_zero] at htotal
      exact htotal
  · next hnone =>
    split at h
    · cases h
    · next hfresh =>
      split at h
      · cases h
        exact ⟨⟨hinv, hidle⟩, fun l hl => hl⟩
      · cases h
        have hvacant := vacant_of_lookup hfresh
        refine ⟨⟨start_open hinv hnone hvacant hrow, Rows.idle_put hidle.1 _ _, hidle.2⟩,
          fun l hl => hl.of_same (fun _ => rfl) fun f => ?_⟩
        unfold Db.closedTotal
        dsimp only
        rw [Rows.total_put _ hvacant, closedWeight_open hrow, add_zero]

theorem step_take {done : Timestamp} (hinv : Inv s) (hidle : s.Idle tx)
    (h : take tx s user done id = some (s', n)) :
    Lands tx s' n ∧ ∀ l, Logged s l → Logged s' l := by
  unfold take at h
  split at h
  · cases h
  · cases h
    exact ⟨lands_refuse hinv tx _, fun l hl => hl.rollback tx⟩
  · next taken sessions halter =>
    cases h
    have hopen : taken.isOpen user = true := by
      rcases Rows.alterWhere_cases halter with ⟨hnone, -⟩ | ⟨v, hv, -, hq, -⟩
      · cases hnone
      · cases hv
        exact hq
    have hgain : ∀ g : PomodoroSessionId → PomodoroSession → ℤ,
        sessions.gain g tx = - g id taken := by
      intro g
      rw [Rows.gain_alter halter, Rows.gain_of_idle _ hidle.1]
      simp [Row.amount]
    refine ⟨⟨⟨?_, ?_⟩, ⟨?_, ?_⟩, hidle.2⟩, fun l hl => ?_⟩
    · exact hinv.ordered.alter (fun v w _ hw => by cases hw) halter
    · intro user'
      have hsame : sessions.count (opens user') = s.pomodoroSession.count (opens user') :=
        Rows.count_alter halter _
      have hslot : s.pomodoroSession.count (opens user') ≤ 1 := hinv.slot user'
      rw [← hsame] at hslot
      exact hslot
    · intro f
      dsimp only
      rw [hgain, closedWeight_open hopen]
      rfl
    · intro user'
      unfold Db.openGain
      dsimp only
      rw [hgain]
      exact neg_nonpos.mpr (openWeight_nonneg user' id taken)
    · exact hl.of_same (fun _ => rfl) fun f => Rows.total_alter halter _

theorem Inv.users (h : Inv s) (users : Rows UserId AppUser) :
    Inv { s with appUser := users } :=
  ⟨h.ordered, h.slot⟩

theorem Db.Gains.users {filed : Option PomodoroSession} (h : s.Gains tx filed)
    (users : Rows UserId AppUser) : ({ s with appUser := users } : Db).Gains tx filed :=
  ⟨h.closed, h.opened⟩

theorem step_lockUser (hinv : Inv s) (hgains : s.Gains tx none)
    (hidle : s.appUser.Idle tx) (h : lockUser tx s job = some (s', n)) :
    Lands tx s' n ∧ ∀ l, Logged s l → Logged s' l := by
  unfold lockUser at h
  split at h
  · cases h
  · cases h
    exact ⟨lands_refuse hinv tx _, fun l hl => hl.rollback tx⟩
  · next c users hlock =>
    cases h
    obtain ⟨hheld, hseen⟩ := Rows.held_alter hlock
    have hcommitted := Rows.committed_alter hlock
    obtain ⟨hread, -⟩ := Rows.alter_cases hlock
    rw [Row.seen_eq_committed (hidle job.user)] at hread
    refine ⟨⟨hinv.users users, hgains.users users, hheld, ?_, hseen, fun other hne => ?_⟩,
      fun l hl => hl.of_same hcommitted fun _ => rfl⟩
    · rw [← hread]
      exact hcommitted job.user
    · rcases Rows.alterWhere_cases hlock with ⟨hnone, -⟩ | ⟨v, -, -, -, -, rfl⟩
      · cases hnone
      · dsimp only
        rw [Rows.row_write, if_neg hne]
        exact hidle other

theorem step_update (hinv : Inv s) (hgains : s.Gains tx none)
    (hholds : HoldsUser tx s job.user c c) (h : update tx s job c = some (s', n)) :
    Lands tx s' n ∧ ∀ l, Logged s l → Logged s' l := by
  unfold update at h
  rw [Option.map_eq_some_iff] at h
  obtain ⟨⟨old, users⟩, halter, hrest⟩ := h
  cases hrest
  have hcommitted := Rows.committed_alter halter
  obtain ⟨hread, hnone | ⟨v, hv, -, hwrite⟩⟩ := Rows.alter_cases halter
  · rw [hholds.seen, hnone.1] at hread
    cases hread
  · rw [hholds.seen, hv] at hread
    cases hread
    subst hwrite
    refine ⟨⟨hinv.users _, hgains.users _, c, rfl, ?_, ?_, ?_, fun other hne => ?_⟩,
      fun l hl => hl.of_same hcommitted fun _ => rfl⟩
    · exact Rows.held_write tx _ _ _
    · rw [← hholds.committed]
      exact hcommitted job.user
    · exact Rows.seen_write tx _ _ _
    · rw [Rows.row_write, if_neg hne]
      exact hholds.others other hne

theorem step_file {counted : Bool} (hinv : Inv s) (hgains : s.Gains tx none)
    (hverdict : counted = c.counts job.day job.ms)
    (hholds : HoldsUser tx s job.user c (c.write job.day job.ms c))
    (h : file tx s w job counted = some (s', n)) :
    Lands tx s' n ∧ ∀ l, Logged s l → Logged s' l := by
  unfold file at h
  split at h
  · cases h
  · next hfresh =>
    cases h
    have hvacant := vacant_of_lookup hfresh
    have hgain : ∀ g : PomodoroSessionId → PomodoroSession → ℤ,
        (s.pomodoroSession.write tx w.id (some (job.closed counted))).gain g tx =
          s.pomodoroSession.gain g tx + g w.id (job.closed counted) := by
      intro g
      rw [Rows.gain_write, hvacant]
      simp [Row.amount, Row.seen, Row.vacant]
    refine ⟨⟨?_, ⟨?_, ?_⟩, c, hverdict ▸ rfl, ?_⟩, fun l hl => ?_⟩
    · apply hinv.write
      intro row hrow t ht
      cases hrow
      cases ht
      exact le_max_left _ _
    · intro f
      dsimp only
      rw [hgain, hgains.closed f]
      simp [closedWeight, Closing.closed]
    · intro user
      have hopened : s.pomodoroSession.gain (fun id row => if opens user id row then 1 else 0) tx
          ≤ 0 := hgains.opened user
      have hclosed : opens user w.id (job.closed counted) = false :=
        isOpen_closed job counted user
      unfold Db.openGain
      dsimp only
      rw [hgain, hclosed]
      simpa using hopened
    · exact ⟨hholds.held, hholds.committed, hholds.seen, hholds.others⟩
    · exact hl.of_same (fun _ => rfl) fun f => Rows.total_write _ tx _ _ _

theorem closed_ms (job : Closing) (counted : Bool) :
    Close.ms ⟨job.day, job.closed counted⟩ = job.ms := rfl

theorem finishedAt_of_counts (h : c.counts job.day job.ms = true) : job.finishedAt = job.done := by
  unfold AppUser.counts minCountedPomodoroMs at h
  rw [Bool.and_eq_true, decide_eq_true_eq] at h
  have hms := h.1
  unfold Closing.ms at hms
  unfold Closing.finishedAt at hms ⊢
  apply max_eq_right
  by_contra hlt
  rw [max_eq_left (le_of_not_ge hlt)] at hms
  omega

theorem finishesOf_snoc (user : UserId) (l : List Close) (e : Close) :
    finishesOf user (l ++ [e]) =
      if e.session.user = user then finishesOf user l ++ [e] else finishesOf user l := by
  unfold finishesOf
  rw [List.filter_append]
  split
  · next huser => simp [huser]
  · next huser => simp [huser]

/-- The commit is the next finish of its user's log. -/
theorem Logged.commit {closed : PomodoroSession} (h : Logged s l)
    (hgains : s.Gains tx (some closed)) (hclosed : closed = job.closed (c.counts job.day job.ms))
    (hholds : HoldsUser tx s job.user c (c.write job.day job.ms c)) :
    Logged (s.commit tx) (l ++ [⟨job.day, closed⟩]) where
  played := by
    intro user row hrow
    have hseen : (s.appUser.row user).seen tx = some row := by
      rw [← Row.committed_commit, ← Rows.row_commit]
      exact hrow
    have howner : closed.user = job.user := by rw [hclosed]; rfl
    rw [finishesOf_snoc]
    by_cases huser : user = job.user
    · subst huser
      rw [hholds.seen] at hseen
      cases hseen
      have hplayed := h.played job.user c hholds.committed
      rw [if_pos howner]
      have hnext : Played (finishesOf job.user l ++ [⟨job.day, closed⟩])
          (c.close ⟨job.day, closed⟩) := by
        subst hclosed
        refine hplayed.snoc ?_ fun hcounted => ?_
        · rw [closed_ms]
          cases hcounts : c.counts job.day job.ms <;>
            simp [Close.counted, Closing.closed]
        · have hcounts : c.counts job.day job.ms = true := by
            simpa [Close.counted, Closing.closed] using hcounted
          simp [Closing.closed, finishedAt_of_counts hcounts, Closing.day]
      subst hclosed
      exact hnext
    · have hother : ¬ closed.user = user := fun heq => huser (heq.symm.trans howner)
      rw [Row.seen_eq_committed (hholds.others user huser)] at hseen
      rw [if_neg hother]
      exact h.played user row hseen
  closed := by
    intro f
    have htotal := Rows.total_commit (closedWeight f) tx s.pomodoroSession
    have hold := h.closed f
    rw [hgains.closed f] at htotal
    unfold Db.closedTotal at hold ⊢
    rw [List.map_append, List.sum_append, ← hold]
    unfold Db.commit
    simpa using htotal

theorem step_lands (hinv : Inv s) (hknows : p.Knows tx s)
    (h : next tx s p w = some (s', n)) :
    Lands tx s' n ∧ ∀ l, Logged s l → Logged s' (l ++ p.closes) := by
  have hsilent : (∀ l, Logged s l → Logged s' l) → ∀ l, Logged s l → Logged s' (l ++ []) := by
    intro hsame l hl
    rw [List.append_nil]
    exact hsame l hl
  cases p with
  | start =>
      obtain ⟨hlands, hlog⟩ := step_start hinv hknows h
      exact ⟨hlands, hsilent hlog⟩
  | finish =>
      cases h
      exact ⟨⟨hinv, hknows⟩, hsilent fun l hl => hl⟩
  | find =>
      cases h
      refine ⟨?_, hsilent fun l hl => hl⟩
      unfold find
      split
      · exact ⟨hinv, hknows⟩
      · exact ⟨hinv, hknows⟩
  | take =>
      obtain ⟨hlands, hlog⟩ := step_take hinv hknows h
      exact ⟨hlands, hsilent hlog⟩
  | lockUser =>
      obtain ⟨hlands, hlog⟩ := step_lockUser hinv hknows.1 hknows.2 h
      exact ⟨hlands, hsilent hlog⟩
  | update =>
      obtain ⟨hlands, hlog⟩ := step_update hinv hknows.1 hknows.2 h
      exact ⟨hlands, hsilent hlog⟩
  | file =>
      obtain ⟨hgains, c, hverdict, hholds⟩ := hknows
      obtain ⟨hlands, hlog⟩ := step_file hinv hgains hverdict hholds h
      exact ⟨hlands, hsilent hlog⟩
  | commit =>
      obtain ⟨hgains, c, hclosed, hholds⟩ := hknows
      cases h
      exact ⟨⟨hinv.commit hgains.opened, idle_commit s tx⟩,
        fun l hl => hl.commit hgains hclosed hholds⟩

/-! ## The other transactions -/

theorem Db.Apart.refl (tx : ℕ) (s : Db) : s.Apart tx s := ⟨.refl tx _, .refl tx _⟩

theorem apart_rollback (tx : ℕ) (s : Db) : s.Apart tx (s.rollback tx) :=
  ⟨.rollback tx _, .rollback tx _⟩

theorem apart_commit (tx : ℕ) (s : Db) : s.Apart tx (s.commit tx) :=
  ⟨.commit tx _, .commit tx _⟩

theorem next_apart (h : next tx s p w = some (s', n)) : s.Apart tx s' := by
  cases p with
  | start =>
      simp only [next, start] at h
      split at h
      · rw [Option.map_eq_some_iff] at h
        obtain ⟨sessions, hplace, hrest⟩ := h
        cases hrest
        exact ⟨(Rows.Apart.place hplace).trans (.commit tx _), .commit tx _⟩
      · split at h
        · cases h
        · next hfresh =>
          split at h
          · cases h
            exact .refl tx s
          · cases h
            exact ⟨.put (vacant_of_lookup hfresh) _, .refl tx _⟩
  | finish | find =>
      cases h
      exact .refl tx s
  | take =>
      simp only [next, take] at h
      split at h
      · cases h
      · cases h
        exact apart_rollback tx s
      · next halter =>
        cases h
        exact ⟨.alter halter, .refl tx _⟩
  | lockUser =>
      simp only [next, lockUser] at h
      split at h
      · cases h
      · cases h
        exact apart_rollback tx s
      · next hlock =>
        cases h
        exact ⟨.refl tx _, .alter hlock⟩
  | update =>
      simp only [next, update, Option.map_eq_some_iff] at h
      obtain ⟨r, halter, hrest⟩ := h
      cases hrest
      exact ⟨.refl tx _, .alter halter⟩
  | file =>
      simp only [next, file] at h
      split at h
      · cases h
      · next hfresh =>
        cases h
        have hfree : (s.pomodoroSession.row w.id).free tx = true := by
          rw [vacant_of_lookup hfresh]
          rfl
        exact ⟨.write _ hfree, .refl tx _⟩
  | commit =>
      cases h
      exact apart_commit tx s

variable {tx' : ℕ}

theorem Db.Apart.idle (h : s.Apart tx s') (hne : tx' ≠ tx) (hidle : s.Idle tx') : s'.Idle tx' :=
  ⟨h.sessions.idle tx' hne hidle.1, h.users.idle tx' hne hidle.2⟩

theorem Db.Apart.gains (h : s.Apart tx s') (hne : tx' ≠ tx) {filed : Option PomodoroSession}
    (hgains : s.Gains tx' filed) : s'.Gains tx' filed where
  closed := by
    intro f
    rw [h.sessions.gain tx' hne]
    exact hgains.closed f
  opened := by
    intro user
    unfold Db.openGain
    rw [h.sessions.gain tx' hne]
    exact hgains.opened user

theorem Db.Apart.holdsUser (h : s.Apart tx s') (hne : tx' ≠ tx) {own : AppUser}
    (hholds : HoldsUser tx' s user c own) : HoldsUser tx' s' user c own := by
  have hsame := h.users.held tx' hne user hholds.held
  constructor
  · exact hsame.symm ▸ hholds.held
  · exact hsame.symm ▸ hholds.committed
  · exact hsame.symm ▸ hholds.seen
  · exact fun other hother => h.users.unheld tx' hne other (hholds.others other hother)

theorem Db.Apart.knows (h : s.Apart tx s') (hne : tx' ≠ tx) (hknows : p.Knows tx' s) :
    p.Knows tx' s' := by
  cases p with
  | lockUser => exact ⟨h.gains hne hknows.1, h.users.idle tx' hne hknows.2⟩
  | update => exact ⟨h.gains hne hknows.1, h.holdsUser hne hknows.2⟩
  | file =>
      obtain ⟨hgains, c, hverdict, hholds⟩ := hknows
      exact ⟨h.gains hne hgains, c, hverdict, h.holdsUser hne hholds⟩
  | commit =>
      obtain ⟨hgains, c, hclosed, hholds⟩ := hknows
      exact ⟨h.gains hne hgains, c, hclosed, h.holdsUser hne hholds⟩
  | _ => exact h.idle hne hknows

theorem transactional :
    machine.Transactional (fun _ _ => True) Inv (fun tx p s => p.Knows tx s) Db.Idle
      (fun tx s s' => s.Apart tx s') where
  entry := by
    intro tx s request _ hidle
    cases request with
    | start | finish => exact hidle
  own := by
    intro c tx choice p s n _ _ hnext hinv hknows
    have hlands := (step_lands hinv hknows hnext).1
    cases n with
    | goto =>
        refine ⟨hlands.1, fun q' hq => ?_, fun a ha => by cases ha⟩
        cases hq
        exact hlands.2
    | answer => exact ⟨hlands.1, fun q hq => (by cases hq), fun _ _ => hlands.2⟩
  next_apart := fun h _ _ => next_apart h
  rollback := fun {tx s} hinv => ⟨hinv.rollback tx, idle_rollback s tx, apart_rollback tx s⟩
  stable := fun hne hapart _ _ hknows => hapart.knows hne hknows
  idle := fun hne hapart hidle => hapart.idle hne hidle

abbrev Runs (c : Config Db Point) : Prop := c.Runs Inv (fun tx p s => p.Knows tx s) Db.Idle

/-- One move extends the log by what it commits. -/
theorem logged_step {c c' : Config Db Point} {m : Move Request World} (hruns : Runs c)
    (hlogged : Logged c.shared l) (hstep : machine.step c m = some c') :
    Logged c'.shared (l ++ committedFinishes c m) := by
  obtain ⟨request, rfl, rfl⟩ | ⟨tx, w, p, s, n, rfl, hp, hnext, rfl⟩ | ⟨tx, p, rfl, -, rfl⟩ :=
    Machine.step_cases hstep
  · simpa [committedFinishes] using hlogged
  · rw [Config.shared_after]
    have hlog := (step_lands hruns.shared (hruns.calls tx p hp) hnext).2 l hlogged
    simpa [committedFinishes, hp] using hlog
  · have hback : Logged (machine.rollback tx c.shared) l := hlogged.rollback tx
    simpa [committedFinishes] using hback

theorem logged_run {c c' : Config Db Point} {moves : List (Move Request World)} (hruns : Runs c)
    (hlogged : Logged c.shared l) (hrun : machine.run c moves = some c') :
    Runs c' ∧ Logged c'.shared (l ++ machine.observe committedFinishes c moves) :=
  Machine.observe_induction
    (J := fun c l => Runs c ∧ Logged c.shared l)
    (fun hc hguard hstep =>
      ⟨transactional.runs_step hc.1 hguard hstep, logged_step hc.1 hc.2 hstep⟩)
    ⟨hruns, hlogged⟩ (Machine.guarded_true _ moves) hrun

end Hezarfen.Pomodoro
