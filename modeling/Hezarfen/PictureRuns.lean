import Hezarfen.Pictures
import Hezarfen.Transactions

/-!
# Where the names of the pictures go

What the rows name and what was handed back adds up to what was ever stored, as long as every
commit hands back the names that it takes out of the rows.  The deletes that return their rows
always do; an upload and the delete of an exam question do if what they read still stands.
-/

namespace Hezarfen.Pictures

open Exams (ExamId ExamQuestionId)
open Interleaving ReadCommitted

variable {tx tx' : ℕ} {s s' : Db} {p : Point} {w : World} {n : Reply}

variable {t : Images} {key : Key} {job : Upload} {left : ℕ} {drop : Drop} {question : Question}
  {q : Point} {was : Option String} {swept : List String}

/-! ## What a transaction holds -/

def naming (name : String) (_ : Key) (image : Image) : ℤ := if image.file = name then 1 else 0

/-- How many rows name the blob. -/
def Db.uses (s : Db) (name : String) : ℤ := Rows.total (naming name) s.image

def HoldsOnly (tx : ℕ) (t : Images) (key : Key) : Prop :=
  ∀ k, k ≠ key → ¬ (Rows.row t k).Held tx

def Sweeps (tx : ℕ) (t : Images) (names : List String) : Prop :=
  ∀ name, Rows.gain (naming name) tx t = -(names.count name : ℤ)

def Point.Knows (tx : ℕ) (p : Point) (s : Db) : Prop :=
  match p with
  | .upsert job _ _ => HoldsOnly tx s.image job.key
  | .commitUpload job _ _ =>
      HoldsOnly tx s.image job.key ∧
        (Rows.row s.image job.key).writer = some (tx, some job.image)
  | .drop _ _ _ _ swept => Sweeps tx s.image swept
  | .deleteRow _ _ _ swept => Sweeps tx s.image swept
  | .commitDelete _ _ _ swept => Sweeps tx s.image swept
  | _ => Rows.Idle tx s.image

theorem HoldsOnly.of_idle (h : Rows.Idle tx t) (key : Key) : HoldsOnly tx t key :=
  fun k _ => h k

theorem HoldsOnly.write (h : HoldsOnly tx t key) (version : Option Image) :
    HoldsOnly tx (Rows.write tx t key version) key := by
  intro k hne
  rw [Rows.row_write, if_neg hne]
  exact h k hne

theorem Sweeps.of_idle (h : Rows.Idle tx t) : Sweeps tx t [] := by
  intro name
  rw [Rows.gain_of_idle _ h]
  rfl

/-- One more row is deleted. -/
theorem Sweeps.delete {t' : Images} {names : List String} (h : Sweeps tx t names) {image : Image}
    (halter : Rows.alter tx t key (fun _ => none) = some (some image, t')) :
    Sweeps tx t' (names ++ [image.file]) := by
  intro name
  rw [Rows.gain_alter halter, h name, List.count_append]
  simp only [Option.bind_some, Row.amount, Option.elim, naming, List.count_singleton, beq_iff_eq]
  split <;> push_cast <;> omega

theorem gain_of_holdsOnly (h : HoldsOnly tx t key) (f : Key → Image → ℤ) :
    Rows.gain f tx t = (Rows.row t key).gain (f key) tx := by
  have hothers : ∀ k r, t.lookup k = some r → k ≠ key → r.gain (f k) tx = 0 := by
    intro k r hr hne
    have hrow := h k hne
    rw [Rows.row_of_lookup hr] at hrow
    exact Row.gain_of_not_held _ hrow
  unfold Rows.gain
  rw [Table.sum_eq_elim key hothers]
  unfold Rows.row
  cases t.lookup key with
  | none => simp [Row.gain, Row.seen, Row.vacant]
  | some => rfl

theorem amount_naming (name : String) (key : Key) (version : Option Image) :
    Row.amount (naming name key) version =
      ((version.map Image.file).toList.count name : ℤ) := by
  cases version with
  | none => rfl
  | some => simp [Row.amount, naming, List.count_singleton, beq_iff_eq]

def Point.drawn : Point → Option String
  | .freezeGate _ (.upload job) _ => some job.image.file
  | .replacedFile job _ => some job.image.file
  | .upsert job _ _ => some job.image.file
  | .commitUpload job _ _ => some job.image.file
  | _ => none

/-- What a step can do. -/
inductive Moved (tx : ℕ) (s : Db) (p : Point) (w : World) : Db → Reply → Prop
  | goes {s' : Db} {q : Point} (hapart : Rows.Apart tx s.image s'.image)
      (huses : ∀ name, s'.uses name = s.uses name) (hdrawn : q.drawn = p.drawn)
      (hknows : q.Knows tx s') : Moved tx s p w s' (.goto q)
  | fails (e : AppError) : Moved tx s p w (s.rollback tx) (.answer (.failed e))
  | stores {job : Upload} {left : ℕ} {was : Option String} (hfault : w.fault = none)
      (hpoint : p = .commitUpload job left was) :
      Moved tx s p w (s.commit tx) (.answer (.stored job.image.file was))
  | retires {names swept : List String} (hfault : w.fault = none)
      (hswept : Sweeps tx s.image swept)
      (hnames : names = swept ∨
        ∃ exam id left, p = .commitDelete (.exam exam id) names left swept) :
      Moved tx s p w (s.commit tx) (.answer (.retired names))

theorem uses_rollback (tx : ℕ) (s : Db) (name : String) :
    (s.rollback tx).uses name = s.uses name :=
  Rows.total_rollback _ tx _

theorem begin_drawn (job : Upload) (left : ℕ) :
    (job.begin left).drawn = some job.image.file := by
  unfold Upload.begin
  split <;> rfl

theorem begin_knows (h : Rows.Idle tx s.image) :
    (job.begin left).Knows tx s := by
  unfold Upload.begin
  split <;> exact h

theorem drop_begin_drawn (drop : Drop) (question : Question) (left : ℕ) :
    (drop.begin question left).drawn = none := by
  unfold Drop.begin
  split
  · rfl
  · split <;> rfl

theorem drop_begin_knows (h : Rows.Idle tx s.image) : (drop.begin question left).Knows tx s := by
  unfold Drop.begin
  split
  · exact h
  · split <;> exact h

theorem again_spec (hagain : p.again = some q) (h : Rows.Idle tx s.image) :
    q.drawn = p.drawn ∧ q.Knows tx s := by
  unfold Point.again at hagain
  split at hagain
  · next exam op left =>
    cases hagain
    cases op with
    | upload | drop => exact ⟨rfl, h⟩
  · cases hagain
    exact ⟨begin_drawn _ _, begin_knows h⟩
  · cases hagain
    exact ⟨begin_drawn _ _, begin_knows h⟩
  · cases hagain
    exact ⟨begin_drawn _ _, begin_knows h⟩
  · cases hagain
    exact ⟨drop_begin_drawn _ _ _, drop_begin_knows h⟩
  · cases hagain
    exact ⟨drop_begin_drawn _ _ _, drop_begin_knows h⟩
  · cases hagain
    exact ⟨drop_begin_drawn _ _ _, drop_begin_knows h⟩
  · cases hagain
    exact ⟨drop_begin_drawn _ _ _, drop_begin_knows h⟩
  · cases hagain

theorem lost_moved (h : lost tx s p = (s', n)) : Moved tx s p w s' n := by
  unfold lost at h
  split at h
  · next q hq =>
    cases h
    obtain ⟨hdrawn, hknows⟩ := again_spec (s := s.rollback tx) hq (Rows.idle_rollback tx s.image)
    exact .goes (.rollback tx s.image) (uses_rollback tx s) hdrawn hknows
  · cases h
    exact .fails .db

/-- A step that leaves the pictures alone. -/
theorem Moved.of_same (himage : s'.image = s.image) (hdrawn : q.drawn = p.drawn)
    (hknows : q.Knows tx s') : Moved tx s p w s' (.goto q) := by
  refine .goes ?_ (fun name => ?_) hdrawn hknows
  · rw [himage]
    exact .refl tx s.image
  · rw [Db.uses, Db.uses, himage]

theorem replacedFile_moved (hpoint : p = .replacedFile job left) (hidle : Rows.Idle tx s.image)
    (h : replacedFile tx s job left = some (s', n)) :
    Moved tx s p w s' n := by
  subst hpoint
  unfold replacedFile at h
  split at h
  · obtain ⟨rows, -, hout⟩ | ⟨image, rows, hlock, hout⟩ := Rows.onRow_cases h
    · cases hout
      exact .of_same rfl rfl (.of_idle hidle _)
    · cases hout
      refine .goes (.alter hlock) (fun name => Rows.total_alter hlock _) rfl ?_
      obtain ⟨-, ⟨hnone, -⟩ | ⟨v, -, -, rfl⟩⟩ := Rows.alter_cases hlock
      · cases hnone
      · exact (HoldsOnly.of_idle hidle _).write _
  · cases h
    exact .of_same rfl rfl (.of_idle hidle _)

/-- The row of the upload is written. -/
theorem written_moved (hpoint : p = .upsert job left was) (honly : HoldsOnly tx s.image job.key)
    (hfree : (Rows.row s.image job.key).free tx = true) :
    Moved tx s p w { s with image := s.image.write tx job.key (some job.image) }
      (.goto (.commitUpload job left was)) := by
  subst hpoint
  refine .goes (.write _ hfree) (fun name => Rows.total_write _ tx _ _ _) rfl
    ⟨honly.write _, ?_⟩
  rw [Rows.row_write, if_pos rfl]

theorem upsert_moved (hpoint : p = .upsert job left was) (honly : HoldsOnly tx s.image job.key)
    (h : upsert tx s job left was = some (s', n)) : Moved tx s p w s' n := by
  unfold upsert at h
  split at h
  · next hfree =>
    split at h
    · cases h
      exact written_moved hpoint honly hfree
    · obtain ⟨parent, -, hout⟩ := Option.map_eq_some_iff.mp h
      split at hout
      · cases hout
        exact written_moved hpoint honly hfree
      · split at hout
        · cases hout
          exact .fails .notFound
        · cases hout
          exact .fails .db
  · cases h

theorem dropRow_moved {keys : List Key} (hpoint : p = .drop question drop left (key :: keys) swept)
    (hswept : Sweeps tx s.image swept)
    (h : dropRow tx s question drop left key keys swept = some (s', n)) :
    Moved tx s p w s' n := by
  subst hpoint
  obtain ⟨rows, -, hout⟩ | ⟨image, rows, halter, hout⟩ := Rows.onRow_cases h
  · cases hout
    exact .of_same rfl rfl hswept
  · cases hout
    exact .goes (.alter halter) (fun name => Rows.total_alter halter _) rfl
      (hswept.delete halter)

theorem dropped_moved (hfault : w.fault = none) (hpoint : p = .drop question drop left [] swept)
    (hswept : Sweeps tx s.image swept) (h : dropped tx s question left swept drop = (s', n)) :
    Moved tx s p w s' n := by
  subst hpoint
  cases drop with
  | slot =>
      simp only [dropped] at h
      split at h
      · cases h
        exact .fails .notFound
      · cases h
        exact .retires hfault hswept (.inl rfl)
  | sweep =>
      cases h
      exact .retires hfault hswept (.inl rfl)
  | question =>
      cases h
      exact .of_same rfl rfl hswept

theorem deleteRow_moved {listed : List String} (hpoint : p = .deleteRow question listed left swept)
    (hswept : Sweeps tx s.image swept)
    (h : deleteRow tx s question listed left swept = some (s', n)) : Moved tx s p w s' n := by
  unfold deleteRow at h
  split at h
  · cases h
  · obtain ⟨rows, -, hout⟩ | ⟨_, rows, -, hout⟩ := Rows.onRow_cases h
    · cases hout
      exact .fails .notFound
    · split at hout
      · split at hout
        · rw [← hpoint] at hout
          exact lost_moved hout.symm
        · cases hout
          exact .fails .db
      · cases hout
        subst hpoint
        exact .of_same rfl rfl hswept

theorem statement_moved (hfault : w.fault = none) (hknows : p.Knows tx s)
    (h : statement tx s w p = some (s', n)) : Moved tx s p w s' n := by
  cases p with
  | freezeGate exam op =>
      obtain ⟨rows, -, hout⟩ | ⟨_, rows, -, hout⟩ := Rows.onRow_cases h
      · cases hout
        exact .fails .notFound
      · split at hout
        · cases hout
          exact .fails frozenError
        · cases hout
          cases op with
          | upload | drop => exact .of_same rfl rfl hknows
  | replacedFile => exact replacedFile_moved rfl hknows h
  | upsert => exact upsert_moved rfl hknows h
  | commitUpload =>
      cases h
      exact .stores hfault rfl
  | readSlot =>
      simp only [statement] at h
      split at h
      · cases h
        exact .of_same rfl (drop_begin_drawn _ _ _) (drop_begin_knows hknows)
      · cases h
        exact .fails .notFound
  | listForQuestion =>
      cases h
      exact .of_same rfl (drop_begin_drawn _ _ _) (drop_begin_knows hknows)
  | find =>
      cases h
      exact .of_same rfl rfl (Sweeps.of_idle hknows)
  | drop question which left keys =>
      cases keys with
      | nil => exact dropped_moved hfault rfl hknows (Option.some.inj h)
      | cons => exact dropRow_moved rfl hknows h
  | deleteRow => exact deleteRow_moved rfl hknows h
  | commitDelete question listed left =>
      cases h
      cases question with
      | bank => exact .retires hfault hknows (.inl rfl)
      | exam exam id => exact .retires hfault hknows (.inr ⟨exam, id, left, rfl⟩)

theorem next_moved (hknows : p.Knows tx s) (h : next tx s p w = some (s', n)) :
    Moved tx s p w s' n := by
  unfold next at h
  split at h
  · exact lost_moved (Option.some.inj h)
  · cases h
    exact .fails .db
  · next hfault => exact statement_moved hfault hknows h

theorem Point.Knows.stable (hne : tx' ≠ tx) (hapart : Rows.Apart tx s.image s'.image)
    (h : q.Knows tx' s) : q.Knows tx' s' := by
  have honly : ∀ key, HoldsOnly tx' s.image key → HoldsOnly tx' s'.image key :=
    fun key h k hk => hapart.unheld tx' hne k (h k hk)
  have hsweeps : ∀ names, Sweeps tx' s.image names → Sweeps tx' s'.image names := by
    intro names h name
    rw [hapart.gain tx' hne]
    exact h name
  cases q with
  | upsert => exact honly _ h
  | commitUpload job =>
      obtain ⟨hheld, hwriter⟩ := h
      have hrow := hapart.held tx' hne job.key ⟨_, hwriter⟩
      exact ⟨honly _ hheld, by rw [hrow, hwriter]⟩
  | drop | deleteRow | commitDelete => exact hsweeps _ h
  | freezeGate | replacedFile | readSlot | listForQuestion | find => exact hapart.idle tx' hne h

theorem entry_knows (request : Request) (h : Rows.Idle tx s.image) :
    (entry request).Knows tx s := by
  cases request with
  | upload => exact begin_knows h
  | deleteSlot | sweep => exact h
  | deleteQuestion question =>
      cases question with
      | bank | exam => exact h

theorem transactional :
    machine.Transactional (fun _ _ => True) (fun _ => True) (fun tx p s => p.Knows tx s)
      (fun tx s => Rows.Idle tx s.image) (fun tx s s' => Rows.Apart tx s.image s'.image) where
  entry request _ hidle := entry_knows request hidle
  own _ _ hnext _ hknows := by
    refine ⟨trivial, ?_⟩
    cases next_moved hknows hnext with
    | goes _ _ _ hthere =>
        refine ⟨fun q hq => ?_, fun a ha => nomatch ha⟩
        cases hq
        exact hthere
    | fails => exact ⟨(fun q hq => nomatch hq), fun a _ => Rows.idle_rollback _ _⟩
    | stores _ _ | retires _ _ _ =>
        exact ⟨(fun q hq => nomatch hq), fun a _ => Rows.idle_commit _ _⟩
  next_apart hnext _ hknows := by
    cases next_moved hknows hnext with
    | goes hapart => exact hapart
    | fails => exact .rollback _ _
    | stores _ _ | retires _ _ _ => exact .commit _ _
  rollback _ := ⟨trivial, Rows.idle_rollback _ _, .rollback _ _⟩
  stable hne hapart _ _ hknows := hknows.stable hne hapart
  idle hne hapart hidle := hapart.idle _ hne hidle

/-! ## The accounts -/

variable {s₀ : Db} {log : List (ℕ × Event)} {c c' : Config Db Point}
  {m : Move Request World} {ms : List (Move Request World)}

def Accounted (s₀ : Db) (log : List (ℕ × Event)) (s : Db) : Prop :=
  ∀ name, s.uses name + ((handedBack log).count name : ℤ) =
    s₀.uses name + ((storedNames log).count name : ℤ)

theorem storedNames_append (log log' : List (ℕ × Event)) :
    storedNames (log ++ log') = storedNames log ++ storedNames log' :=
  List.filterMap_append

theorem handedBack_append (log log' : List (ℕ × Event)) :
    handedBack (log ++ log') = handedBack log ++ handedBack log' :=
  List.filterMap_append

theorem retired_events (tx : ℕ) (files : List String) :
    storedNames (files.map fun file => (tx, Event.retired file)) = [] ∧
      handedBack (files.map fun file => (tx, Event.retired file)) = files := by
  induction files with
  | nil => exact ⟨rfl, rfl⟩
  | cons file files ih =>
      obtain ⟨hstored, hback⟩ := ih
      refine ⟨hstored, ?_⟩
      change file :: handedBack _ = _
      rw [hback]

theorem ledger_goto (hp : c.calls.lookup tx = some p)
    (hnext : next tx c.shared p w = some (s', .goto q)) : ledger c (.advance tx w) = [] := by
  simp only [ledger, hp, Option.bind_some, hnext]

theorem ledger_answer {answer : Answer} (hp : c.calls.lookup tx = some p)
    (hnext : next tx c.shared p w = some (s', .answer answer)) :
    ledger c (.advance tx w) = answer.events.map fun event => (tx, event) := by
  simp only [ledger, hp, Option.bind_some, hnext]

theorem stored_ledger {file : String} (hp : c.calls.lookup tx = some p)
    (hnext : next tx c.shared p w = some (s', .answer (.stored file was))) :
    storedNames (ledger c (.advance tx w)) = [file] ∧
      handedBack (ledger c (.advance tx w)) = was.toList := by
  have hevents := retired_events tx was.toList
  rw [ledger_answer hp hnext]
  simp only [Answer.events, List.map_cons, List.map_map, Function.comp_def]
  exact ⟨congrArg (file :: ·) hevents.1, hevents.2⟩

theorem retired_ledger {files : List String} (hp : c.calls.lookup tx = some p)
    (hnext : next tx c.shared p w = some (s', .answer (.retired files))) :
    storedNames (ledger c (.advance tx w)) = [] ∧
      handedBack (ledger c (.advance tx w)) = files := by
  rw [ledger_answer hp hnext]
  simp only [Answer.events, List.map_map, Function.comp_def]
  exact retired_events tx files

theorem failed_ledger {e : AppError} (hp : c.calls.lookup tx = some p)
    (hnext : next tx c.shared p w = some (s', .answer (.failed e))) :
    ledger c (.advance tx w) = [] := by
  rw [ledger_answer hp hnext]
  rfl

theorem Accounted.silent (h : Accounted s₀ log s) (huses : ∀ name, s'.uses name = s.uses name) :
    Accounted s₀ (log ++ []) s' := by
  intro name
  rw [List.append_nil, huses]
  exact h name

theorem Accounted.commit {new : List (ℕ × Event)} {put back : List String}
    (h : Accounted s₀ log s) (took : List String)
    (hgain : ∀ name, Rows.gain (naming name) tx s.image =
      (put.count name : ℤ) - (took.count name : ℤ))
    (hstored : storedNames new = put) (hback : handedBack new = back)
    (hheeds : back.Perm took) : Accounted s₀ (log ++ new) (s.commit tx) := by
  intro name
  have huses : (s.commit tx).uses name = s.uses name + Rows.gain (naming name) tx s.image :=
    Rows.total_commit _ tx s.image
  have hbefore := h name
  rw [huses, hgain, storedNames_append, handedBack_append, hstored, hback, List.count_append,
    List.count_append, hheeds.count_eq]
  push_cast
  omega

theorem upload_gain (hknows : (Point.commitUpload job left was).Knows tx s) (name : String) :
    Rows.gain (naming name) tx s.image =
      (([job.image.file] : List String).count name : ℤ) -
        ((((s.image.row job.key).committed.map Image.file).toList).count name : ℤ) := by
  obtain ⟨honly, hwriter⟩ := hknows
  have hseen : (s.image.row job.key).seen tx = some job.image := by
    simp [Row.seen, hwriter]
  rw [gain_of_holdsOnly honly, Row.gain, hseen, amount_naming, amount_naming]
  rfl

structure Inv (s₀ : Db) (c : Config Db Point) (log : List (ℕ × Event)) : Prop where
  runs : c.Runs (fun _ => True) (fun tx p s => p.Knows tx s) (fun tx s => Rows.Idle tx s.image)
  accounted : Accounted s₀ log c.shared

theorem Inv.accounted_step (hinv : Inv s₀ c log) (hheeds : Heeds c m)
    (hstep : machine.step c m = some c') : Accounted s₀ (log ++ ledger c m) c'.shared := by
  have h := hinv.accounted
  obtain ⟨request, rfl, rfl⟩ | ⟨tx, w, p, s', n, rfl, hp, hnext, rfl⟩ | ⟨tx, p, rfl, hp, rfl⟩ :=
    Machine.step_cases hstep
  · exact h.silent fun _ => rfl
  · rw [Config.shared_after]
    have hknows := hinv.runs.calls tx p hp
    have hcheck : p.heeds c.shared w = true := by
      have hall : (c.calls.lookup tx).all (fun p => p.heeds c.shared w) = true := hheeds
      simpa [hp] using hall
    cases next_moved hknows hnext with
    | goes _ huses =>
        rw [ledger_goto hp hnext]
        exact h.silent huses
    | fails =>
        rw [failed_ledger hp hnext]
        exact h.silent (uses_rollback tx c.shared)
    | @stores job left was hfault hpoint =>
        subst hpoint
        obtain ⟨hstored, hback⟩ := stored_ledger hp hnext
        refine h.commit _ (upload_gain hknows) hstored hback ?_
        have hwas : (c.shared.image.row job.key).committed.map Image.file = was := by
          simpa [Point.heeds, hfault] using hcheck
        rw [hwas]
    | @retires names swept hfault hswept hnames =>
        obtain ⟨hstored, hback⟩ := retired_ledger hp hnext
        refine h.commit swept (fun name => ?_) hstored hback ?_
        · rw [hswept name]
          simp
        · obtain rfl | ⟨exam, id, left, rfl⟩ := hnames
          · exact .refl _
          · simpa [Point.heeds, hfault, List.isPerm_iff] using hcheck
  · exact h.silent (uses_rollback tx c.shared)

theorem run_accounted (hsettled : Rows.Settled s.image)
    (hheeds : machine.Guarded Heeds (.initial s) ms)
    (hrun : machine.run (.initial s) ms = some c) :
    Accounted s (machine.observe ledger (.initial s) ms) c.shared := by
  have hstart : Inv s (.initial s) [] :=
    ⟨Config.initial_runs trivial hsettled.idle, fun _ => rfl⟩
  have hinv := Machine.observe_induction (f := ledger) (J := Inv s)
    (fun h hheeds hstep =>
      ⟨transactional.runs_step h.runs trivial hstep, h.accounted_step hheeds hstep⟩)
    hstart hheeds hrun
  simpa using hinv.accounted

/-! ## The drawn names -/

def drawing (c : Config Db Point) (name : String) : ℕ :=
  Table.count c.calls fun _ p => decide (p.drawn = some name)

theorem entry_drawn (request : Request) :
    drawn (.start request : Move Request World) = (entry request).drawn := by
  cases request with
  | upload job => exact (begin_drawn job retries).symm
  | deleteSlot | sweep => rfl
  | deleteQuestion question => cases question <;> rfl

theorem count_drawn (pre : List (Move Request World)) (m : Move Request World) (name : String) :
    ((pre ++ [m]).filterMap drawn).count name =
      (pre.filterMap drawn).count name + if drawn m = some name then 1 else 0 := by
  rw [List.filterMap_append, List.count_append]
  cases hdrawn : drawn m with
  | none => simp [hdrawn]
  | some => simp [hdrawn, List.count_singleton, beq_iff_eq]

theorem drawing_goto (hp : c.calls.lookup tx = some p) (hdrawn : q.drawn = p.drawn)
    (name : String) : drawing (c.after tx s' (.goto q : Reply)) name = drawing c name := by
  have hcount := Table.count_insert c.calls tx q fun _ p => decide (p.drawn = some name)
  simp only [hp, Option.any_some, hdrawn] at hcount
  exact Nat.add_right_cancel (hcount.trans (Nat.add_comm _ _))

theorem drawing_erase (hp : c.calls.lookup tx = some p) (name : String) :
    Table.count (c.calls.erase tx) (fun _ p => decide (p.drawn = some name)) +
      (if p.drawn = some name then 1 else 0) = drawing c name := by
  have hcount := Table.count_erase c.calls tx fun _ p => decide (p.drawn = some name)
  simpa [hp, drawing] using hcount

theorem drawing_start (hruns : c.calls.lookup c.started = none) (request : Request)
    (name : String) :
    Table.count (c.calls.insert c.started (entry request))
        (fun _ p => decide (p.drawn = some name)) =
      drawing c name + if drawn (.start request : Move Request World) = some name then 1
        else 0 := by
  have hcount := Table.count_insert c.calls c.started (entry request) fun _ p =>
    decide (p.drawn = some name)
  rw [entry_drawn]
  simp only [hruns, Option.any_none, decide_eq_true_eq, Bool.false_eq_true, if_false,
    Nat.add_zero] at hcount
  rw [hcount, Nat.add_comm]
  rfl

/-- A name is stored at most as often as it was drawn. -/
theorem drawn_step (hruns : c.Runs (fun _ => True) (fun tx p s => p.Knows tx s)
      (fun tx s => Rows.Idle tx s.image)) (hstep : machine.step c m = some c') (name : String) :
    drawing c' name + (storedNames (ledger c m)).count name ≤
      drawing c name + if drawn m = some name then 1 else 0 := by
  obtain ⟨request, rfl, rfl⟩ | ⟨tx, w, p, s', n, rfl, hp, hnext, rfl⟩ | ⟨tx, p, rfl, hp, rfl⟩ :=
    Machine.step_cases hstep
  · have hfresh : c.calls.lookup c.started = none := by
      cases hlookup : c.calls.lookup c.started with
      | none => rfl
      | some p => exact absurd (hruns.numbered _ p hlookup) (Nat.lt_irrefl _)
    have hstart := drawing_start hfresh request name
    change Table.count (c.calls.insert c.started (entry request)) _ + 0 ≤ _
    omega
  · have herase := drawing_erase hp name
    cases next_moved (hruns.calls tx p hp) hnext with
    | goes _ _ hdrawn _ =>
        rw [ledger_goto hp hnext, drawing_goto hp hdrawn]
        exact Nat.le_add_right _ _
    | fails e =>
        rw [failed_ledger hp hnext]
        change Table.count (c.calls.erase tx) _ + 0 ≤ _
        omega
    | @stores job left was hfault hpoint =>
        have hone : [job.image.file].count name = if p.drawn = some name then 1 else 0 := by
          rw [hpoint, List.count_singleton]
          simp [Point.drawn]
        rw [(stored_ledger hp hnext).1, hone]
        change Table.count (c.calls.erase tx) _ + _ ≤ _
        omega
    | retires hfault _ _ =>
        rw [(retired_ledger hp hnext).1]
        change Table.count (c.calls.erase tx) _ + 0 ≤ _
        omega
  · have herase := drawing_erase hp name
    change Table.count (c.calls.erase tx) _ + 0 ≤ _
    omega

theorem drawn_run (hsettled : Rows.Settled s.image)
    (hrun : machine.run (.initial s) ms = some c) (name : String) :
    drawing c name + (storedNames (machine.observe ledger (.initial s) ms)).count name ≤
      (ms.filterMap drawn).count name := by
  have hstart : drawing (.initial s) name = 0 := rfl
  refine Machine.run_history (J := fun pre c => drawing c name +
    (storedNames (machine.observe ledger (.initial s) pre)).count name ≤
      (pre.filterMap drawn).count name) (by rw [hstart]; exact Nat.le_refl 0) ?_ hrun
  intro pre d m d' hpre hbound hstep
  have hruns : d.Runs (fun _ => True) (fun tx p s => p.Knows tx s)
      (fun tx s => Rows.Idle tx s.image) :=
    transactional.runs_run (Config.initial_runs trivial hsettled.idle)
      (Machine.guarded_true _ _) hpre
  have hone := drawn_step hruns hstep name
  rw [Machine.observe_snoc hpre hstep, storedNames_append, List.count_append, count_drawn]
  omega

theorem count_names (s : Db) (name : String) : (s.names.count name : ℤ) = s.uses name := by
  unfold Db.names Db.uses Rows.total Table.sum
  induction s.image.entries with
  | nil => rfl
  | cons e rest ih =>
      have hone := amount_naming name e.1 e.2.committed
      rw [List.filterMap_cons, List.map_cons, List.sum_cons, ← ih]
      simp only [hone]
      cases e.2.committed with
      | none => simp
      | some image =>
          simp only [Option.map_some, Option.toList_some, List.count_cons, List.count_nil]
          push_cast
          omega

/-- The accounts over names that were stored once each. -/
theorem Accounted.kept (h : Accounted s₀ log s) (hfresh : (s₀.names ++ storedNames log).Nodup) :
    Kept s₀ log s where
  once name hname hgone := by
    have hone : (s₀.names ++ storedNames log).count name = 1 :=
        List.count_eq_one_of_mem hfresh hname
    have hnone : s.names.count name = 0 := List.count_eq_zero.mpr hgone
    have haccount := h name
    rw [← count_names, ← count_names] at haccount
    rw [List.count_append] at hone
    omega
  live name hname hback := by
    have hle := List.nodup_iff_count_le_one.mp hfresh name
    have hlive : 0 < s.names.count name := List.count_pos_iff.mpr hname
    have hhanded : 0 < (handedBack log).count name := List.count_pos_iff.mpr hback
    have haccount := h name
    rw [← count_names, ← count_names] at haccount
    rw [List.count_append] at hle
    omega

/-- As long as every commit of an upload and of the delete of an exam question finds what it
read of the old names still standing, every name that was ever stored and is in no row was handed
back to one caller, once, and no name of a row was.  The names drawn for the uploads are fresh. -/
theorem names_kept (hsettled : Rows.Settled s.image)
    (hfresh : (s.names ++ ms.filterMap drawn).Nodup)
    (hheeds : machine.Guarded Heeds (.initial s) ms)
    (hrun : machine.run (.initial s) ms = some c) :
    Kept s (machine.observe ledger (.initial s) ms) c.shared := by
  refine (run_accounted hsettled hheeds hrun).kept ?_
  rw [List.nodup_iff_count_le_one] at hfresh ⊢
  intro name
  have hname := hfresh name
  have hdrawn := drawn_run hsettled hrun name
  rw [List.count_append] at hname ⊢
  omega

namespace Sample

def templateId : Exams.BankQuestionId := ⟨.ending "0a01"⟩

def examId : ExamId := ⟨.ending "0a02"⟩

def questionId : ExamQuestionId := ⟨.ending "0a03"⟩

def template : Question := .bank templateId

def onExam : Question := .exam examId questionId

def png (file : String) : Image := ⟨file, "image/png", 1⟩

def bare : Db where
  exam := (∅ : Rows ExamId Unit).put examId ()
  question := ((∅ : Rows QuestionId (Option ExamId)).put template.id none).put onExam.id
    (some examId)
  image := (∅ : Images).put (onExam.id, none) (png "harita")

def illustrated : Db :=
  { bare with image := Rows.put bare.image (template.id, none) (png "eski") }

def clear : World := ⟨none, false⟩

def uploads : List (Move Request World) :=
  [.start (.upload ⟨template, none, png "a"⟩), .start (.upload ⟨template, none, png "b"⟩)]

def orderly : List (Move Request World) :=
  uploads ++ [.start (.deleteQuestion onExam)] ++
    [0, 0, 0, 1, 1, 1, 2, 2, 2, 2, 2, 2, 2].map fun tx => .advance tx clear

theorem names_kept_orderly :
    ∃ c, machine.run (.initial illustrated) orderly = some c ∧
      handedBack (machine.observe ledger (.initial illustrated) orderly) =
        ["eski", "a", "harita"] ∧
      Kept illustrated (machine.observe ledger (.initial illustrated) orderly) c.shared := by
  have hend : (machine.run (.initial illustrated) orderly).isSome = true := by decide
  obtain ⟨c, hrun⟩ := Option.isSome_iff_exists.mp hend
  exact ⟨c, hrun, by decide,
    names_kept (Rows.settled_of_all (by decide)) (by decide) (by decide) hrun⟩

def firstUploads : List (Move Request World) :=
  uploads ++ [0, 1, 0, 0, 1, 1].map fun tx => .advance tx clear

def replacedAfterListing : List (Move Request World) :=
  [.start (.deleteQuestion onExam), .start (.upload ⟨onExam, none, png "yeni"⟩)] ++
    [0, 1, 1, 1, 1, 0, 0, 0, 0, 0, 0].map fun tx => .advance tx clear

/-- Of two first uploads the earlier one is never handed back, and the old picture of a question
that is deleted while it is replaced is handed back twice. -/
theorem names_not_kept :
    (∃ c, machine.run (.initial bare) firstUploads = some c ∧
      (bare.names ++ firstUploads.filterMap drawn).Nodup ∧
      ¬ Kept bare (machine.observe ledger (.initial bare) firstUploads) c.shared) ∧
    ∃ c, machine.run (.initial bare) replacedAfterListing = some c ∧
      (bare.names ++ replacedAfterListing.filterMap drawn).Nodup ∧
      ¬ Kept bare (machine.observe ledger (.initial bare) replacedAfterListing) c.shared := by
  constructor
  · have hend : (machine.run (.initial bare) firstUploads).any
        (fun c => !c.shared.names.contains "a") = true := by
      decide
    obtain ⟨c, hrun, hgone⟩ := (Option.any_eq_true _ _).mp hend
    refine ⟨c, hrun, by decide, fun hkept => ?_⟩
    have hcount := hkept.once "a" (by decide) (by simpa using hgone)
    exact absurd hcount (by decide)
  · have hend : (machine.run (.initial bare) replacedAfterListing).any
        (fun c => !c.shared.names.contains "harita") = true := by
      decide
    obtain ⟨c, hrun, hgone⟩ := (Option.any_eq_true _ _).mp hend
    refine ⟨c, hrun, by decide, fun hkept => ?_⟩
    have hcount := hkept.once "harita" (by decide) (by simpa using hgone)
    exact absurd hcount (by decide)

end Sample

end Hezarfen.Pictures
