import Mathlib.Data.List.Induction
import Hezarfen.Table

/-!
# Interleaved calls over a shared store

A server answers many calls at once.  Each call is a program point with its own
local values, and one step of it reads or writes the shared store atomically.
A `Machine` gives the first point of a call and its step function; a run is any
sequence of arrivals, steps and abandoned calls.  A call can be abandoned at
every point, which is how a lost connection or a crash of its task appears.

The proof rule is the rely-guarantee one: an invariant of the store together
with an assertion for every program point, the assertion being stable under the
steps of all other calls.  A `guard` restricts the moves of a run and may look at
the whole configuration before the move.
-/

namespace Interleaving

inductive Next (ρ ω : Type*) where
  | goto (point : ρ)
  | answer (value : ω)
  deriving DecidableEq

/-- Calls over the store `σ`: requests `κ`, program points `ρ`, the choices `ε` of the
world at each step (clock readings, fresh identifiers) and answers `ω`. -/
structure Machine (σ ρ κ ε ω : Type*) where
  entry : κ → ρ
  /-- One step of the call with the given number.  `none` means that it must wait. -/
  next : ℕ → σ → ρ → ε → Option (σ × Next ρ ω)
  /-- What the store undoes when the call with the given number is abandoned. -/
  rollback : ℕ → σ → σ

/-- The store and the calls in flight, numbered in the order of their arrival. -/
structure Config (σ ρ : Type*) where
  shared : σ
  calls : Table ℕ ρ
  started : ℕ

inductive Move (κ ε : Type*) where
  | start (request : κ)
  | advance (id : ℕ) (choice : ε)
  | abandon (id : ℕ)

variable {σ ρ κ ε ω : Type*}

def Config.initial (s : σ) : Config σ ρ := ⟨s, ∅, 0⟩

/-- The configuration after the call `id` moved the store to `s`. -/
def Config.after (c : Config σ ρ) (id : ℕ) (s : σ) : Next ρ ω → Config σ ρ
  | .goto q => { c with shared := s, calls := c.calls.insert id q }
  | .answer _ => { c with shared := s, calls := c.calls.erase id }

theorem Config.lookup_after
    {c : Config σ ρ} {id id' : ℕ} {s : σ} {n : Next ρ ω} {q : ρ}
    (hq : (c.after id s n).calls.lookup id' = some q) :
    (id' ≠ id ∧ c.calls.lookup id' = some q) ∨ (id' = id ∧ n = .goto q) := by
  cases n with
  | goto =>
      rw [Config.after, lookup_insert_eq] at hq
      split at hq
      · next hid =>
        cases hq
        exact .inr ⟨hid, rfl⟩
      · next hid => exact .inl ⟨hid, hq⟩
  | answer =>
      rw [Config.after, lookup_erase_eq] at hq
      split at hq
      · cases hq
      · next hid => exact .inl ⟨hid, hq⟩

theorem Config.lookup_after_ne
    {c : Config σ ρ} {id id' : ℕ} (s : σ) (n : Next ρ ω) (hne : id' ≠ id) :
    (c.after id s n).calls.lookup id' = c.calls.lookup id' := by
  cases n with
  | goto => rw [Config.after, lookup_insert_eq, if_neg hne]
  | answer => rw [Config.after, lookup_erase_eq, if_neg hne]

@[simp]
theorem Config.shared_after (c : Config σ ρ) (id : ℕ) (s : σ) (n : Next ρ ω) :
    (c.after id s n).shared = s := by
  cases n <;> rfl

def Config.Admits (check : Config σ ρ → ρ → Bool) (c : Config σ ρ) : Move κ ε → Prop
  | .advance id _ => (c.calls.lookup id).all (check c) = true
  | _ => True

instance (check : Config σ ρ → ρ → Bool) :
    ∀ (c : Config σ ρ) (m : Move κ ε), Decidable (c.Admits check m)
  | c, .advance id _ => inferInstanceAs (Decidable ((c.calls.lookup id).all (check c) = true))
  | _, .start _ => isTrue trivial
  | _, .abandon _ => isTrue trivial

theorem Config.Admits.check
    {check : Config σ ρ → ρ → Bool} {c : Config σ ρ} {id : ℕ} {choice : ε} {p : ρ}
    (h : c.Admits check (.advance id choice : Move κ ε)) (hp : c.calls.lookup id = some p) :
    check c p = true := by
  simpa [Config.Admits, hp] using h

def Config.Allows (check : σ → ρ → ε → Bool) (c : Config σ ρ) : Move κ ε → Prop
  | .advance id choice => (c.calls.lookup id).all (fun p => check c.shared p choice) = true
  | _ => True

instance (check : σ → ρ → ε → Bool) :
    ∀ (c : Config σ ρ) (m : Move κ ε), Decidable (c.Allows check m)
  | c, .advance id choice =>
      inferInstanceAs
        (Decidable ((c.calls.lookup id).all (fun p => check c.shared p choice) = true))
  | _, .start _ => isTrue trivial
  | _, .abandon _ => isTrue trivial

namespace Machine

variable (M : Machine σ ρ κ ε ω)

def step (c : Config σ ρ) : Move κ ε → Option (Config σ ρ)
  | .start request =>
      some
        { c with
          calls := c.calls.insert c.started (M.entry request)
          started := c.started + 1 }
  | .advance id choice =>
      match c.calls.lookup id with
      | none => none
      | some p =>
          match M.next id c.shared p choice with
          | none => none
          | some (s, n) => some (c.after id s n)
  | .abandon id =>
      match c.calls.lookup id with
      | none => none
      | some _ =>
          some
            { c with
              shared := M.rollback id c.shared
              calls := c.calls.erase id }

def run (c : Config σ ρ) : List (Move κ ε) → Option (Config σ ρ)
  | [] => some c
  | m :: ms =>
      match M.step c m with
      | none => none
      | some c' => run c' ms

/-- Every move of the run satisfies `guard` in the configuration it starts from. -/
def Guarded (guard : Config σ ρ → Move κ ε → Prop) (c : Config σ ρ) :
    List (Move κ ε) → Prop
  | [] => True
  | m :: ms =>
      guard c m ∧
        match M.step c m with
        | none => True
        | some c' => Guarded guard c' ms

instance decidableGuarded
    (guard : Config σ ρ → Move κ ε → Prop) [∀ c m, Decidable (guard c m)] :
    ∀ (c : Config σ ρ) (ms : List (Move κ ε)), Decidable (M.Guarded guard c ms)
  | _, [] => isTrue trivial
  | c, m :: ms =>
      have : Decidable
          (match M.step c m with
          | none => True
          | some c' => M.Guarded guard c' ms) := by
        exact
          match M.step c m with
          | none => isTrue trivial
          | some c' => decidableGuarded guard c' ms
      inferInstanceAs (Decidable (_ ∧ _))

def collect {α : Type*} (f : σ → σ → List α) (c : Config σ ρ) : List (Move κ ε) → List α
  | [] => []
  | m :: ms =>
      match M.step c m with
      | none => []
      | some c' => f c.shared c'.shared ++ collect f c' ms

def observe {α : Type*} (f : Config σ ρ → Move κ ε → List α) (c : Config σ ρ) :
    List (Move κ ε) → List α
  | [] => []
  | m :: ms =>
      match M.step c m with
      | none => []
      | some c' => f c m ++ observe f c' ms

variable {M}

variable {c c' : Config σ ρ} {m : Move κ ε}

/-- Everything a move can do. -/
theorem step_cases
    (hstep : M.step c m = some c') :
    (∃ request, m = .start request ∧
      c' = { c with
        calls := c.calls.insert c.started (M.entry request)
        started := c.started + 1 }) ∨
    (∃ id choice p s n, m = .advance id choice ∧ c.calls.lookup id = some p ∧
      M.next id c.shared p choice = some (s, n) ∧ c' = c.after id s n) ∨
    (∃ id p, m = .abandon id ∧ c.calls.lookup id = some p ∧
      c' = { c with
        shared := M.rollback id c.shared
        calls := c.calls.erase id }) := by
  cases m with
  | start request =>
      simp only [step, Option.some.injEq] at hstep
      exact .inl ⟨request, rfl, hstep.symm⟩
  | advance id choice =>
      simp only [step] at hstep
      split at hstep
      · cases hstep
      · next p hp =>
        split at hstep
        · cases hstep
        · next s n hnext =>
          simp only [Option.some.injEq] at hstep
          exact .inr (.inl ⟨id, choice, p, s, n, rfl, hp, hnext, hstep.symm⟩)
  | abandon id =>
      simp only [step] at hstep
      split at hstep
      · cases hstep
      · next p hp =>
        simp only [Option.some.injEq] at hstep
        exact .inr (.inr ⟨id, p, rfl, hp, hstep.symm⟩)

/-- Where a call in flight after a move was before it. -/
theorem step_calls
    (hstep : M.step c m = some c') {id : ℕ} {q : ρ}
    (hq : c'.calls.lookup id = some q) :
    c.calls.lookup id = some q ∨ (∃ request, q = M.entry request) ∨
      ∃ choice p, m = .advance id choice ∧ c.calls.lookup id = some p ∧
        M.next id c.shared p choice = some (c'.shared, .goto q) := by
  obtain ⟨request, rfl, rfl⟩ | ⟨id', choice, p, s, n, rfl, hp, hnext, rfl⟩
    | ⟨id', p, rfl, hp, rfl⟩ :=
    step_cases hstep
  · obtain ⟨-, rfl⟩ | ⟨-, hq⟩ := insert_cases hq
    · exact .inr (.inl ⟨request, rfl⟩)
    · exact .inl hq
  · rcases Config.lookup_after hq with ⟨-, hold⟩ | ⟨rfl, rfl⟩
    · exact .inl hold
    · exact .inr (.inr ⟨choice, p, rfl, hp, hnext⟩)
  · obtain ⟨-, hq⟩ := erase_cases hq
    exact .inl hq

variable {ms : List (Move κ ε)}

theorem run_cons
    (hrun : M.run c (m :: ms) = some c') :
    ∃ d, M.step c m = some d ∧ M.run d ms = some c' := by
  simp only [run] at hrun
  split at hrun
  · cases hrun
  · next d hd => exact ⟨d, hd, hrun⟩

variable {d : Config σ ρ}

variable {guard : Config σ ρ → Move κ ε → Prop}

theorem Guarded.tail
    (hguard : M.Guarded guard c (m :: ms)) (hstep : M.step c m = some d) :
    M.Guarded guard d ms := by
  have htail := hguard.2
  rwa [hstep] at htail

theorem Guarded.and
    {guard' : Config σ ρ → Move κ ε → Prop}
    (h : M.Guarded guard c ms) (h' : M.Guarded guard' c ms) :
    M.Guarded (fun c m => guard c m ∧ guard' c m) c ms := by
  induction ms generalizing c with
  | nil => trivial
  | cons m ms ih =>
      refine ⟨⟨h.1, h'.1⟩, ?_⟩
      split
      · trivial
      · next d hd => exact ih (h.tail hd) (h'.tail hd)

theorem Guarded.mono
    {guard' : Config σ ρ → Move κ ε → Prop}
    (hle : ∀ c, ∀ m ∈ ms, guard c m → guard' c m) (h : M.Guarded guard c ms) :
    M.Guarded guard' c ms := by
  induction ms generalizing c with
  | nil => trivial
  | cons m ms ih =>
      refine ⟨hle c m List.mem_cons_self h.1, ?_⟩
      split
      · trivial
      · next d hd =>
        exact ih (fun c m hm => hle c m (List.mem_cons_of_mem _ hm)) (h.tail hd)

theorem guarded_true (c : Config σ ρ) (ms : List (Move κ ε)) :
    M.Guarded (fun _ _ => True) c ms := by
  induction ms generalizing c with
  | nil => trivial
  | cons m ms ih =>
      refine ⟨trivial, ?_⟩
      split
      · trivial
      · exact ih _

variable {J : Config σ ρ → Prop}

/-- A property of configurations that every guarded move keeps holds at the end of every
guarded run. -/
theorem run_induction
    (hmove : ∀ {c c' m}, J c → guard c m → M.step c m = some c' → J c')
    (hc : J c) (hguard : M.Guarded guard c ms) (hrun : M.run c ms = some c') :
    J c' := by
  induction ms generalizing c with
  | nil =>
      simp only [run, Option.some.injEq] at hrun
      exact hrun ▸ hc
  | cons m ms ih =>
      obtain ⟨d, hd, hrest⟩ := run_cons hrun
      exact ih (hmove hc hguard.1 hd) (hguard.tail hd) hrest

variable {α : Type*} {l : List α}

theorem collect_induction
    {f : σ → σ → List α} {J : Config σ ρ → List α → Prop}
    (hmove : ∀ {c c' m l}, J c l → M.step c m = some c' → J c' (l ++ f c.shared c'.shared))
    (hc : J c l) (hrun : M.run c ms = some c') :
    J c' (l ++ M.collect f c ms) := by
  induction ms generalizing c l with
  | nil =>
      simp only [run, Option.some.injEq] at hrun
      subst hrun
      simpa [collect] using hc
  | cons m ms ih =>
      obtain ⟨d, hd, hrest⟩ := run_cons hrun
      have hstep := ih (hmove hc hd) hrest
      simpa [collect, hd, List.append_assoc] using hstep

variable {f : Config σ ρ → Move κ ε → List α}

theorem observe_induction
    {J : Config σ ρ → List α → Prop}
    (hmove : ∀ {c c' m l}, J c l → guard c m → M.step c m = some c' → J c' (l ++ f c m))
    (hc : J c l) (hguard : M.Guarded guard c ms) (hrun : M.run c ms = some c') :
    J c' (l ++ M.observe f c ms) := by
  induction ms generalizing c l with
  | nil =>
      simp only [run, Option.some.injEq] at hrun
      subst hrun
      simpa [observe] using hc
  | cons m ms ih =>
      obtain ⟨d, hd, hrest⟩ := run_cons hrun
      have hstep := ih (hmove hc hguard.1 hd) (hguard.tail hd) hrest
      simpa [observe, hd, List.append_assoc] using hstep

theorem run_append (c : Config σ ρ) (ms ms' : List (Move κ ε)) :
    M.run c (ms ++ ms') = (M.run c ms).bind fun d => M.run d ms' := by
  induction ms generalizing c with
  | nil => rfl
  | cons m ms ih =>
      simp only [List.cons_append, run]
      cases M.step c m with
      | none => rfl
      | some d => exact ih d

theorem observe_append
    (hrun : M.run c ms = some d) (ms' : List (Move κ ε)) :
    M.observe f c (ms ++ ms') = M.observe f c ms ++ M.observe f d ms' := by
  induction ms generalizing c with
  | nil =>
      cases hrun
      rfl
  | cons m ms ih =>
      obtain ⟨e, he, hrest⟩ := run_cons hrun
      simp only [List.cons_append, observe, he, List.append_assoc]
      rw [ih hrest]

theorem observe_snoc
    {d' : Config σ ρ}
    (hrun : M.run c ms = some d)
    (hstep : M.step d m = some d') : M.observe f c (ms ++ [m]) = M.observe f c ms ++ f d m := by
  rw [observe_append hrun]
  simp only [observe, hstep, List.append_nil]

variable {ms' : List (Move κ ε)}

theorem run_split
    (hrun : M.run c (ms ++ ms') = some c') :
    ∃ d, M.run c ms = some d ∧ M.run d ms' = some c' := by
  rwa [run_append, Option.bind_eq_some_iff] at hrun

theorem Guarded.of_append
    (hguard : M.Guarded guard c (ms ++ ms')) : M.Guarded guard c ms := by
  induction ms generalizing c with
  | nil => trivial
  | cons m ms ih =>
      refine ⟨hguard.1, ?_⟩
      split
      · trivial
      · next d hd => exact ih (hguard.tail hd)

theorem Guarded.drop
    (hguard : M.Guarded guard c (ms ++ ms')) (hd : M.run c ms = some d) :
    M.Guarded guard d ms' := by
  induction ms generalizing c with
  | nil =>
      cases hd
      exact hguard
  | cons m ms ih =>
      obtain ⟨e, he, hrest⟩ := run_cons hd
      exact ih (Guarded.tail hguard he) hrest

theorem run_history
    {J : List (Move κ ε) → Config σ ρ → Prop}
    (hstart : J [] c)
    (hmove : ∀ {pre d m d'}, M.run c pre = some d → J pre d → M.step d m = some d' →
      J (pre ++ [m]) d')
    (hrun : M.run c ms = some c') :
    J ms c' := by
  induction ms using List.reverseRecOn generalizing c' with
  | nil =>
      cases hrun
      exact hstart
  | append_singleton pre m ih =>
      rw [run_append, Option.bind_eq_some_iff] at hrun
      obtain ⟨d, hd, hlast⟩ := hrun
      obtain ⟨d', hstep, hend⟩ := run_cons hlast
      cases hend
      exact hmove hd (ih hd) hstep

/-- Where the guard says exactly which moves keep a property of the configuration and of what
was observed so far, the guarded runs are those that have it after every move. -/
theorem guarded_iff_observed
    {Q : Config σ ρ → List α → Prop}
    (hkeep : ∀ {c m d}, J c → M.step c m = some d → J d)
    (hguard : ∀ {c m d l}, J c → Q c l → M.step c m = some d → (guard c m ↔ Q d (l ++ f c m)))
    (hJ : J c) (hQ : Q c l)
    (hrun : M.run c ms = some c') :
    M.Guarded guard c ms ↔
      ∀ pre d, pre <+: ms → M.run c pre = some d → Q d (l ++ M.observe f c pre) := by
  induction ms generalizing c l with
  | nil =>
      refine ⟨fun _ pre d hpre hd => ?_, fun _ => trivial⟩
      rw [List.prefix_nil] at hpre
      subst hpre
      cases hd
      simpa [observe] using hQ
  | cons m ms ih =>
      obtain ⟨e, he, hrest⟩ := run_cons hrun
      constructor
      · intro hguarded pre d hpre hd
        have hQe := (hguard hJ hQ he).mp hguarded.1
        cases pre with
        | nil =>
            cases hd
            simpa [observe] using hQ
        | cons m' pre =>
            obtain ⟨rfl, htail⟩ := List.cons_prefix_cons.mp hpre
            simp only [run, he] at hd
            have hend := (ih (hkeep hJ he) hQe hrest).mp (hguarded.tail he) pre d htail hd
            simpa [observe, he, List.append_assoc] using hend
      · intro halways
        have hQe : Q e (l ++ f c m) := by
          have hone := halways [m] e (List.prefix_append [m] ms) (by simp [run, he])
          simpa [observe, he] using hone
        refine ⟨(hguard hJ hQ he).mpr hQe, ?_⟩
        rw [he]
        refine (ih (hkeep hJ he) hQe hrest).mpr ?_
        intro pre d hpre hd
        have hend := halways (m :: pre) d (List.cons_prefix_cons.mpr ⟨rfl, hpre⟩)
          (by simpa [run, he] using hd)
        simpa [observe, he, List.append_assoc] using hend

/-- Where the guard says exactly which moves keep a property, the guarded runs are those in
which every configuration has it. -/
theorem guarded_iff_always
    {Q : Config σ ρ → Prop}
    (hkeep : ∀ {c m d}, J c → M.step c m = some d → J d)
    (hguard : ∀ {c m d}, J c → Q c → M.step c m = some d → (guard c m ↔ Q d))
    (hJ : J c) (hQ : Q c)
    (hrun : M.run c ms = some c') :
    M.Guarded guard c ms ↔ ∀ pre d, pre <+: ms → M.run c pre = some d → Q d :=
  guarded_iff_observed (f := fun _ _ => ([] : List Unit)) (Q := fun c _ => Q c) (l := []) hkeep
    hguard hJ hQ hrun

/-- Where the guard says exactly which moves are observed to be lawful, the guarded runs are
those in which everything observed is. -/
theorem guarded_iff_forall_observed
    {lawful : α → Prop}
    (hkeep : ∀ {c m d}, J c → M.step c m = some d → J d)
    (hguard : ∀ {c m d}, J c → M.step c m = some d → (guard c m ↔ ∀ a ∈ f c m, lawful a))
    (hJ : J c) (hrun : M.run c ms = some c') :
    M.Guarded guard c ms ↔ ∀ a ∈ M.observe f c ms, lawful a := by
  induction ms generalizing c with
  | nil => simp [Guarded, observe]
  | cons m ms ih =>
      obtain ⟨e, he, hrest⟩ := run_cons hrun
      simp only [Guarded, observe, he, List.forall_mem_append]
      rw [hguard hJ he, ih (hkeep hJ he) hrest]

theorem Guarded.invariant
    (hmove : ∀ {c c' m}, J c → guard c m → M.step c m = some c' → J c')
    (hc : J c) (hguard : M.Guarded guard c ms) :
    M.Guarded (fun c _ => J c) c ms := by
  induction ms generalizing c with
  | nil => trivial
  | cons m ms ih =>
      refine ⟨hc, ?_⟩
      split
      · trivial
      · next d hd => exact ih (hmove hc hguard.1 hd) (hguard.tail hd)

end Machine

/-- The store satisfies `I`, and every call in flight satisfies the assertion of its
program point. -/
structure Config.Holds
    (I : σ → Prop) (P : ℕ → ρ → σ → Prop) (c : Config σ ρ) : Prop where
  shared : I c.shared
  numbered : ∀ id p, c.calls.lookup id = some p → id < c.started
  calls : ∀ id p, c.calls.lookup id = some p → P id p c.shared

theorem Config.initial_holds
    {I : σ → Prop} (P : ℕ → ρ → σ → Prop) {s : σ} (hs : I s) :
    (Config.initial s).Holds I P := by
  constructor
  · exact hs
  · intro id p hp
    simp [Config.initial] at hp
  · intro id p hp
    simp [Config.initial] at hp

/-- The obligations of the rely-guarantee rule. -/
structure Machine.RelyGuarantee
    (M : Machine σ ρ κ ε ω) (guard : Config σ ρ → Move κ ε → Prop)
    (I : σ → Prop) (P : ℕ → ρ → σ → Prop) : Prop where
  entry : ∀ id request s, I s → P id (M.entry request) s
  own : ∀ {c : Config σ ρ} {id choice p s n}, c.Holds I P →
    guard c (.advance id choice) → c.calls.lookup id = some p →
    M.next id c.shared p choice = some (s, n) →
    I s ∧ ∀ q, n = .goto q → P id q s
  others : ∀ {c : Config σ ρ} {id choice p s n}, c.Holds I P →
    guard c (.advance id choice) → c.calls.lookup id = some p →
    M.next id c.shared p choice = some (s, n) →
    ∀ id' q, id' ≠ id → c.calls.lookup id' = some q → P id' q s
  rollback : ∀ {c : Config σ ρ} {id p}, c.Holds I P →
    c.calls.lookup id = some p →
    I (M.rollback id c.shared) ∧
      ∀ id' q, id' ≠ id → c.calls.lookup id' = some q →
        P id' q (M.rollback id c.shared)

namespace Machine.RelyGuarantee

variable {M : Machine σ ρ κ ε ω} {guard : Config σ ρ → Move κ ε → Prop}
  {I : σ → Prop} {P : ℕ → ρ → σ → Prop}

theorem holds_start
    (h : M.RelyGuarantee guard I P) {c : Config σ ρ} (hc : c.Holds I P)
    (request : κ) :
    ({ c with
        calls := c.calls.insert c.started (M.entry request)
        started := c.started + 1 } : Config σ ρ).Holds I P := by
  constructor
  · exact hc.shared
  · intro id p hp
    rw [lookup_insert_eq] at hp
    split at hp
    · next hid => exact hid ▸ Nat.lt_succ_self _
    · exact Nat.lt_succ_of_lt (hc.numbered id p hp)
  · intro id p hp
    obtain ⟨-, rfl⟩ | ⟨-, hp⟩ := insert_cases hp
    · exact h.entry id request c.shared hc.shared
    · exact hc.calls id p hp

theorem holds_advance
    (h : M.RelyGuarantee guard I P) {c : Config σ ρ} (hc : c.Holds I P)
    {id : ℕ} {choice : ε} {p : ρ} {s : σ} {n : Next ρ ω}
    (hguard : guard c (.advance id choice)) (hp : c.calls.lookup id = some p)
    (hnext : M.next id c.shared p choice = some (s, n)) :
    (c.after id s n).Holds I P := by
  have hown := h.own hc hguard hp hnext
  have hothers := h.others hc hguard hp hnext
  have hshared : (c.after id s n).shared = s := by cases n <;> rfl
  have hstarted : (c.after id s n).started = c.started := by cases n <;> rfl
  constructor
  · rw [hshared]
    exact hown.1
  · intro id' q hq
    rw [hstarted]
    rcases Config.lookup_after hq with ⟨-, hold⟩ | ⟨rfl, -⟩
    · exact hc.numbered id' q hold
    · exact hc.numbered id' p hp
  · intro id' q hq
    rw [hshared]
    rcases Config.lookup_after hq with ⟨hne, hold⟩ | ⟨rfl, rfl⟩
    · exact hothers id' q hne hold
    · exact hown.2 q rfl

theorem holds_abandon
    (h : M.RelyGuarantee guard I P) {c : Config σ ρ} (hc : c.Holds I P)
    {id : ℕ} {p : ρ} (hp : c.calls.lookup id = some p) :
    ({ c with
        shared := M.rollback id c.shared
        calls := c.calls.erase id } : Config σ ρ).Holds I P := by
  have hrollback := h.rollback hc hp
  constructor
  · exact hrollback.1
  · intro id' q hq
    obtain ⟨-, hq⟩ := erase_cases hq
    exact hc.numbered id' q hq
  · intro id' q hq
    obtain ⟨hid, hq⟩ := erase_cases hq
    exact hrollback.2 id' q hid hq

theorem holds_step
    (h : M.RelyGuarantee guard I P) {c c' : Config σ ρ} {m : Move κ ε}
    (hc : c.Holds I P) (hguard : guard c m) (hstep : M.step c m = some c') :
    c'.Holds I P := by
  obtain ⟨request, rfl, rfl⟩ | ⟨id, choice, p, s, n, rfl, hp, hnext, rfl⟩ |
    ⟨id, p, rfl, hp, rfl⟩ := step_cases hstep
  · exact h.holds_start hc request
  · exact h.holds_advance hc hguard hp hnext
  · exact h.holds_abandon hc hp

theorem of_points
    {P : ρ → Prop} (hentry : ∀ request, P (M.entry request))
    (hown : ∀ {c : Config σ ρ} {id choice p s q}, guard c (.advance id choice) →
      M.next id c.shared p choice = some (s, .goto q) → P p → P q) :
    M.RelyGuarantee guard (fun _ => True) (fun _ p _ => P p) where
  entry := fun _ request _ _ => hentry request
  own := by
    intro c id choice p s n hc hguard hp hnext
    refine ⟨trivial, ?_⟩
    rintro q rfl
    exact hown hguard hnext (hc.calls id p hp)
  others := fun hc _ _ _ id' q _ hq => hc.calls id' q hq
  rollback := fun hc _ => ⟨trivial, fun id' q _ hq => hc.calls id' q hq⟩

/-- The rely-guarantee rule: the obligations give the invariant after every guarded
run. -/
theorem holds_run
    (h : M.RelyGuarantee guard I P) {c c' : Config σ ρ} {ms : List (Move κ ε)}
    (hc : c.Holds I P) (hguard : M.Guarded guard c ms)
    (hrun : M.run c ms = some c') :
    c'.Holds I P :=
  run_induction (J := Config.Holds I P) (fun hc hg hs => h.holds_step hc hg hs)
    hc hguard hrun

end Machine.RelyGuarantee

/-- What the recorded calls on `key` make of its value, one after the other. -/
def replay {K α τ : Type*} [DecidableEq K] (apply : α → τ → τ) (key : K) (calls : List (K × α))
    (value : τ) : τ :=
  calls.foldl (fun value call => if call.1 = key then apply call.2 value else value) value

theorem replay_snoc {K α τ : Type*} [DecidableEq K] (apply : α → τ → τ) (key : K)
    (calls : List (K × α)) (call : K × α) (value : τ) :
    replay apply key (calls ++ [call]) value =
      if call.1 = key then apply call.2 (replay apply key calls value)
      else replay apply key calls value := by
  simp [replay, List.foldl_append]

/-- The requests of a run; the call with number `n` serves the one at position `n`. -/
def requests : List (Move κ ε) → List κ
  | [] => []
  | .start request :: ms => request :: requests ms
  | .advance _ _ :: ms => requests ms
  | .abandon _ :: ms => requests ms

/-- Every call in flight is related by `P` to the request it serves. -/
structure Config.Serves (P : κ → ρ → Prop) (c : Config σ ρ) (served : List κ) : Prop where
  started : served.length = c.started
  calls : ∀ id p, c.calls.lookup id = some p → ∃ request, served[id]? = some request ∧ P request p

theorem Machine.serves_step
    {M : Machine σ ρ κ ε ω} {P : κ → ρ → Prop} {c c' : Config σ ρ}
    (hentry : ∀ request, P request (M.entry request))
    (hown : ∀ {request id s choice p q}, c.calls.lookup id = some p → P request p →
      M.next id c.shared p choice = some (s, .goto q) → P request q)
    {m : Move κ ε} {served : List κ} (hc : c.Serves P served) (hstep : M.step c m = some c') :
    c'.Serves P (served ++ requests [m]) := by
  obtain ⟨request, rfl, rfl⟩ | ⟨id, choice, p, s, n, rfl, hp, hnext, rfl⟩ |
    ⟨id, p, rfl, hp, rfl⟩ := Machine.step_cases hstep
  · constructor
    · simp [requests, hc.started]
    · intro id p hp
      obtain ⟨hid, rfl⟩ | ⟨-, hp⟩ := insert_cases hp
      · refine ⟨request, ?_, hentry request⟩
        rw [hid, ← hc.started]
        simp [requests]
      · obtain ⟨old, hold, hP⟩ := hc.calls id p hp
        have hbound := (List.getElem?_eq_some_iff.mp hold).1
        exact ⟨old, by rw [List.getElem?_append_left hbound, hold], hP⟩
  · simp only [requests, List.append_nil]
    constructor
    · rw [hc.started]
      cases n <;> rfl
    · intro id' q hq
      rcases Config.lookup_after hq with ⟨-, hold⟩ | ⟨rfl, rfl⟩
      · exact hc.calls id' q hold
      · obtain ⟨request, hrequest, hP⟩ := hc.calls id' p hp
        exact ⟨request, hrequest, hown hp hP hnext⟩
  · simp only [requests, List.append_nil]
    constructor
    · exact hc.started
    · intro id' q hq
      obtain ⟨-, hq⟩ := erase_cases hq
      exact hc.calls id' q hq

theorem requests_cons (m : Move κ ε) (ms : List (Move κ ε)) :
    requests (m :: ms) = requests [m] ++ requests ms := by
  cases m <;> rfl

/-- What relates a request to the point its call enters at, and is kept by the steps of that
call while `J` holds, relates every call in flight to its request. -/
theorem Machine.serves_run_under
    {M : Machine σ ρ κ ε ω} {P : κ → ρ → Prop} {J : Config σ ρ → Prop}
    (hentry : ∀ request, P request (M.entry request))
    (hkeep : ∀ {c c' m}, J c → M.step c m = some c' → J c')
    (hown : ∀ {c request id s choice p q}, J c → c.calls.lookup id = some p → P request p →
      M.next id c.shared p choice = some (s, .goto q) → P request q)
    {c c' : Config σ ρ} {ms : List (Move κ ε)} {served : List κ} (hJ : J c)
    (hc : c.Serves P served) (hrun : M.run c ms = some c') :
    c'.Serves P (served ++ requests ms) := by
  induction ms generalizing c served with
  | nil =>
      simp only [Machine.run, Option.some.injEq] at hrun
      subst hrun
      simpa [requests] using hc
  | cons m ms ih =>
      obtain ⟨d, hd, hrest⟩ := Machine.run_cons hrun
      have htail := ih (hkeep hJ hd) (Machine.serves_step hentry (hown hJ) hc hd) hrest
      rwa [List.append_assoc, ← requests_cons] at htail

theorem Machine.serves_run
    {M : Machine σ ρ κ ε ω} {P : κ → ρ → Prop}
    (hentry : ∀ request, P request (M.entry request))
    (hown : ∀ {request id s s' choice p q}, P request p →
      M.next id s p choice = some (s', .goto q) → P request q)
    {c c' : Config σ ρ} {ms : List (Move κ ε)} {served : List κ} (hc : c.Serves P served)
    (hrun : M.run c ms = some c') :
    c'.Serves P (served ++ requests ms) :=
  Machine.serves_run_under (J := fun _ => True) hentry (fun _ _ => trivial) (fun _ _ => hown)
    trivial hc hrun

theorem Config.initial_serves (P : κ → ρ → Prop) (s : σ) :
    (Config.initial s).Serves P [] := by
  constructor
  · rfl
  · intro id p hp
    simp [Config.initial] at hp

end Interleaving
