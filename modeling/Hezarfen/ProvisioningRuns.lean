import Hezarfen.Provisioning

/-!
# Active schools have a database

Where builders leave the status of a school alone while it is being brought up, an active
school has the whole school schema, unless its database was removed on purpose, and a
suspension stands until a PATCH lifts it.
-/

namespace Hezarfen.Provisioning

open Interleaving

variable {s s' : Db} {id : SchoolId} {p : Point} {w : World} {name : Option String}
  {status : Option SchoolStatus} {call : ℕ} {n : Reply} {origin : Origin} {log : List Event}
  {c c' : Config Db Point}

theorem status_insert (s : Db) (id id' : SchoolId) (row : School) :
    Db.status { s with school := s.school.insert id row } id' =
      if id' = id then some row.status else s.status id' := by
  unfold Db.status
  rw [lookup_insert_eq]
  split
  · rfl
  · rfl

theorem status_erase (s : Db) (id id' : SchoolId) :
    Db.status { s with school := s.school.erase id } id' =
      if id' = id then none else s.status id' := by
  unfold Db.status
  rw [lookup_erase_eq]
  split
  · rfl
  · rfl

theorem status_setStatus (s : Db) (id id' : SchoolId) (status : SchoolStatus) :
    (s.setStatus id status).status id' =
      if id' = id then (s.status id').map fun _ => status else s.status id' := by
  unfold Db.status Db.setStatus
  rw [lookup_update, Option.map_map, Option.map_map]
  split <;> rfl

theorem status_clearModules (s : Db) (id id' : SchoolId) :
    (s.clearModules id).status id' = s.status id' := by
  unfold Db.status Db.clearModules
  rw [lookup_update, Option.map_map]
  congr 1
  funext row
  simp only [Function.comp]
  split <;> rfl

/-- What becomes of the status of a school in a step that records `ev`. -/
inductive Turn (s s' : Db) (p : Point) (ev : List Event) (id : SchoolId) : Prop
  | same (h : s'.status id = s.status id)
  | gone (h : s'.status id = none)
  | created (hfresh : id ∉ s.minted) (h : s'.status id = some .provisioning)
      (hminted : id ∈ s'.minted)
  | activated (origin : Origin) (hp : p = .activate origin id) (hold : s.status id ≠ none)
      (h : s'.status id = some .active)
  | patched (name : Option String) (status : SchoolStatus)
      (hp : p = .update id name (some status)) (hold : s.status id ≠ none)
      (h : s'.status id = some status) (hev : ev = [.patched id status])

/-- What a step of `p` does, with what it records. -/
structure Did (s s' : Db) (p : Point) (ev : List Event) : Prop where
  turn : ∀ id, Turn s s' p ev id
  minted : ∀ id, id ∈ s.minted → id ∈ s'.minted
  migrated : ∀ id, s.migrated id = true → s'.migrated id = true ∨ .dropped id ∈ ev
  recorded : ∀ id status, .patched id status ∈ ev →
    ∃ name, p = .update id name (some status) ∧ s.status id ≠ none ∧ s'.status id = some status

theorem Did.nothing (s : Db) (p : Point) : Did s s p [] where
  turn _ := .same rfl
  minted _ h := h
  migrated _ h := .inl h
  recorded _ _ h := by cases h

theorem migrated_insert {applied : ℕ}
    (h : ∀ before, s.database.lookup id = some before → before ≤ applied) (id' : SchoolId)
    (hmigrated : s.migrated id' = true) :
    Db.migrated { s with database := s.database.insert id applied } id' = true := by
  unfold Db.migrated at hmigrated ⊢
  rw [lookup_insert_eq]
  split
  · next heq =>
    subst heq
    obtain ⟨before, hbefore, hle⟩ := (Option.any_eq_true _ _).mp hmigrated
    simpa using (of_decide_eq_true hle).trans (h before hbefore)
  · exact hmigrated

theorem did_erase_database :
    Did s { s with database := s.database.erase id } p [.dropped id] where
  turn _ := .same rfl
  minted _ h := h
  migrated id' h := by
    unfold Db.migrated at h ⊢
    rw [lookup_erase_eq]
    split
    · next heq => exact .inr (by simp [heq])
    · exact .inl h
  recorded _ _ h := by simp at h

theorem did_erase_school :
    Did s { s with school := s.school.erase id } p [] where
  turn id' := by
    by_cases heq : id' = id
    · exact .gone (by rw [status_erase, if_pos heq])
    · exact .same (by rw [status_erase, if_neg heq])
  minted _ h := h
  migrated _ h := .inl h
  recorded _ _ h := by cases h

theorem did_update {row : School} (hrow : s.school.lookup id = some row)
    (hworks : w.fails = false) :
    Did s { s with school := s.school.insert id (row.patch name status) }
      (.update id name status) (Point.events s w (.update id name status)) := by
  have hstatus : ∀ id', id' ≠ id →
      Db.status { s with school := s.school.insert id (row.patch name status) } id' =
        s.status id' := by
    intro id' hne
    rw [status_insert, if_neg hne]
  have hold : s.status id = some row.status := by rw [Db.status, hrow]; rfl
  cases status with
  | none =>
      refine ⟨fun id' => .same ?_, fun _ hm => hm, fun _ hm => .inl hm, fun _ _ he => by cases he⟩
      by_cases heq : id' = id
      · rw [heq, hold, status_insert, if_pos rfl]
        rfl
      · exact hstatus id' heq
  | some status =>
      have hevents : Point.events s w (.update id name (some status)) = [.patched id status] := by
        simp [Point.events, hworks, hrow]
      have hnew : Db.status { s with
          school := s.school.insert id (row.patch name (some status)) } id = some status := by
        rw [status_insert, if_pos rfl]
        rfl
      have hthere : s.status id ≠ none := by simp [hold]
      rw [hevents]
      refine ⟨fun id' => ?_, fun _ hm => hm, fun _ hm => .inl hm, fun id' status' he => ?_⟩
      · by_cases heq : id' = id
        · subst heq
          exact .patched name status rfl hthere hnew rfl
        · exact .same (hstatus id' heq)
      · cases List.mem_singleton.mp he
        exact ⟨name, rfl, hthere, hnew⟩

theorem next_did (h : next call s p w = some (s', n)) : Did s s' p (p.events s w) := by
  cases p with
  | create id =>
      simp only [next, create] at h
      split at h
      · cases h
        exact .nothing s _
      · split at h
        · cases h
        · next hfresh =>
          split at h
          · cases h
            exact ⟨fun _ => .same rfl, fun _ hm => List.mem_cons_of_mem _ hm, fun _ hm => .inl hm,
              fun _ _ he => by cases he⟩
          · cases h
            refine ⟨fun id' => ?_, fun _ hm => List.mem_cons_of_mem _ hm, fun _ hm => .inl hm,
              fun _ _ he => by cases he⟩
            by_cases heq : id' = id
            · subst heq
              refine .created hfresh ?_ List.mem_cons_self
              rw [Db.status, lookup_insert_eq, if_pos rfl]
              rfl
            · refine .same ?_
              rw [Db.status, lookup_insert_eq, if_neg heq]
              rfl
  | ensureDatabase =>
      simp only [next, ensureDatabase, Option.some.injEq] at h
      split at h
      · cases h
        exact .nothing s _
      · split at h
        · cases h
          exact .nothing s _
        · next hnone =>
          cases h
          refine ⟨fun _ => .same rfl, fun _ hm => hm,
            fun id' hm => .inl (migrated_insert (fun before hbefore => ?_) id' hm),
            fun _ _ he => by cases he⟩
          rw [hbefore] at hnone
          exact absurd rfl hnone
  | schoolPool | listProvisioning | reconcile | updateSchool | readDropped =>
      cases h
      exact .nothing s _
  | migrateSchool =>
      simp only [next, migrateSchool, Option.some.injEq] at h
      split at h
      · cases h
        exact .nothing s _
      · next applied happlied =>
        split at h
        · cases h
          exact .nothing s _
        · split at h
          · cases h
            refine ⟨fun _ => .same rfl, fun _ hm => hm,
              fun id' hm => .inl (migrated_insert (fun before hbefore => ?_) id' hm),
              fun _ _ he => by cases he⟩
            rw [happlied] at hbefore
            cases hbefore
            exact Nat.le_succ applied
          · cases h
            exact .nothing s _
  | activate origin id =>
      simp only [next, activate, Option.some.injEq] at h
      split at h
      · cases h
        exact .nothing s _
      · cases h
        refine ⟨fun id' => ?_, fun _ hm => hm, fun _ hm => .inl hm, fun _ _ he => by cases he⟩
        have hstatus := status_setStatus s id id' .active
        by_cases heq : id' = id
        · subst heq
          rw [if_pos rfl] at hstatus
          cases hold : s.status id' with
          | none =>
              rw [hold] at hstatus
              exact .gone hstatus
          | some =>
              rw [hold] at hstatus
              exact .activated origin rfl (by simp [hold]) hstatus
        · rw [if_neg heq] at hstatus
          exact .same hstatus
  | deleteModules id =>
      simp only [next, deleteModules, Option.some.injEq, Prod.mk.injEq] at h
      obtain ⟨rfl, -⟩ := h
      split
      · exact .nothing s _
      · exact ⟨fun id' => .same (status_clearModules s id id'), fun _ hm => hm,
          fun _ hm => .inl hm, fun _ _ he => by cases he⟩
  | deleteSchool =>
      simp only [next, deleteSchool, Option.some.injEq, Prod.mk.injEq] at h
      obtain ⟨rfl, -⟩ := h
      split
      · exact .nothing s _
      · exact did_erase_school
  | dropLeftover =>
      simp only [next, dropLeftover, Option.some.injEq, Prod.mk.injEq] at h
      obtain ⟨rfl, -⟩ := h
      unfold Point.events
      split
      · exact .nothing s _
      · exact did_erase_database
  | update id name status =>
      simp only [next, update, Option.some.injEq] at h
      split at h
      · next hfails =>
        cases h
        cases status <;> simp only [Point.events, hfails, Bool.not_true, Bool.false_and]
        all_goals exact .nothing s _
      · next hfails =>
        split at h
        · next hnone =>
          cases h
          cases status <;> simp only [Point.events, hnone, Option.isSome_none, Bool.and_false]
          all_goals exact .nothing s _
        · next row hrow =>
          cases h
          exact did_update hrow (by simpa using hfails)
  | dropDatabase =>
      simp only [next, dropDatabase, Option.some.injEq] at h
      split at h
      · next hfails =>
        cases h
        simp only [Point.events, hfails, if_true]
        exact .nothing s _
      · next hfails =>
        cases h
        simp only [Point.events, hfails]
        exact did_erase_database
  | deleteRows =>
      simp only [next, deleteRows, Option.some.injEq] at h
      split at h
      · cases h
        exact .nothing s _
      · cases h
        exact did_erase_school

/-! ## Where a step leads -/

def Point.Knows (s : Db) (log : List Event) : Point → Prop
  | .activate _ id => s.migrated id = true ∨ .dropped id ∈ log
  | .update _ _ status => status ≠ some .provisioning
  | _ => True

theorem tryFromStr_ne {value : String} {status : SchoolStatus}
    (h : SchoolStatus.tryFromStr value = .ok status) : status ≠ .provisioning := by
  unfold SchoolStatus.tryFromStr at h
  split at h
  · cases h
    decide
  · split at h
    · cases h
      decide
    · cases h

theorem parsed_status {status : Option String} {found : Option SchoolStatus}
    (h : parsed SchoolStatus.tryFromStr status = .ok found) : found ≠ some .provisioning := by
  cases status with
  | none =>
      cases h
      rintro ⟨⟩
  | some value =>
      simp only [parsed] at h
      cases hvalue : SchoolStatus.tryFromStr value with
      | error =>
          rw [hvalue] at h
          cases h
      | ok =>
          rw [hvalue] at h
          cases h
          exact fun heq => tryFromStr_ne hvalue (Option.some.inj heq)

theorem next_brings {q : Point} (h : next call s p w = some (s', .goto q)) (hid : id ∈ q.bringsUp) :
    id ∈ p.bringsUp ∨ id ∉ s.minted ∨ s.status id = some .provisioning := by
  have hfailed : ∀ origin school, id ∈ (failed origin school).bringsUp →
      id ∈ (Point.ensureDatabase origin school).bringsUp := by
    intro origin school hmem
    cases origin with
    | create => cases hmem
    | reconcile => exact List.mem_cons_of_mem _ hmem
  cases p with
  | create =>
      simp only [next, create] at h
      split at h
      · cases h
      · split at h
        · cases h
        · next hfresh =>
          split at h
          · cases h
          · cases h
            obtain rfl := List.mem_singleton.mp hid
            exact .inr (.inl hfresh)
  | ensureDatabase origin school =>
      simp only [next, ensureDatabase, Option.some.injEq] at h
      split at h
      · cases h
        exact .inl (hfailed origin school hid)
      · split at h
        · cases h
          exact .inl hid
        · cases h
          exact .inl hid
  | schoolPool origin school =>
      simp only [next, schoolPool, Option.some.injEq, Prod.mk.injEq] at h
      obtain ⟨-, h⟩ := h
      split at h
      · cases h
        exact .inl (hfailed origin school hid)
      · cases h
        exact .inl hid
  | migrateSchool origin school =>
      simp only [next, migrateSchool, Option.some.injEq] at h
      split at h
      · cases h
        exact .inl (hfailed origin school hid)
      · split at h
        · cases h
          exact .inl (hfailed origin school hid)
        · split at h
          · cases h
            exact .inl hid
          · cases h
            exact .inl hid
  | activate origin school =>
      simp only [next, activate, Option.some.injEq] at h
      split at h
      · cases h
        exact .inl (hfailed origin school hid)
      · simp only [Prod.mk.injEq] at h
        cases origin with
        | create => cases h.2
        | reconcile =>
            cases h.2
            exact .inl (List.mem_cons_of_mem _ hid)
  | listProvisioning =>
      simp only [next, listProvisioning, Option.some.injEq, Prod.mk.injEq] at h
      obtain ⟨-, h⟩ := h
      split at h
      · cases h
      · cases h
        simp only [Point.bringsUp, provisioning, List.mem_map, List.mem_insertionSort,
          List.mem_filter, decide_eq_true_eq] at hid
        obtain ⟨row, ⟨hmem, hstatus⟩, rfl⟩ := hid
        rw [Db.status, mem_entries_iff_lookup.mp hmem]
        exact .inr (.inr (congrArg some hstatus))
  | reconcile rest =>
      cases rest with
      | nil => cases h
      | cons =>
          cases h
          exact .inl hid
  | deleteModules | deleteSchool =>
      cases h
      cases hid
  | dropLeftover => cases h
  | updateSchool =>
      simp only [next, updateSchool, Option.some.injEq, Prod.mk.injEq] at h
      obtain ⟨-, h⟩ := h
      split at h
      · cases h
      · split at h
        · cases h
        · cases h
          cases hid
  | update =>
      simp only [next, update, Option.some.injEq] at h
      split at h
      · cases h
      · split at h
        · cases h
        · cases h
  | readDropped =>
      simp only [next, readDropped, Option.some.injEq, Prod.mk.injEq] at h
      obtain ⟨-, h⟩ := h
      split at h
      · cases h
      · split at h
        · cases h
        · cases h
          cases hid
  | dropDatabase =>
      simp only [next, dropDatabase, Option.some.injEq] at h
      split at h
      · cases h
      · cases h
        cases hid
  | deleteRows =>
      simp only [next, deleteRows, Option.some.injEq] at h
      split at h
      · cases h
      · cases h

theorem failed_ne_activate {origin' : Origin} {id' : SchoolId} :
    failed origin id ≠ .activate origin' id' := by
  cases origin <;> rintro ⟨⟩

theorem failed_ne_update {id' : SchoolId} : failed origin id ≠ .update id' name status := by
  cases origin <;> rintro ⟨⟩

theorem next_activate (h : next call s p w = some (s', .goto (.activate origin id))) :
    s'.migrated id = true := by
  cases p <;> simp only [next, create, ensureDatabase, schoolPool, migrateSchool, activate,
    deleteModules, deleteSchool, dropLeftover, listProvisioning, reconcile, updateSchool, update,
    readDropped, dropDatabase, deleteRows, finished, done, refuse] at h
  case migrateSchool origin' school =>
    simp only [Option.some.injEq] at h
    split at h
    · cases failed_ne_activate (Next.goto.inj (Prod.mk.inj h).2)
    · next applied happlied =>
      split at h
      · cases failed_ne_activate (Next.goto.inj (Prod.mk.inj h).2)
      · split at h
        · cases h
        · next hle =>
          cases h
          rw [Db.migrated, happlied]
          simpa using hle
  all_goals grind [failed_ne_activate]

theorem next_update (h : next call s p w = some (s', .goto (.update id name status))) :
    status ≠ some .provisioning := by
  cases p <;> simp only [next, create, ensureDatabase, schoolPool, migrateSchool, activate,
    deleteModules, deleteSchool, dropLeftover, listProvisioning, reconcile, updateSchool, update,
    readDropped, dropDatabase, deleteRows, finished, done, refuse] at h
  case updateSchool school name' status' =>
    simp only [Option.some.injEq, Prod.mk.injEq] at h
    obtain ⟨-, h⟩ := h
    split at h
    · cases h
    · split at h
      · cases h
      · next hparsed =>
        cases h
        exact parsed_status hparsed
  all_goals grind [failed_ne_update]

structure Quiet (c : Config Db Point) (id : SchoolId) : Prop where
  minted : id ∈ c.shared.minted
  status : c.shared.status id ≠ some .provisioning
  calls : ∀ call p, c.calls.lookup call = some p → id ∉ p.bringsUp

structure Inv (c : Config Db Point) (log : List Event) : Prop where
  minted : ∀ id, c.shared.status id ≠ none → id ∈ c.shared.minted
  ready : ∀ id status, c.shared.status id = some status → status ≠ .provisioning →
    c.shared.migrated id = true ∨ .dropped id ∈ log
  knows : ∀ call p, c.calls.lookup call = some p → p.Knows c.shared log
  patched : ∀ id status, lastPatch id log = some status →
    Quiet c id ∧ (status = .suspended → c.shared.status id ≠ some .active)

theorem lastPatch_snoc (id : SchoolId) (log : List Event) (event : Event) :
    lastPatch id (log ++ [event]) =
      match event with
      | .patched school status => if school = id then some status else lastPatch id log
      | .dropped _ => lastPatch id log := by
  cases event <;> simp [lastPatch, List.foldl_append]

theorem Point.Knows.mono {q : Point} {ev : List Event} (h : q.Knows s log) (hdid : Did s s' p ev) :
    q.Knows s' (log ++ ev) := by
  cases q with
  | activate origin id =>
      obtain hmigrated | hdropped := h
      · exact (hdid.migrated id hmigrated).imp_right (List.mem_append_right log)
      · exact .inr (List.mem_append_left ev hdropped)
  | update => exact h
  | _ => trivial

theorem Quiet.turn (h : Quiet c id) {ev : List Event} (hp : c.calls.lookup call = some p)
    (hturn : Turn c.shared s p ev id) :
    s.status id = c.shared.status id ∨ s.status id = none ∨
      ∃ name status, p = .update id name (some status) ∧ s.status id = some status ∧
        ev = [.patched id status] := by
  cases hturn with
  | same hsame => exact .inl hsame
  | gone hgone => exact .inr (.inl hgone)
  | created hfresh => exact absurd h.minted hfresh
  | activated origin hactivate =>
      subst hactivate
      refine absurd ?_ (h.calls call _ hp)
      cases origin with
      | create | reconcile => exact List.mem_cons_self
  | patched name status hupdate hold hnew hev =>
      exact .inr (.inr ⟨name, status, hupdate, hnew, hev⟩)

theorem Quiet.step (h : Quiet c id) (hp : c.calls.lookup call = some p)
    (hnext : next call c.shared p w = some (s, n)) (hknows : p.Knows c.shared log) :
    Quiet (c.after call s n) id := by
  have hdid := next_did hnext
  refine ⟨?_, ?_, fun call' q hq => ?_⟩
  · rw [Config.shared_after]
    exact hdid.minted id h.minted
  · rw [Config.shared_after]
    obtain hsame | hgone | ⟨name, status, rfl, hnew, -⟩ := h.turn hp (hdid.turn id)
    · rw [hsame]
      exact h.status
    · simp [hgone]
    · rw [hnew]
      exact hknows
  · rcases Config.lookup_after hq with ⟨-, hold⟩ | ⟨rfl, rfl⟩
    · exact h.calls call' q hold
    · intro hid
      obtain hbrings | hfresh | hstatus := next_brings hnext hid
      · exact h.calls _ p hp hbrings
      · exact hfresh h.minted
      · exact h.status hstatus

theorem events_length (s : Db) (w : World) (p : Point) :
    p.events s w = [] ∨ ∃ event, p.events s w = [event] := by
  unfold Point.events
  split
  · split
    · exact .inr ⟨_, rfl⟩
    · exact .inl rfl
  · split
    · exact .inl rfl
    · exact .inr ⟨_, rfl⟩
  · split
    · exact .inl rfl
    · exact .inr ⟨_, rfl⟩
  · exact .inl rfl

theorem lastPatch_events {status : SchoolStatus}
    (h : lastPatch id (log ++ p.events s w) = some status) :
    .patched id status ∈ p.events s w ∨
      lastPatch id log = some status ∧ ∀ other, .patched id other ∉ p.events s w := by
  obtain hnil | ⟨event, hone⟩ := events_length s w p
  · rw [hnil, List.append_nil] at h
    rw [hnil]
    exact .inr ⟨h, fun _ => List.not_mem_nil⟩
  · rw [hone, lastPatch_snoc] at h
    rw [hone]
    cases event with
    | patched =>
        simp only at h
        split at h
        · next heq =>
          cases h
          exact .inl (by rw [heq]; exact List.mem_singleton_self _)
        · next hne =>
          refine .inr ⟨h, fun other' hmem => ?_⟩
          cases List.mem_singleton.mp hmem
          exact hne rfl
    | dropped =>
        refine .inr ⟨h, fun other' hmem => ?_⟩
        cases List.mem_singleton.mp hmem

/-- A PATCH that names a status finds the school quiet. -/
theorem Inv.quiet_of_settled (h : Inv c log) {status : SchoolStatus}
    (hguard : settled c (.update id name (some status)) = true)
    (hthere : c.shared.status id ≠ none) : Quiet c id := by
  simp only [settled, Bool.and_eq_true, decide_eq_true_eq, Bool.not_eq_true'] at hguard
  refine ⟨h.minted id hthere, hguard.1, fun call p hp => ?_⟩
  exact of_decide_eq_false (Table.any_eq_false_iff.mp hguard.2 call p hp)

theorem Inv.advance (h : Inv c log) (hguard : settled c p = true)
    (hp : c.calls.lookup call = some p) (hnext : next call c.shared p w = some (s, n)) :
    Inv (c.after call s n) (log ++ p.events c.shared w) := by
  have hdid := next_did hnext
  have hknows := h.knows call p hp
  have hkeep : ∀ id, c.shared.migrated id = true ∨ .dropped id ∈ log →
      s.migrated id = true ∨ .dropped id ∈ log ++ p.events c.shared w := by
    rintro id (hmigrated | hdropped)
    · exact (hdid.migrated id hmigrated).imp_right (List.mem_append_right log)
    · exact .inr (List.mem_append_left _ hdropped)
  constructor
  · intro id hid
    rw [Config.shared_after] at hid ⊢
    cases hdid.turn id with
    | same hsame => exact hdid.minted id (h.minted id (hsame ▸ hid))
    | gone hgone => exact absurd hgone hid
    | created hfresh hnew hminted => exact hminted
    | activated origin hactivate hold hnew | patched name status hupdate hold hnew hev =>
        exact hdid.minted id (h.minted id hold)
  · intro id status hstatus hne
    rw [Config.shared_after] at hstatus ⊢
    apply hkeep
    cases hdid.turn id with
    | same hsame => exact h.ready id status (hsame ▸ hstatus) hne
    | gone hgone =>
        rw [hgone] at hstatus
        cases hstatus
    | created hfresh hnew =>
        rw [hnew] at hstatus
        cases hstatus
        exact absurd rfl hne
    | activated origin hactivate =>
        subst hactivate
        exact hknows
    | patched name named hupdate hold =>
        subst hupdate
        obtain ⟨old, hold'⟩ := Option.ne_none_iff_exists'.mp hold
        refine h.ready id old hold' fun heq => ?_
        exact (h.quiet_of_settled hguard hold).status (hold'.trans (congrArg some heq))
  · intro call' q hq
    rw [Config.shared_after]
    rcases Config.lookup_after hq with ⟨-, hold⟩ | ⟨rfl, rfl⟩
    · exact (h.knows call' q hold).mono hdid
    · cases q with
      | activate => exact .inl (next_activate hnext)
      | update => exact next_update hnext
      | _ => trivial
  · intro id status hlast
    obtain hmem | ⟨hold, hnone⟩ := lastPatch_events hlast
    · obtain ⟨name, rfl, hthere, hnew⟩ := hdid.recorded id status hmem
      refine ⟨(h.quiet_of_settled hguard hthere).step hp hnext hknows, ?_⟩
      rintro rfl
      rw [Config.shared_after, hnew]
      rintro ⟨⟩
    · obtain ⟨hquiet, hsuspended⟩ := h.patched id status hold
      refine ⟨hquiet.step hp hnext hknows, fun hstatus => ?_⟩
      rw [Config.shared_after]
      obtain hsame | hgone | ⟨name, named, -, -, hev⟩ := hquiet.turn hp (hdid.turn id)
      · rw [hsame]
        exact hsuspended hstatus
      · simp [hgone]
      · exact absurd (by rw [hev]; exact List.mem_singleton_self _) (hnone named)

theorem Quiet.of_calls (h : Quiet c id) (hshared : c'.shared = c.shared)
    (hcalls : ∀ call p, c'.calls.lookup call = some p →
      c.calls.lookup call = some p ∨ p.bringsUp = []) : Quiet c' id := by
  refine ⟨hshared ▸ h.minted, hshared ▸ h.status, fun call p hp => ?_⟩
  obtain hold | hnil := hcalls call p hp
  · exact h.calls call p hold
  · rw [hnil]
    exact List.not_mem_nil

/-- A call that arrives or is abandoned moves nothing. -/
theorem Inv.of_calls (h : Inv c log) (hshared : c'.shared = c.shared)
    (hcalls : ∀ call p, c'.calls.lookup call = some p →
      c.calls.lookup call = some p ∨ ∃ request : Request, p = request.entry) : Inv c' log := by
  have hentry : ∀ request : Request,
      request.entry.bringsUp = [] ∧ ∀ s, request.entry.Knows s log := by
    intro request
    cases request <;> exact ⟨rfl, fun _ => trivial⟩
  refine ⟨hshared ▸ h.minted, hshared ▸ h.ready, fun call p hp => ?_, fun id status hlast => ?_⟩
  · rw [hshared]
    obtain hold | ⟨request, rfl⟩ := hcalls call p hp
    · exact h.knows call p hold
    · exact (hentry request).2 c.shared
  · obtain ⟨hquiet, hsuspended⟩ := h.patched id status hlast
    refine ⟨hquiet.of_calls hshared fun call p hp => ?_, hshared ▸ hsuspended⟩
    obtain hold | ⟨request, rfl⟩ := hcalls call p hp
    · exact .inl hold
    · exact .inr (hentry request).1

theorem Inv.step {m : Move Request World} (h : Inv c log) (hguard : c.Admits settled m)
    (hstep : machine.step c m = some c') :
    Inv c' (log ++ events c m) := by
  obtain ⟨request, rfl, rfl⟩ | ⟨id, w, p, s, n, rfl, hp, hnext, rfl⟩ | ⟨id, p, rfl, hp, rfl⟩ :=
    Machine.step_cases hstep
  · simp only [events, List.append_nil]
    refine h.of_calls rfl fun call q hq => ?_
    obtain ⟨-, rfl⟩ | ⟨-, hq⟩ := insert_cases hq
    · exact .inr ⟨request, rfl⟩
    · exact .inl hq
  · simp only [events, hp, Option.elim_some]
    exact h.advance (hguard.check hp) hp hnext
  · simp only [events, List.append_nil]
    refine h.of_calls rfl fun call q hq => ?_
    obtain ⟨-, hq⟩ := erase_cases hq
    exact .inl hq

theorem start_inv : Inv start [] where
  minted id h := absurd rfl h
  ready id status h := by cases h
  knows call p h := by cases h
  patched id status h := by cases h

/-- In every run whose PATCHes name a status only for schools that are not being brought up, an
active school has a database with the whole school schema unless that database was removed, by
a drop or by the rollback of its create; and a school whose last PATCH suspended it is not
active. -/
theorem active_schools_have_schema {moves : List (Move Request World)} {c : Config Db Point}
    (hguard : machine.Guarded (Config.Admits settled) start moves)
    (hrun : machine.run start moves = some c) (id : SchoolId) :
    (c.shared.status id = some .active →
      c.shared.migrated id = true ∨ .dropped id ∈ machine.observe events start moves) ∧
    (lastPatch id (machine.observe events start moves) = some .suspended →
      c.shared.status id ≠ some .active) := by
  have hinv := Machine.observe_induction (f := events) (J := Inv)
    (fun h hguard hstep => h.step hguard hstep) start_inv hguard hrun
  constructor
  · intro hactive
    exact hinv.ready id .active hactive (by decide)
  · intro hlast
    exact (hinv.patched id .suspended hlast).2 rfl

namespace Sample

def school : SchoolId := ⟨.ending "000c"⟩

def works : World := ⟨false, 0⟩

/-- A create up to its last write. -/
def created : List (Move Request World) :=
  .start (.create school "Lise" ∅) :: List.replicate 19 (.advance 0 works)

def patch (call : ℕ) (status : String) : List (Move Request World) :=
  [.start (.updateSchool school none (some status)), .advance call works, .advance call works]

end Sample

open Sample in
def lifted : List (Move Request World) := created ++ patch 1 "suspended" ++ patch 2 "active"

theorem active_schools_have_schema_lifted :
    ∃ c, machine.run start lifted = some c ∧ c.shared.status Sample.school = some .active ∧
      c.shared.migrated Sample.school = true := by
  have hends : (machine.run start lifted).any (fun c =>
      decide (c.shared.status Sample.school = some .active)) = true := by
    decide
  obtain ⟨c, hrun, hstatus⟩ := (Option.any_eq_true _ _).mp hends
  have hactive := of_decide_eq_true hstatus
  refine ⟨c, hrun, hactive, ?_⟩
  have hschema := (active_schools_have_schema (by decide) hrun Sample.school).1 hactive
  exact hschema.resolve_right (by decide)

open Sample in
def interrupted : List (Move Request World) :=
  created ++ [.start (.drop school), .advance 1 works, .advance 1 works, .abandon 1]

/-- An active school without a database, which a second drop would complete. -/
theorem interrupted_drop_leaves_no_database :
    (machine.run start interrupted).any (fun c =>
      c.calls.entries.isEmpty &&
        decide (c.shared.status Sample.school = some .active ∧
          c.shared.database.lookup Sample.school = none)) = true := by
  decide

open Sample in
/-- A suspension that lands before the last write of a create is overwritten by it. -/
example : (machine.run start
    (created.dropLast ++ patch 1 "suspended" ++ [.advance 0 works])).any (fun c =>
      decide (c.shared.status school = some .active)) = true := by
  decide

end Hezarfen.Provisioning
