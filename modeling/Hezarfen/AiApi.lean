import Mathlib
import Hezarfen.ApiRoutes
import Hezarfen.PathTemplates

/-!
# What an AI service may read

A service names a REST path, which has to match a pattern of the allowlist segment for segment
before it is handed to the router.  The router then chooses a route for the path that the
request target has.  What comes from outside is how a target is read and how a route is chosen
among those that fit.
-/

namespace Hezarfen.AiApi

open PathTemplates
open Web (Route buildRouter)

def aiApiAllowlist : List String :=
  ["/auth/me",
    "/users/me/profile",
    "/users/{id}/profile",
    "/notes",
    "/notes/{id}",
    "/course-notes",
    "/course-notes/{id}",
    "/course-notes/{id}/files",
    "/homework",
    "/homework/{id}",
    "/homework/{id}/result",
    "/homework/{id}/submission",
    "/homework/report/{user}",
    "/marks/me",
    "/marks/{user}",
    "/attendance/me",
    "/attendance/{user}",
    "/pomodoro/me",
    "/pomodoro/{user}"]

def patternMatches (pattern path : String) : Bool := fits (segments pattern) (segments path)

def routeTemplate (path : String) : Option String :=
  if path.toList.head? ≠ some '/' ∨ '?' ∈ path.toList then none
  else aiApiAllowlist.find? fun pattern => patternMatches pattern path

def pathAllowed (path : String) : Bool := (routeTemplate path).isSome

def refuseBeforeDispatch (method : Option String) (path : String) : Option (String × String) :=
  if method.any (· ≠ "GET") then
    some ("method_not_allowed",
      "the api bridge reads only — `" ++ method.getD "" ++ "` is never dispatched")
  else if !pathAllowed path then
    some ("path_not_allowed", "`" ++ path ++ "` is not a path AI services may read")
  else none

def target (path : String) : Option String → String
  | some query => if query = "" then path else path ++ "?" ++ query
  | none => path

structure ReadsTarget (uri : String → Option String) : Prop where
  path : ∀ {target path}, uri target = some path →
    path.toList = target.toList.takeWhile fun c => c ≠ '?' && c ≠ '#'

/-- The `GET` route that a request of a service ends in. -/
def dispatched (uri : String → Option String)
    (select : List Route → List Segment → Option Route) (method : Option String) (path : String)
    (query : Option String) : Option Route :=
  match refuseBeforeDispatch method path with
  | some _ => none
  | none =>
      (uri (target path query)).bind fun routed =>
        (select buildRouter (segments routed)).filter Route.answersGet

def shadowed : List String :=
  ["/marks/karne", "/homework/report/result", "/homework/report/submission"]

def uncovered : List String := ["/marks/karne", "/marks/me", "/attendance/me", "/pomodoro/me"]

def routed (path : String) : List Segment := cutAt '#' (segments path)

/-- The path is none of those that a static route shadows.  Where it has a fragment, what
stands in front of it has an empty last segment, or is a path that answers no `GET`, or is as
long as the whole and not uncovered. -/
def answersAsNamed (path : String) : Bool :=
  if '#' ∈ path.toList then
    decide ((routed path).getLast? = some []) || decide (routed path = segments "/users/me") ||
      (decide ((routed path).length = (segments path).length) &&
        uncovered.all fun static => decide (routed path ≠ segments static))
  else shadowed.all fun static => decide (segments path ≠ segments static)

/-! ## The part of the table that matters -/

def listedMounts : List String :=
  ["/auth", "/users", "/notes", "/course-notes", "/homework", "/marks", "/attendance",
    "/pomodoro"]

def listedRoutes : List Route :=
  (Web.nests.filter fun (mount, _) => listedMounts.contains mount).flatMap
    fun (mount, routes) => Web.nest mount routes

def listedHeads : List Segment := ["auth".toList, "users".toList, "notes".toList,
  "course-notes".toList, "homework".toList, "marks".toList, "attendance".toList,
  "pomodoro".toList]

def elsewhere (mount : String) : Bool :=
  (segments mount).head?.any fun first =>
    first.head?.any (· ≠ '{') && listedHeads.all fun head => !first.isPrefixOf head

theorem mounts_elsewhere : ∀ mounted ∈ Web.nests,
    listedMounts.contains mounted.1 = true ∨
      (mounted.1.toList.isEmpty = false ∧ elsewhere mounted.1 = true) := by
  decide

theorem roots_elsewhere : ∀ route ∈ Web.rootRoutes,
    (segments route.template).head?.any
      (fun first => !isPlaceholder first && !listedHeads.contains first) = true := by
  decide

theorem isPlaceholder_head {segment : Segment} (h : isPlaceholder segment = true) :
    segment.head? = some '{' := by
  rw [isPlaceholder, Bool.and_eq_true, beq_iff_eq] at h
  exact h.1

theorem not_fits_elsewhere {mount : String} {routes : List Route}
    (hnonempty : mount.toList.isEmpty = false) (helsewhere : elsewhere mount = true)
    {route : Route} (hroute : route ∈ Web.nest mount routes) {path : List Segment} {head : Segment}
    (hpath : path.head? = some head) (hhead : head ∈ listedHeads) :
    fits (segments route.template) path = false := by
  obtain ⟨first, hfirst, hmount⟩ := (Option.any_eq_true _ _).mp helsewhere
  rw [Bool.and_eq_true, List.all_eq_true] at hmount
  have hbegins : ∃ segment rest, segments route.template = segment :: rest ∧
      first <+: segment := by
    obtain ⟨inner, -, rfl⟩ := List.mem_map.mp hroute
    dsimp only
    split
    · cases hsegments : segments mount with
      | nil =>
          rw [hsegments] at hfirst
          cases hfirst
      | cons segment rest =>
          rw [hsegments, List.head?_cons, Option.some.injEq] at hfirst
          exact ⟨segment, rest, rfl, hfirst ▸ List.prefix_rfl⟩
    · obtain ⟨segment, rest, hsplit, hprefix⟩ := segments_append inner.template
        (List.isEmpty_eq_false_iff.mp hnonempty)
      exact ⟨segment, rest, hsplit, hprefix first hfirst⟩
  obtain ⟨segment, rest, hsegments, hprefix⟩ := hbegins
  rw [hsegments]
  cases path with
  | nil => cases hpath
  | cons given =>
      rw [List.head?_cons, Option.some.injEq] at hpath
      subst hpath
      have hliteral : isPlaceholder segment = false := by
        by_contra hplaceholder
        rw [Bool.not_eq_false] at hplaceholder
        have hbrace := isPlaceholder_head hplaceholder
        cases first with
        | nil => simp at hmount
        | cons =>
            obtain ⟨tail, rfl⟩ := hprefix
            rw [List.cons_append, List.head?_cons, Option.some.injEq] at hbrace
            simp [hbrace] at hmount
      by_contra hfits
      rw [Bool.not_eq_false, fits_cons, Bool.and_eq_true, if_neg (by simp [hliteral]), beq_iff_eq]
        at hfits
      have hnot := hmount.2 given hhead
      rw [← hfits.1, List.isPrefixOf_iff_prefix.mpr hprefix] at hnot
      cases hnot

/-- The routes that may fit a path of the allowlist. -/
theorem mem_listedRoutes {route : Route} (hroute : route ∈ buildRouter) {path : List Segment}
    {head : Segment} (hpath : path.head? = some head) (hhead : head ∈ listedHeads)
    (hfits : fits (segments route.template) path = true) : route ∈ listedRoutes := by
  rw [buildRouter, List.mem_append, List.mem_flatMap] at hroute
  rcases hroute with hroot | ⟨mounted, hmounted, hroute⟩
  · obtain ⟨first, hfirst, hother⟩ := (Option.any_eq_true _ _).mp (roots_elsewhere route hroot)
    rw [Bool.and_eq_true, Bool.not_eq_true', Bool.not_eq_true'] at hother
    have hsame := head?_eq_of_fits hfits hfirst hother.1
    rw [hpath, Option.some.injEq] at hsame
    subst hsame
    rw [List.contains_iff_mem.mpr hhead] at hother
    cases hother.2
  · rcases mounts_elsewhere mounted hmounted with hlisted | ⟨hnonempty, helsewhere⟩
    · exact List.mem_flatMap.mpr ⟨mounted, List.mem_filter.mpr ⟨hmounted, hlisted⟩, hroute⟩
    · rw [not_fits_elsewhere hnonempty helsewhere hroute hpath hhead] at hfits
      cases hfits

theorem listedRoutes_subset {route : Route} (h : route ∈ listedRoutes) : route ∈ buildRouter := by
  obtain ⟨mounted, hmounted, hroute⟩ := List.mem_flatMap.mp h
  exact List.mem_append_right _
    (List.mem_flatMap.mpr ⟨mounted, (List.mem_filter.mp hmounted).1, hroute⟩)

section Checked

variable (pattern : String)

def Begins : Prop :=
  (segments pattern).head?.any (fun s => listedHeads.contains s) = true ∧
    ∀ s ∈ segments pattern, '#' ∉ s

/-- A pattern is a `GET` route. -/
def Routed : Prop := ∃ route ∈ listedRoutes, route.template = pattern ∧ route.answersGet = true

/-- The routes that may be preferred to a pattern: earlier patterns, and the static routes that
nobody listed. -/
def Rivals : Prop :=
  ∀ route ∈ listedRoutes, route.answersGet = true →
    overlaps (segments pattern) (segments route.template) = true →
    prefers (segments pattern) (segments route.template) = false →
    route.template = pattern ∨
      (route.template ∈ aiApiAllowlist ∧
        aiApiAllowlist.idxOf route.template < aiApiAllowlist.idxOf pattern) ∨
      route.template = "/marks/karne" ∨
      (route.template = "/homework/report/{user}" ∧
        pattern ∈ ["/homework/{id}/result", "/homework/{id}/submission"])

def StaticRivals : Prop :=
  (segments pattern).getLast?.any isPlaceholder = true → ∀ route ∈ listedRoutes,
    route.answersGet = true → overlaps (segments pattern) (segments route.template) = true →
    prefers (segments pattern) (segments route.template) = false →
    route.template = pattern ∨ route.template ∈ uncovered

/-- What a pattern is up to a placeholder is the template of a route, and what may be preferred
to that answers a `GET` or is `/users/me`. -/
def Stubs : Prop :=
  ∀ n < (segments pattern).length,
    ((segments pattern).take n).getLast?.any isPlaceholder = true →
    (∃ route ∈ listedRoutes, segments route.template = (segments pattern).take n) ∧
      ∀ route ∈ listedRoutes,
        overlaps ((segments pattern).take n) (segments route.template) = true →
        prefers ((segments pattern).take n) (segments route.template) = false →
        route.answersGet = true ∨ route.template = "/users/me"

instance : Decidable (Begins pattern) := inferInstanceAs (Decidable (_ ∧ _))

instance : Decidable (Routed pattern) :=
  inferInstanceAs
    (Decidable (∃ route ∈ listedRoutes, route.template = pattern ∧ route.answersGet = true))

instance : Decidable (Rivals pattern) := by
  unfold Rivals
  infer_instance

instance : Decidable (StaticRivals pattern) := by
  unfold StaticRivals
  infer_instance

instance : Decidable (Stubs pattern) := by
  unfold Stubs
  infer_instance

end Checked

theorem listed : ∀ pattern ∈ aiApiAllowlist, Begins pattern ∧ Routed pattern ∧ Rivals pattern ∧
    StaticRivals pattern ∧ Stubs pattern := by
  decide

theorem idxOf_le_of_find? {α : Type*} [DecidableEq α] {p : α → Bool} {l : List α} {a b : α}
    (hfind : l.find? p = some a) (hmem : b ∈ l) (hb : p b = true) : l.idxOf a ≤ l.idxOf b := by
  induction l with
  | nil => cases hmem
  | cons x l ih =>
      rw [List.find?_cons] at hfind
      split at hfind
      · cases hfind
        rw [List.idxOf_cons_self]
        exact Nat.zero_le _
      · next hx =>
        have hxa : x ≠ a := by
          rintro rfl
          rw [List.find?_some hfind] at hx
          cases hx
        have hxb : x ≠ b := by
          rintro rfl
          rw [hb] at hx
          cases hx
        rw [List.idxOf_cons_ne _ hxa, List.idxOf_cons_ne _ hxb]
        exact Nat.succ_le_succ (ih hfind ((List.mem_cons.mp hmem).resolve_left hxb.symm))

structure Matched (pattern path : String) : Prop where
  slash : path.toList.head? = some '/'
  unasked : '?' ∉ path.toList
  allowed : pattern ∈ aiApiAllowlist
  whole : fits (segments pattern) (segments path) = true
  first : ∀ other ∈ aiApiAllowlist, fits (segments other) (segments path) = true →
    aiApiAllowlist.idxOf pattern ≤ aiApiAllowlist.idxOf other

theorem matched_of_routeTemplate {path pattern : String}
    (h : routeTemplate path = some pattern) : Matched pattern path := by
  unfold routeTemplate at h
  split at h
  · cases h
  · next hpath =>
    rw [not_or, not_not] at hpath
    have hfits : patternMatches pattern path = true := by
      simpa using List.find?_some h
    exact ⟨hpath.1, hpath.2, List.mem_of_find?_eq_some h, hfits,
      fun other hother hfits => idxOf_le_of_find? h hother hfits⟩

theorem takeWhile_target (text tail : List Char) (htext : '?' ∉ text)
    (htail : tail.head?.all (· = '?') = true) :
    (text ++ tail).takeWhile (fun c => c ≠ '?' && c ≠ '#') = text.takeWhile (· ≠ '#') := by
  induction text with
  | nil =>
      cases tail with
      | nil => rfl
      | cons c =>
          have hc : c = '?' := by simpa using htail
          simp [hc]
  | cons c text ih =>
      have hc : c ≠ '?' := fun heq => htext (heq ▸ List.mem_cons_self)
      have hrest := ih fun hmem => htext (List.mem_cons_of_mem c hmem)
      simp only [List.cons_append, List.takeWhile_cons]
      by_cases hfragment : c = '#'
      · simp [hfragment]
      · simp [hc, hfragment] at hrest ⊢
        exact hrest

theorem target_path {uri : String → Option String} (huri : ReadsTarget uri) {path read : String}
    {query : Option String} (hslash : path.toList.head? = some '/') (hunasked : '?' ∉ path.toList)
    (hread : uri (target path query) = some read) : segments read = routed path := by
  have hcut : read.toList = path.toList.takeWhile (· ≠ '#') := by
    rw [huri.path hread]
    have hplain := takeWhile_target path.toList [] hunasked rfl
    rw [List.append_nil] at hplain
    cases query with
    | none => exact hplain
    | some =>
        rw [target]
        split
        · exact hplain
        · rw [String.append_assoc, String.toList_append, String.toList_append]
          exact takeWhile_target path.toList _ hunasked rfl
  unfold routed segments
  rw [hcut, ← splitOn_takeWhile (by decide)]
  cases hlist : path.toList with
  | nil =>
      rw [hlist] at hslash
      cases hslash
  | cons =>
      rw [hlist, List.head?_cons, Option.some.injEq] at hslash
      rw [hslash]
      simp

theorem dispatched_eq_some {uri : String → Option String}
    {select : List Route → List Segment → Option Route} (huri : ReadsTarget uri)
    {method : Option String} {path pattern : String} {query : Option String}
    (haccepted : refuseBeforeDispatch method path = none) (hmatched : Matched pattern path)
    {route : Route} :
    dispatched uri select method path query = some route ↔
      (uri (target path query)).isSome = true ∧ select buildRouter (routed path) = some route ∧
        route.answersGet = true := by
  unfold dispatched
  rw [haccepted]
  cases hread : uri (target path query) with
  | none => simp
  | some =>
      rw [← target_path huri hmatched.slash hmatched.unasked hread]
      simp [Option.filter_eq_some_iff]

/-! ## What the router chooses -/

section Chosen

variable {select : List Route → List Segment → Option Route} {path pattern : String}

theorem listedHeads_literal : ∀ head ∈ listedHeads, isPlaceholder head = false := by
  decide

theorem Matched.head (h : Matched pattern path) :
    ∃ head ∈ listedHeads, (routed path).head? = some head := by
  obtain ⟨⟨hhead, hliterals⟩, -⟩ := listed pattern h.allowed
  obtain ⟨head, hfirst, hlisted⟩ := (Option.any_eq_true _ _).mp hhead
  rw [List.contains_iff_mem] at hlisted
  have hpath := head?_eq_of_fits h.whole hfirst (listedHeads_literal head hlisted)
  refine ⟨head, hlisted, ?_⟩
  unfold routed
  cases hsegments : segments path with
  | nil =>
      rw [hsegments] at hpath
      cases hpath
  | cons given =>
      rw [hsegments, List.head?_cons, Option.some.injEq] at hpath
      have hnot : '#' ∉ given := hpath ▸ hliterals head (List.mem_of_head? hfirst)
      rw [cutAt, if_neg hnot, List.head?_cons, hpath]

theorem Matched.chosen (h : Matched pattern path)
    (hselect : PrefersStatic (fun route : Route => segments route.template) select) {route : Route}
    (hroute : select buildRouter (routed path) = some route) :
    route ∈ listedRoutes ∧ fits (segments route.template) (routed path) = true ∧
      ∀ other ∈ listedRoutes, fits (segments other.template) (routed path) = true →
        prefers (segments other.template) (segments route.template) = false := by
  obtain ⟨head, hhead, hpath⟩ := h.head
  obtain ⟨hmem, hfits⟩ := hselect.found hroute
  exact ⟨mem_listedRoutes hmem hpath hhead hfits, hfits, fun other hother hfits' =>
    hselect.preferred hroute other (listedRoutes_subset hother) hfits'⟩

theorem taken (hselect : PrefersStatic (fun route : Route => segments route.template) select)
    {route : Route} {segments' : List Segment} (hmem : route ∈ listedRoutes)
    (hfits : fits (segments route.template) segments' = true) {head : Segment}
    (hhead : segments'.head? = some head) (hlisted : head ∈ listedHeads)
    (hbest : ∀ other ∈ listedRoutes, fits (segments other.template) segments' = true →
      other = route ∨ prefers (segments route.template) (segments other.template) = true) :
    select buildRouter segments' = some route :=
  hselect.eq_some (listedRoutes_subset hmem) hfits fun other hother hfits' =>
    hbest other (mem_listedRoutes hother hhead hlisted hfits') hfits'

/-- The routes that are taken where both matchers are known to differ, and where nothing
answers a `GET`. -/
def staticRoutes : List (String × Route) :=
  [("/marks/karne", ⟨"/marks/karne", [.get]⟩),
    ("/homework/report/result", ⟨"/homework/report/{user}", [.get]⟩),
    ("/homework/report/submission", ⟨"/homework/report/{user}", [.get]⟩),
    ("/users/me", ⟨"/users/me", [.patch]⟩),
    ("/marks/me", ⟨"/marks/me", [.get]⟩),
    ("/attendance/me", ⟨"/attendance/me", [.get]⟩),
    ("/pomodoro/me", ⟨"/pomodoro/me", [.get]⟩)]

theorem static_checked : (∀ route ∈ listedRoutes, [] ∉ segments route.template) ∧
    ∀ static ∈ staticRoutes, static.2 ∈ listedRoutes ∧
      fits (segments static.2.template) (segments static.1) = true ∧
      (segments static.1).head?.any (fun head => listedHeads.contains head) = true ∧
      ∀ other ∈ listedRoutes, fits (segments other.template) (segments static.1) = true →
        other = static.2 ∨
          prefers (segments static.2.template) (segments other.template) = true := by
  decide

theorem static_taken
    (hselect : PrefersStatic (fun route : Route => segments route.template) select)
    {static : String} {route : Route} (hmem : (static, route) ∈ staticRoutes) :
    select buildRouter (segments static) = some route := by
  obtain ⟨hroute, hfits, hhead, hbest⟩ := static_checked.2 (static, route) hmem
  obtain ⟨head, hfirst, hlisted⟩ := (Option.any_eq_true _ _).mp hhead
  exact taken hselect hroute hfits hfirst (List.contains_iff_mem.mp hlisted) hbest

theorem uncovered_literal : ∀ static ∈ uncovered,
    (∀ s ∈ segments static, isPlaceholder s = false) ∧
      ∃ route, (static, route) ∈ staticRoutes ∧ route.template = static ∧
        route.answersGet = true := by
  intro static hstatic
  refine ⟨?_, ⟨static, [.get]⟩, ?_, rfl, rfl⟩
  · revert static
    decide
  · revert static
    decide

/-- The routes that pair up with a pattern for one path. -/
theorem report_meets : ∀ pattern ∈ ["/homework/{id}/result", "/homework/{id}/submission"],
    ∃ static ∈ shadowed,
      meet (segments pattern) (segments "/homework/report/{user}") = segments static ∧
        ∀ s ∈ segments static, isPlaceholder s = false := by
  decide

theorem karne_literal : ∀ s ∈ segments "/marks/karne", isPlaceholder s = false := by
  decide

/-- The pattern itself competes for its paths. -/
theorem Matched.not_preferred (h : Matched pattern path)
    (hselect : PrefersStatic (fun route : Route => segments route.template) select) {route : Route}
    (hroute : select buildRouter (routed path) = some route)
    (hfits : fits (segments pattern) (routed path) = true) :
    route ∈ listedRoutes ∧ fits (segments route.template) (routed path) = true ∧
      overlaps (segments pattern) (segments route.template) = true ∧
      prefers (segments pattern) (segments route.template) = false := by
  obtain ⟨hmem, hchosen, hbest⟩ := h.chosen hselect hroute
  obtain ⟨-, ⟨own, hown, htemplate, -⟩, -⟩ := listed pattern h.allowed
  refine ⟨hmem, hchosen, overlaps_of_fits hfits hchosen, ?_⟩
  have hnot := hbest own hown (by rwa [htemplate])
  rwa [htemplate] at hnot

theorem Matched.plain_iff (h : Matched pattern path)
    (hselect : PrefersStatic (fun route : Route => segments route.template) select)
    (hplain : routed path = segments path) :
    (∀ route, select buildRouter (routed path) = some route → route.answersGet = true →
      route.template = pattern) ↔
    ∀ static ∈ shadowed, segments path ≠ segments static := by
  constructor
  · intro hnamed static hstatic heq
    rw [hplain, heq] at hnamed
    have hwhole := h.whole
    have hfirst := h.first
    rw [heq] at hwhole hfirst
    simp only [shadowed, List.mem_cons, List.not_mem_nil, or_false] at hstatic
    rcases hstatic with rfl | rfl | rfl
    · have hpattern := hnamed ⟨"/marks/karne", [.get]⟩
        (static_taken hselect (by decide)) rfl
      exact absurd (hpattern ▸ h.allowed) (by decide)
    · have hpattern := hnamed ⟨"/homework/report/{user}", [.get]⟩
        (static_taken hselect (by decide)) rfl
      have hearlier := hfirst "/homework/{id}/result" (by decide) (by decide)
      rw [← hpattern] at hearlier
      exact absurd hearlier (by decide)
    · have hpattern := hnamed ⟨"/homework/report/{user}", [.get]⟩
        (static_taken hselect (by decide)) rfl
      have hearlier := hfirst "/homework/{id}/submission" (by decide) (by decide)
      rw [← hpattern] at hearlier
      exact absurd hearlier (by decide)
  · intro hapart route hroute hget
    have hfits : fits (segments pattern) (routed path) = true := hplain ▸ h.whole
    obtain ⟨hmem, hchosen, hoverlaps, hprefers⟩ := h.not_preferred hselect hroute hfits
    obtain ⟨-, -, hrivals, -⟩ := listed pattern h.allowed
    rw [hplain] at hchosen
    rcases hrivals route hmem hget hoverlaps hprefers with hsame | ⟨hallowed, hearlier⟩ | hkarne |
      ⟨hreport, hpattern⟩
    · exact hsame
    · exact absurd (h.first route.template hallowed hchosen) (Nat.not_le_of_lt hearlier)
    · rw [hkarne] at hchosen
      exact absurd (eq_of_fits karne_literal hchosen) (hapart "/marks/karne" (by decide))
    · obtain ⟨static, hstatic, hmeet, hliteral⟩ := report_meets pattern hpattern
      rw [hreport] at hchosen
      have hboth := fits_meet h.whole hchosen
      rw [hmeet] at hboth
      exact absurd (eq_of_fits hliteral hboth) (hapart static hstatic)

theorem Matched.fragment_iff (h : Matched pattern path)
    (hselect : PrefersStatic (fun route : Route => segments route.template) select)
    (hmark : ∃ segment ∈ segments path, '#' ∈ segment) :
    (∀ route, select buildRouter (routed path) = some route → route.answersGet = true →
      route.template = pattern) ↔
    ((routed path).getLast? = some [] ∨ routed path = segments "/users/me" ∨
      (routed path).length = (segments path).length ∧
        ∀ static ∈ uncovered, routed path ≠ segments static) := by
  obtain ⟨⟨-, hliterals⟩, -, -, hstatic, hstubs⟩ := listed pattern h.allowed
  by_cases hlast : (routed path).getLast? = some []
  · refine iff_of_true ?_ (.inl hlast)
    intro route hroute
    obtain ⟨hmem, hchosen, -⟩ := h.chosen hselect hroute
    exact absurd (nil_mem_of_fits hchosen hlast) (static_checked.1 route hmem)
  by_cases hme : routed path = segments "/users/me"
  · refine iff_of_true ?_ (.inr (.inl hme))
    intro route hroute hget
    have hpatch : select buildRouter (segments "/users/me") = some ⟨"/users/me", [.patch]⟩ :=
      static_taken hselect (by decide)
    rw [hme, hpatch] at hroute
    cases hroute
    cases hget
  obtain ⟨hfits, hplaceholder⟩ := fits_cutAt h.whole hliterals hmark hlast
  change fits ((segments pattern).take (routed path).length) (routed path) = true at hfits
  change ((segments pattern).take (routed path).length).getLast?.any isPlaceholder = true
    at hplaceholder
  have hlength := fits_length h.whole
  by_cases hlong : (routed path).length = (segments path).length
  · rw [hlong, ← hlength, List.take_length] at hfits hplaceholder
    constructor
    · intro hnamed
      refine .inr (.inr ⟨hlong, ?_⟩)
      intro static huncovered heq
      obtain ⟨hliteral, route, hroute, htemplate, hget⟩ := uncovered_literal static huncovered
      have hpattern := hnamed route (heq ▸ static_taken hselect hroute) hget
      rw [htemplate] at hpattern
      obtain ⟨last, hlast', hbrace⟩ := (Option.any_eq_true _ _).mp hplaceholder
      rw [← hpattern] at hlast'
      rw [hliteral last (List.mem_of_getLast? hlast')] at hbrace
      cases hbrace
    · rintro (hempty | hpatch | ⟨-, hapart⟩) route hroute hget
      · exact absurd hempty hlast
      · exact absurd hpatch hme
      · obtain ⟨hmem, hchosen, hoverlaps, hprefers⟩ := h.not_preferred hselect hroute hfits
        rcases hstatic hplaceholder route hmem hget hoverlaps hprefers with hsame | huncovered
        · exact hsame
        · exact absurd (eq_of_fits (uncovered_literal _ huncovered).1 hchosen)
            (hapart _ huncovered)
  · refine iff_of_false ?_ (by simp [hlast, hme, hlong])
    intro hnamed
    have hshort : (routed path).length < (segments pattern).length := by
      have hle : (routed path).length ≤ (segments path).length := cutAt_length_le '#' _
      omega
    obtain ⟨⟨stub, hstub, htemplate⟩, hbeside⟩ := hstubs _ hshort hplaceholder
    cases hroute : select buildRouter (routed path) with
    | none =>
        have hnot := hselect.nothing hroute stub (listedRoutes_subset hstub)
        rw [htemplate, hfits] at hnot
        cases hnot
    | some route =>
        obtain ⟨hmem, hchosen, hbest⟩ := h.chosen hselect hroute
        have hprefers := hbest stub hstub (by rw [htemplate, hfits])
        rw [htemplate] at hprefers
        rcases hbeside route hmem (overlaps_of_fits hfits hchosen) hprefers with hget | hpatch
        · have hsame := fits_length hchosen
          rw [hnamed route hroute hget] at hsame
          omega
        · rw [hpatch] at hchosen
          exact hme (eq_of_fits (by decide) hchosen)

end Chosen

/-- Both matchers work on what follows the slash. -/
theorem Matched.text {path pattern : String} (h : Matched pattern path) :
    ∃ text, path.toList = '/' :: text ∧ segments path = text.splitOn '/' := by
  cases hpath : path.toList with
  | nil =>
      have hslash := h.slash
      rw [hpath] at hslash
      cases hslash
  | cons c text =>
      have hslash := h.slash
      rw [hpath, List.head?_cons, Option.some.injEq] at hslash
      exact ⟨text, by rw [hslash], by rw [segments, hpath, List.drop_one, List.tail_cons]⟩

theorem Matched.chosen_iff {path pattern : String} (h : Matched pattern path)
    {select : List Route → List Segment → Option Route}
    (hselect : PrefersStatic (fun route : Route => segments route.template) select) :
    (∀ route, select buildRouter (routed path) = some route → route.answersGet = true →
      route.template = pattern) ↔ answersAsNamed path = true := by
  obtain ⟨text, hpath, hsegments⟩ := h.text
  unfold answersAsNamed
  by_cases hfragment : '#' ∈ path.toList
  · have hmark : ∃ segment ∈ segments path, '#' ∈ segment := by
      rw [hsegments]
      refine exists_mem_splitOn (by decide) ?_
      rw [hpath] at hfragment
      exact (List.mem_cons.mp hfragment).resolve_left (by decide)
    rw [h.fragment_iff hselect hmark, if_pos hfragment]
    simp only [Bool.or_eq_true, Bool.and_eq_true, List.all_eq_true, decide_eq_true_eq, or_assoc]
  · have hplain : routed path = segments path := by
      have hnone : text.takeWhile (· ≠ '#') = text := by
        rw [List.takeWhile_eq_self_iff]
        intro c hc
        rw [decide_eq_true_eq]
        rintro rfl
        exact hfragment (hpath ▸ List.mem_cons_of_mem _ hc)
      rw [routed, hsegments, ← splitOn_takeWhile (by decide), hnone]
    rw [h.plain_iff hselect hplain, if_neg hfragment]
    simp only [List.all_eq_true, decide_eq_true_eq]

theorem allowed_of_accepted {method : Option String} {path : String}
    (h : refuseBeforeDispatch method path = none) :
    ∃ pattern, routeTemplate path = some pattern := by
  unfold refuseBeforeDispatch at h
  split at h
  · cases h
  · split at h
    · cases h
    · next hallowed =>
      rw [Bool.not_eq_true', Bool.not_eq_false] at hallowed
      exact Option.isSome_iff_exists.mp hallowed

/-- A request that the allowlist accepted ends in the `GET` route whose template was reported,
or in none, exactly where the two matchers agree; so there it ends in a route of the
allowlist. -/
theorem reported_template_is_routed {uri : String → Option String} (huri : ReadsTarget uri)
    {select : List Route → List Segment → Option Route}
    (hselect : PrefersStatic (fun route : Route => segments route.template) select)
    {method : Option String} {path : String} (query : Option String)
    (haccepted : refuseBeforeDispatch method path = none) :
    ((∀ route, dispatched uri select method path query = some route →
        routeTemplate path = some route.template) ↔
      (uri (target path query) = none ∨ answersAsNamed path = true)) ∧
    (answersAsNamed path = true → ∀ route, dispatched uri select method path query = some route →
      route.template ∈ aiApiAllowlist) := by
  obtain ⟨pattern, hpattern⟩ := allowed_of_accepted haccepted
  have hmatched := matched_of_routeTemplate hpattern
  have hchosen := hmatched.chosen_iff hselect
  have hreported : ∀ template, routeTemplate path = some template ↔ template = pattern := by
    intro template
    rw [hpattern, Option.some.injEq]
    exact eq_comm
  have hiff : (∀ route, dispatched uri select method path query = some route →
      route.template = pattern) ↔
      (uri (target path query) = none ∨ answersAsNamed path = true) := by
    simp only [dispatched_eq_some huri haccepted hmatched, and_imp]
    rw [← hchosen]
    cases hread : uri (target path query) with
    | none | some => simp
  refine ⟨?_, ?_⟩
  · simp only [hreported]
    exact hiff
  · intro hagree route hroute
    rw [hiff.mpr (.inr hagree) route hroute]
    exact hmatched.allowed

namespace Sample

def uri (target : String) : Option String :=
  if target.toList.all fun c => c.isAlphanum || "/?#-._~:@!$&'()*+,;=%".toList.contains c then
    some (String.ofList (target.toList.takeWhile fun c => c ≠ '?' && c ≠ '#'))
  else none

theorem uri_reads : ReadsTarget uri where
  path h := by
    unfold uri at h
    split at h
    · cases h
      rw [String.toList_ofList]
    · cases h

def select : List Route → List Segment → Option Route :=
  leastRank fun route => segments route.template

end Sample

theorem reported_template_is_routed_note :
    refuseBeforeDispatch none "/notes/x#y" = none ∧ answersAsNamed "/notes/x#y" = true ∧
      ∀ route, dispatched Sample.uri Sample.select none "/notes/x#y" none = some route →
        routeTemplate "/notes/x#y" = some route.template := by
  have haccepted : refuseBeforeDispatch none "/notes/x#y" = none := by decide
  have hagrees : answersAsNamed "/notes/x#y" = true := by decide
  exact ⟨haccepted, hagrees,
    (reported_template_is_routed Sample.uri_reads (leastRank_prefersStatic _) none
      haccepted).1.mpr (.inr hagrees)⟩

/-- The report card of the caller is behind a static route beside `/marks/{user}`. -/
theorem karne_is_reached :
    routeTemplate "/marks/karne" = some "/marks/{user}" ∧
      dispatched Sample.uri Sample.select none "/marks/karne" none =
        some ⟨"/marks/karne", [.get]⟩ ∧
      "/marks/karne" ∉ aiApiAllowlist := by
  have hreported : routeTemplate "/marks/karne" = some "/marks/{user}" := by decide
  have hrouted : routed "/marks/karne" = segments "/marks/karne" := by decide
  have htaken : Sample.select buildRouter (routed "/marks/karne") =
      some ⟨"/marks/karne", [.get]⟩ :=
    hrouted ▸ static_taken (leastRank_prefersStatic _) (by decide)
  refine ⟨hreported, ?_, by decide⟩
  rw [dispatched_eq_some Sample.uri_reads (by decide)
    (matched_of_routeTemplate hreported)]
  exact ⟨by decide, htaken, rfl⟩

end Hezarfen.AiApi
