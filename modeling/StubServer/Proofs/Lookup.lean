import Mathlib.Data.List.Basic
import StubServer.Store.Select

/-!
# Looking routes up

What a store keeps of a template is what reading the template gives, whatever the store went
through (`Reachable.coherent`): look-ups only add to it, in whichever list of routes they look, and
other routes only take from it. So a look-up finds the first route of a list that serves the path,
as if the templates of all routes were read anew (`find_first_serving`).
-/

namespace StubServer

namespace Config.Route

/-- The route is enabled, has a method in common with the set, and its template is well formed and
captures the values from the path. -/
def Serves (r : Config.Route) (path : String) (methods : Http.MethodSet)
    (params : Bindings String) : Prop :=
  r.enabled = true ∧ (∃ m, r.methods.contains m = true ∧ methods.contains m = true) ∧
    ∃ t, Url.Template.read r.urlTemplate = .ok t ∧ t.match? path = some params

/-- The values captured from a path by a route that serves it, its template being read anew. -/
def serve? (r : Config.Route) (path : String) (methods : Http.MethodSet) :
    Option (Bindings String) :=
  if r.enabled && r.methods.intersects methods then
    (Url.Template.read r.urlTemplate).toOption.bind fun t => t.match? path
  else none

theorem serve?_eq_some_iff {r : Config.Route} {path : String} {methods : Http.MethodSet}
    {params : Bindings String} :
    r.serve? path methods = some params ↔ r.Serves path methods params := by
  unfold serve? Serves
  rw [← Http.MethodSet.intersects_iff, ← and_assoc, ← Bool.and_eq_true]
  by_cases hopen : (r.enabled && r.methods.intersects methods) = true
  · rw [if_pos hopen]
    rcases Url.Template.read r.urlTemplate with e | t <;> simp [hopen, Except.toOption]
  · rw [if_neg hopen]
    simp [hopen]

theorem serve?_eq_none_iff {r : Config.Route} {path : String} {methods : Http.MethodSet} :
    r.serve? path methods = none ↔ ∀ params, ¬ r.Serves path methods params := by
  simp only [← serve?_eq_some_iff, Option.eq_none_iff_forall_ne_some, ne_eq]

end Config.Route

namespace Store

open Url (Template)

/-! ## Rooted paths -/

/-- The slash in front of a path makes no difference to what is matched. -/
theorem pathSegments_rooted (path : String) :
    Url.pathSegments (rooted path) = Url.pathSegments path := by
  unfold rooted
  split
  · rfl
  · rename_i hslash
    have hcut : ("/" ++ path).toList.takeWhile (· != '?') =
        '/' :: path.toList.takeWhile (· != '?') := by
      simp [String.toList_append]
    unfold Url.pathSegments
    rw [hcut]
    rcases hcs : path.toList with _ | ⟨c, cs⟩
    · rfl
    · have hc : c ≠ '/' := by
        rintro rfl
        simp [Text.startsWith, Text.after?, hcs] at hslash
      by_cases hq : (c != '?') = true
      · simp [hq, hc]
      · simp [hq]

theorem serve?_rooted (r : Config.Route) (path : String) (methods : Http.MethodSet) :
    r.serve? (rooted path) methods = r.serve? path methods := by
  simp only [Config.Route.serve?, Template.match?, pathSegments_rooted]

/-! ## What is kept of the templates -/

/-- What is kept of a template is what reading it gives. -/
def Coherent (kept : Bindings (Option Template)) : Prop :=
  ∀ template outcome, kept.get? template = some outcome →
    outcome = (Template.read template).toOption

namespace Coherent

variable {kept : Bindings (Option Template)}

theorem empty : Coherent .empty := by
  intro template outcome h
  simp at h

theorem insert (h : Coherent kept) (template : String) :
    Coherent (kept.insert template (Template.read template).toOption) := by
  intro other outcome hother
  rw [Bindings.get?_insert] at hother
  split at hother
  · rename_i heq
    rw [heq]
    exact (Option.some.inj hother).symm
  · exact h other outcome hother

theorem keep (h : Coherent kept) (p : String → Bool) : Coherent (kept.keep p) := by
  intro template outcome hkept
  rw [Bindings.get?_keep] at hkept
  split at hkept
  · exact h template outcome hkept
  · cases hkept

end Coherent

/-! ## Look-ups -/

/-- The first of the routes that serves the path, their templates being read anew. -/
def firstServing (path : String) (methods : Http.MethodSet) (routes : List Config.Route) :
    Option Found :=
  routes.findSome? fun r => (r.serve? path methods).map (Found.mk r)

section Lookup

variable {s : Store} (h : Coherent s.matchers)

include h

/-- A template's outcome does not depend on what is kept, and only what is kept changes. -/
theorem matcher_of_coherent (template : String) :
    ∃ kept, Coherent kept ∧
      matcher template s = ((Template.read template).toOption, { s with matchers := kept }) := by
  rw [matcher_eq]
  rcases hkept : s.matchers.get? template with _ | outcome
  · exact ⟨_, h.insert template, rfl⟩
  · exact ⟨s.matchers, h, by rw [h template outcome hkept]⟩

omit h in
theorem findPath_of_coherent (path : String) (methods : Http.MethodSet) :
    ∀ (routes : List Config.Route) {s : Store}, Coherent s.matchers →
      ∃ kept, Coherent kept ∧ findPath path methods routes s =
        (firstServing path methods routes, { s with matchers := kept })
  | [], s, h => ⟨s.matchers, h, rfl⟩
  | r :: rs, s, h => by
    rw [findPath_cons]
    simp only [firstServing, List.findSome?_cons, Config.Route.serve?]
    split
    · obtain ⟨kept, hkept, hread⟩ := matcher_of_coherent h r.urlTemplate
      rw [hread]
      dsimp only
      rcases hparams : (Template.read r.urlTemplate).toOption.bind fun t => t.match? path with
        _ | params
      · exact findPath_of_coherent path methods rs (s := { s with matchers := kept }) hkept
      · exact ⟨kept, hkept, rfl⟩
    · exact findPath_of_coherent path methods rs h

theorem find_of_coherent (routes : List Config.Route) (path : String)
    (methods : Http.MethodSet) :
    ∃ kept, Coherent kept ∧ find routes path methods s =
      (firstServing path methods routes, { s with matchers := kept }) := by
  have hrooted : firstServing (rooted path) methods routes = firstServing path methods routes := by
    simp only [firstServing, serve?_rooted]
  rw [← hrooted]
  exact findPath_of_coherent (rooted path) methods routes h

end Lookup

/-- A look-up in the store's own routes is one like any other. -/
theorem get?_eq_find (path : String) (methods : Http.MethodSet) (s : Store) :
    get? path methods s = find s.routes path methods s := rfl

/-- Selecting a response changes nothing but the position under the key of a route that is served
in sequence. -/
theorem select_eq_some {r : Config.Route} {input : RuleInput} {s s' : Store}
    {draws draws' : Draws} {x : Option Selected}
    (hselect : select r input s draws = some ((x, s'), draws')) :
    ∃ positions, s' = { s with positions } ∧
      ∀ key, (r.strategy = .sequence → r.key ≠ key) →
        positions.get? key = s.positions.get? key := by
  rcases hr : r.strategy with _ | _ | _
  · rw [select_of_first hr] at hselect
    cases hselect
    exact ⟨s.positions, rfl, fun _ _ => rfl⟩
  · rw [select_of_random hr, Option.map_eq_some_iff] at hselect
    obtain ⟨y, -, hy⟩ := hselect
    cases hy
    exact ⟨s.positions, rfl, fun _ _ => rfl⟩
  · rw [select_of_sequence hr] at hselect
    rcases hc : r.candidates input with _ | ⟨c, cs⟩ <;> rw [hc] at hselect
    · cases hselect
      exact ⟨s.positions, rfl, fun _ _ => rfl⟩
    · rw [nextInSequence_cons] at hselect
      cases hselect
      refine ⟨_, rfl, fun key hkey => ?_⟩
      rw [Bindings.get?_insert, if_neg (hkey rfl).symm]

/-! ## All that a store goes through -/

/-- The stores that come of serving any routes from the start. Look-ups may go through any list of
routes, such as those that the store served before. -/
inductive Reachable : Store → Prop
  | start (routes : List Config.Route) : Reachable (ofRoutes routes)
  | matcher {s : Store} (template : String) (hs : Reachable s) : Reachable (matcher template s).2
  | get {s : Store} (path : String) (methods : Http.MethodSet) (hs : Reachable s) :
      Reachable (get? path methods s).2
  | find {s : Store} (routes : List Config.Route) (path : String) (methods : Http.MethodSet)
      (hs : Reachable s) : Reachable (find routes path methods s).2
  | select {s s' : Store} {r : Config.Route} {input : RuleInput} {draws draws' : Draws}
      {x : Option Selected} (hs : Reachable s)
      (hselect : select r input s draws = some ((x, s'), draws')) : Reachable s'
  | replace {s : Store} (routes : List Config.Route) (hs : Reachable s) :
      Reachable (s.replaceRoutes routes)

theorem Reachable.coherent {s : Store} (hs : Reachable s) : Coherent s.matchers := by
  induction hs with
  | start routes => exact Coherent.empty
  | matcher template _ ih =>
    obtain ⟨kept, hkept, heq⟩ := matcher_of_coherent ih template
    rw [heq]
    exact hkept
  | @get s path methods _ ih =>
    obtain ⟨kept, hkept, heq⟩ := find_of_coherent ih s.routes path methods
    rw [get?_eq_find, heq]
    exact hkept
  | find routes path methods _ ih =>
    obtain ⟨kept, hkept, heq⟩ := find_of_coherent ih routes path methods
    rw [heq]
    exact hkept
  | select _ hselect ih =>
    obtain ⟨positions, rfl, -⟩ := select_eq_some hselect
    exact ih
  | replace routes _ ih => exact ih.keep _

/-- The first of the routes that serves the path was found with the values it captures, or nothing
was, and no route serves the path. -/
def FindsFirst (routes : List Config.Route) (path : String) (methods : Http.MethodSet) :
    Option Found → Prop
  | some found =>
    ∃ before after, routes = before ++ found.route :: after ∧
      found.route.Serves path methods found.params ∧
      ∀ r ∈ before, ∀ params, ¬ r.Serves path methods params
  | none => ∀ r ∈ routes, ∀ params, ¬ r.Serves path methods params

theorem findsFirst_firstServing (routes : List Config.Route) (path : String)
    (methods : Http.MethodSet) :
    FindsFirst routes path methods (firstServing path methods routes) := by
  rcases hfound : firstServing path methods routes with _ | ⟨route, params⟩
  · intro r hr
    rw [firstServing, List.findSome?_eq_none_iff] at hfound
    simpa [Config.Route.serve?_eq_none_iff] using hfound r hr
  · rw [firstServing, List.findSome?_eq_some_iff] at hfound
    obtain ⟨before, r, after, hsplit, hr, hbefore⟩ := hfound
    obtain ⟨params', hserve, heq⟩ := Option.map_eq_some_iff.1 hr
    cases heq
    refine ⟨before, after, hsplit, Config.Route.serve?_eq_some_iff.1 hserve, fun q hq => ?_⟩
    simpa [Config.Route.serve?_eq_none_iff] using hbefore q hq

/-- Whatever a store went through, what it keeps of a template is what reading the template gives,
and a look-up in any routes finds the first one that serves the path. -/
theorem find_first_serving {s : Store} (hs : Reachable s) :
    (∀ template outcome, s.matchers.get? template = some outcome →
      (∀ t, outcome = some t ↔ Template.read template = .ok t) ∧
        (outcome = none ↔ ∃ e, Template.read template = .error e)) ∧
      ∀ (routes : List Config.Route) (path : String) (methods : Http.MethodSet),
        FindsFirst routes path methods (find routes path methods s).1 := by
  refine ⟨fun template outcome hkept => ?_, fun routes path methods => ?_⟩
  · rw [hs.coherent template outcome hkept]
    rcases Template.read template with e | t <;> simp [Except.toOption]
  · obtain ⟨kept, -, heq⟩ := find_of_coherent hs.coherent routes path methods
    rw [heq]
    exact findsFirst_firstServing routes path methods

/-- A broken template before a good one, which differ in their last character. -/
def broken : List Config.Route :=
  [{ urlTemplate := "/a/\x7bid", methods := .ofRequest "GET" },
    { urlTemplate := "/a/\x7bid\x7d", methods := .ofRequest "GET" }]

/-- A store that read both templates, dropped what it kept of the second and is asked for the
routes that it served before. -/
def dropped : Store :=
  (find broken "a/1" (.ofRequest "GET") (ofRoutes broken)).2.replaceRoutes (broken.take 1)

theorem dropped_find_first :
    Reachable dropped ∧ (dropped.matchers.get? "/a/\x7bid").isSome = true ∧
      (((find broken "a/1" (.ofRequest "GET") dropped).1.map fun f => f.route.urlTemplate) =
        some "/a/\x7bid\x7d") ∧
      FindsFirst broken "a/1" (.ofRequest "GET")
        (find broken "a/1" (.ofRequest "GET") dropped).1 := by
  have hs : Reachable dropped := .replace _ (.find broken _ _ (.start broken))
  exact ⟨hs, by decide +kernel, by decide +kernel, (find_first_serving hs).2 _ _ _⟩

end Store

end StubServer
