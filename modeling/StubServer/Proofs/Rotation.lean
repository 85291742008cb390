import StubServer.Proofs.Restart

/-!
# Routes that go through their responses in sequence

The count that tells which response is next is kept under a route's key. What a route answers does
not depend on the requests that go to other routes as long as no other route counts under its key
(`unaffected_of_not_sharesCount`). Routes without identifiers never disturb each other: keys made
of methods and a template are the same only if these are (`methods_eq_of_key_eq`), and of two
such routes the later one is never reached. An identifier may be the key of another route, though;
nothing keeps a configuration with such identifiers from being valid (`crossed_affects`).
-/

namespace StubServer

/-! ## Keys -/

/-- What is written of a set of methods, up to the blank behind it, is the beginning of no other. -/
theorem Http.MethodSet.eq_of_describe_prefix {m n : MethodSet}
    (h : m.describe.toList ++ [' '] <+: n.describe.toList ++ [' ']) : m = n := by
  have hall : ∀ get post put delete patch get' post' put' delete' patch' : Bool,
      (describe ⟨get, post, put, delete, patch⟩).toList ++ [' '] <+:
          (describe ⟨get', post', put', delete', patch'⟩).toList ++ [' '] →
        (⟨get, post, put, delete, patch⟩ : MethodSet) = ⟨get', post', put', delete', patch'⟩ := by
    decide +kernel
  exact hall _ _ _ _ _ _ _ _ _ _ h

namespace Config.Route

variable {q r : Config.Route}

theorem toList_key (h : r.id = none) :
    r.key.toList = (r.methods.describe.toList ++ [' ']) ++ r.urlTemplate.toList := by
  simp [key, h, toString, String.toList_append]

theorem methods_eq_of_key_eq (hq : q.id = none) (hr : r.id = none) (hkey : q.key = r.key) :
    q.methods = r.methods ∧ q.urlTemplate = r.urlTemplate := by
  have htext := congrArg String.toList hkey
  rw [toList_key hq, toList_key hr] at htext
  have hprefix := List.prefix_append (q.methods.describe.toList ++ [' ']) q.urlTemplate.toList
  rw [htext] at hprefix
  have hmethods : q.methods = r.methods := by
    rcases List.prefix_or_prefix_of_prefix hprefix (List.prefix_append _ _) with h | h
    · exact Http.MethodSet.eq_of_describe_prefix h
    · exact (Http.MethodSet.eq_of_describe_prefix h).symm
  rw [hmethods] at htext
  exact ⟨hmethods, String.toList_injective (List.append_cancel_left htext)⟩

/-- Of two routes without identifiers that have the same key both serve a path or neither does. -/
theorem serve?_eq_of_key_eq (hq : q.id = none) (hr : r.id = none) (hkey : q.key = r.key)
    (henabled : q.enabled = r.enabled) : q.serve? = r.serve? := by
  obtain ⟨hmethods, htemplate⟩ := methods_eq_of_key_eq hq hr hkey
  funext path methods
  simp only [serve?, henabled, hmethods, htemplate]

end Config.Route

namespace Server

/-! ## Where requests go -/

/-- The index of the route that a request is dispatched to. -/
def routeOf? (routes : List Config.Route) (r : Http.Request) : Option Nat :=
  if asksForEnvironments r then none
  else routes.findIdx? fun q => (q.serve? r.path (.ofRequest r.method)).isSome

/-- The route at the index is the first one that serves the request. -/
structure Dispatches (routes : List Config.Route) (r : Http.Request) (i : Nat)
    (found : Found) : Prop where
  unlisted : asksForEnvironments r = false
  at_index : routes[i]? = some found.route
  serves : found.route.serve? r.path (.ofRequest r.method) = some found.params
  before : ∀ j < i, ∀ q, routes[j]? = some q → q.serve? r.path (.ofRequest r.method) = none

section RouteOf

variable {routes : List Config.Route} {r : Http.Request} {i j : Nat}

theorem routeOf?_eq_some (h : routeOf? routes r = some i) :
    ∃ found, Dispatches routes r i found := by
  unfold routeOf? at h
  split at h
  · cases h
  · rename_i henvironments
    obtain ⟨hi, hserves, hbefore⟩ := List.findIdx?_eq_some_iff_getElem.1 h
    obtain ⟨params, hparams⟩ := Option.isSome_iff_exists.1 hserves
    refine ⟨⟨routes[i], params⟩, by simpa using henvironments, List.getElem?_eq_getElem hi,
      hparams, fun j hj q hq => ?_⟩
    obtain ⟨hlt, rfl⟩ := List.getElem?_eq_some_iff.1 hq
    simpa using hbefore j hj

theorem Dispatches.target? {found : Found} (h : Dispatches routes r i found) :
    target? routes r = some found := by
  obtain ⟨hi, hroute⟩ := List.getElem?_eq_some_iff.1 h.at_index
  refine List.findSome?_eq_some_iff.2 ⟨routes.take i, found.route, routes.drop (i + 1), ?_, ?_, ?_⟩
  · rw [← hroute, List.getElem_cons_drop, List.take_append_drop]
  · rw [h.serves]
    rfl
  · intro q hq
    obtain ⟨j, hj, rfl⟩ := List.mem_take_iff_getElem.1 hq
    rw [h.before j (by omega) _ (List.getElem?_eq_getElem (by omega))]
    rfl

/-- Of routes that serve the same paths the first one hides the others. -/
theorem Dispatches.index_eq {q : Http.Request} {x y : Found} (hx : Dispatches routes r i x)
    (hy : Dispatches routes q j y) (hserve : x.route.serve? = y.route.serve?) : i = j := by
  rcases Nat.lt_trichotomy i j with hlt | heq | hlt
  · have hnone := hy.before i hlt _ hx.at_index
    rw [hserve, hy.serves] at hnone
    cases hnone
  · exact heq
  · have hnone := hx.before j hlt _ hy.at_index
    rw [← hserve, hx.serves] at hnone
    cases hnone

theorem target?_of_routeOf?_eq_none (h : routeOf? routes r = none)
    (henvironments : asksForEnvironments r = false) : target? routes r = none := by
  rw [routeOf?, henvironments, if_neg (by decide), List.findIdx?_eq_none_iff] at h
  refine List.findSome?_eq_none_iff.2 fun q hq => ?_
  rw [Option.map_eq_none_iff]
  simpa using h q hq

end RouteOf

/-! ## Counts that are shared -/

/-- The route at the index counts under the key when it answers some request. -/
def CountsFor (routes : List Config.Route) (i : Nat) (key : String) : Prop :=
  ∃ r, routeOf? routes r = some i ∧ Counts routes r key

/-- Another route that can be reached is served in sequence like the one at the index, has the same
key, and one of the two got it from its identifier. -/
def SharesCount (routes : List Config.Route) (i : Nat) : Prop :=
  ∃ j q r, j ≠ i ∧ routes[i]? = some r ∧ routes[j]? = some q ∧
    (r.enabled = true ∧ r.strategy = .sequence) ∧ (q.enabled = true ∧ q.strategy = .sequence) ∧
    q.key = r.key ∧ (q.id.isSome = true ∨ r.id.isSome = true)

theorem exists_of_counts {routes : List Config.Route} {i : Nat} {key : String}
    {r : Http.Request} (hr : routeOf? routes r = some i) (hcounts : Counts routes r key) :
    ∃ found, Dispatches routes r i found ∧ found.route.enabled = true ∧
      found.route.strategy = .sequence ∧ found.route.key = key := by
  obtain ⟨found, hfound, hsequence, hkey⟩ := hcounts
  obtain ⟨x, hx⟩ := routeOf?_eq_some hr
  obtain rfl : x = found := Option.some.inj (hx.target?.symm.trans hfound)
  exact ⟨x, hx, (Config.Route.serve?_eq_some_iff.1 hx.serves).1, hsequence, hkey⟩

/-- A request to another route is not counted where the route counts. -/
theorem not_counts_of_countsFor {routes : List Config.Route} {i j : Nat}
    (hshare : ¬ SharesCount routes i) {key : String} (hcounts : CountsFor routes i key)
    {q : Http.Request} (hq : routeOf? routes q = some j) (hij : j ≠ i) : ¬ Counts routes q key := by
  intro hother
  obtain ⟨r, hr, hcounts⟩ := hcounts
  obtain ⟨x, hx, henabled, hsequence, hkey⟩ := exists_of_counts hr hcounts
  obtain ⟨y, hy, henabled', hsequence', hkey'⟩ := exists_of_counts hq hother
  have hkeys : y.route.key = x.route.key := hkey'.trans hkey.symm
  by_cases hid : y.route.id.isSome = true ∨ x.route.id.isSome = true
  · exact hshare ⟨j, y.route, x.route, hij, hx.at_index, hy.at_index, ⟨henabled, hsequence⟩,
      ⟨henabled', hsequence'⟩, hkeys, hid⟩
  · -- Both keys are made of methods and templates, so whichever route is first hides the other.
    obtain ⟨hy', hx'⟩ : y.route.id = none ∧ x.route.id = none := by simpa using hid
    exact hij (hy.index_eq hx
      (Config.Route.serve?_eq_of_key_eq hy' hx' hkeys (henabled'.trans henabled.symm)))

/-! ## Runs without the requests to other routes -/

/-- The request is dispatched to no other route than the one at the index. -/
def concerns (routes : List Config.Route) (i : Nat) (a : Arrival) : Bool :=
  (routeOf? routes a.request).all (· == i)

/-- What the route at the index answered. -/
def answersOf (routes : List Config.Route) (i : Nat) (transcript : List (Event × Reply)) :
    List (Event × Reply) :=
  transcript.filter fun x =>
    match x.1 with
    | .request a => routeOf? routes a.request == some i
    | .update _ => false

/-- Requests are answered by the route at the index as if those that other routes answer had never
come. -/
def Unaffected (s : Server) (i : Nat) (arrivals : List Arrival) : Prop :=
  ∀ transcript s', s.run (arrivals.map .request) = some (transcript, s') →
    ∃ transcript' t',
      s.run ((arrivals.filter (concerns s.config.activeRoutes i)).map .request) =
        some (transcript', t') ∧
      answersOf s.config.activeRoutes i transcript' =
        answersOf s.config.activeRoutes i transcript

section Runs

variable {routes : List Config.Route} {i : Nat} {s s' t : Server} {a : Arrival} {reply : Reply}

theorem exists_of_concerns_eq_false (ha : concerns routes i a = false) :
    ∃ j, routeOf? routes a.request = some j ∧ j ≠ i := by
  rcases hroute : routeOf? routes a.request with _ | j
  · simp [concerns, hroute] at ha
  · exact ⟨j, rfl, by simpa [concerns, hroute] using ha⟩

theorem answersOf_cons (x : Event × Reply) (transcript : List (Event × Reply)) :
    answersOf routes i (x :: transcript) = answersOf routes i [x] ++ answersOf routes i transcript :=
  List.filter_append [x] transcript

theorem answersOf_of_not_concerns (ha : concerns routes i a = false) :
    answersOf routes i [(.request a, reply)] = [] := by
  obtain ⟨j, hroute, hij⟩ := exists_of_concerns_eq_false ha
  simp [answersOf, hroute, hij]

/-- A request that concerns the route counts under no other key than those that matter to it. -/
theorem countsFor_of_concerns (ha : concerns routes i a = true)
    (henvironments : asksForEnvironments a.request = false) {key : String}
    (hcounts : Counts routes a.request key) : CountsFor routes i key := by
  rcases hroute : routeOf? routes a.request with _ | j
  · obtain ⟨found, hfound, -⟩ := hcounts
    rw [target?_of_routeOf?_eq_none hroute henvironments] at hfound
    cases hfound
  · obtain rfl : j = i := by simpa [concerns, hroute] using ha
    exact ⟨a.request, hroute, hcounts⟩

/-- A request to another route changes none of the counts that matter to the route. -/
theorem Agree.of_not_concerns (hshare : ¬ SharesCount routes i)
    (hroutes : s.config.activeRoutes = routes) (h : Agree (CountsFor routes i) s t)
    (hstep : s.step (.request a) = some (reply, s')) (ha : concerns routes i a = false) :
    Agree (CountsFor routes i) s' t := by
  obtain ⟨j, hroute, hij⟩ := exists_of_concerns_eq_false ha
  obtain ⟨hconfig, hconsistent, hpositions⟩ := step_request_eq_some h.left hstep
  rw [hroutes] at hpositions
  refine ⟨hconfig.trans h.config, fun key hkey => ?_, hconsistent, h.right⟩
  rw [hpositions key fun hother => not_counts_of_countsFor hshare hkey hroute hij hother.2]
  exact h.positions key hkey

/-- Requests that concern the route are answered alike by servers that agree on its counts, when
one of the servers leaves out those that go to other routes. -/
theorem run_filter_concerns (hshare : ¬ SharesCount routes i) :
    ∀ (arrivals : List Arrival) {s s' t : Server} {transcript : List (Event × Reply)},
      s.config.activeRoutes = routes → Agree (CountsFor routes i) s t →
      s.run (arrivals.map .request) = some (transcript, s') →
      ∃ transcript' t',
        t.run ((arrivals.filter (concerns routes i)).map .request) = some (transcript', t') ∧
        answersOf routes i transcript' = answersOf routes i transcript
  | [], s, s', t, transcript, _, _, hrun => by
    cases hrun
    exact ⟨[], t, rfl, rfl⟩
  | a :: arrivals, s, s', t, _, hroutes, h, hrun => by
    obtain ⟨reply, u, rest, hstep, hrest, rfl⟩ := run_cons_eq_some.1 hrun
    have hconfig := (step_request_eq_some h.left hstep).1
    have hroutes' : u.config.activeRoutes = routes := by rw [hconfig, hroutes]
    rcases ha : concerns routes i a with _ | _
    · obtain ⟨transcript', t', hrun', hanswers⟩ := run_filter_concerns hshare arrivals hroutes'
        (h.of_not_concerns hshare hroutes hstep ha) hrest
      refine ⟨transcript', t', ?_, ?_⟩
      · rwa [List.filter_cons_of_neg (by simp [ha])]
      · rw [answersOf_cons, answersOf_of_not_concerns ha, List.nil_append, hanswers]
    · have hrel := step_agree h (.request a) fun b hb henvironments key hcounts => by
        cases hb
        rw [hroutes] at hcounts
        exact countsFor_of_concerns ha henvironments hcounts
      rw [hstep] at hrel
      rcases hstep' : t.step (.request a) with _ | ⟨reply', u'⟩ <;> rw [hstep'] at hrel <;>
        cases hrel
      rename_i hxy
      obtain ⟨rfl, hagree⟩ := hxy
      obtain ⟨transcript', t', hrun', hanswers⟩ := run_filter_concerns hshare arrivals hroutes'
        hagree hrest
      refine ⟨(.request a, reply) :: transcript', t', ?_, ?_⟩
      · rw [List.filter_cons_of_pos ha]
        exact run_cons_eq_some.2 ⟨reply, u', transcript', hstep', hrun', rfl⟩
      · rw [answersOf_cons, answersOf_cons _ rest, hanswers]

end Runs

/-- A route answers requests as if those to other routes had never come, whatever the server went
through before, unless another route shares its count. -/
theorem unaffected_of_not_sharesCount {s : Server} (hs : s.Reachable) {i : Nat}
    (hshare : ¬ SharesCount s.config.activeRoutes i) (arrivals : List Arrival) :
    s.Unaffected i arrivals := fun _ _ hrun =>
  run_filter_concerns hshare arrivals rfl ⟨rfl, fun _ _ => rfl, hs.consistent, hs.consistent⟩ hrun

/-- Two routes that go through two responses each; the first of them has an identifier. -/
def paired (id : String) : Configuration where
  environments :=
    [{ routes :=
        [{ id
           urlTemplate := "/a"
           methods := .ofRequest "GET"
           responses := [{ body := "a1" }, { body := "a2" }]
           strategy := .sequence },
          { urlTemplate := "/b"
            methods := .ofRequest "GET"
            responses := [{ body := "b1" }, { body := "b2" }]
            strategy := .sequence }] }]

theorem paired_unaffected :
    (ofConfig (paired "first")).Reachable ∧ ¬ SharesCount (paired "first").activeRoutes 1 ∧
      ((ofConfig (paired "first")).run
        ([visit "/a", visit "/b", visit "/b"].map .request)).isSome = true ∧
      (ofConfig (paired "first")).Unaffected 1 [visit "/a", visit "/b", visit "/b"] := by
  have hs : (ofConfig (paired "first")).Reachable := ⟨_, [], [], rfl⟩
  have hshare : ¬ SharesCount (paired "first").activeRoutes 1 := by
    rintro ⟨j, q, r, hj, hr, hq, -, -, hkey, -⟩
    obtain rfl := Option.some.inj hr
    match j, hj, hq with
    | 0, _, hq =>
      obtain rfl := Option.some.inj hq
      revert hkey
      decide +kernel
    | 1, hj, _ => exact hj rfl
  exact ⟨hs, hshare, by decide +kernel, unaffected_of_not_sharesCount hs hshare _⟩

def Reply.body? : Reply → Option String
  | .answer a _ => some a.response.body
  | _ => none

/-- The bodies with which the route at the index answered in a run. -/
def bodiesOf (routes : List Config.Route) (i : Nat)
    (outcome : Option (List (Event × Reply) × Server)) : Option (List (Option String)) :=
  outcome.map fun x => (answersOf routes i x.1).map fun y => y.2.body?

/-- A server on which the identifier of one route is the key that another gets from its method and
template. -/
def crossed : Server := ofConfig (paired "GET /b")

/-- The configuration is valid, and a request to the one route moves the other on. -/
theorem crossed_affects :
    crossed.config.validate = .ok () ∧
      (crossed.config.activeRoutes[1]?.map fun r => r.strategy) = some .sequence ∧
      ¬ crossed.Unaffected 1 [visit "/a", visit "/b"] := by
  have hboth : bodiesOf crossed.config.activeRoutes 1
      (crossed.run ([visit "/a", visit "/b"].map .request)) = some [some "b2"] := by
    decide +kernel
  have halone : bodiesOf crossed.config.activeRoutes 1
      (crossed.run (([visit "/a", visit "/b"].filter
        (concerns crossed.config.activeRoutes 1)).map .request)) = some [some "b1"] := by
    decide +kernel
  refine ⟨by decide +kernel, by decide +kernel, fun hunaffected => ?_⟩
  obtain ⟨⟨transcript, s⟩, hrun, -⟩ := Option.map_eq_some_iff.1 hboth
  obtain ⟨transcript', t, hrun', hanswers⟩ := hunaffected transcript s hrun
  rw [hrun, bodiesOf, Option.map_some, ← hanswers] at hboth
  rw [hrun', bodiesOf, Option.map_some, hboth] at halone
  exact absurd halone (by decide)

end Server

end StubServer
