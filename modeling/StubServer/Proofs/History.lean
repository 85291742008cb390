import StubServer.Proofs.Lookup
import StubServer.Server

/-!
# What a server goes through

Requests and configurations come to a server one after another. Each request brings the time and
the words that may be drawn for it, so that two histories can be compared request by request.
What a server can do with one of them is listed once (`steps`, `handles`).
Whatever a server went through, both copies of its routes are those of its configuration, and what
its store keeps of a template is what reading the template gives (`Reachable.consistent`).
-/

namespace StubServer

namespace Server

/-- A request, the time at which it comes and the words that may be drawn for it. -/
structure Arrival where
  now : Time.Instant
  request : Http.Request
  draws : Draws

inductive Event where
  | request (a : Arrival)
  | update (config : Configuration)

/-- What comes back: an answer and the words that are left after it, or whether the configuration
was taken. -/
inductive Reply where
  | answer (a : Answer) (rest : Draws)
  | configured
  | refused (e : ConfigError)

/-- One event; nothing comes back when a draw accepts none of the words. -/
def step (s : Server) : Event → Option (Reply × Server)
  | .request a => (handle a.now a.request s a.draws).map fun x => (.answer x.1.1 x.2, x.1.2)
  | .update config =>
    match (configure config).run s with
    | .ok () s => some (.configured, s)
    | .error e s => some (.refused e, s)

/-- Events one after another, each with what comes back. -/
def run (s : Server) : List Event → Option (List (Event × Reply) × Server)
  | [] => some ([], s)
  | e :: es =>
    (s.step e).bind fun x => (x.2.run es).map fun y => ((e, x.1) :: y.1, y.2)

/-- The servers that come of serving any configuration from the start. -/
def Reachable (s : Server) : Prop :=
  ∃ config events transcript, (ofConfig config).run events = some (transcript, s)

/-! ## The parts of an answer -/

/-- The answer made of what the routes have for a request. -/
def answerTo (config : Configuration) (now : Time.Instant) (picked : Except String Pick)
    (draws : Draws) : Answer × Draws :=
  match picked with
  | .error message => ({ response := notFound message }, draws)
  | .ok pick =>
    let answer := pick.response.answer now pick.view config.settings.defaultContentType draws
    ({ response := answer.1, delay := pick.response.delay }, answer.2)

/-- The server after an answer made of what the routes have. -/
def counted (s : Server) (picked : Except String Pick) (store : Store) : Server :=
  match picked with
  | .error _ => { s with store, total := s.total + 1, unmatched := s.unmatched + 1 }
  | .ok _ => { s with store, total := s.total + 1, matched := s.matched + 1 }

/-- What the routes have for a request, from the response selected. -/
def pickOf (view : Http.View) : Option Selected → Except String Pick
  | none => .error "No response rules matched"
  | some selected => .ok ⟨selected.response, view⟩

theorem dispatch_eq (routes : List Config.Route) (r : Http.Request) (s : Store) (draws : Draws) :
    dispatch routes r s draws =
      match Store.find routes r.path (.ofRequest r.method) s with
      | (none, t) => some ((.error "No matching route found", t), draws)
      | (some found, t) =>
        (Store.select found.route (inputOf (r.view found.params)) t draws).map fun x =>
          ((pickOf (r.view found.params) x.1.1, x.1.2), x.2) := by
  unfold dispatch
  simp only [bind, StateT.bind, pure]
  rcases Store.find routes r.path (.ofRequest r.method) s with ⟨_ | found, t⟩
  · rfl
  · change (Store.select found.route (inputOf (r.view found.params)) t draws).bind _ = _
    dsimp only
    rcases Store.select found.route (inputOf (r.view found.params)) t draws with
      _ | ⟨⟨_ | selected, u⟩, d⟩ <;> rfl

theorem handle_eq (now : Time.Instant) (r : Http.Request) (s : Server) (draws : Draws) :
    handle now r s draws =
      if asksForEnvironments r then
        some (({ response := s.environmentsResponse }, { s with total := s.total + 1 }), draws)
      else
        (dispatch s.routes r s.store draws).map fun x =>
          (((answerTo s.config now x.1.1 x.2).1, s.counted x.1.1 x.1.2),
            (answerTo s.config now x.1.1 x.2).2) := by
  unfold handle
  dsimp only
  split
  · rfl
  · simp only [bind, StateT.bind]
    rcases dispatch s.routes r s.store draws with _ | ⟨⟨_ | pick, t⟩, d⟩ <;> rfl

/-- The ways in which a server answers a request: it lists its environments, the routes have nothing
for the request, or a response of them was picked. -/
inductive Handles (s : Server) (now : Time.Instant) (r : Http.Request) (draws : Draws) :
    Answer → Server → Draws → Prop
  | lists (henvironments : asksForEnvironments r = true) :
      Handles s now r draws { response := s.environmentsResponse } { s with total := s.total + 1 }
        draws
  | misses {message : String} {store : Store} {rest : Draws}
      (henvironments : asksForEnvironments r = false)
      (hdispatch : dispatch s.routes r s.store draws = some ((.error message, store), rest)) :
      Handles s now r draws { response := notFound message }
        { s with store, total := s.total + 1, unmatched := s.unmatched + 1 } rest
  | picks {pick : Pick} {store : Store} {left : Draws}
      (henvironments : asksForEnvironments r = false)
      (hdispatch : dispatch s.routes r s.store draws = some ((.ok pick, store), left)) :
      Handles s now r draws (answerTo s.config now (.ok pick) left).1
        { s with store, total := s.total + 1, matched := s.matched + 1 }
        (answerTo s.config now (.ok pick) left).2

theorem handles {now : Time.Instant} {r : Http.Request} {s s' : Server} {draws rest : Draws}
    {answer : Answer} (h : handle now r s draws = some ((answer, s'), rest)) :
    s.Handles now r draws answer s' rest := by
  rw [handle_eq] at h
  split at h
  · rename_i henvironments
    cases h
    exact .lists henvironments
  · rename_i henvironments
    obtain ⟨⟨⟨picked, store⟩, left⟩, hdispatch, hx⟩ := Option.map_eq_some_iff.1 h
    cases hx
    cases picked with
    | error message => exact .misses (by simpa using henvironments) hdispatch
    | ok pick => exact .picks (by simpa using henvironments) hdispatch

/-! ## What a request changes -/

/-- The route that a request is dispatched to, its template being read anew, with the values
captured. -/
def target? (routes : List Config.Route) (r : Http.Request) : Option Found :=
  Store.firstServing r.path (.ofRequest r.method) routes

/-- The request is dispatched to a route that is served in sequence and counts under the key. -/
def Counts (routes : List Config.Route) (r : Http.Request) (key : String) : Prop :=
  ∃ found, target? routes r = some found ∧ found.route.strategy = .sequence ∧
    found.route.key = key

theorem dispatch_of_coherent {s : Store} (hs : Store.Coherent s.matchers)
    (routes : List Config.Route) (r : Http.Request) (draws : Draws) :
    ∃ kept, Store.Coherent kept ∧ dispatch routes r s draws =
      match target? routes r with
      | none => some ((.error "No matching route found", { s with matchers := kept }), draws)
      | some found =>
        (Store.select found.route (inputOf (r.view found.params)) { s with matchers := kept }
          draws).map fun x => ((pickOf (r.view found.params) x.1.1, x.1.2), x.2) := by
  obtain ⟨kept, hkept, hfind⟩ := Store.find_of_coherent hs routes r.path (.ofRequest r.method)
  refine ⟨kept, hkept, ?_⟩
  rw [dispatch_eq, hfind, target?]
  cases Store.firstServing r.path (.ofRequest r.method) routes <;> rfl

theorem dispatch_eq_some {routes : List Config.Route} {r : Http.Request} {s s' : Store}
    {draws draws' : Draws} {picked : Except String Pick} (hs : Store.Coherent s.matchers)
    (hdispatch : dispatch routes r s draws = some ((picked, s'), draws')) :
    Store.Coherent s'.matchers ∧ s'.routes = s.routes ∧
      ∀ key, ¬ Counts routes r key → s'.positions.get? key = s.positions.get? key := by
  obtain ⟨kept, hkept, heq⟩ := dispatch_of_coherent hs routes r draws
  rw [heq] at hdispatch
  rcases htarget : target? routes r with _ | found <;> rw [htarget] at hdispatch
  · cases hdispatch
    exact ⟨hkept, rfl, fun _ _ => rfl⟩
  · obtain ⟨⟨⟨x, t⟩, d⟩, hselect, hx⟩ := Option.map_eq_some_iff.1 hdispatch
    cases hx
    obtain ⟨positions, rfl, hpositions⟩ := Store.select_eq_some hselect
    refine ⟨hkept, rfl, fun key hkey => hpositions key fun hr hk => ?_⟩
    exact hkey ⟨found, htarget, hr, hk⟩

/-- Both copies of the routes are those of the configuration, and what is kept of a template is
what reading it gives. -/
structure Consistent (s : Server) : Prop where
  routes : s.routes = s.config.activeRoutes
  stored : s.store.routes = s.config.activeRoutes
  coherent : Store.Coherent s.store.matchers

theorem consistent_ofConfig (config : Configuration) : (ofConfig config).Consistent :=
  ⟨rfl, rfl, Store.Coherent.empty⟩

/-- Answering a request keeps the configuration and the routes, and counts under no other key than
that of the route that the request is dispatched to. -/
theorem handle_eq_some {now : Time.Instant} {r : Http.Request} {s s' : Server}
    {draws draws' : Draws} {answer : Answer} (hs : s.Consistent)
    (hhandle : handle now r s draws = some ((answer, s'), draws')) :
    s'.config = s.config ∧ s'.Consistent ∧
      ∀ key, ¬ (asksForEnvironments r = false ∧ Counts s.config.activeRoutes r key) →
        s'.store.positions.get? key = s.store.positions.get? key := by
  cases handles hhandle with
  | lists _ => exact ⟨rfl, ⟨hs.routes, hs.stored, hs.coherent⟩, fun _ _ => rfl⟩
  | misses henvironments hdispatch =>
    obtain ⟨hcoherent, hroutes, hpositions⟩ := dispatch_eq_some hs.coherent hdispatch
    refine ⟨rfl, ⟨hs.routes, hroutes.trans hs.stored, hcoherent⟩, fun key hkey => ?_⟩
    exact hpositions key fun hcounts => hkey ⟨henvironments, hs.routes ▸ hcounts⟩
  | picks henvironments hdispatch =>
    obtain ⟨hcoherent, hroutes, hpositions⟩ := dispatch_eq_some hs.coherent hdispatch
    refine ⟨rfl, ⟨hs.routes, hroutes.trans hs.stored, hcoherent⟩, fun key hkey => ?_⟩
    exact hpositions key fun hcounts => hkey ⟨henvironments, hs.routes ▸ hcounts⟩

theorem configure_of_error {config : Configuration} {e : ConfigError}
    (h : config.validate = .error e) (s : Server) : (configure config).run s = .error e s := by
  unfold configure
  rw [h]
  rfl

theorem configure_of_ok {config : Configuration} (h : config.validate = .ok ()) (s : Server) :
    (configure config).run s = .ok ()
      { s with
        config
        routes := config.activeRoutes
        store := s.store.replaceRoutes config.activeRoutes } := by
  unfold configure
  rw [h]
  rfl

/-- The ways in which something comes to a server: it answers a request, or refuses or takes a
configuration. -/
inductive Steps (s : Server) : Event → Reply → Server → Prop
  | answers {a : Arrival} {answer : Answer} {s' : Server} {rest : Draws}
      (hhandle : handle a.now a.request s a.draws = some ((answer, s'), rest)) :
      Steps s (.request a) (.answer answer rest) s'
  | refuses {config : Configuration} {e : ConfigError} (hvalid : config.validate = .error e) :
      Steps s (.update config) (.refused e) s
  | takes {config : Configuration} (hvalid : config.validate = .ok ()) :
      Steps s (.update config) .configured
        { s with
          config
          routes := config.activeRoutes
          store := s.store.replaceRoutes config.activeRoutes }

theorem steps {s s' : Server} {e : Event} {reply : Reply} (h : s.step e = some (reply, s')) :
    s.Steps e reply s' := by
  cases e with
  | request a =>
    obtain ⟨⟨⟨answer, t⟩, rest⟩, hhandle, hx⟩ := Option.map_eq_some_iff.1 h
    cases hx
    exact .answers hhandle
  | update config =>
    dsimp only [step] at h
    rcases hvalid : config.validate with e | ⟨⟩
    · rw [configure_of_error hvalid] at h
      cases h
      exact .refuses hvalid
    · rw [configure_of_ok hvalid] at h
      cases h
      exact .takes hvalid

theorem step_request_eq_some {s s' : Server} {a : Arrival} {reply : Reply} (hs : s.Consistent)
    (hstep : s.step (.request a) = some (reply, s')) :
    s'.config = s.config ∧ s'.Consistent ∧
      ∀ key, ¬ (asksForEnvironments a.request = false ∧
          Counts s.config.activeRoutes a.request key) →
        s'.store.positions.get? key = s.store.positions.get? key := by
  cases steps hstep with
  | answers hhandle => exact handle_eq_some hs hhandle

theorem step_consistent {s s' : Server} {e : Event} {reply : Reply} (hs : s.Consistent)
    (hstep : s.step e = some (reply, s')) : s'.Consistent := by
  cases steps hstep with
  | answers hhandle => exact (handle_eq_some hs hhandle).2.1
  | refuses _ => exact hs
  | takes _ => exact ⟨rfl, rfl, hs.coherent.keep _⟩

theorem run_cons_eq_some {s s' : Server} {e : Event} {es : List Event}
    {transcript : List (Event × Reply)} :
    s.run (e :: es) = some (transcript, s') ↔
      ∃ reply t rest, s.step e = some (reply, t) ∧ t.run es = some (rest, s') ∧
        transcript = (e, reply) :: rest := by
  simp only [run, Option.bind_eq_some_iff, Option.map_eq_some_iff, Prod.exists, Prod.mk.injEq]
  constructor
  · rintro ⟨reply, t, hstep, rest, u, hrun, rfl, rfl⟩
    exact ⟨reply, t, rest, hstep, hrun, rfl⟩
  · rintro ⟨reply, t, rest, hstep, hrun, rfl⟩
    exact ⟨reply, t, hstep, rest, s', hrun, rfl, rfl⟩

theorem map_fst_run_cons (s : Server) (e : Event) (es : List Event) :
    (s.run (e :: es)).map Prod.fst =
      (s.step e).bind fun x => ((x.2.run es).map Prod.fst).map ((e, x.1) :: ·) := by
  rw [run]
  rcases s.step e with _ | ⟨reply, t⟩
  · rfl
  · simp only [Option.bind_some, Option.map_map]
    rfl

/-- What each step keeps, a run keeps. -/
theorem run_keeps {P : Server → Prop}
    (hP : ∀ {s t : Server} {e : Event} {reply : Reply}, P s → s.step e = some (reply, t) → P t) :
    ∀ (es : List Event) {s s' : Server} {transcript : List (Event × Reply)}, P s →
      s.run es = some (transcript, s') → P s'
  | [], s, s', _, hs, hrun => by
    cases hrun
    exact hs
  | e :: es, s, s', _, hs, hrun => by
    obtain ⟨reply, t, rest, hstep, hrest, -⟩ := run_cons_eq_some.1 hrun
    exact run_keeps hP es (hP hs hstep) hrest

theorem Reachable.consistent {s : Server} (hs : s.Reachable) : s.Consistent := by
  obtain ⟨config, events, transcript, hrun⟩ := hs
  exact run_keeps step_consistent events (consistent_ofConfig config) hrun

end Server

end StubServer
