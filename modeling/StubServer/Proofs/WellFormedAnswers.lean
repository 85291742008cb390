import StubServer.Proofs.Candidates
import StubServer.Proofs.Restart
import StubServer.Proofs.RoundTrip

/-!
# What valid configurations answer

A response can be picked only if it belongs to a route that is served (`mem_responses_of_dispatch`),
and the routes that are served are always those of a valid configuration (`valid_of_run`). So every
answer has a status from 100 to 599, says what it holds and has a name for each of its headers
(`wellFormed_of_handle`). To the headers of a response that is picked at most the type of the
content is added.
-/

namespace StubServer

namespace Config

/-! ## What is checked -/

theorem validateFrom_eq_ok_iff {α ε δ : Type} {check : α → Except ε Unit} {locate : Nat → ε → δ}
    {index : Nat} {as : List α} :
    validateFrom check locate index as = .ok () ↔ ∀ a ∈ as, check a = .ok () := by
  induction as generalizing index with
  | nil => simp [validateFrom]
  | cons a as ih =>
    rw [validateFrom, List.forall_mem_cons]
    rcases check a with e | ⟨⟩
    · simp
    · simp [ih]

theorem Response.validate_eq_ok_iff {r : Response} :
    r.validate = .ok () ↔ (100 ≤ r.statusCode ∧ r.statusCode ≤ 599) ∧
      ∀ h ∈ r.headers, Text.isAllBlank h.key = false := by
  unfold validate
  split
  · rename_i hstatus
    simp [hstatus]
  · rename_i hstatus
    split <;> simp_all

theorem Route.validate_response {q : Route} (h : q.validate = .ok ()) {r : Response}
    (hr : r ∈ q.responses) : r.validate = .ok () := by
  unfold validate at h
  split at h
  · cases h
  · split at h
    · cases h
    · split at h
      · cases h
      · exact validateFrom_eq_ok_iff.1 h r hr

end Config

namespace Configuration

theorem validateEnvironments_eq_ok_iff {es : List Config.Environment} :
    validateEnvironments es = .ok () ↔ ∀ e ∈ es, ∀ q ∈ e.routes, q.validate = .ok () := by
  induction es with
  | nil => simp [validateEnvironments]
  | cons e es ih =>
    rw [List.forall_mem_cons, ← ih, ← Config.validateFrom_eq_ok_iff, validateEnvironments,
      bind_eq_ok]
    exact ⟨fun ⟨_, he, hes⟩ => ⟨he, hes⟩, fun ⟨he, hes⟩ => ⟨(), he, hes⟩⟩

theorem exists_environment_of_active {c : Configuration} {q : Config.Route}
    (hq : q ∈ c.activeRoutes) : ∃ e ∈ c.environments, q ∈ e.routes := by
  unfold activeRoutes at hq
  rcases he : c.activeEnvironment with _ | e <;> rw [he] at hq
  · cases hq
  · refine ⟨e, ?_, hq⟩
    rw [activeEnvironment, Option.orElse_eq_orElse, Option.orElse_eq_or,
      Option.or_eq_some_iff] at he
    rcases he with hfind | ⟨-, hhead⟩
    · exact List.mem_of_find?_eq_some hfind
    · exact List.mem_of_head? hhead

/-- The responses that a valid configuration serves are valid. -/
theorem validate_response {c : Configuration} (h : c.validate = .ok ()) {q : Config.Route}
    (hq : q ∈ c.activeRoutes) {r : Config.Response} (hr : r ∈ q.responses) :
    r.validate = .ok () := by
  obtain ⟨e, he, hqe⟩ := exists_environment_of_active hq
  unfold validate at h
  dsimp only at h
  split at h
  · cases h
  · exact Config.Route.validate_response (validateEnvironments_eq_ok_iff.1 h e he q hqe) hr

end Configuration

/-! ## What is picked -/

namespace Store

theorem mem_routes_of_firstServing {path : String} {methods : Http.MethodSet}
    {routes : List Config.Route} {found : Found}
    (h : firstServing path methods routes = some found) : found.route ∈ routes := by
  obtain ⟨r, hr, hfound⟩ := List.exists_of_findSome?_eq_some h
  obtain ⟨params, -, rfl⟩ := Option.map_eq_some_iff.1 hfound
  exact hr

end Store

theorem Config.Route.response_mem_of_candidates {r : Config.Route} {input : RuleInput}
    {x : Selected} (h : x ∈ r.candidates input) : x.response ∈ r.responses :=
  List.mem_of_getElem? (Config.Route.mem_candidates_iff.1 h).at_index

namespace Server

/-- A response that is picked belongs to one of the routes. -/
theorem mem_responses_of_dispatch {routes : List Config.Route} {r : Http.Request} {s s' : Store}
    {draws draws' : Draws} {pick : Pick} (hs : Store.Coherent s.matchers)
    (h : dispatch routes r s draws = some ((.ok pick, s'), draws')) :
    ∃ q ∈ routes, pick.response ∈ q.responses := by
  obtain ⟨kept, -, heq⟩ := dispatch_of_coherent hs routes r draws
  rw [heq] at h
  rcases htarget : target? routes r with _ | found <;> rw [htarget] at h
  · cases h
  · obtain ⟨⟨⟨x, t⟩, left⟩, hselect, hx⟩ := Option.map_eq_some_iff.1 h
    rcases x with _ | x
    · cases hx
    · cases hx
      exact ⟨found.route, Store.mem_routes_of_firstServing htarget,
        Config.Route.response_mem_of_candidates (Store.mem_candidates_of_select hselect)⟩

/-! ## What is served -/

/-- A server that is consistent and has a valid configuration. -/
structure Valid (s : Server) : Prop where
  consistent : s.Consistent
  config : s.config.validate = .ok ()

theorem step_valid {s s' : Server} {e : Event} {reply : Reply} (hs : s.Valid)
    (hstep : s.step e = some (reply, s')) : s'.Valid := by
  refine ⟨step_consistent hs.consistent hstep, ?_⟩
  cases steps hstep with
  | answers hhandle => rw [(handle_eq_some hs.consistent hhandle).1, hs.config]
  | refuses _ => exact hs.config
  | takes hvalid => exact hvalid

/-- Whatever comes to a server that starts with a valid configuration, its configuration stays
valid. -/
theorem valid_of_run {config : Configuration} {events : List Event}
    {transcript : List (Event × Reply)} {s : Server} (h : config.validate = .ok ())
    (hrun : (ofConfig config).run events = some (transcript, s)) : s.Valid :=
  run_keeps step_valid events ⟨consistent_ofConfig config, h⟩ hrun

/-- What a server picks for a request is a valid response of its active routes. -/
theorem Valid.of_dispatch {s : Server} (hs : s.Valid) {r : Http.Request} {draws draws' : Draws}
    {pick : Pick} {store : Store}
    (h : dispatch s.routes r s.store draws = some ((.ok pick, store), draws')) :
    (∃ q ∈ s.config.activeRoutes, pick.response ∈ q.responses) ∧
      pick.response.validate = .ok () := by
  obtain ⟨q, hq, hpick⟩ := mem_responses_of_dispatch hs.consistent.coherent h
  rw [hs.consistent.routes] at hq
  exact ⟨⟨q, hq, hpick⟩, Configuration.validate_response hs.config hq hpick⟩

end Server

/-! ## The answers -/

/-- The status is one of the five classes, a header says what the content is, and all headers have
names. -/
structure Http.Response.WellFormed (r : Http.Response) : Prop where
  status : 100 ≤ r.status ∧ r.status ≤ 599
  contentType : ∃ h ∈ r.headers, Text.sameName h.1 "content-type" = true
  names : ∀ h ∈ r.headers, Text.isAllBlank h.1 = false

theorem Text.sameName_contentType : Text.sameName "Content-Type" "content-type" = true := by
  decide

theorem Text.isAllBlank_contentType : Text.isAllBlank "Content-Type" = false := by decide

theorem Http.Response.wellFormed_ofJson {status : Nat} (h : 100 ≤ status ∧ status ≤ 599)
    (body : Json) (tags : List Http.Tag) : (ofJson status body tags).WellFormed where
  status := h
  contentType := ⟨_, List.mem_singleton_self _, Text.sameName_contentType⟩
  names := List.forall_mem_singleton.2 Text.isAllBlank_contentType

namespace Config.Response

theorem wellFormed_build {r : Config.Response} (h : r.validate = .ok ()) (body : RenderedBody)
    (contentType : String) : (r.build body contentType).WellFormed := by
  obtain ⟨hstatus, hkeys⟩ := validate_eq_ok_iff.1 h
  have hnames : ∀ h ∈ r.headers.map fun h => (h.key, h.value), Text.isAllBlank h.1 = false :=
    List.forall_mem_map.2 hkeys
  rw [build_eq]
  refine ⟨hstatus, ?_, ?_⟩ <;> dsimp only [headersWith]
  · split
    · rename_i hfound
      obtain ⟨h, hmem, hname⟩ := List.any_eq_true.1 hfound
      exact ⟨_, List.mem_append_left _ (List.mem_map_of_mem hmem), hname⟩
    · exact ⟨_, List.mem_append_right _ (List.mem_singleton_self _), Text.sameName_contentType⟩
  · split
    · rwa [List.append_nil]
    · exact List.forall_mem_append.2
        ⟨hnames, List.forall_mem_singleton.2 Text.isAllBlank_contentType⟩

/-- A valid response gives well-formed answers, and unless its template failed it gives them its own
headers. -/
theorem wellFormed_answer {r : Config.Response} (h : r.validate = .ok ()) (now : Time.Instant)
    (view : Http.View) (contentType : String) (draws : Draws) :
    (r.answer now view contentType draws).1.WellFormed ∧
      (.templateError ∉ (r.answer now view contentType draws).1.tags →
        (r.answer now view contentType draws).1.headers = r.headersWith contentType) := by
  unfold answer
  rcases r.renderBody now view draws with ⟨e | body, left⟩
  · refine ⟨Http.Response.wellFormed_ofJson (by decide) _ _, fun htags => ?_⟩
    exact absurd (List.mem_cons_of_mem _ (List.mem_singleton_self _)) htags
  · refine ⟨wellFormed_build h body contentType, fun _ => ?_⟩
    exact congrArg Http.Response.headers (build_eq r body contentType)

end Config.Response

namespace Server

/-- Whatever configurations and requests came to a server that started with a loaded configuration,
its next answer is well-formed. If a response is picked for it, that is one of the configuration in
force, and unless its template fails the answer has the headers of the response in their order,
followed by the default type of the content exactly if none of them is named so. -/
theorem wellFormed_of_handle {text : String} {config : Configuration} {events : List Event}
    {transcript : List (Event × Reply)} {s s' : Server} {now : Time.Instant} {r : Http.Request}
    {draws rest : Draws} {answer : Answer} (hload : Configuration.loadJson text = .ok config)
    (hrun : (ofConfig config).run events = some (transcript, s))
    (hhandle : handle now r s draws = some ((answer, s'), rest)) :
    answer.response.WellFormed ∧
      ∀ pick store left, asksForEnvironments r = false →
        dispatch s.routes r s.store draws = some ((.ok pick, store), left) →
          (∃ q ∈ s.config.activeRoutes, pick.response ∈ q.responses) ∧
            (.templateError ∉ answer.response.tags →
              answer.response.headers =
                pick.response.headersWith s.config.settings.defaultContentType) := by
  have hs : s.Valid := valid_of_run (Configuration.loadJson_eq_ok_iff.1 hload).2 hrun
  cases handles hhandle with
  | lists henvironments =>
    refine ⟨Http.Response.wellFormed_ofJson (by decide) _ _, fun _ _ _ henvironments' => ?_⟩
    rw [henvironments] at henvironments'
    cases henvironments'
  | misses _ hdispatch =>
    refine ⟨Http.Response.wellFormed_ofJson (by decide) _ _, fun _ _ _ _ hdispatch' => ?_⟩
    rw [hdispatch] at hdispatch'
    cases hdispatch'
  | @picks pick _ left _ hdispatch =>
    obtain ⟨hmem, hvalid⟩ := hs.of_dispatch hdispatch
    obtain ⟨hanswer, hheaders⟩ := Config.Response.wellFormed_answer hvalid now pick.view
      s.config.settings.defaultContentType left
    refine ⟨hanswer, fun _ _ _ _ hdispatch' => ?_⟩
    rw [hdispatch] at hdispatch'
    cases hdispatch'
    exact ⟨hmem, hheaders⟩

/-- A route whose response sets one header twice and no type of the content. -/
def twiceText : String :=
  "\x7b\"environments\":[\x7b\"routes\":[\x7b\"urlTemplate\":\"/a\",\"httpMethod\":\"GET\"," ++
  "\"responses\":[\x7b\"body\":\"a\",\"headers\":[\x7b\"key\":\"X-A\",\"value\":\"1\"\x7d," ++
  "\x7b\"key\":\"X-A\",\"value\":\"2\"\x7d]\x7d]\x7d]\x7d]\x7d"

theorem twice_wellFormed :
    ∃ config transcript s answer s' rest, Configuration.loadJson twiceText = .ok config ∧
      (ofConfig config).run [.request (visit "/b"), .update ambiguous] = some (transcript, s) ∧
      handle ⟨0, 0, 0⟩ (visit "/a").request s (visit "/a").draws = some ((answer, s'), rest) ∧
      answer.response.WellFormed ∧
      (∃ pick store left, asksForEnvironments (visit "/a").request = false ∧
        dispatch s.routes (visit "/a").request s.store (visit "/a").draws =
          some ((.ok pick, store), left) ∧
        .templateError ∉ answer.response.tags ∧
        ∃ q ∈ s.config.activeRoutes, pick.response ∈ q.responses) ∧
      answer.response.headers =
        [("X-A", "1"), ("X-A", "2"), ("Content-Type", "application/json")] := by
  have hall : ((Configuration.loadJson twiceText).toOption.bind fun config =>
      ((ofConfig config).run [.request (visit "/b"), .update ambiguous]).bind fun x =>
        (handle ⟨0, 0, 0⟩ (visit "/a").request x.2 (visit "/a").draws).bind fun y =>
          (dispatch x.2.routes (visit "/a").request x.2.store (visit "/a").draws).map fun z =>
            (y.1.1.response.tags, y.1.1.response.headers, z.1.1.isOk)) =
      some ([.mocked], [("X-A", "1"), ("X-A", "2"), ("Content-Type", "application/json")],
        true) := by
    decide +kernel
  obtain ⟨config, hconfig, hall⟩ := Option.bind_eq_some_iff.1 hall
  obtain ⟨⟨transcript, s⟩, hrun, hall⟩ := Option.bind_eq_some_iff.1 hall
  obtain ⟨⟨⟨answer, s'⟩, rest⟩, hhandle, hall⟩ := Option.bind_eq_some_iff.1 hall
  obtain ⟨⟨⟨picked, store⟩, left⟩, hdispatch, hall⟩ := Option.map_eq_some_iff.1 hall
  simp only [Prod.mk.injEq] at hall
  obtain ⟨htags, hheaders, hpicked⟩ := hall
  obtain ⟨pick, rfl⟩ := exists_of_isOk hpicked
  have hload : Configuration.loadJson twiceText = .ok config := by
    rcases h : Configuration.loadJson twiceText with e | c <;> rw [h] at hconfig <;> cases hconfig
    rfl
  have henvironments : asksForEnvironments (visit "/a").request = false := by decide
  obtain ⟨hanswer, hpick⟩ := wellFormed_of_handle hload hrun hhandle
  refine ⟨config, transcript, s, answer, s', rest, hload, hrun, hhandle, hanswer, ?_, hheaders⟩
  refine ⟨pick, store, left, henvironments, hdispatch, by simp [htags], ?_⟩
  exact (hpick pick store left henvironments hdispatch).1

end Server

end StubServer
