import StubServer.Proofs.History
import StubServer.Proofs.Matching

/-!
# What rules and templates see of a request

Rules read the maps of a request under names that they bring into form themselves, templates call
functions on a view. Views that are built from a request, as all are with which requests are
dispatched (`Server.built_view_of_target?`), have their header names in lower case and no name twice
(`Http.View.Built.tidy`). So both look up the same value, and what is missing is the empty text for
both. They differ in one point only: a rule on a route parameter that is missing does not hold,
negated or not (`single_holds_iff`).
-/

namespace StubServer

theorem Text.asciiLower_asciiLower (s : String) : asciiLower (asciiLower s) = asciiLower s := by
  have hlower (c : Char) : c.toLower.toLower = c.toLower := by
    delta Char.toLower
    split <;> grind [UInt32.toNat_add]
  simp [asciiLower, Function.comp_def, hlower]

namespace Http.View

/-- The view is built up from a method and a path. -/
inductive Built : View → Prop
  | ofTarget (method path : String) : Built (ofTarget method path)
  | withQuery {v : View} (query : String) (hv : Built v) : Built (v.withQuery query)
  | withHeader {v : View} (name value : String) (hv : Built v) : Built (v.withHeader name value)
  | withRouteParams {v : View} {params : Bindings String} (hparams : params.Distinct)
      (hv : Built v) : Built (v.withRouteParams params)
  | withRemoteAddr {v : View} (addr : String) (hv : Built v) : Built (v.withRemoteAddr addr)

/-- No map of the view binds a name twice, and the names of headers are in lower case. -/
structure Tidy (v : View) : Prop where
  query : v.query.Distinct
  headers : v.headers.Distinct
  routeParams : v.routeParams.Distinct
  lower : ∀ p ∈ v.headers.toList, Text.asciiLower p.1 = p.1

namespace Tidy

variable {v : View} (h : v.Tidy)

include h

theorem withQuery (query : String) : (v.withQuery query).Tidy :=
  { h with query := h.query.insertAll }

theorem withHeader (name value : String) : (v.withHeader name value).Tidy where
  query := h.query
  headers := h.headers.insert _ value
  routeParams := h.routeParams
  lower p hp := by
    rcases List.mem_cons.1 hp with rfl | hp
    · exact Text.asciiLower_asciiLower name
    · exact h.lower p (List.mem_filter.1 hp).1

theorem withRouteParams {params : Bindings String} (hparams : params.Distinct) :
    (v.withRouteParams params).Tidy :=
  { h with routeParams := hparams }

theorem withRemoteAddr (addr : String) : (v.withRemoteAddr addr).Tidy :=
  { h with }

end Tidy

theorem Built.tidy {v : View} (hv : v.Built) : v.Tidy := by
  induction hv with
  | ofTarget method path => exact ⟨.empty, .empty, .empty, nofun⟩
  | withQuery query _ ih => exact ih.withQuery query
  | withHeader name value _ ih => exact ih.withHeader name value
  | withRouteParams hparams _ ih => exact ih.withRouteParams hparams
  | withRemoteAddr addr _ ih => exact ih.withRemoteAddr addr

/-- The view of a request with the values of a route's parameters is built like this. -/
theorem built_view (r : Request) {params : Bindings String} (hparams : params.Distinct) :
    (r.view params).Built := by
  have htarget : ((ofTarget r.method r.path).withRouteParams params).Built :=
    .withRouteParams hparams (.ofTarget r.method r.path)
  have hquery : (r.query.elim ((ofTarget r.method r.path).withRouteParams params)
      ((ofTarget r.method r.path).withRouteParams params).withQuery).Built := by
    cases r.query with
    | none => exact htarget
    | some query => exact .withQuery query htarget
  have hheaders := List.foldlRecOn r.headers.toList.reverse (fun v h => v.withHeader h.1 h.2) hquery
    fun v hv h _ => Built.withHeader h.1 h.2 hv
  unfold Request.view
  cases r.remoteAddr with
  | none => exact hheaders
  | some addr => exact .withRemoteAddr addr hheaders

end Http.View

theorem Url.Template.distinct_of_match? {text path : String} {t : Url.Template}
    {params : Bindings String} (ht : Url.Template.read text = .ok t)
    (h : t.match? path = some params) : params.Distinct := by
  have hlast := (Url.wellFormed_of_read ht).catchAll_last
  obtain ⟨taken, -, rfl⟩ := (Url.matchSegments_eq_some_iff hlast).1 h
  exact Bindings.Distinct.empty.insertAll

/-- So is the view with which a request is dispatched. -/
theorem Server.built_view_of_target? {routes : List Config.Route} {r : Http.Request} {found : Found}
    (h : Server.target? routes r = some found) : (r.view found.params).Built := by
  obtain ⟨q, -, hq⟩ := List.exists_of_findSome?_eq_some h
  obtain ⟨params, hserve, rfl⟩ := Option.map_eq_some_iff.1 hq
  obtain ⟨-, -, t, ht, hmatch⟩ := Config.Route.serve?_eq_some_iff.1 hserve
  exact Http.View.built_view r (Url.Template.distinct_of_match? ht hmatch)

namespace RuleField

/-- The function by which templates look up what rules look up in a field. -/
def function : RuleField → Template.RequestFunction
  | header => .headerParam
  | query => .queryParam
  | route => .urlParam

/-- The value of a view under a key. -/
def fetch? (f : RuleField) (v : Http.View) (key : String) : Option String :=
  match f with
  | header => v.header? key
  | query => v.queryParam? key
  | route => v.routeParam? key

end RuleField

/-- The input of rules that the maps of a view make, the names of headers being brought into lower
case anew. -/
def RuleInput.ofView (v : Http.View) : RuleInput :=
  .ofMaps v.headers.toList v.query.toList v.routeParams.toList

/-- Rules look up what the view has under the key. -/
theorem get?_inputOf (v : Http.View) (f : RuleField) (key : String) :
    ((Server.inputOf v).values f).get? (f.lookupKey key) = f.fetch? v key := by
  cases f <;> rfl

theorem get?_ofView {v : Http.View} (h : v.Tidy) (f : RuleField) (name : String) :
    ((RuleInput.ofView v).values f).get? name = ((Server.inputOf v).values f).get? name := by
  cases f with
  | header =>
    have hmap : v.headers.toList.map (fun p => (Text.asciiLower p.1, p.2)) = v.headers.toList :=
      (List.map_congr_left fun p hp => by rw [h.lower p hp, id]).trans (List.map_id _)
    change (Bindings.ofList (v.headers.toList.map fun p => (Text.asciiLower p.1, p.2))).get? name = _
    rw [hmap]
    exact h.headers.get?_ofList_toList name
  | query => exact h.query.get?_ofList_toList name
  | route => exact h.routeParams.get?_ofList_toList name

namespace SingleRule

theorem holds_eq (r : SingleRule) (input : RuleInput) :
    (Rule.single r).holds input = r.accepts ((input.values r.field).get? (r.field.lookupKey r.key)) :=
  rfl

theorem accepts_iff (r : SingleRule) (fetched : Option String) :
    r.accepts fetched = true ↔
      ¬ (r.field = .route ∧ fetched = none) ∧ (r.negate ^^ r.passes (fetched.getD "")) = true := by
  unfold accepts
  split <;> simp_all

end SingleRule

namespace Template

open Rendering

theorem ofName?_function (f : RuleField) :
    Function.ofName? f.function.name true = some (.request f.function) := by
  cases f <;> rfl

/-- Called with a key alone, the function of a field gives the value of the request, and the empty
text when there is none. -/
theorem evaluate_fieldFunction (f : RuleField) (key : String) (now : Time.Instant) (v : Http.View)
    (s : RenderState) :
    evaluate ⟨now, some v⟩ (.function f.function.name [.literal key]) s =
      .ok (.string ((f.fetch? v key).getD "")) { s with accesses := s.accesses + 1 } := by
  have hargs : evaluateAll ⟨now, some v⟩ [.literal key] = pure [.string key] := by
    simp [evaluateAll, evaluate]
  rw [evaluate, hargs, pure_bind, Option.isSome_some, ofName?_function]
  cases f <;> rfl

/-- A rule on a field of a built view holds exactly when its test, negated or not, comes out so for the
text that the function of the field gives for the rule's key; but a rule on a route parameter that
the view does not have does not hold. Nothing but the count of reads changes by the call. -/
theorem single_holds_iff {v : Http.View} (hv : v.Built) (r : SingleRule) (now : Time.Instant)
    (s : RenderState) :
    ∃ text, evaluate ⟨now, some v⟩ (.function r.field.function.name [.literal r.key]) s =
        .ok (.string text) { s with accesses := s.accesses + 1 } ∧
      ((Rule.single r).holds (.ofView v) = true ↔
        ¬ (r.field = .route ∧ v.routeParam? r.key = none) ∧ (r.negate ^^ r.passes text) = true) ∧
      (Rule.single r).holds (Server.inputOf v) = (Rule.single r).holds (.ofView v) := by
  refine ⟨_, evaluate_fieldFunction r.field r.key now v s, ?_, ?_⟩
  · rw [SingleRule.holds_eq, get?_ofView hv.tidy, get?_inputOf, SingleRule.accepts_iff]
    refine and_congr_left fun _ => not_congr (and_congr_right fun hfield => ?_)
    rw [hfield]
    rfl
  · rw [SingleRule.holds_eq, SingleRule.holds_eq, get?_ofView hv.tidy]

/-- A view whose header is looked up under another spelling of its name. -/
def traced : Http.View :=
  (Http.View.ofTarget "GET" "/a").withHeader "X-Trace" "on"

theorem traced_single_holds_iff :
    ∃ text, evaluate ⟨⟨0, 0, 0⟩, some traced⟩ (.function "headerParam" [.literal "x-TRACE"])
        { draws := ⟨fun _ => 0, 0⟩ } = .ok (.string text) { draws := ⟨fun _ => 0, 0⟩, accesses := 1 } ∧
      ((Rule.single ⟨.header, "x-TRACE", "off", .equals, true⟩).holds (.ofView traced) = true ↔
        (true ^^ SingleRule.passes ⟨.header, "x-TRACE", "off", .equals, true⟩ text) = true) := by
  have hv : traced.Built := .withHeader _ _ (.ofTarget _ _)
  obtain ⟨text, htext, hiff, -⟩ := single_holds_iff hv ⟨.header, "x-TRACE", "off", .equals, true⟩
    ⟨0, 0, 0⟩ { draws := ⟨fun _ => 0, 0⟩ }
  exact ⟨text, htext, by simpa using hiff⟩

end Template

end StubServer
