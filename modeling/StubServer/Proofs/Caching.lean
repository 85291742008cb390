import StubServer.Proofs.Independence
import StubServer.Server

/-!
# What cacheable answers depend on

A cacheable answer is the one that every request gets, but for one path: a lenient template that
reads the request and then fails is served as it is written, as if nothing had been read. Another
request gets the same unless the template renders for it
(`answer_same_iff_not_failsAfterReading`).
-/

namespace StubServer

open Template

namespace Config.Response

variable {r : Config.Response} {now : Time.Instant} {v w : Http.View} {contentType : String}
  {draws : Draws} {x y : Rendered}

/-- The rendering of the body, when the body has a template. -/
def rendered? (r : Config.Response) (now : Time.Instant) (view : Http.View) (draws : Draws) :
    Option Rendered :=
  if r.body = "" || r.disableTemplating then none
  else
    match Template.compile r.body r.strictTemplateErrors with
    | .ok (.nodes nodes) => some ((Compiled.nodes nodes).run ⟨now, some view⟩ draws)
    | _ => none

/-- The template read the request and failed later on. -/
def FailsAfterReading (r : Config.Response) (now : Time.Instant) (view : Http.View)
    (draws : Draws) : Prop :=
  ∃ x e, r.rendered? now view draws = some x ∧ x.text = .error e ∧ 0 < x.accesses

/-- The template renders to a text. -/
def Renders (r : Config.Response) (now : Time.Instant) (view : Http.View) (draws : Draws) : Prop :=
  ∃ x body, r.rendered? now view draws = some x ∧ x.text = .ok body

/-- What a rendering makes of the body. -/
def ofRendered (r : Config.Response) (x : Rendered) : Except BodyError RenderedBody :=
  match x.text with
  | .ok body => .ok ⟨body, 0 < x.accesses⟩
  | .error e => if r.strictTemplateErrors then .error (.render e) else .ok r.rawBody

/-- The body where nothing is rendered. -/
def unrendered (r : Config.Response) : Except BodyError RenderedBody :=
  if r.body = "" || r.disableTemplating then .ok r.rawBody
  else
    match Template.compile r.body r.strictTemplateErrors with
    | .error e => .error (.compile e)
    | .ok _ => .ok r.rawBody

theorem renderBody_eq (r : Config.Response) (now : Time.Instant) (v : Http.View) (draws : Draws) :
    (r.renderBody now v draws).1 = (r.rendered? now v draws).elim r.unrendered r.ofRendered := by
  unfold renderBody rendered? unrendered
  by_cases hbody : (r.body = "" || r.disableTemplating) = true
  · simp only [hbody, if_true, Option.elim_none]
  · simp only [hbody, if_false, Bool.false_eq_true]
    rcases Template.compile r.body r.strictTemplateErrors with e | (text | nodes)
    · rfl
    · rfl
    · simp only [Option.elim_some, ofRendered]
      rcases (Compiled.nodes nodes).run ⟨now, some v⟩ draws with ⟨e | body, d, n⟩ <;> rfl

/-- Whether a body has a template does not depend on the request, and its renderings for two
requests have the same outcome or both read the request. -/
theorem rendered_same_or_read (r : Config.Response) (now : Time.Instant) (v w : Http.View)
    (draws : Draws) :
    r.rendered? now v draws = r.rendered? now w draws ∨
      ∃ x y, r.rendered? now v draws = some x ∧ r.rendered? now w draws = some y ∧
        0 < x.accesses ∧ 0 < y.accesses := by
  unfold rendered?
  split
  · exact Or.inl rfl
  · split
    · rename_i nodes _
      rcases Compiled.run_same_or_read (.nodes nodes) now v w draws with heq | hread
      · exact Or.inl (by rw [heq])
      · exact Or.inr ⟨_, _, rfl, rfl, hread⟩
    · exact Or.inl rfl

theorem answer_eq (r : Config.Response) (now : Time.Instant) (v : Http.View)
    (contentType : String) (draws : Draws) :
    (r.answer now v contentType draws).1 =
      match (r.renderBody now v draws).1 with
      | .ok body => r.build body contentType
      | .error e => .ofError 500 "template_error" e.message [.mocked, .templateError] := by
  unfold answer
  rcases r.renderBody now v draws with ⟨e | body, d⟩ <;> rfl

theorem answer_congr (h : r.rendered? now v draws = r.rendered? now w draws) :
    (r.answer now v contentType draws).1 = (r.answer now w contentType draws).1 := by
  rw [answer_eq, answer_eq, renderBody_eq, renderBody_eq, h]

theorem cacheable_build (r : Config.Response) (body : RenderedBody) (contentType : String) :
    (r.build body contentType).cacheable = (r.allowResponseCaching && !body.usedRequest) := by
  rw [build_eq]

/-- An answer made from a rendering that read the request is cacheable only if the template is
lenient and failed, and then it has the body as it is written. -/
theorem answer_of_read (hx : r.rendered? now v draws = some x) (hread : 0 < x.accesses)
    (hc : (r.answer now v contentType draws).1.cacheable = true) :
    (∃ e, x.text = .error e) ∧ r.strictTemplateErrors = false ∧
      (r.answer now v contentType draws).1 = r.build r.rawBody contentType := by
  rw [answer_eq, renderBody_eq, hx, Option.elim_some] at hc ⊢
  unfold ofRendered at hc ⊢
  rcases hxt : x.text with e | body
  · simp only [hxt] at hc ⊢
    by_cases hs : r.strictTemplateErrors = true
    · simp [hs, Http.Response.ofError, Http.Response.ofJson] at hc
    · simp [hs]
  · simp [hxt, cacheable_build, hread] at hc

/-- A lenient template that fails is served as it is written. -/
theorem answer_of_error {e : EvalError} (hx : r.rendered? now v draws = some x)
    (he : x.text = .error e) (hs : r.strictTemplateErrors = false) :
    (r.answer now v contentType draws).1 = r.build r.rawBody contentType := by
  rw [answer_eq, renderBody_eq, hx, Option.elim_some, ofRendered, he]
  simp [hs]

/-- A cacheable answer is the answer to every request, and stays cacheable, except where its
template failed after it had read the request and renders for the other one. -/
theorem answer_same_iff_not_failsAfterReading (r : Config.Response) (now : Time.Instant)
    (v w : Http.View) (contentType : String) (draws : Draws)
    (hc : (r.answer now v contentType draws).1.cacheable = true) :
    ((r.answer now w contentType draws).1.status = (r.answer now v contentType draws).1.status ∧
      (r.answer now w contentType draws).1.headers =
        (r.answer now v contentType draws).1.headers ∧
      (r.answer now w contentType draws).1.body = (r.answer now v contentType draws).1.body ∧
      (r.answer now w contentType draws).1.cacheable = true) ↔
      ¬ (r.FailsAfterReading now v draws ∧ r.Renders now w draws) := by
  rcases rendered_same_or_read r now v w draws with heq | ⟨x, y, hx, hy, hreadx, hready⟩
  · rw [← answer_congr heq]
    refine ⟨fun _ hboth => ?_, fun _ => ⟨rfl, rfl, rfl, hc⟩⟩
    obtain ⟨⟨x, e, hx, hxe, -⟩, y, body, hy, hyb⟩ := hboth
    rw [heq, hy, Option.some.injEq] at hx
    subst hx
    rw [hyb] at hxe
    cases hxe
  · obtain ⟨⟨e, he⟩, hs, hav⟩ := answer_of_read hx hreadx hc
    have hfails : r.FailsAfterReading now v draws := ⟨x, e, hx, he, hreadx⟩
    rcases hyt : y.text with e' | body
    · rw [answer_of_error hy hyt hs, hav]
      refine ⟨fun _ hboth => ?_, fun _ => ⟨rfl, rfl, rfl, hav ▸ hc⟩⟩
      obtain ⟨-, y', body, hy', hyb⟩ := hboth
      rw [hy, Option.some.injEq] at hy'
      subst hy'
      rw [hyt] at hyb
      cases hyb
    · refine ⟨fun hsame => ?_, fun hnot => absurd ⟨hfails, y, body, hy, hyt⟩ hnot⟩
      obtain ⟨⟨e', he'⟩, -, -⟩ := answer_of_read hy hready hsame.2.2.2
      rw [hyt] at he'
      cases he'

/-- A lenient body that renders for the requests with a parameter `a` and fails for the others. -/
def branching : Config.Response where
  body := "\x7b\x7b#if (queryParam 'a')\x7d\x7dhello" ++
    "\x7b\x7belse\x7d\x7d\x7b\x7b boom \x7d\x7d\x7b\x7b/if\x7d\x7d"
  allowResponseCaching := true

/-- The answer with the branching body to a request for `/x` with a query. -/
def branchingAnswer (query : String) : Http.Response :=
  (branching.answer ⟨0, 0, 0⟩ (Http.View.withQuery (.ofTarget "GET" "/x") query) "text/plain"
    ⟨fun _ => 0, 0⟩).1

theorem branching_same_iff :
    (branchingAnswer "").cacheable = true ∧
      (((branchingAnswer "b=1").status = (branchingAnswer "").status ∧
          (branchingAnswer "b=1").headers = (branchingAnswer "").headers ∧
          (branchingAnswer "b=1").body = (branchingAnswer "").body ∧
          (branchingAnswer "b=1").cacheable = true) ↔
        ¬ (branching.FailsAfterReading ⟨0, 0, 0⟩
              (Http.View.withQuery (.ofTarget "GET" "/x") "") ⟨fun _ => 0, 0⟩ ∧
            branching.Renders ⟨0, 0, 0⟩
              (Http.View.withQuery (.ofTarget "GET" "/x") "b=1") ⟨fun _ => 0, 0⟩)) := by
  have hc : (branchingAnswer "").cacheable = true := by decide +kernel
  exact ⟨hc, answer_same_iff_not_failsAfterReading _ _ _ _ _ _ hc⟩

/-- The answer to a request without `a` is cacheable, and one with `a` gets another body. -/
theorem branching_cacheable_and_differs :
    (branchingAnswer "").cacheable = true ∧
      (branchingAnswer "a=1").body ≠ (branchingAnswer "").body := by
  decide +kernel

end Config.Response

end StubServer
