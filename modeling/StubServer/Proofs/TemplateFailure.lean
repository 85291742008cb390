import StubServer.Proofs.Caching
import StubServer.Proofs.Concatenation

/-!
# Bodies whose templates fail

A rendering has the texts of all nodes or none of them (`render_eq_join`). So a body is rendered as
a whole, served as it is written, or, where templates are strict, not served at all
(`renderBody_whole`). Which of these it is does not depend on whether compiling went wrong or
rendering; only the message tells.
-/

namespace StubServer

namespace Template

/-- What is rendered of nodes are the texts of all their values. -/
theorem render_eq_join (setting : Setting) (ns : List Node) :
    render setting ns =
      (fun values => String.join (values.map Value.text)) <$> evaluateAll setting ns := by
  induction ns with
  | nil => rfl
  | cons n ns ih =>
    simp only [render, evaluateAll, ih, map_bind, bind_map_left, map_pure, List.map_cons,
      String.join_cons]

theorem compile_of_not_hasExpression {source : String} (h : hasExpression source = false)
    (strict : Bool) : compile source strict = .ok (.static source) := by
  rw [compile, h]
  rfl

theorem compile_of_hasExpression {source : String} (h : hasExpression source = true)
    (strict : Bool) :
    compile source strict =
      match compileNodes source with
      | .ok nodes => .ok (.nodes nodes)
      | .error e => if strict then .error e else .ok (.static source) := by
  rw [compile, h]
  rfl

end Template

open Template

namespace Config.Response

variable (r : Config.Response) (now : Time.Instant) (view : Http.View) (draws : Draws)

/-- The texts of all nodes of the body, if it can be compiled and each of its nodes has a value. -/
def templated : Except BodyError String := do
  let nodes ← (compileNodes r.body).mapError .compile
  match evaluateAll ⟨now, some view⟩ nodes { draws } with
  | .ok values _ => .ok (String.join (values.map Value.text))
  | .error e _ => .error (.render e)

variable {r}

theorem templated_of_compileNodes_ok {nodes : List Node} (h : compileNodes r.body = .ok nodes) :
    r.templated now view draws =
      ((Compiled.nodes nodes).run ⟨now, some view⟩ draws).text.mapError BodyError.render := by
  rw [templated, h, Compiled.run, Compiled.render, render_eq_join, Rendering.map_eq]
  change (match evaluateAll ⟨now, some view⟩ nodes { draws } with
    | .ok values _ => .ok (String.join (values.map Value.text))
    | .error e _ => .error (.render e) : Except BodyError String) = _
  rcases evaluateAll ⟨now, some view⟩ nodes { draws } with ⟨values, s⟩ | ⟨e, s⟩ <;> rfl

theorem templated_of_compileNodes_error {e : CompileError} (h : compileNodes r.body = .error e) :
    r.templated now view draws = .error (.compile e) := by
  rw [templated, h]
  rfl

/-- A body without double braces is its own rendering. -/
theorem templated_of_not_hasExpression (h : hasExpression r.body = false) :
    r.templated now view draws = .ok r.body := by
  rw [templated_of_compileNodes_ok now view draws (compileNodes_of_not_hasExpression h),
    Compiled.run, Compiled.render, render_textNodes, String.ofList_toList]
  rfl

/-- The body is rendered as a whole or, if that fails and templates are not strict, served as it is
written. -/
theorem renderBody_body :
    (r.renderBody now view draws).1.map RenderedBody.body =
      if r.disableTemplating then .ok r.body
      else
        match r.templated now view draws with
        | .ok text => .ok text
        | .error e => if r.strictTemplateErrors then .error e else .ok r.body := by
  unfold renderBody
  by_cases hdisabled : r.disableTemplating = true
  · simp only [hdisabled, Bool.or_true, if_true]
    rfl
  · simp only [hdisabled, Bool.or_false, Bool.false_eq_true, if_false]
    rcases hbraces : hasExpression r.body with _ | _
    · rw [templated_of_not_hasExpression now view draws hbraces,
        compile_of_not_hasExpression hbraces]
      dsimp only
      split <;> rfl
    · have hbody : ¬ decide (r.body = "") = true := by
        intro hempty
        rw [of_decide_eq_true hempty] at hbraces
        cases hbraces
      rw [if_neg hbody, compile_of_hasExpression hbraces]
      rcases hnodes : compileNodes r.body with e | nodes
      · rw [templated_of_compileNodes_error now view draws hnodes]
        dsimp only
        rcases r.strictTemplateErrors <;> rfl
      · rw [templated_of_compileNodes_ok now view draws hnodes]
        dsimp only
        rcases ((Compiled.nodes nodes).run ⟨now, some view⟩ draws).text with e | text
        · dsimp only [Except.mapError]
          rcases r.strictTemplateErrors <;> rfl
        · rfl

theorem hasExpression_of_templated_error {e : BodyError}
    (h : r.templated now view draws = .error e) : hasExpression r.body = true := by
  by_contra hbraces
  rw [templated_of_not_hasExpression now view draws (by simpa using hbraces)] at h
  cases h

theorem renderBody_eq_error_iff {e : BodyError} :
    (r.renderBody now view draws).1 = .error e ↔
      r.strictTemplateErrors = true ∧ r.disableTemplating = false ∧
        r.templated now view draws = .error e := by
  rw [← map_eq_error (f := RenderedBody.body), renderBody_body]
  rcases r.disableTemplating with _ | _
  · rcases r.templated now view draws with e' | text
    · rcases r.strictTemplateErrors with _ | _ <;> simp
    · simp
  · simp

theorem exists_body_of_templated_ok {text : String} (henabled : r.disableTemplating = false)
    (htext : r.templated now view draws = .ok text) :
    ∃ out, (r.renderBody now view draws).1 = .ok out ∧ out.body = text := by
  refine map_eq_ok.1 ?_
  rw [renderBody_body, henabled, htext]
  rfl

/-- Where templates are disabled or fail without being strict, the body is as it is written. So is
one without double braces, which is also what it renders to. -/
theorem exists_body_eq_body (h : r.disableTemplating = true ∨ hasExpression r.body = false ∨
      r.strictTemplateErrors = false ∧ ∃ e, r.templated now view draws = .error e) :
    ∃ out, (r.renderBody now view draws).1 = .ok out ∧ out.body = r.body := by
  refine map_eq_ok.1 ?_
  rw [renderBody_body]
  rcases h with hdisabled | hbraces | ⟨hlenient, e, he⟩
  · rw [if_pos hdisabled]
  · rw [templated_of_not_hasExpression now view draws hbraces, ite_self]
  · rw [he, hlenient]
    exact ite_self _

variable (r)

/-- Making the body fails exactly for a strict template that has braces and fails, and the answer
says so. Otherwise there is a body: all that the template renders to, or the text of the
configuration where templates are disabled, where there are no braces and where a template fails
that is not strict. -/
theorem renderBody_whole :
    (∀ e, (r.renderBody now view draws).1 = .error e ↔
      r.strictTemplateErrors = true ∧ r.disableTemplating = false ∧
        ['\x7b', '\x7b'] <:+: r.body.toList ∧ r.templated now view draws = .error e) ∧
    (∀ text, r.disableTemplating = false → r.templated now view draws = .ok text →
      ∃ out, (r.renderBody now view draws).1 = .ok out ∧ out.body = text) ∧
    (r.disableTemplating = true ∨ ¬ ['\x7b', '\x7b'] <:+: r.body.toList ∨
        r.strictTemplateErrors = false ∧ (∃ e, r.templated now view draws = .error e) →
      ∃ out, (r.renderBody now view draws).1 = .ok out ∧ out.body = r.body) ∧
    ∀ e contentType, (r.renderBody now view draws).1 = .error e →
      (r.answer now view contentType draws).1 =
        .ofError 500 "template_error" e.message [.mocked, .templateError] := by
  rw [← Text.occursIn_iff, Bool.not_eq_true]
  refine ⟨fun e => ?_, fun _ => exists_body_of_templated_ok now view draws,
    exists_body_eq_body now view draws, fun e contentType he => by rw [answer_eq, he]⟩
  rw [renderBody_eq_error_iff]
  refine and_congr_right fun _ => and_congr_right fun _ => ⟨fun he => ⟨?_, he⟩, And.right⟩
  exact hasExpression_of_templated_error now view draws he

end Config.Response

end StubServer
