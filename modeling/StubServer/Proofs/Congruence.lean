import StubServer.Proofs.Drawing

/-!
# Relations that rendering respects

Rendering is built from a few steps: values, errors, draws, scopes, writes and reads of variables,
and the count of reads of the request. A relation between two renderings that holds of these and
passes through sequences and scopes (`Congruence`) holds of the renderings of every list of nodes
(`Congruence.render`). It need not hold of draws for nodes that draw nothing (`Steps.render`).
-/

namespace StubServer

namespace Template

open Rendering

/-- The relation holds of the steps that touch neither the random words nor the request, and passes
through sequences and scopes. -/
structure Steps (R : (α : Type) → Rendering α → Rendering α → Prop) : Prop where
  of_pure : ∀ {α : Type} (a : α), R α (pure a) (pure a)
  of_throw : ∀ {α : Type} (e : EvalError), R α (throw e) (throw e)
  of_bind : ∀ {α β : Type} {m m' : Rendering α} {f f' : α → Rendering β},
    R α m m' → (∀ a, R β (f a) (f' a)) → R β (m >>= f) (m' >>= f')
  of_setVariable : ∀ name v, R Unit (setVariable name v) (setVariable name v)
  of_valueOf : ∀ name, R Value (valueOf name) (valueOf name)
  of_inScope : ∀ {α : Type} {m m' : Rendering α}, R α m m' → R α (inScope m) (inScope m')

/-- The relation holds of the steps that renderings are built from, and passes through sequences
and scopes. What a step makes of the request may differ. -/
structure Congruence (R : (α : Type) → Rendering α → Rendering α → Prop) : Prop
    extends Steps R where
  of_random : ∀ {α : Type} (r : Random α), R α (random r) (random r)
  of_countAccess : ∀ v v' : Value,
    R Value (do countAccess; pure v) (do countAccess; pure v')

/-- Both settings have a request or neither has, and the relation holds of what they answer to a
query. -/
structure Reads (R : (α : Type) → Rendering α → Rendering α → Prop) (σ σ' : Setting) : Prop where
  isSome_eq : σ.request.isSome = σ'.request.isSome
  of_query : ∀ query : RequestFunction.Query,
    R Value (do countAccess; pure (.string (query.answer (σ.request.getD {}))))
      (do countAccess; pure (.string (query.answer (σ'.request.getD {}))))

/-- The relation holds of draws, and those that go by the time go by the same time. -/
structure Drawing (R : (α : Type) → Rendering α → Rendering α → Prop) (σ σ' : Setting) :
    Prop where
  now_eq : σ.now = σ'.now
  of_random : ∀ {α : Type} (r : Random α), R α (random r) (random r)

theorem evaluateAll_singleton (setting : Setting) (n : Node) :
    evaluateAll setting [n] = (fun v => [v]) <$> evaluate setting n := by
  simp [evaluateAll]

namespace Steps

variable {R : (α : Type) → Rendering α → Rendering α → Prop} (hR : Steps R) {α β : Type}

include hR

protected theorem map {m m' : Rendering α} (g : α → β) (hm : R α m m') :
    R β (g <$> m) (g <$> m') := by
  have h := hR.of_bind hm fun a => hR.of_pure (g a)
  rwa [← map_eq_pure_bind, ← map_eq_pure_bind] at h

protected theorem answer (function : String) (a : Answer α) :
    R α (answer function a) (answer function a) := by
  cases a with
  | error fault => exact hR.of_throw _
  | ok v => exact hR.of_pure v

protected theorem blockAnswer (block : String) (a : Except BlockFault α) :
    R α (blockAnswer block a) (blockAnswer block a) := by
  cases a with
  | error fault => exact hR.of_throw _
  | ok v => exact hR.of_pure v

/-- A number of repetitions that is given takes no draw. -/
protected theorem randomPlan {values : List Value} {plan : RepeatPlan} (hlen : values.length ≤ 1)
    (h : RepeatPlan.ofValues values = .ok plan) : R _ (random plan.draw) (random plan.draw) := by
  obtain ⟨r, hr⟩ := RepeatPlan.draw_eq_pure hlen h
  rw [hr]
  exact hR.of_pure r

protected theorem count (block : String) (values : List Value) {f f' : Repeat → Rendering β}
    (hplan : ∀ plan, RepeatPlan.ofValues values = .ok plan →
      R _ (random plan.draw) (random plan.draw)) (hf : ∀ r, R β (f r) (f' r)) :
    R β (do
        let plan ← blockAnswer block (RepeatPlan.ofValues values)
        let r ← random plan.draw
        f r)
      (do
        let plan ← blockAnswer block (RepeatPlan.ofValues values)
        let r ← random plan.draw
        f' r) := by
  rcases h : RepeatPlan.ofValues values with fault | plan
  · exact hR.of_throw _
  · simp only [Rendering.blockAnswer, pure_bind]
    exact hR.of_bind (hplan plan h) hf

section Loops

variable {body body' : Rendering String} (hb : R String body body')

include hb

protected theorem repeated (separator : Option (List Char)) :
    ∀ (count : Nat) (text : List Char) (index : Nat),
      R _ (repeated body separator text index count) (repeated body' separator text index count)
  | 0, text, _ => hR.of_pure text
  | count + 1, text, index => by
    unfold repeated
    refine hR.of_bind (hR.of_setVariable _ _) fun _ => hR.of_bind (hR.of_inScope hb) fun piece => ?_
    exact Steps.repeated separator count _ (index + 1)

protected theorem repeatBody (r : Repeat) : R _ (repeatBody body r) (repeatBody body' r) :=
  hR.of_bind (hR.repeated hb _ r.count [] 0) fun _ => hR.of_pure _

protected theorem each :
    ∀ (items : List Value) (text : String) (index : Nat),
      R _ (each body text index items) (each body' text index items)
  | [], text, _ => hR.of_pure text
  | item :: items, text, index => by
    unfold each
    refine hR.of_bind (hR.of_setVariable _ _) fun _ => hR.of_bind (hR.of_setVariable _ _)
      fun _ => hR.of_bind (hR.of_inScope hb) fun piece => ?_
    exact Steps.each items _ (index + 1)

end Loops

variable {σ σ' : Setting}

protected theorem makeUp (hdraw : Drawing R σ σ') (path : String) (args : Arguments) :
    R _ (makeUp σ.now path args) (makeUp σ'.now path args) := by
  rw [hdraw.now_eq]
  unfold Template.makeUp
  split
  · exact hR.of_throw _
  · exact hdraw.of_random _
  · exact hdraw.of_random _
  · refine hR.of_bind (hdraw.of_random _) fun instant => ?_
    cases instant
    · exact hR.of_throw _
    · exact hR.of_pure _

variable (hread : Reads R σ σ')

include hread

protected theorem call (f : Function) (args : Arguments)
    (hdraw : Drawing R σ σ' ∨ f.draws = false) : R _ (f.call σ args) (f.call σ' args) := by
  cases f with
  | text f => exact hR.answer _ _
  | array f => exact hR.answer _ _
  | math f => exact hR.answer _ _
  | pick f =>
    obtain hdraw | h := hdraw
    · exact hR.of_bind (hdraw.of_random _) fun _ => hR.answer _ _
    · cases h
  | fake =>
    obtain hdraw | h := hdraw
    · exact hR.of_bind (hR.answer _ _) fun path => hR.makeUp hdraw _ _
    · cases h
  | fakeAt path =>
    obtain hdraw | h := hdraw
    · exact hR.makeUp hdraw path args
    · cases h
  | request f => exact hR.of_bind (hR.answer _ _) hread.of_query
  | assign =>
    refine hR.of_bind (hR.answer _ _) fun pair => ?_
    exact hR.of_bind (hR.of_setVariable _ _) fun _ => hR.of_pure _

set_option linter.unusedSectionVars false in
mutual

/-- The relation holds of two renderings of the same nodes, when it holds of draws or the nodes draw
nothing. -/
protected theorem render : ∀ ns : List Node, Drawing R σ σ' ∨ drawNothing ns = true →
    R _ (render σ ns) (render σ' ns)
  | [], _ => by
    rw [Template.render, Template.render]
    exact hR.of_pure _
  | n :: ns, hdraw => by
    rw [drawNothing_cons] at hdraw
    rw [Template.render, Template.render]
    refine hR.of_bind (Steps.evaluate n (hdraw.imp_right And.left)) fun _ => ?_
    exact hR.of_bind (Steps.render ns (hdraw.imp_right And.right)) fun _ => hR.of_pure _

protected theorem evaluate : ∀ n : Node, Drawing R σ σ' ∨ n.drawsNothing = true →
    R _ (evaluate σ n) (evaluate σ' n)
  | .text s, _ => by
    rw [Template.evaluate, Template.evaluate]
    exact hR.of_pure _
  | .literal s, _ => by
    rw [Template.evaluate, Template.evaluate]
    exact hR.of_pure _
  | .variable name, _ => by
    rw [Template.evaluate, Template.evaluate]
    exact hR.of_valueOf name
  | .function name params, hdraw => by
    simp only [Node.drawsNothing, Bool.and_eq_true, Bool.not_eq_true'] at hdraw
    rw [Template.evaluate, Template.evaluate]
    refine hR.of_bind (Steps.evaluateAll params (hdraw.imp_right And.right)) fun args => ?_
    rw [hread.isSome_eq]
    split
    · rename_i f hf
      refine hR.call hread f args (hdraw.imp_right fun h => ?_)
      exact Function.draws_eq_false hf h.1
    · exact hR.of_throw _
  | .block name params body, hdraw => by
    simp only [Node.drawsNothing, Bool.and_eq_true] at hdraw
    have hparams := hdraw.imp_right fun h => h.1.2
    have hbody := hdraw.imp_right And.right
    rw [Template.evaluate.eq_def, Template.evaluate.eq_def]
    refine hR.map Value.string ?_
    split
    · rename_i hname
      obtain hdraw | ⟨⟨hlen, -⟩, -⟩ := hdraw
      · refine hR.of_bind (Steps.evaluateAll params (.inl hdraw)) fun values => ?_
        exact hR.count name values (fun plan _ => hdraw.of_random plan.draw) fun r =>
          hR.of_inScope (hR.repeatBody (Steps.render body hbody) r)
      · simp only [hname, bne_self_eq_false, Bool.false_or, decide_eq_true_eq] at hlen
        match params, hlen with
        | [], _ => exact hR.of_throw _
        | [p], _ =>
          rw [evaluateAll_singleton, evaluateAll_singleton]
          simp only [bind_map_left]
          have hp := hparams.imp_right fun h => (drawNothing_cons.mp h).1
          refine hR.of_bind (Steps.evaluate p hp) fun v => ?_
          exact hR.count name [v] (fun _ => hR.randomPlan (Nat.le_refl 1)) fun r =>
            hR.of_inScope (hR.repeatBody (Steps.render body hbody) r)
    · split
      · match params with
        | [] => exact hR.of_throw _
        | source :: _ =>
          have hsource := hparams.imp_right fun h => (drawNothing_cons.mp h).1
          refine hR.of_bind (Steps.evaluate source hsource) fun value => ?_
          split
          · exact hR.of_inScope (hR.each (Steps.render body hbody) _ "" 0)
          · exact hR.of_throw _
      · split
        · match params with
          | [] => exact hR.of_throw _
          | condition :: _ =>
            dsimp only
            split
            · exact hR.of_throw _
            · have hcondition := hparams.imp_right fun h => (drawNothing_cons.mp h).1
              refine hR.of_bind (Steps.evaluate condition hcondition) fun value => ?_
              split
              · exact hR.of_inScope (Steps.renderClause body hbody)
              · exact Steps.renderLaterClause body hbody
        · exact hR.of_throw _

protected theorem evaluateAll : ∀ ns : List Node, Drawing R σ σ' ∨ drawNothing ns = true →
    R _ (evaluateAll σ ns) (evaluateAll σ' ns)
  | [], _ => by
    rw [Template.evaluateAll, Template.evaluateAll]
    exact hR.of_pure _
  | n :: ns, hdraw => by
    rw [drawNothing_cons] at hdraw
    rw [Template.evaluateAll, Template.evaluateAll]
    refine hR.of_bind (Steps.evaluate n (hdraw.imp_right And.left)) fun _ => ?_
    exact hR.of_bind (Steps.evaluateAll ns (hdraw.imp_right And.right)) fun _ => hR.of_pure _

protected theorem renderClause : ∀ ns : List Node, Drawing R σ σ' ∨ drawNothing ns = true →
    R _ (renderClause σ ns) (renderClause σ' ns)
  | [], _ => by
    rw [Template.renderClause, Template.renderClause]
    exact hR.of_pure _
  | n :: ns, hdraw => by
    rw [drawNothing_cons] at hdraw
    rw [Template.renderClause, Template.renderClause]
    split
    · exact hR.of_pure _
    · refine hR.of_bind (Steps.evaluate n (hdraw.imp_right And.left)) fun _ => ?_
      exact hR.of_bind (Steps.renderClause ns (hdraw.imp_right And.right)) fun _ => hR.of_pure _

protected theorem renderLaterClause : ∀ ns : List Node, Drawing R σ σ' ∨ drawNothing ns = true →
    R _ (renderLaterClause σ ns) (renderLaterClause σ' ns)
  | [], _ => by
    rw [Template.renderLaterClause, Template.renderLaterClause]
    exact hR.of_pure _
  | .function name [] :: ns, hdraw => by
    rw [drawNothing_cons] at hdraw
    rw [Template.renderLaterClause, Template.renderLaterClause]
    split
    · exact hR.of_inScope (Steps.renderClause ns (hdraw.imp_right And.right))
    · exact Steps.renderLaterClause ns (hdraw.imp_right And.right)
  | .function name (condition :: _) :: ns, hdraw => by
    simp only [drawNothing, Node.drawsNothing, Bool.and_eq_true] at hdraw
    have hns := hdraw.imp_right And.right
    rw [Template.renderLaterClause, Template.renderLaterClause]
    split
    · refine hR.of_bind (Steps.evaluate condition (hdraw.imp_right fun h => h.1.2.1)) fun value => ?_
      split
      · exact hR.of_inScope (Steps.renderClause ns hns)
      · exact Steps.renderLaterClause ns hns
    · exact Steps.renderLaterClause ns hns
  | .text _ :: ns, hdraw | .literal _ :: ns, hdraw | .variable _ :: ns, hdraw
  | .block _ _ _ :: ns, hdraw => by
    rw [drawNothing_cons] at hdraw
    simp only [Template.renderLaterClause]
    exact Steps.renderLaterClause ns (hdraw.imp_right And.right)

end

end Steps

/-- The relation holds of two renderings of the same nodes at the same time, when both or neither
of them have a request. -/
protected theorem Congruence.render {R : (α : Type) → Rendering α → Rendering α → Prop}
    (hR : Congruence R) {σ σ' : Setting} (hnow : σ.now = σ'.now)
    (hrequest : σ.request.isSome = σ'.request.isSome) (ns : List Node) :
    R _ (render σ ns) (render σ' ns) :=
  hR.toSteps.render ⟨hrequest, fun _ => hR.of_countAccess _ _⟩ ns (.inl ⟨hnow, hR.of_random⟩)

end Template

end StubServer
