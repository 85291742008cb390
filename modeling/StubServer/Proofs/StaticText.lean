import StubServer.Proofs.FunctionNames
import StubServer.Proofs.TemplateFailure

/-!
# Sources that are static text

A source without double braces is served as it is, without being read as a template
(`compile_of_not_hasExpression`). Reading it would come to the same: its characters are one token,
that token is one node, and the node renders to its text whatever functions there are
(`renderBy_textNodes`). The other way to static text is a source that cannot be read, outside strict
mode.
-/

namespace StubServer

namespace Template

/-! ## Rendering by any functions -/

section

variable (call : String → Arguments → Rendering Value)

mutual

/-- Renders nodes one after another; `call` answers the functions. -/
def renderBy : List Node → Rendering String
  | [] => return ""
  | n :: ns => do
    let v ← evaluateBy n
    return v.text ++ (← renderBy ns)

def evaluateBy : Node → Rendering Value
  | .text s => return .string s
  | .literal s => return .string s
  | .variable name => Rendering.valueOf name
  | .function name params => do
    let args ← evaluateAllBy params
    call name args
  | .block name params body =>
    .string <$>
      if name = "repeat" then do
        let values ← evaluateAllBy params
        let plan ← Rendering.blockAnswer name (RepeatPlan.ofValues values)
        let r ← Rendering.random plan.draw
        Rendering.inScope (Rendering.repeatBody (renderBy body) r)
      else if name = "each" then
        match params with
        | [] => throw (.invalidBlock name .noArray)
        | source :: _ => do
          match ← evaluateBy source with
          | .array items => Rendering.inScope (Rendering.each (renderBy body) "" 0 items)
          | v => throw (.invalidBlock name (.notArray v.typeName))
      else if name = "if" then
        match params with
        | [] => throw (.invalidBlock name .noCondition)
        | condition :: _ =>
          match clauseFault? false body with
          | some fault => throw (.invalidBlock name fault)
          | none => do
            if (← evaluateBy condition).isTruthy then
              Rendering.inScope (renderClauseBy body)
            else renderLaterClauseBy body
      else throw (.unknownBlock name)

def evaluateAllBy : List Node → Rendering (List Value)
  | [] => return []
  | n :: ns => do
    let v ← evaluateBy n
    return v :: (← evaluateAllBy ns)

def renderClauseBy : List Node → Rendering String
  | [] => return ""
  | n :: ns =>
    if n.marker?.isSome then return ""
    else do
      let v ← evaluateBy n
      return v.text ++ (← renderClauseBy ns)

def renderLaterClauseBy : List Node → Rendering String
  | [] => return ""
  | .function name params :: ns =>
    match params with
    | [] =>
      if name = "else" then Rendering.inScope (renderClauseBy ns)
      else renderLaterClauseBy ns
    | condition :: _ =>
      if name = "elsif" then do
        if (← evaluateBy condition).isTruthy then
          Rendering.inScope (renderClauseBy ns)
        else renderLaterClauseBy ns
      else renderLaterClauseBy ns
  | _ :: ns => renderLaterClauseBy ns

end

/-- Texts render to themselves, whatever the functions are. -/
theorem renderBy_textNodes (text : List Char) :
    renderBy call (textNodes text) = pure (.ofList text) := by
  cases text with
  | nil => simp [textNodes, renderBy]
  | cons c text => simp [textNodes, renderBy, evaluateBy, Value.text]

end

section

variable (setting : Setting)

mutual

/-- Templates are rendered by the functions of the families that are asked. -/
theorem renderBy_callIn : ∀ ns : List Node,
    renderBy (callIn (Family.present setting) setting) ns = render setting ns
  | [] => by rw [render, renderBy]
  | n :: ns => by rw [render, renderBy, evaluateBy_callIn n, renderBy_callIn ns]

theorem evaluateBy_callIn : ∀ n : Node,
    evaluateBy (callIn (Family.present setting) setting) n = evaluate setting n
  | .text s | .literal s | .variable name => by rw [evaluate, evaluateBy]
  | .function name params => by rw [evaluate_function, evaluateBy, evaluateAllBy_callIn params]
  | .block name params body => by
    rw [evaluate.eq_def, evaluateBy.eq_def]
    dsimp only
    rw [evaluateAllBy_callIn params, renderBy_callIn body, renderClauseBy_callIn body,
      renderLaterClauseBy_callIn body]
    match params with
    | [] => rfl
    | param :: _ =>
      dsimp only
      generalize hparam : evaluateBy (callIn (Family.present setting) setting) param = value
      obtain rfl : evaluate setting param = value := by rw [← hparam, evaluateBy_callIn param]
      rfl

theorem evaluateAllBy_callIn : ∀ ns : List Node,
    evaluateAllBy (callIn (Family.present setting) setting) ns = evaluateAll setting ns
  | [] => by rw [evaluateAll, evaluateAllBy]
  | n :: ns => by rw [evaluateAll, evaluateAllBy, evaluateBy_callIn n, evaluateAllBy_callIn ns]

theorem renderClauseBy_callIn : ∀ ns : List Node,
    renderClauseBy (callIn (Family.present setting) setting) ns = renderClause setting ns
  | [] => by rw [renderClause, renderClauseBy]
  | n :: ns => by
    rw [renderClause, renderClauseBy, evaluateBy_callIn n, renderClauseBy_callIn ns]

theorem renderLaterClauseBy_callIn : ∀ ns : List Node,
    renderLaterClauseBy (callIn (Family.present setting) setting) ns = renderLaterClause setting ns
  | [] => by rw [renderLaterClause, renderLaterClauseBy]
  | .function name [] :: ns => by
    rw [renderLaterClause, renderLaterClauseBy, renderClauseBy_callIn ns,
      renderLaterClauseBy_callIn ns]
  | .function name (condition :: _) :: ns => by
    rw [renderLaterClause, renderLaterClauseBy, evaluateBy_callIn condition,
      renderClauseBy_callIn ns, renderLaterClauseBy_callIn ns]
  | .text _ :: ns | .literal _ :: ns | .variable _ :: ns | .block _ _ _ :: ns => by
    simp only [renderLaterClause, renderLaterClauseBy]
    exact renderLaterClauseBy_callIn ns

end

end

/-! ## Sources without double braces -/

section

variable {source : String}

/-- The tokens are the text, if there is any, and the end. -/
theorem tokenize_of_isText (h : IsText source.toList) :
    tokenize source = .ok (textTokens source.toList ++ [.eof]) :=
  tokenize_eq_ok_iff_scan.2 (scan_complete (.last h))

theorem parse_textTokens (text : List Char) :
    parse (textTokens text ++ [.eof]) = .ok (textNodes text) := by
  have hcontent := content_textTokens text
  refine parse_of_content ?_
  rwa [beforeEnd_append_eof hcontent.kind_ne_eof]

theorem eq_text_of_mem_textNodes {text : List Char} {n : Node} (h : n ∈ textNodes text) :
    n = .text (.ofList text) := by
  cases text with
  | nil => simp [textNodes] at h
  | cons c text => simpa [textNodes] using h

theorem run_textNodes (text : List Char) (setting : Setting) (draws : Draws) :
    (Compiled.nodes (textNodes text)).run setting draws = ⟨.ok (.ofList text), draws, 0⟩ := by
  rw [Compiled.run, Compiled.render, ← renderBy_callIn, renderBy_textNodes]
  rfl

end

/-- Outside strict mode a source that cannot be compiled is static text, and the mode makes no other
difference. -/
theorem compile_lenient (source : String) :
    compile source false =
      match compile source true with
      | .ok c => .ok c
      | .error _ => .ok (.static source) := by
  rcases hbraces : hasExpression source with _ | _
  · rw [compile_of_not_hasExpression hbraces, compile_of_not_hasExpression hbraces]
  · rw [compile_of_hasExpression hbraces, compile_of_hasExpression hbraces]
    rcases compileNodes source with e | ns <;> rfl

/-- A source without double braces can be read, as text only. Whatever answers the functions, this
renders to the source and leaves the state as it is: nothing is called and nothing is drawn. That is
the static text that the source is compiled to. Any other source becomes static text, which renders
to the source too, exactly where it cannot be compiled and templates are not strict. -/
theorem static_shortcut (source : String) :
    (¬ ['\x7b', '\x7b'] <:+: source.toList →
      ∃ ts ns, tokenize source = .ok ts ∧ parse ts = .ok ns ∧ (∀ n ∈ ns, n = .text source) ∧
        (∀ call s, renderBy call ns s = .ok source s) ∧
        (∀ setting draws, (Compiled.nodes ns).run setting draws = ⟨.ok source, draws, 0⟩) ∧
        ∀ strict, compile source strict = .ok (.static source)) ∧
      (compile source false =
        match compile source true with
        | .ok c => .ok c
        | .error _ => .ok (.static source)) ∧
      ∀ setting draws, (Compiled.static source).run setting draws = ⟨.ok source, draws, 0⟩ := by
  refine ⟨fun h => ?_, compile_lenient source, fun _ _ => rfl⟩
  have hown : String.ofList source.toList = source := String.ofList_toList
  refine ⟨_, _, tokenize_of_isText h, parse_textTokens _, fun n hn => ?_, fun call s => ?_,
    fun setting draws => ?_, compile_of_not_hasExpression (hasExpression_eq_false_iff.2 h)⟩
  · rw [eq_text_of_mem_textNodes hn, hown]
  · rw [renderBy_textNodes, hown]
    rfl
  · rw [run_textNodes, hown]

/-- Single braces, closing ones and one at the very end are text, which renders even where every
call fails. -/
theorem braces_static_shortcut :
    let source := "\x7b ü\x7d\x7d ï \x7d\x7b"
    ¬ ['\x7b', '\x7b'] <:+: source.toList ∧
      ∃ ts ns, tokenize source = .ok ts ∧ parse ts = .ok ns ∧ (∀ n ∈ ns, n = .text source) ∧
        (∀ s, renderBy (fun name _ => throw (.undefinedFunction name)) ns s = .ok source s) ∧
        compile source false = .ok (.static source) := by
  intro source
  have htext : ¬ ['\x7b', '\x7b'] <:+: source.toList := by decide +kernel
  obtain ⟨ts, ns, hts, hns, hnodes, hrender, -, hcompile⟩ := (static_shortcut source).1 htext
  exact ⟨htext, ts, ns, hts, hns, hnodes, hrender _, hcompile false⟩

end Template

end StubServer
