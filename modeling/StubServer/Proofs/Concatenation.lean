import StubServer.Proofs.Printing
import StubServer.Template.Render

/-!
# Templates side by side

Of two sources put one behind the other only the texts at the seam become one token, as long as no
double brace arises there. The nodes of the whole are those of both parts, and what the first part
leaves of the variables and the words is what the second one goes on with (`compile_append`).
-/

namespace StubServer

namespace Template

/-! ## The seam -/

theorem isText_append {cs ds : List Char} :
    IsText (cs ++ ds) ↔ IsText cs ∧ IsText ds ∧
      ¬ (cs.getLast? = some '\x7b' ∧ ds.head? = some '\x7b') := by
  induction cs with
  | nil => simp [isText_nil]
  | cons c cs ih =>
    rw [List.cons_append, isText_cons, isText_cons, ih]
    cases cs with
    | nil =>
      simp only [List.nil_append, List.head?_nil, List.getLast?_nil, List.getLast?_singleton,
        isText_nil, Option.some.injEq, reduceCtorEq, and_false, false_and, not_false_eq_true,
        true_and, and_true]
      exact and_comm
    | cons d cs => simp [and_assoc]

/-- A template begins with text, which can be made longer at the front. -/
theorem Spells.exists_first {ts : List Token} {cs : List Char} (h : Spells ts cs) :
    ∃ text more, ts = textTokens text ++ more ++ [.eof] ∧
      ∀ front, IsText front → ¬ (front.getLast? = some '\x7b' ∧ cs.head? = some '\x7b') →
        Spells (textTokens (front ++ text) ++ more ++ [.eof]) (front ++ cs) := by
  cases h with
  | last htext =>
    refine ⟨cs, [], by simp, fun front hfront hseam => ?_⟩
    rw [List.append_nil]
    exact .last (isText_append.2 ⟨hfront, htext, hseam⟩)
  | @expression text body rest us more htext hend hus hmore =>
    obtain ⟨init, rfl, -⟩ := tokens_of_spells hmore
    refine ⟨text, .exprStart :: us ++ init, by simp, fun front hfront hseam => ?_⟩
    have hwhole : IsText (front ++ text) := by
      refine isText_append.2 ⟨hfront, htext, fun hboth => hseam ⟨hboth.1, ?_⟩⟩
      simp [List.head?_append, hboth.2]
    have hbrace : (front ++ text).getLast? ≠ some '\x7b' := by
      -- Without text of its own the template begins with the braces that the seam keeps off.
      rcases text with _ | ⟨c, text⟩
      · rw [List.append_nil]
        exact fun hlast => hseam ⟨hlast, rfl⟩
      · rwa [List.getLast?_append_of_ne_nil _ (List.cons_ne_nil c text)]
    have hspells := Spells.expression hwhole hbrace hus hmore
    simpa using hspells

/-- A template ends with text, and what stands in front of that can stand in front of any
template. -/
theorem Spells.exists_last {ts : List Token} {cs : List Char} (h : Spells ts cs) :
    ∃ init start text, ts = init ++ textTokens text ++ [.eof] ∧ cs = start ++ text ∧ IsText text ∧
      ∀ {more : List Token} {rest : List Char}, Spells more rest →
        Spells (init ++ more) (start ++ rest) := by
  induction h with
  | @last text htext => exact ⟨[], [], text, rfl, rfl, htext, id⟩
  | @expression text body rest us more htext hend hus _ ih =>
    obtain ⟨init, start, last, rfl, rfl, hlast, hfront⟩ := ih
    refine ⟨textTokens text ++ .exprStart :: us ++ init,
      text ++ '\x7b' :: '\x7b' :: body ++ start, last, by simp, by simp, hlast, fun hmore => ?_⟩
    have hspells := Spells.expression htext hend hus (hfront hmore)
    simpa using hspells

/-- Two templates are spelled by the tokens of both, with the texts at the seam in one token. -/
theorem Spells.append {ts us : List Token} {cs ds : List Char} (hts : Spells (ts ++ [.eof]) cs)
    (hus : Spells (us ++ [.eof]) ds)
    (hseam : ¬ (cs.getLast? = some '\x7b' ∧ ds.head? = some '\x7b')) :
    ∃ init last first more, ts = init ++ textTokens last ∧ us = textTokens first ++ more ∧
      Spells (init ++ textTokens (last ++ first) ++ more ++ [.eof]) (cs ++ ds) := by
  obtain ⟨init, start, last, hinit, rfl, hlast, hfront⟩ := hts.exists_last
  obtain ⟨first, more, hmore, hjoin⟩ := hus.exists_first
  refine ⟨init, last, first, more, List.append_cancel_right hinit, List.append_cancel_right hmore,
    ?_⟩
  have hmeet : ¬ (last.getLast? = some '\x7b' ∧ ds.head? = some '\x7b') := by
    refine fun hboth => hseam ⟨?_, hboth.2⟩
    simp [List.getLast?_append, hboth.1]
  have hspells := hfront (hjoin last hlast hmeet)
  simpa using hspells

/-! ## The nodes of both parts -/

/-- The node of a text, unless there is no text. -/
def textNodes (text : List Char) : List Node :=
  if text.isEmpty then [] else [.text (.ofList text)]

theorem Content.append {ts us : List Token} {ns ms : List Node} (h : Content ts ns)
    (hus : Content us ms) : Content (ts ++ us) (ns ++ ms) := by
  induction h with
  | nil => exact hus
  | text ht _ ih => exact .text ht ih
  | expression hopening hinner hown hclosing _ ih =>
    have h := Content.expression hopening hinner hown hclosing ih
    simpa using h
  | block hopening hname hparams hclosing hbody hopening' hname' hsame hclosing' _ _ ih =>
    have h := Content.block hopening hname hparams hclosing hbody hopening' hname' hsame hclosing' ih
    simpa using h

theorem content_textTokens (text : List Char) : Content (textTokens text) (textNodes text) := by
  cases text with
  | nil => exact .nil
  | cons c text => exact .text rfl .nil

theorem content_cons_text {t : Token} {ts : List Token} {ns : List Node} (ht : t.kind = .text)
    (h : Content (t :: ts) ns) : ∃ ms, ns = .text t.text :: ms ∧ Content ts ms := by
  generalize hus : t :: ts = us at h
  cases h with
  | nil => simp at hus
  | text _ hts =>
    obtain ⟨rfl, rfl⟩ := List.cons.inj hus
    exact ⟨_, rfl, hts⟩
  | expression hopening =>
    obtain ⟨rfl, -⟩ := List.cons.inj hus
    simp [ht] at hopening
  | block hopening =>
    obtain ⟨rfl, -⟩ := List.cons.inj hus
    simp [ht] at hopening

theorem content_of_textTokens_append {text : List Char} {ts : List Token} {ns : List Node}
    (h : Content (textTokens text ++ ts) ns) : ∃ ms, ns = textNodes text ++ ms ∧ Content ts ms := by
  cases text with
  | nil => exact ⟨ns, rfl, h⟩
  | cons c text => exact content_cons_text rfl h

/-- Where the last token is another one than the closing token, there are tokens behind that. -/
theorem eq_append_of_append_cons_eq {closing t : Token} {used ts us : List Token}
    (hne : closing ≠ t) (h : used ++ closing :: us = ts ++ [t]) :
    ∃ rest, us = rest ++ [t] ∧ ts = used ++ closing :: rest := by
  rcases List.eq_nil_or_concat us with rfl | ⟨rest, last, rfl⟩
  · obtain ⟨-, hlast⟩ := List.append_inj' h rfl
    exact absurd (List.cons.inj hlast).1 hne
  · rw [List.concat_eq_append, ← List.cons_append, ← List.append_assoc] at h
    obtain ⟨rfl, hlast⟩ := List.append_inj' h rfl
    rw [(List.cons.inj hlast).1, List.concat_eq_append]
    exact ⟨rest, rfl, rfl⟩

/-- A text at the very end stands in no block. -/
theorem Content.exists_of_append_text {us : List Token} {ns : List Node} (h : Content us ns) :
    ∀ {ts : List Token} {t : Token}, us = ts ++ [t] → t.kind = .text →
      ∃ ms, ns = ms ++ [.text t.text] ∧ Content ts ms := by
  induction h with
  | nil =>
    intro ts t hus _
    simp at hus
  | @text t' us ns ht' hns ih =>
    intro ts t hus ht
    rcases ts with _ | ⟨x, ts⟩
    · obtain ⟨rfl, rfl⟩ := List.cons.inj hus
      exact ⟨[], by rw [hns.eq_nil rfl]; rfl, .nil⟩
    · rw [List.cons_append, List.cons.injEq] at hus
      obtain ⟨rfl, hus⟩ := hus
      obtain ⟨ms, rfl, hms⟩ := ih hus ht
      exact ⟨_, rfl, .text ht' hms⟩
  | @expression opening closing inner us own ns hopening hinner hown hclosing _ ih =>
    intro ts t hus ht
    have hne : closing ≠ t := by
      rintro rfl
      simp [hclosing] at ht
    obtain ⟨rest, hrest, rfl⟩ := eq_append_of_append_cons_eq hne hus
    obtain ⟨ms, rfl, hms⟩ := ih hrest ht
    exact ⟨own ++ ms, by simp, .expression hopening hinner hown hclosing hms⟩
  | @block opening name closing opening' name' closing' items content us params body ns hopening
      hname hparams hclosing hbody hopening' hname' hsame hclosing' _ _ ih =>
    intro ts t hus ht
    have hne : closing' ≠ t := by
      rintro rfl
      simp [hclosing'] at ht
    have hus' : (opening :: name :: items ++ closing :: content ++ [opening', name']) ++
        closing' :: us = ts ++ [t] := by simpa using hus
    obtain ⟨rest, hrest, rfl⟩ := eq_append_of_append_cons_eq hne hus'
    obtain ⟨ms, rfl, hms⟩ := ih hrest ht
    refine ⟨blockOf name.text params body ++ ms, by simp, ?_⟩
    have h := Content.block hopening hname hparams hclosing hbody hopening' hname' hsame hclosing'
      hms
    simpa using h

theorem content_of_append_textTokens {text : List Char} {ts : List Token} {ns : List Node}
    (h : Content (ts ++ textTokens text) ns) : ∃ ms, ns = ms ++ textNodes text ∧ Content ts ms := by
  cases text with
  | nil => exact ⟨ns, (List.append_nil ns).symm, List.append_nil ts ▸ h⟩
  | cons c text => exact h.exists_of_append_text rfl rfl

/-! ## Rendering both parts -/

theorem render_append (setting : Setting) (ns ms : List Node) :
    render setting (ns ++ ms) = do
      let first ← render setting ns
      let second ← render setting ms
      return first ++ second := by
  induction ns with
  | nil =>
    simp only [List.nil_append, render, pure_bind, String.empty_append, bind_pure]
  | cons n ns ih =>
    simp only [List.cons_append, render, ih, bind_assoc, pure_bind, String.append_assoc]

theorem render_textNodes (setting : Setting) (text : List Char) :
    render setting (textNodes text) = pure (.ofList text) := by
  cases text with
  | nil => simp [textNodes, render]
  | cons c text => simp [textNodes, render, evaluate, Value.text]

/-! ## Sources -/

theorem compileNodes_append {s t : String} {ns ms : List Node} (hs : compileNodes s = .ok ns)
    (ht : compileNodes t = .ok ms)
    (hseam : ¬ (s.toList.getLast? = some '\x7b' ∧ t.toList.head? = some '\x7b')) :
    ∃ os, compileNodes (s ++ t) = .ok os ∧ ∀ setting, render setting os = do
      let first ← render setting ns
      let second ← render setting ms
      return first ++ second := by
  obtain ⟨ts, hts, hns⟩ := compileNodes_eq_ok_iff.1 hs
  obtain ⟨us, hus, hms⟩ := compileNodes_eq_ok_iff.1 ht
  obtain ⟨init, last, first, more, rfl, rfl, hspells⟩ := hts.append hus hseam
  obtain ⟨ns, rfl, hinit⟩ := content_of_append_textTokens hns
  obtain ⟨ms, rfl, hmore⟩ := content_of_textTokens_append hms
  refine ⟨ns ++ textNodes (last ++ first) ++ ms, ?_, fun setting => ?_⟩
  · refine compileNodes_eq_ok_iff.2 ⟨_, ?_, (hinit.append (content_textTokens _)).append hmore⟩
    rwa [String.toList_append]
  · simp only [render_append, render_textNodes, bind_assoc, pure_bind, String.ofList_append,
      String.append_assoc]

theorem hasExpression_eq_false_iff {source : String} :
    hasExpression source = false ↔ IsText source.toList := by
  rw [IsText, ← Text.occursIn_iff, hasExpression, Bool.not_eq_true]

/-- A source without double braces has the one node of its text. -/
theorem compileNodes_of_not_hasExpression {source : String} (h : hasExpression source = false) :
    compileNodes source = .ok (textNodes source.toList) :=
  compileNodes_eq_ok_iff.2
    ⟨_, .last (hasExpression_eq_false_iff.1 h), content_textTokens _⟩

theorem compile_of_compileNodes {source : String} {ns : List Node}
    (h : compileNodes source = .ok ns) :
    ∃ c, compile source true = .ok c ∧ ∀ setting, c.render setting = render setting ns := by
  unfold compile
  rcases hbraces : hasExpression source with _ | _
  · rw [compileNodes_of_not_hasExpression hbraces, Except.ok.injEq] at h
    refine ⟨.static source, rfl, fun setting => ?_⟩
    rw [← h, render_textNodes, String.ofList_toList]
    rfl
  · refine ⟨.nodes ns, ?_, fun setting => rfl⟩
    simp [h]

theorem compileNodes_of_compile {source : String} {c : Compiled}
    (h : compile source true = .ok c) :
    ∃ ns, compileNodes source = .ok ns ∧ ∀ setting, c.render setting = render setting ns := by
  obtain ⟨ns, hns⟩ : ∃ ns, compileNodes source = .ok ns := by
    rcases hbraces : hasExpression source with _ | _
    · exact ⟨_, compileNodes_of_not_hasExpression hbraces⟩
    · rcases hns : compileNodes source with e | ns
      · simp [compile, hbraces, hns] at h
      · exact ⟨ns, rfl⟩
  obtain ⟨d, hd, hrender⟩ := compile_of_compileNodes hns
  obtain rfl : d = c := Except.ok.inj (hd.symm.trans h)
  exact ⟨ns, hns, hrender⟩

/-- Sources that can each be compiled can be compiled side by side, unless the first one ends with
a brace and the second one begins with one. The whole renders as the first part and then, in the
state that this left, the second; where a part fails the whole fails in the same way. -/
theorem compile_append {s t : String} {a b : Compiled} (hs : compile s true = .ok a)
    (ht : compile t true = .ok b)
    (hseam : ¬ (s.toList.getLast? = some '\x7b' ∧ t.toList.head? = some '\x7b')) :
    ∃ c, compile (s ++ t) true = .ok c ∧ ∀ setting state,
      c.render setting state =
        match a.render setting state with
        | .error e left => .error e left
        | .ok first left =>
          match b.render setting left with
          | .error e last => .error e last
          | .ok second last => .ok (first ++ second) last := by
  obtain ⟨ns, hns, ha⟩ := compileNodes_of_compile hs
  obtain ⟨ms, hms, hb⟩ := compileNodes_of_compile ht
  obtain ⟨os, hos, hboth⟩ := compileNodes_append hns hms hseam
  obtain ⟨c, hc, hrender⟩ := compile_of_compileNodes hos
  refine ⟨c, hc, fun setting state => ?_⟩
  rw [hrender, hboth, ha, hb, Rendering.bind_eq]
  rcases render setting ns state with ⟨first, left⟩ | ⟨e, left⟩
  · dsimp only
    rw [Rendering.bind_eq]
    rcases render setting ms left with ⟨second, last⟩ | ⟨e, last⟩ <;> rfl
  · rfl

/-- Binds a variable and ends with a brace. -/
def binding : String := "\x7b\x7b var 'x' 'b' \x7d\x7da\x7b"

/-- Reads the variable. -/
def reading : String := "c\x7b\x7b @x \x7d\x7d"

/-- What a source that can be compiled renders to without a request. -/
def renderedAlone (source : String) : Option (Except EvalError String) :=
  (compile source true).toOption.map fun c => (c.run ⟨⟨0, 0, 0⟩, none⟩ ⟨fun _ => 0, 0⟩).text

theorem binding_compile_append :
    ∃ a b c, compile binding true = .ok a ∧ compile reading true = .ok b ∧
      compile (binding ++ reading) true = .ok c ∧
      renderedAlone reading = some (.error (.undefinedVariable "x")) ∧
      renderedAlone (binding ++ reading) = some (.ok "a\x7bcb") ∧
      ∀ setting state,
        c.render setting state =
          match a.render setting state with
          | .error e left => .error e left
          | .ok first left =>
            match b.render setting left with
            | .error e last => .error e last
            | .ok second last => .ok (first ++ second) last := by
  have hbinding : (compile binding true).isOk = true := by decide +kernel
  have hreading : (compile reading true).isOk = true := by decide +kernel
  obtain ⟨a, ha⟩ := exists_of_isOk hbinding
  obtain ⟨b, hb⟩ := exists_of_isOk hreading
  obtain ⟨c, hc, hrender⟩ := compile_append ha hb (by decide)
  exact ⟨a, b, c, ha, hb, hc, by decide +kernel, by decide +kernel, hrender⟩

end Template

end StubServer
