import StubServer.Proofs.Grammar
import StubServer.Proofs.Spelling
import StubServer.Template.Compile

/-!
# Printing templates

Nodes are printed as the tokens that derive them, each token of an expression behind one space.
The nodes that a source can have are told by their shape alone (`WellFormed`), and compiling what
these print gives them back (`compileNodes_print`).
-/

namespace StubServer

namespace Template

/-! ## Printed nodes -/

mutual

/-- The tokens of an item that has its group to itself. -/
def itemTokens : Node → List Token
  | .literal s => [⟨.string, s⟩]
  | .variable name => [⟨.varIdentifier, name⟩]
  | .function name params => ⟨.functionName, name⟩ :: parameterTokens params
  | _ => []

/-- The tokens of the parameters of a function or a block. A function among them is in
parentheses. -/
def parameterTokens : List Node → List Token
  | [] => []
  | .function name params :: ns =>
    .subExprStart :: ⟨.functionName, name⟩ :: parameterTokens params ++
      .subExprEnd :: parameterTokens ns
  | n :: ns => itemTokens n ++ parameterTokens ns

end

/-- What stands between two texts: an expression without a node. -/
def separator : Node → List Node → List Token
  | .text _, .text _ :: _ => [.exprStart, .exprEnd]
  | _, _ => []

mutual

def nodeTokens : Node → List Token
  | .text s => [⟨.text, s⟩]
  | .block name params body =>
    .exprStart :: ⟨.blockStart, name⟩ :: parameterTokens params ++ .exprEnd :: contentTokens body ++
      [.exprStart, ⟨.blockEnd, name⟩, .exprEnd]
  | n => .exprStart :: itemTokens n ++ [.exprEnd]

/-- The tokens of the nodes of a template or a block. -/
def contentTokens : List Node → List Token
  | [] => []
  | n :: ns => nodeTokens n ++ separator n ns ++ contentTokens ns

end

/-- A token as it is printed, in an expression behind a space. -/
def Token.printed (t : Token) : List Char :=
  match t.kind with
  | .text | .exprStart | .eof => t.spelling
  | _ => ' ' :: t.spelling

def printTokens (ts : List Token) : List Char :=
  ts.flatMap Token.printed

/-- The source of the nodes. -/
def print (ns : List Node) : String :=
  .ofList (printTokens (contentTokens ns))

/-! ## The shape of nodes -/

/-- A node that can be an item of a group. -/
inductive IsItem : Node → Prop
  | literal {s : String} (hs : '\'' ∉ s.toList) : IsItem (.literal s)
  | reference {name : String} (hname : IsName name.toList) : IsItem (.variable name)
  | function {name : String} {params : List Node} (hname : IsIdentifier name.toList)
      (hparams : ∀ n ∈ params, IsItem n) : IsItem (.function name params)

/-- Nodes behind which nothing is printed if `isLast` holds, and the end of a block otherwise. -/
inductive IsContent : Bool → List Node → Prop
  | nil {isLast : Bool} : IsContent isLast []
  | text {isLast : Bool} {s : String} {ns : List Node} (hne : s ≠ "") (hs : IsText s.toList)
      (hend : (isLast = true ∧ ns = []) ∨ s.toList.getLast? ≠ some '\x7b')
      (hns : IsContent isLast ns) : IsContent isLast (.text s :: ns)
  | item {isLast : Bool} {n : Node} {ns : List Node} (hn : IsItem n) (hns : IsContent isLast ns) :
      IsContent isLast (n :: ns)
  | block {isLast : Bool} {name : String} {params body ns : List Node}
      (hname : IsName name.toList) (hparams : ∀ n ∈ params, IsItem n) (hne : body ≠ [])
      (hbody : IsContent false body) (hns : IsContent isLast ns) :
      IsContent isLast (.block name params body :: ns)

/-- The shape of the nodes of a template. -/
def WellFormed (ns : List Node) : Prop :=
  IsContent true ns

/-! ## Printed nodes are derived -/

theorem items_parameterTokens {ns : List Node}
    (h : ∀ n ∈ ns, IsItem n ∧ Items (itemTokens n) [n]) : Items (parameterTokens ns) ns := by
  induction ns with
  | nil => exact .nil
  | cons n ns ih =>
    have hns := ih fun m hm => h m (List.mem_cons_of_mem n hm)
    obtain ⟨hn, hitem⟩ := h n List.mem_cons_self
    cases hn with
    | literal => exact .literal (Or.inl rfl) hns
    | reference => exact .reference rfl hns
    | function => exact .group rfl hitem (Nat.le_refl 1) rfl hns

theorem IsItem.items {n : Node} (h : IsItem n) : Items (itemTokens n) [n] := by
  induction h with
  | literal => exact .literal (Or.inl rfl) .nil
  | reference => exact .reference rfl .nil
  | function _ hparams ih =>
    exact .function rfl (items_parameterTokens fun n hn => ⟨hparams n hn, ih n hn⟩)

theorem nodeTokens_of_isItem {n : Node} (h : IsItem n) :
    nodeTokens n = .exprStart :: itemTokens n ++ [.exprEnd] := by
  cases h <;> rfl

theorem separator_of_isItem {n : Node} (h : IsItem n) (ns : List Node) : separator n ns = [] := by
  cases h <;> rfl

theorem Content.empty_expression {ts : List Token} {ns : List Node} (h : Content ts ns) :
    Content (.exprStart :: .exprEnd :: ts) ns :=
  .expression rfl .nil (Nat.zero_le 1) rfl h

theorem IsContent.content {isLast : Bool} {ns : List Node} (h : IsContent isLast ns) :
    Content (contentTokens ns) ns := by
  induction h with
  | nil => exact .nil
  | @text isLast s ns _ _ _ _ ih =>
    refine .text rfl ?_
    unfold separator
    split
    · exact ih.empty_expression
    · exact ih
  | @item isLast n ns hn _ ih =>
    rw [contentTokens, nodeTokens_of_isItem hn, separator_of_isItem hn]
    have h : Content (.exprStart :: itemTokens n ++ .exprEnd :: contentTokens ns) ([n] ++ ns) :=
      .expression rfl hn.items (Nat.le_refl 1) rfl ih
    simpa using h
  | @block isLast name params body ns _ hparams hne _ _ ihbody ih =>
    have hitems := items_parameterTokens fun n hn => ⟨hparams n hn, (hparams n hn).items⟩
    have h : Content (.exprStart :: ⟨.blockStart, name⟩ :: parameterTokens params ++
        .exprEnd :: contentTokens body ++
        .exprStart :: ⟨.blockEnd, name⟩ :: .exprEnd :: contentTokens ns)
        (blockOf name params body ++ ns) :=
      .block rfl rfl hitems rfl ihbody rfl rfl (Or.inl rfl) rfl ih
    simpa [contentTokens, nodeTokens, separator, blockOf, hne] using h

/-! ## Printed nodes are spelled -/

/-- The tokens are read off what they print. -/
def Prints (ts : List Token) : Prop :=
  Spells ts (printTokens ts)

theorem printed_of_isInner {t : Token} (h : t.IsInner) : t.printed = ' ' :: t.spelling := by
  rcases t with ⟨kind, text⟩
  cases kind with
  | text => exact absurd h id
  | exprStart => exact absurd h id
  | eof => exact absurd h id
  | _ => rfl

theorem endsBefore_space (t : Token) : t.EndsBefore ' ' := by
  rcases t with ⟨kind, text⟩
  have hblank : Text.isBlank ' ' = true := by decide
  have hident : isIdentChar ' ' = false := by decide
  cases kind <;> simp [Token.EndsBefore, hblank, hident]

theorem head?_printTokens {inner : List Token} (h : ∀ t ∈ inner, t.IsInner) :
    (printTokens (inner ++ [.exprEnd])).head? = some ' ' := by
  cases inner with
  | nil => rfl
  | cons t inner => simp [printTokens, printed_of_isInner (h t List.mem_cons_self)]

theorem spellsExpression_printTokens {inner : List Token} (h : ∀ t ∈ inner, t.IsInner) :
    SpellsExpression (inner ++ [.exprEnd]) (printTokens (inner ++ [.exprEnd])) := by
  have hgap : ∀ c ∈ [' '], Text.isBlank c = true := List.forall_mem_singleton.2 (by decide)
  induction inner with
  | nil => exact .close hgap
  | cons t inner ih =>
    have ht := h t List.mem_cons_self
    have hinner : ∀ t' ∈ inner, t'.IsInner := fun t' ht' => h t' (List.mem_cons_of_mem t ht')
    have hends : ∀ c ∈ (printTokens (inner ++ [.exprEnd])).head?, t.EndsBefore c := by
      intro c hc
      rw [head?_printTokens hinner] at hc
      obtain rfl := Option.mem_some_iff.1 hc
      exact endsBefore_space t
    have h := SpellsExpression.inner hgap ht hends (ih hinner)
    simpa [printTokens, printed_of_isInner ht] using h

theorem isText_nil : IsText [] := by
  simp [IsText]

theorem prints_expression {inner more : List Token} (h : ∀ t ∈ inner, t.IsInner)
    (hmore : Prints more) : Prints (.exprStart :: inner ++ .exprEnd :: more) := by
  have hspells := Spells.expression isText_nil (by simp) (spellsExpression_printTokens h) hmore
  unfold Prints
  simpa [printTokens, textTokens, Token.printed, Token.spelling, Token.exprStart] using hspells

/-- Text is kept apart from what follows it: either nothing, or braces that it does not run into. -/
theorem prints_text {s : String} {more : List Token} (hne : s ≠ "") (hs : IsText s.toList)
    (hmore : Prints more)
    (hend : more = [.eof] ∨ more.head? = some .exprStart ∧ s.toList.getLast? ≠ some '\x7b') :
    Prints (⟨.text, s⟩ :: more) := by
  have htext : textTokens s.toList = [⟨.text, s⟩] := by simp [textTokens, hne]
  rcases hend with rfl | ⟨hhead, hend⟩
  · have h := Spells.last hs
    rw [htext] at h
    simpa [Prints, printTokens, Token.printed, Token.spelling, Token.eof] using h
  · change Spells (⟨.text, s⟩ :: more) (s.toList ++ printTokens more)
    unfold Prints at hmore
    generalize printTokens more = cs at hmore ⊢
    -- What begins with braces is spelled with no text in front of them.
    cases hmore with
    | last _ =>
      rcases cs with _ | ⟨c, cs⟩ <;> simp [textTokens, Token.eof, Token.exprStart] at hhead
    | @expression text cs rest ts more _ _ hts hmore =>
      rcases text with _ | ⟨c, text⟩
      · have h := Spells.expression hs hend hts hmore
        rw [htext] at h
        simpa [textTokens] using h
      · simp [textTokens, Token.exprStart] at hhead

/-! ### Nodes -/

theorem inner_parameterTokens {ns : List Node}
    (h : ∀ n ∈ ns, IsItem n ∧ ∀ t ∈ itemTokens n, t.IsInner) :
    ∀ t ∈ parameterTokens ns, t.IsInner := by
  induction ns with
  | nil => simp [parameterTokens]
  | cons n ns ih =>
    have hns := ih fun m hm => h m (List.mem_cons_of_mem n hm)
    obtain ⟨hn, hitem⟩ := h n List.mem_cons_self
    cases hn with
    | literal => exact List.forall_mem_append.2 ⟨hitem, hns⟩
    | reference => exact List.forall_mem_append.2 ⟨hitem, hns⟩
    | function =>
      have hopening : Token.subExprStart.IsInner := rfl
      have hclosing : Token.subExprEnd.IsInner := rfl
      refine List.forall_mem_append.2 ⟨?_, ?_⟩
      · exact List.forall_mem_cons.2 ⟨hopening, hitem⟩
      · exact List.forall_mem_cons.2 ⟨hclosing, hns⟩

theorem IsItem.inner {n : Node} (h : IsItem n) : ∀ t ∈ itemTokens n, t.IsInner := by
  induction h with
  | literal hs => simpa [itemTokens, Token.IsInner] using hs
  | reference hname => simpa [itemTokens, Token.IsInner] using hname
  | @function name params hname hparams ih =>
    have h := inner_parameterTokens fun n hn => ⟨hparams n hn, ih n hn⟩
    intro t ht
    rcases List.mem_cons.1 ht with rfl | ht
    · exact hname
    · exact h t ht

/-- Between a text and another node stands an opening brace. -/
theorem prints_separator (s : String) (n : Node) {ns : List Node} {more : List Token}
    (h : Prints (contentTokens (n :: ns) ++ more)) :
    Prints (separator (.text s) (n :: ns) ++ (contentTokens (n :: ns) ++ more)) ∧
      (separator (.text s) (n :: ns) ++ (contentTokens (n :: ns) ++ more)).head? =
        some .exprStart := by
  cases n with
  | text =>
    have hinner : ∀ t ∈ [], Token.IsInner t := by simp
    exact ⟨prints_expression hinner h, rfl⟩
  | _ => exact ⟨h, rfl⟩

theorem IsContent.prints {isLast : Bool} {ns : List Node} (h : IsContent isLast ns) :
    ∀ {more : List Token}, Prints more →
      (if isLast then more = [.eof] else more.head? = some .exprStart) →
      Prints (contentTokens ns ++ more) := by
  induction h with
  | nil =>
    intro more hmore _
    exact hmore
  | @text isLast s ns hne hs hend _ ih =>
    intro more hmore hfollow
    rcases ns with _ | ⟨n, ns⟩
    · refine prints_text hne hs hmore ?_
      cases isLast with
      | true => exact Or.inl hfollow
      | false => exact Or.inr ⟨hfollow, by simpa using hend⟩
    · obtain ⟨hns, hhead⟩ := prints_separator s n (ih hmore hfollow)
      have h := prints_text hne hs hns (Or.inr ⟨hhead, by simpa using hend⟩)
      rw [contentTokens, List.append_assoc, List.append_assoc]
      exact h
  | @item isLast n ns hn _ ih =>
    intro more hmore hfollow
    have h := prints_expression hn.inner (ih hmore hfollow)
    rw [contentTokens, nodeTokens_of_isItem hn, separator_of_isItem hn]
    simpa using h
  | @block isLast name params body ns hname hparams hne _ _ ihbody ih =>
    intro more hmore hfollow
    have hitems := inner_parameterTokens fun n hn => ⟨hparams n hn, (hparams n hn).inner⟩
    have hend : ∀ t ∈ [(⟨.blockEnd, name⟩ : Token)], t.IsInner := by
      simpa [Token.IsInner] using hname
    have hstart : ∀ t ∈ (⟨.blockStart, name⟩ : Token) :: parameterTokens params, t.IsInner := by
      intro t ht
      rcases List.mem_cons.1 ht with rfl | ht
      · exact hname
      · exact hitems t ht
    have h := prints_expression hstart (ihbody (prints_expression hend (ih hmore hfollow)) rfl)
    simpa [contentTokens, nodeTokens, separator] using h

/-! ### Templates -/

theorem Items.kind_ne_eof {ts : List Token} {ns : List Node} (h : Items ts ns) :
    ∀ t ∈ ts, t.kind ≠ .eof := by
  induction h with
  | nil => simp
  | literal ht _ ih =>
    rcases ht with ht | ht <;> exact List.forall_mem_cons.2 ⟨by simp [ht], ih⟩
  | reference ht _ ih => exact List.forall_mem_cons.2 ⟨by simp [ht], ih⟩
  | group hopening _ _ hclosing _ ihinner ih =>
    simp only [List.forall_mem_append, List.forall_mem_cons]
    exact ⟨⟨by simp [hopening], ihinner⟩, by simp [hclosing], ih⟩
  | function ht _ ih => exact List.forall_mem_cons.2 ⟨by simp [ht], ih⟩

theorem Content.kind_ne_eof {ts : List Token} {ns : List Node} (h : Content ts ns) :
    ∀ t ∈ ts, t.kind ≠ .eof := by
  induction h with
  | nil => simp
  | text ht _ ih => exact List.forall_mem_cons.2 ⟨by simp [ht], ih⟩
  | expression hopening hinner _ hclosing _ ih =>
    simp only [List.forall_mem_append, List.forall_mem_cons]
    exact ⟨⟨by simp [hopening], hinner.kind_ne_eof⟩, by simp [hclosing], ih⟩
  | block hopening hname hparams hclosing _ hopening' hname' _ hclosing' _ ihbody ih =>
    simp only [List.forall_mem_append, List.forall_mem_cons]
    refine ⟨⟨⟨by simp [hopening], by simp [hname], hparams.kind_ne_eof⟩, by simp [hclosing], ?_⟩, ?_⟩
    · exact ihbody
    · exact ⟨by simp [hopening'], by simp [hname'], by simp [hclosing'], ih⟩

theorem beforeEnd_append_eof {ts : List Token} (h : ∀ t ∈ ts, t.kind ≠ .eof) :
    beforeEnd (ts ++ [.eof]) = ts := by
  unfold beforeEnd
  rw [List.takeWhile_append_of_pos (by simpa using h)]
  simp [Token.eof]

/-! ## Templates are well formed -/

/-- A token as templates spell it. -/
def Token.IsSpelled (t : Token) : Prop :=
  match t.kind with
  | .text => t.text ≠ "" ∧ IsText t.text.toList
  | .exprStart | .exprEnd => True
  | _ => t.IsInner

/-- No text runs into the braces behind it. The last token has none behind it if `isLast` holds. -/
def Apart (isLast : Bool) (ts : List Token) : Prop :=
  ∀ t ∈ if isLast then ts.dropLast else ts,
    t.kind = .text → t.text.toList.getLast? ≠ some '\x7b'

theorem Apart.of_suffix {isLast : Bool} {ts ts' : List Token} (h : Apart isLast ts)
    (hsuffix : ts' <:+ ts) : Apart isLast ts' := by
  obtain ⟨before, rfl⟩ := hsuffix
  intro t ht
  refine h t ?_
  cases isLast with
  | true =>
    have hne : ts' ≠ [] := by
      rintro rfl
      simp at ht
    rw [if_pos rfl, List.dropLast_append_of_ne_nil hne]
    exact List.mem_append_right before ht
  | false => exact List.mem_append_right before ht

theorem Apart.of_prefix {isLast : Bool} {ts ts' : List Token} (h : Apart isLast (ts ++ ts'))
    (hne : ts' ≠ []) : Apart false ts := by
  intro t ht
  refine h t ?_
  cases isLast with
  | true =>
    rw [if_pos rfl, List.dropLast_append_of_ne_nil hne]
    exact List.mem_append_left _ ht
  | false => exact List.mem_append_left _ ht

theorem Apart.append {isLast : Bool} {ts ts' : List Token} (h : Apart false ts)
    (h' : Apart isLast ts') : Apart isLast (ts ++ ts') := by
  intro t ht
  cases isLast with
  | true =>
    rw [if_pos rfl, List.dropLast_append] at ht
    split at ht
    · exact h t ((List.dropLast_subset ts) ht)
    · exact (List.mem_append.1 ht).elim (h t) (h' t)
  | false => exact (List.mem_append.1 ht).elim (h t) (h' t)

theorem IsNumber.quote_notMem {cs : List Char} (h : IsNumber cs) : '\'' ∉ cs := by
  obtain ⟨whole, -, hwhole, rfl | ⟨fraction, -, hfraction, rfl⟩⟩ := h
  · exact fun hmem => absurd (hwhole _ hmem) (by decide)
  · simp only [List.mem_append, List.mem_cons]
    rintro (hmem | hmem | hmem)
    · exact absurd (hwhole _ hmem) (by decide)
    · exact absurd hmem (by decide)
    · exact absurd (hfraction _ hmem) (by decide)

theorem isItem_of_items {ts : List Token} {ns : List Node} (h : Items ts ns)
    (hts : ∀ t ∈ ts, t.IsSpelled) : ∀ n ∈ ns, IsItem n := by
  induction h with
  | nil => simp
  | @literal t ts ns ht _ ih =>
    obtain ⟨hspelled, hts⟩ := List.forall_mem_cons.1 hts
    refine List.forall_mem_cons.2 ⟨.literal ?_, ih hts⟩
    rcases ht with ht | ht <;> simp only [Token.IsSpelled, Token.IsInner, ht] at hspelled
    · exact hspelled
    · exact hspelled.quote_notMem
  | reference ht _ ih =>
    obtain ⟨hspelled, hts⟩ := List.forall_mem_cons.1 hts
    simp only [Token.IsSpelled, Token.IsInner, ht] at hspelled
    exact List.forall_mem_cons.2 ⟨.reference hspelled, ih hts⟩
  | group _ _ _ _ _ ihinner ih =>
    simp only [List.forall_mem_append, List.forall_mem_cons] at hts ⊢
    exact ⟨ihinner hts.1.2, ih hts.2.2⟩
  | function ht _ ih =>
    obtain ⟨hspelled, hts⟩ := List.forall_mem_cons.1 hts
    simp only [Token.IsSpelled, Token.IsInner, ht] at hspelled
    exact List.forall_mem_singleton.2 (.function hspelled (ih hts))

theorem IsContent.append {isLast : Bool} {own ns : List Node} (hown : ∀ n ∈ own, IsItem n)
    (hns : IsContent isLast ns) : IsContent isLast (own ++ ns) := by
  induction own with
  | nil => exact hns
  | cons n own ih =>
    exact .item (hown n List.mem_cons_self) (ih fun m hm => hown m (List.mem_cons_of_mem n hm))

theorem Content.eq_nil {ts : List Token} {ns : List Node} (h : Content ts ns) (hts : ts = []) :
    ns = [] := by
  cases h with
  | nil => rfl
  | _ => simp at hts

theorem isContent_of_content {isLast : Bool} {ts : List Token} {ns : List Node}
    (h : Content ts ns) (hts : ∀ t ∈ ts, t.IsSpelled) (hapart : Apart isLast ts) :
    IsContent isLast ns := by
  induction h generalizing isLast with
  | nil => exact .nil
  | @text t ts ns ht hns ih =>
    obtain ⟨hspelled, hts⟩ := List.forall_mem_cons.1 hts
    simp only [Token.IsSpelled, ht] at hspelled
    refine .text hspelled.1 hspelled.2 ?_ (ih hts (hapart.of_suffix ⟨[t], rfl⟩))
    -- Tokens may follow even if no node does, such as those of an empty expression.
    rcases ts with _ | ⟨t', ts⟩
    · cases isLast with
      | true => exact Or.inl ⟨rfl, hns.eq_nil rfl⟩
      | false => exact Or.inr (hapart t List.mem_cons_self ht)
    · have h : Apart isLast ([t] ++ t' :: ts) := hapart
      exact Or.inr (h.of_prefix (List.cons_ne_nil t' ts) t List.mem_cons_self ht)
  | @expression opening closing inner ts own ns _ hinner _ _ _ ih =>
    simp only [List.forall_mem_append, List.forall_mem_cons] at hts
    have hrest : Apart isLast ts := hapart.of_suffix ⟨opening :: inner ++ [closing], by simp⟩
    exact .append (isItem_of_items hinner hts.1.2) (ih hts.2.2 hrest)
  | @block opening name closing opening' name' closing' items content ts params body ns _ hname
      hparams _ _ _ _ _ _ _ ihbody ih =>
    simp only [List.forall_mem_append, List.forall_mem_cons] at hts
    obtain ⟨⟨⟨-, hspelled, hitems⟩, -, hcontent⟩, -, -, -, hrest⟩ := hts
    simp only [Token.IsSpelled, Token.IsInner, hname] at hspelled
    have hcontent' : Apart false content := by
      have h : Apart false (opening :: name :: items ++ closing :: content) :=
        hapart.of_prefix (List.cons_ne_nil opening' (name' :: closing' :: ts))
      exact h.of_suffix ⟨opening :: name :: items ++ [closing], by simp⟩
    have hrest' : Apart isLast ts := hapart.of_suffix
      ⟨opening :: name :: items ++ closing :: content ++ [opening', name', closing'], by simp⟩
    unfold blockOf
    split
    · exact ih hrest hrest'
    · rename_i hne
      exact .block hspelled (isItem_of_items hparams hitems) (by simpa using hne)
        (ihbody hcontent hcontent') (ih hrest hrest')

theorem mem_textTokens {t : Token} {text : List Char} :
    t ∈ textTokens text ↔ text ≠ [] ∧ t = ⟨.text, .ofList text⟩ := by
  unfold textTokens
  split <;> simp_all

theorem isSpelled_textTokens {text : List Char} (h : IsText text) :
    ∀ t ∈ textTokens text, t.IsSpelled := by
  intro t ht
  obtain ⟨hne, rfl⟩ := mem_textTokens.1 ht
  simpa [Token.IsSpelled, hne] using h

theorem Token.IsInner.kind_ne_text {t : Token} (h : t.IsInner) : t.kind ≠ .text := by
  intro hk
  simp [Token.IsInner, hk] at h

theorem Token.IsInner.isSpelled {t : Token} (h : t.IsInner) : t.IsSpelled := by
  rcases t with ⟨kind, text⟩
  cases kind with
  | text => exact absurd rfl h.kind_ne_text
  | exprStart => trivial
  | exprEnd => trivial
  | _ => exact h

theorem SpellsExpression.mem {ts : List Token} {cs : List Char} (h : SpellsExpression ts cs) :
    ∀ t ∈ ts, t.IsInner ∨ t = .exprEnd := by
  induction h with
  | close => simp
  | inner _ ht _ _ ih => exact List.forall_mem_cons.2 ⟨Or.inl ht, ih⟩

theorem tokens_of_spells {ts : List Token} {cs : List Char} (h : Spells ts cs) :
    ∃ init, ts = init ++ [.eof] ∧ (∀ t ∈ init, t.IsSpelled) ∧ Apart true init := by
  induction h with
  | @last text htext =>
    refine ⟨textTokens text, rfl, isSpelled_textTokens htext, ?_⟩
    unfold textTokens
    split <;> simp [Apart]
  | @expression text cs rest ts more htext hend hts _ ih =>
    obtain ⟨init, rfl, hinit, hapart⟩ := ih
    refine ⟨textTokens text ++ .exprStart :: ts ++ init, by simp, ?_, .append ?_ hapart⟩
    · simp only [List.forall_mem_append, List.forall_mem_cons]
      refine ⟨⟨isSpelled_textTokens htext, trivial, fun t ht => ?_⟩, hinit⟩
      rcases hts.mem t ht with hinner | rfl
      · exact hinner.isSpelled
      · trivial
    · intro t ht hk
      rcases List.mem_append.1 ht with ht | ht
      · obtain ⟨-, rfl⟩ := mem_textTokens.1 ht
        simpa using hend
      · rcases List.mem_cons.1 ht with rfl | ht
        · cases hk
        · rcases hts.mem t ht with hinner | rfl
          · exact absurd hk hinner.kind_ne_text
          · cases hk

/-- The nodes of a source are those that the tokens derive which spell it. -/
theorem compileNodes_eq_ok_iff {source : String} {ns : List Node} :
    compileNodes source = .ok ns ↔
      ∃ ts, Spells (ts ++ [.eof]) source.toList ∧ Content ts ns := by
  simp only [compileNodes, bind_eq_ok, mapError_eq_ok, tokenize_eq_ok_iff_scan]
  constructor
  · rintro ⟨ts, hscan, hparse⟩
    have hspells := scan_sound hscan
    have hcontent := content_of_parse hparse
    obtain ⟨init, rfl, hinit, -⟩ := tokens_of_spells hspells
    have heof : ∀ t ∈ init, t.kind ≠ .eof := by
      intro t ht hk
      simpa [Token.IsSpelled, Token.IsInner, hk] using hinit t ht
    rw [beforeEnd_append_eof heof] at hcontent
    exact ⟨init, hspells, hcontent⟩
  · rintro ⟨ts, hspells, hcontent⟩
    refine ⟨_, scan_complete hspells, parse_of_content ?_⟩
    rwa [beforeEnd_append_eof hcontent.kind_ne_eof]

theorem compileNodes_print_of_wellFormed {ns : List Node} (h : WellFormed ns) :
    compileNodes (print ns) = .ok ns := by
  have hcontent := IsContent.content h
  have heof : Prints [.eof] := Spells.last isText_nil
  have hprints : Prints (contentTokens ns ++ [.eof]) := IsContent.prints h heof rfl
  refine compileNodes_eq_ok_iff.2 ⟨contentTokens ns, ?_, hcontent⟩
  have hend : printTokens (contentTokens ns ++ [.eof]) = (print ns).toList := by
    simp [print, printTokens, Token.printed, Token.spelling, Token.eof]
  rw [← hend]
  exact hprints

theorem wellFormed_of_compileNodes {source : String} {ns : List Node}
    (h : compileNodes source = .ok ns) : WellFormed ns := by
  obtain ⟨ts, hspells, hcontent⟩ := compileNodes_eq_ok_iff.1 h
  obtain ⟨init, hts, hinit, hapart⟩ := tokens_of_spells hspells
  obtain rfl : ts = init := List.append_cancel_right hts
  exact isContent_of_content hcontent hinit hapart

/-- A well-formed list of nodes is what its source is compiled to, and what any source is compiled
to is well formed. -/
theorem compileNodes_print :
    (∀ ns, WellFormed ns → compileNodes (print ns) = .ok ns) ∧
      ∀ source ns, compileNodes source = .ok ns →
        WellFormed ns ∧ compileNodes (print ns) = .ok ns := by
  refine ⟨fun ns => compileNodes_print_of_wellFormed, fun source ns h => ?_⟩
  have hns := wellFormed_of_compileNodes h
  exact ⟨hns, compileNodes_print_of_wellFormed hns⟩

/-- Texts side by side, a function among parameters, and a brace at the very end. -/
def nested : List Node :=
  [.text "a", .text "b", .block "if" [.function "eq" [.variable "x", .literal "1"]] [.text "c"],
    .text "\x7b"]

theorem compileNodes_print_nested :
    WellFormed nested ∧
      print nested = "a\x7b\x7b \x7d\x7db\x7b\x7b #if ( eq @x '1' ) \x7d\x7dc" ++
        "\x7b\x7b /if \x7d\x7d\x7b" ∧
      compileNodes (print nested) = .ok nested := by
  have hx : IsItem (.variable "x") := .reference (by decide)
  have hone : IsItem (.literal "1") := .literal (by decide)
  have hparams : ∀ n ∈ [Node.function "eq" [.variable "x", .literal "1"]], IsItem n :=
    List.forall_mem_singleton.2 (.function (by decide) (by simp [hx, hone]))
  have hbody : IsContent false [.text "c"] :=
    .text (by decide) (by decide) (Or.inr (by decide)) .nil
  have hlast : IsContent true [.text "\x7b"] :=
    .text (by decide) (by decide) (Or.inl ⟨rfl, rfl⟩) .nil
  have hblock : WellFormed
      [.block "if" [.function "eq" [.variable "x", .literal "1"]] [.text "c"], .text "\x7b"] :=
    .block (by decide) hparams (List.cons_ne_nil _ _) hbody hlast
  have hwell : WellFormed nested :=
    .text (by decide) (by decide) (Or.inr (by decide))
      (.text (by decide) (by decide) (Or.inr (by decide)) hblock)
  exact ⟨hwell, by decide, compileNodes_print.1 nested hwell⟩

end Template

end StubServer
