import Mathlib.Data.List.Basic
import StubServer.Proofs.Outcome
import StubServer.Template.Parse

/-!
# The grammar of templates

Two kinds of token lists derive nodes: the items of a group, and the content of a template or a
block. The parser accepts exactly the contents and gives the nodes that they derive; whatever else
it is given is an error, and never because its bound on steps was reached
(`parse_eq_ok_iff_content`).
-/

namespace StubServer

namespace Template

/-- The tokens are items of one group, which derive the nodes. A function owns all items behind
its name. -/
inductive Items : List Token → List Node → Prop
  | nil : Items [] []
  | literal {t : Token} {ts : List Token} {ns : List Node}
      (ht : t.kind = .string ∨ t.kind = .number) (hts : Items ts ns) :
      Items (t :: ts) (.literal t.text :: ns)
  | reference {t : Token} {ts : List Token} {ns : List Node} (ht : t.kind = .varIdentifier)
      (hts : Items ts ns) : Items (t :: ts) (.variable t.text :: ns)
  | group {opening closing : Token} {inner ts : List Token} {own ns : List Node}
      (hopening : opening.kind = .subExprStart) (hinner : Items inner own) (hown : own.length ≤ 1)
      (hclosing : closing.kind = .subExprEnd) (hts : Items ts ns) :
      Items (opening :: inner ++ closing :: ts) (own ++ ns)
  | function {t : Token} {ts : List Token} {params : List Node} (ht : t.kind = .functionName)
      (hts : Items ts params) : Items (t :: ts) [.function t.text params]

/-- The node of a block, which vanishes with its content. -/
def blockOf (name : String) (params body : List Node) : List Node :=
  if body.isEmpty then [] else [.block name params body]

/-- The tokens are texts and expressions, which derive the nodes. -/
inductive Content : List Token → List Node → Prop
  | nil : Content [] []
  | text {t : Token} {ts : List Token} {ns : List Node} (ht : t.kind = .text)
      (hts : Content ts ns) : Content (t :: ts) (.text t.text :: ns)
  | expression {opening closing : Token} {inner ts : List Token} {own ns : List Node}
      (hopening : opening.kind = .exprStart) (hinner : Items inner own) (hown : own.length ≤ 1)
      (hclosing : closing.kind = .exprEnd) (hts : Content ts ns) :
      Content (opening :: inner ++ closing :: ts) (own ++ ns)
  | block {opening name closing opening' name' closing' : Token}
      {items content ts : List Token} {params body ns : List Node}
      (hopening : opening.kind = .exprStart) (hname : name.kind = .blockStart)
      (hparams : Items items params) (hclosing : closing.kind = .exprEnd)
      (hbody : Content content body) (hopening' : opening'.kind = .exprStart)
      (hname' : name'.kind = .blockEnd) (hsame : name'.text = name.text ∨ name'.text = "end")
      (hclosing' : closing'.kind = .exprEnd) (hts : Content ts ns) :
      Content (opening :: name :: items ++ closing :: content ++
        opening' :: name' :: closing' :: ts) (blockOf name.text params body ++ ns)

/-! ## Steps of the parser -/

theorem single_eq_ok_iff {ns : List Node} {node : Option Node} :
    single ns = .ok node ↔ ns.length ≤ 1 ∧ node.toList = ns := by
  rcases ns with _ | ⟨n, _ | ⟨m, ns⟩⟩ <;> cases node <;> simp [single, eq_comm]

theorem expect_eq_ok_iff {kind : TokenKind} {ts rest : List Token} :
    expect kind ts = .ok rest ↔ ∃ t, t.kind = kind ∧ ts = t :: rest := by
  unfold expect
  split
  · simp
  · rename_i t ts
    split
    · rename_i ht
      simp [ht]
    · rename_i ht
      simp [ht]

/-- The items of a group end in front of these tokens. -/
def Stops (close : TokenKind) (ofFunction : Bool) (ts : List Token) : Prop :=
  headKind ts = .eof ∨ headKind ts = close ∨ (ofFunction = true ∧ headKind ts = .exprEnd)

theorem items_eq_ok_iff {close : TokenKind} {ofFunction : Bool} {fuel : Nat}
    {ts rest : List Token} {ns : List Node} :
    items close ofFunction (fuel + 1) ts = .ok (ns, rest) ↔
      (Stops close ofFunction ts ∧ ns = [] ∧ rest = ts) ∨
        (¬ Stops close ofFunction ts ∧ ∃ node rest' ns', item close fuel ts = .ok (node, rest') ∧
          items close ofFunction fuel rest' = .ok (ns', rest) ∧ ns = node.toList ++ ns') := by
  have hstops : (headKind ts = .eof || headKind ts = close ||
      (ofFunction && headKind ts = .exprEnd)) = true ↔ Stops close ofFunction ts := by
    simp [Stops, or_assoc]
  rw [items]
  dsimp only
  split
  · rename_i h
    simp [hstops.1 h, eq_comm]
  · rename_i h
    rw [hstops] at h
    simp only [h, false_and, not_false_eq_true, true_and, false_or, bind_eq_ok, Prod.exists, pure,
      Except.pure, Except.ok.injEq, Prod.mk.injEq]
    constructor
    · rintro ⟨node, rest', hitem, ns', rest'', hitems, rfl, rfl⟩
      exact ⟨node, rest', ns', hitem, hitems, rfl⟩
    · rintro ⟨node, rest', ns', hitem, hitems, rfl⟩
      exact ⟨node, rest', hitem, ns', rest, hitems, rfl, rfl⟩

/-- What an item is that is read from the front of the tokens. -/
theorem item_cases {close : TokenKind} {fuel : Nat} {ts rest : List Token} {node : Option Node}
    (h : item close (fuel + 1) ts = .ok (node, rest)) :
    ∃ t ts', ts = t :: ts' ∧
      (((t.kind = .string ∨ t.kind = .number) ∧ node = some (.literal t.text) ∧ rest = ts') ∨
      (t.kind = .varIdentifier ∧ node = some (.variable t.text) ∧ rest = ts') ∨
      (t.kind = .subExprStart ∧ ∃ closing, closing.kind = .subExprEnd ∧
        node.toList.length ≤ 1 ∧
        items .subExprEnd false fuel ts' = .ok (node.toList, closing :: rest)) ∨
      (t.kind = .functionName ∧ ∃ params, node = some (.function t.text params) ∧
        items close true fuel ts' = .ok (params, rest))) := by
  rcases ts with _ | ⟨t, ts⟩
  · simp [item] at h
  refine ⟨t, ts, rfl, ?_⟩
  rw [item.eq_def] at h
  dsimp only at h
  split at h
  · rename_i hk
    simp only [Except.ok.injEq, Prod.mk.injEq] at h
    exact Or.inl ⟨Or.inl hk, h.1.symm, h.2.symm⟩
  · rename_i hk
    simp only [Except.ok.injEq, Prod.mk.injEq] at h
    exact Or.inl ⟨Or.inr hk, h.1.symm, h.2.symm⟩
  · rename_i hk
    simp only [Except.ok.injEq, Prod.mk.injEq] at h
    exact Or.inr (Or.inl ⟨hk, h.1.symm, h.2.symm⟩)
  · rename_i hk
    refine Or.inr (Or.inr (Or.inl ⟨hk, ?_⟩))
    split at h
    · simp at h
    · simp only [bind_eq_ok, Prod.exists, pure, Except.pure, Except.ok.injEq, Prod.mk.injEq,
        single_eq_ok_iff, expect_eq_ok_iff] at h
      obtain ⟨nodes, _, hitems, node, ⟨hlen, rfl⟩, _, ⟨closing, hclosing, rfl⟩, rfl, rfl⟩ := h
      exact ⟨closing, hclosing, hlen, hitems⟩
  · rename_i hk
    simp only [bind_eq_ok, Prod.exists, pure, Except.pure, Except.ok.injEq, Prod.mk.injEq] at h
    obtain ⟨params, rest', hitems, rfl, rfl⟩ := h
    exact Or.inr (Or.inr (Or.inr ⟨hk, params, rfl, hitems⟩))
  · simp at h
  · simp at h

/-- Where the parameters of a function end, so do the items of its group, or nothing can be read. -/
theorem items_of_stops {close : TokenKind} {ofFunction : Bool} {fuel : Nat}
    {ts rest : List Token} {ns : List Node} (hstop : Stops close true ts)
    (h : items close ofFunction fuel ts = .ok (ns, rest)) : ns = [] ∧ rest = ts := by
  rcases fuel with _ | fuel
  · simp [items] at h
  rcases items_eq_ok_iff.1 h with ⟨-, rfl, rfl⟩ | ⟨hgo, node, rest', ns', hitem, -⟩
  · exact ⟨rfl, rfl⟩
  have hend : headKind ts = .exprEnd := by
    rcases hstop with heof | hclose | ⟨-, hend⟩
    · exact absurd (Or.inl heof) hgo
    · exact absurd (Or.inr (Or.inl hclose)) hgo
    · exact hend
  rcases fuel with _ | fuel
  · simp [item] at hitem
  obtain ⟨t, ts', rfl, hcases⟩ := item_cases hitem
  rw [headKind] at hend
  simp [hend] at hcases

/-- What the items of a group are read from derives them, up to a token that ends the group. -/
theorem items_sound :
    ∀ (fuel : Nat) {close : TokenKind} {ofFunction : Bool} {ts rest : List Token} {ns : List Node},
      items close ofFunction fuel ts = .ok (ns, rest) →
      ∃ used, ts = used ++ rest ∧ Items used ns ∧ Stops close ofFunction rest
  | 0, _, _, _, _, _, h => by simp [items] at h
  | 1, _, _, _, _, _, h => by
    rcases items_eq_ok_iff.1 h with ⟨hstop, rfl, rfl⟩ | ⟨-, node, rest', ns', hitem, -⟩
    · exact ⟨[], rfl, .nil, hstop⟩
    · simp [item] at hitem
  | fuel + 2, close, ofFunction, ts, rest, ns, h => by
    rcases items_eq_ok_iff.1 h with ⟨hstop, rfl, rfl⟩ | ⟨hgo, node, rest', ns', hitem, hitems, rfl⟩
    · exact ⟨[], rfl, .nil, hstop⟩
    obtain ⟨used', rfl, hused', hstop⟩ := items_sound (fuel + 1) hitems
    obtain ⟨t, ts', rfl, hcases⟩ := item_cases hitem
    rcases hcases with ⟨ht, rfl, rfl⟩ | ⟨ht, rfl, rfl⟩ | ⟨ht, closing, hclosing, hlen, hinner⟩ |
      ⟨ht, params, rfl, hparams⟩
    · exact ⟨t :: used', rfl, .literal ht hused', hstop⟩
    · exact ⟨t :: used', rfl, .reference ht hused', hstop⟩
    · obtain ⟨inner, rfl, hinner', -⟩ := items_sound fuel hinner
      refine ⟨t :: inner ++ closing :: used', by simp, ?_, hstop⟩
      exact .group ht hinner' hlen hclosing hused'
    -- Behind the parameters of a function the group ends, so nothing more was read.
    · obtain ⟨used, rfl, hused, hstop'⟩ := items_sound fuel hparams
      obtain ⟨rfl, hrest⟩ := items_of_stops hstop' hitems
      obtain rfl : used' = [] := by simpa using hrest
      exact ⟨t :: used, by simp, .function ht hused, hstop⟩

/-! ## What is accepted is derived -/

theorem piece_cases {fuel : Nat} {ts rest : List Token} {node : Option Node}
    (h : piece (fuel + 1) ts = .ok (node, rest)) :
    ∃ t ts', ts = t :: ts' ∧ ((t.kind = .text ∧ node = some (.text t.text) ∧ rest = ts') ∨
      (t.kind = .exprStart ∧ expression fuel ts' = .ok (node, rest))) := by
  rcases ts with _ | ⟨t, ts⟩
  · simp [piece] at h
  refine ⟨t, ts, rfl, ?_⟩
  rw [piece] at h
  split at h
  · rename_i hk
    simp only [Except.ok.injEq, Prod.mk.injEq] at h
    exact Or.inl ⟨hk, h.1.symm, h.2.symm⟩
  · rename_i hk
    exact Or.inr ⟨hk, h⟩
  · simp at h

theorem expression_cases {fuel : Nat} {ts rest : List Token} {node : Option Node}
    (h : expression (fuel + 1) ts = .ok (node, rest)) :
    (∃ t ts', ts = t :: ts' ∧ t.kind = .blockStart ∧ block t.text fuel ts' = .ok (node, rest)) ∨
      ∃ closing, closing.kind = .exprEnd ∧ node.toList.length ≤ 1 ∧
        items .exprEnd false fuel ts = .ok (node.toList, closing :: rest) := by
  rw [expression.eq_def] at h
  dsimp only at h
  split at h
  · rename_i name ts'
    exact Or.inl ⟨⟨.blockStart, name⟩, ts', rfl, rfl, h⟩
  · simp at h
  · simp only [bind_eq_ok, Prod.exists, pure, Except.pure, Except.ok.injEq, Prod.mk.injEq,
      single_eq_ok_iff, expect_eq_ok_iff] at h
    obtain ⟨nodes, _, hitems, node, ⟨hlen, rfl⟩, _, ⟨closing, hclosing, rfl⟩, rfl, rfl⟩ := h
    exact Or.inr ⟨closing, hclosing, hlen, hitems⟩

theorem block_cases {name : String} {fuel : Nat} {ts rest : List Token} {node : Option Node}
    (h : block name (fuel + 1) ts = .ok (node, rest)) :
    ∃ params closing ts' body, closing.kind = .exprEnd ∧
      items .exprEnd false fuel ts = .ok (params, closing :: ts') ∧
      blockBody name fuel ts' = .ok (body, rest) ∧ node.toList = blockOf name params body := by
  rw [block] at h
  simp only [bind_eq_ok, Prod.exists, pure, Except.pure, Except.ok.injEq, Prod.mk.injEq,
    expect_eq_ok_iff] at h
  obtain ⟨params, rest', hitems, ts', ⟨closing, hclosing, rfl⟩, body, rest'', hbody, rfl, rfl⟩ := h
  refine ⟨params, closing, ts', body, hclosing, hitems, hbody, ?_⟩
  unfold blockOf
  split <;> rfl

theorem blockBody_cases {name : String} {fuel : Nat} {ts rest : List Token} {ns : List Node}
    (h : blockBody name (fuel + 1) ts = .ok (ns, rest)) :
    (∃ opening name' closing, opening.kind = .exprStart ∧ name'.kind = .blockEnd ∧
        closing.kind = .exprEnd ∧ (name'.text = name ∨ name'.text = "end") ∧
        ts = opening :: name' :: closing :: rest ∧ ns = []) ∨
      ∃ node ts' ns', piece fuel ts = .ok (node, ts') ∧ blockBody name fuel ts' = .ok (ns', rest) ∧
        ns = node.toList ++ ns' := by
  rcases ts with _ | ⟨t, ts⟩
  · simp [blockBody] at h
  rw [blockBody.eq_def] at h
  dsimp only at h
  split at h
  · rename_i s found ts' hts
    split at h
    · rename_i hsame
      rcases hrest : expect .exprEnd ts' with e | r
      · simp [hrest, Except.map] at h
      · obtain ⟨closing, hclosing, rfl⟩ := expect_eq_ok_iff.1 hrest
        simp only [hrest, Except.map, Except.ok.injEq, Prod.mk.injEq] at h
        obtain ⟨rfl, rfl⟩ := h
        exact Or.inl ⟨⟨.exprStart, s⟩, ⟨.blockEnd, found⟩, closing, rfl, rfl, hclosing, hsame, hts,
          rfl⟩
    · simp at h
  · simp only [bind_eq_ok, Prod.exists, pure, Except.pure, Except.ok.injEq, Prod.mk.injEq] at h
    obtain ⟨node, ts', hpiece, ns', rest', hbody, rfl, rfl⟩ := h
    exact Or.inr ⟨node, ts', ns', hpiece, hbody, rfl⟩

/-- The tokens are a text or an expression that contributes the nodes. -/
def IsPiece (used : List Token) (own : List Node) : Prop :=
  ∀ ts ns, Content ts ns → Content (used ++ ts) (own ++ ns)

mutual

theorem piece_sound :
    ∀ (fuel : Nat) {ts rest : List Token} {node : Option Node},
      piece fuel ts = .ok (node, rest) → ∃ used, ts = used ++ rest ∧ IsPiece used node.toList
  | 0, _, _, _, h => by simp [piece] at h
  | fuel + 1, ts, rest, node, h => by
    obtain ⟨t, ts', rfl, ⟨ht, rfl, rfl⟩ | ⟨ht, hexpr⟩⟩ := piece_cases h
    · exact ⟨[t], rfl, fun ts ns hts => .text ht hts⟩
    · obtain ⟨used, rfl, hpiece⟩ := expression_sound fuel ht hexpr
      exact ⟨t :: used, rfl, hpiece⟩

theorem expression_sound :
    ∀ (fuel : Nat) {opening : Token} {ts rest : List Token} {node : Option Node},
      opening.kind = .exprStart → expression fuel ts = .ok (node, rest) →
      ∃ used, ts = used ++ rest ∧ IsPiece (opening :: used) node.toList
  | 0, _, _, _, _, _, h => by simp [expression] at h
  | fuel + 1, opening, ts, rest, node, hopening, h => by
    rcases expression_cases h with ⟨t, ts', rfl, ht, hblock⟩ | ⟨closing, hclosing, hlen, hitems⟩
    · obtain ⟨used, rfl, hpiece⟩ := block_sound fuel hopening ht hblock
      exact ⟨t :: used, rfl, hpiece⟩
    · obtain ⟨inner, rfl, hinner, -⟩ := items_sound fuel hitems
      refine ⟨inner ++ [closing], by simp, fun ts ns hts => ?_⟩
      have h := Content.expression hopening hinner hlen hclosing hts
      simpa using h

theorem block_sound :
    ∀ (fuel : Nat) {opening name : Token} {ts rest : List Token} {node : Option Node},
      opening.kind = .exprStart → name.kind = .blockStart →
      block name.text fuel ts = .ok (node, rest) →
      ∃ used, ts = used ++ rest ∧ IsPiece (opening :: name :: used) node.toList
  | 0, _, _, _, _, _, _, _, h => by simp [block] at h
  | fuel + 1, opening, name, ts, rest, node, hopening, hname, h => by
    obtain ⟨params, closing, ts', body, hclosing, hparams, hbody, hnode⟩ := block_cases h
    obtain ⟨items, rfl, hitems, -⟩ := items_sound fuel hparams
    obtain ⟨content, opening', name', closing', rfl, hcontent, hopening', hname', hsame,
      hclosing'⟩ := blockBody_sound fuel hbody
    refine ⟨items ++ closing :: content ++ [opening', name', closing'], by simp, ?_⟩
    intro ts ns hts
    rw [hnode]
    have h := Content.block hopening hname hitems hclosing hcontent hopening' hname' hsame
      hclosing' hts
    simpa using h

theorem blockBody_sound :
    ∀ (fuel : Nat) {name : String} {ts rest : List Token} {ns : List Node},
      blockBody name fuel ts = .ok (ns, rest) →
      ∃ content opening' name' closing', ts = content ++ opening' :: name' :: closing' :: rest ∧
        Content content ns ∧ opening'.kind = .exprStart ∧ name'.kind = .blockEnd ∧
        (name'.text = name ∨ name'.text = "end") ∧ closing'.kind = .exprEnd
  | 0, _, _, _, _, h => by simp [blockBody] at h
  | fuel + 1, name, ts, rest, ns, h => by
    rcases blockBody_cases h with
      ⟨opening', name', closing', hopening', hname', hclosing', hsame, rfl, rfl⟩ |
      ⟨node, ts', ns', hpiece, hbody, rfl⟩
    · exact ⟨[], opening', name', closing', rfl, .nil, hopening', hname', hsame, hclosing'⟩
    · obtain ⟨used, rfl, hused⟩ := piece_sound fuel hpiece
      obtain ⟨content, opening', name', closing', rfl, hcontent, hend⟩ := blockBody_sound fuel hbody
      exact ⟨used ++ content, opening', name', closing', by simp, hused _ _ hcontent, hend⟩

end

theorem program_sound :
    ∀ (fuel : Nat) {ts : List Token} {ns : List Node}, program fuel ts = .ok ns → Content ts ns
  | 0, _, _, h => by simp [program] at h
  | fuel + 1, [], ns, h => by
    simp only [program, Except.ok.injEq] at h
    exact h ▸ .nil
  | fuel + 1, t :: ts, ns, h => by
    rw [program.eq_def] at h
    simp only [bind_eq_ok, Prod.exists, pure, Except.pure, Except.ok.injEq] at h
    obtain ⟨node, rest, hpiece, ns', hprogram, rfl⟩ := h
    obtain ⟨used, happ, hused⟩ := piece_sound fuel hpiece
    rw [happ]
    exact hused _ _ (program_sound fuel hprogram)

/-! ## What is derived is accepted -/

theorem single_of_length_le {own : List Node} (h : own.length ≤ 1) :
    ∃ node, single own = .ok node ∧ node.toList = own := by
  rcases own with _ | ⟨n, _ | ⟨m, ns⟩⟩
  · exact ⟨none, rfl, rfl⟩
  · exact ⟨some n, rfl, rfl⟩
  · simp at h

theorem Items.headKind_append {used : List Token} {ns : List Node} (h : Items used ns)
    (rest : List Token) :
    headKind (used ++ rest) ∈
      [headKind rest, .string, .number, .varIdentifier, .subExprStart, .functionName] := by
  cases h with
  | nil => simp
  | literal ht => rcases ht with ht | ht <;> simp [headKind, ht]
  | reference ht => simp [headKind, ht]
  | group ht => simp [headKind, ht]
  | function ht => simp [headKind, ht]

theorem item_group (close : TokenKind) {fuel : Nat} {t closing : Token} {ts rest : List Token}
    {own : List Node} (ht : t.kind = .subExprStart) (hhead : headKind ts ≠ .blockStart)
    (hitems : items .subExprEnd false fuel ts = .ok (own, closing :: rest))
    (hown : own.length ≤ 1) (hclosing : closing.kind = .subExprEnd) :
    ∃ node, node.toList = own ∧ item close (fuel + 1) (t :: ts) = .ok (node, rest) := by
  obtain ⟨node, hsingle, hnode⟩ := single_of_length_le hown
  refine ⟨node, hnode, ?_⟩
  rw [item.eq_def]
  simp only [ht]
  split
  · exact absurd rfl hhead
  · simp [hitems, hsingle, expect, hclosing, bind, Except.bind, pure, Except.pure]

/-- A group is read up to its end with two steps for each of its tokens. -/
theorem items_complete {used : List Token} {ns : List Node} (h : Items used ns) :
    ∀ {close : TokenKind} {ofFunction : Bool} {fuel : Nat} {rest : List Token},
      close = .subExprEnd ∨ close = .exprEnd → Stops close ofFunction rest →
      2 * used.length + 1 ≤ fuel → items close ofFunction fuel (used ++ rest) = .ok (ns, rest) := by
  have hgo : ∀ {t : Token} {close : TokenKind} {ofFunction : Bool} {ts : List Token},
      close = .subExprEnd ∨ close = .exprEnd →
      t.kind ∈ [.string, .number, .varIdentifier, .subExprStart, .functionName] →
      ¬ Stops close ofFunction (t :: ts) := by
    intro t close ofFunction ts hclose ht
    unfold Stops headKind
    simp only [List.mem_cons, List.not_mem_nil, or_false] at ht
    rcases hclose with rfl | rfl <;> rcases ht with h | h | h | h | h <;> simp [h]
  induction h with
  | nil =>
    intro close ofFunction fuel rest _ hstop hfuel
    obtain ⟨fuel, rfl⟩ : ∃ f, fuel = f + 1 := ⟨fuel - 1, by omega⟩
    exact items_eq_ok_iff.2 (Or.inl ⟨hstop, rfl, rfl⟩)
  | @literal t ts ns ht hts ih =>
    intro close ofFunction fuel rest hclose hstop hfuel
    rw [List.length_cons] at hfuel
    obtain ⟨fuel, rfl⟩ : ∃ f, fuel = f + 2 := ⟨fuel - 2, by omega⟩
    refine items_eq_ok_iff.2 (Or.inr ⟨hgo hclose (by rcases ht with h | h <;> simp [h]), ?_⟩)
    refine ⟨some (.literal t.text), ts ++ rest, ns, ?_, ih hclose hstop (by omega), rfl⟩
    rcases ht with ht | ht <;> simp [item, ht]
  | @reference t ts ns ht hts ih =>
    intro close ofFunction fuel rest hclose hstop hfuel
    rw [List.length_cons] at hfuel
    obtain ⟨fuel, rfl⟩ : ∃ f, fuel = f + 2 := ⟨fuel - 2, by omega⟩
    refine items_eq_ok_iff.2 (Or.inr ⟨hgo hclose (by simp [ht]), ?_⟩)
    refine ⟨some (.variable t.text), ts ++ rest, ns, ?_, ih hclose hstop (by omega), rfl⟩
    simp [item, ht]
  | @group opening closing inner ts own ns hopening hinner hown hclosing hts ihinner ih =>
    intro close ofFunction fuel rest hclose hstop hfuel
    simp only [List.length_append, List.length_cons] at hfuel
    obtain ⟨fuel, rfl⟩ : ∃ f, fuel = f + 2 := ⟨fuel - 2, by omega⟩
    have hstop' : Stops .subExprEnd false (closing :: (ts ++ rest)) := Or.inr (Or.inl hclosing)
    have hread := ihinner (Or.inl rfl) hstop' (show 2 * inner.length + 1 ≤ fuel by omega)
    have hhead : headKind (inner ++ closing :: (ts ++ rest)) ≠ .blockStart := by
      intro h
      have hmem := hinner.headKind_append (closing :: (ts ++ rest))
      rw [h] at hmem
      simp [headKind, hclosing] at hmem
    obtain ⟨node, rfl, hitem⟩ := item_group close hopening hhead hread hown hclosing
    refine items_eq_ok_iff.2 (Or.inr ⟨hgo hclose (by simp [hopening]), ?_⟩)
    refine ⟨node, ts ++ rest, ns, ?_, ih hclose hstop (by omega), rfl⟩
    simpa using hitem
  | @function t ts params ht hts ih =>
    intro close ofFunction fuel rest hclose hstop hfuel
    rw [List.length_cons] at hfuel
    obtain ⟨fuel, rfl⟩ : ∃ f, fuel = f + 2 := ⟨fuel - 2, by omega⟩
    have hstop' : Stops close true rest := by
      rcases hstop with h | h | ⟨-, h⟩
      · exact Or.inl h
      · exact Or.inr (Or.inl h)
      · exact Or.inr (Or.inr ⟨rfl, h⟩)
    have hread := ih hclose hstop' (show 2 * ts.length + 1 ≤ fuel by omega)
    refine items_eq_ok_iff.2 (Or.inr ⟨hgo hclose (by simp [ht]), ?_⟩)
    refine ⟨some (.function t.text params), rest, [], ?_, ?_, rfl⟩
    · simp [item, ht, hread, bind, Except.bind, pure, Except.pure]
    · exact items_eq_ok_iff.2 (Or.inl ⟨hstop, rfl, rfl⟩)

theorem expression_group {fuel : Nat} {closing : Token} {inner : List Token}
    (rest : List Token) {own : List Node} (hinner : Items inner own) (hown : own.length ≤ 1)
    (hclosing : closing.kind = .exprEnd) (hfuel : 2 * inner.length + 1 ≤ fuel) :
    ∃ node, node.toList = own ∧
      expression (fuel + 1) (inner ++ closing :: rest) = .ok (node, rest) := by
  obtain ⟨node, hsingle, hnode⟩ := single_of_length_le hown
  have hread := items_complete hinner (Or.inr rfl)
    (show Stops .exprEnd false (closing :: rest) from Or.inr (Or.inl hclosing)) hfuel
  have hmem := hinner.headKind_append (closing :: rest)
  refine ⟨node, hnode, ?_⟩
  rw [expression.eq_def]
  dsimp only
  split
  · rename_i h
    rw [h] at hmem
    simp [headKind, hclosing] at hmem
  · rename_i h
    rw [h] at hmem
    simp [headKind, hclosing] at hmem
  · simp [hread, hsingle, expect, hclosing, bind, Except.bind, pure, Except.pure]

/-- The content is accepted as a template, and as the body of a block in front of its end. -/
def Accepts (fuel : Nat) (content : List Token) (ns : List Node) : Prop :=
  program fuel content = .ok ns ∧
    ∀ (name : String) (opening name' closing : Token) (rest : List Token),
      opening.kind = .exprStart → name'.kind = .blockEnd → closing.kind = .exprEnd →
      name'.text = name ∨ name'.text = "end" →
      blockBody name fuel (content ++ opening :: name' :: closing :: rest) = .ok (ns, rest)

theorem blockBody_of_piece {name : String} {fuel : Nat} {ts ts' rest : List Token}
    {node : Option Node} {ns : List Node} (hpiece : piece fuel ts = .ok (node, ts'))
    (hbody : blockBody name fuel ts' = .ok (ns, rest)) :
    blockBody name (fuel + 1) ts = .ok (node.toList ++ ns, rest) := by
  rcases fuel with _ | fuel
  · simp [piece] at hpiece
  obtain ⟨t, ts, rfl, -⟩ := piece_cases hpiece
  rw [blockBody.eq_def]
  dsimp only
  split
  · rename_i s found ts₁ h
    rw [h] at hpiece
    rcases fuel with _ | fuel <;> simp [piece, expression] at hpiece
  · simp [hpiece, hbody, bind, Except.bind, pure, Except.pure]

/-- A piece in front of accepted content is accepted with it. -/
theorem Accepts.cons {fuel : Nat} {used ts : List Token} {own ns : List Node} (hused : used ≠ [])
    (hpiece : ∀ rest, ∃ node, node.toList = own ∧ piece fuel (used ++ rest) = .ok (node, rest))
    (hts : Accepts fuel ts ns) : Accepts (fuel + 1) (used ++ ts) (own ++ ns) := by
  obtain ⟨t, used, rfl⟩ := List.exists_cons_of_ne_nil hused
  refine ⟨?_, fun name opening name' closing rest hopening hname' hclosing hsame => ?_⟩
  · obtain ⟨node, rfl, hread⟩ := hpiece ts
    rw [List.cons_append] at hread ⊢
    rw [program.eq_def]
    simp [hread, hts.1, bind, Except.bind, pure, Except.pure]
  · rw [List.append_assoc]
    obtain ⟨node, rfl, hread⟩ := hpiece (ts ++ opening :: name' :: closing :: rest)
    exact blockBody_of_piece hread (hts.2 name _ _ _ rest hopening hname' hclosing hsame)

theorem piece_block {fuel : Nat} {opening name closing opening' name' closing' : Token}
    {inner content : List Token} (rest : List Token) {params body : List Node}
    (hopening : opening.kind = .exprStart) (hname : name.kind = .blockStart)
    (hparams : Items inner params) (hclosing : closing.kind = .exprEnd)
    (hopening' : opening'.kind = .exprStart) (hname' : name'.kind = .blockEnd)
    (hsame : name'.text = name.text ∨ name'.text = "end") (hclosing' : closing'.kind = .exprEnd)
    (hfuel : 2 * inner.length + 1 ≤ fuel) (hbody : Accepts fuel content body) :
    ∃ node, node.toList = blockOf name.text params body ∧
      piece (fuel + 3) (opening :: name :: inner ++ closing :: content ++
        [opening', name', closing'] ++ rest) = .ok (node, rest) := by
  have hstop : Stops .exprEnd false
      (closing :: (content ++ opening' :: name' :: closing' :: rest)) := Or.inr (Or.inl hclosing)
  have hread := items_complete hparams (Or.inr rfl) hstop hfuel
  have hend := hbody.2 name.text opening' name' closing' rest hopening' hname' hclosing' hsame
  have hblock : block name.text (fuel + 1) (inner ++ closing :: (content ++
      opening' :: name' :: closing' :: rest)) =
      .ok (if body.isEmpty then none else some (.block name.text params body), rest) := by
    simp [block, hread, hend, expect, hclosing, bind, Except.bind, pure, Except.pure]
  refine ⟨if body.isEmpty then none else some (.block name.text params body), ?_, ?_⟩
  · unfold blockOf
    split <;> rfl
  · rcases name with ⟨kind, text⟩
    obtain rfl : kind = .blockStart := hname
    simpa [piece, hopening, expression] using hblock

/-- Content is accepted with four steps for each of its tokens. -/
theorem content_complete {content : List Token} {ns : List Node} (h : Content content ns) :
    ∀ {fuel : Nat}, 4 * content.length + 1 ≤ fuel → Accepts fuel content ns := by
  induction h with
  | nil =>
    intro fuel hfuel
    obtain ⟨fuel, rfl⟩ : ∃ f, fuel = f + 1 := ⟨fuel - 1, by simp at hfuel; omega⟩
    refine ⟨rfl, fun name opening name' closing rest hopening hname' hclosing hsame => ?_⟩
    obtain ⟨_, _⟩ := opening
    obtain ⟨_, _⟩ := name'
    subst hopening hname'
    simp [blockBody, hsame, expect, hclosing, Except.map]
  | @text t ts ns ht hts ih =>
    intro fuel hfuel
    rw [List.length_cons] at hfuel
    obtain ⟨fuel, rfl⟩ : ∃ f, fuel = f + 2 := ⟨fuel - 2, by omega⟩
    have hpiece : ∀ rest, ∃ node, node.toList = [Node.text t.text] ∧
        piece (fuel + 1) ([t] ++ rest) = .ok (node, rest) :=
      fun rest => ⟨some (.text t.text), rfl, by simp [piece, ht]⟩
    exact Accepts.cons (List.cons_ne_nil t []) hpiece
      (ih (show 4 * ts.length + 1 ≤ fuel + 1 by omega))
  | @expression opening closing inner ts own ns hopening hinner hown hclosing hts ih =>
    intro fuel hfuel
    simp only [List.length_append, List.length_cons] at hfuel
    obtain ⟨fuel, rfl⟩ : ∃ f, fuel = f + 3 := ⟨fuel - 3, by omega⟩
    have hpiece : ∀ rest, ∃ node, node.toList = own ∧
        piece (fuel + 2) (opening :: inner ++ [closing] ++ rest) = .ok (node, rest) := by
      intro rest
      obtain ⟨node, hnode, hread⟩ := expression_group rest hinner hown hclosing
        (show 2 * inner.length + 1 ≤ fuel by omega)
      exact ⟨node, hnode, by simpa [piece, hopening] using hread⟩
    have haccepts := Accepts.cons (by simp) hpiece
      (ih (show 4 * ts.length + 1 ≤ fuel + 2 by omega))
    simpa using haccepts
  | @block opening name closing opening' name' closing' inner content ts params body ns hopening
      hname hparams hclosing hbody hopening' hname' hsame hclosing' hts ihbody ih =>
    intro fuel hfuel
    simp only [List.length_append, List.length_cons] at hfuel
    obtain ⟨fuel, rfl⟩ : ∃ f, fuel = f + 4 := ⟨fuel - 4, by omega⟩
    have hpiece : ∀ rest, ∃ node, node.toList = blockOf name.text params body ∧
        piece (fuel + 3) (opening :: name :: inner ++ closing :: content ++
          [opening', name', closing'] ++ rest) = .ok (node, rest) := by
      intro rest
      exact piece_block rest hopening hname hparams hclosing hopening' hname' hsame hclosing'
        (show 2 * inner.length + 1 ≤ fuel by omega) (ihbody (by omega))
    have haccepts := Accepts.cons (by simp) hpiece
      (ih (show 4 * ts.length + 1 ≤ fuel + 3 by omega))
    simpa using haccepts

/-! ## The bound on steps -/

/-- The reader did not run into its bound. -/
def Settles {α : Type} (x : Except ParseError α) : Prop :=
  x ≠ .error .exhausted

theorem Settles.of_ok {α : Type} (a : α) : Settles (.ok a) := by
  simp [Settles]

theorem Settles.bind {α β : Type} {x : Except ParseError α} {f : α → Except ParseError β}
    (hx : Settles x) (hf : ∀ a, x = .ok a → Settles (f a)) : Settles (x >>= f) := by
  rcases x with e | a
  · simpa [Settles, Bind.bind, Except.bind] using hx
  · exact hf a rfl

theorem single_settles (ns : List Node) : Settles (single ns) := by
  unfold single
  split <;> simp [Settles]

theorem expect_settles (kind : TokenKind) (ts : List Token) : Settles (expect kind ts) := by
  unfold expect
  split
  · simp [Settles]
  · split <;> simp [Settles]

theorem item_settles (close : TokenKind) {fuel : Nat} (t : Token) {ts : List Token}
    (hts : ∀ close ofFunction, Settles (items close ofFunction fuel ts)) :
    Settles (item close (fuel + 1) (t :: ts)) := by
  rw [item.eq_def]
  dsimp only
  split
  · exact .of_ok _
  · exact .of_ok _
  · exact .of_ok _
  · split
    · simp [Settles]
    · refine (hts _ _).bind fun a _ => (single_settles _).bind fun node _ => ?_
      exact (expect_settles _ _).bind fun rest _ => .of_ok _
  · exact (hts _ _).bind fun a _ => .of_ok _
  · simp [Settles]
  · simp [Settles]

theorem item_length_lt {close : TokenKind} {fuel : Nat} {ts rest : List Token}
    {node : Option Node} (h : item close fuel ts = .ok (node, rest)) :
    rest.length < ts.length := by
  rcases fuel with _ | fuel
  · simp [item] at h
  obtain ⟨t, ts', rfl, hcases⟩ := item_cases h
  rcases hcases with ⟨-, -, rfl⟩ | ⟨-, -, rfl⟩ | ⟨-, closing, -, -, hitems⟩ | ⟨-, params, -, hitems⟩
  · simp
  · simp
  · obtain ⟨used, rfl, -⟩ := items_sound fuel hitems
    simp only [List.length_append, List.length_cons]
    omega
  · obtain ⟨used, rfl, -⟩ := items_sound fuel hitems
    simp only [List.length_append, List.length_cons]
    omega

theorem items_settles :
    ∀ (fuel : Nat) (close : TokenKind) (ofFunction : Bool) (ts : List Token),
      2 * ts.length + 1 ≤ fuel → Settles (items close ofFunction fuel ts)
  | 0, _, _, _, hfuel => by omega
  | fuel + 1, _, _, [], _ => by
    simp [items, headKind, Settles]
  | 1, _, _, _ :: _, hfuel => by simp at hfuel
  | fuel + 2, close, ofFunction, t :: ts, hfuel => by
    rw [List.length_cons] at hfuel
    rw [items]
    dsimp only
    split
    · exact .of_ok _
    · have hitem := item_settles close t fun close ofFunction =>
        items_settles fuel close ofFunction ts (by omega)
      refine hitem.bind fun a ha => ?_
      have hlt := item_length_lt ha
      rw [List.length_cons] at hlt
      have hrest := items_settles (fuel + 1) close ofFunction a.2 (by omega)
      exact hrest.bind fun b _ => .of_ok _

theorem piece_length_lt {fuel : Nat} {ts rest : List Token} {node : Option Node}
    (h : piece fuel ts = .ok (node, rest)) : rest.length < ts.length := by
  rcases fuel with _ | fuel
  · simp [piece] at h
  obtain ⟨t, ts', rfl, ⟨-, -, rfl⟩ | ⟨ht, hexpr⟩⟩ := piece_cases h
  · simp
  · obtain ⟨used, rfl, -⟩ := expression_sound fuel ht hexpr
    simp only [List.length_append, List.length_cons]
    omega

mutual

theorem piece_settles :
    ∀ (fuel : Nat) (t : Token) (ts : List Token), 4 * ts.length + 4 ≤ fuel →
      Settles (piece fuel (t :: ts))
  | 0, _, _, hfuel => by omega
  | fuel + 1, t, ts, hfuel => by
    rw [piece.eq_def]
    dsimp only
    split
    · exact .of_ok _
    · exact expression_settles fuel ts (by omega)
    · simp [Settles]

theorem expression_settles :
    ∀ (fuel : Nat) (ts : List Token), 4 * ts.length + 3 ≤ fuel → Settles (expression fuel ts)
  | 0, _, hfuel => by omega
  | fuel + 1, ts, hfuel => by
    rw [expression.eq_def]
    dsimp only
    split
    · rw [List.length_cons] at hfuel
      exact block_settles fuel _ _ (by omega)
    · simp [Settles]
    · refine (items_settles fuel _ _ ts (by omega)).bind fun a _ => ?_
      refine (single_settles _).bind fun node _ => ?_
      exact (expect_settles _ _).bind fun rest _ => .of_ok _

theorem block_settles :
    ∀ (fuel : Nat) (name : String) (ts : List Token), 4 * ts.length + 2 ≤ fuel →
      Settles (block name fuel ts)
  | 0, _, _, hfuel => by omega
  | fuel + 1, name, ts, hfuel => by
    rw [block]
    refine (items_settles fuel _ _ ts (by omega)).bind fun a ha => ?_
    refine (expect_settles _ _).bind fun rest hrest => ?_
    obtain ⟨used, hused, -⟩ := items_sound fuel ha
    obtain ⟨closing, -, hclosing⟩ := expect_eq_ok_iff.1 hrest
    have hlt : ts.length = used.length + (rest.length + 1) := by simp [hused, hclosing]
    exact (blockBody_settles fuel name rest (by omega)).bind fun b _ => .of_ok _

theorem blockBody_settles :
    ∀ (fuel : Nat) (name : String) (ts : List Token), 4 * ts.length + 1 ≤ fuel →
      Settles (blockBody name fuel ts)
  | 0, _, _, hfuel => by omega
  | fuel + 1, name, [], hfuel => by simp [blockBody, Settles]
  | fuel + 1, name, t :: ts, hfuel => by
    rw [List.length_cons] at hfuel
    rw [blockBody.eq_def]
    dsimp only
    split
    · split
      · rename_i rest _ _
        rcases hrest : expect .exprEnd rest with e | r
        · have h := expect_settles .exprEnd rest
          rw [hrest] at h
          simpa [Settles, Except.map] using h
        · simp [Settles, Except.map]
      · simp [Settles]
    · refine (piece_settles fuel t ts (by omega)).bind fun a ha => ?_
      have hlt := piece_length_lt ha
      rw [List.length_cons] at hlt
      exact (blockBody_settles fuel name a.2 (by omega)).bind fun b _ => .of_ok _

end

theorem program_settles :
    ∀ (fuel : Nat) (ts : List Token), 4 * ts.length + 1 ≤ fuel → Settles (program fuel ts)
  | 0, _, hfuel => by omega
  | fuel + 1, [], _ => by simp [program, Settles]
  | fuel + 1, t :: ts, hfuel => by
    rw [List.length_cons] at hfuel
    rw [program.eq_def]
    dsimp only
    refine (piece_settles fuel t ts (by omega)).bind fun a ha => ?_
    have hlt := piece_length_lt ha
    rw [List.length_cons] at hlt
    exact (program_settles fuel a.2 (by omega)).bind fun b _ => .of_ok _

/-! ## The language of the parser -/

theorem parse_of_content {ts : List Token} {ns : List Node} (h : Content (beforeEnd ts) ns) :
    parse ts = .ok ns :=
  (content_complete h (by omega)).1

theorem content_of_parse {ts : List Token} {ns : List Node} (h : parse ts = .ok ns) :
    Content (beforeEnd ts) ns :=
  program_sound _ h

/-- The parser accepts exactly the contents and gives the nodes that they derive. All other tokens
are an error in themselves. -/
theorem parse_eq_ok_iff_content (ts : List Token) :
    (∀ ns, parse ts = .ok ns ↔ Content (beforeEnd ts) ns) ∧
      ((¬ ∃ ns, Content (beforeEnd ts) ns) → ∃ e, e ≠ .exhausted ∧ parse ts = .error e) := by
  refine ⟨fun ns => ⟨content_of_parse, parse_of_content⟩, fun hnone => ?_⟩
  rcases hparse : parse ts with e | ns
  · refine ⟨e, ?_, rfl⟩
    rintro rfl
    exact program_settles _ _ (by omega) hparse
  · exact absurd ⟨ns, content_of_parse hparse⟩ hnone

end Template

end StubServer
