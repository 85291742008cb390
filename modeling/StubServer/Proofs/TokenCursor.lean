import Mathlib.Data.List.TakeWhile
import StubServer.Proofs.Grammar

/-!
# Reading with a cursor

The parser takes tokens off the front of a list, with a bound on its steps. The same grammar can be
read from a slice in place, by a cursor that moves on token by token and loops without any bound.
Such a reader need not come to an end, and the slice may have end marks anywhere, or none.

It always does come to an end, with the outcome of the parser (`parseInPlace_eq`): the bound that the
parser has for its steps is one for the loops, too. What a call reads is at least one token and stops
in front of the next end mark (`calls_advance`).
-/

namespace StubServer

namespace Template

/-- A reader that has a cursor. One that goes on for ever has no outcome. -/
abbrev Reader (α : Type) := StateT Nat (ExceptT ParseError Option) α

/-- Tokens that are read in place. -/
abbrev Slice := List Token

/-- The token at a place, which is an end mark behind the slice. -/
def tokenAt (ts : Slice) (i : Nat) : Token :=
  ts[i]?.getD .eof

namespace Slice

def peek (ts : Slice) : Reader Token :=
  return tokenAt ts (← get)

/-- The token at the cursor, which moves on unless that is an end mark. -/
def advance (ts : Slice) : Reader Token := do
  let i ← get
  if (tokenAt ts i).kind ≠ .eof then set (i + 1)
  return tokenAt ts i

def unexpected {α : Type} (ts : Slice) (expected : Expected) : Reader α := do
  throw (.unexpectedToken expected (← ts.peek).kind)

def consume (ts : Slice) (kind : TokenKind) : Reader Token := do
  if (← ts.peek).kind = kind then ts.advance else ts.unexpected (.token kind)

mutual

/-- One item of a group that the token `close` ends. -/
def item (ts : Slice) (close : TokenKind) : Reader (Option Node) := do
  let t ← ts.peek
  match t.kind with
  | .string | .number => return some (.literal (← ts.advance).text)
  | .varIdentifier => return some (.variable (← ts.advance).text)
  | .subExprStart => do
    let _ ← ts.advance
    let next ← ts.peek
    if next.kind = .blockStart then throw (.blockInSubExpression next.text)
    else do
      let nodes ← ts |>.items .subExprEnd false
      let node ← liftM (single nodes)
      let _ ← ts.consume .subExprEnd
      return node
  | .functionName => do
    let name ← ts.advance
    let params ← ts |>.items close true
    return some (.function name.text params)
  | .blockEnd => throw (.unexpectedBlockEnd t.text)
  | _ => ts.unexpected .item
partial_fixpoint

/-- The loops over items: those of a group, and the parameters of a function or a block. -/
def items (ts : Slice) (close : TokenKind) (ofFunction : Bool) : Reader (List Node) := do
  let t ← ts.peek
  if t.kind = .eof || t.kind = close || (ofFunction && t.kind = .exprEnd) then return []
  else do
    let node ← ts |>.item close
    let nodes ← ts |>.items close ofFunction
    return node.toList ++ nodes
partial_fixpoint

end

mutual

/-- What follows the braces that open an expression, with the braces that close it. -/
def expression (ts : Slice) : Reader (Option Node) := do
  let t ← ts.peek
  match t.kind with
  | .blockStart => ts |>.block
  | .blockEnd => throw (.unexpectedBlockEnd t.text)
  | _ => do
    let nodes ← ts |>.items .exprEnd false
    let node ← liftM (single nodes)
    let _ ← ts.consume .exprEnd
    return node
partial_fixpoint

/-- A block from its name on. -/
def block (ts : Slice) : Reader (Option Node) := do
  let name ← ts.advance
  let params ← ts |>.items .exprEnd false
  let _ ← ts.consume .exprEnd
  let body ← ts |>.blockBody name.text
  return if body.isEmpty then none else some (.block name.text params body)
partial_fixpoint

/-- The loop over the content of a block. -/
def blockBody (ts : Slice) (name : String) : Reader (List Node) := do
  let t ← ts.peek
  match t.kind with
  | .eof => throw (.unclosedBlock name)
  | .text => do
    let text ← ts.advance
    let nodes ← ts |>.blockBody name
    return .text text.text :: nodes
  | .exprStart => do
    let _ ← ts.advance
    let next ← ts.peek
    if next.kind = .blockEnd then do
      let found ← ts.advance
      if found.text = name ∨ found.text = "end" then do
        let _ ← ts.consume .exprEnd
        return []
      else throw (.mismatchedBlockEnd name found.text)
    else do
      let node ← ts |>.expression
      let nodes ← ts |>.blockBody name
      return node.toList ++ nodes
  | _ => ts.unexpected .content
partial_fixpoint

end

/-- A text or an expression. -/
def topLevelNode (ts : Slice) : Reader (Option Node) := do
  let t ← ts.peek
  match t.kind with
  | .text => return some (.text (← ts.advance).text)
  | .exprStart => do
    let _ ← ts.advance
    ts |>.expression
  | _ => ts.unexpected .content

/-- The loop over a whole slice. -/
def program (ts : Slice) : Reader (List Node) := do
  let t ← ts.peek
  if t.kind = .eof then return []
  else do
    let node ← ts.topLevelNode
    let nodes ← ts |>.program
    return node.toList ++ nodes
partial_fixpoint

end Slice

/-- The outcome for a slice, read from its start. -/
def parseInPlace (ts : List Token) : Option (Except ParseError (List Node)) :=
  match Slice.program ts 0 with
  | none => none
  | some (.error e) => some (.error e)
  | some (.ok (nodes, _)) => some (.ok nodes)

/-- The calls that read a node. -/
inductive Call where
  | topLevelNode
  | expression
  | item (close : TokenKind)
  | block

def Call.reader (ts : List Token) : Call → Reader (Option Node)
  | topLevelNode => Slice.topLevelNode ts
  | expression => Slice.expression ts
  | item close => Slice.item ts close
  | block => Slice.block ts

/-- The loops, each of which may be entered anywhere. -/
inductive Loop where
  | items (close : TokenKind) (ofFunction : Bool)
  | blockBody (name : String)
  | program

def Loop.reader (ts : List Token) : Loop → Reader (List Node)
  | items close ofFunction => Slice.items ts close ofFunction
  | blockBody name => Slice.blockBody ts name
  | program => Slice.program ts

/-! ## Places in a slice -/

section Places

variable {ts : List Token} {i j k : Nat}

/-- The tokens from a place on up to the next end mark. -/
def ahead (ts : List Token) (i : Nat) : List Token :=
  beforeEnd (ts.drop i)

/-- There is no end mark from one place on up to another. -/
structure Passes (ts : List Token) (i j : Nat) : Prop where
  le : i ≤ j
  kind : ∀ k, i ≤ k → k < j → (tokenAt ts k).kind ≠ .eof

theorem Passes.refl (ts : List Token) (i : Nat) : Passes ts i i :=
  ⟨Nat.le_refl i, fun k hle hlt => by omega⟩

theorem Passes.trans (h : Passes ts i j) (h' : Passes ts j k) : Passes ts i k := by
  refine ⟨Nat.le_trans h.le h'.le, fun m hle hlt => ?_⟩
  by_cases hm : m < j
  · exact h.kind m hle hm
  · exact h'.kind m (by omega) hlt

theorem Passes.step (h : (tokenAt ts i).kind ≠ .eof) : Passes ts i (i + 1) := by
  refine ⟨by omega, fun k hle hlt => ?_⟩
  obtain rfl : k = i := by omega
  exact h

/-- Fewer tokens ahead are those of a later place, which is in the slice or at its end. -/
theorem Passes.of_length_lt (h : Passes ts i j) (hlt : (ahead ts j).length < (ahead ts i).length) :
    i < j ∧ j ≤ ts.length := by
  have hij : i < j := by
    rcases Nat.lt_or_eq_of_le h.le with hij | rfl
    · exact hij
    · omega
  refine ⟨hij, ?_⟩
  by_contra hlen
  have hlast : tokenAt ts (j - 1) = .eof := by
    rw [tokenAt, List.getElem?_eq_none (by omega)]
    rfl
  exact h.kind (j - 1) (by omega) (by omega) (by rw [hlast]; rfl)

theorem ahead_of_eof (h : (tokenAt ts i).kind = .eof) : ahead ts i = [] := by
  unfold ahead
  rcases hdrop : ts.drop i with _ | ⟨t, rest⟩
  · rfl
  · have ht : tokenAt ts i = t := by
      rw [tokenAt, ← List.head?_drop, hdrop]
      rfl
    simp [beforeEnd, ← ht, h]

theorem ahead_of_ne_eof (h : (tokenAt ts i).kind ≠ .eof) :
    ahead ts i = tokenAt ts i :: ahead ts (i + 1) := by
  unfold ahead
  rcases hdrop : ts.drop i with _ | ⟨t, rest⟩
  · rw [tokenAt, ← List.head?_drop, hdrop] at h
    exact absurd rfl h
  · have ht : tokenAt ts i = t := by
      rw [tokenAt, ← List.head?_drop, hdrop]
      rfl
    have hrest : ts.drop (i + 1) = rest := by rw [← List.tail_drop, hdrop, List.tail_cons]
    simp [beforeEnd, hrest, ← ht, h]

theorem ahead_of_kind {kind : TokenKind} (h : (tokenAt ts i).kind = kind) (hkind : kind ≠ .eof) :
    ahead ts i = ⟨kind, (tokenAt ts i).text⟩ :: ahead ts (i + 1) := by
  subst h
  exact ahead_of_ne_eof hkind

theorem eq_of_ahead_eq_cons {t : Token} {rest : List Token} (h : ahead ts i = t :: rest) :
    tokenAt ts i = t ∧ rest = ahead ts (i + 1) := by
  by_cases heof : (tokenAt ts i).kind = .eof
  · rw [ahead_of_eof heof] at h
    cases h
  · rw [ahead_of_ne_eof heof] at h
    cases h
    exact ⟨rfl, rfl⟩

end Places

/-! ## Readers step by step -/

section Steps

variable {α β : Type} {ts : List Token} {i : Nat}

theorem Reader.bind_apply (r : Reader α) (f : α → Reader β) (i : Nat) :
    (r >>= f) i =
      match r i with
      | none => none
      | some (.error e) => some (.error e)
      | some (.ok (a, j)) => f a j := by
  show Option.bind (r i : Option (Except ParseError (α × Nat)))
    (ExceptT.bindCont fun p : α × Nat => f p.1 p.2) = _
  rcases (r i : Option (Except ParseError (α × Nat))) with _ | e | ⟨a, j⟩ <;> rfl

theorem Slice.peek_bind (f : Token → Reader β) (i : Nat) :
    (peek ts >>= f) i = f (tokenAt ts i) i :=
  rfl

theorem Slice.advance_apply (ts : List Token) (i : Nat) :
    advance ts i =
      some (.ok (tokenAt ts i, if (tokenAt ts i).kind = .eof then i else i + 1)) := by
  change (if (tokenAt ts i).kind ≠ .eof then set (i + 1) >>= fun _ => pure (tokenAt ts i)
    else pure (tokenAt ts i) : Reader Token) i = _
  by_cases h : (tokenAt ts i).kind = .eof
  · rw [if_pos h, if_neg (not_not_intro h)]
    rfl
  · rw [if_neg h, if_pos h]
    rfl

theorem Slice.advance_bind (h : (tokenAt ts i).kind ≠ .eof) (f : Token → Reader β) :
    (advance ts >>= f) i = f (tokenAt ts i) (i + 1) := by
  rw [Reader.bind_apply, advance_apply, if_neg h]

/-- A body that does not end here goes on with a piece. -/
theorem Slice.blockBody_of_piece {name : String} (heof : (tokenAt ts i).kind ≠ .eof)
    (hend : (tokenAt ts i).kind = .exprStart → (tokenAt ts (i + 1)).kind ≠ .blockEnd) :
    blockBody ts name i =
      (topLevelNode ts >>= fun node => do
        let nodes ← blockBody ts name
        return node.toList ++ nodes) i := by
  conv_lhs => rw [blockBody.eq_def]
  rw [peek_bind, Reader.bind_apply (topLevelNode ts), topLevelNode, peek_bind]
  cases hkind : (tokenAt ts i).kind with
  | eof => exact absurd hkind heof
  | text =>
    dsimp only
    rw [advance_bind heof, advance_bind heof]
    rfl
  | exprStart =>
    dsimp only
    rw [advance_bind heof, advance_bind heof, peek_bind, if_neg (hend hkind), Reader.bind_apply]
  | _ => rfl

/-- The outcome of a reader that is started at a place is that of taking tokens off the front of
those ahead. -/
inductive Follows (ts : List Token) (i : Nat) :
    Except ParseError (α × List Token) → Option (Except ParseError (α × Nat)) → Prop
  | error (e : ParseError) : Follows ts i (.error e) (some (.error e))
  | ok (a : α) {j : Nat} (h : Passes ts i j) :
      Follows ts i (.ok (a, ahead ts j)) (some (.ok (a, j)))

theorem Follows.isSome {x : Except ParseError (α × List Token)}
    {outcome : Option (Except ParseError (α × Nat))} (h : Follows ts i x outcome) :
    outcome.isSome := by
  cases h <;> rfl

/-- The same, unless the bound on steps was reached. -/
def Agrees (ts : List Token) (i : Nat) (x : Except ParseError (α × List Token))
    (outcome : Option (Except ParseError (α × Nat))) : Prop :=
  Settles x → Follows ts i x outcome

namespace Agrees

variable {x : Except ParseError (α × List Token)} {r : Reader α}

theorem of_ok (a : α) : Agrees ts i (.ok (a, ahead ts i)) (some (.ok (a, i))) :=
  fun _ => .ok a (.refl ts i)

theorem of_error (e : ParseError) :
    Agrees ts i (.error e : Except ParseError (α × List Token)) (some (.error e)) :=
  fun _ => .error e

theorem exhausted {outcome : Option (Except ParseError (α × Nat))} :
    Agrees ts i (.error .exhausted) outcome :=
  fun h => absurd rfl h

/-- What agrees from a later place on agrees from here on. -/
theorem of_passes {j : Nat} {outcome : Option (Except ParseError (α × Nat))} (hij : Passes ts i j)
    (h : Agrees ts j x outcome) : Agrees ts i x outcome := by
  intro hx
  cases h hx with
  | error e => exact .error e
  | ok a hjk => exact .ok a (hij.trans hjk)

theorem bind {f : α × List Token → Except ParseError (β × List Token)} {g : α → Reader β}
    (h : Agrees ts i x (r i)) (hnext : ∀ a j, Agrees ts j (f (a, ahead ts j)) (g a j)) :
    Agrees ts i (x >>= f) ((r >>= g) i) := by
  intro hsettles
  have hx : Settles x := by
    rintro rfl
    exact hsettles rfl
  rw [Reader.bind_apply]
  generalize r i = outcome at h
  cases h hx with
  | error e => exact .error e
  | ok a hij => exact of_passes hij (hnext a _) hsettles

/-- A check that reads nothing. -/
theorem lift {y : Except ParseError α} {f : α → Except ParseError (β × List Token)}
    {g : α → Reader β} (hnext : ∀ a, Agrees ts i (f a) (g a i)) :
    Agrees ts i (y >>= f) ((liftM y >>= g) i) := by
  rcases y with e | a
  · exact of_error e
  · exact hnext a

theorem advance {g : Token → Reader β} {y : Except ParseError (β × List Token)}
    (h : (tokenAt ts i).kind ≠ .eof) (hnext : Agrees ts (i + 1) y (g (tokenAt ts i) (i + 1))) :
    Agrees ts i y ((Slice.advance ts >>= g) i) := by
  rw [Slice.advance_bind h]
  exact of_passes (.step h) hnext

theorem consume {kind : TokenKind} (hkind : kind ≠ .eof)
    {f : List Token → Except ParseError (β × List Token)} {g : Reader β}
    (hnext : Agrees ts (i + 1) (f (ahead ts (i + 1))) (g (i + 1))) :
    Agrees ts i (expect kind (ahead ts i) >>= f) ((Slice.consume ts kind >>= fun _ => g) i) := by
  change Agrees ts i _ (((if (tokenAt ts i).kind = kind then Slice.advance ts
    else Slice.unexpected ts (.token kind) : Reader Token) >>= fun _ => g) i)
  by_cases heof : (tokenAt ts i).kind = .eof
  · have hne : (tokenAt ts i).kind ≠ kind := by
      rw [heof]
      exact Ne.symm hkind
    rw [ahead_of_eof heof, if_neg hne, expect, ← heof]
    exact of_error _
  · rw [ahead_of_ne_eof heof, expect]
    by_cases h : (tokenAt ts i).kind = kind
    · rw [if_pos h, if_pos h]
      exact advance heof hnext
    · rw [if_neg h, if_neg h]
      exact of_error _

theorem unexpected {kind : TokenKind} (h : (tokenAt ts i).kind = kind) (expected : Expected) :
    Agrees ts i (.error (.unexpectedToken expected kind) : Except ParseError (α × List Token))
      (Slice.unexpected ts expected i) := by
  subst h
  exact of_error _

end Agrees

end Steps

/-! ## Agreement -/

section Agreement

variable (ts : List Token)

mutual

theorem item_agrees :
    ∀ (fuel : Nat) (close : TokenKind) (i : Nat),
      Agrees ts i (item close fuel (ahead ts i)) (Slice.item ts close i)
  | 0, _, _ => .exhausted
  | fuel + 1, close, i => by
    rw [Slice.item.eq_def, Slice.peek_bind]
    by_cases heof : (tokenAt ts i).kind = .eof
    · rw [ahead_of_eof heof, heof]
      exact .unexpected heof _
    · rw [ahead_of_ne_eof heof, item.eq_def]
      dsimp only
      cases hkind : (tokenAt ts i).kind with
      | string => exact .advance heof (.of_ok _)
      | number => exact .advance heof (.of_ok _)
      | varIdentifier => exact .advance heof (.of_ok _)
      | subExprStart =>
        refine .advance heof ?_
        rw [Slice.peek_bind]
        dsimp only
        by_cases hnext : (tokenAt ts (i + 1)).kind = .blockStart
        · rw [if_pos hnext, ahead_of_kind hnext (by simp)]
          exact .of_error _
        · rw [if_neg hnext]
          split
          next hahead =>
            exact absurd (congrArg Token.kind (eq_of_ahead_eq_cons hahead).1) hnext
          refine .bind (items_agrees fuel _ _ _) fun nodes j => ?_
          refine .lift fun node => ?_
          exact .consume (by simp) (.of_ok node)
      | functionName =>
        refine .advance heof (.bind (items_agrees fuel _ _ _) fun params j => ?_)
        exact .of_ok _
      | blockEnd => exact .of_error _
      | _ => exact .unexpected hkind _

theorem items_agrees :
    ∀ (fuel : Nat) (close : TokenKind) (ofFunction : Bool) (i : Nat),
      Agrees ts i (items close ofFunction fuel (ahead ts i)) (Slice.items ts close ofFunction i)
  | 0, _, _, _ => .exhausted
  | fuel + 1, close, ofFunction, i => by
    rw [Slice.items.eq_def, Slice.peek_bind, items]
    have hhead : headKind (ahead ts i) = (tokenAt ts i).kind := by
      by_cases heof : (tokenAt ts i).kind = .eof
      · rw [ahead_of_eof heof, heof, headKind]
      · rw [ahead_of_ne_eof heof, headKind]
    dsimp only
    rw [hhead]
    split
    · exact .of_ok _
    · refine .bind (item_agrees fuel close i) fun node j => ?_
      refine .bind (items_agrees fuel close ofFunction j) fun nodes k => ?_
      exact .of_ok _

end

mutual

theorem piece_agrees :
    ∀ (fuel i : Nat), Agrees ts i (piece fuel (ahead ts i)) (Slice.topLevelNode ts i)
  | 0, _ => .exhausted
  | fuel + 1, i => by
    rw [Slice.topLevelNode, Slice.peek_bind]
    by_cases heof : (tokenAt ts i).kind = .eof
    · rw [ahead_of_eof heof, heof]
      exact .unexpected heof _
    · rw [ahead_of_ne_eof heof, piece.eq_def]
      dsimp only
      cases hkind : (tokenAt ts i).kind with
      | text => exact .advance heof (.of_ok _)
      | exprStart => exact .advance heof (expression_agrees fuel _)
      | _ => exact .unexpected hkind _

theorem expression_agrees :
    ∀ (fuel i : Nat), Agrees ts i (expression fuel (ahead ts i)) (Slice.expression ts i)
  | 0, _ => .exhausted
  | fuel + 1, i => by
    rw [Slice.expression.eq_def, Slice.peek_bind, expression.eq_def]
    dsimp only
    split
    next hahead =>
      obtain ⟨htok, rfl⟩ := eq_of_ahead_eq_cons hahead
      have h := block_agrees fuel i (by simp [htok])
      rw [htok] at h ⊢
      exact h
    next hahead =>
      obtain ⟨htok, rfl⟩ := eq_of_ahead_eq_cons hahead
      rw [htok]
      exact .of_error _
    next hopen hclose =>
      cases hkind : (tokenAt ts i).kind with
      | blockStart => exact (hopen _ _ (ahead_of_kind hkind (by simp))).elim
      | blockEnd => exact (hclose _ _ (ahead_of_kind hkind (by simp))).elim
      | _ =>
        refine .bind (items_agrees ts fuel _ _ _) fun nodes j => ?_
        refine .lift fun node => ?_
        exact .consume (by simp) (.of_ok node)

theorem block_agrees :
    ∀ (fuel i : Nat), (tokenAt ts i).kind ≠ .eof →
      Agrees ts i (block (tokenAt ts i).text fuel (ahead ts (i + 1))) (Slice.block ts i)
  | 0, _, _ => .exhausted
  | fuel + 1, i, heof => by
    rw [Slice.block.eq_def, block]
    refine .advance heof (.bind (items_agrees ts fuel _ _ _) fun params j => ?_)
    refine .consume (by simp) ?_
    exact .bind (blockBody_agrees fuel _ _) fun body k => .of_ok _

theorem blockBody_agrees :
    ∀ (fuel : Nat) (name : String) (i : Nat),
      Agrees ts i (blockBody name fuel (ahead ts i)) (Slice.blockBody ts name i)
  | 0, _, _ => .exhausted
  | fuel + 1, name, i => by
    by_cases heof : (tokenAt ts i).kind = .eof
    · rw [Slice.blockBody.eq_def, Slice.peek_bind, ahead_of_eof heof, heof, blockBody]
      exact .of_error _
    rw [ahead_of_ne_eof heof, blockBody.eq_def]
    dsimp only
    split
    next found rest hahead =>
      obtain ⟨htok, hrest⟩ := List.cons.inj hahead
      obtain ⟨hnext, rfl⟩ := eq_of_ahead_eq_cons hrest
      rw [Slice.blockBody.eq_def, Slice.peek_bind, htok]
      refine .advance heof ?_
      rw [Slice.peek_bind, hnext, if_pos rfl]
      refine .advance (by simp [hnext]) ?_
      rw [hnext]
      have hmap : (expect .exprEnd (ahead ts (i + 2))).map (fun rest => (([] : List Node), rest)) =
          (expect .exprEnd (ahead ts (i + 2)) >>= fun rest => .ok ([], rest)) := by
        cases expect .exprEnd (ahead ts (i + 2)) <;> rfl
      dsimp only
      split
      · rw [hmap]
        exact .consume (by simp) (.of_ok _)
      · exact .of_error _
    next hne =>
      rw [Slice.blockBody_of_piece heof, ← ahead_of_ne_eof heof]
      · refine .bind (piece_agrees fuel i) fun node j => ?_
        exact .bind (blockBody_agrees fuel name j) fun nodes k => .of_ok _
      · intro hopen hclose
        refine hne (tokenAt ts i).text (tokenAt ts (i + 1)).text (ahead ts (i + 2)) ?_
        rw [← ahead_of_ne_eof heof, ahead_of_kind hopen (by simp), ahead_of_kind hclose (by simp)]

end

theorem program_agrees :
    ∀ (fuel i : Nat),
      Agrees ts i (program fuel (ahead ts i) >>= fun ns => .ok (ns, [])) (Slice.program ts i)
  | 0, _ => .exhausted
  | fuel + 1, i => by
    rw [Slice.program.eq_def, Slice.peek_bind]
    by_cases heof : (tokenAt ts i).kind = .eof
    · rw [if_pos heof, ahead_of_eof heof]
      have h : Agrees ts i (.ok (([] : List Node), ahead ts i)) (some (.ok ([], i))) := .of_ok []
      rwa [ahead_of_eof heof] at h
    · have hprogram : program (fuel + 1) (ahead ts i) = (do
          let p ← piece fuel (ahead ts i)
          return p.1.toList ++ (← program fuel p.2)) := by
        rw [ahead_of_ne_eof heof, program]
        simp
      rw [if_neg heof, hprogram, bind_assoc]
      refine .bind (piece_agrees ts fuel i) fun node j => ?_
      have hreturn : (do return node.toList ++ (← program fuel (ahead ts j)) :
          Except ParseError (List Node)) >>= (fun ns => .ok (ns, ([] : List Token))) =
            (program fuel (ahead ts j) >>= fun ns => .ok (ns, [])) >>=
              fun p => .ok (node.toList ++ p.1, p.2) := by
        rcases program fuel (ahead ts j) with e | ns <;> rfl
      dsimp only
      rw [hreturn]
      exact .bind (program_agrees fuel j) fun nodes k => .of_ok _

end Agreement

/-! ## Progress -/

section Progress

variable {ts : List Token} {i : Nat}

theorem length_le_of_block {name : String} {fuel : Nat} {ts rest : List Token}
    {node : Option Node} (h : block name fuel ts = .ok (node, rest)) :
    rest.length ≤ ts.length := by
  have hopening : Token.exprStart.kind = .exprStart := rfl
  have hname : (⟨.blockStart, name⟩ : Token).kind = .blockStart := rfl
  obtain ⟨used, rfl, -⟩ := block_sound fuel hopening hname h
  simp

theorem expression_length_lt {fuel : Nat} {ts rest : List Token} {node : Option Node}
    (h : expression fuel ts = .ok (node, rest)) : rest.length < ts.length := by
  rcases fuel with _ | fuel
  · simp [expression] at h
  rcases expression_cases h with ⟨t, ts', rfl, -, hblock⟩ | ⟨closing, -, -, hitems⟩
  · have hle := length_le_of_block hblock
    rw [List.length_cons]
    omega
  · obtain ⟨used, rfl, -⟩ := items_sound fuel hitems
    simp only [List.length_append, List.length_cons]
    omega

theorem Slice.block_of_eof (h : (tokenAt ts i).kind = .eof) :
    block ts i = some (.error (.unexpectedToken (.token .exprEnd) .eof)) := by
  have hconsume : consume ts .exprEnd i =
      some (.error (.unexpectedToken (.token .exprEnd) (tokenAt ts i).kind)) := by
    rw [consume, peek_bind, if_neg (by simp [h])]
    rfl
  rw [block.eq_def, Reader.bind_apply, advance_apply, if_pos h]
  dsimp only
  rw [Reader.bind_apply, items.eq_def, peek_bind, if_pos (by simp [h])]
  change (consume ts .exprEnd >>= _) i = _
  rw [Reader.bind_apply, hconsume, h]

/-- What a call reads is what taking tokens off the front reads, which are some if it gives a
node. -/
theorem Call.follows (c : Call) (ts : List Token) (i : Nat) :
    ∃ x, Follows ts i x (c.reader ts i) ∧
      ∀ node rest, x = .ok (node, rest) → rest.length < (ahead ts i).length := by
  rcases c with _ | _ | close | _
  · refine ⟨_, piece_agrees ts (4 * (ahead ts i).length + 4) i ?_, fun _ _ => piece_length_lt⟩
    rcases ahead ts i with _ | ⟨t, rest⟩
    · simp [piece, Settles]
    · exact piece_settles _ t rest (by rw [List.length_cons]; omega)
  · refine ⟨_, expression_agrees ts (4 * (ahead ts i).length + 3) i ?_,
      fun _ _ => expression_length_lt⟩
    exact expression_settles _ _ (by omega)
  · refine ⟨_, item_agrees ts (2 * (ahead ts i).length + 2) close i ?_, fun _ _ => item_length_lt⟩
    rcases ahead ts i with _ | ⟨t, rest⟩
    · simp [Template.item, Settles]
    · refine item_settles close t fun close' ofFunction => ?_
      exact items_settles _ close' ofFunction rest (by rw [List.length_cons]; omega)
  · by_cases heof : (tokenAt ts i).kind = .eof
    · refine ⟨.error (.unexpectedToken (.token .exprEnd) .eof), ?_, by simp⟩
      rw [Call.reader, Slice.block_of_eof heof]
      exact .error _
    · refine ⟨_, block_agrees ts (4 * (ahead ts (i + 1)).length + 2) i heof ?_,
        fun node rest h => ?_⟩
      · exact block_settles _ _ _ (by omega)
      · have hle := length_le_of_block h
        rw [ahead_of_ne_eof heof, List.length_cons]
        omega

theorem Loop.ends (l : Loop) (ts : List Token) (i : Nat) : (l.reader ts i).isSome := by
  rcases l with ⟨close, ofFunction⟩ | name | _
  · have h := items_agrees ts (2 * (ahead ts i).length + 1) close ofFunction i
      (items_settles _ _ _ _ (by omega))
    exact h.isSome
  · have h := blockBody_agrees ts (4 * (ahead ts i).length + 1) name i
      (blockBody_settles _ _ _ (by omega))
    exact h.isSome
  · have h := program_agrees ts (4 * (ahead ts i).length + 1) i
      ((program_settles _ _ (by omega)).bind fun ns _ => .of_ok _)
    exact h.isSome

end Progress

theorem parseInPlace_of_follows {ts : List Token} {x : Except ParseError (List Node × List Token)}
    (h : Follows ts 0 x (Slice.program ts 0)) :
    parseInPlace ts = some (x.map Prod.fst) := by
  rw [parseInPlace]
  generalize Slice.program ts 0 = outcome at h
  cases h <;> rfl

/-- The cursor reads what the parser reads. -/
theorem parseInPlace_eq (ts : List Token) : parseInPlace ts = some (parse ts) := by
  have h := program_agrees ts (4 * (ahead ts 0).length + 4) 0
    ((program_settles _ _ (by omega)).bind fun ns _ => .of_ok _)
  rw [parseInPlace_of_follows h, ahead, List.drop_zero, ← parse]
  cases parse ts <;> rfl

theorem beforeEnd_beforeEnd (ts : List Token) : beforeEnd (beforeEnd ts) = beforeEnd ts :=
  List.takeWhile_idem

/-- A call that gives a node has moved on, but not beyond an end mark or the end of the slice; every
call and every loop comes to an end; and a slice is read as the parser reads the tokens before the
first end mark. -/
theorem calls_advance (ts : List Token) :
    (∀ (c : Call) (i : Nat), ∃ outcome, c.reader ts i = some outcome ∧
      ∀ node j, outcome = .ok (node, j) → i < j ∧ j ≤ ts.length ∧
        ∀ k, i ≤ k → k < j → (tokenAt ts k).kind ≠ .eof) ∧
      (∀ (l : Loop) (i : Nat), (l.reader ts i).isSome) ∧
      parseInPlace ts = some (parse ts) ∧ parseInPlace (beforeEnd ts) = some (parse ts) := by
  refine ⟨fun c i => ?_, fun l i => l.ends ts i, parseInPlace_eq ts, ?_⟩
  · obtain ⟨x, hfollows, hlt⟩ := c.follows ts i
    generalize c.reader ts i = outcome at hfollows
    cases hfollows with
    | error e => exact ⟨_, rfl, fun _ _ h => by cases h⟩
    | ok node h =>
      refine ⟨_, rfl, fun node' j hj => ?_⟩
      cases hj
      obtain ⟨hij, hlen⟩ := h.of_length_lt (hlt node _ rfl)
      exact ⟨hij, hlen, h.kind⟩
  · rw [parseInPlace_eq, parse, parse, beforeEnd_beforeEnd]

/-- A text, an expression and an end mark, with another expression behind that. -/
def stray : List Token :=
  [⟨.text, "a"⟩, .exprStart, ⟨.number, "1"⟩, .exprEnd, .eof, .exprStart]

theorem stray_calls_advance :
    Call.topLevelNode.reader stray 0 = some (.ok (some (.text "a"), 1)) ∧
      (1 ≤ stray.length ∧ ∀ k, 0 ≤ k → k < 1 → (tokenAt stray k).kind ≠ .eof) ∧
      parseInPlace stray = some (.ok [.text "a", .literal "1"]) ∧
        parseInPlace (beforeEnd stray) = parseInPlace stray := by
  obtain ⟨hcalls, -, hread, hbefore⟩ := calls_advance stray
  have hcall : Call.topLevelNode.reader stray 0 = some (.ok (some (.text "a"), 1)) := rfl
  obtain ⟨outcome, houtcome, hadvance⟩ := hcalls .topLevelNode 0
  rw [hcall] at houtcome
  have hplaces := hadvance _ _ (Option.some.inj houtcome).symm
  exact ⟨hcall, hplaces.2, hread.trans rfl, hbefore.trans hread.symm⟩

end Template

end StubServer
