import StubServer.Template.Node

/-!
# From tokens to nodes

A reader for each part of the grammar takes its tokens off the front of the stream and returns
the rest. The number of steps is bounded by a multiple of the number of tokens.

A function owns every item up to the end of its group. A group holds at most one node, an empty
group contributes none, and a block with an empty body vanishes.
-/

namespace StubServer

namespace Template

/-- The kind of the first token; the end mark where there is none. -/
def headKind : List Token → TokenKind
  | [] => .eof
  | t :: _ => t.kind

/-- Takes a token of the given kind. -/
def expect (kind : TokenKind) : List Token → Except ParseError (List Token)
  | [] => .error (.unexpectedToken (.token kind) .eof)
  | t :: rest =>
    if t.kind = kind then .ok rest else .error (.unexpectedToken (.token kind) t.kind)

/-- The node of a group, which holds at most one. -/
def single : List Node → Except ParseError (Option Node)
  | [] => .ok none
  | [n] => .ok (some n)
  | _ => .error .tooManyNodes

mutual

/-- One item of a group that the token `close` ends. -/
def item (close : TokenKind) : Nat → List Token → Except ParseError (Option Node × List Token)
  | 0, _ => .error .exhausted
  | _ + 1, [] => .error (.unexpectedToken .item .eof)
  | fuel + 1, t :: rest =>
    match t.kind with
    | .string => .ok (some (.literal t.text), rest)
    | .number => .ok (some (.literal t.text), rest)
    | .varIdentifier => .ok (some (.variable t.text), rest)
    | .subExprStart =>
      match rest with
      | ⟨.blockStart, name⟩ :: _ => .error (.blockInSubExpression name)
      | rest => do
        let (nodes, rest) ← items .subExprEnd false fuel rest
        let node ← single nodes
        let rest ← expect .subExprEnd rest
        return (node, rest)
    | .functionName => do
      let (params, rest) ← items close true fuel rest
      return (some (.function t.text params), rest)
    | .blockEnd => .error (.unexpectedBlockEnd t.text)
    | kind => .error (.unexpectedToken .item kind)

/-- The items up to the end of the group. The parameters of a function also end where the whole
expression does. -/
def items (close : TokenKind) (ofFunction : Bool) :
    Nat → List Token → Except ParseError (List Node × List Token)
  | 0, _ => .error .exhausted
  | fuel + 1, ts =>
    let kind := headKind ts
    if kind = .eof || kind = close || (ofFunction && kind = .exprEnd) then .ok ([], ts)
    else do
      let (node, rest) ← item close fuel ts
      let (nodes, rest) ← items close ofFunction fuel rest
      return (node.toList ++ nodes, rest)

end

mutual

/-- A text or an expression. -/
def piece : Nat → List Token → Except ParseError (Option Node × List Token)
  | 0, _ => .error .exhausted
  | _ + 1, [] => .error (.unexpectedToken .content .eof)
  | fuel + 1, t :: rest =>
    match t.kind with
    | .text => .ok (some (.text t.text), rest)
    | .exprStart => expression fuel rest
    | kind => .error (.unexpectedToken .content kind)

/-- What follows the braces that open an expression, with the braces that close it. -/
def expression : Nat → List Token → Except ParseError (Option Node × List Token)
  | 0, _ => .error .exhausted
  | fuel + 1, ts =>
    match ts with
    | ⟨.blockStart, name⟩ :: rest => block name fuel rest
    | ⟨.blockEnd, name⟩ :: _ => .error (.unexpectedBlockEnd name)
    | ts => do
      let (nodes, rest) ← items .exprEnd false fuel ts
      let node ← single nodes
      let rest ← expect .exprEnd rest
      return (node, rest)

/-- A block behind its name: parameters, body and the expression that ends it. -/
def block (name : String) : Nat → List Token → Except ParseError (Option Node × List Token)
  | 0, _ => .error .exhausted
  | fuel + 1, ts => do
    let (params, rest) ← items .exprEnd false fuel ts
    let rest ← expect .exprEnd rest
    let (body, rest) ← blockBody name fuel rest
    return (if body.isEmpty then none else some (.block name params body), rest)

/-- The content of a block up to and with its end, which names the block or is called `end`. -/
def blockBody (name : String) : Nat → List Token → Except ParseError (List Node × List Token)
  | 0, _ => .error .exhausted
  | _ + 1, [] => .error (.unclosedBlock name)
  | fuel + 1, ts =>
    match ts with
    | ⟨.exprStart, _⟩ :: ⟨.blockEnd, found⟩ :: rest =>
      if found = name ∨ found = "end" then (expect .exprEnd rest).map fun rest => ([], rest)
      else .error (.mismatchedBlockEnd name found)
    | ts => do
      let (node, rest) ← piece fuel ts
      let (nodes, rest) ← blockBody name fuel rest
      return (node.toList ++ nodes, rest)

end

/-- Texts and expressions to the end of the stream. -/
def program : Nat → List Token → Except ParseError (List Node)
  | 0, _ => .error .exhausted
  | _ + 1, [] => .ok []
  | fuel + 1, ts => do
    let (node, rest) ← piece fuel ts
    return node.toList ++ (← program fuel rest)

/-- The tokens before the first end mark. -/
def beforeEnd (ts : List Token) : List Token :=
  ts.takeWhile fun t => t.kind != .eof

/-- The nodes of a stream of tokens, of which those behind the first end mark do not count. -/
def parse (ts : List Token) : Except ParseError (List Node) :=
  program (4 * (beforeEnd ts).length + 4) (beforeEnd ts)

end Template

end StubServer
