import StubServer.Text.Case
import StubServer.Url.Basic

/-!
# Reading route templates

A template's text is cut into characters, slashes and what stands in braces. Doubled braces stand
for single ones.
-/

namespace StubServer

namespace Url

inductive Piece where
  | char (c : Char)
  | slash
  | braces (inner : List Char)
  /-- A brace without a partner; nothing is read behind it. -/
  | unbalanced

/-- The pieces of a text; `inner` is what was read since an open brace, backwards. -/
def scan : Option (List Char) → List Char → List Piece
  | none, [] => []
  | some _, [] => [.unbalanced]
  | none, '\x7b' :: '\x7b' :: rest => .char '\x7b' :: scan none rest
  | none, '\x7d' :: '\x7d' :: rest => .char '\x7d' :: scan none rest
  | none, '\x7d' :: _ => [.unbalanced]
  | none, '\x7b' :: rest => scan (some []) rest
  | none, '/' :: rest => .slash :: scan none rest
  | none, c :: rest => .char c :: scan none rest
  | some inner, '\x7d' :: '\x7d' :: rest => scan (some ('\x7d' :: inner)) rest
  | some inner, '\x7d' :: rest => .braces inner.reverse :: scan none rest
  | some inner, '\x7b' :: '\x7b' :: rest => scan (some ('\x7b' :: inner)) rest
  | some _, '\x7b' :: _ => [.unbalanced]
  | some inner, c :: rest => scan (some (c :: inner)) rest

def endsConstraint (c : Char) : Bool :=
  c == ':' || c == '=' || c == '?'

/-- The constraint up to a character that ends it outside parentheses, and the rest. -/
def cutConstraint (depth : Nat) : List Char → List Char × List Char
  | [] => ([], [])
  | c :: cs =>
    if depth = 0 ∧ endsConstraint c then ([], c :: cs)
    else
      let depth := if c = '(' then depth + 1 else if c = ')' then depth - 1 else depth
      let (constraint, rest) := cutConstraint depth cs
      (c :: constraint, rest)

theorem cutConstraint_length (depth : Nat) (cs : List Char) :
    (cutConstraint depth cs).2.length ≤ cs.length := by
  induction cs generalizing depth with
  | nil => simp [cutConstraint]
  | cons c cs ih =>
    unfold cutConstraint
    split
    · simp
    · simpa using Nat.le_succ_of_le (ih _)

def readConstraint (cs : List Char) : Except TemplateError Constraint :=
  (Constraint.read cs).mapError fun
    | .unknown name => .unknownConstraint name
    | .invalid fault => .invalidConstraint (.ofList cs) fault

/-- Reads the constraints behind a parameter's name, each after a colon. -/
def readConstraints (cs : List Char) : Except TemplateError (List Constraint × List Char) :=
  match cs with
  | ':' :: rest =>
    match readConstraint (cutConstraint 0 rest).1 with
    | .error e => .error e
    | .ok k => (readConstraints (cutConstraint 0 rest).2).map fun (ks, rest) => (k :: ks, rest)
  | _ => .ok ([], cs)
termination_by cs.length
decreasing_by
  exact Nat.lt_succ_of_le (cutConstraint_length 0 rest)

/-- Reads what stands behind a parameter's constraints. -/
def readPresence (name : String) (cs : List Char) : Except TemplateError Presence :=
  match cs with
  | '=' :: value =>
    if value.getLast? = some '?' then .error (.optionalWithDefault name)
    else .ok (.defaulted (.ofList value))
  | '?' :: '=' :: _ => .error (.optionalWithDefault name)
  | ['?'] => .ok .optional
  | '?' :: _ => .error (.invalidConstraint (.ofList cs) .textAfterMark)
  | _ => .ok .required

/-- Reads a parameter from between its braces. -/
def Parameter.read (template : String) (inner : List Char) : Except TemplateError Parameter := do
  let (catchAll, rest) :=
    match inner with
    | '*' :: '*' :: rest => (true, rest)
    | '*' :: rest => (true, rest)
    | _ => (false, inner)
  let name := String.ofList (Text.trimChars (rest.takeWhile (!endsConstraint ·)))
  if name = "" then .error (.emptyParameterName template)
  else do
    let (constraints, rest) ← readConstraints (rest.dropWhile (!endsConstraint ·))
    let presence ← readPresence name rest
    return { name, catchAll, presence, constraints }

/-- Puts the literal read so far, backwards, in front of the parts, unless it is empty. -/
def flush (literal : List Char) (parts : List Part) : List Part :=
  if literal.isEmpty then parts else .literal (.ofList literal.reverse) :: parts

/-- Puts a segment's parts, backwards, in front of the segments; a segment without parts does not
count. -/
def addSegment (parts : List Part) (segments : List (List Part)) : List (List Part) :=
  if parts.isEmpty then segments else parts.reverse :: segments

/-- The segments that pieces form, from a literal and parts read before them. -/
def segmentParts (template : String) (literal : List Char) (parts : List Part) :
    List Piece → Except TemplateError (List (List Part))
  | [] => .ok (addSegment (flush literal parts) [])
  | .char c :: ps => segmentParts template (c :: literal) parts ps
  | .slash :: ps => do
    return addSegment (flush literal parts) (← segmentParts template [] [] ps)
  | .braces inner :: ps => do
    let p ← Parameter.read template inner
    segmentParts template [] (.parameter p :: flush literal parts) ps
  | .unbalanced :: _ => .error (.unbalancedBraces template)

/-- The segment that parts form. The pattern of a complex one can always be read, whatever its
literals are (`read?_segmentPattern`), so nothing but its parameters can be at fault. -/
def Segment.ofParts (parts : List Part) : Except TemplateError Segment :=
  match parts with
  | [.literal text] => .ok (.literal (Text.lower text))
  | [.parameter p] => .ok (.parameter p)
  | _ =>
    match (parts.filterMap Part.parameter?).find? fun p => !p.isPlain with
    | some p => .error (.complexSegmentParameter p.name)
    | none => .ok (.complex parts)

/-- Adds the names of parameters, in lower case, to those seen before. -/
def addNames (seen : List String) : List Parameter → Except TemplateError (List String)
  | [] => .ok seen
  | p :: ps =>
    let name := Text.lower p.name
    if seen.contains name then .error (.duplicateParameter p.name) else addNames (name :: seen) ps

/-- The segments of a template; only the last may take the rest of the path. -/
def buildSegments (seen : List String) : List (List Part) → Except TemplateError (List Segment)
  | [] => .ok []
  | parts :: rest => do
    let seen ← addNames seen (parts.filterMap Part.parameter?)
    let segment ← Segment.ofParts parts
    match segment.catchAll?, rest with
    | some p, _ :: _ => .error (.catchAllNotLast p.name)
    | _, _ => return segment :: (← buildSegments seen rest)

/-- A template's text without blanks around it, a slash in front, which may follow a tilde, and a
slash at the end. -/
def body (template : String) : List Char :=
  let trimmed := Text.trimChars template.toList
  let rest :=
    match trimmed with
    | '~' :: '/' :: rest => rest
    | '/' :: rest => rest
    | _ => trimmed
  (Text.before? ['/'] rest).getD rest

def Template.read (template : String) : Except TemplateError Template := do
  let parts ← segmentParts template [] [] (scan none (body template))
  return ⟨template, ← buildSegments [] parts⟩

end Url

end StubServer
