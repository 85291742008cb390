import StubServer.Text.Case
import StubServer.Url.Basic

/-!
# Matching paths

A path matches a template when each segment of the template accepts its counterpart. The values of
the parameters are captured on the way.
-/

namespace StubServer

namespace Url

/-- The segments of a path, without a query and without one slash at either end. -/
def pathSegments (path : String) : List (List Char) :=
  let path := path.toList.takeWhile (· != '?')
  let path :=
    match path with
    | '/' :: rest => rest
    | _ => path
  let path := (Text.before? ['/'] path).getD path
  if path.isEmpty then [] else Text.splitAtChar '/' path

/-- The list after a beginning that is compared without regard to case, one by one. -/
def afterFolded? : List Char → List Char → Option (List Char)
  | [], cs => some cs
  | _ :: _, [] => none
  | l :: ls, c :: cs => if Text.foldChar l = Text.foldChar c then afterFolded? ls cs else none

/-- The values of the parameters of a complex segment. A parameter takes at least one character and
no line break, and the earlier of them as many as they can. -/
def captures? : List Part → List Char → Option (List (Parameter × String))
  | [], cs => if cs.isEmpty then some [] else none
  | .literal text :: parts, cs => (afterFolded? text.toList cs).bind (captures? parts)
  | .parameter p :: parts, cs =>
    (List.range (cs.takeWhile (· != '\n')).length).reverse.findSome? fun n =>
      (captures? parts (cs.drop (n + 1))).map ((p, .ofList (cs.take (n + 1))) :: ·)

/-- Binds the parameter to a value that it accepts. -/
def capture (p : Parameter) (value : String) (values : Bindings String) :
    Option (Bindings String) :=
  if p.accepts value then some (values.insert p.name value) else none

def captureAll (values : Bindings String) : List (Parameter × String) → Option (Bindings String)
  | [] => some values
  | (p, value) :: rest => (capture p value values).bind (captureAll · rest)

/-- The values after the rest of a path went to a parameter. -/
def captureRest (p : Parameter) (rest : List (List Char)) (values : Bindings String) :
    Option (Bindings String) :=
  let rest := Text.join "/" (rest.map String.ofList)
  if rest = "" then
    match p.presence with
    | .defaulted value => capture p value values
    | _ => some values
  else capture p rest values

def Segment.matchPart (segment : Segment) (part : List Char) (values : Bindings String) :
    Option (Bindings String) :=
  match segment with
  | literal lowered => if lowered = Text.lower (.ofList part) then some values else none
  | parameter p => if part.isEmpty then none else capture p (.ofList part) values
  | complex parts => (captures? parts part).bind (captureAll values)

/-- The values after a segment that the path has no counterpart for. -/
def Segment.matchNothing (segment : Segment) (values : Bindings String) :
    Option (Bindings String) :=
  match segment with
  | parameter p =>
    match p.presence with
    | .required => none
    | .optional => some values
    | .defaulted value => capture p value values
  | _ => none

def matchSegments (values : Bindings String) :
    List Segment → List (List Char) → Option (Bindings String)
  | [], [] => some values
  | [], _ :: _ => none
  | s :: segments, parts =>
    match s.catchAll? with
    | some p => captureRest p parts values
    | none =>
      match parts with
      | [] => (s.matchNothing values).bind (matchSegments · segments [])
      | part :: parts => (s.matchPart part values).bind (matchSegments · segments parts)

/-- The values of the parameters when the path matches. -/
def Template.match? (t : Template) (path : String) : Option (Bindings String) :=
  matchSegments .empty t.segments (pathSegments path)

end Url

end StubServer
