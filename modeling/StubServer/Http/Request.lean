import StubServer.Http.View

/-!
# Requests

A request as it comes in, and the line form of it: a method, a target and headers, each a name
with a colon behind it and the words up to the next one.
-/

namespace StubServer

namespace Http

structure Request where
  method : String := ""
  path : String := ""
  query : Option String := none
  headers : Bindings String := .empty
  remoteAddr : Option String := none
deriving Inhabited

/-- Why a line is no request. -/
inductive RequestLineError where
  | emptyLine
  | noPath (line : String)
  | noHeaderName (token : String)
deriving DecidableEq

def RequestLineError.message : RequestLineError → String
  | emptyLine => "Empty request line"
  | noPath line => s!"Missing request path in '{line}'"
  | noHeaderName token => s!"Expected a header name before '{token}'"

namespace Request

/-- The query of a target is what follows the first question mark. -/
def ofTarget (method target : String) : Request :=
  match Text.cutAt? '?' target.toList with
  | some (path, query) => { method, path := .ofList path, query := some (.ofList query) }
  | none => { method, path := target }

def withHeader (r : Request) (name value : String) : Request :=
  { r with headers := r.headers.insert name value }

def withRemoteAddr (r : Request) (addr : String) : Request :=
  { r with remoteAddr := some addr }

/-- The name of the header that a token begins. -/
def headerName? (token : String) : Option String :=
  ((Text.before? [':'] token.toList).filter (!·.isEmpty)).map String.ofList

/-- Reads headers; the last one read so far has a name and words, backwards. -/
def readHeaders (r : Request) (current : Option (String × List String)) :
    List String → Except RequestLineError Request
  | [] => .ok (close r current)
  | token :: tokens =>
    match headerName? token, current with
    | some name, _ => readHeaders (close r current) (some (name, [])) tokens
    | none, some (name, words) => readHeaders r (some (name, token :: words)) tokens
    | none, none => .error (.noHeaderName token)
where
  close (r : Request) : Option (String × List String) → Request
    | some (name, words) => r.withHeader name (Text.join " " words.reverse)
    | none => r

def readLine (line : String) : Except RequestLineError Request :=
  match Text.words line with
  | [] => .error .emptyLine
  | [_] => .error (.noPath line)
  | method :: target :: tokens =>
    readHeaders (ofTarget (Text.asciiUpper method) target) none tokens

/-- What templates and rules see of the request. -/
def view (r : Request) (routeParams : Bindings String) : View :=
  let v := (View.ofTarget r.method r.path).withRouteParams routeParams
  let v := r.query.elim v v.withQuery
  let v := r.headers.toList.reverse.foldl (fun v h => v.withHeader h.1 h.2) v
  r.remoteAddr.elim v v.withRemoteAddr

end Request

end Http

end StubServer
