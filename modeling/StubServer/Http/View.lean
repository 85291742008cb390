import StubServer.Http.QueryString
import StubServer.Text.Blank

/-!
# What templates and rules see of a request

A view of a request holds its method, its path and three maps: the decoded query, the headers under
their names in lower case, and the values captured by the route.
-/

namespace StubServer

namespace Http

structure View where
  method : String := ""
  path : String := ""
  query : Bindings String := .empty
  headers : Bindings String := .empty
  routeParams : Bindings String := .empty
  remoteAddr : Option String := none
deriving Inhabited

namespace View

def ofTarget (method path : String) : View := { method, path }

def withQuery (v : View) (query : String) : View :=
  { v with query := v.query.insertAll (QueryString.pairs query) }

def withHeader (v : View) (name value : String) : View :=
  { v with headers := v.headers.insert (Text.asciiLower name) value }

def withRouteParams (v : View) (params : Bindings String) : View :=
  { v with routeParams := params }

def withRemoteAddr (v : View) (addr : String) : View :=
  { v with remoteAddr := some addr }

def header? (v : View) (name : String) : Option String :=
  v.headers.get? (Text.asciiLower name)

def queryParam? (v : View) (name : String) : Option String :=
  v.query.get? name

def routeParam? (v : View) (name : String) : Option String :=
  v.routeParams.get? name

/-- The pairs of a cookie header, in order; a part without an equals sign is left out. -/
def cookiePairs (header : List Char) : List (List Char × List Char) :=
  (Text.splitAtChar ';' header).filterMap fun part => Text.cutAt? '=' (Text.trimChars part)

/-- The value of the first cookie with the name. -/
def cookie? (v : View) (name : String) : Option String :=
  (v.header? "cookie").bind fun header =>
    ((cookiePairs header.toList).lookup name.toList).map String.ofList

/-- A host's name without the port; an address in brackets keeps them. -/
def hostOf (host : List Char) : List Char :=
  match host with
  | '[' :: _ =>
    match Text.cutAt? ']' host with
    | some (address, _) => address ++ [']']
    | none => host
  | _ => host.takeWhile (· != ':')

def hostname (v : View) : String :=
  .ofList (hostOf ((v.header? "host").getD "").toList)

def ip (v : View) : String :=
  v.remoteAddr.getD ""

end View

end Http

end StubServer
