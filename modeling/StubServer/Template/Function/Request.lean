import StubServer.Http.View
import StubServer.Template.Arguments

/-!
# Functions on the request

Look-ups of named values, with a default, and the parts of a request that have no name.
-/

namespace StubServer

namespace Template

inductive RequestFunction where
  | queryParam
  | urlParam
  | cookieParam
  | headerParam
  | hostname
  | ip
  | method
  | path
deriving DecidableEq

namespace RequestFunction

def all : List RequestFunction :=
  [queryParam, urlParam, cookieParam, headerParam, hostname, ip, method, path]

def name : RequestFunction → String
  | queryParam => "queryParam"
  | urlParam => "urlParam"
  | cookieParam => "cookieParam"
  | headerParam => "headerParam"
  | hostname => "hostname"
  | ip => "ip"
  | method => "method"
  | path => "path"

/-- What a function asks of a request. -/
inductive Query where
  | lookup (find : Http.View → String → Option String) (name fallback : String)
  | part (find : Http.View → String)

def query (f : RequestFunction) (args : Arguments) : Answer Query :=
  let lookup (find : Http.View → String → Option String) : Answer Query := do
    return .lookup find (← args.string 0) (args.stringOr 1 "")
  match f with
  | queryParam => lookup Http.View.queryParam?
  | urlParam => lookup Http.View.routeParam?
  | cookieParam => lookup Http.View.cookie?
  | headerParam => lookup Http.View.header?
  | hostname => .ok (.part Http.View.hostname)
  | ip => .ok (.part Http.View.ip)
  | method => .ok (.part Http.View.method)
  | path => .ok (.part Http.View.path)

def Query.answer (q : Query) (v : Http.View) : String :=
  match q with
  | lookup find name fallback => (find v name).getD fallback
  | part find => find v

end RequestFunction

end Template

end StubServer
