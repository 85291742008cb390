import StubServer.Number.Integer
import StubServer.Text.Split

/-!
# JSON values

Values as they are written. A number is kept as its literal and the fields of an object keep
their order.
-/

namespace StubServer

inductive Json where
  | null
  | bool (b : Bool)
  | number (literal : String)
  | string (s : String)
  | array (items : List Json)
  | object (fields : List (String × Json))
deriving Inhabited

namespace Json

def ofNat (n : Nat) : Json := .number (toString n)

def ofInt (n : Int) : Json := .number (toString n)

/-- The value of a field of an object; of equal names the last counts. -/
def field? (j : Json) (name : String) : Option Json :=
  match j with
  | object fields => fields.reverse.lookup name
  | _ => none

/-- A character inside quotes. -/
def escapeChar (c : Char) : List Char :=
  match c with
  | '"' => ['\\', '"']
  | '\\' => ['\\', '\\']
  | '\n' => ['\\', 'n']
  | '\r' => ['\\', 'r']
  | '\t' => ['\\', 't']
  | c =>
    if c.toNat = 8 then ['\\', 'b']
    else if c.toNat = 12 then ['\\', 'f']
    else if c.toNat < 32 then '\\' :: 'u' :: (Number.toHex c.toNat 4).toList
    else [c]

def quote (s : String) : String :=
  .ofList ('"' :: s.toList.flatMap escapeChar ++ ['"'])

mutual

/-- The text of a value, without blanks. -/
def write : Json → String
  | null => "null"
  | bool b => if b then "true" else "false"
  | number literal => literal
  | string s => quote s
  | array items => "[" ++ Text.join "," (writeItems items) ++ "]"
  | object fields => "\x7b" ++ Text.join "," (writeFields fields) ++ "\x7d"

def writeItems : List Json → List String
  | [] => []
  | j :: js => write j :: writeItems js

def writeFields : List (String × Json) → List String
  | [] => []
  | (name, j) :: fields => (quote name ++ ":" ++ write j) :: writeFields fields

end

/-- Puts a field at its place in ascending order of names, over one of the same name. -/
def insertField (name : String) (j : Json) : List (String × Json) → List (String × Json)
  | [] => [(name, j)]
  | (n, k) :: rest =>
    if name < n then (name, j) :: (n, k) :: rest
    else if name = n then (n, j) :: rest
    else (n, k) :: insertField name j rest

mutual

/-- The value with the fields of every object in ascending order; of equal names the last stays. -/
def sorted : Json → Json
  | array items => array (sortedItems items)
  | object fields => object (sortedFields [] fields)
  | j => j

def sortedItems : List Json → List Json
  | [] => []
  | j :: js => sorted j :: sortedItems js

def sortedFields (done : List (String × Json)) : List (String × Json) → List (String × Json)
  | [] => done
  | (name, j) :: fields => sortedFields (insertField name (sorted j) done) fields

end

end Json

end StubServer
