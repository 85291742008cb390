import StubServer.Json.Basic

/-!
# Documents

A document as a reader finds it: a value that may break off, or that may hold parts nobody can
read but anybody can pass over. A reader goes through it from front to back and reports the first
thing that is wrong.
-/

namespace StubServer

/-- A part of a document. A list or a record is incomplete when the text goes wrong after the
given members. -/
inductive Document where
  | null
  | bool (b : Bool)
  | integer (n : Int)
  | real (literal : String)
  | text (s : String)
  /-- An unquoted word, which is read as its place demands. -/
  | plain (s : String)
  | list (items : List Document) (complete : Bool)
  /-- A name that cannot be read is `none`. -/
  | record (fields : List (Option String × Document)) (complete : Bool)
  /-- Well formed, but nothing reads it. -/
  | unreadable
  /-- Nested deeper than readers go. -/
  | buried (d : Document)
  /-- The text goes wrong here. -/
  | broken
deriving Inhabited

namespace Document

mutual

/-- The part can be passed over without being read. -/
def isWhole : Document → Bool
  | list items complete => allWhole items && complete
  | record fields complete => allFieldsWhole fields && complete
  | buried d => isWhole d
  | broken => false
  | _ => true

def allWhole : List Document → Bool
  | [] => true
  | d :: ds => isWhole d && allWhole ds

def allFieldsWhole : List (Option String × Document) → Bool
  | [] => true
  | (_, d) :: fields => isWhole d && allFieldsWhole fields

end

mutual

/-- The number of levels of lists and records. -/
def height : Document → Nat
  | list items _ => heightOfItems items + 1
  | record fields _ => heightOfFields fields + 1
  | buried d => height d
  | _ => 0

def heightOfItems : List Document → Nat
  | [] => 0
  | d :: ds => max (height d) (heightOfItems ds)

def heightOfFields : List (Option String × Document) → Nat
  | [] => 0
  | (_, d) :: fields => max (height d) (heightOfFields fields)

end

/-- An integer literal within 64 bits; any other number has no use here but to be passed over. -/
def ofNumber (literal : String) : Document :=
  match Number.readInteger? literal.toList with
  | some n =>
    if literal = "-0" || n < Number.minInt64 || Number.size64 ≤ n then real literal else integer n
  | none => real literal

mutual

def ofValue : Json → Document
  | .null => null
  | .bool b => bool b
  | .number literal => ofNumber literal
  | .string s => text s
  | .array items => list (ofItems items) true
  | .object fields => record (ofFields fields) true

def ofItems : List Json → List Document
  | [] => []
  | j :: js => ofValue j :: ofItems js

def ofFields : List (String × Json) → List (Option String × Document)
  | [] => []
  | (name, j) :: fields => (some name, ofValue j) :: ofFields fields

end

/-- The document of a value, whose fields are read in ascending order of names. -/
def ofJson (j : Json) : Document :=
  ofValue j.sorted

mutual

/-- The value of a document, if all of it can be read. -/
def toJson? : Document → Option Json
  | null => some .null
  | bool b => some (.bool b)
  | integer n => some (.ofInt n)
  | real literal => some (.number literal)
  | text s => some (.string s)
  | plain s => some (.string s)
  | list items complete => if complete then (itemsToJson? items).map .array else none
  | record fields complete => if complete then (fieldsToJson? fields).map .object else none
  | unreadable => none
  | buried d => toJson? d
  | broken => none

def itemsToJson? : List Document → Option (List Json)
  | [] => some []
  | d :: ds => do return (← toJson? d) :: (← itemsToJson? ds)

def fieldsToJson? : List (Option String × Document) → Option (List (String × Json))
  | [] => some []
  | (name, d) :: fields => do return (← name, ← toJson? d) :: (← fieldsToJson? fields)

end

end Document

end StubServer
