import StubServer.Json.Parse

/-!
# Reading records out of documents

Readers of the parts of a document. A record's fields are read independently, and of all that is
wrong with them what stands first in the document is reported; a missing field is noticed at the
record's end. A record may also be written as a list of its fields in their order.
-/

namespace StubServer

/-- Why a document could not be read. `ε` is what a reader may find wrong with a meaning. -/
inductive ReadError (ε : Type) where
  | missingField (name : String)
  | duplicateField (name : String)
  | malformed
  | meaning (e : ε)
deriving DecidableEq

namespace ReadError

def map {ε δ : Type} (f : ε → δ) : ReadError ε → ReadError δ
  | missingField name => .missingField name
  | duplicateField name => .duplicateField name
  | malformed => .malformed
  | meaning e => .meaning (f e)

/-- What is said of the error; nothing of a document that has the wrong form. -/
def message? {ε : Type} (describe : ε → String) : ReadError ε → Option String
  | missingField name => some s!"missing field `{name}`"
  | duplicateField name => some s!"duplicate field `{name}`"
  | malformed => none
  | meaning e => some (describe e)

end ReadError

/-- A reader of one part. -/
abbrev Reader (ε α : Type) := Document → Except (ReadError ε) α

namespace Reader

variable {ε α : Type}

def text : Reader ε String
  | .text s => .ok s
  | .plain s => .ok s
  | _ => .error .malformed

def boolean : Reader ε Bool
  | .bool b => .ok b
  | .plain s =>
    if s = "true" || s = "True" || s = "TRUE" then .ok true
    else if s = "false" || s = "False" || s = "FALSE" then .ok false
    else .error .malformed
  | _ => .error .malformed

/-- An unquoted number has no zeros in front. -/
def plainInteger? (s : String) : Option Int :=
  match s.toList with
  | '0' :: _ :: _ => none
  | cs => Number.readInteger? cs

/-- A number below the bound. -/
def natural (bound : Nat) : Reader ε Nat := fun d =>
  let ofInt (n : Int) : Except (ReadError ε) Nat :=
    if 0 ≤ n ∧ n < bound then .ok n.toNat else .error .malformed
  match d with
  | .integer n => ofInt n
  | .plain s => (plainInteger? s).elim (.error .malformed) ofInt
  | _ => .error .malformed

/-- The words that say that there is no value. -/
def isNullWord (s : String) : Bool :=
  s = "" || s = "~" || s = "null" || s = "Null" || s = "NULL"

def orNull (read : Reader ε α) : Reader ε (Option α)
  | .null => .ok none
  | .plain s => if isNullWord s then .ok none else (read (.plain s)).map some
  | d => (read d).map some

def eachItem (read : Reader ε α) : List Document → Except (ReadError ε) (List α)
  | [] => .ok []
  | d :: ds => do return (← read d) :: (← eachItem read ds)

def list (read : Reader ε α) : Reader ε (List α)
  | .list items complete => do
    let as ← eachItem read items
    if complete then .ok as else .error .malformed
  | .plain s => if s = "" then .ok [] else .error .malformed
  | _ => .error .malformed

end Reader

/-- The members of a record by their names, or in the order of the fields. -/
inductive Members where
  | named (fields : List (Option String × Document))
  | ordered (items : List Document)

def Members.length : Members → Nat
  | named fields => fields.length
  | ordered items => items.length

/-- A reader of fields of a record. Errors come with the place of the member at which they are
noticed. -/
structure Fields (ε α : Type) where
  known : List (List String)
  run : Members → Except (Nat × ReadError ε) α

namespace Fields

variable {ε α β : Type}

/-- Puts two outcomes together; of two errors the one noticed first counts. -/
def both (f : Except (Nat × ReadError ε) (α → β)) (a : Except (Nat × ReadError ε) α) :
    Except (Nat × ReadError ε) β :=
  match f, a with
  | .ok f, .ok a => .ok (f a)
  | .error e, .ok _ => .error e
  | .ok _, .error e => .error e
  | .error d, .error e => .error (if e.1 < d.1 then e else d)

instance : Functor (Fields ε) where
  map f a := ⟨a.known, fun m => (a.run m).map f⟩

instance : Seq (Fields ε) where
  seq f a := ⟨f.known ++ (a ()).known, fun m => both (f.run m) ((a ()).run m)⟩

/-- The places and values of the members with one of the names. -/
def occurrences (names : List String) (fields : List (Option String × Document)) :
    List (Nat × Document) :=
  fields.zipIdx.filterMap fun ((name, d), place) =>
    if name.any names.contains then some (place, d) else none

/-- The field at a place among the record's fields, under its name or another one that it goes by.
Without a fallback the field has to be there. -/
def field (place : Nat) (name : String) (others : List String) (fallback : Option α)
    (read : Reader ε α) : Fields ε α where
  known := [name :: others]
  run members :=
    let absent (e : ReadError ε) : Except (Nat × ReadError ε) α :=
      match fallback with
      | some a => .ok a
      | none => .error (members.length + 1, e)
    match members with
    | .ordered items =>
      match items[place]? with
      | some d => (read d).mapError fun e => (place, e)
      | none => absent .malformed
    | .named fields =>
      match occurrences (name :: others) fields with
      | [] => absent (.missingField name)
      | (place, d) :: more =>
        match read d, more with
        | .error e, _ => .error (place, e)
        | .ok a, [] => .ok a
        | .ok _, (again, _) :: _ => .error (again, .duplicateField name)

def required (place : Nat) (name : String) (read : Reader ε α) : Fields ε α :=
  field place name [] none read

def defaulted (place : Nat) (name : String) (fallback : α) (read : Reader ε α) : Fields ε α :=
  field place name [] (some fallback) read

def optional (place : Nat) (name : String) (read : Reader ε α) : Fields ε (Option α) :=
  field place name [] (some none) (Reader.orNull read)

/-- The place of the first member that belongs to no field and cannot be passed over, or of the
end when the record breaks off there. -/
def firstBreak? (known : List (List String)) (complete : Bool)
    (fields : List (Option String × Document)) : Option Nat :=
  let stray := fields.findIdx? fun (name, d) =>
    match name with
    | none => true
    | some name => !known.any (·.contains name) && !d.isWhole
  match stray, complete with
  | some place, _ => some place
  | none, false => some fields.length
  | none, true => none

/-- Reads a record. -/
def read (f : Fields ε α) : Reader ε α := fun d =>
  let settle (break? : Option Nat) (result : Except (Nat × ReadError ε) α) :
      Except (ReadError ε) α :=
    match break?, result with
    | none, .ok a => .ok a
    | none, .error (_, e) => .error e
    | some _, .ok _ => .error .malformed
    | some place, .error (other, e) => .error (if other ≤ place then e else .malformed)
  match d with
  | .record fields complete =>
    settle (firstBreak? f.known complete fields) (f.run (.named fields))
  | .list items complete =>
    let count := f.known.length
    let break? :=
      if count < items.length then some count else if complete then none else some items.length
    settle break? (f.run (.ordered items))
  | .plain s => if s = "" then settle none (f.run (.named [])) else .error .malformed
  | _ => .error .malformed

end Fields

end StubServer
