import StubServer.Json.Document

/-!
# Reading JSON text

A text is read into the document that it is or that it begins to be, so that what stands before a
mistake is still seen.
-/

namespace StubServer

namespace Json

def isJsonBlank (c : Char) : Bool :=
  c == ' ' || c == '\n' || c == '\t' || c == '\r'

def skipBlanks (cs : List Char) : List Char :=
  cs.dropWhile isJsonBlank

/-- The code unit of four hexadecimal digits. -/
def codeUnit? (cs : List Char) : Option (Nat × List Char) :=
  match cs with
  | a :: b :: c :: d :: rest => do
    let a ← Text.hexValue? a
    let b ← Text.hexValue? b
    let c ← Text.hexValue? c
    let d ← Text.hexValue? d
    return (((a * 16 + b) * 16 + c) * 16 + d, rest)
  | _ => none

def isHighSurrogate (n : Nat) : Bool := 0xD800 ≤ n && n ≤ 0xDBFF

def isLowSurrogate (n : Nat) : Bool := 0xDC00 ≤ n && n ≤ 0xDFFF

/-- The character that an escape letter stands for. -/
def escaped? (c : Char) : Option Char :=
  match c with
  | '"' => some '"'
  | '\\' => some '\\'
  | '/' => some '/'
  | 'b' => some (Char.ofNat 8)
  | 'f' => some (Char.ofNat 12)
  | 'n' => some '\n'
  | 'r' => some '\r'
  | 't' => some '\t'
  | _ => none

/-- Reads to the closing quote. The text is `none` when a surrogate stands alone in it, and the
whole is `none` when the string goes wrong. -/
def stringBody (done : List Char) (readable : Bool) :
    Nat → List Char → Option (Option String × List Char)
  | 0, _ => none
  | fuel + 1, cs =>
    match cs with
    | [] => none
    | '"' :: rest => some (if readable then some (.ofList done.reverse) else none, rest)
    | '\\' :: 'u' :: rest => do
      let (n, rest) ← codeUnit? rest
      if isHighSurrogate n then
        match rest with
        | '\\' :: 'u' :: behind =>
          let (m, behind) ← codeUnit? behind
          if isLowSurrogate m then
            let c := Char.ofNat (0x10000 + (n - 0xD800) * 1024 + (m - 0xDC00))
            stringBody (c :: done) readable fuel behind
          else stringBody done false fuel rest
        | _ => stringBody done false fuel rest
      else if isLowSurrogate n then stringBody done false fuel rest
      else stringBody (Char.ofNat n :: done) readable fuel rest
    | '\\' :: c :: rest => do stringBody ((← escaped? c) :: done) readable fuel rest
    | ['\\'] => none
    | c :: rest => if c.toNat < 32 then none else stringBody (c :: done) readable fuel rest

/-- The digits at the front and what follows them; at least one digit is needed. -/
def someDigits? (cs : List Char) : Option (List Char × List Char) :=
  let ds := cs.takeWhile Text.isDigit
  if ds.isEmpty then none else some (ds, cs.drop ds.length)

/-- The literal of a number and what follows it. -/
def numberLiteral? (cs : List Char) : Option (List Char × List Char) := do
  let (sign, cs) :=
    match cs with
    | '-' :: rest => (['-'], rest)
    | _ => ([], cs)
  let (whole, cs) ← someDigits? cs
  if whole.head? = some '0' && 1 < whole.length then none
  let (fraction, cs) ←
    match cs with
    | '.' :: rest => (someDigits? rest).map fun (ds, rest) => ('.' :: ds, rest)
    | _ => some ([], cs)
  let (exponent, cs) ←
    match cs with
    | c :: rest =>
      if c = 'e' || c = 'E' then
        match rest with
        | '+' :: rest => (someDigits? rest).map fun (ds, rest) => (c :: '+' :: ds, rest)
        | '-' :: rest => (someDigits? rest).map fun (ds, rest) => (c :: '-' :: ds, rest)
        | _ => (someDigits? rest).map fun (ds, rest) => (c :: ds, rest)
      else some ([], cs)
    | [] => some ([], [])
  return (sign ++ whole ++ fraction ++ exponent, cs)

/-- The depth from which lists and records are out of a reader's reach. -/
def maxDepth : Nat := 128

def buryAt (depth : Nat) (d : Document) : Document :=
  if maxDepth ≤ depth then .buried d else d

mutual

/-- Reads one value inside `depth` lists and records. There is no rest when the text goes wrong. -/
def value (depth : Nat) : Nat → List Char → Document × Option (List Char)
  | 0, _ => (.broken, none)
  | fuel + 1, cs =>
    match skipBlanks cs with
    | 'n' :: 'u' :: 'l' :: 'l' :: rest => (.null, some rest)
    | 't' :: 'r' :: 'u' :: 'e' :: rest => (.bool true, some rest)
    | 'f' :: 'a' :: 'l' :: 's' :: 'e' :: rest => (.bool false, some rest)
    | '"' :: rest =>
      match stringBody [] true (rest.length + 1) rest with
      | some (some s, rest) => (.text s, some rest)
      | some (none, rest) => (.unreadable, some rest)
      | none => (.broken, none)
    | '[' :: rest =>
      match skipBlanks rest with
      | ']' :: rest => (buryAt (depth + 1) (.list [] true), some rest)
      | rest =>
        let (items, complete, rest) := items (depth + 1) fuel rest
        (buryAt (depth + 1) (.list items complete), rest)
    | '\x7b' :: rest =>
      match skipBlanks rest with
      | '\x7d' :: rest => (buryAt (depth + 1) (.record [] true), some rest)
      | rest =>
        let (fields, complete, rest) := fields (depth + 1) fuel rest
        (buryAt (depth + 1) (.record fields complete), rest)
    | cs =>
      match numberLiteral? cs with
      | some (literal, rest) => (.ofNumber (.ofList literal), some rest)
      | none => (.broken, none)

/-- Reads items up to the closing bracket. -/
def items (depth : Nat) : Nat → List Char → List Document × Bool × Option (List Char)
  | 0, _ => ([], false, none)
  | fuel + 1, cs =>
    match value depth fuel cs with
    | (d, none) => ([d], false, none)
    | (d, some rest) =>
      match skipBlanks rest with
      | ']' :: rest => ([d], true, some rest)
      | ',' :: rest =>
        let (ds, complete, rest) := items depth fuel rest
        (d :: ds, complete, rest)
      | _ => ([d], false, none)

/-- Reads named fields up to the closing brace. -/
def fields (depth : Nat) :
    Nat → List Char → List (Option String × Document) × Bool × Option (List Char)
  | 0, _ => ([], false, none)
  | fuel + 1, cs =>
    match skipBlanks cs with
    | '"' :: rest =>
      match stringBody [] true (rest.length + 1) rest with
      | none => ([], false, none)
      | some (name, rest) =>
        match skipBlanks rest with
        | ':' :: rest =>
          match value depth fuel rest with
          | (d, none) => ([(name, d)], false, none)
          | (d, some rest) =>
            match skipBlanks rest with
            | '\x7d' :: rest => ([(name, d)], true, some rest)
            | ',' :: rest =>
              let (fs, complete, rest) := fields depth fuel rest
              ((name, d) :: fs, complete, rest)
            | _ => ([(name, d)], false, none)
        | _ => ([(name, .broken)], false, none)
    | _ => ([], false, none)

end

end Json

namespace Document

/-- The document of a JSON text, and whether nothing but blanks follows it. -/
def ofJsonText (text : String) : Document × Bool :=
  let cs := text.toList
  match Json.value 0 (2 * cs.length + 2) cs with
  | (d, some rest) => (d, (Json.skipBlanks rest).isEmpty)
  | (d, none) => (d, false)

end Document

/-- The value of a JSON text. -/
def Json.parse? (text : String) : Option Json :=
  match Document.ofJsonText text with
  | (d, true) => d.toJson?
  | _ => none

end StubServer
