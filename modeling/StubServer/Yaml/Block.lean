import StubServer.Json.Document
import StubServer.Text.Blank
import StubServer.Text.Split

/-!
# Block documents

Documents written with indentation: mappings and sequences in blocks, and scalars, plain or in
single quotes, on a line. Each line is taken apart into sequence marks and a content, which have
their columns; the columns say what belongs together.
-/

namespace StubServer

namespace Yaml

/-- A mark of a sequence's entry, or the content of a line. -/
inductive Piece where
  | entry (column : Nat)
  | content (column : Nat) (text : List Char)

def Piece.column : Piece → Nat
  | entry column => column
  | content column _ => column

/-- The line without a comment, which follows a blank or begins the line; `quoted` is whether a
single quote is open. -/
def withoutComment (quoted : Bool) (before : Char) : List Char → List Char
  | [] => []
  | c :: cs =>
    if c == '#' && !quoted && Text.isBlank before then []
    else
      let opens := c == '\'' && (quoted || Text.isBlank before)
      c :: withoutComment (quoted ^^ opens) c cs

/-- The pieces of a line from a column on. -/
def linePieces (column : Nat) (cs : List Char) : List Piece :=
  match cs with
  | [] => []
  | ' ' :: rest => linePieces (column + 1) rest
  | ['-'] => [.entry column]
  | '-' :: ' ' :: rest => .entry column :: linePieces (column + 2) rest
  | _ => [.content column cs]

def pieces (text : String) : List Piece :=
  (Text.splitAtChar '\n' text.toList).flatMap fun line =>
    linePieces 0 (Text.trimEndChars (withoutComment false ' ' line))

/-- The text in single quotes, in which a quote is written twice, and what follows it. -/
def quoted? : List Char → Option (List Char × List Char)
  | [] => none
  | '\'' :: '\'' :: rest => (quoted? rest).map fun (s, rest) => ('\'' :: s, rest)
  | '\'' :: rest => some ([], rest)
  | c :: rest => (quoted? rest).map fun (s, rest) => (c :: s, rest)

/-- Characters that no plain scalar begins with. -/
def indicators : List Char :=
  [',', '[', ']', '\x7b', '\x7d', '#', '&', '*', '!', '|', '>', '\'', '"', '%', '@', Char.ofNat 96]

/-- What precedes a colon that a blank follows or that ends the line, and what follows. -/
def cutAtColon? : List Char → Option (List Char × List Char)
  | [] => none
  | [c] => if c = ':' then some ([], []) else none
  | c :: d :: cs =>
    if c = ':' ∧ d = ' ' then some ([], cs)
    else (cutAtColon? (d :: cs)).map fun (key, value) => (c :: key, value)

def plain? (cs : List Char) : Option Document :=
  match cs with
  | [] => some (.plain "")
  | c :: _ =>
    if indicators.contains c || (cutAtColon? cs).isSome then none else some (.plain (.ofList cs))

def scalar? (cs : List Char) : Option Document :=
  match cs with
  | '\'' :: rest => do
    let (s, rest) ← quoted? rest
    if rest.isEmpty then some (.text (.ofList s)) else none
  | ['[', ']'] => some (.list [] true)
  | ['\x7b', '\x7d'] => some (.record [] true)
  | _ => plain? cs

/-- The key and the value on a line of a mapping; `none` when the line is no such line. -/
def keyAndValue? (cs : List Char) : Option (String × List Char) :=
  match cs with
  | '\'' :: rest => do
    let (s, rest) ← quoted? rest
    match rest with
    | [':'] => some (.ofList s, [])
    | ':' :: ' ' :: value => some (.ofList s, Text.trimStartChars value)
    | _ => none
  | c :: _ =>
    if indicators.contains c then none
    else (cutAtColon? cs).map fun (key, value) =>
      (.ofList (Text.trimEndChars key), Text.trimStartChars value)
  | [] => none

mutual

/-- Reads the part that begins at a column from `least` on; an empty one if nothing does. -/
def part (least : Nat) : Nat → List Piece → Option (Document × List Piece)
  | 0, _ => none
  | _ + 1, [] => some (.plain "", [])
  | fuel + 1, p :: ps =>
    if p.column < least then some (.plain "", p :: ps)
    else
      match p with
      | .entry column => do
        let (items, rest) ← entries column fuel (p :: ps)
        return (.list items true, rest)
      | .content column text =>
        match keyAndValue? text with
        | some _ => do
          let (fields, rest) ← members column fuel (p :: ps)
          return (.record fields true, rest)
        | none => (scalar? text).map fun d => (d, ps)

/-- Reads the entries of a sequence whose marks stand at a column. -/
def entries (column : Nat) : Nat → List Piece → Option (List Document × List Piece)
  | 0, _ => none
  | fuel + 1, .entry c :: ps =>
    if c = column then do
      let (item, rest) ← part (column + 1) fuel ps
      let (items, rest) ← entries column fuel rest
      return (item :: items, rest)
    else some ([], .entry c :: ps)
  | _ + 1, ps => some ([], ps)

/-- Reads the members of a mapping whose keys stand at a column. A sequence that is a member's
value may begin at the same column. -/
def members (column : Nat) :
    Nat → List Piece → Option (List (Option String × Document) × List Piece)
  | 0, _ => none
  | fuel + 1, .content c text :: ps =>
    if c = column then do
      let (key, value) ← keyAndValue? text
      let (d, rest) ←
        if value.isEmpty then
          match ps with
          | .entry _ :: _ => part column fuel ps
          | _ => part (column + 1) fuel ps
        else (scalar? value).map fun d => (d, ps)
      let (fields, rest) ← members column fuel rest
      return ((some key, d) :: fields, rest)
    else some ([], .content c text :: ps)
  | _ + 1, ps => some ([], ps)

end

end Yaml

/-- The pieces without the mark that a document may begin with. -/
def Yaml.withoutStart : List Piece → List Piece
  | .content 0 ['-', '-', '-'] :: ps => ps
  | ps => ps

/-- The document that a text in blocks is. -/
def Document.ofBlockText? (text : String) : Option Document :=
  let ps := Yaml.withoutStart (Yaml.pieces text)
  match Yaml.part 0 (3 * ps.length + 3) ps with
  | some (d, []) => some d
  | _ => none

end StubServer
