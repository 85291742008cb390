import StubServer.Bindings
import StubServer.Text.Ascii
import StubServer.Text.Split
import StubServer.Text.Utf8

/-!
# Query strings

Pairs of names and values with ampersands between them. In a name or a value an escape stands for
a byte and a plus for a space; what is no escape stays as it is.
-/

namespace StubServer

namespace Http

namespace QueryString

/-- The byte of an escape, from the two bytes behind the percent sign. The first of them may be a
plus in place of a leading zero. -/
def escapedByte? (high low : UInt8) : Option UInt8 :=
  let value? (b : UInt8) : Option Nat :=
    if b < 128 then Text.hexValue? (Char.ofNat b.toNat) else none
  match value? high, value? low with
  | some h, some l => some (16 * h + l).toUInt8
  | none, some l => if high = 0x2B then some l.toUInt8 else none
  | _, none => none

def plusToSpace (b : UInt8) : UInt8 :=
  if b = 0x2B then 0x20 else b

/-- The bytes with the escapes resolved. -/
def unescape : List UInt8 → List UInt8
  | [] => []
  | [a] => [plusToSpace a]
  | [a, b] => [plusToSpace a, plusToSpace b]
  | a :: b :: c :: rest =>
    if a = 0x25 then
      match escapedByte? b c with
      | some byte => byte :: unescape rest
      | none => a :: unescape (b :: c :: rest)
    else plusToSpace a :: unescape (b :: c :: rest)

/-- The text that a name or a value stands for. -/
def decode (cs : List Char) : String :=
  .ofList (Text.decodeLossy (unescape (Text.bytes cs)))

/-- The pair of one part; a part without an equals sign is a name with an empty value. -/
def pair (part : List Char) : String × String :=
  match Text.cutAt? '=' part with
  | some (name, value) => (decode name, decode value)
  | none => (decode part, "")

/-- The pairs of a query string in order. Question marks in front do not count. -/
def pairs (query : String) : List (String × String) :=
  ((Text.splitAtChar '&' (query.toList.dropWhile (· == '?'))).filter (!·.isEmpty)).map pair

/-- The values by their names; of equal names the last counts. -/
def parse (query : String) : Bindings String :=
  .ofList (pairs query)

end QueryString

end Http

end StubServer
