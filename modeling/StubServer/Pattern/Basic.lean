import StubServer.Pattern.CharClass

/-!
# Patterns

Regular expressions over characters with anchors, and the search for a match anywhere in a text.
The search keeps the set of expressions that the rest of a match may still be, one step for each
character, so its time is bounded by the text and the pattern.
-/

namespace StubServer

namespace Pattern

/-- A condition on the place between two characters. -/
inductive Anchor where
  | textStart
  | textEnd
  | lineStart
  | lineEnd
  | crlfLineStart
  | crlfLineEnd
  | wordEdge (unicode : Bool)
  | noWordEdge (unicode : Bool)
  | wordStart
  | wordEnd
  | wordStartHalf
  | wordEndHalf
deriving DecidableEq

/-- The characters before and after a place; none at an end of the text. -/
structure Place where
  before : Option Char
  behind : Option Char

def Anchor.holds (a : Anchor) (p : Place) : Bool :=
  let word (unicode : Bool) (c : Option Char) : Bool :=
    c.any (if unicode then isWordChar else CharClass.asciiWord.mem)
  match a with
  | textStart => p.before.isNone
  | textEnd => p.behind.isNone
  | lineStart => p.before.all (· == '\n')
  | lineEnd => p.behind.all (· == '\n')
  | crlfLineStart =>
    p.before.all fun c => c == '\n' || (c == '\r' && !p.behind.any (· == '\n'))
  | crlfLineEnd =>
    p.behind.all fun c => c == '\r' || (c == '\n' && !p.before.any (· == '\r'))
  | wordEdge u => word u p.before != word u p.behind
  | noWordEdge u => word u p.before == word u p.behind
  | wordStart => !word true p.before && word true p.behind
  | wordEnd => word true p.before && !word true p.behind
  | wordStartHalf => !word true p.before
  | wordEndHalf => !word true p.behind

inductive Regex where
  | never
  | empty
  | one (k : CharClass)
  | anchor (a : Anchor)
  | seq (a b : Regex)
  | alt (a b : Regex)
  | star (a : Regex)
deriving DecidableEq

namespace Regex

/-- The expression matches the empty text at the place. -/
def nullable (p : Place) : Regex → Bool
  | never => false
  | empty => true
  | one _ => false
  | anchor a => a.holds p
  | seq a b => a.nullable p && b.nullable p
  | alt a b => a.nullable p || b.nullable p
  | star _ => true

/-- A sequence whose first part is done is its second part. -/
def andThen (a b : Regex) : Regex :=
  if a = empty then b else seq a b

/-- What may still follow after the expression has matched the character behind the place. -/
def steps (p : Place) (c : Char) : Regex → List Regex
  | never => []
  | empty => []
  | one k => if k.mem c then [empty] else []
  | anchor _ => []
  | seq a b =>
    (a.steps p c).map (andThen · b) ++ if a.nullable p then b.steps p c else []
  | alt a b => a.steps p c ++ b.steps p c
  | star a => (a.steps p c).map (andThen · (star a))

/-- One step of every expression of a set, without repetitions. -/
def stepAll (p : Place) (c : Char) (states : List Regex) : List Regex :=
  (states.flatMap (steps p c)).eraseDups

/-- A match of `r` begins at some place from here on, or one of the begun matches ends. -/
def searchFrom (r : Regex) (before : Option Char) (states : List Regex) : List Char → Bool
  | [] => (r :: states).any (nullable ⟨before, none⟩)
  | c :: cs =>
    (r :: states).any (nullable ⟨before, some c⟩) ||
      searchFrom r (some c) (stepAll ⟨before, some c⟩ c (r :: states)) cs

/-- The expression matches somewhere in the text. -/
def isMatch (r : Regex) (s : String) : Bool :=
  searchFrom r none [] s.toList

def seqs (rs : List Regex) : Regex :=
  rs.foldr andThen empty

/-- The expression a number of times. -/
def times (r : Regex) : Nat → Regex
  | 0 => empty
  | n + 1 => seq r (times r n)

/-- The expression at most a number of times. -/
def upTo (r : Regex) : Nat → Regex
  | 0 => empty
  | n + 1 => alt empty (seq r (upTo r n))

/-- The expression at least `least` and, when there is a bound, at most `most` times. -/
def repeated (r : Regex) (least : Nat) : Option Nat → Regex
  | none => seq (times r least) (star r)
  | some most => seq (times r least) (upTo r (most - least))

end Regex

end Pattern

end StubServer
