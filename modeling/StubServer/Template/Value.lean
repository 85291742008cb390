import StubServer.Number.Text
import StubServer.Text.Blank

/-!
# Values

What functions take and give: truth values, numbers, texts and arrays of values. Every value has a
text, which is what a rendered template shows of it.
-/

namespace StubServer

namespace Template

inductive Value where
  | bool (b : Bool)
  | number (x : Float)
  | string (s : String)
  | array (items : List Value)
deriving Inhabited

namespace Value

def typeName : Value → String
  | bool _ => "bool"
  | number _ => "number"
  | string _ => "string"
  | array _ => "array"

mutual

/-- The text of a value; the items of an array are separated by commas. -/
def text : Value → String
  | bool b => if b then "true" else "false"
  | number x => Number.write Number.renderedWords x
  | string s => s
  | array items => Text.join "," (texts items)

def texts : List Value → List String
  | [] => []
  | v :: vs => text v :: texts vs

end

/-- What a condition takes for true. A number never is. -/
def isTruthy : Value → Bool
  | bool b => b
  | number _ => false
  | string s => s != ""
  | array items => !items.isEmpty

/-- A number, or a text that reads as one. -/
def asNumber? : Value → Option Float
  | number x => some x
  | string s => Number.read? (Text.trimChars s.toList)
  | _ => none

/-- A whole number, brought into 64 bits, or a text that reads as one within 64 bits. -/
def asInteger? : Value → Option Int
  | number x => if Number.isWhole x then some x.toInt64.toInt else none
  | string s => Number.readInt64? (Text.trimChars s.toList)
  | _ => none

/-- An integer that a value reads as is one of 64 bits. -/
theorem fitsInt64_of_asInteger? {v : Value} {n : Int} (h : v.asInteger? = some n) :
    Number.fitsInt64 n = true := by
  cases v with
  | number x =>
    simp only [asInteger?, Option.ite_none_right_eq_some, Option.some.injEq] at h
    rw [← h.2, Number.fitsInt64_iff]
    exact ⟨Int64.le_toInt _, Int.le_of_lt_add_one (Int64.toInt_lt _)⟩
  | string s => exact (Option.filter_eq_some_iff.1 h).2
  | bool _ | array _ => cases h

def asString? : Value → Option String
  | string s => some s
  | _ => none

def asArray? : Value → Option (List Value)
  | array items => some items
  | _ => none

mutual

/-- Equality within one type; a number that is no number equals nothing. -/
def equals : Value → Value → Bool
  | bool a, bool b => a == b
  | number x, number y => x == y
  | string s, string t => s == t
  | array vs, array ws => allEqual vs ws
  | _, _ => false

def allEqual : List Value → List Value → Bool
  | [], [] => true
  | v :: vs, w :: ws => equals v w && allEqual vs ws
  | _, _ => false

end

end Value

end Template

end StubServer
