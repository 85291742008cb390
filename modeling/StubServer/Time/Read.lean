import StubServer.Text.Blank
import StubServer.Text.Split
import StubServer.Time.Instant

/-!
# Reading dates and times

A date and time is read in the strict form with an offset from universal time, or in a loose form
without one, in which a number may have fewer digits and blanks before it. Second 60 is a leap
second.
-/

namespace StubServer

namespace Time

/-- What is read from the front of a text, and the rest of the text. -/
abbrev Reading (α : Type) := StateT (List Char) Option α

/-- The fields of a date and time, as they are written. -/
structure Fields where
  date : Date
  hour : Nat := 0
  minute : Nat := 0
  second : Nat := 0
  nano : Nat := 0

namespace Reading

def literal (c : Char) : Reading Unit := fun cs =>
  match cs with
  | [] => none
  | d :: rest => if d = c then some ((), rest) else none

/-- From `least` to `most` digits, as many as there are. -/
def digits (least most : Nat) : Reading Nat := fun cs =>
  let ds := (cs.take most).takeWhile Text.isDigit
  if ds.length < least then none
  else
    let n := Number.ofDigits ds
    if Number.fitsInt64 n then some (n, cs.drop ds.length) else none

def blanks : Reading Unit := fun cs => some ((), Text.trimStartChars cs)

/-- A number of at most two digits, with blanks before it. -/
def short : Reading Nat := do
  blanks
  digits 1 2

/-- A year of at most four digits, or of any number of digits behind a sign. -/
def year : Reading Int := do
  blanks
  match ← get with
  | '-' :: rest => set rest; return -(← digits 1 rest.length : Nat)
  | '+' :: rest => set rest; return (← digits 1 rest.length : Nat)
  | _ => return (← digits 1 4 : Nat)

def looseDate : Reading Date := do
  let y ← year
  literal '-'
  let m ← short
  literal '-'
  let d ← short
  return ⟨y, m, d⟩

def looseTime (date : Date) : Reading Fields := do
  let h ← short
  literal ':'
  let m ← short
  literal ':'
  let s ← short
  return { date, hour := h, minute := m, second := s }

/-- A date and a time with the letter `T` between them. -/
def lettered : Reading Fields := do
  let d ← looseDate
  literal 'T'
  looseTime d

/-- A date and a time with any blanks between them. -/
def spaced : Reading Fields := do
  let d ← looseDate
  blanks
  looseTime d

def dateOnly : Reading Fields := do
  let d ← looseDate
  return { date := d }

/-- The digits behind the point, of which nine count. -/
def nanos : Reading Nat := do
  let before := (← get).length
  let n ← digits 1 9
  let count := before - (← get).length
  modify (List.dropWhile Text.isDigit)
  return n * Nat.pow 10 (9 - count)

/-- An offset from universal time in minutes: `Z`, or a sign, two digits, a colon and two digits. -/
def offset : Reading Int := fun cs =>
  let amount : Reading Int := do
    let h ← digits 2 2
    literal ':'
    let m ← digits 2 2
    if 59 < m ∨ 23 < h then failure
    return (60 * h + m : Nat)
  match cs with
  | [] => none
  | c :: rest =>
    if c = 'Z' ∨ c = 'z' then some (0, rest)
    else if c = '+' then amount rest
    else if c = '-' ∨ c = Char.ofNat 0x2212 then (amount.map fun n => -n) rest
    else none

/-- A date and time in full width with an offset. -/
def strict : Reading (Fields × Int) := do
  let y ← digits 4 4
  literal '-'
  let m ← digits 2 2
  literal '-'
  let d ← digits 2 2
  match ← get with
  | 'T' :: rest | 't' :: rest | ' ' :: rest => set rest
  | _ => failure
  let hour ← digits 2 2
  literal ':'
  let minute ← digits 2 2
  literal ':'
  let second ← digits 2 2
  let nano ←
    match ← get with
    | '.' :: rest => set rest; nanos
    | _ => pure 0
  return ({ date := ⟨y, m, d⟩, hour, minute, second, nano }, ← offset)

/-- The whole text, with nothing left over. -/
def all? {α : Type} (r : Reading α) (cs : List Char) : Option α :=
  match r cs with
  | some (a, []) => some a
  | _ => none

end Reading

/-- The instant of the fields in universal time, when every field is in its range. -/
def Fields.toInstant? (f : Fields) : Option Instant :=
  if f.date.isValid && f.hour ≤ 23 && f.minute ≤ 59 && f.second ≤ 60 then
    let whole := f.hour * 3600 + f.minute * 60 + min f.second 59
    some ⟨f.date.toDays, whole, if f.second = 60 then f.nano + 1000000000 else f.nano⟩
  else none

/-- The instant of fields at an offset in minutes. -/
def Fields.atOffset? (f : Fields) (minutes : Int) : Option Instant := do
  let t ← f.toInstant?
  Instant.ofSeconds? (t.toSeconds - 60 * minutes) t.nano

def readStrict? (cs : List Char) : Option Instant :=
  (Reading.strict.all? cs).bind fun (f, minutes) => f.atOffset? minutes

def readLoose? (form : Reading Fields) (cs : List Char) : Option Instant :=
  (form.all? cs).bind Fields.toInstant?

/-- The instant written by a text without blanks around it: strict, spaced or a date alone. -/
def Instant.read? (cs : List Char) : Option Instant :=
  readStrict? cs <|> readLoose? .spaced cs <|> readLoose? .dateOnly cs

/-- The text is a date, or a date and a time in one of the forms. -/
def isDateTime (cs : List Char) : Bool :=
  (readStrict? cs).isSome || (readLoose? .lettered cs).isSome ||
    (readLoose? .spaced cs).isSome || (readLoose? .dateOnly cs).isSome

end Time

end StubServer
