import StubServer.Number.Integer
import StubServer.Time.Calendar

/-!
# Instants

An instant is a day, a second of the day and nanoseconds. During a leap second the nanoseconds
run on past a billion. Instants are shifted by whole seconds within the representable days.
-/

namespace StubServer

namespace Time

structure Instant where
  day : Int
  second : Nat
  nano : Nat
deriving DecidableEq

namespace Instant

def inLeapSecond (t : Instant) : Bool :=
  1000000000 ≤ t.nano

/-- The order of instants, a leap second standing behind the second it prolongs. -/
def le (a b : Instant) : Bool :=
  a.day < b.day || (a.day == b.day && (a.second < b.second ||
    (a.second == b.second && a.nano ≤ b.nano)))

/-- The seconds since the first second of 1970, leap seconds not counted. -/
def toSeconds (t : Instant) : Int :=
  t.day * 86400 + t.second

/-- The instant that many seconds after 1970 began, if its day can be represented. -/
def ofSeconds? (seconds : Int) (nano : Nat) : Option Instant :=
  let day := seconds / 86400
  if minDay ≤ day ∧ day ≤ maxDay then some ⟨day, (seconds % 86400).toNat, nano⟩ else none

/-- The longest shift in either direction, in seconds. -/
def maxShift : Int := Number.maxInt64 / 1000

/-- The instant a number of seconds later, or earlier when the number is negative. Leaving a leap
second forward starts from the second that it prolongs, and backward from the one after it. -/
def shift? (t : Instant) (seconds : Int) : Option Instant :=
  if maxShift < seconds ∨ seconds < -maxShift then none
  else if t.inLeapSecond then
    if seconds = 0 then some t
    else if 0 < seconds then ofSeconds? (t.toSeconds + seconds) (t.nano - 1000000000)
    else ofSeconds? (t.toSeconds + 1 + seconds) (t.nano - 1000000000)
  else ofSeconds? (t.toSeconds + seconds) t.nano

/-- The whole seconds from the earlier instant `a` to the later one `b`; a leap second at which
the span begins is counted when the span leaves it within the day. -/
def secondsTo (a b : Instant) : Int :=
  let leap : Int :=
    if b.second > a.second && a.inLeapSecond then 1
    else if b.second < a.second && b.inLeapSecond then -1
    else 0
  let nanos : Int := (b.nano : Int) - a.nano
  ((b.toSeconds - a.toSeconds + leap) * 1000000000 + nanos).tdiv 1000000000

/-- A year of four digits, or with a sign when four digits do not hold it. -/
def yearText (year : Int) : String :=
  if 0 ≤ year ∧ year ≤ 9999 then Number.toPadded year.toNat 4
  else (if year < 0 then "-" else "+") ++ Number.toPadded year.natAbs 4

/-- The instant in universal time with milliseconds. -/
def toIso (t : Instant) : String :=
  let d := Date.ofDays t.day
  yearText d.year ++ "-" ++ Number.toPadded d.month 2 ++ "-" ++ Number.toPadded d.day 2 ++ "T" ++
    Number.toPadded (t.second / 3600) 2 ++ ":" ++ Number.toPadded (t.second / 60 % 60) 2 ++ ":" ++
    Number.toPadded (t.second % 60 + t.nano / 1000000000) 2 ++ "." ++
    Number.toPadded (t.nano % 1000000000 / 1000000) 3 ++ "Z"

end Instant

end Time

end StubServer
