import StubServer.Draws
import StubServer.Template.Arguments
import StubServer.Time.Read

/-!
# Made-up dates

Instants drawn within a window. The window has to be representable as a whole, so that whether a
draw succeeds does not depend on what is drawn.
-/

namespace StubServer

namespace Fake

open Template Time

/-- The instant that an argument is the text of. -/
def date? (args : Arguments) (place : Nat) : Option Instant :=
  (args[place]?.bind Value.asString?).bind fun s => Instant.read? (Text.trimChars s.toList)

inductive Direction where
  | back
  | forth
deriving DecidableEq

def Direction.signed (d : Direction) (seconds : Int) : Int :=
  match d with
  | back => -seconds
  | forth => seconds

/-- The end of a window of a number of units of time, at least one of them, in seconds. -/
def reach? (amount unit : Int) : Option Int :=
  let seconds := max amount 1 * unit
  if Number.fitsInt64 seconds then some seconds else none

/-- An instant at least `least` seconds and at most an amount of units away from `t`. -/
def shifted (t : Instant) (amount unit least : Int) (d : Direction) : Random (Option Instant) :=
  match reach? amount unit with
  | none => return none
  | some most =>
    match t.shift? (d.signed most) with
    | none => return none
    | some _ => return t.shift? (d.signed (← Random.between least most))

def secondsPerDay : Int := 86400

def secondsPerYear : Int := 365 * secondsPerDay

/-- Up to a number of years, one by default, away from a date that may be given. -/
def awayYears (d : Direction) (now : Instant) (args : Arguments) : Random (Option Instant) :=
  shifted ((date? args 1).getD now) ((args.integer? 0).getD 1) secondsPerYear 1 d

/-- Up to a number of days, one by default, away from now. -/
def awayDays (d : Direction) (now : Instant) (args : Arguments) : Random (Option Instant) :=
  shifted now ((args.integer? 0).getD 1) secondsPerDay 0 d

/-- The ends of the interval between two dates; of the last ten days when they are not given. -/
def interval? (now : Instant) (args : Arguments) : Option (Instant × Instant) :=
  match date? args 0, date? args 1 with
  | some a, some b => some (if a.le b then (a, b) else (b, a))
  | _, _ => do
    let start ← now.shift? (-10 * secondsPerDay)
    return if start.le now then (start, now) else (now, start)

def between (now : Instant) (args : Arguments) : Random (Option Instant) :=
  match interval? now args with
  | none => return none
  | some (a, b) => return a.shift? (← Random.between 0 (a.secondsTo b))

end Fake

end StubServer
