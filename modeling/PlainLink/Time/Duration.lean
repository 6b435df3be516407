/-
# Spans and points of time

A duration is a number of nanoseconds up to a fixed bound, at which sums and multiples
stop.  An instant is a second of the calendar and a part of it; inside a leap second the
part runs past a billion nanoseconds.
-/
import PlainLink.Text.Basic

namespace PlainLink

def nanosPerSecond : Nat := 1000000000

structure Duration where
  nanos : Nat
  deriving DecidableEq, Repr

namespace Duration

def zero : Duration := ⟨0⟩

/-- The longest span: all nanoseconds that fit below `2^64` seconds. -/
def longest : Duration := ⟨UInt64.size * nanosPerSecond - 1⟩

def ofSeconds (n : Nat) : Duration := ⟨n * nanosPerSecond⟩

def ofMillis (n : Nat) : Duration := ⟨n * 1000000⟩

def ofMicros (n : Nat) : Duration := ⟨n * 1000⟩

/-- A multiple, at most the longest span. -/
def times (d : Duration) (n : Nat) : Duration := ⟨min (d.nanos * n) longest.nanos⟩

def atMost (d bound : Duration) : Duration := ⟨min d.nanos bound.nanos⟩

/-- The seconds, a point, and nine digits. -/
def text (d : Duration) : Text :=
  Text.ofNat (d.nanos / nanosPerSecond) ++ '.' :: Text.padded 9 (d.nanos % nanosPerSecond)

end Duration

/-- A point in time: seconds since the beginning of 1970, and nanoseconds into that second. -/
structure Instant where
  seconds : Int
  nanos : Nat
  deriving DecidableEq, Repr

namespace Instant

/-- The first instant of the calendar, in the year -262143. -/
def first : Instant := ⟨-8334601228800, 0⟩

/-- The last second of the calendar, in the year 262142. -/
def lastSecond : Int := 8210266876799

/-- The first instant is not later than the second. -/
def notAfter (a b : Instant) : Bool :=
  a.seconds < b.seconds || (a.seconds == b.seconds && a.nanos ≤ b.nanos)

/-- The nanoseconds from `start` to `a`.  A leap second in progress counts only for the instant
that stands later in its day. -/
def nanosSince (a start : Instant) : Int :=
  let timeOfDay (i : Instant) := i.seconds.emod 86400
  let correction : Int :=
    if timeOfDay start < timeOfDay a ∧ nanosPerSecond ≤ start.nanos then 1
    else if timeOfDay a < timeOfDay start ∧ nanosPerSecond ≤ a.nanos then -1
    else 0
  (a.seconds - start.seconds + correction) * nanosPerSecond + (a.nanos - start.nanos)

/-- The instant a positive number of seconds later, when a leap second in progress is over;
`none` past the end of the calendar. -/
def later? (i : Instant) (seconds : Nat) : Option Instant :=
  let s := i.seconds + seconds
  if s ≤ lastSecond then some ⟨s, i.nanos % nanosPerSecond⟩ else none

end Instant

end PlainLink
