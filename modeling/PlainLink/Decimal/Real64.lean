/-
# Floating-point numbers of 64 bits

A finite number is a whole number times a power of two, both of limited size.
Everything is computed in whole numbers: a ratio is rounded to the nearest such number,
and a number is written with the fewest decimal digits that no other number is nearer
to.

Only what documents need is here: reading decimals, writing them, and turning seconds
into nanoseconds.  A ratio that is halfway between two numbers is rounded to the one
with the even mantissa; what is too large becomes infinite.
-/
import PlainLink.Time.Duration

namespace PlainLink

/-- A floating-point number.  A finite one is `mantissa * 2 ^ exponent` with its sign. -/
inductive Real64 where
  | finite (negative : Bool) (mantissa : Nat) (exponent : Int)
  | infinite (negative : Bool)
  | nan
  deriving DecidableEq, Repr

namespace Real64

/-! ## Rounding -/

def mantissaBound : Nat := Nat.pow 2 53

def leastExponent : Int := -1074

def greatestExponent : Int := 971

/-- A quotient rounded to the nearest whole number, a half to the even one. -/
def roundDiv (num den : Nat) : Nat :=
  let q := num / den
  let twice := 2 * (num % den)
  if den < twice ∨ (twice = den ∧ q % 2 = 1) then q + 1 else q

/-- A ratio divided by a power of two, as numerator and denominator. -/
def scaled (num den : Nat) (exponent : Int) : Nat × Nat :=
  (num * Nat.pow 2 (-exponent).toNat, den * Nat.pow 2 exponent.toNat)

/-- The greatest power of two that is at most a positive ratio. -/
def binaryPlace (num den : Nat) : Int :=
  let guess : Int := (num.log2 : Int) - den.log2
  let (n, d) := scaled num den guess
  if d ≤ n then guess else guess - 1

def ofRatio (negative : Bool) (num den : Nat) : Real64 :=
  if num = 0 then finite negative 0 leastExponent
  else
    let exponent := max (binaryPlace num den - 52) leastExponent
    let (n, d) := scaled num den exponent
    let mantissa := roundDiv n d
    let (mantissa, exponent) :=
      if mantissa = mantissaBound then (mantissa / 2, exponent + 1) else (mantissa, exponent)
    if greatestExponent < exponent then infinite negative else finite negative mantissa exponent

/-- The number nearest to `digits * 10 ^ exponent`.  Powers that are far too large or too small
are judged without being computed. -/
def ofDecimal (negative : Bool) (digits : Nat) (exponent : Int) : Real64 :=
  let size : Int := (Text.ofNat digits).length + exponent
  if digits = 0 ∨ size < -400 then finite negative 0 leastExponent
  else if 400 < size then infinite negative
  else ofRatio negative (digits * Nat.pow 10 exponent.toNat) (Nat.pow 10 (-exponent).toNat)

/-- The number nearest to a whole number. -/
def ofInt (n : Int) : Real64 :=
  ofRatio (n < 0) n.natAbs 1

/-! ## Decimal digits -/

/-- Half the distance to the neighbours of a mantissa, in quarters of its
unit: below, and above. -/
def halfGaps (mantissa : Nat) (exponent : Int) : Nat × Nat :=
  (if mantissa = mantissaBound / 2 ∧ leastExponent < exponent then 1 else 2, 2)

/-- The decimal place of the first digit of `mantissa * 2 ^ exponent`.  No number is so small
that it vanishes after four hundred places. -/
def decimalPlace (mantissa : Nat) (exponent : Int) : Int :=
  let whole := mantissa * Nat.pow 10 400 * Nat.pow 2 exponent.toNat / Nat.pow 2 (-exponent).toNat
  ((Text.ofNat whole).length : Int) - 401

/-- The decimals with their last digit at the given place that are next to a number, if
the number is the nearest one to them; the nearer comes first, and of two that are
equally near the even one. -/
def candidates (mantissa : Nat) (exponent place : Int) : List Nat :=
  let (below, above) := halfGaps mantissa exponent
  let quarter := exponent - 2
  let perDigit := Nat.pow 10 place.toNat * Nat.pow 2 (-quarter).toNat
  let perQuarter := Nat.pow 10 (-place).toNat * Nat.pow 2 quarter.toNat
  let value := 4 * mantissa * perQuarter
  let even := mantissa % 2 == 0
  let reads (digits : Nat) : Bool :=
    let x := digits * perDigit
    let low := (4 * mantissa - below) * perQuarter
    let high := (4 * mantissa + above) * perQuarter
    (low < x || (even && low == x)) && (x < high || (even && x == high))
  let floor := value / perDigit
  let twice := 2 * (value % perDigit)
  let ordered :=
    if twice < perDigit ∨ (twice = perDigit ∧ floor % 2 = 0) then [floor, floor + 1]
    else [floor + 1, floor]
  ordered.filter reads

/-- The fewest digits that read back, and the place of the last one, trying `count` places from
the given one downwards. -/
def shortestFrom (mantissa : Nat) (exponent : Int) : (count : Nat) → (place : Int) → Nat × Int
  | 0, place => (0, place)
  | count + 1, place =>
    match candidates mantissa exponent place with
    | digits :: _ => (digits, place)
    | [] => shortestFrom mantissa exponent count (place - 1)

/-- The fewest digits that read back as a positive number, and the place of the last one.
Seventeen are always enough. -/
def shortest (mantissa : Nat) (exponent : Int) : Nat × Int :=
  shortestFrom mantissa exponent 17 (decimalPlace mantissa exponent)

/-- A decimal in full, without an exponent, with at least one digit after the point. -/
def positional (digits : Nat) (place : Int) : Text :=
  if 0 ≤ place then Text.ofNat digits ++ List.replicate place.toNat '0' ++ ".0".toList
  else
    let places := (-place).toNat
    let all := Text.padded (places + 1) digits
    let whole := all.take (all.length - places)
    let fraction := ((all.drop (all.length - places)).reverse.dropWhile (· == '0')).reverse
    whole ++ '.' :: (if fraction.isEmpty then ['0'] else fraction)

/-- A sign in front of negative numbers. -/
def signed (negative : Bool) (t : Text) : Text :=
  if negative then '-' :: t else t

def text : Real64 → Text
  | finite negative mantissa exponent =>
    signed negative (if mantissa = 0 then "0.0".toList
      else (fun (digits, place) => positional digits place) (shortest mantissa exponent))
  | infinite negative => signed negative "inf".toList
  | nan => "nan".toList

end Real64

/-- A span of so many seconds, to the nearest nanosecond; `none` for negative numbers and for
those past the longest span. -/
def Duration.ofReal? : Real64 → Option Duration
  | .finite negative mantissa exponent =>
    let (n, d) := (mantissa * Nat.pow 2 exponent.toNat, Nat.pow 2 (-exponent).toNat)
    if (negative && mantissa != 0) || UInt64.size * d ≤ n then none
    else some ⟨Real64.roundDiv (n * nanosPerSecond) d⟩
  | _ => none

end PlainLink
