/-
# Whole numbers in text

Numbers as headers and references write them: digits with at most one sign in front, and
a bound that they may not pass.
-/
import PlainLink.Text.Basic

namespace PlainLink.Text

/-- The text without a plus sign in front. -/
def withoutPlus : Text → Text
  | '+' :: rest => rest
  | t => t

/-- A number from 0 to `most` in decimal digits, with or without a plus sign. -/
def natUpTo? (most : Nat) (t : Text) : Option Nat :=
  let digits := withoutPlus t
  if digits.isEmpty || !isDigits digits || most < decimalValue digits then none
  else some (decimalValue digits)

/-- A number from 0 to `most` in hexadecimal digits, with or without a plus sign. -/
def hexUpTo? (most : Nat) (t : Text) : Option Nat :=
  match withoutPlus t with
  | [] => none
  | digits => (hexNumber? digits).bind fun n => if most < n then none else some n

/-- A number from `-2^63` to `2^63 - 1` in decimal digits, with or without a sign. -/
def int64? (t : Text) : Option Int :=
  match t with
  | '-' :: '+' :: _ => none
  | '-' :: digits => (natUpTo? (Nat.pow 2 63) digits).map fun n => -(n : Int)
  | _ => (natUpTo? (Nat.pow 2 63 - 1) t).map Int.ofNat

end PlainLink.Text
