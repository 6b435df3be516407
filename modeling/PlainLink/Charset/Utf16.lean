/-
# UTF-16

Two bytes make a unit, in one of two orders, and a character past U+FFFF takes two
units.  What is no character reads as U+FFFD.
-/
import PlainLink.Text.Utf8

namespace PlainLink.Utf16

/-- Which byte of a unit comes first. -/
inductive ByteOrder where
  | littleEndian
  | bigEndian
  deriving DecidableEq, Repr

def unit (order : ByteOrder) (a b : UInt8) : Nat :=
  match order with
  | .littleEndian => a.toNat + 256 * b.toNat
  | .bigEndian => 256 * a.toNat + b.toNat

/-- The unit is the first of two that make a character. -/
def isLead (u : Nat) : Bool :=
  0xD800 ≤ u && u ≤ 0xDBFF

/-- The unit is the second of two that make a character. -/
def isTrail (u : Nat) : Bool :=
  0xDC00 ≤ u && u ≤ 0xDFFF

/-- Reads bytes after a first unit of two, if `lead` is one. -/
def scan (order : ByteOrder) : (lead : Option Nat) → Bytes → Text
  | none, [] => []
  | some _, [] => ['\uFFFD']
  | _, [_] => ['\uFFFD']
  | none, a :: b :: rest =>
    let u := unit order a b
    if isLead u then scan order (some u) rest
    else if isTrail u then '\uFFFD' :: scan order none rest
    else Char.ofNat u :: scan order none rest
  | some lead, a :: b :: rest =>
    let u := unit order a b
    if isTrail u then
      Char.ofNat (0x10000 + 0x400 * (lead - 0xD800) + (u - 0xDC00)) :: scan order none rest
    else if isLead u then '\uFFFD' :: scan order (some u) rest
    else '\uFFFD' :: Char.ofNat u :: scan order none rest

def decode (order : ByteOrder) (bytes : Bytes) : Text :=
  scan order none bytes

end PlainLink.Utf16
