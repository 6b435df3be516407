/-
# UTF-8

Bytes of a text and back.  A reader either refuses ill-formed bytes or puts U+FFFD in
the place of each longest beginning of a character that the bytes break off.
-/
import PlainLink.Text.Basic

namespace PlainLink

abbrev Bytes := List UInt8

namespace Utf8

def encodeChar (c : Char) : Bytes :=
  let n := c.toNat
  if n < 0x80 then [n.toUInt8]
  else if n < 0x800 then [(0xC0 + n / 64).toUInt8, (0x80 + n % 64).toUInt8]
  else if n < 0x10000 then
    [(0xE0 + n / 4096).toUInt8, (0x80 + n / 64 % 64).toUInt8, (0x80 + n % 64).toUInt8]
  else
    [(0xF0 + n / 262144).toUInt8, (0x80 + n / 4096 % 64).toUInt8, (0x80 + n / 64 % 64).toUInt8,
      (0x80 + n % 64).toUInt8]

def encode (t : Text) : Bytes :=
  t.flatMap encodeChar

/-- What a first byte announces: how many bytes follow, the bits it brings, and the
range of the byte after it.  The range keeps out overlong forms, surrogates and
numbers past U+10FFFF. -/
def announced? (b : UInt8) : Option (Nat × Nat × Nat × Nat) :=
  let n := b.toNat
  if 0xC2 ≤ n ∧ n ≤ 0xDF then some (1, n - 0xC0, 0x80, 0xBF)
  else if n = 0xE0 then some (2, 0, 0xA0, 0xBF)
  else if n = 0xED then some (2, 13, 0x80, 0x9F)
  else if 0xE1 ≤ n ∧ n ≤ 0xEF then some (2, n - 0xE0, 0x80, 0xBF)
  else if n = 0xF0 then some (3, 0, 0x90, 0xBF)
  else if 0xF1 ≤ n ∧ n ≤ 0xF3 then some (3, n - 0xF0, 0x80, 0xBF)
  else if n = 0xF4 then some (3, 4, 0x80, 0x8F)
  else none

/-- A character that is being read: the bytes still to come, the bits so far, and the
range of the next byte. -/
structure Pending where
  missing : Nat
  bits : Nat
  low : Nat
  high : Nat

/-- Reads bytes as characters; `none` stands where a character is broken off or
a byte begins none. -/
def scan : Option Pending → Bytes → List (Option Char)
  | none, [] => []
  | some _, [] => [none]
  | none, b :: bs =>
    if b < 0x80 then some (Char.ofNat b.toNat) :: scan none bs
    else match announced? b with
      | none => none :: scan none bs
      | some (missing, bits, low, high) => scan (some ⟨missing, bits, low, high⟩) bs
  | some p, b :: bs =>
    if p.low ≤ b.toNat ∧ b.toNat ≤ p.high then
      let bits := 64 * p.bits + (b.toNat - 0x80)
      if p.missing ≤ 1 then some (Char.ofNat bits) :: scan none bs
      else scan (some ⟨p.missing - 1, bits, 0x80, 0xBF⟩) bs
    else if b < 0x80 then none :: some (Char.ofNat b.toNat) :: scan none bs
    else match announced? b with
      | none => none :: none :: scan none bs
      | some (missing, bits, low, high) => none :: scan (some ⟨missing, bits, low, high⟩) bs

def decode? (bytes : Bytes) : Option Text :=
  (scan none bytes).mapM id

/-- The text of any bytes, with U+FFFD for each ill-formed part. -/
def decode (bytes : Bytes) : Text :=
  (scan none bytes).map (·.getD '\uFFFD')

end Utf8

end PlainLink
