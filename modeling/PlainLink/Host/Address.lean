/-
# Numeric addresses in hosts

An IPv4 address is four octets, an IPv6 address eight groups of sixteen bits.  The
readers take the strict forms only: octets in decimal without leading zeros, groups of
one to four hexadecimal digits, at most one `::`, and an IPv4 address in the place of
the last two groups.

The readers take an address from the front of a text, and the text is an address if
nothing is left.  The looser spellings that browsers know are read where hosts in any
script are.
-/
import PlainLink.Text.Basic

namespace PlainLink.Host

/-- An IPv4 address, octet by octet. -/
structure IPv4 where
  a : UInt8
  b : UInt8
  c : UInt8
  d : UInt8
  deriving DecidableEq, Repr

/-- An IPv6 address, as its groups from the left. -/
structure IPv6 where
  groups : List Nat
  deriving DecidableEq, Repr

/-- A numeric address of either kind. -/
inductive Address where
  | v4 (address : IPv4)
  | v6 (address : IPv6)
  deriving DecidableEq, Repr

/-! ## Reading -/

/-- An octet at the front of a text: one to three digits, at most 255, no leading zero. -/
def readOctet? (t : Text) : Option (UInt8 × Text) :=
  let digits := t.takeWhile Char.isDigit
  let value := Text.decimalValue digits
  if digits.isEmpty || 3 < digits.length || 255 < value then none
  else if digits.head? == some '0' && 1 < digits.length then none
  else some (value.toUInt8, t.drop digits.length)

/-- The text after a given first character. -/
def readChar? (c : Char) : Text → Option Text
  | [] => none
  | d :: rest => if d = c then some rest else none

/-- An IPv4 address at the front of a text. -/
def readIPv4? (t : Text) : Option (IPv4 × Text) := do
  let (a, t) ← readOctet? t
  let (b, t) ← readOctet? (← readChar? '.' t)
  let (c, t) ← readOctet? (← readChar? '.' t)
  let (d, t) ← readOctet? (← readChar? '.' t)
  return (⟨a, b, c, d⟩, t)

/-- A group at the front of a text: one to four hexadecimal digits. -/
def readGroup? (t : Text) : Option (Nat × Text) :=
  let digits := t.takeWhile fun c => (Text.hexValue? c).isSome
  if digits.isEmpty || 4 < digits.length then none
  else (Text.hexNumber? digits).map fun value => (value, t.drop digits.length)

/-- The two groups that an IPv4 address takes the place of. -/
def IPv4.groups (x : IPv4) : List Nat :=
  [256 * x.a.toNat + x.b.toNat, 256 * x.c.toNat + x.d.toNat]

/-- At most `room` groups separated by colons.  The answer tells whether an IPv4 address ended
them, which can happen while there is room for two. -/
def readGroups : (first : Bool) → (room : Nat) → Text → List Nat × Bool × Text
  | _, 0, t => ([], false, t)
  | first, room + 1, t =>
    match if first then some t else readChar? ':' t with
    | none => ([], false, t)
    | some u =>
      match if room = 0 then none else readIPv4? u with
      | some (address, rest) => (address.groups, true, rest)
      | none =>
        match readGroup? u with
        | none => ([], false, t)
        | some (g, rest) =>
          let (gs, endsInV4, rest) := readGroups false room rest
          (g :: gs, endsInV4, rest)

/-- An IPv6 address at the front of a text: eight groups, or fewer around one `::`. -/
def readIPv6? (t : Text) : Option (IPv6 × Text) := do
  let (front, endsInV4, rest) := readGroups true 8 t
  if front.length = 8 then return (⟨front⟩, rest)
  if endsInV4 then none
  let rest ← readChar? ':' rest
  let rest ← readChar? ':' rest
  let (back, _, rest) := readGroups true (7 - front.length) rest
  return (⟨front ++ List.replicate (8 - front.length - back.length) 0 ++ back⟩, rest)

/-- A text that is a numeric address from end to end. -/
def readAddress? (t : Text) : Option Address :=
  match readIPv4? t with
  | some (x, []) => some (.v4 x)
  | _ =>
    match readIPv6? t with
    | some (x, []) => some (.v6 x)
    | _ => none

/-! ## Writing -/

/-- An IPv4 address in dotted form. -/
def IPv4.text (x : IPv4) : Text :=
  Text.join ['.'] ([x.a, x.b, x.c, x.d].map fun octet => Text.ofNat octet.toNat)

end PlainLink.Host
