/-
# Character references of HTML

Addresses inside pages are written with references in the place of some characters: by
name, or by number.  Only the names that occur in addresses are known; what is no known
reference stays.

A text is read once, from the front, and what came of a reference is not looked at
again.  A number may have a plus sign in front of its digits, which HTML does not allow.
-/
import PlainLink.Text.Number

namespace PlainLink.Text

/-- The characters that have a name. -/
def namedChars : List (String × Char) :=
  [ ("amp", '&'), ("lt", '<'), ("gt", '>'), ("quot", '"'), ("apos", '\''), ("nbsp", '\u00a0'),
    ("sol", '/'), ("colon", ':'), ("quest", '?'), ("equals", '='), ("num", '#'), ("percnt", '%'),
    ("plus", '+') ]

def charOfNumber? (n : Nat) : Option Char :=
  if n.isValidChar then some (Char.ofNat n) else none

/-- The character that stands between `&` and `;` by name or by number. -/
def referenced? (name : Text) : Option Char :=
  match name with
  | '#' :: 'x' :: digits => (hexUpTo? (UInt32.size - 1) digits).bind charOfNumber?
  | '#' :: 'X' :: digits => (hexUpTo? (UInt32.size - 1) digits).bind charOfNumber?
  | '#' :: digits => (natUpTo? (UInt32.size - 1) digits).bind charOfNumber?
  | _ => namedChars.findSome? fun (known, c) => if known.toList = name then some c else none

/-- The most bytes between `&` and `;`. -/
def longestReference : Nat := 10

/-- A reference after its `&`: the character, and how many characters the
reference takes there. -/
def reference? (t : Text) : Option (Char × Nat) := do
  let (name, _) ← splitFirst? ';' t
  if longestReference < byteLength name then none
  else (referenced? name).map fun c => (c, name.length + 1)

/-- The text with references resolved, after its first `skip` characters, which belong to a
reference that is resolved already. -/
def unescapeAfter : (skip : Nat) → Text → Text
  | _, [] => []
  | skip + 1, _ :: rest => unescapeAfter skip rest
  | 0, c :: rest =>
    if c = '&' then
      match reference? rest with
      | some (d, length) => d :: unescapeAfter length rest
      | none => '&' :: unescapeAfter 0 rest
    else c :: unescapeAfter 0 rest

/-- The text with its references resolved, each once. -/
def unescape (t : Text) : Text :=
  unescapeAfter 0 t

end PlainLink.Text
