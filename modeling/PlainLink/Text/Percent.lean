/-
# Percent-encoding

`requote` brings the differently escaped spellings of one URL together: escapes of
unreserved characters are undone, and what may not stand in a URL is escaped.  `unquote`
undoes every escape.

A `%` before two letters or digits is taken for an escape.  If these are not hexadecimal
digits, the escapes of the text count as broken, and the whole text is escaped as it
stands, every `%` included.  A `%` before anything else is no escape, and is left where
it is.
-/
import PlainLink.Text.Utf8
import PlainLink.Unicode.Alphabetic

namespace PlainLink.Text

/-! ## Classes of characters -/

/-- A character that never needs an escape. -/
def isUnreserved (c : Char) : Bool :=
  c.isAlphanum || c == '-' || c == '.' || c == '_' || c == '~'

/-- A character that separates parts of a URL when it stands unescaped. -/
def isReserved (c : Char) : Bool :=
  "!#$&'()*+,/:;=?@[]".toList.contains c

/-! ## Escapes -/

/-- The byte that two hexadecimal digits write. -/
def hexByte? (a b : Char) : Option UInt8 := do
  return (16 * (← hexValue? a) + (← hexValue? b)).toUInt8

def escapeByte (b : UInt8) : Text :=
  ['%', hexDigit (b.toNat / 16), hexDigit (b.toNat % 16)]

/-- The bytes of a text, each character outside the class `safe` escaped byte by byte. -/
def escape (safe : Char → Bool) (t : Text) : Text :=
  t.flatMap fun c => if safe c then [c] else (Utf8.encodeChar c).flatMap escapeByte

/-- The bytes that a text stands for: each escape is its byte, all else its own bytes. -/
def percentDecode : Text → Bytes
  | [] => []
  | '%' :: a :: b :: rest =>
    match hexByte? a b with
    | some byte => byte :: percentDecode rest
    | none => Utf8.encodeChar '%' ++ percentDecode (a :: b :: rest)
  | c :: rest => Utf8.encodeChar c ++ percentDecode rest

/-- The text with every escape undone; bytes that are no UTF-8 become U+FFFD. -/
def unquote (t : Text) : Text :=
  Utf8.decode (percentDecode t)

/-- The text with the escapes of unreserved characters undone and the others left.  There is
none when some `%` stands before two letters or digits that are not both hexadecimal. -/
def unquoteUnreserved? : Text → Option Text
  | [] => some []
  | '%' :: a :: b :: rest =>
    if Unicode.isAlphanumeric a && Unicode.isAlphanumeric b then
      match hexByte? a b with
      | none => none
      | some byte =>
        let c := Char.ofNat byte.toNat
        if isUnreserved c then (unquoteUnreserved? rest).map (c :: ·)
        else (unquoteUnreserved? rest).map fun out => '%' :: a :: b :: out
    else (unquoteUnreserved? (a :: b :: rest)).map ('%' :: ·)
  | c :: rest => (unquoteUnreserved? rest).map (c :: ·)

/-- One spelling for all the ways to escape a URL.  Where the escapes are broken they are all
taken as plain text, so `%` is escaped too. -/
def requote (t : Text) : Text :=
  match unquoteUnreserved? t with
  | some plain => escape (fun c => isUnreserved c || isReserved c || c == '%') plain
  | none => escape (fun c => isUnreserved c || isReserved c) t

end PlainLink.Text
