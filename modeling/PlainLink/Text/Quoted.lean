/-
# Texts between quotes in messages

A message shows the text it is about between double quotes, with an escape for each
character that would end the quotation or could not be seen.
-/
import PlainLink.Text.Basic
import PlainLink.Unicode.Visible

namespace PlainLink.Text

/-- A number in lower-case hexadecimal digits. -/
def ofNatHex (n : Nat) : Text :=
  Nat.toDigits 16 n

/-- How one character is shown between double quotes. -/
def quotedChar (c : Char) : Text :=
  if c = '"' ∨ c = '\\' then ['\\', c]
  else if c = '\n' then ['\\', 'n']
  else if c = '\t' then ['\\', 't']
  else if c = '\r' then ['\\', 'r']
  else if c.toNat = 0 then ['\\', '0']
  else if Unicode.isVisible c then [c]
  else "\\u".toList ++ ['\x7b'] ++ ofNatHex c.toNat ++ ['\x7d']

/-- The text between double quotes. -/
def quoted (t : Text) : Text :=
  '"' :: t.flatMap quotedChar ++ ['"']

end PlainLink.Text
