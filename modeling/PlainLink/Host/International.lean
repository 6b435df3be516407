/-
# Hosts in any script

A host with characters outside ASCII is mapped to one spelling, checked label by label,
and written in ASCII.  A host whose last label is a number is an IPv4 address in the
loose spelling that browsers take, and is answered in dotted form.

Each character is mapped, the whole is brought into normal form C, and then every label
is judged in the form of its characters: a label in Punycode is decoded first, and must
stand for what is mapped already and cannot be written in ASCII.  No label may begin
with a combining mark, joiners have to be in their places, and where a character runs
from right to left, every label runs in one direction.
-/
import PlainLink.Host.Address
import PlainLink.Host.Mapping
import PlainLink.Host.Punycode
import PlainLink.Text.Percent
import PlainLink.Unicode.Alphabetic
import PlainLink.Unicode.Direction

namespace PlainLink.Host

/-- Why a host beyond ASCII is refused. -/
inductive Defect where
  | notInternational
  | emptyHost
  | notIPv4
  deriving DecidableEq, Repr

def Defect.message : Defect → Text
  | notInternational => "invalid international domain name".toList
  | emptyHost => "empty host".toList
  | notIPv4 => "invalid IPv4 address".toList

/-! ## Mapping -/

/-- The mapped spelling of a text, in normal form C; `none` if a character is refused. -/
def mapped? (t : Text) : Option Text :=
  (t.mapM fun c =>
    match fate c with
    | .kept => some [c]
    | .dropped => some []
    | .replaced parts => some (parts.map Char.ofNat)
    | .refused => none).map fun (pieces : List Text) => Unicode.normalize pieces.flatten

/-- A character that may not stand in a host: a control, a blank or a delimiter of URLs. -/
def isForbidden (c : Char) : Bool :=
  c.val ≤ 0x20 || c.val == 0x7F || "%#/:<>?@[\\]^|".toList.contains c

/-! ## Labels -/

/-- The mark U+200C or U+200D after the (reversed) text `before` is in place: it follows a
virama, or it stands between letters that join across it. -/
def joinerInPlace (before : Text) (joiner : Char) (after : Text) : Bool :=
  let followsVirama := match before with
    | c :: _ => Unicode.combiningClass c.toNat == 9
    | [] => false
  let transparent (c : Char) := Unicode.joiningType c == 'T'
  let joinsAcross :=
    ((before.dropWhile transparent).head?.any fun c =>
      "LD".toList.contains (Unicode.joiningType c))
      && ((after.dropWhile transparent).head?.any fun c =>
        "RD".toList.contains (Unicode.joiningType c))
  followsVirama || (joiner.toNat == 0x200C && joinsAcross)

/-- Every joiner of a label is in place. -/
def joinersInPlace : (before : Text) → Text → Bool
  | _, [] => true
  | before, c :: rest =>
    (if c.toNat == 0x200C || c.toNat == 0x200D then joinerInPlace before c rest else true)
      && joinersInPlace (c :: before) rest

/-- A mapped label is well-formed: it does not begin with a mark, its joiners are in place, and
no forbidden character occurs. -/
def wellFormed (label : Text) : Bool :=
  !(label.head?.any fun c => (Unicode.category c).isMark)
    && joinersInPlace [] label
    && !label.any isForbidden

/-- A label in the form in which it is judged: a label marked as Punycode is read, and what it
stands for must be in mapped form already and need the marker. -/
def judged? (label : Text) : Option Text :=
  match Text.after? "xn--".toList label with
  | none => if wellFormed label then some label else none
  | some code =>
    if 2000 < code.length then none else
    match Punycode.decode? code with
    | none => none
    | some plain =>
      let settled := plain.all fun c => match fate c with
        | .kept => true
        | _ => false
      if settled && !Text.isAscii plain && Unicode.normalize plain == plain
          && !plain.contains '.' && (Text.after? "xn--".toList plain).isNone && wellFormed plain
      then some plain else none

/-- The rule for labels of a host in which some character runs from right to left: a
label runs in one direction, holds only what may stand in that direction, and ends in
a letter or number. -/
def directionOk (label : Text) : Bool :=
  let classes := label.map Unicode.direction
  let last := (classes.reverse.dropWhile (· == 'M')).head?
  match classes.head? with
  | none => true
  | some 'L' =>
    classes.all ("LESCTOBM".toList.contains ·) && last.any ("LE".toList.contains ·)
  | some first =>
    (first == 'R' || first == 'A')
      && classes.all ("RANESCTOBM".toList.contains ·)
      && last.any ("RAEN".toList.contains ·)
      && !(classes.contains 'E' && classes.contains 'N')

def asciiLabel? (label : Text) : Option Text :=
  if Text.isAscii label then some label
  else if 1000 < label.length then none
  else some ("xn--".toList ++ Punycode.encode label)

/-- The ASCII form of a host in any script. -/
def ascii? (host : Text) : Option Text := do
  let mapped ← mapped? host
  let labels ← (mapped.splitOn '.').mapM judged?
  let rightToLeft := labels.any fun label =>
    label.any fun c => "RAN".toList.contains (Unicode.direction c)
  if rightToLeft && !labels.all directionOk then none
  else return Text.join ['.'] (← labels.mapM asciiLabel?)

/-! ## Loose IPv4 addresses -/

/-- A number of a loose address: hexadecimal after `0x`, octal after `0`, else decimal. -/
def looseNumber? (t : Text) : Option Nat :=
  match t with
  | [] => none
  | '0' :: 'x' :: digits => Text.hexNumber? digits
  | '0' :: 'X' :: digits => Text.hexNumber? digits
  | '0' :: c :: digits =>
    if (c :: digits).all fun d => '0' ≤ d && d ≤ '7' then
      some ((c :: digits).foldl (fun n d => 8 * n + Text.digitValue d) 0)
    else none
  | digits => if Text.isDigits digits then some (Text.decimalValue digits) else none

/-- The labels of a host, without an empty one after a final dot. -/
def labelsOf (host : Text) : List Text :=
  let labels := host.splitOn '.'
  if 1 < labels.length && labels.getLast? == some [] then labels.dropLast else labels

/-- The last label is a number, so that the host can only be an address. -/
def endsInNumber (host : Text) : Bool :=
  match (labelsOf host).getLast? with
  | none => false
  | some last => (!last.isEmpty && Text.isDigits last) || (
      match last with
      | '0' :: 'x' :: digits => (Text.hexNumber? digits).isSome
      | '0' :: 'X' :: digits => (Text.hexNumber? digits).isSome
      | _ => false)

/-- A loose address: one to four numbers, each but the last one octet, the last one filling up
all octets that are left. -/
def looseIPv4? (host : Text) : Option IPv4 := do
  let labels := labelsOf host
  if 4 < labels.length then none
  let numbers ← labels.mapM looseNumber?
  let last ← numbers.getLast?
  let front := numbers.dropLast
  let room := Nat.pow 256 (4 - front.length)
  if front.any (255 < ·) || room ≤ last then none
  let value := front.foldl (fun n octet => n * 256 + octet) 0 * room + last
  return ⟨(value / 0x1000000).toUInt8, (value / 0x10000 % 256).toUInt8,
    (value / 256 % 256).toUInt8, (value % 256).toUInt8⟩

/-! ## Hosts -/

/-- A character of a host in its final form. -/
def isPlain (c : Char) : Bool :=
  c.val < 128 && !c.isUpper && !isForbidden c

/-- A host in any script in its final form: ASCII, without capitals or delimiters. -/
def plainForm (host : Text) : Except Defect Text :=
  match ascii? (Utf8.decode (Text.percentDecode host)) with
  | none => .error .notInternational
  | some ascii =>
    if ascii.isEmpty then .error .emptyHost
    else if !ascii.all isPlain then .error .notInternational
    else if endsInNumber ascii then
      match looseIPv4? ascii with
      | some address => .ok address.text
      | none => .error .notIPv4
    else .ok ascii

end PlainLink.Host
