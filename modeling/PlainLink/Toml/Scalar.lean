/-
# Reading texts, numbers and dates of TOML

Each reader takes what it reads from the front of a text and gives the rest.
-/
import PlainLink.Text.Number
import PlainLink.Time.Calendar
import PlainLink.Toml.Basic

namespace PlainLink.Toml

/-! ## Characters -/

def isSpace (c : Char) : Bool :=
  c == ' ' || c == '\t'

/-- The text without blanks at its front. -/
def dropSpaces (t : Text) : Text :=
  t.dropWhile isSpace

/-- A character that may stand in comments and texts: none that controls, but for the tab. -/
def isPlain (c : Char) : Bool :=
  c == '\t' || (' ' ≤ c && c != '\x7f')

/-- The text after the end of a line at its front. -/
def newline? (t : Text) : Option Text :=
  match t with
  | '\n' :: rest => some rest
  | '\r' :: '\n' :: rest => some rest
  | _ => none

/-- The text after blanks and ends of lines. -/
def dropLines : Text → Text
  | '\r' :: '\n' :: rest => dropLines rest
  | c :: rest => if isSpace c || c == '\n' then dropLines rest else c :: rest
  | [] => []

/-! ## Texts -/

/-- The character of some hexadecimal digits. -/
def charOfHex? (digits : Text) : Option Char :=
  (Text.hexNumber? digits).bind fun n => if n.isValidChar then some (Char.ofNat n) else none

/-- The character of an escape after its backslash. -/
def escaped? (t : Text) : Option (Char × Text) :=
  match t with
  | 'u' :: rest => (charOfHex? (rest.take 4)).bind fun c =>
      if (rest.take 4).length = 4 then some (c, rest.drop 4) else none
  | 'U' :: rest => (charOfHex? (rest.take 8)).bind fun c =>
      if (rest.take 8).length = 8 then some (c, rest.drop 8) else none
  | 'b' :: rest => some ('\x08', rest)
  | 'f' :: rest => some ('\x0c', rest)
  | 'n' :: rest => some ('\n', rest)
  | 'r' :: rest => some ('\r', rest)
  | 't' :: rest => some ('\t', rest)
  | '\\' :: rest => some ('\\', rest)
  | '"' :: rest => some ('"', rest)
  | _ => none

/-- A text in double quotes, after the first one; `done` holds its characters, latest first.
Each step takes a character, so that `steps` need not exceed the length. -/
def readBasic : (steps : Nat) → (done : Text) → Text → Option (Text × Text)
  | 0, _, _ => none
  | steps + 1, done, t =>
    match t with
    | '"' :: rest => some (done.reverse, rest)
    | '\\' :: rest =>
      match escaped? rest with
      | some (c, rest) => readBasic steps (c :: done) rest
      | none => none
    | c :: rest => if isPlain c then readBasic steps (c :: done) rest else none
    | [] => none

/-- A text in single quotes, after the first one. -/
def readLiteral (t : Text) : Option (Text × Text) :=
  let (inner, rest) := Text.cutBefore (fun c => c == '\'' || !isPlain c) t
  (Text.after? ['\''] rest).map (inner, ·)

/-- The text after the backslash of a line that goes on below: the blanks around the end of
the line do not count. -/
def continued? (t : Text) : Option Text :=
  (newline? (dropSpaces t)).map dropLines

/-- A text over several lines, after its first three quotes.  It ends at three quotes, of which
up to two more may stand before the end; `escapes` tells whether backslashes have a meaning. -/
def readLong (quote : Char) (escapes : Bool) :
    (steps : Nat) → (done : Text) → Text → Option (Text × Text)
  | 0, _, _ => none
  | steps + 1, done, t =>
    match t with
    | [] => none
    | c :: rest =>
      if c = quote then
        let quotes := min ((t.takeWhile (· == quote)).length) 5
        if quotes < 3 then readLong quote escapes steps (c :: done) rest
        else some (done.reverse ++ List.replicate (quotes - 3) quote, t.drop quotes)
      else if escapes && c == '\\' then
        match continued? rest with
        | some rest => readLong quote escapes steps done rest
        | none =>
          match escaped? rest with
          | some (c, rest) => readLong quote escapes steps (c :: done) rest
          | none => none
      else match newline? t with
        | some rest => readLong quote escapes steps ('\n' :: done) rest
        | none => if isPlain c then readLong quote escapes steps (c :: done) rest else none

/-- A text over several lines, whose first end of line does not count if it
stands at the front. -/
def readLines (quote : Char) (escapes : Bool) (t : Text) : Option (Text × Text) :=
  readLong quote escapes (t.length + 1) [] ((newline? t).getD t)

/-- A text that is a name: on one line. -/
def readQuoted (t : Text) : Option (Text × Text) :=
  match t with
  | '"' :: rest => readBasic (rest.length + 1) [] rest
  | '\'' :: rest => readLiteral rest
  | _ => none

def readText (t : Text) : Option (Text × Text) :=
  match t with
  | '"' :: '"' :: '"' :: rest => readLines '"' true rest
  | '\'' :: '\'' :: '\'' :: rest => readLines '\'' false rest
  | _ => readQuoted t

/-! ## Numbers -/

/-- Digits of a class with single underscores between them, at the front of a text. -/
def digitRow (isDigit : Char → Bool) : Text → Text × Text
  | [] => ([], [])
  | '_' :: d :: rest =>
    if isDigit d then
      let (row, rest) := digitRow isDigit rest
      (d :: row, rest)
    else ([], '_' :: d :: rest)
  | c :: rest =>
    if isDigit c then
      let (row, rest) := digitRow isDigit rest
      (c :: row, rest)
    else ([], c :: rest)

/-- At least one digit, with single underscores between digits. -/
def readRow (isDigit : Char → Bool) (t : Text) : Option (Text × Text) :=
  if t.head?.any isDigit then some (digitRow isDigit t) else none

/-- A whole part: zero, or digits of which the first is not zero. -/
def readWhole (t : Text) : Option (Text × Text) :=
  match t with
  | '0' :: rest => some (['0'], rest)
  | _ => readRow Char.isDigit t

def readSign (t : Text) : Bool × Text :=
  match t with
  | '-' :: rest => (true, rest)
  | '+' :: rest => (false, rest)
  | _ => (false, t)

def readFraction (t : Text) : Option (Option Text × Text) :=
  match t with
  | '.' :: rest => (readRow Char.isDigit rest).map fun (digits, rest) => (some digits, rest)
  | _ => some (none, t)

def readExponent (t : Text) : Option (Option Int × Text) :=
  match t with
  | c :: rest =>
    if c = 'e' ∨ c = 'E' then
      let (negative, rest) := readSign rest
      (readRow Char.isDigit rest).map fun (digits, rest) =>
        let n : Int := Text.decimalValue digits
        (some (if negative then -n else n), rest)
    else some (none, t)
  | [] => some (none, t)

/-- A whole number that fits into 64 bits with its sign. -/
def int? (negative : Bool) (value : Nat) : Option Toml :=
  if negative then (if value ≤ Nat.pow 2 63 then some (int (-value)) else none)
  else if value < Nat.pow 2 63 then some (int value) else none

/-- A floating-point number.  One that is too large is refused, but for its negative. -/
def real? (x : Real64) : Option Toml :=
  if x = .infinite false then none else some (real x)

/-- A whole number in another base, after its mark. -/
def readBased (isDigit : Char → Bool) (value : Text → Nat) (t : Text) :
    Option (Toml × Text) := do
  let (digits, rest) ← readRow isDigit t
  return (← int? false (value digits), rest)

/-- The value of digits in a base up to sixteen. -/
def valueIn (base : Nat) (digits : Text) : Nat :=
  digits.foldl (fun n c => base * n + (Text.hexValue? c).getD 0) 0

def readDecimal (negative : Bool) (t : Text) : Option (Toml × Text) := do
  let (whole, t) ← readWhole t
  let (fraction, t) ← readFraction t
  let (exponent, t) ← readExponent t
  if fraction.isNone && exponent.isNone then
    return (← int? negative (Text.decimalValue whole), t)
  else
    let fraction := fraction.getD []
    let x := Real64.ofDecimal negative (Text.decimalValue (whole ++ fraction))
      (exponent.getD 0 - fraction.length)
    return (← real? x, t)

def readNumber (t : Text) : Option (Toml × Text) :=
  match t with
  | '0' :: 'x' :: rest => readBased (fun c => (Text.hexValue? c).isSome) (valueIn 16) rest
  | '0' :: 'o' :: rest => readBased (fun c => '0' ≤ c && c ≤ '7') (valueIn 8) rest
  | '0' :: 'b' :: rest => readBased (fun c => c == '0' || c == '1') (valueIn 2) rest
  | _ =>
    let (negative, rest) := readSign t
    match rest with
    | 'i' :: 'n' :: 'f' :: rest => some (real (.infinite negative), rest)
    | 'n' :: 'a' :: 'n' :: rest => some (real .nan, rest)
    | _ => readDecimal negative rest

/-! ## Dates -/

/-- A number of exactly so many digits, in a range. -/
def readPart (length least most : Nat) (t : Text) : Option (Nat × Text) :=
  let digits := t.take length
  let n := Text.decimalValue digits
  if digits.length = length && digits.all Char.isDigit && least ≤ n && n ≤ most then
    some (n, t.drop length)
  else none

def afterDate? (t : Text) : Option Text := do
  let (year, t) ← readPart 4 0 9999 t
  let (month, t) ← readPart 2 1 12 (← Text.after? ['-'] t)
  let (_, t) ← readPart 2 1 (Date.daysIn year month) (← Text.after? ['-'] t)
  return t

/-- The text after a time of the day. -/
def afterTime? (t : Text) : Option Text := do
  let (_, t) ← readPart 2 0 23 t
  let (_, t) ← readPart 2 0 59 (← Text.after? [':'] t)
  let (_, t) ← readPart 2 0 60 (← Text.after? [':'] t)
  match t with
  | '.' :: rest =>
    let digits := rest.takeWhile Char.isDigit
    if digits.isEmpty then none else return rest.drop digits.length
  | _ => return t

/-- The text after the distance of a time from universal time, if it is written. -/
def afterOffset (t : Text) : Text :=
  match t with
  | 'Z' :: rest => rest
  | 'z' :: rest => rest
  | c :: rest =>
    let after : Option Text := do
      let (_, t) ← readPart 2 0 23 rest
      let (_, t) ← readPart 2 0 59 (← Text.after? [':'] t)
      return t
    if c = '+' ∨ c = '-' then after.getD t else t
  | [] => []

/-- The text after a date, a time of the day, or both. -/
def afterMoment? (t : Text) : Option Text :=
  match afterDate? t with
  | some rest =>
    match rest with
    | c :: timed =>
      if c = 'T' ∨ c = 't' ∨ c = ' ' then some (((afterTime? timed).map afterOffset).getD rest)
      else some rest
    | [] => some rest
  | none => afterTime? t

end PlainLink.Toml
