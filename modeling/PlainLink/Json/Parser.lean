/-
# Reading JSON

The grammar of JSON without any leniency: no comments, no trailing commas, no leading
zeros, no control characters in texts, and nothing but blanks after the value.

Each reader takes a value from the front of a text.  Lists and objects may nest up to a
fixed depth; a surrogate in an escape has to come with its partner.
-/
import PlainLink.Json.Basic

namespace PlainLink.Json

def isBlank (c : Char) : Bool :=
  c == ' ' || c == '\n' || c == '\t' || c == '\r'

/-- The text without the blanks at its front. -/
def dropBlanks (t : Text) : Text :=
  t.dropWhile isBlank

/-! ## Texts -/

/-- One piece of a text as it is spelled: a character, or a UTF-16 unit by its number. -/
inductive Piece where
  | char (c : Char)
  | unit (n : Nat)

/-- The pieces of a text up to its closing quote, latest first.  Each takes a character, so
that `steps` need not exceed the length. -/
def pieces : (steps : Nat) → List Piece → Text → Option (List Piece × Text)
  | 0, _, _ => none
  | steps + 1, done, t =>
    match t with
    | [] => none
    | '"' :: rest => some (done, rest)
    | '\\' :: 'u' :: a :: b :: c :: d :: rest =>
      match Text.hexNumber? [a, b, c, d] with
      | none => none
      | some n => pieces steps (.unit n :: done) rest
    | '\\' :: c :: rest =>
      match c with
      | '"' => pieces steps (.char '"' :: done) rest
      | '\\' => pieces steps (.char '\\' :: done) rest
      | '/' => pieces steps (.char '/' :: done) rest
      | 'b' => pieces steps (.char '\x08' :: done) rest
      | 'f' => pieces steps (.char '\x0c' :: done) rest
      | 'n' => pieces steps (.char '\n' :: done) rest
      | 'r' => pieces steps (.char '\r' :: done) rest
      | 't' => pieces steps (.char '\t' :: done) rest
      | _ => none
    | c :: rest => if c.val < 0x20 then none else pieces steps (.char c :: done) rest

/-- The text of a row of pieces; `none` if half of a surrogate pair stands alone. -/
def ofPieces : List Piece → Option Text
  | [] => some []
  | .char c :: rest => (ofPieces rest).map (c :: ·)
  | .unit n :: .unit m :: rest =>
    if 0xD800 ≤ n ∧ n < 0xDC00 ∧ 0xDC00 ≤ m ∧ m < 0xE000 then
      (ofPieces rest).map (Char.ofNat (0x10000 + (n - 0xD800) * 0x400 + (m - 0xDC00)) :: ·)
    else if n.isValidChar then (ofPieces (.unit m :: rest)).map (Char.ofNat n :: ·)
    else none
  | .unit n :: rest => if n.isValidChar then (ofPieces rest).map (Char.ofNat n :: ·) else none

/-- A text after its opening quote. -/
def readString (t : Text) : Option (Option Text × Text) :=
  (pieces (t.length + 1) [] t).map fun (done, rest) => (ofPieces done.reverse, rest)

/-! ## Numbers -/

/-- At least one digit at the front of a text. -/
def readDigits (t : Text) : Option (Text × Text) :=
  let digits := t.takeWhile Char.isDigit
  if digits.isEmpty then none else some (digits, t.drop digits.length)

/-- The whole part of a number, without leading zeros. -/
def readWhole (t : Text) : Option (Text × Text) := do
  let (digits, rest) ← readDigits t
  if digits.head? = some '0' ∧ 1 < digits.length then none else some (digits, rest)

/-- The fraction of a number, if there is one. -/
def readFraction (t : Text) : Option (Text × Text) :=
  match t with
  | '.' :: rest => (readDigits rest).map fun (digits, rest) => ('.' :: digits, rest)
  | _ => some ([], t)

/-- The exponent of a number, if there is one. -/
def readExponent (t : Text) : Option (Text × Text) :=
  match t with
  | c :: rest =>
    if c = 'e' ∨ c = 'E' then
      match rest with
      | '+' :: rest => (readDigits rest).map fun (digits, rest) => (c :: '+' :: digits, rest)
      | '-' :: rest => (readDigits rest).map fun (digits, rest) => (c :: '-' :: digits, rest)
      | _ => (readDigits rest).map fun (digits, rest) => (c :: digits, rest)
    else some ([], t)
  | [] => some ([], [])

def readNumber (t : Text) : Option (Text × Text) := do
  let (sign, t) := match t with
    | '-' :: rest => (['-'], rest)
    | _ => ([], t)
  let (whole, t) ← readWhole t
  let (fraction, t) ← readFraction t
  let (exponent, t) ← readExponent t
  return (sign ++ whole ++ fraction ++ exponent, t)

/-! ## Values -/

mutual

/-- A value at the front of a text.  Each step takes a character or ends a list, so that
`steps` need not exceed twice the length. -/
def readValue : (steps : Nat) → Text → Option (Json × Text)
  | 0, _ => none
  | steps + 1, t =>
    match dropBlanks t with
    | [] => none
    | '"' :: rest => (readString rest).map fun (s, rest) => (string s, rest)
    | '[' :: rest =>
      match dropBlanks rest with
      | ']' :: rest => some (array [], rest)
      | rest => readItems steps [] rest
    | '\x7b' :: rest =>
      match dropBlanks rest with
      | '\x7d' :: rest => some (object [], rest)
      | rest => readMembers steps [] rest
    | c :: rest =>
      if c = 'n' then (Text.after? "ull".toList rest).map (null, ·)
      else if c = 't' then (Text.after? "rue".toList rest).map (bool true, ·)
      else if c = 'f' then (Text.after? "alse".toList rest).map (bool false, ·)
      else (readNumber (c :: rest)).map fun (spelling, rest) => (number spelling, rest)

/-- The items of an array up to its closing bracket; `done` holds those read, latest first. -/
def readItems : (steps : Nat) → List Json → Text → Option (Json × Text)
  | 0, _, _ => none
  | steps + 1, done, t =>
    match readValue steps t with
    | none => none
    | some (item, rest) =>
      match dropBlanks rest with
      | ',' :: rest => readItems steps (item :: done) rest
      | ']' :: rest => some (array (item :: done).reverse, rest)
      | _ => none

/-- The members of an object up to its closing brace; `done` holds those read, latest first. -/
def readMembers : (steps : Nat) → List (Option Text × Json) → Text → Option (Json × Text)
  | 0, _, _ => none
  | steps + 1, done, t =>
    match dropBlanks t with
    | '"' :: rest =>
      match readString rest with
      | none => none
      | some (key, rest) =>
        match dropBlanks rest with
        | ':' :: rest =>
          match readValue steps rest with
          | none => none
          | some (value, rest) =>
            match dropBlanks rest with
            | ',' :: rest => readMembers steps ((key, value) :: done) rest
            | '\x7d' :: rest => some (object ((key, value) :: done).reverse, rest)
            | _ => none
        | _ => none
    | _ => none

end

def parse? (t : Text) : Option Json := do
  let (value, rest) ← readValue (2 * t.length + 2) t
  if (dropBlanks rest).isEmpty then some value else none

end PlainLink.Json
