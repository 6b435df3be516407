/-
# Dates as headers write them

Two forms are read: the date of mail messages, which also headers of the web use, and
the older form of cookies with hyphens between day, month and year.  Names may be in any
case.
-/
import PlainLink.Time.Calendar

namespace PlainLink.Time

/-! ## Parts -/

/-- A number of `least` to `most` digits at the front of a text. -/
def digits? (least most : Nat) (t : Text) : Option (Nat × Text) :=
  let row := (t.takeWhile Char.isDigit).take most
  if row.length < least then none else some (Text.decimalValue row, t.drop row.length)

/-- The text without blanks at its front. -/
def dropBlanks (t : Text) : Text :=
  t.dropWhile Text.isBlank

/-- The text after at least one blank. -/
def blanks? (t : Text) : Option Text :=
  if t.head?.any Text.isBlank then some (dropBlanks t) else none

/-- The place of the first of some names of three letters, at the front of a text. -/
def name? (names : List String) (t : Text) : Option (Nat × Text) :=
  (names.zipIdx).findSome? fun (name, i) => (Text.afterLetters? name.toList t).map (i, ·)

/-- A day of the week by its short name. -/
def weekday? : Text → Option (Weekday × Text) :=
  name? ["mon", "tue", "wed", "thu", "fri", "sat", "sun"]

def month? (t : Text) : Option (Nat × Text) :=
  (name? ["jan", "feb", "mar", "apr", "may", "jun", "jul", "aug", "sep", "oct",
    "nov", "dec"] t).map
    fun (i, rest) => (i + 1, rest)

/-- A given character, and the rest. -/
def char? (c : Char) (t : Text) : Option Text :=
  Text.after? [c] t

/-! ## The form of mail messages -/

/-- The year that digits mean: two digits stand for 1950 to 2049, three
for a year after 1900. -/
def fullYear (length value : Nat) : Nat :=
  if length = 2 then (if value < 50 then value + 2000 else value + 1900)
  else if length = 3 then value + 1900
  else value

/-- A zone by the letters of its name, in hours ahead of universal time. -/
def namedZone? (name : Text) : Option Int :=
  let is (names : List String) := names.any fun n => Text.sameLetters n.toList name
  if is ["gmt", "ut", "z"] then some 0
  else if is ["edt"] then some (-4)
  else if is ["est", "cdt"] then some (-5)
  else if is ["cst", "mdt"] then some (-6)
  else if is ["mst", "pdt"] then some (-7)
  else if is ["pst"] then some (-8)
  else if name.length = 1 && !is ["j"] then some 0
  else none

/-- A zone, in seconds ahead of universal time: a name, or a sign and four digits. -/
def zone? (t : Text) : Option (Int × Text) :=
  let name := t.takeWhile Char.isAlpha
  if !name.isEmpty then (namedZone? name).map fun hours => (hours * 3600, t.drop name.length)
  else do
    let (sign, t) ← match t with
      | '+' :: rest => some ((1 : Int), rest)
      | '-' :: rest => some (-1, rest)
      | _ => none
    let (hours, t) ← digits? 2 2 t
    let (minutes, t) ← digits? 2 2 t
    if 59 < minutes then none
    return (sign * (hours * 3600 + minutes * 60 : Nat), t)

/-- The text after a comment in parentheses, which may nest; `depth` tells how many are open,
and `escaped` that the next character stands for itself. -/
def commentRest? : (depth : Nat) → (escaped : Bool) → Text → Option Text
  | _, _, [] => none
  | depth, true, _ :: rest => commentRest? depth false rest
  | depth, false, c :: rest =>
    if depth = 0 then (if c = '(' then commentRest? 1 false rest else none)
    else if c = '\\' then commentRest? depth true rest
    else if c = '(' then commentRest? (depth + 1) false rest
    else if c = ')' then (if depth = 1 then some rest else commentRest? (depth - 1) false rest)
    else commentRest? depth false rest

/-- Nothing but comments is left.  Each takes characters, so that `steps` need not exceed the
length. -/
def onlyComments : (steps : Nat) → Text → Bool
  | 0, t => t.isEmpty
  | steps + 1, t =>
    match commentRest? 0 false (dropBlanks t) with
    | some rest => onlyComments steps rest
    | none => t.isEmpty

/-- The weekday in front of a date, if there is one. -/
def leadingWeekday? (t : Text) : Option (Option Weekday × Text) :=
  match weekday? t with
  | some (w, rest) => (char? ',' rest).map (some w, ·)
  | none => some (none, t)

/-- The seconds of a time, if they are written. -/
def seconds? (t : Text) : Option (Nat × Text) :=
  match char? ':' (dropBlanks t) with
  | some rest => digits? 2 2 (dropBlanks rest)
  | none => some (0, t)

/-- An instant in the form of mail messages. -/
def mailDate? (t : Text) : Option Instant := do
  let (weekday, t) ← leadingWeekday? (dropBlanks t)
  let (day, t) ← digits? 1 2 (dropBlanks t)
  let (month, t) ← month? (← blanks? t)
  let t ← blanks? t
  let length := (t.takeWhile Char.isDigit).length
  let (year, t) ← digits? 2 length t
  let (hour, t) ← digits? 2 2 (← blanks? t)
  let t ← char? ':' (dropBlanks t)
  let (minute, t) ← digits? 2 2 (dropBlanks t)
  let (second, t) ← seconds? t
  let (offset, t) ← zone? (← blanks? t)
  if !onlyComments t.length t || 86400 ≤ offset.natAbs then none
  else Instant.ofDate? ⟨fullYear length year, month, day⟩ ⟨hour, minute, second⟩ offset weekday

/-! ## The form of cookies -/

/-- A year of up to four digits, or of any number of digits after a sign. -/
def signedYear? (t : Text) : Option (Int × Text) :=
  match t with
  | '-' :: rest => (digits? 1 rest.length rest).map fun (n, rest) => (-(n : Int), rest)
  | '+' :: rest => (digits? 1 rest.length rest).map fun (n, rest) => ((n : Int), rest)
  | _ => (digits? 1 4 t).map fun (n, rest) => ((n : Int), rest)

/-- An instant in the form of cookies, such as `Wed, 21-Oct-2015 07:28:00 GMT`. -/
def cookieDate? (t : Text) : Option Instant := do
  let (weekday, t) ← weekday? t
  let (day, t) ← digits? 1 2 (dropBlanks (← char? ',' t))
  let (month, t) ← month? (← char? '-' t)
  let (year, t) ← signedYear? (dropBlanks (← char? '-' t))
  let (hour, t) ← digits? 1 2 (dropBlanks t)
  let (minute, t) ← digits? 1 2 (dropBlanks (← char? ':' t))
  let (second, t) ← digits? 1 2 (dropBlanks (← char? ':' t))
  if dropBlanks t == "GMT".toList then
    Instant.ofDate? ⟨year, month, day⟩ ⟨hour, minute, second⟩ 0 (some weekday)
  else none

end PlainLink.Time
