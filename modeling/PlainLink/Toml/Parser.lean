/-
# Reading TOML

A document is read line by line: a header opens a table, and a key puts a value into the
table that is open.  Values and keys may not nest deeper than a fixed limit.

A key may be set once only, and a table be opened by a header once only; a table that
dotted keys began, or that stands in braces, cannot be opened or extended from
elsewhere.  So the reader takes every line against the document as it stands so far, and
a line that does not fit makes all of it malformed.
-/
import PlainLink.Toml.Scalar

namespace PlainLink.Toml

/-- Values nest, and keys have parts, fewer than this many deep. -/
def nestingLimit : Nat := 80

/-! ## Keys -/

/-- A character of a key without quotes. -/
def isBareChar (c : Char) : Bool :=
  c.isAlphanum || c == '-' || c == '_'

def readName (t : Text) : Option (Text × Text) :=
  match readQuoted t with
  | some found => some found
  | none =>
    let bare := t.takeWhile isBareChar
    if bare.isEmpty then none else some (bare, t.drop bare.length)

/-- The parts of a key between dots, with the blanks around them; each takes a character, so
that `steps` need not exceed the length. -/
def readNames : (steps : Nat) → Text → Option (List Text × Text)
  | 0, _ => none
  | steps + 1, t =>
    match readName (dropSpaces t) with
    | none => none
    | some (name, rest) =>
      match dropSpaces rest with
      | '.' :: rest => (readNames steps rest).map fun (names, rest) => (name :: names, rest)
      | rest => some ([name], rest)

/-- A key: the path in front of its last part, and that part. -/
def readKey (t : Text) : Option ((List Text × Text) × Text) := do
  let (names, rest) ← readNames (t.length + 1) t
  let last ← names.getLast?
  if nestingLimit ≤ names.length then none else return ((names.dropLast, last), rest)

/-! ## Values -/

/-- The text after blanks, ends of lines and comments; `inComment` tells that a comment is not
over.  A character that may not stand in a comment ends it, and is left. -/
def dropFiller : (inComment : Bool) → Text → Text
  | _, [] => []
  | _, '\r' :: '\n' :: rest => dropFiller false rest
  | _, '\n' :: rest => dropFiller false rest
  | true, c :: rest => if isPlain c then dropFiller true rest else c :: rest
  | false, c :: rest =>
    if c = '#' then dropFiller true rest
    else if isSpace c then dropFiller false rest
    else c :: rest

def readScalar (t : Text) : Option (Toml × Text) :=
  match t with
  | 't' :: rest => (Text.after? "rue".toList rest).map (bool true, ·)
  | 'f' :: rest => (Text.after? "alse".toList rest).map (bool false, ·)
  | c :: _ =>
    if c = '"' ∨ c = '\'' then (readText t).map fun (inner, rest) => (text inner, rest)
    else match afterMoment? t with
      | some rest => some (date, rest)
      | none => readNumber t
  | [] => none

mutual

/-- A value at the front of a text, that nests at most `room` deep.  Each step takes a
character or ends a list, so that `steps` need not exceed twice the length. -/
def readValue : (steps room : Nat) → Text → Option (Toml × Text)
  | 0, _, _ => none
  | steps + 1, room, t =>
    match t, room with
    | '[' :: _, 0 => none
    | '\x7b' :: _, 0 => none
    | '[' :: rest, room + 1 =>
      match dropFiller false rest with
      | ']' :: rest => some (array [], rest)
      | rest => readItems steps room [] rest
    | '\x7b' :: rest, room + 1 =>
      match dropSpaces rest with
      | '\x7d' :: rest => some (table .inline [], rest)
      | rest => readMembers steps room [] rest
    | _, _ => readScalar t

/-- The items of an array up to its closing bracket; `done` holds those read, latest first. -/
def readItems : (steps room : Nat) → List Toml → Text → Option (Toml × Text)
  | 0, _, _, _ => none
  | steps + 1, room, done, t =>
    match readValue steps room t with
    | none => none
    | some (item, rest) =>
      match dropFiller false rest with
      | ']' :: rest => some (array (item :: done).reverse, rest)
      | ',' :: rest =>
        match dropFiller false rest with
        | ']' :: rest => some (array (item :: done).reverse, rest)
        | rest => readItems steps room (item :: done) rest
      | _ => none

/-- The members of a table up to its closing brace; `done` holds those read. -/
def readMembers : (steps room : Nat) → Entries → Text → Option (Toml × Text)
  | 0, _, _, _ => none
  | steps + 1, room, done, t =>
    match readKey t with
    | some ((path, name), '=' :: rest) =>
      match readValue steps room (dropSpaces rest) with
      | none => none
      | some (value, rest) =>
        match addKey? path name value .inline done with
        | none => none
        | some done =>
          match dropSpaces rest with
          | '\x7d' :: rest => some (table .inline done, rest)
          | ',' :: rest => readMembers steps room done rest
          | _ => none
    | _ => none

end

/-! ## Lines -/

/-- The text after the end of a line, in front of which only a comment may stand. -/
def endLine? (t : Text) : Option Text :=
  let rest := match dropSpaces t with
    | '#' :: comment => comment.dropWhile isPlain
    | rest => rest
  if rest.isEmpty then some [] else newline? rest

/-- A document that is being read: what it holds, and the table that is open. -/
structure Draft where
  entries : Entries := []
  opened : List Text := []

namespace Draft

def openAt? (d : Draft) (openIn : Text → Entries → Option Entries) (path : List Text)
    (name : Text) : Option Draft :=
  (update? .header (fun _ => openIn name) path .header d.entries).map fun entries =>
    { entries, opened := path ++ [name] }

/-- Puts a value into the table that is open. -/
def add? (d : Draft) (path : List Text) (name : Text) (value : Toml) : Option Draft :=
  (update? .header (addKey? path name value) d.opened .header d.entries).map fun entries =>
    { d with entries }

/-- A header after its opening brackets, and what follows its closing ones. -/
def readHeader (d : Draft) (openIn : Text → Entries → Option Entries) (closing t : Text) :
    Option (Draft × Text) := do
  let ((path, name), rest) ← readKey t
  let rest ← Text.after? closing rest
  return (← d.openAt? openIn path name, rest)

/-- A key with its value, and what follows. -/
def readEntry (d : Draft) (t : Text) : Option (Draft × Text) := do
  let ((path, name), rest) ← readKey t
  let rest ← Text.after? ['='] rest
  let (value, rest) ← readValue (2 * rest.length + 2) (nestingLimit - 1) (dropSpaces rest)
  return (← d.add? path name value, rest)

/-- One line, without blanks at its front. -/
def readLine (d : Draft) (t : Text) : Option (Draft × Text) :=
  match t with
  | '[' :: '[' :: rest => d.readHeader openNext? "]]".toList rest
  | '[' :: rest => d.readHeader openTable? [']'] rest
  | c :: _ => if c = '#' ∨ c = '\n' ∨ c = '\r' then some (d, t) else d.readEntry t
  | [] => some (d, [])

/-- The rest of a document.  Each line takes a character, so that `steps` need not exceed the
length. -/
def readAll : (steps : Nat) → Draft → Text → Option Entries
  | 0, d, t => if t.isEmpty then some d.entries else none
  | steps + 1, d, t =>
    if t.isEmpty then some d.entries
    else match d.readLine (dropSpaces t) with
      | none => none
      | some (d, rest) =>
        match endLine? rest with
        | none => none
        | some rest => readAll steps d rest

end Draft

def parse? (t : Text) : Option Entries :=
  let t := (Text.after? ['\uFEFF'] t).getD t
  Draft.readAll t.length {} t

end PlainLink.Toml
