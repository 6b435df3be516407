/-
# Flags and escapes in patterns

The flags that hold at a place of a pattern, and the reading of what follows a backslash
there.

Of the properties that can be named after `p` those are known that have a table of their
own or are put together from such tables: the general categories with their groups,
`Any`, `ASCII`, `Assigned`, letters, and blanks (`propertyNamed?`).  Scripts, ages and
most of the binary properties, such as `Lowercase`, have no table here, and a pattern
that names one is refused as if there were no such property.  None of the rules that
come with the library names any.
-/
import PlainLink.Regex.Expr

namespace PlainLink.Regex

inductive Error where
  | groupNotClosed
  | groupNotOpened
  | badGroupName
  | groupNamedTwice
  | lookAround
  | backReference
  | badFlags
  | nothingToRepeat
  | badCount
  | badEscape
  | unknownProperty
  | classNotClosed
  | badRange
  | badClassItem
  /-- Outside Unicode mode the pattern could match part of a character. -/
  | notText
  | nestedTooDeep
  | tooLarge
  deriving DecidableEq, Repr

/-- The flags that hold at a place of a pattern. -/
structure Flags where
  caseless : Bool := false
  multiLine : Bool := false
  dotAll : Bool := false
  swapGreed : Bool := false
  unicode : Bool := true
  crlf : Bool := false
  spaced : Bool := false
  deriving DecidableEq, Repr

/-- Sets the flag that a letter names; `none` for any other letter. -/
def Flags.set? (f : Flags) (value : Bool) : Char → Option Flags
  | 'i' => some { f with caseless := value }
  | 'm' => some { f with multiLine := value }
  | 's' => some { f with dotAll := value }
  | 'U' => some { f with swapGreed := value }
  | 'u' => some { f with unicode := value }
  | 'R' => some { f with crlf := value }
  | 'x' => some { f with spaced := value }
  | _ => none

/-- Leaves out blanks, and comments up to the end of their line; `inComment`
tells that one runs. -/
def dropSpaceAnd : (inComment : Bool) → List Char → List Char
  | _, [] => []
  | true, c :: rest => dropSpaceAnd (c != '\n') rest
  | false, c :: rest =>
    if Text.isBlank c then dropSpaceAnd false rest
    else if c = '#' then dropSpaceAnd true rest
    else c :: rest

/-- Leaves out blanks and comments where the flags say that they mean nothing. -/
def Flags.skip (f : Flags) (t : List Char) : List Char :=
  if f.spaced then dropSpaceAnd false t else t

/-- What one character, escape or class means by itself.  A byte is a character up to U+00FF
that was written by its number outside Unicode mode. -/
inductive Atom where
  | char (c : Char)
  | byte (c : Char)
  | set (s : CharSet)
  | look (l : Look)
  deriving Repr

/-! ## Characters by number -/

def charOf? (n : Nat) : Except Error Char :=
  if n.isValidChar then .ok (Char.ofNat n) else .error .badEscape

/-- Hexadecimal digits up to a closing brace. -/
def bracedHex (f : Flags) (digits : List Char) : List Char → Except Error (Nat × List Char)
  | [] => .error .badEscape
  | c :: rest =>
    if c = '\x7d' then
      match digits, Text.hexNumber? digits.reverse with
      | [], _ => .error .badEscape
      | _, none => .error .badEscape
      | _, some n => .ok (n, rest)
    else if f.spaced && Text.isBlank c then bracedHex f digits rest
    else bracedHex f (c :: digits) rest

/-- A given number of hexadecimal digits. -/
def fixedHex (f : Flags) : (count value : Nat) → List Char → Except Error (Nat × List Char)
  | 0, value, t => .ok (value, t)
  | count + 1, value, t =>
    match f.skip t with
    | [] => .error .badEscape
    | c :: rest =>
      match Text.hexValue? c with
      | none => .error .badEscape
      | some d => fixedHex f count (16 * value + d) rest

/-- A character by its number, after `x`, `u` or `U`, which take two, four or eight digits. -/
def numbered (f : Flags) (digits : Nat) (t : List Char) : Except Error (Atom × List Char) := do
  match f.skip t with
  | '\x7b' :: rest =>
    let (n, rest) ← bracedHex f [] rest
    return (.char (← charOf? n), rest)
  | t =>
    let (n, rest) ← fixedHex f digits 0 t
    let c ← charOf? n
    return (if !f.unicode && digits = 2 && 127 < n then .byte c else .char c, rest)

/-! ## Properties -/

/-- The letters and digits of a name, in lower case and without a leading `is`. -/
def looseName (name : List Char) : Text :=
  let plain := (name.filter fun c => c.val < 128 && c != ' ' && c != '_' && c !=
      '-').map Char.toLower
  match plain with
  | 'i' :: 's' :: c :: rest => if c = 'c' && rest.isEmpty then plain else c :: rest
  | _ => plain

/-- The general categories by their short and long names. -/
def categoryNames : List (String × String × Property) :=
  [ ("lu", "uppercaseletter", .category .uppercaseLetter),
    ("ll", "lowercaseletter", .category .lowercaseLetter),
    ("lt", "titlecaseletter", .category .titlecaseLetter),
    ("lc", "casedletter", .casedLetter),
    ("lm", "modifierletter", .category .modifierLetter),
    ("lo", "otherletter", .category .otherLetter),
    ("l", "letter", .group 'L'),
    ("mn", "nonspacingmark", .category .nonspacingMark),
    ("mc", "spacingmark", .category .spacingMark),
    ("me", "enclosingmark", .category .enclosingMark),
    ("m", "mark", .group 'M'),
    ("nd", "decimalnumber", .category .decimalNumber),
    ("nl", "letternumber", .category .letterNumber),
    ("no", "othernumber", .category .otherNumber),
    ("n", "number", .group 'N'),
    ("pc", "connectorpunctuation", .category .connectorPunctuation),
    ("pd", "dashpunctuation", .category .dashPunctuation),
    ("ps", "openpunctuation", .category .openPunctuation),
    ("pe", "closepunctuation", .category .closePunctuation),
    ("pi", "initialpunctuation", .category .initialPunctuation),
    ("pf", "finalpunctuation", .category .finalPunctuation),
    ("po", "otherpunctuation", .category .otherPunctuation),
    ("p", "punctuation", .group 'P'),
    ("sm", "mathsymbol", .category .mathSymbol),
    ("sc", "currencysymbol", .category .currencySymbol),
    ("sk", "modifiersymbol", .category .modifierSymbol),
    ("so", "othersymbol", .category .otherSymbol),
    ("s", "symbol", .group 'S'),
    ("zs", "spaceseparator", .category .spaceSeparator),
    ("zl", "lineseparator", .category .lineSeparator),
    ("zp", "paragraphseparator", .category .paragraphSeparator),
    ("z", "separator", .group 'Z'),
    ("cc", "control", .category .control),
    ("cf", "format", .category .format),
    ("co", "privateuse", .category .privateUse),
    ("cn", "unassigned", .category .unassigned),
    ("c", "other", .group 'C'),
    ("any", "any", .any),
    ("ascii", "ascii", .ascii),
    ("assigned", "assigned", .assigned) ]

/-- The properties by their other names. -/
def binaryNames : List (String × Property) :=
  [ ("alpha", .alphabetic), ("alphabetic", .alphabetic),
    ("whitespace", .blank), ("space", .blank), ("wspace", .blank) ]

def categoryNamed? (name : Text) : Option Property :=
  categoryNames.findSome? fun (short, long, p) =>
    if short.toList = name || long.toList = name then some p else none

/-- A property by its loose name. -/
def propertyNamed? (name : Text) : Option Property :=
  (binaryNames.findSome? fun (known, p) => if known.toList = name then some p else none)
    <|> categoryNamed? name

/-- The set that a text between braces names: a property, or the value of one after `=`, `:`
or, for the complement, `!=`. -/
def propertySet (name : List Char) : Except Error CharSet :=
  let valued (key value : List Char) : Except Error CharSet :=
    if ["gc", "generalcategory"].any (·.toList = looseName key) then
      match categoryNamed? (looseName value) with
      | some p => .ok (.property p)
      | none => .error .unknownProperty
    else .error .unknownProperty
  match Text.splitFirst? ':' name with
  | some (key, value) => valued key value
  | none =>
    match Text.splitFirst? '=' name with
    | some (key, value) =>
      if key.getLast? = some '!' then (valued key.dropLast value).map .compl
        else valued key value
    | none =>
      match propertyNamed? (looseName name) with
      | some p => .ok (.property p)
      | none => .error .unknownProperty

/-- A property after `p` or `P`: one letter, or a name between braces. -/
def propertyEscape (f : Flags) (negated : Bool) (t : List Char) :
    Except Error (Atom × List Char) := do
  let (name, rest) ← match f.skip t with
    | [] => .error .badEscape
    | '\x7b' :: rest =>
      match Text.splitFirst? '\x7d' rest with
      | none => .error .badEscape
      | some (name, rest) => .ok (f.skip name, rest)
    | '\\' :: _ => .error .unknownProperty
    | c :: rest => .ok ([c], rest)
  if !f.unicode then .error .notText
  let s ← propertySet name
  let s := if f.caseless then .caseless s else s
  return (.set (if negated then .compl s else s), rest)

/-! ## Classes and conditions -/

/-- The class of digits, blanks or word characters, or its complement. -/
def perlClass (f : Flags) (wide narrow : CharSet) (negated : Bool) : CharSet :=
  let s := if f.unicode then wide else narrow
  if negated then .compl s else s

/-- The condition named between braces after `b`.  Without a name there, the
brace is left alone. -/
def boundary (f : Flags) (t : List Char) : Except Error (Atom × List Char) :=
  let ascii := !f.unicode
  let plain : Except Error (Atom × List Char) := .ok (.look (.wordEdge ascii), t)
  match t with
  | '\x7b' :: rest =>
    match f.skip rest with
    | [] => .error .badEscape
    | c :: more =>
      if !(c.isAlpha || c == '-') then plain
      else
        let (name, after) := Text.cutBefore (fun d => !(d.isAlpha || d == '-')) (c :: more)
        match f.skip after with
        | '\x7d' :: rest =>
          match [("start", Look.wordStart ascii), ("end", .wordEnd ascii),
              ("start-half", .noWordBefore ascii), ("end-half", .noWordAfter ascii)].find?
                fun (known, _) => known.toList = name with
          | some (_, l) => .ok (.look l, rest)
          | none => .error .badEscape
        | _ => .error .badEscape
  | _ => plain

/-- A character that means itself after a backslash. -/
def isEscapable (c : Char) : Bool :=
  c.val < 128 && !c.isAlphanum && c != '<' && c != '>'

def escape (f : Flags) : List Char → Except Error (Atom × List Char)
  | [] => .error .badEscape
  | c :: rest =>
    if c.isDigit then .error .backReference
    else if isEscapable c then .ok (.char c, rest)
    else match c with
      | 'x' => numbered f 2 rest
      | 'u' => numbered f 4 rest
      | 'U' => numbered f 8 rest
      | 'p' => propertyEscape f false rest
      | 'P' => propertyEscape f true rest
      | 'd' => .ok (.set (perlClass f .digit .asciiDigit false), rest)
      | 'D' => .ok (.set (perlClass f .digit .asciiDigit true), rest)
      | 's' => .ok (.set (perlClass f .blank .asciiBlank false), rest)
      | 'S' => .ok (.set (perlClass f .blank .asciiBlank true), rest)
      | 'w' => .ok (.set (perlClass f .word .asciiWord false), rest)
      | 'W' => .ok (.set (perlClass f .word .asciiWord true), rest)
      | 'a' => .ok (.char '\x07', rest)
      | 'f' => .ok (.char '\x0c', rest)
      | 't' => .ok (.char '\t', rest)
      | 'n' => .ok (.char '\n', rest)
      | 'r' => .ok (.char '\r', rest)
      | 'v' => .ok (.char '\x0b', rest)
      | 'A' => .ok (.look .textStart, rest)
      | 'z' => .ok (.look .textEnd, rest)
      | 'b' => boundary f rest
      | 'B' => .ok (.look (.noWordEdge !f.unicode), rest)
      | '<' => .ok (.look (.wordStart !f.unicode), rest)
      | '>' => .ok (.look (.wordEnd !f.unicode), rest)
      | _ => .error .badEscape

end PlainLink.Regex
