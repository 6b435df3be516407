/-
# Sets of characters

What a pattern allows at one place is a set, written as an expression: single
characters, ranges, properties, and the operations on sets.  A set is only ever asked
whether it holds a character (`CharSet.test`), so that the tables of the properties are
asked one character at a time, and no set is ever written out.
-/
import PlainLink.Text.Basic
import PlainLink.Unicode.Alphabetic
import PlainLink.Unicode.Folding

namespace PlainLink.Regex

/-- A property that a pattern can name. -/
inductive Property where
  | any
  | ascii
  | assigned
  | alphabetic
  | blank
  | casedLetter
  | category (k : Unicode.Category)
  | group (letter : Char)
  deriving DecidableEq, Repr

/-- The character has the property. -/
def Property.test (c : Char) : Property → Bool
  | any => true
  | ascii => c.val < 128
  | assigned => Unicode.category c != .unassigned
  | alphabetic => Unicode.isAlphabetic c
  | blank => Text.isBlank c
  | casedLetter =>
    [Unicode.Category.uppercaseLetter, .lowercaseLetter, .titlecaseLetter].contains
      (Unicode.category c)
  | category k => Unicode.category c == k
  | group letter => (Unicode.category c).group == letter

inductive CharSet where
  | none
  | char (c : Char)
  | range (low high : Char)
  | digit
  | blank
  | word
  | property (p : Property)
  | union (a b : CharSet)
  | inter (a b : CharSet)
  | minus (a b : CharSet)
  | differ (a b : CharSet)
  | compl (a : CharSet)
  /-- With the variants in case of each member. -/
  | caseless (a : CharSet)
  /-- With the ASCII letters of the other case. -/
  | asciiCaseless (a : CharSet)
  deriving DecidableEq, Repr

namespace CharSet

/-- The set holds the character. -/
def test : CharSet → Char → Bool
  | none, _ => false
  | char d, c => c == d
  | range low high, c => low ≤ c && c ≤ high
  | digit, c => Unicode.isDecimal c
  | blank, c => Text.isBlank c
  | word, c => Unicode.isWord c
  | property p, c => p.test c
  | union a b, c => a.test c || b.test c
  | inter a b, c => a.test c && b.test c
  | minus a b, c => a.test c && !b.test c
  | differ a b, c => a.test c != b.test c
  | compl a, c => !a.test c
  | caseless a, c => a.test c || (Unicode.caseVariants c).any a.test
  | asciiCaseless a, c => a.test c || a.test c.toLower || a.test c.toUpper

def all : CharSet := compl none

/-- Every character but those given. -/
def except (cs : List Char) : CharSet :=
  compl (cs.foldl (fun s c => union s (char c)) none)

/-- The members of any of the ranges. -/
def ranges : List (Char × Char) → CharSet
  | [] => none
  | [(low, high)] => range low high
  | (low, high) :: more => union (range low high) (ranges more)

/-! ## Classes of ASCII characters -/

def ascii : CharSet := range '\x00' '\x7f'

def asciiDigit : CharSet := range '0' '9'

def asciiBlank : CharSet := ranges [('\t', '\r'), (' ', ' ')]

/-- The ASCII letters and digits, and the underscore. -/
def asciiWord : CharSet := ranges [('0', '9'), ('A', 'Z'), ('_', '_'), ('a', 'z')]

/-- A class of ASCII characters by the name that it has between `[:` and `:]`. -/
def asciiClass? (name : Text) : Option CharSet :=
  [ ("alnum", ranges [('0', '9'), ('A', 'Z'), ('a', 'z')]),
    ("alpha", ranges [('A', 'Z'), ('a', 'z')]),
    ("ascii", ascii),
    ("blank", ranges [('\t', '\t'), (' ', ' ')]),
    ("cntrl", ranges [('\x00', '\x1f'), ('\x7f', '\x7f')]),
    ("digit", asciiDigit),
    ("graph", range '!' '~'),
    ("lower", range 'a' 'z'),
    ("print", range ' ' '~'),
    ("punct", ranges [('!', '/'), (':', '@'), ('[', '\x60'), ('\x7b', '~')]),
    ("space", asciiBlank),
    ("upper", range 'A' 'Z'),
    ("word", asciiWord),
    ("xdigit", ranges [('0', '9'), ('A', 'F'), ('a', 'f')])
  ].findSome? fun (known, set) => if known.toList = name then some set else Option.none

/-- The set holds no character between U+0080 and U+00FF.  For a set built from ASCII classes
and characters up to U+00FF this means that it holds ASCII characters only. -/
def staysInAscii (s : CharSet) : Bool :=
  (List.range 128).all fun i => !s.test (Char.ofNat (128 + i))

end CharSet

end PlainLink.Regex
