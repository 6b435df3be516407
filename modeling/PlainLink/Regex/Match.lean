/-
# Matches and replacement

A compiled pattern finds its matches in a text from left to right, none overlapping
another.  An empty match directly behind the one before it does not count.  Replacing
puts a text in the place of each match and keeps what lies between them.

A match holds the positions that the search has marked, of the whole and of each group
that took part.  What a group took is read off them (`Match.group?`), and a group that
took no part has none.
-/
import PlainLink.Regex.Parser
import PlainLink.Regex.Search

namespace PlainLink

structure Regex where
  expr : Regex.Expr
  program : List Regex.Node
  /-- The program is that of the expression, between the marks of the whole match. -/
  program_eq : program = [.mark 0, (expr.compile 0).1, .mark 1]

namespace Regex

def compile (pattern : Text) : Except Error Regex := do
  let expr ← Expr.parse pattern
  return ⟨expr, [.mark 0, (expr.compile 0).1, .mark 1], rfl⟩

/-- How many groups remember what they take. -/
def groupCount (r : Regex) : Nat :=
  r.expr.lastGroup

/-- A match in a text that began at the position `base`. -/
structure Match where
  base : Nat
  text : Text
  marks : Marks

namespace Match

/-- The latest position under a slot. -/
def position? (m : Match) (slot : Nat) : Option Nat :=
  (m.marks.find? (·.1 == slot)).map (·.2)

/-- What the group with the given number took last; group 0 is the whole match. -/
def group? (m : Match) (i : Nat) : Option Text := do
  let start ← m.position? (2 * i)
  let stop ← m.position? (2 * i + 1)
  return (m.text.drop (start - m.base)).take (stop - start)

def taken (m : Match) : Text :=
  (m.group? 0).getD []

def before (m : Match) : Text :=
  m.text.take ((m.position? 0).getD m.base - m.base)

def after (m : Match) : Text :=
  m.text.drop ((m.position? 1).getD m.base - m.base)

end Match

/-- The first match in a text that stands at `base` after the character `before`. -/
def findFrom? (r : Regex) (base : Nat) (before : Option Char) (text : Text) : Option Match :=
  (search r.program base before text).map (⟨base, text, ·⟩)

def find? (r : Regex) (text : Text) : Option Match :=
  r.findFrom? 0 none text

def isMatch (r : Regex) (text : Text) : Bool :=
  (r.find? text).isSome

/-- The last character before the end of a text, or `c` if it is empty. -/
def lastOr (c : Option Char) (text : Text) : Option Char :=
  text.getLast?.or c

/-- Puts `f m` in the place of each match `m` from a position on.  `behindMatch` tells
that a match has just ended here.  Each step takes a character, so that `steps` need
not exceed the length. -/
def replaceFrom (r : Regex) (f : Match → Text) : (steps base : Nat) → Option Char →
    Bool → Text → Text
  | 0, _, _, _, text => text
  | steps + 1, base, before, behindMatch, text =>
    match r.findFrom? base before text with
    | none => text
    | some m =>
      let skipped := m.before
      let taken := m.taken
      let stop := base + skipped.length + taken.length
      let last := lastOr (lastOr before skipped) taken
      if !taken.isEmpty then
        skipped ++ f m ++ replaceFrom r f steps stop last true m.after
      else
        let here := if behindMatch && skipped.isEmpty then [] else f m
        match m.after with
        | [] => skipped ++ here
        | c :: rest =>
          skipped ++ here ++ c :: replaceFrom r f steps (stop + 1) (some c) false rest

/-- Puts `f m` in the place of each match `m`. -/
def replaceAll (r : Regex) (f : Match → Text) (text : Text) : Text :=
  replaceFrom r f (text.length + 1) 0 none false text

end Regex

end PlainLink
