/-
# Rule patterns

A rule is a regular expression whose meaning depends on what it is used for.  It is
completed by what its use adds around it and keeps the text in which it was written:

    anchored       the sign for the beginning of the text in front of it
    queryField     the boundary of a field in front of it, and a value behind it
    redirection    the rest of the line behind it
    raw            nothing

What is added is put around the text of the rule before anything is read, and the text
itself into a group that remembers nothing.  A field rule may only delete a field that
it takes to its end, which is checked behind the match (`stripFields`): a match that
ends inside a name is put back.
-/
import PlainLink.Regex.Match

namespace PlainLink

inductive Use where
  /-- It recognises a text by its beginning. -/
  | anchored
  /-- It names a field of a query. -/
  | queryField
  /-- It matches anywhere. -/
  | raw
  /-- It takes the rest of the text as well, so that a substitution replaces it. -/
  | redirection
  deriving DecidableEq, Repr

structure Pattern where
  source : Text
  use : Use
  regex : Regex

namespace Pattern

/-- What may stand in front of a field's name: a separator, plain or escaped, or nothing at the
beginning. -/
def boundary : Text := "(%26|&|%23|#|\\?|^)".toList

/-- What may follow a field's name: an equals sign, plain or escaped, and the value. -/
def valuePart : Text := "(?:(?:=|%3[Dd])[^&#]*)?".toList

/-- A rule with what its use adds around it. -/
def completed (use : Use) (source : Text) : Text :=
  let grouped := "(?:".toList ++ source ++ [')']
  match use with
  | .anchored => '^' :: grouped
  | .queryField => boundary ++ grouped ++ valuePart
  | .raw => source
  | .redirection => grouped ++ ".*".toList

def compile (use : Use) (source : Text) : Except Regex.Error Pattern :=
  (Regex.compile (completed use source)).map fun regex => { source, use, regex }

/-- How many groups of the rule itself remember what they take. -/
def captureGroups (p : Pattern) : Nat :=
  p.regex.groupCount - (if p.use = .queryField then 1 else 0)

/-- The rule matches somewhere in the text. -/
def isMatch (p : Pattern) (text : Text) : Bool :=
  p.regex.isMatch text

/-- The text with each match replaced by its first group. -/
def substitute (p : Pattern) (text : Text) : Text :=
  p.regex.replaceAll (fun m => (m.group? 1).getD []) text

/-- A field ends where this text begins: at the end or at a separator, plain or escaped. -/
def endsField (rest : Text) : Bool :=
  match rest with
  | [] => true
  | '&' :: _ => true
  | '#' :: _ => true
  | '%' :: '2' :: '6' :: _ => true
  | '%' :: '2' :: '3' :: _ => true
  | _ => false

/-- The text without the fields that the rule names.  The boundary in front of a field stays,
and so does a match that ends inside a longer name. -/
def stripFields (p : Pattern) (text : Text) : Text :=
  p.regex.replaceAll (fun m => if endsField m.after then (m.group? 1).getD [] else m.taken) text

def stripAll (p : Pattern) (text : Text) : Text :=
  p.regex.replaceAll (fun _ => []) text

/-- The first group of the first match. -/
def firstGroup? (p : Pattern) (text : Text) : Option Text :=
  (p.regex.find? text).bind (·.group? 1)

end Pattern

end PlainLink
