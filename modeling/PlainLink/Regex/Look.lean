/-
# Conditions on a place

A pattern can ask about a place between two characters without taking any of them:
whether the text or a line begins or ends there, and whether a word does.  The two
neighbours of the place are all that is ever looked at.
-/
import PlainLink.Text.Basic
import PlainLink.Unicode.Alphabetic

namespace PlainLink.Regex

/-- A condition on a place.  Words are those of Unicode, or of ASCII if `ascii` is set. -/
inductive Look where
  | textStart
  | textEnd
  | lineStart
  | lineEnd
  /-- Lines end with a carriage return, a line feed, or both. -/
  | lineStartCrlf
  | lineEndCrlf
  | wordEdge (ascii : Bool)
  | noWordEdge (ascii : Bool)
  | wordStart (ascii : Bool)
  | wordEnd (ascii : Bool)
  | noWordBefore (ascii : Bool)
  | noWordAfter (ascii : Bool)
  deriving DecidableEq, Repr

/-- The neighbour is there and belongs to a word. -/
def inWord (ascii : Bool) (c : Option Char) : Bool :=
  c.any fun c => if ascii then c.isAlphanum || c == '_' else Unicode.isWord c

/-- The condition holds between the two neighbours of a place. -/
def Look.holds (before after : Option Char) : Look → Bool
  | textStart => before.isNone
  | textEnd => after.isNone
  | lineStart => before.isNone || before == some '\n'
  | lineEnd => after.isNone || after == some '\n'
  | lineStartCrlf =>
    before.isNone || before == some '\n' || (before == some '\r' && after != some '\n')
  | lineEndCrlf =>
    after.isNone || after == some '\r' || (after == some '\n' && before != some '\r')
  | wordEdge ascii => inWord ascii before != inWord ascii after
  | noWordEdge ascii => inWord ascii before == inWord ascii after
  | wordStart ascii => !inWord ascii before && inWord ascii after
  | wordEnd ascii => inWord ascii before && !inWord ascii after
  | noWordBefore ascii => !inWord ascii before
  | noWordAfter ascii => !inWord ascii after

end PlainLink.Regex
