/-
# Regular expressions

The meaning of a pattern, once flags and spelling are resolved: case has become part of
the sets, and a dot the set of what it takes.

A compiled pattern may not grow past a limit.  `Expr.size` is an estimate of what it
takes, part by part and with repetitions written out, and not the size of any particular
program.  Patterns near the limit may therefore be refused, or let in, where another
compiler would do the opposite.
-/
import PlainLink.Regex.CharSet
import PlainLink.Regex.Look

namespace PlainLink.Regex

inductive Expr where
  | empty
  | set (s : CharSet)
  | look (l : Look)
  /-- Remembers what the part inside takes, as the group after `before` others. -/
  | group (before : Nat) (e : Expr)
  | seq (a b : Expr)
  /-- The first alternative is preferred. -/
  | alt (a b : Expr)
  /-- From `least` to `most` times in a row, more being preferred if `greedy`. -/
  | rep (least : Nat) (most : Option Nat) (greedy : Bool) (e : Expr)
  deriving DecidableEq, Repr

namespace Expr

/-- The expressions one after the other. -/
def seqOf : List Expr → Expr
  | [] => empty
  | [e] => e
  | e :: es => seq e (seqOf es)

/-- The expressions as alternatives, in the order of preference. -/
def altOf : List Expr → Expr
  | [] => empty
  | [e] => e
  | e :: es => alt e (altOf es)

/-- The expression never takes a character. -/
def takesNothing : Expr → Bool
  | empty => true
  | set _ => false
  | look _ => true
  | group _ e => e.takesNothing
  | seq a b => a.takesNothing && b.takesNothing
  | alt a b => a.takesNothing && b.takesNothing
  | rep _ _ _ e => e.takesNothing

/-- The expression always takes a character. -/
def takesSomething : Expr → Bool
  | empty => false
  | set _ => true
  | look _ => false
  | group _ e => e.takesSomething
  | seq a b => a.takesSomething || b.takesSomething
  | alt a b => a.takesSomething && b.takesSomething
  | rep least _ _ e => 0 < least && e.takesSomething

/-- A repetition in its simplest form: what takes nothing is not repeated, and a part that
never occurs or occurs once is no repetition. -/
def repeated (least : Nat) (most : Option Nat) (greedy : Bool) (e : Expr) : Expr :=
  let (least, most) :=
    if e.takesNothing then (min least 1, some (min (most.getD 1) 1)) else (least, most)
  if most = some 0 then empty
  else if least = 1 ∧ most = some 1 then e
  else rep least most greedy e

def lastGroup : Expr → Nat
  | empty => 0
  | set _ => 0
  | look _ => 0
  | group before e => max (before + 1) e.lastGroup
  | seq a b => max a.lastGroup b.lastGroup
  | alt a b => max a.lastGroup b.lastGroup
  | rep _ _ _ e => e.lastGroup

/-! ## Size -/

/-- The room that a set takes, in bytes of a table of states. -/
def setSize : CharSet → Nat
  | .none => 32
  | .char c => 32 * c.utf8Size
  | .range _ high => if high.val < 128 then 40 else 400
  | .digit => 4000
  | .blank => 600
  | .word => 48000
  | .property _ => 20000
  | .union a b => setSize a + setSize b
  | .inter a b => setSize a + setSize b
  | .minus a b => setSize a + setSize b
  | .differ a b => setSize a + setSize b
  | .compl a => 400 + setSize a
  | .caseless a => 2 * setSize a
  | .asciiCaseless a => setSize a

/-- The room that an expression takes when its repetitions are written out. -/
def size : Expr → Nat
  | empty => 32
  | set s => setSize s
  | look _ => 32
  | group _ e => e.size + 64
  | seq a b => a.size + b.size
  | alt a b => a.size + b.size + 40
  | rep least most _ e => max 1 (most.getD least) * (e.size + 40)

/-- The room that an expression may take. -/
def sizeLimit : Nat := 10 * 1024 * 1024

end Expr

end PlainLink.Regex
