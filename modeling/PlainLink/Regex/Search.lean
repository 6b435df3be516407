/-
# Searching

A search moves through the text once.  At each position it holds the ways in which a
match could go on, in the order of preference; a way that reaches the end of the program
is a match, and all ways after it are dropped.  So the match that begins first is found
and, of those, the preferred one.

As long as no match is found, a new way starts at each position, behind the older ones.
The time that a search takes is bounded by the length of the text times the size of the
program, whatever the pattern is.
-/
import PlainLink.Regex.Program

namespace PlainLink.Regex

/-- Positions remembered under slots, latest first. -/
abbrev Marks := List (Nat × Nat)

/-- A way in which a match could go on: by a character of the set, and then by the rest. -/
structure Way where
  set : CharSet
  rest : List Node
  marks : Marks

/-- A position between two characters. -/
structure Place where
  index : Nat
  before : Option Char
  after : Option Char

/-- What is known at a position: the numbered places gone through, the ways found (latest
first), and the match that ends here. -/
structure Front where
  seen : Nat
  ways : List Way
  found : Option Marks

def Front.start : Front := ⟨0, [], none⟩

/-- The place with this number was gone through, or a match was found before it. -/
def Front.closed (f : Front) (id : Nat) : Bool :=
  f.found.isSome || f.seen.testBit id

/-- Notes a numbered place as gone through. -/
def Front.visit (f : Front) (id : Nat) : Front :=
  { f with seen := f.seen ||| (1 <<< id) }

/-- Goes through a part without taking a character.  `rest` is what follows the part in the
program, and `onward` goes through it. -/
def Node.enter (p : Place) : Node → (rest : List Node) → (onward : Marks → Front → Front) →
    Marks → Front → Front
  | skip, _, onward => onward
  | set id s, rest, _ => fun marks f =>
    if f.closed id then f
    else { f.visit id with ways := ⟨s, rest, marks⟩ :: f.ways }
  | look l, _, onward => fun marks f =>
    if l.holds p.before p.after then onward marks f else f
  | mark slot, _, onward => fun marks f => onward ((slot, p.index) :: marks) f
  | seq a b, rest, onward => a.enter p (b :: rest) (b.enter p rest onward)
  | fork id a b, rest, onward => fun marks f =>
    if f.closed id then f
    else b.enter p rest onward marks (a.enter p rest onward marks (f.visit id))
  | loop id greedy body, rest, onward => fun marks f =>
    if f.closed id then f
    else
      -- The body leads back to this place, which is gone through by then.
      let again := body.enter p (loop id greedy body :: rest) fun _ f => f
      if greedy then onward marks (again marks (f.visit id))
      else again marks (onward marks (f.visit id))

/-- Goes through a row of parts; at its end a match is found. -/
def enterAll (p : Place) : List Node → Marks → Front → Front
  | [] => fun marks f => if f.found.isSome then f else { f with found := some marks }
  | n :: ns => n.enter p ns (enterAll p ns)

/-- Lets each way take the character `c`, the preferred ones first. -/
def advance (p : Place) (c : Char) : List Way → Front → Front
  | [], f => f
  | w :: ws, f =>
    if f.found.isSome then f
    else if w.set.test c then advance p c ws (enterAll p w.rest w.marks f)
    else advance p c ws f

/-- Searches on from a position: `best` is the match found so far, and `ways` those that are
still preferred to it.  Only before the first match does a new one begin at each position. -/
def scan (program : List Node) (index : Nat) (best : Option Marks) (ways : List Way) :
    Text → Option Marks
  | [] => best
  | c :: rest =>
    if best.isSome && ways.isEmpty then best
    else
      let p : Place := ⟨index + 1, some c, rest.head?⟩
      let f := advance p c ways Front.start
      let f := if best.isNone then enterAll p program [] f else f
      scan program (index + 1) (f.found.or best) f.ways.reverse rest

/-- The first match at or after the beginning of `text`, which stands at
`index` after `before`. -/
def search (program : List Node) (index : Nat) (before : Option Char) (text : Text) :
    Option Marks :=
  let f := enterAll ⟨index, before, text.head?⟩ program [] Front.start
  scan program index f.found f.ways.reverse text

end PlainLink.Regex
