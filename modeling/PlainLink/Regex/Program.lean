/-
# Programs

A program is an expression with its repetitions written out and with a number on each
set and each choice.  A search goes through a numbered place at most once at each
position of the text, since a second way through it could only lead where the first one
did.

The first round of a repetition and the later ones are the same part, with the same
numbers.  A round that took nothing comes back to a place that was gone through, and
ends there.
-/
import PlainLink.Regex.Expr

namespace PlainLink.Regex

inductive Node where
  | skip
  | set (id : Nat) (s : CharSet)
  | look (l : Look)
  /-- Remembers the position under a slot. -/
  | mark (slot : Nat)
  | seq (a b : Node)
  /-- The first branch is preferred. -/
  | fork (id : Nat) (a b : Node)
  /-- Another round through the body, or on; another round is preferred if `greedy`. -/
  | loop (id : Nat) (greedy : Bool) (body : Node)
  deriving Repr

namespace Node

/-- A choice between a part and nothing, the part being preferred if `greedy`. -/
def option (id : Nat) (greedy : Bool) (a : Node) : Node :=
  if greedy then fork id a skip else fork id skip a

/-- A part `count` times in a row, each time with numbers of its own. -/
def copies (part : Nat → Node × Nat) : (count next : Nat) → Node × Nat
  | 0, next => (skip, next)
  | count + 1, next =>
    let (a, next) := part next
    let (b, next) := copies part count next
    (seq a b, next)

/-- A part up to `count` times in a row, each time only after the one before. -/
def options (part : Nat → Node × Nat) (greedy : Bool) : (count next : Nat) → Node × Nat
  | 0, next => (skip, next)
  | count + 1, next =>
    let (a, after) := part (next + 1)
    let (b, last) := options part greedy count after
    (option next greedy (seq a b), last)

/-- A repetition written out.  A part that may take nothing is first chosen and then
repeated, so that a round without progress ends the repetition and keeps its place in the
order of preference. -/
def repetition (part : Nat → Node × Nat) (progresses greedy : Bool) (least : Nat) :
    Option Nat → (next : Nat) → Node × Nat
  | some most, next =>
    let (front, next) := copies part least next
    let (back, next) := options part greedy (most - least) next
    (seq front back, next)
  | none, next =>
    if least = 0 then
      let (body, after) := part (next + 2)
      let again := loop next greedy body
      (if progresses then again else option (next + 1) greedy (seq body again), after)
    else
      let (front, next) := copies part (least - 1) next
      let (body, next) := part next
      (seq front (seq body (loop next greedy body)), next + 1)

end Node

/-- The program of an expression, with numbers from `next` on, and the
first number left over. -/
def Expr.compile : Expr → (next : Nat) → Node × Nat
  | empty, next => (.skip, next)
  | set s, next => (.set next s, next + 1)
  | look l, next => (.look l, next)
  | group before e, next =>
    -- Group 0 is the whole match, whose slots stand around the program.
    let (a, next) := e.compile next
    (.seq (.mark (2 * before + 2)) (.seq a (.mark (2 * before + 3))), next)
  | seq a b, next =>
    let (a, next) := a.compile next
    let (b, next) := b.compile next
    (.seq a b, next)
  | alt a b, next =>
    let (a, after) := a.compile (next + 1)
    let (b, last) := b.compile after
    (.fork next a b, last)
  | rep least most greedy e, next =>
    Node.repetition e.compile e.takesSomething greedy least most next

end PlainLink.Regex
