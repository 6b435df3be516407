/-
# Properties of code points as run lengths

A property of code points holds on long stretches, so its table is written as the
lengths of these stretches, from code point 0 upwards.  This module reads such tables
and answers which stretch a code point lies in; the tables themselves stand in the
modules named for the properties.
-/

namespace PlainLink.Unicode

/-- A row of stretches: each begins at its key and ends where the next one begins. -/
structure Runs (α : Type) where
  starts : Array Nat
  values : Array α

namespace Runs

variable {α : Type}

/-- The stretches of the given lengths, beginning at code point 0. -/
def ofLengths (runs : List (Nat × α)) : Runs α :=
  let (_, starts, values) := runs.foldl
    (fun (next, starts, values) (length, value) =>
      (next + length, starts.push next, values.push value))
    (0, #[], #[])
  ⟨starts, values⟩

/-- How many of the keys between `low` and `high` are at most `n`, with those
below `low` counted. -/
def countUpTo (starts : Array Nat) (n low high : Nat) : Nat :=
  if h : low < high then
    let middle := (low + high) / 2
    if starts.getD middle 0 ≤ n then countUpTo starts n (middle + 1) high
    else countUpTo starts n low middle
  else low
termination_by high - low

/-- The value on the stretch that `n` lies in. -/
def find? (runs : Runs α) (n : Nat) : Option α :=
  runs.values[countUpTo runs.starts n 0 runs.starts.size - 1]?

end Runs

/-- The decimal numbers of a text that are separated by blanks. -/
def numbers (table : String) : List Nat :=
  let (done, current) := table.toList.foldl
    (fun (done, current) c =>
      if c.isDigit then (done, some (10 * current.getD 0 + (c.toNat - '0'.toNat)))
      else (current.toList ++ done, none))
    (([] : List Nat), (none : Option Nat))
  (current.toList ++ done).reverse

/-- A set of code points, from the lengths of the stretches outside and inside it in turn. -/
def setOfLengths (table : String) : Runs Bool :=
  Runs.ofLengths ((numbers table).zipIdx.map fun (length, i) => (length, i % 2 == 1))

/-- The code point lies in the set. -/
def Runs.contains (runs : Runs Bool) (n : Nat) : Bool :=
  (runs.find? n).getD false

end PlainLink.Unicode
