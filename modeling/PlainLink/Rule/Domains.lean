/-
# Sets of domains

A domain is put into a set, and looked up in it, in one form: without dots in front and
without capitals.  The set is kept in rising order, so that two sets of the same domains
are the same.

A lookup is for the domain alone, and not for the hosts below it.
-/
import PlainLink.Text.Basic

namespace PlainLink

/-- The first text comes before the second in the order of code points. -/
def Text.before : Text → Text → Bool
  | _, [] => false
  | [], _ :: _ => true
  | a :: s, b :: t => if a = b then Text.before s t else a < b

structure Domains where
  /-- In rising order and in normal form. -/
  hosts : List Text
  deriving DecidableEq, Repr

namespace Domains

def empty : Domains := ⟨[]⟩

def normal (host : Text) : Text :=
  Text.lower (host.dropWhile (· == '.'))

/-- Puts a text into a rising list, unless it is there. -/
def place (host : Text) : List Text → List Text
  | [] => [host]
  | h :: rest =>
    if host = h then h :: rest
    else if Text.before host h then host :: h :: rest
    else h :: place host rest

theorem mem_place {host h : Text} {hosts : List Text} :
    h ∈ place host hosts ↔ h = host ∨ h ∈ hosts := by
  induction hosts with
  | nil => simp [place]
  | cons first rest ih =>
    unfold place
    split
    · next hf => simp [hf]
    · split
      · simp
      · simp only [List.mem_cons, ih]
        exact or_left_comm

def contains (d : Domains) (host : Text) : Bool :=
  d.hosts.contains (normal host)

def insert (d : Domains) (host : Text) : Domains :=
  ⟨place (normal host) d.hosts⟩

theorem contains_insert (d : Domains) (host other : Text) :
    (d.insert host).contains other = (normal other == normal host || d.contains other) := by
  rw [Bool.eq_iff_iff]
  simp [contains, insert, mem_place]

def insertAll (d : Domains) (hosts : List Text) : Domains :=
  hosts.foldl insert d

def ofList (hosts : List Text) : Domains :=
  empty.insertAll hosts

/-- The domains of both sets.  Those of the second are in normal form already. -/
def absorb (d other : Domains) : Domains :=
  ⟨other.hosts.foldl (fun hosts host => place host hosts) d.hosts⟩

def size (d : Domains) : Nat :=
  d.hosts.length

/-- Puts a domain in, and tells whether the set has grown by it. -/
def add (d : Domains) (host : Text) : Bool × Domains :=
  let more := d.insert host
  (d.size < more.size, more)

def isEmpty (d : Domains) : Bool :=
  d.hosts.isEmpty

end Domains

end PlainLink
