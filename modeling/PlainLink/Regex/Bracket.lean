/-
# Classes between brackets

A class lists characters, ranges, escapes and further classes, and can combine what it
has listed with `&&`, `--` and `~~`.  A complement is taken last, after the variants in
case are added.

The operators have one rank and go from left to right.  A closing bracket that stands
first is an item, and so are hyphens at both ends.
-/
import PlainLink.Regex.Escape

namespace PlainLink.Regex

/-- How two parts of a class are combined. -/
inductive Combination where
  | inter
  | minus
  | differ

def Combination.apply : Combination → CharSet → CharSet → CharSet
  | inter, a, b => .inter a b
  | minus, a, b => .minus a b
  | differ, a, b => .differ a b

/-- The set with its variants in case, where the flags ask for them. -/
def Flags.fold (f : Flags) (s : CharSet) : CharSet :=
  if !f.caseless then s else if f.unicode then .caseless s else .asciiCaseless s

/-- A set made fit for the mode: outside Unicode mode it may hold ASCII characters only. -/
def Flags.fit (f : Flags) (s : CharSet) : Except Error CharSet :=
  if f.unicode then .ok s
  else if s.staysInAscii then .ok (.inter .ascii s)
  else .error .notText

/-- A class that is being read: what is listed since the last combination, and the
combination that waits for it. -/
structure Listing where
  items : List CharSet
  waiting : Option (Combination × CharSet)

namespace Listing

def add (l : Listing) (s : CharSet) : Listing :=
  { l with items := s :: l.items }

/-- The set listed so far, with the waiting combination carried out. -/
def result (f : Flags) (l : Listing) : CharSet :=
  let listed := l.items.foldr CharSet.union .none
  match l.waiting with
  | none => listed
  | some (how, left) => how.apply (f.fold left) (f.fold listed)

/-- The listing after a combination sign. -/
def combine (f : Flags) (l : Listing) (how : Combination) : Listing :=
  ⟨[], some (how, l.result f)⟩

end Listing

/-- One item: an escape or a character that stands for itself. -/
def bracketAtom (f : Flags) : List Char → Except Error (Atom × List Char)
  | [] => .error .classNotClosed
  | '\\' :: rest => escape f rest
  | c :: rest => .ok (.char c, rest)

/-- The character of an item; outside Unicode mode only ASCII characters and bytes will do. -/
def Atom.single (f : Flags) : Atom → Except Error Char
  | char c => if f.unicode || c.val < 128 then .ok c else .error .notText
  | byte c => .ok c
  | set _ => .error .badRange
  | look _ => .error .badRange

def Atom.listed (f : Flags) : Atom → Except Error CharSet
  | set s => .ok s
  | look _ => .error .badClassItem
  | a => (a.single f).map .char

/-- An item, or a range of characters when a hyphen and another item follow. -/
def bracketItem (f : Flags) (t : List Char) : Except Error (CharSet × List Char) := do
  let (first, rest) ← bracketAtom f t
  match f.skip rest with
  | [] => .error .classNotClosed
  | '-' :: after =>
    match f.skip after with
    | [] => .error .classNotClosed
    | c :: more =>
      if c = ']' || c = '-' then return (← first.listed f, '-' :: after)
      else
        let (last, rest) ← bracketAtom f (c :: more)
        let low ← first.single f
        let high ← last.single f
        if high < low then .error .badRange
        return (.range low high, rest)
  | rest => return (← first.listed f, rest)

/-- A class `[:name:]`, after its first bracket. -/
def namedClass? (t : List Char) : Option (CharSet × List Char) := do
  let t ← Text.after? [':'] t
  let (negated, t) := match t with
    | '^' :: rest => (true, rest)
    | _ => (false, t)
  let (name, rest) ← Text.splitFirst? ':' t
  let rest ← Text.after? [']'] rest
  let s ← CharSet.asciiClass? name
  return (if negated then .compl s else s, rest)

/-- The beginning of a class, after its bracket: a complement sign, hyphens, and a closing
bracket that stands for itself. -/
def opening (f : Flags) (t : List Char) : Bool × Listing × List Char :=
  let (negated, t) := match f.skip t with
    | '^' :: rest => (true, f.skip rest)
    | t => (false, t)
  let hyphens := t.takeWhile (· == '-')
  let t := f.skip (t.dropWhile (· == '-'))
  let listing : Listing := ⟨hyphens.map .char, none⟩
  match t with
  | ']' :: rest =>
    if hyphens.isEmpty then (negated, listing.add (.char ']'), rest) else (negated, listing, t)
  | _ => (negated, listing, t)

/-- A class up to its closing bracket.  Each step takes a character, so that `steps` need not
exceed the length of the text. -/
def bracketBody (f : Flags) : (steps depth : Nat) → Bool → Listing → List Char →
    Except Error (CharSet × List Char)
  | 0, _, _, _, _ => .error .classNotClosed
  | steps + 1, depth, negated, listing, t =>
    match f.skip t with
    | [] => .error .classNotClosed
    | ']' :: rest => do
      let s := f.fold (listing.result f)
      return (← f.fit (if negated then .compl s else s), rest)
    | '[' :: rest =>
      match namedClass? rest with
      | some (s, rest) => bracketBody f steps depth negated (listing.add s) rest
      | none =>
        match depth with
        | 0 => .error .nestedTooDeep
        | inner + 1 => do
          let (negatedInside, inside, rest) := opening f rest
          let (s, rest) ← bracketBody f steps inner negatedInside inside rest
          bracketBody f steps depth negated (listing.add s) rest
    | '&' :: '&' :: rest => bracketBody f steps depth negated (listing.combine f .inter) rest
    | '-' :: '-' :: rest => bracketBody f steps depth negated (listing.combine f .minus) rest
    | '~' :: '~' :: rest => bracketBody f steps depth negated (listing.combine f .differ) rest
    | t => do
      let (s, rest) ← bracketItem f t
      bracketBody f steps depth negated (listing.add s) rest

/-- A class, after its opening bracket. -/
def bracket (f : Flags) (depth : Nat) (t : List Char) : Except Error (CharSet × List Char) :=
  let (negated, listing, rest) := opening f t
  bracketBody f (t.length + 1) depth negated listing rest

end PlainLink.Regex
