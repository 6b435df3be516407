/-
# Reading patterns

The reader goes through a pattern once, from left to right.  It keeps the parts of the
innermost open group and, below them, those of the groups around it.  Flags set inside a
group end with the group.

A pattern is refused for what stands in it: a group or a class that is not closed, a
repetition with nothing to repeat, an unknown escape, nesting that is too deep, or a
size past the limit.  Looking ahead and behind and references to groups are not in the
language.

Three things are left out, so that a pattern with them is refused though it would be
one.  Where blanks do not count, comments do not count either, but one between the
digits of a count is not passed over (`Reader.count`).  The other two are properties
without a table and sizes near the limit, and stand in the modules on escapes and on
expressions.
-/
import PlainLink.Regex.Bracket

namespace PlainLink.Regex

/-! ## What is kept while reading -/

/-- A part of a sequence: an expression with the depth of its nesting, or a place where flags
were set, which cannot be repeated. -/
inductive Part where
  | expr (e : Expr) (depth : Nat)
  | flags

def Part.toExpr : Part → Expr
  | expr e _ => e
  | flags => .empty

def Part.depth : Part → Nat
  | expr _ d => d
  | flags => 0

/-- The parts of a group that are read so far: those of the current alternative, latest first,
and the alternatives before it, latest first. -/
structure Pieces where
  current : List Part := []
  earlier : List Part := []

/-- The current alternative as one part. -/
def Pieces.sequence (p : Pieces) : Part :=
  match p.current with
  | [one] => .expr one.toExpr one.depth
  | [] => .expr .empty 0
  | many =>
    .expr (Expr.seqOf (many.reverse.map Part.toExpr)) (1 + (many.map Part.depth).foldl max 0)

def Pieces.whole (p : Pieces) : Part :=
  match p.earlier with
  | [] => p.sequence
  | before =>
    let all := p.sequence :: before
    .expr (Expr.altOf (all.reverse.map Part.toExpr)) (1 + (all.map Part.depth).foldl max 0)

/-- A group around the current one: its pieces, its flags, and how many groups were numbered
before the group inside it, if that one remembers what it takes. -/
structure Outer where
  pieces : Pieces
  flags : Flags
  numbered : Option Nat

structure Reader where
  flags : Flags := {}
  pieces : Pieces := {}
  outer : List Outer := []
  groups : Nat := 0
  names : List Text := []

namespace Reader

/-- Adds an expression that nests nothing. -/
def add (r : Reader) (e : Expr) : Reader :=
  { r with pieces := { r.pieces with current := .expr e 0 :: r.pieces.current } }

/-- Adds a character, with its variants in case where the flags ask for them. -/
def addChar (r : Reader) (c : Char) : Reader :=
  if !r.flags.caseless then r.add (.set (.char c))
  else if r.flags.unicode then
    r.add (.set (if (Unicode.caseVariants c).isEmpty then .char c else .caseless (.char c)))
  else r.add (.set (.asciiCaseless (.char c)))

def addAtom (r : Reader) : Atom → Except Error Reader
  | .char c => .ok (r.addChar c)
  | .byte _ => .error .notText
  | .set s => do return r.add (.set (← r.flags.fit s))
  | .look l => .ok (r.add (.look l))

/-! ## Groups -/

/-- Opens a group, which remembers what it takes if it has a number. -/
def openGroup (r : Reader) (numbered : Option Nat) (flags : Flags) : Reader :=
  { r with pieces := {}, flags, outer := ⟨r.pieces, r.flags, numbered⟩ :: r.outer }

/-- Opens a group with the next number. -/
def openNumbered (r : Reader) : Reader :=
  { r.openGroup (some r.groups) r.flags with groups := r.groups + 1 }

def closeGroup (r : Reader) : Except Error Reader :=
  match r.outer with
  | [] => .error .groupNotOpened
  | o :: outer =>
    let inside := r.pieces.whole
    let e := match o.numbered with
      | some before => .group before inside.toExpr
      | none => inside.toExpr
    .ok { r with
      flags := o.flags
      outer
      pieces := { o.pieces with current := .expr e (inside.depth + 1) :: o.pieces.current } }

def nextAlternative (r : Reader) : Reader :=
  { r with pieces := ⟨[], r.pieces.sequence :: r.pieces.earlier⟩ }

/-! ## Repetition -/

/-- Repeats the last part.  A question mark behind the sign turns the preference around. -/
def repeatLast (r : Reader) (least : Nat) (most : Option Nat) (t : List Char) :
    Except Error (Reader × List Char) :=
  match r.pieces.current with
  | .expr e depth :: before =>
    let (lazily, rest) := match t with
      | '?' :: rest => (true, rest)
      | _ => (false, t)
    let e := Expr.repeated least most (lazily == r.flags.swapGreed) e
    .ok ({ r with pieces := { r.pieces with current := .expr e (depth + 1) :: before } }, rest)
  | _ => .error .nothingToRepeat

/-- A count, with blanks around it; `none` if there is no digit. -/
def count (f : Flags) (t : List Char) : Except Error (Option Nat × List Char) :=
  let t := t.dropWhile Text.isBlank
  let row := t.takeWhile fun c => c.isDigit || (f.spaced && Text.isBlank c)
  let digits := row.filter Char.isDigit
  let rest := f.skip ((t.drop row.length).dropWhile Text.isBlank)
  if digits.isEmpty then .ok (none, rest)
  else if 4294967295 < Text.decimalValue digits then .error .badCount
  else .ok (some (Text.decimalValue digits), rest)

/-- Repeats the last part as often as the counts between braces say. -/
def repeatCounted (r : Reader) (t : List Char) : Except Error (Reader × List Char) := do
  match r.pieces.current with
  | .expr .. :: _ => pure ()
  | _ => .error .nothingToRepeat
  let (least, rest) ← count r.flags (r.flags.skip t)
  let some least := least | .error .badCount
  let (most, rest) ← match rest with
    | ',' :: rest =>
      match r.flags.skip rest with
      | '\x7d' :: rest => .ok (none, '\x7d' :: rest)
      | rest => do
        let (most, rest) ← count r.flags rest
        if most.isNone then .error .badCount
        pure (most, rest)
    | rest => pure (some least, rest)
  match rest with
  | '\x7d' :: rest =>
    if most.any (· < least) then .error .badCount
    r.repeatLast least most (r.flags.skip rest)
  | _ => .error .badCount

/-! ## Group heads -/

def isNameChar (first : Bool) (c : Char) : Bool :=
  c == '_' || Unicode.isAlphabetic c
    || (!first && (c == '.' || c == '[' || c == ']' || Unicode.isAlphanumeric c))

def openNamed (r : Reader) (t : List Char) : Except Error (Reader × List Char) :=
  match Text.splitFirst? '>' t with
  | none => .error .badGroupName
  | some ([], _) => .error .badGroupName
  | some (c :: cs, rest) =>
    if !isNameChar true c || !cs.all (isNameChar false) then .error .badGroupName
    else if r.names.contains (c :: cs) then .error .groupNamedTwice
    else .ok ({ r.openNumbered with names := (c :: cs) :: r.names }, rest)

/-- The flags written before `:` or `)`, and that sign.  `seen` holds what
was written so far. -/
def flagRow (f : Flags) (value : Bool) (seen : List Char) :
    List Char → Except Error (Flags × Char × List Char)
  | [] => .error .badFlags
  | c :: rest =>
    if c = ':' || c = ')' then
      if seen.head? = some '-' then .error .badFlags
      else if c = ')' && seen.isEmpty then .error .badFlags
      else .ok (f, c, rest)
    else if seen.contains c then .error .badFlags
    else if c = '-' then flagRow f false (c :: seen) rest
    else match f.set? value c with
      | none => .error .badFlags
      | some f => flagRow f value (c :: seen) rest

/-- Opens a group or sets flags, after an opening parenthesis. -/
def head (r : Reader) (t : List Char) : Except Error (Reader × List Char) :=
  let t := r.flags.skip t
  match t with
  | '?' :: '=' :: _ => .error .lookAround
  | '?' :: '!' :: _ => .error .lookAround
  | '?' :: '<' :: '=' :: _ => .error .lookAround
  | '?' :: '<' :: '!' :: _ => .error .lookAround
  | '?' :: 'P' :: '<' :: rest => r.openNamed rest
  | '?' :: '<' :: rest => r.openNamed rest
  | '?' :: rest => do
    let (f, sign, rest) ← flagRow r.flags true [] rest
    if sign = ':' then return (r.openGroup none f, rest)
    else return ({ r with
      flags := f
      pieces := { r.pieces with current := .flags :: r.pieces.current } }, rest)
  | _ => .ok (r.openNumbered, t)

/-! ## The whole pattern -/

/-- The condition that `^` or `$` means. -/
def anchor (f : Flags) (start : Bool) : Look :=
  match f.multiLine, f.crlf with
  | false, _ => if start then .textStart else .textEnd
  | true, false => if start then .lineStart else .lineEnd
  | true, true => if start then .lineStartCrlf else .lineEndCrlf

def dot (f : Flags) : Except Error CharSet :=
  if !f.unicode then .error .notText
  else if f.dotAll then .ok .all
  else if f.crlf then .ok (.except ['\r', '\n'])
  else .ok (.except ['\n'])

def depthLimit : Nat := 250

/-- Reads one part that begins with the character `c`. -/
def step (r : Reader) (c : Char) (rest : List Char) : Except Error (Reader × List Char) :=
  match c with
  | '(' => r.head rest
  | ')' => do return (← r.closeGroup, rest)
  | '|' => .ok (r.nextAlternative, rest)
  | '[' => do
    let (s, rest) ← bracket r.flags depthLimit rest
    return (r.add (.set s), rest)
  | '?' => r.repeatLast 0 (some 1) rest
  | '*' => r.repeatLast 0 none rest
  | '+' => r.repeatLast 1 none rest
  | '\x7b' => r.repeatCounted rest
  | '\\' => do
    let (a, rest) ← escape r.flags rest
    return (← r.addAtom a, rest)
  | '.' => do return (r.add (.set (← dot r.flags)), rest)
  | '^' => .ok (r.add (.look (anchor r.flags true)), rest)
  | '$' => .ok (r.add (.look (anchor r.flags false)), rest)
  | c => .ok (r.addChar c, rest)

/-- Reads parts to the end.  Each takes a character, so that `steps` need
not exceed the length. -/
def run : (steps : Nat) → Reader → List Char → Except Error Reader
  | 0, r, _ => .ok r
  | steps + 1, r, t =>
    match r.flags.skip t with
    | [] => .ok r
    | c :: rest => do
      let (r, rest) ← r.step c rest
      run steps r rest

end Reader

def Expr.parse (pattern : Text) : Except Error Expr := do
  let r ← Reader.run (pattern.length + 1) {} pattern
  if !r.outer.isEmpty then .error .groupNotClosed
  let whole := r.pieces.whole
  if Reader.depthLimit < whole.depth then .error .nestedTooDeep
  if Expr.sizeLimit < whole.toExpr.size then .error .tooLarge
  return whole.toExpr

end PlainLink.Regex
