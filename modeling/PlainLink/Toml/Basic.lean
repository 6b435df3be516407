/-
# TOML documents

The values of a document.  A table remembers how it came to be, because only some tables
may be extended later: a header opens a table once, dotted keys extend what dotted keys
began, and a table in braces is closed.
-/
import PlainLink.Decimal.Real64

namespace PlainLink

inductive Toml.Origin where
  /-- In braces. -/
  | inline
  /-- By a header of its own, or as the document itself. -/
  | header
  /-- By the header of a table inside it. -/
  | implied
  /-- By a dotted key. -/
  | dotted
  deriving DecidableEq, Repr

/-- A value of a document.  Dates are known to be dates only. -/
inductive Toml where
  | text (t : Text)
  | int (n : Int)
  | real (x : Real64)
  | bool (b : Bool)
  | date
  | array (items : List Toml)
  | table (origin : Toml.Origin) (entries : List (Text × Toml))
  /-- Tables that headers in double brackets add one by one; the last one is still open. -/
  | tables (earlier : List (List (Text × Toml))) (last : List (Text × Toml))

namespace Toml

abbrev Entries := List (Text × Toml)

def get? (name : Text) (entries : Entries) : Option Toml :=
  (entries.find? (·.1 == name)).map (·.2)

/-- Entries with a value for a name, in the place of its value if it has one. -/
def put (name : Text) (value : Toml) : Entries → Entries
  | [] => [(name, value)]
  | (k, v) :: rest => if k = name then (k, value) :: rest else (k, v) :: put name value rest

/-- A name has the value that was put there last. -/
theorem get?_put (name : Text) (value : Toml) (entries : Entries) :
    get? name (put name value entries) = some value := by
  induction entries with
  | nil => simp [put, get?]
  | cons entry rest ih =>
    obtain ⟨k, v⟩ := entry
    unfold put
    split
    · next hk => simp [get?, hk]
    · next hk => simpa [get?, hk] using ih

theorem get?_put_of_ne {name other : Text} (h : other ≠ name) (value : Toml)
    (entries : Entries) :
    get? other (put name value entries) = get? other entries := by
  induction entries with
  | nil => simp [put, get?, Ne.symm h]
  | cons entry rest ih =>
    obtain ⟨k, v⟩ := entry
    unfold put
    split
    · next hk => simp [get?, hk, Ne.symm h]
    · by_cases ho : k = other
      · simp [get?, ho]
      · simpa [get?, ho] using ih

/-! ## Extending a table at a path -/

/-- How a path came up: in a header, or as the front of a dotted key. -/
inductive Way where
  | header
  | dottedKey
  deriving DecidableEq, Repr

/-- The origin of a table that a path begins. -/
def Way.origin : Way → Origin
  | .header => .implied
  | .dottedKey => .dotted

/-- The path may go on through a table of the given origin. -/
def Way.mayEnter : Way → Origin → Bool
  | _, .inline => false
  | .dottedKey, .header => false
  | _, _ => true

/-- Changes the table at a path by `change`, which is told how that table came to be.  Tables
that are missing on the way are begun. -/
def update? (way : Way) (change : Origin → Entries → Option Entries) :
    (path : List Text) → Origin → Entries → Option Entries
  | [], origin, entries => change origin entries
  | name :: path, _, entries =>
    match get? name entries with
    | none =>
      (update? way change path way.origin []).map fun inner =>
        put name (table way.origin inner) entries
    | some (table origin inner) =>
      if way.mayEnter origin then
        (update? way change path origin inner).map fun inner =>
          put name (table origin inner) entries
      else none
    | some (tables earlier last) =>
      (update? way change path .header last).map fun last =>
        put name (tables earlier last) entries
    | some _ => none

/-- Puts the value of a new key into a table.  A dotted key only extends a table that dotted
keys began, and every name stands once. -/
def addKey? (path : List Text) (name : Text) (value : Toml) (origin : Origin)
    (entries : Entries) :
    Option Entries :=
  update? .dottedKey (fun origin entries =>
    if (origin == .dotted) == path.isEmpty || (get? name entries).isSome then none
    else some (put name value entries)) path origin entries

/-- Opens a table by its header.  One that is there already may only have
been implied so far. -/
def openTable? (name : Text) (entries : Entries) : Option Entries :=
  match get? name entries with
  | none => some (put name (table .header []) entries)
  | some (table .implied inner) => some (put name (table .header inner) entries)
  | some _ => none

/-- Opens one more of the tables of a name. -/
def openNext? (name : Text) (entries : Entries) : Option Entries :=
  match get? name entries with
  | none => some (put name (tables [] []) entries)
  | some (tables earlier last) => some (put name (tables (earlier ++ [last]) []) entries)
  | some _ => none

end Toml

end PlainLink
