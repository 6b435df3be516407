/-
# Header fields

A header is a list of named values.  Names are compared without case, and the order is
kept.

It is read from the lines that a transfer has seen, in which several responses may
follow each other: every status line makes the reader forget what came before it.  A
line without a colon is passed over.
-/
import PlainLink.Text.Basic

namespace PlainLink

abbrev Headers := List (Text × Text)

namespace Headers

def first? (h : Headers) (name : Text) : Option Text :=
  (h.find? fun field => Text.sameLetters field.1 name).map (·.2)

def all (h : Headers) (name : Text) : List Text :=
  (h.filter fun field => Text.sameLetters field.1 name).map (·.2)

/-- The header in which a name has one value only, at the end. -/
def replace (h : Headers) (name value : Text) : Headers :=
  (h.filter fun field => !Text.sameLetters field.1 name) ++ [(name, value)]

theorem all_replace (h : Headers) (name value : Text) :
    (h.replace name value).all name = [value] := by
  simp [replace, all, List.filter_filter, Text.sameLetters]

theorem filter_replace_same (h : Headers) (name value : Text) :
    (h.replace name value).filter (fun field => Text.sameLetters field.1 name) =
      [(name, value)] := by
  simp [replace, List.filter_filter, Text.sameLetters]

theorem filter_replace_other (h : Headers) (name value : Text) :
    (h.replace name value).filter (fun field => !Text.sameLetters field.1 name) =
      h.filter fun field => !Text.sameLetters field.1 name := by
  simp [replace, List.filter_filter, Text.sameLetters]

/-- The fields after one more line.  A status line begins a new header, and what is no
field does not count. -/
def addLine (h : Headers) (line : Text) : Headers :=
  let line := Text.trim line
  if ("HTTP/".toList).isPrefixOf line then []
  else match Text.splitFirst? ':' line with
    | some (name, value) => h ++ [(Text.trim name, Text.trim value)]
    | none => h

/-- The fields of the last response in some lines; responses before it were preliminary. -/
def ofLines (lines : List Text) : Headers :=
  lines.foldl addLine []

/-- The character set that the value of `Content-Type` names. -/
def charsetOf? (contentType : Text) : Option Text :=
  ((contentType.splitOn ';').drop 1).findSome? fun parameter =>
    match Text.splitFirst? '=' parameter with
    | some (key, value) =>
      if Text.sameLetters (Text.trim key) "charset".toList then
        some (Text.strip (· == '"') (Text.trim value))
      else none
    | none => none

/-- The character set that a header names. -/
def charset? (h : Headers) : Option Text :=
  (h.first? "content-type".toList).bind charsetOf?

end Headers

end PlainLink
