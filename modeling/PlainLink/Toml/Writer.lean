/-
# Writing TOML

A text takes the plainest quotes in which it needs no escapes, which are double ones,
single ones, three double ones, and three single ones, in this order.  Escapes are
written only if none of these will do.  A list of several items stands on several lines.
-/
import PlainLink.Toml.Basic

namespace PlainLink.Toml

/-! ## Texts -/

/-- The quotes of a text: double or single ones, once or three times. -/
inductive Quotes where
  | basic
  | literal
  | longBasic
  | longLiteral
  deriving DecidableEq, Repr

/-- A character that only an escape can write. -/
def needsEscape (c : Char) : Bool :=
  (c < ' ' && c != '\t' && c != '\n') || c == '\x7f'

/-- The length of the longest row of a character, `run` of which stand in front of the text. -/
def longestRun (c : Char) : (run : Nat) → Text → Nat
  | run, [] => run
  | run, d :: rest =>
    if d = c then longestRun c (run + 1) rest else max run (longestRun c 0 rest)

def quotesFor (t : Text) : Quotes :=
  let controls := t.any needsEscape
  let backslash := t.contains '\\'
  let lines := t.contains '\n'
  let doubles := longestRun '"' 0 t
  let singles := longestRun '\'' 0 t
  if !controls && !backslash && doubles = 0 && !lines then .basic
  else if !controls && singles = 0 && !lines then .literal
  else if !controls && !backslash && doubles ≤ 2 then .longBasic
  else if !controls && singles ≤ 2 then .longLiteral
  else if lines then .longBasic
  else .basic

def escape (c : Char) : Text :=
  match c with
  | '\x08' => ['\\', 'b']
  | '\t' => ['\\', 't']
  | '\n' => ['\\', 'n']
  | '\x0c' => ['\\', 'f']
  | '\r' => ['\\', 'r']
  | '"' => ['\\', '"']
  | '\\' => ['\\', '\\']
  | c => "\\u00".toList ++ [Text.hexDigit (c.toNat / 16), Text.hexDigit (c.toNat % 16)]

/-- A text between double quotes, in which at most `most` of them may stand in a row without an
escape; `run` of them stand in front of it. -/
def escaped (most : Nat) (lines : Bool) : (run : Nat) → Text → Text
  | _, [] => []
  | run, c :: rest =>
    if c = '"' then
      if run < most then c :: escaped most lines (run + 1) rest
      else escape c ++ escaped most lines 0 rest
    else if needsEscape c || c == '\t' || c == '\\' || (c == '\n' && !lines) then
      escape c ++ escaped most lines 0 rest
    else c :: escaped most lines 0 rest

/-- Three quotes in front of a text, on a line of their own if the text has several lines. -/
def longOpening (quote : Char) (t : Text) : Text :=
  List.replicate 3 quote ++ (if t.contains '\n' then ['\n'] else [])

def writeText (t : Text) : Text :=
  match quotesFor t with
  | .basic => '"' :: escaped 0 false 0 t ++ ['"']
  | .literal => '\'' :: t ++ ['\'']
  | .longBasic => longOpening '"' t ++ escaped 2 true 0 t ++ List.replicate 3 '"'
  | .longLiteral => longOpening '\'' t ++ t ++ List.replicate 3 '\''

/-! ## Other values -/

/-- A truth value as it is written. -/
def writeBool (b : Bool) : Text :=
  (if b then "true" else "false").toList

def writeList (items : List Text) : Text :=
  match items with
  | [] => "[]".toList
  | [item] => '[' :: item ++ [']']
  | items =>
    "[\n".toList ++ items.flatMap (fun item => "    ".toList ++ item ++ ",\n".toList) ++ [']']

def writeEntry (name : String) (value : Text) : Text :=
  name.toList ++ " = ".toList ++ value ++ ['\n']

/-- A table with the lines of its keys. -/
def writeTable (name : String) (lines : List Text) : Text :=
  '[' :: name.toList ++ "]\n".toList ++ lines.flatten

end PlainLink.Toml
