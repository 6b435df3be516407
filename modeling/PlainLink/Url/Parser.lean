/-
# Reading URLs

A URL is read leniently: blanks around it are dropped, a missing scheme is completed,
what stands before the last `@` of the authority is left out.  It is refused when the
scheme is not one of the web's, when there is no host, or when port or host are
ill-formed.

The authority ends at the first `/`, `?` or `#`.  Its port stands behind the last colon
outside of brackets; a colon with nothing behind it is dropped, and the colon before
that, if there is one, stays in the host.  A host in brackets is brought into lower case
and not looked into any further.
-/
import PlainLink.Host.International
import PlainLink.Text.Quoted
import PlainLink.Url.Basic

namespace PlainLink

inductive Url.Defect where
  | empty
  | noSeparator
  | unclosedBracket
  | textAfterBracket
  | portNotNumber (port : Text)
  | portTooLarge (port : Text)
  | noHost
  | host (defect : Host.Defect)
  deriving DecidableEq, Repr

def Url.Defect.message : Url.Defect → Text
  | empty => "empty URL".toList
  | noSeparator => "missing scheme separator".toList
  | unclosedBracket => "unterminated IPv6 literal".toList
  | textAfterBracket => "garbage after IPv6 literal".toList
  | portNotNumber port => "invalid port ".toList ++ Text.quoted port
  | portTooLarge port => "port out of range: ".toList ++ port
  | noHost => "missing host".toList
  | host defect => "invalid host: ".toList ++ defect.message

/-- A text that cannot be cleaned, as it was passed in. -/
inductive CleanError where
  | invalidUrl (url : Text) (reason : Url.Defect)
  | invalidScheme (url scheme : Text)
  deriving DecidableEq, Repr

/-- The text that cannot be cleaned. -/
def CleanError.url : CleanError → Text
  | invalidUrl url _ => url
  | invalidScheme url _ => url

def CleanError.message : CleanError → Text
  | invalidUrl url reason =>
    "invalid URL ".toList ++ Text.quoted url ++ ": ".toList ++ reason.message
  | invalidScheme url scheme =>
    "expecting 'http' or 'https', but got ".toList ++ Text.quoted scheme ++ " in ".toList
      ++ Text.quoted url

namespace Url

/-! ## The scheme -/

/-- A character that may follow the first letter of a scheme. -/
def isSchemeChar (c : Char) : Bool :=
  c.isAlphanum || c == '+' || c == '-' || c == '.'

/-- A character that ends the authority. -/
def isAuthorityEnd (c : Char) : Bool :=
  c == '/' || c == '?' || c == '#'

/-- The text of a scheme and what follows its colon.  There is none where the colon can only
stand before a port, that is, where nothing but digits follow it in the authority. -/
def scheme? (t : Text) : Option (Text × Text) := do
  let (name, rest) ← Text.splitFirst? ':' t
  let first ← name.head?
  if first.isAlpha && name.tail.all isSchemeChar
      && ("//".toList.isPrefixOf rest
        || !Text.isDigits (Text.cutBefore isAuthorityEnd rest).1) then
    some (name, rest)
  else none

/-- The scheme of a text and what follows its colon, with `http` for a missing scheme. -/
def splitScheme (t : Text) : Text × Text :=
  if "//".toList.isPrefixOf t then (Scheme.http.text, t)
  else (scheme? t).getD (Scheme.http.text, "//".toList ++ t)

/-- The text with its scheme, or with `http` if it has none. -/
def completed (t : Text) : Text :=
  let (scheme, rest) := splitScheme t
  scheme ++ ':' :: rest

/-! ## The authority -/

/-- A port as it is written after the host; an empty one is none. -/
def port? (t : Text) : Except Defect (Option Nat) :=
  if t.isEmpty then .ok none
  else if !Text.isDigits t then .error (.portNotNumber t)
  else if 65535 < Text.decimalValue t then .error (.portTooLarge t)
  else .ok (some (Text.decimalValue t))

/-- The host and the port of an authority without user names. -/
def hostAndPort (t : Text) : Except Defect (Text × Option Nat) :=
  match t with
  | '[' :: inner =>
    match Text.splitFirst? ']' inner with
    | none => .error .unclosedBracket
    | some (address, rest) =>
      let host := '[' :: address ++ [']']
      match rest with
      | [] => .ok (host, none)
      | ':' :: port => (port? port).map fun port => (host, port)
      | _ => .error .textAfterBracket
  | _ =>
    match Text.splitLast? ':' t with
    | some (host, port) => (port? port).map fun port => (host, port)
    | none => .ok (t, none)

/-- The one form in which a host is kept. -/
def plainHost (host : Text) : Except Defect Text :=
  if host.isEmpty then .error .noHost
  else if host.head? == some '[' || Text.isAscii host then .ok (Text.lower host)
  else (Host.plainForm host).mapError .host

/-! ## The whole -/

/-- The path, the query and the fragment of what follows the authority. -/
def splitTail (t : Text) : Text × Text × Text :=
  let (front, fragment) := (Text.splitFirst? '#' t).getD (t, [])
  let (path, query) := (Text.splitFirst? '?' front).getD (front, [])
  (path, query, fragment)

/-- The URL that stands after the scheme's colon. -/
def ofRest (scheme : Scheme) (rest : Text) : Except Defect Url := do
  let some rest := Text.after? "//".toList rest | .error .noSeparator
  let (authority, tail) := Text.cutBefore isAuthorityEnd rest
  let (path, query, fragment) := splitTail tail
  let bare := ((Text.splitLast? '@' authority).map (·.2)).getD authority
  let (host, writtenPort) ← hostAndPort bare
  return { scheme, host := ← plainHost host, writtenPort, path, query, fragment }

def parse (input : Text) : Except CleanError Url :=
  let trimmed := Text.trim input
  if trimmed.isEmpty then .error (.invalidUrl input .empty)
  else
    let (name, rest) := splitScheme trimmed
    match Scheme.ofText? (Text.lower name) with
    | none => .error (.invalidScheme input (Text.lower name))
    | some scheme => (ofRest scheme rest).mapError (.invalidUrl input)

end Url

end PlainLink
