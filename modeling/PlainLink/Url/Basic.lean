/-
# URLs of the web

A URL is split only as far as cleaning needs it.  Path, query and fragment keep every
character of the input, so that rules see what the user passed; only the host is brought
to one form.  An empty query or fragment is not told from a missing one.

The text of a URL puts the parts together again, with the marks of those that are not
empty and a port as it was written, also the one that its scheme has anyway.
-/
import PlainLink.Host.Local

namespace PlainLink

/-- The schemes that are cleaned and followed. -/
inductive Scheme where
  | http
  | https
  deriving DecidableEq, Repr

def Scheme.text : Scheme → Text
  | http => "http".toList
  | https => "https".toList

/-- The port that a scheme means when none is written. -/
def Scheme.defaultPort : Scheme → Nat
  | http => 80
  | https => 443

/-- The scheme with the given name in lower case. -/
def Scheme.ofText? (t : Text) : Option Scheme :=
  if t = Scheme.http.text then some .http
  else if t = Scheme.https.text then some .https
  else none

structure Url where
  scheme : Scheme
  /-- In ASCII and without capitals; an IPv6 address keeps its brackets. -/
  host : Text
  /-- The port, if one is written. -/
  writtenPort : Option Nat
  path : Text
  query : Text
  fragment : Text
  deriving DecidableEq, Repr

namespace Url

def port (u : Url) : Nat :=
  u.writtenPort.getD u.scheme.defaultPort

/-- The host, with the port if one is written. -/
def authority (u : Url) : Text :=
  match u.writtenPort with
  | some n => u.host ++ ':' :: Text.ofNat n
  | none => u.host

/-- The scheme and the authority: what a provider is recognised by. -/
def origin (u : Url) : Text :=
  u.scheme.text ++ "://".toList ++ u.authority

/-- A part that follows its mark, and nothing where the part is empty. -/
def marked (mark : Char) (part : Text) : Text :=
  if part.isEmpty then [] else mark :: part

def text (u : Url) : Text :=
  u.origin ++ u.path ++ marked '?' u.query ++ marked '#' u.fragment

/-- What a request asks the host for. -/
def requestTarget (u : Url) : Text :=
  (if u.path.isEmpty then ['/'] else u.path) ++ marked '?' u.query

/-- The URL points into the user's own network. -/
def isLocal (u : Url) : Bool :=
  Host.isLocal u.host

end Url

end PlainLink
