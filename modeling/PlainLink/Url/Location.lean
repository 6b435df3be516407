/-
# Locations relative to a URL

A server names the next address absolutely or relative to the one that was asked for.
What begins with a scheme of the web is absolute; what begins with two slashes lacks
only the scheme; everything else is put behind the origin of the current URL: at once if
it begins with a slash, and otherwise behind the path of that URL up to its last slash.
The parts `.` and `..` of a path are left as they are.
-/
import PlainLink.Url.Basic

namespace PlainLink.Url

/-- The location names its scheme and host. -/
def isAbsolute (location : Text) : Bool :=
  (Text.afterLetters? "http://".toList location).isSome
    || (Text.afterLetters? "https://".toList location).isSome

/-- The path up to and with its last slash. -/
def directory (path : Text) : Text :=
  match Text.splitLast? '/' path with
  | some (before, _) => before ++ ['/']
  | none => ['/']

/-- The address that a location means on a page at `current`. -/
def locate (current : Url) (location : Text) : Text :=
  let location := Text.trim location
  if isAbsolute location then location
  else match Text.after? "//".toList location with
    | some rest => current.scheme.text ++ "://".toList ++ rest
    | none =>
      if location.head? == some '/' then current.origin ++ location
      else current.origin ++ directory current.path ++ location

end PlainLink.Url
