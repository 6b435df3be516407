/-
# Cookies as servers set them

A line holds the name and the value, and after them attributes between semicolons.  Of
two attributes of one name the later one counts.

A line without an equals sign in front of its first semicolon, or without a name, sets
no cookie; neither does one that names a domain which does not cover the host that sent
it.  Attributes of other names are passed over, and so are a domain without a text and a
path that is not rooted.  The life in seconds counts more than its date, wherever the
two stand.  An attribute about either that cannot be read takes back what the ones
before it said.
-/
import PlainLink.Cookie.Basic
import PlainLink.Text.Number
import PlainLink.Time.Written

namespace PlainLink.Cookie

/-- What the attributes of a line say. -/
structure Attributes where
  domain : Option Text := none
  path : Option Text := none
  secure : Bool := false
  /-- The life in seconds. -/
  maxAge : Option Int := none
  expires : Option Instant := none
  deriving DecidableEq, Repr

/-- A date in one of the two forms in use. -/
def date? (t : Text) : Option Instant :=
  match Time.mailDate? t with
  | some i => some i
  | none => Time.cookieDate? t

/-- The attributes after one more, its name without capitals. -/
def Attributes.put (a : Attributes) (name value : Text) : Attributes :=
  if name = "domain".toList then
    if value.isEmpty then a
      else { a with domain := some (Text.lower (value.dropWhile (· == '.'))) }
  else if name = "path".toList then
    if value.head? == some '/' then { a with path := some value } else a
  else if name = "secure".toList then { a with secure := true }
  else if name = "max-age".toList then { a with maxAge := Text.int64? value }
  else if name = "expires".toList then { a with expires := date? value }
  else a

/-- The attributes after one more, as it is written. -/
def Attributes.read (a : Attributes) (written : Text) : Attributes :=
  match Text.splitFirst? '=' written with
  | some (name, value) => a.put (Text.lower (Text.trim name)) (Text.trim value)
  | none => a.put (Text.lower (Text.trim written)) []

/-- The end of the life that the attributes give.  The life in seconds counts more than the
date; if it is not positive, it ended before all time. -/
def Attributes.end? (a : Attributes) (now : Instant) : Option Instant :=
  match a.maxAge with
  | some seconds => if seconds ≤ 0 then some Instant.first else now.later? seconds.toNat
  | none => a.expires

/-- The cookie of a name, a value and attributes that came from a URL; `none` if the domain
does not cover the host that set it. -/
def make? (name value : Text) (a : Attributes) (origin : Url) (now : Instant) : Option Cookie :=
  let cookie (domain : Text) (hostOnly : Bool) : Cookie :=
    { name, value, domain, hostOnly, path := a.path.getD (defaultPath origin),
      secure := a.secure, expires := a.end? now }
  match a.domain with
  | none => some (cookie origin.host true)
  | some domain => if domainCovers domain origin.host then some (cookie domain false) else none

/-- The cookie that a line sets, in the response to a request for `origin`;
`none` if it sets none. -/
def ofLine? (line : Text) (origin : Url) (now : Instant) : Option Cookie :=
  match line.splitOn ';' with
  | [] => none
  | pair :: attributes =>
    match Text.splitFirst? '=' pair with
    | none => none
    | some (name, value) =>
      let name := Text.trim name
      if name.isEmpty then none
      else make? name (Text.trim value) (attributes.foldl Attributes.read {}) origin now

end PlainLink.Cookie
