/-
# Cookies

A cookie is a value that a server leaves for later requests, with the hosts and paths
that it goes back to.  It goes to the host that set it alone (`hostOnly`), or to every
host that its domain covers, and the path of the request has to begin with its own path,
up to a slash.

The domain covers a host by its text alone: it is that host, or the host ends with a dot
and the domain.  No list of public suffixes is asked, and neither is whether the host is
a name at all.
-/
import PlainLink.Time.Duration
import PlainLink.Url.Basic

namespace PlainLink

structure Cookie where
  name : Text
  value : Text
  /-- Without capitals, and without dots in front. -/
  domain : Text
  /-- No domain was given, so that only the host that left the cookie gets it back. -/
  hostOnly : Bool
  path : Text
  /-- Goes back over encrypted connections only. -/
  secure : Bool
  /-- The end of its life, if it has one. -/
  expires : Option Instant
  deriving DecidableEq, Repr

namespace Cookie

/-! ## Where a cookie goes -/

/-- The host is the domain, or ends with a dot and the domain. -/
def domainCovers (domain host : Text) : Bool :=
  host == domain || ('.' :: domain).isSuffixOf host

/-- The path is the one of the cookie, or lies below it. -/
def pathCovers (path requested : Text) : Bool :=
  match Text.after? path requested with
  | some rest => rest.isEmpty || path.getLast? == some '/' || rest.head? == some '/'
  | none => false

/-- The path that a request for a URL asks for. -/
def requestPath (u : Url) : Text :=
  if u.path.isEmpty then ['/'] else u.path

/-- The path of a cookie that names none: the one of the request without its last part. -/
def defaultPath (u : Url) : Text :=
  match Text.splitLast? '/' (requestPath u) with
  | some (c :: before, _) => c :: before
  | _ => ['/']

/-- The domain as a policy sees it: with a dot in front, if the cookie goes to
its subdomains too. -/
def policyDomain (c : Cookie) : Text :=
  if c.hostOnly then c.domain else '.' :: c.domain

/-- The life of the cookie is over. -/
def isExpired (c : Cookie) (now : Instant) : Bool :=
  c.expires.any (·.notAfter now)

/-- The host is one that gets the cookie. -/
def coversHost (c : Cookie) (host : Text) : Bool :=
  if c.hostOnly then host == c.domain else domainCovers c.domain host

/-- The cookie goes out with a request for a URL. -/
def isFor (c : Cookie) (u : Url) (now : Instant) : Bool :=
  !c.isExpired now && (!c.secure || u.scheme == .https) && c.coversHost u.host
    && pathCovers c.path (requestPath u)

/-- Two cookies of one name, domain and path take the place of each other. -/
def replaces (c other : Cookie) : Bool :=
  c.name == other.name && c.domain == other.domain && c.path == other.path

def text (c : Cookie) : Text :=
  c.name ++ '=' :: c.value

end Cookie

end PlainLink
