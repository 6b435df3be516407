/-
# Cleaning

Cleaning takes a URL through the providers in order.  A provider is for a URL if its
pattern matches the origin and none of its exceptions matches the whole text.  Such a
provider then

  * redirects: the first of its redirection rules that finds another URL puts that URL
    in the place of this one, and the providers start again from the first, at most
    sixteen times;
  * otherwise deletes: the fields that track, from the query and from the fragment, and
    the parts of the path that its raw rules match.

After the last pass the field lists are put in order (`tidy`).  A URL of the user's own
network is left alone on request, as it was read, and its field lists are not put in
order either.

What is deleted is deleted from the parts as they were written; nothing here escapes or
unescapes them, apart from the URL that a redirection finds, which is unescaped and
requoted before it is read.  Nothing can fail either once a text has been read as a URL.
So the only error of `clean` is that of `Url.parse`, and a redirection to something that
is no URL is none.
-/
import PlainLink.Clean.Fields
import PlainLink.Rule.Store
import PlainLink.Text.Percent
import PlainLink.Url.Parser

namespace PlainLink

/-- Switches for cleaning; all are off unless set. -/
structure CleanFlags where
  ignoreReferralMarketing : Bool := false
  ignoreRules : Bool := false
  ignoreExceptions : Bool := false
  ignoreRawRules : Bool := false
  ignoreRedirections : Bool := false
  /-- Leaves out the providers whose whole site serves tracking. -/
  skipBlocked : Bool := false
  /-- Leaves URLs of the user's own network as they are. -/
  skipLocal : Bool := false
  stripDuplicates : Bool := false
  stripEmpty : Bool := false
  deriving DecidableEq, Repr

namespace Clean

/-- How often one cleaning may be sent on by redirection rules. -/
def maxRestarts : Nat := 16

/-! ## What a provider does to a URL -/

/-- A field list without the fields that the provider names. -/
def stripTracking (p : Provider) (flags : CleanFlags) (fields : Text) : Text :=
  let strip (rules : List Pattern) (t : Text) := rules.foldl (fun t rule => rule.stripFields t) t
  let fields := if flags.ignoreRules then fields else strip p.rules fields
  if flags.ignoreReferralMarketing then fields else strip p.referralMarketing fields

/-- A path without the parts that the provider names. -/
def stripPath (p : Provider) (flags : CleanFlags) (path : Text) : Text :=
  if flags.ignoreRawRules then path else p.rawRules.foldl (fun t rule => rule.stripAll t) path

/-- A URL without what the provider deletes. -/
def strip (p : Provider) (flags : CleanFlags) (u : Url) : Url :=
  { u with
    query := if u.query.isEmpty then [] else stripTracking p flags u.query
    fragment := if u.fragment.isEmpty then [] else stripTracking p flags u.fragment
    path := if u.path.isEmpty then [] else stripPath p flags u.path }

/-- A query in which only the separator in front of it is a question mark. -/
def escapeQuestionMarks (query : Text) : Text :=
  query.flatMap fun c => if c = '?' then "%3F".toList else [c]

/-- The URL that a redirection rule finds in the text of one; `none` if it
finds none, or no URL. -/
def target? (serialized : Text) (rule : Pattern) : Option Url :=
  let found := rule.substitute serialized
  if found.isEmpty || found == serialized then none
  else match Url.parse (Url.completed (Text.requote (Text.unquote found))) with
    | .ok u => some { u with query := escapeQuestionMarks u.query }
    | .error _ => none

/-- The provider is for this URL, which is none of its exceptions. -/
def covers (p : Provider) (flags : CleanFlags) (u : Url) : Bool :=
  !(flags.skipBlocked && p.completeProvider)
    && p.urlPattern.isMatch u.origin
    && (flags.ignoreExceptions || !p.exceptions.any (·.isMatch u.text))

/-! ## Passes -/

/-- The outcome of going through the providers once. -/
inductive Pass where
  | done (u : Url)
  | redirected (u : Url)

/-- Goes through the providers, following redirection rules if `follow` is set. -/
def pass (flags : CleanFlags) (follow : Bool) : List Provider → Url → Pass
  | [], u => .done u
  | p :: rest, u =>
    if covers p flags u then
      match if follow then p.redirections.findSome? (target? u.text) else none with
      | some next => .redirected next
      | none => pass flags follow rest (strip p flags u)
    else pass flags follow rest u

/-- Goes through the providers until no redirection rule fires, or none may fire any more.  A
URL of the user's own network is left as it is on request, and the answer tells so. -/
def passes (providers : List Provider) (flags : CleanFlags) : (restarts : Nat) → Url → Url × Bool
  | restarts, u =>
    if flags.skipLocal && u.isLocal then (u, true)
    else match pass flags (!flags.ignoreRedirections && 0 < restarts) providers u, restarts with
      | .done u, _ => (u, false)
      | .redirected u, restarts + 1 => passes providers flags restarts u
      | .redirected u, 0 => (u, false)

/-- A URL with its field lists in order.  A fragment is a field list only if it has a field. -/
def tidy (flags : CleanFlags) (u : Url) : Url :=
  let filter (t : Text) := filterQuery t flags.stripEmpty flags.stripDuplicates
  { u with
    query := if u.query.isEmpty then [] else filter u.query
    fragment := if u.fragment.contains '=' then filter u.fragment else u.fragment }

def cleanUrl (providers : List Provider) (flags : CleanFlags) (u : Url) : Url :=
  let (u, left) := passes providers flags maxRestarts u
  if left then u else tidy flags u

end Clean

/-- Cleans a text that is a URL. -/
def clean (providers : List Provider) (flags : CleanFlags) (url : Text) :
    Except CleanError Text :=
  (Url.parse url).map fun u => (Clean.cleanUrl providers flags u).text

/-- Cleans a text by the providers of a store. -/
def Store.clean (s : Store) (flags : CleanFlags) (url : Text) : Except CleanError Text :=
  PlainLink.clean s.providers flags url

end PlainLink
