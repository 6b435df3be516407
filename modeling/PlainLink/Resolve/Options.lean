/-
# How a URL is resolved

The options of a run: what requests look like, how often a URL may be redirected and a
request repeated, which cookies are kept, and whether pages are looked into.

The budgets are numbers of 32 bits.  The one of redirections has to be smaller than the
largest of them, 2^32 - 1: a header that redirects once the budget is used up is still
counted before it is turned down, and with that budget the count would not fit into its
word.  Here counts are numbers without a bound, so that what is said of runs is said of
a machine only under that condition.
-/
import PlainLink.Clean.Cleaner
import PlainLink.Cookie.Jar
import PlainLink.Http.Transfer
import PlainLink.Retry.Policy

namespace PlainLink

/-- The name that requests give for the program. -/
def userAgent : Text := "urlscrub/0.1.0".toList

/-- The header of requests, unless the caller gives another. -/
def defaultHeaders : Headers :=
  [ ("Accept".toList, "*/*".toList), ("Accept-Encoding".toList, "identity".toList),
    ("Connection".toList, "close".toList), ("User-Agent".toList, userAgent) ]

structure ResolveOptions where
  /-- The method of every request. -/
  method : Text := "GET".toList
  /-- The time for each attempt. -/
  timeout : Duration := .ofSeconds 8
  /-- Less than 2^32 - 1: a machine counts redirections in a word, and one
  more than it follows. -/
  maxRedirects : Nat := 13
  /-- The statuses that are repeated, if there is a budget of retries. -/
  repeatedStatuses : List Nat := Cause.defaultStatuses
  headers : Headers := defaultHeaders
  /-- Which cookies are kept; if nothing is said, those of the domains in the store. -/
  cookiePolicy : Option CookiePolicy := none
  tls : TlsOptions := {}
  /-- The bytes of a page that are read. -/
  maxBodyBytes : Nat := 1024 * 1024
  /-- Redirections inside pages are followed. -/
  readPages : Bool := false
  /-- How the URL and the target of every redirection are cleaned. -/
  clean : CleanFlags := {}
  retry : RetryPolicy := {}
  deriving DecidableEq, Repr

namespace ResolveOptions

/-- Pages are read: they are wanted, and the method brings them. -/
def readsPages (o : ResolveOptions) : Bool :=
  o.readPages && !Text.sameLetters o.method "HEAD".toList

/-- How each request is made.  Of a page that is not read nothing is kept. -/
def transferOptions (o : ResolveOptions) : TransferOptions :=
  { timeout := o.timeout, tls := o.tls,
    maxBodyBytes := if o.readsPages then o.maxBodyBytes else 0 }

def policy (o : ResolveOptions) (store : Store) : CookiePolicy :=
  o.cookiePolicy.getD (.allowListed store.domains)

end ResolveOptions

end PlainLink
