/-
# Configuration

What the user's file can set: the rule documents, the requests, the delays before
retries and the switches for cleaning.  What it does not set has a default.

The sections of the rules and of the requests, and the switches, have a default for each
of their keys.  The delays have one only as a whole: either the section is missing, or
all of its keys are there.  What a configuration holds is not checked any further.
-/
import PlainLink.Decimal.Real64
import PlainLink.Resolve.Options

namespace PlainLink

/-- Which cookies are kept, as the file says it: the listed domains are those
of the rule tables. -/
inductive CookieChoice where
  | rejectAll
  | allowAll
  | allowListed
  deriving DecidableEq, Repr

namespace CookieChoice

def word : CookieChoice → Text
  | rejectAll => "reject_all".toList
  | allowAll => "allow_all".toList
  | allowListed => "allow_listed".toList

def ofWord? (t : Text) : Option CookieChoice :=
  [rejectAll, allowAll, allowListed].find? (·.word == t)

/-- The policy that a choice sets; the listed domains are left to the rule tables. -/
def policy? : CookieChoice → Option CookiePolicy
  | rejectAll => some .rejectAll
  | allowAll => some .allowAll
  | allowListed => none

end CookieChoice

/-- Rule documents on top of the bundled ones. -/
structure RulesConfig where
  includeBundled : Bool := true
  rulesets : List Text := []
  bodyRedirects : List Text := []
  cookieAllow : List Text := []
  deriving DecidableEq, Repr

structure HttpConfig where
  method : Text := "GET".toList
  timeoutSecs : Nat := 8
  maxRedirects : Nat := 13
  maxRetries : Nat := 0
  statusRetry : List Nat := Cause.defaultStatuses
  maxFetchSize : Nat := 1024 * 1024
  parseDocuments : Bool := false
  verifyTls : Bool := true
  caBundle : Option Text := none
  cookiePolicy : CookieChoice := .allowListed
  deriving DecidableEq, Repr

/-- The delays before retries, in seconds. -/
structure RetryConfig where
  baseDelaySecs : Real64 := .ofRatio false 1 4
  maxDelaySecs : Nat := 30
  deriving DecidableEq, Repr

structure Config where
  rules : RulesConfig := {}
  http : HttpConfig := {}
  retry : Option RetryConfig := none
  clean : Option CleanFlags := none
  deriving DecidableEq, Repr

/-- The delays as a policy.  A base delay that is no span of time is none. -/
def RetryConfig.policy (r : RetryConfig) : RetryPolicy :=
  { baseDelay := (Duration.ofReal? r.baseDelaySecs).getD .zero
    maxDelay := .ofSeconds r.maxDelaySecs }

/-- How a configuration resolves URLs. -/
def Config.resolveOptions (c : Config) : ResolveOptions :=
  { method := Text.upper c.http.method
    timeout := .ofSeconds c.http.timeoutSecs
    maxRedirects := c.http.maxRedirects
    repeatedStatuses := c.http.statusRetry
    cookiePolicy := c.http.cookiePolicy.policy?
    tls := { verify := c.http.verifyTls, anchorFile := c.http.caBundle }
    maxBodyBytes := c.http.maxFetchSize
    readPages := c.http.parseDocuments
    clean := c.clean.getD {}
    retry := { (c.retry.map (·.policy)).getD {} with maxRetries := c.http.maxRetries } }

end PlainLink
