/-
# Rule tables

A provider gathers the rules for the URLs of one site, a body rule finds a redirection
inside a page, and the list of domains says whose cookies are kept.  A store holds all
three.

Stores are merged by putting the providers and the body rules of one behind those of the
other; none takes the place of another, also where their names are the same.
-/
import PlainLink.Rule.Domains
import PlainLink.Rule.Pattern

namespace PlainLink

/-- The rules for the URLs that a pattern recognises by their origin. -/
structure Provider where
  name : Text
  urlPattern : Pattern
  /-- The whole site serves tracking. -/
  completeProvider : Bool
  /-- Fields that track. -/
  rules : List Pattern
  /-- Parts of the path that track. -/
  rawRules : List Pattern
  /-- Fields that credit a referrer. -/
  referralMarketing : List Pattern
  /-- URLs that are left as they are. -/
  exceptions : List Pattern
  /-- URLs that only lead to another one, which their first group holds. -/
  redirections : List Pattern
  /-- Carried along; nothing depends on it. -/
  forceRedirection : Bool

/-- Rules that find in a page the address to go on to. -/
structure BodyRule where
  providerName : Text
  urlPattern : Option Pattern
  domains : Domains
  /-- Each has a group, and the first one holds the address. -/
  rules : List Pattern

/-- The rules are for the page at `url` on `host`. -/
def BodyRule.appliesTo (b : BodyRule) (host url : Text) : Bool :=
  b.domains.contains host || b.urlPattern.any (·.isMatch url)

structure Store where
  providers : List Provider
  bodyRules : List BodyRule
  /-- The domains whose cookies are kept. -/
  domains : Domains

def Store.empty : Store := ⟨[], [], .empty⟩

/-- The tables of one store, followed by those of another. -/
def Store.merge (s other : Store) : Store :=
  ⟨s.providers ++ other.providers, s.bodyRules ++ other.bodyRules,
    s.domains.absorb other.domains⟩

end PlainLink
