/-
# The rules that come with the library

The tables below this module, compiled into one store.
-/
import PlainLink.Rule.Bundled.Networks
import PlainLink.Rule.Bundled.Pages

namespace PlainLink

def Store.compiled : Except LoadError Store := do
  let providers ← (Bundled.sites ++ Bundled.networks).mapM fun (name, p) => p.compile name
  let bodyRules ← Bundled.pages.mapM BodyRuleText.compile
  return ⟨providers, bodyRules, .ofList Bundled.cookieDomains⟩

/-- The rules that come with the library. -/
def Store.bundled : Store :=
  Store.compiled.toOption.getD .empty

end PlainLink
