/-
# Redirections inside pages

Some sites redirect by what stands in the page.  The rules for the site find the address
there: a page is decoded by its label, the first rule for the URL that finds something
wins, and the character references in what it found are resolved.
-/
import PlainLink.Charset.Label
import PlainLink.Http.Transfer
import PlainLink.Rule.Store
import PlainLink.Text.Reference

namespace PlainLink

/-- The body of a response as text. -/
def Response.text (r : Response) : Text :=
  pageText r.headers.charset? r.body

/-- What the first of the rules that matches finds in a page. -/
def BodyRule.find? (b : BodyRule) (page : Text) : Option Text :=
  b.rules.findSome? (·.firstGroup? page)

def BodyRule.applicable (rules : List BodyRule) (current : Url) : List BodyRule :=
  rules.filter (·.appliesTo current.host current.text)

/-- The address that a page at `current` redirects to. -/
def pageTarget? (rules : List BodyRule) (current : Url) (response : Response) : Option Text :=
  match BodyRule.applicable rules current with
  | [] => none
  | applicable => (applicable.findSome? (·.find? response.text)).map Text.unescape

end PlainLink
