/-
# Rules for redirecting pages

Some shorteners answer with a page that sends the browser on.  The body rules find the
address in such a page; the domains are those whose cookies are needed on the way.
-/
import PlainLink.Rule.Bundled.Sites

namespace PlainLink.Bundled

/-- The pages, in the order in which their rules are tried. -/
def pages : List BodyRuleText :=
  [ { providerName := "t.co".toList
      urlPattern := some "^https?:\\/\\/t\\.co\\/".toList
      domains := texts ["t.co"]
      rules := texts [
        "(?i)<meta\\s+http-equiv=\"refresh\"\\s+content=\"0;\\s*url=([^\"]+)\""] },
    { providerName := "href.li".toList
      urlPattern := none
      domains := texts ["href.li"]
      rules := texts [
        "(?i)<meta\\s+http-equiv=\"refresh\"\\s+content=\"0;\\s*url=([^\"]+)\""] },
    { providerName := "lnkd.in".toList
      urlPattern := some "^https?:\\/\\/lnkd\\.in\\/".toList
      domains := texts ["lnkd.in"]
      rules := texts [
        "<a[^>]+data-tracking-will-navigate[^>]+href=\"([^\"]+)\""] },
    { providerName := "l.facebook.com".toList
      urlPattern := some "^https?:\\/\\/l[a-z]?\\.facebook\\.com\\/".toList
      domains := texts ["l.facebook.com", "lm.facebook.com"]
      rules := texts [
        "document\\.location\\.replace\\(\"(https?:[^\"]+)\"\\)"] } ]

/-- The domains whose cookies are kept. -/
def cookieDomains : List Text := texts [
  "nytimes.com", "www.nytimes.com", "washingtonpost.com", "www.washingtonpost.com",
  "tinyurl.com", "bit.ly", "t.co", "lnkd.in", "www.linkedin.com", "www.facebook.com",
  "www.instagram.com", "consent.youtube.com", "consent.google.com"]

end PlainLink.Bundled
