/-
# Rules for large sites

The rules for every URL, and those for the sites where tracked links are met most.
-/
import PlainLink.Rule.Document

namespace PlainLink.Bundled

def texts (rules : List String) : List Text :=
  rules.map String.toList

def globalRules : ProviderText where
  urlPattern := ".*".toList
  rules := texts [
    "(?:%3F)?utm(?:_[a-z_]*)?", "(?:%3F)?ga_[a-z_]+", "(?:%3F)?yclid", "(?:%3F)?_openstat",
    "(?:%3F)?fb_action_(?:types|ids)", "(?:%3F)?fb_(?:source|ref)", "(?:%3F)?fbclid",
    "(?:%3F)?action_(?:object|type|ref)_map", "(?:%3F)?gs_l", "(?:%3F)?mkt_tok",
    "(?:%3F)?hmb_(?:campaign|medium|source)", "(?:%3F)?gclid", "(?:%3F)?srsltid",
    "(?:%3F)?otm_[a-z_]*", "(?:%3F)?cmpid", "(?:%3F)?os_ehash", "(?:%3F)?_ga", "(?:%3F)?_gl",
    "(?:%3F)?__twitter_impression", "(?:%3F)?wt_?z?mc", "(?:%3F)?wtrid", "(?:%3F)?dclid",
    "Echobox", "(?:%3F)?spm", "(?:%3F)?vn(?:_[a-z]*)+", "(?:%3F)?tracking_source",
    "(?:%3F)?ceneo_spo", "(?:%3F)?itm_(?:campaign|medium|source|content|term)", "(?:%3F)?__hsfp",
    "(?:%3F)?__hssc", "(?:%3F)?__hstc", "(?:%3F)?_hsenc", "(?:%3F)?__s", "(?:%3F)?hsCtaTracking",
    "(?:%3F)?mc_(?:eid|cid|tc)", "(?:%3F)?ml_subscriber(?:_hash)?", "(?:%3F)?msclkid",
    "(?:%3F)?oly_anon_id", "(?:%3F)?oly_enc_id", "(?:%3F)?rb_clickid", "(?:%3F)?s_cid",
    "(?:%3F)?vero_conv", "(?:%3F)?vero_id", "(?:%3F)?wickedid", "(?:%3F)?twclid",
    "(?:%3F)?gbraid", "(?:%3F)?wbraid", "(?:%3F)?_hsmi", "(?:%3F)?irclickid"]
  referralMarketing := texts ["(?:%3F)?ref_?", "(?:%3F)?referrer"]
  exceptions := texts [
    "^https?:\\/\\/[^/]+/[^/]+/[^/]+/-/merge_requests/new.*",
    "^https?:\\/\\/(?:[a-z0-9-]+\\.)*?myaccount\\.google(?:\\.[a-z]\x7b2,\x7d)\x7b1,\x7d",
    "^https?:\\/\\/(?:[a-z0-9-]+\\.)*?accounts\\.google(?:\\.[a-z]\x7b2,\x7d)\x7b1,\x7d",
    "^https?:\\/\\/(?:[a-z0-9-]+\\.)*?matrix\\.org\\/_matrix\\/",
    "^https?:\\/\\/(?:[a-z0-9-]+\\.)*?zoom\\.us\\/",
    "^wss?:\\/\\/(?:[a-z0-9-]+\\.)*?zoom\\.us\\/"]

def amazon : ProviderText where
  urlPattern := "^https?:\\/\\/(?:[a-z0-9-]+\\.)*?amazon(?:\\.[a-z]\x7b2,\x7d)\x7b1,\x7d".toList
  rules := texts [
    "p[fd]_rd_[a-z]*", "qid", "srs?", "__mk_[a-z]\x7b1,3\x7d_[a-z]\x7b1,3\x7d", "spIA", "ms3_c",
    "refRID", "colii?d", "qualifier", "_encoding", "smid", "field-lbr_brands_browse-bin",
    "ref_?", "th", "sprefix", "crid", "keywords", "cv_ct_[a-z]+", "linkCode", "creativeASIN",
    "ascsubtag", "aaxitk", "hsa_cr_id", "sb-ci-[a-z]+", "rnid", "dchild", "camp", "creative",
    "content-id", "dib", "dib_tag", "social_share", "starsLeft", "skipTwisterOG", "_ref"]
  rawRules := texts ["\\/ref=[^\\/?]*"]
  referralMarketing := texts ["tag", "ascsubtag"]
  exceptions := texts [
    "^https?:\\/\\/(?:[a-z0-9-]+\\.)*?amazon(?:\\.[a-z]\x7b2,\x7d)\x7b1,\x7d\\/gp\\/.*?(?:redirector.html|cart\\/ajax-update.html|video\\/api\\/)",
    "^https?:\\/\\/(?:[a-z0-9-]+\\.)*?amazon(?:\\.[a-z]\x7b2,\x7d)\x7b1,\x7d\\/(?:hz\\/reviews-render\\/ajax\\/|message-us\\?|s\\?.*?search-alias=)"]

def google : ProviderText where
  urlPattern := "^https?:\\/\\/(?:[a-z0-9-]+\\.)*?google(?:\\.[a-z]\x7b2,\x7d)\x7b1,\x7d".toList
  rules := texts [
    "ved", "bi[a-zA-Z]*", "gfe_[a-z]*", "ei", "source", "gs_[a-z]*", "site", "oq", "esrc",
    "uact", "cd", "cad", "gws_[a-z]*", "atyp", "vet", "zx", "_u", "je", "dcr", "ie", "sei", "sa",
    "dpr", "btn[a-zA-Z]*", "usg", "aqs", "sourceid", "sxsrf", "rlz",
    "i-would-rather-use-firefox", "pcampaignid", "sca_esv", "sca_upv", "iflsig", "fbs", "ictx",
    "cshid"]
  referralMarketing := texts ["referrer"]
  exceptions := texts [
    "^https?:\\/\\/mail\\.google\\.com\\/mail\\/u\\/",
    "^https?:\\/\\/(?:docs|accounts|myaccount)\\.google(?:\\.[a-z]\x7b2,\x7d)\x7b1,\x7d",
    "^https?:\\/\\/(?:[a-z0-9-]+\\.)*?google(?:\\.[a-z]\x7b2,\x7d)\x7b1,\x7d(?::[0-9]+)?\\/(?:complete\\/search|setprefs|searchbyimage)",
    "^https?:\\/\\/(?:[a-z0-9-]+\\.)*?google(?:\\.[a-z]\x7b2,\x7d)\x7b1,\x7d(?::[0-9]+)?\\/(?:appsactivity|aclk\\?)",
    "^https?:\\/\\/(?:[a-z0-9-]+\\.)*?google(?:\\.[a-z]\x7b2,\x7d)\x7b1,\x7d(?::[0-9]+)?\\/safe[-]?browsing"]
  redirections := texts [
    "^https?:\\/\\/(?:[a-z0-9-]+\\.)*?google(?:\\.[a-z]\x7b2,\x7d)\x7b1,\x7d\\/url\\?.*?(?:url|q)=(https?[^&]+)",
    "^https?:\\/\\/(?:[a-z0-9-]+\\.)*?google(?:\\.[a-z]\x7b2,\x7d)\x7b1,\x7d\\/.*?adurl=([^&]+)",
    "^https?:\\/\\/(?:[a-z0-9-]+\\.)*?google(?:\\.[a-z]\x7b2,\x7d)\x7b1,\x7d\\/amp\\/s\\/([^&]+)"]

def deezer : ProviderText where
  urlPattern := "^https?:\\/\\/(?:[a-z0-9-]+\\.)*?deezer\\.com".toList
  rules := texts ["utm_campaign", "utm_content", "utm_medium", "utm_source",
    "utm_term", "deferredFl"]

def natura : ProviderText where
  urlPattern := "^https?:\\/\\/(?:[a-z0-9-]+\\.)*?natura\\.com\\.br".toList
  rules := texts ["iprom_[a-z_]+"]
  referralMarketing := texts ["consultoria"]

/-- Rules for the URLs of dartsearch.net. -/
def dartsearchNet : ProviderText where
  urlPattern := "^https?:\\/\\/(?:[a-z0-9-]+\\.)*?dartsearch\\.net".toList
  completeProvider := true
  redirections := texts [
    "^https?:\\/\\/(?:[a-z0-9-]+\\.)*?dartsearch\\.net.*?adurl=([^&]+)",
    "^https?:\\/\\/(?:[a-z0-9-]+\\.)*?dartsearch\\.net.*?ds_dest_url=([^&]+)"]
  forceRedirection := true

/-- Rules for the URLs of doubleclick. -/
def doubleclick : ProviderText where
  urlPattern :=
    "^https?:\\/\\/(?:[a-z0-9-]+\\.)*?doubleclick(?:\\.[a-z]\x7b2,\x7d)\x7b1,\x7d".toList
  completeProvider := true
  redirections := texts [
    "^https?:\\/\\/(?:[a-z0-9-]+\\.)*?doubleclick(?:\\.[a-z]\x7b2,\x7d)\x7b1,\x7d\\/.*?adurl=([^&]+)"]
  forceRedirection := true

/-- Rules for the URLs of shareasale. -/
def shareasale : ProviderText where
  urlPattern := "^https?:\\/\\/(?:[a-z0-9-]+\\.)*?shareasale\\.com".toList
  redirections :=
    texts ["^https?:\\/\\/(?:[a-z0-9-]+\\.)*?shareasale\\.com\\/r\\.cfm.*?&urllink=([^&]+)"]

/-- Rules for the URLs of facebook. -/
def facebook : ProviderText where
  urlPattern := "^https?:\\/\\/(?:[a-z0-9-]+\\.)*?facebook\\.com".toList
  rules := texts [
    "hc_[a-z_%\\[\\]0-9]*", "[a-z]*ref[a-z]*", "__tn__", "eid",
    "__(?:xts|cft)__(?:\\[|%5B)[0-9](?:\\]|%5D)", "comment_tracking", "dti", "app",
    "video_source", "ftentidentifier", "pageid", "padding", "ls_ref", "action_history",
    "mibextid"]
  exceptions := texts [
    "^https?:\\/\\/(?:[a-z0-9-]+\\.)*?facebook\\.com\\/.*?(?:plugins|ajax)\\/",
    "^https?:\\/\\/(?:[a-z0-9-]+\\.)*?facebook\\.com\\/dialog\\/(?:share|send)",
    "^https?:\\/\\/(?:[a-z0-9-]+\\.)*?facebook\\.com\\/groups\\/member_bio\\/bio_dialog\\/"]
  redirections :=
    texts ["^https?:\\/\\/l[a-z]?\\.facebook\\.com\\/l\\.php\\?.*?u=(https?%3A%2F%2F[^&]+)"]
  forceRedirection := true

def youtube : ProviderText where
  urlPattern := "^https?:\\/\\/(?:[a-z0-9-]+\\.)*?youtube\\.com".toList
  rules := texts ["feature", "gclid", "kw", "si", "pp"]
  exceptions := texts ["^https?:\\/\\/(?:[a-z0-9-]+\\.)*?youtube\\.com\\/signin\\?.*?"]
  redirections :=
    texts ["^https?:\\/\\/(?:[a-z0-9-]+\\.)*?youtube\\.com\\/redirect?.*?q=([^&]+)"]

def twitter : ProviderText where
  urlPattern := "^https?:\\/\\/(?:[a-z0-9-]+\\.)*?(?:x|twitter)\\.com".toList
  rules := texts ["(?:ref_?)?src", "s", "cn", "ref_url", "t"]
  exceptions := texts ["^https?:\\/\\/twitter\\.com\\/i\\/redirect"]

def reddit : ProviderText where
  urlPattern := "^https?:\\/\\/(?:[a-z0-9-]+\\.)*?reddit\\.com".toList
  rules := texts [
    "%24deep_link", "\\$deep_link", "correlation_id", "ref_campaign", "ref_source", "%243p",
    "rdt", "\\$3p", "%24original_url", "\\$original_url", "_branch_match_id", "share_id"]
  redirections := texts ["^https?:\\/\\/out\\.reddit\\.com\\/.*?url=([^&]*)"]

def bing : ProviderText where
  urlPattern := "^https?:\\/\\/(?:[a-z0-9-]+\\.)*?bing(?:\\.[a-z]\x7b2,\x7d)\x7b1,\x7d".toList
  rules := texts ["cvid", "form", "sk", "sp", "sc", "qs", "qp"]
  exceptions :=
    texts ["^https?:\\/\\/(?:[a-z0-9-]+\\.)*?bing(?:\\.[a-z]\x7b2,\x7d)\x7b1,\x7d\\/WS\\/redirect\\/"]

/-- Rules for the URLs of aliexpress. -/
def aliexpress : ProviderText where
  urlPattern :=
    "^https?:\\/\\/(?:[a-z0-9-]+\\.)*?aliexpress(?:\\.[a-z]\x7b2,\x7d)\x7b1,\x7d".toList
  rules := texts [
    "ws_ab_test", "btsid", "algo_expid", "algo_pvid", "gps-id", "scm[_a-z-]*", "cv", "af",
    "mall_affr", "sk", "dp", "terminal_id", "aff_request_id"]
  exceptions := texts [
    "^https?:\\/\\/(?:[a-z0-9-]+\\.)*?aliexpress(?:\\.[a-z]\x7b2,\x7d)\x7b1,\x7d\\/(?:[a-z]+\\/)?login"]

/-- The sites, in the order in which their rules are applied. -/
def sites : List (Text × ProviderText) :=
  [ ("globalRules".toList, globalRules),
    ("amazon".toList, amazon),
    ("google".toList, google),
    ("deezer".toList, deezer),
    ("natura".toList, natura),
    ("dartsearch.net".toList, dartsearchNet),
    ("doubleclick".toList, doubleclick),
    ("shareasale".toList, shareasale),
    ("facebook".toList, facebook),
    ("youtube".toList, youtube),
    ("twitter".toList, twitter),
    ("reddit".toList, reddit),
    ("bing".toList, bing),
    ("aliexpress".toList, aliexpress) ]

end PlainLink.Bundled
