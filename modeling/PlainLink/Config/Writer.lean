/-
# Writing a configuration
-/
import PlainLink.Config.Basic
import PlainLink.Toml.Writer

namespace PlainLink

open Toml

def RulesConfig.text (r : RulesConfig) : Text :=
  writeTable "rules"
    [ writeEntry "include_bundled" (writeBool r.includeBundled),
      writeEntry "rulesets" (writeList (r.rulesets.map writeText)),
      writeEntry "body_redirects" (writeList (r.bodyRedirects.map writeText)),
      writeEntry "cookie_allow" (writeList (r.cookieAllow.map writeText)) ]

def HttpConfig.text (h : HttpConfig) : Text :=
  writeTable "http"
    [ writeEntry "method" (writeText h.method),
      writeEntry "timeout_secs" (Text.ofNat h.timeoutSecs),
      writeEntry "max_redirects" (Text.ofNat h.maxRedirects),
      writeEntry "max_retries" (Text.ofNat h.maxRetries),
      writeEntry "status_retry" (writeList (h.statusRetry.map Text.ofNat)),
      writeEntry "max_fetch_size" (Text.ofNat h.maxFetchSize),
      writeEntry "parse_documents" (writeBool h.parseDocuments),
      writeEntry "verify_tls" (writeBool h.verifyTls),
      match h.caBundle with
        | some path => writeEntry "ca_bundle" (writeText path)
        | none => [],
      writeEntry "cookie_policy" (writeText h.cookiePolicy.word) ]

def RetryConfig.text (r : RetryConfig) : Text :=
  writeTable "retry"
    [ writeEntry "base_delay_secs" r.baseDelaySecs.text,
      writeEntry "max_delay_secs" (Text.ofNat r.maxDelaySecs) ]

/-- The switches for cleaning as a table. -/
def CleanFlags.text (f : CleanFlags) : Text :=
  writeTable "clean"
    [ writeEntry "ignore_referral_marketing" (writeBool f.ignoreReferralMarketing),
      writeEntry "ignore_rules" (writeBool f.ignoreRules),
      writeEntry "ignore_exceptions" (writeBool f.ignoreExceptions),
      writeEntry "ignore_raw_rules" (writeBool f.ignoreRawRules),
      writeEntry "ignore_redirections" (writeBool f.ignoreRedirections),
      writeEntry "skip_blocked" (writeBool f.skipBlocked),
      writeEntry "skip_local" (writeBool f.skipLocal),
      writeEntry "strip_duplicates" (writeBool f.stripDuplicates),
      writeEntry "strip_empty" (writeBool f.stripEmpty) ]

def Config.text (c : Config) : Text :=
  Text.join ['\n'] ([c.rules.text, c.http.text] ++ (c.retry.map (·.text)).toList
    ++ (c.clean.map (·.text)).toList)

end PlainLink
