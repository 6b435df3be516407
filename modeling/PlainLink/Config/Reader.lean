/-
# Reading a configuration

A table of the file need not set everything, and what it sets beyond the known names
does not count.  Only the delays before retries are all or nothing.

A missing file is a configuration in which everything has its default.  A file that is
there, but is not UTF-8, no document, or has a value of the wrong kind, is refused as a
whole: there is no configuration in which some of its settings count.  The numbers of a
document are signed, so that what is negative or too large for its place is refused as
well.
-/
import PlainLink.Config.Writer
import PlainLink.Rule.Bundled
import PlainLink.Toml.Parser

namespace PlainLink

namespace Toml

/-! ## Values of the expected kind -/

def text? : Toml → Option Text
  | text t => some t
  | _ => none

def flag? : Toml → Option Bool
  | bool b => some b
  | _ => none

/-- A whole number from 0 to `most`. -/
def nat? (most : Nat) : Toml → Option Nat
  | int n => if 0 ≤ n ∧ n ≤ most then some n.toNat else none
  | _ => none

/-- A floating-point number, which may be written as a whole one. -/
def real64? : Toml → Option Real64
  | real x => some x
  | int n => some (.ofInt n)
  | _ => none

def list? {α : Type} (read : Toml → Option α) : Toml → Option (List α)
  | array items => items.mapM read
  | _ => none

/-- The value is an empty table or list. -/
def isEmpty : Toml → Bool
  | array items => items.isEmpty
  | table _ entries => entries.isEmpty
  | _ => false

/-- The word that a value is, alone or as the only name of a table without content. -/
def word? : Toml → Option Text
  | text t => some t
  | table _ [(name, value)] => if value.isEmpty then some name else none
  | _ => none

/-- The fields of a record.  It may be written as a list of its values in the order of `names`;
a date has no field that counts. -/
def fields? (names : List String) : Toml → Option Entries
  | table _ entries => some entries
  | array items => some ((names.map String.toList).zip items)
  | date => some []
  | _ => none

def field? {α : Type} (entries : Entries) (name : String) (missing : α)
    (read : Toml → Option α) :
    Option α :=
  match get? name.toList entries with
  | some value => read value
  | none => some missing

end Toml

open Toml

/-! ## Tables -/

/-- The greatest number of 32 bits. -/
def maxNat32 : Nat := UInt32.size - 1

/-- The greatest number of 64 bits. -/
def maxNat64 : Nat := UInt64.size - 1

/-- The rule documents that a value names. -/
def RulesConfig.ofToml? (value : Toml) : Option RulesConfig := do
  let fields ← value.fields? ["include_bundled", "rulesets", "body_redirects", "cookie_allow"]
  return {
    includeBundled := ← field? fields "include_bundled" true flag?
    rulesets := ← field? fields "rulesets" [] (list? text?)
    bodyRedirects := ← field? fields "body_redirects" [] (list? text?)
    cookieAllow := ← field? fields "cookie_allow" [] (list? text?) }

/-- The settings for requests that a value gives. -/
def HttpConfig.ofToml? (value : Toml) : Option HttpConfig := do
  let fields ← value.fields? ["method", "timeout_secs", "max_redirects", "max_retries",
    "status_retry", "max_fetch_size", "parse_documents", "verify_tls", "ca_bundle",
      "cookie_policy"]
  let missing : HttpConfig := {}
  return {
    method := ← field? fields "method" missing.method text?
    timeoutSecs := ← field? fields "timeout_secs" missing.timeoutSecs (nat? maxNat64)
    maxRedirects := ← field? fields "max_redirects" missing.maxRedirects (nat? maxNat32)
    maxRetries := ← field? fields "max_retries" missing.maxRetries (nat? maxNat32)
    statusRetry := ← field? fields "status_retry" missing.statusRetry (list? (nat? maxNat32))
    maxFetchSize := ← field? fields "max_fetch_size" missing.maxFetchSize (nat? maxNat64)
    parseDocuments := ← field? fields "parse_documents" missing.parseDocuments flag?
    verifyTls := ← field? fields "verify_tls" missing.verifyTls flag?
    caBundle := ← field? fields "ca_bundle" none fun v => v.text?.map some
    cookiePolicy := ← field? fields "cookie_policy" missing.cookiePolicy fun v =>
      v.word?.bind CookieChoice.ofWord? }

/-- The delays that a value gives; none of them may be missing. -/
def RetryConfig.ofToml? (value : Toml) : Option RetryConfig := do
  let fields ← value.fields? ["base_delay_secs", "max_delay_secs"]
  return {
    baseDelaySecs := ← (← get? "base_delay_secs".toList fields).real64?
    maxDelaySecs := ← (← get? "max_delay_secs".toList fields).nat? maxNat64 }

/-- The switches that a value sets. -/
def CleanFlags.ofToml? (value : Toml) : Option CleanFlags := do
  let names := ["ignore_referral_marketing", "ignore_rules", "ignore_exceptions",
    "ignore_raw_rules", "ignore_redirections", "skip_blocked", "skip_local", "strip_duplicates",
    "strip_empty"]
  let fields ← value.fields? names
  let flag (name : String) := field? fields name false flag?
  return {
    ignoreReferralMarketing := ← flag "ignore_referral_marketing"
    ignoreRules := ← flag "ignore_rules"
    ignoreExceptions := ← flag "ignore_exceptions"
    ignoreRawRules := ← flag "ignore_raw_rules"
    ignoreRedirections := ← flag "ignore_redirections"
    skipBlocked := ← flag "skip_blocked"
    skipLocal := ← flag "skip_local"
    stripDuplicates := ← flag "strip_duplicates"
    stripEmpty := ← flag "strip_empty" }

/-! ## Files -/

namespace Config

/-- The configuration of the entries of a file. -/
def ofToml? (entries : Entries) : Option Config := do
  return {
    rules := ← field? entries "rules" {} RulesConfig.ofToml?
    http := ← field? entries "http" {} HttpConfig.ofToml?
    retry := ← field? entries "retry" none fun v => (RetryConfig.ofToml? v).map some
    clean := ← field? entries "clean" none fun v => (CleanFlags.ofToml? v).map some }

/-- The configuration that a text spells. -/
def parse? (t : Text) : Option Config :=
  (Toml.parse? t).bind ofToml?

end Config

/-- Why a configuration does not work. -/
inductive ConfigError where
  /-- The file is no text. -/
  | unreadable
  /-- The file is not TOML, or sets something to a value that is none. -/
  | malformed
  | rules (cause : LoadError)
  deriving DecidableEq, Repr

def ConfigError.message : ConfigError → Text
  | unreadable => "read".toList
  | malformed => "parse".toList
  | rules _ => "load configured rule documents".toList

namespace Config

/-- The configuration of a file.  If there is none yet, the file with the defaults is given
too, to be created. -/
def load (file : Option Bytes) : Except ConfigError (Config × Option Text) :=
  match file with
  | none => .ok ({}, some (Config.text {}))
  | some bytes =>
    match Utf8.decode? bytes with
    | none => .error .unreadable
    | some t =>
      match parse? t with
      | none => .error .malformed
      | some c => .ok (c, none)

end Config

/-- The documents that a configuration names, with what their files hold. -/
def RulesConfig.files (content : Text → Option Bytes) (r : RulesConfig) : RuleFiles :=
  let files (paths : List Text) := paths.map fun path => (⟨path, content path⟩ : RuleFile)
  ⟨files r.rulesets, files r.bodyRedirects, files r.cookieAllow⟩

/-- The rule tables of a configuration. -/
def RulesConfig.store (content : Text → Option Bytes) (r : RulesConfig) :
    Except ConfigError Store :=
  match Store.load (r.files content) with
  | .error e => .error (.rules e)
  | .ok extra => .ok (if r.includeBundled then Store.bundled.merge extra else extra)

end PlainLink
