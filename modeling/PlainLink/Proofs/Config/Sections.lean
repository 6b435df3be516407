/-
# The sections of a configuration

A configuration is written as a document of sections: the rules, the requests, and the
delays and the switches if it has any.  Each line of a key is read back, as long as its
numbers fit into what a document can hold.

`Writable` says which those are.  The numbers of a document have 64 bits, one of them
for the sign, and what a configuration holds has no sign: the upper half of it could not
be read back.

Main statements: `Config.text_eq`, `Config.Writable.wellFormed`.
-/
import PlainLink.Config.Reader
import PlainLink.Proofs.Toml.Document

namespace PlainLink

open Toml

namespace Toml

/-! ## Lines of keys -/

instance (name : Text) : Decidable (Bare name) :=
  decidable_of_iff (name ≠ [] ∧ name.all isBareChar)
    ⟨fun h => ⟨h.1, List.all_eq_true.1 h.2⟩, fun h => ⟨h.1, List.all_eq_true.2 h.2⟩⟩

namespace KeyLine

def ofBool (name : String) (b : Bool) : KeyLine :=
  ⟨name, writeBool b, bool b⟩

def ofNat (name : String) (n : Nat) : KeyLine :=
  ⟨name, Text.ofNat n, int n⟩

def ofReal (name : String) (x : Real64) : KeyLine :=
  ⟨name, x.text, real x⟩

def ofText (name : String) (t : Text) : KeyLine :=
  ⟨name, writeText t, .text t⟩

def ofTexts (name : String) (ts : List Text) : KeyLine :=
  ⟨name, writeList (ts.map writeText), array (ts.map .text)⟩

def ofNats (name : String) (ns : List Nat) : KeyLine :=
  ⟨name, writeList (ns.map Text.ofNat), array (ns.map fun n : Nat => int n)⟩

variable {name : String}

theorem wellFormed_ofBool (h : Bare name.toList) (b : Bool) : (ofBool name b).WellFormed :=
  ⟨h, (readsScalar_bool b).reads⟩

theorem wellFormed_ofNat (h : Bare name.toList) {n : Nat} (hn : n < Nat.pow 2 63) :
    (ofNat name n).WellFormed :=
  ⟨h, (readsScalar_ofNat hn).reads⟩

theorem wellFormed_ofReal (h : Bare name.toList) {x : Real64} (hx : x.IsStored) :
    (ofReal name x).WellFormed :=
  ⟨h, (readsScalar_real hx).reads⟩

theorem wellFormed_ofText (h : Bare name.toList) (t : Text) : (ofText name t).WellFormed :=
  ⟨h, (readsScalar_text t).reads⟩

theorem wellFormed_ofTexts (h : Bare name.toList) (ts : List Text) :
    (ofTexts name ts).WellFormed :=
  ⟨h, reads_list fun t _ => readsScalar_text t⟩

theorem wellFormed_ofNats (h : Bare name.toList) {ns : List Nat}
    (hns : ∀ n ∈ ns, n < Nat.pow 2 63) :
    (ofNats name ns).WellFormed := by
  have hreads : Reads (writeList (ns.map Text.ofNat)) (array (ns.map fun n : Nat => int n)) :=
    reads_list fun n hn => readsScalar_ofNat (hns n hn)
  exact ⟨h, hreads⟩

end KeyLine

end Toml

/-! ## Sections -/

def RulesConfig.section (r : RulesConfig) : Section :=
  ⟨"rules",
    [ .ofBool "include_bundled" r.includeBundled,
      .ofTexts "rulesets" r.rulesets,
      .ofTexts "body_redirects" r.bodyRedirects,
      .ofTexts "cookie_allow" r.cookieAllow ]⟩

def HttpConfig.section (h : HttpConfig) : Section :=
  ⟨"http",
    [ .ofText "method" h.method,
      .ofNat "timeout_secs" h.timeoutSecs,
      .ofNat "max_redirects" h.maxRedirects,
      .ofNat "max_retries" h.maxRetries,
      .ofNats "status_retry" h.statusRetry,
      .ofNat "max_fetch_size" h.maxFetchSize,
      .ofBool "parse_documents" h.parseDocuments,
      .ofBool "verify_tls" h.verifyTls ] ++
    (h.caBundle.map (.ofText "ca_bundle")).toList ++
    [ .ofText "cookie_policy" h.cookiePolicy.word ]⟩

def RetryConfig.section (r : RetryConfig) : Section :=
  ⟨"retry",
    [ .ofReal "base_delay_secs" r.baseDelaySecs,
      .ofNat "max_delay_secs" r.maxDelaySecs ]⟩

def CleanFlags.section (f : CleanFlags) : Section :=
  ⟨"clean",
    [ .ofBool "ignore_referral_marketing" f.ignoreReferralMarketing,
      .ofBool "ignore_rules" f.ignoreRules,
      .ofBool "ignore_exceptions" f.ignoreExceptions,
      .ofBool "ignore_raw_rules" f.ignoreRawRules,
      .ofBool "ignore_redirections" f.ignoreRedirections,
      .ofBool "skip_blocked" f.skipBlocked,
      .ofBool "skip_local" f.skipLocal,
      .ofBool "strip_duplicates" f.stripDuplicates,
      .ofBool "strip_empty" f.stripEmpty ]⟩

/-- The sections of a configuration, in the order of the file. -/
def Config.sections (c : Config) : List Section :=
  [c.rules.section, c.http.section] ++ (c.retry.map (·.section)).toList ++
    (c.clean.map (·.section)).toList

theorem HttpConfig.text_section (h : HttpConfig) : h.section.text = h.text := by
  obtain ⟨_, _, _, _, _, _, _, _, caBundle, _⟩ := h
  cases caBundle <;> rfl

/-- The sections make up the file. -/
theorem Config.text_eq (c : Config) : Text.join ['\n'] (c.sections.map (·.text)) = c.text := by
  have hretry :
      (c.retry.map (·.section)).toList.map (·.text) = (c.retry.map (·.text)).toList := by
    cases c.retry <;> rfl
  have hclean :
      (c.clean.map (·.section)).toList.map (·.text) = (c.clean.map (·.text)).toList := by
    cases c.clean <;> rfl
  have hfirst : [c.rules.section, c.http.section].map (·.text) = [c.rules.text, c.http.text] :=
    congrArg (fun t => [c.rules.text, t]) c.http.text_section
  rw [Config.sections, List.map_append, List.map_append, hfirst, hretry, hclean, Config.text]

/-! ## What can be written -/

theorem lt_of_le_maxNat32 {n : Nat} (h : n ≤ maxNat32) : n < Nat.pow 2 63 :=
  lt_of_le_of_lt h (by decide)

/-- The numbers of a document have 64 bits, one of them for the sign; the counts and
the statuses have 32. -/
structure HttpConfig.Writable (h : HttpConfig) : Prop where
  timeoutSecs : h.timeoutSecs < Nat.pow 2 63
  maxRedirects : h.maxRedirects ≤ maxNat32
  maxRetries : h.maxRetries ≤ maxNat32
  statusRetry : ∀ n ∈ h.statusRetry, n ≤ maxNat32
  maxFetchSize : h.maxFetchSize < Nat.pow 2 63

structure RetryConfig.Writable (r : RetryConfig) : Prop where
  baseDelaySecs : r.baseDelaySecs.IsStored
  maxDelaySecs : r.maxDelaySecs < Nat.pow 2 63

/-- The configuration can be written to a file. -/
structure Config.Writable (c : Config) : Prop where
  http : c.http.Writable
  retry : ∀ r ∈ c.retry, r.Writable

theorem RulesConfig.wellFormed_section (r : RulesConfig) : r.section.WellFormed := by
  refine ⟨(by decide : Bare "rules".toList), fun line hline => ?_, ?_⟩
  · simp only [RulesConfig.section, List.mem_cons, List.not_mem_nil, or_false] at hline
    rcases hline with rfl | rfl | rfl | rfl
    · exact KeyLine.wellFormed_ofBool (by decide) _
    all_goals exact KeyLine.wellFormed_ofTexts (by decide) _
  · show ["include_bundled", "rulesets", "body_redirects", "cookie_allow"].Nodup
    decide

theorem HttpConfig.names_section (h : HttpConfig) : h.section.lines.map (·.name) =
    ["method", "timeout_secs", "max_redirects", "max_retries", "status_retry", "max_fetch_size",
      "parse_documents", "verify_tls"] ++ (h.caBundle.map fun _ => "ca_bundle").toList ++
        ["cookie_policy"] := by
  obtain ⟨_, _, _, _, _, _, _, _, caBundle, _⟩ := h
  cases caBundle <;> rfl

theorem HttpConfig.nodup_names (h : HttpConfig) : (h.section.lines.map (·.name)).Nodup := by
  rw [h.names_section]
  cases h.caBundle with
  | none =>
    exact (by decide : ["method", "timeout_secs", "max_redirects", "max_retries", "status_retry",
      "max_fetch_size", "parse_documents", "verify_tls", "cookie_policy"].Nodup)
  | some path =>
    exact (by decide : ["method", "timeout_secs", "max_redirects", "max_retries", "status_retry",
      "max_fetch_size", "parse_documents", "verify_tls", "ca_bundle", "cookie_policy"].Nodup)

theorem HttpConfig.Writable.wellFormed_section {h : HttpConfig} (hh : h.Writable) :
    h.section.WellFormed := by
  refine ⟨(by decide : Bare "http".toList), fun line hline => ?_, h.nodup_names⟩
  simp only [HttpConfig.section, List.mem_append, List.mem_cons, List.not_mem_nil, or_false,
    Option.mem_toList, Option.map_eq_some_iff] at hline
  rcases hline with (((rfl | rfl | rfl | rfl | rfl | rfl | rfl | rfl) | ⟨path, -, rfl⟩) | rfl)
  · exact KeyLine.wellFormed_ofText (by decide) _
  · exact KeyLine.wellFormed_ofNat (by decide) hh.timeoutSecs
  · exact KeyLine.wellFormed_ofNat (by decide) (lt_of_le_maxNat32 hh.maxRedirects)
  · exact KeyLine.wellFormed_ofNat (by decide) (lt_of_le_maxNat32 hh.maxRetries)
  · exact KeyLine.wellFormed_ofNats (by decide) fun n hn =>
      lt_of_le_maxNat32 (hh.statusRetry n hn)
  · exact KeyLine.wellFormed_ofNat (by decide) hh.maxFetchSize
  · exact KeyLine.wellFormed_ofBool (by decide) _
  · exact KeyLine.wellFormed_ofBool (by decide) _
  · exact KeyLine.wellFormed_ofText (by decide) _
  · exact KeyLine.wellFormed_ofText (by decide) _

theorem RetryConfig.Writable.wellFormed_section {r : RetryConfig} (hr : r.Writable) :
    r.section.WellFormed := by
  refine ⟨(by decide : Bare "retry".toList), fun line hline => ?_, ?_⟩
  · simp only [RetryConfig.section, List.mem_cons, List.not_mem_nil, or_false] at hline
    rcases hline with rfl | rfl
    · exact KeyLine.wellFormed_ofReal (by decide) hr.baseDelaySecs
    · exact KeyLine.wellFormed_ofNat (by decide) hr.maxDelaySecs
  · show ["base_delay_secs", "max_delay_secs"].Nodup
    decide

theorem CleanFlags.wellFormed_section (f : CleanFlags) : f.section.WellFormed := by
  refine ⟨(by decide : Bare "clean".toList), fun line hline => ?_, ?_⟩
  · simp only [CleanFlags.section, List.mem_cons, List.not_mem_nil, or_false] at hline
    rcases hline with rfl | rfl | rfl | rfl | rfl | rfl | rfl | rfl | rfl
    all_goals exact KeyLine.wellFormed_ofBool (by decide) _
  · show ["ignore_referral_marketing", "ignore_rules", "ignore_exceptions", "ignore_raw_rules",
      "ignore_redirections", "skip_blocked", "skip_local", "strip_duplicates",
        "strip_empty"].Nodup
    decide

theorem Config.Writable.wellFormed {c : Config} (hc : c.Writable) :
    ∀ s ∈ c.sections, s.WellFormed := by
  intro s hs
  simp only [Config.sections, List.mem_append, List.mem_cons, List.not_mem_nil, or_false,
    Option.mem_toList, Option.map_eq_some_iff] at hs
  rcases hs with ((rfl | rfl) | ⟨r, hr, rfl⟩) | ⟨f, -, rfl⟩
  · exact c.rules.wellFormed_section
  · exact hc.http.wellFormed_section
  · exact (hc.retry r hr).wellFormed_section
  · exact f.wellFormed_section

theorem Config.names_sections (c : Config) : c.sections.map (·.name) =
    ["rules", "http"] ++ (c.retry.map fun _ => "retry").toList ++
      (c.clean.map fun _ => "clean").toList := by
  obtain ⟨rules, http, retry, clean⟩ := c
  cases retry <;> cases clean <;> rfl

theorem Config.nodup_sections (c : Config) : (c.sections.map (·.name)).Nodup := by
  rw [c.names_sections]
  cases c.retry <;> cases c.clean <;> simp

end PlainLink
