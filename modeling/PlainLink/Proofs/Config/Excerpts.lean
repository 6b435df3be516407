/-
# Excerpts of a configuration

What is left of the file of a configuration when sections and keys are taken out of it.
Each section is read from the keys that it has: one that is left has its value, and one
that is missing has its default.  Only the delays have no defaults of their own: a
section of delays that lacks one of them is no configuration.

An `Excerpt` says which sections are left and which keys of them, and any choice will
do.  The text of the excerpt is followed through the reader of documents to its entries
(`Excerpt.document`), and these through the readers of the sections.  All sections are
alike in this; `field?_entries` is the one fact about keys that is used of each.

Main statement: `Config.load_excerpt`.
-/
import PlainLink.Proofs.Config.Sections
import PlainLink.Proofs.Text.Utf8

namespace PlainLink

open Toml

/-- Which sections are left of a file, and which keys of them. -/
structure Config.Excerpt where
  hasSection : String → Bool
  hasKey : String → String → Bool

namespace Config.Excerpt

/-- The section with the lines that are left of it. -/
def cut (e : Excerpt) (s : Section) : Section :=
  ⟨s.name, s.lines.filter fun line => e.hasKey s.name line.name⟩

/-- What is left of the file of a configuration. -/
def text (e : Excerpt) (c : Config) : Text :=
  Text.join ['\n'] (((c.sections.filter fun s => e.hasSection s.name).map e.cut).map (·.text))

/-- The value of a key that is left, or the default of one that is not. -/
def value {α : Type} (e : Excerpt) (name key : String) (value missing : α) : α :=
  if e.hasKey name key then value else missing

def rules (e : Excerpt) (r : RulesConfig) : RulesConfig :=
  let missing : RulesConfig := {}
  { includeBundled := e.value "rules" "include_bundled" r.includeBundled missing.includeBundled
    rulesets := e.value "rules" "rulesets" r.rulesets missing.rulesets
    bodyRedirects := e.value "rules" "body_redirects" r.bodyRedirects missing.bodyRedirects
    cookieAllow := e.value "rules" "cookie_allow" r.cookieAllow missing.cookieAllow }

def http (e : Excerpt) (h : HttpConfig) : HttpConfig :=
  let missing : HttpConfig := {}
  { method := e.value "http" "method" h.method missing.method
    timeoutSecs := e.value "http" "timeout_secs" h.timeoutSecs missing.timeoutSecs
    maxRedirects := e.value "http" "max_redirects" h.maxRedirects missing.maxRedirects
    maxRetries := e.value "http" "max_retries" h.maxRetries missing.maxRetries
    statusRetry := e.value "http" "status_retry" h.statusRetry missing.statusRetry
    maxFetchSize := e.value "http" "max_fetch_size" h.maxFetchSize missing.maxFetchSize
    parseDocuments := e.value "http" "parse_documents" h.parseDocuments missing.parseDocuments
    verifyTls := e.value "http" "verify_tls" h.verifyTls missing.verifyTls
    caBundle := e.value "http" "ca_bundle" h.caBundle missing.caBundle
    cookiePolicy := e.value "http" "cookie_policy" h.cookiePolicy missing.cookiePolicy }

def retry (e : Excerpt) (r : RetryConfig) : RetryConfig :=
  let missing : RetryConfig := {}
  { baseDelaySecs := e.value "retry" "base_delay_secs" r.baseDelaySecs missing.baseDelaySecs
    maxDelaySecs := e.value "retry" "max_delay_secs" r.maxDelaySecs missing.maxDelaySecs }

def clean (e : Excerpt) (f : CleanFlags) : CleanFlags :=
  let flag (key : String) (b : Bool) := e.value "clean" key b false
  { ignoreReferralMarketing := flag "ignore_referral_marketing" f.ignoreReferralMarketing
    ignoreRules := flag "ignore_rules" f.ignoreRules
    ignoreExceptions := flag "ignore_exceptions" f.ignoreExceptions
    ignoreRawRules := flag "ignore_raw_rules" f.ignoreRawRules
    ignoreRedirections := flag "ignore_redirections" f.ignoreRedirections
    skipBlocked := flag "skip_blocked" f.skipBlocked
    skipLocal := flag "skip_local" f.skipLocal
    stripDuplicates := flag "strip_duplicates" f.stripDuplicates
    stripEmpty := flag "strip_empty" f.stripEmpty }

/-- The configuration with the values that are left and the defaults of the others. -/
def config (e : Excerpt) (c : Config) : Config :=
  { rules := if e.hasSection "rules" then e.rules c.rules else {}
    http := if e.hasSection "http" then e.http c.http else {}
    retry := if e.hasSection "retry" then c.retry.map e.retry else none
    clean := if e.hasSection "clean" then c.clean.map e.clean else none }

/-- The section of the delays is left, but one of them is not. -/
def LacksDelay (e : Excerpt) (c : Config) : Prop :=
  c.retry.isSome ∧ e.hasSection "retry" ∧
    ¬ (e.hasKey "retry" "base_delay_secs" ∧ e.hasKey "retry" "max_delay_secs")

instance (e : Excerpt) (c : Config) : Decidable (e.LacksDelay c) :=
  inferInstanceAs (Decidable (_ ∧ _))

/-- The whole file but for one key. -/
def without (name key : String) : Excerpt :=
  ⟨fun _ => true, fun n k => !(n == name && k == key)⟩

/-! ## Looking up what is left -/

section Kept

variable {α β : Type} {name : α → String} {value : α → Toml} {items : List α} {keep : α → Bool}

/-- The named values that are left. -/
def kept (name : α → String) (value : α → Toml) (keep : α → Bool) (items : List α) : Entries :=
  (items.filter keep).map fun a => ((name a).toList, value a)

theorem get?_kept_of_not_mem {key : String} (h : ∀ a ∈ items, name a ≠ key) :
    get? key.toList (kept name value keep items) = none := by
  refine get?_of_fresh fun entry hentry heq => ?_
  obtain ⟨a, ha, rfl⟩ := List.mem_map.1 hentry
  exact h a (List.mem_of_mem_filter ha) (String.toList_injective heq)

theorem get?_kept (hnodup : (items.map name).Nodup) {a : α} (ha : a ∈ items) :
    get? (name a).toList (kept name value keep items) = if keep a then some (value a)
      else none := by
  induction items with
  | nil => exact absurd ha List.not_mem_nil
  | cons b items ih =>
    obtain ⟨hb, hnodup⟩ := List.nodup_cons.1 hnodup
    have hother : ∀ d ∈ items, name d ≠ name b :=
      fun d hd heq => hb (List.mem_map.2 ⟨d, hd, heq⟩)
    by_cases hkeep : keep b
    · have hcons : kept name value keep (b :: items) =
          ((name b).toList, value b) :: kept name value keep items := by
        rw [kept, List.filter_cons_of_pos hkeep, List.map_cons]
        rfl
      rw [hcons]
      rcases List.mem_cons.1 ha with rfl | ha
      · rw [get?_cons_self, if_pos hkeep]
      · rw [get?_cons_of_ne fun heq => hother a ha (String.toList_injective heq).symm,
          ih hnodup ha]
    · have hskip : kept name value keep (b :: items) = kept name value keep items := by
        rw [kept, List.filter_cons_of_neg hkeep]
        rfl
      rw [hskip]
      rcases List.mem_cons.1 ha with rfl | ha
      · rw [get?_kept_of_not_mem hother, if_neg hkeep]
      · exact ih hnodup ha

theorem field?_kept_of_not_mem {key : String} (h : ∀ a ∈ items, name a ≠ key) (missing : β)
    (read : Toml → Option β) :
    field? (kept name value keep items) key missing read = some missing := by
  rw [field?, get?_kept_of_not_mem h]

theorem field?_kept (hnodup : (items.map name).Nodup) {a : α} (ha : a ∈ items) (missing : β)
    (read : Toml → Option β) :
    field? (kept name value keep items) (name a) missing read =
      if keep a then read (value a) else some missing := by
  rw [field?, get?_kept hnodup ha]
  by_cases hkeep : keep a
  · rw [if_pos hkeep, if_pos hkeep]
  · rw [if_neg hkeep, if_neg hkeep]

end Kept

/-! ## Sections -/

/-- The entries that are left of a section. -/
def entries (e : Excerpt) (s : Section) : Entries :=
  kept (·.name) (·.value) (fun line => e.hasKey s.name line.name) s.lines

section Fields

variable {e : Excerpt} {s : Section} {key : String}

/-- A key that is left has its value, and one that is not has the default. -/
theorem field?_entries {α : Type} (hs : (s.lines.map (·.name)).Nodup) {line : KeyLine}
    (hline : line ∈ s.lines) (read : Toml → Option α) {v : α} (hread : read line.value = some v)
    (missing : α) :
    field? (e.entries s) line.name missing read = some (e.value s.name line.name v missing) := by
  rw [entries, field?_kept hs hline, value, hread]
  split <;> rfl

theorem field?_ofBool {b : Bool} (hs : (s.lines.map (·.name)).Nodup)
    (h : .ofBool key b ∈ s.lines) (missing : Bool) :
    field? (e.entries s) key missing flag? = some (e.value s.name key b missing) :=
  field?_entries hs h flag? rfl missing

theorem field?_ofText {t : Text} (hs : (s.lines.map (·.name)).Nodup)
    (h : .ofText key t ∈ s.lines) (missing : Text) :
    field? (e.entries s) key missing text? = some (e.value s.name key t missing) :=
  field?_entries hs h text? rfl missing

theorem nat?_int {n most : Nat} (h : n ≤ most) : nat? most (int n) = some n := by
  rw [nat?, if_pos ⟨Int.natCast_nonneg n, Int.ofNat_le.2 h⟩]
  rfl

theorem field?_ofNat {n most : Nat} (hs : (s.lines.map (·.name)).Nodup)
    (h : .ofNat key n ∈ s.lines) (hn : n ≤ most) (missing : Nat) :
    field? (e.entries s) key missing (nat? most) = some (e.value s.name key n missing) :=
  field?_entries hs h (nat? most) (nat?_int hn) missing

theorem list?_array {α : Type} {read : Toml → Option α} {value : α → Toml} {as : List α}
    (h : ∀ a ∈ as, read (value a) = some a) : list? read (array (as.map value)) = some as := by
  show (as.map value).mapM read = some as
  induction as with
  | nil => rfl
  | cons a as ih =>
    rw [List.map_cons, List.mapM_cons, h a List.mem_cons_self,
      ih fun b hb => h b (List.mem_cons_of_mem a hb)]
    rfl

theorem field?_ofTexts {ts : List Text} (hs : (s.lines.map (·.name)).Nodup)
    (h : .ofTexts key ts ∈ s.lines) (missing : List Text) :
    field? (e.entries s) key missing (list? text?) = some (e.value s.name key ts missing) :=
  field?_entries hs h (list? text?) (list?_array fun _ _ => rfl) missing

theorem field?_ofNats {ns : List Nat} {most : Nat} (hs : (s.lines.map (·.name)).Nodup)
    (h : .ofNats key ns ∈ s.lines) (hns : ∀ n ∈ ns, n ≤ most) (missing : List Nat) :
    field? (e.entries s) key missing (list? (nat? most)) =
      some (e.value s.name key ns missing) :=
  field?_entries hs h (list? (nat? most)) (list?_array fun n hn => nat?_int (hns n hn)) missing

end Fields

theorem le_maxNat64 {n : Nat} (h : n < Nat.pow 2 63) : n ≤ maxNat64 :=
  le_of_lt (lt_of_lt_of_le h (by decide))

theorem ofToml?_rules (e : Excerpt) (r : RulesConfig) :
    RulesConfig.ofToml? (table .header (e.entries r.section)) = some (e.rules r) := by
  have hs := r.wellFormed_section.nodup
  have hinclude : .ofBool "include_bundled" r.includeBundled ∈ r.section.lines := by
    simp [RulesConfig.section]
  have hrulesets : .ofTexts "rulesets" r.rulesets ∈ r.section.lines := by
    simp [RulesConfig.section]
  have hredirects : .ofTexts "body_redirects" r.bodyRedirects ∈ r.section.lines := by
    simp [RulesConfig.section]
  have hcookies : .ofTexts "cookie_allow" r.cookieAllow ∈ r.section.lines := by
    simp [RulesConfig.section]
  unfold RulesConfig.ofToml?
  simp only [fields?, Option.bind_eq_bind, Option.bind_some, field?_ofBool hs hinclude,
    field?_ofTexts hs hrulesets, field?_ofTexts hs hredirects, field?_ofTexts hs hcookies]
  rfl

/-- A file without a key for the certificates has no other key of that name. -/
theorem field?_caBundle (e : Excerpt) (h : HttpConfig) :
    field? (e.entries h.section) "ca_bundle" none (fun v => v.text?.map some) =
      some (e.value "http" "ca_bundle" h.caBundle none) := by
  cases hpath : h.caBundle with
  | none =>
    have hname : "ca_bundle" ∉ h.section.lines.map (·.name) := by
      rw [h.names_section, hpath]
      decide
    have hnone : ∀ line ∈ h.section.lines, line.name ≠ "ca_bundle" :=
      fun line hline heq => hname (List.mem_map.2 ⟨line, hline, heq⟩)
    rw [entries, field?_kept_of_not_mem hnone, value, ite_self]
  | some path =>
    have hline : .ofText "ca_bundle" path ∈ h.section.lines := by
      simp [HttpConfig.section, hpath]
    exact field?_entries h.nodup_names hline (fun v => v.text?.map some) rfl none

theorem field?_cookiePolicy (e : Excerpt) (h : HttpConfig) (missing : CookieChoice) :
    field? (e.entries h.section) "cookie_policy" missing
      (fun v => v.word?.bind CookieChoice.ofWord?) =
      some (e.value "http" "cookie_policy" h.cookiePolicy missing) := by
  have hline : .ofText "cookie_policy" h.cookiePolicy.word ∈ h.section.lines := by
    simp [HttpConfig.section]
  have hread : (Toml.text h.cookiePolicy.word).word?.bind CookieChoice.ofWord? =
      some h.cookiePolicy := by
    cases h.cookiePolicy <;> decide
  exact field?_entries h.nodup_names hline
    (fun v => v.word?.bind CookieChoice.ofWord?) hread missing

theorem ofToml?_http (e : Excerpt) {h : HttpConfig} (hh : h.Writable) :
    HttpConfig.ofToml? (table .header (e.entries h.section)) = some (e.http h) := by
  have hs := h.nodup_names
  have hmethod : .ofText "method" h.method ∈ h.section.lines := by
    simp [HttpConfig.section]
  have htimeout : .ofNat "timeout_secs" h.timeoutSecs ∈ h.section.lines := by
    simp [HttpConfig.section]
  have hredirects : .ofNat "max_redirects" h.maxRedirects ∈ h.section.lines := by
    simp [HttpConfig.section]
  have hretries : .ofNat "max_retries" h.maxRetries ∈ h.section.lines := by
    simp [HttpConfig.section]
  have hstatus : .ofNats "status_retry" h.statusRetry ∈ h.section.lines := by
    simp [HttpConfig.section]
  have hsize : .ofNat "max_fetch_size" h.maxFetchSize ∈ h.section.lines := by
    simp [HttpConfig.section]
  have hdocuments : .ofBool "parse_documents" h.parseDocuments ∈ h.section.lines := by
    simp [HttpConfig.section]
  have htls : .ofBool "verify_tls" h.verifyTls ∈ h.section.lines := by
    simp [HttpConfig.section]
  unfold HttpConfig.ofToml?
  simp only [fields?, Option.bind_eq_bind, Option.bind_some, field?_ofText hs hmethod,
    field?_ofNat hs htimeout (le_maxNat64 hh.timeoutSecs),
    field?_ofNat hs hredirects hh.maxRedirects, field?_ofNat hs hretries hh.maxRetries,
    field?_ofNats hs hstatus hh.statusRetry,
      field?_ofNat hs hsize (le_maxNat64 hh.maxFetchSize), field?_ofBool hs hdocuments,
    field?_ofBool hs htls, field?_caBundle, field?_cookiePolicy]
  rfl

theorem ofToml?_retry (e : Excerpt) {r : RetryConfig} (hr : r.Writable) :
    RetryConfig.ofToml? (table .header (e.entries r.section)) =
      if e.hasKey "retry" "base_delay_secs" ∧
        e.hasKey "retry" "max_delay_secs" then some (e.retry r) else none := by
  have hs := hr.wellFormed_section.nodup
  have hbase : get? "base_delay_secs".toList (e.entries r.section) =
      if e.hasKey "retry" "base_delay_secs" then some (real r.baseDelaySecs) else none :=
    get?_kept hs (a := .ofReal "base_delay_secs" r.baseDelaySecs) List.mem_cons_self
  have hmax : get? "max_delay_secs".toList (e.entries r.section) =
      if e.hasKey "retry" "max_delay_secs" then some (int r.maxDelaySecs) else none :=
    get?_kept hs (a := .ofNat "max_delay_secs" r.maxDelaySecs)
      (List.mem_cons_of_mem _ List.mem_cons_self)
  have hread : (int r.maxDelaySecs).nat? maxNat64 = some r.maxDelaySecs :=
    nat?_int (le_maxNat64 hr.maxDelaySecs)
  unfold RetryConfig.ofToml?
  simp only [fields?, Option.bind_eq_bind, Option.bind_some, hbase, hmax, retry, value]
  by_cases hb : e.hasKey "retry" "base_delay_secs" <;> by_cases hm :
    e.hasKey "retry" "max_delay_secs" <;>
    simp [hb, hm, hread, real64?]

theorem ofToml?_clean (e : Excerpt) (f : CleanFlags) :
    CleanFlags.ofToml? (table .header (e.entries f.section)) = some (e.clean f) := by
  have hflag : ∀ key b, .ofBool key b ∈ f.section.lines →
      field? (e.entries f.section) key false flag? = some (e.value "clean" key b false) :=
    fun key b h => field?_ofBool f.wellFormed_section.nodup h false
  unfold CleanFlags.ofToml?
  simp only [fields?, Option.bind_eq_bind, Option.bind_some,
    hflag "ignore_referral_marketing" f.ignoreReferralMarketing (by simp [CleanFlags.section]),
    hflag "ignore_rules" f.ignoreRules (by simp [CleanFlags.section]),
    hflag "ignore_exceptions" f.ignoreExceptions (by simp [CleanFlags.section]),
    hflag "ignore_raw_rules" f.ignoreRawRules (by simp [CleanFlags.section]),
    hflag "ignore_redirections" f.ignoreRedirections (by simp [CleanFlags.section]),
    hflag "skip_blocked" f.skipBlocked (by simp [CleanFlags.section]),
    hflag "skip_local" f.skipLocal (by simp [CleanFlags.section]),
    hflag "strip_duplicates" f.stripDuplicates (by simp [CleanFlags.section]),
    hflag "strip_empty" f.stripEmpty (by simp [CleanFlags.section])]
  rfl

/-! ## Files -/

/-- The entries that are left of a file. -/
def document (e : Excerpt) (c : Config) : Entries :=
  kept (·.name) (fun s => table .header (e.entries s)) (fun s => e.hasSection s.name) c.sections

theorem wellFormed_cut (e : Excerpt) {s : Section} (hs : s.WellFormed) : (e.cut s).WellFormed :=
  ⟨hs.bare, fun line hline => hs.lines line (List.mem_of_mem_filter hline),
    hs.nodup.sublist ((List.filter_sublist).map _)⟩

theorem parse?_text (e : Excerpt) {c : Config} (hc : c.Writable) :
    Toml.parse? (e.text c) = some (e.document c) := by
  have hwellFormed : ∀ s ∈ (c.sections.filter fun s => e.hasSection s.name).map e.cut,
      s.WellFormed := by
    intro s hs
    obtain ⟨s, hmem, rfl⟩ := List.mem_map.1 hs
    exact e.wellFormed_cut (hc.wellFormed s (List.mem_of_mem_filter hmem))
  have hnodup :
      (((c.sections.filter fun s => e.hasSection s.name).map e.cut).map (·.name)).Nodup := by
    rw [List.map_map]
    exact c.nodup_sections.sublist ((List.filter_sublist).map _)
  rw [text, parse?_sections hwellFormed hnodup, List.map_map]
  rfl

theorem field?_rules (e : Excerpt) (c : Config) :
    field? (e.document c) "rules" {} RulesConfig.ofToml? =
      some (if e.hasSection "rules" then e.rules c.rules else {}) := by
  have hmem : c.rules.section ∈ c.sections := by
    simp [Config.sections]
  refine (field?_kept c.nodup_sections hmem {} RulesConfig.ofToml?).trans ?_
  rw [ofToml?_rules, ← apply_ite some]
  rfl

theorem field?_http (e : Excerpt) {c : Config} (hc : c.http.Writable) :
    field? (e.document c) "http" {} HttpConfig.ofToml? =
      some (if e.hasSection "http" then e.http c.http else {}) := by
  have hmem : c.http.section ∈ c.sections := by
    simp [Config.sections]
  refine (field?_kept c.nodup_sections hmem {} HttpConfig.ofToml?).trans ?_
  rw [ofToml?_http e hc, ← apply_ite some]
  rfl

theorem field?_retry (e : Excerpt) {c : Config} (hc : ∀ r ∈ c.retry, r.Writable) :
    field? (e.document c) "retry" none (fun v => (RetryConfig.ofToml? v).map some) =
      if e.LacksDelay c then none
      else some (if e.hasSection "retry" then c.retry.map e.retry else none) := by
  cases hretry : c.retry with
  | none =>
    have hname : "retry" ∉ c.sections.map (·.name) := by
      rw [c.names_sections, hretry]
      cases c.clean <;> simp
    have hlacks : ¬ e.LacksDelay c := by
      rintro ⟨hsome, -⟩
      rw [hretry] at hsome
      cases hsome
    have hnone : ∀ s ∈ c.sections, s.name ≠ "retry" :=
      fun s hs heq => hname (List.mem_map.2 ⟨s, hs, heq⟩)
    rw [document, field?_kept_of_not_mem hnone, if_neg hlacks, Option.map_none, ite_self]
  | some r =>
    have hmem : r.section ∈ c.sections := by
      simp [Config.sections, hretry]
    refine (field?_kept c.nodup_sections hmem none fun v =>
      (RetryConfig.ofToml? v).map some).trans ?_
    rw [e.ofToml?_retry (hc r hretry)]
    show (if e.hasSection "retry" then _ else _) = _
    by_cases hsection : e.hasSection "retry"
    · by_cases hkeys : e.hasKey "retry" "base_delay_secs" ∧ e.hasKey "retry" "max_delay_secs"
      · have hlacks : ¬ e.LacksDelay c := fun h => h.2.2 hkeys
        rw [if_pos hsection, if_pos hkeys, if_neg hlacks, if_pos hsection]
        rfl
      · have hlacks : e.LacksDelay c := ⟨by rw [hretry]; rfl, hsection, hkeys⟩
        rw [if_pos hsection, if_neg hkeys, if_pos hlacks]
        rfl
    · have hlacks : ¬ e.LacksDelay c := fun h => hsection h.2.1
      rw [if_neg hsection, if_neg hlacks, if_neg hsection]

theorem field?_clean (e : Excerpt) (c : Config) :
    field? (e.document c) "clean" none (fun v => (CleanFlags.ofToml? v).map some) =
      some (if e.hasSection "clean" then c.clean.map e.clean else none) := by
  cases hclean : c.clean with
  | none =>
    have hname : "clean" ∉ c.sections.map (·.name) := by
      rw [c.names_sections, hclean]
      cases c.retry <;> simp
    have hnone : ∀ s ∈ c.sections, s.name ≠ "clean" :=
      fun s hs heq => hname (List.mem_map.2 ⟨s, hs, heq⟩)
    rw [document, field?_kept_of_not_mem hnone, Option.map_none, ite_self]
  | some f =>
    have hmem : f.section ∈ c.sections := by
      simp [Config.sections, hclean]
    refine (field?_kept c.nodup_sections hmem none fun v =>
      (CleanFlags.ofToml? v).map some).trans ?_
    rw [ofToml?_clean, Option.map_some, ← apply_ite some]
    rfl

/-- The configuration is read from what is left, unless a delay is missing. -/
theorem ofToml?_document (e : Excerpt) {c : Config} (hc : c.Writable) :
    Config.ofToml? (e.document c) = if e.LacksDelay c then none else some (e.config c) := by
  unfold Config.ofToml?
  rw [field?_rules, field?_http e hc.http, field?_retry e hc.retry, field?_clean]
  by_cases hlacks : e.LacksDelay c
  · rw [if_pos hlacks, if_pos hlacks]
    rfl
  · rw [if_neg hlacks, if_neg hlacks]
    rfl

theorem load_text (e : Excerpt) {c : Config} (hc : c.Writable) :
    Config.load (some (Utf8.encode (e.text c))) =
      if e.LacksDelay c then .error .malformed else .ok (e.config c, none) := by
  have hparse : Config.parse? (e.text c) = if e.LacksDelay c then none
      else some (e.config c) := by
    rw [Config.parse?, e.parse?_text hc, Option.bind_some, e.ofToml?_document hc]
  unfold Config.load
  dsimp only
  rw [Utf8.decode?_encode]
  dsimp only
  rw [hparse]
  by_cases hlacks : e.LacksDelay c
  · rw [if_pos hlacks, if_pos hlacks]
  · rw [if_neg hlacks, if_neg hlacks]

theorem text_whole {e : Excerpt} (hsection : ∀ name, e.hasSection name)
    (hkey : ∀ name key, e.hasKey name key) (c : Config) : e.text c = c.text := by
  have hcut : ∀ s, e.cut s = s := by
    rintro ⟨name, lines⟩
    rw [cut, List.filter_eq_self.2 fun line _ => hkey name line.name]
  have hsections : (c.sections.filter fun s => e.hasSection s.name) = c.sections :=
    List.filter_eq_self.2 fun s _ => hsection s.name
  rw [text, hsections, funext hcut, List.map_id', c.text_eq]

end Config.Excerpt

open Config.Excerpt

/-- A file from which sections and keys are taken out is loaded with the defaults in their
places, unless the section of the delays is left without one of them. -/
theorem Config.load_excerpt (e : Excerpt) {c : Config} (hc : c.Writable) :
    (∀ whole : Excerpt, (∀ name, whole.hasSection name) → (∀ name key, whole.hasKey name key) →
        whole.text c = c.text) ∧
      load (some (Utf8.encode (e.text c))) =
        if e.LacksDelay c then .error .malformed else .ok (e.config c, none) :=
  ⟨fun _ hsection hkey => text_whole hsection hkey c, e.load_text hc⟩

theorem RetryConfig.writable_default : ({} : RetryConfig).Writable := by
  have hbase : Real64.ofRatio false 1 4 = .finite false (Nat.pow 2 52) (-54) := by
    decide
  refine ⟨?_, by decide⟩
  show (Real64.ofRatio false 1 4).IsStored
  rw [hbase]
  exact ⟨by decide, by decide, by decide, by decide⟩

theorem Config.writable_of_http {http : HttpConfig} (h : http.Writable) :
    ({ http, retry := some {} } : Config).Writable := by
  refine ⟨h, fun r hr => ?_⟩
  obtain rfl := Option.some.inj hr
  exact RetryConfig.writable_default

theorem Config.load_excerpt_timeout :
    ({ http := { timeoutSecs := 60, maxRetries := 3 }, retry := some {} } : Config).Writable ∧
      load (some (Utf8.encode ((Excerpt.without "http" "timeout_secs").text
        { http := { timeoutSecs := 60, maxRetries := 3 }, retry := some {} }))) =
          .ok ({ http := { maxRetries := 3 }, retry := some {} }, none) := by
  have hc :
      ({ http := { timeoutSecs := 60, maxRetries := 3 }, retry := some {} } : Config).Writable :=
    writable_of_http ⟨by decide, by decide, by decide, by decide, by decide⟩
  refine ⟨hc, (load_excerpt (.without "http" "timeout_secs") hc).2.trans ?_⟩
  rw [if_neg fun h => h.2.2 ⟨by decide, by decide⟩]
  rfl

/-- A file whose section of delays lacks one of them is refused, though a
delay has a default. -/
theorem Config.load_without_delay :
    ({ retry := some {} } : Config).Writable ∧
      load (some (Utf8.encode
        ((Excerpt.without "retry" "max_delay_secs").text { retry := some {} }))) =
        .error .malformed := by
  have hc : ({ retry := some {} } : Config).Writable :=
    writable_of_http ⟨by decide, by decide, by decide, by decide, by decide⟩
  refine ⟨hc, (load_text (.without "retry" "max_delay_secs") hc).trans (if_pos ?_)⟩
  exact ⟨rfl, rfl, fun h => absurd h.2 (by decide)⟩

end PlainLink
