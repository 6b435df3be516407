/-
# How the setup of a transfer ends

Every call of a setup may fail, so a setup is known by the calls that were made:
`Recorded` says that the calls got what the world outside reports, that what is set is
what the successful ones have set, and that a fault ends the setup exactly if some call
failed with it for good.  One call keeps that (`Recorded.call`), and so does a whole
setup (`Recorded.run`).  Since the calls are made for the beginning of the list of
settings, and for the whole list if nothing ends the setup (`calls_run`), a transfer
is never performed with a part of its settings only, the one failure that is tolerated
apart.

For a request this is turned round: whichever calls failed, if the setup came to its
end, all that has been set is known up to the trust anchors (`Request.setUp_done`), and
where those are missing the calls tell why (`Anchored`).

Main statement: `Request.setUp_done`.
-/
import PlainLink.Http.Transfer

namespace PlainLink

/-- The call fails with the fault, and not only because bundled trust anchors
cannot be set at all. -/
structure Call.Fails (c : Call) (f : Fault) : Prop where
  fault : c.fault = some f
  not_tolerated : c.setting = .anchors .bundled → f ≠ .unknownOption ∧ f ≠ .notBuiltIn

theorem Setting.tolerates_iff {setting : Setting} {f : Fault} :
    setting.tolerates f ↔
      setting = .anchors .bundled ∧ (f = .unknownOption ∨ f = .notBuiltIn) := by
  unfold Setting.tolerates
  split
  · simp
  · next hother => exact ⟨fun h => (nomatch h), fun h => (hother h.1).elim⟩

theorem Call.fails_iff {c : Call} {f : Fault} :
    c.Fails f ↔ c.fault = some f ∧ ¬ c.setting.tolerates f := by
  rw [Setting.tolerates_iff, not_and, not_or]
  exact ⟨fun h => ⟨h.fault, h.not_tolerated⟩, fun h => ⟨h.1, h.2⟩⟩

def Call.apply (t : Transfer) (c : Call) : Transfer :=
  if c.fault.isSome then t else c.setting.apply t

/-- Calls that did not fail for good, and were not for bundled trust anchors, set
what they were for. -/
theorem Call.foldl_apply {calls : List Call} {settings : List Setting}
    (hcalls : calls.map (·.setting) = settings) (hfine : ∀ c ∈ calls, ∀ f, ¬ c.Fails f)
    (hplain : .anchors .bundled ∉ settings) (t : Transfer) :
    calls.foldl Call.apply t = settings.foldl Setting.apply t := by
  induction calls generalizing settings t with
  | nil =>
      subst hcalls
      rfl
  | cons c rest ih =>
      subst hcalls
      obtain ⟨hc, hrest⟩ := List.forall_mem_cons.1 hfine
      obtain ⟨hne, hplain⟩ := not_or.1 (mt List.mem_cons.2 hplain)
      have happly : Call.apply t c = c.setting.apply t := by
        unfold Call.apply
        cases hfault : c.fault with
        | none => rfl
        | some f => exact absurd ⟨hfault, fun h => absurd h.symm hne⟩ (hc f)
      rw [List.map_cons, List.foldl_cons, List.foldl_cons, happly]
      exact ih rfl hrest hplain _

namespace Setup

variable {report : Nat → Setting → Option Fault} {s : Setup} {setting : Setting}
  {settings : List Setting}

/-! ## One call -/

theorem call_cases (report : Nat → Setting → Option Fault) (s : Setup) (setting : Setting) :
    (report s.calls.length setting = none ∧
      s.call report setting =
        { s with calls := s.calls ++ [⟨setting, none⟩], transfer := setting.apply s.transfer }) ∨
    ∃ f, report s.calls.length setting = some f ∧
      (setting.tolerates f ∧
        s.call report setting = { s with calls := s.calls ++ [⟨setting, some f⟩] } ∨
      ¬ setting.tolerates f ∧
        s.call report setting =
          { s with calls := s.calls ++ [⟨setting, some f⟩], fault := some f }) := by
  unfold call
  cases report s.calls.length setting with
  | none => exact .inl ⟨rfl, rfl⟩
  | some f =>
      refine .inr ⟨f, rfl, ?_⟩
      by_cases h : setting.tolerates f
      · exact .inl ⟨h, if_pos h⟩
      · exact .inr ⟨h, if_neg h⟩

theorem calls_call (report : Nat → Setting → Option Fault) (s : Setup) (setting : Setting) :
    (s.call report setting).calls =
      s.calls ++ [⟨setting, report s.calls.length setting⟩] := by
  rcases call_cases report s setting with ⟨hreport, h⟩ | ⟨f, hreport, ⟨-, h⟩ | ⟨-, h⟩⟩ <;>
    rw [h, hreport]

/-! ## What is recorded -/

/-- What the calls of a setup tell about it. -/
structure Recorded (report : Nat → Setting → Option Fault) (s : Setup) : Prop where
  reported : ∀ (n : Nat) (c : Call), s.calls[n]? = some c → c.fault = report n c.setting
  fault : ∀ f, s.fault = some f ↔ ∃ c ∈ s.calls, c.Fails f
  transfer : s.transfer = s.calls.foldl Call.apply {}

theorem Recorded.empty : Recorded report {} :=
  ⟨fun _ _ h => by simp at h, fun _ => by simp, rfl⟩

theorem Recorded.call (h : s.Recorded report) (hfault : s.fault = none) (setting : Setting) :
    (s.call report setting).Recorded report := by
  have hnone (f : Fault) (c : Call) (hc : c ∈ s.calls) : ¬ c.Fails f := fun hf => by
    cases hfault.symm.trans ((h.fault f).2 ⟨c, hc, hf⟩)
  refine ⟨fun n c hc => ?_, fun f => ?_, ?_⟩
  · rw [calls_call, List.getElem?_append] at hc
    split at hc
    · exact h.reported n c hc
    · next hn =>
      rw [List.getElem?_singleton] at hc
      split at hc
      · next hlast =>
        cases hc
        rw [show n = s.calls.length by omega]
      · cases hc
  · rcases call_cases report s setting with
      ⟨-, hcall⟩ | ⟨g, -, ⟨htolerated, hcall⟩ | ⟨hfatal, hcall⟩⟩
    · simp only [hcall, hfault, List.mem_append, List.mem_singleton]
      refine ⟨fun h => (nomatch h), ?_⟩
      rintro ⟨c, hc | rfl, hf⟩
      · exact absurd hf (hnone f c hc)
      · cases hf.fault
    · simp only [hcall, hfault, List.mem_append, List.mem_singleton]
      refine ⟨fun h => (nomatch h), ?_⟩
      rintro ⟨c, hc | rfl, hf⟩
      · exact absurd hf (hnone f c hc)
      · obtain ⟨hg, hnot⟩ := Call.fails_iff.1 hf
        cases hg
        exact absurd htolerated hnot
    · simp only [hcall, List.mem_append, List.mem_singleton]
      constructor
      · intro hg
        exact ⟨_, .inr rfl, Call.fails_iff.2 ⟨hg, Option.some.inj hg ▸ hfatal⟩⟩
      · rintro ⟨c, hc | rfl, hf⟩
        · exact absurd hf (hnone f c hc)
        · exact hf.fault
  · rcases call_cases report s setting with ⟨-, hcall⟩ | ⟨g, -, ⟨-, hcall⟩ | ⟨-, hcall⟩⟩ <;>
      simp only [hcall, List.foldl_append, ← h.transfer] <;> rfl

/-! ## All calls -/

theorem run_of_fault (h : (s.call report setting).fault.isSome) :
    s.run report (setting :: settings) = s.call report setting :=
  if_pos h

theorem run_of_none (h : (s.call report setting).fault = none) :
    s.run report (setting :: settings) = (s.call report setting).run report settings :=
  if_neg (by simp [h])

theorem Recorded.run (h : s.Recorded report) (hfault : s.fault = none)
    (settings : List Setting) :
    (s.run report settings).Recorded report := by
  induction settings generalizing s with
  | nil => exact h
  | cons setting rest ih =>
      cases hcall : (s.call report setting).fault with
      | none =>
          rw [run_of_none hcall]
          exact ih (h.call hfault setting) hcall
      | some f =>
          rw [run_of_fault (by rw [hcall]; rfl)]
          exact h.call hfault setting

/-- The calls are made in the order of the settings, and all of them if
nothing ends the setup. -/
theorem calls_run (report : Nat → Setting → Option Fault) (s : Setup) (settings : List Setting) :
    (s.run report settings).calls.map (·.setting) <+: s.calls.map (·.setting) ++ settings ∧
    ((s.run report settings).fault = none →
      (s.run report settings).calls.map (·.setting) = s.calls.map (·.setting) ++ settings) := by
  induction settings generalizing s with
  | nil => simp [run]
  | cons setting rest ih =>
      have hcalls : (s.call report setting).calls.map (·.setting) ++ rest =
          s.calls.map (·.setting) ++ setting :: rest := by
        rw [calls_call, List.map_append, List.append_assoc]
        rfl
      cases hcall : (s.call report setting).fault with
      | none =>
          rw [run_of_none hcall, ← hcalls]
          exact ih _
      | some f =>
          rw [run_of_fault (by rw [hcall]; rfl), ← hcalls]
          refine ⟨List.prefix_append .., fun hnone => ?_⟩
          cases hcall.symm.trans hnone

end Setup

/-! ## The trust anchors of a connection -/

namespace TlsOptions

/-- The caller names no file that is there. -/
def NoFile (o : TlsOptions) (isFile : Text → Bool) : Prop :=
  ∀ path, o.anchorFile = some path → ¬ isFile path

/-- The trust anchors that are set by some calls.  A connection that is verified goes without
only if setting the bundled ones reported that this cannot be done at all. -/
inductive Anchored (o : TlsOptions) (isFile : Text → Bool) (calls : List Call) :
    Option TrustAnchors → Prop
  | unverified : ¬ o.verify → Anchored o isFile calls none
  | file {path : Text} :
      o.verify → o.anchorFile = some path → isFile path →
      Anchored o isFile calls (some (.file path))
  | bundled :
      o.verify → o.NoFile isFile → ⟨.anchors .bundled, none⟩ ∈ calls →
      Anchored o isFile calls (some .bundled)
  | platform {f : Fault} :
      o.verify → o.NoFile isFile → ⟨.anchors .bundled, some f⟩ ∈ calls →
      f = .unknownOption ∨ f = .notBuiltIn → Anchored o isFile calls none

variable {o : TlsOptions} {isFile : Text → Bool} {calls more : List Call}

theorem Anchored.mono {anchors : Option TrustAnchors} (h : o.Anchored isFile calls anchors)
    (hmore : ∀ c ∈ calls, c ∈ more) : o.Anchored isFile more anchors := by
  cases h with
  | unverified hverify => exact .unverified hverify
  | file hverify hfile hfound => exact .file hverify hfile hfound
  | bundled hverify hnone hcall => exact .bundled hverify hnone (hmore _ hcall)
  | platform hverify hnone hcall hf => exact .platform hverify hnone (hmore _ hcall) hf

theorem trustAnchors_cases (o : TlsOptions) (isFile : Text → Bool) :
    (∃ path, o.anchorFile = some path ∧ isFile path ∧ o.trustAnchors isFile = .file path) ∨
      o.NoFile isFile ∧ o.trustAnchors isFile = .bundled := by
  unfold trustAnchors NoFile
  cases o.anchorFile with
  | none => exact .inr ⟨fun _ h => (nomatch h), rfl⟩
  | some path =>
      by_cases hfound : isFile path = true
      · exact .inl ⟨path, rfl, hfound, if_pos hfound⟩
      · exact .inr ⟨fun _ h => Option.some.inj h ▸ hfound, if_neg hfound⟩

/-- The calls for the trust anchors, none of which failed for good, have
set what they should. -/
theorem anchored_of_calls (hcalls : calls.map (·.setting) = o.anchorSettings isFile)
    (hfine : ∀ c ∈ calls, ∀ f, ¬ c.Fails f) {t : Transfer} (ht : t.anchors = none) :
    ∃ anchors, o.Anchored isFile calls anchors ∧
      calls.foldl Call.apply t = { t with anchors } := by
  have hsame : { t with anchors := none } = t := by rw [← ht]
  unfold anchorSettings at hcalls
  split at hcalls
  · next hverify =>
    obtain ⟨⟨setting, fault⟩, rfl, rfl⟩ := List.map_eq_singleton_iff.1 hcalls
    have hfine := hfine _ (List.mem_singleton.2 rfl)
    rcases o.trustAnchors_cases isFile with ⟨path, hpath, hfound, hanchors⟩ | ⟨hnone, hanchors⟩
    · rw [hanchors] at hfine ⊢
      cases fault with
      | none => exact ⟨_, .file hverify hpath hfound, rfl⟩
      | some f => exact absurd ⟨rfl, fun h => (nomatch h)⟩ (hfine f)
    · rw [hanchors] at hfine ⊢
      cases fault with
      | none => exact ⟨_, .bundled hverify hnone (List.mem_singleton.2 rfl), rfl⟩
      | some f =>
          refine ⟨none, .platform hverify hnone (List.mem_singleton.2 rfl) ?_, hsame.symm⟩
          have htolerated : (Setting.anchors .bundled).tolerates f :=
            Classical.byContradiction fun hnot => hfine f (Call.fails_iff.2 ⟨rfl, hnot⟩)
          exact (Setting.tolerates_iff.1 htolerated).2
  · next hverify =>
    obtain rfl := List.map_eq_nil_iff.1 hcalls
    exact ⟨none, .unverified hverify, hsame.symm⟩

end TlsOptions

/-! ## The setup of a request -/

/-- The transfer asks what the request asks, and as the options say.  If it is encrypted,
everything is set that the options of encrypted connections ask for. -/
structure Transfer.Fulfils (t : Transfer) (r : Request) (o : TransferOptions)
    (isFile : Text → Bool) (calls : List Call) : Prop where
  url : t.url = some r.url.text
  method : t.method = r.method
  headerLines : t.headerLines = r.headers.map headerLine
  collected : t.headerSink ∧ t.bodySink
  followLocation : t.followLocation = some false
  httpVersion : t.httpVersion = some .v11
  connectTimeout : t.connectTimeout = some o.timeout
  timeout : t.timeout = some o.timeout
  verifyPeer : r.url.scheme = .https → t.verifyPeer = some o.tls.verify
  verifyHost : r.url.scheme = .https → t.verifyHost = some o.tls.verify
  tlsVersions : r.url.scheme = .https → t.tlsVersions = some (.v12, .v13)
  ciphers : r.url.scheme = .https → t.ciphers = some o.tls.ciphers
  anchors : r.url.scheme = .https → o.tls.Anchored isFile calls t.anchors

namespace Request

theorem foldl_lines (fields : Headers) (t : Transfer) :
    (fields.map fun field => Setting.line (headerLine field)).foldl Setting.apply t =
      { t with lines := t.lines ++ fields.map headerLine } := by
  induction fields generalizing t with
  | nil => simp
  | cons field rest ih =>
      rw [List.map_cons, List.foldl_cons, ih]
      simp [Setting.apply]

theorem foldl_methodSettings (r : Request) {t : Transfer} (hheader : t.headerOnly = false)
    (hcustom : t.customMethod = none) :
    ∃ headerOnly customMethod,
      r.methodSettings.foldl Setting.apply t = { t with headerOnly, customMethod } ∧
      customMethod.getD (if headerOnly then "HEAD".toList else "GET".toList) = r.method := by
  unfold methodSettings
  split
  · next hget => exact ⟨false, none, by rw [← hheader, ← hcustom]; rfl, by rw [hget]; rfl⟩
  · split
    · next hhead => exact ⟨true, none, by rw [← hcustom]; rfl, by rw [hhead]; rfl⟩
    · exact ⟨false, some r.method, by rw [← hheader]; rfl, rfl⟩

variable {r : Request} {o : TransferOptions} {isFile : Text → Bool} {c : Conditions}

theorem setUp_recorded (r : Request) (o : TransferOptions) (c : Conditions) :
    (r.setUp o c).Recorded c.report :=
  Setup.Recorded.empty.run rfl _

/-- Calls for the connection, none of which failed for good, leave what was
set before as it is. -/
theorem foldl_schemeSettings {calls : List Call}
    (hcalls : calls.map (·.setting) = r.schemeSettings o isFile)
    (hfine : ∀ c ∈ calls, ∀ f, ¬ c.Fails f) {t : Transfer} (ht : t.anchors = none) :
    (r.url.scheme = .http ∧ calls.foldl Call.apply t = { t with httpVersion := some .v11 }) ∨
    r.url.scheme = .https ∧ ∃ anchors, o.tls.Anchored isFile calls anchors ∧
      calls.foldl Call.apply t =
        { t with
          verifyPeer := some o.tls.verify
          verifyHost := some o.tls.verify
          tlsVersions := some (.v12, .v13)
          ciphers := some o.tls.ciphers
          anchors
          httpVersion := some .v11 } := by
  unfold schemeSettings at hcalls
  cases hscheme : r.url.scheme with
  | http =>
      rw [hscheme] at hcalls
      exact .inl ⟨rfl, Call.foldl_apply hcalls hfine (by simp) t⟩
  | https =>
      rw [hscheme] at hcalls
      obtain ⟨front, last, rfl, hfront, hlast⟩ := List.map_eq_append_iff.1 hcalls
      obtain ⟨basic, middle, rfl, hbasic, hmiddle⟩ := List.map_eq_append_iff.1 hfront
      simp only [List.forall_mem_append] at hfine
      obtain ⟨⟨hbasic', hmiddle'⟩, hlast'⟩ := hfine
      rw [List.foldl_append, List.foldl_append,
        Call.foldl_apply hbasic hbasic' (by simp), Call.foldl_apply hlast hlast' (by simp)]
      obtain ⟨anchors, hanchored, happly⟩ := TlsOptions.anchored_of_calls hmiddle hmiddle'
        (t := [Setting.verifyPeer o.tls.verify, .verifyHost o.tls.verify, .tlsVersions .v12 .v13,
          .ciphers o.tls.ciphers].foldl Setting.apply t) ht
      refine .inr ⟨rfl, anchors, hanchored.mono fun c hc => ?_, ?_⟩
      · simp [hc]
      · rw [happly]
        rfl

/-- A setup that came to its end has set all that was to be set. -/
theorem setUp_done (h : (r.setUp o c).fault = none) :
    (r.setUp o c).transfer.Fulfils r o c.isFile (r.setUp o c).calls := by
  have hrecorded := r.setUp_recorded o c
  have hcalls : (r.setUp o c).calls.map (·.setting) = r.settings o c.isFile :=
    (Setup.calls_run c.report {} (r.settings o c.isFile)).2 h
  have hfine : ∀ call ∈ (r.setUp o c).calls, ∀ f, ¬ call.Fails f := fun call hcall f hf => by
    cases h.symm.trans ((hrecorded.fault f).2 ⟨call, hcall, hf⟩)
  rw [hrecorded.transfer]
  generalize (r.setUp o c).calls = calls at hcalls hfine
  -- The calls fall into five rows, as the settings do.
  obtain ⟨front, last, rfl, hfront, hlast⟩ := List.map_eq_append_iff.1 hcalls
  obtain ⟨front, lines, rfl, hfront, hlines⟩ := List.map_eq_append_iff.1 hfront
  obtain ⟨front, scheme, rfl, hfront, hscheme⟩ := List.map_eq_append_iff.1 hfront
  obtain ⟨basic, method, rfl, hbasic, hmethod⟩ := List.map_eq_append_iff.1 hfront
  simp only [List.forall_mem_append] at hfine
  obtain ⟨⟨⟨⟨hbasic', hmethod'⟩, hscheme'⟩, hlines'⟩, hlast'⟩ := hfine
  have hplain : .anchors .bundled ∉ r.methodSettings := by
    unfold methodSettings
    split
    · simp
    · split <;> simp
  obtain ⟨headerOnly, customMethod, happly, hasks⟩ := r.foldl_methodSettings
    (t := { url := some r.url.text, followLocation := some false,
            connectTimeout := some o.timeout, timeout := some o.timeout }) rfl rfl
  rw [List.foldl_append, List.foldl_append, List.foldl_append, List.foldl_append,
    Call.foldl_apply hbasic hbasic' (by simp), Call.foldl_apply hmethod hmethod' hplain,
    Call.foldl_apply hlines hlines' (by simp), Call.foldl_apply hlast hlast' (by simp),
    foldl_lines]
  simp only [List.foldl_cons, List.foldl_nil, Setting.apply, happly]
  rcases foldl_schemeSettings hscheme hscheme'
    (t := { url := some r.url.text, followLocation := some false,
            connectTimeout := some o.timeout, timeout := some o.timeout,
            headerOnly := headerOnly, customMethod := customMethod }) rfl with
    ⟨hhttp, happly⟩ | ⟨hhttps, anchors, hanchored, happly⟩
  · have hplain (p : Prop) (h : r.url.scheme = .https) : p := nomatch hhttp.symm.trans h
    rw [happly]
    exact ⟨rfl, hasks, rfl, ⟨rfl, rfl⟩, rfl, rfl, rfl, rfl, hplain _, hplain _,
      hplain _, hplain _, hplain _⟩
  · rw [happly]
    refine ⟨rfl, hasks, rfl, ⟨rfl, rfl⟩, rfl, rfl, rfl, rfl, fun _ => rfl,
      fun _ => rfl, fun _ => rfl, fun _ => rfl, fun _ => hanchored.mono fun c hc => ?_⟩
    simp [hc]

end Request

end PlainLink
