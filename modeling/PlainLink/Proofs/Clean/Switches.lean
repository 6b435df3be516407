/-
# What the switches of a cleaning leave out

A switch makes one kind of rule have no say, from the first pass to the last one.
`SameUnder` relates lists of providers that differ only in what has no say under the
given switches.  Two such lists make the same passes, redirect to the same URLs and end
with the same URL: nothing of what is left out can be told from a cleaning, however
often it is redirected.

The relation is one of lists, and not only of providers, since a switch may leave out
whole providers; either list may then have others of them in any places.  One switch is
about the URL instead: if those of the user's own network are left as they are, any two
lists treat such a URL alike.

One pass is compared first (`pass_congr`), provider by provider along the relation, and
then the courses (`Course.congr`), pass by pass.

Main statement: `clean_eq_of_sameUnder`.
-/
import PlainLink.Proofs.Clean.Course

namespace PlainLink

/-! ## Providers that differ in what is left out -/

/-- The providers agree in all that counts under the switches.  Their names and the mark that
nothing depends on may differ, and so may the rules of each kind that is ignored. -/
structure Provider.SameUnder (flags : CleanFlags) (p q : Provider) : Prop where
  urlPattern : p.urlPattern = q.urlPattern
  completeProvider : flags.skipBlocked → p.completeProvider = q.completeProvider
  rules : ¬ flags.ignoreRules → p.rules = q.rules
  rawRules : ¬ flags.ignoreRawRules → p.rawRules = q.rawRules
  referralMarketing : ¬ flags.ignoreReferralMarketing → p.referralMarketing = q.referralMarketing
  exceptions : ¬ flags.ignoreExceptions → p.exceptions = q.exceptions
  redirections : ¬ flags.ignoreRedirections → p.redirections = q.redirections

namespace Clean

/-- The lists agree, provider by provider, in all that counts under the switches; if providers
of whole sites are left out, either list may have more of these, anywhere. -/
inductive SameUnder (flags : CleanFlags) : List Provider → List Provider → Prop
  | nil : SameUnder flags [] []
  | both {p q : Provider} {ps qs : List Provider} :
      p.SameUnder flags q → SameUnder flags ps qs → SameUnder flags (p :: ps) (q :: qs)
  | left {p : Provider} {ps qs : List Provider} :
      flags.skipBlocked → p.completeProvider → SameUnder flags ps qs →
        SameUnder flags (p :: ps) qs
  | right {q : Provider} {ps qs : List Provider} :
      flags.skipBlocked → q.completeProvider → SameUnder flags ps qs →
        SameUnder flags ps (q :: qs)

variable {flags : CleanFlags} {p q : Provider} {ps qs : List Provider}

theorem SameUnder.refl (flags : CleanFlags) (ps : List Provider) : SameUnder flags ps ps := by
  induction ps with
  | nil => exact .nil
  | cons p ps ih =>
      exact .both ⟨rfl, fun _ => rfl, fun _ => rfl, fun _ => rfl, fun _ => rfl, fun _ => rfl,
        fun _ => rfl⟩ ih

theorem SameUnder.symm (h : SameUnder flags ps qs) : SameUnder flags qs ps := by
  induction h with
  | nil => exact .nil
  | both hp _ ih =>
      exact .both ⟨hp.urlPattern.symm, fun h => (hp.completeProvider h).symm,
        fun h => (hp.rules h).symm, fun h => (hp.rawRules h).symm,
        fun h => (hp.referralMarketing h).symm, fun h => (hp.exceptions h).symm,
        fun h => (hp.redirections h).symm⟩ ih
  | left hskip hcomplete _ ih => exact .right hskip hcomplete ih
  | right hskip hcomplete _ ih => exact .left hskip hcomplete ih

/-! ## What such providers do to a URL -/

theorem covers_congr (h : p.SameUnder flags q) (u : Url) :
    covers p flags u = covers q flags u := by
  have hblocked : (flags.skipBlocked && p.completeProvider) =
      (flags.skipBlocked && q.completeProvider) := by
    cases hskip : flags.skipBlocked with
    | true => rw [h.completeProvider hskip]
    | false => rfl
  have hexempt : (flags.ignoreExceptions || !p.exceptions.any (·.isMatch u.text)) =
      (flags.ignoreExceptions || !q.exceptions.any (·.isMatch u.text)) := by
    cases hignore : flags.ignoreExceptions with
    | true => rfl
    | false => rw [h.exceptions (by simp [hignore])]
  rw [covers, covers, hblocked, h.urlPattern, hexempt]

theorem not_covers_of_complete (hskip : flags.skipBlocked)
    (hcomplete : p.completeProvider) (u : Url) :
    ¬ covers p flags u := by
  simp [covers, hskip, hcomplete]

theorem stripTracking_congr (h : p.SameUnder flags q) (fields : Text) :
    stripTracking p flags fields = stripTracking q flags fields := by
  cases hrules : flags.ignoreRules with
  | true =>
      cases hreferral : flags.ignoreReferralMarketing with
      | true => simp [stripTracking, hrules, hreferral]
      | false => simp [stripTracking, hrules, h.referralMarketing (by simp [hreferral])]
  | false =>
      cases hreferral : flags.ignoreReferralMarketing with
      | true => simp [stripTracking, hreferral, h.rules (by simp [hrules])]
      | false =>
          simp [stripTracking, h.rules (by simp [hrules]),
            h.referralMarketing (by simp [hreferral])]

theorem stripPath_congr (h : p.SameUnder flags q) (path : Text) :
    stripPath p flags path = stripPath q flags path := by
  cases hraw : flags.ignoreRawRules with
  | true => simp [stripPath, hraw]
  | false => simp [stripPath, h.rawRules (by simp [hraw])]

theorem strip_congr (h : p.SameUnder flags q) (u : Url) : strip p flags u = strip q flags u := by
  rw [strip, strip, stripTracking_congr h, stripTracking_congr h, stripPath_congr h]

/-! ## The same passes -/

/-- A pass through either list has the same outcome, if it follows redirections only where
these are not ignored. -/
theorem pass_congr {follow : Bool} (h : SameUnder flags ps qs)
    (hfollow : follow → ¬ flags.ignoreRedirections) (u : Url) :
    pass flags follow ps u = pass flags follow qs u := by
  induction h generalizing u with
  | nil => rfl
  | @both p q ps qs hp _ ih =>
      have htarget : (if follow then p.redirections.findSome? (target? u.text) else none) =
          if follow then q.redirections.findSome? (target? u.text) else none := by
        cases hcase : follow with
        | true => rw [hp.redirections (hfollow hcase)]
        | false => rfl
      rw [pass, pass, covers_congr hp, htarget, strip_congr hp, ih, ih]
  | left hskip hcomplete _ ih =>
      rw [pass_cons_of_not_covers (not_covers_of_complete hskip hcomplete u), ih]
  | right hskip hcomplete _ ih =>
      rw [pass_cons_of_not_covers (not_covers_of_complete hskip hcomplete u), ih]

/-- A course through one list is a course through the other one. -/
theorem Course.congr {made : Nat} {u c : Url} {log : List Pass} (h : SameUnder flags ps qs)
    (hcourse : Course ps flags made u log c) : Course qs flags made u log c := by
  have hpass (made : Nat) (u : Url) :
      pass flags (follows flags made) ps u = pass flags (follows flags made) qs u :=
    pass_congr h (fun hfollows => by simp_all [follows]) u
  induction hcourse with
  | exempt hlocal => exact .exempt hlocal
  | done hremote hdone => exact .done hremote (hpass _ _ ▸ hdone)
  | redirected hremote hnext _ ih => exact .redirected hremote (hpass _ _ ▸ hnext) ih

/-- A URL that is left as it is has the course without passes, whatever the providers. -/
theorem Course.congr_of_exempt {made : Nat} {u c : Url} {log : List Pass}
    (hexempt : (flags.skipLocal && u.isLocal) = true) (hcourse : Course ps flags made u log c) :
    Course qs flags made u log c := by
  cases hcourse with
  | exempt hlocal => exact .exempt hlocal
  | done hremote _ => exact absurd hexempt hremote
  | redirected hremote _ _ => exact absurd hexempt hremote

/-! ## The same result -/

/-- Lists of providers that differ only in what has no say under the switches clean
every text alike, and on the same course: each pass is redirected to the same URL, or
ends with the same one.  Any two lists do so for a URL of the user's own network, if
such URLs are left as they are. -/
theorem clean_eq_of_sameUnder {url : Text}
    (h : SameUnder flags ps qs ∨ flags.skipLocal ∧ ∃ u, Url.parse url = .ok u ∧ u.isLocal) :
    clean ps flags url = clean qs flags url ∧
      ∀ u log c, Url.parse url = .ok u →
        (Course ps flags 0 u log c ↔ Course qs flags 0 u log c) := by
  have hcourse : ∀ u log c, Url.parse url = .ok u →
      (Course ps flags 0 u log c ↔ Course qs flags 0 u log c) := by
    intro u log c hparse
    rcases h with hsame | ⟨hskip, v, hv, hlocal⟩
    · exact ⟨Course.congr hsame, Course.congr hsame.symm⟩
    · obtain rfl : v = u := by simpa [hv] using hparse
      have hexempt : (flags.skipLocal && v.isLocal) = true := by rw [hskip, hlocal]; rfl
      exact ⟨Course.congr_of_exempt hexempt, Course.congr_of_exempt hexempt⟩
  refine ⟨?_, hcourse⟩
  cases hparse : Url.parse url with
  | error e => rw [clean, clean, hparse]; rfl
  | ok u =>
      obtain ⟨log, hleads⟩ := Course.exists_to_cleanWithin ps flags (Nat.zero_add maxRestarts) u
      rw [hleads.clean_eq hparse, ((hcourse u log _ hparse).1 hleads).clean_eq hparse]

/-- In front of a provider one for the whole site that redirects nothing; then the
provider under another name, with other fields to delete and an exception for each
URL that it is for. -/
def disguised (p : Provider) : List Provider :=
  [{ p with completeProvider := true, redirections := [] },
    { p with
      name := [], forceRedirection := !p.forceRedirection, rules := p.rawRules,
      exceptions := [p.urlPattern] }]

/-- Switches under which a provider can be disguised. -/
def blindFlags : CleanFlags :=
  { ignoreRules := true, ignoreExceptions := true, skipBlocked := true }

theorem sameUnder_disguised (ps : List Provider) :
    SameUnder blindFlags ps (ps.flatMap disguised) := by
  induction ps with
  | nil => exact .nil
  | cons p ps ih =>
      refine .right rfl rfl (.both ?_ ih)
      exact ⟨rfl, fun _ => rfl, fun h => absurd rfl h, fun _ => rfl, fun _ => rfl,
        fun h => absurd rfl h, fun _ => rfl⟩

/-- Over two redirections disguised providers clean as they do without disguise; without the
switches they would not.  An address of the user's own network is left alone by all. -/
theorem clean_disguised :
    SameUnder blindFlags marksAndHops (marksAndHops.flatMap disguised) ∧
      clean marksAndHops blindFlags twoHops.text = .ok "http://b.example/x?utm=1&k=2".toList ∧
      clean (marksAndHops.flatMap disguised) blindFlags twoHops.text =
        clean marksAndHops blindFlags twoHops.text ∧
      clean (marksAndHops.flatMap disguised) {} twoHops.text ≠
        clean marksAndHops {} twoHops.text ∧
      clean [] { skipLocal := true } "http://localhost/?utm=1".toList =
        clean marksAndHops { skipLocal := true } "http://localhost/?utm=1".toList := by
  have hlocal : ∃ u, Url.parse "http://localhost/?utm=1".toList = .ok u ∧ u.isLocal :=
    ⟨⟨.http, "localhost".toList, none, "/".toList, "utm=1".toList, []⟩, by decide +kernel,
      by decide +kernel⟩
  exact ⟨sameUnder_disguised _, by decide +kernel,
    (clean_eq_of_sameUnder (.inl (sameUnder_disguised _))).1.symm, by decide +kernel,
    (clean_eq_of_sameUnder (.inr ⟨rfl, hlocal⟩)).1⟩

end Clean

end PlainLink
