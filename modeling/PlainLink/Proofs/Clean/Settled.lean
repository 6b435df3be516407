/-
# What cleaning leaves as it is

Cleaning a cleaned text once more can change it: an exception protects a URL only as
long as the text that it matches is there, a blank at the end is dropped by the next
reading, and what follows the last colon of a host is read as a port.  So it is not true
that cleaning twice is cleaning once.  What is true is a description of the texts that
do stay (`clean_eq_self_iff`): they are read as a URL, and

  * the text is that of the URL, and the URL is at rest (`AtRest`): it is exempted, or
    its field lists are in order and no provider finds anything in it;
  * or redirection rules lead from the URL back to the text (`LeadsTo`).

That a URL at rest stays is immediate.  The other direction needs that no deletion can
be made up for by another one.  A pass only leaves out characters, so each URL on the
way is a part of the one before (`PartOf`), and being a part is antisymmetric; but what
has to be the same in the end are texts, and two different URLs can have one text.  That
a part of a URL which has the text of the whole is the whole is shown where texts are
read back.

Main statement: `clean_eq_self_iff`.
-/
import PlainLink.Proofs.Clean.Deletion
import PlainLink.Rule.Bundled

namespace PlainLink.Clean

/-- The provider finds nothing in the URL: it is not for it, or it neither redirects it
nor deletes from it. -/
def Leaves (p : Provider) (flags : CleanFlags) (follow : Bool) (u : Url) : Prop :=
  covers p flags u → (follow → p.redirections.findSome? (target? u.text) = none) ∧
    strip p flags u = u

/-- Cleaning is done with the URL: it is exempted, or it is in order and no provider
finds anything in it. -/
def AtRest (providers : List Provider) (flags : CleanFlags) (u : Url) : Prop :=
  (flags.skipLocal ∧ u.isLocal) ∨
    (tidy flags u = u ∧ ∀ p ∈ providers, Leaves p flags (!flags.ignoreRedirections) u)

theorem pass_eq_done_self_iff {flags : CleanFlags} {follow : Bool} {providers : List Provider}
    {u : Url} :
    pass flags follow providers u = .done u ↔ ∀ p ∈ providers, Leaves p flags follow u := by
  induction providers with
  | nil => simp [pass]
  | cons p rest ih =>
      rw [List.forall_mem_cons, ← ih, pass]
      by_cases hcovers : covers p flags u
      · rw [if_pos hcovers]
        cases htarget : if follow then p.redirections.findSome? (target? u.text) else none with
        | some next =>
            constructor
            · intro h
              cases h
            · intro h
              cases follow with
              | false => cases htarget
              | true => cases htarget.symm.trans ((h.1 hcovers).1 rfl)
        | none =>
            have hnone : follow → p.redirections.findSome? (target? u.text) = none := by
              intro hfollow
              rwa [if_pos hfollow] at htarget
            constructor
            · intro h
              -- What a provider deletes, no later one puts back.
              have hstrip : strip p flags u = u :=
                (strip_partOf p flags u).antisymm (pass_partOf h)
              rw [hstrip] at h
              exact ⟨fun _ => ⟨hnone, hstrip⟩, h⟩
            · intro h
              dsimp only
              rw [(h.1 hcovers).2]
              exact h.2
      · rw [if_neg hcovers]
        exact ⟨fun h => ⟨fun hc => absurd hc hcovers, h⟩, fun h => h.2⟩

/-! ## Cleaning with a number of restarts left -/

/-- The cleaned form of a URL that may still be redirected the given number of times. -/
def cleanWithin (providers : List Provider) (flags : CleanFlags) (restarts : Nat) (u : Url) :
    Url :=
  let (u, left) := passes providers flags restarts u
  if left then u else tidy flags u

theorem cleanUrl_eq (providers : List Provider) (flags : CleanFlags) (u : Url) :
    cleanUrl providers flags u = cleanWithin providers flags maxRestarts u := rfl

theorem cleanWithin_succ (providers : List Provider) (flags : CleanFlags)
    (restarts : Nat) (u : Url) :
    cleanWithin providers flags (restarts + 1) u =
      if flags.skipLocal && u.isLocal then u
      else match pass flags (!flags.ignoreRedirections) providers u with
        | .done v => tidy flags v
        | .redirected next => cleanWithin providers flags restarts next := by
  have hfollow : (!flags.ignoreRedirections && decide (0 < restarts + 1)) =
      !flags.ignoreRedirections := by simp
  rw [cleanWithin]
  unfold passes
  rw [hfollow]
  by_cases hlocal : (flags.skipLocal && u.isLocal) = true
  · rw [if_pos hlocal, if_pos hlocal]
    rfl
  · rw [if_neg hlocal, if_neg hlocal]
    cases pass flags (!flags.ignoreRedirections) providers u with
    | done v => rfl
    | redirected next => rfl

/-- A redirection rule sends the URL to another, and cleaning goes on
from there to the text. -/
def LeadsTo (providers : List Provider) (flags : CleanFlags) (u : Url) (c : Text) : Prop :=
  ¬ (flags.skipLocal ∧ u.isLocal) ∧
    ∃ next, pass flags (!flags.ignoreRedirections) providers u = .redirected next ∧
      (cleanWithin providers flags (maxRestarts - 1) next).text = c

theorem text_cleanUrl_eq_iff {providers : List Provider} {flags : CleanFlags}
    {u : Url} {c : Text} (hparse : Url.parse c = .ok u) :
    (cleanUrl providers flags u).text = c ↔
      (u.text = c ∧ AtRest providers flags u) ∨ LeadsTo providers flags u c := by
  rw [cleanUrl_eq, maxRestarts, cleanWithin_succ]
  by_cases hlocal : flags.skipLocal ∧ u.isLocal
  · rw [if_pos (by simpa using hlocal)]
    constructor
    · intro h
      exact .inl ⟨h, .inl hlocal⟩
    · rintro (⟨h, -⟩ | ⟨hremote, -⟩)
      · exact h
      · exact absurd hlocal hremote
  · rw [if_neg (by simpa using hlocal)]
    have hrest : AtRest providers flags u ↔ tidy flags u = u ∧
        pass flags (!flags.ignoreRedirections) providers u = .done u := by
      rw [AtRest, pass_eq_done_self_iff, or_iff_right hlocal]
    rw [hrest, LeadsTo]
    cases hpass : pass flags (!flags.ignoreRedirections) providers u with
    | redirected next =>
        constructor
        · intro h
          exact .inr ⟨hlocal, next, rfl, h⟩
        · rintro (⟨-, -, hdone⟩ | ⟨-, next, hnext, h⟩)
          · cases hdone
          · cases hnext
            exact h
    | done v =>
        dsimp only
        constructor
        · intro h
          have hv := pass_partOf hpass
          have htidy : tidy flags v = u := (hv.trans (tidy_partOf flags v)).eq_of_parse hparse h
          obtain rfl : v = u := hv.antisymm (htidy ▸ tidy_partOf flags v)
          exact .inl ⟨by rw [← h, htidy], htidy, rfl⟩
        · rintro (⟨h, htidy, hdone⟩ | ⟨-, next, hnext, -⟩)
          · cases hdone
            rw [htidy, h]
          · cases hnext

/-- A text is left as it is by cleaning exactly if it is read as a URL, and either it
is the text of that URL and the URL is at rest, or redirection rules lead from the
URL back to the text. -/
theorem clean_eq_self_iff (providers : List Provider) (flags : CleanFlags) (c : Text) :
    clean providers flags c = .ok c ↔
      ∃ u, Url.parse c = .ok u ∧
        ((u.text = c ∧ AtRest providers flags u) ∨ LeadsTo providers flags u c) := by
  rw [clean]
  cases hparse : Url.parse c with
  | error e =>
      constructor
      · intro h
        cases h
      · rintro ⟨u, hu, -⟩
        cases hu
  | ok u =>
      constructor
      · intro h
        exact ⟨u, rfl, (text_cleanUrl_eq_iff hparse).1 (Except.ok.inj h)⟩
      · rintro ⟨v, hv, h⟩
        cases hv
        exact congrArg Except.ok ((text_cleanUrl_eq_iff hparse).2 h)

theorem eq_ok_of_toOption {ε α : Type} {x : Except ε α} {a : α} (h : x.toOption = some a) :
    x = .ok a := by
  cases x with
  | error e => cases h
  | ok b => exact congrArg Except.ok (Option.some.inj h)

/-- A cleaned text need not stay: without the mark of its empty query a URL can end in a blank,
which the next reading drops. -/
theorem bundled_clean_not_stable :
    ¬ ∀ (flags : CleanFlags) (url c : Text),
      Store.bundled.clean flags url = .ok c → Store.bundled.clean flags c = .ok c := by
  intro h
  have hfirst : Store.bundled.clean { skipLocal := true } "http://localhost/ ?".toList =
      .ok "http://localhost/ ".toList := eq_ok_of_toOption (by decide +kernel)
  have hsecond : Store.bundled.clean { skipLocal := true } "http://localhost/ ".toList =
      .ok "http://localhost/".toList := eq_ok_of_toOption (by decide +kernel)
  have hstays := (h _ _ _ hfirst).symm.trans hsecond
  exact absurd (Except.ok.inj hstays) (by decide)

end PlainLink.Clean
