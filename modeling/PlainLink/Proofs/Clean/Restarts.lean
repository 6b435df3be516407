/-
# How often cleaning is sent on

Cleaning follows a limited number of redirections.  Where it follows fewer than it may,
the limit plays no part: with one less allowed the answer is the same.
-/
import PlainLink.Proofs.Clean.Settled

namespace PlainLink.Clean

variable {providers : List Provider} {flags : CleanFlags} {u v : Url}

/-! ## The providers of a pass -/

section

variable {p : Provider} {follow : Bool}

theorem pass_cons_of_not_covers (h : ¬ covers p flags u) :
    pass flags follow (p :: providers) u = pass flags follow providers u := by
  rw [pass, if_neg h]

/-- A provider that redirects nothing deletes what it names, and the pass goes on. -/
theorem pass_cons_of_covers (h : covers p flags u)
    (hnone : p.redirections.findSome? (target? u.text) = none) :
    pass flags follow (p :: providers) u = pass flags follow providers (strip p flags u) := by
  rw [pass, if_pos h, hnone, ite_self]

theorem pass_cons_of_target (h : covers p flags u)
    (hsome : p.redirections.findSome? (target? u.text) = some v) :
    pass flags true (p :: providers) u = .redirected v := by
  rw [pass, if_pos h, hsome, if_pos rfl]

end

theorem pass_of_not_covers {follow : Bool} (h : ∀ p ∈ providers, ¬ covers p flags u) :
    pass flags follow providers u = .done u :=
  pass_eq_done_self_iff.2 fun p hp hcovers => absurd hcovers (h p hp)

/-- A pass that finds no redirection to follow is the same where it may follow none. -/
theorem pass_of_done (h : pass flags true providers u = .done v) :
    pass flags false providers u = .done v := by
  induction providers generalizing u with
  | nil => exact h
  | cons p rest ih =>
      unfold pass at h ⊢
      split
      · next hcovers =>
        rw [if_pos hcovers] at h
        cases hsome : p.redirections.findSome? (target? u.text) with
        | some next =>
            rw [hsome] at h
            cases h
        | none =>
            rw [hsome] at h
            exact ih h
      · next hcovers =>
        rw [if_neg hcovers] at h
        exact ih h

/-! ## Redirections that are followed -/

/-- How many redirections cleaning follows from the URL on, of the given number that it may. -/
def followed (providers : List Provider) (flags : CleanFlags) : (restarts : Nat) → Url → Nat
  | 0, _ => 0
  | restarts + 1, u =>
    if flags.skipLocal && u.isLocal then 0
    else match pass flags (!flags.ignoreRedirections) providers u with
      | .redirected next => followed providers flags restarts next + 1
      | .done _ => 0

theorem followed_of_done (h : pass flags (!flags.ignoreRedirections) providers u = .done v)
    (restarts : Nat) : followed providers flags restarts u = 0 := by
  cases restarts with
  | zero => rfl
  | succ restarts => rw [followed, h, ite_self]

theorem passes_succ (restarts : Nat) (u : Url) :
    passes providers flags (restarts + 1) u =
      if flags.skipLocal && u.isLocal then (u, true)
      else match pass flags (!flags.ignoreRedirections) providers u with
        | .done v => (v, false)
        | .redirected next => passes providers flags restarts next := by
  have hfollow : (!flags.ignoreRedirections && decide (0 < restarts + 1)) =
      !flags.ignoreRedirections := by simp
  conv =>
    lhs
    unfold passes
  rw [hfollow]
  cases pass flags (!flags.ignoreRedirections) providers u with
  | done v => rfl
  | redirected next => rfl

theorem passes_zero_of_done {follow : Bool} (hlocal : ¬ (flags.skipLocal && u.isLocal))
    (h : pass flags follow providers u = .done v) : passes providers flags 0 u = (v, false) := by
  have hdone : pass flags false providers u = .done v := by
    cases follow with
    | false => exact h
    | true => exact pass_of_done h
  have hfollow : (!flags.ignoreRedirections && decide (0 < 0)) = false := by simp
  unfold passes
  rw [if_neg hlocal, hfollow, hdone]

/-- A redirection that is not followed does not count among those that may be. -/
theorem passes_of_followed_lt {restarts : Nat}
    (h : followed providers flags (restarts + 1) u < restarts + 1) :
    passes providers flags (restarts + 1) u = passes providers flags restarts u := by
  induction restarts generalizing u with
  | zero =>
      unfold followed at h
      rw [passes_succ]
      split at h
      · next hlocal =>
        unfold passes
        rw [if_pos hlocal, if_pos hlocal]
      · next hlocal =>
        split at h
        · omega
        · next hdone => rw [if_neg hlocal, hdone, passes_zero_of_done hlocal hdone]
  | succ restarts ih =>
      unfold followed at h
      rw [passes_succ, passes_succ]
      split at h
      · next hlocal => rw [if_pos hlocal, if_pos hlocal]
      · next hlocal =>
        rw [if_neg hlocal, if_neg hlocal]
        split at h
        · next hnext =>
          rw [hnext]
          exact ih (Nat.lt_of_succ_lt_succ h)
        · next hdone => rw [hdone]

theorem cleanWithin_of_done (hlocal : ¬ flags.skipLocal)
    (h : pass flags (!flags.ignoreRedirections) providers u = .done v) (restarts : Nat) :
    cleanWithin providers flags (restarts + 1) u = tidy flags v := by
  rw [cleanWithin_succ, if_neg (by simp [hlocal]), h]

theorem cleanWithin_of_followed_lt {restarts : Nat}
    (h : followed providers flags (restarts + 1) u < restarts + 1) :
    cleanWithin providers flags (restarts + 1) u = cleanWithin providers flags restarts u := by
  rw [cleanWithin, cleanWithin, passes_of_followed_lt h]

/-- Two passes lead to the same: both are sent on to one URL, or what they come to is
put in order alike. -/
inductive Pass.Alike (flags : CleanFlags) : Pass → Pass → Prop
  | done {u v : Url} : tidy flags u = tidy flags v → Alike flags (.done u) (.done v)
  | redirected (next : Url) : Alike flags (.redirected next) (.redirected next)

theorem cleanWithin_congr (hlocal : ¬ flags.skipLocal)
    (h : ∀ follow, Pass.Alike flags (pass flags follow providers u)
    (pass flags follow providers v)) (restarts : Nat) :
    cleanWithin providers flags restarts u = cleanWithin providers flags restarts v := by
  have hpass := h (!flags.ignoreRedirections && decide (0 < restarts))
  rw [cleanWithin, cleanWithin]
  unfold passes
  simp only [hlocal, Bool.false_and, Bool.false_eq_true, if_false]
  generalize pass flags (!flags.ignoreRedirections && decide (0 < restarts)) providers u =
    left at hpass ⊢
  generalize pass flags (!flags.ignoreRedirections && decide (0 < restarts)) providers v = right
    at hpass ⊢
  cases hpass with
  | done htidy => exact htidy
  | redirected next => rfl

end PlainLink.Clean
