/-
# The course of a cleaning

Cleaning is a loop: a pass through the providers, and another one from the first
provider on for each URL that a redirection rule puts in the place of the one before.
`Course` lists the rules of this loop,

    exempt        the URL is left as it is, without a pass
    done          a pass comes to its end, and the field lists are put in order
    redirected    a pass leads to another URL, and the loop goes on there

and has nothing in it that ends the loop but the counter by which a pass knows whether
it may be redirected.  The counter suffices: each URL has one course (`Course.unique`),
no more redirections are followed than the limit allows (`Course.redirected_le`), and
cleaning goes where the course leads.

What holds of a whole cleaning is then shown by induction on its course: that it could
have begun at any URL that it came through, if a redirection was left at the end, and
that it only deletes if there was none.

Main statements: `clean_course`, `clean_from_redirected`, `clean_deletes`.
-/
import Mathlib.Control.Monad.Basic
import PlainLink.Proofs.Clean.Restarts

namespace PlainLink

theorem Url.url_of_parse_eq_error {input : Text} {e : CleanError}
    (h : Url.parse input = .error e) :
    e.url = input := by
  unfold Url.parse at h
  dsimp only at h
  split at h
  · cases h
    rfl
  · split at h
    · cases h
      rfl
    · next scheme _ =>
      cases hrest : Url.ofRest scheme (Url.splitScheme (Text.trim input)).2 with
      | error defect =>
          rw [hrest] at h
          cases h
          rfl
      | ok u =>
          rw [hrest] at h
          cases h

namespace Clean

/-! ## The rules of the loop -/

/-- The pass was given up for another URL. -/
def Pass.isRedirected : Pass → Bool
  | done _ => false
  | redirected _ => true

deriving instance DecidableEq for Pass

/-- Redirection rules still count after `made` redirections. -/
def follows (flags : CleanFlags) (made : Nat) : Bool :=
  !flags.ignoreRedirections && decide (made < maxRestarts)

/-- At the URL, after `made` redirections, the loop goes on with the listed passes and ends
with the cleaned URL. -/
inductive Course (providers : List Provider) (flags : CleanFlags) :
    (made : Nat) → Url → List Pass → Url → Prop
  | exempt {made : Nat} {u : Url} :
      (flags.skipLocal && u.isLocal) → Course providers flags made u [] u
  | done {made : Nat} {u v : Url} :
      ¬ (flags.skipLocal && u.isLocal) → pass flags (follows flags made) providers u = .done v →
      Course providers flags made u [.done v] (tidy flags v)
  | redirected {made : Nat} {u next c : Url} {log : List Pass} :
      ¬ (flags.skipLocal && u.isLocal) →
      pass flags (follows flags made) providers u = .redirected next →
      Course providers flags (made + 1) next log c →
      Course providers flags made u (.redirected next :: log) c

variable {providers : List Provider} {flags : CleanFlags} {made : Nat} {u v c : Url}
  {log : List Pass}

theorem follows_of_lt (h : made < maxRestarts) :
    follows flags made = !flags.ignoreRedirections := by
  simp [follows, h]

theorem follows_of_le (h : maxRestarts ≤ made) : follows flags made = false := by
  simp [follows, Nat.not_lt.2 h]

theorem follows_of_pass (h : pass flags (follows flags made) providers u = .redirected v) :
    ¬ flags.ignoreRedirections ∧ made < maxRestarts := by
  cases hfollows : follows flags made with
  | true => simpa [follows] using hfollows
  | false =>
      obtain ⟨w, hdone⟩ := pass_done flags providers u
      rw [hfollows, hdone] at h
      cases h

namespace Course

/-! ## One course, and a short one -/

theorem unique {log' : List Pass} {c' : Url} (h : Course providers flags made u log c)
    (h' : Course providers flags made u log' c') : log' = log ∧ c' = c := by
  induction h generalizing log' c' with
  | exempt hlocal =>
      cases h' with
      | exempt _ => exact ⟨rfl, rfl⟩
      | done hremote _ => exact absurd hlocal hremote
      | redirected hremote _ _ => exact absurd hlocal hremote
  | done hremote hpass =>
      cases h' with
      | exempt hlocal => exact absurd hlocal hremote
      | done _ hpass' =>
          cases hpass.symm.trans hpass'
          exact ⟨rfl, rfl⟩
      | redirected _ hpass' _ => cases hpass.symm.trans hpass'
  | redirected hremote hpass _ ih =>
      cases h' with
      | exempt hlocal => exact absurd hlocal hremote
      | done _ hpass' => cases hpass.symm.trans hpass'
      | redirected _ hpass' hrest =>
          cases hpass.symm.trans hpass'
          obtain ⟨rfl, rfl⟩ := ih hrest
          exact ⟨rfl, rfl⟩

/-- The redirections of a course keep to the limit, those before it counted in. -/
theorem redirected_le (h : Course providers flags made u log c) (hmade : made ≤ maxRestarts) :
    made + log.countP Pass.isRedirected ≤ maxRestarts := by
  induction h with
  | exempt _ => exact hmade
  | done _ _ => exact hmade
  | redirected _ hpass _ ih =>
      have hrest := ih (follows_of_pass hpass).2
      rw [List.countP_cons_of_pos rfl]
      omega

theorem length_le (h : Course providers flags made u log c) :
    log.length ≤ log.countP Pass.isRedirected + 1 := by
  induction h with
  | exempt _ => exact Nat.zero_le _
  | done _ _ => exact Nat.le_refl _
  | redirected _ _ _ ih =>
      rw [List.countP_cons_of_pos rfl, List.length_cons]
      exact Nat.succ_le_succ ih

/-! ## Cleaning takes it -/

/-- With the redirections that are left, there is a course to where cleaning ends. -/
theorem exists_to_cleanWithin (providers : List Provider) (flags : CleanFlags)
    {made restarts : Nat} (hleft : made + restarts = maxRestarts) (u : Url) :
    ∃ log, Course providers flags made u log (cleanWithin providers flags restarts u) := by
  induction restarts generalizing made u with
  | zero =>
      by_cases hlocal : (flags.skipLocal && u.isLocal) = true
      · have hclean : cleanWithin providers flags 0 u = u := by
          unfold cleanWithin passes
          rw [if_pos hlocal]
          rfl
        exact ⟨[], hclean.symm ▸ .exempt hlocal⟩
      · obtain ⟨v, hdone⟩ := pass_done flags providers u
        have hclean : cleanWithin providers flags 0 u = tidy flags v := by
          rw [cleanWithin, passes_zero_of_done hlocal hdone]
          rfl
        have hfollows : follows flags made = false := follows_of_le (Nat.le_of_eq hleft.symm)
        exact ⟨[.done v], hclean.symm ▸ .done hlocal (hfollows ▸ hdone)⟩
  | succ restarts ih =>
      have hnext : made + 1 + restarts = maxRestarts := by omega
      have hfollows : follows flags made = !flags.ignoreRedirections := follows_of_lt (by omega)
      rw [cleanWithin_succ]
      split
      · next hlocal => exact ⟨[], .exempt hlocal⟩
      · next hremote =>
        rw [← hfollows]
        cases hpass : pass flags (follows flags made) providers u with
        | done v => exact ⟨_, .done hremote hpass⟩
        | redirected next =>
            obtain ⟨log, hrest⟩ := ih hnext next
            exact ⟨_, .redirected hremote hpass hrest⟩

theorem cleanUrl_eq (h : Course providers flags 0 u log c) : cleanUrl providers flags u = c := by
  obtain ⟨log', h'⟩ := exists_to_cleanWithin providers flags (Nat.zero_add maxRestarts) u
  exact (h.unique h').2

theorem clean_eq {url : Text} (h : Course providers flags 0 u log c)
    (hparse : Url.parse url = .ok u) : clean providers flags url = .ok c.text := by
  rw [clean, hparse, ← h.cleanUrl_eq]
  rfl

/-! ## Beginning in the middle -/

theorem exists_of_redirected (h : Course providers flags made u log c)
    (hv : .redirected v ∈ log) :
    ∃ made' log', Course providers flags made' v log' c ∧
      made' + log'.countP Pass.isRedirected = made + log.countP Pass.isRedirected := by
  induction h with
  | exempt _ => cases hv
  | done _ _ => cases List.mem_singleton.1 hv
  | @redirected made u next c log _ _ hrest ih =>
      rw [List.countP_cons_of_pos rfl]
      rcases List.mem_cons.1 hv with hnext | hlater
      · cases hnext
        exact ⟨made + 1, log, hrest, by omega⟩
      · obtain ⟨made', log', hcourse, hcount⟩ := ih hlater
        exact ⟨made', log', hcourse, by omega⟩

/-- A course that stays below the limit is the same with fewer redirections before it. -/
theorem of_le (h : Course providers flags made u log c)
    (hfew : made + log.countP Pass.isRedirected < maxRestarts) {made' : Nat}
    (hle : made' ≤ made) :
    Course providers flags made' u log c := by
  have hfollows : follows flags made = follows flags made' := by
    rw [follows_of_lt (by omega), follows_of_lt (by omega)]
  induction h generalizing made' with
  | exempt hlocal => exact .exempt hlocal
  | done hremote hpass => exact .done hremote (hfollows ▸ hpass)
  | @redirected made u next c log hremote hpass _ ih =>
      rw [List.countP_cons_of_pos rfl] at hfew
      have hfollows' : follows flags (made + 1) = follows flags (made' + 1) := by
        rw [follows_of_lt (by omega), follows_of_lt (by omega)]
      exact .redirected hremote (hfollows ▸ hpass) (ih (by omega) (by omega) hfollows')

end Course

/-! ## Cleaning comes to an end -/

/-- A text that is no URL is refused, with the error of its reading and under its own name.
Every other text is cleaned, whatever the rules redirect to: the loop has exactly one
course for it, in which no more redirections are followed than the limit allows, and there
is one pass more at most. -/
theorem clean_course (providers : List Provider) (flags : CleanFlags) (url : Text) :
    match Url.parse url with
    | .error e => clean providers flags url = .error e ∧ e.url = url
    | .ok u =>
      ∃ log c, clean providers flags url = .ok c.text ∧
        (∀ log' c', Course providers flags 0 u log' c' ↔ log' = log ∧ c' = c) ∧
        log.countP Pass.isRedirected ≤ maxRestarts ∧ log.length ≤ maxRestarts + 1 := by
  cases hparse : Url.parse url with
  | error e =>
      refine ⟨?_, Url.url_of_parse_eq_error hparse⟩
      rw [clean, hparse]
      rfl
  | ok u =>
      obtain ⟨log, hcourse⟩ := Course.exists_to_cleanWithin providers flags
        (Nat.zero_add maxRestarts) u
      have hredirected := hcourse.redirected_le (Nat.zero_le _)
      rw [Nat.zero_add] at hredirected
      refine ⟨log, _, hcourse.clean_eq hparse, fun log' c' => ⟨hcourse.unique, ?_⟩, hredirected,
        Nat.le_trans hcourse.length_le (Nat.succ_le_succ hredirected)⟩
      rintro ⟨rfl, rfl⟩
      exact hcourse

/-! ## Cleaning begins anew at a redirection -/

/-- Where fewer redirections are followed than the limit allows, cleaning leads where it would
have led from any URL that it was redirected to.  No matter what a pass had deleted before; and
if that URL reads back from its text, the two texts are cleaned alike. -/
theorem clean_from_redirected {url : Text} (hparse : Url.parse url = .ok u)
    (hcourse : Course providers flags 0 u log c)
    (hfew : log.countP Pass.isRedirected < maxRestarts) (hv : .redirected v ∈ log) :
    clean providers flags url = .ok (cleanUrl providers flags v).text ∧
      (Url.parse v.text = .ok v → clean providers flags url = clean providers flags v.text) := by
  obtain ⟨made, later, hlater, hcount⟩ := hcourse.exists_of_redirected hv
  have hanew : Course providers flags 0 v later c := hlater.of_le (by omega) (Nat.zero_le made)
  rw [hcourse.clean_eq hparse]
  refine ⟨by rw [hanew.cleanUrl_eq], fun hback => ?_⟩
  rw [hanew.clean_eq hback]

/-- Two providers: one deletes fields and parts of paths everywhere, and the other redirects a
site to the addresses in its paths. -/
def marksAndHops : List Provider :=
  [("marks".toList,
      { urlPattern := "^https?".toList, rules := ["utm".toList],
        rawRules := ["/ref=[^/]*".toList] }),
    ("hops".toList,
      { urlPattern := "^https?://a\\.example".toList,
        redirections := ["^https?://a\\.example/(.+)".toList] })].filterMap
    fun (name, p) => (ProviderText.compile name p).toOption

/-- An address that leads to another, and from there to a third. -/
def twoHops : Url :=
  ⟨.http, "a.example".toList, none, "/a.example/b.example/x".toList, "utm=1&k=2".toList, []⟩

/-- The address behind the first hop, without the field that was deleted before it. -/
def oneHop : Url :=
  ⟨.http, "a.example".toList, none, "/b.example/x".toList, "&k=2".toList, []⟩

/-- The address behind the second hop. -/
def noHop : Url :=
  ⟨.http, "b.example".toList, none, "/x".toList, "&k=2".toList, []⟩

/-- With two hops to make, both addresses are cleaned to where the second leads. -/
theorem clean_from_oneHop :
    Course marksAndHops {} 0 twoHops [.redirected oneHop, .redirected noHop, .done noHop]
        (tidy {} noHop) ∧
      clean marksAndHops {} twoHops.text = .ok "http://b.example/x?k=2".toList ∧
      clean marksAndHops {} twoHops.text = clean marksAndHops {} oneHop.text := by
  have hlast : Course marksAndHops {} 2 noHop [.done noHop] (tidy {} noHop) :=
    .done (by decide) (by decide +kernel)
  have hcourse : Course marksAndHops {} 0 twoHops
      [.redirected oneHop, .redirected noHop, .done noHop] (tidy {} noHop) :=
    .redirected (by decide) (by decide +kernel)
      (.redirected (by decide) (by decide +kernel) hlast)
  have hparse : Url.parse twoHops.text = .ok twoHops := by decide +kernel
  obtain ⟨-, hback⟩ := clean_from_redirected hparse hcourse (by decide) List.mem_cons_self
  refine ⟨hcourse, ?_, hback (by decide +kernel)⟩
  rw [hcourse.clean_eq hparse]
  decide +kernel

/-! ## Cleaning deletes -/

namespace Course

theorem partOf (h : Course providers flags made u log c)
    (hstays : ∀ next, .redirected next ∉ log) :
    c.PartOf u := by
  cases h with
  | exempt _ => exact .refl u
  | done _ hpass => exact (pass_partOf hpass).trans (tidy_partOf flags _)
  | redirected _ _ _ => exact absurd List.mem_cons_self (hstays _)

theorem not_mem_of_ignore (h : Course providers flags made u log c)
    (hflags : flags.ignoreRedirections) (next : Url) : .redirected next ∉ log := by
  cases h with
  | exempt _ => exact List.not_mem_nil
  | done _ _ => simp
  | redirected _ hpass _ => exact absurd hflags (follows_of_pass hpass).1

end Course

/-- What is cleaned without being redirected keeps its scheme, host and port, and of its path,
query and fragment the characters that are left stand as they stood. -/
theorem clean_deletes {url : Text} (hparse : Url.parse url = .ok u)
    (hcourse : Course providers flags 0 u log c) (hstays : ∀ next, .redirected next ∉ log) :
    clean providers flags url = .ok c.text ∧ c.PartOf u :=
  ⟨hcourse.clean_eq hparse, hcourse.partOf hstays⟩

/-- Fields go from the query and the fragment, and a part from the path; all else stays. -/
theorem clean_deletes_marks :
    clean marksAndHops {} "http://B.example:8080/x/ref=1/y?utm=1&k=2#s=1&utm=3".toList =
        .ok "http://b.example:8080/x/y?k=2#s=1".toList ∧
      Url.PartOf ⟨.http, "b.example".toList, some 8080, "/x/y".toList,
        "k=2".toList, "s=1".toList⟩
        ⟨.http, "b.example".toList, some 8080, "/x/ref=1/y".toList, "utm=1&k=2".toList,
          "s=1&utm=3".toList⟩ := by
  have hcourse : Course marksAndHops {} 0
      ⟨.http, "b.example".toList, some 8080, "/x/ref=1/y".toList, "utm=1&k=2".toList,
        "s=1&utm=3".toList⟩
      [.done ⟨.http, "b.example".toList, some 8080, "/x/y".toList, "&k=2".toList, "s=1&".toList⟩]
      ⟨.http, "b.example".toList, some 8080, "/x/y".toList, "k=2".toList, "s=1".toList⟩ :=
    .done (by decide) (by decide +kernel)
  exact clean_deletes (by decide +kernel) hcourse (by simp)

end Clean

end PlainLink
