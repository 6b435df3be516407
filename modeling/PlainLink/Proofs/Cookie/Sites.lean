/-
# Which hosts share a cookie

A cookie whose line names a domain goes to every host that the domain covers, and a
domain covers a host by its text alone.  Two hosts that share a cookie therefore belong
together, unless the text is no domain: the last octets of a numeric address are none,
and neither is the empty text, which covers every host that ends with a dot.

    from 1.2.3.4      Domain=3.4     goes to 9.9.3.4 too
    from a.example.   Domain=.       goes to b.test. too

Two hosts belong together (`Related`) if both are names and some domain covers them,
which comes to the same as that they have one last label (`exists_covers_iff`).  With
that the two cases are not only examples: they are all there are, over every history of
a jar and whatever its policy is.

Main statement: `strays_iff`.
-/
import PlainLink.Host.Local
import PlainLink.Proofs.Cookie.Origin

namespace PlainLink

/-! ## Cookies that a jar accepts -/

structure Received where
  /-- The URL that was asked for. -/
  url : Url
  /-- The lines that set cookies. -/
  lines : List Text
  now : Instant

def CookieJar.readAll (j : CookieJar) (history : List Received) : CookieJar :=
  history.foldl (fun j e => j.read e.url e.lines e.now) j

namespace Cookie

/-- One of the responses, to a request for `origin`, brought the line that sets the cookie, and
the policy lets the cookie in. -/
def AcceptedFrom (policy : CookiePolicy) (history : List Received) (line : Text) (origin : Url)
    (c : Cookie) : Prop :=
  ∃ e ∈ history, e.url = origin ∧ line ∈ e.lines ∧ ofLine? line origin e.now = some c ∧
    policy.allows c.policyDomain

theorem mem_readAll {j : CookieJar} {history : List Received} {c : Cookie}
    (h : c ∈ (j.readAll history).cookies) :
    c ∈ j.cookies ∨ ∃ line origin, AcceptedFrom j.policy history line origin c := by
  induction history generalizing j with
  | nil => exact .inl h
  | cons e history ih =>
      rcases ih (j := j.read e.url e.lines e.now) h with hkept | ⟨line, origin, e',
          he', haccepted⟩
      · rcases CookieJar.mem_of_mem_read hkept with hkept | ⟨line, hline, hset, hallowed⟩
        · exact .inl hkept
        · exact .inr ⟨line, e.url, e, List.mem_cons_self, rfl, hline, hset, hallowed⟩
      · rw [CookieJar.policy_read] at haccepted
        exact .inr ⟨line, origin, e', List.mem_cons_of_mem e he', haccepted⟩

/-! ## Hosts that belong together -/

/-- The host is a numeric address, in brackets or without. -/
def isNumeric (host : Text) : Bool :=
  (Host.readAddress? (Host.unbracketed host)).isSome

/-- Both hosts are names, and some domain covers them. -/
def Related (a b : Text) : Prop :=
  ¬ isNumeric a ∧ ¬ isNumeric b ∧ ∃ domain ≠ [], domainCovers domain a ∧ domainCovers domain b

/-- The last label of a host, with the dot behind it if the host ends with one. -/
def topDomain (host : Text) : Text :=
  match host.reverse with
  | [] => []
  | last :: before => (last :: before.takeWhile (· != '.')).reverse

theorem domainCovers_iff {domain host : Text} :
    domainCovers domain host ↔ host = domain ∨ ∃ front, host = front ++ '.' :: domain := by
  rw [domainCovers, Bool.or_eq_true, beq_iff_eq, List.isSuffixOf_iff_suffix]
  constructor
  · rintro (rfl | ⟨front, rfl⟩)
    · exact .inl rfl
    · exact .inr ⟨front, rfl⟩
  · rintro (rfl | ⟨front, rfl⟩)
    · exact .inl rfl
    · exact .inr ⟨front, rfl⟩

theorem topDomain_of_covers {domain host : Text} (hdomain : domain ≠ [])
    (h : domainCovers domain host) : topDomain host = topDomain domain := by
  rcases domainCovers_iff.1 h with rfl | ⟨front, rfl⟩
  · rfl
  · obtain ⟨last, before, hlast⟩ :=
      List.exists_cons_of_ne_nil (List.reverse_ne_nil_iff.2 hdomain)
    have hreverse :
        (front ++ '.' :: domain).reverse = last :: (before ++ '.' :: front.reverse) := by
      rw [List.reverse_append, List.reverse_cons, hlast, List.append_assoc]
      rfl
    rw [topDomain, topDomain, hreverse, hlast]
    dsimp only
    rw [List.takeWhile_append]
    split
    · next hall =>
      have hall : before.takeWhile (· != '.') = before :=
        (List.takeWhile_prefix _).eq_of_length hall
      rw [hall, List.takeWhile_cons_of_neg (by decide), List.append_nil]
    · rfl

theorem topDomain_covers {host : Text} (hhost : host ≠ []) :
    topDomain host ≠ [] ∧ domainCovers (topDomain host) host := by
  obtain ⟨last, before, hlast⟩ := List.exists_cons_of_ne_nil (List.reverse_ne_nil_iff.2 hhost)
  have htop : topDomain host = (last :: before.takeWhile (· != '.')).reverse := by
    rw [topDomain, hlast]
  refine ⟨by simp [htop], domainCovers_iff.2 ?_⟩
  have hwhole : host = (before.dropWhile (· != '.')).reverse ++ topDomain host := by
    rw [htop, ← List.reverse_append, List.cons_append, List.takeWhile_append_dropWhile, ← hlast,
      List.reverse_reverse]
  cases hdrop : before.dropWhile (· != '.') with
  | nil =>
      rw [hdrop] at hwhole
      exact .inl hwhole
  | cons dot front =>
      have hdot : dot = '.' := by
        simpa [hdrop] using List.head?_dropWhile_not (· != '.') before
      rw [hdrop, hdot, List.reverse_cons, List.append_assoc] at hwhole
      exact .inr ⟨front.reverse, hwhole⟩

/-- Two hosts have a domain in common exactly if they have the same last label. -/
theorem exists_covers_iff {a b : Text} (hne : a ≠ b) :
    (∃ domain ≠ [], domainCovers domain a ∧ domainCovers domain b) ↔
      topDomain a = topDomain b := by
  constructor
  · rintro ⟨domain, hdomain, ha, hb⟩
    rw [topDomain_of_covers hdomain ha, topDomain_of_covers hdomain hb]
  · intro h
    have ha : a ≠ [] := by
      rintro rfl
      exact (topDomain_covers hne.symm).1 h.symm
    have hb : b ≠ [] := by
      rintro rfl
      exact (topDomain_covers hne).1 h
    obtain ⟨htop, hcovers⟩ := topDomain_covers ha
    exact ⟨topDomain a, htop, hcovers, h ▸ (topDomain_covers hb).2⟩

/-! ## Cookies that go to another host -/

/-- A cookie that goes to another host than the one that set it has the domain that its line
names, and the domain covers both hosts. -/
theorem covers_of_isFor {line : Text} {origin u : Url} {c : Cookie} {set now : Instant}
    (hset : ofLine? line origin set = some c) (hfor : c.isFor u now)
    (hother : u.host ≠ origin.host) :
    namedDomain? line = some c.domain ∧ domainCovers c.domain origin.host ∧
      domainCovers c.domain u.host := by
  obtain ⟨⟨-, hhost⟩, -⟩ : (_ ∧ c.coversHost u.host) ∧ _ := by simpa [isFor] using hfor
  rcases (ofLine?_eq_some hset).2 with ⟨-, honly, hdomain⟩ | ⟨hnamed, hwide, hcovers⟩
  · rw [coversHost, if_pos honly, hdomain] at hhost
    exact absurd (beq_iff_eq.1 hhost) hother
  · rw [coversHost, if_neg hwide] at hhost
    exact ⟨hnamed, hcovers, hhost⟩

/-- Every cookie that a jar keeps was accepted from a response.  An accepted cookie that goes
to another host than the one that set it has the domain that its line names, which covers
both hosts.  The two hosts do not belong together exactly if one of them is a numeric
address, or the line names nothing but dots and the hosts, which then end with a dot, have
different last labels. -/
theorem strays_iff (policy : CookiePolicy) (history : List Received) :
    (∀ c ∈ ((CookieJar.empty policy).readAll history).cookies,
      ∃ line origin, AcceptedFrom policy history line origin c) ∧
    ∀ line origin c, AcceptedFrom policy history line origin c →
      ∀ u now, c.isFor u now → u.host ≠ origin.host →
        namedDomain? line = some c.domain ∧ domainCovers c.domain origin.host ∧
        domainCovers c.domain u.host ∧
        (¬ Related origin.host u.host ↔ isNumeric origin.host ∨ isNumeric u.host ∨
          c.domain = [] ∧ topDomain origin.host ≠ topDomain u.host) := by
  constructor
  · intro c hc
    rcases mem_readAll hc with hkept | haccepted
    · exact absurd hkept List.not_mem_nil
    · exact haccepted
  · rintro line origin c ⟨e, -, -, -, hset, -⟩ u now hfor hother
    obtain ⟨hnamed, hcovers, hcovers'⟩ := covers_of_isFor hset hfor hother
    refine ⟨hnamed, hcovers, hcovers', ?_⟩
    rw [Related, exists_covers_iff hother.symm]
    constructor
    · intro hunrelated
      by_cases hfirst : isNumeric origin.host
      · exact .inl hfirst
      · by_cases hsecond : isNumeric u.host
        · exact .inr (.inl hsecond)
        · have htop : topDomain origin.host ≠ topDomain u.host := fun htop =>
            hunrelated ⟨hfirst, hsecond, htop⟩
          refine .inr (.inr ⟨Decidable.byContradiction fun hdomain => htop ?_, htop⟩)
          rw [topDomain_of_covers hdomain hcovers, topDomain_of_covers hdomain hcovers']
    · rintro (hfirst | hsecond | ⟨-, htop⟩) ⟨hname, hname', hsame⟩
      · exact hname hfirst
      · exact hname' hsecond
      · exact htop hsame

/-- A page of the host, without a query. -/
def page (host : String) : Url :=
  ⟨.http, host.toList, none, "/".toList, [], []⟩

/-- The line names nothing but a dot, and its cookie goes from one host with a dot at its end
to another that shares nothing else with it. -/
theorem strays_past_dot :
    ∃ c, AcceptedFrom .allowAll [⟨page "a.example.", ["a=1; Domain=.".toList], ⟨0, 0⟩⟩]
        "a=1; Domain=.".toList (page "a.example.") c ∧
      c.isFor (page "b.other.") ⟨0, 0⟩ ∧ (page "b.other.").host ≠ (page "a.example.").host ∧
      ¬ Related (page "a.example.").host (page "b.other.").host := by
  have haccepted : AcceptedFrom .allowAll
      [⟨page "a.example.", ["a=1; Domain=.".toList], ⟨0, 0⟩⟩] "a=1; Domain=.".toList
      (page "a.example.") ⟨['a'], ['1'], [], false, ['/'], false, none⟩ :=
    ⟨_, List.mem_cons_self, rfl, List.mem_cons_self, by decide, rfl⟩
  have hfor : Cookie.isFor ⟨['a'], ['1'], [], false, ['/'], false, none⟩
      (page "b.other.") ⟨0, 0⟩ := by
    decide
  refine ⟨_, haccepted, hfor, by decide, ?_⟩
  obtain ⟨-, -, -, hiff⟩ := (strays_iff _ _).2 _ _ _ haccepted _ _ hfor (by decide)
  exact hiff.2 (.inr (.inr ⟨rfl, by decide⟩))

/-- Hosts that share a cookie need not belong together: of a numeric address the last
octets pass for a domain. -/
theorem strays_between_addresses :
    ¬ ∀ (policy : CookiePolicy) (history : List Received) (line : Text)
      (origin : Url) (c : Cookie),
      AcceptedFrom policy history line origin c →
      ∀ u now, c.isFor u now → u.host ≠ origin.host → Related origin.host u.host := by
  intro h
  have hrelated := h .allowAll [⟨page "1.2.3.4", ["a=1; Domain=3.4".toList], ⟨0, 0⟩⟩]
    "a=1; Domain=3.4".toList (page "1.2.3.4")
    ⟨['a'], ['1'], "3.4".toList, false, ['/'], false, none⟩
    ⟨_, List.mem_cons_self, rfl, List.mem_cons_self, by decide, rfl⟩
    (page "9.9.3.4") ⟨0, 0⟩ (by decide) (by decide)
  exact hrelated.1 (by decide)

end Cookie

end PlainLink
