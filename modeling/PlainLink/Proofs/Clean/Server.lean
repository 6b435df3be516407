/-
# Which server a cleaned URL points at

Without redirections cleaning only deletes, and never from the scheme, the host or the
port.  But the cleaned URL is put together as text, and there the authority goes up to
the first slash: a rule that deletes the slash in front of a path joins what is left of
the path to the host.

    http://a.example/r/@b.example/     cleaned by a rule for `/r/`
    http://a.example@b.example/        a user's name, and another host

`ServerTold` says of the URL that is left what keeps this from happening: its path is
empty or begins with a slash, and what follows the last colon of the host cannot be
taken for a port.  Then the text is read as a URL on the server of the one that was
cleaned.  It is a condition on the URL that is left, and not on the rules, because
whether a rule deletes the first slash depends on the text.

Main statement: `clean_keeps_server`.
-/
import PlainLink.Proofs.Clean.Course
import PlainLink.Proofs.Url.RoundTrip

namespace PlainLink

namespace Url

/-- The server that the URL points at can be told from its text: nothing that follows the
authority joins it, no colon of the host can be taken for the one before a port, and the
authority does not end the text with a blank. -/
structure ServerTold (u : Url) : Prop where
  rooted : ∀ c ∈ u.path.head?, c = '/'
  portTold : u.PortTold
  ended : u.tail = [] → Text.trimEnd u.authority = u.authority

/-- With a slash in front of its path, or without a path, a part of a well-formed
URL is well-formed. -/
theorem PartOf.wellFormed {v u : Url} (h : v.PartOf u) (hu : u.WellFormed)
    (hrooted : ∀ c ∈ v.path.head?, c = '/') : v.WellFormed where
  host_plain := h.host ▸ hu.host_plain
  host_free := h.host ▸ hu.host_free
  host_bracketed := h.host ▸ hu.host_bracketed
  port_le := h.writtenPort ▸ hu.port_le
  path_rooted := hrooted
  path_free := ⟨fun hmem => hu.path_free.1 (h.path.mem hmem),
    fun hmem => hu.path_free.2 (h.path.mem hmem)⟩
  query_free := fun hmem => hu.query_free (h.query.mem hmem)

theorem SameServer.trans {w v u : Url} (h : w.SameServer v) (h' : v.SameServer u) :
    w.SameServer u :=
  ⟨h.scheme.trans h'.scheme, h.host.trans h'.host, h.writtenPort.trans h'.writtenPort⟩

theorem PartOf.sameServer {v u : Url} (h : v.PartOf u) : v.SameServer u :=
  ⟨h.scheme, h.host, h.writtenPort⟩

end Url

namespace Clean

theorem cleanUrl_partOf {flags : CleanFlags} (hflags : flags.ignoreRedirections)
    (providers : List Provider) (u : Url) : (cleanUrl providers flags u).PartOf u := by
  obtain ⟨log, hcourse⟩ :=
    Course.exists_to_cleanWithin providers flags (Nat.zero_add maxRestarts) u
  exact hcourse.partOf (hcourse.not_mem_of_ignore hflags)

/-- What is cleaned without redirections is the text of a part of the URL, with its
scheme, host and port, and it is read as a URL on the same server if this can be
told from that part. -/
theorem clean_keeps_server {providers : List Provider} {flags : CleanFlags} {url c : Text}
    (hflags : flags.ignoreRedirections) (h : clean providers flags url = .ok c) :
    ∃ u, Url.parse url = .ok u ∧
      (cleanUrl providers flags u).PartOf u ∧ c = (cleanUrl providers flags u).text ∧
      ((cleanUrl providers flags u).ServerTold → ∃ v, Url.parse c = .ok v ∧ v.SameServer u) := by
  unfold clean at h
  cases hparse : Url.parse url with
  | error e => rw [hparse] at h; cases h
  | ok u =>
      rw [hparse] at h
      obtain rfl : (cleanUrl providers flags u).text = c := Except.ok.inj h
      have hpart : (cleanUrl providers flags u).PartOf u := cleanUrl_partOf hflags providers u
      refine ⟨u, rfl, hpart, rfl, ?_⟩
      intro htold
      have hformed := hpart.wellFormed (Url.wellFormed_of_parse hparse) htold.rooted
      obtain ⟨v, hread, hserver⟩ := hformed.server_of_text htold.portTold htold.ended
      exact ⟨v, hread, hserver.trans hpart.sameServer⟩

/-- A provider with one rule, which deletes the beginning that all paths of a site have. -/
def shortPaths : List Provider :=
  match ProviderText.compile "short".toList
      { urlPattern := "^https?".toList, rawRules := ["/r/".toList] } with
  | .ok p => [p]
  | .error _ => []

/-- Where the rule takes the middle of a path, the server stays. -/
theorem clean_keeps_server_short :
    clean shortPaths { ignoreRedirections := true } "u@A.example:080/x/r/y?q".toList =
      .ok "http://a.example:80/xy".toList ∧
    ∃ v, Url.parse "http://a.example:80/xy".toList = .ok v ∧
      v.SameServer ⟨.http, "a.example".toList, some 80, "/x/r/y".toList, ['q'], []⟩ := by
  have hclean :
      clean shortPaths { ignoreRedirections := true } "u@A.example:080/x/r/y?q".toList =
      .ok "http://a.example:80/xy".toList := by decide +kernel
  have hparse : Url.parse "u@A.example:080/x/r/y?q".toList =
      .ok ⟨.http, "a.example".toList, some 80, "/x/r/y".toList, ['q'], []⟩ := by decide +kernel
  have hpart : cleanUrl shortPaths { ignoreRedirections := true }
      ⟨.http, "a.example".toList, some 80, "/x/r/y".toList, ['q'], []⟩ =
      ⟨.http, "a.example".toList, some 80, "/xy".toList, [], []⟩ := by decide +kernel
  obtain ⟨u, hu, -, -, hserver⟩ := clean_keeps_server rfl hclean
  cases hu.symm.trans hparse
  rw [hpart] at hserver
  refine ⟨hclean, hserver ⟨?_, ?_, ?_⟩⟩
  · intro c hc
    exact (Option.some.inj hc).symm
  · decide
  · decide

/-- Without its first slash a path joins the host, and what stood before is
taken for a user's name. -/
theorem clean_moves_server :
    ¬ ∀ (providers : List Provider) (flags : CleanFlags) (url c : Text),
      flags.ignoreRedirections →
      clean providers flags url = .ok c →
      ∃ u v, Url.parse url = .ok u ∧ Url.parse c = .ok v ∧ v.SameServer u := by
  intro h
  have hclean :
      clean shortPaths { ignoreRedirections := true } "http://a.example/r/@b.example/".toList =
      .ok "http://a.example@b.example/".toList := by decide +kernel
  obtain ⟨u, v, hu, hv, hserver⟩ := h _ _ _ _ rfl hclean
  have hbefore : Url.parse "http://a.example/r/@b.example/".toList =
      .ok ⟨.http, "a.example".toList, none, "/r/@b.example/".toList, [], []⟩ := by decide +kernel
  have hafter : Url.parse "http://a.example@b.example/".toList =
      .ok ⟨.http, "b.example".toList, none, "/".toList, [], []⟩ := by decide +kernel
  cases hu.symm.trans hbefore
  cases hv.symm.trans hafter
  exact absurd hserver.host (by decide)

end Clean

end PlainLink
