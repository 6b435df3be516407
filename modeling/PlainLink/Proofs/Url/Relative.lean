/-
# Locations that cannot leave the server

A location is free text of the server.  One that names neither a scheme of the web nor,
by two slashes, a host is put behind the origin of the current URL, and behind a slash:
so the authority ends before it begins, and no colon, `@`, mark or scheme in it is read
as a part of the authority.

    //b.example           the scheme of the page, another host
    x/y://me@b.example    a path of the page's host
    ftp://b.example       the same: the scheme is none of the web

What can go wrong is the origin.  Where the last colon of its host can be taken for the
one before a port, its text is read with another port, or not at all; a page with such a
URL is left out (`PortTold`).

Main statement: `locate_keeps_server`.
-/
import PlainLink.Proofs.Url.Parts
import PlainLink.Url.Location

namespace PlainLink

/-! ## Kinds of locations -/

theorem Text.isSome_afterLetters?_iff {lead t : Text} :
    (afterLetters? lead t).isSome ↔ lower lead <+: lower t := by
  induction lead generalizing t with
  | nil => simp [afterLetters?, lower]
  | cons a lead ih =>
      cases t with
      | nil => simp [afterLetters?, lower]
      | cons c t =>
          show (if a.toLower = c.toLower then afterLetters? lead t else none).isSome ↔
            a.toLower :: lower lead <+: c.toLower :: lower t
          rw [List.cons_prefix_cons]
          split
          · next hsame => simp [hsame, ih]
          · next hother => simp [hother]

namespace Url

variable {u : Url}

/-- An absolute location begins with a scheme of the web, its letters in any case. -/
theorem isAbsolute_iff {location : Text} :
    isAbsolute location ↔ "http://".toList <+: Text.lower location ∨
      "https://".toList <+: Text.lower location := by
  have hhttp : Text.lower "http://".toList = "http://".toList := by decide
  have hhttps : Text.lower "https://".toList = "https://".toList := by decide
  rw [isAbsolute, Bool.or_eq_true, Text.isSome_afterLetters?_iff, Text.isSome_afterLetters?_iff,
    hhttp, hhttps]

theorem locate_of_slashes (u : Url) {location : Text} (h : "//".toList <+: Text.trim location) :
    u.locate location = u.scheme.text ++ ':' :: Text.trim location := by
  obtain ⟨rest, hrest⟩ := h
  have hnot : ¬ isAbsolute (Text.trim location) := by
    rw [isAbsolute_iff, ← hrest]
    simp [Text.lower]
  have hafter : Text.after? "//".toList (Text.trim location) = some rest :=
    List.isPrefixOf?_eq_some_iff_append_eq.2 hrest
  unfold locate
  dsimp only
  rw [if_neg hnot, hafter, ← hrest]
  simp

/-- The directory of a path begins with a slash. -/
theorem WellFormed.directory_rooted (h : u.WellFormed) : ∃ t, directory u.path = '/' :: t := by
  unfold directory
  split
  · next front behind hcut =>
      have hpath := (Text.splitLast?_eq_some hcut).1
      cases front with
      | nil => exact ⟨[], rfl⟩
      | cons c front =>
          have hslash : c = '/' := h.path_rooted c (by rw [hpath]; rfl)
          exact ⟨front ++ ['/'], by rw [hslash]; rfl⟩
  · exact ⟨[], rfl⟩

theorem WellFormed.locate_of_relative (h : u.WellFormed) {location : Text}
    (habsolute : ¬ isAbsolute (Text.trim location))
    (hslashes : ¬ "//".toList <+: Text.trim location) :
    ∃ t, u.locate location = u.origin ++ '/' :: t := by
  have hafter : Text.after? "//".toList (Text.trim location) = none := by
    cases hfound : Text.after? "//".toList (Text.trim location) with
    | none => rfl
    | some rest => exact absurd ⟨rest, List.isPrefixOf?_eq_some_iff_append_eq.1 hfound⟩ hslashes
  unfold locate
  dsimp only
  rw [if_neg habsolute, hafter]
  dsimp only
  split
  · next hslash =>
      obtain ⟨t, ht⟩ := List.head?_eq_some_iff.1 (beq_iff_eq.1 hslash)
      exact ⟨t, by rw [ht]⟩
  · obtain ⟨t, ht⟩ := h.directory_rooted
    exact ⟨t ++ Text.trim location, by rw [ht, List.append_assoc, List.cons_append]⟩

/-! ## Reading what they mean -/

/-- Behind the origin of a URL and a slash any text is read as one of the same server. -/
theorem WellFormed.parse_rooted (h : u.WellFormed) (htold : u.PortTold) (t : Text) :
    ∃ v, parse (u.origin ++ '/' :: t) = .ok v ∧ v.SameServer u ∧ v.path.head? = some '/' := by
  have hblank : ¬ Text.isBlank '/' := by decide
  have hkept : Text.trimEnd (u.authority ++ '/' :: t) = u.authority ++ '/' :: Text.trimEnd t :=
    Text.stripEnd_append hblank u.authority t
  have hend : ∀ c ∈ ('/' :: Text.trimEnd t).head?, isAuthorityEnd c := by
    intro c hc
    obtain rfl : '/' = c := Option.some.inj hc
    rfl
  refine ⟨⟨u.scheme, u.host, u.writtenPort, (splitTail ('/' :: Text.trimEnd t)).1,
    (splitTail ('/' :: Text.trimEnd t)).2.1, (splitTail ('/' :: Text.trimEnd t)).2.2⟩, ?_,
    ⟨rfl, rfl, rfl⟩, ?_⟩
  · rw [origin, List.append_assoc, parse_scheme, hkept, mapError_eq_ok_iff,
      h.ofRest_authority hend]
    exact ⟨rfl, rfl, u.host, h.hostAndPort_authority htold, h.host_plain⟩
  · rw [splitTail_fst]
    rfl

/-- A text that names its scheme is not refused for it, and read with no other. -/
theorem scheme_of_parse_scheme (scheme : Scheme) (t : Text) :
    (∀ v, parse (scheme.text ++ "://".toList ++ t) = .ok v → v.scheme = scheme) ∧
      ∀ url name, parse (scheme.text ++ "://".toList ++ t) ≠ .error
        (.invalidScheme url name) := by
  rw [parse_scheme]
  constructor
  · intro v hv
    exact (ofRest_eq_ok_iff.1 (mapError_eq_ok_iff.1 hv)).1
  · intro url name herror
    cases hrest : ofRest scheme ("//".toList ++ Text.trimEnd t) with
    | error e => rw [hrest] at herror; cases herror
    | ok v => rw [hrest] at herror; cases herror

/-- On a page whose URL was read, and no colon of whose host can be taken for the one
before a port, as none can where a host holds a colon in brackets only: a location that,
without the blanks around it, begins neither with a scheme of the web, in letters of any
case, nor with two slashes, always means a URL of the same scheme, host and written port
with a path from the root.  A location that begins with two slashes lacks the scheme alone
and gets that of the page. -/
theorem locate_keeps_server {input : Text} {current : Url} (h : parse input = .ok current)
    (htold : current.PortTold) (location : Text) :
    (¬ "http://".toList <+: Text.lower (Text.trim location) →
      ¬ "https://".toList <+: Text.lower (Text.trim location) →
      ¬ "//".toList <+: Text.trim location →
      ∃ v, parse (current.locate location) = .ok v ∧ v.SameServer current ∧
        v.path.head? = some '/') ∧
    ("//".toList <+: Text.trim location →
      current.locate location = current.scheme.text ++ ':' :: Text.trim location ∧
      (∀ v, parse (current.locate location) = .ok v → v.scheme = current.scheme) ∧
      ∀ url name, parse (current.locate location) ≠ .error (.invalidScheme url name)) := by
  have hformed := wellFormed_of_parse h
  constructor
  · intro hhttp hhttps hslashes
    have habsolute : ¬ isAbsolute (Text.trim location) :=
      isAbsolute_iff.not.2 (not_or.2 ⟨hhttp, hhttps⟩)
    obtain ⟨t, ht⟩ := hformed.locate_of_relative habsolute hslashes
    rw [ht]
    exact hformed.parse_rooted htold t
  · intro hslashes
    have hlocate := current.locate_of_slashes hslashes
    obtain ⟨rest, hrest⟩ := hslashes
    have hnamed : current.locate location = current.scheme.text ++ "://".toList ++ rest := by
      rw [hlocate, ← hrest]
      simp
    refine ⟨hlocate, ?_⟩
    rw [hnamed]
    exact scheme_of_parse_scheme current.scheme rest

/-- A location in which much looks like a scheme, a user name and a port, on a page of an
address in brackets. -/
theorem locate_keeps_server_disguised :
    parse "HTTP://me@[::A]:080/dir/page?x=1".toList =
      .ok ⟨.http, "[::a]".toList, some 80, "/dir/page".toList, "x=1".toList, []⟩ ∧
    (Url.mk .http "[::a]".toList (some 80) "/dir/page".toList "x=1".toList []).locate
      " ftp://you@b.example:9/?#y ".toList =
        "http://[::a]:80/dir/ftp://you@b.example:9/?#y".toList ∧
    ∃ v, parse "http://[::a]:80/dir/ftp://you@b.example:9/?#y".toList = .ok v ∧
      v.SameServer ⟨.http, "[::a]".toList, some 80, "/dir/page".toList, "x=1".toList, []⟩ ∧
      v.path.head? = some '/' := by
  have hread : parse "HTTP://me@[::A]:080/dir/page?x=1".toList =
      .ok ⟨.http, "[::a]".toList, some 80, "/dir/page".toList, "x=1".toList, []⟩ := by
        decide +kernel
  have hlocate :
      (Url.mk .http "[::a]".toList (some 80) "/dir/page".toList "x=1".toList []).locate
      " ftp://you@b.example:9/?#y ".toList =
        "http://[::a]:80/dir/ftp://you@b.example:9/?#y".toList := by decide +kernel
  refine ⟨hread, hlocate, ?_⟩
  rw [← hlocate]
  exact (locate_keeps_server hread (by decide) " ftp://you@b.example:9/?#y ".toList).1
    (by decide +kernel) (by decide +kernel) (by decide +kernel)

end Url

end PlainLink
