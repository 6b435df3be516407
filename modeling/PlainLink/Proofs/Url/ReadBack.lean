/-
# Reading what is left of a URL

Reading a URL is lenient: blanks, user names, the zeros before a port and empty marks
are dropped, and the host is brought to one form.  None of this makes the text longer,
save that a host beyond ASCII can grow.  So a URL from which characters were deleted
never has the text that the whole was read from, unless nothing was deleted.

The argument counts characters.  `length_le_of_parse` bounds the text of a URL by the
text that it was read from, where it is read behind its own origin, so that its host is
in ASCII already.  A part of the URL has a text that is shorter than that of the whole
by what was left out.

Main statement: `PartOf.eq_of_parse`.
-/
import PlainLink.Url.Parser

namespace PlainLink.Url

/-! ## Parts of a URL -/

/-- The first URL is the second, with characters left out of the path, the
query and the fragment. -/
structure PartOf (v u : Url) : Prop where
  scheme : v.scheme = u.scheme
  host : v.host = u.host
  writtenPort : v.writtenPort = u.writtenPort
  path : v.path.Sublist u.path
  query : v.query.Sublist u.query
  fragment : v.fragment.Sublist u.fragment

def tail (u : Url) : Text :=
  u.path ++ marked '?' u.query ++ marked '#' u.fragment

theorem text_eq (u : Url) : u.text = u.origin ++ u.tail := by
  simp [text, tail]

theorem marked_sublist (mark : Char) {part whole : Text} (h : part.Sublist whole) :
    (marked mark part).Sublist (marked mark whole) := by
  unfold marked
  split
  · exact List.nil_sublist _
  · split
    · next hpart hwhole =>
      rw [List.isEmpty_iff.1 hwhole, List.sublist_nil] at h
      exact absurd (List.isEmpty_iff.2 h) hpart
    · exact h.cons_cons mark

theorem marked_inj {mark : Char} {a b : Text} (h : marked mark a = marked mark b) : a = b := by
  cases a <;> cases b <;> simp_all [marked]

namespace PartOf

variable {u v w : Url}

theorem refl (u : Url) : u.PartOf u :=
  ⟨rfl, rfl, rfl, .refl _, .refl _, .refl _⟩

theorem trans (h : v.PartOf u) (h' : w.PartOf v) : w.PartOf u :=
  ⟨h'.scheme.trans h.scheme, h'.host.trans h.host, h'.writtenPort.trans h.writtenPort,
    h'.path.trans h.path, h'.query.trans h.query, h'.fragment.trans h.fragment⟩

theorem antisymm (h : v.PartOf u) (h' : u.PartOf v) : v = u := by
  cases u
  cases v
  obtain ⟨rfl, rfl, rfl, hpath, hquery, hfragment⟩ := h
  obtain rfl := hpath.eq_of_length_le h'.path.length_le
  obtain rfl := hquery.eq_of_length_le h'.query.length_le
  obtain rfl := hfragment.eq_of_length_le h'.fragment.length_le
  rfl

theorem origin_eq (h : v.PartOf u) : v.origin = u.origin := by
  rw [origin, origin, authority, authority, h.scheme, h.host, h.writtenPort]

theorem eq_of_tail_le (h : v.PartOf u) (hle : u.tail.length ≤ v.tail.length) : v = u := by
  have hpath := h.path.length_le
  have hquery := (marked_sublist '?' h.query).length_le
  have hfragment := (marked_sublist '#' h.fragment).length_le
  simp only [tail, List.length_append] at hle
  have hpath' := h.path.eq_of_length_le (by omega)
  have hquery' := marked_inj ((marked_sublist '?' h.query).eq_of_length_le (by omega))
  have hfragment' := marked_inj ((marked_sublist '#' h.fragment).eq_of_length_le (by omega))
  cases u
  cases v
  obtain ⟨rfl, rfl, rfl, -, -, -⟩ := h
  simp_all

end PartOf

/-! ## What reading leaves out -/

theorem port?_eq_some {t : Text} {n : Nat} (h : port? t = .ok (some n)) :
    (Text.ofNat n).length ≤ t.length := by
  unfold port? at h
  split at h
  · cases h
  · next hne =>
    split at h
    · cases h
    · next hdigits =>
      split at h
      · cases h
      · cases h
        exact Text.length_ofNat_decimalValue_le (by simpa using hdigits)
          (fun ht => hne (List.isEmpty_iff.2 ht))

/-- The room that a port takes behind the host, colon included. -/
def portLength : Option Nat → Nat
  | some n => (Text.ofNat n).length + 1
  | none => 0

theorem portLength_le {t : Text} {port : Option Nat} (h : port? t = .ok port) :
    portLength port ≤ t.length + 1 := by
  cases port with
  | none => exact Nat.zero_le _
  | some n => exact Nat.succ_le_succ (port?_eq_some h)

theorem authority_length (u : Url) :
    u.authority.length = u.host.length + portLength u.writtenPort := by
  unfold authority portLength
  cases u.writtenPort with
  | none => rfl
  | some n => simp

theorem portLength_le_of_map {front host t : Text} {port : Option Nat}
    (h : (port? t).map (fun port => (front, port)) = .ok (host, port)) :
    front = host ∧ portLength port ≤ (':' :: t).length := by
  cases hport : port? t with
  | error e => rw [hport] at h; cases h
  | ok found =>
      rw [hport] at h
      cases h
      exact ⟨rfl, portLength_le hport⟩

/-- An authority is its host, and behind it room enough for the port that was read. -/
theorem hostAndPort_eq_ok {t host : Text} {port : Option Nat}
    (h : hostAndPort t = .ok (host, port)) :
    ∃ behind, t = host ++ behind ∧ portLength port ≤ behind.length := by
  unfold hostAndPort at h
  split at h
  · next inner =>
    split at h
    · cases h
    · next address rest hcut =>
      obtain ⟨rfl, -⟩ := Text.splitFirst?_eq_some hcut
      dsimp only at h
      split at h
      · cases h
        exact ⟨[], by simp, Nat.le_refl _⟩
      · next port' =>
        obtain ⟨rfl, hport⟩ := portLength_le_of_map h
        exact ⟨':' :: port', by simp, hport⟩
      · cases h
  · split at h
    · next host' port' hcut =>
      obtain ⟨rfl, hport⟩ := portLength_le_of_map h
      exact ⟨':' :: port', (Text.splitLast?_eq_some hcut).1, hport⟩
    · cases h
      exact ⟨[], (List.append_nil _).symm, Nat.le_refl _⟩

theorem isAscii_append (s t : Text) :
    Text.isAscii (s ++ t) = (Text.isAscii s && Text.isAscii t) :=
  List.all_append

theorem isAscii_ofNat (n : Nat) : Text.isAscii (Text.ofNat n) := by
  refine List.all_eq_true.2 (fun c hc => decide_eq_true ?_)
  have hdigit : c.isDigit := Nat.isDigit_of_mem_toDigits (by decide) (by decide) hc
  have hnine : c.toNat ≤ 57 := (Char.isDigit_iff_toNat.1 hdigit).2
  show c.toNat < 128
  omega

theorem isAscii_address (x : Host.IPv4) : Text.isAscii x.text := by
  have hdot : Text.isAscii ['.'] = true := rfl
  simp only [Host.IPv4.text, List.map_cons, List.map_nil, Text.join, isAscii_append,
    isAscii_ofNat, hdot, Bool.and_self]

theorem isAscii_of_isPlain {t : Text} (h : t.all Host.isPlain) : Text.isAscii t := by
  refine List.all_eq_true.2 (fun c hc => ?_)
  have hplain := List.all_eq_true.1 h c hc
  simp only [Host.isPlain, Bool.and_eq_true] at hplain
  exact hplain.1.1

theorem isAscii_plainForm {host plain : Text} (h : Host.plainForm host = .ok plain) :
    Text.isAscii plain := by
  unfold Host.plainForm at h
  split at h
  · cases h
  · split at h
    · cases h
    · split at h
      · cases h
      · next hplain =>
        split at h
        · split at h
          · cases h
            exact isAscii_address _
          · cases h
        · cases h
          exact isAscii_of_isPlain (by simpa using hplain)

/-- A host is brought to one form without growing, or else it was not in
ASCII before and is now. -/
theorem plainHost_eq_ok {host plain : Text} (h : plainHost host = .ok plain) :
    plain.length = host.length ∨ (Text.isAscii host = false ∧ Text.isAscii plain) := by
  unfold plainHost at h
  split at h
  · cases h
  · split at h
    · cases h
      exact .inl (List.length_map _)
    · next hascii =>
      refine .inr ⟨?_, ?_⟩
      · simp_all
      · cases hplain : Host.plainForm host with
        | error e => rw [hplain] at h; cases h
        | ok found =>
            rw [hplain] at h
            cases h
            exact isAscii_plainForm hplain

theorem length_marked_le (mark : Char) (part : Text) :
    (marked mark part).length ≤ part.length + 1 := by
  unfold marked
  split
  · exact Nat.zero_le _
  · exact Nat.le_refl _

theorem length_front_add_marked_le (mark : Char) (t : Text) :
    let (front, part) := (Text.splitFirst? mark t).getD (t, [])
    front.length + (marked mark part).length ≤ t.length := by
  cases hcut : Text.splitFirst? mark t with
  | none => exact Nat.le_refl _
  | some cut =>
      obtain ⟨front, part⟩ := cut
      have hmarked := length_marked_le mark part
      obtain ⟨rfl, -⟩ := Text.splitFirst?_eq_some hcut
      simp only [Option.getD_some, List.length_append, List.length_cons]
      omega

theorem splitTail_length_le {t path query fragment : Text}
    (h : splitTail t = (path, query, fragment)) :
    (path ++ marked '?' query ++ marked '#' fragment).length ≤ t.length := by
  have hfragment := length_front_add_marked_le '#' t
  have hquery := length_front_add_marked_le '?' ((Text.splitFirst? '#' t).getD (t, [])).1
  obtain ⟨rfl, rfl, rfl⟩ : _ = path ∧ _ = query ∧ _ = fragment := by
    simpa only [splitTail, Prod.mk.injEq] using h
  simp only [List.length_append]
  omega

/-! ## Reading a URL -/

theorem isAscii_authority (u : Url) : Text.isAscii u.authority = Text.isAscii u.host := by
  unfold authority
  cases u.writtenPort with
  | none => rfl
  | some n =>
      have hport : Text.isAscii (':' :: Text.ofNat n) := isAscii_append [':'] _ ▸ isAscii_ofNat n
      rw [isAscii_append, hport, Bool.and_true]

/-- An authority without user names. -/
def bare (authority : Text) : Text :=
  ((Text.splitLast? '@' authority).map (·.2)).getD authority

theorem bare_suffix (authority : Text) : bare authority <:+ authority := by
  unfold bare
  cases hcut : Text.splitLast? '@' authority with
  | none => exact List.suffix_refl _
  | some cut =>
      obtain ⟨users, host⟩ := cut
      refine ⟨users ++ ['@'], ?_⟩
      rw [(Text.splitLast?_eq_some hcut).1]
      simp

/-- An authority is read without growing, or else it was not in ASCII before and is now. -/
theorem authority_of_hostAndPort {written : Text} {u : Url} {host : Text}
    (hread : hostAndPort (bare written) = .ok (host, u.writtenPort))
    (hhost : plainHost host = .ok u.host) :
    u.authority.length ≤ written.length ∨
      (Text.isAscii written = false ∧ Text.isAscii u.authority) := by
  obtain ⟨users, husers⟩ := bare_suffix written
  obtain ⟨behind, hbare, hport⟩ := hostAndPort_eq_ok hread
  rw [hbare] at husers
  rcases plainHost_eq_ok hhost with hsame | ⟨hbefore, hafter⟩
  · refine .inl ?_
    rw [authority_length, hsame, ← husers]
    simp only [List.length_append]
    omega
  · refine .inr ⟨?_, (isAscii_authority u).trans hafter⟩
    rw [← husers, isAscii_append, isAscii_append, hbefore, Bool.false_and, Bool.and_false]

theorem ofRest_eq_ok_iff {scheme : Scheme} {t : Text} {u : Url} :
    ofRest scheme ("//".toList ++ t) = .ok u ↔
      u.scheme = scheme ∧
      splitTail (Text.cutBefore isAuthorityEnd t).2 = (u.path, u.query, u.fragment) ∧
      ∃ host, hostAndPort (bare (Text.cutBefore isAuthorityEnd t).1) = .ok (host,
        u.writtenPort) ∧
        plainHost host = .ok u.host := by
  have hafter : Text.after? "//".toList ("//".toList ++ t) = some t := rfl
  unfold ofRest
  rw [hafter]
  dsimp only
  generalize Text.cutBefore isAuthorityEnd t = cut
  show (do
    let found ← hostAndPort (bare cut.1)
    let plain ← plainHost found.1
    return Url.mk scheme plain found.2 (splitTail cut.2).1 (splitTail cut.2).2.1
      (splitTail cut.2).2.2 : Except Defect Url) = .ok u ↔ _
  cases hread : hostAndPort (bare cut.1) with
  | error e => simp [bind, Except.bind]
  | ok found =>
      obtain ⟨host, port⟩ := found
      cases hhost : plainHost host with
      | error e =>
          simp only [hhost, bind, Except.bind, reduceCtorEq, false_iff]
          rintro ⟨-, -, host', hread', hhost'⟩
          cases hread'
          rw [hhost] at hhost'
          cases hhost'
      | ok plain =>
          simp only [hhost, bind, Except.bind, pure, Except.pure]
          constructor
          · intro h
            cases h
            exact ⟨rfl, rfl, host, rfl, hhost⟩
          · rintro ⟨rfl, htail, host', hread', hhost'⟩
            cases hread'
            cases hhost.symm.trans hhost'
            rw [htail]

theorem ofRest_eq_ok {scheme : Scheme} {t : Text} {u : Url}
    (h : ofRest scheme ("//".toList ++ t) = .ok u) :
    ∃ written behind, t = written ++ behind ∧ u.scheme = scheme ∧
      u.tail.length ≤ behind.length ∧ (u.authority.length ≤ written.length ∨
        (Text.isAscii written = false ∧ Text.isAscii u.authority)) := by
  obtain ⟨hscheme, htail, host, hread, hhost⟩ := ofRest_eq_ok_iff.1 h
  exact ⟨_, _, (Text.cutBefore_append isAuthorityEnd t).symm, hscheme, splitTail_length_le htail,
    authority_of_hostAndPort hread hhost⟩

theorem trim_scheme (scheme : Scheme) (t : Text) :
    Text.trim (scheme.text ++ "://".toList ++ t) =
      scheme.text ++ "://".toList ++ Text.trimEnd t := by
  have hend : Text.trimEnd (scheme.text ++ ":/".toList ++ '/' :: t) =
      scheme.text ++ ":/".toList ++ '/' :: Text.trimEnd t := Text.stripEnd_append (by decide) _ t
  cases scheme with
  | http => exact (Text.trim_cons (by decide) _).trans hend
  | https => exact (Text.trim_cons (by decide) _).trans hend

theorem parse_scheme (scheme : Scheme) (t : Text) :
    parse (scheme.text ++ "://".toList ++ t) =
      (ofRest scheme ("//".toList ++ Text.trimEnd t)).mapError
        (.invalidUrl (scheme.text ++ "://".toList ++ t)) := by
  rw [parse, trim_scheme]
  cases scheme with
  | http => rfl
  | https => rfl

/-- A URL that is read behind its own origin is not longer than the text, less
the blanks at the end. -/
theorem length_le_of_parse {u : Url} {t : Text} (h : parse (u.origin ++ t) = .ok u) :
    (u.authority ++ u.tail).length ≤ (Text.trimEnd (u.authority ++ t)).length := by
  obtain ⟨blanks, hkept⟩ := Text.isPrefix_trimEnd (u.authority ++ t)
  rw [origin, List.append_assoc, parse_scheme] at h
  cases hrest : ofRest u.scheme ("//".toList ++ Text.trimEnd (u.authority ++ t)) with
  | error e => rw [hrest] at h; cases h
  | ok found =>
      rw [hrest] at h
      obtain rfl : found = u := Except.ok.inj h
      obtain ⟨written, behind, hcut, -, htail, hauthority⟩ := ofRest_eq_ok hrest
      rw [hcut] at hkept ⊢
      -- The authority as written and the one read begin the same text.
      have hle : found.authority.length ≤ written.length := by
        rcases hauthority with hle | ⟨hwritten, hascii⟩
        · exact hle
        · rw [List.append_assoc] at hkept
          rcases List.append_eq_append_iff.1 hkept with ⟨more, hmore, -⟩ | ⟨more, hmore, -⟩
          · rw [hmore, isAscii_append, hwritten, Bool.false_and] at hascii
            cases hascii
          · rw [hmore, List.length_append]
            exact Nat.le_add_right _ _
      simp only [List.length_append]
      omega

/-- If a URL with characters left out has the text that the whole was read from,
none were left out. -/
theorem PartOf.eq_of_parse {u v : Url} {c : Text} (h : v.PartOf u) (hparse : parse c = .ok u)
    (htext : v.text = c) : v = u := by
  rw [← htext, text_eq, h.origin_eq] at hparse
  have hlength := length_le_of_parse hparse
  have hkept := (Text.isPrefix_trimEnd (u.authority ++ v.tail)).length_le
  simp only [List.length_append] at hlength hkept
  exact h.eq_of_tail_le (by omega)

end PlainLink.Url
