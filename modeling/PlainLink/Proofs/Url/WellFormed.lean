/-
# What every URL that was read is like

Reading is lenient, but what it answers is not arbitrary.  `WellFormed` says what:

  * the host is in its one form, holds no character that ends an authority or a user's
    name, and has brackets around all of it if it begins with one;
  * the port, if there is one, fits into 16 bits;
  * the path is empty or begins with a slash;
  * no part holds the mark of a later one.

Whatever is proved about URLs that came from a text rests on this.  A host beyond ASCII
goes through tables on its way to its form; of these nothing is needed but that the
answer is checked character by character at the end (`plainForm_eq_ok`).

Main statement: `wellFormed_of_parse`.
-/
import Mathlib
import PlainLink.Proofs.Url.ReadBack

namespace PlainLink

/-! ## Small letters -/

theorem Text.mem_of_mem_lower {c : Char} {t : Text} (hc : ¬ c.isLower) (h : c ∈ Text.lower t) :
    c ∈ t := by
  obtain ⟨d, hd, rfl⟩ := List.mem_map.1 h
  rw [Char.isLower_toLower_eq_isAlpha] at hc
  have hupper : ¬ d.isUpper := fun hu => hc (by simp [Char.isAlpha, hu])
  rwa [Char.toLower_eq_of_not_isUpper hupper]

theorem Text.lower_lower (t : Text) : Text.lower (Text.lower t) = Text.lower t := by
  simp [Text.lower]

theorem Text.lower_eq_self {t : Text} (h : ∀ c ∈ t, ¬ c.isUpper) : Text.lower t = t := by
  refine (List.map_congr_left fun c hc => ?_).trans (List.map_id t)
  exact Char.toLower_eq_of_not_isUpper (h c hc)

theorem Text.isAscii_lower {t : Text} (h : Text.isAscii t) : Text.isAscii (Text.lower t) := by
  refine List.all_eq_true.2 (fun c hc => ?_)
  obtain ⟨d, hd, rfl⟩ := List.mem_map.1 hc
  have hascii := List.all_eq_true.1 h d hd
  simp only [decide_eq_true_eq] at hascii ⊢
  by_cases hupper : d.isUpper
  · have hz : d.toNat ≤ 90 := by
      simp only [Char.isUpper, UInt32.le_iff_toNat_le, decide_eq_true_eq] at hupper
      exact hupper.2
    have hvalid : (d.toNat + 32).isValidChar := Or.inl (by omega)
    rw [Char.toLower_eq_of_isUpper hupper, UInt32.lt_iff_toNat_lt]
    show (Char.ofNat (d.toNat + 32)).toNat < 128
    rw [Char.toNat_ofNat, if_pos hvalid]
    omega
  · rwa [Char.toLower_eq_of_not_isUpper hupper]

namespace Url

/-! ## The form of a URL -/

/-- What holds of every URL that was read. -/
structure WellFormed (u : Url) : Prop where
  /-- The host is in the one form in which hosts are kept. -/
  host_plain : plainHost u.host = .ok u.host
  host_free : ∀ c ∈ u.host, ¬ isAuthorityEnd c ∧ c ≠ '@'
  host_bracketed : u.host.head? = some '[' →
    ∃ address, u.host = '[' :: address ++ [']'] ∧ ']' ∉ address
  port_le : ∀ n ∈ u.writtenPort, n ≤ 65535
  path_rooted : ∀ c ∈ u.path.head?, c = '/'
  path_free : '?' ∉ u.path ∧ '#' ∉ u.path
  query_free : '#' ∉ u.query

/-! ## The authority -/

theorem port?_le {t : Text} {n : Nat} (h : port? t = .ok (some n)) : n ≤ 65535 := by
  unfold port? at h
  split at h
  · cases h
  · split at h
    · cases h
    · split at h
      · cases h
      · next hle =>
        cases h
        exact Nat.le_of_not_lt hle

theorem port?_of_map {front t host : Text} {port : Option Nat}
    (h : (port? t).map (fun port => (front, port)) = .ok (host, port)) :
    front = host ∧ port? t = .ok port := by
  cases hport : port? t with
  | error e => rw [hport] at h; cases h
  | ok found => rw [hport] at h; cases h; exact ⟨rfl, rfl⟩

theorem hostAndPort_bracket {address : Text} (h : ']' ∉ address) (rest : Text) :
    hostAndPort ('[' :: (address ++ ']' :: rest)) =
      match rest with
      | [] => .ok ('[' :: address ++ [']'], none)
      | ':' :: port => (port? port).map fun port => ('[' :: address ++ [']'], port)
      | _ => .error .textAfterBracket := by
  have hcut := Text.splitFirst?_append h rest
  unfold hostAndPort
  split
  · next inner hinner =>
      obtain rfl := (List.cons.inj hinner).2
      split
      · next hnone => cases hnone.symm.trans hcut
      · next hsome => cases hsome.symm.trans hcut; rfl
  · next hother => exact absurd rfl (hother _)

theorem host_of_bracket {inner host : Text} {port : Option Nat}
    (h : hostAndPort ('[' :: inner) = .ok (host, port)) :
    (∃ address, host = '[' :: address ++ [']'] ∧ ']' ∉ address) ∧ ∀ n ∈ port, n ≤ 65535 := by
  cases hcut : Text.splitFirst? ']' inner with
  | none =>
      simp [hostAndPort, hcut] at h
  | some cut =>
      obtain ⟨address, rest⟩ := cut
      obtain ⟨rfl, haddress⟩ := Text.splitFirst?_eq_some hcut
      rw [hostAndPort_bracket haddress] at h
      split at h
      · cases h
        exact ⟨⟨address, rfl, haddress⟩, nofun⟩
      · obtain ⟨rfl, hport⟩ := port?_of_map h
        refine ⟨⟨address, rfl, haddress⟩, ?_⟩
        rintro n rfl
        exact port?_le hport
      · cases h

/-- Without brackets the last colon of an authority stands before the port. -/
theorem hostAndPort_eq {t : Text} (h : t.head? ≠ some '[') :
    hostAndPort t =
      match Text.splitLast? ':' t with
      | some (host, port) => (port? port).map fun port => (host, port)
      | none => .ok (t, none) := by
  unfold hostAndPort
  split
  · exact absurd rfl h
  · rfl

theorem hostAndPort_port_le {t host : Text} {port : Option Nat}
    (h : hostAndPort t = .ok (host, port)) : ∀ n ∈ port, n ≤ 65535 := by
  by_cases hbracket : t.head? = some '['
  · obtain ⟨inner, rfl⟩ := List.head?_eq_some_iff.1 hbracket
    exact (host_of_bracket h).2
  · rw [hostAndPort_eq hbracket] at h
    split at h
    · obtain ⟨-, hport⟩ := port?_of_map h
      rintro n rfl
      exact port?_le hport
    · cases h
      exact nofun

theorem bare_free {authority : Text} (h : ∀ c ∈ authority, ¬ isAuthorityEnd c) :
    ∀ c ∈ bare authority, ¬ isAuthorityEnd c ∧ c ≠ '@' := by
  intro c hc
  refine ⟨h c ((bare_suffix authority).mem hc), ?_⟩
  rintro rfl
  unfold bare at hc
  cases hcut : Text.splitLast? '@' authority with
  | none =>
      rw [hcut] at hc
      exact Text.splitLast?_eq_none_iff.1 hcut hc
  | some cut =>
      rw [hcut] at hc
      exact (Text.splitLast?_eq_some hcut).2 hc

/-! ## The host -/

theorem isPlain_of_isDigit {c : Char} (h : c.isDigit) : Host.isPlain c := by
  obtain ⟨hlow, hhigh⟩ := Char.isDigit_iff_toNat.1 h
  have hdigits : ∀ n ∈ List.range' 48 10, Host.isPlain (Char.ofNat n) := by decide
  have hmem : c.toNat ∈ List.range' 48 10 := List.mem_range'_1.2 ⟨hlow, Nat.lt_succ_of_le hhigh⟩
  have hplain := hdigits c.toNat hmem
  rwa [Char.ofNat_toNat] at hplain

theorem all_isPlain_ofNat (n : Nat) : (Text.ofNat n).all Host.isPlain :=
  List.all_eq_true.2 fun c hc =>
    isPlain_of_isDigit (List.all_eq_true.1 (Text.isDigits_ofNat n) c hc)

theorem all_isPlain_address (x : Host.IPv4) : x.text.all Host.isPlain := by
  have hdot : List.all ['.'] Host.isPlain = true := by decide
  simp only [Host.IPv4.text, List.map_cons, List.map_nil, Text.join, List.all_append,
    all_isPlain_ofNat, hdot, Bool.and_self]

/-- What stands for a host in any script is not empty and has plain characters only. -/
theorem plainForm_eq_ok {host plain : Text} (h : Host.plainForm host = .ok plain) :
    plain ≠ [] ∧ ∀ c ∈ plain, Host.isPlain c := by
  unfold Host.plainForm at h
  split at h
  · cases h
  · split at h
    · cases h
    · next hnonempty =>
      split at h
      · cases h
      · next hplain =>
        split at h
        · split at h
          · next address _ =>
            cases h
            refine ⟨?_, List.all_eq_true.1 (all_isPlain_address address)⟩
            intro hnil
            exact Text.ofNat_ne_nil _
              (List.append_eq_nil_iff.1 (List.append_eq_nil_iff.1 hnil).1).1
          · cases h
        · cases h
          exact ⟨fun hnil => hnonempty (List.isEmpty_iff.2 hnil), by simpa using hplain⟩

theorem not_isUpper_of_isPlain {c : Char} (h : Host.isPlain c) : ¬ c.isUpper := by
  simp only [Host.isPlain, Bool.and_eq_true, Bool.not_eq_true'] at h
  simp [h.1.2]

theorem plainHost_eq_lower {host : Text} (hne : host ≠ [])
    (h : host.head? = some '[' ∨ Text.isAscii host) :
    plainHost host = .ok (Text.lower host) := by
  unfold plainHost
  rw [if_neg (by simpa using hne), if_pos (by simpa using h)]

theorem plainHost_cases {host plain : Text} (h : plainHost host = .ok plain) :
    (host ≠ [] ∧ (host.head? = some '[' ∨ Text.isAscii host) ∧ plain = Text.lower host) ∨
      (plain ≠ [] ∧ ∀ c ∈ plain, Host.isPlain c) := by
  unfold plainHost at h
  split at h
  · cases h
  · next hne =>
    split at h
    · next hwritten =>
      cases h
      exact .inl ⟨by simpa using hne, by simpa using hwritten, rfl⟩
    · cases hplain : Host.plainForm host with
      | error e => rw [hplain] at h; cases h
      | ok found =>
          rw [hplain] at h
          cases h
          exact .inr (plainForm_eq_ok hplain)

theorem head?_lower_eq_bracket {t : Text} (h : t.head? = some '[') :
    (Text.lower t).head? = some '[' := by
  rw [Text.lower, List.head?_map, h]
  rfl

theorem plainHost_idem {host plain : Text} (h : plainHost host = .ok plain) :
    plainHost plain = .ok plain := by
  rcases plainHost_cases h with ⟨hne, hwritten, rfl⟩ | ⟨hne, hplain⟩
  · rw [plainHost_eq_lower (by simpa [Text.lower] using hne), Text.lower_lower]
    rcases hwritten with hbracket | hascii
    · exact .inl (head?_lower_eq_bracket hbracket)
    · exact .inr (Text.isAscii_lower hascii)
  · have hascii : Text.isAscii plain := isAscii_of_isPlain (List.all_eq_true.2 hplain)
    rw [plainHost_eq_lower hne (.inr hascii)]
    exact congrArg _ (Text.lower_eq_self fun c hc => not_isUpper_of_isPlain (hplain c hc))

theorem plainHost_free {host plain : Text} (h : plainHost host = .ok plain)
    (hfree : ∀ c ∈ host, ¬ isAuthorityEnd c ∧ c ≠ '@') :
    ∀ c ∈ plain, ¬ isAuthorityEnd c ∧ c ≠ '@' := by
  intro c hc
  have hmark (hmark : isAuthorityEnd c ∨ c = '@') : ¬ c.isLower ∧ ¬ Host.isPlain c := by
    simp only [isAuthorityEnd, Bool.or_eq_true, beq_iff_eq] at hmark
    rcases hmark with ((rfl | rfl) | rfl) | rfl <;> decide
  rw [← not_or]
  intro hbad
  rcases plainHost_cases h with ⟨-, -, rfl⟩ | ⟨-, hplain⟩
  · have hmem := hfree c (Text.mem_of_mem_lower (hmark hbad).1 hc)
    exact not_or.2 hmem hbad
  · exact (hmark hbad).2 (hplain c hc)

theorem plainHost_bracketed {host plain : Text} (h : plainHost host = .ok plain)
    (hbracketed : host.head? = some '[' → ∃ address, host = '[' :: address ++ [']'] ∧
    ']' ∉ address)
    (hhead : plain.head? = some '[') : ∃ address, plain = '[' :: address ++ [']'] ∧
      ']' ∉ address := by
  rcases plainHost_cases h with ⟨hne, -, rfl⟩ | ⟨-, hplain⟩
  · have hhost : host.head? = some '[' := by
      obtain ⟨c, hc, hlower⟩ := Option.map_eq_some_iff.1 ((List.head?_map ..).symm.trans hhead)
      have hsame : ¬ c.isUpper := by
        intro hupper
        have hlow : ('[' : Char).isLower := by
          rw [← hlower, Char.isLower_toLower_eq_isAlpha, Char.isAlpha, hupper, Bool.true_or]
        exact absurd hlow (by decide)
      rw [hc, ← hlower, Char.toLower_eq_of_not_isUpper hsame]
    obtain ⟨address, rfl, haddress⟩ := hbracketed hhost
    refine ⟨Text.lower address, by simp [Text.lower], fun hmem => haddress ?_⟩
    exact Text.mem_of_mem_lower (by decide) hmem
  · exact absurd (hplain '[' (List.mem_of_mem_head? hhead)) (by decide)

/-! ## What follows the authority -/

theorem splitFirst?_getD_spec (mark : Char) (t : Text) :
    mark ∉ ((Text.splitFirst? mark t).getD (t, [])).1 ∧
      ((Text.splitFirst? mark t).getD (t, [])).1 <+: t ∧
      ((Text.splitFirst? mark t).getD (t, [])).2 <:+ t := by
  cases hcut : Text.splitFirst? mark t with
  | none => exact ⟨Text.splitFirst?_eq_none_iff.1 hcut, List.prefix_rfl, List.nil_suffix⟩
  | some cut =>
      obtain ⟨front, part⟩ := cut
      obtain ⟨rfl, hfront⟩ := Text.splitFirst?_eq_some hcut
      exact ⟨hfront, List.prefix_append .., (List.suffix_cons ..).trans (List.suffix_append ..)⟩

theorem splitTail_free {t path query fragment : Text}
    (h : splitTail t = (path, query, fragment)) :
    ('?' ∉ path ∧ '#' ∉ path) ∧ '#' ∉ query ∧ path <+: t := by
  obtain ⟨hfront, hprefix, -⟩ := splitFirst?_getD_spec '#' t
  obtain ⟨hpath, hpathPrefix, hquery⟩ :=
    splitFirst?_getD_spec '?' ((Text.splitFirst? '#' t).getD (t, [])).1
  obtain ⟨rfl, rfl, -⟩ : _ = path ∧ _ = query ∧ _ = fragment := by
    simpa only [splitTail, Prod.mk.injEq] using h
  exact ⟨⟨hpath, fun hmem => hfront (hpathPrefix.mem hmem)⟩,
    fun hmem => hfront (hquery.mem hmem), hpathPrefix.trans hprefix⟩

theorem head?_path_eq {t path query fragment : Text} (h : splitTail t = (path, query, fragment))
    (hend : ∀ c ∈ t.head?, isAuthorityEnd c) : ∀ c ∈ path.head?, c = '/' := by
  intro c hc
  obtain ⟨⟨hquestion, hhash⟩, -, more, rfl⟩ := splitTail_free h
  have hmem : c ∈ path := List.mem_of_mem_head? hc
  have hmark : isAuthorityEnd c := hend c (by rw [List.head?_append, hc]; rfl)
  simp only [isAuthorityEnd, Bool.or_eq_true, beq_iff_eq] at hmark
  rcases hmark with (rfl | rfl) | rfl
  · rfl
  · exact absurd hmem hquestion
  · exact absurd hmem hhash

/-! ## Reading -/

theorem separator_of_ofRest {scheme : Scheme} {rest : Text} {u : Url}
    (h : ofRest scheme rest = .ok u) : ∃ t, rest = "//".toList ++ t := by
  unfold ofRest at h
  cases hafter : Text.after? "//".toList rest with
  | none => rw [hafter] at h; cases h
  | some t => exact ⟨t, (List.isPrefixOf?_eq_some_iff_append_eq.1 hafter).symm⟩

theorem wellFormed_of_ofRest {scheme : Scheme} {t : Text} {u : Url}
    (h : ofRest scheme ("//".toList ++ t) = .ok u) : u.WellFormed := by
  obtain ⟨-, htail, host, hread, hhost⟩ := ofRest_eq_ok_iff.1 h
  have hfree := bare_free (Text.cutBefore_free (p := isAuthorityEnd) (t := t))
  obtain ⟨behind, hbare, -⟩ := hostAndPort_eq_ok hread
  have hhostFree : ∀ c ∈ host, ¬ isAuthorityEnd c ∧ c ≠ '@' := by
    intro c hc
    exact hfree c (by rw [hbare]; exact List.mem_append_left _ hc)
  have hbracketed (hhead : host.head? = some '[') :
      ∃ address, host = '[' :: address ++ [']'] ∧ ']' ∉ address := by
    obtain ⟨more, rfl⟩ := List.head?_eq_some_iff.1 hhead
    rw [hbare] at hread
    exact (host_of_bracket hread).1
  obtain ⟨hpathFree, hqueryFree, -⟩ := splitTail_free htail
  exact {
    host_plain := plainHost_idem hhost
    host_free := plainHost_free hhost hhostFree
    host_bracketed := plainHost_bracketed hhost hbracketed
    port_le := hostAndPort_port_le hread
    path_rooted := head?_path_eq htail Text.cutBefore_head
    path_free := hpathFree
    query_free := hqueryFree }

/-- What is read as a URL has one of the two schemes, and is read behind it. -/
theorem ofRest_of_parse {input : Text} {u : Url} (h : parse input = .ok u) :
    ∃ t, (splitScheme (Text.trim input)).2 = "//".toList ++ t ∧
      Scheme.ofText? (Text.lower (splitScheme (Text.trim input)).1) = some u.scheme ∧
      ofRest u.scheme ("//".toList ++ t) = .ok u := by
  unfold parse at h
  dsimp only at h
  split at h
  · cases h
  · split at h
    · cases h
    · next scheme hscheme =>
      cases hrest : ofRest scheme (splitScheme (Text.trim input)).2 with
      | error e => rw [hrest] at h; cases h
      | ok found =>
          rw [hrest] at h
          cases h
          obtain ⟨t, ht⟩ := separator_of_ofRest hrest
          rw [ht] at hrest
          obtain rfl : u.scheme = scheme := (ofRest_eq_ok_iff.1 hrest).1
          exact ⟨t, ht, hscheme, hrest⟩

/-- Whatever is read as a URL is a well-formed one. -/
theorem wellFormed_of_parse {input : Text} {u : Url} (h : parse input = .ok u) :
    u.WellFormed := by
  obtain ⟨t, -, -, hread⟩ := ofRest_of_parse h
  exact wellFormed_of_ofRest hread

end Url

end PlainLink
