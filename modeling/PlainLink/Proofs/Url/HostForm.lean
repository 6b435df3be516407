/-
# The one form of a host

A host comes to its form on one of three ways: in brackets and in ASCII it is brought
into lower case, and in any other script it is mapped and written in ASCII.  Hosts are
compared as texts from there on, so the form has to be the same however often a host is
brought into it, and have no capitals.

The first way does not ask what stands between the brackets.  What is no address there
is kept in its own script, and then the form is not in ASCII, and a capital of that
script stays.  That is the only such way.

`Foreign` tells that case from the authority as it is written, before any form is made
of it: brackets stand around a text that is not in ASCII.  Then the host is that text
with its brackets, and its letters of ASCII in lower case (`Foreign.host_eq`).

Main statement: `parse_host_form`.
-/
import PlainLink.Proofs.Url.Parts

namespace PlainLink

/-! ## Lower case -/

theorem Text.not_isUpper_of_mem_lower {c : Char} {t : Text} (h : c ∈ Text.lower t) :
    ¬ c.isUpper := by
  obtain ⟨d, -, rfl⟩ := List.mem_map.1 h
  simp

theorem Text.isAscii_lower_iff {t : Text} : Text.isAscii (Text.lower t) ↔ Text.isAscii t := by
  constructor
  · intro h
    refine List.all_eq_true.2 fun c hc => ?_
    have hlower := List.all_eq_true.1 h c.toLower (List.mem_map_of_mem hc)
    by_cases hupper : c.isUpper
    · simp only [Char.isUpper, UInt32.le_iff_toNat_le, decide_eq_true_eq] at hupper
      rw [decide_eq_true_eq, UInt32.lt_iff_toNat_lt]
      exact Nat.lt_of_le_of_lt hupper.2 (by decide)
    · rwa [Char.toLower_eq_of_not_isUpper hupper] at hlower
  · exact Text.isAscii_lower

namespace Url

/-! ## The host as it is written -/

/-- What stands in a text behind `://`, up to the first character that ends an authority and
behind the last mark of a user name. -/
def writtenAuthority (t : Text) : Text :=
  bare (Text.cutBefore isAuthorityEnd ((Text.behind? "://".toList t).getD [])).1

theorem authority_of_parse {input : Text} {u : Url} (h : parse input = .ok u) :
    ∃ host, hostAndPort (writtenAuthority (completed (Text.trim input))) = .ok (host,
      u.writtenPort) ∧
      plainHost host = .ok u.host := by
  obtain ⟨t, -, hbehind, -, hread⟩ := behind_of_parse h
  have hauthority : writtenAuthority (completed (Text.trim input)) =
      bare (Text.cutBefore isAuthorityEnd t).1 := by
    rw [writtenAuthority, hbehind]
    rfl
  rw [hauthority]
  exact (ofRest_eq_ok_iff.1 hread).2.2

theorem hostAndPort_of_brackets {address behind host : Text} {port : Option Nat}
    (h : ']' ∉ address)
    (hread : hostAndPort ('[' :: (address ++ ']' :: behind)) = .ok (host, port)) :
    host = '[' :: address ++ [']'] := by
  rw [hostAndPort_bracket h] at hread
  split at hread
  · cases hread
    rfl
  · exact (port?_of_map hread).1.symm
  · cases hread

theorem exists_brackets {authority host : Text} {port : Option Nat}
    (hread : hostAndPort authority = .ok (host, port)) (hbracket : host.head? = some '[') :
    ∃ address behind, authority = '[' :: (address ++ ']' :: behind) ∧ ']' ∉ address ∧
      host = '[' :: address ++ [']'] := by
  obtain ⟨behind, hauthority, -⟩ := hostAndPort_eq_ok hread
  obtain ⟨inner, rfl⟩ := List.head?_eq_some_iff.1 hbracket
  rw [hauthority, List.cons_append] at hread
  obtain ⟨⟨address, hhost, haddress⟩, -⟩ := host_of_bracket hread
  refine ⟨address, behind, ?_, haddress, hhost⟩
  rw [hauthority, hhost]
  simp

theorem isAscii_brackets (address : Text) :
    Text.isAscii ('[' :: address ++ [']']) ↔ Text.isAscii address := by
  have hopen : Text.isAscii ['['] = true := rfl
  have hclose : Text.isAscii [']'] = true := rfl
  rw [show '[' :: address ++ [']'] = ['['] ++ (address ++ [']']) from rfl, isAscii_append,
    isAscii_append, hopen, hclose, Bool.true_and, Bool.and_true]

/-! ## Its form -/

/-- The authority has brackets around what is not in ASCII. -/
def Foreign (authority address : Text) : Prop :=
  ∃ behind, authority = '[' :: (address ++ ']' :: behind) ∧ ']' ∉ address ∧
    ¬ Text.isAscii address

theorem Foreign.host_eq {authority address host plain : Text} {port : Option Nat}
    (h : Foreign authority address) (hread : hostAndPort authority = .ok (host, port))
    (hplain : plainHost host = .ok plain) : plain = '[' :: Text.lower address ++ [']'] := by
  obtain ⟨behind, rfl, haddress, -⟩ := h
  obtain rfl := hostAndPort_of_brackets haddress hread
  rw [plainHost_eq_lower (by simp) (.inl rfl)] at hplain
  rw [← Except.ok.inj hplain]
  simp [Text.lower]

theorem not_isUpper_of_plainHost {host plain : Text} (h : plainHost host = .ok plain) :
    ∀ c ∈ plain, ¬ c.isUpper := by
  intro c hc
  rcases plainHost_cases h with ⟨-, -, hlower⟩ | ⟨-, hall⟩
  · exact Text.not_isUpper_of_mem_lower (hlower ▸ hc)
  · exact not_isUpper_of_isPlain (hall c hc)

/-- Whichever way a host takes, its form is in ASCII unless brackets enclose what is not. -/
theorem isAscii_of_not_foreign {authority host plain : Text} {port : Option Nat}
    (hread : hostAndPort authority = .ok (host, port)) (hplain : plainHost host = .ok plain)
    (hnone : ¬ ∃ address, Foreign authority address) : Text.isAscii plain := by
  rcases plainHost_cases hplain with ⟨-, hbracket | hascii, hlower⟩ | ⟨-, hall⟩
  · obtain ⟨address, behind, hauthority, haddress, rfl⟩ := exists_brackets hread hbracket
    have hascii : Text.isAscii address := by
      by_contra hnot
      exact hnone ⟨address, behind, hauthority, haddress, hnot⟩
    exact hlower ▸ Text.isAscii_lower ((isAscii_brackets address).2 hascii)
  · exact hlower ▸ Text.isAscii_lower hascii
  · exact isAscii_of_isPlain (List.all_eq_true.2 hall)

/-- The form of a host that was read is its own form and has no capitals of ASCII.  It is
in ASCII, too, unless the authority has brackets around something else, which is then
kept in its own script. -/
theorem parse_host_form {input : Text} {u : Url} (h : parse input = .ok u) :
    let authority := writtenAuthority (completed (Text.trim input))
    plainHost u.host = .ok u.host ∧ (∀ c ∈ u.host, ¬ c.isUpper) ∧
      (Text.isAscii u.host ↔ ¬ ∃ address, Foreign authority address) ∧
      ∀ address, Foreign authority address → u.host = '[' :: Text.lower address ++ [']'] := by
  intro authority
  obtain ⟨host, hread, hplain⟩ := authority_of_parse h
  refine ⟨plainHost_idem hplain, not_isUpper_of_plainHost hplain,
    ⟨?_, isAscii_of_not_foreign hread hplain⟩, fun address hforeign =>
      hforeign.host_eq hread hplain⟩
  rintro hascii ⟨address, hforeign⟩
  rw [hforeign.host_eq hread hplain, isAscii_brackets, Text.isAscii_lower_iff] at hascii
  obtain ⟨-, -, -, hnot⟩ := hforeign
  exact hnot hascii

/-- A capital beyond ASCII stays between brackets, behind user names and in front of a port. -/
theorem parse_host_form_foreign :
    parse "//me@[::É:A]:8080/x".toList =
      .ok ⟨.http, "[::É:a]".toList, some 8080, "/x".toList, [], []⟩ ∧
    Foreign (writtenAuthority (completed (Text.trim "//me@[::É:A]:8080/x".toList)))
      "::É:A".toList ∧
    ¬ Text.isAscii "[::É:a]".toList ∧ plainHost "[::É:a]".toList = .ok "[::É:a]".toList := by
  have hread : parse "//me@[::É:A]:8080/x".toList =
      .ok ⟨.http, "[::É:a]".toList, some 8080, "/x".toList, [], []⟩ := by decide +kernel
  have hforeign : Foreign (writtenAuthority (completed (Text.trim "//me@[::É:A]:8080/x".toList)))
      "::É:A".toList := ⟨":8080".toList, by decide +kernel, by decide, by decide⟩
  obtain ⟨hidem, -, hascii, -⟩ := parse_host_form hread
  exact ⟨hread, hforeign, fun h => hascii.1 h ⟨_, hforeign⟩, hidem⟩

/-- Not every URL that is read has a host in ASCII: brackets keep what they
enclose in its script. -/
theorem host_not_always_ascii :
    ¬ ∀ (input : Text) (u : Url), parse input = .ok u →
      Text.isAscii u.host ∧ (∀ c ∈ u.host, ¬ c.isUpper) ∧ plainHost u.host = .ok u.host := by
  intro h
  have hread : parse "http://[É]/".toList = .ok ⟨.http, "[É]".toList, none, ['/'], [], []⟩ := by
    decide +kernel
  exact absurd (h _ _ hread).1 (by decide)

end Url

end PlainLink
