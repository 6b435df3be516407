/-
# URLs with nothing to bring into form

A URL whose host is in small letters and whose other parts need no escape is read from
its text, and the text is its own requoted spelling.  It can be escaped as a whole and
is told from that again.
-/
import PlainLink.Proofs.Text.Percent
import PlainLink.Proofs.Url.RoundTrip

namespace PlainLink

/-! ## Characters -/

namespace Text

/-- A character of a simple URL: one that never needs an escape, or a mark between parts. -/
def isSimple (c : Char) : Bool :=
  isUnreserved c || [':', '/', '?', '=', '&'].contains c

theorem forall_ascii {P : Char → Prop} (h : ∀ n < 0x80, P (Char.ofNat n)) {c : Char}
    (hc : c.toNat < 0x80) : P c :=
  Char.ofNat_toNat c ▸ h c.toNat hc

theorem lt_of_isUnreserved {c : Char} (h : isUnreserved c) : c.toNat < 0x80 := by
  simp only [isUnreserved, Char.isAlphanum, Char.isAlpha, Char.isUpper,
    Char.isLower, Char.isDigit, Bool.or_eq_true, Bool.and_eq_true, beq_iff_eq,
      decide_eq_true_eq, UInt32.le_iff_toNat_le] at h
  show c.val.toNat < 128
  rcases h with (((h | rfl) | rfl) | rfl) | rfl
  · rcases h with (h | h) | h
    all_goals exact Nat.lt_of_le_of_lt h.2 (by decide)
  all_goals decide

theorem isSimple_cases {c : Char} (h : isSimple c) :
    isUnreserved c ∨ c ∈ [':', '/', '?', '=', '&'] :=
  (Bool.or_eq_true_iff.1 h).imp id List.contains_iff_mem.1

theorem lt_of_isSimple {c : Char} (h : isSimple c) : c.toNat < 0x80 := by
  have hmarks : ∀ d ∈ [':', '/', '?', '=', '&'], d.toNat < 0x80 := by simp
  exact (isSimple_cases h).elim lt_of_isUnreserved (hmarks c)

theorem forall_simple {P : Char → Prop}
    (h : ∀ n < 0x80, isSimple (Char.ofNat n) → P (Char.ofNat n)) {c : Char} (hc : isSimple c) :
    P c :=
  forall_ascii (P := fun c => isSimple c → P c) h (lt_of_isSimple hc) hc

theorem not_isBlank_of_isSimple {c : Char} : isSimple c → ¬ isBlank c :=
  forall_simple (P := (¬ isBlank ·)) (by decide +kernel)

theorem isSimple_of_isUnreserved {c : Char} (h : isUnreserved c) : isSimple c := by
  rw [isSimple, h, Bool.true_or]

theorem isUnreserved_or_isReserved {c : Char} : isSimple c → isUnreserved c || isReserved c :=
  forall_simple (P := fun c => isUnreserved c || isReserved c) (by decide +kernel)

theorem requote_of_isSimple {t : Text} (h : ∀ c ∈ t, isSimple c) : requote t = t :=
  requote_eq_self fun c hc => isUnreserved_or_isReserved (h c hc)

theorem unquote_escape_of_isSimple {t : Text} (h : ∀ c ∈ t, isSimple c) :
    unquote (escape isUnreserved t) = t :=
  unquote_escape (by decide) fun c hc => lt_of_isSimple (h c hc)

end Text

namespace Url

/-- The host is in small letters, and path and query need no escape. -/
structure Simple (u : Url) : Prop where
  host_ne : u.host ≠ []
  host_small : ∀ c ∈ u.host, c.isLower || c.isDigit || c == '.'
  writtenPort : u.writtenPort = none
  path_rooted : ∀ c ∈ u.path.head?, c = '/'
  path : ∀ c ∈ u.path, c = '/' ∨ Text.isUnreserved c
  query : ∀ c ∈ u.query, c = '=' ∨ c = '&' ∨ Text.isUnreserved c
  fragment : u.fragment = []

theorem completed_scheme (scheme : Scheme) (t : Text) :
    completed (scheme.text ++ "://".toList ++ t) = scheme.text ++ "://".toList ++ t := by
  cases scheme with
  | http => rfl
  | https => rfl

/-- A well-formed URL with no blank at the end of its text and a port that can be told is
read from the text. -/
theorem WellFormed.parse_text {u : Url} (h : u.WellFormed) (htold : u.PortTold)
    (hended : Text.trimEnd (u.authority ++ u.tail) = u.authority ++ u.tail) :
    parse u.text = .ok u := by
  rw [text_eq, origin, List.append_assoc, parse_scheme, hended, mapError_eq_ok_iff,
    h.ofRest_authority h.tail_head]
  exact ⟨rfl, h.splitTail_tail, u.host, h.hostAndPort_authority htold, h.host_plain⟩

namespace Simple

variable {u : Url} (h : u.Simple)

include h

theorem host_char {c : Char} (hc : c ∈ u.host) : Text.isUnreserved c ∧ ¬ c.isUpper := by
  have hsmall := h.host_small c hc
  have hunreserved : Text.isUnreserved c := by
    rcases Bool.or_eq_true_iff.1 hsmall with hletter | hdot
    · rw [Text.isUnreserved, Char.isAlphanum, Char.isAlpha]
      rcases Bool.or_eq_true_iff.1 hletter with hl | hd
      · simp [hl]
      · simp [hd]
    · obtain rfl : c = '.' := by simpa using hdot
      rfl
  refine ⟨hunreserved, ?_⟩
  have hno : ∀ n < 0x80,
      (Char.ofNat n).isLower || (Char.ofNat n).isDigit || Char.ofNat n == '.' →
      ¬ (Char.ofNat n).isUpper := by decide +kernel
  exact Text.forall_ascii (P := fun c => c.isLower || c.isDigit || c == '.' → ¬ c.isUpper) hno
    (Text.lt_of_isUnreserved hunreserved) hsmall

theorem authority_eq : u.authority = u.host := by
  rw [authority, h.writtenPort]

theorem wellFormed : u.WellFormed where
  host_plain := by
    have hascii : Text.isAscii u.host := List.all_eq_true.2 fun c hc => by
      have hlow := Text.lt_of_isUnreserved (h.host_char hc).1
      rw [decide_eq_true_eq, UInt32.lt_iff_toNat_lt]
      exact hlow
    rw [plainHost_eq_lower h.host_ne (.inr hascii),
      Text.lower_eq_self fun c hc => (h.host_char hc).2]
  host_free := fun c hc => by
    have hfree : ∀ n < 0x80, Text.isUnreserved (Char.ofNat n) →
        ¬ isAuthorityEnd (Char.ofNat n) ∧ Char.ofNat n ≠ '@' := by decide +kernel
    have hunreserved := (h.host_char hc).1
    exact Text.forall_ascii (P := fun c => Text.isUnreserved c → ¬ isAuthorityEnd c ∧
      c ≠ '@') hfree
      (Text.lt_of_isUnreserved hunreserved) hunreserved
  host_bracketed := fun hbracket =>
    absurd (h.host_char (List.mem_of_mem_head? hbracket)).1 (by decide)
  port_le := fun n hn => by rw [h.writtenPort] at hn; cases hn
  path_rooted := h.path_rooted
  path_free := by
    constructor
    all_goals
      intro hmem
      rcases h.path _ hmem with hslash | hunreserved
      · exact absurd hslash (by decide)
      · exact absurd hunreserved (by decide)
  query_free := fun hmem => by
    rcases h.query _ hmem with hequals | hmark | hunreserved
    · exact absurd hequals (by decide)
    · exact absurd hmark (by decide)
    · exact absurd hunreserved (by decide)

theorem isSimple_host : ∀ c ∈ u.host, Text.isSimple c := fun _ hc =>
  Text.isSimple_of_isUnreserved (h.host_char hc).1

theorem isSimple_tail : ∀ c ∈ u.tail, Text.isSimple c := by
  intro c hc
  rw [tail, h.fragment] at hc
  rcases List.mem_append.1 hc with hc | hc
  · rcases List.mem_append.1 hc with hc | hc
    · rcases h.path c hc with rfl | hunreserved
      · rfl
      · exact Text.isSimple_of_isUnreserved hunreserved
    · unfold marked at hc
      split at hc
      · cases hc
      · rcases List.mem_cons.1 hc with rfl | hc
        · rfl
        · rcases h.query c hc with rfl | rfl | hunreserved
          · rfl
          · rfl
          · exact Text.isSimple_of_isUnreserved hunreserved
  · cases hc

theorem isSimple_text : ∀ c ∈ u.text, Text.isSimple c := by
  intro c hc
  rw [text_eq, origin, h.authority_eq] at hc
  rcases List.mem_append.1 hc with hc | hc
  · rcases List.mem_append.1 hc with hc | hc
    · have hscheme : ∀ s : Scheme, (s.text ++ "://".toList).all Text.isSimple := by
        rintro (_ | _) <;> rfl
      exact List.all_eq_true.1 (hscheme u.scheme) c hc
    · exact h.isSimple_host c hc
  · exact h.isSimple_tail c hc

theorem parse_text : parse u.text = .ok u := by
  refine h.wellFormed.parse_text (fun _ => .inr fun hcolon => ?_) ?_
  · exact absurd (h.host_char hcolon).1 (by decide)
  · rw [Text.trimEnd, Text.stripEnd_eq_self_iff, h.authority_eq]
    intro c hc
    rcases List.mem_append.1 (List.mem_of_getLast? hc) with hc | hc
    · exact Text.not_isBlank_of_isSimple (h.isSimple_host c hc)
    · exact Text.not_isBlank_of_isSimple (h.isSimple_tail c hc)

theorem parse_unquote_escape :
    parse (completed (Text.requote (Text.unquote (Text.escape Text.isUnreserved u.text)))) = .ok
      u := by
  have hcompleted : completed u.text = u.text := by
    rw [text_eq, origin, List.append_assoc, completed_scheme]
  rw [Text.unquote_escape_of_isSimple h.isSimple_text, Text.requote_of_isSimple h.isSimple_text,
    hcompleted, h.parse_text]

end Simple

end Url

end PlainLink
