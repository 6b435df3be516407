/-
# Reading a URL's own text

The text of a URL puts its parts together and leaves out what is empty: a port's colon
with no port behind it, and the marks of an empty query and an empty fragment.  Two URLs
are not read back from their text for that reason:

    http://a:b:/            the colon of the empty port goes, and `b` is read for the port
    http://a.example/x ?    the mark goes, and the blank in front of it is dropped

Every other URL that was read is read again from its text.  `PortTold` and a text
without a blank at its end are what excludes the two, and both are necessary.

The text is followed part by part.  The authority is read back where its port can be
told (`hostAndPort_authority`), the tail always (`WellFormed.splitTail_tail`); both rest
on what every URL that was read is like.

Main statement: `parse_text_eq_ok_iff`.
-/
import PlainLink.Proofs.Url.WellFormed

namespace PlainLink.Url

/-! ## The authority -/

/-- No colon of the host can be taken for the one before a port: the host is in brackets or has
none, or else a port follows it. -/
def PortTold (u : Url) : Prop :=
  u.writtenPort = none → u.host.head? = some '[' ∨ ':' ∉ u.host

instance (u : Url) : Decidable u.PortTold :=
  inferInstanceAs (Decidable (_ → _))

theorem port?_ofNat {n : Nat} (h : n ≤ 65535) : port? (Text.ofNat n) = .ok (some n) := by
  unfold port?
  rw [if_neg (by simpa using Text.ofNat_ne_nil n), if_neg (by simp [Text.isDigits_ofNat n]),
    Text.decimalValue_ofNat, if_neg (Nat.not_lt.2 h)]

theorem not_mem_ofNat {c : Char} (h : ¬ c.isDigit) (n : Nat) : c ∉ Text.ofNat n := fun hc =>
  h (List.all_eq_true.1 (Text.isDigits_ofNat n) c hc)

theorem portTold_of_hostAndPort {u : Url} {host : Text}
    (hread : hostAndPort u.authority = .ok (host, u.writtenPort))
    (hhost : plainHost host = .ok u.host) : u.PortTold := by
  intro hport
  rw [or_iff_not_imp_left]
  intro hbracket hcolon
  rw [authority, hport, hostAndPort_eq hbracket] at hread
  cases hcut : Text.splitLast? ':' u.host with
  | none => exact Text.splitLast?_eq_none_iff.1 hcut hcolon
  | some cut =>
      obtain ⟨front, behind⟩ := cut
      rw [hcut] at hread
      obtain ⟨rfl, -⟩ := port?_of_map hread
      -- The host that is read ends before the colon, and no form of it is as long again.
      have hsplit := (Text.splitLast?_eq_some hcut).1
      rcases plainHost_eq_ok hhost with hlength | ⟨hbefore, hafter⟩
      · rw [hsplit, List.length_append, List.length_cons] at hlength
        omega
      · rw [hsplit, isAscii_append, hbefore, Bool.false_and] at hafter
        cases hafter

namespace WellFormed

variable {u : Url}

theorem host_ne_nil (h : u.WellFormed) : u.host ≠ [] := by
  intro hnil
  have hplain := h.host_plain
  rw [hnil] at hplain
  cases hplain

theorem authority_free (h : u.WellFormed) : ∀ c ∈ u.authority, ¬ isAuthorityEnd c ∧ c ≠ '@' := by
  intro c hc
  unfold authority at hc
  split at hc
  · next n _ =>
    rcases List.mem_append.1 hc with hhost | hport
    · exact h.host_free c hhost
    · rcases List.mem_cons.1 hport with rfl | hdigit
      · decide
      · have hd := List.all_eq_true.1 (Text.isDigits_ofNat n) c hdigit
        constructor
        · intro hend
          simp only [isAuthorityEnd, Bool.or_eq_true, beq_iff_eq] at hend
          rcases hend with (rfl | rfl) | rfl <;> exact absurd hd (by decide)
        · rintro rfl
          exact absurd hd (by decide)
  · exact h.host_free c hc

theorem bare_authority (h : u.WellFormed) : bare u.authority = u.authority := by
  have hnone : Text.splitLast? '@' u.authority = none :=
    Text.splitLast?_eq_none_iff.2 fun hmem => (h.authority_free '@' hmem).2 rfl
  rw [bare, hnone]
  rfl

/-- Where the port can be told, host and port are read from the authority. -/
theorem hostAndPort_authority (h : u.WellFormed) (htold : u.PortTold) :
    hostAndPort u.authority = .ok (u.host, u.writtenPort) := by
  unfold authority
  by_cases hbracket : u.host.head? = some '['
  · obtain ⟨address, haddress, hfree⟩ := h.host_bracketed hbracket
    have hauthority (rest : Text) : u.host ++ rest = '[' :: (address ++ ']' :: rest) := by
      rw [haddress]
      simp
    cases hport : u.writtenPort with
    | none =>
        have hhost := hauthority []
        rw [List.append_nil] at hhost
        dsimp only
        rw [hhost, hostAndPort_bracket hfree]
        simp
    | some n =>
        dsimp only
        rw [hauthority, hostAndPort_bracket hfree, haddress]
        show (port? (Text.ofNat n)).map (fun port => ('[' :: address ++ [']'], port)) = _
        rw [port?_ofNat (h.port_le n hport)]
        rfl
  · have hhead (rest : Text) : (u.host ++ rest).head? ≠ some '[' := by
      rwa [List.head?_append_of_ne_nil _ h.host_ne_nil]
    cases hport : u.writtenPort with
    | none =>
        have hcolon : ':' ∉ u.host := (htold hport).resolve_left hbracket
        dsimp only
        rw [hostAndPort_eq hbracket, Text.splitLast?_eq_none_iff.2 hcolon]
    | some n =>
        dsimp only
        rw [hostAndPort_eq (hhead _),
          Text.splitLast?_append u.host (not_mem_ofNat (by decide) n)]
        dsimp only
        rw [port?_ofNat (h.port_le n hport)]
        rfl

/-! ## What follows the authority -/

theorem tail_head (h : u.WellFormed) : ∀ c ∈ u.tail.head?, isAuthorityEnd c := by
  have hmarked (mark : Char) (part : Text) : ∀ c ∈ (marked mark part).head?, c = mark := by
    intro c hc
    unfold marked at hc
    split at hc
    · cases hc
    · exact (Option.some.inj hc).symm
  intro c hc
  rw [tail, List.head?_append, List.head?_append] at hc
  rcases Option.or_eq_some_iff.1 hc with hc | ⟨-, hc⟩
  · rcases Option.or_eq_some_iff.1 hc with hc | ⟨-, hc⟩
    · rw [h.path_rooted c hc]
      decide
    · rw [hmarked '?' u.query c hc]
      decide
  · rw [hmarked '#' u.fragment c hc]
    decide

end WellFormed

theorem splitFirst?_marked {mark : Char} {front : Text} (h : mark ∉ front) (part : Text) :
    (Text.splitFirst? mark (front ++ marked mark part)).getD (front ++ marked mark part, []) =
      (front, part) := by
  cases part with
  | nil =>
      have hnone : Text.splitFirst? mark (front ++ marked mark []) = none :=
        Text.splitFirst?_eq_none_iff.2 (by simpa [marked] using h)
      rw [hnone]
      simp [marked]
  | cons c cs =>
      show (Text.splitFirst? mark (front ++ mark :: c :: cs)).getD _ = _
      rw [Text.splitFirst?_append h]
      rfl

theorem WellFormed.splitTail_tail {u : Url} (h : u.WellFormed) :
    splitTail u.tail = (u.path, u.query, u.fragment) := by
  have hfront : '#' ∉ u.path ++ marked '?' u.query := by
    have hquery : '#' ∉ marked '?' u.query := by
      unfold marked
      split
      · exact List.not_mem_nil
      · simpa using h.query_free
    simpa using ⟨h.path_free.2, hquery⟩
  unfold splitTail tail
  rw [splitFirst?_marked hfront]
  dsimp only
  rw [splitFirst?_marked h.path_free.1]

/-! ## Reading -/

/-- What is read behind the authority of a URL depends on what follows, and the host and the
port on the authority alone. -/
theorem WellFormed.ofRest_authority {u v : Url} (h : u.WellFormed) {scheme : Scheme} {t : Text}
    (ht : ∀ c ∈ t.head?, isAuthorityEnd c) :
    ofRest scheme ("//".toList ++ (u.authority ++ t)) = .ok v ↔
      v.scheme = scheme ∧ splitTail t = (v.path, v.query, v.fragment) ∧
      ∃ host, hostAndPort u.authority = .ok (host, v.writtenPort) ∧
        plainHost host = .ok v.host := by
  have hcut : Text.cutBefore isAuthorityEnd (u.authority ++ t) = (u.authority, t) :=
    Text.cutBefore_of_free (fun c hc => (h.authority_free c hc).1) ht
  rw [ofRest_eq_ok_iff, hcut, h.bare_authority]

theorem mapError_eq_ok_iff {ε δ α : Type} {x : Except ε α} {f : ε → δ} {a : α} :
    x.mapError f = .ok a ↔ x = .ok a := by
  cases x with
  | error e => simp [Except.mapError]
  | ok b => simp [Except.mapError]

/-- The two URLs point at one server. -/
structure SameServer (v u : Url) : Prop where
  scheme : v.scheme = u.scheme
  host : v.host = u.host
  writtenPort : v.writtenPort = u.writtenPort

theorem WellFormed.trimEnd_text {u : Url} (h : u.WellFormed)
    (hended : u.tail = [] → Text.trimEnd u.authority = u.authority) :
    ∃ kept, Text.trimEnd (u.authority ++ u.tail) = u.authority ++ kept ∧
      ∀ c ∈ kept.head?, isAuthorityEnd c := by
  cases htail : u.tail with
  | nil => exact ⟨[], by rw [List.append_nil, hended htail], nofun⟩
  | cons c cs =>
      have hmark : isAuthorityEnd c := h.tail_head c (by rw [htail]; rfl)
      have hblank : ¬ Text.isBlank c := by
        simp only [isAuthorityEnd, Bool.or_eq_true, beq_iff_eq] at hmark
        rcases hmark with (rfl | rfl) | rfl <;> decide
      refine ⟨c :: Text.trimEnd cs, Text.stripEnd_append hblank u.authority cs, ?_⟩
      intro d hd
      obtain rfl : c = d := Option.some.inj hd
      exact hmark

/-- The server that a URL points at is read again from its text, unless a colon of the host can
be taken for the one before a port or the authority ends the text with a blank. -/
theorem WellFormed.server_of_text {u : Url} (h : u.WellFormed) (htold : u.PortTold)
    (hended : u.tail = [] → Text.trimEnd u.authority = u.authority) :
    ∃ v, parse u.text = .ok v ∧ v.SameServer u := by
  obtain ⟨kept, hkept, hhead⟩ := h.trimEnd_text hended
  refine ⟨⟨u.scheme, u.host, u.writtenPort, (splitTail kept).1, (splitTail kept).2.1,
    (splitTail kept).2.2⟩, ?_, ⟨rfl, rfl, rfl⟩⟩
  rw [text_eq, origin, List.append_assoc, parse_scheme, hkept, mapError_eq_ok_iff,
    h.ofRest_authority hhead]
  exact ⟨rfl, rfl, u.host, h.hostAndPort_authority htold, h.host_plain⟩

/-- A URL that was read is read again from its text exactly if the text has no blank at its end
and no colon of the host can be taken for the one before a port. -/
theorem parse_text_eq_ok_iff {input : Text} {u : Url} (h : parse input = .ok u) :
    parse u.text = .ok u ↔ Text.trim u.text = u.text ∧ u.PortTold := by
  have hu := wellFormed_of_parse h
  have htext : u.text = u.scheme.text ++ "://".toList ++ (u.authority ++ u.tail) := by
    rw [text_eq, origin, List.append_assoc]
  have htrim : Text.trim u.text = u.text ↔
      Text.trimEnd (u.authority ++ u.tail) = u.authority ++ u.tail := by
    rw [htext, trim_scheme, List.append_cancel_left_eq]
  rw [htrim]
  constructor
  · intro hread
    have hwhole : Text.trimEnd (u.authority ++ u.tail) = u.authority ++ u.tail := by
      rw [text_eq] at hread
      exact (Text.isPrefix_trimEnd _).eq_of_length_le (length_le_of_parse hread)
    rw [htext, parse_scheme, hwhole, mapError_eq_ok_iff,
      hu.ofRest_authority hu.tail_head] at hread
    obtain ⟨-, -, host, hauthority, hhost⟩ := hread
    exact ⟨hwhole, portTold_of_hostAndPort hauthority hhost⟩
  · rintro ⟨hwhole, htold⟩
    rw [htext, parse_scheme, hwhole, mapError_eq_ok_iff, hu.ofRest_authority hu.tail_head]
    exact ⟨rfl, hu.splitTail_tail, u.host, hu.hostAndPort_authority htold, hu.host_plain⟩

/-- Blanks, user names, zeros and an empty query are dropped from this text, and the port that
is left keeps the colons of the host apart. -/
theorem parse_text_colons_port :
    parse " //user:@A:b:C:0080/p ?#f? ".toList =
      .ok ⟨.http, "a:b:c".toList, some 80, "/p ".toList, [], "f?".toList⟩ ∧
    parse "http://a:b:c:80/p #f?".toList =
      .ok ⟨.http, "a:b:c".toList, some 80, "/p ".toList, [], "f?".toList⟩ := by
  have hread : parse " //user:@A:b:C:0080/p ?#f? ".toList =
      .ok ⟨.http, "a:b:c".toList, some 80, "/p ".toList, [], "f?".toList⟩ := by decide +kernel
  exact ⟨hread, (parse_text_eq_ok_iff hread).2 (by decide +kernel)⟩

/-- Not every URL that was read is read again from its text: an empty port leaves its colon
out, and what follows the colon before it is no port. -/
theorem parse_text_not_always :
    ¬ ∀ (input : Text) (u : Url), parse input = .ok u → parse u.text = .ok u := by
  intro h
  have hread : parse "http://a:b:/".toList = .ok ⟨.http, "a:b".toList, none, ['/'], [], []⟩ := by
    decide +kernel
  have hagain : parse "http://a:b/".toList =
      .error (.invalidUrl "http://a:b/".toList (.portNotNumber ['b'])) := by decide +kernel
  cases (h _ _ hread).symm.trans hagain

end PlainLink.Url
