/-
# Local addresses in every spelling

An IPv4 address can stand in a host as four decimal octets, or as the last two groups of
an IPv6 address that it is mapped to, there in decimal or in hexadecimal digits.  The
verdict on the host does not depend on the spelling.  The addresses that are local make
up eleven blocks, each of the addresses that agree with one of them in their first bits.

    10.0.0.1    [::ffff:10.0.0.1]    [::FFFF:0a00:1]    [::ffff:a00:0001]

`Writes` lists the spellings, with zeros in front of a group and digits in either case.
Each of them is read as the address, or as the one that it is mapped to
(`readAddress?_of_writes`).

Main statement: `isLocal_iff_of_writes`.
-/
import Mathlib.Algebra.Ring.Nat
import PlainLink.Host.Local
import PlainLink.Proofs.Text.Digits

namespace PlainLink.Host

/-! ## Blocks of addresses -/

/-- The address as a number of 32 bits. -/
def IPv4.number (x : IPv4) : Nat :=
  ((x.a.toNat * 256 + x.b.toNat) * 256 + x.c.toNat) * 256 + x.d.toNat

/-- The addresses that agree with `base` in the first `bits` bits. -/
structure Block where
  base : IPv4
  bits : Nat
  deriving DecidableEq, Repr

instance : Membership IPv4 Block where
  mem block x := x.number / 2 ^ (32 - block.bits) = block.base.number / 2 ^ (32 - block.bits)

instance (block : Block) (x : IPv4) : Decidable (x ∈ block) :=
  inferInstanceAs (Decidable (_ = _))

/-- The blocks of local addresses: "this network", private networks, the machine itself, links,
documentation, benchmarks, and what is reserved. -/
def localBlocks : List Block :=
  [⟨⟨0, 0, 0, 0⟩, 8⟩, ⟨⟨10, 0, 0, 0⟩, 8⟩, ⟨⟨127, 0, 0, 0⟩, 8⟩, ⟨⟨169, 254, 0, 0⟩, 16⟩,
    ⟨⟨172, 16, 0, 0⟩, 12⟩, ⟨⟨192, 168, 0, 0⟩, 16⟩, ⟨⟨192, 0, 2, 0⟩, 24⟩, ⟨⟨198, 18, 0, 0⟩, 15⟩,
    ⟨⟨198, 51, 100, 0⟩, 24⟩, ⟨⟨203, 0, 113, 0⟩, 24⟩, ⟨⟨240, 0, 0, 0⟩, 4⟩]

namespace IPv4

/-- The number of an address without its last bits, for each length of a block that occurs. -/
theorem number_div (x : IPv4) :
    x.number / 2 ^ 8 = (x.a.toNat * 256 + x.b.toNat) * 256 + x.c.toNat ∧
    x.number / 2 ^ 16 = x.a.toNat * 256 + x.b.toNat ∧
    x.number / 2 ^ 17 = x.a.toNat * 128 + x.b.toNat / 2 ∧
    x.number / 2 ^ 20 = x.a.toNat * 16 + x.b.toNat / 16 ∧
    x.number / 2 ^ 24 = x.a.toNat ∧
    x.number / 2 ^ 28 = x.a.toNat / 16 := by
  have hb := x.b.toNat_lt
  have hc := x.c.toNat_lt
  have hd := x.d.toNat_lt
  unfold number
  omega

theorem isLocal_iff (x : IPv4) : x.isLocal ↔ ∃ block ∈ localBlocks, x ∈ block := by
  have ha := x.a.toNat_lt
  have hb := x.b.toNat_lt
  have hc := x.c.toNat_lt
  obtain ⟨h8, h16, h17, h20, h24, h28⟩ := x.number_div
  have htwo {p q : Nat} (hq : q < 256) :
      x.number / 2 ^ 16 = p * 256 + q ↔ x.a.toNat = p ∧ x.b.toNat = q := by omega
  have hthree {p q r : Nat} (hq : q < 256) (hr : r < 256) :
      x.number / 2 ^ 8 = (p * 256 + q) * 256 + r ↔
        (x.a.toNat = p ∧ x.b.toNat = q) ∧ x.c.toNat = r := by omega
  have hprivate : x.number / 2 ^ 20 = 172 * 16 + 1 ↔
      (x.a.toNat = 172 ∧ 16 ≤ x.b.toNat) ∧ x.b.toNat ≤ 31 := by omega
  have hbenchmarks : x.number / 2 ^ 17 = 198 * 128 + 9 ↔
      x.a.toNat = 198 ∧ (x.b.toNat = 18 ∨ x.b.toNat = 19) := by omega
  have hreserved : x.number / 2 ^ 28 = 15 ↔ 240 ≤ x.a.toNat := by omega
  simp only [localBlocks, List.mem_cons, List.not_mem_nil, or_false, exists_eq_or_imp,
    exists_eq_left]
  show _ ↔ x.number / 2 ^ 24 = 0 ∨ x.number / 2 ^ 24 = 10 ∨ x.number / 2 ^ 24 = 127 ∨
    x.number / 2 ^ 16 = 169 * 256 + 254 ∨ x.number / 2 ^ 20 = 172 * 16 + 1 ∨
    x.number / 2 ^ 16 = 192 * 256 + 168 ∨ x.number / 2 ^ 8 = (192 * 256 + 0) * 256 + 2 ∨
    x.number / 2 ^ 17 = 198 * 128 + 9 ∨ x.number / 2 ^ 8 = (198 * 256 + 51) * 256 + 100 ∨
    x.number / 2 ^ 8 = (203 * 256 + 0) * 256 + 113 ∨ x.number / 2 ^ 28 = 15
  rw [htwo (by decide), htwo (by decide), hthree (by decide) (by decide),
    hthree (by decide) (by decide), hthree (by decide) (by decide), hprivate, hbenchmarks,
      hreserved, h24]
  simp only [isLocal, Bool.or_eq_true, Bool.and_eq_true, beq_iff_eq, decide_eq_true_eq, or_assoc]

/-! ## Reading -/

/-- A group of sixteen bits as it can be written: its hexadecimal digits in either case, with
zeros in front up to four digits. -/
def WritesGroup (n : Nat) (t : Text) : Prop :=
  t.length ≤ 4 ∧ ∃ zeros, Text.lower t = List.replicate zeros '0' ++ Nat.toDigits 16 n

/-- The texts that write an address: its octets in decimal, or the IPv6 address that it is
mapped to, which ends in these octets or in two groups. -/
inductive Writes (x : IPv4) : Text → Prop
  | dotted : Writes x x.text
  | mapped {mark : Text} (hmark : WritesGroup 0xFFFF mark) :
      Writes x ("::".toList ++ mark ++ ':' :: x.text)
  | mappedGroups {mark high low : Text} (hmark : WritesGroup 0xFFFF mark)
      (hhigh : WritesGroup (256 * x.a.toNat + x.b.toNat) high)
      (hlow : WritesGroup (256 * x.c.toNat + x.d.toNat) low) :
      Writes x ("::".toList ++ mark ++ ':' :: (high ++ ':' :: low))

end IPv4

theorem readOctet?_ofNat (octet : UInt8) {rest : Text} (hrest : ∀ c ∈ rest.head?, ¬ c.isDigit) :
    readOctet? (Text.ofNat octet.toNat ++ rest) = some (octet, rest) := by
  have hdigits : ∀ c ∈ Text.ofNat octet.toNat, c.isDigit :=
    List.all_eq_true.1 (Text.isDigits_ofNat octet.toNat)
  have hbound := octet.toNat_lt
  have hlength : (Text.ofNat octet.toNat).length ≤ 3 :=
    (Nat.length_toDigits_le_iff (by decide) (by decide)).2 (by omega)
  have hread : ¬ ((Text.ofNat octet.toNat).isEmpty || 3 < (Text.ofNat octet.toNat).length ||
      255 < octet.toNat) := by
    simp [Text.ofNat_ne_nil, hlength]
    omega
  have hzero : ¬ ((Text.ofNat octet.toNat).head? == some '0' && 1 <
      (Text.ofNat octet.toNat).length) := by
    intro h
    obtain ⟨hhead, hlong⟩ := Bool.and_eq_true_iff.1 h
    obtain ⟨more, hmore⟩ := List.head?_eq_some_iff.1 (beq_iff_eq.1 hhead)
    rw [hmore, Text.eq_nil_of_ofNat_eq hmore] at hlong
    revert hlong
    decide
  unfold readOctet?
  dsimp only
  rw [Text.takeWhile_front hdigits hrest, Text.decimalValue_ofNat, if_neg hread, if_neg hzero,
    List.drop_left]
  simp

theorem IPv4.text_append (x : IPv4) (rest : Text) :
    x.text ++ rest = Text.ofNat x.a.toNat ++ '.' :: (Text.ofNat x.b.toNat ++
      '.' :: (Text.ofNat x.c.toNat ++ '.' :: (Text.ofNat x.d.toNat ++ rest))) := by
  simp [text, Text.join]

theorem readIPv4?_text (x : IPv4) {rest : Text} (hrest : ∀ c ∈ rest.head?, ¬ c.isDigit) :
    readIPv4? (x.text ++ rest) = some (x, rest) := by
  have hoctet (octet : UInt8) (t : Text) :
      readOctet? (Text.ofNat octet.toNat ++ '.' :: t) = some (octet, '.' :: t) := by
    exact readOctet?_ofNat octet (Text.forall_head_cons (by decide) t)
  rw [x.text_append, readIPv4?]
  simp [hoctet, readOctet?_ofNat x.d hrest, readChar?]

/-- No address in decimal stands where the first digits are not followed by a dot. -/
theorem readIPv4?_eq_none {t : Text} (h : ∀ c ∈ (t.dropWhile Char.isDigit).head?, c ≠ '.') :
    readIPv4? t = none := by
  have hdot : readChar? '.' (t.dropWhile Char.isDigit) = none := by
    cases hrest : t.dropWhile Char.isDigit with
    | nil => rfl
    | cons c rest => exact if_neg (h c (by rw [hrest]; rfl))
  have hoctet : ∀ octet rest, readOctet? t = some (octet, rest) →
      rest = t.dropWhile Char.isDigit := by
    intro octet rest hread
    unfold readOctet? at hread
    dsimp only at hread
    split at hread
    · cases hread
    · split at hread
      · cases hread
      · obtain ⟨-, rfl⟩ := Prod.mk.inj (Option.some.inj hread)
        exact Text.drop_length_takeWhile Char.isDigit t
  unfold readIPv4?
  cases hread : readOctet? t with
  | none => rfl
  | some found =>
    obtain ⟨octet, rest⟩ := found
    obtain rfl := hoctet octet rest hread
    show (readChar? '.' (t.dropWhile Char.isDigit)).bind _ = none
    rw [hdot]
    rfl

/-! ## Groups -/

variable {n : Nat} {group rest : Text}

theorem IPv4.WritesGroup.hexNumber? (h : IPv4.WritesGroup n group) :
    Text.hexNumber? group = some n := by
  obtain ⟨-, zeros, hlower⟩ := h
  rw [← Text.hexNumber?_lower, hlower, Text.hexNumber?_zeros, Text.hexNumber?_toDigits]

theorem IPv4.WritesGroup.ne_nil (h : IPv4.WritesGroup n group) : group ≠ [] := by
  rintro rfl
  obtain ⟨-, zeros, hlower⟩ := h
  exact Nat.toDigits_ne_nil (List.append_eq_nil_iff.1 hlower.symm).2

theorem readGroup?_append (h : IPv4.WritesGroup n group) (hrest : ∀ c ∈ rest.head?, c = ':') :
    readGroup? (group ++ rest) = some (n, rest) := by
  have hdigits := Text.isSome_hexValue?_of_mem h.hexNumber?
  have hcolon : ∀ c ∈ rest.head?, ¬ (Text.hexValue? c).isSome := by
    intro c hc
    rw [hrest c hc]
    decide
  have hread : ¬ (group.isEmpty || 4 < group.length) := by simp [h.ne_nil, h.1]
  unfold readGroup?
  dsimp only
  rw [Text.takeWhile_front hdigits hcolon, if_neg hread, h.hexNumber?, List.drop_left]
  rfl

theorem readIPv4?_group (h : IPv4.WritesGroup n group) (hrest : ∀ c ∈ rest.head?, c = ':') :
    readIPv4? (group ++ rest) = none := by
  have hdigits := Text.isSome_hexValue?_of_mem h.hexNumber?
  refine readIPv4?_eq_none ?_
  clear h
  induction group with
  | nil =>
    intro c hc hdot
    cases rest with
    | nil => cases hc
    | cons d rest =>
      obtain rfl := hrest d rfl
      obtain rfl : ':' = c := Option.some.inj hc
      cases hdot
  | cons d group ih =>
    by_cases hd : d.isDigit
    · rw [List.cons_append, List.dropWhile_cons_of_pos hd]
      exact ih fun c hc => hdigits c (List.mem_cons_of_mem d hc)
    · intro c hc hdot
      rw [List.cons_append, List.dropWhile_cons_of_neg hd] at hc
      obtain rfl := Option.some.inj hc
      subst hdot
      exact absurd (hdigits '.' List.mem_cons_self) (by decide)

/-- A group is the first one of those that are read, with a colon in front if it
is not the first one. -/
theorem readGroups_group (first : Bool) (room : Nat) (h : IPv4.WritesGroup n group)
    (hrest : ∀ c ∈ rest.head?, c = ':') :
    readGroups first (room + 1) ((if first then [] else [':']) ++ (group ++ rest)) =
      (n :: (readGroups false room rest).1, (readGroups false room rest).2) := by
  have hopen : (if first then some ((if first then [] else [':']) ++ (group ++ rest))
      else readChar? ':' ((if first then [] else [':']) ++ (group ++ rest))) =
        some (group ++ rest) := by
    cases first <;> rfl
  rw [readGroups, hopen]
  dsimp only
  rw [readIPv4?_group h hrest, ite_self]
  dsimp only
  rw [readGroup?_append h hrest]

theorem readGroups_text (x : IPv4) (room : Nat) :
    readGroups false (room + 2) (':' :: x.text) = (x.groups, true, []) := by
  have hread : readIPv4? x.text = some (x, []) := by
    have happend :=
      readIPv4?_text x (fun _ hc => nomatch hc : ∀ c ∈ ([] : Text).head?, ¬ c.isDigit)
    rwa [List.append_nil] at happend
  have hcolon : readChar? ':' (':' :: x.text) = some x.text := rfl
  rw [readGroups, if_neg Bool.false_ne_true, hcolon]
  dsimp only
  rw [if_neg (Nat.succ_ne_zero room), hread]

/-! ## Mapped addresses -/

/-- The groups of the IPv6 address that an address is mapped to. -/
def IPv4.mappedGroups (x : IPv4) : List Nat :=
  List.replicate 5 0 ++ 0xFFFF :: x.groups

theorem mapped?_mappedGroups (x : IPv4) : IPv6.mapped? ⟨x.mappedGroups⟩ = some x := by
  have hsplit (a b : UInt8) :
      ((256 * a.toNat + b.toNat) / 256).toUInt8 = a ∧
        ((256 * a.toNat + b.toNat) % 256).toUInt8 = b := by
    have hb := b.toNat_lt
    have hhigh : (256 * a.toNat + b.toNat) / 256 = a.toNat := by omega
    have hlow : (256 * a.toNat + b.toNat) % 256 = b.toNat := by omega
    rw [hhigh, hlow]
    simp
  obtain ⟨ha, hb⟩ := hsplit x.a x.b
  obtain ⟨hc, hd⟩ := hsplit x.c x.d
  show some (IPv4.mk _ _ _ _) = some x
  rw [ha, hb, hc, hd]

/-- What follows two colons and makes up three groups is read into a mapped address. -/
theorem readAddress?_mapped {x : IPv4} {t : Text} {endsInV4 : Bool}
    (h : readGroups true 7 t = (0xFFFF :: x.groups, endsInV4, [])) :
    readAddress? ("::".toList ++ t) = some (.v6 ⟨x.mappedGroups⟩) := by
  have hdotted : readIPv4? ("::".toList ++ t) = none := by
    refine readIPv4?_eq_none fun c hc hdot => ?_
    obtain rfl : ':' = c := Option.some.inj hc
    cases hdot
  have hread : readIPv6? ("::".toList ++ t) = some (⟨x.mappedGroups⟩, []) := by
    have hnone : readGroups true 8 ("::".toList ++ t) = ([], false, "::".toList ++ t) := rfl
    have hfirst : readChar? ':' ("::".toList ++ t) = some (':' :: t) := rfl
    have hsecond : readChar? ':' (':' :: t) = some t := rfl
    have hempty : ¬ ([] : List Nat).length = 8 := by decide
    unfold readIPv6?
    rw [hnone]
    dsimp only
    rw [if_neg hempty, if_neg Bool.false_ne_true, hfirst]
    dsimp only [Option.bind_eq_bind, Option.bind_some]
    rw [hsecond]
    dsimp only [Option.bind_eq_bind, Option.bind_some]
    rw [List.length_nil, h]
    rfl
  unfold readAddress?
  rw [hdotted, hread]

/-- In each of its spellings an address is read as itself, or as the address
that it is mapped to. -/
theorem readAddress?_of_writes {x : IPv4} {t : Text} (h : x.Writes t) :
    readAddress? t = some (.v4 x) ∨ readAddress? t = some (.v6 ⟨x.mappedGroups⟩) := by
  have hcolon {t : Text} : ∀ c ∈ (':' :: t).head?, c = ':' :=
    fun c hc => (Option.some.inj hc).symm
  cases h with
  | dotted =>
    have hread :=
      readIPv4?_text x (fun _ hc => nomatch hc : ∀ c ∈ ([] : Text).head?, ¬ c.isDigit)
    rw [List.append_nil] at hread
    left
    unfold readAddress?
    rw [hread]
  | @mapped mark hmark =>
    have hgroups :
        readGroups true 7 (mark ++ ':' :: x.text) = (0xFFFF :: x.groups, true, []) := by
      refine (readGroups_group true 6 hmark hcolon).trans ?_
      rw [readGroups_text x 4]
    right
    rw [List.append_assoc]
    exact readAddress?_mapped hgroups
  | @mappedGroups mark high low hmark hhigh hlow =>
    have hlast : readGroups false 5 (':' :: low) = ([256 * x.c.toNat + x.d.toNat],
        false, []) := by
      have hread :=
        readGroups_group false 4 hlow (fun _ hc => nomatch hc : ∀ c ∈ ([] : Text).head?, c = ':')
      rw [List.append_nil] at hread
      exact hread
    have hgroups : readGroups true 7 (mark ++ ':' :: (high ++ ':' :: low)) =
        (0xFFFF :: x.groups, false, []) := by
      refine (readGroups_group true 6 hmark hcolon).trans ?_
      have hmiddle :
          readGroups false 6 (':' :: (high ++ ':' :: low)) = (x.groups, false, []) := by
        refine (readGroups_group false 5 hhigh hcolon).trans ?_
        rw [hlast]
        rfl
      rw [hmiddle]
    right
    rw [List.append_assoc]
    exact readAddress?_mapped hgroups

/-! ## Hosts -/

theorem unbracketed_brackets (t : Text) : unbracketed ('[' :: t ++ [']']) = t := by
  show (if (t ++ [']']).getLast? = some ']' then (t ++ [']']).dropLast else '[' :: t ++ [']']) =
      t
  rw [List.getLast?_concat, if_pos rfl, List.dropLast_concat]

theorem unbracketed_of_writes {x : IPv4} {t : Text} (h : x.Writes t) : unbracketed t = t := by
  have hbracket : t.head? ≠ some '[' := by
    cases h with
    | dotted =>
      obtain ⟨c, digits, hdigits⟩ := List.exists_cons_of_ne_nil (Text.ofNat_ne_nil x.a.toNat)
      have hdigit : c.isDigit := by
        refine List.all_eq_true.1 (Text.isDigits_ofNat x.a.toNat) c ?_
        rw [hdigits]
        exact List.mem_cons_self
      have htext : x.text.head? = some c := by
        rw [← List.append_nil x.text, x.text_append, hdigits]
        rfl
      rw [htext]
      rintro h
      obtain rfl := Option.some.inj h
      revert hdigit
      decide
    | mapped => exact nofun
    | mappedGroups => exact nofun
  unfold unbracketed
  split
  · exact absurd rfl hbracket
  · rfl

/-- In whatever way a host writes an address, with brackets around it or without, it is local
exactly if the address lies in one of the local blocks. -/
theorem isLocal_iff_of_writes {x : IPv4} {t host : Text} (h : x.Writes t)
    (hhost : host = t ∨ host = '[' :: t ++ [']']) :
    isLocal host ↔ ∃ block ∈ localBlocks, x ∈ block := by
  have hbare : unbracketed host = t := by
    rcases hhost with rfl | rfl
    · exact unbracketed_of_writes h
    · exact unbracketed_brackets t
  rw [← x.isLocal_iff, isLocal, hbare]
  rcases readAddress?_of_writes h with hread | hread
  · rw [hread]
  · rw [hread]
    dsimp only
    rw [IPv6.isLocal, mapped?_mappedGroups]

/-- An address of a block that ends inside an octet, in hexadecimal digits of both cases and
with a zero in front. -/
theorem isLocal_mixed_case :
    let x : IPv4 := ⟨172, 31, 0, 10⟩
    let t := "::fFfF:Ac1f:0A".toList
    x.Writes t ∧ isLocal ('[' :: t ++ [']']) ∧ ∃ block ∈ localBlocks, x ∈ block := by
  intro x t
  have hmark : IPv4.WritesGroup 0xFFFF "fFfF".toList := ⟨by decide, 0, by decide⟩
  have hhigh : IPv4.WritesGroup (256 * x.a.toNat + x.b.toNat) "Ac1f".toList :=
    ⟨by decide, 0, by decide⟩
  have hlow : IPv4.WritesGroup (256 * x.c.toNat + x.d.toNat) "0A".toList :=
    ⟨by decide, 1, by decide⟩
  have hwrites : x.Writes t := .mappedGroups hmark hhigh hlow
  have hblock : ∃ block ∈ localBlocks, x ∈ block := by decide
  exact ⟨hwrites, (isLocal_iff_of_writes hwrites (.inr rfl)).2 hblock, hblock⟩

end PlainLink.Host
