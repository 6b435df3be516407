/-
# Requoting

What requoting keeps of a text, and what it changes.  A text is taken apart here by its
beginnings: a character other than `%`, a `%` before two letters or digits, or a stray
`%`, before anything else.  Requoting emits safe characters only, and the reserved ones
stand as they stood.

A stray `%` is left where it is, and it is there that requoting goes wrong: when the
escape of a letter or digit behind it is undone, the `%` comes to stand before two
letters or digits that it did not stand before (`Joins`), and is read as an escape from
then on.

    %%341    the second `%` begins the escape of `4`, and the first one is stray
    %41      what that is requoted to, an escape of `A`

Where this does not happen, a text and its requoted spelling decode to the same bytes.
Where some escape is broken, all of the text is taken as plain, the other escapes
included.

Main statements: `requote_keeps_reserved`, `percentDecode_requote`.
-/
import PlainLink.Proofs.Text.Percent

namespace PlainLink.Text

/-! ## Letters and digits -/

theorem isAlphanum_iff {c : Char} : c.isAlphanum ↔
    (65 ≤ c.val ∧ c.val ≤ 90) ∨ (97 ≤ c.val ∧ c.val ≤ 122) ∨ (48 ≤ c.val ∧ c.val ≤ 57) := by
  show (decide (65 ≤ c.val ∧ c.val ≤ 90) || decide (97 ≤ c.val) && decide (c.val ≤ 122) ||
    decide (48 ≤ c.val) && decide (c.val ≤ 57)) = true ↔ _
  simp [or_assoc]

theorem isAlphanum_of_hexValue? {c : Char} (h : (hexValue? c).isSome) : c.isAlphanum := by
  rw [isAlphanum_iff]
  unfold hexValue? at h
  simp only [Char.le_def] at h
  grind

theorem isAlphanum_of_hexByte? {a b : Char} {byte : UInt8} (h : hexByte? a b = some byte) :
    a.isAlphanum ∧ b.isAlphanum := by
  obtain ⟨m, hm, h⟩ := Option.bind_eq_some_iff.1 h
  obtain ⟨n, hn, -⟩ := Option.bind_eq_some_iff.1 h
  exact ⟨isAlphanum_of_hexValue? (hm ▸ rfl), isAlphanum_of_hexValue? (hn ▸ rfl)⟩

theorem val_lt_of_isAlphanum {c : Char} (h : c.isAlphanum) : c.val < 128 := by
  rw [isAlphanum_iff] at h
  grind

theorem isAlphanumeric_of_isAlphanum {c : Char} (h : c.isAlphanum) :
    Unicode.isAlphanumeric c := by
  rw [Unicode.isAlphanumeric, if_pos (val_lt_of_isAlphanum h)]
  exact h

theorem isAlphanumeric_of_hexByte? {a b : Char} {byte : UInt8} (h : hexByte? a b = some byte) :
    Unicode.isAlphanumeric a ∧ Unicode.isAlphanumeric b :=
  (isAlphanum_of_hexByte? h).imp isAlphanumeric_of_isAlphanum isAlphanumeric_of_isAlphanum

theorem isUnreserved_of_isAlphanum {c : Char} (h : c.isAlphanum) : isUnreserved c := by
  simp [isUnreserved, h]

theorem ne_percent_of_isAlphanumeric {c : Char} (h : Unicode.isAlphanumeric c) : c ≠ '%' := by
  rintro rfl
  exact absurd h (by decide)

theorem ne_percent_of_isUnreserved {c : Char} (h : isUnreserved c) : c ≠ '%' := by
  rintro rfl
  exact absurd h (by decide)

theorem isAlphanum_of_isUnreserved {c : Char} (hc : isUnreserved c)
    (hletter : Unicode.isAlphanumeric c) :
    c.isAlphanum := by
  simp only [isUnreserved, Bool.or_eq_true, beq_iff_eq] at hc
  obtain (((h | rfl) | rfl) | rfl) | rfl := hc
  · exact h
  all_goals exact absurd hletter (by decide)

theorem not_of_isReserved {c : Char} (h : isReserved c) :
    ¬ Unicode.isAlphanumeric c ∧ ¬ isUnreserved c ∧ c ≠ '%' := by
  have hall : "!#$&'()*+,/:;=?@[]".toList.all fun c =>
      !Unicode.isAlphanumeric c && !isUnreserved c && c != '%' := by decide
  have hc := List.all_eq_true.1 hall c (List.contains_iff_mem.1 h)
  simpa [and_assoc] using hc

/-! ## Beginnings -/

/-- Two letters or digits come first. -/
def beginsPair : Text → Bool
  | a :: b :: _ => Unicode.isAlphanumeric a && Unicode.isAlphanumeric b
  | _ => false

theorem exists_of_beginsPair {t : Text} (h : beginsPair t) :
    ∃ a b rest, t = a :: b :: rest ∧ Unicode.isAlphanumeric a ∧ Unicode.isAlphanumeric b := by
  match t, h with
  | a :: b :: rest, h =>
      obtain ⟨ha, hb⟩ := Bool.and_eq_true_iff.1 h
      exact ⟨a, b, rest, rfl, ha, hb⟩

@[elab_as_elim]
theorem beginning_induction {P : Text → Prop} (nil : P [])
    (plain : ∀ c t, c ≠ '%' → P t → P (c :: t))
    (pair : ∀ a b t, Unicode.isAlphanumeric a → Unicode.isAlphanumeric b → P t →
      P ('%' :: a :: b :: t))
    (stray : ∀ t, ¬ beginsPair t → P t → P ('%' :: t)) (t : Text) : P t := by
  induction hlength : t.length using Nat.strongRecOn generalizing t with
  | ind n ih =>
      subst hlength
      cases t with
      | nil => exact nil
      | cons c t =>
          by_cases hc : c = '%'
          · subst hc
            by_cases hpair : beginsPair t
            · obtain ⟨a, b, rest, rfl, ha, hb⟩ := exists_of_beginsPair hpair
              refine pair a b rest ha hb (ih _ ?_ rest rfl)
              simp only [List.length_cons]
              omega
            · exact stray t hpair (ih _ (Nat.lt_succ_self _) t rfl)
          · exact plain c t hc (ih _ (Nat.lt_succ_self _) t rfl)

section

variable {a b c : Char} {t rest : Text} {byte : UInt8}

theorem unquoteUnreserved?_cons (hc : c ≠ '%') (t : Text) :
    unquoteUnreserved? (c :: t) = (unquoteUnreserved? t).map (c :: ·) := by
  rw [unquoteUnreserved?]
  rintro a b rest rfl
  exact absurd rfl hc

theorem unquoteUnreserved?_stray (h : ¬ beginsPair t) :
    unquoteUnreserved? ('%' :: t) = (unquoteUnreserved? t).map ('%' :: ·) := by
  match t, h with
  | [], _ => rfl
  | [c], _ => rfl
  | a :: b :: rest, h => exact if_neg h

theorem unquoteUnreserved?_pair (ha : Unicode.isAlphanumeric a)
    (hb : Unicode.isAlphanumeric b) (t : Text) :
    unquoteUnreserved? ('%' :: a :: b :: t) = (hexByte? a b).bind fun byte =>
      (unquoteUnreserved? t).map
        ((if isUnreserved (Char.ofNat byte.toNat) then [Char.ofNat byte.toNat]
          else ['%', a, b]) ++ ·) := by
  rw [unquoteUnreserved?, if_pos (by rw [ha, hb]; rfl)]
  cases hexByte? a b with
  | none => rfl
  | some byte =>
      dsimp only [Option.bind_some]
      split
      · rfl
      · rfl

theorem suffix_of_ne (hc : c ≠ '%') : '%' :: rest <:+ c :: t ↔ '%' :: rest <:+ t := by
  rw [List.suffix_cons_iff]
  refine or_iff_right fun h => hc ?_
  exact (List.cons.inj h).1.symm

theorem suffix_of_pair (ha : Unicode.isAlphanumeric a) (hb : Unicode.isAlphanumeric b) :
    '%' :: rest <:+ '%' :: a :: b :: t ↔ rest = a :: b :: t ∨ '%' :: rest <:+ t := by
  rw [List.suffix_cons_iff, suffix_of_ne (ne_percent_of_isAlphanumeric ha),
    suffix_of_ne (ne_percent_of_isAlphanumeric hb), List.cons.injEq, and_iff_right rfl]

end

/-! ## Broken escapes -/

/-- Some `%` stands before two letters or digits that are not both hexadecimal. -/
def Broken (t : Text) : Prop :=
  ∃ a b rest, '%' :: a :: b :: rest <:+ t ∧ Unicode.isAlphanumeric a ∧ Unicode.isAlphanumeric b ∧
    hexByte? a b = none

/-- The escapes of unreserved characters are undone unless there are broken ones. -/
theorem unquoteUnreserved?_eq_none_iff {t : Text} : unquoteUnreserved? t = none ↔ Broken t := by
  induction t using beginning_induction with
  | nil => simp [unquoteUnreserved?, Broken]
  | plain c t hc ih =>
      rw [unquoteUnreserved?_cons hc, Option.map_eq_none_iff, ih]
      simp only [Broken, suffix_of_ne hc]
  | stray t hpair ih =>
      rw [unquoteUnreserved?_stray hpair, Option.map_eq_none_iff, ih]
      constructor
      · rintro ⟨a, b, rest, hsuffix, h⟩
        exact ⟨a, b, rest, hsuffix.trans (List.suffix_cons _ _), h⟩
      · rintro ⟨a, b, rest, hsuffix, ha, hb, h⟩
        rcases List.suffix_cons_iff.1 hsuffix with heq | hsuffix
        · obtain rfl := (List.cons.inj heq).2
          exact absurd (by simp [beginsPair, ha, hb]) hpair
        · exact ⟨a, b, rest, hsuffix, ha, hb, h⟩
  | pair a b t ha hb ih =>
      rw [unquoteUnreserved?_pair ha hb]
      cases hbyte : hexByte? a b with
      | none =>
          have hbroken : Broken ('%' :: a :: b :: t) :=
            ⟨a, b, t, List.suffix_refl _, ha, hb, hbyte⟩
          simp [hbroken]
      | some byte =>
          rw [Option.bind_some, Option.map_eq_none_iff, ih]
          constructor
          · rintro ⟨x, y, rest, hsuffix, h⟩
            exact ⟨x, y, rest, (suffix_of_pair ha hb).2 (.inr hsuffix), h⟩
          · rintro ⟨x, y, rest, hsuffix, hx, hy, h⟩
            rcases (suffix_of_pair ha hb).1 hsuffix with heq | hsuffix
            · obtain ⟨rfl, rfl, -⟩ : x = a ∧ y = b ∧ rest = t := by simpa using heq
              rw [hbyte] at h
              cases h
            · exact ⟨x, y, rest, hsuffix, hx, hy, h⟩

/-! ## Escapes undone -/

/-- The second text is the first with the escapes of unreserved characters undone. -/
inductive Unquotes : Text → Text → Prop
  | nil : Unquotes [] []
  | plain {c : Char} {t out : Text} : c ≠ '%' → Unquotes t out → Unquotes (c :: t) (c :: out)
  | stray {t out : Text} : ¬ beginsPair t → Unquotes t out → Unquotes ('%' :: t) ('%' :: out)
  | undone {a b : Char} {byte : UInt8} {t out : Text} : hexByte? a b = some byte →
      isUnreserved (Char.ofNat byte.toNat) → Unquotes t out →
      Unquotes ('%' :: a :: b :: t) (Char.ofNat byte.toNat :: out)
  | kept {a b : Char} {byte : UInt8} {t out : Text} : hexByte? a b = some byte →
      ¬ isUnreserved (Char.ofNat byte.toNat) → Unquotes t out →
      Unquotes ('%' :: a :: b :: t) ('%' :: a :: b :: out)

theorem unquoteUnreserved?_eq_some_iff {t plain : Text} :
    unquoteUnreserved? t = some plain ↔ Unquotes t plain := by
  constructor
  · intro h
    induction t using beginning_induction generalizing plain with
    | nil =>
        cases h
        exact .nil
    | plain c t hc ih =>
        rw [unquoteUnreserved?_cons hc] at h
        obtain ⟨out, hout, rfl⟩ := Option.map_eq_some_iff.1 h
        exact .plain hc (ih hout)
    | stray t hpair ih =>
        rw [unquoteUnreserved?_stray hpair] at h
        obtain ⟨out, hout, rfl⟩ := Option.map_eq_some_iff.1 h
        exact .stray hpair (ih hout)
    | pair a b t ha hb ih =>
        rw [unquoteUnreserved?_pair ha hb] at h
        obtain ⟨byte, hbyte, h⟩ := Option.bind_eq_some_iff.1 h
        obtain ⟨out, hout, rfl⟩ := Option.map_eq_some_iff.1 h
        split
        · next hc => exact .undone hbyte hc (ih hout)
        · next hc => exact .kept hbyte hc (ih hout)
  · intro h
    induction h with
    | nil => rfl
    | plain hc _ ih => rw [unquoteUnreserved?_cons hc, ih, Option.map_some]
    | stray hpair _ ih => rw [unquoteUnreserved?_stray hpair, ih, Option.map_some]
    | undone hbyte hc _ ih =>
        obtain ⟨ha, hb⟩ := isAlphanumeric_of_hexByte? hbyte
        rw [unquoteUnreserved?_pair ha hb, hbyte, Option.bind_some, if_pos hc, ih]
        rfl
    | kept hbyte hc _ ih =>
        obtain ⟨ha, hb⟩ := isAlphanumeric_of_hexByte? hbyte
        rw [unquoteUnreserved?_pair ha hb, hbyte, Option.bind_some, if_neg hc, ih]
        rfl

/-! ## What is emitted -/

section

variable {t plain : Text} {safe : Char → Bool}

theorem Unquotes.filter_isReserved (h : Unquotes t plain) :
    plain.filter isReserved = t.filter isReserved := by
  have hnone : ∀ c, Unicode.isAlphanumeric c ∨ isUnreserved c ∨ c = '%' → ¬ isReserved c := by
    intro c hc hreserved
    obtain ⟨halnum, hunreserved, hpercent⟩ := not_of_isReserved hreserved
    simp [halnum, hunreserved, hpercent] at hc
  induction h with
  | nil => rfl
  | plain _ _ ih => rw [List.filter_cons, List.filter_cons, ih]
  | stray _ _ ih => rw [List.filter_cons, List.filter_cons, ih]
  | undone hbyte hc _ ih =>
      obtain ⟨ha, hb⟩ := isAlphanumeric_of_hexByte? hbyte
      simp [hnone _ (.inr (.inl hc)), hnone '%', hnone _ (.inl ha), hnone _ (.inl hb), ih]
  | kept hbyte _ _ ih =>
      obtain ⟨ha, hb⟩ := isAlphanumeric_of_hexByte? hbyte
      simp [hnone '%', hnone _ (.inl ha), hnone _ (.inl hb), ih]

theorem filter_isReserved_escape (hsafe : ∀ c, isReserved c → safe c) (t : Text) :
    (escape safe t).filter isReserved = t.filter isReserved := by
  have hescaped : ∀ bs : Bytes, (bs.flatMap escapeByte).filter isReserved = [] := by
    refine fun bs => List.filter_eq_nil_iff.2 fun c hc hreserved => ?_
    obtain ⟨-, hunreserved, hpercent⟩ := not_of_isReserved hreserved
    rcases mem_flatMap_escapeByte hc with h | h
    · exact hunreserved h
    · exact hpercent h
  induction t with
  | nil => rfl
  | cons c t ih =>
      rw [escape_cons, List.filter_append, ih]
      split
      · rw [← List.filter_append]
        rfl
      · next hc => rw [hescaped, List.filter_cons_of_neg fun h => hc (hsafe c h),
          List.nil_append]

theorem safe_of_mem_requote {c : Char} (hc : c ∈ requote t) :
    isUnreserved c ∨ isReserved c ∨ c = '%' := by
  rw [requote] at hc
  split at hc
  · have h := mem_escape hc
    grind
  · have h := mem_escape hc
    grind

end

/-- Requoting emits safe characters only, and the delimiters are those of the text, in their
order: none is made from an escape, and none is escaped. -/
theorem requote_keeps_reserved (t : Text) :
    (∀ c ∈ requote t, isUnreserved c ∨ isReserved c ∨ c = '%') ∧
      (requote t).filter isReserved = t.filter isReserved := by
  refine ⟨fun c => safe_of_mem_requote, ?_⟩
  rw [requote]
  split
  · next plain hplain =>
    rw [filter_isReserved_escape (by simp +contextual),
      (unquoteUnreserved?_eq_some_iff.1 hplain).filter_isReserved]
  · exact filter_isReserved_escape (by simp +contextual) t

/-! ## Escapes that arise -/

/-- The text is a way to write one character: the character itself, or an escape of it. -/
def Writes (u : Text) (c : Char) : Prop :=
  u = [c] ∨ ∃ x y byte, u = ['%', x, y] ∧ hexByte? x y = some byte ∧ Char.ofNat byte.toNat = c

/-- Some `%` stands before the letters or digits `a` and `b`, at least one of them escaped: it
comes to stand before both when escapes are undone. -/
structure Joins (t : Text) (a b : Char) : Prop where
  first : a.isAlphanum
  second : b.isAlphanum
  behind : ∃ u v rest, '%' :: (u ++ (v ++ rest)) <:+ t ∧ Writes u a ∧ Writes v b ∧
    (u ≠ [a] ∨ v ≠ [b])

section

variable {a b c : Char} {s t u v out plain rest : Text}

theorem Joins.of_suffix (h : Joins s a b) (hs : s <:+ t) : Joins t a b := by
  obtain ⟨ha, hb, u, v, rest, hsuffix, h⟩ := h
  exact ⟨ha, hb, u, v, rest, hsuffix.trans hs, h⟩

theorem Unquotes.exists_writes (h : Unquotes t (c :: out)) (hc : c ≠ '%') :
    ∃ u rest, t = u ++ rest ∧ Writes u c ∧ Unquotes rest out := by
  cases h with
  | plain _ hout => exact ⟨[c], _, rfl, .inl rfl, hout⟩
  | stray _ _ => exact absurd rfl hc
  | undone hbyte _ hout => exact ⟨['%', _, _], _, rfl, .inr ⟨_, _, _, rfl, hbyte, rfl⟩, hout⟩
  | kept _ _ _ => exact absurd rfl hc

/-- An escaped letter or digit behind a `%`, or behind one letter or digit,
makes the `%` stray. -/
theorem not_beginsPair_of_writes (hu : Writes u a) (hv : Writes v b) (hplain : u ≠ [a] ∨ v ≠ [b])
    (rest : Text) : ¬ beginsPair (u ++ (v ++ rest)) := by
  have hpercent : Unicode.isAlphanumeric '%' = false := by decide
  rcases hu with rfl | ⟨x, y, byte, rfl, -⟩
  · rcases hv with rfl | ⟨x, y, byte, rfl, -⟩
    · simp at hplain
    · simp [beginsPair, hpercent]
  · simp [beginsPair, hpercent]

/-- Letters and digits that come to stand behind a stray `%` are joined to it. -/
theorem joins_of_stray (hpair : ¬ beginsPair t) (h : Unquotes t (a :: b :: out))
    (ha : a.isAlphanum) (hb : b.isAlphanum) : Joins ('%' :: t) a b := by
  have hunreserved {c : Char} (hc : c.isAlphanum) : c ≠ '%' :=
    ne_percent_of_isUnreserved (isUnreserved_of_isAlphanum hc)
  obtain ⟨u, rest, rfl, hu, h⟩ := h.exists_writes (hunreserved ha)
  obtain ⟨v, rest, rfl, hv, -⟩ := h.exists_writes (hunreserved hb)
  refine ⟨ha, hb, u, v, rest, List.suffix_refl _, hu, hv, ?_⟩
  by_contra hplain
  obtain ⟨rfl, rfl⟩ : u = [a] ∧ v = [b] := by simpa [not_or] using hplain
  refine hpair ?_
  simp [beginsPair, isAlphanumeric_of_isAlphanum ha, isAlphanumeric_of_isAlphanum hb]

end

/-! ## What a text decodes to -/

/-- The byte that two hexadecimal digits at the beginning write. -/
def leadByte? : Text → Option UInt8
  | a :: b :: _ => hexByte? a b
  | _ => none

section

variable {a b c : Char} {t out plain : Text} {byte : UInt8} {safe : Char → Bool}

theorem percentDecode_pair (h : hexByte? a b = some byte) (t : Text) :
    percentDecode ('%' :: a :: b :: t) = byte :: percentDecode t := by
  rw [percentDecode, h]

theorem percentDecode_stray (h : leadByte? t = none) :
    percentDecode ('%' :: t) = Utf8.encodeChar '%' ++ percentDecode t := by
  match t, h with
  | [], _ => rfl
  | [c], _ => rfl
  | a :: b :: rest, h =>
      have hnone : hexByte? a b = none := h
      rw [percentDecode, hnone]

theorem exists_of_leadByte? (h : leadByte? t = some byte) :
    ∃ a b rest, t = a :: b :: rest ∧ hexByte? a b = some byte := by
  match t, h with
  | a :: b :: rest, h => exact ⟨a, b, rest, rfl, h⟩

theorem leadByte?_of_stray (h : ¬ beginsPair t) : leadByte? t = none := by
  refine Option.eq_none_iff_forall_ne_some.2 fun byte hbyte => h ?_
  obtain ⟨a, b, rest, rfl, hbyte⟩ := exists_of_leadByte? hbyte
  obtain ⟨ha, hb⟩ := isAlphanumeric_of_hexByte? hbyte
  simp [beginsPair, ha, hb]

theorem encodeChar_byte (h : isUnreserved (Char.ofNat byte.toNat)) :
    Utf8.encodeChar (Char.ofNat byte.toNat) = [byte] := by
  have hall : ∀ n < 256, isUnreserved (Char.ofNat n) →
      Utf8.encodeChar (Char.ofNat n) = [n.toUInt8] := by
    decide +kernel
  rw [hall _ byte.toNat_lt h, Nat.toUInt8_eq, UInt8.ofNat_toNat]

/-- To undo the escapes of unreserved characters keeps what a text decodes to, as long as no
`%` comes to stand before two hexadecimal digits. -/
theorem Unquotes.percentDecode_eq (h : Unquotes t plain)
    (hjoins : ∀ a b, Joins t a b → hexByte? a b = none) :
    percentDecode plain = percentDecode t := by
  induction h with
  | nil => rfl
  | plain hc _ ih =>
      rw [percentDecode_cons hc, percentDecode_cons hc,
        ih fun a b hab => hjoins a b (hab.of_suffix (List.suffix_cons _ _))]
  | @stray t out hpair hout ih =>
      have hlead := leadByte?_of_stray hpair
      have hlead' : leadByte? out = none := by
        refine Option.eq_none_iff_forall_ne_some.2 fun byte hbyte => ?_
        obtain ⟨a, b, rest, rfl, hpaired⟩ := exists_of_leadByte? hbyte
        obtain ⟨ha, hb⟩ := isAlphanum_of_hexByte? hpaired
        rw [hjoins a b (joins_of_stray hpair hout ha hb)] at hpaired
        cases hpaired
      rw [percentDecode_stray hlead', percentDecode_stray hlead,
        ih fun a b hab => hjoins a b (hab.of_suffix (List.suffix_cons _ _))]
  | undone hbyte hc _ ih =>
      have hrest := ih fun x y hxy =>
          hjoins x y (hxy.of_suffix (List.suffix_append ['%', _, _] _))
      rw [percentDecode_pair hbyte, percentDecode_cons (ne_percent_of_isUnreserved hc),
        encodeChar_byte hc, hrest]
      rfl
  | kept hbyte _ _ ih =>
      have hrest := ih fun x y hxy =>
          hjoins x y (hxy.of_suffix (List.suffix_append ['%', _, _] _))
      rw [percentDecode_pair hbyte, percentDecode_pair hbyte, hrest]

theorem percentDecode_escape_cons (hc : c ≠ '%') (t : Text) :
    percentDecode (escape safe (c :: t)) = Utf8.encodeChar c ++ percentDecode
      (escape safe t) := by
  rw [escape_cons]
  split
  · exact percentDecode_cons hc _
  · exact percentDecode_escapeBytes _ _

theorem exists_flatMap_escapeByte (c : Char) :
    ∃ x y rest, (Utf8.encodeChar c).flatMap escapeByte = '%' :: x :: y :: rest := by
  obtain ⟨b, bs, hbytes⟩ : ∃ b bs, Utf8.encodeChar c = b :: bs := by
    unfold Utf8.encodeChar
    dsimp only
    split
    · exact ⟨_, _, rfl⟩
    · split
      · exact ⟨_, _, rfl⟩
      · split <;> exact ⟨_, _, rfl⟩
  rw [hbytes]
  exact ⟨_, _, _, rfl⟩

theorem exists_of_escape (h : escape safe t = c :: out) (hc : c ≠ '%') :
    ∃ rest, t = c :: rest ∧ escape safe rest = out := by
  cases t with
  | nil => cases h
  | cons d t =>
      rw [escape_cons] at h
      split at h
      · obtain ⟨rfl, rfl⟩ := List.cons.inj h
        exact ⟨t, rfl, rfl⟩
      · obtain ⟨x, y, rest, hescape⟩ := exists_flatMap_escapeByte d
        rw [hescape] at h
        exact absurd (List.cons.inj h).1.symm hc

/-- Two letters or digits at the beginning of an escaped text were let pass. -/
theorem exists_of_escape_pair (h : escape safe t = a :: b :: out) (ha : Unicode.isAlphanumeric a)
    (hb : Unicode.isAlphanumeric b) : ∃ rest, t = a :: b :: rest := by
  obtain ⟨behind, rfl, hbehind⟩ := exists_of_escape h (ne_percent_of_isAlphanumeric ha)
  obtain ⟨rest, rfl, -⟩ := exists_of_escape hbehind (ne_percent_of_isAlphanumeric hb)
  exact ⟨rest, rfl⟩

theorem leadByte?_escape (h : leadByte? t = none) : leadByte? (escape safe t) = none := by
  refine Option.eq_none_iff_forall_ne_some.2 fun byte hbyte => ?_
  obtain ⟨a, b, out, heq, hpaired⟩ := exists_of_leadByte? hbyte
  obtain ⟨ha, hb⟩ := isAlphanum_of_hexByte? hpaired
  obtain ⟨rest, rfl⟩ := exists_of_escape_pair heq (isAlphanumeric_of_isAlphanum ha)
    (isAlphanumeric_of_isAlphanum hb)
  have hnone : hexByte? a b = none := h
  rw [hnone] at hpaired
  cases hpaired

theorem percentDecode_escape_of_safe (hpercent : safe '%') (hsafe : ∀ c, c.isAlphanum → safe c)
    (t : Text) : percentDecode (escape safe t) = percentDecode t := by
  have hstray : ∀ t, leadByte? t = none → percentDecode (escape safe t) = percentDecode t →
      percentDecode (escape safe ('%' :: t)) = percentDecode ('%' :: t) := by
    intro t hlead ih
    rw [escape_cons, if_pos hpercent, List.singleton_append, percentDecode_stray hlead,
      percentDecode_stray (leadByte?_escape hlead), ih]
  induction t using beginning_induction with
  | nil => rfl
  | plain c t hc ih => rw [percentDecode_escape_cons hc, percentDecode_cons hc, ih]
  | stray t hpair ih => exact hstray t (leadByte?_of_stray hpair) ih
  | pair a b t ha hb ih =>
      cases hbyte : hexByte? a b with
      | none =>
          refine hstray _ hbyte ?_
          have ha' := ne_percent_of_isAlphanumeric ha
          have hb' := ne_percent_of_isAlphanumeric hb
          rw [percentDecode_escape_cons ha', percentDecode_escape_cons hb',
            percentDecode_cons ha', percentDecode_cons hb', ih]
      | some byte =>
          obtain ⟨ha', hb'⟩ := isAlphanum_of_hexByte? hbyte
          rw [escape_cons, escape_cons, escape_cons, if_pos hpercent, if_pos (hsafe a ha'),
            if_pos (hsafe b hb')]
          simp only [List.singleton_append]
          rw [percentDecode_pair hbyte, percentDecode_pair hbyte, ih]

end

/-- Where escapes are broken, all of a text is taken as plain, and its requoted spelling
decodes to it as it stands.  Elsewhere the requoted spelling decodes to what the text decodes
to, as long as no `%` comes to stand before two hexadecimal digits. -/
theorem percentDecode_requote (t : Text) :
    (Broken t → percentDecode (requote t) = Utf8.encode t) ∧
      (¬ Broken t → (∀ a b, Joins t a b → hexByte? a b = none) →
        percentDecode (requote t) = percentDecode t) := by
  constructor
  · intro hbroken
    rw [requote, unquoteUnreserved?_eq_none_iff.2 hbroken]
    exact percentDecode_escape (by decide) t
  · intro hbroken hjoins
    cases hplain : unquoteUnreserved? t with
    | none => exact absurd (unquoteUnreserved?_eq_none_iff.1 hplain) hbroken
    | some plain =>
        have hsafe : ∀ c : Char, c.isAlphanum → isUnreserved c || isReserved c || c == '%' :=
          fun c hc => by simp [isUnreserved_of_isAlphanum hc]
        rw [requote, hplain, percentDecode_escape_of_safe (by decide) hsafe]
        exact (unquoteUnreserved?_eq_some_iff.1 hplain).percentDecode_eq hjoins

theorem percentDecode_requote_broken_and_tilde :
    percentDecode (requote "%zz%41".toList) = Utf8.encode "%zz%41".toList ∧
      percentDecode (requote "/%7Eu".toList) = percentDecode "/%7Eu".toList := by
  refine ⟨(percentDecode_requote "%zz%41".toList).1 ?_,
    (percentDecode_requote "/%7Eu".toList).2 ?_ ?_⟩
  · exact unquoteUnreserved?_eq_none_iff.1 (by decide)
  · exact fun h => absurd (unquoteUnreserved?_eq_none_iff.2 h) (by decide)
  · rintro a b ⟨-, -, u, v, rest, hsuffix, hu, hv, hplain⟩
    have hbehind : u ++ (v ++ rest) = "7Eu".toList := by
      simpa [List.suffix_cons_iff] using hsuffix
    have hpair := not_beginsPair_of_writes hu hv hplain rest
    rw [hbehind] at hpair
    exact absurd (by decide) hpair

/-- Among broken escapes also the others are taken as plain. -/
theorem percentDecode_requote_not_always :
    ¬ ∀ t, percentDecode (requote t) = percentDecode t := by
  intro h
  exact absurd (h "%zz%41".toList) (by decide)

end PlainLink.Text
