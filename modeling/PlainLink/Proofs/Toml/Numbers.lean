/-
# Numbers in documents

Whole numbers, numbers with a point and truth values are read back from what is written
for them, in front of whatever ends a value.  A number is told from a date by what
follows its first digits: a date has a hyphen or a colon there.

Main statements: `readScalar_ofNat`, `readScalar_real`, `readScalar_bool`.
-/
import PlainLink.Proofs.Decimal.Shortest
import PlainLink.Toml.Parser
import PlainLink.Toml.Writer

namespace PlainLink.Toml

open Real64 (WholePart FractionPart)

/-- What may stand behind a value: nothing, the end of the line, or what
ends an item of a list. -/
def Stops (rest : Text) : Prop :=
  ∀ c ∈ rest.head?, c = '\n' ∨ c = ',' ∨ c = ']'

theorem stops_line (t : Text) : Stops ('\n' :: t) :=
  Text.forall_head_cons (.inl rfl) t

theorem stops_comma (t : Text) : Stops (',' :: t) :=
  Text.forall_head_cons (.inr (.inl rfl)) t

theorem stops_bracket (t : Text) : Stops (']' :: t) :=
  Text.forall_head_cons (.inr (.inr rfl)) t

variable {rest : Text}

/-! ## Rows of digits -/

/-- Neither a digit nor a mark between digits follows. -/
def EndsRow (rest : Text) : Prop :=
  ∀ c ∈ rest.head?, ¬ c.isDigit ∧ c ≠ '_'

theorem Stops.endsRow (h : Stops rest) : EndsRow rest := by
  intro c hc
  rcases h c hc with rfl | rfl | rfl <;> decide

theorem digitRow_append {row : Text} (hrow : Text.isDigits row) (hrest : EndsRow rest) :
    digitRow Char.isDigit (row ++ rest) = (row, rest) := by
  induction row with
  | nil =>
    cases rest with
    | nil => rfl
    | cons c rest =>
      obtain ⟨hdigit, hmark⟩ := hrest c rfl
      show digitRow Char.isDigit (c :: rest) = ([], c :: rest)
      unfold digitRow
      split
      · next heq => cases heq
      · next heq => exact absurd (List.cons.inj heq).1 hmark
      · next heq =>
        obtain ⟨rfl, rfl⟩ := List.cons.inj heq
        rw [if_neg hdigit]
  | cons d row ih =>
    obtain ⟨hd, hrow⟩ : d.isDigit ∧ Text.isDigits row := by simpa [Text.isDigits] using hrow
    show digitRow Char.isDigit (d :: (row ++ rest)) = (d :: row, rest)
    unfold digitRow
    split
    · next heq => cases heq
    · next heq =>
      obtain rfl := (List.cons.inj heq).1
      exact absurd hd (by decide)
    · next heq =>
      obtain ⟨rfl, rfl⟩ := List.cons.inj heq
      rw [if_pos hd, ih hrow]

theorem readRow_append {row : Text} (hne : row ≠ []) (hrow : Text.isDigits row)
    (hrest : EndsRow rest) :
    readRow Char.isDigit (row ++ rest) = some (row, rest) := by
  have hhead : (row ++ rest).head?.any Char.isDigit = true := by
    obtain ⟨d, more, rfl⟩ := List.exists_cons_of_ne_nil hne
    exact List.all_eq_true.1 hrow d List.mem_cons_self
  rw [readRow, if_pos hhead, digitRow_append hrow hrest]

theorem readWhole_append {whole : Text} (hwhole : WholePart whole) (hrest : EndsRow rest) :
    readWhole (whole ++ rest) = some (whole, rest) := by
  obtain ⟨d, more, rfl⟩ := List.exists_cons_of_ne_nil hwhole.ne_nil
  by_cases hd : d = '0'
  · subst hd
    obtain rfl := hwhole.leading more rfl
    rfl
  · unfold readWhole
    split
    · next heq => exact absurd (List.cons.inj heq).1 hd
    · exact readRow_append hwhole.ne_nil hwhole.isDigits hrest

theorem wholePart_ofNat (n : Nat) : WholePart (Text.ofNat n) :=
  ⟨Text.ofNat_ne_nil n, Text.isDigits_ofNat n, fun _ h => Text.eq_nil_of_ofNat_eq h⟩

/-! ## No dates -/

theorem of_readPart {length least most n : Nat} {t after : Text}
    (h : readPart length least most t = some (n, after)) :
    (t.take length).length = length ∧ Text.isDigits (t.take length) ∧ after = t.drop length := by
  unfold readPart at h
  dsimp only at h
  split at h
  · next hread =>
    simp only [Bool.and_eq_true, decide_eq_true_eq] at hread
    exact ⟨hread.1.1.1, hread.1.1.2, (Prod.mk.inj (Option.some.inj h)).2.symm⟩
  · cases h

theorem readPart_append {length least most n : Nat} {row t : Text}
    (hrest : ∀ c ∈ rest.head?, ¬ c.isDigit)
    (h : readPart length least most (row ++ rest) = some (n, t)) :
    t = row.drop length ++ rest := by
  obtain ⟨hlength, hdigits, rfl⟩ := of_readPart h
  have hshort : length ≤ row.length := by
    by_contra hlong
    cases rest with
    | nil =>
      rw [List.append_nil, List.length_take] at hlength
      omega
    | cons c rest =>
      have hmem : c ∈ (row ++ c :: rest).take length := by
        rw [List.take_append, List.take_cons (by omega)]
        exact List.mem_append_right _ List.mem_cons_self
      exact hrest c rfl (List.all_eq_true.1 hdigits c hmem)
  exact List.drop_append_of_le_length hshort

theorem after?_row {row : Text} {sign : Char} (hrow : Text.isDigits row) (hsign : ¬ sign.isDigit)
    (hrest : ∀ c ∈ rest.head?, c ≠ sign) : Text.after? [sign] (row ++ rest) = none := by
  have hhead : ∀ c ∈ (row ++ rest).head?, c ≠ sign := by
    intro c hc
    cases row with
    | nil => exact hrest c hc
    | cons d row =>
      obtain rfl := Option.some.inj hc
      rintro rfl
      exact hsign (List.all_eq_true.1 hrow d List.mem_cons_self)
  generalize row ++ rest = t at hhead
  cases t with
  | nil => rfl
  | cons c t =>
    have hne : (sign == c) = false := beq_false_of_ne (hhead c rfl).symm
    show (if sign == c then _ else none) = none
    rw [hne]
    rfl

/-- A text is no date unless a hyphen follows its year or a colon its hour. -/
theorem afterMoment?_eq_none {t : Text}
    (hyear : ∀ part, readPart 4 0 9999 t = some part → Text.after? ['-'] part.2 = none)
    (hhour : ∀ part, readPart 2 0 23 t = some part → Text.after? [':'] part.2 = none) :
    afterMoment? t = none := by
  have hdate : afterDate? t = none := by
    unfold afterDate?
    cases h : readPart 4 0 9999 t with
    | none => rfl
    | some part =>
      show (Text.after? ['-'] part.2).bind _ = none
      rw [hyear part h]
      rfl
  have htime : afterTime? t = none := by
    unfold afterTime?
    cases h : readPart 2 0 23 t with
    | none => rfl
    | some part =>
      show (Text.after? [':'] part.2).bind _ = none
      rw [hhour part h]
      rfl
  rw [afterMoment?, hdate, htime]

/-- A text is no date if it starts with digits in front of anything but a hyphen or a colon. -/
theorem afterMoment?_row {row : Text} (hrow : Text.isDigits row)
    (hrest : ∀ c ∈ rest.head?, ¬ c.isDigit ∧ c ≠ '-' ∧ c ≠ ':') :
    afterMoment? (row ++ rest) = none := by
  have hpart {length least most : Nat} {sign : Char} (hsign : ¬ sign.isDigit)
      (hne : ∀ c ∈ rest.head?, c ≠ sign) :
      ∀ part, readPart length least most (row ++ rest) = some part →
        Text.after? [sign] part.2 = none := by
    rintro ⟨n, t⟩ h
    obtain rfl := readPart_append (fun c hc => (hrest c hc).1) h
    have hmore : Text.isDigits (row.drop length) :=
      List.all_eq_true.2 fun d hd => List.all_eq_true.1 hrow d (List.mem_of_mem_drop hd)
    exact after?_row hmore hsign hne
  exact afterMoment?_eq_none (hpart (by decide) fun c hc => (hrest c hc).2.1)
    (hpart (by decide) fun c hc => (hrest c hc).2.2)

theorem afterMoment?_of_head {t : Text} (h : ∀ c ∈ t.head?, ¬ c.isDigit) :
    afterMoment? t = none := by
  have hpart {length least most : Nat} (hlength : 0 < length) (part : Nat × Text) :
      readPart length least most t ≠ some part := by
    intro hread
    obtain ⟨htake, hdigits, -⟩ := of_readPart hread
    cases t with
    | nil =>
      rw [List.take_nil] at htake
      exact hlength.ne htake
    | cons c t =>
      refine h c rfl (List.all_eq_true.1 hdigits c ?_)
      rw [List.take_cons hlength]
      exact List.mem_cons_self
  exact afterMoment?_eq_none (fun part h => absurd h (hpart (by decide) part))
    fun part h => absurd h (hpart (by decide) part)

/-! ## Decimal numbers -/

theorem Stops.readExponent (h : Stops rest) : readExponent rest = some (none, rest) := by
  cases rest with
  | nil => rfl
  | cons c rest =>
    unfold Toml.readExponent
    refine if_neg ?_
    rcases h c rfl with rfl | rfl | rfl <;> decide

theorem Stops.readFraction (h : Stops rest) : readFraction rest = some (none, rest) := by
  unfold Toml.readFraction
  split
  · next dotted =>
    rcases h '.' rfl with h | h | h <;> exact absurd h (by decide)
  · rfl

theorem readDecimal_ofNat {n : Nat} (hn : n < Nat.pow 2 63) (h : Stops rest) :
    readDecimal false (Text.ofNat n ++ rest) = some (int n, rest) := by
  unfold readDecimal
  rw [readWhole_append (wholePart_ofNat n) h.endsRow]
  show (readFraction rest).bind _ = _
  rw [h.readFraction]
  show (readExponent rest).bind _ = _
  rw [h.readExponent]
  show (int? false (Text.decimalValue (Text.ofNat n))).bind _ = _
  rw [Text.decimalValue_ofNat, int?, if_neg Bool.false_ne_true, if_pos hn]
  rfl

theorem readDecimal_point {x : Real64} {whole fraction : Text} {negative : Bool}
    (hwhole : WholePart whole) (hfraction : FractionPart fraction)
    (hx : Real64.ofDecimal negative (Text.decimalValue (whole ++ fraction))
    (-(fraction.length : Int)) = x) (hfinite : x ≠ .infinite false) (h : Stops rest) :
    readDecimal negative (whole ++ '.' :: (fraction ++ rest)) = some (real x, rest) := by
  have hpoint : EndsRow ('.' :: (fraction ++ rest)) :=
    Text.forall_head_cons (by decide) (fraction ++ rest)
  unfold readDecimal
  rw [readWhole_append hwhole hpoint]
  show ((readRow Char.isDigit (fraction ++ rest)).map _).bind _ = _
  rw [readRow_append hfraction.ne_nil hfraction.isDigits h.endsRow]
  show (readExponent rest).bind _ = _
  rw [h.readExponent]
  show (real? (Real64.ofDecimal negative (Text.decimalValue (whole ++ fraction))
    (0 - (fraction.length : Int)))).bind _ = _
  rw [zero_sub, hx, real?, if_neg hfinite]
  rfl

theorem readNumber_decimal {t digits : Text} {negative : Bool}
    (hsign : readSign t = (negative, digits)) (hhead : ∀ c more, digits = c :: more → c.isDigit)
    (hbase : ∀ mark more, t = '0' :: mark :: more → mark ≠ 'x' ∧ mark ≠ 'o' ∧ mark ≠ 'b') :
    readNumber t = readDecimal negative digits := by
  unfold readNumber
  split
  · exact absurd rfl (hbase _ _ rfl).1
  · exact absurd rfl (hbase _ _ rfl).2.1
  · exact absurd rfl (hbase _ _ rfl).2.2
  · rw [hsign]
    dsimp only
    split
    · exact absurd (hhead _ _ rfl) (by decide)
    · exact absurd (hhead _ _ rfl) (by decide)
    · rfl

theorem isDigit_of_whole {whole : Text} (hwhole : WholePart whole) {c : Char} {more : Text}
    (h : whole ++ rest = c :: more) : c.isDigit := by
  obtain ⟨d, digits, rfl⟩ := List.exists_cons_of_ne_nil hwhole.ne_nil
  obtain rfl := (List.cons.inj h).1
  exact List.all_eq_true.1 hwhole.isDigits d List.mem_cons_self

theorem readNumber_whole {whole : Text} (hwhole : WholePart whole)
    (hrest : ∀ c ∈ rest.head?, c ≠ 'x' ∧ c ≠ 'o' ∧ c ≠ 'b') :
    readNumber (whole ++ rest) = readDecimal false (whole ++ rest) := by
  refine readNumber_decimal ?_ (fun c more => isDigit_of_whole hwhole) ?_
  · unfold readSign
    split
    · next h => exact absurd (isDigit_of_whole hwhole h) (by decide)
    · next h => exact absurd (isDigit_of_whole hwhole h) (by decide)
    · rfl
  · intro mark more h
    obtain ⟨d, digits, rfl⟩ := List.exists_cons_of_ne_nil hwhole.ne_nil
    obtain ⟨rfl, htail⟩ := List.cons.inj h
    obtain rfl := hwhole.leading digits rfl
    exact hrest mark (congrArg List.head? (show rest = mark :: more from htail))

theorem readNumber_negative {whole : Text} (hwhole : WholePart whole) :
    readNumber ('-' :: (whole ++ rest)) = readDecimal true (whole ++ rest) := by
  refine readNumber_decimal rfl (fun c more => isDigit_of_whole hwhole) fun mark more h => ?_
  exact absurd (List.cons.inj h).1 (by decide)

/-! ## Values without quotes -/

theorem readScalar_number {c : Char} {t : Text} (ht : c ≠ 't') (hf : c ≠ 'f') (hdouble : c ≠ '"')
    (hsingle : c ≠ '\'') (hmoment : afterMoment? (c :: t) = none) :
    readScalar (c :: t) = readNumber (c :: t) := by
  unfold readScalar
  split
  · next heq => exact absurd (List.cons.inj heq).1 ht
  · next heq => exact absurd (List.cons.inj heq).1 hf
  · next heq =>
    obtain ⟨rfl, rfl⟩ := List.cons.inj heq
    rw [if_neg (not_or.2 ⟨hdouble, hsingle⟩), hmoment]
  · next heq => cases heq

theorem readScalar_whole {whole : Text} (hwhole : WholePart whole)
    (hrest : ∀ c ∈ rest.head?, ¬ c.isDigit ∧ c ∉ ['-', ':', 'x', 'o', 'b']) :
    readScalar (whole ++ rest) = readDecimal false (whole ++ rest) := by
  have hmoment : afterMoment? (whole ++ rest) = none := by
    refine afterMoment?_row hwhole.isDigits fun c hc =>
      ⟨(hrest c hc).1, ?_, ?_⟩ <;> rintro rfl <;>
      exact (hrest _ hc).2 (by decide)
  obtain ⟨c, more, hcons⟩ : ∃ c more, whole ++ rest = c :: more :=
    List.exists_cons_of_ne_nil (List.append_ne_nil_of_left_ne_nil hwhole.ne_nil _)
  have hdigit := isDigit_of_whole hwhole hcons
  have hnumber : readScalar (whole ++ rest) = readNumber (whole ++ rest) := by
    rw [hcons] at hmoment ⊢
    refine readScalar_number ?_ ?_ ?_ ?_ hmoment <;> rintro rfl <;> exact absurd hdigit
      (by decide)
  rw [hnumber]
  refine readNumber_whole hwhole fun c hc => ⟨?_, ?_, ?_⟩ <;> rintro rfl <;>
    exact (hrest _ hc).2 (by decide)

/-- A whole number of at most 63 bits is read back. -/
theorem readScalar_ofNat {n : Nat} (hn : n < Nat.pow 2 63) (h : Stops rest) :
    readScalar (Text.ofNat n ++ rest) = some (int n, rest) := by
  rw [readScalar_whole (wholePart_ofNat n), readDecimal_ofNat hn h]
  intro c hc
  rcases h c hc with rfl | rfl | rfl <;> decide

theorem readScalar_word {c : Char} {t : Text} (hdigit : ¬ c.isDigit) (ht : c ≠ 't')
    (hf : c ≠ 'f') (hdouble : c ≠ '"') (hsingle : c ≠ '\'') :
    readScalar (c :: t) = readNumber (c :: t) := by
  refine readScalar_number ht hf hdouble hsingle (afterMoment?_of_head fun d hd => ?_)
  obtain rfl := Option.some.inj hd
  exact hdigit

/-- A floating-point number is read back. -/
theorem readScalar_real {x : Real64} (hx : x.IsStored) (h : Stops rest) :
    readScalar (x.text ++ rest) = some (real x, rest) := by
  cases x with
  | finite negative mantissa exponent =>
    obtain ⟨whole, fraction, htext, hwhole, hfraction, hvalue⟩ := Real64.exists_text negative hx
    rw [htext]
    cases negative with
    | false =>
      show readScalar ((whole ++ '.' :: fraction) ++ rest) = _
      rw [List.append_assoc, List.cons_append, readScalar_whole hwhole]
      · exact readDecimal_point hwhole hfraction hvalue Real64.noConfusion h
      · exact Text.forall_head_cons (by decide) (fraction ++ rest)
    | true =>
      show readScalar ('-' :: ((whole ++ '.' :: fraction) ++ rest)) = _
      rw [readScalar_word (by decide) (by decide) (by decide) (by decide) (by decide),
        List.append_assoc, List.cons_append, readNumber_negative hwhole]
      exact readDecimal_point hwhole hfraction hvalue Real64.noConfusion h
  | infinite negative =>
    cases negative with
    | false =>
      show readScalar ('i' :: 'n' :: 'f' :: rest) = _
      rw [readScalar_word (by decide) (by decide) (by decide) (by decide) (by decide)]
      rfl
    | true =>
      show readScalar ('-' :: 'i' :: 'n' :: 'f' :: rest) = _
      rw [readScalar_word (by decide) (by decide) (by decide) (by decide) (by decide)]
      rfl
  | nan =>
    show readScalar ('n' :: 'a' :: 'n' :: rest) = _
    rw [readScalar_word (by decide) (by decide) (by decide) (by decide) (by decide)]
    rfl

/-- A truth value is read back. -/
theorem readScalar_bool (b : Bool) (rest : Text) :
    readScalar (writeBool b ++ rest) = some (bool b, rest) := by
  cases b <;> rfl

end PlainLink.Toml
