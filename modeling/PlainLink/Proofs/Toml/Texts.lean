/-
# Texts in documents

Every text is read back from what is written for it, in whichever of the four kinds of
quotes that is.

In quotes on one line this is a matter of the single characters.  Between three quotes
it is not: a row of up to two quotes is part of the text; such a row may touch the
closing quotes, and then the reader takes it from behind them.  So the reading is
followed from row to row: a row in the middle of the text is short, and one at its end
is the end.  `WritesLong` is what may be written for a text row by row, with escapes and
without, and it is read back whichever way it came about (`WritesLong.readLong`).

Main statement: `readText_writeText`.
-/
import PlainLink.Proofs.Text.Percent
import PlainLink.Proofs.Toml.Numbers

namespace PlainLink.Toml

variable {rest : Text}

theorem Stops.ne_double (h : Stops rest) : ∀ c ∈ rest.head?, c ≠ '"' := by
  intro c hc
  rcases h c hc with rfl | rfl | rfl <;> decide

theorem Stops.ne_single (h : Stops rest) : ∀ c ∈ rest.head?, c ≠ '\'' := by
  intro c hc
  rcases h c hc with rfl | rfl | rfl <;> decide

/-! ## Escapes -/

theorem charOfHex?_of_lt : ∀ n < 128,
    charOfHex? ['0', '0', Text.hexDigit (n / 16), Text.hexDigit (n % 16)] =
      some (Char.ofNat n) := by
  decide

theorem exists_code {c : Char} (hc : c.toNat < 128) :
    ∃ code, escape c = '\\' :: code ∧ ∀ rest, escaped? (code ++ rest) = some (c, rest) := by
  unfold escape
  split
  case h_8 =>
    refine ⟨['u', '0', '0', Text.hexDigit (c.toNat / 16), Text.hexDigit (c.toNat % 16)], rfl,
      fun rest => ?_⟩
    show (charOfHex? ['0', '0', Text.hexDigit (c.toNat / 16),
        Text.hexDigit (c.toNat % 16)]).bind _ = _
    rw [charOfHex?_of_lt _ hc, Char.ofNat_toNat]
    rfl
  all_goals exact ⟨_, rfl, fun _ => rfl⟩

theorem toNat_lt_of_needsEscape {c : Char} (h : needsEscape c) : c.toNat < 128 := by
  unfold needsEscape at h
  simp only [Bool.or_eq_true, Bool.and_eq_true, decide_eq_true_eq, beq_iff_eq] at h
  rcases h with ⟨⟨hlow, -⟩, -⟩ | rfl
  · have hlow : c.toNat < 32 := hlow
    omega
  · decide

theorem isPlain_of_not_needsEscape {c : Char} (h : ¬ needsEscape c) (hline : c ≠ '\n') :
    isPlain c := by
  unfold needsEscape at h
  unfold isPlain
  simp only [Bool.or_eq_true, Bool.and_eq_true, decide_eq_true_eq, beq_iff_eq,
    bne_iff_ne, ne_eq] at h ⊢
  by_cases htab : c = '\t'
  · exact .inl htab
  · refine .inr ⟨?_, fun hdel => h (.inr hdel)⟩
    by_contra hlow
    exact h (.inl ⟨⟨Char.not_le.1 hlow, htab⟩, hline⟩)

/-- What `escaped` writes for one character: itself or an escape. -/
inductive Piece (most : Nat) (lines : Bool) (run : Nat) (c : Char) : Text → Nat → Prop where
  /-- A quote as it is makes the row longer. -/
  | quote (h : c = '"') (hrun : run < most) : Piece most lines run c [c] (run + 1)
  /-- An escape ends a row of quotes. -/
  | escape {code : Text} (h : ∀ rest, escaped? (code ++ rest) = some (c, rest)) :
    Piece most lines run c ('\\' :: code) 0
  /-- So does the end of a line. -/
  | line (h : c = '\n') (hlines : lines) : Piece most lines run c [c] 0
  /-- So does any other character. -/
  | plain (hquote : c ≠ '"') (hback : c ≠ '\\') (hline : c ≠ '\n') (hplain : isPlain c) :
    Piece most lines run c [c] 0

theorem exists_piece (most : Nat) (lines : Bool) (run : Nat) (c : Char) (t : Text) :
    ∃ piece after, escaped most lines run (c :: t) = piece ++ escaped most lines after t ∧
      Piece most lines run c piece after := by
  rw [escaped]
  split
  · next hquote =>
    split
    · next hrun => exact ⟨[c], run + 1, rfl, .quote hquote hrun⟩
    · obtain ⟨code, hcode, hread⟩ := exists_code (c := c) (by rw [hquote]; decide)
      exact ⟨'\\' :: code, 0, by rw [hcode], .escape hread⟩
  · next hquote =>
    split
    · next hescape =>
      obtain ⟨code, hcode, hread⟩ := exists_code (c := c) (by
        simp only [Bool.or_eq_true, Bool.and_eq_true, beq_iff_eq] at hescape
        rcases hescape with ((h | rfl) | rfl) | ⟨rfl, -⟩
        · exact toNat_lt_of_needsEscape h
        all_goals decide)
      exact ⟨'\\' :: code, 0, by rw [hcode], .escape hread⟩
    · next hescape =>
      simp only [Bool.or_eq_true, Bool.and_eq_true, beq_iff_eq, Bool.not_eq_true',
        not_or, not_and, Bool.not_eq_false] at hescape
      obtain ⟨⟨⟨hneeds, -⟩, hback⟩, hlines⟩ := hescape
      by_cases hline : c = '\n'
      · exact ⟨[c], 0, rfl, .line hline (hlines hline)⟩
      · exact ⟨[c], 0, rfl, .plain hquote hback hline (isPlain_of_not_needsEscape hneeds hline)⟩

theorem length_le_escaped (most : Nat) (lines : Bool) (run : Nat) (t : Text) :
    t.length ≤ (escaped most lines run t).length := by
  induction t generalizing run with
  | nil => exact Nat.zero_le _
  | cons c t ih =>
    obtain ⟨piece, after, hpiece, hkind⟩ := exists_piece most lines run c t
    have hne : 0 < piece.length := by
      cases hkind <;> exact Nat.succ_pos _
    rw [hpiece, List.length_append, List.length_cons]
    have htail := ih after
    omega

/-! ## One quote on each side -/

theorem readBasic_escaped {steps : Nat} {t : Text} (hsteps : t.length < steps) (run : Nat)
    (done rest : Text) :
    readBasic steps done (escaped 0 false run t ++ '"' :: rest) =
      some (done.reverse ++ t, rest) := by
  induction t generalizing steps run done with
  | nil =>
    obtain ⟨steps, rfl⟩ := Nat.exists_eq_add_one.2 (Nat.zero_lt_of_lt hsteps)
    rw [List.append_nil]
    rfl
  | cons c t ih =>
    obtain ⟨steps, rfl⟩ := Nat.exists_eq_add_one.2 (Nat.zero_lt_of_lt hsteps)
    obtain ⟨piece, after, hpiece, hkind⟩ := exists_piece 0 false run c t
    have hread : readBasic (steps + 1) done (piece ++ (escaped 0 false after t ++ '"' :: rest)) =
        readBasic steps (c :: done) (escaped 0 false after t ++ '"' :: rest) := by
      cases hkind with
      | quote h hrun => exact absurd hrun (Nat.not_lt_zero run)
      | escape h =>
        rw [List.cons_append, readBasic, h]
      | line h hlines => exact absurd hlines Bool.false_ne_true
      | plain hquote hback hline hplain =>
        rw [List.singleton_append, readBasic, if_pos hplain]
        · exact hquote
        · exact hback
    rw [hpiece, List.append_assoc, hread, ih (Nat.lt_of_succ_lt_succ hsteps), List.reverse_cons,
      List.append_assoc, List.singleton_append]

theorem readText_eq_readQuoted {t : Text} (hdouble : ∀ more, t ≠ '"' :: '"' :: '"' :: more)
    (hsingle : ∀ more, t ≠ '\'' :: '\'' :: '\'' :: more) : readText t = readQuoted t := by
  unfold readText
  split
  · exact absurd rfl (hdouble _)
  · exact absurd rfl (hsingle _)
  · rfl

theorem readText_basic (t : Text) (hrest : ∀ c ∈ rest.head?, c ≠ '"') :
    readText ('"' :: (escaped 0 false 0 t ++ '"' :: rest)) = some (t, rest) := by
  have hquotes : ∀ more, escaped 0 false 0 t ++ '"' :: rest ≠ '"' :: '"' :: more := by
    intro more h
    cases t with
    | nil => exact hrest '"' (congrArg List.head? (List.cons.inj h).2) rfl
    | cons c t =>
      obtain ⟨piece, after, hpiece, hkind⟩ := exists_piece 0 false 0 c t
      rw [hpiece] at h
      cases hkind with
      | quote _ hrun => exact absurd hrun (Nat.not_lt_zero 0)
      | escape _ => exact absurd (List.cons.inj h).1 (by decide)
      | line _ hlines => exact absurd hlines Bool.false_ne_true
      | plain hquote _ _ _ => exact hquote (List.cons.inj h).1
  have hread : readText ('"' :: (escaped 0 false 0 t ++ '"' :: rest)) =
      readQuoted ('"' :: (escaped 0 false 0 t ++ '"' :: rest)) :=
    readText_eq_readQuoted (fun more h => hquotes more (List.cons.inj h).2)
      (fun more h => absurd (List.cons.inj h).1 (by decide))
  have hsteps : t.length < (escaped 0 false 0 t ++ '"' :: rest).length + 1 := by
    have h := length_le_escaped 0 false 0 t
    rw [List.length_append]
    omega
  rw [hread]
  exact readBasic_escaped hsteps 0 [] rest

theorem readText_literal {t : Text} (hne : t ≠ []) (hplain : ∀ c ∈ t, c ≠ '\'' ∧ isPlain c) :
    readText ('\'' :: (t ++ '\'' :: rest)) = some (t, rest) := by
  have hread : readText ('\'' :: (t ++ '\'' :: rest)) =
      readQuoted ('\'' :: (t ++ '\'' :: rest)) := by
    refine readText_eq_readQuoted (fun more h => absurd (List.cons.inj h).1 (by decide))
      fun more h => ?_
    obtain ⟨c, t, rfl⟩ := List.exists_cons_of_ne_nil hne
    exact (hplain c List.mem_cons_self).1 (List.cons.inj (List.cons.inj h).2).1
  have hfree : ∀ c ∈ t, ¬ (c == '\'' || !isPlain c) := by
    intro c hc
    obtain ⟨hquote, hc⟩ := hplain c hc
    rw [beq_false_of_ne hquote, hc]
    decide
  have hcut : Text.cutBefore (fun c => c == '\'' || !isPlain c) (t ++ '\'' :: rest) =
      (t, '\'' :: rest) :=
    Text.cutBefore_of_free hfree (Text.forall_head_cons (by decide) rest)
  rw [hread]
  show readLiteral (t ++ '\'' :: rest) = _
  unfold readLiteral
  rw [hcut]
  rfl

/-! ## Rows of quotes -/

/-- The text is a row of quotes that leaves the row, `run` long already, with two at most. -/
def IsRow (quote : Char) (run : Nat) (t : Text) : Prop :=
  ∃ count, run + count ≤ 2 ∧ t = List.replicate count quote

/-- Whatever follows the text, the row of quotes in front of it leaves the
row with two at most. -/
def ShortRow (quote : Char) (run : Nat) (t : Text) : Prop :=
  ∀ rest : Text, run + ((t ++ rest).takeWhile (· == quote)).length ≤ 2

variable {quote : Char} {run : Nat} {t : Text}

theorem shortRow_of_ne {c : Char} (hc : c ≠ quote) (hrun : run ≤ 2) (t : Text) :
    ShortRow quote run (c :: t) := by
  intro rest
  rw [List.cons_append, List.takeWhile_cons_of_neg (by simpa using hc)]
  exact hrun

theorem ShortRow.cons (h : ShortRow quote (run + 1) t) : ShortRow quote run (quote :: t) := by
  intro rest
  rw [List.cons_append, List.takeWhile_cons_of_pos (by simp), List.length_cons]
  have h := h rest
  omega

theorem IsRow.cons (h : IsRow quote (run + 1) t) : IsRow quote run (quote :: t) := by
  obtain ⟨count, hcount, rfl⟩ := h
  exact ⟨count + 1, by omega, rfl⟩

theorem escaped_row (count : Nat) {run : Nat} (h : run + count ≤ 2) :
    escaped 2 true run (List.replicate count '"') = List.replicate count '"' := by
  induction count generalizing run with
  | zero => rfl
  | succ count ih =>
    rw [List.replicate_succ, escaped, if_pos rfl, if_pos (by omega), ih (by omega)]

/-- A text is a row of quotes, or what is written for it starts with a short one. -/
theorem isRow_or_escaped (hrun : run ≤ 2) (t : Text) :
    IsRow '"' run t ∨ ShortRow '"' run (escaped 2 true run t) := by
  induction t generalizing run with
  | nil => exact .inl ⟨0, hrun, rfl⟩
  | cons c t ih =>
    obtain ⟨piece, after, hpiece, hkind⟩ := exists_piece 2 true run c t
    rw [hpiece]
    cases hkind with
    | quote h hlt =>
      rw [h]
      exact (ih hlt).imp IsRow.cons ShortRow.cons
    | escape _ => exact .inr (shortRow_of_ne (by decide) hrun _)
    | line h _ =>
      rw [h]
      exact .inr (shortRow_of_ne (by decide) hrun _)
    | plain hquote _ _ _ => exact .inr (shortRow_of_ne hquote hrun _)

theorem isRow_or_short (h : longestRun quote run t ≤ 2) :
    IsRow quote run t ∨ ShortRow quote run t := by
  induction t generalizing run with
  | nil => exact .inl ⟨0, h, rfl⟩
  | cons c t ih =>
    rw [longestRun] at h
    split at h
    · next hc =>
      rw [hc]
      exact (ih h).imp IsRow.cons ShortRow.cons
    · next hc => exact .inr (shortRow_of_ne hc (le_trans (le_max_left _ _) h) t)

theorem longestRun_le_of_ne {c : Char} (hc : c ≠ quote) (h : longestRun quote run (c :: t) ≤ 2) :
    longestRun quote 0 t ≤ 2 := by
  rw [longestRun, if_neg hc] at h
  exact le_trans (le_max_right _ _) h

theorem ne_of_longestRun (h : longestRun quote run t = 0) : ∀ c ∈ t, c ≠ quote := by
  have hle : ∀ (t : Text) (run : Nat), run ≤ longestRun quote run t := by
    intro t
    induction t with
    | nil => exact fun run => le_rfl
    | cons d t ih =>
      intro run
      rw [longestRun]
      split
      · exact (Nat.le_succ run).trans (ih (run + 1))
      · exact le_max_left _ _
  induction t generalizing run with
  | nil => exact fun c hc => absurd hc List.not_mem_nil
  | cons d t ih =>
    rw [longestRun] at h
    split at h
    · exact absurd ((hle t (run + 1)).trans_eq h) (Nat.not_succ_le_zero run)
    · next hd =>
      intro c hc
      rcases List.mem_cons.1 hc with rfl | hc
      · exact hd
      · exact ih (Nat.le_zero.1 (h ▸ le_max_right _ _)) c hc

/-! ## Three quotes on each side -/

section Steps

variable {escapes : Bool} {steps : Nat} {done : Text}

theorem readLong_row (ht : IsRow quote 0 t) (hrest : ∀ c ∈ rest.head?, c ≠ quote) :
    readLong quote escapes (steps + 1) done (t ++ (List.replicate 3 quote ++ rest)) =
      some (done.reverse ++ t, rest) := by
  obtain ⟨count, hcount, rfl⟩ := ht
  rw [← List.append_assoc, List.replicate_append_replicate]
  have hrow : ((List.replicate (count + 3) quote ++ rest).takeWhile (· == quote)) =
      List.replicate (count + 3) quote :=
    Text.takeWhile_front (fun c hc => by simp [List.eq_of_mem_replicate hc])
      fun c hc => by simpa using hrest c hc
  have hcons : List.replicate (count + 3) quote ++ rest =
      quote :: (List.replicate (count + 2) quote ++ rest) :=
    rfl
  rw [hcons, readLong, if_pos rfl, ← hcons, hrow, List.length_replicate, min_eq_left (by omega)]
  dsimp only
  rw [if_neg (by omega), Nat.add_sub_cancel, List.drop_left' (List.length_replicate ..)]

theorem readLong_quote (h : ((quote :: rest).takeWhile (· == quote)).length ≤ 2) :
    readLong quote escapes (steps + 1) done (quote :: rest) =
      readLong quote escapes steps (quote :: done) rest := by
  rw [readLong, if_pos rfl]
  dsimp only
  rw [if_pos (by omega)]

theorem continued?_of_escaped? {t : Text} {found : Char × Text} (h : escaped? t = some found) :
    continued? t = none := by
  unfold escaped? at h
  split at h
  case h_10 => cases h
  all_goals rfl

theorem readLong_escape {c : Char} {code : Text} (hquote : quote ≠ '\\')
    (h : escaped? (code ++ rest) = some (c, rest)) :
    readLong quote true (steps + 1) done ('\\' :: (code ++ rest)) =
      readLong quote true steps (c :: done) rest := by
  rw [readLong, if_neg (Ne.symm hquote), if_pos (show (true && '\\' == '\\') = true from rfl),
    continued?_of_escaped? h, h]

theorem readLong_line (hquote : quote ≠ '\n') :
    readLong quote escapes (steps + 1) done ('\n' :: rest) =
      readLong quote escapes steps ('\n' :: done) rest := by
  rw [readLong, if_neg (Ne.symm hquote), if_neg (by simp)]
  rfl

theorem newline?_of_ne {c : Char} {t : Text} (hline : c ≠ '\n') (hreturn : c ≠ '\r') :
    newline? (c :: t) = none := by
  unfold newline?
  split
  · next h => exact absurd (List.cons.inj h).1 hline
  · next h => exact absurd (List.cons.inj h).1 hreturn
  · rfl

theorem ne_return_of_isPlain {c : Char} (h : isPlain c) : c ≠ '\r' := by
  rintro rfl
  exact absurd h (by decide)

theorem readLong_plain {c : Char} (hquote : c ≠ quote) (hback : escapes → c ≠ '\\')
    (hline : c ≠ '\n') (hplain : isPlain c) :
    readLong quote escapes (steps + 1) done (c :: rest) =
      readLong quote escapes steps (c :: done) rest := by
  have hescape : ¬ (escapes && c == '\\') = true := by
    intro h
    rw [Bool.and_eq_true, beq_iff_eq] at h
    exact hback h.1 h.2
  rw [readLong, if_neg hquote, if_neg hescape,
    newline?_of_ne hline (ne_return_of_isPlain hplain)]
  exact if_pos hplain

end Steps

/-- What can be written between three quotes for a text, row by row. -/
inductive WritesLong (quote : Char) (escapes : Bool) : (written t : Text) → Prop where
  /-- A row of quotes that is the end. -/
  | row {t : Text} (h : IsRow quote 0 t) : WritesLong quote escapes t t
  /-- A quote of a short row. -/
  | quote {written t : Text} (hshort : ShortRow quote 0 (quote :: written))
      (h : WritesLong quote escapes written t) :
    WritesLong quote escapes (quote :: written) (quote :: t)
  /-- An escape, where there are some. -/
  | escape {c : Char} {code written t : Text} (hescapes : escapes = true)
    (hcode : ∀ rest, escaped? (code ++ rest) = some (c, rest))
      (h : WritesLong quote escapes written t) :
    WritesLong quote escapes ('\\' :: (code ++ written)) (c :: t)
  /-- The end of a line. -/
  | line {written t : Text} (h : WritesLong quote escapes written t) :
    WritesLong quote escapes ('\n' :: written) ('\n' :: t)
  /-- Any other character. -/
  | plain {c : Char} {written t : Text} (hquote : c ≠ quote) (hback : escapes → c ≠ '\\')
      (hline : c ≠ '\n')
    (hplain : isPlain c) (h : WritesLong quote escapes written t) :
    WritesLong quote escapes (c :: written) (c :: t)

/-- What is written for a text between three quotes is read back. -/
theorem WritesLong.readLong {escapes : Bool} {written t : Text}
    (h : WritesLong quote escapes written t) (hline : quote ≠ '\n') (hback : quote ≠ '\\')
    (hrest : ∀ c ∈ rest.head?, c ≠ quote) {steps : Nat}
    (hsteps : t.length < steps) (done : Text) :
    readLong quote escapes steps done (written ++ (List.replicate 3 quote ++ rest)) =
      some (done.reverse ++ t, rest) := by
  induction h generalizing steps done with
  | row h =>
    obtain ⟨steps, rfl⟩ := Nat.exists_eq_add_one.2 (Nat.zero_lt_of_lt hsteps)
    exact readLong_row h hrest
  | quote hshort _ ih =>
    obtain ⟨steps, rfl⟩ := Nat.exists_eq_add_one.2 (Nat.zero_lt_of_lt hsteps)
    have hrow := hshort (List.replicate 3 quote ++ rest)
    rw [Nat.zero_add, List.cons_append] at hrow
    rw [List.cons_append, readLong_quote hrow, ih (Nat.lt_of_succ_lt_succ hsteps),
      List.reverse_cons, List.append_assoc, List.singleton_append]
  | escape hescapes hcode _ ih =>
    obtain ⟨steps, rfl⟩ := Nat.exists_eq_add_one.2 (Nat.zero_lt_of_lt hsteps)
    subst hescapes
    rw [List.cons_append, List.append_assoc, readLong_escape hback (hcode _),
      ih (Nat.lt_of_succ_lt_succ hsteps), List.reverse_cons, List.append_assoc,
        List.singleton_append]
  | line _ ih =>
    obtain ⟨steps, rfl⟩ := Nat.exists_eq_add_one.2 (Nat.zero_lt_of_lt hsteps)
    rw [List.cons_append, readLong_line hline, ih (Nat.lt_of_succ_lt_succ hsteps),
      List.reverse_cons, List.append_assoc, List.singleton_append]
  | plain hquote hescape hend hplain _ ih =>
    obtain ⟨steps, rfl⟩ := Nat.exists_eq_add_one.2 (Nat.zero_lt_of_lt hsteps)
    rw [List.cons_append, readLong_plain hquote hescape hend hplain,
      ih (Nat.lt_of_succ_lt_succ hsteps), List.reverse_cons, List.append_assoc,
        List.singleton_append]

theorem ShortRow.weaken (h : ShortRow quote run t) : ShortRow quote 0 t := by
  intro rest
  rw [Nat.zero_add]
  exact le_trans (Nat.le_add_left _ run) (h rest)

theorem IsRow.weaken (h : IsRow quote run t) : IsRow quote 0 t := by
  obtain ⟨count, hcount, rfl⟩ := h
  exact ⟨count, by omega, rfl⟩

theorem writesLong_escaped (t : Text) {run : Nat} (hrun : run ≤ 2) :
    WritesLong '"' true (escaped 2 true run t) t := by
  induction t generalizing run with
  | nil => exact .row ⟨0, Nat.zero_le 2, rfl⟩
  | cons c t ih =>
    rcases isRow_or_escaped hrun (c :: t) with hrow | hshort
    · have hend : WritesLong '"' true (c :: t) (c :: t) := .row hrow.weaken
      obtain ⟨count, hcount, hrow⟩ := hrow
      rw [hrow] at hend ⊢
      rwa [escaped_row count hcount]
    · obtain ⟨piece, after, hpiece, hkind⟩ := exists_piece 2 true run c t
      rw [hpiece] at hshort ⊢
      cases hkind with
      | quote h hlt =>
        rw [h] at hshort ⊢
        exact .quote hshort.weaken (ih hlt)
      | escape h => exact .escape rfl h (ih (Nat.zero_le 2))
      | line h _ =>
        rw [h]
        exact .line (ih (Nat.zero_le 2))
      | plain hquote hback hline hplain =>
        exact .plain hquote (fun _ => hback) hline hplain (ih (Nat.zero_le 2))

/-- A text without long rows of quotes and without what needs an escape can stand as it is. -/
theorem writesLong_raw {t : Text} (hrow : longestRun quote run t ≤ 2)
    (hplain : ∀ c ∈ t, ¬ needsEscape c) :
    WritesLong quote false t t := by
  induction t generalizing run with
  | nil => exact .row ⟨0, Nat.zero_le 2, rfl⟩
  | cons c t ih =>
    have htail : ∀ d ∈ t, ¬ needsEscape d := fun d hd => hplain d (List.mem_cons_of_mem c hd)
    rcases isRow_or_short hrow with hend | hshort
    · exact .row hend.weaken
    · by_cases hc : c = quote
      · rw [hc] at hrow hshort ⊢
        rw [longestRun, if_pos rfl] at hrow
        exact .quote hshort.weaken (ih hrow htail)
      · have hmore := ih (longestRun_le_of_ne hc hrow) htail
        by_cases hline : c = '\n'
        · rw [hline]
          exact .line hmore
        · exact .plain hc (fun h => absurd h Bool.false_ne_true) hline
            (isPlain_of_not_needsEscape (hplain c List.mem_cons_self) hline) hmore

/-- The end of the line in front of a text of several lines does not count. -/
theorem readLines_opening (quote : Char) (escapes : Bool) {t body : Text}
    (hbody : ¬ t.contains '\n' → ∀ c ∈ body.head?, c ≠ '\n' ∧ c ≠ '\r') :
    ∃ steps, body.length < steps ∧
      readLines quote escapes ((if t.contains '\n' then ['\n'] else []) ++ body) =
        readLong quote escapes steps [] body := by
  split
  · exact ⟨body.length + 2, by omega, rfl⟩
  · next hline =>
    refine ⟨body.length + 1, Nat.lt_succ_self _, ?_⟩
    have hnone : newline? body = none := by
      cases body with
      | nil => rfl
      | cons c body =>
        obtain ⟨hc, hreturn⟩ := hbody hline c rfl
        exact newline?_of_ne hc hreturn
    rw [List.nil_append, readLines, hnone]
    rfl

/-! ## All texts -/

theorem ne_line_of_not_contains {t : Text} (h : ¬ t.contains '\n') : ∀ c ∈ t, c ≠ '\n' := by
  rintro c hc rfl
  exact h (List.contains_iff_mem.2 hc)

theorem not_needsEscape_of_any {t : Text} (h : t.any needsEscape = false) :
    ∀ c ∈ t, ¬ needsEscape c := by
  intro c hc hneeds
  exact Bool.false_ne_true (h ▸ List.any_eq_true.2 ⟨c, hc, hneeds⟩)

theorem plain_of_literal {t : Text} (h : quotesFor t = .literal) :
    t ≠ [] ∧ ∀ c ∈ t, c ≠ '\'' ∧ isPlain c := by
  refine ⟨?_, ?_⟩
  · rintro rfl
    exact absurd h (by decide)
  · unfold quotesFor at h
    dsimp only at h
    split at h
    · cases h
    split at h
    · next hplain =>
      simp only [Bool.and_eq_true, Bool.not_eq_true', decide_eq_true_eq] at hplain
      obtain ⟨⟨hcontrols, hsingles⟩, hlines⟩ := hplain
      intro c hc
      have hline := ne_line_of_not_contains (by simpa using hlines) c hc
      exact ⟨ne_of_longestRun hsingles c hc,
        isPlain_of_not_needsEscape (not_needsEscape_of_any hcontrols c hc) hline⟩
    split at h
    · cases h
    split at h
    · cases h
    split at h <;> cases h

theorem plain_of_longLiteral {t : Text} (h : quotesFor t = .longLiteral) :
    longestRun '\'' 0 t ≤ 2 ∧ ∀ c ∈ t, ¬ needsEscape c := by
  unfold quotesFor at h
  dsimp only at h
  split at h
  · cases h
  split at h
  · cases h
  split at h
  · cases h
  split at h
  · next hplain =>
    simp only [Bool.and_eq_true, Bool.not_eq_true', decide_eq_true_eq] at hplain
    obtain ⟨hcontrols, hsingles⟩ := hplain
    exact ⟨hsingles, not_needsEscape_of_any hcontrols⟩
  split at h <;> cases h

theorem readText_longBasic (t : Text) (hrest : ∀ c ∈ rest.head?, c ≠ '"') :
    readText (longOpening '"' t ++ (escaped 2 true 0 t ++ (List.replicate 3 '"' ++ rest))) =
      some (t, rest) := by
  have hhead : ¬ t.contains '\n' →
      ∀ c ∈ (escaped 2 true 0 t ++ (List.replicate 3 '"' ++ rest)).head?,
        c ≠ '\n' ∧ c ≠ '\r' := by
    intro hline c hc
    cases t with
    | nil =>
      obtain rfl := Option.some.inj hc
      decide
    | cons d t =>
      obtain ⟨piece, after, hpiece, hkind⟩ := exists_piece 2 true 0 d t
      rw [hpiece] at hc
      cases hkind with
      | quote h _ =>
        obtain rfl := Option.some.inj hc
        rw [h]
        decide
      | escape _ =>
        obtain rfl := Option.some.inj hc
        decide
      | line h _ => exact absurd h (ne_line_of_not_contains hline d List.mem_cons_self)
      | plain _ _ hne hplain =>
        obtain rfl := Option.some.inj hc
        exact ⟨hne, ne_return_of_isPlain hplain⟩
  obtain ⟨steps, hsteps, hread⟩ := readLines_opening '"' true hhead
  have hlength : t.length < steps := by
    have h := length_le_escaped 2 true 0 t
    rw [List.length_append] at hsteps
    omega
  rw [longOpening, List.append_assoc]
  exact hread.trans
    ((writesLong_escaped t (Nat.zero_le 2)).readLong (by decide) (by decide) hrest hlength [])

theorem readText_longLiteral {t : Text} (hrow : longestRun '\'' 0 t ≤ 2)
    (hplain : ∀ c ∈ t, ¬ needsEscape c) (hrest : ∀ c ∈ rest.head?, c ≠ '\'') :
    readText (longOpening '\'' t ++ (t ++ (List.replicate 3 '\'' ++ rest))) =
      some (t, rest) := by
  have hhead : ¬ t.contains '\n' →
      ∀ c ∈ (t ++ (List.replicate 3 '\'' ++ rest)).head?, c ≠ '\n' ∧ c ≠ '\r' := by
    intro hline c hc
    cases t with
    | nil =>
      obtain rfl := Option.some.inj hc
      decide
    | cons d t =>
      obtain rfl := Option.some.inj hc
      refine ⟨ne_line_of_not_contains hline d List.mem_cons_self, ?_⟩
      rintro rfl
      exact hplain '\r' List.mem_cons_self (by decide)
  obtain ⟨steps, hsteps, hread⟩ := readLines_opening '\'' false hhead
  have hlength : t.length < steps := by
    rw [List.length_append] at hsteps
    omega
  rw [longOpening, List.append_assoc]
  exact hread.trans
    ((writesLong_raw hrow hplain).readLong (by decide) (by decide) hrest hlength [])

/-- A text is read back from what is written for it, in front of anything but another quote. -/
theorem readText_writeText (t : Text) (h : Stops rest) :
    readText (writeText t ++ rest) = some (t, rest) := by
  unfold writeText
  split
  · rw [List.append_assoc, List.cons_append]
    exact readText_basic t h.ne_double
  · next hquotes =>
    obtain ⟨hne, hplain⟩ := plain_of_literal hquotes
    rw [List.append_assoc, List.cons_append]
    exact readText_literal hne hplain
  · rw [List.append_assoc, List.append_assoc]
    exact readText_longBasic t h.ne_double
  · next hquotes =>
    obtain ⟨hrow, hplain⟩ := plain_of_longLiteral hquotes
    rw [List.append_assoc, List.append_assoc]
    exact readText_longLiteral hrow hplain h.ne_single

end PlainLink.Toml
