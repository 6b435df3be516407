/-
# Values of documents

A value is written so that it is read back in front of whatever may stand behind one.
This is shown for the values that hold no others, and then for lists of them, which
stand on one line or on several.

The reader of values counts steps and nesting.  `Reads` asks for more steps than what is
written has characters, which is what the reader of a line provides.

Main statement: `reads_list`.
-/
import PlainLink.Proofs.Toml.Texts

namespace PlainLink.Toml

variable {rest written : Text} {value : Toml}

/-! ## Values that hold no others -/

/-- The value is read from what is written. -/
def ReadsScalar (written : Text) (value : Toml) : Prop :=
  ∀ rest, Stops rest → readScalar (written ++ rest) = some (value, rest)

theorem readsScalar_bool (b : Bool) : ReadsScalar (writeBool b) (bool b) :=
  fun rest _ => readScalar_bool b rest

theorem readsScalar_ofNat {n : Nat} (hn : n < Nat.pow 2 63) :
    ReadsScalar (Text.ofNat n) (int n) :=
  fun _ hrest => readScalar_ofNat hn hrest

theorem readsScalar_real {x : Real64} (hx : x.IsStored) : ReadsScalar x.text (real x) :=
  fun _ hrest => readScalar_real hx hrest

theorem readScalar_quoted {quote : Char} {t : Text} (h : quote = '"' ∨ quote = '\'') :
    readScalar (quote :: t) = (readText (quote :: t)).map fun (inner, rest) =>
      (text inner, rest) := by
  rcases h with rfl | rfl <;> rfl

theorem exists_quote (t : Text) : ∃ quote more, writeText t = quote :: more ∧
    (quote = '"' ∨ quote = '\'') := by
  unfold writeText
  split
  · exact ⟨'"', _, rfl, .inl rfl⟩
  · exact ⟨'\'', _, rfl, .inr rfl⟩
  · exact ⟨'"', _, rfl, .inl rfl⟩
  · exact ⟨'\'', _, rfl, .inr rfl⟩

theorem readsScalar_text (t : Text) : ReadsScalar (writeText t) (text t) := by
  intro rest hrest
  have hread := readText_writeText t hrest
  obtain ⟨quote, more, hquote, hkind⟩ := exists_quote t
  rw [hquote, List.cons_append] at hread ⊢
  rw [readScalar_quoted hkind, hread]
  rfl

/-- What opens other values, ends a list or fills the space between items. -/
def marks : Text :=
  ['[', '\x7b', ']', '#', ' ', '\t', '\n', '\r']

theorem readScalar_mark {c : Char} (hc : c ∈ marks) (t : Text) : readScalar (c :: t) = none := by
  simp only [marks, List.mem_cons, List.not_mem_nil, or_false] at hc
  rcases hc with rfl | rfl | rfl | rfl | rfl | rfl | rfl | rfl
  all_goals
    rw [readScalar_word (by decide) (by decide) (by decide) (by decide) (by decide)]
    rfl

theorem ReadsScalar.exists_head (h : ReadsScalar written value) :
    ∃ c more, written = c :: more ∧ c ∉ marks := by
  have hread := h [] fun c hc => nomatch hc
  rw [List.append_nil] at hread
  cases written with
  | nil => cases hread
  | cons c more =>
    refine ⟨c, more, rfl, fun hc => ?_⟩
    rw [readScalar_mark hc] at hread
    cases hread

/-! ## Values -/

/-- The value is read from what is written, in more steps than that has characters, where one
list may be opened. -/
def Reads (written : Text) (value : Toml) : Prop :=
  ∀ steps room rest, written.length < steps → Stops rest →
    readValue steps (room + 1) (written ++ rest) = some (value, rest)

theorem readValue_of_ne {c : Char} (hlist : c ≠ '[') (htable : c ≠ '\x7b')
    (steps room : Nat) (t : Text) :
    readValue (steps + 1) room (c :: t) = readScalar (c :: t) := by
  rw [readValue]
  · exact fun _ h _ => hlist (List.cons.inj h).1
  · exact fun _ h _ => htable (List.cons.inj h).1
  · exact fun _ _ h _ => hlist (List.cons.inj h).1
  · exact fun _ _ h _ => htable (List.cons.inj h).1

theorem readValue_scalar (h : ReadsScalar written value) (hrest : Stops rest)
    (steps room : Nat) :
    readValue (steps + 1) room (written ++ rest) = some (value, rest) := by
  have hread := h rest hrest
  obtain ⟨c, more, rfl, hc⟩ := h.exists_head
  have hlist : c ≠ '[' := by
    rintro rfl
    exact hc (by decide)
  have htable : c ≠ '\x7b' := by
    rintro rfl
    exact hc (by decide)
  rw [List.cons_append] at hread ⊢
  rw [readValue_of_ne hlist htable, hread]

theorem ReadsScalar.reads (h : ReadsScalar written value) : Reads written value := by
  intro steps room rest hsteps hrest
  obtain ⟨steps, rfl⟩ := Nat.exists_eq_add_one.2 (Nat.zero_lt_of_lt hsteps)
  exact readValue_scalar h hrest steps (room + 1)

/-! ## Lists -/

theorem dropFiller_of_not_mem {c : Char} (hc : c ∉ marks) (t : Text) :
    dropFiller false (c :: t) = c :: t := by
  have hne : ∀ mark ∈ marks, c ≠ mark := by
    rintro mark hmark rfl
    exact hc hmark
  have hspace : ¬ isSpace c := by
    rw [isSpace, Bool.or_eq_true, beq_iff_eq, beq_iff_eq, not_or]
    exact ⟨hne ' ' (by decide), hne '\t' (by decide)⟩
  rw [dropFiller, if_neg (hne '#' (by decide)), if_neg hspace]
  · exact fun _ h _ => hne '\r' (by decide) h
  · exact hne '\n' (by decide)

section Items

variable {steps room : Nat} {done : List Toml} {item : Toml} {t more : Text} {c : Char}

theorem readValue_list (h : dropFiller false t = c :: more) (hc : c ≠ ']') :
    readValue (steps + 1) (room + 1) ('[' :: t) = readItems steps room [] (c :: more) := by
  rw [readValue, h]
  split
  · next heq => exact absurd (List.cons.inj heq).1 hc
  · rfl

theorem readItems_last (h : readValue steps room t = some (item, ']' :: rest)) :
    readItems (steps + 1) room done t = some (array (item :: done).reverse, rest) := by
  rw [readItems, h]
  rfl

theorem dropFiller_comma (t : Text) : dropFiller false (',' :: t) = ',' :: t :=
  rfl

theorem readItems_end (h : readValue steps room t = some (item, ',' :: more))
    (hend : dropFiller false more = ']' :: rest) :
    readItems (steps + 1) room done t = some (array (item :: done).reverse, rest) := by
  rw [readItems, h]
  dsimp only
  rw [dropFiller_comma]
  split
  · next heq => exact absurd (List.cons.inj heq).1 (by decide)
  · next heq =>
    obtain rfl := (List.cons.inj heq).2
    rw [hend]
    rfl
  · next hother => exact absurd rfl (hother more)

theorem readItems_next {next : Text} (h : readValue steps room t = some (item, ',' :: more))
    (hnext : dropFiller false more = c :: next) (hc : c ≠ ']') :
    readItems (steps + 1) room done t = readItems steps room (item :: done) (c :: next) := by
  rw [readItems, h]
  dsimp only
  rw [dropFiller_comma]
  split
  · next heq => exact absurd (List.cons.inj heq).1 (by decide)
  · next heq =>
    obtain rfl := (List.cons.inj heq).2
    rw [hnext]
    split
    · next heq => exact absurd (List.cons.inj heq).1 hc
    · rfl
  · next hother => exact absurd rfl (hother more)

end Items

section Lists

variable {α : Type} {write : α → Text} {value : α → Toml}

def itemLine (item : Text) : Text :=
  "    ".toList ++ item ++ ",\n".toList

theorem dropFiller_itemLine {written : Text} {item : Toml}
    (h : ReadsScalar written item) (t : Text) :
    ∃ c more, written ++ (",\n".toList ++ t) = c :: more ∧ c ≠ ']' ∧
      dropFiller false ('\n' :: (itemLine written ++ t)) = c :: more := by
  obtain ⟨c, more, rfl, hc⟩ := h.exists_head
  refine ⟨c, more ++ (",\n".toList ++ t), rfl, ?_, ?_⟩
  · rintro rfl
    exact hc (by decide)
  · have hline :
        itemLine (c :: more) ++ t = "    ".toList ++ (c :: (more ++ (",\n".toList ++ t))) := by
      rw [itemLine, List.append_assoc, List.append_assoc, List.cons_append]
    rw [hline]
    exact dropFiller_of_not_mem hc _

theorem readItems_lines {a : α} {as : List α}
    (h : ∀ b ∈ a :: as, ReadsScalar (write b) (value b))
    {steps : Nat} (hsteps : as.length + 1 < steps) (room : Nat) (done : List Toml)
    (rest : Text) :
    readItems steps room done
        (write a ++ (",\n".toList ++ ((as.map write).flatMap itemLine ++ ']' :: rest))) =
      some (array (done.reverse ++ (a :: as).map value), rest) := by
  induction as generalizing a steps done with
  | nil =>
    obtain ⟨steps, rfl⟩ : ∃ n, steps = n + 2 :=
      ⟨steps - 2, by rw [List.length_nil] at hsteps; omega⟩
    have hread : readValue (steps + 1) room (write a ++ (",\n".toList ++ ']' :: rest)) =
        some (value a, ",\n".toList ++ ']' :: rest) :=
      readValue_scalar (h a List.mem_cons_self) (stops_comma _) steps room
    refine (readItems_end hread rfl).trans ?_
    rw [List.reverse_cons]
    rfl
  | cons b as ih =>
    rw [List.length_cons] at hsteps
    obtain ⟨steps, rfl⟩ : ∃ n, steps = n + 2 := ⟨steps - 2, by omega⟩
    have hread := readValue_scalar (h a List.mem_cons_self)
      (stops_comma ('\n' :: (((b :: as).map write).flatMap itemLine ++ ']' :: rest))) steps room
    obtain ⟨c, more, hcons, hc, hnext⟩ :=
      dropFiller_itemLine (h b (List.mem_cons_of_mem a List.mem_cons_self))
      ((as.map write).flatMap itemLine ++ ']' :: rest)
    rw [← List.append_assoc, ← List.flatMap_cons, ← List.map_cons] at hnext
    refine (readItems_next hread hnext hc).trans ?_
    rw [← hcons, ih (fun d hd => h d (List.mem_cons_of_mem a hd)) (by omega), List.reverse_cons,
      List.append_assoc]
    rfl

theorem length_le_flatMap_itemLine (items : List Text) :
    items.length ≤ (items.flatMap itemLine).length := by
  induction items with
  | nil => exact Nat.zero_le _
  | cons item items ih =>
    have hline : 0 < (itemLine item).length := by
      rw [itemLine, List.length_append, List.length_append]
      exact Nat.lt_of_lt_of_le (by decide) (Nat.le_add_left _ _)
    rw [List.flatMap_cons, List.length_append, List.length_cons]
    omega

theorem reads_empty : Reads (writeList []) (array []) := by
  intro steps room rest hsteps _
  obtain ⟨steps, rfl⟩ := Nat.exists_eq_add_one.2 (Nat.zero_lt_of_lt hsteps)
  show readValue (steps + 1) (room + 1) ('[' :: ']' :: rest) = _
  rw [readValue]
  rfl

theorem reads_single {written : Text} {item : Toml} (h : ReadsScalar written item) :
    Reads (writeList [written]) (array [item]) := by
  intro steps room rest hsteps _
  have hsteps : written.length + 2 < steps := by
    simpa [writeList] using hsteps
  obtain ⟨steps, rfl⟩ : ∃ n, steps = n + 3 := ⟨steps - 3, by omega⟩
  have hread := readValue_scalar h (stops_bracket rest) steps room
  obtain ⟨c, more, rfl, hc⟩ := h.exists_head
  have hbracket : c ≠ ']' := by
    rintro rfl
    exact hc (by decide)
  show readValue (steps + 3) (room + 1) ('[' :: ((c :: more ++ [']']) ++ rest)) = _
  rw [List.append_assoc]
  exact (readValue_list (dropFiller_of_not_mem hc _) hbracket).trans (readItems_last hread)

theorem reads_several {a b : α} {as : List α}
    (h : ∀ d ∈ a :: b :: as, ReadsScalar (write d) (value d)) :
    Reads (writeList ((a :: b :: as).map write)) (array ((a :: b :: as).map value)) := by
  intro steps room rest hsteps _
  have hwritten : writeList ((a :: b :: as).map write) =
      '[' :: '\n' :: (((a :: b :: as).map write).flatMap itemLine ++ [']']) :=
    rfl
  have hlength := length_le_flatMap_itemLine ((a :: b :: as).map write)
  rw [hwritten] at hsteps ⊢
  simp only [List.length_cons, List.length_append, List.length_map,
    List.length_nil] at hlength hsteps
  obtain ⟨steps, rfl⟩ := Nat.exists_eq_add_one.2 (Nat.zero_lt_of_lt hsteps)
  obtain ⟨c, more, hcons, hc, hfirst⟩ := dropFiller_itemLine (h a List.mem_cons_self)
    (((b :: as).map write).flatMap itemLine ++ ']' :: rest)
  rw [← List.append_assoc, ← List.flatMap_cons, ← List.map_cons] at hfirst
  show readValue (steps + 1) (room + 1)
    ('[' :: '\n' :: ((((a :: b :: as).map write).flatMap itemLine ++ [']']) ++ rest)) = _
  rw [List.append_assoc]
  refine (readValue_list hfirst hc).trans ?_
  rw [← hcons]
  exact readItems_lines h (by rw [List.length_cons]; omega) room [] rest

/-- A list of values that hold no others is read back. -/
theorem reads_list {as : List α} (h : ∀ a ∈ as, ReadsScalar (write a) (value a)) :
    Reads (writeList (as.map write)) (array (as.map value)) := by
  match as with
  | [] => exact reads_empty
  | [a] => exact reads_single (h a List.mem_cons_self)
  | a :: b :: as => exact reads_several h

end Lists

end PlainLink.Toml
