/-
# Documents of sections

A document is written as sections with a blank line between them, each of them a header
and the lines of its keys.  The reader goes through it line by line: a header opens a
table behind those it has, the line of a key puts its entry behind those of the open
table, and a blank line changes nothing.

`Moves` says that a text takes the reader from one state of the document to another,
within as many steps as it has characters.  Each kind of line is one move, moves follow
each other, and the document is what all of them come to (`Moves.readAll`).

Main statement: `parse?_sections`.
-/
import PlainLink.Proofs.Toml.Values

namespace PlainLink.Toml

/-! ## Names -/

/-- The name can stand without quotes. -/
structure Bare (name : Text) : Prop where
  ne_nil : name ≠ []
  chars : ∀ c ∈ name, isBareChar c

def EndsName (rest : Text) : Prop :=
  ∀ c ∈ rest.head?, ¬ isBareChar c

variable {name rest : Text}

theorem Bare.head_ne (h : Bare name) {mark : Char} (hmark : ¬ isBareChar mark) :
    ∀ c ∈ (name ++ rest).head?, c ≠ mark := by
  rintro c hc rfl
  obtain ⟨d, more, rfl⟩ := List.exists_cons_of_ne_nil h.ne_nil
  obtain rfl := Option.some.inj hc
  exact hmark (h.chars d List.mem_cons_self)

theorem dropSpaces_of_head {t : Text} (h : ∀ c ∈ t.head?, c ≠ ' ' ∧ c ≠ '\t') :
    dropSpaces t = t := by
  cases t with
  | nil => rfl
  | cons c t =>
    obtain ⟨hspace, htab⟩ := h c rfl
    refine List.dropWhile_cons_of_neg ?_
    rw [isSpace, Bool.or_eq_true, beq_iff_eq, beq_iff_eq, not_or]
    exact ⟨hspace, htab⟩

theorem Bare.dropSpaces (h : Bare name) (rest : Text) :
    dropSpaces (name ++ rest) = name ++ rest :=
  dropSpaces_of_head fun c hc => ⟨h.head_ne (by decide) c hc, h.head_ne (by decide) c hc⟩

theorem readName_bare (h : Bare name) (hrest : EndsName rest) :
    readName (name ++ rest) = some (name, rest) := by
  have hquoted : readQuoted (name ++ rest) = none := by
    have hdouble : ∀ c ∈ (name ++ rest).head?, c ≠ '"' := h.head_ne (by decide)
    have hsingle : ∀ c ∈ (name ++ rest).head?, c ≠ '\'' := h.head_ne (by decide)
    generalize name ++ rest = t at hdouble hsingle
    unfold readQuoted
    split
    · exact absurd rfl (hdouble _ rfl)
    · exact absurd rfl (hsingle _ rfl)
    · rfl
  have hfront : (name ++ rest).takeWhile isBareChar = name :=
    Text.takeWhile_front h.chars fun c hc => by simpa using hrest c hc
  have hne : ¬ name.isEmpty := by
    rw [List.isEmpty_iff]
    exact h.ne_nil
  rw [readName, hquoted]
  dsimp only
  rw [hfront, if_neg hne, List.drop_left]

theorem readKey_bare (h : Bare name) (hrest : EndsName rest)
    (hdot : ∀ c ∈ (dropSpaces rest).head?, c ≠ '.') :
    readKey (name ++ rest) = some (([], name), dropSpaces rest) := by
  have hnames :
      readNames ((name ++ rest).length + 1) (name ++ rest) = some ([name], dropSpaces rest) := by
    rw [readNames, h.dropSpaces, readName_bare h hrest]
    dsimp only
    split
    · next heq => exact absurd rfl (hdot '.' (by rw [heq]; rfl))
    · rfl
  unfold readKey
  rw [hnames]
  rfl

/-! ## Tables -/

variable {value old : Toml} {entries : Entries}

theorem get?_of_fresh (h : ∀ entry ∈ entries, entry.1 ≠ name) : get? name entries = none := by
  rw [get?, Option.map_eq_none_iff, List.find?_eq_none]
  exact fun entry hentry heq => h entry hentry (beq_iff_eq.1 heq)

theorem get?_cons_self (name : Text) (value : Toml) (entries : Entries) :
    get? name ((name, value) :: entries) = some value := by
  simp [get?]

theorem get?_cons_of_ne {other : Text} (h : other ≠ name) (value : Toml) (entries : Entries) :
    get? name ((other, value) :: entries) = get? name entries := by
  simp [get?, h]

theorem put_of_fresh (h : ∀ entry ∈ entries, entry.1 ≠ name) :
    put name value entries = entries ++ [(name, value)] := by
  induction entries with
  | nil => rfl
  | cons entry entries ih =>
    obtain ⟨k, v⟩ := entry
    rw [put, if_neg (h (k, v) List.mem_cons_self),
      ih fun entry hentry => h entry (List.mem_cons_of_mem _ hentry)]
    rfl

theorem get?_last (h : ∀ entry ∈ entries, entry.1 ≠ name) :
    get? name (entries ++ [(name, value)]) = some value := by
  rw [← put_of_fresh h]
  exact get?_put name value entries

theorem put_last (h : ∀ entry ∈ entries, entry.1 ≠ name) :
    put name value (entries ++ [(name, old)]) = entries ++ [(name, value)] := by
  induction entries with
  | nil =>
    show (if name = name then _ else _) = _
    rw [if_pos rfl]
    rfl
  | cons entry entries ih =>
    obtain ⟨k, v⟩ := entry
    rw [List.cons_append, put, if_neg (h (k, v) List.mem_cons_self),
      ih fun entry hentry => h entry (List.mem_cons_of_mem _ hentry)]
    rfl

/-! ## Lines -/

/-- The line of a key: its name, what is written for its value, and the value. -/
structure KeyLine where
  name : String
  written : Text
  value : Toml

namespace KeyLine

def text (line : KeyLine) : Text :=
  writeEntry line.name line.written

def entry (line : KeyLine) : Text × Toml :=
  (line.name.toList, line.value)

structure WellFormed (line : KeyLine) : Prop where
  bare : Bare line.name.toList
  reads : Reads line.written line.value

end KeyLine

/-- A table with a header and the lines of its keys. -/
structure Section where
  name : String
  lines : List KeyLine

namespace Section

def text (s : Section) : Text :=
  writeTable s.name (s.lines.map (·.text))

def entry (s : Section) : Text × Toml :=
  (s.name.toList, table .header (s.lines.map (·.entry)))

/-- The section can be read: each of its keys stands once. -/
structure WellFormed (s : Section) : Prop where
  bare : Bare s.name.toList
  lines : ∀ line ∈ s.lines, line.WellFormed
  nodup : (s.lines.map (·.name)).Nodup

end Section

namespace Draft

variable {d d' d'' : Draft} {t t' : Text}

/-- The text takes the reader from one state of the document to another, with no more steps
than it has characters. -/
def Moves (d : Draft) (t : Text) (d' : Draft) : Prop :=
  ∃ used ≤ t.length, ∀ steps rest, readAll (used + steps) d (t ++ rest) = readAll steps d' rest

theorem Moves.refl (d : Draft) : Moves d [] d :=
  ⟨0, le_rfl, fun steps rest => by rw [Nat.zero_add, List.nil_append]⟩

theorem Moves.trans (h : Moves d t d') (h' : Moves d' t' d'') : Moves d (t ++ t') d'' := by
  obtain ⟨used, hused, hread⟩ := h
  obtain ⟨used', hused', hread'⟩ := h'
  refine ⟨used + used', ?_, fun steps rest => ?_⟩
  · rw [List.length_append]
    exact Nat.add_le_add hused hused'
  · rw [List.append_assoc, Nat.add_assoc, hread, hread']

theorem readAll_nil (steps : Nat) (d : Draft) : readAll steps d [] = some d.entries := by
  cases steps <;> rfl

/-- The document is what the whole text moves the reader to. -/
theorem Moves.readAll (h : Moves d t d') : readAll t.length d t = some d'.entries := by
  obtain ⟨used, hused, hread⟩ := h
  have hall := hread (t.length - used) []
  rwa [List.append_nil, Nat.add_sub_cancel' hused, readAll_nil] at hall

theorem moves_line (hne : t ≠ []) (hspace : ∀ c ∈ t.head?, c ≠ ' ' ∧ c ≠ '\t')
    (hread : ∀ rest, ∃ after, d.readLine (t ++ rest) = some (d', after) ∧
    endLine? after = some rest) :
    Moves d t d' := by
  refine ⟨1, List.length_pos_iff.2 hne, fun steps rest => ?_⟩
  obtain ⟨after, hline, hend⟩ := hread rest
  obtain ⟨c, t, rfl⟩ := List.exists_cons_of_ne_nil hne
  have hfront : dropSpaces (c :: t ++ rest) = c :: t ++ rest :=
    dropSpaces_of_head fun d hd => hspace d hd
  have hempty : ¬ (c :: t ++ rest).isEmpty := Bool.false_ne_true
  rw [Nat.add_comm, Draft.readAll, if_neg hempty, hfront, hline]
  dsimp only
  rw [hend]

theorem moves_blank (d : Draft) : Moves d ['\n'] d := by
  exact moves_line (List.cons_ne_nil _ _) (Text.forall_head_cons (by decide) [])
    fun rest => ⟨'\n' :: rest, rfl, rfl⟩

/-- The document so far, with the table behind the others open. -/
def within (tables : Entries) (name : Text) (entries : Entries) : Draft :=
  { entries := tables ++ [(name, table .header entries)], opened := [name] }

variable {tables : Entries}

theorem readLine_header (d : Draft) (hsecond : ∀ c ∈ t.head?, c ≠ '[') :
    d.readLine ('[' :: t) = d.readHeader openTable? [']'] t := by
  unfold readLine
  split
  · next heq =>
    obtain rfl := (List.cons.inj heq).2
    exact absurd rfl (hsecond _ rfl)
  · next heq =>
    obtain rfl := (List.cons.inj heq).2
    rfl
  · next hone heq => exact absurd (List.cons.inj heq).1.symm hone
  · next heq => cases heq

theorem moves_header {name : String} (hbare : Bare name.toList)
    (hfresh : ∀ entry ∈ d.entries, entry.1 ≠ name.toList) :
    Moves d ('[' :: name.toList ++ "]\n".toList) (within d.entries name.toList []) := by
  refine moves_line (List.cons_ne_nil _ _) (Text.forall_head_cons (by decide) _)
    fun rest => ⟨'\n' :: rest, ?_, rfl⟩
  have hkey : readKey (name.toList ++ ("]\n".toList ++ rest)) =
      some (([], name.toList), "]\n".toList ++ rest) :=
    readKey_bare hbare (Text.forall_head_cons (by decide) ('\n' :: rest))
      (Text.forall_head_cons (by decide) ('\n' :: rest))
  have hopen : openTable? name.toList d.entries =
      some (d.entries ++ [(name.toList, table .header [])]) := by
    rw [openTable?, get?_of_fresh hfresh]
    exact congrArg some (put_of_fresh hfresh)
  have hheader : d.readHeader openTable? [']'] (name.toList ++ ("]\n".toList ++ rest)) =
      some (within d.entries name.toList [], '\n' :: rest) := by
    unfold readHeader
    rw [hkey]
    show ((openTable? name.toList d.entries).map _).bind _ = _
    rw [hopen]
    rfl
  have hsecond : ∀ c ∈ (name.toList ++ ("]\n".toList ++ rest)).head?, c ≠ '[' :=
    hbare.head_ne (by decide)
  show d.readLine ('[' :: ((name.toList ++ "]\n".toList) ++ rest)) = _
  rw [List.append_assoc, readLine_header d hsecond, hheader]

theorem dropSpaces_reads {written : Text} {value : Toml} (h : Reads written value)
    (rest : Text) :
    dropSpaces (' ' :: (written ++ '\n' :: rest)) = written ++ '\n' :: rest := by
  have hhead : ∀ c ∈ (written ++ '\n' :: rest).head?, c ≠ ' ' ∧ c ≠ '\t' := by
    intro c hc
    cases written with
    | nil =>
      obtain rfl := Option.some.inj hc
      decide
    | cons d written =>
      obtain rfl := Option.some.inj hc
      have hread := h (written.length + 2) 0 [] (Nat.lt_succ_self _) fun c hc => nomatch hc
      constructor <;> rintro rfl <;>
        rw [List.cons_append, readValue_of_ne (by decide) (by decide),
          readScalar_mark (by decide)] at hread <;>
        cases hread
  exact dropSpaces_of_head hhead

theorem readLine_bare (d : Draft) {name : Text} (h : Bare name) (rest : Text) :
    d.readLine (name ++ rest) = d.readEntry (name ++ rest) := by
  have hbracket : ∀ c ∈ (name ++ rest).head?, c ≠ '[' := h.head_ne (by decide)
  have hcomment : ∀ c ∈ (name ++ rest).head?, c ≠ '#' := h.head_ne (by decide)
  have hline : ∀ c ∈ (name ++ rest).head?, c ≠ '\n' := h.head_ne (by decide)
  have hreturn : ∀ c ∈ (name ++ rest).head?, c ≠ '\r' := h.head_ne (by decide)
  have hne : name ++ rest ≠ [] := List.append_ne_nil_of_left_ne_nil h.ne_nil rest
  generalize name ++ rest = t at *
  unfold readLine
  split
  · exact absurd rfl (hbracket _ rfl)
  · exact absurd rfl (hbracket _ rfl)
  · exact if_neg (not_or.2 ⟨hcomment _ rfl, not_or.2 ⟨hline _ rfl, hreturn _ rfl⟩⟩)
  · exact absurd rfl hne

theorem add?_within {name key : Text} {value : Toml} {entries : Entries}
    (htables : ∀ entry ∈ tables, entry.1 ≠ name) (hfresh : ∀ entry ∈ entries, entry.1 ≠ key) :
    (within tables name entries).add? [] key value =
      some (within tables name (entries ++ [(key, value)])) := by
  have hkey : addKey? [] key value .header entries = some (entries ++ [(key, value)]) := by
    show (if (false || (get? key entries).isSome) = true then none
        else some (put key value entries)) = _
    rw [get?_of_fresh hfresh, put_of_fresh hfresh]
    rfl
  have hupdate : update? .header (addKey? [] key value) [name] .header
      (tables ++ [(name, table .header entries)]) =
        some (tables ++ [(name, table .header (entries ++ [(key, value)]))]) := by
    rw [update?, get?_last htables]
    show (addKey? [] key value .header entries).map _ = _
    rw [hkey]
    exact congrArg some (put_last htables)
  show (update? .header (addKey? [] key value) [name] .header
    (tables ++ [(name, table .header entries)])).map _ = _
  rw [hupdate]
  rfl

theorem moves_keyLine {name : Text} {entries : Entries} {line : KeyLine} (h : line.WellFormed)
    (htables : ∀ entry ∈ tables, entry.1 ≠ name)
    (hfresh : ∀ entry ∈ entries, entry.1 ≠ line.name.toList) :
    Moves (within tables name entries) line.text
      (within tables name (entries ++ [line.entry])) := by
  have htext : line.text = line.name.toList ++ (" = ".toList ++ (line.written ++ ['\n'])) := by
    rw [KeyLine.text, writeEntry, List.append_assoc, List.append_assoc]
  refine moves_line ?_ ?_ fun rest => ⟨'\n' :: rest, ?_, rfl⟩
  · rw [htext]
    exact List.append_ne_nil_of_left_ne_nil h.bare.ne_nil _
  · rw [htext]
    exact fun c hc => ⟨h.bare.head_ne (by decide) c hc, h.bare.head_ne (by decide) c hc⟩
  have hkey : readKey (line.name.toList ++ (" = ".toList ++ (line.written ++ '\n' :: rest))) =
      some (([], line.name.toList), '=' :: ' ' :: (line.written ++ '\n' :: rest)) :=
    readKey_bare h.bare
      (Text.forall_head_cons (by decide) ('=' :: ' ' :: (line.written ++ '\n' :: rest)))
      (Text.forall_head_cons (by decide) (' ' :: (line.written ++ '\n' :: rest)))
  have hvalue :
      readValue (2 * (' ' :: (line.written ++ '\n' :: rest)).length + 2) (nestingLimit - 1)
      (dropSpaces (' ' :: (line.written ++ '\n' :: rest))) =
        some (line.value, '\n' :: rest) := by
    rw [dropSpaces_reads h.reads]
    refine h.reads _ 78 _ ?_ (stops_line rest)
    rw [List.length_cons, List.length_append]
    omega
  have hentry : (within tables name entries).readEntry
      (line.name.toList ++ (" = ".toList ++ (line.written ++ '\n' :: rest))) =
        some (within tables name (entries ++ [line.entry]), '\n' :: rest) := by
    unfold readEntry
    rw [hkey]
    show (readValue (2 * (' ' :: (line.written ++ '\n' :: rest)).length + 2) (nestingLimit - 1)
      (dropSpaces (' ' :: (line.written ++ '\n' :: rest)))).bind _ = _
    rw [hvalue]
    show ((within tables name entries).add? [] line.name.toList line.value).bind _ = _
    rw [add?_within htables hfresh]
    rfl
  rw [htext, List.append_assoc, List.append_assoc, List.append_assoc, readLine_bare _ h.bare]
  exact hentry

theorem moves_keyLines {name : Text} {entries : Entries} {lines : List KeyLine}
    (h : ∀ line ∈ lines, line.WellFormed) (hnodup : (lines.map (·.name)).Nodup)
    (htables : ∀ entry ∈ tables, entry.1 ≠ name)
    (hfresh : ∀ line ∈ lines, ∀ entry ∈ entries, entry.1 ≠ line.name.toList) :
    Moves (within tables name entries) (lines.map (·.text)).flatten
      (within tables name (entries ++ lines.map (·.entry))) := by
  induction lines generalizing entries with
  | nil =>
    rw [List.map_nil, List.map_nil, List.append_nil]
    exact .refl _
  | cons line lines ih =>
    obtain ⟨hline, hnodup⟩ := List.nodup_cons.1 hnodup
    have hfirst :=
      moves_keyLine (h line List.mem_cons_self) htables (hfresh line List.mem_cons_self)
    have hrest : ∀ next ∈ lines, ∀ entry ∈ entries ++ [line.entry],
        entry.1 ≠ next.name.toList := by
      intro next hnext entry hentry
      rcases List.mem_append.1 hentry with hentry | hentry
      · exact hfresh next (List.mem_cons_of_mem line hnext) entry hentry
      · obtain rfl := List.mem_singleton.1 hentry
        intro heq
        exact hline (List.mem_map.2 ⟨next, hnext, (String.toList_injective heq).symm⟩)
    have hmore := ih (fun next hnext => h next (List.mem_cons_of_mem line hnext)) hnodup hrest
    rw [List.append_assoc] at hmore
    exact hfirst.trans hmore

/-- A section puts its table behind those there are. -/
theorem moves_section {s : Section} (h : s.WellFormed)
    (hfresh : ∀ entry ∈ d.entries, entry.1 ≠ s.name.toList) :
    ∃ d', Moves d s.text d' ∧ d'.entries = d.entries ++ [s.entry] := by
  have hheader := moves_header h.bare hfresh
  have hlines : Moves (within d.entries s.name.toList []) _ _ :=
    moves_keyLines h.lines h.nodup hfresh fun line hline entry hentry => nomatch hentry
  exact ⟨_, hheader.trans hlines, rfl⟩

theorem moves_sections {sections : List Section} (h : ∀ s ∈ sections, s.WellFormed)
    (hnodup : (sections.map (·.name)).Nodup)
    (hfresh : ∀ s ∈ sections, ∀ entry ∈ d.entries, entry.1 ≠ s.name.toList) :
    ∃ d', Moves d (Text.join ['\n'] (sections.map (·.text))) d' ∧
      d'.entries = d.entries ++ sections.map (·.entry) := by
  induction sections generalizing d with
  | nil => exact ⟨d, .refl d, (List.append_nil _).symm⟩
  | cons s sections ih =>
    obtain ⟨hs, hnodup⟩ := List.nodup_cons.1 hnodup
    obtain ⟨d', hmoves, hentries⟩ :=
      moves_section (h s List.mem_cons_self) (hfresh s List.mem_cons_self)
    have hrest : ∀ next ∈ sections, ∀ entry ∈ d'.entries, entry.1 ≠ next.name.toList := by
      intro next hnext entry hentry
      rw [hentries] at hentry
      rcases List.mem_append.1 hentry with hentry | hentry
      · exact hfresh next (List.mem_cons_of_mem s hnext) entry hentry
      · obtain rfl := List.mem_singleton.1 hentry
        intro heq
        exact hs (List.mem_map.2 ⟨next, hnext, (String.toList_injective heq).symm⟩)
    obtain ⟨d'', hmore, hmoreEntries⟩ :=
      ih (fun next hnext => h next (List.mem_cons_of_mem s hnext)) hnodup hrest
    have hall : d''.entries = d.entries ++ (s :: sections).map (·.entry) := by
      rw [hmoreEntries, hentries, List.append_assoc]
      rfl
    cases sections with
    | nil => exact ⟨d', hmoves, hentries⟩
    | cons next sections => exact ⟨d'', (hmoves.trans (moves_blank d')).trans hmore, hall⟩

end Draft

/-- A document of sections is read as their tables. -/
theorem parse?_sections {sections : List Section} (h : ∀ s ∈ sections, s.WellFormed)
    (hnodup : (sections.map (·.name)).Nodup) :
    parse? (Text.join ['\n'] (sections.map (·.text))) = some (sections.map (·.entry)) := by
  obtain ⟨d, hmoves, hentries⟩ :=
    Draft.moves_sections (d := {}) h hnodup fun s hs entry hentry => nomatch hentry
  have hmark : Text.after? ['\uFEFF'] (Text.join ['\n'] (sections.map (·.text))) = none := by
    match sections with
    | [] => rfl
    | [s] => rfl
    | s :: next :: more => rfl
  rw [parse?, hmark]
  exact hmoves.readAll.trans (congrArg some hentries)

end PlainLink.Toml
