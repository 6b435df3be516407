/-
# Responses one behind the other

What a server sends before the body can be several responses: preliminary ones, and the
one that counts.  Each is a block of lines: a status line, field lines, and a blank
line.  Whatever was read before, the first line of a block makes the reader forget it,
so that of all the blocks only the last one leaves fields.

A `Block` carries what keeps its lines apart: the status line begins with the mark of
one, the names of its fields have no colon and do not make their lines look like a
status line, and the blank line is blank.  The values may be anything, colons, blanks
and the ends of lines included.

Main statement: `ofLines_blocks`.
-/
import PlainLink.Http.Headers

namespace PlainLink

namespace Headers

/-! ## The lines of a response -/

/-- What a status line begins with. -/
def statusMark : Text :=
  "HTTP/".toList

/-- A line that gives a value to a name.  The name has no colon, which would end it, no blank
in front, and does not make the line a status line. -/
structure FieldLine where
  name : Text
  value : Text
  colonless : ':' ∉ name
  unindented : ∀ c ∈ name.head?, ¬ Text.isBlank c
  unmarked : ¬ statusMark <+: name

namespace FieldLine

/-- The line as it is sent.  The value may have colons and blanks anywhere, the end of
the line among them. -/
def text (f : FieldLine) : Text :=
  f.name ++ ':' :: f.value

def field (f : FieldLine) : Text × Text :=
  (Text.trim f.name, Text.trim f.value)

theorem trim_text (f : FieldLine) : Text.trim f.text = f.name ++ ':' :: Text.trimEnd f.value :=
  Text.trim_append_cons f.unindented (by decide) f.value

/-- A field line does not look like a status line: the mark has no colon, so it
would stand in the name. -/
theorem not_isPrefix (f : FieldLine) (t : Text) : ¬ statusMark <+: f.name ++ ':' :: t := by
  intro hmark
  rcases Nat.le_total statusMark.length f.name.length with hlong | hshort
  · exact f.unmarked (List.prefix_of_prefix_length_le hmark (List.prefix_append f.name _) hlong)
  · have hname : f.name <+: statusMark :=
      List.prefix_of_prefix_length_le (List.prefix_append f.name _) hmark hshort
    obtain ⟨rest, hrest⟩ := hname
    obtain ⟨more, hmore⟩ := hmark
    rw [← hrest, List.append_assoc, List.append_cancel_left_eq] at hmore
    cases rest with
    | nil =>
      rw [List.append_nil] at hrest
      exact f.unmarked (hrest ▸ List.prefix_rfl)
    | cons c rest =>
      have hcolon : c = ':' := (List.cons.inj hmore).1
      have hmem : ':' ∈ statusMark := by
        rw [← hrest, ← hcolon]
        exact List.mem_append_right _ List.mem_cons_self
      revert hmem
      decide

theorem addLine_text (h : Headers) (f : FieldLine) : addLine h f.text = h ++ [f.field] := by
  have hmark : statusMark.isPrefixOf (f.name ++ ':' :: Text.trimEnd f.value) = false :=
    Bool.eq_false_iff.2 fun hmark => f.not_isPrefix _ (List.isPrefixOf_iff_prefix.1 hmark)
  have hcut := Text.splitFirst?_append f.colonless (Text.trimEnd f.value)
  unfold addLine
  rw [f.trim_text]
  show (if statusMark.isPrefixOf (f.name ++ ':' :: Text.trimEnd f.value) then _ else _) = _
  rw [hmark, hcut]
  show h ++ [(Text.trim f.name, Text.trim (Text.trimEnd f.value))] = h ++ [f.field]
  rw [Text.trim_trimEnd]
  rfl

end FieldLine

theorem addLine_of_status {line : Text} (hline : statusMark <+: line) (h : Headers) :
    addLine h line = [] := by
  obtain ⟨rest, rfl⟩ := hline
  have hfront : ∀ c ∈ "HTTP".toList.head?, ¬ Text.isBlank c :=
    Text.forall_head_cons (by decide) "TTP".toList
  have htrim : Text.trim (statusMark ++ rest) = statusMark ++ Text.trimEnd rest :=
    @Text.trim_append_cons "HTTP".toList '/' hfront (by decide) rest
  have hmark : statusMark.isPrefixOf (statusMark ++ Text.trimEnd rest) = true :=
    List.isPrefixOf_iff_prefix.2 (List.prefix_append statusMark _)
  unfold addLine
  rw [htrim]
  exact if_pos hmark

theorem addLine_of_blank {line : Text} (hline : ∀ c ∈ line, Text.isBlank c) (h : Headers) :
    addLine h line = h := by
  unfold addLine
  rw [Text.trim_of_all hline]
  rfl

/-! ## Blocks -/

/-- A response without its body. -/
structure Block where
  status : Text
  fields : List FieldLine
  blank : Text
  marked : statusMark <+: status
  isBlank : ∀ c ∈ blank, Text.isBlank c

namespace Block

/-- The lines of the response, in the order in which they are sent. -/
def lines (b : Block) : List Text :=
  b.status :: b.fields.map (·.text) ++ [b.blank]

/-- The fields of the response, in order. -/
def header (b : Block) : Headers :=
  b.fields.map (·.field)

theorem foldl_addLine_fields (h : Headers) (fields : List FieldLine) :
    (fields.map (·.text)).foldl addLine h = h ++ fields.map (·.field) := by
  induction fields generalizing h with
  | nil => exact (List.append_nil h).symm
  | cons f fields ih =>
    rw [List.map_cons, List.foldl_cons, f.addLine_text, ih, List.append_assoc]
    rfl

theorem foldl_addLine_lines (h : Headers) (b : Block) : b.lines.foldl addLine h = b.header := by
  show ((b.fields.map (·.text)) ++ [b.blank]).foldl addLine (addLine h b.status) = b.header
  rw [addLine_of_status b.marked, List.foldl_append, foldl_addLine_fields]
  exact addLine_of_blank b.isBlank _

end Block

/-- Of any number of responses the fields of the last one are read, in their order, with the
names and the values trimmed; without a response there are none. -/
theorem ofLines_blocks (blocks : List Block) :
    ofLines (blocks.flatMap (·.lines)) = (blocks.getLast?.map (·.header)).getD [] := by
  rcases List.eq_nil_or_concat blocks with rfl | ⟨earlier, last, rfl⟩
  · rfl
  · rw [List.concat_eq_append, List.flatMap_append, List.flatMap_singleton, ofLines,
      List.foldl_append, Block.foldl_addLine_lines, List.getLast?_concat]
    rfl

/-- A preliminary response, with a field that is to be forgotten. -/
def earlyHints : Block where
  status := "HTTP/1.1 103 Early Hints\r\n".toList
  fields :=
    [⟨"Set-Cookie".toList, " a=1\r\n".toList, by decide,
      Text.forall_head_cons (by decide) "et-Cookie".toList, by decide⟩]
  blank := "\r\n".toList
  marked := by decide
  isBlank := List.all_eq_true.1 (by decide)

/-- The response after it; the name of its field has a blank behind it,
and the value a colon. -/
def foundAfterHints : Block where
  status := "HTTP/1.1 302 Found\r\n".toList
  fields :=
    [⟨"Location ".toList, " http://a.example:8080/\r\n".toList, by decide,
      Text.forall_head_cons (by decide) "ocation ".toList, by decide⟩]
  blank := "\r\n".toList
  marked := by decide
  isBlank := List.all_eq_true.1 (by decide)

theorem ofLines_foundAfterHints :
    ofLines ["HTTP/1.1 103 Early Hints\r\n".toList, "Set-Cookie: a=1\r\n".toList, "\r\n".toList,
        "HTTP/1.1 302 Found\r\n".toList, "Location : http://a.example:8080/\r\n".toList,
        "\r\n".toList] =
      [("Location".toList, "http://a.example:8080/".toList)] :=
  (ofLines_blocks [earlyHints, foundAfterHints]).trans (by decide)

end Headers

end PlainLink
