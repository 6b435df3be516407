/-
# What a cookie owes to the line that set it

A cookie keeps the hosts that it goes to from its line: the domain that the line names
last, or, if the line names none, the host that sent it (`ofLine?_eq_some`).  Its name
and value are two trimmed parts of the line without a semicolon, so that a list of
cookies in a header reads back as those cookies and no others (`pairs_join`).
-/
import PlainLink.Cookie.Jar

namespace PlainLink.Cookie

/-! ## The domain that a line names -/

/-- The domain that an attribute names, if it is about the domain. -/
def domainOf? (written : Text) : Option Text :=
  match Text.splitFirst? '=' written with
  | some (key, value) =>
    if Text.lower (Text.trim key) = "domain".toList ∧ Text.trim value ≠ [] then
      some (Text.lower ((Text.trim value).dropWhile (· == '.')))
    else none
  | none => none

/-- The domain that a line names: of several attributes the last one counts. -/
def namedDomain? (line : Text) : Option Text :=
  ((line.splitOn ';').tail.filterMap domainOf?).getLast?

theorem put_domain (a : Attributes) (name value : Text) :
    (a.put name value).domain =
      if name = "domain".toList ∧ value ≠ [] then some (Text.lower (value.dropWhile (· == '.')))
      else a.domain := by
  unfold Attributes.put
  by_cases hname : name = "domain".toList
  · cases value <;> simp [hname]
  · -- No other attribute touches the domain.
    have hother : ¬ (name = "domain".toList ∧ value ≠ []) := fun h => hname h.1
    rw [if_neg hname, if_neg hother]
    repeat' split
    all_goals rfl

theorem read_domain (a : Attributes) (written : Text) :
    (a.read written).domain = (domainOf? written).or a.domain := by
  unfold Attributes.read domainOf?
  cases Text.splitFirst? '=' written with
  | none =>
    dsimp only
    rw [put_domain, if_neg fun h => h.2 rfl]
    rfl
  | some pair =>
    dsimp only
    rw [put_domain]
    split <;> rfl

theorem foldl_read_domain (a : Attributes) (attributes : List Text) :
    (attributes.foldl Attributes.read a).domain =
      (attributes.filterMap domainOf?).getLast?.or a.domain := by
  induction attributes generalizing a with
  | nil => rfl
  | cons written attributes ih =>
    rw [List.foldl_cons, ih, read_domain]
    cases hnamed : domainOf? written with
    | none => simp [hnamed]
    | some domain =>
      cases hlast : (attributes.filterMap domainOf?).getLast? <;>
        simp [hnamed, List.getLast?_cons, hlast]

/-! ## The cookie of a line -/

theorem make?_eq_some {name value : Text} {a : Attributes} {origin : Url} {now : Instant}
    {c : Cookie} (h : make? name value a origin now = some c) :
    c.name = name ∧ c.value = value ∧
      (a.domain = none ∧ c.hostOnly ∧ c.domain = origin.host ∨
        a.domain = some c.domain ∧ ¬ c.hostOnly ∧ domainCovers c.domain origin.host) := by
  unfold make? at h
  dsimp only at h
  split at h
  · next hnone =>
    cases h
    exact ⟨rfl, rfl, .inl ⟨hnone, rfl, rfl⟩⟩
  · next domain hdomain =>
    split at h
    · next hcovers =>
      cases h
      exact ⟨rfl, rfl, .inr ⟨hdomain, Bool.false_ne_true, hcovers⟩⟩
    · cases h

/-- The hosts of a cookie and its text are those of its line. -/
theorem ofLine?_eq_some {line : Text} {origin : Url} {now : Instant} {c : Cookie}
    (h : ofLine? line origin now = some c) :
    (∃ name value, ';' ∉ name ++ '=' :: value ∧ Text.trim name ≠ [] ∧
      c.text = Text.trim name ++ '=' :: Text.trim value) ∧
    (namedDomain? line = none ∧ c.hostOnly ∧ c.domain = origin.host ∨
      namedDomain? line = some c.domain ∧ ¬ c.hostOnly ∧ domainCovers c.domain origin.host) := by
  unfold ofLine? at h
  split at h
  · cases h
  · next pair attributes hcut =>
    split at h
    · cases h
    · next name value hpair =>
      dsimp only at h
      split at h
      · cases h
      · next hname =>
        obtain ⟨rfl, -⟩ := Text.splitFirst?_eq_some hpair
        have hfree := Text.not_mem_of_mem_splitOn (hcut ▸ List.mem_cons_self)
        have hdomain : (attributes.foldl Attributes.read {}).domain = namedDomain? line := by
          rw [foldl_read_domain, namedDomain?, hcut]
          exact Option.or_none
        obtain ⟨hcname, hcvalue, hhosts⟩ := make?_eq_some h
        rw [hdomain] at hhosts
        refine ⟨⟨name, value, hfree, fun hnil => hname (by rw [hnil]; rfl), ?_⟩, hhosts⟩
        rw [text, hcname, hcvalue]

/-! ## Cookies in a header -/

/-- The cookies that the value of a header lists. -/
def pairs (value : Text) : List Text :=
  (value.splitOn ';').map Text.trim

/-- Between two semicolons a cookie is one piece, without blanks at its ends. -/
theorem text_of_ofLine? {line : Text} {origin : Url} {now : Instant} {c : Cookie}
    (h : ofLine? line origin now = some c) : ';' ∉ c.text ∧ Text.trim c.text = c.text := by
  obtain ⟨⟨name, value, hfree, hname, htext⟩, -⟩ := ofLine?_eq_some h
  rw [htext]
  constructor
  · have hpart : (Text.trim name ++ '=' :: Text.trim value).Sublist (name ++ '=' :: value) :=
      (Text.strip_sublist _ name).append ((Text.strip_sublist _ value).cons_cons '=')
    exact fun hmem => hfree (hpart.subset hmem)
  · apply Text.strip_eq_self
    · intro first hfirst
      rw [List.head?_append] at hfirst
      cases hhead : (Text.trim name).head? with
      | none => exact absurd (List.head?_eq_none_iff.1 hhead) hname
      | some c =>
        obtain rfl : c = first := by simpa [hhead] using hfirst
        exact Text.head_strip c hhead
    · intro last hlast
      rw [List.getLast?_append, List.getLast?_cons] at hlast
      cases hend : (Text.trim value).getLast? with
      | none =>
        obtain rfl : '=' = last := by simpa [hend] using hlast
        decide
      | some c =>
        obtain rfl : c = last := by simpa [hend] using hlast
        exact Text.getLast_strip c hend

/-- A list of cookies in a header reads back as those cookies. -/
theorem pairs_join {c : Cookie} {more : List Cookie}
    (hfree : ∀ d ∈ c :: more, ';' ∉ d.text ∧ Text.trim d.text = d.text) :
    pairs (Text.join "; ".toList ((c :: more).map text)) = (c :: more).map text := by
  have hpieces : ∀ t ∈ c.text :: more.map text, ';' ∉ t := by
    intro t ht
    obtain ⟨d, hd, rfl⟩ := List.mem_map.1 (show t ∈ (c :: more).map text from ht)
    exact (hfree d hd).1
  have hcut : (Text.join "; ".toList ((c :: more).map text)).splitOn ';' =
      c.text :: (more.map text).map ([' '] ++ ·) :=
    Text.splitOn_join (by decide) hpieces
  have hblank (t : Text) : Text.trim (' ' :: t) = Text.trim t := by
    rw [Text.trim, Text.strip, List.dropWhile_cons_of_pos (by decide)]
    rfl
  have htrim : ∀ d ∈ more, Text.trim ([' '] ++ d.text) = d.text := fun d hd =>
    (hblank d.text).trans (hfree d (List.mem_cons_of_mem c hd)).2
  rw [pairs, hcut, List.map_cons, (hfree c List.mem_cons_self).2, List.map_map, List.map_map,
    List.map_cons]
  exact congrArg (c.text :: ·) (List.map_congr_left htrim)

end PlainLink.Cookie
