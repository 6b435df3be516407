/-
# Cleaning a URL inside a link

A URL that a link leads to is cleaned twice: escaped, as a field of the link, and then
by itself.  So what the first cleaning leaves must be cleaned to what the URL alone is
cleaned to.  The rules for every URL see the fields in both, but not alike:

  * the first field of an escaped URL has no separator in front of it that they know, so
    it is kept in the link and left to the second cleaning;
  * the value of an escaped field goes on over the fields behind it, so with the first
    field behind that one which they delete, all that follow go, be they deleted by
    themselves or not;
  * an exception that the URL falls under is not seen as long as the URL is escaped.

Of the fields behind the first one, those that the rules delete are therefore taken to
stand at the end, and if there are any, the URL is taken not to be an exception.  Then
the link leaves the URL with the fields in front of the first that tracks, and with the
ampersand of that one (`Destination.cut`).  By itself the URL keeps the ampersands of
all fields that were deleted.  So the two come out of the provider for every URL with
different texts, which differ in the ampersands at the end, and a pass through the other
providers leads from both to the same (`Destination.alike_cut`).

Main statement: `clean_wrapped`.
-/
import PlainLink.Proofs.Clean.Ampersands
import PlainLink.Proofs.Clean.Redirector

namespace PlainLink.Clean

open Bundled Pattern

/-! ## The URL that a link leads to -/

/-- A field as it is written in a query. -/
def writtenField (f : Text × Text) : Text :=
  f.1 ++ '=' :: f.2

/-- A URL with a list of fields, of which nothing needs an escape but the
marks between its parts. -/
structure Destination where
  scheme : Scheme
  host : Text
  path : Text
  first : Text × Text
  more : List (Text × Text)
  host_ne : host ≠ []
  host_small : ∀ c ∈ host, c.isLower || c.isDigit || c == '.'
  path_rooted : ∀ c ∈ path.head?, c = '/'
  path_plain : ∀ c ∈ path, c = '/' ∨ Text.isUnreserved c
  name_ne : ∀ f ∈ first :: more, f.1 ≠ []
  name_plain : ∀ f ∈ first :: more, ∀ c ∈ f.1, Text.isUnreserved c
  value_plain : ∀ f ∈ first :: more, ∀ c ∈ f.2, Text.isUnreserved c

/-- The text with everything escaped that needs it, as a link takes it. -/
def wrapped (t : Text) : Text :=
  link ++ Text.escape Text.isUnreserved t

namespace Destination

def url (t : Destination) : Url where
  scheme := t.scheme
  host := t.host
  writtenPort := none
  path := t.path
  query := Text.join ['&'] ((t.first :: t.more).map writtenField)
  fragment := []

def text (t : Destination) : Text :=
  t.scheme.text ++ "://".toList ++ t.host ++ t.path ++
    '?' :: Text.join ['&'] ((t.first :: t.more).map writtenField)

variable (t : Destination)

/-- The text up to the end of the first field. -/
def front : Text :=
  t.scheme.text ++ "://".toList ++ t.host ++ t.path ++ '?' :: writtenField t.first

/-- The URL with another text in the place of the fields behind the first. -/
def withRest (rest : Text) : Url :=
  { t.url with query := writtenField t.first ++ rest }

theorem url_eq : t.url = t.withRest (t.more.flatMap fun f => '&' :: writtenField f) := by
  rw [withRest, url, List.map_cons, join_ampersand, List.flatMap_map]

theorem text_of_query {query : Text} (hne : query ≠ []) :
    ({ t.url with query } : Url).text =
      t.scheme.text ++ "://".toList ++ t.host ++ t.path ++ '?' :: query := by
  have hmark : Url.marked '?' query = '?' :: query := if_neg (by simpa using hne)
  have hnone : Url.marked '#' [] = [] := rfl
  rw [Url.text, hmark]
  simp only [url, Url.origin, Url.authority, hnone, List.append_nil]

theorem writtenField_ne_nil (f : Text × Text) : writtenField f ≠ [] :=
  List.append_ne_nil_of_right_ne_nil _ (List.cons_ne_nil _ _)

theorem query_withRest_ne_nil (rest : Text) : (t.withRest rest).query ≠ [] :=
  List.append_ne_nil_of_left_ne_nil (writtenField_ne_nil _) _

theorem text_withRest (rest : Text) : (t.withRest rest).text = t.front ++ rest := by
  have htext : (t.withRest rest).text = _ := t.text_of_query (t.query_withRest_ne_nil rest)
  rw [htext, front]
  simp

theorem text_url : t.url.text = t.text := by
  have hne : Text.join ['&'] ((t.first :: t.more).map writtenField) ≠ [] := by
    rw [List.map_cons, join_ampersand]
    exact List.append_ne_nil_of_left_ne_nil (writtenField_ne_nil _) _
  exact t.text_of_query hne

theorem plainField {f : Text × Text} (hf : f ∈ t.first :: t.more) : PlainField f := by
  have hplain : ∀ c, Text.isUnreserved c → ¬ separates c ∧ c ≠ '=' := by
    rintro c hc
    refine ⟨not_separates_of_isUnreserved hc, ?_⟩
    rintro rfl
    exact absurd hc (by decide)
  exact ⟨t.name_ne f hf, fun c hc => hplain c (t.name_plain f hf c hc),
    fun c hc => hplain c (t.value_plain f hf c hc)⟩

theorem writtenField_plain {f : Text × Text} (hf : f ∈ t.first :: t.more) {c : Char}
    (hc : c ∈ writtenField f) : c = '=' ∨ Text.isUnreserved c := by
  rcases List.mem_append.1 hc with hc | hc
  · exact .inr (t.name_plain f hf c hc)
  · rcases List.mem_cons.1 hc with rfl | hc
    · exact .inl rfl
    · exact .inr (t.value_plain f hf c hc)

theorem not_separates_writtenField {f : Text × Text} (hf : f ∈ t.first :: t.more) :
    ∀ c ∈ writtenField f, ¬ separates c := by
  intro c hc
  rcases t.writtenField_plain hf hc with rfl | hunreserved
  · decide
  · exact not_separates_of_isUnreserved hunreserved

theorem simple_withRest {rest : Text}
    (hrest : ∀ c ∈ rest, c = '=' ∨ c = '&' ∨ Text.isUnreserved c) :
    (t.withRest rest).Simple where
  host_ne := t.host_ne
  host_small := t.host_small
  writtenPort := rfl
  path_rooted := t.path_rooted
  path := t.path_plain
  query := fun c hc => by
    rcases List.mem_append.1 hc with hc | hc
    · exact (t.writtenField_plain List.mem_cons_self hc).imp_right .inr
    · exact hrest c hc
  fragment := rfl

theorem flatMap_plain {fields : List (Text × Text)}
    (hfields : ∀ f ∈ fields, f ∈ t.first :: t.more) :
    ∀ c ∈ fields.flatMap fun f => '&' :: writtenField f, c = '=' ∨ c = '&' ∨
      Text.isUnreserved c := by
  intro c hc
  obtain ⟨f, hf, hc⟩ := List.mem_flatMap.1 hc
  rcases List.mem_cons.1 hc with rfl | hc
  · exact .inr (.inl rfl)
  · exact (t.writtenField_plain (hfields f hf) hc).imp_right .inr

theorem simple_url : t.url.Simple := by
  rw [url_eq]
  exact t.simple_withRest (t.flatMap_plain fun f hf => List.mem_cons_of_mem _ hf)

/-! ## The escaped URL -/

theorem front_plain : ∀ c ∈ t.front, Text.isUnreserved c ∨ c ∈ [':', '/', '?', '='] := by
  have hscheme : ∀ s : Scheme, (s.text ++ "://".toList).all fun c =>
      Text.isUnreserved c || [':', '/', '?', '='].contains c := by
    rintro (_ | _) <;> decide
  intro c hc
  rw [front] at hc
  rcases List.mem_append.1 hc with hc | hc
  · rcases List.mem_append.1 hc with hc | hc
    · rcases List.mem_append.1 hc with hc | hc
      · exact (Bool.or_eq_true_iff.1 (List.all_eq_true.1 (hscheme t.scheme) c hc)).imp_right
          List.contains_iff_mem.1
      · exact .inl (t.simple_url.host_char hc).1
    · rcases t.path_plain c hc with rfl | hunreserved
      · exact .inr (by decide)
      · exact .inl hunreserved
  · rcases List.mem_cons.1 hc with rfl | hc
    · exact .inr (by decide)
    · rcases t.writtenField_plain List.mem_cons_self hc with rfl | hunreserved
      · exact .inr (by decide)
      · exact .inl hunreserved

theorem escape_writtenField {f : Text × Text} (hf : f ∈ t.first :: t.more) :
    Text.escape Text.isUnreserved (writtenField f) = escapedField f := by
  rw [writtenField, Text.escape_append, Text.escape_eq_self (t.name_plain f hf),
    Text.escape_cons, Text.escape_eq_self (t.value_plain f hf)]
  rfl

theorem escape_fields {fields : List (Text × Text)}
    (hfields : ∀ f ∈ fields, f ∈ t.first :: t.more) :
    Text.escape Text.isUnreserved (fields.flatMap fun f => '&' :: writtenField f) =
      escapedFields fields := by
  induction fields with
  | nil => rfl
  | cons f fields ih =>
      obtain ⟨hf, hmore⟩ := List.forall_mem_cons.1 hfields
      rw [List.flatMap_cons, List.cons_append, Text.escape_cons, Text.escape_append,
        t.escape_writtenField hf, ih hmore, ← List.append_assoc]
      rfl

theorem query_withRest {fields : List (Text × Text)} {rest last : Text}
    (hrest : Text.escape Text.isUnreserved rest = escapedFields fields ++ last) :
    "q=".toList ++ Text.escape Text.isUnreserved (t.withRest rest).text =
      escapedList ['q'] (Text.escape Text.isUnreserved t.front) fields last := by
  rw [text_withRest, Text.escape_append, hrest, escapedList, List.append_assoc]
  rfl

/-! ## What the link keeps -/

theorem passes_front :
    ∀ p ∈ generalRules, Passes p.regex.expr (Text.escape Text.isUnreserved t.front) := by
  intro p hp
  obtain ⟨name, h⟩ := exists_names (namesFields_of_mem p hp).1
  exact passes_escape h t.front_plain

theorem kept_fields {fields : List (Text × Text)} (hfields : ∀ f ∈ fields, f ∈ t.first :: t.more)
    (hkept : ∀ f ∈ fields, ¬ Tracks f.1) :
    ∀ f ∈ fields, PlainField f ∧ ∀ p ∈ generalRules, ¬ p.deletes f.1 := fun f hf =>
  ⟨t.plainField (hfields f hf), fun p hp hdeletes => hkept f hf ⟨p, hp, hdeletes⟩⟩

theorem plain_q : Plain ['q'] := by
  intro c hc
  obtain rfl := List.mem_singleton.1 hc
  decide

theorem stripBy_link (hkept : ∀ f ∈ t.more, ¬ Tracks f.1) :
    stripBy generalRules ("q=".toList ++ Text.escape Text.isUnreserved t.url.text) =
      "q=".toList ++ Text.escape Text.isUnreserved t.url.text := by
  have hfields : ∀ f ∈ t.more, f ∈ t.first :: t.more := fun f hf => List.mem_cons_of_mem _ hf
  have hlist := t.query_withRest ((t.escape_fields hfields).trans (List.append_nil _).symm)
  rw [← url_eq] at hlist
  rw [hlist]
  exact stripBy_escapedList_nil (fun p hp => (namesFields_of_mem p hp).1) (by decide) plain_q
    (fun p hp => (namesFields_of_mem p hp).2) t.passes_front (t.kept_fields hfields hkept)

/-- The URL with the fields in front of the first that tracks, and with the
ampersand of this one. -/
def cut (init : List (Text × Text)) : Url :=
  t.withRest ((init.flatMap fun f => '&' :: writtenField f) ++ ['&'])

/-- The URL with what the rules for every URL leave of these fields. -/
def left (init : List (Text × Text)) : Url :=
  { t.url with
    query := stripBy generalRules (Text.join ['&'] ((t.first :: init).map writtenField)) }

theorem stripsBefore_general : ∀ rule ∈ generalRules, rule.stripsBefore := by
  have hplain : Plainly generalProvider :=
    plainly_of_mem _ (providers_eq_cons ▸ List.mem_cons_self)
  simp only [Plainly, Bool.and_eq_true, List.all_eq_true] at hplain
  exact hplain.2

theorem stripBy_query_cut (init : List (Text × Text)) :
    stripBy generalRules (t.cut init).query = (t.left init).query ++ ampersands (0 + 1) := by
  have hquery : (t.cut init).query =
      Text.join ['&'] ((t.first :: init).map writtenField) ++ ampersands (0 + 1) := by
    rw [List.map_cons, join_ampersand, List.flatMap_map, List.append_assoc]
    rfl
  rw [hquery, stripBy_append_ampersands stripsBefore_general, left]

theorem padded_left (init : List (Text × Text)) (rest : Text) (n : Nat) :
    { t.withRest rest with query := (t.left init).query ++ ampersands (n + 1) } =
      padded (t.left init) n := rfl

section

variable {t} {init : List (Text × Text)} {x : Text × Text} {behind : List (Text × Text)}
  (hmore : t.more = init ++ x :: behind)

include hmore

theorem mem_init {f : Text × Text} (hf : f ∈ init) : f ∈ t.first :: t.more :=
  List.mem_cons_of_mem _ (hmore ▸ List.mem_append_left _ hf)

theorem mem_behind {f : Text × Text} (hf : f ∈ x :: behind) : f ∈ t.first :: t.more :=
  List.mem_cons_of_mem _ (hmore ▸ List.mem_append_right _ hf)

theorem simple_cut : (t.cut init).Simple := by
  refine t.simple_withRest fun c hc => ?_
  rcases List.mem_append.1 hc with hc | hc
  · exact t.flatMap_plain (fun f hf => mem_init hmore hf) c hc
  · exact .inr (.inl (List.mem_singleton.1 hc))

theorem stripBy_link_of_tracks (hkept : ∀ f ∈ init, ¬ Tracks f.1) (htracks : Tracks x.1) :
    stripBy generalRules ("q=".toList ++ Text.escape Text.isUnreserved t.url.text) =
      "q=".toList ++ Text.escape Text.isUnreserved (t.cut init).text := by
  obtain ⟨p, hp, hdeletes⟩ := htracks
  have hwhole : Text.escape Text.isUnreserved (t.more.flatMap fun f => '&' :: writtenField f) =
      escapedFields (init ++ x :: behind) ++ [] := by
    rw [t.escape_fields fun f hf => List.mem_cons_of_mem _ hf, hmore, List.append_nil]
  have hcut : Text.escape Text.isUnreserved
      ((init.flatMap fun f => '&' :: writtenField f) ++ ['&']) =
      escapedFields init ++ "%26".toList := by
    rw [Text.escape_append, t.escape_fields fun f hf => mem_init hmore hf]
    rfl
  rw [cut, t.query_withRest hcut, url_eq, t.query_withRest hwhole]
  exact stripBy_escapedList_of_deletes (fun p hp => (namesFields_of_mem p hp).1)
    (by decide) plain_q
    (fun p hp => (namesFields_of_mem p hp).2) t.passes_front
    (t.kept_fields (fun f hf => mem_init hmore hf) hkept)
    (fun f hf => t.plainField (mem_behind hmore hf)) hp hdeletes

theorem not_mem_textBefore_left : '\n' ∉ textBefore (t.left init) := by
  have hfront : '\n' ∉ t.front := fun hmem => by
    rcases t.front_plain _ hmem with hunreserved | hmark
    · exact absurd hunreserved (by decide)
    · exact absurd hmark (by decide)
  have hplain := t.flatMap_plain fun f hf => mem_init hmore hf
  have hbefore : textBefore (t.left init) =
      t.scheme.text ++ "://".toList ++ t.host ++ t.path ++ '?' :: (t.left init).query := by
    simp [textBefore, left, url, Url.origin, Url.authority]
  rw [hbefore]
  intro hmem
  rcases List.mem_append.1 hmem with hmem | hmem
  · exact hfront (List.mem_append_left _ hmem)
  · have hquery := (List.mem_cons.1 hmem).resolve_left (by decide)
    have hsublist :
        (t.left init).query.Sublist (Text.join ['&'] ((t.first :: init).map writtenField)) := by
      dsimp only [left]
      exact stripBy_sublist _ _
    have hlist := hsublist.subset hquery
    rw [List.map_cons, join_ampersand, List.flatMap_map] at hlist
    rcases List.mem_append.1 hlist with hmem | hmem
    · exact hfront (List.mem_append_right _ (List.mem_cons_of_mem _ hmem))
    · rcases hplain _ hmem with heq | heq | hunreserved
      · exact absurd heq (by decide)
      · exact absurd heq (by decide)
      · exact absurd hunreserved (by decide)

theorem stripBy_query_url (htracks : ∀ f ∈ x :: behind, Tracks f.1) :
    stripBy generalRules t.url.query = (t.left init).query ++ ampersands
      (behind.length + 1) := by
  have hquery : t.url.query = Text.join ['&']
      ((t.first :: init).map writtenField ++ (x :: behind).map writtenField) := by
    rw [url, hmore, ← List.map_append, List.cons_append]
  have hsegments : ∀ s ∈ (t.first :: init).map writtenField ++ (x :: behind).map writtenField,
      ∀ c ∈ s, ¬ separates c := by
    intro s hs
    rw [← List.map_append, List.cons_append, ← hmore] at hs
    obtain ⟨f, hf, rfl⟩ := List.mem_map.1 hs
    exact t.not_separates_writtenField hf
  have hempty : ∀ s ∈ (x :: behind).map writtenField, stripBy generalRules s = [] := by
    intro s hs
    obtain ⟨f, hf, rfl⟩ := List.mem_map.1 hs
    have hmem := mem_behind hmore hf
    obtain ⟨p, hp, hdeletes⟩ := htracks f hf
    refine stripBy_of_deletes (fun p hp => (namesFields_of_mem p hp).1) hp
      (t.not_separates_writtenField hmem) ?_
    rwa [writtenField, nameOf_append (t.plainField hmem).name]
  have hne : (t.first :: init).map writtenField ≠ [] := List.cons_ne_nil _ _
  rw [hquery, stripBy_join_append (fun p hp => (namesFields_of_mem p hp).1) hne hsegments hempty,
    List.length_map, List.length_cons, left]

theorem not_exempts_cut (hexempts : ¬ exempts t.url.text) : ¬ exempts (t.cut init).text := by
  have htext : t.url.text =
      (t.cut init).text ++ (writtenField x ++ behind.flatMap fun f =>
        '&' :: writtenField f) := by
    rw [url_eq, cut, text_withRest, text_withRest, hmore]
    simp
  exact fun hcut => hexempts (htext ▸ exempts_append hcut _)

/-- A pass leads from the URL that is cut to the same as from the whole one. -/
theorem alike_cut (htracks : ∀ f ∈ x :: behind, Tracks f.1) (hexempts : ¬ exempts t.url.text)
    (follow : Bool) :
    Pass.Alike {} (pass {} follow Store.bundled.providers (t.cut init))
      (pass {} follow Store.bundled.providers t.url) := by
  have hplain : ∀ p ∈ Store.bundled.providers.tail, Plainly p := fun p hp =>
    plainly_of_mem p (List.mem_of_mem_tail hp)
  rw [pass_of_not_exempts (not_exempts_cut hmore hexempts) (t.query_withRest_ne_nil _) rfl,
    pass_of_not_exempts hexempts (t.url_eq ▸ t.query_withRest_ne_nil _) rfl, stripBy_query_cut,
    stripBy_query_url hmore htracks, cut, url_eq, padded_left, padded_left]
  rcases pass_padded hplain rfl (not_mem_textBefore_left hmore) follow with
    ⟨next, hnext⟩ | ⟨v, hv⟩
  · rw [hnext, hnext]
    exact .redirected next
  · rw [hv, hv]
    exact .done ((tidy_padded {} v 0).trans (tidy_padded {} v behind.length).symm)

end

theorem exists_cut {fields : List (Text × Text)}
    (hends : fields.Pairwise fun f g => Tracks f.1 → Tracks g.1) :
    (∀ f ∈ fields, ¬ Tracks f.1) ∨ ∃ init x behind, fields = init ++ x :: behind ∧
      (∀ f ∈ init, ¬ Tracks f.1) ∧ ∀ f ∈ x :: behind, Tracks f.1 := by
  induction fields with
  | nil => exact .inl fun f hf => nomatch hf
  | cons f fields ih =>
      obtain ⟨hf, hmore⟩ := List.pairwise_cons.1 hends
      by_cases htracks : Tracks f.1
      · have hall : ∀ g ∈ f :: fields, Tracks g.1 :=
          List.forall_mem_cons.2 ⟨htracks, fun g hg => hf g hg htracks⟩
        exact .inr ⟨[], f, fields, rfl, List.forall_mem_nil _, hall⟩
      · rcases ih hmore with hkept | ⟨init, x, behind, rfl, hkept, hbehind⟩
        · exact .inl (List.forall_mem_cons.2 ⟨htracks, hkept⟩)
        · exact .inr ⟨f :: init, x, behind, rfl,
            List.forall_mem_cons.2 ⟨htracks, hkept⟩, hbehind⟩

/-- The URL that a link leads to is cleaned as the one that it was made for, if those of its
fields that track stand at the end, and only where no exception protects it. -/
theorem exists_led
    (hfollowed : followed Store.bundled.providers {} maxRestarts t.url < maxRestarts)
    (hends : t.more.Pairwise fun f g => Tracks f.1 → Tracks g.1)
    (hlast : ∀ f ∈ t.more.getLast?, Tracks f.1 → ¬ exempts t.text) :
    ∃ u : Url, u.Simple ∧
      stripBy generalRules ("q=".toList ++ Text.escape Text.isUnreserved t.url.text) =
        "q=".toList ++ Text.escape Text.isUnreserved u.text ∧
      cleanWithin Store.bundled.providers {} (maxRestarts - 1) u =
        cleanUrl Store.bundled.providers {} t.url := by
  have hless : cleanUrl Store.bundled.providers {} t.url =
      cleanWithin Store.bundled.providers {} (maxRestarts - 1) t.url :=
    cleanWithin_of_followed_lt hfollowed
  rcases exists_cut hends with hkept | ⟨init, x, behind, hmore, hkept, htracks⟩
  · exact ⟨t.url, t.simple_url, t.stripBy_link hkept, hless.symm⟩
  have hx : Tracks x.1 := htracks x List.mem_cons_self
  have hexempts : ¬ exempts t.url.text := by
    have hne : x :: behind ≠ [] := List.cons_ne_nil _ _
    rw [text_url]
    refine hlast ((x :: behind).getLast hne) ?_ (htracks _ (List.getLast_mem hne))
    rw [hmore, List.getLast?_append_of_ne_nil _ hne, List.getLast?_eq_some_getLast hne]
    rfl
  refine ⟨t.cut init, simple_cut hmore, stripBy_link_of_tracks hmore hkept hx, ?_⟩
  rw [hless]
  exact cleanWithin_congr (by decide) (alike_cut hmore htracks hexempts) _

end Destination

/-! ## Pages of a site with an exception -/

/-- A page that only the provider for every URL knows, with two fields at
the end that track. -/
def openPage : Destination where
  scheme := .http
  host := "matrix.org".toList
  path := ['/']
  first := (['a'], ['1'])
  more := [("ref".toList, ['2']), ("utm_source".toList, ['3'])]
  host_ne := by decide
  host_small := by simp
  path_rooted := by simp
  path_plain := by simp
  name_ne := by simp
  name_plain := by simp [Text.isUnreserved]
  value_plain := by simp [Text.isUnreserved]

/-- The same at a place that an exception protects. -/
def protectedPage : Destination :=
  { openPage with
    path := "/_matrix/".toList
    path_rooted := by simp
    path_plain := by simp [Text.isUnreserved] }

theorem text_openPage : openPage.text = "http://matrix.org/?a=1&ref=2&utm_source=3".toList := by
  decide

theorem tracks_openPage : (∀ f ∈ openPage.more, Tracks f.1) ∧ ¬ exempts openPage.text ∧
    exempts "http://matrix.org/_matrix/".toList := by
  rw [text_openPage]
  unfold openPage Tracks generalRules exempts generalProvider Provider.read globalRules texts
  simp only [List.map_cons, List.map_nil]
  repeat rw [toList_ofList]
  decide +kernel

theorem tracks_ref : Tracks "ref".toList :=
  tracks_openPage.1 _ List.mem_cons_self

theorem not_isMatch_origin : ∀ p ∈ Store.bundled.providers.tail,
    ¬ p.urlPattern.isMatch "http://matrix.org".toList := by
  have hpatterns : ∀ source ∈ tables.tail.map (·.2.urlPattern),
      ¬ (Pattern.read .anchored source).isMatch "http://matrix.org".toList := by
    unfold tables sites networks amazon google deezer natura dartsearchNet doubleclick shareasale
      facebook youtube twitter reddit bing aliexpress tiktok instagram spotify linkedin
    simp only [List.cons_append, List.nil_append, List.tail_cons, List.map_cons, List.map_nil]
    repeat rw [toList_ofList]
    decide +kernel
  rw [providers_eq, ← List.map_tail]
  intro p hp
  obtain ⟨t, ht, rfl⟩ := List.mem_map.1 hp
  exact hpatterns _ (List.mem_map.2 ⟨t, ht, rfl⟩)

theorem not_covers_site {u : Url} (horigin : u.origin = "http://matrix.org".toList) :
    ∀ p ∈ Store.bundled.providers.tail, ¬ covers p {} u := by
  intro p hp hcovers
  rw [covers, horigin] at hcovers
  simp only [Bool.and_eq_true] at hcovers
  exact not_isMatch_origin p hp hcovers.1.2

/-- Past the provider for every URL, nothing is done to the pages of the site. -/
theorem pass_site {u : Url} (horigin : u.origin = "http://matrix.org".toList) (follow : Bool) :
    pass {} follow Store.bundled.providers.tail u = .done u :=
  pass_of_not_covers (not_covers_site horigin)

theorem pass_protected {u : Url} (horigin : u.origin = "http://matrix.org".toList) {rest : Text}
    (htext : u.text = "http://matrix.org/_matrix/".toList ++ rest) (follow : Bool) :
    pass {} follow Store.bundled.providers u = .done u := by
  have hcovers : ¬ covers generalProvider {} u := by
    rw [covers_general, htext]
    exact fun h => h (exempts_append tracks_openPage.2.2 rest)
  have hsite := pass_site horigin follow
  rw [providers_eq_cons] at hsite ⊢
  rw [pass_cons_of_not_covers hcovers]
  exact hsite

/-! ## Cleaning -/

theorem Destination.clean_text (t : Destination) :
    Store.bundled.clean {} t.text = .ok (cleanUrl Store.bundled.providers {} t.url).text := by
  rw [← t.text_url, Store.clean, PlainLink.clean, t.simple_url.parse_text]
  rfl

theorem Destination.clean_wrapped_text (t : Destination) {u : Url} (hu : u.Simple)
    (hstrip : stripBy generalRules ("q=".toList ++ Text.escape Text.isUnreserved t.url.text) =
      "q=".toList ++ Text.escape Text.isUnreserved u.text) :
    Store.bundled.clean {} (wrapped t.text) =
      .ok (cleanWithin Store.bundled.providers {} (maxRestarts - 1) u).text := by
  have hescaped := escaped_escape t.url.text
  rw [wrapped, ← t.text_url, Store.clean, PlainLink.clean, parse_link hescaped,
    ← cleanUrl_link hescaped (head?_escape_text t.url) hu hstrip]
  rfl

/-- Cleaning a link gives what cleaning the URL that it leads to gives, as long as a
redirection is left for the link.  This takes that behind the first field those whose
names the rules for every URL delete stand at the end: escaped, the value of such a field
goes on over the fields behind it.  And it takes that these rules do apply to the URL, if
there are such fields. -/
theorem clean_wrapped (t : Destination)
    (hfollowed : followed Store.bundled.providers {} maxRestarts t.url < maxRestarts)
    (hends : t.more.Pairwise fun f g => Tracks f.1 → Tracks g.1)
    (hlast : ∀ f ∈ t.more.getLast?, Tracks f.1 → ¬ exempts t.text) :
    ∃ c, Store.bundled.clean {} (wrapped t.text) = .ok c ∧
      Store.bundled.clean {} t.text = .ok c := by
  obtain ⟨u, hu, hstrip, hclean⟩ := t.exists_led hfollowed hends hlast
  exact ⟨_, hclean ▸ t.clean_wrapped_text hu hstrip, t.clean_text⟩

theorem clean_wrapped_openPage :
    followed Store.bundled.providers {} maxRestarts openPage.url < maxRestarts ∧
    (openPage.more.Pairwise fun f g => Tracks f.1 → Tracks g.1) ∧
    (∀ f ∈ openPage.more.getLast?, Tracks f.1 ∧ ¬ exempts openPage.text) ∧
    ∃ c, Store.bundled.clean {} (wrapped openPage.text) = .ok c ∧
      Store.bundled.clean {} openPage.text = .ok c := by
  obtain ⟨htracks, hexempts, -⟩ := tracks_openPage
  have hfollowed :
      followed Store.bundled.providers {} maxRestarts openPage.url < maxRestarts := by
    have hdone : pass {} true Store.bundled.providers openPage.url = _ :=
      pass_of_not_exempts (openPage.text_url ▸ hexempts) (by decide) rfl
    rw [pass_site rfl] at hdone
    rw [followed_of_done hdone]
    decide
  have hends : openPage.more.Pairwise fun f g => Tracks f.1 → Tracks g.1 :=
    List.pairwise_of_forall_mem_list fun _ _ g hg _ => htracks g hg
  refine ⟨hfollowed, hends, fun f hf => ⟨htracks f (List.mem_of_mem_getLast? hf), hexempts⟩, ?_⟩
  exact clean_wrapped openPage hfollowed hends fun _ _ _ => hexempts

/-- Where an exception protects the URL by itself, the link has its last field
deleted all the same. -/
theorem clean_wrapped_not_always :
    ¬ ∀ t : Destination, (∀ f ∈ t.first :: t.more, f.2 ≠ []) →
      Store.bundled.clean {} (wrapped t.text) = Store.bundled.clean {} t.text := by
  intro h
  have hlink : Store.bundled.clean {} (wrapped protectedPage.text) =
      .ok "http://matrix.org/_matrix/?a=1".toList := by
    have hmore : protectedPage.more =
        [] ++ ("ref".toList, ['2']) :: [("utm_source".toList, ['3'])] :=
      rfl
    have hstrip := Destination.stripBy_link_of_tracks hmore (fun f hf => nomatch hf)
      tracks_ref
    have hdone : pass {} true Store.bundled.providers (protectedPage.cut []) = _ :=
      pass_protected rfl (by decide : (protectedPage.cut []).text = _ ++ "?a=1&".toList) true
    rw [protectedPage.clean_wrapped_text (Destination.simple_cut hmore) hstrip, maxRestarts,
      cleanWithin_of_done (by decide) hdone]
    exact congrArg Except.ok (by decide +kernel)
  have hself : Store.bundled.clean {} protectedPage.text =
      .ok "http://matrix.org/_matrix/?a=1&ref=2&utm_source=3".toList := by
    have hdone : pass {} true Store.bundled.providers protectedPage.url = _ :=
      pass_protected rfl
        (by decide : protectedPage.url.text = _ ++ "?a=1&ref=2&utm_source=3".toList) true
    rw [protectedPage.clean_text, cleanUrl_eq, maxRestarts,
      cleanWithin_of_done (by decide) hdone]
    exact congrArg Except.ok (by decide +kernel)
  have hsame := h protectedPage (by decide)
  rw [hlink, hself] at hsame
  exact absurd (Except.ok.inj hsame) (by decide)

end PlainLink.Clean
