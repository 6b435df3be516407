/-
# Where the parts of a URL stand in its text

Reading cuts a text four times: behind `://`, where the authority ends, at the first `#`
and at the first `?` before that.  Whatever order the marks come in, path, query and
fragment are what stands behind the authority, character by character, and the marks
between them stand exactly where the text has them.  Host and port are read from the
authority alone, so no mark gets into the host.

The tail is put together again from its parts and the marks that it has
(`splitTail_append`).  An empty query is not told from a missing one by the URL, but it
is by the text, so the statement asks the text which marks there are.

Main statement: `parse_parts`.
-/
import PlainLink.Proofs.Url.RoundTrip

namespace PlainLink

/-! ## Cuts at a mark -/

/-- What stands behind the first `mark` in a text; `none` if it does not occur. -/
def Text.behind? (mark : Text) : Text → Option Text
  | [] => after? mark []
  | c :: cs => (after? mark (c :: cs)).or (behind? mark cs)

theorem Text.behind?_append {first : Char} {front : Text} (h : first ∉ front) (more t : Text) :
    behind? (first :: more) (front ++ (first :: more ++ t)) = some t := by
  induction front with
  | nil =>
      have hafter : after? (first :: more) (first :: more ++ t) = some t :=
        List.isPrefixOf?_eq_some_iff_append_eq.2 rfl
      exact (congrArg (Option.or · _) hafter).trans rfl
  | cons c front ih =>
      obtain ⟨hc, hfront⟩ : first ≠ c ∧ first ∉ front := by simpa using h
      have hafter : after? (first :: more) (c :: (front ++ (first :: more ++ t))) = none := by
        simp [after?, List.isPrefixOf?, hc]
      rw [List.cons_append, behind?, hafter, ih hfront, Option.none_or]

theorem Text.splitFirst?_getD_append (mark : Char) (t : Text) :
    ((splitFirst? mark t).getD (t, [])).1 ++
      (if mark ∈ t then mark :: ((splitFirst? mark t).getD (t, [])).2 else []) = t := by
  cases hcut : splitFirst? mark t with
  | none =>
      rw [if_neg (splitFirst?_eq_none_iff.1 hcut)]
      exact List.append_nil t
  | some cut =>
      obtain ⟨front, part⟩ := cut
      have hmem : mark ∈ t := by
        by_contra hnone
        rw [splitFirst?_eq_none_iff.2 hnone] at hcut
        cases hcut
      rw [if_pos hmem]
      exact (splitFirst?_eq_some hcut).1.symm

theorem Text.splitFirst?_getD_fst (mark : Char) (t : Text) :
    ((splitFirst? mark t).getD (t, [])).1 = t.takeWhile (· ≠ mark) := by
  induction t with
  | nil => rfl
  | cons c cs ih =>
      by_cases hc : c = mark
      · simp [splitFirst?, hc]
      · have hcut : ((splitFirst? mark (c :: cs)).getD (c :: cs, [])).1 =
            c :: ((splitFirst? mark cs).getD (cs, [])).1 := by
          rw [splitFirst?, if_neg hc]
          cases splitFirst? mark cs <;> rfl
        rw [hcut, ih, List.takeWhile_cons_of_pos (by simpa using hc)]

theorem Text.splitFirst?_getD_snd {mark : Char} {t : Text} (h : mark ∉ t) :
    ((splitFirst? mark t).getD (t, [])).2 = [] := by
  rw [splitFirst?_eq_none_iff.2 h]
  rfl

theorem Scheme.text_of_ofText? {t : Text} {scheme : Scheme}
    (h : Scheme.ofText? t = some scheme) :
    scheme.text = t := by
  unfold Scheme.ofText? at h
  split at h
  · next hhttp => cases h; exact hhttp.symm
  · split at h
    · next hhttps => cases h; exact hhttps.symm
    · cases h

namespace Url

/-! ## The tail -/

/-- What stands in a text behind `://`, from the first character on that ends an authority. -/
def writtenTail (t : Text) : Text :=
  (Text.cutBefore isAuthorityEnd ((Text.behind? "://".toList t).getD [])).2

/-- The parts of a tail and the marks that it has, put together, are the tail. -/
theorem splitTail_append {t path query fragment : Text}
    (h : splitTail t = (path, query, fragment)) :
    path ++ (if '?' ∈ t.takeWhile (· ≠ '#') then '?' :: query else []) ++
      (if '#' ∈ t then '#' :: fragment else []) = t := by
  have hfront := Text.splitFirst?_getD_fst '#' t
  have hwhole := Text.splitFirst?_getD_append '#' t
  have hquery := Text.splitFirst?_getD_append '?' ((Text.splitFirst? '#' t).getD (t, [])).1
  obtain ⟨rfl, rfl, rfl⟩ : _ = path ∧ _ = query ∧ _ = fragment := by
    simpa only [splitTail, Prod.mk.injEq] using h
  rw [← hfront, hquery, hwhole]

theorem splitTail_fst (t : Text) :
    (splitTail t).1 = (t.takeWhile (· ≠ '#')).takeWhile (· ≠ '?') := by
  rw [← Text.splitFirst?_getD_fst '#' t, ← Text.splitFirst?_getD_fst '?']
  rfl

theorem splitTail_empty {t path query fragment : Text}
    (h : splitTail t = (path, query, fragment)) :
    ('?' ∉ t.takeWhile (· ≠ '#') → query = []) ∧ ('#' ∉ t → fragment = []) := by
  have hfront := Text.splitFirst?_getD_fst '#' t
  obtain ⟨-, rfl, rfl⟩ : _ = path ∧ _ = query ∧ _ = fragment := by
    simpa only [splitTail, Prod.mk.injEq] using h
  rw [← hfront]
  exact ⟨Text.splitFirst?_getD_snd, Text.splitFirst?_getD_snd⟩

/-! ## The scheme -/

theorem splitFirst?_of_scheme? {t name rest : Text} (h : scheme? t = some (name, rest)) :
    Text.splitFirst? ':' t = some (name, rest) := by
  obtain ⟨⟨name', rest'⟩, hcut, h⟩ := Option.bind_eq_some_iff.1 h
  obtain ⟨first, -, h⟩ := Option.bind_eq_some_iff.1 h
  split at h
  · cases h
    exact hcut
  · cases h

theorem not_mem_splitScheme (t : Text) : ':' ∉ (splitScheme t).1 := by
  have hhttp : ':' ∉ Scheme.http.text := by decide
  unfold splitScheme
  split
  · exact hhttp
  · cases hscheme : scheme? t with
    | none => exact hhttp
    | some cut => exact (Text.splitFirst?_eq_some (splitFirst?_of_scheme? hscheme)).2

/-! ## Reading -/

/-- What is read as a URL has a scheme in front of its first `://`, and is read behind that. -/
theorem behind_of_parse {input : Text} {u : Url} (h : parse input = .ok u) :
    ∃ t, completed (Text.trim input) = (splitScheme (Text.trim input)).1 ++ ("://".toList ++ t) ∧
      Text.behind? "://".toList (completed (Text.trim input)) = some t ∧
      Text.lower (splitScheme (Text.trim input)).1 = u.scheme.text ∧
      ofRest u.scheme ("//".toList ++ t) = .ok u := by
  obtain ⟨t, hrest, hname, hread⟩ := ofRest_of_parse h
  have hcompleted : completed (Text.trim input) =
      (splitScheme (Text.trim input)).1 ++ ("://".toList ++ t) := by
    show (splitScheme (Text.trim input)).1 ++ ':' :: (splitScheme (Text.trim input)).2 = _
    rw [hrest]
    rfl
  refine ⟨t, hcompleted, ?_, (Scheme.text_of_ofText? hname).symm, hread⟩
  rw [hcompleted]
  exact Text.behind?_append (not_mem_splitScheme (Text.trim input)) "//".toList t

/-- What is read as a URL has a scheme, `://`, an authority and a tail, and
each is read by itself. -/
theorem written_of_parse {input : Text} {u : Url} (h : parse input = .ok u) :
    ∃ name authority,
      completed (Text.trim input) =
        name ++ "://".toList ++ authority ++ writtenTail (completed (Text.trim input)) ∧
      Text.lower name = u.scheme.text ∧ (∀ c ∈ authority, ¬ isAuthorityEnd c) ∧
      splitTail (writtenTail (completed (Text.trim input))) = (u.path, u.query, u.fragment) := by
  obtain ⟨t, hcompleted, hbehind, hname, hread⟩ := behind_of_parse h
  have htail : writtenTail (completed (Text.trim input)) =
      (Text.cutBefore isAuthorityEnd t).2 := by
    rw [writtenTail, hbehind]
    rfl
  obtain ⟨-, hparts, -⟩ := ofRest_eq_ok_iff.1 hread
  refine ⟨(splitScheme (Text.trim input)).1, (Text.cutBefore isAuthorityEnd t).1, ?_, hname,
    Text.cutBefore_free, ?_⟩
  · rw [htail, hcompleted, List.append_assoc, List.append_assoc, Text.cutBefore_append]
  · rw [htail, hparts]

/-- A URL that was read has the parts of its text: the text, trimmed and with its scheme
completed, is a scheme, `://`, an authority without marks, and a tail, and the tail is the
path, the query behind the first `?` that no `#` precedes, and the fragment behind the
first `#`.  A part whose mark the tail does not have is empty.  The path is empty or begins
with a slash and holds no mark, the query holds no `#`, the scheme is one of two in small
letters, and the host is not empty and holds none of `/`, `?`, `#` and `@`, in whatever
script it was written. -/
theorem parse_parts {input : Text} {u : Url} (h : parse input = .ok u) :
    let text := completed (Text.trim input)
    let tail := writtenTail text
    (∃ name authority, text = name ++ "://".toList ++ authority ++ tail ∧
      Text.lower name = u.scheme.text ∧ ∀ c ∈ authority, ¬ isAuthorityEnd c) ∧
    u.path ++ (if '?' ∈ tail.takeWhile (· ≠ '#') then '?' :: u.query else []) ++
      (if '#' ∈ tail then '#' :: u.fragment else []) = tail ∧
    ('?' ∉ tail.takeWhile (· ≠ '#') → u.query = []) ∧ ('#' ∉ tail → u.fragment = []) ∧
    (u.path = [] ∨ u.path.head? = some '/') ∧ '?' ∉ u.path ∧ '#' ∉ u.path ∧ '#' ∉ u.query ∧
    (u.scheme.text = "http".toList ∨ u.scheme.text = "https".toList) ∧
    u.host ≠ [] ∧ '/' ∉ u.host ∧ '?' ∉ u.host ∧ '#' ∉ u.host ∧ '@' ∉ u.host := by
  obtain ⟨name, authority, htext, hname, hfree, htail⟩ := written_of_parse h
  have hformed := wellFormed_of_parse h
  have hpath : u.path = [] ∨ u.path.head? = some '/' := by
    cases hhead : u.path.head? with
    | none => exact .inl (List.head?_eq_none_iff.1 hhead)
    | some c => exact .inr (congrArg some (hformed.path_rooted c hhead))
  have hscheme : u.scheme.text = "http".toList ∨ u.scheme.text = "https".toList := by
    cases u.scheme with
    | http => exact .inl rfl
    | https => exact .inr rfl
  have hhost {mark : Char} (hmark : isAuthorityEnd mark ∨ mark = '@') :
      mark ∉ u.host := fun hmem =>
    hmark.elim (hformed.host_free mark hmem).1 (hformed.host_free mark hmem).2
  obtain ⟨hnoQuery, hnoFragment⟩ := splitTail_empty htail
  exact ⟨⟨name, authority, htext, hname, hfree⟩, splitTail_append htail, hnoQuery,
    hnoFragment, hpath, hformed.path_free.1, hformed.path_free.2, hformed.query_free, hscheme,
    hformed.host_ne_nil, hhost (.inl rfl), hhost (.inl rfl), hhost (.inl rfl), hhost (.inr rfl)⟩

/-- A query right behind the authority, with a slash in it, and a fragment
with a question mark. -/
theorem parse_parts_unrooted :
    parse " //me:pw@[::A]:8?a/b#c?d@e ".toList =
      .ok ⟨.http, "[::a]".toList, some 8, [], "a/b".toList, "c?d@e".toList⟩ ∧
    writtenTail (completed (Text.trim " //me:pw@[::A]:8?a/b#c?d@e ".toList)) =
      "?a/b#c?d@e".toList ∧
    ∃ name authority, completed (Text.trim " //me:pw@[::A]:8?a/b#c?d@e ".toList) =
      name ++ "://".toList ++ authority ++ "?a/b#c?d@e".toList ∧
      Text.lower name = "http".toList ∧ ∀ c ∈ authority, ¬ isAuthorityEnd c := by
  have hread : parse " //me:pw@[::A]:8?a/b#c?d@e ".toList =
      .ok ⟨.http, "[::a]".toList, some 8, [], "a/b".toList, "c?d@e".toList⟩ := by decide +kernel
  have htail : writtenTail (completed (Text.trim " //me:pw@[::A]:8?a/b#c?d@e ".toList)) =
      "?a/b#c?d@e".toList := by decide +kernel
  exact ⟨hread, htail, htail ▸ (parse_parts hread).1⟩

end Url

end PlainLink
