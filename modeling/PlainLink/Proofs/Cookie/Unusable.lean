/-
# Attributes that cannot be used

Of an attribute with a known name the value may be of no use.  One about the domain or
the path is passed over then.  One about the life in seconds or its date is not: it
takes back what the earlier ones of its name said, so that a cookie that was to be
deleted may be kept.

    a=1; Max-Age=0               deletes the cookie
    a=1; Max-Age=0; Max-Age=x    keeps it, for as long as the program runs

`Unusable` lists the attributes of this kind, and `endWithout?` how the life of the
cookie ends with one of them behind its line.  Nothing else of the cookie changes.

Main statement: `line_append_unusable`.
-/
import PlainLink.Proofs.Cookie.Attributes

namespace PlainLink.Cookie

/-- The attribute has a known name, and a value that cannot be used. -/
inductive Unusable (written : Text) : Prop
  | domain (hname : attributeName written = "domain".toList)
      (hvalue : attributeValue written = [])
  | path (hname : attributeName written = "path".toList)
      (hvalue : (attributeValue written).head? ≠ some '/')
  | maxAge (hname : attributeName written = "max-age".toList)
      (hvalue : Text.int64? (attributeValue written) = none)
  | expires (hname : attributeName written = "expires".toList)
      (hvalue : date? (attributeValue written) = none)

theorem splitOn_append_attribute {written : Text} (hfree : ';' ∉ written) (line : Text) :
    (line ++ ';' :: written).splitOn ';' = line.splitOn ';' ++ [written] := by
  rw [List.splitOn_append_cons_self, List.splitOn_eq_singleton hfree]

theorem front_append {written : Text} (hfree : ';' ∉ written) (line : Text) :
    front (line ++ ';' :: written) = front line := by
  obtain ⟨pair, attributes, hcut⟩ := List.exists_cons_of_ne_nil (List.splitOn_ne_nil ';' line)
  rw [front, front, splitOn_append_attribute hfree, hcut]
  rfl

theorem said_append {written : Text} (hfree : ';' ∉ written) (line : Text) :
    said (line ++ ';' :: written) = (said line).read written := by
  obtain ⟨pair, attributes, hcut⟩ := List.exists_cons_of_ne_nil (List.splitOn_ne_nil ';' line)
  rw [said, said, attributesOf, attributesOf, splitOn_append_attribute hfree, hcut,
    List.cons_append, List.tail_cons, List.tail_cons, List.foldl_append]
  rfl

/-- What cannot be used takes back what was said about its name, if that is the life in seconds
or its date, and else leaves all as it was. -/
theorem Unusable.read_eq {written : Text} (h : Unusable written) (a : Attributes) :
    a.read written =
      { a with
        maxAge := if attributeName written = "max-age".toList then none else a.maxAge
        expires := if attributeName written = "expires".toList then none else a.expires } := by
  rw [read_eq_put, put_eq]
  cases h with
  | domain hname hvalue => simp [hname, hvalue]
  | path hname hvalue => simp [hname, hvalue]
  | maxAge hname hvalue => simp [hname, hvalue]
  | expires hname hvalue => simp [hname, hvalue]

/-- How the life of a cookie ends when an attribute that cannot be used, of some name, is
put behind its line. -/
def endWithout? (name line : Text) (c : Cookie) : Option Instant :=
  if name = "max-age".toList then endDate? line
  else if name = "expires".toList ∧ lifetime? line = none then none
  else c.expires

theorem Unusable.end?_eq {written line : Text} {origin : Url} {now : Instant} {c : Cookie}
    (h : Unusable written) (hfree : ';' ∉ written) (hset : ofLine? line origin now = some c) :
    (said (line ++ ';' :: written)).end? now = endWithout? (attributeName written) line c := by
  rw [said_append hfree, h.read_eq, endWithout?, expires_of_ofLine? hset, Attributes.end?,
    Attributes.end?, said_maxAge, said_expires]
  dsimp only
  by_cases hage : attributeName written = "max-age".toList
  · have hdate : attributeName written ≠ "expires".toList := by
      rw [hage]
      decide
    rw [if_pos hage, if_neg hdate, if_pos hage]
  · rw [if_neg hage, if_neg hage]
    by_cases hdate : attributeName written = "expires".toList
    · rw [if_pos hdate]
      cases lifetime? line with
      | none => rw [if_pos ⟨hdate, rfl⟩]
      | some seconds => rw [if_neg fun h => Option.some_ne_none seconds h.2]
    · rw [if_neg hdate, if_neg fun h => hdate h.1]

theorem endWithout?_eq_iff {name line : Text} {c : Cookie} :
    endWithout? name line c = c.expires ↔
      (name = "max-age".toList → endDate? line = c.expires) ∧
      (name = "expires".toList → lifetime? line = none → none = c.expires) := by
  unfold endWithout?
  split
  · next hage =>
    have hdate : name ≠ "expires".toList := by
      rw [hage]
      decide
    exact ⟨fun h => ⟨fun _ => h, fun hname => absurd hname hdate⟩, fun h => h.1 hage⟩
  · next hage =>
    split
    · next hdate =>
      exact ⟨fun h => ⟨fun hname => absurd hname hage, fun _ _ => h⟩,
        fun h => h.2 hdate.1 hdate.2⟩
    · next hdate =>
      refine iff_of_true rfl ⟨fun hname => absurd hname hage, fun hname hlife => ?_⟩
      exact absurd ⟨hname, hlife⟩ hdate

/-- A line with one more attribute behind it, which cannot be used, sets the cookie of the
line, with this difference: an unusable life in seconds leaves the date as the end of the life,
and an unusable date leaves none, unless a life in seconds is given.  So one about the domain
or the path has no effect, and another one has none exactly if the life ends as if the earlier
attributes of its name were not there. -/
theorem line_append_unusable {written : Text} (h : Unusable written) (hfree : ';' ∉ written)
    (line : Text) (origin : Url) (now : Instant) :
    ofLine? (line ++ ';' :: written) origin now =
      (ofLine? line origin now).map (fun c => { c with
        expires := endWithout? (attributeName written) line c }) ∧
    (ofLine? (line ++ ';' :: written) origin now = ofLine? line origin now ↔
      ∀ c, ofLine? line origin now = some c →
        (attributeName written = "max-age".toList → endDate? line = c.expires) ∧
        (attributeName written = "expires".toList → lifetime? line = none →
          none = c.expires)) := by
  have hsaid := (said_append hfree line).trans (h.read_eq (said line))
  have hscope := ofLine?_of_sameScope (front_append hfree line) (congrArg (·.domain) hsaid)
    (congrArg (·.path) hsaid) (congrArg (·.secure) hsaid) origin now
  cases hset : ofLine? line origin now with
  | none =>
      rw [hscope, hset]
      exact ⟨rfl, iff_of_true rfl nofun⟩
  | some c =>
      rw [hscope, hset, h.end?_eq hfree hset]
      refine ⟨rfl, ?_⟩
      calc some { c with expires := endWithout? (attributeName written) line c } = some c
          ↔ endWithout? (attributeName written) line c = c.expires := by
            constructor
            · intro hsame
              exact congrArg Cookie.expires (Option.some.inj hsame)
            · intro hsame
              rw [hsame]
        _ ↔ _ := by
            rw [endWithout?_eq_iff]
            simp only [Option.some.injEq, forall_eq']

/-- A deletion and an expiry date are taken back by attributes that say nothing. -/
theorem line_append_unusable_deletion :
    Unusable " Max-Age=soon".toList ∧ Unusable " Expires=soon".toList ∧
    ofLine? (sessionLine [" Max-Age=0", " Max-Age=soon"]) (page "a.example") ⟨0, 0⟩ =
      ofLine? (sessionLine []) (page "a.example") ⟨0, 0⟩ ∧
    ofLine? (sessionLine [pastDate, " Expires=soon"]) (page "a.example") ⟨0, 0⟩ =
      ofLine? (sessionLine []) (page "a.example") ⟨0, 0⟩ := by
  have hage : Unusable " Max-Age=soon".toList := .maxAge (by decide) (by decide)
  have hdate : Unusable " Expires=soon".toList := .expires (by decide) (by decide)
  refine ⟨hage, hdate, ?_, ?_⟩
  · exact (line_append_unusable hage (by decide) (sessionLine [" Max-Age=0"]) _ _).1.trans
      (by decide)
  · exact (line_append_unusable hdate (by decide) (sessionLine [pastDate]) _ _).1.trans
      (by decide)

/-- Not every attribute that cannot be used is passed over. -/
theorem line_append_unusable_not_ignored :
    ¬ ∀ (written line : Text) (origin : Url) (now : Instant), Unusable written → ';' ∉ written →
      ofLine? (line ++ ';' :: written) origin now = ofLine? line origin now := by
  intro h
  have hsame := h " Max-Age=soon".toList (sessionLine [" Max-Age=0"]) (page "a.example") ⟨0, 0⟩
    (.maxAge (by decide) (by decide)) (by decide)
  exact absurd hsame (by decide)

end PlainLink.Cookie
