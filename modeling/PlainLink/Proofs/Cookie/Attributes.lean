/-
# What each attribute of a line counts for

Every attribute that counts has a place of its own in what a line says, so that
attributes of different names may change places, and one without a known name may stand
anywhere or be left out.  Of several attributes of one name the last one counts, and a
life in seconds counts more than a date.

What a line says is a record of five parts.  An attribute touches the part of its name
and no other (`Attributes.put_eq`), so each part is said by the attributes of one name
(`foldl_read_parts`).  `Reordered` is thus stated name by name: the attributes of each
known name are the same ones in the same order, in whatever way they stand between the
others.

Main statement: `line_rearranged`.
-/
import PlainLink.Proofs.Cookie.Sites

namespace PlainLink.Cookie

/-! ## The parts of a line -/

/-- The name of an attribute, without capitals. -/
def attributeName (written : Text) : Text :=
  match Text.splitFirst? '=' written with
  | some (name, _) => Text.lower (Text.trim name)
  | none => Text.lower (Text.trim written)

/-- The value of an attribute; without an equals sign it is empty. -/
def attributeValue (written : Text) : Text :=
  match Text.splitFirst? '=' written with
  | some (_, value) => Text.trim value
  | none => []

/-- What stands before the first semicolon. -/
def front (line : Text) : Text :=
  (line.splitOn ';').headD []

/-- What stands between the semicolons and behind the last one. -/
def attributesOf (line : Text) : List Text :=
  (line.splitOn ';').tail

/-- What the attributes of a line say together. -/
def said (line : Text) : Attributes :=
  (attributesOf line).foldl Attributes.read {}

/-- The name and the value of a cookie; `none` if there is no name. -/
def pair? (written : Text) : Option (Text × Text) :=
  match Text.splitFirst? '=' written with
  | some (name, value) =>
    if (Text.trim name).isEmpty then none else some (Text.trim name, Text.trim value)
  | none => none

/-- A line sets its cookie through its front and through what its attributes say together. -/
theorem ofLine?_eq (line : Text) (origin : Url) (now : Instant) :
    ofLine? line origin now =
      (pair? (front line)).bind fun pair => make? pair.1 pair.2 (said line) origin now := by
  unfold ofLine? front said attributesOf pair?
  cases line.splitOn ';' with
  | nil => rfl
  | cons pair attributes =>
      dsimp only [List.headD_cons, List.tail_cons]
      cases Text.splitFirst? '=' pair with
      | none => rfl
      | some parts =>
          dsimp only
          split <;> rfl

/-! ## One attribute -/

theorem read_eq_put (a : Attributes) (written : Text) :
    a.read written = a.put (attributeName written) (attributeValue written) := by
  unfold Attributes.read attributeName attributeValue
  cases Text.splitFirst? '=' written <;> rfl

/-- Each attribute touches the place of its name and no other. -/
theorem put_eq (a : Attributes) (name value : Text) :
    a.put name value =
      { domain := if name = "domain".toList then
          (if value = [] then a.domain else some (Text.lower (value.dropWhile (· == '.'))))
          else a.domain
        path := if name = "path".toList then
          (if value.head? = some '/' then some value else a.path) else a.path
        secure := if name = "secure".toList then true else a.secure
        maxAge := if name = "max-age".toList then Text.int64? value else a.maxAge
        expires := if name = "expires".toList then date? value else a.expires } := by
  unfold Attributes.put
  by_cases hdomain : name = "domain".toList
  · subst hdomain
    cases value <;> simp
  · rw [if_neg hdomain]
    by_cases hpath : name = "path".toList
    · subst hpath
      by_cases hrooted : value.head? = some '/' <;> simp [hrooted]
    · rw [if_neg hpath]
      repeat' split
      all_goals simp_all

/-! ## Attributes by their names -/

attribute [ext] Attributes

/-- The names of the attributes that count beside the date on which the life ends. -/
def undated : List Text :=
  ["domain".toList, "path".toList, "secure".toList, "max-age".toList]

/-- The names of the attributes that count. -/
def known : List Text :=
  "expires".toList :: undated

/-- A part of what attributes say that only one name touches is said by the
attributes of that name. -/
theorem foldl_read_part {β : Type} (part : Attributes → β) {name : Text} (set : β → Text → β)
    (hread : ∀ a written, part (a.read written) =
      if attributeName written = name then set (part a) written else part a)
    (a : Attributes) (attributes : List Text) :
    part (attributes.foldl Attributes.read a) =
      (attributes.filter (attributeName · == name)).foldl set (part a) := by
  have hstep (a : Attributes) (written : Text) :
      (if attributeName written == name then set (part a) written else part a) =
        part (a.read written) := by
    rw [hread]
    simp only [beq_iff_eq]
  rw [List.foldl_filter]
  exact (List.foldl_hom part hstep).symm

/-- The attributes of one name are the same ones in the same order. -/
def SameNamed (name : Text) (attributes attributes' : List Text) : Prop :=
  attributes.filter (attributeName · == name) = attributes'.filter (attributeName · == name)

/-- Each part of what attributes say is decided by the attributes of one name. -/
theorem foldl_read_parts (a : Attributes) (attributes attributes' : List Text) :
    let said := attributes.foldl Attributes.read a
    let said' := attributes'.foldl Attributes.read a
    (SameNamed "domain".toList attributes attributes' → said.domain = said'.domain) ∧
    (SameNamed "path".toList attributes attributes' → said.path = said'.path) ∧
    (SameNamed "secure".toList attributes attributes' → said.secure = said'.secure) ∧
    (SameNamed "max-age".toList attributes attributes' → said.maxAge = said'.maxAge) ∧
    (SameNamed "expires".toList attributes attributes' → said.expires = said'.expires) := by
  have hpart {β : Type} (part : Attributes → β) (name : Text) (set : β → Text → β)
      (hread : ∀ a written, part (a.read written) =
        if attributeName written = name then set (part a) written else part a)
      (h : SameNamed name attributes attributes') :
      part (attributes.foldl Attributes.read a) =
        part (attributes'.foldl Attributes.read a) := by
    rw [foldl_read_part part set hread, foldl_read_part part set hread, h]
  refine ⟨?_, ?_, ?_, ?_, ?_⟩
  · exact hpart (·.domain) "domain".toList
      (fun domain written => if attributeValue written = [] then domain else
        some (Text.lower ((attributeValue written).dropWhile (· == '.'))))
      fun a written => by rw [read_eq_put, put_eq]
  · exact hpart (·.path) "path".toList
      (fun path written => if (attributeValue written).head? = some '/' then
        some (attributeValue written) else path)
      fun a written => by rw [read_eq_put, put_eq]
  · exact hpart (·.secure) "secure".toList (fun _ _ => true)
      fun a written => by rw [read_eq_put, put_eq]
  · exact hpart (·.maxAge) "max-age".toList
      (fun _ written => Text.int64? (attributeValue written))
      fun a written => by rw [read_eq_put, put_eq]
  · exact hpart (·.expires) "expires".toList (fun _ written => date? (attributeValue written))
      fun a written => by rw [read_eq_put, put_eq]

/-! ## The end of the life -/

def lastNamed? (name line : Text) : Option Text :=
  ((attributesOf line).filter (attributeName · == name)).getLast?

/-- The life in seconds, by the last attribute about it; `none` if that cannot be read. -/
def lifetime? (line : Text) : Option Int :=
  (lastNamed? "max-age".toList line).bind fun written => Text.int64? (attributeValue written)

/-- The date on which the life ends, by the last attribute about it; `none` if
that cannot be read. -/
def endDate? (line : Text) : Option Instant :=
  (lastNamed? "expires".toList line).bind fun written => date? (attributeValue written)

theorem foldl_overwrite {α β : Type} (f : α → β) (b : β) (l : List α) :
    l.foldl (fun _ x => f x) b = (l.getLast?.map f).getD b := by
  induction l generalizing b with
  | nil => rfl
  | cons x l ih =>
      rw [List.foldl_cons, ih, List.getLast?_cons]
      cases l.getLast? <;> rfl

/-- A part that the attributes of one name overwrite is said by the last one of them. -/
theorem said_part {β : Type} (part : Attributes → Option β) {name : Text}
    (value? : Text → Option β) (hread : ∀ a written, part (a.read written) =
      if attributeName written = name then value? (attributeValue written) else part a)
    (hempty : part {} = none) (line : Text) :
    part (said line) =
      (lastNamed? name line).bind fun written => value? (attributeValue written) := by
  have hpart := foldl_read_part part (fun _ written => value? (attributeValue written)) hread {}
    (attributesOf line)
  rw [said, hpart, foldl_overwrite, hempty, lastNamed?]
  cases ((attributesOf line).filter (attributeName · == name)).getLast? <;> rfl

theorem said_maxAge (line : Text) : (said line).maxAge = lifetime? line :=
  said_part (·.maxAge) Text.int64? (fun a written => by rw [read_eq_put, put_eq]) rfl line

theorem said_expires (line : Text) : (said line).expires = endDate? line :=
  said_part (·.expires) date? (fun a written => by rw [read_eq_put, put_eq]) rfl line

/-- Attributes that differ only about the life make the same cookie with
another end of its life. -/
theorem make?_of_sameScope {a b : Attributes} (hdomain : b.domain = a.domain)
    (hpath : b.path = a.path) (hsecure : b.secure = a.secure) (name value : Text) (origin : Url)
    (now : Instant) :
    make? name value b origin now =
      (make? name value a origin now).map fun c => { c with expires := b.end? now } := by
  unfold make?
  rw [hdomain, hpath, hsecure]
  cases a.domain with
  | none => rfl
  | some domain =>
      dsimp only
      split <;> rfl

theorem expires_of_ofLine? {line : Text} {origin : Url} {now : Instant} {c : Cookie}
    (h : ofLine? line origin now = some c) : c.expires = (said line).end? now := by
  rw [ofLine?_eq] at h
  obtain ⟨pair, -, hmake⟩ := Option.bind_eq_some_iff.1 h
  rw [make?_of_sameScope rfl rfl rfl] at hmake
  obtain ⟨d, -, rfl⟩ := Option.map_eq_some_iff.1 hmake
  rfl

/-- Lines that differ only about the life set the same cookie with another end of its life. -/
theorem ofLine?_of_sameScope {line line' : Text} (hfront : front line' = front line)
    (hdomain : (said line').domain = (said line).domain)
    (hpath : (said line').path = (said line).path)
    (hsecure : (said line').secure = (said line).secure) (origin : Url) (now : Instant) :
    ofLine? line' origin now =
      (ofLine? line origin now).map fun c => { c with expires := (said line').end? now } := by
  rw [ofLine?_eq, ofLine?_eq, hfront]
  cases pair? (front line) with
  | none => rfl
  | some pair => exact make?_of_sameScope hdomain hpath hsecure pair.1 pair.2 origin now

/-! ## Attributes in another order -/

/-- The same attributes in some order, those of one name in the order that they had. -/
structure Reordered (attributes attributes' : List Text) : Prop where
  perm : attributes.Perm attributes'
  sameNamed : ∀ name, SameNamed name attributes attributes'

theorem reordered_swap {x y : Text} (h : attributeName x ≠ attributeName y)
    (before behind : List Text) :
    Reordered (before ++ x :: y :: behind) (before ++ y :: x :: behind) where
  perm := (List.Perm.swap y x behind).append_left before
  sameNamed := by
    intro name
    unfold SameNamed
    rw [List.filter_append, List.filter_append]
    by_cases hx : attributeName x = name
    · have hy : attributeName y ≠ name := fun hy => h (hx.trans hy.symm)
      simp [hx, hy]
    · simp [List.filter_cons, hx]

theorem sameNamed_insert {written name : Text} (h : attributeName written ≠ name)
    (before behind : List Text) :
    SameNamed name (before ++ behind) (before ++ written :: behind) := by
  rw [SameNamed, List.filter_append, List.filter_append,
    List.filter_cons_of_neg (by simpa using h)]

theorem ofLine?_congr {line line' : Text} (hfront : front line' = front line)
    (h : ∀ name ∈ known, SameNamed name (attributesOf line) (attributesOf line')) (origin : Url)
    (now : Instant) : ofLine? line' origin now = ofLine? line origin now := by
  obtain ⟨hdomain, hpath, hsecure, hmaxAge, hexpires⟩ :=
    foldl_read_parts {} (attributesOf line) (attributesOf line')
  simp only [known, undated, List.forall_mem_cons] at h
  obtain ⟨hsameDate, hsameDomain, hsamePath, hsameSecure, hsameAge, -⟩ := h
  have hsaid : said line = said line' :=
    Attributes.ext (hdomain hsameDomain) (hpath hsamePath) (hsecure hsameSecure)
      (hmaxAge hsameAge)
      (hexpires hsameDate)
  rw [ofLine?_eq, ofLine?_eq, hfront, hsaid]

/-- Where the life in seconds can be read, the attributes about the date do not count. -/
theorem ofLine?_congr_of_lifetime {line line' : Text} (hfront : front line' = front line)
    (h : ∀ name ∈ undated, SameNamed name (attributesOf line) (attributesOf line'))
    (hlife : lifetime? line ≠ none) (origin : Url) (now : Instant) :
    ofLine? line' origin now = ofLine? line origin now := by
  obtain ⟨hdomain, hpath, hsecure, hmaxAge, -⟩ :=
    foldl_read_parts {} (attributesOf line) (attributesOf line')
  simp only [undated, List.forall_mem_cons] at h
  obtain ⟨hsameDomain, hsamePath, hsameSecure, hsameAge, -⟩ := h
  have hscope := ofLine?_of_sameScope hfront (hdomain hsameDomain).symm (hpath hsamePath).symm
    (hsecure hsameSecure).symm origin now
  have hage : (said line).maxAge = (said line').maxAge := hmaxAge hsameAge
  obtain ⟨seconds, hseconds⟩ := Option.ne_none_iff_exists'.1 hlife
  have hend : (said line').end? now = (said line).end? now := by
    rw [Attributes.end?, Attributes.end?, ← hage, said_maxAge, hseconds]
  rw [hscope, hend]
  cases hset : ofLine? line origin now with
  | none => rfl
  | some c => rw [Option.map_some, ← expires_of_ofLine? hset]

/-- Whoever sets the attributes of a line in another order, those of one name in the order that
they had, or puts in one of an unknown name anywhere, writes a line that sets the same cookie.
Where the last attribute about the life in seconds can be read, those about its date do not
count, wherever they stand. -/
theorem line_rearranged {line line' : Text} (hfront : front line' = front line) (origin : Url)
    (now : Instant) :
    (Reordered (attributesOf line) (attributesOf line') →
      ofLine? line' origin now = ofLine? line origin now) ∧
    (∀ before unknown behind, attributesOf line = before ++ behind →
      attributesOf line' = before ++ unknown :: behind → attributeName unknown ∉ known →
      ofLine? line' origin now = ofLine? line origin now) ∧
    ((∀ name ∈ undated, SameNamed name (attributesOf line) (attributesOf line')) →
      lifetime? line ≠ none → ofLine? line' origin now = ofLine? line origin now) := by
  refine ⟨?_, ?_, ?_⟩
  · intro hreordered
    exact ofLine?_congr hfront (fun name _ => hreordered.sameNamed name) origin now
  · intro before unknown behind hline hline' hunknown
    refine ofLine?_congr hfront ?_ origin now
    intro name hname
    rw [hline, hline']
    exact sameNamed_insert (fun h => hunknown (h ▸ hname)) before behind
  · intro hsame hlife
    exact ofLine?_congr_of_lifetime hfront hsame hlife origin now

/-- A line that sets a session cookie with some attributes. -/
def sessionLine (attributes : List String) : Text :=
  Text.join [';'] ("sid=1".toList :: attributes.map (·.toList))

def pastDate : String :=
  " Expires=Wed, 21 Oct 2015 07:28:00 GMT"

/-- Behind a life in seconds a date may stand, or in front of it, or nowhere, and an attribute
of an unknown name between them. -/
theorem line_rearranged_session :
    (Reordered (attributesOf (sessionLine [" Max-Age=60", pastDate]))
        (attributesOf (sessionLine [pastDate, " Max-Age=60"])) ∧
      ofLine? (sessionLine [pastDate, " Max-Age=60"]) (page "a.example") ⟨0, 0⟩ =
        ofLine? (sessionLine [" Max-Age=60", pastDate]) (page "a.example") ⟨0, 0⟩) ∧
    (attributeName " HttpOnly".toList ∉ known ∧
      ofLine? (sessionLine [" Max-Age=60", " HttpOnly", pastDate]) (page "a.example") ⟨0, 0⟩ =
        ofLine? (sessionLine [" Max-Age=60", pastDate]) (page "a.example") ⟨0, 0⟩) ∧
    lifetime? (sessionLine [" Max-Age=60", pastDate]) = some 60 ∧
      ofLine? (sessionLine [" Max-Age=60"]) (page "a.example") ⟨0, 0⟩ =
        ofLine? (sessionLine [" Max-Age=60", pastDate]) (page "a.example") ⟨0, 0⟩ := by
  have hcut : attributesOf (sessionLine [" Max-Age=60", pastDate]) =
      [" Max-Age=60".toList, pastDate.toList] := by decide
  have hswap : Reordered (attributesOf (sessionLine [" Max-Age=60", pastDate]))
      (attributesOf (sessionLine [pastDate, " Max-Age=60"])) := by
    have hcut' : attributesOf (sessionLine [pastDate, " Max-Age=60"]) =
        [pastDate.toList, " Max-Age=60".toList] := by decide
    rw [hcut, hcut']
    exact reordered_swap (by decide) [] []
  have hunknown : attributeName " HttpOnly".toList ∉ known := by decide
  have hlife : lifetime? (sessionLine [" Max-Age=60", pastDate]) = some 60 := by decide
  have hundated : ∀ name ∈ undated, SameNamed name
      (attributesOf (sessionLine [" Max-Age=60", pastDate]))
      (attributesOf (sessionLine [" Max-Age=60"])) := by
    unfold SameNamed
    decide
  refine ⟨⟨hswap, ?_⟩, ⟨hunknown, ?_⟩, hlife, ?_⟩
  · exact (line_rearranged (by decide) _ _).1 hswap
  · exact (line_rearranged (by decide) _ _).2.1 [" Max-Age=60".toList] " HttpOnly".toList
      [pastDate.toList] hcut (by decide) hunknown
  · exact (line_rearranged (by decide) _ _).2.2 hundated
      (by rw [hlife]; exact Option.some_ne_none _)

example : (ofLine? (sessionLine [pastDate, " HttpOnly", " Max-Age=60"])
  (page "a.example") ⟨0, 0⟩).map
    (·.expires) = some (some ⟨60, 0⟩) := by decide

end PlainLink.Cookie
