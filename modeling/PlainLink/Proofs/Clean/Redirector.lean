/-
# A redirector

The link service of a search engine takes the URL to go on to as a field of its own,
escaped.  Such a link goes through two providers that know it: the one for every URL,
which deletes fields from the escaped URL as well, and the one of the search engine,
which leads on to what is left of it.

The provider between the two is not for the link, and none of the exceptions of the two
matches it, whatever URL is escaped in it.  Each of these facts is about a search in a
text of which only the beginning is known.  `Pattern.misses` is a check on that
beginning: the pattern takes more slashes than there are, or its search has come to its
end already.

Main statement: `pass_link`.
-/
import PlainLink.Proofs.Clean.Restarts
import PlainLink.Proofs.Clean.Tracking
import PlainLink.Proofs.Regex.Occurrence
import PlainLink.Proofs.Rule.Redirection
import PlainLink.Proofs.Rule.Tables
import PlainLink.Proofs.Url.Simple

namespace PlainLink

open Regex Clean

/-! ## A rule that misses -/

/-- Tells that the rule matches no text that begins with `t`, goes on with `next`
and has no further slash: it takes more slashes than `t` has, or its search comes to
its end inside `t`. -/
def Pattern.misses (p : Pattern) (t : Text) (next : Char) : Bool :=
  (p.regex.expr.progresses && decide (t.count '/' < p.regex.expr.least '/')) ||
    (p.regex.expr.anchored && (p.regex.stageBehind t (some next)).dead)

theorem Pattern.isMatch_of_misses {p : Pattern} {t rest : Text} {next : Char}
    (h : p.misses t next) (hnext : rest.head? = some next) (hslash : '/' ∉ rest) :
    p.isMatch (t ++ rest) = false := by
  rcases Bool.or_eq_true_iff.1 h with hcount | hdead
  · obtain ⟨hprogresses, hless⟩ := Bool.and_eq_true_iff.1 hcount
    have hless : (t ++ rest).count '/' < p.regex.expr.least '/' := by
      rw [List.count_append, List.count_eq_zero_of_not_mem hslash]
      exact of_decide_eq_true hless
    exact isMatch_eq_false_of_count hprogresses hless
  · obtain ⟨hanchored, hdead⟩ := Bool.and_eq_true_iff.1 hdead
    exact isMatch_append_of_dead hanchored (hnext ▸ hdead)

/-! ## The providers -/

namespace Bundled

def generalProvider : Provider := .read "globalRules".toList globalRules

/-- The provider that stands between the two that know the link. -/
def amazonProvider : Provider := .read "amazon".toList amazon

/-- The provider of the search engine. -/
def googleProvider : Provider := .read "google".toList google

theorem providers_eq_cons :
    Store.bundled.providers = generalProvider :: amazonProvider :: googleProvider ::
      (tables.drop 3).map fun t => .read t.1 t.2 :=
  providers_eq

/-- The rules that delete fields from every URL. -/
def generalRules : List Pattern :=
  generalProvider.rules ++ generalProvider.referralMarketing

/-- Fields of the name are deleted from every URL. -/
def Tracks (n : Text) : Prop :=
  ∃ p ∈ generalRules, p.deletes n

instance (n : Text) : Decidable (Tracks n) :=
  inferInstanceAs (Decidable (∃ p ∈ generalRules, p.deletes n))

/-- The URL with this text is one of those to which the rules for every URL do not apply. -/
def exempts (t : Text) : Bool :=
  generalProvider.exceptions.any (·.isMatch t)

/-- The text of a link, up to the escaped URL. -/
def link : Text := "https://www.google.com/url?q=".toList

/-! Each of these is told from the rules by themselves. -/

theorem namesFields_of_mem : ∀ p ∈ generalRules, p.namesFields ∧ ¬ p.deletes ['q'] := by
  unfold generalRules generalProvider Provider.read globalRules texts
  simp only [List.map_cons, List.map_nil]
  repeat rw [toList_ofList]
  decide +kernel

theorem looksBack_general : (generalProvider.urlPattern.regex.expr.progresses ∧
      generalProvider.urlPattern.regex.expr.looksBack ∧ generalProvider.urlPattern.isMatch []) ∧
    ∀ p ∈ generalProvider.exceptions, p.regex.expr.progresses ∧ p.regex.expr.looksBack := by
  unfold generalProvider Provider.read globalRules texts
  simp only [List.map_cons, List.map_nil]
  repeat rw [toList_ofList]
  decide +kernel

theorem misses_link :
    ∀ p ∈ generalProvider.exceptions ++ googleProvider.exceptions, p.misses link 'h' := by
  unfold generalProvider googleProvider Provider.read globalRules google texts link
  simp only [List.map_cons, List.map_nil]
  repeat rw [toList_ofList]
  decide +kernel

theorem isMatch_origin : ¬ amazonProvider.urlPattern.isMatch "https://www.google.com".toList ∧
    googleProvider.urlPattern.isMatch "https://www.google.com".toList := by
  unfold amazonProvider googleProvider Provider.read amazon google
  repeat rw [toList_ofList]
  decide +kernel

/-- With the scheme of the escaped URL, the first redirection rule is inside its group, which
begins where the escaped URL does and takes all but ampersands. -/
theorem inside_link (s : Scheme) : ∃ p ∈ googleProvider.redirections.head?,
    p.regex.expr.anchored ∧ ∃ w : Way, w.marks = [(2, link.length), (0, 0)] ∧
      w.set = .compl (.union (.char '&') .none) ∧
      (p.regex.stageBehind (link ++ (s.text ++ ['%'])) (some '3')).Inside w := by
  have hinside : ∃ p ∈ googleProvider.redirections.head?,
      p.regex.expr.anchored ∧ ∀ s ∈ [Scheme.http, .https],
        let stage := p.regex.stageBehind (link ++ (s.text ++ ['%'])) (some '3')
        ∃ w ∈ stage.ways.head?, w.marks = [(2, link.length), (0, 0)] ∧
          w.set = .compl (.union (.char '&') .none) ∧ w.lasts ∧
          stage.best = some ((1, stage.index) :: (3, stage.index) :: w.marks) := by
    unfold googleProvider Provider.read google texts link
    simp only [List.map_cons, List.map_nil]
    repeat rw [toList_ofList]
    decide +kernel
  obtain ⟨p, hp, hanchored, hinside⟩ := hinside
  obtain ⟨w, hw, hmarks, hset, hlasts, hbest⟩ := hinside s (by cases s <;> decide)
  exact ⟨p, hp, hanchored, w, hmarks, hset, hlasts, hbest, hw⟩

/-! ## The provider for every URL -/

theorem covers_general (u : Url) : covers generalProvider {} u ↔ ¬ exempts u.text := by
  obtain ⟨⟨hprogresses, hback, hempty⟩, -⟩ := looksBack_general
  have horigin : generalProvider.urlPattern.isMatch u.origin :=
    isMatch_append hprogresses hback hempty u.origin
  simp [covers, horigin, exempts]

theorem exempts_append {t : Text} (h : exempts t) (rest : Text) : exempts (t ++ rest) := by
  obtain ⟨p, hp, hmatch⟩ := List.any_eq_true.1 h
  obtain ⟨hprogresses, hback⟩ := looksBack_general.2 p hp
  exact List.any_eq_true.2 ⟨p, hp, isMatch_append hprogresses hback hmatch rest⟩

/-- Of a URL without fragment, the provider for every URL changes the query alone. -/
theorem strip_general {u : Url} (hquery : u.query ≠ []) (hfragment : u.fragment = []) :
    strip generalProvider {} u = { u with query := stripBy generalRules u.query } := by
  have hpath : stripPath generalProvider {} u.path = u.path := rfl
  have hkept : (if u.path.isEmpty then [] else u.path) = u.path := by
    split
    · next hempty => exact (List.isEmpty_iff.1 hempty).symm
    · rfl
  rw [strip, stripTracking_eq, hpath, hkept, if_neg (by simpa using hquery), hfragment]
  rfl

/-- A URL that the provider for every URL applies to goes on to the others without
the fields that track. -/
theorem pass_of_not_exempts {follow : Bool} {u : Url} (hexempts : ¬ exempts u.text)
    (hquery : u.query ≠ []) (hfragment : u.fragment = []) :
    pass {} follow Store.bundled.providers u =
      pass {} follow Store.bundled.providers.tail
        { u with query := stripBy generalRules u.query } := by
  rw [providers_eq_cons, pass_cons_of_covers ((covers_general u).2 hexempts) rfl,
    strip_general hquery hfragment]
  rfl

end Bundled

/-! ## The link -/

namespace Clean

open Bundled

theorem escapeQuestionMarks_eq_self {query : Text} (h : '?' ∉ query) :
    escapeQuestionMarks query = query := by
  induction query with
  | nil => rfl
  | cons c query ih =>
      obtain ⟨hc, hquery⟩ := List.ne_and_not_mem_of_not_mem_cons h
      rw [escapeQuestionMarks, List.flatMap_cons,
        if_neg (Ne.symm hc), ← escapeQuestionMarks, ih hquery]
      rfl

theorem target?_of_substitute {rule : Pattern} {s : Text} {u : Url} (hu : u.Simple)
    (h : rule.substitute s = Text.escape Text.isUnreserved u.text)
    (hne : Text.escape Text.isUnreserved u.text ≠ s)
    (hempty : Text.escape Text.isUnreserved u.text ≠ []) : target? s rule = some u := by
  have hmark : '?' ∉ u.query := fun hmem => by
    rcases hu.query _ hmem with hequals | hmark | hunreserved
    · exact absurd hequals (by decide)
    · exact absurd hmark (by decide)
    · exact absurd hunreserved (by decide)
  rw [target?, h, if_neg (by simp [hne, hempty]), hu.parse_unquote_escape]
  dsimp only
  rw [escapeQuestionMarks_eq_self hmark]

/-- The URL that a link is read as. -/
def linkUrl (q : Text) : Url where
  scheme := .https
  host := "www.google.com".toList
  writtenPort := none
  path := "/url".toList
  query := "q=".toList ++ q
  fragment := []

theorem text_linkUrl (q : Text) : (linkUrl q).text = link ++ q := by
  rw [Url.text_eq, Url.tail, linkUrl]
  exact List.append_nil (link ++ q)

/-- The text of an escaped URL: no other characters than those that need no escape, and `%`. -/
def Escaped (q : Text) : Prop :=
  ∀ c ∈ q, Text.isUnreserved c ∨ c = '%'

theorem escaped_escape (t : Text) : Escaped (Text.escape Text.isUnreserved t) := fun _ hc =>
  (Text.mem_escape hc).elim .inl id

theorem Escaped.not_mem {q : Text} (h : Escaped q) {c : Char} (hc : ¬ Text.isUnreserved c)
    (hne : c ≠ '%') : c ∉ q := fun hmem =>
  (h c hmem).elim hc hne

theorem parse_link {q : Text} (hq : Escaped q) : Url.parse (link ++ q) = .ok (linkUrl q) := by
  have hhost : ∀ c ∈ "www.google.com".toList, ¬ Url.isAuthorityEnd c ∧ c ≠ '@' ∧ c ≠ ':' := by
    simp [Url.isAuthorityEnd]
  have hpath : '?' ∉ "/url".toList ∧ '#' ∉ "/url".toList := by decide
  have hformed : (linkUrl q).WellFormed := by
    refine ⟨rfl, ?_, ?_, fun n hn => absurd hn (Option.not_mem_none n), ?_, hpath, ?_⟩
    · exact fun c hc => ⟨(hhost c hc).1, (hhost c hc).2.1⟩
    · exact fun hbracket => absurd (Option.some.inj hbracket) (by decide)
    · exact fun c hc => (Option.some.inj hc).symm
    · intro hmem
      rcases List.mem_append.1 hmem with hmem | hmem
      · exact absurd hmem (by decide)
      · exact hq.not_mem (by decide) (by decide) hmem
  rw [← text_linkUrl]
  refine hformed.parse_text (fun _ => .inr fun hmem => (hhost _ hmem).2.2 rfl) ?_
  rw [Text.trimEnd, Text.stripEnd_eq_self_iff]
  intro c hc
  have hmem : c ∈ (linkUrl q).text := by
    rw [Url.text_eq, Url.origin, List.append_assoc]
    exact List.mem_append_right _ (List.mem_of_getLast? hc)
  rw [text_linkUrl] at hmem
  rcases List.mem_append.1 hmem with hmem | hmem
  · have hlink : link.all Text.isSimple := by decide
    exact Text.not_isBlank_of_isSimple (List.all_eq_true.1 hlink c hmem)
  · rcases hq c hmem with hunreserved | rfl
    · exact Text.not_isBlank_of_isSimple (Text.isSimple_of_isUnreserved hunreserved)
    · decide

theorem isMatch_link {p : Pattern}
    (hp : p ∈ generalProvider.exceptions ++ googleProvider.exceptions)
    {q : Text} (hq : Escaped q) (hhead : q.head? = some 'h') :
    p.isMatch (linkUrl q).text = false := by
  rw [text_linkUrl]
  exact Pattern.isMatch_of_misses (misses_link p hp) hhead (hq.not_mem (by decide) (by decide))

theorem not_exempts_link {q : Text} (hq : Escaped q) (hhead : q.head? = some 'h') :
    ¬ exempts (linkUrl q).text := by
  intro hexempts
  obtain ⟨p, hp, hmatch⟩ := List.any_eq_true.1 hexempts
  rw [isMatch_link (List.mem_append_left _ hp) hq hhead] at hmatch
  cases hmatch

theorem covers_link {q : Text} (hq : Escaped q) (hhead : q.head? = some 'h') :
    ¬ covers amazonProvider {} (linkUrl q) ∧ covers googleProvider {} (linkUrl q) := by
  obtain ⟨hother, hown⟩ := isMatch_origin
  have horigin : (linkUrl q).origin = "https://www.google.com".toList := rfl
  have hnone : googleProvider.exceptions.any (·.isMatch (linkUrl q).text) = false := by
    refine List.any_eq_false.2 fun p hp => ?_
    rw [isMatch_link (List.mem_append_right _ hp) hq hhead]
    exact Bool.false_ne_true
  constructor
  · rw [covers, horigin, Bool.eq_false_iff.2 hother]
    simp
  · rw [covers, horigin, hown, hnone]
    rfl

/-- The escaped text of a simple URL begins with its scheme and the escape of the colon. -/
theorem escape_text (u : Url) :
    ∃ rest, Text.escape Text.isUnreserved u.text = u.scheme.text ++ '%' :: '3' :: rest := by
  refine ⟨"A%2F%2F".toList ++ Text.escape Text.isUnreserved (u.authority ++ u.tail), ?_⟩
  have hscheme : Text.escape Text.isUnreserved (u.scheme.text ++ "://".toList) =
      u.scheme.text ++ "%3A%2F%2F".toList := by
    cases u.scheme with
    | http => decide +kernel
    | https => decide +kernel
  rw [Url.text_eq, Url.origin, List.append_assoc, Text.escape_append, hscheme, List.append_assoc]
  rfl

theorem head?_escape_text (u : Url) :
    (Text.escape Text.isUnreserved u.text).head? = some 'h' := by
  obtain ⟨rest, hrest⟩ := escape_text u
  rw [hrest]
  cases u.scheme with
  | http => rfl
  | https => rfl

/-- The first redirection rule of the search engine leads from a link to the URL in it. -/
theorem findSome?_link {u : Url} (hu : u.Simple) :
    googleProvider.redirections.findSome?
      (target? (linkUrl (Text.escape Text.isUnreserved u.text)).text) = some u := by
  obtain ⟨p, hp, hanchored, w, hmarks, hset, hinside⟩ := inside_link u.scheme
  obtain ⟨more, hredirections⟩ := List.head?_eq_some_iff.1 hp
  obtain ⟨rest, hrest⟩ := escape_text u
  have htaken : ∀ c ∈ '3' :: rest, w.set.test c := by
    intro c hc
    have hmem : c ∈ Text.escape Text.isUnreserved u.text := by
      rw [hrest]
      exact List.mem_append_right _ (List.mem_cons_of_mem _ hc)
    have hne : c ≠ '&' := by
      rintro rfl
      exact (escaped_escape u.text).not_mem (by decide) (by decide) hmem
    simp [hset, CharSet.test, hne]
  have htext : link ++ (u.scheme.text ++ ['%']) ++ '3' :: rest =
      link ++ Text.escape Text.isUnreserved u.text := by
    rw [hrest]
    simp
  have hsubstitute : p.substitute (link ++ Text.escape Text.isUnreserved u.text) =
      Text.escape Text.isUnreserved u.text := by
    rw [← htext, p.substitute_of_inside hanchored hmarks hinside htaken, htext]
    exact List.drop_left
  have hne : Text.escape Text.isUnreserved u.text ≠
      link ++ Text.escape Text.isUnreserved u.text :=
    fun h => absurd (List.self_eq_append_left.1 h) (by decide)
  have hempty : Text.escape Text.isUnreserved u.text ≠ [] := by
    intro hnil
    have hhead := head?_escape_text u
    rw [hnil] at hhead
    cases hhead
  rw [hredirections, text_linkUrl, List.findSome?_cons,
    target?_of_substitute hu hsubstitute hne hempty]

/-- A link is sent on to the URL whose escaped text the rules for every URL leave of it. -/
theorem pass_link {q : Text} (hq : Escaped q) (hhead : q.head? = some 'h') {u : Url}
    (hu : u.Simple) (hstrip : stripBy generalRules ("q=".toList ++ q) =
      "q=".toList ++ Text.escape Text.isUnreserved u.text) :
    pass {} true Store.bundled.providers (linkUrl q) = .redirected u := by
  have hcovers := covers_link (escaped_escape u.text) (head?_escape_text u)
  rw [pass_of_not_exempts (not_exempts_link hq hhead) (List.cons_ne_nil _ _) rfl,
    providers_eq_cons]
  show pass {} true (amazonProvider :: googleProvider :: _)
    { linkUrl q with query := stripBy generalRules ("q=".toList ++ q) } = .redirected u
  rw [hstrip]
  show pass {} true _ (linkUrl (Text.escape Text.isUnreserved u.text)) = .redirected u
  rw [pass_cons_of_not_covers hcovers.1, pass_cons_of_target hcovers.2 (findSome?_link hu)]

/-- So a link is cleaned to what that URL is cleaned to with one redirection less. -/
theorem cleanUrl_link {q : Text} (hq : Escaped q) (hhead : q.head? = some 'h') {u : Url}
    (hu : u.Simple) (hstrip : stripBy generalRules ("q=".toList ++ q) =
      "q=".toList ++ Text.escape Text.isUnreserved u.text) :
    cleanUrl Store.bundled.providers {} (linkUrl q) =
      cleanWithin Store.bundled.providers {} (maxRestarts - 1) u := by
  have hnext : pass {} (!({} : CleanFlags).ignoreRedirections) Store.bundled.providers
      (linkUrl q) =
      .redirected u := pass_link hq hhead hu hstrip
  rw [cleanUrl_eq, maxRestarts, cleanWithin_succ, if_neg (by simp), hnext]

end Clean

end PlainLink
