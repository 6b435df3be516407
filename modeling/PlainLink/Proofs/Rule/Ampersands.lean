/-
# Ampersands at the end of a text

Where the last fields of a query are deleted, their ampersands stay until the query is
put in order.  What a rule does in between must not depend on how many there are.  It
does not, for each of the uses that a rule may have, if its expression stays out of a
run of ampersands:

  * it is matched with the run if and only if it is matched without
    (`isMatch_append_ampersands`);
  * as a field rule, it deletes the same fields and leaves the run
    (`stripFields_append_ampersands`);
  * as a redirection rule, it either leaves the text as it is or leaves its first group,
    which is a part of the text in front of the run (`substitute_append_ampersands`).

A redirection rule takes the rest of the line behind its group, so that the last point
asks for a text without line feeds.  What is asked of a rule can be evaluated.
-/
import PlainLink.Proofs.Regex.Anchored
import PlainLink.Proofs.Regex.Endings
import PlainLink.Proofs.Rule.Completed
import PlainLink.Proofs.Rule.FieldList

namespace PlainLink

open Regex

def ampersands (n : Nat) : Text :=
  List.replicate n '&'

theorem eq_of_mem_ampersands {n : Nat} : ∀ d ∈ ampersands n, d = '&' :=
  fun _ => List.eq_of_mem_replicate

namespace Pattern

theorem join_append_replicate {segments : List Text} (hne : segments ≠ []) (n : Nat) :
    Text.join ['&'] (segments ++ List.replicate n []) =
      Text.join ['&'] segments ++ ampersands n := by
  obtain ⟨first, more, rfl⟩ := List.exists_cons_of_ne_nil hne
  have hrun : (List.replicate n []).flatMap ('&' :: ·) = ampersands n := by
    rw [ampersands]
    induction n with
    | zero => rfl
    | succ n ih => rw [List.replicate_succ, List.replicate_succ, List.flatMap_cons, ih]; rfl
  rw [List.cons_append, join_ampersand, join_ampersand, List.flatMap_append, hrun,
    List.append_assoc]

variable {p : Pattern}

/-! ## Matching -/

/-- Ampersands at the end of a text make no difference to whether the rule matches it. -/
def matchesBefore (p : Pattern) : Bool :=
  let e := p.regex.expr
  e.progresses && e.looksBack && e.stuck '&' && e.needsNone '&'

theorem isMatch_append_ampersands (h : p.matchesBefore) (text : Text) (n : Nat) :
    p.isMatch (text ++ ampersands n) = p.isMatch text := by
  simp only [matchesBefore, Bool.and_eq_true] at h
  obtain ⟨⟨⟨hprogresses, hback⟩, hstuck⟩, hneeds⟩ := h
  exact Bool.eq_iff_iff.2
    (isMatch_append_iff hprogresses hback hstuck hneeds eq_of_mem_ampersands text)

/-! ## Deleting fields -/

/-- Ampersands at the end of a list make no difference to the fields that the rule deletes. -/
def stripsBefore (p : Pattern) : Bool :=
  let e := p.regex.expr
  e.progresses && e.looksBack && e.stuck '&' && e.staysBefore '&' && e.takesSomething

theorem endsField_append_ampersands (t : Text) (n : Nat) :
    endsField (t ++ ampersands n) = endsField t := by
  cases n with
  | zero => rw [ampersands, List.replicate_zero, List.append_nil]
  | succ n =>
      rw [ampersands, List.replicate_succ]
      rcases t with _ | ⟨a, _ | ⟨b, _ | ⟨c, t⟩⟩⟩
      · rfl
      all_goals
        unfold endsField
        split <;> split <;> simp_all

section

variable (hprogresses : p.regex.expr.progresses) (hback : p.regex.expr.looksBack)
  (hstuck : p.regex.expr.stuck '&') (hstays : p.regex.expr.staysBefore '&')

include hprogresses

/-- A match that begins at a place is read the same way where the text goes on. -/
theorem fieldText_append_ampersands {n index : Nat} {before : Option Char}
    {text : Text} {q : Spot} (hmatch : p.regex.expr.matchAt? ⟨index, before, text, []⟩ = some q)
    (hmore : p.regex.expr.matchAt? ⟨index, before, text ++ ampersands n, []⟩ =
      some (q.extend (ampersands n))) :
    fieldText ⟨index, text ++ ampersands n, q.marks⟩ = fieldText ⟨index, text, q.marks⟩ := by
  have hfind : p.regex.findFrom? index before text = some ⟨index, text, q.marks⟩ := by
    rw [findFrom?_eq_firstMatch? hprogresses]
    cases text with
    | nil => rw [Expr.firstMatch?, hmatch, Option.map_some]
    | cons c rest => rw [Expr.firstMatch?, hmatch, Option.some_or, Option.map_some]
  obtain ⟨-, start, stop, hspans⟩ := findFrom?_spans hfind
  obtain ⟨taken, hto, -⟩ := Expr.to_of_matchAt? hmatch
  have hto' : (Spot.mk index before (text ++ ampersands n) []).To taken
      (q.extend (ampersands n)) := by
    refine ⟨?_, hto.index, hto.before⟩
    have hrest : text = taken ++ q.rest := hto.rest
    simp [Spot.extend, hrest]
  obtain ⟨-, htaken, hafter⟩ := Match.parts_of_matchAt? hmatch hto
  obtain ⟨-, htaken', hafter'⟩ := Match.parts_of_matchAt? hmore hto'
  have hmarks : (q.extend (ampersands n)).marks = q.marks := rfl
  rw [hmarks] at htaken' hafter'
  rw [fieldText, fieldText, hafter, hafter', hspans.group?_append, htaken, htaken']
  rw [show (q.extend (ampersands n)).rest = q.rest ++ ampersands n from rfl,
    endsField_append_ampersands]

include hback hstuck hstays

theorem rewrites_append_ampersands {index : Nat} {before : Option Char} {text out : Text}
    (h : Rewrites p.regex.expr fieldText index before text out) (n : Nat) :
    Rewrites p.regex.expr fieldText index before (text ++ ampersands n)
      (out ++ ampersands n) := by
  have hmatch := fun p' : Spot =>
    Expr.matchAt?_extend hback hprogresses hstays (eq_of_mem_ampersands (n := n)) p'
  induction h with
  | @stop index before hnone =>
      -- The run itself is kept, one ampersand after the other.
      clear hmatch hnone
      induction n generalizing index before with
      | zero =>
          refine .stop ?_
          rw [Expr.matchAt?, Expr.outs_of_stuck hstuck fun d hd => absurd hd List.not_mem_nil]
          rfl
      | succ n ih =>
          refine .keep ?_ ih
          rw [Expr.matchAt?,
            Expr.outs_of_stuck hstuck fun d hd => eq_of_mem_ampersands (n := n + 1) d hd]
          rfl
  | @keep index before c rest out hnone _ ih =>
      refine .keep ?_ ih
      have hhere := hmatch ⟨index, before, c :: rest, []⟩
      rwa [hnone] at hhere
  | @put index before text out q hsome _ ih =>
      have hhere := hmatch ⟨index, before, text, []⟩
      rw [hsome] at hhere
      rw [List.append_assoc, ← fieldText_append_ampersands hprogresses hsome hhere]
      exact Rewrites.put (q := q.extend (ampersands n)) hhere ih

end

/-- A field rule deletes the same fields where ampersands stand at the
end, and leaves these. -/
theorem stripFields_append_ampersands (h : p.stripsBefore) (text : Text) (n : Nat) :
    p.stripFields (text ++ ampersands n) = p.stripFields text ++ ampersands n := by
  simp only [stripsBefore, Bool.and_eq_true] at h
  obtain ⟨⟨⟨⟨hprogresses, hback⟩, hstuck⟩, hstays⟩, htakes⟩ := h
  obtain ⟨out, hout⟩ := exists_rewrites htakes fieldText 0 none text
  rw [stripFields_eq, stripFields_eq, hout.replaceAll_eq hprogresses htakes fieldText_ofParts,
    (rewrites_append_ampersands hprogresses hback hstuck hstays hout n).replaceAll_eq
      hprogresses htakes
      fieldText_ofParts]

/-! ## Redirecting -/

/-- Ampersands at the end of a text make no difference to where the rule leads. -/
def leadsBefore (p : Pattern) : Bool :=
  match p.regex.expr with
  | .seq e rest => decide (rest = restExpr) && e.anchored && e.progresses && e.looksBack
      && e.staysBefore '&'
  | _ => false

/-- The rest of a line is taken to its end, and nothing is remembered of it. -/
theorem exists_outs_restExpr {q : Spot} (hline : '\n' ∉ q.rest) :
    ∃ r rs, restExpr.outs q = r :: rs ∧ r.marks = q.marks ∧ r.index = q.index + q.rest.length := by
  have hall : ∀ c ∈ q.rest, (CharSet.except ['\n']).test c := by
    intro c hc
    have hne : c ≠ '\n' := fun heq => hline (heq ▸ hc)
    simpa [CharSet.except, CharSet.test] using hne
  have hrests := Expr.map_rest_outs (e := restExpr) rfl q
  have hhead : (restExpr.rests q.rest).head? = some [] := by
    rw [restExpr, Expr.head?_rests_of_set, ← List.append_nil q.rest,
      List.dropWhile_append_of_pos hall]
    rfl
  cases hmore : restExpr.outs q with
  | nil =>
      rw [hmore] at hrests
      rw [← hrests] at hhead
      cases hhead
  | cons r rs =>
      have hmem : r ∈ restExpr.outs q := hmore ▸ List.mem_cons_self
      have hnil : r.rest = [] := by
        rw [← hrests, hmore] at hhead
        exact Option.some.inj hhead
      obtain ⟨taken, hto⟩ := Expr.outs_to hmem
      refine ⟨r, rs, rfl, Expr.marks_of_mem_outs rfl hmem, ?_⟩
      rw [hto.index, hto.rest, hnil, List.append_nil]

section

variable {e : Expr} {text : Text} (hexpr : p.regex.expr = .seq e restExpr)
  (hanchored : e.anchored) (hprogresses : e.progresses) (hline : '\n' ∉ text)

include hexpr hanchored hprogresses hline

theorem find?_of_head? :
    p.regex.find? text = (e.outs ⟨0, none, text, [(0, 0)]⟩).head?.map fun q =>
      ⟨0, text, (1, text.length) :: q.marks⟩ := by
  have hrest : restExpr.progresses := rfl
  have hwhole : p.regex.expr.progresses := by
    rw [hexpr]
    exact Bool.and_eq_true_iff.2 ⟨hprogresses, hrest⟩
  have htied : p.regex.expr.anchored := by
    rw [hexpr]
    exact hanchored
  rw [find?_of_anchored hwhole htied, Expr.matchAt?, hexpr, Expr.outs, Spot.mark]
  cases houts : e.outs ⟨0, none, text, [(0, 0)]⟩ with
  | nil => rfl
  | cons q qs =>
      obtain ⟨taken, hto⟩ := Expr.outs_to (houts ▸ List.mem_cons_self : q ∈ e.outs _)
      have htext : text = taken ++ q.rest := hto.rest
      obtain ⟨r, rs, hmore, hmarks, hindex⟩ := exists_outs_restExpr (q := q) fun hmem =>
        hline (htext ▸ List.mem_append_right _ hmem)
      have hend : r.index = text.length := by
        rw [hindex, hto.index, htext, List.length_append, Nat.zero_add]
      simp [hmore, Spot.mark, hend, hmarks]

/-- Ampersands at the end of the text are taken with the rest of the line. -/
theorem find?_append_ampersands (hback : e.looksBack) (hstays : e.staysBefore '&') (n : Nat) :
    p.regex.find? (text ++ ampersands n) =
      (e.outs ⟨0, none, text, [(0, 0)]⟩).head?.map fun q =>
        ⟨0, text ++ ampersands n, (1, (text ++ ampersands n).length) :: q.marks⟩ := by
  have hline' : '\n' ∉ text ++ ampersands n := by
    intro hmem
    rcases List.mem_append.1 hmem with hmem | hmem
    · exact hline hmem
    · exact absurd (eq_of_mem_ampersands _ hmem) (by decide)
  have houts := Expr.outs_extend hback hprogresses hstays (eq_of_mem_ampersands (n := n))
    ⟨0, none, text, [(0, 0)]⟩
  have hpoint : Spot.extend (ampersands n) ⟨0, none, text, [(0, 0)]⟩ =
      ⟨0, none, text ++ ampersands n, [(0, 0)]⟩ := rfl
  rw [find?_of_head? hexpr hanchored hprogresses hline', ← hpoint, houts, List.head?_map,
    Option.map_map]
  rfl

end

/-- A redirection rule leaves a text with ampersands at its end as it is, however many there
are, or it leaves the same part of the text in front of them. -/
theorem substitute_append_ampersands (h : p.leadsBefore) {text : Text} (hline : '\n' ∉ text) :
    (∀ n, p.substitute (text ++ ampersands n) = text ++ ampersands n) ∨
      ∃ found, found.length ≤ text.length ∧ ∀ n,
        p.substitute (text ++ ampersands n) = found := by
  unfold leadsBefore at h
  split at h
  · next e rest hexpr =>
    simp only [Bool.and_eq_true, decide_eq_true_eq] at h
    obtain ⟨⟨⟨⟨rfl, hanchored⟩, hprogresses⟩, hback⟩, hstays⟩ := h
    have htied : p.regex.expr.anchored := by
      rw [hexpr]
      exact hanchored
    have hfind := find?_append_ampersands hexpr hanchored hprogresses hline hback hstays
    cases hhead : (e.outs ⟨0, none, text, [(0, 0)]⟩).head? with
    | none =>
        refine .inl fun n => ?_
        have hnone := hfind n
        rw [hhead] at hnone
        exact replaceFrom_of_none hnone
    | some q =>
        rw [hhead] at hfind
        have hzero : p.regex.find? text = some ⟨0, text, (1, text.length) :: q.marks⟩ := by
          have hzero := hfind 0
          rwa [ampersands, List.replicate_zero, List.append_nil] at hzero
        obtain ⟨-, start, stop, hspans⟩ := findFrom?_spans hzero
        refine .inr ⟨((Match.mk 0 text ((1, text.length) :: q.marks)).group? 1).getD [],
          ?_, fun n => ?_⟩
        · have hparts := congrArg List.length hspans.parts
          have hgroup := (hspans.group?_sublist 1).length_le
          simp only [List.length_append] at hparts
          omega
        · have hafter : (Match.mk 0 (text ++ ampersands n)
              ((1, (text ++ ampersands n).length) :: q.marks)).after = [] := by
            simp [Match.after, Match.position?]
          have hgroup := hspans.group?_append (ampersands n) 1
          rw [substitute, replaceAll_of_anchored htied (hfind n), hafter,
            List.append_nil, ← hgroup]
          simp [Match.group?, Match.position?]
  · cases h

end Pattern

end PlainLink
