/-
# Lists that are gone through until something fails

What is loaded is a list of items, each of which may fail.  Going through it succeeds
where each item does, and keeps their order.  Otherwise the first item that fails
decides, whatever stands behind it.

Main statements: `mapM_eq_ok_iff`, `mapM_eq_error_iff`.
-/
import Mathlib.Data.List.Forall2
import PlainLink.Proofs.Regex.Locality

namespace PlainLink

variable {α β γ ε : Type} {f : α → Except ε β}

theorem map_eq_error_iff {x : Except ε α} {g : α → β} {e : ε} :
    x.map g = .error e ↔ x = .error e := by
  cases x <;> simp [Except.map]

/-! ## Success -/

/-- Going through a list succeeds where each item does, and keeps their order. -/
theorem mapM_eq_ok_iff {as : List α} {bs : List β} :
    as.mapM f = .ok bs ↔ List.Forall₂ (fun a b => f a = .ok b) as bs := by
  induction as generalizing bs with
  | nil => cases bs <;> simp [pure, Except.pure]
  | cons a as ih =>
      rw [List.mapM_cons]
      constructor
      · intro h
        obtain ⟨b, hb, h⟩ := exists_of_bind_eq_ok h
        obtain ⟨bs', hbs, h⟩ := exists_of_bind_eq_ok h
        cases h
        exact .cons hb (ih.1 hbs)
      · intro h
        cases h with
        | cons hb hbs =>
            rw [hb, ih.2 hbs]
            rfl

theorem exists_mapM_eq_ok_iff {as : List α} :
    (∃ bs, as.mapM f = .ok bs) ↔ ∀ a ∈ as, ∃ b, f a = .ok b := by
  induction as with
  | nil => exact iff_of_true ⟨[], rfl⟩ fun _ ha => absurd ha List.not_mem_nil
  | cons a as ih =>
      rw [List.forall_mem_cons, ← ih]
      constructor
      · rintro ⟨bs, h⟩
        cases mapM_eq_ok_iff.1 h with
        | cons hb hbs => exact ⟨⟨_, hb⟩, ⟨_, mapM_eq_ok_iff.2 hbs⟩⟩
      · rintro ⟨⟨b, hb⟩, ⟨bs, hbs⟩⟩
        exact ⟨b :: bs, mapM_eq_ok_iff.2 (.cons hb (mapM_eq_ok_iff.1 hbs))⟩

theorem mapM_append_eq_ok_iff {as bs : List α} {out : List β} :
    (as ++ bs).mapM f = .ok out ↔
      ∃ xs ys, as.mapM f = .ok xs ∧ bs.mapM f = .ok ys ∧ out = xs ++ ys := by
  rw [List.mapM_append]
  constructor
  · intro h
    obtain ⟨xs, hxs, h⟩ := exists_of_bind_eq_ok h
    obtain ⟨ys, hys, h⟩ := exists_of_bind_eq_ok h
    cases h
    exact ⟨xs, ys, hxs, hys, rfl⟩
  · rintro ⟨xs, ys, hxs, hys, rfl⟩
    rw [hxs, hys]
    rfl

theorem mapM_map_eq (g : β → γ) (as : List α) :
    as.mapM (fun a => (f a).map g) = (as.mapM f).map (List.map g) := by
  induction as with
  | nil => rfl
  | cons a as ih =>
      rw [List.mapM_cons, List.mapM_cons, ih]
      cases f a with
      | error e => rfl
      | ok b => cases as.mapM f <;> rfl

/-! ## Failure -/

/-- The first item that fails does so with this error, whatever stands behind it. -/
def FirstFails (f : α → Except ε β) (as : List α) (e : ε) : Prop :=
  ∃ front a back, as = front ++ a :: back ∧ (∀ x ∈ front, ∃ b, f x = .ok b) ∧ f a = .error e

theorem FirstFails.head {a : α} {as : List α} {e : ε} (h : f a = .error e) :
    FirstFails f (a :: as) e :=
  ⟨[], a, as, rfl, fun _ hx => absurd hx List.not_mem_nil, h⟩

/-- Items that succeed in front of it make no difference to the first that fails. -/
theorem firstFails_append {as bs : List α} {e : ε} (h : ∀ a ∈ as, ∃ b, f a = .ok b) :
    FirstFails f (as ++ bs) e ↔ FirstFails f bs e := by
  constructor
  · rintro ⟨front, a, back, hsplit, hfront, ha⟩
    rcases List.append_eq_append_iff.1 hsplit with ⟨more, rfl, rfl⟩ | ⟨more, rfl, hmore⟩
    · exact ⟨more, a, back, rfl, fun x hx => hfront x (List.mem_append_right _ hx), ha⟩
    · cases more with
      | nil =>
          rw [List.nil_append] at hmore
          exact hmore ▸ .head ha
      | cons x more =>
          obtain ⟨rfl, -⟩ := List.cons.inj hmore
          obtain ⟨b, hb⟩ := h a (List.mem_append_right _ List.mem_cons_self)
          exact absurd (ha.symm.trans hb) nofun
  · rintro ⟨front, a, back, rfl, hfront, ha⟩
    refine ⟨as ++ front, a, back, (List.append_assoc ..).symm, fun x hx => ?_, ha⟩
    exact (List.mem_append.1 hx).elim (h x) (hfront x)

/-- It fails as the first item that fails. -/
theorem mapM_eq_error_iff {as : List α} {e : ε} : as.mapM f = .error e ↔ FirstFails f as e := by
  induction as with
  | nil =>
      refine iff_of_false nofun ?_
      rintro ⟨front, a, back, h, -⟩
      exact List.cons_ne_nil a back (List.append_eq_nil_iff.1 h.symm).2
  | cons a as ih =>
      rw [List.mapM_cons]
      cases ha : f a with
      | error e' =>
          constructor
          · intro h
            cases h
            exact .head ha
          · rintro ⟨front, x, back, hsplit, hfront, hx⟩
            cases front with
            | nil =>
                obtain ⟨rfl, -⟩ := List.cons.inj hsplit
                cases ha.symm.trans hx
                rfl
            | cons y front =>
                obtain ⟨rfl, -⟩ := List.cons.inj hsplit
                obtain ⟨b, hb⟩ := hfront a List.mem_cons_self
                exact absurd (ha.symm.trans hb) nofun
      | ok b =>
          have hrest : (as.mapM f >>= fun bs => pure (b :: bs)) = Except.error e ↔
              as.mapM f = .error e := by
            cases as.mapM f <;> simp [bind, Except.bind, pure, Except.pure]
          have hok : ∀ x ∈ [a], ∃ b, f x = .ok b := by
            intro x hx
            exact ⟨b, List.mem_singleton.1 hx ▸ ha⟩
          exact (hrest.trans ih).trans (firstFails_append hok).symm

end PlainLink
