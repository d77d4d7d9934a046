import Mathlib.Data.List.Forall2

namespace Skirmish

variable {α : Type}

theorem forall₂_comp {P Q S : α → α → Prop} (hPQ : ∀ a b c, P a b → Q b c → S a c)
    {xs ys zs : List α} (h : List.Forall₂ P xs ys) (h' : List.Forall₂ Q ys zs) :
    List.Forall₂ S xs zs := by
  induction h generalizing zs with
  | nil =>
      cases h'
      exact .nil
  | cons hxy _ ih =>
      cases h' with
      | cons hyz hrest => exact .cons (hPQ _ _ _ hxy hyz) (ih hrest)

theorem forall₂_modify {P : α → α → Prop} (hP : ∀ a, P a a) (f : α → α) (xs : List α) (i : Nat)
    (hf : ∀ a, xs[i]? = some a → P a (f a)) : List.Forall₂ P xs (xs.modify i f) := by
  induction xs generalizing i with
  | nil => simp
  | cons x xs ih =>
      cases i with
      | zero =>
          rw [List.modify_zero_cons]
          exact .cons (hf x rfl) (List.forall₂_same.mpr fun a _ => hP a)
      | succ i =>
          rw [List.modify_succ_cons]
          exact .cons (hP x) (ih i fun a ha => hf a (by simpa using ha))

-- Steps of which each leaves a list related to the one before.
theorem forall₂_foldl {β : Type} {P : α → α → Prop} (hrefl : ∀ a, P a a)
    (htrans : ∀ a b c, P a b → P b c → P a c) (act : List α → β → List α)
    (hact : ∀ xs step, List.Forall₂ P xs (act xs step)) (steps : List β) (xs : List α) :
    List.Forall₂ P xs (steps.foldl act xs) := by
  induction steps generalizing xs with
  | nil => exact List.forall₂_same.mpr fun a _ => hrefl a
  | cons step steps ih => exact forall₂_comp htrans (hact xs step) (ih (act xs step))

theorem forall₂_getElem? {P : α → α → Prop} {xs ys : List α} (h : List.Forall₂ P xs ys) {i : Nat}
    {x : α} (hx : xs[i]? = some x) : ∃ y, ys[i]? = some y ∧ P x y := by
  induction h generalizing i with
  | nil => simp at hx
  | @cons x' y' xs ys hxy _ ih =>
      cases i with
      | zero =>
          rw [List.getElem?_cons_zero] at hx ⊢
          cases hx
          exact ⟨y', rfl, hxy⟩
      | succ i =>
          rw [List.getElem?_cons_succ] at hx ⊢
          exact ih hx

-- What related members pass on holds of all of a list if it holds of all of the other.
theorem forall_of_forall₂ {P : α → α → Prop} {Q : α → Prop} (hP : ∀ a b, P a b → Q a → Q b)
    {xs ys : List α} (h : List.Forall₂ P xs ys) (hxs : ∀ x ∈ xs, Q x) : ∀ y ∈ ys, Q y := by
  induction h with
  | nil => exact hxs
  | cons hxy _ ih =>
      rw [List.forall_mem_cons] at hxs ⊢
      exact ⟨hP _ _ hxy hxs.1, ih hxs.2⟩

theorem forall₂_of_getElem? {P : α → α → Prop} {xs ys : List α} (hlength : xs.length = ys.length)
    (h : ∀ (i : Nat) x, xs[i]? = some x → ∃ y, ys[i]? = some y ∧ P x y) : List.Forall₂ P xs ys := by
  rw [List.forall₂_iff_get]
  refine ⟨hlength, fun i hx hy => ?_⟩
  obtain ⟨y, hsome, hP⟩ := h i _ (List.getElem?_eq_getElem hx)
  rw [List.getElem?_eq_getElem hy] at hsome
  cases hsome
  exact hP

theorem countP_le_of_forall₂ {P : α → α → Prop} {p : α → Bool}
    (hP : ∀ a b, P a b → p b = true → p a = true) {xs ys : List α} (h : List.Forall₂ P xs ys) :
    ys.countP p ≤ xs.countP p := by
  induction h with
  | nil => exact Nat.le_refl _
  | @cons x y xs ys hxy _ ih =>
      rw [List.countP_cons, List.countP_cons]
      cases hy : p y with
      | false =>
          rw [if_neg Bool.false_ne_true]
          omega
      | true =>
          rw [hP x y hxy hy, if_pos rfl]
          omega

end Skirmish
