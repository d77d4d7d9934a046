import Mathlib.Algebra.Order.Floor.Div
import Mathlib.Order.Bounds.Basic
import Mathlib.Tactic.IntervalCases
import Mathlib.Tactic.Linarith
import Skirmish.Arena

namespace Skirmish.Arena

-- The search has passed over numbers of columns that are too small, and stops at the first that
-- is not.
theorem isLeast_columnsFrom {objects first : Nat} (h : ∀ columns < first, columns ^ 2 < objects) :
    IsLeast {columns | objects ≤ columns ^ 2} (columnsFrom objects first) := by
  fun_induction columnsFrom objects first with
  | case1 first hsmall ih =>
      refine ih fun columns hcolumns => ?_
      rcases Nat.lt_succ_iff_lt_or_eq.mp hcolumns with hless | rfl
      · exact h columns hless
      · rwa [sq]
  | case2 first hlarge =>
      rw [← sq] at hlarge
      refine ⟨Nat.not_lt.mp hlarge, fun columns hcolumns => ?_⟩
      by_contra hless
      exact absurd (h columns (Nat.not_le.mp hless)) (Nat.not_lt.mpr hcolumns)

theorem isLeast_columns (objects : Nat) :
    IsLeast {columns | max objects 1 ≤ columns ^ 2} (columns objects) := by
  refine isLeast_columnsFrom fun columns hcolumns => ?_
  obtain rfl := Nat.lt_one_iff.mp hcolumns
  exact Nat.lt_of_lt_of_le Nat.one_pos (le_max_right objects 1)

theorem columns_pos (objects : Nat) : 0 < columns objects := by
  have hlarge : max objects 1 ≤ columns objects ^ 2 := (isLeast_columns objects).1
  exact Nat.pos_of_ne_zero fun hzero => by simp [hzero] at hlarge

theorem isLeast_rows (objects : Nat) :
    IsLeast {rows | max objects 1 ≤ rows * columns objects} (rows objects) := by
  have hrows : ∀ n, rows objects ≤ n ↔ max objects 1 ≤ n * columns objects := by
    intro n
    rw [rows, ← Nat.ceilDiv_eq_add_pred_div, ceilDiv_le_iff_le_mul (columns_pos objects), mul_comm]
  exact ⟨(hrows _).mp (Nat.le_refl _), fun n hn => (hrows n).mpr hn⟩

theorem rows_pos (objects : Nat) : 0 < rows objects := by
  have hlarge : max objects 1 ≤ rows objects * columns objects := (isLeast_rows objects).1
  exact Nat.pos_of_ne_zero fun hzero => by simp [hzero] at hlarge

-- The grid has a cell for every object.
theorem le_rows_mul_columns (objects : Nat) : objects ≤ rows objects * columns objects :=
  (le_max_left objects 1).trans (isLeast_rows objects).1

theorem rows_le_columns (objects : Nat) : rows objects ≤ columns objects := by
  have hlarge : max objects 1 ≤ columns objects ^ 2 := (isLeast_columns objects).1
  rw [sq] at hlarge
  exact (isLeast_rows objects).2 hlarge

-- One row less than that would leave less room than a square with a column less, which has too
-- little.
theorem columns_le_rows_add_one (objects : Nat) : columns objects ≤ rows objects + 1 := by
  by_contra hfew
  obtain ⟨more, hmore⟩ := Nat.exists_eq_add_of_lt (Nat.not_le.mp hfew)
  have hroom : max objects 1 ≤ rows objects * columns objects := (isLeast_rows objects).1
  have hsquare : (rows objects + 1 + more) ^ 2 < max objects 1 := by
    by_contra hlarge
    have hleast := (isLeast_columns objects).2 (Nat.not_lt.mp hlarge)
    omega
  rw [hmore] at hroom
  nlinarith

-- Without its last row the grid would be too small.
theorem rows_mul_columns_lt (objects : Nat) :
    rows objects * columns objects < max objects 1 + columns objects := by
  obtain ⟨fewer, hfewer⟩ := Nat.exists_eq_succ_of_ne_zero (rows_pos objects).ne'
  have hsmall : fewer * columns objects < max objects 1 := by
    by_contra hlarge
    have hleast := (isLeast_rows objects).2 (Nat.not_lt.mp hlarge)
    omega
  rw [hfewer, Nat.succ_mul]
  omega

variable {R : Type} [Scalar R]

-- A field is sized for as few columns, and then for as few rows, as there can be for a square and
-- for the objects, of which there is at least one.
theorem sizing_is_minimal (objects : Nat) (spacing : R) :
    sizedFor objects spacing =
      ⟨((columns objects : Int) : R) * spacing, ((rows objects : Int) : R) * spacing, []⟩ ∧
    IsLeast {n | max objects 1 ≤ n ^ 2} (columns objects) ∧
    IsLeast {n | max objects 1 ≤ n * columns objects} (rows objects) ∧
    objects ≤ rows objects * columns objects ∧
    columns objects - 1 ≤ rows objects ∧ rows objects ≤ columns objects ∧
    (0 < objects → rows objects * columns objects - objects < columns objects) := by
  refine ⟨rfl, isLeast_columns objects, isLeast_rows objects, le_rows_mul_columns objects,
    Nat.sub_le_of_le_add (columns_le_rows_add_one objects), rows_le_columns objects, fun hsome => ?_⟩
  have hfew := rows_mul_columns_lt objects
  have henough := le_rows_mul_columns objects
  rw [Nat.max_eq_left hsome] at hfew
  omega

-- Ten objects leave two of twelve cells empty.
theorem sizing_is_minimal_ten :
    0 < 10 ∧ columns 10 = 4 ∧ rows 10 = 3 ∧ rows 10 * columns 10 - 10 < columns 10 := by
  have hten : 0 < 10 := by decide
  obtain ⟨-, hcolumns, hrows, -, -, -, hempty⟩ := sizing_is_minimal 10 (0.0 : Float)
  have hfour : columns 10 = 4 := hcolumns.unique ⟨by decide, fun n hn => by
    by_contra hless
    interval_cases n <;> contradiction⟩
  have hthree : rows 10 = 3 := by
    rw [hfour] at hrows
    exact hrows.unique ⟨by decide, fun n hn => by
      change max 10 1 ≤ n * 4 at hn
      omega⟩
  exact ⟨hten, hfour, hthree, hempty hten⟩

end Skirmish.Arena
