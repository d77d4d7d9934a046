import Mathlib.Algebra.Order.Round
import Skirmish.Proofs.Scalar.Reals

namespace Skirmish.Reals

theorem round_of_nonneg {x : ℝ} (hx : 0 ≤ x) : Scalar.round x = round x := by
  rw [round_eq]
  exact if_pos hx

-- Halves go away from zero, so that opposite numbers have opposite results.
theorem round_neg (x : ℝ) : Scalar.round (-x) = -Scalar.round x := by
  have hup : ∀ y : ℝ, 0 < y → Scalar.round (-y) = -Scalar.round y := by
    intro y hy
    have hbelow : ¬ 0 ≤ -y := by linarith
    have hshift : -y - 1 / 2 = -(y + 1 / 2) := by ring
    change (if 0 ≤ -y then _ else (⌈-y - 1 / 2⌉ : ℝ)) = _
    rw [round_of_nonneg hy.le, if_neg hbelow, hshift, Int.ceil_neg, round_eq, Int.cast_neg]
  rcases lt_trichotomy x 0 with hneg | rfl | hpos
  · rw [← neg_neg x, hup (-x) (by linarith), neg_neg, neg_neg]
  · rw [neg_zero, round_of_nonneg le_rfl, round_zero, Int.cast_zero, neg_zero]
  · exact hup x hpos

theorem round_induction {p : ℝ → ℝ → Prop} (hneg : ∀ x r, p x r → p (-x) (-r))
    (hnonneg : ∀ x, 0 ≤ x → p x (round x : ℤ)) (x : ℝ) : p x (Scalar.round x) := by
  rcases le_total 0 x with hx | hx
  · rw [round_of_nonneg hx]
    exact hnonneg x hx
  · have hopposite := hneg _ _ (hnonneg (-x) (neg_nonneg.mpr hx))
    rwa [← round_of_nonneg (neg_nonneg.mpr hx), round_neg, neg_neg, neg_neg] at hopposite

theorem exists_round (x : ℝ) : ∃ n : ℤ, Scalar.round x = n := by
  refine round_induction (p := fun _ r => ∃ n : ℤ, r = n) ?_ (fun x _ => ⟨round x, rfl⟩) x
  rintro _ _ ⟨n, rfl⟩
  exact ⟨-n, (Int.cast_neg n).symm⟩

theorem abs_round_sub_le (x : ℝ) : |Scalar.round x - x| ≤ 1 / 2 := by
  refine round_induction (p := fun x r => |r - x| ≤ 1 / 2) ?_ (fun x _ => ?_) x
  · intro x r hnear
    rwa [neg_sub_neg, abs_sub_comm]
  · rw [abs_sub_comm]
    exact abs_sub_round x

theorem abs_lt_abs_round (x : ℝ) (hhalf : |Scalar.round x - x| = 1 / 2) :
    |x| < |Scalar.round x| := by
  revert hhalf
  refine round_induction (p := fun x r => |r - x| = 1 / 2 → |x| < |r|) ?_ (fun x hx hhalf => ?_) x
  · intro x r haway
    rwa [neg_sub_neg, abs_sub_comm, abs_neg, abs_neg]
  · have hbelow := sub_half_lt_round x
    have habove : (round x : ℝ) = x + 1 / 2 := by
      rcases eq_or_eq_neg_of_abs_eq hhalf with h | h <;> linarith
    rw [habove, abs_of_nonneg hx, abs_of_nonneg (by linarith)]
    linarith

theorem round_intCast (n : ℤ) : Scalar.round (n : ℝ) = n := by
  obtain ⟨m, hm⟩ := exists_round n
  have hnear := abs_round_sub_le n
  rw [hm, ← Int.cast_sub, ← Int.cast_abs] at hnear
  have hless : |m - n| < 1 := by
    have hless' : ((|m - n| : ℤ) : ℝ) < 1 := by linarith
    exact_mod_cast hless'
  rw [hm, sub_eq_zero.mp (Int.abs_lt_one_iff.mp hless)]

-- Two numbers whose results came in the other order would both stand half way between the results.
theorem monotone_round : Monotone (Scalar.round : ℝ → ℝ) := by
  intro x y hxy
  by_contra hturned
  obtain ⟨m, hm⟩ := exists_round x
  obtain ⟨n, hn⟩ := exists_round y
  have hx := abs_le.mp (abs_round_sub_le x)
  have hy := abs_le.mp (abs_round_sub_le y)
  have hsame : x = y := by
    rw [hm, hn, not_le, Int.cast_lt] at hturned
    have hapart : (n : ℝ) + 1 ≤ m := by exact_mod_cast hturned
    linarith
  exact hturned (hsame ▸ le_rfl)

-- The nearest multiple of a unit.
noncomputable def onGrid (unit x : ℝ) : ℝ := Scalar.round (x / unit) * unit

theorem exists_onGrid (unit x : ℝ) : ∃ n : ℤ, onGrid unit x = n * unit := by
  obtain ⟨n, hn⟩ := exists_round (x / unit)
  exact ⟨n, by rw [onGrid, hn]⟩

theorem onGrid_neg (unit x : ℝ) : onGrid unit (-x) = -onGrid unit x := by
  rw [onGrid, neg_div, round_neg, neg_mul, onGrid]

section Positive

variable {unit : ℝ} (hunit : 0 < unit)

include hunit

theorem onGrid_mul (n : ℤ) : onGrid unit (n * unit) = n * unit := by
  rw [onGrid, mul_div_cancel_right₀ _ hunit.ne', round_intCast]

theorem abs_onGrid_sub (x : ℝ) :
    |onGrid unit x - x| = |Scalar.round (x / unit) - x / unit| * unit := by
  have hscaled : onGrid unit x - x = (Scalar.round (x / unit) - x / unit) * unit := by
    rw [sub_mul, div_mul_cancel₀ x hunit.ne', onGrid]
  rw [hscaled, abs_mul, abs_of_pos hunit]

theorem abs_onGrid_sub_le (x : ℝ) : |onGrid unit x - x| ≤ unit / 2 := by
  calc |onGrid unit x - x| = |Scalar.round (x / unit) - x / unit| * unit := abs_onGrid_sub hunit x
    _ ≤ 1 / 2 * unit := by gcongr; exact abs_round_sub_le _
    _ = unit / 2 := by ring

theorem abs_lt_abs_onGrid (x : ℝ) (hhalf : |onGrid unit x - x| = unit / 2) :
    |x| < |onGrid unit x| := by
  have hscaled : |Scalar.round (x / unit) - x / unit| = 1 / 2 := by
    rw [abs_onGrid_sub hunit] at hhalf
    exact mul_right_cancel₀ hunit.ne' (by linarith)
  calc |x| = |x / unit| * unit := by rw [abs_div, abs_of_pos hunit, div_mul_cancel₀ _ hunit.ne']
    _ < |Scalar.round (x / unit)| * unit := by gcongr; exact abs_lt_abs_round _ hscaled
    _ = |onGrid unit x| := by rw [onGrid, abs_mul, abs_of_pos hunit]

theorem monotone_onGrid : Monotone (onGrid unit) := by
  intro x y hxy
  unfold onGrid
  gcongr
  exact monotone_round (by gcongr)

end Positive

end Skirmish.Reals
