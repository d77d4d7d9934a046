import Mathlib
import Skirmish.Proofs.Geometry.Plane
import Skirmish.Tank.Contact

namespace Skirmish

-- Directions in exact arithmetic. A heading has the slope that its tangent tells, up to the
-- steepest one that contacts are computed for; any steeper heading is exactly vertical.
structure Compass where
  sin : ℝ → ℝ
  cos : ℝ → ℝ
  tan : ℝ → ℝ
  unit (heading : ℝ) : cos heading ^ 2 + sin heading ^ 2 = 1
  sloped (heading : ℝ) (h : |tan heading| ≤ Tank.steepest) : sin heading = tan heading * cos heading
  vertical (heading : ℝ) (h : Tank.steepest < |tan heading|) : cos heading = 0

namespace Compass

-- Exact arithmetic with these directions.
@[reducible] noncomputable def scalar (c : Compass) : Scalar ℝ :=
  { (inferInstance : Scalar ℝ) with sin := c.sin, cos := c.cos, tan := c.tan }

-- So much of a way along a heading.
noncomputable def step (c : Compass) (heading length : ℝ) : Point ℝ :=
  ⟨c.cos heading * length, c.sin heading * length⟩

variable (c : Compass) {heading length : ℝ}

theorem sqrt_lengthSq_step (heading length : ℝ) :
    √(c.step heading length).lengthSq = |length| := by
  have hsq : (c.step heading length).lengthSq = length ^ 2 := by
    calc c.cos heading * length * (c.cos heading * length) +
          c.sin heading * length * (c.sin heading * length)
        = (c.cos heading ^ 2 + c.sin heading ^ 2) * length ^ 2 := by ring
      _ = length ^ 2 := by rw [c.unit, one_mul]
  rw [hsq, Real.sqrt_sq_eq_abs]

theorem step_of_sloped (h : |c.tan heading| ≤ Tank.steepest) :
    (c.step heading length).y = c.tan heading * (c.step heading length).x := by
  unfold step
  rw [c.sloped heading h]
  ring

theorem step_of_vertical (h : Tank.steepest < |c.tan heading|) :
    (c.step heading length).x = 0 := by
  unfold step
  rw [c.vertical heading h, zero_mul]

-- Whether a heading is to be taken as vertical.
def Steep (heading : ℝ) : Prop := Real.cos heading = 0 ∨ Tank.steepest < |Real.tan heading|

theorem Steep.sin_ne_zero (h : Steep heading) : Real.sin heading ≠ 0 := by
  intro hzero
  rcases h with hcos | htan
  · have hunit := Real.sin_sq_add_cos_sq heading
    rw [hzero, hcos] at hunit
    norm_num at hunit
  · rw [Real.tan_eq_sin_div_cos, hzero, zero_div, abs_zero] at htan
    norm_num [Tank.steepest] at htan

open Classical in
-- The directions of trigonometry, steep ones turned upright.
noncomputable def upright : Compass where
  sin heading := if Steep heading then SignType.sign (Real.sin heading) else Real.sin heading
  cos heading := if Steep heading then 0 else Real.cos heading
  tan heading := if Steep heading then Tank.steepest + 1 else Real.tan heading
  unit heading := by
    split_ifs with h
    · rcases lt_or_gt_of_ne h.sin_ne_zero with hneg | hpos
      · simp [sign_neg hneg]
      · simp [sign_pos hpos]
    · exact Real.cos_sq_add_sin_sq heading
  sloped heading h := by
    split_ifs at h ⊢ with hsteep
    · exact absurd h (not_le.mpr (by norm_num [Tank.steepest]))
    · exact (Real.tan_mul_cos fun hzero => hsteep (.inl hzero)).symm
  vertical heading h := by
    split_ifs at h ⊢ with hsteep
    · rfl
    · exact absurd (.inr h) hsteep

theorem step_upright (length : ℝ) : upright.step ((0 : Int) : ℝ) length = ⟨length, 0⟩ := by
  have hlevel : ¬ Steep ((0 : Int) : ℝ) := by
    rintro (hcos | htan)
    · rw [Int.cast_zero, Real.cos_zero] at hcos
      exact one_ne_zero hcos
    · rw [Int.cast_zero, Real.tan_zero, abs_zero] at htan
      norm_num [Tank.steepest] at htan
  unfold step upright
  dsimp only
  rw [if_neg hlevel, if_neg hlevel, Int.cast_zero, Real.cos_zero, Real.sin_zero, one_mul, zero_mul]

end Compass

end Skirmish
