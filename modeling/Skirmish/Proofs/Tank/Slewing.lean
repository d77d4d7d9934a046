import Mathlib.Algebra.Order.Floor.Semifield
import Skirmish.Proofs.Geometry.Circle
import Skirmish.Proofs.Tank.Treads

namespace Skirmish

namespace Reals

-- So much of a number as a limit lets through, whatever its sign.
noncomputable def limited (limit x : ℝ) : ℝ := Scalar.clamp (-limit) limit x

variable {limit : ℝ} (hlimit : 0 ≤ limit) (x : ℝ)

include hlimit

theorem abs_limited : |limited limit x| = min limit |x| := by
  unfold limited Scalar.clamp
  rcases abs_cases x with ⟨habs, hsign⟩ | ⟨habs, hsign⟩
  · rw [habs]
    split_ifs with hlow hhigh
    · linarith
    · rw [abs_of_nonneg hlimit, min_eq_left hhigh.le]
    · rw [habs, min_eq_right (not_lt.mp hhigh)]
  · rw [habs]
    split_ifs with hlow hhigh
    · rw [abs_neg, abs_of_nonneg hlimit, min_eq_left (by linarith)]
    · linarith
    · rw [habs, min_eq_right (by linarith)]

-- What the limit lets through leads toward the number and not beyond it.
theorem exists_part : ∃ part ∈ Set.Icc (0 : ℝ) 1, limited limit x = part * x := by
  unfold limited Scalar.clamp
  split_ifs with hlow hhigh
  · exact ⟨-limit / x, ⟨div_nonneg_of_nonpos (by linarith) (by linarith),
      (div_le_one_of_neg (by linarith)).mpr hlow.le⟩, (div_mul_cancel₀ _ (by linarith)).symm⟩
  · have hpos : 0 < x := by linarith
    exact ⟨limit / x, ⟨by positivity, (div_le_one hpos).mpr hhigh.le⟩,
      (div_mul_cancel₀ _ hpos.ne').symm⟩
  · exact ⟨1, ⟨zero_le_one, le_rfl⟩, (one_mul x).symm⟩

theorem abs_sub_limited : |x - limited limit x| = |x| - |limited limit x| := by
  obtain ⟨part, ⟨hnonneg, hle⟩, hpart⟩ := exists_part hlimit x
  have hrest : x - part * x = (1 - part) * x := by ring
  have hleft : 0 ≤ 1 - part := by linarith
  rw [hpart, hrest, abs_mul, abs_mul, abs_of_nonneg hnonneg, abs_of_nonneg hleft]
  ring

-- A second limit lets more of the rest through.
theorem limited_add {limit' : ℝ} (hlimit' : 0 ≤ limit') :
    limited limit x + limited limit' (x - limited limit x) = limited (limit + limit') x := by
  unfold limited Scalar.clamp
  split_ifs <;> linarith

theorem limited_mem {bound : ℝ} (h : x ∈ Set.Ioc (-bound) bound) :
    limited limit x ∈ Set.Ioc (-bound) bound ∧ x - limited limit x ∈ Set.Ioc (-bound) bound := by
  obtain ⟨part, ⟨hnonneg, hle⟩, hpart⟩ := exists_part hlimit x
  obtain ⟨hlow, hhigh⟩ := h
  rw [hpart]
  rcases le_total 0 x with hpos | hneg
  · have hturn : 0 ≤ part * x := mul_nonneg hnonneg hpos
    have hshort : part * x ≤ x := mul_le_of_le_one_left hpos hle
    exact ⟨⟨by linarith, by linarith⟩, by linarith, by linarith⟩
  · have hturn : part * x ≤ 0 := mul_nonpos_of_nonneg_of_nonpos hnonneg hneg
    have hshort : x ≤ part * x := le_mul_of_le_one_left hneg hle
    exact ⟨⟨by linarith, by linarith⟩, by linarith, by linarith⟩

omit hlimit in
theorem limited_zero : limited 0 x = 0 := by
  rw [← abs_eq_zero, abs_limited le_rfl, min_eq_left (abs_nonneg x)]

end Reals

namespace Tank

open Reals

-- How far and to which side a turret has to turn, the short way.
noncomputable def gap (wanted angle : ℝ) : ℝ := Angle.wrap (wanted - angle)

-- What one tick makes of the angle of a turret.
noncomputable def slewed (limit wanted angle : ℝ) : ℝ :=
  Scalar.modulo (angle + limited limit (gap wanted angle)) Scalar.tau

theorem turretAngle_planAround (arena : Arena ℝ) (rules : Rules ℝ) (tank : Tank ℝ) :
    (Match.planAround arena rules tank).turret.angle =
      slewed rules.maxTurretTurn tank.turret.wanted tank.turret.angle := by
  obtain ⟨next, blockedBy, h⟩ :=
    diverted_clampToPillars arena rules.tankRadius (tank.planMove arena rules)
  unfold Match.planAround
  rw [h]
  rfl

section Slewing

variable {limit : ℝ} (hlimit : 0 ≤ limit) (wanted angle : ℝ)

theorem abs_gap : |gap wanted angle| = Angle.distance angle wanted := by
  rw [Angle.distance_comm]
  rfl

theorem gap_mem : gap wanted angle ∈ Set.Ioc (-Real.pi) Real.pi := Angle.wrap_mem _

theorem coe_slewed (limit : ℝ) :
    (slewed limit wanted angle : Real.Angle) = angle + limited limit (gap wanted angle) := by
  rw [slewed, Angle.coe_modulo, Real.Angle.coe_add]

-- What is left to turn after a part of it.
theorem gap_of_turned {wanted angle after turned : ℝ}
    (hafter : (after : Real.Angle) = angle + turned)
    (hmem : gap wanted angle - turned ∈ Set.Ioc (-Real.pi) Real.pi) :
    gap wanted after = gap wanted angle - turned := by
  have hsame : ((wanted - after : ℝ) : Real.Angle) = (gap wanted angle - turned : ℝ) := by
    rw [Real.Angle.coe_sub, Real.Angle.coe_sub, hafter, gap, Angle.coe_wrap, Real.Angle.coe_sub]
    abel
  rw [gap, Angle.wrap_congr hsame, Angle.wrap_of_mem hmem]

include hlimit

theorem gap_slewed : gap wanted (slewed limit wanted angle) =
    gap wanted angle - limited limit (gap wanted angle) :=
  gap_of_turned (coe_slewed wanted angle limit) (limited_mem hlimit _ (gap_mem wanted angle)).2

-- All that a turret turns brings it closer to the angle wanted.
theorem distance_slewed : Angle.distance (slewed limit wanted angle) angle =
    Angle.distance angle wanted - Angle.distance (slewed limit wanted angle) wanted := by
  have hturn : ((slewed limit wanted angle - angle : ℝ) : Real.Angle) =
      (limited limit (gap wanted angle) : ℝ) := by
    rw [Real.Angle.coe_sub, coe_slewed, add_sub_cancel_left]
  rw [Angle.distance_eq_abs_wrap, Angle.wrap_congr hturn,
    Angle.wrap_of_mem (limited_mem hlimit _ (gap_mem wanted angle)).1, ← abs_gap, ← abs_gap,
    gap_slewed hlimit, abs_sub_limited hlimit, sub_sub_cancel]

-- Some ticks together are one with a limit as many times as high.
theorem coe_iterate_slewed (n : ℕ) : (((slewed limit wanted)^[n] angle : ℝ) : Real.Angle) =
    angle + limited (n * limit) (gap wanted angle) := by
  induction n with
  | zero => rw [Nat.cast_zero, zero_mul, limited_zero, Real.Angle.coe_zero, add_zero]; rfl
  | succ n ih =>
      have hticks : 0 ≤ n * limit := by positivity
      have hgap := gap_of_turned ih (limited_mem hticks _ (gap_mem wanted angle)).2
      rw [Function.iterate_succ_apply', coe_slewed, ih, hgap, add_assoc, ← Real.Angle.coe_add,
        limited_add hticks _ hlimit, Nat.cast_succ, add_one_mul]

theorem distance_iterate_slewed (n : ℕ) : Angle.distance ((slewed limit wanted)^[n] angle) wanted =
    max 0 (Angle.distance angle wanted - n * limit) := by
  have hticks : 0 ≤ n * limit := by positivity
  rw [← abs_gap, gap_of_turned (coe_iterate_slewed hlimit wanted angle n)
    (limited_mem hticks _ (gap_mem wanted angle)).2, abs_sub_limited hticks, abs_limited hticks,
    abs_gap]
  rcases le_total (n * limit) (Angle.distance angle wanted) with h | h
  · rw [min_eq_left h, max_eq_right (sub_nonneg.mpr h)]
  · rw [min_eq_right h, sub_self, max_eq_left (sub_nonpos.mpr h)]

-- What one tick makes of the angle of a turret that is to turn to another one.
structure Slews (limit wanted before after : ℝ) : Prop where
  normal : after ∈ Set.Ico 0 (2 * Real.pi)
  step : Angle.distance after before ≤ limit
  closer : Angle.distance after wanted = max 0 (Angle.distance before wanted - limit)

theorem slews_slewed : Slews limit wanted angle (slewed limit wanted angle) := by
  have hcloser := distance_iterate_slewed hlimit wanted angle 1
  rw [Function.iterate_one, Nat.cast_one, one_mul] at hcloser
  refine ⟨?_, ?_, hcloser⟩
  · rw [← Angle.tau_eq]
    exact Reals.modulo_mem _ Angle.tau_pos
  · rw [distance_slewed hlimit, hcloser, sub_le_comm]
    exact le_max_right _ _

-- What some ticks make of the angle of a turret while the angle it is to turn to stays the same.
-- It turns on and on to the same side, and when it has arrived it rests.
structure Converges (limit wanted : ℝ) (angle : ℕ → ℝ) (ticks : ℕ) : Prop where
  distance : Angle.distance (angle ticks) wanted =
    max 0 (Angle.distance (angle 0) wanted - ticks * limit)
  arrives : (angle ticks : Real.Angle) = wanted ↔
    ⌈Angle.distance (angle 0) wanted / limit⌉₊ ≤ ticks
  between : ∃ part ∈ Set.Icc (0 : ℝ) 1,
    (angle ticks : Real.Angle) = angle 0 + (part * gap wanted (angle 0) : ℝ)
  turned : ∑ tick ∈ Finset.range ticks, Angle.distance (angle (tick + 1)) (angle tick) =
    Angle.distance (angle 0) wanted - Angle.distance (angle ticks) wanted
  half : ∑ tick ∈ Finset.range ticks, Angle.distance (angle (tick + 1)) (angle tick) ≤ Real.pi

theorem sum_distance_slewed (ticks : ℕ) : ∑ tick ∈ Finset.range ticks,
      Angle.distance ((slewed limit wanted)^[tick + 1] angle) ((slewed limit wanted)^[tick] angle) =
    Angle.distance angle wanted - Angle.distance ((slewed limit wanted)^[ticks] angle) wanted := by
  have hstep : ∀ tick, Angle.distance ((slewed limit wanted)^[tick + 1] angle)
        ((slewed limit wanted)^[tick] angle) =
      Angle.distance ((slewed limit wanted)^[tick] angle) wanted -
        Angle.distance ((slewed limit wanted)^[tick + 1] angle) wanted := by
    intro tick
    rw [Function.iterate_succ_apply']
    exact distance_slewed hlimit wanted _
  rw [Finset.sum_congr rfl fun tick _ => hstep tick]
  exact Finset.sum_range_sub' (fun tick =>
    Angle.distance ((slewed limit wanted)^[tick] angle) wanted) ticks

omit hlimit in
theorem converges_slewed (hlimit : 0 < limit) (ticks : ℕ) :
    Converges limit wanted (fun tick => (slewed limit wanted)^[tick] angle) ticks where
  distance := distance_iterate_slewed hlimit.le wanted angle ticks
  arrives := by
    rw [← Angle.distance_eq_zero_iff, distance_iterate_slewed hlimit.le, max_eq_left_iff,
      sub_nonpos, Nat.ceil_le, div_le_iff₀ hlimit, Function.iterate_zero_apply]
  between := by
    have hticks : 0 ≤ ticks * limit := by positivity
    obtain ⟨part, hpart, hturn⟩ := exists_part hticks (gap wanted angle)
    refine ⟨part, hpart, ?_⟩
    rw [coe_iterate_slewed hlimit.le, hturn]
    rfl
  turned := sum_distance_slewed hlimit.le wanted angle ticks
  half := by
    rw [sum_distance_slewed hlimit.le]
    have hend : 0 ≤ Angle.distance ((slewed limit wanted)^[ticks] angle) wanted := abs_nonneg _
    linarith [Angle.distance_le_pi angle wanted]

end Slewing

end Tank

end Skirmish
