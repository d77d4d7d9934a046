import Skirmish.Proofs.Tank.Turning

namespace Skirmish

open Scalar

-- The treads of a tank seen in a mirror.
def Treads.swapped {R : Type} (speed : Treads R) : Treads R := ⟨speed.right, speed.left⟩

-- The treads of a tank that goes the other way.
def Treads.reversed {R : Type} [Neg R] (speed : Treads R) : Treads R := ⟨-speed.left, -speed.right⟩

namespace Tank

-- How far a move goes along the new heading, or against it if it is negative.
def Motion.travel {R : Type} [Mul R] (m : Motion R) : R := m.distance * m.direction

-- The same tank at such speeds, with no other ones wanted.
def paced {R : Type} (speed : Treads R) (tank : Tank R) : Tank R :=
  { tank with wantedSpeed := speed, speed }

-- What the next move of a tank comes to.
structure Drives (arena : Arena ℝ) (rules : Rules ℝ) (tank : Tank ℝ) (turned travelled radius : ℝ) :
    Prop where
  swept : (motion rules (tank.planMove arena rules).speed).swept = turned
  travel : (motion rules (tank.planMove arena rules).speed).travel = travelled
  heading : (tank.planMove arena rules).heading = modulo (tank.heading + turned) tau
  next : (tank.planMove arena rules).next = arena.wrap (tank.position +
    ⟨Real.cos (tank.planMove arena rules).heading * travelled,
      Real.sin (tank.planMove arena rules).heading * travelled⟩)
  turnRadius : (tank.planMove arena rules).turnRadius = radius

variable {rules : Rules ℝ} {speed : Treads ℝ}

theorem speed_paced (arena : Arena ℝ) (rules : Rules ℝ) (speed : Treads ℝ) (tank : Tank ℝ) :
    ((tank.paced speed).planMove arena rules).speed = speed :=
  congrArg₂ Treads.mk (ramp_self _ _) (ramp_self _ _)

section Reversed

theorem treadScale_reversed : treadScale rules speed.reversed = treadScale rules speed := by
  have hgap : speed.reversed.left - speed.reversed.right = speed.right - speed.left :=
    neg_sub_neg _ _
  rw [treadScale_eq, treadScale_eq, hgap, abs_sub_comm]

theorem leftOuter_reversed : LeftOuter rules speed.reversed ↔ LeftOuter rules speed := by
  unfold LeftOuter
  rw [treadScale_reversed]
  simp [Treads.reversed]

theorem outerTread_reversed : outerTread rules speed.reversed = -outerTread rules speed := by
  unfold outerTread
  rw [treadScale_reversed]
  simp only [leftOuter_reversed]
  split_ifs
  · exact neg_mul _ _
  · exact neg_mul _ _

theorem innerTread_reversed : innerTread rules speed.reversed = -innerTread rules speed := by
  unfold innerTread
  rw [treadScale_reversed]
  simp only [leftOuter_reversed]
  split_ifs
  · exact neg_mul _ _
  · exact neg_mul _ _

theorem outerSide_reversed : outerSide rules speed.reversed = outerSide rules speed := by
  unfold outerSide
  simp only [leftOuter_reversed]

theorem circleRadius_reversed : circleRadius rules speed.reversed = circleRadius rules speed := by
  unfold circleRadius
  rw [outerTread_reversed, innerTread_reversed, neg_sub_neg, ← neg_sub, neg_mul, neg_div_neg_eq]

theorem turn_reversed : turn rules speed.reversed = -turn rules speed := by
  unfold turn
  rw [treadScale_reversed, ← neg_div, ← neg_mul, neg_sub]
  exact congrArg (· * _ / _) (neg_sub_neg _ _)

end Reversed

section Swapped

theorem treadScale_swapped : treadScale rules speed.swapped = treadScale rules speed := by
  rw [treadScale_eq, treadScale_eq, abs_sub_comm]
  rfl

theorem turn_swapped : turn rules speed.swapped = -turn rules speed := by
  unfold turn
  rw [treadScale_swapped, ← neg_div, ← neg_mul, neg_sub]
  rfl

-- Of treads that are as fast as each other the outer one stays on its side.
variable (hscale : 0 < treadScale rules speed) (hfaster : |speed.left| ≠ |speed.right|)

include hscale hfaster

theorem leftOuter_swapped : LeftOuter rules speed.swapped ↔ ¬ LeftOuter rules speed := by
  have hscale' : 0 < treadScale rules speed.swapped := by rwa [treadScale_swapped]
  rw [leftOuter_iff hscale, leftOuter_iff hscale', not_lt, hfaster.le_iff_lt]
  rfl

theorem outerTread_swapped : outerTread rules speed.swapped = outerTread rules speed := by
  unfold outerTread
  rw [treadScale_swapped]
  simp only [leftOuter_swapped hscale hfaster, ite_not]
  rfl

theorem innerTread_swapped : innerTread rules speed.swapped = innerTread rules speed := by
  unfold innerTread
  rw [treadScale_swapped]
  simp only [leftOuter_swapped hscale hfaster, ite_not]
  rfl

theorem outerSide_swapped : outerSide rules speed.swapped = -outerSide rules speed := by
  unfold outerSide
  simp only [leftOuter_swapped hscale hfaster, ite_not]
  split_ifs <;> norm_num

theorem circleRadius_swapped : circleRadius rules speed.swapped = circleRadius rules speed := by
  unfold circleRadius
  rw [outerTread_swapped hscale hfaster, innerTread_swapped hscale hfaster]

end Swapped

theorem drives_paced (hradius : 0 < rules.tankRadius) (hscale : 0 < treadScale rules speed)
    (hne : speed.left ≠ speed.right) (arena : Arena ℝ) (tank : Tank ℝ) :
    (tank.paced speed).Drives arena rules (turn rules speed)
      (circleRadius rules speed * Real.tan (turn rules speed) * outerSide rules speed)
      (circleRadius rules speed) := by
  have hspeed := speed_paced arena rules speed tank
  have hmotion := motion_eq hradius hscale hne
  have hready : (tank.paced speed).planMove arena rules =
      (((tank.paced speed).slewTurret rules).rampTreads rules).drive arena
        (motion rules ((tank.paced speed).planMove arena rules).speed) := rfl
  rw [hspeed, hmotion] at hready
  constructor
  · rw [hspeed, hmotion]
  · rw [hspeed, hmotion]
    rfl
  · rw [hready]
    rfl
  · rw [hready]
    simp only [drive, Reals.cos_eq, Reals.sin_eq, Reals.tan_eq, mul_assoc]
    rfl
  · rw [hready]
    rfl

-- Going the other way, a tank turns the other way as far, on the same circle.
theorem drives_reversed (hradius : 0 < rules.tankRadius) (hscale : 0 < treadScale rules speed)
    (hne : speed.left ≠ speed.right) (arena : Arena ℝ) (tank : Tank ℝ) :
    (tank.paced speed.reversed).Drives arena rules (-turn rules speed)
      (-(circleRadius rules speed * Real.tan (turn rules speed) * outerSide rules speed))
      (circleRadius rules speed) := by
  have hscale' : 0 < treadScale rules speed.reversed := by rwa [treadScale_reversed]
  have hne' : speed.reversed.left ≠ speed.reversed.right := fun hsame => hne (neg_injective hsame)
  have hdrives := drives_paced hradius hscale' hne' arena tank
  rw [turn_reversed, circleRadius_reversed, outerSide_reversed, Real.tan_neg, mul_neg,
    neg_mul] at hdrives
  exact hdrives

-- The mirror image of a move is that of the mirrored treads, unless they are as fast as each other.
theorem drives_swapped (hradius : 0 < rules.tankRadius) (hscale : 0 < treadScale rules speed)
    (hfaster : |speed.left| ≠ |speed.right|) (arena : Arena ℝ) (tank : Tank ℝ) :
    (tank.paced speed.swapped).Drives arena rules (-turn rules speed)
      (circleRadius rules speed * Real.tan (turn rules speed) * outerSide rules speed)
      (circleRadius rules speed) := by
  have hscale' : 0 < treadScale rules speed.swapped := by rwa [treadScale_swapped]
  have hne' : speed.swapped.left ≠ speed.swapped.right :=
    fun hsame => hfaster (congrArg (|·|) (Eq.symm hsame))
  have hdrives := drives_paced hradius hscale' hne' arena tank
  rw [turn_swapped, circleRadius_swapped hscale hfaster, outerSide_swapped hscale hfaster,
    Real.tan_neg, mul_assoc, neg_mul_neg, ← mul_assoc] at hdrives
  exact hdrives

theorem swapped_of_opposed (h : speed.left + speed.right = 0) : speed.swapped = speed.reversed :=
  congrArg₂ Treads.mk (eq_neg_of_add_eq_zero_right h) (eq_neg_of_add_eq_zero_left h)

-- Swapped treads turn a tank the other way on the same circle, and take it as far along its new
-- heading, unless they are opposed; reversed ones take it as far against its new heading. Opposed
-- treads that are swapped are reversed.
theorem driving_is_mirrored {rules : Rules ℝ} (hrules : rules.check = .ok ()) {speed : Treads ℝ}
    (hne : speed.left ≠ speed.right) (hleft : |speed.left| ≤ 100) (hright : |speed.right| ≤ 100)
    (arena : Arena ℝ) (tank : Tank ℝ) :
    ∃ swept travel radius,
      (tank.paced speed).Drives arena rules swept travel radius ∧
      (tank.paced speed.swapped).Drives arena rules (-swept)
        (if speed.left + speed.right = 0 then -travel else travel) radius ∧
      (tank.paced speed.reversed).Drives arena rules (-swept) (-travel) radius := by
  have hvalid := Rules.check_eq_ok_iff.mp hrules
  have hradius : 0 < rules.tankRadius := by simpa using hvalid.tankRadius_pos
  have hscale := treadScale_pos hvalid hleft hright
  have hreversed := drives_reversed hradius hscale hne arena tank
  refine ⟨_, _, _, drives_paced hradius hscale hne arena tank, ?_, hreversed⟩
  split_ifs with hopposed
  · rw [swapped_of_opposed hopposed]
    exact hreversed
  · refine drives_swapped hradius hscale ?_ arena tank
    rw [Ne, abs_eq_abs, eq_neg_iff_add_eq_zero]
    exact not_or.mpr ⟨hne, hopposed⟩

-- The left tread goes on and the right one back, at half its speed.
theorem driving_is_mirrored_skid :
    letI speed : Treads ℝ := ⟨100, -50⟩
    (Rules.standard : Rules ℝ).check = .ok () ∧ speed.left ≠ speed.right ∧
      ∃ swept travel radius,
        ((cruiser 0 0).paced speed).Drives plain Rules.standard swept travel radius ∧
        ((cruiser 0 0).paced ⟨-50, 100⟩).Drives plain Rules.standard (-swept) travel radius ∧
        ((cruiser 0 0).paced ⟨-100, 50⟩).Drives plain Rules.standard (-swept) (-travel) radius := by
  have hcheck := Rules.check_eq_ok_iff.mpr Rules.valid_standard
  have hne : (⟨100, -50⟩ : Treads ℝ).left ≠ (⟨100, -50⟩ : Treads ℝ).right := by norm_num
  obtain ⟨swept, travel, radius, hdrives, hswapped, hreversed⟩ :=
    driving_is_mirrored hcheck hne (by norm_num) (by norm_num) plain (cruiser 0 0)
  refine ⟨hcheck, hne, swept, travel, radius, hdrives, ?_, ?_⟩
  · rw [if_neg (by norm_num)] at hswapped
    exact hswapped
  · have hbackward : Treads.reversed (⟨100, -50⟩ : Treads ℝ) = ⟨-100, 50⟩ :=
      congrArg (Treads.mk (-100)) (neg_neg 50)
    rwa [hbackward] at hreversed

-- A tank that spins one way goes forward a little, and one that spins the other way goes back.
theorem spin_not_mirrored :
    letI speed : Treads ℝ := ⟨-100, 100⟩
    (Rules.standard : Rules ℝ).check = .ok () ∧ speed.left ≠ speed.right ∧ |speed.left| ≤ 100 ∧
      |speed.right| ≤ 100 ∧
      ¬ ∃ swept travel radius,
        ((cruiser 0 0).paced speed).Drives plain Rules.standard swept travel radius ∧
        ((cruiser 0 0).paced speed.swapped).Drives plain Rules.standard (-swept) travel radius := by
  have hne : (-100 : ℝ) ≠ 100 := by norm_num
  refine ⟨Rules.check_eq_ok_iff.mpr Rules.valid_standard, hne, by norm_num, by norm_num, ?_⟩
  rintro ⟨swept, travel, radius, hdrives, hswapped⟩
  have hradius : 0 < (Rules.standard : Rules ℝ).tankRadius := by norm_num [Rules.standard]
  have hscale : 0 < treadScale (Rules.standard : Rules ℝ) ⟨-100, 100⟩ :=
    treadScale_pos Rules.valid_standard (by norm_num) (by norm_num)
  have hforward := drives_paced hradius hscale hne plain (cruiser 0 0)
  have hbackward := drives_reversed hradius hscale hne plain (cruiser 0 0)
  rw [swapped_of_opposed (by norm_num)] at hswapped
  have hsame := hdrives.travel.symm.trans hforward.travel
  have hopposite := hswapped.travel.symm.trans hbackward.travel
  have hcircle := hradius.trans_le (tankRadius_le_circleRadius hradius hscale hne)
  have hturn : turn (Rules.standard : Rules ℝ) ⟨-100, 100⟩ = -7 / 30 := by
    norm_num [turn, treadScale_eq, Rules.standard]
  have htan : Real.tan (-7 / 30) < 0 :=
    Real.tan_neg_of_neg_of_pi_div_two_lt (by norm_num) (by linarith [Real.two_le_pi])
  have hside : outerSide (Rules.standard : Rules ℝ) ⟨-100, 100⟩ = -1 := by
    norm_num [outerSide, leftOuter_iff hscale]
  rw [hturn, hside] at hsame hopposite
  linarith [mul_neg_of_pos_of_neg hcircle htan]

end Tank

end Skirmish
