import Mathlib.Analysis.SpecialFunctions.Trigonometric.Arctan
import Skirmish.Proofs.Tank.Treads
import Skirmish.Tank.Drive

namespace Skirmish.Tank

open Scalar

section Parts

variable {R : Type} [Scalar R] (rules : Rules R) (speed : Treads R)

-- Whether the left tread is the outer one of a turn, which is the faster either way. Of treads as
-- fast as each other it is the right one.
def LeftOuter : Prop :=
  abs (speed.right * treadScale rules speed) < abs (speed.left * treadScale rules speed)

instance : Decidable (LeftOuter rules speed) :=
  inferInstanceAs
    (Decidable
      (abs (speed.right * treadScale rules speed) < abs (speed.left * treadScale rules speed)))

def outerTread : R :=
  if LeftOuter rules speed then speed.left * treadScale rules speed
  else speed.right * treadScale rules speed

def innerTread : R :=
  if LeftOuter rules speed then speed.right * treadScale rules speed
  else speed.left * treadScale rules speed

def outerSide : R := if LeftOuter rules speed then ((1 : Int) : R) else ((-1 : Int) : R)

-- The radius of the circle that the outer tread runs on.
def circleRadius : R :=
  outerTread rules speed * (((2 : Int) : R) * rules.tankRadius) /
    (outerTread rules speed - innerTread rules speed)

def arc : R := outerTread rules speed / circleRadius rules speed * outerSide rules speed

theorem turning_eq : turning rules speed =
    ⟨arc rules speed, circleRadius rules speed * tan (arc rules speed), outerSide rules speed,
      some (circleRadius rules speed)⟩ := rfl

end Parts

variable {rules : Rules ℝ} {speed : Treads ℝ}

theorem treadScale_eq : treadScale rules speed =
    (1 - rules.friction * |speed.left - speed.right| / 200) * rules.topSpeed / 100 := by
  simp [treadScale]

theorem topSpeed_pos (hvalid : rules.Valid) : 0 < rules.topSpeed :=
  Rules.isPositive_iff.mp (hvalid.positive ("top_speed", rules.topSpeed) (by simp [Rules.positives]))

-- The treads never lose all of their speed to friction.
theorem treadScale_pos (hvalid : rules.Valid) (hleft : |speed.left| ≤ 100)
    (hright : |speed.right| ≤ 100) : 0 < treadScale rules speed := by
  have htop := topSpeed_pos hvalid
  obtain ⟨hnonneg, hlt⟩ := hvalid.friction
  rw [Int.cast_zero] at hnonneg
  rw [Int.cast_one] at hlt
  have hgap : |speed.left - speed.right| ≤ 200 := by linarith [abs_sub speed.left speed.right]
  have hloss : rules.friction * |speed.left - speed.right| ≤ rules.friction * 200 :=
    mul_le_mul_of_nonneg_left hgap hnonneg
  have hshare : 0 < 1 - rules.friction * |speed.left - speed.right| / 200 := by
    rw [sub_pos, div_lt_one (by norm_num)]
    linarith
  rw [treadScale_eq]
  positivity

theorem treadScale_le (hvalid : rules.Valid) : treadScale rules speed ≤ rules.topSpeed / 100 := by
  have htop := topSpeed_pos hvalid
  obtain ⟨hnonneg, -⟩ := hvalid.friction
  rw [Int.cast_zero] at hnonneg
  have hloss : 0 ≤ rules.friction * |speed.left - speed.right| / 200 := by positivity
  rw [treadScale_eq]
  gcongr
  exact mul_le_of_le_one_left htop.le (by linarith)

theorem leftOuter_iff (hscale : 0 < treadScale rules speed) :
    LeftOuter rules speed ↔ |speed.right| < |speed.left| := by
  unfold LeftOuter
  rw [Reals.abs_eq, Reals.abs_eq, abs_mul, abs_mul, mul_lt_mul_iff_left₀ (abs_pos.mpr hscale.ne')]

theorem abs_innerTread_le : |innerTread rules speed| ≤ |outerTread rules speed| := by
  unfold innerTread outerTread
  split_ifs with houter
  · exact le_of_lt houter
  · exact not_lt.mp houter

-- Whichever tread is the outer one, it is faster on its side by the gap between the two.
theorem outerTread_sub_innerTread : outerTread rules speed - innerTread rules speed =
    outerSide rules speed * ((speed.left - speed.right) * treadScale rules speed) := by
  unfold outerTread innerTread outerSide
  split_ifs
  · push_cast
    ring
  · push_cast
    ring

theorem outerSide_mul_self : outerSide rules speed * outerSide rules speed = 1 := by
  unfold outerSide
  split_ifs <;> norm_num

-- The outer tread makes up at least one half of the gap.
theorem half_le_outer_div {inner outer : ℝ} (hgap : outer - inner ≠ 0) (houter : |inner| ≤ |outer|) :
    1 / 2 ≤ outer / (outer - inner) := by
  have hsq : inner ^ 2 ≤ outer ^ 2 := sq_le_sq.mpr houter
  have hrest : outer / (outer - inner) - 1 / 2 =
      (outer ^ 2 - inner ^ 2) / (2 * (outer - inner) ^ 2) := by
    field_simp
    ring
  rw [← sub_nonneg, hrest]
  exact div_nonneg (sub_nonneg.mpr hsq) (by positivity)

-- Whichever tread is the outer one, a tank turns by the gap between the two.
noncomputable def turn (rules : Rules ℝ) (speed : Treads ℝ) : ℝ :=
  (speed.left - speed.right) * treadScale rules speed / (((2 : Int) : ℝ) * rules.tankRadius)

section Turn

variable (hradius : 0 < rules.tankRadius) (hscale : 0 < treadScale rules speed)
  (hne : speed.left ≠ speed.right)

include hscale hne

theorem outerTread_sub_innerTread_ne_zero : outerTread rules speed - innerTread rules speed ≠ 0 := by
  have hside : outerSide rules speed ≠ 0 := by
    intro hzero
    have hone : outerSide rules speed * outerSide rules speed = 1 := outerSide_mul_self
    rw [hzero, zero_mul] at hone
    exact zero_ne_one hone
  rw [outerTread_sub_innerTread]
  exact mul_ne_zero hside (mul_ne_zero (sub_ne_zero.mpr hne) hscale.ne')

include hradius

theorem turn_ne_zero : turn rules speed ≠ 0 :=
  div_ne_zero (mul_ne_zero (sub_ne_zero.mpr hne) hscale.ne')
    (mul_ne_zero (Int.cast_ne_zero.mpr two_ne_zero) hradius.ne')

theorem tankRadius_le_circleRadius : rules.tankRadius ≤ circleRadius rules speed := by
  have hhalf := half_le_outer_div (outerTread_sub_innerTread_ne_zero hscale hne) abs_innerTread_le
  unfold circleRadius
  calc rules.tankRadius = 1 / 2 * (((2 : Int) : ℝ) * rules.tankRadius) := by
        push_cast
        ring
    _ ≤ outerTread rules speed / (outerTread rules speed - innerTread rules speed) *
          (((2 : Int) : ℝ) * rules.tankRadius) := by gcongr
    _ = _ := div_mul_eq_mul_div _ _ _

theorem arc_eq_turn : arc rules speed = turn rules speed := by
  have hgap := outerTread_sub_innerTread_ne_zero hscale hne
  have hwidth : ((2 : Int) : ℝ) * rules.tankRadius ≠ 0 :=
    mul_ne_zero (Int.cast_ne_zero.mpr two_ne_zero) hradius.ne'
  have houter : outerTread rules speed ≠ 0 := by
    intro hzero
    have hinner : |innerTread rules speed| ≤ |outerTread rules speed| := abs_innerTread_le
    rw [hzero, abs_zero, abs_nonpos_iff] at hinner
    exact hgap (by rw [hzero, hinner, sub_zero])
  calc arc rules speed
      = (outerTread rules speed - innerTread rules speed) / (((2 : Int) : ℝ) * rules.tankRadius) *
          outerSide rules speed := by
        unfold arc circleRadius
        rw [div_div_eq_mul_div, mul_div_mul_left _ _ houter]
    _ = outerSide rules speed * outerSide rules speed * turn rules speed := by
        rw [outerTread_sub_innerTread, turn]
        ring
    _ = turn rules speed := by rw [outerSide_mul_self, one_mul]

theorem motion_eq : motion rules speed =
    ⟨turn rules speed, circleRadius rules speed * tan (turn rules speed), outerSide rules speed,
      some (circleRadius rules speed)⟩ := by
  have hturning : motion rules speed = turning rules speed := if_neg (by simpa using hne)
  rw [hturning, turning_eq, arc_eq_turn hradius hscale hne]

end Turn

theorem abs_turn_le (hvalid : rules.Valid) (hleft : |speed.left| ≤ 100)
    (hright : |speed.right| ≤ 100) : |turn rules speed| ≤ rules.topSpeed / rules.tankRadius := by
  have hradius : 0 < rules.tankRadius := by simpa using hvalid.tankRadius_pos
  have hscale := treadScale_pos hvalid hleft hright
  have hgap : |speed.left - speed.right| ≤ 200 := by linarith [abs_sub speed.left speed.right]
  have hwidth : (0 : ℝ) < ((2 : Int) : ℝ) * rules.tankRadius := by
    push_cast
    positivity
  calc |turn rules speed|
      = |speed.left - speed.right| * treadScale rules speed / (((2 : Int) : ℝ) * rules.tankRadius) := by
        rw [turn, abs_div, abs_mul, abs_of_pos hscale, abs_of_pos hwidth]
    _ ≤ 200 * (rules.topSpeed / 100) / (((2 : Int) : ℝ) * rules.tankRadius) := by
        gcongr
        exact treadScale_le hvalid
    _ = rules.topSpeed / rules.tankRadius := by
        push_cast
        field_simp
        ring

theorem turnRadius_planMove (arena : Arena ℝ) (rules : Rules ℝ) (tank : Tank ℝ) :
    (tank.planMove arena rules).turnRadius =
      (motion rules (tank.planMove arena rules).speed).turnRadius.getD tank.turnRadius := rfl

-- A turn goes on a circle no smaller than the hull, and follows the gap between the treads.
theorem turn_follows_treads {rules : Rules ℝ} (hrules : rules.check = .ok ()) (arena : Arena ℝ)
    {tank ready : Tank ℝ} (hready : ready = tank.planMove arena rules)
    (hne : ready.speed.left ≠ ready.speed.right) (hleft : |ready.speed.left| ≤ 100)
    (hright : |ready.speed.right| ≤ 100) :
    letI gap := ready.speed.left - ready.speed.right
    letI scale := (1 - rules.friction * |gap| / 200) * rules.topSpeed / 100
    letI outer := outerTread rules ready.speed
    letI inner := innerTread rules ready.speed
    letI swept := (motion rules ready.speed).swept
    treadScale rules ready.speed = scale ∧ 0 < scale ∧
      outer - inner ≠ 0 ∧ ready.turnRadius = outer * (2 * rules.tankRadius) / (outer - inner) ∧
      0 < rules.tankRadius ∧ rules.tankRadius ≤ ready.turnRadius ∧
      ready.heading = modulo (tank.heading + swept) tau ∧
      swept = outer / ready.turnRadius * outerSide rules ready.speed ∧
      swept = gap * scale / (2 * rules.tankRadius) ∧
      (0 < swept ↔ 0 < gap) ∧ (swept < 0 ↔ gap < 0) ∧
      |swept| ≤ rules.topSpeed / rules.tankRadius := by
  have hvalid := Rules.check_eq_ok_iff.mp hrules
  have hradius : 0 < rules.tankRadius := by simpa using hvalid.tankRadius_pos
  have hscale := treadScale_pos hvalid hleft hright
  have hmotion := motion_eq hradius hscale hne
  have hcircle : ready.turnRadius = circleRadius rules ready.speed := by
    rw [hready, turnRadius_planMove, ← hready, hmotion, Option.getD_some]
  have hswept : (motion rules ready.speed).swept = turn rules ready.speed := by rw [hmotion]
  have hheading : ready.heading =
      modulo (tank.heading + (motion rules ready.speed).swept) tau := by
    rw [hready]
    rfl
  have hturn : turn rules ready.speed = (ready.speed.left - ready.speed.right) *
      (treadScale rules ready.speed / (2 * rules.tankRadius)) := by
    rw [turn, Int.cast_ofNat, mul_div_assoc]
  have hshare : 0 < treadScale rules ready.speed / (2 * rules.tankRadius) := by positivity
  rw [← treadScale_eq, hheading, hcircle, hswept]
  refine ⟨rfl, hscale, outerTread_sub_innerTread_ne_zero hscale hne, ?_, hradius,
    tankRadius_le_circleRadius hradius hscale hne, rfl, ?_, ?_, ?_, ?_,
    abs_turn_le hvalid hleft hright⟩
  · rw [circleRadius, Int.cast_ofNat]
  · rw [← arc_eq_turn hradius hscale hne, arc]
  · rw [turn, Int.cast_ofNat]
  · rw [hturn, mul_pos_iff_of_pos_right hshare]
  · rw [hturn, ← neg_pos, ← neg_mul, mul_pos_iff_of_pos_right hshare, neg_pos]

-- Keeps its treads at such speeds.
noncomputable def cruiser (left right : Int) : Tank ℝ :=
  let entry : Entry ℝ := ⟨"Cruiser", "", "", []⟩
  let tank := (ofEntry 0 entry Rules.standard).toOption.get rfl
  { tank with wantedSpeed := ⟨left, right⟩, speed := ⟨left, right⟩ }

theorem speed_cruiser (arena : Arena ℝ) (left right : Int) :
    ((cruiser left right).planMove arena Rules.standard).speed = ⟨left, right⟩ :=
  congrArg₂ Treads.mk (ramp_self _ _) (ramp_self _ _)

noncomputable def plain : Arena ℝ := ⟨(400 : Int), (400 : Int), []⟩

-- Opposed treads turn a tank about itself, under the standard friction at a quarter of their speed.
theorem turn_follows_treads_spin :
    letI ready := (cruiser (-100) 100).planMove plain Rules.standard
    (Rules.standard : Rules ℝ).check = .ok () ∧ ready.speed = ⟨-100, 100⟩ ∧
      (Rules.standard : Rules ℝ).tankRadius ≤ ready.turnRadius ∧
      (motion Rules.standard ready.speed).swept = -7 / 30 := by
  have hcheck := Rules.check_eq_ok_iff.mpr Rules.valid_standard
  have hspeed : ((cruiser (-100) 100).planMove plain Rules.standard).speed = ⟨-100, 100⟩ := by
    rw [speed_cruiser]
    norm_num
  obtain ⟨-, -, -, -, -, hcircle, -, -, hswept, -⟩ := turn_follows_treads hcheck plain rfl
    (by rw [hspeed]; norm_num) (by rw [hspeed]; norm_num) (by rw [hspeed]; norm_num)
  refine ⟨hcheck, hspeed, hcircle, hswept.trans ?_⟩
  rw [hspeed]
  norm_num [Rules.standard]

end Skirmish.Tank
