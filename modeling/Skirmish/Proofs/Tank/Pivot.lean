import Mathlib.Analysis.SpecialFunctions.Trigonometric.Arctan
import Skirmish.Proofs.Geometry.Plane
import Skirmish.Proofs.Tank.Turning
import Skirmish.Tank.Contact

namespace Skirmish

-- The direction a quarter turn to the left of a heading.
noncomputable def leftward (heading : ℝ) : Point ℝ :=
  Point.rotate (Real.pi / ((2 : Int) : ℝ)) ⟨Real.cos heading, Real.sin heading⟩

theorem leftward_eq (heading : ℝ) : leftward heading = ⟨-Real.sin heading, Real.cos heading⟩ := by
  unfold leftward Point.rotate
  simp

namespace Tank

-- The centre of the circle that a tank turns on lies on its left if it turns left driving on, or
-- right backing up, and on its right otherwise.
structure TurnsAbout (tank : Tank ℝ) (motion : Motion ℝ) (center : Point ℝ) : Prop where
  left : 0 < motion.distance * motion.direction * motion.swept →
    center = tank.position.along (leftward tank.heading) tank.turnRadius
  right : motion.distance * motion.direction * motion.swept < 0 →
    center = tank.position.along (leftward tank.heading) (-tank.turnRadius)

theorem pivot_eq (tank : Tank ℝ) :
    tank.pivot = tank.position.along (leftward tank.heading)
      (if tank.speed.left < tank.speed.right then -tank.turnRadius else tank.turnRadius) := by
  unfold pivot
  rw [leftward_eq, Point.along]
  split_ifs
  · change Point.mk _ _ = _
    simp only [Reals.sin_eq, Reals.cos_eq]
    congr 1 <;> ring
  · change Point.mk _ _ = _
    simp only [Reals.sin_eq, Reals.cos_eq]
    congr 1 <;> ring

theorem along_leftward_inj {p : Point ℝ} {heading a b : ℝ} :
    p.along (leftward heading) a = p.along (leftward heading) b ↔ a = b := by
  refine ⟨fun h => ?_, fun h => h ▸ rfl⟩
  rw [leftward_eq, Point.along, Point.along, Point.mk.injEq] at h
  have hx : (a - b) * Real.sin heading = 0 := by linarith [h.1]
  have hy : (a - b) * Real.cos heading = 0 := by linarith [h.2]
  have hunit := Real.sin_sq_add_cos_sq heading
  have hsq : (a - b) ^ 2 = 0 := by
    linear_combination (a - b) * Real.sin heading * hx + (a - b) * Real.cos heading * hy -
      (a - b) ^ 2 * hunit
  exact sub_eq_zero.mp (pow_eq_zero_iff two_ne_zero |>.mp hsq)

-- The point opposite to one on a line.
theorem along_opposite (p step : Point ℝ) (a : ℝ) :
    p.along (p - p.along step a) 1 = p.along step (-a) := by
  change Point.mk (p.x + 1 * (p.x - (p.x + a * step.x))) (p.y + 1 * (p.y - (p.y + a * step.y))) = _
  rw [Point.along]
  congr 1 <;> ring

section Side

variable {tank : Tank ℝ} {motion : Motion ℝ} {center : Point ℝ}

theorem turnsAbout_of_pos (h : 0 < motion.distance * motion.direction * motion.swept) :
    tank.TurnsAbout motion center ↔
      center = tank.position.along (leftward tank.heading) tank.turnRadius :=
  ⟨fun hturns => hturns.left h, fun hcenter => ⟨fun _ => hcenter, fun hneg => absurd hneg h.not_gt⟩⟩

theorem turnsAbout_of_neg (h : motion.distance * motion.direction * motion.swept < 0) :
    tank.TurnsAbout motion center ↔
      center = tank.position.along (leftward tank.heading) (-tank.turnRadius) :=
  ⟨fun hturns => hturns.right h, fun hcenter => ⟨fun hpos => absurd hpos h.not_gt, fun _ => hcenter⟩⟩

end Side

theorem tan_mul_self_pos {a : ℝ} (hne : a ≠ 0) (hsmall : |a| < Real.pi / 2) :
    0 < Real.tan a * a := by
  obtain ⟨hlow, hhigh⟩ := abs_lt.mp hsmall
  rcases lt_or_gt_of_ne hne with hneg | hpos
  · exact mul_pos_of_neg_of_neg (Real.tan_neg_of_neg_of_pi_div_two_lt hneg hlow) hneg
  · exact mul_pos (Real.tan_pos_of_pos_of_lt_pi_div_two hpos hhigh) hpos

section Turning

variable {rules : Rules ℝ} {speed : Treads ℝ}

theorem exists_motion (hradius : 0 < rules.tankRadius) (hscale : 0 < treadScale rules speed)
    (hne : speed.left ≠ speed.right) :
    ∃ radius, 0 < radius ∧ motion rules speed =
      ⟨turn rules speed, radius * Real.tan (turn rules speed),
        if |speed.right| < |speed.left| then 1 else -1, some radius⟩ := by
  refine ⟨circleRadius rules speed,
    hradius.trans_le (tankRadius_le_circleRadius hradius hscale hne), ?_⟩
  rw [motion_eq hradius hscale hne, outerSide]
  simp only [leftOuter_iff hscale, Int.cast_one, Int.cast_neg, Reals.tan_eq]

end Turning

-- Whether the tread that is faster one way or the other is the greater one, too.
theorem lt_iff_not_abs_lt {left right : ℝ} (hne : left ≠ right) :
    (left < right ↔ ¬ |right| < |left|) ↔ 0 < left + right ∨ left + right = 0 ∧ left < right := by
  have hfactor : left ^ 2 - right ^ 2 = (left - right) * (left + right) := by ring
  have hfaster : |right| < |left| ↔ 0 < (left - right) * (left + right) := by
    rw [← sq_lt_sq, ← sub_pos, hfactor]
  rw [hfaster]
  rcases lt_or_gt_of_ne hne with hlt | hgt
  · rw [← neg_mul_neg, mul_pos_iff_of_pos_left (neg_pos.mpr (sub_neg.mpr hlt)), neg_pos]
    simp only [hlt, true_iff, and_true, not_lt, le_iff_lt_or_eq, eq_comm]
  · rw [mul_pos_iff_of_pos_left (sub_pos.mpr hgt)]
    simp only [hgt.not_gt, false_iff, not_not, and_false, or_false]

section Pivot

variable {rules : Rules ℝ} (hvalid : rules.Valid) (arena : Arena ℝ) {tank ready : Tank ℝ}
  (hready : ready = tank.planMove arena rules) (hne : ready.speed.left ≠ ready.speed.right)
  (hleft : |ready.speed.left| ≤ 100) (hright : |ready.speed.right| ≤ 100)
  (hswept : |(motion rules ready.speed).swept| < Real.pi / 2)

include hvalid hready hne hleft hright hswept

-- The side on which the centre lies is that of the slower tread, whichever way it goes.
theorem turnsAbout_iff :
    (motion rules ready.speed).distance * (motion rules ready.speed).direction *
      (motion rules ready.speed).swept ≠ 0 ∧ 0 < ready.turnRadius ∧
    ∀ center, ready.TurnsAbout (motion rules ready.speed) center ↔
      center = ready.position.along (leftward ready.heading)
        (if |ready.speed.right| < |ready.speed.left| then ready.turnRadius
          else -ready.turnRadius) := by
  have hradius : 0 < rules.tankRadius := by simpa using hvalid.tankRadius_pos
  have hscale := treadScale_pos hvalid hleft hright
  have hturn := turn_ne_zero hradius hscale hne
  obtain ⟨radius, hpos, hmotion⟩ := exists_motion hradius hscale hne
  have hcircle : ready.turnRadius = radius := by
    have hled : ready.turnRadius = (motion rules ready.speed).turnRadius.getD tank.turnRadius := by
      rw [hready]
      rfl
    rw [hled, hmotion, Option.getD_some]
  rw [hmotion] at hswept ⊢
  rw [hcircle]
  have hforward := mul_pos hpos (tan_mul_self_pos hturn hswept)
  have hway : ∀ side, radius * Real.tan (turn rules ready.speed) * side * turn rules ready.speed =
      side * (radius * (Real.tan (turn rules ready.speed) * turn rules ready.speed)) := by
    intro side
    ring
  dsimp only
  split_ifs with houter
  · have hpositive : 0 < radius * Real.tan (turn rules ready.speed) * 1 *
        turn rules ready.speed := by
      rwa [hway, one_mul]
    refine ⟨hpositive.ne', hpos, fun center => ?_⟩
    rw [turnsAbout_of_pos hpositive, hcircle]
  · have hnegative : radius * Real.tan (turn rules ready.speed) * -1 *
        turn rules ready.speed < 0 := by
      rwa [hway, neg_one_mul, neg_lt_zero]
    refine ⟨hnegative.ne, hpos, fun center => ?_⟩
    rw [turnsAbout_of_neg hnegative, hcircle]

-- The circle that contacts are computed on is the one a tank turns on if its treads add up to a
-- way forward, or the right one just makes up for the left. For all other treads it is the
-- mirror image of that circle, on the other side of the tank.
theorem turnsAbout_pivot_iff :
    (motion rules ready.speed).distance * (motion rules ready.speed).direction *
      (motion rules ready.speed).swept ≠ 0 ∧
    (ready.TurnsAbout (motion rules ready.speed) ready.pivot ↔
      0 < ready.speed.left + ready.speed.right ∨
        ready.speed.left + ready.speed.right = 0 ∧ ready.speed.left < ready.speed.right) ∧
    (¬ ready.TurnsAbout (motion rules ready.speed) ready.pivot →
      ready.TurnsAbout (motion rules ready.speed)
        (ready.position.along (ready.position - ready.pivot) 1)) := by
  obtain ⟨hway, hpos, hturns⟩ := turnsAbout_iff hvalid arena hready hne hleft hright hswept
  have hsides : ready.turnRadius ≠ -ready.turnRadius := by linarith
  refine ⟨hway, ?_⟩
  rw [hturns, hturns, pivot_eq, along_opposite, along_leftward_inj, along_leftward_inj,
    ← lt_iff_not_abs_lt hne]
  split_ifs with hslower houter houter
  · simp [hsides.symm, hslower, houter]
  · simp [hslower, houter]
  · simp [hslower, houter]
  · simp [hsides, hslower, houter]

end Pivot

-- Under the standard rules no tank turns by as much as a quarter in a tick.
theorem abs_swept_standard (speed : Treads ℝ) (hleft : |speed.left| ≤ 100)
    (hright : |speed.right| ≤ 100) (hne : speed.left ≠ speed.right) :
    |(motion (Rules.standard : Rules ℝ) speed).swept| < Real.pi / 2 := by
  have hscale := treadScale_pos Rules.valid_standard hleft hright
  have hradius : 0 < (Rules.standard : Rules ℝ).tankRadius := by norm_num [Rules.standard]
  have hturn : |turn (Rules.standard : Rules ℝ) speed| ≤ 1 :=
    (abs_turn_le Rules.valid_standard hleft hright).trans (by norm_num [Rules.standard])
  rw [motion_eq hradius hscale hne]
  dsimp only
  linarith [Real.pi_gt_three]

-- Going forward, a tank turns on the circle that contacts are computed on.
theorem turnsAbout_pivot_forward :
    letI ready := (cruiser 60 50).planMove plain Rules.standard
    (Rules.standard : Rules ℝ).Valid ∧ ready.speed = ⟨60, 50⟩ ∧
      |(motion Rules.standard ready.speed).swept| < Real.pi / 2 ∧
      ready.TurnsAbout (motion Rules.standard ready.speed) ready.pivot := by
  have hspeed : ((cruiser 60 50).planMove plain Rules.standard).speed = ⟨60, 50⟩ := by
    rw [speed_cruiser]
    norm_num
  have hswept := abs_swept_standard ⟨60, 50⟩ (by norm_num) (by norm_num) (by norm_num)
  obtain ⟨-, hturns, -⟩ := turnsAbout_pivot_iff Rules.valid_standard plain rfl
    (by rw [hspeed]; norm_num) (by rw [hspeed]; norm_num) (by rw [hspeed]; norm_num)
    (by rwa [hspeed])
  refine ⟨Rules.valid_standard, hspeed, by rwa [hspeed], hturns.mpr (.inl ?_)⟩
  rw [hspeed]
  norm_num

-- Backing up, a tank does not.
theorem not_turnsAbout_pivot_backing :
    letI ready := (cruiser (-80) (-70)).planMove plain Rules.standard
    (Rules.standard : Rules ℝ).Valid ∧ ready.speed = ⟨-80, -70⟩ ∧
      |(motion Rules.standard ready.speed).swept| < Real.pi / 2 ∧
      ¬ ready.TurnsAbout (motion Rules.standard ready.speed) ready.pivot := by
  have hspeed : ((cruiser (-80) (-70)).planMove plain Rules.standard).speed = ⟨-80, -70⟩ := by
    rw [speed_cruiser]
    norm_num
  have hswept := abs_swept_standard ⟨-80, -70⟩ (by norm_num) (by norm_num) (by norm_num)
  obtain ⟨-, hpos, hturns⟩ := turnsAbout_iff Rules.valid_standard plain rfl
    (by rw [hspeed]; norm_num) (by rw [hspeed]; norm_num) (by rw [hspeed]; norm_num)
    (by rwa [hspeed])
  refine ⟨Rules.valid_standard, hspeed, by rwa [hspeed], ?_⟩
  rw [hturns, pivot_eq, along_leftward_inj, hspeed, if_pos (by norm_num), if_pos (by norm_num)]
  linarith

end Tank

end Skirmish
