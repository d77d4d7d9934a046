import Skirmish.Proofs.Geometry.Bearing
import Skirmish.Proofs.Sight.Visibility

namespace Skirmish

namespace Point

-- The unit step at a bearing.
noncomputable def unit (bearing : ℝ) : Point ℝ := ⟨Real.cos bearing, Real.sin bearing⟩

-- The angle between a bearing and a way.
noncomputable def apart (bearing : ℝ) (way : Point ℝ) : ℝ :=
  InnerProductGeometry.angle (unit bearing).toComplex way.toComplex

-- How far a way leads along a bearing.
noncomputable def ahead (bearing : ℝ) (way : Point ℝ) : ℝ :=
  way.x * Real.cos bearing + way.y * Real.sin bearing

-- How far a way leads to the left of a bearing.
noncomputable def aside (bearing : ℝ) (way : Point ℝ) : ℝ :=
  way.y * Real.cos bearing - way.x * Real.sin bearing

-- Whether the ray at a bearing passes strictly within a radius of where a way leads, with that
-- ahead of it.
structure Grazes (bearing radius : ℝ) (way : Point ℝ) : Prop where
  ahead : 0 < inner ℝ (unit bearing).toComplex way.toComplex
  passes : ∃ length, 0 ≤ length ∧ (origin.along (unit bearing) length).distance way < radius

section Ahead

variable (bearing : ℝ) (way : Point ℝ)

theorem inner_unit : inner ℝ (unit bearing).toComplex way.toComplex = ahead bearing way := by
  rw [Complex.inner]
  simp [unit, toComplex, ahead]

theorem normSq_unit : inner ℝ (unit bearing).toComplex (unit bearing).toComplex = 1 := by
  rw [inner_unit, ahead, unit, ← pow_two, ← pow_two, Real.cos_sq_add_sin_sq]

theorem norm_unit : ‖(unit bearing).toComplex‖ = 1 := by
  rw [norm_eq_sqrt_real_inner, normSq_unit, Real.sqrt_one]

theorem normSq_toComplex : inner ℝ way.toComplex way.toComplex = way.lengthSq := by
  rw [Complex.inner]
  simp [toComplex, lengthSq]

theorem norm_toComplex : ‖way.toComplex‖ = √way.lengthSq := by
  rw [norm_eq_sqrt_real_inner, normSq_toComplex]

theorem ahead_sq_add_aside_sq : ahead bearing way ^ 2 + aside bearing way ^ 2 = way.lengthSq := by
  rw [ahead, aside, lengthSq]
  linear_combination (way.x ^ 2 + way.y ^ 2) * Real.cos_sq_add_sin_sq bearing

theorem ahead_eq : ahead bearing way = √way.lengthSq * Real.cos (apart bearing way) := by
  rw [← inner_unit, ← InnerProductGeometry.cos_angle_mul_norm_mul_norm, norm_unit, one_mul,
    norm_toComplex, mul_comm]
  rfl

theorem abs_aside : |aside bearing way| = √way.lengthSq * Real.sin (apart bearing way) := by
  have hsin := InnerProductGeometry.sin_angle_mul_norm_mul_norm (unit bearing).toComplex
    way.toComplex
  rw [norm_unit, one_mul, norm_toComplex, normSq_unit, one_mul, normSq_toComplex, inner_unit,
    ← pow_two, ← ahead_sq_add_aside_sq bearing way, add_sub_cancel_left, Real.sqrt_sq_eq_abs,
    ahead_sq_add_aside_sq] at hsin
  rw [← hsin, mul_comm]
  rfl

theorem apart_mem : apart bearing way ∈ Set.Icc 0 Real.pi :=
  ⟨InnerProductGeometry.angle_nonneg _ _, InnerProductGeometry.angle_le_pi _ _⟩

variable {bearing way}

theorem lengthSq_pos (haside : aside bearing way ≠ 0) : 0 < way.lengthSq := by
  rw [← ahead_sq_add_aside_sq bearing way]
  positivity

theorem apart_mem_of_aside (haside : aside bearing way ≠ 0) :
    apart bearing way ∈ Set.Ioo 0 Real.pi := by
  have hsin : 0 < √way.lengthSq * Real.sin (apart bearing way) := by
    rw [← abs_aside]
    exact abs_pos.mpr haside
  have hsin' : Real.sin (apart bearing way) ≠ 0 := by
    intro h
    rw [h, mul_zero] at hsin
    exact lt_irrefl 0 hsin
  obtain ⟨hnonneg, hle⟩ := apart_mem bearing way
  refine ⟨lt_of_le_of_ne hnonneg fun h => hsin' ?_, lt_of_le_of_ne hle fun h => hsin' ?_⟩
  · rw [← h, Real.sin_zero]
  · rw [h, Real.sin_pi]

-- The farther a way leads along a bearing, the closer it is to it.
theorem apart_le_iff {bearing' : ℝ} (hway : 0 < way.lengthSq) :
    apart bearing way ≤ apart bearing' way ↔ ahead bearing' way ≤ ahead bearing way := by
  rw [ahead_eq, ahead_eq, mul_le_mul_iff_right₀ (Real.sqrt_pos.mpr hway)]
  exact (Real.strictAntiOn_cos.le_iff_ge (apart_mem bearing' way) (apart_mem bearing way)).symm

theorem grazes_iff {radius : ℝ} (hradius : 0 < radius) :
    Grazes bearing radius way ↔ 0 < ahead bearing way ∧ |aside bearing way| < radius := by
  have hpass : ∀ length, (origin.along (unit bearing) length).distanceSq way =
      (length - ahead bearing way) ^ 2 + aside bearing way ^ 2 := by
    intro length
    rw [distanceSq_eq, along, unit, origin, ahead, aside]
    push_cast
    linear_combination (length ^ 2 - way.x ^ 2 - way.y ^ 2) * Real.cos_sq_add_sin_sq bearing
  constructor
  · rintro ⟨hahead, length, -, hnear⟩
    rw [inner_unit] at hahead
    refine ⟨hahead, abs_lt_of_sq_lt_sq ?_ hradius.le⟩
    rw [distance, hpass, Real.sqrt_lt' hradius] at hnear
    linarith [sq_nonneg (length - ahead bearing way)]
  · rintro ⟨hahead, haside⟩
    refine ⟨by rwa [inner_unit], ahead bearing way, hahead.le, ?_⟩
    rw [distance, hpass, sub_self, zero_pow two_ne_zero, zero_add, Real.sqrt_sq_eq_abs]
    exact haside

-- Turned back by a bearing, a way is seen along it.
theorem rotate_neg (bearing : ℝ) (way : Point ℝ) :
    way.rotate (-bearing) = ⟨ahead bearing way, aside bearing way⟩ := by
  change Point.mk (way.x * Real.cos (-bearing) - way.y * Real.sin (-bearing))
    (way.x * Real.sin (-bearing) + way.y * Real.cos (-bearing)) = _
  rw [Real.cos_neg, Real.sin_neg, ahead, aside]
  congr 1 <;> ring

theorem ahead_add (bearing turn : ℝ) (way : Point ℝ) : ahead (bearing + turn) way =
    ahead bearing way * Real.cos turn + aside bearing way * Real.sin turn := by
  rw [ahead, ahead, aside, Real.cos_add, Real.sin_add]
  ring

theorem aside_add (bearing turn : ℝ) (way : Point ℝ) : aside (bearing + turn) way =
    aside bearing way * Real.cos turn - ahead bearing way * Real.sin turn := by
  rw [aside, ahead, aside, Real.cos_add, Real.sin_add]
  ring

end Ahead

end Point

-- A shot flies along a ray: a tank has in its sights what the ray of its cannon passes, near enough
-- to strike the hull and near enough for the cannon.
theorem Combat.inSights_iff_grazes {rules : Rules ℝ} (hrange : 0 ≤ rules.cannonRange)
    (hradius : 0 < rules.tankRadius) {shooter : Tank ℝ} {way : Point ℝ} :
    inSights rules shooter way way.lengthSq = true ↔
      √way.lengthSq ≤ rules.cannonRange + rules.tankRadius ∧
        way.Grazes (shooter.heading + shooter.turret.angle) rules.tankRadius := by
  have hreach : ¬ rules.cannonReachSq < way.lengthSq ↔
      √way.lengthSq ≤ rules.cannonRange + rules.tankRadius := by
    rw [Real.sqrt_le_left (by positivity), not_lt, pow_two]
    rfl
  rw [inSights_iff, hreach, Point.grazes_iff hradius, lineOfFire, Point.rotate_neg, Int.cast_zero]
  rfl

namespace Sensor

open Point

-- The edge of a cone that is nearer to a way, or one of them.
structure NearerEdge (axis width : ℝ) (way : Point ℝ) (edge : ℝ) : Prop where
  isEdge : edge = axis - width / 2 ∨ edge = axis + width / 2
  nearer : ∀ other, other = axis - width / 2 ∨ other = axis + width / 2 →
    apart edge way ≤ apart other way

variable {axis width radius : ℝ} {way : Point ℝ}

theorem relative_eq (axis : ℝ) (way : Point ℝ) :
    relative axis way = ⟨ahead axis way, |aside axis way|⟩ := by
  unfold relative
  rw [rotate_neg]
  rfl

-- Seen along the axis and folded over, a way leads as far from the axis as it does.
theorem relative_eq_polar (axis : ℝ) (way : Point ℝ) : relative axis way =
    ⟨√way.lengthSq * Real.cos (apart axis way), √way.lengthSq * Real.sin (apart axis way)⟩ := by
  rw [relative_eq, ahead_eq, abs_aside]

theorem inCone_iff (hwidth : width ∈ Set.Ioo 0 (2 * Real.pi)) (haside : aside axis way ≠ 0) :
    inCone width (relative axis way) = true ↔ apart axis way ≤ width / 2 := by
  obtain ⟨hwide, hless⟩ := hwidth
  obtain ⟨hpos, hlt⟩ := apart_mem_of_aside haside
  have hlength := Real.sqrt_pos.mpr (lengthSq_pos haside)
  have hsin : 0 < Real.sin (apart axis way) := Real.sin_pos_of_pos_of_lt_pi hpos hlt
  have hsin' : 0 < Real.sin (width / 2) :=
    Real.sin_pos_of_pos_of_lt_pi (by linarith) (by linarith)
  have hslopes : inCone width (relative axis way) = true ↔
      Real.cos (width / 2) / Real.sin (width / 2) ≤
        Real.cos (apart axis way) / Real.sin (apart axis way) := by
    have hedge : 1 / Real.tan (width / 2) = Real.cos (width / 2) / Real.sin (width / 2) := by
      rw [Real.tan_eq_sin_div_cos, one_div_div]
    rw [relative_eq_polar, inCone, decide_eq_true_iff, mul_div_mul_left _ _ hlength.ne', ← hedge]
    norm_cast
  have hdifference : Real.sin (apart axis way - width / 2) =
      Real.cos (width / 2) * Real.sin (apart axis way) -
        Real.cos (apart axis way) * Real.sin (width / 2) := by
    rw [Real.sin_sub]
    ring
  rw [hslopes, div_le_div_iff₀ hsin' hsin, ← sub_nonpos, ← hdifference]
  constructor
  · intro hslope
    by_contra hout
    have hbeyond : 0 < apart axis way - width / 2 := sub_pos.mpr (not_le.mp hout)
    exact absurd hslope (Real.sin_pos_of_pos_of_lt_pi hbeyond (by linarith)).not_ge
  · intro hin
    exact Real.sin_nonpos_of_nonpos_of_neg_pi_le (sub_nonpos.mpr hin) (by linarith)

theorem onEdge_iff : onEdge width radius (relative axis way) = true ↔
    0 < √way.lengthSq * Real.cos (apart axis way - width / 2) ∧
      |√way.lengthSq * Real.sin (apart axis way - width / 2)| < radius := by
  have hturned : (relative axis way).rotate (-width / ((2 : Int) : ℝ)) =
      ⟨√way.lengthSq * Real.cos (apart axis way - width / 2),
        √way.lengthSq * Real.sin (apart axis way - width / 2)⟩ := by
    have hhalf : -width / ((2 : Int) : ℝ) = -(width / 2) := by
      push_cast
      ring
    rw [relative_eq_polar, hhalf, Real.cos_sub, Real.sin_sub]
    change Point.mk (_ * Real.cos (-(width / 2)) - _ * Real.sin (-(width / 2)))
      (_ * Real.sin (-(width / 2)) + _ * Real.cos (-(width / 2))) = _
    rw [Real.cos_neg, Real.sin_neg]
    congr 1 <;> ring
  unfold onEdge
  dsimp only
  rw [hturned, Bool.and_eq_true, decide_eq_true_iff, decide_eq_true_iff]
  norm_cast

theorem nearerEdge_iff {edge other : ℝ} (hway : 0 < way.lengthSq)
    (hedges : ∀ bearing, bearing = axis - width / 2 ∨ bearing = axis + width / 2 ↔
      bearing = edge ∨ bearing = other) (hahead : ahead other way < ahead edge way) (bearing : ℝ) :
    NearerEdge axis width way bearing ↔ bearing = edge := by
  constructor
  · rintro ⟨hbearing, hnearer⟩
    rcases (hedges bearing).mp hbearing with rfl | rfl
    · rfl
    · have hback := (apart_le_iff hway).mp (hnearer edge ((hedges edge).mpr (.inl rfl)))
      exact absurd hback hahead.not_ge
  · rintro rfl
    refine ⟨(hedges bearing).mpr (.inl rfl), fun other' hother => ?_⟩
    rcases (hedges other').mp hother with rfl | rfl
    · exact le_rfl
    · exact (apart_le_iff hway).mpr hahead.le

-- The nearer edge is the one on the side of the way. From it, the way is as far off as it is from
-- the axis, less half of the width.
theorem exists_nearerEdge (hwidth : width ∈ Set.Ioo 0 (2 * Real.pi)) (haside : aside axis way ≠ 0) :
    ∃ edge, (∀ bearing, NearerEdge axis width way bearing ↔ bearing = edge) ∧
      ahead edge way = √way.lengthSq * Real.cos (apart axis way - width / 2) ∧
      |aside edge way| = |√way.lengthSq * Real.sin (apart axis way - width / 2)| := by
  obtain ⟨hwide, hless⟩ := hwidth
  have hway := lengthSq_pos haside
  have hsin : 0 < Real.sin (width / 2) :=
    Real.sin_pos_of_pos_of_lt_pi (by linarith) (by linarith)
  have habs := abs_aside axis way
  have hplus := ahead_add axis (width / 2) way
  have hminus := ahead_add axis (-(width / 2)) way
  rw [← sub_eq_add_neg, Real.cos_neg, Real.sin_neg] at hminus
  rw [Real.cos_sub, Real.sin_sub]
  rcases haside.lt_or_gt with hright | hleft
  · rw [abs_of_neg hright] at habs
    have hnearer : ahead (axis + width / 2) way < ahead (axis - width / 2) way := by
      rw [hplus, hminus]
      linarith [mul_neg_of_neg_of_pos hright hsin]
    refine ⟨axis - width / 2, nearerEdge_iff hway (fun _ => Iff.rfl) hnearer, ?_, ?_⟩
    · rw [hminus, ahead_eq]
      linear_combination Real.sin (width / 2) * habs
    · rw [← abs_neg, sub_eq_add_neg, aside_add, Real.cos_neg, Real.sin_neg, ahead_eq]
      congr 1
      linear_combination Real.cos (width / 2) * habs
  · rw [abs_of_pos hleft] at habs
    have hnearer : ahead (axis - width / 2) way < ahead (axis + width / 2) way := by
      rw [hplus, hminus]
      linarith [mul_pos hleft hsin]
    refine ⟨axis + width / 2, nearerEdge_iff hway (fun _ => or_comm) hnearer, ?_, ?_⟩
    · rw [hplus, ahead_eq]
      linear_combination Real.sin (width / 2) * habs
    · rw [aside_add, ahead_eq]
      congr 1
      linear_combination Real.cos (width / 2) * habs

-- What a cone covers, by angles: the directions of its edges decide for targets that are not in it.
theorem covers_iff {sensor : Sensor ℝ} {hull turret : ℝ}
    (hwidth : sensor.width ∈ Set.Ioo 0 (2 * Real.pi)) (hradius : 0 < radius)
    (haside : aside (sensor.axis hull turret) way ≠ 0) :
    sensor.covers hull turret radius way = true ↔
      apart (sensor.axis hull turret) way ≤ sensor.width / 2 ∨
        ∃ edge, Grazes edge radius way ∧
          NearerEdge (sensor.axis hull turret) sensor.width way edge := by
  obtain ⟨edge, hedge, hahead, haside'⟩ := exists_nearerEdge hwidth haside
  have hgrazes : onEdge sensor.width radius (relative (sensor.axis hull turret) way) = true ↔
      Grazes edge radius way := by
    rw [onEdge_iff, grazes_iff hradius, hahead, haside']
  unfold covers
  dsimp only
  rw [Bool.or_eq_true, inCone_iff hwidth haside, hgrazes]
  simp only [hedge, exists_eq_right]

-- A wider cone around the same axis covers what a narrower one does. A target that the narrower
-- one only touches is in the wider one or closer to its edge.
theorem covers_of_wider (sensor wider : Sensor ℝ) {hull turret : ℝ}
    (haxis : wider.axis hull turret = sensor.axis hull turret)
    (hwidth : sensor.width ∈ Set.Ioo 0 (2 * Real.pi)) (hwider : sensor.width ≤ wider.width)
    (hless : wider.width < 2 * Real.pi) (haside : aside (sensor.axis hull turret) way ≠ 0)
    (h : sensor.covers hull turret radius way = true) :
    wider.covers hull turret radius way = true := by
  have hway := Real.sqrt_pos.mpr (lengthSq_pos haside)
  obtain ⟨hpos, hlt⟩ := apart_mem_of_aside haside
  unfold covers at h ⊢
  dsimp only at h ⊢
  rw [haxis, Bool.or_eq_true, inCone_iff ⟨hwidth.1.trans_le hwider, hless⟩ haside, onEdge_iff]
  rw [Bool.or_eq_true, inCone_iff hwidth haside, onEdge_iff] at h
  generalize apart (sensor.axis hull turret) way = off at *
  rcases h with hin | ⟨hahead, hnear⟩
  · exact .inl (by linarith)
  · refine or_iff_not_imp_left.mpr fun hout => ?_
    have hwide := hwidth.1
    have hbeyond : 0 < off - wider.width / 2 := sub_pos.mpr (not_le.mp hout)
    have hcloser : off - wider.width / 2 ≤ off - sensor.width / 2 := by linarith
    have hacute : off - sensor.width / 2 < Real.pi / 2 := by
      by_contra hobtuse
      have hback := Real.cos_nonpos_of_pi_div_two_le_of_le (not_lt.mp hobtuse) (by linarith)
      exact absurd hahead (mul_nonpos_of_nonneg_of_nonpos hway.le hback).not_gt
    have hcos : 0 < Real.cos (off - wider.width / 2) :=
      Real.cos_pos_of_mem_Ioo ⟨by linarith, by linarith⟩
    have hsin : 0 < Real.sin (off - wider.width / 2) :=
      Real.sin_pos_of_pos_of_lt_pi hbeyond (by linarith)
    refine ⟨mul_pos hway hcos, ?_⟩
    calc |√way.lengthSq * Real.sin (off - wider.width / 2)|
        = √way.lengthSq * Real.sin (off - wider.width / 2) := abs_of_pos (mul_pos hway hsin)
      _ ≤ √way.lengthSq * Real.sin (off - sensor.width / 2) := by
          gcongr
          exact Real.sin_le_sin_of_le_of_le_pi_div_two (by linarith) hacute.le hcloser
      _ ≤ |√way.lengthSq * Real.sin (off - sensor.width / 2)| := le_abs_self _
      _ < radius := hnear

theorem reaches_iff {range : ℝ} (hrange : 0 ≤ range) (hradius : 0 < radius) :
    reaches range radius way.lengthSq = true ↔ √way.lengthSq ≤ range + radius := by
  rw [Real.sqrt_le_left (by positivity), reaches, Bool.not_eq_true', decide_eq_false_iff_not,
    not_lt, pow_two]
  rfl

-- Whether a target is near enough for a sensor and for the rules. A range of 0 is an empty slot.
structure InReach (limit radius : ℝ) (way : Point ℝ) (sensor : Sensor ℝ) : Prop where
  mounted : sensor.range ≠ 0
  range : √way.lengthSq ≤ sensor.range + radius
  limit : √way.lengthSq ≤ limit + radius

end Sensor

namespace Tank

-- Whether a look at a target shows on the sensor of a number.
def Triggers (rules : Rules ℝ) (k : Nat) (radius : ℝ) (way : Point ℝ) (kind : ObjectKind)
    (tank : Tank ℝ) : Prop :=
  ∃ after, (tank.sense rules way way.lengthSq radius kind).sensors[k]? = some after ∧
    after.seen &&& kind.bit ≠ 0

theorem triggers_iff {rules : Rules ℝ} {tank : Tank ℝ} {k : Nat} {sensor : Sensor ℝ}
    (hk : tank.sensors[k]? = some sensor) {kind : ObjectKind}
    (hblank : sensor.seen &&& kind.bit = 0) (radius : ℝ) (way : Point ℝ) :
    tank.Triggers rules k radius way kind ↔
      Sensor.reaches rules.sensorRange radius way.lengthSq = true ∧
        tank.spots sensor radius way = true := by
  unfold Triggers sense
  cases hreach : Sensor.reaches rules.sensorRange radius way.lengthSq with
  | false => simp [hk, hblank]
  | true =>
      have hlook : Sensor.look tank.heading tank.turret.angle radius way.lengthSq way kind sensor =
          if tank.spots sensor radius way then { sensor with seen := sensor.seen ||| kind.bit }
          else sensor := Sensor.look_eq _ _ _ _ _ _ _
      rw [Bool.not_true, if_neg Bool.false_ne_true, List.getElem?_map, hk, Option.map_some, hlook]
      cases tank.spots sensor radius way with
      | false => simp [hblank]
      | true =>
          have hbit : (sensor.seen ||| kind.bit) &&& kind.bit = kind.bit := by
            rw [← UInt32.toBitVec_inj]
            ext i
            simpa using fun h => .inr h
          have hset : kind.bit ≠ 0 := by
            cases kind <;> decide
          simp [hbit, hset]

-- Once they are near enough, sensors see what is in their cone by its angle and what the nearer edge
-- of it grazes. So a wider cone, or a farther range, loses nothing.
theorem sensors_trigger_by_angle {rules : Rules ℝ} (hlimit : 0 ≤ rules.sensorRange) {tank : Tank ℝ}
    {k : Nat} {sensor : Sensor ℝ} (hk : tank.sensors[k]? = some sensor) (hrange : 0 ≤ sensor.range)
    (hwidth : sensor.width ∈ Set.Ioo 0 (2 * Real.pi)) {kind : ObjectKind}
    (hblank : sensor.seen &&& kind.bit = 0) {radius : ℝ} (hradius : 0 < radius) {way : Point ℝ}
    (haside : way.aside (sensor.axis tank.heading tank.turret.angle) ≠ 0) :
    (tank.Triggers rules k radius way kind ↔ sensor.InReach rules.sensorRange radius way ∧
      (way.apart (sensor.axis tank.heading tank.turret.angle) ≤ sensor.width / 2 ∨
        ∃ edge, way.Grazes edge radius ∧
          Sensor.NearerEdge (sensor.axis tank.heading tank.turret.angle) sensor.width way edge)) ∧
    ∀ width ∈ Set.Ico sensor.width (2 * Real.pi), ∀ range, sensor.range ≤ range →
      tank.Triggers rules k radius way kind →
        Triggers rules k radius way kind
          { tank with sensors := tank.sensors.set k { sensor with width, range } } := by
  have hreach : ∀ range, 0 ≤ range → (Sensor.reaches range radius way.lengthSq = true ↔
      √way.lengthSq ≤ range + radius) := fun _ h => Sensor.reaches_iff h hradius
  have hspots : ∀ {sensor : Sensor ℝ}, 0 ≤ sensor.range → (tank.spots sensor radius way = true ↔
      (sensor.range ≠ 0 ∧ √way.lengthSq ≤ sensor.range + radius) ∧
        sensor.covers tank.heading tank.turret.angle radius way = true) := by
    intro sensor hrange
    rw [spots, Sensor.detects, Bool.and_eq_true, Bool.and_eq_true, Bool.not_eq_true',
      beq_eq_false_iff_ne, hreach _ hrange, Int.cast_zero]
  rw [triggers_iff hk hblank, hreach _ hlimit, hspots hrange]
  constructor
  · rw [Sensor.covers_iff hwidth hradius haside]
    constructor
    · rintro ⟨hallowed, ⟨hmounted, hnear⟩, hcovers⟩
      exact ⟨⟨hmounted, hnear, hallowed⟩, hcovers⟩
    · rintro ⟨⟨hmounted, hnear, hallowed⟩, hcovers⟩
      exact ⟨hallowed, ⟨hmounted, hnear⟩, hcovers⟩
  · rintro width ⟨hwider, hless⟩ range hfarther ⟨hallowed, ⟨hmounted, hnear⟩, hcovers⟩
    have hset : ({ tank with sensors := tank.sensors.set k { sensor with width, range } } :
        Tank ℝ).sensors[k]? = some { sensor with width, range } := by
      rw [List.getElem?_set_self (List.getElem?_eq_some_iff.mp hk).1]
    have hpos : 0 < range := (lt_of_le_of_ne hrange hmounted.symm).trans_le hfarther
    have hsees : tank.spots { sensor with width, range } radius way = true := by
      refine (hspots hpos.le).mpr ⟨⟨hpos.ne', by dsimp only; linarith⟩, ?_⟩
      exact Sensor.covers_of_wider sensor _ rfl hwidth hwider hless haside hcovers
    exact (triggers_iff hset hblank radius way).mpr ⟨(hreach _ hlimit).mpr hallowed, hsees⟩

-- What the watcher sees to its left, it sees as well with an eye that is wider and sees farther.
theorem sensors_trigger_by_angle_watcher : ∃ (tank : Tank ℝ) (sensor : Sensor ℝ),
    Tank.ofEntry 0 watcher Rules.standard = .ok tank ∧
      (tank.place ⟨100, 100⟩ 0 0).sensors[0]? = some sensor ∧ sensor.width = Real.pi / 2 ∧
      (tank.place ⟨100, 100⟩ 0 0).Triggers Rules.standard 0 7 ⟨10, 5⟩ .tank ∧
      Triggers Rules.standard 0 7 ⟨10, 5⟩ .tank { tank.place ⟨100, 100⟩ 0 0 with
        sensors := (tank.place ⟨100, 100⟩ 0 0).sensors.set 0
          { sensor with width := Real.pi, range := 60 } } := by
  have hpi := Real.pi_pos
  have hvalid : ∀ setting ∈ watcher.sensors, setting.isValid = true := by
    simp [watcher, SensorSetting.isValid]
  obtain ⟨tank, hmade⟩ := Tank.exists_ofEntry Rules.standard 0 (by decide) hvalid
  obtain ⟨sensor, hsensors, hrange, hangle, hwidth, hseen⟩ := sensors_watcher hmade
  have hfirst : (tank.place ⟨100, 100⟩ 0 0).sensors[0]? = some sensor := by
    change tank.sensors[0]? = some sensor
    rw [hsensors]
    rfl
  have hblank : sensor.seen &&& ObjectKind.tank.bit = 0 := by
    rw [hseen]
    decide
  have haxis : sensor.axis (tank.place ⟨100, 100⟩ 0 0).heading
      (tank.place ⟨100, 100⟩ 0 0).turret.angle = 0 := by
    simp [Sensor.axis, Tank.place, hangle]
  have hlimit : (Rules.standard : Rules ℝ).sensorRange = 100 := by norm_num [Rules.standard]
  have hrange' : 0 ≤ sensor.range := by linarith
  have hwidth' : sensor.width ∈ Set.Ioo 0 (2 * Real.pi) := by
    rw [hwidth]
    exact ⟨by linarith, by linarith⟩
  have haside : Point.aside 0 ⟨10, 5⟩ ≠ 0 := by norm_num [Point.aside]
  have hlength : √(Point.lengthSq ⟨10, 5⟩ : ℝ) ≤ 57 := by
    rw [Real.sqrt_le_left (by norm_num), Point.lengthSq]
    norm_num
  have hapart : Point.apart 0 ⟨10, 5⟩ ≤ sensor.width / 2 := by
    rw [← Sensor.inCone_iff hwidth' haside, Sensor.relative_eq]
    have hquarter : Real.pi / 2 / 2 = Real.pi / 4 := by ring
    norm_num [Sensor.inCone, Point.ahead, Point.aside, hwidth, hquarter, Real.tan_pi_div_four]
  obtain ⟨hiff, hwider⟩ := sensors_trigger_by_angle (by rw [hlimit]; norm_num) hfirst hrange'
    hwidth' hblank (by norm_num : (0 : ℝ) < 7) (by rw [haxis]; exact haside)
  have hreach : sensor.InReach (Rules.standard : Rules ℝ).sensorRange 7 ⟨10, 5⟩ :=
    ⟨by rw [hrange]; norm_num, by rw [hrange]; linarith, by rw [hlimit]; linarith⟩
  have htriggers := hiff.mpr ⟨hreach, .inl (by rw [haxis]; exact hapart)⟩
  refine ⟨tank, sensor, hmade, hfirst, hwidth, htriggers, ?_⟩
  exact hwider Real.pi ⟨by rw [hwidth]; linarith, by linarith⟩ 60 (by rw [hrange]; norm_num)
    htriggers

end Tank

end Skirmish
