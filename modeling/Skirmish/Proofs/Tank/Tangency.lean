import Mathlib.Data.Set.Card
import Skirmish.Proofs.Geometry.Bearing
import Skirmish.Proofs.Tank.Pivot

namespace Skirmish.Tank

-- The cosine of half the angle between the points where the turning circle of a tank meets another
-- circle, by the law of cosines.
noncomputable def cosine (tank : Tank ℝ) (center : Point ℝ) (reach : ℝ) : ℝ :=
  (center.distance tank.pivot ^ 2 + tank.turnRadius ^ 2 - reach ^ 2) /
    (((2 : Int) : ℝ) * center.distance tank.pivot * tank.turnRadius)

-- Whether a point on the turning circle of a tank is so far away from a center.
structure Meets (tank : Tank ℝ) (center : Point ℝ) (reach : ℝ) (p : Point ℝ) : Prop where
  turns : p.distance tank.pivot = tank.turnRadius
  touches : p.distance center = reach

-- The bearings of the two points where the circles meet.
noncomputable def firstBearing (tank : Tank ℝ) (center : Point ℝ) (reach : ℝ) : ℝ :=
  Angle.normalize (bearing (center - tank.pivot) - Real.arccos (tank.cosine center reach))

noncomputable def secondBearing (tank : Tank ℝ) (center : Point ℝ) (reach : ℝ) : ℝ :=
  Angle.normalize (bearing (center - tank.pivot) + Real.arccos (tank.cosine center reach))

-- The bearing of where a tank stops: the nearer one to its own of those two, or that of the center
-- if the circles do not meet.
noncomputable def contactBearing (tank : Tank ℝ) (center : Point ℝ) (reach : ℝ) : ℝ :=
  if |tank.cosine center reach| ≤ 1 then
    if Angle.distance (bearing (tank.position - tank.pivot)) (tank.firstBearing center reach) <
        Angle.distance (bearing (tank.position - tank.pivot)) (tank.secondBearing center reach)
      then tank.firstBearing center reach else tank.secondBearing center reach
  else bearing (center - tank.pivot)

section Contact

variable {tank : Tank ℝ} {center : Point ℝ} {reach : ℝ}

theorem arcContact_eq : tank.arcContact center reach =
    tank.pivot.polar tank.turnRadius (tank.contactBearing center reach) := by
  have hcosine : -(reach * reach - Scalar.sqrt (center - tank.pivot).lengthSq *
      Scalar.sqrt (center - tank.pivot).lengthSq - tank.turnRadius * tank.turnRadius) /
      (((2 : Int) : ℝ) * Scalar.sqrt (center - tank.pivot).lengthSq * tank.turnRadius) =
      tank.cosine center reach := by
    unfold cosine
    rw [Int.cast_ofNat]
    congr 1
    change -(reach * reach - center.distance tank.pivot * center.distance tank.pivot - _) = _
    ring
  have hacos : ∀ x : ℝ, Scalar.acos? x = if |x| ≤ 1 then some (Real.arccos x) else none :=
    fun x => if_congr abs_le.symm rfl rfl
  unfold arcContact contactBearing
  dsimp only
  rw [hcosine, hacos]
  by_cases hmeets : |tank.cosine center reach| ≤ 1
  · rw [if_pos hmeets, if_pos hmeets]
    rfl
  · rw [if_neg hmeets, if_neg hmeets]
    rfl

theorem coe_firstBearing : (tank.firstBearing center reach : Real.Angle) =
    (center - tank.pivot).toComplex.arg - Real.arccos (tank.cosine center reach) := by
  rw [firstBearing, Angle.coe_normalize, Real.Angle.coe_sub, Point.coe_bearing]

theorem coe_secondBearing : (tank.secondBearing center reach : Real.Angle) =
    (center - tank.pivot).toComplex.arg + Real.arccos (tank.cosine center reach) := by
  rw [secondBearing, Angle.coe_normalize, Real.Angle.coe_add, Point.coe_bearing]

theorem cos_firstBearing (hmeets : |tank.cosine center reach| ≤ 1) :
    Real.cos (tank.firstBearing center reach - (center - tank.pivot).toComplex.arg) =
      tank.cosine center reach := by
  rw [← Real.Angle.cos_coe, Real.Angle.coe_sub, coe_firstBearing, sub_sub_cancel_left,
    Real.Angle.cos_neg, Real.Angle.cos_coe, Real.cos_arccos (abs_le.mp hmeets).1 (abs_le.mp hmeets).2]

theorem cos_secondBearing (hmeets : |tank.cosine center reach| ≤ 1) :
    Real.cos (tank.secondBearing center reach - (center - tank.pivot).toComplex.arg) =
      tank.cosine center reach := by
  rw [← Real.Angle.cos_coe, Real.Angle.coe_sub, coe_secondBearing, add_sub_cancel_left,
    Real.Angle.cos_coe, Real.cos_arccos (abs_le.mp hmeets).1 (abs_le.mp hmeets).2]

theorem cos_contactBearing :
    |tank.cosine center reach| ≤ 1 ∧
        Real.cos (tank.contactBearing center reach - (center - tank.pivot).toComplex.arg) =
          tank.cosine center reach ∨
      1 < |tank.cosine center reach| ∧
        Real.cos (tank.contactBearing center reach - (center - tank.pivot).toComplex.arg) = 1 := by
  unfold contactBearing
  by_cases hmeets : |tank.cosine center reach| ≤ 1
  · refine .inl ⟨hmeets, ?_⟩
    rw [if_pos hmeets]
    split_ifs
    · exact cos_firstBearing hmeets
    · exact cos_secondBearing hmeets
  · refine .inr ⟨not_le.mp hmeets, ?_⟩
    rw [if_neg hmeets, ← Real.Angle.cos_coe, Real.Angle.coe_sub, Point.coe_bearing, sub_self,
      Real.Angle.cos_zero]

section Circles

variable (hradius : 0 < tank.turnRadius) (hcenter : center ≠ tank.pivot)

include hradius hcenter

-- A center seen from the turning circle, by the law of cosines.
theorem distanceSq_center (reach a : ℝ) :
    (tank.pivot.polar tank.turnRadius a).distanceSq center = reach ^ 2 +
      2 * tank.turnRadius * center.distance tank.pivot *
        (tank.cosine center reach - Real.cos (a - (center - tank.pivot).toComplex.arg)) := by
  have hfar := Point.distance_pos_iff.mpr hcenter
  rw [Point.distanceSq_polar_of_arg, cosine]
  field_simp
  ring

theorem meets_polar_iff (hreach : 0 < reach) (a : ℝ) :
    tank.Meets center reach (tank.pivot.polar tank.turnRadius a) ↔
      Real.cos (a - (center - tank.pivot).toComplex.arg) = tank.cosine center reach := by
  have hway : 0 < 2 * tank.turnRadius * center.distance tank.pivot := by
    have hfar := Point.distance_pos_iff.mpr hcenter
    positivity
  have htouch : (tank.pivot.polar tank.turnRadius a).distance center = reach ↔
      Real.cos (a - (center - tank.pivot).toComplex.arg) = tank.cosine center reach := by
    rw [Point.distance, Real.sqrt_eq_iff_mul_self_eq_of_pos hreach,
      distanceSq_center hradius hcenter reach, ← pow_two, left_eq_add,
      mul_eq_zero_iff_left hway.ne', sub_eq_zero, eq_comm]
  exact ⟨fun h => htouch.mp h.touches,
    fun h => ⟨Point.distance_polar _ hradius.le _, htouch.mpr h⟩⟩

-- The circles meet at two points at most, which are found.
theorem meets_iff (hreach : 0 < reach) (hmeets : |tank.cosine center reach| ≤ 1) (p : Point ℝ) :
    tank.Meets center reach p ↔
      p = tank.pivot.polar tank.turnRadius (tank.firstBearing center reach) ∨
      p = tank.pivot.polar tank.turnRadius (tank.secondBearing center reach) := by
  obtain ⟨hlow, hhigh⟩ := abs_le.mp hmeets
  constructor
  · intro h
    have hpolar : tank.pivot.polar tank.turnRadius (p - tank.pivot).toComplex.arg = p := by
      rw [← h.turns, Point.polar_arg]
    rw [← hpolar, meets_polar_iff hradius hcenter hreach, ← Real.cos_arccos hlow hhigh,
      Real.Angle.cos_eq_iff_coe_eq_or_eq_neg, Real.Angle.coe_sub] at h
    rw [← hpolar]
    rcases h with hsecond | hfirst
    · right
      apply Point.polar_congr
      rw [coe_secondBearing, ← hsecond, add_sub_cancel]
    · left
      apply Point.polar_congr
      rw [coe_firstBearing, sub_eq_add_neg, ← hfirst, add_sub_cancel]
  · rintro (rfl | rfl)
    · exact (meets_polar_iff hradius hcenter hreach _).mpr (cos_firstBearing hmeets)
    · exact (meets_polar_iff hradius hcenter hreach _).mpr (cos_secondBearing hmeets)

theorem encard_meets_le (hreach : 0 < reach) (hmeets : |tank.cosine center reach| ≤ 1) :
    {p | tank.Meets center reach p}.encard ≤ 2 := by
  have hpair : {p | tank.Meets center reach p} =
      {tank.pivot.polar tank.turnRadius (tank.firstBearing center reach),
        tank.pivot.polar tank.turnRadius (tank.secondBearing center reach)} :=
    Set.ext (meets_iff hradius hcenter hreach hmeets)
  rw [hpair]
  refine (Set.encard_insert_le _ _).trans ?_
  rw [Set.encard_singleton, one_add_one_eq_two]

theorem not_meets (hreach : 0 < reach) (hmisses : 1 < |tank.cosine center reach|) (p : Point ℝ) :
    ¬ tank.Meets center reach p := by
  intro h
  have hpolar : tank.pivot.polar tank.turnRadius (p - tank.pivot).toComplex.arg = p := by
    rw [← h.turns, Point.polar_arg]
  rw [← hpolar, meets_polar_iff hradius hcenter hreach] at h
  rw [← h] at hmisses
  exact hmisses.not_ge (Real.abs_cos_le_one _)

end Circles

-- A tank on its turning circle sees bearings apart as angles at the pivot.
theorem angle_polar (hradius : 0 < tank.turnRadius) (hplace : tank.position ≠ tank.pivot) (a : ℝ) :
    EuclideanGeometry.angle (tank.pivot.polar tank.turnRadius a).toComplex tank.pivot.toComplex
      tank.position.toComplex = Angle.distance (bearing (tank.position - tank.pivot)) a := by
  have hturns : tank.pivot.polar tank.turnRadius a ≠ tank.pivot :=
    Point.distance_pos_iff.mp (by rwa [Point.distance_polar _ hradius.le])
  rw [Point.angle_eq hturns hplace, Point.coe_arg_polar _ hradius, Angle.distance_eq,
    Point.coe_bearing, ← Real.Angle.abs_toReal_neg, neg_sub]

-- A tank stands on the circle it turns on.
theorem distance_position_pivot (tank : Tank ℝ) :
    tank.position.distance tank.pivot = |tank.turnRadius| := by
  have hunit : (leftward tank.heading).lengthSq = 1 := by
    rw [leftward_eq, Point.lengthSq]
    linear_combination Real.sin_sq_add_cos_sq tank.heading
  rw [pivot_eq, Point.distance_along, hunit, Real.sqrt_one, mul_one]
  split_ifs
  · rw [abs_neg]
  · rfl

-- Between two circles that meet a tank stops at the point nearer to it along its own.
theorem arcContact_is_tangent (hradius : 0 < tank.turnRadius) (hreach : 0 < reach)
    (hcenter : center ≠ tank.pivot) :
    (|tank.cosine center reach| ≤ 1 →
      tank.Meets center reach (tank.arcContact center reach) ∧
      {p | tank.Meets center reach p}.encard ≤ 2 ∧
      ∀ p, tank.Meets center reach p →
        EuclideanGeometry.angle (tank.arcContact center reach).toComplex tank.pivot.toComplex
            tank.position.toComplex ≤
          EuclideanGeometry.angle p.toComplex tank.pivot.toComplex tank.position.toComplex) ∧
    (1 < |tank.cosine center reach| →
      (∀ p, ¬ tank.Meets center reach p) ∧
      tank.arcContact center reach =
        tank.pivot.along (center - tank.pivot) (tank.turnRadius / center.distance tank.pivot)) := by
  refine ⟨fun hmeets => ?_, fun hmisses => ⟨not_meets hradius hcenter hreach hmisses, ?_⟩⟩
  · have hplace : tank.position ≠ tank.pivot :=
      Point.distance_pos_iff.mp (by rwa [distance_position_pivot, abs_of_pos hradius])
    have hpair := encard_meets_le hradius hcenter hreach hmeets
    simp only [meets_iff hradius hcenter hreach hmeets, arcContact_eq, contactBearing,
      if_pos hmeets] at hpair ⊢
    refine ⟨?_, hpair, ?_⟩
    · split_ifs
      · exact .inl rfl
      · exact .inr rfl
    · rintro p (rfl | rfl)
      all_goals
        rw [angle_polar hradius hplace, angle_polar hradius hplace]
        split_ifs <;> linarith
  · rw [arcContact_eq, contactBearing, if_neg hmisses.not_ge, Point.polar_congr _ _ (Point.coe_bearing _),
      Point.polar_arg_eq_along hcenter]

end Contact

-- Turns left on a circle around (100, 120).
noncomputable def circler : Tank ℝ :=
  { cruiser 60 50 with position := ⟨(100 : Int), (100 : Int)⟩, heading := 0, turnRadius := (20 : Int) }

theorem pivot_circler : circler.pivot = ⟨100, 120⟩ := by
  have hslower : ¬ circler.speed.left < circler.speed.right := by
    change ¬ ((60 : Int) : ℝ) < ((50 : Int) : ℝ)
    norm_num
  rw [pivot_eq, if_neg hslower, leftward_eq, Point.along]
  norm_num [circler]

theorem distance_pivot_circler {x : ℝ} (hx : 100 ≤ x) :
    (⟨x, 120⟩ : Point ℝ).distance circler.pivot = x - 100 := by
  rw [pivot_circler, Point.distance, Point.distanceSq_eq, sub_self, zero_pow two_ne_zero, add_zero,
    Real.sqrt_sq (sub_nonneg.mpr hx)]

-- One circle meets the turning circle, the other is too far away.
theorem arcContact_is_tangent_circler :
    (0 < circler.turnRadius ∧ (⟨130, 120⟩ : Point ℝ) ≠ circler.pivot ∧
      |circler.cosine ⟨130, 120⟩ 40| ≤ 1 ∧
      circler.Meets ⟨130, 120⟩ 40 (circler.arcContact ⟨130, 120⟩ 40)) ∧
    ((⟨200, 120⟩ : Point ℝ) ≠ circler.pivot ∧ 1 < |circler.cosine ⟨200, 120⟩ 40| ∧
      circler.arcContact ⟨200, 120⟩ 40 = circler.pivot.along (⟨200, 120⟩ - circler.pivot)
        (circler.turnRadius / (⟨200, 120⟩ : Point ℝ).distance circler.pivot)) := by
  have hradius : circler.turnRadius = 20 := rfl
  have hpos : 0 < circler.turnRadius := by norm_num [hradius]
  have hnear : (⟨130, 120⟩ : Point ℝ) ≠ circler.pivot := by norm_num [pivot_circler]
  have hfar : (⟨200, 120⟩ : Point ℝ) ≠ circler.pivot := by norm_num [pivot_circler]
  have hmeets : |circler.cosine ⟨130, 120⟩ 40| ≤ 1 := by
    rw [cosine, distance_pivot_circler (by norm_num), hradius, abs_le]
    norm_num
  have hmisses : 1 < |circler.cosine ⟨200, 120⟩ 40| := by
    rw [cosine, distance_pivot_circler (by norm_num), hradius, lt_abs]
    norm_num
  exact ⟨⟨hpos, hnear, hmeets, ((arcContact_is_tangent hpos (by norm_num) hnear).1 hmeets).1⟩,
    hfar, hmisses, ((arcContact_is_tangent hpos (by norm_num) hfar).2 hmisses).2⟩

end Skirmish.Tank
