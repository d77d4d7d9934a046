import Skirmish.Proofs.Geometry.Bearing

namespace Skirmish.Angle

variable {a b : ℝ}

-- Directions are the same if they differ by full turns.
theorem wrap_congr (h : (a : Real.Angle) = b) : wrap a = wrap b := by
  rw [wrap_eq, wrap_eq, h]

theorem wrap_of_mem (h : a ∈ Set.Ioc (-Real.pi) Real.pi) : wrap a = a := by
  rw [wrap_eq, Real.Angle.toReal_coe_eq_self_iff.mpr h]

theorem distance_eq_abs_wrap (a b : ℝ) : distance a b = |wrap (a - b)| := rfl

theorem distance_comm (a b : ℝ) : distance a b = distance b a := by
  rw [distance_eq, distance_eq, ← Real.Angle.abs_toReal_neg, neg_sub]

theorem distance_le_pi (a b : ℝ) : distance a b ≤ Real.pi := by
  rw [distance_eq]
  exact Real.Angle.abs_toReal_le_pi _

theorem distance_eq_zero_iff : distance a b = 0 ↔ (a : Real.Angle) = b := by
  rw [distance_eq, abs_eq_zero, Real.Angle.toReal_eq_zero_iff, sub_eq_zero]

theorem distance_congr {a' b' : ℝ} (ha : (a : Real.Angle) = a') (hb : (b : Real.Angle) = b') :
    distance a b = distance a' b' := by
  rw [distance_eq, distance_eq, ha, hb]

theorem modEq_iff : a ≡ b [PMOD 2 * Real.pi] ↔ (a : Real.Angle) = b :=
  AddCommGroup.modEq_iff_eq_mod_zmultiples

theorem normalize_mem (a : ℝ) : normalize a ∈ Set.Ioc 0 (2 * Real.pi) := by
  obtain ⟨-, hhigh⟩ := Reals.modulo_mem a tau_pos
  rw [← tau_eq]
  unfold normalize
  dsimp only
  split_ifs with hpos
  · exact ⟨by simpa using hpos, hhigh.le⟩
  · exact ⟨tau_pos, le_rfl⟩

theorem abs_wrap_le (a : ℝ) : |wrap a| ≤ |a| := by
  by_cases hmem : a ∈ Set.Ioc (-Real.pi) Real.pi
  · rw [wrap_of_mem hmem]
  · obtain ⟨hlow, hhigh⟩ := wrap_mem a
    have hfar : Real.pi ≤ |a| := by
      rw [le_abs]
      by_contra hnear
      obtain ⟨habove, hbelow⟩ := not_or.mp hnear
      exact hmem ⟨by linarith, by linarith⟩
    exact (abs_le.mpr ⟨hlow.le, hhigh⟩).trans hfar

-- Of all the ways from one direction to another, once round the circle or more often, the distance
-- is the length of the shortest.
theorem isLeast_distance (a b : ℝ) :
    IsLeast (Set.range fun turns : ℤ => |a - b + turns * (2 * Real.pi)|) (distance a b) := by
  constructor
  · obtain ⟨turns, hturns⟩ := Real.Angle.angle_eq_iff_two_pi_dvd_sub.mp (coe_wrap (a - b))
    refine ⟨turns, ?_⟩
    change |a - b + turns * (2 * Real.pi)| = |wrap (a - b)|
    congr 1
    linarith
  · rintro _ ⟨turns, rfl⟩
    have hsame : ((a - b : ℝ) : Real.Angle) = (a - b + turns * (2 * Real.pi) : ℝ) :=
      Real.Angle.angle_eq_iff_two_pi_dvd_sub.mpr ⟨-turns, by push_cast; ring⟩
    rw [distance_eq_abs_wrap, wrap_congr hsame]
    exact abs_wrap_le _

-- One way after another is a way as well.
theorem distance_triangle (a b c : ℝ) : distance a c ≤ distance a b + distance b c := by
  obtain ⟨turns, hturns⟩ := (isLeast_distance a b).1
  obtain ⟨turns', hturns'⟩ := (isLeast_distance b c).1
  rw [← hturns, ← hturns']
  calc distance a c ≤ |a - c + ((turns + turns' : ℤ) : ℝ) * (2 * Real.pi)| :=
        (isLeast_distance a c).2 ⟨turns + turns', rfl⟩
    _ = |(a - b + turns * (2 * Real.pi)) + (b - c + turns' * (2 * Real.pi))| := by
        congr 1
        push_cast
        ring
    _ ≤ |a - b + turns * (2 * Real.pi)| + |b - c + turns' * (2 * Real.pi)| := abs_add_le _ _

-- Angular distance is the metric of the circle: the length of the shortest way round, whichever
-- angles stand for the two directions.
theorem distance_is_metric (a b c : ℝ) :
    (wrap a ∈ Set.Ioc (-Real.pi) Real.pi ∧ wrap a ≡ a [PMOD 2 * Real.pi]) ∧
    (normalize a ∈ Set.Ioc 0 (2 * Real.pi) ∧ normalize a ≡ a [PMOD 2 * Real.pi]) ∧
    IsLeast (Set.range fun turns : ℤ => |a - b + turns * (2 * Real.pi)|) (distance a b) ∧
    distance a b ∈ Set.Icc 0 Real.pi ∧
    (distance a b = 0 ↔ a ≡ b [PMOD 2 * Real.pi]) ∧
    distance a b = distance b a ∧
    distance a c ≤ distance a b + distance b c ∧
    (distance (wrap a) b = distance a b ∧ distance a (wrap b) = distance a b) ∧
    (distance (normalize a) b = distance a b ∧ distance a (normalize b) = distance a b) := by
  refine ⟨⟨wrap_mem a, modEq_iff.mpr (coe_wrap a)⟩,
    ⟨normalize_mem a, modEq_iff.mpr (coe_normalize a)⟩, isLeast_distance a b,
    ⟨abs_nonneg _, distance_le_pi a b⟩, ?_, distance_comm a b, distance_triangle a b c,
    ⟨distance_congr (coe_wrap a) rfl, distance_congr rfl (coe_wrap b)⟩,
    ⟨distance_congr (coe_normalize a) rfl, distance_congr rfl (coe_normalize b)⟩⟩
  rw [distance_eq_zero_iff, modEq_iff]

end Skirmish.Angle
