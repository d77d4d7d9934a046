import Mathlib.Analysis.Complex.Angle
import Mathlib.Geometry.Euclidean.Angle.Unoriented.Affine
import Skirmish.Proofs.Arena.Field
import Skirmish.Proofs.Geometry.Plane
import Skirmish.Tank.Contact

namespace Skirmish

namespace Angle

theorem tau_eq : (Scalar.tau : ℝ) = 2 * Real.pi := by
  simp [Scalar.tau]

theorem tau_pos : (0 : ℝ) < Scalar.tau := by
  rw [tau_eq]
  exact Real.two_pi_pos

-- A full turn more or less leaves a direction as it is.
theorem coe_modulo (a : ℝ) : ((Scalar.modulo a Scalar.tau : ℝ) : Real.Angle) = a := by
  obtain ⟨k, hk⟩ := Reals.exists_modulo a tau_pos
  rw [Real.Angle.angle_eq_iff_two_pi_dvd_sub, hk, tau_eq]
  exact ⟨k, by ring⟩

theorem coe_wrap (a : ℝ) : ((wrap a : ℝ) : Real.Angle) = a := by
  unfold wrap
  dsimp only
  split_ifs
  · rw [tau_eq, Real.Angle.coe_sub, Real.Angle.coe_two_pi, sub_zero, ← tau_eq, coe_modulo]
  · exact coe_modulo a

theorem wrap_mem (a : ℝ) : wrap a ∈ Set.Ioc (-Real.pi) Real.pi := by
  obtain ⟨hlow, hhigh⟩ := Reals.modulo_mem a tau_pos
  unfold wrap
  dsimp only
  rw [tau_eq] at *
  split_ifs with hbeyond
  · exact ⟨by simp at hbeyond; linarith, by linarith⟩
  · exact ⟨by linarith [Real.pi_pos], not_lt.mp hbeyond⟩

-- The short way round is the representative of a direction that is nearest to zero.
theorem wrap_eq (a : ℝ) : wrap a = (a : Real.Angle).toReal := by
  rw [← coe_wrap a]
  exact (Real.Angle.toReal_coe_eq_self_iff.mpr (wrap_mem a)).symm

theorem coe_normalize (a : ℝ) : ((normalize a : ℝ) : Real.Angle) = a := by
  unfold normalize
  dsimp only
  split_ifs with hpos
  · exact coe_modulo a
  · have hzero : Scalar.modulo a Scalar.tau = 0 :=
      le_antisymm (by simpa using hpos) (Reals.modulo_mem a tau_pos).1
    rw [← coe_modulo a, hzero, tau_eq, Real.Angle.coe_two_pi, Real.Angle.coe_zero]

theorem distance_eq (a b : ℝ) : distance a b = |(a - b : Real.Angle).toReal| := by
  rw [← Real.Angle.coe_sub, ← wrap_eq]
  rfl

end Angle

namespace Point

-- The point so far away from another at a bearing.
noncomputable def polar (p : Point ℝ) (length bearing : ℝ) : Point ℝ :=
  ⟨p.x + Real.cos bearing * length, p.y + Real.sin bearing * length⟩

theorem toComplex_sub (p q : Point ℝ) : (p - q).toComplex = p.toComplex - q.toComplex := rfl

theorem norm_toComplex_sub (p q : Point ℝ) : ‖(p - q).toComplex‖ = p.distance q := by
  rw [toComplex_sub, distance_eq_dist, dist_eq_norm]

theorem toComplex_sub_ne_zero {p q : Point ℝ} (hne : p ≠ q) : (p - q).toComplex ≠ 0 := by
  rw [toComplex_sub, sub_ne_zero]
  intro hsame
  cases p
  cases q
  exact hne (congrArg₂ Point.mk (congrArg Complex.re hsame) (congrArg Complex.im hsame))

theorem distance_pos_iff {p q : Point ℝ} : 0 < p.distance q ↔ p ≠ q := by
  rw [← norm_toComplex_sub, norm_pos_iff]
  refine ⟨fun hpos hsame => hpos ?_, toComplex_sub_ne_zero⟩
  rw [hsame, toComplex_sub, sub_self]

-- The ways from a point to another, in its distance and bearing.
theorem distance_mul_cos_arg (p q : Point ℝ) :
    q.distance p * Real.cos (q - p).toComplex.arg = (q - p).x := by
  rw [← norm_toComplex_sub]
  exact Complex.norm_mul_cos_arg _

theorem distance_mul_sin_arg (p q : Point ℝ) :
    q.distance p * Real.sin (q - p).toComplex.arg = (q - p).y := by
  rw [← norm_toComplex_sub]
  exact Complex.norm_mul_sin_arg _

-- Every point is seen from another at a distance and at a bearing.
theorem polar_arg (p q : Point ℝ) : p.polar (q.distance p) (q - p).toComplex.arg = q := by
  rw [polar, mul_comm, distance_mul_cos_arg, mul_comm, distance_mul_sin_arg]
  exact congrArg₂ mk (add_sub_cancel _ _) (add_sub_cancel _ _)

-- The bearing of a point alone says on which ray it lies.
theorem polar_arg_eq_along {p q : Point ℝ} (hne : q ≠ p) (length : ℝ) :
    p.polar length (q - p).toComplex.arg = p.along (q - p) (length / q.distance p) := by
  have hpos := distance_pos_iff.mpr hne
  rw [polar, along, ← distance_mul_cos_arg, ← distance_mul_sin_arg]
  congr 1 <;> field_simp

-- A bearing is known up to full turns.
theorem polar_congr (p : Point ℝ) (length : ℝ) {a b : ℝ} (h : (a : Real.Angle) = b) :
    p.polar length a = p.polar length b := by
  unfold polar
  rw [← Real.Angle.cos_coe, ← Real.Angle.sin_coe, h, Real.Angle.cos_coe, Real.Angle.sin_coe]

-- The law of cosines.
theorem distanceSq_polar (p : Point ℝ) (r s a b : ℝ) :
    (p.polar r a).distanceSq (p.polar s b) = r ^ 2 + s ^ 2 - 2 * r * s * Real.cos (a - b) := by
  rw [distanceSq_eq, polar, polar, Real.cos_sub]
  linear_combination r ^ 2 * Real.cos_sq_add_sin_sq a + s ^ 2 * Real.cos_sq_add_sin_sq b

theorem distanceSq_polar_of_arg (p q : Point ℝ) (r a : ℝ) :
    (p.polar r a).distanceSq q = r ^ 2 + q.distance p ^ 2 -
      2 * r * q.distance p * Real.cos (a - (q - p).toComplex.arg) := by
  rw [← distanceSq_polar, polar_arg]

theorem distance_polar (p : Point ℝ) {length : ℝ} (hlength : 0 ≤ length) (bearing : ℝ) :
    (p.polar length bearing).distance p = length := by
  have hsq : (p.polar length bearing).distanceSq p = length ^ 2 := by
    rw [distanceSq_eq, polar]
    linear_combination length ^ 2 * Real.cos_sq_add_sin_sq bearing
  rw [distance, hsq, Real.sqrt_sq hlength]

theorem coe_arg_polar (p : Point ℝ) {length : ℝ} (hlength : 0 < length) (bearing : ℝ) :
    ((p.polar length bearing - p).toComplex.arg : Real.Angle) = bearing := by
  have hpolar : (p.polar length bearing - p).toComplex =
      length * (Real.Angle.cos bearing + Real.Angle.sin bearing * Complex.I) := by
    have hway : p.polar length bearing - p = ⟨Real.cos bearing * length, Real.sin bearing * length⟩ :=
      congrArg₂ Point.mk (add_sub_cancel_left _ _) (add_sub_cancel_left _ _)
    rw [hway, Real.Angle.cos_coe, Real.Angle.sin_coe]
    apply Complex.ext <;>
      simp [toComplex, -Complex.ofReal_cos, -Complex.ofReal_sin, mul_comm]
  rw [hpolar, Complex.arg_mul_cos_add_sin_mul_I_coe_angle hlength]

theorem coe_bearing (v : Point ℝ) : ((Tank.bearing v : ℝ) : Real.Angle) = v.toComplex.arg :=
  Angle.coe_normalize _

-- How far apart the bearings of two points are is the angle between the ways to them.
theorem angle_eq {p q r : Point ℝ} (hp : p ≠ q) (hr : r ≠ q) :
    EuclideanGeometry.angle p.toComplex q.toComplex r.toComplex =
      |((p - q).toComplex.arg - (r - q).toComplex.arg : Real.Angle).toReal| := by
  have hp' := toComplex_sub_ne_zero hp
  have hr' := toComplex_sub_ne_zero hr
  rw [EuclideanGeometry.angle, vsub_eq_sub, vsub_eq_sub, ← toComplex_sub, ← toComplex_sub,
    Complex.angle_eq_abs_arg hp' hr', ← Complex.arg_div_coe_angle hp' hr',
    Complex.arg_coe_angle_toReal_eq_arg]

end Point

end Skirmish
