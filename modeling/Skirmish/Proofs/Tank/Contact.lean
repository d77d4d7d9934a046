import Skirmish.Proofs.Geometry.Plane
import Skirmish.Tank.Contact

namespace Skirmish

-- Of two roots on one side of zero, the nearer one lies on the way to any point between them.
theorem exists_nearer_root {root other way : ℝ} (hside : 0 ≤ root * other)
    (hnear : |root| ≤ |other|) (hend : (way - root) * (way - other) ≤ 0) :
    ∃ part ∈ Set.Icc (0 : ℝ) 1, root = part * way ∧
      ∀ t ∈ Set.Ico 0 part, 0 < (t * way - root) * (t * way - other) := by
  rcases eq_or_ne root 0 with rfl | hne
  · exact ⟨0, by simp, by simp, fun t ht => absurd ht.1 (not_le.mpr ht.2)⟩
  · wlog hpos : 0 < root generalizing root other way
    · have hneg : 0 < -root := neg_pos.mpr (lt_of_le_of_ne (not_lt.mp hpos) hne)
      have hside' : 0 ≤ -root * -other := by rwa [neg_mul_neg]
      have hnear' : |(-root)| ≤ |(-other)| := by rwa [abs_neg, abs_neg]
      have hend' : (-way - -root) * (-way - -other) ≤ 0 := by linarith
      obtain ⟨part, hpart, hroot, hbefore⟩ := this hside' hnear' hend' hneg.ne' hneg
      refine ⟨part, hpart, by linarith, fun t ht => ?_⟩
      have hfar := hbefore t ht
      have hsame : (t * -way - -root) * (t * -way - -other) =
          (t * way - root) * (t * way - other) := by ring
      rwa [hsame] at hfar
    · have hother : root ≤ other := by
        rwa [abs_of_pos hpos, abs_of_nonneg (nonneg_of_mul_nonneg_right hside hpos)] at hnear
      have hreached : root ≤ way := by
        by_contra hshort
        have hpassed := mul_pos_of_neg_of_neg (sub_neg.mpr (not_le.mp hshort))
          (sub_neg.mpr (lt_of_lt_of_le (not_le.mp hshort) hother))
        exact absurd hend (not_le.mpr hpassed)
      have hway : 0 < way := lt_of_lt_of_le hpos hreached
      refine ⟨root / way, ⟨by positivity, (div_le_one hway).mpr hreached⟩, by field_simp,
        fun t ht => ?_⟩
      have hbefore : t * way < root := (lt_div_iff₀ hway).mp ht.2
      exact mul_pos_of_neg_of_neg (by linarith) (by linarith)

-- The part of a move after which it first comes within `reach` of a center.
structure FirstTouch (start step center : Point ℝ) (reach part : ℝ) : Prop where
  mem : part ∈ Set.Icc (0 : ℝ) 1
  touches : (start.along step part).distanceSq center = reach * reach
  before : ∀ t ∈ Set.Ico 0 part, reach * reach < (start.along step t).distanceSq center

section Contact

variable {start step center : Point ℝ} {reach : ℝ}

-- The roots of the squared distance along a move, of which the nearer one is taken.
theorem exists_firstTouch {root other way scale : ℝ} (hscale : 0 < scale)
    (hroots : ∀ t, (start.along step t).distanceSq center - reach * reach =
      scale * ((t * way - root) * (t * way - other)))
    (hnear : |root| ≤ |other|) (hstart : reach * reach ≤ start.distanceSq center)
    (hend : (start.along step 1).distanceSq center ≤ reach * reach) :
    ∃ part, root = part * way ∧ FirstTouch start step center reach part := by
  have hside : 0 ≤ root * other := by
    have hzero := hroots 0
    rw [Point.along_zero, zero_mul, zero_sub, zero_sub, neg_mul_neg] at hzero
    exact nonneg_of_mul_nonneg_right (hzero ▸ sub_nonneg.mpr hstart) hscale
  have hmet : (way - root) * (way - other) ≤ 0 := by
    have hone := hroots 1
    rw [one_mul] at hone
    exact nonpos_of_mul_nonpos_right (hone ▸ sub_nonpos.mpr hend) hscale
  obtain ⟨part, hpart, hroot, hbefore⟩ := exists_nearer_root hside hnear hmet
  refine ⟨part, hroot, hpart, ?_, fun t ht => ?_⟩
  · rw [← sub_eq_zero, hroots, ← hroot, sub_self, zero_mul, mul_zero]
  · rw [← sub_pos, hroots]
    exact mul_pos hscale (hbefore t ht)

theorem exists_verticalContact (hvertical : step.x = 0)
    (hstart : reach * reach ≤ start.distanceSq center)
    (hend : (start.along step 1).distanceSq center ≤ reach * reach) :
    ∃ part, Tank.verticalContact start center reach = start.along step part ∧
      FirstTouch start step center reach part := by
  have hspace : 0 ≤ reach * reach - (start.x - center.x) * (start.x - center.x) := by
    rw [Point.distanceSq_eq, Point.along, hvertical] at hend
    nlinarith [sq_nonneg (start.y + 1 * step.y - center.y)]
  obtain ⟨half, hhalf, hsq, hcontact⟩ : ∃ half, 0 ≤ half ∧
      half * half = reach * reach - (start.x - center.x) * (start.x - center.x) ∧
      Tank.verticalContact start center reach =
        ⟨start.x, if center.y < start.y then center.y + half else center.y - half⟩ := by
    refine ⟨_, Real.sqrt_nonneg _, Real.mul_self_sqrt hspace, ?_⟩
    unfold Tank.verticalContact
    simp only [Reals.greatest_eq, Int.cast_zero, max_eq_left hspace]
    rfl
  have hroots : ∀ t, (start.along step t).distanceSq center - reach * reach =
      1 * ((t * step.y - (center.y + half - start.y)) *
        (t * step.y - (center.y - half - start.y))) := by
    intro t
    rw [Point.distanceSq_eq, Point.along, hvertical]
    linear_combination hsq
  rw [hcontact]
  split_ifs with habove
  · have hnear : |center.y + half - start.y| ≤ |center.y - half - start.y| := by
      rw [abs_of_nonpos (a := center.y - half - start.y) (by linarith), abs_le]
      constructor <;> linarith
    obtain ⟨part, hroot, htouch⟩ := exists_firstTouch one_pos hroots hnear hstart hend
    refine ⟨part, ?_, htouch⟩
    rw [Point.along, hvertical, mul_zero, add_zero, ← hroot, add_sub_cancel]
  · have hnear : |center.y - half - start.y| ≤ |center.y + half - start.y| := by
      rw [abs_of_nonneg (a := center.y + half - start.y) (by linarith), abs_le]
      constructor <;> linarith
    have hswapped := fun t => (hroots t).trans (congrArg (1 * ·) (mul_comm _ _))
    obtain ⟨part, hroot, htouch⟩ := exists_firstTouch one_pos hswapped hnear hstart hend
    refine ⟨part, ?_, htouch⟩
    rw [Point.along, hvertical, mul_zero, add_zero, ← hroot, add_sub_cancel]

-- A quadratic polynomial with a value that is not positive has two roots.
theorem quadratic_eq_mul_roots {a b d t : ℝ} (ha : 0 < a) (ht : a * t ^ 2 + b * t + d ≤ 0)
    (z : ℝ) :
    a * z ^ 2 + b * z + d =
      a * ((z - (-b + √(max (b * b - 4 * a * d) 0)) / (2 * a)) *
        (z - (-b - √(max (b * b - 4 * a * d) 0)) / (2 * a))) := by
  have hreal : 0 ≤ b * b - 4 * a * d := by nlinarith [sq_nonneg (2 * a * t + b)]
  have hsq := Real.mul_self_sqrt hreal
  rw [max_eq_left hreal]
  generalize √(b * b - 4 * a * d) = root at hsq ⊢
  field_simp
  linear_combination hsq

-- Along a line, the squared distance is a quadratic polynomial in x. A contact is at a root of it,
-- or where it is least.
theorem exists_quadratic (m : ℝ) (start center : Point ℝ) (reach : ℝ) : ∃ a b d : ℝ, 0 < a ∧
    (∀ x, (⟨x, m * x + (start.y - m * start.x)⟩ : Point ℝ).distanceSq center - reach * reach =
      a * x ^ 2 + b * x + d) ∧
    let root := √(max (b * b - 4 * a * d) 0)
    let x := if |(-b + root) / (2 * a) - start.x| < |(-b - root) / (2 * a) - start.x|
      then (-b + root) / (2 * a) else (-b - root) / (2 * a)
    Tank.slopedContact m start center reach = ⟨x, m * x + (start.y - m * start.x)⟩ := by
  refine ⟨m * m + 1, 2 * (m * (start.y - m * start.x) - m * center.y - center.x),
    center.y * center.y - reach * reach + center.x * center.x -
      2 * (start.y - m * start.x) * center.y + (start.y - m * start.x) * (start.y - m * start.x),
    add_pos_of_nonneg_of_pos (mul_self_nonneg m) one_pos, fun x => ?_, ?_⟩
  · rw [Point.distanceSq_eq]
    ring
  · unfold Tank.slopedContact
    simp only [Reals.greatest_eq, Reals.abs_eq, Int.cast_zero, Int.cast_one, Int.cast_ofNat]
    rfl

-- Where the line meets the circle the tank comes first is a matter of the x-coordinates alone.
theorem exists_slopedContact {m : ℝ} (hslope : step.y = m * step.x)
    (hstart : reach * reach ≤ start.distanceSq center)
    (hend : (start.along step 1).distanceSq center ≤ reach * reach) :
    ∃ part, Tank.slopedContact m start center reach = start.along step part ∧
      FirstTouch start step center reach part := by
  obtain ⟨a, b, d, ha, hline, hcontact⟩ := exists_quadratic m start center reach
  have hon : ∀ t, start.along step t =
      ⟨start.x + t * step.x, m * (start.x + t * step.x) + (start.y - m * start.x)⟩ := by
    intro t
    rw [Point.along, hslope]
    congr 1
    ring
  have hquadratic : ∀ t, (start.along step t).distanceSq center - reach * reach =
      a * (start.x + t * step.x) ^ 2 + b * (start.x + t * step.x) + d := by
    intro t
    rw [hon, hline]
  have hmet := sub_nonpos.mpr hend
  rw [hquadratic] at hmet
  have hfactored := quadratic_eq_mul_roots ha hmet
  dsimp only at hcontact
  generalize (-b + √(max (b * b - 4 * a * d) 0)) / (2 * a) = x at hfactored hcontact
  generalize (-b - √(max (b * b - 4 * a * d) 0)) / (2 * a) = x' at hfactored hcontact
  have hroots : ∀ t, (start.along step t).distanceSq center - reach * reach =
      a * ((t * step.x - (x - start.x)) * (t * step.x - (x' - start.x))) := by
    intro t
    rw [hquadratic, hfactored]
    ring
  have halong : ∀ {z part}, z - start.x = part * step.x →
      (⟨z, m * z + (start.y - m * start.x)⟩ : Point ℝ) = start.along step part := by
    intro z part hz
    rw [hon, ← eq_add_of_sub_eq' hz]
  rw [hcontact]
  split_ifs with hfirst
  · obtain ⟨part, hpart, htouch⟩ := exists_firstTouch ha hroots hfirst.le hstart hend
    exact ⟨part, halong hpart, htouch⟩
  · have hswapped := fun t => (hroots t).trans (congrArg (a * ·) (mul_comm _ _))
    obtain ⟨part, hpart, htouch⟩ := exists_firstTouch ha hswapped (not_lt.mp hfirst) hstart hend
    exact ⟨part, halong hpart, htouch⟩

end Contact

end Skirmish
