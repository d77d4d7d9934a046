import Skirmish.Proofs.Tank.Contact

namespace Skirmish

-- Exact arithmetic in which headings have any slopes, however they come by them.
@[reducible] noncomputable def Reals.sloped (tan : ℝ → ℝ) : Scalar ℝ :=
  { (inferInstance : Scalar ℝ) with tan }

-- The point of a segment that is nearest to its start among those in touch with a circle.
structure NearestTouch (start next center : Point ℝ) (reach : ℝ) (p : Point ℝ) : Prop where
  between : ∃ part ∈ Set.Icc (0 : ℝ) 1, p = start.along (next - start) part
  touches : p.distance center = reach
  nearest : ∀ part ∈ Set.Icc (0 : ℝ) 1, (start.along (next - start) part).distance center = reach →
    start.distance p ≤ start.distance (start.along (next - start) part)

section FirstTouch

variable {start next center : Point ℝ} {reach part : ℝ}

-- What a move touches first is nearest to where it starts.
theorem FirstTouch.nearestTouch (h : FirstTouch start (next - start) center reach part)
    (hreach : 0 ≤ reach) :
    NearestTouch start next center reach (start.along (next - start) part) where
  between := ⟨part, h.mem, rfl⟩
  touches := by rw [Point.distance, h.touches, Real.sqrt_mul_self hreach]
  nearest t ht htouch := by
    have hlate : part ≤ t := by
      by_contra hearly
      have hfar := h.before t ⟨ht.1, not_le.mp hearly⟩
      exact (Point.distance_le_iff hreach).mp htouch.le hfar
    rw [Point.distance_along, Point.distance_along, abs_of_nonneg h.mem.1, abs_of_nonneg ht.1]
    exact mul_le_mul_of_nonneg_right hlate (Real.sqrt_nonneg _)

end FirstTouch

namespace Tank

-- A tank outside a circle that drives along a line to a point in it is stopped where it first
-- touches the circle, whatever the slope of the line, and also if the line is vertical.
theorem straightContact_is_nearest (tan : ℝ → ℝ) {start next center : Point ℝ} {heading reach : ℝ}
    (hreach : 0 < reach) (houtside : reach < start.distance center)
    (hinside : next.distance center ≤ reach) :
    letI := Reals.sloped tan
    (|tan heading| ≤ steepest → next.y - start.y = tan heading * (next.x - start.x) →
      NearestTouch start next center reach (straightContact start heading center reach)) ∧
    (steepest < |tan heading| → next.x = start.x →
      NearestTouch start next center reach (straightContact start heading center reach)) := by
  have hstart : reach * reach ≤ start.distanceSq center :=
    ((Point.lt_distance_iff hreach.le).mp houtside).le
  have hend : (start.along (next - start) 1).distanceSq center ≤ reach * reach := by
    rw [Point.along_sub_one]
    exact not_lt.mp ((Point.distance_le_iff hreach.le).mp hinside)
  refine ⟨fun hsloped hline => ?_, fun hsteep hline => ?_⟩
  · have hcontact : @straightContact ℝ (Reals.sloped tan) start heading center reach =
        slopedContact (tan heading) start center reach := if_neg hsloped.not_gt
    have hslope : (next - start).y = tan heading * (next - start).x := hline
    obtain ⟨part, hpart, htouch⟩ := exists_slopedContact hslope hstart hend
    rw [hcontact, hpart]
    exact htouch.nearestTouch hreach.le
  · have hcontact : @straightContact ℝ (Reals.sloped tan) start heading center reach =
        verticalContact start center reach := if_pos hsteep
    have hvertical : (next - start).x = 0 := sub_eq_zero.mpr hline
    obtain ⟨part, hpart, htouch⟩ := exists_verticalContact hvertical hstart hend
    rw [hcontact, hpart]
    exact htouch.nearestTouch hreach.le

-- One tank drives on a slope of three in four, the other straight up.
theorem straightContact_is_nearest_ramp :
    (75 / 2 < (⟨100, 100⟩ : Point ℝ).distance ⟨132, 124⟩ ∧
      (⟨104, 103⟩ : Point ℝ).distance ⟨132, 124⟩ ≤ 75 / 2 ∧
      NearestTouch ⟨100, 100⟩ ⟨104, 103⟩ ⟨132, 124⟩ (75 / 2)
        (@straightContact ℝ (Reals.sloped fun _ => 3 / 4) ⟨100, 100⟩ 0 ⟨132, 124⟩ (75 / 2))) ∧
    (30 < (⟨100, 50⟩ : Point ℝ).distance ⟨100, 100⟩ ∧
      (⟨100, 75⟩ : Point ℝ).distance ⟨100, 100⟩ ≤ 30 ∧
      NearestTouch ⟨100, 50⟩ ⟨100, 75⟩ ⟨100, 100⟩ 30
        (@straightContact ℝ (Reals.sloped fun _ => 100001) ⟨100, 50⟩ 0 ⟨100, 100⟩ 30)) := by
  have hramp : 75 / 2 < (⟨100, 100⟩ : Point ℝ).distance ⟨132, 124⟩ :=
    (Point.lt_distance_iff (by norm_num)).mpr (by norm_num [Point.distanceSq_eq])
  have hramp' : (⟨104, 103⟩ : Point ℝ).distance ⟨132, 124⟩ ≤ 75 / 2 :=
    (Point.distance_le_iff (by norm_num)).mpr (by norm_num [Point.distanceSq_eq])
  have hwall : 30 < (⟨100, 50⟩ : Point ℝ).distance ⟨100, 100⟩ :=
    (Point.lt_distance_iff (by norm_num)).mpr (by norm_num [Point.distanceSq_eq])
  have hwall' : (⟨100, 75⟩ : Point ℝ).distance ⟨100, 100⟩ ≤ 30 :=
    (Point.distance_le_iff (by norm_num)).mpr (by norm_num [Point.distanceSq_eq])
  exact ⟨⟨hramp, hramp', (straightContact_is_nearest _ (by norm_num) hramp hramp').1
      (by norm_num [steepest]) (by norm_num)⟩,
    hwall, hwall', (straightContact_is_nearest _ (by norm_num) hwall hwall').2
      (by norm_num [steepest]) rfl⟩

end Tank

end Skirmish
