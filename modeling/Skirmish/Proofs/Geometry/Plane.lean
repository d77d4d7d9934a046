import Skirmish.Proofs.Arena.Spacing

namespace Skirmish.Point

-- Points as complex numbers, which have the same distances.
def toComplex (p : Point ℝ) : ℂ := ⟨p.x, p.y⟩

theorem distance_eq_dist (p q : Point ℝ) : p.distance q = dist p.toComplex q.toComplex := by
  rw [Complex.dist_eq_re_im, distance, distanceSq_eq]
  rfl

theorem distance_triangle (p q r : Point ℝ) : p.distance r ≤ p.distance q + q.distance r := by
  simp only [distance_eq_dist]
  exact dist_triangle _ _ _

-- Distances are compared in squares.
theorem distance_le_iff {p q : Point ℝ} {reach : ℝ} (hreach : 0 ≤ reach) :
    p.distance q ≤ reach ↔ ¬ reach * reach < p.distanceSq q := by
  rw [not_lt, ← pow_two]
  exact Real.sqrt_le_left hreach

theorem le_distance_iff {p q : Point ℝ} {reach : ℝ} (hreach : 0 ≤ reach) :
    reach ≤ p.distance q ↔ reach * reach ≤ p.distanceSq q := by
  rw [← pow_two, distance, Real.le_sqrt hreach]
  rw [distanceSq_eq]
  positivity

theorem lt_distance_iff {p q : Point ℝ} {reach : ℝ} (hreach : 0 ≤ reach) :
    reach < p.distance q ↔ reach * reach < p.distanceSq q := by
  rw [← not_le, distance_le_iff hreach, not_not]

theorem add_assoc (p q r : Point ℝ) : p + q + r = p + (q + r) := by
  change mk (p.x + q.x + r.x) (p.y + q.y + r.y) = mk (p.x + (q.x + r.x)) (p.y + (q.y + r.y))
  congr 1 <;> ring

theorem distance_add (p v : Point ℝ) : p.distance (p + v) = √v.lengthSq := by
  rw [distance, distanceSq_eq]
  change √((p.x - (p.x + v.x)) ^ 2 + (p.y - (p.y + v.y)) ^ 2) = _
  rw [sub_add_cancel_left, sub_add_cancel_left, neg_sq, neg_sq, lengthSq, pow_two, pow_two]

-- Where a move from a point has come after a part of it.
noncomputable def along (start step : Point ℝ) (part : ℝ) : Point ℝ :=
  ⟨start.x + part * step.x, start.y + part * step.y⟩

theorem along_zero (start step : Point ℝ) : start.along step 0 = start := by
  simp [along]

theorem along_one (start step : Point ℝ) : start.along step 1 = start + step := by
  simp only [along, one_mul]
  rfl

theorem along_sub_one (start next : Point ℝ) : start.along (next - start) 1 = next := by
  rw [along_one]
  exact congrArg₂ mk (add_sub_cancel _ _) (add_sub_cancel _ _)

theorem distance_along (start step : Point ℝ) (part : ℝ) :
    start.distance (start.along step part) = |part| * √step.lengthSq := by
  have hsq : start.distanceSq (start.along step part) = part ^ 2 * step.lengthSq := by
    rw [distanceSq_eq, along, lengthSq]
    ring
  rw [distance, hsq, Real.sqrt_mul (sq_nonneg part), Real.sqrt_sq_eq_abs]

theorem distance_along_le (start step : Point ℝ) {s t : ℝ} (hs : s ∈ Set.Icc (0 : ℝ) 1)
    (ht : t ∈ Set.Icc (0 : ℝ) 1) :
    (start.along step s).distance (start.along step t) ≤ √step.lengthSq := by
  apply Real.sqrt_le_sqrt
  have hpart : (s - t) ^ 2 ≤ 1 := by
    rw [sq_le_one_iff_abs_le_one, abs_le]
    exact ⟨by linarith [hs.1, ht.2], by linarith [hs.2, ht.1]⟩
  calc (start.along step s).distanceSq (start.along step t)
      = (s - t) ^ 2 * (step.x ^ 2 + step.y ^ 2) := by
        rw [distanceSq_eq, along, along]
        ring
    _ ≤ 1 * (step.x ^ 2 + step.y ^ 2) := by gcongr
    _ = step.lengthSq := by rw [one_mul, lengthSq, pow_two, pow_two]

end Skirmish.Point
