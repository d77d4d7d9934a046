import Skirmish.Proofs.Arena.Field
import Skirmish.Proofs.Geometry.Plane

namespace Skirmish.Arena

variable {arena : Arena ℝ}

-- How far apart two points of the field are, over its edges or not.
noncomputable def distance (arena : Arena ℝ) (p q : Point ℝ) : ℝ :=
  √(arena.displacement p q).lengthSq

-- Points of the plane that stand for the same point of the field.
def Same (arena : Arena ℝ) (p q : Point ℝ) : Prop :=
  ∃ i j : ℤ, q = ⟨p.x + i * arena.width, p.y + j * arena.height⟩

theorem Same.symm {p q : Point ℝ} (h : arena.Same p q) : arena.Same q p := by
  obtain ⟨i, j, rfl⟩ := h
  exact ⟨-i, -j, by cases p; simp⟩

theorem Same.trans {p q r : Point ℝ} (h : arena.Same p q) (h' : arena.Same q r) :
    arena.Same p r := by
  obtain ⟨i, j, rfl⟩ := h
  obtain ⟨i', j', rfl⟩ := h'
  exact ⟨i + i', j + j', by push_cast; congr 1 <;> ring⟩

theorem same_wrap (hwidth : 0 < arena.width) (hheight : 0 < arena.height) (p : Point ℝ) :
    arena.Same p (arena.wrap p) := by
  obtain ⟨i, hi⟩ := Reals.exists_modulo p.x hwidth
  obtain ⟨j, hj⟩ := Reals.exists_modulo p.y hheight
  exact ⟨i, j, by rw [wrap, hi, hj]⟩

theorem Same.add {p q : Point ℝ} (h : arena.Same p q) (v : Point ℝ) :
    arena.Same (p + v) (q + v) := by
  obtain ⟨i, j, rfl⟩ := h
  exact ⟨i, j, congrArg₂ Point.mk (add_right_comm _ _ _) (add_right_comm _ _ _)⟩

-- A displacement leads to a point that stands for the one meant.
theorem same_add_displacement (p q : Point ℝ) : arena.Same q (p + arena.displacement p q) := by
  obtain ⟨i, hi⟩ := exists_shortWay arena.width (q.x - p.x)
  obtain ⟨j, hj⟩ := exists_shortWay arena.height (q.y - p.y)
  refine ⟨i, j, ?_⟩
  rw [displacement, hi, hj]
  change Point.mk _ _ = _
  congr 1 <;> ring

-- No two points that stand for two points of the field are closer than those.
theorem distance_le_of_same {p q p' q' : Point ℝ} (hp : arena.Same p p') (hq : arena.Same q q')
    (hp' : arena.Encloses p') (hq' : arena.Encloses q') : arena.distance p' q' ≤ p.distance q := by
  obtain ⟨i, j, rfl⟩ := hp
  obtain ⟨i', j', rfl⟩ := hq
  refine Real.sqrt_le_sqrt (((hp'.shortest hq').least (i - i') (j - j')).trans_eq ?_)
  rw [lengthSq_eq, Point.distanceSq_eq, way]
  push_cast
  ring

theorem eq_of_near {size a b : ℝ} {k : ℤ} (h : a = b + k * size) (ha : |a| < size / 2)
    (hb : |b| ≤ size / 2) : a = b := by
  have hsize : 0 < size := by linarith [abs_nonneg a]
  have hturns : |(k : ℝ)| * size < 1 * size := by
    calc |(k : ℝ)| * size = |a - b| := by
          rw [h, add_sub_cancel_left, abs_mul, abs_of_pos hsize]
      _ ≤ |a| + |b| := abs_sub a b
      _ < 1 * size := by linarith
  have hk : k = 0 :=
    Int.abs_lt_one_iff.mp (by exact_mod_cast lt_of_mul_lt_mul_right hturns hsize.le)
  rw [h, hk, Int.cast_zero, zero_mul, add_zero]

-- Whether a step is shorter than half a field, so that nothing closer can be meant by it.
structure Short (arena : Arena ℝ) (step : Point ℝ) : Prop where
  x : |step.x| < arena.width / 2
  y : |step.y| < arena.height / 2

theorem Short.of_add {step step' : Point ℝ} (hx : |step.x| + |step'.x| < arena.width / 2)
    (hy : |step.y| + |step'.y| < arena.height / 2) : arena.Short (step + step') :=
  ⟨(abs_add_le _ _).trans_lt hx, (abs_add_le _ _).trans_lt hy⟩

theorem Short.eq_of_same {p q q' : Point ℝ} (h : arena.Same (p + q) (p + q')) (hq' : arena.Short q')
    (hx : |q.x| ≤ arena.width / 2) (hy : |q.y| ≤ arena.height / 2) : q' = q := by
  obtain ⟨i, j, hsame⟩ := h
  have hpx : p.x + q'.x = p.x + q.x + i * arena.width := congrArg Point.x hsame
  have hpy : p.y + q'.y = p.y + q.y + j * arena.height := congrArg Point.y hsame
  have hqx : q'.x = q.x := eq_of_near (k := i) (by linarith) hq'.x hx
  have hqy : q'.y = q.y := eq_of_near (k := j) (by linarith) hq'.y hy
  cases q
  cases q'
  exact congrArg₂ Point.mk hqx hqy

theorem abs_displacement_le {p q : Point ℝ} (hp : arena.Encloses p) (hq : arena.Encloses q) :
    |(arena.displacement p q).x| ≤ arena.width / 2 ∧
      |(arena.displacement p q).y| ≤ arena.height / 2 :=
  ⟨abs_shortWay_le (abs_sub_le_of_mem hp.x hq.x), abs_shortWay_le (abs_sub_le_of_mem hp.y hq.y)⟩

-- A short step is the displacement to where it leads.
theorem Short.displacement_wrap {p step : Point ℝ} (hp : arena.Encloses p) (h : arena.Short step) :
    arena.displacement p (arena.wrap (p + step)) = step := by
  have hwidth : 0 < arena.width := by linarith [h.x, abs_nonneg step.x]
  have hheight : 0 < arena.height := by linarith [h.y, abs_nonneg step.y]
  have hled := same_wrap hwidth hheight (p + step)
  obtain ⟨hx, hy⟩ := abs_displacement_le hp (holds_wrap hwidth hheight (p + step)).encloses
  exact (h.eq_of_same (hled.trans (same_add_displacement p _)).symm hx hy).symm

theorem distance_add_displacement (p q : Point ℝ) :
    p.distance (p + arena.displacement p q) = arena.distance p q :=
  p.distance_add _

theorem abs_le_sqrt_lengthSq (v : Point ℝ) : |v.x| ≤ √v.lengthSq ∧ |v.y| ≤ √v.lengthSq := by
  rw [lengthSq_eq]
  exact ⟨Real.abs_le_sqrt (le_add_of_nonneg_right (sq_nonneg _)),
    Real.abs_le_sqrt (le_add_of_nonneg_left (sq_nonneg _))⟩

-- Where a short move leads, what is near is as far away as it looks from the start of the move.
theorem distance_wrap_add {p q step : Point ℝ} {reach : ℝ} (hp : arena.Encloses p)
    (hq : arena.Encloses q) (hx : |step.x| + reach < arena.width / 2)
    (hy : |step.y| + reach < arena.height / 2)
    (hreach : arena.distance (arena.wrap (p + step)) q ≤ reach) :
    arena.distance (arena.wrap (p + step)) q =
      (p + step).distance (p + arena.displacement p q) := by
  have hnonneg : 0 ≤ reach := (Real.sqrt_nonneg _).trans hreach
  have hwidth : 0 < arena.width := by linarith [abs_nonneg step.x]
  have hheight : 0 < arena.height := by linarith [abs_nonneg step.y]
  have hled := same_wrap hwidth hheight (p + step)
  generalize arena.wrap (p + step) = led at hreach hled ⊢
  have hsame : arena.Same (p + arena.displacement p q) (p + (step + arena.displacement led q)) := by
    rw [← Point.add_assoc]
    exact (same_add_displacement p q).symm.trans
      ((same_add_displacement led q).trans (hled.symm.add _))
  obtain ⟨hleft, hright⟩ := abs_le_sqrt_lengthSq (arena.displacement led q)
  have hshort : arena.Short (step + arena.displacement led q) :=
    .of_add (by linarith [hleft.trans hreach]) (by linarith [hright.trans hreach])
  obtain ⟨hx', hy'⟩ := abs_displacement_le hp hq
  rw [← hshort.eq_of_same hsame hx' hy', ← Point.add_assoc, Point.distance_add]
  rfl

end Skirmish.Arena
