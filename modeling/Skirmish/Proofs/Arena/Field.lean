import Mathlib.Tactic.Linarith
import Skirmish.Proofs.Arena.Spacing
import Skirmish.Proofs.Draws

namespace Skirmish

namespace Reals

theorem exists_modulo (x : ℝ) {m : ℝ} (hm : 0 < m) :
    ∃ k : ℤ, Scalar.modulo x m = x + k * m := by
  unfold Scalar.modulo
  simp only [remainder_eq, abs_eq, abs_of_pos hm]
  split_ifs
  · exact ⟨1 - truncate (x / m), by push_cast; ring⟩
  · exact ⟨-truncate (x / m), by push_cast; ring⟩

-- What a quotient loses when it is cut off is less than one.
theorem abs_sub_truncate_lt (x : ℝ) : |x - truncate x| < 1 := by
  unfold truncate
  rw [abs_lt]
  split_ifs
  · constructor <;> linarith [Int.floor_le x, Int.lt_floor_add_one x]
  · constructor <;> linarith [Int.le_ceil x, Int.ceil_lt_add_one x]

theorem modulo_mem (x : ℝ) {m : ℝ} (hm : 0 < m) : Scalar.modulo x m ∈ Set.Ico 0 m := by
  have hquotient := abs_lt.mp (abs_sub_truncate_lt (x / m))
  have hremainder : x - m * truncate (x / m) = (x / m - truncate (x / m)) * m := by
    field_simp
  have hlow : -m < x - m * truncate (x / m) := by
    rw [hremainder]
    nlinarith [hquotient.1]
  have hhigh : x - m * truncate (x / m) < m := by
    rw [hremainder]
    nlinarith [hquotient.2]
  unfold Scalar.modulo
  simp only [remainder_eq, abs_eq, abs_of_pos hm, Int.cast_zero]
  split_ifs with hneg
  · exact ⟨by linarith, by linarith⟩
  · exact ⟨not_lt.mp hneg, hhigh⟩

theorem modulo_of_mem {x m : ℝ} (hx : x ∈ Set.Ico 0 m) : Scalar.modulo x m = x := by
  have hm : 0 < m := hx.1.trans_lt hx.2
  have htruncate : truncate (x / m) = 0 := by
    rw [truncate_of_nonneg (div_nonneg hx.1 hm.le), Int.floor_eq_zero_iff]
    exact ⟨div_nonneg hx.1 hm.le, (div_lt_one hm).mpr hx.2⟩
  unfold Scalar.modulo
  simp only [remainder_eq, htruncate, Int.cast_zero, mul_zero, sub_zero]
  exact if_neg hx.1.not_gt

end Reals

namespace Arena

variable {arena : Arena ℝ}

-- Whether a point is on the field itself, and not only stands for one that is.
structure Holds (arena : Arena ℝ) (p : Point ℝ) : Prop where
  x : p.x ∈ Set.Ico 0 arena.width
  y : p.y ∈ Set.Ico 0 arena.height

-- Whether a point is on the field or on an edge of it.
structure Encloses (arena : Arena ℝ) (p : Point ℝ) : Prop where
  x : p.x ∈ Set.Icc 0 arena.width
  y : p.y ∈ Set.Icc 0 arena.height

theorem Holds.encloses {p : Point ℝ} (h : arena.Holds p) : arena.Encloses p :=
  ⟨Set.Ico_subset_Icc_self h.x, Set.Ico_subset_Icc_self h.y⟩

theorem holds_wrap (hwidth : 0 < arena.width) (hheight : 0 < arena.height) (p : Point ℝ) :
    arena.Holds (arena.wrap p) :=
  ⟨Reals.modulo_mem p.x hwidth, Reals.modulo_mem p.y hheight⟩

-- A point of the field stands for itself.
theorem Holds.wrap_eq {p : Point ℝ} (h : arena.Holds p) : arena.wrap p = p :=
  congrArg₂ Point.mk (Reals.modulo_of_mem h.x) (Reals.modulo_of_mem h.y)

theorem holds_randomPoint {G : Type} [Draws ℝ G] [SoundDraws ℝ G] (hwidth : 0 < arena.width)
    (hheight : 0 < arena.height) (g : G) : arena.Holds (arena.randomPoint g).1 where
  x := ⟨SoundDraws.floor_mul_nonneg g hwidth.le, SoundDraws.floor_mul_lt g hwidth⟩
  y := ⟨SoundDraws.floor_mul_nonneg _ hheight.le, SoundDraws.floor_mul_lt _ hheight⟩

-- A way from one point to another that goes round the field so many times on each axis.
def way (arena : Arena ℝ) (p q : Point ℝ) (i j : ℤ) : Point ℝ :=
  ⟨q.x - p.x + i * arena.width, q.y - p.y + j * arena.height⟩

-- The displacement between two points leads from one to the other, and no way that does is
-- shorter.
structure Shortest (arena : Arena ℝ) (p q : Point ℝ) : Prop where
  leads : ∃ i j, arena.displacement p q = arena.way p q i j
  least : ∀ i j, (arena.displacement p q).lengthSq ≤ (arena.way p q i j).lengthSq

theorem exists_shortWay (size delta : ℝ) : ∃ k : ℤ, shortWay size delta = delta + k * size := by
  unfold shortWay
  dsimp only
  split_ifs
  · exact ⟨-1, by push_cast; ring⟩
  · exact ⟨1, by push_cast; ring⟩
  · exact ⟨0, by simp⟩

theorem abs_shortWay_le {size delta : ℝ} (h : |delta| ≤ 3 / 2 * size) :
    |shortWay size delta| ≤ size / 2 := by
  obtain ⟨hlow, hhigh⟩ := abs_le.mp h
  unfold shortWay
  simp only [Int.cast_ofNat]
  rw [abs_le]
  split_ifs <;> constructor <;> linarith

-- Nothing within half a field gets shorter by going round it.
theorem abs_le_abs_add_mul {size delta : ℝ} (h : |delta| ≤ size / 2) (k : ℤ) :
    |delta| ≤ |delta + k * size| := by
  have hsize : 0 ≤ size := by linarith [abs_nonneg delta]
  rcases eq_or_ne k 0 with rfl | hk
  · simp
  · have hround : size ≤ |(k : ℝ) * size| := by
      rw [abs_mul, abs_of_nonneg hsize]
      exact le_mul_of_one_le_left hsize (by exact_mod_cast Int.one_le_abs hk)
    have hsum := abs_sub_abs_le_abs_sub (k * size) (-delta)
    rw [abs_neg, sub_neg_eq_add, add_comm] at hsum
    linarith

theorem sq_shortWay_le {size delta : ℝ} (h : |delta| ≤ 3 / 2 * size) (k : ℤ) :
    shortWay size delta ^ 2 ≤ (delta + k * size) ^ 2 := by
  obtain ⟨turns, hturns⟩ := exists_shortWay size delta
  have hleast := abs_le_abs_add_mul (abs_shortWay_le h) (k - turns)
  have hway : shortWay size delta + ((k - turns : ℤ) : ℝ) * size = delta + k * size := by
    rw [hturns]
    push_cast
    ring
  rw [hway] at hleast
  exact sq_le_sq.mpr hleast

theorem lengthSq_eq (v : Point ℝ) : v.lengthSq = v.x ^ 2 + v.y ^ 2 := by
  rw [Point.lengthSq, pow_two, pow_two]

theorem shortest_of_abs_le {p q : Point ℝ} (hx : |q.x - p.x| ≤ 3 / 2 * arena.width)
    (hy : |q.y - p.y| ≤ 3 / 2 * arena.height) : arena.Shortest p q where
  leads := by
    obtain ⟨i, hi⟩ := exists_shortWay arena.width (q.x - p.x)
    obtain ⟨j, hj⟩ := exists_shortWay arena.height (q.y - p.y)
    exact ⟨i, j, by rw [displacement, hi, hj, way]⟩
  least i j := by
    rw [lengthSq_eq, lengthSq_eq]
    exact add_le_add (sq_shortWay_le hx i) (sq_shortWay_le hy j)

theorem abs_sub_le_of_mem {size a b : ℝ} (ha : a ∈ Set.Icc 0 size) (hb : b ∈ Set.Icc 0 size) :
    |b - a| ≤ 3 / 2 * size := by
  rw [abs_le]
  constructor <;> linarith [ha.1, ha.2, hb.1, hb.2]

-- Two points of the field are no more than a field apart.
theorem Encloses.shortest {p q : Point ℝ} (hp : arena.Encloses p) (hq : arena.Encloses q) :
    arena.Shortest p q :=
  shortest_of_abs_le (abs_sub_le_of_mem hp.x hq.x) (abs_sub_le_of_mem hp.y hq.y)

theorem Holds.shortest {p q : Point ℝ} (hp : arena.Holds p) (hq : arena.Holds q) :
    arena.Shortest p q :=
  hp.encloses.shortest hq.encloses

end Arena

namespace Placement

variable {G : Type} [Draws ℝ G] [SoundDraws ℝ G]

-- Where an axis is too short for the least span, all draws give its start.
theorem floor_draw_mem (g : G) {size : ℝ} (hsize : 0 < size) :
    (⌊(Draws.unit g).1 * max size 1⌋ : ℝ) ∈ Set.Ico 0 size := by
  refine ⟨SoundDraws.floor_mul_nonneg g (by positivity), ?_⟩
  rcases le_total size 1 with hshort | hlong
  · have hunit := SoundDraws.unit_mem g
    rw [max_eq_right hshort, mul_one, Int.floor_eq_zero_iff.mpr hunit, Int.cast_zero]
    exact hsize
  · rw [max_eq_left hlong]
    exact SoundDraws.floor_mul_lt g hsize

-- Tanks are placed without a margin.
theorem findSpot_holds {arena : Arena ℝ} (hwidth : 0 < arena.width) (hheight : 0 < arena.height)
    {placed : List (Obstacle ℝ)} {radius : ℝ} {kind : ObjectKind} {attempts : Nat} {g g' : G}
    {spot : Point ℝ}
    (h : findSpot arena placed radius kind ((0 : Int) : ℝ) attempts g = (some spot, g')) :
    arena.Holds spot := by
  induction attempts generalizing g with
  | zero => cases h
  | succ attempts ih =>
      unfold findSpot at h
      simp only [Reals.greatest_eq, Reals.floor_eq, Int.cast_zero, mul_zero, sub_zero, zero_add,
        Int.cast_one] at h
      split_ifs at h
      · cases h
        exact ⟨floor_draw_mem g hwidth, floor_draw_mem _ hheight⟩
      · exact ih (by simpa using h)

theorem scatterTanks_holds {rules : Rules ℝ} {arena : Arena ℝ} (hwidth : 0 < arena.width)
    (hheight : 0 < arena.height) {count index : Nat} {placed : List (Obstacle ℝ)} {g g' : G}
    {spots : List (Point ℝ)}
    (h : scatterTanks rules arena count index placed g = (.ok spots, g')) :
    ∀ spot ∈ spots, arena.Holds spot := by
  induction count generalizing index placed g g' spots with
  | zero =>
      cases h
      simp
  | succ count ih =>
      unfold scatterTanks at h
      dsimp only at h
      split at h
      · rename_i spot source hspot
        generalize hrest : scatterTanks rules arena count (index + 1)
          (⟨spot, rules.tankRadius, .tank⟩ :: placed) source = rest at h
        obtain ⟨result, source'⟩ := rest
        cases result with
        | error fault => cases h
        | ok rest =>
            cases h
            rw [List.forall_mem_cons]
            exact ⟨findSpot_holds hwidth hheight hspot, ih hrest⟩
      · cases h

theorem cell_center_mem {size step : ℝ} (hstep : 0 < step) {a : Nat}
    (ha : a < (Scalar.truncate (Scalar.floor (size / step))).toNat) :
    ((a : Int) : ℝ) * step + step / ((2 : Int) : ℝ) ∈ Set.Ico 0 size := by
  have hfit := count_mul_le hstep ha
  have hlast : ((a : ℝ) + 1) * step ≤ size :=
    le_trans (mul_le_mul_of_nonneg_right (by exact_mod_cast ha) hstep.le) hfit
  rw [Int.cast_natCast, Int.cast_ofNat]
  exact ⟨by positivity, by linarith⟩

theorem OnGrid.holds {rules : Rules ℝ} {arena : Arena ℝ} (hspacing : 0 < rules.gridSpacing)
    {spots : List (Point ℝ)} (h : OnGrid rules arena spots) : ∀ spot ∈ spots, arena.Holds spot := by
  obtain ⟨taken, -, htaken, rfl⟩ := h
  rw [List.forall_mem_map]
  intro cell hcell
  obtain ⟨hrow, hcolumn⟩ := List.mem_product.mp (htaken hcell)
  exact ⟨cell_center_mem hspacing (List.mem_range.mp hcolumn),
    cell_center_mem hspacing (List.mem_range.mp hrow)⟩

-- Wherever tanks are placed, it is on the field.
theorem populate_holds {arena : Arena ℝ} (hwidth : 0 < arena.width) (hheight : 0 < arena.height)
    {pillars tanks : Nat} {rules : Rules ℝ} (hspacing : 0 < rules.gridSpacing) {g : G}
    {spots : List (Point ℝ)} (h : (arena.populate pillars tanks rules g).tanks = .ok spots) :
    ∀ spot ∈ spots, (arena.populate pillars tanks rules g).arena.Holds spot := by
  unfold Arena.populate at h ⊢
  generalize hraised : raisePillars rules pillars 0 { arena with pillars := [] } g = raised at h ⊢
  obtain ⟨fault, field, source⟩ := raised
  cases fault with
  | some fault => cases h
  | none =>
      obtain ⟨-, -, hwidth', hheight'⟩ := raisePillars_clear hraised .nil
      dsimp only at h ⊢
      generalize hscattered : scatterTanks rules field tanks 0 (field.pillars.map ofPillar) source =
        scattered at h ⊢
      obtain ⟨result, source'⟩ := scattered
      cases result with
      | ok found =>
          cases h
          exact scatterTanks_holds (hwidth' ▸ hwidth) (hheight' ▸ hheight) hscattered
      | error fault =>
          dsimp only at h ⊢
          generalize hgrid : gridTanks rules field tanks source' = grid at h ⊢
          obtain ⟨result, source''⟩ := grid
          cases result with
          | error fault => cases h
          | ok found =>
              cases h
              exact (gridTanks_clear hgrid).2.1.holds hspacing

end Placement

end Skirmish
