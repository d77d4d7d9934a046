import Mathlib
import Skirmish.Proofs.Arena.Clearance
import Skirmish.Proofs.Arena.Displacement
import Skirmish.Proofs.Arena.Raising

namespace Skirmish

-- How far apart two points are, straight across the field.
noncomputable def Point.distance (p q : Point ℝ) : ℝ := √(p.distanceSq q)

theorem Point.distanceSq_eq (p q : Point ℝ) :
    p.distanceSq q = (p.x - q.x) ^ 2 + (p.y - q.y) ^ 2 := by
  rw [pow_two, pow_two]
  rfl

theorem Point.distance_comm (p q : Point ℝ) : p.distance q = q.distance p := by
  rw [distance, distance, distanceSq_eq, distanceSq_eq, sub_sq_comm p.x, sub_sq_comm p.y]

namespace Placement

theorem lt_distance_of_isClear {o other : Obstacle ℝ} (h : isClear o other = true) :
    o.radius + other.radius + o.kind.spacing other.kind < o.position.distance other.position := by
  apply Real.lt_sqrt_of_sq_lt
  rw [pow_two]
  exact of_decide_eq_true h

-- Different cells differ by a whole number of rows or columns.
theorem one_le_sq_add_sq {cell cell' : Nat × Nat} (h : cell ≠ cell') :
    (1 : ℝ) ≤ ((cell.2 : ℝ) - cell'.2) ^ 2 + ((cell.1 : ℝ) - cell'.1) ^ 2 := by
  have hne : (cell.2 : ℤ) - cell'.2 ≠ 0 ∨ (cell.1 : ℤ) - cell'.1 ≠ 0 := by
    by_contra hsame
    exact h (Prod.ext (by omega) (by omega))
  have hcolumn := sq_nonneg ((cell.2 : ℤ) - cell'.2)
  have hrow := sq_nonneg ((cell.1 : ℤ) - cell'.1)
  have hwhole : (1 : ℤ) ≤ ((cell.2 : ℤ) - cell'.2) ^ 2 + ((cell.1 : ℤ) - cell'.1) ^ 2 := by
    rcases hne with hne | hne
    · have := pow_pos (abs_pos.mpr hne) 2
      rw [sq_abs] at this
      omega
    · have := pow_pos (abs_pos.mpr hne) 2
      rw [sq_abs] at this
      omega
  exact_mod_cast hwhole

theorem gridSpacing_le_distance (rules : Rules ℝ) {cell cell' : Nat × Nat} (h : cell ≠ cell') :
    rules.gridSpacing ≤ (centerOf rules cell).distance (centerOf rules cell') := by
  apply Real.le_sqrt_of_sq_le
  calc rules.gridSpacing ^ 2
      = rules.gridSpacing ^ 2 * 1 := (mul_one _).symm
    _ ≤ rules.gridSpacing ^ 2 *
          (((cell.2 : ℝ) - cell'.2) ^ 2 + ((cell.1 : ℝ) - cell'.1) ^ 2) :=
        mul_le_mul_of_nonneg_left (one_le_sq_add_sq h) (sq_nonneg _)
    _ = (centerOf rules cell).distanceSq (centerOf rules cell') := by
        simp only [Point.distanceSq_eq, centerOf, cellCenter, Int.cast_natCast]
        ring

-- The way between two cells of a row, which the field is wide enough for, is no less than
-- a cell the short way round either.
theorem sq_le_sq_shortWay {size step : ℝ} {count a b : Nat} (hstep : 0 < step)
    (hfit : count * step ≤ size) (ha : a < count) (hb : b < count) (hne : a ≠ b) :
    step ^ 2 ≤ Arena.shortWay size ((b - a) * step) ^ 2 := by
  have hfar : ∀ {a b : Nat}, b < count → (b - a : ℝ) * step ≤ size - step := by
    intro a b hb
    have hlast : (b : ℝ) + 1 ≤ count := by exact_mod_cast hb
    have hspan : (b - a : ℝ) ≤ count - 1 := by linarith [(Nat.cast_nonneg a : (0 : ℝ) ≤ a)]
    calc (b - a : ℝ) * step ≤ (count - 1) * step := mul_le_mul_of_nonneg_right hspan hstep.le
      _ ≤ size - step := by linarith
  have hnear : step ≤ |(b - a : ℝ) * step| := by
    have hone : (1 : ℝ) ≤ |(b : ℝ) - a| := by
      have hwhole : (1 : ℤ) ≤ |(b : ℤ) - a| := Int.one_le_abs (by omega)
      exact_mod_cast hwhole
    rw [abs_mul, abs_of_pos hstep]
    exact le_mul_of_one_le_left hstep.le hone
  have hback : -((b - a : ℝ) * step) = (a - b : ℝ) * step := by ring
  rw [sq_le_sq, abs_of_pos hstep, Arena.shortWay]
  split_ifs
  · have := hfar (a := a) hb
    rw [abs_sub_comm]
    exact le_trans (by linarith) (le_abs_self _)
  · have := hfar (a := b) ha
    exact le_trans (by linarith) (le_abs_self _)
  · exact hnear

theorem count_mul_le {size step : ℝ} (hstep : 0 < step) {a : Nat}
    (ha : a < (Scalar.truncate (Scalar.floor (size / step))).toNat) :
    ((Scalar.truncate (Scalar.floor (size / step))).toNat : ℝ) * step ≤ size := by
  have hwhole : Scalar.truncate (Scalar.floor (size / step)) = ⌊size / step⌋ := by
    rw [Reals.floor_eq, Reals.truncate_eq, Reals.truncate_intCast]
  rw [hwhole] at ha ⊢
  have hcount : ((⌊size / step⌋.toNat : ℕ) : ℝ) = (⌊size / step⌋ : ℝ) := by
    exact_mod_cast Int.toNat_of_nonneg (by omega)
  rw [hcount, ← le_div_iff₀ hstep]
  exact Int.floor_le _

-- Cells are apart over the edges of the field as well.
theorem gridSpacing_sq_le {rules : Rules ℝ} {arena : Arena ℝ} (hspacing : 0 < rules.gridSpacing)
    {cell cell' : Nat × Nat} (hcell : cell ∈ cells rules arena) (hcell' : cell' ∈ cells rules arena)
    (hne : cell ≠ cell') :
    rules.gridSpacing ^ 2 ≤
      (arena.displacement (centerOf rules cell) (centerOf rules cell')).lengthSq := by
  obtain ⟨hrow, hcolumn⟩ := List.mem_product.mp hcell
  obtain ⟨hrow', hcolumn'⟩ := List.mem_product.mp hcell'
  rw [List.mem_range] at hrow hcolumn hrow' hcolumn'
  have hway : arena.displacement (centerOf rules cell) (centerOf rules cell') =
      ⟨Arena.shortWay arena.width ((cell'.2 - cell.2) * rules.gridSpacing),
        Arena.shortWay arena.height ((cell'.1 - cell.1) * rules.gridSpacing)⟩ := by
    simp only [Arena.displacement, centerOf, cellCenter, Int.cast_natCast]
    congr 2 <;> ring
  have hlength : ∀ x y : ℝ, Point.lengthSq ⟨x, y⟩ = x ^ 2 + y ^ 2 := by
    intro x y
    rw [Point.lengthSq, pow_two, pow_two]
  rw [hway, hlength]
  by_cases hsame : cell.2 = cell'.2
  · have hrows : cell.1 ≠ cell'.1 := fun h => hne (Prod.ext h hsame)
    have hheight := sq_le_sq_shortWay hspacing (count_mul_le hspacing hrow) hrow hrow' hrows
    exact le_add_of_nonneg_of_le (sq_nonneg _) hheight
  · have hwidth := sq_le_sq_shortWay hspacing (count_mul_le hspacing hcolumn) hcolumn hcolumn' hsame
    exact le_add_of_le_of_nonneg hwidth (sq_nonneg _)

-- Tanks on the grid do not touch, if two hulls fit into a cell side by side.
theorem OnGrid.apart {rules : Rules ℝ} {arena : Arena ℝ} {spots : List (Point ℝ)}
    (h : OnGrid rules arena spots) (hradius : 0 ≤ rules.tankRadius)
    (hfit : 2 * rules.tankRadius < rules.gridSpacing) :
    spots.Pairwise fun p q => rules.collisionReachSq < (arena.displacement p q).lengthSq := by
  obtain ⟨taken, hnodup, htaken, rfl⟩ := h
  have hreach : rules.collisionReachSq = (2 * rules.tankRadius) ^ 2 := by
    rw [Rules.collisionReachSq, Scalar.square, pow_two, Int.cast_ofNat]
  have hspacing : 0 < rules.gridSpacing := lt_of_le_of_lt (by positivity) hfit
  rw [List.pairwise_map]
  refine hnodup.imp_of_mem fun {cell cell'} hcell hcell' hne => ?_
  rw [hreach]
  exact lt_of_lt_of_le (pow_lt_pow_left₀ hfit (by positivity) two_ne_zero)
    (gridSpacing_sq_le hspacing (htaken hcell) (htaken hcell') hne)

-- Numbers written down in advance.
structure Tape where
  draws : List ℝ

noncomputable instance : Draws ℝ Tape where
  unit tape := (tape.draws.headD 0, ⟨tape.draws.tail⟩)
  below _ tape := (0, tape)

theorem findSpot_of_clear {arena : Arena ℝ} {placed : List (Obstacle ℝ)} {radius margin : ℝ}
    {kind : ObjectKind} {u v : ℝ} {rest : List ℝ} {spot : Point ℝ}
    (hx : spot.x = margin + ⌊u * max (arena.width - 2 * margin) 1⌋)
    (hy : spot.y = margin + ⌊v * max (arena.height - 2 * margin) 1⌋)
    (hclear : ∀ other ∈ placed, isClear ⟨spot, radius, kind⟩ other = true) :
    findSpot arena placed radius kind margin maxAttempts (⟨u :: v :: rest⟩ : Tape) =
      (some spot, ⟨rest⟩) := by
  refine findSpot_of_first (g := (⟨u :: v :: rest⟩ : Tape)) ?_ hclear
  simp only [Draws.unit, List.headD_cons, List.tail_cons, span, Reals.floor_eq, Reals.greatest_eq,
    Int.cast_ofNat, Int.cast_one, ← hx, ← hy]

-- A field of two cells by two, and draws for a pillar in its middle and for tanks in a
-- corner and along an edge.
noncomputable def yard : Arena ℝ := ⟨320, 320, []⟩

noncomputable def yardTape : Tape := ⟨[0, 0.5, 0.5, 0, 0, 0.625, 0]⟩

theorem raisePillars_yard : raisePillars Rules.standard 1 0 { yard with pillars := [] } yardTape =
    (none, ⟨320, 320, [⟨⟨160, 160⟩, 25⟩]⟩, ⟨[0, 0, 5 / 8, 0]⟩) := by
  have hspot : findSpot ⟨320, 320, []⟩ [] 25 .pillar 50 maxAttempts
      (⟨[1 / 2, 1 / 2, 0, 0, 5 / 8, 0]⟩ : Tape) = (some ⟨160, 160⟩, ⟨[0, 0, 5 / 8, 0]⟩) :=
    findSpot_of_clear (by norm_num) (by norm_num) (by simp)
  norm_num [raisePillars, Rules.standard, Draws.unit, yard, yardTape] at hspot ⊢
  rw [hspot]

theorem tanks_yard :
    (yard.populate 1 2 Rules.standard yardTape).tanks = .ok [⟨0, 0⟩, ⟨200, 0⟩] := by
  have hfirst : findSpot ⟨320, 320, [⟨⟨160, 160⟩, 25⟩]⟩ [ofPillar ⟨⟨160, 160⟩, 25⟩]
      (Rules.standard : Rules ℝ).tankRadius .tank ((0 : Int) : ℝ) maxAttempts
      (⟨[0, 0, 5 / 8, 0]⟩ : Tape) = (some ⟨0, 0⟩, ⟨[5 / 8, 0]⟩) := by
    apply findSpot_of_clear (by norm_num) (by norm_num)
    norm_num [isClear, ofPillar, ObjectKind.spacing, Rules.standard, Point.distanceSq_eq]
  have hsecond : findSpot ⟨320, 320, [⟨⟨160, 160⟩, 25⟩]⟩
      [⟨⟨0, 0⟩, (Rules.standard : Rules ℝ).tankRadius, .tank⟩, ofPillar ⟨⟨160, 160⟩, 25⟩]
      (Rules.standard : Rules ℝ).tankRadius .tank ((0 : Int) : ℝ) maxAttempts
      (⟨[5 / 8, 0]⟩ : Tape) = (some ⟨200, 0⟩, ⟨[]⟩) := by
    apply findSpot_of_clear (by norm_num) (by norm_num)
    norm_num [isClear, ofPillar, ObjectKind.spacing, Rules.standard, Point.distanceSq_eq]
  simp only [Arena.populate, raisePillars_yard, scatterTanks, List.map_cons, List.map_nil, hfirst,
    hsecond, Except.map]

-- Whatever is drawn, objects that found a spot keep their distance from one another. Only
-- tanks that had to be put on the grid may be nearer to each other, but on different cells.
theorem populate_keeps_distance {G : Type} [Draws ℝ G] {arena : Arena ℝ} {rules : Rules ℝ}
    {pillars tanks : Nat} {source : G} {spots : List (Point ℝ)}
    (h : (arena.populate pillars tanks rules source).tanks = .ok spots) :
    spots.length = tanks ∧
      (arena.populate pillars tanks rules source).arena.pillars.length = pillars ∧
      (arena.populate pillars tanks rules source).arena.pillars.Pairwise (fun p q =>
        p.radius + q.radius + ObjectKind.spacing .pillar .pillar <
          p.position.distance q.position) ∧
      (∀ spot ∈ spots, ∀ pillar ∈ (arena.populate pillars tanks rules source).arena.pillars,
        rules.tankRadius + pillar.radius + ObjectKind.spacing .tank .pillar <
          spot.distance pillar.position) ∧
      (spots.Pairwise (fun p q =>
          2 * rules.tankRadius + ObjectKind.spacing .tank .tank < p.distance q) ∨
        OnGrid rules (arena.populate pillars tanks rules source).arena spots ∧
          spots.Pairwise fun p q => rules.gridSpacing ≤ p.distance q) := by
  obtain ⟨hsettled, -, -⟩ := settled_populate h
  refine ⟨hsettled.tanks, hsettled.pillars, ?_, ?_, ?_⟩
  · refine hsettled.pillarsClear.imp fun {p q} hclear => ?_
    rw [Point.distance_comm, add_comm p.radius]
    exact lt_distance_of_isClear hclear
  · exact fun spot hspot pillar hpillar =>
      lt_distance_of_isClear (hsettled.tanksClear spot hspot pillar hpillar)
  · rcases hsettled.apart with hscattered | hgrid
    · refine .inl (hscattered.imp fun {p q} hclear => ?_)
      rw [Point.distance_comm, two_mul]
      exact lt_distance_of_isClear hclear
    · refine .inr ⟨hgrid, ?_⟩
      obtain ⟨taken, hnodup, -, rfl⟩ := hgrid
      exact List.Pairwise.map _ (fun _ _ hne => gridSpacing_le_distance rules hne) hnodup

theorem populate_keeps_distance_yard :
    (yard.populate 1 2 Rules.standard yardTape).tanks = .ok [⟨0, 0⟩, ⟨200, 0⟩] ∧
      (yard.populate 1 2 Rules.standard yardTape).arena.pillars.length = 1 ∧
      ∀ pillar ∈ (yard.populate 1 2 Rules.standard yardTape).arena.pillars,
        (Rules.standard : Rules ℝ).tankRadius + pillar.radius + 10 <
          (⟨200, 0⟩ : Point ℝ).distance pillar.position := by
  have hkept := populate_keeps_distance tanks_yard
  exact ⟨tanks_yard, hkept.2.1, hkept.2.2.2.1 ⟨200, 0⟩ (by simp)⟩

end Placement

end Skirmish
