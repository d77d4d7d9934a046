import Skirmish.Proofs.Arena.Roomy
import Skirmish.Proofs.Tank.Contact
import Skirmish.Proofs.Tank.Tangency

namespace Skirmish.Tank

section Stop

variable {R : Type} [Scalar R]

-- Where a tank sees a pillar, the short way round.
def seen (arena : Arena R) (tank : Tank R) (pillar : Pillar R) : Point R :=
  tank.position + arena.displacement tank.position pillar.position

-- Where a tank stops at a circle that its move leads into.
def touch (tank : Tank R) (center : Point R) (reach : R) : Point R :=
  if tank.speed.left == tank.speed.right then straightContact tank.position tank.heading center reach
  else tank.arcContact center reach

-- Where a pillar stops a tank: on the spot if it has held up the last move, too.
def stop (arena : Arena R) (tankRadius : R) (tank : Tank R) (pillar : Pillar R) (k : Nat) : Point R :=
  if tank.blockedBy = some k then tank.position
  else tank.touch (tank.seen arena pillar) (pillar.radius + tankRadius)

variable {arena : Arena R} {tankRadius : R} (tank : Tank R)

-- Where a pillar stops a move does not depend on what others have made of it. Whether it does, may.
theorem contact?_eq (next : Point R) (blockedBy : Option Nat) (pillar : Pillar R) (k : Nat) :
    contact? arena tankRadius tank.blockedBy { tank with next, blockedBy } pillar k =
      if (pillar.radius + tankRadius) * (pillar.radius + tankRadius) <
          (tank.position + arena.displacement tank.position next).distanceSq (tank.seen arena pillar)
        then none else some (tank.stop arena tankRadius pillar k) := by
  unfold contact? stop touch seen
  dsimp only
  split_ifs <;> rfl

theorem stopAt_cases (next : Point R) (blockedBy : Option Nat) (pillar : Pillar R) (k : Nat) :
    stopAt arena tankRadius tank.blockedBy { tank with next, blockedBy } (pillar, k) =
        { tank with next, blockedBy } ∨
      stopAt arena tankRadius tank.blockedBy { tank with next, blockedBy } (pillar, k) =
        { tank with
          next := arena.wrap (tank.stop arena tankRadius pillar k)
          blockedBy := some k } := by
  unfold stopAt
  rw [contact?_eq]
  split_ifs
  · exact .inl rfl
  · exact .inr rfl

theorem exists_foldl_stopAt {pillars : List (Pillar R × Nat)}
    (hpillars : ∀ pillar ∈ pillars, arena.pillars[pillar.2]? = some pillar.1) {next : Point R}
    {blockedBy : Option Nat}
    (hstart : ∀ k, blockedBy = some k → ∃ pillar, arena.pillars[k]? = some pillar ∧
      next = arena.wrap (tank.stop arena tankRadius pillar k)) :
    ∀ k, (pillars.foldl (stopAt arena tankRadius tank.blockedBy)
        { tank with next, blockedBy }).blockedBy = some k →
      ∃ pillar, arena.pillars[k]? = some pillar ∧
        (pillars.foldl (stopAt arena tankRadius tank.blockedBy)
          { tank with next, blockedBy }).next =
            arena.wrap (tank.stop arena tankRadius pillar k) := by
  induction pillars generalizing next blockedBy with
  | nil => exact hstart
  | cons entry pillars ih =>
      obtain ⟨pillar, k⟩ := entry
      rw [List.forall_mem_cons] at hpillars
      rw [List.foldl_cons]
      rcases tank.stopAt_cases next blockedBy pillar k with hpassed | hstopped
      · rw [hpassed]
        exact ih hpillars.2 hstart
      · rw [hstopped]
        refine ih hpillars.2 fun j hj => ?_
        obtain rfl := Option.some.inj hj
        exact ⟨pillar, hpillars.1, rfl⟩

-- The pillar that is said to have stopped a tank decided where it goes.
theorem exists_of_blockedBy {k : Nat}
    (h : (tank.clampToPillars arena tankRadius).blockedBy = some k) :
    ∃ pillar, arena.pillars[k]? = some pillar ∧
      (tank.clampToPillars arena tankRadius).next =
        arena.wrap (tank.stop arena tankRadius pillar k) :=
  exists_foldl_stopAt tank (fun _ => List.mem_zipIdx_iff_getElem?.mp)
    (fun _ hnone => absurd hnone.symm (Option.some_ne_none _)) k h

end Stop

section Outside

theorem le_distanceSq_verticalContact (origin center : Point ℝ) (reach : ℝ) :
    reach * reach ≤ (verticalContact origin center reach).distanceSq center := by
  have hsq := Real.mul_self_sqrt
    (le_max_right (reach * reach - (origin.x - center.x) * (origin.x - center.x)) 0)
  have hspace := le_max_left (reach * reach - (origin.x - center.x) * (origin.x - center.x)) 0
  have hroot : ∀ x : ℝ, Scalar.sqrt x = √x := fun _ => rfl
  unfold verticalContact
  simp only [Reals.greatest_eq, hroot, Int.cast_zero, Point.distanceSq_eq]
  split_ifs
  · linarith
  · linarith

-- A line that misses the circle is least far away where its polynomial is least.
theorem le_distanceSq_slopedContact (m : ℝ) (origin center : Point ℝ) (reach : ℝ) :
    reach * reach ≤ (slopedContact m origin center reach).distanceSq center := by
  obtain ⟨a, b, d, ha, hline, hcontact⟩ := exists_quadratic m origin center reach
  have hsq := Real.mul_self_sqrt (le_max_right (b * b - 4 * a * d) 0)
  have hspace := le_max_left (b * b - 4 * a * d) 0
  rw [← hsq] at hspace
  dsimp only at hcontact
  rw [← sub_nonneg, hcontact, hline]
  generalize √(max (b * b - 4 * a * d) 0) = root at hspace ⊢
  have hvalue : ∀ r, r * r = root * root →
      0 ≤ a * ((-b + r) / (2 * a)) ^ 2 + b * ((-b + r) / (2 * a)) + d := by
    intro r hr
    have hvalue : a * ((-b + r) / (2 * a)) ^ 2 + b * ((-b + r) / (2 * a)) + d =
        (r * r - (b * b - 4 * a * d)) / (4 * a) := by
      field_simp
      ring
    rw [hvalue, hr]
    exact div_nonneg (sub_nonneg.mpr hspace) (by linarith)
  split_ifs
  · exact hvalue root rfl
  · exact hvalue (-root) (neg_mul_neg root root)

theorem le_distance_straightContact (start : Point ℝ) (heading : ℝ) (center : Point ℝ) {reach : ℝ}
    (hreach : 0 ≤ reach) : reach ≤ (straightContact start heading center reach).distance center := by
  rw [Point.le_distance_iff hreach]
  unfold straightContact
  dsimp only
  split_ifs
  · exact le_distanceSq_verticalContact start center reach
  · exact le_distanceSq_slopedContact _ start center reach

variable {tank : Tank ℝ} {center : Point ℝ} {reach : ℝ}

-- Whether the circle that a tank turns on lies wholly within reach of a center, so that nothing on
-- it is in touch.
structure Engulfed (tank : Tank ℝ) (center : Point ℝ) (reach : ℝ) : Prop where
  turns : tank.speed.left ≠ tank.speed.right
  within : center.distance tank.pivot + |tank.turnRadius| < reach

theorem Engulfed.distance_lt (h : tank.Engulfed center reach) {p : Point ℝ}
    (hp : p.distance tank.pivot = |tank.turnRadius|) : p.distance center < reach := by
  have hway := p.distance_triangle tank.pivot center
  rw [hp, Point.distance_comm tank.pivot, add_comm] at hway
  exact hway.trans_lt h.within

-- What the law of cosines leaves of a contact within reach, where it gives the cosine `c` and the
-- contact has `k`.
theorem add_abs_lt {far radius reach c k : ℝ} (hfar : 0 ≤ far) (hreach : 0 ≤ reach)
    (hc : c = (far ^ 2 + radius ^ 2 - reach ^ 2) / (2 * far * radius))
    (hk : |c| ≤ 1 ∧ k = c ∨ 1 < |c| ∧ k = 1)
    (hnear : radius ^ 2 + far ^ 2 - 2 * radius * far * k < reach * reach) :
    far + |radius| < reach := by
  have hsq : far ^ 2 + radius ^ 2 + 2 * (far * |radius|) < reach ^ 2 := by
    rcases eq_or_ne (far * radius) 0 with hzero | hne
    · have hzero' : far * |radius| = 0 := by
        rw [← abs_of_nonneg hfar, ← abs_mul, hzero, abs_zero]
      have hlost : 2 * radius * far * k = 2 * (far * radius) * k := by ring
      rw [hzero', pow_two reach]
      rw [hlost, hzero] at hnear
      linarith
    · have hnum : c * (2 * far * radius) = far ^ 2 + radius ^ 2 - reach ^ 2 := by
        rw [hc, mul_assoc, div_mul_cancel₀ _ (mul_ne_zero two_ne_zero hne)]
      rcases hk with ⟨-, rfl⟩ | ⟨hmisses, rfl⟩
      · linarith
      · have hwide : 2 * (far * |radius|) < |far ^ 2 + radius ^ 2 - reach ^ 2| := by
          have hpos : 0 < 2 * (far * |radius|) := by
            rw [← abs_of_nonneg hfar, ← abs_mul]
            positivity
          rw [← hnum, abs_mul, mul_assoc 2, abs_mul, abs_mul, abs_of_nonneg hfar, abs_two]
          exact lt_mul_of_one_lt_left hpos hmisses
        have hside : far * radius ≤ far * |radius| := by
          gcongr
          exact le_abs_self radius
        rcases lt_abs.mp hwide with hout | hin
        · linarith
        · linarith
  refine lt_of_pow_lt_pow_left₀ 2 hreach ?_
  rw [add_sq, sq_abs]
  linarith

-- The contact of a turn is not within reach unless all of the turning circle is.
theorem within_of_arcContact (hreach : 0 ≤ reach)
    (hnear : (tank.arcContact center reach).distance center < reach) :
    center.distance tank.pivot + |tank.turnRadius| < reach := by
  rw [← not_le, Point.le_distance_iff hreach, not_le, arcContact_eq,
    Point.distanceSq_polar_of_arg] at hnear
  exact add_abs_lt (Real.sqrt_nonneg _) hreach rfl cos_contactBearing hnear

-- A tank stops within reach of a center only if it turns within reach of it.
theorem engulfed_of_touch (hreach : 0 ≤ reach)
    (hnear : (tank.touch center reach).distance center < reach) : tank.Engulfed center reach := by
  unfold touch at hnear
  split_ifs at hnear with hstraight
  · exact absurd hnear (not_lt.mpr (le_distance_straightContact _ _ _ hreach))
  · exact ⟨by simpa using hstraight, within_of_arcContact hreach hnear⟩

end Outside

end Skirmish.Tank
