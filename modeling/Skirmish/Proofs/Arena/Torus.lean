import Mathlib.Algebra.Order.ToIntervalMod
import Skirmish.Proofs.Arena.Around
import Skirmish.Proofs.Arena.Displacement
import Skirmish.Proofs.Sight.Glimpses

namespace Skirmish

-- In exact arithmetic the remainder that is not negative is that of the mathematicians: the one
-- number from zero to the modulus that differs by a multiple of it.
theorem Reals.modulo_eq (x : ℝ) {m : ℝ} (hm : 0 < m) : Scalar.modulo x m = toIcoMod hm 0 x := by
  obtain ⟨k, hk⟩ := exists_modulo x hm
  refine ((toIcoMod_eq_iff hm).mpr ⟨by simpa using modulo_mem x hm, -k, ?_⟩).symm
  rw [hk, neg_smul, zsmul_eq_mul, add_neg_cancel_right]

theorem Reals.modulo_add_mul (x : ℝ) (k : ℤ) {m : ℝ} (hm : 0 < m) :
    Scalar.modulo (x + k * m) m = Scalar.modulo x m := by
  rw [modulo_eq _ hm, modulo_eq _ hm, ← zsmul_eq_mul, toIcoMod_add_zsmul]

namespace Arena

variable {arena : Arena ℝ} {p q : Point ℝ}

theorem Same.wrap_eq (hwidth : 0 < arena.width) (hheight : 0 < arena.height) (h : arena.Same p q) :
    arena.wrap q = arena.wrap p := by
  obtain ⟨i, j, rfl⟩ := h
  exact congrArg₂ Point.mk (Reals.modulo_add_mul p.x i hwidth) (Reals.modulo_add_mul p.y j hheight)

-- Whether two points agree about the way between them: it is no longer than half the field on
-- either axis, no way is shorter, it ends where the other point is, and it is the way back as well.
structure Agreed (arena : Arena ℝ) (p q : Point ℝ) : Prop extends arena.Shortest p q where
  x_le : |(arena.displacement p q).x| ≤ arena.width / 2
  y_le : |(arena.displacement p q).y| ≤ arena.height / 2
  ends : arena.wrap (p + arena.displacement p q) = arena.wrap q
  back : arena.displacement q p = -arena.displacement p q
  back_lengthSq : (arena.displacement q p).lengthSq = (arena.displacement p q).lengthSq

theorem Encloses.agreed (hwidth : 0 < arena.width) (hheight : 0 < arena.height)
    (hp : arena.Encloses p) (hq : arena.Encloses q) : arena.Agreed p q := by
  obtain ⟨hx, hy⟩ := abs_displacement_le hp hq
  have hback := reversible_of_nonneg hwidth.le hheight.le p q
  exact {
    hp.shortest hq with
    x_le := hx
    y_le := hy
    ends := (same_add_displacement p q).wrap_eq hwidth hheight
    back := hback
    back_lengthSq := by rw [hback, MonotoneScalar.lengthSq_neg] }

end Arena

section Pairs

variable (arena : Arena ℝ) (rules : Rules ℝ) (this that : Tank ℝ)

-- A tank looks for another one along the way that it measures itself.
noncomputable def Tank.lookFor : Tank ℝ → Tank ℝ :=
  let offset := arena.displacement this.position that.position
  Tank.sense rules offset offset.lengthSq rules.tankRadius .tank

-- A tank engages another one along the way that it measures itself.
noncomputable def Tank.face : Engagement × Tank ℝ × Tank ℝ :=
  let offset := arena.displacement this.position that.position
  Combat.engage rules this that offset offset.lengthSq

-- What an engagement has left of two tanks, unless nothing came of it.
def Combat.left {R : Type} : Engagement × Tank R × Tank R → Option (Tank R × Tank R)
  | (.nothing, _, _) => none
  | (_, this, that) => some (this, that)

variable {arena rules this that}

theorem Arena.Agreed.see_eq (h : arena.Agreed this.position that.position) {tanks : List (Tank ℝ)}
    {i j : Nat} (hi : tanks[i]? = some this) (hj : tanks[j]? = some that)
    (hthis : this.isCrater = false) (hthat : that.isCrater = false) :
    Sweep.see arena rules tanks (.tanks i j) =
      (tanks.modify i (this.lookFor arena rules that)).modify j (that.lookFor arena rules this) := by
  rw [Sweep.see_tanks arena rules hi hj hthis hthat rfl, Tank.lookFor, Tank.lookFor,
    h.back_lengthSq, h.back]

theorem Arena.Agreed.clash_eq (h : arena.Agreed this.position that.position) :
    Combat.clash arena rules this that =
      (Combat.left (this.face arena rules that)).or
        ((Combat.left (that.face arena rules this)).map Prod.swap) := by
  unfold Combat.clash Tank.face
  dsimp only
  rw [h.back_lengthSq, h.back]
  generalize Combat.engage rules this that _ _ = first
  generalize Combat.engage rules that this _ _ = second
  obtain ⟨outcome, _, _⟩ := first
  obtain ⟨outcome', _, _⟩ := second
  cases outcome <;> cases outcome' <;> rfl

end Pairs

namespace Arena

-- Displacements are shortest ways over the edges. Two points of the field agree about them, so
-- that a sweep or a fight measures the way between two tanks once for both.
theorem displacements_agree {arena : Arena ℝ} (hwidth : 0 < arena.width) (hheight : 0 < arena.height)
    {p q : Point ℝ} (hp : arena.Encloses p) (hq : arena.Encloses q) :
    arena.Agreed p q ∧
    ∀ (rules : Rules ℝ) (this that : Tank ℝ), this.position = p → that.position = q →
      (∀ (tanks : List (Tank ℝ)) (i j : Nat), tanks[i]? = some this → tanks[j]? = some that →
        this.isCrater = false → that.isCrater = false →
        Sweep.see arena rules tanks (.tanks i j) =
          (tanks.modify i (this.lookFor arena rules that)).modify j
            (that.lookFor arena rules this)) ∧
      Combat.clash arena rules this that =
        (Combat.left (this.face arena rules that)).or
          ((Combat.left (that.face arena rules this)).map Prod.swap) := by
  have hagreed := hp.agreed hwidth hheight hq
  refine ⟨hagreed, ?_⟩
  rintro rules this that rfl rfl
  exact ⟨fun tanks i j hi hj hthis hthat => hagreed.see_eq hi hj hthis hthat, hagreed.clash_eq⟩

-- Exactly half a field apart, there are two shortest ways on an axis; of those to and fro, one is
-- the other reversed.
theorem displacements_agree_half :
    (⟨400, 300, []⟩ : Arena ℝ).Agreed ⟨0, 10⟩ ⟨200, 300⟩ ∧
      (⟨400, 300, []⟩ : Arena ℝ).displacement ⟨0, 10⟩ ⟨200, 300⟩ = ⟨200, -10⟩ := by
  have hp : (⟨400, 300, []⟩ : Arena ℝ).Encloses ⟨0, 10⟩ := ⟨by norm_num, by norm_num⟩
  have hq : (⟨400, 300, []⟩ : Arena ℝ).Encloses ⟨200, 300⟩ := ⟨by norm_num, by norm_num⟩
  refine ⟨(displacements_agree (by norm_num) (by norm_num) hp hq).1, ?_⟩
  norm_num [displacement, shortWay]

end Arena

end Skirmish
