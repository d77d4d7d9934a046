import Skirmish.Arena
import Skirmish.Proofs.Scalar.Reals

namespace Skirmish.Arena

-- Whether the way back is the way there, the other way round.
def Reversible {R : Type} [Scalar R] (arena : Arena R) : Prop :=
  ∀ p q, arena.displacement q p = -arena.displacement p q

theorem shortWay_neg {size : ℝ} (hsize : 0 ≤ size) (delta : ℝ) :
    shortWay size (-delta) = -shortWay size delta := by
  simp only [shortWay, Int.cast_ofNat]
  split_ifs <;> linarith

-- In exact arithmetic ways can be reversed.
theorem reversible_of_nonneg {arena : Arena ℝ} (hwidth : 0 ≤ arena.width)
    (hheight : 0 ≤ arena.height) : arena.Reversible := by
  intro p q
  have hx := shortWay_neg hwidth (q.x - p.x)
  have hy := shortWay_neg hheight (q.y - p.y)
  rw [neg_sub] at hx hy
  simp only [displacement, hx, hy]
  rfl

end Skirmish.Arena
