import Skirmish.Proofs.Scalar.Reals
import Skirmish.Random

namespace Skirmish

-- A source that draws numbers in [0, 1), as it should.
class SoundDraws (R : outParam Type) (G : Type) [Scalar R] [Draws R G] : Prop where
  unit_nonneg (g : G) : ((0 : Int) : R) ≤ (Draws.unit g).1
  unit_lt_one (g : G) : (Draws.unit g).1 < ((1 : Int) : R)

namespace SoundDraws

variable {G : Type} [Draws ℝ G] [SoundDraws ℝ G]

theorem unit_mem (g : G) : (Draws.unit g).1 ∈ Set.Ico (0 : ℝ) 1 := by
  have hnonneg := unit_nonneg g
  have hlt := unit_lt_one g
  rw [Int.cast_zero] at hnonneg
  rw [Int.cast_one] at hlt
  exact ⟨hnonneg, hlt⟩

theorem floor_mul_nonneg (g : G) {span : ℝ} (hspan : 0 ≤ span) :
    (0 : ℝ) ≤ ⌊(Draws.unit g).1 * span⌋ :=
  Int.cast_nonneg (Int.floor_nonneg.mpr (mul_nonneg (unit_mem g).1 hspan))

theorem floor_mul_le (g : G) {span : ℝ} (hspan : 0 ≤ span) :
    (⌊(Draws.unit g).1 * span⌋ : ℝ) ≤ span :=
  (Int.floor_le _).trans (mul_le_of_le_one_left hspan (unit_mem g).2.le)

theorem floor_mul_lt (g : G) {span : ℝ} (hspan : 0 < span) :
    (⌊(Draws.unit g).1 * span⌋ : ℝ) < span :=
  lt_of_le_of_lt (Int.floor_le _) (mul_lt_of_lt_one_left hspan (unit_mem g).2)

end SoundDraws

-- A source that only ever draws one half.
inductive Halves where
  | halves

noncomputable instance : Draws ℝ Halves where
  unit g := (((1 : Int) : ℝ) / ((2 : Int) : ℝ), g)
  below _ g := (0, g)

instance : SoundDraws ℝ Halves where
  unit_nonneg _ := by norm_num [Draws.unit]
  unit_lt_one _ := by norm_num [Draws.unit]

end Skirmish
