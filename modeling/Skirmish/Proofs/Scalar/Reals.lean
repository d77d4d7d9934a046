import Mathlib.Analysis.SpecialFunctions.Complex.Arg
import Mathlib.Analysis.SpecialFunctions.Trigonometric.Inverse
import Mathlib.Data.Int.Log
import Skirmish.Proofs.Scalar.Monotone

namespace Skirmish

-- The part before the point.
noncomputable def Reals.truncate (x : ℝ) : ℤ := if 0 ≤ x then ⌊x⌋ else ⌈x⌉

-- Exact arithmetic. Division by zero, which has no value, gives zero.
noncomputable instance : Scalar ℝ where
  decidableLT := inferInstance
  decidableLE := inferInstance
  beq x y := decide (x = y)
  isNaN _ := false
  isFinite _ := true
  abs x := |x|
  sqrt := Real.sqrt
  floor x := ⌊x⌋
  round x := if 0 ≤ x then ⌊x + 1 / 2⌋ else ⌈x - 1 / 2⌉
  truncate := Reals.truncate
  remainder x y := x - y * Reals.truncate (x / y)
  pi := Real.pi
  sin := Real.sin
  cos := Real.cos
  tan := Real.tan
  atan2 y x := Complex.arg ⟨x, y⟩
  acos? x := if -1 ≤ x ∧ x ≤ 1 then some (Real.arccos x) else none
  decimalExponent x := Int.log 10 |x|

namespace Reals

variable (x y : ℝ)

@[simp] theorem beq_eq : (x == y) = decide (x = y) := rfl

@[simp] theorem isNaN_eq : Scalar.isNaN x = false := rfl

@[simp] theorem isFinite_eq : Scalar.isFinite x = true := rfl

@[simp] theorem abs_eq : Scalar.abs x = |x| := rfl

@[simp] theorem floor_eq : Scalar.floor x = ⌊x⌋ := rfl

@[simp] theorem truncate_eq : Scalar.truncate x = truncate x := rfl

@[simp] theorem remainder_eq : Scalar.remainder x y = x - y * truncate (x / y) := rfl

@[simp] theorem pi_eq : (Scalar.pi : ℝ) = Real.pi := rfl

@[simp] theorem sin_eq : Scalar.sin x = Real.sin x := rfl

@[simp] theorem cos_eq : Scalar.cos x = Real.cos x := rfl

@[simp] theorem tan_eq : Scalar.tan x = Real.tan x := rfl

theorem least_eq : Scalar.least x y = min x y := by
  unfold Scalar.least
  rcases lt_or_ge x y with hlt | hge
  · simp [hlt, hlt.le]
  · simp [not_lt.mpr hge, hge]

theorem greatest_eq : Scalar.greatest x y = max x y := by
  unfold Scalar.greatest
  rcases lt_or_ge y x with hlt | hge
  · simp [hlt, hlt.le]
  · simp [not_lt.mpr hge, hge]

theorem truncate_of_nonneg {x : ℝ} (hx : 0 ≤ x) : truncate x = ⌊x⌋ := if_pos hx

theorem truncate_intCast (n : ℤ) : truncate n = n := by
  unfold truncate
  split_ifs
  · exact Int.floor_intCast n
  · exact Int.ceil_intCast n

end Reals

instance : MonotoneScalar ℝ where
  le_self _ := le_rfl
  le_of_lt := le_of_lt
  le_trans _ := le_trans
  lt_of_le_of_lt _ := lt_of_le_of_lt
  not_le_of_lt _ := not_le_of_gt
  isNaN_of_nonneg _ := rfl
  le_add _ hb := le_add_of_nonneg_right (by simpa using hb)
  add_le_add_right _ hab _ := by gcongr
  mul_self_nonneg {a} _ := by simpa using mul_self_nonneg a
  mul_self_le_mul_self ha hab := mul_self_le_mul_self (by simpa using ha) hab
  neg_mul_neg_self a := neg_mul_neg a a
  two_mul_nonneg ha := by simpa using ha
  two_mul_le _ := by simp [two_mul]
  natCast_nonneg _ := by simp

end Skirmish
