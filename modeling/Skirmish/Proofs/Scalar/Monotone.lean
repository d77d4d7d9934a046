import Mathlib.Algebra.Group.Nat.Defs
import Mathlib.Tactic.SplitIfs
import Skirmish.Tank.Sensor

namespace Skirmish

-- Laws that hold of doubles as well as in exact arithmetic, since rounding keeps numbers
-- in order. They are about numbers that are not negative, among which is no value that
-- cannot be compared.
class MonotoneScalar (R : Type) [Scalar R] : Prop where
  le_self {a : R} (ha : ((0 : Int) : R) ≤ a) : a ≤ a
  le_of_lt {a b : R} (h : a < b) : a ≤ b
  le_trans {a b c : R} (ha : ((0 : Int) : R) ≤ a) (h : a ≤ b) (h' : b ≤ c) : a ≤ c
  lt_of_le_of_lt {a b c : R} (ha : ((0 : Int) : R) ≤ a) (h : a ≤ b) (h' : b < c) : a < c
  not_le_of_lt {a b : R} (ha : ((0 : Int) : R) ≤ a) (h : a < b) : ¬ b ≤ a
  isNaN_of_nonneg {a : R} (ha : ((0 : Int) : R) ≤ a) : Scalar.isNaN a = false
  le_add {a b : R} (ha : ((0 : Int) : R) ≤ a) (hb : ((0 : Int) : R) ≤ b) : a ≤ a + b
  add_le_add_right {a b c : R} (ha : ((0 : Int) : R) ≤ a) (hab : a ≤ b)
    (hc : ((0 : Int) : R) ≤ c) : a + c ≤ b + c
  mul_self_nonneg {a : R} (ha : ((0 : Int) : R) ≤ a) : ((0 : Int) : R) ≤ a * a
  mul_self_le_mul_self {a b : R} (ha : ((0 : Int) : R) ≤ a) (hab : a ≤ b) : a * a ≤ b * b
  neg_mul_neg_self (a : R) : -a * -a = a * a
  two_mul_nonneg {a : R} (ha : ((0 : Int) : R) ≤ a) : ((0 : Int) : R) ≤ ((2 : Int) : R) * a
  two_mul_le {a : R} (ha : ((0 : Int) : R) ≤ a) : ((2 : Int) : R) * a ≤ a + a
  natCast_nonneg {n : Nat} (hn : n < 2 ^ 53) : ((0 : Int) : R) ≤ ((n : Int) : R)

namespace MonotoneScalar

variable {R : Type} [Scalar R] [MonotoneScalar R]

theorem zero_le_zero : ((0 : Int) : R) ≤ ((0 : Int) : R) := natCast_nonneg (by decide)

theorem add_nonneg {a b : R} (ha : ((0 : Int) : R) ≤ a) (hb : ((0 : Int) : R) ≤ b) :
    ((0 : Int) : R) ≤ a + b :=
  le_trans zero_le_zero ha (le_add ha hb)

omit [MonotoneScalar R] in
theorem least_nonneg {a b : R} (ha : ((0 : Int) : R) ≤ a) (hb : ((0 : Int) : R) ≤ b) :
    ((0 : Int) : R) ≤ Scalar.least a b := by
  unfold Scalar.least
  split_ifs
  · exact hb
  · exact ha
  · exact ha
  · exact hb

theorem least_le_right {a b : R} (hb : ((0 : Int) : R) ≤ b) : Scalar.least a b ≤ b := by
  have hself := le_self hb
  unfold Scalar.least
  split_ifs with _ hnan hlt
  · exact hself
  · rw [isNaN_of_nonneg hb] at hnan
    contradiction
  · exact le_of_lt hlt
  · exact hself

-- What is out of a range is out of every shorter one.
theorem reaches_of_le {range range' radius distanceSq : R} (hrange : ((0 : Int) : R) ≤ range)
    (hradius : ((0 : Int) : R) ≤ radius) (hle : range ≤ range')
    (h : Sensor.reaches range radius distanceSq = true) :
    Sensor.reaches range' radius distanceSq = true := by
  have hsum := add_le_add_right hrange hle hradius
  have hsquare := mul_self_le_mul_self (add_nonneg hrange hradius) hsum
  simp only [Sensor.reaches, Bool.not_eq_true', decide_eq_false_iff_not] at h ⊢
  exact fun hfar => h (lt_of_le_of_lt (mul_self_nonneg (add_nonneg hrange hradius)) hsquare hfar)

theorem lengthSq_neg (p : Point R) : (-p).lengthSq = p.lengthSq := by
  change -p.x * -p.x + -p.y * -p.y = p.x * p.x + p.y * p.y
  rw [neg_mul_neg_self, neg_mul_neg_self]

end MonotoneScalar

end Skirmish
