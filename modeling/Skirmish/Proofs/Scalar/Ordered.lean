import Skirmish.Geometry.Angle
import Skirmish.Proofs.Scalar.Reals

namespace Skirmish

-- More laws that rounding leaves in force, about numbers of either sign. Only numbers that are
-- finite can be compared with one another whatever they are.
class OrderedScalar (R : Type) [Scalar R] : Prop extends MonotoneScalar R where
  refl {a : R} (h : Scalar.isFinite a = true) : a ≤ a
  trans {a b c : R} (h : a ≤ b) (h' : b ≤ c) : a ≤ c
  le_of_not_lt {a b : R} (ha : Scalar.isFinite a = true) (hb : Scalar.isFinite b = true)
    (h : ¬ a < b) : b ≤ a
  isFinite_of_le {a b c : R} (ha : Scalar.isFinite a = true) (hc : Scalar.isFinite c = true)
    (h : a ≤ b) (h' : b ≤ c) : Scalar.isFinite b = true
  isNaN_of_isFinite {a : R} (h : Scalar.isFinite a = true) : Scalar.isNaN a = false
  isFinite_natCast {n : Nat} (hn : n < 2 ^ 53) : Scalar.isFinite ((n : Int) : R) = true
  isFinite_neg {a : R} (h : Scalar.isFinite a = true) : Scalar.isFinite (-a) = true
  neg_nonpos {a : R} (h : ((0 : Int) : R) ≤ a) : -a ≤ ((0 : Int) : R)
  le_add_right {a b : R} (ha : Scalar.isFinite a = true) (hb : Scalar.isFinite b = true)
    (h : ((0 : Int) : R) ≤ b) : a ≤ a + b
  sub_le {a b : R} (ha : Scalar.isFinite a = true) (hb : Scalar.isFinite b = true)
    (h : ((0 : Int) : R) ≤ b) : a - b ≤ a
  isFinite_ofDegrees {d : R} (h : Scalar.isFinite d = true) :
    Scalar.isFinite (Angle.ofDegrees d) = true

instance : OrderedScalar ℝ where
  refl _ := le_rfl
  trans := le_trans
  le_of_not_lt _ _ := le_of_not_gt
  isFinite_of_le _ _ _ _ := rfl
  isNaN_of_isFinite _ := rfl
  isFinite_natCast _ := rfl
  isFinite_neg _ := rfl
  neg_nonpos h := by simpa using h
  le_add_right _ _ h := le_add_of_nonneg_right (by simpa using h)
  sub_le _ _ h := sub_le_self _ (by simpa using h)
  isFinite_ofDegrees _ := rfl

end Skirmish
