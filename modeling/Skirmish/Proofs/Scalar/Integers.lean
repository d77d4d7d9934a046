import Skirmish.Proofs.Scalar.Packing

namespace Skirmish.Binary64

open Float.Model (UnpackedFloat totalExponent)
open Float.Model.Format (binary64)
open Float.Model.UnpackedFloat

-- How far the highest bit of a number is from the place where doubles have it.
def room (n : Nat) : Nat := 52 - n.log2

-- A natural number with a sign, as doubles have it.
def natural (sign : Sign) (n : Nat) : UnpackedFloat :=
  if h : 0 < n then .finite sign (n * 2 ^ room n) (-(room n : Int)) (by positivity) else .zero sign

theorem natural_of_pos (sign : Sign) {n : Nat} (h : 0 < n) :
    natural sign n = .finite sign (n * 2 ^ room n) (-(room n : Int)) (by positivity) := dif_pos h

theorem log2_le_of_short {n : Nat} (hpos : 0 < n) (hshort : n < 2 ^ 53) : n.log2 ≤ 52 := by
  have hlog := Nat.log2_lt (k := 53) hpos.ne'
  omega

theorem log2_mul_two_pow {n : Nat} (hpos : 0 < n) (a : Nat) : (n * 2 ^ a).log2 = n.log2 + a := by
  induction a with
  | zero => simp
  | succ a ih =>
      have hne : n * 2 ^ a ≠ 0 := by positivity
      rw [pow_succ', Nat.mul_left_comm, Nat.log2_two_mul hne, ih, Nat.add_assoc]

theorem fitting_natural (sign : Sign) {n : Nat} (hshort : n < 2 ^ 53) :
    Fitting (natural sign n) := by
  by_cases hpos : 0 < n
  · rw [natural_of_pos sign hpos]
    have hlog := log2_le_of_short hpos hshort
    have hsplit : n.log2 + room n = 52 := by unfold room; omega
    constructor
    · calc n * 2 ^ room n < 2 ^ (n.log2 + 1) * 2 ^ room n :=
            Nat.mul_lt_mul_of_pos_right Nat.lt_log2_self (by positivity)
        _ = 2 ^ 53 := by rw [← pow_add, Nat.add_right_comm, hsplit]
    · left
      calc 2 ^ 52 = 2 ^ n.log2 * 2 ^ room n := by rw [← pow_add, hsplit]
        _ ≤ n * 2 ^ room n := Nat.mul_le_mul_right _ (Nat.log2_self_le hpos.ne')
    · unfold room
      omega
    · omega
  · rw [natural, dif_neg hpos]
    trivial

-- Shifting out zeros loses nothing.
theorem repeat_shiftRightOne (m k : Nat) :
    Nat.repeat ExtendedMantissa.shiftRightOne k ⟨m * 2 ^ k, false, false⟩ = ⟨m, false, false⟩ := by
  induction k generalizing m with
  | zero => simp [Nat.repeat]
  | succ k ih =>
      have hdouble : m * 2 ^ (k + 1) = 2 * m * 2 ^ k := by ring
      rw [Nat.repeat, hdouble, ih]
      simp [ExtendedMantissa.shiftRightOne]

theorem targetExponent_mul {n : Nat} (hpos : 0 < n) (hshort : n < 2 ^ 53) (a : Nat) :
    binary64.targetExponent (totalExponent (n * 2 ^ a) (-(a : Int))) = -(room n : Int) := by
  have hlog := log2_le_of_short hpos hshort
  unfold Float.Model.Format.targetExponent totalExponent
  rw [log2_mul_two_pow hpos]
  change max (((n.log2 + a : Nat) : Int) + 1 + -(a : Int) - 53) (-1074) = _
  unfold room
  omega

theorem shiftToTargetExponent_mul {n : Nat} (hpos : 0 < n) (hshort : n < 2 ^ 53) {a : Nat}
    (ha : room n ≤ a) :
    shiftToTargetExponent binary64 (n * 2 ^ a) (-(a : Int)) .exact =
      (⟨n * 2 ^ room n, false, false⟩, -(room n : Int)) := by
  obtain ⟨b, rfl⟩ := Nat.exists_eq_add_of_le ha
  have hshift : (-(room n : Int) - -((room n + b : Nat) : Int)).toNat = b := by omega
  have hexponent : -((room n + b : Nat) : Int) + (b : Nat) = -(room n : Int) := by omega
  unfold shiftToTargetExponent shiftToExponent
  simp only [targetExponent_mul hpos hshort, hshift, hexponent]
  rw [pow_add, ← Nat.mul_assoc]
  exact congrArg (·, -(room n : Int)) (repeat_shiftRightOne (n * 2 ^ room n) b)

-- Rounding leaves integers as they are, in the form that doubles have for them.
theorem roundWithAccuracy_mul (sign : Sign) {n : Nat} (hpos : 0 < n) (hshort : n < 2 ^ 53) {a : Nat}
    (ha : room n ≤ a) :
    roundWithAccuracy binary64 sign (n * 2 ^ a) (-(a : Int)) .exact = natural sign n := by
  have hfirst := shiftToTargetExponent_mul hpos hshort ha
  have hrounded : (⟨n * 2 ^ room n, false, false⟩ : ExtendedMantissa).roundedMantissa =
      n * 2 ^ room n := rfl
  have hsecond := shiftToTargetExponent_mul hpos hshort (le_refl (room n))
  have hne : n * 2 ^ room n ≠ 0 := by positivity
  unfold roundWithAccuracy
  simp only [hfirst, hrounded, hsecond, dif_neg hne, natural_of_pos sign hpos]

theorem round_mul (sign : Sign) {n : Nat} (hpos : 0 < n) (hshort : n < 2 ^ 53) (a : Nat) :
    UnpackedFloat.round binary64 sign (n * 2 ^ a) (-(a : Int)) = natural sign n := by
  have hshift : (-(a : Int) - -(room n : Int)).toNat = room n - a := by omega
  have hmantissa : (n * 2 ^ a) <<< (room n - a) = n * 2 ^ max a (room n) := by
    rw [Nat.shiftLeft_eq, Nat.mul_assoc, ← pow_add]
    congr 2
    omega
  have hexponent : -(a : Int) - (room n - a : Nat) = -(max a (room n) : Nat) := by omega
  unfold UnpackedFloat.round decreaseExponent
  simp only [targetExponent_mul hpos hshort, hshift, hmantissa, hexponent]
  exact roundWithAccuracy_mul sign hpos hshort (Nat.le_max_right _ _)

theorem normalize_mul {n : Nat} (hshort : n < 2 ^ 53) (a : Nat) :
    UnpackedFloat.normalize binary64 ((n * 2 ^ a : Nat) : Int) (-(a : Int)) .positive = natural .positive n := by
  unfold UnpackedFloat.normalize
  by_cases hpos : 0 < n
  · have hgt : compare ((n * 2 ^ a : Nat) : Int) 0 = .gt := by
      rw [Int.compare_eq_gt]
      positivity
    rw [hgt]
    exact round_mul .positive hpos hshort a
  · obtain rfl : n = 0 := by omega
    rw [Nat.zero_mul]
    rfl

theorem unpack_toFloat {w : UInt64} (hshort : w.toNat < 2 ^ 53) :
    w.toFloat.toModel.unpack = natural .positive w.toNat := by
  have hexact := normalize_mul hshort 0
  rw [pow_zero, Nat.mul_one] at hexact
  have hvalue : ofUInt64 binary64 w = natural .positive w.toNat := hexact
  change (Float.Model.pack (ofUInt64 binary64 w)).unpack = _
  rw [hvalue]
  exact unpack_pack (fitting_natural .positive hshort)

theorem natural_one : natural .positive 1 = .finite .positive (2 ^ 52) (-52) (by positivity) := rfl

theorem add_natural_one {n : Nat} (hshort : n + 1 < 2 ^ 53) :
    UnpackedFloat.add binary64 (natural .positive n) (natural .positive 1) =
      natural .positive (n + 1) := by
  by_cases hpos : 0 < n
  · have hroom : room n ≤ 52 := by unfold room; omega
    have hleast : min (-(room n : Int)) (-52) = -52 := by omega
    have hshift : (-(room n : Int) - -52).toNat = 52 - room n := by omega
    have hleft : (n * 2 ^ room n) <<< (52 - room n) = n * 2 ^ 52 := by
      rw [Nat.shiftLeft_eq, Nat.mul_assoc, ← pow_add, Nat.add_sub_cancel' hroom]
    have hsum : ((n * 2 ^ 52 : Nat) : Int) + ((2 ^ 52 : Nat) : Int) = ((n + 1) * 2 ^ 52 : Nat) := by
      push_cast
      ring
    rw [natural_of_pos _ hpos, natural_one]
    unfold UnpackedFloat.add decreaseExponent
    simp only [hleast, hshift, hleft]
    change UnpackedFloat.normalize binary64 (((n * 2 ^ 52 : Nat) : Int) + ((2 ^ 52 : Nat) : Int))
      (-52) .positive = _
    rw [hsum]
    exact normalize_mul hshort 52
  · obtain rfl : n = 0 := by omega
    rfl

theorem mul_natural_one {n : Nat} (hshort : n < 2 ^ 53) :
    UnpackedFloat.mul binary64 (natural .positive n) (natural .positive 1) =
      natural .positive n := by
  by_cases hpos : 0 < n
  · have hexponent : -(room n : Int) + -52 = -((room n + 52 : Nat) : Int) := by omega
    rw [natural_of_pos _ hpos, natural_one]
    unfold UnpackedFloat.mul
    simp only [hexponent, Nat.mul_assoc, ← pow_add]
    rw [← natural_of_pos _ hpos]
    exact roundWithAccuracy_mul .positive hpos hshort (Nat.le_add_right _ _)
  · obtain rfl : n = 0 := by omega
    rfl

theorem unpack_ofNat {n : Nat} (hshort : n < 2 ^ 53) :
    (Float.ofNat n).toModel.unpack = natural .positive n := by
  -- the library multiplies by a power of ten, here by one
  have hfast : Float.ofNat n = n.toUInt64.toFloat * Float.ofBits 0x3FF0000000000000 := by
    change Float.ofScientific n false 0 = _
    unfold Float.ofScientific
    rw [dif_pos ⟨hshort, Nat.zero_le _⟩]
    rfl
  have hword : n.toUInt64.toNat = n := by
    change n % 2 ^ 64 = n
    omega
  have hvalue := unpack_toFloat (w := n.toUInt64) (by omega)
  rw [hword] at hvalue
  have hone : (Float.ofBits 0x3FF0000000000000).toModel.unpack = natural .positive 1 := rfl
  rw [hfast]
  change (Float.Model.pack (UnpackedFloat.mul binary64 n.toUInt64.toFloat.toModel.unpack
    (Float.ofBits 0x3FF0000000000000).toModel.unpack)).unpack = _
  rw [hvalue, hone, mul_natural_one hshort]
  exact unpack_pack (fitting_natural .positive hshort)

theorem unpack_add_one {x : Float} {n : Nat} (hx : x.toModel.unpack = natural .positive n)
    (hshort : n + 1 < 2 ^ 53) :
    (x + Float.ofNat 1).toModel.unpack = natural .positive (n + 1) := by
  have hone : (Float.ofNat 1).toModel.unpack = natural .positive 1 := unpack_ofNat (by norm_num)
  change (Float.Model.pack (UnpackedFloat.add binary64 x.toModel.unpack
    (Float.ofNat 1).toModel.unpack)).unpack = _
  rw [hx, hone, add_natural_one hshort]
  exact unpack_pack (fitting_natural .positive hshort)

end Skirmish.Binary64
