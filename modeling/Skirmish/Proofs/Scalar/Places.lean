import Skirmish.Proofs.Scalar.Levels
import Skirmish.Proofs.Scalar.Nearest

namespace Skirmish.Binary64

open Float.Model (UnpackedFloat)
open Float.Model.Format (binary64)
open Float.Model.UnpackedFloat

-- One, as a number of places. Nothing is gained by computing it.
@[irreducible] def unit : Nat := 2 ^ 1074

theorem unit_eq : unit = 2 ^ 1074 := by
  unfold unit
  rfl

theorem unit_pos : 0 < unit := by
  rw [unit_eq]
  positivity

theorem place_ofNat_one : place (Float.ofNat 1) = unit := by
  rw [place_one, unit_eq]

-- Products are rounded from a grid that is finer by as many bits again.
def settledProduct (n : Nat) : Nat := min (nearest 1074 n) peak

theorem settledProduct_mul_unit (n : Nat) : settledProduct (n * unit) = settled n := by
  rw [settledProduct, unit_eq, nearest_mul, settled]

theorem settledProduct_mono : Monotone settledProduct :=
  fun _ _ h => min_le_min_right peak (nearest_mono 1074 h)

theorem settledProduct_zero : settledProduct 0 = 0 := by
  rw [settledProduct, nearest_zero, Nat.zero_min]

theorem lies_product {u v : UnpackedFloat} (hu : u.isFinite = true) (hv : v.isFinite = true)
    (hfit : Fitting u) (hfit' : Fitting v) :
    Lies (UnpackedFloat.mul binary64 u v) (odd settledProduct (level u * level v)) := by
  have hzero : ∀ sign, Lies (.zero sign) (odd settledProduct 0) := by
    intro sign
    have hplace : odd settledProduct 0 = 0 := by
      change (settledProduct 0 : Int) = 0
      rw [settledProduct_zero, Nat.cast_zero]
    rw [hplace]
    exact Fitting.lies (u := .zero sign) trivial rfl
  cases u with
  | notANumber => contradiction
  | infinity sign => contradiction
  | zero sign =>
      have hproduct : level (.zero sign) * level v = 0 := Int.zero_mul _
      rw [hproduct]
      cases v with
      | notANumber => contradiction
      | infinity sign' => contradiction
      | zero sign' => exact hzero _
      | finite sign' m e h => exact hzero _
  | finite sign m e h =>
      cases v with
      | notANumber => contradiction
      | infinity sign' => contradiction
      | zero sign' =>
          have hproduct : level (.finite sign m e h) * level (.zero sign') = 0 := Int.mul_zero _
          rw [hproduct]
          exact hzero _
      | finite sign' m' e' h' =>
          have hproduct : level (.finite sign m e h) * level (.finite sign' m' e' h') =
              (sign * sign').apply (steps m e * steps m' e' : Nat) := by
            rw [Nat.cast_mul]
            cases sign <;> cases sign'
            · exact Int.neg_mul_neg _ _
            · exact Int.neg_mul _ _
            · exact Int.mul_neg _ _
            · rfl
          have hplace : odd settledProduct ((sign * sign').apply (steps m e * steps m' e' : Nat)) =
              (sign * sign').apply (settledProduct (steps m e * steps m' e') : Nat) := by
            cases sign * sign' with
            | positive => rfl
            | negative => exact odd_neg_natCast settledProduct_zero _
          rw [hproduct, hplace]
          exact (rounds_product (sign * sign') h h' (Fits.canonical hfit) (Fits.canonical hfit')).lies

theorem mul_two_pow_lt {n a b c : Nat} (h : n ≤ 2 ^ a) (hroom : a + b < c) : n * 2 ^ b < 2 ^ c := by
  calc n * 2 ^ b ≤ 2 ^ a * 2 ^ b := Nat.mul_le_mul_right _ h
    _ = 2 ^ (a + b) := (pow_add 2 a b).symm
    _ < 2 ^ c := Nat.pow_lt_pow_right (by norm_num) hroom

theorem mul_unit_lt_peak {n : Nat} (h : n ≤ 2 ^ 64) : n * unit < peak := by
  rw [unit_eq, peak_eq]
  exact mul_two_pow_lt h (by decide)

theorem settled_of_short {m zeros : Nat} (h : m < 2 ^ 53) (hle : m * 2 ^ zeros ≤ peak) :
    settled (m * 2 ^ zeros) = m * 2 ^ zeros := by
  rw [settled, nearest_of_short h, min_eq_left hle]

-- Integers with all the bits of a double are rounded to integers.
theorem settled_mul_unit_of_full {n : Nat} (hfull : 2 ^ 52 ≤ n) (hle : n ≤ 2 ^ 64) :
    settled (n * unit) = nearest 0 n * unit := by
  have hlt := mul_unit_lt_peak (nearest_le hle)
  rw [settled, unit_eq, nearest_mul_two_pow hfull, ← unit_eq, min_eq_left hlt.le]

-- Integers with no more bits than doubles have are among them.
theorem settled_mul_unit {n : Nat} (h : n ≤ 2 ^ 53) : settled (n * unit) = n * unit := by
  rcases Nat.lt_or_eq_of_le h with hshort | rfl
  · have hle : n * unit ≤ peak := (mul_unit_lt_peak (by omega)).le
    rw [unit_eq] at hle ⊢
    exact settled_of_short hshort hle
  · rw [settled_mul_unit_of_full (by norm_num) (by norm_num), nearest_two_pow]

theorem odd_settled_mul_unit {n : Int} (h : n.natAbs ≤ 2 ^ 53) :
    odd settled (n * unit) = n * unit := by
  rcases Int.natAbs_eq n with hn | hn
  · rw [hn, ← Nat.cast_mul]
    exact congrArg Nat.cast (settled_mul_unit h)
  · rw [hn, Int.neg_mul, ← Nat.cast_mul, odd_neg_natCast settled_zero, settled_mul_unit h]

-- The library multiplies by a power of ten, here by one.
theorem rounds_ofScientific {n : Nat} (hpos : 0 < n) :
    Rounds .positive (nearest 0 (n * unit)) (UnpackedFloat.ofScientific binary64 n 0) := by
  have hvalue : UnpackedFloat.ofScientific binary64 n 0 =
      roundWithAccuracy binary64 .positive (n * 2 ^ 53) (-53) .exact := by
    have hlimit : (2 : Int) ^ binary64.exponentBits = 2048 := rfl
    unfold UnpackedFloat.ofScientific
    rw [dif_neg hpos.ne', if_neg (by omega), if_neg (by omega), if_pos le_rfl]
    change roundWithAccuracy binary64 .positive (n <<< 53 * 1) (-53) .exact = _
    rw [Nat.shiftLeft_eq, Nat.mul_one]
  have hlog := log2_mul_two_pow hpos 53
  have hsize : n * 2 ^ 53 * 2 ^ (-53 + ((1074 + 0 : Nat) : Int)).toNat = n * unit := by
    have hbits : (-53 + ((1074 + 0 : Nat) : Int)).toNat = 1021 := rfl
    rw [hbits, Nat.mul_assoc, ← pow_add, unit_eq]
  rw [hvalue, ← hsize]
  apply rounds_of_le_target
  · positivity
  · omega
  · omega

theorem lies_natural {n : Nat} (hshort : n < 2 ^ 53) :
    Lies (natural .positive n) (n * unit : Nat) := by
  have hlevel : level (natural .positive n) = (n * unit : Nat) := by
    by_cases hpos : 0 < n
    · have hlog := log2_le_of_short hpos hshort
      have hbits : room n + (-(room n : Int) + 1074).toNat = 1074 := by
        unfold room
        omega
      rw [natural_of_pos _ hpos, unit_eq, ← hbits, pow_add, ← Nat.mul_assoc]
      rfl
    · obtain rfl : n = 0 := by omega
      rw [Nat.zero_mul]
      rfl
  have hnumber : (natural .positive n).isNaN = false := by
    unfold natural
    split <;> rfl
  rw [← hlevel]
  exact (fitting_natural _ hshort).lies hnumber

section Places

variable {x y : Float}

theorem place_mul (hx : x.isFinite = true) (hy : y.isFinite = true) :
    (x * y).isNaN = false ∧ place (x * y) = odd settledProduct (place x * place y) := by
  obtain ⟨hnumber, hlevel⟩ := lies_product hx hy (fitting_unpack _) (fitting_unpack _)
  exact ⟨hnumber, hlevel⟩

theorem place_ofNat (n : Nat) :
    (Float.ofNat n).isNaN = false ∧ place (Float.ofNat n) = (settled (n * unit) : Nat) := by
  by_cases hshort : n < 2 ^ 53
  · obtain ⟨hnumber, hlevel⟩ := lies_natural hshort
    rw [unpack_pack (fitting_natural _ hshort), ← unpack_ofNat hshort] at hnumber hlevel
    exact ⟨hnumber, hlevel.trans (by rw [settled_mul_unit hshort.le])⟩
  · have hslow : Float.ofNat n = .ofModel (.pack (UnpackedFloat.ofScientific binary64 n 0)) := by
      change Float.ofScientific n false 0 = _
      unfold Float.ofScientific
      rw [dif_neg (by omega)]
      rfl
    obtain ⟨hnumber, hlevel⟩ := (rounds_ofScientific (n := n) (by omega)).lies
    rw [hslow]
    exact ⟨hnumber, hlevel⟩

theorem place_ofInt (n : Int) :
    (Float.ofInt n).isNaN = false ∧ place (Float.ofInt n) = odd settled (n * unit) := by
  cases n with
  | ofNat n =>
      obtain ⟨hnumber, hplace⟩ := place_ofNat n
      refine ⟨hnumber, hplace.trans ?_⟩
      have hproduct : Int.ofNat n * (unit : Int) = ((n * unit : Nat) : Int) := (Nat.cast_mul n unit).symm
      rw [hproduct]
      rfl
  | negSucc n =>
      obtain ⟨hnumber, hplace⟩ := place_ofNat (n + 1)
      refine ⟨(isNaN_neg _).trans hnumber, (place_neg _).trans ?_⟩
      have hproduct : Int.negSucc n * (unit : Int) = -((n + 1) * unit : Nat) := by
        rw [Int.negSucc_eq, Int.neg_mul, Nat.cast_mul, Nat.cast_succ]
      rw [hplace, hproduct, odd_neg_natCast settled_zero]

theorem place_toFloat (w : UInt64) :
    w.toFloat.isNaN = false ∧ place w.toFloat = (settled (w.toNat * unit) : Nat) := by
  obtain ⟨hnumber, hlevel⟩ := lies_normalize (w.toNat : Int) (e := 0) (by norm_num)
  have hproduct : (w.toNat : Int) * (2 ^ ((0 : Int) + 1074).toNat : Nat) = (w.toNat * unit : Nat) := by
    have hbits : ((0 : Int) + 1074).toNat = 1074 := rfl
    rw [hbits, unit_eq, Nat.cast_mul]
  rw [hproduct] at hlevel
  exact ⟨hnumber, hlevel⟩

theorem isNaN_abs (x : Float) : x.abs.isNaN = x.isNaN := by
  change x.abs.toModel.unpack.isNaN = x.toModel.unpack.isNaN
  rw [unpack_abs]
  cases x.toModel.unpack <;> rfl

theorem place_abs (x : Float) : place x.abs = |place x| := by
  have hsize : ∀ (sign : Sign) (n : Nat), (n : Int) = |sign.apply n| := by
    rintro (_ | _) n
    · exact (Nat.abs_cast n).symm.trans (abs_neg _).symm
    · exact (Nat.abs_cast n).symm
  rw [place, unpack_abs, place]
  cases x.toModel.unpack with
  | notANumber => rfl
  | infinity sign => exact hsize sign peak
  | zero sign => rfl
  | finite sign m e h => exact hsize sign (steps m e)

theorem isFinite_abs (x : Float) : x.abs.isFinite = x.isFinite := by
  change x.abs.toModel.unpack.isFinite = x.toModel.unpack.isFinite
  rw [unpack_abs]
  cases x.toModel.unpack <;> rfl

theorem isNaN_of_isFinite (hx : x.isFinite = true) : x.isNaN = false := (isFinite_iff_place.mp hx).1

theorem lt_iff_place (hx : x.isNaN = false) (hy : y.isNaN = false) :
    x < y ↔ place x < place y := by
  rw [lt_iff, compare_place hx hy, Option.some.injEq, Int.compare_eq_lt]

theorem beq_iff_place (hx : x.isNaN = false) (hy : y.isNaN = false) :
    (x == y) = true ↔ place x = place y := by
  rw [beq_iff, UnpackedFloat.beq, compare_place hx hy, beq_iff_eq, Option.some.injEq, Int.compare_eq_eq]

theorem exists_finite (hx : x.isFinite = true) (hne : place x ≠ 0) :
    ∃ sign m e, ∃ h : 0 < m, x.toModel.unpack = .finite sign m e h ∧
      place x = sign.apply (steps m e) := by
  have hvalue : x.toModel.unpack.isFinite = true := hx
  unfold place at hne ⊢
  cases hu : x.toModel.unpack with
  | notANumber => rw [hu] at hvalue; contradiction
  | infinity sign => rw [hu] at hvalue; contradiction
  | zero sign => rw [hu] at hne; exact absurd rfl hne
  | finite sign m e h => exact ⟨sign, m, e, h, rfl, rfl⟩

end Places

end Skirmish.Binary64
