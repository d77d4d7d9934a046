import Skirmish.Proofs.Scalar.Naturals
import Skirmish.Proofs.Scalar.Places

namespace Skirmish.Binary64

open Float.Model (UnpackedFloat)
open Float.Model.Format (binary64)
open Float.Model.UnpackedFloat

-- The size of a double in units. Bits below the unit are cut off if there are any.
theorem steps_natCast (m k : Nat) : steps m (k : Int) = m * 2 ^ k * unit := by
  have hbits : ((k : Int) + 1074).toNat = k + 1074 := by omega
  rw [steps, hbits, pow_add, unit_eq, Nat.mul_assoc]

theorem steps_neg_mul (m : Nat) {k : Nat} (hk : k ≤ 1074) :
    steps m (-(k : Int)) * 2 ^ k = m * unit := by
  have hbits : (-(k : Int) + 1074).toNat + k = 1074 := by omega
  rw [steps, Nat.mul_assoc, ← pow_add, hbits, unit_eq]

theorem steps_neg_div_unit (m : Nat) {k : Nat} (hk : k ≤ 1074) :
    steps m (-(k : Int)) / unit = m / 2 ^ k := by
  calc steps m (-(k : Int)) / unit = steps m (-(k : Int)) * 2 ^ k / (unit * 2 ^ k) :=
        (Nat.mul_div_mul_right _ _ (by positivity)).symm
    _ = m * unit / (2 ^ k * unit) := by rw [steps_neg_mul m hk, Nat.mul_comm unit]
    _ = m / 2 ^ k := Nat.mul_div_mul_right _ _ unit_pos

theorem roundToInt_eq (sign : Sign) (m : Nat) {e : Int} (he : -1074 ≤ e) :
    roundToInt sign m e = sign.apply (steps m e / unit : Nat) := by
  rcases Int.le_total 0 e with hpos | hneg
  · obtain ⟨k, rfl⟩ := Int.eq_ofNat_of_zero_le hpos
    rw [roundToInt_nat, steps_natCast, Nat.mul_div_cancel _ unit_pos]
  · obtain ⟨k, rfl⟩ := Int.exists_eq_neg_ofNat hneg
    rw [roundToInt_neg, steps_neg_div_unit m (by omega)]

-- A double of so many units or more has no bits below the unit.
theorem unit_dvd_steps {m : Nat} {e : Int} (h : Canonical m e) (hlarge : 2 ^ 53 * unit ≤ steps m e) :
    unit ∣ steps m e := by
  have hlow := h.low
  rcases Int.le_total 0 e with hpos | hneg
  · obtain ⟨k, rfl⟩ := Int.eq_ofNat_of_zero_le hpos
    exact ⟨m * 2 ^ k, by rw [steps_natCast, Nat.mul_comm]⟩
  · obtain ⟨k, rfl⟩ := Int.exists_eq_neg_ofNat hneg
    refine absurd hlarge (Nat.not_le.mpr ?_)
    calc steps m (-(k : Int)) ≤ steps m (-(k : Int)) * 2 ^ k :=
          Nat.le_mul_of_pos_right _ (by positivity)
      _ = m * unit := steps_neg_mul m (by omega)
      _ < 2 ^ 53 * unit := Nat.mul_lt_mul_of_pos_right h.short unit_pos

-- A double that stands for an integer.
structure IsInteger (x : Float) (n : Int) : Prop where
  isFinite : x.isFinite = true
  place_eq : place x = n * unit

section Wholes

variable {x y : Float} {m n : Int}

theorem natAbs_place_lt (hx : x.isFinite = true) : (place x).natAbs < peak := by
  have hlt := (isFinite_iff_place.mp hx).2
  rw [Int.abs_eq_natAbs] at hlt
  exact Int.ofNat_lt.mp hlt

theorem isFinite_of_place (hnumber : x.isNaN = false) (hlt : (place x).natAbs < peak) :
    x.isFinite = true := by
  refine isFinite_iff_place.mpr ⟨hnumber, ?_⟩
  rw [Int.abs_eq_natAbs]
  exact Int.ofNat_lt.mpr hlt

theorem natAbs_mul_unit (n : Int) : (n * (unit : Int)).natAbs = n.natAbs * unit := by
  rw [Int.natAbs_mul, Int.natAbs_natCast]

-- What a result is rounded to that is an integer.
theorem IsInteger.of_place (hnumber : x.isNaN = false) (hplace : place x = odd settled (n * unit))
    (hsmall : n.natAbs ≤ 2 ^ 53) : IsInteger x n := by
  rw [odd_settled_mul_unit hsmall] at hplace
  refine ⟨isFinite_of_place hnumber ?_, hplace⟩
  rw [hplace, natAbs_mul_unit]
  exact mul_unit_lt_peak (by omega)

theorem IsInteger.ofInt (hsmall : n.natAbs ≤ 2 ^ 53) : IsInteger (Float.ofInt n) n :=
  .of_place (place_ofInt n).1 (place_ofInt n).2 hsmall

theorem IsInteger.neg (h : IsInteger x n) : IsInteger (-x) (-n) :=
  ⟨(isFinite_neg x).trans h.isFinite, by rw [place_neg, h.place_eq, Int.neg_mul]⟩

theorem IsInteger.abs (h : IsInteger x n) : IsInteger x.abs |n| := by
  refine ⟨(isFinite_abs x).trans h.isFinite, ?_⟩
  rw [place_abs, h.place_eq, abs_mul, abs_of_nonneg (Int.natCast_nonneg unit)]

theorem IsInteger.add (hx : IsInteger x m) (hy : IsInteger y n) (hsmall : (m + n).natAbs ≤ 2 ^ 53) :
    IsInteger (x + y) (m + n) := by
  obtain ⟨hnumber, hplace⟩ := place_add hx.isFinite hy.isFinite
  rw [hx.place_eq, hy.place_eq, ← Int.add_mul] at hplace
  exact .of_place hnumber hplace hsmall

theorem IsInteger.sub (hx : IsInteger x m) (hy : IsInteger y n) (hsmall : (m - n).natAbs ≤ 2 ^ 53) :
    IsInteger (x - y) (m - n) := by
  rw [sub_eq_add_neg_float]
  exact hx.add hy.neg hsmall

theorem odd_settledProduct_mul_unit (a : Int) : odd settledProduct (a * unit) = odd settled a := by
  rcases Int.natAbs_eq a with ha | ha
  · rw [ha, ← Nat.cast_mul]
    exact congrArg Nat.cast (settledProduct_mul_unit _)
  · rw [ha, Int.neg_mul, ← Nat.cast_mul, odd_neg_natCast settledProduct_zero,
      odd_neg_natCast settled_zero, settledProduct_mul_unit]

theorem IsInteger.mul (hx : IsInteger x m) (hy : IsInteger y n) (hsmall : (m * n).natAbs ≤ 2 ^ 53) :
    IsInteger (x * y) (m * n) := by
  obtain ⟨hnumber, hplace⟩ := place_mul hx.isFinite hy.isFinite
  have hproduct : m * (unit : Int) * (n * unit) = m * n * unit * unit := by ring
  rw [hx.place_eq, hy.place_eq, hproduct, odd_settledProduct_mul_unit] at hplace
  exact .of_place hnumber hplace hsmall

theorem IsInteger.lt_iff (hx : IsInteger x m) (hy : IsInteger y n) : x < y ↔ m < n := by
  rw [lt_iff_place (isNaN_of_isFinite hx.isFinite) (isNaN_of_isFinite hy.isFinite), hx.place_eq,
    hy.place_eq]
  exact mul_lt_mul_iff_of_pos_right (Int.natCast_pos.mpr unit_pos)

theorem IsInteger.le_iff (hx : IsInteger x m) (hy : IsInteger y n) : x ≤ y ↔ m ≤ n := by
  rw [le_iff_place, hx.place_eq, hy.place_eq, mul_le_mul_iff_of_pos_right (Int.natCast_pos.mpr unit_pos)]
  exact ⟨fun h => h.2.2, fun h => ⟨isNaN_of_isFinite hx.isFinite, isNaN_of_isFinite hy.isFinite, h⟩⟩

theorem natAbs_tdiv_unit (p : Int) : (p.tdiv unit).natAbs = p.natAbs / unit := by
  rw [Int.natAbs_tdiv, Int.natAbs_natCast]
  rfl

theorem apply_tdiv (sign : Sign) (n d : Nat) : (sign.apply n).tdiv d = sign.apply (n / d : Nat) := by
  cases sign with
  | positive => exact (Int.natCast_div n d).symm
  | negative => exact (Int.neg_tdiv _ _).trans (congrArg Neg.neg (Int.natCast_div n d).symm)

theorem toInt_unpack (hx : x.isFinite = true) (low high : Int) :
    toInt low high x.toModel.unpack = (place x).tdiv unit := by
  have hvalue : x.toModel.unpack.isFinite = true := hx
  have hfit := fitting_unpack x.toModel
  unfold place
  cases hu : x.toModel.unpack with
  | notANumber => rw [hu] at hvalue; contradiction
  | infinity sign => rw [hu] at hvalue; contradiction
  | zero sign => exact (Int.zero_tdiv _).symm
  | finite sign m e h =>
      rw [hu] at hfit
      change roundToInt sign m e = (sign.apply (steps m e)).tdiv unit
      rw [roundToInt_eq sign m (Fits.low hfit), apply_tdiv]

theorem unit_dvd_place (hx : x.isFinite = true) (hlarge : 2 ^ 53 ≤ ((place x).tdiv unit).natAbs) :
    (unit : Int) ∣ place x := by
  have hvalue : x.toModel.unpack.isFinite = true := hx
  have hfit := fitting_unpack x.toModel
  have hsize : 2 ^ 53 * unit ≤ (place x).natAbs := by
    rw [natAbs_tdiv_unit] at hlarge
    exact (Nat.le_div_iff_mul_le unit_pos).mp hlarge
  unfold place at hsize ⊢
  cases hu : x.toModel.unpack with
  | notANumber => rw [hu] at hvalue; contradiction
  | infinity sign => rw [hu] at hvalue; contradiction
  | zero sign => exact dvd_zero _
  | finite sign m e h =>
      rw [hu] at hfit hsize
      change 2 ^ 53 * unit ≤ (sign.apply (steps m e)).natAbs at hsize
      rw [natAbs_apply] at hsize
      have hdvd : (unit : Int) ∣ steps m e :=
        Int.natCast_dvd_natCast.mpr (unit_dvd_steps (Fits.canonical hfit) hsize)
      cases sign with
      | positive => exact hdvd
      | negative => exact (Int.dvd_neg).mpr hdvd

-- Integer parts are doubles.
theorem odd_settled_tdiv (hx : x.isFinite = true) :
    odd settled ((place x).tdiv unit * unit) = (place x).tdiv unit * unit := by
  by_cases hsmall : ((place x).tdiv unit).natAbs ≤ 2 ^ 53
  · exact odd_settled_mul_unit hsmall
  · rw [Int.tdiv_mul_cancel (unit_dvd_place hx (by omega)), odd_settled_place hx]

theorem place_wordSize : place (Float.ofNat UInt64.size) = (2 ^ 64 * unit : Nat) := by
  have hsettled : settled (2 ^ 64 * unit) = 2 ^ 64 * unit := by
    rw [settled_mul_unit_of_full (by norm_num) le_rfl, nearest_two_pow]
  have hplace := (place_ofNat UInt64.size).2
  rw [hplace]
  exact congrArg Nat.cast hsettled

theorem isShort_iff (hx : x.isFinite = true) :
    isShort x = true ↔ ((place x).tdiv unit).natAbs < 2 ^ 64 := by
  have hnumber := (isNaN_abs x).trans (isNaN_of_isFinite hx)
  rw [isShort, decide_eq_true_iff, lt_iff_place hnumber (place_ofNat _).1, place_abs, place_wordSize,
    natAbs_tdiv_unit, Nat.div_lt_iff_lt_mul unit_pos, Int.abs_eq_natAbs, Int.ofNat_lt]

theorem toNat_wholePart_eq (hx : x.isFinite = true) (hshort : isShort x = true) :
    (wholePart x).toNat = ((place x).tdiv unit).natAbs := by
  have hpart : (wholePart x).toNat =
      (UInt64.ofNatClamp (toInt 0 (UInt64.size - 1) x.abs.toModel.unpack).toNat).toNat := rfl
  have hsize : (toInt 0 (UInt64.size - 1) x.abs.toModel.unpack).toNat =
      ((place x).tdiv unit).natAbs := by
    rw [toInt_unpack ((isFinite_abs x).trans hx), place_abs, Int.abs_eq_natAbs, natAbs_tdiv_unit]
    exact congrArg Int.toNat (apply_tdiv .positive _ unit)
  rw [hpart, hsize, UInt64.toNat_ofNatClamp_of_lt]
  exact (isShort_iff hx).mp hshort

theorem lt_zero_iff_place (hx : x.isFinite = true) : x < Float.ofNat 0 ↔ place x < 0 := by
  rw [lt_iff_place (isNaN_of_isFinite hx) (place_ofNat 0).1, place_zero]

theorem tdiv_unit_nonneg {p : Int} (h : 0 ≤ p) : 0 ≤ p.tdiv unit :=
  Int.tdiv_nonneg h (Int.natCast_nonneg unit)

theorem tdiv_unit_nonpos {p : Int} (h : p ≤ 0) : p.tdiv unit ≤ 0 := by
  have hneg := tdiv_unit_nonneg (Int.neg_nonneg.mpr h)
  rw [Int.neg_tdiv] at hneg
  omega

theorem truncate_eq (hx : x.isFinite = true) : truncate x = (place x).tdiv unit := by
  unfold truncate
  by_cases hshort : isShort x = true
  · rw [if_pos hshort, toNat_wholePart_eq hx hshort]
    by_cases hneg : place x < 0
    · have hsign := tdiv_unit_nonpos hneg.le
      rw [if_pos ((lt_zero_iff_place hx).mpr hneg)]
      omega
    · have hsign := tdiv_unit_nonneg (Int.not_lt.mp hneg)
      rw [if_neg (mt (lt_zero_iff_place hx).mp hneg)]
      omega
  · have hlarge := mt (isShort_iff hx).mpr hshort
    have hvalue : x.toModel.unpack.isFinite = true := hx
    have hfit := fitting_unpack x.toModel
    rw [if_neg hshort]
    unfold place at hlarge ⊢
    cases hu : x.toModel.unpack with
    | notANumber => rw [hu] at hvalue; contradiction
    | infinity sign => rw [hu] at hvalue; contradiction
    | zero sign => exact (Int.zero_tdiv _).symm
    | finite sign m e h =>
        rw [hu] at hfit hlarge
        change ¬ ((sign.apply (steps m e)).tdiv unit).natAbs < 2 ^ 64 at hlarge
        change sign.apply (m <<< e.toNat : Nat) = (sign.apply (steps m e)).tdiv unit
        have hlow := Fits.low hfit
        have hmantissa := Fits.short hfit
        rw [apply_tdiv, natAbs_apply] at hlarge
        rw [apply_tdiv, Nat.shiftLeft_eq]
        rcases Int.le_total 0 e with hpos | hneg
        · obtain ⟨k, rfl⟩ := Int.eq_ofNat_of_zero_le hpos
          rw [steps_natCast, Nat.mul_div_cancel _ unit_pos, Int.toNat_natCast]
        · obtain ⟨k, rfl⟩ := Int.exists_eq_neg_ofNat hneg
          have hle : m / 2 ^ k ≤ m := Nat.div_le_self _ _
          rw [steps_neg_div_unit m (by omega)] at hlarge
          omega

theorem IsInteger.truncate_eq (h : IsInteger x n) : truncate x = n := by
  rw [Binary64.truncate_eq h.isFinite, h.place_eq]
  exact Int.mul_tdiv_cancel _ (Int.natCast_ne_zero.mpr unit_pos.ne')

theorem isInteger_wholePart (hx : x.isFinite = true) (hshort : isShort x = true) :
    IsInteger (wholePart x).toFloat ((place x).tdiv unit).natAbs := by
  obtain ⟨hnumber, hplace⟩ := place_toFloat (wholePart x)
  have hexact : settled (((place x).tdiv unit).natAbs * unit) = ((place x).tdiv unit).natAbs * unit := by
    have hodd := odd_settled_tdiv hx
    rcases Int.natAbs_eq ((place x).tdiv unit) with hsign | hsign
    · rw [hsign, ← Nat.cast_mul] at hodd
      exact Int.ofNat_inj.mp hodd
    · rw [hsign, Int.neg_mul, ← Nat.cast_mul, odd_neg_natCast settled_zero, neg_inj] at hodd
      exact Int.ofNat_inj.mp hodd
  rw [toNat_wholePart_eq hx hshort, hexact] at hplace
  refine ⟨isFinite_of_place hnumber ?_, by rw [hplace, Nat.cast_mul]⟩
  rw [hplace, Int.natAbs_natCast]
  exact mul_unit_lt_peak ((isShort_iff hx).mp hshort).le

theorem isInteger_of_dvd (hx : x.isFinite = true) (h : (unit : Int) ∣ place x) :
    IsInteger x ((place x).tdiv unit) := ⟨hx, (Int.tdiv_mul_cancel h).symm⟩

-- A double that is not below zero goes down to its integer part.
theorem isInteger_floor (hx : x.isFinite = true) (hnonneg : 0 ≤ place x) :
    IsInteger (floor x) ((place x).tdiv unit) := by
  have hpart := tdiv_unit_nonneg hnonneg
  unfold floor
  dsimp only
  by_cases hshort : isShort x = true
  · have hwhole := isInteger_wholePart hx hshort
    rw [Int.natAbs_of_nonneg hpart] at hwhole
    rw [hshort, Bool.not_true, Bool.false_or]
    split
    · rename_i hsame
      rw [beq_iff_place (isNaN_of_isFinite hwhole.isFinite) ((isNaN_abs x).trans (isNaN_of_isFinite hx)),
        place_abs, abs_of_nonneg hnonneg] at hsame
      exact ⟨hx, hsame.symm.trans hwhole.place_eq⟩
    · rw [if_neg (mt (lt_zero_iff_place hx).mp (Int.not_lt.mpr hnonneg))]
      exact hwhole
  · rw [Bool.not_eq_true] at hshort
    rw [hshort, Bool.not_false, Bool.true_or, if_pos rfl]
    have hlarge := mt (isShort_iff hx).mpr (by rw [hshort]; exact Bool.false_ne_true)
    exact isInteger_of_dvd hx (unit_dvd_place hx (by omega))

theorem isInteger_withoutFraction (hx : x.isFinite = true) :
    IsInteger (Scalar.withoutFraction x) ((place x).tdiv unit) := by
  have hzero : x < ((0 : Int) : Float) ↔ place x < 0 := lt_zero_iff_place hx
  unfold Scalar.withoutFraction
  split
  · rename_i hneg
    have hplace := place_neg x
    have hfloor := isInteger_floor ((isFinite_neg x).trans hx) (by
      rw [hplace]
      have := hzero.mp hneg
      omega)
    rw [hplace, Int.neg_tdiv] at hfloor
    have hback := hfloor.neg
    rwa [Int.neg_neg] at hback
  · rename_i hnonneg
    exact isInteger_floor hx (Int.not_lt.mp (mt hzero.mpr hnonneg))

-- A double that stands for an integer is its own floor.
theorem IsInteger.isWhole (h : IsInteger x n) : Scalar.isWhole x = true := by
  have hself : (x == x) = true :=
    (beq_iff_place (isNaN_of_isFinite h.isFinite) (isNaN_of_isFinite h.isFinite)).mpr rfl
  have hfloor : floor x = x := by
    unfold floor
    dsimp only
    by_cases hshort : isShort x = true
    · have hwhole := isInteger_wholePart h.isFinite hshort
      have hsame : ((wholePart x).toFloat == x.abs) = true := by
        rw [beq_iff_place (isNaN_of_isFinite hwhole.isFinite)
          ((isNaN_abs x).trans (isNaN_of_isFinite h.isFinite)), place_abs, hwhole.place_eq, h.place_eq,
          Int.mul_tdiv_cancel _ (Int.natCast_ne_zero.mpr unit_pos.ne'), Int.abs_eq_natAbs,
          natAbs_mul_unit, Nat.cast_mul]
      rw [hsame, Bool.or_true, if_pos rfl]
    · rw [Bool.not_eq_true] at hshort
      rw [hshort, Bool.not_false, Bool.true_or, if_pos rfl]
  change (x.isFinite && floor x == x) = true
  rw [h.isFinite, hfloor, hself]
  rfl

end Wholes

end Skirmish.Binary64
