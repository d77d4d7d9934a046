import Skirmish.Proofs.Scalar.Integers

namespace Skirmish.Binary64

open Float.Model (UnpackedFloat)
open Float.Model.Format (binary64)
open Float.Model.UnpackedFloat

theorem lt_iff {x y : Float} :
    x < y ↔ UnpackedFloat.compare x.toModel.unpack y.toModel.unpack = some .lt := by
  change decide (UnpackedFloat.lt x.toModel.unpack y.toModel.unpack = true) = true ↔ _
  rw [decide_eq_true_iff, UnpackedFloat.lt, beq_iff_eq]

theorem beq_iff {x y : Float} :
    (x == y) = true ↔ UnpackedFloat.beq x.toModel.unpack y.toModel.unpack = true := Iff.rfl

-- Other than zeros, only doubles with the same sign and size are equal.
theorem unpack_eq_of_beq {x y : Float} {sign : Sign} {m : Nat} {e : Int} {h : 0 < m}
    (hxy : (x == y) = true) (hy : y.toModel.unpack = .finite sign m e h) :
    x.toModel.unpack = .finite sign m e h := by
  have hcases := (beq_iff_ne_notANumber_and_eq _ _).mp (beq_iff.mp hxy)
  rw [hy] at hcases
  simpa using hcases.2.2

theorem beq_of_unpack_eq {x y : Float} {u : UnpackedFloat} (hx : x.toModel.unpack = u)
    (hy : y.toModel.unpack = u) (hnan : u ≠ .notANumber) : (x == y) = true := by
  rw [beq_iff, beq_iff_ne_notANumber_and_eq, hx, hy]
  exact ⟨hnan, hnan, .inl rfl⟩

theorem mantissa_repeat (k : Nat) (em : ExtendedMantissa) :
    (Nat.repeat ExtendedMantissa.shiftRightOne k em).mantissa = em.mantissa / 2 ^ k := by
  induction k with
  | zero => simp [Nat.repeat]
  | succ k ih =>
      rw [Nat.repeat, ExtendedMantissa.shiftRightOne, ih, Nat.div_div_eq_div_mul, pow_succ]

-- Bits below one are cut off.
theorem roundToInt_neg (sign : Sign) (m k : Nat) :
    roundToInt sign m (-(k : Int)) = sign.apply ((m / 2 ^ k : Nat) : Int) := by
  have hnone : (-(k : Int) - 0).toNat = 0 := by omega
  have hshift : (0 - (-(k : Int) - ((0 : Nat) : Int))).toNat = k := by omega
  unfold roundToInt decreaseExponent shiftToExponent
  simp only [hnone, hshift, Nat.shiftLeft_zero]
  exact congrArg (fun n : Nat => sign.apply (n : Int)) (mantissa_repeat k ⟨m, false, false⟩)

theorem unpack_abs_of_finite {x : Float} {sign : Sign} {m : Nat} {e : Int} {h : 0 < m}
    (hx : x.toModel.unpack = .finite sign m e h) :
    x.abs.toModel.unpack = .finite .positive m e h := by
  rw [unpack_abs, hx]
  rfl

theorem toNat_toUInt64 {x : Float} {m k : Nat} {h : 0 < m}
    (hx : x.toModel.unpack = .finite .positive m (-(k : Int)) h) (hshort : m < 2 ^ 53) :
    x.toUInt64.toNat = m / 2 ^ k := by
  have hle : m / 2 ^ k ≤ m := Nat.div_le_self _ _
  change (UInt64.ofNatClamp (toInt 0 _ x.toModel.unpack).toNat).toNat = _
  rw [hx]
  change (UInt64.ofNatClamp (roundToInt .positive m (-(k : Int))).toNat).toNat = _
  rw [roundToInt_neg]
  change (UInt64.ofNatClamp (m / 2 ^ k)).toNat = _
  rw [UInt64.toNat_ofNatClamp_of_lt]
  change m / 2 ^ k < 2 ^ 64
  omega

theorem toNat_wholePart {x : Float} {sign : Sign} {m k : Nat} {h : 0 < m}
    (hx : x.toModel.unpack = .finite sign m (-(k : Int)) h) : (wholePart x).toNat = m / 2 ^ k :=
  toNat_toUInt64 (unpack_abs_of_finite hx) (fits_of_unpack hx).short

theorem unpack_limit : (Float.ofNat 9000000000000000).toModel.unpack =
    .finite .positive 9000000000000000 0 (by norm_num) := by
  rw [unpack_ofNat (by norm_num)]
  rfl

-- Below the limit of integers in print, doubles have all their bits from some
-- negative power of two on.
theorem exists_neg_exponent {x : Float} {sign : Sign} {m : Nat} {e : Int} {h : 0 < m}
    (hx : x.toModel.unpack = .finite sign m e h) (hsmall : x.abs < Float.ofNat 9000000000000000) :
    ∃ k : Nat, e = -(k : Int) ∧ m / 2 ^ k < 9000000000000000 := by
  have hshort := (fits_of_unpack hx).short
  rw [lt_iff, unpack_abs_of_finite hx, unpack_limit] at hsmall
  have hlex : (compare e 0).then (compare m 9000000000000000) = .lt := Option.some.inj hsmall
  rw [Ordering.then_eq_lt, Int.compare_eq_lt, Int.compare_eq_eq, Nat.compare_eq_lt] at hlex
  rcases hlex with hneg | ⟨rfl, hlt⟩
  · obtain ⟨k, rfl⟩ : ∃ k : Nat, e = -((k + 1 : Nat) : Int) := ⟨(-e).toNat - 1, by omega⟩
    have hhalf : m / 2 ^ (k + 1) ≤ m / 2 := by
      rw [pow_succ', ← Nat.div_div_eq_div_mul]
      exact Nat.div_le_self _ _
    exact ⟨k + 1, rfl, by omega⟩
  · exact ⟨0, rfl, by simpa using hlt⟩

theorem neg_natural (sign : Sign) (n : Nat) : (natural sign n).neg = natural (-sign) n := by
  unfold natural
  split <;> rfl

theorem natural_eq_finite_iff {sign : Sign} {n m : Nat} {e : Int} {h : 0 < m} :
    natural sign n = .finite sign m e h ↔ 0 < n ∧ n * 2 ^ room n = m ∧ -(room n : Int) = e := by
  by_cases hpos : 0 < n
  · rw [natural_of_pos sign hpos, UnpackedFloat.finite.injEq]
    simp [hpos]
  · simp [natural, hpos]

theorem lt_zero_iff {x : Float} {sign : Sign} {m : Nat} {e : Int} {h : 0 < m}
    (hx : x.toModel.unpack = .finite sign m e h) : x < Float.ofNat 0 ↔ sign = .negative := by
  have hzero : (Float.ofNat 0).toModel.unpack = .zero .positive := unpack_ofNat (by norm_num)
  rw [lt_iff, hx, hzero]
  cases sign with
  | positive => simp [UnpackedFloat.compare]
  | negative => simp [UnpackedFloat.compare]

theorem isShort_of_finite {x : Float} {sign : Sign} {m k : Nat} {h : 0 < m}
    (hx : x.toModel.unpack = .finite sign m (-(k : Int)) h) : isShort x = true := by
  have hsize : (Float.ofNat UInt64.size).toModel.unpack =
      .finite .positive (2 ^ 52) 12 (by norm_num) := rfl
  have hexponent : compare (-(k : Int)) 12 = .lt := by rw [Int.compare_eq_lt]; omega
  unfold isShort
  rw [decide_eq_true_iff, lt_iff, unpack_abs_of_finite hx, hsize]
  exact congrArg (fun order => some (order.then (compare m (2 ^ 52)))) hexponent

-- If a double is its own floor, its size is its integer part.
theorem natural_wholePart {x : Float} {sign : Sign} {m k : Nat} {h : 0 < m}
    (hx : x.toModel.unpack = .finite sign m (-(k : Int)) h) (hlow : m / 2 ^ k < 9000000000000000)
    (hfloor : (floor x == x) = true) :
    natural .positive (m / 2 ^ k) = .finite .positive m (-(k : Int)) h := by
  have hpart := toNat_wholePart hx
  have hwhole : (wholePart x).toFloat.toModel.unpack = natural .positive (m / 2 ^ k) := by
    rw [unpack_toFloat (by omega), hpart]
  rw [← hwhole]
  cases hexact : (wholePart x).toFloat == x.abs with
  | true => exact unpack_eq_of_beq hexact (unpack_abs_of_finite hx)
  | false =>
      unfold floor at hfloor
      rw [isShort_of_finite hx] at hfloor
      simp only [hexact, Bool.not_true, Bool.false_or, Bool.false_eq_true, if_false] at hfloor
      cases sign with
      | positive =>
          rw [if_neg (by simp [lt_zero_iff hx])] at hfloor
          exact unpack_eq_of_beq hfloor hx
      | negative =>
          -- it would have to be the negative of a greater number
          rw [if_pos ((lt_zero_iff hx).mpr rfl)] at hfloor
          have hnext := unpack_eq_of_beq hfloor hx
          rw [unpack_neg, unpack_add_one hwhole (by omega), neg_natural] at hnext
          obtain ⟨_, hm, hk⟩ := natural_eq_finite_iff.mp hnext
          have hroom : room (m / 2 ^ k + 1) = k := by omega
          rw [hroom] at hm
          have hagain : m / 2 ^ k = m / 2 ^ k + 1 := by
            conv_lhs => rw [← hm]
            exact Nat.mul_div_cancel _ (by positivity)
          omega

theorem unpack_abs_of_zero {x : Float} {sign : Sign} (hx : x.toModel.unpack = .zero sign) :
    x.abs.toModel.unpack = .zero .positive := by
  rw [unpack_abs, hx]
  rfl

theorem toNat_wholePart_of_zero {x : Float} {sign : Sign} (hx : x.toModel.unpack = .zero sign) :
    (wholePart x).toNat = 0 := by
  change (UInt64.ofNatClamp (toInt 0 _ x.abs.toModel.unpack).toNat).toNat = 0
  rw [unpack_abs_of_zero hx]
  rfl

theorem truncate_of_zero {x : Float} {sign : Sign} (hx : x.toModel.unpack = .zero sign) :
    truncate x = 0 := by
  have hshort : isShort x = true := by
    unfold isShort
    rw [decide_eq_true_iff, lt_iff, unpack_abs_of_zero hx]
    rfl
  unfold truncate
  rw [hshort, toNat_wholePart_of_zero hx]
  simp

theorem truncate_of_finite {x : Float} {sign : Sign} {m k : Nat} {h : 0 < m}
    (hx : x.toModel.unpack = .finite sign m (-(k : Int)) h) :
    truncate x = sign.apply ((m / 2 ^ k : Nat) : Int) := by
  unfold truncate
  rw [isShort_of_finite hx, toNat_wholePart hx, if_pos rfl]
  cases sign with
  | positive =>
      rw [if_neg (by simp [lt_zero_iff hx])]
      rfl
  | negative =>
      rw [if_pos ((lt_zero_iff hx).mpr rfl)]
      rfl

-- A whole number that is printed as an integer is one.
theorem exists_natural {x : Float} (hwhole : Scalar.isWhole x = true)
    (hsmall : x.abs < Float.ofNat 9000000000000000) :
    ∃ (sign : Sign) (n : Nat), n < 9000000000000000 ∧ x.toModel.unpack = natural sign n ∧
      truncate x = sign.apply n := by
  obtain ⟨hfinite, hfloor⟩ := Bool.and_eq_true_iff.mp hwhole
  have hvalue : x.toModel.unpack.isFinite = true := hfinite
  cases hx : x.toModel.unpack with
  | infinity sign =>
      rw [hx] at hvalue
      contradiction
  | notANumber =>
      rw [hx] at hvalue
      contradiction
  | zero sign =>
      refine ⟨sign, 0, by norm_num, rfl, ?_⟩
      rw [truncate_of_zero hx]
      cases sign <;> rfl
  | finite sign m e h =>
      obtain ⟨k, rfl, hlow⟩ := exists_neg_exponent hx hsmall
      have hsize := natural_eq_finite_iff.mp (natural_wholePart hx hlow hfloor)
      exact ⟨sign, m / 2 ^ k, hlow, (natural_eq_finite_iff.mpr hsize).symm, truncate_of_finite hx⟩

theorem natAbs_truncate_lt {x : Float} (hwhole : Scalar.isWhole x = true)
    (hsmall : x.abs < Float.ofNat 9000000000000000) : (truncate x).natAbs < 9000000000000000 := by
  obtain ⟨sign, n, hlow, _, htruncate⟩ := exists_natural hwhole hsmall
  rw [htruncate]
  cases sign with
  | positive => exact hlow
  | negative =>
      change (-(n : Int)).natAbs < _
      rw [Int.natAbs_neg]
      exact hlow

theorem unpack_ofInt (sign : Sign) {n : Nat} (hpos : 0 < n) (hshort : n < 2 ^ 53) :
    (Float.ofInt (sign.apply n)).toModel.unpack = natural sign n := by
  cases sign with
  | positive => exact unpack_ofNat hshort
  | negative =>
      obtain ⟨n, rfl⟩ := Nat.exists_eq_succ_of_ne_zero hpos.ne'
      change (-(Float.ofNat (n + 1))).toModel.unpack = _
      rw [unpack_neg, unpack_ofNat hshort, neg_natural]
      rfl

-- Whole numbers can be told from their integer parts.
theorem ofInt_truncate {x : Float} (hwhole : Scalar.isWhole x = true)
    (hsmall : x.abs < Float.ofNat 9000000000000000) : (Float.ofInt (truncate x) == x) = true := by
  obtain ⟨sign, n, hlow, hx, htruncate⟩ := exists_natural hwhole hsmall
  rw [htruncate]
  by_cases hpos : 0 < n
  · refine beq_of_unpack_eq (unpack_ofInt sign hpos (by omega)) hx ?_
    rw [natural_of_pos sign hpos]
    simp
  · obtain rfl : n = 0 := by omega
    -- a zero of either sign is read as the positive one, which equals both
    rw [beq_iff, hx]
    cases sign <;> rfl

end Skirmish.Binary64
