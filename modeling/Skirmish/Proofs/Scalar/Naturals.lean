import Skirmish.Proofs.Scalar.Truncation

namespace Skirmish.Binary64

open Float.Model (UnpackedFloat)
open Float.Model.UnpackedFloat

theorem natural_ne_notANumber (sign : Sign) (n : Nat) : natural sign n ≠ .notANumber := by
  unfold natural
  split <;> simp

theorem isFinite_natural (sign : Sign) (n : Nat) : (natural sign n).isFinite = true := by
  unfold natural
  split <;> rfl

theorem abs_natural (sign : Sign) (n : Nat) : (natural sign n).abs = natural .positive n := by
  unfold natural
  split <;> rfl

section Natural

variable {x : Float} {sign : Sign} {n : Nat} (hx : x.toModel.unpack = natural sign n)

include hx

theorem toNat_wholePart_natural : (wholePart x).toNat = n := by
  by_cases hpos : 0 < n
  · rw [natural_of_pos sign hpos] at hx
    rw [toNat_wholePart hx]
    exact Nat.mul_div_cancel _ (by positivity)
  · obtain rfl : n = 0 := by omega
    exact toNat_wholePart_of_zero hx

theorem truncate_natural : truncate x = sign.apply n := by
  by_cases hpos : 0 < n
  · rw [natural_of_pos sign hpos] at hx
    rw [truncate_of_finite hx, Nat.mul_div_cancel _ (by positivity)]
  · obtain rfl : n = 0 := by omega
    rw [truncate_of_zero hx]
    cases sign <;> rfl

theorem isWhole_natural (hshort : n < 2 ^ 53) : Scalar.isWhole x = true := by
  have hpart : ((wholePart x).toFloat == x.abs) = true := by
    refine beq_of_unpack_eq (u := natural .positive n) ?_ ?_ (natural_ne_notANumber _ n)
    · rw [unpack_toFloat (by rwa [toNat_wholePart_natural hx]), toNat_wholePart_natural hx]
    · rw [unpack_abs, hx, abs_natural]
  have hfloor : floor x = x := by
    unfold floor
    dsimp only
    rw [hpart, Bool.or_true, if_pos rfl]
  have hfinite : x.isFinite = true := by
    change x.toModel.unpack.isFinite = true
    rw [hx]
    exact isFinite_natural sign n
  change (x.isFinite && floor x == x) = true
  rw [hfinite, hfloor, beq_of_unpack_eq hx hx (natural_ne_notANumber sign n)]
  rfl

end Natural

theorem unpack_zero : (Float.ofNat 0).toModel.unpack = .zero .positive := unpack_ofNat (by norm_num)

theorem not_lt_zero_of_zero {x : Float} {sign : Sign} (hx : x.toModel.unpack = .zero sign) :
    ¬ x < Float.ofNat 0 := by
  rw [lt_iff, hx, unpack_zero]
  cases sign <;> simp [UnpackedFloat.compare]

theorem not_lt_zero_natural {x : Float} {n : Nat} (hx : x.toModel.unpack = natural .positive n) :
    ¬ x < Float.ofNat 0 := by
  by_cases hpos : 0 < n
  · rw [natural_of_pos _ hpos] at hx
    simp [lt_zero_iff hx]
  · rw [natural, dif_neg hpos] at hx
    exact not_lt_zero_of_zero hx

-- A double equals a natural number if it has its size and sign. Zeros have either sign.
theorem beq_ofNat_iff {x : Float} {n : Nat} (hshort : n < 2 ^ 53) :
    (x == Float.ofNat n) = true ↔
      ∃ sign, x.toModel.unpack = natural sign n ∧ ¬ x < Float.ofNat 0 := by
  have hn : (Float.ofNat n).toModel.unpack = natural .positive n := unpack_ofNat hshort
  by_cases hpos : 0 < n
  · constructor
    · intro heq
      rw [natural_of_pos _ hpos] at hn
      have hx := unpack_eq_of_beq heq hn
      rw [← natural_of_pos _ hpos] at hx
      exact ⟨.positive, hx, not_lt_zero_natural hx⟩
    · rintro ⟨sign, hx, hnonneg⟩
      cases sign with
      | positive => exact beq_of_unpack_eq hx hn (natural_ne_notANumber _ n)
      | negative =>
          rw [natural_of_pos _ hpos] at hx
          exact absurd ((lt_zero_iff hx).mpr rfl) hnonneg
  · obtain rfl : n = 0 := by omega
    constructor
    · intro heq
      rw [beq_iff, beq_iff_ne_notANumber_and_eq, hn] at heq
      rcases heq.2.2 with hx | ⟨hx, -⟩ | ⟨hx, -⟩
      · exact ⟨.positive, hx, not_lt_zero_of_zero hx⟩
      · exact ⟨.positive, hx, not_lt_zero_of_zero hx⟩
      · exact ⟨.negative, hx, not_lt_zero_of_zero hx⟩
    · rintro ⟨sign, hx, -⟩
      rw [beq_iff, hn, hx]
      cases sign <;> rfl

-- All bits of a greater double stand for whole numbers.
theorem roundToInt_nat (sign : Sign) (m k : Nat) :
    roundToInt sign m (k : Int) = sign.apply ((m * 2 ^ k : Nat) : Int) := by
  have hshift : ((k : Int) - 0).toNat = k := by omega
  have hnone : (0 - ((k : Int) - (k : Nat))).toNat = 0 := by omega
  unfold roundToInt decreaseExponent shiftToExponent
  simp only [hshift, hnone, Nat.shiftLeft_eq]
  rfl

theorem natAbs_apply (sign : Sign) (n : Nat) : (sign.apply (n : Int)).natAbs = n := by
  cases sign with
  | positive => exact Int.natAbs_natCast n
  | negative => exact (Int.natAbs_neg n).trans (Int.natAbs_natCast n)

theorem le_toNat_ofNatClamp {m n : Nat} (hmn : m ≤ n) (hsize : m < UInt64.size) :
    m ≤ (UInt64.ofNatClamp n).toNat := by
  rcases Nat.lt_or_ge n UInt64.size with hlt | hge
  · rw [UInt64.toNat_ofNatClamp_of_lt hlt]
    exact hmn
  · rw [UInt64.toNat_ofNatClamp_of_le hge]
    exact Nat.le_sub_one_of_lt hsize

-- Integer parts of doubles with a positive exponent are large.
theorem le_natAbs_truncate {x : Float} {sign : Sign} {m k : Nat} {h : 0 < m}
    (hx : x.toModel.unpack = .finite sign m ((k + 1 : Nat) : Int) h) :
    2 ^ 53 ≤ (truncate x).natAbs := by
  have hfull : 2 ^ 52 ≤ m := by
    rcases (fits_of_unpack hx).full with hfull | hlow
    · exact hfull
    · omega
  have hlarge : 2 ^ 53 ≤ m * 2 ^ (k + 1) := by
    calc 2 ^ 53 = 2 ^ 52 * 2 ^ 1 := by norm_num
      _ ≤ m * 2 ^ (k + 1) := Nat.mul_le_mul hfull (Nat.pow_le_pow_right (by norm_num) (by omega))
  unfold truncate
  split
  · have hpart : (wholePart x).toNat = (UInt64.ofNatClamp (m * 2 ^ (k + 1))).toNat := by
      change (UInt64.ofNatClamp (toInt 0 _ x.abs.toModel.unpack).toNat).toNat = _
      rw [unpack_abs_of_finite hx]
      change (UInt64.ofNatClamp (roundToInt .positive m ((k + 1 : Nat) : Int)).toNat).toNat = _
      rw [roundToInt_nat]
      rfl
    have hclamped := le_toNat_ofNatClamp hlarge (by norm_num [UInt64.size])
    split
    · rw [Int.natAbs_neg, Int.natAbs_natCast, hpart]
      exact hclamped
    · rw [Int.natAbs_natCast, hpart]
      exact hclamped
  · rw [hx]
    dsimp only
    rw [Int.toNat_natCast, Nat.shiftLeft_eq, natAbs_apply]
    exact hlarge

theorem truncate_nonneg {x : Float} (h : ¬ x < Float.ofNat 0) : 0 ≤ truncate x := by
  unfold truncate
  split
  · exact Int.natCast_nonneg _
  · split
    · rename_i sign m e hpos hx
      cases sign with
      | positive => exact Int.natCast_nonneg _
      | negative => exact absurd ((lt_zero_iff hx).mpr rfl) h
    · exact Int.le_refl 0

-- A whole double with a small integer part is that part, with a sign.
theorem exists_natural_of_natAbs_truncate {x : Float} (hwhole : Scalar.isWhole x = true)
    (hsmall : (truncate x).natAbs < 9000000000000000) :
    ∃ sign, x.toModel.unpack = natural sign (truncate x).natAbs := by
  obtain ⟨hfinite, hfloor⟩ := Bool.and_eq_true_iff.mp hwhole
  have hvalue : x.toModel.unpack.isFinite = true := hfinite
  cases hx : x.toModel.unpack with
  | infinity sign =>
      rw [hx] at hvalue
      contradiction
  | notANumber =>
      rw [hx] at hvalue
      contradiction
  | zero sign =>
      rw [truncate_of_zero hx]
      exact ⟨sign, rfl⟩
  | finite sign m e h =>
      obtain ⟨k, rfl⟩ | ⟨k, rfl⟩ : (∃ k : Nat, e = -(k : Int)) ∨ ∃ k : Nat, e = ((k + 1 : Nat) : Int) := by
        rcases Int.le_total e 0 with hneg | hpos
        · exact .inl ⟨e.natAbs, by omega⟩
        · by_cases hzero : e = 0
          · exact .inl ⟨0, hzero⟩
          · exact .inr ⟨e.toNat - 1, by omega⟩
      · rw [truncate_of_finite hx, natAbs_apply] at hsmall ⊢
        exact ⟨sign, (natural_eq_finite_iff.mpr
          (natural_eq_finite_iff.mp (natural_wholePart hx hsmall hfloor))).symm⟩
      · have hlarge := le_natAbs_truncate hx
        omega

end Skirmish.Binary64
