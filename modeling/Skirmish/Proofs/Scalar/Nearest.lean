import Skirmish.Decimal.Rounded
import Skirmish.Proofs.Scalar.Rounding

namespace Skirmish.Binary64

open Float.Model (UnpackedFloat)
open Float.Model.UnpackedFloat

-- Of the bits that are cut off, it is kept whether the highest is set and whether any other is.
theorem repeat_shiftRightOne_succ (bits n : Nat) :
    Nat.repeat ExtendedMantissa.shiftRightOne (bits + 1) ⟨n, false, false⟩ =
      ⟨n / 2 ^ (bits + 1), n / 2 ^ bits % 2 != 0, n % 2 ^ bits != 0⟩ := by
  induction bits with
  | zero => simp [Nat.repeat, ExtendedMantissa.shiftRightOne, Nat.mod_one]
  | succ bits ih =>
      have hrest : (n % 2 ^ (bits + 1) != 0) = (n / 2 ^ bits % 2 != 0 || n % 2 ^ bits != 0) := by
        rw [Nat.mod_pow_succ]
        rcases Nat.mod_two_eq_zero_or_one (n / 2 ^ bits) with hbit | hbit
        · simp [hbit]
        · simp [hbit]
      rw [Nat.repeat, ih, ExtendedMantissa.shiftRightOne, Nat.div_div_eq_div_mul, ← pow_succ, hrest]

theorem roundedMantissa_eq (m : Nat) (half rest : Bool) :
    (⟨m, half, rest⟩ : ExtendedMantissa).roundedMantissa =
      if half = true ∧ (rest = true ∨ m % 2 = 1) then m + 1 else m := by
  rcases Nat.mod_two_eq_zero_or_one m with heven | hodd
  · cases half <;> cases rest <;>
      simp [ExtendedMantissa.roundedMantissa, ExtendedMantissa.accuracy,
        Accuracy.roundToNearestEven, heven]
  · cases half <;> cases rest <;>
      simp [ExtendedMantissa.roundedMantissa, ExtendedMantissa.accuracy,
        Accuracy.roundToNearestEven, hodd]

-- Cutting bits off is dividing.
theorem rounded_eq_nearestQuotient (bits n : Nat) :
    rounded bits n = Decimal.nearestQuotient n (2 ^ bits) := by
  cases bits with
  | zero => simp [rounded_zero, Decimal.nearestQuotient, Nat.mod_one]
  | succ bits =>
      have hpow : 2 ^ (bits + 1) = 2 * 2 ^ bits := pow_succ' 2 bits
      have hlow : n % 2 ^ bits < 2 ^ bits := Nat.mod_lt n (by positivity)
      unfold rounded Decimal.nearestQuotient
      rw [repeat_shiftRightOne_succ, roundedMantissa_eq, Nat.mod_pow_succ]
      refine if_congr ?_ rfl rfl
      rw [bne_iff_ne, bne_iff_ne]
      rcases Nat.mod_two_eq_zero_or_one (n / 2 ^ bits) with hbit | hbit
      · rw [hbit]
        omega
      · rw [hbit]
        omega

-- What is no farther than a half from an integer is rounded to it, and from an odd one, what is nearer.
theorem nearestQuotient_eq {n d q : Nat} (hd : 0 < d) (hlow : 2 * q * d ≤ 2 * n + d)
    (hhigh : 2 * n ≤ 2 * q * d + d)
    (hodd : q % 2 = 1 → 2 * q * d < 2 * n + d ∧ 2 * n < 2 * q * d + d) :
    Decimal.nearestQuotient n d = q := by
  have hsplit := Nat.div_add_mod n d
  have hrest := Nat.mod_lt n hd
  unfold Decimal.nearestQuotient
  generalize n / d = whole at hsplit ⊢
  generalize n % d = rest at hsplit hrest ⊢
  -- only the quotient and the next one are within reach
  have hcases : q = whole ∨ q = whole + 1 := by
    have hle : whole ≤ q := by
      by_contra hlt
      have hmul : (q + 1) * d ≤ whole * d := Nat.mul_le_mul_right d (by omega)
      nlinarith
    have hge : q ≤ whole + 1 := by
      by_contra hlt
      have hmul : (whole + 2) * d ≤ q * d := Nat.mul_le_mul_right d (by omega)
      nlinarith
    omega
  have hproduct : 2 * q * d = 2 * (d * q) := by ring
  rw [hproduct] at hlow hhigh hodd
  rcases hcases with rfl | rfl
  · exact if_neg (by omega)
  · have hnext : d * (whole + 1) = d * whole + d := by ring
    rw [hnext] at hlow hhigh hodd
    exact if_pos (by omega)

-- A number with no more bits than doubles have is one of them.
theorem nearest_of_short {m : Nat} (hshort : m < 2 ^ 53) (zeros : Nat) :
    nearest 0 (m * 2 ^ zeros) = m * 2 ^ zeros := by
  have hfew : excess 0 (m * 2 ^ zeros) ≤ zeros := by
    rcases Nat.eq_zero_or_pos m with rfl | hpos
    · simp [excess]
    · have hlog := log2_le_of_short hpos hshort
      unfold excess
      rw [log2_mul_two_pow hpos]
      omega
  unfold nearest
  generalize excess 0 (m * 2 ^ zeros) = bits at hfew ⊢
  obtain ⟨more, rfl⟩ := Nat.exists_eq_add_of_le hfew
  have hsplit : m * 2 ^ (bits + more) = m * 2 ^ more * 2 ^ bits := by
    rw [pow_add]
    ring
  rw [hsplit, rounded_mul, Nat.sub_zero]

theorem nearest_two_pow (bits : Nat) : nearest 0 (2 ^ bits) = 2 ^ bits := by
  have h : nearest 0 (1 * 2 ^ bits) = 1 * 2 ^ bits := nearest_of_short (by norm_num) bits
  rwa [Nat.one_mul] at h

theorem nearest_le {n bits : Nat} (h : n ≤ 2 ^ bits) : nearest 0 n ≤ 2 ^ bits :=
  (nearest_mono 0 h).trans_eq (nearest_two_pow bits)

theorem le_nearest {n bits : Nat} (h : 2 ^ bits ≤ n) : 2 ^ bits ≤ nearest 0 n :=
  (nearest_two_pow bits).symm.trans_le (nearest_mono 0 h)

-- Once a number has all the bits of a double, more zeros make no difference.
theorem nearest_mul_two_pow {n : Nat} (hfull : 2 ^ 52 ≤ n) (zeros : Nat) :
    nearest 0 (n * 2 ^ zeros) = nearest 0 n * 2 ^ zeros := by
  have hpos : 0 < n := by omega
  have hlog : 52 ≤ n.log2 := (Nat.le_log2 hpos.ne').mpr hfull
  have hexcess : excess 0 (n * 2 ^ zeros) = excess 0 n + zeros := by
    unfold excess
    rw [log2_mul_two_pow hpos]
    omega
  rw [nearest, nearest, hexcess, rounded_add_mul, Nat.sub_zero, Nat.sub_zero, pow_add, Nat.mul_assoc]

-- An integer that is read as the double of size m * 2 ^ e, measured in quarters of its last place.
-- Below a power of two the next double is half as far away.
structure Near (m e v : Nat) : Prop where
  low : (4 * m - if m = 2 ^ 52 then 1 else 2) * 2 ^ e ≤ 4 * v
  high : 4 * v ≤ (4 * m + 2) * 2 ^ e
  odd : m % 2 = 1 → (4 * m - 2) * 2 ^ e < 4 * v ∧ 4 * v < (4 * m + 2) * 2 ^ e

theorem excess_eq {n bits : Nat} (hlow : 2 ^ 52 * 2 ^ bits ≤ n) (hhigh : n < 2 ^ 53 * 2 ^ bits) :
    excess 0 n = bits := by
  rw [← pow_add] at hlow hhigh
  have hpos : n ≠ 0 := by
    rintro rfl
    exact absurd hlow (Nat.not_le.mpr (by positivity))
  have hle := (Nat.le_log2 hpos).mpr hlow
  have hlt := (Nat.log2_lt hpos).mpr hhigh
  unfold excess
  omega

theorem Near.nearest_eq {m e v : Nat} (h : Near m e v) (hfull : 2 ^ 52 ≤ m) (hshort : m < 2 ^ 53) :
    nearest 0 v = m * 2 ^ e := by
  obtain ⟨hlow, hhigh, hodd⟩ := h
  have hunit : 0 < 2 ^ e := by positivity
  by_cases hv : 2 ^ 52 * 2 ^ e ≤ v
  · have hexcess : excess 0 v = e := by
      refine excess_eq hv ?_
      have hmost : (4 * m + 2) * 2 ^ e ≤ (4 * 2 ^ 53 - 2) * 2 ^ e := Nat.mul_le_mul_right _ (by omega)
      omega
    have hquarter : (4 * m - 2) * 2 ^ e ≤ (4 * m - if m = 2 ^ 52 then 1 else 2) * 2 ^ e :=
      Nat.mul_le_mul_right _ (by split <;> omega)
    rw [nearest, hexcess, rounded_eq_nearestQuotient, Nat.sub_zero]
    congr 1
    rw [Nat.sub_mul] at hquarter hodd
    rw [Nat.add_mul] at hhigh hodd
    have hproduct : 2 * m * 2 ^ e = 2 * (m * 2 ^ e) := Nat.mul_assoc _ _ _
    have hproduct' : 4 * m * 2 ^ e = 4 * (m * 2 ^ e) := Nat.mul_assoc _ _ _
    rw [hproduct'] at hquarter hhigh hodd
    apply nearestQuotient_eq hunit
    · omega
    · omega
    · intro hm
      have := hodd hm
      omega
  · -- only below a power of two
    obtain rfl : m = 2 ^ 52 := by
      by_contra hne
      rw [if_neg hne] at hlow
      have hleast : (4 * 2 ^ 52 + 2) * 2 ^ e ≤ (4 * m - 2) * 2 ^ e := Nat.mul_le_mul_right _ (by omega)
      omega
    rw [if_pos rfl] at hlow
    cases e with
    | zero => omega
    | succ e =>
        have hdouble : 2 ^ (e + 1) = 2 * 2 ^ e := pow_succ' 2 e
        rw [hdouble] at hlow hv
        have hexcess : excess 0 v = e := by
          refine excess_eq ?_ ?_
          · omega
          · omega
        rw [nearest, hexcess, rounded_eq_nearestQuotient, Nat.sub_zero,
          nearestQuotient_eq (q := 2 ^ 53) (by positivity) (by omega) (by omega) (by norm_num), hdouble]
        ring

end Skirmish.Binary64
