import Mathlib.Tactic.NormNum
import Skirmish.Geometry.Precision
import Skirmish.Proofs.Scalar.Halves

namespace Skirmish

namespace Reals

-- Each step takes the lowest binary digit off the exponent.
theorem powerFrom_eq (total base : ℝ) (n : ℕ) :
    Scalar.powerFrom total base n = total * base ^ n := by
  have hdigit : ∀ total base : ℝ, ∀ n : ℕ, (if n % 2 = 1 then total * base else total) *
      (base * base) ^ (n / 2) = total * base ^ n := by
    intro total base n
    have hlowest : (if n % 2 = 1 then total * base else total) = total * base ^ (n % 2) := by
      rcases Nat.mod_two_eq_zero_or_one n with h | h <;> simp [h]
    rw [hlowest, mul_assoc, ← sq, ← pow_mul, ← pow_add, Nat.mod_add_div]
  fun_induction Scalar.powerFrom total base n with
  | case1 total base n total' hlast =>
      rw [← hdigit, hlast, pow_zero, mul_one]
      rfl
  | case2 total base n total' hmore ih =>
      rw [ih]
      exact hdigit total base n

theorem tenTo_eq (n : ℤ) : (Scalar.tenTo n : ℝ) = 10 ^ n := by
  simp only [Scalar.tenTo, powerFrom_eq, Int.cast_one, Int.cast_ofNat, one_mul]
  split_ifs with hneg
  · rw [one_div, ← zpow_natCast, ← zpow_neg, Int.natCast_natAbs, abs_of_neg hneg, neg_neg]
  · rw [← zpow_natCast, Int.natCast_natAbs, abs_of_nonneg (not_lt.mp hneg)]

end Reals

namespace Scalar

open Reals

-- The unit of the last of so many significant digits.
noncomputable def lastPlace (x : ℝ) (digits : ℤ) : ℝ := 10 ^ (Int.log 10 |x| + 1 - digits)

theorem lastPlace_pos (x : ℝ) (digits : ℤ) : 0 < lastPlace x digits := by
  unfold lastPlace
  positivity

theorem toPrecision_zero (digits : ℤ) : toPrecision (0 : ℝ) digits = 0 := by
  simp [toPrecision]

theorem toPrecision_eq_onGrid {x : ℝ} (hx : x ≠ 0) (digits : ℤ) :
    toPrecision x digits = onGrid (lastPlace x digits) x := by
  have hfactor : (tenTo (digits - 1 - decimalExponent x) : ℝ) = (lastPlace x digits)⁻¹ := by
    change tenTo (digits - 1 - Int.log 10 |x|) = _
    rw [tenTo_eq, lastPlace, ← zpow_neg]
    congr 1
    ring
  unfold toPrecision
  simp only [beq_eq, Int.cast_zero, hx, decide_false, isFinite_eq, Bool.not_true, Bool.or_self,
    Bool.false_eq_true, if_false, hfactor, div_inv_eq_mul]
  rw [← div_eq_mul_inv, onGrid]

theorem toPrecision_neg (x : ℝ) (digits : ℤ) : toPrecision (-x) digits = -toPrecision x digits := by
  by_cases hx : x = 0
  · rw [hx, neg_zero, toPrecision_zero, neg_zero]
  · have hplace : lastPlace (-x) digits = lastPlace x digits := by rw [lastPlace, abs_neg, lastPlace]
    rw [toPrecision_eq_onGrid (neg_ne_zero.mpr hx), toPrecision_eq_onGrid hx, hplace, onGrid_neg]

theorem toPrecision_induction {digits : ℤ} {p : ℝ → ℝ → Prop} (hzero : p 0 0)
    (hneg : ∀ x r, p x r → p (-x) (-r)) (hpos : ∀ x, 0 < x → p x (toPrecision x digits)) (x : ℝ) :
    p x (toPrecision x digits) := by
  rcases lt_trichotomy x 0 with hx | rfl | hx
  · have hopposite := hneg _ _ (hpos (-x) (neg_pos.mpr hx))
    rwa [toPrecision_neg, neg_neg, neg_neg] at hopposite
  · rwa [toPrecision_zero]
  · exact hpos x hx

section Positive

variable {x : ℝ} (hx : 0 < x) {digits : ℤ}

include hx

-- The place of the leading digit.
theorem mem_Ico_log : x ∈ Set.Ico ((10 : ℝ) ^ Int.log 10 x) (10 ^ (Int.log 10 x + 1)) := by
  have hlow := Int.zpow_log_le_self (by norm_num : 1 < 10) hx
  have hhigh := Int.lt_zpow_succ_log_self (by norm_num : 1 < 10) x
  exact ⟨by exact_mod_cast hlow, by exact_mod_cast hhigh⟩

theorem lastPlace_of_pos : lastPlace x digits = 10 ^ (Int.log 10 x + 1 - digits) := by
  rw [lastPlace, abs_of_pos hx]

omit hx in
theorem log_eq_of_mem {e : ℤ} (h : x ∈ Set.Ico ((10 : ℝ) ^ e) (10 ^ (e + 1))) : Int.log 10 x = e := by
  have hpos : 0 < x := lt_of_lt_of_le (by positivity) h.1
  have hlow : e ≤ Int.log 10 x :=
    (Int.zpow_le_iff_le_log (by norm_num : 1 < 10) hpos).mp (by exact_mod_cast h.1)
  have hhigh : Int.log 10 x < e + 1 :=
    (Int.lt_zpow_iff_log_lt (by norm_num : 1 < 10) hpos).mp (by exact_mod_cast h.2)
  omega

-- Powers of ten that are not less than the unit are multiples of it.
theorem exists_zpow_eq_mul {k : ℤ} (hk : Int.log 10 x + 1 - digits ≤ k) :
    ∃ n : ℤ, (10 : ℝ) ^ k = n * lastPlace x digits := by
  refine ⟨10 ^ (k - (Int.log 10 x + 1 - digits)).toNat, ?_⟩
  rw [lastPlace_of_pos hx, Int.cast_pow, Int.cast_ofNat, ← zpow_natCast,
    Int.toNat_of_nonneg (by omega), ← zpow_add₀ (by norm_num)]
  congr 1
  ring

theorem onGrid_zpow {k : ℤ} (hk : Int.log 10 x + 1 - digits ≤ k) :
    onGrid (lastPlace x digits) (10 ^ k) = 10 ^ k := by
  obtain ⟨n, hn⟩ := exists_zpow_eq_mul hx hk
  rw [hn, onGrid_mul (lastPlace_pos x digits)]

variable (hdigits : 1 ≤ digits)

include hdigits

-- A number is not rounded out of its decade, or only up to the next one.
theorem toPrecision_mem_Icc :
    toPrecision x digits ∈ Set.Icc ((10 : ℝ) ^ Int.log 10 x) (10 ^ (Int.log 10 x + 1)) := by
  obtain ⟨hlow, hhigh⟩ := mem_Ico_log hx
  have hmono := monotone_onGrid (lastPlace_pos x digits)
  rw [toPrecision_eq_onGrid hx.ne']
  constructor
  · calc (10 : ℝ) ^ Int.log 10 x = onGrid (lastPlace x digits) (10 ^ Int.log 10 x) :=
          (onGrid_zpow hx (by omega)).symm
      _ ≤ onGrid (lastPlace x digits) x := hmono hlow
  · calc onGrid (lastPlace x digits) x
        ≤ onGrid (lastPlace x digits) (10 ^ (Int.log 10 x + 1)) := hmono hhigh.le
      _ = 10 ^ (Int.log 10 x + 1) := onGrid_zpow hx (by omega)

theorem toPrecision_pos : 0 < toPrecision x digits :=
  lt_of_lt_of_le (by positivity) (toPrecision_mem_Icc hx hdigits).1

omit hx in
theorem toPrecision_zpow (k : ℤ) : toPrecision ((10 : ℝ) ^ k) digits = 10 ^ k := by
  have hpos : (0 : ℝ) < 10 ^ k := by positivity
  have hlog : Int.log 10 ((10 : ℝ) ^ k) = k := by
    have h := Int.log_zpow (R := ℝ) (by norm_num : 1 < 10) k
    exact_mod_cast h
  rw [toPrecision_eq_onGrid hpos.ne', onGrid_zpow hpos (by omega)]

-- Carried into the next decade, the result is a power of ten and stays on the coarser grid there.
theorem toPrecision_toPrecision_of_pos :
    toPrecision (toPrecision x digits) digits = toPrecision x digits := by
  obtain ⟨hlow, hhigh⟩ := toPrecision_mem_Icc hx hdigits
  rcases hhigh.lt_or_eq with hwithin | hcarried
  · have hpos := toPrecision_pos hx hdigits
    have hplace : lastPlace (toPrecision x digits) digits = lastPlace x digits := by
      rw [lastPlace_of_pos hpos, lastPlace_of_pos hx, log_eq_of_mem ⟨hlow, hwithin⟩]
    obtain ⟨n, hn⟩ := exists_onGrid (lastPlace x digits) x
    rw [toPrecision_eq_onGrid hpos.ne', hplace, toPrecision_eq_onGrid hx.ne', hn,
      onGrid_mul (lastPlace_pos x digits)]
  · rw [hcarried, toPrecision_zpow hdigits]

-- Numbers of one decade are rounded on one grid, and those of two are kept apart by a power of ten.
theorem toPrecision_le_of_pos {y : ℝ} (hxy : x ≤ y) : toPrecision x digits ≤ toPrecision y digits := by
  have hy : 0 < y := hx.trans_le hxy
  rcases (Int.log_mono_right (b := 10) hx hxy).lt_or_eq with hless | hsame
  · calc toPrecision x digits ≤ 10 ^ (Int.log 10 x + 1) := (toPrecision_mem_Icc hx hdigits).2
      _ ≤ 10 ^ Int.log 10 y := zpow_le_zpow_right₀ (by norm_num) (by omega)
      _ ≤ toPrecision y digits := (toPrecision_mem_Icc hy hdigits).1
  · have hplace : lastPlace y digits = lastPlace x digits := by
      rw [lastPlace_of_pos hx, lastPlace_of_pos hy, hsame]
    rw [toPrecision_eq_onGrid hx.ne', toPrecision_eq_onGrid hy.ne', hplace]
    exact monotone_onGrid (lastPlace_pos x digits) hxy

end Positive

variable {digits : ℤ} (hdigits : 1 ≤ digits)

include hdigits

theorem sign_toPrecision (x : ℝ) : SignType.sign (toPrecision x digits) = SignType.sign x := by
  refine toPrecision_induction (p := fun x r => SignType.sign r = SignType.sign x) rfl ?_ ?_ x
  · intro x r hsame
    rw [Left.sign_neg, Left.sign_neg, hsame]
  · intro x hx
    rw [sign_pos (toPrecision_pos hx hdigits), sign_pos hx]

theorem toPrecision_toPrecision (x : ℝ) :
    toPrecision (toPrecision x digits) digits = toPrecision x digits := by
  refine toPrecision_induction (p := fun _ r => toPrecision r digits = r) (toPrecision_zero digits)
    ?_ (fun x hx => toPrecision_toPrecision_of_pos hx hdigits) x
  intro _ r hstays
  rw [toPrecision_neg, hstays]

theorem monotone_toPrecision : Monotone fun x : ℝ => toPrecision x digits := by
  intro x y hxy
  rcases lt_or_ge 0 x with hpos | hnonpos
  · exact toPrecision_le_of_pos hpos hdigits hxy
  rcases lt_or_ge y 0 with hneg | hnonneg
  · have hopposite := toPrecision_le_of_pos (neg_pos.mpr hneg) hdigits (neg_le_neg hxy)
    rwa [toPrecision_neg, toPrecision_neg, neg_le_neg_iff] at hopposite
  · have hbelow : toPrecision x digits ≤ 0 := by
      rwa [← sign_nonpos_iff, sign_toPrecision hdigits, sign_nonpos_iff]
    have habove : 0 ≤ toPrecision y digits := by
      rwa [← sign_nonneg_iff, sign_toPrecision hdigits, sign_nonneg_iff]
    exact hbelow.trans habove

omit hdigits

-- A value is rounded to a whole number of units of its last significant digit, to the nearest and,
-- of two, to the one farther from zero. It keeps its sign, what is rounded stays as it is, and the
-- order of values is kept, across powers of ten as well.
theorem toPrecision_is_rounding {x : ℝ} (hx : x ≠ 0) {digits : ℤ} (hdigits : 1 ≤ digits) :
    (∃ e : ℤ, |x| ∈ Set.Ico ((10 : ℝ) ^ e) (10 ^ (e + 1)) ∧
      (∃ n : ℤ, toPrecision x digits = n * 10 ^ (e + 1 - digits)) ∧
      |toPrecision x digits - x| ≤ 10 ^ (e + 1 - digits) / 2 ∧
      (|toPrecision x digits - x| = 10 ^ (e + 1 - digits) / 2 → |x| < |toPrecision x digits|)) ∧
    SignType.sign (toPrecision x digits) = SignType.sign x ∧
    toPrecision x digits ≠ 0 ∧
    toPrecision (toPrecision x digits) digits = toPrecision x digits ∧
    ∀ y, x ≤ y → toPrecision x digits ≤ toPrecision y digits := by
  have hsign := sign_toPrecision hdigits x
  refine ⟨⟨Int.log 10 |x|, mem_Ico_log (abs_pos.mpr hx), ?_⟩, hsign, ?_,
    toPrecision_toPrecision hdigits x, fun y hxy => monotone_toPrecision hdigits hxy⟩
  · have hunit := lastPlace_pos x digits
    rw [toPrecision_eq_onGrid hx]
    exact ⟨exists_onGrid _ x, abs_onGrid_sub_le hunit x, abs_lt_abs_onGrid hunit x⟩
  · rw [← sign_ne_zero, hsign, sign_ne_zero]
    exact hx

-- To three digits 999.5, half way between two numbers, is 1000, which has one digit more before the
-- point and stays as it is.
theorem toPrecision_is_rounding_carried :
    (1999 / 2 : ℝ) ≠ 0 ∧ (1 : ℤ) ≤ 3 ∧ toPrecision (1999 / 2 : ℝ) 3 = 1000 ∧
      toPrecision (1000 : ℝ) 3 = 1000 ∧
      (1999 / 2 : ℝ) ≤ 1004 ∧ toPrecision (1999 / 2 : ℝ) 3 ≤ toPrecision (1004 : ℝ) 3 := by
  have hne : (1999 / 2 : ℝ) ≠ 0 := by norm_num
  have hdigits : (1 : ℤ) ≤ 3 := by decide
  have hle : (1999 / 2 : ℝ) ≤ 1004 := by norm_num
  obtain ⟨⟨e, hplace, ⟨n, hn⟩, hnear, haway⟩, -, -, hstays, horder⟩ :=
    toPrecision_is_rounding hne hdigits
  have htwo : e = 2 := by
    rw [← log_eq_of_mem hplace]
    exact log_eq_of_mem ⟨by norm_num [abs_of_pos], by norm_num [abs_of_pos]⟩
  subst htwo
  have hunit : (10 : ℝ) ^ ((2 : ℤ) + 1 - 3) = 1 := by norm_num
  rw [hunit, mul_one] at hn
  rw [hunit, hn] at hnear haway
  obtain ⟨hlow, hhigh⟩ := abs_le.mp hnear
  have hbelow : (998 : ℤ) < n := by exact_mod_cast (by linarith : (998 : ℝ) < n)
  have habove : n < 1001 := by exact_mod_cast (by linarith : (n : ℝ) < 1001)
  have hupper : n ≠ 999 := by
    rintro rfl
    have hless := haway (by norm_num [abs_of_neg])
    norm_num [abs_of_pos] at hless
  have hcarried : toPrecision (1999 / 2 : ℝ) 3 = 1000 := by
    have hthousand : n = 1000 := by omega
    rw [hn, hthousand, Int.cast_ofNat]
  refine ⟨hne, hdigits, hcarried, ?_, hle, horder 1004 hle⟩
  rwa [hcarried] at hstays

end Scalar

end Skirmish
