import Skirmish.Decimal.Text
import Skirmish.Proofs.Scalar.Nearest

namespace Skirmish.Decimal

open Binary64

namespace Interval

variable {i : Interval} {digits : Nat}

theorem holds_of_nearest? (h : i.nearest? = some digits) : i.holds digits = true := by
  unfold nearest? at h
  cases hbelow : i.holds (i.value / i.unit) with
  | true =>
      cases habove : i.holds (i.value / i.unit + 1) with
      | true =>
          simp only [hbelow, habove, Option.some.injEq] at h
          split at h
          · rw [← h, hbelow]
          · rw [← h, habove]
      | false =>
          simp only [hbelow, habove, Option.some.injEq] at h
          rw [← h, hbelow]
  | false =>
      cases habove : i.holds (i.value / i.unit + 1) with
      | true =>
          simp only [hbelow, habove, Option.some.injEq] at h
          rw [← h, habove]
      | false => simp [hbelow, habove] at h

theorem nearest?_ne_none (h : i.holds (i.value / i.unit) = true) : i.nearest? ≠ none := by
  simp only [nearest?, h]
  cases i.holds (i.value / i.unit + 1) with
  | true => exact Option.some_ne_none _
  | false => exact Option.some_ne_none _

theorem holds_iff : i.holds digits = true ↔
    (i.low < digits * i.unit ∧ digits * i.unit < i.high) ∨
      (i.closed = true ∧ (digits * i.unit = i.low ∨ digits * i.unit = i.high)) := by
  simp [holds]

end Interval

section Grids

variable {m e g digits c v : Nat}

-- Quarters of the last place on a grid that is not finer than the integers.
theorem four_mul_scale (e : Nat) : 4 * 2 ^ (e - 2) = 2 ^ e * 2 ^ (2 - e) := by
  match e with
  | 0 => rfl
  | 1 => rfl
  | e + 2 =>
      rw [Nat.add_sub_cancel, Nat.sub_eq_zero_of_le (Nat.le_add_left 2 e), pow_add]
      ring

theorem quarters_eq (c e : Nat) : 4 * (c * 2 ^ (e - 2)) = c * 2 ^ e * 2 ^ (2 - e) := by
  rw [Nat.mul_left_comm, four_mul_scale, Nat.mul_assoc]

theorem quarters_le_iff : c * 2 ^ (e - 2) ≤ v * 2 ^ (2 - e) ↔ c * 2 ^ e ≤ 4 * v := by
  rw [← Nat.mul_le_mul_left_iff (show 0 < 4 by decide), quarters_eq, ← Nat.mul_assoc,
    Nat.mul_le_mul_right_iff (by positivity)]

theorem le_quarters_iff : v * 2 ^ (2 - e) ≤ c * 2 ^ (e - 2) ↔ 4 * v ≤ c * 2 ^ e := by
  rw [← Nat.mul_le_mul_left_iff (show 0 < 4 by decide), quarters_eq, ← Nat.mul_assoc,
    Nat.mul_le_mul_right_iff (by positivity)]

-- On such a grid the ends of the interval and its points are whole numbers of quarters.
theorem ofDouble_natCast (m e g : Nat) : Interval.ofDouble m e g =
    { low := (4 * m - if m = 2 ^ 52 then 1 else 2) * 2 ^ (e - 2)
      value := 4 * m * 2 ^ (e - 2)
      high := (4 * m + 2) * 2 ^ (e - 2)
      unit := 2 ^ (2 - e) * 10 ^ g
      closed := m % 2 = 0 } := by
  have hnarrow : (m = 1 <<< 52 ∧ (e : Int) ≠ -1074) = (m = 2 ^ 52) :=
    propext ⟨fun h => h.1, fun h => ⟨h, by omega⟩⟩
  have hpoint : (-(g : Int)).toNat = 0 := by omega
  have hfine : ((2 : Int) - e).toNat = 2 - e := by omega
  have hcoarse : ((e : Int) - 2).toNat = e - 2 := by omega
  simp only [Interval.ofDouble, hnarrow, hpoint, hfine, hcoarse, Int.toNat_natCast]
  simp

theorem near_of_holds (h : (Interval.ofDouble m e g).holds digits = true) :
    Near m e (digits * 10 ^ g) := by
  have hpoint : digits * (2 ^ (2 - e) * 10 ^ g) = digits * 10 ^ g * 2 ^ (2 - e) := by ring
  rw [ofDouble_natCast, Interval.holds_iff] at h
  simp only [hpoint, decide_eq_true_eq] at h
  have hends : (4 * m - if m = 2 ^ 52 then 1 else 2) * 2 ^ (e - 2) ≤ (4 * m + 2) * 2 ^ (e - 2) :=
    Nat.mul_le_mul_right _ (by omega)
  constructor
  · exact quarters_le_iff.mp (by omega)
  · exact le_quarters_iff.mp (by omega)
  · intro hodd
    rw [← not_le, ← not_le, ← quarters_le_iff, ← le_quarters_iff]
    rw [if_neg (by omega)] at h
    omega

-- The double itself is a point of the grid of the integers.
theorem nearest?_integers (hm : 0 < m) (e : Nat) :
    (Interval.ofDouble m e 0).nearest? ≠ none := by
  have hunit : 0 < 2 ^ (2 - e) := by positivity
  have hscale : 0 < 2 ^ (e - 2) := by positivity
  apply Interval.nearest?_ne_none
  have hvalue : 4 * m * 2 ^ (e - 2) = m * 2 ^ e * 2 ^ (2 - e) := by
    rw [Nat.mul_assoc, quarters_eq]
  have h := ofDouble_natCast m e 0
  rw [Nat.cast_zero, pow_zero, Nat.mul_one] at h
  rw [h, Interval.holds_iff, hvalue, Nat.mul_div_cancel _ hunit, ← hvalue]
  exact .inl ⟨Nat.mul_lt_mul_of_pos_right (by split <;> omega) hscale,
    Nat.mul_lt_mul_of_pos_right (by omega) hscale⟩

-- The search meets the interval at the latest on the grid of the integers.
theorem exists_firstHit (hm : 0 < m) (e : Nat) {fuel start : Nat} (hfuel : start < fuel) :
    ∃ digits g : Nat, firstHit m e fuel start = some ⟨digits, g⟩ ∧ Near m e (digits * 10 ^ g) := by
  induction fuel generalizing start with
  | zero => exact absurd hfuel (Nat.not_lt_zero _)
  | succ fuel ih =>
      rw [firstHit]
      cases hnearest : (Interval.ofDouble m e start).nearest? with
      | some digits =>
          exact ⟨digits, start, rfl, near_of_holds (Interval.holds_of_nearest? hnearest)⟩
      | none =>
          cases start with
          | zero => exact absurd hnearest (nearest?_integers hm e)
          | succ start =>
              have hgrid : ((start + 1 : Nat) : Int) - 1 = start := by omega
              rw [hgrid]
              exact ih (by omega)

-- A double of sixteen to nineteen digits is written as an integer that is read as the double.
theorem exists_shortest (hfull : 2 ^ 52 ≤ m) (hshort : m < 2 ^ 53) (he : e ≤ 11) :
    ∃ digits g : Nat, shortest m e = ⟨digits, g⟩ ∧ Near m e (digits * 10 ^ g) := by
  have hlog : m.log2 = 52 := by
    have hle := (Nat.le_log2 (by omega)).mpr hfull
    have hlt := (Nat.log2_lt (by omega)).mpr hshort
    omega
  have hstart : ((m.log2 : Int) + e) * 30103 / 100000 + 2 =
      ((((52 + e) * 30103 / 100000 + 2 : Nat)) : Int) := by
    rw [hlog]
    omega
  obtain ⟨digits, g, hhit, hnear⟩ :=
    exists_firstHit (m := m) (by omega) e (show (52 + e) * 30103 / 100000 + 2 < 21 by omega)
  refine ⟨digits, g, ?_, hnear⟩
  simp only [shortest, hstart, hhit]
  rfl

end Grids

theorem toDigits_mul_ten_pow {digits : Nat} (hpos : 0 < digits) (g : Nat) :
    Nat.toDigits 10 digits ++ zeros g = Nat.toDigits 10 (digits * 10 ^ g) := by
  induction g with
  | zero => simp [zeros]
  | succ g ih =>
      have hmore : digits * 10 ^ (g + 1) = 10 * (digits * 10 ^ g) + 0 := by ring
      rw [hmore, ← Nat.toDigits_append_toDigits (by decide) (by positivity) (by decide), ← ih,
        zeros, List.replicate_succ', ← List.append_assoc]
      rfl

theorem positional_natCast {digits : Nat} (hpos : 0 < digits) (g : Nat) :
    positional ⟨digits, g⟩ = (digits * 10 ^ g).repr := by
  unfold positional
  rw [if_pos (Int.natCast_nonneg g), if_neg hpos.ne', Int.toNat_natCast,
    Nat.repr_eq_ofList_toDigits, String.toList_ofList, toDigits_mul_ten_pow hpos,
    Nat.repr_eq_ofList_toDigits]

end Skirmish.Decimal
