import Skirmish.Language.Printer
import Skirmish.Proofs.Decimal.Shortest
import Skirmish.Proofs.Scalar.Wholes

namespace Skirmish

open Float.Model (UnpackedFloat)
open Float.Model.UnpackedFloat

namespace Binary64

section Full

variable {n : Nat}

theorem place_ofInt_apply (sign : Sign) (n : Nat) :
    (Float.ofInt (sign.apply n)).isNaN = false ∧
      place (Float.ofInt (sign.apply n)) = sign.apply (settled (n * unit) : Nat) := by
  obtain ⟨hnumber, hplace⟩ := place_ofInt (sign.apply n)
  rw [apply_mul, odd_settled_apply] at hplace
  exact ⟨hnumber, hplace⟩

theorem abs_ofInt_lt_iff {k : Nat} (hk : k ≤ 2 ^ 53) (sign : Sign) (n : Nat) :
    (Float.ofInt (sign.apply n)).abs < Float.ofNat k ↔ n < k := by
  obtain ⟨hnumber, hplace⟩ := place_ofInt_apply sign n
  rw [lt_iff_place ((isNaN_abs _).trans hnumber) (place_ofNat k).1, place_abs, hplace,
    Int.abs_eq_natAbs, natAbs_apply, (place_ofNat k).2, Int.ofNat_lt]
  constructor
  · contrapose!
    exact fun h => settled_mono (Nat.mul_le_mul_right unit h)
  · intro h
    rw [settled_mul_unit hk, settled_mul_unit (h.le.trans hk)]
    exact Nat.mul_lt_mul_of_pos_right h unit_pos

theorem place_ofInt_of_full (sign : Sign) (hfull : 2 ^ 52 ≤ n) (hle : n ≤ 2 ^ 64) :
    (Float.ofInt (sign.apply n)).isFinite = true ∧
      place (Float.ofInt (sign.apply n)) = sign.apply (nearest 0 n * unit : Nat) := by
  obtain ⟨hnumber, hplace⟩ := place_ofInt_apply sign n
  rw [settled_mul_unit_of_full hfull hle] at hplace
  refine ⟨isFinite_of_place hnumber ?_, hplace⟩
  rw [hplace, natAbs_apply]
  exact mul_unit_lt_peak (nearest_le hle)

theorem apply_natCast_inj {sign sign' : Sign} {a b : Nat} (ha : 0 < a) (hb : 0 < b)
    (h : sign.apply (a : Int) = sign'.apply b) : sign = sign' ∧ a = b := by
  cases sign <;> cases sign' <;>
    simp only [Sign.apply, reduceCtorEq, true_and, false_and] at h ⊢ <;> omega

-- The parts of such a double.
theorem exists_parts (sign : Sign) (hfull : 2 ^ 52 ≤ n) (hle : n ≤ 2 ^ 64) :
    ∃ m e : Nat, ∃ h : 0 < m, (Float.ofInt (sign.apply n)).toModel.unpack = .finite sign m e h ∧
      2 ^ 52 ≤ m ∧ m < 2 ^ 53 ∧ m * 2 ^ e = nearest 0 n := by
  obtain ⟨hfinite, hplace⟩ := place_ofInt_of_full sign hfull hle
  have hleast := le_nearest hfull
  have hpos : 0 < nearest 0 n * unit := Nat.mul_pos (by omega) unit_pos
  have hne : sign.apply (nearest 0 n * unit : Nat) ≠ 0 := by
    rw [← Int.natAbs_ne_zero, natAbs_apply]
    exact hpos.ne'
  obtain ⟨sign', m, e, hm, hunpack, hparts⟩ := exists_finite hfinite (hplace ▸ hne)
  obtain ⟨hshort, hbits, hlow⟩ := (fits_of_unpack hunpack).canonical
  obtain ⟨rfl, hsteps⟩ := apply_natCast_inj hpos (steps_pos hm e) (hplace.symm.trans hparts)
  rcases Int.le_total 0 e with hnonneg | hneg
  · obtain ⟨k, rfl⟩ := Int.eq_ofNat_of_zero_le hnonneg
    rw [steps_natCast] at hsteps
    exact ⟨m, k, hm, hunpack, by omega, hshort, (Nat.mul_right_cancel unit_pos hsteps).symm⟩
  · obtain ⟨k, rfl⟩ := Int.exists_eq_neg_ofNat hneg
    -- it has fewer bits than the least of these integers
    have hscaled := steps_neg_mul m (show k ≤ 1074 by omega)
    rw [← hsteps, Nat.mul_right_comm] at hscaled
    have hcut : nearest 0 n * 2 ^ k = m := Nat.mul_right_cancel unit_pos hscaled
    have hzero : k = 0 := by
      by_contra hk
      have hdouble := Nat.mul_le_mul hleast (Nat.le_self_pow hk 2)
      omega
    subst hzero
    exact ⟨m, 0, hm, hunpack, by omega, hshort, by omega⟩

-- The half-way point below 2 ^ 63 goes up, as all ties go to an even mantissa.
theorem nearest_of_lt (h : n < 2 ^ 63 - 512) : nearest 0 n ≤ 2 ^ 63 - 1024 := by
  have hlast : Near (2 ^ 53 - 1) 10 (2 ^ 63 - 513) :=
    ⟨by norm_num, by norm_num, fun _ => by norm_num⟩
  calc nearest 0 n ≤ nearest 0 (2 ^ 63 - 513) := nearest_mono 0 (by omega)
    _ = (2 ^ 53 - 1) * 2 ^ 10 := hlast.nearest_eq (by norm_num) (by norm_num)
    _ = 2 ^ 63 - 1024 := by norm_num

theorem nearest_of_le (h : 2 ^ 63 - 512 ≤ n) (hle : n ≤ 2 ^ 63) : nearest 0 n = 2 ^ 63 := by
  have hfirst : Near (2 ^ 52) 11 (2 ^ 63 - 512) := ⟨by norm_num, by norm_num, by norm_num⟩
  have hlow := hfirst.nearest_eq le_rfl (by norm_num) ▸ nearest_mono 0 h
  have hhigh := nearest_le hle
  omega

end Full

end Binary64

namespace Decimal

open Binary64

theorem toString_apply (sign : Sign) {v : Nat} (hpos : 0 < v) :
    toString (sign.apply (v : Int)) = signText sign ++ v.repr := by
  obtain ⟨v, rfl⟩ := Nat.exists_eq_succ_of_ne_zero hpos.ne'
  cases sign with
  | positive => exact (String.empty_append).symm
  | negative => rfl

theorem plain_eq {x : Float} {sign : Sign} {m e digits g : Nat} {h : 0 < m}
    (hx : x.toModel.unpack = .finite sign m e h) (hshortest : shortest m e = ⟨digits, g⟩)
    (hpos : 0 < digits) : plain x = toString (sign.apply (digits * 10 ^ g : Nat)) := by
  rw [toString_apply sign (by positivity), ← positional_natCast hpos, ← hshortest]
  unfold plain textOf
  rw [hx]
  dsimp only
  rw [shortestOrZero, if_neg h.ne']

theorem shortest_limit : shortest (2 ^ 52) 11 = ⟨9223372036854776, 3⟩ := by
  decide +kernel

end Decimal

open Binary64

theorem exists_apply (n : Int) : ∃ sign : Sign, n = sign.apply n.natAbs := by
  rcases Int.natAbs_eq n with hn | hn
  · exact ⟨.positive, hn⟩
  · exact ⟨.negative, hn⟩

theorem numberText_of_lt {n : Nat} (sign : Sign) (h : n < 9000000000000000) :
    numberText (Float.ofInt (sign.apply n)) = toString (sign.apply (n : Int)) := by
  have hinteger : IsInteger (Float.ofInt (sign.apply n)) (sign.apply n) :=
    .ofInt (by rw [natAbs_apply]; omega)
  unfold numberText
  rw [hinteger.isWhole, decide_eq_true ((abs_ofInt_lt_iff (by omega) sign n).mpr h), Bool.and_true,
    if_pos rfl]
  exact congrArg toString hinteger.truncate_eq

theorem numberText_of_le {n : Nat} (sign : Sign) (h : 9000000000000000 ≤ n) :
    numberText (Float.ofInt (sign.apply n)) = Decimal.plain (Float.ofInt (sign.apply n)) := by
  unfold numberText
  rw [decide_eq_false (mt (abs_ofInt_lt_iff (by omega) sign n).mp (by omega)), Bool.and_false]
  exact if_neg Bool.false_ne_true

theorem exponent_le {m e bits : Nat} (hfull : 2 ^ 52 ≤ m) (h : m * 2 ^ e < 2 ^ (53 + bits)) :
    e ≤ bits := by
  by_contra hlt
  have hlarge : 2 ^ 52 * 2 ^ (bits + 1) ≤ m * 2 ^ e :=
    Nat.mul_le_mul hfull (Nat.pow_le_pow_right (by decide) (by omega))
  rw [← pow_add] at hlarge
  have hbits : 52 + (bits + 1) = 53 + bits := by omega
  rw [hbits] at hlarge
  exact absurd h (Nat.not_lt.mpr hlarge)

theorem le_of_near {m e v : Nat} (h : Near m e v) : 4 * v ≤ 4 * (m * 2 ^ e) + 2 * 2 ^ e :=
  h.high.trans_eq (by ring)

theorem lt_of_near {m e v : Nat} (h : Near m e v) (hfull : 2 ^ 52 ≤ m)
    (hvalue : m * 2 ^ e ≤ 2 ^ 63 - 1024) : v < 2 ^ 63 := by
  have hexponent : e ≤ 10 := exponent_le hfull (by omega)
  have hstep : 2 ^ e ≤ 2 ^ 10 := Nat.pow_le_pow_right (by decide) hexponent
  have hhigh := le_of_near h
  omega

-- The fewest digits of 2 ^ 63 itself are above it.
theorem lt_of_shortest {m e digits g : Nat} (h : Decimal.shortest m e = ⟨digits, g⟩)
    (hfull : 2 ^ 52 ≤ m) (hshort : m < 2 ^ 53) (hvalue : m * 2 ^ e = 2 ^ 63) :
    2 ^ 63 < digits * 10 ^ g := by
  have hle : e ≤ 11 := exponent_le hfull (by omega)
  obtain rfl : e = 11 := by
    by_contra hne
    have hlt : m * 2 ^ e < 2 ^ 53 * 2 ^ 10 :=
      Nat.mul_lt_mul_of_lt_of_le hshort (Nat.pow_le_pow_right (by decide) (by omega)) (by decide)
    omega
  obtain rfl : m = 2 ^ 52 := by omega
  obtain ⟨rfl, hg⟩ := Decimal.mk.inj (h.symm.trans Decimal.shortest_limit)
  obtain rfl : g = 3 := Int.ofNat_inj.mp hg
  norm_num

-- From 9 * 10 ^ 15 on, what is printed stays on the side of 2 ^ 63 on which the double is.
theorem exists_numberText_of_le {n : Nat} (sign : Sign) (hlow : 9000000000000000 ≤ n)
    (hhigh : n ≤ 2 ^ 63) :
    ∃ k : Nat, numberText (Float.ofInt (sign.apply n)) = toString (sign.apply (k : Int)) ∧
      (Float.ofInt (sign.apply k) == Float.ofInt (sign.apply n)) = true ∧
      (n < 2 ^ 63 - 512 → k < 2 ^ 63) ∧ (2 ^ 63 - 512 ≤ n → 2 ^ 63 < k) := by
  obtain ⟨m, e, hm, hunpack, hfull, hshort, hvalue⟩ :=
    exists_parts (n := n) sign (by omega) (by omega)
  have hleast : 2 ^ 52 ≤ nearest 0 n := le_nearest (by omega)
  have hmost : nearest 0 n ≤ 2 ^ 63 := nearest_le hhigh
  have he : e ≤ 11 := exponent_le hfull (by omega)
  obtain ⟨digits, g, hshortest, hnear⟩ := Decimal.exists_shortest hfull hshort he
  have hsame : nearest 0 (digits * 10 ^ g) = nearest 0 n :=
    (hnear.nearest_eq hfull hshort).trans hvalue
  have hlower : 2 ^ 52 ≤ digits * 10 ^ g := by
    by_contra hlt
    have hself := nearest_of_short (m := digits * 10 ^ g) (by omega) 0
    rw [pow_zero, Nat.mul_one] at hself
    omega
  have hupper : digits * 10 ^ g ≤ 2 ^ 64 := by
    have hstep : 2 ^ e ≤ 2 ^ 11 := Nat.pow_le_pow_right (by decide) he
    have hends := le_of_near hnear
    omega
  have hdigits : 0 < digits := Nat.pos_of_mul_pos_right (by omega : 0 < digits * 10 ^ g)
  refine ⟨digits * 10 ^ g, ?_, ?_, fun hinside => ?_, fun houtside => ?_⟩
  · rw [numberText_of_le sign hlow, Decimal.plain_eq hunpack hshortest hdigits]
  · obtain ⟨hfinite, hplace⟩ := place_ofInt_of_full sign hlower hupper
    obtain ⟨hfinite', hplace'⟩ := place_ofInt_of_full (n := n) sign (by omega) (by omega)
    rw [beq_iff_place (isNaN_of_isFinite hfinite) (isNaN_of_isFinite hfinite'), hplace, hplace', hsame]
  · exact lt_of_near hnear hfull (hvalue.trans_le (nearest_of_lt hinside))
  · exact lt_of_shortest hshortest hfull hshort (hvalue.trans (nearest_of_le houtside hhigh))

-- A literal's number is printed as some integer of the same double, though not always one of 64 bits.
theorem exists_numberText {n : Int} (hword : n.natAbs ≤ 2 ^ 63) :
    ∃ k : Int, numberText (Float.ofInt n) = toString k ∧
      (Float.ofInt k == Float.ofInt n) = true ∧
      (n.natAbs < 2 ^ 63 - 512 → k.natAbs < 2 ^ 63) ∧
      (2 ^ 63 - 512 ≤ n.natAbs → 2 ^ 63 < k.natAbs) := by
  obtain ⟨sign, hn⟩ := exists_apply n
  generalize n.natAbs = size at hn hword ⊢
  subst hn
  rcases Nat.lt_or_ge size 9000000000000000 with hsmall | hlarge
  · have hself : (Float.ofInt (sign.apply size) == Float.ofInt (sign.apply size)) = true := by
      have hnumber := (place_ofInt_apply sign size).1
      rw [beq_iff_place hnumber hnumber]
    refine ⟨sign.apply size, numberText_of_lt sign hsmall, hself, fun _ => ?_, fun _ => ?_⟩
    · rw [natAbs_apply]
      omega
    · omega
  · obtain ⟨k, htext, hsame, hinside, houtside⟩ := exists_numberText_of_le sign hlarge hword
    rw [← natAbs_apply sign k] at hinside houtside
    exact ⟨sign.apply k, htext, hsame, hinside, houtside⟩

end Skirmish
