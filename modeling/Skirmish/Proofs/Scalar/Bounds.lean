import Skirmish.Proofs.Scalar.Fractions

namespace Skirmish.Binary64

open Float.Model (UnpackedFloat)
open Float.Model.Format (binary64)
open Float.Model.UnpackedFloat

theorem lt_nearest {n : Nat} (h : n < nearest 0 n) :
    2 ^ excess 0 n ≤ 2 * (n % 2 ^ excess 0 n) ∧
      nearest 0 n = (n / 2 ^ excess 0 n + 1) * 2 ^ excess 0 n := by
  have hdown : n / 2 ^ excess 0 n * 2 ^ excess 0 n ≤ n := Nat.div_mul_le_self _ _
  rw [nearest, rounded_eq_nearestQuotient, Nat.sub_zero, Decimal.nearestQuotient] at h ⊢
  split_ifs at h ⊢ with hup
  · exact ⟨by omega, rfl⟩
  · exact absurd hdown (Nat.not_le.mpr h)

-- Between a number and what is left of it when it is cut, all numbers have as many bits to lose.
theorem excess_of_le {a n : Nat} (hpos : 0 < excess 0 n)
    (hlow : n / 2 ^ excess 0 n * 2 ^ excess 0 n ≤ a) (hle : a ≤ n) : excess 0 a = excess 0 n := by
  have hlog : n.log2 = 52 + excess 0 n := by
    unfold excess at hpos ⊢
    omega
  have hn : n ≠ 0 := by
    rintro rfl
    rw [Nat.log2_zero] at hlog
    omega
  have hfull : 2 ^ 52 * 2 ^ excess 0 n ≤ n := by
    rw [← pow_add, ← hlog]
    exact Nat.log2_self_le hn
  have hshort : n < 2 ^ 53 * 2 ^ excess 0 n := by
    have hnext : 53 + excess 0 n = n.log2 + 1 := by omega
    rw [← pow_add, hnext]
    exact Nat.lt_log2_self
  refine excess_eq (le_trans (Nat.mul_le_mul_right _ ?_) hlow) (hle.trans_lt hshort)
  exact (Nat.le_div_iff_mul_le (by positivity)).mpr hfull

-- No number is rounded up as far as to one that is farther from it than a double below is.
theorem nearest_lt {a n b : Nat} (hdouble : nearest 0 a = a) (hle : a ≤ n)
    (hcloser : n - a < b - n) : nearest 0 n < b := by
  rcases Nat.lt_or_ge n (nearest 0 n) with hup | hdown
  · obtain ⟨hhalf, hnext⟩ := lt_nearest hup
    by_contra hbeyond
    rw [Nat.not_lt, hnext, Nat.succ_mul] at hbeyond
    have hunit : 0 < 2 ^ excess 0 n := by positivity
    have hsplit := Nat.div_add_mod' n (2 ^ excess 0 n)
    have hpos : 0 < excess 0 n := by
      by_contra hnone
      rw [Nat.eq_zero_of_not_pos hnone, pow_zero, Nat.mod_one] at hhalf
      omega
    have habove : n / 2 ^ excess 0 n * 2 ^ excess 0 n < a := by omega
    -- so close above what is cut, there is no double
    have hdvd : 2 ^ excess 0 n ∣ a := by
      rw [← hdouble, nearest, excess_of_le hpos habove.le hle, Nat.sub_zero]
      exact Nat.dvd_mul_left _ _
    obtain ⟨k, rfl⟩ := hdvd
    have hless : n / 2 ^ excess 0 n < k := by
      rw [Nat.mul_comm] at habove
      exact Nat.lt_of_mul_lt_mul_left habove
    have hmost : k ≤ n / 2 ^ excess 0 n :=
      (Nat.le_div_iff_mul_le hunit).mpr ((Nat.mul_comm _ _).trans_le hle)
    omega
  · omega

theorem settled_lt {a n b : Nat} (hdouble : settled a = a) (hpeak : a < peak) (hle : a ≤ n)
    (hcloser : n - a < b - n) : settled n < b := by
  rw [settled] at hdouble
  exact (min_le_left _ _).trans_lt (nearest_lt (by omega) hle hcloser)

-- A sum of a double and some more is less than what is farther from it than the double is.
theorem odd_settled_add_lt {p q b : Int} (hdouble : odd settled p = p) (hpeak : p.natAbs < peak)
    (hp : 0 ≤ p) (hq : 0 ≤ q) (hcloser : q < b - (p + q)) :
    0 ≤ odd settled (p + q) ∧ odd settled (p + q) < b := by
  obtain ⟨m, rfl⟩ := Int.eq_ofNat_of_zero_le hp
  obtain ⟨n, rfl⟩ := Int.eq_ofNat_of_zero_le hq
  obtain ⟨c, rfl⟩ := Int.eq_ofNat_of_zero_le (a := b) (by omega)
  have hsum : odd settled (m + n) = (settled (m + n) : Nat) := by
    rw [← Nat.cast_add]
    rfl
  have hless : settled (m + n) < c :=
    settled_lt (Int.ofNat_inj.mp hdouble) hpeak (Nat.le_add_right m n) (by omega)
  rw [hsum]
  exact ⟨Int.natCast_nonneg _, Int.ofNat_lt.mpr hless⟩

theorem place_le_peak (x : Float) : place x ≤ peak := by
  have hfit := fitting_unpack x.toModel
  unfold place
  cases hu : x.toModel.unpack with
  | notANumber => exact Int.natCast_nonneg _
  | infinity sign => cases sign <;> simp only [level, Sign.apply] <;> omega
  | zero sign => exact Int.natCast_nonneg _
  | finite sign m e h =>
      rw [hu] at hfit
      have hlt := Fits.steps_lt_peak hfit
      cases sign <;> simp only [level, Sign.apply] <;> omega

section Sums

variable {x y : Float}

-- Either part of a sum may be the closer double.
theorem place_add_lt (hx : x.isFinite = true) (hy : y.isFinite = true) (hx' : 0 ≤ place x)
    (hy' : 0 ≤ place y) {b : Int} (hcloser : min (place x) (place y) < b - (place x + place y)) :
    (x + y).isNaN = false ∧ 0 ≤ place (x + y) ∧ place (x + y) < b := by
  obtain ⟨hnumber, hplace⟩ := place_add hx hy
  refine ⟨hnumber, ?_⟩
  rw [hplace]
  rcases min_lt_iff.mp hcloser with hcloser | hcloser
  · rw [Int.add_comm] at hcloser ⊢
    exact odd_settled_add_lt (odd_settled_place hy) (natAbs_place_lt hy) hy' hx' hcloser
  · exact odd_settled_add_lt (odd_settled_place hx) (natAbs_place_lt hx) hx' hy' hcloser

theorem place_sub (hx : x.isFinite = true) (hy : y.isFinite = true) :
    (x - y).isNaN = false ∧ place (x - y) = odd settled (place x - place y) := by
  obtain ⟨hnumber, hplace⟩ := place_add hx ((isFinite_neg y).trans hy)
  rw [sub_eq_add_neg_float, Int.sub_eq_add_neg, ← place_neg]
  exact ⟨hnumber, hplace⟩

-- Between zero and a double, nothing is rounded beyond either.
theorem odd_settled_nonneg {b : Int} (h : 0 ≤ b) : 0 ≤ odd settled b := by
  calc (0 : Int) = odd settled 0 := (congrArg Nat.cast settled_zero).symm
    _ ≤ odd settled b := odd_mono settled_mono h

theorem odd_settled_le_place {b : Int} (hx : x.isFinite = true) (h : b ≤ place x) :
    odd settled b ≤ place x := by
  calc odd settled b ≤ odd settled (place x) := odd_mono settled_mono h
    _ = place x := odd_settled_place hx

-- What is less than a rounded difference is less than the difference.
theorem lt_of_lt_odd_settled {b : Int} (hx : x.isFinite = true) (h : place x < odd settled b) :
    place x < b := by
  by_contra hge
  have hmono := odd_mono settled_mono (Int.not_lt.mp hge)
  rw [odd_settled_place hx] at hmono
  omega

-- Twice a double is a double, if it is not too great.
theorem place_two_mul (hx : x.isFinite = true) (hx' : 0 ≤ place x)
    (htwice : (Float.ofNat 2 * x).isFinite = true) : place (Float.ofNat 2 * x) = 2 * place x := by
  have htwo : IsInteger (Float.ofNat 2) 2 := IsInteger.ofInt (n := 2) (by decide)
  have hvalue : place (Float.ofNat 2 * x) = odd settled (2 * place x) := by
    rw [(place_mul htwo.isFinite hx).2, htwo.place_eq, mul_right_comm, odd_settledProduct_mul_unit]
  rcases hx'.eq_or_lt with hzero | hpos
  · rw [hvalue, ← hzero, Int.mul_zero]
    exact congrArg Nat.cast settled_zero
  · obtain ⟨m, e, hfits, hsteps⟩ := exists_positive hx hpos
    have hdouble : 2 * steps m e = m * 2 ^ ((e + 1074).toNat + 1) := by
      rw [steps, pow_succ']
      exact Nat.mul_left_comm _ _ _
    have hsettled : odd settled (2 * place x) = (min (2 * steps m e) peak : Nat) := by
      rw [hsteps, ← Nat.cast_ofNat, ← Nat.cast_mul]
      change ((settled (2 * steps m e) : Nat) : Int) = _
      rw [settled, hdouble, nearest_of_short hfits.short]
    have hpeak := natAbs_place_lt htwice
    omega

-- What is less than anything is not infinite.
theorem isFinite_of_lt (hnonneg : Float.ofNat 0 ≤ x) (hlt : x < y) : x.isFinite = true := by
  obtain ⟨hx, hy, -⟩ := le_iff_place.mp (MonotoneScalar.le_of_lt hlt)
  have hless := (lt_iff_place hx hy).mp hlt
  have hplace := place_nonneg hnonneg
  have hpeak := place_le_peak y
  exact isFinite_of_place hx (by omega)

-- Without its fraction, a part of a number is zero or a lesser whole number.
theorem isInteger_floor_part (hx : x.isFinite = true) (hy : y.isFinite = true) (hx' : 0 ≤ place x)
    (hlt : place x < unit) (hy' : 0 ≤ place y) :
    ∃ k : Int, IsInteger (floor (x * y)) k ∧ 0 ≤ k ∧ (k = 0 ∨ k * unit < place y) := by
  by_cases hone : (unit : Int) ≤ place y
  · obtain ⟨k, hk, hpos, hless⟩ := isInteger_floor_mul hx hy hx' hlt hone
    exact ⟨k, hk, hpos, .inr hless⟩
  · obtain ⟨hnumber, hplace⟩ := place_mul hx hy
    have hlow : 0 ≤ place (x * y) := by
      calc (0 : Int) = odd settledProduct 0 := (congrArg Nat.cast settledProduct_zero).symm
        _ ≤ odd settledProduct (place x * place y) :=
            odd_mono settledProduct_mono (mul_nonneg hx' hy')
        _ = place (x * y) := hplace.symm
    have hhigh : place (x * y) ≤ place x := by
      calc place (x * y) = odd settledProduct (place x * place y) := hplace
        _ ≤ odd settledProduct (place x * unit) :=
            odd_mono settledProduct_mono (mul_le_mul_of_nonneg_left (by omega) hx')
        _ = place x := by rw [odd_settledProduct_mul_unit, odd_settled_place hx]
    have hpeak := natAbs_place_lt hx
    have hfinite : (x * y).isFinite = true := isFinite_of_place hnumber (by omega)
    exact ⟨_, isInteger_floor hfinite hlow, tdiv_unit_nonneg hlow,
      .inl (Int.tdiv_eq_zero_of_lt hlow (hhigh.trans_lt hlt))⟩

theorem isInteger_floor_zero_mul (hy : y.isFinite = true) :
    IsInteger (floor (Float.ofNat 0 * y)) 0 := by
  obtain ⟨hnumber, hplace⟩ := place_mul (x := Float.ofNat 0) (by decide +kernel) hy
  have hzero : place (Float.ofNat 0 * y) = 0 := by
    rw [hplace, place_zero, Int.zero_mul]
    exact congrArg Nat.cast settledProduct_zero
  have hfinite : (Float.ofNat 0 * y).isFinite = true :=
    isFinite_of_place hnumber (by rw [hzero]; exact peak_pos)
  have hfloor := isInteger_floor hfinite hzero.ge
  rwa [hzero, Int.zero_tdiv] at hfloor

end Sums

theorem isShort_of_not_isFinite {x : Float} (hx : x.isFinite = false) : isShort x = false := by
  have hvalue : x.toModel.unpack.isFinite = false := hx
  have hsize : (Float.ofNat UInt64.size).toModel.unpack =
      .finite .positive (2 ^ 52) 12 (by norm_num) := rfl
  unfold isShort
  rw [decide_eq_false_iff_not, lt_iff, unpack_abs, hsize]
  cases hu : x.toModel.unpack with
  | notANumber => simp [UnpackedFloat.abs, UnpackedFloat.compare]
  | infinity sign => simp [UnpackedFloat.abs, UnpackedFloat.compare]
  | zero sign => rw [hu] at hvalue; contradiction
  | finite sign m e h => rw [hu] at hvalue; contradiction

theorem floor_of_not_isFinite {x : Float} (hx : x.isFinite = false) : floor x = x := by
  unfold floor
  dsimp only
  rw [isShort_of_not_isFinite hx, Bool.not_false, Bool.true_or, if_pos rfl]

theorem fitting_of_not_isFinite {u : UnpackedFloat} (hu : u.isFinite = false) : Fitting u := by
  cases u with
  | finite sign m e h => contradiction
  | _ => trivial

-- No part of infinity is finite.
theorem isFinite_mul_eq_false {x y : Float} (hy : y.isFinite = false) :
    (x * y).isFinite = false := by
  have hvalue : y.toModel.unpack.isFinite = false := hy
  have hproduct :
      (UnpackedFloat.mul binary64 x.toModel.unpack y.toModel.unpack).isFinite = false := by
    cases hv : y.toModel.unpack with
    | notANumber => cases x.toModel.unpack <;> rfl
    | infinity sign => cases x.toModel.unpack <;> rfl
    | zero sign => rw [hv] at hvalue; contradiction
    | finite sign m e h => rw [hv] at hvalue; contradiction
  change (Float.Model.pack (UnpackedFloat.mul binary64 x.toModel.unpack
    y.toModel.unpack)).unpack.isFinite = false
  rw [unpack_pack (fitting_of_not_isFinite hproduct), hproduct]

theorem isFinite_of_floor_mul {x y : Float} (h : (floor (x * y)).isFinite = true) :
    y.isFinite = true := by
  by_contra hy
  have hproduct := isFinite_mul_eq_false (x := x) (Bool.eq_false_iff.mpr hy)
  rw [floor_of_not_isFinite hproduct, hproduct] at h
  exact Bool.false_ne_true h

theorem isFinite_add_eq_false {x y : Float} (h : x.isFinite = false ∨ y.isFinite = false) :
    (x + y).isFinite = false := by
  have hvalues : x.toModel.unpack.isFinite = false ∨ y.toModel.unpack.isFinite = false := h
  have hsum : (UnpackedFloat.add binary64 x.toModel.unpack y.toModel.unpack).isFinite = false := by
    generalize x.toModel.unpack = u at hvalues ⊢
    generalize y.toModel.unpack = v at hvalues ⊢
    cases u with
    | notANumber => cases v <;> rfl
    | infinity sign =>
        cases v with
        | infinity sign' => cases sign <;> cases sign' <;> rfl
        | _ => rfl
    | _ =>
        have hv := hvalues.resolve_left nofun
        cases v with
        | notANumber => rfl
        | infinity sign' => rfl
        | zero sign' => contradiction
        | finite sign' m e h => contradiction
  change (Float.Model.pack (UnpackedFloat.add binary64 x.toModel.unpack
    y.toModel.unpack)).unpack.isFinite = false
  rw [unpack_pack (fitting_of_not_isFinite hsum), hsum]

theorem isFinite_of_add {x y : Float} (h : (x + y).isFinite = true) :
    x.isFinite = true ∧ y.isFinite = true := by
  constructor
  · by_contra hx
    rw [isFinite_add_eq_false (.inl (Bool.eq_false_iff.mpr hx))] at h
    exact Bool.false_ne_true h
  · by_contra hy
    rw [isFinite_add_eq_false (.inr (Bool.eq_false_iff.mpr hy))] at h
    exact Bool.false_ne_true h

end Skirmish.Binary64
