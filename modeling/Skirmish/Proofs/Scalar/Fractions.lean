import Skirmish.Proofs.Draws
import Skirmish.Proofs.Scalar.Wholes

namespace Skirmish.Binary64

open Float.Model (UnpackedFloat)
open Float.Model.UnpackedFloat

-- The greatest double below one has all its bits set.
theorem steps_mul_le_of_lt_unit {m : Nat} {e : Int} (h : Canonical m e) (hlt : steps m e < unit) :
    steps m e * 2 ^ 53 ≤ (2 ^ 53 - 1) * unit := by
  have hlow := h.low
  have hshort := h.short
  rcases Int.le_total 0 e with hpos | hneg
  · obtain ⟨k, rfl⟩ := Int.eq_ofNat_of_zero_le hpos
    have hfull : 2 ^ 52 ≤ m := h.full.resolve_right (by omega)
    rw [steps_natCast] at hlt
    exact absurd hlt (Nat.not_lt.mpr (Nat.le_mul_of_pos_left _ (by positivity)))
  · obtain ⟨k, rfl⟩ := Int.exists_eq_neg_ofNat hneg
    have hscaled := steps_neg_mul m (k := k) (by omega)
    by_cases hk : 53 ≤ k
    · calc steps m (-(k : Int)) * 2 ^ 53 ≤ steps m (-(k : Int)) * 2 ^ k :=
            Nat.mul_le_mul_left _ (pow_le_pow_right₀ (by norm_num) hk)
        _ = m * unit := hscaled
        _ ≤ (2 ^ 53 - 1) * unit := Nat.mul_le_mul_right _ (by omega)
    · have hfull : 2 ^ 52 ≤ m := h.full.resolve_right (by omega)
      refine absurd hlt (Nat.not_lt.mpr (Nat.le_of_mul_le_mul_right ?_ (show 0 < 2 ^ k by positivity)))
      calc unit * 2 ^ k ≤ unit * 2 ^ 52 :=
            Nat.mul_le_mul_left _ (pow_le_pow_right₀ (by norm_num) (by omega))
        _ ≤ m * unit := by
            rw [Nat.mul_comm]
            exact Nat.mul_le_mul_right _ hfull
        _ = steps m (-(k : Int)) * 2 ^ k := hscaled.symm

-- So much of a number with all the bits of a double is rounded to a lesser one.
theorem nearest_part_lt {m : Nat} (hfull : 2 ^ 52 ≤ m) (hshort : m < 2 ^ 53) (j : Nat) :
    nearest 0 ((2 ^ 53 - 1) * m * 2 ^ j) < m * 2 ^ (53 + j) := by
  have hunit : 0 < 2 ^ j := by positivity
  have hsplit : 2 ^ (53 + j) = 2 ^ 53 * 2 ^ j := pow_add 2 53 j
  by_cases hpower : m = 2 ^ 52
  · have hvalue : (2 ^ 53 - 1) * m * 2 ^ j = (2 ^ 53 - 1) * 2 ^ (52 + j) := by
      rw [hpower, pow_add, Nat.mul_assoc]
    rw [hvalue, nearest_of_short (by norm_num), hpower, hsplit, pow_add]
    omega
  · have hproduct : m * 2 ^ j ≤ (2 ^ 53 - 1) * 2 ^ j := Nat.mul_le_mul_right _ (by omega)
    have hproduct' : (2 ^ 52 + 1) * 2 ^ j ≤ m * 2 ^ j := Nat.mul_le_mul_right _ (by omega)
    have hless : (m - 1) * 2 ^ (53 + j) + 2 ^ (53 + j) = 2 ^ 53 * (m * 2 ^ j) := by
      rw [hsplit, ← Nat.succ_mul, Nat.succ_eq_add_one, Nat.sub_add_cancel (by omega)]
      ring
    have hnear : Near (m - 1) (53 + j) ((2 ^ 53 - 1) * m * 2 ^ j) := by
      have hfour : 4 * (m - 1) * 2 ^ (53 + j) = 4 * ((m - 1) * 2 ^ (53 + j)) := Nat.mul_assoc _ _ _
      rw [Nat.mul_assoc]
      constructor
      · refine (Nat.mul_le_mul_right _ (Nat.sub_le _ _)).trans ?_
        omega
      · rw [Nat.add_mul]
        omega
      · intro
        rw [Nat.sub_mul, Nat.add_mul]
        omega
    rw [hnear.nearest_eq (by omega) (by omega)]
    exact Nat.mul_lt_mul_of_pos_right (by omega) (by positivity)

theorem low_of_unit_le {m : Nat} {e : Int} (h : Canonical m e) (hle : unit ≤ steps m e) : -52 ≤ e := by
  have hlow := h.low
  by_contra hless
  obtain ⟨k, rfl⟩ := Int.exists_eq_neg_ofNat (a := e) (by omega)
  refine absurd hle (Nat.not_le.mpr (Nat.lt_of_mul_lt_mul_right (a := 2 ^ k) ?_))
  calc steps m (-(k : Int)) * 2 ^ k = m * unit := steps_neg_mul m (by omega)
    _ < 2 ^ 53 * unit := Nat.mul_lt_mul_of_pos_right h.short unit_pos
    _ ≤ 2 ^ k * unit := Nat.mul_le_mul_right _ (pow_le_pow_right₀ (by norm_num) (by omega))
    _ = unit * 2 ^ k := Nat.mul_comm _ _

-- A part of a double that is not below one is less, even if it is rounded up.
theorem settledProduct_lt {n m : Nat} {e : Int} (h : Canonical m e)
    (hpart : n * 2 ^ 53 ≤ (2 ^ 53 - 1) * unit) (hone : unit ≤ steps m e) :
    settledProduct (n * steps m e) < steps m e := by
  have hlow := low_of_unit_le h hone
  have hfull : 2 ^ 52 ≤ m := h.full.resolve_right (by omega)
  obtain ⟨j, hj⟩ := Nat.exists_eq_add_of_le (show 53 ≤ (e + 1074).toNat by omega)
  rw [steps, hj]
  calc settledProduct (n * (m * 2 ^ (53 + j))) = settledProduct (n * 2 ^ 53 * (m * 2 ^ j)) := by
        congr 1
        ring
    _ ≤ settledProduct ((2 ^ 53 - 1) * unit * (m * 2 ^ j)) :=
        settledProduct_mono (Nat.mul_le_mul_right _ hpart)
    _ = settled ((2 ^ 53 - 1) * m * 2 ^ j) := by
        rw [← settledProduct_mul_unit]
        congr 1
        ring
    _ ≤ nearest 0 ((2 ^ 53 - 1) * m * 2 ^ j) := min_le_left _ _
    _ < m * 2 ^ (53 + j) := nearest_part_lt hfull h.short j

section Fractions

variable {x y : Float}

theorem exists_positive (hx : x.isFinite = true) (hpos : 0 < place x) :
    ∃ m e, Fits m e ∧ place x = (steps m e : Nat) := by
  obtain ⟨sign, m, e, hm, hu, hplace⟩ := exists_finite hx hpos.ne'
  cases sign with
  | positive => exact ⟨m, e, fits_of_unpack hu, hplace⟩
  | negative =>
      rw [hplace] at hpos
      simp only [Sign.apply] at hpos
      omega

theorem place_mul_lt (hx : x.isFinite = true) (hy : y.isFinite = true) (hnonneg : 0 ≤ place x)
    (hlt : place x < unit) (hone : (unit : Int) ≤ place y) :
    (x * y).isFinite = true ∧ 0 ≤ place (x * y) ∧ place (x * y) < place y := by
  obtain ⟨hnumber, hplace⟩ := place_mul hx hy
  have hunit := unit_pos
  have hpeak := natAbs_place_lt hy
  obtain ⟨m, e, hfits, hy'⟩ := exists_positive hy (by omega)
  obtain ⟨n, hn⟩ := Int.eq_ofNat_of_zero_le hnonneg
  have hpart : n * 2 ^ 53 ≤ (2 ^ 53 - 1) * unit := by
    rcases Nat.eq_zero_or_pos n with rfl | hpos
    · rw [Nat.zero_mul]
      exact Nat.zero_le _
    · obtain ⟨m', e', hfits', hx'⟩ := exists_positive hx (by omega)
      obtain rfl : n = steps m' e' := by omega
      exact steps_mul_le_of_lt_unit hfits'.canonical (by omega)
  have hsize := settledProduct_lt hfits.canonical hpart (by omega)
  have hproduct : place (x * y) = (settledProduct (n * steps m e) : Nat) := by
    rw [hplace, hn, hy']
    exact congrArg (odd settledProduct) (Nat.cast_mul n (steps m e)).symm
  rw [hy'] at hpeak ⊢
  rw [hproduct]
  refine ⟨isFinite_of_place hnumber ?_, Int.natCast_nonneg _, Int.ofNat_lt.mpr hsize⟩
  rw [hproduct]
  exact hsize.trans hpeak

-- Without its fraction, such a part is a whole number below the bound.
theorem isInteger_floor_mul (hx : x.isFinite = true) (hy : y.isFinite = true)
    (hnonneg : 0 ≤ place x) (hlt : place x < unit) (hone : (unit : Int) ≤ place y) :
    ∃ k : Int, IsInteger (floor (x * y)) k ∧ 0 ≤ k ∧ k * unit < place y := by
  obtain ⟨hfinite, hpart, hless⟩ := place_mul_lt hx hy hnonneg hlt hone
  refine ⟨_, isInteger_floor hfinite hpart, tdiv_unit_nonneg hpart, ?_⟩
  calc (place (x * y)).tdiv unit * unit ≤ place (x * y) := by
        rw [Int.tdiv_eq_ediv_of_nonneg hpart]
        exact Int.ediv_mul_le _ (Int.natCast_ne_zero.mpr unit_pos.ne')
    _ < place y := hless

end Fractions

-- What random bits are scaled by.
theorem unpack_grain : (Float.ofBits 0x3CA0000000000000).toModel.unpack =
    .finite .positive (2 ^ 52) (-105) (by norm_num) := rfl

theorem grain_eq : steps (2 ^ 52) (-105) = 2 ^ 1021 := by
  have hbits : (-105 + 1074 : Int).toNat = 969 := rfl
  rw [steps, hbits, ← pow_add]

-- So many bits are a double, and scaled they are a fraction of one.
theorem place_mul_grain {w : UInt64} (hshort : w.toNat < 2 ^ 53) :
    (w.toFloat * Float.ofBits 0x3CA0000000000000).isNaN = false ∧
      place (w.toFloat * Float.ofBits 0x3CA0000000000000) = (w.toNat * 2 ^ 1021 : Nat) := by
  obtain ⟨hnumber, hplace⟩ := place_toFloat w
  rw [settled_mul_unit hshort.le] at hplace
  have hfinite : w.toFloat.isFinite = true := by
    refine isFinite_of_place hnumber ?_
    rw [hplace, Int.natAbs_natCast]
    exact mul_unit_lt_peak (by omega)
  have hgrain : place (Float.ofBits 0x3CA0000000000000) = (2 ^ 1021 : Nat) := by
    rw [place, unpack_grain, ← grain_eq]
    rfl
  obtain ⟨hnumber', hplace'⟩ := place_mul hfinite (y := Float.ofBits 0x3CA0000000000000) rfl
  have hlimit : w.toNat * 2 ^ 1021 ≤ peak := by
    rw [peak_eq]
    exact (mul_two_pow_lt hshort.le (by decide)).le
  have hsettled : settledProduct (w.toNat * unit * 2 ^ 1021) = w.toNat * 2 ^ 1021 := by
    rw [Nat.mul_right_comm, settledProduct_mul_unit, settled_of_short hshort hlimit]
  refine ⟨hnumber', ?_⟩
  rw [hplace', hplace, hgrain, ← Nat.cast_mul]
  exact congrArg Nat.cast hsettled

end Skirmish.Binary64

namespace Skirmish

open Binary64

-- The upper bits of a word.
theorem place_unit_generator (g : Generator) : ∃ n < 2 ^ 53,
    (Draws.unit g).1.isNaN = false ∧ place (Draws.unit g).1 = (n * 2 ^ 1021 : Nat) := by
  have hshort : (UInt64.ofBitVec g.next.1 >>> 11).toNat < 2 ^ 53 := by
    have hword := (UInt64.ofBitVec g.next.1).toNat_lt
    rw [UInt64.toNat_shiftRight, Nat.shiftRight_eq_div_pow]
    change (UInt64.ofBitVec g.next.1).toNat / 2 ^ 11 < 2 ^ 53
    omega
  exact ⟨_, hshort, place_mul_grain hshort⟩

instance : SoundDraws Float Generator where
  unit_nonneg g := by
    obtain ⟨n, -, hnumber, hplace⟩ := place_unit_generator g
    refine le_iff_place.mpr ⟨(place_ofNat 0).1, hnumber, ?_⟩
    rw [hplace]
    exact place_zero.trans_le (Int.natCast_nonneg _)
  unit_lt_one g := by
    obtain ⟨n, hn, hnumber, hplace⟩ := place_unit_generator g
    refine lt_of_place hnumber (place_ofNat 1).1 ?_
    have hone : place ((1 : Int) : Float) = (unit : Nat) := place_ofNat_one
    rw [hplace, hone]
    apply Int.ofNat_lt.mpr
    calc n * 2 ^ 1021 < 2 ^ 53 * 2 ^ 1021 := Nat.mul_lt_mul_of_pos_right hn (by positivity)
      _ = unit := by rw [unit_eq, ← pow_add]

namespace SoundDraws

variable {G : Type} [Draws Float G] [SoundDraws Float G]

-- What is drawn is finite, from zero to below one.
theorem place_unit (g : G) : (Draws.unit g).1.isFinite = true ∧ 0 ≤ place (Draws.unit g).1 ∧
    place (Draws.unit g).1 < unit := by
  have hnonneg : Float.ofNat 0 ≤ (Draws.unit g).1 := unit_nonneg g
  have hlt : (Draws.unit g).1 < Float.ofNat 1 := unit_lt_one g
  have hfinite : (Draws.unit g).1.isFinite = true :=
    OrderedScalar.isFinite_of_le (a := Float.ofNat 0) (c := Float.ofNat 1) (by decide +kernel)
      (by decide +kernel) hnonneg (MonotoneScalar.le_of_lt hlt)
  have hless := (lt_iff_place (isNaN_of_isFinite hfinite) (place_ofNat 1).1).mp hlt
  rw [place_ofNat_one] at hless
  exact ⟨hfinite, place_nonneg hnonneg, hless⟩

end SoundDraws

end Skirmish
