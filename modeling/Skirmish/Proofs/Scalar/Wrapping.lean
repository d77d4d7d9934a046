import Skirmish.Proofs.Scalar.Wholes

namespace Skirmish

-- A rational number without its fraction.
def towardZero (q : ℚ) : Int := if 0 ≤ q then ⌊q⌋ else ⌈q⌉

-- What is left of a rational number after a quotient cut off toward zero.
def leftOver (p q : ℚ) : ℚ := p - q * towardZero (p / q)

theorem towardZero_neg (q : ℚ) : towardZero (-q) = -towardZero q := by
  unfold towardZero
  rcases lt_trichotomy q 0 with hneg | rfl | hpos
  · rw [if_pos (by linarith), if_neg (by linarith), Int.floor_neg]
  · simp
  · rw [if_neg (by linarith), if_pos hpos.le, Int.ceil_neg]

theorem towardZero_div_natCast (a : Int) (d : Nat) : towardZero ((a : ℚ) / d) = a.tdiv d := by
  have hnonneg : ∀ n : Nat, towardZero ((n : ℚ) / d) = (n : Int).tdiv d := by
    intro n
    have hfloor := Rat.floor_intCast_div_natCast n d
    rw [Int.cast_natCast] at hfloor
    rw [towardZero, if_pos (by positivity), hfloor, Int.tdiv_eq_ediv_of_nonneg (Int.natCast_nonneg n)]
  rcases Int.natAbs_eq a with ha | ha
  · rw [ha, Int.cast_natCast]
    exact hnonneg _
  · rw [ha, Int.cast_neg, Int.cast_natCast, neg_div, towardZero_neg, hnonneg, Int.neg_tdiv]

theorem towardZero_div (a b : Int) : towardZero ((a : ℚ) / b) = a.tdiv b := by
  rcases Int.natAbs_eq b with hb | hb
  · rw [hb, Int.cast_natCast]
    exact towardZero_div_natCast a _
  · rw [hb, Int.cast_neg, Int.cast_natCast, div_neg, towardZero_neg, towardZero_div_natCast,
      Int.tdiv_neg]

theorem towardZero_intCast (n : Int) : towardZero n = n := by
  have hone := towardZero_div n 1
  rwa [Int.cast_one, div_one, Int.tdiv_one] at hone

theorem leftOver_div_natCast (a b : Int) {d : Nat} (hd : 0 < d) :
    leftOver ((a : ℚ) / d) ((b : ℚ) / d) = (a.tmod b : Int) / d := by
  have hd' : (d : ℚ) ≠ 0 := Nat.cast_ne_zero.mpr hd.ne'
  rw [leftOver, div_div_div_cancel_right₀ hd', towardZero_div, Int.tmod_def]
  push_cast
  field_simp

namespace Binary64

open Float.Model (UnpackedFloat)
open Float.Model.Format (binary64)
open Float.Model.UnpackedFloat

-- The number that a double stands for, 0 for infinities and what is no number.
def value (x : Float) : ℚ :=
  match x.toModel.unpack with
  | .finite sign m e _ => sign.apply m * 2 ^ e
  | _ => 0

theorem steps_div_unit (m : Nat) {e : Int} (he : -1074 ≤ e) : (steps m e : ℚ) / unit = m * 2 ^ e := by
  obtain ⟨k, rfl⟩ : ∃ k : Nat, e = (k : Int) - 1074 := ⟨(e + 1074).toNat, by omega⟩
  have hbits : ((k : Int) - 1074 + 1074).toNat = k := by omega
  have hexponent : (2 : ℚ) ^ ((k : Int) - 1074) = 2 ^ k / 2 ^ 1074 := by
    rw [zpow_sub₀ (by norm_num), zpow_natCast]
    rfl
  rw [steps, hbits, unit_eq, hexponent, Nat.cast_mul, Nat.cast_pow, Nat.cast_pow, mul_div_assoc]
  rfl

theorem value_eq {x : Float} (hx : x.isFinite = true) : value x = (place x : ℚ) / unit := by
  have hvalue : x.toModel.unpack.isFinite = true := hx
  have hfit := fitting_unpack x.toModel
  unfold value place
  cases hu : x.toModel.unpack with
  | notANumber => rw [hu] at hvalue; contradiction
  | infinity sign => rw [hu] at hvalue; contradiction
  | zero sign => simp [level]
  | finite sign m e h =>
      rw [hu] at hfit
      have hsize := steps_div_unit m (Fits.low hfit)
      cases sign with
      | positive => simpa [level, Sign.apply] using hsize.symm
      | negative => simpa [level, Sign.apply, neg_div] using hsize.symm

section Values

variable {x y : Float} {m n : Int}

theorem unit_ne_zero : (unit : ℚ) ≠ 0 := Nat.cast_ne_zero.mpr unit_pos.ne'

theorem isInteger_iff : IsInteger x n ↔ x.isFinite = true ∧ value x = n := by
  have hplaces : ∀ hx : x.isFinite = true, place x = n * unit ↔ value x = n := by
    intro hx
    rw [value_eq hx, div_eq_iff unit_ne_zero]
    exact_mod_cast Iff.rfl
  exact ⟨fun h => ⟨h.isFinite, (hplaces h.isFinite).mp h.place_eq⟩,
    fun h => ⟨h.1, (hplaces h.1).mpr h.2⟩⟩

theorem towardZero_value (hx : x.isFinite = true) : towardZero (value x) = (place x).tdiv unit := by
  rw [value_eq hx, towardZero_div_natCast]

theorem beq_zero_iff (hx : x.isFinite = true) : (x == ((0 : Int) : Float)) = true ↔ value x = 0 := by
  have hzero : (x == ((0 : Int) : Float)) = true ↔ place x = place (Float.ofNat 0) :=
    beq_iff_place (isNaN_of_isFinite hx) (place_ofNat 0).1
  rw [hzero, place_zero, value_eq hx, div_eq_zero_iff, or_iff_left unit_ne_zero, Int.cast_eq_zero]

theorem value_abs (hx : x.isFinite = true) : value x.abs = |value x| := by
  rw [value_eq hx, value_eq ((isFinite_abs x).trans hx), place_abs, abs_div, Nat.abs_cast, Int.cast_abs]

end Values

section Remainders

variable {x y : Float} {a b : Int}

theorem tmod_eq_self {a b : Int} (h : a.natAbs < b.natAbs) : a.tmod b = a := by
  have hquotient : a.tdiv b = 0 := by
    rw [← Int.natAbs_eq_zero, Int.natAbs_tdiv]
    exact Nat.div_eq_of_lt h
  rw [Int.tmod_def, hquotient, Int.mul_zero, Int.sub_zero]

theorem roundWithAccuracy_zero (sign : Sign) (e : Int) :
    roundWithAccuracy binary64 sign 0 e .exact = .zero sign := by
  have hshift : ∀ e, (shiftToTargetExponent binary64 0 e .exact).1 = ⟨0, false, false⟩ := by
    intro e
    have hzeros := repeat_shiftRightOne 0
      (binary64.targetExponent (Float.Model.totalExponent 0 e) - e).toNat
    rwa [Nat.zero_mul] at hzeros
  have hrounded : (⟨0, false, false⟩ : ExtendedMantissa).roundedMantissa = 0 := rfl
  unfold roundWithAccuracy
  simp only [hshift, hrounded, dite_true]

theorem round_zero (sign : Sign) (e : Int) : UnpackedFloat.round binary64 sign 0 e = .zero sign := by
  unfold UnpackedFloat.round decreaseExponent
  simp only [Nat.zero_shiftLeft]
  exact roundWithAccuracy_zero sign _

theorem lies_round (sign : Sign) (n : Nat) {e : Int} (he : -1074 ≤ e) :
    Lies (UnpackedFloat.round binary64 sign n e) (sign.apply (settled (steps n e) : Nat)) := by
  rcases Nat.eq_zero_or_pos n with rfl | hpos
  · have hplace : sign.apply (settled (steps 0 e) : Nat) = 0 := by
      rw [steps, Nat.zero_mul, settled_zero]
      cases sign <;> rfl
    rw [round_zero, hplace]
    exact Fitting.lies (u := .zero sign) trivial rfl
  · exact (rounds_round sign hpos he).lies

-- What is left over has no more bits than the number with the lesser exponent.
theorem settled_steps_mod {m m' : Nat} {e e' : Int} (h : Fits m e) (h' : Fits m' e')
    (hpos : 0 < m') :
    settled (steps (m <<< (e - min e e').toNat % m' <<< (e' - min e e').toNat) (min e e')) =
      steps m e % steps m' e' := by
  have hlow : -1074 ≤ min e e' := le_min h.low h'.low
  have hsize : steps (m <<< (e - min e e').toNat % m' <<< (e' - min e e').toNat) (min e e') =
      steps m e % steps m' e' := by
    rw [← steps_shiftLeft m (min_le_left e e') hlow, ← steps_shiftLeft m' (min_le_right e e') hlow]
    exact (Nat.mul_mod_mul_right _ _ _).symm
  have hshort : m <<< (e - min e e').toNat % m' <<< (e' - min e e').toNat < 2 ^ 53 := by
    rcases Int.le_total e e' with hle | hle
    · rw [min_eq_left hle, Int.sub_self, Int.toNat_zero, Nat.shiftLeft_zero]
      exact Nat.lt_of_le_of_lt (Nat.mod_le _ _) h.short
    · rw [min_eq_right hle, Int.sub_self, Int.toNat_zero, Nat.shiftLeft_zero]
      exact (Nat.mod_lt _ hpos).trans h'.short
  have hle : steps (m <<< (e - min e e').toNat % m' <<< (e' - min e e').toNat) (min e e') ≤ peak := by
    rw [hsize]
    exact (Nat.mod_le _ _).trans h.steps_lt_peak.le
  exact (settled_of_short hshort hle).trans hsize

theorem apply_tmod (sign sign' : Sign) (a b : Nat) :
    (sign.apply a).tmod (sign'.apply b) = sign.apply (a % b : Nat) := by
  cases sign <;> cases sign' <;> simp only [Sign.apply, Int.neg_tmod, Int.tmod_neg] <;> rfl

theorem place_remainder (hx : x.isFinite = true) (hy : y.isFinite = true) (hne : place y ≠ 0) :
    (remainder x y).isFinite = true ∧ place (remainder x y) = (place x).tmod (place y) := by
  have hless : x.abs < y.abs ↔ (place x).natAbs < (place y).natAbs := by
    rw [lt_iff_place ((isNaN_abs x).trans (isNaN_of_isFinite hx))
      ((isNaN_abs y).trans (isNaN_of_isFinite hy)), place_abs, place_abs, Int.abs_eq_natAbs,
      Int.abs_eq_natAbs, Int.ofNat_lt]
  unfold remainder
  by_cases hlt : x.abs < y.abs
  · rw [if_pos hlt, tmod_eq_self (hless.mp hlt)]
    exact ⟨hx, rfl⟩
  · have hne' : place x ≠ 0 := by
      intro hzero
      have hpos := Int.natAbs_pos.mpr hne
      rw [hless, hzero] at hlt
      exact hlt hpos
    obtain ⟨sign, m, e, hm, hu, hplace⟩ := exists_finite hx hne'
    obtain ⟨sign', m', e', hm', hv, hplace'⟩ := exists_finite hy hne
    have hfits := fits_of_unpack hu
    have hfits' := fits_of_unpack hv
    obtain ⟨hnumber, hlevel⟩ := lies_round sign
      (m <<< (e - min e e').toNat % m' <<< (e' - min e e').toNat) (le_min hfits.low hfits'.low)
    rw [settled_steps_mod hfits hfits' hm'] at hlevel
    have hsize := congrArg Int.natAbs hlevel
    rw [natAbs_apply] at hsize
    have hbelow := Nat.lt_of_le_of_lt (Nat.mod_le (steps m e) (steps m' e')) hfits.steps_lt_peak
    rw [if_neg hlt, hu, hv, hplace, hplace', apply_tmod]
    exact ⟨isFinite_of_place hnumber (hsize.trans_lt hbelow), hlevel⟩

theorem value_remainder (hx : x.isFinite = true) (hy : y.isFinite = true) (hne : value y ≠ 0) :
    (remainder x y).isFinite = true ∧ value (remainder x y) = leftOver (value x) (value y) := by
  have hplace : place y ≠ 0 := by
    intro hzero
    rw [value_eq hy, hzero, Int.cast_zero, zero_div] at hne
    exact hne rfl
  obtain ⟨hfinite, hrest⟩ := place_remainder hx hy hplace
  refine ⟨hfinite, ?_⟩
  rw [value_eq hfinite, hrest, value_eq hx, value_eq hy, leftOver_div_natCast _ _ unit_pos]

theorem emod_eq_ite (a : Int) {b : Int} (hb : 0 < b) :
    a % b = if a.tmod b < 0 then a.tmod b + b else a.tmod b := by
  have hlow := Int.emod_nonneg a hb.ne'
  have hhigh := Int.emod_lt_of_pos a hb
  have hrest := Int.tmod_eq_emod (a := a) (b := b)
  split at hrest <;> split <;> omega

theorem IsInteger.modulo (hx : IsInteger x a) (hy : IsInteger y b) (hb : 0 < b)
    (hsmall : b.natAbs ≤ 2 ^ 53) : IsInteger (Scalar.modulo x y) (a % b) := by
  have hunit := Int.natCast_pos.mpr unit_pos
  have hne : place y ≠ 0 := by
    rw [hy.place_eq]
    exact (Int.mul_pos hb hunit).ne'
  obtain ⟨hfinite, hplace⟩ := place_remainder hx.isFinite hy.isFinite hne
  have hrest : IsInteger (remainder x y) (a.tmod b) := by
    refine ⟨hfinite, ?_⟩
    rw [hplace, hx.place_eq, hy.place_eq, Int.mul_comm a, Int.mul_comm b,
      Int.mul_tmod_mul_of_pos _ _ hunit, Int.mul_comm]
  have hzero : remainder x y < ((0 : Int) : Float) ↔ a.tmod b < 0 :=
    hrest.lt_iff (IsInteger.ofInt (n := 0) (by norm_num))
  have hsize := Int.natAbs_tmod a b
  have hmod := Nat.mod_lt a.natAbs (Int.natAbs_pos.mpr hb.ne')
  change IsInteger
    (if remainder x y < ((0 : Int) : Float) then remainder x y + y.abs else remainder x y) _
  rw [emod_eq_ite a hb]
  by_cases hneg : a.tmod b < 0
  · have habs := hy.abs
    rw [abs_of_pos hb] at habs
    rw [if_pos (hzero.mpr hneg), if_pos hneg]
    exact hrest.add habs (by omega)
  · rw [if_neg (mt hzero.mp hneg), if_neg hneg]
    exact hrest

end Remainders

section Words

variable {x : Float} {w : Int}

-- The upper half of the residues is moved below zero.
theorem IsInteger.fold (h : IsInteger x w) (hlow : 0 ≤ w) (hhigh : w < 2 ^ 32) :
    IsInteger (if ((2147483648 : Int) : Float) ≤ x then x - ((4294967296 : Int) : Float) else x)
      (if 2 ^ 31 ≤ w then w - 2 ^ 32 else w) := by
  have hrange : IsInteger ((4294967296 : Int) : Float) (2 ^ 32) := .ofInt (by norm_num)
  have hhalf : IsInteger ((2147483648 : Int) : Float) (2 ^ 31) := .ofInt (by norm_num)
  by_cases hupper : 2 ^ 31 ≤ w
  · rw [if_pos ((hhalf.le_iff h).mpr hupper), if_pos hupper]
    exact h.sub hrange (by omega)
  · rw [if_neg (mt (hhalf.le_iff h).mp hupper), if_neg hupper]
    exact h

theorem bmod_eq_ite (n : Int) :
    n.bmod (2 ^ 32) = if 2 ^ 31 ≤ n % 2 ^ 32 then n % 2 ^ 32 - 2 ^ 32 else n % 2 ^ 32 := by
  rw [Int.bmod_def]
  change (if n % 2 ^ 32 < 2 ^ 31 then n % 2 ^ 32 else n % 2 ^ 32 - 2 ^ 32) = _
  split <;> split <;> omega

-- The word of a number is its residue, whatever its fraction is.
theorem toInt32_eq (hx : x.isFinite = true) :
    Scalar.toInt32 x = Int32.ofInt (towardZero (value x)) := by
  have hrange : IsInteger ((4294967296 : Int) : Float) (2 ^ 32) := .ofInt (by norm_num)
  have hwhole := isInteger_withoutFraction hx
  rw [← towardZero_value hx] at hwhole
  generalize towardZero (value x) = n at hwhole ⊢
  have hlow := Int.emod_nonneg n (b := 2 ^ 32) (by norm_num)
  have hhigh := Int.emod_lt_of_pos n (b := 2 ^ 32) (by norm_num)
  have hword := (hwhole.modulo hrange (by norm_num) (by norm_num)).fold hlow hhigh
  rw [← bmod_eq_ite] at hword
  have hleast : Int32.minValue.toInt ≤ n.bmod (2 ^ 32) := Int.le_bmod (by norm_num)
  have hmost : n.bmod (2 ^ 32) ≤ Int32.maxValue.toInt :=
    Int.le_sub_one_of_lt (Int.bmod_lt (x := n) (m := 2 ^ 32) (by norm_num))
  have hvalue : Scalar.toInt32 x = .ofIntClamp (n.bmod (2 ^ 32)) := by
    have hfinite : Scalar.isFinite x = true := hx
    unfold Scalar.toInt32
    rw [if_pos hfinite]
    exact congrArg Int32.ofIntClamp hword.truncate_eq
  rw [hvalue, ← Int32.toInt_inj, Int32.toInt_ofIntClamp hleast hmost, Int32.toInt_ofInt]
  rfl

theorem toInt32_of_not_isFinite (hx : x.isFinite = false) : Scalar.toInt32 x = 0 := by
  have hinfinite : ¬ Scalar.isFinite x = true := Bool.eq_false_iff.mp hx
  unfold Scalar.toInt32
  rw [if_neg hinfinite]

theorem IsInteger.toInt32_eq (h : IsInteger x w) : Scalar.toInt32 x = Int32.ofInt w := by
  rw [Binary64.toInt32_eq h.isFinite, (isInteger_iff.mp h).2, towardZero_intCast]

theorem IsInteger.ofWord (w : Int32) : IsInteger ((w.toInt : Int) : Float) w.toInt := by
  have hlow := w.le_toInt
  have hhigh := w.toInt_lt
  exact .ofInt (by omega)

end Words

end Binary64

end Skirmish
