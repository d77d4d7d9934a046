import Skirmish.Proofs.Scalar.Doubles
import Skirmish.Proofs.Scalar.Ordered

namespace Skirmish.Binary64

open Float.Model (UnpackedFloat)
open Float.Model.Format (binary64)
open Float.Model.UnpackedFloat

-- A function of sizes for numbers of either sign.
def odd (f : Nat → Nat) : Int → Int
  | .ofNat n => f n
  | .negSucc n => -(f (n + 1) : Int)

theorem odd_neg_natCast {f : Nat → Nat} (hzero : f 0 = 0) (n : Nat) : odd f (-n) = -(f n : Int) := by
  cases n with
  | zero => simp [odd, hzero]
  | succ n => rfl

theorem odd_mono {f : Nat → Nat} (hf : Monotone f) : Monotone (odd f) := by
  intro m n h
  cases m with
  | ofNat m =>
      cases n with
      | ofNat n => exact Int.ofNat_le.mpr (hf (Int.ofNat_le.mp h))
      | negSucc n =>
          exact absurd h (not_le_of_gt (Int.lt_of_lt_of_le (Int.negSucc_lt_zero n) (Int.natCast_nonneg m)))
  | negSucc m =>
      cases n with
      | ofNat n => simp only [odd]; omega
      | negSucc n => exact Int.neg_le_neg (Int.ofNat_le.mpr (hf (by omega)))

-- The first size that no double has. Nothing is gained by computing it.
@[irreducible] def peak : Nat := 2 ^ (53 + topPlaces)

theorem peak_eq : peak = 2 ^ (53 + topPlaces) := by
  unfold peak
  rfl

theorem peak_pos : 0 < peak := by
  rw [peak_eq]
  positivity

-- Where a number lies, as a number of places above or below zero. Infinity has its place
-- beyond all others.
def level : UnpackedFloat → Int
  | .infinity sign => sign.apply peak
  | .finite sign m e _ => sign.apply (steps m e)
  | _ => 0

-- The size that a size becomes in a double.
def settled (n : Nat) : Nat := min (nearest 0 n) peak

theorem settled_mono : Monotone settled := fun _ _ h => min_le_min_right peak (nearest_mono 0 h)

theorem settled_zero : settled 0 = 0 := by
  rw [settled, nearest_zero, Nat.zero_min]

theorem Fits.steps_lt_peak {m : Nat} {e : Int} (h : Fits m e) : steps m e < peak := by
  rw [peak_eq]
  exact h.canonical.steps_lt_limit.mpr h.high

theorem Fits.settled_steps {m : Nat} {e : Int} (h : Fits m e) : settled (steps m e) = steps m e := by
  rw [settled, h.canonical.nearest_steps, min_eq_left h.steps_lt_peak.le]

theorem steps_pos {m : Nat} (h : 0 < m) (e : Int) : 0 < steps m e := by
  unfold steps
  positivity

theorem odd_settled_apply (sign : Sign) (n : Nat) : odd settled (sign.apply n) = sign.apply (settled n) := by
  cases sign with
  | positive => rfl
  | negative => exact odd_neg_natCast settled_zero n

-- Doubles lie where rounding leaves them.
theorem odd_settled_level {u : UnpackedFloat} (hfit : Fitting u) (hfinite : u.isFinite = true) :
    odd settled (level u) = level u := by
  cases u with
  | notANumber => contradiction
  | infinity sign => contradiction
  | zero sign => exact congrArg _ settled_zero
  | finite sign m e h =>
      have hfits : Fits m e := hfit
      change odd settled (sign.apply (steps m e)) = sign.apply (steps m e)
      rw [odd_settled_apply, hfits.settled_steps]

theorem compare_steps {m m' : Nat} {e e' : Int} (h : Fits m e) (h' : Fits m' e') :
    (compare e e').then (compare m m') = compare (steps m e : Int) (steps m' e' : Int) := by
  rw [h.canonical.compare_eq h'.canonical]
  rcases Nat.lt_trichotomy (steps m e) (steps m' e') with hlt | heq | hgt
  · rw [Nat.compare_eq_lt.mpr hlt, Int.compare_eq_lt.mpr (by omega)]
  · rw [Nat.compare_eq_eq.mpr heq, Int.compare_eq_eq.mpr (by omega)]
  · rw [Nat.compare_eq_gt.mpr hgt, Int.compare_eq_gt.mpr (by omega)]

theorem swap_compare_natCast (m n : Nat) :
    (compare (m : Int) (n : Int)).swap = compare (-m : Int) (-n : Int) := by
  rcases Int.lt_trichotomy m n with hlt | heq | hgt
  · rw [Int.compare_eq_lt.mpr hlt, Int.compare_eq_gt.mpr (by omega)]
    rfl
  · rw [Int.compare_eq_eq.mpr heq, Int.compare_eq_eq.mpr (by omega)]
    rfl
  · rw [Int.compare_eq_gt.mpr hgt, Int.compare_eq_lt.mpr (by omega)]
    rfl

theorem some_lt {a b : Int} (h : a < b) : some Ordering.lt = some (compare a b) :=
  congrArg some (Int.compare_eq_lt.mpr h).symm

theorem some_gt {a b : Int} (h : b < a) : some Ordering.gt = some (compare a b) :=
  congrArg some (Int.compare_eq_gt.mpr h).symm

-- All numbers are compared by where they lie.
theorem compare_eq_level {u v : UnpackedFloat} (hu : u.isNaN = false) (hv : v.isNaN = false)
    (hfit : Fitting u) (hfit' : Fitting v) :
    UnpackedFloat.compare u v = some (compare (level u) (level v)) := by
  have hpeak := peak_pos
  cases u with
  | notANumber => contradiction
  | infinity sign =>
      cases v with
      | notANumber => contradiction
      | infinity sign' =>
          cases sign <;> cases sign'
          · exact congrArg some (Int.compare_eq_eq.mpr rfl).symm
          · exact some_lt (by simp only [level, Sign.apply]; omega)
          · exact some_gt (by simp only [level, Sign.apply]; omega)
          · exact congrArg some (Int.compare_eq_eq.mpr rfl).symm
      | zero sign' =>
          cases sign
          · exact some_lt (by simp only [level, Sign.apply]; omega)
          · exact some_gt (by simp only [level, Sign.apply]; omega)
      | finite sign' m e h =>
          have hlt := Fits.steps_lt_peak hfit'
          cases sign
          · exact some_lt (by cases sign' <;> simp only [level, Sign.apply] <;> omega)
          · exact some_gt (by cases sign' <;> simp only [level, Sign.apply] <;> omega)
  | zero sign =>
      cases v with
      | notANumber => contradiction
      | infinity sign' =>
          cases sign'
          · exact some_gt (by simp only [level, Sign.apply]; omega)
          · exact some_lt (by simp only [level, Sign.apply]; omega)
      | zero sign' => rfl
      | finite sign' m e h =>
          have hpos := steps_pos h e
          cases sign'
          · exact some_gt (by simp only [level, Sign.apply]; omega)
          · exact some_lt (by simp only [level, Sign.apply]; omega)
  | finite sign m e h =>
      have hpos := steps_pos h e
      have hlt := Fits.steps_lt_peak hfit
      cases v with
      | notANumber => contradiction
      | infinity sign' =>
          cases sign'
          · cases sign <;> exact some_gt (by simp only [level, Sign.apply]; omega)
          · cases sign <;> exact some_lt (by simp only [level, Sign.apply]; omega)
      | zero sign' =>
          cases sign
          · exact some_lt (by simp only [level, Sign.apply]; omega)
          · exact some_gt (by simp only [level, Sign.apply]; omega)
      | finite sign' m' e' h' =>
          have hpos' := steps_pos h' e'
          have hsizes := compare_steps hfit hfit'
          cases sign <;> cases sign'
          · change some ((compare e e').then (compare m m')).swap = _
            rw [hsizes, swap_compare_natCast]
            rfl
          · exact some_lt (by simp only [level, Sign.apply]; omega)
          · exact some_gt (by simp only [level, Sign.apply]; omega)
          · exact congrArg some hsizes

-- What is packed becomes a number, in that place.
structure Lies (u : UnpackedFloat) (place : Int) : Prop where
  isNaN : (Float.Model.pack u).unpack.isNaN = false
  level : level (Float.Model.pack u).unpack = place

theorem Fitting.lies {u : UnpackedFloat} (hfit : Fitting u) (hnumber : u.isNaN = false) :
    Lies u (level u) := by
  constructor
  · rw [unpack_pack hfit, hnumber]
  · rw [unpack_pack hfit]

theorem Rounds.lies {sign : Sign} {n : Nat} {u : UnpackedFloat} (h : Rounds sign n u) :
    Lies u (sign.apply (min n peak : Nat)) := by
  by_cases hzero : n = 0
  · have hplace : sign.apply (min n peak : Nat) = 0 := by
      rw [hzero, Nat.zero_min]
      cases sign <;> rfl
    rw [h.zero hzero, hplace]
    exact Fitting.lies (u := .zero sign) trivial rfl
  · obtain ⟨m, e, hpos, rfl, hcanonical, rfl⟩ := h.finite hzero
    by_cases he : e ≤ 971
    · have hfits : Fits m e := ⟨hcanonical.short, hcanonical.full, hcanonical.low, he⟩
      rw [min_eq_left hfits.steps_lt_peak.le]
      exact Fitting.lies (u := .finite sign m e hpos) hfits rfl
    · have hinfinite : (Float.Model.pack (.finite sign m e hpos)).unpack = .infinity sign :=
        unpack_pack_infinite sign hpos (by omega)
      have hbeyond : peak ≤ steps m e := by
        rw [peak_eq]
        exact Nat.not_lt.mp (mt hcanonical.steps_lt_limit.mp he)
      rw [min_eq_right hbeyond]
      constructor
      · rw [hinfinite]
        rfl
      · rw [hinfinite]
        rfl

-- A sum of mantissas on a common grid, not finer than that of doubles.
theorem lies_normalize (mantissa : Int) {e : Int} (he : -1074 ≤ e) :
    Lies (UnpackedFloat.normalize binary64 mantissa e .positive)
      (odd settled (mantissa * (2 ^ (e + 1074).toNat : Nat))) := by
  have hround : ∀ (sign : Sign) {n : Nat}, 0 < n →
      Lies (UnpackedFloat.round binary64 sign n e)
        (odd settled (sign.apply n * (2 ^ (e + 1074).toNat : Nat))) := by
    intro sign n hpos
    have hplace : sign.apply n * (2 ^ (e + 1074).toNat : Nat) = sign.apply (steps n e) := by
      cases sign <;> simp only [Sign.apply, steps, Nat.cast_mul, Int.neg_mul]
    rw [hplace, odd_settled_apply]
    exact (rounds_round sign hpos he).lies
  unfold UnpackedFloat.normalize
  rcases Int.lt_trichotomy mantissa 0 with hneg | rfl | hpos
  · obtain ⟨n, rfl⟩ : ∃ n : Nat, mantissa = -n := ⟨(-mantissa).toNat, by omega⟩
    rw [Int.compare_eq_lt.mpr hneg]
    dsimp only
    rw [Int.neg_neg, Int.toNat_natCast]
    exact hround .negative (by omega)
  · rw [Int.compare_eq_eq.mpr rfl, Int.zero_mul]
    exact Fitting.lies (u := .zero .positive) trivial rfl
  · obtain ⟨n, rfl⟩ : ∃ n : Nat, mantissa = n := ⟨mantissa.toNat, by omega⟩
    rw [Int.compare_eq_gt.mpr hpos]
    dsimp only
    rw [Int.toNat_natCast]
    exact hround .positive (by omega)

theorem steps_shiftLeft (m : Nat) {e least : Int} (hleast : least ≤ e) (hlow : -1074 ≤ least) :
    steps (m <<< (e - least).toNat) least = steps m e := by
  have hsplit : (e + 1074).toNat = (e - least).toNat + (least + 1074).toNat := by omega
  rw [steps, steps, hsplit, pow_add, ← Nat.mul_assoc, Nat.shiftLeft_eq]

theorem apply_mul (sign : Sign) (a b : Nat) : sign.apply (a : Int) * b = sign.apply (a * b : Nat) := by
  cases sign <;> simp only [Sign.apply, Nat.cast_mul, Int.neg_mul]

theorem apply_shiftLeft (sign : Sign) (m : Nat) {e least : Int} (hleast : least ≤ e)
    (hlow : -1074 ≤ least) :
    sign.apply (m <<< (e - least).toNat : Nat) * (2 ^ (least + 1074).toNat : Nat) =
      sign.apply (steps m e) := by
  rw [apply_mul, ← steps_shiftLeft m hleast hlow, steps]

theorem lies_add {u v : UnpackedFloat} (hu : u.isFinite = true) (hv : v.isFinite = true)
    (hfit : Fitting u) (hfit' : Fitting v) :
    Lies (UnpackedFloat.add binary64 u v) (odd settled (level u + level v)) := by
  cases u with
  | notANumber => contradiction
  | infinity sign => contradiction
  | zero sign =>
      have hsum : level (.zero sign) + level v = level v := Int.zero_add _
      rw [hsum, odd_settled_level hfit' hv]
      cases v with
      | notANumber => contradiction
      | infinity sign' => contradiction
      | zero sign' => cases sign <;> cases sign' <;> exact Fitting.lies (u := .zero _) trivial rfl
      | finite sign' m e h => exact hfit'.lies rfl
  | finite sign m e h =>
      cases v with
      | notANumber => contradiction
      | infinity sign' => contradiction
      | zero sign' =>
          have hsum : level (.finite sign m e h) + level (.zero sign') = level (.finite sign m e h) :=
            Int.add_zero _
          rw [hsum, odd_settled_level hfit hu]
          exact hfit.lies rfl
      | finite sign' m' e' h' =>
          have hlow : -1074 ≤ min e e' := le_min (Fits.low hfit) (Fits.low hfit')
          have hsum := lies_normalize (sign.apply (m <<< (e - min e e').toNat : Nat) +
            sign'.apply (m' <<< (e' - min e e').toNat : Nat)) hlow
          rw [Int.add_mul, apply_shiftLeft sign m (Int.min_le_left e e') hlow,
            apply_shiftLeft sign' m' (Int.min_le_right e e') hlow] at hsum
          exact hsum

theorem apply_neg (sign : Sign) (n : Int) : (-sign).apply n = -sign.apply n := by
  cases sign with
  | negative => exact (Int.neg_neg n).symm
  | positive => rfl

theorem sub_eq_add_neg (u v : UnpackedFloat) :
    UnpackedFloat.sub binary64 u v = UnpackedFloat.add binary64 u v.neg := by
  cases u with
  | notANumber => rfl
  | infinity sign => cases v <;> rfl
  | zero sign => cases v <;> rfl
  | finite sign m e h =>
      cases v with
      | notANumber => rfl
      | infinity sign' => rfl
      | zero sign' => rfl
      | finite sign' m' e' h' =>
          unfold UnpackedFloat.sub UnpackedFloat.add UnpackedFloat.neg
          dsimp only
          rw [apply_neg, Int.sub_eq_add_neg]

theorem level_neg (u : UnpackedFloat) : level u.neg = -level u := by
  cases u with
  | notANumber => rfl
  | infinity sign => exact apply_neg sign _
  | zero sign => rfl
  | finite sign m e h => exact apply_neg sign _

-- A factor of no more than one cannot make a number infinite.
theorem lies_mul {u v : UnpackedFloat} (hu : u.isFinite = true) (hv : v.isFinite = true)
    (hfit : Fitting u) (hfit' : Fitting v) (hsmall : |level v| ≤ (2 ^ 1074 : Nat)) :
    ∃ place, |place| < (peak : Int) ∧ Lies (UnpackedFloat.mul binary64 u v) place := by
  have hzero : ∀ sign, ∃ place, |place| < (peak : Int) ∧ Lies (.zero sign) place := fun sign =>
    ⟨0, Int.natCast_pos.mpr peak_pos, Fitting.lies (u := .zero sign) trivial rfl⟩
  have habs : ∀ (sign : Sign) (n : Nat), |sign.apply n| = (n : Int) := by
    rintro (_ | _) n
    · rw [Sign.apply, abs_neg, Nat.abs_cast]
    · rw [Sign.apply, Nat.abs_cast]
  cases u with
  | notANumber => contradiction
  | infinity sign => contradiction
  | zero sign =>
      cases v with
      | notANumber => contradiction
      | infinity sign' => contradiction
      | zero sign' => exact hzero _
      | finite sign' m e h => exact hzero _
  | finite sign m e h =>
      cases v with
      | notANumber => contradiction
      | infinity sign' => contradiction
      | zero sign' => exact hzero _
      | finite sign' m' e' h' =>
          have hfits : Fits m e := hfit
          have hproduct := rounds_product (sign * sign') h h' hfits.canonical (Fits.canonical hfit')
          refine ⟨_, ?_, hproduct.lies⟩
          have hfactor : steps m' e' ≤ 2 ^ 1074 := by
            rw [level, habs] at hsmall
            exact Int.ofNat_le.mp hsmall
          have hless : nearest 1074 (steps m e * steps m' e') < peak := by
            calc nearest 1074 (steps m e * steps m' e')
                ≤ nearest 1074 (steps m e * 2 ^ 1074) :=
                  nearest_mono 1074 (Nat.mul_le_mul_left _ hfactor)
              _ = steps m e := by rw [nearest_mul, hfits.canonical.nearest_steps]
              _ < peak := hfits.steps_lt_peak
          rw [habs, min_eq_left hless.le]
          exact Int.ofNat_lt.mpr hless

-- Where a double lies.
def place (x : Float) : Int := level x.toModel.unpack

section Places

variable {x y : Float}

theorem isFinite_iff_place :
    x.isFinite = true ↔ x.isNaN = false ∧ |place x| < (peak : Int) := by
  have hfit := fitting_unpack x.toModel
  change x.toModel.unpack.isFinite = true ↔ x.toModel.unpack.isNaN = false ∧ |level _| < _
  have hpeak := peak_pos
  cases hx : x.toModel.unpack with
  | notANumber => simp [UnpackedFloat.isFinite, UnpackedFloat.isNaN]
  | infinity sign =>
      cases sign <;> simp [UnpackedFloat.isFinite, level, Sign.apply]
  | zero sign => simp [UnpackedFloat.isFinite, UnpackedFloat.isNaN, level, hpeak]
  | finite sign m e h =>
      rw [hx] at hfit
      have hlt := Fits.steps_lt_peak hfit
      cases sign <;> simp [UnpackedFloat.isFinite, UnpackedFloat.isNaN, level, Sign.apply, hlt]

theorem compare_of_isNaN {u v : UnpackedFloat} (h : u.isNaN = true ∨ v.isNaN = true) :
    UnpackedFloat.compare u v = none := by
  cases u <;> cases v <;> simp_all [UnpackedFloat.isNaN, UnpackedFloat.compare]

theorem compare_place (hx : x.isNaN = false) (hy : y.isNaN = false) :
    UnpackedFloat.compare x.toModel.unpack y.toModel.unpack = some (compare (place x) (place y)) :=
  compare_eq_level hx hy (fitting_unpack _) (fitting_unpack _)

theorem le_iff_place : x ≤ y ↔ x.isNaN = false ∧ y.isNaN = false ∧ place x ≤ place y := by
  rw [le_iff_compare]
  constructor
  · intro h
    by_cases hnan : x.isNaN = true ∨ y.isNaN = true
    · rw [compare_of_isNaN hnan] at h
      contradiction
    · obtain ⟨hx, hy⟩ := not_or.mp hnan
      rw [Bool.not_eq_true] at hx hy
      rw [compare_place hx hy, Option.any_some, Int.isLE_compare] at h
      exact ⟨hx, hy, h⟩
  · rintro ⟨hx, hy, h⟩
    rw [compare_place hx hy, Option.any_some, Int.isLE_compare]
    exact h

theorem lt_of_place (hx : x.isNaN = false) (hy : y.isNaN = false) (h : place x < place y) :
    x < y := by
  rw [lt_iff, compare_place hx hy, Int.compare_eq_lt.mpr h]

theorem place_neg (x : Float) : place (-x) = -place x := by
  rw [place, unpack_neg, level_neg]
  rfl

theorem isNaN_neg (x : Float) : (-x).isNaN = x.isNaN := by
  change (-x).toModel.unpack.isNaN = x.toModel.unpack.isNaN
  rw [unpack_neg]
  cases x.toModel.unpack <;> rfl

theorem isFinite_neg (x : Float) : (-x).isFinite = x.isFinite := by
  change (-x).toModel.unpack.isFinite = x.toModel.unpack.isFinite
  rw [unpack_neg]
  cases x.toModel.unpack <;> rfl

theorem place_add (hx : x.isFinite = true) (hy : y.isFinite = true) :
    (x + y).isNaN = false ∧ place (x + y) = odd settled (place x + place y) := by
  obtain ⟨hnumber, hlevel⟩ := lies_add hx hy (fitting_unpack _) (fitting_unpack _)
  exact ⟨hnumber, hlevel⟩

theorem sub_eq_add_neg_float (x y : Float) : x - y = x + -y := by
  change Float.ofModel (.pack (UnpackedFloat.sub binary64 x.toModel.unpack y.toModel.unpack)) =
    Float.ofModel (.pack (UnpackedFloat.add binary64 x.toModel.unpack (-y).toModel.unpack))
  rw [unpack_neg, sub_eq_add_neg]

theorem odd_settled_place (hx : x.isFinite = true) : odd settled (place x) = place x :=
  odd_settled_level (fitting_unpack _) hx

-- A number grows by what is added to it, or stays.
theorem le_add_of_place (hx : x.isFinite = true) (hy : y.isFinite = true) (h : 0 ≤ place y) :
    x ≤ x + y := by
  obtain ⟨hnumber, hplace⟩ := place_add hx hy
  refine le_iff_place.mpr ⟨(isFinite_iff_place.mp hx).1, hnumber, ?_⟩
  rw [hplace]
  calc place x = odd settled (place x) := (odd_settled_place hx).symm
    _ ≤ odd settled (place x + place y) := odd_mono settled_mono (by omega)

theorem add_le_of_place (hx : x.isFinite = true) (hy : y.isFinite = true) (h : place y ≤ 0) :
    x + y ≤ x := by
  obtain ⟨hnumber, hplace⟩ := place_add hx hy
  refine le_iff_place.mpr ⟨hnumber, (isFinite_iff_place.mp hx).1, ?_⟩
  rw [hplace]
  calc odd settled (place x + place y) ≤ odd settled (place x) := odd_mono settled_mono (by omega)
    _ = place x := odd_settled_place hx

theorem place_zero : place (Float.ofNat 0) = 0 := by
  rw [place, unpack_ofNat (by norm_num)]
  rfl

theorem place_nonneg (h : Float.ofNat 0 ≤ x) : 0 ≤ place x := by
  have hplaces := (le_iff_place.mp h).2.2
  rwa [place_zero] at hplaces

theorem place_one : place (Float.ofNat 1) = (2 ^ 1074 : Nat) := by
  have hsteps : steps (1 * 2 ^ 52) (-52) = 2 ^ 1074 := by
    have hbits : (-52 + 1074 : Int).toNat = 1022 := rfl
    rw [steps, hbits, Nat.one_mul, ← pow_add]
  have hvalue : place (Float.ofNat 1) = (steps (1 * 2 ^ 52) (-52) : Int) := by
    rw [place, unpack_ofNat (by norm_num)]
    rfl
  rw [hvalue, hsteps]

theorem isFinite_mul (hx : x.isFinite = true) (hy : y.isFinite = true) (h : Float.ofNat 0 ≤ y)
    (hone : y ≤ Float.ofNat 1) : (x * y).isFinite = true := by
  have hsmall : |place y| ≤ (2 ^ 1074 : Nat) := by
    rw [abs_of_nonneg (place_nonneg h), ← place_one]
    exact (le_iff_place.mp hone).2.2
  obtain ⟨spot, hspot, hnumber, hlevel⟩ :=
    lies_mul hx hy (fitting_unpack _) (fitting_unpack _) hsmall
  refine isFinite_iff_place.mpr ⟨hnumber, ?_⟩
  have hplace : place (x * y) = spot := hlevel
  rw [hplace]
  exact hspot

end Places

end Skirmish.Binary64

namespace Skirmish

open Binary64

instance : OrderedScalar Float where
  refl h := by
    obtain ⟨ha, -⟩ := isFinite_iff_place.mp h
    exact le_iff_place.mpr ⟨ha, ha, le_rfl⟩
  trans h h' := by
    obtain ⟨ha, -, hab⟩ := le_iff_place.mp h
    obtain ⟨-, hc, hbc⟩ := le_iff_place.mp h'
    exact le_iff_place.mpr ⟨ha, hc, hab.trans hbc⟩
  le_of_not_lt ha hb h := by
    obtain ⟨ha, -⟩ := isFinite_iff_place.mp ha
    obtain ⟨hb, -⟩ := isFinite_iff_place.mp hb
    exact le_iff_place.mpr ⟨hb, ha, not_lt.mp fun hlt => h (lt_of_place ha hb hlt)⟩
  isFinite_of_le ha hc h h' := by
    obtain ⟨-, hlow⟩ := isFinite_iff_place.mp ha
    obtain ⟨-, hhigh⟩ := isFinite_iff_place.mp hc
    obtain ⟨-, hb, hab⟩ := le_iff_place.mp h
    obtain ⟨-, -, hbc⟩ := le_iff_place.mp h'
    rw [abs_lt] at hlow hhigh
    exact isFinite_iff_place.mpr ⟨hb, abs_lt.mpr ⟨by omega, by omega⟩⟩
  isNaN_of_isFinite h := (isFinite_iff_place.mp h).1
  isFinite_natCast {n} hn := by
    change (Float.ofNat n).toModel.unpack.isFinite = true
    rw [unpack_ofNat hn]
    unfold natural
    split_ifs <;> rfl
  isFinite_neg {a} h := (isFinite_neg a).trans h
  neg_nonpos {a} h := by
    obtain ⟨hzero, hnumber, -⟩ := le_iff_place.mp h
    have hplace := place_nonneg h
    have horigin : place ((0 : Int) : Float) = 0 := place_zero
    exact le_iff_place.mpr ⟨(isNaN_neg a).trans hnumber, hzero, by rw [place_neg]; omega⟩
  le_add_right ha hb h := le_add_of_place ha hb (place_nonneg h)
  sub_le {a b} ha hb h := by
    have hplace := place_nonneg h
    rw [sub_eq_add_neg_float]
    exact add_le_of_place ha ((isFinite_neg b).trans hb) (by rw [place_neg]; omega)
  isFinite_ofDegrees {d} h :=
    isFinite_mul h (by decide +kernel) (by decide +kernel) (by decide +kernel)

end Skirmish
