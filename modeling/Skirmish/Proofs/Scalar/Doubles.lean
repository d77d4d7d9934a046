import Skirmish.Proofs.Scalar.Monotone
import Skirmish.Proofs.Scalar.Rounding
import Skirmish.Proofs.Scalar.Truncation

namespace Skirmish.Binary64

open Float.Model (UnpackedFloat)
open Float.Model.Format (binary64)
open Float.Model.UnpackedFloat

-- The size of a number as a number of places on the grid of doubles.
def size : UnpackedFloat → ℕ∞
  | .infinity _ => ⊤
  | .finite _ m e _ => steps m e
  | _ => 0

-- A number that is not below zero. Zeros have either sign.
def Nonneg : UnpackedFloat → Prop
  | .infinity sign => sign = .positive
  | .finite sign _ _ _ => sign = .positive
  | .zero _ => True
  | .notANumber => False

-- How many places the largest doubles are above the grid.
def topPlaces : Nat := 2045

-- Sizes beyond all doubles are infinite.
def limited (n : Nat) : ℕ∞ := if n < 2 ^ (53 + topPlaces) then n else ⊤

-- The size of the double nearest to a size on a grid that is finer by some bits.
def approx (finer : Nat) : ℕ∞ → ℕ∞
  | ⊤ => ⊤
  | (n : Nat) => limited (nearest finer n)

theorem limited_of_lt {n : Nat} (h : n < 2 ^ (53 + topPlaces)) : limited n = n := if_pos h

theorem limited_mono {m n : Nat} (h : m ≤ n) : limited m ≤ limited n := by
  unfold limited
  split_ifs
  · exact_mod_cast h
  · exact le_top
  · omega
  · exact le_rfl

theorem approx_mono (finer : Nat) {v w : ℕ∞} (h : v ≤ w) : approx finer v ≤ approx finer w := by
  cases w with
  | top => exact le_top
  | coe n =>
      cases v with
      | top => exact absurd h (by simp)
      | coe m => exact limited_mono (nearest_mono finer (by exact_mod_cast h))

theorem Canonical.steps_lt_limit {m : Nat} {e : Int} (h : Canonical m e) :
    steps m e < 2 ^ (53 + topPlaces) ↔ e ≤ 971 := by
  have hlow := h.low
  have htop : topPlaces = 2045 := rfl
  constructor
  · intro hlt
    by_contra hgt
    have hfull : 2 ^ 52 ≤ m := h.full.resolve_right (by omega)
    refine absurd hlt (Nat.not_lt.mpr ?_)
    calc 2 ^ (53 + topPlaces) ≤ 2 ^ (52 + (e + 1074).toNat) :=
          Nat.pow_le_pow_right (by norm_num) (by omega)
      _ = 2 ^ 52 * 2 ^ (e + 1074).toNat := pow_add _ _ _
      _ ≤ m * 2 ^ (e + 1074).toNat := Nat.mul_le_mul_right _ hfull
  · intro he
    calc steps m e < 2 ^ 53 * 2 ^ (e + 1074).toNat :=
          Nat.mul_lt_mul_of_pos_right h.short (by positivity)
      _ = 2 ^ (53 + (e + 1074).toNat) := (pow_add _ _ _).symm
      _ ≤ 2 ^ (53 + topPlaces) := Nat.pow_le_pow_right (by norm_num) (by omega)

theorem unpack_pack_infinite (sign : Sign) {m : Nat} {e : Int} (h : 0 < m) (he : 972 ≤ e) :
    unpack binary64 (pack binary64 (.finite sign m e h)) = .infinity sign := by
  have hbias : e + binary64.exponentBias + binary64.mantissaBitsWithoutImplicit = e + 1075 := by
    change e + (1023 : Nat) + (52 : Nat) = e + 1075
    omega
  simp only [pack, hbias]
  change unpack binary64 (if 2 ^ 11 ≤ (e + 1075).toNat + 1 then packedInfinity binary64 sign else _) =
    _
  rw [if_pos (by omega)]
  cases sign <;> rfl

-- A result that has a size once it is packed.
structure Sized (u : UnpackedFloat) (v : ℕ∞) : Prop where
  size : size (Float.Model.pack u).unpack = v
  nonneg : Nonneg (Float.Model.pack u).unpack

theorem Fitting.sized {u : UnpackedFloat} (hfit : Fitting u) (h : Nonneg u) : Sized u (size u) := by
  constructor
  · rw [unpack_pack hfit]
  · rwa [unpack_pack hfit]

-- Packing only makes sizes infinite that no double has.
theorem Rounds.sized {n : Nat} {u : UnpackedFloat} (h : Rounds .positive n u) :
    Sized u (limited n) := by
  by_cases hzero : n = 0
  · rw [h.zero hzero, hzero, limited_of_lt (by positivity)]
    exact Fitting.sized (u := .zero .positive) trivial trivial
  · obtain ⟨m, e, hpos, rfl, hcanonical, rfl⟩ := h.finite hzero
    by_cases he : e ≤ 971
    · have hfits : Fits m e := ⟨hcanonical.short, hcanonical.full, hcanonical.low, he⟩
      rw [limited_of_lt (hcanonical.steps_lt_limit.mpr he)]
      exact Fitting.sized (u := .finite .positive m e hpos) hfits rfl
    · have hinfinite : (Float.Model.pack (.finite .positive m e hpos)).unpack = .infinity .positive :=
        unpack_pack_infinite .positive hpos (by omega)
      rw [limited, if_neg (mt hcanonical.steps_lt_limit.mp he)]
      constructor
      · rw [hinfinite]
        rfl
      · rw [hinfinite]
        rfl

theorem compares_coe {m n : Nat} {order : Ordering} (h : order = compare m n) :
    order.Compares (m : ℕ∞) (n : ℕ∞) := by
  subst h
  rcases Nat.lt_trichotomy m n with hlt | rfl | hgt
  · rw [Nat.compare_eq_lt.mpr hlt]
    exact Nat.cast_lt.mpr hlt
  · rw [Nat.compare_eq_eq.mpr rfl]
    rfl
  · rw [Nat.compare_eq_gt.mpr hgt]
    exact Nat.cast_lt.mpr hgt

theorem size_finite_pos (sign : Sign) {m : Nat} (e : Int) (h : 0 < m) :
    0 < size (.finite sign m e h) := by
  have hpos : 0 < steps m e := by
    unfold steps
    positivity
  exact Nat.cast_pos.mpr hpos

-- Numbers that are not negative are compared by their sizes.
theorem compare_eq {u v : UnpackedFloat} (hu : Nonneg u) (hv : Nonneg v) (hfit : Fitting u)
    (hfit' : Fitting v) :
    ∃ order, UnpackedFloat.compare u v = some order ∧ order.Compares (size u) (size v) := by
  cases u with
  | notANumber => exact hu.elim
  | infinity sign =>
      cases hu
      cases v with
      | notANumber => exact hv.elim
      | infinity sign =>
          cases hv
          exact ⟨.eq, rfl, rfl⟩
      | zero sign => exact ⟨.gt, rfl, ENat.natCast_lt_top 0⟩
      | finite sign m e h => exact ⟨.gt, rfl, ENat.natCast_lt_top _⟩
  | zero sign =>
      cases v with
      | notANumber => exact hv.elim
      | infinity sign =>
          cases hv
          exact ⟨.lt, rfl, ENat.natCast_lt_top 0⟩
      | zero sign => exact ⟨.eq, rfl, rfl⟩
      | finite sign m e h =>
          cases hv
          exact ⟨.lt, rfl, size_finite_pos _ e h⟩
  | finite sign m e h =>
      cases hu
      cases v with
      | notANumber => exact hv.elim
      | infinity sign =>
          cases hv
          exact ⟨.lt, rfl, ENat.natCast_lt_top _⟩
      | zero sign => exact ⟨.gt, rfl, size_finite_pos _ e h⟩
      | finite sign m' e' h' =>
          cases hv
          exact ⟨_, rfl, compares_coe (Fits.canonical hfit |>.compare_eq (Fits.canonical hfit'))⟩

theorem approx_zero (finer : Nat) : approx finer 0 = 0 := by
  change limited (nearest finer 0) = 0
  rw [nearest_zero, limited_of_lt (by positivity)]
  rfl

theorem approx_size {u : UnpackedFloat} (hfit : Fitting u) : approx 0 (size u) = size u := by
  cases u with
  | notANumber => exact approx_zero 0
  | infinity sign => rfl
  | zero sign => exact approx_zero 0
  | finite sign m e h =>
      have hfits : Fits m e := hfit
      change limited (nearest 0 (steps m e)) = _
      rw [hfits.canonical.nearest_steps,
        limited_of_lt (hfits.canonical.steps_lt_limit.mpr hfits.high)]
      rfl

theorem approx_mul_two_pow (finer : Nat) (v : ℕ∞) :
    approx finer (v * (2 ^ finer : Nat)) = approx 0 v := by
  cases v with
  | top =>
      rw [ENat.top_mul (Nat.cast_ne_zero.mpr (by positivity))]
      rfl
  | coe n =>
      rw [← Nat.cast_mul]
      change limited (nearest finer (n * 2 ^ finer)) = limited (nearest 0 n)
      rw [nearest_mul]

-- The exact sum of two sizes, on the finer of their grids.
theorem steps_add {m m' : Nat} {e e' : Int} (he : -1074 ≤ e) (he' : -1074 ≤ e') :
    steps (m <<< (e - min e e').toNat + m' <<< (e' - min e e').toNat) (min e e') =
      steps m e + steps m' e' := by
  have hsplit : (e + 1074).toNat = (e - min e e').toNat + (min e e' + 1074).toNat := by omega
  have hsplit' : (e' + 1074).toNat = (e' - min e e').toNat + (min e e' + 1074).toNat := by omega
  rw [steps, steps, steps, hsplit, hsplit', pow_add, pow_add, Nat.shiftLeft_eq, Nat.shiftLeft_eq]
  ring

theorem rounds_sum {m m' : Nat} {e e' : Int} (h : 0 < m) (h' : 0 < m') (he : -1074 ≤ e)
    (he' : -1074 ≤ e') :
    Rounds .positive (nearest 0 (steps m e + steps m' e'))
      (UnpackedFloat.add binary64 (.finite .positive m e h) (.finite .positive m' e' h')) := by
  have hpos : 0 < m <<< (e - min e e').toNat + m' <<< (e' - min e e').toNat := by
    rw [Nat.shiftLeft_eq, Nat.shiftLeft_eq]
    positivity
  have hround := rounds_round .positive hpos (e := min e e') (by omega)
  rw [steps_add he he'] at hround
  generalize hn : m <<< (e - min e e').toNat + m' <<< (e' - min e e').toNat = n at hpos hround
  have hsum : Sign.positive.apply ((m <<< (e - min e e').toNat : Nat) : Int) +
      Sign.positive.apply ((m' <<< (e' - min e e').toNat : Nat) : Int) = (n : Int) := by
    rw [← hn]
    rfl
  have hgt : compare (n : Int) 0 = .gt := Int.compare_eq_gt.mpr (by omega)
  unfold UnpackedFloat.add decreaseExponent UnpackedFloat.normalize
  simp only [hsum, hgt, Int.toNat_natCast]
  exact hround

theorem sized_add {u v : UnpackedFloat} (hu : Nonneg u) (hv : Nonneg v) (hfit : Fitting u)
    (hfit' : Fitting v) :
    Sized (UnpackedFloat.add binary64 u v) (approx 0 (size u + size v)) := by
  cases u with
  | notANumber => exact hu.elim
  | infinity sign =>
      cases hu
      have hsum : UnpackedFloat.add binary64 (.infinity .positive) v = .infinity .positive := by
        cases v with
        | notANumber => exact hv.elim
        | infinity sign =>
            cases hv
            rfl
        | zero sign => rfl
        | finite sign m e h => rfl
      rw [hsum]
      exact Fitting.sized (u := .infinity .positive) trivial rfl
  | zero sign =>
      have hsize : size (.zero sign) + size v = size v := zero_add _
      rw [hsize, approx_size hfit']
      cases v with
      | notANumber => exact hv.elim
      | infinity sign' => exact hfit'.sized hv
      | zero sign' =>
          cases sign <;> cases sign' <;> exact Fitting.sized (u := .zero _) trivial trivial
      | finite sign' m e h => exact hfit'.sized hv
  | finite sign m e h =>
      cases hu
      cases v with
      | notANumber => exact hv.elim
      | infinity sign' =>
          cases hv
          exact Fitting.sized (u := .infinity .positive) trivial rfl
      | zero sign' =>
          have hsize : size (.finite .positive m e h) + size (.zero sign') =
              size (.finite .positive m e h) := add_zero _
          rw [hsize, approx_size hfit]
          exact hfit.sized rfl
      | finite sign' m' e' h' =>
          cases hv
          exact (rounds_sum h h' (Fits.low hfit) (Fits.low hfit')).sized

-- A product of nothing and infinity has no value.
theorem sized_mul {u v : UnpackedFloat} (hu : Nonneg u) (hv : Nonneg v) (hfit : Fitting u)
    (hfit' : Fitting v) (hmixed : size u = 0 → size v ≠ ⊤) (hmixed' : size v = 0 → size u ≠ ⊤) :
    Sized (UnpackedFloat.mul binary64 u v) (approx 1074 (size u * size v)) := by
  have hinfinite : Sized (.infinity .positive) ⊤ :=
    Fitting.sized (u := .infinity .positive) trivial rfl
  have hzero : ∀ sign, Sized (.zero sign) 0 := fun sign =>
    Fitting.sized (u := .zero sign) trivial trivial
  cases u with
  | notANumber => exact hu.elim
  | infinity sign =>
      cases hu
      cases v with
      | notANumber => exact hv.elim
      | infinity sign' =>
          cases hv
          exact hinfinite
      | zero sign' => exact absurd rfl (hmixed' rfl)
      | finite sign' m e h =>
          cases hv
          have hsize : size (.infinity .positive) * size (.finite .positive m e h) = ⊤ :=
            ENat.top_mul (size_finite_pos _ e h).ne'
          rw [hsize]
          exact hinfinite
  | zero sign =>
      have hsize : size (.zero sign) * size v = 0 := zero_mul _
      rw [hsize, approx_zero]
      cases v with
      | notANumber => exact hv.elim
      | infinity sign' => exact absurd rfl (hmixed rfl)
      | zero sign' => exact hzero _
      | finite sign' m e h => exact hzero _
  | finite sign m e h =>
      cases hu
      cases v with
      | notANumber => exact hv.elim
      | infinity sign' =>
          cases hv
          have hsize : size (.finite .positive m e h) * size (.infinity .positive) = ⊤ :=
            ENat.mul_top (size_finite_pos _ e h).ne'
          rw [hsize]
          exact hinfinite
      | zero sign' =>
          have hsize : size (.finite .positive m e h) * size (.zero sign') = 0 := mul_zero _
          rw [hsize, approx_zero]
          exact hzero _
      | finite sign' m' e' h' =>
          cases hv
          have hsize : size (.finite .positive m e h) * size (.finite .positive m' e' h') =
              ((steps m e * steps m' e' : Nat) : ℕ∞) := (Nat.cast_mul _ _).symm
          rw [hsize]
          exact (rounds_product .positive h h' (Fits.canonical hfit) (Fits.canonical hfit')).sized

theorem mul_neg_neg (u : UnpackedFloat) :
    UnpackedFloat.mul binary64 u.neg u.neg = UnpackedFloat.mul binary64 u u := by
  cases u with
  | notANumber => rfl
  | infinity sign => cases sign <;> rfl
  | zero sign => cases sign <;> rfl
  | finite sign m e h => cases sign <;> rfl

theorem compare_infinity_negative {u : UnpackedFloat} (hu : Nonneg u) :
    UnpackedFloat.compare u (.infinity .negative) = some .gt := by
  cases u with
  | notANumber => exact hu.elim
  | infinity sign =>
      cases hu
      rfl
  | zero sign => rfl
  | finite sign m e h => rfl

theorem compare_finite_negative {u : UnpackedFloat} (hu : Nonneg u) (m : Nat) (e : Int) (h : 0 < m) :
    UnpackedFloat.compare u (.finite .negative m e h) = some .gt := by
  cases u with
  | notANumber => exact hu.elim
  | infinity sign =>
      cases hu
      rfl
  | zero sign => rfl
  | finite sign m e h =>
      cases hu
      rfl

theorem nonneg_of_isLE {u v : UnpackedFloat} (hu : Nonneg u)
    (h : (UnpackedFloat.compare u v).any Ordering.isLE = true) : Nonneg v := by
  cases v with
  | notANumber => cases u <;> exact absurd h Bool.false_ne_true
  | zero sign => trivial
  | infinity sign =>
      cases sign with
      | positive => rfl
      | negative =>
          rw [compare_infinity_negative hu] at h
          contradiction
  | finite sign m e hpos =>
      cases sign with
      | positive => rfl
      | negative =>
          rw [compare_finite_negative hu] at h
          contradiction

-- The size of a double.
def extent (x : Float) : ℕ∞ := size x.toModel.unpack

theorem nonneg_iff {x : Float} : Float.ofNat 0 ≤ x ↔ Nonneg x.toModel.unpack := by
  have hzero : (Float.ofNat 0).toModel.unpack = .zero .positive := unpack_ofNat (by norm_num)
  change decide (UnpackedFloat.le _ x.toModel.unpack = true) = true ↔ _
  rw [decide_eq_true_iff, hzero, UnpackedFloat.le]
  cases x.toModel.unpack with
  | notANumber => simp [UnpackedFloat.compare, Nonneg]
  | infinity sign => cases sign <;> simp [UnpackedFloat.compare, Nonneg]
  | zero sign => simp [UnpackedFloat.compare, Nonneg]
  | finite sign m e h => cases sign <;> simp [UnpackedFloat.compare, Nonneg]

section Order

variable {x y : Float}

theorem le_iff_compare : x ≤ y ↔
    (UnpackedFloat.compare x.toModel.unpack y.toModel.unpack).any Ordering.isLE = true := by
  change decide (UnpackedFloat.le x.toModel.unpack y.toModel.unpack = true) = true ↔ _
  rw [decide_eq_true_iff, UnpackedFloat.le]

theorem le_iff_extent (hx : Float.ofNat 0 ≤ x) (hy : Float.ofNat 0 ≤ y) :
    x ≤ y ↔ extent x ≤ extent y := by
  obtain ⟨order, hcompare, hsizes⟩ := compare_eq (nonneg_iff.mp hx) (nonneg_iff.mp hy)
    (fitting_unpack _) (fitting_unpack _)
  rw [le_iff_compare, hcompare, Option.any_some]
  cases order with
  | lt => exact iff_of_true rfl (le_of_lt hsizes)
  | eq => exact iff_of_true rfl (le_of_eq hsizes)
  | gt => exact iff_of_false (by decide) (not_le_of_gt hsizes)

theorem lt_iff_extent (hx : Float.ofNat 0 ≤ x) (hy : Float.ofNat 0 ≤ y) :
    x < y ↔ extent x < extent y := by
  obtain ⟨order, hcompare, hsizes⟩ := compare_eq (nonneg_iff.mp hx) (nonneg_iff.mp hy)
    (fitting_unpack _) (fitting_unpack _)
  rw [lt_iff, hcompare, Option.some.injEq]
  exact hsizes.eq_lt

theorem nonneg_of_le (hx : Float.ofNat 0 ≤ x) (h : x ≤ y) : Float.ofNat 0 ≤ y := by
  rw [nonneg_iff] at hx ⊢
  rw [le_iff_compare] at h
  exact nonneg_of_isLE hx h

theorem nonneg_of_lt (hx : Float.ofNat 0 ≤ x) (h : x < y) : Float.ofNat 0 ≤ y := by
  rw [lt_iff] at h
  apply nonneg_of_le hx
  rw [le_iff_compare, h]
  rfl

theorem extent_add (hx : Float.ofNat 0 ≤ x) (hy : Float.ofNat 0 ≤ y) :
    Float.ofNat 0 ≤ x + y ∧ extent (x + y) = approx 0 (extent x + extent y) := by
  rw [nonneg_iff] at hx hy
  have hsum := sized_add hx hy (fitting_unpack _) (fitting_unpack _)
  exact ⟨nonneg_iff.mpr hsum.nonneg, hsum.size⟩

theorem extent_mul (hx : Float.ofNat 0 ≤ x) (hy : Float.ofNat 0 ≤ y)
    (hmixed : extent x = 0 → extent y ≠ ⊤) (hmixed' : extent y = 0 → extent x ≠ ⊤) :
    Float.ofNat 0 ≤ x * y ∧ extent (x * y) = approx 1074 (extent x * extent y) := by
  rw [nonneg_iff] at hx hy
  have hproduct := sized_mul hx hy (fitting_unpack _) (fitting_unpack _) hmixed hmixed'
  exact ⟨nonneg_iff.mpr hproduct.nonneg, hproduct.size⟩

theorem extent_mul_self (hx : Float.ofNat 0 ≤ x) :
    Float.ofNat 0 ≤ x * x ∧ extent (x * x) = approx 1074 (extent x * extent x) :=
  extent_mul hx hx (fun h => by simp [h]) (fun h => by simp [h])

theorem nonneg_natural {n : Nat} (hshort : n < 2 ^ 53) : Float.ofNat 0 ≤ Float.ofNat n := by
  rw [nonneg_iff, unpack_ofNat hshort]
  unfold natural
  split_ifs
  · rfl
  · trivial

theorem extent_two : extent (Float.ofNat 2) = 2 * (2 ^ 1074 : Nat) := by
  have hsteps : steps (2 * 2 ^ 51) (-51) = 2 * 2 ^ 1074 := by
    have hbits : (-51 + 1074 : Int).toNat = 1023 := rfl
    rw [steps, hbits, Nat.mul_assoc, ← pow_add]
  have hvalue : extent (Float.ofNat 2) = (steps (2 * 2 ^ 51) (-51) : ℕ∞) := by
    rw [extent, unpack_ofNat (by norm_num)]
    rfl
  rw [hvalue, hsteps, Nat.cast_mul]
  rfl

-- Doubling loses nothing that a sum does not lose.
theorem extent_two_mul (hx : Float.ofNat 0 ≤ x) :
    Float.ofNat 0 ≤ Float.ofNat 2 * x ∧ extent (Float.ofNat 2 * x) = extent (x + x) := by
  have hzero : extent (Float.ofNat 2) ≠ 0 := by
    rw [extent_two]
    exact mul_ne_zero two_ne_zero (Nat.cast_ne_zero.mpr (by positivity))
  have htop : extent (Float.ofNat 2) ≠ ⊤ := by
    rw [extent_two]
    exact WithTop.mul_ne_top (ENat.natCast_ne_top 2) (ENat.natCast_ne_top _)
  obtain ⟨hnonneg, hextent⟩ := extent_mul (nonneg_natural (by norm_num)) hx (absurd · hzero)
    fun _ => htop
  refine ⟨hnonneg, ?_⟩
  rw [hextent, (extent_add hx hx).2, extent_two, ← two_mul, mul_right_comm, approx_mul_two_pow]

end Order

end Skirmish.Binary64

namespace Skirmish

open Binary64
open Float.Model (UnpackedFloat)
open Float.Model.Format (binary64)

instance : MonotoneScalar Float where
  le_self ha := (le_iff_extent ha ha).mpr le_rfl
  le_of_lt h := by
    rw [lt_iff] at h
    rw [le_iff_compare, h]
    rfl
  le_trans ha h h' := by
    have hb := nonneg_of_le ha h
    have hc := nonneg_of_le hb h'
    rw [le_iff_extent ha hb] at h
    rw [le_iff_extent hb hc] at h'
    exact (le_iff_extent ha hc).mpr (h.trans h')
  lt_of_le_of_lt ha h h' := by
    have hb := nonneg_of_le ha h
    have hc := nonneg_of_lt hb h'
    rw [le_iff_extent ha hb] at h
    rw [lt_iff_extent hb hc] at h'
    exact (lt_iff_extent ha hc).mpr (h.trans_lt h')
  not_le_of_lt ha h := by
    have hb := nonneg_of_lt ha h
    rw [le_iff_extent hb ha]
    exact not_le_of_gt ((lt_iff_extent ha hb).mp h)
  isNaN_of_nonneg {a} ha := by
    have hnonneg := nonneg_iff.mp ha
    change a.toModel.unpack.isNaN = false
    cases hu : a.toModel.unpack with
    | notANumber =>
        rw [hu] at hnonneg
        exact hnonneg.elim
    | _ => rfl
  le_add {a b} ha hb := by
    obtain ⟨hnonneg, hextent⟩ := extent_add ha hb
    rw [le_iff_extent ha hnonneg, hextent]
    calc extent a = approx 0 (extent a) := (approx_size (fitting_unpack _)).symm
      _ ≤ approx 0 (extent a + extent b) := approx_mono 0 le_self_add
  add_le_add_right ha hab hc := by
    have hb := nonneg_of_le ha hab
    obtain ⟨hnonneg, hextent⟩ := extent_add ha hc
    obtain ⟨hnonneg', hextent'⟩ := extent_add hb hc
    rw [le_iff_extent ha hb] at hab
    rw [le_iff_extent hnonneg hnonneg', hextent, hextent']
    exact approx_mono 0 (add_le_add_left hab _)
  mul_self_nonneg ha := (extent_mul_self ha).1
  mul_self_le_mul_self ha hab := by
    have hb := nonneg_of_le ha hab
    obtain ⟨hnonneg, hextent⟩ := extent_mul_self ha
    obtain ⟨hnonneg', hextent'⟩ := extent_mul_self hb
    rw [le_iff_extent ha hb] at hab
    rw [le_iff_extent hnonneg hnonneg', hextent, hextent']
    exact approx_mono 1074 (mul_le_mul' hab hab)
  neg_mul_neg_self a := by
    change Float.ofModel (.pack (UnpackedFloat.mul binary64 (-a).toModel.unpack
      (-a).toModel.unpack)) = Float.ofModel (.pack (UnpackedFloat.mul binary64 a.toModel.unpack
      a.toModel.unpack))
    rw [unpack_neg, mul_neg_neg]
  two_mul_nonneg ha := (extent_two_mul ha).1
  two_mul_le ha := by
    obtain ⟨hnonneg, hextent⟩ := extent_two_mul ha
    exact (le_iff_extent hnonneg (extent_add ha ha).1).mpr hextent.le
  natCast_nonneg hn := nonneg_natural hn

end Skirmish
