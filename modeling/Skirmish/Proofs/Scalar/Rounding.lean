import Skirmish.Proofs.Scalar.Integers

namespace Skirmish.Binary64

open Float.Model (UnpackedFloat totalExponent)
open Float.Model.Format (binary64)
open Float.Model.UnpackedFloat

-- Mantissas in order, with the bits that were cut off from them.
def key (em : ExtendedMantissa) : Nat :=
  4 * em.mantissa + 2 * em.roundBit.toNat + em.stickyBit.toNat

theorem key_shiftRightOne_le {a b : ExtendedMantissa} (h : key a ≤ key b) :
    key a.shiftRightOne ≤ key b.shiftRightOne := by
  obtain ⟨m, round, sticky⟩ := a
  obtain ⟨n, round', sticky'⟩ := b
  have hround : ∀ k : Nat, (k % 2 != 0).toNat = k % 2 := by
    intro k
    rcases Nat.mod_two_eq_zero_or_one k with h | h <;> simp [h]
  simp only [key, ExtendedMantissa.shiftRightOne, hround] at h ⊢
  cases round <;> cases sticky <;> cases round' <;> cases sticky' <;> simp at h ⊢ <;> omega

theorem roundedMantissa_le {a b : ExtendedMantissa} (h : key a ≤ key b) :
    a.roundedMantissa ≤ b.roundedMantissa := by
  obtain ⟨m, round, sticky⟩ := a
  obtain ⟨n, round', sticky'⟩ := b
  cases round <;> cases sticky <;> cases round' <;> cases sticky' <;>
    simp [key, ExtendedMantissa.roundedMantissa, ExtendedMantissa.accuracy,
      Accuracy.roundToNearestEven] at h ⊢ <;> omega

-- A number without so many of its lowest bits, rounded to the nearest.
def rounded (bits n : Nat) : Nat :=
  (Nat.repeat ExtendedMantissa.shiftRightOne bits ⟨n, false, false⟩).roundedMantissa

theorem rounded_mono (bits : Nat) {m n : Nat} (h : m ≤ n) : rounded bits m ≤ rounded bits n := by
  apply roundedMantissa_le
  induction bits with
  | zero =>
      simp only [Nat.repeat, key]
      omega
  | succ bits ih => exact key_shiftRightOne_le ih

theorem repeat_add {α : Type} (f : α → α) (j k : Nat) (a : α) :
    Nat.repeat f (j + k) a = Nat.repeat f j (Nat.repeat f k a) := by
  induction j with
  | zero => simp [Nat.repeat]
  | succ j ih => rw [Nat.succ_add, Nat.repeat, ih, Nat.repeat]

-- Zeros can be cut off first.
theorem rounded_add_mul (bits extra n : Nat) :
    rounded (bits + extra) (n * 2 ^ extra) = rounded bits n := by
  rw [rounded, repeat_add, repeat_shiftRightOne]
  rfl

theorem rounded_zero (n : Nat) : rounded 0 n = n := rfl

theorem rounded_mul (bits n : Nat) : rounded bits (n * 2 ^ bits) = n := by
  have hcut := rounded_add_mul 0 bits n
  rw [Nat.zero_add] at hcut
  rw [hcut, rounded_zero]

-- How many bits a double has to do without, for a size on a grid that is finer than that
-- of doubles by some bits.
def excess (finer n : Nat) : Nat := max (n.log2 - 52) finer

-- The nearest size on the grid of doubles with no more bits than they have.
def nearest (finer n : Nat) : Nat := rounded (excess finer n) n * 2 ^ (excess finer n - finer)

theorem rounded_le {bits n : Nat} (h : n.log2 ≤ 52 + bits) : rounded bits n ≤ 2 ^ 53 := by
  have hlt : n < 2 ^ 53 * 2 ^ bits := by
    calc n < 2 ^ (n.log2 + 1) := Nat.lt_log2_self
      _ ≤ 2 ^ (53 + bits) := Nat.pow_le_pow_right (by norm_num) (by omega)
      _ = 2 ^ 53 * 2 ^ bits := pow_add 2 53 bits
  calc rounded bits n ≤ rounded bits (2 ^ 53 * 2 ^ bits) := rounded_mono bits hlt.le
    _ = 2 ^ 53 := rounded_mul bits _

theorem le_rounded {bits n : Nat} (hn : n ≠ 0) (h : 52 + bits ≤ n.log2) :
    2 ^ 52 ≤ rounded bits n := by
  have hle : 2 ^ 52 * 2 ^ bits ≤ n := by
    calc 2 ^ 52 * 2 ^ bits = 2 ^ (52 + bits) := (pow_add 2 52 bits).symm
      _ ≤ 2 ^ n.log2 := Nat.pow_le_pow_right (by norm_num) h
      _ ≤ n := Nat.log2_self_le hn
  calc 2 ^ 52 = rounded bits (2 ^ 52 * 2 ^ bits) := (rounded_mul bits _).symm
    _ ≤ rounded bits n := rounded_mono bits hle

theorem log2_le_log2 {m n : Nat} (h : m ≤ n) : m.log2 ≤ n.log2 := by
  rw [Nat.log2_eq_log_two, Nat.log2_eq_log_two]
  exact Nat.log_mono_right h

-- Rounding keeps sizes in order. Where the greater number has more bits to cut off, the
-- power of two between both is kept.
theorem nearest_mono (finer : Nat) {m n : Nat} (h : m ≤ n) : nearest finer m ≤ nearest finer n := by
  have hlog := log2_le_log2 h
  unfold nearest
  rcases Nat.eq_or_lt_of_le (show excess finer m ≤ excess finer n by unfold excess; omega) with
    heq | hlt
  · rw [heq]
    exact Nat.mul_le_mul_right _ (rounded_mono _ h)
  · have hmore : 52 + excess finer n = n.log2 ∧ finer < excess finer n := by
      unfold excess at hlt ⊢
      omega
    have hfew : m.log2 ≤ 52 + excess finer m ∧ finer ≤ excess finer m := by
      unfold excess
      omega
    have hn : n ≠ 0 := by
      rintro rfl
      simp at hmore
    calc rounded (excess finer m) m * 2 ^ (excess finer m - finer)
        ≤ 2 ^ 53 * 2 ^ (excess finer m - finer) := Nat.mul_le_mul_right _ (rounded_le hfew.1)
      _ = 2 ^ (53 + (excess finer m - finer)) := (pow_add _ _ _).symm
      _ ≤ 2 ^ (52 + (excess finer n - finer)) :=
          Nat.pow_le_pow_right (by norm_num) (by omega)
      _ = 2 ^ 52 * 2 ^ (excess finer n - finer) := pow_add _ _ _
      _ ≤ rounded (excess finer n) n * 2 ^ (excess finer n - finer) :=
          Nat.mul_le_mul_right _ (le_rounded hn hmore.1.le)

theorem nearest_zero (finer : Nat) : nearest finer 0 = 0 := by
  have hnone := rounded_mul (excess finer 0) 0
  rw [Nat.zero_mul] at hnone
  rw [nearest, hnone, Nat.zero_mul]

-- How fine the grid is makes no difference to numbers on a coarser one.
theorem nearest_mul (finer n : Nat) : nearest finer (n * 2 ^ finer) = nearest 0 n := by
  by_cases hpos : 0 < n
  · have hexcess : excess finer (n * 2 ^ finer) = excess 0 n + finer := by
      unfold excess
      rw [log2_mul_two_pow hpos]
      omega
    rw [nearest, hexcess, rounded_add_mul, Nat.add_sub_cancel]
    rfl
  · obtain rfl : n = 0 := by omega
    rw [Nat.zero_mul, nearest_zero, nearest_zero]

-- A size in the form that doubles have for it, were there no limit to it.
structure Canonical (mantissa : Nat) (exponent : Int) : Prop where
  short : mantissa < 2 ^ 53
  full : 2 ^ 52 ≤ mantissa ∨ exponent = -1074
  low : -1074 ≤ exponent

theorem Fits.canonical {m : Nat} {e : Int} (h : Fits m e) : Canonical m e := ⟨h.short, h.full, h.low⟩

-- A size as a number of places on the grid of doubles.
def steps (mantissa : Nat) (exponent : Int) : Nat := mantissa * 2 ^ (exponent + 1074).toNat

theorem Canonical.log2_le {m : Nat} {e : Int} (h : Canonical m e) : m.log2 ≤ 52 := by
  rcases Nat.eq_zero_or_pos m with rfl | hpos
  · simp
  · exact log2_le_of_short hpos h.short

theorem Canonical.nearest_steps {m : Nat} {e : Int} (h : Canonical m e) :
    nearest 0 (steps m e) = steps m e := by
  have hexcess : excess 0 (steps m e) = (e + 1074).toNat := by
    have hlog := h.log2_le
    unfold excess steps
    rcases h.full with hfull | rfl
    · have hpos : m ≠ 0 := by omega
      have hle := (Nat.le_log2 hpos).mpr hfull
      rw [log2_mul_two_pow (Nat.pos_of_ne_zero hpos)]
      omega
    · simp
      omega
  rw [nearest, hexcess, Nat.sub_zero]
  unfold steps
  rw [rounded_mul]

theorem Canonical.steps_lt {m m' : Nat} {e e' : Int} (h : Canonical m e) (h' : Canonical m' e')
    (he : e < e') : steps m e < steps m' e' := by
  have hlow := h.low
  have hfull : 2 ^ 52 ≤ m' := h'.full.resolve_right (by omega)
  calc m * 2 ^ (e + 1074).toNat
      < 2 ^ 53 * 2 ^ (e + 1074).toNat := Nat.mul_lt_mul_of_pos_right h.short (by positivity)
    _ = 2 ^ (53 + (e + 1074).toNat) := (pow_add _ _ _).symm
    _ ≤ 2 ^ (52 + (e' + 1074).toNat) := Nat.pow_le_pow_right (by norm_num) (by omega)
    _ = 2 ^ 52 * 2 ^ (e' + 1074).toNat := pow_add _ _ _
    _ ≤ m' * 2 ^ (e' + 1074).toNat := Nat.mul_le_mul_right _ hfull

-- Doubles are compared by their exponents first.
theorem Canonical.compare_eq {m m' : Nat} {e e' : Int} (h : Canonical m e) (h' : Canonical m' e') :
    (compare e e').then (compare m m') = compare (steps m e) (steps m' e') := by
  rcases Int.lt_trichotomy e e' with hlt | rfl | hgt
  · rw [Int.compare_eq_lt.mpr hlt, Nat.compare_eq_lt.mpr (h.steps_lt h' hlt)]
    rfl
  · rw [Int.compare_eq_eq.mpr rfl, Ordering.eq_then]
    have hpos : 0 < 2 ^ (e + 1074).toNat := by positivity
    unfold steps
    rcases Nat.lt_trichotomy m m' with hlt | rfl | hgt
    · rw [Nat.compare_eq_lt.mpr hlt, Nat.compare_eq_lt.mpr (Nat.mul_lt_mul_of_pos_right hlt hpos)]
    · rw [Nat.compare_eq_eq.mpr rfl, Nat.compare_eq_eq.mpr rfl]
    · rw [Nat.compare_eq_gt.mpr hgt, Nat.compare_eq_gt.mpr (Nat.mul_lt_mul_of_pos_right hgt hpos)]
  · rw [Int.compare_eq_gt.mpr hgt, Nat.compare_eq_gt.mpr (h'.steps_lt h hgt)]
    rfl

theorem targetExponent_eq (m : Nat) (e : Int) :
    binary64.targetExponent (totalExponent m e) = max (m.log2 + 1 + e - 53) (-1074) := rfl

-- What an unpacked number is after rounding.
structure Rounds (sign : Sign) (n : Nat) (u : UnpackedFloat) : Prop where
  zero : n = 0 → u = .zero sign
  finite : n ≠ 0 → ∃ m e h, u = .finite sign m e h ∧ Canonical m e ∧ steps m e = n

-- A mantissa that rounding has filled up is shifted once more.
theorem shiftToTargetExponent_rounded {r : Nat} {e : Int} (hr : r ≤ 2 ^ 53) (he : -1074 ≤ e)
    (hfull : 2 ^ 52 ≤ r ∨ e = -1074) :
    ∃ m e', shiftToTargetExponent binary64 r e .exact = (⟨m, false, false⟩, e') ∧
      Canonical m e' ∧ steps m e' = steps r e := by
  rcases Nat.lt_or_eq_of_le hr with hshort | rfl
  · have hcanonical : Canonical r e := ⟨hshort, hfull, he⟩
    have hlog := hcanonical.log2_le
    have hshift : (max (r.log2 + 1 + e - 53) (-1074) - e).toNat = 0 := by omega
    refine ⟨r, e, ?_, hcanonical, rfl⟩
    unfold shiftToTargetExponent shiftToExponent
    simp only [targetExponent_eq, hshift]
    simp [ExtendedMantissa.ofMantissaAndAccuracy, HShiftRight.hShiftRight, Nat.repeat]
  · have hlog : Nat.log2 (2 ^ 53) = 53 := Nat.log2_two_pow
    have hshift : (max (((2 ^ 53 : Nat).log2 : Int) + 1 + e - 53) (-1074) - e).toNat = 1 := by
      rw [hlog]
      omega
    refine ⟨2 ^ 52, e + 1, ?_, ⟨by norm_num, .inl le_rfl, by omega⟩, ?_⟩
    · unfold shiftToTargetExponent shiftToExponent
      simp only [targetExponent_eq, hshift]
      simp [ExtendedMantissa.ofMantissaAndAccuracy, HShiftRight.hShiftRight, Nat.repeat,
        ExtendedMantissa.shiftRightOne]
    · have hexponent : (e + 1 + 1074).toNat = (e + 1074).toNat + 1 := by omega
      rw [steps, steps, hexponent]
      ring

-- The first shift cuts off the excess.
theorem shiftToTargetExponent_excess (finer n : Nat) :
    shiftToTargetExponent binary64 n (-((1074 + finer : Nat) : Int)) .exact =
      (Nat.repeat ExtendedMantissa.shiftRightOne (excess finer n) ⟨n, false, false⟩,
        -1074 + ((excess finer n - finer : Nat) : Int)) := by
  have hshift : (max ((n.log2 : Int) + 1 + -((1074 + finer : Nat) : Int) - 53) (-1074) -
      -((1074 + finer : Nat) : Int)).toNat = excess finer n := by
    unfold excess
    omega
  have hexponent : -((1074 + finer : Nat) : Int) + (excess finer n : Nat) =
      -1074 + (excess finer n - finer : Nat) := by
    unfold excess
    omega
  unfold shiftToTargetExponent shiftToExponent
  simp only [targetExponent_eq, hshift, hexponent]
  rfl

-- What is left has all the bits of a double, unless it is on the grid of the smallest.
theorem rounded_excess_full (finer n : Nat) :
    2 ^ 52 ≤ rounded (excess finer n) n ∨
      -1074 + ((excess finer n - finer : Nat) : Int) = -1074 := by
  by_cases hmore : finer < excess finer n
  · left
    apply le_rounded
    · rintro rfl
      simp [excess] at hmore
    · unfold excess at hmore ⊢
      omega
  · right
    omega

theorem rounds_roundWithAccuracy (sign : Sign) (finer n : Nat) :
    Rounds sign (nearest finer n)
      (roundWithAccuracy binary64 sign n (-((1074 + finer : Nat) : Int)) .exact) := by
  obtain ⟨m, e, hsecond, hcanonical, hsteps⟩ := shiftToTargetExponent_rounded
    (rounded_le (by unfold excess; omega)) (by omega) (rounded_excess_full finer n)
  have hrounded : (Nat.repeat ExtendedMantissa.shiftRightOne (excess finer n)
      ⟨n, false, false⟩).roundedMantissa = rounded (excess finer n) n := rfl
  have hsize : steps m e = nearest finer n := by
    rw [hsteps, steps, nearest]
    congr 2
    omega
  unfold roundWithAccuracy
  simp only [shiftToTargetExponent_excess, hrounded, hsecond]
  constructor
  · intro hzero
    have hm : m = 0 := by
      rw [hzero, steps, Nat.mul_eq_zero] at hsize
      exact hsize.resolve_right (by positivity)
    rw [dif_pos hm]
  · intro hne
    have hm : m ≠ 0 := by
      rintro rfl
      rw [steps, Nat.zero_mul] at hsize
      exact hne hsize.symm
    rw [dif_neg hm]
    exact ⟨m, e, Nat.pos_of_ne_zero hm, rfl, hcanonical, hsize⟩

-- Zeros below a number that has bits to lose do not matter.
theorem roundWithAccuracy_mul_two_pow (sign : Sign) {n : Nat} (hpos : 0 < n) {e : Int}
    (he : e ≤ max ((n.log2 : Int) + 1 + e - 53) (-1074)) (extra : Nat) :
    roundWithAccuracy binary64 sign (n * 2 ^ extra) (e - extra) .exact =
      roundWithAccuracy binary64 sign n e .exact := by
  obtain ⟨cut, hcut⟩ : ∃ cut : Nat, max ((n.log2 : Int) + 1 + e - 53) (-1074) = e + cut :=
    ⟨(max ((n.log2 : Int) + 1 + e - 53) (-1074) - e).toNat, by omega⟩
  have htarget : max (((n * 2 ^ extra).log2 : Int) + 1 + (e - extra) - 53) (-1074) = e + cut := by
    rw [log2_mul_two_pow hpos, ← hcut]
    congr 1
    push_cast
    omega
  have hshift : (e + cut - (e - extra)).toNat = cut + extra := by omega
  have hshift' : (e + cut - e).toNat = cut := by omega
  have hexponent : e - (extra : Int) + ((cut + extra : Nat) : Int) = e + cut := by omega
  have hsame : shiftToTargetExponent binary64 (n * 2 ^ extra) (e - extra) .exact =
      shiftToTargetExponent binary64 n e .exact := by
    unfold shiftToTargetExponent shiftToExponent
    simp only [targetExponent_eq, htarget, hcut, hshift, hshift', hexponent]
    refine congrArg (·, e + (cut : Int)) ?_
    change Nat.repeat _ (cut + extra) (ExtendedMantissa.mk (n * 2 ^ extra) false false) = _
    rw [repeat_add, repeat_shiftRightOne]
    rfl
  unfold roundWithAccuracy
  rw [hsame]

theorem rounds_of_le_target (sign : Sign) {n : Nat} (hpos : 0 < n) {e : Int} (finer : Nat)
    (hlow : -((1074 + finer : Nat) : Int) ≤ e)
    (he : e ≤ max ((n.log2 : Int) + 1 + e - 53) (-1074)) :
    Rounds sign (nearest finer (n * 2 ^ (e + ((1074 + finer : Nat) : Int)).toNat))
      (roundWithAccuracy binary64 sign n e .exact) := by
  obtain ⟨extra, rfl⟩ : ∃ extra : Nat, e = -((1074 + finer : Nat) : Int) + extra :=
    ⟨(e + ((1074 + finer : Nat) : Int)).toNat, by omega⟩
  have hbits : (-((1074 + finer : Nat) : Int) + extra + ((1074 + finer : Nat) : Int)).toNat =
      extra := by omega
  have hexponent : -((1074 + finer : Nat) : Int) + extra - extra = -((1074 + finer : Nat) : Int) := by
    omega
  rw [hbits, ← roundWithAccuracy_mul_two_pow sign hpos he extra, hexponent]
  exact rounds_roundWithAccuracy sign finer (n * 2 ^ extra)

-- A sum is rounded from a number on the grid of doubles.
theorem rounds_round (sign : Sign) {n : Nat} (hpos : 0 < n) {e : Int} (he : -1074 ≤ e) :
    Rounds sign (nearest 0 (steps n e)) (UnpackedFloat.round binary64 sign n e) := by
  obtain ⟨extra, hextra⟩ :
      ∃ extra, (e - max ((n.log2 : Int) + 1 + e - 53) (-1074)).toNat = extra := ⟨_, rfl⟩
  have hlog := log2_mul_two_pow hpos extra
  have hsize : n * 2 ^ extra * 2 ^ (e - extra + ((1074 + 0 : Nat) : Int)).toNat = steps n e := by
    have hsplit : (e + 1074).toNat = extra + (e - extra + ((1074 + 0 : Nat) : Int)).toNat := by
      omega
    rw [steps, hsplit, pow_add, Nat.mul_assoc]
  unfold UnpackedFloat.round decreaseExponent
  simp only [targetExponent_eq, hextra, Nat.shiftLeft_eq]
  rw [← hsize]
  apply rounds_of_le_target
  · positivity
  · omega
  · omega

-- A product is rounded from a number on a grid that is finer by as many bits again.
theorem rounds_product (sign : Sign) {m m' : Nat} {e e' : Int} (hpos : 0 < m) (hpos' : 0 < m')
    (h : Canonical m e) (h' : Canonical m' e') :
    Rounds sign (nearest 1074 (steps m e * steps m' e'))
      (roundWithAccuracy binary64 sign (m * m') (e + e') .exact) := by
  have hlow := h.low
  have hlow' := h'.low
  have hsize : steps m e * steps m' e' =
      m * m' * 2 ^ (e + e' + ((1074 + 1074 : Nat) : Int)).toNat := by
    have hsplit : (e + e' + ((1074 + 1074 : Nat) : Int)).toNat =
        (e + 1074).toNat + (e' + 1074).toNat := by omega
    rw [steps, steps, hsplit, pow_add]
    ring
  -- a product is short only if both factors are below all that have an implicit bit
  have hlong : 52 ≤ (m * m').log2 ∨ e = -1074 ∧ e' = -1074 := by
    rw [Nat.le_log2 (by positivity)]
    rcases h.full with hfull | he
    · exact .inl (hfull.trans (Nat.le_mul_of_pos_right m hpos'))
    · rcases h'.full with hfull' | he'
      · exact .inl (hfull'.trans (Nat.le_mul_of_pos_left m' hpos))
      · exact .inr ⟨he, he'⟩
  rw [hsize]
  apply rounds_of_le_target
  · positivity
  · omega
  · omega

end Skirmish.Binary64
