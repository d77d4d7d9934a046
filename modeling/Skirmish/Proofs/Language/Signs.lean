import Skirmish.Proofs.Language.TwosComplement

namespace Skirmish

open Binary64

theorem towardZero_nonneg {q : ℚ} (h : 0 ≤ q) : 0 ≤ towardZero q ∧ towardZero q ≤ q := by
  rw [towardZero, if_pos h]
  exact ⟨Int.floor_nonneg.mpr h, Int.floor_le q⟩

theorem leftOver_neg_left (p q : ℚ) : leftOver (-p) q = -leftOver p q := by
  rw [leftOver, leftOver, neg_div, towardZero_neg]
  push_cast
  ring

theorem leftOver_neg_right (p q : ℚ) : leftOver p (-q) = leftOver p q := by
  rw [leftOver, leftOver, div_neg, towardZero_neg]
  push_cast
  ring

-- What is left over of a number that is not negative is not negative either, and less than
-- the divisor.
theorem leftOver_nonneg {p q : ℚ} (hp : 0 ≤ p) (hq : q ≠ 0) :
    0 ≤ leftOver p q ∧ leftOver p q ≤ p ∧ leftOver p q < |q| := by
  wlog hpos : 0 < q generalizing q with H
  · have hless := H (neg_ne_zero.mpr hq) (neg_pos.mpr (lt_of_le_of_ne (not_lt.mp hpos) hq))
    rwa [leftOver_neg_right, abs_neg] at hless
  have hquotient : 0 ≤ p / q := div_nonneg hp hpos.le
  have hfloor := (le_div_iff₀ hpos).mp (Int.floor_le (p / q))
  have hnext := (div_lt_iff₀ hpos).mp (Int.lt_floor_add_one (p / q))
  have hwhole : (0 : ℚ) ≤ ⌊p / q⌋ := Int.cast_nonneg (Int.floor_nonneg.mpr hquotient)
  rw [leftOver, towardZero, if_pos hquotient, abs_of_pos hpos]
  refine ⟨by linarith, ?_, by linarith⟩
  have := mul_nonneg hpos.le hwhole
  linarith

-- Zero, or of the same sign.
def FollowsSign (r b : ℚ) : Prop := r = 0 ∨ SignType.sign r = SignType.sign b

theorem followsSign_of_pos {r b : ℚ} (hb : 0 < b) : FollowsSign r b ↔ 0 ≤ r := by
  rw [FollowsSign, sign_pos hb, sign_eq_one_iff, or_comm, eq_comm, le_iff_lt_or_eq]

theorem followsSign_of_neg {r b : ℚ} (hb : b < 0) : FollowsSign r b ↔ r ≤ 0 := by
  rw [FollowsSign, sign_neg hb, sign_eq_neg_one_iff, or_comm, le_iff_lt_or_eq]

section Residues

variable {t : Int}

theorem abs_bmod_le (t : Int) : |t.bmod (2 ^ 32)| ≤ |t| := by
  rw [bmod_eq_ite, Int.abs_eq_natAbs, Int.abs_eq_natAbs]
  split <;> omega

theorem bmod_nonneg_iff : 0 ≤ t.bmod (2 ^ 32) ↔ t % 2 ^ 32 < 2 ^ 31 := by
  rw [bmod_eq_ite]
  split <;> omega

theorem bmod_nonpos_iff : t.bmod (2 ^ 32) ≤ 0 ↔ -t % 2 ^ 32 ≤ 2 ^ 31 := by
  rw [bmod_eq_ite]
  split <;> omega

end Residues

-- What is left over of a number, without its fraction.
def wholeRest (b a : ℚ) : Int := towardZero (leftOver b a)

theorem wholeRest_neg (b a : ℚ) : wholeRest (-b) a = -wholeRest b a := by
  rw [wholeRest, leftOver_neg_left, towardZero_neg, wholeRest]

theorem wholeRest_nonneg {b a : ℚ} (hb : 0 ≤ b) (ha : a ≠ 0) :
    0 ≤ wholeRest b a ∧ (wholeRest b a : ℚ) ≤ b ∧ (wholeRest b a : ℚ) < |a| := by
  obtain ⟨hrest, hle, hlt⟩ := leftOver_nonneg hb ha
  obtain ⟨hnonneg, hwhole⟩ := towardZero_nonneg hrest
  exact ⟨hnonneg, hwhole.trans hle, hwhole.trans_lt hlt⟩

theorem wholeRest_nonpos {b a : ℚ} (hb : b ≤ 0) (ha : a ≠ 0) :
    wholeRest b a ≤ 0 ∧ -(wholeRest b a : ℚ) ≤ -b ∧ -(wholeRest b a : ℚ) < |a| := by
  have hrest := wholeRest_nonneg (neg_nonneg.mpr hb) ha
  rw [wholeRest_neg, Int.neg_nonneg] at hrest
  push_cast at hrest
  exact hrest

theorem abs_wholeRest {b a : ℚ} (ha : a ≠ 0) :
    (|wholeRest b a| : ℚ) ≤ |b| ∧ (|wholeRest b a| : ℚ) < |a| := by
  rcases le_total 0 b with hb | hb
  · obtain ⟨hnonneg, hle, hlt⟩ := wholeRest_nonneg hb ha
    rw [abs_of_nonneg (Int.cast_nonneg hnonneg), abs_of_nonneg hb]
    exact ⟨hle, hlt⟩
  · obtain ⟨hnonpos, hle, hlt⟩ := wholeRest_nonpos hb ha
    rw [abs_of_nonpos (Int.cast_nonpos.mpr hnonpos), abs_of_nonpos hb]
    exact ⟨hle, hlt⟩

-- A residue has the sign of the dividend if it is in the half that keeps it.
theorem followsSign_bmod_iff {b a : ℚ} (ha : a ≠ 0) :
    FollowsSign ((wholeRest b a).bmod (2 ^ 32) : Int) b ↔
      |wholeRest b a| % 2 ^ 32 < 2 ^ 31 ∨ (b < 0 ∧ |wholeRest b a| % 2 ^ 32 = 2 ^ 31) := by
  rcases lt_trichotomy b 0 with hb | rfl | hb
  · obtain ⟨hnonpos, -, -⟩ := wholeRest_nonpos hb.le ha
    rw [followsSign_of_neg hb, Int.cast_nonpos, bmod_nonpos_iff, abs_of_nonpos hnonpos]
    simp only [hb, true_and]
    omega
  · have hzero : wholeRest 0 a = 0 := by
      obtain ⟨hnonneg, hle, -⟩ := wholeRest_nonneg le_rfl ha
      exact le_antisymm (by exact_mod_cast hle) hnonneg
    rw [hzero]
    simp [FollowsSign]
  · obtain ⟨hnonneg, -, -⟩ := wholeRest_nonneg hb.le ha
    rw [followsSign_of_pos hb, Int.cast_nonneg_iff, bmod_nonneg_iff, abs_of_nonneg hnonneg]
    simp only [hb.not_gt, false_and, or_false]

section Words

variable {x a b : Float}

theorem apply_absolute (hx : x.isFinite = true) :
    UnaryOperation.absolute.apply x = Scalar.ofInt32 (Int32.ofInt ⌊|value x|⌋) := by
  have hword := toInt32_eq ((isFinite_abs x).trans hx)
  rw [value_abs hx, towardZero, if_pos (abs_nonneg _)] at hword
  exact congrArg Scalar.ofInt32 hword

theorem apply_modulo (hb : b.isFinite = true) (ha : a.isFinite = true) (hne : value a ≠ 0) :
    BinaryOperation.modulo.apply b a =
      .ok (Scalar.ofInt32 (Int32.ofInt (wholeRest (value b) (value a)))) := by
  obtain ⟨hfinite, hvalue⟩ := value_remainder hb ha hne
  have hword := toInt32_eq hfinite
  rw [hvalue] at hword
  rw [BinaryOperation.apply, if_neg (mt (beq_zero_iff ha).mp hne)]
  exact congrArg (fun w => Except.ok (Scalar.ofInt32 w)) hword

theorem value_ofInt32_ofInt (t : Int) :
    value (Scalar.ofInt32 (Int32.ofInt t)) = (t.bmod (2 ^ 32) : Int) := by
  rw [(isWord_ofInt32 _).2, Int32.toInt_ofInt]
  rfl

end Words

-- Signs of results that are cut down to words.
theorem integer_words_keep_signs {v : Vocabulary} (hv : v.Calculates) :
    (∀ x : Float, x.isFinite = true → ∃ n w, Pushes v "abs" [x] n ∧ IsWord n w ∧
      w.toInt ≡ ⌊|value x|⌋ [ZMOD 2 ^ 32] ∧
      (0 ≤ value n ↔ ⌊|value x|⌋ % 2 ^ 32 < 2 ^ 31) ∧ (|value x| < 2 ^ 31 → 0 ≤ value n)) ∧
    ∀ b a : Float, b.isFinite = true → a.isFinite = true → value a ≠ 0 →
      ∃ r w, Pushes v "%" [a, b] r ∧ IsWord r w ∧
        w.toInt ≡ wholeRest (value b) (value a) [ZMOD 2 ^ 32] ∧ |value r| < |value a| ∧
        (FollowsSign (value r) (value b) ↔ |wholeRest (value b) (value a)| % 2 ^ 32 < 2 ^ 31 ∨
          (value b < 0 ∧ |wholeRest (value b) (value a)| % 2 ^ 32 = 2 ^ 31)) ∧
        (|value b| < 2 ^ 31 ∨ |value a| ≤ 2 ^ 31 → FollowsSign (value r) (value b)) := by
  have hresidue : ∀ t : Int, (Int32.ofInt t).toInt ≡ t [ZMOD 2 ^ 32] := by
    intro t
    rw [Int32.toInt_ofInt]
    exact Int.bmod_emod
  constructor
  · intro x hx
    have hpushes := pushes_unary hv .absolute x
    rw [apply_absolute hx] at hpushes
    have hsign : 0 ≤ value (Scalar.ofInt32 (Int32.ofInt ⌊|value x|⌋)) ↔
        ⌊|value x|⌋ % 2 ^ 32 < 2 ^ 31 := by
      rw [value_ofInt32_ofInt, Int.cast_nonneg_iff, bmod_nonneg_iff]
    refine ⟨_, _, hpushes, isWord_ofInt32 _, hresidue _, hsign, fun hsmall => hsign.mpr ?_⟩
    have hnonneg : 0 ≤ ⌊|value x|⌋ := Int.floor_nonneg.mpr (abs_nonneg _)
    have hlt : ⌊|value x|⌋ < 2 ^ 31 := Int.floor_lt.mpr (by exact_mod_cast hsmall)
    omega
  · intro b a hb ha hne
    obtain ⟨hdividend, hdivisor⟩ := abs_wholeRest (b := value b) hne
    have hsize : |((wholeRest (value b) (value a)).bmod (2 ^ 32) : ℚ)| ≤
        |(wholeRest (value b) (value a) : ℚ)| := by
      exact_mod_cast abs_bmod_le (wholeRest (value b) (value a))
    have hsign := followsSign_bmod_iff (b := value b) hne
    rw [← value_ofInt32_ofInt] at hsign hsize
    refine ⟨_, _, pushes_binary hv (apply_modulo hb ha hne), isWord_ofInt32 _, hresidue _,
      hsize.trans_lt hdivisor, hsign, fun hsmall => hsign.mpr (.inl ?_)⟩
    have hlt : |wholeRest (value b) (value a)| < 2 ^ 31 := by
      rcases hsmall with hsmall | hsmall
      · exact_mod_cast hdividend.trans_lt hsmall
      · exact_mod_cast hdivisor.trans_le hsmall
    have hnonneg := abs_nonneg (wholeRest (value b) (value a))
    omega

-- Greater dividends than words may come out with the other sign, and the size of the least
-- word is no word.
theorem integer_words_turn_signs :
    (Pushes .core "abs" [((-2147483648 : Int) : Float)] (Scalar.ofInt32 (-2147483648)) ∧
        value (Scalar.ofInt32 (-2147483648)) < 0) ∧
      Pushes .core "%" [((4000000000 : Int) : Float), ((3000000000 : Int) : Float)]
          (Scalar.ofInt32 (-1294967296)) ∧
        ¬ FollowsSign (value (Scalar.ofInt32 (-1294967296))) (value ((3000000000 : Int) : Float)) := by
  have hb : IsInteger ((3000000000 : Int) : Float) 3000000000 := .ofInt (by norm_num)
  have hleast : value (Scalar.ofInt32 (-2147483648)) = -2147483648 := (isWord_ofInt32 _).2
  have hword : value (Scalar.ofInt32 (-1294967296)) = -1294967296 := (isWord_ofInt32 _).2
  have hsize : Scalar.toInt32 (Scalar.abs ((-2147483648 : Int) : Float)) = -2147483648 := by
    decide +kernel
  have hrest : Scalar.toInt32 (Scalar.remainder ((3000000000 : Int) : Float)
      ((4000000000 : Int) : Float)) = -1294967296 := by
    decide +kernel
  have habs : UnaryOperation.absolute.apply ((-2147483648 : Int) : Float) =
      Scalar.ofInt32 (-2147483648) := congrArg Scalar.ofInt32 hsize
  have hmodulo : BinaryOperation.modulo.apply ((3000000000 : Int) : Float)
      ((4000000000 : Int) : Float) = .ok (Scalar.ofInt32 (-1294967296)) := by
    rw [BinaryOperation.apply, if_neg (by decide +kernel), Scalar.cut, hrest]
  refine ⟨⟨habs ▸ pushes_unary Vocabulary.calculates_core .absolute _, ?_⟩,
    pushes_binary Vocabulary.calculates_core hmodulo, ?_⟩
  · rw [hleast]
    norm_num
  · rw [hword, (isInteger_iff.mp hb).2, followsSign_of_pos (by norm_num)]
    norm_num

theorem integer_words_keep_signs_below :
    (∃ n w, Pushes .core "abs" [((-7 : Int) : Float)] n ∧ IsWord n w ∧ 0 ≤ value n) ∧
      ∃ r w, Pushes .core "%" [((3 : Int) : Float), ((-7 : Int) : Float)] r ∧ IsWord r w ∧
        |value r| < 3 ∧ FollowsSign (value r) (-7) := by
  obtain ⟨habs, hmodulo⟩ := integer_words_keep_signs Vocabulary.calculates_core
  have hx : IsInteger ((-7 : Int) : Float) (-7) := .ofInt (by norm_num)
  have ha : IsInteger ((3 : Int) : Float) 3 := .ofInt (by norm_num)
  have hseven := (isInteger_iff.mp hx).2
  have hthree := (isInteger_iff.mp ha).2
  obtain ⟨n, w, hpushes, hword, -, -, hnonneg⟩ := habs _ hx.isFinite
  obtain ⟨r, w', hpushes', hword', -, hless, -, hfollows⟩ :=
    hmodulo _ _ hx.isFinite ha.isFinite (by rw [hthree]; norm_num)
  rw [hseven, hthree] at hfollows
  rw [hthree] at hless
  rw [hseven] at hnonneg
  exact ⟨⟨n, w, hpushes, hword, hnonneg (by norm_num)⟩, r, w', hpushes', hword',
    by norm_num at hless ⊢; exact hless, by norm_num at hfollows; exact hfollows⟩

end Skirmish
