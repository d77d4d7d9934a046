import Skirmish.Proofs.Language.Calculations
import Skirmish.Proofs.Scalar.Wrapping

namespace Skirmish

open Binary64

-- A double that stands for a signed 32-bit integer.
def IsWord (x : Float) (w : Int32) : Prop := x.isFinite = true ∧ value x = w.toInt

-- A word of the language takes these numbers from the stack, the top first, and pushes one in
-- their place.
def Pushes (v : Vocabulary) (word : String) (operands : List Float) (n : Float) : Prop :=
  ∀ (B : Type) [Body Float B] (rig : Rig Float B) (below rest : List (Value Float))
    (room executed : Nat),
    Rig.Steps v 1 (rig.midway ⟨operands.map .number ++ below, room⟩ (.word word :: rest) executed)
      (rig.midway ⟨.number n :: below, room + (operands.length - 1)⟩ rest (executed + 1))

-- The operations whose results are signed 32-bit integers, apart from remainders, which may
-- not exist.
def UnaryOperation.integral : List UnaryOperation := [.absolute, .complement]

def BinaryOperation.integral : List BinaryOperation :=
  [.add, .subtract, .multiply, .and, .or, .xor, .shiftLeft, .shiftRight]

section Words

variable {x y : Float} {m n w : Int32}

theorem IsWord.isInteger (h : IsWord x w) : IsInteger x w.toInt := isInteger_iff.mpr h

theorem isWord_ofInt32 (w : Int32) : IsWord (Scalar.ofInt32 w) w := isInteger_iff.mp (.ofWord w)

theorem natAbs_toInt_le (w : Int32) : w.toInt.natAbs ≤ 2 ^ 31 := by
  have hlow := w.le_toInt
  have hhigh := w.toInt_lt
  omega

theorem toInt32_ofInt32 (w : Int32) : Scalar.toInt32 (Scalar.ofInt32 w : Float) = w :=
  (IsInteger.ofWord w).toInt32_eq.trans (Int32.ofInt_toInt w)

-- What is cut down is a residue of the exact result, if that is a double.
theorem cut_eq {k : Int} (h : IsInteger x k) :
    Scalar.cut x = (Scalar.ofInt32 (Int32.ofInt k) : Float) := by
  rw [Scalar.cut, h.toInt32_eq]

theorem apply_add (hx : IsWord x m) (hy : IsWord y n) :
    BinaryOperation.add.apply x y = .ok (Scalar.ofInt32 (m + n)) := by
  have hm := natAbs_toInt_le m
  have hn := natAbs_toInt_le n
  have hsum := hx.isInteger.add hy.isInteger (by omega)
  rw [BinaryOperation.apply, cut_eq hsum, Int32.ofInt_add, Int32.ofInt_toInt, Int32.ofInt_toInt]

theorem apply_subtract (hx : IsWord x m) (hy : IsWord y n) :
    BinaryOperation.subtract.apply x y = .ok (Scalar.ofInt32 (m - n)) := by
  have hm := natAbs_toInt_le m
  have hn := natAbs_toInt_le n
  have hdifference := hx.isInteger.sub hy.isInteger (by omega)
  rw [BinaryOperation.apply, cut_eq hdifference, Int32.ofInt_sub, Int32.ofInt_toInt, Int32.ofInt_toInt]

theorem apply_multiply (hx : IsWord x m) (hy : IsWord y n) (hsmall : |m.toInt * n.toInt| ≤ 2 ^ 53) :
    BinaryOperation.multiply.apply x y = .ok (Scalar.ofInt32 (m * n)) := by
  have hproduct := hx.isInteger.mul hy.isInteger (by
    rw [Int.abs_eq_natAbs] at hsmall
    omega)
  rw [BinaryOperation.apply, cut_eq hproduct, Int32.ofInt_mul, Int32.ofInt_toInt, Int32.ofInt_toInt]

theorem UnaryOperation.apply_integral {f : UnaryOperation} (hf : f ∈ integral) (a : Float) :
    ∃ w, f.apply a = Scalar.ofInt32 w := by
  cases f with
  | absolute | complement => exact ⟨_, rfl⟩
  | not => exact absurd hf (by decide)

theorem BinaryOperation.apply_integral {f : BinaryOperation} (hf : f ∈ integral) (a b : Float) :
    ∃ w, f.apply a b = .ok (Scalar.ofInt32 w) := by
  cases f with
  | add | subtract | multiply | and | or | xor | shiftLeft | shiftRight => exact ⟨_, rfl⟩
  | _ => exact absurd hf (by decide)

theorem toInt_toInt32_iff (hx : x.isFinite = true) (k : Int) : (Scalar.toInt32 x).toInt = k ↔
    -2 ^ 31 ≤ k ∧ k < 2 ^ 31 ∧ k ≡ towardZero (value x) [ZMOD 2 ^ 32] := by
  rw [toInt32_eq hx, Int32.toInt_ofInt]
  generalize towardZero (value x) = t
  have hresidue : t.bmod (2 ^ 32) % 2 ^ 32 = t % 2 ^ 32 := Int.bmod_emod
  have hlow : -2 ^ 31 ≤ t.bmod (2 ^ 32) := Int.le_bmod (by norm_num)
  have hhigh : t.bmod (2 ^ 32) < 2 ^ 31 := Int.bmod_lt (by norm_num)
  change t.bmod (2 ^ 32) = k ↔ -2 ^ 31 ≤ k ∧ k < 2 ^ 31 ∧ k % 2 ^ 32 = t % 2 ^ 32
  omega

end Words

section Stepping

variable {v : Vocabulary}

theorem pushes_unary (hv : v.Calculates) (f : UnaryOperation) (a : Float) :
    Pushes v f.word [a] (f.apply a) :=
  fun _ _ _ _ _ _ _ => Rig.steps_unary hv f

theorem pushes_binary (hv : v.Calculates) {f : BinaryOperation} {a b n : Float}
    (h : f.apply a b = .ok n) : Pushes v f.word [b, a] n :=
  fun _ _ _ _ _ _ _ => Rig.steps_binary hv h

-- What a program is told where it divides by zero.
def FailsToDivide (v : Vocabulary) (word : String) (operands : List Float) : Prop :=
  ∀ (B : Type) [Body Float B] (rig : Rig Float B) (below rest : List (Value Float))
    (room executed : Nat),
    ∃ after, Rig.step v
      (rig.midway ⟨operands.map .number ++ below, room⟩ (.word word :: rest) executed) =
        .error .divisionByZero after

theorem failsToDivide_modulo (hv : v.Calculates) {a b : Float}
    (hzero : (b == ((0 : Int) : Float)) = true) :
    FailsToDivide v BinaryOperation.modulo.word [b, a] := by
  intro B _ rig below rest room executed
  have hdivides : (rig.midway ⟨[b, a].map .number ++ below, room⟩
      (.word BinaryOperation.modulo.word :: rest) executed).DividesByZero :=
    ⟨.modulo, a, b, below, rest, rfl, rfl, .inr rfl, hzero⟩
  exact (hdivides.step hv).2

-- Calculation with whole numbers is that of signed 32-bit words.
theorem words_are_twos_complement :
    (∀ x : Float, x.isFinite = true → ∀ n : Int, (Scalar.toInt32 x).toInt = n ↔
      -2 ^ 31 ≤ n ∧ n < 2 ^ 31 ∧ n ≡ towardZero (value x) [ZMOD 2 ^ 32]) ∧
    (∀ x : Float, x.isFinite = false → Scalar.toInt32 x = 0) ∧
    (∀ x : Float, Scalar.toInt32 (Scalar.ofInt32 (Scalar.toInt32 x) : Float) = Scalar.toInt32 x) ∧
    ∀ v : Vocabulary, v.Calculates →
      (∀ (x y : Float) (m n : Int32), IsWord x m → IsWord y n →
        (∃ s, IsWord s (m + n) ∧ Pushes v "+" [y, x] s) ∧
        (∃ d, IsWord d (m - n) ∧ Pushes v "-" [y, x] d) ∧
        (|m.toInt * n.toInt| ≤ 2 ^ 53 → ∃ p, IsWord p (m * n) ∧ Pushes v "*" [y, x] p)) ∧
      (∀ word ∈ ["abs", "~"], ∀ a : Float, ∃ n w, IsWord n w ∧ Pushes v word [a] n) ∧
      (∀ word ∈ ["+", "-", "*", "&", "|", "^", "<<", ">>"], ∀ a b : Float,
        ∃ n w, IsWord n w ∧ Pushes v word [b, a] n) ∧
      ∀ a b : Float, if b == ((0 : Int) : Float) then FailsToDivide v "%" [b, a]
        else ∃ n w, IsWord n w ∧ Pushes v "%" [b, a] n := by
  refine ⟨fun x hx => toInt_toInt32_iff hx, fun x => toInt32_of_not_isFinite,
    fun x => toInt32_ofInt32 _, fun v hv => ⟨?_, ?_, ?_, ?_⟩⟩
  · intro x y m n hx hy
    refine ⟨⟨_, isWord_ofInt32 _, pushes_binary hv (apply_add hx hy)⟩,
      ⟨_, isWord_ofInt32 _, pushes_binary hv (apply_subtract hx hy)⟩, fun hsmall => ?_⟩
    exact ⟨_, isWord_ofInt32 _, pushes_binary hv (apply_multiply hx hy hsmall)⟩
  · intro word hword a
    have hword' : word ∈ UnaryOperation.integral.map UnaryOperation.word := hword
    obtain ⟨f, hf, rfl⟩ := List.mem_map.mp hword'
    obtain ⟨w, hw⟩ := UnaryOperation.apply_integral hf a
    exact ⟨f.apply a, w, hw ▸ isWord_ofInt32 w, pushes_unary hv f a⟩
  · intro word hword a b
    have hword' : word ∈ BinaryOperation.integral.map BinaryOperation.word := hword
    obtain ⟨f, hf, rfl⟩ := List.mem_map.mp hword'
    obtain ⟨w, hw⟩ := BinaryOperation.apply_integral hf a b
    exact ⟨_, w, isWord_ofInt32 w, pushes_binary hv hw⟩
  · intro a b
    split
    · rename_i hzero
      exact failsToDivide_modulo hv hzero
    · rename_i hne
      exact ⟨_, _, isWord_ofInt32 _, pushes_binary (f := .modulo) hv (if_neg hne)⟩

theorem words_are_twos_complement_overflow :
    (Scalar.toInt32 ((3000000000 : Int) : Float)).toInt = -1294967296 ∧
      (∃ s, IsWord s (-2147483648) ∧
        Pushes .core "+" [Scalar.ofInt32 1, Scalar.ofInt32 2147483647] s) ∧
      (∃ p, IsWord p 0 ∧ Pushes .core "*" [Scalar.ofInt32 65536, Scalar.ofInt32 65536] p) ∧
      FailsToDivide .core "%" [((0 : Int) : Float), ((7 : Int) : Float)] := by
  obtain ⟨hresidue, -, -, hwords⟩ := words_are_twos_complement
  obtain ⟨hexact, -, -, hmodulo⟩ := hwords .core Vocabulary.calculates_core
  have hbig : IsInteger ((3000000000 : Int) : Float) 3000000000 := .ofInt (by norm_num)
  have hsum : (2147483647 : Int32) + 1 = -2147483648 := by decide
  have hproduct : (65536 : Int32) * 65536 = 0 := by decide
  refine ⟨?_, ?_, ?_, ?_⟩
  · refine (hresidue _ hbig.isFinite _).mpr ⟨by norm_num, by norm_num, ?_⟩
    rw [(isInteger_iff.mp hbig).2, towardZero_intCast]
    decide
  · rw [← hsum]
    exact (hexact _ _ _ _ (isWord_ofInt32 2147483647) (isWord_ofInt32 1)).1
  · rw [← hproduct]
    exact (hexact _ _ _ _ (isWord_ofInt32 65536) (isWord_ofInt32 65536)).2.2 (by decide)
  · have hzero := hmodulo ((7 : Int) : Float) ((0 : Int) : Float)
    rwa [if_pos (by decide +kernel)] at hzero

end Stepping

end Skirmish
