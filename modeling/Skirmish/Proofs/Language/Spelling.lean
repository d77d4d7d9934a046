import Skirmish.Language.Parser

namespace Skirmish

namespace Text

theorem natural?_toDigits (n : Nat) : natural? (Nat.toDigits 10 n) = some n := by
  have hdigits : (Nat.toDigits 10 n).all Char.isDigit = true := by
    rw [List.all_eq_true]
    exact fun c hc => Nat.isDigit_of_mem_toDigits (by decide) (by decide) hc
  have hsome : (Nat.toDigits 10 n).isEmpty = false := by simp [Nat.toDigits_ne_nil]
  have hvalue : valueOf (Nat.toDigits 10 n) = n := by
    unfold valueOf
    rw [← Nat.ofDigitChars_eq_foldl, Nat.ofDigitChars_ten_toDigits]
  unfold natural?
  rw [hdigits, hsome, hvalue]
  rfl

-- Digits are not taken for a sign.
theorem integer?_of_isDigit {c : Char} (hc : c.isDigit = true) (cs : List Char) :
    integer? (c :: cs) = (natural? (c :: cs)).map Int.ofNat := by
  unfold integer?
  split
  · rename_i heq
    cases heq
    contradiction
  · rename_i heq
    cases heq
    contradiction
  · rfl

theorem toList_toString_ofNat (n : Nat) : (toString (Int.ofNat n)).toList = Nat.toDigits 10 n :=
  String.toList_ofList

theorem toList_toString_negSucc (n : Nat) :
    (toString (Int.negSucc n)).toList = '-' :: Nat.toDigits 10 (n + 1) := by
  change ("-" ++ (n + 1).repr).toList = _
  rw [String.toList_append, Nat.repr_eq_ofList_toDigits, String.toList_ofList, String.toList_ofList]
  rfl

theorem integer?_toString (n : Int) : integer? (toString n).toList = some n := by
  cases n with
  | ofNat n =>
      rw [toList_toString_ofNat]
      cases hdigits : Nat.toDigits 10 n with
      | nil => exact absurd hdigits Nat.toDigits_ne_nil
      | cons c cs =>
          have hc : c.isDigit = true :=
            Nat.isDigit_of_mem_toDigits (by decide) (by decide) (hdigits ▸ List.mem_cons_self)
          rw [integer?_of_isDigit hc, ← hdigits, natural?_toDigits]
          rfl
  | negSucc n =>
      rw [toList_toString_negSucc, integer?, natural?_toDigits]
      rfl

end Text

namespace Value

theorem integer?_toString (n : Int64) : integer? (toString n.toInt) = some n.toInt := by
  unfold integer?
  rw [Text.integer?_toString]
  have hlow : Int64.minValue.toInt ≤ n.toInt := n.minValue_le_toInt
  have hhigh : n.toInt ≤ Int64.maxValue.toInt := n.toInt_le
  exact if_pos ⟨hlow, hhigh, rfl⟩

theorem exists_of_integer? {spelling : String} {n : Int} (h : integer? spelling = some n) :
    ∃ k : Int64, k.toInt = n ∧ spelling = toString k.toInt := by
  unfold integer? at h
  split at h
  · split at h
    · rename_i hcanonical
      cases h
      obtain ⟨hlow, hhigh, hspelled⟩ := hcanonical
      have hfits : (Int64.ofInt n).toInt = n := Int64.toInt_ofInt_of_le hlow (Int.lt_add_one_of_le hhigh)
      exact ⟨.ofInt n, hfits, by rw [hfits, hspelled]⟩
    · contradiction
  · contradiction

-- A spelling is no number exactly if it is not the canonical one of any integer.
theorem integer?_eq_none_iff {spelling : String} :
    integer? spelling = none ↔ ∀ n : Int64, spelling ≠ toString n.toInt := by
  constructor
  · rintro h n rfl
    rw [integer?_toString] at h
    contradiction
  · intro h
    cases hspelled : integer? spelling with
    | none => rfl
    | some n =>
        obtain ⟨k, _, hk⟩ := exists_of_integer? hspelled
        exact absurd hk (h k)

end Value

end Skirmish
