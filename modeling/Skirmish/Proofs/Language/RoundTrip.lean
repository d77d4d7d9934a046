import Skirmish.Proofs.Language.Cutting
import Skirmish.Proofs.Language.Nesting
import Skirmish.Proofs.Scalar.Truncation

namespace Skirmish

open Text

-- What can be read as it is printed: words that are neither cut nor taken for
-- numbers, and numbers that are printed as integers.
def Mark.Legible : Mark Float → Prop
  | .word name => name ≠ "" ∧ (∀ c ∈ name.toList, IsLetter c) ∧ ∀ n : Int64, name ≠ toString n.toInt
  | .number n => Scalar.isWhole n = true ∧ n.abs < Float.ofNat 9000000000000000
  | _ => True

-- The token that a mark is printed as.
def Mark.token : Mark Float → Token
  | .opening => .opening
  | .closing => .closing
  | .number n => .other (numberText n)
  | .word name => .other name

-- Whether an equal value is read where a mark is printed.
def Mark.Survives : Mark Float → Prop
  | .number n => (Value.ofSpelling (numberText n)).same (.number n) = true
  | .word name => (Value.ofSpelling name).same (.word name : Value Float) = true
  | _ => True

mutual

theorem Value.tokens_eq (v : Value Float) : v.tokens = v.marks.map Mark.token := by
  cases v with
  | number n => simp [Value.tokens, Value.marks, Mark.token]
  | word name => simp [Value.tokens, Value.marks, Mark.token]
  | block body => simp [Value.tokens, Value.marks, Mark.token, Program.tokens_eq body]

theorem Program.tokens_eq (p : Program Float) : Program.tokens p = p.marks.map Mark.token := by
  cases p with
  | nil => simp [Program.tokens, Program.marks]
  | cons v vs => simp [Program.tokens, Program.marks, v.tokens_eq, Program.tokens_eq vs]

end

mutual

-- What is read where a value is printed.
def Value.reread : Value Float → Value Float
  | .number n => .ofSpelling (numberText n)
  | .word name => .ofSpelling name
  | .block body => .block (Program.reread body)

def Program.reread : Program Float → Program Float
  | [] => []
  | v :: vs => v.reread :: Program.reread vs

end

theorem Nest.add_spelling {placed : List (Placed Token)} {spelling : String}
    (hplaced : placed.map Placed.item = [.other spelling]) (nest : Nest Float) :
    placed.foldlM Nest.add nest =
      .ok { nest with contents := .ofSpelling spelling :: nest.contents } := by
  obtain ⟨⟨offset, item⟩, rfl, rfl⟩ := List.map_eq_singleton_iff.mp hplaced
  rfl

mutual

theorem Value.add_tokens (v : Value Float) (nest : Nest Float) {placed : List (Placed Token)}
    (hplaced : placed.map Placed.item = v.tokens) :
    placed.foldlM Nest.add nest = .ok { nest with contents := v.reread :: nest.contents } := by
  cases v with
  | number n =>
      rw [Value.tokens] at hplaced
      rw [Value.reread]
      exact Nest.add_spelling hplaced nest
  | word name =>
      rw [Value.tokens] at hplaced
      rw [Value.reread]
      exact Nest.add_spelling hplaced nest
  | block body =>
      rw [Value.tokens] at hplaced
      obtain ⟨⟨offset, item⟩, rest, rfl, rfl, hrest⟩ := List.map_eq_cons_iff.mp hplaced
      obtain ⟨inner, last, rfl, hinner, hlast⟩ := List.map_eq_append_iff.mp hrest
      obtain ⟨⟨offset', item'⟩, rfl, rfl⟩ := List.map_eq_singleton_iff.mp hlast
      have hbody := Program.add_tokens body ⟨[], ⟨offset, nest.contents⟩ :: nest.around⟩ hinner
      rw [Nest.foldlM_add_cons]
      refine ⟨_, rfl, ?_⟩
      rw [List.foldlM_append, hbody, Value.reread]
      change Except.ok (⟨.block ((Program.reread body).reverse ++ []).reverse :: nest.contents,
        nest.around⟩ : Nest Float) = _
      rw [List.append_nil, List.reverse_reverse]

theorem Program.add_tokens (p : Program Float) (nest : Nest Float) {placed : List (Placed Token)}
    (hplaced : placed.map Placed.item = Program.tokens p) :
    placed.foldlM Nest.add nest =
      .ok { nest with contents := (Program.reread p).reverse ++ nest.contents } := by
  cases p with
  | nil =>
      rw [Program.tokens] at hplaced
      obtain rfl := List.map_eq_nil_iff.mp hplaced
      rw [Program.reread]
      rfl
  | cons v vs =>
      rw [Program.tokens] at hplaced
      obtain ⟨first, rest, rfl, hfirst, hrest⟩ := List.map_eq_append_iff.mp hplaced
      rw [List.foldlM_append, Value.add_tokens v nest hfirst]
      change rest.foldlM Nest.add { nest with contents := v.reread :: nest.contents } = _
      rw [Program.add_tokens vs _ hrest, Program.reread]
      simp

end

-- All that is read are the values that were printed.
theorem Program.parse_of_tokens {p : Program Float} {source : String}
    (h : (Token.ofSource source).map Placed.item = Program.tokens p) :
    parse source = .ok (Program.reread p) := by
  unfold parse
  refine ofTokens_eq_ok_iff.mpr ⟨_, p.add_tokens Nest.outside h, ?_⟩
  refine Nest.finish_eq_ok_iff.mpr ⟨rfl, ?_⟩
  change ((Program.reread p).reverse ++ []).reverse = _
  rw [List.append_nil, List.reverse_reverse]

theorem isLetter_of_isDigit {c : Char} (h : c.isDigit = true) : IsLetter c := by
  obtain ⟨hlow, hhigh⟩ : 48 ≤ c.toNat ∧ c.toNat ≤ 57 := Char.isDigit_iff_toNat.mp h
  refine ⟨?_, ?_, ?_⟩
  · simp [isBlank]
    omega
  · rintro rfl
    contradiction
  · rintro rfl
    contradiction

theorem joined_toString (n : Int) : (Token.other (toString n)).Joined := by
  have hdigits : ∀ (m : Nat), ∀ c ∈ Nat.toDigits 10 m, IsLetter c := fun m c hc =>
    isLetter_of_isDigit (Nat.isDigit_of_mem_toDigits (by decide) (by decide) hc)
  constructor
  · intro hempty
    have hnumber := Text.integer?_toString n
    rw [hempty] at hnumber
    contradiction
  · cases n with
    | ofNat n =>
        rw [toList_toString_ofNat]
        exact hdigits n
    | negSucc n =>
        rw [toList_toString_negSucc, List.forall_mem_cons]
        exact ⟨⟨rfl, by decide, by decide⟩, hdigits (n + 1)⟩

theorem numberText_of_legible {n : Float} (h : (Mark.number n).Legible) :
    numberText n = toString (Scalar.truncate n) := by
  unfold numberText
  rw [h.1, decide_eq_true h.2]
  rfl

-- Numbers that are printed as integers are printed as integers of 64 bits.
theorem exists_int64 {n : Float} (h : (Mark.number n).Legible) :
    ∃ k : Int64, k.toInt = Scalar.truncate n := by
  have hlow : (Scalar.truncate n).natAbs < 9000000000000000 := Binary64.natAbs_truncate_lt h.1 h.2
  exact ⟨.ofInt (Scalar.truncate n), Int64.toInt_ofInt_of_le (by omega) (by omega)⟩

theorem Mark.Legible.joined {mark : Mark Float} (h : mark.Legible) : mark.token.Joined := by
  cases mark with
  | opening => trivial
  | closing => trivial
  | number n =>
      rw [Mark.token, numberText_of_legible h]
      exact joined_toString _
  | word name => exact ⟨h.1, h.2.1⟩

theorem same_ofSpelling_numberText {n : Float} (h : (Mark.number n).Legible) :
    (Value.ofSpelling (numberText n)).same (.number n) = true := by
  obtain ⟨k, hk⟩ := exists_int64 h
  rw [numberText_of_legible h, ← hk]
  unfold Value.ofSpelling
  rw [Value.integer?_toString, hk]
  exact Binary64.ofInt_truncate h.1 h.2

theorem same_ofSpelling_word {name : String} (h : ∀ n : Int64, name ≠ toString n.toInt) :
    (Value.ofSpelling name).same (.word name : Value Float) = true := by
  rw [Value.ofSpelling, Value.integer?_eq_none_iff.mpr h]
  simp [Value.same]

theorem Mark.Legible.survives {mark : Mark Float} (h : mark.Legible) : mark.Survives := by
  cases mark with
  | opening => trivial
  | closing => trivial
  | number n => exact same_ofSpelling_numberText h
  | word name => exact same_ofSpelling_word h.2.2

mutual

theorem Value.same_reread_iff (v : Value Float) :
    v.reread.same v = true ↔ ∀ mark ∈ v.marks, mark.Survives := by
  cases v with
  | number n =>
      rw [Value.reread, Value.marks, List.forall_mem_singleton]
      rfl
  | word name =>
      rw [Value.reread, Value.marks, List.forall_mem_singleton]
      rfl
  | block body =>
      rw [Value.reread, Value.same, Program.same_reread_iff body]
      simp [Value.marks, or_imp, forall_and, Mark.Survives]

theorem Program.same_reread_iff (p : Program Float) :
    Value.sameAll (Program.reread p) p = true ↔ ∀ mark ∈ p.marks, mark.Survives := by
  cases p with
  | nil => simp [Program.reread, Value.sameAll, Program.marks]
  | cons v vs =>
      rw [Program.reread, Value.sameAll, Bool.and_eq_true, v.same_reread_iff,
        Program.same_reread_iff vs, Program.marks, List.forall_mem_append]

end

theorem beq_eq_sameAll (p q : Program Float) : (p == q) = Value.sameAll p q := by
  induction p generalizing q with
  | nil => cases q <;> rfl
  | cons v p ih =>
      cases q with
      | nil => rfl
      | cons w q =>
          rw [Value.sameAll, ← ih]
          rfl

-- What a legible program is printed as is read as an equal program.
theorem Program.parse_text {p : Program Float} (hmarks : ∀ mark ∈ p.marks, mark.Legible)
    (htext : Source.Uncommented p.text.toList) :
    ∃ q : Program Float, parse p.text = .ok q ∧ (q == p) = true := by
  have hjoined : ∀ token ∈ Program.tokens p, token.Joined := by
    rw [p.tokens_eq, List.forall_mem_map]
    exact fun mark hmark => (hmarks mark hmark).joined
  refine ⟨_, parse_of_tokens (Token.ofSource_textOf hjoined htext), ?_⟩
  rw [beq_eq_sameAll, p.same_reread_iff]
  exact fun mark hmark => (hmarks mark hmark).survives

-- A negative zero, a word of digits, an empty block, an opening parenthesis, and a
-- number at the limit.
def sampler : Program Float :=
  [.number (-Float.ofNat 0), .block [.word "007", .block []], .word "x(",
    .number (Float.ofInt (-8999999999999999))]

theorem Program.parse_text_sampler :
    (∀ mark ∈ sampler.marks, mark.Legible) ∧ Source.Uncommented sampler.text.toList ∧
      sampler.text = "0 \x7b 007 \x7b \x7d \x7d x( -8999999999999999" ∧
      ∃ q : Program Float, parse sampler.text = .ok q ∧ (q == sampler) = true := by
  have htext : sampler.text = "0 \x7b 007 \x7b \x7d \x7d x( -8999999999999999" := by
    decide +kernel
  have hzero : (Mark.number (-Float.ofNat 0)).Legible := ⟨by decide +kernel, by decide +kernel⟩
  have hlimit : (Mark.number (Float.ofInt (-8999999999999999))).Legible :=
    ⟨by decide +kernel, by decide +kernel⟩
  have hdigits : (Mark.word "007").Legible :=
    ⟨by decide, by simp [IsLetter, isBlank], Value.integer?_eq_none_iff.mp (by decide +kernel)⟩
  have hparen : (Mark.word "x(").Legible :=
    ⟨by decide, by simp [IsLetter, isBlank], Value.integer?_eq_none_iff.mp (by decide +kernel)⟩
  have hmarks : ∀ mark ∈ sampler.marks, mark.Legible := by
    have hbrace : (Mark.opening).Legible ∧ (Mark.closing).Legible := ⟨trivial, trivial⟩
    simp [sampler, Program.marks, Value.marks, hzero, hlimit, hdigits, hparen, hbrace]
  have hopen : Source.Uncommented sampler.text.toList :=
    Source.uncommented_of_not_mem (by rw [htext]; decide +kernel)
  exact ⟨hmarks, hopen, htext, parse_text hmarks hopen⟩

end Skirmish
