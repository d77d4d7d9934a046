import Skirmish.Proofs.Decimal.Integers
import Skirmish.Proofs.Language.Comments
import Skirmish.Proofs.Language.RoundTrip

namespace Skirmish

open Text

def Text.isParenthesis (c : Char) : Bool := c = '(' || c = ')'

namespace Source

variable {text : List Char}

-- Whether a comment is closed is a matter of the parentheses alone.
theorem uncommented_filter_iff : Uncommented (text.filter isParenthesis) ↔ Uncommented text := by
  rw [uncommented_iff_pairwise, uncommented_iff_pairwise, List.pairwise_filter]
  refine List.Pairwise.iff fun c d => ⟨?_, fun h _ _ => h⟩
  rintro h ⟨rfl, rfl⟩
  exact h rfl rfl ⟨rfl, rfl⟩

end Source

namespace Token

-- The parentheses that stand in tokens, in their order.
def parentheses (tokens : List Token) : List Char :=
  tokens.flatMap fun token => token.spelling.toList.filter isParenthesis

theorem parentheses_cons (token : Token) (tokens : List Token) :
    parentheses (token :: tokens) =
      token.spelling.toList.filter isParenthesis ++ parentheses tokens := rfl

theorem parentheses_append (tokens tokens' : List Token) :
    parentheses (tokens ++ tokens') = parentheses tokens ++ parentheses tokens' :=
  List.flatMap_append

-- Spaces between tokens are no parentheses.
theorem filter_textOf (tokens : List Token) :
    (textOf tokens).toList.filter isParenthesis = parentheses tokens := by
  unfold textOf
  rw [String.toList_intercalate, List.map_map]
  induction tokens with
  | nil => rfl
  | cons token tokens ih =>
      cases tokens with
      | nil =>
          rw [List.map_singleton, List.intercalate_singleton, parentheses_cons]
          exact (List.append_nil _).symm
      | cons next tokens =>
          rw [List.map_cons, List.map_cons, List.intercalate_cons_cons, ← List.map_cons,
            List.filter_append, List.filter_append, ih, parentheses_cons]
          exact congrArg (· ++ _) (List.append_nil _)

-- The letters that are pending, in the order in which they were read.
def Pending.letters : Pending → List Char
  | none => []
  | some letters => letters.item.reverse

theorem parentheses_finish (pending : Pending) :
    parentheses ((finish pending).map Placed.item) = pending.letters.filter isParenthesis := by
  cases pending with
  | none => rfl
  | some letters => simp [finish, Pending.letters, parentheses, spelling]

theorem letters_extend (c : Placed Char) (pending : Pending) :
    Pending.letters (extend c pending) = pending.letters ++ [c.item] := by
  cases pending with
  | none => rfl
  | some letters => exact List.reverse_cons

theorem isParenthesis_of_isBlank {c : Char} (h : isBlank c = true) : isParenthesis c = false := by
  rw [isParenthesis, Bool.or_eq_false_iff, decide_eq_false_iff_not, decide_eq_false_iff_not]
  constructor
  · rintro rfl
    contradiction
  · rintro rfl
    contradiction

-- A character is one more letter of what is pending, or ends it and is at most a brace.
theorem cut_cons (pending : Pending) (c : Placed Char) (cs : List (Placed Char)) :
    (IsLetter c.item ∧ cut pending (c :: cs) = cut (extend c pending) cs) ∨
      (isParenthesis c.item = false ∧ ∃ braces : List (Placed Token),
        cut pending (c :: cs) = finish pending ++ braces ++ cut none cs ∧
        ∀ token ∈ braces.map Placed.item, token = .opening ∨ token = .closing) := by
  by_cases hblank : isBlank c.item = true
  · refine .inr ⟨isParenthesis_of_isBlank hblank, [], ?_, by simp⟩
    rw [cut, if_pos hblank, List.append_nil]
  by_cases hopening : c.item = '{'
  · refine .inr ⟨by rw [hopening]; rfl, [⟨c.offset, .opening⟩], ?_, by simp⟩
    rw [cut, if_neg hblank, if_pos hopening, List.append_assoc]
    rfl
  by_cases hclosing : c.item = '}'
  · refine .inr ⟨by rw [hclosing]; rfl, [⟨c.offset, .closing⟩], ?_, by simp⟩
    rw [cut, if_neg hblank, if_neg hopening, if_pos hclosing, List.append_assoc]
    rfl
  have hletter : IsLetter c.item := ⟨Bool.not_eq_true _ ▸ hblank, hopening, hclosing⟩
  exact .inl ⟨hletter, cut_letter hletter pending cs⟩

theorem parentheses_braces {tokens : List Token}
    (h : ∀ token ∈ tokens, token = .opening ∨ token = .closing) : parentheses tokens = [] := by
  refine List.flatMap_eq_nil_iff.mpr fun token htoken => ?_
  rcases h token htoken with rfl | rfl
  · simp [spelling, isParenthesis]
  · simp [spelling, isParenthesis]

-- What separates tokens are no parentheses either.
theorem parentheses_cut (pending : Pending) (cs : List (Placed Char)) :
    parentheses ((cut pending cs).map Placed.item) =
      pending.letters.filter isParenthesis ++ (cs.map Placed.item).filter isParenthesis := by
  induction cs generalizing pending with
  | nil => rw [cut, parentheses_finish, List.map_nil, List.filter_nil, List.append_nil]
  | cons c cs ih =>
      obtain ⟨-, hcut⟩ | ⟨hc, braces, hcut, hbraces⟩ := cut_cons pending c cs
      · rw [hcut, ih, letters_extend, List.filter_append, List.append_assoc, ← List.filter_append]
        rfl
      · rw [hcut, List.map_append, List.map_append, parentheses_append, parentheses_append,
          parentheses_finish, parentheses_braces hbraces, List.append_nil, ih, List.map_cons,
          List.filter_cons, hc]
        rfl

theorem joined_extend {pending : Pending}
    (h : ∀ token ∈ (finish pending).map Placed.item, token.Joined) {c : Placed Char}
    (hc : IsLetter c.item) :
    ∀ token ∈ (finish (extend c pending)).map Placed.item, token.Joined := by
  cases pending with
  | none => simpa [finish, extend, Joined] using hc
  | some letters =>
      simp only [finish, extend, List.map_singleton, List.forall_mem_singleton, Joined,
        String.toList_ofList, List.mem_reverse, List.forall_mem_cons] at h ⊢
      exact ⟨by simp, hc, h.2⟩

-- A source is cut into tokens that stay as they are.
theorem joined_cut {pending : Pending}
    (h : ∀ token ∈ (finish pending).map Placed.item, token.Joined) (cs : List (Placed Char)) :
    ∀ token ∈ (cut pending cs).map Placed.item, token.Joined := by
  induction cs generalizing pending with
  | nil => exact h
  | cons c cs ih =>
      obtain ⟨hc, hcut⟩ | ⟨-, braces, hcut, hbraces⟩ := cut_cons pending c cs
      · rw [hcut]
        exact ih (joined_extend h hc)
      · rw [hcut, List.map_append, List.map_append, List.forall_mem_append, List.forall_mem_append]
        refine ⟨⟨h, fun token htoken => ?_⟩, ih (by simp [finish])⟩
        rcases hbraces token htoken with rfl | rfl
        · trivial
        · trivial

end Token

theorem filter_toString (n : Int) : (toString n).toList.filter isParenthesis = [] := by
  have hdigits : ∀ (m : Nat), (Nat.toDigits 10 m).filter isParenthesis = [] := by
    intro m
    refine List.filter_eq_nil_iff.mpr fun c hc => ?_
    have hdigit := Nat.isDigit_of_mem_toDigits (by decide) (by decide) hc
    rw [isParenthesis, Bool.or_eq_true, decide_eq_true_eq, decide_eq_true_eq]
    rintro (rfl | rfl)
    · contradiction
    · contradiction
  cases n with
  | ofNat n =>
      rw [toList_toString_ofNat]
      exact hdigits n
  | negSucc n =>
      rw [toList_toString_negSucc]
      exact hdigits (n + 1)

namespace Value

theorem integer?_toString_eq (n : Int) :
    integer? (toString n) =
      if Int64.minValue.toInt ≤ n ∧ n ≤ Int64.maxValue.toInt then some n else none := by
  unfold integer?
  rw [Text.integer?_toString]
  simp

theorem same_ofSpelling_iff {spelling : String} {x : Float} :
    (ofSpelling spelling).same (.number x) = true ↔
      ∃ n, integer? spelling = some n ∧ ((n : Float) == x) = true := by
  unfold ofSpelling
  cases integer? spelling with
  | none => simp [same]
  | some n => simp [same]

theorem exists_text (n : Int64) :
    ∃ k : Int, numberText (n.toInt : Float) = toString k ∧
      ((k : Float) == (n.toInt : Float)) = true ∧
      (n.toInt.natAbs < 2 ^ 63 - 512 → k.natAbs < 2 ^ 63) ∧
      (2 ^ 63 - 512 ≤ n.toInt.natAbs → 2 ^ 63 < k.natAbs) := by
  have hlow : -2 ^ 63 ≤ n.toInt := n.minValue_le_toInt
  have hhigh : n.toInt ≤ 2 ^ 63 - 1 := n.toInt_le
  exact exists_numberText (by omega)

-- What becomes 2 ^ 63 is printed as an integer that no longer fits into 64 bits, and read as a word.
theorem reread_literal (n : Int64) :
    ((∃ m, integer? (numberText (n.toInt : Float)) = some m ∧
      ((m : Float) == (n.toInt : Float)) = true) ↔ n.toInt.natAbs < 2 ^ 63 - 512) ∧
    (2 ^ 63 - 512 ≤ n.toInt.natAbs → integer? (numberText (n.toInt : Float)) = none) := by
  obtain ⟨k, htext, hsame, hinside, houtside⟩ := exists_text n
  have hlow : Int64.minValue.toInt = -2 ^ 63 := by decide
  have hhigh : Int64.maxValue.toInt = 2 ^ 63 - 1 := by decide
  have hread : n.toInt.natAbs < 2 ^ 63 - 512 → integer? (numberText (n.toInt : Float)) = some k := by
    intro h
    have hfits := hinside h
    rw [htext, integer?_toString_eq, hlow, hhigh, if_pos (by omega)]
  have hlost : 2 ^ 63 - 512 ≤ n.toInt.natAbs → integer? (numberText (n.toInt : Float)) = none := by
    intro h
    have hexceeds := houtside h
    rw [htext, integer?_toString_eq, hlow, hhigh, if_neg (by omega)]
  refine ⟨⟨?_, fun h => ⟨k, hread h, hsame⟩⟩, hlost⟩
  rintro ⟨m, hm, -⟩
  by_contra hge
  rw [hlost (Nat.not_lt.mp hge)] at hm
  contradiction

end Value

-- The integer that a token is taken for, if it is taken for one.
def Token.literal? : Token → Option Int
  | .other spelling => Value.integer? spelling
  | _ => none

-- The integer literals of a source in their order.
def Program.literals (source : String) : List Int :=
  ((Token.ofSource source).map Placed.item).filterMap Token.literal?

namespace Mark.Read

variable {token : Token} {mark : Mark Float}

theorem joined (h : Mark.Read token mark) (htoken : token.Joined) : mark.token.Joined := by
  cases h with
  | opening => trivial
  | closing => trivial
  | number n =>
      obtain ⟨k, htext, -⟩ := Value.exists_text n
      rw [Mark.token, htext]
      exact joined_toString k
  | word spelling hword => exact htoken

theorem parentheses_eq (h : Mark.Read token mark) :
    mark.token.spelling.toList.filter isParenthesis =
      token.spelling.toList.filter isParenthesis := by
  cases h with
  | opening => rfl
  | closing => rfl
  | number n =>
      obtain ⟨k, htext, -⟩ := Value.exists_text n
      rw [Mark.token, htext, Token.spelling, Token.spelling, filter_toString, filter_toString]
  | word spelling hword => rfl

theorem survives_iff (h : Mark.Read token mark) :
    mark.Survives ↔ ∀ n ∈ token.literal?, n.natAbs < 2 ^ 63 - 512 := by
  cases h with
  | opening => exact iff_of_true trivial (by simp [Token.literal?])
  | closing => exact iff_of_true trivial (by simp [Token.literal?])
  | number n =>
      rw [Mark.Survives, Value.same_ofSpelling_iff, (Value.reread_literal n).1, Token.literal?,
        Value.integer?_toString]
      simp
  | word spelling hword =>
      refine iff_of_true (same_ofSpelling_word hword) ?_
      rw [Token.literal?, Value.integer?_eq_none_iff.mpr hword]
      simp

end Mark.Read

section Reads

variable {tokens : List Token} {marks : List (Mark Float)}

theorem parentheses_reads (h : List.Forall₂ Mark.Read tokens marks) :
    Token.parentheses (marks.map Mark.token) = Token.parentheses tokens := by
  induction h with
  | nil => rfl
  | cons hread _ ih =>
      rw [List.map_cons, Token.parentheses_cons, Token.parentheses_cons, ih, hread.parentheses_eq]

theorem joined_reads (h : List.Forall₂ Mark.Read tokens marks)
    (htokens : ∀ token ∈ tokens, token.Joined) :
    ∀ token ∈ marks.map Mark.token, token.Joined := by
  induction h with
  | nil => simp
  | cons hread _ ih =>
      rw [List.forall_mem_cons] at htokens
      rw [List.map_cons, List.forall_mem_cons]
      exact ⟨hread.joined htokens.1, ih htokens.2⟩

theorem survive_reads_iff (h : List.Forall₂ Mark.Read tokens marks) :
    (∀ mark ∈ marks, mark.Survives) ↔
      ∀ n ∈ tokens.filterMap Token.literal?, n.natAbs < 2 ^ 63 - 512 := by
  induction h with
  | nil => simp
  | cons hread _ ih =>
      rw [List.forall_mem_cons, ih, hread.survives_iff, List.filterMap_cons]
      split
      · rename_i hnone
        simp [hnone]
      · rename_i n hliteral
        simp [hliteral]

end Reads

-- The text of what was read from a source is cut into as many tokens again, with no comment in it.
theorem Program.parse_text_of_parse {source : String} {p : Program Float}
    (h : parse source = .ok p) : parse p.text = .ok (Program.reread p) := by
  have hreads := read_ofTokens h
  have hjoined : ∀ token ∈ Program.tokens p, token.Joined := by
    rw [p.tokens_eq]
    exact joined_reads hreads (Token.joined_cut (by simp [Token.finish]) _)
  have hopen : Source.Uncommented (Token.textOf (Program.tokens p)).toList := by
    rw [← Source.uncommented_filter_iff, Token.filter_textOf, p.tokens_eq, parentheses_reads hreads,
      Token.ofSource, Token.parentheses_cut]
    exact Source.uncommented_filter_iff.mpr (Source.uncommented_uncomment _ _)
  exact parse_of_tokens (Token.ofSource_textOf hjoined hopen)

-- A literal comes back from what its number is printed as exactly if that number is not 2 ^ 63 in
-- size, which the last 512 integers of either sign are rounded to. A program comes back from its
-- text exactly if all literals of its source do.
theorem Program.literals_survive_iff (source : String) :
    (∀ n, Value.integer? source = some n →
      ((∃ m, Value.integer? (numberText (n : Float)) = some m ∧
        ((m : Float) == (n : Float)) = true) ↔ n.natAbs < 2 ^ 63 - 512) ∧
      (2 ^ 63 - 512 ≤ n.natAbs → Value.integer? (numberText (n : Float)) = none)) ∧
    ∀ p : Program Float, parse source = .ok p →
      ∃ q : Program Float, parse p.text = .ok q ∧
        ((q == p) = true ↔ ∀ n ∈ literals source, n.natAbs < 2 ^ 63 - 512) := by
  refine ⟨fun n hspelled => ?_, fun p hparse => ?_⟩
  · obtain ⟨k, rfl, -⟩ := Value.exists_of_integer? hspelled
    exact Value.reread_literal k
  · refine ⟨_, parse_text_of_parse hparse, ?_⟩
    rw [beq_eq_sameAll, p.same_reread_iff]
    exact survive_reads_iff (read_ofTokens hparse)

-- A literal with a digit too many for a double.
theorem Program.literals_survive_iff_odd :
    Value.integer? "9007199254740993" = some 9007199254740993 ∧
      (∃ m, Value.integer? (numberText ((9007199254740993 : Int) : Float)) = some m ∧
        ((m : Float) == ((9007199254740993 : Int) : Float)) = true) ∧
      ∃ p q : Program Float, parse "\x7b9007199254740993\x7d" = .ok p ∧ parse p.text = .ok q ∧
        (q == p) = true := by
  have hread : Value.integer? "9007199254740993" = some 9007199254740993 := by decide +kernel
  have htokens : Token.ofSource "\x7b9007199254740993\x7d" =
      [⟨0, .opening⟩, ⟨1, .other "9007199254740993"⟩, ⟨17, .closing⟩] := by
    decide +kernel
  have hparse : parse "\x7b9007199254740993\x7d" =
      .ok [.block [(.ofSpelling "9007199254740993" : Value Float)]] := by
    unfold parse
    rw [htokens]
    rfl
  have hliterals : literals "\x7b9007199254740993\x7d" = [9007199254740993] := by
    decide +kernel
  obtain ⟨q, hq, hsame⟩ := (literals_survive_iff "\x7b9007199254740993\x7d").2 _ hparse
  rw [hliterals] at hsame
  have hliteral := (literals_survive_iff "9007199254740993").1 _ hread
  exact ⟨hread, hliteral.1.mpr (by decide), _, q, hparse, hq, hsame.mpr (by simp)⟩

-- The greatest literal becomes 2 ^ 63, whose fewest digits are read as a word.
theorem Program.greatest_literal_lost :
    parse "9223372036854775807" = .ok [.number ((9223372036854775807 : Int) : Float)] ∧
      text [.number ((9223372036854775807 : Int) : Float)] = "9223372036854776000" ∧
      parse "9223372036854776000" = .ok [(.word "9223372036854776000" : Value Float)] ∧
      (([.word "9223372036854776000"] : Program Float) ==
        [.number ((9223372036854775807 : Int) : Float)]) = false := by
  have hread : Value.integer? "9223372036854775807" = some 9223372036854775807 := by decide +kernel
  have hlost : Value.integer? "9223372036854776000" = none := by decide +kernel
  have hparse : ∀ spelling, Token.ofSource spelling = [⟨0, .other spelling⟩] →
      parse spelling = .ok [(.ofSpelling spelling : Value Float)] := by
    intro spelling h
    unfold parse
    rw [h]
    rfl
  refine ⟨?_, by decide +kernel, ?_, rfl⟩
  · rw [hparse _ (by decide +kernel), Value.ofSpelling, hread]
  · rw [hparse _ (by decide +kernel), Value.ofSpelling, hlost]

end Skirmish
