import Mathlib.Data.List.Forall2
import Mathlib.Data.List.Infix
import Skirmish.Proofs.Language.Spelling

namespace Skirmish

variable {R : Type}

-- What stands at one place of a program that is written down in a line.
inductive Mark (R : Type) where
  | opening
  | closing
  | number (n : R)
  | word (name : String)

mutual

-- The marks of a value from left to right. A block stands between braces.
def Value.marks : Value R → List (Mark R)
  | .number n => [.number n]
  | .word name => [.word name]
  | .block body => .opening :: (Program.marks body ++ [.closing])

def Program.marks : Program R → List (Mark R)
  | [] => []
  | v :: vs => v.marks ++ Program.marks vs

end

-- The mark that a token stands for. A spelling is a number if it is the canonical one
-- of an integer of 64 bits, and a word otherwise.
inductive Mark.Read [IntCast R] : Token → Mark R → Prop where
  | opening : Read .opening .opening
  | closing : Read .closing .closing
  | number (n : Int64) : Read (.other (toString n.toInt)) (.number (n.toInt : R))
  | word (spelling : String) (h : ∀ n : Int64, spelling ≠ toString n.toInt) :
    Read (.other spelling) (.word spelling)

namespace Token

-- At no point do more blocks end than begin, where so many are open at first.
def Nested (depth : Nat) (tokens : List Token) : Prop :=
  ∀ start, start <+: tokens → start.count .closing ≤ start.count .opening + depth

-- All blocks end, and none that did not begin.
structure Balanced (tokens : List Token) : Prop where
  nested : Nested 0 tokens
  even : tokens.count .closing = tokens.count .opening

instance (depth : Nat) (tokens : List Token) : Decidable (Nested depth tokens) :=
  decidable_of_iff
    (∀ start ∈ tokens.inits, start.count .closing ≤ start.count .opening + depth)
    (forall_congr' fun start => by rw [List.mem_inits])

theorem nested_nil (depth : Nat) : Nested depth [] := by
  intro start hstart
  rw [List.prefix_nil.mp hstart]
  exact Nat.zero_le _

theorem nested_cons_iff {depth depth' : Nat} {token : Token} {tokens : List Token}
    (h : depth' + [token].count .closing = depth + [token].count .opening) :
    Nested depth (token :: tokens) ↔ Nested depth' tokens := by
  have hcount : ∀ (brace : Token) (later : List Token),
      (token :: later).count brace = [token].count brace + later.count brace := by
    intro brace later
    rw [← List.count_append, List.singleton_append]
  constructor
  · intro hnested start hstart
    have hbound := hnested _ (List.cons_prefix_cons.mpr ⟨rfl, hstart⟩)
    rw [hcount .closing start, hcount .opening start] at hbound
    omega
  · intro hnested start hstart
    cases start with
    | nil => exact Nat.zero_le _
    | cons first later =>
        obtain ⟨rfl, hlater⟩ := List.cons_prefix_cons.mp hstart
        have hbound := hnested later hlater
        rw [hcount .closing later, hcount .opening later]
        omega

theorem not_nested_closing (tokens : List Token) : ¬ Nested 0 (.closing :: tokens) := by
  intro h
  have hone := h [.closing] (List.cons_prefix_cons.mpr ⟨rfl, List.nil_prefix⟩)
  contradiction

end Token

theorem Program.marks_append (p q : List (Value R)) :
    Program.marks (p ++ q) = Program.marks p ++ Program.marks q := by
  induction p with
  | nil => simp [Program.marks]
  | cons v p ih => simp [Program.marks, ih]

namespace Nest

-- All marks so far, from the outermost block to the innermost.
def marks (nest : Nest R) : List (Mark R) :=
  nest.around.reverse.flatMap (fun outer => Program.marks outer.item.reverse ++ [.opening]) ++
    Program.marks nest.contents.reverse

def depth (nest : Nest R) : Nat := nest.around.length

theorem finish_eq_ok_iff {nest : Nest R} {p : Program R} :
    nest.finish = .ok p ↔ nest.depth = 0 ∧ nest.contents.reverse = p := by
  obtain ⟨contents, around⟩ := nest
  cases around with
  | nil => simp [finish, depth]
  | cons inner rest => simp [finish, depth]

theorem marks_of_finish {nest : Nest R} {p : Program R} (h : nest.finish = .ok p) :
    nest.marks = p.marks := by
  obtain ⟨hdepth, rfl⟩ := finish_eq_ok_iff.mp h
  unfold marks
  rw [List.eq_nil_of_length_eq_zero hdepth]
  rfl

theorem marks_outside : (outside : Nest R).marks = [] := by
  simp [marks, outside, Program.marks]

end Nest

variable [IntCast R]

theorem Value.read_ofSpelling (spelling : String) :
    ∃ mark, (Value.ofSpelling spelling : Value R).marks = [mark] ∧
      Mark.Read (.other spelling) mark := by
  unfold Value.ofSpelling
  cases hspelled : Value.integer? spelling with
  | none =>
      refine ⟨.word spelling, by rw [Value.marks], .word spelling ?_⟩
      exact Value.integer?_eq_none_iff.mp hspelled
  | some n =>
      obtain ⟨k, rfl, rfl⟩ := Value.exists_of_integer? hspelled
      exact ⟨.number (k.toInt : R), by rw [Value.marks], .number k⟩

namespace Nest

-- A token adds the mark that it stands for.
theorem marks_add {nest next : Nest R} {token : Placed Token} (h : nest.add token = .ok next) :
    ∃ mark, next.marks = nest.marks ++ [mark] ∧ Mark.Read token.item mark := by
  obtain ⟨offset, item⟩ := token
  cases item with
  | opening =>
      cases h
      exact ⟨.opening, by simp [marks, Program.marks], .opening⟩
  | closing =>
      obtain ⟨contents, around⟩ := nest
      cases around with
      | nil => contradiction
      | cons outer rest =>
          cases h
          refine ⟨.closing, ?_, .closing⟩
          simp [marks, Program.marks, Value.marks, Program.marks_append]
  | other spelling =>
      cases h
      obtain ⟨mark, hmark, hread⟩ := Value.read_ofSpelling (R := R) spelling
      refine ⟨mark, ?_, hread⟩
      simp [marks, Program.marks, Program.marks_append, hmark]

theorem depth_add {nest next : Nest R} {token : Placed Token} (h : nest.add token = .ok next) :
    next.depth + [token.item].count .closing = nest.depth + [token.item].count .opening := by
  obtain ⟨offset, item⟩ := token
  cases item with
  | opening => cases h; rfl
  | closing =>
      obtain ⟨contents, around⟩ := nest
      cases around with
      | nil => contradiction
      | cons outer rest => cases h; rfl
  | other spelling => cases h; rfl

-- Only a closing brace can be out of place.
theorem unopened_of_add {nest : Nest R} {token : Placed Token} {fault : SyntaxFault}
    (h : nest.add token = .error fault) : token.item = .closing ∧ nest.depth = 0 := by
  obtain ⟨offset, item⟩ := token
  cases item with
  | opening => contradiction
  | other spelling => contradiction
  | closing =>
      obtain ⟨contents, around⟩ := nest
      cases around with
      | nil => exact ⟨rfl, rfl⟩
      | cons outer rest => contradiction

variable {tokens : List (Placed Token)} {nest next : Nest R}

theorem foldlM_add_cons {token : Placed Token} :
    (token :: tokens).foldlM add nest = .ok next ↔
      ∃ between, nest.add token = .ok between ∧ tokens.foldlM add between = .ok next := by
  rw [List.foldlM_cons]
  cases nest.add token with
  | ok between => simp [bind, Except.bind]
  | error fault => simp [bind, Except.bind]

theorem marks_foldlM (h : tokens.foldlM add nest = .ok next) :
    ∃ marks, next.marks = nest.marks ++ marks ∧
      List.Forall₂ Mark.Read (tokens.map Placed.item) marks := by
  induction tokens generalizing nest with
  | nil =>
      cases h
      exact ⟨[], (List.append_nil _).symm, .nil⟩
  | cons token tokens ih =>
      obtain ⟨between, hadd, hrest⟩ := foldlM_add_cons.mp h
      obtain ⟨mark, hmark, hread⟩ := marks_add hadd
      obtain ⟨marks, hmarks, hreads⟩ := ih hrest
      refine ⟨mark :: marks, ?_, .cons hread hreads⟩
      rw [hmarks, hmark, List.append_assoc]
      rfl

theorem depth_foldlM (h : tokens.foldlM add nest = .ok next) :
    next.depth + (tokens.map Placed.item).count .closing =
      nest.depth + (tokens.map Placed.item).count .opening := by
  induction tokens generalizing nest with
  | nil =>
      cases h
      rfl
  | cons token tokens ih =>
      obtain ⟨between, hadd, hrest⟩ := foldlM_add_cons.mp h
      have hstep := depth_add hadd
      have hrun := ih hrest
      rw [List.map_cons, ← List.singleton_append, List.count_append, List.count_append]
      omega

theorem exists_foldlM_iff :
    (∃ next, tokens.foldlM add nest = .ok next) ↔
      Token.Nested nest.depth (tokens.map Placed.item) := by
  induction tokens generalizing nest with
  | nil => exact iff_of_true ⟨nest, rfl⟩ (Token.nested_nil _)
  | cons token tokens ih =>
      rw [List.map_cons]
      cases hadd : nest.add token with
      | error fault =>
          obtain ⟨hclosing, houtside⟩ := unopened_of_add hadd
          rw [hclosing, houtside]
          refine iff_of_false ?_ (Token.not_nested_closing _)
          rintro ⟨next, hnext⟩
          obtain ⟨between, hbetween, _⟩ := foldlM_add_cons.mp hnext
          rw [hadd] at hbetween
          contradiction
      | ok between =>
          rw [Token.nested_cons_iff (depth_add hadd), ← ih]
          refine exists_congr fun next => ?_
          rw [foldlM_add_cons, hadd]
          simp

end Nest

namespace Program

theorem ofTokens_eq_ok_iff {tokens : List (Placed Token)} {p : Program R} :
    ofTokens tokens = .ok p ↔
      ∃ nest, tokens.foldlM Nest.add Nest.outside = .ok nest ∧ nest.finish = .ok p := by
  unfold ofTokens
  cases (tokens.foldlM Nest.add Nest.outside : Except SyntaxFault (Nest R)) with
  | ok nest => simp [Except.bind]
  | error fault => simp [Except.bind]

theorem exists_ofTokens_iff {tokens : List (Placed Token)} :
    (∃ p : Program R, ofTokens tokens = .ok p) ↔ Token.Balanced (tokens.map Placed.item) := by
  constructor
  · rintro ⟨p, hp⟩
    obtain ⟨nest, hnest, hfinish⟩ := ofTokens_eq_ok_iff.mp hp
    have hdepth := Nest.depth_foldlM hnest
    rw [(Nest.finish_eq_ok_iff.mp hfinish).1] at hdepth
    have hstart : (Nest.outside : Nest R).depth = 0 := rfl
    refine ⟨Nest.exists_foldlM_iff.mp ⟨nest, hnest⟩, ?_⟩
    omega
  · rintro ⟨hnested, heven⟩
    have hstart : (Nest.outside : Nest R).depth = 0 := rfl
    rw [← hstart] at hnested
    obtain ⟨nest, hnest⟩ := Nest.exists_foldlM_iff.mpr hnested
    have hdepth := Nest.depth_foldlM hnest
    refine ⟨nest.contents.reverse, ofTokens_eq_ok_iff.mpr ⟨nest, hnest, ?_⟩⟩
    exact Nest.finish_eq_ok_iff.mpr ⟨by omega, rfl⟩

theorem read_ofTokens {tokens : List (Placed Token)} {p : Program R} (h : ofTokens tokens = .ok p) :
    List.Forall₂ Mark.Read (tokens.map Placed.item) p.marks := by
  obtain ⟨nest, hnest, hfinish⟩ := ofTokens_eq_ok_iff.mp h
  obtain ⟨marks, hmarks, hread⟩ := Nest.marks_foldlM hnest
  rw [Nest.marks_of_finish hfinish, Nest.marks_outside, List.nil_append] at hmarks
  rw [hmarks]
  exact hread

-- The parser accepts the sources whose braces are balanced, and reads each token of
-- them as just one mark of the program.
theorem parse_iff_balanced (source : String) :
    ((∃ p : Program R, parse source = .ok p) ↔
      Token.Balanced ((Token.ofSource source).map Placed.item)) ∧
    ∀ p : Program R, parse source = .ok p →
      List.Forall₂ Mark.Read ((Token.ofSource source).map Placed.item) p.marks :=
  ⟨exists_ofTokens_iff, fun _ => read_ofTokens⟩

-- Braces need no blanks around them, comments leave none, and a zero in front keeps
-- digits from being a number.
theorem parse_joined_tokens :
    ∃ p : Program Int, parse "12\x7b\x7b\x7dfi(fo)re!\x7d007" = .ok p ∧
      List.Forall₂ Mark.Read
        [.other "12", .opening, .opening, .closing, .other "fire!", .closing, .other "007"]
        p.marks := by
  have htokens : (Token.ofSource "12\x7b\x7b\x7dfi(fo)re!\x7d007").map Placed.item =
      [.other "12", .opening, .opening, .closing, .other "fire!", .closing, .other "007"] := by
    decide +kernel
  obtain ⟨haccepts, hreads⟩ := parse_iff_balanced (R := Int) "12\x7b\x7b\x7dfi(fo)re!\x7d007"
  rw [htokens] at haccepts hreads
  obtain ⟨p, hp⟩ := haccepts.mpr ⟨by decide, rfl⟩
  exact ⟨p, hp, hreads p hp⟩

end Program

end Skirmish
