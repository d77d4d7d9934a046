import Skirmish.Language.Fault
import Skirmish.Language.Token
import Skirmish.Language.Value
import Skirmish.Text.Digits

namespace Skirmish

namespace Value

-- An integer of 64 bits in its one canonical spelling: no plus sign, no zeros
-- in front and no negative zero.
def integer? (spelling : String) : Option Int :=
  match Text.integer? spelling.toList with
  | some n =>
    if Int64.minValue.toInt ≤ n ∧ n ≤ Int64.maxValue.toInt ∧ toString n = spelling then some n
    else none
  | none => none

def ofSpelling {R : Type} [IntCast R] (spelling : String) : Value R :=
  match integer? spelling with
  | some n => .number (n : R)
  | none => .word spelling

end Value

-- The blocks that are open at some point of a program: the contents so far of
-- the innermost one, and those of the blocks around it with the places where
-- the next inner one was opened. All contents have their last value first.
structure Nest (R : Type) where
  contents : List (Value R)
  around : List (Placed (List (Value R)))

namespace Nest

variable {R : Type} [IntCast R]

def outside : Nest R := ⟨[], []⟩

def add (nest : Nest R) (token : Placed Token) : Except SyntaxFault (Nest R) :=
  match token.item with
  | .opening => .ok ⟨[], ⟨token.offset, nest.contents⟩ :: nest.around⟩
  | .closing =>
    match nest.around with
    | [] => .error ⟨.unopened, token.offset⟩
    | outer :: rest => .ok ⟨.block nest.contents.reverse :: outer.item, rest⟩
  | .other spelling => .ok { nest with contents := .ofSpelling spelling :: nest.contents }

def finish (nest : Nest R) : Except SyntaxFault (Program R) :=
  match nest.around with
  | [] => .ok nest.contents.reverse
  | inner :: _ => .error ⟨.unclosed, inner.offset⟩

end Nest

namespace Program

variable {R : Type} [IntCast R]

def ofTokens (tokens : List (Placed Token)) : Except SyntaxFault (Program R) :=
  (tokens.foldlM Nest.add Nest.outside).bind Nest.finish

def parse (source : String) : Except SyntaxFault (Program R) := ofTokens (Token.ofSource source)

end Program

end Skirmish
