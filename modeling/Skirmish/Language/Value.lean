namespace Skirmish

-- What a program is made of. Words stand only in programs: executing one does
-- the operation it names, so the data stack holds numbers and blocks.
inductive Value (R : Type) where
  | number (n : R)
  | block (body : List (Value R))
  | word (name : String)

abbrev Program (R : Type) := List (Value R)

namespace Value

variable {R : Type} [BEq R]

mutual

-- Numbers are compared as numbers, so one that is no number differs from
-- itself.
def same : Value R → Value R → Bool
  | .number m, .number n => m == n
  | .block b, .block c => sameAll b c
  | .word v, .word w => v == w
  | _, _ => false

def sameAll : List (Value R) → List (Value R) → Bool
  | [], [] => true
  | v :: vs, w :: ws => same v w && sameAll vs ws
  | _, _ => false

end

instance : BEq (Value R) := ⟨same⟩

end Value

end Skirmish
