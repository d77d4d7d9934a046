namespace Skirmish

-- Something found at a byte of a source text.
structure Placed (α : Type) where
  offset : Nat
  item : α
deriving DecidableEq, Repr

namespace Source

-- The characters of a text with the bytes they start at.
def place : Nat → List Char → List (Placed Char)
  | _, [] => []
  | offset, c :: cs => ⟨offset, c⟩ :: place (offset + c.utf8Size) cs

-- Leaves out comments, which run from an opening parenthesis to the first
-- closing one. An opening one that is never closed is ordinary text. The flag
-- tells whether the text starts inside a comment.
def uncomment : Bool → List (Placed Char) → List (Placed Char)
  | _, [] => []
  | true, c :: cs => uncomment (c.item ≠ ')') cs
  | false, c :: cs =>
    if c.item = '(' ∧ cs.any (·.item = ')') then uncomment true cs
    else c :: uncomment false cs

def withoutComments (source : String) : List (Placed Char) :=
  uncomment false (place 0 source.toList)

end Source

end Skirmish
