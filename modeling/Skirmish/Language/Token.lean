import Skirmish.Language.Source
import Skirmish.Text.Blank

namespace Skirmish

-- Braces stand for themselves; anything else runs to the next blank or brace.
inductive Token where
  | opening
  | closing
  | other (spelling : String)
deriving DecidableEq, Repr

namespace Token

def spelling : Token → String
  | .opening => "\x7b"
  | .closing => "\x7d"
  | .other spelling => spelling

-- A spelling in the making: where it starts and its letters, the last first.
abbrev Pending := Option (Placed (List Char))

def finish : Pending → List (Placed Token)
  | none => []
  | some letters => [⟨letters.offset, .other (String.ofList letters.item.reverse)⟩]

def extend (c : Placed Char) : Pending → Pending
  | none => some ⟨c.offset, [c.item]⟩
  | some letters => some { letters with item := c.item :: letters.item }

def cut : Pending → List (Placed Char) → List (Placed Token)
  | pending, [] => finish pending
  | pending, c :: cs =>
    if Text.isBlank c.item then finish pending ++ cut none cs
    else if c.item = '{' then finish pending ++ ⟨c.offset, .opening⟩ :: cut none cs
    else if c.item = '}' then finish pending ++ ⟨c.offset, .closing⟩ :: cut none cs
    else cut (extend c pending) cs

-- The tokens of a source, each at the byte where it starts.
def ofSource (source : String) : List (Placed Token) :=
  cut none (Source.withoutComments source)

end Token

end Skirmish
