import Skirmish.Text.Blank

namespace Skirmish.Source

-- The longest beginning of a text with no more than so many characters that
-- are not blank.
def keep : Nat → List Char → List Char
  | _, [] => []
  | left, c :: cs =>
    if Text.isBlank c then c :: keep left cs
    else match left with
      | 0 => []
      | left + 1 => c :: keep left cs

-- Cuts a source down to a length limit, of which 0 is none.
def limit (length : Nat) (source : String) : String :=
  if length = 0 then source else String.ofList (keep length source.toList)

end Skirmish.Source
