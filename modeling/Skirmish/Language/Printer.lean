import Skirmish.Decimal.Text
import Skirmish.Language.Token
import Skirmish.Language.Value

namespace Skirmish

-- Whole numbers below nine times ten to the fifteenth are printed as integers,
-- other numbers with the fewest digits that read back.
def numberText (n : Float) : String :=
  if Scalar.isWhole n && n.abs < Float.ofNat 9000000000000000 then toString (Scalar.truncate n)
  else Decimal.plain n

mutual

-- A value as the tokens that spell it.
def Value.tokens : Value Float → List Token
  | .number n => [.other (numberText n)]
  | .word name => [.other name]
  | .block body => .opening :: (Program.tokens body ++ [.closing])

def Program.tokens : List (Value Float) → List Token
  | [] => []
  | v :: vs => v.tokens ++ Program.tokens vs

end

-- Tokens are set apart by single spaces.
def Token.textOf (tokens : List Token) : String :=
  String.intercalate " " (tokens.map Token.spelling)

def Value.text (v : Value Float) : String := Token.textOf v.tokens

def Program.text (p : Program Float) : String := Token.textOf (Program.tokens p)

end Skirmish
