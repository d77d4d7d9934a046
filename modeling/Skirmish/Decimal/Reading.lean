import Skirmish.Decimal
import Skirmish.Text.Digits

namespace Skirmish

namespace Decimal

-- The double nearest to a decimal. Magnitudes beyond every double are settled
-- before the power of ten is formed.
def toFloat (d : Decimal) : Float :=
  let leading := d.leadingExponent
  if d.digits = 0 ∨ leading < -400 then Float.ofNat 0
  else if 400 < leading then Float.ofNat 1 / Float.ofNat 0
  else Float.ofScientific d.digits (decide (d.exponent < 0)) d.exponent.natAbs

-- The exponent after the digits: nothing, or a mark, a sign if wanted, and
-- digits to the end.
def exponentPart? : List Char → Option Int
  | [] => some 0
  | c :: cs => if c = 'e' ∨ c = 'E' then Text.integer? cs else none

-- Digits, with a point before, between or after them, and an exponent.
def read? (text : List Char) : Option Decimal :=
  let whole := text.takeWhile Char.isDigit
  let rest := text.dropWhile Char.isDigit
  let (fraction, rest) := match rest with
    | '.' :: cs => (cs.takeWhile Char.isDigit, cs.dropWhile Char.isDigit)
    | _ => ([], rest)
  if whole.isEmpty && fraction.isEmpty then none
  else (exponentPart? rest).map fun exponent =>
    ⟨Text.valueOf (whole ++ fraction), exponent - fraction.length⟩

end Decimal

namespace Text

def unsignedDouble? (text : List Char) : Option Float :=
  let lower := text.map Char.toLower
  if lower = "inf".toList ∨ lower = "infinity".toList then
    some (Float.ofNat 1 / Float.ofNat 0)
  else if lower = "nan".toList then some (Float.ofNat 0 / Float.ofNat 0)
  else (Decimal.read? text).map Decimal.toFloat

-- A double as users write it: a sign if wanted, then a decimal, or the name of
-- an infinity or of no number in any case.
def double? : List Char → Option Float
  | '-' :: cs => (unsignedDouble? cs).map fun x => -x
  | '+' :: cs => unsignedDouble? cs
  | cs => unsignedDouble? cs

end Text

end Skirmish
