import Skirmish.Scalar

namespace Skirmish.Scalar

variable {R : Type} [Scalar R]

-- The number rounded to so many significant digits. Zero has no leading digit
-- and stays, as does a value that is not finite.
def toPrecision (x : R) (digits : Int) : R :=
  if x == ((0 : Int) : R) || !isFinite x then x
  else
    let factor := tenTo (digits - 1 - decimalExponent x)
    round (x * factor) / factor

end Skirmish.Scalar
