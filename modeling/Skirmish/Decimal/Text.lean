import Skirmish.Decimal.Rounded
import Skirmish.Decimal.Shortest

namespace Skirmish.Decimal

open Float.Model (UnpackedFloat)
open Float.Model.UnpackedFloat (Sign)

def signText : Sign → String
  | .positive => ""
  | .negative => "-"

-- The text of a double, given how a magnitude mantissa * 2 ^ exponent is
-- written. The sign of a zero is kept.
def textOf (magnitude : Nat → Int → String) (x : Float) : String :=
  match x.toModel.unpack with
  | .notANumber => "NaN"
  | .infinity sign => signText sign ++ "inf"
  | .zero sign => signText sign ++ magnitude 0 0
  | .finite sign m e _ => signText sign ++ magnitude m e

def shortestOrZero (mantissa : Nat) (exponent : Int) : Decimal :=
  if mantissa = 0 then ⟨0, 0⟩ else shortest mantissa exponent

-- The fewest digits that read back, never with an exponent.
def plain : Float → String :=
  textOf fun m e => (shortestOrZero m e).positional

-- The fewest digits that read back, with a point even in whole numbers. Numbers
-- below a ten-thousandth and from 10 ^ 16 on are in scientific form.
def pointed : Float → String :=
  textOf fun m e =>
    let d := shortestOrZero m e
    let leading := d.leadingExponent
    if d.digits ≠ 0 ∧ (leading < -4 ∨ 16 ≤ leading) then d.scientific
    else if d.exponent < 0 then d.positional
    else d.positional ++ ".0"

-- A set number of places, nearest to the exact value, ties to even.
def fixed (places : Nat) : Float → String :=
  textOf fun m e => (rounded places m e).positional

end Skirmish.Decimal
