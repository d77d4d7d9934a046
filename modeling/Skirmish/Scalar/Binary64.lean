import Skirmish.Scalar

namespace Skirmish.Binary64

open Float.Model.UnpackedFloat (Sign)

-- Whether the size of a number has its integer part below 2 ^ 64. Larger
-- doubles are whole.
def isShort (x : Float) : Bool := x.abs < Float.ofNat UInt64.size

-- The integer part of the size of a number, which is short.
def wholePart (x : Float) : UInt64 := x.abs.toUInt64

def truncate (x : Float) : Int :=
  if isShort x then
    if x < Float.ofNat 0 then -((wholePart x).toNat : Int) else (wholePart x).toNat
  else match x.toModel.unpack with
    | .finite sign mantissa exponent _ => sign.apply (mantissa <<< exponent.toNat)
    | _ => 0

-- Whole numbers stay as they are, zeros with their sign.
def floor (x : Float) : Float :=
  let whole := (wholePart x).toFloat
  if !isShort x || whole == x.abs then x
  else if x < Float.ofNat 0 then -(whole + Float.ofNat 1)
  else whole

def round (x : Float) : Float :=
  let whole := (wholePart x).toFloat
  if !isShort x || whole == x.abs then x
  else
    let nearest :=
      if Float.ofNat 1 ≤ (x.abs - whole) * Float.ofNat 2 then whole + Float.ofNat 1 else whole
    if x < Float.ofNat 0 then -nearest else nearest

def ofParts (sign : Sign) (mantissa : Nat) (exponent : Int) : Float :=
  .ofModel (.pack (.round .binary64 sign mantissa exponent))

def notANumber : Float := .ofModel (.pack .notANumber)

-- Numbers are integers on the grid of the finer of their exponents, where the
-- remainder is exact.
def remainder (x y : Float) : Float :=
  if x.abs < y.abs then x
  else match x.toModel.unpack, y.toModel.unpack with
    | .finite sign m e _, .finite _ m' e' _ =>
      let least := min e e'
      ofParts sign ((m <<< (e - least).toNat) % (m' <<< (e' - least).toNat)) least
    | _, _ => notANumber

def acos? (x : Float) : Option Float :=
  let angle := x.acos
  if angle.isNaN then none else some angle

-- The double nearest to half a turn.
def pi : Float := .ofBits 0x400921FB54442D18

end Binary64

open Binary64 in
instance : Scalar Float where
  intCast := Float.ofInt
  decidableLT := Float.decLt
  decidableLE := Float.decLe
  isNaN := Float.isNaN
  isFinite := Float.isFinite
  abs := Float.abs
  sqrt := Float.sqrt
  floor := floor
  round := round
  truncate := truncate
  remainder := remainder
  pi := pi
  sin := Float.sin
  cos := Float.cos
  tan := Float.tan
  atan2 := Float.atan2
  acos? := acos?
  decimalExponent x := truncate (floor x.abs.log10)

end Skirmish
