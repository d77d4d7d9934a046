namespace Skirmish

-- The numbers a match is computed in. Everything about the field, the tanks
-- and their programs is stated over this class, so the same definitions run
-- on doubles and can be read over the reals.
--
-- Comparison, equality and the four operations are those of the number type.
-- `isNaN` and `isFinite` tell the values apart on which they misbehave; a
-- type without such values answers `false` and `true`.
class Scalar (R : Type) extends Add R, Sub R, Mul R, Div R, Neg R, LT R, LE R, BEq R, IntCast R where
  decidableLT : DecidableLT R
  decidableLE : DecidableLE R
  isNaN : R → Bool
  isFinite : R → Bool
  abs : R → R
  sqrt : R → R
  -- The greatest whole number that is not above the argument.
  floor : R → R
  -- The nearest whole number, halves away from zero.
  round : R → R
  -- The integer before the point, 0 for a value that is not finite.
  truncate : R → Int
  -- What is left of the dividend after a quotient cut off toward zero; it has
  -- the sign of the dividend.
  remainder : R → R → R
  pi : R
  sin : R → R
  cos : R → R
  tan : R → R
  -- The bearing of the point (x, y), taken as `atan2 y x`.
  atan2 : R → R → R
  -- No angle has a cosine outside [-1, 1].
  acos? : R → Option R
  -- The decimal exponent of a number that is not zero: 0 for 1 to 9.99.
  decimalExponent : R → Int

attribute [reducible, instance] Scalar.decidableLT Scalar.decidableLE

namespace Scalar

variable {R : Type} [Scalar R]

-- A full turn.
def tau : R := ((2 : Int) : R) * pi

def isWhole (x : R) : Bool := isFinite x && floor x == x

-- The lesser of two numbers; a value that is no number gives way to the other.
-- Of equal ones, as zeros of either sign are, it is the second.
def least (a b : R) : R :=
  if isNaN a then b else if isNaN b then a else if a < b then a else b

-- The greater of two numbers; a value that is no number gives way to the other.
-- Of equal ones it is the second.
def greatest (a b : R) : R :=
  if isNaN a then b else if isNaN b then a else if b < a then a else b

-- Forces a number between two bounds; a value that is no number stays.
def clamp (low high x : R) : R :=
  if x < low then low else if high < x then high else x

-- The remainder that is not negative. A negative one too small to be told from
-- zero is lifted to the full modulus.
def modulo (x m : R) : R :=
  let r := remainder x m
  if r < ((0 : Int) : R) then r + abs m else r

def square (x : R) : R := x * x

-- The number without its fraction.
def withoutFraction (x : R) : R := if x < ((0 : Int) : R) then -floor (-x) else floor x

-- A number without its fraction, brought into the range of signed 32-bit
-- integers; 0 for one that is not finite.
def toInt32 (x : R) : Int32 :=
  if isFinite x then
    let range := ((4294967296 : Int) : R)
    let wrapped := modulo (withoutFraction x) range
    .ofIntClamp (truncate (if ((2147483648 : Int) : R) ≤ wrapped then wrapped - range else wrapped))
  else 0

-- Powers by repeated squaring: `total` is multiplied by the powers of `base`
-- that stand at the ones of the exponent's binary digits, the lowest first.
def powerFrom (total base : R) (n : Nat) : R :=
  let total' := if n % 2 = 1 then total * base else total
  if n / 2 = 0 then total' else powerFrom total' (base * base) (n / 2)
termination_by n

-- The power of ten with a whole exponent of either sign.
def tenTo (n : Int) : R :=
  let p := powerFrom ((1 : Int) : R) ((10 : Int) : R) n.natAbs
  if n < 0 then ((1 : Int) : R) / p else p

end Scalar

end Skirmish
