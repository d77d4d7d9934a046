namespace Skirmish

-- The number digits * 10 ^ exponent.
structure Decimal where
  digits : Nat
  exponent : Int
deriving DecidableEq, Repr

namespace Decimal

def zeros (n : Nat) : List Char := List.replicate n '0'

-- All digits written out, with a point only before places that are there.
def positional (d : Decimal) : String :=
  let written := d.digits.repr.toList
  if 0 ≤ d.exponent then
    String.ofList (if d.digits = 0 then ['0'] else written ++ zeros d.exponent.toNat)
  else
    let places := (-d.exponent).toNat
    let padded := zeros (places + 1 - written.length) ++ written
    let whole := padded.length - places
    String.ofList (padded.take whole ++ '.' :: padded.drop whole)

-- One digit before the point, the others after it, then the exponent of the
-- leading digit.
def scientific (d : Decimal) : String :=
  let written := d.digits.repr.toList
  let exponent := d.exponent + (written.length - 1 : Nat)
  let point := if written.length = 1 then [] else ['.']
  String.ofList (written.take 1 ++ point ++ written.drop 1) ++ "e" ++ toString exponent

-- The exponent that the leading digit has in scientific form.
def leadingExponent (d : Decimal) : Int := d.exponent + (d.digits.repr.length - 1 : Nat)

end Decimal

end Skirmish
