import Skirmish.Scalar

namespace Skirmish.Angle

open Scalar

variable {R : Type} [Scalar R]

-- The same direction in (-pi, pi], so that a turn goes the short way round.
def wrap (a : R) : R :=
  let w := modulo a tau
  if pi < w then w - tau else w

-- The same direction in (0, tau].
def normalize (a : R) : R :=
  let w := modulo a tau
  if ((0 : Int) : R) < w then w else tau

-- How far apart two directions are, at most half a turn.
def distance (a b : R) : R := abs (wrap (a - b))

def ofDegrees (d : R) : R := d * (pi / ((180 : Int) : R))

def toWholeDegrees (a : R) : R := floor (((360 : Int) : R) * a / tau)

end Skirmish.Angle
