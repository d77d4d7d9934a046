import Skirmish.Scalar

namespace Skirmish

-- What a program can do to the body it drives and ask of it. Angles are in
-- radians here; programs speak in degrees.
class Body (R B : Type) where
  fireReady : B → Bool
  fire : B → B
  teleportReady : B → Bool
  teleport : B → B
  -- The speeds wanted of the left and the right tread.
  setSpeed : R → R → B → B
  setTurret : R → B → B
  turret : B → R
  -- The kinds of objects that a sensor sees, 0 for one that is not mounted.
  sensor : R → B → UInt32
  setLed : Bool → B → B
  -- A whole number below the bound, which is 1 or more.
  random : R → B → R × B

-- No body at all, for programs that only calculate.
inductive Bodiless where
  | bodiless
deriving DecidableEq, Repr

instance {R : Type} [Scalar R] : Body R Bodiless where
  fireReady _ := false
  fire b := b
  teleportReady _ := false
  teleport b := b
  setSpeed _ _ b := b
  setTurret _ b := b
  turret _ := ((0 : Int) : R)
  sensor _ _ := 0
  setLed _ b := b
  random _ b := (((0 : Int) : R), b)

end Skirmish
