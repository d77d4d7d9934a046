import Skirmish.Arena
import Skirmish.Tank

namespace Skirmish.Tank

open Scalar

variable {R : Type} [Scalar R]

-- The turret turns to the angle wanted the short way, as far as it can.
def slewTurret (rules : Rules R) (tank : Tank R) : Tank R :=
  let gap := Angle.wrap (tank.turret.wanted - tank.turret.angle)
  let turn := clamp (-rules.maxTurretTurn) rules.maxTurretTurn gap
  { tank with turret := { tank.turret with angle := modulo (tank.turret.angle + turn) tau } }

-- A tread takes on the speed wanted, as far as it can in one tick.
def ramp (limit wanted speed : R) : R :=
  if speed < wanted then least (speed + limit) wanted
  else if wanted < speed then greatest (speed - limit) wanted
  else speed

def rampTreads (rules : Rules R) (tank : Tank R) : Tank R :=
  let limit := rules.maxAcceleration
  { tank with speed :=
    ⟨ramp limit tank.wantedSpeed.left tank.speed.left,
      ramp limit tank.wantedSpeed.right tank.speed.right⟩ }

-- One tick of driving: the turn of the hull, the distance along the heading
-- after the turn, and the radius of the turning circle if there is one.
structure Motion (R : Type) where
  swept : R
  distance : R
  -- 1 for forward along the heading, -1 for a distance counted backward.
  direction : R
  turnRadius : Option R

-- Opposed treads lose speed to friction.
def treadScale (rules : Rules R) (speed : Treads R) : R :=
  let friction := rules.friction * abs (speed.left - speed.right) / ((200 : Int) : R)
  (((1 : Int) : R) - friction) * rules.topSpeed / ((100 : Int) : R)

-- The turning circle of the faster, outer tread follows from similar triangles.
-- The treads differ.
def turning (rules : Rules R) (speed : Treads R) : Motion R :=
  let scale := treadScale rules speed
  let left := speed.left * scale
  let right := speed.right * scale
  let leftOuter := abs right < abs left
  let inner := if leftOuter then right else left
  let outer := if leftOuter then left else right
  let direction : R := if leftOuter then ((1 : Int) : R) else ((-1 : Int) : R)
  let radius := outer * (((2 : Int) : R) * rules.tankRadius) / (outer - inner)
  let swept := outer / radius * direction
  { swept, distance := radius * tan swept, direction, turnRadius := some radius }

def motion (rules : Rules R) (speed : Treads R) : Motion R :=
  if speed.left == speed.right then
    { swept := ((0 : Int) : R)
      distance := speed.left * rules.topSpeed / ((100 : Int) : R)
      direction := ((1 : Int) : R)
      turnRadius := none }
  else turning rules speed

-- Turns the hull and drives on, were nothing in the way.
def drive (arena : Arena R) (motion : Motion R) (tank : Tank R) : Tank R :=
  let heading := modulo (tank.heading + motion.swept) tau
  let step : Point R :=
    ⟨cos heading * motion.distance * motion.direction,
      sin heading * motion.distance * motion.direction⟩
  { tank with
    heading
    turnRadius := motion.turnRadius.getD tank.turnRadius
    next := arena.wrap (tank.position + step) }

-- Moves turret and treads on by one tick and plans where the tank drives.
def planMove (arena : Arena R) (rules : Rules R) (tank : Tank R) : Tank R :=
  let ready := (tank.slewTurret rules).rampTreads rules
  ready.drive arena (motion rules ready.speed)

end Skirmish.Tank
