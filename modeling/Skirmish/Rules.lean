import Skirmish.Scalar

namespace Skirmish

-- What can be set for a match. Speeds are per tick, angles in radians, and
-- recharge times in ticks.
structure Rules (R : Type) where
  tankRadius : R
  sensorRange : R
  cannonRange : R
  cannonRecharge : Nat
  teleportEnabled : Bool
  teleportRecharge : Nat
  -- Negative for any number of shots.
  ammo : Int
  maxAcceleration : R
  maxTurretTurn : R
  topSpeed : R
  friction : R
  -- 0 for programs of any length.
  maxProgramLength : Nat
  instructionBudget : Nat
  stackLimit : Nat
  pillarMinRadius : R
  pillarMaxRadius : R
  pillarToWall : R
  gridSpacing : R
  maxTicks : UInt32

-- What is wrong with rules or with the text of a sensor.
inductive RuleFault (R : Type) where
  | notPositive (rule : String) (value : R)
  | negativeRange
  | friction (value : R)
  | pillarRadii
  | noBudget
  | sensorFields (text : String)
  | sensorNumber (field : String)
deriving DecidableEq, Repr

namespace Rules

open Scalar

variable {R : Type} [Scalar R]

def standard : Rules R where
  tankRadius := ((15 : Int) : R) / ((2 : Int) : R)
  sensorRange := ((100 : Int) : R)
  cannonRange := ((50 : Int) : R)
  cannonRecharge := 20
  teleportEnabled := true
  teleportRecharge := 60
  ammo := -1
  maxAcceleration := ((35 : Int) : R)
  maxTurretTurn := tau / ((8 : Int) : R)
  topSpeed := ((7 : Int) : R)
  friction := ((3 : Int) : R) / ((4 : Int) : R)
  maxProgramLength := 0
  instructionBudget := 10000
  stackLimit := 1024
  pillarMinRadius := ((25 : Int) : R)
  pillarMaxRadius := ((35 : Int) : R)
  pillarToWall := ((50 : Int) : R)
  gridSpacing := ((160 : Int) : R)
  maxTicks := 500

-- Hulls whose squared distance is no more than this have collided.
def collisionReachSq (rules : Rules R) : R := square (((2 : Int) : R) * rules.tankRadius)

-- Shots reach targets whose squared distance is no more than this.
def cannonReachSq (rules : Rules R) : R := square (rules.cannonRange + rules.tankRadius)

-- The rules that have to be positive, with their names in messages.
def positives (rules : Rules R) : List (String × R) :=
  [("tank_radius", rules.tankRadius), ("top_speed", rules.topSpeed),
    ("max_accel", rules.maxAcceleration), ("max_turret_rotation", rules.maxTurretTurn),
    ("grid_spacing", rules.gridSpacing), ("pillar_min_radius", rules.pillarMinRadius)]

def isPositive (x : R) : Bool := isFinite x && decide (((0 : Int) : R) < x)

-- Friction of 1 would leave opposed treads no circle to turn on.
def check (rules : Rules R) : Except (RuleFault R) Unit :=
  let zero := ((0 : Int) : R)
  match rules.positives.find? fun rule => !isPositive rule.2 with
  | some (rule, value) => .error (.notPositive rule value)
  | none =>
    if ¬(zero ≤ rules.sensorRange ∧ zero ≤ rules.cannonRange) then .error .negativeRange
    else if ¬(zero ≤ rules.friction ∧ rules.friction < ((1 : Int) : R)) then
      .error (.friction rules.friction)
    else if rules.pillarMaxRadius < rules.pillarMinRadius then .error .pillarRadii
    else if rules.instructionBudget = 0 ∨ rules.stackLimit = 0 then .error .noBudget
    else .ok ()

end Rules

end Skirmish
