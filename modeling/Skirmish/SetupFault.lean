import Skirmish.Decimal.Text
import Skirmish.Rules

namespace Skirmish

-- The two kinds of objects on the field. Each has a bit of its own, so that a
-- sensor can tell of both.
inductive ObjectKind where
  | tank
  | pillar
deriving DecidableEq, Repr

namespace ObjectKind

def bit : ObjectKind → UInt32
  | .tank => 1
  | .pillar => 2

def name : ObjectKind → String
  | .tank => "tank"
  | .pillar => "pillar"

-- How far apart two objects are placed, from edge to edge.
def spacing {R : Type} [Scalar R] : ObjectKind → ObjectKind → R
  | .tank, .tank => ((150 : Int) : R)
  | .pillar, .pillar => ((50 : Int) : R)
  | _, _ => ((10 : Int) : R)

end ObjectKind

-- Why a match cannot start.
inductive SetupFault (R : Type) where
  | noTanks
  | tooManySensors (tank : String) (count limit : Nat)
  | invalidSensor (tank : String) (index : Nat) (range : R)
  | invalidRules (fault : RuleFault R)
  | unplaced (kind : ObjectKind) (index attempts : Nat)
deriving DecidableEq, Repr

def RuleFault.message : RuleFault Float → String
  | .notPositive rule value => rule ++ " must be positive, got " ++ Decimal.plain value
  | .negativeRange => "sensor and cannon ranges must be non-negative"
  | .friction value => "friction must be within [0, 1), got " ++ Decimal.plain value
  | .pillarRadii => "pillar_max_radius is smaller than pillar_min_radius"
  | .noBudget => "instruction budget and data stack size must be non-zero"
  | .sensorFields text => "sensor needs 4 fields (range angle width turret), got '" ++ text ++ "'"
  | .sensorNumber field => "sensor field '" ++ field ++ "' is not a number"

def SetupFault.message : SetupFault Float → String
  | .noTanks => "A match needs at least one tank"
  | .tooManySensors tank count limit =>
    "Tank " ++ tank ++ " has " ++ toString count ++ " sensors, the maximum is " ++ toString limit
  | .invalidSensor tank index range =>
    "Tank " ++ tank ++ " sensor " ++ toString index ++ " has invalid range " ++ Decimal.plain range
  | .invalidRules fault => "Invalid configuration: " ++ fault.message
  | .unplaced kind index attempts =>
    "Could not place " ++ kind.name ++ " #" ++ toString index ++ " without overlapping after "
      ++ toString attempts ++ " attempts"

end Skirmish
