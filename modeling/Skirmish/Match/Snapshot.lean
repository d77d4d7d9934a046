import Skirmish.Geometry.Precision
import Skirmish.Match

namespace Skirmish

-- One tank as it is drawn for one tick.
structure Frame (R : Type) where
  id : Nat
  x : R
  y : R
  heading : R
  turret : R
  flags : UInt8
  -- Bit k tells whether sensor k saw anything.
  sensors : UInt32

namespace Frame

inductive Flag where
  | firing
  | led
  | crater
  | teleporting
deriving DecidableEq, Repr

def Flag.bit : Flag → UInt8
  | .firing => 1
  | .led => 2
  | .crater => 4
  | .teleporting => 8

variable {R : Type} [Scalar R]

def marked (flag : Flag) (on : Bool) : UInt8 := if on then flag.bit else 0

-- The bits from `bit` on of the sensors that saw something.
def sensorBits (bit : UInt32) : List (Sensor R) → UInt32
  | [] => 0
  | s :: sensors => (if s.seen ≠ 0 then bit else 0) ||| sensorBits (bit <<< 1) sensors

-- Positions are whole and angles have three significant digits.
def ofTank (tank : Tank R) : Frame R where
  id := tank.id
  x := Scalar.round tank.position.x
  y := Scalar.round tank.position.y
  heading := Scalar.toPrecision tank.heading 3
  turret := Scalar.toPrecision tank.turret.angle 3
  flags :=
    marked .firing tank.turret.firing ||| marked .led tank.led ||| marked .crater tank.isCrater
      ||| marked .teleporting tank.teleporter.teleporting
  sensors := sensorBits 1 tank.sensors

def has (frame : Frame R) (flag : Flag) : Bool := frame.flags &&& flag.bit != 0

end Frame

-- What a match looks like after a tick.
structure Snapshot (R : Type) where
  tick : UInt32
  tanks : List (Frame R)
  pillars : List (Pillar R)

-- How a tank ended a match.
structure Standing (R : Type) where
  id : Nat
  path : String
  death : Option Death
  failure : Option (ProgramFault R)

namespace Match

variable {R G : Type} [Scalar R]

def snapshot (m : Match R G) : Snapshot R where
  tick := m.tick
  tanks := m.tanks.map Frame.ofTank
  pillars := m.arena.pillars

def standings (m : Match R G) : List (Standing R) :=
  m.tanks.map fun tank => ⟨tank.id, tank.path, tank.death, tank.failure⟩

end Match

-- Fields with tabs between them: id, path, cause and killer of its death,
-- position and text of its last failure.
def Standing.line (s : Standing Float) : String :=
  "\t".intercalate
    [toString s.id, s.path,
      (s.death.map fun death => death.cause.name).getD "(null)",
      (s.death.map fun death => toString death.killer).getD "(nil)",
      toString ((s.failure.map ProgramFault.position).getD 0),
      (s.failure.map ProgramFault.message).getD "None"]

end Skirmish
