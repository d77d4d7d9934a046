import Skirmish.Language.Evaluation
import Skirmish.Language.Length
import Skirmish.Random
import Skirmish.Tank.Sensor

namespace Skirmish

-- What brings a tank into a match.
structure Entry (R : Type) where
  name : String
  -- Where the tank comes from, as it is listed.
  path : String
  program : String
  sensors : List (SensorSetting R)

inductive Cause where
  | collision
  | shot
deriving DecidableEq, Repr

def Cause.name : Cause → String
  | .collision => "collision"
  | .shot => "shot"

-- How a tank became a crater.
structure Death where
  killer : Nat
  cause : Cause
deriving DecidableEq, Repr

-- A pair of things of the two treads.
structure Treads (R : Type) where
  left : R
  right : R

structure Turret (R : Type) where
  -- Relative to the hull.
  angle : R
  wanted : R
  firing : Bool
  -- Ticks until the cannon can fire again.
  recharge : Nat

structure Teleporter where
  teleporting : Bool
  recharge : Nat
deriving DecidableEq, Repr

structure Tank (R : Type) where
  id : Nat
  name : String
  path : String
  position : Point R
  -- Where the tank will be at the start of the next tick.
  next : Point R
  heading : R
  -- The radius of the circle the tank last turned on.
  turnRadius : R
  wantedSpeed : Treads R
  speed : Treads R
  turret : Turret R
  teleporter : Teleporter
  -- Negative for any number of shots.
  ammo : Int
  led : Bool
  sensors : List (Sensor R)
  death : Option Death
  -- The pillar that stopped the last move.
  blockedBy : Option Nat
  program : String
  machine : Machine R
  -- The last failure of the program.
  failure : Option (ProgramFault R)

namespace Tank

open Scalar

variable {R : Type} [Scalar R]

def maxSensors : Nat := 10

-- Builds a tank, at the origin and facing east, from an entry with no more
-- sensors than can be mounted, each with a range and with finite angles.
def ofEntry (id : Nat) (entry : Entry R) (rules : Rules R) : Except (SetupFault R) (Tank R) :=
  let zero := ((0 : Int) : R)
  if maxSensors < entry.sensors.length then
    .error (.tooManySensors entry.name entry.sensors.length maxSensors)
  else match entry.sensors.zipIdx.find? fun (sensor, _) => !sensor.isValid with
    | some (sensor, index) => .error (.invalidSensor entry.name index sensor.range)
    | none => .ok {
        id
        name := entry.name
        path := entry.path
        position := .origin
        next := .origin
        heading := zero
        turnRadius := zero
        wantedSpeed := ⟨zero, zero⟩
        speed := ⟨zero, zero⟩
        turret := { angle := zero, wanted := zero, firing := false, recharge := 0 }
        teleporter := { teleporting := false, recharge := 0 }
        ammo := rules.ammo
        led := false
        sensors := entry.sensors.map (Sensor.mount rules.sensorRange)
        death := none
        blockedBy := none
        program := Source.limit rules.maxProgramLength entry.program
        machine := .fresh rules.stackLimit
        failure := none }

-- The tanks of several entries, numbered from `first` on.
def ofEntries (rules : Rules R) : Nat → List (Entry R) → Except (SetupFault R) (List (Tank R))
  | _, [] => .ok []
  | first, entry :: entries =>
    match ofEntry first entry rules with
    | .ok tank => (ofEntries rules (first + 1) entries).map (tank :: ·)
    | .error fault => .error fault

def place (position : Point R) (heading turret : R) (tank : Tank R) : Tank R :=
  { tank with
    position
    next := position
    heading
    turret := { tank.turret with angle := turret, wanted := turret } }

def isCrater (tank : Tank R) : Bool := tank.death.isSome

def kill (death : Death) (tank : Tank R) : Tank R := { tank with death := some death }

def fireReady (tank : Tank R) : Bool := decide (tank.ammo ≠ 0) && tank.turret.recharge == 0

-- Fires if the cannon is ready. Otherwise, no shot is fired in this tick.
def fire (tank : Tank R) : Tank R :=
  { tank with
    turret := { tank.turret with firing := tank.fireReady }
    ammo := if tank.fireReady ∧ 0 < tank.ammo then tank.ammo - 1 else tank.ammo }

def teleportReady (tank : Tank R) : Bool := tank.teleporter.recharge == 0

def teleport (tank : Tank R) : Tank R :=
  { tank with teleporter := { tank.teleporter with teleporting := tank.teleportReady } }

def topTread : R := ((100 : Int) : R)

def setSpeed (left right : R) (tank : Tank R) : Tank R :=
  { tank with
    wantedSpeed := ⟨clamp (-topTread) topTread left, clamp (-topTread) topTread right⟩ }

def setTurret (angle : R) (tank : Tank R) : Tank R :=
  { tank with turret := { tank.turret with wanted := modulo angle tau } }

-- What the sensor of a number has seen. Numbers without a sensor see nothing.
def sensor (number : R) (tank : Tank R) : UInt32 :=
  if number < ((0 : Int) : R) ∨ !isWhole number then 0
  else (tank.sensors[(truncate number).toNat]?.map Sensor.seen).getD 0

def setLed (on : Bool) (tank : Tank R) : Tank R := { tank with led := on }

-- The start of a tick. The cannon starts to recharge if it fired and the
-- teleporter if it was used; a live tank also counts recharging down and
-- forgets what its sensors saw.
def recharge (rules : Rules R) (tank : Tank R) : Tank R :=
  let spent := { tank with
    turret :=
      if tank.turret.firing then
        { tank.turret with firing := false, recharge := rules.cannonRecharge }
      else tank.turret
    teleporter :=
      if tank.teleporter.teleporting then
        { teleporting := false, recharge := rules.teleportRecharge }
      else tank.teleporter }
  if tank.isCrater then spent
  else { spent with
    turret := { spent.turret with recharge := spent.turret.recharge - 1 }
    teleporter := { spent.teleporter with recharge := spent.teleporter.recharge - 1 }
    sensors := spent.sensors.map fun sensor => { sensor with seen := 0 } }

def commit (tank : Tank R) : Tank R := { tank with position := tank.next }

-- Looks at one target through every sensor. None looks farther than the rules
-- allow.
def sense (rules : Rules R) (offset : Point R) (distanceSq radius : R) (kind : ObjectKind)
    (tank : Tank R) : Tank R :=
  if !Sensor.reaches rules.sensorRange radius distanceSq then tank
  else { tank with sensors :=
    tank.sensors.map (Sensor.look tank.heading tank.turret.angle radius distanceSq offset kind) }

end Tank

-- A tank with its program at the controls and a source for its random numbers.
structure Cockpit (R G : Type) where
  tank : Tank R
  source : G

namespace Cockpit

variable {R G : Type} [Scalar R] [Draws R G]

def onTank (order : Tank R → Tank R) (c : Cockpit R G) : Cockpit R G :=
  { c with tank := order c.tank }

instance : Body R (Cockpit R G) where
  fireReady c := c.tank.fireReady
  fire := onTank Tank.fire
  teleportReady c := c.tank.teleportReady
  teleport := onTank Tank.teleport
  setSpeed left right := onTank (Tank.setSpeed left right)
  setTurret angle := onTank (Tank.setTurret angle)
  turret c := c.tank.turret.angle
  sensor number c := c.tank.sensor number
  setLed on := onTank (Tank.setLed on)
  random bound c :=
    let (u, source) := Draws.unit c.source
    (Scalar.floor (u * bound), { c with source })

end Cockpit

namespace Tank

variable {R G : Type} [Scalar R] [Draws R G]

-- Parses the program and runs it. What it did before a failure stays done.
def runProgram (i : Interpreter) (g : G) (tank : Tank R) : Tank R × G :=
  let rig : Rig R (Cockpit R G) := ⟨tank.machine, ⟨tank, g⟩⟩
  let (outcome, rig) := i.runSource tank.program rig
  let driven := rig.body.tank
  ({ driven with machine := rig.machine, failure := outcome <|> driven.failure },
    rig.body.source)

-- The interpreter of tanks' programs under some rules.
def interpreter (rules : Rules R) : Interpreter where
  vocabulary := .tank rules.teleportEnabled
  budget := rules.instructionBudget

end Tank

end Skirmish
