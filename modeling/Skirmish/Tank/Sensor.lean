import Skirmish.Decimal.Reading
import Skirmish.Geometry.Angle
import Skirmish.Geometry.Point
import Skirmish.SetupFault
import Skirmish.Text.Blank

namespace Skirmish

-- A sensor as its owner describes it, in degrees. A range of 0 is an empty slot.
structure SensorSetting (R : Type) where
  range : R
  angle : R
  width : R
  -- Whether the sensor turns with the turret.
  onTurret : Bool

namespace SensorSetting

variable {R : Type} [Scalar R]

def emptySlot : SensorSetting R := ⟨((0 : Int) : R), ((0 : Int) : R), ((0 : Int) : R), false⟩

def isValid (s : SensorSetting R) : Bool :=
  Scalar.isFinite s.range && decide (((0 : Int) : R) ≤ s.range) && Scalar.isFinite s.angle
    && Scalar.isFinite s.width

-- The numbers of a sensor's text, or the first word that is none.
def numbers : List (List Char) → Except (RuleFault Float) (List Float)
  | [] => .ok []
  | word :: words =>
    match Text.double? word with
    | some x => (numbers words).map (x :: ·)
    | none => .error (.sensorNumber (String.ofList word))

-- Four numbers: range, angle, width, and 0 for a sensor fixed to the hull.
def read (text : String) : Except (RuleFault Float) (SensorSetting Float) :=
  let words := Text.words text.toList
  if words.length = 4 then
    match numbers words with
    | .ok [range, angle, width, onTurret] =>
      .ok ⟨range, angle, width, !(onTurret == Float.ofNat 0)⟩
    | .ok _ => .error (.sensorFields (String.ofList (Text.trim text.toList)))
    | .error fault => .error fault
  else .error (.sensorFields (String.ofList (Text.trim text.toList)))

end SensorSetting

-- A sensor in place: a cone around an axis that is fixed to the hull or the
-- turret, and the kinds of objects seen in it.
structure Sensor (R : Type) where
  range : R
  angle : R
  -- From edge to edge of the cone.
  width : R
  onTurret : Bool
  seen : UInt32

namespace Sensor

open Scalar

variable {R : Type} [Scalar R]

def mount (maxRange : R) (setting : SensorSetting R) : Sensor R where
  range := least setting.range maxRange
  angle := Angle.ofDegrees (remainder setting.angle ((360 : Int) : R))
  width := Angle.ofDegrees (remainder setting.width ((360 : Int) : R))
  onTurret := setting.onTurret
  seen := 0

-- The direction of the axis, given those of hull and turret.
def axis (s : Sensor R) (hull turret : R) : R :=
  if s.onTurret then hull + s.angle + turret else hull + s.angle

-- A round target as seen along the axis, folded over to the left of it; the cone
-- is symmetric.
def relative (axis : R) (offset : Point R) : Point R :=
  let turned := offset.rotate (-axis)
  { turned with y := abs turned.y }

-- Whether the centre of the target is in the cone.
def inCone (width : R) (target : Point R) : Bool :=
  decide (((1 : Int) : R) / tan (width / ((2 : Int) : R)) ≤ target.x / target.y)

-- Whether the edge of the cone, drawn from the sensor, meets the target.
def onEdge (width radius : R) (target : Point R) : Bool :=
  let turned := target.rotate (-width / ((2 : Int) : R))
  decide (((0 : Int) : R) < turned.x) && decide (abs turned.y < radius)

-- Whether the cone meets a round target so far away, whatever its range.
def covers (s : Sensor R) (hull turret radius : R) (offset : Point R) : Bool :=
  let target := relative (s.axis hull turret) offset
  inCone s.width target || onEdge s.width radius target

-- Whether a target is near enough for a range.
def reaches (range radius distanceSq : R) : Bool := !decide (square (range + radius) < distanceSq)

-- Whether the sensor sees a target at all.
def detects (s : Sensor R) (hull turret radius distanceSq : R) (offset : Point R) : Bool :=
  !(s.range == ((0 : Int) : R)) && reaches s.range radius distanceSq
    && s.covers hull turret radius offset

-- A sensor looks for no other object of a kind that it has seen already.
def look (hull turret radius distanceSq : R) (offset : Point R) (kind : ObjectKind)
    (s : Sensor R) : Sensor R :=
  if s.seen &&& kind.bit != 0 then s
  else if s.detects hull turret radius distanceSq offset then
    { s with seen := s.seen ||| kind.bit }
  else s

end Sensor

end Skirmish
