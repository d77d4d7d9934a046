import Skirmish.Arena
import Skirmish.Tank

namespace Skirmish.Tank

open Scalar

variable {R : Type} [Scalar R]

-- Lines steeper than this are taken as vertical.
def steepest : R := ((100000 : Int) : R)

-- Where a vertical line through a point enters a circle.
def verticalContact (origin center : Point R) (reach : R) : Point R :=
  let dx := origin.x - center.x
  let dy := sqrt (greatest (reach * reach - dx * dx) ((0 : Int) : R))
  ⟨origin.x, if center.y < origin.y then center.y + dy else center.y - dy⟩

-- Of the two points where a line of slope m through a point meets a circle,
-- the one nearer to the point. The line y = m x + c put into the circle gives
-- a x^2 + b x + d = 0; a negative discriminant is due to rounding only.
def slopedContact (m : R) (origin center : Point R) (reach : R) : Point R :=
  let two := ((2 : Int) : R)
  let c := origin.y - m * origin.x
  let a := m * m + ((1 : Int) : R)
  let b := two * (m * c - m * center.y - center.x)
  let d := center.y * center.y - reach * reach + center.x * center.x - two * c * center.y + c * c
  let root := sqrt (greatest (b * b - ((4 : Int) : R) * a * d) ((0 : Int) : R))
  let x1 := (-b + root) / (two * a)
  let x2 := (-b - root) / (two * a)
  let x := if abs (x1 - origin.x) < abs (x2 - origin.x) then x1 else x2
  ⟨x, m * x + c⟩

-- Where a line through `origin` in the direction `heading` first meets the
-- circle of radius `reach` around `center`.
def straightContact (origin : Point R) (heading : R) (center : Point R) (reach : R) : Point R :=
  let m := tan heading
  if steepest < abs m then verticalContact origin center reach
  else slopedContact m origin center reach

-- The centre of the circle a tank turns on.
def pivot (tank : Tank R) : Point R :=
  let x := cos tank.heading * tank.turnRadius
  let y := sin tank.heading * tank.turnRadius
  tank.position + if tank.speed.left < tank.speed.right then ⟨y, -x⟩ else ⟨-y, x⟩

def bearing (p : Point R) : R := Angle.normalize (atan2 p.y p.x)

-- Where the turning circle meets the circle of radius `reach` around `center`:
-- of the two points, the one nearer to the tank in bearing. Where the circles
-- do not meet, it is the point of the turning circle nearest to the center.
def arcContact (tank : Tank R) (center : Point R) (reach : R) : Point R :=
  let radius := tank.turnRadius
  let pivot := tank.pivot
  let toPillar := center - pivot
  let distance := sqrt toPillar.lengthSq
  let pillarBearing := bearing toPillar
  let tankBearing := bearing (tank.position - pivot)
  -- Law of cosines: half the angle between the two points.
  let cosine :=
    -(reach * reach - distance * distance - radius * radius)
      / (((2 : Int) : R) * distance * radius)
  let contact := match acos? cosine with
    | none => pillarBearing
    | some spread =>
      let first := Angle.normalize (pillarBearing - spread)
      let second := Angle.normalize (pillarBearing + spread)
      if Angle.distance tankBearing first < Angle.distance tankBearing second then first
      else second
  ⟨pivot.x + cos contact * radius, pivot.y + sin contact * radius⟩

-- Where a tank stops at a pillar that its move brings it within reach of.
-- Places are taken around the tank, so that the edges of the field do not
-- matter. A tank that the pillar held up already stays where it is.
def contact? (arena : Arena R) (tankRadius : R) (heldBy : Option Nat) (tank : Tank R)
    (pillar : Pillar R) (index : Nat) : Option (Point R) :=
  let origin := tank.position
  let center := origin + arena.displacement origin pillar.position
  let next := origin + arena.displacement origin tank.next
  let reach := pillar.radius + tankRadius
  if reach * reach < next.distanceSq center then none
  else if heldBy = some index then some origin
  else if tank.speed.left == tank.speed.right then
    some (straightContact origin tank.heading center reach)
  else some (tank.arcContact center reach)

-- Ends the move of a tank at one pillar if it meets it.
def stopAt (arena : Arena R) (tankRadius : R) (heldBy : Option Nat) (tank : Tank R)
    (pillar : Pillar R × Nat) : Tank R :=
  match tank.contact? arena tankRadius heldBy pillar.1 pillar.2 with
  | some contact => { tank with next := arena.wrap contact, blockedBy := some pillar.2 }
  | none => tank

-- Ends the move of a tank where it meets pillars, taken in order.
def clampToPillars (arena : Arena R) (tankRadius : R) (tank : Tank R) : Tank R :=
  arena.pillars.zipIdx.foldl (stopAt arena tankRadius tank.blockedBy) { tank with blockedBy := none }

end Skirmish.Tank
