import Skirmish.Match.Sweep

namespace Skirmish

-- What came of one tank meeting another.
inductive Engagement where
  | nothing
  | collision
  | shot
deriving DecidableEq, Repr

namespace Combat

open Scalar

variable {R : Type} [Scalar R]

-- A target as seen along the cannon of a tank.
def lineOfFire (shooter : Tank R) (offset : Point R) : Point R :=
  offset.rotate (-(shooter.heading + shooter.turret.angle))

-- Whether a tank has a target in range of its shot.
def aims (rules : Rules R) (shooter : Tank R) (distanceSq : R) : Bool :=
  shooter.turret.firing && !decide (rules.cannonReachSq < distanceSq)

-- Whether the line of fire passes over the hull of a target ahead.
def hits (rules : Rules R) (shooter : Tank R) (offset : Point R) : Bool :=
  let target := lineOfFire shooter offset
  decide (((0 : Int) : R) < target.x) && decide (abs target.y < rules.tankRadius)

-- What becomes of a shooter and a target at an offset from it. Hulls that touch
-- come first; craters take no part.
def engagement (rules : Rules R) (shooter target : Tank R) (offset : Point R)
    (distanceSq : R) : Engagement :=
  if shooter.isCrater || target.isCrater then .nothing
  else if distanceSq ≤ rules.collisionReachSq then .collision
  else if aims rules shooter distanceSq && hits rules shooter offset then .shot
  else .nothing

def engage (rules : Rules R) (shooter target : Tank R) (offset : Point R) (distanceSq : R) :
    Engagement × Tank R × Tank R :=
  match engagement rules shooter target offset distanceSq with
  | .nothing => (.nothing, shooter, target)
  | .collision =>
    (.collision, shooter.kill ⟨target.id, .collision⟩, target.kill ⟨shooter.id, .collision⟩)
  | .shot => (.shot, shooter, target.kill ⟨shooter.id, .shot⟩)

-- Two tanks meet: the first acts, and the second too if nothing came of that.
-- There is no outcome if nothing came of either.
def clash (arena : Arena R) (rules : Rules R) (this that : Tank R) : Option (Tank R × Tank R) :=
  let offset := arena.displacement this.position that.position
  let distanceSq := offset.lengthSq
  match engage rules this that offset distanceSq with
  | (.nothing, _, _) =>
    match engage rules that this (-offset) distanceSq with
    | (.nothing, _, _) => none
    | (_, that, this) => some (this, that)
  | (_, this, that) => some (this, that)

def meet (arena : Arena R) (rules : Rules R) (tanks : List (Tank R)) (pair : Nat × Nat) :
    List (Tank R) :=
  match tanks[pair.1]?, tanks[pair.2]? with
  | some this, some that =>
    match clash arena rules this that with
    | some (this, that) => (tanks.set pair.1 this).set pair.2 that
    | none => tanks
  | _, _ => tanks

def schedule (count : Nat) : List (Nat × Nat) := (List.range count).flatMap (pairsFrom count)

-- All pairs of tanks meet, in order.
def resolve (arena : Arena R) (rules : Rules R) (tanks : List (Tank R)) : List (Tank R) :=
  (schedule tanks.length).foldl (meet arena rules) tanks

end Combat

end Skirmish
