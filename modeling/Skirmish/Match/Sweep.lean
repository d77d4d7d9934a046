import Skirmish.Arena
import Skirmish.Tank

namespace Skirmish

-- Two tanks that look at each other, or a tank that looks at a pillar. Tanks
-- are given by their places in the list of tanks.
inductive Sighting (R : Type) where
  | tanks (first second : Nat)
  | pillar (tank : Nat) (pillar : Pillar R)

-- All pairs of places in a list, the first before the second, in order.
def pairsFrom (count first : Nat) : List (Nat × Nat) :=
  (List.range' (first + 1) (count - (first + 1))).map (first, ·)

namespace Sweep

variable {R : Type} [Scalar R]

-- Each tank looks at those after it in the list, and they at it, and then at
-- the pillars.
def schedule (count : Nat) (pillars : List (Pillar R)) : List (Sighting R) :=
  (List.range count).flatMap fun i =>
    (pairsFrom count i).map (fun (first, second) => .tanks first second)
      ++ pillars.map (.pillar i)

-- Craters neither see nor are seen.
def see (arena : Arena R) (rules : Rules R) (tanks : List (Tank R)) :
    Sighting R → List (Tank R)
  | .tanks i j =>
    match tanks[i]?, tanks[j]? with
    | some this, some that =>
      if this.isCrater || that.isCrater then tanks
      else
        let offset := arena.displacement this.position that.position
        let distanceSq := offset.lengthSq
        let sense := fun (offset : Point R) =>
          Tank.sense rules offset distanceSq rules.tankRadius .tank
        (tanks.modify i (sense offset)).modify j (sense (-offset))
    | _, _ => tanks
  | .pillar i pillar =>
    match tanks[i]? with
    | some tank =>
      if tank.isCrater then tanks
      else
        let offset := arena.displacement tank.position pillar.position
        tanks.modify i (Tank.sense rules offset offset.lengthSq pillar.radius .pillar)
    | none => tanks

-- What all sensors see from where the tanks stand.
def run (arena : Arena R) (rules : Rules R) (tanks : List (Tank R)) : List (Tank R) :=
  (schedule tanks.length arena.pillars).foldl (see arena rules) tanks

end Sweep

end Skirmish
