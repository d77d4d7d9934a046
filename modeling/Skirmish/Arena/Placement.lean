import Skirmish.Arena
import Skirmish.SetupFault

namespace Skirmish

-- An object in its place.
structure Obstacle (R : Type) where
  position : Point R
  radius : R
  kind : ObjectKind

namespace Placement

open Scalar

variable {R G : Type} [Scalar R] [Draws R G]

def maxAttempts : Nat := 10000

def ofPillar (pillar : Pillar R) : Obstacle R := ⟨pillar.position, pillar.radius, .pillar⟩

-- Whether two objects keep their distance, straight across the field.
def isClear (o other : Obstacle R) : Bool :=
  let clearance := o.radius + other.radius + o.kind.spacing other.kind
  decide (clearance * clearance < o.position.distanceSq other.position)

-- The first of so many random spots that is clear of everything placed. Spots
-- keep a margin from the edges.
def findSpot (arena : Arena R) (placed : List (Obstacle R)) (radius : R) (kind : ObjectKind)
    (margin : R) : Nat → G → Option (Point R) × G
  | 0, g => (none, g)
  | attempts + 1, g =>
    let spanX := greatest (arena.width - ((2 : Int) : R) * margin) ((1 : Int) : R)
    let spanY := greatest (arena.height - ((2 : Int) : R) * margin) ((1 : Int) : R)
    let (u, g) := Draws.unit g
    let (v, g) := Draws.unit g
    let spot : Point R := ⟨margin + floor (u * spanX), margin + floor (v * spanY)⟩
    if placed.all (isClear ⟨spot, radius, kind⟩) then (some spot, g)
    else findSpot arena placed radius kind margin attempts g

-- Adds `count` pillars of random sizes, of which the first is number `index`.
-- A pillar without a spot ends it; those before it stay.
def raisePillars (rules : Rules R) : Nat → Nat → Arena R → G → Option (SetupFault R) × Arena R × G
  | 0, _, arena, g => (none, arena, g)
  | count + 1, index, arena, g =>
    let (u, g) := Draws.unit g
    let radius :=
      rules.pillarMinRadius + floor (u * (rules.pillarMaxRadius - rules.pillarMinRadius))
    match findSpot arena (arena.pillars.map ofPillar) radius .pillar rules.pillarToWall
        maxAttempts g with
    | (some spot, g) =>
      raisePillars rules count (index + 1)
        { arena with pillars := arena.pillars ++ [⟨spot, radius⟩] } g
    | (none, g) => (some (.unplaced .pillar index maxAttempts), arena, g)

-- Random spots for `count` tanks, each clear of all that is placed before it.
def scatterTanks (rules : Rules R) (arena : Arena R) :
    Nat → Nat → List (Obstacle R) → G → Except (SetupFault R) (List (Point R)) × G
  | 0, _, _, g => (.ok [], g)
  | count + 1, index, placed, g =>
    match findSpot arena placed rules.tankRadius .tank ((0 : Int) : R) maxAttempts g with
    | (some spot, g) =>
      let (rest, g) :=
        scatterTanks rules arena count (index + 1) (⟨spot, rules.tankRadius, .tank⟩ :: placed) g
      (rest.map (spot :: ·), g)
    | (none, g) => (.error (.unplaced .tank index maxAttempts), g)

-- The centre of a cell of the grid.
def cellCenter (spacing : R) (row column : Nat) : Point R :=
  let half := spacing / ((2 : Int) : R)
  ⟨((column : Int) : R) * spacing + half, ((row : Int) : R) * spacing + half⟩

-- The centres of all cells that lie wholly on the field, row by row.
def cellCenters (rules : Rules R) (arena : Arena R) : List (Point R) :=
  let columns := (truncate (floor (arena.width / rules.gridSpacing))).toNat
  let rows := (truncate (floor (arena.height / rules.gridSpacing))).toNat
  (List.range rows).flatMap fun row =>
    (List.range columns).map fun column => cellCenter rules.gridSpacing row column

-- One tank to a cell, the cells in random order and none that a pillar crowds.
def gridTanks (rules : Rules R) (arena : Arena R) (count : Nat) (g : G) :
    Except (SetupFault R) (List (Point R)) × G :=
  let free := (cellCenters rules arena).filter fun center =>
    arena.pillars.all fun pillar => isClear ⟨center, rules.tankRadius, .tank⟩ (ofPillar pillar)
  if free.length < count then (.error (.unplaced .tank free.length maxAttempts), g)
  else
    let (cells, g) := Draws.shuffle free g
    (.ok (cells.take count), g)

end Placement

-- What came of placing pillars and tanks.
structure Placement (R G : Type) where
  -- The field with the pillars that found a spot.
  arena : Arena R
  -- Where the tanks stand.
  tanks : Except (SetupFault R) (List (Point R))
  -- Why the grid was needed for the tanks, if it was.
  crowded : Option (SetupFault R)
  source : G

namespace Arena

open Placement

variable {R G : Type} [Scalar R] [Draws R G]

-- Raises pillars on the cleared field, then scatters tanks over it, or puts
-- them on the grid where that fails.
def populate (arena : Arena R) (pillars tanks : Nat) (rules : Rules R) (g : G) : Placement R G :=
  match raisePillars rules pillars 0 { arena with pillars := [] } g with
  | (some fault, arena, g) => ⟨arena, .error fault, none, g⟩
  | (none, arena, g) =>
    match scatterTanks rules arena tanks 0 (arena.pillars.map ofPillar) g with
    | (.ok spots, g) => ⟨arena, .ok spots, none, g⟩
    | (.error fault, g) =>
      let (spots, g) := gridTanks rules arena tanks g
      ⟨arena, spots, some fault, g⟩

end Arena

end Skirmish
