import Skirmish.Geometry.Point
import Skirmish.Random

namespace Skirmish

-- A round obstacle that stays where it is.
structure Pillar (R : Type) where
  position : Point R
  radius : R

-- The field, which wraps around at its edges, with the pillars on it.
structure Arena (R : Type) where
  width : R
  height : R
  pillars : List (Pillar R)

namespace Arena

variable {R : Type} [Scalar R]

-- The least number of columns from `columns` on that make a square large enough.
def columnsFrom (objects columns : Nat) : Nat :=
  if columns * columns < objects then columnsFrom objects (columns + 1) else columns
termination_by objects - columns
decreasing_by
  have := Nat.le_mul_self columns
  omega

def columns (objects : Nat) : Nat := columnsFrom (max objects 1) 1

def rows (objects : Nat) : Nat := (max objects 1 + columns objects - 1) / columns objects

-- A field without pillars that is just large enough to give every object a
-- square cell, as near to a square as cells allow.
def sizedFor (objects : Nat) (spacing : R) : Arena R where
  width := ((columns objects : Int) : R) * spacing
  height := ((rows objects : Int) : R) * spacing
  pillars := []

-- The point of the field that a point stands for.
def wrap (arena : Arena R) (p : Point R) : Point R :=
  ⟨Scalar.modulo p.x arena.width, Scalar.modulo p.y arena.height⟩

-- The difference of two coordinates the short way round.
def shortWay (size delta : R) : R :=
  let half := size / ((2 : Int) : R)
  if half < delta then delta - size else if delta < -half then delta + size else delta

-- The shortest way from one point to another.
def displacement (arena : Arena R) (start finish : Point R) : Point R :=
  ⟨shortWay arena.width (finish.x - start.x), shortWay arena.height (finish.y - start.y)⟩

-- Any whole-numbered point of the field.
def randomPoint {G : Type} [Draws R G] (arena : Arena R) (g : G) : Point R × G :=
  let (u, g) := Draws.unit g
  let (v, g) := Draws.unit g
  (⟨Scalar.floor (u * arena.width), Scalar.floor (v * arena.height)⟩, g)

end Arena

end Skirmish
