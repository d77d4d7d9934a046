import Skirmish.Scalar

namespace Skirmish

-- A position on the field or a displacement.
structure Point (R : Type) where
  x : R
  y : R

namespace Point

variable {R : Type} [Scalar R]

def origin : Point R := ⟨((0 : Int) : R), ((0 : Int) : R)⟩

instance : Add (Point R) := ⟨fun p q => ⟨p.x + q.x, p.y + q.y⟩⟩

instance : Sub (Point R) := ⟨fun p q => ⟨p.x - q.x, p.y - q.y⟩⟩

instance : Neg (Point R) := ⟨fun p => ⟨-p.x, -p.y⟩⟩

def lengthSq (p : Point R) : R := p.x * p.x + p.y * p.y

def distanceSq (p q : Point R) : R := (p - q).lengthSq

-- The point turned about the origin.
def rotate (angle : R) (p : Point R) : Point R :=
  let s := Scalar.sin angle
  let c := Scalar.cos angle
  ⟨p.x * c - p.y * s, p.x * s + p.y * c⟩

end Point

end Skirmish
