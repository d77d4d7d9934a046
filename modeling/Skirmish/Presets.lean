import Skirmish.Tank

namespace Skirmish.Presets

-- Where the built-in tanks come from.
def nowhere : String := "NA"

-- Drives in random arcs, turns its turret at random and fires at random.
def berzerker {R : Type} : Entry R where
  name := "Berzerker"
  path := nowhere
  program :=
    "2 random 0 = \x7b 50 100 set-speed! \x7d \x7b 100 50 set-speed! \x7d ifelse  " ++
      "4 random 0 = \x7b 360 random  set-turret! \x7d if  " ++
      "30 random 0 = \x7b fire! \x7d if"
  sensors := []

-- Sweeps its turret, drives at fixed speeds, shoots at what a narrow sensor on
-- the turret sees and turns away from what a wide one on the hull sees.
def tweedledum {R : Type} [Scalar R] (name : String) (left right : Int) : Entry R where
  name
  path := nowhere
  program :=
    "get-turret 12 + set-turret! " ++ toString left ++ " " ++ toString right ++ " set-speed! " ++
      "0 sensor? \x7b fire! \x7d if 1 sensor? \x7b -50 50 set-speed! \x7d if"
  sensors :=
    [⟨((50 : Int) : R), ((0 : Int) : R), ((7 : Int) : R), true⟩,
      ⟨((50 : Int) : R), ((0 : Int) : R), ((90 : Int) : R), false⟩]

def tweedledums {R : Type} [Scalar R] : List (Entry R) :=
  [tweedledum "Tweedledum" 60 50, tweedledum "Tweedledummer" (-80) (-70),
    tweedledum "Tweedledummerer" 20 30, tweedledum "Tweedledummerest" 40 35]

end Skirmish.Presets
