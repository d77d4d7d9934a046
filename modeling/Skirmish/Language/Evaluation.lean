import Skirmish.Language.Execution
import Skirmish.Language.Parser

namespace Skirmish.Interpreter

variable {R B : Type} [Scalar R] [Body R B]

def stackLimit : Nat := 1024

-- Parses a source and runs it. A malformed one leaves everything as it was.
def runSource (i : Interpreter) (source : String) (rig : Rig R B) :
    Option (ProgramFault R) × Rig R B :=
  match Program.parse source with
  | .ok program => i.run program rig
  | .error fault => (some (.malformed fault), rig)

-- The data stack that a source leaves, bottom first, run without a body.
def evaluate (i : Interpreter) (source : String) : Except (ProgramFault R) (List (Value R)) :=
  match i.runSource source (⟨.fresh stackLimit, .bodiless⟩ : Rig R Bodiless) with
  | (none, rig) => .ok rig.machine.stack.items.reverse
  | (some fault, _) => .error fault

end Skirmish.Interpreter
