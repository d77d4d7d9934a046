import Skirmish.Proofs.Language.Steps
import Skirmish.Proofs.Tank.Changes

namespace Skirmish.Tank

open Effect

variable {R G : Type} [Scalar R] [Draws R G]

-- The last failure is nothing that a program can order.
theorem steady_failure (failure : Option (ProgramFault R)) :
    Steady R fun c : Cockpit R G => c.tank.failure = failure where
  order _ horder _ h := by
    cases horder <;> exact h
  draw _ _ h := h

theorem failure_runProgram (i : Interpreter) (g : G) (tank : Tank R) :
    (tank.runProgram i g).1.failure =
      ((i.runSource tank.program (tank.rig g)).1 <|> tank.failure) := by
  have hkept : (i.runSource tank.program (tank.rig g)).2.body.tank.failure = tank.failure :=
    i.runSource_keeps (steady_failure tank.failure) tank.program (tank.rig g) rfl
  rw [← hkept]
  rfl

-- A malformed program only leaves its failure behind.
theorem runProgram_of_malformed {tank : Tank R} {fault : SyntaxFault}
    (h : (Program.parse tank.program : Except SyntaxFault (Program R)) = .error fault)
    (i : Interpreter) (g : G) :
    tank.runProgram i g = ({ tank with failure := some (.malformed fault) }, g) := by
  have hrun : i.runSource tank.program (tank.rig g) = (some (.malformed fault), tank.rig g) := by
    unfold Interpreter.runSource
    rw [h]
  unfold rig at hrun
  dsimp only [runProgram]
  rw [hrun]
  rfl

theorem runSource_of_parse {tank : Tank R} {program : Program R}
    (h : Program.parse tank.program = .ok program) (i : Interpreter) (g : G) :
    i.runSource tank.program (tank.rig g) = i.run program (tank.rig g) := by
  unfold Interpreter.runSource
  rw [h]

theorem limit_runProgram (i : Interpreter) (g : G) (tank : Tank R) :
    (tank.runProgram i g).1.machine.stack.limit = tank.machine.stack.limit := by
  cases h : (Program.parse tank.program : Except SyntaxFault (Program R)) with
  | error fault => rw [runProgram_of_malformed h]
  | ok program =>
      have hmachine : (tank.runProgram i g).1.machine =
          (i.runSource tank.program (tank.rig g)).2.machine := rfl
      rw [hmachine, runSource_of_parse h]
      exact Interpreter.limit_of_reaches (.inr rfl)

end Skirmish.Tank
