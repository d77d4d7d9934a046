import Skirmish.Proofs.Language.Steps
import Skirmish.Tank

namespace Skirmish

open Rig

variable {R B : Type} [Scalar R] [Body R B]

-- A run that is stopped at an instruction has executed all before it, and has done
-- nothing to the memory and the body since.
theorem Interpreter.steps_of_stopped {i : Interpreter} {program : Program R} {rig : Rig R B}
    {fault : Fault R} {p : Nat} (h : (i.run program rig).1 = some (.stopped fault p)) :
    ∃ between, Steps i.vocabulary p (rig.load program) between ∧
      (i.run program rig).2.machine.memory = between.machine.memory ∧
      (i.run program rig).2.body = between.body := by
  obtain ⟨n, between, -, hsteps, hends⟩ := i.ends_run program rig
  have hexecuted := hsteps.executed_of_load
  generalize i.run program rig = ending at h hends
  cases hends with
  | finished => contradiction
  | exhausted =>
      cases h
      rw [hexecuted]
      exact ⟨between, hsteps, rfl, rfl⟩
  | faulted hcommands _ hstep =>
      cases h
      rw [hexecuted]
      have hpopped := (popped_of_step hcommands hstep).1
      exact ⟨between, hsteps, hpopped.memory, hpopped.body⟩

-- An operation that faults has only popped. So a run that is stopped leaves the memory
-- and the body as the instructions before have left them.
theorem Interpreter.faults_only_pop (i : Interpreter) (program : Program R) (rig : Rig R B) :
    (∀ (operation : Operation) (before after : Rig R B) (fault : Fault R),
      operation.perform before = .error fault after → before.Popped after) ∧
    ∀ (fault : Fault R) (p : Nat), (i.run program rig).1 = some (.stopped fault p) →
      (∃ between, Steps i.vocabulary p (rig.load program) between) ∧
      ∀ between, Steps i.vocabulary p (rig.load program) between →
        (i.run program rig).2.machine.memory = between.machine.memory ∧
          (i.run program rig).2.body = between.body := by
  constructor
  · intro operation before after fault h
    exact (operation.faultsCleanly_perform before fault after h).1
  · intro fault p h
    obtain ⟨between, hsteps, hleft⟩ := steps_of_stopped h
    refine ⟨⟨between, hsteps⟩, fun other hother => ?_⟩
    rw [hsteps.unique hother]
    exact hleft

-- Fires and then takes a block for the state of the light.
def jam : Program Float := [.word "fire!", .block [], .word "set-led!"]

def armed : Rig Float (Cockpit Float Generator) :=
  let entry : Entry Float := { name := "Jam", path := "", program := "", sensors := [] }
  let tank : Tank Float := (Tank.ofEntry 0 entry Rules.standard).toOption.get rfl
  ⟨tank.machine, tank, .ofSeed 1⟩

theorem jam_armed :
    (Interpreter.run ⟨.tank false, 100⟩ jam armed).1 = some (.stopped (.typeMismatch .number) 2) ∧
    ∃ between, Steps (.tank false) 2 (armed.load jam) between ∧
      between.body.tank.turret.firing = true := by
  have hfault : (Interpreter.run ⟨.tank false, 100⟩ jam armed).1 =
      some (.stopped (.typeMismatch .number) 2) := rfl
  have hfires : (Interpreter.run ⟨.tank false, 100⟩ jam armed).2.body.tank.turret.firing = true :=
    rfl
  obtain ⟨⟨between, hsteps⟩, hsame⟩ :=
    (Interpreter.faults_only_pop ⟨.tank false, 100⟩ jam armed).2 _ _ hfault
  rw [(hsame between hsteps).2] at hfires
  exact ⟨hfault, between, hsteps, hfires⟩

end Skirmish
