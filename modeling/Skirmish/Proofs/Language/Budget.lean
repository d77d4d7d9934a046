import Skirmish.Proofs.Language.Steps

namespace Skirmish.Interpreter

open Rig

variable {R B : Type} [Scalar R] [Body R B] {i : Interpreter} {program : Program R}
  {rig between : Rig R B} {n : Nat}

-- Commands remain when the budget of a run is used up.
def RunsOut (i : Interpreter) (program : Program R) (rig : Rig R B) : Prop :=
  ∃ p, (i.run program rig).1 = some (.stopped (.exhausted .instructions) p)

theorem run_of_steps (h : Steps i.vocabulary n (rig.load program) between) {left : Nat}
    (hbudget : i.budget = n + left) : i.run program rig = Rig.resume i.vocabulary left between := by
  rw [← h.resume left, ← hbudget]
  rfl

theorem runsOut_iff :
    i.RunsOut program rig ↔ ∃ between, Steps i.vocabulary i.budget (rig.load program) between ∧
      between.machine.commands ≠ [] := by
  constructor
  · rintro ⟨p, hp⟩
    obtain ⟨n, between, hn, hsteps, hends⟩ := i.ends_run program rig
    generalize i.run program rig = ending at hp hends
    cases hends with
    | finished => contradiction
    | exhausted hcommands hbudget =>
        rw [hsteps.executed_of_load] at hbudget
        have hall : n = i.budget := Nat.le_antisymm hn hbudget
        subst hall
        exact ⟨between, hsteps, hcommands⟩
    | faulted hcommands _ hstep =>
        cases hp
        exact absurd rfl (popped_of_step hcommands hstep).2
  · rintro ⟨between, hsteps, hcommands⟩
    obtain ⟨value, rest, h⟩ := List.exists_cons_of_ne_nil hcommands
    refine ⟨between.machine.executed, ?_⟩
    rw [run_of_steps hsteps (Nat.add_zero _).symm, resume.eq_2 _ _ value rest h]

-- A run that does not run out needs no larger budget.
theorem run_of_larger_budget (h : ¬ i.RunsOut program rig) {budget : Nat}
    (hbudget : i.budget ≤ budget) :
    ({ i with budget } : Interpreter).run program rig = i.run program rig := by
  obtain ⟨n, between, hn, hsteps, hends⟩ := i.ends_run program rig
  have hsame : ({ i with budget } : Interpreter).run program rig =
      Rig.resume i.vocabulary (budget - n) between :=
    run_of_steps (i := { i with budget }) hsteps (Nat.add_sub_of_le (Nat.le_trans hn hbudget)).symm
  rw [hsame]
  generalize hrun : i.run program rig = ending at hends
  cases hends with
  | finished hcommands =>
      unfold Rig.resume
      rw [hcommands]
  | exhausted =>
      apply absurd _ h
      exact ⟨between.machine.executed, by rw [hrun]⟩
  | faulted hcommands hleft hstep =>
      rw [hsteps.executed_of_load] at hleft
      obtain ⟨left, hsome⟩ : ∃ left, budget - n = left + 1 := ⟨budget - n - 1, by omega⟩
      rw [hsome, resume_next _ left hcommands, hstep]

theorem executed_le (h : i.Reaches program rig between) : between.machine.executed ≤ i.budget := by
  rcases h with ⟨n, hn, hsteps⟩ | rfl
  · rw [hsteps.executed_of_load]
    exact hn
  · obtain ⟨n, last, hn, hsteps, hends⟩ := i.ends_run program rig
    have hexecuted := hsteps.executed_of_load
    generalize i.run program rig = ending at hends
    cases hends with
    | finished | exhausted =>
        dsimp only
        omega
    | faulted hcommands hleft hstep =>
        rw [(popped_of_step hcommands hstep).1.executed]
        exact hleft

-- How a run that fails has used its budget.
theorem executed_of_failure {failure : ProgramFault R}
    (h : (i.run program rig).1 = some failure) :
    ∃ fault p, failure = .stopped fault p ∧
      (fault ≠ .exhausted .instructions →
        (i.run program rig).2.machine.executed = p + 1 ∧ p + 1 ≤ i.budget) ∧
      (fault = .exhausted .instructions →
        (i.run program rig).2.machine.executed = p ∧ p = i.budget) := by
  obtain ⟨n, between, hn, hsteps, hends⟩ := i.ends_run program rig
  have hexecuted := hsteps.executed_of_load
  generalize i.run program rig = ending at h hends
  cases hends with
  | finished => contradiction
  | exhausted _ hbudget =>
      cases h
      exact ⟨_, _, rfl, fun hne => absurd rfl hne, fun _ => ⟨rfl, by omega⟩⟩
  | faulted hcommands hleft hstep =>
      cases h
      obtain ⟨hpopped, hne⟩ := popped_of_step hcommands hstep
      exact ⟨_, _, rfl, fun _ => ⟨hpopped.executed, hleft⟩, fun heq => absurd heq hne⟩

theorem commands_of_success (h : (i.run program rig).1 = none) :
    (i.run program rig).2.machine.commands = [] := by
  obtain ⟨n, between, -, -, hends⟩ := i.ends_run program rig
  generalize i.run program rig = ending at h hends
  cases hends with
  | finished hcommands => exact hcommands
  | exhausted => contradiction
  | faulted => contradiction

-- A run is a number of steps within its budget, and an end. It runs out exactly if the
-- whole budget is spent on steps and commands remain, and is not changed by a larger
-- budget otherwise.
theorem run_within_budget (i : Interpreter) (program : Program R) (rig : Rig R B) :
    (∃ n between, n ≤ i.budget ∧ Steps i.vocabulary n (rig.load program) between ∧
      i.Ends between (i.run program rig)) ∧
    (∀ reached, i.Reaches program rig reached → reached.machine.executed ≤ i.budget) ∧
    ((i.run program rig).1 = none → (i.run program rig).2.machine.commands = []) ∧
    (∀ failure, (i.run program rig).1 = some failure → ∃ fault p, failure = .stopped fault p ∧
      (fault ≠ .exhausted .instructions →
        (i.run program rig).2.machine.executed = p + 1 ∧ p + 1 ≤ i.budget) ∧
      (fault = .exhausted .instructions →
        (i.run program rig).2.machine.executed = p ∧ p = i.budget)) ∧
    (i.RunsOut program rig ↔ ∃ between,
      Steps i.vocabulary i.budget (rig.load program) between ∧ between.machine.commands ≠ []) ∧
    (∀ budget, i.budget ≤ budget → ¬ i.RunsOut program rig →
      ({ i with budget } : Interpreter).run program rig = i.run program rig) :=
  ⟨i.ends_run program rig, fun _ => executed_le, commands_of_success,
    fun _ => executed_of_failure, runsOut_iff, fun _ hbudget h => run_of_larger_budget h hbudget⟩

end Skirmish.Interpreter
