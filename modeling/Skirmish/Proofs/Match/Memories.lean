import Skirmish.Proofs.Language.Addresses
import Skirmish.Proofs.Language.Writes
import Skirmish.Proofs.Match.Craters
import Skirmish.Proofs.Match.Failures

namespace Skirmish

variable {R G : Type}

-- Every slot holds what was last written to it, and zero if nothing was.
def Machine.Recalls [Scalar R] (writes : List (Write R)) (m : Machine R) : Prop :=
  ∀ slot : Fin memorySize, m.memory.get slot = (Write.last? slot writes).getD ((0 : Int) : R)

-- A tank whose program has not run since the tank was made from its entry.
def Tank.IsFresh [Scalar R] (tank : Tank R) : Prop :=
  ∃ id entry rules made, Tank.ofEntry id entry rules = .ok made ∧ tank.machine = made.machine

theorem Tank.memory_of_isFresh [Scalar R] {tank : Tank R} (h : tank.IsFresh) :
    tank.machine.memory = .replicate memorySize ((0 : Int) : R) := by
  obtain ⟨id, entry, rules, made, hmade, hmachine⟩ := h
  rw [hmachine]
  unfold ofEntry at hmade
  dsimp only at hmade
  split at hmade
  · contradiction
  · split at hmade
    · contradiction
    · cases hmade
      rfl

theorem Machine.recalls_applyAll [Scalar R] {m : Machine R} {writes : List (Write R)}
    (h : m.memory = Write.applyAll writes (.replicate memorySize ((0 : Int) : R))) :
    m.Recalls writes := by
  intro slot
  have hzero : (Vector.replicate memorySize ((0 : Int) : R)).get slot = ((0 : Int) : R) :=
    Vector.getElem_replicate slot.isLt
  rw [h, Write.get_applyAll, hzero]

theorem Tank.memory_runProgram [Scalar R] [Draws R G] {tank : Tank R} {program : Program R}
    (h : Program.parse tank.program = .ok program) (i : Interpreter) (g : G) :
    (tank.runProgram i g).1.machine.memory =
      Write.applyAll (((tank.rig g).load program).writes i.vocabulary i.budget)
        tank.machine.memory := by
  have hmachine : (tank.runProgram i g).1.machine =
      (i.runSource tank.program (tank.rig g)).2.machine := rfl
  rw [hmachine, runSource_of_parse h]
  exact Rig.memory_resume i.vocabulary i.budget ((tank.rig g).load program)

namespace Match

theorem inside_machine : Inside (Tank.machine : Tank R → Machine R) where
  position _ _ := rfl
  sensors _ _ := rfl
  death _ _ := rfl
  planned _ _ h := h.machine

variable [Scalar R] [Draws R G]

-- The rig in which the program of the tank on a place starts when the programs run.
-- There is none for craters and for malformed programs.
def start (m : Match R G) (k : Nat) : Option (Rig R (Cockpit R G)) :=
  let i := Tank.interpreter m.rules
  match m.tanks[k]? with
  | some tank =>
    if tank.isCrater then none
    else match Program.parse tank.program with
      | .ok program => some ((tank.rig (runPrograms i (m.tanks.take k) m.source).2).load program)
      | .error _ => none
  | none => none

-- All that the program of the tank on a place stores when the programs run.
def stored (m : Match R G) (k : Nat) : List (Write R) :=
  match m.start k with
  | some rig => rig.writes (Vocabulary.tank m.rules.teleportEnabled) m.rules.instructionBudget
  | none => []

-- All that the program of the tank on a place stores in so many ticks.
def history (m : Match R G) (k n : Nat) : List (Write R) :=
  (List.range n).flatMap fun t => (advance^[t] m).turn.atPrograms.stored k

theorem history_succ (m : Match R G) (k n : Nat) :
    m.history k (n + 1) = m.history k n ++ (advance^[n] m).turn.atPrograms.stored k := by
  unfold history
  rw [List.range_succ, List.flatMap_append, List.flatMap_singleton]

theorem memory_programmed {m : Match R G} {k : Nat} {tank : Tank R}
    (hk : m.tanks[k]? = some tank) :
    ∃ later, m.programmed.tanks[k]? = some later ∧
      later.machine.memory = Write.applyAll (m.stored k) tank.machine.memory := by
  refine ⟨_, getElem?_programmed hk, ?_⟩
  unfold stored start
  rw [hk]
  dsimp only
  cases tank.isCrater with
  | true => rfl
  | false =>
      cases hparse : (Program.parse tank.program : Except SyntaxFault (Program R)) with
      | error fault => rw [if_neg Bool.false_ne_true, Tank.runProgram_of_malformed hparse]; rfl
      | ok program =>
          rw [if_neg Bool.false_ne_true]
          exact Tank.memory_runProgram hparse _ _

-- What a program stores in a tick is all that changes its memory in the tick.
theorem memory_advance {m : Match R G} {k : Nat} {tank : Tank R} (hk : m.tanks[k]? = some tank) :
    (∀ state ∈ m.turn.opening, ∃ later, state.tanks[k]? = some later ∧
      later.machine = tank.machine) ∧
    ∀ state ∈ m.turn.closing, ∃ later, state.tanks[k]? = some later ∧
      later.machine.memory =
        Write.applyAll (m.turn.atPrograms.stored k) tank.machine.memory := by
  have hopening : ∀ state ∈ m.turn.opening, ∃ later, state.tanks[k]? = some later ∧
      later.machine = tank.machine := by
    intro state hstate
    obtain ⟨later, hlater, hkept⟩ :=
      forall₂_getElem? (inside_machine.opening m state hstate) (getElem?_recharged hk)
    exact ⟨later, hlater, hkept.trans (tank.serviced_recharge m.rules).machine⟩
  refine ⟨hopening, fun state hstate => ?_⟩
  obtain ⟨ready, hready, hmachine⟩ := hopening m.turn.atPrograms (by simp [Turn.opening])
  obtain ⟨driven, hdriven, hmemory⟩ := memory_programmed hready
  obtain ⟨later, hlater, hkept⟩ :=
    forall₂_getElem? (inside_machine.closing m state hstate) hdriven
  refine ⟨later, hlater, ?_⟩
  rw [hkept, hmemory, hmachine]

theorem memory_iterate {m : Match R G} {k : Nat} {tank : Tank R} (hk : m.tanks[k]? = some tank)
    (n : Nat) :
    ∃ later, (advance^[n] m).tanks[k]? = some later ∧
      later.machine.memory = Write.applyAll (m.history k n) tank.machine.memory := by
  induction n with
  | zero => exact ⟨tank, hk, rfl⟩
  | succ n ih =>
      obtain ⟨between, hbetween, hmemory⟩ := ih
      obtain ⟨later, hlater, hnext⟩ :=
        (memory_advance hbetween).2 (advance^[n] m).advance (by simp [Turn.closing, advance])
      rw [Function.iterate_succ_apply']
      refine ⟨later, hlater, ?_⟩
      rw [hnext, hmemory, history_succ, Write.applyAll_append]

theorem memory_of_start {m : Match R G} {k : Nat} {rig : Rig R (Cockpit R G)}
    (h : m.start k = some rig) :
    ∃ tank, m.tanks[k]? = some tank ∧ rig.machine.memory = tank.machine.memory := by
  unfold start at h
  split at h
  · rename_i tank hk
    split at h
    · contradiction
    · split at h
      · cases h
        exact ⟨tank, hk, rfl⟩
      · contradiction
  · contradiction

-- Between two ticks, and up to the programs of the next one.
theorem memory_opening {m : Match R G} {k : Nat} {tank : Tank R} (hk : m.tanks[k]? = some tank)
    (n : Nat) :
    ∀ state ∈ advance^[n] m :: (advance^[n] m).turn.opening, ∃ later,
      state.tanks[k]? = some later ∧
        later.machine.memory = Write.applyAll (m.history k n) tank.machine.memory := by
  obtain ⟨between, hbetween, hmemory⟩ := memory_iterate hk n
  rw [List.forall_mem_cons]
  refine ⟨⟨between, hbetween, hmemory⟩, fun state hstate => ?_⟩
  obtain ⟨later, hlater, hmachine⟩ := (memory_advance hbetween).1 state hstate
  exact ⟨later, hlater, hmachine ▸ hmemory⟩

-- In the middle of a run.
theorem memory_reached {m : Match R G} {k : Nat} {tank : Tank R} (hk : m.tanks[k]? = some tank)
    {n : Nat} {start : Rig R (Cockpit R G)}
    (hstart : (advance^[n] m).turn.atPrograms.start k = some start) {v : Vocabulary} {steps : Nat}
    {reached : Rig R (Cockpit R G)} (h : Rig.Steps v steps start reached) :
    reached.machine.memory =
      Write.applyAll (m.history k n ++ start.writes v steps) tank.machine.memory := by
  obtain ⟨ready, hready, hsame⟩ := memory_of_start hstart
  obtain ⟨other, hother, hmemory⟩ := memory_opening hk n (advance^[n] m).turn.atPrograms
    (List.mem_cons_of_mem _ (by simp [Turn.opening]))
  rw [hready] at hother
  cases hother
  rw [h.memory, hsame, hmemory, Write.applyAll_append]

-- From the programs to the end of a tick.
theorem memory_closing {m : Match R G} {k : Nat} {tank : Tank R} (hk : m.tanks[k]? = some tank)
    (n : Nat) :
    ∀ state ∈ (advance^[n] m).turn.closing, ∃ later, state.tanks[k]? = some later ∧
      later.machine.memory = Write.applyAll (m.history k (n + 1)) tank.machine.memory := by
  intro state hstate
  obtain ⟨between, hbetween, hmemory⟩ := memory_iterate hk n
  obtain ⟨later, hlater, hstored⟩ := (memory_advance hbetween).2 state hstate
  refine ⟨later, hlater, ?_⟩
  rw [hstored, hmemory, history_succ, Write.applyAll_append]

-- A slot of the memory holds what the program of its tank last stored in it, in whatever
-- tick that was. Every number other than those of the slots is refused as an address.
theorem memory_is_last_stored [Draws Float G] (m : Match Float G) {k : Nat} {tank : Tank Float}
    (hk : m.tanks[k]? = some tank) (hfresh : tank.IsFresh) :
    (∀ n, ∀ state ∈ advance^[n] m :: (advance^[n] m).turn.opening,
      ∃ later, state.tanks[k]? = some later ∧ later.machine.Recalls (m.history k n)) ∧
    (∀ n start, (advance^[n] m).turn.atPrograms.start k = some start → ∀ steps reached,
      Rig.Steps (.tank m.rules.teleportEnabled) steps start reached →
        reached.machine.Recalls
          (m.history k n ++ start.writes (.tank m.rules.teleportEnabled) steps)) ∧
    (∀ n, ∀ state ∈ (advance^[n] m).turn.closing,
      ∃ later, state.tanks[k]? = some later ∧ later.machine.Recalls (m.history k (n + 1))) ∧
    (∀ (rig : Rig Float (Cockpit Float G)) (address value : Float) below,
      rig.machine.stack.items = .number address :: .number value :: below →
        (∀ slot : Fin memorySize, (address == Float.ofNat slot) = true →
          Operation.store.perform rig = .ok () { rig with machine := { rig.machine with
            stack := ⟨below, rig.machine.stack.room + 2⟩
            memory := rig.machine.memory.set slot value slot.isLt } }) ∧
        ((∀ slot : Fin memorySize, (address == Float.ofNat slot) = false) →
          Operation.store.perform rig = .error (.invalidAddress address)
            (rig.holding ⟨below, rig.machine.stack.room + 2⟩))) ∧
    (∀ (rig : Rig Float (Cockpit Float G)) (address : Float) below,
      rig.machine.stack.items = .number address :: below →
        (∀ slot : Fin memorySize, (address == Float.ofNat slot) = true →
          Operation.fetch.perform rig = .ok ()
            (rig.holding ⟨.number (rig.machine.memory.get slot) :: below, rig.machine.stack.room⟩)) ∧
        ((∀ slot : Fin memorySize, (address == Float.ofNat slot) = false) →
          Operation.fetch.perform rig = .error (.invalidAddress address)
            (rig.holding ⟨below, rig.machine.stack.room + 1⟩))) ∧
    ∀ (rig : Rig Float (Cockpit Float G)) fault,
      (Stack.operands 2 rig.machine.stack.items = .error fault →
        ∃ stack, Operation.store.perform rig = .error fault (rig.holding stack)) ∧
      (Stack.operands 1 rig.machine.stack.items = .error fault →
        ∃ stack, Operation.fetch.perform rig = .error fault (rig.holding stack)) := by
  have hrecalls : ∀ {machine : Machine Float} {writes : List (Write Float)},
      machine.memory = Write.applyAll writes tank.machine.memory → machine.Recalls writes := by
    rw [Tank.memory_of_isFresh hfresh]
    exact Machine.recalls_applyAll
  refine ⟨fun n state hstate => ?_, fun n start hstart steps reached hsteps => ?_,
    fun n state hstate => ?_, fun rig address value below hitems => ⟨fun slot haddress => ?_,
      fun hnone => ?_⟩, fun rig address below hitems => ⟨fun slot haddress => ?_, fun hnone => ?_⟩,
    fun rig fault => ⟨Operation.perform_store_of_operands, Operation.perform_fetch_of_operands⟩⟩
  · obtain ⟨later, hlater, hmemory⟩ := memory_opening hk n state hstate
    exact ⟨later, hlater, hrecalls hmemory⟩
  · exact hrecalls (memory_reached hk hstart hsteps)
  · obtain ⟨later, hlater, hmemory⟩ := memory_closing hk n state hstate
    exact ⟨later, hlater, hrecalls hmemory⟩
  · rw [Operation.perform_store hitems, Machine.slot?_eq_some_iff_beq.mpr haddress]
  · rw [Operation.perform_store hitems, Machine.slot?_eq_none hnone]
  · rw [Operation.perform_fetch hitems, Machine.slot?_eq_some_iff_beq.mpr haddress]
  · rw [Operation.perform_fetch hitems, Machine.slot?_eq_none hnone]

-- Counts its ticks in the first slot of its memory and then asks for one that there is not.
def clerk : Tank Float :=
  let entry : Entry Float :=
    { name := "Clerk", path := "", program := "0 mget 1 + 0 mset 7 10 mset", sensors := [] }
  (Tank.ofEntry 0 entry Rules.standard).toOption.get rfl

def office : Match Float Generator where
  arena := .sizedFor 1 (Float.ofNat 160)
  tanks := [clerk]
  rules := Rules.standard
  tick := 0
  source := .ofSeed 1

theorem memory_is_last_stored_office : office.tanks[0]? = some clerk ∧ clerk.IsFresh ∧
    ((advance^[1] office).turn.atPrograms.mishap 0).isSome = true ∧
    ∃ later, (advance^[2] office).tanks[0]? = some later ∧
      later.machine.memory.get ⟨0, by decide⟩ = Float.ofNat 2 := by
  have hmade : Tank.ofEntry 0 ⟨"Clerk", "", "0 mget 1 + 0 mset 7 10 mset", []⟩ Rules.standard =
      .ok clerk := rfl
  have hfresh : clerk.IsFresh := ⟨0, _, _, clerk, hmade, rfl⟩
  have hfails : ((advance^[1] office).turn.atPrograms.mishap 0).isSome = true := by decide +kernel
  have hlast : Write.last? ⟨0, by decide⟩ (office.history 0 2) = some (Float.ofNat 2) := by
    decide +kernel
  obtain ⟨later, hlater, hrecalls⟩ :=
    (memory_is_last_stored office (k := 0) rfl hfresh).1 2 _ List.mem_cons_self
  refine ⟨rfl, hfresh, hfails, later, hlater, ?_⟩
  rw [hrecalls, hlast, Option.getD_some]

end Match

end Skirmish
