import Skirmish.Proofs.Language.Conduct
import Skirmish.Proofs.Language.Operands

namespace Skirmish

variable {R B : Type}

namespace Stack

theorem limit_clear (s : Stack R) : s.clear.limit = s.limit := Nat.zero_add _

theorem limit_push {s after : Stack R} {v : Value R} (h : s.push v = .ok after) :
    after.limit = s.limit := by
  unfold push at h
  split at h
  · contradiction
  · rename_i room hroom
    cases h
    unfold limit size
    rw [hroom, List.length_cons, Nat.succ_add_eq_add_succ]

theorem limit_duplicate {s after : Stack R} (h : s.duplicate = .ok after) :
    after.limit = s.limit := by
  unfold duplicate at h
  split at h
  · contradiction
  · exact limit_push h

theorem limit_exchange {s after : Stack R} (h : s.exchange = .ok after) :
    after.limit = s.limit := by
  unfold exchange at h
  split at h
  · rename_i hitems
    cases h
    unfold limit size
    rw [hitems]
    rfl
  · contradiction

end Stack

namespace Effect

variable {α β : Type}

-- An effect that leaves alone what bounds a run: how many values have been executed
-- and how many the stack takes.
def KeepsBounds (e : Effect R B α) : Prop := ∀ rig,
  (e.leaves rig).machine.executed = rig.machine.executed ∧
    (e.leaves rig).machine.stack.limit = rig.machine.stack.limit

theorem keepsBounds_of_eq {e : Effect R B α}
    (he : ∀ rig, (e.leaves rig).machine.executed = rig.machine.executed ∧
      (e.leaves rig).machine.stack = rig.machine.stack) : KeepsBounds e :=
  fun rig => ⟨(he rig).1, congrArg Stack.limit (he rig).2⟩

theorem leaves_of_eq_ok {e : Effect R B α} {rig after : Rig R B} {a : α} (h : e rig = .ok a after) :
    e.leaves rig = after := by
  unfold leaves
  rw [h]

theorem leaves_of_eq_error {e : Effect R B α} {rig after : Rig R B} {fault : Fault R}
    (h : e rig = .error fault after) : e.leaves rig = after := by
  unfold leaves
  rw [h]

theorem KeepsBounds.bind {e : Effect R B α} {f : α → Effect R B β} (he : KeepsBounds e)
    (hf : ∀ a, KeepsBounds (f a)) : KeepsBounds (e >>= f) := by
  intro rig
  have hfirst := he rig
  cases hr : (e >>= f) rig with
  | ok b after =>
      obtain ⟨a, between, hok, hnext⟩ := of_bind_eq_ok hr
      rw [leaves_of_eq_ok hok] at hfirst
      rw [leaves_of_eq_ok hr, ← leaves_of_eq_ok hnext]
      exact ⟨(hf a between).1.trans hfirst.1, (hf a between).2.trans hfirst.2⟩
  | error fault after =>
      rw [leaves_of_eq_error hr]
      rcases of_bind_eq_error hr with hfault | ⟨a, between, hok, hnext⟩
      · rw [leaves_of_eq_error hfault] at hfirst
        exact hfirst
      · rw [leaves_of_eq_ok hok] at hfirst
        rw [← leaves_of_eq_error hnext]
        exact ⟨(hf a between).1.trans hfirst.1, (hf a between).2.trans hfirst.2⟩

theorem keepsBounds_onStack {f : Stack R → Except StackFault (α × Stack R)}
    (hf : ∀ {s a after}, f s = .ok (a, after) → after.limit = s.limit) :
    KeepsBounds (onStack f : Effect R B α) := by
  intro rig
  unfold leaves onStack
  cases h : f rig.machine.stack with
  | ok result => exact ⟨rfl, hf h⟩
  | error fault => exact ⟨rfl, rfl⟩

-- The same for what only changes the stack.
theorem keepsBounds_onStack_map {f : Stack R → Except StackFault (Stack R)}
    (hf : ∀ {s after}, f s = .ok after → after.limit = s.limit) :
    KeepsBounds (onStack fun s => (f s).map ((), ·) : Effect R B Unit) := by
  refine keepsBounds_onStack fun {s a after} h => ?_
  cases hs : f s with
  | ok stack =>
      rw [hs] at h
      cases h
      exact hf hs
  | error fault =>
      rw [hs] at h
      contradiction

theorem keepsBounds_push (v : Value R) : KeepsBounds (push v : Effect R B Unit) :=
  keepsBounds_onStack_map Stack.limit_push

variable [Scalar R]

theorem keepsBounds_store (address value : R) :
    KeepsBounds (store address value : Effect R B Unit) := by
  apply keepsBounds_of_eq
  intro rig
  simp only [leaves, store_apply, Machine.store]
  cases Machine.slot? address <;> exact ⟨rfl, rfl⟩

theorem keepsBounds_fetch (address : R) : KeepsBounds (fetch address : Effect R B Unit) := by
  intro rig
  simp only [leaves, fetch_apply]
  cases rig.machine.fetch address with
  | ok value => exact keepsBounds_push (.number value) rig
  | error fault => exact ⟨rfl, rfl⟩

variable [Body R B]

theorem closed_keepsBounds : Closed (R := R) (B := B) KeepsBounds where
  value _ := fun _ => ⟨rfl, rfl⟩
  fault _ := fun _ => ⟨rfl, rfl⟩
  bind := KeepsBounds.bind
  pop := keepsBounds_onStack Stack.limit_of_pop
  push n := keepsBounds_push (.number n)
  duplicate := keepsBounds_onStack_map Stack.limit_duplicate
  exchange := keepsBounds_onStack_map Stack.limit_exchange
  store := keepsBounds_store
  fetch := keepsBounds_fetch
  report _ := fun _ => ⟨rfl, rfl⟩
  ask _ := fun _ => ⟨rfl, rfl⟩
  tell _ _ := fun _ => ⟨rfl, rfl⟩
  draw bound := fun rig => by
    obtain ⟨n, body, hdraw⟩ := exists_drawBelow bound rig
    rw [leaves_of_eq_ok hdraw]
    exact ⟨rfl, rfl⟩

end Effect

namespace Rig

open Effect

variable [Scalar R] [Body R B]

theorem keepsBounds_execute (v : Vocabulary) (value : Value R) :
    KeepsBounds (execute v value : Effect R B Unit) :=
  closed_execute closed_keepsBounds keepsBounds_push (fun _ _ => ⟨rfl, rfl⟩) v value

-- The rig in which a run of a program starts.
def load (program : Program R) (rig : Rig R B) : Rig R B :=
  { rig with machine := rig.machine.load program }

-- A rig about to execute the command it has taken, where so many are left.
def taking (rest : List (Value R)) (rig : Rig R B) : Rig R B :=
  { rig with machine := { rig.machine with commands := rest, executed := rig.machine.executed + 1 } }

theorem execute_word {v : Vocabulary} {name : String} {operation : Operation}
    (h : v.lookup name = some operation) :
    (execute v (.word name) : Effect R B Unit) = operation.perform := by
  unfold execute
  dsimp only
  rw [h]

theorem execute_unbound {v : Vocabulary} {name : String} (h : v.lookup name = none) :
    (execute v (.word name) : Effect R B Unit) = throw (.unknownWord name) := by
  unfold execute
  dsimp only
  rw [h]

theorem step_of_commands (v : Vocabulary) {rig : Rig R B} {value : Value R} {rest : List (Value R)}
    (h : rig.machine.commands = value :: rest) : step v rig = execute v value (rig.taking rest) := by
  unfold step
  rw [h]
  rfl

-- What a step does when a command is left, whether it faults or not.
theorem leaves_step (v : Vocabulary) {rig : Rig R B} {value : Value R} {rest : List (Value R)}
    (h : rig.machine.commands = value :: rest) :
    (step v).leaves rig = (execute v value).leaves (rig.taking rest) := by
  unfold leaves
  rw [step_of_commands v h]

-- A step counts whether it faults or not.
theorem executed_leaves_step (v : Vocabulary) {rig : Rig R B} (hcommands : rig.machine.commands ≠ []) :
    ((step v).leaves rig).machine.executed = rig.machine.executed + 1 := by
  obtain ⟨value, rest, h⟩ := List.exists_cons_of_ne_nil hcommands
  rw [leaves_step v h]
  exact (keepsBounds_execute v value (rig.taking rest)).1

theorem executed_step {v : Vocabulary} {rig after : Rig R B} (hcommands : rig.machine.commands ≠ [])
    (hstep : step v rig = .ok () after) : after.machine.executed = rig.machine.executed + 1 := by
  rw [← leaves_of_eq_ok hstep]
  exact executed_leaves_step v hcommands

-- A fault of a step leaves behind that a command has been taken and values have been
-- popped.
theorem popped_of_step {v : Vocabulary} {rig after : Rig R B} {fault : Fault R}
    (hcommands : rig.machine.commands ≠ []) (hstep : step v rig = .error fault after) :
    (rig.taking rig.machine.commands.tail).Popped after ∧ fault ≠ .exhausted .instructions := by
  obtain ⟨value, rest, h⟩ := List.exists_cons_of_ne_nil hcommands
  rw [step_of_commands v h] at hstep
  rw [h]
  exact faultsCleanly_execute v value _ fault after hstep

-- So many commands are executed, one after the other, and none of them faults.
inductive Steps (v : Vocabulary) : Nat → Rig R B → Rig R B → Prop
  | refl (rig : Rig R B) : Steps v 0 rig rig
  | next {n : Nat} {rig between after : Rig R B} (hcommands : rig.machine.commands ≠ [])
      (hstep : step v rig = .ok () between) (hrest : Steps v n between after) :
      Steps v (n + 1) rig after

theorem resume_next (v : Vocabulary) (left : Nat) {rig : Rig R B}
    (hcommands : rig.machine.commands ≠ []) :
    resume v (left + 1) rig =
      match step v rig with
      | .ok _ after => resume v left after
      | .error fault after => (some (.stopped fault rig.machine.executed), after) := by
  obtain ⟨value, rest, h⟩ := List.exists_cons_of_ne_nil hcommands
  exact resume.eq_3 v rig left value rest h

namespace Steps

variable {v : Vocabulary} {n : Nat} {rig after : Rig R B}

theorem executed (h : Steps v n rig after) :
    after.machine.executed = rig.machine.executed + n := by
  induction h with
  | refl rig => rfl
  | next hcommands hstep _ ih =>
      rw [ih, executed_step hcommands hstep]
      omega

theorem executed_of_load {program : Program R} (h : Steps v n (rig.load program) after) :
    after.machine.executed = n :=
  h.executed.trans (Nat.zero_add n)

theorem unique {other : Rig R B} (h : Steps v n rig after) (h' : Steps v n rig other) :
    other = after := by
  induction h with
  | refl rig =>
      cases h'
      rfl
  | next _ hstep _ ih =>
      cases h' with
      | next _ hstep' hrest' =>
          rw [hstep] at hstep'
          cases hstep'
          exact ih hrest'

theorem single (hcommands : rig.machine.commands ≠ []) (hstep : step v rig = .ok () after) :
    Steps v 1 rig after :=
  .next hcommands hstep (.refl after)

theorem trans {m : Nat} {between : Rig R B} (h : Steps v n rig between)
    (h' : Steps v m between after) : Steps v (n + m) rig after := by
  induction h with
  | refl rig =>
      rw [Nat.zero_add]
      exact h'
  | next hcommands hstep _ ih =>
      rw [Nat.add_right_comm]
      exact .next hcommands hstep (ih h')

-- After some steps a run goes on with what they have left of its budget.
theorem resume (h : Steps v n rig after) (left : Nat) :
    Rig.resume v (n + left) rig = Rig.resume v left after := by
  induction h with
  | refl rig => rw [Nat.zero_add]
  | @next n rig between after hcommands hstep _ ih =>
      rw [Nat.add_right_comm, resume_next v _ hcommands, hstep]
      exact ih

theorem keeps (h : Steps v n rig after) {P : Rig R B → Prop}
    (hstep : ∀ rig : Rig R B, rig.machine.commands ≠ [] → P rig → P ((step v).leaves rig))
    (hrig : P rig) : P after := by
  induction h with
  | refl rig => exact hrig
  | next hcommands hok _ ih =>
      apply ih
      rw [← leaves_of_eq_ok hok]
      exact hstep _ hcommands hrig

end Steps

end Rig

-- Why a run stops in some rig, and what it comes to.
inductive Interpreter.Ends [Scalar R] [Body R B] (i : Interpreter) (rig : Rig R B) :
    Option (ProgramFault R) × Rig R B → Prop
  | finished (hcommands : rig.machine.commands = []) : Ends i rig (none, rig)
  | exhausted (hcommands : rig.machine.commands ≠ [])
      (hbudget : i.budget ≤ rig.machine.executed) :
      Ends i rig (some (.stopped (.exhausted .instructions) rig.machine.executed), rig)
  | faulted {fault : Fault R} {after : Rig R B} (hcommands : rig.machine.commands ≠ [])
      (hbudget : rig.machine.executed < i.budget)
      (hstep : Rig.step i.vocabulary rig = .error fault after) :
      Ends i rig (some (.stopped fault rig.machine.executed), after)

namespace Interpreter

open Effect Rig

variable [Scalar R] [Body R B]

theorem ends_resume (i : Interpreter) {left : Nat} {rig : Rig R B}
    (hleft : rig.machine.executed + left = i.budget) :
    ∃ n between, n ≤ left ∧ Steps i.vocabulary n rig between ∧
      i.Ends between (Rig.resume i.vocabulary left rig) := by
  induction left generalizing rig with
  | zero =>
      refine ⟨0, rig, Nat.zero_le _, .refl rig, ?_⟩
      unfold Rig.resume
      split
      · rename_i hcommands
        exact .finished hcommands
      · rename_i hcommands _
        exact .exhausted (by simp [hcommands]) (by omega)
      · contradiction
  | succ left ih =>
      by_cases hcommands : rig.machine.commands = []
      · refine ⟨0, rig, Nat.zero_le _, .refl rig, ?_⟩
        unfold Rig.resume
        rw [hcommands]
        exact .finished hcommands
      · rw [resume_next _ _ hcommands]
        cases hstep : step i.vocabulary rig with
        | ok _ after =>
            have hexecuted := executed_step hcommands hstep
            have hnext : after.machine.executed + left = i.budget := by omega
            obtain ⟨n, between, hn, hsteps, hends⟩ := ih hnext
            exact ⟨n + 1, between, Nat.succ_le_succ hn, .next hcommands hstep hsteps, hends⟩
        | error fault after =>
            exact ⟨0, rig, Nat.zero_le _, .refl rig, .faulted hcommands (by omega) hstep⟩

-- A run is a number of steps with an end.
theorem ends_run (i : Interpreter) (program : Program R) (rig : Rig R B) :
    ∃ n between, n ≤ i.budget ∧ Steps i.vocabulary n (rig.load program) between ∧
      i.Ends between (i.run program rig) :=
  i.ends_resume (Nat.zero_add _)

-- The rigs that a run goes through: those between its steps and the one it leaves.
def Reaches (i : Interpreter) (program : Program R) (rig reached : Rig R B) : Prop :=
  (∃ n, n ≤ i.budget ∧ Steps i.vocabulary n (rig.load program) reached) ∨
    reached = (i.run program rig).2

-- What every step keeps holds of all rigs that a run goes through.
theorem Reaches.keeps {i : Interpreter} {program : Program R} {rig reached : Rig R B}
    (h : i.Reaches program rig reached) {P : Rig R B → Prop} (hload : P (rig.load program))
    (hstep : ∀ rig : Rig R B, rig.machine.commands ≠ [] → P rig →
      P ((step i.vocabulary).leaves rig)) : P reached := by
  rcases h with ⟨n, -, hsteps⟩ | rfl
  · exact hsteps.keeps hstep hload
  · obtain ⟨n, between, -, hsteps, hends⟩ := i.ends_run program rig
    have hbetween := hsteps.keeps hstep hload
    generalize i.run program rig = ending at hends
    cases hends with
    | finished => exact hbetween
    | exhausted => exact hbetween
    | faulted hcommands _ hfault =>
        have hleft := hstep _ hcommands hbetween
        rw [leaves_of_eq_error hfault] at hleft
        exact hleft

theorem limit_of_reaches {i : Interpreter} {program : Program R} {rig reached : Rig R B}
    (h : i.Reaches program rig reached) :
    reached.machine.stack.limit = rig.machine.stack.limit := by
  refine h.keeps (P := fun rig' => rig'.machine.stack.limit = rig.machine.stack.limit)
    (Stack.limit_clear rig.machine.stack) fun rig' hcommands hkept => ?_
  obtain ⟨value, rest, hcons⟩ := List.exists_cons_of_ne_nil hcommands
  rw [leaves_step _ hcons, (keepsBounds_execute _ value (rig'.taking rest)).2]
  exact hkept

end Interpreter

end Skirmish
