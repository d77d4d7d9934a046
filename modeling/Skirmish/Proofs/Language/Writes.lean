import Mathlib.Data.List.Basic
import Mathlib.Data.List.Induction
import Skirmish.Proofs.Language.Popping
import Skirmish.Proofs.Language.Steps

namespace Skirmish

-- A value that a program puts into a slot of its memory.
structure Write (R : Type) where
  slot : Fin memorySize
  value : R

namespace Write

variable {R : Type}

-- The value that the last of some writes to a slot puts there.
def last? (slot : Fin memorySize) (writes : List (Write R)) : Option R :=
  (writes.reverse.find? (·.slot = slot)).map Write.value

def apply (memory : Vector R memorySize) (write : Write R) : Vector R memorySize :=
  memory.set write.slot write.value write.slot.isLt

def applyAll (writes : List (Write R)) (memory : Vector R memorySize) : Vector R memorySize :=
  writes.foldl apply memory

theorem applyAll_append (writes later : List (Write R)) (memory : Vector R memorySize) :
    applyAll (writes ++ later) memory = applyAll later (applyAll writes memory) :=
  List.foldl_append

theorem last?_append_singleton (slot : Fin memorySize) (writes : List (Write R)) (write : Write R) :
    last? slot (writes ++ [write]) =
      if write.slot = slot then some write.value else last? slot writes := by
  unfold last?
  rw [List.reverse_append, List.reverse_singleton, List.singleton_append, List.find?_cons]
  by_cases h : write.slot = slot <;> simp [h]

-- A slot holds what was last written to it, or what it held before all writes.
theorem get_applyAll (writes : List (Write R)) (memory : Vector R memorySize)
    (slot : Fin memorySize) :
    (applyAll writes memory).get slot = (last? slot writes).getD (memory.get slot) := by
  induction writes using List.reverseRecOn with
  | nil => rfl
  | append_singleton writes write ih =>
      have hset : applyAll (writes ++ [write]) memory =
          (applyAll writes memory).set write.slot write.value write.slot.isLt :=
        applyAll_append _ _ _
      rw [hset, last?_append_singleton]
      by_cases h : write.slot = slot
      · rw [if_pos h, Option.getD_some]
        subst h
        exact Vector.getElem_set_self write.slot.isLt
      · rw [if_neg h, ← ih]
        exact Vector.getElem_set_ne write.slot.isLt slot.isLt fun hval => h (Fin.ext hval)

end Write

variable {R B : Type}

namespace Effect

variable {α β : Type}

-- An effect that leaves the memory alone, whether it faults or not.
def KeepsMemory (e : Effect R B α) : Prop :=
  ∀ rig, (e.leaves rig).machine.memory = rig.machine.memory

theorem KeepsMemory.bind {e : Effect R B α} {f : α → Effect R B β} (he : KeepsMemory e)
    (hf : ∀ a, KeepsMemory (f a)) : KeepsMemory (e >>= f) := by
  intro rig
  have hfirst := he rig
  cases hr : (e >>= f) rig with
  | ok b after =>
      obtain ⟨a, between, hok, hnext⟩ := of_bind_eq_ok hr
      rw [leaves_of_eq_ok hok] at hfirst
      rw [leaves_of_eq_ok hr, ← leaves_of_eq_ok hnext, hf a between, hfirst]
  | error fault after =>
      rw [leaves_of_eq_error hr]
      rcases of_bind_eq_error hr with hfault | ⟨a, between, hok, hnext⟩
      · rw [← hfirst, leaves_of_eq_error hfault]
      · rw [leaves_of_eq_ok hok] at hfirst
        rw [← leaves_of_eq_error hnext, hf a between, hfirst]

theorem keepsMemory_onStack (f : Stack R → Except StackFault (α × Stack R)) :
    KeepsMemory (onStack f : Effect R B α) := by
  intro rig
  unfold leaves onStack
  cases f rig.machine.stack <;> rfl

theorem keepsMemory_push (v : Value R) : KeepsMemory (push v : Effect R B Unit) :=
  keepsMemory_onStack _

variable [Scalar R]

theorem keepsMemory_fetch (address : R) : KeepsMemory (fetch address : Effect R B Unit) := by
  intro rig
  simp only [leaves, fetch_apply]
  cases rig.machine.fetch address with
  | ok value => exact keepsMemory_push (.number value) rig
  | error fault => rfl

variable [Body R B]

theorem closed_keepsMemory : ClosedReading (R := R) (B := B) KeepsMemory where
  value _ := fun _ => rfl
  fault _ := fun _ => rfl
  bind := KeepsMemory.bind
  pop := keepsMemory_onStack _
  push n := keepsMemory_push (.number n)
  duplicate := keepsMemory_onStack _
  exchange := keepsMemory_onStack _
  fetch := keepsMemory_fetch
  report _ := fun _ => rfl
  ask _ := fun _ => rfl
  tell _ _ := fun _ => rfl
  draw bound := fun rig => by
    obtain ⟨n, body, hdraw⟩ := exists_drawBelow bound rig
    rw [leaves_of_eq_ok hdraw]

end Effect

open Effect

namespace Operation

variable [Scalar R] [Body R B]

-- Nothing but storing changes the memory. A branch only chooses what is next.
theorem keepsMemory_perform {operation : Operation} (h : operation ≠ .store) :
    KeepsMemory (operation.perform : Effect R B Unit) := by
  by_cases hif : operation = .whenTrue
  · subst hif
    refine closed_keepsMemory.bind closed_keepsMemory.popBlock fun body =>
      closed_keepsMemory.bind closed_keepsMemory.popNumber fun condition => ?_
    split <;> exact fun _ => rfl
  · by_cases helse : operation = .choose
    · subst helse
      exact closed_keepsMemory.bind closed_keepsMemory.popBlock fun _ =>
        closed_keepsMemory.bind closed_keepsMemory.popBlock fun _ =>
          closed_keepsMemory.bind closed_keepsMemory.popNumber fun _ => fun _ => rfl
    · exact closed_perform_reading closed_keepsMemory operation hif helse h

theorem perform_store {rig : Rig R B} {address value : R} {below : List (Value R)}
    (h : rig.machine.stack.items = .number address :: .number value :: below) :
    store.perform rig =
      match Machine.slot? address with
      | some slot => .ok () { rig with machine := { rig.machine with
          stack := ⟨below, rig.machine.stack.room + 2⟩
          memory := rig.machine.memory.set slot value slot.isLt } }
      | none => .error (.invalidAddress address) (rig.holding ⟨below, rig.machine.stack.room + 2⟩) := by
  have hstore : (store.perform : Effect R B Unit) =
      popNumber >>= fun address => popNumber >>= fun value => Effect.store address value := rfl
  have hvalue : popNumber (rig.holding ⟨.number value :: below, rig.machine.stack.room + 1⟩) =
      .ok value (rig.holding ⟨below, rig.machine.stack.room + 2⟩) := popNumber_of_items rfl
  rw [hstore, bind_of_eq_ok (popNumber_of_items h), bind_of_eq_ok hvalue, store_apply]
  unfold Machine.store
  cases Machine.slot? address <;> rfl

theorem perform_fetch {rig : Rig R B} {address : R} {below : List (Value R)}
    (h : rig.machine.stack.items = .number address :: below) :
    fetch.perform rig =
      match Machine.slot? address with
      | some slot => .ok () (rig.holding
          ⟨.number (rig.machine.memory.get slot) :: below, rig.machine.stack.room⟩)
      | none => .error (.invalidAddress address) (rig.holding ⟨below, rig.machine.stack.room + 1⟩) := by
  have hfetch : (fetch.perform : Effect R B Unit) =
      popNumber >>= fun address => Effect.fetch address := rfl
  rw [hfetch, bind_of_eq_ok (popNumber_of_items h), fetch_apply]
  unfold Machine.fetch
  cases Machine.slot? address <;> rfl

theorem perform_store_of_operands {rig : Rig R B} {fault : Fault R}
    (h : Stack.operands 2 rig.machine.stack.items = .error fault) :
    ∃ stack, store.perform rig = .error fault (rig.holding stack) := by
  rcases popNumber_of_operands h with ⟨stack, hfault⟩ | ⟨address, between, hok, hrest⟩
  · exact ⟨stack, bind_of_eq_error hfault _⟩
  · have hbelow : Stack.operands 1 (rig.holding between).machine.stack.items = .error fault := hrest
    rcases popNumber_of_operands hbelow with ⟨stack, hfault⟩ | ⟨value, _, _, hnone⟩
    · exact ⟨stack, (bind_of_eq_ok hok _).trans (bind_of_eq_error hfault _)⟩
    · contradiction

theorem perform_fetch_of_operands {rig : Rig R B} {fault : Fault R}
    (h : Stack.operands 1 rig.machine.stack.items = .error fault) :
    ∃ stack, fetch.perform rig = .error fault (rig.holding stack) := by
  rcases popNumber_of_operands h with ⟨stack, hfault⟩ | ⟨address, _, _, hnone⟩
  · exact ⟨stack, bind_of_eq_error hfault _⟩
  · contradiction

-- Storing takes the address of a slot and a value.
theorem of_perform_store {rig after : Rig R B} (h : store.perform rig = .ok () after) :
    ∃ address value below slot,
      rig.machine.stack.items = .number address :: .number value :: below ∧
        Machine.slot? address = some slot ∧
        after.machine.memory = rig.machine.memory.set slot value slot.isLt := by
  cases hoperands : Stack.operands 2 rig.machine.stack.items with
  | error fault =>
      obtain ⟨_, hfault⟩ := perform_store_of_operands hoperands
      rw [h] at hfault
      contradiction
  | ok numbers =>
      obtain ⟨below, hitems, hlength⟩ := Stack.of_operands_eq_ok hoperands
      obtain ⟨address, value, rfl⟩ := List.length_eq_two.mp hlength
      have hstored := perform_store hitems
      rw [h] at hstored
      cases hslot : Machine.slot? address with
      | none =>
          rw [hslot] at hstored
          contradiction
      | some slot =>
          rw [hslot] at hstored
          cases hstored
          exact ⟨address, value, below, slot, hitems, hslot, rfl⟩

end Operation

namespace Rig

variable [Scalar R]

-- What executing the next command stores, if it stores anything: the command names the
-- operation, and its operands are an address and a value.
def write? (v : Vocabulary) (rig : Rig R B) : Option (Write R) :=
  match rig.machine.commands, rig.machine.stack.items with
  | .word name :: _, .number address :: .number value :: _ =>
    if v.lookup name = some .store then (Machine.slot? address).map (⟨·, value⟩) else none
  | _, _ => none

variable [Body R B]

-- Only words that are bound to storing change the memory.
theorem keepsMemory_execute {v : Vocabulary} {value : Value R}
    (h : ∀ name, value = .word name → v.lookup name ≠ some .store) :
    KeepsMemory (execute v value : Effect R B Unit) := by
  cases value with
  | number n => exact keepsMemory_push _
  | block body => exact keepsMemory_push _
  | word name =>
      cases hlookup : v.lookup name with
      | none =>
          rw [execute_unbound hlookup]
          exact fun _ => rfl
      | some operation =>
          rw [execute_word hlookup]
          apply Operation.keepsMemory_perform
          rintro rfl
          exact h name rfl hlookup

theorem keepsMemory_step {v : Vocabulary} {rig : Rig R B}
    (h : ∀ name rest, rig.machine.commands = .word name :: rest → v.lookup name ≠ some .store) :
    ((step v).leaves rig).machine.memory = rig.machine.memory := by
  cases hcommands : rig.machine.commands with
  | nil =>
      unfold leaves step
      rw [hcommands]
  | cons value rest =>
      rw [leaves_step v hcommands]
      refine keepsMemory_execute (fun name hname => ?_) (rig.taking rest)
      exact h name rest (hname ▸ hcommands)

-- All that is stored while so many commands are executed, the first write first.
def writes (v : Vocabulary) : Nat → Rig R B → List (Write R)
  | 0, _ => []
  | left + 1, rig =>
    match step v rig with
    | .ok _ after => (rig.write? v).toList ++ writes v left after
    | .error _ _ => []

omit [Body R B] in
theorem write?_of_store {v : Vocabulary} {rig : Rig R B} {name : String}
    {rest below : List (Value R)} {address value : R} {slot : Fin memorySize}
    (hcommands : rig.machine.commands = .word name :: rest) (hlookup : v.lookup name = some .store)
    (hitems : rig.machine.stack.items = .number address :: .number value :: below)
    (hslot : Machine.slot? address = some slot) : rig.write? v = some ⟨slot, value⟩ := by
  unfold write?
  rw [hcommands, hitems]
  dsimp only
  rw [if_pos hlookup, hslot, Option.map_some]

omit [Body R B] in
theorem write?_eq_none {v : Vocabulary} {rig : Rig R B}
    (h : ∀ name rest, rig.machine.commands = .word name :: rest → v.lookup name ≠ some .store) :
    rig.write? v = none := by
  unfold write?
  split
  · rename_i name rest _ _ _ hcommands _
    exact if_neg (h name rest hcommands)
  · rfl

-- A step that succeeds changes the memory by what it stores.
theorem memory_step {v : Vocabulary} {rig after : Rig R B} (h : step v rig = .ok () after) :
    after.machine.memory = Write.applyAll (rig.write? v).toList rig.machine.memory := by
  by_cases hstore : ∃ name rest, rig.machine.commands = .word name :: rest ∧
      v.lookup name = some .store
  · obtain ⟨name, rest, hcommands, hlookup⟩ := hstore
    rw [step_of_commands v hcommands, execute_word hlookup] at h
    obtain ⟨address, value, below, slot, hitems, hslot, hmemory⟩ := Operation.of_perform_store h
    rw [write?_of_store hcommands hlookup hitems hslot, hmemory]
    rfl
  · have hnone : ∀ name rest, rig.machine.commands = .word name :: rest →
        v.lookup name ≠ some .store := fun name rest hcommands hlookup =>
      hstore ⟨name, rest, hcommands, hlookup⟩
    rw [write?_eq_none hnone, ← leaves_of_eq_ok h]
    exact keepsMemory_step hnone

theorem writes_of_step {v : Vocabulary} {left : Nat} {rig after : Rig R B}
    (h : step v rig = .ok () after) :
    rig.writes v (left + 1) = (rig.write? v).toList ++ after.writes v left := by
  rw [writes, h]

theorem writes_of_done {v : Vocabulary} {rig : Rig R B} (h : rig.machine.commands = [])
    (left : Nat) : rig.writes v left = [] := by
  induction left with
  | zero => rfl
  | succ left ih =>
      have hstep : step v rig = .ok () rig := by
        unfold step
        rw [h]
      rw [writes_of_step hstep, ih, write?_eq_none fun name rest hcommands => ?_]
      · rfl
      · rw [h] at hcommands
        contradiction

-- After so many steps the memory is what they have stored made of it.
theorem Steps.memory {v : Vocabulary} {n : Nat} {rig after : Rig R B} (h : Steps v n rig after) :
    after.machine.memory = Write.applyAll (rig.writes v n) rig.machine.memory := by
  induction h with
  | refl rig => rfl
  | next _ hstep _ ih =>
      rw [ih, memory_step hstep, writes_of_step hstep, Write.applyAll_append]

-- However a run ends, its memory is what it has stored made of it.
theorem memory_resume (v : Vocabulary) (left : Nat) (rig : Rig R B) :
    (resume v left rig).2.machine.memory = Write.applyAll (rig.writes v left) rig.machine.memory := by
  induction left generalizing rig with
  | zero =>
      unfold resume
      split
      · rfl
      · rfl
      · contradiction
  | succ left ih =>
      by_cases hcommands : rig.machine.commands = []
      · unfold resume
        rw [hcommands, writes_of_done hcommands]
        rfl
      · rw [resume_next v left hcommands]
        cases hstep : step v rig with
        | ok _ after =>
            rw [writes_of_step hstep, Write.applyAll_append, ← memory_step hstep]
            exact ih after
        | error fault after =>
            rw [writes, hstep]
            exact (popped_of_step hcommands hstep).1.memory

end Rig

end Skirmish
