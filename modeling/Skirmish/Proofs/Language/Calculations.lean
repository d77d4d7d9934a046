import Skirmish.Proofs.Language.Popping
import Skirmish.Proofs.Language.Steps

namespace Skirmish

-- A vocabulary that has all core words.
def Vocabulary.Calculates (v : Vocabulary) : Prop :=
  ∀ operation ∈ Vocabulary.core.operations, v.lookup operation.word = some operation

namespace Vocabulary

theorem calculates_core : Vocabulary.core.Calculates := by
  unfold Calculates
  decide

theorem calculates_tank (teleports : Bool) : (Vocabulary.tank teleports).Calculates := by
  unfold Calculates
  cases teleports <;> decide

theorem Calculates.unary {v : Vocabulary} (hv : v.Calculates) (f : UnaryOperation) :
    v.lookup f.word = some (.unary f) := by
  refine hv (.unary f) ?_
  cases f <;> decide

theorem Calculates.binary {v : Vocabulary} (hv : v.Calculates) (f : BinaryOperation) :
    v.lookup f.word = some (.binary f) := by
  refine hv (.binary f) ?_
  cases f <;> decide

theorem Calculates.choose {v : Vocabulary} (hv : v.Calculates) :
    v.lookup Operation.choose.word = some .choose :=
  hv .choose (by decide)

end Vocabulary

open Effect

variable {R B : Type} [Scalar R]

-- Only quotients and remainders can fail.
theorem BinaryOperation.of_apply_eq_error {f : BinaryOperation} {a b : R} {fault : Fault R}
    (h : f.apply a b = .error fault) :
    fault = .divisionByZero ∧ (f = .divide ∨ f = .modulo) ∧ (b == ((0 : Int) : R)) = true := by
  refine ⟨fault_of_apply h, ?_⟩
  cases f with
  | divide | modulo =>
      simp only [apply] at h
      split at h
      · rename_i hzero
        exact ⟨by simp, hzero⟩
      · contradiction
  | _ => contradiction

-- The same rig in the middle of a run, with so much on its stack, left to execute, and
-- executed.
def Rig.midway (stack : Stack R) (commands : List (Value R)) (executed : Nat) (rig : Rig R B) :
    Rig R B :=
  { rig with machine := { rig.machine with stack, commands, executed } }

variable [Body R B]

namespace Operation

theorem perform_unary {rig : Rig R B} {f : UnaryOperation} {a : R} {below : List (Value R)}
    {room : Nat} (h : rig.machine.stack = ⟨.number a :: below, room⟩) :
    (unary f).perform rig = .ok () (rig.holding ⟨.number (f.apply a) :: below, room⟩) := by
  have hunary : ((unary f).perform : Effect R B Unit) =
      popNumber >>= fun a => pushNumber (f.apply a) := rfl
  rw [hunary, bind_of_eq_ok (popNumber_of_items (congrArg Stack.items h)), h]
  exact push_of_push rfl

-- The operand on top is the right one.
theorem perform_binary {rig : Rig R B} {f : BinaryOperation} {a b : R} {below : List (Value R)}
    {room : Nat} (h : rig.machine.stack = ⟨.number b :: .number a :: below, room⟩) :
    (binary f).perform rig =
      match f.apply a b with
      | .ok n => .ok () (rig.holding ⟨.number n :: below, room + 1⟩)
      | .error fault => .error fault (rig.holding ⟨below, room + 2⟩) := by
  have hbinary : ((binary f).perform : Effect R B Unit) =
      popNumber >>= fun b => popNumber >>= fun a =>
        match f.apply a b with
        | .ok n => pushNumber n
        | .error fault => throw fault := rfl
  have hleft : popNumber (rig.holding ⟨.number a :: below, room + 1⟩) =
      .ok a (rig.holding ⟨below, room + 2⟩) := popNumber_of_items rfl
  rw [hbinary, bind_of_eq_ok (popNumber_of_items (congrArg Stack.items h)), h,
    bind_of_eq_ok hleft]
  cases f.apply a b with
  | ok n => exact push_of_push rfl
  | error fault => rfl

-- The block on top is the one for a condition that is false.
theorem perform_choose {rig : Rig R B} {condition : R} {body otherwise below : List (Value R)}
    {room : Nat}
    (h : rig.machine.stack = ⟨.block otherwise :: .block body :: .number condition :: below, room⟩) :
    choose.perform rig =
      splice (if Scalar.isTrue condition then body else otherwise)
        (rig.holding ⟨below, room + 3⟩) := by
  have hchoose : (choose.perform : Effect R B Unit) =
      popBlock >>= fun otherwise => popBlock >>= fun body => popNumber >>= fun condition =>
        splice (if Scalar.isTrue condition then body else otherwise) := rfl
  have hbody : popBlock (rig.holding ⟨.block body :: .number condition :: below, room + 1⟩) =
      .ok body (rig.holding ⟨.number condition :: below, room + 2⟩) := popBlock_of_items rfl
  have hcondition : popNumber (rig.holding ⟨.number condition :: below, room + 2⟩) =
      .ok condition (rig.holding ⟨below, room + 3⟩) := popNumber_of_items rfl
  rw [hchoose, bind_of_eq_ok (popBlock_of_items (congrArg Stack.items h)), h, bind_of_eq_ok hbody,
    bind_of_eq_ok hcondition]

end Operation

namespace Rig

variable {v : Vocabulary} {rig : Rig R B} {items rest : List (Value R)} {room executed : Nat}

theorem steps_push {value : Value R} (hvalue : (execute v value : Effect R B Unit) = push value) :
    Steps v 1 (rig.midway ⟨items, room + 1⟩ (value :: rest) executed)
      (rig.midway ⟨value :: items, room⟩ rest (executed + 1)) := by
  refine .single (List.cons_ne_nil _ _) ?_
  rw [step_of_commands v rfl, hvalue]
  exact push_of_push rfl

theorem step_word {name : String} {operation : Operation} (h : v.lookup name = some operation)
    {stack : Stack R} :
    step v (rig.midway stack (.word name :: rest) executed) =
      operation.perform (rig.midway stack rest (executed + 1)) := by
  rw [step_of_commands v rfl, execute_word h]
  rfl

theorem steps_unary (hv : v.Calculates) (f : UnaryOperation) {a : R} :
    Steps v 1 (rig.midway ⟨.number a :: items, room⟩ (.word f.word :: rest) executed)
      (rig.midway ⟨.number (f.apply a) :: items, room⟩ rest (executed + 1)) := by
  refine .single (List.cons_ne_nil _ _) ?_
  rw [step_word (hv.unary f), Operation.perform_unary rfl]
  rfl

theorem steps_binary (hv : v.Calculates) {f : BinaryOperation} {a b n : R}
    (h : f.apply a b = .ok n) :
    Steps v 1 (rig.midway ⟨.number b :: .number a :: items, room⟩ (.word f.word :: rest) executed)
      (rig.midway ⟨.number n :: items, room + 1⟩ rest (executed + 1)) := by
  refine .single (List.cons_ne_nil _ _) ?_
  rw [step_word (hv.binary f), Operation.perform_binary rfl, h]
  rfl

-- A choice comes down to pushing both branches and going on with one of them.
theorem steps_choice (hv : v.Calculates) {condition : R} {body otherwise : List (Value R)} :
    Steps v 3
      (rig.midway ⟨.number condition :: items, room + 2⟩
        (.block body :: .block otherwise :: .word Operation.choose.word :: rest) executed)
      (rig.midway ⟨items, room + 3⟩
        ((if Scalar.isTrue condition then body else otherwise) ++ rest) (executed + 3)) := by
  have hbody : (execute v (.block body) : Effect R B Unit) = push (.block body) := rfl
  have hotherwise : (execute v (.block otherwise) : Effect R B Unit) = push (.block otherwise) := rfl
  have hchoose : Steps v 1
      (rig.midway ⟨.block otherwise :: .block body :: .number condition :: items, room⟩
        (.word Operation.choose.word :: rest) (executed + 1 + 1))
      (rig.midway ⟨items, room + 3⟩
        ((if Scalar.isTrue condition then body else otherwise) ++ rest) (executed + 1 + 1 + 1)) := by
    refine .single (List.cons_ne_nil _ _) ?_
    rw [step_word hv.choose, Operation.perform_choose rfl]
    rfl
  exact ((steps_push hbody).trans (steps_push hotherwise)).trans hchoose

-- A rig whose next command divides what is on top of the stack by zero.
def DividesByZero (rig : Rig R B) : Prop :=
  ∃ (f : BinaryOperation) (a b : R) (below later : List (Value R)),
    rig.machine.commands = .word f.word :: later ∧
      rig.machine.stack.items = .number b :: .number a :: below ∧
      (f = .divide ∨ f = .modulo) ∧ (b == ((0 : Int) : R)) = true

theorem DividesByZero.step {v : Vocabulary} (hv : v.Calculates) {rig : Rig R B}
    (h : rig.DividesByZero) :
    rig.machine.commands ≠ [] ∧ ∃ after, Rig.step v rig = .error .divisionByZero after := by
  obtain ⟨f, a, b, below, later, hcommands, hitems, hf, hzero⟩ := h
  have hfault : f.apply a b = .error .divisionByZero := by
    rcases hf with rfl | rfl <;> exact if_pos hzero
  have hstack : (rig.taking later).machine.stack =
      ⟨.number b :: .number a :: below, rig.machine.stack.room⟩ := by
    rw [← hitems]
    rfl
  rw [step_of_commands v hcommands, execute_word (hv.binary f), Operation.perform_binary hstack,
    hfault, hcommands]
  exact ⟨List.cons_ne_nil _ _, _, rfl⟩

-- After some steps, a rig has no room for the next value.
def Overflows (v : Vocabulary) (start : Rig R B) : Prop :=
  ∃ n full after, Steps v n start full ∧ full.machine.commands ≠ [] ∧
    step v full = .error (.exhausted .dataStack) after

theorem Overflows.after {v : Vocabulary} {before : Nat} {start between : Rig R B}
    (h : Overflows v between) (hsteps : Steps v before start between) : Overflows v start := by
  obtain ⟨n, full, after, hfull, hcommands, hstep⟩ := h
  exact ⟨before + n, full, after, hsteps.trans hfull, hcommands, hstep⟩

-- Such a rig is stopped there, if it is given the time.
theorem Overflows.stopped {v : Vocabulary} {start : Rig R B} (h : Overflows v start) :
    ∃ n position, ∀ left, n < left →
      (resume v left start).1 = some (.stopped (.exhausted .dataStack) position) := by
  obtain ⟨n, full, after, hfull, hcommands, hstep⟩ := h
  refine ⟨n, full.machine.executed, fun left hleft => ?_⟩
  obtain ⟨more, rfl⟩ := Nat.exists_eq_add_of_le (Nat.succ_le_of_lt hleft)
  rw [Nat.succ_add_eq_add_succ, hfull.resume, resume_next v more hcommands, hstep]

theorem overflows_push {v : Vocabulary} {value : Value R}
    (hvalue : (execute v value : Effect R B Unit) = push value) {rig : Rig R B}
    {items rest : List (Value R)} {executed : Nat} :
    Overflows v (rig.midway ⟨items, 0⟩ (value :: rest) executed) := by
  have hstep : step v (rig.midway ⟨items, 0⟩ (value :: rest) executed) =
      .error (.exhausted .dataStack) (rig.midway ⟨items, 0⟩ rest (executed + 1)) := by
    rw [step_of_commands v rfl, hvalue]
    rfl
  exact ⟨0, _, _, .refl _, List.cons_ne_nil _ _, hstep⟩

end Rig

end Skirmish
