import Skirmish.Proofs.Language.Scene

namespace Skirmish

-- How executing some values ends when so many instructions are left.
inductive Course (R B : Type) (left : Nat) where
  | finished (scene : Scene R B) (rest : Nat) (fewer : rest ≤ left)
  | stopped (fault : ProgramFault R) (scene : Scene R B)

namespace Nested

open Effect

variable {R B : Type} [Scalar R] [Body R B]

-- Executes one value and tells what is to be executed before anything else.
def begin (v : Vocabulary) : Value R → Effect R B (List (Value R))
  | .word name =>
    match v.lookup name with
    | some operation => operation.choice
    | none => throw (.unknownWord name)
  | value => do
    push value
    return []

def charge (s : Scene R B) : Scene R B := { s with executed := s.executed + 1 }

-- Executes values in their order. The body that a value leads to is executed in
-- full before the values after it go on with the instructions it left.
def eval (v : Vocabulary) (left : Nat) (values : List (Value R)) (s : Scene R B) : Course R B left :=
  match left, values with
  | left, [] => .finished s left (Nat.le_refl _)
  | 0, _ :: _ => .stopped (.stopped (.exhausted .instructions) s.executed) s
  | left + 1, value :: values =>
    match (begin v value).onScene (charge s) with
    | .error fault after => .stopped (.stopped fault s.executed) after
    | .ok body begun =>
      match eval v left body begun with
      | .stopped fault after => .stopped fault after
      | .finished done rest hrest =>
        match eval v rest values done with
        | .stopped fault after => .stopped fault after
        | .finished after rest' hrest' => .finished after rest' (by omega)
termination_by left

end Nested

-- Runs a program by recursion on what its branches hold.
def Interpreter.runNested {R B : Type} [Scalar R] [Body R B] (i : Interpreter)
    (program : Program R) (s : Scene R B) : Option (ProgramFault R) × Scene R B :=
  match Nested.eval i.vocabulary i.budget program
    { s with stack := s.stack.clear, executed := 0, reported := [] } with
  | .finished after _ _ => (none, after)
  | .stopped fault after => (some fault, after)

namespace Nested

open Effect

variable {R B : Type} [Scalar R] [Body R B]

theorem blind_begin (v : Vocabulary) (value : Value R) :
    Blind (begin v value : Effect R B (List (Value R))) := by
  unfold begin
  split
  · split
    · exact Operation.closed_choice closed_blind _
    · exact blind_throw _
  · exact (blind_push _).bind fun _ => blind_pure _

-- The machine makes the same choices and splices the bodies in front.
theorem execute_eq_begin (v : Vocabulary) (value : Value R) :
    (Rig.execute v value : Effect R B Unit) = begin v value >>= splice := by
  unfold Rig.execute begin
  cases value with
  | number n => simp only [bind_assoc, pure_bind, Operation.splice_nil, bind_pure_unit]
  | block body => simp only [bind_assoc, pure_bind, Operation.splice_nil, bind_pure_unit]
  | word name =>
      simp only
      cases v.lookup name with
      | none => rfl
      | some operation => exact operation.perform_eq_choice

-- What a run in the middle comes to, apart from the values still to be executed.
def seen (outcome : Option (ProgramFault R) × Rig R B) : Option (ProgramFault R) × Scene R B :=
  (outcome.1, outcome.2.scene)

-- Executing the next command is beginning its value, with the body it leads to in
-- front of the other commands.
theorem step_rig (v : Vocabulary) (value : Value R) (commands : List (Value R)) (s : Scene R B) :
    Rig.step v (s.rig (value :: commands)) =
      match (begin v value).onScene (charge s) with
      | .ok body begun => .ok () (begun.rig (body ++ commands))
      | .error fault after => .error fault (after.rig commands) := by
  have hstep : Rig.step v (s.rig (value :: commands)) =
      Rig.execute v value ((charge s).rig commands) := rfl
  have hbind : (begin v value >>= splice) ((charge s).rig commands) =
      EStateM.bind (begin v value) splice ((charge s).rig commands) := rfl
  rw [hstep, execute_eq_begin, hbind, EStateM.bind, blind_begin v value (charge s) commands]
  cases (begin v value).onScene (charge s) with
  | ok body begun => rfl
  | error fault after => rfl

theorem resume_nil (v : Vocabulary) (left : Nat) (s : Scene R B) :
    Rig.resume v left (s.rig []) = (none, s.rig []) := by
  cases left <;> rfl

theorem resume_cons (v : Vocabulary) (left : Nat) (value : Value R) (commands : List (Value R))
    (s : Scene R B) :
    seen (Rig.resume v (left + 1) (s.rig (value :: commands))) =
      match (begin v value).onScene (charge s) with
      | .ok body begun => seen (Rig.resume v left (begun.rig (body ++ commands)))
      | .error fault after => (some (.stopped fault s.executed), after) := by
  have hcommands : (s.rig (value :: commands)).machine.commands = value :: commands := rfl
  rw [Rig.resume.eq_3 v _ left value commands hcommands, step_rig]
  cases (begin v value).onScene (charge s) with
  | ok body begun => rfl
  | error fault after => rfl

-- Commands in front of others are executed first and in full, whatever they hold.
-- The induction is on the instructions left: each value costs one, so that its
-- body and the values after it both have fewer.
theorem resume_append (v : Vocabulary) (left : Nat) (values commands : List (Value R))
    (s : Scene R B) :
    seen (Rig.resume v left (s.rig (values ++ commands))) =
      match eval v left values s with
      | .finished done rest _ => seen (Rig.resume v rest (done.rig commands))
      | .stopped fault after => (some fault, after) := by
  induction left using Nat.strongRecOn generalizing values commands s with
  | ind left ih =>
    cases values with
    | nil => simp only [eval, List.nil_append]
    | cons value values =>
        cases left with
        | zero =>
            rw [eval, List.cons_append]
            rfl
        | succ left =>
            rw [eval, List.cons_append, resume_cons]
            cases (begin v value).onScene (charge s) with
            | error fault after => rfl
            | ok body begun =>
                simp only
                rw [ih left (Nat.lt_succ_self left) body (values ++ commands) begun]
                cases eval v left body begun with
                | stopped fault after => rfl
                | finished done rest hrest =>
                    simp only
                    rw [ih rest (Nat.lt_succ_of_le hrest) values commands done]
                    cases eval v rest values done with
                    | stopped fault after => rfl
                    | finished after rest' hrest' => rfl

-- The outcome of a run is that of recursion on the bodies of its branches: the
-- fault and where it struck if there is one, the data stack, the memory, the
-- values executed and reported, and the body.
theorem run_eq_runNested (i : Interpreter) (program : Program R) (rig : Rig R B) :
    ((i.run program rig).1, (i.run program rig).2.scene) = i.runNested program rig.scene := by
  let start : Scene R B :=
    { rig.scene with stack := rig.scene.stack.clear, executed := 0, reported := [] }
  have hrun : i.run program rig = Rig.resume i.vocabulary i.budget (start.rig (program ++ [])) := by
    rw [List.append_nil]
    rfl
  change seen (i.run program rig) = _
  rw [hrun, resume_append, Interpreter.runNested]
  cases eval i.vocabulary i.budget program start with
  | finished done rest hrest => exact congrArg seen (resume_nil i.vocabulary rest done)
  | stopped fault after => rfl

end Nested

end Skirmish
