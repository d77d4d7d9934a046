import Skirmish.Proofs.Language.Steps

namespace Skirmish

open Effect

variable {R B : Type}

-- The same body with its cannon locked.
@[reducible] def Body.unarmed (body : Body R B) : Body R B := { body with fire := id }

-- Whether executing a value orders a shot.
def Value.ordersShot (v : Vocabulary) : Value R → Bool
  | .word name => v.lookup name == some .fire
  | _ => false

variable [Scalar R] [body : Body R B]

-- Only one operation can tell whether the cannon is locked.
theorem Operation.perform_unarmed {operation : Operation} (h : operation ≠ .fire) :
    @perform R B _ body.unarmed operation = perform operation := by
  cases operation with
  | fire => contradiction
  | _ => rfl

namespace Rig

theorem execute_unarmed {v : Vocabulary} {value : Value R} (h : value.ordersShot v = false) :
    @execute R B _ body.unarmed v value = execute v value := by
  cases value with
  | number n => rfl
  | block b => rfl
  | word name =>
      simp only [Value.ordersShot] at h
      simp only [execute]
      cases hlookup : v.lookup name with
      | none => rfl
      | some operation =>
          apply Operation.perform_unarmed
          rintro rfl
          simp [hlookup] at h

theorem execute_of_ordersShot {v : Vocabulary} {value : Value R} (h : value.ordersShot v = true)
    (rig : Rig R B) : execute v value rig = .ok () { rig with body := Body.fire R rig.body } := by
  cases value with
  | number n => contradiction
  | block b => contradiction
  | word name =>
      have hlookup : v.lookup name = some .fire := by simpa [Value.ordersShot] using h
      simp only [execute, hlookup]
      rfl

-- How often the commands that a run executes order a shot.
def shots (v : Vocabulary) : Nat → Rig R B → Nat
  | 0, _ => 0
  | left + 1, rig =>
    match rig.machine.commands with
    | [] => 0
    | value :: _ =>
      (if value.ordersShot v then 1 else 0) +
        match step v rig with
        | .ok _ rig' => shots v left rig'
        | .error _ _ => 0

theorem shots_of_commands (v : Vocabulary) (left : Nat) {rig : Rig R B} {value : Value R}
    {rest : List (Value R)} (h : rig.machine.commands = value :: rest) :
    shots v (left + 1) rig = (if value.ordersShot v then 1 else 0) +
      match step v rig with
      | .ok _ rig' => shots v left rig'
      | .error _ _ => 0 := by
  rw [shots, h]

-- A property of bodies that counts the shots ordered so far, and which nothing else
-- touches, counts all shots of a run in the end, however the run ends.
theorem resume_shots {P : Nat → B → Prop} (hfire : ∀ k b, P k b → P (k + 1) (Body.fire R b))
    (hrest : ∀ k, @Steady R B _ body.unarmed (P k)) (v : Vocabulary) (left : Nat) (k : Nat)
    (rig : Rig R B) (h : P k rig.body) :
    P (k + shots v left rig) (resume v left rig).2.body := by
  induction left generalizing k rig with
  | zero =>
      unfold resume shots
      split
      · exact h
      · exact h
      · contradiction
  | succ left ih =>
      cases hcommands : rig.machine.commands with
      | nil =>
          unfold resume shots
          rw [hcommands]
          exact h
      | cons value rest =>
          rw [resume.eq_3 v rig left value rest hcommands, shots_of_commands v left hcommands]
          cases hshot : value.ordersShot v with
          | true =>
              rw [step_of_commands v hcommands, execute_of_ordersShot hshot]
              have hnext := ih (k + 1) { rig.taking rest with body := Body.fire R rig.body }
                (hfire k rig.body h)
              rw [Nat.add_assoc] at hnext
              exact hnext
          | false =>
              have hkept := @keeps_execute R B _ body.unarmed (P k) (hrest k) v value
                (rig.taking rest) h
              unfold leaves at hkept
              rw [execute_unarmed hshot, ← step_of_commands v hcommands] at hkept
              cases hstep : step v rig with
              | ok _ rig' =>
                  rw [hstep] at hkept
                  simpa using ih k rig' hkept
              | error fault rig' =>
                  rw [hstep] at hkept
                  exact hkept

end Rig

-- How often a source orders a shot when it is run.
def Interpreter.shots (i : Interpreter) (source : String) (rig : Rig R B) : Nat :=
  match (Program.parse source : Except SyntaxFault (Program R)) with
  | .ok program =>
    Rig.shots i.vocabulary i.budget { rig with machine := rig.machine.load program }
  | .error _ => 0

theorem Interpreter.runSource_shots {P : Nat → B → Prop}
    (hfire : ∀ k b, P k b → P (k + 1) (Body.fire R b))
    (hrest : ∀ k, @Steady R B _ body.unarmed (P k)) (i : Interpreter) (source : String)
    (rig : Rig R B) (h : P 0 rig.body) :
    P (i.shots source rig) (i.runSource source rig).2.body := by
  unfold shots runSource
  cases (Program.parse source : Except SyntaxFault (Program R)) with
  | error fault => exact h
  | ok program =>
      have hrun := Rig.resume_shots hfire hrest i.vocabulary i.budget 0
        { rig with machine := rig.machine.load program } h
      rw [Nat.zero_add] at hrun
      exact hrun

end Skirmish
