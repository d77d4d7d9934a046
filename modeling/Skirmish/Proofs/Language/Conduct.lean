import Skirmish.Language.Evaluation
import Skirmish.Proofs.Language.Effects

namespace Skirmish

namespace Effect

variable {R B : Type} {α β : Type}

-- The rig that an effect leaves, whether it faults or not.
def leaves (e : Effect R B α) (rig : Rig R B) : Rig R B :=
  match e rig with
  | .ok _ rig' => rig'
  | .error _ rig' => rig'

-- An effect that a property of bodies survives.
def Keeps (I : B → Prop) (e : Effect R B α) : Prop :=
  ∀ rig, I rig.body → I (e.leaves rig).body

-- A property of bodies that orders and draws leave as it is.
structure Steady (R : Type) {B : Type} [Scalar R] [Body R B] (I : B → Prop) : Prop where
  order : ∀ order, IsOrder R order → ∀ body : B, I body → I (order body)
  draw : ∀ (bound : R) (body : B), I body → I (Body.random bound body).2

theorem keeps_of_body_eq {I : B → Prop} {e : Effect R B α}
    (he : ∀ rig, (e.leaves rig).body = rig.body) : Keeps I e := by
  intro rig hI
  rw [he]
  exact hI

theorem Keeps.bind {I : B → Prop} {e : Effect R B α} {f : α → Effect R B β} (he : Keeps I e)
    (hf : ∀ a, Keeps I (f a)) : Keeps I (e >>= f) := by
  intro rig hI
  have hb : (e >>= f) rig = EStateM.bind e f rig := rfl
  have hkept := he rig hI
  unfold leaves at hkept ⊢
  rw [hb, EStateM.bind]
  cases hr : e rig with
  | ok a rig' =>
      rw [hr] at hkept
      exact hf a rig' hkept
  | error fault rig' =>
      rw [hr] at hkept
      exact hkept

theorem keeps_onStack (I : B → Prop) (f : Stack R → Except StackFault (α × Stack R)) :
    Keeps I (onStack f) := by
  apply keeps_of_body_eq
  intro rig
  unfold leaves onStack
  cases f rig.machine.stack <;> rfl

theorem keeps_push (I : B → Prop) (v : Value R) : Keeps I (push v) := keeps_onStack I _

variable [Scalar R]

theorem keeps_store (I : B → Prop) (address value : R) : Keeps I (store address value) := by
  apply keeps_of_body_eq
  intro rig
  simp only [leaves, store_apply]
  cases rig.machine.store address value <;> rfl

theorem keeps_fetch (I : B → Prop) (address : R) : Keeps I (fetch address) := by
  intro rig hI
  simp only [leaves, fetch_apply]
  cases rig.machine.fetch address with
  | error fault => exact hI
  | ok value => exact keeps_push I (.number value) rig hI

variable [Body R B]

theorem keeps_drawBelow {I : B → Prop} (hI : Steady R I) (bound : R) :
    Keeps I (Operation.drawBelow bound : Effect R B R) := by
  intro rig hrig
  unfold leaves Operation.drawBelow
  split
  · rename_i heq
    split at heq
    · cases heq
      exact hrig
    · cases heq
      exact hI.draw bound rig.body hrig
  · rename_i heq
    split at heq <;> cases heq

theorem closed_keeps {I : B → Prop} (hI : Steady R I) : Closed (R := R) (B := B) (Keeps I) where
  value _ := keeps_of_body_eq fun _ => rfl
  fault _ := keeps_of_body_eq fun _ => rfl
  bind := Keeps.bind
  pop := keeps_onStack I _
  push n := keeps_push I (.number n)
  duplicate := keeps_onStack I _
  exchange := keeps_onStack I _
  store := keeps_store I
  fetch := keeps_fetch I
  report _ := keeps_of_body_eq fun _ => rfl
  ask _ := keeps_of_body_eq fun _ => rfl
  tell order horder := fun rig hrig => hI.order order horder rig.body hrig
  draw := keeps_drawBelow hI

end Effect

open Effect

variable {R B : Type} [Scalar R] [Body R B] {I : B → Prop}

theorem Rig.keeps_execute (hI : Steady R I) (v : Vocabulary) (value : Value R) :
    Keeps I (Rig.execute v value : Effect R B Unit) :=
  Rig.closed_execute (closed_keeps hI) (keeps_push I) (fun _ => keeps_of_body_eq fun _ => rfl) v
    value

theorem Rig.keeps_step (hI : Steady R I) (v : Vocabulary) :
    Keeps I (Rig.step v : Effect R B Unit) := by
  intro rig hrig
  unfold leaves Rig.step
  cases rig.machine.commands with
  | nil => exact hrig
  | cons value rest => exact keeps_execute hI v value _ hrig

theorem Rig.resume_keeps (hI : Steady R I) (v : Vocabulary) (left : Nat) (rig : Rig R B)
    (hrig : I rig.body) : I (Rig.resume v left rig).2.body := by
  induction left generalizing rig with
  | zero =>
      unfold Rig.resume
      split
      · exact hrig
      · exact hrig
      · contradiction
  | succ left ih =>
      have hstep := keeps_step hI v rig hrig
      unfold Rig.resume
      split
      · exact hrig
      · exact hrig
      · rename_i heq
        cases heq
        unfold leaves at hstep
        split
        · rename_i heq
          rw [heq] at hstep
          exact ih _ hstep
        · rename_i heq
          rw [heq] at hstep
          exact hstep

-- A property that orders and draws leave as it is holds after a run if it held
-- before, however the run ends.
theorem Interpreter.runSource_keeps (hI : Steady R I) (i : Interpreter) (source : String)
    (rig : Rig R B) (hrig : I rig.body) : I (i.runSource source rig).2.body := by
  unfold Interpreter.runSource
  split
  · exact Rig.resume_keeps hI i.vocabulary i.budget _ hrig
  · exact hrig

end Skirmish
