import Skirmish.Proofs.Language.Effects

namespace Skirmish

-- A rig without the values that are still to be executed.
structure Scene (R B : Type) where
  stack : Stack R
  memory : Vector R memorySize
  executed : Nat
  reported : List (Value R)
  body : B

namespace Scene

variable {R B : Type}

def rig (commands : List (Value R)) (s : Scene R B) : Rig R B where
  machine := ⟨s.stack, commands, s.memory, s.executed, s.reported⟩
  body := s.body

end Scene

namespace Rig

variable {R B : Type}

def scene (rig : Rig R B) : Scene R B where
  stack := rig.machine.stack
  memory := rig.machine.memory
  executed := rig.machine.executed
  reported := rig.machine.reported
  body := rig.body

end Rig

namespace Effect

variable {R B : Type} {α β : Type}

-- An effect where nothing else is left to be executed.
def onScene (e : Effect R B α) : EStateM (Fault R) (Scene R B) α := fun s =>
  match e (s.rig []) with
  | .ok a rig => .ok a rig.scene
  | .error fault rig => .error fault rig.scene

-- The rig that an outcome leaves when some commands are left with it.
def leaving (commands : List (Value R)) :
    EStateM.Result (Fault R) (Scene R B) α → EStateM.Result (Fault R) (Rig R B) α
  | .ok a s => .ok a (s.rig commands)
  | .error fault s => .error fault (s.rig commands)

-- An effect that neither reads nor changes what is left to be executed.
def Blind (e : Effect R B α) : Prop :=
  ∀ (s : Scene R B) (commands : List (Value R)),
    e (s.rig commands) = leaving commands (e.onScene s)

theorem blind_pure (a : α) : Blind (pure a : Effect R B α) := fun _ _ => rfl

theorem blind_throw (fault : Fault R) : Blind (throw fault : Effect R B α) := fun _ _ => rfl

theorem Blind.bind {e : Effect R B α} {f : α → Effect R B β} (he : Blind e)
    (hf : ∀ a, Blind (f a)) : Blind (e >>= f) := by
  intro s commands
  have hb : ∀ rest, (e >>= f) (s.rig rest) = EStateM.bind e f (s.rig rest) := fun _ => rfl
  unfold onScene
  rw [hb, hb, EStateM.bind, EStateM.bind, he s commands, he s []]
  cases e.onScene s with
  | ok a s' => exact hf a s' commands
  | error fault s' => rfl

theorem blind_onStack (f : Stack R → Except StackFault (α × Stack R)) :
    Blind (onStack f : Effect R B α) := by
  intro s commands
  simp only [onScene, onStack, Scene.rig]
  cases f s.stack <;> rfl

theorem blind_push (v : Value R) : Blind (push v : Effect R B Unit) := blind_onStack _

variable [Scalar R]

theorem blind_store (address value : R) : Blind (store address value : Effect R B Unit) := by
  intro s commands
  simp only [onScene, store_apply, Scene.rig, Machine.store]
  cases Machine.slot? address <;> rfl

theorem blind_fetch (address : R) : Blind (fetch address : Effect R B Unit) := by
  intro s commands
  simp only [onScene, fetch_apply, Scene.rig, Machine.fetch]
  cases Machine.slot? address with
  | none => rfl
  | some slot => exact blind_push (.number s.memory[slot]) s commands

theorem blind_drawBelow [Body R B] (bound : R) :
    Blind (Operation.drawBelow bound : Effect R B R) := by
  intro s commands
  simp only [onScene, Operation.drawBelow, Scene.rig]
  split <;> rfl

-- Only splicing reads or changes what is left to be executed.
theorem closed_blind [Body R B] : Closed (R := R) (B := B) Blind where
  value := blind_pure
  fault := blind_throw
  bind := Blind.bind
  pop := blind_onStack _
  push n := blind_push (.number n)
  duplicate := blind_onStack _
  exchange := blind_onStack _
  store := blind_store
  fetch := blind_fetch
  report _ := fun _ _ => rfl
  ask _ := fun _ _ => rfl
  tell _ _ := fun _ _ => rfl
  draw := blind_drawBelow

end Effect

end Skirmish
