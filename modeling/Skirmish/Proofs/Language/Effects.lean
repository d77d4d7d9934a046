import Skirmish.Language.Execution

namespace Skirmish

namespace Effect

variable {R B : Type} [Scalar R]

def duplicate : Effect R B Unit := onStack fun s => s.duplicate.map ((), ·)

def exchange : Effect R B Unit := onStack fun s => s.exchange.map ((), ·)

def store (address value : R) : Effect R B Unit := do
  let rig ← get
  match rig.machine.store address value with
  | .ok machine => set { rig with machine }
  | .error fault => throw fault

def fetch (address : R) : Effect R B Unit := do
  match (← get).machine.fetch address with
  | .ok value => pushNumber value
  | .error fault => throw fault

theorem store_apply (address value : R) (rig : Rig R B) :
    store address value rig =
      match rig.machine.store address value with
      | .ok machine => .ok () { rig with machine }
      | .error fault => .error fault rig := by
  change (match rig.machine.store address value with
    | .ok machine => set { rig with machine }
    | .error fault => throw fault : Effect R B Unit) rig = _
  cases rig.machine.store address value <;> rfl

theorem fetch_apply (address : R) (rig : Rig R B) :
    fetch address rig =
      match rig.machine.fetch address with
      | .ok value => pushNumber value rig
      | .error fault => .error fault rig := by
  change (match rig.machine.fetch address with
    | .ok value => pushNumber value
    | .error fault => throw fault : Effect R B Unit) rig = _
  cases rig.machine.fetch address <;> rfl

def report (value : Value R) : Effect R B Unit :=
  modify fun rig =>
    { rig with machine := { rig.machine with reported := value :: rig.machine.reported } }

-- What a program can order its body to do.
inductive IsOrder (R : Type) {B : Type} [Body R B] : (B → B) → Prop where
  | fire : IsOrder R (Body.fire R)
  | teleport : IsOrder R (Body.teleport R)
  | setSpeed (left right : R) : IsOrder R (Body.setSpeed left right)
  | setTurret (angle : R) : IsOrder R (Body.setTurret angle)
  | setLed (on : Bool) : IsOrder R (Body.setLed R on)

-- A property of the effects that operations other than copying and storing are
-- composed of, splicing apart, and of everything composed of such effects.
structure ClosedPlain [Body R B] (P : {α : Type} → Effect R B α → Prop) : Prop where
  value : ∀ {α : Type} (a : α), P (pure a : Effect R B α)
  fault : ∀ {α : Type} (fault : Fault R), P (throw fault : Effect R B α)
  bind : ∀ {α β : Type} {e : Effect R B α} {f : α → Effect R B β},
    P e → (∀ a, P (f a)) → P (e >>= f)
  pop : P pop
  push : ∀ n, P (pushNumber n)
  exchange : P exchange
  fetch : ∀ address, P (fetch address)
  report : ∀ v, P (report v)
  ask : ∀ {α : Type} (question : B → α), P (ask question)
  tell : ∀ order, IsOrder R order → P (tell order)
  draw : ∀ bound, P (Operation.drawBelow bound : Effect R B R)

-- The same for all operations other than storing.
structure ClosedReading [Body R B] (P : {α : Type} → Effect R B α → Prop) : Prop extends
    ClosedPlain P where
  duplicate : P duplicate

-- The same for all operations.
structure Closed [Body R B] (P : {α : Type} → Effect R B α → Prop) : Prop extends
    ClosedReading P where
  store : ∀ address value, P (store address value)

namespace ClosedPlain

variable [Body R B] {P : {α : Type} → Effect R B α → Prop}

theorem popNumber (hP : ClosedPlain P) : P Effect.popNumber :=
  hP.bind hP.pop fun
    | .number _ => hP.value _
    | .block _ => hP.fault _
    | .word _ => hP.fault _

theorem popBlock (hP : ClosedPlain P) : P Effect.popBlock :=
  hP.bind hP.pop fun
    | .number _ => hP.fault _
    | .block _ => hP.value _
    | .word _ => hP.fault _

theorem popFinite (hP : ClosedPlain P) : P Effect.popFinite := by
  refine hP.bind hP.popNumber fun n => ?_
  split
  · exact hP.value n
  · exact hP.fault _

theorem apply (hP : ClosedPlain P) (f : BinaryOperation) (a b : R) :
    P (match f.apply a b with
      | .ok n => pushNumber n
      | .error fault => throw fault) := by
  cases f.apply a b with
  | ok n => exact hP.push _
  | error fault => exact hP.fault _

end ClosedPlain

end Effect

namespace Operation

open Effect

variable {R B : Type} [Scalar R] [Body R B]

-- What an operation does itself and the body it leads to. A branch only makes
-- its choice; no other operation leads to anything.
def choice : Operation → Effect R B (List (Value R))
  | .whenTrue => do
    let body ← popBlock
    let condition ← popNumber
    return if Scalar.isTrue condition then body else []
  | .choose => do
    let otherwise ← popBlock
    let body ← popBlock
    let condition ← popNumber
    return if Scalar.isTrue condition then body else otherwise
  | operation => do
    operation.perform
    return []

omit [Scalar R] [Body R B] in
theorem splice_nil : (splice [] : Effect R B Unit) = pure () := rfl

theorem perform_eq_choice (operation : Operation) :
    (operation.perform : Effect R B Unit) = choice operation >>= splice := by
  unfold choice
  split
  · simp only [perform, bind_assoc, pure_bind]
    refine bind_congr fun body => bind_congr fun condition => ?_
    rw [apply_ite splice, splice_nil]
  · simp only [perform, bind_assoc, pure_bind]
  · simp only [bind_assoc, pure_bind, splice_nil, bind_pure_unit]

-- What holds of all effects that operations are composed of holds of operations.
theorem closed_perform_plain {P : {α : Type} → Effect R B α → Prop} (hP : ClosedPlain P)
    (operation : Operation) (hif : operation ≠ .whenTrue) (helse : operation ≠ .choose)
    (hstore : operation ≠ .store) (hcopy : operation ≠ .duplicate) :
    P (operation.perform : Effect R B Unit) := by
  cases operation with
  | unary f => exact hP.bind hP.popNumber fun _ => hP.push _
  | binary f => exact hP.bind hP.popNumber fun b => hP.bind hP.popNumber fun a => hP.apply f a b
  | duplicate => exact absurd rfl hcopy
  | discard => exact hP.bind hP.pop fun _ => hP.value _
  | exchange => exact hP.exchange
  | whenTrue => exact absurd rfl hif
  | choose => exact absurd rfl helse
  | store => exact absurd rfl hstore
  | fetch => exact hP.bind hP.popNumber fun _ => hP.fetch _
  | fireReady => exact hP.bind (hP.ask _) fun _ => hP.push _
  | fire => exact hP.tell _ .fire
  | teleportReady => exact hP.bind (hP.ask _) fun _ => hP.push _
  | teleport => exact hP.tell _ .teleport
  | setSpeed =>
      exact hP.bind hP.popFinite fun _ => hP.bind hP.popFinite fun _ => hP.tell _ (.setSpeed _ _)
  | setTurret => exact hP.bind hP.popFinite fun _ => hP.tell _ (.setTurret _)
  | getTurret => exact hP.bind (hP.ask _) fun _ => hP.push _
  | readSensor => exact hP.bind hP.popNumber fun _ => hP.bind (hP.ask _) fun _ => hP.push _
  | setLed => exact hP.bind hP.popNumber fun _ => hP.tell _ (.setLed _)
  | random => exact hP.bind hP.popNumber fun _ => hP.bind (hP.draw _) fun _ => hP.push _
  | report => exact hP.bind hP.pop fun _ => hP.report _

theorem closed_perform_reading {P : {α : Type} → Effect R B α → Prop} (hP : ClosedReading P)
    (operation : Operation) (hif : operation ≠ .whenTrue) (helse : operation ≠ .choose)
    (hstore : operation ≠ .store) : P (operation.perform : Effect R B Unit) := by
  by_cases hcopy : operation = .duplicate
  · subst hcopy
    exact hP.duplicate
  · exact closed_perform_plain hP.toClosedPlain operation hif helse hstore hcopy

theorem closed_perform {P : {α : Type} → Effect R B α → Prop} (hP : Closed P)
    (operation : Operation) (hif : operation ≠ .whenTrue) (helse : operation ≠ .choose) :
    P (operation.perform : Effect R B Unit) := by
  by_cases hstore : operation = .store
  · subst hstore
    exact hP.bind hP.popNumber fun _ => hP.bind hP.popNumber fun _ => hP.store _ _
  · exact closed_perform_reading hP.toClosedReading operation hif helse hstore

theorem closed_choice {P : {α : Type} → Effect R B α → Prop} (hP : Closed P)
    (operation : Operation) : P (operation.choice : Effect R B (List (Value R))) := by
  unfold choice
  split
  · exact hP.bind hP.popBlock fun _ => hP.bind hP.popNumber fun _ => hP.value _
  · exact hP.bind hP.popBlock fun _ => hP.bind hP.popBlock fun _ =>
      hP.bind hP.popNumber fun _ => hP.value _
  · rename_i hif helse
    exact hP.bind (closed_perform hP operation hif helse) fun _ => hP.value _

end Operation

-- What also holds of splicing and of pushing blocks holds of executing any value.
theorem Rig.closed_execute {R B : Type} [Scalar R] [Body R B]
    {P : {α : Type} → Effect R B α → Prop} (hP : Effect.Closed P)
    (hpush : ∀ v, P (Effect.push v)) (hsplice : ∀ body, P (Effect.splice body)) (v : Vocabulary)
    (value : Value R) : P (Rig.execute v value : Effect R B Unit) := by
  unfold Rig.execute
  split
  · split
    · rw [Operation.perform_eq_choice]
      exact hP.bind (Operation.closed_choice hP _) hsplice
    · exact hP.fault _
  · exact hpush _

end Skirmish
