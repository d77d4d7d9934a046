import Skirmish.Geometry.Angle
import Skirmish.Language.Arithmetic
import Skirmish.Language.Body
import Skirmish.Language.Machine
import Skirmish.Language.Vocabulary

namespace Skirmish

-- A machine wired to the body its program drives.
structure Rig (R B : Type) where
  machine : Machine R
  body : B

-- A step of execution. A fault leaves behind what was done before it struck.
abbrev Effect (R B : Type) := EStateM (Fault R) (Rig R B)

namespace Effect

variable {R B : Type} [Scalar R]

def onStack {α : Type} (f : Stack R → Except StackFault (α × Stack R)) : Effect R B α :=
  fun rig => match f rig.machine.stack with
    | .ok (a, stack) => .ok a { rig with machine := { rig.machine with stack } }
    | .error fault => .error (.ofStack fault) rig

def pop : Effect R B (Value R) := onStack Stack.pop

def push (v : Value R) : Effect R B Unit := onStack fun s => (s.push v).map ((), ·)

def popNumber : Effect R B R := do
  match ← pop with
  | .number n => pure n
  | _ => throw (.typeMismatch .number)

def popFinite : Effect R B R := do
  let n ← popNumber
  if Scalar.isFinite n then pure n else throw (.typeMismatch .finiteNumber)

def popBlock : Effect R B (List (Value R)) := do
  match ← pop with
  | .block body => pure body
  | _ => throw (.typeMismatch .block)

def pushNumber (n : R) : Effect R B Unit := push (.number n)

def pushBool (b : Bool) : Effect R B Unit := pushNumber (Scalar.ofBool b)

def splice (body : List (Value R)) : Effect R B Unit :=
  modify fun rig => { rig with machine := rig.machine.splice body }

def ask {α : Type} (question : B → α) : Effect R B α := do
  return question (← get).body

def tell (order : B → B) : Effect R B Unit :=
  modify fun rig => { rig with body := order rig.body }

end Effect

namespace Operation

open Effect

variable {R B : Type} [Scalar R] [Body R B]

-- A number below the bound; bounds below 1 leave only 0, and nothing is drawn.
def drawBelow (bound : R) : Effect R B R := fun rig =>
  if bound < ((1 : Int) : R) then .ok ((0 : Int) : R) rig
  else
    let (n, body) := Body.random bound rig.body
    .ok n { rig with body }

-- Every operation pops and checks its operands, the last one first, before it
-- acts on anything else.
def perform : Operation → Effect R B Unit
  | .unary f => do
    let a ← popNumber
    pushNumber (f.apply a)
  | .binary f => do
    let b ← popNumber
    let a ← popNumber
    match f.apply a b with
    | .ok n => pushNumber n
    | .error fault => throw fault
  | .duplicate => onStack fun s => s.duplicate.map ((), ·)
  | .discard => do let _ ← pop
  | .exchange => onStack fun s => s.exchange.map ((), ·)
  | .whenTrue => do
    let body ← popBlock
    let condition ← popNumber
    if Scalar.isTrue condition then splice body
  | .choose => do
    let otherwise ← popBlock
    let body ← popBlock
    let condition ← popNumber
    splice (if Scalar.isTrue condition then body else otherwise)
  | .store => do
    let address ← popNumber
    let value ← popNumber
    let rig ← get
    match rig.machine.store address value with
    | .ok machine => set { rig with machine }
    | .error fault => throw fault
  | .fetch => do
    let address ← popNumber
    match (← get).machine.fetch address with
    | .ok value => pushNumber value
    | .error fault => throw fault
  | .fireReady => do pushBool (← ask (Body.fireReady R))
  | .fire => tell (Body.fire R)
  | .teleportReady => do pushBool (← ask (Body.teleportReady R))
  | .teleport => tell (Body.teleport R)
  | .setSpeed => do
    let right ← popFinite
    let left ← popFinite
    tell (Body.setSpeed left right)
  | .setTurret => do
    let degrees ← popFinite
    tell (Body.setTurret (Angle.ofDegrees degrees))
  | .getTurret => do pushNumber (Angle.toWholeDegrees (← ask Body.turret))
  | .readSensor => do
    let index ← popNumber
    let seen ← ask (Body.sensor index)
    pushNumber ((seen.toNat : Int) : R)
  | .setLed => do
    let on ← popNumber
    tell (Body.setLed R (Scalar.isTrue on))
  | .random => do
    let bound ← popNumber
    pushNumber (← drawBelow bound)
  | .report => do
    let value ← pop
    modify fun rig =>
      { rig with machine := { rig.machine with reported := value :: rig.machine.reported } }

end Operation

namespace Rig

open Effect

variable {R B : Type} [Scalar R] [Body R B]

-- Numbers and blocks are pushed; a word does the operation it names.
def execute (v : Vocabulary) : Value R → Effect R B Unit
  | .word name =>
    match v.lookup name with
    | some operation => operation.perform
    | none => throw (.unknownWord name)
  | value => push value

-- Takes the next command and executes it.
def step (v : Vocabulary) : Effect R B Unit := fun rig =>
  match rig.machine.commands with
  | [] => .ok () rig
  | value :: rest =>
    execute v value { rig with
      machine := { rig.machine with commands := rest, executed := rig.machine.executed + 1 } }

-- Executes commands until none is left, one faults, or `left` of them have been
-- executed and more remain.
def resume (v : Vocabulary) : Nat → Rig R B → Option (ProgramFault R) × Rig R B
  | left, rig =>
    match rig.machine.commands, left with
    | [], _ => (none, rig)
    | _ :: _, 0 => (some (.stopped (.exhausted .instructions) rig.machine.executed), rig)
    | _ :: _, left + 1 =>
      match step v rig with
      | .ok _ rig' => resume v left rig'
      | .error fault rig' => (some (.stopped fault rig.machine.executed), rig')

end Rig

-- The words that programs know, and how much a run may execute.
structure Interpreter where
  vocabulary : Vocabulary
  budget : Nat

-- Runs a program to its end or to its first fault.
def Interpreter.run {R B : Type} [Scalar R] [Body R B] (i : Interpreter) (program : Program R)
    (rig : Rig R B) : Option (ProgramFault R) × Rig R B :=
  Rig.resume i.vocabulary i.budget { rig with machine := rig.machine.load program }

end Skirmish
