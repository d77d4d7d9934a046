import Skirmish.Language.Stack
import Skirmish.Scalar

namespace Skirmish

def memorySize : Nat := 10

-- The state a program runs in. Memory lasts for a match; the rest is set up
-- anew for every run.
structure Machine (R : Type) where
  stack : Stack R
  -- Values still to be executed, the next one first.
  commands : List (Value R)
  memory : Vector R memorySize
  -- Values executed in this run.
  executed : Nat
  -- Values reported in this run, the last one first.
  reported : List (Value R)

namespace Machine

variable {R : Type} [Scalar R]

def fresh (stackLimit : Nat) : Machine R where
  stack := .empty stackLimit
  commands := []
  memory := .replicate memorySize ((0 : Int) : R)
  executed := 0
  reported := []

def load (program : Program R) (m : Machine R) : Machine R :=
  { m with stack := m.stack.clear, commands := program, executed := 0, reported := [] }

-- Puts a block's values in front of all others, to run in their order.
def splice (body : List (Value R)) (m : Machine R) : Machine R :=
  { m with commands := body ++ m.commands }

-- Only whole numbers from 0 on, below the size of the memory, are addresses.
def slot? (address : R) : Option (Fin memorySize) :=
  let slot := (Scalar.truncate address).toNat
  if Scalar.isWhole address && !(decide (address < ((0 : Int) : R))) then
    if h : slot < memorySize then some ⟨slot, h⟩ else none
  else none

def fetch (address : R) (m : Machine R) : Except (Fault R) R :=
  match slot? address with
  | some slot => .ok m.memory[slot]
  | none => .error (.invalidAddress address)

def store (address value : R) (m : Machine R) : Except (Fault R) (Machine R) :=
  match slot? address with
  | some slot => .ok { m with memory := m.memory.set slot value }
  | none => .error (.invalidAddress address)

end Machine

end Skirmish
