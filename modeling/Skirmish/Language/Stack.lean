import Skirmish.Language.Fault
import Skirmish.Language.Value

namespace Skirmish

-- A stack of values, the top first, with room for so many more.
structure Stack (R : Type) where
  items : List (Value R)
  room : Nat

namespace Stack

variable {R : Type}

-- A stack that takes no more than so many values.
def empty (limit : Nat) : Stack R := ⟨[], limit⟩

def size (s : Stack R) : Nat := s.items.length

-- The most values the stack takes. No operation changes it.
def limit (s : Stack R) : Nat := s.size + s.room

def push (v : Value R) (s : Stack R) : Except StackFault (Stack R) :=
  match s.room with
  | 0 => .error .overflow
  | room + 1 => .ok ⟨v :: s.items, room⟩

def pop (s : Stack R) : Except StackFault (Value R × Stack R) :=
  match s.items with
  | [] => .error .underflow
  | v :: rest => .ok (v, ⟨rest, s.room + 1⟩)

def duplicate (s : Stack R) : Except StackFault (Stack R) :=
  match s.items with
  | [] => .error .underflow
  | v :: _ => s.push v

def exchange (s : Stack R) : Except StackFault (Stack R) :=
  match s.items with
  | v :: w :: rest => .ok { s with items := w :: v :: rest }
  | _ => .error .underflow

def clear (s : Stack R) : Stack R := .empty s.limit

end Stack

end Skirmish
