import Skirmish.Proofs.Language.Operands

namespace Skirmish

variable {R B : Type}

-- The numbers that an operation with so many operands takes from the top of the
-- stack, or what stops it at the first value that is not one.
def Stack.operands : Nat → List (Value R) → Except (Fault R) (List R)
  | 0, _ => .ok []
  | _ + 1, [] => .error .stackUnderflow
  | count + 1, .number n :: below => (operands count below).map (n :: ·)
  | _ + 1, _ :: _ => .error (.typeMismatch .number)

theorem Stack.of_operands_eq_ok {count : Nat} {items : List (Value R)} {numbers : List R}
    (h : operands count items = .ok numbers) :
    ∃ below, items = numbers.map .number ++ below ∧ numbers.length = count := by
  induction count generalizing items numbers with
  | zero =>
      cases h
      exact ⟨items, rfl, rfl⟩
  | succ count ih =>
      match items with
      | [] => contradiction
      | .block _ :: _ => contradiction
      | .word _ :: _ => contradiction
      | .number n :: below =>
          cases hrest : operands count below with
          | error fault =>
              rw [operands, hrest] at h
              contradiction
          | ok others =>
              rw [operands, hrest] at h
              cases h
              obtain ⟨rest, rfl, rfl⟩ := ih hrest
              exact ⟨rest, rfl, rfl⟩

def Rig.holding (stack : Stack R) (rig : Rig R B) : Rig R B :=
  { rig with machine := { rig.machine with stack } }

namespace Effect

variable {α β : Type}

theorem bind_of_eq_ok {e : Effect R B α} {rig between : Rig R B} {a : α} (h : e rig = .ok a between)
    (f : α → Effect R B β) : (e >>= f) rig = f a between := by
  have hbind : (e >>= f) rig = EStateM.bind e f rig := rfl
  rw [hbind, EStateM.bind, h]

theorem bind_of_eq_error {e : Effect R B α} {rig after : Rig R B} {fault : Fault R}
    (h : e rig = .error fault after) (f : α → Effect R B β) :
    (e >>= f) rig = .error fault after := by
  have hbind : (e >>= f) rig = EStateM.bind e f rig := rfl
  rw [hbind, EStateM.bind, h]

theorem pop_of_items {rig : Rig R B} {value : Value R} {below : List (Value R)}
    (h : rig.machine.stack.items = value :: below) :
    pop rig = .ok value (rig.holding ⟨below, rig.machine.stack.room + 1⟩) := by
  unfold pop onStack Stack.pop
  rw [h]
  rfl

theorem popNumber_of_items {rig : Rig R B} {n : R} {below : List (Value R)}
    (h : rig.machine.stack.items = .number n :: below) :
    popNumber rig = .ok n (rig.holding ⟨below, rig.machine.stack.room + 1⟩) :=
  bind_of_eq_ok (pop_of_items h) _

theorem popBlock_of_items {rig : Rig R B} {body : List (Value R)} {below : List (Value R)}
    (h : rig.machine.stack.items = .block body :: below) :
    popBlock rig = .ok body (rig.holding ⟨below, rig.machine.stack.room + 1⟩) :=
  bind_of_eq_ok (pop_of_items h) _

theorem push_of_push {rig : Rig R B} {value : Value R} {stack : Stack R}
    (h : rig.machine.stack.push value = .ok stack) : push value rig = .ok () (rig.holding stack) := by
  unfold push onStack
  dsimp only
  rw [h]
  rfl

-- Operands that are missing or no numbers stop an operation before it does anything.
theorem popNumber_of_operands {rig : Rig R B} {count : Nat} {fault : Fault R}
    (h : Stack.operands (count + 1) rig.machine.stack.items = .error fault) :
    (∃ stack, popNumber rig = .error fault (rig.holding stack)) ∨
      ∃ n stack, popNumber rig = .ok n (rig.holding stack) ∧
        Stack.operands count stack.items = .error fault := by
  cases hitems : rig.machine.stack.items with
  | nil =>
      rw [hitems] at h
      cases h
      left
      refine ⟨rig.machine.stack, bind_of_eq_error ?_ _⟩
      unfold pop onStack Stack.pop
      rw [hitems]
      rfl
  | cons value below =>
      rw [hitems] at h
      have hpop := pop_of_items hitems
      cases value with
      | number n =>
          refine .inr ⟨n, _, popNumber_of_items hitems, ?_⟩
          cases hrest : Stack.operands count below with
          | ok numbers =>
              rw [Stack.operands, hrest] at h
              contradiction
          | error fault' =>
              rw [Stack.operands, hrest] at h
              cases h
              rfl
      | block body =>
          cases h
          exact .inl ⟨_, bind_of_eq_ok hpop _⟩
      | word name =>
          cases h
          exact .inl ⟨_, bind_of_eq_ok hpop _⟩

end Effect

end Skirmish
