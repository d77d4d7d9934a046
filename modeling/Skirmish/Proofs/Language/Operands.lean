import Skirmish.Proofs.Language.Effects

namespace Skirmish

variable {R B : Type}

-- Values are taken off the stack and nothing else is done.
structure Rig.Popped (before after : Rig R B) : Prop where
  items : after.machine.stack.items <:+ before.machine.stack.items
  limit : after.machine.stack.limit = before.machine.stack.limit
  commands : after.machine.commands = before.machine.commands
  memory : after.machine.memory = before.machine.memory
  executed : after.machine.executed = before.machine.executed
  reported : after.machine.reported = before.machine.reported
  body : after.body = before.body

theorem Rig.Popped.refl (rig : Rig R B) : rig.Popped rig := by
  constructor
  · exact List.suffix_rfl
  all_goals rfl

theorem Rig.Popped.trans {before between after : Rig R B} (h : before.Popped between)
    (h' : between.Popped after) : before.Popped after where
  items := h'.items.trans h.items
  limit := h'.limit.trans h.limit
  commands := h'.commands.trans h.commands
  memory := h'.memory.trans h.memory
  executed := h'.executed.trans h.executed
  reported := h'.reported.trans h.reported
  body := h'.body.trans h.body

-- Popping makes room for one more value.
theorem Stack.of_pop_eq_ok {s rest : Stack R} {v : Value R} (h : s.pop = .ok (v, rest)) :
    s.items = v :: rest.items ∧ rest.room = s.room + 1 := by
  unfold pop at h
  split at h
  · contradiction
  · rename_i hitems
    cases h
    exact ⟨hitems, rfl⟩

theorem Stack.limit_of_pop {s rest : Stack R} {v : Value R} (h : s.pop = .ok (v, rest)) :
    rest.limit = s.limit := by
  obtain ⟨hitems, hroom⟩ := of_pop_eq_ok h
  unfold limit size
  rw [hitems, hroom, List.length_cons]
  omega

theorem Stack.exists_push {s : Stack R} (h : 0 < s.room) (v : Value R) :
    ∃ stack, s.push v = .ok stack := by
  obtain ⟨room, hroom⟩ := Nat.exists_eq_succ_of_ne_zero (Nat.ne_of_gt h)
  unfold push
  rw [hroom]
  exact ⟨_, rfl⟩

theorem BinaryOperation.fault_of_apply [Scalar R] {f : BinaryOperation} {a b : R} {fault : Fault R}
    (h : f.apply a b = .error fault) : fault = .divisionByZero := by
  cases f with
  | divide | modulo =>
      simp only [apply] at h
      split at h
      · exact (Except.error.inj h).symm
      · contradiction
  | _ => contradiction

namespace Effect

variable {α β : Type}

theorem of_bind_eq_ok {e : Effect R B α} {f : α → Effect R B β} {rig after : Rig R B} {b : β}
    (h : (e >>= f) rig = .ok b after) :
    ∃ a between, e rig = .ok a between ∧ f a between = .ok b after := by
  have hbind : (e >>= f) rig = EStateM.bind e f rig := rfl
  rw [hbind, EStateM.bind] at h
  cases hr : e rig with
  | ok a between =>
      rw [hr] at h
      exact ⟨a, between, rfl, h⟩
  | error fault between =>
      rw [hr] at h
      contradiction

theorem of_bind_eq_error {e : Effect R B α} {f : α → Effect R B β} {rig after : Rig R B}
    {fault : Fault R} (h : (e >>= f) rig = .error fault after) :
    e rig = .error fault after ∨
      ∃ a between, e rig = .ok a between ∧ f a between = .error fault after := by
  have hbind : (e >>= f) rig = EStateM.bind e f rig := rfl
  rw [hbind, EStateM.bind] at h
  cases hr : e rig with
  | ok a between =>
      rw [hr] at h
      exact .inr ⟨a, between, rfl, h⟩
  | error fault' between =>
      rw [hr] at h
      cases h
      exact .inl rfl

-- A fault leaves nothing behind but what has been popped. No operation can use up
-- the budget of a run.
def FaultsCleanly (e : Effect R B α) : Prop := ∀ rig fault after,
  e rig = .error fault after → rig.Popped after ∧ fault ≠ .exhausted .instructions

-- An effect that only takes operands off the stack.
structure OnlyPops (e : Effect R B α) : Prop where
  popped : ∀ {rig a after}, e rig = .ok a after → rig.Popped after
  faults : FaultsCleanly e

-- What comes before the last action of an operation only pops.
theorem OnlyPops.then {e : Effect R B α} {f : α → Effect R B β} (he : OnlyPops e)
    (hf : ∀ a, FaultsCleanly (f a)) : FaultsCleanly (e >>= f) := by
  intro rig fault after h
  rcases of_bind_eq_error h with hfirst | ⟨a, between, hfirst, hnext⟩
  · exact he.faults rig fault after hfirst
  · obtain ⟨hpopped, hne⟩ := hf a between fault after hnext
    exact ⟨(he.popped hfirst).trans hpopped, hne⟩

theorem OnlyPops.bind {e : Effect R B α} {f : α → Effect R B β} (he : OnlyPops e)
    (hf : ∀ a, OnlyPops (f a)) : OnlyPops (e >>= f) where
  popped h := by
    obtain ⟨a, between, hfirst, hnext⟩ := of_bind_eq_ok h
    exact (he.popped hfirst).trans ((hf a).popped hnext)
  faults := he.then fun a => (hf a).faults

theorem faultsCleanly_of_ok {e : Effect R B α} (h : ∀ rig, ∃ a after, e rig = .ok a after) :
    FaultsCleanly e := by
  intro rig fault after hfault
  obtain ⟨a, other, hok⟩ := h rig
  rw [hok] at hfault
  contradiction

theorem faultsCleanly_onStack (f : Stack R → Except StackFault (α × Stack R)) :
    FaultsCleanly (onStack f : Effect R B α) := by
  intro rig fault after h
  unfold onStack at h
  split at h
  · contradiction
  · rename_i stackFault _
    cases h
    refine ⟨.refl rig, ?_⟩
    cases stackFault <;> simp [Fault.ofStack]

theorem onlyPops_pure (a : α) : OnlyPops (pure a : Effect R B α) where
  popped h := by
    cases h
    exact .refl _
  faults := faultsCleanly_of_ok fun rig => ⟨a, rig, rfl⟩

theorem onlyPops_throw {fault : Fault R} (hfault : fault ≠ .exhausted .instructions) :
    OnlyPops (throw fault : Effect R B α) where
  popped h := by cases h
  faults rig _ _ h := by
    cases h
    exact ⟨.refl rig, hfault⟩

theorem onlyPops_ask (question : B → α) : OnlyPops (ask question : Effect R B α) where
  popped h := by
    cases h
    exact .refl _
  faults := faultsCleanly_of_ok fun rig => ⟨question rig.body, rig, rfl⟩

theorem of_onStack_eq_ok {f : Stack R → Except StackFault (α × Stack R)} {rig after : Rig R B}
    {a : α} (h : (onStack f : Effect R B α) rig = .ok a after) :
    ∃ stack, f rig.machine.stack = .ok (a, stack) ∧
      after = { rig with machine := { rig.machine with stack } } := by
  unfold onStack at h
  split at h
  · rename_i stack hf
    cases h
    exact ⟨stack, hf, rfl⟩
  · contradiction

theorem onlyPops_pop : OnlyPops (pop : Effect R B (Value R)) where
  popped h := by
    obtain ⟨stack, hpop, rfl⟩ := of_onStack_eq_ok h
    refine { Rig.Popped.refl _ with items := ?_, limit := Stack.limit_of_pop hpop }
    rw [(Stack.of_pop_eq_ok hpop).1]
    exact List.suffix_cons _ _
  faults := faultsCleanly_onStack _

theorem onlyPops_popNumber : OnlyPops (popNumber : Effect R B R) :=
  onlyPops_pop.bind fun
    | .number n => onlyPops_pure n
    | .block _ => onlyPops_throw (by simp)
    | .word _ => onlyPops_throw (by simp)

theorem onlyPops_popBlock : OnlyPops (popBlock : Effect R B (List (Value R))) :=
  onlyPops_pop.bind fun
    | .number _ => onlyPops_throw (by simp)
    | .block body => onlyPops_pure body
    | .word _ => onlyPops_throw (by simp)

theorem room_of_popNumber {rig after : Rig R B} {n : R} (h : popNumber rig = .ok n after) :
    0 < after.machine.stack.room := by
  obtain ⟨v, between, hpop, hnumber⟩ := of_bind_eq_ok h
  obtain ⟨stack, hstack, rfl⟩ := of_onStack_eq_ok hpop
  have hroom := (Stack.of_pop_eq_ok hstack).2
  cases v with
  | number n =>
      cases hnumber
      dsimp only
      omega
  | block body => contradiction
  | word name => contradiction

theorem faultsCleanly_push (v : Value R) : FaultsCleanly (push v : Effect R B Unit) :=
  faultsCleanly_onStack _

theorem push_of_room (rig : Rig R B) (h : 0 < rig.machine.stack.room) (v : Value R) :
    ∃ after, push v rig = .ok () after := by
  obtain ⟨stack, hstack⟩ := Stack.exists_push h v
  dsimp only [push, onStack]
  rw [hstack]
  exact ⟨_, rfl⟩

variable [Scalar R]

theorem onlyPops_popFinite : OnlyPops (popFinite : Effect R B R) := by
  refine onlyPops_popNumber.bind fun n => ?_
  split
  · exact onlyPops_pure n
  · exact onlyPops_throw (by simp)

theorem faultsCleanly_apply (f : BinaryOperation) (a b : R) :
    FaultsCleanly (match f.apply a b with
      | .ok n => pushNumber n
      | .error fault => throw fault : Effect R B Unit) := by
  cases hf : f.apply a b with
  | ok n => exact faultsCleanly_push _
  | error fault =>
      rw [BinaryOperation.fault_of_apply hf]
      exact (onlyPops_throw (by simp)).faults

theorem faultsCleanly_store (address value : R) :
    FaultsCleanly (store address value : Effect R B Unit) := by
  intro rig fault after h
  simp only [store_apply, Machine.store] at h
  cases hslot : Machine.slot? address with
  | some slot =>
      rw [hslot] at h
      contradiction
  | none =>
      rw [hslot] at h
      cases h
      exact ⟨.refl rig, by simp⟩

theorem faultsCleanly_fetch (address : R) : FaultsCleanly (fetch address : Effect R B Unit) := by
  intro rig fault after h
  simp only [fetch_apply, Machine.fetch] at h
  cases hslot : Machine.slot? address with
  | some slot =>
      rw [hslot] at h
      exact faultsCleanly_push _ rig fault after h
  | none =>
      rw [hslot] at h
      cases h
      exact ⟨.refl rig, by simp⟩

variable [Body R B]

theorem exists_drawBelow (bound : R) (rig : Rig R B) :
    ∃ n body, Operation.drawBelow bound rig = .ok n { rig with body } := by
  unfold Operation.drawBelow
  split
  · exact ⟨_, rig.body, rfl⟩
  · exact ⟨_, _, rfl⟩

-- A draw cannot be undone, but its result has room where its bound has been.
theorem faultsCleanly_random : FaultsCleanly (Operation.random.perform : Effect R B Unit) := by
  intro rig fault after h
  rcases of_bind_eq_error h with hpop | ⟨bound, between, hpop, hrest⟩
  · exact onlyPops_popNumber.faults rig fault after hpop
  · obtain ⟨n, body, hdraw⟩ := exists_drawBelow bound between
    have hroom : 0 < between.machine.stack.room := room_of_popNumber hpop
    obtain ⟨pushed, hpush⟩ := push_of_room { between with body } hroom (.number n)
    rcases of_bind_eq_error hrest with hfault | ⟨n', drawn, hdraw', hfault⟩
    · rw [hdraw] at hfault
      contradiction
    · rw [hdraw] at hdraw'
      cases hdraw'
      unfold pushNumber at hfault
      rw [hpush] at hfault
      contradiction

end Effect

namespace Operation

open Effect

variable [Scalar R] [Body R B]

-- An operation that faults has done nothing but pop.
theorem faultsCleanly_perform (operation : Operation) :
    FaultsCleanly (operation.perform : Effect R B Unit) := by
  cases operation with
  | unary f => exact onlyPops_popNumber.then fun _ => faultsCleanly_push _
  | binary f =>
      exact onlyPops_popNumber.then fun _ => (onlyPops_popNumber.then fun _ =>
        faultsCleanly_apply f _ _)
  | duplicate => exact faultsCleanly_onStack fun s => s.duplicate.map ((), ·)
  | discard => exact onlyPops_pop.then fun _ => faultsCleanly_of_ok fun rig => ⟨(), rig, rfl⟩
  | exchange => exact faultsCleanly_onStack fun s => s.exchange.map ((), ·)
  | whenTrue =>
      refine onlyPops_popBlock.then fun body => onlyPops_popNumber.then fun condition => ?_
      split
      · exact faultsCleanly_of_ok fun rig => ⟨(), _, rfl⟩
      · exact faultsCleanly_of_ok fun rig => ⟨(), rig, rfl⟩
  | choose =>
      exact onlyPops_popBlock.then fun _ => (onlyPops_popBlock.then fun _ =>
        (onlyPops_popNumber.then fun _ => faultsCleanly_of_ok fun rig => ⟨(), _, rfl⟩))
  | store =>
      exact onlyPops_popNumber.then fun _ => (onlyPops_popNumber.then fun _ =>
        faultsCleanly_store _ _)
  | fetch => exact onlyPops_popNumber.then fun _ => faultsCleanly_fetch _
  | fireReady => exact (onlyPops_ask _).then fun _ => faultsCleanly_push _
  | fire => exact faultsCleanly_of_ok fun rig => ⟨(), _, rfl⟩
  | teleportReady => exact (onlyPops_ask _).then fun _ => faultsCleanly_push _
  | teleport => exact faultsCleanly_of_ok fun rig => ⟨(), _, rfl⟩
  | setSpeed =>
      exact onlyPops_popFinite.then fun _ => (onlyPops_popFinite.then fun _ =>
        faultsCleanly_of_ok fun rig => ⟨(), _, rfl⟩)
  | setTurret =>
      exact onlyPops_popFinite.then fun _ => faultsCleanly_of_ok fun rig => ⟨(), _, rfl⟩
  | getTurret => exact (onlyPops_ask _).then fun _ => faultsCleanly_push _
  | readSensor =>
      exact onlyPops_popNumber.then fun _ => ((onlyPops_ask _).then fun _ => faultsCleanly_push _)
  | setLed => exact onlyPops_popNumber.then fun _ => faultsCleanly_of_ok fun rig => ⟨(), _, rfl⟩
  | random => exact faultsCleanly_random
  | report => exact onlyPops_pop.then fun _ => faultsCleanly_of_ok fun rig => ⟨(), _, rfl⟩

end Operation

theorem Rig.faultsCleanly_execute [Scalar R] [Body R B] (v : Vocabulary) (value : Value R) :
    Effect.FaultsCleanly (execute v value : Effect R B Unit) := by
  cases value with
  | number n => exact Effect.faultsCleanly_push _
  | block body => exact Effect.faultsCleanly_push _
  | word name =>
      unfold execute
      dsimp only
      cases v.lookup name with
      | none => exact (Effect.onlyPops_throw (by simp)).faults
      | some operation => exact operation.faultsCleanly_perform

end Skirmish
