import Skirmish.Proofs.Language.Origins
import Skirmish.Proofs.Language.Popping

namespace Skirmish

variable {R B B' : Type}

-- Two rigs with the same machine and with bodies that are related.
structure Rig.Twins (Rel : B → B' → Prop) (rig : Rig R B) (twin : Rig R B') : Prop where
  machine : rig.machine = twin.machine
  body : Rel rig.body twin.body

namespace Effect

variable {α β : Type} {Rel : B → B' → Prop}

-- The same result or the same fault, with twins left behind.
inductive SameOutcome (Rel : B → B' → Prop) : EStateM.Result (Fault R) (Rig R B) α →
    EStateM.Result (Fault R) (Rig R B') α → Prop
  | ok (a : α) {rig : Rig R B} {twin : Rig R B'} (h : rig.Twins Rel twin) :
      SameOutcome Rel (.ok a rig) (.ok a twin)
  | error (fault : Fault R) {rig : Rig R B} {twin : Rig R B'} (h : rig.Twins Rel twin) :
      SameOutcome Rel (.error fault rig) (.error fault twin)

-- Effects that do the same to twins.
def Alike (Rel : B → B' → Prop) (e : Effect R B α) (e' : Effect R B' α) : Prop :=
  ∀ rig twin, Rig.Twins Rel rig twin → SameOutcome Rel (e rig) (e' twin)

theorem alike_pure (a : α) : Alike Rel (pure a : Effect R B α) (pure a : Effect R B' α) :=
  fun _ _ h => .ok a h

theorem alike_throw (fault : Fault R) :
    Alike Rel (throw fault : Effect R B α) (throw fault : Effect R B' α) :=
  fun _ _ h => .error fault h

theorem Alike.bind {e : Effect R B α} {e' : Effect R B' α} {f : α → Effect R B β}
    {f' : α → Effect R B' β} (he : Alike Rel e e') (hf : ∀ a, Alike Rel (f a) (f' a)) :
    Alike Rel (e >>= f) (e' >>= f') := by
  intro rig twin h
  have hfirst := he rig twin h
  generalize hr : e rig = result, hr' : e' twin = result' at hfirst
  cases hfirst with
  | ok a hbetween =>
      rw [bind_of_eq_ok hr, bind_of_eq_ok hr']
      exact hf a _ _ hbetween
  | error fault hafter =>
      rw [bind_of_eq_error hr, bind_of_eq_error hr']
      exact .error fault hafter

theorem alike_onStack (f : Stack R → Except StackFault (α × Stack R)) :
    Alike Rel (onStack f : Effect R B α) (onStack f : Effect R B' α) := by
  intro rig twin h
  unfold onStack
  rw [h.machine]
  cases f twin.machine.stack with
  | ok result => exact .ok result.1 ⟨rfl, h.body⟩
  | error fault => exact .error _ h

theorem alike_push (v : Value R) : Alike Rel (push v : Effect R B Unit) (push v) := alike_onStack _

theorem alike_popNumber : Alike Rel (popNumber : Effect R B R) popNumber :=
  (alike_onStack Stack.pop).bind fun
    | .number n => alike_pure n
    | .block _ => alike_throw _
    | .word _ => alike_throw _

theorem alike_popBlock : Alike Rel (popBlock : Effect R B (List (Value R))) popBlock :=
  (alike_onStack Stack.pop).bind fun
    | .number _ => alike_throw _
    | .block body => alike_pure body
    | .word _ => alike_throw _

theorem alike_splice (body : List (Value R)) :
    Alike Rel (splice body : Effect R B Unit) (splice body) :=
  fun _ _ h => .ok () ⟨congrArg (Machine.splice body) h.machine, h.body⟩

theorem alike_report (value : Value R) :
    Alike Rel (report value : Effect R B Unit) (report value) :=
  fun _ _ h => .ok () ⟨congrArg
    (fun machine => { machine with reported := value :: machine.reported }) h.machine, h.body⟩

theorem alike_ask {question : B → α} {question' : B' → α}
    (hsame : ∀ b b', Rel b b' → question b = question' b') :
    Alike Rel (ask question : Effect R B α) (ask question') := by
  intro rig twin h
  have hask : (ask question : Effect R B α) rig = .ok (question' twin.body) rig :=
    congrArg (EStateM.Result.ok · rig) (hsame _ _ h.body)
  rw [hask]
  exact .ok _ h

theorem alike_tell {order : B → B} {order' : B' → B'}
    (hkept : ∀ b b', Rel b b' → Rel (order b) (order' b')) :
    Alike Rel (tell order : Effect R B Unit) (tell order') :=
  fun _ _ h => .ok () ⟨h.machine, hkept _ _ h.body⟩

variable [Scalar R]

theorem alike_popFinite : Alike Rel (popFinite : Effect R B R) popFinite := by
  refine alike_popNumber.bind fun n => ?_
  split
  · exact alike_pure n
  · exact alike_throw _

theorem alike_store (address value : R) :
    Alike Rel (store address value : Effect R B Unit) (store address value) := by
  intro rig twin h
  rw [store_apply, store_apply, h.machine]
  cases twin.machine.store address value with
  | ok machine => exact .ok () ⟨rfl, h.body⟩
  | error fault => exact .error fault h

theorem alike_fetch (address : R) :
    Alike Rel (fetch address : Effect R B Unit) (fetch address) := by
  intro rig twin h
  rw [fetch_apply, fetch_apply, h.machine]
  cases twin.machine.fetch address with
  | ok value => exact alike_push (.number value) rig twin h
  | error fault => exact .error fault h

variable [Body R B] [Body R B']

theorem alike_drawBelow (bound : R)
    (hsame : ∀ b b', Rel b b' → (Body.random bound b).1 = (Body.random bound b').1 ∧
      Rel (Body.random bound b).2 (Body.random bound b').2) :
    Alike Rel (Operation.drawBelow bound : Effect R B R) (Operation.drawBelow bound) := by
  intro rig twin h
  unfold Operation.drawBelow
  split
  · exact .ok _ h
  · have hrelated := hsame _ _ h.body
    generalize Body.random bound rig.body = drawn, Body.random bound twin.body = drawn' at hrelated ⊢
    obtain ⟨n, body⟩ := drawn
    obtain ⟨n', body'⟩ := drawn'
    obtain ⟨rfl, hleft⟩ := hrelated
    exact .ok n ⟨h.machine, hleft⟩

end Effect

open Effect

variable [Scalar R] [Body R B] [Body R B'] {Rel : B → B' → Prop}

namespace Operation

-- Related bodies give the operation the same answers, and doing it leaves them related.
-- Nothing is asked of operations that leave bodies alone.
def Uniform (R : Type) [Scalar R] [Body R B] [Body R B'] (Rel : B → B' → Prop) : Operation → Prop
  | .fireReady => ∀ b b', Rel b b' → Body.fireReady R b = Body.fireReady R b'
  | .fire => ∀ b b', Rel b b' → Rel (Body.fire R b) (Body.fire R b')
  | .teleportReady => ∀ b b', Rel b b' → Body.teleportReady R b = Body.teleportReady R b'
  | .teleport => ∀ b b', Rel b b' → Rel (Body.teleport R b) (Body.teleport R b')
  | .setSpeed => ∀ (left right : R) b b', Rel b b' →
      Rel (Body.setSpeed left right b) (Body.setSpeed left right b')
  | .setTurret => ∀ (angle : R) b b', Rel b b' →
      Rel (Body.setTurret angle b) (Body.setTurret angle b')
  | .getTurret => ∀ b b', Rel b b' → (Body.turret b : R) = Body.turret b'
  | .readSensor => ∀ (number : R) b b', Rel b b' → Body.sensor number b = Body.sensor number b'
  | .setLed => ∀ on b b', Rel b b' → Rel (Body.setLed R on b) (Body.setLed R on b')
  | .random => ∀ (bound : R) b b', Rel b b' →
      (Body.random bound b).1 = (Body.random bound b').1 ∧
        Rel (Body.random bound b).2 (Body.random bound b').2
  | _ => True

theorem alike_perform {operation : Operation} (h : operation.Uniform R Rel) :
    Alike Rel (operation.perform : Effect R B Unit) operation.perform := by
  cases operation with
  | unary f => exact alike_popNumber.bind fun _ => alike_push _
  | binary f =>
      refine alike_popNumber.bind fun b => alike_popNumber.bind fun a => ?_
      cases f.apply a b with
      | ok n => exact alike_push _
      | error fault => exact alike_throw fault
  | duplicate => exact alike_onStack fun s => s.duplicate.map ((), ·)
  | discard => exact (alike_onStack _).bind fun _ => alike_pure _
  | exchange => exact alike_onStack fun s => s.exchange.map ((), ·)
  | whenTrue =>
      refine alike_popBlock.bind fun body => alike_popNumber.bind fun condition => ?_
      split
      · exact alike_splice body
      · exact alike_pure ()
  | choose =>
      exact alike_popBlock.bind fun _ => alike_popBlock.bind fun _ =>
        alike_popNumber.bind fun _ => alike_splice _
  | store => exact alike_popNumber.bind fun _ => alike_popNumber.bind fun _ => alike_store _ _
  | fetch => exact alike_popNumber.bind fun _ => alike_fetch _
  | fireReady => exact (alike_ask h).bind fun _ => alike_push _
  | fire => exact alike_tell h
  | teleportReady => exact (alike_ask h).bind fun _ => alike_push _
  | teleport => exact alike_tell h
  | setSpeed =>
      exact alike_popFinite.bind fun _ => alike_popFinite.bind fun _ => alike_tell (h _ _)
  | setTurret => exact alike_popFinite.bind fun _ => alike_tell (h _)
  | getTurret => exact (alike_ask h).bind fun _ => alike_push _
  | readSensor =>
      exact alike_popNumber.bind fun n => (alike_ask (h n)).bind fun _ => alike_push _
  | setLed => exact alike_popNumber.bind fun _ => alike_tell (h _)
  | random => exact alike_popNumber.bind fun n => (alike_drawBelow n (h n)).bind fun _ => alike_push _
  | report => exact (alike_onStack _).bind fun _ => alike_report _

-- The core operations leave all bodies alone.
theorem uniform_of_core {operation : Operation} (h : operation ∈ Vocabulary.core.operations)
    (Rel : B → B' → Prop) : operation.Uniform R Rel := by
  cases operation with
  | fireReady | fire | teleportReady | teleport | setSpeed | setTurret | getTurret | readSensor
  | setLed | random => exact absurd h (by decide)
  | _ => trivial

end Operation

namespace Rig

-- Only what the next word is bound to can tell bodies apart.
theorem sameOutcome_step {v : Vocabulary} {rig : Rig R B} {twin : Rig R B'}
    (h : rig.Twins Rel twin)
    (hword : ∀ name rest operation, rig.machine.commands = .word name :: rest →
      v.lookup name = some operation → operation.Uniform R Rel) :
    SameOutcome Rel (step v rig) (step v twin) := by
  cases hcommands : rig.machine.commands with
  | nil =>
      unfold step
      rw [← h.machine, hcommands]
      exact .ok () h
  | cons value rest =>
      have htaking : (rig.taking rest).Twins Rel (twin.taking rest) :=
        ⟨congrArg (fun machine : Machine R =>
          { machine with commands := rest, executed := machine.executed + 1 }) h.machine, h.body⟩
      rw [step_of_commands v hcommands, step_of_commands v (h.machine ▸ hcommands)]
      cases value with
      | number n => exact alike_push _ _ _ htaking
      | block body => exact alike_push _ _ _ htaking
      | word name =>
          cases hlookup : v.lookup name with
          | none =>
              rw [execute_unbound hlookup, execute_unbound hlookup]
              exact alike_throw _ _ _ htaking
          | some operation =>
              rw [execute_word hlookup, execute_word hlookup]
              exact Operation.alike_perform (hword name rest operation hcommands hlookup) _ _ htaking

-- Twins stay twins for as long as nothing is executed that could tell them apart, and
-- both runs end in the same way. The property of rigs says what can be executed.
theorem twins_resume {v : Vocabulary} {P : Rig R B → Prop}
    (hkept : ∀ rig : Rig R B, rig.machine.commands ≠ [] → P rig → P ((step v).leaves rig))
    (hword : ∀ (rig : Rig R B) name rest operation, P rig →
      rig.machine.commands = .word name :: rest → v.lookup name = some operation →
        operation.Uniform R Rel)
    (left : Nat) {rig : Rig R B} {twin : Rig R B'} (h : rig.Twins Rel twin) (hrig : P rig) :
    (resume v left rig).1 = (resume v left twin).1 ∧
      (resume v left rig).2.Twins Rel (resume v left twin).2 := by
  induction left generalizing rig twin with
  | zero =>
      unfold resume
      rw [← h.machine]
      cases rig.machine.commands with
      | nil => exact ⟨rfl, h⟩
      | cons value rest => exact ⟨rfl, h⟩
  | succ left ih =>
      by_cases hcommands : rig.machine.commands = []
      · unfold resume
        rw [← h.machine, hcommands]
        exact ⟨rfl, h⟩
      · have hstep := sameOutcome_step h fun name rest operation => hword rig name rest operation hrig
        have hnext := hkept rig hcommands hrig
        rw [resume_next v left hcommands, resume_next v left (h.machine ▸ hcommands), h.machine]
        generalize hr : step v rig = result, hr' : step v twin = result' at hstep
        cases hstep with
        | ok _ hbetween =>
            rw [leaves_of_eq_ok hr] at hnext
            exact ih hbetween hnext
        | error fault hafter => exact ⟨rfl, hafter⟩

end Rig

namespace Interpreter

-- What can be executed in a run stands in its program.
theorem twins_run (i : Interpreter) {program : Program R}
    (hwords : ∀ name operation, program.Holds (.word name) →
      i.vocabulary.lookup name = some operation → operation.Uniform R Rel)
    {rig : Rig R B} {twin : Rig R B'} (h : rig.Twins Rel twin) :
    (i.run program rig).1 = (i.run program twin).1 ∧
      (i.run program rig).2.Twins Rel (i.run program twin).2 := by
  have hload : (rig.load program).Twins Rel (twin.load program) :=
    ⟨congrArg (Machine.load program) h.machine, h.body⟩
  refine Rig.twins_resume (P := program.Confines)
    (fun _ hcommands hrig => hrig.step i.vocabulary hcommands) ?_ i.budget hload (.load program rig)
  intro rig name rest operation hrig hcommands
  refine hwords name operation (hrig.commands _ ?_)
  rw [hcommands]
  exact List.mem_cons_self

theorem twins_runSource (i : Interpreter) {source : String}
    (hwords : ∀ program : Program R, Program.parse source = .ok program → ∀ name operation,
      program.Holds (.word name) → i.vocabulary.lookup name = some operation →
        operation.Uniform R Rel)
    {rig : Rig R B} {twin : Rig R B'} (h : rig.Twins Rel twin) :
    (i.runSource source rig).1 = (i.runSource source twin).1 ∧
      (i.runSource source rig).2.Twins Rel (i.runSource source twin).2 := by
  unfold runSource
  cases hparse : (Program.parse source : Except SyntaxFault (Program R)) with
  | ok program => exact i.twins_run (hwords program hparse) h
  | error fault => exact ⟨rfl, h⟩

-- A run with the core words alone neither changes its body nor depends on it.
theorem run_core (budget : Nat) (program : Program R) (machine : Machine R) (b : B) (b' : B') :
    ∃ outcome after, run ⟨.core, budget⟩ program ⟨machine, b⟩ = (outcome, ⟨after, b⟩) ∧
      run ⟨.core, budget⟩ program ⟨machine, b'⟩ = (outcome, ⟨after, b'⟩) := by
  have hwords : ∀ name operation, program.Holds (.word name) →
      Vocabulary.core.lookup name = some operation →
        operation.Uniform R fun c c' => c = b ∧ c' = b' :=
    fun _ _ _ hlookup => Operation.uniform_of_core (Vocabulary.mem_of_lookup hlookup) _
  have hstart : Rig.Twins (fun c c' => c = b ∧ c' = b') (⟨machine, b⟩ : Rig R B) ⟨machine, b'⟩ :=
    ⟨rfl, rfl, rfl⟩
  obtain ⟨houtcome, hmachine, hbody, hbody'⟩ := twins_run ⟨.core, budget⟩ hwords hstart
  generalize run ⟨.core, budget⟩ program ⟨machine, b⟩ = ran at houtcome hmachine hbody ⊢
  generalize run ⟨.core, budget⟩ program ⟨machine, b'⟩ = ran' at houtcome hmachine hbody' ⊢
  obtain ⟨outcome, after, left⟩ := ran
  obtain ⟨outcome', after', left'⟩ := ran'
  cases houtcome
  cases hmachine
  cases hbody
  cases hbody'
  exact ⟨outcome, after, rfl, rfl⟩

end Interpreter

end Skirmish
