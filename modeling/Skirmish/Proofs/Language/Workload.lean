import Mathlib.Algebra.GroupWithZero.Nat
import Skirmish.Proofs.Language.Budget
import Skirmish.Proofs.Language.Origins

namespace Skirmish

variable {R B : Type}

mutual

-- How many values a value is made of, itself and all nested ones.
def Value.size : Value R → Nat
  | .number _ => 1
  | .word _ => 1
  | .block body => Program.size body + 1

def Program.size : Program R → Nat
  | [] => 0
  | v :: vs => v.size + Program.size vs

end

-- How many values a value can still bring to execution once it is on the stack.
def Value.load : Value R → Nat
  | .number _ => 0
  | .word _ => 0
  | .block body => Program.size body

def Stack.load (s : Stack R) : Nat := (s.items.map Value.load).sum

-- The most instructions that a rig can execute if it never copies a block.
def Rig.workload (rig : Rig R B) : Nat :=
  Program.size rig.machine.commands + rig.machine.stack.load

theorem Value.size_eq (v : Value R) : v.size = v.load + 1 := by
  cases v with
  | number n => rw [size, load]
  | word name => rw [size, load]
  | block body => rw [size, load]

theorem Program.size_append (p q : List (Value R)) :
    Program.size (p ++ q) = Program.size p + Program.size q := by
  induction p with
  | nil => rw [List.nil_append, size, Nat.zero_add]
  | cons v p ih => rw [List.cons_append, size, size, ih, Nat.add_assoc]

namespace Stack

theorem load_cons {s : Stack R} {v : Value R} {below : List (Value R)} (h : s.items = v :: below) :
    s.load = v.load + (below.map Value.load).sum := by
  rw [load, h, List.map_cons, List.sum_cons]

theorem load_push {s after : Stack R} {v : Value R} (h : s.push v = .ok after) :
    after.load = v.load + s.load :=
  load_cons (items_push h)

theorem load_exchange {s after : Stack R} (h : s.exchange = .ok after) : after.load = s.load := by
  unfold exchange at h
  split at h
  · rename_i top next rest hitems
    cases h
    rw [load, load, hitems]
    simp only [List.map_cons, List.sum_cons]
    exact Nat.add_left_comm _ _ _
  · contradiction

-- Taking values away leaves no more work.
theorem load_le_of_suffix {s after : Stack R} (h : after.items <:+ s.items) :
    after.load ≤ s.load := by
  obtain ⟨above, habove⟩ := h
  rw [load, load, ← habove, List.map_append, List.sum_append]
  exact Nat.le_add_left _ _

end Stack

theorem Rig.Popped.workload_le {before after : Rig R B} (h : before.Popped after) :
    after.workload ≤ before.workload := by
  rw [workload, workload, h.commands]
  exact Nat.add_le_add_left (Stack.load_le_of_suffix h.items) _

theorem Rig.workload_taking {rig : Rig R B} {value : Value R} {rest : List (Value R)}
    (h : rig.machine.commands = value :: rest) :
    (rig.taking rest).workload + value.size = rig.workload := by
  unfold workload taking
  rw [h, Program.size]
  dsimp only
  omega

namespace Effect

variable {α β : Type}

-- An effect that brings no work about: what it gives out and leaves to do was given to it or there
-- to do before.
def Conserves (given : Nat) (e : Effect R B α) (out : α → Nat) : Prop := ∀ rig a after,
  e rig = .ok a after → out a + after.workload ≤ given + rig.workload

theorem Conserves.bind {given : Nat} {e : Effect R B α} {out : α → Nat} {f : α → Effect R B β}
    {out' : β → Nat} (he : Conserves given e out) (hf : ∀ a, Conserves (out a) (f a) out') :
    Conserves given (e >>= f) out' := by
  intro rig b after h
  obtain ⟨a, between, hfirst, hnext⟩ := of_bind_eq_ok h
  exact Nat.le_trans (hf a between b after hnext) (he rig a between hfirst)

-- What is set aside for later stays.
theorem Conserves.frame {given : Nat} {e : Effect R B α} {out : α → Nat} (he : Conserves given e out)
    (aside : Nat) : Conserves (aside + given) e fun a => aside + out a := by
  intro rig a after h
  have hkept := he rig a after h
  dsimp only
  omega

theorem Conserves.of_le {given less : Nat} {e : Effect R B α} {out : α → Nat}
    (he : Conserves less e out) (h : less ≤ given) : Conserves given e out := by
  intro rig a after hok
  have hkept := he rig a after hok
  omega

theorem conserves_pure {given : Nat} {out : α → Nat} {a : α} (h : out a ≤ given) :
    Conserves given (pure a : Effect R B α) out := by
  intro rig _ after hok
  cases hok
  exact Nat.add_le_add_right h _

theorem conserves_throw (given : Nat) (fault : Fault R) (out : α → Nat) :
    Conserves given (throw fault : Effect R B α) out := by
  intro rig a after hok
  cases hok

theorem conserves_of_same {e : Effect R B α} (he : ∀ rig a after, e rig = .ok a after →
    after.machine.stack = rig.machine.stack ∧ after.machine.commands = rig.machine.commands) :
    Conserves 0 e fun _ => 0 := by
  intro rig a after h
  obtain ⟨hstack, hcommands⟩ := he rig a after h
  have hsame : after.workload = rig.workload := by
    rw [Rig.workload, Rig.workload, hstack, hcommands]
  exact Nat.le_of_eq (congrArg (0 + ·) hsame)

theorem conserves_onStack {f : Stack R → Except StackFault (Stack R)} {given : Nat}
    (hf : ∀ {s after}, f s = .ok after → after.load ≤ given + s.load) :
    Conserves given (onStack fun s => (f s).map ((), ·) : Effect R B Unit) fun _ => 0 := by
  intro rig a after h
  obtain ⟨stack, hstack, rfl⟩ := of_onStack_eq_ok h
  cases hs : f rig.machine.stack with
  | error fault =>
      rw [hs] at hstack
      contradiction
  | ok changed =>
      rw [hs] at hstack
      cases hstack
      have hload := hf hs
      unfold Rig.workload
      dsimp only
      omega

theorem conserves_push (v : Value R) :
    Conserves v.load (push v : Effect R B Unit) fun _ => 0 :=
  conserves_onStack fun h => Nat.le_of_eq (Stack.load_push h)

theorem conserves_pushNumber (n : R) : Conserves 0 (pushNumber n : Effect R B Unit) fun _ => 0 :=
  conserves_push (.number n)

theorem conserves_pop : Conserves 0 (pop : Effect R B (Value R)) Value.load := by
  intro rig v after h
  obtain ⟨stack, hpop, rfl⟩ := of_onStack_eq_ok h
  have hload := Stack.load_cons (Stack.of_pop_eq_ok hpop).1
  unfold Rig.workload
  dsimp only
  rw [hload, Stack.load]
  omega

theorem conserves_popNumber : Conserves 0 (popNumber : Effect R B R) fun _ => 0 := by
  refine conserves_pop.bind fun v => ?_
  cases v with
  | number n => exact conserves_pure (Nat.zero_le _)
  | block body => exact conserves_throw _ _ _
  | word name => exact conserves_throw _ _ _

theorem conserves_popBlock :
    Conserves 0 (popBlock : Effect R B (List (Value R))) Program.size := by
  refine conserves_pop.bind fun v => ?_
  cases v with
  | number n => exact conserves_throw _ _ _
  | block body => exact conserves_pure (Nat.le_refl _)
  | word name => exact conserves_throw _ _ _

theorem conserves_splice (body : List (Value R)) :
    Conserves (Program.size body) (splice body : Effect R B Unit) fun _ => 0 := by
  intro rig a after h
  cases h
  unfold Rig.workload Machine.splice
  dsimp only
  rw [Program.size_append]
  omega

variable [Scalar R]

theorem conserves_store (address value : R) :
    Conserves 0 (store address value : Effect R B Unit) fun _ => 0 := by
  refine conserves_of_same fun rig a after h => ?_
  simp only [store_apply, Machine.store] at h
  cases hslot : Machine.slot? address with
  | some slot =>
      rw [hslot] at h
      cases h
      exact ⟨rfl, rfl⟩
  | none =>
      rw [hslot] at h
      contradiction

theorem conserves_fetch (address : R) :
    Conserves 0 (fetch address : Effect R B Unit) fun _ => 0 := by
  intro rig a after h
  rw [fetch_apply] at h
  cases hfetch : rig.machine.fetch address with
  | ok n =>
      rw [hfetch] at h
      exact conserves_pushNumber n rig a after h
  | error fault =>
      rw [hfetch] at h
      contradiction

variable [Body R B]

theorem closed_conserves : ClosedPlain (R := R) (B := B) fun e => Conserves 0 e fun _ => 0 where
  value _ := conserves_pure (Nat.zero_le _)
  fault _ := conserves_throw _ _ _
  bind he hf := he.bind hf
  pop := fun rig a after h => Nat.le_trans (Nat.add_le_add_right (Nat.zero_le _) _)
    (conserves_pop rig a after h)
  push := conserves_pushNumber
  exchange := conserves_onStack fun h =>
    Nat.le_of_eq ((Stack.load_exchange h).trans (Nat.zero_add _).symm)
  fetch := conserves_fetch
  report _ := conserves_of_same fun _ _ _ h => by cases h; exact ⟨rfl, rfl⟩
  ask _ := conserves_of_same fun _ _ _ h => by cases h; exact ⟨rfl, rfl⟩
  tell _ _ := conserves_of_same fun _ _ _ h => by cases h; exact ⟨rfl, rfl⟩
  draw bound := conserves_of_same fun rig _ _ h => by
    obtain ⟨n, body, hdraw⟩ := exists_drawBelow bound rig
    rw [hdraw] at h
    cases h
    exact ⟨rfl, rfl⟩

end Effect

open Effect

variable [Scalar R] [Body R B]

-- A branch takes the work of the bodies that it pops, and hands on that of one of them at most.
theorem Operation.conserves_perform {operation : Operation} (h : operation ≠ .duplicate) :
    Conserves 0 (operation.perform : Effect R B Unit) fun _ => 0 := by
  cases operation with
  | duplicate => exact absurd rfl h
  | whenTrue =>
      refine conserves_popBlock.bind fun body => ?_
      refine (conserves_popNumber.frame (Program.size body)).bind fun condition => ?_
      split
      · exact conserves_splice body
      · exact conserves_pure (Nat.zero_le _)
  | choose =>
      refine conserves_popBlock.bind fun otherwise => ?_
      refine (conserves_popBlock.frame (Program.size otherwise)).bind fun body => ?_
      refine (conserves_popNumber.frame (Program.size otherwise + Program.size body)).bind
        fun condition => ?_
      split
      · exact (conserves_splice body).of_le (Nat.le_add_left _ _)
      · exact (conserves_splice otherwise).of_le (Nat.le_add_right _ _)
  | store =>
      exact conserves_popNumber.bind fun _ => conserves_popNumber.bind fun _ => conserves_store _ _
  | _ => exact closed_perform_plain closed_conserves _ (by simp) (by simp) (by simp) (by simp)

theorem Rig.conserves_execute {v : Vocabulary} {value : Value R}
    (h : ∀ name, value = .word name → v.lookup name ≠ some .duplicate) :
    Conserves value.load (execute v value : Effect R B Unit) fun _ => 0 := by
  cases value with
  | number n => exact conserves_push _
  | block body => exact conserves_push _
  | word name =>
      have hcopies := h name rfl
      unfold execute
      dsimp only
      cases hlookup : v.lookup name with
      | none => exact conserves_throw _ _ _
      | some operation =>
          refine Operation.conserves_perform ?_
          rintro rfl
          exact hcopies hlookup

namespace Rig

-- Each step does some of the work, whether it faults or not.
theorem workload_step {v : Vocabulary} {rig : Rig R B} (hcommands : rig.machine.commands ≠ [])
    (h : ∀ name, .word name ∈ rig.machine.commands → v.lookup name ≠ some .duplicate) :
    ((step v).leaves rig).workload + 1 ≤ rig.workload := by
  obtain ⟨value, rest, hcons⟩ := List.exists_cons_of_ne_nil hcommands
  have htaken := workload_taking hcons
  rw [Value.size_eq] at htaken
  rw [leaves_step v hcons]
  cases hr : execute v value (rig.taking rest) with
  | ok _ after =>
      have hcopies : ∀ name, value = .word name → v.lookup name ≠ some .duplicate := by
        rintro name rfl
        exact h name (hcons ▸ List.mem_cons_self)
      have hkept := conserves_execute hcopies _ _ _ hr
      rw [leaves_of_eq_ok hr]
      omega
  | error fault after =>
      have hpopped := (faultsCleanly_execute v value _ fault after hr).1
      rw [leaves_of_eq_error hr]
      have hless := hpopped.workload_le
      omega

end Rig

namespace Interpreter

open Rig

variable {i : Interpreter} {program : Program R} {rig reached : Rig R B}

-- What a run has executed and what it still has to do never make up more than its program.
theorem executed_add_workload_le (h : ¬ program.Holds (.word Operation.duplicate.word))
    (hreached : i.Reaches program rig reached) :
    reached.machine.executed + reached.workload ≤ program.size := by
  suffices hboth : program.Confines reached ∧
      reached.machine.executed + reached.workload ≤ program.size from hboth.2
  refine hreached.keeps
    (P := fun rig' => program.Confines rig' ∧
      rig'.machine.executed + rig'.workload ≤ program.size) ⟨.load program rig, ?_⟩ ?_
  · change 0 + (Program.size program + 0) ≤ program.size
    omega
  · rintro rig' hcommands ⟨hconfines, hwork⟩
    refine ⟨hconfines.step i.vocabulary hcommands, ?_⟩
    have hcopies : ∀ name, .word name ∈ rig'.machine.commands →
        i.vocabulary.lookup name ≠ some Operation.duplicate :=
      fun name hname => (hconfines.commands _ hname).lookup_ne h i.vocabulary
    have hless := workload_step hcommands hcopies
    have hone := executed_leaves_step i.vocabulary hcommands
    omega

theorem not_runsOut (h : ¬ program.Holds (.word "dup")) (hbudget : program.size ≤ i.budget) :
    ¬ i.RunsOut program rig := by
  rw [runsOut_iff]
  rintro ⟨between, hsteps, hcommands⟩
  have hwork := executed_add_workload_le h (.inl ⟨i.budget, Nat.le_refl _, hsteps⟩)
  obtain ⟨value, rest, hcons⟩ := List.exists_cons_of_ne_nil hcommands
  have htaken := workload_taking hcons
  rw [Value.size_eq] at htaken
  rw [hsteps.executed_of_load] at hwork
  omega

-- A program that cannot copy anything executes no more instructions than it has values, at any
-- depth of nesting, and ends by itself if its budget allows for so many.
theorem run_without_copies (h : ¬ program.Holds (.word "dup")) (i : Interpreter) (rig : Rig R B) :
    (∀ reached, i.Reaches program rig reached → reached.machine.executed ≤ program.size) ∧
      (i.run program rig).2.machine.executed ≤ program.size ∧
      (program.size ≤ i.budget →
        (∀ p, (i.run program rig).1 ≠ some (.stopped (.exhausted .instructions) p)) ∧
        ∀ budget, i.budget ≤ budget →
          ({ i with budget } : Interpreter).run program rig = i.run program rig) := by
  have hexecuted : ∀ reached, i.Reaches program rig reached →
      reached.machine.executed ≤ program.size :=
    fun reached hreached => Nat.le_trans (Nat.le_add_right _ _) (executed_add_workload_le h hreached)
  refine ⟨hexecuted, hexecuted _ (.inr rfl), fun hbudget => ⟨fun p hp => ?_, fun budget hlarger => ?_⟩⟩
  · exact not_runsOut h hbudget ⟨p, hp⟩
  · exact run_of_larger_budget (not_runsOut h hbudget) hlarger

end Interpreter

-- A branch that is taken inside of one that is taken.
def descent : Program Float :=
  [.number (Float.ofNat 1),
    .block [.number (Float.ofNat 2), .block [.number (Float.ofNat 3), .word "abs"], .word "if"],
    .word "if"]

def descended : Option (ProgramFault Float) × Rig Float Bodiless :=
  Interpreter.run ⟨.core, 8⟩ descent ⟨.fresh 2, .bodiless⟩

-- Where all branches are taken, all values are executed.
theorem run_without_copies_descent : ¬ descent.Holds (.word "dup") ∧ descent.size = 8 ∧
    descended.2.machine.executed = 8 ∧
    ∀ p, descended.1 ≠ some (.stopped (.exhausted .instructions) p) := by
  have hcopies : ¬ descent.Holds (.word "dup") := by
    intro hholds
    have hword : "dup" ∈ Program.words descent := hholds.words_subset (by simp [Value.words])
    exact absurd hword (by decide +kernel)
  have hsize : descent.size = 8 := by decide +kernel
  have hspec := Interpreter.run_without_copies hcopies ⟨.core, 8⟩
    (⟨.fresh 2, .bodiless⟩ : Rig Float Bodiless)
  exact ⟨hcopies, hsize, by decide +kernel, (hspec.2.2 (Nat.le_of_eq hsize)).1⟩

end Skirmish
