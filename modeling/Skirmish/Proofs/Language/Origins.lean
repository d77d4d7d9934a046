import Skirmish.Proofs.Language.Steps

namespace Skirmish

variable {R B : Type}

-- The values that stand in a program, at any depth of nesting.
inductive Program.Holds (program : Program R) : Value R → Prop where
  | top {value : Value R} (h : value ∈ program) : Holds program value
  | inside {body : List (Value R)} {value : Value R} (hblock : Holds program (.block body))
      (h : value ∈ body) : Holds program value

mutual

-- The words that stand in a value, at any depth of nesting.
def Value.words : Value R → List String
  | .number _ => []
  | .block body => Program.words body
  | .word name => [name]

def Program.words : List (Value R) → List String
  | [] => []
  | value :: values => value.words ++ Program.words values

end

theorem Program.words_of_mem {program : List (Value R)} {value : Value R} (h : value ∈ program) :
    value.words ⊆ words program := by
  induction program with
  | nil => contradiction
  | cons first rest ih =>
      unfold words
      rcases List.mem_cons.mp h with rfl | hrest
      · exact List.subset_append_left _ _
      · exact List.Subset.trans (ih hrest) (List.subset_append_right _ _)

theorem Program.Holds.words_subset {program : Program R} {value : Value R}
    (h : program.Holds value) : value.words ⊆ words program := by
  induction h with
  | top h => exact words_of_mem h
  | inside _ h ih =>
      unfold Value.words at ih
      exact List.Subset.trans (words_of_mem h) ih

namespace Vocabulary

variable {v : Vocabulary} {word : String} {operation : Operation}

theorem mem_of_lookup (h : v.lookup word = some operation) : operation ∈ v.operations :=
  List.mem_of_find?_eq_some h

theorem word_of_lookup (h : v.lookup word = some operation) : operation.word = word := by
  have hfound := List.find?_some h
  exact eq_of_beq hfound

end Vocabulary

-- No word of a program is bound to an operation if the word for it does not stand there.
theorem Program.Holds.lookup_ne {program : Program R} {operation : Operation} {name : String}
    (hname : program.Holds (.word name)) (h : ¬ program.Holds (.word operation.word))
    (v : Vocabulary) : v.lookup name ≠ some operation := by
  intro hlookup
  rw [← Vocabulary.word_of_lookup hlookup] at hname
  exact h hname

-- What a program can leave on its stack: any number, and blocks of its own.
def Program.Supplies (program : Program R) : Value R → Prop
  | .number _ => True
  | .block body => program.Holds (.block body)
  | .word _ => False

-- A rig that has nothing to execute but what stands in its program.
structure Program.Confines (program : Program R) (rig : Rig R B) : Prop where
  commands : ∀ value ∈ rig.machine.commands, program.Holds value
  items : ∀ value ∈ rig.machine.stack.items, program.Supplies value

theorem Program.Confines.load (program : Program R) (rig : Rig R B) :
    program.Confines (rig.load program) where
  commands _ h := .top h
  items _ h := by cases h

theorem Program.Confines.popped {program : Program R} {before after : Rig R B}
    (hbefore : program.Confines before) (h : before.Popped after) : program.Confines after where
  commands := by
    rw [h.commands]
    exact hbefore.commands
  items value hvalue := hbefore.items value (h.items.subset hvalue)

namespace Stack

theorem items_push {s after : Stack R} {v : Value R} (h : s.push v = .ok after) :
    after.items = v :: s.items := by
  unfold push at h
  split at h
  · contradiction
  · cases h
    rfl

theorem mem_of_duplicate {s after : Stack R} (h : s.duplicate = .ok after) {value : Value R}
    (hvalue : value ∈ after.items) : value ∈ s.items := by
  unfold duplicate at h
  split at h
  · contradiction
  · rename_i top rest hitems
    rw [items_push h] at hvalue
    rcases List.mem_cons.mp hvalue with rfl | hold
    · rw [hitems]
      exact List.mem_cons_self
    · exact hold

theorem mem_of_exchange {s after : Stack R} (h : s.exchange = .ok after) {value : Value R}
    (hvalue : value ∈ after.items) : value ∈ s.items := by
  unfold exchange at h
  split at h
  · rename_i top next rest hitems
    cases h
    rw [hitems]
    exact (List.Perm.swap top next rest).mem_iff.mp hvalue
  · contradiction

end Stack

namespace Effect

variable {α β : Type} {program : Program R}

-- An effect that keeps a rig confined and gives out values of some kind.
def Yields (program : Program R) (e : Effect R B α) (Q : α → Prop) : Prop := ∀ rig a after,
  program.Confines rig → e rig = .ok a after → Q a ∧ program.Confines after

theorem Yields.bind {e : Effect R B α} {f : α → Effect R B β} {Q : α → Prop} {Q' : β → Prop}
    (he : Yields program e Q) (hf : ∀ a, Q a → Yields program (f a) Q') :
    Yields program (e >>= f) Q' := by
  intro rig b after hrig h
  obtain ⟨a, between, hfirst, hnext⟩ := of_bind_eq_ok h
  obtain ⟨ha, hbetween⟩ := he rig a between hrig hfirst
  exact hf a ha between b after hbetween hnext

theorem yields_pure {Q : α → Prop} {a : α} (ha : Q a) :
    Yields program (pure a : Effect R B α) Q := by
  intro rig _ after hrig h
  cases h
  exact ⟨ha, hrig⟩

theorem yields_throw (fault : Fault R) (Q : α → Prop) :
    Yields program (throw fault : Effect R B α) Q := by
  intro rig a after hrig h
  cases h

theorem yields_of_same {e : Effect R B α} (he : ∀ rig a after, e rig = .ok a after →
    after.machine.stack = rig.machine.stack ∧ after.machine.commands = rig.machine.commands) :
    Yields program e fun _ => True := by
  intro rig a after hrig h
  obtain ⟨hstack, hcommands⟩ := he rig a after h
  refine ⟨trivial, ?_, ?_⟩
  · rw [hcommands]
    exact hrig.commands
  · rw [hstack]
    exact hrig.items

theorem yields_pop : Yields program (pop : Effect R B (Value R)) program.Supplies := by
  intro rig value after hrig h
  obtain ⟨stack, hpop, rfl⟩ := of_onStack_eq_ok h
  have hall := hrig.items
  rw [(Stack.of_pop_eq_ok hpop).1] at hall
  exact ⟨hall value List.mem_cons_self, hrig.commands,
    fun other h => hall other (List.mem_cons_of_mem _ h)⟩

theorem yields_popNumber : Yields program (popNumber : Effect R B R) fun _ => True := by
  refine yields_pop.bind fun value _ => ?_
  cases value with
  | number n => exact yields_pure trivial
  | block body => exact yields_throw _ _
  | word name => exact yields_throw _ _

theorem yields_popBlock : Yields program (popBlock : Effect R B (List (Value R)))
    fun body => program.Holds (.block body) := by
  refine yields_pop.bind fun value hvalue => ?_
  cases value with
  | number n => exact yields_throw _ _
  | block body => exact yields_pure hvalue
  | word name => exact yields_throw _ _

-- Changes of the stack that put nothing on it but what is there already or supplied.
theorem yields_onStack {f : Stack R → Except StackFault (Stack R)}
    (hf : ∀ s after, f s = .ok after → ∀ value ∈ after.items,
      value ∈ s.items ∨ program.Supplies value) :
    Yields program (onStack fun s => (f s).map ((), ·) : Effect R B Unit) fun _ => True := by
  intro rig a after hrig h
  obtain ⟨stack, hstack, rfl⟩ := of_onStack_eq_ok h
  refine ⟨trivial, hrig.commands, fun value hvalue => ?_⟩
  cases hs : f rig.machine.stack with
  | error fault =>
      rw [hs] at hstack
      contradiction
  | ok changed =>
      rw [hs] at hstack
      cases hstack
      rcases hf _ _ hs value hvalue with hold | hnew
      · exact hrig.items value hold
      · exact hnew

theorem yields_push {value : Value R} (h : program.Supplies value) :
    Yields program (push value : Effect R B Unit) fun _ => True := by
  refine yields_onStack fun s after hpush other hother => ?_
  rw [Stack.items_push hpush] at hother
  rcases List.mem_cons.mp hother with rfl | hold
  · exact .inr h
  · exact .inl hold

theorem yields_pushNumber (n : R) :
    Yields program (pushNumber n : Effect R B Unit) fun _ => True := by
  have hnumber : program.Supplies (.number n) := trivial
  exact yields_push hnumber

theorem yields_splice {body : List (Value R)} (h : program.Holds (.block body)) :
    Yields program (splice body : Effect R B Unit) fun _ => True := by
  intro rig a after hrig hsplice
  cases hsplice
  refine ⟨trivial, fun value hvalue => ?_, hrig.items⟩
  rcases List.mem_append.mp hvalue with hbody | hrest
  · exact .inside h hbody
  · exact hrig.commands value hrest

variable [Scalar R]

theorem yields_store (address value : R) :
    Yields program (store address value : Effect R B Unit) fun _ => True := by
  refine yields_of_same fun rig a after h => ?_
  simp only [store_apply, Machine.store] at h
  cases hslot : Machine.slot? address with
  | some slot =>
      rw [hslot] at h
      cases h
      exact ⟨rfl, rfl⟩
  | none =>
      rw [hslot] at h
      contradiction

theorem yields_fetch (address : R) :
    Yields program (fetch address : Effect R B Unit) fun _ => True := by
  intro rig a after hrig h
  simp only [fetch_apply, Machine.fetch] at h
  cases hslot : Machine.slot? address with
  | some slot =>
      rw [hslot] at h
      exact yields_pushNumber _ rig a after hrig h
  | none =>
      rw [hslot] at h
      contradiction

variable [Body R B]

theorem closed_yields (program : Program R) :
    Closed (R := R) (B := B) fun e => Yields program e fun _ => True where
  value _ := yields_pure trivial
  fault _ := yields_throw _ _
  bind he hf := he.bind fun a _ => hf a
  pop := fun rig a after hrig h => ⟨trivial, (yields_pop rig a after hrig h).2⟩
  push := yields_pushNumber
  duplicate := yields_onStack fun _ _ h _ => fun hvalue => .inl (Stack.mem_of_duplicate h hvalue)
  exchange := yields_onStack fun _ _ h _ => fun hvalue => .inl (Stack.mem_of_exchange h hvalue)
  store := yields_store
  fetch := yields_fetch
  report _ := yields_of_same fun _ _ _ h => by cases h; exact ⟨rfl, rfl⟩
  ask _ := yields_of_same fun _ _ _ h => by cases h; exact ⟨rfl, rfl⟩
  tell _ _ := yields_of_same fun _ _ _ h => by cases h; exact ⟨rfl, rfl⟩
  draw bound := yields_of_same fun rig _ _ h => by
    obtain ⟨n, body, hdraw⟩ := exists_drawBelow bound rig
    rw [hdraw] at h
    cases h
    exact ⟨rfl, rfl⟩

end Effect

open Effect

variable [Scalar R] [Body R B] {program : Program R}

-- Only branches put anything on the command stack, and what they take for it has
-- been supplied.
theorem Operation.yields_perform (operation : Operation) :
    Yields program (operation.perform : Effect R B Unit) fun _ => True := by
  cases operation with
  | whenTrue =>
      refine yields_popBlock.bind fun body hbody => yields_popNumber.bind fun condition _ => ?_
      split
      · exact yields_splice hbody
      · exact yields_pure trivial
  | choose =>
      refine yields_popBlock.bind fun otherwise hother => yields_popBlock.bind fun body hbody =>
        yields_popNumber.bind fun condition _ => ?_
      split
      · exact yields_splice hbody
      · exact yields_splice hother
  | _ => exact closed_perform (closed_yields program) _ (by simp) (by simp)

theorem Rig.yields_execute (v : Vocabulary) {value : Value R} (h : program.Holds value) :
    Yields program (execute v value : Effect R B Unit) fun _ => True := by
  cases value with
  | number n => exact yields_pushNumber n
  | block body => exact yields_push h
  | word name =>
      unfold execute
      dsimp only
      cases v.lookup name with
      | none => exact yields_throw _ _
      | some operation => exact operation.yields_perform

theorem Program.Confines.step {rig : Rig R B} (hrig : program.Confines rig) (v : Vocabulary)
    (hcommands : rig.machine.commands ≠ []) : program.Confines ((Rig.step v).leaves rig) := by
  obtain ⟨value, rest, h⟩ := List.exists_cons_of_ne_nil hcommands
  have hall := hrig.commands
  rw [h] at hall
  have htaking : program.Confines (rig.taking rest) :=
    ⟨fun other hother => hall other (List.mem_cons_of_mem _ hother), hrig.items⟩
  rw [Rig.leaves_step v h]
  cases hr : Rig.execute v value (rig.taking rest) with
  | ok _ after =>
      rw [leaves_of_eq_ok hr]
      exact (Rig.yields_execute v (hall value List.mem_cons_self) _ _ after htaking hr).2
  | error fault after =>
      rw [leaves_of_eq_error hr]
      exact htaking.popped (Rig.faultsCleanly_execute v value _ fault after hr).1

-- In every rig that a run goes through, the stack keeps its limit and holds numbers and
-- blocks of the program, and whatever is still to be executed stands in the program.
theorem Interpreter.confined_of_reaches {i : Interpreter} {rig reached : Rig R B}
    (h : i.Reaches program rig reached) :
    reached.machine.stack.size ≤ rig.machine.stack.limit ∧
      (∀ name, .word name ∉ reached.machine.stack.items) ∧
      (∀ body, .block body ∈ reached.machine.stack.items → program.Holds (.block body)) ∧
      ∀ value ∈ reached.machine.commands, program.Holds value := by
  have hconfines : program.Confines reached :=
    h.keeps (.load program rig) fun _ hcommands hrig => hrig.step i.vocabulary hcommands
  refine ⟨?_, fun name hword => hconfines.items _ hword, fun body => hconfines.items (.block body),
    hconfines.commands⟩
  rw [← limit_of_reaches h]
  exact Nat.le_add_right _ _

-- A run that stops inside of a block that it has copied.
def echo : Program Float :=
  [.block [.number (Float.ofNat 7)], .word "dup", .number (Float.ofNat 1), .word "exch", .word "if"]

def echoed : Rig Float Bodiless := (Interpreter.run ⟨.core, 5⟩ echo ⟨.fresh 3, .bodiless⟩).2

theorem confined_echoed : echoed.machine.commands.length = 1 ∧ echoed.machine.stack.size = 1 ∧
    echoed.machine.stack.size ≤ 3 ∧ ∀ value ∈ echoed.machine.commands, echo.Holds value := by
  have hspec := Interpreter.confined_of_reaches
    (.inr rfl : Interpreter.Reaches ⟨.core, 5⟩ echo ⟨.fresh 3, .bodiless⟩ echoed)
  exact ⟨by decide +kernel, by decide +kernel, hspec.1, hspec.2.2.2⟩

end Skirmish
