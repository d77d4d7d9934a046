import Mathlib.Order.MinMax
import Skirmish.Proofs.Language.Calculations

namespace Skirmish

-- Calculations over whole numbers, with a choice between two of them.
inductive Expression where
  | literal (n : Int64)
  | unary (f : UnaryOperation) (a : Expression)
  | binary (f : BinaryOperation) (a b : Expression)
  | choice (condition a b : Expression)
deriving DecidableEq, Repr

namespace Expression

variable {R : Type} [Scalar R]

-- The program for an expression, with operands in front of their operation.
def code : Expression → Program R
  | .literal n => [.number ((n.toInt : Int) : R)]
  | .unary f a => a.code ++ [.word f.word]
  | .binary f a b => a.code ++ (b.code ++ [.word f.word])
  | .choice condition a b =>
    condition.code ++ [.block a.code, .block b.code, .word Operation.choose.word]

-- What an expression comes to, evaluated directly and from the left. Of two branches
-- only the one that is chosen counts.
def value : Expression → Except (Fault R) R
  | .literal n => .ok ((n.toInt : Int) : R)
  | .unary f a => do return f.apply (← a.value)
  | .binary f a b => do f.apply (← a.value) (← b.value)
  | .choice condition a b => do if Scalar.isTrue (← condition.value) then a.value else b.value

-- Counts for the rest of an evaluation, which there is if there has been no fault.
def andThen (result : Except (Fault R) R) (rest : R → Nat) : Nat :=
  match result with
  | .ok n => rest n
  | .error _ => 0

-- How many values are executed until the expression is evaluated, or until an operation
-- faults.
def time (R : Type) [Scalar R] : Expression → Nat
  | .literal _ => 1
  | .unary _ a => a.time R + andThen (a.value : Except (Fault R) R) fun _ => 1
  | .binary f a b => a.time R + andThen (a.value : Except (Fault R) R) fun x =>
      b.time R + andThen b.value fun y => andThen (f.apply x y) fun _ => 1
  | .choice condition a b => condition.time R + andThen (condition.value : Except (Fault R) R) fun x =>
      3 + if Scalar.isTrue x then a.time R else b.time R

-- How many values there are on the stack at once on the way. Two blocks lie on top of the
-- condition of a choice.
def room (R : Type) [Scalar R] : Expression → Nat
  | .literal _ => 1
  | .unary _ a => a.room R
  | .binary _ a b => max (a.room R) (andThen (a.value : Except (Fault R) R) fun _ => b.room R + 1)
  | .choice condition a b =>
    max (condition.room R) (andThen (condition.value : Except (Fault R) R) fun x =>
      max 3 (if Scalar.isTrue x then a.room R else b.room R))

omit [Scalar R] in
theorem andThen_ok (n : R) (rest : R → Nat) : andThen (.ok n) rest = rest n := rfl

theorem one_le_room (e : Expression) : 1 ≤ e.room R := by
  induction e with
  | literal n => exact Nat.le_refl 1
  | unary f a ih => exact ih
  | binary f a b iha _ => exact Nat.le_trans iha (Nat.le_max_left _ _)
  | choice condition a b ihcondition _ _ => exact Nat.le_trans ihcondition (Nat.le_max_left _ _)

end Expression

variable {R B : Type} [Scalar R] [Body R B]

namespace Rig

-- After so many steps, a rig comes to the end of a calculation with its result, or it is
-- about to divide by zero.
inductive Arrives (v : Vocabulary) (time : Nat) (start : Rig R B) (finish : R → Nat → Rig R B) :
    Except (Fault R) R → Prop
  | value {n : R} {executed : Nat} (h : Steps v time start (finish n executed)) :
      Arrives v time start finish (.ok n)
  | fault {failing : Rig R B} (h : Steps v time start failing) (hfailing : failing.DividesByZero) :
      Arrives v time start finish (.error .divisionByZero)

namespace Arrives

variable {v : Vocabulary} {time : Nat} {start between : Rig R B} {finish later : R → Nat → Rig R B}
  {result : Except (Fault R) R}

theorem after (h : Arrives v time between finish result) {before : Nat}
    (hsteps : Steps v before start between) : Arrives v (before + time) start finish result := by
  cases h with
  | value h => exact .value (hsteps.trans h)
  | fault h hfailing => exact .fault (hsteps.trans h) hfailing

-- A calculation that goes on from the result of another.
theorem bind (h : Arrives v time start finish result) {next : R → Except (Fault R) R}
    {rest : R → Nat} (hnext : ∀ n executed, result = .ok n →
      Arrives v (rest n) (finish n executed) later (next n)) :
    Arrives v (time + Expression.andThen result rest) start later (result >>= next) := by
  cases h with
  | value h => exact (hnext _ _ rfl).after h
  | fault h hfailing => exact .fault h hfailing

end Arrives

-- Where there is too little room for what follows a calculation.
theorem Arrives.overflows {v : Vocabulary} {time : Nat} {start : Rig R B}
    {finish : R → Nat → Rig R B} {result : Except (Fault R) R}
    (h : Arrives v time start finish result) {rest : R → Nat} {room : Nat}
    (hroom : room < Expression.andThen result rest)
    (hnext : ∀ n executed, room < rest n → Overflows v (finish n executed)) :
    Overflows v start := by
  cases h with
  | value h => exact (hnext _ _ hroom).after h
  | fault => contradiction

-- A calculation with nothing after it finds the room it needs, whether or not it divides by zero.
theorem Arrives.not_overflows {v : Vocabulary} (hv : v.Calculates) {time : Nat} {start : Rig R B}
    {finish : R → Nat → Rig R B} {result : Except (Fault R) R}
    (h : Arrives v time start finish result)
    (hend : ∀ n executed, (finish n executed).machine.commands = []) : ¬ Overflows v start := by
  intro hoverflows
  obtain ⟨n, position, hstopped⟩ := hoverflows.stopped
  have hlong := hstopped (time + (n + 1)) (by omega)
  cases h with
  | value hsteps =>
      rw [hsteps.resume, Rig.resume.eq_1 v _ _ (hend _ _)] at hlong
      contradiction
  | fault hsteps hfailing =>
      obtain ⟨hnext, after, hstep⟩ := hfailing.step hv
      rw [hsteps.resume, resume_next v n hnext, hstep] at hlong
      cases hlong

end Rig

namespace Expression

open Rig

-- Executing the code of an expression evaluates it: its value is pushed and nothing else
-- is done, or else the run comes to the division that the evaluation fails in.
theorem arrives {v : Vocabulary} (hv : v.Calculates) (rig : Rig R B) (e : Expression)
    (items rest : List (Value R)) (executed : Nat) {room : Nat} (hroom : e.room R ≤ room + 1) :
    Arrives v (e.time R) (rig.midway ⟨items, room + 1⟩ (e.code ++ rest) executed)
      (fun n => rig.midway ⟨.number n :: items, room⟩ rest) e.value := by
  induction e generalizing items rest executed room with
  | literal m => exact .value (steps_push rfl)
  | unary f a ih =>
      rw [code, List.append_assoc]
      exact (ih items _ executed hroom).bind fun x _ _ => .value (steps_unary hv f)
  | binary f a b iha ihb =>
      rw [Expression.room, Nat.max_le] at hroom
      rw [code, List.append_assoc, List.append_assoc]
      refine (iha items _ executed hroom.1).bind fun x _ hx => ?_
      rw [hx, andThen_ok, Nat.add_le_add_iff_right] at hroom
      -- the left operand has taken some of the room, but not all of it
      obtain ⟨below, rfl⟩ := Nat.exists_eq_add_of_le' (Nat.le_trans (one_le_room b) hroom.2)
      refine (ihb (.number x :: items) _ _ hroom.2).bind fun y _ _ => ?_
      cases hresult : f.apply x y with
      | ok n => exact .value (steps_binary hv hresult)
      | error fault =>
          obtain ⟨rfl, hf, hzero⟩ := BinaryOperation.of_apply_eq_error hresult
          exact .fault (.refl _) ⟨f, x, y, items, rest, rfl, rfl, hf, hzero⟩
  | choice condition a b ihcondition iha ihb =>
      rw [Expression.room, Nat.max_le] at hroom
      rw [code, List.append_assoc]
      refine (ihcondition items _ executed hroom.1).bind fun x _ hx => ?_
      rw [hx, andThen_ok, Nat.max_le] at hroom
      obtain ⟨below, rfl⟩ := Nat.exists_eq_add_of_le' (Nat.le_of_succ_le_succ hroom.2.1)
      refine Arrives.after ?_ (steps_choice hv)
      cases hchosen : Scalar.isTrue x with
      | true =>
          rw [hchosen] at hroom
          exact iha items rest _ hroom.2.2
      | false =>
          rw [hchosen] at hroom
          exact ihb items rest _ hroom.2.2

-- No less room will do.
theorem overflows {v : Vocabulary} (hv : v.Calculates) (rig : Rig R B) (e : Expression)
    (items rest : List (Value R)) (executed : Nat) {room : Nat} (hroom : room < e.room R) :
    Overflows v (rig.midway ⟨items, room⟩ (e.code ++ rest) executed) := by
  induction e generalizing items rest executed room with
  | literal m =>
      cases Nat.lt_one_iff.mp hroom
      exact overflows_push rfl
  | unary f a ih =>
      rw [code, List.append_assoc]
      exact ih items _ executed hroom
  | binary f a b iha ihb =>
      rw [code, List.append_assoc, List.append_assoc]
      rcases Nat.lt_or_ge room (a.room R) with hless | henough
      · exact iha items _ executed hless
      · obtain ⟨below, rfl⟩ := Nat.exists_eq_add_of_le' (Nat.le_trans (one_le_room a) henough)
        have hright := (lt_max_iff.mp hroom).resolve_left (Nat.not_lt.mpr henough)
        exact (arrives hv rig a items _ executed henough).overflows hright fun x _ hless =>
          ihb (.number x :: items) _ _ (Nat.lt_of_succ_lt_succ hless)
  | choice condition a b ihcondition iha ihb =>
      rw [code, List.append_assoc]
      rcases Nat.lt_or_ge room (condition.room R) with hless | henough
      · exact ihcondition items _ executed hless
      · obtain ⟨below, rfl⟩ :=
          Nat.exists_eq_add_of_le' (Nat.le_trans (one_le_room condition) henough)
        have hbranch := (lt_max_iff.mp hroom).resolve_left (Nat.not_lt.mpr henough)
        refine (arrives hv rig condition items _ executed henough).overflows hbranch
          fun x _ hless => ?_
        match below with
        | 0 => exact overflows_push rfl
        | 1 => exact (overflows_push rfl).after (steps_push rfl)
        | below + 2 =>
            have hchosen := (lt_max_iff.mp hless).resolve_left (by omega)
            refine Overflows.after ?_ (steps_choice hv)
            cases hx : Scalar.isTrue x with
            | true =>
                rw [hx] at hchosen
                exact iha items rest _ hchosen
            | false =>
                rw [hx] at hchosen
                exact ihb items rest _ hchosen

-- So the room of an expression is exact: its code runs out of room on the stack just if there is
-- less.
theorem overflows_iff {v : Vocabulary} (hv : v.Calculates) (e : Expression) {rig : Rig R B}
    (hcommands : rig.machine.commands = e.code) :
    Overflows v rig ↔ rig.machine.stack.room < e.room R := by
  have hstart : rig.midway rig.machine.stack (e.code ++ []) rig.machine.executed = rig := by
    rw [List.append_nil, ← hcommands]
    rfl
  constructor
  · intro hoverflows
    by_contra henough
    obtain ⟨room, hsome⟩ :=
      Nat.exists_eq_add_of_le' (Nat.le_trans (one_le_room e) (Nat.not_lt.mp henough))
    have harrives := arrives hv rig e rig.machine.stack.items [] rig.machine.executed
      (hsome ▸ Nat.not_lt.mp henough)
    rw [← hsome, hstart] at harrives
    exact harrives.not_overflows hv (fun _ _ => rfl) hoverflows
  · intro hless
    have hoverflows := overflows hv rig e rig.machine.stack.items [] rig.machine.executed hless
    rw [hstart] at hoverflows
    exact hoverflows

-- Wherever the code of an expression stands, executing it leaves the stack as it was but
-- for the value of the expression on top, which takes one place. If the evaluation divides
-- by zero, the run stops there instead.
theorem code_evaluates {v : Vocabulary} (hv : v.Calculates) (e : Expression) {rig : Rig R B}
    {rest : List (Value R)} (hcommands : rig.machine.commands = e.code ++ rest)
    (hroom : e.room R ≤ rig.machine.stack.room) :
    (∀ n : R, e.value = .ok n → ∃ reached,
      reached = { rig with machine := { rig.machine with
        stack := ⟨.number n :: rig.machine.stack.items, rig.machine.stack.room - 1⟩
        commands := rest
        executed := rig.machine.executed + e.time R } } ∧
      Steps v (e.time R) rig reached ∧
      (rest = [] → ∀ left, e.time R ≤ left → resume v left rig = (none, reached))) ∧
    ∀ fault : Fault R, e.value = .error fault → fault = .divisionByZero ∧ ∃ failing after,
      Steps v (e.time R) rig failing ∧ failing.DividesByZero ∧
      ∀ left, e.time R < left → resume v left rig =
        (some (.stopped .divisionByZero (rig.machine.executed + e.time R)), after) := by
  obtain ⟨room, hsome⟩ := Nat.exists_eq_add_of_le' (Nat.le_trans (one_le_room e) hroom)
  have hstart : rig.midway ⟨rig.machine.stack.items, room + 1⟩ (e.code ++ rest)
      rig.machine.executed = rig := by
    rw [← hsome, ← hcommands]
    rfl
  have harrives := arrives hv rig e rig.machine.stack.items rest rig.machine.executed (hsome ▸ hroom)
  rw [hstart] at harrives
  refine ⟨fun n hvalue => ?_, fun fault hvalue => ?_⟩
  · rw [hvalue] at harrives
    cases harrives with
    | @value _ executed hsteps =>
        have hexecuted : executed = rig.machine.executed + e.time R := hsteps.executed
        rw [hexecuted] at hsteps
        refine ⟨_, rfl, ?_, fun hrest left hleft => ?_⟩
        · rw [hsome]
          exact hsteps
        · obtain ⟨more, rfl⟩ := Nat.exists_eq_add_of_le hleft
          rw [hsteps.resume more, hsome, hrest]
          cases more <;> rfl
  · rw [hvalue] at harrives
    cases harrives with
    | @fault failing hsteps hfailing =>
        obtain ⟨hnext, after, hstep⟩ := hfailing.step hv
        refine ⟨rfl, failing, after, hsteps, hfailing, fun left hleft => ?_⟩
        obtain ⟨more, rfl⟩ := Nat.exists_eq_add_of_le (Nat.succ_le_of_lt hleft)
        rw [Nat.succ_add_eq_add_succ, hsteps.resume, resume_next v more hnext, hstep,
          hsteps.executed]

-- Seven halves, as long as two is less than three.
def halves : Expression :=
  .choice (.binary .less (.literal 2) (.literal 3)) (.binary .divide (.literal 7) (.literal 2))
    (.binary .divide (.literal 1) (.literal 0))

-- A sum that never comes about, as its right operand divides by zero.
def remains : Expression := .binary .add (.literal 1) (.binary .modulo (.literal 5) (.literal 0))

-- An expression about to be evaluated on top of a block, with room for three values.
def laidOut (e : Expression) : Rig Float Bodiless where
  machine := { Machine.fresh 4 with stack := ⟨[.block []], 3⟩, commands := e.code }
  body := .bodiless

theorem code_evaluates_halves :
    Vocabulary.core.Calculates ∧ halves.room Float ≤ halves.laidOut.machine.stack.room ∧
    halves.value = .ok (Float.ofBits 0x400C000000000000) ∧
    (∃ reached, resume .core 9 halves.laidOut = (none, reached) ∧ reached.machine.executed = 9 ∧
      reached.machine.stack.items = [.number (Float.ofBits 0x400C000000000000), .block []]) ∧
    (Vocabulary.tank true).Calculates ∧
    remains.room Float ≤ remains.laidOut.machine.stack.room ∧
    remains.value = .error (.divisionByZero : Fault Float) ∧
    ∃ after, resume (.tank true) 100 remains.laidOut =
      (some (.stopped .divisionByZero 3), after) := by
  have hhalves : halves.room Float ≤ 3 ∧ halves.time Float = 9 ∧
      halves.value = .ok (Float.ofBits 0x400C000000000000) := by decide +kernel
  have hremains : remains.room Float ≤ 3 ∧ remains.time Float = 3 ∧
      remains.value = .error (.divisionByZero : Fault Float) := by decide +kernel
  have hcode : ∀ e : Expression, e.laidOut.machine.commands = e.code ++ [] := fun e =>
    (List.append_nil e.code).symm
  obtain ⟨reached, hreached, -, hends⟩ := (code_evaluates Vocabulary.calculates_core halves
    (hcode halves) hhalves.1).1 _ hhalves.2.2
  obtain ⟨-, -, after, -, -, hfaults⟩ := (code_evaluates (Vocabulary.calculates_tank true) remains
    (hcode remains) hremains.1).2 _ hremains.2.2
  have hended := hends rfl 9 (Nat.le_of_eq hhalves.2.1)
  have hfaulted := hfaults 100 (by rw [hremains.2.1]; decide)
  rw [hhalves.2.1] at hreached
  rw [hremains.2.1] at hfaulted
  refine ⟨Vocabulary.calculates_core, hhalves.1, hhalves.2.2, ⟨reached, hended, ?_, ?_⟩,
    Vocabulary.calculates_tank true, hremains.1, hremains.2.2, after, hfaulted⟩
  · rw [hreached]
    rfl
  · rw [hreached]
    rfl

end Expression

end Skirmish
