import Skirmish.Proofs.Match.Inside
import Skirmish.Proofs.Tank.Runs

namespace Skirmish

variable {R G : Type}

-- The last of the values that there are at some of the times before `n`.
def Latest {α : Type} (values : Nat → Option α) (n : Nat) : Option α → Prop
  | none => ∀ s, s < n → values s = none
  | some a => ∃ s, s < n ∧ values s = some a ∧ ∀ t, s < t → t < n → values t = none

section Latest

variable {α : Type} {values : Nat → Option α} {n : Nat}

theorem latest_zero (values : Nat → Option α) : Latest values 0 none := by
  intro s hs
  contradiction

theorem latest_succ_of_some {a : α} (h : values n = some a) : Latest values (n + 1) (some a) :=
  ⟨n, Nat.lt_succ_self n, h, fun t hnt htn => by omega⟩

theorem Latest.succ_of_none {last : Option α} (hlast : Latest values n last)
    (h : values n = none) : Latest values (n + 1) last := by
  have hnone : ∀ t, t < n + 1 → (t < n → values t = none) → values t = none := by
    intro t ht hbefore
    rcases Nat.lt_succ_iff_lt_or_eq.mp ht with hlt | rfl
    · exact hbefore hlt
    · exact h
  cases last with
  | none => exact fun s hs => hnone s hs (hlast s)
  | some a =>
      obtain ⟨s, hs, hvalue, hafter⟩ := hlast
      exact ⟨s, Nat.lt_succ_of_lt hs, hvalue, fun t hst ht => hnone t ht (hafter t hst)⟩

theorem Latest.unique {last last' : Option α} (h : Latest values n last)
    (h' : Latest values n last') : last = last' := by
  cases last with
  | none =>
      cases last' with
      | none => rfl
      | some a =>
          obtain ⟨s, hs, hvalue, -⟩ := h'
          rw [h s hs] at hvalue
          contradiction
  | some a =>
      obtain ⟨s, hs, hvalue, hafter⟩ := h
      cases last' with
      | none =>
          rw [h' s hs] at hvalue
          contradiction
      | some b =>
          obtain ⟨t, ht, hvalue', hafter'⟩ := h'
          rcases Nat.lt_trichotomy s t with hst | rfl | hts
          · rw [hafter t hst ht] at hvalue'
            contradiction
          · exact hvalue.symm.trans hvalue'
          · rw [hafter' s hts hs] at hvalue
            contradiction

theorem Latest.succ {last : Option α} (hlast : Latest values n last) :
    Latest values (n + 1) (values n <|> last) := by
  cases h : values n with
  | none => exact hlast.succ_of_none h
  | some a => exact latest_succ_of_some h

end Latest

namespace Match

theorem inside_failure : Inside (Tank.failure : Tank R → Option (ProgramFault R)) where
  position _ _ := rfl
  sensors _ _ := rfl
  death _ _ := rfl
  planned _ _ h := h.failure

variable [Scalar R] [Draws R G]

-- A program runs with the random numbers that the programs before it have left.
theorem getElem?_runPrograms (i : Interpreter) (tanks : List (Tank R)) (source : G) (k : Nat) :
    (runPrograms i tanks source).1[k]? = tanks[k]?.map fun tank =>
      if tank.isCrater then tank
      else (tank.runProgram i (runPrograms i (tanks.take k) source).2).1 := by
  induction tanks generalizing source k with
  | nil => rfl
  | cons tank tanks ih =>
      cases k with
      | zero =>
          rw [List.getElem?_cons_zero, Option.map_some, List.take_zero]
          unfold runPrograms
          cases tank.isCrater <;> rfl
      | succ k =>
          rw [List.getElem?_cons_succ, List.take_succ_cons, runPrograms, runPrograms]
          exact ih _ k

theorem getElem?_programmed {m : Match R G} {k : Nat} {tank : Tank R}
    (hk : m.tanks[k]? = some tank) :
    m.programmed.tanks[k]? = some (if tank.isCrater then tank
      else (tank.runProgram (Tank.interpreter m.rules)
        (runPrograms (Tank.interpreter m.rules) (m.tanks.take k) m.source).2).1) := by
  have hrun := getElem?_runPrograms (Tank.interpreter m.rules) m.tanks m.source k
  rw [hk, Option.map_some] at hrun
  exact hrun

-- What the program of the tank on a place fails with when the programs run. There is
-- nothing if it succeeds or if the tank is a crater.
def mishap (m : Match R G) (k : Nat) : Option (ProgramFault R) :=
  let i := Tank.interpreter m.rules
  match m.tanks[k]? with
  | some tank =>
    if tank.isCrater then none
    else (i.runSource tank.program (tank.rig (runPrograms i (m.tanks.take k) m.source).2)).1
  | none => none

theorem failure_programmed {m : Match R G} {k : Nat} {tank : Tank R}
    (hk : m.tanks[k]? = some tank) :
    ∃ later, m.programmed.tanks[k]? = some later ∧
      later.failure = (m.mishap k <|> tank.failure) := by
  refine ⟨_, getElem?_programmed hk, ?_⟩
  unfold mishap
  rw [hk]
  dsimp only
  cases hcrater : tank.isCrater with
  | true => rfl
  | false => exact Tank.failure_runProgram _ _ tank

-- A run that fails in a tick replaces the last failure. Nothing else does.
theorem failure_advance {m : Match R G} {k : Nat} {tank : Tank R} (hk : m.tanks[k]? = some tank) :
    ∃ later, m.advance.tanks[k]? = some later ∧
      later.failure = (m.turn.atPrograms.mishap k <|> tank.failure) := by
  obtain ⟨ready, hready, hkept⟩ :=
    forall₂_getElem? (inside_failure.atPrograms m) (getElem?_recharged hk)
  obtain ⟨driven, hdriven, hfailure⟩ := failure_programmed hready
  obtain ⟨later, hlater, hkept'⟩ := forall₂_getElem? (inside_failure.advance m) hdriven
  refine ⟨later, hlater, ?_⟩
  rw [hkept', hfailure, hkept, (tank.serviced_recharge m.rules).failure]

theorem latest_failure_iterate {m : Match R G} {k : Nat} {tank : Tank R}
    (hk : m.tanks[k]? = some tank) (hfailure : tank.failure = none) (n : Nat) :
    ∃ later, (advance^[n] m).tanks[k]? = some later ∧
      Latest (fun t => (advance^[t] m).turn.atPrograms.mishap k) n later.failure := by
  induction n with
  | zero =>
      refine ⟨tank, hk, ?_⟩
      rw [hfailure]
      exact latest_zero _
  | succ n ih =>
      obtain ⟨between, hbetween, hlatest⟩ := ih
      obtain ⟨later, hlater, hnext⟩ := failure_advance hbetween
      refine ⟨later, ?_, ?_⟩
      · rw [Function.iterate_succ_apply']
        exact hlater
      · rw [hnext]
        exact hlatest.succ

-- All that a run changes of its tank is what the program can order, the machine but for
-- the limit of its stack, and the last failure. So after any number of ticks, a tank that
-- started without a failure has the one of its latest run that failed.
theorem programs_only_drive (m : Match R G) :
    (∀ (i : Interpreter) (g : G) (tank : Tank R),
      tank.Driven (tank.runProgram i g).1 ∧
      (tank.runProgram i g).1.machine.stack.limit = tank.machine.stack.limit ∧
      match (Program.parse tank.program : Except SyntaxFault (Program R)) with
      | .error fault => tank.runProgram i g = ({ tank with failure := some (.malformed fault) }, g)
      | .ok program =>
        (tank.runProgram i g).1.failure = ((i.run program (tank.rig g)).1 <|> tank.failure)) ∧
    ∀ (k n : Nat) (tank : Tank R), m.tanks[k]? = some tank → tank.failure = none →
      ∃ later, (advance^[n] m).tanks[k]? = some later ∧
        Latest (fun t => (advance^[t] m).turn.atPrograms.mishap k) n later.failure := by
  refine ⟨fun i g tank => ⟨?_, ?_, ?_⟩, fun k n tank hk hfailure => ?_⟩
  · exact Tank.driven_runProgram i g tank
  · exact Tank.limit_runProgram i g tank
  · split
    · rename_i hparse
      exact Tank.runProgram_of_malformed hparse i g
    · rename_i hparse
      rw [Tank.failure_runProgram, Tank.runSource_of_parse hparse]
  · exact latest_failure_iterate hk hfailure n

-- Divides by a cell of the memory that it fills only then, so the first run fails and
-- the next one does not.
def novice : Tank Float :=
  let entry : Entry Float :=
    { name := "Novice", path := "", program := "0 mget 1 0 mset 1 exch /", sensors := [] }
  (Tank.ofEntry 0 entry Rules.standard).toOption.get rfl

def lesson : Match Float Generator where
  arena := .sizedFor 1 (Float.ofNat 160)
  tanks := [novice]
  rules := Rules.standard
  tick := 0
  source := .ofSeed 1

theorem programs_only_drive_lesson : lesson.tanks[0]? = some novice ∧ novice.failure = none ∧
    (lesson.turn.atPrograms.mishap 0).isSome = true ∧
    ((advance^[1] lesson).turn.atPrograms.mishap 0).isSome = false ∧
    ∃ later, (advance^[2] lesson).tanks[0]? = some later ∧
      later.failure = lesson.turn.atPrograms.mishap 0 := by
  have hfails : (lesson.turn.atPrograms.mishap 0).isSome = true := by decide +kernel
  have hsucceeds : ((advance^[1] lesson).turn.atPrograms.mishap 0).isSome = false := by
    decide +kernel
  obtain ⟨later, hlater, hlatest⟩ := (programs_only_drive lesson).2 0 2 novice rfl rfl
  refine ⟨rfl, rfl, hfails, hsucceeds, later, hlater, ?_⟩
  rw [Option.isSome_eq_false_iff, Option.isNone_iff_eq_none] at hsucceeds
  obtain ⟨fault, hfault⟩ := Option.isSome_iff_exists.mp hfails
  rw [hfault]
  refine hlatest.unique (Latest.succ_of_none (n := 1) ?_ hsucceeds)
  exact latest_succ_of_some (n := 0) hfault

end Match

end Skirmish
