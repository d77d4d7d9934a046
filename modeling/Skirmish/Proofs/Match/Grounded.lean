import Skirmish.Proofs.Language.Alike
import Skirmish.Proofs.Match.Plans

namespace Skirmish

open Effect

variable {R G : Type} [Scalar R]

namespace Tank

-- Nothing that stands in the program of a tank is bound to an operation.
def Lacks (v : Vocabulary) (operation : Operation) (tank : Tank R) : Prop :=
  ∀ program : Program R, Program.parse tank.program = .ok program →
    ∀ name, program.Holds (.word name) → v.lookup name ≠ some operation

-- A tank that does not teleport and whose program cannot make it.
structure Grounded (v : Vocabulary) (tank : Tank R) : Prop where
  idle : tank.teleporter.teleporting = false
  barred : tank.Lacks v .teleport

theorem lacks_of_not_mem {v : Vocabulary} {operation : Operation} (h : operation ∉ v.operations)
    (tank : Tank R) : tank.Lacks v operation :=
  fun _ _ _ _ hlookup => h (Vocabulary.mem_of_lookup hlookup)

theorem Lacks.of_program {v : Vocabulary} {operation : Operation} {before after : Tank R}
    (h : before.Lacks v operation) (hprogram : after.program = before.program) :
    after.Lacks v operation := by
  unfold Lacks
  rw [hprogram]
  exact h

theorem grounded_recharge {v : Vocabulary} {tank : Tank R} (h : tank.Grounded v)
    (rules : Rules R) : (tank.recharge rules).Grounded v := by
  have hidle := h.idle
  unfold recharge
  dsimp only
  rw [hidle]
  split
  · exact ⟨h.idle, h.barred⟩
  · exact ⟨h.idle, h.barred⟩

end Tank

variable [Draws R G]

-- The same cockpit, in a tank that does not teleport.
def Cockpit.Idle (c c' : Cockpit R G) : Prop := c = c' ∧ c.tank.teleporter.teleporting = false

-- Only the order to teleport makes a tank teleport.
theorem Cockpit.uniform_idle {operation : Operation} (h : operation ≠ .teleport) :
    operation.Uniform R (Idle : Cockpit R G → Cockpit R G → Prop) := by
  cases operation with
  | teleport => exact absurd rfl h
  | fireReady | teleportReady | getTurret =>
      rintro c _ ⟨rfl, -⟩
      rfl
  | readSensor =>
      rintro number c _ ⟨rfl, -⟩
      rfl
  | fire =>
      rintro c _ ⟨rfl, hidle⟩
      exact ⟨rfl, hidle⟩
  | setSpeed =>
      rintro left right c _ ⟨rfl, hidle⟩
      exact ⟨rfl, hidle⟩
  | setTurret | setLed =>
      rintro value c _ ⟨rfl, hidle⟩
      exact ⟨rfl, hidle⟩
  | random =>
      rintro bound c _ ⟨rfl, hidle⟩
      exact ⟨rfl, rfl, hidle⟩
  | _ => trivial

theorem Tank.grounded_runProgram {i : Interpreter} {tank : Tank R}
    (h : tank.Grounded i.vocabulary) (g : G) :
    (tank.runProgram i g).1.Grounded i.vocabulary := by
  have hwords : ∀ program : Program R, Program.parse tank.program = .ok program →
      ∀ name operation, program.Holds (.word name) → i.vocabulary.lookup name = some operation →
        operation.Uniform R (Cockpit.Idle : Cockpit R G → Cockpit R G → Prop) := by
    intro program hparse name operation hname hlookup
    apply Cockpit.uniform_idle
    rintro rfl
    exact h.barred program hparse name hname hlookup
  have hstart : (tank.rig g).Twins Cockpit.Idle (tank.rig g) := ⟨rfl, rfl, h.idle⟩
  have hidle := (i.twins_runSource hwords hstart).2.body.2
  constructor
  · exact runProgram_of_runSource (P := fun after => after.teleporter.teleporting = false)
      (fun _ _ _ h => h) hidle
  · exact h.barred.of_program (driven_runProgram i g tank).program

namespace Match

omit [Scalar R] [Draws R G] in
theorem inside_grounds :
    Inside fun tank : Tank R => (tank.teleporter, tank.program) where
  position _ _ := rfl
  sensors _ _ := rfl
  death _ _ := rfl
  planned _ _ h := Prod.ext h.teleporter h.program

omit [Draws R G] in
theorem grounded_of_view {v : Vocabulary} (before after : Tank R)
    (hview : (after.teleporter, after.program) = (before.teleporter, before.program))
    (h : before.Grounded v) : after.Grounded v := by
  obtain ⟨hteleporter, hprogram⟩ := Prod.ext_iff.mp hview
  exact ⟨(congrArg Teleporter.teleporting hteleporter).trans h.idle, h.barred.of_program hprogram⟩

-- A match of tanks that stay on the ground.
def Grounded (m : Match R G) : Prop :=
  ∀ tank ∈ m.tanks, tank.Grounded (Tank.interpreter m.rules).vocabulary

-- No phase of a tick gets a tank off the ground.
theorem grounded_turn {m : Match R G} (h : m.Grounded) :
    ∀ state ∈ m.turn.opening ++ m.turn.closing, ∀ tank ∈ state.tanks,
      tank.Grounded (Tank.interpreter m.rules).vocabulary :=
  inside_grounds.turn grounded_of_view m
    (fun _ hground => Tank.grounded_recharge hground m.rules)
    (fun source _ hground => Tank.grounded_runProgram hground source) h

theorem Grounded.advance {m : Match R G} (h : m.Grounded) : m.advance.Grounded := by
  unfold Grounded
  rw [rules_advance]
  exact grounded_turn h m.advance (by simp [Turn.closing, Match.advance])

theorem Grounded.iterate {m : Match R G} (h : m.Grounded) (n : Nat) :
    (Match.advance^[n] m).Grounded := by
  induction n with
  | zero => exact h
  | succ n ih =>
      rw [Function.iterate_succ_apply']
      exact ih.advance

theorem teleportTanks_of_idle (arena : Arena R) {tanks : List (Tank R)}
    (h : ∀ tank ∈ tanks, tank.teleporter.teleporting = false) (source : G) :
    teleportTanks arena tanks source = (tanks, source) := by
  induction tanks with
  | nil => rfl
  | cons tank tanks ih =>
      rw [List.forall_mem_cons] at h
      have hrest := ih h.2
      unfold teleportTanks
      rw [h.1, Bool.and_false, if_neg Bool.false_ne_true]
      dsimp only
      rw [hrest]

-- With all tanks on the ground, nothing happens when tanks teleport.
theorem Grounded.atCombat {m : Match R G} (h : m.Grounded) :
    m.turn.atCombat = m.turn.atTeleports := by
  have hidle : ∀ tank ∈ m.turn.atTeleports.tanks, tank.teleporter.teleporting = false :=
    fun tank htank => (grounded_turn h m.turn.atTeleports (by simp [Turn.closing]) tank htank).idle
  rw [atCombat_eq_teleported, teleported, teleportTanks_of_idle _ hidle]

-- A live tank on the ground makes the move that it has planned, and no other.
theorem Grounded.position_of_live {m : Match R G} (h : m.Grounded) {i : Nat} {tank : Tank R}
    (hi : m.tanks[i]? = some tank) (hlive : tank.isCrater = false) :
    ∀ state ∈ m.turn.opening ++ m.turn.closing,
      ∃ later, state.tanks[i]? = some later ∧ later.position = tank.next := by
  have hstays : m.Stays i := fun later hlater =>
    (grounded_turn h m.turn.atTeleports (by simp [Turn.closing]) later
      (List.mem_of_getElem? hlater)).idle
  intro state hstate
  obtain ⟨later, hlater, hposition⟩ := exists_position hstays hi state hstate
  rw [onLive, hlive, if_neg Bool.false_ne_true] at hposition
  exact ⟨later, hlater, hposition⟩

-- Without the words for it, no program gets a tank off the ground, so in all of a match
-- tanks only move as they have planned. A program with the core words alone has nothing
-- to do with its body at all.
theorem vocabularies_confine (m : Match R G) :
    (m.rules.teleportEnabled = false →
      (∀ tank ∈ m.tanks, tank.teleporter.teleporting = false) → ∀ n,
        (∀ state ∈ advance^[n] m ::
            ((advance^[n] m).turn.opening ++ (advance^[n] m).turn.closing),
          ∀ tank ∈ state.tanks, tank.teleporter.teleporting = false) ∧
        (advance^[n] m).turn.atCombat = (advance^[n] m).turn.atTeleports ∧
        ∀ (i : Nat) tank, (advance^[n] m).tanks[i]? = some tank → tank.isCrater = false →
          ∀ state ∈ (advance^[n] m).turn.opening ++ (advance^[n] m).turn.closing,
            ∃ later, state.tanks[i]? = some later ∧ later.position = tank.next) ∧
    ∀ (B B' : Type) [Body R B] [Body R B'] (budget : Nat) (program : Program R)
      (machine : Machine R) (b : B) (b' : B'), ∃ outcome after,
        Interpreter.run ⟨.core, budget⟩ program ⟨machine, b⟩ = (outcome, ⟨after, b⟩) ∧
        Interpreter.run ⟨.core, budget⟩ program ⟨machine, b'⟩ = (outcome, ⟨after, b'⟩) := by
  refine ⟨fun hrules hidle n => ?_, fun B B' _ _ => Interpreter.run_core⟩
  have hunbound : .teleport ∉ (Vocabulary.tank false).operations := by decide
  have hbarred : .teleport ∉ (Tank.interpreter m.rules).vocabulary.operations := by
    unfold Tank.interpreter
    rw [hrules]
    exact hunbound
  have hstart : m.Grounded := fun tank htank => ⟨hidle tank htank, tank.lacks_of_not_mem hbarred⟩
  have hground := hstart.iterate n
  refine ⟨?_, hground.atCombat, fun i tank hi hlive => hground.position_of_live hi hlive⟩
  rw [List.forall_mem_cons]
  exact ⟨fun tank htank => (hground tank htank).idle,
    fun state hstate tank htank => (grounded_turn hground state hstate tank htank).idle⟩

-- A driver who wants to teleport away from wherever it is going.
def commuter : Tank Float :=
  let entry : Entry Float :=
    { name := "Commuter", path := "", program := "60 70 set-speed! teleport!", sensors := [] }
  (Tank.ofEntry 0 entry Rules.standard).toOption.get rfl

def roadworks : Match Float Generator where
  arena := .sizedFor 1 (Float.ofNat 160)
  tanks := [commuter]
  rules := { Rules.standard with teleportEnabled := false }
  tick := 0
  source := .ofSeed 1

theorem vocabularies_confine_roadworks : roadworks.rules.teleportEnabled = false ∧
    (∀ tank ∈ roadworks.tanks, tank.teleporter.teleporting = false) ∧
    roadworks.turn.atCombat = roadworks.turn.atTeleports ∧
    (∃ later, roadworks.turn.atTeleports.tanks[0]? = some later ∧
      later.position = commuter.next ∧ later.wantedSpeed.left = Float.ofNat 60 ∧
      later.failure = some (.stopped (.unknownWord "teleport!") 3)) ∧
    ∃ outcome after,
      Interpreter.run ⟨.core, 5⟩ echo ⟨commuter.machine, Bodiless.bodiless⟩ =
        (outcome, ⟨after, .bodiless⟩) ∧
      Interpreter.run ⟨.core, 5⟩ echo
          ⟨commuter.machine, (⟨commuter, .ofSeed 1⟩ : Cockpit Float Generator)⟩ =
        (outcome, ⟨after, ⟨commuter, .ofSeed 1⟩⟩) := by
  have hidle : ∀ tank ∈ roadworks.tanks, tank.teleporter.teleporting = false := by
    intro tank htank
    rw [List.mem_singleton.mp htank]
    rfl
  obtain ⟨hmatch, hcore⟩ := vocabularies_confine roadworks
  obtain ⟨-, hlanded, hmoves⟩ := hmatch rfl hidle 0
  obtain ⟨later, hlater, hposition⟩ :=
    hmoves 0 commuter rfl rfl roadworks.turn.atTeleports (by simp [Turn.closing])
  have hran : (roadworks.turn.atTeleports.tanks[0]?.map fun tank =>
      (tank.wantedSpeed.left, tank.failure)) =
        some (Float.ofNat 60, some (.stopped (.unknownWord "teleport!") 3)) := by decide +kernel
  rw [hlater, Option.map_some, Option.some.injEq, Prod.mk.injEq] at hran
  exact ⟨rfl, hidle, hlanded, ⟨later, hlater, hposition, hran⟩, hcore _ _ _ _ _ _ _⟩

end Match

end Skirmish
