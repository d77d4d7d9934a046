import Skirmish.Match.Snapshot
import Skirmish.Proofs.Match.Grounded

namespace Skirmish

open Effect

variable {R G : Type}

variable [Scalar R]

-- A program has an operation if the word for it stands there.
theorem Tank.lacks_of_word {tank : Tank R} (operation : Operation)
    (h : ∀ program : Program R, Program.parse tank.program = .ok program →
      ¬ program.Holds (.word operation.word)) (v : Vocabulary) : tank.Lacks v operation :=
  fun program hparse _ hname => hname.lookup_ne (h program hparse) v

variable [Draws R G]

-- The same tank, with sources of random numbers that may differ.
def Cockpit.SameTank (c c' : Cockpit R G) : Prop := c.tank = c'.tank

-- Only drawing numbers can tell sources apart.
theorem Cockpit.uniform_sameTank {operation : Operation} (h : operation ≠ .random) :
    operation.Uniform R (SameTank : Cockpit R G → Cockpit R G → Prop) := by
  cases operation with
  | random => exact absurd rfl h
  | fireReady => exact fun _ _ htank => congrArg Tank.fireReady htank
  | fire => exact fun _ _ htank => congrArg Tank.fire htank
  | teleportReady => exact fun _ _ htank => congrArg Tank.teleportReady htank
  | teleport => exact fun _ _ htank => congrArg Tank.teleport htank
  | setSpeed => exact fun left right _ _ htank => congrArg (Tank.setSpeed left right) htank
  | setTurret => exact fun angle _ _ htank => congrArg (Tank.setTurret angle) htank
  | getTurret => exact fun _ _ htank => congrArg (fun tank => tank.turret.angle) htank
  | readSensor => exact fun number _ _ htank => congrArg (Tank.sensor number) htank
  | setLed => exact fun on _ _ htank => congrArg (Tank.setLed on) htank
  | _ => trivial

-- A run that draws no numbers does not depend on where they would come from.
theorem Tank.runProgram_of_lacks {i : Interpreter} {tank : Tank R}
    (h : tank.Lacks i.vocabulary .random) (g g' : G) :
    (tank.runProgram i g).1 = (tank.runProgram i g').1 := by
  have hwords : ∀ program : Program R, Program.parse tank.program = .ok program →
      ∀ name operation, program.Holds (.word name) → i.vocabulary.lookup name = some operation →
        operation.Uniform R (Cockpit.SameTank : Cockpit R G → Cockpit R G → Prop) := by
    intro program hparse name operation hname hlookup
    apply Cockpit.uniform_sameTank
    rintro rfl
    exact h program hparse name hname hlookup
  have hstart : (tank.rig g).Twins Cockpit.SameTank (tank.rig g') := ⟨rfl, rfl⟩
  obtain ⟨houtcome, hmachine, htank⟩ := i.twins_runSource hwords hstart
  have hfiled : ∀ source : G, (tank.runProgram i source).1 =
      let ran := i.runSource tank.program (tank.rig source)
      { ran.2.body.tank with
        machine := ran.2.machine
        failure := ran.1 <|> ran.2.body.tank.failure } := fun _ => rfl
  rw [hfiled, hfiled]
  dsimp only
  rw [houtcome, hmachine, htank]

namespace Match

theorem runPrograms_of_lacks {i : Interpreter} {tanks : List (Tank R)}
    (h : ∀ tank ∈ tanks, tank.Lacks i.vocabulary .random) (source source' : G) :
    (runPrograms i tanks source).1 = (runPrograms i tanks source').1 := by
  induction tanks generalizing source source' with
  | nil => rfl
  | cons tank tanks ih =>
      rw [List.forall_mem_cons] at h
      unfold runPrograms
      cases tank.isCrater with
      | true => exact congrArg (tank :: ·) (ih h.2 source source')
      | false =>
          exact List.cons_eq_cons.mpr ⟨Tank.runProgram_of_lacks h.1 source source', ih h.2 _ _⟩

-- A match in which tanks neither teleport nor draw random numbers.
structure Chanceless (m : Match R G) : Prop where
  grounded : m.Grounded
  undrawn : ∀ tank ∈ m.tanks, tank.Lacks (Tank.interpreter m.rules).vocabulary .random

omit [Scalar R] [Draws R G] in
theorem inside_program : Inside (Tank.program : Tank R → String) where
  position _ _ := rfl
  sensors _ _ := rfl
  death _ _ := rfl
  planned _ _ h := h.program

theorem undrawn_turn {m : Match R G}
    (h : ∀ tank ∈ m.tanks, tank.Lacks (Tank.interpreter m.rules).vocabulary .random) :
    ∀ state ∈ m.turn.opening ++ m.turn.closing, ∀ tank ∈ state.tanks,
      tank.Lacks (Tank.interpreter m.rules).vocabulary .random :=
  inside_program.turn (fun _ _ hprogram hlacks => hlacks.of_program hprogram) m
    (fun tank hlacks => hlacks.of_program (tank.serviced_recharge m.rules).program)
    (fun source tank hlacks => hlacks.of_program (tank.driven_runProgram _ source).program) h

theorem Chanceless.advance {m : Match R G} (h : m.Chanceless) : m.advance.Chanceless where
  grounded := h.grounded.advance
  undrawn := by
    rw [rules_advance]
    exact undrawn_turn h.undrawn m.advance (by simp [Turn.closing, Match.advance])

-- The same match with another source of random numbers.
def reseeded (source : G) (m : Match R G) : Match R G := { m with source }

theorem programmed_reseeded {m : Match R G}
    (h : ∀ tank ∈ m.tanks, tank.Lacks (Tank.interpreter m.rules).vocabulary .random) (source : G) :
    ∃ source', (m.reseeded source).programmed = m.programmed.reseeded source' := by
  have hprogrammed : ∀ g : G, (m.reseeded g).programmed = { m with
      tanks := (runPrograms (Tank.interpreter m.rules) m.tanks g).1
      source := (runPrograms (Tank.interpreter m.rules) m.tanks g).2 } := fun _ => rfl
  refine ⟨(runPrograms (Tank.interpreter m.rules) m.tanks source).2, ?_⟩
  rw [hprogrammed, runPrograms_of_lacks h source m.source]
  rfl

-- In a match without chance, the sources of random numbers make no difference to a tick
-- but for themselves.
theorem Chanceless.advance_reseeded {m : Match R G} (h : m.Chanceless) (source : G) :
    ∃ source', (m.reseeded source).advance = m.advance.reseeded source' := by
  have hready : ∀ tank ∈ m.turn.atPrograms.tanks,
      tank.Lacks (Tank.interpreter m.rules).vocabulary .random :=
    undrawn_turn h.undrawn m.turn.atPrograms (by simp [Turn.opening])
  obtain ⟨source', hprogrammed⟩ := programmed_reseeded hready source
  have htwin : (m.reseeded source).Grounded := h.grounded
  have hatTeleports : (m.reseeded source).turn.atTeleports =
      m.turn.atTeleports.reseeded source' := hprogrammed
  refine ⟨source', ?_⟩
  rw [advance_eq, advance_eq, htwin.atCombat, h.grounded.atCombat, hatTeleports]
  rfl

theorem Chanceless.iterate_reseeded {m : Match R G} (h : m.Chanceless) (source : G) (n : Nat) :
    (Match.advance^[n] m).Chanceless ∧
      ∃ source', Match.advance^[n] (m.reseeded source) = (Match.advance^[n] m).reseeded source' := by
  induction n with
  | zero => exact ⟨h, source, rfl⟩
  | succ n ih =>
      obtain ⟨hchanceless, between, hbetween⟩ := ih
      rw [Function.iterate_succ_apply', Function.iterate_succ_apply', hbetween]
      exact ⟨hchanceless.advance, hchanceless.advance_reseeded between⟩

omit [Scalar R] [Draws R G] in
theorem isOver_reseeded (source : G) (m : Match R G) : (m.reseeded source).isOver = m.isOver := rfl

-- What can be seen of a match but for its source of random numbers is the same after all
-- of its turns, and there are as many of them.
theorem Chanceless.map_turnsFor {α : Type} {look : Match R G → α}
    (hlook : ∀ (m : Match R G) source, look (m.reseeded source) = look m) (ticks : Nat)
    {m : Match R G} (h : m.Chanceless) (source : G) :
    ((turnsFor ticks (m.reseeded source)).map Turn.finish).map look =
      ((turnsFor ticks m).map Turn.finish).map look := by
  induction ticks generalizing m source with
  | zero => rfl
  | succ ticks ih =>
      obtain ⟨source', hadvance⟩ := h.advance_reseeded source
      rw [finishes_turnsFor, finishes_turnsFor, hadvance, isOver_reseeded, List.map_cons,
        List.map_cons, hlook]
      cases m.advance.isOver with
      | true => rfl
      | false => exact congrArg (look m.advance :: ·) (ih h.advance source')

theorem Chanceless.map_play {α : Type} {look : Match R G → α}
    (hlook : ∀ (m : Match R G) source, look (m.reseeded source) = look m) {m : Match R G}
    (h : m.Chanceless) (source : G) : (m.reseeded source).play.map look = m.play.map look :=
  h.map_turnsFor hlook _ source

omit [Draws R G] in
theorem chanceless_assemble {arena : Arena R} {tanks : List (Tank R)} {rules : Rules R}
    (hidle : ∀ tank ∈ tanks, tank.teleporter.teleporting = false)
    (hwords : ∀ tank ∈ tanks, ∀ program : Program R, Program.parse tank.program = .ok program →
      ¬ program.Holds (.word "random") ∧ ¬ program.Holds (.word "teleport!")) (source : G) :
    (assemble arena tanks rules source).Chanceless := by
  have hplanned : ∀ tank : Tank R, tank.Planned (planAround arena rules tank) :=
    Tank.planned_planAround arena rules
  constructor
  · unfold Grounded assemble
    rw [List.forall_mem_map]
    intro tank htank
    have hbarred : tank.Lacks (Tank.interpreter rules).vocabulary .teleport :=
      Tank.lacks_of_word .teleport (fun program hparse => (hwords tank htank program hparse).2) _
    constructor
    · rw [(hplanned tank).teleporter]
      exact hidle tank htank
    · exact hbarred.of_program (hplanned tank).program
  · unfold assemble
    rw [List.forall_mem_map]
    intro tank htank
    have hundrawn : tank.Lacks (Tank.interpreter rules).vocabulary .random :=
      Tank.lacks_of_word .random (fun program hparse => (hwords tank htank program hparse).1) _
    exact hundrawn.of_program (hplanned tank).program

-- Nothing that can be seen of a match depends on random numbers if no tank has the words
-- for them in its program, at whatever depth, and none is about to teleport.
theorem seeds_make_no_difference (arena : Arena R) (tanks : List (Tank R)) (rules : Rules R)
    (hidle : ∀ tank ∈ tanks, tank.teleporter.teleporting = false)
    (hwords : ∀ tank ∈ tanks, ∀ program : Program R, Program.parse tank.program = .ok program →
      ¬ program.Holds (.word "random") ∧ ¬ program.Holds (.word "teleport!"))
    (source source' : G) {m : Match R G} (h : ofLayout arena tanks rules source = .ok m) :
    ∃ m', ofLayout arena tanks rules source' = .ok m' ∧
      m'.play.map snapshot = m.play.map snapshot ∧ m'.play.map standings = m.play.map standings ∧
      ∀ n, (advance^[n] m').snapshot = (advance^[n] m).snapshot ∧
        (advance^[n] m').standings = (advance^[n] m).standings ∧
        (advance^[n] m').play.map snapshot = (advance^[n] m).play.map snapshot ∧
        (advance^[n] m').play.map standings = (advance^[n] m).play.map standings := by
  have hmade : m = assemble arena tanks rules source ∧
      ofLayout arena tanks rules source' = .ok (m.reseeded source') := by
    unfold ofLayout at h ⊢
    split at h
    · contradiction
    · split at h
      · contradiction
      · rename_i htanks
        cases h
        rw [if_neg htanks]
        exact ⟨rfl, rfl⟩
  have hstart : m.Chanceless := by
    rw [hmade.1]
    exact chanceless_assemble hidle hwords source
  have hsnapshot : ∀ (m : Match R G) source, (m.reseeded source).snapshot = m.snapshot :=
    fun _ _ => rfl
  have hstandings : ∀ (m : Match R G) source, (m.reseeded source).standings = m.standings :=
    fun _ _ => rfl
  refine ⟨m.reseeded source', hmade.2, hstart.map_play hsnapshot source',
    hstart.map_play hstandings source', fun n => ?_⟩
  obtain ⟨hchanceless, last, hlast⟩ := hstart.iterate_reseeded source' n
  rw [hlast]
  exact ⟨hsnapshot _ last, hstandings _ last, hchanceless.map_play hsnapshot last,
    hchanceless.map_play hstandings last⟩

-- Two tanks on the same spot, one of them with a program that does not parse.
def duel : List (Tank Float) :=
  let sentry : Entry Float :=
    { name := "Sentry", path := "", program := "90 set-turret! fire-ready? \x7b fire! \x7d if"
      sensors := [] }
  let broken : Entry Float := { name := "Broken", path := "", program := "random \x7d", sensors := [] }
  (Tank.ofEntries Rules.standard 0 [sentry, broken]).toOption.get rfl

-- The words of the programs of some tanks that do parse.
def vocabularies (tanks : List (Tank Float)) : List (List String) :=
  tanks.filterMap fun tank =>
    (Program.parse tank.program : Except SyntaxFault (Program Float)).toOption.map Program.words

theorem seeds_make_no_difference_duel :
    (∀ tank ∈ duel, tank.teleporter.teleporting = false) ∧
    (∀ tank ∈ duel, ∀ program : Program Float, Program.parse tank.program = .ok program →
      ¬ program.Holds (.word "random") ∧ ¬ program.Holds (.word "teleport!")) ∧
    ∃ m m' : Match Float Generator,
      ofLayout (.sizedFor 2 (Float.ofNat 160)) duel Rules.standard (.ofSeed 1) = .ok m ∧
      ofLayout (.sizedFor 2 (Float.ofNat 160)) duel Rules.standard (.ofSeed 2) = .ok m' ∧
      m'.play.map snapshot = m.play.map snapshot ∧ m'.standings = m.standings := by
  have hidle : ∀ tank ∈ duel, tank.teleporter.teleporting = false := by decide +kernel
  have hvocabularies : vocabularies duel =
      [["set-turret!", "fire-ready?", "fire!", "if"]] := by decide +kernel
  have hwords : ∀ tank ∈ duel, ∀ program : Program Float,
      Program.parse tank.program = .ok program →
        ¬ program.Holds (.word "random") ∧ ¬ program.Holds (.word "teleport!") := by
    intro tank htank program hparse
    have hknown : Program.words program ∈ vocabularies duel :=
      List.mem_filterMap.mpr ⟨tank, htank, by rw [hparse]; rfl⟩
    rw [hvocabularies, List.mem_singleton] at hknown
    constructor
    all_goals
      intro hword
      have hstands := hword.words_subset (List.mem_singleton_self _)
      rw [hknown] at hstands
      exact absurd hstands (by decide)
  have hcheck : (Rules.standard : Rules Float).check = .ok () := by decide +kernel
  have hmade : ofLayout (.sizedFor 2 (Float.ofNat 160)) duel Rules.standard (Generator.ofSeed 1) =
      .ok (assemble (.sizedFor 2 (Float.ofNat 160)) duel Rules.standard (.ofSeed 1)) := by
    unfold ofLayout
    rw [hcheck]
    rfl
  obtain ⟨m', hmade', hplay, -, htimes⟩ := seeds_make_no_difference (.sizedFor 2 (Float.ofNat 160))
    duel Rules.standard hidle hwords (.ofSeed 1) (Generator.ofSeed 2) hmade
  exact ⟨hidle, hwords, _, m', hmade, hmade', hplay, (htimes 0).2.1⟩

end Match

end Skirmish
