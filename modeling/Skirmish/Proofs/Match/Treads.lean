import Skirmish.Proofs.Draws
import Skirmish.Proofs.Match.Plans
import Skirmish.Proofs.Match.Failures
import Skirmish.Proofs.Match.Grounded
import Skirmish.Proofs.Match.Memories
import Skirmish.Proofs.Scalar.Levels
import Skirmish.Proofs.Tank.Treads

namespace Skirmish

open Scalar

variable {R G : Type} [Scalar R]

-- A tank that neither drives nor wants to.
structure Tank.AtRest (tank : Tank R) : Prop where
  wanted : tank.wantedSpeed = ⟨((0 : Int) : R), ((0 : Int) : R)⟩
  current : tank.speed = ⟨((0 : Int) : R), ((0 : Int) : R)⟩

theorem Tank.atRest_ofEntry {id : Nat} {entry : Entry R} {rules : Rules R} {tank : Tank R}
    (h : ofEntry id entry rules = .ok tank) : tank.AtRest := by
  unfold ofEntry at h
  dsimp only at h
  split at h
  · contradiction
  · split at h
    · contradiction
    · cases h
      exact ⟨rfl, rfl⟩

theorem Tank.AtRest.inGear [OrderedScalar R] {tank : Tank R} (h : tank.AtRest) : tank.InGear where
  wanted := h.wanted ▸ ⟨inRange_zero, inRange_zero⟩
  current := h.current ▸ ⟨inRange_zero, inRange_zero⟩

namespace Match

variable [Draws R G]

-- A match as it begins: with its tanks placed at random, or anywhere but at rest.
inductive Begins : Match R G → Prop
  | ofEntries {entries : List (Entry R)} {pillars : Nat} {rules : Rules R} {source : G}
      {m : Match R G} (h : Match.ofEntries entries pillars rules source = .ok m) : Begins m
  | ofLayout {arena : Arena R} {tanks : List (Tank R)} {rules : Rules R} {source : G}
      {m : Match R G} (hrest : ∀ tank ∈ tanks, tank.AtRest)
      (h : Match.ofLayout arena tanks rules source = .ok m) : Begins m

variable [OrderedScalar R]

omit [Draws R G] in
theorem inGear_assemble {arena : Arena R} {tanks : List (Tank R)} {rules : Rules R}
    (hcheck : rules.check = .ok ()) (source : G) (h : ∀ tank ∈ tanks, tank.InGear) :
    ∀ tank ∈ (assemble arena tanks rules source).tanks, tank.InGear := by
  unfold assemble
  rw [List.forall_mem_map]
  exact fun tank htank =>
    Tank.inGear_planAround (h tank htank) (Rules.check_eq_ok_iff.mp hcheck) arena

theorem Begins.inGear {m : Match R G} (h : m.Begins) :
    m.rules.Valid ∧ ∀ tank ∈ m.tanks, tank.InGear := by
  cases h with
  | ofEntries h =>
      obtain ⟨tanks, arena, spots, source', hcheck, hmade, rfl⟩ := exists_assemble h
      refine ⟨Rules.check_eq_ok_iff.mp hcheck, inGear_assemble hcheck _ ?_⟩
      have hplaced := forall₂_placeTanks (P := fun a b => a.InGear → b.InGear) (fun _ => id)
        (fun _ _ _ _ h => h.of_same rfl rfl) tanks spots source'
      refine forall_of_forall₂ (fun _ _ h => h) hplaced fun tank htank => ?_
      obtain ⟨i, hi⟩ := List.mem_iff_getElem?.mp htank
      exact Tank.getElem?_ofEntries (P := fun _ tank => tank.InGear)
        (fun _ _ _ h => (Tank.atRest_ofEntry h).inGear) hmade hi
  | ofLayout hrest h =>
      unfold Match.ofLayout at h
      split at h
      · contradiction
      · rename_i hcheck
        split at h
        · contradiction
        · cases h
          exact ⟨Rules.check_eq_ok_iff.mp hcheck, inGear_assemble hcheck _ fun tank htank =>
            (hrest tank htank).inGear⟩

theorem invariant_inGear {rules : Rules R} (hvalid : rules.Valid) (arena : Arena R) :
    Invariant G arena rules Tank.InGear where
  recharge tank h := h.of_same (tank.serviced_recharge rules).wantedSpeed
    (tank.serviced_recharge rules).speed
  commit _ h := ⟨h.wanted, h.current⟩
  sense _ _ h := ⟨h.wanted, h.current⟩
  run g _ h := Tank.inGear_runProgram h _ g
  land _ _ h := ⟨h.wanted, h.current⟩
  kill _ _ h := ⟨h.wanted, h.current⟩
  plan _ h := Tank.inGear_planAround h hvalid arena

-- Tanks are in gear in the middle of a run as well.
theorem inGear_reached {m : Match R G} (h : ∀ tank ∈ m.tanks, tank.InGear) {k : Nat}
    {start : Rig R (Cockpit R G)} (hstart : m.start k = some start) {v : Vocabulary} {steps : Nat}
    {reached : Rig R (Cockpit R G)} (hsteps : Rig.Steps v steps start reached) :
    reached.body.tank.InGear := by
  unfold Match.start at hstart
  split at hstart
  · rename_i tank hk
    split at hstart
    · contradiction
    · split at hstart
      · cases hstart
        exact Tank.inGear_of_orders (hsteps.ordered) (h tank (List.mem_of_getElem? hk))
      · contradiction
  · contradiction

end Match

namespace Match

open Combat

section Ramps

variable {G : Type} [Draws ℝ G]

-- Only the treads of craters are left as they are.
theorem ramps_advance {m : Match ℝ G} (hvalid : m.rules.Valid) {i : Nat} {tank : Tank ℝ}
    (hi : m.tanks[i]? = some tank) :
    ∃ after, m.advance.tanks[i]? = some after ∧ tank.Ramps m.rules.maxAcceleration after := by
  obtain ⟨ready, hready, hplan⟩ := exists_atPlanning hi
  have hspeed : ready.speed = tank.speed := congrArg Plan.speed hplan
  refine ⟨_, getElem?_advance hready, ?_⟩
  unfold onLive
  split
  · rename_i hcrater
    have hdead : ready.isCrater ≠ false := by simp [hcrater]
    exact ⟨fun _ => hspeed, fun hlive => absurd hlive hdead, fun hlive => absurd hlive hdead⟩
  · rename_i hlive
    have hplanned := ready.planned_planAround m.arena m.rules
    have hsame : (planAround m.arena m.rules ready).isCrater = ready.isCrater :=
      congrArg Option.isSome hplanned.death
    have hlimit : 0 ≤ m.rules.maxAcceleration := by
      simpa using MonotoneScalar.le_of_lt hvalid.maxAcceleration_pos
    constructor
    · exact fun hcrater => absurd (hsame.symm.trans hcrater) hlive
    · rw [Tank.speed_planAround, hplanned.wantedSpeed, ← hspeed]
      exact fun _ => Tank.ramped_ramp hlimit _ _
    · rw [Tank.speed_planAround, hplanned.wantedSpeed, ← hspeed]
      exact fun _ => Tank.ramped_ramp hlimit _ _

end Ramps

-- Whatever numbers a program computes, the treads of its tank are told and take on speeds in
-- range, through all of a match and in the middle of a run: speeds and angles that are not
-- finite never get out of the program. In exact numbers, the treads of a tank that lives to
-- plan its next move go toward the speeds it wants.
theorem treads_stay_in_range :
    (∀ (R G : Type) [Scalar R] [OrderedScalar R] [Draws R G] (m : Match R G), m.Begins → ∀ n,
      (∀ state ∈ advance^[n] m :: ((advance^[n] m).turn.opening ++ (advance^[n] m).turn.closing),
        ∀ tank ∈ state.tanks, tank.wantedSpeed.InRange ∧ tank.speed.InRange) ∧
      ∀ k start, (advance^[n] m).turn.atPrograms.start k = some start → ∀ steps reached,
        Rig.Steps (.tank m.rules.teleportEnabled) steps start reached →
          reached.body.tank.wantedSpeed.InRange ∧ reached.body.tank.speed.InRange) ∧
    (∀ (R B : Type) [Scalar R] [OrderedScalar R] [Body R B] (i : Interpreter) (program : Program R)
      (rig reached : Rig R B), i.Reaches program rig reached →
        Relation.ReflTransGen (Body.Ordered R) rig.body reached.body) ∧
    ∀ (G : Type) [Draws ℝ G] (m : Match ℝ G), m.rules.check = .ok () →
      ∀ (i : Nat) (tank : Tank ℝ), m.tanks[i]? = some tank →
        ∃ after, m.advance.tanks[i]? = some after ∧ tank.Ramps m.rules.maxAcceleration after := by
  refine ⟨fun R G _ _ _ m hbegins n => ?_, fun R B _ _ _ i program rig reached hreached =>
    Interpreter.ordered_of_reaches hreached, fun G _ m hcheck i tank hi =>
      ramps_advance (Rules.check_eq_ok_iff.mp hcheck) hi⟩
  obtain ⟨hvalid, hstart⟩ := hbegins.inGear
  have hgear := (invariant_inGear hvalid m.arena).states hstart n
  refine ⟨fun state hstate tank htank => ?_, fun k start hstarted steps reached hsteps => ?_⟩
  · obtain ⟨hwanted, hcurrent⟩ := hgear state hstate tank htank
    exact ⟨hwanted, hcurrent⟩
  · obtain ⟨hwanted, hcurrent⟩ :=
      inGear_reached (hgear _ (by simp [Turn.opening])) hstarted hsteps
    exact ⟨hwanted, hcurrent⟩

-- Sets off at full speed and then tells its treads to go on forever.
def reckless : Tank Float :=
  let entry : Entry Float :=
    { name := "Reckless", path := "", sensors := []
      program := "100 -100 set-speed! 1 9000000000000000000 / 0 mset 1 " ++
        String.join (List.replicate 17 "0 mget / ") ++ "dup set-speed!" }
  (Tank.ofEntry 0 entry Rules.standard).toOption.get rfl

def dash : Match Float Generator :=
  assemble (.sizedFor 1 (Float.ofNat 160)) [reckless] Rules.standard (.ofSeed 1)

theorem begins_dash : dash.Begins := by
  have hcheck : (Rules.standard : Rules Float).check = .ok () := by decide +kernel
  have hrest : ∀ tank ∈ [reckless], tank.AtRest := List.forall_mem_singleton.mpr ⟨rfl, rfl⟩
  have hmade : Match.ofLayout (.sizedFor 1 (Float.ofNat 160)) [reckless] Rules.standard
      (Generator.ofSeed 1) = .ok dash := by
    unfold Match.ofLayout
    rw [hcheck]
    rfl
  exact .ofLayout hrest hmade

-- Means to set off at once.
noncomputable def sprinter (id : Nat) : Tank ℝ :=
  (Tank.ofEntry id ⟨"Sprinter", "", "100 100 set-speed!", []⟩ Rules.standard).toOption.get rfl

noncomputable def onFoot : Rules ℝ := { Rules.standard with teleportEnabled := false }

theorem check_onFoot : onFoot.check = .ok () := by
  have hsame : onFoot.check = (Rules.standard : Rules ℝ).check := rfl
  exact hsame.trans (Rules.check_eq_ok_iff.mpr Rules.valid_standard)

noncomputable def yard : Arena ℝ := ⟨(160 : Int), (160 : Int), []⟩

theorem treads_stay_in_range_starters : dash.Begins ∧
    (∀ tank ∈ (advance^[3] dash).tanks, tank.wantedSpeed.InRange ∧ tank.speed.InRange) ∧
    (∃ start, dash.turn.atPrograms.start 0 = some start ∧ ∀ steps reached,
      Rig.Steps (.tank true) steps start reached → reached.body.tank.wantedSpeed.InRange) ∧
    (∃ program : Program Float, Program.parse reckless.program = .ok program ∧
      Relation.ReflTransGen (Body.Ordered Float) (reckless.rig (Generator.ofSeed 1)).body
        ((Tank.interpreter dash.rules).run program (reckless.rig (Generator.ofSeed 1))).2.body) ∧
    ∃ after,
      (assemble yard [sprinter 0] onFoot Halves.halves).advance.tanks[0]? = some after ∧
      (planAround yard onFoot (sprinter 0)).Ramps onFoot.maxAcceleration after := by
  obtain ⟨hrange, hordered, hramps⟩ := treads_stay_in_range
  have hstarted : (dash.turn.atPrograms.start 0).isSome = true := by decide +kernel
  have hparses : (Program.parse reckless.program : Except _ (Program Float)).isOk = true := by
    decide +kernel
  obtain ⟨start, hstart⟩ := Option.isSome_iff_exists.mp hstarted
  refine ⟨begins_dash, ?_, ⟨start, hstart, fun steps reached hsteps => ?_⟩, ?_, ?_⟩
  · exact (hrange Float Generator dash begins_dash 3).1 _ List.mem_cons_self
  · exact ((hrange Float Generator dash begins_dash 0).2 0 start hstart steps reached hsteps).1
  · cases hprogram : (Program.parse reckless.program : Except SyntaxFault (Program Float)) with
    | error fault =>
        rw [hprogram] at hparses
        exact absurd hparses Bool.false_ne_true
    | ok program =>
        exact ⟨program, rfl, hordered Float (Cockpit Float Generator) (Tank.interpreter dash.rules)
          program _ _ (.inr rfl)⟩
  · exact hramps Halves _ check_onFoot 0 _ rfl

theorem inside_wantedSpeed {R : Type} : Inside fun tank : Tank R => tank.wantedSpeed where
  position _ _ := rfl
  sensors _ _ := rfl
  death _ _ := rfl
  planned _ _ h := h.wantedSpeed

theorem inside_script {R : Type} : Inside fun tank : Tank R => (tank.machine, tank.program) where
  position _ _ := rfl
  sensors _ _ := rfl
  death _ _ := rfl
  planned _ _ h := Prod.ext h.machine h.program

-- Two tanks on the same spot that both mean to set off.
noncomputable def jam : Match ℝ Halves :=
  assemble yard [sprinter 0, sprinter 1] onFoot Halves.halves

theorem begins_jam : jam.Begins := by
  have hrest : ∀ tank ∈ [sprinter 0, sprinter 1], tank.AtRest := by
    rw [List.forall_mem_cons, List.forall_mem_singleton]
    exact ⟨⟨rfl, rfl⟩, ⟨rfl, rfl⟩⟩
  have hmade : Match.ofLayout yard [sprinter 0, sprinter 1] onFoot Halves.halves = .ok jam := by
    unfold Match.ofLayout
    rw [check_onFoot]
    rfl
  exact .ofLayout hrest hmade

theorem wantedSpeed_sprint {tank : Tank ℝ} (hprogram : tank.program = "100 100 set-speed!")
    (hmachine : tank.machine = .fresh 1024) (g : Halves) :
    (tank.runProgram (Tank.interpreter jam.rules) g).1.wantedSpeed = ⟨100, 100⟩ := by
  have hparse : Program.parse tank.program =
      .ok [.number ((100 : Int) : ℝ), .number ((100 : Int) : ℝ), .word "set-speed!"] := by
    rw [hprogram]
    rfl
  have htop : clamp (-Tank.topTread) Tank.topTread ((100 : Int) : ℝ) = 100 := by
    norm_num [clamp, Tank.topTread]
  refine Tank.runProgram_of_runSource (P := fun t => t.wantedSpeed = _) (fun _ _ _ h => h) ?_
  rw [Tank.runSource_of_parse hparse, ← htop]
  unfold Tank.rig
  rw [hmachine]
  rfl

theorem tanks_jam {i : Nat} (hi : i < 2) :
    ∃ tank, jam.tanks[i]? = some tank ∧ tank.speed = ⟨0, 0⟩ ∧ tank.isCrater = false ∧
      tank.next = (planAround jam.arena jam.rules (sprinter 0)).next ∧ tank.machine = .fresh 1024 ∧
        tank.program = "100 100 set-speed!" := by
  have hspeed : ∀ id, (planAround jam.arena jam.rules (sprinter id)).speed = ⟨0, 0⟩ := by
    intro id
    rw [Tank.speed_planAround]
    have hstill : Tank.ramp jam.rules.maxAcceleration ((0 : Int) : ℝ) ((0 : Int) : ℝ) = 0 := by
      norm_num [Tank.ramp]
    exact congrArg₂ Treads.mk hstill hstill
  interval_cases i
  · exact ⟨_, rfl, hspeed 0, rfl, rfl, rfl, rfl⟩
  · exact ⟨_, rfl, hspeed 1, rfl, rfl, rfl, rfl⟩

theorem grounded_jam : jam.Grounded := by
  have hbarred : .teleport ∉ (Tank.interpreter jam.rules).vocabulary.operations := by
    have hunbound : .teleport ∉ (Vocabulary.tank false).operations := by decide
    exact hunbound
  intro tank htank
  obtain ⟨i, hi⟩ := List.mem_iff_getElem?.mp htank
  have hlt : i < 2 := (List.getElem?_eq_some_iff.mp hi).1
  refine ⟨?_, tank.lacks_of_not_mem hbarred⟩
  interval_cases i <;> cases hi <;> rfl

-- Both tanks have got the speed they wanted before they fight.
theorem wantedSpeed_jam {i : Nat} (hi : i < 2) :
    ∃ tank, jam.advance.tanks[i]? = some tank ∧ tank.wantedSpeed = ⟨100, 100⟩ := by
  obtain ⟨start, hstart, -, hlive, -, hmachine, hprogram⟩ := tanks_jam hi
  obtain ⟨ready, hready, hsame⟩ :=
    forall₂_getElem? (inside_script.atPrograms jam) (getElem?_recharged hstart)
  have hserviced := start.serviced_recharge jam.rules
  obtain ⟨hmachine', hprogram'⟩ := Prod.ext_iff.mp hsame
  have hlive' : ready.isCrater = false := by
    have hrecorded := forall₂_comp recorded_trans
      (recorded_of_onlyLive (fun _ _ => Moved.recorded) (forall₂_committed jam.recharged))
      (recorded_of_onlyLive (fun _ _ => Swept.recorded) (forall₂_swept jam.recharged.committed))
    obtain ⟨other, hother, -, hdeath⟩ := forall₂_getElem? hrecorded (getElem?_recharged hstart)
    have heq : other = ready := Option.some.inj (hother.symm.trans hready)
    rw [← heq, Tank.isCrater, hdeath, hserviced.death]
    exact hlive
  have hran := getElem?_programmed hready
  rw [hlive', if_neg Bool.false_ne_true] at hran
  obtain ⟨after, hafter, hwanted⟩ := forall₂_getElem? (inside_wantedSpeed.advance jam) hran
  refine ⟨after, hafter, hwanted.trans (wantedSpeed_sprint ?_ ?_ _)⟩
  · exact hprogram'.trans (hserviced.program.trans hprogram)
  · exact hmachine'.trans (hserviced.machine.trans hmachine)

-- They are in touch, so at least one of them dies.
theorem exists_crater_jam : ∃ i < 2, fates jam.advance.tanks i ≠ none := by
  by_contra hnone
  push Not at hnone
  have hcount : jam.turn.atCombat.tanks.length = 2 := (recorded_atCombat jam).length_eq.symm
  have hspared := (account_advance jam).spared (0, 1) (by
    rw [mem_schedule, hcount]
    decide) (hnone 0 (by decide)) (hnone 1 (by decide))
  have hmoved : ∀ i < 2, ∃ later, jam.turn.atCombat.tanks[i]? = some later ∧
      later.position = (planAround jam.arena jam.rules (sprinter 0)).next := by
    intro i hi
    obtain ⟨start, hstart, -, hlive, hnext, -⟩ := tanks_jam hi
    obtain ⟨later, hlater, hposition⟩ := grounded_jam.position_of_live hstart hlive
      jam.turn.atCombat (by simp [Turn.closing])
    exact ⟨later, hlater, hposition.trans hnext⟩
  obtain ⟨this, hthis, hhere⟩ := hmoved 0 (by decide)
  obtain ⟨that, hthat, hthere⟩ := hmoved 1 (by decide)
  have htouch : touches jam.arena jam.rules jam.turn.atCombat.tanks 0 1 = true := by
    unfold touches
    rw [hthis, hthat]
    dsimp only
    rw [waySq, if_pos (by decide), hhere, hthere]
    have hnear : (jam.arena.displacement (planAround jam.arena jam.rules (sprinter 0)).next
        (planAround jam.arena jam.rules (sprinter 0)).next).lengthSq = 0 := by
      norm_num [Arena.displacement, Arena.shortWay, Point.lengthSq, jam, assemble, yard]
    rw [hnear]
    exact decide_eq_true (mul_self_nonneg _)
  have happart : touches jam.arena jam.rules jam.turn.atCombat.tanks 0 1 = false := hspared.1
  rw [htouch] at happart
  contradiction

-- A tank that dies before its first move stays where it is, whatever its program has told its
-- treads.
theorem crater_not_ramped : jam.Begins ∧ ∃ (i : Nat) (before after : Tank ℝ),
    jam.tanks[i]? = some before ∧ jam.advance.tanks[i]? = some after ∧
      after.wantedSpeed.left = 100 ∧ before.speed.left = 0 ∧ after.speed.left = 0 ∧
      ¬ Tank.Ramped jam.rules.maxAcceleration after.wantedSpeed.left before.speed.left
        after.speed.left := by
  obtain ⟨i, hi, hdead⟩ := exists_crater_jam
  obtain ⟨before, hbefore, hspeed, -⟩ := tanks_jam hi
  obtain ⟨after, hafter, hwanted⟩ := wantedSpeed_jam hi
  obtain ⟨other, hother, hramps⟩ := ramps_advance (Rules.check_eq_ok_iff.mp check_onFoot) hbefore
  have heq : other = after := Option.some.inj (hother.symm.trans hafter)
  subst heq
  have hcrater : other.isCrater = true := by
    rw [← Bool.not_eq_false]
    exact fun hlive => hdead ((fates_eq_none hafter).mpr hlive)
  have hstopped := hramps.crater hcrater
  rw [hspeed] at hstopped
  refine ⟨begins_jam, i, before, other, hbefore, hafter, by rw [hwanted], by rw [hspeed],
    by rw [hstopped], fun hramped => ?_⟩
  have hstep := hramped.step
  rw [hwanted, hspeed, hstopped] at hstep
  norm_num [jam, assemble, onFoot, Rules.standard] at hstep
end Match

end Skirmish
