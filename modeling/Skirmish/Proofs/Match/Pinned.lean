import Skirmish.Proofs.Match.Plans
import Skirmish.Proofs.Match.Whereabouts
import Skirmish.Proofs.Tank.Holding
import Skirmish.Proofs.Tank.Treads

namespace Skirmish

theorem Tank.blockedBy_ofEntry {R : Type} [Scalar R] {id : Nat} {entry : Entry R} {rules : Rules R}
    {tank : Tank R} (h : ofEntry id entry rules = .ok tank) : tank.blockedBy = none := by
  unfold ofEntry at h
  dsimp only at h
  split at h
  · contradiction
  · split at h
    · contradiction
    · cases h
      rfl

-- A tank that moves no way is led to where it stands.
theorem Tank.next_drive_still (arena : Arena ℝ) (tank : Tank ℝ) {motion : Tank.Motion ℝ}
    (hstill : motion.distance = 0) :
    (tank.drive arena motion).next = arena.wrap tank.position := by
  have hplace : tank.position + ⟨0, 0⟩ = tank.position :=
    congrArg₂ Point.mk (add_zero _) (add_zero _)
  unfold Tank.drive
  simp only [hstill, mul_zero, zero_mul]
  rw [hplace]

namespace Match

section Step

variable {R G : Type} [Scalar R] [Draws R G] {m : Match R G} {i k : Nat} {p : Point R}

-- Whether, as the moves of a tick are planned, a live tank stands at a point and a pillar is said
-- to have stopped its last move. That pillar holds it there if the new move leads into it, too.
def Held (m : Match R G) (i k : Nat) (p : Point R) : Prop :=
  ∃ ready, m.turn.atPlanning.tanks[i]? = some ready ∧ ready.isCrater = false ∧
    ready.blockedBy = some k ∧ ready.position = p

-- Whether a tank teleports in the coming tick although a pillar is said to have stopped it.
def Leaps (m : Match R G) (i k : Nat) : Prop :=
  ∃ tank, m.turn.atTeleports.tanks[i]? = some tank ∧ tank.blockedBy = some k ∧
    tank.teleporter.teleporting = true

-- Whether a pillar that has not held up a tank before stops its next move at a point.
structure Puts (m : Match R G) (i k : Nat) (pillar : Pillar R) (p : Point R) (mover : Tank R) :
    Prop where
  plans : m.tanks[i]? = some (mover.clampToPillars m.arena m.rules.tankRadius)
  free : mover.blockedBy ≠ some k
  place : p = m.arena.wrap
    (mover.touch (mover.seen m.arena pillar) (pillar.radius + m.rules.tankRadius))

-- A tank is where its last move has led, unless it has teleported since.
theorem Held.cases (h : m.Held i k p) : ∃ tank, m.tanks[i]? = some tank ∧
    tank.isCrater = false ∧ tank.blockedBy = some k ∧ (m.Leaps i k ∨ tank.next = p) := by
  obtain ⟨ready, hready, hlive, hheld, rfl⟩ := h
  obtain ⟨tank, htank, hplan⟩ := forall₂_getElem? (lasting_plan.atPlanning m).flip hready
  have hblocked : tank.blockedBy = some k := (congrArg Plan.blockedBy hplan).symm.trans hheld
  have halive : tank.isCrater = false := by
    by_contra hcrater
    rw [Bool.not_eq_false] at hcrater
    have hafter := (getElem?_advance hready).symm.trans (crater_advance htank hcrater)
    rw [onLive_live _ hlive] at hafter
    have hdead : (planAround m.arena m.rules ready).isCrater = true :=
      (congrArg Tank.isCrater (Option.some.inj hafter)).trans hcrater
    rw [Tank.isCrater, (ready.planned_planAround m.arena m.rules).death, ← Tank.isCrater, hlive]
      at hdead
    exact Bool.false_ne_true hdead
  refine ⟨tank, htank, halive, hblocked, ?_⟩
  by_cases hstays : m.Stays i
  · right
    obtain ⟨later, hlater, hposition⟩ :=
      exists_position hstays htank m.turn.atPlanning (by simp [Turn.closing])
    obtain rfl := Option.some.inj (hlater.symm.trans hready)
    rw [hposition, onLive_live _ halive]
    rfl
  · left
    unfold Stays at hstays
    push Not at hstays
    obtain ⟨driven, hdriven, hasked⟩ := hstays
    obtain ⟨other, hother, hplan'⟩ := forall₂_getElem? (lasting_plan.sinceTeleports m) hdriven
    obtain rfl := Option.some.inj (hother.symm.trans hready)
    exact ⟨driven, hdriven, (congrArg Plan.blockedBy hplan').symm.trans hheld, by simpa using hasked⟩

omit [Draws R G] in
-- The pillar said to have stopped a tank holds it where it stands or has put it there.
theorem held_or_puts {pillar : Pillar R} (hk : m.arena.pillars[k]? = some pillar) {mover : Tank R}
    (hi : m.tanks[i]? = some (mover.clampToPillars m.arena m.rules.tankRadius))
    (hblocked : (mover.clampToPillars m.arena m.rules.tankRadius).blockedBy = some k) :
    mover.blockedBy = some k ∧
        (mover.clampToPillars m.arena m.rules.tankRadius).next = m.arena.wrap mover.position ∨
      m.Puts i k pillar (mover.clampToPillars m.arena m.rules.tankRadius).next mover := by
  obtain ⟨other, hother, hnext⟩ := mover.exists_of_blockedBy hblocked
  obtain rfl := Option.some.inj (hother.symm.trans hk)
  unfold Tank.stop at hnext
  by_cases hheld : mover.blockedBy = some k
  · rw [if_pos hheld] at hnext
    exact .inl ⟨hheld, hnext⟩
  · rw [if_neg hheld] at hnext
    exact .inr ⟨hi, hheld, hnext⟩

-- In a tick, a tank that is held came to stand where it does by a leap or by its last move, unless
-- it was held there already.
theorem held_advance {pillar : Pillar R} (hk : m.arena.pillars[k]? = some pillar)
    (hhome : ∀ q, m.Held i k q → m.arena.wrap q = q) (h : m.advance.Held i k p) :
    m.Held i k p ∨ m.advance.Leaps i k ∨ ∃ mover, m.advance.Puts i k pillar p mover := by
  obtain ⟨tank, htank, hlive, hblocked, hleaps | rfl⟩ := h.cases
  · exact .inr (.inl hleaps)
  · obtain ⟨ready, hready, hawake, rfl⟩ := exists_planned htank hlive
    rw [← arena_advance m] at hk
    have hplan : planAround m.arena m.rules ready =
        (ready.planMove m.arena m.rules).clampToPillars m.advance.arena
          m.advance.rules.tankRadius := by
      rw [arena_advance, rules_advance]
      rfl
    rw [hplan] at htank hblocked ⊢
    rcases held_or_puts hk htank hblocked with ⟨hheld, hnext⟩ | hputs
    · left
      have hsame : m.Held i k ready.position := ⟨ready, hready, hawake, hheld, rfl⟩
      rw [hnext, arena_advance]
      rwa [← hhome _ hsame] at hsame
    · exact .inr (.inr ⟨_, hputs⟩)

theorem held_since {pillar : Pillar R} (hk : m.arena.pillars[k]? = some pillar)
    (hstart : ∀ tank, m.tanks[i]? = some tank → ∃ mover : Tank R, mover.blockedBy = none ∧
      tank = mover.clampToPillars m.arena m.rules.tankRadius)
    (hhome : ∀ n q, (advance^[n] m).Held i k q → m.arena.wrap q = q) {n : Nat}
    (h : (advance^[n] m).Held i k p) :
    ∃ s ≤ n, (∀ t ∈ Set.Icc s n, (advance^[t] m).Held i k p) ∧
      ((advance^[s] m).Leaps i k ∨ ∃ mover, (advance^[s] m).Puts i k pillar p mover) := by
  have hnow : ∀ {n}, (advance^[n] m).Held i k p →
      ∀ t ∈ Set.Icc n n, (advance^[t] m).Held i k p := by
    intro n h t ht
    rw [Set.Icc_self, Set.mem_singleton_iff] at ht
    rwa [ht]
  induction n with
  | zero =>
      obtain ⟨tank, htank, -, hblocked, hleaps | rfl⟩ := h.cases
      · exact ⟨0, le_rfl, hnow h, .inl hleaps⟩
      · obtain ⟨mover, hfree, rfl⟩ := hstart tank htank
        rcases held_or_puts hk htank hblocked with ⟨hheld, -⟩ | hputs
        · rw [hfree] at hheld
          exact absurd hheld.symm (Option.some_ne_none k)
        · exact ⟨0, le_rfl, hnow h, .inr ⟨mover, hputs⟩⟩
  | succ n ih =>
      have hstep := h
      rw [Function.iterate_succ_apply'] at hstep
      rw [← arena_iterate m n] at hk hhome
      rcases held_advance hk (hhome n) hstep with hbefore | hway
      · obtain ⟨s, hs, hsince, hway⟩ := ih hbefore
        refine ⟨s, hs.trans n.le_succ, fun t ht => ?_, hway⟩
        rcases Nat.le_succ_iff.mp ht.2 with hle | rfl
        · exact hsince t ⟨ht.1, hle⟩
        · exact h
      · rw [← Function.iterate_succ_apply' advance] at hway
        exact ⟨n + 1, le_rfl, hnow h, hway⟩

end Step

-- Before its first move is planned, no pillar is said to have stopped a tank.
theorem exists_mover {R G : Type} [Scalar R] [Draws R G] {entries : List (Entry R)} {pillars : Nat}
    {rules : Rules R} {source : G} {m : Match R G}
    (h : ofEntries entries pillars rules source = .ok m) {i : Nat} {tank : Tank R}
    (hi : m.tanks[i]? = some tank) : ∃ mover : Tank R, mover.blockedBy = none ∧
      tank = mover.clampToPillars m.arena m.rules.tankRadius := by
  obtain ⟨tanks, arena, spots, source', -, hmade, rfl⟩ := exists_assemble h
  change ((placeTanks tanks spots source').1.map (planAround arena rules))[i]? = some tank at hi
  rw [List.getElem?_map, Option.map_eq_some_iff] at hi
  obtain ⟨placed, hplaced, rfl⟩ := hi
  have hspots := forall₂_placeTanks (P := fun a b => b.blockedBy = a.blockedBy) (fun _ => rfl)
    (fun _ _ _ _ => rfl) tanks spots source'
  obtain ⟨made, hmade', hfree⟩ := forall₂_getElem? hspots.flip hplaced
  have hnone : made.blockedBy = none := Tank.getElem?_ofEntries
    (P := fun _ tank => tank.blockedBy = none) (fun _ _ _ => Tank.blockedBy_ofEntry) hmade hmade'
  exact ⟨placed.planMove arena rules, hfree.trans hnone, rfl⟩

section Game

variable {G : Type} [Draws ℝ G] [SoundDraws ℝ G] {entries : List (Entry ℝ)} {pillars : Nat}
  {rules : Rules ℝ} {source : G} {m : Match ℝ G}

-- There are three ways for a tank to be held within reach of a pillar. It leaped there while the
-- pillar was said to have stopped it already; or the pillar stopped it on a turn about a point so
-- near that all of the turning circle is in reach, as the tank was before; or the pillar stopped it
-- out of reach as the tank saw it, and it is in reach over an edge. Since then, it has been held.
theorem held_within_reach (h : ofEntries entries pillars rules source = .ok m) {n i k : Nat}
    {p : Point ℝ} (hheld : (advance^[n] m).Held i k p) {pillar : Pillar ℝ}
    (hk : m.arena.pillars[k]? = some pillar)
    (hnear : m.arena.distance p pillar.position < pillar.reach rules.tankRadius) :
    ∃ s ≤ n, (∀ t ∈ Set.Icc s n, (advance^[t] m).Held i k p) ∧
      ((advance^[s] m).Leaps i k ∨ ∃ mover, (advance^[s] m).Puts i k pillar p mover ∧
        (mover.Engulfed (mover.seen m.arena pillar) (pillar.reach rules.tankRadius) ∧
            m.arena.distance mover.position pillar.position < pillar.reach rules.tankRadius ∨
          pillar.reach rules.tankRadius ≤
            (mover.touch (mover.seen m.arena pillar) (pillar.reach rules.tankRadius)).distance
              (mover.seen m.arena pillar))) := by
  obtain ⟨⟨hwidth, hheight⟩, hstart⟩ := roams_ofEntries h
  have hroams := fun n =>
    (invariant_roams (Arena.confines_holds hwidth hheight) m.rules).states hstart n
  have hhome : ∀ n q, (advance^[n] m).Held i k q → m.arena.wrap q = q := by
    rintro n _ ⟨ready, hready, -, -, rfl⟩
    have hplanning : (advance^[n] m).turn.atPlanning ∈ advance^[n] m ::
        ((advance^[n] m).turn.opening ++ (advance^[n] m).turn.closing) := by simp [Turn.closing]
    exact (hroams n _ hplanning ready (List.mem_of_getElem? hready)).position.wrap_eq
  obtain ⟨s, hs, hsince, hway⟩ := held_since hk (fun _ => exists_mover h) hhome hheld
  refine ⟨s, hs, hsince, hway.imp_right ?_⟩
  rintro ⟨mover, hputs⟩
  refine ⟨mover, hputs, ?_⟩
  rcases le_or_gt (pillar.reach rules.tankRadius)
    ((mover.touch (mover.seen m.arena pillar) (pillar.reach rules.tankRadius)).distance
      (mover.seen m.arena pillar)) with hout | hin
  · exact .inr hout
  · left
    have hreach : 0 ≤ pillar.reach rules.tankRadius := (Real.sqrt_nonneg _).trans hnear.le
    have hengulfed := Tank.engulfed_of_touch hreach hin
    refine ⟨hengulfed, ?_⟩
    rw [← Arena.distance_add_displacement]
    exact hengulfed.distance_lt mover.distance_position_pivot

end Game

-- Teleports in every tick.
def leaper : List (Entry ℝ) := [⟨"Leaper", "", "teleport!", []⟩]

noncomputable def restless : Rules ℝ := { Rules.standard with teleportRecharge := 1 }

-- The field that halves give a tank and a pillar: the pillar is in the middle.
noncomputable def glade : Arena ℝ :=
  ⟨(320 : Int), (160 : Int), [⟨⟨(160 : Int), (80 : Int)⟩, (30 : Int)⟩]⟩

-- A live tank at rest that can teleport and will.
structure Restless (tank : Tank ℝ) : Prop where
  live : tank.isCrater = false
  program : tank.program = "teleport!"
  wanted : tank.wantedSpeed = ⟨((0 : Int) : ℝ), ((0 : Int) : ℝ)⟩
  current : tank.speed = ⟨((0 : Int) : ℝ), ((0 : Int) : ℝ)⟩
  charged : tank.teleporter.recharge = 0

theorem Restless.recharge {tank : Tank ℝ} (h : Restless tank) : Restless (tank.recharge restless) := by
  have hserviced := tank.serviced_recharge restless
  refine ⟨hserviced.isCrater.trans h.live, hserviced.program.trans h.program,
    hserviced.wantedSpeed.trans h.wanted, hserviced.speed.trans h.current, ?_⟩
  have hlive := h.live
  have hcharged := h.charged
  unfold Tank.recharge
  dsimp only
  rw [if_neg (by simp [hlive])]
  dsimp only
  split_ifs
  · rfl
  · rw [hcharged]

theorem Restless.runProgram {tank : Tank ℝ} (h : Restless tank) (g : Halves) :
    Restless (tank.runProgram (Tank.interpreter restless) g).1 ∧
      (tank.runProgram (Tank.interpreter restless) g).1.teleporter.teleporting = true := by
  have hdriven := tank.driven_runProgram (Tank.interpreter restless) g
  have hparse : Program.parse tank.program = .ok [(.word "teleport!" : Value ℝ)] := by
    rw [h.program]
    rfl
  have hran : ((Tank.interpreter restless).runSource tank.program (tank.rig g)).2.body.tank =
      tank.teleport := by
    rw [Tank.runSource_of_parse hparse]
    rfl
  have hready : tank.teleport.teleporter.teleporting = true := by
    simp [Tank.teleport, Tank.teleportReady, h.charged]
  refine ⟨⟨?_, hdriven.program.trans h.program, ?_, hdriven.speed.trans h.current,
    hdriven.teleporterRecharge.trans h.charged⟩, ?_⟩
  · rw [Tank.isCrater, hdriven.death]
    exact h.live
  · refine Tank.runProgram_of_runSource (P := fun t => t.wantedSpeed = _) (fun _ _ _ h => h) ?_
    rw [hran]
    exact h.wanted
  · refine Tank.runProgram_of_runSource (P := fun t => t.teleporter.teleporting = true)
      (fun _ _ _ h => h) ?_
    rw [hran]
    exact hready

section Restless

variable {m : Match ℝ Halves} {tank : Tank ℝ}

-- The tank as its program finds it.
theorem exists_swept (hrules : m.rules = restless) (htanks : m.tanks = [tank]) (h : Restless tank) :
    ∃ walker, m.turn.atPrograms.tanks = [walker] ∧ Restless walker ∧
      walker.blockedBy = tank.blockedBy := by
  have hready := h.recharge
  have hcommitted : m.turn.atSweep.tanks = [(tank.recharge restless).commit] := by
    rw [tanks_atSweep, htanks, hrules, List.map_singleton, List.map_singleton, onLive_live _ hready.live]
  have hsweep := forall₂_swept m.turn.atSweep
  rw [hcommitted] at hsweep
  have hlive : (tank.recharge restless).commit.isCrater = false := hready.live
  obtain ⟨swept, hwalker, sensors, rfl⟩ := exists_of_onlyLive hlive hsweep
  exact ⟨_, hwalker, ⟨hready.live, hready.program, hready.wanted, hready.current, hready.charged⟩,
    (tank.serviced_recharge restless).blockedBy⟩

-- Its program has it teleport.
theorem exists_driven (hrules : m.rules = restless) (htanks : m.tanks = [tank]) (h : Restless tank) :
    ∃ driven, m.turn.atTeleports.tanks = [driven] ∧ Restless driven ∧
      driven.teleporter.teleporting = true ∧ driven.blockedBy = tank.blockedBy := by
  obtain ⟨walker, hwalker, hready, hblocked⟩ := exists_swept hrules htanks h
  obtain ⟨hdriver, hasked⟩ := hready.runProgram m.turn.atPrograms.source
  refine ⟨_, ?_, hdriver, hasked, (Tank.driven_runProgram _ _ _).blockedBy.trans hblocked⟩
  rw [tanks_atTeleports, hwalker, hrules]
  unfold runPrograms
  rw [if_neg (by simp [hready.live])]
  rfl

-- It lands where the source has it, and nobody is there to shoot at it.
theorem exists_landed (hrules : m.rules = restless) (htanks : m.tanks = [tank]) (h : Restless tank) :
    ∃ landed, m.turn.atPlanning.tanks = [landed] ∧ Restless landed ∧
      landed.position = (m.arena.randomPoint Halves.halves).1 ∧
      landed.blockedBy = tank.blockedBy := by
  obtain ⟨driven, hdriven, hready, hasked, hblocked⟩ := exists_driven hrules htanks h
  have hlanded : m.turn.atCombat.tanks =
      [{ driven with position := (m.arena.randomPoint Halves.halves).1 }] := by
    rw [tanks_atCombat, hdriven]
    unfold teleportTanks
    rw [hready.live, hasked]
    rfl
  refine ⟨{ driven with position := (m.arena.randomPoint Halves.halves).1 }, ?_,
    ⟨hready.live, hready.program, hready.wanted, hready.current, hready.charged⟩, rfl, hblocked⟩
  rw [tanks_atPlanning, hlanded]
  rfl

-- From there its next move is planned.
theorem tanks_advance_of_landed (hrules : m.rules = restless) {landed : Tank ℝ}
    (hlanded : m.turn.atPlanning.tanks = [landed]) (h : Restless landed) :
    m.advance.tanks = [planAround m.arena restless landed] := by
  rw [tanks_advance, hlanded, hrules, List.map_singleton, onLive_live _ h.live]

end Restless

theorem Restless.rampTreads {tank : Tank ℝ} (h : Restless tank) :
    (tank.rampTreads restless).speed = ⟨((0 : Int) : ℝ), ((0 : Int) : ℝ)⟩ := by
  change Treads.mk (Tank.ramp _ tank.wantedSpeed.left tank.speed.left)
    (Tank.ramp _ tank.wantedSpeed.right tank.speed.right) = _
  rw [h.wanted, h.current, Tank.ramp_self]

-- A tank at rest stays where it is, as far as its move goes.
theorem Restless.planMove {tank : Tank ℝ} (h : Restless tank) {arena : Arena ℝ}
    (hhome : arena.wrap tank.position = tank.position) :
    (tank.planMove arena restless).next = tank.position := by
  have hstill : ((tank.slewTurret restless).rampTreads restless).speed =
      ⟨((0 : Int) : ℝ), ((0 : Int) : ℝ)⟩ := h.rampTreads
  have hmotion : (Tank.motion restless ⟨((0 : Int) : ℝ), ((0 : Int) : ℝ)⟩).distance = 0 := by
    simp [Tank.motion]
  unfold Tank.planMove
  dsimp only
  rw [hstill, Tank.next_drive_still _ _ hmotion]
  exact hhome

theorem Restless.planned {tank : Tank ℝ} (h : Restless tank) (arena : Arena ℝ) :
    Restless (planAround arena restless tank) := by
  have hplanned := tank.planned_planAround arena restless
  refine ⟨?_, hplanned.program.trans h.program, hplanned.wantedSpeed.trans h.wanted,
    (tank.speed_planAround arena restless).trans h.rampTreads, ?_⟩
  · rw [Tank.isCrater, hplanned.death]
    exact h.live
  · rw [hplanned.teleporter]
    exact h.charged

section Glade

variable {tank : Tank ℝ} (h : Restless tank) (hplace : tank.position = ⟨160, 80⟩)

include h hplace

-- In the middle of the pillar, the pillar stops the tank.
theorem stopped_glade : planAround glade restless tank =
    { tank.planMove glade restless with
      next := glade.wrap
        ((tank.planMove glade restless).stop glade restless.tankRadius ⟨⟨160, 80⟩, 30⟩ 0)
      blockedBy := some 0 } := by
  have hhome : glade.wrap tank.position = tank.position := by
    rw [hplace]
    exact Arena.Holds.wrap_eq ⟨by norm_num [glade], by norm_num [glade]⟩
  have hself : (⟨160, 80⟩ : Point ℝ) + glade.displacement ⟨160, 80⟩ ⟨160, 80⟩ = ⟨160, 80⟩ := by
    change Point.mk _ _ = _
    norm_num [Arena.displacement, Arena.shortWay, glade]
  have hnext := h.planMove hhome
  have hposition : (tank.planMove glade restless).position = tank.position := rfl
  have hclamp : planAround glade restless tank =
      Tank.stopAt glade restless.tankRadius (tank.planMove glade restless).blockedBy
        { tank.planMove glade restless with
          next := (tank.planMove glade restless).next
          blockedBy := none } (⟨⟨160, 80⟩, 30⟩, 0) := rfl
  generalize tank.planMove glade restless = ready at hnext hposition hclamp ⊢
  have hmeets : ¬ (30 + restless.tankRadius) * (30 + restless.tankRadius) <
      (ready.position + glade.displacement ready.position ready.next).distanceSq
        (ready.seen glade ⟨⟨160, 80⟩, 30⟩) := by
    unfold Tank.seen
    rw [hposition, hnext, hplace, hself, Point.distanceSq_eq, sub_self, sub_self, not_lt]
    simpa using mul_self_nonneg (30 + restless.tankRadius)
  rw [hclamp]
  unfold Tank.stopAt
  rw [Tank.contact?_eq, if_neg hmeets]

-- If it has stopped its last move, too, it holds the tank there.
theorem next_glade (hblocked : tank.blockedBy = some 0) :
    (planAround glade restless tank).next = ⟨160, 80⟩ := by
  have hheld : (tank.planMove glade restless).blockedBy = some 0 := hblocked
  have hposition : (tank.planMove glade restless).position = ⟨160, 80⟩ := hplace
  rw [stopped_glade h hplace, Tank.stop, if_pos hheld, hposition]
  exact Arena.Holds.wrap_eq ⟨by norm_num [glade], by norm_num [glade]⟩

end Glade

theorem sizedFor_glade : (Arena.sizedFor 2 restless.gridSpacing : Arena ℝ) = ⟨320, 160, []⟩ := by
  rw [Arena.sizedFor_two]
  norm_num [restless, Rules.standard]

-- The field that is made for the tank and one pillar has it in the middle.
theorem raisePillars_glade : Placement.raisePillars restless 1 0
    (Arena.sizedFor 2 restless.gridSpacing) Halves.halves = (none, glade, Halves.halves) := by
  have hpillar : Placement.drawn restless ⟨320, 160, []⟩ (Draws.unit Halves.halves).1
      (Draws.unit Halves.halves).1 (Draws.unit Halves.halves).1 = ⟨⟨160, 80⟩, 30⟩ := by
    norm_num [Placement.drawn, Placement.span, Draws.unit, restless, Rules.standard,
      Reals.greatest_eq]
  rw [sizedFor_glade, Placement.raisePillars_succ_of_nil restless ⟨320, 160, []⟩ rfl]
  change (none, Arena.mk 320 160 [Placement.drawn restless ⟨320, 160, []⟩
    (Draws.unit Halves.halves).1 (Draws.unit Halves.halves).1 (Draws.unit Halves.halves).1],
    Halves.halves) = _
  rw [hpillar]
  rfl

section Leaper

variable {m : Match ℝ Halves}

theorem exists_restless (hm : ofEntries leaper 1 restless Halves.halves = .ok m) :
    ∃ tank, m.tanks = [tank] ∧ Restless tank := by
  obtain ⟨made, hmade, hfresh⟩ : ∃ made, Tank.ofEntries restless 0 leaper = .ok [made] ∧
      Restless made := ⟨_, rfl, rfl, rfl, rfl, rfl, rfl⟩
  obtain ⟨tanks, arena, spots, source, -, hmade', rfl⟩ := exists_assemble hm
  obtain rfl := Except.ok.inj (hmade.symm.trans hmade')
  have hplaced := forall₂_placeTanks (P := fun a b => Restless a → Restless b) (fun _ => id)
    (fun _ _ _ _ h => ⟨h.live, h.program, h.wanted, h.current, h.charged⟩) [made] spots source
  rw [List.forall₂_cons_left_iff] at hplaced
  obtain ⟨placed, rest, hplaced, hrest, htanks⟩ := hplaced
  rw [List.forall₂_nil_left_iff.mp hrest] at htanks
  refine ⟨planAround arena restless placed, ?_, (hplaced hfresh).planned arena⟩
  rw [assemble, htanks, List.map_singleton]

theorem arena_leaper (hm : ofEntries leaper 1 restless Halves.halves = .ok m) : m.arena = glade := by
  obtain ⟨tank, htanks, -⟩ := exists_restless hm
  obtain ⟨-, -, harena, -⟩ := populate_ofEntries hm
  have hone : m.tanks.length = 1 := by rw [htanks, List.length_singleton]
  have hraised : Placement.raisePillars restless 1 0
      { Arena.sizedFor (1 + 1) restless.gridSpacing with pillars := [] } Halves.halves =
        (none, glade, Halves.halves) := raisePillars_glade
  rw [hone] at harena
  unfold Arena.populate at harena
  rw [hraised] at harena
  rw [← harena]
  dsimp only
  split <;> rfl

end Leaper

-- The field has room for the tank beside the pillar.
theorem exists_spots_glade : ∃ spots, ((Arena.sizedFor (1 + 1) restless.gridSpacing).populate 1 1
    restless Halves.halves).tanks = .ok spots := by
  have hradius : 0 < restless.tankRadius := by norm_num [restless, Rules.standard]
  have hmin : 0 < restless.pillarMinRadius := by norm_num [restless, Rules.standard]
  have hspacing : 0 < restless.gridSpacing := by norm_num [restless, Rules.standard]
  have hroom : 2 * (restless.tankRadius + restless.pillarMaxRadius +
      ObjectKind.spacing .tank .pillar) < restless.gridSpacing := by
    norm_num [restless, Rules.standard, ObjectKind.spacing]
  have hstout : ∀ pillar ∈ glade.pillars, Placement.Stout restless pillar := by
    norm_num [glade, Placement.Stout, restless, Rules.standard]
  have hcells : 1 + glade.pillars.length ≤ (Placement.cells restless glade).length := by
    have hlength : (Placement.cells restless glade).length = Arena.rows 2 * Arena.columns 2 :=
      Placement.length_cells_sizedFor hspacing (by simp [sizedFor_glade, glade])
        (by simp [sizedFor_glade, glade])
    rw [hlength]
    exact Arena.le_rows_mul_columns 2
  exact Placement.exists_populate raisePillars_glade fun g =>
    Placement.exists_gridTanks hcells (fun pillar hpillar _ _ =>
      Placement.eq_of_crowded hradius hmin hroom (hstout pillar hpillar)) g

theorem exists_leaper : ∃ m : Match ℝ Halves, ofEntries leaper 1 restless Halves.halves = .ok m := by
  have hsame : restless.check = (Rules.standard : Rules ℝ).check := rfl
  have hvalid : restless.Valid :=
    Rules.check_eq_ok_iff.mp (hsame.trans (Rules.check_eq_ok_iff.mpr Rules.valid_standard))
  obtain ⟨made, hmade⟩ : ∃ made, Tank.ofEntries restless 0 leaper = .ok [made] := ⟨_, rfl⟩
  exact exists_ofEntries hvalid hmade rfl exists_spots_glade

theorem held_within_reach_leaper : ∃ m : Match ℝ Halves,
    ofEntries leaper 1 restless Halves.halves = .ok m ∧ m.rules.teleportEnabled = true ∧
      (advance^[1] m).Held 0 0 ⟨160, 80⟩ ∧
      (∃ after, (advance^[2] m).tanks[0]? = some after ∧ after.next = ⟨160, 80⟩) ∧
      ∃ pillar, m.arena.pillars[0]? = some pillar ∧
        m.arena.distance ⟨160, 80⟩ pillar.position < pillar.reach m.rules.tankRadius ∧
        ∃ s ≤ 1, ∀ t ∈ Set.Icc s 1, (advance^[t] m).Held 0 0 ⟨160, 80⟩ := by
  obtain ⟨m, hm⟩ := exists_leaper
  obtain ⟨tank, htanks, htank⟩ := exists_restless hm
  have harena := arena_leaper hm
  obtain ⟨hrules, -⟩ := populate_ofEntries hm
  have hplace : (glade.randomPoint Halves.halves).1 = ⟨160, 80⟩ := by
    norm_num [Arena.randomPoint, Draws.unit, glade]
  obtain ⟨ready, hlanded, hready, hposition, -⟩ := exists_landed hrules htanks htank
  have hafter := tanks_advance_of_landed hrules hlanded hready
  rw [harena] at hafter hposition
  have hblocked : (planAround glade restless ready).blockedBy = some 0 := by
    rw [stopped_glade hready (hposition.trans hplace)]
  have hrules' := (rules_advance m).trans hrules
  obtain ⟨ready', hlanded', hready', hposition', hblocked'⟩ :=
    exists_landed hrules' hafter (hready.planned glade)
  have hafter' := tanks_advance_of_landed hrules' hlanded' hready'
  rw [arena_advance, harena] at hafter' hposition'
  rw [hblocked] at hblocked'
  have hheld : (advance^[1] m).Held 0 0 ⟨160, 80⟩ := by
    refine ⟨ready', ?_, hready'.live, hblocked', hposition'.trans hplace⟩
    rw [Function.iterate_one, hlanded']
    rfl
  have hpillar : m.arena.pillars[0]? = some ⟨⟨160, 80⟩, 30⟩ := by
    rw [harena]
    rfl
  have hnear : m.arena.distance ⟨160, 80⟩ ⟨160, 80⟩ <
      Pillar.reach restless.tankRadius ⟨⟨160, 80⟩, 30⟩ := by
    rw [harena]
    norm_num [Arena.distance, Arena.displacement, Arena.shortWay, Point.lengthSq, glade,
      Pillar.reach, restless, Rules.standard]
  obtain ⟨s, hs, hsince, -⟩ := held_within_reach hm hheld hpillar hnear
  refine ⟨m, hm, by rw [hrules]; rfl, hheld, ⟨planAround glade restless ready', ?_, ?_⟩,
    _, hpillar, by rwa [hrules], s, hs, hsince⟩
  · rw [Function.iterate_succ_apply', Function.iterate_one, hafter']
    rfl
  · exact next_glade hready' (hposition'.trans hplace) hblocked'

end Match

end Skirmish
