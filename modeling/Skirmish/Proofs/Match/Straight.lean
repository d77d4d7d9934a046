import Skirmish.Proofs.Draws
import Skirmish.Proofs.Match.Plans
import Skirmish.Proofs.Match.Whereabouts
import Skirmish.Proofs.Tank.Stopping
import Skirmish.Proofs.Tank.Treads

namespace Skirmish

namespace Compass

variable (c : Compass) {arena : Arena ℝ} {tank : Tank ℝ}

-- A tank whose treads have one speed is led straight along its heading.
theorem next_planMove {rules : Rules ℝ} {ready : Tank ℝ}
    (hready : ready = @Tank.planMove ℝ c.scalar arena rules tank)
    (hstraight : ready.speed.left = ready.speed.right) :
    ready.next = arena.wrap (tank.position.along
      (c.step ready.heading (ready.speed.left * rules.topSpeed / 100)) 1) := by
  have hmotion : @Tank.motion ℝ c.scalar rules ready.speed =
      ⟨0, ready.speed.left * rules.topSpeed / 100, 1, none⟩ := by
    refine (if_pos (decide_eq_true hstraight)).trans ?_
    simp
  have hled : ready.next = arena.wrap (tank.position +
      ⟨c.cos ready.heading * (@Tank.motion ℝ c.scalar rules ready.speed).distance *
          (@Tank.motion ℝ c.scalar rules ready.speed).direction,
        c.sin ready.heading * (@Tank.motion ℝ c.scalar rules ready.speed).distance *
          (@Tank.motion ℝ c.scalar rules ready.speed).direction⟩) := by
    rw [hready]
    rfl
  rw [hled, hmotion, mul_one, mul_one, Point.along_one]
  rfl

theorem free_planAround {rules : Rules ℝ} {span : ℝ} (hroom : arena.Roomy rules.tankRadius span)
    (hwidth : 0 < arena.width) (hheight : 0 < arena.height)
    (hstart : arena.Free rules.tankRadius tank.position) {after : Tank ℝ}
    (hafter : after = @Match.planAround ℝ c.scalar arena rules tank)
    (hstraight : after.speed.left = after.speed.right)
    (hshort : |after.speed.left * rules.topSpeed / 100| ≤ span) :
    arena.Free rules.tankRadius after.next where
  encloses := by
    obtain ⟨p, hp⟩ := @Tank.wrapped_planAround ℝ c.scalar arena rules tank
    rw [hafter, hp]
    exact (Arena.holds_wrap hwidth hheight p).encloses
  clear := by
    obtain ⟨ready, hready⟩ : ∃ ready, ready = @Tank.planMove ℝ c.scalar arena rules tank :=
      ⟨_, rfl⟩
    have hspeed : after.speed = ready.speed := by
      rw [hafter, hready]
      exact @Tank.speed_planAround ℝ c.scalar arena rules tank
    have hposition : ready.position = tank.position := by
      rw [hready]
      rfl
    rw [hspeed] at hstraight hshort
    rw [← hposition] at hstart
    have hnext := c.next_planMove hready hstraight
    rw [← hposition] at hnext
    have hstopped : after = @Tank.clampToPillars ℝ c.scalar arena rules.tankRadius ready := by
      rw [hafter, hready]
      rfl
    rw [hstopped]
    rw [← c.sqrt_lengthSq_step ready.heading] at hshort
    exact c.clear_clampToPillars (hroom.mono hshort) hstart hstraight hnext

end Compass

namespace Match

section Stays

variable {R G : Type} [Scalar R] [Draws R G]

-- Where a tank that does not teleport stands in the middle of a tick, it stood before or meant
-- to go.
theorem holds_turn {P : Point R → Prop} {m : Match R G} {i : Nat} (hstays : m.Stays i)
    {tank : Tank R} (hi : m.tanks[i]? = some tank) (h : tank.Roams P) :
    ∀ state ∈ m.turn.opening ++ m.turn.closing,
      ∃ later, state.tanks[i]? = some later ∧ P later.position := by
  intro state hstate
  obtain ⟨later, hlater, hposition⟩ := exists_position hstays hi state hstate
  refine ⟨later, hlater, ?_⟩
  rw [hposition]
  unfold onLive
  split
  · exact h.position
  · exact h.next

-- A tank that does not teleport stays where it may, if every new plan of it leads there.
theorem roams_advance {P : Point R → Prop} {m : Match R G} {i : Nat} (hstays : m.Stays i)
    (hplan : ∀ tank : Tank R, P tank.position →
      m.advance.tanks[i]? = some (planAround m.arena m.rules tank) →
        P (planAround m.arena m.rules tank).next)
    {tank : Tank R} (hi : m.tanks[i]? = some tank) (h : tank.Roams P) :
    ∃ after, m.advance.tanks[i]? = some after ∧ after.Roams P := by
  obtain ⟨ready, hready, hsame⟩ := exists_atPlanning hi
  obtain ⟨other, hother, hposition⟩ :=
    holds_turn hstays hi h m.turn.atPlanning (by simp [Turn.closing])
  obtain rfl := Option.some.inj (hready.symm.trans hother)
  have hafter := getElem?_advance hready
  refine ⟨_, hafter, ?_⟩
  unfold onLive at hafter ⊢
  split at hafter
  · rename_i hcrater
    rw [if_pos hcrater]
    have hnext : ready.next = tank.next := congrArg Plan.next hsame
    exact ⟨hposition, hnext ▸ h.next⟩
  · rename_i hlive
    rw [if_neg hlive]
    refine ⟨?_, hplan ready hposition hafter⟩
    rw [(ready.planned_planAround m.arena m.rules).position]
    exact hposition

theorem roams_iterate {P : Point R → Prop} {m : Match R G} {i : Nat} (n : Nat)
    (hstays : ∀ k < n, (advance^[k] m).Stays i)
    (hplan : ∀ k ≤ n, ∀ tank : Tank R, P tank.position →
      (advance^[k] m).tanks[i]? = some (planAround m.arena m.rules tank) →
        P (planAround m.arena m.rules tank).next)
    {tank : Tank R} (hi : m.tanks[i]? = some tank) (h : tank.Roams P) :
    ∃ after, (advance^[n] m).tanks[i]? = some after ∧ after.Roams P := by
  induction n with
  | zero => exact ⟨tank, hi, h⟩
  | succ n ih =>
      obtain ⟨now, hnow, hroams⟩ := ih (fun k hk => hstays k (Nat.lt_succ_of_lt hk))
        fun k hk => hplan k (Nat.le_succ_of_le hk)
      rw [Function.iterate_succ_apply']
      refine roams_advance (hstays n n.lt_succ_self) ?_ hnow hroams
      rw [arena_iterate, rules_iterate, ← Function.iterate_succ_apply' advance]
      exact hplan (n + 1) le_rfl

end Stays

-- Whether the tank on a place, with treads of one speed, drives no more than `span` in a tick
-- and does not teleport in the coming one.
structure Rolls (c : Compass) {G : Type} [Draws ℝ G] (m : Match ℝ G) (i : Nat) (span : ℝ) :
    Prop where
  straight : ∀ tank, m.tanks[i]? = some tank → tank.speed.left = tank.speed.right
  short : ∀ tank, m.tanks[i]? = some tank → |tank.speed.left * m.rules.topSpeed / 100| ≤ span
  stays : @Stays ℝ G c.scalar _ m i

section Run

variable (c : Compass) {G : Type} [Draws ℝ G] {arena : Arena ℝ} {tanks : List (Tank ℝ)}
  {rules : Rules ℝ} {source : G} {span : ℝ} {i : Nat} {tank : Tank ℝ}

-- Without pillars there is nothing to keep clear of, not even the field.
theorem free_iterate (hroom : arena.Roomy rules.tankRadius span) (hi : tanks[i]? = some tank)
    (hstart : arena.Free rules.tankRadius tank.position) (n : Nat) :
    letI := c.scalar
    (∀ k ≤ n, (advance^[k] (assemble arena tanks rules source)).Rolls c i span) →
      ∃ now, (advance^[n] (assemble arena tanks rules source)).tanks[i]? = some now ∧
        now.Roams fun p => arena.pillars ≠ [] → arena.Free rules.tankRadius p := by
  let := c.scalar
  intro hrolls
  have hfirst : (assemble arena tanks rules source).tanks[i]? =
      some (planAround arena rules tank) := by
    change (tanks.map (planAround arena rules))[i]? = _
    rw [List.getElem?_map, hi, Option.map_some]
  have hspan : 0 ≤ span := (abs_nonneg _).trans ((hrolls 0 n.zero_le).short _ hfirst)
  have hplan : ∀ k ≤ n, ∀ ready : Tank ℝ,
      (arena.pillars ≠ [] → arena.Free rules.tankRadius ready.position) →
      (advance^[k] (assemble arena tanks rules source)).tanks[i]? =
        some (planAround arena rules ready) →
      arena.pillars ≠ [] → arena.Free rules.tankRadius (planAround arena rules ready).next := by
    intro k hk ready hfree hready hsome
    obtain ⟨pillar, hpillar⟩ := List.exists_mem_of_ne_nil _ hsome
    obtain ⟨hwidth, hheight⟩ := hroom.size_pos hspan hpillar
    have hshort := (hrolls k hk).short _ hready
    rw [rules_iterate] at hshort
    exact c.free_planAround hroom hwidth hheight (hfree hsome) rfl
      ((hrolls k hk).straight _ hready) hshort
  refine roams_iterate n (fun k hk => (hrolls k hk.le).stays) hplan hfirst ⟨fun _ => ?_, ?_⟩
  · rw [(tank.planned_planAround arena rules).position]
    exact hstart
  · exact hplan 0 n.zero_le tank (fun _ => hstart) hfirst

end Run

-- A tank whose treads have one speed and that starts clear of all pillars never gets nearer to
-- one than in touch, if there is room enough on the field: its move is cut short where it first
-- touches a pillar, and only if it would end within reach of one.
theorem straight_driving_stays_clear (c : Compass) :
    letI := c.scalar
    (∀ (arena : Arena ℝ) (tankRadius length : ℝ) (tank : Tank ℝ),
      arena.Roomy tankRadius |length| → arena.Free tankRadius tank.position →
      tank.speed.left = tank.speed.right →
      tank.next = arena.wrap (tank.position + c.step tank.heading length) →
        arena.Clear tankRadius (tank.clampToPillars arena tankRadius).next ∧
        ((tank.clampToPillars arena tankRadius).blockedBy.isSome = true ↔
          ∃ pillar ∈ arena.pillars,
            arena.distance tank.next pillar.position ≤ pillar.reach tankRadius) ∧
        ((∀ pillar ∈ arena.pillars,
            pillar.reach tankRadius < arena.distance tank.next pillar.position) →
          (tank.clampToPillars arena tankRadius).next = tank.next) ∧
        (tank.blockedBy = none → ∀ pillar ∈ arena.pillars,
          arena.distance tank.next pillar.position ≤ pillar.reach tankRadius →
            ∃ part ∈ Set.Icc (0 : ℝ) 1,
              (tank.clampToPillars arena tankRadius).next =
                arena.wrap (tank.position.along (c.step tank.heading length) part) ∧
              (∃ touched ∈ arena.pillars, touched.reach tankRadius = arena.distance
                (tank.clampToPillars arena tankRadius).next touched.position) ∧
              ∀ t ∈ Set.Ico 0 part, ∀ other ∈ arena.pillars, other.reach tankRadius <
                arena.distance (arena.wrap (tank.position.along (c.step tank.heading length) t))
                  other.position)) ∧
    ∀ (G : Type) [Draws ℝ G] (arena : Arena ℝ) (tanks : List (Tank ℝ)) (rules : Rules ℝ)
      (source : G) (span : ℝ), arena.Roomy rules.tankRadius span →
      ∀ (i : Nat) (tank : Tank ℝ), tanks[i]? = some tank →
      arena.Free rules.tankRadius tank.position →
      ∀ n, (∀ k ≤ n, (advance^[k] (assemble arena tanks rules source)).Rolls c i span) →
        ∀ state ∈ advance^[n] (assemble arena tanks rules source) ::
            ((advance^[n] (assemble arena tanks rules source)).turn.opening ++
              (advance^[n] (assemble arena tanks rules source)).turn.closing),
          ∃ now, state.tanks[i]? = some now ∧ arena.Clear rules.tankRadius now.position := by
  let := c.scalar
  refine ⟨fun arena tankRadius length tank hroom hstart hstraight hnext => ?_,
    fun G _ arena tanks rules source span hroom i tank hi hstart n hrolls => ?_⟩
  · rw [← c.sqrt_lengthSq_step tank.heading] at hroom
    rw [← Point.along_one] at hnext
    exact ⟨c.clear_clampToPillars hroom hstart hstraight hnext,
      c.isSome_blockedBy_iff hroom hstart hstraight hnext,
      c.next_clampToPillars hroom hstart hstraight hnext,
      fun hfree _ => c.first_clampToPillars hroom hstart hstraight hnext hfree⟩
  · have hclear : ∀ p, (arena.pillars ≠ [] → arena.Free rules.tankRadius p) →
        arena.Clear rules.tankRadius p := fun p hfree pillar hpillar =>
      (hfree (List.ne_nil_of_mem hpillar)).clear pillar hpillar
    obtain ⟨now, hnow, hroams⟩ := free_iterate c hroom hi hstart n hrolls
    rw [List.forall_mem_cons]
    refine ⟨⟨now, hnow, hclear _ hroams.position⟩, fun state hstate => ?_⟩
    obtain ⟨later, hlater, hfree⟩ := holds_turn (hrolls n le_rfl).stays hnow hroams state hstate
    exact ⟨later, hlater, hclear _ hfree⟩

end Match

-- The program of the tank is empty, and its treads keep their speed.
structure Tank.Cruises {R : Type} (speed : Treads R) (tank : Tank R) : Prop where
  program : tank.program = ""
  wanted : tank.wantedSpeed = speed
  current : tank.speed = speed
  idle : tank.teleporter.teleporting = false

theorem Tank.Cruises.runProgram {R G : Type} [Scalar R] [Draws R G] {speed : Treads R}
    {tank : Tank R} (h : tank.Cruises speed) (rules : Rules R) (g : G) :
    (tank.runProgram (interpreter rules) g).1.Cruises speed := by
  refine runProgram_of_runSource (P := Cruises speed)
    (fun _ _ _ h => ⟨h.program, h.wanted, h.current, h.idle⟩) ?_
  have hparse : Program.parse tank.program = .ok ([] : Program R) := by
    rw [h.program]
    rfl
  have hrun : ((interpreter rules).run [] (tank.rig g)).2.body.tank = tank := by
    unfold Interpreter.run
    cases (interpreter rules).budget <;> rfl
  rw [runSource_of_parse hparse, hrun]
  exact h

theorem Compass.invariant_cruises (c : Compass) {G : Type} [Draws ℝ G] (arena : Arena ℝ)
    (rules : Rules ℝ) (speed : Treads ℝ) :
    letI := c.scalar
    Match.Invariant G arena rules (Tank.Cruises speed) := by
  let := c.scalar
  constructor
  case recharge =>
    intro tank h
    have hready := tank.serviced_recharge rules
    refine ⟨hready.program.trans h.program, hready.wantedSpeed.trans h.wanted,
      hready.speed.trans h.current, ?_⟩
    unfold Tank.recharge
    dsimp only
    rw [h.idle]
    split <;> exact h.idle
  case commit => exact fun _ h => ⟨h.program, h.wanted, h.current, h.idle⟩
  case sense => exact fun _ _ h => ⟨h.program, h.wanted, h.current, h.idle⟩
  case land => exact fun _ _ h => ⟨h.program, h.wanted, h.current, h.idle⟩
  case kill => exact fun _ _ h => ⟨h.program, h.wanted, h.current, h.idle⟩
  case run => exact fun g _ h => h.runProgram rules g
  case plan =>
    intro tank h
    have hplanned := tank.planned_planAround arena rules
    refine ⟨hplanned.program.trans h.program, hplanned.wantedSpeed.trans h.wanted, ?_,
      (congrArg Teleporter.teleporting hplanned.teleporter).trans h.idle⟩
    rw [Tank.speed_planAround]
    unfold Tank.rampTreads
    rw [h.wanted, h.current]
    exact congrArg₂ Treads.mk (Tank.ramp_self _ _) (Tank.ramp_self _ _)

namespace Match

noncomputable def roadblock : Arena ℝ :=
  ⟨(400 : Int), (400 : Int), [⟨⟨(200 : Int), (100 : Int)⟩, (30 : Int)⟩]⟩

-- Drives east at its top speed, toward the pillar.
noncomputable def driver : Tank ℝ :=
  let entry : Entry ℝ := ⟨"Driver", "", "", []⟩
  let tank := (Tank.ofEntry 0 entry Rules.standard).toOption.get rfl
  let start : Point ℝ := ⟨(160 : Int), (100 : Int)⟩
  { tank with
    position := start
    next := roadblock.wrap (start + Compass.upright.step tank.heading (Rules.standard).topSpeed)
    wantedSpeed := ⟨Tank.topTread, Tank.topTread⟩
    speed := ⟨Tank.topTread, Tank.topTread⟩ }

theorem reach_roadblock {pillar : Pillar ℝ} (h : pillar ∈ roadblock.pillars) :
    pillar.position = ⟨200, 100⟩ ∧
      pillar.reach (Rules.standard : Rules ℝ).tankRadius = 75 / 2 := by
  obtain rfl := List.mem_singleton.mp h
  constructor <;> norm_num [Pillar.reach, Rules.standard]

theorem roomy_roadblock :
    roadblock.Roomy (Rules.standard : Rules ℝ).tankRadius (Rules.standard : Rules ℝ).topSpeed where
  encloses pillar h := by
    rw [(reach_roadblock h).1]
    constructor <;> norm_num [roadblock]
  reach_nonneg pillar h := by
    rw [(reach_roadblock h).2]
    norm_num
  wide pillar h := by
    rw [(reach_roadblock h).2]
    norm_num [roadblock, Rules.standard]
  high pillar h := by
    rw [(reach_roadblock h).2]
    norm_num [roadblock, Rules.standard]
  apart i j this that hne hi hj := by
    have hfirst : ∀ {k : Nat} {pillar}, roadblock.pillars[k]? = some pillar → k = 0 := by
      intro k pillar hk
      have hlt : k < 1 := (List.getElem?_eq_some_iff.mp hk).1
      omega
    exact absurd ((hfirst hi).trans (hfirst hj).symm) hne

theorem free_driver : roadblock.Free (Rules.standard : Rules ℝ).tankRadius driver.position where
  encloses := by constructor <;> norm_num [roadblock, driver]
  clear pillar h := by
    obtain ⟨hposition, hreach⟩ := reach_roadblock h
    rw [hposition, hreach]
    apply Real.le_sqrt_of_sq_le
    norm_num [Arena.displacement, Arena.shortWay, Point.lengthSq, roadblock, driver]

theorem within_driver : roadblock.distance driver.next ⟨200, 100⟩ ≤ 75 / 2 := by
  have hwidth : (0 : ℝ) < roadblock.width := by norm_num [roadblock]
  have hheight : (0 : ℝ) < roadblock.height := by norm_num [roadblock]
  have hled : roadblock.Same ⟨167, 100⟩ driver.next := by
    have hstep : (⟨167, 100⟩ : Point ℝ) = (⟨(160 : Int), (100 : Int)⟩ : Point ℝ) +
        Compass.upright.step ((0 : Int) : ℝ) (Rules.standard : Rules ℝ).topSpeed := by
      rw [Compass.step_upright]
      change Point.mk _ _ = Point.mk (((160 : Int) : ℝ) + ((7 : Int) : ℝ)) (((100 : Int) : ℝ) + 0)
      norm_num
    rw [hstep]
    exact Arena.same_wrap hwidth hheight _
  have hpillar : roadblock.Encloses ⟨200, 100⟩ := by constructor <;> norm_num [roadblock]
  have hself : roadblock.Same ⟨200, 100⟩ ⟨200, 100⟩ := ⟨0, 0, by simp⟩
  refine (Arena.distance_le_of_same hled hself (Arena.holds_wrap hwidth hheight _).encloses
    hpillar).trans ?_
  rw [Point.distance_le_iff (by norm_num), Point.distanceSq_eq]
  norm_num

theorem rolls_driver (n : Nat) :
    letI := Compass.upright.scalar
    (advance^[n] (assemble roadblock [driver] Rules.standard Halves.halves)).Rolls
      Compass.upright 0 (Rules.standard : Rules ℝ).topSpeed := by
  let := Compass.upright.scalar
  have hcruising := Compass.upright.invariant_cruises (G := Halves) roadblock Rules.standard
    ⟨Tank.topTread, Tank.topTread⟩
  have hstart : ∀ tank ∈ (assemble roadblock [driver] Rules.standard Halves.halves).tanks,
      tank.Cruises ⟨Tank.topTread, Tank.topTread⟩ := by
    change ∀ tank ∈ [planAround roadblock Rules.standard driver], _
    rw [List.forall_mem_singleton]
    exact hcruising.plan driver ⟨rfl, rfl, rfl, rfl⟩
  have hcruises := hcruising.states
    (m := assemble roadblock [driver] Rules.standard Halves.halves) hstart n
  rw [List.forall_mem_cons] at hcruises
  constructor
  · intro tank hi
    rw [(hcruises.1 tank (List.mem_of_getElem? hi)).current]
  · intro tank hi
    rw [(hcruises.1 tank (List.mem_of_getElem? hi)).current, rules_iterate]
    change |((100 : Int) : ℝ) * ((7 : Int) : ℝ) / 100| ≤ ((7 : Int) : ℝ)
    norm_num
  · intro tank hi
    exact (hcruises.2 _ (by simp [Turn.closing]) tank (List.mem_of_getElem? hi)).idle

theorem straight_driving_stays_clear_roadblock :
    letI := Compass.upright.scalar
    roadblock.Clear (Rules.standard : Rules ℝ).tankRadius
        (driver.clampToPillars roadblock (Rules.standard : Rules ℝ).tankRadius).next ∧
      (driver.clampToPillars roadblock (Rules.standard : Rules ℝ).tankRadius).blockedBy.isSome =
        true ∧
      ∀ n, ∃ now,
        (advance^[n] (assemble roadblock [driver] Rules.standard Halves.halves)).tanks[0]? =
          some now ∧
        roadblock.Clear (Rules.standard : Rules ℝ).tankRadius now.position := by
  obtain ⟨hclamp, hrun⟩ := straight_driving_stays_clear Compass.upright
  have hroom : roadblock.Roomy (Rules.standard : Rules ℝ).tankRadius
      |(Rules.standard : Rules ℝ).topSpeed| := by
    rw [abs_of_nonneg (by norm_num [Rules.standard])]
    exact roomy_roadblock
  obtain ⟨hclear, hheld, -, -⟩ := hclamp roadblock (Rules.standard : Rules ℝ).tankRadius
    (Rules.standard : Rules ℝ).topSpeed driver hroom free_driver rfl rfl
  refine ⟨hclear, hheld.mpr ⟨_, List.mem_singleton_self _, ?_⟩, fun n => ?_⟩
  · obtain ⟨hposition, hreach⟩ := reach_roadblock (List.mem_singleton_self _)
    rw [hposition, hreach]
    exact within_driver
  · exact hrun Halves roadblock [driver] Rules.standard Halves.halves _ roomy_roadblock 0 driver rfl
      free_driver n (fun k _ => rolls_driver k) _ List.mem_cons_self

noncomputable def landmark : Pillar ℝ := ⟨⟨(160 : Int), (50 : Int)⟩, (30 : Int)⟩

-- The only pillar of this field stands beyond an edge of it.
noncomputable def outpost : Arena ℝ := ⟨(100 : Int), (100 : Int), [landmark]⟩

-- Drives backward over the near edge, toward the pillar.
noncomputable def stray : Tank ℝ :=
  let entry : Entry ℝ := ⟨"Stray", "", "", []⟩
  let tank := (Tank.ofEntry 0 entry Rules.standard).toOption.get rfl
  { tank with
    position := ⟨(2 : Int), (50 : Int)⟩
    next := ⟨(97 : Int), (50 : Int)⟩
    speed := ⟨(-50 : Int), (-50 : Int)⟩ }

theorem clamp_stray :
    @Tank.clampToPillars ℝ Compass.upright.scalar outpost (15 / 2) stray = stray := by
  have hcontact : @Tank.contact? ℝ Compass.upright.scalar outpost (15 / 2) none stray landmark 0 =
      none := by
    refine if_pos ?_
    have hfar : (landmark.radius + 15 / 2) * (landmark.radius + 15 / 2) <
        (stray.position + outpost.displacement stray.position stray.next).distanceSq
          (stray.position + outpost.displacement stray.position landmark.position) := by
      rw [Point.distanceSq_eq]
      change _ < (_ + _ - (_ + _)) ^ 2 + (_ + _ - (_ + _)) ^ 2
      norm_num [landmark, outpost, stray, Arena.displacement, Arena.shortWay]
    exact hfar
  change @Tank.stopAt ℝ Compass.upright.scalar outpost (15 / 2) none stray (landmark, 0) = stray
  unfold Tank.stopAt
  rw [hcontact]

theorem wrap_stray : outpost.wrap (stray.position + Compass.upright.step stray.heading (-5)) =
    stray.next := by
  have hback : Scalar.modulo (-3 : ℝ) 100 = 97 := by
    have hceil : ⌈(-3 / 100 : ℝ)⌉ = 0 := by
      rw [Int.ceil_eq_iff]
      norm_num
    have htruncate : Reals.truncate (-3 / 100) = 0 := (if_neg (by norm_num)).trans hceil
    unfold Scalar.modulo
    simp only [Reals.remainder_eq, Reals.abs_eq, htruncate]
    norm_num
  have hstay : Scalar.modulo (50 : ℝ) 100 = 50 := by
    have hfloor : ⌊(50 / 100 : ℝ)⌋ = 0 := by
      rw [Int.floor_eq_iff]
      norm_num
    have htruncate : Reals.truncate (50 / 100) = 0 := (if_pos (by norm_num)).trans hfloor
    unfold Scalar.modulo
    simp only [Reals.remainder_eq, Reals.abs_eq, htruncate]
    norm_num
  have hstep : stray.position + Compass.upright.step stray.heading (-5) = ⟨-3, 50⟩ := by
    change stray.position + Compass.upright.step ((0 : Int) : ℝ) (-5) = _
    rw [Compass.step_upright]
    change Point.mk (2 + -5) (50 + 0) = _
    norm_num
  rw [hstep]
  exact congrArg₂ Point.mk hback hstay

-- From the other side of the field, the pillar is not taken for where it is nearest.
theorem pillar_beyond_edge_missed :
    outpost.wrap (stray.position + Compass.upright.step stray.heading (-5)) = stray.next ∧
    stray.speed.left = stray.speed.right ∧
    (∀ pillar ∈ outpost.pillars,
      pillar.reach (15 / 2) ≤ outpost.distance stray.position pillar.position ∧
      pillar.reach (15 / 2) + 5 < outpost.width / 2 ∧
      pillar.reach (15 / 2) + 5 < outpost.height / 2) ∧
    (∃ pillar ∈ outpost.pillars,
      outpost.distance stray.next pillar.position ≤ pillar.reach (15 / 2)) ∧
    (@Tank.clampToPillars ℝ Compass.upright.scalar outpost (15 / 2) stray).blockedBy = none ∧
    ¬ outpost.Clear (15 / 2)
      (@Tank.clampToPillars ℝ Compass.upright.scalar outpost (15 / 2) stray).next := by
  have hfar : outpost.distance stray.position landmark.position = 58 := by
    have hway : (outpost.displacement stray.position landmark.position).lengthSq = 58 ^ 2 := by
      norm_num [Arena.displacement, Arena.shortWay, Point.lengthSq, outpost, landmark, stray]
    rw [Arena.distance, hway, Real.sqrt_sq (by norm_num)]
  have hnear : outpost.distance stray.next landmark.position = 37 := by
    have hway : (outpost.displacement stray.next landmark.position).lengthSq = 37 ^ 2 := by
      norm_num [Arena.displacement, Arena.shortWay, Point.lengthSq, outpost, landmark, stray]
    rw [Arena.distance, hway, Real.sqrt_sq (by norm_num)]
  have hreach : landmark.reach (15 / 2) = 75 / 2 := by norm_num [Pillar.reach, landmark]
  rw [clamp_stray]
  refine ⟨wrap_stray, rfl, ?_, ⟨landmark, List.mem_singleton_self _, ?_⟩, rfl, fun hclear => ?_⟩
  · intro pillar hpillar
    obtain rfl := List.mem_singleton.mp hpillar
    rw [hfar, hreach]
    norm_num [outpost]
  · rw [hnear, hreach]
    norm_num
  · have hout := hclear landmark (List.mem_singleton_self _)
    rw [hnear, hreach] at hout
    norm_num at hout

end Match

end Skirmish
