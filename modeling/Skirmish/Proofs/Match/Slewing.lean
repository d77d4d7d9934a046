import Skirmish.Proofs.Match.Treads
import Skirmish.Proofs.Tank.Slewing

namespace Skirmish.Match

open Tank

section Aims

variable {G : Type} [Draws ℝ G] {m : Match ℝ G} {i : Nat} {wanted : ℝ} {tank : Tank ℝ}

-- Whether a tank is alive and wants its turret at an angle.
def Aims (m : Match ℝ G) (i : Nat) (wanted : ℝ) : Prop :=
  ∃ tank, m.tanks[i]? = some tank ∧ tank.isCrater = false ∧ tank.turret.wanted = wanted

-- The turret of a tank that lives to the end of a tick goes by the angle wanted at that time.
theorem turretAngle_advance (hi : m.tanks[i]? = some tank) (haims : m.advance.Aims i wanted) :
    ∃ after, m.advance.tanks[i]? = some after ∧
      after.turret.angle = slewed m.rules.maxTurretTurn wanted tank.turret.angle := by
  obtain ⟨after, hafter, hlive, rfl⟩ := haims
  obtain ⟨ready, hready, -, rfl⟩ := exists_planned hafter hlive
  obtain ⟨other, hother, hangle⟩ := forall₂_getElem? (lasting_turretAngle.atPlanning m) hi
  obtain rfl := Option.some.inj (hother.symm.trans hready)
  refine ⟨_, hafter, ?_⟩
  rw [turretAngle_planAround, (planned_planAround m.arena m.rules other).turretWanted, hangle]

theorem turretAngle_iterate (hi : m.tanks[i]? = some tank) {ticks : Nat}
    (haims : ∀ k < ticks, (advance^[k + 1] m).Aims i wanted) :
    ∃ after, (advance^[ticks] m).tanks[i]? = some after ∧
      after.turret.angle = (slewed m.rules.maxTurretTurn wanted)^[ticks] tank.turret.angle := by
  induction ticks with
  | zero => exact ⟨tank, hi, rfl⟩
  | succ ticks ih =>
      obtain ⟨before, hbefore, hangle⟩ := ih fun k hk => haims k (hk.trans ticks.lt_succ_self)
      have hlast := haims ticks ticks.lt_succ_self
      rw [Function.iterate_succ_apply'] at hlast
      rw [Function.iterate_succ_apply', Function.iterate_succ_apply', ← hangle,
        ← rules_iterate m ticks]
      exact turretAngle_advance hbefore hlast

end Aims

-- Every plan turns the turret toward the angle wanted. As long as that stays the same, the angles
-- of a turret over the ticks of a match converge to it.
theorem turret_slews_short_way {rules : Rules ℝ} (hturn : 0 < rules.maxTurretTurn) :
    (∀ (arena : Arena ℝ) (tank : Tank ℝ), Slews rules.maxTurretTurn tank.turret.wanted
      tank.turret.angle (planAround arena rules tank).turret.angle) ∧
    ∀ (G : Type) [Draws ℝ G] (m : Match ℝ G), m.rules = rules → ∀ (i : Nat) (tank : Tank ℝ),
      m.tanks[i]? = some tank → ∀ (wanted : ℝ) (ticks : Nat),
        (∀ k < ticks, (advance^[k + 1] m).Aims i wanted) →
          ∃ angle : ℕ → ℝ, angle 0 = tank.turret.angle ∧ ∀ k ≤ ticks,
            (∃ after, (advance^[k] m).tanks[i]? = some after ∧ after.turret.angle = angle k) ∧
              Converges rules.maxTurretTurn wanted angle k := by
  constructor
  · intro arena tank
    rw [turretAngle_planAround]
    exact slews_slewed hturn.le _ _
  · rintro G _ m rfl i tank hi wanted ticks haims
    refine ⟨fun k => (slewed m.rules.maxTurretTurn wanted)^[k] tank.turret.angle, rfl,
      fun k hk => ⟨?_, converges_slewed wanted tank.turret.angle hturn k⟩⟩
    exact turretAngle_iterate hi fun j hj => haims j (hj.trans_le hk)

-- Keeps its turret a quarter turn to the left of where it goes.
noncomputable def sentry : Tank ℝ :=
  (Tank.ofEntry 0 ⟨"Sentry", "", "90 set-turret!", []⟩ Rules.standard).toOption.get rfl

-- A live tank that will do so.
structure Aiming (tank : Tank ℝ) : Prop where
  live : tank.isCrater = false
  program : tank.program = "90 set-turret!"
  stack : tank.machine.stack = ⟨[], 1024⟩

theorem quarter_eq : Scalar.modulo (Angle.ofDegrees ((90 : Int) : ℝ)) Scalar.tau = Real.pi / 2 := by
  have hpi := Real.pi_pos
  have hright : Angle.ofDegrees ((90 : Int) : ℝ) = Real.pi / 2 := by
    change ((90 : Int) : ℝ) * (Real.pi / ((180 : Int) : ℝ)) = Real.pi / 2
    push_cast
    ring
  rw [hright, Angle.tau_eq]
  exact Reals.modulo_of_mem ⟨by linarith, by linarith⟩

theorem Aiming.runProgram {tank : Tank ℝ} (h : Aiming tank) (g : Halves) :
    Aiming (tank.runProgram (Tank.interpreter onFoot) g).1 ∧
      (tank.runProgram (Tank.interpreter onFoot) g).1.turret.wanted = Real.pi / 2 := by
  have hdriven := tank.driven_runProgram (Tank.interpreter onFoot) g
  have hparse : Program.parse tank.program =
      .ok [.number ((90 : Int) : ℝ), .word "set-turret!"] := by
    rw [h.program]
    rfl
  have hmachine : tank.machine = { tank.machine with stack := ⟨[], 1024⟩ } := by
    rw [← h.stack]
  obtain ⟨hstack, hwanted⟩ :
      ((Tank.interpreter onFoot).runSource tank.program (tank.rig g)).2.machine.stack = ⟨[], 1024⟩ ∧
      ((Tank.interpreter onFoot).runSource tank.program (tank.rig g)).2.body.tank.turret.wanted =
        Real.pi / 2 := by
    rw [Tank.runSource_of_parse hparse, ← quarter_eq]
    unfold Tank.rig
    rw [hmachine]
    exact ⟨rfl, rfl⟩
  refine ⟨⟨?_, hdriven.program.trans h.program, hstack⟩, ?_⟩
  · rw [Tank.isCrater, hdriven.death]
    exact h.live
  · exact Tank.runProgram_of_runSource (P := fun t => t.turret.wanted = _) (fun _ _ _ h => h)
      hwanted

section Sentry

variable {m : Match ℝ Halves} {tank : Tank ℝ} (hrules : m.rules = onFoot)
  (htanks : m.tanks = [tank]) (h : Aiming tank)

include hrules htanks h

theorem exists_atPrograms : ∃ ready, m.turn.atPrograms.tanks = [ready] ∧ Aiming ready := by
  have hserviced := tank.serviced_recharge onFoot
  have hlive : (tank.recharge onFoot).isCrater = false := hserviced.isCrater.trans h.live
  have hready : Aiming (tank.recharge onFoot).commit := ⟨hlive,
    hserviced.program.trans h.program, (congrArg _ hserviced.machine).trans h.stack⟩
  have hcommitted : m.turn.atSweep.tanks = [(tank.recharge onFoot).commit] := by
    rw [tanks_atSweep, htanks, hrules, List.map_singleton, List.map_singleton, onLive_live _ hlive]
  have hswept := forall₂_swept m.turn.atSweep
  rw [hcommitted] at hswept
  obtain ⟨swept, hswept, ⟨sensors, rfl⟩⟩ := exists_of_onlyLive hready.live hswept
  exact ⟨_, hswept, hready.live, hready.program, hready.stack⟩

-- Nobody is there to keep it from it.
theorem aiming_advance :
    ∃ after, m.advance.tanks = [after] ∧ Aiming after ∧ after.turret.wanted = Real.pi / 2 := by
  obtain ⟨ready, hready, haiming⟩ := exists_atPrograms hrules htanks h
  obtain ⟨hdriver, hwanted⟩ := haiming.runProgram m.turn.atPrograms.source
  have hdriven : m.turn.atTeleports.tanks =
      [(ready.runProgram (Tank.interpreter onFoot) m.turn.atPrograms.source).1] := by
    rw [tanks_atTeleports, hready, hrules]
    unfold runPrograms
    rw [if_neg (by simp [haiming.live])]
    rfl
  generalize (ready.runProgram (Tank.interpreter onFoot) m.turn.atPrograms.source).1 = driver
    at hdriver hwanted hdriven
  have hteleported := forall₂_teleported m.turn.atTeleports
  rw [hdriven] at hteleported
  obtain ⟨landed, hlanded, position, hmoved⟩ := exists_of_onlyLive hdriver.live hteleported
  have hlive : landed.isCrater = false := by
    rw [hmoved]
    exact hdriver.live
  have hfought : m.turn.atPlanning.tanks = [landed] := by
    have hcombat : m.turn.atCombat.tanks = [landed] := hlanded
    rw [tanks_atPlanning, hcombat]
    rfl
  have hplanned := landed.planned_planAround m.arena m.rules
  refine ⟨planAround m.arena m.rules landed, ?_, ⟨?_, ?_, ?_⟩, ?_⟩
  · rw [tanks_advance, hfought, List.map_singleton, onLive_live _ hlive]
  · rw [Tank.isCrater, hplanned.death]
    exact hlive
  · rw [hplanned.program, hmoved, hdriver.program]
  · rw [hplanned.machine, hmoved, hdriver.stack]
  · rw [hplanned.turretWanted, hmoved, hwanted]

end Sentry

noncomputable def lookout : Match ℝ Halves := assemble yard [sentry] onFoot Halves.halves

theorem aims_lookout (k : Nat) : (advance^[k + 1] lookout).Aims 0 (Real.pi / 2) := by
  have hkeeps : ∀ k, ∃ tank, (advance^[k] lookout).tanks = [tank] ∧ Aiming tank := by
    intro k
    induction k with
    | zero => exact ⟨_, rfl, rfl, rfl, rfl⟩
    | succ k ih =>
        obtain ⟨tank, htanks, haiming⟩ := ih
        obtain ⟨after, hafter, hstill, -⟩ := aiming_advance (rules_iterate lookout k) htanks haiming
        rw [Function.iterate_succ_apply']
        exact ⟨after, hafter, hstill⟩
  obtain ⟨tank, htanks, haiming⟩ := hkeeps k
  obtain ⟨after, hafter, hstill, hwanted⟩ :=
    aiming_advance (rules_iterate lookout k) htanks haiming
  rw [Function.iterate_succ_apply']
  exact ⟨after, by rw [hafter]; rfl, hstill.live, hwanted⟩

-- Two ticks take the turret an eighth of a turn each.
theorem turret_slews_short_way_quarter : 0 < onFoot.maxTurretTurn ∧
    (∀ k < 2, (advance^[k + 1] lookout).Aims 0 (Real.pi / 2)) ∧
    ∃ after, (advance^[2] lookout).tanks[0]? = some after ∧
      (after.turret.angle : Real.Angle) = (Real.pi / 2 : ℝ) := by
  have hpi := Real.pi_pos
  have hlimit : onFoot.maxTurretTurn = Real.pi / 4 := by
    change (Scalar.tau : ℝ) / ((8 : Int) : ℝ) = Real.pi / 4
    rw [Angle.tau_eq]
    push_cast
    ring
  have hturn : 0 < onFoot.maxTurretTurn := by
    rw [hlimit]
    positivity
  obtain ⟨hplans, hticks⟩ := turret_slews_short_way hturn
  obtain ⟨angle, hstart, hangle⟩ := hticks Halves lookout rfl 0 _ rfl (Real.pi / 2) 2
    fun k _ => aims_lookout k
  obtain ⟨⟨after, hafter, hend⟩, hconverges⟩ := hangle 2 le_rfl
  refine ⟨hturn, fun k _ => aims_lookout k, after, hafter, ?_⟩
  have hrest : (angle 0 : Real.Angle) = (sentry.turret.wanted : Real.Angle) := by
    have hstill : Angle.distance sentry.turret.angle sentry.turret.wanted = 0 :=
      Angle.distance_eq_zero_iff.mpr rfl
    have hplanned := (hplans yard sentry).closer
    rw [hstill, zero_sub, max_eq_left (by linarith), Angle.distance_eq_zero_iff] at hplanned
    rw [hstart]
    exact hplanned
  have hfar : Angle.distance (angle 0) (Real.pi / 2) = Real.pi / 2 := by
    have hsame : ((Real.pi / 2 - angle 0 : ℝ) : Real.Angle) = (Real.pi / 2 : ℝ) := by
      have hahead : (sentry.turret.wanted : Real.Angle) = 0 := by
        change (((0 : Int) : ℝ) : Real.Angle) = 0
        rw [Int.cast_zero, Real.Angle.coe_zero]
      rw [Real.Angle.coe_sub, hrest, hahead, sub_zero]
    rw [← abs_gap, gap, Angle.wrap_congr hsame, Angle.wrap_of_mem ⟨by linarith, by linarith⟩,
      abs_of_pos (by positivity)]
  rw [hend, hconverges.arrives, Nat.ceil_le, hlimit, hfar]
  push_cast
  rw [div_le_iff₀ (by positivity)]
  linarith

end Skirmish.Match
