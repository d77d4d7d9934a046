import Skirmish.Match
import Skirmish.Proofs.Language.Conduct

namespace Skirmish.Tank

open Effect

variable {R G : Type}

-- What a program leaves of its tank: all but what it can order, its machine and
-- its failure.
structure Driven (before after : Tank R) : Prop where
  id : after.id = before.id
  name : after.name = before.name
  path : after.path = before.path
  position : after.position = before.position
  next : after.next = before.next
  heading : after.heading = before.heading
  turnRadius : after.turnRadius = before.turnRadius
  speed : after.speed = before.speed
  turretAngle : after.turret.angle = before.turret.angle
  turretRecharge : after.turret.recharge = before.turret.recharge
  teleporterRecharge : after.teleporter.recharge = before.teleporter.recharge
  sensors : after.sensors = before.sensors
  death : after.death = before.death
  blockedBy : after.blockedBy = before.blockedBy
  program : after.program = before.program

-- What planning a move leaves of a tank: all but where and how it drives, and the
-- angle of its turret.
structure Planned (before after : Tank R) : Prop where
  id : after.id = before.id
  name : after.name = before.name
  path : after.path = before.path
  position : after.position = before.position
  wantedSpeed : after.wantedSpeed = before.wantedSpeed
  turretWanted : after.turret.wanted = before.turret.wanted
  firing : after.turret.firing = before.turret.firing
  turretRecharge : after.turret.recharge = before.turret.recharge
  teleporter : after.teleporter = before.teleporter
  ammo : after.ammo = before.ammo
  led : after.led = before.led
  sensors : after.sensors = before.sensors
  death : after.death = before.death
  program : after.program = before.program
  machine : after.machine = before.machine
  failure : after.failure = before.failure

-- What recharging leaves of a tank: all but its sensors and the timing of its devices.
structure Serviced (before after : Tank R) : Prop where
  id : after.id = before.id
  name : after.name = before.name
  path : after.path = before.path
  position : after.position = before.position
  next : after.next = before.next
  heading : after.heading = before.heading
  turnRadius : after.turnRadius = before.turnRadius
  wantedSpeed : after.wantedSpeed = before.wantedSpeed
  speed : after.speed = before.speed
  turretAngle : after.turret.angle = before.turret.angle
  turretWanted : after.turret.wanted = before.turret.wanted
  ammo : after.ammo = before.ammo
  led : after.led = before.led
  death : after.death = before.death
  blockedBy : after.blockedBy = before.blockedBy
  program : after.program = before.program
  machine : after.machine = before.machine
  failure : after.failure = before.failure

theorem serviced_recharge (rules : Rules R) (tank : Tank R) :
    Serviced tank (tank.recharge rules) := by
  unfold recharge
  dsimp only
  cases tank.turret.firing <;> cases tank.isCrater <;> constructor <;> rfl

theorem Serviced.isCrater {before after : Tank R} (h : Serviced before after) :
    after.isCrater = before.isCrater :=
  congrArg Option.isSome h.death

theorem Driven.refl (tank : Tank R) : Driven tank tank := by
  constructor <;> rfl

theorem Driven.trans {before between after : Tank R} (h : Driven before between)
    (h' : Driven between after) : Driven before after := by
  constructor
  · exact h'.id.trans h.id
  · exact h'.name.trans h.name
  · exact h'.path.trans h.path
  · exact h'.position.trans h.position
  · exact h'.next.trans h.next
  · exact h'.heading.trans h.heading
  · exact h'.turnRadius.trans h.turnRadius
  · exact h'.speed.trans h.speed
  · exact h'.turretAngle.trans h.turretAngle
  · exact h'.turretRecharge.trans h.turretRecharge
  · exact h'.teleporterRecharge.trans h.teleporterRecharge
  · exact h'.sensors.trans h.sensors
  · exact h'.death.trans h.death
  · exact h'.blockedBy.trans h.blockedBy
  · exact h'.program.trans h.program

variable [Scalar R]

theorem driven_of_isOrder [Draws R G] {order : Cockpit R G → Cockpit R G} (h : IsOrder R order)
    (c : Cockpit R G) : Driven c.tank (order c).tank := by
  cases h <;> constructor <;> rfl

theorem steady_driven [Draws R G] (tank : Tank R) :
    Steady R fun c : Cockpit R G => Driven tank c.tank where
  order _ horder c hc := hc.trans (driven_of_isOrder horder c)
  draw _ _ hc := hc

-- The tank that takes its program on a run.
def rig (g : G) (tank : Tank R) : Rig R (Cockpit R G) := ⟨tank.machine, ⟨tank, g⟩⟩

-- Only the machine and the failure are filed after the run.
theorem runProgram_of_runSource [Draws R G] {P : Tank R → Prop}
    (hfiled : ∀ tank machine failure, P tank → P { tank with machine, failure })
    {i : Interpreter} {g : G} {tank : Tank R}
    (h : P (i.runSource tank.program (tank.rig g)).2.body.tank) : P (tank.runProgram i g).1 := by
  unfold rig at h
  dsimp only [runProgram]
  generalize i.runSource tank.program (⟨tank.machine, ⟨tank, g⟩⟩ : Rig R (Cockpit R G)) = run at h ⊢
  obtain ⟨outcome, ran⟩ := run
  exact hfiled ran.body.tank ran.machine _ h

theorem driven_runProgram [Draws R G] (i : Interpreter) (g : G) (tank : Tank R) :
    Driven tank (tank.runProgram i g).1 := by
  have hrun := i.runSource_keeps (steady_driven tank) tank.program (tank.rig g) (Driven.refl tank)
  exact runProgram_of_runSource (P := Driven tank) (fun _ _ _ h => { h with }) hrun

theorem planned_stopAt (arena : Arena R) (tankRadius : R) (heldBy : Option Nat)
    (before tank : Tank R) (pillar : Pillar R × Nat) (h : Planned before tank) :
    Planned before (tank.stopAt arena tankRadius heldBy pillar) := by
  unfold stopAt
  split
  · exact { h with }
  · exact h

theorem planned_clampToPillars (arena : Arena R) (tankRadius : R) (before tank : Tank R)
    (h : Planned before tank) : Planned before (tank.clampToPillars arena tankRadius) := by
  unfold clampToPillars
  generalize arena.pillars.zipIdx = pillars
  have hstart : Planned before { tank with blockedBy := none } := { h with }
  generalize { tank with blockedBy := none } = moved at hstart
  induction pillars generalizing moved with
  | nil => exact hstart
  | cons pillar pillars ih =>
      exact ih _ (planned_stopAt arena tankRadius tank.blockedBy before moved pillar hstart)

theorem planned_planAround (arena : Arena R) (rules : Rules R) (tank : Tank R) :
    Planned tank (Match.planAround arena rules tank) := by
  apply planned_clampToPillars
  constructor <;> rfl

end Skirmish.Tank
