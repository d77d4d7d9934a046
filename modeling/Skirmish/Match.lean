import Skirmish.Arena.Placement
import Skirmish.Match.Combat
import Skirmish.Tank.Contact
import Skirmish.Tank.Drive

namespace Skirmish

-- A match in progress.
structure Match (R G : Type) where
  arena : Arena R
  tanks : List (Tank R)
  rules : Rules R
  tick : UInt32
  source : G

namespace Match

variable {R G : Type} [Scalar R] [Draws R G]

-- Plans the next move of a tank around the pillars.
def planAround (arena : Arena R) (rules : Rules R) (tank : Tank R) : Tank R :=
  (tank.planMove arena rules).clampToPillars arena rules.tankRadius

-- Changes the tanks that are not craters.
def onLive (f : Tank R → Tank R) (tank : Tank R) : Tank R := if tank.isCrater then tank else f tank

-- A match at its start, where every tank has its first move planned.
def assemble (arena : Arena R) (tanks : List (Tank R)) (rules : Rules R) (source : G) :
    Match R G where
  arena
  tanks := tanks.map (planAround arena rules)
  rules
  tick := 0
  source

-- A match on a given field, with its tanks in place.
def ofLayout (arena : Arena R) (tanks : List (Tank R)) (rules : Rules R) (source : G) :
    Except (SetupFault R) (Match R G) :=
  match rules.check with
  | .error fault => .error (.invalidRules fault)
  | .ok () => if tanks.isEmpty then .error .noTanks else .ok (assemble arena tanks rules source)

-- Puts tanks on their spots, facing and aiming anywhere.
def placeTanks : List (Tank R) → List (Point R) → G → List (Tank R) × G
  | tank :: tanks, spot :: spots, source =>
    let (u, source) := Draws.unit source
    let (v, source) := Draws.unit source
    let (rest, source) := placeTanks tanks spots source
    (tank.place spot (u * Scalar.tau) (v * Scalar.tau) :: rest, source)
  | tanks, _, source => (tanks, source)

-- What a match is made of before its tanks are placed: the tanks, and the field
-- with the spots that were found for them.
structure Ground (R G : Type) where
  tanks : List (Tank R)
  placement : Placement R G

def prepare (entries : List (Entry R)) (pillars : Nat) (rules : Rules R) (source : G) :
    Except (SetupFault R) (Ground R G) :=
  match rules.check with
  | .error fault => .error (.invalidRules fault)
  | .ok () =>
    if entries.isEmpty then .error .noTanks
    else match Tank.ofEntries rules 0 entries with
      | .error fault => .error fault
      | .ok tanks =>
        let arena := Arena.sizedFor (tanks.length + pillars) rules.gridSpacing
        .ok ⟨tanks, arena.populate pillars tanks.length rules source⟩

-- A match of some tanks among so many pillars, all placed at random.
def ofEntries (entries : List (Entry R)) (pillars : Nat) (rules : Rules R) (source : G) :
    Except (SetupFault R) (Match R G) :=
  match prepare entries pillars rules source with
  | .error fault => .error fault
  | .ok ⟨tanks, placement⟩ =>
    match placement.tanks with
    | .error fault => .error fault
    | .ok spots =>
      let (tanks, source) := placeTanks tanks spots placement.source
      .ok (assemble placement.arena tanks rules source)

-- The programs of all live tanks run, in order.
def runPrograms (i : Interpreter) : List (Tank R) → G → List (Tank R) × G
  | [], source => ([], source)
  | tank :: tanks, source =>
    let (tank, source) := if tank.isCrater then (tank, source) else tank.runProgram i source
    let (rest, source) := runPrograms i tanks source
    (tank :: rest, source)

-- Live tanks that asked for it are put anywhere on the field, in order. Nothing
-- keeps them from pillars or other tanks.
def teleportTanks (arena : Arena R) : List (Tank R) → G → List (Tank R) × G
  | [], source => ([], source)
  | tank :: tanks, source =>
    let (tank, source) :=
      if !tank.isCrater && tank.teleporter.teleporting then
        let (position, source) := arena.randomPoint source
        ({ tank with position }, source)
      else (tank, source)
    let (rest, source) := teleportTanks arena tanks source
    (tank :: rest, source)

-- The phases of a tick, each on its own.

def recharged (m : Match R G) : Match R G :=
  { m with tick := m.tick + 1, tanks := m.tanks.map (Tank.recharge m.rules) }

def committed (m : Match R G) : Match R G := { m with tanks := m.tanks.map (onLive Tank.commit) }

def swept (m : Match R G) : Match R G := { m with tanks := Sweep.run m.arena m.rules m.tanks }

def programmed (m : Match R G) : Match R G :=
  let (tanks, source) := runPrograms (Tank.interpreter m.rules) m.tanks m.source
  { m with tanks, source }

def teleported (m : Match R G) : Match R G :=
  let (tanks, source) := teleportTanks m.arena m.tanks m.source
  { m with tanks, source }

def fought (m : Match R G) : Match R G := { m with tanks := Combat.resolve m.arena m.rules m.tanks }

def planned (m : Match R G) : Match R G :=
  { m with tanks := m.tanks.map (onLive (planAround m.arena m.rules)) }

-- The states a match goes through in one tick, each at the start of a phase.
structure Turn (R G : Type) where
  atSweep : Match R G
  atPrograms : Match R G
  atTeleports : Match R G
  atCombat : Match R G
  atPlanning : Match R G
  finish : Match R G

-- One tick: recharging, the moves planned before, sensors, programs, teleports,
-- combat, and the planning of the next moves.
def turn (m : Match R G) : Turn R G :=
  let atSweep := m.recharged.committed
  let atPrograms := atSweep.swept
  let atTeleports := atPrograms.programmed
  let atCombat := atTeleports.teleported
  let atPlanning := atCombat.fought
  { atSweep, atPrograms, atTeleports, atCombat, atPlanning, finish := atPlanning.planned }

def advance (m : Match R G) : Match R G := m.turn.finish

def activeTanks (m : Match R G) : Nat := m.tanks.countP fun tank => !tank.isCrater

-- A match ends when no two tanks are left or its time is up.
def isOver (m : Match R G) : Bool := decide (m.activeTanks < 2) || decide (m.rules.maxTicks ≤ m.tick)

-- So many turns, or those up to the first after which the match is over.
def turnsFor : Nat → Match R G → List (Turn R G)
  | 0, _ => []
  | ticks + 1, m =>
    let turn := m.turn
    turn :: if turn.finish.isOver then [] else turnsFor ticks turn.finish

-- The turns of a match until it is over. One is played in any case.
def turns (m : Match R G) : List (Turn R G) :=
  turnsFor (max 1 (m.rules.maxTicks.toNat - m.tick.toNat)) m

-- The states of a match after each of its turns.
def play (m : Match R G) : List (Match R G) := m.turns.map Turn.finish

end Match

end Skirmish
