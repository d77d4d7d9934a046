import Skirmish.Log.Event

namespace Skirmish

-- Events are told by watching a match: every action is told from the states
-- before and after it. Nothing here has a part in what happens.
namespace Chronicle

-- Tells of a list of actions, one after the other.
def narrate {S A E : Type} (act : S → A → S) (tell : S → A → S → List E) : S → List A → List E
  | _, [] => []
  | before, action :: actions =>
    let after := act before action
    tell before action after ++ narrate act tell after actions

variable {G : Type} [Draws Float G]

-- The sensors of a tank that saw something new in one look at a target.
def sightings (kind : ObjectKind) (offset : Point Float) (before after : Tank Float) : List Event :=
  ((before.sensors.zip after.sensors).zipIdx.filter fun ((old, new), _) => old.seen ≠ new.seen).map
    fun (_, index) => .sighted before.id index kind offset

def ofSighting (arena : Arena Float) (tanks : List (Tank Float)) (sighting : Sighting Float)
    (after : List (Tank Float)) : List Event :=
  let news (kind : ObjectKind) (offset : Point Float) (i : Nat) : List Event :=
    match tanks[i]?, after[i]? with
    | some before, some after => sightings kind offset before after
    | _, _ => []
  match sighting with
  | .tanks i j =>
    match tanks[i]?, tanks[j]? with
    | some this, some that =>
      let offset := arena.displacement this.position that.position
      news .tank offset i ++ news .tank (-offset) j
    | _, _ => []
  | .pillar i pillar =>
    match tanks[i]? with
    | some tank => news .pillar (arena.displacement tank.position pillar.position) i
    | none => []

def ofSweep (m : Match Float G) : List Event :=
  narrate (Sweep.see m.arena m.rules) (ofSighting m.arena) m.tanks
    (Sweep.schedule m.tanks.length m.arena.pillars)

-- What a run of a program tells, given the rig it leaves.
def ofRun (tick : UInt32) (tank : Tank Float) (outcome : Option (ProgramFault Float))
    (rig : Rig Float (Cockpit Float G)) : List Event :=
  match outcome with
  | some (.malformed fault) => [.stopped tank.id tick (.malformed fault) tank.name]
  | outcome =>
    rig.machine.reported.reverse.map .reported ++ match outcome with
      | some fault => [.stopped tank.id tick fault tank.name]
      | none => [.ran tank.id tick rig.machine.executed rig.machine.stack.size]

def ofPrograms (i : Interpreter) (tick : UInt32) : List (Tank Float) → G → List Event
  | [], _ => []
  | tank :: tanks, source =>
    if tank.isCrater then ofPrograms i tick tanks source
    else
      let (outcome, rig) :=
        i.runSource tank.program (⟨tank.machine, ⟨tank, source⟩⟩ : Rig Float (Cockpit Float G))
      ofRun tick tank outcome rig ++ ofPrograms i tick tanks rig.body.source

def ofTeleports (tick : UInt32) (before after : List (Tank Float)) : List Event :=
  (before.zip after).filterMap fun (old, new) =>
    if !old.isCrater && old.teleporter.teleporting then
      some (.teleported old.id tick new.position)
    else none

-- A shot that reaches a target but not its hull misses it by as much as the line
-- of fire is off its centre.
def misses (rules : Rules Float) (shooter target : Tank Float) (offset : Point Float) : List Event :=
  let distanceSq := offset.lengthSq
  if !shooter.isCrater && !target.isCrater && Combat.aims rules shooter distanceSq then
    [.missed shooter.id target.id (Combat.lineOfFire shooter offset).y.abs]
  else []

def ofMeeting (arena : Arena Float) (rules : Rules Float) (tick : UInt32)
    (tanks : List (Tank Float)) (pair : Nat × Nat) (_ : List (Tank Float)) : List Event :=
  match tanks[pair.1]?, tanks[pair.2]? with
  | some this, some that =>
    let offset := arena.displacement this.position that.position
    match Combat.engagement rules this that offset offset.lengthSq with
    | .collision => [.collided this.id tick that.id]
    | .shot => [.shot that.id tick this.id]
    | .nothing =>
      misses rules this that offset ++
        match Combat.engagement rules that this (-offset) offset.lengthSq with
        | .shot => [.shot this.id tick that.id]
        | .collision => []
        | .nothing => misses rules that this (-offset)
  | _, _ => []

def ofCombat (m : Match Float G) : List Event :=
  narrate (Combat.meet m.arena m.rules) (ofMeeting m.arena m.rules m.tick) m.tanks
    (Combat.schedule m.tanks.length)

def ofStop (arena : Arena Float) (tankRadius : Float) (heldBy : Option Nat) (tank : Tank Float)
    (pillar : Pillar Float × Nat) (_ : Tank Float) : List Event :=
  match tank.contact? arena tankRadius heldBy pillar.1 pillar.2 with
  | some contact => [.blocked tank.id pillar.2 contact (heldBy = some pillar.2)]
  | none => []

def ofPlan (arena : Arena Float) (rules : Rules Float) (tank : Tank Float) : List Event :=
  let moved := tank.planMove arena rules
  .drove moved.id moved.speed moved.heading moved.next ::
    narrate (Tank.stopAt arena rules.tankRadius moved.blockedBy)
      (ofStop arena rules.tankRadius moved.blockedBy) { moved with blockedBy := none }
      arena.pillars.zipIdx

def ofTurn (turn : Match.Turn Float G) : List Event :=
  let atPrograms := turn.atPrograms
  let atTeleports := turn.atTeleports
  let atPlanning := turn.atPlanning
  ofSweep turn.atSweep ++
    ofPrograms (Tank.interpreter atPrograms.rules) atPrograms.tick atPrograms.tanks
      atPrograms.source ++
    ofTeleports atTeleports.tick atTeleports.tanks turn.atCombat.tanks ++
    ofCombat turn.atCombat ++
    (atPlanning.tanks.filter (!·.isCrater)).flatMap (ofPlan atPlanning.arena atPlanning.rules)

-- The tanks of a match that is being set up, and what is told about it.
def ofGround (ground : Match.Ground Float G) (rules : Rules Float) : List Event :=
  let placement := ground.placement
  let arena := placement.arena
  let fallback := (placement.crowded.map .crowded).toList
  match placement.tanks with
  | .error _ => fallback
  | .ok spots =>
    let tanks := (Match.placeTanks ground.tanks spots placement.source).1
    fallback ++
      [.populated arena.width arena.height arena.pillars.length tanks.length] ++
      tanks.map (fun tank => .entered tank.id tank.name tank.path tank.position) ++
      tanks.flatMap (ofPlan arena rules) ++
      [.ready tanks.length arena.pillars.length arena.width arena.height rules.maxTicks]

-- The setting up of a match, as far as it gets.
def ofSetup (entries : List (Entry Float)) (pillars : Nat) (rules : Rules Float) (source : G) :
    List Event :=
  match Match.prepare entries pillars rules source with
  | .error _ => []
  | .ok ground => ofGround ground rules

-- The turns of a match and its end in some state.
def ofPlay (turns : List (Match.Turn Float G)) (last : Match Float G) : List Event :=
  turns.flatMap ofTurn ++ [.finished last.tick last.activeTanks]

end Chronicle

end Skirmish
