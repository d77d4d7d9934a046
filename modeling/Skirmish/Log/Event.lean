import Skirmish.Language.Printer
import Skirmish.Match

namespace Skirmish

-- How serious an entry of the log is, the most serious first.
inductive Level where
  | error
  | warn
  | info
  | debug
  | trace
deriving DecidableEq, Repr

namespace Level

def rank : Level → Nat
  | .error => 1
  | .warn => 2
  | .info => 3
  | .debug => 4
  | .trace => 5

def name : Level → String
  | .error => "ERROR"
  | .warn => "WARN"
  | .info => "INFO"
  | .debug => "DEBUG"
  | .trace => "TRACE"

-- The terminal sequence of the colour in which the level is shown.
def color : Level → String
  | .error => "\x1b[31m"
  | .warn => "\x1b[33m"
  | .info => "\x1b[32m"
  | .debug => "\x1b[36m"
  | .trace => "\x1b[35m"

end Level

-- Something worth telling about a match. Tanks are given by their numbers.
inductive Event where
  | loading (path : String)
  | seeded (seed : UInt64)
  | failed (message : String)
  -- Scattering the tanks failed, so they go to the grid.
  | crowded (fault : SetupFault Float)
  | populated (width height : Float) (pillars tanks : Nat)
  | entered (id : Nat) (name path : String) (position : Point Float)
  | ready (tanks pillars : Nat) (width height : Float) (ticks : UInt32)
  | finished (ticks : UInt32) (standing : Nat)
  | sighted (tank sensor : Nat) (kind : ObjectKind) (offset : Point Float)
  | reported (value : Value Float)
  | ran (tank : Nat) (tick : UInt32) (executed left : Nat)
  | stopped (tank : Nat) (tick : UInt32) (fault : ProgramFault Float) (name : String)
  | teleported (tank : Nat) (tick : UInt32) (position : Point Float)
  | missed (shooter target : Nat) (distance : Float)
  | collided (tank : Nat) (tick : UInt32) (other : Nat)
  | shot (tank : Nat) (tick : UInt32) (shooter : Nat)
  | drove (tank : Nat) (speed : Treads Float) (heading : Float) (next : Point Float)
  | blocked (tank pillar : Nat) (contact : Point Float) (held : Bool)

namespace Event

def level : Event → Level
  | .failed .. => .error
  | .crowded .. | .stopped .. => .warn
  | .sighted .. | .reported .. | .ran .. | .teleported .. | .missed .. | .drove .. | .blocked .. =>
    .debug
  | _ => .info

-- The part of the program that tells of an event.
def origin : Event → String
  | .loading .. | .seeded .. | .failed .. => "tankarena"
  | .crowded .. | .populated .. => "tankarena::arena"
  | .entered .. | .ready .. | .finished .. => "tankarena::game"
  | .sighted .. => "tankarena::sensor"
  | .reported .. => "tankarena::vm::executor::misc_ops"
  | .ran .. | .stopped .. => "tankarena::tank"
  | .teleported .. | .missed .. | .collided .. | .shot .. => "tankarena::combat"
  | .drove .. => "tankarena::movement"
  | .blocked .. => "tankarena::collision"

-- What an event is filed under: a topic, or where it comes from.
def target : Event → String
  | .sighted .. => "sensor"
  | .reported .. | .ran .. => "vm"
  | .teleported .. => "tank"
  | .missed .. => "weapon"
  | .drove .. => "drive"
  | .blocked .. => "collision"
  | event => event.origin

def kindName : ObjectKind → String
  | .tank => "Tank"
  | .pillar => "Pillar"

def pair (number : Float → String) (p : Point Float) : String :=
  "(" ++ number p.x ++ ", " ++ number p.y ++ ")"

def size (width height : Float) : String := Decimal.plain width ++ "x" ++ Decimal.plain height

def inTick (tank : Nat) (tick : UInt32) (what : String) : String :=
  "Tank " ++ toString tank ++ " Tick " ++ toString tick ++ ": " ++ what

def message : Event → String
  | .loading path => "Loading tank from " ++ path
  | .seeded seed => "Seed " ++ toString seed
  | .failed message => message
  | .crowded fault => fault.message ++ "; falling back to grid placement"
  | .populated width height pillars tanks =>
    "Arena " ++ size width height ++ ": placed " ++ toString pillars ++ " pillars and " ++
      toString tanks ++ " tanks"
  | .entered id name path position =>
    "Loaded Tank " ++ toString id ++ " '" ++ name ++ "' from " ++ path ++ " at " ++
      pair Decimal.plain position
  | .ready tanks pillars width height ticks =>
    "Match ready: " ++ toString tanks ++ " tanks, " ++ toString pillars ++ " pillars on a " ++
      size width height ++ " arena, up to " ++ toString ticks ++ " ticks"
  | .finished ticks standing =>
    "Match over after " ++ toString ticks ++ " ticks, " ++ toString standing ++ " tanks standing"
  | .sighted tank sensor kind offset =>
    "Tank " ++ toString tank ++ " sensor " ++ toString sensor ++ " sees " ++ kindName kind ++
      " at " ++ pair (Decimal.fixed 1) offset
  | .reported value => "debug! " ++ value.text
  | .ran tank tick executed left =>
    inTick tank tick <| "ran " ++ toString executed ++ " instructions, " ++ toString left ++
      " values left on the stack"
  | .stopped tank tick fault name => inTick tank tick (fault.message ++ " (" ++ name ++ ")")
  | .teleported tank tick position =>
    inTick tank tick ("teleported to " ++ pair Decimal.plain position)
  | .missed shooter target distance =>
    "Tank " ++ toString shooter ++ " misses Tank " ++ toString target ++ " by " ++
      Decimal.fixed 2 distance
  | .collided tank tick other => inTick tank tick ("collided with Tank " ++ toString other)
  | .shot tank tick shooter => inTick tank tick ("shot by Tank " ++ toString shooter)
  | .drove tank speed heading next =>
    "Tank " ++ toString tank ++ ": treads [" ++ Decimal.pointed speed.left ++ ", " ++
      Decimal.pointed speed.right ++ "] heading " ++ Decimal.fixed 3 heading ++ " next " ++
      pair (Decimal.fixed 2) next
  | .blocked tank pillar contact held =>
    "Tank " ++ toString tank ++ " meets pillar " ++ toString pillar ++ " at " ++
      pair (Decimal.fixed 2) contact ++ (if held then ", held" else "")

end Event

end Skirmish
