import Skirmish.CommandLine.Loading
import Skirmish.CommandLine.Options
import Skirmish.Log.Chronicle
import Skirmish.Match.Snapshot
import Skirmish.Presets

namespace Skirmish.CommandLine

-- A line of output: one that is printed as it is, or an event for the log.
inductive Output where
  | printed (line : String)
  | logged (event : Event)

def Output.text (time : String) : Output → String
  | .printed line => line
  | .logged event => Log.line time event

-- What came of a command: the output, and why it failed if it did.
structure Report where
  output : List Output
  failure : Option String

namespace Report

def failed (events : List Event) (message : String) : Report :=
  ⟨events.map .logged, some message⟩

-- All that is put out, with a last entry in the log for a failure.
def lines (filter : LogFilter) (time : String) (report : Report) : List String :=
  let all := report.output ++ (report.failure.map fun message => .logged (.failed message)).toList
  (all.filter fun
    | .printed _ => true
    | .logged event => filter.passes event).map (Output.text time)

end Report

def sharedSensors : List String → Except (RuleFault Float) (List (SensorSetting Float))
  | [] => .ok []
  | text :: texts =>
    match SensorSetting.read text with
    | .ok sensor => (sharedSensors texts).map (sensor :: ·)
    | .error fault => .error fault

-- Loads tanks up to the first that cannot be loaded, and tells of each.
def loadTanks (files : Files) (shared : List (SensorSetting Float)) :
    List String → List Event × Except LoadFault (List (Entry Float))
  | [] => ([], .ok [])
  | path :: paths =>
    match Loading.tank files shared path with
    | .error fault => ([.loading path], .error fault)
    | .ok entry =>
      let (events, rest) := loadTanks files shared paths
      (.loading path :: events, rest.map (entry :: ·))

def builtIn (options : Options) : List (Entry Float) :=
  List.replicate options.berzerkers Presets.berzerker ++
    if options.tweedledums then Presets.tweedledums else []

def rules (options : Options) : Rules Float :=
  { Rules.standard with
    ammo := options.ammo
    maxProgramLength := options.maxProgramLength
    teleportEnabled := !options.noTeleport
    maxTicks := options.ticks }

def hexadecimal (n : Nat) : String := "0x" ++ String.ofList (Nat.toDigits 16 n)

def frameLine (tick : UInt32) (frame : Frame Float) : String :=
  "\t".intercalate
    [toString tick, toString frame.id, Decimal.plain frame.x, Decimal.plain frame.y,
      Decimal.plain frame.heading, Decimal.plain frame.turret, toString frame.flags,
      hexadecimal frame.sensors.toNat]

def frameLines (m : Match Float Generator) : List String :=
  m.snapshot.tanks.map (frameLine m.tick)

-- Plays a match and reports it: the log, the frames if wanted, the standings.
def playMatch (options : Options) (entries : List (Entry Float)) (seed : UInt64) : Report :=
  let source := Generator.ofSeed seed
  let setup := Chronicle.ofSetup entries options.pillars (rules options) source
  match Match.ofEntries entries options.pillars (rules options) source with
  | .error fault => .failed setup fault.message
  | .ok m =>
    let turns := m.turns
    let states := turns.map Match.Turn.finish
    let last := states.getLastD m
    let frames := if options.frames then states.flatMap frameLines else []
    let standings := last.standings.map Standing.line
    ⟨(setup ++ Chronicle.ofPlay turns last).map .logged ++ (frames ++ standings).map .printed, none⟩

-- Does what a command line asks for. The seed is for one that gives none.
def report (files : Files) (seed : UInt64) (options : Options) : Report :=
  match sharedSensors options.sensors with
  | .error fault => .failed [] (SetupFault.invalidRules fault).message
  | .ok shared =>
    match loadTanks files shared options.tanks with
    | (events, .error fault) => .failed events fault.message
    | (events, .ok loaded) =>
      let seed := options.seed.getD seed
      let played := playMatch options (loaded ++ builtIn options) seed
      { played with output := (events ++ [Event.seeded seed]).map .logged ++ played.output }

-- The exit code of a command and the lines it puts out. A command line that
-- makes no sense is refused without a word.
def run (files : Files) (seed : UInt64) (time : String) (args : List String) :
    UInt32 × List String :=
  match Options.read? args with
  | none => (2, [])
  | some options =>
    let report := report files seed options
    (if report.failure.isSome then 1 else 0, report.lines options.log time)

end Skirmish.CommandLine
