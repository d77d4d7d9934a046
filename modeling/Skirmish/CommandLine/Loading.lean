import Skirmish.CommandLine.Files
import Skirmish.Tank

namespace Skirmish

-- Why a tank could not be loaded.
inductive LoadFault where
  | unreadable (fault : FileFault)
  | sensor (fault : RuleFault Float)
deriving DecidableEq

def LoadFault.message : LoadFault → String
  | .unreadable fault => fault.message
  | .sensor fault => (SetupFault.invalidRules fault).message

namespace Loading

def readFile (files : Files) (path : String) : Except LoadFault String :=
  (files.read path).mapError .unreadable

def readSensor (text : String) : Except LoadFault (SensorSetting Float) :=
  (SensorSetting.read text).mapError .sensor

-- The name of a file without its last extension. A dot in front of a name
-- starts no extension.
def stem (name : String) : String :=
  let letters := name.toList.reverse
  match letters.dropWhile (· ≠ '.') with
  | _ :: c :: rest => String.ofList (c :: rest).reverse
  | _ => name

-- The last step of a path that stays at no place and leaves none.
def fileName? (path : String) : Option String :=
  match (FileTree.names path).getLast? with
  | some ".." => none
  | name => name

def sensorFile (path : String) (index : Nat) : String :=
  Files.join path ("sensor" ++ toString index)

-- Adds a sensor in the slot of its number, after empty ones in those that are
-- missing before it.
def addSlot (sensors : List (SensorSetting Float)) (index : Nat) (sensor : SensorSetting Float) :
    List (SensorSetting Float) :=
  sensors ++ List.replicate (index - sensors.length) .emptySlot ++ [sensor]

-- The sensors of a directory, out of the slots given, in order.
def readSlots (files : Files) (path : String) :
    List Nat → List (SensorSetting Float) → Except LoadFault (List (SensorSetting Float))
  | [], sensors => .ok sensors
  | index :: indices, sensors =>
    if files.holds (sensorFile path index) then
      match readFile files (sensorFile path index) with
      | .error fault => .error fault
      | .ok text =>
        match readSensor text with
        | .error fault => .error fault
        | .ok sensor => readSlots files path indices (addSlot sensors index sensor)
    else readSlots files path indices sensors

-- A tank whose program is a file of its own has the shared sensors.
def fromFile (files : Files) (shared : List (SensorSetting Float)) (path : String) :
    Except LoadFault (Entry Float) := do
  let program ← readFile files path
  return { name := ((fileName? path).map stem).getD path, path, program, sensors := shared }

-- A tank in a directory may have a name there, and sensors instead of the
-- shared ones.
def fromDirectory (files : Files) (shared : List (SensorSetting Float)) (path : String) :
    Except LoadFault (Entry Float) := do
  let program ← readFile files (Files.join path "program")
  let name := match files.read (Files.join path "name") with
    | .ok text => String.ofList (Text.trim text.toList)
    | .error _ => path
  let own ← readSlots files path (List.range Tank.maxSensors) []
  return { name, path, program, sensors := if own.isEmpty then shared else own }

def tank (files : Files) (shared : List (SensorSetting Float)) (path : String) :
    Except LoadFault (Entry Float) :=
  if files.isDirectory path then fromDirectory files shared path else fromFile files shared path

-- All files that loading a tank may look at.
def candidates (path : String) : List String :=
  path :: Files.join path "program" :: Files.join path "name" ::
    (List.range Tank.maxSensors).map (sensorFile path)

end Loading

end Skirmish
