import Skirmish.CommandLine
import Std.Time.Zoned

namespace Skirmish

-- The number of an error of the system, of which some are given as negative.
def errorNumber (code : UInt32) : UInt32 := min code (0 - code)

def findFile (path : String) : IO Found := do
  try
    return .file (← IO.FS.readFile path)
  catch
    | .noFileOrDirectory .. => return .nothing .missing
    | .inappropriateType _ code details =>
      return match errorNumber code with
        | 21 => .directory
        | 20 => .nothing .notDirectory
        | _ => .nothing (.other details)
    | .invalidArgument _ code details =>
      return .nothing (if errorNumber code = 36 then .tooLong else .other details)
    | fault => return .nothing (.other (toString fault))

-- Looks up all files that a command may need.
def findFiles (paths : List String) : IO Files := do
  let found ← paths.mapM fun path => return (path, ← findFile path)
  return fun path => (found.lookup path).getD (.nothing .missing)

def twoDigits (n : Nat) : String := Log.padded 2 n

-- The time of day, to the millisecond.
def timeOfDay : IO String := do
  let now ← Std.Time.PlainTime.now
  let hour := twoDigits now.hour.val.toNat
  let minute := twoDigits now.minute.val.toNat
  let second := twoDigits now.second.val.toNat
  return hour ++ ":" ++ minute ++ ":" ++ second ++ "." ++
    Log.padded 3 (now.nanosecond.val.toNat / 1000000)

def randomSeed : IO UInt64 := do
  let bytes ← IO.getRandomBytes 8
  return (bytes.toList.foldl (fun (n : Nat) byte => 256 * n + UInt8.toNat byte) 0).toUInt64

-- Runs a command line and returns its exit code.
def runCommand (args : List String) : IO UInt32 := do
  let paths := ((CommandLine.Options.read? args).map CommandLine.Options.tanks).getD []
  let files ← findFiles (paths.flatMap Loading.candidates)
  let (code, lines) := CommandLine.run files (← randomSeed) (← timeOfDay) args
  lines.forM IO.println
  return code

end Skirmish

def main (args : List String) : IO UInt32 := Skirmish.runCommand args
