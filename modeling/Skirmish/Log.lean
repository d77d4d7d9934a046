import Skirmish.Log.Event
import Skirmish.Text.Blank
import Skirmish.Text.Digits

namespace Skirmish

-- Which events are logged: those up to a level, if there is one. A list of
-- topics narrows the two least serious levels down to targets that begin with
-- one of them.
structure LogFilter where
  level : Option Level
  topics : Option (List String)
deriving DecidableEq, Repr

namespace LogFilter

def passes (filter : LogFilter) (event : Event) : Bool :=
  match filter.level with
  | none => false
  | some level =>
    decide (event.level.rank ≤ level.rank) &&
      (event.level.rank ≤ Level.info.rank || match filter.topics with
        | none => true
        | some topics => topics.any fun topic => topic.toList.isPrefixOf event.target.toList)

-- A level by its name in any case; other names stand for the usual level.
def levelOf (name : String) : Option Level :=
  match name.toLower with
  | "off" => none
  | "error" => some .error
  | "warn" => some .warn
  | "debug" => some .debug
  | "trace" => some .trace
  | _ => some .info

-- Topics are set apart by commas; empty ones do not count.
def topicsOf (text : String) : List String :=
  (((text.splitOn ",").map fun topic => Text.trim topic.toList).filter (!·.isEmpty)).map
    String.ofList

end LogFilter

namespace Log

-- What follows the first place where a marker stands in a text.
def after? (marker : List Char) : List Char → Option (List Char)
  | [] => if marker.isEmpty then some [] else none
  | c :: cs =>
    if marker.isPrefixOf (c :: cs) then some ((c :: cs).drop marker.length) else after? marker cs

-- The number right after the first such place, if it fits 32 bits.
def numberAfter? (marker : String) (text : List Char) : Option Nat := do
  let n ← Text.natural? ((← after? marker.toList text).takeWhile Char.isDigit)
  if n < UInt32.size then some n else none

def padded (width n : Nat) : String :=
  let written := (toString n).toList
  String.ofList (List.replicate (width - written.length) '0' ++ written)

-- The tank and the tick that a message names.
def context (message : String) : String :=
  let tank := match numberAfter? "Tank " message.toList with
    | some id => "[T" ++ padded 2 id ++ "]"
    | none => ""
  let tick := match numberAfter? "Tick " message.toList with
    | some tick => "[#" ++ padded 3 tick ++ "]"
    | none => ""
  let both := tank ++ tick
  if both.isEmpty then "" else both ++ " "

def levelField (level : Level) : String :=
  level.name ++ String.ofList (List.replicate (5 - level.name.length) ' ')

-- One line of the log: time, level, context, target, message, and the origin
-- where it differs from the target.
def line (time : String) (event : Event) : String :=
  let message := event.message
  let source := if event.origin = event.target then "" else " [" ++ event.origin ++ "]"
  time ++ " " ++ event.level.color ++ levelField event.level ++ "\x1b[0m " ++ context message ++
    event.target ++ ": " ++ message ++ source

end Log

end Skirmish
