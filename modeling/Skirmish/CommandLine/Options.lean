import Skirmish.Log
import Skirmish.Text.Digits

namespace Skirmish.CommandLine

-- Options that take a value.
inductive Setting where
  | sensor
  | berzerkers
  | pillars
  | ticks
  | seed
  | ammo
  | maxProgramLength
  | debugFilter
  | logLevel
deriving DecidableEq, Repr

inductive Switch where
  | tweedledums
  | noTeleport
  | frames
deriving DecidableEq, Repr

def Setting.named? : String → Option Setting
  | "sensor" => some .sensor
  | "berzerkers" => some .berzerkers
  | "pillars" => some .pillars
  | "ticks" => some .ticks
  | "seed" => some .seed
  | "ammo" => some .ammo
  | "max-program-length" => some .maxProgramLength
  | "debug-filter" => some .debugFilter
  | "log-level" => some .logLevel
  | _ => none

def Switch.named? : String → Option Switch
  | "tweedledums" => some .tweedledums
  | "no-teleport" => some .noTeleport
  | "frames" => some .frames
  | _ => none

-- The parts of a command line.
inductive Item where
  | path (text : String)
  | setting (name : Setting) (text : String)
  | switch (name : Switch)
deriving DecidableEq, Repr

-- A hyphen with something after it starts an option.
def looksLikeOption (arg : String) : Bool :=
  match arg.toList with
  | '-' :: _ :: _ => true
  | _ => false

-- An argument of its own is no value if it looks like an option, except for a
-- count that may be negative.
def Setting.takes (name : Setting) (arg : String) : Bool :=
  name = .ammo || !looksLikeOption arg

def Item.path? (arg : String) : Option Item := if arg.isEmpty then none else some (.path arg)

-- The name of an option, and what follows an equals sign if there is one.
def splitOption (letters : List Char) : String × Option String :=
  let name := String.ofList (letters.takeWhile (· ≠ '='))
  match letters.dropWhile (· ≠ '=') with
  | _ :: value => (name, some (String.ofList value))
  | [] => (name, none)

-- Reads arguments from left to right. Two hyphens alone end the options. There
-- is no answer for an unknown option, one with a value that takes none or
-- without one that it needs, and an empty path.
def Item.read? : List String → Option (List Item)
  | [] => some []
  | arg :: args =>
    if arg = "--" then args.mapM Item.path?
    else match arg.toList with
      | '-' :: '-' :: letters =>
        match splitOption letters with
        | (name, some value) => do
          return .setting (← Setting.named? name) value :: (← read? args)
        | (name, none) =>
          match Switch.named? name, Setting.named? name with
          | some name, _ => do return .switch name :: (← read? args)
          | none, none => none
          | none, some name =>
            match args with
            | [] => none
            | value :: args =>
              if name.takes value then do return .setting name value :: (← read? args) else none
      | _ =>
        if looksLikeOption arg then none
        else do return (← Item.path? arg) :: (← read? args)

-- What a command line asks for.
structure Options where
  tanks : List String
  sensors : List String
  berzerkers : Nat
  tweedledums : Bool
  pillars : Nat
  ticks : UInt32
  seed : Option UInt64
  ammo : Int
  maxProgramLength : Nat
  noTeleport : Bool
  frames : Bool
  log : LogFilter
deriving DecidableEq, Repr

namespace Options

-- A count of 64 bits.
def word? (text : String) : Option Nat :=
  (Text.unsigned? text.toList).filter fun n => decide (n < UInt64.size)

-- An integer between two bounds, both included.
def integer? (low high : Int) (text : String) : Option Int :=
  (Text.integer? text.toList).filter fun n => decide (low ≤ n ∧ n ≤ high)

def values (items : List Item) (name : Setting) : List String :=
  items.filterMap fun
    | .setting other text => if other = name then some text else none
    | _ => none

-- The value of an option, which may be given once: none if it is not given. The
-- inner answer is missing if the text has no such value.
def once? {α : Type} (items : List Item) (name : Setting) (value? : String → Option α) :
    Option (Option α) :=
  match values items name with
  | [] => some none
  | [text] => (value? text).map some
  | _ => none

def switched? (items : List Item) (name : Switch) : Option Bool :=
  match items.count (.switch name) with
  | 0 => some false
  | 1 => some true
  | _ => none

def paths (items : List Item) : List String :=
  items.filterMap fun
    | .path text => some text
    | _ => none

def ofItems? (items : List Item) : Option Options := do
  return {
    tanks := paths items
    sensors := values items .sensor
    berzerkers := (← once? items .berzerkers word?).getD 0
    tweedledums := ← switched? items .tweedledums
    pillars := (← once? items .pillars word?).getD 0
    ticks := ((← once? items .ticks (integer? 0 4294967295)).getD 500).toNat.toUInt32
    seed := (← once? items .seed word?).map Nat.toUInt64
    ammo := (← once? items .ammo (integer? (-2147483648) 2147483647)).getD (-1)
    maxProgramLength := (← once? items .maxProgramLength word?).getD 0
    noTeleport := ← switched? items .noTeleport
    frames := ← switched? items .frames
    log := {
      level := LogFilter.levelOf ((← once? items .logLevel some).getD "info")
      topics := (← once? items .debugFilter some).map LogFilter.topicsOf } }

def read? (args : List String) : Option Options := (Item.read? args).bind ofItems?

end Options

end Skirmish.CommandLine
