import Skirmish.Language.Operation

namespace Skirmish

-- The operations whose words a program may use.
structure Vocabulary where
  operations : List Operation
deriving DecidableEq, Repr

namespace Vocabulary

-- Calculation, stack, control and memory, for any program.
def core : Vocabulary where
  operations :=
    [.unary .complement, .unary .not, .binary .add, .binary .subtract, .binary .multiply,
      .binary .divide, .binary .modulo, .binary .and, .binary .or, .binary .xor,
      .binary .shiftLeft, .binary .shiftRight, .binary .greater, .binary .greaterOrEqual,
      .binary .less, .binary .lessOrEqual, .binary .equal, .binary .notEqual, .unary .absolute,
      .duplicate, .discard, .exchange, .whenTrue, .choose, .store, .fetch, .report]

-- The words of a tank's body, without its teleporter.
def body : List Operation :=
  [.fireReady, .fire, .setSpeed, .setTurret, .getTurret, .readSensor, .setLed, .random]

def teleporter : List Operation := [.teleportReady, .teleport]

def tank (teleports : Bool) : Vocabulary where
  operations := core.operations ++ body ++ if teleports then teleporter else []

def lookup (v : Vocabulary) (word : String) : Option Operation :=
  v.operations.find? fun operation => operation.word == word

def size (v : Vocabulary) : Nat := v.operations.length

end Vocabulary

end Skirmish
