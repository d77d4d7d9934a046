namespace Skirmish

-- Operations that turn one number into another.
inductive UnaryOperation where
  | absolute
  | not
  | complement
deriving DecidableEq, Repr

-- Operations that turn two numbers into one.
inductive BinaryOperation where
  | add
  | subtract
  | multiply
  | divide
  | modulo
  | and
  | or
  | xor
  | shiftLeft
  | shiftRight
  | greater
  | greaterOrEqual
  | less
  | lessOrEqual
  | equal
  | notEqual
deriving DecidableEq, Repr

-- Everything a word can be bound to.
inductive Operation where
  | unary (f : UnaryOperation)
  | binary (f : BinaryOperation)
  | duplicate
  | discard
  | exchange
  | whenTrue
  | choose
  | store
  | fetch
  | fireReady
  | fire
  | teleportReady
  | teleport
  | setSpeed
  | setTurret
  | getTurret
  | readSensor
  | setLed
  | random
  | report
deriving DecidableEq, Repr

def UnaryOperation.word : UnaryOperation → String
  | .absolute => "abs"
  | .not => "!"
  | .complement => "~"

def BinaryOperation.word : BinaryOperation → String
  | .add => "+"
  | .subtract => "-"
  | .multiply => "*"
  | .divide => "/"
  | .modulo => "%"
  | .and => "&"
  | .or => "|"
  | .xor => "^"
  | .shiftLeft => "<<"
  | .shiftRight => ">>"
  | .greater => ">"
  | .greaterOrEqual => ">="
  | .less => "<"
  | .lessOrEqual => "<="
  | .equal => "="
  | .notEqual => "<>"

-- The word that names an operation in a program.
def Operation.word : Operation → String
  | .unary f => f.word
  | .binary f => f.word
  | .duplicate => "dup"
  | .discard => "pop"
  | .exchange => "exch"
  | .whenTrue => "if"
  | .choose => "ifelse"
  | .store => "mset"
  | .fetch => "mget"
  | .fireReady => "fire-ready?"
  | .fire => "fire!"
  | .teleportReady => "teleport-ready?"
  | .teleport => "teleport!"
  | .setSpeed => "set-speed!"
  | .setTurret => "set-turret!"
  | .getTurret => "get-turret"
  | .readSensor => "sensor?"
  | .setLed => "set-led!"
  | .random => "random"
  | .report => "debug!"

end Skirmish
