import Skirmish.Decimal.Text

namespace Skirmish

-- A bounded stack refuses a value when full and has none to give when empty.
inductive StackFault where
  | overflow
  | underflow
deriving DecidableEq, Repr

def StackFault.message : StackFault → String
  | .overflow => "Stack overflow"
  | .underflow => "Stack underflow"

inductive BraceFault where
  | unclosed
  | unopened
deriving DecidableEq, Repr

-- A brace without its partner, and the byte of the source it stands at.
structure SyntaxFault where
  brace : BraceFault
  position : Nat
deriving DecidableEq, Repr

def BraceFault.message : BraceFault → String
  | .unclosed => "Unmatched '\x7b'"
  | .unopened => "Unmatched '\x7d'"

def SyntaxFault.message (f : SyntaxFault) : String :=
  f.brace.message ++ " at offset " ++ toString f.position

-- What a program may use up in one tick.
inductive Resource where
  | instructions
  | dataStack
deriving DecidableEq, Repr

def Resource.name : Resource → String
  | .instructions => "instruction budget"
  | .dataStack => "data stack"

inductive Expected where
  | number
  | block
  | finiteNumber
deriving DecidableEq, Repr

def Expected.name : Expected → String
  | .number => "number"
  | .block => "block"
  | .finiteNumber => "finite number"

-- Why a program stopped in the middle.
inductive Fault (R : Type) where
  | unknownWord (word : String)
  | stackUnderflow
  | divisionByZero
  | invalidAddress (address : R)
  | typeMismatch (expected : Expected)
  | exhausted (resource : Resource)
deriving DecidableEq, Repr

namespace Fault

def ofStack {R : Type} : StackFault → Fault R
  | .overflow => .exhausted .dataStack
  | .underflow => .stackUnderflow

def message : Fault Float → String
  | .unknownWord word => "No such function '" ++ word ++ "'"
  | .stackUnderflow => "Tried to pop from empty stack"
  | .divisionByZero => "Division by zero"
  | .invalidAddress address => "Invalid memory location " ++ Decimal.plain address
  | .typeMismatch expected => "Type mismatch: expected a " ++ expected.name
  | .exhausted resource => "Exceeded " ++ resource.name

end Fault

-- Why a tank's program failed: its source is malformed, or it stopped at an
-- instruction, counted from 0 in the order of execution.
inductive ProgramFault (R : Type) where
  | malformed (fault : SyntaxFault)
  | stopped (fault : Fault R) (instruction : Nat)
deriving DecidableEq, Repr

namespace ProgramFault

-- A byte of the source for malformed programs, an instruction otherwise.
def position {R : Type} : ProgramFault R → Nat
  | .malformed fault => fault.position
  | .stopped _ instruction => instruction

def message : ProgramFault Float → String
  | .malformed fault => "Syntax error: " ++ fault.message
  | .stopped fault instruction =>
    fault.message ++ " (instruction " ++ toString instruction ++ ")"

end ProgramFault

end Skirmish
