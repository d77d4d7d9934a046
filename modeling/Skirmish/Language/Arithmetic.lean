import Skirmish.Language.Fault
import Skirmish.Language.Operation
import Skirmish.Scalar

namespace Skirmish

variable {R : Type} [Scalar R]

namespace Scalar

def ofInt32 (n : Int32) : R := ((n.toInt : Int) : R)

-- The number cut down to a signed 32-bit integer.
def cut (x : R) : R := ofInt32 (toInt32 x)

def ofBool (b : Bool) : R := (((if b then 1 else 0) : Int) : R)

-- Zero is false and every other number true.
def isTrue (x : R) : Bool := !(x == ((0 : Int) : R))

end Scalar

open Scalar

def UnaryOperation.apply : UnaryOperation → R → R
  | .absolute, a => cut (abs a)
  | .not, a => ofBool (!isTrue a)
  | .complement, a => ofInt32 (~~~toInt32 a)

-- The left operand comes first. Only quotients keep a fraction; shifts use the
-- low five bits of their right operand, and the right one keeps the sign.
def BinaryOperation.apply : BinaryOperation → R → R → Except (Fault R) R
  | .add, a, b => .ok (cut (a + b))
  | .subtract, a, b => .ok (cut (a - b))
  | .multiply, a, b => .ok (cut (a * b))
  | .divide, a, b => if b == ((0 : Int) : R) then .error .divisionByZero else .ok (a / b)
  | .modulo, a, b =>
    if b == ((0 : Int) : R) then .error .divisionByZero else .ok (cut (remainder a b))
  | .and, a, b => .ok (ofInt32 (toInt32 a &&& toInt32 b))
  | .or, a, b => .ok (ofInt32 (toInt32 a ||| toInt32 b))
  | .xor, a, b => .ok (ofInt32 (toInt32 a ^^^ toInt32 b))
  | .shiftLeft, a, b => .ok (ofInt32 (toInt32 a <<< toInt32 b))
  | .shiftRight, a, b => .ok (ofInt32 (toInt32 a >>> toInt32 b))
  | .greater, a, b => .ok (ofBool (decide (b < a)))
  | .greaterOrEqual, a, b => .ok (ofBool (decide (b ≤ a)))
  | .less, a, b => .ok (ofBool (decide (a < b)))
  | .lessOrEqual, a, b => .ok (ofBool (decide (a ≤ b)))
  | .equal, a, b => .ok (ofBool (a == b))
  | .notEqual, a, b => .ok (ofBool (!(a == b)))

end Skirmish
