import ScriptCore.Value.Basic
import ScriptCore.Binary32.Round

set_option autoImplicit false

/-! # Equality and order of values

Numbers compare by value: an integer meeting a float is first widened to the nearest float
(`Binary32.ofInt`), and floats compare as IEEE-754 says, so a NaN equals nothing and `-0.0`
equals `0.0`. Texts compare by code points, which is the order of their UTF-8 bytes. Nothing
else is ordered, and nothing else is equal, not even a list, a function or an object to
itself.

`Value.lessThan?` is the partial order: `none` for operands that are not ordered. The four
orderings derive from it by swapping the operands and negating: `a > b` is `b < a`, `a <= b`
is `¬ (b < a)` and `a >= b` is `¬ (a < b)`, an unordered pair counting as not less. -/

namespace ScriptCore

namespace Value

/-- Equality of values: numbers by value, texts by their characters, nothing else. -/
def equals : Value → Value → Bool
  | .int a, .int b => a == b
  | .int a, .float y => (Binary32.ofInt a.toInt).equals y
  | .float x, .int b => x.equals (Binary32.ofInt b.toInt)
  | .float x, .float y => x.equals y
  | .str a, .str b => a == b
  | _, _ => false

/-- Whether the first value is below the second, for two numbers or two texts. -/
def lessThan? : Value → Value → Option Bool
  | .int a, .int b => some (decide (a.toInt < b.toInt))
  | .int a, .float y => some ((Binary32.ofInt a.toInt).lt y)
  | .float x, .int b => some (x.lt (Binary32.ofInt b.toInt))
  | .float x, .float y => some (x.lt y)
  | .str a, .str b => some (decide (a < b))
  | _, _ => none

/-- `a < b`, false for operands that are not ordered. -/
def lessThan (a b : Value) : Bool := (a.lessThan? b).getD false

/-- `a > b`: `b < a`. -/
def greaterThan (a b : Value) : Bool := b.lessThan a

/-- `a <= b`: not `b < a`. -/
def lessEqual (a b : Value) : Bool := !b.lessThan a

/-- `a >= b`: not `a < b`. -/
def greaterEqual (a b : Value) : Bool := !a.lessThan b

/-- Whether two values are ordered at all. -/
def comparable (a b : Value) : Bool := (a.lessThan? b).isSome

end Value

end ScriptCore
