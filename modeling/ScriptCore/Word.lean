set_option autoImplicit false

/-! # Checked 32-bit integer arithmetic

The integers of the language are 32-bit two's complement, `Int32`, whose own operations wrap.
The checked operations here compute the exact result in `Int` and give it back only when it
fits in 32 bits; division truncates toward zero, and its one overflow is `-2^31 / -1`. -/

namespace ScriptCore

namespace Word

/-- Whether an integer fits in 32 bits, two's complement. -/
def fits (n : Int) : Bool := decide (-2147483648 ≤ n ∧ n < 2147483648)

/-- An exact integer result, if it fits in 32 bits. -/
def fit? (n : Int) : Option Int32 := if fits n then some (Int32.ofInt n) else none

/-- `a + b`, if it fits. -/
def add? (a b : Int32) : Option Int32 := fit? (a.toInt + b.toInt)

/-- `a - b`, if it fits. -/
def sub? (a b : Int32) : Option Int32 := fit? (a.toInt - b.toInt)

/-- `a * b`, if it fits. -/
def mul? (a b : Int32) : Option Int32 := fit? (a.toInt * b.toInt)

/-- `a / b` truncated toward zero, if it fits; `b` is not zero. -/
def div? (a b : Int32) : Option Int32 := fit? (a.toInt.tdiv b.toInt)

end Word

end ScriptCore
