import ScriptCore.Value.Text
import ScriptCore.Value.Order
import ScriptCore.Word
import ScriptCore.Policy
import ScriptCore.Decimal.Fixed

set_option autoImplicit false

/-! # Evaluating binary operators

`evaluate policy op left right` applies an operator to two values.

* Two integers: under `lenient` the operations wrap around in 32 bits, and division by zero is
  `NULL`; under `strict` the exact result must fit (`Word.add?` …), else the error is an
  integer overflow, and division by zero is an error of its own.
* An integer and a float: the integer is widened to the nearest float, then the float
  operation applies. Two floats: IEEE-754 arithmetic.
* A text on the left: `+` appends a number or a text, `*` repeats the text a number of times
  (none for a count below one). A number on the left of `+` and a text on the right: the
  number's text comes first. Within a text a float is written with six places
  (`Binary32.toFixed 6`) and an integer in decimal.
* `==` and `!=` are `Value.equals` and its negation; they never fail.
* `<`, `<=`, `>` and `>=` follow `Value.lessThan?` with the operands swapped or the answer
  negated as the orderings say.

Operands an operator does not apply to give `NULL` under `lenient`, for an ordering the truth
value the negation would give (`0` for `<` and `>`, `1` for `<=` and `>=`), and under `strict`
an error naming the operator and the two type names, in the order the operands were given. -/

namespace ScriptCore

namespace Value

/-- A number's text inside a text: a float with six places, an integer in decimal. -/
def numberText : Value → String
  | .float x => Binary32.toFixed 6 x
  | v => v.display

/-- A text repeated `count` times; no copy for a count below one. The empty text repeated is
empty, whatever the count, and is answered without counting. -/
def repeatText (s : String) (count : Int32) : String :=
  if s.isEmpty then "" else String.join (List.replicate count.toInt.toNat s)

end Value

namespace Arith

/-- The operation on two floats. -/
def onFloats : Arith → Binary32 → Binary32 → Binary32
  | .add => Binary32.add
  | .sub => Binary32.sub
  | .mul => Binary32.mul
  | .div => Binary32.div

/-- The operation on two integers, wrapping around in 32 bits; division by zero is `NULL`. -/
def wrapping : Arith → Int32 → Int32 → Value
  | .add, a, b => .int (a + b)
  | .sub, a, b => .int (a - b)
  | .mul, a, b => .int (a * b)
  | .div, a, b => if b = 0 then .null else .int (a / b)

/-- The exact operation on two integers, if the result fits; `none` also for a zero divisor. -/
def inRange? : Arith → Int32 → Int32 → Option Int32
  | .add, a, b => Word.add? a b
  | .sub, a, b => Word.sub? a b
  | .mul, a, b => Word.mul? a b
  | .div, a, b => if b = 0 then none else Word.div? a b

/-- The operation on two integers when results must fit: division by zero and overflow are
errors. -/
def checked (op : Arith) (a b : Int32) : Except EvalError Value :=
  if op = .div ∧ b = 0 then .error (.ofKind .divisionByZero)
  else match op.inRange? a b with
    | some n => .ok (.int n)
    | none => .error (.ofKind (.integerOverflow op.operationName))

/-- The operation on a text and a value. -/
def onText (op : Arith) (s : String) : Value → Option Value
  | .int n => match op with
    | .add => some (.str (s ++ (Value.int n).numberText))
    | .mul => some (.str (Value.repeatText s n))
    | _ => none
  | .float x => if op = .add then some (.str (s ++ (Value.float x).numberText)) else none
  | .str t => if op = .add then some (.str (s ++ t)) else none
  | _ => none

/-- The operation on operands other than two integers, when it applies to them. -/
def onMixed (op : Arith) : Value → Value → Option Value
  | .int a, .float y => some (.float (op.onFloats (Binary32.ofInt a.toInt) y))
  | .float x, .int b => some (.float (op.onFloats x (Binary32.ofInt b.toInt)))
  | .float x, .float y => some (.float (op.onFloats x y))
  | .str s, r => op.onText s r
  | .int n, .str t => if op = .add then some (.str ((Value.int n).numberText ++ t)) else none
  | .float x, .str t => if op = .add then some (.str ((Value.float x).numberText ++ t)) else none
  | _, _ => none

end Arith

namespace OperatorPolicy

/-- The answer for operands an operator does not apply to: `NULL`, or an error. -/
def unsupported (p : OperatorPolicy) (op : BinaryOp) (left right : Value) :
    Except EvalError Value :=
  match p with
  | .lenient => .ok .null
  | .strict => .error (.ofKind (.unsupportedOperation op left.typeName right.typeName))

end OperatorPolicy

/-- An arithmetic operator applied under a policy. -/
def arithmetic (p : OperatorPolicy) (op : Arith) (left right : Value) : Except EvalError Value :=
  match left, right with
  | .int a, .int b =>
    match p with
    | .lenient => .ok (op.wrapping a b)
    | .strict => op.checked a b
  | _, _ =>
    match op.onMixed left right with
    | some v => .ok v
    | none => p.unsupported op.toBinaryOp left right

/-- The operands to test with `lessThan?` for an ordering, and whether to negate the answer. -/
def orderingTest (op : BinaryOp) (left right : Value) : Value × Value × Bool :=
  match op with
  | .gt => (right, left, false)
  | .le => (right, left, true)
  | .ge => (left, right, true)
  | _ => (left, right, false)

/-- An ordering applied under a policy. -/
def ordering (p : OperatorPolicy) (op : BinaryOp) (left right : Value) : Except EvalError Value :=
  let (a, b, negate) := orderingTest op left right
  match a.lessThan? b with
  | some less => .ok (Value.ofBool (less != negate))
  | none =>
    match p with
    | .lenient => .ok (Value.ofBool negate)
    | .strict => .error (.ofKind (.unsupportedOperation op left.typeName right.typeName))

/-- A binary operator applied to two values under a policy. -/
def evaluate (p : OperatorPolicy) (op : BinaryOp) (left right : Value) : Except EvalError Value :=
  match op with
  | .add => arithmetic p .add left right
  | .sub => arithmetic p .sub left right
  | .mul => arithmetic p .mul left right
  | .div => arithmetic p .div left right
  | .eq => .ok (Value.ofBool (left.equals right))
  | .ne => .ok (Value.ofBool !(left.equals right))
  | .lt | .le | .gt | .ge => ordering p op left right

/-- An arithmetic operator as a total operation: the lenient result, which is never an error. -/
def Arith.apply (op : Arith) (left right : Value) : Value :=
  match arithmetic .lenient op left right with
  | .ok v => v
  | .error _ => .null

end ScriptCore
