import ScriptCore.Evaluation

set_option autoImplicit false

/-! # Integer arithmetic is two's-complement arithmetic

The rule for two integer operands, said over the mathematical integers: the operator's exact
value is the sum, difference, product, or quotient truncated toward zero (none for a zero
divisor). Under `lenient` that value is wrapped into 32 bits, `wrap32 x = ((x + 2^31) mod 2^32)
- 2^31`, and a zero divisor gives `NULL`. Under `strict` the exact value is the answer when it
fits in 32 bits, a zero divisor is a division by zero, and any other value is an overflow of
the named operation.

Main statement: `evaluate_int_int`, `evaluate` on two integers follows that rule under both
policies, for every operator and all `2^64` operand pairs. The lenient side rests on the
`Int32` operations agreeing with `Int.bmod` (`Int32.toInt_add` and its kin) and on
`bmod_eq_wrap32`; the strict side on the checked operations being the exact ones. -/

namespace ScriptCore

/-- Two's-complement wrap of an integer into 32 bits. -/
def wrap32 (x : Int) : Int := (x + 2147483648) % 4294967296 - 2147483648

/-- The exact value of an arithmetic operator on two integers: none for a zero divisor, and
a quotient truncated toward zero. -/
def Arith.exactValue : Arith → Int → Int → Option Int
  | .add, x, y => some (x + y)
  | .sub, x, y => some (x - y)
  | .mul, x, y => some (x * y)
  | .div, x, y => if y = 0 then none else some (x.tdiv y)

/-- The lenient answer for two integers: the wrapped exact value, `NULL` for a zero divisor. -/
def lenientIntegerRule (op : Arith) (x y : Int) : Except EvalError Value :=
  match op.exactValue x y with
  | none => .ok .null
  | some z => .ok (.int (Int32.ofInt (wrap32 z)))

/-- The strict answer for two integers: the exact value when it fits in 32 bits, otherwise an
overflow of the operation; a zero divisor is a division by zero. -/
def strictIntegerRule (op : Arith) (x y : Int) : Except EvalError Value :=
  match op.exactValue x y with
  | none => .error (.ofKind .divisionByZero)
  | some z =>
    if -2147483648 ≤ z ∧ z < 2147483648 then .ok (.int (Int32.ofInt z))
    else .error (.ofKind (.integerOverflow op.operationName))

theorem bmod_eq_wrap32 (x : Int) : x.bmod 4294967296 = wrap32 x := by
  rw [Int.bmod_def, wrap32]
  split <;> omega

theorem wrap32_bounds (x : Int) : -2147483648 ≤ wrap32 x ∧ wrap32 x < 2147483648 := by
  unfold wrap32
  omega

/-- The integer made from a wrapped value has that value. -/
theorem toInt_ofInt_wrap32 (x : Int) : (Int32.ofInt (wrap32 x)).toInt = wrap32 x :=
  Int32.toInt_ofInt_of_le (wrap32_bounds x).1 (wrap32_bounds x).2

/-- An `Int32` is the one made from the wrap of an exact value when its value is the `bmod`
of that exact value. -/
theorem eq_ofInt_wrap32 {c : Int32} {x : Int} (h : c.toInt = x.bmod 4294967296) :
    c = Int32.ofInt (wrap32 x) := by
  apply Int32.toInt_inj.mp
  rw [h, toInt_ofInt_wrap32, bmod_eq_wrap32]

theorem toInt_eq_zero_iff {b : Int32} : b.toInt = 0 ↔ b = 0 := by
  constructor
  · intro h
    exact Int32.toInt_inj.mp (by rw [h]; rfl)
  · intro h
    rw [h]
    rfl

/-- The wrapping operations are the wrapped exact ones. -/
theorem wrapping_eq (op : Arith) (a b : Int32) :
    op.wrapping a b =
      match op.exactValue a.toInt b.toInt with
      | none => .null
      | some z => .int (Int32.ofInt (wrap32 z)) := by
  cases op with
  | add => simp only [Arith.wrapping, Arith.exactValue, eq_ofInt_wrap32 (Int32.toInt_add a b)]
  | sub => simp only [Arith.wrapping, Arith.exactValue, eq_ofInt_wrap32 (Int32.toInt_sub a b)]
  | mul => simp only [Arith.wrapping, Arith.exactValue, eq_ofInt_wrap32 (Int32.toInt_mul a b)]
  | div =>
    by_cases hb : b = 0
    · simp [Arith.wrapping, Arith.exactValue, hb]
    · have hz : b.toInt ≠ 0 := fun h => hb (toInt_eq_zero_iff.mp h)
      simp only [Arith.wrapping, Arith.exactValue, hb, hz, if_false,
        eq_ofInt_wrap32 (Int32.toInt_div a b)]

/-- The checked answer for an exact value `z` that is not a division by zero: `z` itself
when it fits, an overflow otherwise. -/
theorem checked_of_fit (op : Arith) (a b : Int32) (z : Int) (hdiv : ¬(op = .div ∧ b = 0))
    (hz : op.inRange? a b = Word.fit? z) :
    op.checked a b =
      if -2147483648 ≤ z ∧ z < 2147483648 then .ok (.int (Int32.ofInt z))
      else .error (.ofKind (.integerOverflow op.operationName)) := by
  unfold Arith.checked
  rw [if_neg hdiv, hz]
  by_cases h : -2147483648 ≤ z ∧ z < 2147483648
  · have hf : Word.fits z = true := decide_eq_true h
    rw [Word.fit?, if_pos hf, if_pos h]
  · have hf : Word.fits z = false := decide_eq_false h
    rw [Word.fit?, hf, if_neg h]
    rfl

/-- The checked operations are the strict rule. -/
theorem checked_eq (op : Arith) (a b : Int32) :
    op.checked a b = strictIntegerRule op a.toInt b.toInt := by
  cases op with
  | add => exact checked_of_fit .add a b _ (by simp) rfl
  | sub => exact checked_of_fit .sub a b _ (by simp) rfl
  | mul => exact checked_of_fit .mul a b _ (by simp) rfl
  | div =>
    by_cases hb : b = 0
    · simp [Arith.checked, strictIntegerRule, Arith.exactValue, hb]
    · have hz : b.toInt ≠ 0 := fun h => hb (toInt_eq_zero_iff.mp h)
      rw [checked_of_fit .div a b (a.toInt.tdiv b.toInt) (by simp [hb])
        (by simp [Arith.inRange?, hb, Word.div?])]
      simp only [strictIntegerRule, Arith.exactValue, hz, if_false]

example : Word.div? (-2147483648) (-1) = none ∧ Word.div? (-7) 2 = some (-3) := by decide

theorem evaluate_arith (p : OperatorPolicy) (op : Arith) (l r : Value) :
    evaluate p op.toBinaryOp l r = arithmetic p op l r := by
  cases op <;> rfl

/-- Two integers under either policy follow the two's-complement rules. -/
theorem evaluate_int_int (op : Arith) (a b : Int32) :
    evaluate .lenient op.toBinaryOp (.int a) (.int b) = lenientIntegerRule op a.toInt b.toInt ∧
    evaluate .strict op.toBinaryOp (.int a) (.int b) = strictIntegerRule op a.toInt b.toInt := by
  refine ⟨?_, ?_⟩
  · rw [evaluate_arith]
    show Except.ok (op.wrapping a b) = _
    rw [wrapping_eq, lenientIntegerRule]
    split <;> rfl
  · rw [evaluate_arith]
    exact checked_eq op a b

end ScriptCore
