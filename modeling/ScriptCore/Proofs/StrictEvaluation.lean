import ScriptCore.Proofs.IntegerArithmetic

set_option autoImplicit false

/-! # Where operators fail

An operator applies to operand shapes of a fixed lattice. Every arithmetic operator applies to
two numbers (integers or floats); `+` also joins a text with a number or a text, on either
side, and `*` repeats a text an integer number of times. The orderings `<`, `<=`, `>` and `>=`
apply to two numbers and to two texts, and `==` and `!=` apply to everything.

Main statement: `strict_rejects_exactly_outside_lattice`. Under `strict` an operator fails with
an unsupported operation, naming the operator and the two type names in the order the operands
were given, exactly on operand shapes outside the lattice (`BinaryOp.rejects`). Its only other
failures are a division by zero and an integer overflow, and those need two integers. The
error lemma `evaluate_error` holds under either policy; later statements about `lenient`
start from it. -/

namespace ScriptCore

namespace Shape

/-- Whether values of the shape are numbers. -/
def isNumber : Shape → Bool
  | .int | .float => true
  | _ => false

/-- Whether `<` is defined between values of two shapes: two numbers, or two texts. -/
def ordered (l r : Shape) : Bool := l.isNumber && r.isNumber || l == .str && r == .str

theorem ordered_comm (l r : Shape) : ordered l r = ordered r l := by
  cases l <;> cases r <;> rfl

end Shape

/-- The operand shapes an arithmetic operator applies to: two numbers under all four; with
texts, `+` joins a text and a number or two texts, and `*` repeats a text an integer number
of times. -/
def Arith.appliesTo (op : Arith) (l r : Shape) : Bool :=
  l.isNumber && r.isNumber ||
    match op, l, r with
    | .add, .str, .str => true
    | .add, .str, r => r.isNumber
    | .add, l, .str => l.isNumber
    | .mul, .str, .int => true
    | _, _, _ => false

/-- The operand shapes on which an operator is refused: those outside its lattice. -/
def BinaryOp.rejects : BinaryOp → Shape → Shape → Bool
  | .add, l, r => !Arith.add.appliesTo l r
  | .sub, l, r => !Arith.sub.appliesTo l r
  | .mul, l, r => !Arith.mul.appliesTo l r
  | .div, l, r => !Arith.div.appliesTo l r
  | .eq, _, _ | .ne, _, _ => false
  | .lt, l, r | .le, l, r | .gt, l, r | .ge, l, r => !Shape.ordered l r

@[simp] theorem rejects_toBinaryOp (op : Arith) (l r : Shape) :
    op.toBinaryOp.rejects l r = !op.appliesTo l r := by
  cases op <;> rfl

example : BinaryOp.rejects .mul .str .int = false ∧ BinaryOp.rejects .mul .int .str = true ∧
    BinaryOp.rejects .lt .str .int = true := by
  decide

/-- The four orderings `<`, `<=`, `>` and `>=`. -/
def BinaryOp.IsOrdering (op : BinaryOp) : Prop := op = .lt ∨ op = .le ∨ op = .gt ∨ op = .ge

/-- Every operator is arithmetic, an equality test or an ordering: the three ways `evaluate`
goes. -/
theorem BinaryOp.arith_or_equality_or_ordering (op : BinaryOp) :
    (∃ a : Arith, op = a.toBinaryOp) ∨ (op = .eq ∨ op = .ne) ∨ op.IsOrdering := by
  cases op with
  | add => exact .inl ⟨.add, rfl⟩
  | sub => exact .inl ⟨.sub, rfl⟩
  | mul => exact .inl ⟨.mul, rfl⟩
  | div => exact .inl ⟨.div, rfl⟩
  | eq => exact .inr (.inl (.inl rfl))
  | ne => exact .inr (.inl (.inr rfl))
  | lt => exact .inr (.inr (.inl rfl))
  | le => exact .inr (.inr (.inr (.inl rfl)))
  | gt => exact .inr (.inr (.inr (.inr (.inl rfl))))
  | ge => exact .inr (.inr (.inr (.inr (.inr rfl))))

theorem BinaryOp.rejects_of_isOrdering {op : BinaryOp} (h : op.IsOrdering) (l r : Shape) :
    op.rejects l r = !Shape.ordered l r := by
  rcases h with rfl | rfl | rfl | rfl <;> rfl

theorem evaluate_ordering (p : OperatorPolicy) {op : BinaryOp} (h : op.IsOrdering)
    (l r : Value) : evaluate p op l r = ordering p op l r := by
  rcases h with rfl | rfl | rfl | rfl <;> rfl

/-- Two values that are not both integers. -/
def Value.NotBothInt (l r : Value) : Prop := ¬(l.shape = .int ∧ r.shape = .int)

/-! ## Arithmetic -/

/-- Outside two integers, whether an arithmetic operator gives a value is the lattice. -/
theorem Arith.onMixed_isSome (op : Arith) {l r : Value} (h : l.NotBothInt r) :
    (op.onMixed l r).isSome = op.appliesTo l.shape r.shape := by
  unfold Value.NotBothInt at h
  cases l <;> cases r <;> cases op <;>
    simp_all [Arith.onMixed, Arith.onText, Arith.appliesTo, Value.shape, Shape.isNumber]

theorem arithmetic_of_notBothInt (p : OperatorPolicy) (op : Arith) {l r : Value}
    (h : l.NotBothInt r) :
    arithmetic p op l r =
      match op.onMixed l r with
      | some v => .ok v
      | none => p.unsupported op.toBinaryOp l r := by
  unfold arithmetic
  split
  · exact absurd ⟨rfl, rfl⟩ h
  · rfl

/-- Outside the lattice, arithmetic is the policy's answer for unsupported operands. -/
theorem arithmetic_of_not_appliesTo (p : OperatorPolicy) {op : Arith} {l r : Value}
    (h : op.appliesTo l.shape r.shape = false) :
    arithmetic p op l r = p.unsupported op.toBinaryOp l r := by
  have hint : l.NotBothInt r := by
    rintro ⟨hl, hr⟩
    simp [hl, hr, Arith.appliesTo, Shape.isNumber] at h
  have hnone : op.onMixed l r = none := by
    have hsome := op.onMixed_isSome hint
    rw [h] at hsome
    simpa using hsome
  rw [arithmetic_of_notBothInt p op hint, hnone]

/-- The checked operations fail only by a division by zero or an overflow of the operation. -/
theorem Arith.checked_error {op : Arith} {a b : Int32} {e : EvalError}
    (h : op.checked a b = .error e) :
    e = .ofKind .divisionByZero ∨ e = .ofKind (.integerOverflow op.operationName) := by
  unfold Arith.checked at h
  split at h
  · exact .inl (Except.error.inj h).symm
  · split at h
    · cases h
    · exact .inr (Except.error.inj h).symm

theorem OperatorPolicy.unsupported_error {p : OperatorPolicy} {op : BinaryOp} {l r : Value}
    {e : EvalError} (h : p.unsupported op l r = .error e) :
    e = .ofKind (.unsupportedOperation op l.typeName r.typeName) := by
  cases p with
  | lenient => cases h
  | strict => exact (Except.error.inj h).symm

theorem arithmetic_error {p : OperatorPolicy} {op : Arith} {l r : Value} {e : EvalError}
    (h : arithmetic p op l r = .error e) :
    (e = .ofKind (.unsupportedOperation op.toBinaryOp l.typeName r.typeName) ∧
        op.appliesTo l.shape r.shape = false) ∨
      (p = .strict ∧ ∃ x y, l = .int x ∧ r = .int y ∧ op.checked x y = .error e) := by
  by_cases hint : l.shape = .int ∧ r.shape = .int
  · -- two integers: only the checked operations can fail
    obtain ⟨hl, hr⟩ := hint
    cases l <;> cases r <;> simp only [Value.shape, reduceCtorEq] at hl hr
    cases p with
    | lenient => cases h
    | strict => exact .inr ⟨rfl, _, _, rfl, rfl, h⟩
  · rw [arithmetic_of_notBothInt p op hint] at h
    split at h
    · cases h
    · rename_i hnone
      have happ := op.onMixed_isSome hint
      rw [hnone] at happ
      exact .inl ⟨OperatorPolicy.unsupported_error h, happ.symm⟩

/-! ## Orderings -/

/-- `lessThan?` answers exactly on ordered shapes. -/
theorem Value.lessThan?_isSome (a b : Value) :
    (a.lessThan? b).isSome = Shape.ordered a.shape b.shape := by
  cases a <;> cases b <;> rfl

theorem orderingTest_ordered (op : BinaryOp) (l r : Value) :
    Shape.ordered (orderingTest op l r).1.shape (orderingTest op l r).2.1.shape =
      Shape.ordered l.shape r.shape := by
  cases op <;> simp [orderingTest, Shape.ordered_comm]

theorem ordering_eq (p : OperatorPolicy) (op : BinaryOp) (l r : Value) :
    ordering p op l r =
      match (orderingTest op l r).1.lessThan? (orderingTest op l r).2.1 with
      | some less => .ok (Value.ofBool (less != (orderingTest op l r).2.2))
      | none =>
        match p with
        | .lenient => .ok (Value.ofBool (orderingTest op l r).2.2)
        | .strict => .error (.ofKind (.unsupportedOperation op l.typeName r.typeName)) :=
  rfl

/-- The pair an ordering tests is ordered exactly when its operands are. -/
theorem lessThan?_orderingTest_isSome (op : BinaryOp) (l r : Value) :
    ((orderingTest op l r).1.lessThan? (orderingTest op l r).2.1).isSome =
      Shape.ordered l.shape r.shape := by
  rw [Value.lessThan?_isSome, orderingTest_ordered]

theorem lessThan?_orderingTest_eq_none {op : BinaryOp} {l r : Value}
    (h : Shape.ordered l.shape r.shape = false) :
    (orderingTest op l r).1.lessThan? (orderingTest op l r).2.1 = none := by
  have hsome := lessThan?_orderingTest_isSome op l r
  rw [h] at hsome
  simpa using hsome

theorem ordering_error {p : OperatorPolicy} {op : BinaryOp} {l r : Value} {e : EvalError}
    (h : ordering p op l r = .error e) :
    e = .ofKind (.unsupportedOperation op l.typeName r.typeName) ∧
      Shape.ordered l.shape r.shape = false := by
  rw [ordering_eq] at h
  split at h
  · cases h
  · rename_i hnone
    have hord := lessThan?_orderingTest_isSome op l r
    rw [hnone] at hord
    cases p with
    | lenient => cases h
    | strict => exact ⟨(Except.error.inj h).symm, hord.symm⟩

/-! ## Every operator -/

/-- Under either policy, an operator fails only with an unsupported operation on shapes it
rejects, or under `strict` where a checked operation on two integers fails. -/
theorem evaluate_error {p : OperatorPolicy} {op : BinaryOp} {l r : Value} {e : EvalError}
    (h : evaluate p op l r = .error e) :
    (e = .ofKind (.unsupportedOperation op l.typeName r.typeName) ∧ op.rejects l.shape r.shape) ∨
      (p = .strict ∧ ∃ (a : Arith) (x y : Int32), op = a.toBinaryOp ∧ l = .int x ∧ r = .int y ∧
        a.checked x y = .error e) := by
  rcases op.arith_or_equality_or_ordering with ⟨a, rfl⟩ | (rfl | rfl) | hord
  · rw [evaluate_arith] at h
    rcases arithmetic_error h with ⟨he, happ⟩ | ⟨hp, x, y, hl, hr, hc⟩
    · exact .inl ⟨he, by simp [happ]⟩
    · exact .inr ⟨hp, a, x, y, rfl, hl, hr, hc⟩
  · cases h
  · cases h
  · rw [evaluate_ordering p hord] at h
    obtain ⟨he, hunord⟩ := ordering_error h
    exact .inl ⟨he, by simp [BinaryOp.rejects_of_isOrdering hord, hunord]⟩

/-- Under `strict`, rejected shapes are an unsupported operation. -/
theorem evaluate_strict_of_rejects {op : BinaryOp} {l r : Value}
    (h : op.rejects l.shape r.shape) :
    evaluate .strict op l r = .error (.ofKind (.unsupportedOperation op l.typeName r.typeName)) := by
  rcases op.arith_or_equality_or_ordering with ⟨a, rfl⟩ | (rfl | rfl) | hord
  · rw [evaluate_arith, arithmetic_of_not_appliesTo .strict (by simpa using h)]
    rfl
  · cases h
  · cases h
  · rw [BinaryOp.rejects_of_isOrdering hord] at h
    rw [evaluate_ordering .strict hord, ordering_eq, lessThan?_orderingTest_eq_none (by simpa using h)]

/-- Strict evaluation fails with an unsupported operation exactly outside the lattice, and the
error names the operands' type names in the order they were given; `==` and `!=` never fail,
and every other failure is a division by zero or an overflow, of two integers. No failure
carries a note. -/
theorem strict_rejects_exactly_outside_lattice (op : BinaryOp) (l r : Value) :
    ((∃ e, evaluate .strict op l r = .error e ∧
        e.kind = .unsupportedOperation op l.typeName r.typeName) ↔
      op.rejects l.shape r.shape) ∧
    (op = .eq ∨ op = .ne → ∃ v, evaluate .strict op l r = .ok v) ∧
    (∀ e, evaluate .strict op l r = .error e →
      e.notes = [] ∧
        (e.kind = .unsupportedOperation op l.typeName r.typeName ∨
          (e.kind = .divisionByZero ∨ ∃ s, e.kind = .integerOverflow s) ∧
            l.shape = .int ∧ r.shape = .int)) := by
  refine ⟨⟨?_, fun h => ⟨_, evaluate_strict_of_rejects h, rfl⟩⟩, ?_, ?_⟩
  · rintro ⟨e, he, hkind⟩
    rcases evaluate_error he with ⟨-, hrej⟩ | ⟨-, a, x, y, -, -, -, hc⟩
    · exact hrej
    · rcases a.checked_error hc with rfl | rfl <;> cases hkind
  · rintro (rfl | rfl) <;> exact ⟨_, rfl⟩
  · intro e he
    rcases evaluate_error he with ⟨rfl, -⟩ | ⟨-, a, x, y, -, rfl, rfl, hc⟩
    · exact ⟨rfl, .inl rfl⟩
    · rcases a.checked_error hc with rfl | rfl
      · exact ⟨rfl, .inr ⟨.inl rfl, rfl, rfl⟩⟩
      · exact ⟨rfl, .inr ⟨.inr ⟨_, rfl⟩, rfl, rfl⟩⟩

end ScriptCore
