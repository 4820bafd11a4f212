import ScriptCore.Proofs.LenientEvaluation

set_option autoImplicit false

/-! # The ordering operators and the comparison methods agree

Values can be compared in two ways: by the ordering operators through `evaluate`, and by the
comparison methods `Value.lessThan`, `greaterThan`, `lessEqual` and `greaterEqual`. Both derive
from `Value.lessThan?` by swapping the operands and negating, and both count an unordered pair
as not less. So under `lenient` each ordering operator answers the truth value of its method,
and `==` and `!=` answer `Value.equals` and its negation under either policy. Under `strict` an
ordering answers as under `lenient` on comparable operands and fails on the others, and whether
two values are comparable does not depend on their order.

Main statement: `ordering_operators_agree_with_methods`. It rests on `ordering_lenient`: a
lenient ordering is the truth value of `lessThan` on the pair it tests, negated as the operator
says, because `lessThan` and the lenient fallback both read an unordered pair as not less. -/

namespace ScriptCore

namespace Value

theorem comparable_eq (a b : Value) : a.comparable b = Shape.ordered a.shape b.shape :=
  lessThan?_isSome a b

/-- Whether two values are comparable does not depend on their order. -/
theorem comparable_comm (a b : Value) : a.comparable b = b.comparable a := by
  rw [comparable_eq, comparable_eq, Shape.ordered_comm]

theorem lessThan_of_not_comparable {a b : Value} (h : a.comparable b = false) :
    a.lessThan b = false := by
  have hnone : a.lessThan? b = none := by simpa [comparable] using h
  simp [lessThan, hnone]

end Value

/-- A lenient ordering is the truth value of `lessThan` on the pair it tests, negated when the
operator says so. -/
theorem ordering_lenient (op : BinaryOp) (l r : Value) :
    ordering .lenient op l r =
      .ok (Value.ofBool ((orderingTest op l r).1.lessThan (orderingTest op l r).2.1 !=
        (orderingTest op l r).2.2)) := by
  rw [ordering_eq]
  cases h : (orderingTest op l r).1.lessThan? (orderingTest op l r).2.1 with
  | none => simp [Value.lessThan, h]
  | some less => simp [Value.lessThan, h]

/-- A strict ordering answers as a lenient one on comparable operands, and fails on the
others with an unsupported operation naming the operands in the order given. -/
theorem ordering_strict (op : BinaryOp) (l r : Value) :
    ordering .strict op l r =
      if l.comparable r then ordering .lenient op l r
      else .error (.ofKind (.unsupportedOperation op l.typeName r.typeName)) := by
  rw [Value.comparable_eq]
  split
  · -- the pair the ordering tests is ordered too, so both policies take the same branch
    rename_i hord
    have hsome := lessThan?_orderingTest_isSome op l r
    rw [hord] at hsome
    obtain ⟨less, hless⟩ := Option.isSome_iff_exists.mp hsome
    rw [ordering_eq, ordering_eq, hless]
  · rename_i hord
    rw [ordering_eq, lessThan?_orderingTest_eq_none (by simpa using hord)]

/-- Under `lenient`, each ordering operator is the truth value of its comparison method. -/
theorem evaluate_lenient_orderings (l r : Value) :
    evaluate .lenient .lt l r = .ok (Value.ofBool (l.lessThan r)) ∧
    evaluate .lenient .gt l r = .ok (Value.ofBool (l.greaterThan r)) ∧
    evaluate .lenient .le l r = .ok (Value.ofBool (l.lessEqual r)) ∧
    evaluate .lenient .ge l r = .ok (Value.ofBool (l.greaterEqual r)) := by
  refine ⟨?_, ?_, ?_, ?_⟩ <;>
    simp [evaluate, ordering_lenient, orderingTest, Value.greaterThan, Value.lessEqual,
      Value.greaterEqual]

/-- The ordering operators under `lenient` are the comparison methods, `>`, `<=` and `>=` being
`<` with the operands swapped or the answer negated; `==` and `!=` are `Value.equals` and its
negation under either policy; comparability is symmetric; a strict ordering answers as a lenient
one on comparable operands and fails on the others; and on incomparable operands `<` and `>` are
`0` while `<=` and `>=` are `1`. -/
theorem ordering_operators_agree_with_methods (l r : Value) :
    evaluate .lenient .lt l r = .ok (Value.ofBool (l.lessThan r)) ∧
    evaluate .lenient .gt l r = .ok (Value.ofBool (l.greaterThan r)) ∧
    evaluate .lenient .le l r = .ok (Value.ofBool (l.lessEqual r)) ∧
    evaluate .lenient .ge l r = .ok (Value.ofBool (l.greaterEqual r)) ∧
    l.greaterThan r = r.lessThan l ∧ l.lessEqual r = !r.lessThan l ∧
    l.greaterEqual r = !l.lessThan r ∧
    (∀ p, evaluate p .eq l r = .ok (Value.ofBool (l.equals r)) ∧
      evaluate p .ne l r = .ok (Value.ofBool !(l.equals r))) ∧
    l.comparable r = r.comparable l ∧
    (∀ op, op.IsOrdering →
      evaluate .strict op l r =
        if l.comparable r then evaluate .lenient op l r
        else .error (.ofKind (.unsupportedOperation op l.typeName r.typeName))) ∧
    (l.comparable r = false →
      evaluate .lenient .lt l r = .ok (.int 0) ∧ evaluate .lenient .gt l r = .ok (.int 0) ∧
      evaluate .lenient .le l r = .ok (.int 1) ∧ evaluate .lenient .ge l r = .ok (.int 1)) := by
  obtain ⟨hlt, hgt, hle, hge⟩ := evaluate_lenient_orderings l r
  refine ⟨hlt, hgt, hle, hge, rfl, rfl, rfl, fun _ => ⟨rfl, rfl⟩, Value.comparable_comm l r,
    fun op hop => ?_, fun hc => ?_⟩
  · rw [evaluate_ordering .strict hop, evaluate_ordering .lenient hop, ordering_strict]
  · -- neither operand is below the other, so the methods answer `false` and their negations
    have hlr := Value.lessThan_of_not_comparable hc
    have hrl := Value.lessThan_of_not_comparable ((Value.comparable_comm r l).trans hc)
    simp [hlt, hgt, hle, hge, hlr, hrl, Value.greaterThan, Value.lessEqual, Value.greaterEqual,
      Value.ofBool]

/-- An integer and a text are not comparable: under `lenient` their `<=` is `1`, and `strict`
refuses it, naming both type names. -/
theorem ordering_int_text_fallbacks :
    Value.comparable (.int 1) (.str "a") = false ∧
    evaluate .lenient .le (.int 1) (.str "a") = .ok (.int 1) ∧
    evaluate .strict .le (.int 1) (.str "a") =
      .error (.ofKind (.unsupportedOperation .le "int" "string")) := by
  obtain ⟨-, -, -, -, -, -, -, -, -, hstrict, hincomparable⟩ :=
    ordering_operators_agree_with_methods (.int 1) (.str "a")
  have hc : Value.comparable (.int 1) (.str "a") = false := by decide
  refine ⟨hc, (hincomparable hc).2.2.1, ?_⟩
  rw [hstrict .le (.inr (.inl rfl)), hc]
  rfl

end ScriptCore
