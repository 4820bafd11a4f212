import ScriptCore.Proofs.StrictEvaluation

set_option autoImplicit false

/-! # Lenient evaluation is strict evaluation with fallbacks

The two operator policies share every successful answer. Where `strict` fails, `lenient`
answers with a fixed fallback instead: `NULL` for a division by zero and for arithmetic on
operands outside the lattice, the exact integer result wrapped into 32 bits (`wrap32`) for an
overflow, and for an ordering on unordered operands the truth value of its negation, `0` for
`<` and `>`, `1` for `<=` and `>=`. Lenient evaluation therefore never fails, and the
arithmetic operators as total operations (`Arith.apply`) never reach their default.

Main statement: `lenient_is_strict_with_fallbacks`. The integer part rests on `wrapping_eq` and
`checked_eq`: both policies compute through the exact value, and they agree wherever it fits in
32 bits, which is where `wrap32` changes nothing. Every other part follows the split of
`evaluate_error`: a strict failure is either an unsupported operation on rejected shapes or a
checked operation on two integers. -/

namespace ScriptCore

/-! ## Two integers -/

theorem wrap32_of_fits {z : Int} (h : -2147483648 ≤ z ∧ z < 2147483648) : wrap32 z = z := by
  unfold wrap32
  omega

/-- Where the checked operation succeeds, the wrapping one gives the same value. -/
theorem Arith.wrapping_of_checked_ok {op : Arith} {a b : Int32} {v : Value}
    (h : op.checked a b = .ok v) : op.wrapping a b = v := by
  rw [checked_eq, strictIntegerRule] at h
  rw [wrapping_eq]
  cases hz : op.exactValue a.toInt b.toInt with
  | none => simp [hz] at h
  | some z =>
    simp only [hz] at h ⊢
    split at h
    · rename_i hfit
      cases h
      rw [wrap32_of_fits hfit]
    · cases h

/-- Where the checked operation fails, the wrapping one gives `NULL` for a zero divisor and
the wrapped exact value for an overflow. -/
theorem Arith.wrapping_of_checked_error {op : Arith} {a b : Int32} {e : EvalError}
    (h : op.checked a b = .error e) :
    (e.kind = .divisionByZero ∧ op.wrapping a b = .null) ∨
      (e.kind = .integerOverflow op.operationName ∧ ∃ z, op.exactValue a.toInt b.toInt = some z ∧
        op.wrapping a b = .int (Int32.ofInt (wrap32 z))) := by
  rw [checked_eq, strictIntegerRule] at h
  rw [wrapping_eq]
  cases hz : op.exactValue a.toInt b.toInt with
  | none =>
    simp only [hz] at h
    cases h
    exact .inl ⟨rfl, rfl⟩
  | some z =>
    simp only [hz] at h ⊢
    split at h
    · cases h
    · cases h
      exact .inr ⟨rfl, z, rfl, rfl⟩

/-! ## Arithmetic and orderings -/

theorem arithmetic_lenient_of_strict_ok {op : Arith} {l r v : Value}
    (h : arithmetic .strict op l r = .ok v) : arithmetic .lenient op l r = .ok v := by
  by_cases hint : l.shape = .int ∧ r.shape = .int
  · obtain ⟨hl, hr⟩ := hint
    cases l <;> cases r <;> simp only [Value.shape, reduceCtorEq] at hl hr
    exact congrArg Except.ok (Arith.wrapping_of_checked_ok h)
  · rw [arithmetic_of_notBothInt .strict op hint] at h
    rw [arithmetic_of_notBothInt .lenient op hint]
    split at h
    · exact h
    · cases h

theorem ordering_lenient_of_strict_ok {op : BinaryOp} {l r v : Value}
    (h : ordering .strict op l r = .ok v) : ordering .lenient op l r = .ok v := by
  rw [ordering_eq] at h ⊢
  split at h
  · exact h
  · cases h

/-- On unordered operands, a lenient ordering is the truth value of its negation. -/
theorem ordering_lenient_of_not_ordered {op : BinaryOp} {l r : Value}
    (h : Shape.ordered l.shape r.shape = false) :
    ordering .lenient op l r = .ok (Value.ofBool (orderingTest op l r).2.2) := by
  rw [ordering_eq, lessThan?_orderingTest_eq_none h]

/-! ## Every operator -/

theorem evaluate_lenient_of_strict_ok {op : BinaryOp} {l r v : Value}
    (h : evaluate .strict op l r = .ok v) : evaluate .lenient op l r = .ok v := by
  rcases op.arith_or_equality_or_ordering with ⟨a, rfl⟩ | (rfl | rfl) | hord
  · rw [evaluate_arith] at h ⊢
    exact arithmetic_lenient_of_strict_ok h
  · exact h
  · exact h
  · rw [evaluate_ordering .strict hord] at h
    rw [evaluate_ordering .lenient hord]
    exact ordering_lenient_of_strict_ok h

/-- On rejected shapes, lenient arithmetic is `NULL` and a lenient ordering the truth value of
its negation. -/
theorem evaluate_lenient_of_rejects {op : BinaryOp} {l r : Value}
    (h : op.rejects l.shape r.shape) :
    (∀ a : Arith, op = a.toBinaryOp → evaluate .lenient op l r = .ok .null) ∧
      (op.IsOrdering → evaluate .lenient op l r = .ok (Value.ofBool (orderingTest op l r).2.2)) := by
  refine ⟨?_, fun hord => ?_⟩
  · rintro a rfl
    rw [evaluate_arith, arithmetic_of_not_appliesTo .lenient (by simpa using h)]
    rfl
  · rw [BinaryOp.rejects_of_isOrdering hord] at h
    rw [evaluate_ordering .lenient hord]
    exact ordering_lenient_of_not_ordered (by simpa using h)

/-- Where a checked operation on two integers fails, lenient evaluation gives `NULL` for a zero
divisor and the wrapped exact value for an overflow. -/
theorem evaluate_lenient_of_checked_error {a : Arith} {x y : Int32} {e : EvalError}
    (h : a.checked x y = .error e) :
    (e.kind = .divisionByZero ∧ evaluate .lenient a.toBinaryOp (.int x) (.int y) = .ok .null) ∨
      (e.kind = .integerOverflow a.operationName ∧ ∃ z, a.exactValue x.toInt y.toInt = some z ∧
        evaluate .lenient a.toBinaryOp (.int x) (.int y) =
          .ok (.int (Int32.ofInt (wrap32 z)))) := by
  rw [evaluate_arith]
  rcases a.wrapping_of_checked_error h with ⟨hk, hw⟩ | ⟨hk, z, hz, hw⟩
  · exact .inl ⟨hk, congrArg Except.ok hw⟩
  · exact .inr ⟨hk, z, hz, congrArg Except.ok hw⟩

/-- Lenient evaluation never fails. -/
theorem evaluate_lenient_ne_error (op : BinaryOp) (l r : Value) (e : EvalError) :
    evaluate .lenient op l r ≠ .error e := by
  intro h
  rcases evaluate_error h with ⟨-, hrej⟩ | ⟨hp, -⟩
  · -- only a rejected pair can fail, and lenient evaluation has a fallback for each
    rcases op.arith_or_equality_or_ordering with ⟨a, rfl⟩ | (rfl | rfl) | hord
    · rw [(evaluate_lenient_of_rejects hrej).1 a rfl] at h
      cases h
    · cases hrej
    · cases hrej
    · rw [(evaluate_lenient_of_rejects hrej).2 hord] at h
      cases h
  · cases hp

/-- Lenient evaluation is strict evaluation with each failure replaced by its fallback. It
always answers and agrees with every strict answer; where strict evaluation reports a division
by zero, or arithmetic outside the lattice, it is `NULL`; where it reports an overflow, it is
the exact integer result wrapped into 32 bits; an ordering on unordered operands is `0` for
`<` and `>` and `1` for `<=` and `>=`. The arithmetic operators as total operations are lenient
evaluation itself. -/
theorem lenient_is_strict_with_fallbacks (op : BinaryOp) (l r : Value) :
    (∃ v, evaluate .lenient op l r = .ok v) ∧
    (∀ v, evaluate .strict op l r = .ok v → evaluate .lenient op l r = .ok v) ∧
    (∀ e, evaluate .strict op l r = .error e →
      (e.kind = .divisionByZero → evaluate .lenient op l r = .ok .null) ∧
      (∀ s, e.kind = .integerOverflow s →
        ∃ (a : Arith) (x y : Int32) (z : Int), op = a.toBinaryOp ∧ l = .int x ∧ r = .int y ∧
          a.exactValue x.toInt y.toInt = some z ∧
          ∃ w : Int32, evaluate .lenient op l r = .ok (.int w) ∧ w.toInt = wrap32 z) ∧
      (∀ o tl tr, e.kind = .unsupportedOperation o tl tr →
        (∀ a : Arith, op = a.toBinaryOp → evaluate .lenient op l r = .ok .null) ∧
        (op = .lt ∨ op = .gt → evaluate .lenient op l r = .ok (.int 0)) ∧
        (op = .le ∨ op = .ge → evaluate .lenient op l r = .ok (.int 1)))) ∧
    (∀ a : Arith, op = a.toBinaryOp → evaluate .lenient op l r = .ok (a.apply l r)) := by
  have htotal : ∃ v, evaluate .lenient op l r = .ok v := by
    cases h : evaluate .lenient op l r with
    | ok v => exact ⟨v, rfl⟩
    | error e => exact absurd h (evaluate_lenient_ne_error op l r e)
  refine ⟨htotal, fun v => evaluate_lenient_of_strict_ok, fun e he => ?_, ?_⟩
  · rcases evaluate_error he with ⟨rfl, hrej⟩ | ⟨-, a, x, y, rfl, rfl, rfl, hc⟩
    · -- an unsupported operation: the fallback of the operator's kind
      have hlen := evaluate_lenient_of_rejects hrej
      refine ⟨nofun, nofun, fun _ _ _ _ => ⟨hlen.1, ?_, ?_⟩⟩
      · rintro (rfl | rfl)
        · exact hlen.2 (.inl rfl)
        · exact hlen.2 (.inr (.inr (.inl rfl)))
      · rintro (rfl | rfl)
        · exact hlen.2 (.inr (.inl rfl))
        · exact hlen.2 (.inr (.inr (.inr rfl)))
    · -- a checked operation on two integers: `NULL` or the wrapped exact value
      rcases evaluate_lenient_of_checked_error hc with ⟨hk, hv⟩ | ⟨hk, z, hz, hv⟩
      · refine ⟨fun _ => hv, fun s hs => ?_, fun o tl tr ho => ?_⟩
        · rw [hk] at hs
          cases hs
        · rw [hk] at ho
          cases ho
      · refine ⟨fun hd => ?_, fun _ _ => ⟨a, x, y, z, rfl, rfl, rfl, hz, _, hv, ?_⟩,
          fun o tl tr ho => ?_⟩
        · rw [hk] at hd
          cases hd
        · exact toInt_ofInt_wrap32 z
        · rw [hk] at ho
          cases ho
  · rintro a rfl
    obtain ⟨v, hv⟩ := htotal
    have harith : arithmetic .lenient a l r = .ok v := by
      rw [← evaluate_arith]
      exact hv
    rw [hv, Arith.apply, harith]

end ScriptCore
