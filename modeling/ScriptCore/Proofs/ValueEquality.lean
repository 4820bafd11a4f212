import ScriptCore.Value.Order

set_option autoImplicit false

/-! # Equality of values

`Value.equals` is symmetric, since each of its cases is and IEEE-754 equality of floats is. It
is transitive along every chain but one: an integer, a float, an integer. Widening an integer
to a float rounds it, so two integers that round to the same float both equal that float and
still differ from each other: `16777216` and `16777217` both equal `16777216.0`. Such a chain
gives only that its two integers widen to equal floats. Along every other chain the middle
value compares with both ends in one way: integers by value, floats (or an integer already
widened) by their place in the numeric order, texts by their characters. Values of every other
shape equal nothing, so they begin no chain.

Main statements: `equality_symmetric_and_transitive_except_through_float`, and
`equality_not_transitive` at the two integers above. -/

namespace ScriptCore

namespace Binary32

theorem equals_comm (x y : Binary32) : x.equals y = y.equals x := by
  rw [Bool.eq_iff_iff, equals_iff, equals_iff]
  exact ⟨fun ⟨hx, hy, h⟩ => ⟨hy, hx, h.symm⟩, fun ⟨hy, hx, h⟩ => ⟨hx, hy, h.symm⟩⟩

/-- Floats that are equal have the same key and are no NaN, so equality chains. -/
theorem equals_trans {x y z : Binary32} (hxy : x.equals y = true) (hyz : y.equals z = true) :
    x.equals z = true := by
  rw [equals_iff] at hxy hyz ⊢
  exact ⟨hxy.1, hyz.2.1, hxy.2.2.trans hyz.2.2⟩

end Binary32

namespace Value

theorem equals_comm (a b : Value) : a.equals b = b.equals a := by
  cases a <;> cases b <;> simp [equals, Binary32.equals_comm, BEq.comm]

theorem equals_trans {a b c : Value} (hab : a.equals b = true) (hbc : b.equals c = true)
    (hchain : ¬(a.shape = .int ∧ b.shape = .float ∧ c.shape = .int)) : a.equals c = true := by
  -- only numbers and texts are equal to anything, which leaves nine chains
  cases a <;> cases b <;> simp only [equals, reduceCtorEq] at hab <;>
    cases c <;> simp only [equals, reduceCtorEq] at hbc ⊢
  case int.int.int => rw [eq_of_beq hab]; exact hbc
  case int.int.float => rw [eq_of_beq hab]; exact hbc
  case int.float.int => exact absurd ⟨rfl, rfl, rfl⟩ hchain
  case float.int.int => rw [← eq_of_beq hbc]; exact hab
  case str.str.str => rw [eq_of_beq hab]; exact hbc
  -- the rest compare floats, the integers among them already widened
  all_goals exact Binary32.equals_trans hab hbc

/-- An integer, a float and an integer: the two integers widen to equal floats. -/
theorem widened_equal_through_float {i j : Int32} {y : Binary32}
    (hab : (Value.int i).equals (.float y) = true) (hbc : (Value.float y).equals (.int j) = true) :
    (Binary32.ofInt i.toInt).equals (Binary32.ofInt j.toInt) = true :=
  Binary32.equals_trans hab hbc

end Value

/-- Equality of values is symmetric, and transitive along every chain but an integer, a float
and an integer, where it gives only that the two integers widen to equal floats. -/
theorem equality_symmetric_and_transitive_except_through_float :
    (∀ a b : Value, a.equals b = true → b.equals a = true) ∧
    (∀ a b c : Value, a.equals b = true → b.equals c = true →
      ¬(a.shape = .int ∧ b.shape = .float ∧ c.shape = .int) → a.equals c = true) ∧
    (∀ (i j : Int32) (y : Binary32), (Value.int i).equals (.float y) = true →
      (Value.float y).equals (.int j) = true →
      (Value.float (Binary32.ofInt i.toInt)).equals (.float (Binary32.ofInt j.toInt)) = true) :=
  ⟨fun a b h => Value.equals_comm a b ▸ h, fun _ _ _ => Value.equals_trans,
    fun _ _ _ => Value.widened_equal_through_float⟩

/-- The integer `0` equals `-0.0`, which equals `0.0`, so `0` equals `0.0` and `0.0` equals
`0`; the chain from `16777216` through `16777216.0` to `16777217` widens both integers to one
float. -/
theorem equality_chain_through_signed_zero :
    (Value.int 0).equals (.float ⟨0x80000000⟩) = true ∧
    (Value.float ⟨0x80000000⟩).equals (.float ⟨0⟩) = true ∧
    (Value.int 0).equals (.float ⟨0⟩) = true ∧ (Value.float ⟨0⟩).equals (.int 0) = true ∧
    (Value.float (Binary32.ofInt 16777216)).equals (.float (Binary32.ofInt 16777217)) = true := by
  obtain ⟨hsymm, htrans, hthrough⟩ := equality_symmetric_and_transitive_except_through_float
  have hab : (Value.int 0).equals (.float ⟨0x80000000⟩) = true := by decide
  have hbc : (Value.float ⟨0x80000000⟩).equals (.float ⟨0⟩) = true := by decide
  have hac := htrans _ _ _ hab hbc (by decide)
  exact ⟨hab, hbc, hac, hsymm _ _ hac,
    hthrough 16777216 16777217 ⟨0x4B800000⟩ (by decide) (by decide)⟩

/-- `16777216` and `16777217` both equal the float `16777216.0`, and differ from each other. -/
theorem equality_not_transitive :
    ¬∀ a b c : Value, a.equals b = true → b.equals c = true → a.equals c = true := by
  intro htrans
  have hab : (Value.int 16777216).equals (.float ⟨0x4B800000⟩) = true := by decide
  have hbc : (Value.float ⟨0x4B800000⟩).equals (.int 16777217) = true := by decide
  have hac : (Value.int 16777216).equals (.int 16777217) = false := by decide
  rw [htrans _ _ _ hab hbc] at hac
  cases hac

end ScriptCore
