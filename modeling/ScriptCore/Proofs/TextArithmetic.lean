import ScriptCore.Evaluation
import ScriptCore.Proofs.NumberText

set_option autoImplicit false

/-! # Arithmetic on text

Under either operator policy, `+` joins two texts and splices a number into a text on either
side of it, and `*` repeats a text on its left. An integer is spliced in decimal; a float is
spliced in fixed notation with six places, which for every finite float is an optional minus
sign, one or more digits, a point and exactly six digits (`Binary32.toFixed_fixedNotation`). A
text repeated `n` times has `max(n, 0)` copies: a count below one gives the empty text, and no
count is an error, the least integer included.

Main statement: `text_arithmetic`. -/

namespace ScriptCore

/-! ## Repetition -/

theorem String.join_replicate_empty (k : Nat) : String.join (List.replicate k "") = "" := by
  induction k with
  | zero => rfl
  | succ k ih => simp [List.replicate_succ, ih]

theorem String.utf8ByteSize_join_replicate (s : String) (k : Nat) :
    (String.join (List.replicate k s)).utf8ByteSize = s.utf8ByteSize * k := by
  induction k with
  | zero => simp
  | succ k ih =>
    simp [List.replicate_succ, String.utf8ByteSize_append, ih, Nat.mul_succ, Nat.add_comm]

namespace Value

/-- Repeating a text joins `max(count, 0)` copies of it; the shortcut for the empty text gives
what the copies would. -/
theorem repeatText_eq (s : String) (count : Int32) :
    repeatText s count = String.join (List.replicate count.toInt.toNat s) := by
  unfold repeatText
  split
  · rename_i h
    rw [String.isEmpty_iff.1 h, String.join_replicate_empty]
  · rfl

end Value

/-! ## Fixed notation -/

/-- Text in fixed notation with `places` places: an optional minus sign, one or more digits, a
point, and exactly `places` digits after it. -/
def FixedNotation (places : Nat) (text : String) : Prop :=
  ∃ sign whole frac : List Char, text.toList = sign ++ whole ++ '.' :: frac ∧
    (sign = [] ∨ sign = ['-']) ∧ whole ≠ [] ∧ (∀ c ∈ whole, c.isDigit) ∧
    frac.length = places ∧ ∀ c ∈ frac, c.isDigit

namespace Binary32

/-- A finite word written with `places` places, at least one, is in fixed notation with exactly
that many digits after the point. -/
theorem toFixed_fixedNotation {x : Binary32} (hfin : x.isFinite = true) {places : Nat}
    (hp : 0 < places) : FixedNotation places (x.toFixed places) := by
  have hnan : x.isNaN = false := by
    simp_all [isFinite, isNaN]
  have hinf : x.isInfinite = false := by
    simp_all [isFinite, isInfinite]
  -- the digits written are those of the rounded value, the fraction's padded to the places
  obtain ⟨whole, frac, htext, hwhole, hlen, hdigits, -⟩ := toFixed_eq_nearest hp hnan hinf
  refine ⟨if x.negative then ['-'] else [], whole, frac, ?_, ?_, hwhole,
    fun c hc => hdigits c (List.mem_append_left _ hc), hlen,
    fun c hc => hdigits c (List.mem_append_right _ hc)⟩
  · rw [htext, signedText_toList, String.toList_ofList, List.append_assoc]
  · cases x.negative <;> simp

end Binary32

/-! ## The operators on text -/

/-- Text arithmetic under either policy: `+` joins two texts, and splices an integer in decimal
or a float in fixed notation with six places, before or after a text; `*` repeats a text
`max(n, 0)` times, so the result is as long as the text times `max(n, 0)`, in characters and in
bytes, and never an error, whatever the count. -/
theorem text_arithmetic (p : OperatorPolicy) (s t : String) (n : Int32) (x : Binary32) :
    evaluate p .add (.str s) (.str t) = .ok (.str (s ++ t)) ∧
    evaluate p .add (.str s) (.int n) = .ok (.str (s ++ toString n.toInt)) ∧
    evaluate p .add (.int n) (.str s) = .ok (.str (toString n.toInt ++ s)) ∧
    evaluate p .add (.str s) (.float x) = .ok (.str (s ++ x.toFixed 6)) ∧
    evaluate p .add (.float x) (.str s) = .ok (.str (x.toFixed 6 ++ s)) ∧
    (x.isFinite = true → FixedNotation 6 (x.toFixed 6)) ∧
    evaluate p .mul (.str s) (.int n) =
      .ok (.str (String.join (List.replicate n.toInt.toNat s))) ∧
    (String.join (List.replicate n.toInt.toNat s)).length = s.length * n.toInt.toNat ∧
    (String.join (List.replicate n.toInt.toNat s)).utf8ByteSize =
      s.utf8ByteSize * n.toInt.toNat := by
  refine ⟨rfl, rfl, rfl, rfl, rfl, fun hfin => Binary32.toFixed_fixedNotation hfin (by decide),
    ?_, ?_, String.utf8ByteSize_join_replicate s _⟩
  · show Except.ok (Value.str (Value.repeatText s n)) = _
    rw [Value.repeatText_eq]
  · simp [Nat.mul_comm]

/-- `"x" + 1.5` is `"x1.500000"`, and `1.500000` has six places. -/
theorem text_plus_one_and_a_half :
    (⟨0x3FC00000⟩ : Binary32).isFinite = true ∧
      evaluate .strict .add (.str "x") (.float ⟨0x3FC00000⟩) = .ok (.str "x1.500000") ∧
      FixedNotation 6 "1.500000" := by
  have h := text_arithmetic .strict "x" "" 0 ⟨0x3FC00000⟩
  have hfix : Binary32.toFixed 6 ⟨0x3FC00000⟩ = "1.500000" := by decide
  refine ⟨by decide, ?_, ?_⟩
  · rw [h.2.2.2.1, hfix]
    rfl
  · rw [← hfix]
    exact h.2.2.2.2.2.1 (by decide)

end ScriptCore
