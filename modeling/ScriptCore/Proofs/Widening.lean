import Mathlib
import ScriptCore.Binary32.Round

set_option autoImplicit false

/-! # Widening integers to floats keeps their order

`Binary32.ofInt` rounds an integer to the nearest binary32 word. Rounding to nearest can merge
neighbouring integers, but it never reverses two of them: the widening is monotone in the
numeric order of words, and it never gives a NaN. This is what lets integers and floats be
compared through the widening and still form one order.

For a positive integer `a` with `L = ⌊log₂ a⌋`, the encoding of the widened magnitude is
`(L + 126) · 2²³ + m`, capped at the encoding of infinity, where the significand `m` is `a`
scaled to 24 bits and rounded (`widenedSignificand`). Within one binade the significand grows
with `a` because rounding a quotient grows with its numerator; across binades the exponent
part decides, because a significand lies between `2²³` and `2²⁴`. Main statements:
`Binary32.key_ofInt_le_key_ofInt` and `Binary32.isNaN_ofInt`. -/

namespace ScriptCore

/-! ## Rounding a quotient -/

theorem div_le_roundHalfEven (n d : Nat) : n / d ≤ roundHalfEven n d := by
  dsimp only [roundHalfEven]
  split <;> omega

theorem roundHalfEven_le_div_add_one (n d : Nat) : roundHalfEven n d ≤ n / d + 1 := by
  dsimp only [roundHalfEven]
  split <;> omega

theorem roundHalfEven_one (n : Nat) : roundHalfEven n 1 = n := by
  simp [roundHalfEven, Nat.mod_one]

/-- Rounding a quotient to nearest, ties to even, grows with the numerator. -/
theorem roundHalfEven_mono {n₁ n₂ : Nat} (d : Nat) (h : n₁ ≤ n₂) :
    roundHalfEven n₁ d ≤ roundHalfEven n₂ d := by
  rcases Nat.lt_or_eq_of_le (Nat.div_le_div_right (c := d) h) with hlt | heq
  · calc roundHalfEven n₁ d ≤ n₁ / d + 1 := roundHalfEven_le_div_add_one n₁ d
      _ ≤ n₂ / d := hlt
      _ ≤ roundHalfEven n₂ d := div_le_roundHalfEven n₂ d
  · -- one quotient: the remainders are ordered as the numerators are, and a tie or a
    -- remainder past the half only moves up with them
    have h₁ := Nat.div_add_mod n₁ d
    have h₂ := Nat.div_add_mod n₂ d
    rw [heq] at h₁
    have hr : n₁ % d ≤ n₂ % d := by omega
    dsimp only [roundHalfEven]
    rw [heq]
    split <;> split <;> omega

/-! ## The encoding of a widened integer -/

namespace BinaryFormat

theorem log2Ratio_one {a : Nat} (ha : a ≠ 0) : log2Ratio a 1 = Nat.log2 a := by
  have h1 : Nat.log2 1 = 0 := by decide
  simp [log2Ratio, h1, Nat.log2_self_le ha]

end BinaryFormat

namespace Binary32

/-- The 24-bit significand of a positive integer `a`: `a` scaled by a power of two to lie
between `2²³` and `2²⁴`, rounded to nearest even when it has more than 24 bits. -/
def widenedSignificand (a : Nat) : Nat :=
  if 23 ≤ a.log2 then roundHalfEven a (2 ^ (a.log2 - 23)) else a * 2 ^ (23 - a.log2)

/-- The magnitude encoding of a positive integer: exponent field `⌊log₂ a⌋ + 127`, less one
for the hidden bit that the significand carries, capped at infinity. -/
theorem encodingOfRatio_one {a : Nat} (ha : a ≠ 0) :
    BinaryFormat.binary32.encodingOfRatio a 1 =
      min ((a.log2 + 126) * 8388608 + widenedSignificand a) 2139095040 := by
  have hq : max BinaryFormat.binary32.minExponent
      (BinaryFormat.log2Ratio a 1 - (BinaryFormat.binary32.precision - 1 : Nat)) =
        a.log2 - 23 := by
    rw [BinaryFormat.log2Ratio_one ha]
    simp only [BinaryFormat.binary32]
    omega
  have hspan : BinaryFormat.binary32.fractionSpan = 8388608 := rfl
  have hinf : BinaryFormat.binary32.infinityEncoding = 2139095040 := rfl
  have hmin : BinaryFormat.binary32.minExponent = -149 := rfl
  rw [BinaryFormat.encodingOfRatio, if_neg (by omega)]
  simp only [hq]
  simp only [hspan, hinf, hmin, widenedSignificand, Nat.pow_eq]
  have he : ((a.log2 : Int) - 23 - -149).toNat = a.log2 + 126 := by omega
  by_cases h : 23 ≤ a.log2
  · -- at least 24 bits: the quotient by the excess power of two is rounded
    have ht : ((a.log2 : Int) - 23).toNat = a.log2 - 23 := by omega
    rw [if_pos (by omega), if_pos h, ht, he, Nat.one_mul]
  · -- fewer bits: scaling up is exact
    have ht : (-((a.log2 : Int) - 23)).toNat = 23 - a.log2 := by omega
    rw [if_neg (by omega), if_neg h, ht, he, roundHalfEven_one]

/-- A significand lies between `2²³` and `2²⁴`; it reaches `2²⁴` only by rounding up. -/
theorem widenedSignificand_bounds {a : Nat} (ha : a ≠ 0) :
    8388608 ≤ widenedSignificand a ∧ widenedSignificand a ≤ 16777216 := by
  have hlo := Nat.log2_self_le ha
  have hhi := Nat.lt_log2_self (n := a)
  unfold widenedSignificand
  split
  · rename_i hL
    have hsplit : 2 ^ (a.log2 + 1) = 2 ^ 24 * 2 ^ (a.log2 - 23) := by
      rw [← Nat.pow_add]; congr 1; omega
    have hsplit' : 2 ^ a.log2 = 2 ^ 23 * 2 ^ (a.log2 - 23) := by
      rw [← Nat.pow_add]; congr 1; omega
    have hpos : 0 < 2 ^ (a.log2 - 23) := Nat.two_pow_pos _
    have hq₁ : 2 ^ 23 ≤ a / 2 ^ (a.log2 - 23) := (Nat.le_div_iff_mul_le hpos).2 (by omega)
    have hq₂ : a / 2 ^ (a.log2 - 23) < 2 ^ 24 := (Nat.div_lt_iff_lt_mul hpos).2 (by omega)
    have := div_le_roundHalfEven a (2 ^ (a.log2 - 23))
    have := roundHalfEven_le_div_add_one a (2 ^ (a.log2 - 23))
    norm_num at hq₁ hq₂ ⊢
    omega
  · rename_i hL
    have hsplit : 2 ^ (a.log2 + 1) * 2 ^ (23 - a.log2) = 2 ^ 24 := by
      rw [← Nat.pow_add]; congr 1; omega
    have hsplit' : 2 ^ a.log2 * 2 ^ (23 - a.log2) = 2 ^ 23 := by
      rw [← Nat.pow_add]; congr 1; omega
    have hpos : 0 < 2 ^ (23 - a.log2) := Nat.two_pow_pos _
    have h₁ : 2 ^ 23 ≤ a * 2 ^ (23 - a.log2) :=
      hsplit' ▸ Nat.mul_le_mul_right _ hlo
    have h₂ : a * 2 ^ (23 - a.log2) < 2 ^ 24 :=
      hsplit ▸ Nat.mul_lt_mul_of_pos_right hhi hpos
    norm_num at h₁ h₂
    omega

/-- Within one binade the significand grows with the integer. -/
theorem widenedSignificand_mono {a b : Nat} (hlog : a.log2 = b.log2) (h : a ≤ b) :
    widenedSignificand a ≤ widenedSignificand b := by
  unfold widenedSignificand
  rw [hlog]
  split
  · exact roundHalfEven_mono _ h
  · exact Nat.mul_le_mul_right _ h

/-- The magnitude encoding of an integer grows with it. -/
theorem encodingOfRatio_one_mono {a b : Nat} (h : a ≤ b) :
    BinaryFormat.binary32.encodingOfRatio a 1 ≤ BinaryFormat.binary32.encodingOfRatio b 1 := by
  rcases Nat.eq_zero_or_pos a with rfl | ha
  · simp [BinaryFormat.encodingOfRatio]
  have hb : b ≠ 0 := by omega
  rw [encodingOfRatio_one (by omega), encodingOfRatio_one hb]
  refine min_le_min_right _ ?_
  have hlog : a.log2 ≤ b.log2 := (Nat.le_log2 hb).2 (Nat.le_trans (Nat.log2_self_le (by omega)) h)
  rcases Nat.lt_or_eq_of_le hlog with hlt | heq
  · -- a higher binade starts above every significand of a lower one
    have := widenedSignificand_bounds (a := a) (by omega)
    have := widenedSignificand_bounds hb
    omega
  · have := widenedSignificand_mono heq h
    omega

/-- The magnitude encoding of a ratio never passes that of infinity. -/
theorem encodingOfRatio_le_infinity (num den : Nat) :
    BinaryFormat.binary32.encodingOfRatio num den ≤ 2139095040 := by
  unfold BinaryFormat.encodingOfRatio
  split
  · omega
  · exact min_le_right _ _

/-! ## Words of a given sign and magnitude -/

section Encoding

variable (negative : Bool) {enc : Nat}

theorem ofEncoding_bits_toNat (h : enc ≤ 2139095040) :
    (ofEncoding negative enc).bits.toNat = (if negative then 2147483648 else 0) + enc := by
  simp only [ofEncoding, Nat.toUInt32_eq, UInt32.toNat_ofNat']
  split <;> omega

theorem negative_ofEncoding (h : enc ≤ 2139095040) :
    (ofEncoding negative enc).negative = negative := by
  simp only [Binary32.negative, ofEncoding_bits_toNat negative h]
  cases negative <;> simp
  omega

theorem magnitude_ofEncoding (h : enc ≤ 2139095040) :
    (ofEncoding negative enc).magnitude = enc := by
  simp only [magnitude, ofEncoding_bits_toNat negative h]
  cases negative <;> simp <;> omega

theorem key_ofEncoding (h : enc ≤ 2139095040) :
    (ofEncoding negative enc).key = if negative then -(enc : Int) else enc := by
  simp only [key, negative_ofEncoding negative h, magnitude_ofEncoding negative h]

/-- A word whose magnitude is at most infinity's is no NaN: the full exponent field leaves no
room for a fraction. -/
theorem isNaN_ofEncoding (h : enc ≤ 2139095040) : (ofEncoding negative enc).isNaN = false := by
  have hbits := ofEncoding_bits_toNat negative h
  simp only [isNaN, exponentField, fractionField, magnitude, hbits]
  cases negative <;> simp <;> omega

end Encoding

/-! ## Widening -/

theorem ofInt_eq (n : Int) :
    ofInt n = ofEncoding (decide (n < 0)) (BinaryFormat.binary32.encodingOfRatio n.natAbs 1) :=
  rfl

/-- No integer widens to a NaN. -/
theorem isNaN_ofInt (n : Int) : (ofInt n).isNaN = false := by
  rw [ofInt_eq]
  exact isNaN_ofEncoding _ (encodingOfRatio_le_infinity _ _)

/-- The place of a widened integer in the numeric order: its magnitude's encoding, negated for
a negative integer. -/
theorem key_ofInt (n : Int) :
    (ofInt n).key =
      if n < 0 then -(BinaryFormat.binary32.encodingOfRatio n.natAbs 1 : Int)
      else BinaryFormat.binary32.encodingOfRatio n.natAbs 1 := by
  rw [ofInt_eq, key_ofEncoding _ (encodingOfRatio_le_infinity _ _)]
  simp

/-- Widening integers to floats is monotone: a larger integer never widens to a smaller
float. -/
theorem key_ofInt_le_key_ofInt {i j : Int} (h : i ≤ j) : (ofInt i).key ≤ (ofInt j).key := by
  rw [key_ofInt, key_ofInt]
  by_cases hi : i < 0 <;> by_cases hj : j < 0 <;> simp only [hi, hj, if_true, if_false]
  · -- both negative: the larger has the smaller magnitude
    have := encodingOfRatio_one_mono (a := j.natAbs) (b := i.natAbs) (by omega)
    omega
  · omega
  · omega
  · have := encodingOfRatio_one_mono (a := i.natAbs) (b := j.natAbs) (by omega)
    omega

end Binary32

end ScriptCore
