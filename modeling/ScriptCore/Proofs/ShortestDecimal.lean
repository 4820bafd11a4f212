import ScriptCore.Decimal.Shortest
import ScriptCore.Proofs.DecimalReading

set_option autoImplicit false

/-! # The shortest decimal reads back

`BinaryFormat.shortest tie enc` is a decimal that reads back as `enc`: rounding its value to
nearest, ties to even, gives `enc` again, for every encoding below infinity's
(`BinaryFormat.encodingOfScaled_shortest`). The printer only ever returns a decimal that lies in
the rounding interval of the magnitude, or the magnitude's exact expansion, and trailing zeros
moved into the exponent leave the value as it is. A decimal in the interval lies between the
midpoints of the magnitude with its two neighbours, which is all that rounding needs
(`BinaryFormat.roundsToNearestEven_of_between`): the encodings on either side stand for
magnitudes farther away, and a decimal at a midpoint is in the interval only when the
significand, and with it the encoding, is even. -/

namespace ScriptCore

/-! ## Decimal values -/

namespace Decimal

/-- The number a decimal stands for. -/
def value (d : Decimal) : ℚ := d.digits * 10 ^ d.exponent

theorem toFraction_div (d : Decimal) : (d.toFraction.1 : ℚ) / d.toFraction.2 = d.value := by
  rw [toFraction, fraction_div, zpow_zero, mul_one, value]

theorem fraction_snd_pos (n : ℕ) (twos tens : ℤ) : 0 < (fraction n twos tens).2 := by
  simp only [fraction, Nat.pow_eq]
  positivity

theorem fractionLe_iff {p q : ℕ × ℕ} (hp : 0 < p.2) (hq : 0 < q.2) :
    fractionLe p q = true ↔ (p.1 : ℚ) / p.2 ≤ q.1 / q.2 := by
  rw [fractionLe, decide_eq_true_iff, div_le_div_iff₀ (by exact_mod_cast hp) (by exact_mod_cast hq)]
  norm_cast

theorem fractionLt_iff {p q : ℕ × ℕ} (hp : 0 < p.2) (hq : 0 < q.2) :
    fractionLt p q = true ↔ (p.1 : ℚ) / p.2 < q.1 / q.2 := by
  rw [fractionLt, decide_eq_true_iff, div_lt_div_iff₀ (by exact_mod_cast hp) (by exact_mod_cast hq)]
  norm_cast

/-- Moving trailing zeros into the exponent keeps the value. -/
theorem value_stripZeros : ∀ (fuel n : ℕ) (e : ℤ), (stripZeros fuel n e).value = n * 10 ^ e
  | 0, _, _ => rfl
  | fuel + 1, n, e => by
    rw [stripZeros]
    split
    · rename_i h
      obtain ⟨k, rfl⟩ : 10 ∣ n := Nat.dvd_of_mod_eq_zero h.2
      rw [value_stripZeros fuel, Nat.mul_div_cancel_left k (by decide),
        zpow_add_one₀ (by norm_num)]
      push_cast
      ring
    · rfl

theorem value_normalize (d : Decimal) : d.normalize.value = d.value :=
  value_stripZeros _ _ _

example : normalize ⟨1200, -1⟩ = ⟨12, 1⟩ := by decide

end Decimal

/-- A decimal lies in an interval when its value lies between the ends, which count when the
interval is closed. -/
theorem RoundingInterval.contains_iff (i : RoundingInterval) (d : Decimal) :
    i.contains d = true ↔
      if i.closed then (i.low : ℚ) * 2 ^ i.unit ≤ d.value ∧ d.value ≤ (i.high : ℚ) * 2 ^ i.unit
      else (i.low : ℚ) * 2 ^ i.unit < d.value ∧ d.value < (i.high : ℚ) * 2 ^ i.unit := by
  have hlo := Decimal.fraction_div i.low i.unit 0
  have hhi := Decimal.fraction_div i.high i.unit 0
  have hd : ((Decimal.fraction d.digits 0 d.exponent).1 : ℚ) /
      (Decimal.fraction d.digits 0 d.exponent).2 = d.value := d.toFraction_div
  rw [zpow_zero, mul_one] at hlo hhi
  unfold contains
  dsimp only
  split <;>
    simp only [Bool.and_eq_true, Decimal.fractionLe_iff (Decimal.fraction_snd_pos _ _ _)
      (Decimal.fraction_snd_pos _ _ _), Decimal.fractionLt_iff (Decimal.fraction_snd_pos _ _ _)
      (Decimal.fraction_snd_pos _ _ _), Decimal.toFraction, hlo, hhi, hd]

/-! ## Between the midpoints -/

namespace BinaryFormat

variable (f : BinaryFormat)

section Between

variable {enc : ℕ} {x : ℚ}

/-- Every other encoding stands for a magnitude at least as far from a rational between the
midpoints of `enc`'s magnitude with its neighbours, and one as far only when the rational is at
a midpoint: on either side, the neighbour is the nearest, and it is beyond the midpoint. -/
theorem nearer_of_between (h0 : 0 < enc) {e : ℕ} (hne : e ≠ enc)
    (hlo : (f.value (enc - 1) + f.value enc) / 2 ≤ x)
    (hhi : x ≤ (f.value enc + f.value (enc + 1)) / 2) :
    |f.value enc - x| ≤ |f.value e - x| ∧
      (|f.value e - x| = |f.value enc - x| →
        x = (f.value (enc - 1) + f.value enc) / 2 ∨ x = (f.value enc + f.value (enc + 1)) / 2) := by
  have hmono := f.value_strictMono
  rcases Nat.lt_or_gt_of_ne hne with hlt | hgt
  · -- below `enc`: no nearer than the neighbour below
    have hv : f.value e ≤ f.value (enc - 1) := hmono.monotone (by omega)
    have ha : f.value (enc - 1) < f.value enc := hmono (by omega)
    rw [abs_of_neg (by linarith : f.value e - x < 0)]
    rcases le_total x (f.value enc) with hx | hx
    · rw [abs_of_nonneg (by linarith : 0 ≤ f.value enc - x)]
      exact ⟨by linarith, fun h => .inl (by linarith)⟩
    · rw [abs_of_nonpos (by linarith : f.value enc - x ≤ 0)]
      exact ⟨by linarith, fun h => by exfalso; linarith⟩
  · -- above `enc`: no nearer than the neighbour above
    have hv : f.value (enc + 1) ≤ f.value e := hmono.monotone (by omega)
    have hb : f.value enc < f.value (enc + 1) := hmono (by omega)
    rw [abs_of_pos (by linarith : 0 < f.value e - x)]
    rcases le_total x (f.value enc) with hx | hx
    · rw [abs_of_nonneg (by linarith : 0 ≤ f.value enc - x)]
      exact ⟨by linarith, fun h => by exfalso; linarith⟩
    · rw [abs_of_nonpos (by linarith : f.value enc - x ≤ 0)]
      exact ⟨by linarith, fun h => .inr (by linarith)⟩

/-- A rational between the midpoints of a positive encoding's magnitude with its two neighbours
is rounded to that encoding, ties to even, when it lies at a midpoint only if the encoding is
even. -/
theorem roundsToNearestEven_of_between (h0 : 0 < enc) (hfin : enc < f.infinityEncoding)
    (hlo : (f.value (enc - 1) + f.value enc) / 2 ≤ x)
    (hhi : x ≤ (f.value enc + f.value (enc + 1)) / 2)
    (hend : x = (f.value (enc - 1) + f.value enc) / 2 ∨
      x = (f.value enc + f.value (enc + 1)) / 2 → enc % 2 = 0) :
    f.RoundsToNearestEven x enc := by
  refine ⟨hfin.le, fun e _ => ?_, fun e _ h => ?_⟩
  · by_cases he : e = enc
    · rw [he]
    · exact (f.nearer_of_between h0 he hlo hhi).1
  · by_cases he : e = enc
    · exact .inl he
    · exact .inr (hend ((f.nearer_of_between h0 he hlo hhi).2 h))

end Between

/-! ## The rounding interval -/

section Interval

variable {f} {r : ℕ}

theorem narrowBelow_of_lt (hr : r < f.fractionSpan) : f.narrowBelow r = false := by
  simp only [narrowBelow, field, Nat.div_eq_of_lt hr, Nat.not_lt_zero, decide_false,
    Bool.and_false]

theorem narrowBelow_succ_mul_add (j : ℕ) (hr : r < f.fractionSpan) :
    f.narrowBelow ((j + 1) * f.fractionSpan + r) = (r == 0 && decide (1 < j + 1)) := by
  rw [narrowBelow, f.significand_succ_mul_add j hr, f.field_succ_mul_add j hr]
  congr 1
  -- the significand is the hidden bit alone exactly when the fraction is zero
  cases r with
  | zero => simp
  | succ r => simp

/-- The step below an encoding: the encoding before it has the same exponent, except below
the hidden bit alone in a binade above the first, where it has the exponent one lower. -/
theorem exponent_pred {enc : ℕ} (h0 : 0 < enc) :
    f.exponent (enc - 1) = if f.narrowBelow enc then f.exponent enc - 1 else f.exponent enc := by
  have hpos := f.fractionSpan_pos
  obtain ⟨j, r, hr, rfl⟩ : ∃ j r, r < f.fractionSpan ∧ enc = j * f.fractionSpan + r :=
    ⟨enc / f.fractionSpan, enc % f.fractionSpan, Nat.mod_lt _ hpos, (Nat.div_add_mod' _ _).symm⟩
  rcases Nat.eq_zero_or_pos r with rfl | hr0
  · -- the first encoding of a field: the step below crosses into the field before
    cases j with
    | zero => simp at h0
    | succ i =>
      cases i with
      | zero =>
        have hprev : (0 + 1) * f.fractionSpan + 0 - 1 < f.fractionSpan := by omega
        rw [f.exponent_of_lt hprev, narrowBelow_succ_mul_add 0 hpos, f.exponent_succ_mul_add 0 hpos]
        simp
      | succ i =>
        have hprev : (i + 1 + 1) * f.fractionSpan + 0 - 1 =
            (i + 1) * f.fractionSpan + (f.fractionSpan - 1) := by
          rw [Nat.add_mul _ 1]
          omega
        rw [hprev, f.exponent_succ_mul_add i (by omega), narrowBelow_succ_mul_add (i + 1) hpos,
          f.exponent_succ_mul_add (i + 1) hpos]
        simp only [beq_self_eq_true, Bool.true_and, decide_eq_true_eq]
        rw [if_pos (by omega)]
        push_cast
        ring
  · -- inside a field: the step below stays in it
    cases j with
    | zero =>
      rw [zero_mul, zero_add] at h0 ⊢
      rw [f.exponent_of_lt (by omega), narrowBelow_of_lt hr, f.exponent_of_lt hr]
      rfl
    | succ i =>
      have hprev : (i + 1) * f.fractionSpan + r - 1 = (i + 1) * f.fractionSpan + (r - 1) := by
        omega
      rw [hprev, f.exponent_succ_mul_add i (by omega), narrowBelow_succ_mul_add i hr,
        f.exponent_succ_mul_add i hr]
      have hne : (r == 0) = false := by simpa using hr0.ne'
      rw [hne, Bool.false_and]
      rfl

theorem significand_pos {enc : ℕ} (h0 : 0 < enc) : 0 < f.significand enc := by
  have hdiv := Nat.div_add_mod enc f.fractionSpan
  have hpos := f.fractionSpan_pos
  unfold significand
  split
  · rename_i hfield
    unfold field at hfield
    rw [hfield, Nat.mul_zero, Nat.zero_add] at hdiv
    omega
  · omega

/-- With a field of even span, an encoding is as even as its significand. -/
theorem mod_two_eq_significand (hp : 2 ≤ f.precision) (enc : ℕ) :
    enc % 2 = f.significand enc % 2 := by
  have hdiv := Nat.div_add_mod enc f.fractionSpan
  have hspan := f.two_dvd_fractionSpan hp
  have hmul : 2 ∣ f.fractionSpan * (enc / f.fractionSpan) := Dvd.dvd.mul_right hspan _
  unfold significand
  split <;> omega

/-- The upper end of the interval is the midpoint with the next magnitude. -/
theorem interval_high (enc : ℕ) :
    ((f.interval enc).high : ℚ) * 2 ^ (f.interval enc).unit =
      (f.value enc + f.value (enc + 1)) / 2 := by
  rw [f.value_succ, value]
  simp only [interval]
  push_cast
  rw [zpow_sub₀ two_ne_zero]
  ring

/-- The lower end of the interval is the midpoint with the magnitude before, a step half as
wide below the hidden bit alone. -/
theorem interval_low {enc : ℕ} (h0 : 0 < enc) :
    ((f.interval enc).low : ℚ) * 2 ^ (f.interval enc).unit =
      (f.value (enc - 1) + f.value enc) / 2 := by
  have hm := f.significand_pos h0
  have hstep := f.value_succ (enc - 1)
  rw [Nat.sub_add_cancel h0, f.exponent_pred h0] at hstep
  have hval : f.value enc = f.significand enc * 2 ^ f.exponent enc := rfl
  have hq1 : (2 : ℚ) ^ (f.exponent enc - 1) = 2 ^ f.exponent enc / 2 := by
    rw [zpow_sub₀ two_ne_zero, zpow_one]
  have hq2 : (2 : ℚ) ^ (f.exponent enc - 2) = 2 ^ f.exponent enc / 4 := by
    rw [zpow_sub₀ two_ne_zero]
    norm_num
  by_cases hn : f.narrowBelow enc = true
  · rw [if_pos hn, hq1] at hstep
    simp only [interval, hn, if_true]
    rw [Nat.cast_sub (by omega), hq2]
    push_cast
    linarith
  · rw [if_neg hn] at hstep
    simp only [interval, hn, Bool.false_eq_true, if_false]
    rw [Nat.cast_sub (by omega), hq2]
    push_cast
    linarith

/-- A decimal in the rounding interval of a positive encoding below infinity's reads back as
that encoding. -/
theorem roundsToNearestEven_of_contains (hp : 2 ≤ f.precision) {enc : ℕ} (h0 : 0 < enc)
    (hfin : enc < f.infinityEncoding) {d : Decimal}
    (h : (f.interval enc).contains d = true) : f.RoundsToNearestEven d.value enc := by
  rw [RoundingInterval.contains_iff, f.interval_low h0, f.interval_high] at h
  by_cases hc : (f.interval enc).closed = true
  · -- closed at both ends: the significand is even, and so is the encoding
    rw [if_pos hc] at h
    refine f.roundsToNearestEven_of_between h0 hfin h.1 h.2 fun _ => ?_
    rw [f.mod_two_eq_significand hp]
    simpa [interval] using hc
  · -- open at both ends: no midpoint is in it
    rw [if_neg hc] at h
    refine f.roundsToNearestEven_of_between h0 hfin h.1.le h.2.le fun hend => ?_
    exfalso
    rcases hend with he | he
    · exact absurd he (ne_of_gt h.1)
    · exact absurd he (ne_of_lt h.2)

/-- The exact expansion of a magnitude stands for the magnitude. -/
theorem value_exactDecimal (enc : ℕ) : (f.exactDecimal enc).value = f.value enc := by
  have hval : f.value enc = f.significand enc * 2 ^ f.exponent enc := rfl
  unfold exactDecimal
  dsimp only
  split
  · rename_i hq
    rw [Decimal.value, zpow_zero, mul_one, Nat.cast_mul, natPow_toNat_cast hq, hval]
  · rename_i hq
    -- `2 ^ q = 5 ^ -q · 10 ^ q`
    have h5 : ((Nat.pow 5 (-f.exponent enc).toNat : ℕ) : ℚ) = 5 ^ (-f.exponent enc) := by
      rw [Nat.pow_eq, Nat.cast_pow, Nat.cast_ofNat, ← zpow_natCast,
        Int.toNat_of_nonneg (by omega)]
    rw [Decimal.value, Nat.cast_mul, h5, hval, show (10 : ℚ) = 2 * 5 by norm_num, mul_zpow,
      zpow_neg]
    field_simp

/-- The magnitude itself lies inside its rounding interval, away from the ends. -/
theorem contains_exactDecimal {enc : ℕ} (h0 : 0 < enc) :
    (f.interval enc).contains (f.exactDecimal enc) = true := by
  have hbelow : f.value (enc - 1) < f.value enc := f.value_strictMono (by omega)
  have habove : f.value enc < f.value (enc + 1) := f.value_strictMono (by omega)
  rw [RoundingInterval.contains_iff, f.interval_low h0, f.interval_high, f.value_exactDecimal]
  split
  · constructor <;> linarith
  · constructor <;> linarith

/-- A grid point the search returns lies in the interval: it is a neighbour on the grid that
was tested to lie there. -/
theorem contains_of_gridPoint {tie : Tie} {enc : ℕ} {e : ℤ} {d : Decimal}
    (h : f.gridPoint tie enc e = some d) : (f.interval enc).contains d = true := by
  unfold gridPoint at h
  dsimp only at h
  split at h
  · -- both neighbours lie in the interval; splitting on the choice may also settle whether the
    -- upper neighbour is the lower one, which `hup` then has to be told
    rename_i hdown hup
    split_ifs at h <;> cases h <;> simp_all
  · rename_i hdown hup
    cases h
    assumption
  · rename_i hdown hup
    cases h
    assumption
  · cases h

/-- The first grid with a point in the interval gives a point in the interval. -/
theorem contains_of_firstGridPoint {tie : Tie} {enc : ℕ} {d : Decimal} :
    ∀ (count : ℕ) (e : ℤ), f.firstGridPoint tie enc count e = some d →
      (f.interval enc).contains d = true
  | 0, _, h => by cases h
  | count + 1, e, h => by
    rw [firstGridPoint] at h
    split at h
    · rename_i d' hd'
      cases h
      exact contains_of_gridPoint hd'
    · exact contains_of_firstGridPoint count (e - 1) h

/-- The shortest decimal of an encoding below infinity's is rounded back to it. -/
theorem shortest_roundsToNearestEven (hp : 2 ≤ f.precision) (tie : Tie) {enc : ℕ}
    (hfin : enc < f.infinityEncoding) : f.RoundsToNearestEven (f.shortest tie enc).value enc := by
  unfold shortest
  split
  · -- only encoding zero has a zero significand
    rename_i hzero
    have henc : enc = 0 := by
      by_contra hne
      exact absurd hzero (f.significand_pos (Nat.pos_of_ne_zero hne)).ne'
    subst henc
    simpa [Decimal.value] using f.roundsToNearestEven_zero
  · rename_i hne
    have h0 : 0 < enc := by
      rcases Nat.eq_zero_or_pos enc with rfl | h
      · exact absurd (f.significand_of_lt f.fractionSpan_pos) hne
      · exact h
    dsimp only
    rw [Decimal.value_normalize]
    refine f.roundsToNearestEven_of_contains hp h0 hfin ?_
    -- a point found on a grid, or else the exact expansion
    cases hfirst : f.firstGridPoint tie enc 17
        (Decimal.log10Ratio (f.magnitudeFraction enc).1 (f.magnitudeFraction enc).2) with
    | none => exact f.contains_exactDecimal h0
    | some d => exact f.contains_of_firstGridPoint 17 _ hfirst

end Interval

/-- The shortest decimal of an encoding below infinity's reads back as that encoding. -/
theorem encodingOfScaled_shortest {f : BinaryFormat} (hf : f.WellFormed) (tie : Tie) {enc : ℕ}
    (hfin : enc < f.infinityEncoding) :
    f.encodingOfScaled (f.shortest tie enc).digits (f.shortest tie enc).exponent = enc :=
  (f.encodingOfScaled_roundsToNearestEven hf _ _).unique
    (f.shortest_roundsToNearestEven hf.two_le_precision tie hfin)

example : binary64.shortest .even 0x3FB999999999999A = ⟨1, -1⟩ := by decide +kernel

-- `1629540211994130.25` lies halfway between the two nearest decimals of 17 digits
example : binary64.shortest .even 0x4317283B95EEB849 = ⟨16295402119941302, -1⟩ ∧
    binary64.shortest .up 0x4317283B95EEB849 = ⟨16295402119941303, -1⟩ := by
  decide +kernel

end BinaryFormat

end ScriptCore
