import ScriptCore.Proofs.Widening

set_option autoImplicit false

/-! # Rounding an exact ratio to a binary format is correct

`BinaryFormat.encodingOfRatio num den` is the encoding of the magnitude nearest to
`num / den`, a tie going to the even encoding, among the finite magnitudes of the format and the
power of two that stands at infinity's place: the value of an encoding is read by the same
formula for every encoding up to infinity's, so that a ratio at or beyond the midpoint between
the largest finite magnitude and that power of two rounds to infinity, as IEEE 754 says
(`BinaryFormat.RoundsToNearestEven`, `BinaryFormat.encodingOfRatio_roundsToNearestEven`). No
two encodings round one ratio this way (`BinaryFormat.RoundsToNearestEven.unique`), so an
encoding that does is the one the algorithm computes.

The proof follows the algorithm. With `L = ⌊log₂ (num / den)⌋` the exponent is
`q = max minExponent (L - (precision - 1))` and the significand `m` the natural nearest to
`num / den / 2 ^ q`, a tie going to the even one. Every encoding stands either for a multiple of
`2 ^ q`, against which `m · 2 ^ q` is nearest because `m` is the nearest natural, or, when `q`
is above the least exponent, for a magnitude below `2 ^ (precision - 1) · 2 ^ q`, which is the
bottom of the binade of `num / den`, and so farther than the multiple `2 ^ (precision - 1)` of
`2 ^ q` is. -/

namespace ScriptCore

/-! ## Rounding a quotient to the nearest natural -/

section NearestNatural

variable {n d : ℕ}

/-- The distance of `a · d` from `n`, which is `d` times the distance of `a` from `n / d`. -/
def scaledDistance (n d a : ℕ) : ℕ := a * d - n + (n - a * d)

/-- `roundHalfEven` takes the quotient up past half a remainder, and at half of one when the
quotient is odd; otherwise it keeps the quotient. -/
theorem roundHalfEven_cases (n d : ℕ) :
    (roundHalfEven n d = n / d + 1 ∧ (d < 2 * (n % d) ∨ 2 * (n % d) = d ∧ n / d % 2 = 1)) ∨
      (roundHalfEven n d = n / d ∧ 2 * (n % d) ≤ d ∧ (2 * (n % d) = d → n / d % 2 = 0)) := by
  unfold roundHalfEven
  dsimp only
  split
  · rename_i hup
    exact .inl ⟨rfl, hup⟩
  · rename_i hdown
    exact .inr ⟨rfl, by omega, by omega⟩

/-- No natural is nearer to `n / d` than the one `roundHalfEven` gives. -/
theorem scaledDistance_roundHalfEven_le (hd : 0 < d) (k : ℕ) :
    scaledDistance n d (roundHalfEven n d) ≤ scaledDistance n d k := by
  have hn := Nat.div_add_mod' n d
  have hr := Nat.mod_lt n hd
  -- `k` is at most the quotient, or above it by a whole `d`
  have hk : k * d ≤ n / d * d ∨ n / d * d + d ≤ k * d := by
    rcases Nat.lt_or_ge k (n / d + 1) with h | h
    · exact .inl (Nat.mul_le_mul_right d (by omega))
    · exact .inr (by simpa [Nat.add_mul] using Nat.mul_le_mul_right d h)
  unfold scaledDistance
  rcases roundHalfEven_cases n d with ⟨hround, hup⟩ | ⟨hround, hdown⟩
  · rw [hround, Nat.add_mul, one_mul]
    omega
  · rw [hround]
    omega

/-- A natural other than `roundHalfEven n d` as near to `n / d` as it is a tie, which
`roundHalfEven` breaks to the even natural. -/
theorem roundHalfEven_even_of_tie (hd : 0 < d) {k : ℕ} (hk : k ≠ roundHalfEven n d)
    (h : scaledDistance n d k = scaledDistance n d (roundHalfEven n d)) :
    roundHalfEven n d % 2 = 0 := by
  have hn := Nat.div_add_mod' n d
  have hr := Nat.mod_lt n hd
  -- `k` is the quotient, the natural above it, or a whole `d` farther away than both
  have hfar : k * d + d ≤ n / d * d ∨ k = n / d ∨ k = n / d + 1 ∨ n / d * d + 2 * d ≤ k * d := by
    rcases (by omega : k + 1 ≤ n / d ∨ k = n / d ∨ k = n / d + 1 ∨ n / d + 2 ≤ k) with
      h1 | h2 | h3 | h4
    · have := Nat.mul_le_mul_right d h1
      rw [Nat.add_mul, one_mul] at this
      exact .inl this
    · exact .inr (.inl h2)
    · exact .inr (.inr (.inl h3))
    · have := Nat.mul_le_mul_right d h4
      rw [Nat.add_mul] at this
      exact .inr (.inr (.inr this))
  unfold scaledDistance at h
  rcases roundHalfEven_cases n d with ⟨hround, hup⟩ | ⟨hround, hdown⟩
  · -- taken up: only the quotient ties, at half a remainder with the quotient odd
    rw [hround] at hk h ⊢
    rw [Nat.add_mul, one_mul] at h
    rcases hfar with h1 | rfl | rfl | h4 <;> omega
  · -- kept: only the natural above ties, at half a remainder with the quotient even
    rw [hround] at hk h ⊢
    rcases hfar with h1 | rfl | rfl | h4 <;> (try rw [Nat.add_mul, one_mul] at h) <;> omega

/-- The distance of naturals as a rational. -/
theorem abs_natCast_sub (a b : ℕ) : |(a : ℚ) - b| = ((a - b + (b - a) : ℕ) : ℚ) := by
  rcases le_total a b with h | h
  · rw [Nat.sub_eq_zero_of_le h, zero_add, Nat.cast_sub h, abs_sub_comm,
      abs_of_nonneg (sub_nonneg.2 (Nat.cast_le.2 h))]
  · rw [Nat.sub_eq_zero_of_le h, add_zero, Nat.cast_sub h,
      abs_of_nonneg (sub_nonneg.2 (Nat.cast_le.2 h))]

theorem abs_sub_div_eq (hd : 0 < d) (a : ℕ) :
    |(a : ℚ) - n / d| = (scaledDistance n d a : ℚ) / d := by
  have hd' : (0 : ℚ) < d := Nat.cast_pos.2 hd
  rw [scaledDistance, ← abs_natCast_sub, Nat.cast_mul, eq_div_iff hd'.ne', ← abs_of_pos hd',
    ← abs_mul, abs_of_pos hd', sub_mul, div_mul_cancel₀ _ hd'.ne']

/-- `m` is a natural nearest to `y`, and of two that are, the even one. -/
structure NearestNatural (y : ℚ) (m : ℕ) : Prop where
  nearest : ∀ k : ℕ, |(m : ℚ) - y| ≤ |(k : ℚ) - y|
  even : ∀ k : ℕ, |(k : ℚ) - y| = |(m : ℚ) - y| → k = m ∨ m % 2 = 0

/-- `roundHalfEven n d` is the natural nearest to `n / d`, a tie going to the even one. -/
theorem roundHalfEven_nearestNatural (hd : 0 < d) :
    NearestNatural ((n : ℚ) / d) (roundHalfEven n d) := by
  refine ⟨fun k => ?_, fun k h => ?_⟩
  · rw [abs_sub_div_eq hd, abs_sub_div_eq hd]
    exact div_le_div_of_nonneg_right (Nat.cast_le.2 (scaledDistance_roundHalfEven_le hd k))
      (Nat.cast_nonneg _)
  · rw [abs_sub_div_eq hd, abs_sub_div_eq hd,
      div_left_inj' (Nat.cast_ne_zero.2 hd.ne'), Nat.cast_inj] at h
    by_cases hk : k = roundHalfEven n d
    · exact .inl hk
    · exact .inr (roundHalfEven_even_of_tie hd hk h)

example : roundHalfEven 5 2 = 2 ∧ roundHalfEven 7 2 = 4 ∧ roundHalfEven 8 3 = 3 := by decide

namespace NearestNatural

variable {y : ℚ} {m : ℕ}

/-- A nearest natural to a number below a natural `b` is at most `b`. -/
theorem le_of_lt (h : NearestNatural y m) {b : ℕ} (hy : y < b) : m ≤ b := by
  by_contra hm
  have hlt : (b : ℚ) < m := Nat.cast_lt.2 (Nat.lt_of_not_le hm)
  have := h.nearest b
  rw [abs_of_pos (by linarith), abs_of_pos (by linarith)] at this
  linarith

/-- A nearest natural to a number at or above a natural `b` is at least `b`. -/
theorem ge_of_le (h : NearestNatural y m) {b : ℕ} (hy : (b : ℚ) ≤ y) : b ≤ m := by
  by_contra hm
  have hlt : (m : ℚ) < b := Nat.cast_lt.2 (Nat.lt_of_not_le hm)
  have := h.nearest b
  rw [abs_of_neg (by linarith), abs_of_nonpos (by linarith)] at this
  linarith

end NearestNatural

end NearestNatural

/-! ## The binary order of magnitude of a ratio -/

namespace BinaryFormat

section Log2

variable {n d : ℕ}

/-- A power of two with a natural exponent, as the code builds it, in the rationals. -/
theorem natPow_toNat_cast {k : ℤ} (hk : 0 ≤ k) : ((Nat.pow 2 k.toNat : ℕ) : ℚ) = 2 ^ k := by
  rw [Nat.pow_eq, Nat.cast_pow, Nat.cast_ofNat, ← zpow_natCast, Int.toNat_of_nonneg hk]

/-- The test `log2Ratio` makes, read in the rationals: whether `d · 2 ^ k ≤ n`, where `k` is
the difference of the bit lengths. -/
theorem log2Ratio_eq_ite (n d : ℕ) :
    log2Ratio n d = if (d : ℚ) * 2 ^ ((Nat.log2 n : ℤ) - Nat.log2 d) ≤ n
      then (Nat.log2 n : ℤ) - Nat.log2 d else (Nat.log2 n : ℤ) - Nat.log2 d - 1 := by
  unfold log2Ratio
  dsimp only
  generalize (Nat.log2 n : ℤ) - Nat.log2 d = k
  split
  · rename_i hk
    refine if_congr ?_ rfl rfl
    rw [← natPow_toNat_cast hk, ← Nat.cast_mul, Nat.cast_le]
  · rename_i hk
    -- a negative power: the code multiplies the test through by `2 ^ -k`
    refine if_congr ?_ rfl rfl
    have hpos : (0 : ℚ) < 2 ^ k := by positivity
    rw [← Nat.cast_le (α := ℚ), Nat.cast_mul, natPow_toNat_cast (by omega), zpow_neg,
      ← div_eq_mul_inv, le_div_iff₀ hpos]

/-- `2 ^ log2Ratio n d ≤ n / d < 2 ^ (log2Ratio n d + 1)` for positive `n` and `d`. -/
theorem log2Ratio_bounds (hn : 0 < n) (hd : 0 < d) :
    (2 : ℚ) ^ log2Ratio n d ≤ n / d ∧ (n : ℚ) / d < 2 ^ (log2Ratio n d + 1) := by
  rw [log2Ratio_eq_ite]
  set a := Nat.log2 n
  set b := Nat.log2 d
  have hd' : (0 : ℚ) < d := Nat.cast_pos.2 hd
  -- the bit lengths bound `n` and `d` by powers of two
  have ha : (2 : ℚ) ^ (a : ℤ) ≤ n ∧ (n : ℚ) < 2 ^ ((a : ℤ) + 1) := by
    refine ⟨?_, ?_⟩
    · exact_mod_cast Nat.log2_self_le hn.ne'
    · exact_mod_cast Nat.lt_log2_self
  have hb : (2 : ℚ) ^ (b : ℤ) ≤ d ∧ (d : ℚ) < 2 ^ ((b : ℤ) + 1) := by
    refine ⟨?_, ?_⟩
    · exact_mod_cast Nat.log2_self_le hd.ne'
    · exact_mod_cast Nat.lt_log2_self
  have hsplit : ∀ j : ℤ, (2 : ℚ) ^ (j + (b : ℤ)) = 2 ^ j * 2 ^ (b : ℤ) := fun j =>
    zpow_add₀ two_ne_zero j b
  rw [le_div_iff₀ hd', div_lt_iff₀ hd']
  split
  · rename_i htest
    refine ⟨by linarith, ?_⟩
    -- `n < 2 ^ (a + 1) = 2 ^ (k + 1) · 2 ^ b ≤ 2 ^ (k + 1) · d`
    have h1 := hsplit ((a : ℤ) - b + 1)
    rw [show (a : ℤ) - b + 1 + b = a + 1 by ring] at h1
    have h2 : (2 : ℚ) ^ ((a : ℤ) - b + 1) * 2 ^ (b : ℤ) ≤ 2 ^ ((a : ℤ) - b + 1) * d :=
      mul_le_mul_of_nonneg_left hb.1 (by positivity)
    linarith [ha.2]
  · rename_i htest
    rw [sub_add_cancel]
    refine ⟨?_, by linarith⟩
    -- `2 ^ (k - 1) · d < 2 ^ (k - 1) · 2 ^ (b + 1) = 2 ^ a ≤ n`
    have h1 := hsplit ((a : ℤ) - b - 1 + 1)
    rw [show (a : ℤ) - b - 1 + 1 + b = a by ring] at h1
    have h2 : (2 : ℚ) ^ ((a : ℤ) - b - 1) * d < 2 ^ ((a : ℤ) - b - 1) * 2 ^ ((b : ℤ) + 1) :=
      mul_lt_mul_of_pos_left hb.2 (by positivity)
    have h3 : (2 : ℚ) ^ ((a : ℤ) - b - 1) * 2 ^ ((b : ℤ) + 1) = 2 ^ (a : ℤ) := by
      rw [← zpow_add₀ two_ne_zero]
      ring_nf
    linarith [ha.1]

end Log2

/-! ## The magnitude of an encoding -/

section Encoding

variable (f : BinaryFormat) {r : ℕ}

/-- The magnitude an encoding stands for, `significand · 2 ^ exponent`. At the encoding of
infinity the formula gives the power of two just past the largest finite magnitude, where
IEEE 754 puts the threshold of overflow. -/
def value (enc : ℕ) : ℚ := f.significand enc * 2 ^ f.exponent enc

theorem fractionSpan_pos : 0 < f.fractionSpan := by
  rw [fractionSpan, Nat.pow_eq]
  exact Nat.two_pow_pos _

theorem fractionSpan_cast : (f.fractionSpan : ℚ) = 2 ^ ((f.precision - 1 : ℕ) : ℤ) := by
  rw [fractionSpan, Nat.pow_eq, Nat.cast_pow, Nat.cast_ofNat, zpow_natCast]

theorem two_dvd_fractionSpan (hp : 2 ≤ f.precision) : 2 ∣ f.fractionSpan := by
  rw [fractionSpan, Nat.pow_eq]
  exact dvd_pow_self 2 (by omega)

theorem two_zpow_succ_add (a b : ℤ) : (2 : ℚ) ^ (a + 1 + b) = 2 * 2 ^ (a + b) := by
  rw [add_right_comm, zpow_add_one₀ two_ne_zero, mul_comm]

theorem significand_lt (enc : ℕ) : f.significand enc < 2 * f.fractionSpan := by
  have := Nat.mod_lt enc f.fractionSpan_pos
  unfold significand
  split <;> omega

theorem minExponent_le_exponent (enc : ℕ) : f.minExponent ≤ f.exponent enc := by
  unfold exponent
  split <;> omega

theorem field_succ_mul_add (j : ℕ) (hr : r < f.fractionSpan) :
    f.field ((j + 1) * f.fractionSpan + r) = j + 1 := by
  rw [field, Nat.add_comm, Nat.add_mul_div_right _ _ f.fractionSpan_pos, Nat.div_eq_of_lt hr,
    zero_add]

theorem significand_of_lt (hr : r < f.fractionSpan) : f.significand r = r := by
  simp only [significand, field, Nat.div_eq_of_lt hr, if_true, Nat.mod_eq_of_lt hr]

theorem exponent_of_lt (hr : r < f.fractionSpan) : f.exponent r = f.minExponent := by
  simp only [exponent, field, Nat.div_eq_of_lt hr, if_true]

theorem significand_succ_mul_add (j : ℕ) (hr : r < f.fractionSpan) :
    f.significand ((j + 1) * f.fractionSpan + r) = r + f.fractionSpan := by
  rw [significand, f.field_succ_mul_add j hr, if_neg (Nat.succ_ne_zero j), Nat.add_comm _ r,
    Nat.add_mul_mod_self_right, Nat.mod_eq_of_lt hr]

theorem exponent_succ_mul_add (j : ℕ) (hr : r < f.fractionSpan) :
    f.exponent ((j + 1) * f.fractionSpan + r) = j + f.minExponent := by
  rw [exponent, f.field_succ_mul_add j hr, if_neg (Nat.succ_ne_zero j)]
  push_cast
  ring

/-- The encodings of field zero, the subnormals, count the least unit. -/
theorem value_of_lt (hr : r < f.fractionSpan) : f.value r = r * 2 ^ f.minExponent := by
  rw [value, f.significand_of_lt hr, f.exponent_of_lt hr]

/-- The encodings of field `j + 1` count the unit `2 ^ (j + minExponent)` from
`2 ^ (precision - 1)` on. -/
theorem value_succ_mul_add (j : ℕ) (hr : r < f.fractionSpan) :
    f.value ((j + 1) * f.fractionSpan + r) =
      ((r + f.fractionSpan : ℕ) : ℚ) * 2 ^ ((j : ℤ) + f.minExponent) := by
  rw [value, f.significand_succ_mul_add j hr, f.exponent_succ_mul_add j hr]

/-- The next encoding stands for the next magnitude, one unit of the encoding up: within a
field the significand counts up, and from the last significand of a field the next field
starts at the hidden bit, a unit twice as large. -/
theorem value_succ (enc : ℕ) : f.value (enc + 1) = f.value enc + 2 ^ f.exponent enc := by
  have hpos := f.fractionSpan_pos
  obtain ⟨j, r, hr, rfl⟩ : ∃ j r, r < f.fractionSpan ∧ enc = j * f.fractionSpan + r :=
    ⟨enc / f.fractionSpan, enc % f.fractionSpan, Nat.mod_lt _ hpos, (Nat.div_add_mod' _ _).symm⟩
  rcases Nat.lt_or_ge (r + 1) f.fractionSpan with hin | hlast
  · -- within the field
    cases j with
    | zero =>
      simp only [zero_mul, zero_add] at hin ⊢
      rw [f.value_of_lt hin, f.value_of_lt hr, f.exponent_of_lt hr]
      push_cast
      ring
    | succ i =>
      rw [Nat.add_assoc, f.value_succ_mul_add i hin, f.value_succ_mul_add i hr,
        f.exponent_succ_mul_add i hr]
      push_cast
      ring
  · -- the last significand of the field: the next field starts
    have hr1 : r + 1 = f.fractionSpan := by omega
    have hnext : j * f.fractionSpan + r + 1 = (j + 1) * f.fractionSpan + 0 := by
      rw [Nat.add_mul]
      omega
    cases j with
    | zero =>
      simp only [zero_mul, zero_add] at hnext ⊢
      rw [hnext, f.value_succ_mul_add 0 hpos, f.value_of_lt hr, f.exponent_of_lt hr, ← hr1]
      simp only [Nat.cast_zero, zero_add]
      push_cast
      ring
    | succ i =>
      rw [hnext, f.value_succ_mul_add (i + 1) hpos, f.value_succ_mul_add i hr,
        f.exponent_succ_mul_add i hr, ← hr1]
      push_cast
      rw [two_zpow_succ_add]
      ring

theorem value_strictMono : StrictMono f.value :=
  strictMono_nat_of_lt_succ fun enc => by
    rw [f.value_succ]
    have : (0 : ℚ) < 2 ^ f.exponent enc := by positivity
    linarith

theorem value_injective : Function.Injective f.value := f.value_strictMono.injective

/-- The encoding built from an exponent `q` and a significand `m`, as `encodingOfRatio` builds
it, stands for `m · 2 ^ q`, when `m` is at most `2 ^ precision` and is normal unless `q` is the
least exponent. A significand of `2 ^ precision` carries into the next field. -/
theorem value_scaled_add {q : ℤ} {m : ℕ} (hq : f.minExponent ≤ q) (hm : m ≤ 2 * f.fractionSpan)
    (hnormal : q = f.minExponent ∨ f.fractionSpan ≤ m) :
    f.value ((q - f.minExponent).toNat * f.fractionSpan + m) = m * 2 ^ q := by
  obtain ⟨t, ht⟩ : ∃ t : ℕ, q = t + f.minExponent := ⟨(q - f.minExponent).toNat, by omega⟩
  have htoNat : (q - f.minExponent).toNat = t := by omega
  rw [htoNat, ht]
  rcases Nat.lt_or_ge m f.fractionSpan with hsub | hnorm
  · -- a subnormal significand, at the least exponent
    have ht0 : t = 0 := by rcases hnormal with h | h <;> omega
    subst ht0
    rw [zero_mul, zero_add, f.value_of_lt hsub, Nat.cast_zero, zero_add]
  rcases Nat.lt_or_ge m (2 * f.fractionSpan) with hlt | hcarry
  · -- a normal significand, in field `t + 1`
    have henc : t * f.fractionSpan + m = (t + 1) * f.fractionSpan + (m - f.fractionSpan) := by
      rw [Nat.add_mul]
      omega
    rw [henc, f.value_succ_mul_add t (by omega), Nat.sub_add_cancel hnorm]
  · -- the carry: the hidden bit alone, in field `t + 2`
    have hm2 : m = 2 * f.fractionSpan := le_antisymm hm hcarry
    have henc : t * f.fractionSpan + m = (t + 1 + 1) * f.fractionSpan + 0 := by
      rw [hm2]
      ring
    rw [henc, f.value_succ_mul_add (t + 1) f.fractionSpan_pos, hm2]
    push_cast
    rw [two_zpow_succ_add]
    ring

/-- Against any exponent `q`, every encoding stands for a multiple of `2 ^ q`, or else lies
below `2 ^ (precision - 1) · 2 ^ q`, the bottom of the binade whose unit is `2 ^ q`, which then
starts above the subnormals. -/
theorem value_multiple_or_below (enc : ℕ) (q : ℤ) :
    (∃ k : ℕ, f.value enc = k * 2 ^ q) ∨
      (f.minExponent < q ∧ f.value enc < f.fractionSpan * 2 ^ q) := by
  rcases le_or_gt q (f.exponent enc) with hle | hlt
  · -- the unit of `enc` is a multiple of `2 ^ q`
    left
    refine ⟨f.significand enc * 2 ^ (f.exponent enc - q).toNat, ?_⟩
    rw [value, Nat.cast_mul, Nat.cast_pow, Nat.cast_ofNat, mul_assoc, ← zpow_natCast,
      ← zpow_add₀ two_ne_zero, Int.toNat_of_nonneg (by omega), sub_add_cancel]
  · right
    refine ⟨lt_of_le_of_lt (f.minExponent_le_exponent enc) hlt, ?_⟩
    -- a significand below `2 ^ precision`, at an exponent below `q`
    have hsig : (f.significand enc : ℚ) < 2 * f.fractionSpan := by
      exact_mod_cast f.significand_lt enc
    have hpow : (2 : ℚ) ^ f.exponent enc ≤ 2 ^ (q - 1) :=
      zpow_le_zpow_right₀ one_le_two (by omega)
    calc f.value enc = f.significand enc * 2 ^ f.exponent enc := rfl
      _ < 2 * f.fractionSpan * 2 ^ f.exponent enc := mul_lt_mul_of_pos_right hsig (by positivity)
      _ ≤ 2 * f.fractionSpan * 2 ^ (q - 1) := mul_le_mul_of_nonneg_left hpow (by positivity)
      _ = f.fractionSpan * 2 ^ q := by
        rw [zpow_sub_one₀ two_ne_zero]
        ring

end Encoding

/-! ## Rounding to nearest, ties to even -/

/-- `enc` rounds `x` to nearest, ties to even, in the format: among the encodings up to
infinity's, none stands for a magnitude nearer to `x`, and one as near is `enc` itself unless
`enc` is even. -/
structure RoundsToNearestEven (f : BinaryFormat) (x : ℚ) (enc : ℕ) : Prop where
  le_infinity : enc ≤ f.infinityEncoding
  nearest : ∀ e ≤ f.infinityEncoding, |f.value enc - x| ≤ |f.value e - x|
  even : ∀ e ≤ f.infinityEncoding, |f.value e - x| = |f.value enc - x| → e = enc ∨ enc % 2 = 0

section Nearest

variable (f : BinaryFormat)

/-- Between two encodings as near to `x` as each other lies one that is nearer than both. -/
theorem abs_value_succ_lt {x : ℚ} {a b : ℕ} (hab : a + 1 < b)
    (h : |f.value a - x| = |f.value b - x|) : |f.value (a + 1) - x| < |f.value a - x| := by
  have h1 : f.value a < f.value (a + 1) := f.value_strictMono (Nat.lt_succ_self a)
  have h2 : f.value (a + 1) < f.value b := f.value_strictMono hab
  rcases abs_eq_abs.1 h with h | h
  · linarith
  · -- `x` is the midpoint of the two magnitudes
    rw [abs_of_neg (by linarith : f.value a - x < 0), abs_sub_lt_iff]
    constructor <;> linarith

/-- No two encodings round one rational to nearest, ties to even. -/
theorem RoundsToNearestEven.unique {f : BinaryFormat} {x : ℚ} {a b : ℕ}
    (ha : f.RoundsToNearestEven x a) (hb : f.RoundsToNearestEven x b) : a = b := by
  have hdist : |f.value a - x| = |f.value b - x| :=
    le_antisymm (ha.nearest b hb.le_infinity) (hb.nearest a ha.le_infinity)
  by_contra hne
  -- two nearest encodings that differ are both even, so neither follows the other
  have haeven : a % 2 = 0 := (ha.even b hb.le_infinity hdist.symm).resolve_left (Ne.symm hne)
  have hbeven : b % 2 = 0 := (hb.even a ha.le_infinity hdist).resolve_left hne
  rcases (by omega : a + 1 < b ∨ b + 1 < a) with hab | hba
  · exact absurd (ha.nearest (a + 1) (by have := hb.le_infinity; omega))
      (not_le.2 (f.abs_value_succ_lt hab hdist))
  · exact absurd (hb.nearest (b + 1) (by have := ha.le_infinity; omega))
      (not_le.2 (f.abs_value_succ_lt hba hdist.symm))

theorem value_zero : f.value 0 = 0 := by
  rw [f.value_of_lt f.fractionSpan_pos, Nat.cast_zero, zero_mul]

/-- The least positive magnitude is `2 ^ minExponent`. -/
theorem value_one : f.value 1 = 2 ^ f.minExponent := by
  rw [f.value_succ 0, f.value_zero, f.exponent_of_lt f.fractionSpan_pos, zero_add]

/-- Zero rounds every `x` from zero up to half the least positive magnitude: a tie with that
magnitude goes to zero, whose encoding is even. -/
theorem roundsToNearestEven_zero_of_le {x : ℚ} (h0 : 0 ≤ x)
    (hx : x ≤ 2 ^ (f.minExponent - 1)) : f.RoundsToNearestEven x 0 := by
  have hhalf : (2 : ℚ) ^ f.minExponent = 2 * 2 ^ (f.minExponent - 1) := by
    rw [zpow_sub_one₀ two_ne_zero]
    ring
  refine ⟨Nat.zero_le _, fun e _ => ?_, fun _ _ _ => .inr rfl⟩
  rw [f.value_zero, zero_sub, abs_neg, abs_of_nonneg h0]
  rcases Nat.eq_zero_or_pos e with rfl | he
  · rw [f.value_zero, zero_sub, abs_neg, abs_of_nonneg h0]
  · -- every other encoding stands for at least the least positive magnitude
    have hv : 2 ^ f.minExponent ≤ f.value e := f.value_one ▸ f.value_strictMono.monotone he
    rw [abs_of_nonneg (by linarith)]
    linarith

theorem roundsToNearestEven_zero : f.RoundsToNearestEven 0 0 :=
  f.roundsToNearestEven_zero_of_le le_rfl (by positivity)

/-- Infinity's encoding rounds every `x` at or above the value at its place: every encoding up
to it stands for less. -/
theorem roundsToNearestEven_infinity_of_le {x : ℚ} (hx : f.value f.infinityEncoding ≤ x) :
    f.RoundsToNearestEven x f.infinityEncoding := by
  have hbelow : ∀ e ≤ f.infinityEncoding, f.value e ≤ f.value f.infinityEncoding :=
    fun e he => f.value_strictMono.monotone he
  refine ⟨le_rfl, fun e he => ?_, fun e he h => .inl ?_⟩
  · rw [abs_of_nonpos (sub_nonpos.2 hx), abs_of_nonpos (by linarith [hbelow e he])]
    linarith [hbelow e he]
  · rw [abs_of_nonpos (sub_nonpos.2 hx), abs_of_nonpos (by linarith [hbelow e he])] at h
    exact f.value_injective (by linarith)

/-- With `m` the natural nearest to `x / 2 ^ q`, the magnitude `m · 2 ^ q` is nearest to `x`
among all encodings, when `x` lies at or above the bottom of the binade of unit `2 ^ q` unless
`q` is the least exponent; a tie is a magnitude equal to it, or `m` is even. -/
theorem nearest_of_nearestNatural {x : ℚ} {q : ℤ} {m : ℕ}
    (hbinade : f.minExponent < q → (f.fractionSpan : ℚ) * 2 ^ q ≤ x)
    (hm : NearestNatural (x / 2 ^ q) m) (e : ℕ) :
    |(m : ℚ) * 2 ^ q - x| ≤ |f.value e - x| ∧
      (|f.value e - x| = |(m : ℚ) * 2 ^ q - x| → f.value e = m * 2 ^ q ∨ m % 2 = 0) := by
  have hpos : (0 : ℚ) < 2 ^ q := by positivity
  -- distances to multiples of `2 ^ q` are `2 ^ q` times distances to `x / 2 ^ q`
  have hscale : ∀ k : ℕ, |(k : ℚ) * 2 ^ q - x| = 2 ^ q * |(k : ℚ) - x / 2 ^ q| := fun k => by
    rw [← abs_of_pos hpos, ← abs_mul, abs_of_pos hpos, mul_sub, mul_div_cancel₀ _ hpos.ne',
      mul_comm]
  rcases f.value_multiple_or_below e q with ⟨k, hk⟩ | ⟨hlt, hbelow⟩
  · rw [hk, hscale, hscale]
    refine ⟨mul_le_mul_of_nonneg_left (hm.nearest k) hpos.le, fun h => ?_⟩
    rcases hm.even k (mul_left_cancel₀ hpos.ne' h) with rfl | heven
    · exact .inl rfl
    · exact .inr heven
  · -- below the binade: farther than its bottom, itself a multiple of `2 ^ q`
    have hx := hbinade hlt
    have hfar : |(m : ℚ) * 2 ^ q - x| < |f.value e - x| :=
      calc |(m : ℚ) * 2 ^ q - x| ≤ |(f.fractionSpan : ℚ) * 2 ^ q - x| := by
            rw [hscale, hscale]
            exact mul_le_mul_of_nonneg_left (hm.nearest _) hpos.le
        _ = x - f.fractionSpan * 2 ^ q := by
            rw [abs_of_nonpos (by linarith)]
            ring
        _ < x - f.value e := by linarith
        _ = |f.value e - x| := by
            rw [abs_of_neg (by linarith)]
            ring
    exact ⟨hfar.le, fun h => absurd h hfar.ne'⟩

/-- An encoding built on an even significand is even, the span of a field being even. -/
theorem scaled_add_mod_two (hp : 2 ≤ f.precision) (t : ℕ) {m : ℕ} (hm : m % 2 = 0) :
    (t * f.fractionSpan + m) % 2 = 0 := by
  have := Dvd.dvd.mul_left (f.two_dvd_fractionSpan hp) t
  omega

/-- The encoding `(q - minExponent) · 2 ^ (precision - 1) + m`, capped at infinity's, rounds
`x` to nearest, ties to even, when `m` is the natural nearest to `x / 2 ^ q` and `x` lies below
`2 ^ precision · 2 ^ q`, and at or above `2 ^ (precision - 1) · 2 ^ q` unless `q` is the least
exponent. -/
theorem roundsToNearestEven_of_nearestNatural (hp : 2 ≤ f.precision) {x : ℚ} {q : ℤ} {m : ℕ}
    (hq : f.minExponent ≤ q)
    (hbinade : f.minExponent < q → (f.fractionSpan : ℚ) * 2 ^ q ≤ x)
    (htop : x < 2 * f.fractionSpan * 2 ^ q) (hm : NearestNatural (x / 2 ^ q) m) :
    f.RoundsToNearestEven x
      (min ((q - f.minExponent).toNat * f.fractionSpan + m) f.infinityEncoding) := by
  have hpos : (0 : ℚ) < 2 ^ q := by positivity
  -- the significand is at most `2 ^ precision`, and normal above the least exponent
  have hmle : m ≤ 2 * f.fractionSpan :=
    hm.le_of_lt (by rw [div_lt_iff₀ hpos]; push_cast; exact htop)
  have hnormal : q = f.minExponent ∨ f.fractionSpan ≤ m := by
    rcases eq_or_lt_of_le hq with h | h
    · exact .inl h.symm
    · exact .inr (hm.ge_of_le (by rw [le_div_iff₀ hpos]; exact hbinade h))
  have hnear := f.nearest_of_nearestNatural hbinade hm
  rw [← f.value_scaled_add hq hmle hnormal] at hnear
  rcases le_or_gt ((q - f.minExponent).toNat * f.fractionSpan + m) f.infinityEncoding
    with hfin | hover
  · rw [min_eq_left hfin]
    refine ⟨hfin, fun e _ => (hnear e).1, fun e _ h => ?_⟩
    rcases (hnear e).2 h with hv | heven
    · exact .inl (f.value_injective hv)
    · exact .inr (f.scaled_add_mod_two hp _ heven)
  · -- past infinity's encoding, a magnitude above infinity's value is at least as near to
    -- `x` as that value, so `x` lies above it
    rw [min_eq_right hover.le]
    have hlt := f.value_strictMono hover
    have hle := (hnear f.infinityEncoding).1
    refine f.roundsToNearestEven_infinity_of_le (le_of_not_gt fun hx => ?_)
    rw [abs_of_pos (by linarith), abs_of_pos (by linarith)] at hle
    linarith

end Nearest

/-- The significand `encodingOfRatio` computes for an exponent `q` is the natural nearest to
`num / den / 2 ^ q`, a tie going to the even one: it scales the denominator up by `2 ^ q`, or
the numerator by `2 ^ -q`, so that the quotient stays one of naturals. -/
theorem nearestNatural_scaled {num den : ℕ} (hd : 0 < den) (q : ℤ) :
    NearestNatural ((num : ℚ) / den / 2 ^ q)
      (if 0 ≤ q then roundHalfEven num (den * Nat.pow 2 q.toNat)
        else roundHalfEven (num * Nat.pow 2 (-q).toNat) den) := by
  split
  · rename_i hq
    have hy : (num : ℚ) / den / 2 ^ q = (num : ℚ) / ((den * Nat.pow 2 q.toNat : ℕ) : ℚ) := by
      rw [Nat.cast_mul, natPow_toNat_cast hq, div_div]
    rw [hy]
    exact roundHalfEven_nearestNatural
      (Nat.mul_pos hd (by rw [Nat.pow_eq]; exact Nat.two_pow_pos _))
  · rename_i hq
    have hy : (num : ℚ) / den / 2 ^ q = ((num * Nat.pow 2 (-q).toNat : ℕ) : ℚ) / den := by
      rw [Nat.cast_mul, natPow_toNat_cast (by omega), zpow_neg]
      ring
    rw [hy]
    exact roundHalfEven_nearestNatural hd

/-- `encodingOfRatio num den` rounds `num / den` to nearest, ties to even: it is the encoding
up to infinity's whose magnitude is nearest to the ratio, a tie going to the even encoding. -/
theorem encodingOfRatio_roundsToNearestEven (f : BinaryFormat) (hp : 2 ≤ f.precision)
    (num den : ℕ) : f.RoundsToNearestEven ((num : ℚ) / den) (f.encodingOfRatio num den) := by
  unfold encodingOfRatio
  split
  · rename_i hzero
    have hx : (num : ℚ) / den = 0 := by rcases hzero with h | h <;> simp [h]
    rw [hx]
    exact f.roundsToNearestEven_zero
  · rename_i hzero
    obtain ⟨hlow, hhigh⟩ := log2Ratio_bounds (by omega : 0 < num) (by omega : 0 < den)
    dsimp only
    -- `2 ^ (precision - 1) · 2 ^ r` is `2 ^ (r + precision - 1)`
    have hspan : ∀ r : ℤ, (f.fractionSpan : ℚ) * 2 ^ r = 2 ^ (r + (f.precision - 1 : ℕ)) :=
      fun r => by rw [fractionSpan_cast, ← zpow_add₀ two_ne_zero, add_comm]
    set q := max f.minExponent (log2Ratio num den - (f.precision - 1 : ℕ)) with hq
    refine f.roundsToNearestEven_of_nearestNatural hp (le_max_left _ _) (fun hlt => ?_) ?_
      (nearestNatural_scaled (by omega) q)
    · -- above the least exponent, `2 ^ q` is the unit of the binade of `num / den`
      have hq' : q = log2Ratio num den - (f.precision - 1 : ℕ) := by omega
      rw [hspan, hq', sub_add_cancel]
      exact hlow
    · calc (num : ℚ) / den < 2 ^ (log2Ratio num den + 1) := hhigh
        _ ≤ 2 ^ (q + (f.precision - 1 : ℕ) + 1) := zpow_le_zpow_right₀ one_le_two (by omega)
        _ = 2 * f.fractionSpan * 2 ^ q := by
          rw [zpow_add_one₀ two_ne_zero, ← hspan]
          ring

end BinaryFormat

/-- The word `Binary32.ofRatio` gives for a ratio has the sign asked for, and below it the
encoding that rounds the ratio to nearest, ties to even, in single precision. -/
theorem Binary32.ofRatio_roundsToNearestEven (negative : Bool) (num den : ℕ) :
    (Binary32.ofRatio negative num den).negative = negative ∧
      BinaryFormat.binary32.RoundsToNearestEven ((num : ℚ) / den)
        (Binary32.ofRatio negative num den).magnitude := by
  have hle := Binary32.encodingOfRatio_le_infinity num den
  refine ⟨Binary32.negative_ofEncoding negative hle, ?_⟩
  rw [Binary32.ofRatio, Binary32.magnitude_ofEncoding negative hle]
  exact BinaryFormat.encodingOfRatio_roundsToNearestEven _ (by decide) num den

example : Binary32.ofRatio false 1 3 = ⟨0x3EAAAAAB⟩ := by decide

end ScriptCore
