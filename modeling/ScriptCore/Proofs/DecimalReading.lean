import ScriptCore.Decimal.Reader
import ScriptCore.Proofs.CorrectRounding

set_option autoImplicit false

/-! # Reading decimals is correct

`BinaryFormat.encodingOfScaled digits exponent` rounds `digits · 10 ^ exponent` to nearest,
ties to even (`BinaryFormat.encodingOfScaled_roundsToNearestEven`). In the middle of the range
it is `encodingOfRatio` on the exact fraction; a decimal whose order of magnitude lies beyond
the format's bounds is made infinity or zero at once, and that is right when the bounds are
where `BinaryFormat.WellFormed` says, as they are for both formats (`binary32_wellFormed`,
`binary64_wellFormed`).

The literal reader `Binary32.ofDecimal?` takes a sign, digits with an optional point and
fraction, and an exponent part, to `Binary32.ofScaled` of the digits and the exponent shifted
by the length of the fraction (`Binary32.ofDecimal?_point`, `Binary32.ofDecimal?_digits`). So a
literal reads as the word nearest to the number it writes, and an integer's decimal text reads
as the integer's widening (`Binary32.ofDecimal?_intText`). -/

namespace ScriptCore

/-! ## Decimals as rationals -/

namespace Decimal

/-- A power of a base with an integer exponent, as a numerator over a denominator. -/
theorem natPow_div_natPow {b : ℕ} (hb : 0 < b) (t : ℤ) :
    ((Nat.pow b t.toNat : ℕ) : ℚ) / (Nat.pow b (-t).toNat : ℕ) = (b : ℚ) ^ t := by
  rw [Nat.pow_eq, Nat.pow_eq, Nat.cast_pow, Nat.cast_pow, ← zpow_natCast, ← zpow_natCast,
    ← zpow_sub₀ (by exact_mod_cast hb.ne'), Int.toNat_sub_toNat_neg]

/-- `fraction n twos tens` stands for `n · 2 ^ twos · 10 ^ tens`. -/
theorem fraction_div (n : ℕ) (twos tens : ℤ) :
    ((fraction n twos tens).1 : ℚ) / (fraction n twos tens).2 = n * 2 ^ twos * 10 ^ tens := by
  have h2 := natPow_div_natPow (by decide : 0 < 2) twos
  have h10 := natPow_div_natPow (by decide : 0 < 10) tens
  push_cast at h2 h10
  simp only [fraction, Nat.cast_mul]
  rw [← h2, ← h10]
  ring

/-- A natural lies below the power of ten of its digit count. -/
theorem lt_ten_pow_digitCount (n : ℕ) : n < 10 ^ digitCount n :=
  (Nat.length_toDigits_le_iff (by decide : 1 < 10) Nat.length_toDigits_pos).1 le_rfl

/-- A positive natural lies at or above the power of ten below its digit count. -/
theorem ten_pow_digitCount_le {n : ℕ} (hn : 0 < n) : 10 ^ (digitCount n - 1) ≤ n := by
  unfold digitCount
  rcases Nat.lt_or_ge (Nat.toDigits 10 n).length 2 with h | h
  · rw [show (Nat.toDigits 10 n).length - 1 = 0 by omega, pow_zero]
    exact hn
  · -- fewer digits would do for a smaller natural
    by_contra hlt
    have hle := (Nat.length_toDigits_le_iff (by decide : 1 < 10)
      (by omega : 0 < (Nat.toDigits 10 n).length - 1)).2 (Nat.lt_of_not_le hlt)
    omega

/-- A decimal with nonzero digits lies from `10 ^ (order - 1)` up to, not including,
`10 ^ order`, where its order is `digitCount digits + exponent`. -/
theorem order_bounds {digits : ℕ} (hd : 0 < digits) (exponent : ℤ) :
    (10 : ℚ) ^ ((digitCount digits : ℤ) + exponent - 1) ≤ digits * 10 ^ exponent ∧
      (digits : ℚ) * 10 ^ exponent < 10 ^ ((digitCount digits : ℤ) + exponent) := by
  have hcount : 1 ≤ digitCount digits := Nat.length_toDigits_pos
  have hlow : ((10 ^ (digitCount digits - 1) : ℕ) : ℚ) ≤ digits :=
    Nat.cast_le.2 (ten_pow_digitCount_le hd)
  have hhigh : (digits : ℚ) < ((10 ^ digitCount digits : ℕ) : ℚ) :=
    Nat.cast_lt.2 (lt_ten_pow_digitCount digits)
  have hpos : (0 : ℚ) < 10 ^ exponent := by positivity
  push_cast at hlow hhigh
  constructor
  · rw [sub_eq_add_neg, add_right_comm, zpow_add₀ (by norm_num), ← sub_eq_add_neg,
      show ((digitCount digits : ℤ) - 1) = ((digitCount digits - 1 : ℕ) : ℤ) by omega,
      zpow_natCast]
    exact mul_le_mul_of_nonneg_right hlow hpos.le
  · rw [zpow_add₀ (by norm_num), zpow_natCast]
    exact mul_lt_mul_of_pos_right hhigh hpos

end Decimal

/-! ## Rounding a decimal -/

namespace BinaryFormat

/-- The bounds of a format agree with each other where rounding a decimal relies on them: the
precision has two bits or more, so that an even encoding is an even significand; a decimal of
an order below the underflow order is at most half the least positive magnitude; and one of an
order above the overflow order is at least the value at infinity's place. -/
structure WellFormed (f : BinaryFormat) : Prop where
  two_le_precision : 2 ≤ f.precision
  underflow : (10 : ℚ) ^ (f.underflowOrder - 1) ≤ 2 ^ (f.minExponent - 1)
  overflow : f.value f.infinityEncoding ≤ 10 ^ f.overflowOrder

/-- `encodingOfScaled digits exponent` rounds `digits · 10 ^ exponent` to nearest, ties to
even: the shortcuts for orders beyond the bounds give what rounding the exact value gives. -/
theorem encodingOfScaled_roundsToNearestEven {f : BinaryFormat} (hf : f.WellFormed)
    (digits : ℕ) (exponent : ℤ) :
    f.RoundsToNearestEven (digits * 10 ^ exponent) (f.encodingOfScaled digits exponent) := by
  unfold encodingOfScaled
  dsimp only
  split
  · rename_i hsmall
    rcases Nat.eq_zero_or_pos digits with hzero | hpos
    · rw [hzero, Nat.cast_zero, zero_mul]
      exact f.roundsToNearestEven_zero
    · -- below the underflow order: at most half the least positive magnitude
      have horder : (Decimal.digitCount digits : ℤ) + exponent ≤ f.underflowOrder - 1 := by
        omega
      refine f.roundsToNearestEven_zero_of_le (by positivity) ?_
      calc (digits : ℚ) * 10 ^ exponent
          ≤ 10 ^ ((Decimal.digitCount digits : ℤ) + exponent) :=
            (Decimal.order_bounds hpos exponent).2.le
        _ ≤ 10 ^ (f.underflowOrder - 1) := zpow_le_zpow_right₀ (by norm_num) horder
        _ ≤ 2 ^ (f.minExponent - 1) := hf.underflow
  · rename_i hsmall
    have hpos : 0 < digits := by omega
    split
    · -- above the overflow order: at least the value at infinity's place
      rename_i hlarge
      refine f.roundsToNearestEven_infinity_of_le ?_
      calc f.value f.infinityEncoding ≤ 10 ^ f.overflowOrder := hf.overflow
        _ ≤ 10 ^ ((Decimal.digitCount digits : ℤ) + exponent - 1) :=
            zpow_le_zpow_right₀ (by norm_num) (by omega)
        _ ≤ digits * 10 ^ exponent := (Decimal.order_bounds hpos exponent).1
    · -- the exact fraction
      have h := f.encodingOfRatio_roundsToNearestEven hf.two_le_precision
        (Decimal.fraction digits 0 exponent).1 (Decimal.fraction digits 0 exponent).2
      rw [Decimal.fraction_div, zpow_zero, mul_one] at h
      exact h

-- half the least positive binary64 magnitude lies between the two
example : binary64.encodingOfScaled 2 (-324) = 0 ∧ binary64.encodingOfScaled 3 (-324) = 1 := by
  decide +kernel

theorem binary32_wellFormed : binary32.WellFormed where
  two_le_precision := by decide
  underflow := by norm_num [binary32]
  overflow := by
    have hs : binary32.significand binary32.infinityEncoding = 8388608 := by decide
    have he : binary32.exponent binary32.infinityEncoding = 105 := by decide
    rw [value, hs, he]
    norm_num [binary32]

theorem binary64_wellFormed : binary64.WellFormed where
  two_le_precision := by decide
  underflow := by
    -- powers too large for the elaborator to evaluate are compared by the kernel
    have h : ((2 ^ 1075 : ℕ) : ℚ) ≤ ((10 ^ 326 : ℕ) : ℚ) := Nat.cast_le.2 (by decide +kernel)
    rw [Nat.cast_pow, Nat.cast_pow, Nat.cast_ofNat, Nat.cast_ofNat] at h
    norm_num [binary64]
    exact inv_anti₀ (by positivity) h
  overflow := by
    have hs : binary64.significand binary64.infinityEncoding = 4503599627370496 := by decide
    have he : binary64.exponent binary64.infinityEncoding = 972 := by decide
    have h : ((4503599627370496 * 2 ^ 972 : ℕ) : ℚ) ≤ ((10 ^ 309 : ℕ) : ℚ) :=
      Nat.cast_le.2 (by decide +kernel)
    rw [Nat.cast_mul, Nat.cast_pow, Nat.cast_pow, Nat.cast_ofNat, Nat.cast_ofNat] at h
    rw [value, hs, he, zpow_ofNat, show binary64.overflowOrder = (309 : ℕ) from rfl, zpow_natCast]
    exact h

end BinaryFormat

/-! ## Reading a literal -/

namespace Binary32

/-- The word `Binary32.ofScaled` gives has the sign asked for, and below it the encoding that
rounds `digits · 10 ^ exponent` to nearest, ties to even, in single precision. -/
theorem ofScaled_roundsToNearestEven (negative : Bool) (digits : ℕ) (exponent : ℤ) :
    (ofScaled negative digits exponent).negative = negative ∧
      BinaryFormat.binary32.RoundsToNearestEven (digits * 10 ^ exponent)
        (ofScaled negative digits exponent).magnitude := by
  have h := BinaryFormat.encodingOfScaled_roundsToNearestEven BinaryFormat.binary32_wellFormed
    digits exponent
  have hle : BinaryFormat.binary32.encodingOfScaled digits exponent ≤ 2139095040 := h.le_infinity
  refine ⟨negative_ofEncoding negative hle, ?_⟩
  rw [ofScaled, magnitude_ofEncoding negative hle]
  exact h

/-- Two decimals of one value read as one word. -/
theorem ofScaled_eq_of_value_eq (negative : Bool) {d d' : ℕ} {e e' : ℤ}
    (h : (d : ℚ) * 10 ^ e = d' * 10 ^ e') : ofScaled negative d e = ofScaled negative d' e' := by
  have hd := BinaryFormat.encodingOfScaled_roundsToNearestEven BinaryFormat.binary32_wellFormed d e
  have hd' := BinaryFormat.encodingOfScaled_roundsToNearestEven BinaryFormat.binary32_wellFormed
    d' e'
  rw [h] at hd
  rw [ofScaled, ofScaled, hd.unique hd']

/-- A decimal integer reads as the word its widening gives. -/
theorem ofScaled_zero_eq_ofRatio (negative : Bool) (n : ℕ) :
    ofScaled negative n 0 = ofRatio negative n 1 := by
  have hs := BinaryFormat.encodingOfScaled_roundsToNearestEven BinaryFormat.binary32_wellFormed n 0
  have hr := BinaryFormat.encodingOfRatio_roundsToNearestEven BinaryFormat.binary32 (by decide) n 1
  rw [zpow_zero, mul_one] at hs
  rw [Nat.cast_one, div_one] at hr
  rw [ofScaled, ofRatio, hs.unique hr]

theorem digitsValue_eq_ofDigitChars (ds : List Char) :
    digitsValue ds = Nat.ofDigitChars 10 ds 0 := by
  rw [digitsValue, Nat.ofDigitChars_eq_foldl]
  congr
  funext acc c
  rw [Nat.mul_comm]

/-- The digits a natural is printed with read back as that natural. -/
theorem digitsValue_toDigits (n : ℕ) : digitsValue (Nat.toDigits 10 n) = n := by
  rw [digitsValue_eq_ofDigitChars, Nat.ofDigitChars_ten_toDigits]

theorem digitsValue_append (l m : List Char) :
    digitsValue (l ++ m) = digitsValue l * 10 ^ m.length + digitsValue m := by
  rw [digitsValue_eq_ofDigitChars, digitsValue_eq_ofDigitChars, digitsValue_eq_ofDigitChars,
    Nat.ofDigitChars_append, Nat.ofDigitChars_eq_ofDigitChars_zero, Nat.mul_comm]

theorem digitsValue_zeros (n : ℕ) : digitsValue (List.replicate n '0') = 0 := by
  rw [digitsValue_eq_ofDigitChars, Nat.ofDigitChars_replicate_zero, Nat.mul_zero]

/-- What may follow the digits of a number: nothing, or a character that is no digit. -/
def NoDigitHead : List Char → Prop
  | [] => True
  | c :: _ => c.isDigit = false

theorem span_isDigit_append {ds rest : List Char} (hds : ∀ c ∈ ds, c.isDigit = true)
    (hrest : NoDigitHead rest) : (ds ++ rest).span Char.isDigit = (ds, rest) := by
  rw [List.span_eq_takeWhile_dropWhile, List.takeWhile_append_of_pos hds,
    List.dropWhile_append_of_pos hds]
  cases rest with
  | nil => rw [List.takeWhile_nil, List.dropWhile_nil, List.append_nil]
  | cons c tail =>
    have hc : ¬c.isDigit = true := by simpa [NoDigitHead] using hrest
    rw [List.takeWhile_cons_of_neg hc, List.dropWhile_cons_of_neg hc, List.append_nil]

/-- An exponent part the reader accepts is empty or starts with its mark. -/
theorem readExponent_head {tail : List Char} {e : ℤ} (h : readExponent tail = some e) :
    tail = [] ∨ ∃ c rest, tail = c :: rest ∧ (c = 'e' ∨ c = 'E') := by
  cases tail with
  | nil => exact .inl rfl
  | cons c rest =>
    by_cases hc : c = 'e' ∨ c = 'E'
    · exact .inr ⟨c, rest, rfl, hc⟩
    · rw [readExponent, if_neg hc] at h
      cases h

theorem noDigitHead_of_readExponent {tail : List Char} {e : ℤ} (h : readExponent tail = some e) :
    NoDigitHead tail := by
  rcases readExponent_head h with rfl | ⟨c, rest, rfl, rfl | rfl⟩ <;> trivial

/-- The first character of a number after its sign: a digit or the point. -/
def StartsNumber : List Char → Prop
  | [] => False
  | c :: _ => c.isDigit = true ∨ c = '.'

/-- A digit or the point stands below the capitals, and apart from the signs. -/
theorem toNat_of_startsNumber {c : Char} {rest : List Char} (h : StartsNumber (c :: rest)) :
    46 ≤ c.toNat ∧ c.toNat ≤ 57 := by
  rcases h with h | rfl
  · have := Char.isDigit_iff_toNat.1 h
    have h0 : '0'.toNat = 48 := rfl
    have h9 : '9'.toNat = 57 := rfl
    omega
  · exact ⟨le_rfl, by decide⟩

/-- Lowering keeps a character below the capitals. -/
theorem toLower_of_toNat_lt {c : Char} (h : c.toNat < 65) : c.toLower = c := by
  unfold Char.toLower
  rw [dif_neg]
  rintro ⟨hA, -⟩
  rw [ge_iff_le, UInt32.le_iff_toNat_le, Char.toNat_val, Char.toNat_val] at hA
  have h65 : 'A'.toNat = 65 := rfl
  omega

/-- What a sign is read before: nothing, or a character that is no sign. -/
def NoSignHead : List Char → Prop
  | [] => True
  | c :: _ => c ≠ '-' ∧ c ≠ '+'

theorem noSignHead_of_startsNumber {body : List Char} (h : StartsNumber body) :
    NoSignHead body := by
  cases body with
  | nil => trivial
  | cons c rest =>
    have hc := toNat_of_startsNumber h
    constructor <;> rintro rfl <;> exact absurd hc (by decide)

theorem readSign_sign (negative : Bool) {body : List Char} (h : NoSignHead body) :
    readSign ((if negative then ['-'] else []) ++ body) = (negative, body) := by
  cases negative with
  | true => rfl
  | false =>
    rw [if_neg Bool.false_ne_true, List.nil_append]
    cases body with
    | nil => rfl
    | cons c rest =>
      unfold readSign
      split
      · rename_i heq
        cases heq
        exact absurd rfl h.1
      · rename_i heq
        cases heq
        exact absurd rfl h.2
      · rfl

/-- A number, lowered, is none of the words the reader takes for infinity or NaN: those start
with a letter. -/
theorem lowered_ne {body : List Char} (h : StartsNumber body) {w : String} {d : Char}
    {ws : List Char} (hw : w.toList = d :: ws) (hd : 65 ≤ d.toNat) :
    String.ofList (body.map Char.toLower) ≠ w := by
  cases body with
  | nil => exact absurd h id
  | cons c rest =>
    have hc := toNat_of_startsNumber h
    intro heq
    have hlist := congrArg String.toList heq
    rw [String.toList_ofList, hw, List.map_cons, toLower_of_toNat_lt (by omega)] at hlist
    have := congrArg Char.toNat (List.cons.inj hlist).1
    omega

/-- Digits, a point and digits, and an exponent part, after an optional minus sign, read as the
number they write: the digits of both parts, with the exponent lowered by the length of the
fraction. -/
theorem ofDecimal?_point (negative : Bool) {s : String} {whole part tail : List Char}
    (hs : s.toList = (if negative then ['-'] else []) ++ (whole ++ '.' :: (part ++ tail)))
    (hwhole : ∀ c ∈ whole, c.isDigit = true) (hpart : ∀ c ∈ part, c.isDigit = true)
    (hsome : whole ≠ [] ∨ part ≠ []) {e : ℤ} (htail : readExponent tail = some e) :
    ofDecimal? s = some (ofScaled negative (digitsValue (whole ++ part)) (e - part.length)) := by
  have hstart : StartsNumber (whole ++ '.' :: (part ++ tail)) := by
    cases whole with
    | nil => exact .inr rfl
    | cons c _ => exact .inl (hwhole c List.mem_cons_self)
  have hempty : (whole.isEmpty && part.isEmpty) = false := by
    cases whole <;> cases part <;> simp_all
  -- the sign, then no word, then the two runs of digits around the point
  unfold ofDecimal?
  rw [hs, readSign_sign negative (noSignHead_of_startsNumber hstart)]
  dsimp only
  rw [if_neg (not_or.2 ⟨lowered_ne hstart (by rfl) (by decide),
      lowered_ne hstart (by rfl) (by decide)⟩), if_neg (lowered_ne hstart (by rfl) (by decide)),
    span_isDigit_append hwhole (by show Char.isDigit '.' = false; rfl)]
  dsimp only
  simp only [span_isDigit_append hpart (noDigitHead_of_readExponent htail), hempty, htail,
    Bool.false_eq_true, ↓reduceIte]

example : ofDecimal? "0.1" = some ⟨0x3DCCCCCD⟩ := by decide

example : ofDecimal? "3.4028236e38" = some ⟨0x7F800000⟩ := by decide

/-- Digits and an exponent part, after an optional minus sign, read as the number they
write. -/
theorem ofDecimal?_digits (negative : Bool) {s : String} {whole tail : List Char}
    (hs : s.toList = (if negative then ['-'] else []) ++ (whole ++ tail))
    (hwhole : ∀ c ∈ whole, c.isDigit = true) (hsome : whole ≠ []) {e : ℤ}
    (htail : readExponent tail = some e) :
    ofDecimal? s = some (ofScaled negative (digitsValue whole) e) := by
  have hstart : StartsNumber (whole ++ tail) := by
    cases whole with
    | nil => exact absurd rfl hsome
    | cons c _ => exact .inl (hwhole c List.mem_cons_self)
  have hempty : whole.isEmpty = false := List.isEmpty_eq_false_iff.2 hsome
  unfold ofDecimal?
  rw [hs, readSign_sign negative (noSignHead_of_startsNumber hstart)]
  dsimp only
  rw [if_neg (not_or.2 ⟨lowered_ne hstart (by rfl) (by decide),
      lowered_ne hstart (by rfl) (by decide)⟩), if_neg (lowered_ne hstart (by rfl) (by decide)),
    span_isDigit_append hwhole (noDigitHead_of_readExponent htail)]
  dsimp only
  -- no point follows the digits: the exponent part starts with its mark, if at all
  have hpoint : ∀ t, tail ≠ '.' :: t := by
    rintro t rfl
    rcases readExponent_head htail with h | ⟨c, rest, h, hc⟩
    · cases h
    · cases h
      rcases hc with h | h <;> exact absurd h (by decide)
  split
  · exact absurd rfl (hpoint _)
  · simp only [hempty, htail, Bool.false_and, Bool.false_eq_true, ↓reduceIte, List.append_nil,
      List.length_nil, Nat.cast_zero, sub_zero]


/-- The decimal text of an integer: a minus sign when it is negative, then the digits of its
magnitude. -/
theorem intText_toList (i : ℤ) :
    (toString i).toList = (if decide (i < 0) then ['-'] else []) ++ Nat.toDigits 10 i.natAbs := by
  cases i with
  | ofNat m =>
    have hm : ¬(m : ℤ) < 0 := by omega
    simp [toString, Int.repr, Nat.repr_eq_ofList_toDigits, hm]
  | negSucc m => simp [toString, Int.repr, Nat.repr_eq_ofList_toDigits, Int.negSucc_lt_zero]

/-- An integer's decimal text reads as the integer widened to the nearest word. -/
theorem ofDecimal?_intText (i : ℤ) : ofDecimal? (toString i) = some (ofInt i) := by
  rw [ofDecimal?_digits _ (by rw [intText_toList, List.append_nil]) Decimal.isDigit_of_mem_toDigits
      Nat.toDigits_ne_nil (rfl : readExponent [] = some 0),
    digitsValue_toDigits, ofScaled_zero_eq_ofRatio]
  rfl

example : ofDecimal? "16777217" = some (ofInt 16777216) := by decide

end Binary32

end ScriptCore
