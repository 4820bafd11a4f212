import ScriptCore.Decimal.Fixed
import ScriptCore.Decimal.Notation
import ScriptCore.Proofs.ShortestDecimal

set_option autoImplicit false

/-! # Printed numbers read back

A word that is not a NaN, written in any of the notations and read back by the literal reader,
is the word again (`Notation.ofDecimal?_render`). The text of a finite word is its sign and the
digits of its shortest decimal, laid out with the point placed or with an exponent; each layout
reads as a decimal of the same value, so as the word that rounding the shortest decimal gives,
which is the word itself. The text of an infinity is a word the reader takes for infinity. -/

namespace ScriptCore

namespace Binary32

/-! ## A word from its sign and magnitude -/

theorem magnitude_lt (x : Binary32) : x.magnitude < 2147483648 := Nat.mod_lt _ (by decide)

theorem bits_toNat_eq (x : Binary32) :
    x.bits.toNat = (if x.negative then 2147483648 else 0) + x.magnitude := by
  have hlt := x.bits.toNat_lt
  unfold negative magnitude
  by_cases h : 2147483648 ≤ x.bits.toNat
  · simp only [h, decide_true, if_true]
    omega
  · simp only [h, decide_false, Bool.false_eq_true, if_false]
    omega

theorem ext_bits_toNat {x y : Binary32} (h : x.bits.toNat = y.bits.toNat) : x = y := by
  cases x
  cases y
  congr
  exact UInt32.toNat_inj.1 h

/-- A word is the word of its sign and its magnitude. -/
theorem ofEncoding_negative_magnitude (x : Binary32) : ofEncoding x.negative x.magnitude = x := by
  have hm := x.magnitude_lt
  apply ext_bits_toNat
  rw [x.bits_toNat_eq]
  simp only [ofEncoding, Nat.toUInt32_eq, UInt32.toNat_ofNat']
  split <;> omega

/-- The magnitude of a finite word lies below infinity's. -/
theorem magnitude_lt_of_finite {x : Binary32} (hnan : x.isNaN = false)
    (hinf : x.isInfinite = false) : x.magnitude < 2139095040 := by
  have hm := x.magnitude_lt
  have hfield : x.exponentField ≠ 255 := by
    intro h
    simp only [isNaN, isInfinite, h, beq_self_eq_true, Bool.true_and, bne_eq_false_iff_eq,
      beq_eq_false_iff_ne] at hnan hinf
    exact hinf hnan
  unfold exponentField at hfield
  omega

/-- An infinity is the infinity of its sign. -/
theorem eq_infinity_of_isInfinite {x : Binary32} (h : x.isInfinite = true) :
    x = if x.negative then infinity.neg else infinity := by
  have hm := x.magnitude_lt
  have hmag : x.magnitude = 2139095040 := by
    simp only [isInfinite, Bool.and_eq_true, beq_iff_eq, exponentField, fractionField] at h
    unfold magnitude at h hm ⊢
    omega
  conv => lhs; rw [← ofEncoding_negative_magnitude x, hmag]
  cases x.negative <;> decide

/-- The shortest decimal of a finite word reads back as the word. -/
theorem ofScaled_shortest (tie : Tie) {x : Binary32} (hnan : x.isNaN = false)
    (hinf : x.isInfinite = false) :
    ofScaled x.negative (x.shortest tie).digits (x.shortest tie).exponent = x := by
  rw [ofScaled, shortest,
    BinaryFormat.encodingOfScaled_shortest BinaryFormat.binary32_wellFormed tie
      (magnitude_lt_of_finite hnan hinf),
    ofEncoding_negative_magnitude]

/-! ## Reading the parts of a text -/

theorem startsNumber_toDigits (n : ℕ) : StartsNumber (Nat.toDigits 10 n) := by
  cases h : Nat.toDigits 10 n with
  | nil => exact absurd h Nat.toDigits_ne_nil
  | cons c rest => exact .inl (Decimal.isDigit_of_mem_toDigits c (h ▸ List.mem_cons_self))

/-- An exponent mark followed by an integer's text reads as that integer. -/
theorem readExponent_intText {mark : Char} (hmark : mark = 'e' ∨ mark = 'E') (i : ℤ) :
    readExponent (mark :: (toString i).toList) = some i := by
  rw [readExponent, if_pos hmark, intText_toList,
    readSign_sign _ (noSignHead_of_startsNumber (startsNumber_toDigits _))]
  dsimp only
  rw [← List.append_nil (Nat.toDigits 10 i.natAbs),
    span_isDigit_append Decimal.isDigit_of_mem_toDigits (show NoDigitHead [] from trivial)]
  simp only [List.isEmpty_nil, Bool.not_true, Bool.or_false,
    List.isEmpty_eq_false_iff.2 Nat.toDigits_ne_nil, Bool.false_eq_true, if_false,
    digitsValue_toDigits, Option.some.injEq]
  by_cases hi : i < 0 <;> simp only [hi, decide_true, decide_false, if_true,
    Bool.false_eq_true, if_false] <;> omega

theorem signedText_toList (negative : Bool) (t : String) :
    ((if negative then "-" else "") ++ t).toList =
      (if negative then ['-'] else []) ++ t.toList := by
  cases negative <;> simp

end Binary32

namespace Notation

open Binary32

/-- What the reader needs of a notation to read its texts back: an integral value ends in
nothing or in `.0`, the exponent has a mark the reader knows, and infinity is a word it knows. -/
structure Readable (n : Notation) : Prop where
  suffix : n.integralSuffix = "" ∨ n.integralSuffix = ".0"
  mark : n.exponentMark = "e" ∨ n.exponentMark = "E"
  infinity : n.infinityText = "inf" ∨ n.infinityText = "infinity"

theorem plain_readable : plain.Readable := ⟨.inl rfl, .inl rfl, .inl rfl⟩

theorem detailed_readable : detailed.Readable := ⟨.inr rfl, .inl rfl, .inl rfl⟩

theorem exchange_readable : exchange.Readable := ⟨.inr rfl, .inl rfl, .inl rfl⟩

variable {n : Notation}

/-- An integral decimal, written as its digits, zeros for the exponent and the suffix, reads as
the decimal. -/
theorem ofDecimal?_integralText (hn : n.Readable) (negative : Bool) {d : Decimal}
    (he : 0 ≤ d.exponent) :
    ofDecimal? ((if negative then "-" else "") ++
        (Decimal.digitText d.digits ++ Decimal.zeros d.exponent.toNat ++ n.integralSuffix)) =
      some (ofScaled negative d.digits d.exponent) := by
  have hdigits : ∀ c ∈ Nat.toDigits 10 d.digits ++ List.replicate d.exponent.toNat '0',
      c.isDigit = true :=
    List.forall_mem_append.2 ⟨Decimal.isDigit_of_mem_toDigits, Decimal.isDigit_of_mem_zeros⟩
  have hvalue : ((digitsValue (Nat.toDigits 10 d.digits ++
      List.replicate d.exponent.toNat '0') : ℕ) : ℚ) = d.digits * 10 ^ d.exponent := by
    rw [digitsValue_append, digitsValue_toDigits, digitsValue_zeros, List.length_replicate,
      add_zero]
    push_cast
    rw [← zpow_natCast, Int.toNat_of_nonneg he]
  rcases hn.suffix with hsuf | hsuf
  · -- no suffix: the digits alone
    have hs : ((if negative then "-" else "") ++ (Decimal.digitText d.digits ++
        Decimal.zeros d.exponent.toNat ++ n.integralSuffix)).toList =
        (if negative then ['-'] else []) ++
          ((Nat.toDigits 10 d.digits ++ List.replicate d.exponent.toNat '0') ++ []) := by
      rw [signedText_toList]
      simp [Decimal.digitText, Decimal.zeros, hsuf]
    rw [ofDecimal?_digits negative hs hdigits (by simp [Nat.toDigits_ne_nil]) rfl]
    congr 1
    apply ofScaled_eq_of_value_eq
    rw [zpow_zero, mul_one, hvalue]
  · -- the suffix `.0`: a point and one zero after it
    have hs : ((if negative then "-" else "") ++ (Decimal.digitText d.digits ++
        Decimal.zeros d.exponent.toNat ++ n.integralSuffix)).toList =
        (if negative then ['-'] else []) ++
          ((Nat.toDigits 10 d.digits ++ List.replicate d.exponent.toNat '0') ++
            '.' :: (List.replicate 1 '0' ++ [])) := by
      rw [signedText_toList]
      simp [Decimal.digitText, Decimal.zeros, hsuf]
    rw [ofDecimal?_point negative hs hdigits Decimal.isDigit_of_mem_zeros
      (.inl (by simp [Nat.toDigits_ne_nil])) rfl]
    congr 1
    apply ofScaled_eq_of_value_eq
    rw [digitsValue_append, digitsValue_zeros, List.length_replicate, add_zero, Nat.cast_mul,
      hvalue, zpow_sub₀ (by norm_num), zpow_zero]
    push_cast
    ring

/-- A decimal with fewer places than digits, written with the point among its digits, reads as
the decimal. -/
theorem ofDecimal?_pointInside (negative : Bool) {d : Decimal}
    (hbefore : 0 < ((Decimal.digitText d.digits).length : ℤ) + d.exponent)
    (he : d.exponent < 0) :
    ofDecimal? ((if negative then "-" else "") ++
        (String.ofList ((Decimal.digitText d.digits).toList.take
            (((Decimal.digitText d.digits).length : ℤ) + d.exponent).toNat) ++ "." ++
          String.ofList ((Decimal.digitText d.digits).toList.drop
            (((Decimal.digitText d.digits).length : ℤ) + d.exponent).toNat))) =
      some (ofScaled negative d.digits d.exponent) := by
  have hlen : (Decimal.digitText d.digits).length = (Nat.toDigits 10 d.digits).length :=
    String.length_ofList
  have hlist : (Decimal.digitText d.digits).toList = Nat.toDigits 10 d.digits :=
    String.toList_ofList
  rw [hlen, hlist]
  rw [hlen] at hbefore
  -- the digits split at the point
  generalize hk : (((Nat.toDigits 10 d.digits).length : ℤ) + d.exponent).toNat = k
  have hs : ((if negative then "-" else "") ++
      (String.ofList ((Nat.toDigits 10 d.digits).take k) ++ "." ++
        String.ofList ((Nat.toDigits 10 d.digits).drop k))).toList =
      (if negative then ['-'] else []) ++
        ((Nat.toDigits 10 d.digits).take k ++ '.' :: ((Nat.toDigits 10 d.digits).drop k ++ [])) := by
    rw [signedText_toList]
    simp
  have htake : (Nat.toDigits 10 d.digits).take k ≠ [] := by
    rw [Ne, List.take_eq_nil_iff, not_or]
    exact ⟨by omega, Nat.toDigits_ne_nil⟩
  rw [ofDecimal?_point negative hs
      (fun c hc => Decimal.isDigit_of_mem_toDigits c (List.mem_of_mem_take hc))
      (fun c hc => Decimal.isDigit_of_mem_toDigits c (List.mem_of_mem_drop hc)) (.inl htake) rfl,
    List.take_append_drop, digitsValue_toDigits, List.length_drop]
  rw [show (0 : ℤ) - ((Nat.toDigits 10 d.digits).length - k : ℕ) = d.exponent by omega]

/-- A decimal below one, written as `0.`, zeros and its digits, reads as the decimal. -/
theorem ofDecimal?_pointBefore (negative : Bool) {d : Decimal}
    (hbefore : ((Decimal.digitText d.digits).length : ℤ) + d.exponent ≤ 0) :
    ofDecimal? ((if negative then "-" else "") ++
        ("0." ++ Decimal.zeros (-(((Decimal.digitText d.digits).length : ℤ) + d.exponent)).toNat ++
          Decimal.digitText d.digits)) =
      some (ofScaled negative d.digits d.exponent) := by
  have hlen : (Decimal.digitText d.digits).length = (Nat.toDigits 10 d.digits).length :=
    String.length_ofList
  rw [hlen]
  rw [hlen] at hbefore
  generalize hk : (-(((Nat.toDigits 10 d.digits).length : ℤ) + d.exponent)).toNat = k
  have hs : ((if negative then "-" else "") ++
      ("0." ++ Decimal.zeros k ++ Decimal.digitText d.digits)).toList =
      (if negative then ['-'] else []) ++
        (List.replicate 1 '0' ++
          '.' :: ((List.replicate k '0' ++ Nat.toDigits 10 d.digits) ++ [])) := by
    rw [signedText_toList]
    simp [Decimal.zeros, Decimal.digitText]
  rw [ofDecimal?_point negative hs Decimal.isDigit_of_mem_zeros
      (List.forall_mem_append.2 ⟨Decimal.isDigit_of_mem_zeros, Decimal.isDigit_of_mem_toDigits⟩)
      (.inl (List.cons_ne_nil _ _)) rfl,
    ← List.append_assoc, ← List.replicate_add, digitsValue_append, digitsValue_zeros, zero_mul,
    zero_add, digitsValue_toDigits, List.length_append, List.length_replicate]
  rw [show (0 : ℤ) - ((k + (Nat.toDigits 10 d.digits).length : ℕ) : ℤ) = d.exponent by omega]

/-- A decimal written with the point placed reads as the decimal. -/
theorem ofDecimal?_positionalText (hn : n.Readable) (negative : Bool) (d : Decimal) :
    ofDecimal? ((if negative then "-" else "") ++ n.positionalText d) =
      some (ofScaled negative d.digits d.exponent) := by
  unfold positionalText
  dsimp only
  -- one lemma for each place of the point
  by_cases he : 0 ≤ d.exponent
  · rw [if_pos he]
    exact ofDecimal?_integralText hn negative he
  rw [if_neg he]
  by_cases hbefore : 0 < ((Decimal.digitText d.digits).length : ℤ) + d.exponent
  · rw [if_pos hbefore]
    exact ofDecimal?_pointInside negative hbefore (by omega)
  · rw [if_neg hbefore]
    exact ofDecimal?_pointBefore negative (by omega)

/-- A decimal written with one digit before the point and an exponent reads as the decimal. -/
theorem ofDecimal?_exponentText (hn : n.Readable) (negative : Bool) (d : Decimal) :
    ofDecimal? ((if negative then "-" else "") ++ n.exponentText d) =
      some (ofScaled negative d.digits d.exponent) := by
  obtain ⟨mark, hmarkText, hmark⟩ : ∃ mark, n.exponentMark.toList = [mark] ∧
      (mark = 'e' ∨ mark = 'E') := by
    rcases hn.mark with h | h
    · exact ⟨'e', by rw [h]; rfl, .inl rfl⟩
    · exact ⟨'E', by rw [h]; rfl, .inr rfl⟩
  have hlist : (Decimal.digitText d.digits).toList = Nat.toDigits 10 d.digits :=
    String.toList_ofList
  unfold exponentText
  dsimp only
  rw [hlist]
  -- the digits, as a list the match can take apart
  have hvalue := digitsValue_toDigits d.digits
  have hdigits : ∀ c ∈ Nat.toDigits 10 d.digits, c.isDigit = true := Decimal.isDigit_of_mem_toDigits
  have hne : Nat.toDigits 10 d.digits ≠ [] := Nat.toDigits_ne_nil
  generalize Nat.toDigits 10 d.digits = ds at hvalue hdigits hne ⊢
  rcases ds with _ | ⟨c, _ | ⟨c', rest⟩⟩
  · exact absurd rfl hne
  · -- one digit: no point
    dsimp only
    have hs : ((if negative then "-" else "") ++ (String.singleton c ++ n.exponentMark ++
        toString (([c].length : ℤ) + d.exponent - 1))).toList =
        (if negative then ['-'] else []) ++
          ([c] ++ mark :: (toString (([c].length : ℤ) + d.exponent - 1)).toList) := by
      rw [signedText_toList]
      simp [hmarkText]
    rw [ofDecimal?_digits negative hs hdigits (List.cons_ne_nil _ _)
      (readExponent_intText hmark _), hvalue]
    simp
  · -- the first digit, the point, and the others
    dsimp only
    have hs : ((if negative then "-" else "") ++ (String.singleton c ++ "." ++
        String.ofList (c' :: rest) ++ n.exponentMark ++
          toString (((c :: c' :: rest).length : ℤ) + d.exponent - 1))).toList =
        (if negative then ['-'] else []) ++
          ([c] ++ '.' :: ((c' :: rest) ++ mark ::
            (toString (((c :: c' :: rest).length : ℤ) + d.exponent - 1)).toList)) := by
      rw [signedText_toList]
      simp [hmarkText]
    have hfirst : ∀ x ∈ [c], x.isDigit = true := fun x hx =>
      hdigits x (by rw [List.mem_singleton.1 hx]; exact List.mem_cons_self)
    rw [ofDecimal?_point negative hs hfirst (fun x hx => hdigits x (List.mem_cons_of_mem c hx))
      (.inl (List.cons_ne_nil _ _)) (readExponent_intText hmark _), List.singleton_append, hvalue]
    congr 2
    simp only [List.length_cons, Nat.cast_add, Nat.cast_one]
    ring

/-- The digits of a finite number, in whichever layout the notation picks, read as its
decimal. -/
theorem ofDecimal?_renderDecimal (hn : n.Readable) (negative : Bool) (d : Decimal) :
    ofDecimal? (n.renderDecimal negative d) = some (ofScaled negative d.digits d.exponent) := by
  unfold renderDecimal
  dsimp only
  by_cases hpos : n.isPositional d = true
  · rw [if_pos hpos]
    exact ofDecimal?_positionalText hn negative d
  · rw [if_neg hpos]
    exact ofDecimal?_exponentText hn negative d

example : detailed.render ⟨0x5A0E1BCA⟩ = "1e16" ∧ plain.render ⟨0x80000000⟩ = "-0" := by decide

example : exchange.scaledText? .binary64 false 18446744073709551616 0 =
    some "1.8446744073709552e19" := by
  decide +kernel

/-- The text of an infinity reads as the infinity of its sign. -/
theorem ofDecimal?_infinityText (hn : n.Readable) (negative : Bool) :
    ofDecimal? ((if negative then "-" else "") ++ n.infinityText) =
      some (if negative then infinity.neg else infinity) := by
  unfold ofDecimal?
  rw [signedText_toList]
  rcases hn.infinity with h | h
  · rw [h, show ("inf" : String).toList = ['i', 'n', 'f'] from rfl,
      readSign_sign negative (show NoSignHead ['i', 'n', 'f'] from ⟨by decide, by decide⟩)]
    dsimp only
    rw [if_pos (show String.ofList (['i', 'n', 'f'].map Char.toLower) = "inf" ∨ _ from
      .inl (by decide))]
  · rw [h, show ("infinity" : String).toList = ['i', 'n', 'f', 'i', 'n', 'i', 't', 'y'] from rfl,
      readSign_sign negative (show NoSignHead ['i', 'n', 'f', 'i', 'n', 'i', 't', 'y'] from
        ⟨by decide, by decide⟩)]
    dsimp only
    rw [if_pos (show _ ∨ String.ofList (['i', 'n', 'f', 'i', 'n', 'i', 't', 'y'].map
      Char.toLower) = "infinity" from .inr (by decide))]

/-- A word that is not a NaN, written in a readable notation, reads back as the word. -/
theorem ofDecimal?_render (hn : n.Readable) {x : Binary32} (hnan : x.isNaN = false) :
    ofDecimal? (n.render x) = some x := by
  unfold render
  rw [if_neg (by simp [hnan])]
  by_cases hinf : x.isInfinite = true
  · rw [if_pos hinf, ofDecimal?_infinityText hn, ← eq_infinity_of_isInfinite hinf]
  · rw [if_neg hinf, ofDecimal?_renderDecimal hn,
      ofScaled_shortest n.tie hnan (by simpa using hinf)]

end Notation

/-! ## Fixed places -/

namespace Binary32

/-- A finite word written with `p` places after the point is its sign, digits, the point and
exactly `p` digits, which together write the natural nearest to the word's magnitude times
`10 ^ p`, a tie going to the even one. -/
theorem toFixed_eq_nearest {p : ℕ} (hp : 0 < p) {x : Binary32} (hnan : x.isNaN = false)
    (hinf : x.isInfinite = false) :
    ∃ whole frac : List Char,
      toFixed p x = (if x.negative then "-" else "") ++ String.ofList (whole ++ '.' :: frac) ∧
      whole ≠ [] ∧ frac.length = p ∧ (∀ c ∈ whole ++ frac, c.isDigit = true) ∧
      NearestNatural ((x.significand : ℚ) * 2 ^ x.exponent * 10 ^ (p : ℤ))
        (digitsValue (whole ++ frac)) := by
  set r := roundHalfEven (Decimal.fraction x.significand x.exponent p).1
    (Decimal.fraction x.significand x.exponent p).2 with hr
  have hpow : Nat.pow 10 p = 10 ^ p := Nat.pow_eq
  have hpos : 0 < 10 ^ p := by positivity
  -- the digits of the fraction fit in `p` places
  have hlen : (Nat.toDigits 10 (r % 10 ^ p)).length ≤ p :=
    (Nat.length_toDigits_le_iff (by decide : 1 < 10) hp).2 (Nat.mod_lt _ hpos)
  refine ⟨Nat.toDigits 10 (r / 10 ^ p),
    List.replicate (p - (Nat.toDigits 10 (r % 10 ^ p)).length) '0' ++
      Nat.toDigits 10 (r % 10 ^ p), ?_, Nat.toDigits_ne_nil, ?_, ?_, ?_⟩
  · rw [toFixed, if_neg (by simp [hnan]), if_neg (by simp [hinf])]
    dsimp only
    rw [if_neg hp.ne', ← hr, hpow]
    apply String.toList_inj.1
    simp [Decimal.digitText, Decimal.zeros]
  · rw [List.length_append, List.length_replicate]
    omega
  · exact List.forall_mem_append.2 ⟨Decimal.isDigit_of_mem_toDigits,
      List.forall_mem_append.2 ⟨Decimal.isDigit_of_mem_zeros, Decimal.isDigit_of_mem_toDigits⟩⟩
  · -- the digits write the rounded quotient back
    have hvalue : digitsValue (Nat.toDigits 10 (r / 10 ^ p) ++
        (List.replicate (p - (Nat.toDigits 10 (r % 10 ^ p)).length) '0' ++
          Nat.toDigits 10 (r % 10 ^ p))) = r := by
      rw [digitsValue_append, digitsValue_append, digitsValue_zeros, digitsValue_toDigits,
        digitsValue_toDigits, List.length_append, List.length_replicate,
        Nat.sub_add_cancel hlen, zero_mul, zero_add, Nat.mul_comm]
      exact Nat.div_add_mod r (10 ^ p)
    rw [hvalue, hr, ← Decimal.fraction_div]
    exact roundHalfEven_nearestNatural (Decimal.fraction_snd_pos _ _ _)

example : toFixed 6 ⟨0x3DCCCCCD⟩ = "0.100000" := by decide

end Binary32

end ScriptCore
