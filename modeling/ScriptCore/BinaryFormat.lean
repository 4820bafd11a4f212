import ScriptCore.Rounding
import ScriptCore.Decimal.Basic

set_option autoImplicit false

/-! # Binary floating-point formats

A `BinaryFormat` fixes the width of the significand and the range of the exponent of an IEEE
754 binary format. A finite magnitude is `m · 2 ^ q`; its encoding, the word without its sign
bit, is the biased exponent field times `2 ^ (precision - 1)` plus the fraction. A zero field
holds the subnormals, with `q` the least exponent and no hidden bit; a field `f` above zero
holds `q = f - 1 + minExponent` and the hidden bit `2 ^ (precision - 1)`; the full field holds
the infinities.

`encodingOfRatio num den` rounds `num / den` to the nearest magnitude, a tie going to the even
significand. The exponent `q` is chosen first: the largest with
`2 ^ (precision - 1) ≤ num / den / 2 ^ q`, but never below the least exponent. The significand
is then the quotient `num / (den · 2 ^ q)` rounded on its remainder, and the encoding is
`(q - minExponent) · 2 ^ (precision - 1) + m`. That one formula covers subnormals, normals and
the carry of a significand that rounds up to `2 ^ precision`, since such a carry moves to the
next exponent with the hidden bit alone. An encoding at or beyond that of infinity means
overflow, and becomes infinity. Only natural-number quotients and remainders are used, so the
result is the same on every platform. -/

namespace ScriptCore

/-- An IEEE 754 binary format. -/
structure BinaryFormat where
  /-- The bits of a significand, the hidden bit included. -/
  precision : Nat
  /-- The binary exponent `q` of the subnormals, in `m · 2 ^ q`. -/
  minExponent : Int
  /-- The exponent field of the infinities. -/
  infinityField : Nat
  /-- A decimal of a higher order rounds to infinity (see `encodingOfScaled`). -/
  overflowOrder : Int
  /-- A decimal of a lower order rounds to zero. -/
  underflowOrder : Int

namespace BinaryFormat

/-- Single precision: 24 bits, exponents from `-149`, finite magnitudes below `3.5 · 10 ^ 38`
and above `7 · 10 ^ -46` when not rounded to zero. -/
def binary32 : BinaryFormat := ⟨24, -149, 255, 39, -47⟩

/-- Double precision: 53 bits, exponents from `-1074`, finite magnitudes below
`1.8 · 10 ^ 308` and above `2.4 · 10 ^ -324` when not rounded to zero. -/
def binary64 : BinaryFormat := ⟨53, -1074, 2047, 309, -325⟩

/-- The number of encodings that share one exponent field. -/
def fractionSpan (f : BinaryFormat) : Nat := Nat.pow 2 (f.precision - 1)

/-- The encoding of infinity. -/
def infinityEncoding (f : BinaryFormat) : Nat := f.infinityField * f.fractionSpan

/-- The exponent field of an encoding. -/
def field (f : BinaryFormat) (enc : Nat) : Nat := enc / f.fractionSpan

/-- The integer significand `m` of a finite encoding: the fraction, with the hidden bit when
the exponent field is nonzero. -/
def significand (f : BinaryFormat) (enc : Nat) : Nat :=
  if f.field enc = 0 then enc % f.fractionSpan else enc % f.fractionSpan + f.fractionSpan

/-- The binary exponent `q` of a finite encoding, with magnitude `significand · 2 ^ q`. -/
def exponent (f : BinaryFormat) (enc : Nat) : Int :=
  if f.field enc = 0 then f.minExponent else (f.field enc : Int) - 1 + f.minExponent

/-- Whether the gap below a finite encoding is half the gap above it: the significand is the
hidden bit alone, in a binade above the first. -/
def narrowBelow (f : BinaryFormat) (enc : Nat) : Bool :=
  f.significand enc == f.fractionSpan && decide (1 < f.field enc)

/-- `⌊log₂ (num / den)⌋` for positive `num` and `den`. The difference of the two bit lengths is
that exponent or one more, and a cross-product decides which. -/
def log2Ratio (num den : Nat) : Int :=
  let k : Int := (Nat.log2 num : Int) - (Nat.log2 den : Int)
  if 0 ≤ k then
    if den * Nat.pow 2 k.toNat ≤ num then k else k - 1
  else
    if den ≤ num * Nat.pow 2 (-k).toNat then k else k - 1

/-- The encoding of the magnitude `num / den`, rounded to nearest even, before the sign. -/
def encodingOfRatio (f : BinaryFormat) (num den : Nat) : Nat :=
  if num = 0 ∨ den = 0 then 0 else
  let q : Int := max f.minExponent (log2Ratio num den - (f.precision - 1 : Nat))
  let m :=
    if 0 ≤ q then roundHalfEven num (den * Nat.pow 2 q.toNat)
    else roundHalfEven (num * Nat.pow 2 (-q).toNat) den
  min ((q - f.minExponent).toNat * f.fractionSpan + m) f.infinityEncoding

/-- The encoding of the magnitude `digits · 10 ^ exponent`, rounded to nearest even. The order
of the decimal, `digitCount digits + exponent`, puts it below `10 ^ order` and at or above
`10 ^ (order - 1)`; a decimal of an order beyond the format's bounds is infinity or zero
without building its power of ten. -/
def encodingOfScaled (f : BinaryFormat) (digits : Nat) (exponent : Int) : Nat :=
  let order : Int := (Decimal.digitCount digits : Int) + exponent
  if digits = 0 ∨ order < f.underflowOrder then 0
  else if f.overflowOrder < order then f.infinityEncoding
  else
    let (n, d) := Decimal.fraction digits 0 exponent
    f.encodingOfRatio n d

end BinaryFormat

end ScriptCore
