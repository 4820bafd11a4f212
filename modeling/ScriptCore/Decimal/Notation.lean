import ScriptCore.Decimal.Shortest

set_option autoImplicit false

/-! # Writing binary numbers as text

A number is written from its shortest decimal (`BinaryFormat.shortest`). A `Notation` holds
the decisions of one output format: which magnitudes are written positionally and which with
an exponent, what follows an integral value, the texts of NaN and infinity, and which of two
shortest decimals equally near the number is taken. A set sign bit
is written as `-`, also before zero; a NaN is written without a sign.

Three notations are used: `Notation.plain`, positional at every magnitude (`1e-7` is
`0.0000001`, `2.0` is `2`); `Notation.detailed`, which keeps `.0` on integral values and
writes magnitudes below `1e-4` or from `1e16` on with an exponent (`1e-7`, `1e16`, `1.5e-5`);
and `Notation.exchange`, the same with the lower limit at `1e-5` and ties to the even digit, as
numbers are written in exchanged data. The first two take the upper of two decimals equally
near. A limit compares the shortest decimal, which is the same as comparing the
number with the number nearest to the limit: that number's interval holds the limit, and the
intervals of smaller numbers lie below it. -/

namespace ScriptCore

/-- The decisions of a format for binary numbers. -/
structure Notation where
  /-- A nonzero decimal whose leading digit stands at `10 ^ k`, with `k` from the first bound
  up to, not including, the second, is written positionally, others with an exponent; `none`
  writes every magnitude positionally. -/
  positional : Option (Int × Int)
  /-- What follows the digits of an integral value written positionally. -/
  integralSuffix : String
  /-- The mark between the digits and the exponent. -/
  exponentMark : String
  /-- The text of a NaN. -/
  nanText : String
  /-- The text of an infinity, after the sign. -/
  infinityText : String
  /-- The choice between two shortest decimals equally near the number. -/
  tie : Tie

namespace Notation

/-- Positional at every magnitude, nothing after an integral value. -/
def plain : Notation where
  positional := none
  integralSuffix := ""
  exponentMark := "e"
  nanText := "NaN"
  infinityText := "inf"
  tie := .up

/-- `.0` after an integral value; an exponent below `1e-4` and from `1e16` on. -/
def detailed : Notation where
  positional := some (-4, 16)
  integralSuffix := ".0"
  exponentMark := "e"
  nanText := "NaN"
  infinityText := "inf"
  tie := .up

/-- `.0` after an integral value; an exponent below `1e-5` and from `1e16` on; of two shortest
decimals equally near, the even one. -/
def exchange : Notation := { detailed with positional := some (-5, 16), tie := .even }

/-- Whether a decimal is written positionally. -/
def isPositional (n : Notation) (d : Decimal) : Bool :=
  match n.positional with
  | none => true
  | some (lo, hi) =>
    let k : Int := (Decimal.digitCount d.digits : Int) + d.exponent - 1
    d.digits == 0 || (decide (lo ≤ k) && decide (k < hi))

/-- The digits of a decimal with the point placed: `digits · 10 ^ exponent` written out. -/
def positionalText (n : Notation) (d : Decimal) : String :=
  let ds := Decimal.digitText d.digits
  if 0 ≤ d.exponent then
    ds ++ Decimal.zeros d.exponent.toNat ++ n.integralSuffix
  else
    let before : Int := (ds.length : Int) + d.exponent
    if 0 < before then
      String.ofList (ds.toList.take before.toNat) ++ "." ++
        String.ofList (ds.toList.drop before.toNat)
    else
      "0." ++ Decimal.zeros (-before).toNat ++ ds

/-- One digit, the others after a point, then the mark and the decimal exponent. -/
def exponentText (n : Notation) (d : Decimal) : String :=
  let ds := (Decimal.digitText d.digits).toList
  let power : Int := (ds.length : Int) + d.exponent - 1
  let mantissa := match ds with
    | [] => ""
    | [c] => String.singleton c
    | c :: rest => String.singleton c ++ "." ++ String.ofList rest
  mantissa ++ n.exponentMark ++ toString power

/-- The text of a finite number in this notation, from its sign and shortest decimal. -/
def renderDecimal (n : Notation) (negative : Bool) (d : Decimal) : String :=
  let digits := if n.isPositional d then n.positionalText d else n.exponentText d
  (if negative then "-" else "") ++ digits

/-- The text of a binary32 word in this notation. -/
def render (n : Notation) (x : Binary32) : String :=
  if x.isNaN then n.nanText
  else if x.isInfinite then (if x.negative then "-" else "") ++ n.infinityText
  else n.renderDecimal x.negative (x.shortest n.tie)

/-- The text of the number of a format nearest to `±digits · 10 ^ exponent`, or `none` when
that number is an infinity. -/
def scaledText? (n : Notation) (f : BinaryFormat) (negative : Bool) (digits : Nat)
    (exponent : Int) : Option String :=
  let enc := f.encodingOfScaled digits exponent
  if enc = f.infinityEncoding then none
  else some (n.renderDecimal negative (f.shortest n.tie enc))

end Notation

end ScriptCore
