import ScriptCore.Binary32.Round
import ScriptCore.Decimal.Basic

set_option autoImplicit false

/-! # Reading a decimal literal as a binary32 word

The literal is an optional sign followed by `inf`, `infinity` or `nan` in any letter case, or
by a number: digits with an optional point and fraction, at least one digit in all, then an
optional exponent `e` or `E` with an optional sign and at least one digit. Nothing else is
accepted, not even surrounding blanks.

A number `D · 10 ^ x` is rounded exactly, to nearest with ties to even, by
`BinaryFormat.encodingOfScaled`, which makes a number far beyond the finite range infinity and
one far below it zero before building any power of ten, so a literal with a huge exponent
stays cheap. -/

namespace ScriptCore

namespace Binary32

/-- An optional leading sign: whether it is `-`, and the rest. -/
def readSign : List Char → Bool × List Char
  | '-' :: rest => (true, rest)
  | '+' :: rest => (false, rest)
  | rest => (false, rest)

/-- The natural number written by decimal digits. -/
def digitsValue (ds : List Char) : Nat :=
  ds.foldl (fun acc c => acc * 10 + (c.toNat - '0'.toNat)) 0

/-- The exponent part of a number: nothing, or a mark, an optional sign and digits. -/
def readExponent : List Char → Option Int
  | [] => some 0
  | c :: rest =>
    if c = 'e' ∨ c = 'E' then
      let (negative, rest) := readSign rest
      let (ds, tail) := rest.span Char.isDigit
      if ds.isEmpty || !tail.isEmpty then none
      else some (if negative then -(digitsValue ds : Int) else digitsValue ds)
    else none

/-- The word nearest to `digits · 10 ^ exponent`, negated when `negative`. -/
def ofScaled (negative : Bool) (digits : Nat) (exponent : Int) : Binary32 :=
  ofEncoding negative (BinaryFormat.binary32.encodingOfScaled digits exponent)

/-- The word a decimal literal denotes, or `none` when the text is not a literal. -/
def ofDecimal? (s : String) : Option Binary32 :=
  let (negative, rest) := readSign s.toList
  let signed (x : Binary32) : Binary32 := if negative then x.neg else x
  let word := String.ofList (rest.map Char.toLower)
  if word = "inf" ∨ word = "infinity" then some (signed infinity)
  else if word = "nan" then some (signed nan)
  else
    let (whole, afterWhole) := rest.span Char.isDigit
    let (part, afterPart) := match afterWhole with
      | '.' :: tail => tail.span Char.isDigit
      | tail => ([], tail)
    if whole.isEmpty && part.isEmpty then none
    else
      match readExponent afterPart with
      | none => none
      | some e => some (ofScaled negative (digitsValue (whole ++ part)) (e - part.length))

end Binary32

end ScriptCore
