import ScriptCore.Binary32.Basic
import ScriptCore.Decimal.Basic
import ScriptCore.Rounding

set_option autoImplicit false

/-! # Binary32 words with a fixed number of places

`Binary32.toFixed places x` writes the exact value of `x` rounded to `places` digits after the
point, a tie going to the even last digit. The rounding is done on the exact magnitude
`m · 2 ^ q` scaled by `10 ^ places`, so a word such as `0.0000025`, whose exact value lies a
little below the decimal it was read from, rounds down. A set sign bit gives `-`, also when the
value rounds to zero; NaN and the infinities keep their usual texts. -/

namespace ScriptCore

namespace Binary32

/-- The exact value of a word rounded to `places` decimal places, ties to even. -/
def toFixed (places : Nat) (x : Binary32) : String :=
  if x.isNaN then "NaN" else
  let sign := if x.negative then "-" else ""
  if x.isInfinite then sign ++ "inf" else
  let (n, d) := Decimal.fraction x.significand x.exponent places
  let r := roundHalfEven n d
  let whole := Decimal.digitText (r / Nat.pow 10 places)
  if places = 0 then sign ++ whole else
  let part := Decimal.digitText (r % Nat.pow 10 places)
  sign ++ whole ++ "." ++ Decimal.zeros (places - part.length) ++ part

end Binary32

end ScriptCore
