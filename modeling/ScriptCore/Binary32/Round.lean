import ScriptCore.Binary32.Basic
import ScriptCore.BinaryFormat

set_option autoImplicit false

/-! # Rounding an exact ratio to binary32

`Binary32.ofRatio negative num den` is the word nearest to `num / den`, with a tie going to the
even significand, and with the sign bit set when `negative` holds: the magnitude is rounded by
`BinaryFormat.binary32.encodingOfRatio`, which only uses natural-number quotients and
remainders, so reading a decimal and widening an integer are exact and the same on every
platform. -/

namespace ScriptCore

namespace Binary32

/-- The word of a magnitude encoding, negated when `negative` holds. -/
def ofEncoding (negative : Bool) (enc : Nat) : Binary32 :=
  ⟨((if negative then 0x80000000 else 0) + enc).toUInt32⟩

/-- The word nearest to `num / den` (ties to even), negated when `negative` holds. A zero
ratio gives a zero of that sign, and a ratio beyond the largest finite word gives infinity. -/
def ofRatio (negative : Bool) (num den : Nat) : Binary32 :=
  ofEncoding negative (BinaryFormat.binary32.encodingOfRatio num den)

/-- The word nearest to an integer, ties to even: the widening of integers to floats. -/
def ofInt (n : Int) : Binary32 := ofRatio (decide (n < 0)) n.natAbs 1

end Binary32

end ScriptCore
