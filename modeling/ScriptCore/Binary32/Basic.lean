set_option autoImplicit false

/-! # Binary32 words

A binary32 number is held as its 32-bit encoding: one sign bit, eight exponent bits and
twenty-three fraction bits. Every reading of a word used by the library (its class, its exact
magnitude `m · 2^q`, its place in the numeric order) is a function of those bits, so the laws
about them are laws about natural numbers. The four arithmetic operations are those of the
platform's IEEE-754 unit, reached through `Float32.ofBits` and `Float32.toBits`.

The numeric order compares the magnitude bits: among words of one sign the encoding grows with
the value, so `key` (the magnitude, negated for a set sign bit) orders every word that is not a
NaN, and both zeros get the key `0`. -/

namespace ScriptCore

/-- A binary32 floating-point number, as its encoding. -/
structure Binary32 where
  bits : UInt32
  deriving DecidableEq, Repr

namespace Binary32

/-- Whether the sign bit is set (also for `-0.0` and a NaN with its sign bit set). -/
def negative (x : Binary32) : Bool := decide (0x80000000 ≤ x.bits.toNat)

/-- The encoding without its sign bit. -/
def magnitude (x : Binary32) : Nat := x.bits.toNat % 0x80000000

/-- The eight-bit biased exponent field. -/
def exponentField (x : Binary32) : Nat := x.magnitude / 0x800000

/-- The twenty-three-bit fraction field. -/
def fractionField (x : Binary32) : Nat := x.bits.toNat % 0x800000

/-- A NaN has the full exponent field and a nonzero fraction. -/
def isNaN (x : Binary32) : Bool := x.exponentField == 255 && x.fractionField != 0

/-- An infinity has the full exponent field and a zero fraction. -/
def isInfinite (x : Binary32) : Bool := x.exponentField == 255 && x.fractionField == 0

/-- A finite word is neither a NaN nor an infinity. -/
def isFinite (x : Binary32) : Bool := x.exponentField != 255

/-- Both zeros have a zero magnitude. -/
def isZero (x : Binary32) : Bool := x.magnitude == 0

/-- The integer significand `m` of a finite word, with `|x| = m · 2 ^ exponent x`: the hidden
leading bit is present exactly when the exponent field is nonzero. -/
def significand (x : Binary32) : Nat :=
  if x.exponentField = 0 then x.fractionField else x.fractionField + 0x800000

/-- The binary exponent `q` of a finite word, with `|x| = significand x · 2 ^ q`. -/
def exponent (x : Binary32) : Int :=
  if x.exponentField = 0 then -149 else (x.exponentField : Int) - 150

/-- The place of a word in the numeric order: its magnitude, negated when the sign bit is set.
Both zeros get `0`. -/
def key (x : Binary32) : Int := if x.negative then -(x.magnitude : Int) else x.magnitude

/-- IEEE-754 `<`: no NaN is below or above anything. -/
def lt (x y : Binary32) : Bool := !x.isNaN && !y.isNaN && decide (x.key < y.key)

/-- IEEE-754 equality: a NaN equals nothing, and `0.0` equals `-0.0`. -/
def equals (x y : Binary32) : Bool := !x.isNaN && !y.isNaN && x.key == y.key

/-- The quiet NaN with a clear sign bit. -/
def nan : Binary32 := ⟨0x7FC00000⟩

/-- Positive infinity. -/
def infinity : Binary32 := ⟨0x7F800000⟩

/-- Positive zero. -/
def zero : Binary32 := ⟨0⟩

/-- The same word with its sign bit flipped. -/
def neg (x : Binary32) : Binary32 := ⟨x.bits ^^^ 0x80000000⟩

/-- The word with its sign bit cleared. -/
def abs (x : Binary32) : Binary32 := ⟨x.bits &&& 0x7FFFFFFF⟩

/-- The platform value with this encoding. -/
def toFloat32 (x : Binary32) : Float32 := Float32.ofBits x.bits

/-- The encoding of a platform value. -/
def ofFloat32 (f : Float32) : Binary32 := ⟨f.toBits⟩

/-- IEEE-754 addition, rounded to nearest even. -/
def add (x y : Binary32) : Binary32 := ofFloat32 (x.toFloat32 + y.toFloat32)

/-- IEEE-754 subtraction, rounded to nearest even. -/
def sub (x y : Binary32) : Binary32 := ofFloat32 (x.toFloat32 - y.toFloat32)

/-- IEEE-754 multiplication, rounded to nearest even. -/
def mul (x y : Binary32) : Binary32 := ofFloat32 (x.toFloat32 * y.toFloat32)

/-- IEEE-754 division, rounded to nearest even; a nonzero number over zero is an infinity. -/
def div (x y : Binary32) : Binary32 := ofFloat32 (x.toFloat32 / y.toFloat32)

theorem key_of_not_negative {x : Binary32} (h : x.negative = false) :
    x.key = x.magnitude := by
  simp [key, h]

theorem key_of_negative {x : Binary32} (h : x.negative = true) :
    x.key = -(x.magnitude : Int) := by
  simp [key, h]

/-- The order of words is the order of their keys, for words that are not NaN. -/
theorem lt_iff {x y : Binary32} :
    x.lt y = true ↔ x.isNaN = false ∧ y.isNaN = false ∧ x.key < y.key := by
  simp [lt, and_assoc]

theorem equals_iff {x y : Binary32} :
    x.equals y = true ↔ x.isNaN = false ∧ y.isNaN = false ∧ x.key = y.key := by
  simp [equals, and_assoc]

end Binary32

end ScriptCore
