set_option autoImplicit false

/-! # Decimal numbers

A `Decimal` is `digits · 10 ^ exponent` with a natural `digits`. The printers choose one and
lay its digits out; this module holds what they share: exact fractions `num / den` of naturals
built from powers of two and ten, their order by cross-products, the decimal order of
magnitude of a fraction, and the normal form without trailing zeros. -/

namespace ScriptCore

/-- The number `digits · 10 ^ exponent`. -/
structure Decimal where
  digits : Nat
  exponent : Int
  deriving DecidableEq, Repr

namespace Decimal

/-- The number of decimal digits of `n`; zero has one. -/
def digitCount (n : Nat) : Nat := (Nat.toDigits 10 n).length

/-- The fraction `n · 2 ^ twos · 10 ^ tens`, as a numerator and a positive denominator. -/
def fraction (n : Nat) (twos tens : Int) : Nat × Nat :=
  (n * Nat.pow 2 twos.toNat * Nat.pow 10 tens.toNat,
    Nat.pow 2 (-twos).toNat * Nat.pow 10 (-tens).toNat)

/-- `a / b ≤ c / d` for positive denominators, by cross-products. -/
def fractionLe (p q : Nat × Nat) : Bool := decide (p.1 * q.2 ≤ q.1 * p.2)

/-- `a / b < c / d` for positive denominators, by cross-products. -/
def fractionLt (p q : Nat × Nat) : Bool := decide (p.1 * q.2 < q.1 * p.2)

/-- `⌊log₁₀ (num / den)⌋` for positive `num` and `den`. The difference of the two digit counts
is that order of magnitude or one more, and a cross-product decides which. -/
def log10Ratio (num den : Nat) : Int :=
  let k : Int := (digitCount num : Int) - (digitCount den : Int)
  if fractionLe (fraction 1 0 k) (num, den) then k else k - 1

/-- The value as an exact fraction. -/
def toFraction (d : Decimal) : Nat × Nat := fraction d.digits 0 d.exponent

/-- Moves up to `fuel` trailing zeros of `n` into the exponent `e`. -/
def stripZeros : Nat → Nat → Int → Decimal
  | 0, n, e => ⟨n, e⟩
  | fuel + 1, n, e => if n ≠ 0 ∧ n % 10 = 0 then stripZeros fuel (n / 10) (e + 1) else ⟨n, e⟩

/-- Moves trailing zeros of the digits into the exponent; the value is unchanged. A number has
fewer trailing zeros than digits, so its digit count is enough fuel. -/
def normalize (d : Decimal) : Decimal := stripZeros (digitCount d.digits) d.digits d.exponent

/-- The decimal digits of `n`, most significant first. -/
def digitText (n : Nat) : String := String.ofList (Nat.toDigits 10 n)

theorem isDigit_of_mem_toDigits {n : Nat} : ∀ c ∈ Nat.toDigits 10 n, c.isDigit = true :=
  fun _ hc => Nat.isDigit_of_mem_toDigits (by decide) (by decide) hc

/-- `n` copies of the digit zero. -/
def zeros (n : Nat) : String := String.ofList (List.replicate n '0')

theorem isDigit_of_mem_zeros {n : Nat} : ∀ c ∈ List.replicate n '0', c.isDigit = true :=
  fun _ hc => by
    rw [List.eq_of_mem_replicate hc]
    rfl

end Decimal

end ScriptCore
