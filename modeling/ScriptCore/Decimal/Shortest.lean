import ScriptCore.Binary32.Basic
import ScriptCore.BinaryFormat

set_option autoImplicit false

/-! # The shortest decimal that reads back as a binary word

A positive finite magnitude `x = m · 2 ^ q` of a binary format stands for every real that rounds
to it: the interval from the midpoint with its predecessor to the midpoint with its successor.
Its ends belong to it exactly when `m` is even, since a tie is rounded to the even significand.
In units of `2 ^ (q - 2)` the magnitude is `4m`, the upper end `4m + 2` and the lower end
`4m - 2`, or `4m - 1` when `m` is the hidden bit alone in a binade above the first, where the
step below is half as wide.

`BinaryFormat.shortest` tries grids of `1, 2, 3, …` significant digits. On each grid only the
two neighbours of `x` can be the nearest point inside the interval, so it tests those two: the
first grid with a point inside wins, and of two points inside, the nearer one; when both are
equally near, the `Tie` rule of the printer decides. No shorter decimal reads back: a grid point
inside the interval would make one of the two neighbours lie inside too. A binary32 magnitude
always has a point on the grid of nine digits and a binary64 one on the grid of seventeen;
should the search end without one, the exact expansion of `x` is returned, which certainly reads
back. -/

namespace ScriptCore

/-- How a printer chooses between two shortest decimals equally near the number. -/
inductive Tie where
  /-- The upper one. -/
  | up
  /-- The one whose last digit is even. -/
  | even
  deriving DecidableEq, Repr

/-- The reals that round to a positive finite magnitude, in units of `2 ^ unit`: from `low` to
`high`, ends included when `closed`. -/
structure RoundingInterval where
  low : Nat
  high : Nat
  unit : Int
  closed : Bool

/-- Whether a decimal lies in the interval, that is, reads back as the magnitude. -/
def RoundingInterval.contains (i : RoundingInterval) (d : Decimal) : Bool :=
  let v := d.toFraction
  let lo := Decimal.fraction i.low i.unit 0
  let hi := Decimal.fraction i.high i.unit 0
  if i.closed then Decimal.fractionLe lo v && Decimal.fractionLe v hi
  else Decimal.fractionLt lo v && Decimal.fractionLt v hi

namespace BinaryFormat

/-- The exact magnitude `m · 2 ^ q` of a finite encoding, as a fraction. -/
def magnitudeFraction (f : BinaryFormat) (enc : Nat) : Nat × Nat :=
  Decimal.fraction (f.significand enc) (f.exponent enc) 0

/-- The exact decimal expansion of a finite magnitude: `2 ^ q = 5 ^ (-q) · 10 ^ q`. -/
def exactDecimal (f : BinaryFormat) (enc : Nat) : Decimal :=
  let q := f.exponent enc
  if 0 ≤ q then ⟨f.significand enc * Nat.pow 2 q.toNat, 0⟩
  else ⟨f.significand enc * Nat.pow 5 (-q).toNat, q⟩

/-- The rounding interval of a positive finite encoding. -/
def interval (f : BinaryFormat) (enc : Nat) : RoundingInterval :=
  let m := f.significand enc
  let below := if f.narrowBelow enc then 1 else 2
  { low := 4 * m - below, high := 4 * m + 2, unit := f.exponent enc - 2, closed := m % 2 == 0 }

/-- The point of the grid `10 ^ e` nearest to a magnitude that reads back as it, if one of the
two neighbours of the magnitude on that grid does. Of two such neighbours the nearer wins; at
equal distance the tie rule chooses. -/
def gridPoint (f : BinaryFormat) (tie : Tie) (enc : Nat) (e : Int) : Option Decimal :=
  let i := f.interval enc
  -- the magnitude divided by the grid step, as a fraction `n / d`
  let (n, d) := Decimal.fraction (f.significand enc) (f.exponent enc) (-e)
  let down := n / d
  let up := if n % d = 0 then down else down + 1
  match i.contains ⟨down, e⟩, i.contains ⟨up, e⟩ with
  | true, true =>
    if n - down * d < up * d - n then some ⟨down, e⟩
    else if up * d - n < n - down * d then some ⟨up, e⟩
    else if tie = .even ∧ down % 2 = 0 then some ⟨down, e⟩
    else some ⟨up, e⟩
  | true, false => some ⟨down, e⟩
  | false, true => some ⟨up, e⟩
  | false, false => none

/-- The first of `count` grids, from `10 ^ e` down to finer ones, with a point that reads back
as the magnitude, and that point. -/
def firstGridPoint (f : BinaryFormat) (tie : Tie) (enc : Nat) : Nat → Int → Option Decimal
  | 0, _ => none
  | count + 1, e =>
    match f.gridPoint tie enc e with
    | some d => some d
    | none => f.firstGridPoint tie enc count (e - 1)

/-- The shortest decimal that reads back as a finite magnitude, the nearest of those, without
trailing zeros; zero for zero. -/
def shortest (f : BinaryFormat) (tie : Tie) (enc : Nat) : Decimal :=
  if f.significand enc = 0 then ⟨0, 0⟩ else
  let (n, d) := f.magnitudeFraction enc
  let k := Decimal.log10Ratio n d
  Decimal.normalize ((f.firstGridPoint tie enc 17 k).getD (f.exactDecimal enc))

end BinaryFormat

namespace Binary32

/-- The shortest decimal that reads back as a finite word's magnitude, the nearest of those,
without trailing zeros; zero for both zeros. -/
def shortest (tie : Tie) (x : Binary32) : Decimal := BinaryFormat.binary32.shortest tie x.magnitude

end Binary32

end ScriptCore
