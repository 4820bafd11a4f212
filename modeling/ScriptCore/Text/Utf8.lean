set_option autoImplicit false

/-! # Decoding UTF-8 with replacement

`Text.decodeLossy` reads bytes as UTF-8. Where the bytes do not continue a well-formed
sequence, the maximal part that could still begin one (the lead byte and the continuation
bytes that fit it) becomes one replacement character `U+FFFD`, and decoding goes on after it.
A byte that can begin no sequence is such a part by itself. This is the substitution of
maximal subparts that the Unicode standard recommends.

A lead byte fixes the length of its sequence and the range of its second byte: `C2`–`DF`
take one continuation byte; `E0` takes `A0`–`BF` second, `ED` takes `80`–`9F` (no surrogates),
the other three-byte leads `80`–`BF`; `F0` takes `90`–`BF` second, `F4` takes `80`–`8F` (nothing
beyond `U+10FFFF`), `F1`–`F3` take `80`–`BF`. Every later byte is a continuation byte `80`–`BF`. -/

namespace ScriptCore

namespace Text

/-- The replacement character. -/
def replacement : Char := '\uFFFD'

/-- For a lead byte of a multi-byte sequence: the number of continuation bytes and the range
of the first of them. -/
def leadShape (b : UInt8) : Option (Nat × Nat × Nat) :=
  let n := b.toNat
  if 0xC2 ≤ n ∧ n ≤ 0xDF then some (1, 0x80, 0xBF)
  else if n = 0xE0 then some (2, 0xA0, 0xBF)
  else if n = 0xED then some (2, 0x80, 0x9F)
  else if 0xE1 ≤ n ∧ n ≤ 0xEF then some (2, 0x80, 0xBF)
  else if n = 0xF0 then some (3, 0x90, 0xBF)
  else if n = 0xF4 then some (3, 0x80, 0x8F)
  else if 0xF1 ≤ n ∧ n ≤ 0xF3 then some (3, 0x80, 0xBF)
  else none

/-- How many of the bytes, at most `count`, are continuation bytes in a row, the first of them
within `lo`–`hi`. -/
def continuationRun : Nat → Nat → Nat → List UInt8 → Nat
  | 0, _, _, _ => 0
  | _ + 1, _, _, [] => 0
  | count + 1, lo, hi, b :: rest =>
    if lo ≤ b.toNat ∧ b.toNat ≤ hi then continuationRun count 0x80 0xBF rest + 1 else 0

/-- The payload bits of a lead byte that starts a sequence of `more + 1` bytes. -/
def leadBits (b : UInt8) (more : Nat) : Nat :=
  b.toNat % Nat.pow 2 (6 - more)

/-- The scalar value of a lead byte followed by continuation bytes. -/
def scalarOf (b : UInt8) (rest : List UInt8) (more : Nat) : Nat :=
  (rest.take more).foldl (fun acc c => acc * 64 + c.toNat % 64) (leadBits b more)

/-- The character at the start of nonempty bytes and how many bytes it took: a whole sequence,
or the maximal part of one as a replacement character. -/
def leadingChar (b : UInt8) (rest : List UInt8) : Char × Nat :=
  if b.toNat < 0x80 then (Char.ofNat b.toNat, 1) else
  match leadShape b with
  | none => (replacement, 1)
  | some (more, lo, hi) =>
    let run := continuationRun more lo hi rest
    if run = more then (Char.ofNat (scalarOf b rest more), more + 1)
    else (replacement, run + 1)

/-- Decodes at most `fuel` characters. -/
def decodeChars : Nat → List UInt8 → List Char
  | 0, _ => []
  | _ + 1, [] => []
  | fuel + 1, b :: rest =>
    let (c, n) := leadingChar b rest
    c :: decodeChars fuel ((b :: rest).drop n)

/-- Bytes read as UTF-8, each maximal ill-formed part replaced by `U+FFFD`. Every step takes
at least one byte, so the number of bytes is enough fuel. -/
def decodeLossy (bytes : List UInt8) : String :=
  String.ofList (decodeChars bytes.length bytes)

@[simp] theorem decodeLossy_nil : decodeLossy [] = "" := rfl

end Text

end ScriptCore
