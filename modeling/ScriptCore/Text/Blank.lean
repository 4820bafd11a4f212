set_option autoImplicit false

/-! # Blank characters and trimming

A blank is a character with the Unicode property `White_Space`: the ASCII tab, line feed, line
tabulation, form feed, carriage return and space, the next-line control `U+0085`, the no-break
space, the ogham space mark, the spaces `U+2000` to `U+200A`, the line and paragraph
separators, the narrow no-break space, the medium mathematical space and the ideographic space.
The zero width space `U+200B` is not blank. `Text.trim` drops blanks at both ends. -/

namespace ScriptCore

namespace Text

/-- The code points with the property `White_Space`, as inclusive ranges. -/
def blankRanges : List (Nat × Nat) :=
  [(0x9, 0xD), (0x20, 0x20), (0x85, 0x85), (0xA0, 0xA0), (0x1680, 0x1680), (0x2000, 0x200A),
   (0x2028, 0x2029), (0x202F, 0x202F), (0x205F, 0x205F), (0x3000, 0x3000)]

/-- Whether a character has the property `White_Space`. -/
def isBlank (c : Char) : Bool := blankRanges.any fun r => decide (r.1 ≤ c.toNat ∧ c.toNat ≤ r.2)

/-- The characters of a text without the blanks at its start and at its end. -/
def trimChars (cs : List Char) : List Char :=
  ((cs.dropWhile isBlank).reverse.dropWhile isBlank).reverse

/-- A text without the blanks at its start and at its end. -/
def trim (s : String) : String := String.ofList (trimChars s.toList)

end Text

end ScriptCore
