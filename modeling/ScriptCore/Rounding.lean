set_option autoImplicit false

/-! # Rounding a quotient of naturals

`roundHalfEven n d` is the natural number nearest to `n / d`; when `n / d` lies exactly halfway
between two naturals, the even one is taken. Both the binary32 reader and the fixed-place
printer round this way, on exact quotients, so neither depends on the platform. -/

namespace ScriptCore

/-- The natural number nearest to `n / d`, a tie going to the even one. -/
def roundHalfEven (n d : Nat) : Nat :=
  let m := n / d
  let r := n % d
  if d < 2 * r ∨ (2 * r = d ∧ m % 2 = 1) then m + 1 else m

end ScriptCore
