import ScriptCore.Text.Blank

set_option autoImplicit false

/-! # Policies

The operator policy decides what an operator does with operands it does not apply to and with
integer results that do not fit: `lenient` falls back to a value (`NULL`, a wrapped integer, a
truth value), `strict` reports an error. The mismatch policy decides what the engine does with
a type mismatch: `propagate` returns it, `abort` ends the process.

A policy is read from text that may have blanks around it (Unicode `White_Space`) and any
ASCII letter case; other text is refused, and the refusal quotes the text as it was given. -/

namespace ScriptCore

/-- What an operator does with operands it does not apply to. -/
inductive OperatorPolicy where
  | lenient
  | strict
  deriving DecidableEq, Repr

/-- What the engine does with a type mismatch. -/
inductive MismatchPolicy where
  | propagate
  | abort
  deriving DecidableEq, Repr

/-- Text that names no policy, as it was given. -/
structure PolicyParseError where
  input : String
  deriving DecidableEq, Repr

/-- The message of a refused policy text. -/
def PolicyParseError.message (e : PolicyParseError) : String :=
  "unrecognized policy `" ++ e.input ++ "`"

/-- Text as a policy word: without surrounding blanks, ASCII letters in lower case. -/
def policyWord (s : String) : String := String.ofList ((Text.trim s).toList.map Char.toLower)

namespace OperatorPolicy

/-- The policy's name. -/
def name : OperatorPolicy → String
  | .lenient => "lenient"
  | .strict => "strict"

/-- The policy a text names. -/
def parse (s : String) : Except PolicyParseError OperatorPolicy :=
  match policyWord s with
  | "lenient" => .ok .lenient
  | "strict" => .ok .strict
  | _ => .error ⟨s⟩

end OperatorPolicy

namespace MismatchPolicy

/-- The policy's name. -/
def name : MismatchPolicy → String
  | .propagate => "propagate"
  | .abort => "abort"

/-- The policy a text names. -/
def parse (s : String) : Except PolicyParseError MismatchPolicy :=
  match policyWord s with
  | "propagate" => .ok .propagate
  | "abort" => .ok .abort
  | _ => .error ⟨s⟩

end MismatchPolicy

end ScriptCore
