import ScriptCore.Operator

set_option autoImplicit false

/-! # Evaluation errors

An `EvalError` is a cause, an `ErrorKind`, together with the notes that callers added on its
way out, innermost first. `ErrorKind.message` is the one place where a cause is worded;
`EvalError.render` writes the cause and then each note on a line of its own, indented by two
spaces and marked `note:`, while an error's plain text is its cause alone. Adding a note never
changes the cause. -/

namespace ScriptCore

/-- What went wrong. -/
inductive ErrorKind where
  /-- A value of one type was needed and a value of another came. -/
  | typeMismatch (expected got : String)
  /-- An operator does not apply to operands of these types. -/
  | unsupportedOperation (op : BinaryOp) (left right : String)
  /-- An integer was divided by zero. -/
  | divisionByZero
  /-- The exact integer result does not fit in 32 bits. -/
  | integerOverflow (operation : String)
  /-- A host resource could not be used. -/
  | resourceUnavailable (resource reason : String)
  /-- An object has no method of this name. -/
  | undefinedMethod (method typeName : String)
  /-- No capability of this name is registered. -/
  | undefinedCapability (name : String)
  /-- A callable took a fixed number of arguments and got another. -/
  | arityMismatch (name : String) (expected got : Nat)
  /-- A callable took a range of argument counts and got one outside it. -/
  | arityOutOfRange (name : String) (min max got : Nat)
  deriving DecidableEq, Repr

namespace ErrorKind

/-- The text of a cause. -/
def message : ErrorKind → String
  | .typeMismatch expected got => s!"type mismatch: expected {expected}, got {got}"
  | .unsupportedOperation op left right =>
    "operator `" ++ op.symbol ++ "` cannot be applied to `" ++ left ++ "` and `" ++ right ++ "`"
  | .divisionByZero => "division by zero"
  | .integerOverflow operation => s!"integer overflow in {operation}"
  | .resourceUnavailable resource reason => s!"resource unavailable: {resource}: {reason}"
  | .undefinedMethod method typeName => s!"no method '{method}' on type {typeName}"
  | .undefinedCapability name => s!"undefined capability: {name}"
  | .arityMismatch name expected got => s!"{name} expects {expected} argument(s), got {got}"
  | .arityOutOfRange name min max got => s!"{name} expects {min} to {max} arguments, got {got}"

end ErrorKind

/-- A cause with the notes added on its way out, innermost first. -/
structure EvalError where
  kind : ErrorKind
  notes : List String := []
  deriving DecidableEq, Repr

namespace EvalError

/-- An error with a cause and no notes. -/
def ofKind (kind : ErrorKind) : EvalError := { kind }

/-- The error with one more note, outside the ones it has. -/
def withNote (e : EvalError) (note : String) : EvalError := { e with notes := e.notes ++ [note] }

/-- How a note is written on its own. -/
def noteText (note : String) : String := "note: " ++ note

/-- The cause and then every note, each on its own line after two spaces. -/
def render (e : EvalError) : String :=
  e.kind.message ++ String.join (e.notes.map fun note => "\n  " ++ noteText note)

/-- An error as text: the cause alone, without the notes. -/
instance : ToString EvalError := ⟨fun e => e.kind.message⟩

/-- Whether the cause is a type mismatch. -/
def isTypeMismatch (e : EvalError) : Bool :=
  match e.kind with
  | .typeMismatch .. => true
  | _ => false

@[simp] theorem withNote_kind (e : EvalError) (note : String) : (e.withNote note).kind = e.kind :=
  rfl

@[simp] theorem withNote_notes (e : EvalError) (note : String) :
    (e.withNote note).notes = e.notes ++ [note] :=
  rfl

end EvalError

end ScriptCore
