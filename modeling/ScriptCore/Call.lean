import ScriptCore.Value.Text
import ScriptCore.Output

set_option autoImplicit false

/-! # Calling native functions

A call gives the function's result and the sink after it: only the output built-ins write to
the sink. `print` and `write` take one or two arguments, write the display of each, one after
the other, and answer `NULL`; `print` ends the text with a line feed. Any other number of
arguments is an error, and then nothing is written. -/

namespace ScriptCore

namespace Builtin

/-- The text an output built-in writes for its arguments. -/
def text (b : Builtin) : List Value → Except EvalError String
  | [v] => .ok v.display
  | [v, w] => .ok (v.display ++ w.display)
  | args => .error (.ofKind (.arityOutOfRange b.name 1 2 args.length))

/-- Runs an output built-in on its arguments. -/
def run (b : Builtin) (args : List Value) (sink : Sink) : Except EvalError Value × Sink :=
  match b.text args with
  | .ok t =>
    let line := match b with
      | .print => t ++ "\n"
      | .write => t
    (.ok .null, sink.write line)
  | .error e => (.error e, sink)

/-- The function value of a built-in. -/
def value (b : Builtin) : Value := .function (some b.name) (.builtin b)

/-- The built-in a name calls, if any. -/
def ofName? (name : String) : Option Builtin :=
  [Builtin.print, .write].find? (·.name == name)

end Builtin

/-- Runs a native function on its arguments. -/
def Native.run (body : Native) (args : List Value) (sink : Sink) : Except EvalError Value × Sink :=
  match body with
  | .constant v => (.ok v, sink)
  | .arguments => (.ok (.list args), sink)
  | .failure e => (.error e, sink)
  | .builtin b => b.run args sink

/-- Calls a value: a function runs, anything else is a type mismatch. -/
def Value.call (callee : Value) (args : List Value) (sink : Sink) : Except EvalError Value × Sink :=
  match callee.asFunction with
  | .ok (_, body) => body.run args sink
  | .error e => (.error e, sink)

end ScriptCore
