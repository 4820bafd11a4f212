import ScriptCore.Capability.MethodTable

set_option autoImplicit false

/-! # Probes

A probe is a capability that keeps the value it was configured with and answers a few fixed
methods about it; it exercises method dispatch without touching the host. Configuring it with
`NULL` fails. Its methods are `get` (the kept value), `echo` (its one argument), `pair` (its
two arguments as a list), `dup` and `int` (the kept value as an integer). `dup` is inserted
twice, first taking no argument and then one, and the second insertion replaces the first. -/

namespace ScriptCore

/-- A probe and the value it keeps. -/
structure Probe where
  kept : Value

namespace Probe

/-- The capability type name of probes. -/
def typeName : String := "probe"

/-- A probe keeping a configuration value, which must not be `NULL`. -/
def construct (arg : Value) : Except EvalError Probe :=
  match arg with
  | .null => .error (.ofKind (.resourceUnavailable "probe" "no configuration"))
  | v => .ok ⟨v⟩

/-- A method that answers without changing the probe. -/
def answer (f : Probe → List Value → Except EvalError Value) (p : Probe) (args : List Value) :
    Except EvalError Value × Probe :=
  (f p args, p)

/-- The methods of a probe. -/
def methods : MethodTable Probe :=
  MethodTable.empty
    |>.insert "get" 0 (answer fun p _ => .ok p.kept)
    |>.insert "echo" 1 (answer fun _ args => .ok (args.headD .null))
    |>.insert "pair" 2 (answer fun _ args => .ok (.list args))
    |>.insert "dup" 0 (answer fun _ _ => .ok (.int 0))
    |>.insert "dup" 1 (answer fun _ _ => .ok (.int 1))
    |>.insert "int" 0 (answer fun p _ => p.kept.asInt.map Value.int)

end Probe

end ScriptCore
