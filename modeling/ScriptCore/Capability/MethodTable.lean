import ScriptCore.Value.Basic

set_option autoImplicit false

/-! # Method tables

A capability's methods are a table from names to methods. A method has a fixed number of
arguments and runs on the state of its receiver, giving a result and the receiver's new
state. `MethodTable.insert` adds a method, replacing one of the same name, so the last
insertion of a name wins; `MethodTable.names` lists the names in increasing order, each once.

Calling a method first checks the number of arguments: a wrong count is an arity error naming
the method, and then the method does not run. -/

namespace ScriptCore

/-- A method on receivers of state `σ`. -/
structure Method (σ : Type) where
  name : String
  arity : Nat
  run : σ → List Value → Except EvalError Value × σ

/-- Methods by name, at most one for each name. -/
structure MethodTable (σ : Type) where
  entries : List (Method σ)

namespace MethodTable

variable {σ : Type}

/-- The table with no methods. -/
def empty : MethodTable σ := ⟨[]⟩

/-- The table with a method added; one of the same name is replaced. -/
def insert (t : MethodTable σ) (name : String) (arity : Nat)
    (run : σ → List Value → Except EvalError Value × σ) : MethodTable σ :=
  ⟨t.entries.filter (·.name != name) ++ [⟨name, arity, run⟩]⟩

/-- The method of a name, if any. -/
def get? (t : MethodTable σ) (name : String) : Option (Method σ) :=
  t.entries.find? (·.name == name)

/-- The names of the methods, in increasing order. -/
def names (t : MethodTable σ) : List String :=
  (t.entries.map (·.name)).mergeSort fun a b => decide (a ≤ b)

/-- The number of arguments a method takes, if there is one of that name. -/
def arity? (t : MethodTable σ) (name : String) : Option Nat := (t.get? name).map (·.arity)

end MethodTable

/-- Runs a method after checking the number of arguments. -/
def Method.invoke {σ : Type} (m : Method σ) (receiver : σ) (args : List Value) :
    Except EvalError Value × σ :=
  if args.length = m.arity then m.run receiver args
  else (.error (.ofKind (.arityMismatch m.name m.arity args.length)), receiver)

/-- Calls the method of a name, if there is one. -/
def MethodTable.call? {σ : Type} (t : MethodTable σ) (name : String) (receiver : σ)
    (args : List Value) : Option (Except EvalError Value × σ) :=
  (t.get? name).map fun m => m.invoke receiver args

end ScriptCore
