import ScriptCore.Capability.File
import ScriptCore.Capability.Probe

set_option autoImplicit false

/-! # Capability instances and the registry

A capability is a kind of host object that scripts build by name from one configuration
value. The library provides two kinds, files and probes; a host adds kinds of its own
(`HostKind`), each with a type name, a constructor and a table of methods over the state of its
objects, which such an object keeps as a value. `Instance` is a live object of one kind with its
state, and the methods of an instance are those of its kind's table.

A `Registry` maps type names to the kinds an engine lets scripts build. Registering a kind
replaces the kind registered under the same type name, so the last registration of a name wins;
`Registry.names` lists the type names in increasing order, and building a name that is not
registered is an error naming it. -/

namespace ScriptCore

/-- A capability kind that a host defines. Its objects keep their state as a value. Two facts
about the kind are part of it: its type name is not the name of a kind the library provides, and
its constructor fails as a capability's construction does, only on a configuration value of the
wrong shape or on a resource it could not acquire. -/
structure HostKind where
  typeName : String
  /-- The state of a new object, built from the configuration value. -/
  construct : Value → Except EvalError Value
  methods : MethodTable Value
  typeName_fresh : typeName ≠ FileHandle.typeName ∧ typeName ≠ Probe.typeName
  construct_error : ∀ arg err, construct arg = .error err →
    (∃ expected got, err.kind = .typeMismatch expected got) ∨
      ∃ resource reason, err.kind = .resourceUnavailable resource reason

/-- The kinds of capability objects: the library's files and probes, and the kinds hosts
define. -/
inductive CapabilityKind where
  | file
  | probe
  | host (k : HostKind)

/-- The type name of a kind. -/
def CapabilityKind.typeName : CapabilityKind → String
  | .file => FileHandle.typeName
  | .probe => Probe.typeName
  | .host k => k.typeName

/-- A live capability object and its state. -/
inductive Instance where
  | file (h : FileHandle)
  | probe (p : Probe)
  | host (k : HostKind) (state : Value)

namespace Instance

/-- The kind of an instance. -/
def kind : Instance → CapabilityKind
  | .file _ => .file
  | .probe _ => .probe
  | .host k _ => .host k

/-- The type name of an instance: its kind's. -/
def typeName (i : Instance) : String := i.kind.typeName

/-- The names of the instance's methods, in increasing order. -/
def methodNames : Instance → List String
  | .file _ => FileHandle.methods.names
  | .probe _ => Probe.methods.names
  | .host k _ => k.methods.names

/-- The number of arguments of a method, if the instance has one of that name. -/
def arity? : Instance → String → Option Nat
  | .file _, name => FileHandle.methods.arity? name
  | .probe _, name => Probe.methods.arity? name
  | .host k _, name => k.methods.arity? name

/-- Whether the instance has a method of that name. -/
def hasMethod (i : Instance) (name : String) : Bool := (i.arity? name).isSome

/-- Calls a method, if the instance has one of that name: its result and the new state. -/
def call? : Instance → String → List Value → Option (Except EvalError Value × Instance)
  | .file h, name, args => (FileHandle.methods.call? name h args).map fun r => (r.1, .file r.2)
  | .probe p, name, args => (Probe.methods.call? name p args).map fun r => (r.1, .probe r.2)
  | .host k s, name, args => (k.methods.call? name s args).map fun r => (r.1, .host k r.2)

/-- How an instance shows in diagnostics. -/
def describe (i : Instance) : String := "<instance " ++ i.typeName ++ ">"

end Instance

/-- Builds an instance of a kind from a configuration value. -/
def CapabilityKind.construct (fs : FileSystem) (arg : Value) : CapabilityKind → Except EvalError Instance
  | .file => (FileHandle.construct fs arg).map .file
  | .probe => (Probe.construct arg).map .probe
  | .host k => (k.construct arg).map (.host k)

/-- The kinds an engine lets scripts build. -/
structure Registry where
  kinds : List CapabilityKind

namespace Registry

/-- No kinds. -/
def empty : Registry := ⟨[]⟩

/-- The registry with a kind added; a kind registered under the same type name is replaced. -/
def register (r : Registry) (k : CapabilityKind) : Registry :=
  ⟨r.kinds.filter (·.typeName != k.typeName) ++ [k]⟩

/-- Files only: what an engine offers unless told otherwise. -/
def standard : Registry := empty.register .file

/-- The kind registered under a type name. -/
def find? (r : Registry) (name : String) : Option CapabilityKind :=
  r.kinds.find? (·.typeName == name)

/-- Whether a type name is registered. -/
def contains (r : Registry) (name : String) : Bool := (r.find? name).isSome

/-- The registered type names, in increasing order. -/
def names (r : Registry) : List String :=
  (r.kinds.map (·.typeName)).mergeSort fun a b => decide (a ≤ b)

/-- Builds an instance of the kind registered under a name. -/
def construct (r : Registry) (fs : FileSystem) (name : String) (arg : Value) :
    Except EvalError Instance :=
  match r.find? name with
  | some k => k.construct fs arg
  | none => .error (.ofKind (.undefinedCapability name))

end Registry

end ScriptCore
