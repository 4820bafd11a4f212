import ScriptCore.Capability.Instance
import ScriptCore.Evaluation
import ScriptCore.Call
import ScriptCore.Settings

set_option autoImplicit false

/-! # Engines

An `Engine` is what a host holds to run script operations: its settings, the capabilities it
lets scripts build, the sink its output built-ins write to, the files it sees, and the objects
built so far. An object's identity is its place in creation order, counting from one; values
refer to objects by identity, so copies of a value share the object and its state.

Operations run in `EngineM`, a state of the engine with an exit: under the `abort` mismatch
policy, a type mismatch that reaches `Engine.narrow` ends the process, which `EngineM` records
as its error together with the engine as it was. Every other error is an ordinary result.

Narrowing happens where the engine checks a value it was handed or a result it got back: the
callee of `call` and its result, the result of `construct`, and the receiver of `callMethod`
and the method's result. `binary`, the output built-ins and an unknown method do not narrow. -/

namespace ScriptCore

/-- The state of a host's engine. -/
structure Engine where
  settings : Settings
  registry : Registry
  sink : Sink
  files : FileSystem
  objects : List Instance := []

/-- Engine operations: they change the engine and may end the process with a type mismatch. -/
abbrev EngineM := EStateM EvalError Engine

namespace Engine

/-- An engine with the given parts and no objects. -/
def create (settings : Settings) (registry : Registry) (sink : SinkKind) (files : FileSystem) :
    Engine :=
  { settings, registry, sink := Sink.empty sink, files }

/-- The default settings, files only, and output to the console. -/
def standard (files : FileSystem) : Engine :=
  create Settings.default Registry.standard .console files

/-- Like `standard`, with settings read from named variables. -/
def ofLookup (lookup : String → Option String) (files : FileSystem) : Except ConfigError Engine :=
  (Settings.ofLookup lookup).map fun s => create s Registry.standard .console files

/-- Whether an error ends the process under the engine's settings. -/
def isFatal (e : Engine) (err : EvalError) : Bool :=
  e.settings.onMismatch == .abort && err.isTypeMismatch

/-- Passes a result on, unless it is an error that ends the process. -/
def narrow {α : Type} (r : Except EvalError α) : EngineM (Except EvalError α) := do
  match r with
  | .error err => if (← get).isFatal err then throw err else pure (.error err)
  | .ok v => pure (.ok v)

/-- Keeps a new object and gives the value that refers to it. -/
def adopt (inst : Instance) : EngineM Value := do
  let e ← get
  set { e with objects := e.objects ++ [inst] }
  pure (.object ⟨e.objects.length + 1, inst.typeName⟩)

/-- The object a reference points to. -/
def instance? (e : Engine) (ref : ObjectRef) : Option Instance := e.objects[ref.id - 1]?

/-- Replaces the state of an object. -/
def store (ref : ObjectRef) (inst : Instance) : EngineM Unit :=
  modify fun e => { e with objects := e.objects.set (ref.id - 1) inst }

/-- Runs a native function with the engine's sink. -/
def runNative (body : Native) (args : List Value) : EngineM (Except EvalError Value) := do
  let e ← get
  let (r, sink) := body.run args e.sink
  set { e with sink }
  pure r

/-- A binary operator under the engine's operator policy. -/
def binary (op : BinaryOp) (left right : Value) : EngineM (Except EvalError Value) := do
  pure (evaluate (← get).settings.operators op left right)

/-- Calls a value as a function, narrowing the callee and the result. -/
def call (callee : Value) (args : List Value) : EngineM (Except EvalError Value) := do
  match ← narrow callee.asFunction with
  | .error err => pure (.error err)
  | .ok (_, body) => narrow (← runNative body args)

/-- Calls a value as a function, without narrowing. -/
def callValue (callee : Value) (args : List Value) : EngineM (Except EvalError Value) := do
  match callee.asFunction with
  | .error err => pure (.error err)
  | .ok (_, body) => runNative body args

/-- Builds an object of a registered capability; a failure gets a note naming the
capability. -/
def construct (capability : String) (arg : Value) : EngineM (Except EvalError Value) := do
  let e ← get
  let built := (e.registry.construct e.files capability arg).mapError
    (·.withNote ("while constructing `" ++ capability ++ "`"))
  match ← narrow built with
  | .error err => pure (.error err)
  | .ok inst => return .ok (← adopt inst)

/-- Opens a file directly, without the registry; a failure has no note. -/
def openFile (path : String) : EngineM (Except EvalError Value) := do
  match FileHandle.openPath (← get).files path with
  | .error err => pure (.error err)
  | .ok h => return .ok (← adopt (.file h))

/-- Builds a probe directly, without the registry; a failure has no note. -/
def wrapProbe (arg : Value) : EngineM (Except EvalError Value) := do
  match Probe.construct arg with
  | .error err => pure (.error err)
  | .ok p => return .ok (← adopt (.probe p))

/-- Calls a method of the object a value refers to. A receiver that is no object and an error
of the method get notes saying so. A method the object lacks gives `NULL` under lenient
operators and an error under strict ones. -/
def callMethod (receiver : Value) (method : String) (args : List Value) :
    EngineM (Except EvalError Value) := do
  let target := receiver.asObject.mapError (·.withNote ("calling method `" ++ method ++ "`"))
  match ← narrow target with
  | .error err => pure (.error err)
  | .ok ref =>
    let e ← get
    let answer := (e.instance? ref).bind fun inst => inst.call? method args
    match answer with
    | some (r, inst) =>
      store ref inst
      narrow (r.mapError (·.withNote ("in method `" ++ method ++ "` of " ++ ref.typeName)))
    | none =>
      match e.settings.operators with
      | .lenient => pure (.ok .null)
      | .strict => pure (.error (.ofKind (.undefinedMethod method ref.typeName)))

/-- Calls a method of an object as the object itself answers: `none` for a method it lacks,
with no notes and no narrowing. -/
def rawMethod (ref : ObjectRef) (method : String) (args : List Value) :
    EngineM (Option (Except EvalError Value)) := do
  match ((← get).instance? ref).bind fun inst => inst.call? method args with
  | some (r, inst) =>
    store ref inst
    pure (some r)
  | none => pure none

/-- Runs an output built-in on the engine's sink. -/
def output (b : Builtin) (args : List Value) : EngineM (Except EvalError Value) :=
  runNative (.builtin b) args

/-- The text a reader of the sink sees. -/
def readOutput : EngineM String := do pure (← get).sink.output

/-- The text a reader of the sink sees, which the sink then drops. -/
def takeOutput : EngineM String := do
  let e ← get
  let (text, sink) := e.sink.take
  set { e with sink }
  pure text

/-- Drops the text the sink keeps. -/
def clearOutput : EngineM Unit := modify fun e => { e with sink := e.sink.clear }

/-- The function value of a built-in, by name. -/
def builtin? (name : String) : Option Value := (Builtin.ofName? name).map Builtin.value

/-- The built-ins by name, in a fixed order. -/
def builtins : List (String × Value) := [Builtin.print, .write].map fun b => (b.name, b.value)

end Engine

end ScriptCore
