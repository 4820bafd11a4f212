import ScriptCore.Engine.Basic

set_option autoImplicit false

/-! # Host sessions

A session is a host driving an engine through a list of actions, keeping values under names.
Each action names its values by `Term`s: literal values, lists of terms, names bound earlier,
and functions that return a described value. Each action gives one `Reply`.

`Session.run` performs the actions in order. After an action whose reply carries a value, the
value is bound to the name `bind` gives and, for an action that computes a value, to the name
the step keeps it under, if it gives one. The run stops early in four ways: an action that
names an unbound value, a type mismatch that ends the process under the `abort` policy, a
value to be kept under something that is not a name, and a step that cannot be read
(`Session.runReading` reads each step only when the run reaches it). The transcript then
holds the replies before that step, how the run ended, and the engine as it was left, whose
console text is all that was written. -/

namespace ScriptCore

/-- A host's description of a value. -/
inductive Term where
  | lit (v : Value)
  | list (items : List Term)
  | var (name : String)
  /-- A function, optionally named, that ignores its arguments and returns the value. -/
  | returning (name : Option String) (result : Term)

/-- Values bound to names, the latest binding of a name first. -/
abbrev Bindings := List (String × Value)

mutual

/-- The value a term describes, or the first name it uses that is not bound. -/
def Term.resolve (env : Bindings) : Term → Except String Value
  | .lit v => .ok v
  | .list items => (Term.resolveAll env items).map Value.list
  | .var name => match env.lookup name with
    | some v => .ok v
    | none => .error name
  | .returning name result => (Term.resolve env result).map fun v => .function name (.constant v)

/-- The values of a list of terms. -/
def Term.resolveAll (env : Bindings) : List Term → Except String (List Value)
  | [] => .ok []
  | t :: rest => do
    let v ← Term.resolve env t
    let vs ← Term.resolveAll env rest
    pure (v :: vs)

end

/-- What a host asks its engine to do. -/
inductive Action where
  | binary (left right : Term) (symbol : String)
  | call (callee : Term) (args : List Term)
  | callValue (callee : Term) (args : List Term)
  | construct (capability : String) (arg : Term)
  | callMethod (receiver : Term) (method : String) (args : List Term)
  | openFile (path : String)
  | wrapProbe (arg : Term)
  | rawMethod (receiver : Term) (method : String) (args : List Term)
  | output (b : Builtin) (args : List Term)
  | readOutput
  | takeOutput
  | clearOutput
  | bind (name : String) (value : Term)
  | narrow (value : Term) (shape : Shape)
  | builtin (name : String)
  | builtins
  | describe (value : Term)
  | settings
  | registry (query : List String)
  | objectInfo (value : Term) (query : List String)

/-- The name a step asks to keep its value under, as the host wrote it. -/
inductive Keep where
  | nothing
  | name (n : String)
  /-- Something other than a name. -/
  | malformed
  deriving DecidableEq, Repr

/-- An action and the name its value is kept under. -/
structure Step where
  action : Action
  keep : Keep := .nothing

/-- What a host can learn about an object. -/
structure ObjectInfo where
  typeName : String
  methodNames : List String
  /-- For each name asked about, the number of arguments of the method of that name. -/
  methods : List (String × Option Nat)
  describe : String

/-- What a host learns about an object, asking about some method names. -/
def ObjectInfo.of (inst : Instance) (query : List String) : ObjectInfo where
  typeName := inst.typeName
  methodNames := inst.methodNames
  methods := query.map fun name => (name, inst.arity? name)
  describe := inst.describe

/-- The answer to one action. -/
inductive Reply where
  | result (r : Except EvalError Value)
  | opened (r : Except EvalError Value) (path : String)
  | unknownOperator (symbol : String)
  | method (r : Option (Except EvalError Value))
  | output (text : String)
  | cleared
  | builtin (v : Option Value)
  | builtins (entries : List (String × Value))
  | describe (v : Value)
  | settings (s : Settings)
  | registry (names : List String) (contains : List (String × Bool))
  | objectInfo (info : ObjectInfo)

/-- The value a reply carries, if any. -/
def Reply.value? : Reply → Option Value
  | .result (.ok v) => some v
  | .opened (.ok v) _ => some v
  | .method (some (.ok v)) => some v
  | .builtin (some v) => some v
  | _ => none

/-- How a run ended. -/
inductive Ending where
  | finished
  | halted (err : EvalError)
  | unbound (name : String)
  /-- A value was to be kept under something that is not a name. -/
  | unnamed
  /-- A step could not be read, for the reason given. -/
  | unreadable (reason : String)

/-- The replies of a run, how it ended, and the engine it left. -/
structure Transcript where
  replies : List Reply
  ending : Ending
  engine : Engine

/-- An action's work: on the engine, failing with the first unbound name. -/
abbrev StepM := ExceptT String EngineM

namespace Action

/-- The value of a term under the bindings. -/
def value (env : Bindings) (t : Term) : StepM Value :=
  match t.resolve env with
  | .ok v => pure v
  | .error name => throw name

/-- The values of terms under the bindings. -/
def values (env : Bindings) (ts : List Term) : StepM (List Value) :=
  match Term.resolveAll env ts with
  | .ok vs => pure vs
  | .error name => throw name

/-- Performs an action. -/
def perform (env : Bindings) : Action → StepM Reply
  | .binary left right symbol => do
    let l ← value env left
    let r ← value env right
    match BinaryOp.ofSymbol? symbol with
    | some op => return .result (← Engine.binary op l r)
    | none => pure (.unknownOperator symbol)
  | .call callee args => do
    let f ← value env callee
    let vs ← values env args
    return .result (← Engine.call f vs)
  | .callValue callee args => do
    let f ← value env callee
    let vs ← values env args
    return .result (← Engine.callValue f vs)
  | .construct capability arg => do
    let v ← value env arg
    return .result (← Engine.construct capability v)
  | .callMethod receiver method args => do
    let r ← value env receiver
    let vs ← values env args
    return .result (← Engine.callMethod r method vs)
  | .openFile path => do return .opened (← Engine.openFile path) path
  | .wrapProbe arg => do
    let v ← value env arg
    return .result (← Engine.wrapProbe v)
  | .rawMethod receiver method args => do
    let r ← value env receiver
    let vs ← values env args
    match r.asObject with
    | .error err => pure (.result (.error err))
    | .ok ref => return .method (← Engine.rawMethod ref method vs)
  | .output b args => do
    let vs ← values env args
    return .result (← Engine.output b vs)
  | .readOutput => do return .output (← Engine.readOutput)
  | .takeOutput => do return .output (← Engine.takeOutput)
  | .clearOutput => do
    Engine.clearOutput
    pure .cleared
  | .bind _ t => do return .result (.ok (← value env t))
  | .narrow t shape => do
    let v ← value env t
    return .result (← Engine.narrow (v.narrow shape))
  | .builtin name => pure (.builtin (Engine.builtin? name))
  | .builtins => pure (.builtins Engine.builtins)
  | .describe t => do return .describe (← value env t)
  | .settings => do return .settings (← get).settings
  | .registry query => do
    let reg := (← get).registry
    pure (.registry reg.names (query.map fun name => (name, reg.contains name)))
  | .objectInfo t query => do
    let v ← value env t
    match v.asObject with
    | .error err => pure (.result (.error err))
    | .ok ref =>
      match (← get).instance? ref with
      | some inst => pure (.objectInfo (ObjectInfo.of inst query))
      | none => pure (.result (.error (Value.mismatch .object v)))

/-- The name an action binds by itself: `bind` binds its name. -/
def ownName? : Action → Option String
  | .bind name _ => some name
  | _ => none

/-- Whether a step may keep the action's value under a name of its own: the actions that
compute a value with the engine, the output built-ins and `bind` may, while `narrow`, which
only checks a value, and the actions that answer with text or facts may not. -/
def keepsValue : Action → Bool
  | .binary .. | .call .. | .callValue .. | .construct .. | .callMethod .. | .openFile _
  | .wrapProbe _ | .rawMethod .. | .builtin _ | .output .. | .bind .. => true
  | _ => false

end Action

/-- The names a step binds the value of its action to, or `none` when the value is to be kept
under something that is not a name. -/
def Step.names? (step : Step) : Option (List String) :=
  let own := step.action.ownName?.toList
  if !step.action.keepsValue then some own else
  match step.keep with
  | .nothing => some own
  | .name n => some (own ++ [n])
  | .malformed => none

/-- A host and the values it keeps by name. -/
structure Session where
  engine : Engine
  bindings : Bindings := []

namespace Session

/-- Performs one step: its reply and the session after it, or how the run ends there, with the
engine as the step left it. -/
def step (s : Session) (st : Step) : Except (Ending × Engine) (Reply × Session) :=
  match (Action.perform s.bindings st.action).run s.engine with
  | .ok (.ok reply) engine =>
    match reply.value?, st.names? with
    | none, _ => .ok (reply, ⟨engine, s.bindings⟩)
    | some v, some names =>
      .ok (reply, ⟨engine, names.foldl (fun env name => (name, v) :: env) s.bindings⟩)
    | some _, none => .error (.unnamed, engine)
  | .ok (.error name) engine => .error (.unbound name, engine)
  | .error err engine => .error (.halted err, engine)

/-- Reads and performs steps in order, collecting replies, until they run out or the run
stops; a step is read only when the run reaches it, and one that cannot be read ends the run. -/
def runReading {σ : Type} (read : σ → Except String Step) :
    Session → List σ → List Reply → Transcript
  | s, [], acc => ⟨acc.reverse, .finished, s.engine⟩
  | s, written :: rest, acc =>
    match read written with
    | .error reason => ⟨acc.reverse, .unreadable reason, s.engine⟩
    | .ok st =>
      match s.step st with
      | .ok (reply, next) => runReading read next rest (reply :: acc)
      | .error (ending, engine) => ⟨acc.reverse, ending, engine⟩

/-- Runs steps on an engine, starting with no names bound. -/
def run (engine : Engine) (steps : List Step) : Transcript :=
  runReading Except.ok ⟨engine, []⟩ steps []

end Session

end ScriptCore
