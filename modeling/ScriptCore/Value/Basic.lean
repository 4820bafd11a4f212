import ScriptCore.Binary32.Basic
import ScriptCore.Error

set_option autoImplicit false

/-! # Values

A `Value` is what a program of the language holds: nothing (`null`), a 32-bit two's-complement
integer, a binary32 float, a text, a list of values, a native function, or a reference to an
object that a capability made. Functions are described by what they do (`Native`), so that a
value is plain data; an object is referred to by its identity and its type's name, while its
state lives in the engine that made it.

Every value has a `Shape`, the variant it is. `Value.narrow` is the one check that a value has
the shape a caller needs; it answers a type mismatch that names the shape needed and the
`typeName` of the value given. Type names tell shapes apart: a list's type name is bracketed
and spells its items' type names, and no other shape's type name starts with a bracket. -/

namespace ScriptCore

/-- An output built-in: `print` writes a line, `write` writes text as it is. -/
inductive Builtin where
  | print
  | write
  deriving DecidableEq, Repr

/-- The name a built-in is called by. -/
def Builtin.name : Builtin → String
  | .print => "print"
  | .write => "write"

/-- A reference to an object: its identity within the engine that made it, and the name of
its capability type. -/
structure ObjectRef where
  id : Nat
  typeName : String
  deriving DecidableEq, Repr

mutual

/-- A value of the language. -/
inductive Value where
  | null
  | int (n : Int32)
  | float (x : Binary32)
  | str (s : String)
  | list (items : List Value)
  /-- A native function, with an optional name, doing what `body` says. -/
  | function (name : Option String) (body : Native)
  | object (ref : ObjectRef)

/-- What a native function does with the arguments it is called with. -/
inductive Native where
  /-- Ignores its arguments and returns a value. -/
  | constant (result : Value)
  /-- Returns its arguments as a list. -/
  | arguments
  /-- Ignores its arguments and fails with an error. -/
  | failure (error : EvalError)
  /-- Writes its arguments to the output of the engine it belongs to. -/
  | builtin (b : Builtin)

end

/-- The seven variants of values. -/
inductive Shape where
  | null
  | int
  | float
  | str
  | list
  | function
  | object
  deriving DecidableEq, Repr

namespace Shape

/-- Every shape, in the order of the constructors. -/
def all : List Shape := [.null, .int, .float, .str, .list, .function, .object]

/-- The name of a shape: what a type mismatch says was expected. -/
def name : Shape → String
  | .null => "NULL"
  | .int => "int"
  | .float => "float"
  | .str => "string"
  | .list => "list"
  | .function => "function"
  | .object => "instance"

end Shape

namespace Value

/-- The variant of a value. -/
def shape : Value → Shape
  | .null => .null
  | .int _ => .int
  | .float _ => .float
  | .str _ => .str
  | .list _ => .list
  | .function _ _ => .function
  | .object _ => .object

/-- The variant's name. -/
def variantName (v : Value) : String := v.shape.name

mutual

/-- The type of a value as messages name it: the shape's name, and for a list `[ `, the type
name of each item followed by a space, and `]`. -/
def typeName : Value → String
  | .list items => "[ " ++ itemTypeNames items ++ "]"
  | .null => Shape.null.name
  | .int _ => Shape.int.name
  | .float _ => Shape.float.name
  | .str _ => Shape.str.name
  | .function _ _ => Shape.function.name
  | .object _ => Shape.object.name

/-- The type names of list items, each followed by a space. -/
def itemTypeNames : List Value → String
  | [] => ""
  | v :: rest => typeName v ++ " " ++ itemTypeNames rest

end

/-- Truth as a value: `1` or `0`. -/
def ofBool (b : Bool) : Value := .int (if b then 1 else 0)

/-- The value itself when it has the shape `s`, otherwise a type mismatch naming `s` and the
value's type name. -/
def narrow (s : Shape) (v : Value) : Except EvalError Value :=
  if v.shape = s then .ok v
  else .error (.ofKind (.typeMismatch s.name v.typeName))

/-- The type mismatch of a value that lacks the shape `s`. -/
def mismatch (s : Shape) (v : Value) : EvalError := .ofKind (.typeMismatch s.name v.typeName)

/-- The integer a value holds. -/
def asInt : Value → Except EvalError Int32
  | .int n => .ok n
  | v => .error (mismatch .int v)

/-- The float a value holds. -/
def asFloat : Value → Except EvalError Binary32
  | .float x => .ok x
  | v => .error (mismatch .float v)

/-- The text a value holds. -/
def asStr : Value → Except EvalError String
  | .str s => .ok s
  | v => .error (mismatch .str v)

/-- The items a value holds. -/
def asList : Value → Except EvalError (List Value)
  | .list items => .ok items
  | v => .error (mismatch .list v)

/-- The function a value holds, as its name and behaviour. -/
def asFunction : Value → Except EvalError (Option String × Native)
  | .function name body => .ok (name, body)
  | v => .error (mismatch .function v)

/-- The object a value refers to. -/
def asObject : Value → Except EvalError ObjectRef
  | .object ref => .ok ref
  | v => .error (mismatch .object v)

end Value

end ScriptCore
