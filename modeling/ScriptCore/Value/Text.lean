import ScriptCore.Value.Basic
import ScriptCore.Decimal.Notation
import ScriptCore.Text.Quoted

set_option autoImplicit false

/-! # Writing values

Each value has two texts. `Value.display` is what output built-ins write: `NULL`, the integer
in decimal, the float in plain notation (shortest digits, never an exponent), the text itself,
a list as `[ ` followed by each item's display and a space and then `]`, `<function>`, and an
object as `<instance TYPE@#ID>`.

`Value.debug` names the variant and shows the payload so that it can be read back:
`Null`, `Int(n)`, `Float(x)` in detailed notation (`1.0`, `1e-7`), `Str("…")` with the text
quoted, `List([a, b])`, `Function(<native-fn NAME>)` or `Function(<native-fn>)`, and
`Object(TYPE)`. -/

namespace ScriptCore

namespace Value

/-- The decimal text of an integer. -/
def intText (n : Int32) : String := toString n.toInt

mutual

/-- The text that output built-ins write for a value. -/
def display : Value → String
  | .null => "NULL"
  | .int n => intText n
  | .float x => Notation.plain.render x
  | .str s => s
  | .list items => "[ " ++ displayItems items ++ "]"
  | .function _ _ => "<function>"
  | .object ref => "<instance " ++ ref.typeName ++ "@#" ++ toString ref.id ++ ">"

/-- The display of list items, each followed by a space. -/
def displayItems : List Value → String
  | [] => ""
  | v :: rest => display v ++ " " ++ displayItems rest

end

/-- How a function's name shows in its debug text. -/
def nativeText : Option String → String
  | none => "<native-fn>"
  | some name => "<native-fn " ++ name ++ ">"

mutual

/-- The text that names a value's variant and shows its payload. -/
def debug : Value → String
  | .null => "Null"
  | .int n => "Int(" ++ intText n ++ ")"
  | .float x => "Float(" ++ Notation.detailed.render x ++ ")"
  | .str s => "Str(" ++ Text.quote s ++ ")"
  | .list items => "List([" ++ debugItems items ++ "])"
  | .function name _ => "Function(" ++ nativeText name ++ ")"
  | .object ref => "Object(" ++ ref.typeName ++ ")"

/-- The debug texts of list items, separated by a comma and a space. -/
def debugItems : List Value → String
  | [] => ""
  | [v] => debug v
  | v :: rest => debug v ++ ", " ++ debugItems rest

end

end Value

end ScriptCore
