set_option autoImplicit false

/-! # Binary operators

The language has ten binary operators: the four arithmetic ones `+ - * /` and the six
comparisons `== != < <= > >=`. Each is written by exactly one symbol, and `BinaryOp.ofSymbol?`
reads back exactly the symbols that `BinaryOp.symbol` writes (`ofSymbol?_symbol`,
`symbol_of_ofSymbol?`): no blanks around them, no other spelling. -/

namespace ScriptCore

/-- A binary operator of the language. -/
inductive BinaryOp where
  | add
  | sub
  | mul
  | div
  | eq
  | ne
  | lt
  | le
  | gt
  | ge
  deriving DecidableEq, Repr

/-- The four arithmetic operators. -/
inductive Arith where
  | add
  | sub
  | mul
  | div
  deriving DecidableEq, Repr

namespace BinaryOp

/-- Every operator, in the order of the constructors. -/
def all : List BinaryOp := [.add, .sub, .mul, .div, .eq, .ne, .lt, .le, .gt, .ge]

theorem mem_all (op : BinaryOp) : op ∈ all := by
  cases op <;> simp [all]

/-- The symbol that writes the operator. -/
def symbol : BinaryOp → String
  | .add => "+"
  | .sub => "-"
  | .mul => "*"
  | .div => "/"
  | .eq => "=="
  | .ne => "!="
  | .lt => "<"
  | .le => "<="
  | .gt => ">"
  | .ge => ">="

/-- The operator's name in diagnostics. -/
def label : BinaryOp → String
  | .add => "Add"
  | .sub => "Sub"
  | .mul => "Mul"
  | .div => "Div"
  | .eq => "Eq"
  | .ne => "NotEq"
  | .lt => "Lt"
  | .le => "LtEq"
  | .gt => "Gt"
  | .ge => "GtEq"

/-- The operator a symbol writes, if any. -/
def ofSymbol? (s : String) : Option BinaryOp := all.find? (·.symbol == s)

/-- Whether the operator compares its operands (its result is `1` or `0`). -/
def isComparison : BinaryOp → Bool
  | .add | .sub | .mul | .div => false
  | _ => true

/-- The arithmetic operator, for the four arithmetic ones. -/
def toArith? : BinaryOp → Option Arith
  | .add => some .add
  | .sub => some .sub
  | .mul => some .mul
  | .div => some .div
  | _ => none

theorem ofSymbol?_symbol (op : BinaryOp) : ofSymbol? op.symbol = some op := by
  cases op <;> decide

theorem symbol_of_ofSymbol? {s : String} {op : BinaryOp} (h : ofSymbol? s = some op) :
    op.symbol = s := by
  have := List.find?_some h
  simpa using this

end BinaryOp

namespace Arith

/-- The binary operator of an arithmetic one. -/
def toBinaryOp : Arith → BinaryOp
  | .add => .add
  | .sub => .sub
  | .mul => .mul
  | .div => .div

/-- The name of the operation, as integer overflow reports it. -/
def operationName : Arith → String
  | .add => "addition"
  | .sub => "subtraction"
  | .mul => "multiplication"
  | .div => "division"

theorem toArith?_toBinaryOp (a : Arith) : a.toBinaryOp.toArith? = some a := by
  cases a <;> rfl

end Arith

end ScriptCore
