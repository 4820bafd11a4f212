import ScriptCore.Value.Basic

set_option autoImplicit false

/-! # Type names encode shapes

A value's type name is what diagnostics say it is: the variant's name, and for a list `[ `, each
item's type name followed by a space, and `]`. This module shows that the type name loses nothing
of a value's shape, its variant at every level of nesting: two values have the same type name
exactly when they have the same `ShapeTree`.

The proof is a unique-decoding argument on characters. No variant's name starts with a bracket,
and every item's type name is followed by a space, so a type name can be read back from the
front of any text it begins (`ShapeTree.typeName_append_inj`), one constructor at a time.

Main statement: `Value.typeName_encodes_shape`. -/

namespace ScriptCore

/-- The shape of a value at every level: a leaf naming the variant, and for a list a node over
the shapes of its items. -/
inductive ShapeTree where
  | leaf (s : Shape)
  | list (items : List ShapeTree)

namespace ShapeTree

mutual

/-- The type name of a value of this shape. -/
def typeName : ShapeTree → String
  | .leaf s => s.name
  | .list items => "[ " ++ itemTypeNames items ++ "]"

/-- The type names of list items of these shapes, each followed by a space. -/
def itemTypeNames : List ShapeTree → String
  | [] => ""
  | t :: rest => typeName t ++ " " ++ itemTypeNames rest

end

end ShapeTree

namespace Value

mutual

/-- The shape of a value at every level. -/
def shapeTree : Value → ShapeTree
  | .list items => .list (itemShapeTrees items)
  | v => .leaf v.shape

/-- The shapes of list items. -/
def itemShapeTrees : List Value → List ShapeTree
  | [] => []
  | v :: rest => shapeTree v :: itemShapeTrees rest

end

/-! ## The type name depends on the shape only -/

mutual

theorem typeName_eq_shapeTree : ∀ v : Value, v.typeName = v.shapeTree.typeName
  | .list items => by
    rw [typeName, shapeTree, ShapeTree.typeName, itemTypeNames_eq_shapeTree items]
  | .null => rfl
  | .int _ => rfl
  | .float _ => rfl
  | .str _ => rfl
  | .function _ _ => rfl
  | .object _ => rfl

theorem itemTypeNames_eq_shapeTree : ∀ items : List Value,
    itemTypeNames items = ShapeTree.itemTypeNames (itemShapeTrees items)
  | [] => rfl
  | v :: rest => by
    rw [itemTypeNames, itemShapeTrees, ShapeTree.itemTypeNames, typeName_eq_shapeTree v,
      itemTypeNames_eq_shapeTree rest]

end

theorem itemTypeNames_eq_join (items : List Value) :
    itemTypeNames items = String.join (items.map (·.typeName ++ " ")) := by
  induction items with
  | nil => rfl
  | cons v rest ih => rw [itemTypeNames, ih, List.map_cons, String.join_cons]

end Value

/-! ## Reading a type name back -/

/-- A variant's name starts with neither bracket. -/
theorem Shape.name_toList_cons (s : Shape) :
    ∃ c cs, s.name.toList = c :: cs ∧ c ≠ '[' ∧ c ≠ ']' := by
  cases s <;> simp [Shape.name]

/-- No variant's name is a prefix of another's, so a name and what follows it are read back from
their concatenation. -/
theorem Shape.name_append_inj {s s' : Shape} {x y : List Char}
    (h : s.name.toList ++ x = s'.name.toList ++ y) : s = s' ∧ x = y := by
  cases s <;> cases s' <;> simp [Shape.name] at h ⊢ <;> exact h

namespace ShapeTree

/-- A type name is never empty and never starts with a closing bracket, so it cannot be mistaken
for the end of a list. -/
theorem typeName_toList_cons (t : ShapeTree) :
    ∃ c cs, t.typeName.toList = c :: cs ∧ c ≠ ']' := by
  cases t with
  | leaf s =>
    obtain ⟨c, cs, h, -, hc⟩ := s.name_toList_cons
    exact ⟨c, cs, h, hc⟩
  | list items => simp [typeName]

mutual

/-- A type name is read back, with what follows it, from the front of a text: by induction on
the shape, a list's items one at a time up to the closing bracket. -/
theorem typeName_append_inj : ∀ {t t' : ShapeTree} {x y : List Char},
    t.typeName.toList ++ x = t'.typeName.toList ++ y → t = t' ∧ x = y
  | .leaf s, .leaf s', x, y, h => by
    obtain ⟨rfl, rfl⟩ := Shape.name_append_inj h
    exact ⟨rfl, rfl⟩
  | .leaf s, .list _, x, y, h => by
    -- a variant's name against an opening bracket
    obtain ⟨c, cs, hs, hc, -⟩ := s.name_toList_cons
    have hhead : c = '[' := by simpa [typeName, hs] using congrArg List.head? h
    exact absurd hhead hc
  | .list _, .leaf s', x, y, h => by
    obtain ⟨c, cs, hs, hc, -⟩ := s'.name_toList_cons
    have hhead : '[' = c := by simpa [typeName, hs] using congrArg List.head? h
    exact absurd hhead.symm hc
  | .list ts, .list ts', x, y, h => by
    have hitems :
        (itemTypeNames ts).toList ++ ']' :: x = (itemTypeNames ts').toList ++ ']' :: y := by
      simpa [typeName] using h
    obtain ⟨rfl, rfl⟩ := itemTypeNames_append_inj hitems
    exact ⟨rfl, rfl⟩

/-- The items' type names are read back up to the bracket that closes the list. -/
theorem itemTypeNames_append_inj : ∀ {ts ts' : List ShapeTree} {x y : List Char},
    (itemTypeNames ts).toList ++ ']' :: x = (itemTypeNames ts').toList ++ ']' :: y →
      ts = ts' ∧ x = y
  | [], [], x, y, h => by simpa [itemTypeNames] using h
  | [], t' :: _, x, y, h => by
    -- the closing bracket against the start of an item's type name
    obtain ⟨c, cs, ht, hc⟩ := t'.typeName_toList_cons
    have hhead : ']' = c := by simpa [itemTypeNames, ht] using congrArg List.head? h
    exact absurd hhead.symm hc
  | t :: _, [], x, y, h => by
    obtain ⟨c, cs, ht, hc⟩ := t.typeName_toList_cons
    have hhead : c = ']' := by simpa [itemTypeNames, ht] using congrArg List.head? h
    exact absurd hhead hc
  | t :: r, t' :: r', x, y, h => by
    simp only [itemTypeNames, String.toList_append, List.append_assoc] at h
    obtain ⟨rfl, h⟩ := typeName_append_inj h
    have hrest :
        (itemTypeNames r).toList ++ ']' :: x = (itemTypeNames r').toList ++ ']' :: y := by
      simpa using h
    obtain ⟨rfl, rfl⟩ := itemTypeNames_append_inj hrest
    exact ⟨rfl, rfl⟩

end

theorem typeName_injective : Function.Injective typeName := fun _ _ h =>
  (typeName_append_inj (x := []) (y := []) (by rw [h])).1

/-- Shapes are compared by their type names. -/
instance : DecidableEq ShapeTree := fun t t' =>
  decidable_of_iff (t.typeName = t'.typeName) typeName_injective.eq_iff

end ShapeTree

namespace Value

theorem typeName_eq_iff (v w : Value) : v.typeName = w.typeName ↔ v.shapeTree = w.shapeTree := by
  rw [typeName_eq_shapeTree, typeName_eq_shapeTree]
  exact ShapeTree.typeName_injective.eq_iff

example : (Value.list [.int 1, .list []]).shapeTree ≠ (Value.list [.int 2]).shapeTree := by
  decide

theorem mismatch_eq_iff (s : Shape) (v w : Value) :
    mismatch s v = mismatch s w ↔ v.shapeTree = w.shapeTree := by
  simp [mismatch, EvalError.ofKind, typeName_eq_iff]

/-- A value's type name is its shape, spelled out: a list's is `[ `, then each item's type name
and a space, then `]`, and two values have the same type name exactly when they have the same
shape at every level. So a type mismatch, which names the value it got by its type name, and an
unsupported operation, which names both operands so, tell apart any two different shapes. -/
theorem typeName_encodes_shape :
    (∀ items : List Value,
      (Value.list items).typeName = "[ " ++ String.join (items.map (·.typeName ++ " ")) ++ "]") ∧
    ∀ v w : Value,
      (v.typeName = w.typeName ↔ v.shapeTree = w.shapeTree) ∧
      (∀ s : Shape, mismatch s v = mismatch s w ↔ v.shapeTree = w.shapeTree) ∧
      (∀ (op : BinaryOp) (l r : Value),
        ErrorKind.unsupportedOperation op v.typeName l.typeName =
            .unsupportedOperation op w.typeName r.typeName ↔
          v.shapeTree = w.shapeTree ∧ l.shapeTree = r.shapeTree) := by
  refine ⟨fun items => by rw [typeName, itemTypeNames_eq_join], fun v w =>
    ⟨typeName_eq_iff v w, fun s => mismatch_eq_iff s v w, fun op l r => ?_⟩⟩
  simp [typeName_eq_iff]

end Value

end ScriptCore
