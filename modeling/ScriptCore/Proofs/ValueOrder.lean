import ScriptCore.Proofs.Widening
import ScriptCore.Value.Order

set_option autoImplicit false

/-! # Less-than on values is a strict partial order

`Value.lessThan` orders numbers by value and texts by their characters, and relates nothing
else. It is irreflexive and transitive, and it never holds between equal values. On a pair
that is ordered at all and holds no NaN, exactly one of `a < b`, `a == b` and `b < a` holds,
so `a <= b` is `a < b` or `a == b` there.

Transitivity is the part with content. Two integers compare exactly, while an integer and a
float compare after the integer is widened, and widening rounds. A chain that mixes the two
still holds because widening is monotone (`Binary32.key_ofInt_le_key_ofInt`): an exact step
between integers never reverses their widenings, and a strict step between widenings forces a
strict step between the integers.

Texts compare by code points, which is the order of their UTF-8 bytes: the encoding of a
character is a prefix-free string of digits of its code point, the longer encodings starting
with larger lead bytes (`Text.lt_iff_utf8_lt`).

Main statement: `lessThan_strict_order_consistent_with_equality`. -/

namespace ScriptCore

/-! ## UTF-8 bytes keep the order of code points -/

namespace Text

/-- A byte of a longer encoding: some bits of the code point above a tag that leaves room for
them. -/
theorem toNat_tagged_byte {x k c : Nat} (hk : 0 < k) (h : k + c ≤ 256) :
    (UInt8.ofNat (x % k + c)).toNat = x % k + c := by
  rw [UInt8.toNat_ofNat', Nat.mod_eq_of_lt (by have := Nat.mod_lt x hk; omega)]

theorem toNat_ascii_byte {v : Nat} (h : v ≤ 0x7f) : (UInt8.ofNat v).toNat = v := by
  rw [UInt8.toNat_ofNat', Nat.mod_eq_of_lt (by omega)]

/-- The encoding of a smaller character comes first whatever follows either: the encodings
differ at a byte where the smaller character's is smaller. -/
theorem utf8EncodeChar_append_lt {c d : Char} (h : c < d) (U V : List UInt8) :
    String.utf8EncodeChar c ++ U < String.utf8EncodeChar d ++ V := by
  have hcd : c.val.toNat < d.val.toNat := h
  have hd : d.val.toNat < 0x110000 := by
    have h := d.valid
    simp only [UInt32.isValidChar, Nat.isValidChar] at h
    omega
  unfold String.utf8EncodeChar
  generalize c.val.toNat = v at *
  generalize d.val.toNat = w at *
  -- the lead byte of a four-byte encoding holds the top three bits without a carry
  have hv : v / 262144 % 8 = v / 262144 := Nat.mod_eq_of_lt (by omega)
  have hw : w / 262144 % 8 = w / 262144 := Nat.mod_eq_of_lt (by omega)
  simp only
  -- one case per pair of lengths: a longer encoding belongs to a larger code point and has a
  -- larger lead byte, and encodings of one length compare digit by digit
  repeat' split
  -- the pairs where the smaller code point has the longer encoding cannot occur
  any_goals omega
  all_goals simp (disch := first | decide | assumption) only [List.cons_append,
    List.nil_append, List.cons_lt_cons_iff, UInt8.lt_iff_toNat_lt, ← UInt8.toNat_inj,
    toNat_tagged_byte, toNat_ascii_byte]
  all_goals omega

theorem flatMap_utf8EncodeChar_lt {cs ds : List Char} (h : cs < ds) :
    cs.flatMap String.utf8EncodeChar < ds.flatMap String.utf8EncodeChar := by
  induction h with
  | nil =>
    rename_i d _
    obtain ⟨b, bs, hb⟩ := List.exists_cons_of_ne_nil (String.utf8EncodeChar_ne_nil (c := d))
    simp [hb]
  | rel h => exact utf8EncodeChar_append_lt h _ _
  | cons _ ih => exact List.append_left_lt ih

theorem utf8_toList (s : String) :
    s.toUTF8.data.toList = s.toList.flatMap String.utf8EncodeChar := by
  rw [String.toUTF8_eq_toByteArray, ← String.utf8Encode_toList, List.utf8Encode,
    List.toList_data_toByteArray]

/-- Texts compare as their UTF-8 bytes do, lexicographically. -/
theorem lt_iff_utf8_lt (s t : String) :
    s < t ↔ s.toUTF8.data.toList < t.toUTF8.data.toList := by
  rw [utf8_toList, utf8_toList]
  constructor
  · exact flatMap_utf8EncodeChar_lt
  · intro h
    by_contra hst
    -- otherwise `t ≤ s`, and the bytes would be ordered the other way or equal
    by_cases hts : t < s
    · exact List.lt_asymm h (flatMap_utf8EncodeChar_lt hts)
    · rw [String.le_antisymm hts hst] at h
      exact List.lt_irrefl _ h

end Text

/-! ## Three outcomes -/

/-- Exactly one of `a < b`, `a = b` and `b < a`, as truth values. -/
theorem count_trichotomy_int (a b : Int) :
    [decide (a < b), a == b, decide (b < a)].count true = 1 := by
  rcases Int.lt_trichotomy a b with h | rfl | h
  · simp [h, Int.ne_of_lt h, Int.not_lt.2 (Int.le_of_lt h)]
  · simp
  · simp [h, Int.ne_of_gt h, Int.not_lt.2 (Int.le_of_lt h)]

theorem count_trichotomy_text (s t : String) :
    [decide (s < t), s == t, decide (t < s)].count true = 1 := by
  by_cases hst : s < t
  · simp [hst, String.ne_of_lt hst, String.lt_asymm hst]
  · by_cases hts : t < s
    · simp [hts, (String.ne_of_lt hts).symm, hst]
    · simp [String.le_antisymm hts hst]

/-- When exactly one of three outcomes holds, the last fails exactly when one of the others
holds. -/
theorem not_third_iff_of_count_eq_one :
    ∀ {p q r : Bool}, [p, q, r].count true = 1 → (r = false ↔ p = true ∨ q = true) := by
  decide

/-! ## Floats and widened integers -/

namespace Binary32

theorem lt_irrefl (x : Binary32) : x.lt x = false := by
  simp [lt]

theorem lt_trans {x y z : Binary32} (hxy : x.lt y = true) (hyz : y.lt z = true) :
    x.lt z = true := by
  rw [lt_iff] at hxy hyz ⊢
  exact ⟨hxy.1, hyz.2.1, Int.lt_trans hxy.2.2 hyz.2.2⟩

theorem lt_eq_false_of_equals {x y : Binary32} (h : x.equals y = true) :
    x.lt y = false ∧ y.lt x = false := by
  rw [equals_iff] at h
  simp [lt, h.2.2]

theorem lt_trichotomy {x y : Binary32} (hx : x.isNaN = false) (hy : y.isNaN = false) :
    [x.lt y, x.equals y, y.lt x].count true = 1 := by
  simp only [lt, equals, hx, hy, Bool.not_false, Bool.true_and]
  exact count_trichotomy_int _ _

/-- Integer, integer, float: the exact step keeps the order of the widenings. -/
theorem ofInt_lt_of_lt {i j : Int} {y : Binary32} (hij : i < j) (h : (ofInt j).lt y = true) :
    (ofInt i).lt y = true := by
  rw [lt_iff] at h ⊢
  exact ⟨isNaN_ofInt i, h.2.1,
    Int.lt_of_le_of_lt (key_ofInt_le_key_ofInt (Int.le_of_lt hij)) h.2.2⟩

/-- Float, integer, integer. -/
theorem lt_ofInt_of_lt {x : Binary32} {i j : Int} (h : x.lt (ofInt i) = true) (hij : i < j) :
    x.lt (ofInt j) = true := by
  rw [lt_iff] at h ⊢
  exact ⟨h.1, isNaN_ofInt j,
    Int.lt_of_lt_of_le h.2.2 (key_ofInt_le_key_ofInt (Int.le_of_lt hij))⟩

/-- Widenings strictly in order come from integers strictly in order. -/
theorem lt_of_ofInt_lt_ofInt {i j : Int} (h : (ofInt i).lt (ofInt j) = true) : i < j := by
  rw [lt_iff] at h
  by_contra hij
  exact Int.lt_irrefl _ (Int.lt_of_lt_of_le h.2.2 (key_ofInt_le_key_ofInt (Int.not_lt.1 hij)))

end Binary32

/-! ## Values -/

namespace Value

/-- Whether a value is a float NaN. -/
def isNaN : Value → Bool
  | .float x => x.isNaN
  | _ => false

theorem lessThan_irrefl (a : Value) : a.lessThan a = false := by
  cases a <;> simp [lessThan, lessThan?, Binary32.lt_irrefl]

theorem lessThan_trans {a b c : Value} (hab : a.lessThan b = true) (hbc : b.lessThan c = true) :
    a.lessThan c = true := by
  -- only numbers and texts are ordered, which leaves nine chains
  cases a <;> cases b <;> simp only [lessThan, lessThan?, Option.getD_some, Option.getD_none,
    Bool.false_eq_true] at hab <;>
    cases c <;> simp only [lessThan, lessThan?, Option.getD_some, Option.getD_none,
      Bool.false_eq_true] at hbc ⊢
  case int.int.int =>
    simp only [decide_eq_true_eq] at hab hbc ⊢
    exact Int.lt_trans hab hbc
  case int.int.float => exact Binary32.ofInt_lt_of_lt (of_decide_eq_true hab) hbc
  case int.float.int =>
    exact decide_eq_true (Binary32.lt_of_ofInt_lt_ofInt (Binary32.lt_trans hab hbc))
  case float.int.int => exact Binary32.lt_ofInt_of_lt hab (of_decide_eq_true hbc)
  case str.str.str =>
    simp only [decide_eq_true_eq] at hab hbc ⊢
    exact String.lt_trans hab hbc
  -- the rest compare floats, the integers among them already widened
  all_goals exact Binary32.lt_trans hab hbc

theorem lessThan_eq_false_of_equals {a b : Value} (h : a.equals b = true) :
    a.lessThan b = false ∧ b.lessThan a = false := by
  cases a <;> cases b <;> simp only [equals, Bool.false_eq_true] at h <;>
    simp only [lessThan, lessThan?, Option.getD_some]
  case int.int => simp [eq_of_beq h]
  case str.str => simp [eq_of_beq h]
  all_goals exact Binary32.lt_eq_false_of_equals h

theorem int_beq_int (i j : Int32) : (i == j) = (i.toInt == j.toInt) := by
  simp only [beq_eq_decide, Int32.toInt_inj]

/-- On an ordered pair without a NaN, exactly one of `a < b`, `a == b` and `b < a` holds. -/
theorem lessThan_trichotomy {a b : Value} (hc : a.comparable b = true) (ha : a.isNaN = false)
    (hb : b.isNaN = false) : [a.lessThan b, a.equals b, b.lessThan a].count true = 1 := by
  cases a <;> cases b <;> simp only [comparable, lessThan?, Option.isSome_none,
    Bool.false_eq_true] at hc <;> simp only [isNaN] at ha hb <;>
    simp only [lessThan, lessThan?, equals, Option.getD_some]
  case int.int => rw [int_beq_int]; exact count_trichotomy_int _ _
  case int.float => exact Binary32.lt_trichotomy (Binary32.isNaN_ofInt _) hb
  case float.int => exact Binary32.lt_trichotomy ha (Binary32.isNaN_ofInt _)
  case float.float => exact Binary32.lt_trichotomy ha hb
  case str.str => exact count_trichotomy_text _ _

/-- On an ordered pair without a NaN, `a <= b` is `a < b` or `a == b`. -/
theorem lessEqual_iff {a b : Value} (hc : a.comparable b = true) (ha : a.isNaN = false)
    (hb : b.isNaN = false) : a.lessEqual b = true ↔ a.lessThan b = true ∨ a.equals b = true := by
  rw [lessEqual, Bool.not_eq_true']
  exact not_third_iff_of_count_eq_one (lessThan_trichotomy hc ha hb)

theorem str_lessThan_str (s t : String) :
    (Value.str s).lessThan (.str t) = true ↔ s.toUTF8.data.toList < t.toUTF8.data.toList := by
  simp only [lessThan, lessThan?, Option.getD_some, decide_eq_true_eq]
  exact Text.lt_iff_utf8_lt s t

end Value

/-- `Value.lessThan` is irreflexive and transitive, never holds between equal values, and on an
ordered pair without a NaN is one of exactly three outcomes with `==`, so `<=` is `<` or `==`
there; texts are ordered by their UTF-8 bytes, lexicographically. -/
theorem lessThan_strict_order_consistent_with_equality :
    (∀ a : Value, a.lessThan a = false) ∧
    (∀ a b c : Value, a.lessThan b = true → b.lessThan c = true → a.lessThan c = true) ∧
    (∀ a b : Value, a.equals b = true → a.lessThan b = false ∧ b.lessThan a = false) ∧
    (∀ a b : Value, a.comparable b = true → a.isNaN = false → b.isNaN = false →
      [a.lessThan b, a.equals b, b.lessThan a].count true = 1 ∧
      (a.lessEqual b = true ↔ a.lessThan b = true ∨ a.equals b = true)) ∧
    (∀ s t : String,
      (Value.str s).lessThan (.str t) = true ↔ s.toUTF8.data.toList < t.toUTF8.data.toList) :=
  ⟨Value.lessThan_irrefl, fun _ _ _ => Value.lessThan_trans,
    fun _ _ => Value.lessThan_eq_false_of_equals,
    fun _ _ hc ha hb => ⟨Value.lessThan_trichotomy hc ha hb, Value.lessEqual_iff hc ha hb⟩,
    Value.str_lessThan_str⟩

/-- The integer `16777217` widens to the float `16777216.0`, so the two are equal and neither is
below the other; `1 < 1.5 < 2` chains through the float. -/
theorem lessThan_chain_through_widening :
    (Value.int 1).lessThan (.float ⟨0x3FC00000⟩) = true ∧
    (Value.float ⟨0x3FC00000⟩).lessThan (.int 2) = true ∧
    (Value.int 1).lessThan (.int 2) = true ∧
    (Value.int 16777217).comparable (.float ⟨0x4B800000⟩) = true ∧
    (Value.int 16777217).equals (.float ⟨0x4B800000⟩) = true ∧
    [(Value.int 16777217).lessThan (.float ⟨0x4B800000⟩),
      (Value.int 16777217).equals (.float ⟨0x4B800000⟩),
      (Value.float ⟨0x4B800000⟩).lessThan (.int 16777217)].count true = 1 := by
  obtain ⟨-, htrans, -, htri, -⟩ := lessThan_strict_order_consistent_with_equality
  have h₁ : (Value.int 1).lessThan (.float ⟨0x3FC00000⟩) = true := by decide
  have h₂ : (Value.float ⟨0x3FC00000⟩).lessThan (.int 2) = true := by decide
  have hc : (Value.int 16777217).comparable (.float ⟨0x4B800000⟩) = true := by decide
  exact ⟨h₁, h₂, htrans _ _ _ h₁ h₂, hc, by decide, (htri _ _ hc rfl rfl).1⟩

end ScriptCore
