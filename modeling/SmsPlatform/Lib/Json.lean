import Mathlib.Data.Rat.Defs

/-!
# JSON values

The values that `JSON.parse` delivers.  An object is the list of its members, each key once; of two objects that are
compared, the members stand in one order, as JSONB keeps them.  Equality of values is decided by recursion on both of
them, with a list of items and a list of members beside it.
-/

/-- A value of JSON.  Its numbers are the finite binary64 numbers. -/
inductive JsonValue
  | null
  | boolean (value : Bool)
  | number (value : ℚ)
  | string (text : String)
  | array (items : List JsonValue)
  | object (members : List (String × JsonValue))

abbrev JsonObject := List (String × JsonValue)

namespace JsonValue

mutual

/-- The cases of two values with different constructors stand last. -/
def decEq : (a b : JsonValue) → Decidable (a = b)
  | .null, .null => .isTrue rfl
  | .boolean a, .boolean b => decidable_of_iff (a = b) (by simp)
  | .number a, .number b => decidable_of_iff (a = b) (by simp)
  | .string a, .string b => decidable_of_iff (a = b) (by simp)
  | .array as, .array bs =>
    have := decEqItems as bs
    decidable_of_iff (as = bs) (by simp)
  | .object as, .object bs =>
    have := decEqMembers as bs
    decidable_of_iff (as = bs) (by simp)
  | .null, .boolean _ | .null, .number _ | .null, .string _ | .null, .array _ | .null, .object _
  | .boolean _, .null | .boolean _, .number _ | .boolean _, .string _ | .boolean _, .array _ | .boolean _, .object _
  | .number _, .null | .number _, .boolean _ | .number _, .string _ | .number _, .array _ | .number _, .object _
  | .string _, .null | .string _, .boolean _ | .string _, .number _ | .string _, .array _ | .string _, .object _
  | .array _, .null | .array _, .boolean _ | .array _, .number _ | .array _, .string _ | .array _, .object _
  | .object _, .null | .object _, .boolean _ | .object _, .number _ | .object _, .string _ | .object _, .array _ =>
    .isFalse fun h => nomatch h

def decEqItems : (as bs : List JsonValue) → Decidable (as = bs)
  | [], [] => .isTrue rfl
  | [], _ :: _ => .isFalse fun h => nomatch h
  | _ :: _, [] => .isFalse fun h => nomatch h
  | a :: as, b :: bs =>
    have := decEq a b
    have := decEqItems as bs
    decidable_of_iff (a = b ∧ as = bs) (by simp)

def decEqMembers : (as bs : List (String × JsonValue)) → Decidable (as = bs)
  | [], [] => .isTrue rfl
  | [], _ :: _ => .isFalse fun h => nomatch h
  | _ :: _, [] => .isFalse fun h => nomatch h
  | (k, a) :: as, (l, b) :: bs =>
    have := decEq a b
    have := decEqMembers as bs
    decidable_of_iff ((k = l ∧ a = b) ∧ as = bs) (by simp)

end

instance : DecidableEq JsonValue := decEq

end JsonValue
