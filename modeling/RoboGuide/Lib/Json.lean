import Mathlib

/-!
# `RoboGuide.Lib.Json`: JSON values

The values a service receives and stores, with the accessors of `serde_json::Value`. Indexing
a value by a key it does not have yields `null`, and so does indexing anything but an object.
-/

namespace RoboGuide.Lib

/-- `serde_json::Value`. A number is an unsigned or a negative integer, or the bits of a float. -/
inductive Json where
  | null
  | bool (b : Bool)
  | unsigned (n : UInt64)
  | negative (n : UInt64)
  | float (bits : UInt64)
  | string (s : String)
  | array (items : List Json)
  | object (fields : List (String × Json))

namespace Json

/-! ### Equality -/

mutual

def beq : Json → Json → Bool
  | .null, .null => true
  | .bool a, .bool b => a == b
  | .unsigned a, .unsigned b => a == b
  | .negative a, .negative b => a == b
  | .float a, .float b => a == b
  | .string a, .string b => a == b
  | .array a, .array b => beqItems a b
  | .object a, .object b => beqFields a b
  | _, _ => false

def beqItems : List Json → List Json → Bool
  | [], [] => true
  | a :: as, b :: bs => beq a b && beqItems as bs
  | _, _ => false

def beqFields : List (String × Json) → List (String × Json) → Bool
  | [], [] => true
  | (k, a) :: as, (l, b) :: bs => k == l && beq a b && beqFields as bs
  | _, _ => false

end

mutual

lemma beq_iff : ∀ a b : Json, beq a b = true ↔ a = b
  | .null, b => by cases b <;> simp [beq]
  | .bool a, b => by cases b <;> simp [beq]
  | .unsigned a, b => by cases b <;> simp [beq]
  | .negative a, b => by cases b <;> simp [beq]
  | .float a, b => by cases b <;> simp [beq]
  | .string a, b => by cases b <;> simp [beq]
  | .array a, b => by cases b <;> simp [beq, beqItems_iff a]
  | .object a, b => by cases b <;> simp [beq, beqFields_iff a]

lemma beqItems_iff : ∀ a b : List Json, beqItems a b = true ↔ a = b
  | [], b => by cases b <;> simp [beqItems]
  | a :: as, b => by cases b <;> simp [beqItems, beq_iff a, beqItems_iff as]

lemma beqFields_iff : ∀ a b : List (String × Json), beqFields a b = true ↔ a = b
  | [], b => by cases b <;> simp [beqFields]
  | (k, a) :: as, b => by
    cases b with
    | nil => simp [beqFields]
    | cons => simp [beqFields, beq_iff a, beqFields_iff as, Prod.ext_iff, and_assoc]

end

instance : DecidableEq Json := fun a b => decidable_of_iff _ (beq_iff a b)

/-! ### Accessors -/

/-- `get` with a key. -/
def get? (v : Json) (key : String) : Option Json :=
  match v with
  | .object fields => (fields.find? fun f => f.1 == key).map (·.2)
  | _ => none

/-- `value[key]`. -/
def field (v : Json) (key : String) : Json := (v.get? key).getD .null

def asU64 : Json → Option Nat
  | .unsigned n => some n.toNat
  | _ => none

def asStr : Json → Option String
  | .string s => some s
  | _ => none

def asArray : Json → Option (List Json)
  | .array items => some items
  | _ => none

def isObject : Json → Bool
  | .object _ => true
  | _ => false

/-- `value.as_array().is_some_and(|values| !values.is_empty())`. -/
def isNonemptyArray (v : Json) : Bool := v.asArray.any fun items => !items.isEmpty

end Json

end RoboGuide.Lib
