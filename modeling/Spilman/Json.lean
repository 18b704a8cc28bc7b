/-
# JSON values

The values that pass between the bridge, its host and the mint, with the
accessors the bridge reads them by. Reading a missing field gives `null`, as
indexing a `serde_json::Value` does, and a number is read as a `u64` only if it
is one. How a value is written as a text and read back is not modelled: the
parser and the printer are parameters of the development.
-/

import Mathlib.Algebra.Group.Nat.Defs
import Mathlib.Data.List.Basic
import Mathlib.Tactic.Common

namespace Spilman

/-- A JSON value. A negative or fractional number is kept as its text. -/
inductive Json
  | null
  | bool (value : Bool)
  | num (value : Nat)
  | number (text : String)
  | str (value : String)
  | arr (items : List Json)
  | obj (entries : List (String × Json))
  deriving Repr, Inhabited

namespace Json

/-! ## Equality is decidable -/

mutual

/-- Compare two values. -/
def same : Json → Json → Bool
  | .null, .null => true
  | .bool a, .bool b => a == b
  | .num a, .num b => a == b
  | .number a, .number b => a == b
  | .str a, .str b => a == b
  | .arr a, .arr b => sameItems a b
  | .obj a, .obj b => sameEntries a b
  | _, _ => false

/-- Compare two arrays item by item. -/
def sameItems : List Json → List Json → Bool
  | [], [] => true
  | a :: as, b :: bs => same a b && sameItems as bs
  | _, _ => false

/-- Compare two objects entry by entry. -/
def sameEntries : List (String × Json) → List (String × Json) → Bool
  | [], [] => true
  | (key, a) :: as, (key', b) :: bs => key == key' && same a b && sameEntries as bs
  | _, _ => false

end

mutual

theorem same_iff : ∀ a b : Json, same a b = true ↔ a = b
  | .null, b => by cases b <;> simp [same]
  | .bool _, b => by cases b <;> simp [same]
  | .num _, b => by cases b <;> simp [same]
  | .number _, b => by cases b <;> simp [same]
  | .str _, b => by cases b <;> simp [same]
  | .arr items, b => by cases b <;> simp [same, sameItems_iff items]
  | .obj entries, b => by cases b <;> simp [same, sameEntries_iff entries]

theorem sameItems_iff : ∀ as bs : List Json, sameItems as bs = true ↔ as = bs
  | [], bs => by cases bs <;> simp [sameItems]
  | a :: as, bs => by cases bs <;> simp [sameItems, same_iff a, sameItems_iff as]

theorem sameEntries_iff :
    ∀ as bs : List (String × Json), sameEntries as bs = true ↔ as = bs
  | [], bs => by cases bs <;> simp [sameEntries]
  | (key, a) :: as, bs => by
      cases bs with
      | nil => simp [sameEntries]
      | cons b bs =>
          obtain ⟨key', b⟩ := b
          simp [sameEntries, same_iff a, sameEntries_iff as, and_assoc]

end

instance : DecidableEq Json := fun a b => decidable_of_iff _ (same_iff a b)

/-! ## Reading a value -/

/-- `value.get(key)` on an object. -/
def get? (json : Json) (key : String) : Option Json :=
  match json with
  | .obj entries => entries.lookup key
  | _ => none

/-- `value.get(index)` on an array. -/
def item? (json : Json) (index : Nat) : Option Json :=
  match json with
  | .arr items => items[index]?
  | _ => none

/-- `value[key]`: `null` when there is no such field. -/
def field (json : Json) (key : String) : Json := (json.get? key).getD .null

/-- `value.as_str()`. -/
def asStr : Json → Option String
  | .str value => some value
  | _ => none

/-- `value.as_bool()`. -/
def asBool : Json → Option Bool
  | .bool value => some value
  | _ => none

/-- `value.as_u64()`: an integer that does not fit is no `u64`. -/
def asU64 : Json → Option Nat
  | .num value => if value < 2 ^ 64 then some value else none
  | _ => none

/-- `value.as_object()`. -/
def asObject : Json → Option (List (String × Json))
  | .obj entries => some entries
  | _ => none

/-- The items of an array. -/
def asArray : Json → Option (List Json)
  | .arr items => some items
  | _ => none

@[simp]
theorem asStr_str (value : String) : (Json.str value).asStr = some value := rfl

@[simp]
theorem asBool_bool (value : Bool) : (Json.bool value).asBool = some value := rfl

@[simp]
theorem asArray_arr (items : List Json) : (Json.arr items).asArray = some items := rfl

@[simp]
theorem asObject_obj (entries : List (String × Json)) :
    (Json.obj entries).asObject = some entries := rfl

theorem asU64_num {value : Nat} (fits : value < 2 ^ 64) : (Json.num value).asU64 = some value :=
  if_pos fits

/-- What is read as a `u64` is one. -/
theorem lt_of_asU64 {json : Json} {value : Nat} (read : json.asU64 = some value) :
    value < 2 ^ 64 := by
  cases json with
  | num stored =>
      rw [asU64] at read
      split_ifs at read with fits
      cases read
      exact fits
  | _ => simp [asU64] at read

end Json

end Spilman
