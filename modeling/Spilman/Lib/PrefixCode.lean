/-
# Prefix codes

A code whose words can be told apart from whatever follows them (`PrefixFree`). Such a
code is obtained from a reader that finds the word again, or by writing the length of a
word in front of it, and two of them written after each other are one again. A sequence
of words that are not empty can be read back from their concatenation
(`PrefixFree.flatMap_inj`), also if it is not known how many words there are.
-/

import Mathlib.Data.List.Basic

namespace Spilman.Lib

variable {α β γ : Type}

/-- The word of a valid value is not confused with another one, whatever comes next. -/
def PrefixFree (valid : α → Prop) (encode : α → List γ) : Prop :=
  ∀ (first second : α), valid first → valid second → ∀ rest rest' : List γ,
    encode first ++ rest = encode second ++ rest' → first = second ∧ rest = rest'

namespace PrefixFree

variable {valid : α → Prop} {encode : α → List γ}

/-- A reader that finds the word and leaves the rest. -/
theorem of_read (read : List γ → Option (α × List γ))
    (reads : ∀ value rest, valid value → read (encode value ++ rest) = some (value, rest)) :
    PrefixFree valid encode := by
  intro first second isValid isValid' rest rest' same
  have found := reads first rest isValid
  rw [same, reads second rest' isValid'] at found
  obtain ⟨rfl, rfl⟩ := Prod.mk.inj (Option.some.inj found)
  exact ⟨rfl, rfl⟩

/-- Words of one code after words of another. -/
theorem pair {valid' : β → Prop} {encode' : β → List γ} (first : PrefixFree valid encode)
    (second : PrefixFree valid' encode') :
    PrefixFree (fun values : α × β => valid values.1 ∧ valid' values.2)
      fun values => encode values.1 ++ encode' values.2 := by
  intro values values' isValid isValid' rest rest' same
  rw [List.append_assoc, List.append_assoc] at same
  obtain ⟨sameFirst, same⟩ := first _ _ isValid.1 isValid'.1 _ _ same
  obtain ⟨sameSecond, sameRest⟩ := second _ _ isValid.2 isValid'.2 _ _ same
  exact ⟨Prod.ext sameFirst sameSecond, sameRest⟩

/-- Any list, after its length. -/
theorem lengthPrefixed {valid : Nat → Prop} {encode : Nat → List γ}
    (lengths : PrefixFree valid encode) :
    PrefixFree (fun word : List γ => valid word.length)
      fun word => encode word.length ++ word := by
  intro word word' isValid isValid' rest rest' same
  rw [List.append_assoc, List.append_assoc] at same
  obtain ⟨sameLength, same⟩ := lengths _ _ isValid isValid' _ _ same
  exact List.append_inj same sameLength

/-- **Sequences of words can be read back.** -/
theorem flatMap_inj (prefixFree : PrefixFree valid encode)
    (nonempty : ∀ value, encode value ≠ []) :
    ∀ {values values' : List α}, (∀ value ∈ values, valid value) →
      (∀ value ∈ values', valid value) →
      values.flatMap encode = values'.flatMap encode → values = values' := by
  intro values
  induction values with
  | nil =>
      intro values' _ _ same
      cases values' with
      | nil => rfl
      | cons value rest =>
          rw [List.flatMap_nil, List.flatMap_cons] at same
          exact absurd (List.append_eq_nil_iff.mp same.symm).1 (nonempty value)
  | cons value rest ih =>
      intro values' isValid isValid' same
      cases values' with
      | nil =>
          rw [List.flatMap_nil, List.flatMap_cons] at same
          exact absurd (List.append_eq_nil_iff.mp same).1 (nonempty value)
      | cons value' rest' =>
          rw [List.flatMap_cons, List.flatMap_cons] at same
          obtain ⟨rfl, sameRest⟩ := prefixFree value value'
            (isValid value List.mem_cons_self) (isValid' value' List.mem_cons_self) _ _ same
          rw [ih (fun other member => isValid other (List.mem_cons_of_mem _ member))
            (fun other member => isValid' other (List.mem_cons_of_mem _ member)) sameRest]

end PrefixFree

end Spilman.Lib
