/-
# Stable sorting by a key

`sort_by_key` orders a list by a natural-number key and keeps the order of
elements with equal keys. Two lists that correspond element by element, with
equal keys, still correspond after both have been sorted (`forall₂_sortByKey`):
that is what lets two parties sort separately computed lists and agree.
-/

import Mathlib.Data.List.Sort
import Spilman.Lib.Pairing

namespace Spilman.Lib

variable {α β : Type}

/-- Sort by a key, keeping the order of elements with equal keys. -/
def sortByKey (key : α → Nat) (list : List α) : List α :=
  list.insertionSort fun first second => key first ≤ key second

theorem sortByKey_perm (key : α → Nat) (list : List α) : (sortByKey key list).Perm list :=
  List.perm_insertionSort _ list

@[simp]
theorem mem_sortByKey {key : α → Nat} {list : List α} {element : α} :
    element ∈ sortByKey key list ↔ element ∈ list := List.mem_insertionSort _

/-- Sorting commutes with a map that keeps the keys. -/
theorem map_sortByKey {key : α → Nat} {key' : β → Nat} (f : α → β) {list : List α}
    (keeps : ∀ element ∈ list, key' (f element) = key element) :
    (sortByKey key list).map f = sortByKey key' (list.map f) :=
  List.map_insertionSort _ _ f list fun first hfirst second hsecond => by
    simp only [keeps first hfirst, keeps second hsecond]

/-- Lists that correspond element by element, with equal keys, correspond after
both are sorted. -/
theorem forall₂_sortByKey {R : α → β → Prop} {key : α → Nat} {key' : β → Nat}
    {left : List α} {right : List β} (related : List.Forall₂ R left right)
    (keeps : ∀ first second, R first second → key' second = key first) :
    List.Forall₂ R (sortByKey key left) (sortByKey key' right) := by
  obtain ⟨pairs, rfl, rfl, each⟩ := forall₂_iff_exists_pairs.mp related
  refine forall₂_iff_exists_pairs.mpr ⟨sortByKey (fun pair => key pair.1) pairs,
    map_sortByKey Prod.fst fun _ _ => rfl,
    map_sortByKey Prod.snd fun pair member => keeps _ _ (each pair member), fun pair member => ?_⟩
  exact each pair (mem_sortByKey.mp member)

end Spilman.Lib
