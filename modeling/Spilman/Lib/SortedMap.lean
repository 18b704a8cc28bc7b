/-
# Ordered maps

A finite map kept as the list of its entries in strictly increasing key order,
which is also the order in which it is iterated. The order is a field of the
structure, so a map with a repeated or misplaced key cannot be built.
-/

import Mathlib.Order.Lattice
import Mathlib.Data.List.Pairwise
import Mathlib.Tactic.Common

namespace Spilman.Lib

/-- A finite map, with its entries in increasing order of their keys. -/
structure SortedMap (κ α : Type) [LinearOrder κ] where
  /-- The entries, smallest key first. -/
  entries : List (κ × α)
  /-- Keys increase strictly, so none occurs twice. -/
  sorted : entries.Pairwise fun first second => first.1 < second.1
  deriving DecidableEq

namespace SortedMap

variable {κ α : Type} [LinearOrder κ]

/-- The map with no entries. -/
def empty : SortedMap κ α := ⟨[], List.Pairwise.nil⟩

/-- The value stored under a key. -/
def get? (map : SortedMap κ α) (key : κ) : Option α :=
  (map.entries.find? fun entry => entry.1 = key).map Prod.snd

/-- The keys, smallest first. -/
def keys (map : SortedMap κ α) : List κ := map.entries.map Prod.fst

/-- Put an entry at its place among ordered entries, in place of one with the
same key. -/
def insertEntry (key : κ) (value : α) : List (κ × α) → List (κ × α)
  | [] => [(key, value)]
  | entry :: rest =>
      if key < entry.1 then (key, value) :: entry :: rest
      else if key = entry.1 then (key, value) :: rest
      else entry :: insertEntry key value rest

theorem mem_insertEntry {key : κ} {value : α} {entry : κ × α} {entries : List (κ × α)}
    (member : entry ∈ insertEntry key value entries) :
    entry = (key, value) ∨ entry ∈ entries := by
  induction entries with
  | nil => simpa [insertEntry] using member
  | cons head rest ih =>
      rw [insertEntry] at member
      split_ifs at member with before same
      · simpa using member
      · rcases List.mem_cons.mp member with rfl | later
        · exact .inl rfl
        · exact .inr (List.mem_cons_of_mem _ later)
      · rcases List.mem_cons.mp member with rfl | later
        · exact .inr List.mem_cons_self
        · exact (ih later).imp_right (List.mem_cons_of_mem _)

theorem insertEntry_pairwise (key : κ) (value : α) {entries : List (κ × α)}
    (sorted : entries.Pairwise fun first second => first.1 < second.1) :
    (insertEntry key value entries).Pairwise fun first second => first.1 < second.1 := by
  induction entries with
  | nil => exact List.pairwise_singleton _ _
  | cons head rest ih =>
      obtain ⟨above, sortedRest⟩ := List.pairwise_cons.mp sorted
      rw [insertEntry]
      split_ifs with before same
      · refine List.Pairwise.cons (fun entry member => ?_) sorted
        rcases List.mem_cons.mp member with rfl | later
        · exact before
        · exact lt_trans before (above entry later)
      · subst same
        exact List.Pairwise.cons above sortedRest
      · refine List.Pairwise.cons (fun entry member => ?_) (ih sortedRest)
        rcases mem_insertEntry member with rfl | later
        · exact lt_of_le_of_ne (not_lt.mp before) (Ne.symm same)
        · exact above entry later

/-- Store a value under a key, replacing what was there. -/
def insert (map : SortedMap κ α) (key : κ) (value : α) : SortedMap κ α :=
  ⟨insertEntry key value map.entries, insertEntry_pairwise key value map.sorted⟩

/-- A key below all others is stored at the front. -/
theorem insert_entries_of_lt (map : SortedMap κ α) (key : κ) (value : α)
    (smallest : ∀ entry ∈ map.entries, key < entry.1) :
    (map.insert key value).entries = (key, value) :: map.entries := by
  obtain ⟨entries, sorted⟩ := map
  cases entries with
  | nil => rfl
  | cons head rest => exact if_pos (smallest head List.mem_cons_self)

/-- Store entries one after another, starting from the empty map. -/
def ofList (entries : List (κ × α)) : SortedMap κ α :=
  entries.foldl (fun map entry => map.insert entry.1 entry.2) empty

@[ext]
theorem ext {first second : SortedMap κ α} (same : first.entries = second.entries) :
    first = second := by
  cases first
  cases second
  cases same
  rfl

/-- A key above all others is stored at the end. -/
theorem insert_entries_of_gt (map : SortedMap κ α) (key : κ) (value : α)
    (largest : ∀ entry ∈ map.entries, entry.1 < key) :
    (map.insert key value).entries = map.entries ++ [(key, value)] := by
  obtain ⟨entries, sorted⟩ := map
  simp only [insert] at largest ⊢
  clear sorted
  induction entries with
  | nil => rfl
  | cons head rest ih =>
      obtain ⟨above, others⟩ := List.forall_mem_cons.mp largest
      rw [insertEntry, if_neg (lt_asymm above), if_neg (ne_of_gt above), ih others, List.cons_append]

/-- Entries that come after those of a map are appended to it. -/
theorem foldl_insert_entries {map : SortedMap κ α} {rest : List (κ × α)}
    (sorted : (map.entries ++ rest).Pairwise fun first second => first.1 < second.1) :
    (rest.foldl (fun map entry => map.insert entry.1 entry.2) map).entries =
      map.entries ++ rest := by
  induction rest generalizing map with
  | nil => simp
  | cons entry rest ih =>
      have largest : ∀ other ∈ map.entries, other.1 < entry.1 := fun other member =>
        (List.pairwise_append.mp sorted).2.2 other member entry List.mem_cons_self
      have stored := insert_entries_of_gt map entry.1 entry.2 largest
      rw [List.foldl_cons, ih (by simpa [stored] using sorted), stored]
      simp

/-- A map is built again from its entries. -/
theorem ofList_entries (map : SortedMap κ α) : ofList map.entries = map :=
  ext (foldl_insert_entries map.sorted)

theorem keys_pairwise (map : SortedMap κ α) : map.keys.Pairwise (· < ·) :=
  List.pairwise_map.mpr map.sorted

/-- A key is listed exactly when a value is stored under it. -/
theorem mem_keys_iff {map : SortedMap κ α} {key : κ} :
    key ∈ map.keys ↔ (map.get? key).isSome := by
  simp only [keys, get?, Option.isSome_map, List.find?_isSome, decide_eq_true_eq,
    List.mem_map]

end SortedMap

end Spilman.Lib
