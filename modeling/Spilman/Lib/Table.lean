/-
# Finite tables

Hash maps and database tables with a primary key, as association lists without
duplicate keys. `Table.merge` is the loop that goes over the entries of one table
and combines each of them with the row it finds, or does not find, in another.
-/

import Mathlib.Data.List.AList

namespace Spilman.Lib

/-- A table from keys to values. -/
abbrev Table (κ ν : Type) := AList (fun _ : κ => ν)

namespace Table

variable {κ ι ν δ : Type} [DecidableEq κ]

/-- Combine every entry with the row under its key. -/
def merge (key : ι → κ) (combine : Option ν → δ → ν) (entries : List (Σ _ : ι, δ))
    (table : Table κ ν) : Table κ ν :=
  entries.foldl (fun table entry =>
    table.insert (key entry.1) (combine (table.lookup (key entry.1)) entry.2)) table

theorem lookup_merge_of_ne {key : ι → κ} {combine : Option ν → δ → ν} {other : κ}
    (entries : List (Σ _ : ι, δ)) (table : Table κ ν) (away : ∀ i, other ≠ key i) :
    (merge key combine entries table).lookup other = table.lookup other := by
  induction entries generalizing table with
  | nil => rfl
  | cons entry rest ih => exact (ih _).trans (AList.lookup_insert_ne (away entry.1))

/-- A row that no entry names stays as it is. -/
theorem lookup_merge_of_notMem {key : ι → κ} {combine : Option ν → δ → ν}
    (injective : Function.Injective key) {i : ι} {entries : List (Σ _ : ι, δ)}
    (absent : i ∉ entries.keys) (table : Table κ ν) :
    (merge key combine entries table).lookup (key i) = table.lookup (key i) := by
  induction entries generalizing table with
  | nil => rfl
  | cons entry rest ih =>
      rw [List.keys_cons, List.mem_cons, not_or] at absent
      refine (ih absent.2 _).trans (AList.lookup_insert_ne ?_)
      exact fun same => absent.1 (injective same)

/-- **What the loop leaves in a row.** Each entry meets its row once, since no two
entries have the same key. -/
theorem lookup_merge [DecidableEq ι] {key : ι → κ} (combine : Option ν → δ → ν)
    (injective : Function.Injective key) (increments : Table ι δ) (table : Table κ ν) (i : ι) :
    (merge key combine increments.entries table).lookup (key i) =
      match increments.lookup i with
      | some increment => some (combine (table.lookup (key i)) increment)
      | none => table.lookup (key i) := by
  obtain ⟨entries, nodup⟩ := increments
  show (merge key combine entries table).lookup (key i) =
    match entries.dlookup i with
    | some increment => some (combine (table.lookup (key i)) increment)
    | none => table.lookup (key i)
  induction entries generalizing table with
  | nil => rfl
  | cons entry rest ih =>
      have apart := List.notMem_keys_of_nodupKeys_cons nodup
      have nodupRest := List.nodupKeys_of_nodupKeys_cons nodup
      by_cases same : i = entry.1
      · subst same
        rw [List.dlookup_cons_eq rest entry.1 entry.2]
        exact (lookup_merge_of_notMem injective apart _).trans (AList.lookup_insert _)
      · rw [List.dlookup_cons_ne rest entry same]
        have untouched : ∀ value,
            (table.insert (key entry.1) value).lookup (key i) = table.lookup (key i) :=
          fun _ => AList.lookup_insert_ne fun equal => same (injective equal)
        rw [← untouched (combine (table.lookup (key entry.1)) entry.2)]
        exact ih _ nodupRest

theorem isEmpty_entries_iff {table : Table κ ν} :
    table.entries.isEmpty ↔ ∀ key, table.lookup key = none := by
  obtain ⟨entries, nodup⟩ := table
  cases entries with
  | nil => exact ⟨fun _ _ => rfl, fun _ => rfl⟩
  | cons entry rest =>
      refine ⟨fun isEmpty => absurd isEmpty (by simp), fun absent => ?_⟩
      have found : List.dlookup entry.1 (entry :: rest) = none := absent entry.1
      rw [List.dlookup_cons_eq rest entry.1 entry.2] at found
      cases found

/-- Remove the rows whose key meets a condition. -/
def reject (condition : κ → Bool) (table : Table κ ν) : Table κ ν :=
  ⟨table.entries.filter fun row => !condition row.1,
    table.nodupKeys.sublist List.filter_sublist⟩

theorem mem_lookup_reject {condition : κ → Bool} {table : Table κ ν} {key : κ} {value : ν} :
    value ∈ (reject condition table).lookup key ↔
      value ∈ table.lookup key ∧ condition key = false := by
  rw [AList.mem_lookup_iff, AList.mem_lookup_iff, reject, List.mem_filter, Bool.not_eq_true']

/-! ## Rows of one group -/

/-- The rows under one first key that can be read. -/
def slice [DecidableEq ι] (read : ν → Option δ) (first : κ) (table : Table (κ × ι) ν) :
    Table ι δ :=
  (table.entries.filterMap fun row =>
    if row.1.1 = first then (read row.2).map (Sigma.mk row.1.2) else none).toAList

theorem lookup_slice [DecidableEq ι] (read : ν → Option δ) (first : κ) (table : Table (κ × ι) ν)
    (i : ι) : (slice read first table).lookup i = (table.lookup (first, i)).bind read := by
  rw [slice, AList.lookup_to_alist]
  obtain ⟨entries, nodup⟩ := table
  show _ = (entries.dlookup (first, i)).bind read
  induction entries with
  | nil => rfl
  | cons row rest ih =>
      obtain ⟨⟨group, j⟩, value⟩ := row
      have rows := ih (List.nodupKeys_of_nodupKeys_cons nodup)
      by_cases same : (first, i) = (group, j)
      · obtain ⟨rfl, rfl⟩ := Prod.mk.inj same
        have later : rest.dlookup (first, i) = none :=
          List.dlookup_eq_none.mpr (List.notMem_keys_of_nodupKeys_cons nodup)
        rw [List.dlookup_cons_eq rest (first, i) value, Option.bind_some]
        cases readable : read value with
        | none => simp [readable, rows, later]
        | some result => simp [readable]
      · rw [List.dlookup_cons_ne rest _ same, ← rows]
        by_cases grouped : group = first
        · have apart : i ≠ j := fun equal => same (by rw [grouped, equal])
          cases readable : read value with
          | none => simp [readable]
          | some result =>
              simp only [grouped, readable, List.filterMap_cons, if_true, Option.map_some]
              exact List.dlookup_cons_ne _ (⟨j, result⟩ : Σ _ : ι, δ) apart
        · simp [grouped]

end Table

end Spilman.Lib
