/-
# Numbering repeated keys

A list of keys, each with the number of times it has come up before. The numbers of one key
are consecutive (`map_snd_filter_numbered`), so no key is numbered alike twice.
-/

import Mathlib.Data.List.Nodup
import Mathlib.Logic.Function.Basic

namespace Spilman.Lib

variable {κ : Type} [DecidableEq κ]

/-- Number the keys of a list, from where the counts are. -/
def numbered (count : κ → Nat) : List κ → List (κ × Nat)
  | [] => []
  | key :: rest => (key, count key) :: numbered (Function.update count key (count key + 1)) rest

theorem map_fst_numbered (count : κ → Nat) (keys : List κ) :
    (numbered count keys).map Prod.fst = keys := by
  induction keys generalizing count with
  | nil => rfl
  | cons key rest ih => exact congrArg (key :: ·) (ih _)

/-- The numbers of one key are consecutive. -/
theorem map_snd_filter_numbered (count : κ → Nat) (keys : List κ) (key : κ) :
    ((numbered count keys).filter (·.1 = key)).map Prod.snd =
      List.range' (count key) (keys.count key) := by
  induction keys generalizing count with
  | nil => rfl
  | cons head rest ih =>
      rw [numbered, List.filter_cons]
      by_cases same : head = key
      · subst same
        rw [if_pos (by simp), List.map_cons, ih, Function.update_self, List.count_cons_self,
          List.range'_succ]
      · rw [if_neg (by simpa using same), ih, Function.update_of_ne (Ne.symm same),
          List.count_cons_of_ne same]

/-- Numbers are never below the count. -/
theorem le_of_mem_numbered {count : κ → Nat} {keys : List κ} {key : κ} {number : Nat}
    (member : (key, number) ∈ numbered count keys) : count key ≤ number := by
  induction keys generalizing count with
  | nil => cases member
  | cons head rest ih =>
      rcases List.mem_cons.mp member with same | later
      · obtain ⟨rfl, rfl⟩ := Prod.mk.inj same
        exact Nat.le_refl _
      · have above := ih later
        by_cases same : key = head
        · subst same
          rw [Function.update_self] at above
          exact Nat.le_of_succ_le above
        · rwa [Function.update_of_ne same] at above

theorem nodup_numbered (count : κ → Nat) (keys : List κ) : (numbered count keys).Nodup := by
  induction keys generalizing count with
  | nil => exact List.nodup_nil
  | cons key rest ih =>
      refine List.nodup_cons.mpr ⟨fun again => ?_, ih _⟩
      have above := le_of_mem_numbered again
      rw [Function.update_self] at above
      exact absurd above (Nat.not_succ_le_self _)

end Spilman.Lib
