/-
# Lists that correspond element by element

Programs often keep several lists in step: inputs and results, offers and
answers. `List.Forall₂` says that two lists are in step; the rules here turn
such a correspondence into pairs, read one side of it off the other, compose two
of them, and build one from element-wise existence.
-/

import Mathlib.Data.List.Forall2
import Mathlib.Data.List.Nodup

namespace Spilman.Lib

variable {α β γ δ : Type} {R : α → β → Prop} {S : β → γ → Prop}

/-- Corresponding lists are the two halves of a list of corresponding pairs. -/
theorem forall₂_iff_exists_pairs {left : List α} {right : List β} :
    List.Forall₂ R left right ↔ ∃ pairs : List (α × β),
      pairs.map Prod.fst = left ∧ pairs.map Prod.snd = right ∧
        ∀ pair ∈ pairs, R pair.1 pair.2 := by
  constructor
  · intro related
    induction related with
    | nil => exact ⟨[], rfl, rfl, by simp⟩
    | cons first _ ih =>
        obtain ⟨pairs, rfl, rfl, each⟩ := ih
        exact ⟨(_, _) :: pairs, rfl, rfl, List.forall_mem_cons.mpr ⟨first, each⟩⟩
  · rintro ⟨pairs, rfl, rfl, each⟩
    rw [List.forall₂_map_left_iff, List.forall₂_map_right_iff, List.forall₂_same]
    exact each

/-- What an element on the left corresponds to. -/
theorem exists_right_of_forall₂ {left : List α} {right : List β} {element : α}
    (related : List.Forall₂ R left right) (member : element ∈ left) :
    ∃ other ∈ right, R element other := by
  obtain ⟨pairs, rfl, rfl, each⟩ := forall₂_iff_exists_pairs.mp related
  obtain ⟨pair, found, rfl⟩ := List.mem_map.mp member
  exact ⟨pair.2, List.mem_map_of_mem found, each pair found⟩

/-- What an element on the right corresponds to. -/
theorem exists_left_of_forall₂ {left : List α} {right : List β} {element : β}
    (related : List.Forall₂ R left right) (member : element ∈ right) :
    ∃ other ∈ left, R other element :=
  exists_right_of_forall₂ related.flip member

/-- Correspondences compose. -/
theorem forall₂_comp {left : List α} {middle : List β} {right : List γ}
    (first : List.Forall₂ R left middle) (second : List.Forall₂ S middle right) :
    List.Forall₂ (fun a c => ∃ b, R a b ∧ S b c) left right := by
  induction first generalizing right with
  | nil =>
      cases second
      exact .nil
  | cons related _ ih =>
      obtain _ | ⟨related', second⟩ := second
      exact .cons ⟨_, related, related'⟩ (ih second)

/-- What corresponds to the pairs of two lists in step corresponds to the second of
them. -/
theorem forall₂_of_zip {left : List α} {middle : List β} {right : List γ}
    {Q : α × β → γ → Prop} (first : List.Forall₂ R left middle)
    (second : List.Forall₂ Q (left.zip middle) right) :
    List.Forall₂ (fun b c => ∃ a, R a b ∧ Q (a, b) c) middle right := by
  induction first generalizing right with
  | nil =>
      cases second
      exact .nil
  | cons related _ ih =>
      rw [List.zip_cons_cons] at second
      obtain _ | ⟨related', second⟩ := second
      exact .cons ⟨_, related, related'⟩ (ih second)

/-- Pairs with the same first components correspond as their second ones do. -/
theorem forall₂_zip_same {left : List α} {right : List β} {right' : List γ}
    (count : left.length = right.length) (related : List.Forall₂ S right right') :
    List.Forall₂ (fun pair pair' => pair.1 = pair'.1 ∧ S pair.2 pair'.2) (left.zip right)
      (left.zip right') := by
  induction related generalizing left with
  | nil =>
      rw [List.zip_nil_right, List.zip_nil_right]
      exact .nil
  | cons first _ ih =>
      cases left with
      | nil => cases count
      | cons element left => exact .cons ⟨rfl, first⟩ (ih (Nat.succ.inj count))

/-- Two correspondences with pairs, the second from what the first has led to. -/
theorem forall₂_zip_comp {left : List α} {right : List β} {middle : List γ} {last : List δ}
    {Q : α × β → γ → Prop} {Q' : γ × β → δ → Prop} (count : left.length = right.length)
    (first : List.Forall₂ Q (left.zip right) middle)
    (second : List.Forall₂ Q' (middle.zip right) last) :
    List.Forall₂ (fun pair d => ∃ c, Q pair c ∧ Q' (c, pair.2) d) (left.zip right) last := by
  induction left generalizing right middle last with
  | nil =>
      cases first
      cases second
      exact .nil
  | cons element left ih =>
      cases right with
      | nil => cases count
      | cons other right =>
          rw [List.zip_cons_cons] at first ⊢
          obtain _ | ⟨related, first⟩ := first
          rw [List.zip_cons_cons] at second
          obtain _ | ⟨related', second⟩ := second
          exact .cons ⟨_, related, related'⟩ (ih (Nat.succ.inj count) first second)

/-- Element-wise partners make up a corresponding list. -/
theorem exists_forall₂ {left : List α} (each : ∀ element ∈ left, ∃ other, R element other) :
    ∃ right, List.Forall₂ R left right := by
  induction left with
  | nil => exact ⟨[], .nil⟩
  | cons first rest ih =>
      obtain ⟨other, related⟩ := each first List.mem_cons_self
      obtain ⟨others, step⟩ := ih fun element member => each element (List.mem_cons_of_mem _ member)
      exact ⟨other :: others, .cons related step⟩

/-- Lists in step under a function of both sides have equal images. -/
theorem map_eq_map_of_forall₂ {left : List α} {right : List β} {f : α → γ} {g : β → γ}
    (related : List.Forall₂ R left right) (same : ∀ a b, R a b → f a = g b) :
    left.map f = right.map g := by
  obtain ⟨pairs, rfl, rfl, each⟩ := forall₂_iff_exists_pairs.mp related
  rw [List.map_map, List.map_map]
  exact List.map_congr_left fun pair member => same _ _ (each pair member)

/-- Distinct elements on the left give distinct values on the right, if the value
determines the element. -/
theorem nodup_map_of_forall₂ {left : List α} {right : List β} {f : β → γ}
    (related : List.Forall₂ R left right) (distinct : left.Nodup)
    (determines : ∀ a ∈ left, ∀ a' ∈ left, ∀ b b', R a b → R a' b' → f b = f b' → a = a') :
    (right.map f).Nodup := by
  obtain ⟨pairs, rfl, rfl, each⟩ := forall₂_iff_exists_pairs.mp related
  rw [List.map_map]
  refine List.Nodup.map_on (fun pair member pair' member' same => ?_) (List.Nodup.of_map _ distinct)
  exact List.inj_on_of_nodup_map distinct member member'
    (determines _ (List.mem_map_of_mem member) _ (List.mem_map_of_mem member') _ _
      (each pair member) (each pair' member') same)

/-- A correspondence with a list in two parts. -/
theorem forall₂_append_left {first second : List α} {right : List β}
    (related : List.Forall₂ R (first ++ second) right) :
    List.Forall₂ R first (right.take first.length) ∧
      List.Forall₂ R second (right.drop first.length) := by
  have taken := List.forall₂_take first.length related
  have dropped := List.forall₂_drop first.length related
  rw [List.take_left] at taken
  rw [List.drop_left] at dropped
  exact ⟨taken, dropped⟩

/-- A correspondence with pairs whose second components are a list in two parts. -/
theorem forall₂_zip_append {left : List α} {first second : List β} {right : List γ}
    {Q : α × β → γ → Prop} (count : left.length = (first ++ second).length)
    (related : List.Forall₂ Q (left.zip (first ++ second)) right) :
    ∃ left₁ left₂, left = left₁ ++ left₂ ∧ left₁.length = first.length ∧
      left₂.length = second.length ∧ List.Forall₂ Q (left₁.zip first) (right.take first.length) ∧
      List.Forall₂ Q (left₂.zip second) (right.drop first.length) := by
  rw [List.length_append] at count
  have size₁ : (left.take first.length).length = first.length := by
    rw [List.length_take, count, Nat.min_eq_left (Nat.le_add_right _ _)]
  have size₂ : (left.drop first.length).length = second.length := by
    rw [List.length_drop, count, Nat.add_sub_cancel_left]
  rw [← List.take_append_drop first.length left, List.zip_append size₁] at related
  obtain ⟨related₁, related₂⟩ := forall₂_append_left related
  rw [List.length_zip, size₁, Nat.min_self] at related₁ related₂
  exact ⟨_, _, (List.take_append_drop _ _).symm, size₁, size₂, related₁, related₂⟩

end Spilman.Lib
