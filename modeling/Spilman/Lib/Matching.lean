/-
# Answers that name their questions

A list of questions is answered by pairs in an order of their own, each with the question
it answers. The answers are put into a table, one place for each question, and the table
is read off when all pairs are placed. `matchAll_eq_ok_iff` says that this succeeds exactly
when the pairs are the questions with their answers, in some order.
-/

import Mathlib.Data.List.Perm.Subperm
import Spilman.Lib.Outcome

namespace Spilman.Lib

variable {ε κ ν : Type} [DecidableEq κ]

/-- Put each answer into the first place of its question. -/
def placeAll (unknown duplicate : ε) (keys : List κ) :
    List (κ × ν) → List (Option ν) → Outcome ε (List (Option ν))
  | [], matched => .ok matched
  | (key, value) :: rest, matched => do
      let place ← .ofOption unknown (keys.idxOf? key)
      .guard duplicate (matched[place]?.join.isNone = true)
      placeAll unknown duplicate keys rest (matched.set place (some value))

/-- The answers in the order of the questions. -/
def matchAll (unknown duplicate : ε) (omitted : Nat → ε) (keys : List κ) (pairs : List (κ × ν)) :
    Outcome ε (List ν) := do
  let matched ← placeAll unknown duplicate keys pairs (List.replicate keys.length none)
  .mapAll (fun entry => .ofOption (omitted entry.2) entry.1) matched.zipIdx

/-- The questions that a table has an answer for, with the answers. -/
def filled : List κ → List (Option ν) → List (κ × ν)
  | key :: keys, some value :: rest => (key, value) :: filled keys rest
  | _ :: keys, none :: rest => filled keys rest
  | _, _ => []

variable {unknown duplicate : ε} {keys : List κ} {matched after : List (Option ν)}

omit [DecidableEq κ] in
theorem filled_replicate (keys : List κ) (size : Nat) :
    filled keys (List.replicate size (none : Option ν)) = [] := by
  induction size generalizing keys with
  | zero => cases keys <;> rfl
  | succ size ih =>
      cases keys with
      | nil => rfl
      | cons key keys => exact ih keys

omit [DecidableEq κ] in
/-- An empty place is filled with one more answer. -/
theorem filled_set {place : Nat} {key : κ} {value : ν} (isKey : keys[place]? = some key)
    (empty : matched[place]? = some none) :
    (filled keys (matched.set place (some value))).Perm ((key, value) :: filled keys matched) := by
  induction keys generalizing matched place with
  | nil => cases isKey
  | cons first keys ih =>
      cases matched with
      | nil => cases empty
      | cons found matched =>
          cases place with
          | zero =>
              obtain rfl : first = key := Option.some.inj isKey
              obtain rfl : found = none := Option.some.inj empty
              exact .refl _
          | succ place =>
              have rest := ih isKey empty
              cases found with
              | none => exact rest
              | some other => exact (rest.cons _).trans (.swap _ _ _)

omit [DecidableEq κ] in
theorem mem_filled {place : Nat} {key : κ} {value : ν} (isKey : keys[place]? = some key)
    (isValue : matched[place]? = some (some value)) : (key, value) ∈ filled keys matched := by
  induction keys generalizing matched place with
  | nil => cases isKey
  | cons first keys ih =>
      cases matched with
      | nil => cases isValue
      | cons found matched =>
          cases place with
          | zero =>
              obtain rfl : first = key := Option.some.inj isKey
              obtain rfl : found = some value := Option.some.inj isValue
              exact List.mem_cons_self
          | succ place =>
              cases found with
              | none => exact ih isKey isValue
              | some other => exact List.mem_cons_of_mem _ (ih isKey isValue)

omit [DecidableEq κ] in
/-- A full table holds an answer for every question. -/
theorem filled_map_some (keys : List κ) (values : List ν) :
    filled keys (values.map some) = keys.zip values := by
  induction keys generalizing values with
  | nil => cases values <;> rfl
  | cons key keys ih =>
      cases values with
      | nil => rfl
      | cons value values => exact congrArg _ (ih values)

omit [DecidableEq κ] in
theorem length_filled_le (keys : List κ) (matched : List (Option ν)) :
    (filled keys matched).length ≤ keys.length := by
  induction keys generalizing matched with
  | nil => cases matched <;> exact Nat.le_refl _
  | cons key keys ih =>
      cases matched with
      | nil => exact Nat.zero_le _
      | cons found matched =>
          cases found with
          | none => exact Nat.le_succ_of_le (ih matched)
          | some value => exact Nat.succ_le_succ (ih matched)

omit [DecidableEq κ] in
theorem eq_map_some_of_length (sizes : matched.length = keys.length)
    (full : (filled keys matched).length = keys.length) :
    ∃ values : List ν, matched = values.map some := by
  induction keys generalizing matched with
  | nil =>
      obtain rfl := List.length_eq_zero_iff.mp sizes
      exact ⟨[], rfl⟩
  | cons key keys ih =>
      cases matched with
      | nil => cases sizes
      | cons found matched =>
          cases found with
          | none =>
              have small := length_filled_le keys matched
              have large : (filled keys matched).length = keys.length + 1 := full
              omega
          | some value =>
              obtain ⟨values, rfl⟩ := ih (Nat.succ.inj sizes) (Nat.succ.inj full)
              exact ⟨value :: values, rfl⟩

/-! ## Placing -/

/-- Every answer stands in the first place of its question. -/
def Firsts (keys : List κ) (matched : List (Option ν)) : Prop :=
  ∀ place value key, matched[place]? = some (some value) → keys[place]? = some key →
    keys.idxOf? key = some place

theorem firsts_replicate (keys : List κ) :
    Firsts keys (List.replicate keys.length (none : Option ν)) := by
  intro place value key isValue
  rw [List.getElem?_replicate] at isValue
  split_ifs at isValue
  simp at isValue

theorem getElem?_of_idxOf? {key : κ} {place : Nat} (found : keys.idxOf? key = some place) :
    keys[place]? = some key := by
  obtain ⟨bound, isKey, -⟩ := List.findIdx?_eq_some_iff_getElem.mp found
  rw [List.getElem?_eq_getElem bound, beq_iff_eq.mp isKey]

/-- Placing adds the pairs to what the table holds, each in its first place. -/
theorem of_placeAll {pairs : List (κ × ν)}
    (placed : placeAll unknown duplicate keys pairs matched = .ok after)
    (sizes : matched.length = keys.length) (firsts : Firsts keys matched) :
    after.length = keys.length ∧ Firsts keys after ∧
      (filled keys after).Perm (pairs ++ filled keys matched) := by
  induction pairs generalizing matched with
  | nil =>
      obtain rfl := Outcome.ok.inj placed
      exact ⟨sizes, firsts, .refl _⟩
  | cons pair rest ih =>
      obtain ⟨key, value⟩ := pair
      simp only [placeAll, Outcome.bind_eq_ok, Outcome.ofOption_eq_ok, Outcome.guard_eq_ok] at placed
      obtain ⟨place, found, -, free, placed⟩ := placed
      have isKey := getElem?_of_idxOf? found
      have bound : place < matched.length := sizes ▸ (List.getElem?_eq_some_iff.mp isKey).1
      have empty : matched[place]? = some none := by
        rw [List.getElem?_eq_getElem bound, Option.join_some, Option.isNone_iff_eq_none] at free
        rw [List.getElem?_eq_getElem bound, free]
      obtain ⟨size, later, perm⟩ := ih placed ((List.length_set ..).trans sizes) (by
        intro place' value' key' isValue isKey'
        by_cases same : place' = place
        · subst same
          rw [Option.some.inj (isKey'.symm.trans isKey)]
          exact found
        · rw [List.getElem?_set_ne (Ne.symm same)] at isValue
          exact firsts place' value' key' isValue isKey')
      refine ⟨size, later, perm.trans ?_⟩
      exact ((filled_set isKey empty).append_left rest).trans List.perm_middle

/-- Pairs with distinct questions can be placed where these have no answer yet. -/
theorem exists_placeAll {pairs : List (κ × ν)} (sizes : matched.length = keys.length)
    (known : ∀ pair ∈ pairs, pair.1 ∈ keys)
    (distinct : ((pairs ++ filled keys matched).map Prod.fst).Nodup) :
    ∃ after, placeAll unknown duplicate keys pairs matched = .ok after := by
  induction pairs generalizing matched with
  | nil => exact ⟨matched, rfl⟩
  | cons pair rest ih =>
      obtain ⟨key, value⟩ := pair
      obtain ⟨place, found⟩ := Option.isSome_iff_exists.mp
        (List.isSome_idxOf?.mpr (known _ List.mem_cons_self))
      have isKey := getElem?_of_idxOf? found
      have bound : place < matched.length := sizes ▸ (List.getElem?_eq_some_iff.mp isKey).1
      have empty : matched[place]? = some none := by
        rw [List.getElem?_eq_getElem bound]
        cases answer : matched[place] with
        | none => rfl
        | some other =>
            have held := mem_filled isKey
              ((List.getElem?_eq_getElem bound).trans (congrArg some answer))
            rw [List.cons_append, List.map_cons, List.nodup_cons] at distinct
            exact absurd (List.mem_map_of_mem (List.mem_append_right rest held)) distinct.1
      have moved : (rest ++ filled keys (matched.set place (some value))).Perm
          ((key, value) :: rest ++ filled keys matched) :=
        ((filled_set isKey empty).append_left rest).trans List.perm_middle
      obtain ⟨after, placed⟩ := ih ((List.length_set ..).trans sizes)
        (fun pair member => known pair (List.mem_cons_of_mem _ member))
        ((moved.map Prod.fst).nodup_iff.mpr distinct)
      refine ⟨after, ?_⟩
      simp only [placeAll, found, Outcome.ofOption_some, Outcome.ok_bind, empty, Option.join_some,
        Option.isNone_none, Outcome.guard_pos trivial, placed]

/-! ## Reading the table -/

omit [DecidableEq κ] in
/-- Answers to distinct questions are determined by the pairs, in whatever order. -/
theorem zip_inj_of_perm {values values' : List ν} (distinct : keys.Nodup)
    (sizes : values.length = keys.length) (sizes' : values'.length = keys.length)
    (perm : (keys.zip values).Perm (keys.zip values')) : values = values' := by
  refine List.ext_getElem (sizes.trans sizes'.symm) fun place bound bound' => ?_
  have inKeys : place < keys.length := sizes ▸ bound
  have member : (keys[place], values[place]) ∈ keys.zip values' := by
    refine perm.mem_iff.mp (List.mem_iff_getElem.mpr ⟨place, ?_, List.getElem_zip⟩)
    rw [List.length_zip]
    omega
  obtain ⟨other, within, same⟩ := List.mem_iff_getElem.mp member
  rw [List.getElem_zip, Prod.mk.injEq] at same
  obtain rfl := (distinct.getElem_inj_iff).mp same.1
  exact same.2.symm

theorem readTable_eq_ok_iff {omitted : Nat → ε} {values : List ν} :
    Outcome.mapAll (fun entry => .ofOption (omitted entry.2) entry.1) matched.zipIdx = .ok values ↔
      matched = values.map some := by
  rw [Outcome.mapAll_eq_ok]
  simp only [Outcome.ofOption_eq_ok]
  rw [← List.forall₂_map_left_iff (f := Prod.fst) (R := fun found value => found = some value),
    List.zipIdx_map_fst, ← List.forall₂_map_right_iff, List.forall₂_eq_eq_eq]

/-- **Answers are matched exactly when** there is one for each of distinct questions, and
the pairs are the questions with their answers in some order. -/
theorem matchAll_eq_ok_iff {omitted : Nat → ε} {pairs : List (κ × ν)} {values : List ν} :
    matchAll unknown duplicate omitted keys pairs = .ok values ↔
      keys.Nodup ∧ values.length = keys.length ∧ pairs.Perm (keys.zip values) := by
  simp only [matchAll, Outcome.bind_eq_ok, readTable_eq_ok_iff]
  have size : (List.replicate keys.length (none : Option ν)).length = keys.length :=
    List.length_replicate
  constructor
  · rintro ⟨_, placed, rfl⟩
    obtain ⟨sizes, firsts, perm⟩ := of_placeAll placed size (firsts_replicate keys)
    rw [List.length_map] at sizes
    rw [filled_map_some, filled_replicate, List.append_nil] at perm
    refine ⟨List.nodup_iff_injective_getElem.mpr fun place place' same => ?_, sizes, perm.symm⟩
    have first (index : Fin keys.length) : keys.idxOf? keys[index] = some index.val := by
      refine firsts index.val (values.get (index.cast sizes.symm)) _ ?_
        (List.getElem?_eq_getElem index.isLt)
      have bound : index.val < values.length := sizes.symm ▸ index.isLt
      rw [List.getElem?_map, List.getElem?_eq_getElem bound]
      rfl
    have places := (first place).symm.trans ((congrArg keys.idxOf? same).trans (first place'))
    exact Fin.ext (Option.some.inj places)
  · rintro ⟨distinct, sizes, perm⟩
    have keysOf : (pairs.map Prod.fst).Perm keys := by
      have mapped := perm.map Prod.fst
      rwa [List.map_fst_zip (Nat.le_of_eq sizes.symm)] at mapped
    obtain ⟨after, placed⟩ : ∃ after,
        placeAll unknown duplicate keys pairs (List.replicate keys.length none) = .ok after := by
      refine exists_placeAll size
        (fun pair member => keysOf.mem_iff.mp (List.mem_map_of_mem member)) ?_
      rw [filled_replicate, List.append_nil]
      exact keysOf.nodup_iff.mpr distinct
    obtain ⟨sizesAfter, -, permAfter⟩ := of_placeAll placed size (firsts_replicate keys)
    rw [filled_replicate, List.append_nil] at permAfter
    have full : (filled keys after).length = keys.length := by
      rw [permAfter.length_eq, ← keysOf.length_eq, List.length_map]
    obtain ⟨found, rfl⟩ := eq_map_some_of_length sizesAfter full
    rw [List.length_map] at sizesAfter
    rw [filled_map_some] at permAfter
    obtain rfl := zip_inj_of_perm distinct sizesAfter sizes (permAfter.trans perm)
    exact ⟨_, placed, rfl⟩

/-- The match always comes to an end. -/
theorem returns_matchAll {omitted : Nat → ε} (pairs : List (κ × ν)) :
    (matchAll unknown duplicate omitted keys pairs).Returns := by
  have placed (pairs : List (κ × ν)) (matched : List (Option ν)) :
      (placeAll unknown duplicate keys pairs matched).Returns := by
    induction pairs generalizing matched with
    | nil => exact Outcome.returns_ok matched
    | cons pair rest ih =>
        refine (Outcome.returns_ofOption _ _).bind fun place _ => ?_
        exact (Outcome.returns_guard _ _).bind fun _ _ => ih _
  refine (placed pairs _).bind fun _ _ => Outcome.returns_mapAll fun entry _ => ?_
  exact Outcome.returns_ofOption _ _

/-- An answer that has each of some distinct names once, and as many entries as there are
names, has these names and no others. -/
theorem covers_iff_perm {α : Type} {names : List κ} (distinct : names.Nodup) (name : α → κ)
    (entries : List α) :
    (entries.length = names.length ∧
        ∀ key ∈ names, (entries.filter fun entry => name entry = key).length = 1) ↔
      (entries.map name).Perm names := by
  have counted (key : κ) : (entries.filter fun entry => name entry = key).length =
      (entries.map name).count key := by
    rw [← List.countP_eq_length_filter, List.count, List.countP_map]
    rfl
  simp only [counted]
  constructor
  · rintro ⟨size, once⟩
    have covered : names ⊆ entries.map name := fun key member =>
      List.count_pos_iff.mp (Nat.lt_of_lt_of_eq Nat.zero_lt_one (once key member).symm)
    refine ((List.subperm_of_subset distinct covered).perm_of_length_le (Nat.le_of_eq ?_)).symm
    rw [List.length_map, size]
  · intro perm
    refine ⟨?_, fun key member => ?_⟩
    · rw [← perm.length_eq, List.length_map]
    · rw [perm.count_eq, List.count_eq_one_of_mem distinct member]

end Spilman.Lib
