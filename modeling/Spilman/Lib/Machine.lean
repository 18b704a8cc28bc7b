/-
# Machines

A machine answers operations and moves from state to state. What every permitted step
keeps holds after every permitted sequence of operations (`invariant_after`), what relates
the two states of every permitted step relates the ends of a sequence (`related_after`),
and two machines that are related stay related (`simulation_after`).
-/

import Mathlib.Data.List.Basic

namespace Spilman.Lib

/-- How a state answers an operation, and where it moves. -/
abbrev Machine (ι α σ : Type) := ι → σ → α × σ

namespace Machine

variable {ι α β σ τ : Type} (M : Machine ι α σ)

/-- The state after some operations. -/
def after (operations : List ι) (state : σ) : σ :=
  operations.foldl (fun state operation => (M operation state).2) state

/-- Every operation meets a condition on the state it is made in. -/
def Throughout (condition : ι → σ → Prop) : List ι → σ → Prop
  | [], _ => True
  | operation :: rest, state =>
      condition operation state ∧ Throughout condition rest (M operation state).2

instance decidableThroughout (condition : ι → σ → Prop)
    [∀ operation state, Decidable (condition operation state)] :
    ∀ operations state, Decidable (M.Throughout condition operations state)
  | [], _ => isTrue trivial
  | operation :: rest, state =>
      let _ := decidableThroughout condition rest (M operation state).2
      inferInstanceAs (Decidable (_ ∧ _))

/-- Two machines side by side. -/
def pair (N : Machine ι β τ) : Machine ι (α × β) (σ × τ) := fun operation states =>
  ((((M operation states.1).1, (N operation states.2).1)),
    ((M operation states.1).2, (N operation states.2).2))

variable {M} {condition : ι → σ → Prop}

theorem after_append (M : Machine ι α σ) (first second : List ι) (state : σ) :
    M.after (first ++ second) state = M.after second (M.after first state) :=
  List.foldl_append

theorem throughout_append {first second : List ι} {state : σ} :
    M.Throughout condition (first ++ second) state ↔
      M.Throughout condition first state ∧
        M.Throughout condition second (M.after first state) := by
  induction first generalizing state with
  | nil => exact ⟨fun meets => ⟨trivial, meets⟩, fun meets => meets.2⟩
  | cons operation rest ih =>
      rw [List.cons_append, Throughout, ih, Throughout, and_assoc]
      rfl

/-- A condition on the first of two machines. -/
theorem throughout_pair_iff {N : Machine ι β τ} {operations : List ι} {state : σ} {state' : τ} :
    (M.pair N).Throughout (fun operation both => condition operation both.1) operations
        (state, state') ↔ M.Throughout condition operations state := by
  induction operations generalizing state state' with
  | nil => exact Iff.rfl
  | cons operation rest ih => exact and_congr_right fun _ => ih

/-- A condition on the operations alone. -/
theorem throughout_operations_iff {allowed : ι → Prop} {operations : List ι} {state : σ} :
    M.Throughout (fun operation _ => allowed operation) operations state ↔
      ∀ operation ∈ operations, allowed operation := by
  induction operations generalizing state with
  | nil => exact ⟨fun _ _ member => absurd member List.not_mem_nil, fun _ => trivial⟩
  | cons operation rest ih =>
      rw [Throughout, ih, List.forall_mem_cons]

/-- Two conditions that come to the same wherever the first machine may go hold throughout the
same sequences. -/
theorem throughout_iff {first second : ι → σ → Prop} (invariant : σ → Prop)
    (same : ∀ operation state, invariant state → condition operation state →
      (first operation state ↔ second operation state))
    (kept : ∀ operation state, invariant state → condition operation state →
      second operation state → invariant (M operation state).2) :
    ∀ {operations : List ι} {state : σ}, invariant state →
      M.Throughout condition operations state →
      (M.Throughout first operations state ↔ M.Throughout second operations state) := by
  intro operations
  induction operations with
  | nil =>
      intro state _ _
      exact Iff.rfl
  | cons operation rest ih =>
      intro state holds meets
      have here := same operation state holds meets.1
      have later (second) := ih (kept operation state holds meets.1 second) meets.2
      exact ⟨fun all => ⟨here.mp all.1, (later (here.mp all.1)).mp all.2⟩,
        fun all => ⟨here.mpr all.1, (later all.1).mpr all.2⟩⟩

/-- What every permitted step does wherever the machine may go, it does throughout. -/
theorem throughout_of_invariant {implied : ι → σ → Prop} (invariant : σ → Prop)
    (kept : ∀ operation state, invariant state → condition operation state →
      implied operation state ∧ invariant (M operation state).2) :
    ∀ {operations : List ι} {state : σ}, invariant state →
      M.Throughout condition operations state → M.Throughout implied operations state := by
  intro operations
  induction operations with
  | nil =>
      intro state _ _
      exact trivial
  | cons operation rest ih =>
      intro state holds meets
      have step := kept operation state holds meets.1
      exact ⟨step.1, ih step.2 meets.2⟩

/-- What every permitted step keeps, permitted sequences keep. -/
theorem invariant_after (invariant : σ → Prop)
    (kept : ∀ operation state, invariant state → condition operation state →
      invariant (M operation state).2) :
    ∀ {operations : List ι} {state : σ}, invariant state →
      M.Throughout condition operations state → invariant (M.after operations state) := by
  intro operations
  induction operations with
  | nil =>
      intro state holds _
      exact holds
  | cons operation rest ih =>
      intro state holds meets
      exact ih (kept operation state holds meets.1) meets.2

/-- What relates the states of every permitted step relates the ends of a sequence. -/
theorem related_after (invariant : σ → Prop) (related : σ → σ → Prop)
    (reflexive : ∀ state, related state state)
    (transitive : ∀ first second third, related first second → related second third →
      related first third)
    (kept : ∀ operation state, invariant state → condition operation state →
      invariant (M operation state).2 ∧ related state (M operation state).2) :
    ∀ {operations : List ι} {state : σ}, invariant state →
      M.Throughout condition operations state → related state (M.after operations state) := by
  intro operations
  induction operations with
  | nil =>
      intro state _ _
      exact reflexive state
  | cons operation rest ih =>
      intro state holds meets
      obtain ⟨holds, step⟩ := kept operation state holds meets.1
      exact transitive _ _ _ step (ih holds meets.2)

/-- Machines that are related stay related. -/
theorem simulation_after {N : Machine ι β τ} (related : σ → τ → Prop)
    (kept : ∀ operation state state', related state state' → condition operation state →
      related (M operation state).2 (N operation state').2) :
    ∀ {operations : List ι} {state : σ} {state' : τ}, related state state' →
      M.Throughout condition operations state →
      related (M.after operations state) (N.after operations state') := by
  intro operations
  induction operations with
  | nil =>
      intro state state' holds _
      exact holds
  | cons operation rest ih =>
      intro state state' holds meets
      exact ih (kept operation state state' holds meets.1) meets.2

end Machine

end Spilman.Lib
