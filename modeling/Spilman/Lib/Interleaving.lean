/-
# Programs next to each other

Any number of programs run over one state. At every moment one of them is chosen
and makes its next request, so that a run is given by the order in which the
programs are chosen. A program that is never chosen has not started or has
crashed; one that has returned stays as it is.

Invariants of such runs are proved step by step (`Pool.run_induction`). An
invariant that has one part about each program is kept if the program that moves
keeps its own part and the others' parts are not disturbed
(`Pool.assertions_step`).

A program that is proved correct next to others has to say what the others may do
to the state before each of its requests is served (`Program.disturbed`). If every
step respects what the requests of the others rely on, each program ensures what it
would ensure against any such disturbance (`Pool.disturbed_step`).
-/

import Mathlib.Algebra.BigOperators.Fin
import Mathlib.Logic.Function.Basic
import Spilman.Lib.Program

namespace Spilman.Lib

namespace Program

variable {I : Interface} {σ α : Type} (rely : I.Request → σ → σ → Prop)

/-- Before a request is served, others may change the state as the request relies on. -/
def disturbed (behaviour : Behaviour I σ) : Behaviour I σ := fun request state answer after =>
  ∃ between, rely request state between ∧ behaviour request between answer after

/-- A request is allowed where it is served, whatever others do before that. -/
def Steady (allowed : I.Request → σ → Prop) (request : I.Request) (state : σ) : Prop :=
  ∀ between, rely request state between → allowed request between

variable {rely} {behaviour : Behaviour I σ} {allowed : I.Request → σ → Prop}

/-- What a program ensures against disturbance, it ensures after one. -/
theorem Ensures.disturb {program : Program I α} {state after : σ}
    (transitive : ∀ request first second third, rely request first second →
      rely request second third → rely request first third)
    (ensures : program.Ensures (disturbed rely behaviour) (Steady rely allowed)
      (fun _ _ => True) state)
    (relied : ∀ request next, program = .call request next → rely request state after) :
    program.Ensures (disturbed rely behaviour) (Steady rely allowed) (fun _ _ => True) after := by
  cases program with
  | done value => trivial
  | call request next =>
      have reaches := relied request next rfl
      refine ⟨?_, ?_⟩
      · intro between later
        exact ensures.1 between (transitive _ _ _ _ reaches later)
      · rintro answer left ⟨between, later, step⟩
        exact ensures.2 answer left ⟨between, transitive _ _ _ _ reaches later, step⟩

end Program

/-- Programs over a shared state, each with what is left of it. -/
structure Pool (I : Interface) (σ ι α : Type) where
  state : σ
  thread : ι → Program I α

namespace Pool

variable {I : Interface} {σ ι α : Type} [DecidableEq ι] (server : Server I σ)

/-- The chosen program makes its next request. -/
def step (pool : Pool I σ ι α) (i : ι) : Pool I σ ι α :=
  match pool.thread i with
  | .done _ => pool
  | .call request next =>
      ⟨(server request pool.state).2,
        Function.update pool.thread i (next (server request pool.state).1)⟩

/-- What a program asks for next. -/
def pending (pool : Pool I σ ι α) (i : ι) : Option I.Request :=
  match pool.thread i with
  | .done _ => none
  | .call request _ => some request

/-- What a program has returned. -/
def returned (pool : Pool I σ ι α) (i : ι) : Option α :=
  match pool.thread i with
  | .done value => some value
  | .call _ _ => none

/-- Whether what a program asks for next meets a condition. -/
def decidablePending {condition : I.Request → Prop}
    (decides : ∀ request, Decidable (condition request)) (pool : Pool I σ ι α) (i : ι) :
    Decidable (∀ request ∈ pool.pending i, condition request) :=
  haveI : DecidablePred condition := decides
  decidable_of_iff (∀ request ∈ (pool.pending i).toList, condition request)
    (by simp only [Option.mem_toList, Option.mem_def])

/-- Programs are chosen in a given order. -/
def run (pool : Pool I σ ι α) (schedule : List ι) : Pool I σ ι α :=
  schedule.foldl (step server) pool

/-- Every choice of a schedule meets a condition on the pool it is made in. -/
def Meets (condition : Pool I σ ι α → ι → Prop) : Pool I σ ι α → List ι → Prop
  | _, [] => True
  | pool, i :: rest => condition pool i ∧ Meets condition (pool.step server i) rest

instance decidableMeets {condition : Pool I σ ι α → ι → Prop}
    [∀ pool i, Decidable (condition pool i)] :
    ∀ (pool : Pool I σ ι α) (schedule : List ι), Decidable (Meets server condition pool schedule)
  | _, [] => instDecidableTrue
  | pool, i :: rest =>
      haveI : Decidable (Meets server condition (pool.step server i) rest) :=
        decidableMeets (pool.step server i) rest
      inferInstanceAs (Decidable (_ ∧ _))

variable {server}

omit [DecidableEq ι] in
theorem pending_of_call {pool : Pool I σ ι α} {i : ι} {request : I.Request}
    {next : I.Response request → Program I α} (calls : pool.thread i = .call request next) :
    pool.pending i = some request := by
  simp only [pending, calls]

omit [DecidableEq ι] in
theorem returned_eq_some {pool : Pool I σ ι α} {i : ι} {value : α} :
    pool.returned i = some value ↔ pool.thread i = .done value := by
  unfold returned
  cases pool.thread i with
  | done result => simp
  | call request next => simp

/-- What every permitted step keeps holds at the end of every permitted run. -/
theorem run_induction {condition : Pool I σ ι α → ι → Prop} {invariant : Pool I σ ι α → Prop}
    (kept : ∀ pool i, invariant pool → condition pool i → invariant (pool.step server i)) :
    ∀ (schedule : List ι) (pool : Pool I σ ι α), invariant pool →
      Meets server condition pool schedule → invariant (pool.run server schedule) := by
  intro schedule
  induction schedule with
  | nil =>
      intro pool holds _
      exact holds
  | cons i rest ih =>
      intro pool holds meets
      exact ih _ (kept pool i holds meets.1) meets.2

theorem step_of_done {pool : Pool I σ ι α} {i : ι} {value : α}
    (returned : pool.thread i = .done value) : pool.step server i = pool := by
  simp only [step, returned]

theorem step_of_call {pool : Pool I σ ι α} {i : ι} {request : I.Request}
    {next : I.Response request → Program I α} (calls : pool.thread i = .call request next) :
    pool.step server i = ⟨(server request pool.state).2,
      Function.update pool.thread i (next (server request pool.state).1)⟩ := by
  simp only [step, calls]

/-- **The rule of non-interference.** The program that moves establishes its own assertion
anew, and the assertions of the others survive. -/
theorem assertions_step (own : ι → σ → Program I α → Prop) {pool : Pool I σ ι α} {i : ι}
    {request : I.Request} {next : I.Response request → Program I α}
    (calls : pool.thread i = .call request next)
    (mine : own i (server request pool.state).2 (next (server request pool.state).1))
    (others : ∀ j, j ≠ i → own j (server request pool.state).2 (pool.thread j)) (j : ι) :
    own j (pool.step server i).state ((pool.step server i).thread j) := by
  rw [step_of_call calls]
  by_cases same : j = i
  · subst same
    simpa only [Function.update_self] using mine
  · simpa only [Function.update_of_ne same] using others j same

/-- **The rule of disturbance.** Every program ensures something against what its requests
rely on. If the step of the one that moves is something that the others rely on, they
still do. -/
theorem disturbed_step {ω : Type} {view : σ → ω} {behaviour : Program.Behaviour I ω}
    {rely : I.Request → ω → ω → Prop} {allowed : I.Request → ω → Prop}
    (follows : Program.Follows server view behaviour)
    (reflexive : ∀ request state, rely request state state)
    (transitive : ∀ request first second third, rely request first second →
      rely request second third → rely request first third)
    {pool : Pool I σ ι α} {i : ι} {request : I.Request}
    {next : I.Response request → Program I α} (calls : pool.thread i = .call request next)
    (ensures : ∀ j, (pool.thread j).Ensures (Program.disturbed rely behaviour)
      (Program.Steady rely allowed) (fun _ _ => True) (view pool.state))
    (respects : ∀ j pending, j ≠ i → pool.pending j = some pending →
      rely pending (view pool.state) (view (server request pool.state).2)) (j : ι) :
    ((pool.step server i).thread j).Ensures (Program.disturbed rely behaviour)
      (Program.Steady rely allowed) (fun _ _ => True) (view (pool.step server i).state) := by
  apply assertions_step (fun _ state thread => thread.Ensures (Program.disturbed rely behaviour)
    (Program.Steady rely allowed) (fun _ _ => True) (view state)) calls
  · have own := ensures i
    rw [calls] at own
    exact own.2 _ _ ⟨_, reflexive _ _, follows request pool.state⟩
  · intro j other
    apply (ensures j).disturb transitive
    intro pending next waits
    exact respects j pending other (pending_of_call waits)

/-- A total over all programs grows by what the program that moves adds to it. -/
theorem sum_step [Fintype ι] (amount : ι → Program I α → Nat) {pool : Pool I σ ι α} {i : ι}
    {request : I.Request} {next : I.Response request → Program I α}
    (calls : pool.thread i = .call request next) (nothing : amount i (.call request next) = 0) :
    ∑ j, amount j ((pool.step server i).thread j) =
      ∑ j, amount j (pool.thread j) + amount i (next (server request pool.state).1) := by
  have moved : (pool.step server i).thread =
      Function.update pool.thread i (next (server request pool.state).1) :=
    congrArg Pool.thread (step_of_call calls)
  rw [moved, ← Finset.add_sum_erase _ _ (Finset.mem_univ i),
    ← Finset.add_sum_erase _ (fun j => amount j (pool.thread j)) (Finset.mem_univ i)]
  have others : ∑ j ∈ Finset.univ.erase i, amount j (Function.update pool.thread i
      (next (server request pool.state).1) j) =
      ∑ j ∈ Finset.univ.erase i, amount j (pool.thread j) := by
    apply Finset.sum_congr rfl
    intro j member
    rw [Function.update_of_ne (Finset.ne_of_mem_erase member)]
  rw [others, calls, nothing, Function.update_self]
  omega

end Pool

end Spilman.Lib
