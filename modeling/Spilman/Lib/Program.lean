/-
# Programs that share a state

A program of a server is a sequence of requests to a state that it shares with
other programs: it has returned, or it makes one request and goes on with the
answer. What happens to the shared state at a request is one indivisible step;
what happens between two requests is not observable.

The same program can be run alone (`run`, with the states it goes through in
`visited`), or next to others in an arbitrary order of steps
(`Spilman.Lib.Interleaving`). Two predicates say what a program does: `Asks`
speaks about every request it could ever make, whatever the answers are, and
`Ensures` about a program that runs alone from a given state, where only part of
the state is known and the answers are those a `Behaviour` permits.
-/

import Spilman.Lib.Outcome

namespace Spilman.Lib

/-- The requests a program can make, with the type of each answer. -/
structure Interface where
  Request : Type
  Response : Request → Type

/-- A program that has returned, or makes a request and goes on with its answer. -/
inductive Program (I : Interface) (α : Type)
  | done (value : α)
  | call (request : I.Request) (next : I.Response request → Program I α)

/-- How a state answers requests, and how each of them changes it. -/
abbrev Server (I : Interface) (σ : Type) :=
  (request : I.Request) → σ → I.Response request × σ

namespace Program

variable {I : Interface} {α β σ : Type}

/-- Run the rest with what the program returns. -/
protected def bind : Program I α → (α → Program I β) → Program I β
  | .done value, rest => rest value
  | .call request next, rest => .call request fun answer => (next answer).bind rest

@[simp]
theorem done_bind (value : α) (rest : α → Program I β) :
    (Program.done value).bind rest = rest value := rfl

@[simp]
theorem call_bind (request : I.Request) (next : I.Response request → Program I α)
    (rest : α → Program I β) :
    (Program.call request next).bind rest =
      .call request fun answer => (next answer).bind rest := rfl

theorem bind_assoc {γ : Type} (program : Program I α) (rest : α → Program I β)
    (last : β → Program I γ) :
    (program.bind rest).bind last = program.bind fun value => (rest value).bind last := by
  induction program with
  | done value => rfl
  | call request next ih => exact congrArg (Program.call request) (funext ih)

/-! ## Running alone -/

/-- What a program returns when nothing else happens, and the state it leaves. -/
def run (server : Server I σ) : Program I α → σ → α × σ
  | .done value, state => (value, state)
  | .call request next, state =>
      (next (server request state).1).run server (server request state).2

/-- The states a program goes through when nothing else happens. -/
def visited (server : Server I σ) : Program I α → σ → List σ
  | .done _, _ => []
  | .call request next, state =>
      (server request state).2 ::
        (next (server request state).1).visited server (server request state).2

/-- The last state that a program goes through is the one it leaves. -/
theorem getLast_visited (server : Server I σ) (program : Program I α) (state : σ) :
    (state :: program.visited server state).getLast (List.cons_ne_nil _ _) =
      (program.run server state).2 := by
  induction program generalizing state with
  | done value => rfl
  | call request next ih => exact ih _ _

/-- The same program where its requests are requests of a larger interface. -/
def embed {J : Interface} (request : I.Request → J.Request)
    (answer : ∀ r, J.Response (request r) → I.Response r) : Program I α → Program J α
  | .done value => .done value
  | .call r next => .call (request r) fun given => (next (answer r given)).embed request answer

theorem run_bind (server : Server I σ) (program : Program I α) (rest : α → Program I β)
    (state : σ) :
    (program.bind rest).run server state =
      (rest (program.run server state).1).run server (program.run server state).2 := by
  induction program generalizing state with
  | done value => rfl
  | call request next ih => exact ih _ _

/-! ## What a program asks for -/

/-- Every request that the program could make is allowed. -/
def Asks (allowed : I.Request → Prop) : Program I α → Prop
  | .done _ => True
  | .call request next => allowed request ∧ ∀ answer, (next answer).Asks allowed

theorem Asks.bind {allowed : I.Request → Prop} {program : Program I α}
    {rest : α → Program I β} (first : program.Asks allowed)
    (second : ∀ value, (rest value).Asks allowed) : (program.bind rest).Asks allowed := by
  induction program with
  | done value => exact second value
  | call request next ih => exact ⟨first.1, fun answer => ih answer (first.2 answer)⟩

theorem asks_embed {J : Interface} {request : I.Request → J.Request}
    {answer : ∀ r, J.Response (request r) → I.Response r} {allowed : J.Request → Prop}
    (fine : ∀ r, allowed (request r)) (program : Program I α) :
    (program.embed request answer).Asks allowed := by
  induction program with
  | done value => trivial
  | call r next ih => exact ⟨fine r, fun given => ih _⟩

/-! ## What a program ensures -/

/-- The answers a request may get and the states it may leave. -/
abbrev Behaviour (I : Interface) (σ : Type) :=
  (request : I.Request) → σ → I.Response request → σ → Prop

/-- Running alone from a state, the program makes only requests that are allowed where
they meet the state, and what it returns meets the postcondition. -/
def Ensures (behaviour : Behaviour I σ) (allowed : I.Request → σ → Prop)
    (post : α → σ → Prop) : Program I α → σ → Prop
  | .done value, state => post value state
  | .call request next, state =>
      allowed request state ∧ ∀ answer after, behaviour request state answer after →
        (next answer).Ensures behaviour allowed post after

section Ensures

variable {behaviour : Behaviour I σ} {allowed : I.Request → σ → Prop} {post : α → σ → Prop}

theorem Ensures.mono {weaker : α → σ → Prop} {program : Program I α} {state : σ}
    (ensures : program.Ensures behaviour allowed post state)
    (implies : ∀ value after, post value after → weaker value after) :
    program.Ensures behaviour allowed weaker state := by
  induction program generalizing state with
  | done value => exact implies value state ensures
  | call request next ih =>
      exact ⟨ensures.1, fun answer after step => ih answer (ensures.2 answer after step)⟩

/-- One program after the other. -/
theorem Ensures.bind {post : β → σ → Prop} {program : Program I α} {rest : α → Program I β}
    {state : σ}
    (first : program.Ensures behaviour allowed
      (fun value after => (rest value).Ensures behaviour allowed post after) state) :
    (program.bind rest).Ensures behaviour allowed post state := by
  induction program generalizing state with
  | done value => exact first
  | call request next ih =>
      exact ⟨first.1, fun answer after step => ih answer (first.2 answer after step)⟩

/-- What every request that a program can make keeps, the program keeps. -/
theorem Asks.ensures {fine : I.Request → Prop} {invariant : σ → Prop} {program : Program I α}
    (asks : program.Asks fine)
    (permits : ∀ request state, fine request → invariant state → allowed request state)
    (kept : ∀ request state answer after, fine request → invariant state →
      behaviour request state answer after → invariant after)
    {state : σ} (start : invariant state) :
    program.Ensures behaviour allowed (fun _ => invariant) state := by
  induction program generalizing state with
  | done value => exact start
  | call request next ih =>
      refine ⟨permits request state asks.1 start, ?_⟩
      intro answer after step
      exact ih answer (asks.2 answer) (kept request state answer after asks.1 start step)

variable {ω : Type} {server : Server I ω} {view : ω → σ}

/-- A server whose answers and states, seen through a view, are those of a behaviour. -/
def Follows (server : Server I ω) (view : ω → σ) (behaviour : Behaviour I σ) : Prop :=
  ∀ request state,
    behaviour request (view state) (server request state).1 (view (server request state).2)

/-- What a program ensures holds at the end of its run. -/
theorem Ensures.run (follows : Follows server view behaviour) {program : Program I α} {state : ω}
    (ensures : program.Ensures behaviour allowed post (view state)) :
    post (program.run server state).1 (view (program.run server state).2) := by
  induction program generalizing state with
  | done value => exact ensures
  | call request next ih => exact ih _ (ensures.2 _ _ (follows request state))

/-- What every allowed request keeps holds in every state of a run. -/
theorem Ensures.invariant (follows : Follows server view behaviour) {invariant : σ → Prop}
    (step : ∀ request state answer after, allowed request state →
      behaviour request state answer after → invariant state → invariant after)
    {program : Program I α} {state : ω}
    (ensures : program.Ensures behaviour allowed post (view state))
    (start : invariant (view state)) :
    invariant (view (program.run server state).2) ∧
      ∀ reached ∈ program.visited server state, invariant (view reached) := by
  induction program generalizing state with
  | done value => exact ⟨start, fun _ none => absurd none List.not_mem_nil⟩
  | call request next ih =>
      have kept := step request _ _ _ ensures.1 (follows request state) start
      obtain ⟨last, others⟩ := ih _ (ensures.2 _ _ (follows request state)) kept
      refine ⟨last, ?_⟩
      intro reached visited
      rcases List.mem_cons.mp visited with rfl | later
      · exact kept
      · exact others reached later

/-- A relation that every allowed request establishes holds between neighbours among the
states of a run. -/
theorem Ensures.isChain_visited (follows : Follows server view behaviour)
    {related : σ → σ → Prop}
    (step : ∀ request state answer after, allowed request state →
      behaviour request state answer after → related state after)
    {program : Program I α} {state : ω}
    (ensures : program.Ensures behaviour allowed post (view state)) :
    List.IsChain (fun before after => related (view before) (view after))
      (state :: program.visited server state) := by
  induction program generalizing state with
  | done value => exact .singleton state
  | call request next ih =>
      exact .cons_cons (step request _ _ _ ensures.1 (follows request state))
        (ih _ (ensures.2 _ _ (follows request state)))

end Ensures

/-! ## What was asked and answered -/

/-- A request with its answer. -/
abbrev Exchange (I : Interface) := Σ request : I.Request, I.Response request

/-- The requests of a run with their answers, the first one first. -/
def transcript (server : Server I σ) : Program I α → σ → List (Exchange I)
  | .done _, _ => []
  | .call request next, state =>
      ⟨request, (server request state).1⟩ ::
        (next (server request state).1).transcript server (server request state).2

/-- A server that also keeps what was asked and answered. -/
def logged (server : Server I σ) : Server I (List (Exchange I) × σ) := fun request state =>
  ((server request state.2).1,
    (state.1 ++ [⟨request, (server request state.2).1⟩], (server request state.2).2))

theorem run_logged (server : Server I σ) (program : Program I α) (log : List (Exchange I))
    (state : σ) :
    program.run (logged server) (log, state) =
      ((program.run server state).1,
        (log ++ program.transcript server state, (program.run server state).2)) := by
  induction program generalizing log state with
  | done value => simp only [run, transcript, List.append_nil]
  | call request next ih =>
      have rest := ih (server request state).1 (log ++ [⟨request, (server request state).1⟩])
        (server request state).2
      rw [List.append_assoc] at rest
      exact rest

/-- Any answer is possible, and all that is kept is what was asked and answered. -/
def logging : Behaviour I (List (Exchange I)) :=
  fun request log answer after => after = log ++ [⟨request, answer⟩]

/-- What a program ensures of its log, whatever the answers are, holds of its transcript. -/
theorem Ensures.transcript {allowed : I.Request → List (Exchange I) → Prop}
    {post : α → List (Exchange I) → Prop} {program : Program I α} {log : List (Exchange I)}
    (ensures : program.Ensures logging allowed post log) (server : Server I σ) (state : σ) :
    post (program.run server state).1 (log ++ program.transcript server state) := by
  have follows : Follows (logged server) Prod.fst logging := fun _ _ => rfl
  have ended : post (program.run (logged server) (log, state)).1
      (program.run (logged server) (log, state)).2.1 := Ensures.run follows ensures
  rw [run_logged] at ended
  exact ended

/-- Whatever a program asks for is allowed where it asks for it. The state may show more than
what was asked and answered. -/
theorem Ensures.asked {τ : Type} {behaviour : Behaviour I τ} {part : τ → List (Exchange I)}
    {allowed : I.Request → List (Exchange I) → Prop} {post : α → τ → Prop} {server : Server I σ}
    {view : List (Exchange I) × σ → τ} (follows : Follows (logged server) view behaviour)
    (shows : ∀ state, part (view state) = state.1) {program : Program I α}
    {log : List (Exchange I)} {state : σ}
    (ensures : program.Ensures behaviour (fun request state => allowed request (part state)) post
      (view (log, state)))
    {before after : List (Exchange I)} {exchange : Exchange I}
    (split : program.transcript server state = before ++ exchange :: after) :
    allowed exchange.1 (log ++ before) := by
  induction program generalizing log state before with
  | done value => cases before <;> cases split
  | call request next ih =>
      have later := ensures.2 _ _ (follows request (log, state))
      cases before with
      | nil =>
          rw [Program.transcript, List.nil_append, List.cons.injEq] at split
          have asked : allowed request (part (view (log, state))) := ensures.1
          rw [shows] at asked
          rw [← split.1, List.append_nil]
          exact asked
      | cons first before =>
          rw [Program.transcript, List.cons_append, List.cons.injEq] at split
          obtain ⟨rfl, split⟩ := split
          have asked := ih _ later split
          rw [List.append_assoc] at asked
          exact asked

/-! ## One program after the other -/

section Sequence

variable {ι : Type}

/-- Programs one after the other. -/
def sequence (program : ι → Program I α) : List ι → Program I Unit
  | [] => .done ()
  | i :: rest => (program i).bind fun _ => sequence program rest

/-- Every program starts in a state that meets a condition. -/
def Throughout (server : Server I σ) (program : ι → Program I α) (condition : ι → σ → Prop) :
    List ι → σ → Prop
  | [], _ => True
  | i :: rest, state =>
      condition i state ∧ Throughout server program condition rest ((program i).run server state).2

variable {server : Server I σ} {program : ι → Program I α} {condition : ι → σ → Prop}
  {invariant : σ → Prop} {related : σ → σ → Prop}

theorem throughout_of_forall (always : ∀ i state, condition i state) :
    ∀ (indices : List ι) (state : σ), Throughout server program condition indices state
  | [], _ => trivial
  | i :: rest, state => ⟨always i state, throughout_of_forall always rest _⟩

theorem visited_bind (server : Server I σ) (first : Program I α) (rest : α → Program I β)
    (state : σ) :
    (first.bind rest).visited server state = first.visited server state ++
      (rest (first.run server state).1).visited server (first.run server state).2 := by
  induction first generalizing state with
  | done value => rfl
  | call request next ih => exact congrArg (_ :: ·) (ih _ _)

/-- A sequence ends with its last program. -/
theorem run_sequence_append (server : Server I σ) (program : ι → Program I α) (indices : List ι)
    (last : ι) (state : σ) :
    ((sequence program (indices ++ [last])).run server state).2 =
      ((program last).run server ((sequence program indices).run server state).2).2 := by
  induction indices generalizing state with
  | nil => exact congrArg Prod.snd (run_bind server (program last) _ state)
  | cons i rest ih => rw [List.cons_append, sequence, run_bind, ih, sequence, run_bind]

theorem throughout_append {indices : List ι} {last : ι} {state : σ} :
    Throughout server program condition (indices ++ [last]) state ↔
      Throughout server program condition indices state ∧
        condition last ((sequence program indices).run server state).2 := by
  induction indices generalizing state with
  | nil => exact and_comm
  | cons i rest ih =>
      rw [List.cons_append, Throughout, ih, Throughout, sequence, run_bind, and_assoc]

/-- What every program keeps where the condition holds, the sequence keeps. -/
theorem sequence_invariant
    (kept : ∀ i state, condition i state → invariant state →
      invariant ((program i).run server state).2) :
    ∀ (indices : List ι) (state : σ), Throughout server program condition indices state →
      invariant state → invariant ((sequence program indices).run server state).2 := by
  intro indices
  induction indices with
  | nil => exact fun _ _ holds => holds
  | cons i rest ih =>
      intro state meets holds
      have later := ih _ meets.2 (kept i state meets.1 holds)
      rw [sequence, run_bind]
      exact later

/-- Every state of a sequence is a state of one of its programs, from where the ones before
it have led. -/
theorem exists_of_mem_visited_sequence :
    ∀ {indices : List ι} {state reached : σ},
      reached ∈ (sequence program indices).visited server state →
      ∃ before i after, indices = before ++ i :: after ∧
        reached ∈ (program i).visited server ((sequence program before).run server state).2 := by
  intro indices
  induction indices with
  | nil => exact fun none => absurd none List.not_mem_nil
  | cons i rest ih =>
      intro state reached visited
      rw [sequence, visited_bind] at visited
      rcases List.mem_append.mp visited with own | later
      · exact ⟨[], i, rest, rfl, own⟩
      · obtain ⟨before, j, after, rfl, mem⟩ := ih later
        refine ⟨i :: before, j, after, rfl, ?_⟩
        rw [sequence, run_bind]
        exact mem

theorem isChain_visited_bind {first : Program I α} {rest : α → Program I β} {state : σ}
    (own : List.IsChain related (state :: first.visited server state))
    (later : List.IsChain related ((first.run server state).2 ::
      (rest (first.run server state).1).visited server (first.run server state).2)) :
    List.IsChain related (state :: (first.bind rest).visited server state) := by
  induction first generalizing state with
  | done value => exact later
  | call request next ih =>
      rcases List.isChain_cons_cons.mp own with ⟨step, own⟩
      exact .cons_cons step (ih _ own later)

/-- What relates neighbouring states of every program relates those of the sequence. -/
theorem isChain_visited_sequence
    (kept : ∀ i state, condition i state → invariant state →
      invariant ((program i).run server state).2 ∧
        List.IsChain related (state :: (program i).visited server state)) :
    ∀ (indices : List ι) (state : σ), Throughout server program condition indices state →
      invariant state →
      List.IsChain related (state :: (sequence program indices).visited server state) := by
  intro indices
  induction indices with
  | nil => exact fun state _ _ => .singleton state
  | cons i rest ih =>
      intro state meets holds
      obtain ⟨holds, own⟩ := kept i state meets.1 holds
      exact isChain_visited_bind own (ih _ meets.2 holds)

end Sequence

end Program

/-! ## Programs that may fail -/

/-- A program whose result is the end of a call. -/
def Attempt (I : Interface) (ε α : Type) := Program I (Outcome ε α)

namespace Attempt

variable {I : Interface} {ε ε' α β σ : Type}

/-- Go on after a value, and stop at anything else. -/
def resume (rest : α → Attempt I ε β) : Outcome ε α → Attempt I ε β
  | .ok value => rest value
  | .err error => Program.done (.err error)
  | .noReturn => Program.done .noReturn

protected def bind (attempt : Attempt I ε α) (rest : α → Attempt I ε β) : Attempt I ε β :=
  Program.bind attempt (resume rest)

instance : Monad (Attempt I ε) where
  pure := fun value => Program.done (.ok value)
  bind := Attempt.bind

/-- A call that shares nothing. -/
def lift (call : Outcome ε α) : Attempt I ε α := Program.done call

/-- A single request. -/
def ask (request : I.Request) : Attempt I ε (I.Response request) :=
  Program.call request fun answer => .done (.ok answer)

/-- A program that cannot fail. -/
def perform (program : Program I α) : Attempt I ε α := program.bind fun value => .done (.ok value)

/-- Replace the error of a failed program. -/
def mapErr (f : ε → ε') (attempt : Attempt I ε α) : Attempt I ε' α :=
  Program.bind attempt fun result => .done (result.mapErr f)

theorem bind_eq (attempt : Attempt I ε α) (rest : α → Attempt I ε β) :
    (attempt >>= rest) = Program.bind attempt (resume rest) := rfl

@[simp]
theorem pure_eq (value : α) : (pure value : Attempt I ε α) = Program.done (.ok value) := rfl

@[simp]
theorem resume_ok (rest : α → Attempt I ε β) (value : α) :
    resume rest (.ok value) = rest value := rfl

@[simp]
theorem resume_err (rest : α → Attempt I ε β) (error : ε) :
    resume rest (.err error) = Program.done (.err error) := rfl

@[simp]
theorem resume_noReturn (rest : α → Attempt I ε β) :
    resume rest .noReturn = Program.done .noReturn := rfl

@[simp]
theorem lift_bind (call : Outcome ε α) (rest : α → Attempt I ε β) :
    (lift call >>= rest) = resume rest call := rfl

@[simp]
theorem ask_bind (request : I.Request) (rest : I.Response request → Attempt I ε β) :
    ((ask request : Attempt I ε _) >>= rest) = Program.call request rest := rfl

/-- A sequence ensures what its second part ensures after a value, and what is asked of a
failure. -/
theorem ensures_bind {behaviour : Program.Behaviour I σ} {allowed : I.Request → σ → Prop}
    {post : Outcome ε β → σ → Prop} {attempt : Attempt I ε α} {rest : α → Attempt I ε β}
    {state : σ}
    (first : Program.Ensures behaviour allowed
      (fun result after => Program.Ensures behaviour allowed post (resume rest result) after)
      attempt state) :
    Program.Ensures behaviour allowed post (attempt >>= rest : Attempt I ε β) state :=
  Program.Ensures.bind first

section Parts

variable {behaviour : Program.Behaviour I σ} {allowed : I.Request → σ → Prop}
  {post : Outcome ε β → σ → Prop} {rest : α → Attempt I ε β} {state : σ}

/-- A part, and what comes after a value that it returns. -/
theorem ensures_part {holds : Outcome ε α → σ → Prop} {attempt : Attempt I ε α}
    (part : Program.Ensures behaviour allowed holds attempt state)
    (failed : ∀ result after, holds result after →
      ∀ outcome, outcome.isOk = false → post outcome after)
    (next : ∀ value after, holds (.ok value) after →
      Program.Ensures behaviour allowed post (rest value) after) :
    Program.Ensures behaviour allowed post (attempt >>= rest : Attempt I ε β) state := by
  apply ensures_bind
  apply part.mono
  intro result after held
  cases result with
  | ok value => exact next value after held
  | err error => exact failed _ after held _ rfl
  | noReturn => exact failed _ after held _ rfl

theorem ensures_lift {call : Outcome ε α}
    (failed : ∀ outcome, outcome.isOk = false → post outcome state)
    (each : ∀ value, call = .ok value →
      Program.Ensures behaviour allowed post (rest value) state) :
    Program.Ensures behaviour allowed post (lift call >>= rest : Attempt I ε β) state := by
  cases call with
  | ok value => exact each value rfl
  | err error => exact failed _ rfl
  | noReturn => exact failed _ rfl

theorem ensures_perform {holds : α → σ → Prop} {program : Program I α}
    (part : Program.Ensures behaviour allowed holds program state)
    (next : ∀ value after, holds value after →
      Program.Ensures behaviour allowed post (rest value) after) :
    Program.Ensures behaviour allowed post (perform program >>= rest : Attempt I ε β) state := by
  apply ensures_bind
  apply Program.Ensures.bind
  exact part.mono next

end Parts

/-- A program whose error is replaced ensures what is asked of the result that it had. -/
theorem ensures_mapErr {behaviour : Program.Behaviour I σ} {allowed : I.Request → σ → Prop}
    {post : Outcome ε' α → σ → Prop} {f : ε → ε'} {attempt : Attempt I ε α} {state : σ}
    (first : Program.Ensures behaviour allowed
      (fun result after => post (result.mapErr f) after) attempt state) :
    Program.Ensures behaviour allowed post (mapErr f attempt) state :=
  Program.Ensures.bind first

theorem asks_lift {allowed : I.Request → Prop} (call : Outcome ε α) :
    Program.Asks allowed (lift call : Attempt I ε α) := trivial

theorem asks_resume {allowed : I.Request → Prop} {rest : α → Attempt I ε β}
    (asks : ∀ value, Program.Asks allowed (rest value)) (result : Outcome ε α) :
    Program.Asks allowed (resume rest result) := by
  cases result with
  | ok value => exact asks value
  | err error => trivial
  | noReturn => trivial

theorem asks_bind {allowed : I.Request → Prop} {attempt : Attempt I ε α}
    {rest : α → Attempt I ε β} (first : Program.Asks allowed attempt)
    (second : ∀ value, Program.Asks allowed (rest value)) :
    Program.Asks allowed (attempt >>= rest : Attempt I ε β) :=
  Program.Asks.bind first (asks_resume second)

theorem asks_ask {allowed : I.Request → Prop} {request : I.Request} (fine : allowed request) :
    Program.Asks allowed (ask request : Attempt I ε _) := ⟨fine, fun _ => trivial⟩

theorem asks_perform {allowed : I.Request → Prop} {program : Program I α}
    (asks : program.Asks allowed) : Program.Asks allowed (perform program : Attempt I ε α) :=
  asks.bind fun _ => trivial

theorem asks_mapErr {allowed : I.Request → Prop} {f : ε → ε'} {attempt : Attempt I ε α}
    (asks : Program.Asks allowed attempt) : Program.Asks allowed (mapErr f attempt) :=
  Program.Asks.bind asks fun _ => trivial

/-! ### Walking a list -/

section Walks

variable {ι : Type}

/-- Act on every item, until one fails. -/
def each (act : ι → Attempt I ε Unit) : List ι → Attempt I ε Unit
  | [] => pure ()
  | item :: rest => do
      act item
      each act rest

/-- The items that pass a test. -/
def sift (test : ι → Attempt I ε Bool) : List ι → Attempt I ε (List ι)
  | [] => pure []
  | item :: rest => do
      let passes ← test item
      let others ← sift test rest
      pure (if passes then item :: others else others)

theorem asks_each {allowed : I.Request → Prop} {act : ι → Attempt I ε Unit}
    (asks : ∀ item, Program.Asks allowed (act item)) (items : List ι) :
    Program.Asks allowed (each act items) := by
  induction items with
  | nil => trivial
  | cons item rest ih => exact asks_bind (asks item) fun _ => ih

theorem asks_sift {allowed : I.Request → Prop} {test : ι → Attempt I ε Bool}
    (asks : ∀ item, Program.Asks allowed (test item)) (items : List ι) :
    Program.Asks allowed (sift test items) := by
  induction items with
  | nil => trivial
  | cons item rest ih => exact asks_bind (asks item) fun _ => asks_bind ih fun _ => trivial

end Walks

end Attempt

end Spilman.Lib
