/-
# One more attempt with another keyset

A swap is made for an output keyset that is believed to be active. If the mint
rejects it for its keyset, the cache is refreshed, a keyset is chosen again, and if
it is another one the swap is made and submitted once more. There is no third
attempt.

The loop is generic: what is selected, prepared and submitted are programs over any
interface. `RetryRule` is its rule; `ensures_withActiveKeysetRetry` is the case in which
selecting, preparing, submitting and refreshing each maintain the same.
-/

import Spilman.Lib.Program

namespace Spilman

open Lib

/-- A submission that succeeded, with the attempt it was made for. -/
structure KeysetRetrySuccess (A V : Type) where
  attempt : A
  value : V
  retried : Bool

/-- Why there was no successful submission. A failed submission tells the error of the
first one if it was the second. -/
inductive KeysetRetryError (A P S : Type)
  | select (error : P)
  | prepare (error : P)
  | refresh (error : P)
  | cleanup (error : P)
  | submit (attempt : A) (error : S) (first : Option S)
  | retryKeysetUnchanged (attempt : A) (error : S) (keysetId : String)

section Retry

variable {I : Interface} {K A V P S : Type}

/-- An attempt that has failed. -/
def retryFailure (error : KeysetRetryError A P S) :
    Attempt I (KeysetRetryError A P S) (KeysetRetrySuccess A V) :=
  Attempt.lift (.err error)

/-- A submission that succeeds ends the loop. -/
def afterSubmission (attempt : A) (retried : Bool)
    (failed : S → Attempt I (KeysetRetryError A P S) (KeysetRetrySuccess A V)) :
    Except S V → Attempt I (KeysetRetryError A P S) (KeysetRetrySuccess A V)
  | .ok value => pure ⟨attempt, value, retried⟩
  | .error error => failed error

variable (select : Attempt I P K) (keysetId : K → String) (prepare : K → Attempt I P A)
  (submit : A → Program I (Except S V)) (shouldRetry : S → Bool)
  (refresh : A → Attempt I P Unit) (cleanup : A → S → Attempt I P Unit)

/-- The second attempt, after an error that permits one. -/
def retryWithRefreshedKeyset (keyset : K) (attempt : A) (error : S) :
    Attempt I (KeysetRetryError A P S) (KeysetRetrySuccess A V) := do
  (cleanup attempt error).mapErr .cleanup
  (refresh attempt).mapErr .refresh
  let retryKeyset ← select.mapErr .select
  if keysetId retryKeyset = keysetId keyset then
    retryFailure (.retryKeysetUnchanged attempt error (keysetId keyset))
  else do
    let retryAttempt ← (prepare retryKeyset).mapErr .prepare
    let answer ← Attempt.perform (submit retryAttempt)
    answer |> afterSubmission retryAttempt true fun retryError =>
      retryFailure (.submit retryAttempt retryError (some error))

/-- One attempt, and another one with a refreshed keyset if the error permits it. -/
def withActiveKeysetRetry :
    Attempt I (KeysetRetryError A P S) (KeysetRetrySuccess A V) := do
  let keyset ← select.mapErr .select
  let attempt ← (prepare keyset).mapErr .prepare
  let answer ← Attempt.perform (submit attempt)
  answer |> afterSubmission attempt false fun error =>
    if shouldRetry error then
      retryWithRefreshedKeyset select keysetId prepare submit refresh cleanup keyset attempt error
    else retryFailure (.submit attempt error none)

/-! ## The asynchronous loop

It is written a second time in the source. Here the closures share their cells, and a
failed submission tells only whether it was the second one. -/

section Async

variable {C : Type} {α : Type}

/-- Why an asynchronous loop had no successful submission. -/
inductive KeysetRetryErrorAsync (A P S : Type)
  | select (error : P)
  | prepare (error : P)
  | refresh (error : P)
  | cleanup (error : P)
  | submit (attempt : A) (error : S) (retried : Bool)
  | retryKeysetUnchanged (attempt : A) (error : S) (keysetId : String)

/-- How an asynchronous loop ends, with what is left in the cells. -/
abbrev RetryEnded (A V P S C : Type) :=
  Outcome (KeysetRetryErrorAsync A P S) (KeysetRetrySuccess A V) × C

/-- A part that fails ends the loop. -/
def orElse (wrap : P → KeysetRetryErrorAsync A P S) (cells : C)
    (rest : α → Program I (RetryEnded A V P S C)) :
    Outcome P α → Program I (RetryEnded A V P S C)
  | .ok value => rest value
  | .err error => .done (.err (wrap error), cells)
  | .noReturn => .done (.noReturn, cells)

variable (shouldRetryIn : S → C → Bool × C) (refreshIn : C → Attempt I P Unit)
  (cleanupIn : A → S → C → Outcome P C)

/-- The second attempt of the asynchronous loop. -/
def retryWithRefreshedKeysetAsync (keyset : K) (attempt : A) (error : S) (cells : C) :
    Program I (RetryEnded A V P S C) :=
  cleanupIn attempt error cells |> orElse .cleanup cells fun cells =>
    Program.bind (refreshIn cells) <| orElse .refresh cells fun _ =>
      Program.bind select <| orElse .select cells fun retryKeyset =>
        if keysetId retryKeyset = keysetId keyset then
          .done (.err (.retryKeysetUnchanged attempt error (keysetId keyset)), cells)
        else
          Program.bind (prepare retryKeyset) <| orElse .prepare cells fun retryAttempt =>
            (submit retryAttempt).bind fun
              | .ok value => .done (.ok ⟨retryAttempt, value, true⟩, cells)
              | .error retryError => .done (.err (.submit retryAttempt retryError true), cells)

/-- `with_active_keyset_retry_async`. -/
def withActiveKeysetRetryAsync (cells : C) : Program I (RetryEnded A V P S C) :=
  Program.bind select <| orElse .select cells fun keyset =>
    Program.bind (prepare keyset) <| orElse .prepare cells fun attempt =>
      (submit attempt).bind fun
        | .ok value => .done (.ok ⟨attempt, value, false⟩, cells)
        | .error error =>
            match shouldRetryIn error cells with
            | (true, cells) => retryWithRefreshedKeysetAsync select keysetId prepare submit refreshIn
                cleanupIn keyset attempt error cells
            | (false, cells) => .done (.err (.submit attempt error false), cells)

end Async

/-! ## What a retried swap asks for -/

section Asks

variable {select keysetId prepare submit shouldRetry refresh cleanup}
variable {allowed : I.Request → Prop}

theorem asks_afterSubmission {attempt : A} {retried : Bool}
    {failed : S → Attempt I (KeysetRetryError A P S) (KeysetRetrySuccess A V)}
    (next : ∀ error, Program.Asks allowed (failed error)) (answer : Except S V) :
    Program.Asks allowed (afterSubmission attempt retried failed answer) := by
  cases answer with
  | ok value => trivial
  | error error => exact next error

/-- A retried swap asks for nothing that its parts do not ask for. -/
theorem asks_withActiveKeysetRetry (selects : Program.Asks allowed select)
    (prepares : ∀ keyset, Program.Asks allowed (prepare keyset))
    (submits : ∀ attempt, Program.Asks allowed (submit attempt))
    (refreshes : ∀ attempt, Program.Asks allowed (refresh attempt))
    (cleans : ∀ attempt error, Program.Asks allowed (cleanup attempt error)) :
    Program.Asks allowed
      (withActiveKeysetRetry select keysetId prepare submit shouldRetry refresh cleanup) := by
  apply Attempt.asks_bind (Attempt.asks_mapErr selects)
  intro keyset
  apply Attempt.asks_bind (Attempt.asks_mapErr (prepares keyset))
  intro attempt
  apply Attempt.asks_bind (Attempt.asks_perform (submits attempt))
  apply asks_afterSubmission
  intro error
  by_cases permitted : shouldRetry error = true
  · rw [if_pos permitted]
    apply Attempt.asks_bind (Attempt.asks_mapErr (cleans attempt error))
    intro _
    apply Attempt.asks_bind (Attempt.asks_mapErr (refreshes attempt))
    intro _
    apply Attempt.asks_bind (Attempt.asks_mapErr selects)
    intro retryKeyset
    by_cases unchanged : keysetId retryKeyset = keysetId keyset
    · rw [if_pos unchanged]
      trivial
    · rw [if_neg unchanged]
      apply Attempt.asks_bind (Attempt.asks_mapErr (prepares retryKeyset))
      intro retryAttempt
      apply Attempt.asks_bind (Attempt.asks_perform (submits retryAttempt))
      apply asks_afterSubmission
      intro retryError
      trivial
  · rw [if_neg permitted]
    trivial

end Asks

/-! ## What a retried swap maintains -/

variable {select keysetId prepare submit shouldRetry refresh cleanup}
variable {σ : Type} {behaviour : Program.Behaviour I σ} {allowed : I.Request → σ → Prop}
  {maintained : σ → Prop} {good : A → Prop}

/-- The parts of a retried swap maintain a property of the state, and what is prepared is
good. -/
structure RetryParts (behaviour : Program.Behaviour I σ) (allowed : I.Request → σ → Prop)
    (maintained : σ → Prop) (good : A → Prop) (select : Attempt I P K)
    (prepare : K → Attempt I P A) (submit : A → Program I (Except S V))
    (refresh : A → Attempt I P Unit) (cleanup : A → S → Attempt I P Unit) : Prop where
  select : ∀ state, maintained state →
    Program.Ensures behaviour allowed (fun _ after => maintained after) select state
  prepare : ∀ keyset state, maintained state →
    Program.Ensures behaviour allowed
      (fun result after => maintained after ∧ ∀ attempt, result = .ok attempt → good attempt)
      (prepare keyset) state
  submit : ∀ attempt state, maintained state →
    Program.Ensures behaviour allowed (fun _ after => maintained after) (submit attempt) state
  refresh : ∀ attempt state, maintained state →
    Program.Ensures behaviour allowed (fun _ after => maintained after) (refresh attempt) state
  cleanup : ∀ attempt error state, maintained state →
    Program.Ensures behaviour allowed (fun _ after => maintained after) (cleanup attempt error)
      state

/-- What is said of a finished loop: the state is maintained, and a success is for a good
attempt. -/
def RetryEnds (maintained : σ → Prop) (good : A → Prop)
    (result : Outcome (KeysetRetryError A P S) (KeysetRetrySuccess A V)) (after : σ) : Prop :=
  maintained after ∧ ∀ success, result = .ok success → good success.attempt

/-- The error of a part of the loop that is not a submission. -/
def KeysetRetryError.partError : KeysetRetryError A P S → Option P
  | .select error | .prepare error | .refresh error | .cleanup error => some error
  | .submit _ _ _ | .retryKeysetUnchanged _ _ _ => none

/-- A part that keeps the loop ready, returns only good values and fails only with minor
errors. -/
def KeepsReady {α : Type} (ready : σ → Prop) (good : α → Prop) (minor : P → Prop)
    (result : Outcome P α) (after : σ) : Prop :=
  ready after ∧ (∀ value, result = .ok value → good value) ∧ ∀ error, result = .err error → minor error

/-- **The rule of the loop.** Every part but the submission keeps the loop ready. A submission
that failed leaves it ready again if it may be repeated. What is said of an error may depend on
where it comes from. -/
structure RetryRule (behaviour : Program.Behaviour I σ) (allowed : I.Request → σ → Prop)
    (ready : σ → Prop) (good : A → Prop) (minor : P → Prop)
    (submitted : A → Except S V → σ → Prop)
    (post : Outcome (KeysetRetryError A P S) (KeysetRetrySuccess A V) → σ → Prop)
    (select : Attempt I P K) (prepare : K → Attempt I P A)
    (submit : A → Program I (Except S V)) (shouldRetry : S → Bool)
    (refresh : A → Attempt I P Unit) (cleanup : A → S → Attempt I P Unit) : Prop where
  select : ∀ state, ready state →
    Program.Ensures behaviour allowed (KeepsReady ready (fun _ => True) minor) select state
  prepare : ∀ keyset state, ready state →
    Program.Ensures behaviour allowed (KeepsReady ready good minor) (prepare keyset) state
  submit : ∀ attempt state, good attempt → ready state →
    Program.Ensures behaviour allowed (submitted attempt) (submit attempt) state
  refresh : ∀ attempt state, ready state →
    Program.Ensures behaviour allowed (KeepsReady ready (fun _ => True) minor) (refresh attempt) state
  cleanup : ∀ attempt error state, ready state →
    Program.Ensures behaviour allowed (KeepsReady ready (fun _ => True) minor)
      (cleanup attempt error) state
  again : ∀ attempt error state, submitted attempt (.error error) state →
    shouldRetry error = true → ready state
  stuck : ∀ state, ready state → post .noReturn state
  early : ∀ failure error state, failure.partError = some error → minor error → ready state →
    post (.err failure) state
  unchanged : ∀ attempt error keysetId state, shouldRetry error = true → ready state →
    post (.err (.retryKeysetUnchanged attempt error keysetId)) state
  succeeded : ∀ attempt value retried state, submitted attempt (.ok value) state →
    post (.ok ⟨attempt, value, retried⟩) state
  failed : ∀ attempt error first state, submitted attempt (.error error) state →
    post (.err (.submit attempt error first)) state

namespace RetryRule

variable {ready : σ → Prop} {minor : P → Prop} {submitted : A → Except S V → σ → Prop}
  {post : Outcome (KeysetRetryError A P S) (KeysetRetrySuccess A V) → σ → Prop}

/-- A part of the loop that fails ends it; otherwise the loop goes on. -/
theorem ensures_part
    (rule : RetryRule behaviour allowed ready good minor submitted post select prepare submit
      shouldRetry refresh cleanup)
    {α : Type} {part : Attempt I P α} {wrap : P → KeysetRetryError A P S}
    {rest : α → Attempt I (KeysetRetryError A P S) (KeysetRetrySuccess A V)} {holds : α → Prop}
    {state : σ} (wraps : ∀ error, (wrap error).partError = some error)
    (first : Program.Ensures behaviour allowed (KeepsReady ready holds minor) part state)
    (second : ∀ value after, holds value → ready after →
      Program.Ensures behaviour allowed post (rest value) after) :
    Program.Ensures behaviour allowed post (Attempt.mapErr wrap part >>= rest : Attempt I _ _)
      state := by
  apply Attempt.ensures_bind
  apply Program.Ensures.bind
  apply first.mono
  rintro result after ⟨kept, isGood, isMinor⟩
  cases result with
  | ok value => exact second value after (isGood value rfl) kept
  | err error => exact rule.early _ error after (wraps error) (isMinor error rfl) kept
  | noReturn => exact rule.stuck after kept

/-- A submission either succeeds or the loop goes on with its error. -/
theorem ensures_submission
    (rule : RetryRule behaviour allowed ready good minor submitted post select prepare submit
      shouldRetry refresh cleanup)
    {attempt : A} {retried : Bool}
    {rest : S → Attempt I (KeysetRetryError A P S) (KeysetRetrySuccess A V)} {state : σ}
    (isGood : good attempt) (start : ready state)
    (failed : ∀ error after, submitted attempt (.error error) after →
      Program.Ensures behaviour allowed post (rest error) after) :
    Program.Ensures behaviour allowed post
      (Attempt.perform (submit attempt) >>= afterSubmission attempt retried rest : Attempt I _ _)
      state := by
  apply Attempt.ensures_perform (rule.submit attempt state isGood start)
  intro answer after held
  cases answer with
  | ok value => exact rule.succeeded attempt value retried after held
  | error error => exact failed error after held

theorem ensures
    (rule : RetryRule behaviour allowed ready good minor submitted post select prepare submit
      shouldRetry refresh cleanup)
    {state : σ} (start : ready state) :
    Program.Ensures behaviour allowed post
      (withActiveKeysetRetry select keysetId prepare submit shouldRetry refresh cleanup) state := by
  apply rule.ensures_part (fun _ => rfl) (rule.select state start)
  intro keyset state _ start
  apply rule.ensures_part (fun _ => rfl) (rule.prepare keyset state start)
  intro attempt state isGood start
  apply rule.ensures_submission isGood start
  intro error state rejected
  by_cases permitted : shouldRetry error = true
  · rw [if_pos permitted]
    have start := rule.again attempt error state rejected permitted
    apply rule.ensures_part (fun _ => rfl) (rule.cleanup attempt error state start)
    intro _ state _ start
    apply rule.ensures_part (fun _ => rfl) (rule.refresh attempt state start)
    intro _ state _ start
    apply rule.ensures_part (fun _ => rfl) (rule.select state start)
    intro retryKeyset state _ start
    by_cases unchanged : keysetId retryKeyset = keysetId keyset
    · rw [if_pos unchanged]
      exact rule.unchanged attempt error _ state permitted start
    · rw [if_neg unchanged]
      apply rule.ensures_part (fun _ => rfl) (rule.prepare retryKeyset state start)
      intro retryAttempt state isGood start
      apply rule.ensures_submission isGood start
      intro retryError state rejected
      exact rule.failed retryAttempt retryError (some error) state rejected
  · rw [if_neg permitted]
    exact rule.failed attempt error none state rejected

end RetryRule

/-- What all parts maintain, the loop maintains. -/
theorem ensures_withActiveKeysetRetry
    (parts : RetryParts behaviour allowed maintained good select prepare submit refresh cleanup)
    {state : σ} (start : maintained state) :
    Program.Ensures behaviour allowed (RetryEnds maintained good)
      (withActiveKeysetRetry select keysetId prepare submit shouldRetry refresh cleanup) state := by
  have keeps {α : Type} {part : Attempt I P α} {state : σ}
      (kept : Program.Ensures behaviour allowed (fun _ after => maintained after) part state) :
      Program.Ensures behaviour allowed (KeepsReady maintained (fun _ => True) fun _ => True) part
        state := kept.mono fun _ _ kept => ⟨kept, fun _ _ => trivial, fun _ _ => trivial⟩
  have rule : RetryRule behaviour allowed maintained good (fun _ => True)
      (fun attempt _ after => good attempt ∧ maintained after)
      (RetryEnds maintained good) select prepare submit shouldRetry refresh cleanup := {
    select := fun state start => keeps (parts.select state start)
    prepare := fun keyset state start => (parts.prepare keyset state start).mono
      fun _ _ held => ⟨held.1, held.2, fun _ _ => trivial⟩
    submit := fun attempt state isGood start => (parts.submit attempt state start).mono
      fun _ _ kept => ⟨isGood, kept⟩
    refresh := fun attempt state start => keeps (parts.refresh attempt state start)
    cleanup := fun attempt error state start => keeps (parts.cleanup attempt error state start)
    again := fun _ _ _ held _ => held.2
    stuck := fun _ kept => ⟨kept, nofun⟩
    early := fun _ _ _ _ _ kept => ⟨kept, nofun⟩
    unchanged := fun _ _ _ _ _ kept => ⟨kept, nofun⟩
    succeeded := fun attempt value retried after held => by
      refine ⟨held.2, ?_⟩
      rintro _ ⟨⟩
      exact held.1
    failed := fun _ _ _ _ held => ⟨held.2, nofun⟩ }
  exact rule.ensures start

end Retry

end Spilman
