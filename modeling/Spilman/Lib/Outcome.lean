/-
# Calls that may fail or never return

A call of an imperative program has three ends: it returns a value, it returns
an error, or it never returns because some loop in it never stops. `Outcome`
keeps the third end apart from the second, so that "the call fails" is never
proved of a call that hangs.

The central rule is `Outcome.bind_eq_ok`: a sequence of calls succeeds exactly
when each of its calls does, in order. Loops whose number of rounds is not
known in advance are run by `seek`, and `seek_eq_ok_iff` says what a finished
search has seen.
-/

import Mathlib.Logic.Function.Iterate
import Mathlib.Tactic.Common
import Spilman.Lib.Pairing

namespace Spilman.Lib

/-- The end of a call: a value, an error, or no return at all. -/
inductive Outcome (ε α : Type)
  | ok (value : α)
  | err (error : ε)
  | noReturn
  deriving DecidableEq, Repr

namespace Outcome

variable {ε ε' α β : Type}

/-- Run the rest of the program on the value, and stop at anything else. -/
protected def bind (call : Outcome ε α) (rest : α → Outcome ε β) : Outcome ε β :=
  match call with
  | .ok value => rest value
  | .err error => .err error
  | .noReturn => .noReturn

instance : Monad (Outcome ε) where
  pure := .ok
  bind := Outcome.bind

@[simp]
theorem pure_eq (value : α) : (pure value : Outcome ε α) = .ok value := rfl

@[simp]
theorem ok_bind (value : α) (rest : α → Outcome ε β) :
    (Outcome.ok value >>= rest) = rest value := rfl

@[simp]
theorem err_bind (error : ε) (rest : α → Outcome ε β) :
    (Outcome.err error >>= rest) = .err error := rfl

@[simp]
theorem noReturn_bind (rest : α → Outcome ε β) :
    ((Outcome.noReturn : Outcome ε α) >>= rest) = .noReturn := rfl

instance : LawfulMonad (Outcome ε) :=
  LawfulMonad.mk' (Outcome ε) (fun call => by cases call <;> rfl) (fun _ _ => rfl)
    (fun call _ _ => by cases call <;> rfl)

/-- A sequence of two calls succeeds exactly when both do. -/
theorem bind_eq_ok {call : Outcome ε α} {rest : α → Outcome ε β} {result : β} :
    (call >>= rest) = .ok result ↔ ∃ value, call = .ok value ∧ rest value = .ok result := by
  cases call <;> simp

/-- The call returned a value. -/
def isOk : Outcome ε α → Bool
  | .ok _ => true
  | _ => false

theorem exists_of_isOk {call : Outcome ε α} (returned : call.isOk = true) :
    ∃ value, call = .ok value := by
  cases call with
  | ok value => exact ⟨value, rfl⟩
  | err _ => cases returned
  | noReturn => cases returned

/-- The call returned a value that passes a test. -/
def okAnd (test : α → Bool) : Outcome ε α → Bool
  | .ok value => test value
  | _ => false

theorem exists_of_okAnd {test : α → Bool} {call : Outcome ε α} (passed : call.okAnd test = true) :
    ∃ value, call = .ok value ∧ test value = true := by
  cases call with
  | ok value => exact ⟨value, rfl, passed⟩
  | err _ => cases passed
  | noReturn => cases passed

/-- Replace the error of a failed call. -/
def mapErr (f : ε → ε') : Outcome ε α → Outcome ε' α
  | .ok value => .ok value
  | .err error => .err (f error)
  | .noReturn => .noReturn

@[simp]
theorem mapErr_ok (f : ε → ε') (value : α) :
    (Outcome.ok value : Outcome ε α).mapErr f = .ok value := rfl

@[simp]
theorem mapErr_eq_ok {f : ε → ε'} {call : Outcome ε α} {value : α} :
    call.mapErr f = .ok value ↔ call = .ok value := by
  cases call <;> simp [mapErr]

/-- A total fallible call. -/
def ofExcept : Except ε α → Outcome ε α
  | .ok value => .ok value
  | .error error => .err error

@[simp]
theorem ofExcept_ok (value : α) : (ofExcept (.ok value) : Outcome ε α) = .ok value := rfl

@[simp]
theorem ofExcept_error (error : ε) : (ofExcept (.error error) : Outcome ε α) = .err error := rfl

@[simp]
theorem ofExcept_eq_ok {call : Except ε α} {value : α} :
    ofExcept call = .ok value ↔ call = .ok value := by
  cases call <;> simp

/-- An optional value, with the error to report when it is missing. -/
def ofOption (error : ε) : Option α → Outcome ε α
  | some value => .ok value
  | none => .err error

@[simp]
theorem ofOption_some (error : ε) (value : α) : ofOption error (some value) = .ok value := rfl

@[simp]
theorem ofOption_none (error : ε) : ofOption error (none : Option α) = .err error := rfl

@[simp]
theorem ofOption_eq_ok {error : ε} {found : Option α} {value : α} :
    ofOption error found = .ok value ↔ found = some value := by
  cases found <;> simp

/-- Go on only if the condition holds. -/
def guard (error : ε) (condition : Prop) [Decidable condition] : Outcome ε Unit :=
  if condition then .ok () else .err error

@[simp]
theorem guard_eq_ok {error : ε} {condition : Prop} [Decidable condition] {done : Unit} :
    guard error condition = .ok done ↔ condition := by
  by_cases holds : condition <;> simp [guard, holds]

theorem guard_pos {error : ε} {condition : Prop} [Decidable condition] (holds : condition) :
    guard error condition = .ok () := if_pos holds

theorem guard_neg {error : ε} {condition : Prop} [Decidable condition] (fails : ¬ condition) :
    guard error condition = .err error := if_neg fails

/-! ## Element-wise calls -/

/-- Call on each element in order and stop at the first that does not succeed. -/
def mapAll (call : α → Outcome ε β) : List α → Outcome ε (List β)
  | [] => .ok []
  | first :: others => do
      let result ← call first
      let results ← mapAll call others
      return result :: results

@[simp]
theorem mapAll_nil (call : α → Outcome ε β) : mapAll call [] = .ok [] := rfl

theorem mapAll_cons (call : α → Outcome ε β) (first : α) (others : List α) :
    mapAll call (first :: others) =
      (call first >>= fun result => mapAll call others >>= fun results =>
        .ok (result :: results)) := rfl

/-- The batch succeeds exactly when each element does, and gives the results in
the order of the elements. -/
theorem mapAll_eq_ok {call : α → Outcome ε β} {inputs : List α} {results : List β} :
    mapAll call inputs = .ok results ↔
      List.Forall₂ (fun input result => call input = .ok result) inputs results := by
  induction inputs generalizing results with
  | nil => simp [List.forall₂_nil_left_iff, eq_comm]
  | cons first others ih =>
      rw [mapAll_cons, bind_eq_ok]
      constructor
      · rintro ⟨result, called, rest⟩
        obtain ⟨tail, calledTail, built⟩ := bind_eq_ok.mp rest
        cases built
        exact .cons called (ih.mp calledTail)
      · rintro (_ | ⟨called, calledTail⟩)
        exact ⟨_, called, bind_eq_ok.mpr ⟨_, ih.mpr calledTail, rfl⟩⟩

/-- A batch of calls that each succeed. -/
theorem exists_mapAll {call : α → Outcome ε β} {inputs : List α}
    (each : ∀ input ∈ inputs, ∃ result, call input = .ok result) :
    ∃ results, mapAll call inputs = .ok results := by
  obtain ⟨results, related⟩ := exists_forall₂ each
  exact ⟨results, mapAll_eq_ok.mpr related⟩

/-- Check each element in order and stop at the first that does not pass. -/
def forAll (check : α → Outcome ε Unit) : List α → Outcome ε Unit
  | [] => .ok ()
  | first :: others => do
      check first
      forAll check others

/-- All checks pass exactly when each does. -/
theorem forAll_eq_ok {check : α → Outcome ε Unit} {inputs : List α} {done : Unit} :
    forAll check inputs = .ok done ↔ ∀ input ∈ inputs, check input = .ok () := by
  induction inputs with
  | nil => simp [forAll]
  | cons first others ih =>
      rw [forAll, bind_eq_ok, List.forall_mem_cons, ih]
      constructor
      · rintro ⟨_, passed, rest⟩
        exact ⟨passed, rest⟩
      · rintro ⟨passed, rest⟩
        exact ⟨(), passed, rest⟩

/-! ## Calls that return -/

/-- The call comes back, with a value or an error. -/
def Returns (call : Outcome ε α) : Prop := call ≠ .noReturn

/-- A call that returns, but not with a value, returns an error. -/
theorem Returns.exists_err {call : Outcome ε α} (returns : call.Returns)
    (failed : ∀ value, call ≠ .ok value) : ∃ error, call = .err error := by
  cases call with
  | ok value => exact absurd rfl (failed value)
  | err error => exact ⟨error, rfl⟩
  | noReturn => exact absurd rfl returns

@[simp]
theorem returns_ok (value : α) : (Outcome.ok value : Outcome ε α).Returns := nofun

@[simp]
theorem returns_err (error : ε) : (Outcome.err error : Outcome ε α).Returns := nofun

/-- A sequence of calls returns, if the first does and the rest does on its value. -/
theorem Returns.bind {call : Outcome ε α} {rest : α → Outcome ε β} (returns : call.Returns)
    (continues : ∀ value, call = .ok value → (rest value).Returns) :
    (call >>= rest).Returns := by
  cases call with
  | ok value => exact continues value rfl
  | err error => exact returns_err error
  | noReturn => exact absurd rfl returns

@[simp]
theorem returns_mapErr {f : ε → ε'} {call : Outcome ε α} :
    (call.mapErr f).Returns ↔ call.Returns := by
  cases call <;> simp [Returns, mapErr]

@[simp]
theorem returns_ofExcept (call : Except ε α) : (ofExcept call).Returns := by
  cases call <;> simp

@[simp]
theorem returns_ofOption (error : ε) (found : Option α) : (ofOption error found).Returns := by
  cases found <;> simp

@[simp]
theorem returns_guard (error : ε) (condition : Prop) [Decidable condition] :
    (guard error condition).Returns := by
  by_cases holds : condition <;> simp [guard, holds]

theorem returns_forAll {check : α → Outcome ε Unit} {inputs : List α}
    (each : ∀ input ∈ inputs, (check input).Returns) : (forAll check inputs).Returns := by
  induction inputs with
  | nil => exact returns_ok ()
  | cons first others ih =>
      refine (each first List.mem_cons_self).bind fun _ _ => ?_
      exact ih fun input member => each input (List.mem_cons_of_mem _ member)

theorem returns_mapAll {call : α → Outcome ε β} {inputs : List α}
    (each : ∀ input ∈ inputs, (call input).Returns) : (mapAll call inputs).Returns := by
  induction inputs with
  | nil => exact returns_ok []
  | cons first others ih =>
      refine (each first List.mem_cons_self).bind fun _ _ => Returns.bind ?_ fun _ _ => ?_
      · exact ih fun input member => each input (List.mem_cons_of_mem _ member)
      · exact returns_ok _

/-! ## What the errors of a call are -/

/-- Whatever error the call returns is one of some kind. -/
def FailsOnly (kind : ε → Prop) (call : Outcome ε α) : Prop := ∀ error, call = .err error → kind error

section FailsOnly

variable {kind : ε → Prop}

theorem failsOnly_ok (value : α) : (Outcome.ok value : Outcome ε α).FailsOnly kind := nofun

theorem FailsOnly.bind {call : Outcome ε α} {rest : α → Outcome ε β} (first : call.FailsOnly kind)
    (continues : ∀ value, (rest value).FailsOnly kind) : (call >>= rest).FailsOnly kind := by
  cases call with
  | ok value => exact continues value
  | err error =>
      rintro _ ⟨⟩
      exact first error rfl
  | noReturn => nofun

theorem failsOnly_mapErr {f : ε' → ε} {call : Outcome ε' α} (wraps : ∀ error, kind (f error)) :
    (call.mapErr f).FailsOnly kind := by
  cases call with
  | ok value => nofun
  | err error =>
      rintro _ ⟨⟩
      exact wraps error
  | noReturn => nofun

theorem failsOnly_guard {error : ε} {condition : Prop} [Decidable condition] (isKind : kind error) :
    (guard error condition).FailsOnly kind := by
  by_cases holds : condition
  · rw [guard_pos holds]
    nofun
  · rw [guard_neg holds]
    rintro _ ⟨⟩
    exact isKind

end FailsOnly

end Outcome

/-! ## Unbounded loops -/

section Seek

variable {ε σ α : Type}

/-- `loop { if let Some(a) = probe(s)? { return Ok(a) }; s = next(s) }`, run for
at most the given number of rounds. A caller whose state can take only that
many values passes exactly that number: a loop that has not returned by then
has come back to a state it was in, and goes round for ever. -/
def seek (next : σ → σ) (probe : σ → Outcome ε (Option α)) : Nat → σ → Outcome ε α
  | 0, _ => .noReturn
  | rounds + 1, state => do
      match ← probe state with
      | some result => .ok result
      | none => seek next probe rounds (next state)

theorem seek_succ (next : σ → σ) (probe : σ → Outcome ε (Option α)) (rounds : Nat) (state : σ) :
    seek next probe (rounds + 1) state =
      (probe state >>= fun
        | some result => .ok result
        | none => seek next probe rounds (next state)) := rfl

/-- A search that returns has been refused at every earlier state and found its
result at the last one. -/
theorem seek_eq_ok_iff {next : σ → σ} {probe : σ → Outcome ε (Option α)} {rounds : Nat}
    {state : σ} {result : α} :
    seek next probe rounds state = .ok result ↔
      ∃ k < rounds, (∀ j < k, probe (next^[j] state) = .ok none) ∧
        probe (next^[k] state) = .ok (some result) := by
  induction rounds generalizing state with
  | zero => simp [seek]
  | succ rounds ih =>
      rw [seek_succ, Outcome.bind_eq_ok]
      constructor
      · rintro ⟨_ | found, probed, rest⟩
        · obtain ⟨k, bound, refused, hit⟩ := ih.mp rest
          refine ⟨k + 1, by omega, ?_, by simpa using hit⟩
          rintro (_ | j) lower
          · exact probed
          · simpa using refused j (by omega)
        · cases rest
          exact ⟨0, by omega, by omega, probed⟩
      · rintro ⟨_ | k, bound, refused, hit⟩
        · exact ⟨some result, hit, rfl⟩
        · refine ⟨none, refused 0 (by omega), ih.mpr ⟨k, by omega, fun j lower => ?_, ?_⟩⟩
          · simpa using refused (j + 1) (by omega)
          · simpa using hit

end Seek

end Spilman.Lib
