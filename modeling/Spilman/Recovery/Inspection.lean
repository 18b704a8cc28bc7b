/-
# Inspecting the funding of a channel

A party that has lost sight of a channel asks the mint about the funding proofs before
anything else. Proofs are known to the mint by points, their identities. The answer is
used only if it covers exactly these, each once; in which order makes no difference.

The states of the single proofs are summed up in one state of the funding. A spend that
the mint has rerandomized is reported with its randomness, the same for all proofs.
-/

import Spilman.Lib.Matching
import Spilman.Lib.Program
import Spilman.SampleChannel

namespace Spilman

open Lib

variable {T : Carriers} (L : Cashu T)

/-! ## The mint -/

/-- What a mint says about a proof. -/
inductive ProofState
  | unspent
  | pending
  | spent
  | reserved
  | pendingSpent
  deriving DecidableEq, Repr

/-- What a mint says about an identity. -/
structure IdentityState (T : Carriers) where
  y : T.PublicKey
  state : ProofState
  rerandomizationR : Option (Bytes 32)
  deriving DecidableEq

/-- The mint's answer about identities. -/
structure CheckStateResponse (T : Carriers) where
  states : List (IdentityState T)
  deriving DecidableEq

/-- What can be asked of a mint without changing anything. -/
inductive MintInquiry (T : Carriers)
  | checkState (ys : List T.PublicKey)
  | postRestore (outputs : List (BlindedMessage T))

/-- The mint's answers, or why there is none. -/
def MintInquiry.Response : MintInquiry T → Type
  | checkState _ => Except String (CheckStateResponse T)
  | postRestore _ => Except String (RestoreResponse T)

/-- A connection to a mint. -/
def mintConnection (T : Carriers) : Interface := ⟨MintInquiry T, MintInquiry.Response⟩

/-- A call that asks a mint. -/
abbrev Inquiry (T : Carriers) (ε α : Type) := Attempt (mintConnection T) ε α

/-! ## The code -/

/-- The state of all funding proofs together. -/
inductive FundingState
  | unspent
  | pending
  | spent
  | mixed
  deriving DecidableEq, Repr

/-- What was found out about the funding. -/
structure FundingInspection (T : Carriers) where
  state : FundingState
  response : CheckStateResponse T
  deriving DecidableEq

/-- The identities of the funding proofs of a valid channel. -/
def EstablishedChannel.fundingIdentities (channel : EstablishedChannel T) :
    Outcome String (List T.PublicKey) := do
  let errors ← (verifyValidChannel L channel.fundingProofs channel.params).mapErr Empty.elim
  .guard "invalid channel funding model" (errors = [])
  let ys ← .mapAll (fun proof => .ofExcept (L.hashToCurve proof.secret)) channel.fundingProofs
  .guard "invalid funding identities" (ys ≠ [] ∧ ys.Nodup)
  return ys

/-- The state that one proof reports for all of them. -/
def ProofState.aggregate : ProofState → Outcome String FundingState
  | unspent => .ok .unspent
  | pending => .ok .pending
  | spent => .ok .spent
  | reserved | pendingSpent => .err "unsupported funding state"

/-- The state of the first proof, unless another one has a different state. Without a
first proof, taking it panics. -/
def aggregateState : List (IdentityState T) → Outcome String FundingState
  | [] => .noReturn
  | first :: rest =>
      if ∃ entry ∈ first :: rest, entry.state ≠ first.state then .ok .mixed
      else first.state.aggregate

/-- Check the mint's answer about some identities, and sum it up. -/
def inspectResponse (ys : List T.PublicKey) (answer : Except String (CheckStateResponse T)) :
    Outcome String (FundingInspection T) := do
  let response ← (Outcome.ofExcept answer).mapErr fun _ => "funding inspection failed"
  .guard "funding inspection requires exact identity coverage"
    (response.states.length = ys.length ∧
      ∀ y ∈ ys, (response.states.filter (·.y = y)).length = 1)
  .guard "unsupported funding state" (∀ entry ∈ response.states,
    entry.state = .unspent ∨ entry.state = .pending ∨ entry.state = .spent)
  let state ← aggregateState response.states
  return ⟨state, response⟩

/-- Ask the mint about all funding proofs. -/
def EstablishedChannel.inspectFunding (channel : EstablishedChannel T) :
    Inquiry T String (FundingInspection T) := do
  let ys ← .lift (channel.fundingIdentities L)
  let answer ← .ask (I := mintConnection T) (.checkState ys)
  .lift (inspectResponse ys answer)

/-- The randomness of the spend, the same in all entries and present exactly in the mode
that has it. -/
def FundingInspection.closeRandomness (inspection : FundingInspection T) (mode : CommitmentMode) :
    Outcome String (Option (Bytes 32)) := do
  .guard "funding is not fully spent" (inspection.state = .spent)
  let first ← .ofOption "empty funding evidence" inspection.response.states.head?
  .guard "inconsistent committed mint randomness"
    (∀ entry ∈ inspection.response.states, entry.rerandomizationR = first.rerandomizationR)
  .guard "close mode/committed randomness mismatch"
    (first.rerandomizationR.isSome = true ↔ mode = .rerandomized)
  return first.rerandomizationR

/-- What came of a recovery. -/
inductive ChannelRecovery (T : Carriers) (α : Type)
  | unspent (funding : FundingInspection T)
  | pending (funding : FundingInspection T)
  | mixed (funding : FundingInspection T)
  | recovered (funding : FundingInspection T) (payout : α)
  | spentNoKnownPayout (funding : FundingInspection T)

/-- A recovery that has found no payout. -/
def ChannelRecovery.withoutPayout {α : Type} (funding : FundingInspection T) :
    ChannelRecovery T α :=
  match funding.state with
  | .unspent => .unspent funding
  | .pending => .pending funding
  | .mixed => .mixed funding
  | .spent => .spentNoKnownPayout funding

/-! ## What is found out -/

section Specifications

variable {L} {states states' : List (IdentityState T)} {state : FundingState}
  {ys : List T.PublicKey} {channel : EstablishedChannel T} {inspection : FundingInspection T}

/-- The state that a proof has, if all have the same. -/
def FundingState.single : FundingState → Option ProofState
  | unspent => some .unspent
  | pending => some .pending
  | spent => some .spent
  | mixed => none

/-- All proofs are in one state, or they are in different ones. -/
def Summarizes (state : FundingState) (states : List (IdentityState T)) : Prop :=
  match state.single with
  | some single => ∀ entry ∈ states, entry.state = single
  | none => ¬ ∃ single, ∀ entry ∈ states, entry.state = single

theorem aggregate_eq_ok_iff {single : ProofState} :
    single.aggregate = .ok state ↔ state.single = some single := by
  cases single <;> cases state <;> simp [ProofState.aggregate, FundingState.single]

/-- **The state that is reported is the state of all proofs**, if they have one. -/
theorem aggregateState_eq_ok_iff (nonempty : states ≠ []) :
    aggregateState states = .ok state ↔ Summarizes state states := by
  obtain ⟨first, rest, rfl⟩ := List.exists_cons_of_ne_nil nonempty
  have alone (single : ProofState) (all : ∀ entry ∈ first :: rest, entry.state = single) :
      single = first.state := (all first List.mem_cons_self).symm
  rw [aggregateState, Summarizes]
  by_cases differ : ∃ entry ∈ first :: rest, entry.state ≠ first.state
  · rw [if_pos differ, Outcome.ok.injEq]
    have none : ¬ ∃ single, ∀ entry ∈ first :: rest, entry.state = single := by
      rintro ⟨single, all⟩
      obtain ⟨entry, member, other⟩ := differ
      exact other ((all entry member).trans (alone single all))
    constructor
    · rintro rfl
      exact none
    · intro holds
      cases state with
      | mixed => rfl
      | unspent => exact absurd ⟨_, holds⟩ none
      | pending => exact absurd ⟨_, holds⟩ none
      | spent => exact absurd ⟨_, holds⟩ none
  · rw [if_neg differ, aggregate_eq_ok_iff]
    have all : ∀ entry ∈ first :: rest, entry.state = first.state := by
      intro entry member
      by_contra other
      exact differ ⟨entry, member, other⟩
    constructor
    · intro isSingle
      rw [isSingle]
      exact all
    · intro holds
      cases isSingle : state.single with
      | none =>
          rw [isSingle] at holds
          exact absurd ⟨_, all⟩ holds
      | some single =>
          rw [isSingle] at holds
          rw [alone single holds]

/-- What is said about all entries does not depend on their order. -/
theorem Summarizes.perm (holds : Summarizes state states) (perm : states.Perm states') :
    Summarizes state states' := by
  unfold Summarizes at holds ⊢
  revert holds
  cases state.single with
  | some single =>
      intro holds
      exact fun entry member => holds entry (perm.symm.subset member)
  | none =>
      rintro holds ⟨single, all⟩
      exact holds ⟨single, fun entry member => all entry (perm.subset member)⟩

/-- **Which answers are used**, and what they say. -/
theorem inspectResponse_eq_ok_iff (nonempty : ys ≠ []) (distinct : ys.Nodup)
    {answer : Except String (CheckStateResponse T)} :
    inspectResponse ys answer = .ok inspection ↔
      answer = .ok inspection.response ∧
      (inspection.response.states.map IdentityState.y).Perm ys ∧
      (∀ entry ∈ inspection.response.states,
        entry.state = .unspent ∨ entry.state = .pending ∨ entry.state = .spent) ∧
      Summarizes inspection.state inspection.response.states := by
  have present {states : List (IdentityState T)} (perm : (states.map IdentityState.y).Perm ys) :
      states ≠ [] := by
    rintro rfl
    exact nonempty perm.symm.eq_nil
  simp only [inspectResponse, Outcome.bind_eq_ok, Outcome.guard_eq_ok, Outcome.mapErr_eq_ok,
    Outcome.ofExcept_eq_ok, covers_iff_perm distinct, Outcome.pure_eq, Outcome.ok.injEq]
  constructor
  · rintro ⟨response, answered, -, perm, -, supported, state, summed, rfl⟩
    exact ⟨answered, perm, supported, (aggregateState_eq_ok_iff (present perm)).mp summed⟩
  · rintro ⟨answered, perm, supported, summed⟩
    exact ⟨inspection.response, answered, (), perm, (), supported, inspection.state,
      (aggregateState_eq_ok_iff (present perm)).mpr summed, rfl⟩

/-- The identities that are asked for are some, and distinct. -/
theorem identities_of_fundingIdentities (found : channel.fundingIdentities L = .ok ys) :
    ys ≠ [] ∧ ys.Nodup := by
  simp only [EstablishedChannel.fundingIdentities, Outcome.bind_eq_ok, Outcome.guard_eq_ok,
    Outcome.pure_eq, Outcome.ok.injEq] at found
  obtain ⟨_, -, -, -, _, -, -, good, rfl⟩ := found
  exact good

section Runs

variable {σ : Type} {server : Server (mintConnection T) σ} {before : σ}

/-- The mint is asked once, about the identities of the funding. -/
theorem run_inspectFunding (isYs : channel.fundingIdentities L = .ok ys) :
    Program.run server (channel.inspectFunding L) before =
      (inspectResponse ys (server (.checkState ys) before).1,
        (server (.checkState ys) before).2) := by
  simp only [EstablishedChannel.inspectFunding, isYs, Attempt.lift_bind, Attempt.resume_ok]
  rfl

theorem exists_of_run_inspectFunding
    (inspected : (Program.run server (channel.inspectFunding L) before).1 = .ok inspection) :
    ∃ ys, channel.fundingIdentities L = .ok ys ∧
      inspectResponse ys (server (.checkState ys) before).1 = .ok inspection := by
  cases isYs : channel.fundingIdentities L with
  | ok ys =>
      rw [run_inspectFunding isYs] at inspected
      exact ⟨ys, rfl, inspected⟩
  | err error =>
      simp only [EstablishedChannel.inspectFunding, isYs, Attempt.lift_bind,
        Attempt.resume_err] at inspected
      cases inspected
  | noReturn =>
      simp only [EstablishedChannel.inspectFunding, isYs, Attempt.lift_bind,
        Attempt.resume_noReturn] at inspected
      cases inspected

end Runs

/-- **When the randomness is used.** -/
theorem closeRandomness_eq_ok_iff {mode : CommitmentMode} {r : Option (Bytes 32)} :
    inspection.closeRandomness mode = .ok r ↔
      inspection.state = .spent ∧ inspection.response.states ≠ [] ∧
      (∀ entry ∈ inspection.response.states, entry.rerandomizationR = r) ∧
      (r.isSome = true ↔ mode = .rerandomized) := by
  simp only [FundingInspection.closeRandomness, Outcome.bind_eq_ok, Outcome.guard_eq_ok,
    Outcome.ofOption_eq_ok, Outcome.pure_eq, Outcome.ok.injEq]
  constructor
  · rintro ⟨-, spent, first, isFirst, -, same, -, fits, rfl⟩
    refine ⟨spent, ?_, same, fits⟩
    intro nothing
    rw [nothing] at isFirst
    cases isFirst
  · rintro ⟨spent, some, same, fits⟩
    obtain ⟨first, rest, isStates⟩ := List.exists_cons_of_ne_nil some
    have isR := same first (isStates ▸ List.mem_cons_self)
    refine ⟨(), spent, first, by rw [isStates, List.head?_cons], (), ?_, (), ?_, isR⟩
    · exact fun entry member => (same entry member).trans isR.symm
    · rw [isR]
      exact fits

/-- The randomness is read off whatever entry comes first. -/
theorem closeRandomness_of_perm {inspection' : FundingInspection T}
    (state : inspection'.state = inspection.state)
    (perm : inspection.response.states.Perm inspection'.response.states) (mode : CommitmentMode) :
    inspection'.closeRandomness mode = inspection.closeRandomness mode := by
  have consistent (states states' : List (IdentityState T)) (perm : states.Perm states')
      (first first' : IdentityState T) (isFirst : states.head? = some first)
      (isFirst' : states'.head? = some first')
      (same : ∀ entry ∈ states, entry.rerandomizationR = first.rerandomizationR) :
      first'.rerandomizationR = first.rerandomizationR ∧
        ∀ entry ∈ states', entry.rerandomizationR = first'.rerandomizationR := by
    have second := same first' (perm.symm.subset (List.mem_of_head? isFirst'))
    exact ⟨second, fun entry member => (same entry (perm.symm.subset member)).trans second.symm⟩
  unfold FundingInspection.closeRandomness
  rw [state]
  generalize inspection.response.states = states at *
  generalize inspection'.response.states = states' at *
  cases isFirst : states.head? with
  | none =>
      rw [List.head?_eq_none_iff] at isFirst
      subst isFirst
      rw [perm.symm.eq_nil]
      rfl
  | some first =>
      cases isFirst' : states'.head? with
      | none =>
          rw [List.head?_eq_none_iff] at isFirst'
          subst isFirst'
          rw [perm.eq_nil] at isFirst
          cases isFirst
      | some first' =>
          by_cases same : ∀ entry ∈ states, entry.rerandomizationR = first.rerandomizationR
          · obtain ⟨equal, same'⟩ := consistent states states' perm first first' isFirst isFirst' same
            rw [equal] at same'
            simp only [Outcome.ofOption_some, Outcome.ok_bind, Outcome.guard_pos same,
              Outcome.guard_pos same', equal]
          · have same' : ¬ ∀ entry ∈ states', entry.rerandomizationR = first'.rerandomizationR :=
              fun all => same (consistent states' states perm.symm first' first isFirst' isFirst all).2
            simp only [Outcome.ofOption_some, Outcome.ok_bind, Outcome.guard_neg same,
              Outcome.guard_neg same', Outcome.err_bind]

end Specifications

namespace Sample

/-- A mint that has seen all funding spent, with one `R`, and answers backwards. -/
def spentBy (r : Option (Bytes 32)) : Server (mintConnection carriers) Unit
  | .checkState ys, _ => (.ok ⟨ys.reverse.map fun y => ⟨y, .spent, r⟩⟩, ())
  | .postRestore _, _ => (.error "not asked", ())

/-- The channel of the sample, as its two sides hold it. -/
def twoChannel : Outcome String (EstablishedChannel carriers) := do
  let params ← (two "m").params (pairs "sat")
  let proofs ← (two "m").fund (pairs "sat")
  EstablishedChannel.new library params proofs

end Sample

end Spilman
