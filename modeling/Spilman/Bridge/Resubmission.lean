/-
# How often a close is submitted

A closing channel is executed by one call that may submit its swap a second time, with
outputs of another keyset. The call is a program, so whatever the mint, the host and the
refresher do are the answers it gets, and what it has asked and was answered is its
transcript. `submissions` are the swaps in there.

The call is written twice in the source, once for callbacks that block and once for
callbacks that are awaited. Both are the same program.

Each attempt reads the stored funding again. What a second attempt keeps of the first
therefore depends on the host giving the same funding again.
-/

import Spilman.MintOutcome
import Spilman.Bridge.Deployment

namespace Spilman

open Lib

variable {T : Carriers} {σ ω ε α β : Type}

/-! ## The asynchronous call -/

namespace Bridge

variable (L : Cashu T) (K : KeyOps T) (H : ConfigurableHost T σ)

/-- What the closures of a close share. -/
structure RetryCells where
  firstRejection : Option MintRequestError
  retryMintUrl : Option String

/-- Retry only after a rejection of the keyset, and remember the rejection. -/
def rememberRejection (error : MintRequestError) (cells : RetryCells) : Bool × RetryCells :=
  if error.permitsKeysetRetry then (true, { cells with firstRejection := some error })
  else (false, cells)

/-- Refresh the keysets of the mint that was asked. An error of the refresher is ignored. -/
def refreshRemembered (cells : RetryCells) : Attempt (requests T σ) CloseError Unit :=
  match cells.retryMintUrl with
  | some mintUrl => Attempt.perform ((refreshKeysets mintUrl).bind fun _ => .done ())
  | none => pure ()

/-- Remember the mint that was asked. -/
def rememberMint (attempt : PreparedClose T) (_ : MintRequestError) (cells : RetryCells) :
    Outcome CloseError RetryCells :=
  .ok { cells with retryMintUrl := some attempt.mintUrl }

/-- What a failed submission is reported as, with the rejection that is remembered. -/
def submissionErrorAsync (error : MintRequestError) (first : Option MintRequestError) :
    Bool → CloseError
  | false =>
      if error.rejection.isSome then .mintRejected error.value 502
      else .mintRequestFailed error none 502
  | true =>
      if error.rejection.isSome then
        .mintRejectedAfterRetry ((first.map MintRequestError.value).getD .null) error.value 502
      else .mintRequestFailed error first 502

/-- `close_retry_result`. -/
def closeRetryResultAsync (first : Option MintRequestError) :
    KeysetRetryErrorAsync (PreparedClose T) CloseError MintRequestError → CloseError
  | .select error | .prepare error | .refresh error | .cleanup error => error
  | .submit _ error retried => submissionErrorAsync error first retried
  | .retryKeysetUnchanged _ error _ => .mintRejected error.value 502

def ensureCloseKeysetsCachedAsync (channelId : String) : Call T σ CloseError Unit := do
  let host ← observe (look L K H)
  let mintUnit ← Attempt.lift ((closeMintUnitForChannel L host channelId).mapErr
    .fromPreparationError)
  match ← Attempt.perform (observe (selectCloseOutputKeysetForChannel L K H channelId)) with
  | .ok _ => pure ()
  | .noReturn => Attempt.lift .noReturn
  | .err _ => do
      let refreshed ← Attempt.perform (refreshKeysets mintUnit.1)
      Attempt.lift ((Outcome.ofExcept refreshed).mapErr fun e =>
        .storage s!"refresh keysets before close: {e}")

/-- Submit the swap of a closing channel, and report how the loop ended. -/
def submitCloseAsync (channelId : String) (closing : ClosingData) :
    Call T σ CloseError (KeysetRetrySuccess (PreparedClose T) T.Text) :=
  Program.bind (withActiveKeysetRetryAsync
    (observe ((selectCloseOutputKeysetForChannel L K H channelId).mapErr .fromPreparationError))
    SelectedOutputKeyset.id
    (fun selected => observe ((prepareCloseForClosingChannelWithKeyset L K H channelId
      closing.balance closing.signature selected).mapErr .fromPreparationError))
    (fun prep => .call (.callMintSwap prep.mintUrl (L.render prep.swapRequest)) .done)
    rememberRejection refreshRemembered rememberMint ⟨none, none⟩)
    fun ended => .done (ended.1.mapErr (closeRetryResultAsync ended.2.firstRejection))

/-- `execute_close_for_closing_channel_async`. -/
def executeCloseForClosingChannelAsync (channelId : String) :
    Call T σ CloseError (CloseSuccess T) := do
  observe (checkClosing L K H channelId)
  let host ← observe (look L K H)
  let closing ← Attempt.lift (.ofOption
    (.validationFailed "Missing closing data" 500 none none) (host.getClosingData channelId))
  ensureCloseKeysetsCachedAsync L K H channelId
  let success ← submitCloseAsync L K H channelId closing
  finalizeClose L K H success.value success.attempt

variable {L K H}

theorem ensureCloseKeysetsCachedAsync_eq (channelId : String) :
    ensureCloseKeysetsCachedAsync L K H channelId = ensureCloseKeysetsCached L K H channelId := rfl

section Loops

variable {S V : Type} {cells : RetryCells}

/-- How the asynchronous loop is reported. -/
def reportClose (ended : RetryEnded (PreparedClose T) V CloseError MintRequestError RetryCells) :
    Call T σ CloseError (KeysetRetrySuccess (PreparedClose T) V) :=
  .done (ended.1.mapErr (closeRetryResultAsync ended.2.firstRejection))

/-- A part of both loops: its failure is reported alike, and so is what comes after it. -/
theorem report_part {part : Attempt (requests T σ) CloseError α}
    {wrapAsync : CloseError → KeysetRetryErrorAsync (PreparedClose T) CloseError MintRequestError}
    {wrap : CloseError → KeysetRetryError (PreparedClose T) CloseError MintRequestError}
    {restAsync : α → Program (requests T σ) (RetryEnded _ V _ _ RetryCells)}
    {rest : α → Attempt (requests T σ) _ (KeysetRetrySuccess (PreparedClose T) V)}
    (failed : ∀ error, closeRetryResultAsync cells.firstRejection (wrapAsync error) =
      closeRetryResult (wrap error))
    (next : ∀ value, (restAsync value).bind reportClose = (rest value).mapErr closeRetryResult) :
    Program.bind (Program.bind part (orElse wrapAsync cells restAsync)) reportClose =
      Attempt.mapErr closeRetryResult (Attempt.mapErr wrap part >>= rest) := by
  have sync : Attempt.mapErr closeRetryResult (Attempt.mapErr wrap part >>= rest) =
      Program.bind part fun result =>
        Attempt.mapErr closeRetryResult (Attempt.resume rest (result.mapErr wrap)) :=
    (Program.bind_assoc _ _ _).trans (Program.bind_assoc _ _ _)
  rw [sync]
  refine (Program.bind_assoc _ _ _).trans (congrArg (Program.bind part) (funext ?_))
  intro result
  cases result with
  | ok value => exact next value
  | err error => exact congrArg (fun e => Program.done (Outcome.err e)) (failed error)
  | noReturn => rfl

/-- A submission of both loops. -/
theorem report_submission {attempt : PreparedClose T} {retried : Bool}
    {submit : Program (requests T σ) (Except MintRequestError V)}
    {restAsync : Except MintRequestError V → Program (requests T σ) (RetryEnded _ V _ _ RetryCells)}
    {rest : MintRequestError → Attempt (requests T σ) _ (KeysetRetrySuccess (PreparedClose T) V)}
    (succeeded : ∀ value, restAsync (.ok value) = .done (.ok ⟨attempt, value, retried⟩, cells))
    (failed : ∀ error, (restAsync (.error error)).bind reportClose =
      (rest error).mapErr closeRetryResult) :
    (submit.bind restAsync).bind reportClose =
      Attempt.mapErr closeRetryResult
        (Attempt.perform submit >>= afterSubmission attempt retried rest) := by
  have sync : Attempt.mapErr closeRetryResult
      (Attempt.perform submit >>= afterSubmission attempt retried rest) =
      submit.bind fun answer =>
        Attempt.mapErr closeRetryResult (afterSubmission attempt retried rest answer) :=
    (Program.bind_assoc _ _ _).trans (Program.bind_assoc _ _ _)
  rw [sync]
  refine (Program.bind_assoc _ _ _).trans (congrArg submit.bind (funext ?_))
  intro answer
  cases answer with
  | ok value =>
      rw [succeeded]
      rfl
  | error error => exact failed error

variable {select : Attempt (requests T σ) CloseError S} {keysetId : S → String}
  {prepare : S → Attempt (requests T σ) CloseError (PreparedClose T)}
  {submit : PreparedClose T → Program (requests T σ) (Except MintRequestError V)}

theorem report_retry {keyset : S} {attempt : PreparedClose T} {error : MintRequestError}
    (remembered : cells.firstRejection = some error) :
    (retryWithRefreshedKeysetAsync select keysetId prepare submit refreshRemembered rememberMint
        keyset attempt error cells).bind reportClose =
      Attempt.mapErr closeRetryResult (retryWithRefreshedKeyset select keysetId prepare submit
        (fun prep => Attempt.perform ((refreshKeysets prep.mintUrl).bind fun _ => .done ()))
        (fun _ _ => pure ()) keyset attempt error) := by
  apply report_part (fun _ => rfl)
  intro _
  apply report_part (fun _ => rfl)
  intro retryKeyset
  by_cases unchanged : keysetId retryKeyset = keysetId keyset
  · simp only [if_pos unchanged]
    rfl
  · simp only [if_neg unchanged]
    apply report_part (fun _ => rfl)
    intro retryAttempt
    apply report_submission (fun _ => rfl)
    intro retryError
    have same : submissionErrorAsync retryError cells.firstRejection true =
        submissionError retryError (some error) := by
      rw [remembered]
      rfl
    exact congrArg (fun e => Program.done (Outcome.err e)) same

/-- Both loops go through the same parts, and are reported alike. -/
theorem report_withActiveKeysetRetry :
    (withActiveKeysetRetryAsync select keysetId prepare submit rememberRejection
        refreshRemembered rememberMint ⟨none, none⟩).bind reportClose =
      Attempt.mapErr closeRetryResult (withActiveKeysetRetry select keysetId prepare submit
        MintRequestError.permitsKeysetRetry
        (fun prep => Attempt.perform ((refreshKeysets prep.mintUrl).bind fun _ => .done ()))
        fun _ _ => pure ()) := by
  apply report_part (fun _ => rfl)
  intro keyset
  apply report_part (fun _ => rfl)
  intro attempt
  apply report_submission (fun _ => rfl)
  intro error
  by_cases permitted : error.permitsKeysetRetry = true
  · simp only [rememberRejection, if_pos permitted]
    exact report_retry rfl
  · simp only [rememberRejection, if_neg permitted]
    rfl

end Loops

/-- Both calls are the same program. -/
theorem executeCloseForClosingChannelAsync_eq (channelId : String) :
    executeCloseForClosingChannelAsync L K H channelId =
      executeCloseForClosingChannel L K H channelId := by
  have submits : ∀ closing, submitCloseAsync L K H channelId closing =
      (submitClose L K H channelId closing).mapErr closeRetryResult :=
    fun _ => report_withActiveKeysetRetry
  unfold executeCloseForClosingChannelAsync executeCloseForClosingChannel
  simp only [submits, ensureCloseKeysetsCachedAsync_eq]

end Bridge

/-! ## Swaps in a transcript -/

/-- A swap that was submitted, with the mint's answer. -/
structure Submission (T : Carriers) where
  mintUrl : String
  swapRequest : T.Text
  answer : Except MintRequestError T.Text

/-- What is known of a call that has asked and was answered. -/
abbrev Log (T : Carriers) (σ : Type) := List (Program.Exchange (requests T σ))

/-- The swap of an exchange, if there is one. -/
def submissionOf : Program.Exchange (requests T σ) → Option (Submission T)
  | ⟨.callMintSwap mintUrl swapRequest, answer⟩ => some ⟨mintUrl, swapRequest, answer⟩
  | _ => none

/-- A prepared swap as it is submitted and answered. -/
def Submission.of (L : Cashu T) (prep : PreparedClose T)
    (answer : Except MintRequestError T.Text) : Submission T :=
  ⟨prep.mintUrl, L.render prep.swapRequest, answer⟩

def Submission.exchange (submission : Submission T) : Program.Exchange (requests T σ) :=
  ⟨.callMintSwap submission.mintUrl submission.swapRequest, submission.answer⟩

/-- The swaps that were submitted, the first one first. -/
def submissions (log : Log T σ) : List (Submission T) := log.filterMap submissionOf

/-- The moment of an exchange that looked, if it is one. -/
def momentOf : Program.Exchange (requests T σ) → Option (Moment σ)
  | ⟨.look, moment⟩ => some moment
  | _ => none

/-- A moment that was looked at. -/
def Looked (log : Log T σ) (moment : Moment σ) : Prop := moment ∈ log.filterMap momentOf

/-- The stored funding of a channel was the same whenever it was looked at. -/
def FundingKept (S : SpilmanStorage T σ) (channelId : String) (log : Log T σ) : Prop :=
  ∀ first, Looked log first → ∀ second, Looked log second →
    S.getFunding first.store channelId = S.getFunding second.store channelId

/-- All steps but the submission of a swap. -/
def Request.Quiet : Request T → Prop
  | callMintSwap _ _ => False
  | _ => True

/-- A later log in which nothing more was submitted. -/
structure Quietly (log after : Log T σ) : Prop where
  extended : log <+: after
  submissions : submissions after = submissions log

theorem Quietly.refl (log : Log T σ) : Quietly log log := ⟨List.prefix_rfl, rfl⟩

theorem Quietly.trans {log middle after : Log T σ} (first : Quietly log middle)
    (second : Quietly middle after) : Quietly log after :=
  ⟨first.extended.trans second.extended, second.submissions.trans first.submissions⟩

theorem quietly_append {log : Log T σ} {request : Request T} (quiet : request.Quiet)
    (answer : (requests T σ).Response request) : Quietly log (log ++ [⟨request, answer⟩]) := by
  refine ⟨List.prefix_append log _, ?_⟩
  have none : submissionOf (⟨request, answer⟩ : Program.Exchange (requests T σ)) = none := by
    cases request with
    | callMintSwap mintUrl swapRequest => exact quiet.elim
    | _ => rfl
  simp only [submissions, List.filterMap_append, List.filterMap_cons_none none,
    List.filterMap_nil, List.append_nil]

theorem Looked.mono {log after : Log T σ} {moment : Moment σ} (looked : Looked log moment)
    (extended : log <+: after) : Looked after moment :=
  (extended.filterMap momentOf).subset looked

theorem looked_append (log : Log T σ) (moment : Moment σ) :
    Looked (log ++ [⟨.look, moment⟩]) moment := by
  unfold Looked
  rw [List.filterMap_append]
  exact List.mem_append_right _ List.mem_cons_self

/-- Whatever is allowed to be asked. -/
def anything (_ : Request T) (_ : Log T σ) : Prop := True

/-- A program that asks for no swap submits none. -/
theorem ensures_quietly {program : Program (requests T σ) α}
    (asks : program.Asks Request.Quiet) (log : Log T σ) :
    program.Ensures Program.logging anything (fun _ after => Quietly log after) log := by
  apply asks.ensures
  · exact fun _ _ _ _ => trivial
  · rintro request state answer _ quiet sofar rfl
    exact sofar.trans (quietly_append quiet answer)
  · exact .refl log

/-- A reading submits nothing, and gives what it gives at the moments it has looked at. -/
theorem ensures_observe_logged {good : (Moment σ → Prop) → α → Prop} {reading : Reading σ ε α}
    (gives : ∀ seen, Gives seen (good seen) reading) (log : Log T σ) :
    Program.Ensures Program.logging anything
      (fun result after => Quietly log after ∧
        ∀ value, result = .ok value → good (Looked after) value)
      (observe reading : Call T σ ε α) log := by
  have general : ∀ {reading : Reading σ ε α} {sofar : Log T σ}, Quietly log sofar →
      (∀ seen, (∀ moment, Looked sofar moment → seen moment) → Gives seen (good seen) reading) →
      Program.Ensures Program.logging anything
        (fun result after => Quietly log after ∧
          ∀ value, result = .ok value → good (Looked after) value)
        (observe reading : Call T σ ε α) sofar := by
    intro reading
    induction reading with
    | done result => exact fun quiet gives => ⟨quiet, gives _ fun _ looked => looked⟩
    | call _ next ih =>
        intro sofar quiet gives
        refine ⟨trivial, ?_⟩
        rintro moment _ rfl
        have step : Quietly sofar (sofar ++ [⟨.look, moment⟩]) :=
          quietly_append (show Request.Quiet (.look : Request T) from trivial) moment
        apply ih moment (quiet.trans step)
        intro seen all
        apply gives seen
        · exact fun other looked => all other (looked.mono (List.prefix_append _ _))
        · exact all moment (looked_append sofar moment)
  exact general (.refl log) fun seen _ => gives seen

/-! ## What is prepared -/

/-- All outputs are for one keyset. -/
def SwapRequest.IsFor (request : SwapRequest T) (keysetId : T.Id) : Prop :=
  ∀ output ∈ request.outputs, output.keysetId = keysetId

/-- The first input carries the sender's signature, and then one of the receiver. -/
def SwapRequest.IsSigned (request : SwapRequest T) (signature : String) : Prop :=
  ∃ (proof : Proof T) (rest : List (Proof T)) (own : String),
    request.inputs = (proof.addSignature signature).addSignature own :: rest

/-- The same swap with outputs of another keyset: only the receiver has signed anew. -/
structure Retargets (signature : String) (keysetId : T.Id) (first second : SwapRequest T) :
    Prop where
  inputs : ∃ (proof : Proof T) (rest : List (Proof T)) (own own' : String),
    first.inputs = (proof.addSignature signature).addSignature own :: rest ∧
      second.inputs = (proof.addSignature signature).addSignature own' :: rest
  outputs : second.outputs = first.outputs.map fun output => { output with keysetId }
  rerandomized : second.rerandomized = first.rerandomized

section Prepared

variable {L : Cashu T} {C : Type} {host host' : Host T C} {channelId : String} {balance : Nat}
  {signature : String} {funding : ChannelFunding T} {keyset keyset' : KeysetInfo T}
  {data data' : CloseData T}

/-- The outputs of two keysets for the same commitment differ in the keyset alone. -/
theorem outputs_of_createSwapRequest {params : ChannelParameters T}
    {commitment : CommitmentOutputs T} {proofs : List (Proof T)} {keysetId keysetId' : T.Id}
    {request request' : SwapRequest T}
    (committed : CommitmentOutputs.forBalance balance params = .ok commitment)
    (built : commitment.createSwapRequest L proofs (some keysetId) = .ok request)
    (built' : commitment.createSwapRequest L proofs (some keysetId') = .ok request') :
    request.IsFor keysetId ∧
      request'.outputs = request.outputs.map fun output => { output with keysetId := keysetId' } := by
  obtain ⟨-, _, _, -, -, -, -, -, rfl⟩ := CommitmentOutputs.forBalance_eq_ok_iff.mp committed
  obtain ⟨receiver, sender, derived, derives, offers⟩ := createSwapRequest_inStep built
  obtain ⟨_, _, derived', derives', offers'⟩ := createSwapRequest_inStep built'
  obtain rfl := Outcome.ok.inj (derived.symm.trans derived')
  obtain rfl := Outcome.ok.inj (derives.symm.trans derives')
  constructor
  · intro output member
    obtain ⟨_, -, offer⟩ := exists_left_of_forall₂ offers member
    exact offer.keysetId
  · have paired := forall₂_comp offers.flip offers'
    have retargeted : ∀ output output', (∃ entry : DeterministicSecretWithBlinding T × Bool,
        Offers L keysetId entry.1 output ∧ Offers L keysetId' entry.1 output') →
        { output with keysetId := keysetId' } = output' := by
      rintro ⟨amount, _, point⟩ ⟨amount', _, point'⟩ ⟨entry, offer, offer'⟩
      have points := Except.ok.inj (offer.blinds.symm.trans offer'.blinds)
      have amounts := offer.amount.trans offer'.amount.symm
      have keysets := offer'.keysetId
      dsimp only at points amounts keysets
      rw [points, amounts, keysets]
    have same := map_eq_map_of_forall₂ paired retargeted
    rw [List.map_id'] at same
    exact same.symm

/-- A prepared swap is the unsigned one with two signatures on its first input. -/
theorem Preparation.swapRequest_eq
    (p : Preparation L host channelId balance signature funding keyset data) :
    ∃ proof rest, p.proofs = proof :: rest ∧
      data.swapRequest = { p.unsigned with
        inputs := (proof.addSignature (signatureToString p.sig)).addSignature p.serverSig ::
          rest } := by
  obtain ⟨proof, rest, inputs, once⟩ := attachSignatureToFirstInput_eq_ok_iff.mp p.attached
  obtain ⟨_, _, inputs', twice⟩ := attachSignatureToFirstInput_eq_ok_iff.mp p.attachedTwice
  rw [once] at inputs' twice
  obtain ⟨rfl, rfl⟩ := List.cons.inj inputs'
  have unsigned : p.unsigned.inputs = p.proofs := by
    have built := p.built
    simp only [CommitmentOutputs.createSwapRequest, Outcome.bind_eq_ok, Outcome.pure_eq,
      Outcome.ok.injEq] at built
    obtain ⟨_, -, _, -, built⟩ := built
    rw [← built]
  exact ⟨proof, rest, unsigned.symm.trans inputs, p.request_eq.trans twice⟩

theorem Preparation.isFor
    (p : Preparation L host channelId balance signature funding keyset data) :
    data.swapRequest.IsFor keyset.keysetId := by
  obtain ⟨_, _, -, swap⟩ := p.swapRequest_eq
  rw [swap]
  exact (outputs_of_createSwapRequest p.committed p.built p.built).1

theorem Preparation.isSigned
    (p : Preparation L host channelId balance signature funding keyset data) :
    data.swapRequest.IsSigned (signatureToString p.sig) := by
  obtain ⟨proof, rest, -, swap⟩ := p.swapRequest_eq
  exact ⟨proof, rest, p.serverSig, congrArg SwapRequest.inputs swap⟩

/-- **Two preparations from the same funding** make the same swap, up to the keyset of the
outputs. -/
theorem Preparation.retargets
    (p : Preparation L host channelId balance signature funding keyset data)
    (p' : Preparation L host' channelId balance signature funding keyset' data') :
    Retargets (signatureToString p.sig) keyset'.keysetId data.swapRequest data'.swapRequest := by
  obtain ⟨proof, rest, inputs, swap⟩ := p.swapRequest_eq
  obtain ⟨proof', rest', inputs', swap'⟩ := p'.swapRequest_eq
  have sameProofs := Outcome.ok.inj (p.parsed.symm.trans p'.parsed)
  have sameParams := Outcome.ok.inj (p.stored.symm.trans p'.stored)
  have sameSig := Outcome.ok.inj (p.read.symm.trans p'.read)
  have sameCommitment : p.commitment = p'.commitment := by
    have committed := p'.committed
    rw [← sameParams] at committed
    exact Outcome.ok.inj (p.committed.symm.trans committed)
  have built' := p'.built
  rw [← sameCommitment, ← sameProofs] at built'
  obtain ⟨rfl, rfl⟩ := List.cons.inj (inputs.symm.trans (sameProofs.trans inputs'))
  have mode : p'.unsigned.rerandomized = p.unsigned.rerandomized := by
    rw [rerandomized_of_createSwapRequest p.committed built',
      rerandomized_of_createSwapRequest p.committed p.built]
  rw [swap, swap', ← sameSig]
  exact ⟨⟨proof, rest, p.serverSig, p'.serverSig, rfl, rfl⟩,
    (outputs_of_createSwapRequest p.committed p.built built').2, mode⟩

end Prepared

/-! ## Selecting and preparing -/

namespace Bridge

variable {L : Cashu T} {K : KeyOps T} {H : ConfigurableHost T σ}

/-- What is selected is the JSON of a keyset under its identifier. -/
def IsSelection (L : Cashu T) (selected : SelectedOutputKeyset T) : Prop :=
  ∃ keyset : KeysetInfo T,
    selected = ⟨L.idToString keyset.keysetId, L.render (keyset.toJson L)⟩

theorem gives_select (seen : Moment σ → Prop) (channelId : String) :
    Gives seen (IsSelection L) (selectCloseOutputKeysetForChannel L K H channelId) := by
  apply gives_skip
  intro _
  apply gives_skip
  intro _
  apply gives_skip
  intro keyset
  apply gives_lift
  rintro _ ⟨⟩
  exact ⟨keyset, rfl⟩

/-- A swap was prepared from the funding that was read at some moment. -/
def PreparedAt (L : Cashu T) (H : ConfigurableHost T σ) (channelId : String)
    (closing : ClosingData) (selected : SelectedOutputKeyset T) (seen : Moment σ → Prop)
    (prep : PreparedClose T) : Prop :=
  ∃ moment funding keyset data, seen moment ∧
    H.storage.getFunding moment.store channelId = some funding ∧
    parseKeysetInfoFromJson L selected.infoJson = .ok keyset ∧
    (∃ host : Host T T.Text, Nonempty (Preparation L host channelId closing.balance
      closing.signature funding keyset data)) ∧
    prep.swapRequest = L.swapRequestToJson data.swapRequest

theorem gives_prepare (seen : Moment σ → Prop) (channelId : String) (closing : ClosingData)
    (selected : SelectedOutputKeyset T) :
    Gives seen (PreparedAt L H channelId closing selected seen)
      (prepareCloseForClosingChannelWithKeyset L K H channelId closing.balance closing.signature
        selected) := by
  apply gives_bind
  intro moment isSeen host looked
  obtain rfl := Outcome.ok.inj looked
  apply gives_bind
  apply gives_lift
  intro funding stored
  apply gives_bind
  apply gives_lift
  intro keyset parsed
  apply gives_bind
  apply gives_mapErr
  apply gives_skip
  intro host
  apply gives_skip
  intro due
  apply gives_lift
  intro data prepared
  apply gives_skip
  intro _
  apply gives_skip
  intro _
  apply gives_lift
  intro prep wrapped
  rw [Outcome.ofOption_eq_ok] at stored
  rw [Outcome.mapErr_eq_ok] at parsed
  obtain ⟨_, _, -, -, rfl⟩ := wrapCloseData_eq_ok_iff.mp wrapped
  have preparation := (prepareCloseDataImpl_eq_ok_iff.mp prepared).1
  exact ⟨moment, funding, keyset, data, isSeen, stored, parsed, ⟨_, preparation⟩, rfl⟩

/-- A keyset is read back under its identifier. -/
theorem keysetId_of_selection (trips : L.RoundTrips) {selected : SelectedOutputKeyset T}
    (selection : IsSelection L selected) {keyset : KeysetInfo T}
    (parsed : parseKeysetInfoFromJson L selected.infoJson = .ok keyset) :
    selected.id = L.idToString keyset.keysetId := by
  obtain ⟨info, rfl⟩ := selection
  rw [keysetId_of_parse_toJson trips parsed]

end Bridge

/-! ## At most two swaps -/

/-- How a second swap relates to the first. -/
structure Retried (L : Cashu T) (kept : Prop) (first second : Submission T) : Prop where
  rejected : KeysetRejection first.answer
  swaps : ∃ (swap swap' : SwapRequest T) (keysetId keysetId' : T.Id) (signature : String),
    first.swapRequest = L.render (L.swapRequestToJson swap) ∧
    second.swapRequest = L.render (L.swapRequestToJson swap') ∧
    swap.IsFor keysetId ∧ swap'.IsFor keysetId' ∧ keysetId ≠ keysetId' ∧
    swap.IsSigned signature ∧ swap'.IsSigned signature ∧
    (kept → Retargets signature keysetId' swap swap')

/-- There are at most two swaps, and the second one follows the rule. -/
structure SubmitsSafely (L : Cashu T) (S : SpilmanStorage T σ) (channelId : String)
    (log : Log T σ) : Prop where
  count : (submissions log).length ≤ 2
  retried : ∀ first second, submissions log = [first, second] →
    Retried L (FundingKept S channelId log) first second

section Safety

variable {L : Cashu T} {S : SpilmanStorage T σ} {channelId : String} {log after : Log T σ}

theorem FundingKept.before (kept : FundingKept S channelId after) (extended : log <+: after) :
    FundingKept S channelId log :=
  fun first looked second looked' =>
    kept first (looked.mono extended) second (looked'.mono extended)

theorem SubmitsSafely.quietly (safe : SubmitsSafely L S channelId log)
    (quiet : Quietly log after) : SubmitsSafely L S channelId after := by
  refine ⟨quiet.submissions ▸ safe.count, ?_⟩
  intro first second both
  obtain ⟨rejected, swap, swap', id, id', signature, text, text', isFor, isFor', differ, signed,
    signed', kept⟩ := safe.retried first second (quiet.submissions ▸ both)
  exact ⟨rejected, swap, swap', id, id', signature, text, text', isFor, isFor', differ, signed,
    signed', fun same => kept (same.before quiet.extended)⟩

theorem submitsSafely_of_none (none : submissions log = []) : SubmitsSafely L S channelId log := by
  constructor
  · rw [none]
    exact Nat.zero_le 2
  · intro first second both
    rw [none] at both
    cases both

theorem submitsSafely_of_one {submission : Submission T} (one : submissions log = [submission]) :
    SubmitsSafely L S channelId log := by
  constructor
  · rw [one]
    exact Nat.le_succ 1
  · intro first second both
    rw [one] at both
    cases both

theorem submitsSafely_of_two {first second : Submission T}
    (two : submissions log = [first, second])
    (retried : Retried L (FundingKept S channelId log) first second) :
    SubmitsSafely L S channelId log := by
  constructor
  · rw [two]
    exact Nat.le_refl 2
  · intro _ _ both
    rw [two] at both
    cases both
    exact retried

theorem submissions_append_exchange (log : Log T σ) (submission : Submission T) :
    submissions (log ++ [submission.exchange]) = submissions log ++ [submission] := by
  simp only [submissions, List.filterMap_append]
  rfl

variable {ε' : Type} {wrap : ε → ε'} {rest : α → Call T σ ε' β}
  {post : Outcome ε' β → Log T σ → Prop}

/-- A part that only reads. -/
theorem ensures_reading_part {good : (Moment σ → Prop) → α → Prop} {reading : Reading σ ε α}
    (gives : ∀ seen, Gives seen (good seen) reading)
    (failed : ∀ outcome after, Quietly log after → post outcome after)
    (next : ∀ value after, Quietly log after → good (Looked after) value →
      Program.Ensures Program.logging anything post (rest value) after) :
    Program.Ensures Program.logging anything post
      (Attempt.mapErr wrap (observe reading) >>= rest : Call T σ ε' β) log := by
  apply Attempt.ensures_bind
  apply Attempt.ensures_mapErr
  apply (ensures_observe_logged gives log).mono
  intro result after held
  cases result with
  | ok value => exact next value after held.1 (held.2 value rfl)
  | err error => exact failed _ after held.1
  | noReturn => exact failed _ after held.1

/-- A part that submits nothing. -/
theorem ensures_quiet_part {part : Call T σ ε' α} (asks : Program.Asks Request.Quiet part)
    (failed : ∀ outcome after, Quietly log after → post outcome after)
    (next : ∀ value after, Quietly log after →
      Program.Ensures Program.logging anything post (rest value) after) :
    Program.Ensures Program.logging anything post (part >>= rest : Call T σ ε' β) log := by
  apply Attempt.ensures_bind
  apply (ensures_quietly asks log).mono
  intro result after quiet
  cases result with
  | ok value => exact next value after quiet
  | err error => exact failed _ after quiet
  | noReturn => exact failed _ after quiet

end Safety

namespace Bridge

variable {L : Cashu T} {K : KeyOps T} {H : ConfigurableHost T σ} {channelId : String}
  {log : Log T σ}

theorem quiet_observe (reading : Reading σ ε α) :
    Program.Asks Request.Quiet (observe reading : Call T σ ε α) :=
  Program.asks_embed (fun _ => trivial) reading

theorem quiet_cacheKeysets (keysets : List (FetchedKeyset T)) :
    Program.Asks Request.Quiet (cacheKeysets keysets : Program (requests T σ) Unit) := by
  induction keysets with
  | nil => trivial
  | cons fetched rest ih => exact ⟨trivial, fun _ => ih⟩

theorem quiet_refreshKeysets (mint : String) :
    Program.Asks Request.Quiet
      (refreshKeysets mint : Program (requests T σ) (Except String Unit)) :=
  ⟨trivial, fun answer => (quiet_cacheKeysets answer.1).bind fun _ => trivial⟩

theorem quiet_ensureCloseKeysetsCached (channelId : String) :
    Program.Asks Request.Quiet (ensureCloseKeysetsCached L K H channelId) := by
  apply Attempt.asks_bind (quiet_observe _)
  intro host
  apply Attempt.asks_bind (Attempt.asks_lift _)
  intro mintUnit
  apply Attempt.asks_bind (Attempt.asks_perform (quiet_observe _))
  intro selected
  cases selected with
  | ok _ => trivial
  | noReturn => trivial
  | err _ =>
      exact Attempt.asks_bind (Attempt.asks_perform (quiet_refreshKeysets _)) fun _ =>
        Attempt.asks_lift _

theorem quiet_finalizeClose (respJson : T.Text) (prep : PreparedClose T) :
    Program.Asks Request.Quiet (finalizeClose L K H respJson prep) := by
  apply Attempt.asks_bind (quiet_observe _)
  intro host
  apply Attempt.asks_bind (Attempt.asks_lift _)
  intro completed
  apply Attempt.asks_bind (quiet_observe _)
  intro _
  have marks : Program.Asks Request.Quiet
      (markChannelClosed completed : Program (requests T σ) (Except String Unit)) :=
    ⟨trivial, fun _ => trivial⟩
  apply Attempt.asks_bind (Attempt.asks_perform marks)
  intro _
  exact Attempt.asks_bind (Attempt.asks_lift _) fun _ => trivial

/-- Two attempts, the second after a rejection of the keyset of the first. -/
theorem retried_of_prepared (trips : L.RoundTrips) {closing : ClosingData}
    {selected selected' : SelectedOutputKeyset T} {before after final : Log T σ}
    {prep prep' : PreparedClose T} {error : MintRequestError}
    {answer : Except MintRequestError T.Text}
    (permitted : error.permitsKeysetRetry = true) (differ : selected'.id ≠ selected.id)
    (selection : IsSelection L selected) (selection' : IsSelection L selected')
    (extended : before <+: after) (isFinal : after <+: final)
    (prepared : PreparedAt L H channelId closing selected (Looked before) prep)
    (prepared' : PreparedAt L H channelId closing selected' (Looked after) prep') :
    Retried L (FundingKept H.storage channelId final) (.of L prep (.error error))
      (.of L prep' answer) := by
  obtain ⟨rejection, rfl, code⟩ := MintRequestError.permitsKeysetRetry_iff.mp permitted
  obtain ⟨moment, funding, keyset, data, looked, stored, parsed, ⟨_, ⟨p⟩⟩, swap⟩ := prepared
  obtain ⟨moment', funding', keyset', data', looked', stored', parsed', ⟨_, ⟨p'⟩⟩, swap'⟩ :=
    prepared'
  have sig : p.sig = p'.sig := Outcome.ok.inj (p.read.symm.trans p'.read)
  refine ⟨⟨rejection, rfl, code⟩, data.swapRequest, data'.swapRequest, keyset.keysetId,
    keyset'.keysetId, signatureToString p.sig, congrArg L.render swap, congrArg L.render swap',
    p.isFor, p'.isFor, ?_, p.isSigned, ?_, ?_⟩
  · intro same
    rw [keysetId_of_selection trips selection parsed,
      keysetId_of_selection trips selection' parsed', same] at differ
    exact differ rfl
  · rw [sig]
    exact p'.isSigned
  · intro kept
    have same := kept moment (looked.mono (extended.trans isFinal)) moment'
      (looked'.mono isFinal)
    rw [stored, stored'] at same
    obtain rfl := Option.some.inj same
    exact p.retargets p'

/-- A submission is logged, and a success ends the loop. -/
theorem ensures_submission {prep : PreparedClose T} {retried : Bool}
    {failed : MintRequestError → Attempt (requests T σ)
      (KeysetRetryError (PreparedClose T) CloseError MintRequestError)
      (KeysetRetrySuccess (PreparedClose T) T.Text)}
    {post : Log T σ → Prop}
    (each : ∀ answer, post (log ++ [(Submission.of L prep answer).exchange]))
    (next : ∀ error, Program.Ensures Program.logging anything (fun _ after => post after)
      (failed error) (log ++ [(Submission.of L prep (.error error)).exchange])) :
    Program.Ensures Program.logging anything (fun _ after => post after)
      (Attempt.perform (.call (.callMintSwap prep.mintUrl (L.render prep.swapRequest)) .done) >>=
        afterSubmission prep retried failed : Attempt (requests T σ) _ _) log := by
  refine ⟨trivial, ?_⟩
  rintro answer _ rfl
  cases answer with
  | ok value => exact each (.ok value)
  | error error => exact next error

/-- The second attempt. -/
theorem ensures_retry (trips : L.RoundTrips) {closing : ClosingData} {before : Log T σ}
    {selected : SelectedOutputKeyset T} {prep : PreparedClose T} {error : MintRequestError}
    (permitted : error.permitsKeysetRetry = true) (selection : IsSelection L selected)
    (prepared : PreparedAt L H channelId closing selected (Looked before) prep)
    (extended : before <+: log) (one : submissions log = [.of L prep (.error error)]) :
    Program.Ensures Program.logging anything
      (fun _ after => SubmitsSafely L H.storage channelId after)
      (retryWithRefreshedKeyset
        (observe ((selectCloseOutputKeysetForChannel L K H channelId).mapErr
          CloseError.fromPreparationError))
        SelectedOutputKeyset.id
        (fun selected => observe ((prepareCloseForClosingChannelWithKeyset L K H channelId
          closing.balance closing.signature selected).mapErr CloseError.fromPreparationError))
        (fun prep => .call (.callMintSwap prep.mintUrl (L.render prep.swapRequest)) .done)
        (fun prep => Attempt.perform ((refreshKeysets prep.mintUrl).bind fun _ => .done ()))
        (fun _ _ => pure ()) selected prep error) log := by
  -- Every failure on the way leaves it at one submission.
  have single : ∀ after, Quietly log after → SubmitsSafely L H.storage channelId after :=
    fun after quiet => submitsSafely_of_one (quiet.submissions.trans one)
  apply ensures_quiet_part (Attempt.asks_mapErr (Attempt.asks_lift (.ok ())))
  · exact fun _ after quiet => single after quiet
  intro _ log₁ quiet₁
  have refreshes : Program.Asks Request.Quiet
      ((refreshKeysets prep.mintUrl).bind fun _ => .done () : Program (requests T σ) Unit) :=
    (quiet_refreshKeysets _).bind fun _ => trivial
  apply ensures_quiet_part (Attempt.asks_mapErr (Attempt.asks_perform refreshes))
  · exact fun _ after quiet => single after (quiet₁.trans quiet)
  intro _ log₂ quiet₂
  apply ensures_reading_part (fun seen => gives_mapErr (gives_select seen channelId))
  · exact fun _ after quiet => single after (quiet₁.trans (quiet₂.trans quiet))
  intro selected' log₃ quiet₃ selection'
  have sofar := quiet₁.trans (quiet₂.trans quiet₃)
  by_cases unchanged : selected'.id = selected.id
  · rw [if_pos unchanged]
    exact single log₃ sofar
  rw [if_neg unchanged]
  apply ensures_reading_part
    (fun seen => gives_mapErr (gives_prepare seen channelId closing selected'))
  · exact fun _ after quiet => single after (sofar.trans quiet)
  intro prep' log₄ quiet₄ prepared'
  have quiet := sofar.trans quiet₄
  have second : ∀ answer, SubmitsSafely L H.storage channelId
      (log₄ ++ [(Submission.of L prep' answer).exchange]) := by
    intro answer
    have two : submissions (log₄ ++ [(Submission.of L prep' answer).exchange]) =
        [.of L prep (.error error), .of L prep' answer] := by
      rw [submissions_append_exchange, quiet.submissions, one]
      rfl
    apply submitsSafely_of_two two
    exact retried_of_prepared trips permitted unchanged selection selection'
      (extended.trans quiet.extended) (List.prefix_append _ _) prepared prepared'
  apply ensures_submission second
  exact fun retryError => second (.error retryError)

/-- The swaps of a call that has not submitted any before. -/
theorem ensures_submitClose (trips : L.RoundTrips) (closing : ClosingData)
    (none : submissions log = []) :
    Program.Ensures Program.logging anything
      (fun _ after => SubmitsSafely L H.storage channelId after)
      (submitClose L K H channelId closing) log := by
  apply ensures_reading_part (fun seen => gives_mapErr (gives_select seen channelId))
  · exact fun _ after quiet => submitsSafely_of_none (quiet.submissions.trans none)
  intro selected log₁ quiet₁ selection
  apply ensures_reading_part
    (fun seen => gives_mapErr (gives_prepare seen channelId closing selected))
  · exact fun _ after quiet =>
      submitsSafely_of_none ((quiet₁.trans quiet).submissions.trans none)
  intro prep log₂ quiet₂ prepared
  have one : ∀ answer, submissions (log₂ ++ [(Submission.of L prep answer).exchange]) =
      [.of L prep answer] := by
    intro answer
    rw [submissions_append_exchange, (quiet₁.trans quiet₂).submissions, none]
    rfl
  apply ensures_submission
  · exact fun answer => submitsSafely_of_one (one answer)
  intro error
  by_cases permitted : error.permitsKeysetRetry = true
  · rw [if_pos permitted]
    exact ensures_retry trips permitted selection prepared (List.prefix_append _ _) (one _)
  · rw [if_neg permitted]
    exact submitsSafely_of_one (one (.error error))

/-- **What a call submits**, whatever it is answered. -/
theorem ensures_executeClose (trips : L.RoundTrips) (channelId : String) :
    Program.Ensures Program.logging anything
      (fun _ after => SubmitsSafely L H.storage channelId after)
      (executeCloseForClosingChannel L K H channelId) [] := by
  have before : ∀ {log : Log T σ}, Quietly [] log → SubmitsSafely L H.storage channelId log :=
    fun quiet => submitsSafely_of_none quiet.submissions
  apply ensures_quiet_part (quiet_observe _)
  · exact fun _ _ quiet => before quiet
  intro _ log₁ quiet₁
  apply ensures_quiet_part (quiet_observe _)
  · exact fun _ _ quiet => before (quiet₁.trans quiet)
  intro host log₂ quiet₂
  apply ensures_quiet_part (Attempt.asks_lift _)
  · exact fun _ _ quiet => before (quiet₁.trans (quiet₂.trans quiet))
  intro closing log₃ quiet₃
  have sofar := quiet₁.trans (quiet₂.trans quiet₃)
  apply ensures_quiet_part (quiet_ensureCloseKeysetsCached channelId)
  · exact fun _ _ quiet => before (sofar.trans quiet)
  intro _ log₄ quiet₄
  apply Attempt.ensures_bind
  apply Attempt.ensures_mapErr
  apply (ensures_submitClose trips closing (sofar.trans quiet₄).submissions).mono
  intro result after safe
  cases result with
  | ok success =>
      exact (ensures_quietly (quiet_finalizeClose _ _) after).mono fun _ _ quiet =>
        safe.quietly quiet
  | err error => exact safe
  | noReturn => exact safe

end Bridge

section Calls

variable {L : Cashu T}

instance (S : SpilmanStorage T σ) (channelId : String) (log : Log T σ) :
    Decidable (FundingKept S channelId log) :=
  inferInstanceAs (Decidable (∀ first ∈ log.filterMap momentOf,
    ∀ second ∈ log.filterMap momentOf,
      S.getFunding first.store channelId = S.getFunding second.store channelId))

/-- **One call submits at most two swaps**, whatever the mint, the host and the refresher do:
the second one only after a rejection of the keyset, with another keyset, signed by the same
signature, and the same swap otherwise if the host has kept the funding. Both versions of the
call ask the same and return the same. -/
theorem executeClose_submitsSafely (trips : L.RoundTrips) (K : KeyOps T)
    (H : ConfigurableHost T σ) (server : Server (requests T σ) ω) (start : ω)
    (channelId : String) :
    SubmitsSafely L H.storage channelId
        (Program.transcript server (Bridge.executeCloseForClosingChannel L K H channelId) start) ∧
      (∀ first second, submissions (Program.transcript server
          (Bridge.executeCloseForClosingChannel L K H channelId) start) = [first, second] →
        ∀ (W : Wire T) (response : MintResponse T), first.answer = response.intoResult W →
          response.status = 400) ∧
      Program.transcript server (Bridge.executeCloseForClosingChannelAsync L K H channelId) start =
        Program.transcript server (Bridge.executeCloseForClosingChannel L K H channelId) start ∧
      Program.run server (Bridge.executeCloseForClosingChannelAsync L K H channelId) start =
        Program.run server (Bridge.executeCloseForClosingChannel L K H channelId) start := by
  have safe := (Bridge.ensures_executeClose trips channelId (K := K) (H := H)).transcript server
    start
  refine ⟨safe, ?_, ?_, ?_⟩
  · intro first second both W response classified
    have rejected := (safe.retried first second both).rejected
    rw [classified] at rejected
    exact status_of_keysetRejection rejected
  · rw [Bridge.executeCloseForClosingChannelAsync_eq]
  · rw [Bridge.executeCloseForClosingChannelAsync_eq]

end Calls

/-! ## A call with a second swap -/

namespace Sample

open Bridge

/-- A channel of three units, funded with two proofs. -/
def threeUnits : Terms := ⟨"m", "sat", 3, 3, 0, 2000, "ordinary"⟩

/-- A keyset that replaces another one. -/
def fresh : KeysetInfo carriers := mintKeyset "sat" [(1, point 7), (2, point 8)] 0

def cached (keyset : KeysetInfo carriers) (active : Bool) : FetchedKeyset carriers :=
  ⟨"m", keyset.keysetId, ⟨keyset.toJson library, active, keyset.unit⟩⟩

/-- A mint that has replaced its keyset and rejects the old one, next to a host that
changes its store when the mint is asked. -/
def replacing (alter : MemoryStorage carriers → MemoryStorage carriers) :
    Server (requests carriers (MemoryStorage carriers)) (World (MemoryStorage carriers) Unit)
  | .callMintSwap _ _, world =>
      (.error (.rejected ⟨12002, "keyset is inactive"⟩), { world with store := alter world.store })
  | .refresh _, world => (([cached (pairs "sat") false, cached fresh true], .ok ()), world)
  | request, world => serve (memoryStorage carriers) unreachable request world

/-- A store with one channel that is closing with a payment of two. -/
def closingStore (opening : Opening) : MemoryStorage carriers :=
  { (MemoryStorage.new : MemoryStorage carriers) with
    funding := (∅ : Table _ _).insert opening.channelId
      ⟨opening.paramsVal, library.proofsToJson opening.proofs, Hex.encode sharedSecret.val,
        (pairs "sat").toJson library⟩
    closing := (∅ : Table _ _).insert opening.channelId ⟨2000, 2, opening.signature⟩
    keysets := (∅ : Table _ _).insert ("m", (pairs "sat").keysetId)
      (cached (pairs "sat") true).entry }

/-- What is asked when the closing channel is executed. -/
def executing (alter : MemoryStorage carriers → MemoryStorage carriers) (opening : Opening) :
    Log carriers (MemoryStorage carriers) :=
  Program.transcript (replacing alter)
    (executeCloseForClosingChannel library agreedKeys ((deployment .memory).host library)
      opening.channelId) ⟨closingStore opening, ()⟩

/-- The amounts of two proofs in each other's place. -/
def exchangeAmounts : List (Proof carriers) → List (Proof carriers)
  | [first, second] => [{ first with amount := second.amount }, { second with amount := first.amount }]
  | proofs => proofs

/-- A host that mixes up the amounts it has stored. -/
def mixUp (channelId : String) (store : MemoryStorage carriers) : MemoryStorage carriers :=
  match store.funding.lookup channelId with
  | none => store
  | some funding =>
      match parseProofs library funding.fundingProofsJson with
      | .ok proofs => { store with funding := store.funding.insert channelId { funding with
          fundingProofsJson := library.proofsToJson (exchangeAmounts proofs) } }
      | _ => store

/-- The amounts of the inputs in a submitted swap. -/
def inputAmounts (submission : Submission carriers) : Except String (List Nat) :=
  (library.swapRequestOfJson submission.swapRequest).map fun swap => swap.inputs.map Proof.amount


end Sample

/-- A mint that has replaced its keyset is asked twice, by a host that keeps the funding. -/
theorem executeClose_submitsSafely_twice : ∃ opening : Sample.Opening,
    (submissions (Sample.executing id opening)).length = 2 ∧
      FundingKept (memoryStorage Sample.carriers) opening.channelId
        (Sample.executing id opening) ∧
      SubmitsSafely Sample.library (memoryStorage Sample.carriers) opening.channelId
        (Sample.executing id opening) := by
  have ran : (Sample.threeUnits.openWith (Sample.pairs "sat") 2).okAnd (fun opening =>
      decide ((submissions (Sample.executing id opening)).length = 2 ∧
        FundingKept (memoryStorage Sample.carriers) opening.channelId
          (Sample.executing id opening))) = true := by
    decide +kernel
  obtain ⟨opening, -, checked⟩ := Outcome.exists_of_okAnd ran
  obtain ⟨twice, kept⟩ := of_decide_eq_true checked
  exact ⟨opening, twice, kept, (executeClose_submitsSafely Sample.roundTrips Sample.agreedKeys
    ((Sample.deployment .memory).host Sample.library) (Sample.replacing id)
    ⟨Sample.closingStore opening, ()⟩ opening.channelId).1⟩

/-- Next to a host that mixes up its amounts, the second swap has other inputs than the
first. -/
theorem executeClose_changes_inputs : ∃ opening : Sample.Opening,
    (submissions (Sample.executing (Sample.mixUp opening.channelId) opening)).map
      Sample.inputAmounts = [.ok [1, 2], .ok [2, 1]] := by
  have ran : (Sample.threeUnits.openWith (Sample.pairs "sat") 2).okAnd (fun opening =>
      decide ((submissions (Sample.executing (Sample.mixUp opening.channelId) opening)).map
        Sample.inputAmounts = [.ok [1, 2], .ok [2, 1]])) = true := by
    decide +kernel
  obtain ⟨opening, -, checked⟩ := Outcome.exists_of_okAnd ran
  exact ⟨opening, of_decide_eq_true checked⟩

end Spilman
