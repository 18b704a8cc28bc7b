/-
# The calls of a running bridge

What the bridge does with its host is a program: it looks at the store, writes to
it, and asks the mint and the keyset refresher. Each of these is one step, and other
calls may take steps in between. A `Reading` is a part of a call that only looks.

The functions that validate, prepare and complete work on a host that answers at one
moment. The readings here look once for every method of the host that such a function
uses, in the order in which it uses them, and hand it a host made of these answers.

Nothing is known of the mint, the refresher and the clock. They are an `Environment`,
a machine with a state of its own.
-/

import Spilman.Bridge.Complete
import Spilman.ConfigurableHost
import Spilman.KeysetRetry

namespace Spilman

open Lib

/-! ## Steps -/

/-- A step of a call. -/
inductive Request (T : Carriers)
  | look
  | saveFunding (channelId : String) (funding : ChannelFunding T)
  | updateBalance (channelId : String) (payment : PaymentProof)
  | incrementUsage (channelId : String) (increments : UsageMap)
  | markClosing (channelId : String) (data : ClosingData)
  | markClosed (channelId : String) (data : ClosedDataView T)
  | setKeyset (mint : String) (id : T.Id) (entry : KeysetCacheEntry T)
  | callMintSwap (mintUrl : String) (swapRequest : T.Text)
  | refresh (mint : String)

/-- A keyset that the refresher has fetched. -/
structure FetchedKeyset (T : Carriers) where
  mint : String
  id : T.Id
  entry : KeysetCacheEntry T

/-- What a step answers. The refresher answers with what it has fetched, and whether it
has failed. -/
def Request.Response {T : Carriers} (σ : Type) : Request T → Type
  | look => Moment σ
  | callMintSwap _ _ => Except MintRequestError T.Text
  | refresh _ => List (FetchedKeyset T) × Except String Unit
  | _ => Except String Unit

/-- The steps of calls over a store. -/
def requests (T : Carriers) (σ : Type) : Interface := ⟨Request T, Request.Response σ⟩

/-- A call that may fail. -/
abbrev Call (T : Carriers) (σ ε α : Type) := Attempt (requests T σ) ε α

/-- Looking is all that a reading does. -/
def looks (σ : Type) : Interface := ⟨Unit, fun _ => Moment σ⟩

/-- A part of a call that only looks. -/
abbrev Reading (σ ε α : Type) := Attempt (looks σ) ε α

/-- A reading as a part of a call. -/
def observe {T : Carriers} {σ ε α : Type} (reading : Reading σ ε α) : Call T σ ε α :=
  Program.embed (fun _ => Request.look) (fun _ moment => moment) reading

/-- The mint, the refresher and the clock. -/
structure Environment (T : Carriers) (ω : Type) where
  now : ω → Nat
  /-- Time passes whenever a call looks. -/
  pass : ω → ω
  callMintSwap : String → T.Text → ω → Except MintRequestError T.Text × ω
  refresh : String → ω → (List (FetchedKeyset T) × Except String Unit) × ω

/-- The store and its environment. -/
structure World (σ ω : Type) where
  store : σ
  env : ω

/-- How the world answers. -/
def serve {T : Carriers} {σ ω : Type} (S : SpilmanStorage T σ) (E : Environment T ω) :
    Server (requests T σ) (World σ ω)
  | .look, world => (⟨world.store, E.now world.env⟩, { world with env := E.pass world.env })
  | .saveFunding channelId funding, world =>
      ((S.saveFunding world.store channelId funding).1,
        { world with store := (S.saveFunding world.store channelId funding).2 })
  | .updateBalance channelId payment, world =>
      ((S.updateBalance world.store channelId payment).1,
        { world with store := (S.updateBalance world.store channelId payment).2 })
  | .incrementUsage channelId increments, world =>
      ((S.incrementUsage world.store channelId increments).1,
        { world with store := (S.incrementUsage world.store channelId increments).2 })
  | .markClosing channelId data, world =>
      ((S.markClosing world.store channelId data).1,
        { world with store := (S.markClosing world.store channelId data).2 })
  | .markClosed channelId data, world =>
      ((S.markClosed world.store channelId data).1,
        { world with store := (S.markClosed world.store channelId data).2 })
  | .setKeyset mint id entry, world =>
      ((S.setKeyset world.store mint id entry).1,
        { world with store := (S.setKeyset world.store mint id entry).2 })
  | .callMintSwap mintUrl swapRequest, world =>
      ((E.callMintSwap mintUrl swapRequest world.env).1,
        { world with env := (E.callMintSwap mintUrl swapRequest world.env).2 })
  | .refresh mint, world =>
      ((E.refresh mint world.env).1, { world with env := (E.refresh mint world.env).2 })

namespace Bridge

variable {T : Carriers} {σ ε : Type} (L : Cashu T) (K : KeyOps T) (H : ConfigurableHost T σ)

/-! ## Asking the host -/

/-- What there is to see now. -/
def lookNow : Reading σ ε (Moment σ) := Attempt.ask (I := looks σ) ()

/-- The host at the moment of asking. -/
def look : Reading σ ε (Host T T.Text) := do
  let moment ← lookNow
  return H.answers L K moment

/-- What is due, with the unit and the usage of a channel read at two moments. -/
def lookDue : Reading σ ε (String → Option T.Text → Nat) := do
  let units ← lookNow
  let counters ← lookNow
  return H.computeAmountDue L units.store counters.store

/-- Store the funding of a channel, and its first payment if that went well. -/
def saveFunding (channelId : String) (funding : ChannelFunding T)
    (initialPayment : PaymentProof) : Program (requests T σ) Unit :=
  .call (.saveFunding channelId funding) fun
    | .error _ => .done ()
    | .ok _ => .call (.updateBalance channelId initialPayment) fun _ => .done ()

/-- Count the usage of a context. -/
def applyUsageIncrements (channelId : String) (context : T.Text) :
    Program (requests T σ) Unit :=
  match usageOfText L context with
  | none => .done ()
  | some increments => .call (.incrementUsage channelId increments) fun _ => .done ()

/-- Store an accepted payment, and count its usage if that went well. -/
def recordPayment (channelId : String) (payment : PaymentProof) (context : T.Text) :
    Program (requests T σ) Unit :=
  .call (.updateBalance channelId payment) fun
    | .error _ => .done ()
    | .ok _ => applyUsageIncrements L channelId context

def markChannelClosing (channelId : String) (expiryTimestamp : Nat) (payment : PaymentProof) :
    Program (requests T σ) (Except String Unit) :=
  .call (.markClosing channelId ⟨expiryTimestamp, payment.balance, payment.signature⟩) .done

/-- What is stored of a close. -/
def closedDataOf (completed : CompletedClose T) : ClosedDataView T where
  expiryTimestamp := completed.expiryTimestamp
  closedAmount := completed.balance
  valueAfterStage1 := (completed.receiverSum + completed.senderSum) % 2 ^ 64
  receiverSum := completed.receiverSum
  senderSum := completed.senderSum
  receiverProofsJson := completed.receiverProofsJson
  senderProofsJson := completed.senderProofsJson

def markChannelClosed (completed : CompletedClose T) :
    Program (requests T σ) (Except String Unit) :=
  .call (.markClosed completed.channelId (closedDataOf completed)) .done

/-- Cache keysets one by one. -/
def cacheKeysets : List (FetchedKeyset T) → Program (requests T σ) Unit
  | [] => .done ()
  | fetched :: rest =>
      .call (.setKeyset fetched.mint fetched.id fetched.entry) fun _ => cacheKeysets rest

/-- Refresh the cached keysets of a mint. -/
def refreshKeysets (mint : String) : Program (requests T σ) (Except String Unit) :=
  .call (.refresh mint) fun answer => (cacheKeysets answer.1).bind fun _ => .done answer.2

/-! ## Payments -/

/-- What a payment gives. -/
structure PaymentSuccess where
  channelId : String
  balance : Nat
  amountDue : Nat
  capacity : Nat
  deriving DecidableEq, Repr

def validatePaymentRequest (channelId signature : String) :
    Reading σ BridgeError (Option ChannelState) := do
  let host ← look L K H
  Attempt.lift (Spilman.validatePaymentRequest host channelId signature)

def validateNewChannelFunding (channelId : String) (paramsVal : Json) (proofs : List (Proof T))
    (balance : Nat) (signature : String) : Reading σ BridgeError (ValidatedNewChannel T) := do
  let trust ← look L K H
  let keysets ← look L K H
  let clock ← look L K H
  Attempt.lift (Spilman.validateNewChannelFunding L
    { trust with getKeysetInfo := keysets.getKeysetInfo, nowSeconds := clock.nowSeconds }
    channelId paramsVal proofs balance signature)

def recordValidatedNewChannel (validated : ValidatedNewChannel T) :
    Program (requests T σ) Unit :=
  saveFunding validated.channelId validated.funding validated.payment

def validatePayment (channelId : String) (balance : Nat) (signature : String)
    (context : T.Text) : Reading σ BridgeError PaymentValidationResult := do
  let state ← look L K H
  let funding ← look L K H
  let due ← lookDue L H
  Attempt.lift (Spilman.validatePayment L
    { state with getFunding := funding.getFunding, getAmountDue := due }
    channelId balance signature context)

/-- A channel that is not known yet has to come with its parameters and its funding. -/
def recordNewChannel (missingParams missingProofs : BridgeError) (payment : Payment T) :
    Call T σ BridgeError (ValidatedNewChannel T) := do
  let params ← Attempt.lift (.ofOption missingParams payment.params)
  let proofs ← Attempt.lift (.ofOption missingProofs payment.fundingProofs)
  let validated ← observe (validateNewChannelFunding L K H payment.channelId params proofs
    payment.balance payment.signature)
  Attempt.perform (recordValidatedNewChannel validated)
  return validated

/-- The first payment on a channel records the channel. -/
def recordFirstUse (payment : Payment T) : Option ChannelState → Call T σ BridgeError Unit
  | some _ => pure ()
  | none => do
      let _ ← recordNewChannel L K H .unknownChannel .unknownChannel payment
      return ()

/-- Accept a payment and record it. -/
def processPayment (payment : Payment T) (context : T.Text) :
    Call T σ BridgeError PaymentSuccess := do
  let state ← observe (validatePaymentRequest L K H payment.channelId payment.signature)
  recordFirstUse L K H payment state
  let val ← observe
    (validatePayment L K H payment.channelId payment.balance payment.signature context)
  Attempt.perform (recordPayment L val.channelId ⟨val.balance, val.senderSignature⟩ context)
  return ⟨val.channelId, val.balance, val.amountDue, val.capacity⟩

def validateExistingChannelFunding (channelId : String) (balance : Nat) (signature : String) :
    Reading σ BridgeError FundChannelResult := do
  let state ← look L K H
  let funding ← look L K H
  Attempt.lift (Spilman.validateExistingChannelFunding L
    { state with getFunding := funding.getFunding } channelId balance signature)

/-- Record a channel that is not known yet, and give its capacity. -/
def fundNewChannel (payment : Payment T) : Call T σ BridgeError FundChannelResult := do
  let validated ← recordNewChannel L K H (.invalidRequest "Missing params")
    (.invalidRequest "Missing proofs") payment
  let capacity ← Attempt.lift (storedCapacity L validated.funding)
  return ⟨payment.channelId, capacity, false⟩

/-- Register a channel, or check a registration of a known one. -/
def fundChannel (payment : Payment T) : Call T σ BridgeError FundChannelResult := do
  let state ← observe (validatePaymentRequest L K H payment.channelId payment.signature)
  if state.isSome then
    observe
      (validateExistingChannelFunding L K H payment.channelId payment.balance payment.signature)
  else fundNewChannel L K H payment

/-! ## Preparing a close -/

/-- The first of the given keysets that is usable. Each is looked at by itself. -/
def findUsableKeyset (params : ChannelParameters T) :
    List T.Id → Reading σ ε (Option (KeysetInfo T))
  | [] => pure none
  | id :: rest => do
      let keysets ← look L K H
      let clock ← look L K H
      match usableKeyset L { keysets with nowSeconds := clock.nowSeconds } params id with
      | some info => pure (some info)
      | none => findUsableKeyset params rest

def selectCloseOutputKeysetFromFunding (funding : ChannelFunding T) :
    Reading σ BridgeError (KeysetInfo T) := do
  let params ← Attempt.lift ((storedParams L funding).mapErr .internal)
  let host ← look L K H
  let found ← findUsableKeyset L K H params (host.getActiveKeysetIds params.mint params.unit)
  Attempt.lift (.ofOption (.internal "No usable active close keysets") found)

def selectCloseOutputKeysetForChannel (channelId : String) :
    Reading σ ClosePreparationError (SelectedOutputKeyset T) := do
  let host ← look L K H
  let funding ← Attempt.lift (.ofOption (.internal "Missing funding") (host.getFunding channelId))
  let keyset ← (selectCloseOutputKeysetFromFunding L K H funding).mapErr .fromBridgeError
  return { id := L.idToString keyset.keysetId, infoJson := L.render (keyset.toJson L) }

/-- Rebuild the swap of a balance. What is due is looked up first. -/
def prepareCloseDataImpl (channelId : String) (balance : Nat) (signature : String)
    (funding : ChannelFunding T) (outKeyset : KeysetInfo T) (validateDue : Bool) :
    Reading σ BridgeError (CloseData T) := do
  let host ← look L K H
  let due ← lookDue L H
  Attempt.lift (Spilman.prepareCloseDataImpl L { host with getAmountDue := due } channelId balance
    signature funding outKeyset validateDue)

/-- A close needs a stored channel that is not closed yet. -/
def checkClosable : Option ChannelState → Outcome BridgeError Unit
  | some .closed => .err .channelClosed
  | none => .err .unknownChannel
  | some _ => .ok ()

def prepareCloseData (channelId : String) (balance : Nat) (signature : String)
    (validateDue : Bool) : Reading σ BridgeError (CloseData T) := do
  let state ← look L K H
  let found ← Attempt.lift ((Outcome.ofExcept (state.getChannelState channelId)).mapErr .internal)
  Attempt.lift (checkClosable found)
  let host ← look L K H
  let funding ← Attempt.lift (.ofOption .unknownChannel (host.getFunding channelId))
  let outKeyset ← selectCloseOutputKeysetFromFunding L K H funding
  prepareCloseDataImpl L K H channelId balance signature funding outKeyset validateDue

def validateAndPrepareCooperativeClose (text : T.Text) : Reading σ BridgeError (CloseData T) := do
  let p ← Attempt.lift ((parsePayment L text).mapErr .invalidRequest)
  Attempt.lift (.guard (.invalidRequest "missing channel_id") (p.channelId ≠ ""))
  Attempt.lift (.guard (.invalidRequest "missing signature") (p.signature ≠ ""))
  prepareCloseData L K H p.channelId p.balance p.signature true

def createUnilateralCloseData (channelId : String) : Reading σ BridgeError (CloseData T) := do
  let host ← look L K H
  Attempt.lift (.guard .unknownChannel (host.getFunding channelId).isSome)
  let host ← look L K H
  let p ← Attempt.lift (.ofOption (.invalidRequest "No payment proof")
    (host.getBalanceAndSignatureForUnilateralExit channelId))
  prepareCloseData L K H channelId p.balance p.signature false

def prepareCooperativeCloseForExecution (text : T.Text) :
    Reading σ ClosePreparationError (PreparedClose T) := do
  let p ← Attempt.lift ((Outcome.ofExcept (L.parse text)).mapErr .badRequest)
  let channelId ← Attempt.lift (.ofOption (.badRequest "Missing ID") (p.field "channel_id").asStr)
  let closeData ← (validateAndPrepareCooperativeClose L K H text).mapErr .fromBridgeError
  let host ← look L K H
  let funding ← Attempt.lift (.ofOption (.internal "Missing funding") (host.getFunding channelId))
  Attempt.lift (wrapCloseData L closeData channelId ((p.field "balance").asU64.getD 0) funding)

def prepareUnilateralCloseForExecution (channelId : String) :
    Reading σ ClosePreparationError (PreparedClose T) := do
  let closeData ← (createUnilateralCloseData L K H channelId).mapErr .fromBridgeError
  let host ← look L K H
  let funding ← Attempt.lift (.ofOption (.internal "Missing funding") (host.getFunding channelId))
  let host ← look L K H
  let p ← Attempt.lift (.ofOption (.internal "Missing payment")
    (host.getBalanceAndSignatureForUnilateralExit channelId))
  Attempt.lift (wrapCloseData L closeData channelId p.balance funding)

def prepareCooperativeCloseTransition (text : T.Text) :
    Reading σ ClosePreparationError (PreparedCloseTransition T) := do
  let preparedClose ← prepareCooperativeCloseForExecution L K H text
  return {
    preparedClose
    expiryTimestamp := closeExpiryTimestamp L preparedClose
    payment := ⟨preparedClose.balance, requestSignature L text⟩ }

def prepareUnilateralCloseTransition (channelId : String) :
    Reading σ ClosePreparationError (PreparedCloseTransition T) := do
  let preparedClose ← prepareUnilateralCloseForExecution L K H channelId
  let host ← look L K H
  let payment ← Attempt.lift (.ofOption (.badRequest "No payment")
    (host.getBalanceAndSignatureForUnilateralExit channelId))
  return { preparedClose, expiryTimestamp := closeExpiryTimestamp L preparedClose, payment }

def prepareCloseForClosingChannelWithKeyset (channelId : String) (balance : Nat)
    (signature : String) (selected : SelectedOutputKeyset T) :
    Reading σ ClosePreparationError (PreparedClose T) := do
  let host ← look L K H
  let funding ← Attempt.lift (.ofOption (.internal "Missing funding") (host.getFunding channelId))
  let keyset ← Attempt.lift ((parseKeysetInfoFromJson L selected.infoJson).mapErr .internal)
  let closeData ← (prepareCloseDataImpl L K H channelId balance signature funding keyset
    false).mapErr .fromBridgeError
  let host ← look L K H
  let funding ← Attempt.lift (.ofOption (.internal "Missing funding") (host.getFunding channelId))
  Attempt.lift (wrapCloseData L closeData channelId balance funding)

/-! ## Executing a close -/

/-- What a close gives. -/
structure CloseSuccess (T : Carriers) where
  channelId : String
  totalValue : Nat
  receiverSum : Nat
  senderSum : Nat
  senderProofs : T.Text
  alreadyClosed : Bool
  deriving DecidableEq

def markPreparedCloseClosing (transition : PreparedCloseTransition T) :
    Call T σ CloseError Unit := do
  let stored ← Attempt.perform (markChannelClosing transition.preparedClose.channelId
    transition.expiryTimestamp transition.payment)
  Attempt.lift ((Outcome.ofExcept stored).mapErr .storage)

/-- The channel has to be closing. -/
def checkClosing (channelId : String) : Reading σ CloseError Unit := do
  let host ← look L K H
  let state ← Attempt.lift
    ((Outcome.ofExcept (host.getChannelState channelId)).mapErr .storage)
  Attempt.lift (.guard (.validationFailed "Not closing" 400 none none) (state = some .closing))

def markCompletedClose (completed : CompletedClose T) : Call T σ CloseError (CloseSuccess T) := do
  observe (checkClosing L K H completed.channelId)
  let stored ← Attempt.perform (markChannelClosed completed)
  Attempt.lift ((Outcome.ofExcept stored).mapErr .storage)
  return {
    channelId := completed.channelId
    totalValue := (completed.receiverSum + completed.senderSum) % 2 ^ 64
    receiverSum := completed.receiverSum
    senderSum := completed.senderSum
    senderProofs := completed.senderProofsJson
    alreadyClosed := false }

def finalizeClose (respJson : T.Text) (prep : PreparedClose T) :
    Call T σ CloseError (CloseSuccess T) := do
  let host ← observe (look L K H)
  let completed ← Attempt.lift (completePreparedClose L host respJson prep)
  markCompletedClose L K H completed

/-- What a failed submission is reported as. -/
def submissionError (error : MintRequestError) : Option MintRequestError → CloseError
  | none =>
      if error.rejection.isSome then .mintRejected error.value 502
      else .mintRequestFailed error none 502
  | some first =>
      if error.rejection.isSome then .mintRejectedAfterRetry first.value error.value 502
      else .mintRequestFailed error (some first) 502

/-- What a failed loop is reported as. -/
def closeRetryResult :
    KeysetRetryError (PreparedClose T) CloseError MintRequestError → CloseError
  | .select error | .prepare error | .refresh error | .cleanup error => error
  | .submit _ error first => submissionError error first
  | .retryKeysetUnchanged _ error _ => .mintRejected error.value 502

/-- Refresh the cached keysets if none of them can be used for a close. -/
def refreshUnlessUsable (mint : String) :
    Outcome ClosePreparationError (SelectedOutputKeyset T) → Call T σ CloseError Unit
  | .ok _ => pure ()
  | .noReturn => Attempt.lift .noReturn
  | .err _ => do
      let refreshed ← Attempt.perform (refreshKeysets mint)
      Attempt.lift ((Outcome.ofExcept refreshed).mapErr fun e =>
        .storage s!"refresh keysets before close: {e}")

def ensureCloseKeysetsCached (channelId : String) : Call T σ CloseError Unit := do
  let host ← observe (look L K H)
  let mintUnit ← Attempt.lift ((closeMintUnitForChannel L host channelId).mapErr
    .fromPreparationError)
  let selected ← Attempt.perform (observe (selectCloseOutputKeysetForChannel L K H channelId))
  refreshUnlessUsable mintUnit.1 selected

/-- Submit the swap of a closing channel, with its closing payment. An error of the
refresher is ignored. -/
def submitClose (channelId : String) (closing : ClosingData) :
    Attempt (requests T σ) (KeysetRetryError (PreparedClose T) CloseError MintRequestError)
      (KeysetRetrySuccess (PreparedClose T) T.Text) :=
  withActiveKeysetRetry
    (observe ((selectCloseOutputKeysetForChannel L K H channelId).mapErr .fromPreparationError))
    SelectedOutputKeyset.id
    (fun selected => observe ((prepareCloseForClosingChannelWithKeyset L K H channelId
      closing.balance closing.signature selected).mapErr .fromPreparationError))
    (fun prep => .call (.callMintSwap prep.mintUrl (L.render prep.swapRequest)) .done)
    MintRequestError.permitsKeysetRetry
    (fun prep => Attempt.perform ((refreshKeysets prep.mintUrl).bind fun _ => .done ()))
    (fun _ _ => pure ())

def executeCloseForClosingChannel (channelId : String) :
    Call T σ CloseError (CloseSuccess T) := do
  observe (checkClosing L K H channelId)
  let host ← observe (look L K H)
  let closing ← Attempt.lift (.ofOption
    (.validationFailed "Missing closing data" 500 none none) (host.getClosingData channelId))
  ensureCloseKeysetsCached L K H channelId
  let success ← (submitClose L K H channelId closing).mapErr closeRetryResult
  finalizeClose L K H success.value success.attempt

/-- A cooperative close may be the first use of a channel. -/
def recordCooperativeCloseFirstUseFunding (text : T.Text) : Call T σ CloseError Unit := do
  let p ← Attempt.lift ((parsePayment L text).mapErr fun e =>
    .fromPreparationError (.badRequest e))
  if p.channelId = "" ∨ p.signature = "" then pure () else do
    let host ← observe (look L K H)
    let state ← Attempt.lift
      ((Outcome.ofExcept (host.getChannelState p.channelId)).mapErr .storage)
    match state, p.params, p.fundingProofs with
    | none, some params, some proofs => do
        let validated ← observe ((validateNewChannelFunding L K H p.channelId params proofs
          p.balance p.signature).mapErr fun e => .fromPreparationError (.fromBridgeError e))
        Attempt.perform (recordValidatedNewChannel validated)
        return ()
    | _, _, _ => pure ()

def executeCooperativeClose (text : T.Text) : Call T σ CloseError (CloseSuccess T) := do
  recordCooperativeCloseFirstUseFunding L K H text
  let transition ← observe
    ((prepareCooperativeCloseTransition L K H text).mapErr .fromPreparationError)
  markPreparedCloseClosing transition
  executeCloseForClosingChannel L K H transition.preparedClose.channelId

def executeUnilateralClose (channelId : String) : Call T σ CloseError (CloseSuccess T) := do
  let transition ← observe
    ((prepareUnilateralCloseTransition L K H channelId).mapErr .fromPreparationError)
  markPreparedCloseClosing transition
  executeCloseForClosingChannel L K H channelId

/-! ## Operations -/

/-- A call of a running bridge. -/
inductive Operation (T : Carriers)
  | processPayment (payment : Payment T) (context : T.Text)
  | fundChannel (payment : Payment T)
  | executeCooperativeClose (text : T.Text)
  | executeUnilateralClose (channelId : String)
  | executeCloseForClosingChannel (channelId : String)
  | setKeyset (mint : String) (id : T.Id) (entry : KeysetCacheEntry T)

/-- What a call returns. -/
inductive Reply (T : Carriers)
  | payment (result : Outcome BridgeError PaymentSuccess)
  | funding (result : Outcome BridgeError FundChannelResult)
  | close (result : Outcome CloseError (CloseSuccess T))
  | keyset (result : Except String Unit)

/-- The program of a call. -/
def Operation.program : Operation T → Program (requests T σ) (Reply T)
  | .processPayment payment context =>
      Program.bind (Bridge.processPayment L K H payment context) fun result =>
        .done (.payment result)
  | .fundChannel payment =>
      Program.bind (Bridge.fundChannel L K H payment) fun result => .done (.funding result)
  | .executeCooperativeClose text =>
      Program.bind (Bridge.executeCooperativeClose L K H text) fun result => .done (.close result)
  | .executeUnilateralClose channelId =>
      Program.bind (Bridge.executeUnilateralClose L K H channelId) fun result =>
        .done (.close result)
  | .executeCloseForClosingChannel channelId =>
      Program.bind (Bridge.executeCloseForClosingChannel L K H channelId) fun result =>
        .done (.close result)
  | .setKeyset mint id entry =>
      .call (.setKeyset mint id entry) fun result => .done (.keyset result)

end Bridge

end Spilman
