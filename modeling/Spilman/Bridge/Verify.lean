/-
# Authenticating a kept close

Before the receiver acts on a prepared close that it finds in its journal, it
checks it against the stored funding and the payment the close was started with.
The close is prepared a second time and compared: everything has to be the same,
except for the two signatures on the first input, which are verified.
-/

import Spilman.Bridge.Complete

namespace Spilman

open Lib

variable {T : Carriers} {C : Type} (L : Cashu T)

/-- A request without the witness of its first input. -/
def SwapRequest.clearFirstWitness (request : SwapRequest T) : Option (SwapRequest T) :=
  match request.inputs with
  | [] => none
  | first :: rest => some { request with inputs := { first with witness := none } :: rest }

/-- The first input carries exactly two signatures, and the first of them is the
payment's. -/
def carriesPayment (request : SwapRequest T) (signature : String) : Bool :=
  match request.inputs.head?.bind Proof.witness with
  | some (.p2pk [first, _]) => first = signature
  | _ => false

/-- The error of every check. -/
def invalidBinding : CloseError := .unblinding "Invalid immutable close binding"

/-- The second of exactly two readable signatures, if the first one prints as the
payment's. -/
def receiverSignature (signatures : List (Bytes 64)) (payment : PaymentProof) :
    Option (Bytes 64) :=
  match signatures with
  | [first, second] => if signatureToString first = payment.signature then some second else none
  | _ => none

/-- Check a prepared close against stored funding, payment and receiver key. -/
def verifyPreparedClose (host : Host T C) (prepared : PreparedClose T)
    (funding : ChannelFunding T) (payment : PaymentProof) (receiver : T.PublicKey) :
    Outcome CloseError Unit := do
  .guard invalidBinding
    (prepared.balance = payment.balance ∧ prepared.paramsJson = funding.paramsJson ∧
      prepared.keysetInfoJson = funding.keysetInfoJson ∧
      prepared.channelSecret = funding.channelSecretHex)
  let params ← (storedParams L funding).mapErr fun _ => invalidBinding
  let outputKeyset ← (parseKeysetInfoFromJson L (L.render prepared.outputKeysetInfo)).mapErr
    fun _ => invalidBinding
  .guard invalidBinding
    (params.receiverPubkey = receiver ∧ params.getChannelId L = prepared.channelId ∧
      params.mint = prepared.mintUrl ∧ params.unit = outputKeyset.unit)
  let expected ← (prepareCloseDataImpl L host prepared.channelId payment.balance payment.signature
    funding outputKeyset false).mapErr fun _ => invalidBinding
  let expected ← (wrapCloseData L expected prepared.channelId payment.balance funding).mapErr
    fun _ => invalidBinding
  .guard invalidBinding (expected.secretsWithBlinding = prepared.secretsWithBlinding)
  let request ← (Outcome.ofExcept (L.swapRequestOfJson prepared.swapRequest)).mapErr
    fun _ => invalidBinding
  .guard invalidBinding (L.swapRequestToJson request = prepared.swapRequest)
  let blindedReceiverPubkey ← (params.getReceiverBlindedPubkeyForStage1 L).mapErr
    fun _ => invalidBinding
  .guard invalidBinding
    (sigAllMessageHashHex L request = prepared.sigAllMessageHash ∧
      L.publicKeyToHex blindedReceiverPubkey = prepared.blindedReceiverPubkey)
  .guard invalidBinding (carriesPayment request payment.signature)
  let signatures ← (getSignaturesFromSwapRequest request).mapErr fun _ => invalidBinding
  let signature ← .ofOption invalidBinding (receiverSignature signatures payment)
  (verifySwapSignature L request blindedReceiverPubkey signature).mapErr fun _ => invalidBinding
  let expectedRequest ← (Outcome.ofExcept (L.swapRequestOfJson expected.swapRequest)).mapErr
    fun _ => invalidBinding
  let request ← .ofOption invalidBinding request.clearFirstWitness
  let expectedRequest ← .ofOption invalidBinding expectedRequest.clearFirstWitness
  .guard invalidBinding (L.swapRequestToJson request = L.swapRequestToJson expectedRequest)

/-- What `recover_close` establishes before it asks the mint anything: the channel
is closing, the stored funding is this channel's, and every kept attempt
authenticates. -/
def authenticateCloseAttempts (host : Host T C) (channelId : String)
    (attempts : List (PreparedClose T)) : Outcome String (ChannelParameters T) := do
  let state ← .ofExcept (host.getChannelState channelId)
  .guard "channel is not closing" (state = some .closing)
  let stored ← .ofOption "missing channel funding" (host.getFunding channelId)
  let closing ← .ofOption "missing closing payment" (host.getClosingData channelId)
  let secret ← channelSecretOf L "invalid channel secret length" stored.channelSecretHex
  let keysetInfo ← parseKeysetInfoFromJson L stored.keysetInfoJson
  let params ← ChannelParameters.fromJsonWithChannelSecret L stored.paramsJson keysetInfo secret
  .guard "incorrect receiver channel binding"
    (params.getChannelId L = channelId ∧ host.receiverKeyIsAcceptable params.receiverPubkey)
  .forAll (fun attempt => (verifyPreparedClose L host attempt stored closing.payment
    params.receiverPubkey).mapErr fun _ => "unblind failed: Invalid immutable close binding")
    attempts
  return params

end Spilman
