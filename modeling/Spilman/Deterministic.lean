/-
# Deterministic outputs and commitments

Both parties rebuild every output of a channel from the channel parameters
alone. An output is named by its context, its amount and its index among the
outputs of that amount; its nonce and blinding factor are hashes of that name.

A commitment to a balance has outputs for the receiver, whose nominal value is
the least that is worth the balance after fees, and outputs for the sender with
the rest of what stage 1 leaves of the funding.
-/

import Spilman.Lib.Sorting
import Spilman.Derivation

namespace Spilman

open Lib

variable {T : Carriers} (L : Cashu T)

/-! ## One output -/

/-- The secret of an output, with its blinding factor and its place among the
outputs of its context. -/
structure DeterministicSecretWithBlinding (T : Carriers) where
  secret : String
  blindingFactor : T.SecretKey
  amount : Nat
  index : Nat
  deriving DecidableEq

/-- Secret of an output locked to one key. -/
def p2pkSecret (pubkeyHex nonce : String) : String :=
  "[\"P2PK\",\x7b\"data\":\"" ++ pubkeyHex ++ "\",\"nonce\":\"" ++ nonce ++
    "\",\"tags\":[]\x7d]"

/-- The text of a commitment output's secret parses to a lock on its key. -/
def Cashu.ReadsP2pk : Prop :=
  ∀ (key : T.PublicKey) (nonce : Bytes 32), ∃ json,
    L.parseSecret (p2pkSecret (L.publicKeyToHex key) (Hex.encode nonce.val)) = .ok json ∧
    (json.item? 0).bind Json.asStr = some "P2PK" ∧
    ((json.item? 1).bind (·.get? "data")).bind Json.asStr = some (L.publicKeyToHex key)

/-- Secret of a funding output: both parties together, or the sender after expiry. -/
def fundingSecret (senderHex nonce receiverHex : String) (expiryTimestamp : Nat)
    (refundHex : String) : String :=
  "[\"P2PK\",\x7b\"data\":\"" ++ senderHex ++ "\",\"nonce\":\"" ++ nonce ++
    "\",\"tags\":[[\"pubkeys\",\"" ++ receiverHex ++ "\"],[\"locktime\",\"" ++
    toString expiryTimestamp ++ "\"],[\"n_sigs\",\"2\"],[\"refund\",\"" ++ refundHex ++
    "\"],[\"n_sigs_refund\",\"1\"],[\"sigflag\",\"SIG_ALL\"]]\x7d]"

namespace DeterministicSecretWithBlinding

/-- A commitment output. -/
def newP2pk (pubkey : T.PublicKey) (nonce : String) (blindingFactor : T.SecretKey)
    (amount index : Nat) : DeterministicSecretWithBlinding T :=
  ⟨p2pkSecret (L.publicKeyToHex pubkey) nonce, blindingFactor, amount, index⟩

/-- A funding output. -/
def newFunding (params : ChannelParameters T) (nonce : String) (blindingFactor : T.SecretKey)
    (amount index : Nat) : Outcome String (DeterministicSecretWithBlinding T) := do
  let blindedSenderPubkey ← params.getSenderBlindedPubkeyForStage1 L
  let blindedReceiverPubkey ← params.getReceiverBlindedPubkeyForStage1 L
  let blindedSenderPubkeyRefund ← params.getSenderBlindedPubkeyForStage1Refund L
  return ⟨fundingSecret (L.publicKeyToHex blindedSenderPubkey) nonce
    (L.publicKeyToHex blindedReceiverPubkey) params.expiryTimestamp
    (L.publicKeyToHex blindedSenderPubkeyRefund), blindingFactor, amount, index⟩

/-- The output as offered to the mint. -/
def toBlindedMessage (output : DeterministicSecretWithBlinding T) (amount : Nat)
    (keysetId : T.Id) : Outcome String (BlindedMessage T) := do
  let blindedPoint ← .ofExcept (L.blindMessage output.secret output.blindingFactor)
  return ⟨amount, keysetId, blindedPoint⟩

end DeterministicSecretWithBlinding

namespace ChannelParameters

/-- What the nonce of an output is hashed from. -/
def nonceText (params : ChannelParameters T) (context : String) (amount index : Nat) : String :=
  params.getChannelId L ++ "|" ++ context ++ "|" ++ toString amount ++ "|nonce|" ++ toString index

/-- What the blinding factor of an output is hashed from. -/
def blindingText (params : ChannelParameters T) (context : String) (amount index : Nat) : String :=
  params.getChannelId L ++ "|" ++ context ++ "|" ++ toString amount ++ "|blinding|" ++
    toString index

/-- The output of a context, by amount and index. -/
def createDeterministicOutputWithBlinding (params : ChannelParameters T) (context : String)
    (amount index : Nat) : Outcome String (DeterministicSecretWithBlinding T) := do
  let hash := L.hmacSha256 params.channelSecret.val
  let nonceScalar ← (hashToSecpScalar L (utf8 (params.nonceText L context amount index)) hash).mapErr
    fun error => s!"Failed to derive deterministic nonce: {error}"
  let nonce := Hex.encode (L.scalarToBeBytes nonceScalar).val
  let blindingScalar ←
    (hashToSecpScalar L (utf8 (params.blindingText L context amount index)) hash).mapErr
      fun error => s!"Failed to derive deterministic blinding factor: {error}"
  let blindingFactor ←
    (Outcome.ofExcept (L.secretKeyFromSlice (L.scalarToBeBytes blindingScalar).val)).mapErr
      fun error => s!"Invalid deterministic blinding factor: {error}"
  if context = "funding" then
    DeterministicSecretWithBlinding.newFunding L params nonce blindingFactor amount index
  else do
    let pubkey ← params.getStage2BlindedPubkeyForStage1Output L context amount index
    return .newP2pk L pubkey nonce blindingFactor amount index

end ChannelParameters

/-! ## The outputs of one context -/

/-- All outputs of a context that make up an amount. -/
structure DeterministicOutputsForOneContext (T : Carriers) where
  context : String
  amount : Nat
  orderedAmounts : OrderedListOfAmounts
  params : ChannelParameters T
  deriving DecidableEq

/-- The names of the outputs of a split, smallest amount first: for each amount,
indices from zero to its count. -/
def OrderedListOfAmounts.slots (list : OrderedListOfAmounts) : List (Nat × Nat) :=
  list.countByAmount.entries.flatMap fun entry =>
    (List.range entry.2).map fun index => (entry.1, index)

namespace DeterministicOutputsForOneContext

/-- Split an amount into outputs of a context. -/
def new (context : String) (amount : Nat) (params : ChannelParameters T) :
    Outcome String (DeterministicOutputsForOneContext T) := do
  let orderedAmounts ←
    OrderedListOfAmounts.fromTarget amount params.maximumAmountForOneOutput params.keysetInfo
  return ⟨context, amount, orderedAmounts, params⟩

/-- The secrets of the outputs, smallest amount first. -/
def getSecretsWithBlinding (outputs : DeterministicOutputsForOneContext T) :
    Outcome String (List (DeterministicSecretWithBlinding T)) :=
  if outputs.amount = 0 then .ok []
  else
    .mapAll (fun slot => outputs.params.createDeterministicOutputWithBlinding L outputs.context
      slot.1 slot.2) outputs.orderedAmounts.slots

/-- The outputs as offered to the mint, under the keyset of the channel unless
another one is given. -/
def getBlindedMessages (outputs : DeterministicOutputsForOneContext T)
    (overrideKeysetId : Option T.Id) : Outcome String (List (BlindedMessage T)) := do
  let secrets ← outputs.getSecretsWithBlinding L
  let amounts := Greedy.spread outputs.orderedAmounts.countByAmount.entries
  let keysetId := overrideKeysetId.getD outputs.params.keysetInfo.keysetId
  .mapAll (fun pair => pair.1.toBlindedMessage L pair.2 keysetId) (secrets.zip amounts)

end DeterministicOutputsForOneContext

/-! ## Commitments -/

namespace ChannelParameters

/-- What is left of the funding after spending it, split over a given keyset. -/
def getValueAfterStage1WithKeyset (params : ChannelParameters T) (keysetInfo : KeysetInfo T) :
    Outcome String Nat :=
  keysetInfo.deterministicValueAfterFees params.fundingTokenAmount
    params.maximumAmountForOneOutput

/-- What is left of the funding after spending it. -/
def getValueAfterStage1 (params : ChannelParameters T) : Outcome String Nat :=
  params.getValueAfterStage1WithKeyset params.keysetInfo

/-- What a commitment to a balance is really worth to the receiver. -/
def getDeFactoBalance (params : ChannelParameters T) (intendedBalance : Nat) :
    Outcome String Nat := do
  let inverseResult ← params.keysetInfo.inverseDeterministicValueAfterFees intendedBalance
    params.maximumAmountForOneOutput
  params.keysetInfo.deterministicValueAfterFees inverseResult.nominalValue
    params.maximumAmountForOneOutput

end ChannelParameters

/-- The outputs of both parties at a balance. -/
structure CommitmentOutputs (T : Carriers) where
  receiverOutputs : DeterministicOutputsForOneContext T
  senderOutputs : DeterministicOutputsForOneContext T
  deriving DecidableEq

namespace CommitmentOutputs

/-- The commitment to a balance of the receiver. -/
def forBalance (receiverBalance : Nat) (params : ChannelParameters T) :
    Outcome String (CommitmentOutputs T) := do
  let capacity := params.capacity
  .guard s!"Receiver balance {receiverBalance} exceeds channel capacity {capacity}"
    (receiverBalance ≤ capacity)
  let amountAfterStage1 ← params.getValueAfterStage1
  let inverseResult ← params.keysetInfo.inverseDeterministicValueAfterFees receiverBalance
    params.maximumAmountForOneOutput
  let charlieNominal := inverseResult.nominalValue
  .guard (s!"Receiver balance {receiverBalance} requires nominal value {charlieNominal} " ++
      s!"which exceeds available amount {amountAfterStage1} after stage 1 fees")
    (charlieNominal ≤ amountAfterStage1)
  let charlieOutputs ← DeterministicOutputsForOneContext.new "receiver" charlieNominal params
  let aliceOutputs ←
    DeterministicOutputsForOneContext.new "sender" (amountAfterStage1 - charlieNominal) params
  return ⟨charlieOutputs, aliceOutputs⟩

/-- The unsigned swap of the funding proofs for the outputs of both parties, in
order of amount. -/
def createSwapRequest (commitment : CommitmentOutputs T) (fundingProofs : List (Proof T))
    (overrideKeysetId : Option T.Id) : Outcome String (SwapRequest T) := do
  let receiverMessages ← commitment.receiverOutputs.getBlindedMessages L overrideKeysetId
  let senderMessages ← commitment.senderOutputs.getBlindedMessages L overrideKeysetId
  return {
    inputs := fundingProofs
    outputs := sortByKey BlindedMessage.amount (receiverMessages ++ senderMessages)
    rerandomized := commitment.receiverOutputs.params.commitmentMode = .rerandomized }

/-- The secrets of all outputs in the order of the swap request, with whether
each belongs to the receiver. Callers wrap the errors differently. -/
def secretsWithBlinding {ε : Type} (commitment : CommitmentOutputs T)
    (receiverError senderError : String → ε) :
    Outcome ε (List (DeterministicSecretWithBlinding T × Bool)) := do
  let receiverSecrets ←
    (commitment.receiverOutputs.getSecretsWithBlinding L).mapErr receiverError
  let senderSecrets ← (commitment.senderOutputs.getSecretsWithBlinding L).mapErr senderError
  return sortByKey (fun secret => secret.1.amount)
    (receiverSecrets.map (·, true) ++ senderSecrets.map (·, false))

end CommitmentOutputs

end Spilman
