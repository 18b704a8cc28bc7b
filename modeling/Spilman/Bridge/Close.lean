/-
# Preparing a close

A close swaps the funding proofs for the commitment outputs of the last balance.
`prepareCloseDataImpl` rebuilds the swap request, attaches the sender's signature
and the receiver's own, and lists the secrets of the outputs. `wrapCloseData`
puts all of it into a record that can be kept, submitted and completed later.

Outputs are made for a keyset that is active at the time of the close, which
need not be the one the channel was funded with.
-/

import Spilman.Bridge.Payment

namespace Spilman

open Lib

variable {T : Carriers} {C : Type} (L : Cashu T)

/-! ## Records -/

/-- A signed payment as it is sent over the wire. -/
structure Payment (T : Carriers) where
  channelId : String
  balance : Nat
  signature : String
  params : Option Json
  fundingProofs : Option (List (Proof T))
  deriving DecidableEq

/-- An optional field: `null` counts as missing. -/
def optionalField (json : Json) (key : String) : Option Json :=
  (json.get? key).filter (· ≠ .null)

/-- The funding proofs of a payment, if it has any. -/
def fundingProofsOf (json : Json) : Except String (Option (List (Proof T))) :=
  match optionalField json "funding_proofs" with
  | none => .ok none
  | some value => (L.proofsOfJson value).map some

/-- Read a payment from JSON. -/
def Payment.ofJson (json : Json) : Outcome String (Payment T) := do
  let channelId ← .ofOption (L.shapeError json) (json.field "channel_id").asStr
  let balance ← .ofOption (L.shapeError json) (json.field "balance").asU64
  let signature ← .ofOption (L.shapeError json) (json.field "signature").asStr
  let fundingProofs ← .ofExcept (fundingProofsOf L json)
  return { channelId, balance, signature, params := optionalField json "params", fundingProofs }

/-- `serde_json::from_str::<Payment>`. -/
def parsePayment (text : T.Text) : Outcome String (Payment T) := do
  let json ← .ofExcept (L.parse text)
  Payment.ofJson L json

/-- What is needed to close a channel. -/
structure CloseData (T : Carriers) where
  swapRequest : SwapRequest T
  sigAllMessageHash : String
  blindedReceiverPubkey : String
  expectedTotal : Nat
  secretsWithBlinding : List (DeterministicSecretWithBlinding T × Bool)
  outputKeysetInfo : KeysetInfo T
  deriving DecidableEq

/-- A close ready to be submitted to the mint. -/
structure PreparedClose (T : Carriers) where
  channelId : String
  balance : Nat
  mintUrl : String
  swapRequest : Json
  sigAllMessageHash : String
  blindedReceiverPubkey : String
  secretsWithBlinding : Json
  outputKeysetInfo : Json
  paramsJson : T.Text
  keysetInfoJson : T.Text
  channelSecret : String
  deriving DecidableEq

/-- A prepared close with what is stored before it is submitted. -/
structure PreparedCloseTransition (T : Carriers) where
  preparedClose : PreparedClose T
  expiryTimestamp : Nat
  payment : PaymentProof
  deriving DecidableEq

/-- The output keyset chosen for a close. -/
structure SelectedOutputKeyset (T : Carriers) where
  id : String
  infoJson : T.Text
  deriving DecidableEq

/-! ## The swap -/

/-- Rebuild the swap of a balance, with both signatures and all secrets. -/
def prepareCloseDataImpl (host : Host T C) (channelId : String) (balance : Nat)
    (signature : String) (funding : ChannelFunding T) (outKeyset : KeysetInfo T)
    (validateDue : Bool) : Outcome BridgeError (CloseData T) := do
  let params ← (storedParams L funding).mapErr .internal
  let proofs ← (parseProofs L funding.fundingProofsJson).mapErr .internal
  .guard (.balanceExceedsCapacity balance params.capacity) (balance ≤ params.capacity)
  let amountDue := host.getAmountDue channelId none
  .guard (.balanceMismatch amountDue balance) (validateDue = true → balance = amountDue)
  let sig ← (signatureFromStr L signature).mapErr .invalidSignature
  let commitment ← (CommitmentOutputs.forBalance balance params).mapErr .internal
  let swap ← (commitment.createSwapRequest L proofs (some outKeyset.keysetId)).mapErr .internal
  let swap ← (attachSignatureToFirstInput swap (signatureToString sig)).mapErr .internal
  let channel ← (EstablishedChannel.new L params proofs).mapErr .internal
  (BalanceUpdateMessage.verifySenderSignature L ⟨channelId, balance, sig⟩ channel).mapErr
    .invalidSignature
  let tweakScalar ← (params.deriveReceiverBlindingScalarForStage1 L).mapErr .internal
  let sigAllMessageHash := sigAllMessageHashHex L swap
  let blindedReceiverPubkey ← (params.getReceiverBlindedPubkeyForStage1 L).mapErr .internal
  let serverSig ← (Outcome.ofExcept (host.signWithTweakedKey (L.publicKeyToHex params.receiverPubkey)
    sigAllMessageHash (Hex.encode (L.scalarToBeBytes tweakScalar).val))).mapErr .serverMisconfigured
  let swap ← (attachSignatureToFirstInput swap serverSig).mapErr .internal
  let expectedTotal ← (params.getValueAfterStage1WithKeyset outKeyset).mapErr .internal
  let secretsWithBlinding ← commitment.secretsWithBlinding L .internal .internal
  return {
    swapRequest := swap, sigAllMessageHash
    blindedReceiverPubkey := L.publicKeyToHex blindedReceiverPubkey
    expectedTotal, secretsWithBlinding, outputKeysetInfo := outKeyset }

/-- The secret of an output as it is kept with the prepared close. -/
def secretToJson (entry : DeterministicSecretWithBlinding T × Bool) : Json :=
  .obj [
    ("amount", .num entry.1.amount),
    ("blinding_factor", .str (Hex.encode (L.secretBytes entry.1.blindingFactor).val)),
    ("index", .num entry.1.index),
    ("is_receiver", .bool entry.2),
    ("secret", .str entry.1.secret)]

/-- Put the close data and the stored funding into one record. -/
def wrapCloseData (closeData : CloseData T) (channelId : String) (balance : Nat)
    (funding : ChannelFunding T) : Outcome ClosePreparationError (PreparedClose T) := do
  let paramsVal ← (Outcome.ofExcept (L.parse funding.paramsJson)).mapErr .internal
  let mintUrl ← .ofOption (.internal "Missing mint") (paramsVal.field "mint").asStr
  return {
    channelId, balance, mintUrl
    swapRequest := L.swapRequestToJson closeData.swapRequest
    sigAllMessageHash := closeData.sigAllMessageHash
    blindedReceiverPubkey := closeData.blindedReceiverPubkey
    secretsWithBlinding := .arr (closeData.secretsWithBlinding.map (secretToJson L))
    outputKeysetInfo := closeData.outputKeysetInfo.toJson L
    paramsJson := funding.paramsJson
    keysetInfoJson := funding.keysetInfoJson
    channelSecret := funding.channelSecretHex }

/-- The expiry that the parameters of a prepared close name, or zero. -/
def closeExpiryTimestamp (prep : PreparedClose T) : Nat :=
  match L.parse prep.paramsJson with
  | .ok json => (json.field "expiry_timestamp").asU64.getD 0
  | .error _ => 0

/-! ## Choosing the output keyset -/

/-- A cached keyset that close outputs can be made for. -/
def usableKeyset (host : Host T C) (params : ChannelParameters T) (id : T.Id) :
    Option (KeysetInfo T) :=
  match host.getKeysetInfo params.mint id with
  | none => none
  | some json =>
      match parseKeysetInfoFromJson L json with
      | .ok info =>
          if info.keysetId = id ∧ info.unit = params.unit ∧ info.isUnexpiredAt host.nowSeconds then
            some info
          else none
      | _ => none

/-- The first active keyset of the channel's mint and unit that is usable. -/
def selectCloseOutputKeysetFromFunding (host : Host T C) (funding : ChannelFunding T) :
    Outcome BridgeError (KeysetInfo T) := do
  let params ← (storedParams L funding).mapErr .internal
  .ofOption (.internal "No usable active close keysets")
    ((host.getActiveKeysetIds params.mint params.unit).findSome? (usableKeyset L host params))

/-- The selection for a stored channel. -/
def selectCloseOutputKeysetForChannel (host : Host T C) (channelId : String) :
    Outcome ClosePreparationError (SelectedOutputKeyset T) := do
  let funding ← .ofOption (.internal "Missing funding") (host.getFunding channelId)
  let keyset ← (selectCloseOutputKeysetFromFunding L host funding).mapErr .fromBridgeError
  return { id := L.idToString keyset.keysetId, infoJson := L.render (keyset.toJson L) }

/-- The mint and unit of a stored channel. -/
def closeMintUnitForChannel (host : Host T C) (channelId : String) :
    Outcome ClosePreparationError (String × T.CurrencyUnit) := do
  let funding ← .ofOption (.internal "Missing funding") (host.getFunding channelId)
  let params ← (storedParams L funding).mapErr .internal
  return (params.mint, params.unit)

/-! ## Cooperative, unilateral and resumed closes -/

/-- A close needs a stored channel that is not closed yet. -/
def prepareCloseData (host : Host T C) (channelId : String) (balance : Nat) (signature : String)
    (validateDue : Bool) : Outcome BridgeError (CloseData T) := do
  match ← (Outcome.ofExcept (host.getChannelState channelId)).mapErr .internal with
  | some .closed => .err .channelClosed
  | none => .err .unknownChannel
  | some _ => do
      let funding ← .ofOption .unknownChannel (host.getFunding channelId)
      let outKeyset ← selectCloseOutputKeysetFromFunding L host funding
      prepareCloseDataImpl L host channelId balance signature funding outKeyset validateDue

/-- A close that both parties agree on: the balance has to be what is due. -/
def validateAndPrepareCooperativeClose (host : Host T C) (text : T.Text) :
    Outcome BridgeError (CloseData T) := do
  let p ← (parsePayment L text).mapErr .invalidRequest
  .guard (.invalidRequest "missing channel_id") (p.channelId ≠ "")
  .guard (.invalidRequest "missing signature") (p.signature ≠ "")
  prepareCloseData L host p.channelId p.balance p.signature true

/-- A close by the receiver alone, with the last payment it has. -/
def createUnilateralCloseData (host : Host T C) (channelId : String) :
    Outcome BridgeError (CloseData T) := do
  .guard .unknownChannel (host.getFunding channelId).isSome
  let p ← .ofOption (.invalidRequest "No payment proof")
    (host.getBalanceAndSignatureForUnilateralExit channelId)
  prepareCloseData L host channelId p.balance p.signature false

/-- Prepare a cooperative close for submission. -/
def prepareCooperativeCloseForExecution (host : Host T C) (text : T.Text) :
    Outcome ClosePreparationError (PreparedClose T) := do
  let p ← (Outcome.ofExcept (L.parse text)).mapErr .badRequest
  let channelId ← .ofOption (.badRequest "Missing ID") (p.field "channel_id").asStr
  let closeData ← (validateAndPrepareCooperativeClose L host text).mapErr .fromBridgeError
  let balance := (p.field "balance").asU64.getD 0
  let funding ← .ofOption (.internal "Missing funding") (host.getFunding channelId)
  wrapCloseData L closeData channelId balance funding

/-- Prepare a unilateral close for submission. -/
def prepareUnilateralCloseForExecution (host : Host T C) (channelId : String) :
    Outcome ClosePreparationError (PreparedClose T) := do
  let closeData ← (createUnilateralCloseData L host channelId).mapErr .fromBridgeError
  let funding ← .ofOption (.internal "Missing funding") (host.getFunding channelId)
  let p ← .ofOption (.internal "Missing payment")
    (host.getBalanceAndSignatureForUnilateralExit channelId)
  wrapCloseData L closeData channelId p.balance funding

/-- The signature text of a request, empty if it has none. -/
def requestSignature (text : T.Text) : String :=
  match L.parse text with
  | .ok json => (json.field "signature").asStr.getD ""
  | .error _ => ""

/-- A cooperative close with what to store before it is submitted. -/
def prepareCooperativeCloseTransition (host : Host T C) (text : T.Text) :
    Outcome ClosePreparationError (PreparedCloseTransition T) := do
  let preparedClose ← prepareCooperativeCloseForExecution L host text
  return {
    preparedClose
    expiryTimestamp := closeExpiryTimestamp L preparedClose
    payment := ⟨preparedClose.balance, requestSignature L text⟩ }

/-- A unilateral close with what to store before it is submitted. -/
def prepareUnilateralCloseTransition (host : Host T C) (channelId : String) :
    Outcome ClosePreparationError (PreparedCloseTransition T) := do
  let preparedClose ← prepareUnilateralCloseForExecution L host channelId
  let payment ← .ofOption (.badRequest "No payment")
    (host.getBalanceAndSignatureForUnilateralExit channelId)
  return { preparedClose, expiryTimestamp := closeExpiryTimestamp L preparedClose, payment }

/-- Prepare the swap of a channel that is already closing, for a given keyset. -/
def prepareCloseForClosingChannelWithKeyset (host : Host T C) (channelId : String) (balance : Nat)
    (signature : String) (selected : SelectedOutputKeyset T) :
    Outcome ClosePreparationError (PreparedClose T) := do
  let funding ← .ofOption (.internal "Missing funding") (host.getFunding channelId)
  let keyset ← (parseKeysetInfoFromJson L selected.infoJson).mapErr .internal
  let closeData ← (prepareCloseDataImpl L host channelId balance signature funding keyset
    false).mapErr .fromBridgeError
  wrapCloseData L closeData channelId balance funding

/-- Prepare the swap of a channel that is already closing, with its closing
payment. -/
def prepareCloseForClosingChannelWithOutputKeyset (host : Host T C) (channelId : String)
    (selected : SelectedOutputKeyset T) : Outcome ClosePreparationError (PreparedClose T) := do
  let state ← (Outcome.ofExcept (host.getChannelState channelId)).mapErr .internal
  .guard (.badRequest "Not closing") (state = some .closing)
  let cd ← .ofOption (.internal "Missing closing data") (host.getClosingData channelId)
  prepareCloseForClosingChannelWithKeyset L host channelId cd.balance cd.signature selected

/-! ## What a preparation consists of -/

/-- Everything that is read, derived and signed when a close is prepared. -/
structure Preparation (host : Host T C) (channelId : String) (balance : Nat) (signature : String)
    (funding : ChannelFunding T) (outKeyset : KeysetInfo T) (data : CloseData T) where
  params : ChannelParameters T
  proofs : List (Proof T)
  sig : Bytes 64
  commitment : CommitmentOutputs T
  /-- The request without signatures, with the sender's, and with both. -/
  unsigned : SwapRequest T
  once : SwapRequest T
  twice : SwapRequest T
  tweakScalar : T.Scalar
  receiverKey : T.PublicKey
  serverSig : String
  stored : storedParams L funding = .ok params
  parsed : parseProofs L funding.fundingProofsJson = .ok proofs
  within : balance ≤ params.capacity
  read : signatureFromStr L signature = .ok sig
  committed : CommitmentOutputs.forBalance balance params = .ok commitment
  built : commitment.createSwapRequest L proofs (some outKeyset.keysetId) = .ok unsigned
  attached : attachSignatureToFirstInput unsigned (signatureToString sig) = .ok once
  established : EstablishedChannel.new L params proofs = .ok ⟨params, proofs⟩
  authorized : BalanceUpdateMessage.verifySenderSignature L ⟨channelId, balance, sig⟩
    ⟨params, proofs⟩ = .ok ()
  scalar : params.deriveReceiverBlindingScalarForStage1 L = .ok tweakScalar
  key : params.getReceiverBlindedPubkeyForStage1 L = .ok receiverKey
  signed : host.signWithTweakedKey (L.publicKeyToHex params.receiverPubkey)
    (sigAllMessageHashHex L once) (Hex.encode (L.scalarToBeBytes tweakScalar).val) = .ok serverSig
  attachedTwice : attachSignatureToFirstInput once serverSig = .ok twice
  total : params.getValueAfterStage1WithKeyset outKeyset = .ok data.expectedTotal
  secrets : commitment.secretsWithBlinding L BridgeError.internal BridgeError.internal =
    .ok data.secretsWithBlinding
  request_eq : data.swapRequest = twice
  hash_eq : data.sigAllMessageHash = sigAllMessageHashHex L once
  key_eq : data.blindedReceiverPubkey = L.publicKeyToHex receiverKey
  keyset_eq : data.outputKeysetInfo = outKeyset

section Specifications

variable {L}

/-- **A close is prepared exactly when** all its parts can be made, and the balance
is what is due if that is asked for. -/
theorem prepareCloseDataImpl_eq_ok_iff {host : Host T C} {channelId : String} {balance : Nat}
    {signature : String} {funding : ChannelFunding T} {outKeyset : KeysetInfo T}
    {validateDue : Bool} {data : CloseData T} :
    prepareCloseDataImpl L host channelId balance signature funding outKeyset validateDue =
        .ok data ↔
      Nonempty (Preparation L host channelId balance signature funding outKeyset data) ∧
        (validateDue = true → balance = host.getAmountDue channelId none) := by
  simp only [prepareCloseDataImpl, Outcome.bind_eq_ok, Outcome.mapErr_eq_ok, Outcome.guard_eq_ok,
    Outcome.ofExcept_eq_ok, Outcome.pure_eq, Outcome.ok.injEq]
  constructor
  · rintro ⟨params, stored, proofs, parsed, -, within, -, due, sig, read, commitment, committed,
      unsigned, built, once, attached, channel, established, _, authorized, scalar, isScalar, key,
      isKey, serverSig, signed, twice, attachedTwice, total, isTotal, entries, secrets, rfl⟩
    obtain ⟨-, -, -, rfl⟩ := EstablishedChannel.new_eq_ok_iff.mp established
    exact ⟨⟨⟨params, proofs, sig, commitment, unsigned, once, twice, scalar, key, serverSig, stored,
      parsed, within, read, committed, built, attached, established, authorized, isScalar, isKey,
      signed, attachedTwice, isTotal, secrets, rfl, rfl, rfl, rfl⟩⟩, due⟩
  · rintro ⟨⟨p⟩, due⟩
    refine ⟨p.params, p.stored, p.proofs, p.parsed, (), p.within, (), due, p.sig, p.read,
      p.commitment, p.committed, p.unsigned, p.built, p.once, p.attached, _, p.established, (),
      p.authorized, p.tweakScalar, p.scalar, p.receiverKey, p.key, p.serverSig, p.signed, p.twice,
      p.attachedTwice, data.expectedTotal, p.total, data.secretsWithBlinding, p.secrets, ?_⟩
    rw [← p.request_eq, ← p.hash_eq, ← p.key_eq, ← p.keyset_eq]

theorem wrapCloseData_eq_ok_iff {data : CloseData T} {channelId : String} {balance : Nat}
    {funding : ChannelFunding T} {prepared : PreparedClose T} :
    wrapCloseData L data channelId balance funding = .ok prepared ↔
      ∃ paramsVal mintUrl, L.parse funding.paramsJson = .ok paramsVal ∧
        (paramsVal.field "mint").asStr = some mintUrl ∧
        prepared = {
          channelId, balance, mintUrl
          swapRequest := L.swapRequestToJson data.swapRequest
          sigAllMessageHash := data.sigAllMessageHash
          blindedReceiverPubkey := data.blindedReceiverPubkey
          secretsWithBlinding := .arr (data.secretsWithBlinding.map (secretToJson L))
          outputKeysetInfo := data.outputKeysetInfo.toJson L
          paramsJson := funding.paramsJson
          keysetInfoJson := funding.keysetInfoJson
          channelSecret := funding.channelSecretHex } := by
  simp only [wrapCloseData, Outcome.bind_eq_ok, Outcome.mapErr_eq_ok, Outcome.ofExcept_eq_ok,
    Outcome.ofOption_eq_ok, Outcome.pure_eq, Outcome.ok.injEq]
  constructor
  · rintro ⟨paramsVal, parsed, mintUrl, named, rfl⟩
    exact ⟨paramsVal, mintUrl, parsed, named, rfl⟩
  · rintro ⟨paramsVal, mintUrl, parsed, named, rfl⟩
    exact ⟨paramsVal, parsed, mintUrl, named, rfl⟩

/-- A resumed close is prepared from what is stored, for the keyset that was chosen. -/
theorem prepareCloseForClosingChannelWithKeyset_eq_ok_iff {host : Host T C} {channelId : String}
    {balance : Nat} {signature : String} {selected : SelectedOutputKeyset T}
    {prepared : PreparedClose T} :
    prepareCloseForClosingChannelWithKeyset L host channelId balance signature selected =
        .ok prepared ↔
      ∃ funding keyset data, host.getFunding channelId = some funding ∧
        parseKeysetInfoFromJson L selected.infoJson = .ok keyset ∧
        Nonempty (Preparation L host channelId balance signature funding keyset data) ∧
        wrapCloseData L data channelId balance funding = .ok prepared := by
  simp only [prepareCloseForClosingChannelWithKeyset, Outcome.bind_eq_ok, Outcome.ofOption_eq_ok,
    Outcome.mapErr_eq_ok, prepareCloseDataImpl_eq_ok_iff]
  constructor
  · rintro ⟨funding, stored, keyset, parsed, data, ⟨p, -⟩, wrapped⟩
    exact ⟨funding, keyset, data, stored, parsed, p, wrapped⟩
  · rintro ⟨funding, keyset, data, stored, parsed, p, wrapped⟩
    exact ⟨funding, stored, keyset, parsed, data, ⟨p, by simp⟩, wrapped⟩

theorem prepareCloseForClosingChannelWithOutputKeyset_eq_ok_iff {host : Host T C}
    {channelId : String} {selected : SelectedOutputKeyset T} {prepared : PreparedClose T} :
    prepareCloseForClosingChannelWithOutputKeyset L host channelId selected = .ok prepared ↔
      host.getChannelState channelId = .ok (some .closing) ∧
      ∃ closing, host.getClosingData channelId = some closing ∧
        prepareCloseForClosingChannelWithKeyset L host channelId closing.balance closing.signature
          selected = .ok prepared := by
  simp only [prepareCloseForClosingChannelWithOutputKeyset, Outcome.bind_eq_ok,
    Outcome.mapErr_eq_ok, Outcome.ofExcept_eq_ok, Outcome.guard_eq_ok, Outcome.ofOption_eq_ok]
  constructor
  · rintro ⟨_, isState, -, rfl, closing, isClosing, prepared⟩
    exact ⟨isState, closing, isClosing, prepared⟩
  · rintro ⟨isState, closing, isClosing, prepared⟩
    exact ⟨_, isState, (), rfl, closing, isClosing, prepared⟩

end Specifications

end Spilman
