/-
# Completing a close

The mint's answer to a prepared close is checked against the close as it was
kept: its parameters are read again, its secrets are derived again and compared,
its outputs are blinded again and compared. Only then are the signatures
unblinded, the receiver's proofs checked to be locked to its keys, and signed.
-/

import Spilman.Bridge.Close
import Spilman.Outputs
import Spilman.SwapCompletion

namespace Spilman

open Lib

variable {T : Carriers} {C : Type} (L : Cashu T)

/-! ## Unblinding the answer -/

/-- A proof with the place of its output in the commitment. -/
structure ProofWithMeta (T : Carriers) where
  proof : Proof T
  amount : Nat
  index : Nat
  isReceiver : Bool
  deriving DecidableEq

/-- The proofs of both parties with their totals. -/
structure UnblindResult (T : Carriers) where
  receiverProofs : List (ProofWithMeta T)
  senderProofs : List (ProofWithMeta T)
  receiverSum : Nat
  senderSum : Nat
  deriving DecidableEq

/-- The output that a secret was blinded to. -/
def preparedOutput (keysetId : T.Id) (entry : DeterministicSecretWithBlinding T × Bool) :
    Outcome BridgeError (PreparedSwapOutput T) := do
  let blindedSecret ←
    (Outcome.ofExcept (L.blindMessage entry.1.secret entry.1.blindingFactor)).mapErr .internal
  return ⟨⟨entry.1.amount, keysetId, blindedSecret⟩, entry.1.secret, entry.1.blindingFactor⟩

/-- Whose output it is. -/
def roleOf (isReceiver : Bool) : Stage2Role := if isReceiver then .receiver else .sender

/-- A proof of the receiver has to be locked to the receiver's key for its output. -/
def checkReceiverLock (params : ChannelParameters T) (proof : Proof T) (amount index : Nat) :
    Outcome BridgeError Unit := do
  let expectedPubkey ←
    (params.getReceiverBlindedPubkeyForStage2Output L amount index).mapErr .internal
  let secretJson ← (Outcome.ofExcept (L.parseSecret proof.secret)).mapErr .internal
  .guard (.validationFailed "Receiver proof locked to wrong pubkey")
    ((secretJson.item? 0).bind Json.asStr = some "P2PK" ∧
      ((secretJson.item? 1).bind (·.get? "data")).bind Json.asStr =
        some (L.publicKeyToHex expectedPubkey))

/-- The lock of a proof, which is checked for the receiver's proofs only. -/
def checkLock (params : ChannelParameters T) (proof : Proof T)
    (entry : DeterministicSecretWithBlinding T × Bool) : Outcome BridgeError Unit :=
  if entry.2 then checkReceiverLock L params proof entry.1.amount entry.1.index else .ok ()

/-- Complete one proof with the ephemeral key of its output. -/
def proofWithMeta (params : ChannelParameters T)
    (pair : Proof T × (DeterministicSecretWithBlinding T × Bool)) :
    Outcome BridgeError (ProofWithMeta T) := do
  let entry := pair.2
  let proof ← (params.attachStage2P2pkE L pair.1 (roleOf entry.2) entry.1.amount
    entry.1.index).mapErr .internal
  checkLock L params proof entry
  return ⟨proof, entry.1.amount, entry.1.index, entry.2⟩

/-- The total of proofs, which wraps. -/
def proofSum (proofs : List (ProofWithMeta T)) : Nat :=
  (proofs.map fun entry => entry.proof.amount).sum % 2 ^ 64

/-- Unblind the answer to a commitment and check what the receiver gets. -/
def unblindAndVerifyStage1SwapResponse (response : SwapResponse T)
    (secretsWithBlinding : List (DeterministicSecretWithBlinding T × Bool))
    (params : ChannelParameters T) (outputKeysetInfo : KeysetInfo T) (balance : Nat) :
    Outcome BridgeError (UnblindResult T) := do
  .guard (.internal "Length mismatch between signatures and secrets")
    (response.signatures.length = secretsWithBlinding.length)
  let expected ← .mapAll (preparedOutput L outputKeysetInfo.keysetId) secretsWithBlinding
  let request : SwapRequest T := {
    inputs := []
    outputs := expected.map PreparedSwapOutput.blindedMessage
    rerandomized := params.commitmentMode = .rerandomized }
  let proofs ← (completeSwapResponse L request expected response outputKeysetInfo).mapErr
    .validationFailed
  let sorted ← .mapAll (proofWithMeta L params) (proofs.zip secretsWithBlinding)
  let receiverProofs := sorted.filter (·.isReceiver)
  let senderProofs := sorted.filter (!·.isReceiver)
  let receiverSum := proofSum receiverProofs
  -- The authorization fixes the nominal split with the fees of the funding keyset.
  let inverse ← (params.keysetInfo.inverseDeterministicValueAfterFees balance
    params.maximumAmountForOneOutput).mapErr .internal
  let expectedNominal := inverse.nominalValue
  .guard (.validationFailed
      s!"Receiver nominal mismatch: expected {expectedNominal}, got {receiverSum}")
    (receiverSum = expectedNominal)
  return { receiverProofs, senderProofs, receiverSum, senderSum := proofSum senderProofs }

/-! ## The prepared close -/

/-- A close whose answer has been verified, before it is recorded. -/
structure CompletedClose (T : Carriers) where
  channelId : String
  expiryTimestamp : Nat
  balance : Nat
  receiverProofsJson : T.Text
  senderProofsJson : T.Text
  receiverSum : Nat
  senderSum : Nat
  deriving DecidableEq

/-- Read back the secret of an output. -/
def secretOfJson (swb : Json) : Outcome String (DeterministicSecretWithBlinding T × Bool) := do
  let secret ← .ofOption "Missing secret" (swb.field "secret").asStr
  let blindingHex ← .ofOption "Missing blinding" (swb.field "blinding_factor").asStr
  let blindingBytes ← .ofOption (L.hexError blindingHex) (Hex.decode blindingHex)
  let blindingFactor ← .ofExcept (L.secretKeyFromSlice blindingBytes)
  let amount ← .ofOption "Missing amount" (swb.field "amount").asU64
  let index ← .ofOption "Missing index" (swb.field "index").asU64
  let isReceiver ← .ofOption "Missing is_receiver" (swb.field "is_receiver").asBool
  return (⟨secret, blindingFactor, amount, index⟩, isReceiver)

/-- Read back all secrets of a prepared close. -/
def readSecrets (secretsWithBlinding : Json) :
    Outcome String (List (DeterministicSecretWithBlinding T × Bool)) := do
  let json ← .ofExcept (L.parse (L.render secretsWithBlinding))
  let items ← .ofOption (L.shapeError json) json.asArray
  .mapAll (secretOfJson L) items

/-- An output of the request has to be the one its secret blinds to. -/
def checkPreparedOutput (keysetId : T.Id)
    (pair : BlindedMessage T × (DeterministicSecretWithBlinding T × Bool)) :
    Outcome CloseError Unit := do
  let secret := pair.2.1
  let blindedSecret ←
    (Outcome.ofExcept (L.blindMessage secret.secret secret.blindingFactor)).mapErr fun _ =>
      .unblinding "Invalid prepared close output"
  .guard (.unblinding "Prepared close outputs do not match secrets")
    (pair.1 = ⟨secret.amount, keysetId, blindedSecret⟩)

/-- Sign a proof of the receiver so that it can be spent. -/
def signReceiverCloseProof (host : Host T C) (params : ChannelParameters T)
    (entry : ProofWithMeta T) : Outcome CloseError (Proof T) := do
  let proof ← (params.attachStage2P2pkE L entry.proof .receiver entry.amount entry.index).mapErr
    fun e => .unblinding s!"Failed to attach stage2 metadata: {e}"
  let tweakInfo ← (params.stage2TweakInfoForRole L .receiver entry.amount entry.index).mapErr
    fun e => .unblinding s!"Failed to derive stage2 tweak: {e}"
  let sig ← (Outcome.ofExcept (host.signWithTweakedKey (L.publicKeyToHex params.receiverPubkey)
    (Hex.encode (L.sha256 (utf8 proof.secret)).val)
    (Hex.encode (L.scalarToBeBytes tweakInfo.stage2TweakScalar).val))).mapErr
      fun e => .unblinding s!"Failed to sign receiver proof: {e}"
  return { proof with witness := some (.p2pk [sig]) }

/-- `serde_json::from_str::<SwapResponse>`. -/
def parseSwapResponse (text : T.Text) : Except String (SwapResponse T) := do
  let json ← L.parse text
  L.swapResponseOfJson json

/-- Complete a prepared close with the mint's answer, without recording it. -/
def completePreparedClose (host : Host T C) (respJson : T.Text) (prep : PreparedClose T) :
    Outcome CloseError (CompletedClose T) := do
  let response ← (Outcome.ofExcept (parseSwapResponse L respJson)).mapErr fun _ =>
    .unblinding "Invalid close swap response"
  let keysetInfo ← (parseKeysetInfoFromJson L prep.keysetInfoJson).mapErr .unblinding
  let outputKeysetInfo ←
    (parseKeysetInfoFromJson L (L.render prep.outputKeysetInfo)).mapErr .unblinding
  let channelSecret ←
    (channelSecretOf L "Invalid channel secret length" prep.channelSecret).mapErr .unblinding
  let params ← (ChannelParameters.fromJsonWithChannelSecret L prep.paramsJson keysetInfo
    channelSecret).mapErr .unblinding
  let secretsWithBlinding ← (readSecrets L prep.secretsWithBlinding).mapErr .unblinding
  .guard (.unblinding "Prepared close binding mismatch")
    (params.getChannelId L = prep.channelId ∧ params.mint = prep.mintUrl ∧
      params.unit = outputKeysetInfo.unit ∧ prep.balance ≤ params.capacity)
  let commitment ← (CommitmentOutputs.forBalance prep.balance params).mapErr fun _ =>
    .unblinding "Invalid close commitment"
  let expectedSecrets ← commitment.secretsWithBlinding L
    (fun _ => .unblinding "Invalid receiver close secrets")
    (fun _ => .unblinding "Invalid sender close secrets")
  .guard (.unblinding "Prepared close secrets do not match commitment")
    (expectedSecrets = secretsWithBlinding)
  let request ← (Outcome.ofExcept (L.swapRequestOfJson prep.swapRequest)).mapErr fun _ =>
    .unblinding "Invalid prepared close request"
  .guard (.unblinding "Prepared close output count mismatch")
    ((request.rerandomized = true ↔ params.commitmentMode = .rerandomized) ∧
      request.outputs.length = secretsWithBlinding.length)
  .forAll (checkPreparedOutput L outputKeysetInfo.keysetId)
    (request.outputs.zip secretsWithBlinding)
  let result ← (unblindAndVerifyStage1SwapResponse L response secretsWithBlinding params
    outputKeysetInfo prep.balance).mapErr fun e => .unblinding e.text
  let signedReceiverProofs ← .mapAll (signReceiverCloseProof L host params) result.receiverProofs
  return {
    channelId := prep.channelId
    expiryTimestamp := closeExpiryTimestamp L prep
    balance := prep.balance
    receiverProofsJson := L.render (L.proofsToJson signedReceiverProofs)
    senderProofsJson := L.render (L.proofsToJson (result.senderProofs.map ProofWithMeta.proof))
    receiverSum := result.receiverSum
    senderSum := result.senderSum }

/-! ## What a completion consists of -/

/-- Everything that is computed when an answer is unblinded. -/
structure Unblinding (response : SwapResponse T)
    (entries : List (DeterministicSecretWithBlinding T × Bool)) (params : ChannelParameters T)
    (outKeyset : KeysetInfo T) (balance : Nat) (result : UnblindResult T) where
  prepared : List (PreparedSwapOutput T)
  proofs : List (Proof T)
  metas : List (ProofWithMeta T)
  search : InverseFeeResult
  count : response.signatures.length = entries.length
  offered : Outcome.mapAll (preparedOutput L outKeyset.keysetId) entries = .ok prepared
  accepted : completeSwapResponse L ⟨[], prepared.map PreparedSwapOutput.blindedMessage,
    params.commitmentMode = .rerandomized⟩ prepared response outKeyset = .ok proofs
  placed : Outcome.mapAll (proofWithMeta L params) (proofs.zip entries) = .ok metas
  found : params.keysetInfo.inverseDeterministicValueAfterFees balance
    params.maximumAmountForOneOutput = .ok search
  nominal : proofSum (metas.filter (·.isReceiver)) = search.nominalValue
  result_eq : result = ⟨metas.filter (·.isReceiver), metas.filter (!·.isReceiver),
    proofSum (metas.filter (·.isReceiver)), proofSum (metas.filter (!·.isReceiver))⟩

/-- The parameters that the texts of a prepared close stand for. -/
def PreparedClose.ReadsParams (prep : PreparedClose T) (params : ChannelParameters T) : Prop :=
  ∃ keysetInfo secret, parseKeysetInfoFromJson L prep.keysetInfoJson = .ok keysetInfo ∧
    Hex.decode prep.channelSecret = some secret.val ∧
    ChannelParameters.fromJsonWithChannelSecret L prep.paramsJson keysetInfo secret = .ok params

/-- Everything that is read, derived and compared when a close is completed. -/
structure Completion (host : Host T C) (respJson : T.Text) (prep : PreparedClose T)
    (completed : CompletedClose T) where
  response : SwapResponse T
  params : ChannelParameters T
  outKeyset : KeysetInfo T
  entries : List (DeterministicSecretWithBlinding T × Bool)
  commitment : CommitmentOutputs T
  request : SwapRequest T
  result : UnblindResult T
  signedProofs : List (Proof T)
  parsed : parseSwapResponse L respJson = .ok response
  readsParams : prep.ReadsParams L params
  keyset_eq : parseKeysetInfoFromJson L (L.render prep.outputKeysetInfo) = .ok outKeyset
  entries_eq : readSecrets L prep.secretsWithBlinding = .ok entries
  identified : params.getChannelId L = prep.channelId
  mint : params.mint = prep.mintUrl
  unit : params.unit = outKeyset.unit
  within : prep.balance ≤ params.capacity
  committed : CommitmentOutputs.forBalance prep.balance params = .ok commitment
  secrets : commitment.secretsWithBlinding L id id = .ok entries
  request_eq : L.swapRequestOfJson prep.swapRequest = .ok request
  mode : request.rerandomized = decide (params.commitmentMode = .rerandomized)
  /-- The outputs of the request are those the secrets blind to, in order. -/
  offers : List.Forall₂ (fun entry message => Offers L outKeyset.keysetId entry.1 message)
    entries request.outputs
  unblinded : unblindAndVerifyStage1SwapResponse L response entries params outKeyset
    prep.balance = .ok result
  signed : Outcome.mapAll (signReceiverCloseProof L host params) result.receiverProofs =
    .ok signedProofs
  completed_eq : completed = {
    channelId := prep.channelId
    expiryTimestamp := closeExpiryTimestamp L prep
    balance := prep.balance
    receiverProofsJson := L.render (L.proofsToJson signedProofs)
    senderProofsJson := L.render (L.proofsToJson (result.senderProofs.map ProofWithMeta.proof))
    receiverSum := result.receiverSum
    senderSum := result.senderSum }

section Specifications

variable {L}

theorem unblind_eq_ok_iff {response : SwapResponse T}
    {entries : List (DeterministicSecretWithBlinding T × Bool)} {params : ChannelParameters T}
    {outKeyset : KeysetInfo T} {balance : Nat} {result : UnblindResult T} :
    unblindAndVerifyStage1SwapResponse L response entries params outKeyset balance = .ok result ↔
      Nonempty (Unblinding L response entries params outKeyset balance result) := by
  simp only [unblindAndVerifyStage1SwapResponse, Outcome.bind_eq_ok, Outcome.guard_eq_ok,
    Outcome.mapErr_eq_ok, Outcome.pure_eq, Outcome.ok.injEq]
  constructor
  · rintro ⟨-, count, prepared, offered, proofs, accepted, metas, placed, search, found, -,
      nominal, rfl⟩
    exact ⟨⟨prepared, proofs, metas, search, count, offered, accepted, placed, found, nominal,
      rfl⟩⟩
  · rintro ⟨u⟩
    exact ⟨(), u.count, u.prepared, u.offered, u.proofs, u.accepted, u.metas, u.placed, u.search,
      u.found, (), u.nominal, u.result_eq.symm⟩

theorem checkPreparedOutput_eq_ok_iff {keysetId : T.Id}
    {pair : BlindedMessage T × (DeterministicSecretWithBlinding T × Bool)} {done : Unit} :
    checkPreparedOutput L keysetId pair = .ok done ↔ Offers L keysetId pair.2.1 pair.1 := by
  simp only [checkPreparedOutput, Outcome.bind_eq_ok, Outcome.mapErr_eq_ok, Outcome.ofExcept_eq_ok,
    Outcome.guard_eq_ok]
  constructor
  · rintro ⟨point, blinds, same⟩
    rw [same]
    exact ⟨blinds, rfl, rfl⟩
  · rintro ⟨blinds, amount, keyset⟩
    exact ⟨_, blinds, by rw [← amount, ← keyset]⟩

/-- The outputs pass the comparison exactly when they are those of the secrets. -/
theorem checkPreparedOutputs_eq_ok_iff {keysetId : T.Id} {outputs : List (BlindedMessage T)}
    {entries : List (DeterministicSecretWithBlinding T × Bool)} {done : Unit} :
    outputs.length = entries.length ∧
        Outcome.forAll (checkPreparedOutput L keysetId) (outputs.zip entries) = .ok done ↔
      List.Forall₂ (fun entry message => Offers L keysetId entry.1 message) entries outputs := by
  have flipped : List.Forall₂ (fun entry message => Offers L keysetId entry.1 message)
      entries outputs ↔
      List.Forall₂ (fun message (entry : DeterministicSecretWithBlinding T × Bool) =>
        Offers L keysetId entry.1 message) outputs entries := ⟨.flip, .flip⟩
  rw [flipped, List.forall₂_iff_zip, Outcome.forAll_eq_ok]
  refine and_congr_right fun _ => ⟨fun each message entry member => ?_, fun each pair member => ?_⟩
  · exact checkPreparedOutput_eq_ok_iff.mp (each (message, entry) member)
  · exact checkPreparedOutput_eq_ok_iff.mpr (each member)

/-- **A close is completed exactly when** all its parts can be read and agree, and the
answer can be unblinded and signed. -/
theorem completePreparedClose_eq_ok_iff {host : Host T C} {respJson : T.Text}
    {prep : PreparedClose T} {completed : CompletedClose T} :
    completePreparedClose L host respJson prep = .ok completed ↔
      Nonempty (Completion L host respJson prep completed) := by
  simp only [completePreparedClose, Outcome.bind_eq_ok, Outcome.mapErr_eq_ok,
    Outcome.ofExcept_eq_ok, Outcome.guard_eq_ok, channelSecretOf_eq_ok_iff, Outcome.pure_eq,
    Outcome.ok.injEq]
  constructor
  · rintro ⟨response, parsed, keysetInfo, isKeyset, outKeyset, isOutKeyset, secret, decoded, params,
      isParams, entries, read, -, ⟨identified, mint, unit, within⟩, commitment, committed, _,
      derived, -, rfl, request, isRequest, -, ⟨mode, count⟩, _, checked, result, unblinded, signed,
      signedAll, rfl⟩
    exact ⟨{
      response, params, outKeyset, commitment, request, result, parsed, identified, mint, unit,
      within, committed, unblinded
      signedProofs := signed
      entries := _
      readsParams := ⟨keysetInfo, secret, isKeyset, decoded, isParams⟩
      keyset_eq := isOutKeyset
      entries_eq := read
      secrets := secretsWithBlinding_errors id id derived
      request_eq := isRequest
      mode := by rw [Bool.eq_iff_iff, mode, decide_eq_true_iff]
      offers := checkPreparedOutputs_eq_ok_iff.mp ⟨count, checked⟩
      signed := signedAll
      completed_eq := rfl }⟩
  · rintro ⟨c⟩
    obtain ⟨keysetInfo, secret, isKeyset, decoded, isParams⟩ := c.readsParams
    have mode : c.request.rerandomized = true ↔ c.params.commitmentMode = .rerandomized := by
      rw [c.mode, decide_eq_true_iff]
    obtain ⟨count, checked⟩ := checkPreparedOutputs_eq_ok_iff.mpr c.offers
    exact ⟨c.response, c.parsed, keysetInfo, isKeyset, c.outKeyset, c.keyset_eq, secret, decoded,
      c.params, isParams, c.entries, c.entries_eq, (), ⟨c.identified, c.mint, c.unit, c.within⟩,
      c.commitment, c.committed, c.entries, secretsWithBlinding_errors _ _ c.secrets, (), rfl,
      c.request, c.request_eq, (), ⟨mode, count⟩, (), checked, c.result, c.unblinded,
      c.signedProofs, c.signed, c.completed_eq.symm⟩

theorem PreparedClose.ReadsParams.unique {prep : PreparedClose T}
    {params params' : ChannelParameters T} (reads : prep.ReadsParams L params)
    (reads' : prep.ReadsParams L params') : params = params' := by
  obtain ⟨keysetInfo, secret, isKeyset, decoded, isParams⟩ := reads
  obtain ⟨keysetInfo', secret', isKeyset', decoded', isParams'⟩ := reads'
  obtain rfl := Outcome.ok.inj (isKeyset.symm.trans isKeyset')
  obtain rfl := Subtype.ext (Option.some.inj (decoded.symm.trans decoded'))
  exact Outcome.ok.inj (isParams.symm.trans isParams')

/-- The texts of stored funding stand for the same parameters in a prepared close. -/
theorem PreparedClose.readsParams_iff {prep : PreparedClose T} {funding : ChannelFunding T}
    (paramsText : prep.paramsJson = funding.paramsJson)
    (keysetText : prep.keysetInfoJson = funding.keysetInfoJson)
    (secretText : prep.channelSecret = funding.channelSecretHex) {params : ChannelParameters T} :
    prep.ReadsParams L params ↔ storedParams L funding = .ok params := by
  simp only [PreparedClose.ReadsParams, storedParams, Outcome.bind_eq_ok,
    channelSecretOf_eq_ok_iff, paramsText, keysetText, secretText]
  constructor
  · rintro ⟨keysetInfo, secret, isKeyset, decoded, isParams⟩
    exact ⟨secret, decoded, keysetInfo, isKeyset, isParams⟩
  · rintro ⟨secret, decoded, keysetInfo, isKeyset, isParams⟩
    exact ⟨keysetInfo, secret, isKeyset, decoded, isParams⟩

end Specifications

end Spilman
