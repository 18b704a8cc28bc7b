/-
# Opening a channel

The client's way from ecash it owns to a funded channel. It sizes the channel to the
proofs it has, prepares a swap of them for the channel's deterministic funding outputs
and plain change, and turns the mint's answer into funding proofs. Everything that is
kept between these steps is text; the secrets of the outputs are written when the swap
is prepared and read when its answer arrives.
-/

import Spilman.Bridge.Complete
import Spilman.Client.Host

namespace Spilman

open Lib

variable {T : Carriers}

/-! ## The wallet library -/

/-- A keyset as the mint lists it. -/
structure KeySetSummary (T : Carriers) where
  id : T.Id
  unit : T.CurrencyUnit
  active : Bool
  inputFeePpk : Nat
  finalExpiry : Option Nat

/-- A token that was read. Its proofs may name their keysets by short identifiers, so
the keysets are needed to list them. -/
structure Token (T : Carriers) where
  mintUrl : Except String String
  unit : Option T.CurrencyUnit
  proofs : List (KeySetSummary T) → Except String (List (Proof T))

/-- An output with a random secret, and what is needed to unblind it. -/
structure PreMint (T : Carriers) where
  blindedMessage : BlindedMessage T
  secret : String
  r : T.SecretKey
  amount : Nat

/-- Operations of the ecash library that only a wallet needs. -/
structure WalletOps (T : Carriers) where
  parseToken : T.Text → Except String (Token T)
  sat : T.CurrencyUnit
  customUnit : String → T.CurrencyUnit
  keysetsOfJson : Json → Except String (List (KeySetSummary T))
  /-- `PreMintSecrets::random`: keyset, amount, values to split it into, and the fee and
  denominations of the keyset. -/
  preMintRandom : T.Id → Nat → List Nat → Nat → List Nat → Except String (List (PreMint T))

/-- Random outputs are of the keyset and the values that were asked for, and blinded as
every output is. -/
def WalletOps.Mints (W : WalletOps T) (L : Cashu T) : Prop :=
  ∀ keysetId amount values fee denominations secrets,
    W.preMintRandom keysetId amount values fee denominations = .ok secrets →
    values.sum = amount →
    (secrets.map PreMint.amount).Perm values ∧
    ∀ secret ∈ secrets, secret.blindedMessage.amount = secret.amount ∧
      secret.blindedMessage.keysetId = keysetId ∧
      L.blindMessage secret.secret secret.r = .ok secret.blindedMessage.blindedSecret

variable (L : Cashu T) (W : WalletOps T)

/-! ## Sizing the channel -/

/-- What the inputs of a swap are worth. -/
structure MixedInputFeeResult where
  inputValue : Nat
  inputFee : Nat
  postSwapValue : Nat

/-- Add up the amounts and the fee rates of proofs, without wrapping. A keyset that is
listed twice has the rate that is listed last. -/
def addInputs (inputKeysets : List (KeySetSummary T)) :
    List (Proof T) → (inputValue inputFeePpkSum : Nat) → Outcome String (Nat × Nat)
  | [], inputValue, inputFeePpkSum => .ok (inputValue, inputFeePpkSum)
  | proof :: rest, inputValue, inputFeePpkSum => do
      .guard "input proof value overflow" (inputValue + proof.amount < 2 ^ 64)
      let keyset ← .ofOption ("missing input keyset fee metadata for proof keyset " ++
        L.idToString proof.keysetId) (inputKeysets.reverse.find? (·.id = proof.keysetId))
      .guard "input fee ppk overflow" (inputFeePpkSum + keyset.inputFeePpk < 2 ^ 64)
      addInputs inputKeysets rest (inputValue + proof.amount) (inputFeePpkSum + keyset.inputFeePpk)

def computePostSwapValueFromInputKeysets (proofs : List (Proof T))
    (inputKeysets : List (KeySetSummary T)) : Outcome String MixedInputFeeResult := do
  let (inputValue, inputFeePpkSum) ← addInputs L inputKeysets proofs 0 0
  let inputFee := Greedy.divCeil inputFeePpkSum 1000
  return { inputValue, inputFee, postSwapValue := inputValue - inputFee }

/-- What the caller of an opening asks for, apart from the money. -/
structure OpeningTerms where
  receiverPubkeyHex : String
  senderPubkeyHex : String
  expiryTimestamp : Nat
  maxAmount : Nat
  commitmentMode : CommitmentMode
  requestedCapacity : Option Nat
  requestedFundingTokenAmount : Option Nat

/-- A channel that fits its inputs. -/
structure ChannelComputeResult (T : Carriers) where
  capacity : Nat
  fundingTokenAmount : Nat
  inputValue : Nat
  inputFee : Nat
  postSwapValue : Nat
  changeAmountRaw : Nat
  mintUrl : String
  unit : String
  outputKeysetId : String
  receiverPubkeyHex : String
  paramsJson : T.Text
  proofsJson : T.Text

/-- Size a channel to what a swap of proofs leaves. The channel gets all of it and the
largest capacity, unless less is asked for. -/
def computeChannelFromProofsInner (terms : OpeningTerms) (proofs : List (Proof T))
    (input : MixedInputFeeResult) (mintUrl : String) (unit : T.CurrencyUnit)
    (channelSecretHex : String) (keysetInfo : KeysetInfo T) (unixTime : Nat) :
    Outcome String (ChannelComputeResult T) := do
  .guard ("output keyset unit mismatch: expected " ++ L.unitToString unit ++ ", got " ++
    L.unitToString keysetInfo.unit) (keysetInfo.unit = unit)
  let fundingTokenAmount := terms.requestedFundingTokenAmount.getD input.postSwapValue
  .guard (s!"requested funding token amount {fundingTokenAmount} " ++
    "exceeds selected post-swap value " ++ toString input.postSwapValue)
    (fundingTokenAmount ≤ input.postSwapValue)
  let v2 ← (keysetInfo.deterministicValueAfterFees fundingTokenAmount terms.maxAmount).mapErr
    fun e => s!"Failed to compute v2: {e}"
  let maxCapacity ← (keysetInfo.deterministicValueAfterFees v2 terms.maxAmount).mapErr
    fun e => s!"Failed to compute capacity: {e}"
  let capacity := terms.requestedCapacity.getD maxCapacity
  .guard (s!"requested capacity {capacity} exceeds maximum achievable capacity {maxCapacity} " ++
    s!"for funding_token_amount {fundingTokenAmount}") (capacity ≤ maxCapacity)
  let senderPubkey ← (Outcome.ofExcept (L.publicKeyFromHex terms.senderPubkeyHex)).mapErr
    fun e => s!"Invalid sender pubkey: {e}"
  let receiverPubkey ← (Outcome.ofExcept (L.publicKeyFromHex terms.receiverPubkeyHex)).mapErr
    fun e => s!"Invalid receiver pubkey: {e}"
  let channelSecret ← .ofExcept
    (decode32 L "Invalid channel secret hex" "Channel secret" channelSecretHex)
  let params ← (ChannelParameters.new senderPubkey receiverPubkey mintUrl unit capacity
    fundingTokenAmount terms.expiryTimestamp unixTime keysetInfo terms.maxAmount
    channelSecret).mapErr fun e => s!"Failed to create channel params: {e}"
  return {
    capacity, fundingTokenAmount
    inputValue := input.inputValue
    inputFee := input.inputFee
    postSwapValue := input.postSwapValue
    changeAmountRaw := input.postSwapValue - fundingTokenAmount
    mintUrl
    unit := L.unitToString unit
    outputKeysetId := L.idToString keysetInfo.keysetId
    receiverPubkeyHex := L.publicKeyToHex receiverPubkey
    paramsJson := (params.withCommitmentMode terms.commitmentMode).getChannelIdParamsJson L
    proofsJson := L.render (L.proofsToJson proofs) }

/-- `serde_json::from_str` of a list of keysets. -/
def parseKeysets (text : T.Text) : Outcome String (List (KeySetSummary T)) :=
  (Outcome.ofExcept (L.parse text >>= W.keysetsOfJson)).mapErr fun e =>
    s!"Failed to parse input keysets: {e}"

/-- A channel from a token whose proofs are of the output keyset. -/
def computeChannelFromTokenWithMode (terms : OpeningTerms) (tokenString : T.Text)
    (channelSecretHex : String) (keysetInfoJson : T.Text) (unixTime : Nat) :
    Outcome String (ChannelComputeResult T) := do
  let token ← (Outcome.ofExcept (W.parseToken tokenString)).mapErr fun e =>
    s!"Failed to parse token: {e}"
  let mintUrl ← (Outcome.ofExcept token.mintUrl).mapErr fun e => s!"Failed to get mint URL: {e}"
  let unit := token.unit.getD W.sat
  let keysetInfo ← parseKeysetInfoFromJson L keysetInfoJson
  let summary (finalExpiry : Option Nat) : KeySetSummary T :=
    ⟨keysetInfo.keysetId, unit, true, keysetInfo.inputFeePpk, finalExpiry⟩
  let proofs ← (Outcome.ofExcept (token.proofs [summary none])).mapErr fun e =>
    s!"Failed to parse proofs: {e}"
  let input ← computePostSwapValueFromInputKeysets L proofs [summary keysetInfo.finalExpiry]
  computeChannelFromProofsInner L { terms with requestedFundingTokenAmount := none } proofs input
    mintUrl unit channelSecretHex keysetInfo unixTime

/-- A channel from a token whose proofs may be of several keysets. -/
def computeChannelFromTokenWithInputKeysetsAndMode (terms : OpeningTerms) (tokenString : T.Text)
    (channelSecretHex : String) (keysetInfoJson inputKeysetsJson : T.Text) (unixTime : Nat) :
    Outcome String (ChannelComputeResult T) := do
  let token ← (Outcome.ofExcept (W.parseToken tokenString)).mapErr fun e =>
    s!"Failed to parse token: {e}"
  let mintUrl ← (Outcome.ofExcept token.mintUrl).mapErr fun e => s!"Failed to get mint URL: {e}"
  let unit := token.unit.getD W.sat
  let keysetInfo ← parseKeysetInfoFromJson L keysetInfoJson
  let inputKeysets ← parseKeysets L W inputKeysetsJson
  let proofs ← (Outcome.ofExcept (token.proofs inputKeysets)).mapErr fun e =>
    s!"Failed to parse proofs: {e}"
  let input ← computePostSwapValueFromInputKeysets L proofs inputKeysets
  computeChannelFromProofsInner L { terms with requestedFundingTokenAmount := none } proofs input
    mintUrl unit channelSecretHex keysetInfo unixTime

/-- A channel from proofs. -/
def computeChannelFromProofsWithMode (terms : OpeningTerms) (mintUrl unit : String)
    (inputProofsJson inputKeysetsJson : T.Text) (channelSecretHex : String)
    (outputKeysetInfoJson : T.Text) (unixTime : Nat) :
    Outcome String (ChannelComputeResult T) := do
  let proofs ← (parseProofs L inputProofsJson).mapErr fun e =>
    s!"Failed to parse input proofs: {e}"
  let unit :=
    match L.unitFromStr unit with
    | .ok unit => unit
    | .error _ => W.customUnit unit
  let inputKeysets ← parseKeysets L W inputKeysetsJson
  let input ← computePostSwapValueFromInputKeysets L proofs inputKeysets
  let keysetInfo ← parseKeysetInfoFromJson L outputKeysetInfoJson
  computeChannelFromProofsInner L terms proofs input mintUrl unit channelSecretHex keysetInfo
    unixTime

/-! ## The funding swap -/

/-- The funding outputs of a channel, from its texts. -/
def reconstructFundingOutputs (paramsJson : T.Text) (channelSecretHex : String)
    (keysetInfoJson : T.Text) : Outcome String (DeterministicOutputsForOneContext T) := do
  let keysetInfo ← parseKeysetInfoFromJson L keysetInfoJson
  let channelSecret ← .ofExcept
    (decode32 L "Invalid channel secret hex" "Channel secret" channelSecretHex)
  let params ← (ChannelParameters.fromJsonWithChannelSecret L paramsJson keysetInfo
    channelSecret).mapErr fun e => s!"Failed to create ChannelParameters: {e}"
  (DeterministicOutputsForOneContext.new "funding" params.fundingTokenAmount params).mapErr
    fun e => s!"Failed to create funding outputs: {e}"

/-- Outputs for what the channel does not need. -/
def plainChangeOutputs (changeAmountRaw : Nat) (keysetInfo : KeysetInfo T) :
    Outcome String (List (PreMint T)) :=
  if changeAmountRaw = 0 then .ok []
  else do
    let amounts ← (OrderedListOfAmounts.fromTarget changeAmountRaw 0 keysetInfo).mapErr fun e =>
      s!"Failed to split change outputs: {e}"
    (Outcome.ofExcept (W.preMintRandom keysetInfo.keysetId changeAmountRaw amounts.amounts
      keysetInfo.inputFeePpk keysetInfo.amountsLargestFirst.reverse)).mapErr fun e =>
        s!"Failed to create change outputs: {e}"

/-- The secrets of an output, as they are kept. -/
def openingSecretToJson (secret : String) (blindingFactor : T.SecretKey) (amount : Nat) : Json :=
  .obj [
    ("secret", .str secret),
    ("blinding_factor", .str (secretToHex L blindingFactor)),
    ("amount", .num amount)]

/-- A swap of inputs for funding outputs and change. -/
structure FundingSwapResult (T : Carriers) where
  swapRequestJson : T.Text
  fundingSecretsJson : T.Text
  fundingCount : Nat
  changeSecretsJson : T.Text
  changeCount : Nat
  changeAmountRaw : Nat

def createFundingSwapWithPlainChange (paramsJson : T.Text) (channelSecretHex : String)
    (keysetInfoJson inputProofsJson : T.Text) (changeAmountRaw : Nat) :
    Outcome String (FundingSwapResult T) := do
  let fundingOutputs ← reconstructFundingOutputs L paramsJson channelSecretHex keysetInfoJson
  let keysetInfo ← parseKeysetInfoFromJson L keysetInfoJson
  let inputProofs ← (parseProofs L inputProofsJson).mapErr fun e =>
    s!"Failed to parse input proofs: {e}"
  let fundingBlindedMessages ← (fundingOutputs.getBlindedMessages L none).mapErr fun e =>
    s!"Failed to get funding blinded messages: {e}"
  let fundingSecrets ← (fundingOutputs.getSecretsWithBlinding L).mapErr fun e =>
    s!"Failed to get funding secrets: {e}"
  let changeSecrets ← plainChangeOutputs W changeAmountRaw keysetInfo
  let swapRequest : SwapRequest T := {
    inputs := inputProofs
    outputs := fundingBlindedMessages ++ changeSecrets.map PreMint.blindedMessage
    rerandomized := false }
  return {
    swapRequestJson := L.render (L.swapRequestToJson swapRequest)
    fundingSecretsJson := L.render (.arr (fundingSecrets.map fun secret =>
      openingSecretToJson L secret.secret secret.blindingFactor secret.amount))
    fundingCount := fundingSecrets.length
    changeSecretsJson := L.render (.arr (changeSecrets.map fun secret =>
      openingSecretToJson L secret.secret secret.r secret.amount))
    changeCount := changeSecrets.length
    changeAmountRaw }

/-- The identifier of a channel, from its texts. -/
def channelParametersGetChannelId (paramsJson : T.Text) (channelSecretHex : String)
    (keysetInfoJson : T.Text) : Outcome String String := do
  let channelSecret ← .ofExcept
    (decode32 L "Invalid channel secret hex" "Shared secret" channelSecretHex)
  let keysetInfo ← parseKeysetInfoFromJson L keysetInfoJson
  let params ← (ChannelParameters.fromJsonWithChannelSecret L paramsJson keysetInfo
    channelSecret).mapErr fun e => s!"Failed to parse params: {e}"
  return params.getChannelId L

/-- How far an opening got. -/
inductive OpenChannelFailureStage
  | beforeOpeningSaved
  | mintRejected
  | swapSubmitted
  | fundingProofsReceived
  | restoreVerification
  | markOpen
  deriving DecidableEq, Repr

/-- Why an opening failed, with the mint's error if there was one. -/
structure OpenChannelError where
  stage : OpenChannelFailureStage
  channelId : Option String
  inputMayBeSpent : Bool
  message : String
  mintError : Option MintRequestError
  deriving DecidableEq, Repr

/-- Once a swap was submitted, the inputs may be spent. -/
def OpenChannelError.new (stage : OpenChannelFailureStage) (channelId : Option String)
    (message : String) : OpenChannelError where
  stage := stage
  channelId := channelId
  inputMayBeSpent :=
    match stage with
    | .beforeOpeningSaved | .mintRejected => false
    | .swapSubmitted | .fundingProofsReceived | .restoreVerification | .markOpen => true
  message := message
  mintError := none

/-- An opening that can be submitted to the mint. -/
structure PreparedOpenChannel (T : Carriers) where
  channelId : String
  mintUrl : String
  swapRequestJson : T.Text
  opening : ClientChannelOpeningFromSwap T
  fundingSecretsJson : T.Text
  changeSecretsJson : T.Text
  keysetId : String

/-- Prepare the opening of a sized channel. -/
def ClientHost.prepareOpenChannelFromComputeResult (host : ClientHost T)
    (result : ChannelComputeResult T) (channelSecretHex : String) (keysetInfoJson inputToken : T.Text)
    (senderPubkeyHex : String) : Outcome OpenChannelError (PreparedOpenChannel T) := do
  let swapResult ← (createFundingSwapWithPlainChange L W result.paramsJson channelSecretHex
    keysetInfoJson result.proofsJson result.changeAmountRaw).mapErr (.new .beforeOpeningSaved none)
  let channelId ← (channelParametersGetChannelId L result.paramsJson channelSecretHex
    keysetInfoJson).mapErr (.new .beforeOpeningSaved none)
  return {
    channelId
    mintUrl := result.mintUrl
    swapRequestJson := swapResult.swapRequestJson
    opening := {
      paramsJson := result.paramsJson
      channelSecretHex, keysetInfoJson, senderPubkeyHex
      receiverPubkeyHex := result.receiverPubkeyHex
      capacity := result.capacity
      fundingTokenAmount := result.fundingTokenAmount
      mintUrl := result.mintUrl
      unit := result.unit
      inputToken
      changeSecretsJson := swapResult.changeSecretsJson
      changeAmountRaw := result.changeAmountRaw
      createdAt := host.nowSeconds }
    fundingSecretsJson := swapResult.fundingSecretsJson
    changeSecretsJson := swapResult.changeSecretsJson
    keysetId := result.outputKeysetId }

/-- Where the money for a channel comes from. -/
inductive FundingSource (T : Carriers)
  /-- `prepare_open_channel_from_token`. -/
  | token (tokenString : T.Text)
  /-- `open_channel_from_token_with_input_keysets`, up to the submission. -/
  | tokenWithKeysets (tokenString inputKeysetsJson : T.Text)
  /-- `prepare_open_channel_from_proofs_with_input_keysets`. -/
  | proofs (mintUrl unit : String) (inputProofsJson inputKeysetsJson : T.Text)

/-- The serialized input. -/
def FundingSource.input : FundingSource T → T.Text
  | token tokenString => tokenString
  | tokenWithKeysets tokenString _ => tokenString
  | proofs _ _ inputProofsJson _ => inputProofsJson

/-- Size a channel to its source. A channel from a token has the largest capacity. -/
def FundingSource.computeChannel (source : FundingSource T) (terms : OpeningTerms)
    (channelSecretHex : String) (keysetInfoJson : T.Text) (unixTime : Nat) :
    Outcome String (ChannelComputeResult T) :=
  match source with
  | token tokenString =>
      computeChannelFromTokenWithMode L W { terms with requestedCapacity := none } tokenString
        channelSecretHex keysetInfoJson unixTime
  | tokenWithKeysets tokenString inputKeysetsJson =>
      computeChannelFromTokenWithInputKeysetsAndMode L W { terms with requestedCapacity := none }
        tokenString channelSecretHex keysetInfoJson inputKeysetsJson unixTime
  | proofs mintUrl unit inputProofsJson inputKeysetsJson =>
      computeChannelFromProofsWithMode L W terms mintUrl unit inputProofsJson inputKeysetsJson
        channelSecretHex keysetInfoJson unixTime

/-- Prepare the opening of a channel. -/
def ClientHost.prepareOpenChannel (host : ClientHost T) (source : FundingSource T)
    (terms : OpeningTerms) (keysetInfoJson : T.Text) (unixTime : Nat) :
    Outcome OpenChannelError (PreparedOpenChannel T) := do
  let channelSecretHex ← (Outcome.ofExcept
    (host.computeChannelSecret terms.senderPubkeyHex terms.receiverPubkeyHex)).mapErr
      (.new .beforeOpeningSaved none)
  let result ← (source.computeChannel L W terms channelSecretHex keysetInfoJson unixTime).mapErr
    (.new .beforeOpeningSaved none)
  host.prepareOpenChannelFromComputeResult L W result channelSecretHex keysetInfoJson source.input
    terms.senderPubkeyHex

/-! ## The mint's answer -/

/-- An output from its kept secrets. -/
def parsePreparedOutput (keysetInfo : KeysetInfo T) (role : String) (entry : Json × Nat) :
    Outcome String (PreparedSwapOutput T) := do
  let value := entry.1
  let index := entry.2
  let secret ← .ofOption s!"Missing 'secret' in {role} secret {index}" (value.field "secret").asStr
  let blindingFactorHex ← .ofOption s!"Missing 'blinding_factor' in {role} secret {index}"
    (value.field "blinding_factor").asStr
  let amount ← .ofOption s!"Missing 'amount' in {role} secret {index}" (value.field "amount").asU64
  .guard s!"No denomination key for {role} output {index} amount {amount}"
    (keysetInfo.activeKeys.amountKey amount).isSome
  let blindingFactor ← (Outcome.ofExcept (secretKeyFromHex L blindingFactorHex)).mapErr fun e =>
    s!"Invalid {role} blinding factor {index}: {e}"
  let blindedSecret ← (Outcome.ofExcept (L.blindMessage secret blindingFactor)).mapErr fun e =>
    s!"Failed to blind {role} secret {index}: {e}"
  return ⟨⟨amount, keysetInfo.keysetId, blindedSecret⟩, secret, blindingFactor⟩

def parsePreparedOutputs (secretsJson : T.Text) (keysetInfo : KeysetInfo T) (role : String) :
    Outcome String (List (PreparedSwapOutput T)) := do
  let json ← (Outcome.ofExcept (L.parse secretsJson)).mapErr fun e =>
    s!"Failed to parse {role} secrets: {e}"
  match json with
  | .arr values => .mapAll (parsePreparedOutput L keysetInfo role) values.zipIdx
  | _ => .err (s!"Failed to parse {role} secrets: " ++ L.shapeError json)

/-- The proofs of a completed funding swap. -/
structure FundingProofs (T : Carriers) where
  fundingProofsJson : T.Text
  changeProofsJson : T.Text

/-- Unblind the signatures on funding and change together, and tell them apart by their
places. -/
def completeExactOpeningSignatures (signatures : List (BlindSignature T))
    (fundingSecretsJson changeSecretsJson : T.Text) (keysetInfo : KeysetInfo T)
    (exactOutputs : Option (List (BlindedMessage T))) : Outcome String (FundingProofs T) := do
  let funding ← parsePreparedOutputs L fundingSecretsJson keysetInfo "funding"
  let change ← parsePreparedOutputs L changeSecretsJson keysetInfo "change"
  let proofs ← completeExactSignatures L signatures (funding ++ change) keysetInfo exactOutputs
  return {
    fundingProofsJson := L.render (L.proofsToJson (proofs.take funding.length))
    changeProofsJson := L.render (L.proofsToJson (proofs.drop funding.length)) }

def completeFundingSwapForOutputs (swapResponseJson fundingSecretsJson changeSecretsJson
    keysetInfoJson : T.Text) (expectedOutputs : List (BlindedMessage T)) :
    Outcome String (FundingProofs T) := do
  let keysetInfo ← parseKeysetInfoFromJson L keysetInfoJson
  let response ← (Outcome.ofExcept (parseSwapResponse L swapResponseJson)).mapErr fun e =>
    s!"Failed to parse swap response: {e}"
  completeExactOpeningSignatures L response.signatures fundingSecretsJson changeSecretsJson
    keysetInfo (some expectedOutputs)

/-- What is shown of an opened channel. -/
structure OpenChannelResult (T : Carriers) where
  channelId : String
  capacity : Nat
  fundingTokenAmount : Nat
  mintUrl : String
  unit : String
  keysetId : String
  senderPubkeyHex : String
  receiverPubkeyHex : String
  changeProofsJson : T.Text

/-- An opening whose funding proofs have arrived. -/
structure CompletedOpenChannel (T : Carriers) where
  channelId : String
  fundingProofsJson : T.Text
  changeProofsJson : T.Text
  result : OpenChannelResult T

/-- Complete an opening with the mint's answer, without recording it. -/
def completePreparedOpenChannel (prepared : PreparedOpenChannel T) (swapResponseJson : T.Text) :
    Outcome OpenChannelError (CompletedOpenChannel T) := do
  let failed := OpenChannelError.new .swapSubmitted (some prepared.channelId)
  let swapRequest ← (Outcome.ofExcept (L.parse prepared.swapRequestJson >>=
    L.swapRequestOfJson)).mapErr fun e => failed s!"Failed to parse prepared swap request: {e}"
  let proofs ← (completeFundingSwapForOutputs L swapResponseJson prepared.fundingSecretsJson
    prepared.changeSecretsJson prepared.opening.keysetInfoJson swapRequest.outputs).mapErr failed
  return {
    channelId := prepared.channelId
    fundingProofsJson := proofs.fundingProofsJson
    changeProofsJson := proofs.changeProofsJson
    result := {
      channelId := prepared.channelId
      capacity := prepared.opening.capacity
      fundingTokenAmount := prepared.opening.fundingTokenAmount
      mintUrl := prepared.mintUrl
      unit := prepared.opening.unit
      keysetId := prepared.keysetId
      senderPubkeyHex := prepared.opening.senderPubkeyHex
      receiverPubkeyHex := prepared.opening.receiverPubkeyHex
      changeProofsJson := proofs.changeProofsJson } }

end Spilman
