/-
# What the client opens, the receiver accepts

The funding outputs of a channel are built twice: by the client, who offers them to
the mint and unblinds the answer, and by the receiver, who expects them of the channel.
Both derive them from the parameters and the secret of the channel. The receiver reads
the parameters from the text the client has written and agrees on the secret with its
own key, so both have the same ones.

The client sends funding and change to the mint in one swap. Its answer is matched to
the outputs by place, so the first proofs are those of the channel.
-/

import Spilman.SampleChannel
import Spilman.Bridge.Payout
import Spilman.Client.Opening
import Spilman.Client.Payment

namespace Spilman

open Lib

variable {T : Carriers} {L : Cashu T} {W : WalletOps T}

/-! ## What is prepared -/

theorem addInputs_lt {inputKeysets : List (KeySetSummary T)} {proofs : List (Proof T)}
    {value ppk : Nat} {result : Nat × Nat} (fits : value < 2 ^ 64)
    (added : addInputs L inputKeysets proofs value ppk = .ok result) : result.1 < 2 ^ 64 := by
  induction proofs generalizing value ppk with
  | nil =>
      obtain rfl := Outcome.ok.inj added
      exact fits
  | cons proof rest ih =>
      simp only [addInputs, Outcome.bind_eq_ok, Outcome.guard_eq_ok] at added
      obtain ⟨-, small, keyset, -, -, -, added⟩ := added
      exact ih small added

/-- A swap leaves no more than its inputs are worth. -/
theorem postSwapValue_lt {proofs : List (Proof T)} {inputKeysets : List (KeySetSummary T)}
    {input : MixedInputFeeResult}
    (computed : computePostSwapValueFromInputKeysets L proofs inputKeysets = .ok input) :
    input.postSwapValue < 2 ^ 64 := by
  simp only [computePostSwapValueFromInputKeysets, Outcome.bind_eq_ok, Outcome.pure_eq,
    Outcome.ok.injEq] at computed
  obtain ⟨sums, added, rfl⟩ := computed
  exact (Nat.sub_le _ _).trans_lt (addInputs_lt (by decide) added)

/-- A channel that was sized: its parameters, and where they come from. -/
structure Sizing (L : Cashu T) (terms : OpeningTerms) (channelSecretHex : String)
    (keysetInfo : KeysetInfo T) (unixTime : Nat) (result : ChannelComputeResult T) where
  sender : T.PublicKey
  receiver : T.PublicKey
  secret : Bytes 32
  mintUrl : String
  unit : T.CurrencyUnit
  params : ChannelParameters T
  sender_eq : L.publicKeyFromHex terms.senderPubkeyHex = .ok sender
  receiver_eq : L.publicKeyFromHex terms.receiverPubkeyHex = .ok receiver
  secret_eq : Hex.decode channelSecretHex = some secret.val
  accepted : ChannelParameters.new sender receiver mintUrl unit result.capacity
    result.fundingTokenAmount terms.expiryTimestamp unixTime keysetInfo terms.maxAmount secret =
      .ok params
  paramsJson_eq : result.paramsJson =
    (params.withCommitmentMode terms.commitmentMode).getChannelIdParamsJson L
  affordable : result.fundingTokenAmount + result.changeAmountRaw < 2 ^ 64

theorem sizing_of_inner {terms : OpeningTerms} {proofs : List (Proof T)}
    {input : MixedInputFeeResult} {mintUrl : String} {unit : T.CurrencyUnit}
    {channelSecretHex : String} {keysetInfo : KeysetInfo T} {unixTime : Nat}
    {result : ChannelComputeResult T} (fits : input.postSwapValue < 2 ^ 64)
    (computed : computeChannelFromProofsInner L terms proofs input mintUrl unit channelSecretHex
      keysetInfo unixTime = .ok result) :
    Nonempty (Sizing L terms channelSecretHex keysetInfo unixTime result) := by
  simp only [computeChannelFromProofsInner, Outcome.bind_eq_ok, Outcome.guard_eq_ok,
    Outcome.mapErr_eq_ok, Outcome.ofExcept_eq_ok, decode32_eq_ok_iff, Outcome.pure_eq,
    Outcome.ok.injEq] at computed
  obtain ⟨-, -, -, affordable, _, -, _, -, -, -, sender, isSender, receiver, isReceiver, secret,
    isSecret, params, accepted, rfl⟩ := computed
  exact ⟨{
    sender, receiver, secret, mintUrl, unit, params
    sender_eq := isSender
    receiver_eq := isReceiver
    secret_eq := isSecret
    accepted
    paramsJson_eq := rfl
    affordable := by
      dsimp only
      omega }⟩

/-- Every source is sized alike. -/
theorem exists_sizing {source : FundingSource T} {terms : OpeningTerms}
    {channelSecretHex : String} {keysetInfoJson : T.Text} {unixTime : Nat}
    {result : ChannelComputeResult T}
    (computed : source.computeChannel L W terms channelSecretHex keysetInfoJson unixTime =
      .ok result) :
    ∃ keysetInfo, parseKeysetInfoFromJson L keysetInfoJson = .ok keysetInfo ∧
      Nonempty (Sizing L terms channelSecretHex keysetInfo unixTime result) := by
  cases source with
  | token tokenString =>
      simp only [FundingSource.computeChannel, computeChannelFromTokenWithMode,
        Outcome.bind_eq_ok] at computed
      obtain ⟨token, -, mintUrl, -, keysetInfo, isKeyset, proofs, -, input, isInput, inner⟩ :=
        computed
      obtain ⟨s⟩ := sizing_of_inner (postSwapValue_lt isInput) inner
      exact ⟨keysetInfo, isKeyset, ⟨{ s with }⟩⟩
  | tokenWithKeysets tokenString inputKeysetsJson =>
      simp only [FundingSource.computeChannel, computeChannelFromTokenWithInputKeysetsAndMode,
        Outcome.bind_eq_ok] at computed
      obtain ⟨token, -, mintUrl, -, keysetInfo, isKeyset, keysets, -, proofs, -, input, isInput,
        inner⟩ := computed
      obtain ⟨s⟩ := sizing_of_inner (postSwapValue_lt isInput) inner
      exact ⟨keysetInfo, isKeyset, ⟨{ s with }⟩⟩
  | proofs mintUrl unit inputProofsJson inputKeysetsJson =>
      simp only [FundingSource.computeChannel, computeChannelFromProofsWithMode,
        Outcome.bind_eq_ok] at computed
      obtain ⟨proofs, -, keysets, -, input, isInput, keysetInfo, isKeyset, inner⟩ := computed
      obtain ⟨s⟩ := sizing_of_inner (postSwapValue_lt isInput) inner
      exact ⟨keysetInfo, isKeyset, ⟨s⟩⟩

/-- The numbers a caller gives are `u64`. -/
structure OpeningTerms.Representable (terms : OpeningTerms) : Prop where
  expiryTimestamp : terms.expiryTimestamp < 2 ^ 64
  maxAmount : terms.maxAmount < 2 ^ 64

section Sizings

variable {terms : OpeningTerms} {channelSecretHex : String} {keysetInfo : KeysetInfo T}
  {unixTime : Nat} {result : ChannelComputeResult T}
  (s : Sizing L terms channelSecretHex keysetInfo unixTime result)

/-- The parameters of the channel, in its mode. -/
def Sizing.channel : ChannelParameters T := s.params.withCommitmentMode terms.commitmentMode

theorem Sizing.channel_eq : s.channel = {
    commitmentMode := terms.commitmentMode
    senderPubkey := s.sender
    receiverPubkey := s.receiver
    mint := trimEndSlashes s.mintUrl
    unit := s.unit
    capacity := result.capacity
    fundingTokenAmount := result.fundingTokenAmount
    expiryTimestamp := terms.expiryTimestamp
    setupTimestamp := unixTime
    keysetInfo := keysetInfo
    maximumAmountForOneOutput := terms.maxAmount
    channelSecret := s.secret } := by
  obtain ⟨-, -, isParams⟩ := ChannelParameters.new_eq_ok_iff.mp s.accepted
  rw [Sizing.channel, isParams]
  rfl

/-- Whoever has the keyset and the secret reads the parameters of the channel. -/
theorem Sizing.reads (trips : L.RoundTrips) (fits : terms.Representable)
    (clock : unixTime < 2 ^ 64) :
    ChannelParameters.fromJsonWithChannelSecret L result.paramsJson keysetInfo s.secret =
      .ok s.channel := by
  have affordable : result.fundingTokenAmount < 2 ^ 64 := (Nat.le_add_right _ _).trans_lt s.affordable
  have small := (achievable_of_new s.accepted .ordinary).capacity_le
  have isParams := (ChannelParameters.new_eq_ok_iff.mp s.accepted).2.2
  rw [s.paramsJson_eq]
  refine ChannelParameters.fromJsonWithChannelSecret_getChannelIdParamsJson L trips s.accepted ?_ _
  rw [isParams] at small ⊢
  exact {
    capacity := lt_of_le_of_lt small affordable
    fundingTokenAmount := affordable
    maximumAmount := fits.maxAmount
    setupTimestamp := clock
    expiryTimestamp := fits.expiryTimestamp }

end Sizings

/-- A swap that was prepared for a channel: its funding outputs and the change. -/
structure FundingSwap (L : Cashu T) (W : WalletOps T) (params : ChannelParameters T)
    (changeAmountRaw : Nat) (swap : FundingSwapResult T) where
  inputs : List (Proof T)
  secrets : List (DeterministicSecretWithBlinding T)
  messages : List (BlindedMessage T)
  change : List (PreMint T)
  splits : Splits params.keysetInfo params.maximumAmountForOneOutput params.fundingTokenAmount
  derived : (outputsFor "funding" params.fundingTokenAmount params).getSecretsWithBlinding L =
    .ok secrets
  offers : List.Forall₂ (Offers L params.keysetInfo.keysetId) secrets messages
  changed : plainChangeOutputs W changeAmountRaw params.keysetInfo = .ok change
  swapRequestJson_eq : swap.swapRequestJson = L.render (L.swapRequestToJson
    ⟨inputs, messages ++ change.map PreMint.blindedMessage, false⟩)
  fundingSecretsJson_eq : swap.fundingSecretsJson = L.render (.arr (secrets.map fun secret =>
    openingSecretToJson L secret.secret secret.blindingFactor secret.amount))
  changeSecretsJson_eq : swap.changeSecretsJson = L.render (.arr (change.map fun secret =>
    openingSecretToJson L secret.secret secret.r secret.amount))

theorem exists_fundingSwap {paramsJson : T.Text} {channelSecretHex : String}
    {keysetInfoJson inputProofsJson : T.Text} {changeAmountRaw : Nat} {swap : FundingSwapResult T}
    {keysetInfo : KeysetInfo T} {secret : Bytes 32} {params : ChannelParameters T}
    (isKeyset : parseKeysetInfoFromJson L keysetInfoJson = .ok keysetInfo)
    (isSecret : Hex.decode channelSecretHex = some secret.val)
    (reads : ChannelParameters.fromJsonWithChannelSecret L paramsJson keysetInfo secret =
      .ok params) (keyset : params.keysetInfo = keysetInfo)
    (created : createFundingSwapWithPlainChange L W paramsJson channelSecretHex keysetInfoJson
      inputProofsJson changeAmountRaw = .ok swap) :
    Nonempty (FundingSwap L W params changeAmountRaw swap) := by
  subst keyset
  simp only [createFundingSwapWithPlainChange, reconstructFundingOutputs, isKeyset,
    decode32_eq_ok_iff.mpr isSecret, reads, Outcome.ofExcept_ok, Outcome.mapErr_ok,
    Outcome.ok_bind, Outcome.bind_eq_ok, Outcome.mapErr_eq_ok,
    DeterministicOutputsForOneContext.new_eq_ok_iff, Outcome.pure_eq, Outcome.ok.injEq] at created
  obtain ⟨_, ⟨splits, rfl⟩, inputs, -, messages, offered, secrets, derived, change, changed, rfl⟩ :=
    created
  obtain ⟨again, derived', offers⟩ := (getBlindedMessages_eq_ok_iff L).mp offered
  obtain rfl := Outcome.ok.inj (derived.symm.trans derived')
  exact ⟨{
    inputs, secrets, messages, change, splits, derived, offers, changed
    swapRequestJson_eq := rfl
    fundingSecretsJson_eq := rfl
    changeSecretsJson_eq := rfl }⟩

/-- Change adds up to what was asked for, and is blinded as the client will blind it. -/
theorem plainChangeOutputs_spec (mints : W.Mints L) {changeAmountRaw : Nat}
    {keysetInfo : KeysetInfo T} {change : List (PreMint T)}
    (changed : plainChangeOutputs W changeAmountRaw keysetInfo = .ok change) :
    (change.map PreMint.amount).sum = changeAmountRaw ∧
    ∀ secret ∈ change, secret.blindedMessage.amount = secret.amount ∧
      secret.blindedMessage.keysetId = keysetInfo.keysetId ∧
      L.blindMessage secret.secret secret.r = .ok secret.blindedMessage.blindedSecret := by
  unfold plainChangeOutputs at changed
  split_ifs at changed with nothing
  · obtain rfl := Outcome.ok.inj changed
    exact ⟨nothing.symm, by simp⟩
  · simp only [Outcome.bind_eq_ok, Outcome.mapErr_eq_ok, Outcome.ofExcept_eq_ok,
      fromTarget_eq_ok_iff] at changed
    obtain ⟨_, ⟨splits, rfl⟩, minted⟩ := changed
    obtain ⟨amounts, each⟩ := mints _ _ _ _ _ _ minted (greedyList_sum splits)
    exact ⟨amounts.sum_eq.trans (greedyList_sum splits), each⟩

/-! ## The mint's answer -/

/-- An output the client can unblind: it is blinded by its kept secrets, and the keyset
has a key for its amount. -/
structure Kept (L : Cashu T) (keysetInfo : KeysetInfo T) (output : PreparedSwapOutput T) :
    Prop where
  blinds : L.blindMessage output.secret output.blindingFactor =
    .ok output.blindedMessage.blindedSecret
  keysetId : output.blindedMessage.keysetId = keysetInfo.keysetId
  hasKey : (keysetInfo.activeKeys.amountKey output.blindedMessage.amount).isSome
  fits : output.blindedMessage.amount < 2 ^ 64

/-- What is kept of outputs. -/
def keptSecrets (L : Cashu T) (outputs : List (PreparedSwapOutput T)) : Json :=
  .arr (outputs.map fun output =>
    openingSecretToJson L output.secret output.blindingFactor output.blindedMessage.amount)

/-- Outputs read back from their kept secrets. -/
theorem parsePreparedOutputs_keptSecrets (trips : L.RoundTrips) {keysetInfo : KeysetInfo T}
    {outputs : List (PreparedSwapOutput T)} (kept : ∀ output ∈ outputs, Kept L keysetInfo output)
    (role : String) :
    parsePreparedOutputs L (L.render (keptSecrets L outputs)) keysetInfo role = .ok outputs := by
  have each (output : PreparedSwapOutput T) (member : output ∈ outputs) (index : Nat) :
      parsePreparedOutput L keysetInfo role (openingSecretToJson L output.secret
        output.blindingFactor output.blindedMessage.amount, index) = .ok output := by
    obtain ⟨blinds, keysetId, hasKey, fits⟩ := kept output member
    obtain ⟨⟨amount, id, point⟩, secret, blindingFactor⟩ := output
    dsimp only at blinds keysetId hasKey fits
    subst keysetId
    simp [parsePreparedOutput, openingSecretToJson, Json.field, Json.get?, List.lookup_cons,
      Json.asU64_num fits, secretKeyFromHex_toHex trips, Outcome.guard_pos hasKey, blinds]
  simp only [parsePreparedOutputs, keptSecrets, trips.parse_render, Outcome.ofExcept_ok,
    Outcome.mapErr_ok, Outcome.ok_bind, Outcome.mapAll_eq_ok]
  rw [List.zipIdx_map, List.forall₂_map_left_iff]
  nth_rewrite 2 [← List.zipIdx_map_fst 0 outputs]
  rw [List.forall₂_map_right_iff, List.forall₂_same]
  exact fun entry member => each entry.1 (List.fst_mem_of_mem_zipIdx member) entry.2

/-- Outputs that are compared with the ones of the request and agree make no difference. -/
theorem completeExactSignatures_some {signatures : List (BlindSignature T)}
    {expected : List (PreparedSwapOutput T)} {keysetInfo : KeysetInfo T}
    {outputs : List (BlindedMessage T)}
    (same : outputs = expected.map PreparedSwapOutput.blindedMessage) :
    completeExactSignatures L signatures expected keysetInfo (some outputs) =
      completeExactSignatures L signatures expected keysetInfo none := by
  subst same
  simp [completeExactSignatures]

/-- Signatures on funding and change are unblinded by what is kept of both. -/
theorem completeExactOpeningSignatures_kept (trips : L.RoundTrips) {keysetInfo : KeysetInfo T}
    {funding change : List (PreparedSwapOutput T)}
    (kept : ∀ output ∈ funding ++ change, Kept L keysetInfo output)
    {outputs : List (BlindedMessage T)}
    (same : outputs = (funding ++ change).map PreparedSwapOutput.blindedMessage)
    {signatures : List (BlindSignature T)} {proofs : List (Proof T)}
    (completed : completeExactSignatures L signatures (funding ++ change) keysetInfo none =
      .ok proofs) :
    completeExactOpeningSignatures L signatures (L.render (keptSecrets L funding))
      (L.render (keptSecrets L change)) keysetInfo (some outputs) =
        .ok ⟨L.render (L.proofsToJson (proofs.take funding.length)),
          L.render (L.proofsToJson (proofs.drop funding.length))⟩ := by
  simp only [completeExactOpeningSignatures, Outcome.ok_bind, Outcome.pure_eq, completed,
    parsePreparedOutputs_keptSecrets trips fun output member =>
      kept output (List.mem_append_left _ member),
    parsePreparedOutputs_keptSecrets trips fun output member =>
      kept output (List.mem_append_right _ member),
    completeExactSignatures_some same]

/-- A signature that verifies has an equality proof. -/
def Cashu.ChecksDleq (L : Cashu T) : Prop :=
  ∀ signature key point, L.verifyBlindDleq signature key point = .ok () → signature.dleq.isSome

/-- A proof of an output: bare, valid, and with the blinding factor of the output. -/
structure Proves (L : Cashu T) (keysetInfo : KeysetInfo T) (output : PreparedSwapOutput T)
    (proof : Proof T) : Prop where
  secret : proof.secret = output.secret
  amount : proof.amount = output.blindedMessage.amount
  keysetId : proof.keysetId = output.blindedMessage.keysetId
  blindingFactor : ∃ dleq, proof.dleq = some dleq ∧ dleq.r = output.blindingFactor
  witness : proof.witness = none
  p2pkE : proof.p2pkE = none
  verified : HasValidDleq L keysetInfo proof

/-- Signatures of an honest mint are unblinded, to proofs with keys to verify them by. -/
theorem exists_completed (issues : L.Issues) {keysetInfo : KeysetInfo T}
    {outputs : List (PreparedSwapOutput T)} {signatures : List (BlindSignature T)}
    (signed : List.Forall₂ (fun signature output =>
      SignedOutput L keysetInfo.activeKeys signature output.blindedMessage) signatures outputs)
    (kept : ∀ output ∈ outputs, Kept L keysetInfo output)
    (total : (outputs.map fun output => output.blindedMessage.amount).sum < 2 ^ 64) :
    ∃ proofs, completeExactSignatures L signatures outputs keysetInfo none = .ok proofs ∧
      List.Forall₂ (fun proof output => proof.amount = output.blindedMessage.amount ∧
        proof.secret = output.secret ∧ HasValidDleq L keysetInfo proof) proofs outputs := by
  have each := List.forall₂_iff_zip.mp signed
  have blinded : List.Forall₂ (fun signature output =>
      SignedOutput L keysetInfo.activeKeys signature output.blindedMessage ∧
      L.blindMessage output.secret output.blindingFactor =
        .ok output.blindedMessage.blindedSecret) signatures outputs := by
    refine List.forall₂_iff_zip.mpr ⟨each.1, fun {signature output} member => ?_⟩
    exact ⟨each.2 member, (kept output (List.of_mem_zip member).2).blinds⟩
  obtain ⟨proofs, built, verified⟩ := issues.constructs _ _ _ blinded
  exact ⟨proofs, completeExactSignatures_eq_ok_iff.mpr ⟨signed, total, built⟩, verified⟩

/-- Signatures of an honest mint are unblinded into proofs of the outputs, in order. -/
theorem exists_proves (issues : L.Issues) (unblinds : L.Unblinds) (checks : L.ChecksDleq)
    {keysetInfo : KeysetInfo T} {outputs : List (PreparedSwapOutput T)}
    {signatures : List (BlindSignature T)}
    (signed : List.Forall₂ (fun signature output =>
      SignedOutput L keysetInfo.activeKeys signature output.blindedMessage) signatures outputs)
    (kept : ∀ output ∈ outputs, Kept L keysetInfo output)
    (total : (outputs.map fun output => output.blindedMessage.amount).sum < 2 ^ 64) :
    ∃ proofs, completeExactSignatures L signatures outputs keysetInfo none = .ok proofs ∧
      List.Forall₂ (Proves L keysetInfo) outputs proofs := by
  obtain ⟨proofs, completed, verified⟩ := exists_completed issues signed kept total
  refine ⟨proofs, completed, ?_⟩
  obtain ⟨-, -, built⟩ := completeExactSignatures_eq_ok_iff.mp completed
  have made := List.forall₂_iff_zip.mp
    (forall₂_of_zip signed (unblinds.constructs built signed.length_eq))
  refine List.forall₂_iff_zip.mpr ⟨made.1, fun {output proof} member => ?_⟩
  obtain ⟨signature, ⟨amount, keysetId, key, -, dleq⟩, unblinded⟩ := made.2 member
  obtain ⟨_, -, -, -, valid⟩ := exists_right_of_forall₂ verified (List.of_mem_zip member).2
  obtain ⟨proof', isProof⟩ := Option.isSome_iff_exists.mp (checks _ _ _ dleq)
  exact {
    secret := unblinded.secret
    amount := unblinded.amount.trans amount
    keysetId := unblinded.keysetId.trans keysetId
    blindingFactor := ⟨_, by rw [unblinded.dleq, isProof, Option.map_some], rfl⟩
    witness := unblinded.witness
    p2pkE := unblinded.p2pkE
    verified := valid }

namespace FundingSwap

variable {params : ChannelParameters T} {changeAmountRaw : Nat} {swap : FundingSwapResult T}
  (f : FundingSwap L W params changeAmountRaw swap)

/-- The outputs of the swap. -/
def outputs : List (BlindedMessage T) := f.messages ++ f.change.map PreMint.blindedMessage

/-- The funding outputs, with what unblinds them. -/
def funding : List (PreparedSwapOutput T) :=
  (f.secrets.zip f.messages).map fun pair => ⟨pair.2, pair.1.secret, pair.1.blindingFactor⟩

/-- The change, with what unblinds it. -/
def plainChange : List (PreparedSwapOutput T) :=
  f.change.map fun secret => ⟨secret.blindedMessage, secret.secret, secret.r⟩

theorem offers_of_mem {pair : DeterministicSecretWithBlinding T × BlindedMessage T}
    (member : pair ∈ f.secrets.zip f.messages) :
    Offers L params.keysetInfo.keysetId pair.1 pair.2 :=
  (List.forall₂_iff_zip.mp f.offers).2 member

theorem funding_messages : f.funding.map PreparedSwapOutput.blindedMessage = f.messages := by
  rw [funding, List.map_map]
  exact List.map_snd_zip (Nat.le_of_eq f.offers.length_eq.symm)

theorem plainChange_messages : f.plainChange.map PreparedSwapOutput.blindedMessage =
    f.change.map PreMint.blindedMessage := by
  rw [plainChange, List.map_map]
  rfl

theorem outputs_eq : f.outputs =
    (f.funding ++ f.plainChange).map PreparedSwapOutput.blindedMessage := by
  rw [outputs, List.map_append, funding_messages, plainChange_messages]

/-- What is kept of the funding outputs. -/
theorem funding_kept : swap.fundingSecretsJson = L.render (keptSecrets L f.funding) := by
  have isSecrets : (f.secrets.zip f.messages).map Prod.fst = f.secrets :=
    List.map_fst_zip (Nat.le_of_eq f.offers.length_eq)
  rw [f.fundingSecretsJson_eq, keptSecrets, funding, ← isSecrets, List.map_map, List.map_map,
    isSecrets]
  refine congrArg (fun values => L.render (.arr values)) (List.map_congr_left fun pair member => ?_)
  simp only [Function.comp_apply, (f.offers_of_mem member).amount]

/-- What is kept of the change. -/
theorem plainChange_kept (mints : W.Mints L) :
    swap.changeSecretsJson = L.render (keptSecrets L f.plainChange) := by
  obtain ⟨-, changed⟩ := plainChangeOutputs_spec mints f.changed
  rw [f.changeSecretsJson_eq, keptSecrets, plainChange, List.map_map]
  refine congrArg (fun values => L.render (.arr values))
    (List.map_congr_left fun secret member => ?_)
  simp only [Function.comp_apply, (changed secret member).1]

theorem sum_secrets :
    (f.secrets.map DeterministicSecretWithBlinding.amount).sum = params.fundingTokenAmount := by
  rw [amounts_of_getSecretsWithBlinding L f.derived, sum_spread_greedyList f.splits]

/-- Funding and change outputs are worth what they are for. -/
theorem sum_outputs (mints : W.Mints L) :
    (f.outputs.map BlindedMessage.amount).sum = params.fundingTokenAmount + changeAmountRaw := by
  obtain ⟨total, each⟩ := plainChangeOutputs_spec mints f.changed
  have funding : f.messages.map BlindedMessage.amount =
      f.secrets.map DeterministicSecretWithBlinding.amount :=
    (map_eq_map_of_forall₂ f.offers fun _ _ offer => offer.amount.symm).symm
  have change : (f.change.map PreMint.blindedMessage).map BlindedMessage.amount =
      f.change.map PreMint.amount := by
    rw [List.map_map]
    exact List.map_congr_left fun secret member => (each secret member).1
  rw [outputs, List.map_append, List.sum_append, funding, change, f.sum_secrets, total]

theorem sum_lt (mints : W.Mints L)
    (affordable : params.fundingTokenAmount + changeAmountRaw < 2 ^ 64) :
    ((f.funding ++ f.plainChange).map fun output => output.blindedMessage.amount).sum <
      2 ^ 64 := by
  have total := f.sum_outputs mints
  rw [f.outputs_eq, List.map_map] at total
  exact total.trans_lt affordable

/-- Outputs that the mint has keys for can be unblinded from what is kept of them. -/
theorem kept (mints : W.Mints L)
    (affordable : params.fundingTokenAmount + changeAmountRaw < 2 ^ 64)
    (keys : ∀ output ∈ f.outputs, (params.keysetInfo.activeKeys.amountKey output.amount).isSome) :
    ∀ output ∈ f.funding ++ f.plainChange, Kept L params.keysetInfo output := by
  intro output member
  have hasKey := keys output.blindedMessage (f.outputs_eq ▸ List.mem_map_of_mem member)
  have small := List.single_le_sum (by simp) _ (List.mem_map_of_mem (f := fun output =>
    output.blindedMessage.amount) member)
  have fits := small.trans_lt (f.sum_lt mints affordable)
  rcases List.mem_append.mp member with inFunding | inChange
  · obtain ⟨pair, inPairs, rfl⟩ := List.mem_map.mp inFunding
    have offer := f.offers_of_mem inPairs
    exact ⟨offer.blinds, offer.keysetId, hasKey, fits⟩
  · obtain ⟨secret, inSecrets, rfl⟩ := List.mem_map.mp inChange
    obtain ⟨-, changed⟩ := plainChangeOutputs_spec mints f.changed
    obtain ⟨-, keysetId, blinds⟩ := changed secret inSecrets
    exact ⟨blinds, keysetId, hasKey, fits⟩

/-- **The answer of an honest mint is completed**, and the first proofs are the bare, valid
proofs of the funding outputs. -/
theorem completes (trips : L.RoundTrips) (issues : L.Issues) (unblinds : L.Unblinds)
    (checks : L.ChecksDleq) (mints : W.Mints L)
    (affordable : params.fundingTokenAmount + changeAmountRaw < 2 ^ 64)
    {signatures : List (BlindSignature T)}
    (signed : List.Forall₂ (SignedOutput L params.keysetInfo.activeKeys) signatures f.outputs) :
    ∃ funding change : List (Proof T),
      completeExactOpeningSignatures L signatures swap.fundingSecretsJson swap.changeSecretsJson
        params.keysetInfo (some f.outputs) =
          .ok ⟨L.render (L.proofsToJson funding), L.render (L.proofsToJson change)⟩ ∧
      List.Forall₂ (Funds L params.keysetInfo) funding f.secrets ∧
      ∀ proof ∈ funding, proof.keysetId = params.keysetInfo.keysetId := by
  have kept := f.kept mints affordable fun output member => by
    obtain ⟨signature, -, -, -, key, hasKey, -⟩ := exists_left_of_forall₂ signed member
    simp [hasKey]
  have signed' := signed
  rw [f.outputs_eq, List.forall₂_map_right_iff] at signed'
  obtain ⟨proofs, completed, proves⟩ := exists_proves issues unblinds checks signed' kept
    (f.sum_lt mints affordable)
  have first : List.Forall₂ (Proves L params.keysetInfo) f.funding
      (proofs.take f.funding.length) := by
    have taken := List.forall₂_take f.funding.length proves
    rwa [List.take_left] at taken
  refine ⟨proofs.take f.funding.length, proofs.drop f.funding.length, ?_, ?_, ?_⟩
  · rw [f.funding_kept, f.plainChange_kept mints]
    exact completeExactOpeningSignatures_kept trips kept f.outputs_eq completed
  · have isSecrets : (f.secrets.zip f.messages).map Prod.fst = f.secrets :=
      List.map_fst_zip (Nat.le_of_eq f.offers.length_eq)
    rw [← isSecrets, List.forall₂_map_right_iff]
    have flipped := List.forall₂_iff_zip.mp (List.forall₂_map_left_iff.mp first).flip
    refine List.forall₂_iff_zip.mpr ⟨flipped.1, fun {proof pair} member => ?_⟩
    have proved := flipped.2 member
    have offer := f.offers_of_mem (List.of_mem_zip member).2
    exact ⟨proved.secret, proved.amount.trans offer.amount, proved.blindingFactor, proved.witness,
      proved.p2pkE, proved.verified⟩
  · intro proof member
    obtain ⟨output, inFunding, proved⟩ := exists_left_of_forall₂ first member
    exact proved.keysetId.trans (kept output (List.mem_append_left _ inFunding)).keysetId

end FundingSwap

/-! ## The opening as a whole -/

/-- What a prepared opening is about: a sized channel, and a swap for it. -/
structure SwapPlan (L : Cashu T) (W : WalletOps T) (terms : OpeningTerms)
    (keysetInfo : KeysetInfo T) (unixTime : Nat) (prepared : PreparedOpenChannel T) where
  result : ChannelComputeResult T
  swap : FundingSwapResult T
  sizing : Sizing L terms prepared.opening.channelSecretHex keysetInfo unixTime result
  fundingSwap : FundingSwap L W sizing.channel result.changeAmountRaw swap
  keyset_eq : parseKeysetInfoFromJson L prepared.opening.keysetInfoJson = .ok keysetInfo
  channelId_eq : prepared.channelId = sizing.channel.getChannelId L
  swapRequestJson_eq : prepared.swapRequestJson = swap.swapRequestJson
  fundingSecretsJson_eq : prepared.fundingSecretsJson = swap.fundingSecretsJson
  changeSecretsJson_eq : prepared.changeSecretsJson = swap.changeSecretsJson
  paramsJson_eq : prepared.opening.paramsJson = result.paramsJson
  senderPubkeyHex_eq : prepared.opening.senderPubkeyHex = terms.senderPubkeyHex
  savedSecrets_eq : prepared.opening.changeSecretsJson = swap.changeSecretsJson
  savedAmount_eq : prepared.opening.changeAmountRaw = result.changeAmountRaw

/-- Everything behind an opening that is prepared with a ring of keys. -/
structure OpeningPlan (L : Cashu T) (K : KeyOps T) (W : WalletOps T) (ring : Keyring L)
    (terms : OpeningTerms) (keysetInfo : KeysetInfo T) (unixTime : Nat)
    (prepared : PreparedOpenChannel T) extends
    SwapPlan L W terms keysetInfo unixTime prepared where
  senderSecret : T.SecretKey
  filed : ring.getSecret terms.senderPubkeyHex = .ok senderSecret
  secret_eq : sizing.secret = computeChannelSecret K senderSecret sizing.receiver

section Openings

variable {K : KeyOps T} {ring : Keyring L}
  {getChannelFunding : String → Option (ClientChannelFunding T)}
  {getChannelState : String → Option ClientChannelState} {nowSeconds : Nat}
  {source : FundingSource T} {terms : OpeningTerms} {keysetInfoJson : T.Text} {unixTime : Nat}
  {prepared : PreparedOpenChannel T} {keysetInfo : KeysetInfo T}

/-- Whatever the host, an opening is prepared with a secret that the host has computed. -/
theorem exists_swapPlan (trips : L.RoundTrips) (fits : terms.Representable)
    (clock : unixTime < 2 ^ 64) {host : ClientHost T}
    (isPrepared : host.prepareOpenChannel L W source terms keysetInfoJson unixTime = .ok prepared)
    (isKeyset : parseKeysetInfoFromJson L keysetInfoJson = .ok keysetInfo) :
    host.computeChannelSecret terms.senderPubkeyHex terms.receiverPubkeyHex =
        .ok prepared.opening.channelSecretHex ∧
      Nonempty (SwapPlan L W terms keysetInfo unixTime prepared) := by
  simp only [ClientHost.prepareOpenChannel, ClientHost.prepareOpenChannelFromComputeResult,
    Outcome.bind_eq_ok, Outcome.mapErr_eq_ok, Outcome.ofExcept_eq_ok, Outcome.pure_eq,
    Outcome.ok.injEq] at isPrepared
  obtain ⟨_, agreed, result, computed, swap, created, channelId, identified, rfl⟩ := isPrepared
  obtain ⟨keysetInfo', isKeyset', ⟨s⟩⟩ := exists_sizing computed
  obtain rfl := Outcome.ok.inj (isKeyset.symm.trans isKeyset')
  have reads := s.reads trips fits clock
  have keyset : s.channel.keysetInfo = keysetInfo := by rw [s.channel_eq]
  obtain ⟨f⟩ := exists_fundingSwap isKeyset s.secret_eq reads keyset created
  simp only [channelParametersGetChannelId, decode32_eq_ok_iff.mpr s.secret_eq, isKeyset, reads,
    Outcome.ofExcept_ok, Outcome.mapErr_ok, Outcome.ok_bind, Outcome.pure_eq,
    Outcome.ok.injEq] at identified
  exact ⟨agreed, ⟨{
    result, swap
    sizing := s
    fundingSwap := f
    keyset_eq := isKeyset
    channelId_eq := identified.symm
    swapRequestJson_eq := rfl
    fundingSecretsJson_eq := rfl
    changeSecretsJson_eq := rfl
    paramsJson_eq := rfl
    senderPubkeyHex_eq := rfl
    savedSecrets_eq := rfl
    savedAmount_eq := rfl }⟩⟩

theorem exists_plan (trips : L.RoundTrips) (fits : terms.Representable)
    (clock : unixTime < 2 ^ 64)
    (isPrepared : (configurableClientHost L K ring getChannelFunding getChannelState
      nowSeconds).prepareOpenChannel L W source terms keysetInfoJson unixTime = .ok prepared)
    (isKeyset : parseKeysetInfoFromJson L keysetInfoJson = .ok keysetInfo) :
    Nonempty (OpeningPlan L K W ring terms keysetInfo unixTime prepared) := by
  obtain ⟨agreed, ⟨plan⟩⟩ := exists_swapPlan trips fits clock isPrepared isKeyset
  obtain ⟨senderSecret, receiver, filed, isReceiver, isSecret⟩ :=
    (computeChannelSecret_eq_ok_iff trips).mp agreed
  refine ⟨{ plan with senderSecret, filed, secret_eq := ?_ }⟩
  have decoded := (congrArg Hex.decode isSecret).symm.trans plan.sizing.secret_eq
  rw [Hex.decode_encode, Option.some.injEq] at decoded
  rw [← Except.ok.inj (isReceiver.symm.trans plan.sizing.receiver_eq)]
  exact Subtype.ext decoded.symm

namespace SwapPlan

variable (plan : SwapPlan L W terms keysetInfo unixTime prepared)

theorem keysetInfo_eq : plan.sizing.channel.keysetInfo = keysetInfo := by
  rw [plan.sizing.channel_eq]

theorem affordable : plan.sizing.channel.fundingTokenAmount + plan.result.changeAmountRaw <
    2 ^ 64 := by
  rw [plan.sizing.channel_eq]
  exact plan.sizing.affordable

/-- The request that is submitted. -/
theorem outputs_of_request (trips : L.RoundTrips) {request : SwapRequest T}
    (submitted : (L.parse prepared.swapRequestJson >>= L.swapRequestOfJson) = .ok request) :
    request.outputs = plan.fundingSwap.outputs ∧ request.rerandomized = false := by
  rw [plan.swapRequestJson_eq, plan.fundingSwap.swapRequestJson_eq, trips.parse_render] at submitted
  have same : request = _ := (Except.ok.inj ((trips.swapRequestOfJson_toJson _).symm.trans
    submitted)).symm
  rw [same]
  exact ⟨rfl, rfl⟩

/-- An honest answer signs the outputs of the swap. -/
theorem signed (trips : L.RoundTrips) {request : SwapRequest T}
    (submitted : (L.parse prepared.swapRequestJson >>= L.swapRequestOfJson) = .ok request)
    {response : SwapResponse T} {factors : List T.SecretKey}
    (honest : HonestResponse L keysetInfo.activeKeys request factors response) :
    List.Forall₂ (SignedOutput L plan.sizing.channel.keysetInfo.activeKeys) response.signatures
      plan.fundingSwap.outputs := by
  obtain ⟨outputs, mode⟩ := plan.outputs_of_request trips submitted
  rw [plan.keysetInfo_eq, ← outputs]
  cases honest with
  | ordinary _ signed => exact signed
  | rerandomized moved => rw [mode] at moved; cases moved

end SwapPlan

namespace OpeningPlan

variable (plan : OpeningPlan L K W ring terms keysetInfo unixTime prepared)

/-- Everybody who has the secret reads the same channel from the stored text. -/
theorem storedParams_eq (trips : L.RoundTrips) (fits : terms.Representable)
    (clock : unixTime < 2 ^ 64) {keysetJson : T.Text}
    (isKeyset : parseKeysetInfoFromJson L keysetJson = .ok keysetInfo) {secretHex : String}
    (isSecret : Hex.decode secretHex = some plan.sizing.secret.val) (proofsJson : T.Text) :
    storedParams L ⟨prepared.opening.paramsJson, proofsJson, secretHex, keysetJson⟩ =
      .ok plan.sizing.channel := by
  simp only [storedParams, channelSecretOf_eq_ok_iff.mpr isSecret, isKeyset, plan.paramsJson_eq,
    Outcome.ok_bind, plan.sizing.reads trips fits clock]

/-- The key the text names for the sender is the one the client has the secret of. -/
theorem sender_eq (trips : L.RoundTrips) : plan.sizing.sender = L.publicKey plan.senderSecret :=
  (Keyring.publicKey_of_getSecret trips plan.filed plan.sizing.sender_eq).symm

/-- What the text says of the sender. -/
theorem senderField (trips : L.RoundTrips) :
    ∃ json, L.parse prepared.opening.paramsJson = .ok json ∧
      (json.field "sender_pubkey").asStr = some (L.publicKeyToHex plan.sizing.sender) := by
  rw [plan.paramsJson_eq, plan.sizing.paramsJson_eq]
  refine ⟨_, trips.parse_render _, ?_⟩
  rw [show plan.sizing.params.withCommitmentMode terms.commitmentMode = plan.sizing.channel
    from rfl, plan.sizing.channel_eq]
  rfl

end OpeningPlan

end Openings

/-- **A channel the client opens is a channel the receiver accepts.** The mint is honest:
its keyset has the identifier of its keys, and it has signed every output of the swap. Then
the answer is completed, and the receiver, with its own key and the same keyset, reads a
channel of the same identifier from the stored text, for which the proofs are valid
funding. -/
theorem opened_accepted {K : KeyOps T} (laws : K.Laws L) (trips : L.RoundTrips)
    (issues : L.Issues) (unblinds : L.Unblinds) (checks : L.ChecksDleq) (mints : W.Mints L)
    {ring : Keyring L} {getChannelFunding : String → Option (ClientChannelFunding T)}
    {getChannelState : String → Option ClientChannelState} {nowSeconds : Nat}
    {source : FundingSource T} {terms : OpeningTerms} (fits : terms.Representable)
    {keysetInfoJson : T.Text} {unixTime : Nat} (clock : unixTime < 2 ^ 64)
    {prepared : PreparedOpenChannel T}
    (isPrepared : (configurableClientHost L K ring getChannelFunding getChannelState
      nowSeconds).prepareOpenChannel L W source terms keysetInfoJson unixTime = .ok prepared)
    {keysetInfo : KeysetInfo T}
    (isKeyset : parseKeysetInfoFromJson L keysetInfoJson = .ok keysetInfo)
    (published : keysetInfo.keysetId = computedKeysetId L keysetInfo)
    {request : SwapRequest T}
    (submitted : (L.parse prepared.swapRequestJson >>= L.swapRequestOfJson) = .ok request)
    {responseJson : T.Text} {response : SwapResponse T} {factors : List T.SecretKey}
    (answered : parseSwapResponse L responseJson = .ok response)
    (honest : HonestResponse L keysetInfo.activeKeys request factors response)
    {receiverSecret : T.SecretKey}
    (receiver : L.publicKeyFromHex terms.receiverPubkeyHex = .ok (L.publicKey receiverSecret))
    {receiverKeysetJson : T.Text}
    (sameKeyset : parseKeysetInfoFromJson L receiverKeysetJson = .ok keysetInfo) :
    ∃ completed json senderHex secretHex params proofs,
      completePreparedOpenChannel L prepared responseJson = .ok completed ∧
      completed.channelId = prepared.channelId ∧
      L.parse prepared.opening.paramsJson = .ok json ∧
      (json.field "sender_pubkey").asStr = some senderHex ∧
      computeChannelSecretFromHex L K (secretToHex L receiverSecret) senderHex = .ok secretHex ∧
      storedParams L ⟨prepared.opening.paramsJson, completed.fundingProofsJson, secretHex,
        receiverKeysetJson⟩ = .ok params ∧
      params.getChannelId L = prepared.channelId ∧
      parseProofs L completed.fundingProofsJson = .ok proofs ∧
      verifyValidChannel L proofs params = .ok [] ∧
      EstablishedChannel.new L params proofs = .ok ⟨params, proofs⟩ := by
  obtain ⟨plan⟩ := exists_plan trips fits clock isPrepared isKeyset
  obtain ⟨json, isJson, senderField⟩ := plan.senderField trips
  obtain ⟨outputs, -⟩ := plan.outputs_of_request trips submitted
  obtain ⟨funding, change, completed, funds, keysetIds⟩ := plan.fundingSwap.completes trips issues
    unblinds checks mints plan.affordable (plan.signed trips submitted honest)
  -- The receiver computes the secret from its own key and the sender's.
  have agreed : computeChannelSecret K receiverSecret plan.sizing.sender = plan.sizing.secret := by
    have own := Except.ok.inj (receiver.symm.trans plan.sizing.receiver_eq)
    rw [plan.sender_eq trips, computeChannelSecret_comm laws, plan.secret_eq, ← own]
  have computed : computeChannelSecretFromHex L K (secretToHex L receiverSecret)
      (L.publicKeyToHex plan.sizing.sender) = .ok (Hex.encode plan.sizing.secret.val) := by
    simp only [computeChannelSecretFromHex, secretKeyFromHex_toHex trips,
      trips.publicKeyFromHex_toHex, Except.mapError, bind, Except.bind, pure, Except.pure, agreed]
  have derived : fundingSecrets L plan.sizing.channel = .ok plan.fundingSwap.secrets := by
    simp only [fundingSecrets, Outcome.bind_eq_ok, DeterministicOutputsForOneContext.new_eq_ok_iff]
    exact ⟨_, ⟨plan.fundingSwap.splits, rfl⟩, plan.fundingSwap.derived⟩
  have worth : plan.sizing.channel.fundingTokenAmount = (funding.map Proof.amount).sum := by
    rw [← plan.fundingSwap.sum_secrets, map_eq_map_of_forall₂ funds fun _ _ each => each.amount]
  have small : plan.sizing.channel.fundingTokenAmount < 2 ^ 64 :=
    (Nat.le_add_right _ _).trans_lt plan.affordable
  have done : ∃ opened, completePreparedOpenChannel L prepared responseJson = .ok opened ∧
      opened.channelId = prepared.channelId ∧
      opened.fundingProofsJson = L.render (L.proofsToJson funding) := by
    rw [plan.keysetInfo_eq] at completed
    simp only [completePreparedOpenChannel, submitted, completeFundingSwapForOutputs,
      plan.keyset_eq, answered, plan.fundingSecretsJson_eq, plan.changeSecretsJson_eq, outputs,
      completed, Outcome.ofExcept_ok, Outcome.mapErr_ok, Outcome.ok_bind, Outcome.pure_eq]
    exact ⟨_, rfl, rfl, rfl⟩
  obtain ⟨opened, isOpened, channelId, proofsJson⟩ := done
  refine ⟨opened, json, _, _, plan.sizing.channel, funding, isOpened, channelId, isJson,
    senderField, computed,
    plan.storedParams_eq trips fits clock sameKeyset (Hex.decode_encode _) _,
    plan.channelId_eq.symm, ?_, ?_, ?_⟩
  · simp only [parseProofs, proofsJson, trips.parse_render, Outcome.ofExcept_ok, Outcome.ok_bind,
      trips.proofsOfJson_toJson]
  · refine verifyValidChannel_eq_ok_nil_iff.mpr
      ⟨?_, ⟨plan.fundingSwap.secrets, derived, funds⟩, worth, small⟩
    rw [plan.keysetInfo_eq]
    exact published
  · exact EstablishedChannel.new_eq_ok_iff.mpr ⟨keysetIds, worth, small, rfl⟩

namespace Sample

theorem checksDleq : library.ChecksDleq := by
  intro signature key point verified
  by_contra missing
  simp [library, missing] at verified

/-- A wallet whose change all has the same secret. -/
def walletOps : WalletOps carriers where
  parseToken := fun _ => .error "not a token"
  sat := "sat"
  customUnit := id
  keysetsOfJson := fun json =>
    match json with
    | .arr ids => .ok (ids.filterMap fun id => id.asStr.map fun id => ⟨id, "sat", true, 0, none⟩)
    | _ => .error "not a list"
  preMintRandom := fun keysetId _ values _ _ =>
    .ok (values.map fun value =>
      ⟨⟨value, keysetId, hashToCurve "change" + point 7⟩, "change",
        ⟨point 7, point_seven_ne_zero⟩, value⟩)

theorem walletOps_mints : walletOps.Mints library := by
  intro keysetId amount values fee denominations secrets minted _
  obtain rfl := Except.ok.inj minted
  refine ⟨by simp [Function.comp_def], fun secret member => ?_⟩
  obtain ⟨value, -, rfl⟩ := List.mem_map.mp member
  exact ⟨rfl, rfl, rfl⟩

/-- The receiver's key. -/
def receiverKey : carriers.SecretKey := ⟨point 4, by decide⟩

/-- A channel of two out of three, in the mode that is not the default. -/
def openingTerms : OpeningTerms where
  receiverPubkeyHex := library.publicKeyToHex (library.publicKey receiverKey)
  senderPubkeyHex := library.publicKeyToHex (point 3)
  expiryTimestamp := 2000
  maxAmount := 0
  commitmentMode := .rerandomized
  requestedCapacity := none
  requestedFundingTokenAmount := some 2

/-- Three units of ecash. -/
def ecash : FundingSource carriers :=
  .proofs "m/" "sat"
    (library.proofsToJson [⟨3, (pairs "sat").keysetId, "old", point 1, none, none, none⟩])
    (.arr [.str (pairs "sat").keysetId])

/-- A client that has no channel yet. -/
def newClient : ClientHost carriers :=
  configurableClientHost library keyOps ring (fun _ => none) (fun _ => none) 1000

def preparesOpening : Outcome OpenChannelError (PreparedOpenChannel carriers) :=
  newClient.prepareOpenChannel library walletOps ecash openingTerms ((pairs "sat").toJson library)
    1000

/-- An opening is prepared, and the mint has keys for funding and change. -/
theorem prepares_ecash : preparesOpening.okAnd (fun prepared =>
    (Outcome.ofExcept (library.parse prepared.swapRequestJson >>=
      library.swapRequestOfJson)).okAnd fun request =>
        decide (request.rerandomized = false ∧ request.outputs.length = 2 ∧
          ∀ output ∈ request.outputs,
            ((pairs "sat").activeKeys.amountKey output.amount).isSome)) = true := by
  decide +kernel

theorem parseKeysetInfo_pairs : parseKeysetInfoFromJson library ((pairs "sat").toJson library) =
    .ok (pairs "sat") := by
  decide +kernel

end Sample

/-- A channel of two, opened with three units of ecash. -/
theorem opened_accepted_ecash :
    ∃ prepared responseJson completed senderHex secretHex params proofs,
      Sample.preparesOpening = .ok prepared ∧
      completePreparedOpenChannel Sample.library prepared responseJson = .ok completed ∧
      computeChannelSecretFromHex Sample.library Sample.keyOps
        (secretToHex Sample.library Sample.receiverKey) senderHex = .ok secretHex ∧
      storedParams Sample.library ⟨prepared.opening.paramsJson, completed.fundingProofsJson,
        secretHex, (Sample.pairs "sat").toJson Sample.library⟩ = .ok params ∧
      params.getChannelId Sample.library = prepared.channelId ∧
      verifyValidChannel Sample.library proofs params = .ok [] ∧
      EstablishedChannel.new Sample.library params proofs = .ok ⟨params, proofs⟩ := by
  obtain ⟨prepared, isPrepared, checked⟩ := Outcome.exists_of_okAnd Sample.prepares_ecash
  obtain ⟨request, submitted, checked⟩ := Outcome.exists_of_okAnd checked
  obtain ⟨mode, -, keys⟩ := of_decide_eq_true checked
  let signatures := request.outputs.map (Sample.signOutput (Sample.pairs "sat"))
  have honest : HonestResponse Sample.library (Sample.pairs "sat").activeKeys request []
      ⟨signatures, none⟩ := by
    refine .ordinary mode ?_
    rw [List.forall₂_map_left_iff, List.forall₂_same]
    exact fun output member => Sample.signedOutput_signOutput (keys output member)
  obtain ⟨completed, -, senderHex, secretHex, params, proofs, isCompleted, -, -, -, computed,
    stored, channelId, -, valid, established⟩ :=
    opened_accepted Sample.keyOps_laws Sample.roundTrips Sample.issues Sample.unblinds
      Sample.checksDleq Sample.walletOps_mints (show Sample.openingTerms.Representable from
        ⟨by decide, by decide⟩) (by decide) isPrepared Sample.parseKeysetInfo_pairs rfl
      (Outcome.ofExcept_eq_ok.mp submitted) (Sample.parseSwapResponse_toJson ⟨signatures, none⟩)
      honest (Sample.roundTrips.publicKeyFromHex_toHex _) Sample.parseKeysetInfo_pairs
  exact ⟨prepared, _, completed, senderHex, secretHex, params, proofs, isPrepared, isCompleted,
    computed, stored, channelId, valid, established⟩

end Spilman
