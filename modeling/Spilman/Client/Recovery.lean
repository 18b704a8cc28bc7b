/-
# Recovering an opening

A client that has submitted the swap of an opening and has lost the answer asks the
mint for the outputs again. The funding outputs are derived anew from the channel, the
change is read from what was kept of it; each is asked for by itself, answered in any
order and unblinded by itself. What comes out is what the answer to the swap would have
been completed to, up to the equality proofs, which a mint may make anew.

Before a channel counts as open, the restored funding is compared with the completed
one. The comparison is of texts, and the texts have the equality proofs in them: a
mint that makes them anew is taken for one that has signed something else.
-/

import Spilman.Client.Acceptance
import Spilman.Refund
import Spilman.Restore

namespace Spilman

open Lib

variable {T : Carriers} (L : Cashu T)

/-! ## Asking for outputs -/

/-- The text of an empty list. -/
def emptyListText : T.Text := L.render (.arr [])

/-- What the mint is asked. -/
def restoreRequestToJson (outputs : List (BlindedMessage T)) : Json :=
  .obj [("outputs", .arr (outputs.map (BlindedMessage.toJson L)))]

def createFundingRestoreRequest (paramsJson : T.Text) (channelSecretHex : String)
    (keysetInfoJson : T.Text) : Outcome String T.Text := do
  let fundingOutputs ← reconstructFundingOutputs L paramsJson channelSecretHex keysetInfoJson
  let blindedMessages ← (fundingOutputs.getBlindedMessages L none).mapErr fun e =>
    s!"Failed to get blinded messages: {e}"
  return L.render (restoreRequestToJson L blindedMessages)

/-- A change output from its kept secrets. Unlike for its completion, the keyset need not
have a key for it. -/
def changeRestoreOutput (keysetInfo : KeysetInfo T) (entry : Json × Nat) :
    Outcome String (BlindedMessage T) := do
  let value := entry.1
  let idx := entry.2
  let secret ← .ofOption s!"Missing 'secret' in change secret {idx}" (value.field "secret").asStr
  let blindingFactorHex ← .ofOption s!"Missing 'blinding_factor' in change secret {idx}"
    (value.field "blinding_factor").asStr
  let amount ← .ofOption s!"Missing 'amount' in change secret {idx}" (value.field "amount").asU64
  let blindingFactor ← (Outcome.ofExcept (secretKeyFromHex L blindingFactorHex)).mapErr fun e =>
    s!"Invalid change blinding factor {idx}: {e}"
  let blindedSecret ← (Outcome.ofExcept (L.blindMessage secret blindingFactor)).mapErr fun e =>
    s!"Failed to blind change secret {idx}: {e}"
  return ⟨amount, keysetInfo.keysetId, blindedSecret⟩

def createPlainChangeRestoreRequest (changeSecretsJson keysetInfoJson : T.Text) :
    Outcome String T.Text := do
  let keysetInfo ← parseKeysetInfoFromJson L keysetInfoJson
  let json ← (Outcome.ofExcept (L.parse changeSecretsJson)).mapErr fun e =>
    s!"Failed to parse change secrets: {e}"
  match json with
  | .arr values =>
      let outputs ← .mapAll (changeRestoreOutput L keysetInfo) values.zipIdx
      return L.render (restoreRequestToJson L outputs)
  | _ => .err ("Failed to parse change secrets: " ++ L.shapeError json)

/-! ## The mint's answers -/

/-- `serde_json::from_str` of a restore response. -/
def parseRestoreResponse (text : T.Text) : Except String (RestoreResponse T) :=
  L.parse text >>= L.restoreResponseOfJson

def completePlainChangeRestore (restoreResponseJson changeSecretsJson keysetInfoJson : T.Text) :
    Outcome String (FundingProofs T) := do
  let response ← (Outcome.ofExcept (parseRestoreResponse L restoreResponseJson)).mapErr fun e =>
    s!"Failed to parse change restore response: {e}"
  let keysetInfo ← parseKeysetInfoFromJson L keysetInfoJson
  let changeSecrets ← parsePreparedOutputs L changeSecretsJson keysetInfo "change"
  let expectedOutputs := changeSecrets.map PreparedSwapOutput.blindedMessage
  let signatures ← matchRestoreResponse response expectedOutputs "change"
  completeExactOpeningSignatures L signatures (emptyListText L) changeSecretsJson keysetInfo
    (some expectedOutputs)

def completeFundingRestore (restoreResponseJson paramsJson : T.Text) (channelSecretHex : String)
    (keysetInfoJson : T.Text) : Outcome String (FundingProofs T) := do
  let fundingOutputs ← reconstructFundingOutputs L paramsJson channelSecretHex keysetInfoJson
  let expectedOutputs ← (fundingOutputs.getBlindedMessages L none).mapErr fun e =>
    s!"Failed to get funding blinded messages: {e}"
  let fundingSecrets ← (fundingOutputs.getSecretsWithBlinding L).mapErr fun e =>
    s!"Failed to get funding secrets: {e}"
  let fundingSecretsJson := L.render (.arr (fundingSecrets.map fun secret =>
    openingSecretToJson L secret.secret secret.blindingFactor secret.amount))
  let response ← (Outcome.ofExcept (parseRestoreResponse L restoreResponseJson)).mapErr fun e =>
    s!"Failed to parse restore response: {e}"
  let signatures ← matchRestoreResponse response expectedOutputs "funding"
  let keysetInfo ← parseKeysetInfoFromJson L keysetInfoJson
  completeExactOpeningSignatures L signatures fundingSecretsJson (emptyListText L) keysetInfo
    (some expectedOutputs)

/-! ## Comparing a completed opening with its restored funding -/

/-- Complete the restored funding of a prepared opening. -/
def completeFundingRestoreForPreparedOpen (prepared : PreparedOpenChannel T)
    (restoreResponse : T.Text) : Outcome OpenChannelError T.Text := do
  let proofs ← (completeFundingRestore L restoreResponse prepared.opening.paramsJson
    prepared.opening.channelSecretHex prepared.opening.keysetInfoJson).mapErr
      (.new .restoreVerification (some prepared.channelId))
  return proofs.fundingProofsJson

/-- The question for the funding of a prepared opening. -/
def fundingRestoreRequestForPreparedOpen (prepared : PreparedOpenChannel T) :
    Outcome OpenChannelError T.Text :=
  (createFundingRestoreRequest L prepared.opening.paramsJson prepared.opening.channelSecretHex
    prepared.opening.keysetInfoJson).mapErr
      (.new .fundingProofsReceived (some prepared.channelId))

/-- Swap and restore must have given the same proofs. -/
def verifyCompletedOpenMatchesRestore (completed : CompletedOpenChannel T)
    (restoredFundingProofsJson : T.Text) : Outcome OpenChannelError Unit :=
  .guard (.new .restoreVerification (some completed.channelId)
    "Restore verification failed: swap proofs differ from restored proofs")
    (completed.fundingProofsJson = restoredFundingProofsJson)

/-! ## Recovery of an opening that was saved -/

/-- Questions for the outputs of a saved opening. -/
structure PreparedOpenRecovery (T : Carriers) where
  channelId : String
  mintUrl : String
  fundingRestoreRequestJson : T.Text
  changeRestoreRequestJson : Option T.Text
  opening : ClientChannelOpeningFromSwap T

/-- The question for the change of an opening, if it has any. -/
def changeRestoreRequest (opening : ClientChannelOpeningFromSwap T) :
    Outcome String (Option T.Text) :=
  if opening.changeAmountRaw = 0 then .ok none
  else do
    let request ← createPlainChangeRestoreRequest L opening.changeSecretsJson
      opening.keysetInfoJson
    return some request

/-- Prepare the recovery of an opening, from what the host says it has saved of it. -/
def prepareOpenChannelRecovery (channelId : String)
    (saved : Except String (Option (ClientChannelOpeningFromSwap T))) :
    Outcome OpenChannelError (PreparedOpenRecovery T) := do
  let failed := OpenChannelError.new .beforeOpeningSaved (some channelId)
  let found ← (Outcome.ofExcept saved).mapErr failed
  let opening ← .ofOption
    (failed s!"Channel not found in OpeningFromSwap state: {channelId}") found
  let fundingRestoreRequestJson ← (createFundingRestoreRequest L opening.paramsJson
    opening.channelSecretHex opening.keysetInfoJson).mapErr failed
  let changeRestoreRequestJson ← (changeRestoreRequest L opening).mapErr failed
  return {
    channelId
    mintUrl := opening.mintUrl
    fundingRestoreRequestJson, changeRestoreRequestJson, opening }

/-- A recovered opening. -/
structure CompletedOpenRecovery (T : Carriers) where
  channelId : String
  fundingProofsJson : T.Text
  changeProofsJson : T.Text
  result : OpenChannelResult T

/-- The restored change. It is answered exactly if it was asked for. -/
def recoverChange (prepared : PreparedOpenRecovery T) :
    Option T.Text → Option T.Text → Outcome String T.Text
  | none, none => .ok (emptyListText L)
  | some _, some response => do
      let proofs ← completePlainChangeRestore L response prepared.opening.changeSecretsJson
        prepared.opening.keysetInfoJson
      return proofs.changeProofsJson
  | some _, none => .err "Missing change restore response"
  | none, some _ => .err "Unexpected change restore response"

/-- Complete the recovery of an opening with the mint's answers, without recording it. -/
def completePreparedOpenRecovery (prepared : PreparedOpenRecovery T)
    (fundingRestoreResponse : T.Text) (changeRestoreResponse : Option T.Text) :
    Outcome OpenChannelError (CompletedOpenRecovery T) := do
  let failed := OpenChannelError.new .restoreVerification (some prepared.channelId)
  let funding ← (completeFundingRestore L fundingRestoreResponse prepared.opening.paramsJson
    prepared.opening.channelSecretHex prepared.opening.keysetInfoJson).mapErr failed
  let changeProofsJson ← (recoverChange L prepared prepared.changeRestoreRequestJson
    changeRestoreResponse).mapErr failed
  let keysetInfo ← (parseKeysetInfoFromJson L prepared.opening.keysetInfoJson).mapErr fun e =>
    failed s!"Failed to parse stored keyset info: {e}"
  return {
    channelId := prepared.channelId
    fundingProofsJson := funding.fundingProofsJson
    changeProofsJson
    result := {
      channelId := prepared.channelId
      capacity := prepared.opening.capacity
      fundingTokenAmount := prepared.opening.fundingTokenAmount
      mintUrl := prepared.opening.mintUrl
      unit := prepared.opening.unit
      keysetId := L.idToString keysetInfo.keysetId
      senderPubkeyHex := prepared.opening.senderPubkeyHex
      receiverPubkeyHex := prepared.opening.receiverPubkeyHex
      changeProofsJson } }

/-! ## What is asked for and what comes back -/

section Specifications

variable {L} {W : WalletOps T}

/-- What was asked can be read from the question. -/
theorem restoreRequestToJson_injective (trips : L.RoundTrips) :
    Function.Injective (restoreRequestToJson L) := by
  intro outputs outputs' same
  simp only [restoreRequestToJson, Json.obj.injEq, List.cons.injEq, Prod.mk.injEq, true_and,
    and_true, Json.arr.injEq] at same
  exact List.map_injective_iff.mpr (BlindedMessage.toJson_injective trips) same

theorem render_injective (trips : L.RoundTrips) : Function.Injective L.render :=
  Cashu.RoundTrips.injective_of_read trips.parse_render

/-- What an honest mint answers to a question, as texts. -/
def AnswersQuestion (L : Cashu T) (keys : Keys T)
    (issued : List (BlindedMessage T × BlindSignature T)) (question answer : T.Text) : Prop :=
  ∃ queries response, question = L.render (restoreRequestToJson L queries) ∧
    parseRestoreResponse L answer = .ok response ∧ HonestRestore L keys issued queries response

theorem answersQuestion_render (trips : L.RoundTrips) {keys : Keys T}
    {issued : List (BlindedMessage T × BlindSignature T)} {queries : List (BlindedMessage T)}
    {answer : T.Text} :
    AnswersQuestion L keys issued (L.render (restoreRequestToJson L queries)) answer ↔
      ∃ response, parseRestoreResponse L answer = .ok response ∧
        HonestRestore L keys issued queries response := by
  constructor
  · rintro ⟨queries', response, same, parsed, honest⟩
    obtain rfl := restoreRequestToJson_injective trips (render_injective trips same)
    exact ⟨response, parsed, honest⟩
  · rintro ⟨response, parsed, honest⟩
    exact ⟨queries, response, rfl, parsed, honest⟩

/-- Every restored output comes with the very signature it was issued with. -/
def Repeats (L : Cashu T) (issued : List (BlindedMessage T × BlindSignature T))
    (answer : T.Text) : Prop :=
  ∃ response, parseRestoreResponse L answer = .ok response ∧
    ∀ entry ∈ response.outputs.zip response.signatures, entry ∈ issued

/-- Texts of proofs that agree up to the equality proofs, one by one. -/
def AgreeOnProofs (L : Cashu T) (text text' : T.Text) : Prop :=
  ∃ proofs proofs', parseProofs L text = .ok proofs ∧ parseProofs L text' = .ok proofs' ∧
    List.Forall₂ SameProof proofs proofs'

/-- Change that was kept is asked for. -/
theorem createPlainChangeRestoreRequest_kept (trips : L.RoundTrips) {keysetInfo : KeysetInfo T}
    {keysetInfoJson : T.Text} (isKeyset : parseKeysetInfoFromJson L keysetInfoJson = .ok keysetInfo)
    {outputs : List (PreparedSwapOutput T)}
    (kept : ∀ output ∈ outputs, Kept L keysetInfo output) :
    createPlainChangeRestoreRequest L (L.render (keptSecrets L outputs)) keysetInfoJson =
      .ok (L.render (restoreRequestToJson L (outputs.map PreparedSwapOutput.blindedMessage))) := by
  have each (output : PreparedSwapOutput T) (member : output ∈ outputs) (idx : Nat) :
      changeRestoreOutput L keysetInfo (openingSecretToJson L output.secret
        output.blindingFactor output.blindedMessage.amount, idx) = .ok output.blindedMessage := by
    obtain ⟨blinds, keysetId, -, fits⟩ := kept output member
    obtain ⟨⟨amount, id, point⟩, secret, blindingFactor⟩ := output
    dsimp only at blinds keysetId fits
    subst keysetId
    simp [changeRestoreOutput, openingSecretToJson, Json.field, Json.get?, List.lookup_cons,
      Json.asU64_num fits, secretKeyFromHex_toHex trips, blinds]
  have all : Outcome.mapAll (changeRestoreOutput L keysetInfo)
      (outputs.map fun output => openingSecretToJson L output.secret output.blindingFactor
        output.blindedMessage.amount).zipIdx =
        .ok (outputs.map PreparedSwapOutput.blindedMessage) := by
    rw [Outcome.mapAll_eq_ok, List.zipIdx_map, List.forall₂_map_left_iff]
    nth_rewrite 2 [← List.zipIdx_map_fst 0 outputs]
    rw [List.map_map, List.forall₂_map_right_iff, List.forall₂_same]
    exact fun entry member => each entry.1 (List.fst_mem_of_mem_zipIdx member) entry.2
  simp only [createPlainChangeRestoreRequest, keptSecrets, isKeyset, trips.parse_render,
    Outcome.ofExcept_ok, Outcome.mapErr_ok, Outcome.ok_bind, all, Outcome.pure_eq]

/-- Outputs that were issued in a swap are restored by themselves, to the proofs the swap
has given for them. -/
theorem exists_restored (issues : L.Issues)
    {unblind : T.PublicKey → T.SecretKey → T.PublicKey → T.PublicKey} {keysetInfo : KeysetInfo T}
    (builds : ∀ {signatures : List (BlindSignature T)} {outputs : List (PreparedSwapOutput T)}
      {proofs : List (Proof T)},
      L.constructProofs signatures (outputs.map PreparedSwapOutput.blindingFactor)
        (outputs.map PreparedSwapOutput.secret) keysetInfo.activeKeys = .ok proofs →
      signatures.length = outputs.length →
      List.Forall₂ (UnblindsTo unblind keysetInfo.activeKeys) (signatures.zip outputs) proofs)
    {issued : List (BlindedMessage T × BlindSignature T)}
    (points : (issued.map fun entry => entry.1.blindedSecret).Nodup)
    {outputs : List (PreparedSwapOutput T)} {signatures : List (BlindSignature T)}
    {proofs : List (Proof T)} (kept : ∀ output ∈ outputs, Kept L keysetInfo output)
    (total : (outputs.map fun output => output.blindedMessage.amount).sum < 2 ^ 64)
    (distinct : (outputs.map PreparedSwapOutput.blindedMessage).Nodup)
    (count : signatures.length = outputs.length)
    (inIssued : ∀ entry ∈ (outputs.map PreparedSwapOutput.blindedMessage).zip signatures,
      entry ∈ issued)
    (made : List.Forall₂ (UnblindsTo unblind keysetInfo.activeKeys) (signatures.zip outputs) proofs)
    {response : RestoreResponse T}
    (honest : HonestRestore L keysetInfo.activeKeys issued
      (outputs.map PreparedSwapOutput.blindedMessage) response) :
    ∃ again proofs', Restores response (outputs.map PreparedSwapOutput.blindedMessage) again ∧
      completeExactSignatures L again outputs keysetInfo none = .ok proofs' ∧
      proofs'.length = outputs.length ∧ List.Forall₂ SameProof proofs proofs' ∧
      (proofs' = proofs ↔ ∀ entry ∈ response.outputs.zip response.signatures, entry ∈ issued) := by
  have asked : ∀ query ∈ outputs.map PreparedSwapOutput.blindedMessage,
      query ∈ issued.map Prod.fst := by
    intro query member
    have fits : (outputs.map PreparedSwapOutput.blindedMessage).length ≤ signatures.length := by
      rw [List.length_map, count]
    rw [← List.map_fst_zip fits] at member
    obtain ⟨entry, inZip, rfl⟩ := List.mem_map.mp member
    exact List.mem_map_of_mem (inIssued entry inZip)
  obtain ⟨again, restores, reissued⟩ := honest.restores points distinct asked
  have signed : List.Forall₂ (fun signature output =>
      SignedOutput L keysetInfo.activeKeys signature output.blindedMessage) again outputs :=
    (List.forall₂_map_left_iff.mp (reissued.imp fun _ _ each => each.signed)).flip
  obtain ⟨proofs', completed, verified⟩ := exists_completed issues signed kept total
  obtain ⟨-, -, built⟩ := completeExactSignatures_eq_ok_iff.mp completed
  obtain ⟨same, equal⟩ := sameProofs_of_reissued points reissued count inIssued made
    (builds built signed.length_eq)
  refine ⟨again, proofs', restores, completed, verified.length_eq, same, equal.trans ?_⟩
  exact ⟨fun each entry member => each entry (restores.perm.subset member),
    fun each entry member => each entry (restores.perm.symm.subset member)⟩

variable {terms : OpeningTerms} {keysetInfo : KeysetInfo T} {unixTime : Nat}
  {prepared : PreparedOpenChannel T} (plan : SwapPlan L W terms keysetInfo unixTime prepared)

namespace SwapPlan

/-- The funding outputs are derived again as they were. -/
theorem reconstructs (trips : L.RoundTrips) (fits : terms.Representable)
    (clock : unixTime < 2 ^ 64) :
    ∃ outputs, reconstructFundingOutputs L prepared.opening.paramsJson
        prepared.opening.channelSecretHex prepared.opening.keysetInfoJson = .ok outputs ∧
      outputs.getSecretsWithBlinding L = .ok plan.fundingSwap.secrets ∧
      outputs.getBlindedMessages L none = .ok plan.fundingSwap.messages := by
  have splits := plan.fundingSwap.splits
  refine ⟨outputsFor "funding" plan.sizing.channel.fundingTokenAmount plan.sizing.channel, ?_,
    plan.fundingSwap.derived, ?_⟩
  · simp only [reconstructFundingOutputs, plan.keyset_eq, plan.paramsJson_eq,
      decode32_eq_ok_iff.mpr plan.sizing.secret_eq, plan.sizing.reads trips fits clock,
      Outcome.ofExcept_ok, Outcome.mapErr_ok, Outcome.ok_bind,
      (DeterministicOutputsForOneContext.new_eq_ok_iff).mpr ⟨splits, rfl⟩]
  · exact (getBlindedMessages_eq_ok_iff L).mpr
      ⟨_, plan.fundingSwap.derived, plan.fundingSwap.offers⟩

/-- The question for the funding. -/
theorem asksFunding (trips : L.RoundTrips) (fits : terms.Representable)
    (clock : unixTime < 2 ^ 64) :
    createFundingRestoreRequest L prepared.opening.paramsJson prepared.opening.channelSecretHex
      prepared.opening.keysetInfoJson =
        .ok (L.render (restoreRequestToJson L plan.fundingSwap.messages)) := by
  obtain ⟨outputs, isOutputs, -, offered⟩ := plan.reconstructs trips fits clock
  simp only [createFundingRestoreRequest, isOutputs, offered, Outcome.ok_bind, Outcome.mapErr_ok,
    Outcome.pure_eq]

section Restored

variable {answer : T.Text} {response : RestoreResponse T} {again : List (BlindSignature T)}
  {proofs : List (Proof T)} (parsed : parseRestoreResponse L answer = .ok response)

include parsed

/-- Restored signatures on the funding are completed by themselves. -/
theorem restoresFunding (trips : L.RoundTrips) (fits : terms.Representable)
    (clock : unixTime < 2 ^ 64)
    (kept : ∀ output ∈ plan.fundingSwap.funding, Kept L keysetInfo output)
    (restores : Restores response plan.fundingSwap.messages again)
    (completed : completeExactSignatures L again plan.fundingSwap.funding keysetInfo none =
      .ok proofs) (count : proofs.length = plan.fundingSwap.funding.length) :
    completeFundingRestore L answer prepared.opening.paramsJson prepared.opening.channelSecretHex
      prepared.opening.keysetInfoJson =
        .ok ⟨L.render (L.proofsToJson proofs), L.render (L.proofsToJson [])⟩ := by
  obtain ⟨outputs, isOutputs, derived, offered⟩ := plan.reconstructs trips fits clock
  have kept_eq := plan.fundingSwap.fundingSecretsJson_eq.symm.trans plan.fundingSwap.funding_kept
  rw [← List.append_nil plan.fundingSwap.funding] at kept completed
  have unblinded := completeExactOpeningSignatures_kept trips kept rfl completed
  rw [List.append_nil, plan.fundingSwap.funding_messages, ← count, List.take_length,
    List.drop_length] at unblinded
  simp only [completeFundingRestore, isOutputs, offered, derived, parsed, plan.keyset_eq,
    matchRestoreResponse_eq_ok_iff.mpr restores, kept_eq, Outcome.ofExcept_ok, Outcome.mapErr_ok,
    Outcome.ok_bind]
  exact unblinded

/-- Restored signatures on the change are completed by themselves. -/
theorem restoresChange (trips : L.RoundTrips) (mints : W.Mints L)
    (kept : ∀ output ∈ plan.fundingSwap.plainChange, Kept L keysetInfo output)
    (restores : Restores response
      (plan.fundingSwap.plainChange.map PreparedSwapOutput.blindedMessage) again)
    (completed : completeExactSignatures L again plan.fundingSwap.plainChange keysetInfo none =
      .ok proofs) :
    completePlainChangeRestore L answer prepared.opening.changeSecretsJson
      prepared.opening.keysetInfoJson =
        .ok ⟨L.render (L.proofsToJson []), L.render (L.proofsToJson proofs)⟩ := by
  have keptAll := kept
  rw [← List.nil_append plan.fundingSwap.plainChange] at keptAll completed
  have unblinded := completeExactOpeningSignatures_kept trips keptAll rfl completed
  rw [List.nil_append, List.length_nil, List.take_zero, List.drop_zero] at unblinded
  simp only [completePlainChangeRestore, parsed, plan.keyset_eq, plan.savedSecrets_eq,
    plan.fundingSwap.plainChange_kept mints, parsePreparedOutputs_keptSecrets trips kept,
    matchRestoreResponse_eq_ok_iff.mpr restores, Outcome.ofExcept_ok, Outcome.mapErr_ok,
    Outcome.ok_bind]
  exact unblinded

end Restored

/-- The answer to the swap is completed to the proofs of funding and change. -/
theorem completesOpening (trips : L.RoundTrips) (mints : W.Mints L)
    (kept : ∀ output ∈ plan.fundingSwap.funding ++ plan.fundingSwap.plainChange,
      Kept L keysetInfo output) {request : SwapRequest T}
    (submitted : (L.parse prepared.swapRequestJson >>= L.swapRequestOfJson) = .ok request)
    {responseJson : T.Text} {response : SwapResponse T} {proofs : List (Proof T)}
    (answered : parseSwapResponse L responseJson = .ok response)
    (completed : completeExactSignatures L response.signatures
      (plan.fundingSwap.funding ++ plan.fundingSwap.plainChange) keysetInfo none = .ok proofs) :
    ∃ opened, completePreparedOpenChannel L prepared responseJson = .ok opened ∧
      opened.fundingProofsJson =
        L.render (L.proofsToJson (proofs.take plan.fundingSwap.funding.length)) ∧
      opened.changeProofsJson =
        L.render (L.proofsToJson (proofs.drop plan.fundingSwap.funding.length)) := by
  have unblinded := completeExactOpeningSignatures_kept trips kept plan.fundingSwap.outputs_eq
    completed
  rw [← plan.fundingSwap.funding_kept, ← plan.fundingSwap.plainChange_kept mints] at unblinded
  simp only [completePreparedOpenChannel, submitted, completeFundingSwapForOutputs,
    plan.keyset_eq, answered, plan.fundingSecretsJson_eq, plan.changeSecretsJson_eq,
    (plan.outputs_of_request trips submitted).1, unblinded, Outcome.ofExcept_ok,
    Outcome.mapErr_ok, Outcome.ok_bind, Outcome.pure_eq]
  exact ⟨_, rfl, rfl, rfl⟩

/-- The questions that the recovery of an opening asks. -/
theorem preparesRecovery (trips : L.RoundTrips) (fits : terms.Representable)
    (clock : unixTime < 2 ^ 64) (mints : W.Mints L)
    (kept : ∀ output ∈ plan.fundingSwap.plainChange, Kept L keysetInfo output) :
    ∃ recovery, prepareOpenChannelRecovery L prepared.channelId (.ok (some prepared.opening)) =
        .ok recovery ∧ recovery.opening = prepared.opening ∧
      recovery.fundingRestoreRequestJson =
        L.render (restoreRequestToJson L plan.fundingSwap.messages) ∧
      recovery.changeRestoreRequestJson =
        if prepared.opening.changeAmountRaw = 0 then none
        else some (L.render (restoreRequestToJson L
          (plan.fundingSwap.plainChange.map PreparedSwapOutput.blindedMessage))) := by
  have asks := createPlainChangeRestoreRequest_kept trips plan.keyset_eq kept
  rw [← plan.fundingSwap.plainChange_kept mints, ← plan.savedSecrets_eq] at asks
  simp only [prepareOpenChannelRecovery, changeRestoreRequest, plan.asksFunding trips fits clock,
    asks, Outcome.ofExcept_ok, Outcome.ofOption_some, Outcome.mapErr_ok, Outcome.ok_bind,
    Outcome.pure_eq]
  by_cases nothing : prepared.opening.changeAmountRaw = 0
  · simp only [if_pos nothing, Outcome.mapErr_ok, Outcome.ok_bind]
    exact ⟨_, rfl, rfl, rfl, rfl⟩
  · simp only [if_neg nothing, Outcome.mapErr_ok, Outcome.ok_bind]
    exact ⟨_, rfl, rfl, rfl, rfl⟩

end SwapPlan

/-- Texts of proofs are the same if the proofs are. -/
theorem render_proofs_inj (trips : L.RoundTrips) {proofs proofs' : List (Proof T)} :
    L.render (L.proofsToJson proofs) = L.render (L.proofsToJson proofs') ↔ proofs' = proofs := by
  constructor
  · intro same
    exact (Cashu.RoundTrips.injective_of_read trips.proofsOfJson_toJson
      (render_injective trips same)).symm
  · rintro rfl
    rfl

theorem agreeOnProofs_render (trips : L.RoundTrips) {proofs proofs' : List (Proof T)}
    (same : List.Forall₂ SameProof proofs proofs') :
    AgreeOnProofs L (L.render (L.proofsToJson proofs)) (L.render (L.proofsToJson proofs')) := by
  refine ⟨proofs, proofs', ?_, ?_, same⟩ <;>
    simp only [parseProofs, trips.parse_render, Outcome.ofExcept_ok, Outcome.ok_bind,
      trips.proofsOfJson_toJson]

/-- The answer to the change, if it was asked for. -/
def AnswersChange (L : Cashu T) (keys : Keys T)
    (issued : List (BlindedMessage T × BlindSignature T)) :
    (question answer : Option T.Text) → Prop :=
  Option.Rel (AnswersQuestion L keys issued)

namespace SwapPlan

/-- There is change exactly if it is asked for. -/
theorem plainChange_eq_nil (nothing : prepared.opening.changeAmountRaw = 0) :
    plan.fundingSwap.plainChange = [] := by
  have changed := plan.fundingSwap.changed
  rw [plainChangeOutputs, if_pos (plan.savedAmount_eq.symm.trans nothing)] at changed
  rw [FundingSwap.plainChange, ← Outcome.ok.inj changed]
  rfl

/-- The restored change. -/
theorem recoversChange (trips : L.RoundTrips) (mints : W.Mints L)
    (emptyList : L.proofsToJson [] = .arr [])
    (kept : ∀ output ∈ plan.fundingSwap.plainChange, Kept L keysetInfo output)
    {recovery : PreparedOpenRecovery T} (opening : recovery.opening = prepared.opening)
    (asks : recovery.changeRestoreRequestJson =
      if prepared.opening.changeAmountRaw = 0 then none
      else some (L.render (restoreRequestToJson L
        (plan.fundingSwap.plainChange.map PreparedSwapOutput.blindedMessage))))
    {issued : List (BlindedMessage T × BlindSignature T)} {changeAnswer : Option T.Text}
    (honest : AnswersChange L keysetInfo.activeKeys issued recovery.changeRestoreRequestJson
      changeAnswer) {proofs : List (Proof T)}
    (count : proofs.length = plan.fundingSwap.plainChange.length)
    (restored : ∀ {response : RestoreResponse T},
      HonestRestore L keysetInfo.activeKeys issued
        (plan.fundingSwap.plainChange.map PreparedSwapOutput.blindedMessage) response →
      ∃ again proofs', Restores response
          (plan.fundingSwap.plainChange.map PreparedSwapOutput.blindedMessage) again ∧
        completeExactSignatures L again plan.fundingSwap.plainChange keysetInfo none = .ok proofs' ∧
        List.Forall₂ SameProof proofs proofs') :
    ∃ text, recoverChange L recovery recovery.changeRestoreRequestJson changeAnswer = .ok text ∧
      AgreeOnProofs L (L.render (L.proofsToJson proofs)) text := by
  by_cases nothing : prepared.opening.changeAmountRaw = 0
  · rw [asks, if_pos nothing] at honest ⊢
    cases honest
    rw [plan.plainChange_eq_nil nothing, List.length_nil, List.length_eq_zero_iff] at count
    subst count
    refine ⟨_, rfl, ?_⟩
    rw [emptyListText, ← emptyList]
    exact agreeOnProofs_render trips .nil
  · rw [asks, if_neg nothing] at honest ⊢
    cases honest with
    | some honest =>
        obtain ⟨response, parsed, honest⟩ := (answersQuestion_render trips).mp honest
        obtain ⟨again, proofs', restores, completed, same⟩ := restored honest
        refine ⟨_, ?_, agreeOnProofs_render trips same⟩
        simp only [recoverChange, opening, plan.restoresChange parsed trips mints kept restores
          completed, Outcome.ok_bind, Outcome.pure_eq]

end SwapPlan

end Specifications

/-- **Restoring an opening gives what completing it would have given.** For every opening
that any host prepares, and an honest mint that has executed its swap: the answer to the
swap is completed; the recovery asks for funding and change; and for all answers to these
questions it ends with the proofs of the completion in the same order, up to their equality
proofs. The comparison of the restored funding with the completed one accepts exactly if
the mint has repeated the equality proofs of the funding. -/
theorem recovery_matches_completion {L : Cashu T} {W : WalletOps T} (trips : L.RoundTrips)
    (issues : L.Issues) (unblinds : L.Unblinds) (points : L.UnblindsPoints) (mints : W.Mints L)
    (emptyList : L.proofsToJson [] = .arr []) {host : ClientHost T} {source : FundingSource T}
    {terms : OpeningTerms} (fits : terms.Representable) {keysetInfoJson : T.Text} {unixTime : Nat}
    (clock : unixTime < 2 ^ 64) {prepared : PreparedOpenChannel T}
    (isPrepared : host.prepareOpenChannel L W source terms keysetInfoJson unixTime = .ok prepared)
    {keysetInfo : KeysetInfo T}
    (isKeyset : parseKeysetInfoFromJson L keysetInfoJson = .ok keysetInfo)
    {request : SwapRequest T}
    (submitted : (L.parse prepared.swapRequestJson >>= L.swapRequestOfJson) = .ok request)
    (distinct : (request.outputs.map BlindedMessage.blindedSecret).Nodup)
    {responseJson : T.Text} {response : SwapResponse T} {factors : List T.SecretKey}
    (answered : parseSwapResponse L responseJson = .ok response)
    (honest : HonestResponse L keysetInfo.activeKeys request factors response) :
    ∃ completed recovery,
      completePreparedOpenChannel L prepared responseJson = .ok completed ∧
      prepareOpenChannelRecovery L prepared.channelId (.ok (some prepared.opening)) =
        .ok recovery ∧
      fundingRestoreRequestForPreparedOpen L prepared = .ok recovery.fundingRestoreRequestJson ∧
      ∀ fundingAnswer changeAnswer,
        AnswersQuestion L keysetInfo.activeKeys (request.outputs.zip response.signatures)
          recovery.fundingRestoreRequestJson fundingAnswer →
        AnswersChange L keysetInfo.activeKeys (request.outputs.zip response.signatures)
          recovery.changeRestoreRequestJson changeAnswer →
        ∃ recovered, completePreparedOpenRecovery L recovery fundingAnswer changeAnswer =
            .ok recovered ∧
          AgreeOnProofs L completed.fundingProofsJson recovered.fundingProofsJson ∧
          AgreeOnProofs L completed.changeProofsJson recovered.changeProofsJson ∧
          completeFundingRestoreForPreparedOpen L prepared fundingAnswer =
            .ok recovered.fundingProofsJson ∧
          (verifyCompletedOpenMatchesRestore completed recovered.fundingProofsJson = .ok () ↔
            Repeats L (request.outputs.zip response.signatures) fundingAnswer) := by
  obtain ⟨-, ⟨plan⟩⟩ := exists_swapPlan trips fits clock isPrepared isKeyset
  obtain ⟨unblind, builds⟩ := unblindsTo_of_built unblinds points
  have signed := plan.signed trips submitted honest
  have total := plan.fundingSwap.sum_lt mints plan.affordable
  have kept := plan.fundingSwap.kept mints plan.affordable fun output member => by
    obtain ⟨signature, -, -, -, key, hasKey, -⟩ := exists_left_of_forall₂ signed member
    simp [hasKey]
  rw [plan.keysetInfo_eq] at signed kept
  have signedAll := signed
  rw [plan.fundingSwap.outputs_eq, List.forall₂_map_right_iff] at signedAll
  obtain ⟨proofs, completed, verified⟩ := exists_completed issues signedAll kept total
  obtain ⟨-, -, built⟩ := completeExactSignatures_eq_ok_iff.mp completed
  have made := builds built signedAll.length_eq
  obtain ⟨opened, isOpened, isFunding, isChange⟩ :=
    plan.completesOpening trips mints kept submitted answered completed
  obtain ⟨recovery, isRecovery, opening, asksFunding, asksChange⟩ := plan.preparesRecovery trips
    fits clock mints fun output member => kept output (List.mem_append_right _ member)
  -- the swap in its two parts: what was issued, and what it was unblinded to
  have isOutputs := (plan.outputs_of_request trips submitted).1.trans plan.fundingSwap.outputs_eq
  obtain ⟨first, second, isSignatures, size₁, size₂, made₁, made₂⟩ :=
    forall₂_zip_append signedAll.length_eq made
  have issued_eq : request.outputs.zip response.signatures =
      (plan.fundingSwap.funding.map PreparedSwapOutput.blindedMessage).zip first ++
        (plan.fundingSwap.plainChange.map PreparedSwapOutput.blindedMessage).zip second := by
    rw [isOutputs, isSignatures, List.map_append, List.zip_append]
    rw [List.length_map, size₁]
  have points : ((request.outputs.zip response.signatures).map fun entry =>
      entry.1.blindedSecret).Nodup := by
    rw [issued_points (by rw [isOutputs, List.length_map, signedAll.length_eq])]
    exact distinct
  have messages := List.Nodup.of_map _ distinct
  rw [isOutputs, List.map_append] at messages
  rw [List.map_append, List.sum_append] at total
  have size := verified.length_eq
  rw [List.length_append] at size
  refine ⟨opened, recovery, isOpened, isRecovery, ?_, ?_⟩
  · rw [fundingRestoreRequestForPreparedOpen, plan.asksFunding trips fits clock, asksFunding]
    rfl
  · intro fundingAnswer changeAnswer honestFunding honestChange
    rw [asksFunding, ← plan.fundingSwap.funding_messages] at honestFunding
    obtain ⟨answer, parsed, honestFunding⟩ := (answersQuestion_render trips).mp honestFunding
    obtain ⟨again, restored, restores, unblinded, count, same, equal⟩ :=
      exists_restored issues builds points
        (fun output member => kept output (List.mem_append_left _ member)) (by omega)
        messages.of_append_left size₁
        (fun entry member => issued_eq ▸ List.mem_append_left _ member) made₁ honestFunding
    rw [plan.fundingSwap.funding_messages] at restores
    have fundingRestored := plan.restoresFunding parsed trips fits clock
      (fun output member => kept output (List.mem_append_left _ member)) restores unblinded count
    obtain ⟨changeText, changeRestored, sameChange⟩ := plan.recoversChange trips mints emptyList
      (fun output member => kept output (List.mem_append_right _ member)) opening asksChange
      honestChange (by rw [List.length_drop, size, Nat.add_sub_cancel_left]) fun honest => by
        obtain ⟨again, restored, restores, unblinded, -, same, -⟩ :=
          exists_restored issues builds points
            (fun output member => kept output (List.mem_append_right _ member)) (by omega)
            messages.of_append_right size₂
            (fun entry member => issued_eq ▸ List.mem_append_right _ member) made₂ honest
        exact ⟨again, restored, restores, unblinded, same⟩
    have recovered : ∃ recovered, completePreparedOpenRecovery L recovery fundingAnswer
        changeAnswer = .ok recovered ∧
        recovered.fundingProofsJson = L.render (L.proofsToJson restored) ∧
        recovered.changeProofsJson = changeText := by
      simp only [completePreparedOpenRecovery, opening, fundingRestored, changeRestored,
        plan.keyset_eq, Outcome.mapErr_ok, Outcome.ok_bind, Outcome.pure_eq]
      exact ⟨_, rfl, rfl, rfl⟩
    obtain ⟨recovered, isRecovered, isRestored, isChangeText⟩ := recovered
    refine ⟨recovered, isRecovered, ?_, ?_, ?_, ?_⟩
    · rw [isFunding, isRestored]
      exact agreeOnProofs_render trips same
    · rw [isChange, isChangeText]
      exact sameChange
    · rw [isRestored]
      simp only [completeFundingRestoreForPreparedOpen, fundingRestored, Outcome.mapErr_ok,
        Outcome.ok_bind, Outcome.pure_eq]
    · rw [verifyCompletedOpenMatchesRestore, Outcome.guard_eq_ok, isFunding, isRestored,
        render_proofs_inj trips, equal]
      constructor
      · exact fun each => ⟨answer, parsed, each⟩
      · rintro ⟨answer', parsed', each⟩
        obtain rfl := Except.ok.inj (parsed.symm.trans parsed')
        exact each

namespace Sample

/-- An opening with one funding and one change output, and the questions for them. -/
structure Asked (prepared : PreparedOpenChannel carriers) (request : SwapRequest carriers)
    (recovery : PreparedOpenRecovery carriers) : Prop where
  mode : request.rerandomized = false
  keys : ∀ output ∈ request.outputs, ((pairs "sat").activeKeys.amountKey output.amount).isSome
  distinct : (request.outputs.map BlindedMessage.blindedSecret).Nodup
  funding : recovery.fundingRestoreRequestJson =
    library.render (restoreRequestToJson library (request.outputs.take 1))
  change : recovery.changeRestoreRequestJson =
    some (library.render (restoreRequestToJson library (request.outputs.drop 1)))

instance (prepared : PreparedOpenChannel carriers) (request : SwapRequest carriers)
    (recovery : PreparedOpenRecovery carriers) : Decidable (Asked prepared request recovery) :=
  decidable_of_iff (_ ∧ _ ∧ _ ∧ _ ∧ _)
    ⟨fun ⟨mode, keys, distinct, funding, change⟩ => ⟨mode, keys, distinct, funding, change⟩,
      fun asked => ⟨asked.mode, asked.keys, asked.distinct, asked.funding, asked.change⟩⟩

/-- The mint's answer to the swap. -/
def signAll (request : SwapRequest carriers) : SwapResponse carriers :=
  ⟨request.outputs.map (signOutput (pairs "sat")), none⟩

/-- Its answer to a question, with equality proofs made anew. -/
def restoreAll (queries : List (BlindedMessage carriers)) (dleq : BlindSignatureDleq carriers) :
    Json :=
  restoreToJson ⟨queries, queries.map (signAnew (pairs "sat") dleq)⟩

theorem answersQuestion_restoreAll {request : SwapRequest carriers}
    (keys : ∀ output ∈ request.outputs, ((pairs "sat").activeKeys.amountKey output.amount).isSome)
    {queries : List (BlindedMessage carriers)} (asked : ∀ query ∈ queries, query ∈ request.outputs)
    (dleq : BlindSignatureDleq carriers) :
    AnswersQuestion library (pairs "sat").activeKeys
      (request.outputs.zip (signAll request).signatures)
      (library.render (restoreRequestToJson library queries)) (restoreAll queries dleq) :=
  (answersQuestion_render roundTrips).mpr
    ⟨_, restoreTrips.restoreResponseOfJson_toJson _, honestRestore_signAnew keys asked dleq⟩

theorem Asked.honest {prepared : PreparedOpenChannel carriers} {request : SwapRequest carriers}
    {recovery : PreparedOpenRecovery carriers} (asked : Asked prepared request recovery) :
    HonestResponse library (pairs "sat").activeKeys request [] (signAll request) := by
  refine .ordinary asked.mode ?_
  rw [List.forall₂_map_left_iff, List.forall₂_same]
  exact fun output member => signedOutput_signOutput (asked.keys output member)

/-- An equality proof, as the mint makes it first. -/
def firstDleq : BlindSignatureDleq carriers := ⟨⟨1, Sample.one_ne_zero⟩, ⟨1, Sample.one_ne_zero⟩⟩

/-- Another one, of the same equality. -/
def otherDleq : BlindSignatureDleq carriers := ⟨⟨2, by decide⟩, ⟨3, by decide⟩⟩

def requestOf (prepared : PreparedOpenChannel carriers) :
    Outcome String (SwapRequest carriers) :=
  .ofExcept (library.parse prepared.swapRequestJson >>= library.swapRequestOfJson)

def recoveryOf (prepared : PreparedOpenChannel carriers) :
    Outcome OpenChannelError (PreparedOpenRecovery carriers) :=
  prepareOpenChannelRecovery library prepared.channelId (.ok (some prepared.opening))

theorem exists_asked : ∃ prepared request recovery, preparesOpening = .ok prepared ∧
    requestOf prepared = .ok request ∧ recoveryOf prepared = .ok recovery ∧
    Asked prepared request recovery := by
  have ran : preparesOpening.okAnd (fun prepared => (requestOf prepared).okAnd fun request =>
      (recoveryOf prepared).okAnd fun recovery => decide (Asked prepared request recovery)) =
        true := by
    decide +kernel
  obtain ⟨prepared, isPrepared, ran⟩ := Outcome.exists_of_okAnd ran
  obtain ⟨request, isRequest, ran⟩ := Outcome.exists_of_okAnd ran
  obtain ⟨recovery, isRecovery, ran⟩ := Outcome.exists_of_okAnd ran
  exact ⟨prepared, request, recovery, isPrepared, isRequest, isRecovery, of_decide_eq_true ran⟩

end Sample

/-- A mint that repeats its equality proofs: the restored opening is the completed one. -/
theorem recovery_matches_completion_repeated :
    ∃ prepared request completed recovery recovered,
      Sample.preparesOpening = .ok prepared ∧ Sample.requestOf prepared = .ok request ∧
      Sample.recoveryOf prepared = .ok recovery ∧
      completePreparedOpenChannel Sample.library prepared
        (Sample.responseToJson (Sample.signAll request)) = .ok completed ∧
      completePreparedOpenRecovery Sample.library recovery
        (Sample.restoreAll (request.outputs.take 1) Sample.firstDleq)
        (some (Sample.restoreAll (request.outputs.drop 1) Sample.otherDleq)) = .ok recovered ∧
      AgreeOnProofs Sample.library completed.changeProofsJson recovered.changeProofsJson ∧
      verifyCompletedOpenMatchesRestore completed recovered.fundingProofsJson = .ok () := by
  obtain ⟨prepared, request, recovery, isPrepared, isRequest, isRecovery, asked⟩ :=
    Sample.exists_asked
  obtain ⟨completed, recovery', isCompleted, isRecovery', -, restored⟩ :=
    recovery_matches_completion Sample.roundTrips Sample.issues Sample.unblinds
      Sample.unblindsPoints Sample.walletOps_mints rfl
      (show Sample.openingTerms.Representable from ⟨by decide, by decide⟩)
      (by decide) isPrepared Sample.parseKeysetInfo_pairs (Outcome.ofExcept_eq_ok.mp isRequest)
      asked.distinct (Sample.parseSwapResponse_toJson (Sample.signAll request)) asked.honest
  obtain rfl := Outcome.ok.inj (isRecovery.symm.trans isRecovery')
  rw [asked.funding, asked.change] at restored
  obtain ⟨recovered, isRecovered, -, sameChange, -, verified⟩ := restored _
    (some (Sample.restoreAll (request.outputs.drop 1) Sample.otherDleq))
    (Sample.answersQuestion_restoreAll asked.keys (fun _ => List.mem_of_mem_take) Sample.firstDleq)
    (.some (Sample.answersQuestion_restoreAll asked.keys (fun _ => List.mem_of_mem_drop)
      Sample.otherDleq))
  refine ⟨prepared, request, completed, recovery, recovered, isPrepared, isRequest, isRecovery,
    isCompleted, isRecovered, sameChange, verified.mpr ?_⟩
  refine ⟨_, Sample.restoreTrips.restoreResponseOfJson_toJson _, ?_⟩
  dsimp only
  rw [← List.map_id (request.outputs.take 1), List.map_map, List.zip_map']
  intro entry member
  obtain ⟨query, inTaken, rfl⟩ := List.mem_map.mp member
  exact Sample.mem_issued (List.mem_of_mem_take inTaken)

/-- A mint that makes its equality proofs anew: the same signatures are taken for others. -/
theorem recovery_differs_anew :
    ∃ prepared request completed recovery restored,
      Sample.preparesOpening = .ok prepared ∧ Sample.requestOf prepared = .ok request ∧
      Sample.recoveryOf prepared = .ok recovery ∧
      HonestResponse Sample.library (Sample.pairs "sat").activeKeys request []
        (Sample.signAll request) ∧
      completePreparedOpenChannel Sample.library prepared
        (Sample.responseToJson (Sample.signAll request)) = .ok completed ∧
      AnswersQuestion Sample.library (Sample.pairs "sat").activeKeys
        (request.outputs.zip (Sample.signAll request).signatures)
        recovery.fundingRestoreRequestJson
        (Sample.restoreAll (request.outputs.take 1) Sample.otherDleq) ∧
      completeFundingRestoreForPreparedOpen Sample.library prepared
        (Sample.restoreAll (request.outputs.take 1) Sample.otherDleq) = .ok restored ∧
      verifyCompletedOpenMatchesRestore completed restored ≠ .ok () := by
  have ran : Sample.preparesOpening.okAnd (fun prepared => (Sample.requestOf prepared).okAnd
      fun request => (Sample.recoveryOf prepared).okAnd fun recovery =>
        (completePreparedOpenChannel Sample.library prepared
          (Sample.responseToJson (Sample.signAll request))).okAnd fun completed =>
            (completeFundingRestoreForPreparedOpen Sample.library prepared
              (Sample.restoreAll (request.outputs.take 1) Sample.otherDleq)).okAnd fun restored =>
                decide (Sample.Asked prepared request recovery ∧
                  completed.fundingProofsJson ≠ restored)) = true := by
    decide +kernel
  obtain ⟨prepared, isPrepared, ran⟩ := Outcome.exists_of_okAnd ran
  obtain ⟨request, isRequest, ran⟩ := Outcome.exists_of_okAnd ran
  obtain ⟨recovery, isRecovery, ran⟩ := Outcome.exists_of_okAnd ran
  obtain ⟨completed, isCompleted, ran⟩ := Outcome.exists_of_okAnd ran
  obtain ⟨restored, isRestored, ran⟩ := Outcome.exists_of_okAnd ran
  obtain ⟨asked, differ⟩ := of_decide_eq_true ran
  refine ⟨prepared, request, completed, recovery, restored, isPrepared, isRequest, isRecovery,
    asked.honest, isCompleted, ?_, isRestored, fun accepted => differ ?_⟩
  · rw [asked.funding]
    exact Sample.answersQuestion_restoreAll asked.keys (fun _ => List.mem_of_mem_take) _
  · exact Outcome.guard_eq_ok.mp accepted

end Spilman
