/-
# One order of outputs

The outputs of a commitment are listed four times: as messages when the swap is built, and
as secrets when a close is prepared, when a prepared close is completed, and when a
commitment is completed directly. Each time the outputs of both parties are put one after
the other and sorted by amount, and amounts of the two may be equal.

All four lists are in step, so the signature on a message meets the secret that the message
was made from, and the proof goes to the party whose output it was.
-/

import Spilman.Bridge.Complete
import Spilman.SampleChannel

namespace Spilman

open Lib

variable {T : Carriers} {C : Type} (L : Cashu T)

/-! ## Completing a commitment -/

/-- What completion needs of an output: its message, secret and blinding factor. -/
def preparedFrom (pair : (DeterministicSecretWithBlinding T × Bool) × BlindedMessage T) :
    PreparedSwapOutput T :=
  ⟨pair.2, pair.1.1.secret, pair.1.1.blindingFactor⟩

/-- Add the ephemeral key and the place of an output to its proof. -/
def withMetadata (params : ChannelParameters T)
    (pair : Proof T × (DeterministicSecretWithBlinding T × Bool)) :
    Outcome String (ProofWithMeta T) := do
  let output := pair.2.1
  let proof ←
    params.attachStage2P2pkE L pair.1 (roleOf pair.2.2) output.amount output.index
  return ⟨proof, output.amount, output.index, pair.2.2⟩

/-- Turn the mint's answer to a commitment into the proofs of both parties. -/
def CommitmentOutputs.completeSwapResponse (commitment : CommitmentOutputs T)
    (response : SwapResponse T) (outputKeyset : KeysetInfo T) :
    Outcome String (List (ProofWithMeta T)) := do
  let params := commitment.receiverOutputs.params
  .guard "commitment output keyset unit mismatch" (outputKeyset.unit = params.unit)
  let expectedCount :=
    commitment.receiverOutputs.orderedAmounts.len + commitment.senderOutputs.orderedAmounts.len
  let received := response.signatures.length
  .guard s!"Expected {expectedCount} blind signatures but received {received}"
    (received = expectedCount)
  let allOutputs ← commitment.secretsWithBlinding L id id
  let derived := allOutputs.length
  .guard s!"Internal mismatch: derived {derived} outputs for {received} blind signatures"
    (derived = received)
  let request ← commitment.createSwapRequest L [] (some outputKeyset.keysetId)
  let prepared := (allOutputs.zip request.outputs).map preparedFrom
  let allProofs ← Spilman.completeSwapResponse L request prepared response outputKeyset
  let unblinded := allProofs.length
  .guard s!"Internal mismatch: unblinded {unblinded} proofs for {derived} outputs"
    (unblinded = derived)
  .mapAll (withMetadata L params) (allProofs.zip allOutputs)

/-! ## In step -/

/-- A message is the blinding of an output that was derived for a role, amount and index. -/
structure BlindsOutput (params : ChannelParameters T) (keysetId : T.Id)
    (entry : DeterministicSecretWithBlinding T × Bool) (message : BlindedMessage T) : Prop where
  derived : params.createDeterministicOutputWithBlinding L (roleOf entry.2).context
    entry.1.amount entry.1.index = .ok entry.1
  offers : Offers L keysetId entry.1 message

/-- A signature has become the proof of an output: it was unblinded with the secret and the
blinding factor of the output, and the proof is kept under the output's amount, index and
role. -/
structure CreditedTo (tweak : Option T.Scalar)
    (pair : BlindSignature T × (DeterministicSecretWithBlinding T × Bool))
    (credited : ProofWithMeta T) : Prop where
  secret : credited.proof.secret = pair.2.1.secret
  unblinded : ∃ r, effectiveBlindingFactor L pair.2.1.blindingFactor tweak = .ok r ∧
    credited.proof.dleq = pair.1.dleq.map fun dleq => ⟨dleq.e, dleq.s, r⟩
  signed : credited.proof.amount = pair.1.amount ∧ credited.proof.keysetId = pair.1.keysetId
  amount : credited.amount = pair.2.1.amount
  index : credited.index = pair.2.1.index
  isReceiver : credited.isReceiver = pair.2.2

/-- Every signature of an answer is credited to the output in the same place. -/
def CreditedInOrder (response : SwapResponse T)
    (entries : List (DeterministicSecretWithBlinding T × Bool))
    (credited : List (ProofWithMeta T)) : Prop :=
  response.signatures.length = entries.length ∧ ∃ tweak,
    mintTweak L response.rerandomizationR = .ok tweak ∧
    List.Forall₂ (CreditedTo L tweak) (response.signatures.zip entries) credited

section InStep

variable {L}

/-- Prepared outputs that are made of secrets, in order. -/
def PreparedOf (entry : DeterministicSecretWithBlinding T × Bool) (p : PreparedSwapOutput T) :
    Prop :=
  p.secret = entry.1.secret ∧ p.blindingFactor = entry.1.blindingFactor

/-- Matching keeps the place of every secret and blinding factor. -/
theorem forall₂_of_matched {tweak : Option T.Scalar}
    {prepared effective : List (PreparedSwapOutput T)} {outputs derived : List (BlindedMessage T)}
    (count : prepared.length = outputs.length) (issued : outputs.length = derived.length)
    (matched : List.Forall₂ (EffectiveOutput L tweak) ((prepared.zip outputs).zip derived)
      effective) :
    List.Forall₂ (fun p output => output.secret = p.secret ∧
      effectiveBlindingFactor L p.blindingFactor tweak = .ok output.blindingFactor)
      prepared effective := by
  have firsts : ((prepared.zip outputs).zip derived).map (fun entry => entry.1.1) = prepared := by
    rw [show (fun entry : (PreparedSwapOutput T × BlindedMessage T) × BlindedMessage T =>
      entry.1.1) = Prod.fst ∘ Prod.fst from rfl, ← List.map_map, List.map_fst_zip, List.map_fst_zip]
    · exact count.le
    · rw [List.length_zip]
      omega
  rw [← firsts, List.forall₂_map_left_iff]
  refine matched.imp fun entry output => ?_
  rintro ⟨factor, isFactor, rfl⟩
  exact ⟨rfl, isFactor⟩

/-- An accepted answer is unblinded in the order of the secrets, whatever it is. -/
theorem unblinded_in_order (laws : L.Unblinds) {request : SwapRequest T}
    {prepared : List (PreparedSwapOutput T)} {response : SwapResponse T}
    {outKeyset : KeysetInfo T} {proofs : List (Proof T)}
    {entries : List (DeterministicSecretWithBlinding T × Bool)}
    (accepted : completeSwapResponse L request prepared response outKeyset = .ok proofs)
    (prepares : List.Forall₂ PreparedOf entries prepared) :
    response.signatures.length = entries.length ∧ ∃ tweak,
      mintTweak L response.rerandomizationR = .ok tweak ∧
      List.Forall₂ (fun pair proof => proof.secret = pair.2.1.secret ∧
        (∃ r, effectiveBlindingFactor L pair.2.1.blindingFactor tweak = .ok r ∧
          proof.dleq = pair.1.dleq.map fun dleq => ⟨dleq.e, dleq.s, r⟩) ∧
        proof.amount = pair.1.amount ∧ proof.keysetId = pair.1.keysetId)
        (response.signatures.zip entries) proofs := by
  obtain ⟨derived, tweak, effective, restored, count, isTweak, bindsTo, completed⟩ :=
    completeSwapResponse_eq_ok_iff.mp accepted
  obtain ⟨-, issued⟩ := issued_of_swapRestoreRequest laws restored
  obtain ⟨-, -, matched⟩ := bindOutputs_eq_ok_iff.mp bindsTo
  obtain ⟨exact, -⟩ := complete_eq_ok_iff.mp completed
  obtain ⟨signed, -, built⟩ := completeExactSignatures_eq_ok_iff.mp exact
  have moved := forall₂_comp prepares (forall₂_of_matched count issued.length_eq matched)
  have lengths : response.signatures.length = entries.length :=
    signed.length_eq.trans moved.length_eq.symm
  have unblinded := laws.constructs built signed.length_eq
  refine ⟨lengths, tweak, isTweak, ?_⟩
  refine (forall₂_comp (forall₂_zip_same lengths moved) unblinded).imp fun pair proof => ?_
  rintro ⟨pair', ⟨sameSignature, p, ⟨secret, factor⟩, sameSecret, isFactor⟩, made⟩
  refine ⟨made.secret.trans (sameSecret.trans secret), ⟨pair'.2.blindingFactor, ?_, ?_⟩, ?_, ?_⟩
  · rw [← factor]
    exact isFactor
  · rw [made.dleq, sameSignature]
  · rw [made.amount, sameSignature]
  · rw [made.keysetId, sameSignature]

/-- Proofs that are kept with the metadata of the secrets are credited in order. -/
theorem creditedInOrder_of_placed (laws : L.Unblinds) {request : SwapRequest T}
    {prepared : List (PreparedSwapOutput T)} {response : SwapResponse T}
    {outKeyset : KeysetInfo T} {proofs : List (Proof T)}
    {entries : List (DeterministicSecretWithBlinding T × Bool)} {credited : List (ProofWithMeta T)}
    (accepted : completeSwapResponse L request prepared response outKeyset = .ok proofs)
    (prepares : List.Forall₂ PreparedOf entries prepared)
    (placed : List.Forall₂ (fun pair kept => ∃ p2pkE,
      kept = ⟨{ pair.1 with p2pkE }, pair.2.1.amount, pair.2.1.index, pair.2.2⟩)
      (proofs.zip entries) credited) : CreditedInOrder L response entries credited := by
  obtain ⟨lengths, tweak, isTweak, unblinded⟩ := unblinded_in_order laws accepted prepares
  refine ⟨lengths, tweak, isTweak, (forall₂_zip_comp lengths unblinded placed).imp ?_⟩
  rintro pair kept ⟨proof, ⟨secret, factor, amount, keysetId⟩, p2pkE, rfl⟩
  exact ⟨secret, factor, ⟨amount, keysetId⟩, rfl, rfl, rfl⟩

theorem placed_of_withMetadata {params : ChannelParameters T}
    {pairs : List (Proof T × (DeterministicSecretWithBlinding T × Bool))}
    {credited : List (ProofWithMeta T)}
    (made : Outcome.mapAll (withMetadata L params) pairs = .ok credited) :
    List.Forall₂ (fun pair kept => ∃ p2pkE,
      kept = ⟨{ pair.1 with p2pkE }, pair.2.1.amount, pair.2.1.index, pair.2.2⟩)
      pairs credited := by
  refine (Outcome.mapAll_eq_ok.mp made).imp fun pair kept isKept => ?_
  simp only [withMetadata, ChannelParameters.attachStage2P2pkE, Outcome.bind_eq_ok,
    Outcome.pure_eq, Outcome.ok.injEq] at isKept
  obtain ⟨_, ⟨info, -, rfl⟩, rfl⟩ := isKept
  exact ⟨_, rfl⟩

theorem placed_of_proofWithMeta {params : ChannelParameters T}
    {pairs : List (Proof T × (DeterministicSecretWithBlinding T × Bool))}
    {credited : List (ProofWithMeta T)}
    (made : Outcome.mapAll (proofWithMeta L params) pairs = .ok credited) :
    List.Forall₂ (fun pair kept => ∃ p2pkE,
      kept = ⟨{ pair.1 with p2pkE }, pair.2.1.amount, pair.2.1.index, pair.2.2⟩)
      pairs credited := by
  refine (Outcome.mapAll_eq_ok.mp made).imp fun pair kept isKept => ?_
  simp only [proofWithMeta, ChannelParameters.attachStage2P2pkE, Outcome.bind_eq_ok,
    Outcome.mapErr_eq_ok, Outcome.pure_eq, Outcome.ok.injEq] at isKept
  obtain ⟨_, ⟨info, -, rfl⟩, -, -, rfl⟩ := isKept
  exact ⟨_, rfl⟩

/-- Secrets are prepared as they are, in order. -/
theorem preparedOf_preparedOutput {keysetId : T.Id}
    {entries : List (DeterministicSecretWithBlinding T × Bool)}
    {prepared : List (PreparedSwapOutput T)}
    (offered : Outcome.mapAll (preparedOutput L keysetId) entries = .ok prepared) :
    List.Forall₂ PreparedOf entries prepared := by
  refine (Outcome.mapAll_eq_ok.mp offered).imp fun entry p isPrepared => ?_
  simp only [preparedOutput, Outcome.bind_eq_ok, Outcome.mapErr_eq_ok, Outcome.pure_eq,
    Outcome.ok.injEq] at isPrepared
  obtain ⟨_, -, rfl⟩ := isPrepared
  exact ⟨rfl, rfl⟩

theorem preparedOf_preparedFrom {entries : List (DeterministicSecretWithBlinding T × Bool)}
    {messages : List (BlindedMessage T)} (count : entries.length = messages.length) :
    List.Forall₂ PreparedOf entries ((entries.zip messages).map preparedFrom) := by
  rw [List.forall₂_map_right_iff]
  nth_rewrite 1 [← List.map_fst_zip count.le]
  rw [List.forall₂_map_left_iff, List.forall₂_same]
  exact fun pair _ => ⟨rfl, rfl⟩

/-- A message is determined by what it blinds. -/
theorem outputs_unique {keysetId : T.Id}
    {entries : List (DeterministicSecretWithBlinding T × Bool)}
    {messages messages' : List (BlindedMessage T)}
    (offers : List.Forall₂ (fun entry message => Offers L keysetId entry.1 message) entries
      messages)
    (offers' : List.Forall₂ (fun entry message => Offers L keysetId entry.1 message) entries
      messages') : messages' = messages := by
  rw [← List.forall₂_eq_eq_eq]
  refine (forall₂_comp offers'.flip offers).imp fun message' message => ?_
  rintro ⟨entry, offer', offer⟩
  have point := Except.ok.inj (offer'.blinds.symm.trans offer.blinds)
  obtain ⟨amount, id, point'⟩ := message
  obtain ⟨amount', id', point''⟩ := message'
  cases offer.amount
  cases offer'.amount
  cases offer.keysetId
  cases offer'.keysetId
  cases point
  rfl

/-- The merged secrets are those derived for their roles, amounts and indices. -/
theorem derived_of_mergedSecrets {params : ChannelParameters T}
    {receiverNominal senderNominal : Nat}
    {receiver sender : List (DeterministicSecretWithBlinding T)}
    (isReceiver : (outputsFor "receiver" receiverNominal params).getSecretsWithBlinding L =
      .ok receiver)
    (isSender : (outputsFor "sender" senderNominal params).getSecretsWithBlinding L = .ok sender)
    {entry : DeterministicSecretWithBlinding T × Bool}
    (member : entry ∈ mergedSecrets receiver sender) :
    params.createDeterministicOutputWithBlinding L (roleOf entry.2).context entry.1.amount
      entry.1.index = .ok entry.1 := by
  have each {context : String} {nominal : Nat}
      {secrets : List (DeterministicSecretWithBlinding T)}
      (derived : (outputsFor context nominal params).getSecretsWithBlinding L = .ok secrets)
      (inSecrets : entry.1 ∈ secrets) : params.createDeterministicOutputWithBlinding L context
        entry.1.amount entry.1.index = .ok entry.1 := by
    rw [getSecretsWithBlinding_outputsFor, Outcome.mapAll_eq_ok] at derived
    obtain ⟨slot, -, made⟩ := exists_left_of_forall₂ derived inSecrets
    obtain ⟨amount, index⟩ := slot_of_createDeterministicOutput made
    rw [amount, index]
    exact made
  rcases mem_mergedSecrets.mp member with ⟨inReceiver, isTrue⟩ | ⟨inSender, isFalse⟩
  · rw [isTrue]
    exact each isReceiver inReceiver
  · rw [isFalse]
    exact each isSender inSender

/-- The outputs of a swap are in step with given secrets of the two parties. -/
theorem swapOutputs_inStep {params : ChannelParameters T} {receiverNominal senderNominal : Nat}
    {fundingProofs : List (Proof T)} {overrideKeysetId : Option T.Id} {request : SwapRequest T}
    (built : (commitmentOf params receiverNominal senderNominal).createSwapRequest L fundingProofs
      overrideKeysetId = .ok request)
    {receiver sender : List (DeterministicSecretWithBlinding T)}
    (isReceiver : (outputsFor "receiver" receiverNominal params).getSecretsWithBlinding L =
      .ok receiver)
    (isSender : (outputsFor "sender" senderNominal params).getSecretsWithBlinding L = .ok sender) :
    List.Forall₂ (fun entry message =>
      Offers L (overrideKeysetId.getD params.keysetInfo.keysetId) entry.1 message)
      (mergedSecrets receiver sender) request.outputs := by
  obtain ⟨receiver', sender', isReceiver', isSender', offers⟩ := createSwapRequest_inStep built
  obtain rfl := Outcome.ok.inj (isReceiver.symm.trans isReceiver')
  obtain rfl := Outcome.ok.inj (isSender.symm.trans isSender')
  exact offers

/-- Signatures are attached to inputs. -/
theorem outputs_of_attached {request signed : SwapRequest T} {signature : String}
    (attached : attachSignatureToFirstInput request signature = .ok signed) :
    signed.outputs = request.outputs := by
  obtain ⟨_, _, _, -, -, rfl⟩ := attachSignatureToFirstInput_eq_ok_iff.mp attached
  rfl

end InStep

/-- **All views of a commitment have one order of outputs.** Whatever the parameters, the
balance, the proofs and the output keyset: there is one list of secrets, each derived for
its role, amount and index, such that every message of the swap is the blinding of the
secret in its place. Completing the commitment, preparing a close and completing a prepared
close go by this list, and the signatures are credited in its order. -/
theorem outputs_in_one_order (laws : L.Unblinds) {params : ChannelParameters T} {balance : Nat}
    {commitment : CommitmentOutputs T}
    (committed : CommitmentOutputs.forBalance balance params = .ok commitment)
    {fundingProofs : List (Proof T)} {overrideKeysetId : Option T.Id} {request : SwapRequest T}
    (built : commitment.createSwapRequest L fundingProofs overrideKeysetId = .ok request) :
    ∃ entries, commitment.secretsWithBlinding L id id = .ok entries ∧
      List.Forall₂ (BlindsOutput L params (overrideKeysetId.getD params.keysetInfo.keysetId))
        entries request.outputs ∧
      ∀ outKeyset : KeysetInfo T,
        outKeyset.keysetId = overrideKeysetId.getD params.keysetInfo.keysetId →
        (∀ response credited, commitment.completeSwapResponse L response outKeyset = .ok credited →
          CreditedInOrder L response entries credited) ∧
        (∀ (host : Host T C) channelId signature funding validateDue data,
          storedParams L funding = .ok params →
          prepareCloseDataImpl L host channelId balance signature funding outKeyset validateDue =
            .ok data →
          data.secretsWithBlinding = entries ∧ data.swapRequest.outputs = request.outputs) ∧
        ∀ (host : Host T C) respJson (prep : PreparedClose T) completed,
          prep.ReadsParams L params → prep.balance = balance →
          parseKeysetInfoFromJson L (L.render prep.outputKeysetInfo) = .ok outKeyset →
          completePreparedClose L host respJson prep = .ok completed →
          ∃ c : Completion L host respJson prep completed,
            c.entries = entries ∧ c.request.outputs = request.outputs ∧
            ∃ credited, CreditedInOrder L c.response entries credited ∧
              c.result.receiverProofs = credited.filter (·.isReceiver) ∧
              c.result.senderProofs = credited.filter (!·.isReceiver) := by
  have isCommitment := committed
  obtain ⟨-, _, _, -, -, -, -, -, rfl⟩ := CommitmentOutputs.forBalance_eq_ok_iff.mp committed
  obtain ⟨receiver, sender, isReceiver, isSender, offers⟩ := createSwapRequest_inStep built
  have secrets : (commitmentOf params _ _).secretsWithBlinding L id id =
      .ok (mergedSecrets receiver sender) :=
    secretsWithBlinding_eq_ok_iff.mpr ⟨receiver, sender, isReceiver, isSender, rfl⟩
  refine ⟨_, secrets, ?_, fun outKeyset isKeyset => ⟨?_, ?_, ?_⟩⟩
  · refine ((List.forall₂_and_left _ _).mpr ⟨fun entry member => ?_, offers⟩).imp
      fun entry message both => ⟨both.1, both.2⟩
    exact derived_of_mergedSecrets isReceiver isSender member
  · intro response credited completed
    simp only [CommitmentOutputs.completeSwapResponse, Outcome.bind_eq_ok, Outcome.guard_eq_ok,
      secrets, Outcome.ok.injEq] at completed
    obtain ⟨-, -, -, -, _, rfl, -, -, swap, isSwap, proofs, accepted, -, -, placed⟩ := completed
    have count := (swapOutputs_inStep isSwap isReceiver isSender).length_eq
    exact creditedInOrder_of_placed laws accepted (preparedOf_preparedFrom count)
      (placed_of_withMetadata placed)
  · intro host channelId signature funding validateDue data stored prepared
    obtain ⟨⟨p⟩, -⟩ := prepareCloseDataImpl_eq_ok_iff.mp prepared
    obtain rfl := Outcome.ok.inj (stored.symm.trans p.stored)
    have sameCommitment := Outcome.ok.inj (isCommitment.symm.trans p.committed)
    have same := secretsWithBlinding_errors id id p.secrets
    rw [← sameCommitment, secrets, Outcome.ok.injEq] at same
    have swapped := p.built
    rw [← sameCommitment] at swapped
    have offers' := swapOutputs_inStep swapped isReceiver isSender
    refine ⟨same.symm, ?_⟩
    rw [p.request_eq, outputs_of_attached p.attachedTwice, outputs_of_attached p.attached]
    rw [Option.getD_some, isKeyset] at offers'
    exact outputs_unique offers offers'
  · intro host respJson prep completed reads isBalance isOutKeyset closed
    obtain ⟨c⟩ := completePreparedClose_eq_ok_iff.mp closed
    obtain rfl := reads.unique c.readsParams
    subst isBalance
    have sameCommitment := Outcome.ok.inj (isCommitment.symm.trans c.committed)
    have isEntries := c.secrets
    rw [← sameCommitment, secrets, Outcome.ok.injEq] at isEntries
    have sameKeyset := Outcome.ok.inj (isOutKeyset.symm.trans c.keyset_eq)
    have offers' := c.offers
    rw [← isEntries, ← sameKeyset, isKeyset] at offers'
    obtain ⟨u⟩ := unblind_eq_ok_iff.mp c.unblinded
    refine ⟨c, isEntries.symm, outputs_unique offers offers', u.metas, ?_, ?_, ?_⟩
    · rw [isEntries]
      exact creditedInOrder_of_placed laws u.accepted (preparedOf_preparedOutput u.offered)
        (placed_of_proofWithMeta u.placed)
    · exact congrArg UnblindResult.receiverProofs u.result_eq
    · exact congrArg UnblindResult.senderProofs u.result_eq

open Sample in
/-- One unit each for the receiver and the sender: the receiver's comes first in both lists. -/
theorem outputs_in_one_order_tie : ∃ params commitment request entries,
    (two "m").params (pairs "sat") = .ok params ∧
    CommitmentOutputs.forBalance 1 params = .ok commitment ∧
    commitment.createSwapRequest library [] none = .ok request ∧
    commitment.secretsWithBlinding library id id = .ok entries ∧
    entries.map (fun entry => (entry.1.amount, entry.2)) = [(1, true), (1, false)] ∧
    List.Forall₂ (BlindsOutput library params params.keysetInfo.keysetId) entries
      request.outputs := by
  have ran : ((two "m").params (pairs "sat")).okAnd (fun params =>
      (CommitmentOutputs.forBalance 1 params).okAnd fun commitment =>
        (commitment.createSwapRequest library [] none).okAnd fun _ =>
          (commitment.secretsWithBlinding library id id).okAnd fun entries =>
            entries.map (fun entry => (entry.1.amount, entry.2)) = [(1, true), (1, false)]) =
        true := by
    decide +kernel
  obtain ⟨params, isParams, ran⟩ := Outcome.exists_of_okAnd ran
  obtain ⟨commitment, committed, ran⟩ := Outcome.exists_of_okAnd ran
  obtain ⟨request, built, ran⟩ := Outcome.exists_of_okAnd ran
  obtain ⟨entries, isEntries, roles⟩ := Outcome.exists_of_okAnd ran
  obtain ⟨entries', isEntries', inStep, -⟩ :=
    outputs_in_one_order (C := Unit) library unblinds committed built
  obtain rfl := Outcome.ok.inj (isEntries.symm.trans isEntries')
  exact ⟨params, commitment, request, entries, isParams, committed, built, isEntries,
    of_decide_eq_true roles, inStep⟩

end Spilman
