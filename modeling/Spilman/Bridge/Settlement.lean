/-
# Every close can be settled, if its mint and its keyset allow it

A close is prepared from stored funding and a payment, submitted, and completed
with the mint's answer. By the time it is completed the mint has spent the
funding, so a check that completion makes and acceptance does not can cost the
receiver the payout.

Acceptance, preparation and completion each read the funding again. They agree
on everything that is derived from it (`Preparation.inStep`), so an honest answer
passes every check (`Preparation.completes`) with two exceptions. The
mint's URL is compared as it was sent with how it was normalized, and the total
is recomputed over the output keyset, which need not be able to split it.
`settles_iff` says that these are the only ones.
-/

import Spilman.Commitment
import Spilman.SampleChannel

namespace Spilman

open Lib

variable {T : Carriers} {C : Type} {L : Cashu T}

/-! ## Preparing -/

section Prepare

variable {host : Host T C} {channelId : String} {balance : Nat} {signature : String}
  {funding : ChannelFunding T} {outKeyset : KeysetInfo T}

/-- A channel with funding proofs has a stage-1 key of the receiver: the proofs are
locked to it. -/
theorem receiverKey_of_funded {params : ChannelParameters T} {proofs : List (Proof T)}
    (valid : verifyValidChannel L proofs params = .ok []) (nonempty : proofs ≠ []) :
    ∃ key, params.getReceiverBlindedPubkeyForStage1 L = .ok key := by
  obtain ⟨expected, derived, matched, -⟩ := of_verifyValidChannel valid
  simp only [fundingSecrets, Outcome.bind_eq_ok,
    DeterministicOutputsForOneContext.new_eq_ok_iff] at derived
  obtain ⟨_, ⟨-, rfl⟩, derived⟩ := derived
  rw [getSecretsWithBlinding_outputsFor, Outcome.mapAll_eq_ok] at derived
  obtain ⟨proof, rest, rfl⟩ := List.exists_cons_of_ne_nil nonempty
  obtain ⟨output, member, -⟩ := exists_right_of_forall₂ matched List.mem_cons_self
  obtain ⟨slot, -, made⟩ := exists_left_of_forall₂ derived member
  simp only [ChannelParameters.createDeterministicOutputWithBlinding, if_true,
    DeterministicSecretWithBlinding.newFunding, Outcome.bind_eq_ok] at made
  obtain ⟨_, -, _, -, _, -, _, -, key, isKey, -⟩ := made
  exact ⟨key, isKey⟩

/-- A channel that can pay anything has funding proofs. -/
theorem Acceptance.proofs_ne_nil {paramsVal : Json} {proofs : List (Proof T)}
    {validated : ValidatedNewChannel T} (a : Acceptance L host paramsVal proofs validated)
    (trips : L.RoundTrips) (nonzero : a.params.capacity ≠ 0) : proofs ≠ [] := by
  rintro rfl
  obtain ⟨-, sum, -, -⟩ := EstablishedChannel.new_eq_ok_iff.mp (a.established trips)
  have bound := (achievable_of_readFrom (a.readFrom trips)).capacity_le
  rw [sum] at bound
  exact nonzero (Nat.le_zero.mp bound)

/-- **What it takes to prepare a close.** A verified payment of a funded channel can
be closed with any keyset that splits the funding amount. -/
theorem exists_preparation
    (verified : verifySignature L funding channelId balance signature = .ok ())
    {params : ChannelParameters T} (stored : storedParams L funding = .ok params)
    {proofs : List (Proof T)} (parsed : parseProofs L funding.fundingProofsJson = .ok proofs)
    (nonempty : proofs ≠ []) {receiverKey : T.PublicKey}
    (key : params.getReceiverBlindedPubkeyForStage1 L = .ok receiverKey)
    (signs : SignsHonestly L host params.receiverPubkey)
    (splits : Splits outKeyset params.maximumAmountForOneOutput params.fundingTokenAmount) :
    ∃ data, Nonempty (Preparation L host channelId balance signature funding outKeyset data) := by
  obtain ⟨_, _, sig, stored', parsed', established, read, authorized⟩ :=
    verifySignature_eq_ok_iff.mp verified
  obtain rfl := Outcome.ok.inj (stored.symm.trans stored')
  obtain rfl := Outcome.ok.inj (parsed.symm.trans parsed')
  obtain ⟨_, original, -, committed, built, -, -⟩ := verifySenderSignature_eq_ok_iff.mp authorized
  obtain ⟨within, afterStage1, search, -, -, -, -, -, rfl⟩ :=
    CommitmentOutputs.forBalance_eq_ok_iff.mp committed
  obtain ⟨outputs, unsigned⟩ := createSwapRequest_override built proofs outKeyset.keysetId
  obtain ⟨receiver, sender, derived, derived', -⟩ := createSwapRequest_inStep built
  obtain ⟨first, rest, rfl⟩ := List.exists_cons_of_ne_nil nonempty
  obtain ⟨tweak, scalar, shifted⟩ := ChannelParameters.receiverScalar_of_blindedPubkey L key
  let once : SwapRequest T := ⟨first.addSignature (signatureToString sig) :: rest, outputs,
    original.rerandomized⟩
  obtain ⟨serverSig, -, signed, -, -⟩ := signs tweak receiverKey (L.sigAllMessageHash once) shifted
  let twice : SwapRequest T := ⟨(first.addSignature (signatureToString sig)).addSignature
    serverSig :: rest, outputs, original.rerandomized⟩
  refine ⟨⟨twice, sigAllMessageHashHex L once, L.publicKeyToHex receiverKey, _,
    mergedSecrets receiver sender, outKeyset⟩, ⟨{
      params, sig, once, twice, receiverKey, serverSig, stored, parsed, within, read, committed
      established, authorized, scalar, key, signed
      proofs := first :: rest
      commitment := commitmentOf params search.nominalValue (afterStage1 - search.nominalValue)
      unsigned := ⟨first :: rest, outputs, original.rerandomized⟩
      tweakScalar := tweak
      built := unsigned
      attached := rfl
      attachedTwice := rfl
      total := deterministicValueAfterFees_eq_ok_iff.mpr ⟨splits, rfl⟩
      secrets := secretsWithBlinding_eq_ok_iff.mpr ⟨receiver, sender, derived, derived', rfl⟩
      request_eq := rfl
      hash_eq := rfl
      key_eq := rfl
      keyset_eq := rfl }⟩⟩

/-- A verified payment of an accepted channel that can pay anything is prepared and
wrapped, with the URL that was sent. -/
theorem Acceptance.exists_prepared {accepting : Host T C} {paramsVal : Json}
    {proofs : List (Proof T)} {validated : ValidatedNewChannel T}
    (a : Acceptance L accepting paramsVal proofs validated) (trips : L.RoundTrips)
    (nonzero : validated.capacity ≠ 0)
    (verified : verifySignature L validated.funding validated.channelId balance signature = .ok ())
    (signs : SignsHonestly L host a.params.receiverPubkey)
    (splits : Splits outKeyset a.params.maximumAmountForOneOutput a.params.fundingTokenAmount)
    {mint : String} (named : (paramsVal.field "mint").asStr = some mint) :
    ∃ data prepared,
      Nonempty (Preparation L host validated.channelId balance signature validated.funding outKeyset
        data) ∧
      wrapCloseData L data validated.channelId balance validated.funding = .ok prepared ∧
      prepared.mintUrl = mint := by
  have funded := a.proofs_ne_nil trips (a.capacity_params trips ▸ nonzero)
  obtain ⟨key, isKey⟩ := receiverKey_of_funded a.funded funded
  obtain ⟨data, p⟩ := exists_preparation verified a.storedParams_eq (a.parseProofs_eq trips)
    funded isKey signs splits
  have parsed : L.parse validated.funding.paramsJson = .ok paramsVal := by
    rw [a.paramsText, trips.parse_render]
  exact ⟨data, _, p, wrapCloseData_eq_ok_iff.mpr ⟨paramsVal, mint, parsed, named, rfl⟩, rfl⟩

end Prepare

/-! ## The prepared outputs -/

variable (L) in
/-- What completion relies on about a list of secrets and the outputs offered for
them: they are in step, and every secret belongs to the channel. -/
structure InStep (params : ChannelParameters T) (balance : Nat) (keysetId : T.Id)
    (entries : List (DeterministicSecretWithBlinding T × Bool))
    (outputs : List (BlindedMessage T)) : Prop where
  offers : List.Forall₂ (fun entry message => Offers L keysetId entry.1 message) entries outputs
  derived : ∀ entry ∈ entries, ∃ slot, DerivedOutput L params (roleOf entry.2) slot entry.1
  bounds : ∀ entry ∈ entries, entry.1.amount < 2 ^ 64 ∧ entry.1.index < 2 ^ 64
  total : (outputs.map BlindedMessage.amount).sum < 2 ^ 64
  /-- The receiver gets the nominal value of the balance. -/
  nominal : ∃ search, params.keysetInfo.inverseDeterministicValueAfterFees balance
      params.maximumAmountForOneOutput = .ok search ∧
    ((entries.filter (·.2)).map (·.1.amount)).sum = search.nominalValue ∧
    search.nominalValue < 2 ^ 64

/-- The secrets of a role are derived for it and have amounts and indices below
its nominal value. -/
theorem slots_of_role (role : Stage2Role) {params : ChannelParameters T} {nominal : Nat}
    {secrets : List (DeterministicSecretWithBlinding T)}
    (derived : (outputsFor role.context nominal params).getSecretsWithBlinding L = .ok secrets)
    {secret : DeterministicSecretWithBlinding T} (member : secret ∈ secrets) :
    (∃ slot, DerivedOutput L params role slot secret) ∧ secret.amount ≤ nominal ∧
      secret.index < nominal := by
  obtain ⟨slot, inSplit, output⟩ := exists_left_of_forall₂ (derivedOutputs derived) member
  obtain ⟨amount, index⟩ := slot_bounds inSplit
  exact ⟨⟨slot, output⟩, output.amount ▸ amount, output.index ▸ index⟩

section Prepared

variable {host : Host T C} {channelId : String} {balance : Nat} {signature : String}
  {funding : ChannelFunding T} {outKeyset : KeysetInfo T} {data : CloseData T}
  (p : Preparation L host channelId balance signature funding outKeyset data)

include p

/-- Signing the first input changes nothing else of the request. -/
theorem Preparation.request_unsigned :
    data.swapRequest.outputs = p.unsigned.outputs ∧
      data.swapRequest.rerandomized = p.unsigned.rerandomized := by
  obtain ⟨_, _, -, once⟩ := attachSignatureToFirstInput_eq_ok_iff.mp p.attached
  obtain ⟨_, _, -, twice⟩ := attachSignatureToFirstInput_eq_ok_iff.mp p.attachedTwice
  rw [p.request_eq, twice, once]
  exact ⟨rfl, rfl⟩

/-- The request is in the mode of the channel. -/
theorem Preparation.mode_eq :
    data.swapRequest.rerandomized = decide (p.params.commitmentMode = .rerandomized) :=
  p.request_unsigned.2.trans (rerandomized_of_createSwapRequest p.committed p.built)

theorem Preparation.inStep :
    InStep L p.params balance outKeyset.keysetId data.secretsWithBlinding
      data.swapRequest.outputs := by
  obtain ⟨-, -, fits, -⟩ := EstablishedChannel.new_eq_ok_iff.mp p.established
  have sum := sum_of_createSwapRequest L p.committed p.built
  obtain ⟨-, afterStage1, search, stage1, found, enough, splits, -, isCommitment⟩ :=
    CommitmentOutputs.forBalance_eq_ok_iff.mp p.committed
  have built := p.built
  have secrets := p.secrets
  rw [isCommitment] at built secrets
  obtain ⟨receiver, sender, derived, derived', offers⟩ := createSwapRequest_inStep built
  obtain ⟨_, _, again, again', merged⟩ := secretsWithBlinding_eq_ok_iff.mp secrets
  obtain rfl := Outcome.ok.inj (derived.symm.trans again)
  obtain rfl := Outcome.ok.inj (derived'.symm.trans again')
  have small : afterStage1 < 2 ^ 64 := (deterministicValueAfterFees_le stage1).trans_lt fits
  have each : ∀ entry ∈ mergedSecrets receiver sender,
      (∃ slot, DerivedOutput L p.params (roleOf entry.2) slot entry.1) ∧
        entry.1.amount < 2 ^ 64 ∧ entry.1.index < 2 ^ 64 := by
    rintro ⟨secret, isReceiver⟩ member
    rcases mem_mergedSecrets.mp member with ⟨inRole, rfl⟩ | ⟨inRole, rfl⟩
    · obtain ⟨slot, amount, index⟩ := slots_of_role .receiver derived inRole
      exact ⟨slot, lt_of_le_of_lt amount (by omega), index.trans (by omega)⟩
    · obtain ⟨slot, amount, index⟩ := slots_of_role .sender derived' inRole
      exact ⟨slot, lt_of_le_of_lt amount (by omega), index.trans (by omega)⟩
  rw [merged, p.request_unsigned.1]
  refine ⟨offers, fun entry member => (each entry member).1, fun entry member =>
    (each entry member).2, ?_, search, found, ?_, by omega⟩
  · rwa [← Outcome.ok.inj (stage1.symm.trans sum)]
  · rw [(sums_mergedSecrets receiver sender).1, amounts_of_getSecretsWithBlinding L derived,
      sum_spread_greedyList splits]

/-- Without collisions, the secrets and the points of a close are distinct. -/
theorem Preparation.distinct (trips : L.RoundTrips)
    (collisionFree : CollisionFree L p.params balance) :
    (data.secretsWithBlinding.map (·.1.secret)).Nodup ∧
      (data.swapRequest.outputs.map BlindedMessage.blindedSecret).Nodup := by
  obtain ⟨-, _, _, -, -, -, -, -, isCommitment⟩ :=
    CommitmentOutputs.forBalance_eq_ok_iff.mp p.committed
  have secrets := p.secrets
  have nonces := collisionFree.nonces _ p.committed
  rw [isCommitment] at secrets nonces
  obtain ⟨receiver, sender, derived, derived', merged⟩ := secretsWithBlinding_eq_ok_iff.mp secrets
  have distinct : (data.secretsWithBlinding.map (·.1.secret)).Nodup :=
    merged ▸ mergedSecrets_nodup trips derived derived' nonces
  refine ⟨distinct, nodup_map_of_forall₂ p.inStep.offers distinct.of_map ?_⟩
  intro entry member other member' message message' offer offer' same
  exact List.inj_on_of_nodup_map distinct member member'
    (collisionFree.points _ _ p.committed (secretsWithBlinding_errors _ _ p.secrets) entry member
      other member' _ offer.blinds (same ▸ offer'.blinds))

/-- A channel that can pay anything has outputs to close with. -/
theorem Preparation.outputs_ne_nil (achievable : Achievable p.params)
    (nonzero : p.params.capacity ≠ 0) : data.swapRequest.outputs ≠ [] := by
  intro none
  have sum := sum_of_createSwapRequest L p.committed p.built
  rw [← p.request_unsigned.1, none] at sum
  obtain ⟨afterStage1, maxCapacity, stage1, stage2, within⟩ := achievable.stages
  have nothing : afterStage1 = 0 := Outcome.ok.inj (stage1.symm.trans sum)
  have := deterministicValueAfterFees_le stage2
  omega

end Prepared

/-! ## Completing -/

section Complete

variable {params : ChannelParameters T} {balance : Nat} {outKeyset : KeysetInfo T}
  {entries : List (DeterministicSecretWithBlinding T × Bool)} {outputs : List (BlindedMessage T)}

theorem secretOfJson_toJson (trips : L.RoundTrips)
    {entry : DeterministicSecretWithBlinding T × Bool} (amount : entry.1.amount < 2 ^ 64)
    (index : entry.1.index < 2 ^ 64) : secretOfJson L (secretToJson L entry) = .ok entry := by
  simp [secretOfJson, secretToJson, Json.field, Json.get?, List.lookup_cons, Hex.decode_encode,
    trips.secretKeyFromSlice_bytes, Json.asU64_num amount, Json.asU64_num index]

/-- The secrets of a prepared close read back as they were. -/
theorem readSecrets_toJson (trips : L.RoundTrips)
    (bounds : ∀ entry ∈ entries, entry.1.amount < 2 ^ 64 ∧ entry.1.index < 2 ^ 64) :
    readSecrets L (.arr (entries.map (secretToJson L))) = .ok entries := by
  have items : Outcome.mapAll (secretOfJson L) (entries.map (secretToJson L)) = .ok entries := by
    rw [Outcome.mapAll_eq_ok, List.forall₂_map_left_iff, List.forall₂_same]
    exact fun entry member =>
      secretOfJson_toJson trips (bounds entry member).1 (bounds entry member).2
  simp [readSecrets, trips.parse_render, items]

/-- A proof of a commitment output passes the check of its lock. -/
theorem proofWithMeta_of_derived (reads : L.ReadsP2pk)
    {entry : DeterministicSecretWithBlinding T × Bool} {slot : Nat × Nat}
    (derived : DerivedOutput L params (roleOf entry.2) slot entry.1) {proof : Proof T}
    (secret : proof.secret = entry.1.secret) :
    ∃ ephemeral, proofWithMeta L params (proof, entry) =
      .ok ⟨{ proof with p2pkE := some ephemeral }, entry.1.amount, entry.1.index, entry.2⟩ := by
  obtain ⟨key, nonce, isKey, -, text⟩ := derived.locked
  rw [← derived.amount, ← derived.index] at isKey
  obtain ⟨info, isInfo, -⟩ := ChannelParameters.stage2TweakInfo_of_blindedPubkey L isKey
  obtain ⟨json, parsed, kind, data⟩ := reads key (L.scalarToBeBytes nonce)
  rw [← text, ← secret] at parsed
  refine ⟨info.ephemeralPubkey, ?_⟩
  have checked : checkLock L params { proof with p2pkE := some info.ephemeralPubkey } entry =
      .ok () := by
    rw [checkLock]
    split_ifs with receiver
    · rw [roleOf, if_pos receiver] at isKey
      simp only [checkReceiverLock, ChannelParameters.getReceiverBlindedPubkeyForStage2Output,
        isKey, parsed, Outcome.mapErr_ok, Outcome.ofExcept_ok, Outcome.ok_bind]
      exact Outcome.guard_pos ⟨kind, data⟩
    · rfl
  simp only [proofWithMeta, ChannelParameters.attachStage2P2pkE, isInfo, Outcome.ok_bind,
    Outcome.pure_eq, Outcome.mapErr_ok, checked]

/-- Every proof of the receiver can be signed for spending. -/
theorem signReceiverCloseProof_of_key {host : Host T C}
    (signs : SignsHonestly L host params.receiverPubkey) {entry : ProofWithMeta T}
    {key : T.PublicKey} (isKey : params.getBlindedPubkeyForStage2Output L .receiver entry.amount
      entry.index = .ok key) :
    ∃ proof, signReceiverCloseProof L host params entry = .ok proof := by
  obtain ⟨info, isInfo, shifted⟩ := ChannelParameters.stage2TweakInfo_of_blindedPubkey L isKey
  obtain ⟨text, -, signed, -, -⟩ :=
    signs info.stage2TweakScalar key (L.sha256 (utf8 entry.proof.secret)) shifted
  simp only [signReceiverCloseProof, ChannelParameters.attachStage2P2pkE, isInfo, signed,
    Outcome.ok_bind, Outcome.pure_eq, Outcome.mapErr_ok, Outcome.ofExcept_ok]
  exact ⟨_, rfl⟩

/-- What the receiver's proofs amount to, read off the secrets they were made for. -/
theorem receiverSum_eq {metas : List (ProofWithMeta T)}
    (same : metas.map (fun entry => (entry.proof.amount, entry.isReceiver)) =
      entries.map fun entry => (entry.1.amount, entry.2)) :
    ((metas.filter (·.isReceiver)).map fun entry => entry.proof.amount) =
      (entries.filter (·.2)).map (·.1.amount) := by
  have kept := congrArg (fun pairs => (pairs.filter Prod.snd).map Prod.fst) same
  simpa [List.filter_map, Function.comp_def] using kept

/-- Proofs of the channel's outputs get their places, with locks that the receiver
has keys for. -/
theorem exists_metas (reads : L.ReadsP2pk)
    (derived : ∀ entry ∈ entries, ∃ slot, DerivedOutput L params (roleOf entry.2) slot entry.1)
    {proofs : List (Proof T)}
    (inOrder : List.Forall₂ (fun proof entry => proof.amount = entry.1.amount ∧
      proof.secret = entry.1.secret) proofs entries) :
    ∃ metas, Outcome.mapAll (proofWithMeta L params) (proofs.zip entries) = .ok metas ∧
      metas.map (fun entry => (entry.proof.amount, entry.isReceiver)) =
        entries.map (fun entry => (entry.1.amount, entry.2)) ∧
      ∀ entry ∈ metas, entry.isReceiver = true → ∃ key,
        params.getBlindedPubkeyForStage2Output L .receiver entry.amount entry.index = .ok key := by
  have placed : ∀ pair ∈ proofs.zip entries, ∃ entry : ProofWithMeta T,
      proofWithMeta L params pair = .ok entry ∧
      (entry.proof.amount, entry.isReceiver) = (pair.2.1.amount, pair.2.2) ∧
      (entry.isReceiver = true → ∃ key,
        params.getBlindedPubkeyForStage2Output L .receiver entry.amount entry.index = .ok key) := by
    rintro ⟨proof, entry⟩ member
    obtain ⟨amount, secret⟩ := (List.forall₂_iff_zip.mp inOrder).2 member
    obtain ⟨slot, output⟩ := derived entry (List.of_mem_zip member).2
    obtain ⟨ephemeral, made⟩ := proofWithMeta_of_derived reads output secret
    refine ⟨_, made, Prod.ext amount rfl, fun receiver => ?_⟩
    obtain ⟨key, -, isKey, -, -⟩ := output.locked
    rw [roleOf, if_pos receiver, ← output.amount, ← output.index] at isKey
    exact ⟨key, isKey⟩
  obtain ⟨metas, related⟩ := exists_forall₂ placed
  refine ⟨metas, Outcome.mapAll_eq_ok.mpr (related.imp fun _ _ => And.left), ?_, ?_⟩
  · calc metas.map (fun entry => (entry.proof.amount, entry.isReceiver))
        = (proofs.zip entries).map (fun pair => (pair.2.1.amount, pair.2.2)) :=
          (map_eq_map_of_forall₂ related fun _ _ place => place.2.1.symm).symm
      _ = ((proofs.zip entries).map Prod.snd).map (fun entry => (entry.1.amount, entry.2)) := by
          rw [List.map_map]
          rfl
      _ = entries.map (fun entry => (entry.1.amount, entry.2)) := by
          rw [List.map_snd_zip inOrder.length_eq.ge]
  · intro entry member receiver
    obtain ⟨_, -, -, -, key⟩ := exists_left_of_forall₂ related member
    exact key receiver

/-- The outputs are blinded again as they were, and an honest answer to them is
turned into one proof for each secret. -/
theorem exists_proofs (trips : L.RoundTrips) (laws : L.Issues)
    (inStep : InStep L params balance outKeyset.keysetId entries outputs)
    (nonempty : outputs ≠ [])
    (points : (outputs.map BlindedMessage.blindedSecret).Nodup)
    (secrets : (entries.map (·.1.secret)).Nodup)
    (keys : ∀ output ∈ outputs, (outKeyset.activeKeys.amountKey output.amount).isSome)
    {mode : Bool} {response : SwapResponse T}
    (honest : HonestResponse L outKeyset.activeKeys ⟨[], outputs, mode⟩
      (entries.map (·.1.blindingFactor)) response) :
    response.signatures.length = entries.length ∧
    ∃ prepared proofs, Outcome.mapAll (preparedOutput L outKeyset.keysetId) entries = .ok prepared ∧
      prepared.map PreparedSwapOutput.blindedMessage = outputs ∧
      completeSwapResponse L ⟨[], outputs, mode⟩ prepared response outKeyset = .ok proofs ∧
      List.Forall₂ (fun proof entry => proof.amount = entry.1.amount ∧
        proof.secret = entry.1.secret) proofs entries := by
  have total := inStep.total
  obtain ⟨pairs, rfl, rfl, offers⟩ := forall₂_iff_exists_pairs.mp inStep.offers
  let prepared : List (PreparedSwapOutput T) := pairs.map fun pair =>
    ⟨pair.2, pair.1.1.secret, pair.1.1.blindingFactor⟩
  have offered : Outcome.mapAll (preparedOutput L outKeyset.keysetId) (pairs.map Prod.fst) =
      .ok prepared := by
    rw [Outcome.mapAll_eq_ok, List.forall₂_map_left_iff, List.forall₂_map_right_iff,
      List.forall₂_same]
    intro pair member
    have offer := offers pair member
    simp only [preparedOutput, offer.blinds, Outcome.ofExcept_ok, Outcome.mapErr_ok,
      Outcome.ok_bind, Outcome.pure_eq, ← offer.amount, ← offer.keysetId]
  have bound : List.Forall₂ (BoundTo L outKeyset) prepared (pairs.map Prod.snd) := by
    rw [List.forall₂_map_left_iff, List.forall₂_map_right_iff, List.forall₂_same]
    exact fun pair member => ⟨rfl, (offers pair member).keysetId,
      keys _ (List.mem_map_of_mem member), (offers pair member).blinds⟩
  have entryOf : List.Forall₂ (fun (p : PreparedSwapOutput T)
      (entry : DeterministicSecretWithBlinding T × Bool) =>
        p.blindedMessage.amount = entry.1.amount ∧ p.secret = entry.1.secret)
      prepared (pairs.map Prod.fst) := by
    rw [List.forall₂_map_left_iff, List.forall₂_map_right_iff, List.forall₂_same]
    exact fun pair member => ⟨(offers pair member).amount, rfl⟩
  have secretsOf : prepared.map PreparedSwapOutput.secret =
      (pairs.map Prod.fst).map (·.1.secret) := by
    rw [List.map_map, List.map_map]
    rfl
  have factorsOf : prepared.map PreparedSwapOutput.blindingFactor =
      (pairs.map Prod.fst).map (·.1.blindingFactor) := by
    rw [List.map_map, List.map_map]
    rfl
  obtain ⟨_, _, -, -, signed, moved, -⟩ := honest.issued trips laws nonempty points
  obtain ⟨proofs, completed, unblinded⟩ := completeSwapResponse_of_honest trips laws nonempty points
    bound (secretsOf ▸ secrets) total (factorsOf ▸ honest)
  refine ⟨?_, prepared, proofs, offered, by simp [prepared], completed, ?_⟩
  · rw [signed.length_eq, ← moved.length_eq, List.length_map, List.length_map]
  · refine (forall₂_comp unblinded entryOf).imp fun proof entry => ?_
    rintro ⟨p, ⟨amount, secret⟩, amount', secret'⟩
    exact ⟨amount.trans amount', secret.trans secret'⟩

/-- **An honest answer is unblinded**, into proofs of which the receiver's are worth
the nominal value of the balance. -/
theorem unblind_of_honest (trips : L.RoundTrips) (laws : L.Issues) (reads : L.ReadsP2pk)
    (inStep : InStep L params balance outKeyset.keysetId entries outputs)
    (nonempty : outputs ≠ [])
    (points : (outputs.map BlindedMessage.blindedSecret).Nodup)
    (secrets : (entries.map (·.1.secret)).Nodup)
    (keys : ∀ output ∈ outputs, (outKeyset.activeKeys.amountKey output.amount).isSome)
    {response : SwapResponse T}
    (honest : HonestResponse L outKeyset.activeKeys
      ⟨[], outputs, params.commitmentMode = .rerandomized⟩ (entries.map (·.1.blindingFactor))
      response) :
    ∃ result, unblindAndVerifyStage1SwapResponse L response entries params outKeyset balance =
        .ok result ∧
      ∀ entry ∈ result.receiverProofs, ∃ key,
        params.getBlindedPubkeyForStage2Output L .receiver entry.amount entry.index = .ok key := by
  obtain ⟨search, found, nominal, fits⟩ := inStep.nominal
  obtain ⟨count, prepared, proofs, offered, messages, completed, inOrder⟩ :=
    exists_proofs trips laws inStep nonempty points secrets keys honest
  obtain ⟨metas, placed, places, lockedTo⟩ := exists_metas reads inStep.derived inOrder
  have sum : proofSum (metas.filter (·.isReceiver)) = search.nominalValue := by
    rw [proofSum, receiverSum_eq places, nominal, Nat.mod_eq_of_lt fits]
  refine ⟨⟨metas.filter (·.isReceiver), metas.filter (!·.isReceiver), search.nominalValue,
    proofSum (metas.filter (!·.isReceiver))⟩, ?_, fun entry member => ?_⟩
  · simp only [unblindAndVerifyStage1SwapResponse, Outcome.guard_pos count, offered, messages,
      completed, placed, found, sum, Outcome.guard_pos, Outcome.mapErr_ok, Outcome.ok_bind,
      Outcome.pure_eq]
  · obtain ⟨inMetas, receiver⟩ := List.mem_filter.mp member
    exact lockedTo entry inMetas receiver

variable (L) in
/-- A record carries a prepared close: completion reads from it what was prepared. -/
structure PreparedClose.Carries (prep : PreparedClose T) (params : ChannelParameters T)
    (outKeyset : KeysetInfo T) (data : CloseData T) : Prop where
  readsParams : prep.ReadsParams L params
  keyset_eq : parseKeysetInfoFromJson L (L.render prep.outputKeysetInfo) = .ok outKeyset
  entries_eq : readSecrets L prep.secretsWithBlinding = .ok data.secretsWithBlinding
  identified : params.getChannelId L = prep.channelId
  mint : params.mint = prep.mintUrl
  unit : params.unit = outKeyset.unit
  request_eq : ∃ request, L.swapRequestOfJson prep.swapRequest = .ok request ∧
    request.outputs = data.swapRequest.outputs ∧
    request.rerandomized = data.swapRequest.rerandomized

section Record

variable {host host' : Host T C} {channelId signature : String} {funding : ChannelFunding T}
  {data : CloseData T} (p : Preparation L host channelId balance signature funding outKeyset data)

include p

/-- **An honest answer completes every record that carries a prepared close.** -/
theorem Preparation.completes (trips : L.RoundTrips) (laws : L.Issues) (reads : L.ReadsP2pk)
    {prep : PreparedClose T} (carries : prep.Carries L p.params outKeyset data)
    (sameBalance : prep.balance = balance)
    (nonempty : data.swapRequest.outputs ≠ [])
    (points : (data.swapRequest.outputs.map BlindedMessage.blindedSecret).Nodup)
    (secrets : (data.secretsWithBlinding.map (·.1.secret)).Nodup)
    (keys : ∀ output ∈ data.swapRequest.outputs,
      (outKeyset.activeKeys.amountKey output.amount).isSome)
    (signs : SignsHonestly L host' p.params.receiverPubkey)
    {respJson : T.Text} {response : SwapResponse T}
    (parsed : parseSwapResponse L respJson = .ok response)
    (honest : HonestResponse L outKeyset.activeKeys data.swapRequest
      (data.secretsWithBlinding.map (·.1.blindingFactor)) response) :
    ∃ completed, completePreparedClose L host' respJson prep = .ok completed := by
  obtain ⟨request, isRequest, outputs, mode⟩ := carries.request_eq
  obtain ⟨result, unblinded, lockedTo⟩ := unblind_of_honest trips laws reads p.inStep nonempty
    points secrets keys (honest.of_outputs rfl p.mode_eq.symm)
  obtain ⟨signed, signedAll⟩ := Outcome.exists_mapAll fun entry member =>
    signReceiverCloseProof_of_key signs (lockedTo entry member).choose_spec
  subst sameBalance
  exact ⟨_, completePreparedClose_eq_ok_iff.mpr ⟨{
    response, request, result, parsed, unblinded
    params := p.params
    outKeyset := outKeyset
    entries := data.secretsWithBlinding
    commitment := p.commitment
    signedProofs := signed
    readsParams := carries.readsParams
    keyset_eq := carries.keyset_eq
    entries_eq := carries.entries_eq
    identified := carries.identified
    mint := carries.mint
    unit := carries.unit
    within := p.within
    committed := p.committed
    secrets := secretsWithBlinding_errors id id p.secrets
    request_eq := isRequest
    mode := mode.trans p.mode_eq
    offers := outputs ▸ p.inStep.offers
    signed := signedAll
    completed_eq := rfl }⟩⟩

/-- The record that the bridge wraps carries its close, if the normalized URL is the
one that was sent and the keyset is of the channel's unit. -/
theorem Preparation.carries (trips : L.RoundTrips) {prepared : PreparedClose T}
    (wrapped : wrapCloseData L data channelId balance funding = .ok prepared)
    (identified : p.params.getChannelId L = channelId) (mint : p.params.mint = prepared.mintUrl)
    (unit : p.params.unit = outKeyset.unit) (representable : outKeyset.Representable) :
    prepared.Carries L p.params outKeyset data := by
  obtain ⟨paramsVal, mintUrl, -, -, rfl⟩ := wrapCloseData_eq_ok_iff.mp wrapped
  refine ⟨(PreparedClose.readsParams_iff rfl rfl rfl).mpr p.stored, ?_,
    readSecrets_toJson trips p.inStep.bounds, identified, mint, unit, data.swapRequest,
    trips.swapRequestOfJson_toJson _, rfl, rfl⟩
  rw [p.keyset_eq]
  exact parseKeysetInfoFromJson_render L trips representable

end Record

end Complete

/-! ## Settling -/

variable (L) in
/-- A close is settled: one host prepares and wraps it, and another one, later,
completes it with every honest answer of the mint. -/
def Settles (host later : Host T C) (channelId : String) (balance : Nat) (signature : String)
    (funding : ChannelFunding T) (outKeyset : KeysetInfo T) (validateDue : Bool) : Prop :=
  ∃ data prepared,
    prepareCloseDataImpl L host channelId balance signature funding outKeyset validateDue =
      .ok data ∧
    wrapCloseData L data channelId balance funding = .ok prepared ∧
    ∀ respJson response, parseSwapResponse L respJson = .ok response →
      HonestResponse L outKeyset.activeKeys data.swapRequest
        (data.secretsWithBlinding.map (·.1.blindingFactor)) response →
      ∃ completed, completePreparedClose L later respJson prepared = .ok completed

variable (L) in
/-- The mint has an honest answer to the swap of a balance. -/
def Answerable (params : ChannelParameters T) (balance : Nat) (outKeyset : KeysetInfo T) : Prop :=
  ∀ commitment proofs request entries,
    CommitmentOutputs.forBalance balance params = .ok commitment →
    commitment.createSwapRequest L proofs (some outKeyset.keysetId) = .ok request →
    commitment.secretsWithBlinding L id id = .ok entries →
    ∃ respJson response, parseSwapResponse L respJson = .ok response ∧
      HonestResponse L outKeyset.activeKeys request (entries.map (·.1.blindingFactor)) response

/-- Completion compares the mint of the parameters with the one in the record. -/
theorem mint_of_completePreparedClose {host : Host T C} {respJson : T.Text}
    {prepared : PreparedClose T} {completed : CompletedClose T} {funding : ChannelFunding T}
    (paramsText : prepared.paramsJson = funding.paramsJson)
    (keysetText : prepared.keysetInfoJson = funding.keysetInfoJson)
    (secretText : prepared.channelSecret = funding.channelSecretHex)
    {params : ChannelParameters T} (stored : storedParams L funding = .ok params)
    (done : completePreparedClose L host respJson prepared = .ok completed) :
    params.mint = prepared.mintUrl := by
  obtain ⟨c⟩ := completePreparedClose_eq_ok_iff.mp done
  have stored' := (PreparedClose.readsParams_iff paramsText keysetText secretText).mp c.readsParams
  rw [Outcome.ok.inj (stored.symm.trans stored')]
  exact c.mint

/-- What settling takes: completion compares the URL that was sent with the
normalized one, and preparation splits the funding amount over the output keyset. -/
theorem of_settles (trips : L.RoundTrips) {accepting closing completing : Host T C}
    {paramsVal : Json} {proofs : List (Proof T)} {validated : ValidatedNewChannel T}
    (a : Acceptance L accepting paramsVal proofs validated) {mint : String}
    (named : (paramsVal.field "mint").asStr = some mint) {balance : Nat} {signature : String}
    {outKeyset : KeysetInfo T} (answerable : Answerable L a.params balance outKeyset)
    {validateDue : Bool}
    (settles : Settles L closing completing validated.channelId balance signature validated.funding
      outKeyset validateDue) :
    a.params.mint = mint ∧
      Splits outKeyset a.params.maximumAmountForOneOutput a.params.fundingTokenAmount := by
  obtain ⟨data, prepared, isData, wrapped, completes⟩ := settles
  obtain ⟨⟨p⟩, -⟩ := prepareCloseDataImpl_eq_ok_iff.mp isData
  have same := Outcome.ok.inj (p.stored.symm.trans a.storedParams_eq)
  have committed := p.committed
  have total := p.total
  rw [same] at committed total
  refine ⟨?_, (deterministicValueAfterFees_eq_ok_iff.mp total).1⟩
  obtain ⟨respJson, response, parsed, honest⟩ := answerable _ _ _ _ committed p.built
    (secretsWithBlinding_errors id id p.secrets)
  obtain ⟨completed, done⟩ := completes respJson response parsed
    (honest.of_outputs p.request_unsigned.1 p.request_unsigned.2)
  obtain ⟨_, mintUrl, parsed', isMint, rfl⟩ := wrapCloseData_eq_ok_iff.mp wrapped
  rw [a.paramsText, trips.parse_render] at parsed'
  obtain rfl := Except.ok.inj parsed'
  obtain rfl := Option.some.inj (named.symm.trans isMint)
  exact mint_of_completePreparedClose rfl rfl rfl a.storedParams_eq done

/-- What is enough for settling: completion reads the same parameters as acceptance
did, so an honest answer passes every check. -/
theorem Acceptance.settles (trips : L.RoundTrips) (laws : L.Issues) (reads : L.ReadsP2pk)
    {accepting closing completing : Host T C} {paramsVal : Json} {proofs : List (Proof T)}
    {validated : ValidatedNewChannel T} (a : Acceptance L accepting paramsVal proofs validated)
    (nonzero : validated.capacity ≠ 0) {balance : Nat} {signature : String}
    (verified : verifySignature L validated.funding validated.channelId balance signature = .ok ())
    {outKeyset : KeysetInfo T} (representable : outKeyset.Representable)
    (sameUnit : a.params.unit = outKeyset.unit)
    (keys : ∀ commitment, CommitmentOutputs.forBalance balance a.params = .ok commitment →
      ∀ amount ∈ commitment.receiverOutputs.orderedAmounts.amounts ++
        commitment.senderOutputs.orderedAmounts.amounts,
        (outKeyset.activeKeys.amountKey amount).isSome)
    (collisionFree : CollisionFree L a.params balance)
    (signs : SignsHonestly L closing a.params.receiverPubkey)
    (signsLater : SignsHonestly L completing a.params.receiverPubkey)
    {validateDue : Bool}
    (due : validateDue = true → balance = closing.getAmountDue validated.channelId none)
    (named : (paramsVal.field "mint").asStr = some a.params.mint)
    (splits : Splits outKeyset a.params.maximumAmountForOneOutput a.params.fundingTokenAmount) :
    Settles L closing completing validated.channelId balance signature validated.funding outKeyset
      validateDue := by
  obtain ⟨data, prepared, ⟨p⟩, wrapped, sameUrl⟩ :=
    a.exists_prepared trips nonzero verified signs splits named
  refine ⟨data, prepared, prepareCloseDataImpl_eq_ok_iff.mpr ⟨⟨p⟩, due⟩, wrapped,
    fun respJson response parsed honest => ?_⟩
  have same := Outcome.ok.inj (p.stored.symm.trans a.storedParams_eq)
  have achievable := achievable_of_readFrom (a.readFrom trips)
  have capacity : a.params.capacity ≠ 0 := a.capacity_params trips ▸ nonzero
  have identified := a.identified
  rw [← same] at collisionFree sameUnit sameUrl signsLater achievable capacity identified keys
  obtain ⟨secrets, points⟩ := p.distinct trips collisionFree
  have hasKeys : ∀ output ∈ data.swapRequest.outputs,
      (outKeyset.activeKeys.amountKey output.amount).isSome := fun output member =>
    keys _ p.committed _ (amount_mem_of_createSwapRequest p.committed p.built
      (p.request_unsigned.1 ▸ member))
  have carries := p.carries trips wrapped identified sameUrl.symm sameUnit representable
  obtain ⟨_, _, -, -, isPrepared⟩ := wrapCloseData_eq_ok_iff.mp wrapped
  exact p.completes trips laws reads carries (by rw [isPrepared])
    (p.outputs_ne_nil achievable capacity) points secrets hasKeys signsLater parsed honest

/-- **Every close of an accepted payment can be settled exactly when** the mint's URL
was sent without a slash at its end and the output keyset splits the funding amount. -/
theorem settles_iff (trips : L.RoundTrips) (laws : L.Issues) (reads : L.ReadsP2pk)
    {accepting paying closing completing : Host T C} {channelId : String} {paramsVal : Json}
    {proofs : List (Proof T)} {firstBalance : Nat} {firstSignature : String}
    {validated : ValidatedNewChannel T}
    (accepted : validateNewChannelFunding L accepting channelId paramsVal proofs firstBalance
      firstSignature = .ok validated)
    (nonzero : validated.capacity ≠ 0)
    (stored : paying.getFunding channelId = some validated.funding)
    {balance : Nat} {signature : String} {context : C} {result : PaymentValidationResult}
    (paid : validatePayment L paying channelId balance signature context = .ok result)
    {params : ChannelParameters T} (read : storedParams L validated.funding = .ok params)
    {mint : String} (named : (paramsVal.field "mint").asStr = some mint)
    {outKeyset : KeysetInfo T} (representable : outKeyset.Representable)
    (sameUnit : params.unit = outKeyset.unit)
    (keys : ∀ commitment, CommitmentOutputs.forBalance balance params = .ok commitment →
      ∀ amount ∈ commitment.receiverOutputs.orderedAmounts.amounts ++
        commitment.senderOutputs.orderedAmounts.amounts,
        (outKeyset.activeKeys.amountKey amount).isSome)
    (collisionFree : CollisionFree L params balance)
    (answerable : Answerable L params balance outKeyset)
    (signs : SignsHonestly L closing params.receiverPubkey)
    (signsLater : SignsHonestly L completing params.receiverPubkey)
    {validateDue : Bool} (due : validateDue = true → balance = closing.getAmountDue channelId none) :
    Settles L closing completing channelId balance signature validated.funding outKeyset
        validateDue ↔
      mint.toList.getLast? ≠ some '/' ∧
        Splits outKeyset params.maximumAmountForOneOutput params.fundingTokenAmount := by
  obtain ⟨⟨a⟩, rfl, -⟩ := acceptance_of_validate accepted
  obtain rfl := Outcome.ok.inj (a.storedParams_eq.symm.trans read)
  rw [← a.mint_eq_iff trips named]
  constructor
  · exact of_settles trips a named answerable
  · rintro ⟨sameMint, splits⟩
    obtain ⟨_, _, opened, -, -, verified, -, -⟩ := validatePayment_eq_ok_iff.mp paid
    obtain ⟨-, -, -, found⟩ := openFunding_eq_ok_iff.mp opened
    obtain rfl := Option.some.inj (stored.symm.trans found)
    exact a.settles trips laws reads nonzero verified representable sameUnit keys collisionFree signs
      signsLater due (sameMint ▸ named) splits

/-! ## Two closes that get stuck, and one that does not -/

namespace Sample

/-- The mint answers every swap of outputs it has keys for. -/
theorem answerable {params : ChannelParameters carriers} {balance : Nat}
    {outKeyset : KeysetInfo carriers} (ordinary : params.commitmentMode = .ordinary)
    (keys : ∀ commitment, CommitmentOutputs.forBalance balance params = .ok commitment →
      ∀ amount ∈ commitment.receiverOutputs.orderedAmounts.amounts ++
        commitment.senderOutputs.orderedAmounts.amounts,
        (outKeyset.activeKeys.amountKey amount).isSome) :
    Answerable library params balance outKeyset := by
  intro commitment proofs request entries committed built _
  let signatures := request.outputs.map (signOutput outKeyset)
  refine ⟨responseToJson ⟨signatures, none⟩, ⟨signatures, none⟩, ?_, .ordinary ?_ ?_⟩
  · exact parseSwapResponse_toJson _
  · rw [rerandomized_of_createSwapRequest committed built, ordinary]
    rfl
  · rw [List.forall₂_map_left_iff, List.forall₂_same]
    intro output member
    exact signedOutput_signOutput
      (keys _ committed _ (amount_mem_of_createSwapRequest committed built member))

/-- A payment that was accepted with its channel is accepted again. -/
theorem pays {terms : Terms} {keyset outKeyset : KeysetInfo carriers} {mint : String}
    {policies : String → Option ChannelPolicy} {now balance : Nat} {accepted : Accepted}
    (opened : terms.openAt keyset (host mint keyset policies now) balance = .ok accepted)
    {signature : String} (facts : Inspected terms keyset outKeyset balance signature accepted)
    (signed : signature ≠ "") :
    ∃ result, validatePayment library
      (storing (host mint keyset policies now) accepted.opening.channelId
        accepted.validated.funding)
      accepted.opening.channelId balance accepted.opening.signature () = .ok result := by
  obtain ⟨⟨a⟩, sameId, samePayment⟩ := acceptance_of_validate (of_openAt opened).1
  obtain ⟨sameBalance, sameSignature⟩ := PaymentProof.mk.inj samePayment
  rw [← sameId, ← sameBalance, ← sameSignature]
  exact a.validatePayment_eq_ok roundTrips (sameId ▸ facts.named) (sameSignature ▸ facts.signature_eq ▸ signed)
    (by simp [storing]) (by simp [storing]) (Nat.zero_le _)

/-- A channel is accepted, and a payment on it; the output keyset has the unit of the
channel and keys for all outputs; and the close cannot be settled. -/
def Stuck (terms : Terms) (keyset outKeyset : KeysetInfo carriers) (host : Host carriers Unit)
    (signature : String) : Prop :=
  ∃ accepted, terms.openAt keyset host 1 = .ok accepted ∧ accepted.validated.capacity ≠ 0 ∧
    Inspected terms keyset outKeyset 1 signature accepted ∧
    (∃ result, validatePayment library
      (storing host accepted.opening.channelId accepted.validated.funding)
      accepted.opening.channelId 1 accepted.opening.signature () = .ok result) ∧
    ¬ Settles library host host accepted.opening.channelId 1 accepted.opening.signature
      accepted.validated.funding outKeyset false

theorem stuck_of_open {terms : Terms} {keyset outKeyset : KeysetInfo carriers} {mint : String}
    {policies : String → Option ChannelPolicy} {now : Nat} {accepted : Accepted}
    (opened : terms.openAt keyset (host mint keyset policies now) 1 = .ok accepted)
    {signature : String} (facts : Inspected terms keyset outKeyset 1 signature accepted)
    (signed : signature ≠ "") (nonzero : terms.capacity ≠ 0)
    (stuck : ¬ (terms.mint.toList.getLast? ≠ some '/' ∧
      Splits outKeyset terms.maximumAmount terms.fundingTokenAmount)) :
    Stuck terms keyset outKeyset (host mint keyset policies now) signature := by
  obtain ⟨valid, stored⟩ := of_openAt opened
  obtain ⟨⟨a⟩, sameId, -⟩ := acceptance_of_validate valid
  have same := Outcome.ok.inj (stored.symm.trans a.storedParams_eq)
  refine ⟨accepted, opened, facts.capacity_eq ▸ nonzero, facts, pays opened facts signed,
    fun settles => stuck ?_⟩
  rw [← sameId] at settles
  obtain ⟨sameMint, splits⟩ := of_settles roundTrips a facts.mint_eq
    (same ▸ answerable facts.mode_eq facts.keys) settles
  rw [← same, facts.funding_eq, facts.maximum_eq] at splits
  exact ⟨(a.mint_eq_iff roundTrips facts.mint_eq).mp sameMint, splits⟩

/-- A keyset of two denominations with a fee of a tenth of a unit. -/
def feePairs : KeysetInfo carriers :=
  mintKeyset "sat" [(1, point 5), (2, point 6)] 100

/-- A keyset of one denomination. -/
def twos : KeysetInfo carriers := mintKeyset "sat" [(2, point 6)] 0

/-- A channel that pays one out of three. -/
def three : Terms := ⟨"m", "sat", 1, 3, 0, 2000, "ordinary"⟩

/-- The channel of three has one output of two for a balance of one. -/
theorem opens_three : ∃ accepted, three.openAt feePairs
    (host "m" feePairs (policyFor "sat" ⟨100, 1, none⟩) 1000) 1 = .ok accepted ∧
      Inspected three feePairs twos 1 (signatureText 35 32) accepted :=
  exists_inspected (by decide +kernel)

end Sample

/-- The close of a channel of two, funded and closed with one keyset, is settled. -/
theorem settles_iff_two :
    ∃ accepted, (Sample.two "m").openAt (Sample.pairs "sat") (Sample.satHost "m" "sat") 1 =
        .ok accepted ∧
      Settles Sample.library (Sample.satHost "m" "sat") (Sample.satHost "m" "sat")
        accepted.opening.channelId 1 accepted.opening.signature accepted.validated.funding
        (Sample.pairs "sat") false := by
  obtain ⟨accepted, opened, facts⟩ := Sample.opens_two
  obtain ⟨valid, stored⟩ := Sample.of_openAt opened
  obtain ⟨result, paid⟩ := Sample.pays opened facts (by decide +kernel)
  have representable : (Sample.pairs "sat").Representable :=
    ⟨rfl, by decide, by decide, by decide⟩
  refine ⟨accepted, opened, (settles_iff Sample.roundTrips Sample.issues Sample.readsP2pk valid
    (by rw [facts.capacity_eq]; decide) (by simp [Sample.storing]) paid stored facts.mint_eq
    representable facts.unit_eq facts.keys facts.collisionFree
    (Sample.answerable facts.mode_eq facts.keys) (Sample.signsHonestly rfl _)
    (Sample.signsHonestly rfl _) (by simp)).mpr ⟨by decide, ?_⟩⟩
  rw [facts.funding_eq, facts.maximum_eq]
  decide

/-- A mint's URL with a slash at its end gets a close stuck, and so does an output
keyset with keys for all outputs that does not split the funding amount. -/
theorem not_settles_slash :
    Sample.Stuck (Sample.two "m/") (Sample.pairs "sat") (Sample.pairs "sat")
        (Sample.satHost "m/" "sat") (Sample.signatureText 119 47) ∧
      Sample.Stuck Sample.three Sample.feePairs Sample.twos
        (Sample.host "m" Sample.feePairs (Sample.policyFor "sat" ⟨100, 1, none⟩) 1000)
        (Sample.signatureText 35 32) := by
  constructor
  · obtain ⟨accepted, opened, facts⟩ := Sample.opens_slash
    exact Sample.stuck_of_open opened facts (by decide +kernel) (by decide) (by decide)
  · obtain ⟨accepted, opened, facts⟩ := Sample.opens_three
    exact Sample.stuck_of_open opened facts (by decide +kernel) (by decide) (by decide)

end Spilman
