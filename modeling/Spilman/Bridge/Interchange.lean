/-
# Which prepared closes are interchangeable

A prepared close may be lost and built again, and a kept one may have been
tampered with. What matters is how it completes: two records are interchangeable
if every answer of the mint completes both or neither, and to the same payout up
to the receiver's signatures.

`Completion.transfer` lists what completion depends on. Attempts that are rebuilt
for the same keyset agree on all of it (`rebuilt_interchangeable`). Two records
that authenticate against the same funding and payment agree on all of it but
one thing: the keys of the output keyset are nowhere compared with its
identifier. `verified_interchangeable_iff` says that this is the only freedom
that is left.
-/

import Spilman.Bridge.Authenticity
import Spilman.Bridge.Payout

namespace Spilman

open Lib

variable {T : Carriers} {C : Type} {L : Cashu T}

/-! ## The same payout -/

variable (L) in
/-- Two completed closes are the same up to the receiver's signatures. -/
structure SamePayout (completed completed' : CompletedClose T) : Prop where
  channelId : completed'.channelId = completed.channelId
  expiryTimestamp : completed'.expiryTimestamp = completed.expiryTimestamp
  balance : completed'.balance = completed.balance
  receiverSum : completed'.receiverSum = completed.receiverSum
  senderSum : completed'.senderSum = completed.senderSum
  senderProofs : completed'.senderProofsJson = completed.senderProofsJson
  receiverProofs : ∃ proofs proofs',
    completed.receiverProofsJson = L.render (L.proofsToJson proofs) ∧
    completed'.receiverProofsJson = L.render (L.proofsToJson proofs') ∧
    proofs'.map Proof.clearWitness = proofs.map Proof.clearWitness

variable (L) in
/-- Two records of one close, up to the signatures on the request and the output
keyset. -/
structure SameClose (prep prep' : PreparedClose T) : Prop where
  channelId : prep'.channelId = prep.channelId
  balance : prep'.balance = prep.balance
  mintUrl : prep'.mintUrl = prep.mintUrl
  secrets : prep'.secretsWithBlinding = prep.secretsWithBlinding
  paramsJson : prep'.paramsJson = prep.paramsJson
  keysetInfoJson : prep'.keysetInfoJson = prep.keysetInfoJson
  channelSecret : prep'.channelSecret = prep.channelSecret
  request : ∀ request, L.swapRequestOfJson prep.swapRequest = .ok request →
    ∃ request', L.swapRequestOfJson prep'.swapRequest = .ok request' ∧
      request'.outputs = request.outputs ∧ request'.rerandomized = request.rerandomized

theorem SameClose.readsParams_iff {prep prep' : PreparedClose T} (same : SameClose L prep prep')
    {params : ChannelParameters T} : prep'.ReadsParams L params ↔ prep.ReadsParams L params := by
  rw [PreparedClose.ReadsParams, same.keysetInfoJson, same.channelSecret, same.paramsJson,
    PreparedClose.ReadsParams]

section Transfer

variable {host host' : Host T C} {respJson : T.Text} {prep prep' : PreparedClose T}
  {completed : CompletedClose T}

/-- The receiver has a key for each of its completed proofs. -/
theorem Unblinding.receiverKey {response : SwapResponse T}
    {entries : List (DeterministicSecretWithBlinding T × Bool)} {params : ChannelParameters T}
    {outKeyset : KeysetInfo T} {balance : Nat} {result : UnblindResult T}
    (u : Unblinding L response entries params outKeyset balance result)
    {entry : ProofWithMeta T} (member : entry ∈ result.receiverProofs) :
    ∃ key, params.getBlindedPubkeyForStage2Output L .receiver entry.amount entry.index =
      .ok key := by
  rw [u.result_eq] at member
  obtain ⟨inMetas, receiver⟩ := List.mem_filter.mp member
  obtain ⟨pair, -, made⟩ := exists_left_of_forall₂ (Outcome.mapAll_eq_ok.mp u.placed) inMetas
  simp only [proofWithMeta, Outcome.bind_eq_ok, Outcome.pure_eq, Outcome.ok.injEq] at made
  obtain ⟨_, -, _, checked, rfl⟩ := made
  replace receiver : pair.2.2 = true := receiver
  rw [checkLock, if_pos receiver] at checked
  simp only [checkReceiverLock, Outcome.bind_eq_ok, Outcome.mapErr_eq_ok] at checked
  obtain ⟨key, isKey, -⟩ := checked
  exact ⟨key, isKey⟩

/-- Two hosts sign a proof the same way up to the signature. -/
theorem clearWitness_signReceiverCloseProof {params : ChannelParameters T}
    {entry : ProofWithMeta T} {proof proof' : Proof T}
    (made : signReceiverCloseProof L host params entry = .ok proof)
    (made' : signReceiverCloseProof L host' params entry = .ok proof') :
    proof'.clearWitness = proof.clearWitness := by
  simp only [signReceiverCloseProof, ChannelParameters.attachStage2P2pkE, Outcome.bind_eq_ok,
    Outcome.mapErr_eq_ok, Outcome.pure_eq, Outcome.ok.injEq] at made made'
  obtain ⟨_, ⟨info, isInfo, rfl⟩, _, -, _, -, rfl⟩ := made
  obtain ⟨_, ⟨info', isInfo', rfl⟩, _, -, _, -, rfl⟩ := made'
  obtain rfl := Outcome.ok.inj (isInfo.symm.trans isInfo')
  rfl

/-- An unblinding depends on the output keyset by its identifier and the keys of the
outputs. -/
theorem unblind_of_keys (laws : L.Unblinds) {response : SwapResponse T}
    {entries : List (DeterministicSecretWithBlinding T × Bool)} {params : ChannelParameters T}
    {outKeyset outKeyset' : KeysetInfo T} {balance : Nat} {result : UnblindResult T}
    (sameId : outKeyset'.keysetId = outKeyset.keysetId)
    (sameKeys : ∀ entry ∈ entries, outKeyset'.activeKeys.amountKey entry.1.amount =
      outKeyset.activeKeys.amountKey entry.1.amount)
    (unblinded : unblindAndVerifyStage1SwapResponse L response entries params outKeyset balance =
      .ok result) :
    unblindAndVerifyStage1SwapResponse L response entries params outKeyset' balance =
      .ok result := by
  obtain ⟨u⟩ := unblind_eq_ok_iff.mp unblinded
  refine unblind_eq_ok_iff.mpr ⟨{ u with
    offered := sameId ▸ u.offered
    accepted := completeSwapResponse_of_keys laws sameId ?_ u.accepted }⟩
  intro output member
  obtain ⟨p, inPrepared, rfl⟩ := List.mem_map.mp member
  obtain ⟨entry, inEntries, made⟩ :=
    exists_left_of_forall₂ (Outcome.mapAll_eq_ok.mp u.offered) inPrepared
  rw [(preparedOutput_eq_ok made).1]
  exact sameKeys entry inEntries

/-- **What completion depends on.** A record of the same close, with an output keyset of
the same identifier, unit and keys for the outputs, completes with the same answer to
the same payout. -/
theorem Completion.transfer (laws : L.Unblinds) (c : Completion L host respJson prep completed)
    (same : SameClose L prep prep') {outKeyset' : KeysetInfo T}
    (keyset_eq : parseKeysetInfoFromJson L (L.render prep'.outputKeysetInfo) = .ok outKeyset')
    (sameId : outKeyset'.keysetId = c.outKeyset.keysetId)
    (sameUnit : outKeyset'.unit = c.outKeyset.unit)
    (sameKeys : ∀ entry ∈ c.entries, outKeyset'.activeKeys.amountKey entry.1.amount =
      c.outKeyset.activeKeys.amountKey entry.1.amount)
    (signs : SignsHonestly L host' c.params.receiverPubkey) :
    ∃ completed', completePreparedClose L host' respJson prep' = .ok completed' ∧
      SamePayout L completed completed' := by
  obtain ⟨request', isRequest', outputs, mode⟩ := same.request _ c.request_eq
  obtain ⟨u⟩ := unblind_eq_ok_iff.mp c.unblinded
  obtain ⟨signed, signedAll⟩ := Outcome.exists_mapAll fun entry member =>
    signReceiverCloseProof_of_key signs (u.receiverKey member).choose_spec
  have readsParams := same.readsParams_iff.mpr c.readsParams
  have committed := c.committed
  have unblinded := unblind_of_keys laws sameId sameKeys c.unblinded
  rw [← same.balance] at committed unblinded
  refine ⟨_, completePreparedClose_eq_ok_iff.mpr ⟨{
    c with
    outKeyset := outKeyset'
    request := request'
    signedProofs := signed
    parsed := c.parsed
    readsParams, keyset_eq, committed, unblinded
    entries_eq := same.secrets.symm ▸ c.entries_eq
    identified := c.identified.trans same.channelId.symm
    mint := c.mint.trans same.mintUrl.symm
    unit := c.unit.trans sameUnit.symm
    within := same.balance.symm ▸ c.within
    secrets := c.secrets
    request_eq := isRequest'
    mode := mode.trans c.mode
    offers := by rw [outputs, sameId]; exact c.offers
    signed := signedAll
    completed_eq := rfl }⟩, ?_⟩
  have expiry : closeExpiryTimestamp L prep' = closeExpiryTimestamp L prep := by
    rw [closeExpiryTimestamp, same.paramsJson, closeExpiryTimestamp]
  have witnesses : signed.map Proof.clearWitness = c.signedProofs.map Proof.clearWitness :=
    map_eq_map_of_forall₂ (forall₂_comp (Outcome.mapAll_eq_ok.mp signedAll).flip
      (Outcome.mapAll_eq_ok.mp c.signed)) fun proof' proof made => by
        obtain ⟨entry, isProof', isProof⟩ := made
        exact clearWitness_signReceiverCloseProof isProof isProof'
  suffices payout : ∀ before, before = _ → SamePayout L before _ from
    payout completed c.completed_eq
  rintro _ rfl
  exact ⟨same.channelId, expiry, same.balance, rfl, rfl, rfl, c.signedProofs, signed, rfl, rfl,
    witnesses⟩

/-- A close is completed only with a keyset that has a key for every output. -/
theorem Completion.hasKeys (laws : L.Unblinds) (c : Completion L host respJson prep completed) :
    ∀ output ∈ c.request.outputs, (c.outKeyset.activeKeys.amountKey output.amount).isSome := by
  intro output member
  obtain ⟨u⟩ := unblind_eq_ok_iff.mp c.unblinded
  obtain ⟨entry, inEntries, offer⟩ := exists_left_of_forall₂ c.offers member
  obtain ⟨_, -, -, paid⟩ := exists_right_of_forall₂ (u.pays laws).2 inEntries
  obtain ⟨key, hasKey, -⟩ := paid.verified
  rw [offer.amount, hasKey]
  rfl

/-- If one answer completes two records of a close, their output keysets have the same
keys for the outputs. -/
theorem Completion.amountKey_eq (laws : L.Unblinds) {completed' : CompletedClose T}
    (c : Completion L host respJson prep completed)
    (c' : Completion L host' respJson prep' completed') (same : SameClose L prep prep')
    (sameId : c'.outKeyset.keysetId = c.outKeyset.keysetId)
    (tellsApart : L.TellsApart c.outKeyset.activeKeys c'.outKeyset.activeKeys) :
    ∀ output ∈ c.request.outputs, c'.outKeyset.activeKeys.amountKey output.amount =
      c.outKeyset.activeKeys.amountKey output.amount := by
  intro output member
  have response := Except.ok.inj (c'.parsed.symm.trans c.parsed)
  have params : c'.params = c.params :=
    (same.readsParams_iff.mp c'.readsParams).unique c.readsParams
  have entries : c'.entries = c.entries := by
    have read := c'.entries_eq
    rw [same.secrets] at read
    exact Outcome.ok.inj (read.symm.trans c.entries_eq)
  have unblinded := c'.unblinded
  rw [response, params, entries] at unblinded
  obtain ⟨u⟩ := unblind_eq_ok_iff.mp c.unblinded
  obtain ⟨u'⟩ := unblind_eq_ok_iff.mp unblinded
  have offered := u'.offered
  rw [sameId] at offered
  have accepted := u'.accepted
  rw [Outcome.ok.inj (offered.symm.trans u.offered)] at accepted
  obtain ⟨entry, inEntries, offer⟩ := exists_left_of_forall₂ c.offers member
  obtain ⟨p, inPrepared, made⟩ :=
    exists_right_of_forall₂ (Outcome.mapAll_eq_ok.mp u.offered) inEntries
  rw [offer.amount, ← (preparedOutput_eq_ok made).1]
  exact amountKey_eq_of_completeSwapResponse laws tellsApart u.accepted accepted
    (List.mem_map_of_mem inPrepared)

end Transfer

/-! ## Interchangeable records -/

variable (L C) in
/-- Whatever completes one record completes the other one, for every host that signs for
the receiver, and to the same payout. -/
def CompletesAlike (receiver : T.PublicKey) (prep prep' : PreparedClose T) : Prop :=
  ∀ (completing completing' : Host T C) (respJson : T.Text) (completed : CompletedClose T),
    SignsHonestly L completing' receiver →
    completePreparedClose L completing respJson prep = .ok completed →
    ∃ completed', completePreparedClose L completing' respJson prep' = .ok completed' ∧
      SamePayout L completed completed'

variable (L C) in
/-- Two records are interchangeable. -/
def Interchangeable (receiver : T.PublicKey) (prep prep' : PreparedClose T) : Prop :=
  CompletesAlike C L receiver prep prep' ∧ CompletesAlike C L receiver prep' prep

section Prepared

variable {host host' : Host T C} {channelId channelId' : String} {balance : Nat}
  {signature : String} {funding : ChannelFunding T} {outKeyset outKeyset' : KeysetInfo T}
  {data data' : CloseData T}

/-- Two preparations of one close with keysets of one identifier come to the same
parameters, secrets and request, up to the receiver's signature. -/
theorem Preparation.agree
    (p : Preparation L host channelId balance signature funding outKeyset data)
    (p' : Preparation L host' channelId' balance signature funding outKeyset' data')
    (sameId : outKeyset'.keysetId = outKeyset.keysetId) :
    p'.params = p.params ∧ p'.unsigned = p.unsigned ∧ p'.once = p.once ∧
      data'.secretsWithBlinding = data.secretsWithBlinding := by
  have params : p'.params = p.params := Outcome.ok.inj (p'.stored.symm.trans p.stored)
  have proofs : p'.proofs = p.proofs := Outcome.ok.inj (p'.parsed.symm.trans p.parsed)
  have sig : p'.sig = p.sig := Outcome.ok.inj (p'.read.symm.trans p.read)
  have commitment : p'.commitment = p.commitment := by
    have committed := p'.committed
    rw [params] at committed
    exact Outcome.ok.inj (committed.symm.trans p.committed)
  have unsigned : p'.unsigned = p.unsigned := by
    have built := p'.built
    rw [commitment, proofs, sameId] at built
    exact Outcome.ok.inj (built.symm.trans p.built)
  have once : p'.once = p.once := by
    have attached := p'.attached
    rw [unsigned, sig] at attached
    exact Outcome.ok.inj (attached.symm.trans p.attached)
  have secrets := p'.secrets
  rw [commitment] at secrets
  exact ⟨params, unsigned, once, Outcome.ok.inj (secrets.symm.trans p.secrets)⟩

/-- With the same keyset everything but the request is the same. -/
theorem Preparation.data_eq
    (p : Preparation L host channelId balance signature funding outKeyset data)
    (p' : Preparation L host' channelId balance signature funding outKeyset data') :
    data' = { data with swapRequest := data'.swapRequest } := by
  obtain ⟨params, -, once, secrets⟩ := p.agree p' rfl
  have key := p'.key
  have total := p'.total
  rw [params] at key total
  have hash : data'.sigAllMessageHash = data.sigAllMessageHash := by
    rw [p'.hash_eq, p.hash_eq, once]
  have receiverKey : data'.blindedReceiverPubkey = data.blindedReceiverPubkey := by
    rw [p'.key_eq, p.key_eq, Outcome.ok.inj (key.symm.trans p.key)]
  rw [← hash, ← receiverKey, ← Outcome.ok.inj (total.symm.trans p.total), ← secrets, p.keyset_eq,
    ← p'.keyset_eq]

end Prepared

/-! ## Rebuilt attempts -/

section Rebuilt

variable {host host' : Host T C} {channelId : String} {balance : Nat} {signature : String}
  {funding : ChannelFunding T} {outKeyset : KeysetInfo T} {data data' : CloseData T}

variable (L) in
/-- Two records that differ in the receiver's signature on the first input only. -/
structure DifferInSignature (prep prep' : PreparedClose T) : Prop where
  rest : prep' = { prep with swapRequest := prep'.swapRequest }
  request : ∃ (first : Proof T) (others : List (Proof T)) (outputs : List (BlindedMessage T))
    (mode : Bool) (senderSig receiverSig receiverSig' : String),
    L.swapRequestOfJson prep.swapRequest = .ok ⟨(first.addSignature senderSig).addSignature
      receiverSig :: others, outputs, mode⟩ ∧
    L.swapRequestOfJson prep'.swapRequest = .ok ⟨(first.addSignature senderSig).addSignature
      receiverSig' :: others, outputs, mode⟩
  /-- Both parties sign the same message. -/
  message : ∀ request request', L.swapRequestOfJson prep.swapRequest = .ok request →
    L.swapRequestOfJson prep'.swapRequest = .ok request' →
    L.sigAllMessageHash request' = L.sigAllMessageHash request

theorem DifferInSignature.sameClose {prep prep' : PreparedClose T}
    (differ : DifferInSignature L prep prep') : SameClose L prep prep' := by
  obtain ⟨rest, ⟨first, others, outputs, mode, senderSig, sig, sig', isRequest, isRequest'⟩, -⟩ :=
    differ
  rw [rest]
  refine ⟨rfl, rfl, rfl, rfl, rfl, rfl, rfl, ?_⟩
  intro request read
  obtain rfl := Except.ok.inj (isRequest.symm.trans read)
  exact ⟨_, isRequest', rfl, rfl⟩

theorem Preparation.differInSignature (trips : L.RoundTrips) (witnessFree : L.WitnessFree)
    (p : Preparation L host channelId balance signature funding outKeyset data)
    (p' : Preparation L host' channelId balance signature funding outKeyset data')
    {prepared prepared' : PreparedClose T}
    (wrapped : wrapCloseData L data channelId balance funding = .ok prepared)
    (wrapped' : wrapCloseData L data' channelId balance funding = .ok prepared') :
    DifferInSignature L prepared prepared' := by
  obtain ⟨-, -, once, -⟩ := p.agree p' rfl
  have rest := p.data_eq p'
  obtain ⟨_, _, parsed, named, rfl⟩ := wrapCloseData_eq_ok_iff.mp wrapped
  obtain ⟨_, _, parsed', named', rfl⟩ := wrapCloseData_eq_ok_iff.mp wrapped'
  obtain rfl := Except.ok.inj (parsed.symm.trans parsed')
  obtain rfl := Option.some.inj (named.symm.trans named')
  obtain ⟨first, others, outputs, mode, -, isOnce, twice⟩ := p.signedTwice
  obtain ⟨_, _, _, _, -, isOnce', twice'⟩ := p'.signedTwice
  rw [once, isOnce, SwapRequest.mk.injEq, List.cons.injEq] at isOnce'
  obtain ⟨⟨same, rfl⟩, rfl, rfl⟩ := isOnce'
  rw [← same] at twice'
  have request := trips.swapRequestOfJson_toJson data.swapRequest
  have request' := trips.swapRequestOfJson_toJson data'.swapRequest
  refine ⟨by rw [rest], ?_, ?_⟩
  · refine ⟨first, others, outputs, mode, signatureToString p.sig, p.serverSig, p'.serverSig, ?_, ?_⟩
    · rw [request, p.request_eq, twice]
    · rw [request', p'.request_eq, twice']
  · intro read read' isRead isRead'
    rw [← Except.ok.inj (request.symm.trans isRead), ← Except.ok.inj (request'.symm.trans isRead'),
      p.request_eq, p'.request_eq, p.hash_twice witnessFree, p'.hash_twice witnessFree, once]

theorem DifferInSignature.symm {prep prep' : PreparedClose T}
    (differ : DifferInSignature L prep prep') : DifferInSignature L prep' prep := by
  obtain ⟨rest, ⟨first, others, outputs, mode, senderSig, sig, sig', isRequest, isRequest'⟩,
    message⟩ := differ
  refine ⟨by rw [rest], ⟨first, others, outputs, mode, senderSig, sig', sig, isRequest',
    isRequest⟩, ?_⟩
  intro request request' read read'
  exact (message request' request read' read).symm

theorem DifferInSignature.completesAlike (unblinds : L.Unblinds) {prep prep' : PreparedClose T}
    (differ : DifferInSignature L prep prep') {params : ChannelParameters T}
    (reads : prep.ReadsParams L params) : CompletesAlike C L params.receiverPubkey prep prep' := by
  intro completing completing' respJson completed signs done
  obtain ⟨c⟩ := completePreparedClose_eq_ok_iff.mp done
  have sameInfo : prep'.outputKeysetInfo = prep.outputKeysetInfo := by rw [differ.rest]
  obtain rfl := c.readsParams.unique reads
  exact c.transfer unblinds differ.sameClose (sameInfo.symm ▸ c.keyset_eq) rfl rfl
    (fun _ _ => rfl) signs

end Rebuilt

namespace Sample

/-- A host that has stored the funding and the payment of one channel, which is closing. -/
def closing (host : Host carriers Unit) (channelId : String) (funding : ChannelFunding carriers)
    (payment : PaymentProof) : Host carriers Unit :=
  { host with
    getFunding := fun id => if id = channelId then some funding else none
    getChannelState := fun id => .ok (if id = channelId then some .closing else none)
    getClosingData := fun id =>
      if id = channelId then some ⟨2000, payment.balance, payment.signature⟩ else none }

/-- A preparation reads nothing of the host but its signer. -/
theorem preparation_of_signer {T : Carriers} {C : Type} {L : Cashu T} {host host' : Host T C}
    {channelId : String} {balance : Nat} {signature : String} {funding : ChannelFunding T}
    {outKeyset : KeysetInfo T} {data : CloseData T}
    (p : Preparation L host channelId balance signature funding outKeyset data)
    (same : host'.signWithTweakedKey = host.signWithTweakedKey) :
    Nonempty (Preparation L host' channelId balance signature funding outKeyset data) :=
  ⟨{ p with signed := by rw [same]; exact p.signed }⟩

end Sample

section Authentic

variable {host host' verifying verifying' : Host T C} {funding : ChannelFunding T}
  {payment : PaymentProof} {receiver : T.PublicKey} {prepared prepared' : PreparedClose T}

theorem of_clearFirstWitness {request cleared : SwapRequest T}
    (isCleared : request.clearFirstWitness = some cleared) :
    cleared.outputs = request.outputs ∧ cleared.rerandomized = request.rerandomized := by
  unfold SwapRequest.clearFirstWitness at isCleared
  split at isCleared
  · cases isCleared
  · rw [← Option.some.inj isCleared]
    exact ⟨rfl, rfl⟩

/-- What authentication establishes: the close can be prepared again, and the record
carries the result, up to signatures and to the keys of the output keyset. -/
theorem of_verifyPreparedClose (trips : L.RoundTrips)
    (verified : verifyPreparedClose L verifying prepared funding payment receiver = .ok ()) :
    ∃ (outKeyset : KeysetInfo T) (data : CloseData T) (p : Preparation L verifying
      prepared.channelId payment.balance payment.signature funding outKeyset data),
      p.params.receiverPubkey = receiver ∧ prepared.balance = payment.balance ∧
      prepared.paramsJson = funding.paramsJson ∧
      prepared.keysetInfoJson = funding.keysetInfoJson ∧
      prepared.channelSecret = funding.channelSecretHex ∧
      prepared.secretsWithBlinding = .arr (data.secretsWithBlinding.map (secretToJson L)) ∧
      prepared.Carries L p.params outKeyset data := by
  simp only [verifyPreparedClose, Outcome.bind_eq_ok, Outcome.mapErr_eq_ok, Outcome.guard_eq_ok,
    Outcome.ofExcept_eq_ok, Outcome.ofOption_eq_ok, prepareCloseDataImpl_eq_ok_iff,
    wrapCloseData_eq_ok_iff] at verified
  obtain ⟨-, ⟨sameBalance, paramsText, keysetText, secretText⟩, params, stored, outKeyset, isKeyset,
    -, ⟨rfl, identified, mint, unit⟩, data, ⟨⟨p⟩, -⟩, _, ⟨_, _, -, -, rfl⟩, -, sameSecrets, request,
    isRequest, -, -, _, -, -, -, -, -, _, -, _, -, -, -, expected, isExpected, cleared, isCleared,
    expectedCleared, isExpectedCleared, sameCleared⟩ := verified
  obtain rfl := Outcome.ok.inj (p.stored.symm.trans stored)
  obtain rfl := Except.ok.inj ((trips.swapRequestOfJson_toJson _).symm.trans isExpected)
  obtain ⟨outputs, mode⟩ := of_clearFirstWitness isCleared
  obtain ⟨outputs', mode'⟩ := of_clearFirstWitness isExpectedCleared
  rw [trips.swapRequestToJson_injective sameCleared] at outputs mode
  refine ⟨outKeyset, data, p, rfl, sameBalance, paramsText, keysetText, secretText,
    sameSecrets.symm, (PreparedClose.readsParams_iff paramsText keysetText secretText).mpr p.stored,
    isKeyset, ?_, identified, mint, unit, request, isRequest, outputs.symm.trans outputs',
    mode.symm.trans mode'⟩
  rw [← sameSecrets]
  exact readSecrets_toJson trips p.inStep.bounds

/-- Two records that authenticate against the same funding and payment are records of
the same close, if they name the same output keyset. -/
theorem sameClose_of_verifyPreparedClose (trips : L.RoundTrips)
    (verified : verifyPreparedClose L verifying prepared funding payment receiver = .ok ())
    (verified' : verifyPreparedClose L verifying' prepared' funding payment receiver = .ok ())
    {outKeyset outKeyset' : KeysetInfo T}
    (isKeyset : parseKeysetInfoFromJson L (L.render prepared.outputKeysetInfo) = .ok outKeyset)
    (isKeyset' : parseKeysetInfoFromJson L (L.render prepared'.outputKeysetInfo) = .ok outKeyset')
    (sameId : outKeyset'.keysetId = outKeyset.keysetId) :
    SameClose L prepared prepared' := by
  obtain ⟨_, data, p, -, balance, paramsText, keysetText, secretText, secrets, carries⟩ :=
    of_verifyPreparedClose trips verified
  obtain ⟨_, data', p', -, balance', paramsText', keysetText', secretText', secrets', carries'⟩ :=
    of_verifyPreparedClose trips verified'
  obtain rfl := Outcome.ok.inj (isKeyset.symm.trans carries.keyset_eq)
  obtain rfl := Outcome.ok.inj (isKeyset'.symm.trans carries'.keyset_eq)
  obtain ⟨params, unsigned, -, entries⟩ := p.agree p' sameId
  have identified := carries'.identified
  have mint := carries'.mint
  rw [params] at identified mint
  refine ⟨identified.symm.trans carries.identified, balance'.trans balance.symm,
    mint.symm.trans carries.mint, ?_, paramsText'.trans paramsText.symm,
    keysetText'.trans keysetText.symm, secretText'.trans secretText.symm, ?_⟩
  · rw [secrets', entries, secrets]
  · intro request isRequest
    obtain ⟨_, again, outputs, mode⟩ := carries.request_eq
    obtain ⟨request', isRequest', outputs', mode'⟩ := carries'.request_eq
    obtain rfl := Except.ok.inj (isRequest.symm.trans again)
    refine ⟨request', isRequest', ?_, ?_⟩
    · rw [outputs', outputs, p'.request_unsigned.1, p.request_unsigned.1, unsigned]
    · rw [mode', mode, p'.request_unsigned.2, p.request_unsigned.2, unsigned]

/-- A keyset has a key for every output of a request. -/
def HasKeys (request : SwapRequest T) (outKeyset : KeysetInfo T) : Prop :=
  ∀ output ∈ request.outputs, (outKeyset.activeKeys.amountKey output.amount).isSome

/-- Two keysets have the same keys for the outputs of a request. -/
def SameKeys (request : SwapRequest T) (outKeyset outKeyset' : KeysetInfo T) : Prop :=
  ∀ output ∈ request.outputs, outKeyset'.activeKeys.amountKey output.amount =
    outKeyset.activeKeys.amountKey output.amount

section Keys

variable {outKeyset outKeyset' : KeysetInfo T} {params : ChannelParameters T}
  {request : SwapRequest T}
  (same : SameClose L prepared prepared')
  (isKeyset : parseKeysetInfoFromJson L (L.render prepared.outputKeysetInfo) = .ok outKeyset)
  (isKeyset' : parseKeysetInfoFromJson L (L.render prepared'.outputKeysetInfo) = .ok outKeyset')
  (sameId : outKeyset'.keysetId = outKeyset.keysetId)
  (isRequest : L.swapRequestOfJson prepared.swapRequest = .ok request)

include same isKeyset isKeyset' sameId isRequest

/-- Records of one close complete alike with the same keys. -/
theorem completesAlike_of_sameKeys (laws : L.Unblinds)
    (sameUnit : outKeyset'.unit = outKeyset.unit) (reads : prepared.ReadsParams L params)
    (sameKeys : HasKeys request outKeyset → SameKeys request outKeyset outKeyset') :
    CompletesAlike C L params.receiverPubkey prepared prepared' := by
  intro completing completing' respJson completed signs done
  obtain ⟨c⟩ := completePreparedClose_eq_ok_iff.mp done
  obtain rfl := c.readsParams.unique reads
  obtain rfl := Outcome.ok.inj (c.keyset_eq.symm.trans isKeyset)
  obtain rfl := Except.ok.inj (c.request_eq.symm.trans isRequest)
  refine c.transfer laws same isKeyset' sameId sameUnit ?_ signs
  intro entry member
  obtain ⟨output, inOutputs, offer⟩ := exists_right_of_forall₂ c.offers member
  rw [← offer.amount]
  exact sameKeys (c.hasKeys laws) output inOutputs

/-- Records that complete alike have the same keys: otherwise an honest answer to one of
them is refused for the other. -/
theorem sameKeys_of_completesAlike (trips : L.RoundTrips) (issues : L.Issues)
    (unblinds : L.Unblinds) (readsP2pk : L.ReadsP2pk)
    (verified : verifyPreparedClose L verifying prepared funding payment receiver = .ok ())
    (read : storedParams L funding = .ok params)
    (tellsApart : L.TellsApart outKeyset.activeKeys outKeyset'.activeKeys)
    (collisionFree : CollisionFree L params payment.balance)
    (answerable : Answerable L params payment.balance outKeyset)
    (signs : SignsHonestly L host receiver)
    (alike : CompletesAlike C L receiver prepared prepared')
    (hasKeys : HasKeys request outKeyset) : SameKeys request outKeyset outKeyset' := by
  intro output member
  obtain ⟨_, data, p, rfl, sameBalance, -, -, -, -, carries⟩ :=
    of_verifyPreparedClose trips verified
  obtain rfl := Outcome.ok.inj (isKeyset.symm.trans carries.keyset_eq)
  obtain rfl := Outcome.ok.inj (p.stored.symm.trans read)
  obtain ⟨_, again, outputs, -⟩ := carries.request_eq
  obtain rfl := Except.ok.inj (isRequest.symm.trans again)
  obtain ⟨secrets, points⟩ := p.distinct trips collisionFree
  obtain ⟨respJson, response, parsed, honest⟩ := answerable _ _ _ _ p.committed p.built
    (secretsWithBlinding_errors id id p.secrets)
  obtain ⟨completed, done⟩ := p.completes trips issues readsP2pk carries sameBalance
    (outputs ▸ List.ne_nil_of_mem member) points secrets (outputs ▸ hasKeys) signs parsed
    (honest.of_outputs p.request_unsigned.1 p.request_unsigned.2)
  obtain ⟨completed', done', -⟩ := alike _ _ _ _ signs done
  obtain ⟨c⟩ := completePreparedClose_eq_ok_iff.mp done
  obtain ⟨c'⟩ := completePreparedClose_eq_ok_iff.mp done'
  obtain rfl := Outcome.ok.inj (c.keyset_eq.symm.trans isKeyset)
  obtain rfl := Outcome.ok.inj (c'.keyset_eq.symm.trans isKeyset')
  obtain rfl := Except.ok.inj (c.request_eq.symm.trans isRequest)
  exact c.amountKey_eq unblinds c' same sameId tellsApart output member

end Keys

/-- **Two records that authenticate are interchangeable exactly when** their output
keysets have the same keys for the outputs, if one of them has keys for all. Nothing
that authentication checks gives this: the identifier of the keyset is compared, and
not that it belongs to the keys. -/
theorem verified_interchangeable_iff (trips : L.RoundTrips) (issues : L.Issues)
    (unblinds : L.Unblinds) (readsP2pk : L.ReadsP2pk)
    (verified : verifyPreparedClose L verifying prepared funding payment receiver = .ok ())
    (verified' : verifyPreparedClose L verifying' prepared' funding payment receiver = .ok ())
    {outKeyset outKeyset' : KeysetInfo T}
    (isKeyset : parseKeysetInfoFromJson L (L.render prepared.outputKeysetInfo) = .ok outKeyset)
    (isKeyset' : parseKeysetInfoFromJson L (L.render prepared'.outputKeysetInfo) = .ok outKeyset')
    (sameId : outKeyset'.keysetId = outKeyset.keysetId)
    (tellsApart : L.TellsApart outKeyset.activeKeys outKeyset'.activeKeys)
    {params : ChannelParameters T} (read : storedParams L funding = .ok params)
    (collisionFree : CollisionFree L params payment.balance)
    {request : SwapRequest T} (isRequest : L.swapRequestOfJson prepared.swapRequest = .ok request)
    (answerable : HasKeys request outKeyset → Answerable L params payment.balance outKeyset)
    (answerable' : HasKeys request outKeyset' → Answerable L params payment.balance outKeyset')
    (signs : SignsHonestly L host receiver) :
    Interchangeable C L receiver prepared prepared' ↔
      (HasKeys request outKeyset ∨ HasKeys request outKeyset' →
        SameKeys request outKeyset outKeyset') := by
  have same := sameClose_of_verifyPreparedClose trips verified verified' isKeyset isKeyset' sameId
  have same' := sameClose_of_verifyPreparedClose trips verified' verified isKeyset' isKeyset
    sameId.symm
  obtain ⟨request', isRequest', sameOutputs, -⟩ := same.request _ isRequest
  have keys_iff (keyset : KeysetInfo T) : HasKeys request' keyset ↔ HasKeys request keyset := by
    rw [HasKeys, sameOutputs, HasKeys]
  have tellsApart' : L.TellsApart outKeyset'.activeKeys outKeyset.activeKeys :=
    fun _ _ _ _ _ isKey isKey' good good' => (tellsApart _ _ _ _ _ isKey' isKey good' good).symm
  constructor
  · rintro ⟨alike, alike'⟩ (hasKeys | hasKeys)
    · exact sameKeys_of_completesAlike same isKeyset isKeyset' sameId isRequest trips issues unblinds
        readsP2pk verified read tellsApart collisionFree (answerable hasKeys) signs alike hasKeys
    · intro output member
      exact (sameKeys_of_completesAlike same' isKeyset' isKeyset sameId.symm isRequest' trips issues
        unblinds readsP2pk verified' read tellsApart' collisionFree (answerable' hasKeys) signs alike'
        ((keys_iff _).mpr hasKeys) output (sameOutputs ▸ member)).symm
  · intro sameKeys
    obtain ⟨_, _, p, rfl, -, -, -, -, -, carries⟩ := of_verifyPreparedClose trips verified
    obtain ⟨_, _, p', -, -, -, -, -, -, carries'⟩ := of_verifyPreparedClose trips verified'
    obtain rfl := Outcome.ok.inj (isKeyset.symm.trans carries.keyset_eq)
    obtain rfl := Outcome.ok.inj (isKeyset'.symm.trans carries'.keyset_eq)
    have reads' := carries'.readsParams
    have unit' := carries'.unit
    rw [(p.agree p' sameId).1] at reads' unit'
    refine ⟨completesAlike_of_sameKeys same isKeyset isKeyset' sameId isRequest unblinds
      (unit'.symm.trans carries.unit) carries.readsParams fun hasKeys => sameKeys (.inl hasKeys),
      completesAlike_of_sameKeys same' isKeyset' isKeyset sameId.symm isRequest' unblinds
      (carries.unit.symm.trans unit') reads' fun hasKeys output member => ?_⟩
    exact (sameKeys (.inr ((keys_iff _).mp hasKeys)) output (sameOutputs ▸ member)).symm

end Authentic

/-! ## A record with a key removed -/

namespace Sample

/-- The channel of two, closed with a keyset under any identifier: the record
authenticates. -/
theorem authentic_two {outKeyset : KeysetInfo carriers} (splits : Splits outKeyset 0 2)
    (representable : outKeyset.Representable) (unit : outKeyset.unit = (pairs "sat").unit) :
    ∃ accepted prepared,
      (two "m").openAt (pairs "sat") (satHost "m" "sat") 1 = .ok accepted ∧
      Inspected (two "m") (pairs "sat") (pairs "sat") 1 (signatureText 119 47) accepted ∧
      verifyPreparedClose library (satHost "m" "sat") prepared accepted.validated.funding
        ⟨1, accepted.opening.signature⟩ accepted.params.receiverPubkey = .ok () ∧
      parseKeysetInfoFromJson library prepared.outputKeysetInfo = .ok outKeyset := by
  obtain ⟨accepted, data, prepared, opened, facts, ⟨p⟩, wrapped⟩ := prepares_two splits
  obtain ⟨valid, stored⟩ := of_openAt opened
  obtain ⟨⟨a⟩, sameId, -⟩ := acceptance_of_validate valid
  have sameParams := Outcome.ok.inj (a.storedParams_eq.symm.trans stored)
  have sameUnit := facts.unit_eq
  rw [← unit, ← sameParams] at sameUnit
  have genuine : Genuine Unit library accepted.validated.funding a.params
      accepted.validated.channelId ⟨1, accepted.opening.signature⟩ prepared := by
    rw [sameId]
    exact ⟨satHost "m" "sat", outKeyset, false, data, signsHonestly rfl _, representable, sameUnit,
      prepareCloseDataImpl_eq_ok_iff.mpr ⟨⟨p⟩, by simp⟩, wrapped⟩
  have lower : Hex.IsLower accepted.opening.signature :=
    facts.signature_eq ▸ Hex.isLower_encode _
  have verified := (genuine.verifies_iff roundTrips witnessFree a facts.mint_eq
    (signsHonestly (show (satHost "m" "sat").signWithTweakedKey = signTweaked from rfl) _)).mpr
      ⟨by decide, lower⟩
  rw [sameParams] at verified
  obtain ⟨_, _, -, -, isPrepared⟩ := wrapCloseData_eq_ok_iff.mp wrapped
  refine ⟨accepted, prepared, opened, facts, verified, ?_⟩
  rw [isPrepared, p.keyset_eq]
  exact parseKeysetInfoFromJson_render library roundTrips representable

/-- The keyset of the channel of two without the key of its smaller denomination, under
the identifier of the whole. -/
def truncated : KeysetInfo carriers :=
  { twos with keysetId := (pairs "sat").keysetId }

theorem tellsApart_pairs : library.TellsApart (pairs "sat").activeKeys (pairs "sat").activeKeys :=
  fun _ _ _ _ _ isKey isKey' _ _ => Option.some.inj (isKey'.symm.trans isKey)

theorem eq_of_amountKey_truncated {amount : Nat} {key : Point}
    (found : truncated.activeKeys.amountKey amount = some key) : amount = 2 ∧ key = point 6 := by
  have entries : truncated.activeKeys.entries = [(2, point 6)] := by decide
  by_cases two : amount = 2
  · subst two
    exact ⟨rfl, (Option.some.inj found).symm⟩
  · simp [Keys.amountKey, SortedMap.get?, entries, Ne.symm two] at found

theorem tellsApart_truncated :
    library.TellsApart (pairs "sat").activeKeys truncated.activeKeys := by
  intro amount key key' _ _ isKey isKey' _ _
  obtain ⟨rfl, rfl⟩ := eq_of_amountKey_truncated isKey'
  exact Option.some.inj isKey

/-- The keys of the channel of two are enough for its outputs. -/
theorem hasKeys_pairs {accepted : Accepted} {prepared : PreparedClose carriers}
    (opened : (two "m").openAt (pairs "sat") (satHost "m" "sat") 1 = .ok accepted)
    (facts : Inspected (two "m") (pairs "sat") (pairs "sat") 1 (signatureText 119 47) accepted)
    (verified : verifyPreparedClose library (satHost "m" "sat") prepared
      accepted.validated.funding ⟨1, accepted.opening.signature⟩ accepted.params.receiverPubkey =
        .ok ()) :
    ∃ request, library.swapRequestOfJson prepared.swapRequest = .ok request ∧
      HasKeys request (pairs "sat") ∧ ¬ HasKeys request truncated := by
  obtain ⟨_, data, p, -, -, -, -, -, -, carries⟩ := of_verifyPreparedClose roundTrips verified
  have same := Outcome.ok.inj (p.stored.symm.trans (of_openAt opened).2)
  have keys := facts.keys
  rw [← same] at keys
  obtain ⟨request, isRequest, outputs, -⟩ := carries.request_eq
  refine ⟨request, isRequest, ?_, ?_⟩
  · intro output member
    rw [outputs, p.request_unsigned.1] at member
    exact keys _ p.committed _ (amount_mem_of_createSwapRequest p.committed p.built member)
  · intro hasKeys
    obtain ⟨search, found, sum, -⟩ := p.inStep.nominal
    have one : (pairs "sat").inverseDeterministicValueAfterFees 1 0 = .ok ⟨1, 1⟩ := by decide
    rw [same, keysetInfo_of_openAt representable_pairs opened, facts.maximum_eq] at found
    have nominal : search.nominalValue = 1 := by
      rw [Outcome.ok.inj (found.symm.trans one)]
    have twos : ∀ amount ∈ (data.secretsWithBlinding.filter (·.2)).map (·.1.amount),
        amount = 2 := by
      intro amount member
      obtain ⟨entry, inFilter, rfl⟩ := List.mem_map.mp member
      obtain ⟨output, inOutputs, offer⟩ :=
        exists_right_of_forall₂ p.inStep.offers (List.mem_of_mem_filter inFilter)
      obtain ⟨key, isKey⟩ := Option.isSome_iff_exists.mp (hasKeys output (outputs ▸ inOutputs))
      rw [← offer.amount]
      exact (eq_of_amountKey_truncated isKey).1
    rw [nominal, List.eq_replicate_of_mem twos, List.sum_replicate, smul_eq_mul] at sum
    omega

end Sample

/-- Two records of the close of the channel of two that have the whole keyset. -/
theorem verified_interchangeable_iff_two :
    ∃ accepted prepared,
      (Sample.two "m").openAt (Sample.pairs "sat") (Sample.satHost "m" "sat") 1 = .ok accepted ∧
      verifyPreparedClose Sample.library (Sample.satHost "m" "sat") prepared
        accepted.validated.funding ⟨1, accepted.opening.signature⟩ accepted.params.receiverPubkey =
          .ok () ∧
      Interchangeable Unit Sample.library accepted.params.receiverPubkey prepared prepared := by
  obtain ⟨accepted, prepared, opened, facts, verified, isKeyset⟩ :=
    Sample.authentic_two (show Splits (Sample.pairs "sat") 0 2 by decide)
      Sample.representable_pairs rfl
  obtain ⟨request, isRequest, -, -⟩ := Sample.hasKeys_pairs opened facts verified
  have answerable := Sample.answerable facts.mode_eq facts.keys
  refine ⟨accepted, prepared, opened, verified,
    (verified_interchangeable_iff Sample.roundTrips Sample.issues Sample.unblinds Sample.readsP2pk
      verified verified isKeyset isKeyset rfl Sample.tellsApart_pairs (Sample.of_openAt opened).2
      facts.collisionFree isRequest (fun _ => answerable) (fun _ => answerable)
      (Sample.signsHonestly (show (Sample.satHost "m" "sat").signWithTweakedKey =
        Sample.signTweaked from rfl) _)).mpr fun _ _ _ => rfl⟩

/-- A record of the same close whose output keyset lacks a key authenticates as well, and
is not interchangeable: the mint's answer completes only one of the two. -/
theorem not_interchangeable_two :
    ∃ accepted prepared prepared' outKeyset outKeyset',
      (Sample.two "m").openAt (Sample.pairs "sat") (Sample.satHost "m" "sat") 1 = .ok accepted ∧
      verifyPreparedClose Sample.library (Sample.satHost "m" "sat") prepared
        accepted.validated.funding ⟨1, accepted.opening.signature⟩ accepted.params.receiverPubkey =
          .ok () ∧
      verifyPreparedClose Sample.library (Sample.satHost "m" "sat") prepared'
        accepted.validated.funding ⟨1, accepted.opening.signature⟩ accepted.params.receiverPubkey =
          .ok () ∧
      parseKeysetInfoFromJson Sample.library prepared.outputKeysetInfo = .ok outKeyset ∧
      parseKeysetInfoFromJson Sample.library prepared'.outputKeysetInfo = .ok outKeyset' ∧
      outKeyset'.keysetId = outKeyset.keysetId ∧
      ¬ Interchangeable Unit Sample.library accepted.params.receiverPubkey prepared prepared' := by
  obtain ⟨accepted, prepared, opened, facts, verified, isKeyset⟩ :=
    Sample.authentic_two (show Splits (Sample.pairs "sat") 0 2 by decide)
      Sample.representable_pairs rfl
  obtain ⟨_, prepared', opened', -, verified', isKeyset'⟩ :=
    Sample.authentic_two (show Splits Sample.truncated 0 2 by decide)
      ⟨rfl, by decide, by decide, by decide⟩ rfl
  obtain rfl := Outcome.ok.inj (opened.symm.trans opened')
  obtain ⟨request, isRequest, hasKeys, lacksKeys⟩ := Sample.hasKeys_pairs opened facts verified
  refine ⟨accepted, prepared, prepared', _, _, opened, verified, verified', isKeyset, isKeyset', rfl,
    fun interchangeable => lacksKeys fun output member => ?_⟩
  have sameKeys := sameKeys_of_completesAlike
    (sameClose_of_verifyPreparedClose Sample.roundTrips verified verified' isKeyset isKeyset' rfl)
    isKeyset isKeyset' rfl isRequest Sample.roundTrips Sample.issues Sample.unblinds
    Sample.readsP2pk verified (Sample.of_openAt opened).2 Sample.tellsApart_truncated
    facts.collisionFree (Sample.answerable facts.mode_eq facts.keys)
    (Sample.signsHonestly (show (Sample.satHost "m" "sat").signWithTweakedKey =
      Sample.signTweaked from rfl) _) interchangeable.1 hasKeys
  rw [sameKeys output member]
  exact hasKeys output member

end Spilman
