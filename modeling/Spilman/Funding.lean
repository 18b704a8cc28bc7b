/-
# What accepted funding is

The receiver looks at the funding of a channel twice: `verify_valid_channel`
collects everything that is wrong with the proofs, and `EstablishedChannel::new`
compares their keyset and their total with the parameters. This module says what
both checks together come to. A list of proofs passes them exactly if it is the
channel's own funding: the proofs of the outputs that the parameters determine,
in order, bare and valid.

The only part that is nowhere checked is that the proofs are distinct. It follows
from the derivation: every output of the split has its own slot, so its nonce is
hashed from a text of its own.
-/

import Spilman.SampleChannel

namespace Spilman

open Lib

variable {T : Carriers} {L : Cashu T} {params : ChannelParameters T} {proofs : List (Proof T)}

/-! ## Funding outputs -/

/-- The slots of the funding outputs of a channel. -/
def fundingSlots (params : ChannelParameters T) : List (Nat × Nat) :=
  (greedyList params.fundingTokenAmount params.maximumAmountForOneOutput params.keysetInfo).slots

variable (L) in
/-- The scalar that the nonce of a funding output is made of. -/
def fundingNonce (params : ChannelParameters T) (slot : Nat × Nat) : Outcome String T.Scalar :=
  hashToSecpScalar L (utf8 (params.nonceText L "funding" slot.1 slot.2))
    (L.hmacSha256 params.channelSecret.val)

variable (L) in
/-- No two funding outputs get the same nonce out of different texts. -/
def FundingCollisionFree (params : ChannelParameters T) : Prop :=
  ∀ slot ∈ fundingSlots params, ∀ slot' ∈ fundingSlots params, ∀ nonce,
    fundingNonce L params slot = .ok nonce → fundingNonce L params slot' = .ok nonce →
    params.nonceText L "funding" slot.1 slot.2 = params.nonceText L "funding" slot'.1 slot'.2

/-- The funding outputs of a channel are derived slot by slot. -/
theorem fundingSecrets_eq_ok_iff {expected : List (DeterministicSecretWithBlinding T)} :
    fundingSecrets L params = .ok expected ↔
      Splits params.keysetInfo params.maximumAmountForOneOutput params.fundingTokenAmount ∧
      List.Forall₂ (fun slot output => params.createDeterministicOutputWithBlinding L "funding"
        slot.1 slot.2 = .ok output) (fundingSlots params) expected := by
  simp only [fundingSecrets, Outcome.bind_eq_ok, DeterministicOutputsForOneContext.new_eq_ok_iff]
  constructor
  · rintro ⟨_, ⟨splits, rfl⟩, derived⟩
    rw [getSecretsWithBlinding_outputsFor, Outcome.mapAll_eq_ok] at derived
    exact ⟨splits, derived⟩
  · rintro ⟨splits, derived⟩
    refine ⟨_, ⟨splits, rfl⟩, ?_⟩
    rw [getSecretsWithBlinding_outputsFor, Outcome.mapAll_eq_ok]
    exact derived

/-- The secret of a funding output carries the nonce of its slot. -/
theorem secret_of_funding {slot : Nat × Nat} {output : DeterministicSecretWithBlinding T}
    (derived : params.createDeterministicOutputWithBlinding L "funding" slot.1 slot.2 =
      .ok output) :
    ∃ nonce sender receiver refund, fundingNonce L params slot = .ok nonce ∧
      params.getSenderBlindedPubkeyForStage1 L = .ok sender ∧
      params.getReceiverBlindedPubkeyForStage1 L = .ok receiver ∧
      params.getSenderBlindedPubkeyForStage1Refund L = .ok refund ∧
      output.secret = fundingSecret (L.publicKeyToHex sender)
        (Hex.encode (L.scalarToBeBytes nonce).val) (L.publicKeyToHex receiver)
        params.expiryTimestamp (L.publicKeyToHex refund) := by
  simp only [ChannelParameters.createDeterministicOutputWithBlinding, if_pos,
    DeterministicSecretWithBlinding.newFunding, Outcome.bind_eq_ok, Outcome.mapErr_eq_ok,
    Outcome.pure_eq, Outcome.ok.injEq] at derived
  obtain ⟨nonce, hashed, _, -, _, -, sender, isSender, receiver, isReceiver, refund, isRefund, rfl⟩ :=
    derived
  exact ⟨nonce, sender, receiver, refund, hashed, isSender, isReceiver, isRefund, rfl⟩

/-- Between the keys of one channel a secret determines its nonce. -/
theorem nonce_of_fundingSecret {sender receiver refund nonce nonce' : String} {expiry : Nat}
    (same : fundingSecret sender nonce receiver expiry refund =
      fundingSecret sender nonce' receiver expiry refund) : nonce = nonce' := by
  unfold fundingSecret at same
  -- Seven fields follow the nonce.
  iterate 7 rw [String.append_left_inj] at same
  exact (String.append_right_inj _).mp same

/-- Without a collision of the hash the funding outputs have distinct secrets. -/
theorem fundingSecrets_nodup (trips : L.RoundTrips) (collisionFree : FundingCollisionFree L params)
    {expected : List (DeterministicSecretWithBlinding T)}
    (derived : fundingSecrets L params = .ok expected) :
    (expected.map DeterministicSecretWithBlinding.secret).Nodup := by
  apply nodup_map_of_forall₂ (fundingSecrets_eq_ok_iff.mp derived).2
  · exact OrderedListOfAmounts.slots_nodup _
  intro slot member slot' member' output output' made made' same
  obtain ⟨nonce, sender, receiver, refund, hashed, isSender, isReceiver, isRefund, secret⟩ :=
    secret_of_funding made
  obtain ⟨nonce', _, _, _, hashed', isSender', isReceiver', isRefund', secret'⟩ :=
    secret_of_funding made'
  obtain rfl := Outcome.ok.inj (isSender.symm.trans isSender')
  obtain rfl := Outcome.ok.inj (isReceiver.symm.trans isReceiver')
  obtain rfl := Outcome.ok.inj (isRefund.symm.trans isRefund')
  rw [secret, secret'] at same
  obtain rfl := scalar_of_nonce trips (nonce_of_fundingSecret same)
  exact (nonceText_inj L (collisionFree slot member slot' member' nonce hashed hashed')).2

/-! ## Exact funding -/

variable (L) in
/-- Proofs are exactly the funding of a channel. -/
structure ExactlyFunded (params : ChannelParameters T) (proofs : List (Proof T)) : Prop where
  /-- In order, the secrets, amounts and blinding factors of the funding outputs. -/
  outputs : ∃ expected, fundingSecrets L params = .ok expected ∧
    List.Forall₂ (fun proof output => proof.secret = output.secret ∧
      proof.amount = output.amount ∧
      ∃ dleq, proof.dleq = some dleq ∧ dleq.r = output.blindingFactor) proofs expected
  keysetId : ∀ proof ∈ proofs, proof.keysetId = params.keysetInfo.keysetId
  recomputes : params.keysetInfo.keysetId = computedKeysetId L params.keysetInfo
  bare : ∀ proof ∈ proofs, proof.witness = none ∧ proof.p2pkE = none
  distinct : (proofs.map Proof.secret).Nodup
  total : (proofs.map Proof.amount).sum = params.fundingTokenAmount
  fits : params.fundingTokenAmount < 2 ^ 64
  verified : ∀ proof ∈ proofs, HasValidDleq L params.keysetInfo proof

/-- **Accepted funding is exactly the channel's deterministic funding.** -/
theorem accepted_iff_exactlyFunded (trips : L.RoundTrips)
    (collisionFree : FundingCollisionFree L params) :
    (verifyValidChannel L proofs params = .ok [] ∧
        ∃ channel, EstablishedChannel.new L params proofs = .ok channel) ↔
      ExactlyFunded L params proofs := by
  constructor
  · rintro ⟨valid, channel, established⟩
    obtain ⟨recomputes, ⟨expected, derived, funds⟩, total, fits⟩ :=
      verifyValidChannel_eq_ok_nil_iff.mp valid
    obtain ⟨keysetId, -⟩ := EstablishedChannel.new_eq_ok_iff.mp established
    have each {proof : Proof T} (member : proof ∈ proofs) :=
      (exists_right_of_forall₂ funds member)
    refine {
      keysetId, recomputes, fits
      outputs := ⟨expected, derived, funds.imp fun _ _ f => ⟨f.secret, f.amount, f.blindingFactor⟩⟩
      bare := ?_
      distinct := ?_
      total := total.symm
      verified := ?_ }
    · intro proof member
      obtain ⟨_, -, f⟩ := each member
      exact ⟨f.witness, f.p2pkE⟩
    · rw [map_eq_map_of_forall₂ funds fun _ _ f => f.secret]
      exact fundingSecrets_nodup trips collisionFree derived
    · intro proof member
      obtain ⟨_, -, f⟩ := each member
      exact f.verified
  · intro funded
    obtain ⟨expected, derived, matched⟩ := funded.outputs
    constructor
    · refine verifyValidChannel_eq_ok_nil_iff.mpr ⟨funded.recomputes, ⟨expected, derived, ?_⟩,
        funded.total.symm, funded.fits⟩
      refine List.forall₂_iff_zip.mpr ⟨matched.length_eq, fun {proof output} member => ?_⟩
      obtain ⟨secret, amount, blindingFactor⟩ := (List.forall₂_iff_zip.mp matched).2 member
      have inProofs := (List.of_mem_zip member).1
      obtain ⟨witness, p2pkE⟩ := funded.bare proof inProofs
      exact ⟨secret, amount, blindingFactor, witness, p2pkE, funded.verified proof inProofs⟩
    · exact ⟨_, EstablishedChannel.new_eq_ok_iff.mpr
        ⟨funded.keysetId, funded.total.symm, funded.fits, rfl⟩⟩

namespace Sample

/-- A channel of two units that is funded with outputs of one. -/
def ones : Terms := ⟨"m", "sat", 2, 2, 1, 2000, "ordinary"⟩

/-- What is looked at in a run: both checks pass, there is more than one output, and no
two nonces collide. -/
def inspectFunding (params : ChannelParameters carriers) (proofs : List (Proof carriers)) : Bool :=
  decide (verifyValidChannel library proofs params = .ok [] ∧
    (EstablishedChannel.new library params proofs) = .ok ⟨params, proofs⟩ ∧
    proofs.length = 2 ∧ ((fundingSlots params).map (fundingNonce library params)).Nodup)

theorem opens_ones : (ones.params (pairs "sat")).okAnd (fun params =>
    (ones.fund (pairs "sat")).okAnd (inspectFunding params)) = true := by
  decide +kernel

end Sample

/-- The funding of a channel with two outputs. -/
theorem accepted_iff_exactlyFunded_ones :
    ∃ params proofs, Sample.ones.params (Sample.pairs "sat") = .ok params ∧
      Sample.ones.fund (Sample.pairs "sat") = .ok proofs ∧ proofs.length = 2 ∧
      ExactlyFunded Sample.library params proofs := by
  obtain ⟨params, isParams, checked⟩ := Outcome.exists_of_okAnd Sample.opens_ones
  obtain ⟨proofs, isFunding, checked⟩ := Outcome.exists_of_okAnd checked
  obtain ⟨valid, established, count, distinct⟩ := of_decide_eq_true checked
  have collisionFree : FundingCollisionFree Sample.library params := by
    intro slot member slot' member' nonce hashed hashed'
    rw [List.inj_on_of_nodup_map distinct member member' (hashed.trans hashed'.symm)]
  exact ⟨params, proofs, isParams, isFunding, count,
    (accepted_iff_exactlyFunded Sample.roundTrips collisionFree).mp ⟨valid, _, established⟩⟩

end Spilman
