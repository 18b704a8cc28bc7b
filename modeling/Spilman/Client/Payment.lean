/-
# Payments of the client

The client signs a balance: it rebuilds the commitment to the balance from its
stored texts, hashes the swap of the commitment, and has its host sign the hash with
the sender's key shifted by the channel's scalar. The receiver rebuilds the same swap
from the same texts and verifies under the shifted public key. So whatever the client
signs is accepted, and since the hash stands for the outputs of the swap, it is
accepted for no balance that would pay the receiver differently.
-/

import Spilman.SampleChannel
import Spilman.Client.Host

namespace Spilman

open Lib

variable {T : Carriers} (L : Cashu T)

/-! ## The code -/

/-- What an external signer needs for a balance. -/
structure UnsignedUpdateResult (T : Carriers) where
  channelId : String
  amount : Nat
  unsignedSwapRequestJson : T.Text
  messageHex : String
  tweakScalarHex : String

/-- Rebuild the swap of a balance, up to the signature. -/
def createUnsignedBalanceUpdate (paramsJson keysetInfoJson : T.Text) (channelSecretHex : String)
    (proofsJson : T.Text) (balance : Nat) : Outcome String (UnsignedUpdateResult T) := do
  let keysetInfo ← parseKeysetInfoFromJson L keysetInfoJson
  let channelSecret ← .ofExcept
    (decode32 L "Invalid channel secret hex" "Channel secret" channelSecretHex)
  let params ← (ChannelParameters.fromJsonWithChannelSecret L paramsJson keysetInfo
    channelSecret).mapErr fun e => s!"Failed to create ChannelParameters: {e}"
  let fundingProofs ← (parseProofs L proofsJson).mapErr fun e => s!"Failed to parse proofs: {e}"
  let commitmentOutputs ← (CommitmentOutputs.forBalance balance params).mapErr fun e =>
    s!"CommitmentOutputs::for_balance failed: {e}"
  let channel ← (EstablishedChannel.new L params fundingProofs).mapErr fun e =>
    s!"EstablishedChannel::new failed: {e}"
  let swapRequest ← (commitmentOutputs.createSwapRequest L channel.fundingProofs none).mapErr
    fun e => s!"create_swap_request failed: {e}"
  let tweak ← (params.deriveSenderBlindingScalarForStage1 L).mapErr fun e =>
    s!"Failed to derive blinding scalar: {e}"
  return {
    channelId := params.getChannelId L
    amount := balance
    unsignedSwapRequestJson := L.render (L.swapRequestToJson swapRequest)
    messageHex := sigAllMessageHashHex L swapRequest
    tweakScalarHex := Hex.encode (L.scalarToBeBytes tweak).val }

/-- A balance with the hash that is to be signed for it. -/
structure UnsignedBalanceUpdate where
  channelId : String
  balance : Nat
  messageHex : String
  tweakScalarHex : String

namespace UnsignedBalanceUpdate

def new (channelId : String) (balance : Nat) (funding : ClientChannelFunding T) :
    Outcome String UnsignedBalanceUpdate := do
  let unsigned ← createUnsignedBalanceUpdate L funding.paramsJson funding.keysetInfoJson
    funding.channelSecretHex funding.fundingProofsJson balance
  return {
    channelId, balance
    messageHex := unsigned.messageHex
    tweakScalarHex := unsigned.tweakScalarHex }

/-- Attach the signature. -/
def sign (unsigned : UnsignedBalanceUpdate) (signatureHex : String) :
    Outcome String BalanceUpdateMessage := do
  let signature ← (signatureFromStr L signatureHex).mapErr fun e => s!"Invalid signature: {e}"
  return { channelId := unsigned.channelId, amount := unsigned.balance, signature }

end UnsignedBalanceUpdate

namespace ClientHost

/-- Have the host sign. -/
def signBalanceUpdate (host : ClientHost T) (unsigned : UnsignedBalanceUpdate)
    (senderPubkeyHex : String) : Outcome String BalanceUpdateMessage := do
  let signatureHex ← .ofExcept
    (host.signWithTweakedKey senderPubkeyHex unsigned.messageHex unsigned.tweakScalarHex)
  unsigned.sign L signatureHex

/-- Sign a balance of an open channel, with the funding if the receiver has to learn
of the channel. -/
def signPaymentInternal (host : ClientHost T) (channelId : String) (balance : Nat)
    (includeFunding : Bool) : Outcome String (Payment T) := do
  let funding ← .ofOption s!"Channel not found: {channelId}" (host.getChannelFunding channelId)
  let state ← .ofOption s!"Channel not found: {channelId}" (host.getChannelState channelId)
  .guard (s!"Channel is not usable for payments: {channelId} (" ++ state.name ++ ")")
    (state.isPayable = true)
  .guard (s!"Balance {balance} exceeds channel capacity " ++ toString funding.capacity)
    (balance ≤ funding.capacity)
  let unsigned ← UnsignedBalanceUpdate.new L channelId balance funding
  let balanceUpdate ← host.signBalanceUpdate L unsigned funding.senderPubkeyHex
  let signature := signatureToString balanceUpdate.signature
  if includeFunding then do
    let params ← (Outcome.ofExcept (L.parse funding.paramsJson)).mapErr fun e =>
      s!"Failed to parse params: {e}"
    let fundingProofs ← (parseProofs L funding.fundingProofsJson).mapErr fun e =>
      s!"Failed to parse funding proofs: {e}"
    return ⟨channelId, balance, signature, some params, some fundingProofs⟩
  else
    return ⟨channelId, balance, signature, none, none⟩

/-- Sign a payment. -/
def signPayment (host : ClientHost T) (channelId : String) (balance : Nat) :
    Outcome String (Payment T) :=
  host.signPaymentInternal L channelId balance false

/-- Sign the payment of nothing that makes a channel known to the receiver. -/
def signChannelRegistration (host : ClientHost T) (channelId : String) :
    Outcome String (Payment T) :=
  host.signPaymentInternal L channelId 0 true

end ClientHost

/-! ## What is signed -/

/-- How the signature on a balance comes about. -/
structure Authorization (L : Cashu T) (K : KeyOps T) (ring : Keyring L)
    (funding : ClientChannelFunding T) (balance : Nat) where
  params : ChannelParameters T
  proofs : List (Proof T)
  commitment : CommitmentOutputs T
  request : SwapRequest T
  tweak : T.Scalar
  secret : T.SecretKey
  tweaked : T.SecretKey
  stored : storedParams L funding.shared = .ok params
  parsed : parseProofs L funding.fundingProofsJson = .ok proofs
  established : EstablishedChannel.new L params proofs = .ok ⟨params, proofs⟩
  committed : CommitmentOutputs.forBalance balance params = .ok commitment
  built : commitment.createSwapRequest L proofs none = .ok request
  derived : params.deriveBlindingScalar L "sender_stage1" = .ok tweak
  filed : ring.getSecret funding.senderPubkeyHex = .ok secret
  added : L.addTweak (effectiveSecret L K secret) tweak = .ok tweaked

/-- The key that was named is the key of the channel's sender. -/
def ClientChannelFunding.NamesSender (L : Cashu T) (funding : ClientChannelFunding T) : Prop :=
  ∀ params, storedParams L funding.shared = .ok params →
    L.publicKeyFromHex funding.senderPubkeyHex = .ok params.senderPubkey

section Authorizations

variable {L} {K : KeyOps T} {ring : Keyring L}

theorem of_createUnsignedBalanceUpdate {funding : ClientChannelFunding T} {balance : Nat}
    {result : UnsignedUpdateResult T}
    (created : createUnsignedBalanceUpdate L funding.paramsJson funding.keysetInfoJson
      funding.channelSecretHex funding.fundingProofsJson balance = .ok result) :
    ∃ params proofs commitment request t,
      storedParams L funding.shared = .ok params ∧
      parseProofs L funding.fundingProofsJson = .ok proofs ∧
      EstablishedChannel.new L params proofs = .ok ⟨params, proofs⟩ ∧
      CommitmentOutputs.forBalance balance params = .ok commitment ∧
      commitment.createSwapRequest L proofs none = .ok request ∧
      params.deriveBlindingScalar L "sender_stage1" = .ok t ∧
      result.messageHex = Hex.encode (L.sigAllMessageHash request).val ∧
      result.tweakScalarHex = Hex.encode (L.scalarToBeBytes t).val := by
  simp only [createUnsignedBalanceUpdate, Outcome.bind_eq_ok, Outcome.mapErr_eq_ok,
    Outcome.ofExcept_eq_ok, decode32_eq_ok_iff, Outcome.pure_eq, Outcome.ok.injEq,
    ChannelParameters.deriveSenderBlindingScalarForStage1] at created
  obtain ⟨keysetInfo, isKeyset, channelSecret, isSecret, params, isParams, proofs, parsed,
    commitment, committed, channel, established, request, built, t, derived, rfl⟩ := created
  obtain ⟨-, -, -, rfl⟩ := EstablishedChannel.new_eq_ok_iff.mp established
  refine ⟨params, proofs, commitment, request, t, ?_, parsed, established, committed, built,
    derived, rfl, rfl⟩
  simp only [storedParams, ClientChannelFunding.shared, Outcome.bind_eq_ok]
  exact ⟨channelSecret, channelSecretOf_eq_ok_iff.mpr isSecret, keysetInfo, isKeyset, isParams⟩

namespace Authorization

variable {funding : ClientChannelFunding T} {balance : Nat}
  (a : Authorization L K ring funding balance)

/-- The signature. -/
def signature : Bytes 64 := K.signSchnorr a.tweaked (L.sigAllMessageHash a.request)

/-- The sender's key in the funding condition is that of the secret the client signs
with. -/
theorem blindedPubkey_eq (laws : K.Laws L) (trips : L.RoundTrips)
    (names : funding.NamesSender L) :
    a.params.getSenderBlindedPubkeyForStage1 L = .ok (L.publicKey a.tweaked) := by
  have own := Keyring.publicKey_of_getSecret trips a.filed (names a.params a.stored)
  have shifted := (deriveBlindedPubkey_publicKey_iff laws).mpr ⟨a.tweaked, a.added, rfl⟩
  rw [own] at shifted
  rw [ChannelParameters.getSenderBlindedPubkeyForStage1, a.derived, Outcome.ok_bind, shifted]

end Authorization

/-- **What the client signs.** -/
theorem exists_authorization (trips : L.RoundTrips)
    {getChannelFunding : String → Option (ClientChannelFunding T)}
    {getChannelState : String → Option ClientChannelState} {nowSeconds : Nat}
    {channelId : String} {balance : Nat} {payment : Payment T}
    (signed : (configurableClientHost L K ring getChannelFunding getChannelState
      nowSeconds).signPayment L channelId balance = .ok payment) :
    ∃ funding, getChannelFunding channelId = some funding ∧
      ∃ a : Authorization L K ring funding balance,
        payment = ⟨channelId, balance, signatureToString a.signature, none, none⟩ := by
  simp only [ClientHost.signPayment, ClientHost.signPaymentInternal, ClientHost.signBalanceUpdate,
    UnsignedBalanceUpdate.new, UnsignedBalanceUpdate.sign, Outcome.bind_eq_ok,
    Outcome.ofOption_eq_ok, Outcome.guard_eq_ok, Outcome.mapErr_eq_ok, Outcome.ofExcept_eq_ok,
    Outcome.pure_eq, Outcome.ok.injEq, Bool.false_eq_true, if_false] at signed
  obtain ⟨funding, found, -, -, -, -, -, -, -, ⟨result, created, rfl⟩, -,
    ⟨text, signs, signature, read, rfl⟩, rfl⟩ := signed
  obtain ⟨params, proofs, commitment, request, t, stored, parsed, established, committed, built,
    derived, message, scalar⟩ := of_createUnsignedBalanceUpdate created
  rw [message, scalar, signWithTweakedKey_eq_ok_iff trips] at signs
  obtain ⟨secret, tweaked, filed, added, rfl⟩ := signs
  rw [signatureFromStr_toString, Outcome.ok.injEq] at read
  subst read
  exact ⟨funding, found, {
    params, proofs, commitment, request, tweak := t, secret, tweaked, stored, parsed, established,
    committed, built, derived, filed, added }, rfl⟩

end Authorizations

/-! ## One signature, one payout -/

/-- The commitments to two balances are not mixed up: the digests of their swaps stand
for the outputs, and no output is the receiver's in one and the sender's in the other. -/
structure CommitmentsApart (params : ChannelParameters T) (proofs : List (Proof T))
    (balance other : Nat) : Prop where
  digests : ∀ commitment commitment' request request',
    CommitmentOutputs.forBalance balance params = .ok commitment →
    CommitmentOutputs.forBalance other params = .ok commitment' →
    commitment.createSwapRequest L proofs none = .ok request →
    commitment'.createSwapRequest L proofs none = .ok request' →
    L.sigAllMessageHash request' = L.sigAllMessageHash request → request'.outputs = request.outputs
  points : ∀ commitment commitment' entries entries',
    CommitmentOutputs.forBalance balance params = .ok commitment →
    CommitmentOutputs.forBalance other params = .ok commitment' →
    commitment.secretsWithBlinding L id id = .ok entries →
    commitment'.secretsWithBlinding L id id = .ok entries' →
    ∀ entry ∈ entries, ∀ entry' ∈ entries',
      L.blindMessage entry'.1.secret entry'.1.blindingFactor =
        L.blindMessage entry.1.secret entry.1.blindingFactor → entry'.2 = entry.2

/-- Two balances for which the receiver's outputs have the same nominal value. -/
def SameNominal (params : ChannelParameters T) (balance other : Nat) : Prop :=
  ∃ search search',
    params.keysetInfo.inverseDeterministicValueAfterFees balance
      params.maximumAmountForOneOutput = .ok search ∧
    params.keysetInfo.inverseDeterministicValueAfterFees other
      params.maximumAmountForOneOutput = .ok search' ∧
    search'.nominalValue = search.nominalValue

section Payouts

variable {L} {params : ChannelParameters T} {proofs : List (Proof T)} {balance other : Nat}

/-- The receiver's part of a swap adds up to the nominal value of the balance. -/
theorem receiverSum_of_createSwapRequest {commitment : CommitmentOutputs T}
    {request : SwapRequest T}
    (committed : CommitmentOutputs.forBalance balance params = .ok commitment)
    (built : commitment.createSwapRequest L proofs none = .ok request) :
    ∃ search entries,
      params.keysetInfo.inverseDeterministicValueAfterFees balance
        params.maximumAmountForOneOutput = .ok search ∧
      commitment.secretsWithBlinding L id id = .ok entries ∧
      List.Forall₂ (fun entry message => Offers L params.keysetInfo.keysetId entry.1 message)
        entries request.outputs ∧
      ((entries.filter (·.2)).map (·.1.amount)).sum = search.nominalValue := by
  obtain ⟨-, afterStage1, search, -, found, -, receiver, -, rfl⟩ :=
    CommitmentOutputs.forBalance_eq_ok_iff.mp committed
  obtain ⟨receiverSecrets, senderSecrets, derived, derived', offers⟩ :=
    createSwapRequest_inStep built
  refine ⟨search, mergedSecrets receiverSecrets senderSecrets, found,
    secretsWithBlinding_eq_ok_iff.mpr ⟨_, _, derived, derived', rfl⟩, offers, ?_⟩
  rw [(sums_mergedSecrets _ _).1, amounts_of_getSecretsWithBlinding L derived,
    sum_spread_greedyList receiver]

/-- Swaps with the same outputs pay the receiver the same. -/
theorem sameNominal_of_outputs_eq (apart : CommitmentsApart L params proofs balance other)
    {commitment commitment' : CommitmentOutputs T} {request request' : SwapRequest T}
    (committed : CommitmentOutputs.forBalance balance params = .ok commitment)
    (committed' : CommitmentOutputs.forBalance other params = .ok commitment')
    (built : commitment.createSwapRequest L proofs none = .ok request)
    (built' : commitment'.createSwapRequest L proofs none = .ok request')
    (same : request'.outputs = request.outputs) : SameNominal params balance other := by
  obtain ⟨search, entries, found, derived, offers, sum⟩ :=
    receiverSum_of_createSwapRequest committed built
  obtain ⟨search', entries', found', derived', offers', sum'⟩ :=
    receiverSum_of_createSwapRequest committed' built'
  refine ⟨search, search', found, found', ?_⟩
  rw [same] at offers'
  have offered := List.forall₂_iff_zip.mp (forall₂_comp offers offers'.flip)
  -- Entries at the same place offer the same message, so they are the same party's.
  have paired : List.Forall₂ (fun entry entry' : DeterministicSecretWithBlinding T × Bool =>
      (entry.1.amount, entry.2) = (entry'.1.amount, entry'.2)) entries entries' := by
    refine List.forall₂_iff_zip.mpr ⟨offered.1, fun {entry entry'} member => ?_⟩
    obtain ⟨message, offer, offer'⟩ := offered.2 member
    obtain ⟨member, member'⟩ := List.of_mem_zip member
    have party := apart.points _ _ entries entries' committed committed' derived derived' entry
      member entry' member' (offer'.blinds.trans offer.blinds.symm)
    rw [← offer.amount, ← offer'.amount, party]
  have total (list : List (DeterministicSecretWithBlinding T × Bool)) :
      ((list.filter (·.2)).map (·.1.amount)).sum =
        (((list.map fun entry => (entry.1.amount, entry.2)).filter (·.2)).map Prod.fst).sum := by
    rw [List.filter_map, List.map_map]
    rfl
  rw [← sum, ← sum', total, total, map_eq_map_of_forall₂ paired fun _ _ => id]

/-- Balances with the same commitment are not mixed up, if no two outputs coincide. -/
theorem CommitmentsApart.of_nodup {commitment : CommitmentOutputs T}
    {entries : List (DeterministicSecretWithBlinding T × Bool)}
    (committed : CommitmentOutputs.forBalance balance params = .ok commitment)
    (committed' : CommitmentOutputs.forBalance other params = .ok commitment)
    (derived : commitment.secretsWithBlinding L id id = .ok entries)
    (points : (entries.map fun entry =>
      L.blindMessage entry.1.secret entry.1.blindingFactor).Nodup) :
    CommitmentsApart L params proofs balance other where
  digests := by
    intro first second request request' first_eq second_eq built built' _
    obtain rfl := Outcome.ok.inj (committed.symm.trans first_eq)
    obtain rfl := Outcome.ok.inj (committed'.symm.trans second_eq)
    rw [Outcome.ok.inj (built'.symm.trans built)]
  points := by
    intro first second list list' first_eq second_eq made made' entry member entry' member' same
    obtain rfl := Outcome.ok.inj (committed.symm.trans first_eq)
    obtain rfl := Outcome.ok.inj (committed'.symm.trans second_eq)
    obtain rfl := Outcome.ok.inj (derived.symm.trans made)
    obtain rfl := Outcome.ok.inj (derived.symm.trans made')
    rw [List.inj_on_of_nodup_map points member' member same]

end Payouts

/-- **Every payment the client signs is accepted**, for the balance it is for, by everybody
who has the same texts. It is accepted for another balance only if that pays the
receiver the same. -/
theorem signPayment_accepted {K : KeyOps T} (laws : K.Laws L) (unforgeable : K.Unforgeable L)
    (trips : L.RoundTrips) {ring : Keyring L}
    {getChannelFunding : String → Option (ClientChannelFunding T)}
    {getChannelState : String → Option ClientChannelState} {nowSeconds : Nat}
    {channelId : String} {balance : Nat} {payment : Payment T}
    (signed : (configurableClientHost L K ring getChannelFunding getChannelState
      nowSeconds).signPayment L channelId balance = .ok payment)
    {funding : ClientChannelFunding T} (stored : getChannelFunding channelId = some funding)
    (names : funding.NamesSender L) :
    payment.channelId = channelId ∧ payment.balance = balance ∧
    verifySignature L funding.shared channelId balance payment.signature = .ok () ∧
    ∀ other params proofs,
      storedParams L funding.shared = .ok params →
      parseProofs L funding.fundingProofsJson = .ok proofs →
      CommitmentsApart L params proofs balance other →
      verifySignature L funding.shared channelId other payment.signature = .ok () →
      SameNominal params balance other := by
  obtain ⟨funding', stored', a, rfl⟩ := exists_authorization trips signed
  obtain rfl : funding' = funding := Option.some.inj (stored'.symm.trans stored)
  have key := a.blindedPubkey_eq laws trips names
  refine ⟨rfl, rfl, ?_, fun other params proofs isParams isProofs apart verified => ?_⟩
  · refine verifySignature_eq_ok_iff.mpr ⟨a.params, a.proofs, a.signature, a.stored, a.parsed,
      a.established, signatureFromStr_toString _, ?_⟩
    exact verifySenderSignature_eq_ok_iff.mpr
      ⟨a.commitment, a.request, _, a.committed, a.built, key, laws.signs _ _⟩
  · obtain ⟨params', proofs', sig, isParams', isProofs', -, read, verified⟩ :=
      verifySignature_eq_ok_iff.mp verified
    obtain ⟨commitment', request', key', committed', built', derived', verified⟩ :=
      verifySenderSignature_eq_ok_iff.mp verified
    obtain rfl : params' = params := Outcome.ok.inj (isParams'.symm.trans isParams)
    obtain rfl : proofs' = proofs := Outcome.ok.inj (isProofs'.symm.trans isProofs)
    obtain rfl : a.params = params' := Outcome.ok.inj (a.stored.symm.trans isParams)
    obtain rfl : a.proofs = proofs' := Outcome.ok.inj (a.parsed.symm.trans isProofs)
    obtain rfl := Outcome.ok.inj (derived'.symm.trans key)
    obtain rfl := Outcome.ok.inj (read.symm.trans (signatureFromStr_toString _))
    have digest := unforgeable _ _ _ verified
    exact sameNominal_of_outputs_eq apart a.committed committed' a.built built'
      (apart.digests _ _ _ _ a.committed committed' a.built built' digest)

namespace Sample

/-- A keyset with a fee of nearly a unit for every output. -/
def costly : KeysetInfo carriers :=
  mintKeyset "sat" [(1, point 5), (2, point 6), (4, point 7), (8, point 9)] 999

/-- A channel over it that can pay up to four of the eight it is funded with. -/
def eight : Terms := ⟨"m", "sat", 4, 8, 0, 2000, "ordinary"⟩

/-- The ring of a client with the key of the sender. -/
def ring : Keyring library := Keyring.empty.addKey ⟨point 3, point_three_ne_zero⟩

/-- What the client has stored of the channel. -/
def eightFunding (proofs : List (Proof carriers)) : ClientChannelFunding carriers where
  paramsJson := eight.toJson costly
  fundingProofsJson := library.render (library.proofsToJson proofs)
  channelSecretHex := Hex.encode sharedSecret.val
  keysetInfoJson := costly.toJson library
  senderPubkeyHex := library.publicKeyToHex (point 3)
  capacity := 4
  fundingTokenAmount := 8
  mintUrl := "m"
  createdAt := 0

/-- A client with one open channel. -/
def client (funding : ClientChannelFunding carriers) : ClientHost carriers :=
  configurableClientHost library keyOps ring (fun _ => some funding) (fun _ => some .opened) 1000

/-- What is looked at in a run: a payment of two is signed, the commitment to three is
the same, and no two outputs coincide. -/
def inspectPayment (funding : ClientChannelFunding carriers) : Bool :=
  ((client funding).signPayment library "c" 2).okAnd fun _ =>
    (storedParams library funding.shared).okAnd fun params =>
      decide (params.senderPubkey = point 3) &&
      (CommitmentOutputs.forBalance 2 params).okAnd fun commitment =>
        decide (CommitmentOutputs.forBalance 3 params = .ok commitment) &&
        (commitment.secretsWithBlinding library id id).okAnd fun entries =>
          decide (entries.map fun entry =>
            library.blindMessage entry.1.secret entry.1.blindingFactor).Nodup

theorem pays_eight : (eight.fund costly).okAnd (fun proofs =>
    inspectPayment (eightFunding proofs)) = true := by
  decide +kernel

end Sample

/-- A payment of two, which is as good as one of three. -/
theorem signPayment_accepted_eight :
    ∃ proofs payment params, Sample.eight.fund Sample.costly = .ok proofs ∧
      (Sample.client (Sample.eightFunding proofs)).signPayment Sample.library "c" 2 =
        .ok payment ∧
      storedParams Sample.library (Sample.eightFunding proofs).shared = .ok params ∧
      verifySignature Sample.library (Sample.eightFunding proofs).shared "c" 2
        payment.signature = .ok () ∧
      (verifySignature Sample.library (Sample.eightFunding proofs).shared "c" 3
        payment.signature = .ok () → SameNominal params 2 3) := by
  obtain ⟨proofs, funded, checked⟩ := Outcome.exists_of_okAnd Sample.pays_eight
  obtain ⟨payment, signed, checked⟩ := Outcome.exists_of_okAnd checked
  obtain ⟨params, stored, checked⟩ := Outcome.exists_of_okAnd checked
  obtain ⟨sender, checked⟩ := Bool.and_eq_true_iff.mp checked
  obtain ⟨commitment, committed, checked⟩ := Outcome.exists_of_okAnd checked
  obtain ⟨committed', checked⟩ := Bool.and_eq_true_iff.mp checked
  obtain ⟨entries, derived, points⟩ := Outcome.exists_of_okAnd checked
  have names : (Sample.eightFunding proofs).NamesSender Sample.library := by
    intro params' stored'
    obtain rfl := Outcome.ok.inj (stored.symm.trans stored')
    rw [of_decide_eq_true sender]
    exact Sample.roundTrips.publicKeyFromHex_toHex _
  have parsed : parseProofs Sample.library (Sample.eightFunding proofs).fundingProofsJson =
      .ok proofs := by
    simp only [parseProofs, Sample.eightFunding, Sample.roundTrips.parse_render,
      Outcome.ofExcept_ok, Outcome.ok_bind, Sample.roundTrips.proofsOfJson_toJson]
  obtain ⟨-, -, accepted, same⟩ := signPayment_accepted Sample.library Sample.keyOps_laws
    Sample.keyOps_unforgeable Sample.roundTrips signed rfl names
  exact ⟨proofs, payment, params, funded, signed, stored, accepted, same 3 params proofs stored
    parsed (.of_nodup committed (of_decide_eq_true committed') derived
      (of_decide_eq_true points))⟩

end Spilman
