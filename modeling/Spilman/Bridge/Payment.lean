/-
# Accepting channels and payments

The receiver's side of the protocol up to the close: a first payment brings the
parameters and the funding proofs of a channel, which are checked against the
host's policy and against the parameters themselves; every later payment is a
balance with a signature, checked against the stored funding and the price of
what has been used.

Sums of `u64` wrap, as they do in release builds of the code.
-/

import Spilman.Host

namespace Spilman

open Lib

variable {T : Carriers} {C : Type} (L : Cashu T)

/-! ## Reading stored funding -/

/-- A channel secret from its hexadecimal text. -/
def channelSecretOf (lengthError secretHex : String) : Outcome String (Bytes 32) := do
  let bytes ← .ofOption (L.hexError secretHex) (Hex.decode secretHex)
  .ofOption lengthError (Bytes.ofList? 32 bytes)

/-- The parameters of a stored channel. -/
def storedParams (funding : ChannelFunding T) : Outcome String (ChannelParameters T) := do
  let secret ← channelSecretOf L "Invalid secret length" funding.channelSecretHex
  let keysetInfo ← parseKeysetInfoFromJson L funding.keysetInfoJson
  ChannelParameters.fromJsonWithChannelSecret L funding.paramsJson keysetInfo secret

/-- Funding proofs from their text. -/
def parseProofs (text : T.Text) : Outcome String (List (Proof T)) := do
  let json ← .ofExcept (L.parse text)
  .ofExcept (L.proofsOfJson json)

/-- Check the sender's signature on a balance of a stored channel. -/
def verifySignature (funding : ChannelFunding T) (channelId : String) (balance : Nat)
    (signature : String) : Outcome String Unit := do
  let params ← storedParams L funding
  let proofs ← parseProofs L funding.fundingProofsJson
  let channel ← EstablishedChannel.new L params proofs
  let sig ← signatureFromStr L signature
  BalanceUpdateMessage.verifySenderSignature L ⟨channelId, balance, sig⟩ channel

/-! ## New channels -/

/-- A channel that has passed validation, ready to be stored. -/
structure ValidatedNewChannel (T : Carriers) where
  channelId : String
  balance : Nat
  capacity : Nat
  senderSignature : String
  funding : ChannelFunding T
  deriving DecidableEq

/-- The payment that came with a new channel. -/
def ValidatedNewChannel.payment (validated : ValidatedNewChannel T) : PaymentProof :=
  ⟨validated.balance, validated.senderSignature⟩

/-- The largest output the parameters allow has to be within the policy. -/
def checkMaximumAmount (policy : ChannelPolicy) (maximumAmount : Nat) : Outcome BridgeError Unit :=
  match policy.maxAmountPerOutput with
  | none => .ok ()
  | some max => .guard (.maxAmountExceeded maximumAmount max) (¬ (0 < max ∧ max < maximumAmount))

/-- The funding proofs have to be those of the channel. -/
def checkFunding (proofs : List (Proof T)) (params : ChannelParameters T) :
    Outcome BridgeError Unit := do
  let errors ← (verifyValidChannel L proofs params).mapErr Empty.elim
  .guard (.validationFailed (errorsText L errors)) (errors = [])

/-- Validate a first payment with its funding, without recording it. -/
def validateNewChannelFunding (host : Host T C) (channelId : String) (paramsVal : Json)
    (proofs : List (Proof T)) (balance : Nat) (signature : String) :
    Outcome BridgeError (ValidatedNewChannel T) := do
  let unit ← .ofOption (.invalidRequest "Missing unit") (paramsVal.field "unit").asStr
  let capacity ← .ofOption (.invalidRequest "Missing capacity") (paramsVal.field "capacity").asU64
  let expiryTimestamp ← .ofOption (.invalidRequest "Missing expiry_timestamp")
    (paramsVal.field "expiry_timestamp").asU64
  let maximumAmount ← .ofOption (.invalidRequest "Missing maximum_amount_for_one_output")
    (paramsVal.field "maximum_amount_for_one_output").asU64
  let receiverPubkeyHex ← .ofOption (.invalidRequest "Missing receiver_pubkey")
    (paramsVal.field "receiver_pubkey").asStr
  let receiverPubkey ←
    (Outcome.ofExcept (L.publicKeyFromHex receiverPubkeyHex)).mapErr .invalidRequest
  .guard .receiverKeyNotAcceptable (host.receiverKeyIsAcceptable receiverPubkey)
  let senderPubkeyHex ← .ofOption (.invalidRequest "Missing sender_pubkey")
    (paramsVal.field "sender_pubkey").asStr
  let keysetIdStr ← .ofOption (.invalidRequest "Missing keyset_id")
    (paramsVal.field "keyset_id").asStr
  let keysetId ← (Outcome.ofExcept (L.idFromStr keysetIdStr)).mapErr .invalidRequest
  let mint ← .ofOption (.invalidRequest "Missing mint") (paramsVal.field "mint").asStr
  .guard .mintOrKeysetNotAcceptable (host.mintAndKeysetIsAcceptable mint keysetId)
  let keysetInfoJson ← .ofOption .mintOrKeysetNotAcceptable (host.getKeysetInfo mint keysetId)
  let policy ← .ofOption (.unsupportedUnit unit) (host.getChannelPolicy unit)
  .guard (.capacityTooSmall capacity policy.minCapacity) (policy.minCapacity ≤ capacity)
  checkMaximumAmount policy maximumAmount
  let now := host.nowSeconds
  let minExpiry := (now + policy.minExpiryInSeconds) % 2 ^ 64
  .guard (.expiryTooSoon expiryTimestamp minExpiry now) (minExpiry ≤ expiryTimestamp)
  .guard (.balanceExceedsCapacity balance capacity) (balance ≤ capacity)
  let channelSecretHex ←
    (Outcome.ofExcept (host.computeChannelSecret receiverPubkeyHex senderPubkeyHex)).mapErr
      .serverMisconfigured
  let channelSecret ← (channelSecretOf L "Invalid secret length" channelSecretHex).mapErr .internal
  let keysetInfo ← (parseKeysetInfoFromJson L keysetInfoJson).mapErr .invalidRequest
  let params ← (ChannelParameters.fromJsonWithChannelSecret L (L.render paramsVal) keysetInfo
    channelSecret).mapErr .internal
  .guard .channelIdMismatch (params.getChannelId L = channelId)
  checkFunding L proofs params
  let funding : ChannelFunding T := {
    paramsJson := L.render paramsVal
    fundingProofsJson := L.render (L.proofsToJson proofs)
    channelSecretHex
    keysetInfoJson }
  (verifySignature L funding channelId balance signature).mapErr .invalidSignature
  return { channelId, balance, capacity, senderSignature := signature, funding }

/-! ## Payments on known channels -/

/-- A payment that has passed validation. -/
structure PaymentValidationResult where
  channelId : String
  balance : Nat
  amountDue : Nat
  capacity : Nat
  senderSignature : String
  deriving DecidableEq, Repr

/-- A payment needs an identifier, a signature, and a channel that is not
closing. Nothing is known yet of a new channel. -/
def validatePaymentRequest (host : Host T C) (channelId signature : String) :
    Outcome BridgeError (Option ChannelState) := do
  .guard (.invalidRequest "missing channel_id") (channelId ≠ "")
  .guard (.invalidRequest "missing signature") (signature ≠ "")
  match ← (Outcome.ofExcept (host.getChannelState channelId)).mapErr .internal with
  | some .closed => .err .channelClosed
  | some .closing => .err .channelClosing
  | some .opened => .ok (some .opened)
  | none => .ok none

/-- The capacity that a stored channel's parameters name. -/
def storedCapacity (funding : ChannelFunding T) : Outcome BridgeError Nat := do
  let paramsVal ← (Outcome.ofExcept (L.parse funding.paramsJson)).mapErr .internal
  return (paramsVal.field "capacity").asU64.getD 0

/-- The stored funding of a channel that takes payments. -/
def openFunding (host : Host T C) (channelId signature : String) :
    Outcome BridgeError (ChannelFunding T) := do
  let state ← validatePaymentRequest host channelId signature
  .guard .unknownChannel state.isSome
  .ofOption .unknownChannel (host.getFunding channelId)

/-- Validate a payment on a known channel, without recording it. -/
def validatePayment (host : Host T C) (channelId : String) (balance : Nat) (signature : String)
    (context : C) : Outcome BridgeError PaymentValidationResult := do
  let funding ← openFunding host channelId signature
  let capacity ← storedCapacity L funding
  .guard (.balanceExceedsCapacity balance capacity) (balance ≤ capacity)
  (verifySignature L funding channelId balance signature).mapErr .invalidSignature
  let amountDue := host.getAmountDue channelId (some context)
  .guard (.insufficientBalance balance amountDue) (amountDue ≤ balance)
  return { channelId, balance, amountDue, capacity, senderSignature := signature }

/-- What funding a channel gives. -/
structure FundChannelResult where
  channelId : String
  capacity : Nat
  alreadyKnown : Bool
  deriving DecidableEq, Repr

/-- Validate the signature of a registration for a known channel. -/
def validateExistingChannelFunding (host : Host T C) (channelId : String) (balance : Nat)
    (signature : String) : Outcome BridgeError FundChannelResult := do
  let funding ← openFunding host channelId signature
  let capacity ← storedCapacity L funding
  (verifySignature L funding channelId balance signature).mapErr .invalidSignature
  return { channelId, capacity, alreadyKnown := true }

/-! ## What acceptance establishes -/

/-- Everything that was read and checked when a new channel was accepted. -/
structure Acceptance (host : Host T C) (paramsVal : Json) (proofs : List (Proof T))
    (validated : ValidatedNewChannel T) where
  unit : String
  mint : String
  keysetId : T.Id
  policy : ChannelPolicy
  keysetInfo : KeysetInfo T
  secret : Bytes 32
  params : ChannelParameters T
  expiryTimestamp : Nat
  maximumAmount : Nat
  unit_eq : (paramsVal.field "unit").asStr = some unit
  capacity_eq : (paramsVal.field "capacity").asU64 = some validated.capacity
  expiry_eq : (paramsVal.field "expiry_timestamp").asU64 = some expiryTimestamp
  maximum_eq : (paramsVal.field "maximum_amount_for_one_output").asU64 = some maximumAmount
  mint_eq : (paramsVal.field "mint").asStr = some mint
  keysetId_eq : (paramsVal.field "keyset_id").asStr.map L.idFromStr = some (.ok keysetId)
  trusted : host.mintAndKeysetIsAcceptable mint keysetId = true
  cached : host.getKeysetInfo mint keysetId = some validated.funding.keysetInfoJson
  policy_eq : host.getChannelPolicy unit = some policy
  minCapacity : policy.minCapacity ≤ validated.capacity
  maximum_le : ∀ max, policy.maxAmountPerOutput = some max → 0 < max → maximumAmount ≤ max
  minExpiry : (host.nowSeconds + policy.minExpiryInSeconds) % 2 ^ 64 ≤ expiryTimestamp
  within : validated.balance ≤ validated.capacity
  decoded : channelSecretOf L "Invalid secret length" validated.funding.channelSecretHex =
    .ok secret
  keyset_eq : parseKeysetInfoFromJson L validated.funding.keysetInfoJson = .ok keysetInfo
  params_eq : ChannelParameters.fromJsonWithChannelSecret L (L.render paramsVal) keysetInfo secret =
    .ok params
  identified : params.getChannelId L = validated.channelId
  funded : verifyValidChannel L proofs params = .ok []
  paramsText : validated.funding.paramsJson = L.render paramsVal
  proofsText : validated.funding.fundingProofsJson = L.render (L.proofsToJson proofs)
  signed : verifySignature L validated.funding validated.channelId validated.balance
    validated.senderSignature = .ok ()

section Specifications

variable {L}

theorem channelSecretOf_eq_ok_iff {lengthError hex : String} {secret : Bytes 32} :
    channelSecretOf L lengthError hex = .ok secret ↔ Hex.decode hex = some secret.val := by
  simp only [channelSecretOf, Outcome.bind_eq_ok, Outcome.ofOption_eq_ok,
    Bytes.ofList?_eq_some]
  constructor
  · rintro ⟨_, decoded, rfl⟩
    exact decoded
  · intro decoded
    exact ⟨_, decoded, rfl⟩

/-- What a verified signature establishes of the stored channel. -/
theorem verifySignature_eq_ok_iff {funding : ChannelFunding T} {channelId : String}
    {balance : Nat} {signature : String} {done : Unit} :
    verifySignature L funding channelId balance signature = .ok done ↔
      ∃ params proofs sig,
        storedParams L funding = .ok params ∧
        parseProofs L funding.fundingProofsJson = .ok proofs ∧
        EstablishedChannel.new L params proofs = .ok ⟨params, proofs⟩ ∧
        signatureFromStr L signature = .ok sig ∧
        BalanceUpdateMessage.verifySenderSignature L ⟨channelId, balance, sig⟩ ⟨params, proofs⟩ =
          .ok () := by
  simp only [verifySignature, Outcome.bind_eq_ok]
  constructor
  · rintro ⟨params, stored, proofs, parsed, channel, established, sig, read, verified⟩
    obtain ⟨-, -, -, rfl⟩ := EstablishedChannel.new_eq_ok_iff.mp established
    exact ⟨params, proofs, sig, stored, parsed, established, read, verified⟩
  · rintro ⟨params, proofs, sig, stored, parsed, established, read, verified⟩
    exact ⟨params, stored, proofs, parsed, _, established, sig, read, verified⟩

/-- A signature verifies by what its text stands for, not by how it is written. -/
theorem verifySignature_of_decode {funding : ChannelFunding T} {channelId : String}
    {balance : Nat} {signature signature' : String}
    (verified : verifySignature L funding channelId balance signature = .ok ())
    (same : Hex.decode signature' = Hex.decode signature) :
    verifySignature L funding channelId balance signature' = .ok () := by
  obtain ⟨params, proofs, sig, stored, parsed, established, read, authorized⟩ :=
    verifySignature_eq_ok_iff.mp verified
  rw [signatureFromStr_eq_ok_iff, ← same] at read
  exact verifySignature_eq_ok_iff.mpr ⟨params, proofs, sig, stored, parsed, established,
    signatureFromStr_eq_ok_iff.mpr read, authorized⟩

theorem validatePaymentRequest_eq_ok_iff {host : Host T C} {channelId signature : String}
    {state : Option ChannelState} :
    validatePaymentRequest host channelId signature = .ok state ↔
      channelId ≠ "" ∧ signature ≠ "" ∧ host.getChannelState channelId = .ok state ∧
        (state = none ∨ state = some .opened) := by
  simp only [validatePaymentRequest, Outcome.bind_eq_ok, Outcome.guard_eq_ok,
    Outcome.mapErr_eq_ok, Outcome.ofExcept_eq_ok]
  constructor
  · rintro ⟨-, named, -, signed, found, isFound, passed⟩
    cases found with
    | none =>
        cases passed
        exact ⟨named, signed, isFound, .inl rfl⟩
    | some held =>
        cases held with
        | opened =>
            cases passed
            exact ⟨named, signed, isFound, .inr rfl⟩
        | closing => cases passed
        | closed => cases passed
  · rintro ⟨named, signed, isState, rfl | rfl⟩
    · exact ⟨(), named, (), signed, none, isState, rfl⟩
    · exact ⟨(), named, (), signed, some .opened, isState, rfl⟩

theorem openFunding_eq_ok_iff {host : Host T C} {channelId signature : String}
    {funding : ChannelFunding T} :
    openFunding host channelId signature = .ok funding ↔
      channelId ≠ "" ∧ signature ≠ "" ∧ host.getChannelState channelId = .ok (some .opened) ∧
        host.getFunding channelId = some funding := by
  simp only [openFunding, Outcome.bind_eq_ok, validatePaymentRequest_eq_ok_iff,
    Outcome.guard_eq_ok, Outcome.ofOption_eq_ok]
  constructor
  · rintro ⟨state, ⟨named, signed, isState, rfl | rfl⟩, -, known, stored⟩
    · cases known
    · exact ⟨named, signed, isState, stored⟩
  · rintro ⟨named, signed, isOpen, stored⟩
    exact ⟨some .opened, ⟨named, signed, isOpen, .inr rfl⟩, (), rfl, stored⟩

/-- Both ways of reading the capacity of a stored channel agree. -/
theorem storedCapacity_of_storedParams {funding : ChannelFunding T} {params : ChannelParameters T}
    (stored : storedParams L funding = .ok params) :
    storedCapacity L funding = .ok params.capacity := by
  simp only [storedParams, ChannelParameters.fromJsonWithChannelSecret, Outcome.bind_eq_ok,
    Outcome.mapErr_eq_ok, Outcome.ofExcept_eq_ok] at stored
  obtain ⟨secret, -, keysetInfo, -, json, parsed, read⟩ := stored
  have capacity := (ChannelParameters.readFrom_of_ofJson L read).capacity_eq
  simp only [storedCapacity, parsed, Outcome.ofExcept_ok, Outcome.mapErr_ok, Outcome.ok_bind,
    capacity, Option.getD_some, Outcome.pure_eq]

/-- **Which payments are accepted.** -/
theorem validatePayment_eq_ok_iff {host : Host T C} {channelId : String} {balance : Nat}
    {signature : String} {context : C} {result : PaymentValidationResult} :
    validatePayment L host channelId balance signature context = .ok result ↔
      ∃ funding capacity,
        openFunding host channelId signature = .ok funding ∧
        storedCapacity L funding = .ok capacity ∧ balance ≤ capacity ∧
        verifySignature L funding channelId balance signature = .ok () ∧
        host.getAmountDue channelId (some context) ≤ balance ∧
        result = ⟨channelId, balance, host.getAmountDue channelId (some context), capacity,
          signature⟩ := by
  simp only [validatePayment, Outcome.bind_eq_ok, Outcome.guard_eq_ok, Outcome.mapErr_eq_ok,
    Outcome.pure_eq, Outcome.ok.injEq]
  constructor
  · rintro ⟨funding, opened, capacity, isCapacity, -, within, _, verified, -, enough, rfl⟩
    exact ⟨funding, capacity, opened, isCapacity, within, verified, enough, rfl⟩
  · rintro ⟨funding, capacity, opened, isCapacity, within, verified, enough, rfl⟩
    exact ⟨funding, opened, capacity, isCapacity, (), within, (), verified, (), enough, rfl⟩

theorem parseProofs_render (trips : L.RoundTrips) (proofs : List (Proof T)) :
    parseProofs L (L.render (L.proofsToJson proofs)) = .ok proofs := by
  simp [parseProofs, trips.parse_render, trips.proofsOfJson_toJson]

theorem checkMaximumAmount_eq_ok {policy : ChannelPolicy} {maximumAmount : Nat} {done : Unit}
    (checked : checkMaximumAmount policy maximumAmount = .ok done) :
    ∀ max, policy.maxAmountPerOutput = some max → 0 < max → maximumAmount ≤ max := by
  intro max isMax positive
  simp only [checkMaximumAmount, isMax, Outcome.guard_eq_ok, not_and, not_lt] at checked
  exact checked positive

theorem checkFunding_eq_ok {proofs : List (Proof T)} {params : ChannelParameters T} {done : Unit} :
    checkFunding L proofs params = .ok done ↔ verifyValidChannel L proofs params = .ok [] := by
  simp [checkFunding, Outcome.bind_eq_ok]

/-- **A new channel is accepted only after all its checks.** -/
theorem acceptance_of_validate {host : Host T C} {channelId : String} {paramsVal : Json}
    {proofs : List (Proof T)} {balance : Nat} {signature : String}
    {validated : ValidatedNewChannel T}
    (accepted : validateNewChannelFunding L host channelId paramsVal proofs balance signature =
      .ok validated) :
    Nonempty (Acceptance L host paramsVal proofs validated) ∧ validated.channelId = channelId ∧
      validated.payment = ⟨balance, signature⟩ := by
  unfold validateNewChannelFunding at accepted
  simp only [Outcome.bind_eq_ok, Outcome.ofOption_eq_ok, Outcome.mapErr_eq_ok,
    Outcome.ofExcept_eq_ok, Outcome.guard_eq_ok, checkFunding_eq_ok, Outcome.pure_eq,
    Outcome.ok.injEq] at accepted
  obtain ⟨unit, hasUnit, capacity, hasCapacity, expiry, hasExpiry, maximum, hasMaximum, -, -, -, -,
    -, -, -, -, keysetIdStr, hasKeysetId, keysetId, isKeysetId, mint, hasMint, -, trusted, keysetInfoJson, cached, policy,
    hasPolicy, -, minCapacity, _, checkedMaximum, -, minExpiry, -, within, secretHex, -, secret,
    decoded, keysetInfo, parsedKeyset, params, parsedParams, -, identified, -, funded, _, signed,
    rfl⟩ := accepted
  exact ⟨⟨{
    unit := unit
    mint := mint
    keysetId := keysetId
    policy := policy
    keysetInfo := keysetInfo
    secret := secret
    params := params
    expiryTimestamp := expiry
    maximumAmount := maximum
    unit_eq := hasUnit
    capacity_eq := hasCapacity
    expiry_eq := hasExpiry
    maximum_eq := hasMaximum
    mint_eq := hasMint
    keysetId_eq := by rw [hasKeysetId, Option.map_some, isKeysetId]
    trusted := trusted
    cached := cached
    policy_eq := hasPolicy
    minCapacity := minCapacity
    maximum_le := checkMaximumAmount_eq_ok checkedMaximum
    minExpiry := minExpiry
    within := within
    decoded := decoded
    keyset_eq := parsedKeyset
    params_eq := parsedParams
    identified := identified
    funded := funded
    paramsText := rfl
    proofsText := rfl
    signed := signed }⟩, rfl, rfl⟩

namespace Acceptance

variable {host : Host T C} {paramsVal : Json} {proofs : List (Proof T)}
  {validated : ValidatedNewChannel T} (a : Acceptance L host paramsVal proofs validated)

include a

/-- The stored funding reads back as the parameters that were checked. -/
theorem storedParams_eq : storedParams L validated.funding = .ok a.params := by
  simp only [storedParams, a.decoded, a.keyset_eq, a.paramsText, Outcome.ok_bind, a.params_eq]

theorem readFrom (trips : L.RoundTrips) :
    ChannelParameters.ReadFrom L paramsVal a.keysetInfo a.secret a.params := by
  have read := a.params_eq
  simp only [ChannelParameters.fromJsonWithChannelSecret, trips.parse_render, Outcome.ofExcept_ok,
    Outcome.mapErr_ok, Outcome.ok_bind] at read
  exact ChannelParameters.readFrom_of_ofJson L read

/-- The normalized URL is the one that was sent exactly if that has no slash at its
end. -/
theorem mint_eq_iff (trips : L.RoundTrips) {mint : String}
    (named : (paramsVal.field "mint").asStr = some mint) :
    a.params.mint = mint ↔ mint.toList.getLast? ≠ some '/' := by
  obtain ⟨raw, isRaw, trimmed⟩ := (a.readFrom trips).mint_eq
  obtain rfl := Option.some.inj (named.symm.trans isRaw)
  rw [trimmed, trimEndSlashes_eq_iff]

theorem parseProofs_eq (trips : L.RoundTrips) :
    parseProofs L validated.funding.fundingProofsJson = .ok proofs := by
  rw [a.proofsText, parseProofs_render trips]

/-- The funding proofs are of the channel's keyset and sum to its funding amount. -/
theorem established (trips : L.RoundTrips) :
    EstablishedChannel.new L a.params proofs = .ok ⟨a.params, proofs⟩ := by
  obtain ⟨params, proofs', _, stored, parsed, established, -, -⟩ :=
    verifySignature_eq_ok_iff.mp a.signed
  obtain rfl := Outcome.ok.inj (stored.symm.trans a.storedParams_eq)
  obtain rfl := Outcome.ok.inj (parsed.symm.trans (a.parseProofs_eq trips))
  exact established

/-- The first payment would be accepted again once the channel is stored, if it
covers what is due by then. -/
theorem validatePayment_eq_ok (trips : L.RoundTrips) {later : Host T C} {context : C}
    (named : validated.channelId ≠ "") (signature : validated.senderSignature ≠ "")
    (isOpen : later.getChannelState validated.channelId = .ok (some .opened))
    (stored : later.getFunding validated.channelId = some validated.funding)
    (enough : later.getAmountDue validated.channelId (some context) ≤ validated.balance) :
    ∃ result, validatePayment L later validated.channelId validated.balance
      validated.senderSignature context = .ok result := by
  have capacity : storedCapacity L validated.funding = .ok validated.capacity := by
    simp [storedCapacity, a.paramsText, trips.parse_render, a.capacity_eq]
  exact ⟨_, validatePayment_eq_ok_iff.mpr ⟨validated.funding, validated.capacity,
    openFunding_eq_ok_iff.mpr ⟨named, signature, isOpen, stored⟩, capacity, a.within, a.signed,
    enough, rfl⟩⟩

theorem capacity_params (trips : L.RoundTrips) : a.params.capacity = validated.capacity :=
  Option.some.inj ((a.readFrom trips).capacity_eq.symm.trans a.capacity_eq)

end Acceptance

end Specifications

end Spilman
