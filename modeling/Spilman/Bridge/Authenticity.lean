/-
# A kept close authenticates, if its texts are canonical

A receiver that finds a prepared close in its journal prepares it once more and
compares the two. Everything that is derived comes out the same, up to the
receiver's own signature, which is verified instead (`Preparation.resign`). But
two texts are compared as they were stored with how the code prints them: the
mint's URL, and the sender's signature. `authenticates_iff` says that a close the
bridge has prepared itself authenticates exactly when both were sent in canonical
form, and that recovery stops at it otherwise.
-/

import Spilman.Bridge.Settlement

namespace Spilman

open Lib

variable {T : Carriers} {C : Type} {L : Cashu T}

/-! ## The two requests -/

section Prepared

variable {host : Host T C} {channelId : String} {balance : Nat} {signature : String}
  {funding : ChannelFunding T} {outKeyset : KeysetInfo T} {data : CloseData T}
  (p : Preparation L host channelId balance signature funding outKeyset data)

include p

/-- The swap of a prepared close: the funding proofs, with the signatures of both
parties on the first of them. -/
theorem Preparation.signedTwice :
    ∃ first rest outputs mode, p.proofs = first :: rest ∧
      p.once = ⟨first.addSignature (signatureToString p.sig) :: rest, outputs, mode⟩ ∧
      p.twice = ⟨(first.addSignature (signatureToString p.sig)).addSignature p.serverSig :: rest,
        outputs, mode⟩ := by
  have built := p.built
  simp only [CommitmentOutputs.createSwapRequest, Outcome.bind_eq_ok, Outcome.pure_eq,
    Outcome.ok.injEq] at built
  obtain ⟨_, -, _, -, isUnsigned⟩ := built
  obtain ⟨first, rest, inputs, once⟩ := attachSignatureToFirstInput_eq_ok_iff.mp p.attached
  obtain ⟨_, _, inputs', twice⟩ := attachSignatureToFirstInput_eq_ok_iff.mp p.attachedTwice
  rw [← isUnsigned] at inputs once
  rw [once] at inputs' twice
  obtain ⟨rfl, rfl⟩ := List.cons.inj inputs'
  exact ⟨first, rest, _, _, inputs, once, twice⟩

/-- Another host that signs honestly prepares the same close, up to its signature. -/
theorem Preparation.resign {later : Host T C}
    (signs : SignsHonestly L later p.params.receiverPubkey) :
    ∃ serverSig twice,
      attachSignatureToFirstInput p.once serverSig = .ok twice ∧
      prepareCloseDataImpl L later channelId balance signature funding outKeyset false =
        .ok { data with swapRequest := twice } := by
  obtain ⟨tweak, isTweak, shifted⟩ := ChannelParameters.receiverScalar_of_blindedPubkey L p.key
  obtain rfl := Outcome.ok.inj (isTweak.symm.trans p.scalar)
  obtain ⟨serverSig, -, signed, -, -⟩ := signs _ _ (L.sigAllMessageHash p.once) shifted
  obtain ⟨first, rest, _, _, -, once, -⟩ := p.signedTwice
  have attached : ∃ twice, attachSignatureToFirstInput p.once serverSig = .ok twice :=
    ⟨_, attachSignatureToFirstInput_eq_ok_iff.mpr ⟨_, _, congrArg SwapRequest.inputs once, rfl⟩⟩
  obtain ⟨twice, attachedTwice⟩ := attached
  refine ⟨serverSig, twice, attachedTwice, prepareCloseDataImpl_eq_ok_iff.mpr ⟨⟨{
    p with
    twice, serverSig, signed, attachedTwice
    total := p.total
    secrets := p.secrets
    request_eq := rfl
    hash_eq := p.hash_eq
    key_eq := p.key_eq
    keyset_eq := p.keyset_eq }⟩, by simp⟩⟩

/-! ## Authentication -/

omit p in
/-- Two signatures on a proof that had none. -/
theorem witness_addSignature_twice {proof : Proof T} (unsigned : proof.witness = none)
    (first second : String) :
    ((proof.addSignature first).addSignature second).witness = some (.p2pk [first, second]) := by
  simp [Proof.addSignature, Witness.addSignatures, unsigned]

/-- The second signature is not covered by the digest. -/
theorem Preparation.hash_twice (witnessFree : L.WitnessFree) :
    L.sigAllMessageHash p.twice = L.sigAllMessageHash p.once := by
  obtain ⟨first, rest, outputs, mode, -, once, twice⟩ := p.signedTwice
  rw [once, twice]
  exact witnessFree _ _ _ _ rfl

/-- The receiver's signature on a prepared close, as it verifies. -/
theorem Preparation.serverSig_verifies (signs : SignsHonestly L host p.params.receiverPubkey) :
    ∃ second, signatureFromStr L p.serverSig = .ok second ∧
      L.verifySchnorr second (L.sigAllMessageHash p.once) (L.xOnly p.receiverKey) = true := by
  obtain ⟨tweak, isTweak, shifted⟩ := ChannelParameters.receiverScalar_of_blindedPubkey L p.key
  obtain rfl := Outcome.ok.inj (isTweak.symm.trans p.scalar)
  obtain ⟨text, second, signed, read, verified⟩ := signs _ _ (L.sigAllMessageHash p.once) shifted
  obtain rfl := Except.ok.inj (signed.symm.trans p.signed)
  exact ⟨second, read, verified⟩

/-- **Which prepared closes authenticate.** Of all comparisons only two can fail: the
URL that was kept with the normalized one, and the signature that was stored with the
one on the request. -/
theorem Preparation.verifyPreparedClose_iff (trips : L.RoundTrips) (witnessFree : L.WitnessFree)
    (unsigned : ∀ proof ∈ p.proofs, proof.witness = none)
    (identified : p.params.getChannelId L = channelId) (sameUnit : p.params.unit = outKeyset.unit)
    (representable : outKeyset.Representable)
    (signs : SignsHonestly L host p.params.receiverPubkey) {later : Host T C}
    (signsLater : SignsHonestly L later p.params.receiverPubkey) {prepared : PreparedClose T}
    (wrapped : wrapCloseData L data channelId balance funding = .ok prepared) :
    verifyPreparedClose L later prepared funding ⟨balance, signature⟩ p.params.receiverPubkey =
        .ok () ↔
      p.params.mint = prepared.mintUrl ∧ Hex.IsLower signature := by
  obtain ⟨paramsVal, mintUrl, parsed, named, rfl⟩ := wrapCloseData_eq_ok_iff.mp wrapped
  obtain ⟨first, rest, outputs, mode, inputs, once, twice⟩ := p.signedTwice
  have bare : first.witness = none := unsigned first (inputs ▸ List.mem_cons_self)
  have witness : p.twice.inputs.head?.bind Proof.witness =
      some (.p2pk [signatureToString p.sig, p.serverSig]) := by
    rw [twice]
    exact witness_addSignature_twice bare _ _
  have carries : carriesPayment p.twice signature = true ↔ Hex.IsLower signature := by
    rw [carriesPayment, witness, ← signatureToString_eq_iff p.read]
    exact decide_eq_true_iff
  have reread := parseKeysetInfoFromJson_render L trips representable
  rw [← carries]
  constructor
  · intro authentic
    simp only [verifyPreparedClose, Outcome.bind_eq_ok, Outcome.mapErr_eq_ok, Outcome.guard_eq_ok,
      p.stored, p.keyset_eq, p.request_eq, trips.swapRequestOfJson_toJson, Outcome.ofExcept_ok,
      Outcome.ok.injEq] at authentic
    obtain ⟨-, -, _, rfl, _, -, -, ⟨-, -, mint, -⟩, _, -, _, -, -, -, _, rfl, -, -, _, -, -, -, -,
      carriesIt, -⟩ := authentic
    exact ⟨mint, carriesIt⟩
  · rintro ⟨mint, carriesIt⟩
    have lower : signatureToString p.sig = signature :=
      (signatureToString_eq_iff p.read).mpr (carries.mp carriesIt)
    obtain ⟨second, readSecond, verified⟩ := p.serverSig_verifies signs
    obtain ⟨serverSig, again, attachedAgain, expected⟩ := p.resign signsLater
    have signatures : getSignaturesFromSwapRequest p.twice = .ok [p.sig, second] := by
      have readFirst : (Hex.decode (signatureToString p.sig)).bind (Bytes.ofList? 64) =
          some p.sig := by
        rw [signatureToString, Hex.decode_encode, Option.bind_some]
        exact Bytes.ofList?_eq_some.mpr rfl
      rw [signatureFromStr, Outcome.ofOption_eq_ok] at readSecond
      simp only [getSignaturesFromSwapRequest, twice, witness_addSignature_twice bare,
        List.filterMap_cons, readFirst, readSecond, List.filterMap_nil]
    -- The two requests differ in the witness of their first input only.
    obtain ⟨request, cleared, clearedAgain⟩ : ∃ request,
        p.twice.clearFirstWitness = some request ∧ again.clearFirstWitness = some request := by
      rw [once, attachSignatureToFirstInput] at attachedAgain
      rw [twice, ← Outcome.ok.inj attachedAgain]
      exact ⟨_, rfl, rfl⟩
    have binding : p.params.receiverPubkey = p.params.receiverPubkey ∧
        p.params.getChannelId L = channelId ∧ p.params.mint = mintUrl ∧
        p.params.unit = outKeyset.unit := ⟨rfl, identified, mint, sameUnit⟩
    have hashes : sigAllMessageHashHex L p.twice = data.sigAllMessageHash ∧
        L.publicKeyToHex p.receiverKey = data.blindedReceiverPubkey := by
      rw [p.hash_eq, p.key_eq, sigAllMessageHashHex, p.hash_twice witnessFree]
      exact ⟨rfl, rfl⟩
    have receiverSigned : verifySwapSignature L p.twice p.receiverKey second = .ok () := by
      rw [verifySwapSignature, p.hash_twice witnessFree]
      exact Outcome.guard_pos verified
    simp only [verifyPreparedClose, wrapCloseData, parsed, named, p.stored, p.keyset_eq,
      p.request_eq, reread, expected, trips.swapRequestOfJson_toJson, p.key, hashes, carriesIt,
      signatures, receiverSignature, lower, receiverSigned, cleared, clearedAgain, binding,
      Outcome.guard_pos, if_true, Outcome.ofExcept_ok, Outcome.ofOption_some, Outcome.mapErr_ok,
      Outcome.ok_bind, Outcome.pure_eq, and_self]

end Prepared

/-! ## Genuine closes -/

variable (L C) in
/-- A close that the bridge has prepared itself, with an honest signer, from stored
funding and a payment, for a keyset of the channel's unit. -/
def Genuine (funding : ChannelFunding T) (params : ChannelParameters T) (channelId : String)
    (payment : PaymentProof) (prepared : PreparedClose T) : Prop :=
  ∃ (host : Host T C) (outKeyset : KeysetInfo T) (validateDue : Bool) (data : CloseData T),
    SignsHonestly L host params.receiverPubkey ∧ outKeyset.Representable ∧
    params.unit = outKeyset.unit ∧
    prepareCloseDataImpl L host channelId payment.balance payment.signature funding outKeyset
      validateDue = .ok data ∧
    wrapCloseData L data channelId payment.balance funding = .ok prepared

section Genuine

variable {accepting later : Host T C} {paramsVal : Json} {proofs : List (Proof T)}
  {validated : ValidatedNewChannel T} {payment : PaymentProof} {mint : String}

/-- When a genuine close of an accepted channel authenticates. -/
theorem Genuine.verifies_iff (trips : L.RoundTrips) (witnessFree : L.WitnessFree)
    (a : Acceptance L accepting paramsVal proofs validated)
    (named : (paramsVal.field "mint").asStr = some mint)
    (signs : SignsHonestly L later a.params.receiverPubkey) {prepared : PreparedClose T}
    (genuine : Genuine C L validated.funding a.params validated.channelId payment prepared) :
    verifyPreparedClose L later prepared validated.funding payment a.params.receiverPubkey =
        .ok () ↔
      mint.toList.getLast? ≠ some '/' ∧ Hex.IsLower payment.signature := by
  obtain ⟨host, outKeyset, validateDue, data, signed, representable, sameUnit, isData, wrapped⟩ :=
    genuine
  obtain ⟨⟨p⟩, -⟩ := prepareCloseDataImpl_eq_ok_iff.mp isData
  have same := Outcome.ok.inj (p.stored.symm.trans a.storedParams_eq)
  have sameProofs := Outcome.ok.inj (p.parsed.symm.trans (a.parseProofs_eq trips))
  obtain ⟨_, -, -, unsigned⟩ := of_verifyValidChannel a.funded
  obtain ⟨_, mintUrl, parsed, isMint, isPrepared⟩ := wrapCloseData_eq_ok_iff.mp wrapped
  rw [a.paramsText, trips.parse_render] at parsed
  obtain rfl := Except.ok.inj parsed
  obtain rfl := Option.some.inj (named.symm.trans isMint)
  have sameUrl : prepared.mintUrl = mint := by rw [isPrepared]
  rw [← a.mint_eq_iff trips named, ← sameUrl]
  have identified := a.identified
  rw [← same] at identified sameUnit signed signs ⊢
  exact p.verifyPreparedClose_iff trips witnessFree (sameProofs ▸ unsigned) identified sameUnit
    representable signed signs wrapped

/-- What recovery checks, once it has found the channel and its closing payment. -/
theorem authenticateCloseAttempts_eq_ok_iff (a : Acceptance L accepting paramsVal proofs validated)
    {closing : ClosingData}
    (isClosing : later.getChannelState validated.channelId = .ok (some .closing))
    (stored : later.getFunding validated.channelId = some validated.funding)
    (closed : later.getClosingData validated.channelId = some closing)
    (own : later.receiverKeyIsAcceptable a.params.receiverPubkey = true)
    {attempts : List (PreparedClose T)} :
    authenticateCloseAttempts L later validated.channelId attempts = .ok a.params ↔
      ∀ attempt ∈ attempts, verifyPreparedClose L later attempt validated.funding closing.payment
        a.params.receiverPubkey = .ok () := by
  have decoded := a.decoded
  rw [channelSecretOf_eq_ok_iff] at decoded
  have isParams := a.params_eq
  rw [← a.paramsText] at isParams
  simp only [authenticateCloseAttempts, isClosing, stored, closed, a.keyset_eq, isParams,
    channelSecretOf_eq_ok_iff.mpr decoded, a.identified, own, Outcome.guard_pos, and_self,
    Outcome.ofExcept_ok, Outcome.ofOption_some, Outcome.ok_bind, Outcome.bind_eq_ok,
    Outcome.forAll_eq_ok, Outcome.mapErr_eq_ok, Outcome.pure_eq, and_true, exists_const]

end Genuine

/-- **A genuine close authenticates exactly when** the mint's URL was sent without a
slash at its end and the payment's signature is stored in lower case; and recovery
gets past kept closes in exactly these cases, or if there are none. -/
theorem authenticates_iff (trips : L.RoundTrips) (witnessFree : L.WitnessFree)
    {accepting later : Host T C} {channelId : String} {paramsVal : Json} {proofs : List (Proof T)}
    {firstBalance : Nat} {firstSignature : String} {validated : ValidatedNewChannel T}
    (accepted : validateNewChannelFunding L accepting channelId paramsVal proofs firstBalance
      firstSignature = .ok validated)
    {params : ChannelParameters T} (read : storedParams L validated.funding = .ok params)
    {mint : String} (named : (paramsVal.field "mint").asStr = some mint)
    (signs : SignsHonestly L later params.receiverPubkey) (payment : PaymentProof) :
    (∀ prepared, Genuine C L validated.funding params channelId payment prepared →
      (verifyPreparedClose L later prepared validated.funding payment params.receiverPubkey =
          .ok () ↔
        mint.toList.getLast? ≠ some '/' ∧ Hex.IsLower payment.signature)) ∧
    ∀ attempts closing,
      (∀ attempt ∈ attempts, Genuine C L validated.funding params channelId payment attempt) →
      later.getChannelState channelId = .ok (some .closing) →
      later.getFunding channelId = some validated.funding →
      later.getClosingData channelId = some closing → closing.payment = payment →
      later.receiverKeyIsAcceptable params.receiverPubkey = true →
      (authenticateCloseAttempts L later channelId attempts = .ok params ↔
        attempts = [] ∨ mint.toList.getLast? ≠ some '/' ∧ Hex.IsLower payment.signature) := by
  obtain ⟨⟨a⟩, rfl, -⟩ := acceptance_of_validate accepted
  obtain rfl := Outcome.ok.inj (a.storedParams_eq.symm.trans read)
  refine ⟨fun prepared genuine => genuine.verifies_iff trips witnessFree a named signs, ?_⟩
  rintro attempts closing genuine isClosing stored closed rfl own
  rw [authenticateCloseAttempts_eq_ok_iff a isClosing stored closed own]
  cases attempts with
  | nil => simp
  | cons attempt rest =>
      have each : ∀ other ∈ attempt :: rest, _ := fun other member =>
        (genuine other member).verifies_iff trips witnessFree a named signs
      constructor
      · intro verified
        exact .inr ((each attempt List.mem_cons_self).mp (verified attempt List.mem_cons_self))
      · rintro (none | canonical)
        · cases none
        · exact fun other member => (each other member).mpr canonical

/-! ## Closes in and out of canonical form -/

namespace Sample

theorem witnessFree : library.WitnessFree := by
  intro inputs inputs' outputs mode same
  exact congrArg (fun bytes => bytes32 (digest bytes)) (sigAllBytes_congr same)

/-- The payment of a run has a genuine close, however its signature is written. -/
theorem exists_genuine {mint : String} {accepted : Accepted} {signature : String}
    (opened : (two mint).openAt (pairs "sat") (satHost mint "sat") 1 = .ok accepted)
    (facts : Inspected (two mint) (pairs "sat") (pairs "sat") 1 signature accepted)
    {text : String} (same : Hex.decode text = Hex.decode signature) :
    ∃ prepared, Genuine Unit library accepted.validated.funding accepted.params
      accepted.opening.channelId ⟨1, text⟩ prepared := by
  obtain ⟨valid, stored⟩ := of_openAt opened
  obtain ⟨⟨a⟩, sameId, samePayment⟩ := acceptance_of_validate valid
  have sameParams := Outcome.ok.inj (a.storedParams_eq.symm.trans stored)
  obtain ⟨sameBalance, sameSignature⟩ := PaymentProof.mk.inj samePayment
  have verified := a.signed
  rw [sameBalance, sameSignature, facts.signature_eq] at verified
  have splits : Splits (pairs "sat") a.params.maximumAmountForOneOutput
      a.params.fundingTokenAmount := by
    rw [sameParams, facts.funding_eq, facts.maximum_eq]
    show Splits (pairs "sat") 0 2
    decide
  obtain ⟨data, prepared, p, wrapped, -⟩ := a.exists_prepared roundTrips
    (by rw [facts.capacity_eq]; exact two_ne_zero) (verifySignature_of_decode verified same)
    (signsHonestly (show (satHost mint "sat").signWithTweakedKey = signTweaked from rfl) _) splits
    facts.mint_eq
  rw [← sameId]
  exact ⟨prepared, satHost mint "sat", pairs "sat", false, data, signsHonestly rfl _,
    ⟨rfl, by decide, by decide, by decide⟩, facts.unit_eq,
    prepareCloseDataImpl_eq_ok_iff.mpr ⟨p, by simp⟩, wrapped⟩

/-- A genuine close that is not in canonical form does not authenticate. -/
theorem verifyPreparedClose_ne_ok {mint : String} {accepted : Accepted} {signature text : String}
    (opened : (two mint).openAt (pairs "sat") (satHost mint "sat") 1 = .ok accepted)
    (facts : Inspected (two mint) (pairs "sat") (pairs "sat") 1 signature accepted)
    {prepared : PreparedClose carriers}
    (genuine : Genuine Unit library accepted.validated.funding accepted.params
      accepted.opening.channelId ⟨1, text⟩ prepared)
    (loose : ¬ (mint.toList.getLast? ≠ some '/' ∧ Hex.IsLower text)) :
    verifyPreparedClose library (satHost mint "sat") prepared accepted.validated.funding ⟨1, text⟩
      accepted.params.receiverPubkey ≠ .ok () := by
  obtain ⟨valid, stored⟩ := of_openAt opened
  obtain ⟨⟨a⟩, sameId, -⟩ := acceptance_of_validate valid
  have sameParams := Outcome.ok.inj (a.storedParams_eq.symm.trans stored)
  rw [← sameId, ← sameParams] at genuine
  rw [← sameParams]
  exact fun verified => loose ((genuine.verifies_iff roundTrips witnessFree a facts.mint_eq
    (signsHonestly rfl _)).mp verified)

/-- A signature of `opens_two` with an upper-case digit. -/
def loudSignature : String :=
  Hex.encode ((bytes32 119).val ++ List.replicate 31 0) ++ "2F"

end Sample

/-- A close of a channel with a canonical URL and signature authenticates. -/
theorem authenticates_iff_two :
    ∃ accepted prepared, (Sample.two "m").openAt (Sample.pairs "sat") (Sample.satHost "m" "sat") 1 =
        .ok accepted ∧
      Genuine Unit Sample.library accepted.validated.funding accepted.params
        accepted.opening.channelId ⟨1, Sample.signatureText 119 47⟩ prepared ∧
      verifyPreparedClose Sample.library (Sample.satHost "m" "sat") prepared
        accepted.validated.funding ⟨1, Sample.signatureText 119 47⟩ accepted.params.receiverPubkey =
          .ok () := by
  obtain ⟨accepted, opened, facts⟩ := Sample.opens_two
  obtain ⟨valid, stored⟩ := Sample.of_openAt opened
  obtain ⟨prepared, genuine⟩ := Sample.exists_genuine opened facts rfl
  refine ⟨accepted, prepared, opened, genuine, ((authenticates_iff Sample.roundTrips
    Sample.witnessFree valid stored facts.mint_eq (Sample.signsHonestly rfl _) _).1 prepared
    genuine).mpr ⟨by decide, Hex.isLower_encode _⟩⟩

/-- A genuine close with a slash at the end of the mint's URL does not authenticate,
and neither does one for a payment whose signature is stored in upper case, although
the payment is accepted. -/
theorem not_authenticates_two :
    (∃ accepted prepared, (Sample.two "m/").openAt (Sample.pairs "sat")
        (Sample.satHost "m/" "sat") 1 = .ok accepted ∧
      Genuine Unit Sample.library accepted.validated.funding accepted.params
        accepted.opening.channelId ⟨1, Sample.signatureText 119 47⟩ prepared ∧
      verifyPreparedClose Sample.library (Sample.satHost "m/" "sat") prepared
        accepted.validated.funding ⟨1, Sample.signatureText 119 47⟩ accepted.params.receiverPubkey ≠
          .ok ()) ∧
    ∃ accepted prepared, (Sample.two "m").openAt (Sample.pairs "sat") (Sample.satHost "m" "sat") 1 =
        .ok accepted ∧
      verifySignature Sample.library accepted.validated.funding accepted.opening.channelId 1
        Sample.loudSignature = .ok () ∧
      Genuine Unit Sample.library accepted.validated.funding accepted.params
        accepted.opening.channelId ⟨1, Sample.loudSignature⟩ prepared ∧
      verifyPreparedClose Sample.library (Sample.satHost "m" "sat") prepared
        accepted.validated.funding ⟨1, Sample.loudSignature⟩ accepted.params.receiverPubkey ≠
          .ok () := by
  constructor
  · obtain ⟨accepted, opened, facts⟩ := Sample.opens_slash
    obtain ⟨prepared, genuine⟩ := Sample.exists_genuine opened facts rfl
    exact ⟨accepted, prepared, opened, genuine,
      Sample.verifyPreparedClose_ne_ok opened facts genuine fun canonical =>
        canonical.1 (by decide)⟩
  · obtain ⟨accepted, opened, facts⟩ := Sample.opens_two
    obtain ⟨⟨a⟩, sameId, samePayment⟩ := acceptance_of_validate (Sample.of_openAt opened).1
    obtain ⟨sameBalance, sameSignature⟩ := PaymentProof.mk.inj samePayment
    have verified := a.signed
    rw [sameBalance, sameSignature, facts.signature_eq, sameId] at verified
    have same : Hex.decode Sample.loudSignature = Hex.decode (Sample.signatureText 119 47) := by
      decide +kernel
    obtain ⟨prepared, genuine⟩ := Sample.exists_genuine opened facts same
    have loud : 'F' ∈ Sample.loudSignature.toList := by
      simp [Sample.loudSignature, String.toList_append]
    exact ⟨accepted, prepared, opened, verifySignature_of_decode verified same, genuine,
      Sample.verifyPreparedClose_ne_ok opened facts genuine fun canonical =>
        canonical.2 'F' loud (by decide)⟩

end Spilman
