/-
# What a close pays

A close that completes pays exactly the commitment of its balance, whatever the
prepared close says and whatever the mint has answered
(`completePreparedClose_exact`): the checks of three functions, over lists that
are computed apart, leave no other result.

The total that is reported when a close is prepared is another matter. Its
outputs are split with the fees of the funding keyset, and the total is computed
with those of the output keyset; `expectedTotal_eq_iff` says when the two agree.
-/

import Spilman.Bridge.Settlement

namespace Spilman

open Lib

variable {T : Carriers} {C : Type} {L : Cashu T}

/-! ## Proofs of the commitment -/

variable (L) in
/-- A proof pays for a commitment output: it has the output's amount and secret, is of
the output keyset, and the mint's signature in it verifies. -/
structure PaysFor (outKeyset : KeysetInfo T) (entry : DeterministicSecretWithBlinding T × Bool)
    (proof : Proof T) : Prop where
  amount : proof.amount = entry.1.amount
  secret : proof.secret = entry.1.secret
  keysetId : proof.keysetId = outKeyset.keysetId
  verified : ∃ key, outKeyset.activeKeys.amountKey entry.1.amount = some key ∧
    L.verifyDleq { proof with witness := none, p2pkE := none } key = .ok ()

/-- Spend metadata does not change what a proof pays for. -/
theorem PaysFor.of_clear {outKeyset : KeysetInfo T}
    {entry : DeterministicSecretWithBlinding T × Bool} {proof proof' : Proof T}
    (pays : PaysFor L outKeyset entry proof)
    (same : { proof' with witness := none, p2pkE := none } =
      { proof with witness := none, p2pkE := none }) : PaysFor L outKeyset entry proof' := by
  obtain ⟨amount, secret, keyset, verified⟩ := pays
  obtain ⟨sameAmount, sameKeyset, sameSecret, -⟩ := Proof.mk.inj same
  exact ⟨sameAmount.trans amount, sameSecret.trans secret, sameKeyset.trans keyset, same ▸ verified⟩

section Unblinding

variable {response : SwapResponse T} {entries : List (DeterministicSecretWithBlinding T × Bool)}
  {params : ChannelParameters T} {outKeyset : KeysetInfo T} {balance : Nat}
  {result : UnblindResult T}

/-- The secrets are blinded again one by one. -/
theorem preparedOutput_eq_ok {keysetId : T.Id}
    {entry : DeterministicSecretWithBlinding T × Bool} {p : PreparedSwapOutput T}
    (made : preparedOutput L keysetId entry = .ok p) :
    p.blindedMessage.amount = entry.1.amount ∧ p.secret = entry.1.secret := by
  simp only [preparedOutput, Outcome.bind_eq_ok, Outcome.pure_eq, Outcome.ok.injEq] at made
  obtain ⟨_, -, rfl⟩ := made
  exact ⟨rfl, rfl⟩

/-- A completed proof is the unblinded one with an ephemeral key. -/
theorem proofWithMeta_eq_ok {pair : Proof T × (DeterministicSecretWithBlinding T × Bool)}
    {entry : ProofWithMeta T} (made : proofWithMeta L params pair = .ok entry) :
    entry.isReceiver = pair.2.2 ∧ { entry.proof with witness := none, p2pkE := none } =
      { pair.1 with witness := none, p2pkE := none } := by
  simp only [proofWithMeta, ChannelParameters.attachStage2P2pkE, Outcome.bind_eq_ok,
    Outcome.mapErr_eq_ok, Outcome.pure_eq, Outcome.ok.injEq] at made
  obtain ⟨_, ⟨_, -, rfl⟩, _, -, rfl⟩ := made
  exact ⟨rfl, rfl⟩

/-- A signed proof is the completed one with a witness. -/
theorem signReceiverCloseProof_eq_ok {host : Host T C} {entry : ProofWithMeta T} {proof : Proof T}
    (made : signReceiverCloseProof L host params entry = .ok proof) :
    { proof with witness := none, p2pkE := none } =
      { entry.proof with witness := none, p2pkE := none } := by
  simp only [signReceiverCloseProof, ChannelParameters.attachStage2P2pkE, Outcome.bind_eq_ok,
    Outcome.mapErr_eq_ok, Outcome.pure_eq, Outcome.ok.injEq] at made
  obtain ⟨_, ⟨_, -, rfl⟩, _, -, _, -, rfl⟩ := made
  rfl

/-- **Every proof of an unblinded answer pays for its output**, and the answer has
randomness exactly in the mode of the channel. -/
theorem Unblinding.pays (laws : L.Unblinds)
    (u : Unblinding L response entries params outKeyset balance result) :
    (response.rerandomizationR.isSome = true ↔ params.commitmentMode = .rerandomized) ∧
      List.Forall₂ (fun entry completed => entry.2 = completed.isReceiver ∧
        PaysFor L outKeyset entry completed.proof) entries u.metas := by
  obtain ⟨mode, paid⟩ := paysOut_of_completeSwapResponse laws u.accepted
  have blinded := (Outcome.mapAll_eq_ok.mp u.offered).imp fun _ _ => preparedOutput_eq_ok
  have pays : List.Forall₂ (fun proof entry => PaysFor L outKeyset entry proof) u.proofs
      entries := by
    refine List.Forall₂.flip ((forall₂_comp blinded paid).imp fun entry proof => ?_)
    rintro ⟨p, ⟨amount, secret⟩, out⟩
    have bare : { proof with witness := none, p2pkE := none } = proof := by
      rw [← out.witness, ← out.p2pkE]
    obtain ⟨key, hasKey, verified⟩ := out.verified
    rw [out.amount, amount] at hasKey
    exact ⟨out.amount.trans amount, out.secret.trans secret, out.keysetId, key, hasKey,
      bare.symm ▸ verified⟩
  constructor
  · rw [← mode]
    exact decide_eq_true_iff
  · refine (forall₂_of_zip pays (Outcome.mapAll_eq_ok.mp u.placed)).imp fun entry completed => ?_
    rintro ⟨proof, paysFor, made⟩
    obtain ⟨role, same⟩ := proofWithMeta_eq_ok made
    exact ⟨role.symm, paysFor.of_clear same⟩

/-- The proofs are split by role as the secrets are. -/
theorem Unblinding.paysByRole (laws : L.Unblinds)
    (u : Unblinding L response entries params outKeyset balance result) :
    List.Forall₂ (fun entry completed => PaysFor L outKeyset entry completed.proof)
        (entries.filter (·.2)) result.receiverProofs ∧
      List.Forall₂ (fun entry completed => PaysFor L outKeyset entry completed.proof)
        (entries.filter (!·.2)) result.senderProofs := by
  obtain ⟨-, pays⟩ := u.pays laws
  rw [u.result_eq]
  constructor
  · refine (List.rel_filter ?_ pays).imp fun _ _ => And.right
    intro entry completed related
    show entry.2 = true ↔ completed.isReceiver = true
    rw [related.1]
  · refine (List.rel_filter ?_ pays).imp fun _ _ => And.right
    intro entry completed related
    show (!entry.2) = true ↔ (!completed.isReceiver) = true
    rw [related.1]

/-- Proofs that pay for outputs are worth what the outputs are. -/
theorem proofSum_of_pays {outputs : List (DeterministicSecretWithBlinding T × Bool)}
    {completed : List (ProofWithMeta T)}
    (pays : List.Forall₂ (fun entry completed => PaysFor L outKeyset entry completed.proof)
      outputs completed) :
    proofSum completed = (outputs.map (·.1.amount)).sum % 2 ^ 64 := by
  rw [proofSum, map_eq_map_of_forall₂ pays fun _ _ paysFor => paysFor.amount.symm]

/-- The receiver gets the nominal value of the balance, and both together what stage 1
leaves of the funding. -/
theorem Unblinding.sums (laws : L.Unblinds)
    (u : Unblinding L response entries params outKeyset balance result)
    {commitment : CommitmentOutputs T}
    (committed : CommitmentOutputs.forBalance balance params = .ok commitment)
    (secrets : commitment.secretsWithBlinding L id id = .ok entries) :
    result.receiverSum = u.search.nominalValue ∧
      params.getValueAfterStage1 = .ok (result.receiverSum + result.senderSum) := by
  obtain ⟨-, afterStage1, search, stage1, found, enough, -, splits, rfl⟩ :=
    CommitmentOutputs.forBalance_eq_ok_iff.mp committed
  obtain rfl := Outcome.ok.inj (found.symm.trans u.found)
  obtain ⟨receiver, sender, -, derived, rfl⟩ := secretsWithBlinding_eq_ok_iff.mp secrets
  have receiverSum : result.receiverSum = u.search.nominalValue :=
    (congrArg UnblindResult.receiverSum u.result_eq).trans u.nominal
  have paid := proofSum_of_pays (u.paysByRole laws).2
  rw [(sums_mergedSecrets receiver sender).2, amounts_of_getSecretsWithBlinding L derived,
    sum_spread_greedyList splits] at paid
  have senderSum : result.senderSum = proofSum result.senderProofs := by rw [u.result_eq]
  have fits : afterStage1 < 2 ^ 64 := deterministicValueAfterFees_lt stage1
  rw [stage1, receiverSum, senderSum, paid]
  exact ⟨rfl, congrArg Outcome.ok (by omega)⟩

end Unblinding

/-! ## The exact payout -/

variable (L) in
/-- What a close pays if it is completed: the nominal value of the balance to the
receiver and the rest of what stage 1 leaves to the sender, in proofs for the outputs
of the commitment. -/
structure ExactPayout (prep : PreparedClose T) (params : ChannelParameters T)
    (outKeyset : KeysetInfo T) (response : SwapResponse T) (completed : CompletedClose T) :
    Prop where
  nominal : ∃ search, params.keysetInfo.inverseDeterministicValueAfterFees prep.balance
      params.maximumAmountForOneOutput = .ok search ∧
    completed.receiverSum = search.nominalValue
  total : params.getValueAfterStage1 = .ok (completed.receiverSum + completed.senderSum)
  proofs : ∃ commitment entries receiverProofs senderProofs,
    CommitmentOutputs.forBalance prep.balance params = .ok commitment ∧
    commitment.secretsWithBlinding L id id = .ok entries ∧
    completed.receiverProofsJson = L.render (L.proofsToJson receiverProofs) ∧
    completed.senderProofsJson = L.render (L.proofsToJson senderProofs) ∧
    List.Forall₂ (PaysFor L outKeyset) (entries.filter (·.2)) receiverProofs ∧
    List.Forall₂ (PaysFor L outKeyset) (entries.filter (!·.2)) senderProofs
  /-- The request is in the mode of the channel, and so is the answer. -/
  mode : ∃ request, L.swapRequestOfJson prep.swapRequest = .ok request ∧
    (request.rerandomized = true ↔ params.commitmentMode = .rerandomized) ∧
    (response.rerandomizationR.isSome = true ↔ params.commitmentMode = .rerandomized)

theorem Completion.exactPayout (laws : L.Unblinds) {host : Host T C} {respJson : T.Text}
    {prep : PreparedClose T} {completed : CompletedClose T}
    (c : Completion L host respJson prep completed) :
    ExactPayout L prep c.params c.outKeyset c.response completed := by
  obtain ⟨u⟩ := unblind_eq_ok_iff.mp c.unblinded
  obtain ⟨receiverSum, total⟩ := u.sums laws c.committed c.secrets
  obtain ⟨receiverPays, senderPays⟩ := u.paysByRole laws
  have signed : List.Forall₂ (PaysFor L c.outKeyset) (c.entries.filter (·.2)) c.signedProofs := by
    refine (forall₂_comp receiverPays (Outcome.mapAll_eq_ok.mp c.signed)).imp fun entry proof => ?_
    rintro ⟨completed, paysFor, made⟩
    exact paysFor.of_clear (signReceiverCloseProof_eq_ok made)
  suffices pays : ∀ result, result = _ →
      ExactPayout L prep c.params c.outKeyset c.response result from pays completed c.completed_eq
  rintro _ rfl
  refine ⟨⟨u.search, u.found, receiverSum⟩, total, ⟨c.commitment, c.entries, c.signedProofs,
    _, c.committed, c.secrets, rfl, rfl, signed, ?_⟩, c.request, c.request_eq, ?_,
    (u.pays laws).1⟩
  · rwa [List.forall₂_map_right_iff]
  · rw [c.mode, decide_eq_true_iff]

/-- **A completed close pays exactly its commitment.** Whatever the prepared close says
and whatever the mint has answered, what is returned is the payout of the balance on
the channel whose parameters the close carries. -/
theorem completePreparedClose_exact (laws : L.Unblinds) {host : Host T C} {respJson : T.Text}
    {prep : PreparedClose T} {completed : CompletedClose T}
    (done : completePreparedClose L host respJson prep = .ok completed) :
    ∃ params outKeyset response, prep.ReadsParams L params ∧
      params.getChannelId L = prep.channelId ∧
      parseKeysetInfoFromJson L (L.render prep.outputKeysetInfo) = .ok outKeyset ∧
      parseSwapResponse L respJson = .ok response ∧
      ExactPayout L prep params outKeyset response completed := by
  obtain ⟨c⟩ := completePreparedClose_eq_ok_iff.mp done
  exact ⟨c.params, c.outKeyset, c.response, c.readsParams, c.identified, c.keyset_eq, c.parsed,
    c.exactPayout laws⟩

namespace Sample

/-- The channel of two, closed with any keyset that splits its funding. -/
theorem prepares_two {outKeyset : KeysetInfo carriers} (splits : Splits outKeyset 0 2) :
    ∃ accepted data prepared,
      (two "m").openAt (pairs "sat") (satHost "m" "sat") 1 = .ok accepted ∧
      Inspected (two "m") (pairs "sat") (pairs "sat") 1 (signatureText 119 47) accepted ∧
      Nonempty (Preparation library (satHost "m" "sat") accepted.opening.channelId 1
        accepted.opening.signature accepted.validated.funding outKeyset data) ∧
      wrapCloseData library data accepted.opening.channelId 1 accepted.validated.funding =
        .ok prepared := by
  obtain ⟨accepted, opened, facts⟩ := opens_two
  obtain ⟨valid, stored⟩ := of_openAt opened
  obtain ⟨⟨a⟩, sameId, samePayment⟩ := acceptance_of_validate valid
  obtain ⟨sameBalance, sameSignature⟩ := PaymentProof.mk.inj samePayment
  have sameParams := Outcome.ok.inj (a.storedParams_eq.symm.trans stored)
  have verified := a.signed
  rw [sameBalance, sameSignature] at verified
  have splitsFunding : Splits outKeyset a.params.maximumAmountForOneOutput
      a.params.fundingTokenAmount := by
    rw [sameParams, facts.funding_eq, facts.maximum_eq]
    exact splits
  obtain ⟨data, prepared, p, wrapped, -⟩ := a.exists_prepared roundTrips
    (by rw [facts.capacity_eq]; exact two_ne_zero) verified
    (signsHonestly (show (satHost "m" "sat").signWithTweakedKey = signTweaked from rfl) _)
    splitsFunding facts.mint_eq
  rw [sameId] at p wrapped
  exact ⟨accepted, data, prepared, opened, facts, p, wrapped⟩

/-- A keyset of the small library can be written and read. -/
theorem representable_pairs : (pairs "sat").Representable :=
  ⟨rfl, by decide, by decide, by decide⟩

/-- A channel is read back with the keyset that the host has cached for it. -/
theorem keysetInfo_of_openAt {terms : Terms} {keyset : KeysetInfo carriers} {mint : String}
    {policies : String → Option ChannelPolicy} {now balance : Nat} {accepted : Accepted}
    (representable : keyset.Representable)
    (opened : terms.openAt keyset (host mint keyset policies now) balance = .ok accepted) :
    accepted.params.keysetInfo = keyset := by
  obtain ⟨valid, stored⟩ := of_openAt opened
  obtain ⟨⟨a⟩, -, -⟩ := acceptance_of_validate valid
  rw [Outcome.ok.inj (stored.symm.trans a.storedParams_eq), (a.readFrom roundTrips).keysetInfo_eq]
  have cached := a.cached
  simp only [host] at cached
  split_ifs at cached
  have read := a.keyset_eq
  rw [← Option.some.inj cached] at read
  exact Outcome.ok.inj (read.symm.trans
    (parseKeysetInfoFromJson_render library roundTrips representable))

/-- The channel of two, closed with its own keyset and completed. -/
theorem completes_two : ∃ accepted data prepared respJson completed,
    (two "m").openAt (pairs "sat") (satHost "m" "sat") 1 = .ok accepted ∧
    prepareCloseDataImpl library (satHost "m" "sat") accepted.opening.channelId 1
      accepted.opening.signature accepted.validated.funding (pairs "sat") false = .ok data ∧
    wrapCloseData library data accepted.opening.channelId 1 accepted.validated.funding =
      .ok prepared ∧
    completePreparedClose library (satHost "m" "sat") respJson prepared = .ok completed := by
  obtain ⟨accepted, opened, facts⟩ := opens_two
  obtain ⟨valid, stored⟩ := of_openAt opened
  obtain ⟨⟨a⟩, sameId, samePayment⟩ := acceptance_of_validate valid
  obtain ⟨sameBalance, sameSignature⟩ := PaymentProof.mk.inj samePayment
  have sameParams := Outcome.ok.inj (stored.symm.trans a.storedParams_eq)
  have verified := a.signed
  rw [sameBalance, sameSignature] at verified
  have named := facts.mint_eq
  have sameMint := (a.mint_eq_iff roundTrips named).mpr (by decide)
  have splits : Splits (pairs "sat") a.params.maximumAmountForOneOutput
      a.params.fundingTokenAmount := by
    rw [← sameParams, facts.funding_eq, facts.maximum_eq]
    decide
  have unit := facts.unit_eq
  have keys := facts.keys
  have collisionFree := facts.collisionFree
  have answered := answerable facts.mode_eq facts.keys
  rw [sameParams] at unit keys collisionFree answered
  rw [← sameMint] at named
  obtain ⟨data, prepared, isData, wrapped, completes⟩ := a.settles roundTrips issues readsP2pk
    (by rw [facts.capacity_eq]; exact two_ne_zero) verified representable_pairs unit keys
    collisionFree (signsHonestly (show (satHost "m" "sat").signWithTweakedKey = signTweaked from rfl)
      _) (signsHonestly (show (satHost "m" "sat").signWithTweakedKey = signTweaked from rfl) _)
    (show false = true → _ by simp) named splits
  obtain ⟨⟨p⟩, -⟩ := prepareCloseDataImpl_eq_ok_iff.mp isData
  have committed := p.committed
  rw [Outcome.ok.inj (p.stored.symm.trans a.storedParams_eq)] at committed
  obtain ⟨respJson, response, parsed, honest⟩ := answered _ _ _ _ committed p.built
    (secretsWithBlinding_errors id id p.secrets)
  obtain ⟨completed, done⟩ := completes respJson response parsed
    (honest.of_outputs p.request_unsigned.1 p.request_unsigned.2)
  rw [sameId] at isData wrapped
  exact ⟨accepted, data, prepared, respJson, completed, opened, isData, wrapped, done⟩

end Sample

/-- A completed close of the channel of two pays its commitment. -/
theorem completePreparedClose_exact_two :
    ∃ prepared respJson completed,
      completePreparedClose Sample.library (Sample.satHost "m" "sat") respJson prepared =
        .ok completed ∧
      ∃ params outKeyset response, prepared.ReadsParams Sample.library params ∧
        params.getChannelId Sample.library = prepared.channelId ∧
        parseKeysetInfoFromJson Sample.library prepared.outputKeysetInfo = .ok outKeyset ∧
        parseSwapResponse Sample.library respJson = .ok response ∧
        ExactPayout Sample.library prepared params outKeyset response completed := by
  obtain ⟨-, -, prepared, respJson, completed, -, -, -, done⟩ := Sample.completes_two
  exact ⟨prepared, respJson, completed, done, completePreparedClose_exact Sample.unblinds done⟩

/-! ## The total that is reported -/

/-- The fee for spending the split of an amount over a keyset, at most the amount. -/
def splitFee (keyset : KeysetInfo T) (maximumAmount amount : Nat) : Nat :=
  min amount (Greedy.divCeil
    (keyset.inputFeePpk * (greedyList amount maximumAmount keyset).len % 2 ^ 64) 1000)

/-- The value after fees is what the fee leaves. -/
theorem deterministicValueAfterFees_add_splitFee {keyset : KeysetInfo T}
    {maximumAmount amount value : Nat} (fits : amount < 2 ^ 64)
    (computed : keyset.deterministicValueAfterFees amount maximumAmount = .ok value) :
    value + splitFee keyset maximumAmount amount = amount := by
  obtain ⟨splits, rfl⟩ := deterministicValueAfterFees_eq_ok_iff.mp computed
  have rate : (greedyList amount maximumAmount keyset).inputFeePpk = keyset.inputFeePpk := rfl
  rw [OrderedListOfAmounts.valueAfterFees, nominalTotal_greedyList splits fits, rate, splitFee]
  by_cases free : keyset.inputFeePpk = 0
  · simp [free, Greedy.divCeil]
  · rw [if_neg free]
    omega

/-- The outputs of a close sum to what stage 1 leaves under the funding keyset. -/
theorem Preparation.sum_outputs {host : Host T C} {channelId : String} {balance : Nat}
    {signature : String} {funding : ChannelFunding T} {outKeyset : KeysetInfo T}
    {data : CloseData T}
    (p : Preparation L host channelId balance signature funding outKeyset data) :
    p.params.getValueAfterStage1 =
      .ok (data.swapRequest.outputs.map BlindedMessage.amount).sum := by
  rw [p.request_unsigned.1]
  exact sum_of_createSwapRequest L p.committed p.built

/-- **The reported total is the total of the outputs exactly when** spending the funding
amount costs the same fee over the output keyset as over the funding keyset. -/
theorem expectedTotal_eq_iff {host : Host T C} {channelId : String} {balance : Nat}
    {signature : String} {funding : ChannelFunding T} {outKeyset : KeysetInfo T}
    {validateDue : Bool} {data : CloseData T}
    (prepared : prepareCloseDataImpl L host channelId balance signature funding outKeyset
      validateDue = .ok data)
    {params : ChannelParameters T} (read : storedParams L funding = .ok params) :
    data.expectedTotal = (data.swapRequest.outputs.map BlindedMessage.amount).sum ↔
      splitFee outKeyset params.maximumAmountForOneOutput params.fundingTokenAmount =
        splitFee params.keysetInfo params.maximumAmountForOneOutput params.fundingTokenAmount := by
  obtain ⟨⟨p⟩, -⟩ := prepareCloseDataImpl_eq_ok_iff.mp prepared
  have same := Outcome.ok.inj (p.stored.symm.trans read)
  obtain ⟨-, -, fits, -⟩ := EstablishedChannel.new_eq_ok_iff.mp p.established
  have reported := deterministicValueAfterFees_add_splitFee fits p.total
  have summed := deterministicValueAfterFees_add_splitFee fits p.sum_outputs
  rw [← same]
  omega

/-- For the channel of two, closed with the keyset it was funded with, both are two. -/
theorem expectedTotal_eq_iff_two :
    ∃ accepted data,
      (Sample.two "m").openAt (Sample.pairs "sat") (Sample.satHost "m" "sat") 1 = .ok accepted ∧
      prepareCloseDataImpl Sample.library (Sample.satHost "m" "sat") accepted.opening.channelId 1
        accepted.opening.signature accepted.validated.funding (Sample.pairs "sat") false =
          .ok data ∧
      data.expectedTotal = (data.swapRequest.outputs.map BlindedMessage.amount).sum := by
  obtain ⟨accepted, data, -, opened, facts, ⟨p⟩, -⟩ :=
    Sample.prepares_two (show Splits (Sample.pairs "sat") 0 2 by decide)
  have isData := prepareCloseDataImpl_eq_ok_iff.mpr ⟨⟨p⟩, (show false = true → _ by simp)⟩
  refine ⟨accepted, data, opened, isData,
    (expectedTotal_eq_iff isData (Sample.of_openAt opened).2).mpr ?_⟩
  rw [Sample.keysetInfo_of_openAt Sample.representable_pairs opened]

/-- With a keyset that charges a fee the reported total is one, while the outputs are
worth two. -/
theorem expectedTotal_ne_two :
    ∃ accepted data,
      (Sample.two "m").openAt (Sample.pairs "sat") (Sample.satHost "m" "sat") 1 = .ok accepted ∧
      prepareCloseDataImpl Sample.library (Sample.satHost "m" "sat") accepted.opening.channelId 1
        accepted.opening.signature accepted.validated.funding Sample.feePairs false = .ok data ∧
      data.expectedTotal = 1 ∧
      (data.swapRequest.outputs.map BlindedMessage.amount).sum = 2 := by
  obtain ⟨accepted, data, -, opened, facts, ⟨p⟩, -⟩ :=
    Sample.prepares_two (show Splits Sample.feePairs 0 2 by decide)
  have same := Outcome.ok.inj (p.stored.symm.trans (Sample.of_openAt opened).2)
  have total := p.total
  have summed := p.sum_outputs
  rw [same, ChannelParameters.getValueAfterStage1WithKeyset, facts.funding_eq,
    facts.maximum_eq] at total
  rw [same, ChannelParameters.getValueAfterStage1, ChannelParameters.getValueAfterStage1WithKeyset,
    Sample.keysetInfo_of_openAt Sample.representable_pairs opened, facts.funding_eq,
    facts.maximum_eq] at summed
  have one : Sample.feePairs.deterministicValueAfterFees 2 0 = .ok 1 := by decide
  have two : (Sample.pairs "sat").deterministicValueAfterFees 2 0 = .ok 2 := by decide
  exact ⟨accepted, data, opened, prepareCloseDataImpl_eq_ok_iff.mpr
    ⟨⟨p⟩, (show false = true → _ by simp)⟩, Outcome.ok.inj (total.symm.trans one),
    Outcome.ok.inj (summed.symm.trans two)⟩

end Spilman
