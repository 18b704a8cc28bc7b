/-
# What an opening takes and gives

An opening swaps proofs for the funding of a channel and for change. The mint keeps a fee
for the inputs, at the rates of their keysets. The client computes the same fee, and splits
what is left between the funding and the change; so the swap balances, unless the inputs are
worth less than their fee. In that case what is left counts as nothing: a channel of nothing
is sized to it, and prepared.
-/

import Spilman.Client.Acceptance

namespace Spilman

open Lib

variable {T : Carriers} (L : Cashu T) (W : WalletOps T)

/-! ## Inputs and their fee -/

/-- The rate of the keyset of a proof. -/
def inputFeePpkOf (inputKeysets : List (KeySetSummary T)) (proof : Proof T) : Nat :=
  match inputKeysets.reverse.find? (·.id = proof.keysetId) with
  | some keyset => keyset.inputFeePpk
  | none => 0

/-- The fee of a mint for the inputs of a swap. -/
def mintInputFee (inputKeysets : List (KeySetSummary T)) (proofs : List (Proof T)) : Nat :=
  Greedy.divCeil (proofs.map (inputFeePpkOf inputKeysets)).sum 1000

/-- What proofs are worth. -/
def worth (proofs : List (Proof T)) : Nat := (proofs.map Proof.amount).sum

/-- The proofs of a source, and the keysets by which their fee is computed. -/
def FundingSource.inputs (source : FundingSource T) (keysetInfoJson : T.Text) :
    Outcome String (List (Proof T) × List (KeySetSummary T)) := do
  match source with
  | token tokenString =>
      let token ← .ofExcept (W.parseToken tokenString)
      let keysetInfo ← parseKeysetInfoFromJson L keysetInfoJson
      let unit := token.unit.getD W.sat
      let summary (finalExpiry : Option Nat) : KeySetSummary T :=
        ⟨keysetInfo.keysetId, unit, true, keysetInfo.inputFeePpk, finalExpiry⟩
      let proofs ← .ofExcept (token.proofs [summary none])
      return (proofs, [summary keysetInfo.finalExpiry])
  | tokenWithKeysets tokenString inputKeysetsJson =>
      let token ← .ofExcept (W.parseToken tokenString)
      let inputKeysets ← parseKeysets L W inputKeysetsJson
      let proofs ← .ofExcept (token.proofs inputKeysets)
      return (proofs, inputKeysets)
  | proofs _ _ inputProofsJson inputKeysetsJson =>
      let proofs ← parseProofs L inputProofsJson
      let inputKeysets ← parseKeysets L W inputKeysetsJson
      return (proofs, inputKeysets)

variable {L W} {inputKeysets : List (KeySetSummary T)} {proofs : List (Proof T)}

/-- The loop adds up amounts and rates. -/
theorem addInputs_eq {value ppk : Nat} {result : Nat × Nat}
    (added : addInputs L inputKeysets proofs value ppk = .ok result) :
    result = (value + worth proofs, ppk + (proofs.map (inputFeePpkOf inputKeysets)).sum) := by
  induction proofs generalizing value ppk with
  | nil => exact (Outcome.ok.inj added).symm
  | cons proof rest ih =>
      simp only [addInputs, Outcome.bind_eq_ok, Outcome.guard_eq_ok, Outcome.ofOption_eq_ok] at added
      obtain ⟨-, -, keyset, found, -, -, added⟩ := added
      have rate : inputFeePpkOf inputKeysets proof = keyset.inputFeePpk := by
        rw [inputFeePpkOf, found]
      rw [ih added, worth, worth, List.map_cons, List.sum_cons, List.map_cons, List.sum_cons, rate,
        Nat.add_assoc, Nat.add_assoc]

/-- What is left after the fee, or nothing. -/
theorem postSwapValue_eq {input : MixedInputFeeResult}
    (computed : computePostSwapValueFromInputKeysets L proofs inputKeysets = .ok input) :
    input.postSwapValue = worth proofs - mintInputFee inputKeysets proofs := by
  simp only [computePostSwapValueFromInputKeysets, Outcome.bind_eq_ok, Outcome.pure_eq,
    Outcome.ok.injEq] at computed
  obtain ⟨sums, added, rfl⟩ := computed
  obtain rfl := addInputs_eq added
  simp only [Nat.zero_add, mintInputFee]

/-! ## Sizing -/

/-- What is left of the inputs is split between funding and change. -/
structure Split (L : Cashu T) (proofs : List (Proof T)) (inputKeysets : List (KeySetSummary T))
    (result : ChannelComputeResult T) : Prop where
  total : result.fundingTokenAmount + result.changeAmountRaw =
    worth proofs - mintInputFee inputKeysets proofs
  proofsJson : result.proofsJson = L.render (L.proofsToJson proofs)

theorem split_of_inner {terms : OpeningTerms} {input : MixedInputFeeResult} {mintUrl : String}
    {unit : T.CurrencyUnit} {channelSecretHex : String} {keysetInfo : KeysetInfo T}
    {unixTime : Nat} {result : ChannelComputeResult T}
    (isInput : computePostSwapValueFromInputKeysets L proofs inputKeysets = .ok input)
    (computed : computeChannelFromProofsInner L terms proofs input mintUrl unit channelSecretHex
      keysetInfo unixTime = .ok result) : Split L proofs inputKeysets result := by
  simp only [computeChannelFromProofsInner, Outcome.bind_eq_ok, Outcome.guard_eq_ok,
    Outcome.mapErr_eq_ok, Outcome.pure_eq, Outcome.ok.injEq] at computed
  obtain ⟨-, -, -, affordable, _, -, _, -, -, -, _, -, _, -, _, -, _, -, rfl⟩ := computed
  refine ⟨?_, rfl⟩
  rw [← postSwapValue_eq isInput]
  exact Nat.add_sub_cancel' affordable

/-- Every source is split alike. -/
theorem split_of_computed {source : FundingSource T} {terms : OpeningTerms}
    {channelSecretHex : String} {keysetInfoJson : T.Text} {unixTime : Nat}
    {result : ChannelComputeResult T}
    (given : source.inputs L W keysetInfoJson = .ok (proofs, inputKeysets))
    (computed : source.computeChannel L W terms channelSecretHex keysetInfoJson unixTime =
      .ok result) : Split L proofs inputKeysets result := by
  cases source with
  | token tokenString =>
      simp only [FundingSource.inputs, Outcome.bind_eq_ok, Outcome.ofExcept_eq_ok, Outcome.pure_eq,
        Outcome.ok.injEq, Prod.mk.injEq] at given
      simp only [FundingSource.computeChannel, computeChannelFromTokenWithMode,
        Outcome.bind_eq_ok, Outcome.mapErr_eq_ok, Outcome.ofExcept_eq_ok] at computed
      obtain ⟨token, isToken, keysetInfo, isKeyset, _, isProofs, rfl, rfl⟩ := given
      obtain ⟨token', isToken', mintUrl, -, keysetInfo', isKeyset', proofs', isProofs', input,
        isInput, inner⟩ := computed
      obtain rfl := Except.ok.inj (isToken.symm.trans isToken')
      obtain rfl := Outcome.ok.inj (isKeyset.symm.trans isKeyset')
      obtain rfl := Except.ok.inj (isProofs.symm.trans isProofs')
      exact split_of_inner isInput inner
  | tokenWithKeysets tokenString inputKeysetsJson =>
      simp only [FundingSource.inputs, Outcome.bind_eq_ok, Outcome.ofExcept_eq_ok, Outcome.pure_eq,
        Outcome.ok.injEq, Prod.mk.injEq] at given
      simp only [FundingSource.computeChannel, computeChannelFromTokenWithInputKeysetsAndMode,
        Outcome.bind_eq_ok, Outcome.mapErr_eq_ok, Outcome.ofExcept_eq_ok] at computed
      obtain ⟨token, isToken, keysets, isKeysets, _, isProofs, rfl, rfl⟩ := given
      obtain ⟨token', isToken', mintUrl, -, keysetInfo, -, keysets', isKeysets', proofs',
        isProofs', input, isInput, inner⟩ := computed
      obtain rfl := Except.ok.inj (isToken.symm.trans isToken')
      obtain rfl := Outcome.ok.inj (isKeysets.symm.trans isKeysets')
      obtain rfl := Except.ok.inj (isProofs.symm.trans isProofs')
      exact split_of_inner isInput inner
  | proofs mintUrl unit inputProofsJson inputKeysetsJson =>
      simp only [FundingSource.inputs, Outcome.bind_eq_ok, Outcome.pure_eq, Outcome.ok.injEq,
        Prod.mk.injEq] at given
      simp only [FundingSource.computeChannel, computeChannelFromProofsWithMode,
        Outcome.bind_eq_ok, Outcome.mapErr_eq_ok] at computed
      obtain ⟨_, isProofs, _, isKeysets, rfl, rfl⟩ := given
      obtain ⟨proofs', isProofs', keysets', isKeysets', input, isInput, keysetInfo, -, inner⟩ :=
        computed
      obtain rfl := Outcome.ok.inj (isProofs.symm.trans isProofs')
      obtain rfl := Outcome.ok.inj (isKeysets.symm.trans isKeysets')
      exact split_of_inner isInput inner

/-! ## The swap -/

/-- The request has the proofs that were given as its inputs. -/
theorem inputs_of_created {paramsJson : T.Text} {channelSecretHex : String}
    {keysetInfoJson inputProofsJson : T.Text} {changeAmountRaw : Nat} {swap : FundingSwapResult T}
    (created : createFundingSwapWithPlainChange L W paramsJson channelSecretHex keysetInfoJson
      inputProofsJson changeAmountRaw = .ok swap)
    (isProofs : parseProofs L inputProofsJson = .ok proofs) :
    ∃ outputs, swap.swapRequestJson = L.render (L.swapRequestToJson ⟨proofs, outputs, false⟩) := by
  simp only [createFundingSwapWithPlainChange, isProofs, Outcome.mapErr_ok, Outcome.ok_bind,
    Outcome.bind_eq_ok, Outcome.pure_eq, Outcome.ok.injEq] at created
  obtain ⟨_, -, _, -, _, -, _, -, _, -, rfl⟩ := created
  exact ⟨_, rfl⟩

/-- **Opening swaps balance**, exactly where the inputs are worth their fee. For every
source, every host and all terms for which an opening is prepared: its request spends the
proofs of the source; its outputs are the funding and the change; they make up the inputs
together with the mint's fee, if and only if the fee is not more than the inputs; and the
capacity is at most what two stages of fees leave of the funding. -/
theorem openingSwap_balanced (trips : L.RoundTrips) (mints : W.Mints L) {host : ClientHost T}
    {source : FundingSource T} {terms : OpeningTerms} (fits : terms.Representable)
    {keysetInfoJson : T.Text} {keysetInfo : KeysetInfo T} {unixTime : Nat}
    (clock : unixTime < 2 ^ 64) {prepared : PreparedOpenChannel T}
    (isKeyset : parseKeysetInfoFromJson L keysetInfoJson = .ok keysetInfo)
    (given : source.inputs L W keysetInfoJson = .ok (proofs, inputKeysets))
    (isPrepared : host.prepareOpenChannel L W source terms keysetInfoJson unixTime =
      .ok prepared) :
    ∃ request afterStage1 maxCapacity,
      (L.parse prepared.swapRequestJson >>= L.swapRequestOfJson) = .ok request ∧
      request.inputs = proofs ∧
      (request.outputs.map BlindedMessage.amount).sum =
        prepared.opening.fundingTokenAmount + prepared.opening.changeAmountRaw ∧
      (worth request.inputs = mintInputFee inputKeysets proofs +
          (request.outputs.map BlindedMessage.amount).sum ↔
        mintInputFee inputKeysets proofs ≤ worth proofs) ∧
      keysetInfo.deterministicValueAfterFees prepared.opening.fundingTokenAmount terms.maxAmount =
        .ok afterStage1 ∧
      keysetInfo.deterministicValueAfterFees afterStage1 terms.maxAmount = .ok maxCapacity ∧
      prepared.opening.capacity ≤ maxCapacity := by
  simp only [ClientHost.prepareOpenChannel, ClientHost.prepareOpenChannelFromComputeResult,
    Outcome.bind_eq_ok, Outcome.mapErr_eq_ok, Outcome.ofExcept_eq_ok, Outcome.pure_eq,
    Outcome.ok.injEq] at isPrepared
  obtain ⟨channelSecretHex, -, result, computed, swap, created, channelId, -, rfl⟩ := isPrepared
  have split := split_of_computed given computed
  obtain ⟨keysetInfo', isKeyset', ⟨s⟩⟩ := exists_sizing computed
  obtain rfl := Outcome.ok.inj (isKeyset.symm.trans isKeyset')
  have keyset : s.channel.keysetInfo = keysetInfo := by rw [s.channel_eq]
  obtain ⟨f⟩ := exists_fundingSwap isKeyset s.secret_eq (s.reads trips fits clock) keyset created
  obtain ⟨-, ⟨afterStage1, maxCapacity, stage1, stage2, affordable⟩, -⟩ :=
    ChannelParameters.new_eq_ok_iff.mp s.accepted
  -- the request, as it was written and as it is read
  have isProofs : parseProofs L result.proofsJson = .ok proofs := by
    rw [split.proofsJson, parseProofs, trips.parse_render, Outcome.ofExcept_ok, Outcome.ok_bind,
      trips.proofsOfJson_toJson, Outcome.ofExcept_ok]
  obtain ⟨outputs, written⟩ := inputs_of_created created isProofs
  have read : (L.parse swap.swapRequestJson >>= L.swapRequestOfJson) =
      .ok ⟨proofs, outputs, false⟩ := by
    rw [written, trips.parse_render]
    exact trips.swapRequestOfJson_toJson _
  have isOutputs : outputs = f.outputs := by
    rw [f.swapRequestJson_eq, trips.parse_render] at read
    have same := Except.ok.inj ((trips.swapRequestOfJson_toJson _).symm.trans read)
    exact (congrArg SwapRequest.outputs same).symm
  have total : (outputs.map BlindedMessage.amount).sum =
      result.fundingTokenAmount + result.changeAmountRaw := by
    rw [isOutputs, f.sum_outputs mints, s.channel_eq]
  refine ⟨_, afterStage1, maxCapacity, read, rfl, total, ?_, stage1, stage2, affordable⟩
  show worth proofs = mintInputFee inputKeysets proofs + (outputs.map BlindedMessage.amount).sum ↔ _
  rw [total, split.total]
  omega

namespace Sample

/-- A wallet whose mint has one fee rate for all inputs. -/
def ratedWallet (inputFeePpk : Nat) : WalletOps carriers :=
  { walletOps with
    keysetsOfJson := fun json => (walletOps.keysetsOfJson json).map fun keysets =>
      keysets.map fun keyset => { keyset with inputFeePpk } }

/-- All that three units of ecash are good for. -/
def preparesAll (inputFeePpk : Nat) : Outcome OpenChannelError (PreparedOpenChannel carriers) :=
  newClient.prepareOpenChannel library (ratedWallet inputFeePpk) ecash
    { openingTerms with requestedFundingTokenAmount := none } ((pairs "sat").toJson library) 1000

/-- The inputs of that opening, as they are listed. -/
def allInputs (inputFeePpk : Nat) :
    Outcome String (List (Proof carriers) × List (KeySetSummary carriers)) :=
  ecash.inputs library (ratedWallet inputFeePpk) ((pairs "sat").toJson library)

/-- The opening is prepared, and its inputs are listed. -/
theorem prepares_rated : (preparesAll 1000).okAnd (fun _ => (allInputs 1000).okAnd fun inputs =>
    decide (mintInputFee inputs.2 inputs.1 ≤ worth inputs.1)) = true := by
  decide +kernel

end Sample

/-- Three units at a fee of one: two are left for the channel. -/
theorem openingSwap_balanced_rated : ∃ prepared request inputs,
    Sample.preparesAll 1000 = .ok prepared ∧ Sample.allInputs 1000 = .ok inputs ∧
      (Sample.library.parse prepared.swapRequestJson >>= Sample.library.swapRequestOfJson) =
        .ok request ∧
      worth request.inputs = mintInputFee inputs.2 inputs.1 +
        (request.outputs.map BlindedMessage.amount).sum := by
  obtain ⟨prepared, isPrepared, checked⟩ := Outcome.exists_of_okAnd Sample.prepares_rated
  obtain ⟨inputs, given, checked⟩ := Outcome.exists_of_okAnd checked
  obtain ⟨request, _, _, submitted, -, -, balanced, -⟩ :=
    openingSwap_balanced Sample.roundTrips
      (show (Sample.ratedWallet 1000).Mints Sample.library from Sample.walletOps_mints)
      ⟨by decide, by decide⟩ (by decide) Sample.parseKeysetInfo_pairs given isPrepared
  exact ⟨prepared, request, inputs, isPrepared, given, submitted,
    balanced.mpr (of_decide_eq_true checked)⟩

/-- Three units at a fee of four: an opening is prepared that has no outputs at all, and the
inputs do not even make up the fee. -/
theorem openingSwap_unbalanced : ∃ prepared request inputs,
    Sample.preparesAll 4000 = .ok prepared ∧ Sample.allInputs 4000 = .ok inputs ∧
      (Sample.library.parse prepared.swapRequestJson >>= Sample.library.swapRequestOfJson) =
        .ok request ∧
      request.outputs = [] ∧ worth request.inputs = 3 ∧ mintInputFee inputs.2 inputs.1 = 4 := by
  have ran : (Sample.preparesAll 4000).okAnd (fun prepared => (Sample.allInputs 4000).okAnd
      fun inputs => (Outcome.ofExcept (Sample.library.parse prepared.swapRequestJson >>=
        Sample.library.swapRequestOfJson)).okAnd fun request =>
          decide (request.outputs.length = 0 ∧ worth request.inputs = 3 ∧
            mintInputFee inputs.2 inputs.1 = 4)) = true := by
    decide +kernel
  obtain ⟨prepared, isPrepared, ran⟩ := Outcome.exists_of_okAnd ran
  obtain ⟨inputs, given, ran⟩ := Outcome.exists_of_okAnd ran
  obtain ⟨request, submitted, ran⟩ := Outcome.exists_of_okAnd ran
  obtain ⟨nothing, value, fee⟩ := of_decide_eq_true ran
  exact ⟨prepared, request, inputs, isPrepared, given, Outcome.ofExcept_eq_ok.mp submitted,
    List.length_eq_zero_iff.mp nothing, value, fee⟩

end Spilman
