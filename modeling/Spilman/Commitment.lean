/-
# What a commitment pays

Three results about the commitment to a balance, over any keyset and any output
maximum. Every balance up to the capacity can be committed to
(`forBalance_of_le_capacity`). The outputs of both parties add up to what stage 1
leaves of the funding, which is the funding amount less its own input fee
(`createSwapRequest_conserves_value`). And a larger balance never pays the receiver
less (`forBalance_monotone`).

The receiver's nominal value is found by an upward search, so all three rest on
what a finished search has seen, not on a formula for the fee.
-/

import Spilman.Outputs
import Spilman.Sample

namespace Spilman

open Lib

variable {T : Carriers}

/-! ## Every balance up to the capacity can be committed to -/

/-- The part of the parameters that decides how amounts are split, once `new` has
accepted them: the capacity is what two stages of fees leave, at most. -/
structure Achievable (params : ChannelParameters T) : Prop where
  cheap : params.keysetInfo.inputFeePpk ≤ 999
  stages : ∃ afterStage1 maxCapacity,
    params.getValueAfterStage1 = .ok afterStage1 ∧
    params.keysetInfo.deterministicValueAfterFees afterStage1 params.maximumAmountForOneOutput =
      .ok maxCapacity ∧
    params.capacity ≤ maxCapacity

section Accepted

variable {senderPubkey receiverPubkey : T.PublicKey} {mint : String} {unit : T.CurrencyUnit}
  {capacity fundingTokenAmount expiryTimestamp setupTimestamp : Nat} {keysetInfo : KeysetInfo T}
  {maximumAmountForOneOutput : Nat} {channelSecret : Bytes 32} {params : ChannelParameters T}

theorem achievable_of_new
    (accepted : ChannelParameters.new senderPubkey receiverPubkey mint unit capacity
      fundingTokenAmount expiryTimestamp setupTimestamp keysetInfo maximumAmountForOneOutput
      channelSecret = .ok params) (mode : CommitmentMode) :
    Achievable (params.withCommitmentMode mode) := by
  obtain ⟨cheap, stages, rfl⟩ := ChannelParameters.new_eq_ok_iff.mp accepted
  exact ⟨cheap, stages⟩

theorem achievable_of_readFrom {L : Cashu T} {json : Json}
    (read : ChannelParameters.ReadFrom L json keysetInfo channelSecret params) :
    Achievable params := by
  have cheap := read.cheap
  have stages := read.achievable
  rw [← read.keysetInfo_eq] at cheap stages
  exact ⟨cheap, stages⟩

end Accepted

/-- A keyset with four denominations and a fee of a tenth of a unit. -/
def Sample.keyset : KeysetInfo Sample.carriers :=
  .new "00" "sat" (SortedMap.ofList [(1, Sample.point 5), (2, Sample.point 6),
    (4, Sample.point 7), (8, Sample.point 9)]) 100 none

/-- A channel over it that can pay up to 18 of the 20 it is funded with. -/
def Sample.params : ChannelParameters Sample.carriers where
  commitmentMode := .ordinary
  senderPubkey := Sample.point 3
  receiverPubkey := Sample.point 4
  mint := "https://mint"
  unit := "sat"
  capacity := 18
  fundingTokenAmount := 20
  expiryTimestamp := 2000
  setupTimestamp := 1000
  keysetInfo := Sample.keyset
  maximumAmountForOneOutput := 0
  channelSecret := Sample.bytes32 11

theorem Sample.params_accepted :
    ChannelParameters.new (Sample.point 3) (Sample.point 4) "https://mint/" "sat" 18 20 2000
      1000 Sample.keyset 0 (Sample.bytes32 11) = .ok Sample.params := by
  decide +kernel

section Achievable

variable {params : ChannelParameters T}

/-- Fees never add value, so the capacity is at most the funding amount. -/
theorem Achievable.capacity_le (achievable : Achievable params) :
    params.capacity ≤ params.fundingTokenAmount := by
  obtain ⟨afterStage1, maxCapacity, stage1, stage2, capacity⟩ := achievable.stages
  exact capacity.trans ((deterministicValueAfterFees_le stage2).trans
    (deterministicValueAfterFees_le stage1))

/-- With the unit denomination, an achievable channel splits every amount up to
its funding: either nothing is funded, or the split of the funding amount has
shown that no denomination is zero. -/
theorem Achievable.splits (achievable : Achievable params)
    (unitUsable : 1 ∈ usable params.maximumAmountForOneOutput
      params.keysetInfo.amountsLargestFirst)
    {amount : Nat} (small : amount ≤ params.fundingTokenAmount) :
    Splits params.keysetInfo params.maximumAmountForOneOutput amount := by
  obtain ⟨afterStage1, -, stage1, -, -⟩ := achievable.stages
  rcases (deterministicValueAfterFees_eq_ok_iff.mp stage1).1 with nothing | ⟨positive, -⟩
  · exact .inl (by omega)
  · exact .inr ⟨positive, Greedy.remainder_eq_zero unitUsable amount⟩

/-- The search for the receiver's nominal value ends at or below what stage 1
leaves: that amount is itself worth the capacity. -/
theorem Achievable.exists_search (achievable : Achievable params)
    (unitUsable : 1 ∈ usable params.maximumAmountForOneOutput
      params.keysetInfo.amountsLargestFirst)
    (fits : params.fundingTokenAmount < 2 ^ 64) {balance : Nat}
    (within : balance ≤ params.capacity) :
    ∃ afterStage1 search, params.getValueAfterStage1 = .ok afterStage1 ∧
      afterStage1 ≤ params.fundingTokenAmount ∧
      params.keysetInfo.inverseDeterministicValueAfterFees balance
        params.maximumAmountForOneOutput = .ok search ∧
      search.nominalValue ≤ afterStage1 := by
  obtain ⟨afterStage1, maxCapacity, stage1, stage2, capacity⟩ := achievable.stages
  have small := deterministicValueAfterFees_le stage1
  have reached := deterministicValueAfterFees_le stage2
  obtain ⟨search, found, below⟩ := exists_inverse_eq_ok (show balance ≤ afterStage1 by omega)
    (by omega) (fun nominal _ bound => achievable.splits unitUsable (bound.trans small)) stage2
    (by omega)
  exact ⟨afterStage1, search, stage1, small, found, below⟩

theorem Achievable.forBalance (achievable : Achievable params)
    (unitUsable : 1 ∈ usable params.maximumAmountForOneOutput
      params.keysetInfo.amountsLargestFirst)
    (fits : params.fundingTokenAmount < 2 ^ 64) {balance : Nat}
    (within : balance ≤ params.capacity) :
    ∃ afterStage1 search, params.getValueAfterStage1 = .ok afterStage1 ∧
      params.keysetInfo.inverseDeterministicValueAfterFees balance
        params.maximumAmountForOneOutput = .ok search ∧
      search.nominalValue ≤ afterStage1 ∧
      CommitmentOutputs.forBalance balance params =
        .ok (commitmentOf params search.nominalValue (afterStage1 - search.nominalValue)) := by
  obtain ⟨afterStage1, search, stage1, small, found, below⟩ :=
    achievable.exists_search unitUsable fits within
  refine ⟨afterStage1, search, stage1, found, below, CommitmentOutputs.forBalance_eq_ok_iff.mpr
    ⟨within, afterStage1, search, stage1, found, below, ?_, ?_, rfl⟩⟩
  · exact achievable.splits unitUsable (by omega)
  · exact achievable.splits unitUsable (by omega)

end Achievable

/-- **Every balance up to the capacity is payable.** The search for the receiver's
nominal value ends, it ends at no more than what stage 1 leaves, and the
commitment is built. -/
theorem forBalance_of_le_capacity {senderPubkey receiverPubkey : T.PublicKey} {mint : String}
    {unit : T.CurrencyUnit} {capacity fundingTokenAmount expiryTimestamp setupTimestamp : Nat}
    {keysetInfo : KeysetInfo T} {maximumAmountForOneOutput : Nat} {channelSecret : Bytes 32}
    {params : ChannelParameters T}
    (accepted : ChannelParameters.new senderPubkey receiverPubkey mint unit capacity
      fundingTokenAmount expiryTimestamp setupTimestamp keysetInfo maximumAmountForOneOutput
      channelSecret = .ok params) (mode : CommitmentMode)
    (unitUsable : 1 ∈ usable maximumAmountForOneOutput keysetInfo.amountsLargestFirst)
    (noOverflow : fundingTokenAmount < 2 ^ 64) {balance : Nat} (within : balance ≤ capacity) :
    ∃ search afterStage1 commitment,
      keysetInfo.inverseDeterministicValueAfterFees balance maximumAmountForOneOutput =
        .ok search ∧
      (params.withCommitmentMode mode).getValueAfterStage1 = .ok afterStage1 ∧
      search.nominalValue ≤ afterStage1 ∧
      CommitmentOutputs.forBalance balance (params.withCommitmentMode mode) = .ok commitment := by
  have achievable := achievable_of_new accepted mode
  obtain ⟨-, -, rfl⟩ := ChannelParameters.new_eq_ok_iff.mp accepted
  obtain ⟨afterStage1, search, stage1, found, below, committed⟩ :=
    achievable.forBalance unitUsable noOverflow within
  exact ⟨search, afterStage1, _, found, stage1, below, committed⟩

theorem forBalance_of_le_capacity_ten :
    ∃ search afterStage1 commitment,
      Sample.keyset.inverseDeterministicValueAfterFees 10 0 = .ok search ∧
      (Sample.params.withCommitmentMode .ordinary).getValueAfterStage1 = .ok afterStage1 ∧
      search.nominalValue ≤ afterStage1 ∧
      CommitmentOutputs.forBalance 10 (Sample.params.withCommitmentMode .ordinary) =
        .ok commitment :=
  forBalance_of_le_capacity Sample.params_accepted .ordinary (by decide +kernel) (by decide)
    (by decide)

/-! ## Value is conserved -/

section Conservation

variable (L : Cashu T) {params : ChannelParameters T}

/-- The amounts a context offers sum to its nominal value. -/
theorem sum_of_getBlindedMessages {context : String} {amount : Nat}
    {overrideKeysetId : Option T.Id} {messages : List (BlindedMessage T)}
    (splits : Splits params.keysetInfo params.maximumAmountForOneOutput amount)
    (built : (outputsFor context amount params).getBlindedMessages L overrideKeysetId =
      .ok messages) :
    (messages.map BlindedMessage.amount).sum = amount := by
  rw [amounts_of_getBlindedMessages L built, sum_spread_greedyList splits]

/-- The outputs of both parties sum to what stage 1 leaves. -/
theorem sum_of_createSwapRequest {balance : Nat} {commitment : CommitmentOutputs T}
    (committed : CommitmentOutputs.forBalance balance params = .ok commitment)
    {fundingProofs : List (Proof T)} {overrideKeysetId : Option T.Id} {request : SwapRequest T}
    (built : commitment.createSwapRequest L fundingProofs overrideKeysetId = .ok request) :
    params.getValueAfterStage1 = .ok (request.outputs.map BlindedMessage.amount).sum := by
  obtain ⟨-, afterStage1, search, stage1, -, enough, receiver, sender, rfl⟩ :=
    CommitmentOutputs.forBalance_eq_ok_iff.mp committed
  unfold CommitmentOutputs.createSwapRequest at built
  simp only [Outcome.bind_eq_ok, Outcome.pure_eq, Outcome.ok.injEq] at built
  obtain ⟨receiverMessages, madeReceiver, senderMessages, madeSender, rfl⟩ := built
  have sorted : ((sortByKey BlindedMessage.amount (receiverMessages ++ senderMessages)).map
      BlindedMessage.amount).sum = ((receiverMessages ++ senderMessages).map
      BlindedMessage.amount).sum := ((sortByKey_perm _ _).map _).sum_eq
  rw [stage1]
  simp only [sorted, List.map_append, List.sum_append,
    sum_of_getBlindedMessages L receiver madeReceiver,
    sum_of_getBlindedMessages L sender madeSender, Outcome.ok.injEq]
  omega

end Conservation

/-- **Value is conserved through both parties' outputs.** They sum to what stage 1
leaves, and that is the funding amount less the fee on the funding outputs,
without saturation. -/
theorem createSwapRequest_conserves_value (L : Cashu T) {senderPubkey receiverPubkey : T.PublicKey}
    {mint : String} {unit : T.CurrencyUnit}
    {capacity fundingTokenAmount expiryTimestamp setupTimestamp : Nat}
    {keysetInfo : KeysetInfo T} {maximumAmountForOneOutput : Nat} {channelSecret : Bytes 32}
    {params : ChannelParameters T}
    (accepted : ChannelParameters.new senderPubkey receiverPubkey mint unit capacity
      fundingTokenAmount expiryTimestamp setupTimestamp keysetInfo maximumAmountForOneOutput
      channelSecret = .ok params) (mode : CommitmentMode)
    (noOverflow : fundingTokenAmount < 2 ^ 64)
    (noFeeOverflow : ∀ list, OrderedListOfAmounts.fromTarget fundingTokenAmount
      maximumAmountForOneOutput keysetInfo = .ok list →
      keysetInfo.inputFeePpk * list.len < 2 ^ 64)
    {balance : Nat} {commitment : CommitmentOutputs T}
    (committed : CommitmentOutputs.forBalance balance (params.withCommitmentMode mode) =
      .ok commitment)
    {fundingProofs : List (Proof T)} {overrideKeysetId : Option T.Id} {request : SwapRequest T}
    (built : commitment.createSwapRequest L fundingProofs overrideKeysetId = .ok request) :
    ∃ afterStage1 funding,
      (params.withCommitmentMode mode).getValueAfterStage1 = .ok afterStage1 ∧
      DeterministicOutputsForOneContext.new "funding" fundingTokenAmount
        (params.withCommitmentMode mode) = .ok funding ∧
      (request.outputs.map BlindedMessage.amount).sum = afterStage1 ∧
      afterStage1 +
        Greedy.divCeil (keysetInfo.inputFeePpk * funding.orderedAmounts.len) 1000 =
        fundingTokenAmount := by
  have conserved := sum_of_createSwapRequest L committed built
  obtain ⟨cheap, ⟨afterStage1, -, stage1, -, -⟩, rfl⟩ :=
    ChannelParameters.new_eq_ok_iff.mp accepted
  have same : (request.outputs.map BlindedMessage.amount).sum = afterStage1 :=
    Outcome.ok.inj (conserved.symm.trans stage1)
  obtain ⟨splits, value⟩ := deterministicValueAfterFees_eq_ok_iff.mp stage1
  refine ⟨afterStage1, outputsFor "funding" fundingTokenAmount _, stage1,
    DeterministicOutputsForOneContext.new_eq_ok_iff.mpr ⟨splits, rfl⟩, same, ?_⟩
  have exact := Greedy.afterFee_add_fee (cheap.trans (by decide))
    (usable maximumAmountForOneOutput keysetInfo.amountsLargestFirst) fundingTokenAmount
  rw [value, valueAfterFees_greedyList splits noOverflow
    (noFeeOverflow _ (fromTarget_of_splits splits))]
  rw [Greedy.fee, ← greedyList_len] at exact
  exact exact

theorem createSwapRequest_conserves_value_ten :
    ∃ commitment request,
      CommitmentOutputs.forBalance 10 (Sample.params.withCommitmentMode .ordinary) =
        .ok commitment ∧
      commitment.createSwapRequest Sample.library [] none = .ok request ∧
      ∃ afterStage1 funding,
        (Sample.params.withCommitmentMode .ordinary).getValueAfterStage1 = .ok afterStage1 ∧
        DeterministicOutputsForOneContext.new "funding" 20
          (Sample.params.withCommitmentMode .ordinary) = .ok funding ∧
        (request.outputs.map BlindedMessage.amount).sum = afterStage1 ∧
        afterStage1 + Greedy.divCeil (100 * funding.orderedAmounts.len) 1000 = 20 := by
  have committed : CommitmentOutputs.forBalance 10 (Sample.params.withCommitmentMode .ordinary) =
      .ok (commitmentOf (Sample.params.withCommitmentMode .ordinary) 11 8) := by decide +kernel
  obtain ⟨request, built⟩ := Outcome.exists_of_isOk (show ((commitmentOf
    (Sample.params.withCommitmentMode .ordinary) 11 8).createSwapRequest Sample.library []
    none).isOk = true by decide +kernel)
  refine ⟨_, request, committed, built, createSwapRequest_conserves_value Sample.library
    Sample.params_accepted .ordinary (by decide) (fun list split => ?_) committed built⟩
  obtain ⟨-, rfl⟩ := fromTarget_eq_ok_iff.mp split
  decide +kernel

/-! ## A larger balance never pays less -/

section Monotone

variable {params : ChannelParameters T}

/-- The search for a larger balance ends no earlier. -/
theorem inverse_monotone {keysetInfo : KeysetInfo T} {maximumAmount balance larger : Nat}
    {search searchLarger : InverseFeeResult} (le : balance ≤ larger) (fits : larger < 2 ^ 64)
    (found : keysetInfo.inverseDeterministicValueAfterFees balance maximumAmount = .ok search)
    (foundLarger : keysetInfo.inverseDeterministicValueAfterFees larger maximumAmount =
      .ok searchLarger) :
    search.nominalValue ≤ searchLarger.nominalValue := by
  obtain ⟨-, -, refused, -⟩ := of_inverse_eq_ok (by omega) found
  obtain ⟨above, -, -, worth⟩ := of_inverse_eq_ok fits foundLarger
  by_contra earlier
  -- a smaller nominal value would have ended the first search
  obtain ⟨value, computed, small⟩ := refused searchLarger.nominalValue (by omega) (by omega)
  have := (worth value computed).2
  omega

/-- Searching for what a nominal value is really worth finds it again. -/
theorem inverse_idempotent {keysetInfo : KeysetInfo T} {maximumAmount balance value : Nat}
    {search : InverseFeeResult} (fits : balance < 2 ^ 64)
    (found : keysetInfo.inverseDeterministicValueAfterFees balance maximumAmount = .ok search)
    (computed : keysetInfo.deterministicValueAfterFees search.nominalValue maximumAmount =
      .ok value) :
    ∃ again, keysetInfo.inverseDeterministicValueAfterFees value maximumAmount = .ok again ∧
      keysetInfo.deterministicValueAfterFees again.nominalValue maximumAmount = .ok value := by
  obtain ⟨above, bound, refused, worth⟩ := of_inverse_eq_ok fits found
  obtain ⟨-, reached⟩ := worth value computed
  have most := deterministicValueAfterFees_le computed
  by_cases zero : value = 0
  · subst zero
    exact ⟨⟨0, 0⟩, by rw [KeysetInfo.inverseDeterministicValueAfterFees, if_pos rfl],
      deterministicValueAfterFees_zero keysetInfo maximumAmount⟩
  by_cases charged : keysetInfo.inputFeePpk = 0
  · have free : search.nominalValue = value := by
      obtain ⟨splits, rfl⟩ := deterministicValueAfterFees_eq_ok_iff.mp computed
      rw [OrderedListOfAmounts.valueAfterFees]
      exact ((if_pos charged).trans (nominalTotal_greedyList splits bound)).symm
    refine ⟨⟨value, value⟩, ?_, free ▸ computed⟩
    rw [KeysetInfo.inverseDeterministicValueAfterFees, if_neg zero, if_pos charged]
  · refine ⟨⟨search.nominalValue, value⟩, (inverse_eq_ok_iff zero charged (by omega)).mpr
      ⟨most, bound, computed, le_rfl, fun nominal from' before => ?_⟩, computed⟩
    obtain ⟨less, computedLess, small⟩ := refused nominal (by omega) before
    exact ⟨less, computedLess, by omega⟩

/-- The de facto balance of a balance is the value of the nominal amount found for it. -/
theorem getDeFactoBalance_eq_ok {balance value : Nat} {search : InverseFeeResult}
    (found : params.keysetInfo.inverseDeterministicValueAfterFees balance
      params.maximumAmountForOneOutput = .ok search)
    (computed : params.keysetInfo.deterministicValueAfterFees search.nominalValue
      params.maximumAmountForOneOutput = .ok value) :
    params.getDeFactoBalance balance = .ok value := by
  rw [ChannelParameters.getDeFactoBalance, found, Outcome.ok_bind, computed]

/-- Where the product does not overflow, a split worth a balance has the balance and
its fee in it. -/
theorem add_fee_le_sum {keysetInfo : KeysetInfo T} {maximumAmount nominal balance : Nat}
    (cheap : keysetInfo.inputFeePpk ≤ 999) (splits : Splits keysetInfo maximumAmount nominal)
    (fits : nominal < 2 ^ 64)
    (worth : balance ≤ (greedyList nominal maximumAmount keysetInfo).valueAfterFees)
    (feeFits : keysetInfo.inputFeePpk * (greedyList nominal maximumAmount keysetInfo).len <
      2 ^ 64) :
    balance + Greedy.divCeil
        (keysetInfo.inputFeePpk * (greedyList nominal maximumAmount keysetInfo).len) 1000 ≤
      (greedyList nominal maximumAmount keysetInfo).amounts.sum := by
  have exact := Greedy.afterFee_add_fee (cheap.trans (by decide))
    (usable maximumAmount keysetInfo.amountsLargestFirst) nominal
  rw [valueAfterFees_greedyList splits fits feeFits] at worth
  rw [Greedy.fee, ← greedyList_len] at exact
  rw [greedyList_sum splits]
  omega

/-- Commitments over the same parameters are told apart by the receiver's nominal
value alone: the sender gets the rest. -/
theorem commitmentOf_inj_iff {afterStage1 nominal nominal' : Nat} :
    commitmentOf params nominal (afterStage1 - nominal) =
        commitmentOf params nominal' (afterStage1 - nominal') ↔ nominal = nominal' := by
  constructor
  · intro same
    exact congrArg (fun commitment => commitment.receiverOutputs.amount) same
  · rintro rfl
    rfl

end Monotone

/-- **A larger balance never pays the receiver less.** Both balances are payable; the
receiver's outputs are worth the balance after their own fees, as the code counts
them and, where that product does not overflow, as a mint does; nominal values
follow the balances; equal nominal values mean equal commitments; and what a
balance really pays is a balance that pays exactly itself. -/
theorem forBalance_monotone {senderPubkey receiverPubkey : T.PublicKey} {mint : String}
    {unit : T.CurrencyUnit} {capacity fundingTokenAmount expiryTimestamp setupTimestamp : Nat}
    {keysetInfo : KeysetInfo T} {maximumAmountForOneOutput : Nat} {channelSecret : Bytes 32}
    {params : ChannelParameters T}
    (accepted : ChannelParameters.new senderPubkey receiverPubkey mint unit capacity
      fundingTokenAmount expiryTimestamp setupTimestamp keysetInfo maximumAmountForOneOutput
      channelSecret = .ok params) (mode : CommitmentMode)
    (unitUsable : 1 ∈ usable maximumAmountForOneOutput keysetInfo.amountsLargestFirst)
    (fits : fundingTokenAmount < 2 ^ 64) {balance larger : Nat} (le : balance ≤ larger)
    (within : larger ≤ capacity) :
    ∃ commitment commitmentLarger deFacto,
      CommitmentOutputs.forBalance balance (params.withCommitmentMode mode) = .ok commitment ∧
      CommitmentOutputs.forBalance larger (params.withCommitmentMode mode) =
        .ok commitmentLarger ∧
      balance ≤ commitment.receiverOutputs.orderedAmounts.valueAfterFees ∧
      (keysetInfo.inputFeePpk * commitment.receiverOutputs.orderedAmounts.len < 2 ^ 64 →
        balance + Greedy.divCeil
            (keysetInfo.inputFeePpk * commitment.receiverOutputs.orderedAmounts.len) 1000 ≤
          commitment.receiverOutputs.orderedAmounts.amounts.sum) ∧
      commitment.receiverOutputs.amount ≤ commitmentLarger.receiverOutputs.amount ∧
      commitmentLarger.senderOutputs.amount ≤ commitment.senderOutputs.amount ∧
      (commitment = commitmentLarger ↔
        commitment.receiverOutputs.amount = commitmentLarger.receiverOutputs.amount) ∧
      (params.withCommitmentMode mode).getDeFactoBalance balance = .ok deFacto ∧
      balance ≤ deFacto ∧
      (params.withCommitmentMode mode).getDeFactoBalance deFacto = .ok deFacto := by
  have achievable := achievable_of_new accepted mode
  obtain ⟨cheap, -, rfl⟩ := ChannelParameters.new_eq_ok_iff.mp accepted
  obtain ⟨afterStage1, search, stage1, found, below, committed⟩ :=
    achievable.forBalance unitUsable fits (le.trans within)
  obtain ⟨afterStage1', searchLarger, stage1', foundLarger, belowLarger, committedLarger⟩ :=
    achievable.forBalance unitUsable fits within
  obtain rfl : afterStage1 = afterStage1' := Outcome.ok.inj (stage1.symm.trans stage1')
  have small : afterStage1 ≤ fundingTokenAmount := deterministicValueAfterFees_le stage1
  have bounded : capacity ≤ fundingTokenAmount := achievable.capacity_le
  have splits : Splits keysetInfo maximumAmountForOneOutput search.nominalValue :=
    achievable.splits unitUsable (below.trans small)
  have computed := deterministicValueAfterFees_eq_ok_iff.mpr ⟨splits, rfl⟩
  have worth := ((of_inverse_eq_ok (by omega) found).2.2.2 _ computed).2
  have nominals := inverse_monotone le (by omega) found foundLarger
  obtain ⟨again, foundAgain, computedAgain⟩ := inverse_idempotent (by omega) found computed
  refine ⟨_, _, _, committed, committedLarger, worth, add_fee_le_sum cheap splits (by omega) worth,
    nominals, Nat.sub_le_sub_left nominals afterStage1, commitmentOf_inj_iff,
    getDeFactoBalance_eq_ok found computed, worth, getDeFactoBalance_eq_ok foundAgain computedAgain⟩

theorem forBalance_monotone_nine_ten :
    ∃ commitment commitmentLarger deFacto,
      CommitmentOutputs.forBalance 9 (Sample.params.withCommitmentMode .ordinary) =
        .ok commitment ∧
      CommitmentOutputs.forBalance 10 (Sample.params.withCommitmentMode .ordinary) =
        .ok commitmentLarger ∧
      9 ≤ commitment.receiverOutputs.orderedAmounts.valueAfterFees ∧
      (100 * commitment.receiverOutputs.orderedAmounts.len < 2 ^ 64 →
        9 + Greedy.divCeil (100 * commitment.receiverOutputs.orderedAmounts.len) 1000 ≤
          commitment.receiverOutputs.orderedAmounts.amounts.sum) ∧
      commitment.receiverOutputs.amount ≤ commitmentLarger.receiverOutputs.amount ∧
      commitmentLarger.senderOutputs.amount ≤ commitment.senderOutputs.amount ∧
      (commitment = commitmentLarger ↔
        commitment.receiverOutputs.amount = commitmentLarger.receiverOutputs.amount) ∧
      (Sample.params.withCommitmentMode .ordinary).getDeFactoBalance 9 = .ok deFacto ∧
      9 ≤ deFacto ∧
      (Sample.params.withCommitmentMode .ordinary).getDeFactoBalance deFacto = .ok deFacto :=
  forBalance_monotone Sample.params_accepted .ordinary (by decide +kernel) (by decide) (by decide)
    (by decide)

end Spilman
