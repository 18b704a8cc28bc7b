/-
# What an accepted channel has to do with the host's policy

The receiver's host sets a minimum capacity, a minimum lifetime and a largest
output for each unit, and trusts some keysets of some mints. Acceptance compares
the parameters a sender has sent with all of this. Two comparisons say less than
they seem to.

The largest output is compared as a number, but a maximum of zero in the
parameters means that there is none; and the earliest expiry is computed with
wrapping addition. `respectsPolicy_iff` says which accepted channels are within
the policy nevertheless.

The unit of the parameters selects the policy, and the keyset is looked up by its
identifier. Nothing compares the unit of the one with the unit of the other, so a
host that trusts keysets of two units prices a channel in one unit that is funded
in another. `denominated_iff_singleUnit` says that the hosts with a single unit are
safe, and that they are the only ones as long as senders can fund what is offered.
-/

import Spilman.SampleChannel

namespace Spilman

open Lib

variable {T : Carriers} {C : Type} {L : Cashu T}

/-! ## Denominations of the outputs -/

/-- A keyset that was read from JSON lists its amounts in decreasing order. -/
theorem sorted_of_parseKeysetInfo {text : T.Text} {info : KeysetInfo T}
    (parsed : parseKeysetInfoFromJson L text = .ok info) :
    info.amountsLargestFirst.Pairwise (· ≥ ·) := by
  simp only [parseKeysetInfoFromJson, keysetInfoOfJson, Outcome.bind_eq_ok, Outcome.pure_eq,
    Outcome.ok.injEq] at parsed
  obtain ⟨_, -, _, -, _, -, _, -, _, -, _, -, _, -, _, -, rfl⟩ := parsed
  exact KeysetInfo.new_sorted ..

/-- Without a maximum, the largest amount of a split is at least as large as any
denomination that fits into the target. -/
theorem exists_mem_greedyList_ge {target amount : Nat} {info : KeysetInfo T}
    (sorted : info.amountsLargestFirst.Pairwise (· ≥ ·))
    (listed : amount ∈ info.amountsLargestFirst) (positive : 0 < amount) (fits : amount ≤ target) :
    ∃ coin ∈ (greedyList target 0 info).amounts, amount ≤ coin := by
  have all : usable 0 info.amountsLargestFirst = info.amountsLargestFirst := by simp [usable]
  obtain ⟨pile, taken, le⟩ := Greedy.exists_coin_ge sorted listed positive fits
  refine ⟨pile.1, ?_, le⟩
  rw [greedyList_amounts, all, Greedy.mem_spread]
  exact ⟨pile, taken, (Greedy.of_mem_coins taken).2.2.1.ne', rfl⟩

/-- The amounts of verified funding proofs are those of the funding split. -/
theorem amount_mem_of_funded {params : ChannelParameters T} {proofs : List (Proof T)}
    (valid : verifyValidChannel L proofs params = .ok []) (amount : Nat) :
    amount ∈ proofs.map Proof.amount ↔ amount ∈ (greedyList params.fundingTokenAmount
      params.maximumAmountForOneOutput params.keysetInfo).amounts := by
  obtain ⟨expected, derived, matched, -⟩ := of_verifyValidChannel valid
  simp only [fundingSecrets, Outcome.bind_eq_ok,
    DeterministicOutputsForOneContext.new_eq_ok_iff] at derived
  obtain ⟨_, ⟨-, rfl⟩, derived⟩ := derived
  have amounts : proofs.map Proof.amount =
      expected.map DeterministicSecretWithBlinding.amount :=
    map_eq_map_of_forall₂ matched fun _ _ same => same.2
  rw [amounts]
  exact amount_mem_of_getSecretsWithBlinding L derived

/-! ## Capacity, lifetime and output size -/

/-- A channel is within a policy: in capacity, in lifetime, and in the size of
its funding outputs and of the outputs of every balance it can pay. -/
structure RespectsPolicy (host : Host T C) (policy : ChannelPolicy)
    (params : ChannelParameters T) (proofs : List (Proof T)) : Prop where
  capacity : policy.minCapacity ≤ params.capacity
  expiry : host.nowSeconds + policy.minExpiryInSeconds ≤ params.expiryTimestamp
  funding : ∀ max, policy.maxAmountPerOutput = some max → 0 < max →
    ∀ proof ∈ proofs, proof.amount ≤ max
  commitments : ∀ max, policy.maxAmountPerOutput = some max → 0 < max →
    ∀ balance ≤ params.capacity, ∀ commitment,
      CommitmentOutputs.forBalance balance params = .ok commitment →
      ∀ amount ∈ commitment.receiverOutputs.orderedAmounts.amounts ++
        commitment.senderOutputs.orderedAmounts.amounts, amount ≤ max

/-- **Accepted channels respect the policy exactly when** the earliest expiry does
not wrap and, if the parameters set no maximum, no denomination above the
policy's maximum fits into the funding. -/
theorem respectsPolicy_iff (trips : L.RoundTrips) {host : Host T C} {channelId : String}
    {paramsVal : Json} {proofs : List (Proof T)} {balance : Nat} {signature : String}
    {validated : ValidatedNewChannel T}
    (accepted : validateNewChannelFunding L host channelId paramsVal proofs balance signature =
      .ok validated)
    {unit : String} (named : (paramsVal.field "unit").asStr = some unit) {policy : ChannelPolicy}
    (hasPolicy : host.getChannelPolicy unit = some policy) {params : ChannelParameters T}
    (read : storedParams L validated.funding = .ok params) :
    RespectsPolicy host policy params proofs ↔
      host.nowSeconds + policy.minExpiryInSeconds < 2 ^ 64 ∧
      ∀ max, policy.maxAmountPerOutput = some max → 0 < max →
        params.maximumAmountForOneOutput = 0 →
        ∀ denomination ∈ params.keysetInfo.amountsLargestFirst,
          denomination ≤ params.fundingTokenAmount → denomination ≤ max := by
  obtain ⟨⟨a⟩, -, -⟩ := acceptance_of_validate accepted
  obtain rfl := Option.some.inj (named.symm.trans a.unit_eq)
  obtain rfl := Option.some.inj (hasPolicy.symm.trans a.policy_eq)
  obtain rfl := Outcome.ok.inj (read.symm.trans a.storedParams_eq)
  have source := a.readFrom trips
  have expiry : a.expiryTimestamp = a.params.expiryTimestamp :=
    Option.some.inj (a.expiry_eq.symm.trans source.expiryTimestamp_eq)
  have maximum : a.maximumAmount = a.params.maximumAmountForOneOutput :=
    Option.some.inj (a.maximum_eq.symm.trans source.maximumAmount_eq)
  have late := a.minExpiry
  rw [expiry] at late
  constructor
  · intro respects
    refine ⟨respects.expiry.trans_lt (Json.lt_of_asU64 source.expiryTimestamp_eq), ?_⟩
    intro max isMax positive unlimited denomination listed fits
    by_contra above
    have sorted := sorted_of_parseKeysetInfo a.keyset_eq
    rw [← source.keysetInfo_eq] at sorted
    obtain ⟨coin, taken, le⟩ := exists_mem_greedyList_ge sorted listed (by omega) fits
    rw [← unlimited, ← amount_mem_of_funded a.funded] at taken
    obtain ⟨proof, member, rfl⟩ := List.mem_map.mp taken
    have := respects.funding max isMax positive proof member
    omega
  · rintro ⟨noWrap, small⟩
    -- Every split of at most the funding amount stays below the policy's maximum.
    have splitLe (max : Nat) (isMax : a.policy.maxAmountPerOutput = some max) (positive : 0 < max)
        (target : Nat) (below : target ≤ a.params.fundingTokenAmount) (amount : Nat)
        (member : amount ∈ (greedyList target a.params.maximumAmountForOneOutput
          a.params.keysetInfo).amounts) : amount ≤ max := by
      obtain ⟨listed, le, unlimited | limited⟩ := of_mem_greedyList member
      · exact small max isMax positive unlimited amount listed (le.trans below)
      · exact limited.trans (maximum ▸ a.maximum_le max isMax positive)
    refine ⟨?_, ?_, ?_, ?_⟩
    · rw [a.capacity_params trips]
      exact a.minCapacity
    · rwa [Nat.mod_eq_of_lt noWrap] at late
    · intro max isMax positive proof member
      exact splitLe max isMax positive _ le_rfl _
        ((amount_mem_of_funded a.funded _).mp (List.mem_map_of_mem member))
    · intro max isMax positive balance within commitment committed amount member
      obtain ⟨-, afterStage1, search, stage1, -, enough, -, -, rfl⟩ :=
        CommitmentOutputs.forBalance_eq_ok_iff.mp committed
      have below : afterStage1 ≤ a.params.fundingTokenAmount := deterministicValueAfterFees_le stage1
      rcases List.mem_append.mp member with receiver | sender
      · exact splitLe max isMax positive _ (enough.trans below) amount receiver
      · exact splitLe max isMax positive _ ((Nat.sub_le _ _).trans below) amount sender

/-- A channel that is within its policy. -/
theorem respectsPolicy_iff_two :
    ∃ accepted, (Sample.two "m").openAt (Sample.pairs "sat")
        (Sample.satHost "m" "sat") 1 = .ok accepted ∧
      (RespectsPolicy (Sample.satHost "m" "sat") ⟨100, 1, some 2⟩ accepted.params
          accepted.opening.proofs ↔
        1000 + 100 < 2 ^ 64 ∧ ∀ max, some 2 = some max → 0 < max →
          accepted.params.maximumAmountForOneOutput = 0 →
          ∀ denomination ∈ accepted.params.keysetInfo.amountsLargestFirst,
            denomination ≤ accepted.params.fundingTokenAmount → denomination ≤ max) := by
  obtain ⟨accepted, opened, facts⟩ := Sample.opens_two
  obtain ⟨valid, stored⟩ := Sample.of_openAt opened
  have named : (accepted.opening.paramsVal.field "unit").asStr = some "sat" := by
    rw [facts.sent]
    rfl
  exact ⟨accepted, opened, respectsPolicy_iff Sample.roundTrips valid named rfl stored⟩

/-- At time 1000 a host that asks for a lifetime of `2 ^ 64 - 1` seconds and outputs
of at most one. -/
def Sample.strictHost : Host Sample.carriers Unit :=
  Sample.host "m" (Sample.pairs "sat") (Sample.policyFor "sat" ⟨2 ^ 64 - 1, 1, some 1⟩) 1000

/-- It accepts a channel that expires at 2000 and has a funding output of two. -/
theorem not_respectsPolicy_two :
    ∃ accepted, (Sample.two "m").openAt (Sample.pairs "sat") Sample.strictHost 1 = .ok accepted ∧
      accepted.params.expiryTimestamp = 2000 ∧ (∃ proof ∈ accepted.opening.proofs, proof.amount = 2) ∧
      ¬ RespectsPolicy Sample.strictHost ⟨2 ^ 64 - 1, 1, some 1⟩ accepted.params
        accepted.opening.proofs := by
  obtain ⟨accepted, opened, facts⟩ := Outcome.exists_of_okAnd
    (show ((Sample.two "m").openAt (Sample.pairs "sat") Sample.strictHost 1).okAnd (fun accepted =>
      decide (accepted.params.expiryTimestamp = 2000 ∧
        ∃ proof ∈ accepted.opening.proofs, proof.amount = 2)) = true by decide +kernel)
  obtain ⟨expiry, proof, member, amount⟩ := of_decide_eq_true facts
  refine ⟨accepted, opened, expiry, ⟨proof, member, amount⟩, fun respects => ?_⟩
  have := respects.funding 1 rfl (by decide) proof member
  omega

/-! ## The unit of the funding -/

variable (L) in
/-- Every channel the host accepts is denominated in the unit of the keyset that
its funding proofs belong to. -/
def Denominated (host : Host T C) : Prop :=
  ∀ channelId paramsVal proofs balance signature validated params,
    validateNewChannelFunding L host channelId paramsVal proofs balance signature = .ok validated →
    storedParams L validated.funding = .ok params →
    (∀ proof ∈ proofs, proof.keysetId = params.keysetInfo.keysetId) ∧
      params.unit = params.keysetInfo.unit

variable (L) in
/-- Every unit the host has a policy for is the unit of every keyset it trusts. -/
def SingleUnit (host : Host T C) : Prop :=
  ∀ unit policy mint keysetId text info,
    host.getChannelPolicy unit = some policy →
    host.mintAndKeysetIsAcceptable mint keysetId = true →
    host.getKeysetInfo mint keysetId = some text →
    parseKeysetInfoFromJson L text = .ok info →
    L.unitFromStr unit = .ok info.unit

variable (L) in
/-- Whatever unit and trusted keyset the host offers, some sender funds a channel
with them. -/
def Fundable (host : Host T C) : Prop :=
  ∀ unit policy mint keysetId text,
    host.getChannelPolicy unit = some policy →
    host.mintAndKeysetIsAcceptable mint keysetId = true →
    host.getKeysetInfo mint keysetId = some text →
    ∃ channelId paramsVal proofs balance signature validated,
      validateNewChannelFunding L host channelId paramsVal proofs balance signature =
        .ok validated ∧
      (paramsVal.field "unit").asStr = some unit ∧ (paramsVal.field "mint").asStr = some mint ∧
      (paramsVal.field "keyset_id").asStr.map L.idFromStr = some (.ok keysetId)

section Unit

variable {host : Host T C} {paramsVal : Json} {proofs : List (Proof T)}
  {validated : ValidatedNewChannel T}

/-- The unit of the accepted parameters is the one that selected the policy. -/
theorem Acceptance.unitFromStr_eq (a : Acceptance L host paramsVal proofs validated)
    (trips : L.RoundTrips) : L.unitFromStr a.unit = .ok a.params.unit := by
  obtain ⟨raw, isRaw, isUnit⟩ := (a.readFrom trips).unit_eq
  rwa [Option.some.inj (a.unit_eq.symm.trans isRaw)]

theorem denominated_of_singleUnit (trips : L.RoundTrips) (single : SingleUnit L host) :
    Denominated L host := by
  intro channelId paramsVal proofs balance signature validated params accepted read
  obtain ⟨⟨a⟩, -, -⟩ := acceptance_of_validate accepted
  obtain rfl := Outcome.ok.inj (read.symm.trans a.storedParams_eq)
  obtain ⟨keysets, -, -, -⟩ := EstablishedChannel.new_eq_ok_iff.mp (a.established trips)
  have policyUnit := single a.unit a.policy a.mint a.keysetId _ a.keysetInfo a.policy_eq a.trusted
    a.cached a.keyset_eq
  rw [a.unitFromStr_eq trips] at policyUnit
  rw [(a.readFrom trips).keysetInfo_eq] at keysets ⊢
  exact ⟨keysets, Except.ok.inj policyUnit⟩

theorem singleUnit_of_denominated (trips : L.RoundTrips) (fundable : Fundable L host)
    (denominated : Denominated L host) : SingleUnit L host := by
  intro unit policy mint keysetId text info hasPolicy trusted cached parsed
  obtain ⟨channelId, paramsVal, proofs, balance, signature, validated, accepted, named, atMint,
    ofKeyset⟩ := fundable unit policy mint keysetId text hasPolicy trusted cached
  obtain ⟨⟨a⟩, -, -⟩ := acceptance_of_validate accepted
  have sameUnit : a.unit = unit := Option.some.inj (a.unit_eq.symm.trans named)
  have sameMint : a.mint = mint := Option.some.inj (a.mint_eq.symm.trans atMint)
  have sameId : a.keysetId = keysetId :=
    Except.ok.inj (Option.some.inj (a.keysetId_eq.symm.trans ofKeyset))
  have sameText : validated.funding.keysetInfoJson = text := by
    have := a.cached
    rw [sameMint, sameId, cached] at this
    exact (Option.some.inj this).symm
  have sameInfo : a.keysetInfo = info := by
    have := a.keyset_eq
    rw [sameText, parsed] at this
    exact (Outcome.ok.inj this).symm
  have same := (denominated _ _ _ _ _ _ _ accepted a.storedParams_eq).2
  rw [(a.readFrom trips).keysetInfo_eq, sameInfo] at same
  rw [← sameUnit, a.unitFromStr_eq trips, same]

end Unit

/-- **The unit of the parameters is the unit of the money** in every channel a host
accepts, if all its policies and trusted keysets are of one unit. For a host whose
offers get funded, this is also the only way. -/
theorem denominated_iff_singleUnit (trips : L.RoundTrips) (host : Host T C) :
    (SingleUnit L host → Denominated L host) ∧
      (Fundable L host → (Denominated L host ↔ SingleUnit L host)) :=
  ⟨denominated_of_singleUnit trips, fun fundable =>
    ⟨singleUnit_of_denominated trips fundable, denominated_of_singleUnit trips⟩⟩

/-- With a keyset in `sat` the host has a single unit, and its offer gets funded. -/
theorem denominated_iff_singleUnit_sat :
    SingleUnit Sample.library (Sample.satHost "m" "sat") ∧
      Fundable Sample.library (Sample.satHost "m" "sat") ∧
      Denominated Sample.library (Sample.satHost "m" "sat") := by
  have policy {unit : String} {policy : ChannelPolicy}
      (has : (Sample.satHost "m" "sat").getChannelPolicy unit = some policy) : unit = "sat" := by
    by_contra other
    simp [Sample.satHost, Sample.host, Sample.policyFor, other] at has
  have trust {mint : String} {keysetId : Sample.carriers.Id}
      (trusted : (Sample.satHost "m" "sat").mintAndKeysetIsAcceptable mint keysetId = true) :
      mint = "m" ∧ keysetId = (Sample.pairs "sat").keysetId := of_decide_eq_true trusted
  have single : SingleUnit Sample.library (Sample.satHost "m" "sat") := by
    intro unit _ mint keysetId text info has trusted cached parsed
    obtain rfl := policy has
    obtain ⟨rfl, rfl⟩ := trust trusted
    have isText : text = (Sample.pairs "sat").toJson Sample.library := by
      simpa [Sample.satHost, Sample.host] using cached.symm
    subst isText
    have reread : parseKeysetInfoFromJson Sample.library
        ((Sample.pairs "sat").toJson Sample.library) = .ok (Sample.pairs "sat") := by
      decide +kernel
    obtain rfl := Outcome.ok.inj (parsed.symm.trans reread)
    rfl
  have funded : Fundable Sample.library (Sample.satHost "m" "sat") := by
    intro unit _ mint keysetId text has trusted _
    obtain rfl := policy has
    obtain ⟨rfl, rfl⟩ := trust trusted
    obtain ⟨accepted, opened, facts⟩ := Sample.opens_two
    have sent := facts.sent
    exact ⟨_, _, _, _, _, _, (Sample.of_openAt opened).1, by rw [sent]; rfl, by rw [sent]; rfl,
      by rw [sent]; rfl⟩
  exact ⟨single, funded,
    ((denominated_iff_singleUnit Sample.roundTrips (Sample.satHost "m" "sat")).2 funded).mpr single⟩

/-- A channel priced in `sat` and funded in `usd` is accepted by a host that
trusts a `usd` keyset. -/
theorem not_denominated_usd : ¬ Denominated Sample.library (Sample.satHost "m" "usd") := by
  intro denominated
  obtain ⟨accepted, opened, units⟩ := Outcome.exists_of_okAnd
    (show ((Sample.two "m").openAt (Sample.pairs "usd") (Sample.satHost "m" "usd") 1).okAnd (fun accepted =>
      accepted.params.unit ≠ accepted.params.keysetInfo.unit) = true by decide +kernel)
  obtain ⟨valid, stored⟩ := Sample.of_openAt opened
  exact of_decide_eq_true units (denominated _ _ _ _ _ _ _ valid stored).2

end Spilman
