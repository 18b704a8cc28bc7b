/-
# The outputs of a commitment, from all sides

An output appears in several lists: as a slot of the greedy split, as a secret
with its blinding factor, and as a message offered to the mint. The lists are
computed separately, by both parties and at different times. This module says
that they are in step: the slots name every output once, secrets follow the
slots, messages follow the secrets, and both keep following each other after the
outputs of the two parties have been merged and sorted.

It also says that no two outputs of a commitment share a secret, unless the hash
function has a collision: the texts that nonces are hashed from determine the
output they belong to.
-/

import Spilman.DerivationInputs

namespace Spilman

open Lib

variable {T : Carriers}

/-! ## The split of a channel -/

/-- The outputs of a context, as `new` builds them. -/
def outputsFor (context : String) (amount : Nat) (params : ChannelParameters T) :
    DeterministicOutputsForOneContext T :=
  ⟨context, amount, greedyList amount params.maximumAmountForOneOutput params.keysetInfo, params⟩

theorem DeterministicOutputsForOneContext.new_eq_ok_iff {context : String} {amount : Nat}
    {params : ChannelParameters T} {outputs : DeterministicOutputsForOneContext T} :
    DeterministicOutputsForOneContext.new context amount params = .ok outputs ↔
      Splits params.keysetInfo params.maximumAmountForOneOutput amount ∧
        outputs = outputsFor context amount params := by
  unfold DeterministicOutputsForOneContext.new
  simp only [Outcome.bind_eq_ok, fromTarget_eq_ok_iff, Outcome.pure_eq, Outcome.ok.injEq]
  constructor
  · rintro ⟨_, ⟨splits, rfl⟩, rfl⟩
    exact ⟨splits, rfl⟩
  · rintro ⟨splits, rfl⟩
    exact ⟨_, ⟨splits, rfl⟩, rfl⟩

/-- The commitment with the given nominal values. -/
def commitmentOf (params : ChannelParameters T) (receiverNominal senderNominal : Nat) :
    CommitmentOutputs T :=
  ⟨outputsFor "receiver" receiverNominal params, outputsFor "sender" senderNominal params⟩

/-- **When a balance can be committed to, and how.** -/
theorem CommitmentOutputs.forBalance_eq_ok_iff {balance : Nat} {params : ChannelParameters T}
    {commitment : CommitmentOutputs T} :
    forBalance balance params = .ok commitment ↔
      balance ≤ params.capacity ∧ ∃ afterStage1 search,
        params.getValueAfterStage1 = .ok afterStage1 ∧
        params.keysetInfo.inverseDeterministicValueAfterFees balance
          params.maximumAmountForOneOutput = .ok search ∧
        search.nominalValue ≤ afterStage1 ∧
        Splits params.keysetInfo params.maximumAmountForOneOutput search.nominalValue ∧
        Splits params.keysetInfo params.maximumAmountForOneOutput
          (afterStage1 - search.nominalValue) ∧
        commitment =
          commitmentOf params search.nominalValue (afterStage1 - search.nominalValue) := by
  unfold forBalance
  simp only [Outcome.bind_eq_ok, Outcome.guard_eq_ok, Outcome.pure_eq, Outcome.ok.injEq,
    DeterministicOutputsForOneContext.new_eq_ok_iff]
  constructor
  · rintro ⟨-, within, afterStage1, stage1, search, found, -, enough, _, ⟨receiver, rfl⟩, _,
      ⟨sender, rfl⟩, rfl⟩
    exact ⟨within, afterStage1, search, stage1, found, enough, receiver, sender, rfl⟩
  · rintro ⟨within, afterStage1, search, stage1, found, enough, receiver, sender, rfl⟩
    exact ⟨(), within, afterStage1, stage1, search, found, (), enough, _, ⟨receiver, rfl⟩, _,
      ⟨sender, rfl⟩, rfl⟩

/-! ## Slots -/

theorem OrderedListOfAmounts.slots_map_fst (list : OrderedListOfAmounts) :
    list.slots.map Prod.fst = Greedy.spread list.countByAmount.entries := by
  rw [slots, Greedy.spread, List.map_flatMap]
  exact List.flatMap_congr fun entry _ => by
    simp [List.map_map, Function.comp_def, List.map_const']

/-- Every output of a split has its own slot. -/
theorem OrderedListOfAmounts.slots_nodup (list : OrderedListOfAmounts) : list.slots.Nodup := by
  refine List.nodup_flatMap.mpr ⟨fun entry _ => ?_, ?_⟩
  · exact List.nodup_range.map fun _ _ same => (Prod.mk.inj same).2
  · refine list.countByAmount.sorted.imp fun {first second} less slot member member' => ?_
    obtain ⟨_, -, rfl⟩ := List.mem_map.mp member
    obtain ⟨_, -, same⟩ := List.mem_map.mp member'
    exact less.ne (congrArg Prod.fst same).symm

/-- A slot of a split has an amount and an index below the target. -/
theorem slot_bounds {target maximumAmount : Nat} {info : KeysetInfo T} {slot : Nat × Nat}
    (member : slot ∈ (greedyList target maximumAmount info).slots) :
    slot.1 ≤ target ∧ slot.2 < target := by
  obtain ⟨pile, taken, inPile⟩ := List.mem_flatMap.mp member
  obtain ⟨index, below, rfl⟩ := List.mem_map.mp inPile
  replace taken := List.mem_reverse.mp taken
  obtain ⟨-, positive, -, small⟩ := Greedy.of_mem_coins taken
  have worth : pile.1 * pile.2 ≤ target := Greedy.mul_le_of_mem_coins taken
  exact ⟨small, (List.mem_range.mp below).trans_le ((Nat.le_mul_of_pos_left _ positive).trans worth)⟩

/-! ## One output -/

/-- The context that commitment outputs of a role are derived in. -/
def Stage2Role.context : Stage2Role → String
  | .sender => "sender"
  | .receiver => "receiver"

section Output

variable {L : Cashu T} {params : ChannelParameters T}

/-- An output is derived for the amount and index it carries. -/
theorem slot_of_createDeterministicOutput {context : String} {amount index : Nat}
    {output : DeterministicSecretWithBlinding T}
    (derived : params.createDeterministicOutputWithBlinding L context amount index = .ok output) :
    output.amount = amount ∧ output.index = index := by
  rw [ChannelParameters.createDeterministicOutputWithBlinding] at derived
  split_ifs at derived
  · simp only [Outcome.bind_eq_ok, DeterministicSecretWithBlinding.newFunding, Outcome.pure_eq,
      Outcome.ok.injEq] at derived
    obtain ⟨_, -, _, -, _, -, _, -, _, -, _, -, rfl⟩ := derived
    exact ⟨rfl, rfl⟩
  · simp only [Outcome.bind_eq_ok, DeterministicSecretWithBlinding.newP2pk, Outcome.pure_eq,
      Outcome.ok.injEq] at derived
    obtain ⟨_, -, _, -, _, -, _, -, rfl⟩ := derived
    exact ⟨rfl, rfl⟩

variable (L params) in
/-- The scalar that the nonce of a role's output is made of. -/
def nonceScalar (role : Stage2Role) (slot : Nat × Nat) : Outcome String T.Scalar :=
  hashToSecpScalar L (utf8 (params.nonceText L role.context slot.1 slot.2))
    (L.hmacSha256 params.channelSecret.val)

variable (L params) in
/-- A commitment output of a role: locked to the role's key for its slot, under
the nonce of its slot. -/
structure DerivedOutput (role : Stage2Role) (slot : Nat × Nat)
    (output : DeterministicSecretWithBlinding T) : Prop where
  amount : output.amount = slot.1
  index : output.index = slot.2
  locked : ∃ pubkey nonce,
    params.getBlindedPubkeyForStage2Output L role slot.1 slot.2 = .ok pubkey ∧
    nonceScalar L params role slot = .ok nonce ∧
    output.secret = p2pkSecret (L.publicKeyToHex pubkey) (Hex.encode (L.scalarToBeBytes nonce).val)

theorem derivedOutput_of_create {role : Stage2Role} {slot : Nat × Nat}
    {output : DeterministicSecretWithBlinding T}
    (derived : params.createDeterministicOutputWithBlinding L role.context slot.1 slot.2 =
      .ok output) : DerivedOutput L params role slot output := by
  obtain ⟨amount, index⟩ := slot_of_createDeterministicOutput derived
  have key : params.getStage2BlindedPubkeyForStage1Output L role.context slot.1 slot.2 =
      params.getBlindedPubkeyForStage2Output L role slot.1 slot.2 := by cases role <;> rfl
  have notFunding : role.context ≠ "funding" := by cases role <;> decide
  simp only [ChannelParameters.createDeterministicOutputWithBlinding, if_neg notFunding, key,
    Outcome.bind_eq_ok, Outcome.mapErr_eq_ok, Outcome.pure_eq, Outcome.ok.injEq] at derived
  obtain ⟨nonce, hashed, _, -, _, -, pubkey, locked, rfl⟩ := derived
  exact ⟨amount, index, pubkey, nonce, locked, hashed, rfl⟩

/-! ## Distinct outputs have distinct secrets -/

/-- The text a nonce is hashed from names one output of one role. -/
theorem role_of_nonceText {role role' : Stage2Role} {slot slot' : Nat × Nat}
    (same : params.nonceText L role.context slot.1 slot.2 =
      params.nonceText L role'.context slot'.1 slot'.2) : role = role' ∧ slot = slot' := by
  obtain ⟨contexts, slots⟩ := nonceText_inj L same
  refine ⟨?_, slots⟩
  cases role <;> cases role' <;> first | rfl | exact absurd contexts (by decide)

/-- A nonce as it is written determines its scalar. -/
theorem scalar_of_nonce (trips : L.RoundTrips) {nonce nonce' : T.Scalar}
    (same : Hex.encode (L.scalarToBeBytes nonce).val = Hex.encode (L.scalarToBeBytes nonce').val) :
    nonce = nonce' := by
  have bytes := Subtype.ext (Hex.encode_injective same)
  have read := trips.scalarFromBeBytes_toBeBytes nonce
  rw [bytes, trips.scalarFromBeBytes_toBeBytes] at read
  exact (Option.some.inj read).symm

/-- A secret has its nonce at a fixed distance from its end. -/
theorem nonce_of_p2pkSecret {hex hex' nonce nonce' : String}
    (length : nonce.toList.length = nonce'.toList.length)
    (same : p2pkSecret hex nonce = p2pkSecret hex' nonce') : nonce = nonce' := by
  exact append_field_inj length same

variable (L params) in
/-- No two of the named outputs get the same nonce out of different texts. -/
def NoncesDistinct (names : List (Stage2Role × Nat × Nat)) : Prop :=
  ∀ name ∈ names, ∀ name' ∈ names, ∀ nonce,
    nonceScalar L params name.1 name.2 = .ok nonce →
    nonceScalar L params name'.1 name'.2 = .ok nonce →
    params.nonceText L name.1.context name.2.1 name.2.2 =
      params.nonceText L name'.1.context name'.2.1 name'.2.2

/-- Without a collision of the hash, outputs with distinct names have distinct
secrets. -/
theorem secrets_nodup (trips : L.RoundTrips) {names : List (Stage2Role × Nat × Nat)}
    {outputs : List (DeterministicSecretWithBlinding T)}
    (derived : List.Forall₂ (fun name output => DerivedOutput L params name.1 name.2 output)
      names outputs)
    (distinct : names.Nodup) (noCollision : NoncesDistinct L params names) :
    (outputs.map DeterministicSecretWithBlinding.secret).Nodup := by
  refine nodup_map_of_forall₂ derived distinct
    fun name member name' member' output output' isOutput isOutput' same => ?_
  obtain ⟨_, nonce, -, hashed, secret⟩ := isOutput.locked
  obtain ⟨_, nonce', -, hashed', secret'⟩ := isOutput'.locked
  rw [secret, secret'] at same
  have texts := nonce_of_p2pkSecret (by
    rw [Hex.length_encode, Hex.length_encode, (L.scalarToBeBytes nonce).property,
      (L.scalarToBeBytes nonce').property]) same
  obtain rfl := scalar_of_nonce trips texts
  obtain ⟨role, slot⟩ := role_of_nonceText (noCollision name member name' member' nonce hashed hashed')
  exact Prod.ext role slot

end Output

/-! ## The outputs of a context -/

section Outputs

variable (L : Cashu T) {context : String} {amount : Nat} {params : ChannelParameters T}

/-- The secrets of a context are derived slot by slot, also when there are none. -/
theorem getSecretsWithBlinding_outputsFor :
    (outputsFor context amount params).getSecretsWithBlinding L =
      .mapAll (fun slot => params.createDeterministicOutputWithBlinding L context slot.1 slot.2)
        (greedyList amount params.maximumAmountForOneOutput params.keysetInfo).slots := by
  rw [DeterministicOutputsForOneContext.getSecretsWithBlinding]
  split_ifs with zero
  · have empty : amount = 0 := zero
    subst empty
    simp [greedyList, OrderedListOfAmounts.slots]
  · rfl

/-- The secrets of a context carry the amounts and indices of its slots. -/
theorem slots_of_getSecretsWithBlinding {secrets : List (DeterministicSecretWithBlinding T)}
    (derived : (outputsFor context amount params).getSecretsWithBlinding L = .ok secrets) :
    secrets.map (fun secret => (secret.amount, secret.index)) =
      (greedyList amount params.maximumAmountForOneOutput params.keysetInfo).slots := by
  rw [getSecretsWithBlinding_outputsFor, Outcome.mapAll_eq_ok] at derived
  rw [← List.map_id (greedyList amount _ _).slots]
  refine (map_eq_map_of_forall₂ derived fun slot secret made => ?_).symm
  obtain ⟨sameAmount, sameIndex⟩ := slot_of_createDeterministicOutput made
  exact Prod.ext sameAmount.symm sameIndex.symm

/-- The amounts of the secrets of a context are those of its split. -/
theorem amounts_of_getSecretsWithBlinding {secrets : List (DeterministicSecretWithBlinding T)}
    (derived : (outputsFor context amount params).getSecretsWithBlinding L = .ok secrets) :
    secrets.map DeterministicSecretWithBlinding.amount =
      Greedy.spread (greedyList amount params.maximumAmountForOneOutput
        params.keysetInfo).countByAmount.entries := by
  rw [← OrderedListOfAmounts.slots_map_fst, ← slots_of_getSecretsWithBlinding L derived,
    List.map_map]
  rfl

theorem amount_mem_of_getSecretsWithBlinding {secrets : List (DeterministicSecretWithBlinding T)}
    (derived : (outputsFor context amount params).getSecretsWithBlinding L = .ok secrets)
    {denomination : Nat} :
    denomination ∈ secrets.map DeterministicSecretWithBlinding.amount ↔
      denomination ∈ (outputsFor context amount params).orderedAmounts.amounts := by
  rw [amounts_of_getSecretsWithBlinding L derived, outputsFor, greedyList_amounts]
  simp only [Greedy.mem_spread, greedyList, List.mem_reverse]

/-- A message offers the output of a secret under a keyset. -/
structure Offers (keysetId : T.Id) (secret : DeterministicSecretWithBlinding T)
    (message : BlindedMessage T) : Prop where
  blinds : L.blindMessage secret.secret secret.blindingFactor = .ok message.blindedSecret
  amount : message.amount = secret.amount
  keysetId : message.keysetId = keysetId

/-- **Messages follow secrets.** A context offers the mint one message for each of
its secrets, in order. -/
theorem getBlindedMessages_eq_ok_iff {overrideKeysetId : Option T.Id}
    {messages : List (BlindedMessage T)} :
    (outputsFor context amount params).getBlindedMessages L overrideKeysetId = .ok messages ↔
      ∃ secrets, (outputsFor context amount params).getSecretsWithBlinding L = .ok secrets ∧
        List.Forall₂ (Offers L (overrideKeysetId.getD params.keysetInfo.keysetId))
          secrets messages := by
  rw [DeterministicOutputsForOneContext.getBlindedMessages, Outcome.bind_eq_ok]
  refine exists_congr fun secrets => and_congr_right fun derived => ?_
  -- The amounts are zipped in from the split; they are the secrets' own.
  have zipped : secrets.zip (Greedy.spread (outputsFor context amount
      params).orderedAmounts.countByAmount.entries) =
      secrets.map fun secret => (secret, secret.amount) := by
    rw [outputsFor, ← amounts_of_getSecretsWithBlinding L derived]
    nth_rewrite 1 [← List.map_id secrets]
    exact List.zip_map'
  have offered (secret : DeterministicSecretWithBlinding T) (message : BlindedMessage T) :
      secret.toBlindedMessage L secret.amount
          (overrideKeysetId.getD params.keysetInfo.keysetId) = .ok message ↔
        Offers L (overrideKeysetId.getD params.keysetInfo.keysetId) secret message := by
    simp only [DeterministicSecretWithBlinding.toBlindedMessage, Outcome.bind_eq_ok,
      Outcome.ofExcept_eq_ok, Outcome.pure_eq, Outcome.ok.injEq]
    constructor
    · rintro ⟨point, blinds, rfl⟩
      exact ⟨blinds, rfl, rfl⟩
    · rintro ⟨blinds, amount, keyset⟩
      exact ⟨_, blinds, by rw [← amount, ← keyset]⟩
  simp only [zipped, Outcome.mapAll_eq_ok, List.forall₂_map_left_iff, offered,
    show (outputsFor context amount params).params = params from rfl]

/-- The same outputs can be offered under any keyset. -/
theorem getBlindedMessages_override {overrideKeysetId : Option T.Id}
    {messages : List (BlindedMessage T)}
    (built : (outputsFor context amount params).getBlindedMessages L overrideKeysetId =
      .ok messages) (keysetId : T.Id) :
    (outputsFor context amount params).getBlindedMessages L (some keysetId) =
      .ok (messages.map fun message => { message with keysetId }) := by
  obtain ⟨secrets, derived, offers⟩ := (getBlindedMessages_eq_ok_iff L).mp built
  refine (getBlindedMessages_eq_ok_iff L).mpr ⟨secrets, derived, ?_⟩
  rw [List.forall₂_map_right_iff]
  exact offers.imp fun _ _ offer => ⟨offer.blinds, offer.amount, rfl⟩

/-- A context offers the mint the amounts of its split, smallest first. -/
theorem amounts_of_getBlindedMessages {overrideKeysetId : Option T.Id}
    {messages : List (BlindedMessage T)}
    (built : (outputsFor context amount params).getBlindedMessages L overrideKeysetId =
      .ok messages) :
    messages.map BlindedMessage.amount =
      Greedy.spread (greedyList amount params.maximumAmountForOneOutput
        params.keysetInfo).countByAmount.entries := by
  obtain ⟨secrets, derived, offers⟩ := (getBlindedMessages_eq_ok_iff L).mp built
  rw [← amounts_of_getSecretsWithBlinding L derived]
  exact (map_eq_map_of_forall₂ offers fun _ _ offer => offer.amount.symm).symm

end Outputs

/-! ## The outputs of both parties -/

/-- The names of all outputs of a commitment. -/
def commitmentNames (params : ChannelParameters T) (receiverNominal senderNominal : Nat) :
    List (Stage2Role × Nat × Nat) :=
  (greedyList receiverNominal params.maximumAmountForOneOutput params.keysetInfo).slots.map
    (Stage2Role.receiver, ·) ++
  (greedyList senderNominal params.maximumAmountForOneOutput params.keysetInfo).slots.map
    (Stage2Role.sender, ·)

theorem commitmentNames_nodup (params : ChannelParameters T) (receiverNominal senderNominal : Nat) :
    (commitmentNames params receiverNominal senderNominal).Nodup := by
  have tagged (role : Stage2Role) (list : OrderedListOfAmounts) :
      (list.slots.map (role, ·)).Nodup :=
    list.slots_nodup.map fun _ _ same => (Prod.mk.inj same).2
  refine List.Nodup.append (tagged _ _) (tagged _ _) fun name member member' => ?_
  obtain ⟨_, -, rfl⟩ := List.mem_map.mp member
  obtain ⟨_, -, same⟩ := List.mem_map.mp member'
  cases same

/-- The secrets of both parties in the order of the swap, with whose they are. -/
def mergedSecrets (receiver sender : List (DeterministicSecretWithBlinding T)) :
    List (DeterministicSecretWithBlinding T × Bool) :=
  sortByKey (fun entry => entry.1.amount) (receiver.map (·, true) ++ sender.map (·, false))

theorem mergedSecrets_perm (receiver sender : List (DeterministicSecretWithBlinding T)) :
    (mergedSecrets receiver sender).Perm (receiver.map (·, true) ++ sender.map (·, false)) :=
  sortByKey_perm _ _

theorem mem_mergedSecrets {receiver sender : List (DeterministicSecretWithBlinding T)}
    {entry : DeterministicSecretWithBlinding T × Bool} :
    entry ∈ mergedSecrets receiver sender ↔
      (entry.1 ∈ receiver ∧ entry.2 = true) ∨ (entry.1 ∈ sender ∧ entry.2 = false) := by
  obtain ⟨secret, isReceiver⟩ := entry
  cases isReceiver <;> simp [mergedSecrets]

/-- Sorting does not change what either party gets in total. -/
theorem sums_mergedSecrets (receiver sender : List (DeterministicSecretWithBlinding T)) :
    (((mergedSecrets receiver sender).filter (·.2)).map (·.1.amount)).sum =
        (receiver.map DeterministicSecretWithBlinding.amount).sum ∧
      (((mergedSecrets receiver sender).filter (!·.2)).map (·.1.amount)).sum =
        (sender.map DeterministicSecretWithBlinding.amount).sum := by
  have sorted := mergedSecrets_perm receiver sender
  have receivers : (receiver.map (·, true) ++ sender.map (·, false)).filter (·.2) =
      receiver.map (·, true) := by
    simp [List.filter_map, Function.comp_def]
  have senders : (receiver.map (·, true) ++ sender.map (·, false)).filter (!·.2) =
      sender.map (·, false) := by
    simp [List.filter_map, Function.comp_def]
  rw [((sorted.filter (·.2)).map (·.1.amount)).sum_eq,
    ((sorted.filter (!·.2)).map (·.1.amount)).sum_eq, receivers, senders, List.map_map,
    List.map_map]
  exact ⟨rfl, rfl⟩

section Merged

variable {L : Cashu T} {params : ChannelParameters T} {receiverNominal senderNominal : Nat}

theorem secretsWithBlinding_eq_ok_iff {ε : Type} {receiverError senderError : String → ε}
    {entries : List (DeterministicSecretWithBlinding T × Bool)} :
    (commitmentOf params receiverNominal senderNominal).secretsWithBlinding L receiverError
        senderError = .ok entries ↔
      ∃ receiver sender,
        (outputsFor "receiver" receiverNominal params).getSecretsWithBlinding L = .ok receiver ∧
        (outputsFor "sender" senderNominal params).getSecretsWithBlinding L = .ok sender ∧
        entries = mergedSecrets receiver sender := by
  simp only [CommitmentOutputs.secretsWithBlinding, commitmentOf, Outcome.bind_eq_ok,
    Outcome.mapErr_eq_ok, Outcome.pure_eq, Outcome.ok.injEq, mergedSecrets]
  constructor
  · rintro ⟨receiver, derived, sender, derived', rfl⟩
    exact ⟨receiver, sender, derived, derived', rfl⟩
  · rintro ⟨receiver, sender, derived, derived', rfl⟩
    exact ⟨receiver, derived, sender, derived', rfl⟩

/-- **The swap follows the secrets.** The outputs of the swap request are the
messages of the merged secrets, in their order. -/
theorem createSwapRequest_inStep {fundingProofs : List (Proof T)} {overrideKeysetId : Option T.Id}
    {request : SwapRequest T}
    (built : (commitmentOf params receiverNominal senderNominal).createSwapRequest L fundingProofs
      overrideKeysetId = .ok request) :
    ∃ receiver sender,
      (outputsFor "receiver" receiverNominal params).getSecretsWithBlinding L = .ok receiver ∧
      (outputsFor "sender" senderNominal params).getSecretsWithBlinding L = .ok sender ∧
      List.Forall₂ (fun entry message =>
        Offers L (overrideKeysetId.getD params.keysetInfo.keysetId) entry.1 message)
        (mergedSecrets receiver sender) request.outputs := by
  simp only [CommitmentOutputs.createSwapRequest, commitmentOf, Outcome.bind_eq_ok,
    getBlindedMessages_eq_ok_iff, Outcome.pure_eq, Outcome.ok.injEq] at built
  obtain ⟨receiverMessages, ⟨receiver, derived, offers⟩, senderMessages,
    ⟨sender, derived', offers'⟩, rfl⟩ := built
  refine ⟨receiver, sender, derived, derived', forall₂_sortByKey (List.rel_append ?_ ?_)
    fun _ _ offer => offer.amount⟩
  · rwa [List.forall₂_map_left_iff]
  · rwa [List.forall₂_map_left_iff]

/-- The swap can be built for any proofs and any output keyset. -/
theorem createSwapRequest_override {fundingProofs : List (Proof T)}
    {overrideKeysetId : Option T.Id} {request : SwapRequest T}
    (built : (commitmentOf params receiverNominal senderNominal).createSwapRequest L fundingProofs
      overrideKeysetId = .ok request) (fundingProofs' : List (Proof T)) (keysetId : T.Id) :
    ∃ outputs, (commitmentOf params receiverNominal senderNominal).createSwapRequest L
      fundingProofs' (some keysetId) = .ok ⟨fundingProofs', outputs, request.rerandomized⟩ := by
  simp only [CommitmentOutputs.createSwapRequest, commitmentOf, Outcome.bind_eq_ok,
    Outcome.pure_eq, Outcome.ok.injEq] at built ⊢
  obtain ⟨_, receiverBuilt, _, senderBuilt, rfl⟩ := built
  exact ⟨_, _, getBlindedMessages_override L receiverBuilt keysetId, _,
    getBlindedMessages_override L senderBuilt keysetId, rfl⟩

/-- Secrets of a role are derived for the slots of the role. -/
theorem derivedOutputs {role : Stage2Role} {amount : Nat}
    {secrets : List (DeterministicSecretWithBlinding T)}
    (derived : (outputsFor role.context amount params).getSecretsWithBlinding L = .ok secrets) :
    List.Forall₂ (DerivedOutput L params role)
      (greedyList amount params.maximumAmountForOneOutput params.keysetInfo).slots secrets := by
  rw [getSecretsWithBlinding_outputsFor, Outcome.mapAll_eq_ok] at derived
  exact derived.imp fun _ _ => derivedOutput_of_create

/-- All secrets of a commitment are distinct, unless two nonces collide. -/
theorem mergedSecrets_nodup (trips : L.RoundTrips)
    {receiver sender : List (DeterministicSecretWithBlinding T)}
    (derived : (outputsFor "receiver" receiverNominal params).getSecretsWithBlinding L =
      .ok receiver)
    (derived' : (outputsFor "sender" senderNominal params).getSecretsWithBlinding L = .ok sender)
    (noCollision : NoncesDistinct L params (commitmentNames params receiverNominal senderNominal)) :
    ((mergedSecrets receiver sender).map (·.1.secret)).Nodup := by
  have named : List.Forall₂ (fun name output => DerivedOutput L params name.1 name.2 output)
      (commitmentNames params receiverNominal senderNominal) (receiver ++ sender) := by
    refine List.rel_append ?_ ?_
    · rw [List.forall₂_map_left_iff]
      exact derivedOutputs (show (outputsFor Stage2Role.receiver.context _ _).getSecretsWithBlinding
        L = _ from derived)
    · rw [List.forall₂_map_left_iff]
      exact derivedOutputs (show (outputsFor Stage2Role.sender.context _ _).getSecretsWithBlinding
        L = _ from derived')
  have distinct := secrets_nodup trips named (commitmentNames_nodup _ _ _) noCollision
  rw [((mergedSecrets_perm receiver sender).map (·.1.secret)).nodup_iff]
  simpa [List.map_append, List.map_map, Function.comp_def] using distinct

/-- The request is in the mode of the channel. -/
theorem rerandomized_of_createSwapRequest {balance : Nat} {commitment : CommitmentOutputs T}
    (committed : CommitmentOutputs.forBalance balance params = .ok commitment)
    {fundingProofs : List (Proof T)} {overrideKeysetId : Option T.Id} {request : SwapRequest T}
    (built : commitment.createSwapRequest L fundingProofs overrideKeysetId = .ok request) :
    request.rerandomized = decide (params.commitmentMode = .rerandomized) := by
  obtain ⟨-, _, _, -, -, -, -, -, rfl⟩ := CommitmentOutputs.forBalance_eq_ok_iff.mp committed
  simp only [CommitmentOutputs.createSwapRequest, Outcome.bind_eq_ok, Outcome.pure_eq,
    Outcome.ok.injEq] at built
  obtain ⟨_, -, _, -, rfl⟩ := built
  rfl

/-- Outputs are offered in amounts of the commitment. -/
theorem amount_mem_of_createSwapRequest {balance : Nat} {commitment : CommitmentOutputs T}
    (committed : CommitmentOutputs.forBalance balance params = .ok commitment)
    {fundingProofs : List (Proof T)} {overrideKeysetId : Option T.Id} {request : SwapRequest T}
    (built : commitment.createSwapRequest L fundingProofs overrideKeysetId = .ok request)
    {output : BlindedMessage T} (member : output ∈ request.outputs) :
    output.amount ∈ commitment.receiverOutputs.orderedAmounts.amounts ++
      commitment.senderOutputs.orderedAmounts.amounts := by
  obtain ⟨-, _, _, -, -, -, -, -, rfl⟩ := CommitmentOutputs.forBalance_eq_ok_iff.mp committed
  obtain ⟨receiver, sender, derived, derived', offers⟩ := createSwapRequest_inStep built
  obtain ⟨entry, inEntries, offer⟩ := exists_left_of_forall₂ offers member
  rw [offer.amount, List.mem_append]
  rcases mem_mergedSecrets.mp inEntries with ⟨inRole, -⟩ | ⟨inRole, -⟩
  · exact .inl ((amount_mem_of_getSecretsWithBlinding L derived).mp (List.mem_map_of_mem inRole))
  · exact .inr ((amount_mem_of_getSecretsWithBlinding L derived').mp (List.mem_map_of_mem inRole))

/-- The secrets of a commitment do not depend on how errors would be reported. -/
theorem secretsWithBlinding_errors {ε ε' : Type} {commitment : CommitmentOutputs T}
    {receiverError senderError : String → ε} (receiverError' senderError' : String → ε')
    {entries : List (DeterministicSecretWithBlinding T × Bool)}
    (derived : commitment.secretsWithBlinding L receiverError senderError = .ok entries) :
    commitment.secretsWithBlinding L receiverError' senderError' = .ok entries := by
  simpa only [CommitmentOutputs.secretsWithBlinding, Outcome.bind_eq_ok, Outcome.mapErr_eq_ok,
    Outcome.pure_eq, Outcome.ok.injEq] using derived


end Merged

/-! ## Collisions -/

/-- No two outputs of the commitment to a balance collide: not in their nonces, and
not in the points their secrets are blinded to. -/
structure CollisionFree (L : Cashu T) (params : ChannelParameters T) (balance : Nat) : Prop where
  nonces : ∀ commitment, CommitmentOutputs.forBalance balance params = .ok commitment →
    NoncesDistinct L params
      (commitmentNames params commitment.receiverOutputs.amount commitment.senderOutputs.amount)
  points : ∀ commitment entries, CommitmentOutputs.forBalance balance params = .ok commitment →
    commitment.secretsWithBlinding L id id = .ok entries →
    ∀ entry ∈ entries, ∀ other ∈ entries, ∀ point,
      L.blindMessage entry.1.secret entry.1.blindingFactor = .ok point →
      L.blindMessage other.1.secret other.1.blindingFactor = .ok point →
      entry.1.secret = other.1.secret

/-- It is enough to look at one commitment, its nonces and its points. -/
theorem CollisionFree.of_nodup {L : Cashu T} {params : ChannelParameters T} {balance : Nat}
    {commitment : CommitmentOutputs T} {entries : List (DeterministicSecretWithBlinding T × Bool)}
    (committed : CommitmentOutputs.forBalance balance params = .ok commitment)
    (derived : commitment.secretsWithBlinding L id id = .ok entries)
    (nonces : ((commitmentNames params commitment.receiverOutputs.amount
      commitment.senderOutputs.amount).map fun name => nonceScalar L params name.1 name.2).Nodup)
    (points : (entries.map fun entry =>
      L.blindMessage entry.1.secret entry.1.blindingFactor).Nodup) :
    CollisionFree L params balance where
  nonces := fun _ again name member name' member' nonce hashed hashed' => by
    obtain rfl := Outcome.ok.inj (committed.symm.trans again)
    rw [List.inj_on_of_nodup_map nonces member member' (hashed.trans hashed'.symm)]
  points := fun _ _ again again' entry member other member' point blinds blinds' => by
    obtain rfl := Outcome.ok.inj (committed.symm.trans again)
    obtain rfl := Outcome.ok.inj (derived.symm.trans again')
    rw [List.inj_on_of_nodup_map points member member' (blinds.trans blinds'.symm)]

end Spilman
