/-
# A small channel

The parties of a channel over the small ecash library: a sender who funds the
channel and signs balances, and a receiver's host with one keyset. The library is
shown to have the laws that results about issuing and signing assume, so these
results speak about something.
-/

import Mathlib.Tactic.Ring
import Spilman.Sample
import Spilman.Outputs
import Spilman.Bridge.Verify

namespace Spilman.Sample

open Lib

/-! ## Laws -/

theorem nonzeroKey_eq_ok {k : Point} {key : carriers.SecretKey} (made : nonzeroKey k = .ok key) :
    key.val = k := by
  unfold nonzeroKey at made
  split_ifs at made
  exact (congrArg Subtype.val (Except.ok.inj made)).symm

/-- Unblinding takes off exactly what blinding has put on. -/
theorem unblind_of_signed {keys : Keys carriers} {signature : BlindSignature carriers}
    {output : PreparedSwapOutput carriers}
    (signed : SignedOutput library keys signature output.blindedMessage)
    (blinds : library.blindMessage output.secret output.blindingFactor =
      .ok output.blindedMessage.blindedSecret) :
    ∃ proof, unblind signature output.blindingFactor output.secret keys = .ok proof ∧
      proof.amount = output.blindedMessage.amount ∧ proof.secret = output.secret ∧
      ∃ key, keys.amountKey proof.amount = some key ∧ library.verifyDleq proof key = .ok () := by
  obtain ⟨amount, -, key, hasKey, verified⟩ := signed
  have blinded : hashToCurve output.secret + output.blindingFactor.val =
      output.blindedMessage.blindedSecret := Except.ok.inj blinds
  have checked : signature.dleq.isSome ∧ signature.c =
      (key : Point) * output.blindedMessage.blindedSecret := by
    by_contra fails
    simp [library, fails] at verified
  rw [← amount] at hasKey
  refine ⟨_, by simp only [unblind, hasKey]; rfl, amount, rfl, key, hasKey, ?_⟩
  refine if_pos ⟨by simpa using checked.1, ?_⟩
  show signature.c - output.blindingFactor.val * (key : Point) = key * hashToCurve output.secret
  rw [checked.2, ← blinded]
  ring

theorem issues : library.Issues where
  constructs := fun keys signatures outputs verified => by
    induction verified with
    | nil => exact ⟨[], rfl, .nil⟩
    | cons first _ ih =>
        obtain ⟨proof, unblinded, good⟩ := unblind_of_signed first.1 first.2
        obtain ⟨proofs, built, rest⟩ := ih
        refine ⟨proof :: proofs, ?_, .cons good rest⟩
        simp only [library, List.map_cons, constructProofs, unblinded] at built ⊢
        rw [built]
  moves := fun r tweak outputs derived isTweak moved => by
    obtain rfl := Except.ok.inj isTweak
    obtain rfl := Except.ok.inj moved
    rw [List.forall₂_map_right_iff, List.forall₂_same]
    refine fun output _ => ⟨rfl, fun secret k k' blinds added => ?_⟩
    have blinded : hashToCurve secret + k.val = output.blindedSecret := Except.ok.inj blinds
    have sum : k'.val = k.val + (digest r.val : Point) := nonzeroKey_eq_ok added
    refine congrArg Except.ok ?_
    show hashToCurve secret + k'.val = output.blindedSecret + (digest r.val : Point)
    rw [sum, ← blinded, add_assoc]

theorem unblindedFrom_of_unblind {signature : BlindSignature carriers}
    {output : PreparedSwapOutput carriers} {keys : Keys carriers} {proof : Proof carriers}
    (made : unblind signature output.blindingFactor output.secret keys = .ok proof) :
    UnblindedFrom (signature, output) proof := by
  unfold unblind at made
  cases found : keys.amountKey signature.amount with
  | none => simp [found] at made
  | some key =>
      simp only [found, Except.ok.injEq] at made
      subst made
      exact ⟨rfl, rfl, rfl, rfl, rfl, rfl⟩

/-- The small library unblinds signature by signature. -/
theorem unblind_of_constructProofs {keys : Keys carriers}
    {signatures : List (BlindSignature carriers)} {outputs : List (PreparedSwapOutput carriers)}
    {proofs : List (Proof carriers)}
    (built : constructProofs signatures (outputs.map PreparedSwapOutput.blindingFactor)
      (outputs.map PreparedSwapOutput.secret) keys = .ok proofs)
    (count : signatures.length = outputs.length) :
    List.Forall₂ (fun pair proof =>
      unblind pair.1 pair.2.blindingFactor pair.2.secret keys = .ok proof)
      (signatures.zip outputs) proofs := by
  induction signatures generalizing outputs proofs with
  | nil =>
      obtain rfl := List.eq_nil_of_length_eq_zero count.symm
      obtain rfl := Except.ok.inj built
      exact .nil
  | cons signature signatures ih =>
      cases outputs with
      | nil => cases count
      | cons output outputs =>
          simp only [List.map_cons, constructProofs] at built
          cases made : unblind signature output.blindingFactor output.secret keys with
          | error error => simp [made] at built
          | ok proof =>
              cases rest : constructProofs signatures
                  (outputs.map PreparedSwapOutput.blindingFactor)
                  (outputs.map PreparedSwapOutput.secret) keys with
              | error error => simp [made, rest] at built
              | ok others =>
                  simp only [made, rest, Except.ok.injEq] at built
                  subst built
                  exact .cons made (ih rest (Nat.succ.inj count))

theorem unblinds : library.Unblinds where
  constructs := by
    intro keys signatures outputs proofs built count
    exact (unblind_of_constructProofs built count).imp fun _ _ made => unblindedFrom_of_unblind made
  looksUp := by
    intro keys keys' signatures rs secrets same
    show constructProofs signatures rs secrets keys' = constructProofs signatures rs secrets keys
    induction signatures generalizing rs secrets with
    | nil => cases rs <;> cases secrets <;> rfl
    | cons signature signatures ih =>
        cases rs with
        | nil => rfl
        | cons r rs =>
            cases secrets with
            | nil => rfl
            | cons secret secrets =>
                have first : unblind signature r secret keys' = unblind signature r secret keys := by
                  rw [unblind, same signature List.mem_cons_self, unblind]
                rw [constructProofs, constructProofs, first,
                  ih fun other member => same other (List.mem_cons_of_mem _ member)]
  tweaks := by
    intro r outputs derived moved
    obtain rfl := Except.ok.inj moved
    rw [List.forall₂_map_right_iff, List.forall₂_same]
    exact fun _ _ => ⟨rfl, rfl⟩

/-- The mint's signature on an output. -/
def signOutput (keyset : KeysetInfo carriers) (output : BlindedMessage carriers) :
    BlindSignature carriers :=
  let one : carriers.SecretKey := ⟨1, Sample.one_ne_zero⟩
  ⟨output.amount, output.keysetId,
    (keyset.activeKeys.amountKey output.amount).getD (0 : Point) * output.blindedSecret,
    some ⟨one, one⟩⟩

theorem signedOutput_signOutput {keyset : KeysetInfo carriers} {output : BlindedMessage carriers}
    (hasKey : (keyset.activeKeys.amountKey output.amount).isSome) :
    SignedOutput library keyset.activeKeys (signOutput keyset output) output := by
  obtain ⟨key, isKey⟩ := Option.isSome_iff_exists.mp hasKey
  refine ⟨rfl, rfl, key, isKey, if_pos ⟨rfl, ?_⟩⟩
  rw [signOutput, isKey]
  rfl

/-- A printed answer of the mint reads back. -/
theorem parseSwapResponse_toJson (response : SwapResponse carriers) :
    parseSwapResponse library (responseToJson response) = .ok response := by
  simp only [parseSwapResponse, library, bind, Except.bind, responseOfJson_toJson]

theorem readsP2pk : library.ReadsP2pk := by
  intro key nonce
  have opening : "[\"P2PK\",\x7b\"data\":\"".toList.length = 17 := by decide
  have digits : (pointToHex key).toList.length = 2 := by
    rw [pointToHex, Hex.length_encode, List.length_singleton]
  have data : textAt (p2pkSecret (pointToHex key) (Hex.encode nonce.val)) 17 2 = pointToHex key :=
    textAt_append opening digits
  refine ⟨readP2pk _, rfl, rfl, ?_⟩
  simp only [readP2pk, Json.item?, List.getElem?_cons_succ, List.getElem?_cons_zero,
    Option.bind_some, Json.get?, List.lookup_cons, beq_self_eq_true, Json.asStr_str]
  exact congrArg some data

/-! ## What is signed -/

/-- Witnesses are not part of the message. -/
theorem sigAllBytes_congr {inputs inputs' : List (Proof carriers)}
    {outputs : List (BlindedMessage carriers)} {mode : Bool}
    (same : inputs.map Proof.clearWitness = inputs'.map Proof.clearWitness) :
    sigAllBytes ⟨inputs, outputs, mode⟩ = sigAllBytes ⟨inputs', outputs, mode⟩ := by
  have bytes (list : List (Proof carriers)) :
      list.flatMap (fun input => utf8 input.secret ++ [pointByte input.c]) =
        (list.map Proof.clearWitness).flatMap fun input =>
          utf8 input.secret ++ [pointByte input.c] := by
    rw [List.flatMap_map]
    rfl
  simp only [sigAllBytes]
  rw [bytes inputs, same, ← bytes inputs']

/-! ## The sender -/

/-- What the parties of a channel agree on, besides the keyset. -/
structure Terms where
  mint : String
  unit : String
  capacity : Nat
  fundingTokenAmount : Nat
  maximumAmount : Nat
  expiryTimestamp : Nat
  mode : String

/-- A keyset under the identifier of its keys. -/
def mintKeyset (unit : String) (keys : List (Nat × Point)) (inputFeePpk : Nat) :
    KeysetInfo carriers :=
  .new (library.v1FromKeys (SortedMap.ofList keys)) unit (SortedMap.ofList keys) inputFeePpk none

/-- The parameters as they are sent. -/
def Terms.toJson (terms : Terms) (keyset : KeysetInfo carriers) : Json :=
  .obj [
    ("commitment_mode", .str terms.mode),
    ("mint", .str terms.mint),
    ("unit", .str terms.unit),
    ("capacity", .num terms.capacity),
    ("funding_token_amount", .num terms.fundingTokenAmount),
    ("maximum_amount_for_one_output", .num terms.maximumAmount),
    ("setup_timestamp", .num 0),
    ("expiry_timestamp", .num terms.expiryTimestamp),
    ("sender_pubkey", .str "03"),
    ("receiver_pubkey", .str "04"),
    ("keyset_id", .str keyset.keysetId),
    ("input_fee_ppk", .num keyset.inputFeePpk)]

/-- The secret both parties compute. -/
def sharedSecret : Bytes 32 := bytes32 11

def Terms.params (terms : Terms) (keyset : KeysetInfo carriers) :
    Outcome String (ChannelParameters carriers) :=
  ChannelParameters.ofJson library (terms.toJson keyset) keyset sharedSecret

/-- A proof of an output, as the mint and the sender make it together. -/
def issue (keyset : KeysetInfo carriers) (output : DeterministicSecretWithBlinding carriers) :
    Proof carriers where
  amount := output.amount
  keysetId := keyset.keysetId
  secret := output.secret
  c := (keyset.activeKeys.amountKey output.amount).getD (0 : Point) * hashToCurve output.secret
  witness := none
  dleq := some ⟨output.blindingFactor, output.blindingFactor, output.blindingFactor⟩
  p2pkE := none

/-- The proofs that fund a channel. -/
def Terms.fund (terms : Terms) (keyset : KeysetInfo carriers) :
    Outcome String (List (Proof carriers)) := do
  let params ← terms.params keyset
  let secrets ← fundingSecrets library params
  return secrets.map (issue keyset)

/-- The sender's signature on a balance. -/
def Terms.sign (terms : Terms) (keyset : KeysetInfo carriers) (balance : Nat) :
    Outcome String String := do
  let params ← terms.params keyset
  let proofs ← terms.fund keyset
  let commitment ← CommitmentOutputs.forBalance balance params
  let request ← commitment.createSwapRequest library proofs none
  let key ← params.getSenderBlindedPubkeyForStage1 library
  return Hex.encode ((library.sigAllMessageHash request).val ++ (library.xOnly key).val)

/-! ## The receiver's host -/

/-- The key a signer signs with: its own, negated if odd, plus the tweak. -/
def tweakedKey (key tweak : Point) : Point :=
  (if library.hasOddY key then -key else key) + tweak

/-- Sign a digest with a shifted key. All three arguments are hexadecimal. -/
def signTweaked (keyHex messageHex tweakHex : String) : Except String String :=
  match pointFromHex keyHex, Hex.decode messageHex, (Hex.decode tweakHex).bind scalarOfBytes with
  | .ok key, some message, some tweak =>
      .ok (Hex.encode (message ++ (library.xOnly (tweakedKey key tweak)).val))
  | _, _, _ => .error "cannot sign"

theorem signTweaked_eq {receiver tweak key : Point} (message : Bytes 32)
    (shifted : deriveBlindedPubkey library receiver tweak = .ok key) :
    signTweaked (pointToHex receiver) (Hex.encode message.val) (Hex.encode (bytes32 tweak.val).val) =
      .ok (Hex.encode (message.val ++ (library.xOnly key).val)) := by
  have isKey : key = tweakedKey receiver tweak := by
    simp only [deriveBlindedPubkey, library, Outcome.mapErr_eq_ok, Outcome.ofExcept_eq_ok] at shifted
    unfold tweakedKey
    split_ifs at shifted ⊢ <;> simp_all [library]
  simp only [signTweaked, pointFromHex_toHex, Hex.decode_encode, Option.bind_some,
    scalarOfBytes_bytes32, isKey]

/-- A host that trusts one keyset of one mint and has a policy for some units. It
has stored nothing, and nothing is due. -/
def host (mint : String) (keyset : KeysetInfo carriers)
    (policies : String → Option ChannelPolicy) (now : Nat) : Host carriers Unit where
  receiverKeyIsAcceptable := fun key => decide (key = point 4)
  mintAndKeysetIsAcceptable := fun url id => url = mint ∧ id = keyset.keysetId
  getFunding := fun _ => none
  getAmountDue := fun _ _ => 0
  getChannelState := fun _ => .ok none
  getClosingData := fun _ => none
  getChannelPolicy := policies
  nowSeconds := now
  getBalanceAndSignatureForUnilateralExit := fun _ => none
  getActiveKeysetIds := fun _ _ => [keyset.keysetId]
  getKeysetInfo := fun _ id => if id = keyset.keysetId then some (keyset.toJson library) else none
  computeChannelSecret := fun _ _ => .ok (Hex.encode sharedSecret.val)
  signWithTweakedKey := signTweaked

/-- The host's signatures verify under the shifted key. -/
theorem signsHonestly {host : Host carriers Unit} (signer : host.signWithTweakedKey = signTweaked)
    (receiver : Point) : SignsHonestly library host receiver := by
  intro tweak key message shifted
  have length : (message.val ++ (library.xOnly key).val).length = 64 := by
    rw [List.length_append, message.property, (library.xOnly key).property]
  refine ⟨_, ⟨_, length⟩, signer ▸ signTweaked_eq message shifted,
    signatureFromStr_eq_ok_iff.mpr (Hex.decode_encode _), ?_⟩
  exact decide_eq_true rfl

/-- A host that has stored the funding of one channel, which is open. -/
def storing (host : Host carriers Unit) (channelId : String)
    (funding : ChannelFunding carriers) : Host carriers Unit :=
  { host with
    getFunding := fun id => if id = channelId then some funding else none
    getChannelState := fun id => .ok (if id = channelId then some .opened else none) }

/-- The sender opens a channel: its identifier and everything that is sent. -/
structure Opening where
  channelId : String
  paramsVal : Json
  proofs : List (Proof carriers)
  signature : String
  deriving DecidableEq

def Terms.openWith (terms : Terms) (keyset : KeysetInfo carriers) (balance : Nat) :
    Outcome String Opening := do
  let params ← terms.params keyset
  let proofs ← terms.fund keyset
  let signature ← terms.sign keyset balance
  return ⟨params.getChannelId library, terms.toJson keyset, proofs, signature⟩

/-- The receiver validates what the sender has sent. -/
def Opening.validate (opening : Opening) (host : Host carriers Unit) (balance : Nat) :
    Outcome BridgeError (ValidatedNewChannel carriers) :=
  validateNewChannelFunding library host opening.channelId opening.paramsVal opening.proofs balance
    opening.signature

/-- A channel that was opened and accepted, with the parameters in its funding. -/
structure Accepted where
  opening : Opening
  validated : ValidatedNewChannel carriers
  params : ChannelParameters carriers
  deriving DecidableEq

/-- Open a channel with a host. -/
def Terms.openAt (terms : Terms) (keyset : KeysetInfo carriers) (host : Host carriers Unit)
    (balance : Nat) : Outcome String Accepted := do
  let opening ← terms.openWith keyset balance
  let validated ← (opening.validate host balance).mapErr BridgeError.text
  let params ← storedParams library validated.funding
  return ⟨opening, validated, params⟩

theorem of_openAt {terms : Terms} {keyset : KeysetInfo carriers} {host : Host carriers Unit}
    {balance : Nat} {accepted : Accepted}
    (opened : terms.openAt keyset host balance = .ok accepted) :
    accepted.opening.validate host balance = .ok accepted.validated ∧
      storedParams library accepted.validated.funding = .ok accepted.params := by
  simp only [Terms.openAt, Outcome.bind_eq_ok, Outcome.mapErr_eq_ok, Outcome.pure_eq,
    Outcome.ok.injEq] at opened
  obtain ⟨opening, -, validated, valid, params, stored, rfl⟩ := opened
  exact ⟨valid, stored⟩

/-! ## Runs -/

/-- A keyset of two denominations, without a fee. -/
def pairs (unit : String) : KeysetInfo carriers :=
  mintKeyset unit [(1, point 5), (2, point 6)] 0

/-- A channel of two units that pays up to two. -/
def two (mint : String) : Terms := ⟨mint, "sat", 2, 2, 0, 2000, "ordinary"⟩

/-- A policy for one unit. -/
def policyFor (unit : String) (policy : ChannelPolicy) : String → Option ChannelPolicy :=
  fun name => if name = unit then some policy else none

/-- A host with a policy for `sat` and one trusted keyset. -/
def satHost (mint keysetUnit : String) : Host carriers Unit :=
  host mint (pairs keysetUnit) (policyFor "sat" ⟨100, 1, some 2⟩) 1000

/-- What is looked at in a run: what was sent, what was read back, and that the
outputs of the balance do not collide and have keys in a given keyset. -/
structure Inspected (terms : Terms) (keyset outKeyset : KeysetInfo carriers) (balance : Nat)
    (signature : String) (accepted : Accepted) : Prop where
  sent : accepted.opening.paramsVal = terms.toJson keyset
  named : accepted.opening.channelId ≠ ""
  signature_eq : accepted.opening.signature = signature
  capacity_eq : accepted.validated.capacity = terms.capacity
  funding_eq : accepted.params.fundingTokenAmount = terms.fundingTokenAmount
  maximum_eq : accepted.params.maximumAmountForOneOutput = terms.maximumAmount
  unit_eq : accepted.params.unit = outKeyset.unit
  mode_eq : accepted.params.commitmentMode = .ordinary
  collisionFree : CollisionFree library accepted.params balance
  keys : ∀ commitment, CommitmentOutputs.forBalance balance accepted.params = .ok commitment →
    ∀ amount ∈ commitment.receiverOutputs.orderedAmounts.amounts ++
      commitment.senderOutputs.orderedAmounts.amounts,
      (outKeyset.activeKeys.amountKey amount).isSome

theorem Inspected.mint_eq {terms : Terms} {keyset outKeyset : KeysetInfo carriers} {balance : Nat}
    {signature : String} {accepted : Accepted}
    (facts : Inspected terms keyset outKeyset balance signature accepted) :
    (accepted.opening.paramsVal.field "mint").asStr = some terms.mint := by
  rw [facts.sent]
  rfl

/-- The inspection as a computation. -/
def inspect (terms : Terms) (keyset outKeyset : KeysetInfo carriers) (balance : Nat)
    (signature : String) (accepted : Accepted) : Bool :=
  decide (accepted.opening.paramsVal = terms.toJson keyset ∧ accepted.opening.channelId ≠ "" ∧
    accepted.opening.signature = signature ∧ accepted.validated.capacity = terms.capacity ∧
    accepted.params.fundingTokenAmount = terms.fundingTokenAmount ∧
    accepted.params.maximumAmountForOneOutput = terms.maximumAmount ∧
    accepted.params.unit = outKeyset.unit ∧ accepted.params.commitmentMode = .ordinary) &&
  (CommitmentOutputs.forBalance balance accepted.params).okAnd fun commitment =>
    (commitment.secretsWithBlinding library id id).okAnd fun entries =>
      decide (((commitmentNames accepted.params commitment.receiverOutputs.amount
          commitment.senderOutputs.amount).map fun name =>
            nonceScalar library accepted.params name.1 name.2).Nodup ∧
        (entries.map fun entry =>
          library.blindMessage entry.1.secret entry.1.blindingFactor).Nodup ∧
        ∀ amount ∈ commitment.receiverOutputs.orderedAmounts.amounts ++
          commitment.senderOutputs.orderedAmounts.amounts,
          (outKeyset.activeKeys.amountKey amount).isSome)

theorem inspected_of_inspect {terms : Terms} {keyset outKeyset : KeysetInfo carriers}
    {balance : Nat} {signature : String} {accepted : Accepted}
    (passed : inspect terms keyset outKeyset balance signature accepted = true) :
    Inspected terms keyset outKeyset balance signature accepted := by
  obtain ⟨facts, checked⟩ := Bool.and_eq_true_iff.mp passed
  obtain ⟨sent, named, signed, capacity, funding, maximum, unit, mode⟩ := of_decide_eq_true facts
  obtain ⟨commitment, committed, checked⟩ := Outcome.exists_of_okAnd checked
  obtain ⟨entries, derived, checked⟩ := Outcome.exists_of_okAnd checked
  obtain ⟨nonces, points, keys⟩ := of_decide_eq_true checked
  refine ⟨sent, named, signed, capacity, funding, maximum, unit, mode,
    .of_nodup committed derived nonces points, fun _ again => ?_⟩
  obtain rfl := Outcome.ok.inj (committed.symm.trans again)
  exact keys

/-- Run and inspect. -/
theorem exists_inspected {terms : Terms} {keyset outKeyset : KeysetInfo carriers}
    {host : Host carriers Unit} {balance : Nat} {signature : String}
    (ran : (terms.openAt keyset host balance).okAnd
      (inspect terms keyset outKeyset balance signature) = true) :
    ∃ accepted, terms.openAt keyset host balance = .ok accepted ∧
      Inspected terms keyset outKeyset balance signature accepted := by
  obtain ⟨accepted, opened, passed⟩ := Outcome.exists_of_okAnd ran
  exact ⟨accepted, opened, inspected_of_inspect passed⟩

/-- The signature of a key on a digest, both below 256. -/
def signatureText (message key : Nat) : String :=
  Hex.encode ((bytes32 message).val ++ (bytes32 key).val)

/-- A channel with a mint whose URL ends in no slash. -/
theorem opens_two : ∃ accepted, (two "m").openAt (pairs "sat") (satHost "m" "sat") 1 = .ok accepted ∧
    Inspected (two "m") (pairs "sat") (pairs "sat") 1 (signatureText 119 47) accepted :=
  exists_inspected (by decide +kernel)

/-- The same channel with a mint whose URL ends in a slash. -/
theorem opens_slash : ∃ accepted, (two "m/").openAt (pairs "sat") (satHost "m/" "sat") 1 =
    .ok accepted ∧
      Inspected (two "m/") (pairs "sat") (pairs "sat") 1 (signatureText 119 47) accepted :=
  exists_inspected (by decide +kernel)

end Spilman.Sample
