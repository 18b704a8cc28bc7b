/-
# Established channels and balance updates

What the receiver checks of the funding proofs before it takes a channel
(`verify_valid_channel`), the channel built from parameters and proofs
(`EstablishedChannel`), and the check of the sender's signature on a balance,
which rebuilds the swap request the signature is about.
-/

import Spilman.Deterministic

namespace Spilman

open Lib

variable {T : Carriers} (L : Cashu T)

/-! ## Channel verification -/

/-- What can be wrong with the funding of a channel. -/
inductive ChannelVerificationError
  | unexpectedWitness (proofIndex amount : Nat)
  | unexpectedP2pkE (proofIndex amount : Nat)
  | missingDleq (proofIndex amount : Nat)
  | dleqBlindingFactorMismatch (proofIndex amount : Nat)
  | invalidDleq (proofIndex amount : Nat) (reason : String)
  | missingMintKey (proofIndex amount : Nat)
  | invalidKeysetId (expected computed : String)
  | valueMismatch (expected actual : Nat)
  | valueOverflow (proofIndex accumulated amount : Nat)
  | countMismatch (expected actual : Nat)
  | secretMismatch (proofIndex : Nat) (expected actual : String)
  | amountMismatch (proofIndex expected actual : Nat)
  | internalError (reason : String)
  deriving DecidableEq, Repr

namespace ChannelVerificationError

/-- An error as JSON, tagged with its type. A bare text cannot carry a tag, so an
internal error cannot be written. -/
def toJson? : ChannelVerificationError → Option Json
  | unexpectedWitness i a => some (tagged "UnexpectedWitness" [("proof_index", .num i), amount a])
  | unexpectedP2pkE i a => some (tagged "UnexpectedP2pkE" [("proof_index", .num i), amount a])
  | missingDleq i a => some (tagged "MissingDleq" [("proof_index", .num i), amount a])
  | dleqBlindingFactorMismatch i a =>
      some (tagged "DleqBlindingFactorMismatch" [("proof_index", .num i), amount a])
  | invalidDleq i a reason =>
      some (tagged "InvalidDleq" [("proof_index", .num i), amount a, ("reason", .str reason)])
  | missingMintKey i a => some (tagged "MissingMintKey" [("proof_index", .num i), amount a])
  | invalidKeysetId expected computed =>
      some (tagged "InvalidKeysetId" [("expected", .str expected), ("computed", .str computed)])
  | valueMismatch expected actual =>
      some (tagged "ValueMismatch" [("expected", .num expected), ("actual", .num actual)])
  | valueOverflow i accumulated a =>
      some (tagged "ValueOverflow"
        [("proof_index", .num i), ("accumulated", .num accumulated), amount a])
  | countMismatch expected actual =>
      some (tagged "CountMismatch" [("expected", .num expected), ("actual", .num actual)])
  | secretMismatch i expected actual =>
      some (tagged "SecretMismatch"
        [("proof_index", .num i), ("expected", .str expected), ("actual", .str actual)])
  | amountMismatch i expected actual =>
      some (tagged "AmountMismatch"
        [("proof_index", .num i), ("expected", .num expected), ("actual", .num actual)])
  | internalError _ => none
where
  tagged (name : String) (fields : List (String × Json)) : Json :=
    .obj (("type", .str name) :: fields)
  amount (a : Nat) : String × Json := ("amount", .num a)

end ChannelVerificationError

/-- All errors as a text, or an empty list if one of them cannot be written. -/
def errorsText (errors : List ChannelVerificationError) : String :=
  match errors.mapM ChannelVerificationError.toJson? with
  | some items => L.jsonString (.arr items)
  | none => "[]"

/-- The keyset identifier that belongs to the keys of a channel. -/
def computedKeysetId (keysetInfo : KeysetInfo T) : T.Id :=
  match L.getVersion keysetInfo.keysetId with
  | .version00 => L.v1FromKeys keysetInfo.activeKeys
  | .version01 => L.v2FromData keysetInfo.activeKeys keysetInfo.unit keysetInfo.inputFeePpk
      keysetInfo.finalExpiry

/-- The identifier has to be the one of the keys. -/
def keysetIdErrors (keysetInfo : KeysetInfo T) : List ChannelVerificationError :=
  if keysetInfo.keysetId = computedKeysetId L keysetInfo then []
  else [.invalidKeysetId (L.idToString keysetInfo.keysetId)
    (L.idToString (computedKeysetId L keysetInfo))]

/-- What is wrong with the equality proof of one funding proof. -/
def dleqErrors (keysetInfo : KeysetInfo T) (proof : Proof T) (i : Nat) :
    List ChannelVerificationError :=
  match keysetInfo.activeKeys.amountKey proof.amount with
  | none => [.missingMintKey i proof.amount]
  | some key =>
      match L.verifyDleq proof key with
      | .ok () => []
      | .error reason => [.invalidDleq i proof.amount reason]

/-- What is wrong with one funding proof taken alone: it may carry no spend
metadata, and needs an equality proof with the expected blinding factor. -/
def proofErrors (keysetInfo : KeysetInfo T) (expected : List (DeterministicSecretWithBlinding T))
    (proof : Proof T) (i : Nat) : List ChannelVerificationError :=
  (if proof.witness.isSome then [.unexpectedWitness i proof.amount] else []) ++
  (if proof.p2pkE.isSome then [.unexpectedP2pkE i proof.amount] else []) ++
  match proof.dleq with
  | none => [.missingDleq i proof.amount]
  | some dleq =>
      (match expected[i]? with
        | none => []
        | some output =>
            if dleq.r = output.blindingFactor then []
            else [.dleqBlindingFactorMismatch i proof.amount]) ++
      dleqErrors L keysetInfo proof i

/-- Add up the amounts of proofs without wrapping. -/
def checkedTotal : List (Proof T) → (index accumulated : Nat) → Except (Nat × Nat × Nat) Nat
  | [], _, accumulated => .ok accumulated
  | proof :: rest, index, accumulated =>
      if accumulated + proof.amount < 2 ^ 64 then
        checkedTotal rest (index + 1) (accumulated + proof.amount)
      else .error (index, accumulated, proof.amount)

/-- The amounts have to sum to the funding amount. -/
def totalErrors (fundingTokenAmount : Nat) (proofs : List (Proof T)) :
    List ChannelVerificationError :=
  match checkedTotal proofs 0 0 with
  | .error (index, accumulated, amount) => [.valueOverflow index accumulated amount]
  | .ok total => if total = fundingTokenAmount then [] else [.valueMismatch fundingTokenAmount total]

/-- Each proof has to have the secret and amount of its funding output. -/
def outputErrors (entry : (Proof T × DeterministicSecretWithBlinding T) × Nat) :
    List ChannelVerificationError :=
  let ((proof, output), i) := entry
  (if proof.secret = output.secret then [] else [.secretMismatch i output.secret proof.secret]) ++
  (if proof.amount = output.amount then [] else [.amountMismatch i output.amount proof.amount])

/-- There has to be one proof for each funding output, in order. -/
def structureErrors (proofs : List (Proof T)) (expected : List (DeterministicSecretWithBlinding T)) :
    List ChannelVerificationError :=
  if proofs.length ≠ expected.length then [.countMismatch expected.length proofs.length]
  else (proofs.zip expected).zipIdx.flatMap outputErrors

/-- The funding outputs of a channel. -/
def fundingSecrets (params : ChannelParameters T) :
    Outcome String (List (DeterministicSecretWithBlinding T)) := do
  let outputs ← DeterministicOutputsForOneContext.new "funding" params.fundingTokenAmount params
  outputs.getSecretsWithBlinding L

/-- All that is wrong with the funding of a channel; it is valid if nothing is. -/
def verifyValidChannel (fundingProofs : List (Proof T)) (params : ChannelParameters T) :
    Outcome Empty (List ChannelVerificationError) :=
  match fundingSecrets L params with
  | .noReturn => .noReturn
  | .err e => .ok (keysetIdErrors L params.keysetInfo ++ [.internalError e])
  | .ok expected => .ok (
      keysetIdErrors L params.keysetInfo ++
      fundingProofs.zipIdx.flatMap (fun entry =>
        proofErrors L params.keysetInfo expected entry.1 entry.2) ++
      totalErrors params.fundingTokenAmount fundingProofs ++
      structureErrors fundingProofs expected)

/-! ## Established channels -/

/-- A channel with its funding proofs. -/
structure EstablishedChannel (T : Carriers) where
  params : ChannelParameters T
  fundingProofs : List (Proof T)
  deriving DecidableEq

/-- Every funding proof has to be of the channel's keyset. -/
def checkKeysetId (expectedKeysetId : T.Id) (proof : Proof T) : Outcome String Unit :=
  .guard ("Funding proof has keyset_id " ++ L.idToString proof.keysetId ++ " but expected " ++
    L.idToString expectedKeysetId ++ " from params") (proof.keysetId = expectedKeysetId)

/-- Put parameters and proofs together. -/
def EstablishedChannel.new (params : ChannelParameters T) (fundingProofs : List (Proof T)) :
    Outcome String (EstablishedChannel T) := do
  .forAll (checkKeysetId L params.keysetInfo.keysetId) fundingProofs
  let actual ← (Outcome.ofExcept (checkedTotal fundingProofs 0 0)).mapErr fun _ =>
    "funding proof total overflow"
  let expected := params.fundingTokenAmount
  .guard (s!"Funding proofs total value {actual} does not match " ++
    s!"expected funding token amount {expected}") (actual = expected)
  return ⟨params, fundingProofs⟩

/-! ## Signatures on balances -/

/-- Read a signature: 64 bytes of hexadecimal, in either case. -/
def signatureFromStr (text : String) : Outcome String (Bytes 64) :=
  .ofOption (L.signatureError text) ((Hex.decode text).bind (Bytes.ofList? 64))

/-- Print a signature. -/
def signatureToString (signature : Bytes 64) : String := Hex.encode signature.val

/-- The signatures on the first input of a request that can be read. -/
def getSignaturesFromSwapRequest (request : SwapRequest T) : Outcome String (List (Bytes 64)) :=
  match request.inputs with
  | [] => .err "No inputs in swap request"
  | first :: _ =>
      match first.witness with
      | some (.p2pk signatures) => .ok (signatures.filterMap fun text =>
          (Hex.decode text).bind (Bytes.ofList? 64))
      | _ => .ok []

/-- The digest of a request in hexadecimal. -/
def sigAllMessageHashHex (request : SwapRequest T) : String :=
  Hex.encode (L.sigAllMessageHash request).val

/-- Check a signature on a request. -/
def verifySwapSignature (request : SwapRequest T) (pubkey : T.PublicKey) (signature : Bytes 64) :
    Outcome String Unit :=
  .guard "signature failed verification"
    (L.verifySchnorr signature (L.sigAllMessageHash request) (L.xOnly pubkey))

/-- A proof without its spend witness. -/
def Proof.clearWitness (proof : Proof T) : Proof T := { proof with witness := none }

/-- The digest both parties sign does not cover the witnesses that carry the
signatures. -/
def Cashu.WitnessFree : Prop :=
  ∀ (inputs inputs' : List (Proof T)) (outputs : List (BlindedMessage T)) (mode : Bool),
    inputs.map Proof.clearWitness = inputs'.map Proof.clearWitness →
    L.sigAllMessageHash ⟨inputs, outputs, mode⟩ = L.sigAllMessageHash ⟨inputs', outputs, mode⟩

/-- Add a signature to a proof. -/
def Proof.addSignature (proof : Proof T) (signature : String) : Proof T :=
  { proof with witness := some ((proof.witness.getD (.p2pk [])).addSignatures [signature]) }

/-- Add a signature to the first input of a request. -/
def attachSignatureToFirstInput (request : SwapRequest T) (signature : String) :
    Outcome String (SwapRequest T) :=
  match request.inputs with
  | [] => .err "Swap request has no inputs"
  | first :: rest => .ok { request with inputs := first.addSignature signature :: rest }

/-- A signed balance of a channel. -/
structure BalanceUpdateMessage where
  channelId : String
  amount : Nat
  signature : Bytes 64

/-- Check the sender's signature against the swap request rebuilt for the balance. -/
def BalanceUpdateMessage.verifySenderSignature (message : BalanceUpdateMessage)
    (channel : EstablishedChannel T) : Outcome String Unit := do
  let commitment ← CommitmentOutputs.forBalance message.amount channel.params
  let swapRequest ← commitment.createSwapRequest L channel.fundingProofs none
  let blindedSenderPubkey ← channel.params.getSenderBlindedPubkeyForStage1 L
  (verifySwapSignature L swapRequest blindedSenderPubkey message.signature).mapErr fun _ =>
    "Invalid signature: Alice did not authorize this balance update"

/-! ## What the checks establish -/

section Specifications

variable {L}

theorem checkedTotal_eq_ok_iff {proofs : List (Proof T)} {index accumulated total : Nat}
    (fits : accumulated < 2 ^ 64) :
    checkedTotal proofs index accumulated = .ok total ↔
      total = accumulated + (proofs.map Proof.amount).sum ∧ total < 2 ^ 64 := by
  induction proofs generalizing index accumulated with
  | nil =>
      simp only [checkedTotal, Except.ok.injEq, List.map_nil, List.sum_nil, Nat.add_zero]
      constructor
      · rintro rfl
        exact ⟨rfl, fits⟩
      · rintro ⟨rfl, -⟩
        rfl
  | cons proof rest ih =>
      rw [checkedTotal, List.map_cons, List.sum_cons]
      split_ifs with small
      · rw [ih small]
        constructor <;> rintro ⟨rfl, bound⟩ <;> exact ⟨by omega, by omega⟩
      · constructor
        · rintro ⟨⟩
        · rintro ⟨rfl, bound⟩
          omega

/-- A channel is established exactly when all proofs are of its keyset and their
amounts sum to the funding amount. -/
theorem EstablishedChannel.new_eq_ok_iff {params : ChannelParameters T}
    {fundingProofs : List (Proof T)} {channel : EstablishedChannel T} :
    EstablishedChannel.new L params fundingProofs = .ok channel ↔
      (∀ proof ∈ fundingProofs, proof.keysetId = params.keysetInfo.keysetId) ∧
      params.fundingTokenAmount = (fundingProofs.map Proof.amount).sum ∧
      params.fundingTokenAmount < 2 ^ 64 ∧ channel = ⟨params, fundingProofs⟩ := by
  unfold EstablishedChannel.new checkKeysetId
  simp only [Outcome.bind_eq_ok, Outcome.forAll_eq_ok, Outcome.guard_eq_ok, Outcome.mapErr_eq_ok,
    Outcome.ofExcept_eq_ok, checkedTotal_eq_ok_iff (show 0 < 2 ^ 64 by decide), Nat.zero_add,
    Outcome.pure_eq, Outcome.ok.injEq]
  constructor
  · rintro ⟨-, keysets, _, ⟨rfl, bound⟩, -, total, rfl⟩
    exact ⟨keysets, total.symm, total ▸ bound, rfl⟩
  · rintro ⟨keysets, total, bound, rfl⟩
    exact ⟨(), keysets, _, ⟨rfl, total ▸ bound⟩, (), total.symm, rfl⟩

/-! ### Verified funding -/

theorem keysetIdErrors_eq_nil_iff {keysetInfo : KeysetInfo T} :
    keysetIdErrors L keysetInfo = [] ↔ keysetInfo.keysetId = computedKeysetId L keysetInfo := by
  unfold keysetIdErrors
  split_ifs with recomputes <;> simp [recomputes]

variable (L) in
/-- A proof has a valid equality proof under the key of its amount. -/
def HasValidDleq (keysetInfo : KeysetInfo T) (proof : Proof T) : Prop :=
  ∃ key, keysetInfo.activeKeys.amountKey proof.amount = some key ∧ L.verifyDleq proof key = .ok ()

theorem dleqErrors_eq_nil_iff {keysetInfo : KeysetInfo T} {proof : Proof T} {i : Nat} :
    dleqErrors L keysetInfo proof i = [] ↔ HasValidDleq L keysetInfo proof := by
  unfold dleqErrors HasValidDleq
  cases keysetInfo.activeKeys.amountKey proof.amount with
  | none => simp
  | some key => cases checked : L.verifyDleq proof key <;> simp [checked]

variable (L) in
/-- A proof is the bare, valid proof of a funding output. -/
structure Funds (keysetInfo : KeysetInfo T) (proof : Proof T)
    (output : DeterministicSecretWithBlinding T) : Prop where
  secret : proof.secret = output.secret
  amount : proof.amount = output.amount
  blindingFactor : ∃ dleq, proof.dleq = some dleq ∧ dleq.r = output.blindingFactor
  witness : proof.witness = none
  p2pkE : proof.p2pkE = none
  verified : HasValidDleq L keysetInfo proof

/-- What is checked of a proof that has an expected output at its place. -/
theorem proofErrors_eq_nil_iff {keysetInfo : KeysetInfo T}
    {expected : List (DeterministicSecretWithBlinding T)} {proof : Proof T} {i : Nat}
    {output : DeterministicSecretWithBlinding T} (place : expected[i]? = some output) :
    proofErrors L keysetInfo expected proof i = [] ↔
      proof.witness = none ∧ proof.p2pkE = none ∧
        (∃ dleq, proof.dleq = some dleq ∧ dleq.r = output.blindingFactor) ∧
        HasValidDleq L keysetInfo proof := by
  unfold proofErrors
  cases proof.dleq with
  | none => simp
  | some dleq =>
      simp [place, dleqErrors_eq_nil_iff]

theorem totalErrors_eq_nil_iff {fundingTokenAmount : Nat} {proofs : List (Proof T)} :
    totalErrors fundingTokenAmount proofs = [] ↔
      fundingTokenAmount = (proofs.map Proof.amount).sum ∧ fundingTokenAmount < 2 ^ 64 := by
  have summed (total : Nat) : checkedTotal proofs 0 0 = .ok total ↔ _ :=
    checkedTotal_eq_ok_iff (show 0 < 2 ^ 64 by decide)
  rw [totalErrors]
  cases checked : checkedTotal proofs 0 0 with
  | error overflow =>
      refine iff_of_false (by simp) ?_
      rintro ⟨total, fits⟩
      have good := (summed fundingTokenAmount).mpr ⟨total.trans (Nat.zero_add _).symm, fits⟩
      rw [checked] at good
      cases good
  | ok total =>
      obtain ⟨isTotal, fits⟩ := (summed total).mp checked
      rw [Nat.zero_add] at isTotal
      constructor
      · intro none
        have same : total = fundingTokenAmount := by
          by_contra differs
          simp [differs] at none
        exact ⟨same ▸ isTotal, same ▸ fits⟩
      · rintro ⟨same, -⟩
        exact if_pos (isTotal.trans same.symm)

/-- Proofs have the secrets and amounts of the expected outputs, in order. -/
theorem structureErrors_eq_nil_iff {proofs : List (Proof T)}
    {expected : List (DeterministicSecretWithBlinding T)} :
    structureErrors proofs expected = [] ↔
      List.Forall₂ (fun proof output => proof.secret = output.secret ∧
        proof.amount = output.amount) proofs expected := by
  have checks (proof : Proof T) (output : DeterministicSecretWithBlinding T) (i : Nat) :
      outputErrors ((proof, output), i) = [] ↔
        proof.secret = output.secret ∧ proof.amount = output.amount := by
    simp [outputErrors]
  rw [structureErrors, List.forall₂_iff_zip]
  split_ifs with count
  · simp [count]
  · rw [List.flatMap_eq_nil_iff]
    constructor
    · intro each
      refine ⟨not_not.mp count, fun {proof output} member => ?_⟩
      obtain ⟨i, found⟩ := List.mem_iff_getElem?.mp member
      exact (checks proof output i).mp
        (each ((proof, output), i) (List.mem_zipIdx_iff_getElem?.mpr found))
    · rintro ⟨-, each⟩ ⟨⟨proof, output⟩, i⟩ member
      apply (checks proof output i).mpr
      exact each (List.mem_of_getElem? (List.mem_zipIdx_iff_getElem?.mp member))

/-- **Funding is valid exactly when** the keyset has the identifier of its keys, and there
is one bare, valid proof for each funding output, in order, and they are worth the
funding amount. -/
theorem verifyValidChannel_eq_ok_nil_iff {params : ChannelParameters T}
    {proofs : List (Proof T)} :
    verifyValidChannel L proofs params = .ok [] ↔
      params.keysetInfo.keysetId = computedKeysetId L params.keysetInfo ∧
      (∃ expected, fundingSecrets L params = .ok expected ∧
        List.Forall₂ (Funds L params.keysetInfo) proofs expected) ∧
      params.fundingTokenAmount = (proofs.map Proof.amount).sum ∧
      params.fundingTokenAmount < 2 ^ 64 := by
  unfold verifyValidChannel
  cases derived : fundingSecrets L params with
  | noReturn => simp
  | err e => simp
  | ok expected =>
      simp only [Outcome.ok.injEq, List.append_eq_nil_iff, List.flatMap_eq_nil_iff,
        keysetIdErrors_eq_nil_iff, totalErrors_eq_nil_iff, structureErrors_eq_nil_iff,
        exists_eq_left']
      constructor
      · rintro ⟨⟨⟨recomputes, each⟩, total⟩, matched⟩
        refine ⟨recomputes, List.forall₂_iff_zip.mpr ⟨matched.length_eq, ?_⟩, total⟩
        intro proof output member
        obtain ⟨secret, amount⟩ := (List.forall₂_iff_zip.mp matched).2 member
        obtain ⟨i, found⟩ := List.mem_iff_getElem?.mp member
        obtain ⟨isProof, isOutput⟩ := List.getElem?_zip_eq_some.mp found
        obtain ⟨witness, p2pkE, blindingFactor, verified⟩ := (proofErrors_eq_nil_iff isOutput).mp
          (each (proof, i) (List.mem_zipIdx_iff_getElem?.mpr isProof))
        exact ⟨secret, amount, blindingFactor, witness, p2pkE, verified⟩
      · rintro ⟨recomputes, funds, total⟩
        refine ⟨⟨⟨recomputes, ?_⟩, total⟩, funds.imp fun _ _ each => ⟨each.secret, each.amount⟩⟩
        rintro ⟨proof, i⟩ member
        have isProof := List.mem_zipIdx_iff_getElem?.mp member
        obtain ⟨output, isOutput⟩ : ∃ output, expected[i]? = some output := by
          have inRange := (List.getElem?_eq_some_iff.mp isProof).1
          rw [funds.length_eq] at inRange
          exact ⟨_, List.getElem?_eq_getElem inRange⟩
        have each := (List.forall₂_iff_zip.mp funds).2
          (List.mem_of_getElem? (List.getElem?_zip_eq_some.mpr ⟨isProof, isOutput⟩))
        exact (proofErrors_eq_nil_iff isOutput).mpr
          ⟨each.witness, each.p2pkE, each.blindingFactor, each.verified⟩

/-- Funding that passes verification is one unsigned proof for each funding output,
in order, with its secret and amount. -/
theorem of_verifyValidChannel {params : ChannelParameters T} {proofs : List (Proof T)}
    (valid : verifyValidChannel L proofs params = .ok []) :
    ∃ expected, fundingSecrets L params = .ok expected ∧
      List.Forall₂ (fun proof output => proof.secret = output.secret ∧
        proof.amount = output.amount) proofs expected ∧
      ∀ proof ∈ proofs, proof.witness = none := by
  obtain ⟨-, ⟨expected, derived, funds⟩, -, -⟩ := verifyValidChannel_eq_ok_nil_iff.mp valid
  refine ⟨expected, derived, funds.imp fun _ _ each => ⟨each.secret, each.amount⟩, ?_⟩
  intro proof member
  obtain ⟨_, -, each⟩ := exists_right_of_forall₂ funds member
  exact each.witness

/-- A balance is authorized exactly when the sender's stage-1 key has signed the
swap of its commitment. -/
theorem verifySenderSignature_eq_ok_iff {message : BalanceUpdateMessage}
    {channel : EstablishedChannel T} {done : Unit} :
    message.verifySenderSignature L channel = .ok done ↔
      ∃ commitment request key,
        CommitmentOutputs.forBalance message.amount channel.params = .ok commitment ∧
        commitment.createSwapRequest L channel.fundingProofs none = .ok request ∧
        channel.params.getSenderBlindedPubkeyForStage1 L = .ok key ∧
        L.verifySchnorr message.signature (L.sigAllMessageHash request) (L.xOnly key) = true := by
  simp only [BalanceUpdateMessage.verifySenderSignature, verifySwapSignature, Outcome.bind_eq_ok,
    Outcome.mapErr_eq_ok, Outcome.guard_eq_ok]
  constructor
  · rintro ⟨commitment, committed, request, built, key, derived, verified⟩
    exact ⟨commitment, request, key, committed, built, derived, verified⟩
  · rintro ⟨commitment, request, key, committed, built, derived, verified⟩
    exact ⟨commitment, committed, request, built, key, derived, verified⟩

/-- A signature is attached to a request that has an input, and nothing else of it
changes. -/
theorem attachSignatureToFirstInput_eq_ok_iff {request signed : SwapRequest T}
    {signature : String} :
    attachSignatureToFirstInput request signature = .ok signed ↔
      ∃ first rest, request.inputs = first :: rest ∧
        signed = { request with inputs := first.addSignature signature :: rest } := by
  unfold attachSignatureToFirstInput
  cases inputs : request.inputs with
  | nil => simp
  | cons first rest =>
      simp only [Outcome.ok.injEq, List.cons.injEq]
      constructor
      · rintro rfl
        exact ⟨first, rest, ⟨rfl, rfl⟩, rfl⟩
      · rintro ⟨_, _, ⟨rfl, rfl⟩, rfl⟩
        rfl

theorem signatureFromStr_eq_ok_iff {text : String} {signature : Bytes 64} :
    signatureFromStr L text = .ok signature ↔ Hex.decode text = some signature.val := by
  simp only [signatureFromStr, Outcome.ofOption_eq_ok, Option.bind_eq_some_iff,
    Bytes.ofList?_eq_some]
  constructor
  · rintro ⟨_, read, rfl⟩
    exact read
  · intro read
    exact ⟨_, read, rfl⟩

/-- A signature prints as the text it was read from exactly if that text is in
lower case. -/
theorem signatureToString_eq_iff {text : String} {signature : Bytes 64}
    (read : signatureFromStr L text = .ok signature) :
    signatureToString signature = text ↔ Hex.IsLower text :=
  Hex.encode_decode_iff (signatureFromStr_eq_ok_iff.mp read)

end Specifications

end Spilman
