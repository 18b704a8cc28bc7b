/-
# Refunds of the sender

After a channel has expired, its sender alone can spend the funding. The refund is prepared
as one record: deterministic outputs with their secrets, and the swap of all funding proofs
into them, signed by the sender. The outputs are derived for one keyset of the mint, the
derivation keyset. If that keyset is retired before the swap, the same outputs are offered
under another one; their points, and the message that was signed, stay the same.

A record is kept as text, so it is verified before it is used: it is derived once more, and
compared with what was read.
-/

import Spilman.Lib.Numbering
import Spilman.Lib.Table
import Spilman.SampleChannel
import Spilman.Signing

namespace Spilman

open Lib

variable {T : Carriers} (L : Cashu T) (K : KeyOps T)

/-! ## Records -/

def senderRefundLooseContext : String := "sender_refund_loose"

/-- One output of a refund. -/
structure PreparedSenderRefundOutput (T : Carriers) where
  amount : Nat
  index : Nat
  secret : String
  blindingFactor : T.SecretKey
  blindedMessage : BlindedMessage T

/-- A refund that can be submitted, and its outputs restored. -/
structure PreparedSenderRefund (T : Carriers) where
  channelId : String
  mint : String
  unit : T.CurrencyUnit
  outputKeyset : KeysetInfo T
  derivationKeyset : KeysetInfo T
  derivationVersion : Nat
  derivationContext : Bytes 32
  outputAmountRaw : Nat
  outputs : List (PreparedSenderRefundOutput T)
  swapRequest : SwapRequest T

/-- `serde_json::to_value` of a blinded message. -/
def BlindedMessage.toJson (message : BlindedMessage T) : Json :=
  .obj [
    ("B_", .str (L.publicKeyToHex message.blindedSecret)),
    ("amount", .num message.amount),
    ("id", .str (L.idToString message.keysetId))]

def PreparedSenderRefundOutput.toJson (output : PreparedSenderRefundOutput T) : Json :=
  .obj [
    ("amount", .num output.amount),
    ("blinded_message", output.blindedMessage.toJson L),
    ("blinding_factor", .str (secretToHex L output.blindingFactor)),
    ("index", .num output.index),
    ("secret", .str output.secret)]

def PreparedSenderRefund.toJson (refund : PreparedSenderRefund T) : Json :=
  .obj [
    ("channel_id", .str refund.channelId),
    ("derivation_context", .arr (refund.derivationContext.val.map fun byte => .num byte.toNat)),
    ("derivation_keyset", refund.derivationKeyset.toJson L),
    ("derivation_version", .num refund.derivationVersion),
    ("mint", .str refund.mint),
    ("output_amount_raw", .num refund.outputAmountRaw),
    ("output_keyset", refund.outputKeyset.toJson L),
    ("outputs", .arr (refund.outputs.map fun output => output.toJson L)),
    ("swap_request", L.swapRequestToJson refund.swapRequest),
    ("unit", .str (L.unitToString refund.unit))]

/-! ## Deriving the outputs -/

namespace EstablishedChannel

/-- What a value of an output is hashed from. The sender's key is part of it, since the
receiver knows everything else. -/
def looseRefundPreimage (channel : EstablishedChannel T) (senderSecret : T.SecretKey)
    (amount index : Nat) (outputKeyset : KeysetInfo T) (derivationContext : Bytes 32)
    (purpose : String) : List UInt8 :=
  channel.params.channelSecret.val ++ (L.secretBytes senderSecret).val ++ derivationContext.val ++
    utf8 (L.jsonString (outputKeyset.toJson L)) ++ [0, 0, 0, 1] ++
    utf8 (channel.params.getChannelId L ++ "|" ++ senderRefundLooseContext ++ "|" ++
      toString amount ++ "|" ++ toString index ++ "|" ++ purpose)

/-- The secret of a proof of the refund. -/
def looseRefundSecret (channel : EstablishedChannel T) (senderSecret : T.SecretKey)
    (amount index : Nat) (outputKeyset : KeysetInfo T) (derivationContext : Bytes 32) : String :=
  senderRefundLooseContext ++ ":" ++ channel.params.getChannelId L ++ ":" ++ toString amount ++
    ":" ++ Hex.encode (L.sha256 (channel.looseRefundPreimage L senderSecret amount index
      outputKeyset derivationContext "secret")).val

def prepareLooseRefundOutput (channel : EstablishedChannel T) (senderSecret : T.SecretKey)
    (amount index : Nat) (outputKeyset : KeysetInfo T) (derivationContext : Bytes 32) :
    Outcome String (PreparedSenderRefundOutput T) := do
  let preimage :=
    channel.looseRefundPreimage L senderSecret amount index outputKeyset derivationContext
  let secret :=
    channel.looseRefundSecret L senderSecret amount index outputKeyset derivationContext
  let blindingScalar ← hashToSecpScalar L (preimage "blinding") L.sha256
  let blindingFactor ← .ofExcept (L.secretKeyFromSlice (L.scalarToBeBytes blindingScalar).val)
  let blindedPoint ← .ofExcept (L.blindMessage secret blindingFactor)
  return ⟨amount, index, secret, blindingFactor, ⟨amount, outputKeyset.keysetId, blindedPoint⟩⟩

/-- The loop over the amounts, with the next index of each. -/
def looseRefundOutputs (prepare : Nat → Nat → Outcome String (PreparedSenderRefundOutput T)) :
    List Nat → Table Nat Nat → Outcome String (List (PreparedSenderRefundOutput T))
  | [], _ => .ok []
  | amount :: rest, perAmountIndex => do
      let index := (perAmountIndex.lookup amount).getD 0
      let output ← prepare amount index
      let outputs ← looseRefundOutputs prepare rest (perAmountIndex.insert amount (index + 1))
      return output :: outputs

def prepareLooseRefundOutputs (channel : EstablishedChannel T) (senderSecret : T.SecretKey)
    (amounts : List Nat) (outputKeyset : KeysetInfo T) (derivationContext : Bytes 32) :
    Outcome String (List (PreparedSenderRefundOutput T)) :=
  looseRefundOutputs (fun amount index =>
    channel.prepareLooseRefundOutput L senderSecret amount index outputKeyset derivationContext)
    amounts ∅

def fundingTotalRaw (channel : EstablishedChannel T) : Outcome String Nat :=
  (Outcome.ofExcept (checkedTotal channel.fundingProofs 0 0)).mapErr fun _ =>
    "funding proof total overflow"

/-- The refund without a signature. The output keyset has to be a keyset of the channel's
unit, named and ordered by its keys. -/
def prepareUnsignedSenderRefund (channel : EstablishedChannel T) (senderSecret : T.SecretKey)
    (outputKeyset : KeysetInfo T) (derivationContext : Bytes 32) :
    Outcome String (PreparedSenderRefund T) := do
  .guard "refund output unit mismatch" (outputKeyset.unit = channel.params.unit)
  .guard "refund output keyset identity mismatch"
    (computedKeysetId L outputKeyset = outputKeyset.keysetId)
  let canonical := KeysetInfo.new outputKeyset.keysetId outputKeyset.unit outputKeyset.activeKeys
    outputKeyset.inputFeePpk outputKeyset.finalExpiry
  .guard "invalid refund output denominations" (0 ∉ canonical.amountsLargestFirst ∧
    canonical.amountsLargestFirst = outputKeyset.amountsLargestFirst)
  let fundingTotal ← channel.fundingTotalRaw
  let inputFeePpk := channel.params.keysetInfo.inputFeePpk * channel.fundingProofs.length
  .guard "funding input fee overflow" (inputFeePpk < 2 ^ 64)
  let inputFee := Greedy.divCeil inputFeePpk 1000
  .guard "funding input fee exceeds funding total" (inputFee ≤ fundingTotal)
  let outputAmountRaw := fundingTotal - inputFee
  .guard "refund has zero net value" (outputAmountRaw ≠ 0)
  let outputAmounts ← OrderedListOfAmounts.fromTarget outputAmountRaw
    channel.params.maximumAmountForOneOutput outputKeyset
  let outputs ← channel.prepareLooseRefundOutputs L senderSecret outputAmounts.amounts outputKeyset
    derivationContext
  return {
    channelId := channel.params.getChannelId L
    mint := channel.params.mint
    unit := channel.params.unit
    outputKeyset
    derivationKeyset := outputKeyset
    derivationVersion := 1
    derivationContext
    outputAmountRaw
    outputs
    swapRequest := {
      inputs := channel.fundingProofs.map Proof.clearWitness
      outputs := outputs.map PreparedSenderRefundOutput.blindedMessage
      rerandomized := false } }

end EstablishedChannel

/-! ## Signing -/

def deriveBlindedSecretKey (secret : T.SecretKey) (r : T.Scalar) : Outcome String T.SecretKey :=
  (Outcome.ofExcept (L.addTweak (effectiveSecret L K secret) r)).mapErr fun e =>
    s!"Failed to add blinding tweak: {e}"

def ChannelParameters.getSenderBlindedSecretKeyForStage1Refund (params : ChannelParameters T)
    (aliceSecret : T.SecretKey) : Outcome String T.SecretKey := do
  let r ← params.deriveBlindingScalar L "sender_stage1_refund"
  deriveBlindedSecretKey L K aliceSecret r

/-- Sign a request as a whole, in the witness of its first input. -/
def SwapRequest.signSigAll (request : SwapRequest T) (secret : T.SecretKey) :
    Outcome String (SwapRequest T) :=
  attachSignatureToFirstInput request
    (signatureToString (K.signSchnorr secret (L.sha256 (L.sigAllMsgToSign request))))

/-- The message that is signed does not cover the witnesses that carry the signatures. -/
def Cashu.UnsignedWitness : Prop :=
  ∀ (inputs inputs' : List (Proof T)) (outputs : List (BlindedMessage T)) (mode : Bool),
    inputs.map Proof.clearWitness = inputs'.map Proof.clearWitness →
    L.sigAllMsgToSign ⟨inputs, outputs, mode⟩ = L.sigAllMsgToSign ⟨inputs', outputs, mode⟩

/-- The refund, signed by the sender of a channel that has expired. -/
def EstablishedChannel.prepareSenderRefundAfterExpiry (channel : EstablishedChannel T)
    (senderSecret : T.SecretKey) (nowSeconds : Nat) (outputKeyset : KeysetInfo T)
    (derivationContext : Bytes 32) : Outcome String (PreparedSenderRefund T) := do
  .guard (s!"channel has not expired: now={nowSeconds} " ++
    s!"expiry={channel.params.expiryTimestamp}") (channel.params.expiryTimestamp < nowSeconds)
  .guard "incorrect sender secret" (L.publicKey senderSecret = channel.params.senderPubkey)
  let prepared ← channel.prepareUnsignedSenderRefund L senderSecret outputKeyset derivationContext
  let refundSecret ←
    channel.params.getSenderBlindedSecretKeyForStage1Refund L K senderSecret
  let swapRequest ← prepared.swapRequest.signSigAll L K refundSecret
  return { prepared with swapRequest }

/-! ## Other keysets -/

/-- The same output, offered under another keyset. -/
def BlindedMessage.underKeyset (keysetId : T.Id) (message : BlindedMessage T) :
    BlindedMessage T :=
  { message with keysetId }

namespace PreparedSenderRefund

/-- The same refund, with its outputs under another keyset. The source writes the request as
JSON, edits the identifiers of the outputs and reads it back. -/
def underKeyset (refund : PreparedSenderRefund T) (keyset : KeysetInfo T) :
    PreparedSenderRefund T :=
  { refund with
    outputs := refund.outputs.map fun output =>
      { output with blindedMessage := output.blindedMessage.underKeyset keyset.keysetId }
    swapRequest := { refund.swapRequest with
      outputs := refund.swapRequest.outputs.map (BlindedMessage.underKeyset keyset.keysetId) }
    outputKeyset := keyset }

/-- Offer the outputs under another keyset, if it has a key for each of them. -/
def replaceOutputKeyset (refund : PreparedSenderRefund T) (keyset : KeysetInfo T) :
    Outcome String (PreparedSenderRefund T) := do
  .guard "refund output unit mismatch" (keyset.unit = refund.unit)
  let canonical := KeysetInfo.new keyset.keysetId keyset.unit keyset.activeKeys
    keyset.inputFeePpk keyset.finalExpiry
  .guard "invalid refund output keyset" (computedKeysetId L keyset = keyset.keysetId ∧
    canonical.amountsLargestFirst = keyset.amountsLargestFirst ∧
    0 ∉ canonical.amountsLargestFirst)
  .forAll (fun output => .guard "replacement keyset lacks refund denomination"
    (keyset.activeKeys.amountKey output.amount).isSome) refund.outputs
  return refund.underKeyset keyset

/-- Check a record against the channel: it is derived once more, its only signature is
checked and taken away, and the rest is compared as JSON. -/
def verify (refund : PreparedSenderRefund T) (channel : EstablishedChannel T)
    (senderSecret : T.SecretKey) : Outcome String Unit := do
  .guard "channel expiry cannot be exceeded" (channel.params.expiryTimestamp < 2 ^ 64 - 1)
  .guard "incorrect sender secret" (L.publicKey senderSecret = channel.params.senderPubkey)
  let expected ← channel.prepareUnsignedSenderRefund L senderSecret refund.derivationKeyset
    refund.derivationContext
  let expected ← expected.replaceOutputKeyset L refund.outputKeyset
  match refund.swapRequest.inputs with
  | [] => .err "missing refund input"
  | input :: rest =>
      match input.witness with
      | some (.p2pk signatures) => do
          .guard "expected one refund signature" (signatures.length = 1)
          let pubkey ← channel.params.getSenderBlindedPubkeyForStage1Refund L
          let signature ← signatureFromStr L (signatures.headD "")
          .guard "signature failed verification" (L.verifySchnorr signature
            (L.sha256 (L.sigAllMsgToSign refund.swapRequest)) (L.xOnly pubkey))
          let actual := { refund with
            swapRequest := { refund.swapRequest with inputs := input.clearWitness :: rest } }
          .guard "prepared refund does not match channel, metadata or deterministic request"
            (actual.toJson L = expected.toJson L)
      | _ => .err "missing refund authorization"

/-- The same refund under another keyset. It is neither signed nor submitted anew. -/
def withOutputKeyset (refund : PreparedSenderRefund T) (channel : EstablishedChannel T)
    (senderSecret : T.SecretKey) (outputKeyset : KeysetInfo T) :
    Outcome String (PreparedSenderRefund T) := do
  refund.verify L channel senderSecret
  .guard "refund successor requires a different output keyset"
    (refund.outputKeyset.keysetId ≠ outputKeyset.keysetId)
  let successor ← refund.replaceOutputKeyset L outputKeyset
  .guard "refund successor changed SIG_ALL"
    (L.sigAllMsgToSign refund.swapRequest = L.sigAllMsgToSign successor.swapRequest)
  successor.verify L channel senderSecret
  return successor

end PreparedSenderRefund

/-! ## What is derived -/

section Specifications

variable {L K}

/-- A keyset that is named and ordered by its keys. -/
structure KeysetInfo.Canonical (L : Cashu T) (keyset : KeysetInfo T) : Prop where
  identity : computedKeysetId L keyset = keyset.keysetId
  amounts : keyset.amountsLargestFirst = keyset.activeKeys.keys.insertionSort (· ≥ ·)
  positive : 0 ∉ keyset.amountsLargestFirst

theorem KeysetInfo.canonical_iff {keyset : KeysetInfo T} :
    keyset.Canonical L ↔ computedKeysetId L keyset = keyset.keysetId ∧
      0 ∉ keyset.activeKeys.keys.insertionSort (· ≥ ·) ∧
      keyset.activeKeys.keys.insertionSort (· ≥ ·) = keyset.amountsLargestFirst := by
  constructor
  · rintro ⟨identity, amounts, positive⟩
    exact ⟨identity, amounts ▸ positive, amounts.symm⟩
  · rintro ⟨identity, positive, amounts⟩
    exact ⟨identity, amounts.symm, amounts ▸ positive⟩

/-- Every denomination that is listed has a key. -/
theorem KeysetInfo.Canonical.hasKey {keyset : KeysetInfo T} (canonical : keyset.Canonical L)
    {amount : Nat} (listed : amount ∈ keyset.amountsLargestFirst) :
    (keyset.activeKeys.amountKey amount).isSome := by
  rw [canonical.amounts, List.mem_insertionSort] at listed
  exact SortedMap.mem_keys_iff.mp listed

namespace EstablishedChannel

/-- The loop numbers the outputs of each amount. -/
theorem looseRefundOutputs_eq (prepare : Nat → Nat → Outcome String (PreparedSenderRefundOutput T))
    (amounts : List Nat) (perAmountIndex : Table Nat Nat) :
    looseRefundOutputs prepare amounts perAmountIndex =
      .mapAll (fun slot => prepare slot.1 slot.2)
        (numbered (fun amount => (perAmountIndex.lookup amount).getD 0) amounts) := by
  induction amounts generalizing perAmountIndex with
  | nil => rfl
  | cons amount rest ih =>
      have counts : (fun other => ((perAmountIndex.insert amount
          ((perAmountIndex.lookup amount).getD 0 + 1)).lookup other).getD 0) =
          Function.update (fun other => (perAmountIndex.lookup other).getD 0) amount
            ((perAmountIndex.lookup amount).getD 0 + 1) := by
        funext other
        by_cases same : other = amount
        · subst same
          rw [AList.lookup_insert, Function.update_self, Option.getD_some]
        · rw [AList.lookup_insert_ne same, Function.update_of_ne same]
      rw [looseRefundOutputs, numbered, Outcome.mapAll_cons]
      simp only [ih, counts]
      rfl

variable {channel : EstablishedChannel T} {senderSecret : T.SecretKey} {keyset : KeysetInfo T}
  {context : Bytes 32}

/-- What is known of an output, by its amount and index. -/
structure DerivedRefund (L : Cashu T) (channel : EstablishedChannel T)
    (senderSecret : T.SecretKey) (keyset : KeysetInfo T) (context : Bytes 32) (slot : Nat × Nat)
    (output : PreparedSenderRefundOutput T) : Prop where
  amount : output.amount = slot.1
  index : output.index = slot.2
  secret : output.secret =
    channel.looseRefundSecret L senderSecret slot.1 slot.2 keyset context
  message : output.blindedMessage.amount = slot.1
  keysetId : output.blindedMessage.keysetId = keyset.keysetId
  blinds : L.blindMessage output.secret output.blindingFactor =
    .ok output.blindedMessage.blindedSecret

theorem derivedRefund_of_prepared {slot : Nat × Nat} {output : PreparedSenderRefundOutput T}
    (prepared : channel.prepareLooseRefundOutput L senderSecret slot.1 slot.2 keyset context =
      .ok output) : DerivedRefund L channel senderSecret keyset context slot output := by
  simp only [prepareLooseRefundOutput, Outcome.bind_eq_ok, Outcome.ofExcept_eq_ok, Outcome.pure_eq,
    Outcome.ok.injEq] at prepared
  obtain ⟨_, -, _, -, _, blinds, rfl⟩ := prepared
  exact ⟨rfl, rfl, rfl, rfl, rfl, blinds⟩

theorem derivedRefunds {amounts : List Nat} {outputs : List (PreparedSenderRefundOutput T)}
    (prepared : channel.prepareLooseRefundOutputs L senderSecret amounts keyset context =
      .ok outputs) :
    List.Forall₂ (DerivedRefund L channel senderSecret keyset context)
      (numbered (fun _ => 0) amounts) outputs := by
  rw [prepareLooseRefundOutputs, looseRefundOutputs_eq, Outcome.mapAll_eq_ok] at prepared
  exact prepared.imp fun slot output => derivedRefund_of_prepared

/-- What is hashed names the channel, the output and the purpose. -/
theorem looseRefundPreimage_inj {channel' : EstablishedChannel T} {slot slot' : Nat × Nat}
    {purpose purpose' : String} {retry retry' : Bool} (clean : '|' ∉ purpose.toList)
    (clean' : '|' ∉ purpose'.toList)
    (same : channel.looseRefundPreimage L senderSecret slot.1 slot.2 keyset context purpose ++
        (if retry then [0xff] else []) =
      channel'.looseRefundPreimage L senderSecret slot'.1 slot'.2 keyset context purpose' ++
        (if retry' then [0xff] else [])) :
    channel.params.channelSecret = channel'.params.channelSecret ∧
      channel.params.getChannelId L = channel'.params.getChannelId L ∧ slot = slot' ∧
      purpose = purpose' ∧ retry = retry' := by
  have bar : "|".toList = ['|'] := by decide
  have loose : '|' ∉ senderRefundLooseContext.toList := by decide
  -- the fields after the identifier, from the end
  let fields (purpose : String) (slot : Nat × Nat) : List (List Char) :=
    [purpose.toList, (toString slot.2).toList, (toString slot.1).toList,
      senderRefundLooseContext.toList]
  have clean_fields {purpose : String} (clean : '|' ∉ purpose.toList) (slot : Nat × Nat) :
      ∀ field ∈ fields purpose slot, '|' ∉ field := by
    have digits (n : Nat) : '|' ∉ (toString n).toList := Decimal.notMem_toString (by decide) n
    simp only [fields, List.forall_mem_cons, clean, digits, loose, not_false_eq_true, true_and]
    exact fun _ none => absurd none List.not_mem_nil
  have toList_text (id purpose : String) (slot : Nat × Nat) :
      (id ++ "|" ++ senderRefundLooseContext ++ "|" ++ toString slot.1 ++ "|" ++
        toString slot.2 ++ "|" ++ purpose).toList =
          withFields '|' id.toList (fields purpose slot) := by
    simp only [fields, String.toList_append, bar, withFields, List.append_assoc,
      List.cons_append, List.nil_append]
  simp only [looseRefundPreimage, List.append_assoc] at same
  obtain ⟨secrets, rest⟩ := List.append_inj same
    (channel.params.channelSecret.property.trans channel'.params.channelSecret.property.symm)
  have marked := List.append_cancel_left (List.append_cancel_left (List.append_cancel_left
    (List.append_cancel_left rest)))
  obtain ⟨texts, tries⟩ := utf8_marked_inj marked
  have lists := congrArg String.toList texts
  rw [toList_text, toList_text] at lists
  obtain ⟨ids, parts⟩ := withFields_inj (clean_fields clean slot) (clean_fields clean' slot') rfl
    lists
  simp only [fields, List.cons.injEq, String.toList_inj, Decimal.toString_injective.eq_iff,
    and_true] at parts
  exact ⟨Subtype.ext secrets, String.toList_inj.mp ids, Prod.ext parts.2.2 parts.2.1, parts.1,
    tries⟩

/-- The text of an output names its slot. -/
theorem slot_of_looseRefundPreimage {slot slot' : Nat × Nat}
    (same : channel.looseRefundPreimage L senderSecret slot.1 slot.2 keyset context "secret" =
      channel.looseRefundPreimage L senderSecret slot'.1 slot'.2 keyset context "secret") :
    slot = slot' := by
  have word : '|' ∉ "secret".toList := by decide
  have marked : channel.looseRefundPreimage L senderSecret slot.1 slot.2 keyset context "secret" ++
        (if false then [0xff] else []) =
      channel.looseRefundPreimage L senderSecret slot'.1 slot'.2 keyset context "secret" ++
        (if false then [0xff] else []) := congrArg (· ++ []) same
  exact (looseRefundPreimage_inj word word marked).2.2.1

end EstablishedChannel

/-- A value of a refund output that is hashed; a blinding factor may take two tries. -/
inductive RefundDerivation
  | secret (amount index : Nat)
  | blinding (amount index : Nat) (retry : Bool)
  deriving DecidableEq, Repr

variable (L) in
/-- The bytes that are hashed. -/
def RefundDerivation.hashed (channel : EstablishedChannel T) (senderSecret : T.SecretKey)
    (outputKeyset : KeysetInfo T) (derivationContext : Bytes 32) : RefundDerivation → List UInt8
  | .secret amount index =>
      channel.looseRefundPreimage L senderSecret amount index outputKeyset derivationContext
        "secret"
  | .blinding amount index retry =>
      channel.looseRefundPreimage L senderSecret amount index outputKeyset derivationContext
        "blinding" ++ (if retry then [0xff] else [])

def RefundDerivation.purpose : RefundDerivation → String
  | .secret .. => "secret"
  | .blinding .. => "blinding"

def RefundDerivation.slot : RefundDerivation → Nat × Nat
  | .secret amount index | .blinding amount index _ => (amount, index)

def RefundDerivation.retry : RefundDerivation → Bool
  | .secret .. => false
  | .blinding _ _ retry => retry

theorem RefundDerivation.hashed_inj {channel channel' : EstablishedChannel T}
    {senderSecret : T.SecretKey} {keyset : KeysetInfo T} {context : Bytes 32}
    {derivation derivation' : RefundDerivation}
    (same : derivation.hashed L channel senderSecret keyset context =
      derivation'.hashed L channel' senderSecret keyset context) :
    channel.params.channelSecret = channel'.params.channelSecret ∧
      channel.params.getChannelId L = channel'.params.getChannelId L ∧
      derivation = derivation' := by
  have words : '|' ∉ "secret".toList ∧ '|' ∉ "blinding".toList := by decide
  have clean (d : RefundDerivation) : '|' ∉ d.purpose.toList := by
    cases d
    · exact words.1
    · exact words.2
  have hashed_eq (channel : EstablishedChannel T) (d : RefundDerivation) :
      d.hashed L channel senderSecret keyset context =
        channel.looseRefundPreimage L senderSecret d.slot.1 d.slot.2 keyset context
          d.purpose ++ (if d.retry then [0xff] else []) := by
    cases d with
    | secret => exact (List.append_nil _).symm
    | blinding => rfl
  rw [hashed_eq, hashed_eq] at same
  obtain ⟨secrets, ids, slots, purposes, tries⟩ :=
    EstablishedChannel.looseRefundPreimage_inj (clean _) (clean _) same
  refine ⟨secrets, ids, ?_⟩
  cases derivation <;> cases derivation' <;> simp_all [purpose, slot, retry]

variable (L) in
/-- **What is hashed belongs to one derivation.** Two inputs of scalars under a channel secret
are equal only for the same kind of derivation of the same channel, context, amount, index and
try; two inputs of refunds with one key, context and keyset only for the same kind, amount and
index of the same channel. -/
theorem derivationInputs_apart :
    (∀ (params params' : ChannelParameters T) (derivation derivation' : ScalarDerivation)
      (retry retry' : Bool),
      derivation.hashed L params retry = derivation'.hashed L params' retry' ↔
        params.getChannelId L = params'.getChannelId L ∧ derivation = derivation' ∧
          retry = retry') ∧
    ∀ (channel channel' : EstablishedChannel T) (senderSecret : T.SecretKey)
      (outputKeyset : KeysetInfo T) (derivationContext : Bytes 32)
      (derivation derivation' : RefundDerivation),
      derivation.hashed L channel senderSecret outputKeyset derivationContext =
          derivation'.hashed L channel' senderSecret outputKeyset derivationContext ↔
        channel.params.channelSecret = channel'.params.channelSecret ∧
          channel.params.getChannelId L = channel'.params.getChannelId L ∧
          derivation = derivation' := by
  refine ⟨fun params params' derivation derivation' retry retry' =>
    ⟨ScalarDerivation.hashed_inj, ?_⟩, fun channel channel' senderSecret keyset context
      derivation derivation' => ⟨RefundDerivation.hashed_inj, ?_⟩⟩
  · rintro ⟨ids, rfl, rfl⟩
    exact ScalarDerivation.hashed_congr ids derivation retry
  · rintro ⟨secrets, ids, rfl⟩
    cases derivation <;>
      simp only [RefundDerivation.hashed, EstablishedChannel.looseRefundPreimage, secrets, ids]

namespace EstablishedChannel

variable {channel : EstablishedChannel T} {senderSecret : T.SecretKey} {keyset : KeysetInfo T}
  {context : Bytes 32}

variable (L channel senderSecret keyset context) in
/-- The hash does not collide on what the secrets of some outputs are made of. -/
def SecretsApart (slots : List (Nat × Nat)) : Prop :=
  ∀ slot ∈ slots, ∀ slot' ∈ slots,
    L.sha256 (channel.looseRefundPreimage L senderSecret slot.1 slot.2 keyset context "secret") =
      L.sha256 (channel.looseRefundPreimage L senderSecret slot'.1 slot'.2 keyset context
        "secret") →
    channel.looseRefundPreimage L senderSecret slot.1 slot.2 keyset context "secret" =
      channel.looseRefundPreimage L senderSecret slot'.1 slot'.2 keyset context "secret"

instance (slots : List (Nat × Nat)) :
    Decidable (SecretsApart L channel senderSecret keyset context slots) :=
  inferInstanceAs (Decidable (∀ slot ∈ slots, ∀ slot' ∈ slots, _ → _))

theorem refundSecrets_nodup {slots : List (Nat × Nat)}
    {outputs : List (PreparedSenderRefundOutput T)}
    (derived : List.Forall₂ (DerivedRefund L channel senderSecret keyset context) slots outputs)
    (distinct : slots.Nodup) (apart : SecretsApart L channel senderSecret keyset context slots) :
    (outputs.map PreparedSenderRefundOutput.secret).Nodup := by
  refine nodup_map_of_forall₂ derived distinct
    fun slot member slot' member' output output' isOutput isOutput' same => ?_
  rw [isOutput.secret, isOutput'.secret] at same
  -- the digest is an end of fixed length
  unfold looseRefundSecret at same
  have size (digest : Bytes 32) : (Hex.encode digest.val).toList.length = 64 := by
    rw [Hex.length_encode, digest.property]
  have digests := append_end_inj ((size _).trans (size _).symm) same
  exact slot_of_looseRefundPreimage (apart slot member slot' member'
    (Subtype.ext (Hex.encode_injective digests)))

end EstablishedChannel

/-! ## What is compared -/

/-- A keyset is determined by its JSON. -/
theorem KeysetInfo.toJson_injective (trips : L.RoundTrips) :
    Function.Injective (KeysetInfo.toJson L) := by
  rintro ⟨keysetId, unit, keys, amounts, fee, expiry⟩ ⟨keysetId', unit', keys', amounts', fee',
    expiry'⟩ same
  simp only [KeysetInfo.toJson, Json.obj.injEq, List.cons.injEq, Prod.mk.injEq, true_and, and_true,
    Json.arr.injEq, Json.num.injEq, Json.str.injEq] at same
  obtain ⟨sameAmounts, sameExpiry, rfl, sameKeys, sameId, sameUnit⟩ := same
  obtain rfl := List.map_injective_iff.mpr (fun _ _ => Json.num.inj) sameAmounts
  obtain rfl := trips.idToString_injective sameId
  obtain rfl := trips.unitToString_injective sameUnit
  have entries : keys.entries = keys'.entries := by
    refine List.map_injective_iff.mpr ?_ sameKeys
    rintro ⟨amount, key⟩ ⟨amount', key'⟩ same
    obtain ⟨sameAmount, sameKey⟩ := Prod.mk.inj same
    exact Prod.ext (Decimal.toString_injective sameAmount)
      (trips.publicKeyToHex_injective (Json.str.inj sameKey))
  obtain rfl := SortedMap.ext entries
  have expiries : expiry = expiry' := by
    cases expiry with
    | none =>
        cases expiry' with
        | none => rfl
        | some value' => cases sameExpiry
    | some value =>
        cases expiry' with
        | none => cases sameExpiry
        | some value' => rw [Json.num.inj sameExpiry]
  rw [expiries]

theorem BlindedMessage.toJson_injective (trips : L.RoundTrips) :
    Function.Injective (BlindedMessage.toJson L) := by
  rintro ⟨amount, keysetId, point⟩ ⟨amount', keysetId', point'⟩ same
  simp only [BlindedMessage.toJson, Json.obj.injEq, List.cons.injEq, Prod.mk.injEq, true_and,
    and_true, Json.num.injEq, Json.str.injEq] at same
  obtain ⟨samePoint, rfl, sameId⟩ := same
  rw [trips.idToString_injective sameId, trips.publicKeyToHex_injective samePoint]

theorem secretToHex_injective (trips : L.RoundTrips) : Function.Injective (secretToHex L) :=
  Cashu.RoundTrips.injective_of_read (secretKeyFromHex_toHex trips)

theorem PreparedSenderRefundOutput.toJson_injective (trips : L.RoundTrips) :
    Function.Injective (PreparedSenderRefundOutput.toJson L) := by
  rintro ⟨amount, index, secret, factor, message⟩ ⟨amount', index', secret', factor', message'⟩
    same
  simp only [PreparedSenderRefundOutput.toJson, Json.obj.injEq, List.cons.injEq, Prod.mk.injEq,
    true_and, and_true, Json.num.injEq, Json.str.injEq] at same
  obtain ⟨rfl, sameMessage, sameFactor, rfl, rfl⟩ := same
  rw [BlindedMessage.toJson_injective trips sameMessage, secretToHex_injective trips sameFactor]

/-- A record is determined by its JSON. -/
theorem PreparedSenderRefund.toJson_injective (trips : L.RoundTrips) :
    Function.Injective (PreparedSenderRefund.toJson L) := by
  rintro ⟨channelId, mint, unit, keyset, derivation, version, context, amount, outputs, request⟩
    ⟨channelId', mint', unit', keyset', derivation', version', context', amount', outputs',
      request'⟩ same
  simp only [PreparedSenderRefund.toJson, Json.obj.injEq, List.cons.injEq, Prod.mk.injEq, true_and,
    and_true, Json.num.injEq, Json.str.injEq, Json.arr.injEq] at same
  obtain ⟨rfl, sameContext, sameDerivation, rfl, rfl, rfl, sameKeyset, sameOutputs, sameRequest,
    sameUnit⟩ := same
  have contexts : context = context' := by
    refine Subtype.ext (List.map_injective_iff.mpr ?_ sameContext)
    exact fun _ _ same => UInt8.toNat_inj.mp (Json.num.inj same)
  rw [contexts, KeysetInfo.toJson_injective trips sameDerivation,
    KeysetInfo.toJson_injective trips sameKeyset,
    List.map_injective_iff.mpr (PreparedSenderRefundOutput.toJson_injective trips) sameOutputs,
    trips.swapRequestToJson_injective sameRequest, trips.unitToString_injective sameUnit]

/-! ## Authentic records -/

variable {channel : EstablishedChannel T} {senderSecret : T.SecretKey} {keyset : KeysetInfo T}
  {context : Bytes 32} {refund successor : PreparedSenderRefund T}

/-- What is left of the funding after the fee for spending it. -/
def EstablishedChannel.RefundAmount (channel : EstablishedChannel T) (amount : Nat) : Prop :=
  amount + Greedy.divCeil
    (channel.params.keysetInfo.inputFeePpk * channel.fundingProofs.length) 1000 =
      (channel.fundingProofs.map Proof.amount).sum

/-- The record that is derived. -/
structure DerivedRecord (L : Cashu T) (channel : EstablishedChannel T)
    (senderSecret : T.SecretKey) (keyset : KeysetInfo T) (context : Bytes 32)
    (refund : PreparedSenderRefund T) : Prop where
  unit : keyset.unit = refund.unit
  canonical : keyset.Canonical L
  outputKeyset : refund.outputKeyset = keyset
  derivationKeyset : refund.derivationKeyset = keyset
  derivationContext : refund.derivationContext = context
  amount : channel.RefundAmount refund.outputAmountRaw
  splits : Splits keyset channel.params.maximumAmountForOneOutput refund.outputAmountRaw
  outputs : List.Forall₂ (EstablishedChannel.DerivedRefund L channel senderSecret keyset context)
    (numbered (fun _ => 0) (greedyList refund.outputAmountRaw
      channel.params.maximumAmountForOneOutput keyset).amounts) refund.outputs
  request : refund.swapRequest = ⟨channel.fundingProofs.map Proof.clearWitness,
    refund.outputs.map PreparedSenderRefundOutput.blindedMessage, false⟩

theorem derivedRecord_of_prepared
    (prepared : channel.prepareUnsignedSenderRefund L senderSecret keyset context = .ok refund) :
    DerivedRecord L channel senderSecret keyset context refund := by
  simp only [EstablishedChannel.prepareUnsignedSenderRefund, Outcome.bind_eq_ok,
    Outcome.guard_eq_ok, fromTarget_eq_ok_iff, Outcome.pure_eq, Outcome.ok.injEq] at prepared
  obtain ⟨-, sameUnit, -, identity, -, denominations, total, isTotal, -, -, -, covered, -, -,
    _, ⟨splits, rfl⟩, outputs, derived, rfl⟩ := prepared
  rw [EstablishedChannel.fundingTotalRaw, Outcome.mapErr_eq_ok, Outcome.ofExcept_eq_ok,
    checkedTotal_eq_ok_iff (by decide), Nat.zero_add] at isTotal
  exact {
    unit := sameUnit
    canonical := KeysetInfo.canonical_iff.mpr ⟨identity, denominations⟩
    outputKeyset := rfl
    derivationKeyset := rfl
    derivationContext := rfl
    amount := (Nat.sub_add_cancel covered).trans isTotal.1
    splits
    outputs := EstablishedChannel.derivedRefunds derived
    request := rfl }

theorem PreparedSenderRefund.replaceOutputKeyset_eq_ok_iff :
    refund.replaceOutputKeyset L keyset = .ok successor ↔
      keyset.unit = refund.unit ∧ keyset.Canonical L ∧
      (∀ output ∈ refund.outputs, (keyset.activeKeys.amountKey output.amount).isSome) ∧
      successor = refund.underKeyset keyset := by
  simp only [PreparedSenderRefund.replaceOutputKeyset, Outcome.bind_eq_ok, Outcome.guard_eq_ok,
    Outcome.forAll_eq_ok, Outcome.pure_eq, Outcome.ok.injEq, KeysetInfo.canonical_iff]
  constructor
  · rintro ⟨-, sameUnit, -, ⟨identity, amounts, positive⟩, -, keys, rfl⟩
    exact ⟨sameUnit, ⟨identity, positive, amounts⟩, keys, rfl⟩
  · rintro ⟨sameUnit, ⟨identity, positive, amounts⟩, keys, rfl⟩
    exact ⟨(), sameUnit, (), ⟨identity, amounts, positive⟩, (), keys, rfl⟩

/-- A record whose only signature is good and, taken away, leaves the derived record. -/
structure Verified (L : Cashu T) (channel : EstablishedChannel T) (senderSecret : T.SecretKey)
    (refund : PreparedSenderRefund T) : Prop where
  expiry : channel.params.expiryTimestamp < 2 ^ 64 - 1
  sender : L.publicKey senderSecret = channel.params.senderPubkey
  derived : ∃ unsigned expected input rest text pubkey signature,
    channel.prepareUnsignedSenderRefund L senderSecret refund.derivationKeyset
      refund.derivationContext = .ok unsigned ∧
    unsigned.replaceOutputKeyset L refund.outputKeyset = .ok expected ∧
    refund.swapRequest.inputs = input :: rest ∧
    input.witness = some (.p2pk [text]) ∧
    channel.params.getSenderBlindedPubkeyForStage1Refund L = .ok pubkey ∧
    signatureFromStr L text = .ok signature ∧
    L.verifySchnorr signature (L.sha256 (L.sigAllMsgToSign refund.swapRequest))
      (L.xOnly pubkey) = true ∧
    { refund with
      swapRequest := { refund.swapRequest with inputs := input.clearWitness :: rest } } = expected

theorem PreparedSenderRefund.verify_eq_ok_iff (trips : L.RoundTrips) :
    refund.verify L channel senderSecret = .ok () ↔ Verified L channel senderSecret refund := by
  simp only [PreparedSenderRefund.verify, Outcome.bind_eq_ok, Outcome.guard_eq_ok]
  constructor
  · rintro ⟨-, expiry, -, sender, unsigned, prepared, expected, replaced, checked⟩
    refine ⟨expiry, sender, ?_⟩
    split at checked
    · cases checked
    · next input rest isInputs =>
        split at checked
        · next signatures isWitness =>
            simp only [Outcome.bind_eq_ok, Outcome.guard_eq_ok] at checked
            obtain ⟨-, single, pubkey, isPubkey, signature, isSignature, -, valid, same⟩ := checked
            obtain ⟨text, rfl⟩ := List.length_eq_one_iff.mp single
            exact ⟨unsigned, expected, input, rest, text, pubkey, signature, prepared, replaced,
              isInputs, isWitness, isPubkey, isSignature, valid,
              PreparedSenderRefund.toJson_injective trips same⟩
        · cases checked
  · rintro ⟨expiry, sender, unsigned, expected, input, rest, text, pubkey, signature, prepared,
      replaced, isInputs, isWitness, isPubkey, isSignature, valid, same⟩
    refine ⟨(), expiry, (), sender, unsigned, prepared, expected, replaced, ?_⟩
    simp only [isInputs, isWitness, isPubkey, Outcome.ok_bind, List.headD_cons, isSignature,
      Outcome.guard_pos valid, same, List.length_singleton,
      Outcome.guard_pos trivial]

/-- A record that was derived has a key for each of its outputs. -/
theorem DerivedRecord.hasKeys (derived : DerivedRecord L channel senderSecret keyset context refund) :
    ∀ output ∈ refund.outputs, (keyset.activeKeys.amountKey output.amount).isSome := by
  intro output member
  obtain ⟨slot, isSlot, isOutput⟩ := exists_left_of_forall₂ derived.outputs member
  have listed : slot.1 ∈ (greedyList refund.outputAmountRaw
      channel.params.maximumAmountForOneOutput keyset).amounts := by
    rw [← map_fst_numbered (fun _ => 0) (greedyList _ _ _).amounts]
    exact List.mem_map_of_mem isSlot
  rw [isOutput.amount]
  exact derived.canonical.hasKey (of_mem_greedyList listed).1

/-- Under the keyset it was derived for, a record stays as it is. -/
theorem DerivedRecord.underKeyset_self
    (derived : DerivedRecord L channel senderSecret keyset context refund) :
    refund.underKeyset keyset = refund := by
  have same : ∀ output ∈ refund.outputs,
      output.blindedMessage.underKeyset keyset.keysetId = output.blindedMessage := by
    intro output member
    obtain ⟨slot, -, isOutput⟩ := exists_left_of_forall₂ derived.outputs member
    rw [BlindedMessage.underKeyset, ← isOutput.keysetId]
  have outputs : refund.outputs.map (fun output =>
      { output with blindedMessage := output.blindedMessage.underKeyset keyset.keysetId }) =
      refund.outputs := by
    refine (List.map_congr_left fun output member => ?_).trans (List.map_id' _)
    rw [same output member]
  have messages : refund.swapRequest.outputs.map (BlindedMessage.underKeyset keyset.keysetId) =
      refund.swapRequest.outputs := by
    rw [derived.request, List.map_map]
    exact List.map_congr_left same
  calc refund.underKeyset keyset
    _ = { refund with
          outputs := refund.outputs
          swapRequest := { refund.swapRequest with outputs := refund.swapRequest.outputs }
          outputKeyset := refund.outputKeyset } := by
        rw [PreparedSenderRefund.underKeyset, outputs, messages, derived.outputKeyset]
    _ = refund := rfl

/-- **A prepared refund is verified.** -/
theorem verified_of_prepared (laws : K.Laws L) (unsignedWitness : L.UnsignedWitness)
    {now : Nat} (clock : now < 2 ^ 64)
    (prepared : channel.prepareSenderRefundAfterExpiry L K senderSecret now keyset context =
      .ok refund) : Verified L channel senderSecret refund := by
  simp only [EstablishedChannel.prepareSenderRefundAfterExpiry, Outcome.bind_eq_ok,
    Outcome.guard_eq_ok, ChannelParameters.getSenderBlindedSecretKeyForStage1Refund,
    deriveBlindedSecretKey, Outcome.mapErr_eq_ok, Outcome.ofExcept_eq_ok, SwapRequest.signSigAll,
    attachSignatureToFirstInput_eq_ok_iff, Outcome.pure_eq, Outcome.ok.injEq] at prepared
  obtain ⟨-, expired, -, sender, unsigned, isUnsigned, secret, ⟨r, isScalar, shifted⟩, _,
    ⟨first, rest, isInputs, rfl⟩, rfl⟩ := prepared
  have derived := derivedRecord_of_prepared isUnsigned
  have bare : first.witness = none ∧ first.clearWitness = first := by
    rw [derived.request] at isInputs
    obtain ⟨proof, others, -, rfl, -⟩ := List.map_eq_cons_iff.mp isInputs
    exact ⟨rfl, rfl⟩
  have replaced : unsigned.replaceOutputKeyset L keyset = .ok unsigned :=
    PreparedSenderRefund.replaceOutputKeyset_eq_ok_iff.mpr
      ⟨derived.unit, derived.canonical, derived.hasKeys, derived.underKeyset_self.symm⟩
  have isPubkey : channel.params.getSenderBlindedPubkeyForStage1Refund L =
      .ok (L.publicKey secret) := by
    rw [ChannelParameters.getSenderBlindedPubkeyForStage1Refund, Outcome.bind_eq_ok]
    refine ⟨r, isScalar, ?_⟩
    rw [← sender]
    exact (deriveBlindedPubkey_publicKey_iff laws).mpr ⟨secret, shifted, rfl⟩
  have sameMessage (text : String) :
      L.sigAllMsgToSign { unsigned.swapRequest with inputs := first.addSignature text :: rest } =
        L.sigAllMsgToSign unsigned.swapRequest := by
    refine unsignedWitness _ _ _ _ ?_
    rw [isInputs, List.map_cons, List.map_cons]
    rfl
  have restored : { unsigned.swapRequest with inputs := first :: rest } = unsigned.swapRequest := by
    rw [← isInputs]
  refine ⟨by omega, sender, unsigned, unsigned, _, rest, _, _,
    K.signSchnorr secret (L.sha256 (L.sigAllMsgToSign unsigned.swapRequest)), ?_, ?_, rfl, ?_, isPubkey,
    signatureFromStr_toString _, ?_, ?_⟩
  · rw [derived.derivationKeyset, derived.derivationContext]
    exact isUnsigned
  · rw [derived.outputKeyset]
    exact replaced
  · rw [Proof.addSignature, bare.1]
    rfl
  · rw [sameMessage]
    exact laws.signs _ _
  · show ({ unsigned with
      swapRequest := { unsigned.swapRequest with inputs := first.clearWitness :: rest } } :
        PreparedSenderRefund T) = unsigned
    rw [bare.2, restored]

/-! ## Chains of successors -/

namespace PreparedSenderRefund

/-- Another record was made from this one by a change of its output keyset. -/
def HasSuccessor (L : Cashu T) (channel : EstablishedChannel T) (senderSecret : T.SecretKey)
    (refund successor : PreparedSenderRefund T) : Prop :=
  ∃ keyset, refund.withOutputKeyset L channel senderSecret keyset = .ok successor

/-- Two records that ask for signatures on the same points with the same message. -/
structure Shares (L : Cashu T) (refund successor : PreparedSenderRefund T) : Prop where
  derivationKeyset : successor.derivationKeyset = refund.derivationKeyset
  derivationContext : successor.derivationContext = refund.derivationContext
  outputs : successor.outputs.map (·.blindedMessage.blindedSecret) =
    refund.outputs.map (·.blindedMessage.blindedSecret)
  points : successor.swapRequest.outputs.map BlindedMessage.blindedSecret =
    refund.swapRequest.outputs.map BlindedMessage.blindedSecret
  message : L.sigAllMsgToSign successor.swapRequest = L.sigAllMsgToSign refund.swapRequest

theorem Shares.refl (refund : PreparedSenderRefund T) : Shares L refund refund :=
  ⟨rfl, rfl, rfl, rfl, rfl⟩

theorem Shares.trans {last : PreparedSenderRefund T} (first : Shares L refund successor)
    (second : Shares L successor last) : Shares L refund last where
  derivationKeyset := second.derivationKeyset.trans first.derivationKeyset
  derivationContext := second.derivationContext.trans first.derivationContext
  outputs := second.outputs.trans first.outputs
  points := second.points.trans first.points
  message := second.message.trans first.message

theorem HasSuccessor.verifies (step : HasSuccessor L channel senderSecret refund successor) :
    successor.verify L channel senderSecret = .ok () := by
  obtain ⟨keyset, succeeded⟩ := step
  simp only [withOutputKeyset, Outcome.bind_eq_ok, Outcome.guard_eq_ok, Outcome.pure_eq,
    Outcome.ok.injEq] at succeeded
  obtain ⟨-, -, -, -, _, -, -, -, _, verified, rfl⟩ := succeeded
  exact verified

theorem HasSuccessor.shares (step : HasSuccessor L channel senderSecret refund successor) :
    Shares L refund successor := by
  obtain ⟨keyset, succeeded⟩ := step
  simp only [withOutputKeyset, Outcome.bind_eq_ok, Outcome.guard_eq_ok, Outcome.pure_eq,
    Outcome.ok.injEq, replaceOutputKeyset_eq_ok_iff] at succeeded
  obtain ⟨-, -, -, -, _, ⟨-, -, -, rfl⟩, -, message, -, -, rfl⟩ := succeeded
  refine ⟨rfl, rfl, ?_, ?_, message.symm⟩
  · exact List.map_map
  · exact List.map_map

/-- A chain shares what its first record has, and its last record is verified if the first
one is. -/
theorem of_chain (chain : Relation.ReflTransGen (HasSuccessor L channel senderSecret) refund
      successor)
    (verified : refund.verify L channel senderSecret = .ok ()) :
    successor.verify L channel senderSecret = .ok () ∧ Shares L refund successor := by
  induction chain with
  | refl => exact ⟨verified, Shares.refl refund⟩
  | tail _ step ih => exact ⟨step.verifies, ih.2.trans step.shares⟩

end PreparedSenderRefund

/-! ## Authentic records -/

/-- The amount and the index of each output. -/
def PreparedSenderRefund.slots (refund : PreparedSenderRefund T) : List (Nat × Nat) :=
  refund.outputs.map fun output => (output.amount, output.index)

theorem DerivedRecord.slots_eq
    (derived : DerivedRecord L channel senderSecret keyset context refund) :
    refund.slots = numbered (fun _ => 0) (greedyList refund.outputAmountRaw
      channel.params.maximumAmountForOneOutput keyset).amounts := by
  have same := map_eq_map_of_forall₂ (f := id)
    (g := fun output : PreparedSenderRefundOutput T => (output.amount, output.index))
    derived.outputs fun slot output isOutput => (Prod.ext isOutput.amount isOutput.index).symm
  rw [List.map_id] at same
  exact same.symm

theorem DerivedRecord.amounts_eq
    (derived : DerivedRecord L channel senderSecret keyset context refund) :
    refund.outputs.map PreparedSenderRefundOutput.amount = (greedyList refund.outputAmountRaw
      channel.params.maximumAmountForOneOutput keyset).amounts := by
  rw [← map_fst_numbered (fun _ => 0) (greedyList _ _ _).amounts, ← derived.slots_eq,
    PreparedSenderRefund.slots, List.map_map]
  rfl

/-- A record of the channel's own refund. -/
structure Authentic (L : Cashu T) (channel : EstablishedChannel T) (senderSecret : T.SecretKey)
    (refund : PreparedSenderRefund T) : Prop where
  /-- Up to one signature it is derived from its keysets and its context. -/
  derived : ∃ unsigned text,
    channel.prepareUnsignedSenderRefund L senderSecret refund.derivationKeyset
      refund.derivationContext = .ok unsigned ∧
    attachSignatureToFirstInput (unsigned.underKeyset refund.outputKeyset).swapRequest text =
      .ok refund.swapRequest ∧
    { refund with swapRequest := (unsigned.underKeyset refund.outputKeyset).swapRequest } =
      unsigned.underKeyset refund.outputKeyset
  /-- The mint is asked for the outputs. -/
  offered : refund.swapRequest.outputs =
    refund.outputs.map PreparedSenderRefundOutput.blindedMessage
  amounts : ∀ output ∈ refund.outputs, output.blindedMessage.amount = output.amount
  exact : channel.RefundAmount (refund.outputs.map PreparedSenderRefundOutput.amount).sum
  bounded : ∀ output ∈ refund.outputs, channel.params.maximumAmountForOneOutput = 0 ∨
    output.amount ≤ channel.params.maximumAmountForOneOutput
  numbered : ∀ amount, (refund.slots.filter (·.1 = amount)).map Prod.snd =
    List.range ((refund.outputs.map PreparedSenderRefundOutput.amount).count amount)
  distinct : channel.SecretsApart L senderSecret refund.derivationKeyset refund.derivationContext
    refund.slots → (refund.outputs.map PreparedSenderRefundOutput.secret).Nodup

/-- A signature fills the witness that was taken away. -/
theorem addSignature_clearWitness {input : Proof T} {text : String}
    (isWitness : input.witness = some (.p2pk [text])) :
    input.clearWitness.addSignature text = input := by
  obtain ⟨amount, keysetId, secret, c, witness, dleq, p2pkE⟩ := input
  cases isWitness
  rfl

/-- What is derived is authentic under each keyset, and with each signature. -/
theorem authentic_of_derived {unsigned : PreparedSenderRefund T} {text : String}
    (prepared : channel.prepareUnsignedSenderRefund L senderSecret refund.derivationKeyset
      refund.derivationContext = .ok unsigned)
    (signed : attachSignatureToFirstInput (unsigned.underKeyset refund.outputKeyset).swapRequest
      text = .ok refund.swapRequest)
    (same : { refund with swapRequest := (unsigned.underKeyset refund.outputKeyset).swapRequest } =
      unsigned.underKeyset refund.outputKeyset) :
    Authentic L channel senderSecret refund := by
  have derived := derivedRecord_of_prepared prepared
  have outputs : refund.outputs = (unsigned.underKeyset refund.outputKeyset).outputs := by
    rw [← same]
  have slots : refund.slots = unsigned.slots := by
    rw [PreparedSenderRefund.slots, outputs]
    exact List.map_map
  have amounts : refund.outputs.map PreparedSenderRefundOutput.amount =
      unsigned.outputs.map PreparedSenderRefundOutput.amount := by
    rw [outputs]
    exact List.map_map
  have secrets : refund.outputs.map PreparedSenderRefundOutput.secret =
      unsigned.outputs.map PreparedSenderRefundOutput.secret := by
    rw [outputs]
    exact List.map_map
  refine ⟨⟨unsigned, text, prepared, signed, same⟩, ?_, ?_, ?_, ?_, ?_, ?_⟩
  · obtain ⟨first, rest, -, isRequest⟩ := attachSignatureToFirstInput_eq_ok_iff.mp signed
    rw [isRequest, outputs]
    show unsigned.swapRequest.outputs.map _ = _
    rw [derived.request, PreparedSenderRefund.underKeyset, List.map_map, List.map_map]
    rfl
  · intro output member
    rw [outputs] at member
    obtain ⟨original, isOriginal, rfl⟩ := List.mem_map.mp member
    obtain ⟨slot, -, isOutput⟩ := exists_left_of_forall₂ derived.outputs isOriginal
    exact isOutput.message.trans isOutput.amount.symm
  · rw [amounts, derived.amounts_eq, greedyList_sum derived.splits]
    exact derived.amount
  · intro output member
    have listed := List.mem_map_of_mem (f := PreparedSenderRefundOutput.amount) member
    rw [amounts, derived.amounts_eq] at listed
    exact (of_mem_greedyList listed).2.2
  · intro amount
    rw [slots, amounts, derived.slots_eq, map_snd_filter_numbered, derived.amounts_eq,
      List.range_eq_range']
  · intro apart
    rw [secrets]
    rw [slots, derived.slots_eq] at apart
    exact EstablishedChannel.refundSecrets_nodup derived.outputs (nodup_numbered _ _) apart

theorem Verified.authentic (verified : Verified L channel senderSecret refund) :
    Authentic L channel senderSecret refund := by
  obtain ⟨unsigned, expected, input, rest, text, pubkey, signature, prepared, replaced, isInputs,
    isWitness, -, -, -, same⟩ := verified.derived
  obtain ⟨-, -, -, rfl⟩ := PreparedSenderRefund.replaceOutputKeyset_eq_ok_iff.mp replaced
  have signed : attachSignatureToFirstInput
      (unsigned.underKeyset refund.outputKeyset).swapRequest text = .ok refund.swapRequest := by
    rw [← same]
    refine attachSignatureToFirstInput_eq_ok_iff.mpr ⟨_, rest, rfl, ?_⟩
    rw [addSignature_clearWitness isWitness, ← isInputs]
  apply authentic_of_derived prepared signed
  rw [← same]

end Specifications

/-- **Prepared refunds and their successors are authentic and exact.** A refund that was
prepared is verified, and so is each record of a chain of successors, which share its points
and its message. What is verified is the record that is derived, up to one signature. -/
theorem refunds_authentic (trips : L.RoundTrips) (laws : K.Laws L)
    (unsignedWitness : L.UnsignedWitness) (channel : EstablishedChannel T)
    (senderSecret : T.SecretKey) :
    (∀ now keyset context refund record, now < 2 ^ 64 →
      channel.prepareSenderRefundAfterExpiry L K senderSecret now keyset context = .ok refund →
      Relation.ReflTransGen (PreparedSenderRefund.HasSuccessor L channel senderSecret) refund
        record →
      record.verify L channel senderSecret = .ok () ∧ refund.Shares L record) ∧
    ∀ record : PreparedSenderRefund T, record.verify L channel senderSecret = .ok () →
      Authentic L channel senderSecret record := by
  constructor
  · intro now keyset context refund record clock prepared chain
    have verified := verified_of_prepared laws unsignedWitness clock prepared
    exact PreparedSenderRefund.of_chain chain
      ((PreparedSenderRefund.verify_eq_ok_iff trips).mpr verified)
  · intro record accepted
    exact ((PreparedSenderRefund.verify_eq_ok_iff trips).mp accepted).authentic

namespace Sample

theorem unsignedWitness : library.UnsignedWitness := fun _ _ _ _ same => sigAllBytes_congr same

def senderSecret : carriers.SecretKey := ⟨point 3, point_three_ne_zero⟩

/-- A channel of two whose outputs are of one each. -/
def twoOnes : Outcome String (EstablishedChannel carriers) := do
  let terms : Terms := ⟨"m", "sat", 2, 2, 1, 2000, "ordinary"⟩
  let params ← terms.params (pairs "sat")
  let proofs ← terms.fund (pairs "sat")
  EstablishedChannel.new library params proofs

/-- Another keyset of the same mint. -/
def laterOnes : KeysetInfo carriers := mintKeyset "sat" [(1, point 7)] 0

/-- A refund of two outputs, and its successor under another keyset. -/
structure Refunded (channel : EstablishedChannel carriers)
    (refund successor : PreparedSenderRefund carriers) : Prop where
  prepared : channel.prepareSenderRefundAfterExpiry library keyOps senderSecret 2001 (pairs "sat")
    sharedSecret = .ok refund
  succeeds : refund.withOutputKeyset library channel senderSecret laterOnes = .ok successor
  slots : successor.slots = [(1, 0), (1, 1)]
  apart : channel.SecretsApart library senderSecret successor.derivationKeyset
    successor.derivationContext successor.slots

theorem exists_refunded : ∃ channel refund successor, Refunded channel refund successor := by
  have ran : twoOnes.okAnd (fun channel =>
      (channel.prepareSenderRefundAfterExpiry library keyOps senderSecret 2001 (pairs "sat")
        sharedSecret).okAnd fun refund =>
          (refund.withOutputKeyset library channel senderSecret laterOnes).okAnd fun successor =>
            decide (successor.slots = [(1, 0), (1, 1)] ∧
              channel.SecretsApart library senderSecret successor.derivationKeyset
                successor.derivationContext successor.slots)) = true := by
    decide +kernel
  obtain ⟨channel, -, ran⟩ := Outcome.exists_of_okAnd ran
  obtain ⟨refund, prepared, ran⟩ := Outcome.exists_of_okAnd ran
  obtain ⟨successor, succeeds, ran⟩ := Outcome.exists_of_okAnd ran
  obtain ⟨slots, apart⟩ := of_decide_eq_true ran
  exact ⟨channel, refund, successor, prepared, succeeds, slots, apart⟩

end Sample

/-- A successor of a prepared refund is verified, and its two secrets differ. -/
theorem refunds_authentic_successor : ∃ channel refund successor,
    Sample.Refunded channel refund successor ∧
    successor.verify Sample.library channel Sample.senderSecret = .ok () ∧
    refund.Shares Sample.library successor ∧
    (successor.outputs.map PreparedSenderRefundOutput.secret).Nodup := by
  obtain ⟨channel, refund, successor, run⟩ := Sample.exists_refunded
  obtain ⟨complete, sound⟩ := refunds_authentic Sample.library Sample.keyOps Sample.roundTrips
    Sample.keyOps_laws Sample.unsignedWitness channel Sample.senderSecret
  obtain ⟨verified, shares⟩ := complete 2001 _ _ refund successor (by decide) run.prepared
    (.single ⟨_, run.succeeds⟩)
  exact ⟨channel, refund, successor, run, verified, shares, (sound _ verified).distinct run.apart⟩

end Spilman
