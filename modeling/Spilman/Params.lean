/-
# Channel parameters

The parameters two parties agree on, how they are read from JSON, the channel
identifier they hash to, and the keys that are derived from them.

The channel secret enters the identifier and every derivation, and is not part
of the JSON. Derived keys are the parties' keys shifted by scalars that only
the two of them can compute, so the mint sees unrelated keys.
-/

import Spilman.Lib.Text
import Spilman.Amounts

namespace Spilman

open Lib

variable {T : Carriers}

/-! ## Parameters -/

/-- How the commitment close is authorized and issued. -/
inductive CommitmentMode
  | ordinary
  | rerandomized
  deriving DecidableEq, Repr

/-- The name of a mode in JSON. -/
def CommitmentMode.fromStr : String → Option CommitmentMode
  | "ordinary" => some .ordinary
  | "rerandomized" => some .rerandomized
  | _ => none

/-- A mode from JSON: its name, or the name as the only key of an object. -/
def CommitmentMode.ofJson : Json → Option CommitmentMode
  | .str name => fromStr name
  | .obj [(name, .null)] => fromStr name
  | _ => none

/-- Parameters of a payment channel. -/
structure ChannelParameters (T : Carriers) where
  commitmentMode : CommitmentMode
  senderPubkey : T.PublicKey
  receiverPubkey : T.PublicKey
  /-- Mint URL without trailing slashes. -/
  mint : String
  unit : T.CurrencyUnit
  /-- The most the receiver can end up with, after both fee stages. -/
  capacity : Nat
  /-- Nominal value of the funding token. -/
  fundingTokenAmount : Nat
  expiryTimestamp : Nat
  setupTimestamp : Nat
  keysetInfo : KeysetInfo T
  /-- Larger denominations are not used. Zero stands for no limit. -/
  maximumAmountForOneOutput : Nat
  channelSecret : Bytes 32
  deriving DecidableEq

/-- `text.trim_end_matches('/')`. -/
def trimEndSlashes (text : String) : String :=
  String.ofList (text.toList.reverse.dropWhile (· == '/')).reverse

/-- A URL that ends in no slash is kept as it is, and no other. -/
theorem trimEndSlashes_eq_iff {text : String} :
    trimEndSlashes text = text ↔ text.toList.getLast? ≠ some '/' := by
  rw [trimEndSlashes, ← String.toList_inj, String.toList_ofList, List.reverse_eq_iff,
    List.getLast?_eq_head?_reverse]
  cases text.toList.reverse with
  | nil => simp
  | cons last rest =>
      by_cases slash : last = '/'
      · have shorter := (List.dropWhile_suffix (· == '/') (l := rest)).length_le
        simp only [slash, List.dropWhile_cons, beq_self_eq_true, if_true, List.head?_cons, ne_eq,
          not_true_eq_false, iff_false]
        intro same
        have := congrArg List.length same
        rw [List.length_cons] at this
        omega
      · simp [slash]

theorem trimEndSlashes_trimEndSlashes (text : String) :
    trimEndSlashes (trimEndSlashes text) = trimEndSlashes text := by
  rw [trimEndSlashes_eq_iff, trimEndSlashes, String.toList_ofList, List.getLast?_reverse]
  intro slash
  have kept := List.head?_dropWhile_not (· == '/') text.toList.reverse
  rw [slash] at kept
  simp at kept

namespace ChannelParameters

/-- Build channel parameters from their parts. -/
def new (senderPubkey receiverPubkey : T.PublicKey) (mint : String) (unit : T.CurrencyUnit)
    (capacity fundingTokenAmount expiryTimestamp setupTimestamp : Nat) (keysetInfo : KeysetInfo T)
    (maximumAmountForOneOutput : Nat) (channelSecret : Bytes 32) :
    Outcome String (ChannelParameters T) := do
  let mint := trimEndSlashes mint
  let inputFeePpk := keysetInfo.inputFeePpk
  .guard s!"input_fee_ppk must be between 0 and 999 (inclusive), got {inputFeePpk}"
    (inputFeePpk ≤ 999)
  let afterStage1 ←
    keysetInfo.deterministicValueAfterFees fundingTokenAmount maximumAmountForOneOutput
  let maxCapacity ← keysetInfo.deterministicValueAfterFees afterStage1 maximumAmountForOneOutput
  .guard (s!"capacity {capacity} exceeds maximum achievable capacity {maxCapacity} " ++
      s!"for funding_token_amount {fundingTokenAmount} " ++
      "(capacity must be <= forward(forward(funding_token_amount)))")
    (capacity ≤ maxCapacity)
  return {
    commitmentMode := .ordinary, senderPubkey, receiverPubkey, mint, unit, capacity,
    fundingTokenAmount, expiryTimestamp, setupTimestamp, keysetInfo, maximumAmountForOneOutput,
    channelSecret }

/-- Select the commitment-close mode. -/
def withCommitmentMode (params : ChannelParameters T) (mode : CommitmentMode) :
    ChannelParameters T :=
  { params with commitmentMode := mode }

/-- **What `new` accepts.** The fee is in range and the capacity is at most what
is left of the funding amount after two stages of fees. -/
theorem new_eq_ok_iff {senderPubkey receiverPubkey : T.PublicKey} {mint : String}
    {unit : T.CurrencyUnit} {capacity fundingTokenAmount expiryTimestamp setupTimestamp : Nat}
    {keysetInfo : KeysetInfo T} {maximumAmountForOneOutput : Nat} {channelSecret : Bytes 32}
    {params : ChannelParameters T} :
    new senderPubkey receiverPubkey mint unit capacity fundingTokenAmount expiryTimestamp
        setupTimestamp keysetInfo maximumAmountForOneOutput channelSecret = .ok params ↔
      keysetInfo.inputFeePpk ≤ 999 ∧
      (∃ afterStage1 maxCapacity,
        keysetInfo.deterministicValueAfterFees fundingTokenAmount maximumAmountForOneOutput =
          .ok afterStage1 ∧
        keysetInfo.deterministicValueAfterFees afterStage1 maximumAmountForOneOutput =
          .ok maxCapacity ∧
        capacity ≤ maxCapacity) ∧
      params = {
        commitmentMode := .ordinary, senderPubkey, receiverPubkey, mint := trimEndSlashes mint,
        unit, capacity, fundingTokenAmount, expiryTimestamp, setupTimestamp, keysetInfo,
        maximumAmountForOneOutput, channelSecret } := by
  unfold new
  simp only [Outcome.bind_eq_ok, Outcome.guard_eq_ok, Outcome.pure_eq, Outcome.ok.injEq]
  constructor
  · rintro ⟨-, cheap, afterStage1, first, maxCapacity, second, -, within, rfl⟩
    exact ⟨cheap, ⟨afterStage1, maxCapacity, first, second, within⟩, rfl⟩
  · rintro ⟨cheap, ⟨afterStage1, maxCapacity, first, second, within⟩, rfl⟩
    exact ⟨(), cheap, afterStage1, first, maxCapacity, second, (), within, rfl⟩

end ChannelParameters

/-! ## Reading keysets and parameters from JSON -/

section Json

variable (L : Cashu T)

/-- One entry of the `keys` object of a keyset. -/
def parseKeyEntry (entry : String × Json) : Outcome String (Nat × T.PublicKey) := do
  let amountStr := entry.1
  let amount ← (Outcome.ofExcept (Decimal.parse 64 amountStr)).mapErr fun e =>
    s!"Invalid amount '{amountStr}': {e}"
  let pubkeyHex ← .ofOption s!"Invalid pubkey for amount {amount}" entry.2.asStr
  let pubkey ← (Outcome.ofExcept (L.publicKeyFromHex pubkeyHex)).mapErr fun e =>
    s!"Invalid pubkey hex for amount {amount}: {e}"
  return (amount, pubkey)

/-- Read a keyset from a JSON value. Names are accepted in camel and snake case,
and the list of amounts is computed from the keys. -/
def keysetInfoOfJson (json : Json) : Outcome String (KeysetInfo T) := do
  let keysetIdStr ← .ofOption "Missing or invalid 'keysetId' field"
    ((json.field "keysetId").asStr <|> (json.field "keyset_id").asStr)
  let keysetId ← (Outcome.ofExcept (L.idFromStr keysetIdStr)).mapErr fun e =>
    s!"Invalid keyset_id: {e}"
  let unitStr ← .ofOption "Missing or invalid 'unit' field" (json.field "unit").asStr
  let unit ← (Outcome.ofExcept (L.unitFromStr unitStr)).mapErr fun e => s!"Invalid unit: {e}"
  let inputFeePpk ← .ofOption "Missing or invalid 'inputFeePpk' field"
    ((json.field "inputFeePpk").asU64 <|> (json.field "input_fee_ppk").asU64)
  let finalExpiry := (json.field "finalExpiry").asU64 <|> (json.field "final_expiry").asU64
  let keysObj ← .ofOption "Missing or invalid 'keys' field" (json.field "keys").asObject
  let keys ← .mapAll (parseKeyEntry L) keysObj
  return .new keysetId unit (SortedMap.ofList keys) inputFeePpk finalExpiry

/-- `parse_keyset_info_from_json`. -/
def parseKeysetInfoFromJson (text : T.Text) : Outcome String (KeysetInfo T) := do
  let json ← (Outcome.ofExcept (L.parse text)).mapErr fun e => s!"Invalid keyset JSON: {e}"
  keysetInfoOfJson L json

/-- How a keyset is written as JSON. -/
def KeysetInfo.toJson (info : KeysetInfo T) : Json :=
  .obj [
    ("amounts", .arr (info.amountsLargestFirst.map .num)),
    ("finalExpiry", match info.finalExpiry with | none => .null | some expiry => .num expiry),
    ("inputFeePpk", .num info.inputFeePpk),
    ("keys", .obj (info.activeKeys.entries.map fun entry =>
      (toString entry.1, .str (L.publicKeyToHex entry.2)))),
    ("keysetId", .str (L.idToString info.keysetId)),
    ("unit", .str (L.unitToString info.unit))]

/-- A keyset as the code holds it: its numbers are `u64`, and its amounts are
collected from its keys. -/
structure KeysetInfo.Representable (info : KeysetInfo T) : Prop where
  amounts : info.amountsLargestFirst = info.activeKeys.keys.insertionSort (· ≥ ·)
  keys : ∀ amount ∈ info.activeKeys.keys, amount < 2 ^ 64
  fee : info.inputFeePpk < 2 ^ 64
  expiry : ∀ expiry ∈ info.finalExpiry, expiry < 2 ^ 64

theorem parseKeyEntry_toJson (trips : L.RoundTrips) {entry : Nat × T.PublicKey}
    (fits : entry.1 < 2 ^ 64) :
    parseKeyEntry L (toString entry.1, .str (L.publicKeyToHex entry.2)) = .ok entry := by
  simp only [parseKeyEntry, Decimal.parse_toString fits, Outcome.ofExcept_ok, Outcome.mapErr_ok,
    Outcome.ok_bind, Json.asStr_str, Outcome.ofOption_some, trips.publicKeyFromHex_toHex,
    Outcome.pure_eq]

/-- A keyset reads back from its JSON. -/
theorem keysetInfoOfJson_toJson (trips : L.RoundTrips) {info : KeysetInfo T}
    (representable : info.Representable) : keysetInfoOfJson L (info.toJson L) = .ok info := by
  obtain ⟨keysetId, unit, activeKeys, amounts, inputFeePpk, finalExpiry⟩ := info
  obtain ⟨collected, keysFit, feeFits, expiryFits⟩ := representable
  dsimp only at collected keysFit feeFits expiryFits
  have keys : Outcome.mapAll (parseKeyEntry L) (activeKeys.entries.map fun entry =>
      (toString entry.1, Json.str (L.publicKeyToHex entry.2))) = .ok activeKeys.entries := by
    rw [Outcome.mapAll_eq_ok, List.forall₂_map_left_iff, List.forall₂_same]
    exact fun entry member =>
      parseKeyEntry_toJson L trips (keysFit _ (List.mem_map_of_mem member))
  have expiry : (match finalExpiry with
      | none => Json.null
      | some expiry => .num expiry).asU64 = finalExpiry := by
    cases finalExpiry with
    | none => rfl
    | some expiry => exact Json.asU64_num (expiryFits expiry rfl)
  have noExpiry : Json.null.asU64 = none := rfl
  simp [-Nat.toString_eq_repr, keysetInfoOfJson, KeysetInfo.toJson, Json.field, Json.get?,
    List.lookup_cons, keys, expiry, noExpiry, Json.asU64_num feeFits, trips.idFromStr_toString,
    trips.unitFromStr_toString, SortedMap.ofList_entries, KeysetInfo.new, collected]

theorem parseKeysetInfoFromJson_render (trips : L.RoundTrips) {info : KeysetInfo T}
    (representable : info.Representable) :
    parseKeysetInfoFromJson L (L.render (info.toJson L)) = .ok info := by
  simp [parseKeysetInfoFromJson, trips.parse_render, keysetInfoOfJson_toJson L trips representable]

/-- Whatever is read back from the JSON of a keyset has its identifier. -/
theorem keysetId_of_parse_toJson {L : Cashu T} (trips : L.RoundTrips) {info read : KeysetInfo T}
    (parsed : parseKeysetInfoFromJson L (L.render (info.toJson L)) = .ok read) :
    read.keysetId = info.keysetId := by
  have named : (((info.toJson L).field "keysetId").asStr <|>
      ((info.toJson L).field "keyset_id").asStr) = some (L.idToString info.keysetId) := rfl
  simp only [parseKeysetInfoFromJson, trips.parse_render, Outcome.ofExcept_ok, Outcome.mapErr_ok,
    Outcome.ok_bind, keysetInfoOfJson, named, Outcome.ofOption_some,
    trips.idFromStr_toString, Outcome.bind_eq_ok, Outcome.pure_eq, Outcome.ok.injEq] at parsed
  obtain ⟨_, -, _, -, _, -, _, -, _, -, rfl⟩ := parsed
  rfl

namespace ChannelParameters

/-- The mode named in the parameters, ordinary if none is. -/
def commitmentModeOf (json : Json) : Outcome String CommitmentMode :=
  match json.get? "commitment_mode" with
  | none => .ok .ordinary
  | some value => .ofOption "invalid commitment_mode" (CommitmentMode.ofJson value)

/-- Read channel parameters from a JSON value. The keyset identifier and fee
have to be those of the keyset; its unit is not looked at. -/
def ofJson (json : Json) (keysetInfo : KeysetInfo T) (channelSecret : Bytes 32) :
    Outcome String (ChannelParameters T) := do
  let mode ← commitmentModeOf json
  let keysetIdStr ← .ofOption "Missing or invalid 'keyset_id' field"
    ((json.field "keyset_id").asStr <|> (json.field "keysetId").asStr)
  let jsonKeysetId ← (Outcome.ofExcept (L.idFromStr keysetIdStr)).mapErr fun e =>
    s!"Invalid keyset_id: {e}"
  let jsonInputFeePpk ← .ofOption "Missing or invalid 'input_fee_ppk' field"
    ((json.field "input_fee_ppk").asU64 <|> (json.field "inputFeePpk").asU64)
  .guard ("keyset_id mismatch: JSON has " ++ L.idToString jsonKeysetId ++ ", KeysetInfo has " ++
    L.idToString keysetInfo.keysetId) (keysetInfo.keysetId = jsonKeysetId)
  .guard ("input_fee_ppk mismatch: JSON has " ++ toString jsonInputFeePpk ++
    ", KeysetInfo has " ++ toString keysetInfo.inputFeePpk)
    (keysetInfo.inputFeePpk = jsonInputFeePpk)
  let mint ← .ofOption "Missing or invalid 'mint' field" (json.field "mint").asStr
  let unitStr ← .ofOption "Missing or invalid 'unit' field" (json.field "unit").asStr
  let unit ← (Outcome.ofExcept (L.unitFromStr unitStr)).mapErr fun e => s!"Invalid unit: {e}"
  let capacity ← .ofOption "Missing or invalid 'capacity' field" (json.field "capacity").asU64
  let fundingTokenAmount ← .ofOption "Missing or invalid 'funding_token_amount' field"
    (json.field "funding_token_amount").asU64
  let maximumAmountForOneOutput ←
    .ofOption "Missing or invalid 'maximum_amount_for_one_output' field"
      (json.field "maximum_amount_for_one_output").asU64
  let setupTimestamp ← .ofOption "Missing or invalid 'setup_timestamp' field"
    (json.field "setup_timestamp").asU64
  let senderPubkeyHex ← .ofOption "Missing or invalid 'sender_pubkey' field"
    (json.field "sender_pubkey").asStr
  let senderPubkey ← (Outcome.ofExcept (L.publicKeyFromHex senderPubkeyHex)).mapErr fun e =>
    s!"Invalid sender_pubkey: {e}"
  let receiverPubkeyHex ← .ofOption "Missing or invalid 'receiver_pubkey' field"
    (json.field "receiver_pubkey").asStr
  let receiverPubkey ← (Outcome.ofExcept (L.publicKeyFromHex receiverPubkeyHex)).mapErr fun e =>
    s!"Invalid receiver_pubkey: {e}"
  let expiryTimestamp ← .ofOption "Missing or invalid 'expiry_timestamp' field"
    (json.field "expiry_timestamp").asU64
  let params ← new senderPubkey receiverPubkey mint unit capacity fundingTokenAmount
    expiryTimestamp setupTimestamp keysetInfo maximumAmountForOneOutput channelSecret
  return params.withCommitmentMode mode

/-- `from_json_with_channel_secret`. -/
def fromJsonWithChannelSecret (text : T.Text) (keysetInfo : KeysetInfo T)
    (channelSecret : Bytes 32) : Outcome String (ChannelParameters T) := do
  let json ← (Outcome.ofExcept (L.parse text)).mapErr fun e => s!"Invalid JSON: {e}"
  ofJson L json keysetInfo channelSecret

/-- What parameters read from a JSON value have to do with it. -/
structure ReadFrom (json : Json) (keysetInfo : KeysetInfo T) (channelSecret : Bytes 32)
    (params : ChannelParameters T) : Prop where
  keysetInfo_eq : params.keysetInfo = keysetInfo
  channelSecret_eq : params.channelSecret = channelSecret
  mint_eq : ∃ raw, (json.field "mint").asStr = some raw ∧ params.mint = trimEndSlashes raw
  unit_eq : ∃ raw, (json.field "unit").asStr = some raw ∧ L.unitFromStr raw = .ok params.unit
  capacity_eq : (json.field "capacity").asU64 = some params.capacity
  fundingTokenAmount_eq :
    (json.field "funding_token_amount").asU64 = some params.fundingTokenAmount
  maximumAmount_eq : (json.field "maximum_amount_for_one_output").asU64 =
    some params.maximumAmountForOneOutput
  expiryTimestamp_eq : (json.field "expiry_timestamp").asU64 = some params.expiryTimestamp
  receiverPubkey_eq : ∃ hex, (json.field "receiver_pubkey").asStr = some hex ∧
    L.publicKeyFromHex hex = .ok params.receiverPubkey
  cheap : keysetInfo.inputFeePpk ≤ 999
  /-- The capacity is what two stages of fees leave, at most. -/
  achievable : ∃ afterStage1 maxCapacity,
    keysetInfo.deterministicValueAfterFees params.fundingTokenAmount
      params.maximumAmountForOneOutput = .ok afterStage1 ∧
    keysetInfo.deterministicValueAfterFees afterStage1 params.maximumAmountForOneOutput =
      .ok maxCapacity ∧
    params.capacity ≤ maxCapacity

theorem readFrom_of_ofJson {json : Json} {keysetInfo : KeysetInfo T} {channelSecret : Bytes 32}
    {params : ChannelParameters T} (read : ofJson L json keysetInfo channelSecret = .ok params) :
    ReadFrom L json keysetInfo channelSecret params := by
  unfold ofJson at read
  simp only [Outcome.bind_eq_ok, Outcome.ofOption_eq_ok, Outcome.mapErr_eq_ok,
    Outcome.ofExcept_eq_ok, Outcome.guard_eq_ok, new_eq_ok_iff, Outcome.pure_eq,
    Outcome.ok.injEq] at read
  obtain ⟨mode, -, -, -, -, -, -, -, -, -, -, -, mint, hasMint, unitStr, hasUnit, unit, isUnit,
    capacity, hasCapacity, funding, hasFunding, maximum, hasMaximum, setup, -, -, -, -, -,
    receiverHex, hasReceiver, receiver, isReceiver, expiry, hasExpiry, _,
    ⟨cheap, achievable, rfl⟩, rfl⟩ := read
  exact {
    keysetInfo_eq := rfl
    channelSecret_eq := rfl
    mint_eq := ⟨mint, hasMint, rfl⟩
    unit_eq := ⟨unitStr, hasUnit, isUnit⟩
    capacity_eq := hasCapacity
    fundingTokenAmount_eq := hasFunding
    maximumAmount_eq := hasMaximum
    expiryTimestamp_eq := hasExpiry
    receiverPubkey_eq := ⟨receiverHex, hasReceiver, isReceiver⟩
    cheap := cheap
    achievable := achievable }

end ChannelParameters

end Json

/-! ## The channel identifier -/

section ChannelId

/-- A `u64` in big-endian bytes. -/
def toBeBytes (value : Nat) : List UInt8 :=
  [7, 6, 5, 4, 3, 2, 1, 0].map fun place => UInt8.ofNat (value / 256 ^ place)

/-- A `u64` without its leading zero bytes. -/
def tu64Bytes (value : Nat) : List UInt8 := (toBeBytes value).dropWhile (· == 0)

/-- The variable-length integer of Lightning TLV streams. -/
def bigSize (value : Nat) : List UInt8 :=
  if value < 0xFD then [UInt8.ofNat value]
  else if value < 0x10000 then 0xFD :: (toBeBytes value).drop 6
  else if value < 0x100000000 then 0xFE :: (toBeBytes value).drop 4
  else 0xFF :: toBeBytes value

/-- One TLV record: type, length, value. -/
def tlvRecord (typ : Nat) (value : List UInt8) : List UInt8 :=
  bigSize typ ++ bigSize value.length ++ value

variable (L : Cashu T)

/-- Hash with a domain tag. -/
def taggedSha256 (tag message : List UInt8) : Bytes 32 :=
  let tagHash := (L.sha256 tag).val
  L.sha256 (tagHash ++ tagHash ++ message)

namespace ChannelParameters

/-- The name of the channel's unit. -/
def unitName (params : ChannelParameters T) : String := L.unitToString params.unit

/-- Everything the channel identifier commits to. -/
def channelIdTlvStream (params : ChannelParameters T) : List UInt8 :=
  tlvRecord 0 (tu64Bytes 1) ++
  tlvRecord 2 (utf8 params.mint) ++
  tlvRecord 4 (utf8 (params.unitName L)) ++
  tlvRecord 6 (tu64Bytes params.capacity) ++
  tlvRecord 8 (tu64Bytes params.fundingTokenAmount) ++
  tlvRecord 10 (L.idToBytes params.keysetInfo.keysetId) ++
  tlvRecord 12 (tu64Bytes params.keysetInfo.inputFeePpk) ++
  tlvRecord 14 (tu64Bytes params.maximumAmountForOneOutput) ++
  tlvRecord 16 (L.publicKeyToBytes params.senderPubkey) ++
  tlvRecord 18 (L.publicKeyToBytes params.receiverPubkey) ++
  tlvRecord 20 (tu64Bytes params.setupTimestamp) ++
  tlvRecord 22 (tu64Bytes params.expiryTimestamp) ++
  tlvRecord 24 params.channelSecret.val ++
  match params.commitmentMode with
  | .ordinary => []
  | .rerandomized => tlvRecord 26 [1]

/-- The channel identifier as bytes. -/
def getChannelIdBytes (params : ChannelParameters T) : Bytes 32 :=
  taggedSha256 L (utf8 "Cashu_Spilman_channel_id") (params.channelIdTlvStream L)

/-- The channel identifier in hexadecimal. -/
def getChannelId (params : ChannelParameters T) : String :=
  Hex.encode (params.getChannelIdBytes L).val

/-- The parameters as they are stored and sent. The mode is left out if it is ordinary. -/
def channelIdParams (params : ChannelParameters T) : Json :=
  .obj ([
    ("mint", .str params.mint),
    ("unit", .str (params.unitName L)),
    ("capacity", .num params.capacity),
    ("funding_token_amount", .num params.fundingTokenAmount),
    ("keyset_id", .str (L.idToString params.keysetInfo.keysetId)),
    ("input_fee_ppk", .num params.keysetInfo.inputFeePpk),
    ("maximum_amount_for_one_output", .num params.maximumAmountForOneOutput),
    ("setup_timestamp", .num params.setupTimestamp),
    ("sender_pubkey", .str (L.publicKeyToHex params.senderPubkey)),
    ("receiver_pubkey", .str (L.publicKeyToHex params.receiverPubkey)),
    ("expiry_timestamp", .num params.expiryTimestamp)] ++
    match params.commitmentMode with
    | .ordinary => []
    | .rerandomized => [("commitment_mode", .str "rerandomized")])

/-- `get_channel_id_params_json`. -/
def getChannelIdParamsJson (params : ChannelParameters T) : T.Text :=
  L.render (params.channelIdParams L)

/-- Numbers of the parameters are `u64`. -/
structure Representable (params : ChannelParameters T) : Prop where
  capacity : params.capacity < 2 ^ 64
  fundingTokenAmount : params.fundingTokenAmount < 2 ^ 64
  maximumAmount : params.maximumAmountForOneOutput < 2 ^ 64
  setupTimestamp : params.setupTimestamp < 2 ^ 64
  expiryTimestamp : params.expiryTimestamp < 2 ^ 64

/-- **Parameters read back from their JSON**, with the same keyset and secret. -/
theorem fromJsonWithChannelSecret_getChannelIdParamsJson (trips : L.RoundTrips)
    {senderPubkey receiverPubkey : T.PublicKey} {mint : String}
    {unit : T.CurrencyUnit} {capacity fundingTokenAmount expiryTimestamp setupTimestamp : Nat}
    {keysetInfo : KeysetInfo T} {maximumAmountForOneOutput : Nat} {channelSecret : Bytes 32}
    {params : ChannelParameters T}
    (accepted : new senderPubkey receiverPubkey mint unit capacity fundingTokenAmount
      expiryTimestamp setupTimestamp keysetInfo maximumAmountForOneOutput channelSecret =
        .ok params) (fits : params.Representable) (mode : CommitmentMode) :
    fromJsonWithChannelSecret L ((params.withCommitmentMode mode).getChannelIdParamsJson L)
      keysetInfo channelSecret = .ok (params.withCommitmentMode mode) := by
  obtain ⟨cheap, stages, rfl⟩ := new_eq_ok_iff.mp accepted
  obtain ⟨capacityFits, fundingFits, maximumFits, setupFits, expiryFits⟩ := fits
  dsimp only at capacityFits fundingFits maximumFits setupFits expiryFits
  have feeFits : keysetInfo.inputFeePpk < 2 ^ 64 := cheap.trans_lt (by decide)
  -- The URL that is read has lost its slashes already.
  have trimmed : new senderPubkey receiverPubkey (trimEndSlashes mint) unit capacity
      fundingTokenAmount expiryTimestamp setupTimestamp keysetInfo maximumAmountForOneOutput
      channelSecret = new senderPubkey receiverPubkey mint unit capacity fundingTokenAmount
      expiryTimestamp setupTimestamp keysetInfo maximumAmountForOneOutput channelSecret := by
    simp only [new, trimEndSlashes_trimEndSlashes]
  cases mode <;>
    simp [fromJsonWithChannelSecret, getChannelIdParamsJson, trips.parse_render, ofJson,
      commitmentModeOf, channelIdParams, unitName, withCommitmentMode, Json.field, Json.get?,
      List.lookup_cons, CommitmentMode.ofJson, CommitmentMode.fromStr, Json.asU64_num capacityFits,
      Json.asU64_num fundingFits, Json.asU64_num maximumFits, Json.asU64_num setupFits,
      Json.asU64_num expiryFits, Json.asU64_num feeFits, trips.idFromStr_toString,
      trips.unitFromStr_toString, trips.publicKeyFromHex_toHex, Outcome.guard_pos, trimmed,
      accepted]

end ChannelParameters

end ChannelId

end Spilman
