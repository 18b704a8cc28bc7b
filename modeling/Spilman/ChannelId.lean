/-
# What a channel identifier commits to

The identifier of a channel is the hash of a stream of records: a type, a length and a
value each, with numbers in as few bytes as possible and a last record that is there in
one mode only. `channelIdTlvStream_inj` says that the stream determines the parameters:
the variable-length integers in front of every value are a prefix code, so that the
records can be told apart, and every value can be read back from its bytes.
-/

import Spilman.Lib.PrefixCode
import Spilman.SampleChannel

namespace Spilman

open Lib

/-! ## Numbers in bytes -/

/-- Big-endian bytes as a number. -/
def ofBeBytes (bytes : List UInt8) : Nat :=
  bytes.foldl (fun value byte => 256 * value + byte.toNat) 0

theorem ofBeBytes_toBeBytes {value : Nat} (fits : value < 2 ^ 64) :
    ofBeBytes (toBeBytes value) = value := by
  simp only [ofBeBytes, toBeBytes, List.map_cons, List.map_nil, List.foldl_cons, List.foldl_nil,
    UInt8.toNat_ofNat']
  omega

/-- The last bytes hold a number that fits into them. -/
theorem ofBeBytes_drop {value : Nat} :
    (value < 2 ^ 16 → ofBeBytes ((toBeBytes value).drop 6) = value) ∧
      (value < 2 ^ 32 → ofBeBytes ((toBeBytes value).drop 4) = value) := by
  simp only [ofBeBytes, toBeBytes, List.map_cons, List.map_nil, List.drop_succ_cons,
    List.drop_zero, List.foldl_cons, List.foldl_nil, UInt8.toNat_ofNat']
  omega

theorem ofBeBytes_dropWhile (bytes : List UInt8) :
    ofBeBytes (bytes.dropWhile (· == 0)) = ofBeBytes bytes := by
  induction bytes with
  | nil => rfl
  | cons byte rest ih =>
      by_cases zero : byte = 0
      · subst zero
        exact ih
      · rw [List.dropWhile_cons_of_neg (by simpa using zero)]

/-- Numbers are told apart by their bytes, without leading zeros. -/
theorem tu64Bytes_inj {value value' : Nat} (fits : value < 2 ^ 64) (fits' : value' < 2 ^ 64)
    (same : tu64Bytes value = tu64Bytes value') : value = value' := by
  have read := congrArg ofBeBytes same
  rwa [tu64Bytes, tu64Bytes, ofBeBytes_dropWhile, ofBeBytes_dropWhile, ofBeBytes_toBeBytes fits,
    ofBeBytes_toBeBytes fits'] at read

/-! ## Records -/

/-- Read a variable-length integer. -/
def readBigSize : List UInt8 → Option (Nat × List UInt8)
  | [] => none
  | head :: rest =>
      if head = 0xFD then some (ofBeBytes (rest.take 2), rest.drop 2)
      else if head = 0xFE then some (ofBeBytes (rest.take 4), rest.drop 4)
      else if head = 0xFF then some (ofBeBytes (rest.take 8), rest.drop 8)
      else some (head.toNat, rest)

theorem length_toBeBytes (value : Nat) : (toBeBytes value).length = 8 := by
  rw [toBeBytes, List.length_map]
  rfl

theorem length_drop_toBeBytes (value count : Nat) :
    ((toBeBytes value).drop count).length = 8 - count := by
  rw [List.length_drop, length_toBeBytes]

theorem readBigSize_bigSize (value : Nat) (rest : List UInt8) (fits : value < 2 ^ 64) :
    readBigSize (bigSize value ++ rest) = some (value, rest) := by
  unfold bigSize
  by_cases one : value < 0xFD
  · have isByte : (UInt8.ofNat value).toNat = value :=
      UInt8.toNat_ofNat_of_lt' (one.trans (by decide))
    have unmarked : ∀ mark : UInt8, 0xFD ≤ mark.toNat → UInt8.ofNat value ≠ mark := by
      rintro mark large rfl
      omega
    rw [if_pos one, List.singleton_append, readBigSize, if_neg (unmarked _ (by decide)),
      if_neg (unmarked _ (by decide)), if_neg (unmarked _ (by decide)), isByte]
  by_cases two : value < 0x10000
  · have length := length_drop_toBeBytes value 6
    rw [if_neg one, if_pos two, List.cons_append, readBigSize, if_pos rfl,
      List.take_left' length, List.drop_left' length, ofBeBytes_drop.1 two]
  by_cases four : value < 0x100000000
  · have length := length_drop_toBeBytes value 4
    rw [if_neg one, if_neg two, if_pos four, List.cons_append, readBigSize, if_neg (by decide),
      if_pos rfl, List.take_left' length, List.drop_left' length, ofBeBytes_drop.2 four]
  · have length := length_toBeBytes value
    rw [if_neg one, if_neg two, if_neg four, List.cons_append, readBigSize, if_neg (by decide),
      if_neg (by decide), if_pos rfl, List.take_left' length, List.drop_left' length,
      ofBeBytes_toBeBytes fits]

theorem bigSize_ne_nil (value : Nat) : bigSize value ≠ [] := by
  unfold bigSize
  split_ifs <;> simp

/-- **Variable-length integers are a prefix code.** -/
theorem prefixFree_bigSize : PrefixFree (· < 2 ^ 64) bigSize :=
  PrefixFree.of_read readBigSize readBigSize_bigSize

/-- Records with a type and a value. -/
def tlvRecordOf (record : Nat × List UInt8) : List UInt8 := tlvRecord record.1 record.2

theorem prefixFree_tlvRecordOf :
    PrefixFree (fun record => record.1 < 2 ^ 64 ∧ record.2.length < 2 ^ 64) tlvRecordOf := by
  have records := prefixFree_bigSize.pair prefixFree_bigSize.lengthPrefixed
  intro first second isValid isValid' rest rest' same
  apply records first second isValid isValid'
  simpa only [tlvRecordOf, tlvRecord, List.append_assoc] using same

theorem tlvRecordOf_ne_nil (record : Nat × List UInt8) : tlvRecordOf record ≠ [] := by
  simp [tlvRecordOf, tlvRecord, bigSize_ne_nil]

/-! ## Parameters -/

namespace ChannelParameters

variable {T : Carriers} (L : Cashu T)

/-- The records that are hashed. -/
def channelIdRecords (params : ChannelParameters T) : List (Nat × List UInt8) :=
  [(0, tu64Bytes 1), (2, utf8 params.mint), (4, utf8 (params.unitName L)),
    (6, tu64Bytes params.capacity), (8, tu64Bytes params.fundingTokenAmount),
    (10, L.idToBytes params.keysetInfo.keysetId), (12, tu64Bytes params.keysetInfo.inputFeePpk),
    (14, tu64Bytes params.maximumAmountForOneOutput),
    (16, L.publicKeyToBytes params.senderPubkey),
    (18, L.publicKeyToBytes params.receiverPubkey), (20, tu64Bytes params.setupTimestamp),
    (22, tu64Bytes params.expiryTimestamp), (24, params.channelSecret.val)] ++
  (match params.commitmentMode with
  | .ordinary => []
  | .rerandomized => [(26, [1])] : List (Nat × List UInt8))

theorem channelIdTlvStream_eq (params : ChannelParameters T) :
    params.channelIdTlvStream L = (params.channelIdRecords L).flatMap tlvRecordOf := by
  unfold channelIdTlvStream channelIdRecords
  cases params.commitmentMode with
  | ordinary => simp only [List.append_nil, List.flatMap_cons, List.flatMap_nil, tlvRecordOf,
      List.append_assoc]
  | rerandomized => simp only [List.cons_append, List.nil_append, List.flatMap_cons,
      List.flatMap_nil, List.append_nil, tlvRecordOf, List.append_assoc]

/-- Parameters that the code can hold: numbers are `u64`, and texts have a `usize` length. -/
structure Encodable (params : ChannelParameters T) : Prop extends params.Representable where
  inputFeePpk : params.keysetInfo.inputFeePpk < 2 ^ 64
  mint : (utf8 params.mint).length < 2 ^ 64
  unitName : (utf8 (params.unitName L)).length < 2 ^ 64
  keysetId : (L.idToBytes params.keysetInfo.keysetId).length < 2 ^ 64
  senderPubkey : (L.publicKeyToBytes params.senderPubkey).length < 2 ^ 64
  receiverPubkey : (L.publicKeyToBytes params.receiverPubkey).length < 2 ^ 64

/-- Everything that a channel identifier stands for is the same. -/
structure SameChannel (params other : ChannelParameters T) : Prop where
  mint : params.mint = other.mint
  unitName : params.unitName L = other.unitName L
  capacity : params.capacity = other.capacity
  fundingTokenAmount : params.fundingTokenAmount = other.fundingTokenAmount
  keysetId : params.keysetInfo.keysetId = other.keysetInfo.keysetId
  inputFeePpk : params.keysetInfo.inputFeePpk = other.keysetInfo.inputFeePpk
  maximumAmount : params.maximumAmountForOneOutput = other.maximumAmountForOneOutput
  senderPubkey : params.senderPubkey = other.senderPubkey
  receiverPubkey : params.receiverPubkey = other.receiverPubkey
  setupTimestamp : params.setupTimestamp = other.setupTimestamp
  expiryTimestamp : params.expiryTimestamp = other.expiryTimestamp
  channelSecret : params.channelSecret = other.channelSecret
  commitmentMode : params.commitmentMode = other.commitmentMode

variable {L} {params other : ChannelParameters T}

theorem length_tu64Bytes (value : Nat) : (tu64Bytes value).length < 2 ^ 64 := by
  have shorter : (tu64Bytes value).length ≤ (toBeBytes value).length :=
    (List.dropWhile_suffix _).length_le
  rw [length_toBeBytes] at shorter
  omega

/-- The records fit into the stream. -/
theorem valid_channelIdRecords (fits : params.Encodable L) :
    ∀ record ∈ params.channelIdRecords L, record.1 < 2 ^ 64 ∧ record.2.length < 2 ^ 64 := by
  have secret : params.channelSecret.val.length < 2 ^ 64 := by
    rw [params.channelSecret.property]
    decide
  unfold channelIdRecords
  cases params.commitmentMode <;>
    simp [-Nat.reducePow, length_tu64Bytes, fits.mint, fits.unitName, fits.keysetId,
      fits.senderPubkey, fits.receiverPubkey, secret] <;>
    decide

/-- **Channel identifiers commit to every parameter.** Two channels whose streams are the same
have the same parameters, if identifiers of keysets and public keys are told apart by their
bytes. -/
theorem channelIdTlvStream_inj (ids : Function.Injective L.idToBytes)
    (keys : Function.Injective L.publicKeyToBytes) (fits : params.Encodable L)
    (fits' : other.Encodable L)
    (same : params.channelIdTlvStream L = other.channelIdTlvStream L) :
    SameChannel L params other := by
  rw [channelIdTlvStream_eq, channelIdTlvStream_eq] at same
  have records := prefixFree_tlvRecordOf.flatMap_inj tlvRecordOf_ne_nil
    (valid_channelIdRecords fits) (valid_channelIdRecords fits') same
  simp only [channelIdRecords, List.cons_append, List.nil_append, List.cons.injEq, Prod.mk.injEq,
    true_and] at records
  obtain ⟨mint, unit, capacity, funding, keysetId, fee, maximum, sender, receiver, setup, expiry,
    secret, mode⟩ := records
  exact {
    mint := utf8_injective mint
    unitName := utf8_injective unit
    capacity := tu64Bytes_inj fits.capacity fits'.capacity capacity
    fundingTokenAmount := tu64Bytes_inj fits.fundingTokenAmount fits'.fundingTokenAmount funding
    keysetId := ids keysetId
    inputFeePpk := tu64Bytes_inj fits.inputFeePpk fits'.inputFeePpk fee
    maximumAmount := tu64Bytes_inj fits.maximumAmount fits'.maximumAmount maximum
    senderPubkey := keys sender
    receiverPubkey := keys receiver
    setupTimestamp := tu64Bytes_inj fits.setupTimestamp fits'.setupTimestamp setup
    expiryTimestamp := tu64Bytes_inj fits.expiryTimestamp fits'.expiryTimestamp expiry
    channelSecret := Subtype.ext secret
    commitmentMode := by
      cases isMode : params.commitmentMode <;> cases isMode' : other.commitmentMode <;>
        simp [isMode, isMode'] at mode ⊢ }

end ChannelParameters

namespace Sample

/-- Parameters over a keyset that may expire. -/
def expiring (finalExpiry : Option Nat) : ChannelParameters carriers where
  commitmentMode := .rerandomized
  senderPubkey := point 3
  receiverPubkey := point 4
  mint := "m"
  unit := "sat"
  capacity := 2
  fundingTokenAmount := 2
  expiryTimestamp := 2000
  setupTimestamp := 0
  keysetInfo := { pairs "sat" with finalExpiry }
  maximumAmountForOneOutput := 0
  channelSecret := sharedSecret

theorem publicKeyToBytes_injective : Function.Injective library.publicKeyToBytes := by
  intro (first : Point) (second : Point) same
  have bytes : UInt8.ofNat first.val = UInt8.ofNat second.val := (List.cons.inj same).1
  rw [← point_of_byte first, bytes, point_of_byte]

theorem encodable_expiring (finalExpiry : Option Nat) :
    (expiring finalExpiry).Encodable library where
  capacity := (by decide : 2 < 2 ^ 64)
  fundingTokenAmount := (by decide : 2 < 2 ^ 64)
  maximumAmount := (by decide : 0 < 2 ^ 64)
  setupTimestamp := (by decide : 0 < 2 ^ 64)
  expiryTimestamp := (by decide : 2000 < 2 ^ 64)
  inputFeePpk := (by decide : (pairs "sat").inputFeePpk < 2 ^ 64)
  mint := (by decide +kernel : (utf8 "m").length < 2 ^ 64)
  unitName := (by decide +kernel : (utf8 (library.unitToString "sat")).length < 2 ^ 64)
  keysetId := (by decide +kernel :
    (library.idToBytes (pairs "sat").keysetId).length < 2 ^ 64)
  senderPubkey := (by decide +kernel : (library.publicKeyToBytes (point 3)).length < 2 ^ 64)
  receiverPubkey := (by decide +kernel : (library.publicKeyToBytes (point 4)).length < 2 ^ 64)

end Sample

/-- The expiry of a keyset is not part of the identifier. -/
theorem channelIdTlvStream_inj_expiring :
    (Sample.expiring none).channelIdTlvStream Sample.library =
        (Sample.expiring (some 3000)).channelIdTlvStream Sample.library ∧
      ChannelParameters.SameChannel Sample.library (Sample.expiring none)
        (Sample.expiring (some 3000)) :=
  ⟨rfl, ChannelParameters.channelIdTlvStream_inj utf8_injective Sample.publicKeyToBytes_injective
    (Sample.encodable_expiring none) (Sample.encodable_expiring (some 3000)) rfl⟩

end Spilman
