/-
# The ecash library underneath

The channel code is written on top of a general ecash library: curve
arithmetic, hashing, blind signatures, the JSON parser and printer, and the
wire types of the mint protocol. None of that is part of this repository. It
enters the development as a parameter, in two steps: `Carriers` names the types
that are only ever passed around, and `Cashu` the operations on them. The wire
types themselves are plain records over the carriers.

Laws of the library are stated where a result needs them, as hypotheses.
-/

import Mathlib.Order.Nat
import Spilman.Lib.Outcome
import Spilman.Lib.SortedMap
import Spilman.Json

namespace Spilman

open Lib

/-- Byte strings of a fixed length. -/
abbrev Bytes (length : Nat) := { bytes : List UInt8 // bytes.length = length }

/-- `bytes.try_into()` at a fixed-size array. -/
def Bytes.ofList? (length : Nat) (bytes : List UInt8) : Option (Bytes length) :=
  if fits : bytes.length = length then some ⟨bytes, fits⟩ else none

theorem Bytes.ofList?_eq_some {length : Nat} {bytes : List UInt8} {result : Bytes length} :
    Bytes.ofList? length bytes = some result ↔ result.val = bytes := by
  unfold Bytes.ofList?
  split_ifs with fits
  · rw [Option.some.injEq]
    exact ⟨fun same => same ▸ rfl, fun same => Subtype.ext same.symm⟩
  · constructor
    · rintro ⟨⟩
    · rintro rfl
      exact absurd result.property fits

/-- The types of the ecash library that the channel code treats as opaque. -/
structure Carriers where
  /-- JSON texts. -/
  Text : Type
  /-- Curve points: keys and blinded messages. -/
  PublicKey : Type
  /-- Nonzero scalars: private keys and blinding factors. -/
  SecretKey : Type
  /-- Scalars used as tweaks. -/
  Scalar : Type
  /-- Keyset identifiers. -/
  Id : Type
  /-- Currency units. -/
  CurrencyUnit : Type
  [decText : DecidableEq Text]
  [decPublicKey : DecidableEq PublicKey]
  [decSecretKey : DecidableEq SecretKey]
  [decScalar : DecidableEq Scalar]
  [decId : DecidableEq Id]
  [decCurrencyUnit : DecidableEq CurrencyUnit]

attribute [instance] Carriers.decText Carriers.decPublicKey Carriers.decSecretKey
  Carriers.decScalar Carriers.decId Carriers.decCurrencyUnit

/-! ## Wire types -/

/-- The keys of a keyset, by the amount each of them signs. -/
abbrev Keys (T : Carriers) := SortedMap Nat T.PublicKey

/-- `keys.amount_key(amount)`. -/
abbrev Keys.amountKey {T : Carriers} (keys : Keys T) (amount : Nat) : Option T.PublicKey :=
  keys.get? amount

/-- Spend witness of a proof. -/
inductive Witness
  | p2pk (signatures : List String)
  | htlc (preimage : String) (signatures : Option (List String))
  deriving DecidableEq, Repr

/-- Append signatures to a witness. -/
def Witness.addSignatures (witness : Witness) (signatures : List String) : Witness :=
  match witness with
  | .p2pk existing => .p2pk (existing ++ signatures)
  | .htlc preimage (some existing) => .htlc preimage (some (existing ++ signatures))
  | .htlc preimage none => .htlc preimage (some signatures)

/-- Equality proof attached to a blind signature. -/
structure BlindSignatureDleq (T : Carriers) where
  e : T.SecretKey
  s : T.SecretKey
  deriving DecidableEq

/-- Equality proof attached to an unblinded proof, with its blinding factor. -/
structure ProofDleq (T : Carriers) where
  e : T.SecretKey
  s : T.SecretKey
  r : T.SecretKey
  deriving DecidableEq

/-- An unblinded ecash proof. -/
structure Proof (T : Carriers) where
  amount : Nat
  keysetId : T.Id
  secret : String
  c : T.PublicKey
  witness : Option Witness
  dleq : Option (ProofDleq T)
  p2pkE : Option T.PublicKey
  deriving DecidableEq

/-- An output offered to the mint for signing. -/
structure BlindedMessage (T : Carriers) where
  amount : Nat
  keysetId : T.Id
  blindedSecret : T.PublicKey
  deriving DecidableEq

/-- The mint's signature on an output. -/
structure BlindSignature (T : Carriers) where
  amount : Nat
  keysetId : T.Id
  c : T.PublicKey
  dleq : Option (BlindSignatureDleq T)
  deriving DecidableEq

/-- A swap of proofs for fresh outputs, ordinary or mint-rerandomized. -/
structure SwapRequest (T : Carriers) where
  inputs : List (Proof T)
  outputs : List (BlindedMessage T)
  rerandomized : Bool
  deriving DecidableEq

/-- The mint's answer to a swap, with its randomness in rerandomized mode. -/
structure SwapResponse (T : Carriers) where
  signatures : List (BlindSignature T)
  rerandomizationR : Option (Bytes 32)
  deriving DecidableEq

/-- The mint's answer to the question which outputs it has signed. -/
structure RestoreResponse (T : Carriers) where
  outputs : List (BlindedMessage T)
  signatures : List (BlindSignature T)
  deriving DecidableEq

/-- The derivation rule behind a keyset identifier. -/
inductive KeySetVersion
  | version00
  | version01
  deriving DecidableEq, Repr

/-! ## Operations -/

/-- The operations of the ecash library. Errors are their display texts. -/
structure Cashu (T : Carriers) where
  /-- `serde_json::from_str` into a value. -/
  parse : T.Text → Except String Json
  /-- `Value::to_string`. -/
  render : Json → T.Text
  /-- `serde_json::to_string` of a value shown in a message. -/
  jsonString : Json → String
  /-- `serde_json::from_str` on the text of a secret. -/
  parseSecret : String → Except String Json
  /-- The text of a failed deserialization of a value. -/
  shapeError : Json → String
  /-- The text of a failed hexadecimal decoding. -/
  hexError : String → String
  /-- `PublicKey::from_hex`, also behind `parse`. -/
  publicKeyFromHex : String → Except String T.PublicKey
  publicKeyToHex : T.PublicKey → String
  publicKeyToBytes : T.PublicKey → List UInt8
  /-- The parity of the vertical coordinate. -/
  hasOddY : T.PublicKey → Bool
  negate : T.PublicKey → T.PublicKey
  /-- `P + t·G`. -/
  addExpTweak : T.PublicKey → T.Scalar → Except String T.PublicKey
  /-- `k·P`. -/
  mulTweak : T.PublicKey → T.SecretKey → Except String T.PublicKey
  /-- The horizontal coordinate. -/
  xOnly : T.PublicKey → Bytes 32
  publicKey : T.SecretKey → T.PublicKey
  secretKeyFromSlice : List UInt8 → Except String T.SecretKey
  secretBytes : T.SecretKey → Bytes 32
  /-- `k + t`. -/
  addTweak : T.SecretKey → T.Scalar → Except String T.SecretKey
  scalarFromBeBytes : Bytes 32 → Option T.Scalar
  scalarToBeBytes : T.Scalar → Bytes 32
  zero : T.Scalar
  sha256 : List UInt8 → Bytes 32
  hmacSha256 : List UInt8 → List UInt8 → Bytes 32
  /-- `Signature::from_str` rejects a text that is not 64 bytes of hexadecimal. -/
  signatureError : String → String
  /-- BIP-340 verification of a signature on a digest under an x-only key. -/
  verifySchnorr : Bytes 64 → Bytes 32 → Bytes 32 → Bool
  idFromStr : String → Except String T.Id
  idToString : T.Id → String
  idToBytes : T.Id → List UInt8
  getVersion : T.Id → KeySetVersion
  v1FromKeys : Keys T → T.Id
  v2FromData : Keys T → T.CurrencyUnit → Nat → Option Nat → T.Id
  unitFromStr : String → Except String T.CurrencyUnit
  unitToString : T.CurrencyUnit → String
  /-- The point by which the mint knows a proof, from its secret. -/
  hashToCurve : String → Except String T.PublicKey
  /-- The point of a secret under a blinding factor. -/
  blindMessage : String → T.SecretKey → Except String T.PublicKey
  /-- Unblind signatures into proofs. -/
  constructProofs : List (BlindSignature T) → List T.SecretKey → List String → Keys T →
    Except String (List (Proof T))
  /-- Check a signature's equality proof against a key and the signed point. -/
  verifyBlindDleq : BlindSignature T → T.PublicKey → T.PublicKey → Except String Unit
  /-- Check a proof's equality proof against a key. -/
  verifyDleq : Proof T → T.PublicKey → Except String Unit
  deriveRerandomizationTweak : Bytes 32 → Except String T.Scalar
  tweakSwapOutputs : Bytes 32 → List (BlindedMessage T) → Except String (List (BlindedMessage T))
  /-- The digest both parties sign to authorize a swap. -/
  sigAllMessageHash : SwapRequest T → Bytes 32
  /-- The message of an ordinary swap, before it is hashed. -/
  sigAllMsgToSign : SwapRequest T → List UInt8
  proofsToJson : List (Proof T) → Json
  proofsOfJson : Json → Except String (List (Proof T))
  swapRequestToJson : SwapRequest T → Json
  swapRequestOfJson : Json → Except String (SwapRequest T)
  swapResponseToJson : SwapResponse T → Json
  swapResponseOfJson : Json → Except String (SwapResponse T)
  restoreResponseToJson : RestoreResponse T → Json
  restoreResponseOfJson : Json → Except String (RestoreResponse T)

/-- Reading back what the library has written: the serializers and the textual
forms of keys, identifiers and units. -/
structure Cashu.RoundTrips {T : Carriers} (L : Cashu T) : Prop where
  parse_render : ∀ json, L.parse (L.render json) = .ok json
  publicKeyFromHex_toHex : ∀ key, L.publicKeyFromHex (L.publicKeyToHex key) = .ok key
  secretKeyFromSlice_bytes : ∀ key, L.secretKeyFromSlice (L.secretBytes key).val = .ok key
  scalarFromBeBytes_toBeBytes : ∀ t, L.scalarFromBeBytes (L.scalarToBeBytes t) = some t
  idFromStr_toString : ∀ id, L.idFromStr (L.idToString id) = .ok id
  unitFromStr_toString : ∀ unit, L.unitFromStr (L.unitToString unit) = .ok unit
  proofsOfJson_toJson : ∀ proofs, L.proofsOfJson (L.proofsToJson proofs) = .ok proofs
  swapRequestOfJson_toJson : ∀ request,
    L.swapRequestOfJson (L.swapRequestToJson request) = .ok request

/-- Reading back the mint's answers. -/
structure Cashu.RestoreTrips {T : Carriers} (L : Cashu T) : Prop where
  swapResponseOfJson_toJson : ∀ response,
    L.swapResponseOfJson (L.swapResponseToJson response) = .ok response
  restoreResponseOfJson_toJson : ∀ response,
    L.restoreResponseOfJson (L.restoreResponseToJson response) = .ok response

namespace Cashu.RoundTrips

variable {T : Carriers} {L : Cashu T}

/-- What reads back was written from one value. -/
theorem injective_of_read {α β : Type} {write : α → β} {read : β → Except String α}
    (inverse : ∀ value, read (write value) = .ok value) : Function.Injective write := by
  intro value value' same
  have read := inverse value
  rw [same, inverse value'] at read
  exact (Except.ok.inj read).symm

theorem publicKeyToHex_injective (trips : L.RoundTrips) : Function.Injective L.publicKeyToHex :=
  injective_of_read trips.publicKeyFromHex_toHex

theorem idToString_injective (trips : L.RoundTrips) : Function.Injective L.idToString :=
  injective_of_read trips.idFromStr_toString

theorem unitToString_injective (trips : L.RoundTrips) : Function.Injective L.unitToString :=
  injective_of_read trips.unitFromStr_toString

theorem swapRequestToJson_injective (trips : L.RoundTrips) :
    Function.Injective L.swapRequestToJson :=
  injective_of_read trips.swapRequestOfJson_toJson

end Cashu.RoundTrips

end Spilman
