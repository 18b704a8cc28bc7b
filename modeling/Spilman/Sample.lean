/-
# A small ecash library

An instance of the library interface that can be evaluated: the integers modulo
a prime in place of the curve, with `G = 1`, so that a key is its own public
key. Blind signatures, equality proofs and key shifts are the usual ones over
this group, and the textual forms read back what they write. It shows that the
laws the development assumes of the library hold together, and it is where the
concrete runs of the development take place.
-/

import Mathlib.Data.ZMod.Basic
import Spilman.Lib.Text
import Spilman.Cashu

namespace Spilman.Sample

open Lib

/-- The order of the group. -/
abbrev order : Nat := 251

/-- Points and scalars. -/
abbrev Point := ZMod order

/-- The carriers: JSON texts are the values themselves. -/
abbrev carriers : Carriers where
  Text := Json
  PublicKey := Point
  SecretKey := { k : Point // k ≠ 0 }
  Scalar := Point
  Id := String
  CurrencyUnit := String

/-- The multiples of the generator. -/
def point (k : Nat) : Point := k

theorem one_ne_zero : (1 : Point) ≠ 0 := by decide

theorem point_three_ne_zero : point 3 ≠ 0 := by decide

theorem point_seven_ne_zero : point 7 ≠ 0 := by decide

/-! ## Bytes and texts -/

/-- A small number as 32 bytes. -/
def bytes32 (value : Nat) : Bytes 32 :=
  ⟨List.replicate 31 0 ++ [UInt8.ofNat value], by simp⟩

/-- The number in the last byte, if it is a scalar and all others are zero. -/
def scalarOfBytes (bytes : List UInt8) : Option Point :=
  match bytes.reverse with
  | last :: rest => if last.toNat < order ∧ rest.all (· == 0) then some last.toNat else none
  | [] => none

theorem byte_of_point (point : Point) : (UInt8.ofNat point.val).toNat = point.val :=
  UInt8.toNat_ofNat_of_lt' (lt_trans (ZMod.val_lt point) (by decide))

theorem point_of_byte (point : Point) : ((UInt8.ofNat point.val).toNat : Point) = point := by
  rw [byte_of_point, ZMod.natCast_zmod_val]

theorem scalarOfBytes_bytes32 (k : Point) : scalarOfBytes (bytes32 k.val).val = some k := by
  have small : (UInt8.ofNat k.val).toNat < order := (byte_of_point k).trans_lt (ZMod.val_lt k)
  simp only [scalarOfBytes, bytes32, List.reverse_append, List.reverse_singleton,
    List.singleton_append, List.reverse_replicate, small, true_and, point_of_byte]
  rfl

/-- A number below the order that depends on every byte. -/
def digest (bytes : List UInt8) : Nat :=
  bytes.foldl (fun value byte => (31 * value + byte.toNat + 7) % 250) 0 + 1

/-- A secret hashed to a point. -/
def hashToCurve (secret : String) : Point := digest (utf8 secret)

/-- Two digits for a point. -/
def pointToHex (point : Point) : String := Hex.encode [UInt8.ofNat point.val]

def pointFromHex (hex : String) : Except String Point :=
  match Hex.decode hex with
  | some [byte] => if byte.toNat < order then .ok byte.toNat else .error "invalid public key"
  | _ => .error "invalid public key"

theorem pointFromHex_toHex (point : Point) : pointFromHex (pointToHex point) = .ok point := by
  have small : (UInt8.ofNat point.val).toNat < order :=
    (byte_of_point point).trans_lt (ZMod.val_lt point)
  simp only [pointFromHex, pointToHex, Hex.decode_encode, small, if_true, point_of_byte]

/-! ## JSON forms -/

def optionToJson {α : Type} (encode : α → Json) : Option α → Json
  | none => .arr []
  | some value => .arr [encode value]

def optionOfJson {α : Type} (decode : Json → Option α) : Json → Option (Option α)
  | .arr [] => some none
  | .arr [value] => (decode value).map some
  | _ => none

theorem optionOfJson_toJson {α : Type} {encode : α → Json} {decode : Json → Option α}
    (inverse : ∀ value, decode (encode value) = some value) (value : Option α) :
    optionOfJson decode (optionToJson encode value) = some value := by
  cases value <;> simp [optionToJson, optionOfJson, inverse]

def listOfJson {α : Type} (decode : Json → Option α) : Json → Option (List α)
  | .arr items => items.mapM decode
  | _ => none

theorem listOfJson_map {α : Type} {encode : α → Json} {decode : Json → Option α}
    (inverse : ∀ value, decode (encode value) = some value) (values : List α) :
    listOfJson decode (.arr (values.map encode)) = some values := by
  simp only [listOfJson]
  induction values with
  | nil => rfl
  | cons value values ih => simp [inverse, ih]

def pointToJson (point : Point) : Json := .num point.val

def pointOfJson : Json → Option Point
  | .num value => some value
  | _ => none

theorem pointOfJson_toJson (point : Point) : pointOfJson (pointToJson point) = some point := by
  simp [pointToJson, pointOfJson]

def secretKeyOfJson (json : Json) : Option carriers.SecretKey := do
  let k ← pointOfJson json
  if nonzero : k ≠ 0 then some ⟨k, nonzero⟩ else none

theorem secretKeyOfJson_toJson (k : carriers.SecretKey) :
    secretKeyOfJson (pointToJson k.val) = some k := by
  simp [secretKeyOfJson, pointOfJson_toJson, k.property]

def strOfJson : Json → Option String
  | .str value => some value
  | _ => none

def witnessToJson : Witness → Json
  | .p2pk signatures => .arr (signatures.map .str)
  | .htlc preimage signatures =>
      .obj [(preimage, optionToJson (fun list => .arr (list.map .str)) signatures)]

def witnessOfJson : Json → Option Witness
  | .arr signatures => (listOfJson strOfJson (.arr signatures)).map .p2pk
  | .obj [(preimage, signatures)] =>
      (optionOfJson (listOfJson strOfJson) signatures).map (.htlc preimage)
  | _ => none

theorem witnessOfJson_toJson (witness : Witness) :
    witnessOfJson (witnessToJson witness) = some witness := by
  have strs : ∀ list : List String, listOfJson strOfJson (.arr (list.map .str)) = some list :=
    listOfJson_map fun _ => rfl
  cases witness with
  | p2pk signatures => simp only [witnessToJson, witnessOfJson, strs, Option.map_some]
  | htlc preimage signatures =>
      simp only [witnessToJson, witnessOfJson, optionOfJson_toJson strs, Option.map_some]

def dleqToJson (dleq : ProofDleq carriers) : Json :=
  .arr [pointToJson dleq.e.val, pointToJson dleq.s.val, pointToJson dleq.r.val]

def dleqOfJson : Json → Option (ProofDleq carriers)
  | .arr [e, s, r] => do
      return ⟨← secretKeyOfJson e, ← secretKeyOfJson s, ← secretKeyOfJson r⟩
  | _ => none

theorem dleqOfJson_toJson (dleq : ProofDleq carriers) :
    dleqOfJson (dleqToJson dleq) = some dleq := by
  simp [dleqToJson, dleqOfJson, secretKeyOfJson_toJson]

def proofToJson (proof : Proof carriers) : Json :=
  .arr [.num proof.amount, .str proof.keysetId, .str proof.secret, pointToJson proof.c,
    optionToJson witnessToJson proof.witness, optionToJson dleqToJson proof.dleq,
    optionToJson pointToJson proof.p2pkE]

def proofOfJson : Json → Option (Proof carriers)
  | .arr [.num amount, .str keysetId, .str secret, c, witness, dleq, p2pkE] => do
      return ⟨amount, keysetId, secret, ← pointOfJson c, ← optionOfJson witnessOfJson witness,
        ← optionOfJson dleqOfJson dleq, ← optionOfJson pointOfJson p2pkE⟩
  | _ => none

theorem proofOfJson_toJson (proof : Proof carriers) :
    proofOfJson (proofToJson proof) = some proof := by
  simp [proofToJson, proofOfJson, pointOfJson_toJson, optionOfJson_toJson witnessOfJson_toJson,
    optionOfJson_toJson dleqOfJson_toJson, optionOfJson_toJson pointOfJson_toJson]

def messageToJson (message : BlindedMessage carriers) : Json :=
  .arr [.num message.amount, .str message.keysetId, pointToJson message.blindedSecret]

def messageOfJson : Json → Option (BlindedMessage carriers)
  | .arr [.num amount, .str keysetId, blindedSecret] => do
      return ⟨amount, keysetId, ← pointOfJson blindedSecret⟩
  | _ => none

theorem messageOfJson_toJson (message : BlindedMessage carriers) :
    messageOfJson (messageToJson message) = some message := by
  simp [messageToJson, messageOfJson, pointOfJson_toJson]

def requestToJson (request : SwapRequest carriers) : Json :=
  .arr [.arr (request.inputs.map proofToJson), .arr (request.outputs.map messageToJson),
    .bool request.rerandomized]

def requestOfJson : Json → Option (SwapRequest carriers)
  | .arr [inputs, outputs, .bool rerandomized] => do
      return ⟨← listOfJson proofOfJson inputs, ← listOfJson messageOfJson outputs, rerandomized⟩
  | _ => none

theorem requestOfJson_toJson (request : SwapRequest carriers) :
    requestOfJson (requestToJson request) = some request := by
  simp [requestToJson, requestOfJson, listOfJson_map proofOfJson_toJson,
    listOfJson_map messageOfJson_toJson]

def signatureToJson (signature : BlindSignature carriers) : Json :=
  .arr [.num signature.amount, .str signature.keysetId, pointToJson signature.c,
    optionToJson (fun dleq => .arr [pointToJson dleq.e.val, pointToJson dleq.s.val])
      signature.dleq]

def blindDleqOfJson : Json → Option (BlindSignatureDleq carriers)
  | .arr [e, s] => do return ⟨← secretKeyOfJson e, ← secretKeyOfJson s⟩
  | _ => none

def signatureOfJson : Json → Option (BlindSignature carriers)
  | .arr [.num amount, .str keysetId, c, dleq] => do
      return ⟨amount, keysetId, ← pointOfJson c, ← optionOfJson blindDleqOfJson dleq⟩
  | _ => none

def responseToJson (response : SwapResponse carriers) : Json :=
  .arr [.arr (response.signatures.map signatureToJson),
    optionToJson (fun r => .str (Hex.encode r.val)) response.rerandomizationR]

def randomnessOfJson : Json → Option (Bytes 32)
  | .str hex => (Hex.decode hex).bind (Bytes.ofList? 32)
  | _ => none

def responseOfJson : Json → Option (SwapResponse carriers)
  | .arr [signatures, r] => do
      return ⟨← listOfJson signatureOfJson signatures, ← optionOfJson randomnessOfJson r⟩
  | _ => none

theorem signatureOfJson_toJson (signature : BlindSignature carriers) :
    signatureOfJson (signatureToJson signature) = some signature := by
  have dleqs : ∀ dleq : BlindSignatureDleq carriers, blindDleqOfJson
      (.arr [pointToJson dleq.e.val, pointToJson dleq.s.val]) = some dleq := fun dleq => by
    simp [blindDleqOfJson, secretKeyOfJson_toJson]
  simp [signatureToJson, signatureOfJson, pointOfJson_toJson, optionOfJson_toJson dleqs]

theorem responseOfJson_toJson (response : SwapResponse carriers) :
    responseOfJson (responseToJson response) = some response := by
  have randomness : ∀ r : Bytes 32, randomnessOfJson (.str (Hex.encode r.val)) = some r :=
    fun r => by
      simp only [randomnessOfJson, Hex.decode_encode, Option.bind_some]
      exact Bytes.ofList?_eq_some.mpr rfl
  simp [responseToJson, responseOfJson, listOfJson_map signatureOfJson_toJson,
    optionOfJson_toJson randomness]

def restoreToJson (response : RestoreResponse carriers) : Json :=
  .arr [.arr (response.outputs.map messageToJson), .arr (response.signatures.map signatureToJson)]

def restoreOfJson : Json → Option (RestoreResponse carriers)
  | .arr [outputs, signatures] => do
      return ⟨← listOfJson messageOfJson outputs, ← listOfJson signatureOfJson signatures⟩
  | _ => none

theorem restoreOfJson_toJson (response : RestoreResponse carriers) :
    restoreOfJson (restoreToJson response) = some response := by
  simp [restoreToJson, restoreOfJson, listOfJson_map messageOfJson_toJson,
    listOfJson_map signatureOfJson_toJson]

/-! ## The library -/

/-- The part of a text at a position. -/
def textAt (text : String) (start length : Nat) : String :=
  String.ofList ((text.toList.drop start).take length)

theorem textAt_append {opening field second third closing : String} {start length : Nat}
    (isStart : opening.toList.length = start) (isLength : field.toList.length = length) :
    textAt (opening ++ field ++ second ++ third ++ closing) start length = field := by
  simp only [textAt, String.toList_append, List.append_assoc]
  rw [List.drop_left' isStart, List.take_left' isLength, String.ofList_toList]

/-- The text of a P2PK secret, read by position. -/
def readP2pk (secret : String) : Json :=
  .arr [.str "P2PK", .obj [("data", .str (textAt secret 17 2)),
    ("nonce", .str (textAt secret 30 64)), ("tags", .arr [])]]

/-- Unblind one signature. -/
def unblind (signature : BlindSignature carriers) (r : carriers.SecretKey) (secret : String)
    (keys : Keys carriers) : Except String (Proof carriers) :=
  match keys.amountKey signature.amount with
  | none => .error "amount key"
  | some key => .ok {
      amount := signature.amount
      keysetId := signature.keysetId
      secret
      c := signature.c - r.val * key
      witness := none
      dleq := signature.dleq.map fun dleq => ⟨dleq.e, dleq.s, r⟩
      p2pkE := none }

/-- Unblind signatures one by one. -/
def constructProofs : List (BlindSignature carriers) → List carriers.SecretKey → List String →
    Keys carriers → Except String (List (Proof carriers))
  | [], [], [], _ => .ok []
  | signature :: signatures, r :: rs, secret :: secrets, keys =>
      match unblind signature r secret keys with
      | .error error => .error error
      | .ok proof =>
          match constructProofs signatures rs secrets keys with
          | .error error => .error error
          | .ok proofs => .ok (proof :: proofs)
  | _, _, _, _ => .error "lengths"

/-- A nonzero scalar as a secret key. -/
def nonzeroKey (k : Point) : Except String carriers.SecretKey :=
  if nonzero : k ≠ 0 then .ok ⟨k, nonzero⟩ else .error "zero key"

/-- A point in one byte. -/
def pointByte (point : Point) : UInt8 := UInt8.ofNat point.val

/-- Bytes that both parties sign: what goes in and what comes out, without
witnesses and keyset identifiers. -/
def sigAllBytes (request : SwapRequest carriers) : List UInt8 :=
  request.inputs.flatMap (fun input => utf8 input.secret ++ [pointByte input.c]) ++
  request.outputs.flatMap
    (fun output => [UInt8.ofNat output.amount, pointByte output.blindedSecret]) ++
  [if request.rerandomized then 1 else 0]

/-- The operations. -/
def library : Cashu carriers where
  parse := .ok
  render := id
  jsonString := fun _ => "json"
  parseSecret := fun secret => .ok (readP2pk secret)
  shapeError := fun _ => "invalid value"
  hexError := fun _ => "invalid hexadecimal"
  publicKeyFromHex := pointFromHex
  publicKeyToHex := pointToHex
  publicKeyToBytes := fun point => [pointByte point]
  hasOddY := fun (point : Point) => 125 < point.val
  negate := fun point => -point
  addExpTweak := fun point t => if point + t ≠ 0 then .ok (point + t) else .error "infinity"
  mulTweak := fun point k => .ok (point * k.val)
  xOnly := fun (point : Point) => bytes32 (min point.val (-point).val)
  publicKey := fun k => k.val
  secretKeyFromSlice := fun bytes =>
    match scalarOfBytes bytes with
    | some k => nonzeroKey k
    | none => .error "invalid secret key"
  secretBytes := fun k => bytes32 k.val.val
  addTweak := fun k t => nonzeroKey (k.val + t)
  scalarFromBeBytes := fun bytes => scalarOfBytes bytes.val
  scalarToBeBytes := fun (t : Point) => bytes32 t.val
  zero := 0
  sha256 := fun message => bytes32 (digest message)
  hmacSha256 := fun key message => bytes32 (digest (key ++ message))
  signatureError := fun _ => "malformed signature"
  verifySchnorr := fun signature message key => signature.val = message.val ++ key.val
  idFromStr := .ok
  idToString := id
  idToBytes := utf8
  getVersion := fun _ => .version00
  v1FromKeys := fun keys => String.join (keys.entries.map fun entry =>
    toString entry.1 ++ ":" ++ pointToHex entry.2 ++ ",")
  v2FromData := fun _ unit _ _ => unit
  unitFromStr := .ok
  unitToString := id
  hashToCurve := fun secret => .ok (hashToCurve secret)
  blindMessage := fun secret r => .ok (hashToCurve secret + r.val)
  constructProofs := constructProofs
  verifyBlindDleq := fun signature key point =>
    if signature.dleq.isSome ∧ signature.c = key * point then .ok () else .error "invalid DLEQ"
  verifyDleq := fun proof key =>
    if proof.dleq.isSome ∧ proof.c = key * hashToCurve proof.secret then .ok ()
    else .error "invalid DLEQ"
  deriveRerandomizationTweak := fun r => .ok (digest r.val)
  tweakSwapOutputs := fun r outputs => .ok (outputs.map fun output =>
    { output with blindedSecret := output.blindedSecret + digest r.val })
  sigAllMessageHash := fun request => bytes32 (digest (sigAllBytes request))
  sigAllMsgToSign := sigAllBytes
  proofsToJson := fun proofs => .arr (proofs.map proofToJson)
  proofsOfJson := fun json =>
    match listOfJson proofOfJson json with
    | some proofs => .ok proofs
    | none => .error "invalid proofs"
  swapRequestToJson := requestToJson
  swapRequestOfJson := fun json =>
    match requestOfJson json with
    | some request => .ok request
    | none => .error "invalid request"
  swapResponseToJson := responseToJson
  swapResponseOfJson := fun json =>
    match responseOfJson json with
    | some response => .ok response
    | none => .error "invalid response"
  restoreResponseToJson := restoreToJson
  restoreResponseOfJson := fun json =>
    match restoreOfJson json with
    | some response => .ok response
    | none => .error "invalid restore response"

theorem restoreTrips : library.RestoreTrips where
  swapResponseOfJson_toJson := fun response => by simp [library, responseOfJson_toJson]
  restoreResponseOfJson_toJson := fun response => by simp [library, restoreOfJson_toJson]

/-- The library reads back what it writes. -/
theorem roundTrips : library.RoundTrips where
  parse_render := fun _ => rfl
  publicKeyFromHex_toHex := pointFromHex_toHex
  secretKeyFromSlice_bytes := fun k => by
    simp only [library, scalarOfBytes_bytes32, nonzeroKey, dif_pos k.property]
  scalarFromBeBytes_toBeBytes := scalarOfBytes_bytes32
  idFromStr_toString := fun _ => rfl
  unitFromStr_toString := fun _ => rfl
  proofsOfJson_toJson := fun proofs => by
    simp only [library, listOfJson_map proofOfJson_toJson]
  swapRequestOfJson_toJson := fun request => by
    simp only [library, requestOfJson_toJson]

end Spilman.Sample
