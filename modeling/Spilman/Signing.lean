/-
# Secret keys of the parties

What both parties do with their own secret keys: agree on the secret of a channel
and sign with a key that is shifted by a scalar of the channel. Public keys are
shifted without the secret (`deriveBlindedPubkey`), after a key whose vertical
coordinate is odd was negated. A signature made with the shifted secret verifies
under the shifted public key only if the secret was negated in the same cases.
-/

import Spilman.Sample
import Spilman.Host

namespace Spilman

open Lib

variable {T : Carriers}

/-- Operations of the curve library that need a secret key. -/
structure KeyOps (T : Carriers) where
  /-- `SecretKey::negate`. -/
  negateSecret : T.SecretKey → T.SecretKey
  /-- A BIP-340 signature on a digest. -/
  signSchnorr : T.SecretKey → Bytes 32 → Bytes 64
  /-- `SharedSecret::new`. -/
  sharedSecret : T.SecretKey → T.PublicKey → Bytes 32
  /-- HKDF-SHA256 without salt: key material and info. -/
  hkdf : List UInt8 → List UInt8 → Bytes 32
  /-- The text of a scalar that is out of range. -/
  scalarError : String

/-- How secret keys are related to their public keys. -/
structure KeyOps.Laws (K : KeyOps T) (L : Cashu T) : Prop where
  negates : ∀ k, L.publicKey (K.negateSecret k) = L.negate (L.publicKey k)
  /-- Shifting the secret and shifting the point come to the same. -/
  shifts : ∀ k t point, L.addExpTweak (L.publicKey k) t = .ok point ↔
    ∃ k', L.addTweak k t = .ok k' ∧ L.publicKey k' = point
  /-- Signatures verify. -/
  signs : ∀ k digest,
    L.verifySchnorr (K.signSchnorr k digest) digest (L.xOnly (L.publicKey k)) = true
  /-- Key agreement is symmetric. -/
  agrees : ∀ k k', K.sharedSecret k (L.publicKey k') = K.sharedSecret k' (L.publicKey k)

/-- A signature is good for no digest but the one it was made for. -/
def KeyOps.Unforgeable (K : KeyOps T) (L : Cashu T) : Prop :=
  ∀ k digest digest',
    L.verifySchnorr (K.signSchnorr k digest) digest' (L.xOnly (L.publicKey k)) = true →
    digest' = digest

variable (L : Cashu T) (K : KeyOps T)

/-! ## The code -/

/-- A secret key in hexadecimal. -/
def secretToHex (secret : T.SecretKey) : String := Hex.encode (L.secretBytes secret).val

/-- `SecretKey::from_hex`. -/
def secretKeyFromHex (hex : String) : Except String T.SecretKey :=
  match Hex.decode hex with
  | none => .error (L.hexError hex)
  | some bytes => L.secretKeyFromSlice bytes

/-- The secret two parties share, by the secret key of one and the public key of the
other. -/
def computeChannelSecret (mySecret : T.SecretKey) (theirPubkey : T.PublicKey) : Bytes 32 :=
  K.hkdf (K.sharedSecret mySecret theirPubkey).val (utf8 "Cashu_Spilman_channel_secret_v1")

/-- The same in hexadecimal. -/
def computeChannelSecretFromHex (mySecretHex theirPubkeyHex : String) : Except String String := do
  let mySecret ← (secretKeyFromHex L mySecretHex).mapError fun e => s!"Invalid secret key: {e}"
  let theirPubkey ← (L.publicKeyFromHex theirPubkeyHex).mapError fun e => s!"Invalid pubkey: {e}"
  return Hex.encode (computeChannelSecret K mySecret theirPubkey).val

/-- 32 bytes of hexadecimal. -/
def decode32 (hexError lengthError text : String) : Except String (Bytes 32) :=
  match Hex.decode text with
  | none => .error (s!"{hexError}: " ++ L.hexError text)
  | some bytes =>
      match Bytes.ofList? 32 bytes with
      | none => .error (s!"{lengthError} must be 32 bytes, got " ++ toString bytes.length)
      | some array => .ok array

/-- The secret key whose public key is the point that signs: negated if the point of the
key has an odd vertical coordinate. -/
def effectiveSecret (secret : T.SecretKey) : T.SecretKey :=
  if L.hasOddY (L.publicKey secret) then K.negateSecret secret else secret

/-- Sign a digest with a key shifted by a scalar. All three arguments are in
hexadecimal, and so is the signature. -/
def signWithTweakedKeyUtil (secretKeyHex messageHex tweakScalarHex : String) :
    Except String String := do
  let secret ← (secretKeyFromHex L secretKeyHex).mapError fun e => s!"Invalid secret key: {e}"
  let tweakArr ← decode32 L "Invalid tweak hex" "Tweak" tweakScalarHex
  let tweak ←
    match L.scalarFromBeBytes tweakArr with
    | none => .error ("Invalid tweak scalar: " ++ K.scalarError)
    | some tweak => .ok tweak
  let msg ← decode32 L "Invalid message hex" "Message hash" messageHex
  let tweaked ← (L.addTweak (effectiveSecret L K secret) tweak).mapError fun e =>
    s!"Failed to add tweak: {e}"
  return signatureToString (K.signSchnorr tweaked msg)

/-! ## Both parties come to the same -/

section Specifications

variable {L K}

theorem decode32_eq_ok_iff {hexError lengthError text : String} {bytes : Bytes 32} :
    decode32 L hexError lengthError text = .ok bytes ↔ Hex.decode text = some bytes.val := by
  unfold decode32
  cases decoded : Hex.decode text with
  | none => simp
  | some list =>
      rw [Option.some.injEq, @eq_comm _ list, ← Bytes.ofList?_eq_some]
      dsimp only
      cases Bytes.ofList? 32 list with
      | none => simp
      | some array => simp

theorem decode32_encode {hexError lengthError : String} (bytes : Bytes 32) :
    decode32 L hexError lengthError (Hex.encode bytes.val) = .ok bytes :=
  decode32_eq_ok_iff.mpr (Hex.decode_encode _)

theorem secretKeyFromHex_toHex (trips : L.RoundTrips) (secret : T.SecretKey) :
    secretKeyFromHex L (secretToHex L secret) = .ok secret := by
  simp only [secretKeyFromHex, secretToHex, Hex.decode_encode, trips.secretKeyFromSlice_bytes]

/-- Both parties compute the same channel secret. -/
theorem computeChannelSecret_comm (laws : K.Laws L) (k k' : T.SecretKey) :
    computeChannelSecret K k (L.publicKey k') = computeChannelSecret K k' (L.publicKey k) := by
  rw [computeChannelSecret, laws.agrees, computeChannelSecret]

/-- A public key can be shifted exactly when its secret can, and to the same key. -/
theorem deriveBlindedPubkey_publicKey_iff (laws : K.Laws L) {secret : T.SecretKey} {t : T.Scalar}
    {key : T.PublicKey} :
    deriveBlindedPubkey L (L.publicKey secret) t = .ok key ↔
      ∃ tweaked, L.addTweak (effectiveSecret L K secret) t = .ok tweaked ∧
        L.publicKey tweaked = key := by
  have effective : (if L.hasOddY (L.publicKey secret) then L.negate (L.publicKey secret)
      else L.publicKey secret) = L.publicKey (effectiveSecret L K secret) := by
    unfold effectiveSecret
    split_ifs
    · rw [laws.negates]
    · rfl
  rw [← laws.shifts, ← effective]
  simp only [deriveBlindedPubkey, Outcome.mapErr_eq_ok, Outcome.ofExcept_eq_ok]

/-- What is signed, for well-formed arguments. -/
theorem signWithTweakedKeyUtil_eq_ok_iff (trips : L.RoundTrips) {secret : T.SecretKey}
    {digest : Bytes 32} {t : T.Scalar} {text : String} :
    signWithTweakedKeyUtil L K (secretToHex L secret) (Hex.encode digest.val)
        (Hex.encode (L.scalarToBeBytes t).val) = .ok text ↔
      ∃ tweaked, L.addTweak (effectiveSecret L K secret) t = .ok tweaked ∧
        text = signatureToString (K.signSchnorr tweaked digest) := by
  simp only [signWithTweakedKeyUtil, secretKeyFromHex_toHex trips, decode32_encode,
    trips.scalarFromBeBytes_toBeBytes, Except.mapError, bind, Except.bind, pure, Except.pure]
  cases L.addTweak (effectiveSecret L K secret) t with
  | error e => simp
  | ok tweaked => simp [eq_comm]

theorem signatureFromStr_toString (signature : Bytes 64) :
    signatureFromStr L (signatureToString signature) = .ok signature :=
  signatureFromStr_eq_ok_iff.mpr (Hex.decode_encode _)

end Specifications

/-! ## Keys over the small ecash library -/

namespace Sample

/-- A signature shows the key and the digest. -/
def keyOps : KeyOps carriers where
  negateSecret := fun k => ⟨-k.val, neg_ne_zero.mpr k.property⟩
  signSchnorr := fun k digest => ⟨digest.val ++ (library.xOnly (library.publicKey k)).val, by
    rw [List.length_append, digest.property, (library.xOnly _).property]⟩
  sharedSecret := fun k point => bytes32 (k.val * point).val
  hkdf := fun material _ => bytes32 (digest material)
  scalarError := "scalar out of range"

theorem keyOps_laws : keyOps.Laws library where
  negates := fun _ => rfl
  shifts := by
    intro k t point
    simp only [library, nonzeroKey]
    split_ifs with nonzero
    · constructor
      · intro made
        exact ⟨_, rfl, Except.ok.inj made⟩
      · rintro ⟨key, made, rfl⟩
        obtain rfl := Except.ok.inj made
        rfl
    · simp
  signs := fun _ _ => decide_eq_true rfl
  agrees := by
    intro k k'
    show bytes32 (k.val * k'.val).val = bytes32 (k'.val * k.val).val
    rw [mul_comm]

theorem keyOps_unforgeable : keyOps.Unforgeable library := by
  intro k digest digest' verified
  have same : digest.val ++ (library.xOnly (library.publicKey k)).val =
      digest'.val ++ (library.xOnly (library.publicKey k)).val := of_decide_eq_true verified
  exact Subtype.ext (List.append_cancel_right same).symm

end Sample

end Spilman
