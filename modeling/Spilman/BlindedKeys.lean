/-
# Blinded secret and public keys

A party blinds its secret key, everyone else its public key, and its signer once
more its secret key; each of the three negates first by the parity of the public
key. Over any group of prime order in which negation flips the parity, the three
come to the same key. The scalar of a stage-2 output is hashed from a shared
point, which either side can compute.
-/

import Mathlib.Tactic.NormNum.Prime
import Spilman.Lib.OddEvenGroup
import Spilman.Refund

namespace Spilman

open Lib

variable {T : Carriers} (L : Cashu T) (K : KeyOps T)

/-- The scalar of a stage-2 output, by the secret key of its role and the ephemeral
public key that is attached to the proof. -/
def stage2TweakOfSecret (secret : T.SecretKey) (ephemeralPubkey : T.PublicKey) :
    Outcome String T.Scalar := do
  let sharedX ← ChannelParameters.deriveNut28SharedSecretX L ephemeralPubkey secret
  ChannelParameters.deriveNut28P2kbSharedSecretScalar L sharedX 0x00

/-- The curve library computes in a group: public keys are read as its elements, secret keys
and tweaks as scalars. Shifting a key fails for the zero of the group and only there. -/
structure CurveReading {G : Type} [AddCommGroup G] (C : OddEvenGroup G) where
  secret : T.SecretKey → ZMod C.order
  secret_ne_zero : ∀ k, secret k ≠ 0
  scalar : T.Scalar → ZMod C.order
  point : T.PublicKey → G
  point_injective : Function.Injective point
  publicKey : ∀ k, point (L.publicKey k) = C.base (secret k)
  hasOddY : ∀ key, L.hasOddY key = C.odd (point key)
  negate : ∀ key, point (L.negate key) = -point key
  negateSecret : ∀ k, secret (K.negateSecret k) = -secret k
  addTweak_ok : ∀ k t, secret k + scalar t ≠ 0 →
    ∃ k', L.addTweak k t = .ok k' ∧ secret k' = secret k + scalar t
  addTweak_error : ∀ k t, secret k + scalar t = 0 → ∃ error, L.addTweak k t = .error error
  addExpTweak_ok : ∀ key t, point key + C.base (scalar t) ≠ 0 →
    ∃ key', L.addExpTweak key t = .ok key' ∧ point key' = point key + C.base (scalar t)
  addExpTweak_error : ∀ key t, point key + C.base (scalar t) = 0 →
    ∃ error, L.addExpTweak key t = .error error
  mulTweak : ∀ key k, point key ≠ 0 →
    ∃ shared, L.mulTweak key k = .ok shared ∧ point shared = C.times (secret k) (point key)

variable {L K} {G : Type} [AddCommGroup G] {C : OddEvenGroup G}

namespace CurveReading

variable (R : CurveReading L K C)

theorem secret_effectiveSecret (k : T.SecretKey) :
    R.secret (effectiveSecret L K k) = C.evenScalar (R.secret k) := by
  unfold effectiveSecret OddEvenGroup.evenScalar
  rw [R.hasOddY, R.publicKey]
  split_ifs
  · exact R.negateSecret k
  · rfl

theorem point_effective (key : T.PublicKey) :
    R.point (if L.hasOddY key then L.negate key else key) = C.even (R.point key) := by
  unfold OddEvenGroup.even
  rw [R.hasOddY]
  split_ifs
  · exact R.negate key
  · rfl

/-- Both keys are blinded unless the sum is zero. -/
theorem blinded_of_ne_zero {s : T.SecretKey} {r : T.Scalar}
    (nonzero : C.evenScalar (R.secret s) + R.scalar r ≠ 0) :
    ∃ blinded, deriveBlindedSecretKey L K s r = .ok blinded ∧
      deriveBlindedPubkey L (L.publicKey s) r = .ok (L.publicKey blinded) := by
  obtain ⟨blinded, shifted, value⟩ := R.addTweak_ok (effectiveSecret L K s) r
    (by rwa [R.secret_effectiveSecret])
  obtain ⟨key, shiftedKey, point⟩ := R.addExpTweak_ok
    (if L.hasOddY (L.publicKey s) then L.negate (L.publicKey s) else L.publicKey s) r
    (by rwa [R.point_effective, R.publicKey, ne_eq, OddEvenGroup.even_add_base_eq_zero])
  have same : key = L.publicKey blinded := R.point_injective <| by
    rw [point, R.point_effective, R.publicKey, R.publicKey, value, R.secret_effectiveSecret,
      ← OddEvenGroup.base_evenScalar]
    exact (OddEvenGroup.times_add _ _ _).symm
  refine ⟨blinded, ?_, ?_⟩
  · rw [deriveBlindedSecretKey, shifted]
    rfl
  · rw [deriveBlindedPubkey, shiftedKey, ← same]
    rfl

/-- Neither key is blinded if the sum is zero. -/
theorem not_blinded_of_zero {s : T.SecretKey} {r : T.Scalar}
    (zero : C.evenScalar (R.secret s) + R.scalar r = 0) :
    (∃ error, deriveBlindedSecretKey L K s r = .err error) ∧
      ∃ error, deriveBlindedPubkey L (L.publicKey s) r = .err error := by
  obtain ⟨error, failed⟩ := R.addTweak_error (effectiveSecret L K s) r
    (by rwa [R.secret_effectiveSecret])
  obtain ⟨error', failed'⟩ := R.addExpTweak_error
    (if L.hasOddY (L.publicKey s) then L.negate (L.publicKey s) else L.publicKey s) r
    (by rwa [R.point_effective, R.publicKey, OddEvenGroup.even_add_base_eq_zero])
  constructor
  · exact ⟨_, by rw [deriveBlindedSecretKey, failed]; rfl⟩
  · exact ⟨_, by rw [deriveBlindedPubkey, failed']; rfl⟩

include R in
/-- The shared point is the same from either side. -/
theorem deriveNut28SharedSecretX_comm (s e : T.SecretKey) :
    ChannelParameters.deriveNut28SharedSecretX L (L.publicKey s) e =
      ChannelParameters.deriveNut28SharedSecretX L (L.publicKey e) s := by
  have ne_zero (k : T.SecretKey) : R.point (L.publicKey k) ≠ 0 := by
    rw [R.publicKey, ne_eq, OddEvenGroup.base_eq_zero]
    exact R.secret_ne_zero k
  obtain ⟨shared, made, point⟩ := R.mulTweak (L.publicKey s) e (ne_zero s)
  obtain ⟨shared', made', point'⟩ := R.mulTweak (L.publicKey e) s (ne_zero e)
  have same : shared = shared' := R.point_injective <| by
    rw [point, point', R.publicKey, R.publicKey]
    exact OddEvenGroup.times_comm _ _ _
  rw [ChannelParameters.deriveNut28SharedSecretX, ChannelParameters.deriveNut28SharedSecretX,
    made, made', same]

include R in
/-- The key material of an output has the scalar its role computes. -/
theorem stage2TweakInfoForRole_eq {params : ChannelParameters T} {role : Stage2Role}
    {s ephemeral : T.SecretKey} {amount index : Nat} (own : role.pubkey params = L.publicKey s)
    (derived : params.deriveStage2P2bkEphemeralSecretForOutput L role.stage2Context amount index =
      .ok ephemeral) :
    (do let info ← params.stage2TweakInfoForRole L role amount index
        return (info.ephemeralPubkey, info.stage2TweakScalar)) =
      (do let scalar ← stage2TweakOfSecret L s (L.publicKey ephemeral)
          return (L.publicKey ephemeral, scalar)) := by
  simp only [ChannelParameters.stage2TweakInfoForRole, stage2TweakOfSecret, derived, own,
    R.deriveNut28SharedSecretX_comm s ephemeral, Outcome.ok_bind, Outcome.pure_eq]
  cases ChannelParameters.deriveNut28SharedSecretX L (L.publicKey ephemeral) s with
  | ok sharedX =>
      rw [Outcome.ok_bind, Outcome.ok_bind]
      cases ChannelParameters.deriveNut28P2kbSharedSecretScalar L sharedX 0 <;> rfl
  | err _ => rfl
  | noReturn => rfl

end CurveReading

/-- What is signed, for texts that stand for a key, a digest and a scalar. -/
theorem signWithTweakedKeyUtil_of_read {secretHex messageHex tweakHex text : String}
    {s : T.SecretKey} {r : T.Scalar} {digest tweak : Bytes 32}
    (readSecret : secretKeyFromHex L secretHex = .ok s)
    (readMessage : Hex.decode messageHex = some digest.val)
    (readTweak : Hex.decode tweakHex = some tweak.val)
    (readScalar : L.scalarFromBeBytes tweak = some r) :
    signWithTweakedKeyUtil L K secretHex messageHex tweakHex = .ok text ↔
      ∃ blinded, deriveBlindedSecretKey L K s r = .ok blinded ∧
        text = signatureToString (K.signSchnorr blinded digest) := by
  have message : decode32 L "Invalid message hex" "Message hash" messageHex = .ok digest :=
    decode32_eq_ok_iff.mpr readMessage
  have scalar : decode32 L "Invalid tweak hex" "Tweak" tweakHex = .ok tweak :=
    decode32_eq_ok_iff.mpr readTweak
  simp only [signWithTweakedKeyUtil, deriveBlindedSecretKey, readSecret, message, scalar,
    readScalar, Except.mapError, bind, Except.bind, pure, Except.pure]
  cases L.addTweak (effectiveSecret L K s) r with
  | error e => simp [Outcome.mapErr_eq_ok]
  | ok tweaked => simp [eq_comm]

/-- **Blinded secret and public keys match.** For every secret key and tweak, both
derivations fail if the sum is zero and otherwise give a key and its public key; the signer
signs with that key, for all texts of its arguments; and for every output of a role with
this key, the scalar of its key material is the one the role computes from its secret key
and the ephemeral public key. -/
theorem blindedKeys_match (R : CurveReading L K C) (s : T.SecretKey) (r : T.Scalar) :
    (C.evenScalar (R.secret s) + R.scalar r = 0 →
      (∃ error, deriveBlindedSecretKey L K s r = .err error) ∧
        ∃ error, deriveBlindedPubkey L (L.publicKey s) r = .err error) ∧
    (C.evenScalar (R.secret s) + R.scalar r ≠ 0 →
      ∃ blinded, deriveBlindedSecretKey L K s r = .ok blinded ∧
        deriveBlindedPubkey L (L.publicKey s) r = .ok (L.publicKey blinded)) ∧
    (∀ (secretHex messageHex tweakHex text : String) (digest tweak : Bytes 32),
      secretKeyFromHex L secretHex = .ok s → Hex.decode messageHex = some digest.val →
      Hex.decode tweakHex = some tweak.val → L.scalarFromBeBytes tweak = some r →
      (signWithTweakedKeyUtil L K secretHex messageHex tweakHex = .ok text ↔
        ∃ blinded, deriveBlindedSecretKey L K s r = .ok blinded ∧
          text = signatureToString (K.signSchnorr blinded digest))) ∧
    ∀ (params : ChannelParameters T) (role : Stage2Role) (amount index : Nat)
      (ephemeral : T.SecretKey), role.pubkey params = L.publicKey s →
      params.deriveStage2P2bkEphemeralSecretForOutput L role.stage2Context amount index =
        .ok ephemeral →
      (do let info ← params.stage2TweakInfoForRole L role amount index
          return (info.ephemeralPubkey, info.stage2TweakScalar)) =
        (do let scalar ← stage2TweakOfSecret L s (L.publicKey ephemeral)
            return (L.publicKey ephemeral, scalar)) :=
  ⟨R.not_blinded_of_zero, R.blinded_of_ne_zero,
    fun _ _ _ _ _ _ => signWithTweakedKeyUtil_of_read,
    fun _ _ _ _ _ => R.stage2TweakInfoForRole_eq⟩

/-! ## Over the small ecash library -/

namespace Sample

theorem prime_order : order.Prime := by norm_num

/-- The integers modulo the order, of which the upper half is odd. -/
def oddEven : OddEvenGroup Point where
  order := order
  prime := prime_order
  card := Nat.card_zmod order
  generator := 1
  generator_ne_zero := one_ne_zero
  odd := library.hasOddY
  odd_neg := by decide +kernel

theorem base_oddEven (s : Point) : oddEven.base s = s := by
  show s.val • (1 : Point) = s
  rw [nsmul_one, ZMod.natCast_zmod_val]

/-- The small library computes in this group. -/
def reading : CurveReading library keyOps oddEven where
  secret := fun k => k.val
  secret_ne_zero := fun k => k.property
  scalar := id
  point := id
  point_injective := Function.injective_id
  publicKey := fun k => (base_oddEven k.val).symm
  hasOddY := fun _ => rfl
  negate := fun _ => rfl
  negateSecret := fun _ => rfl
  addTweak_ok := fun k t nonzero => ⟨⟨k.val + t, nonzero⟩, dif_pos nonzero, rfl⟩
  addTweak_error := fun k t zero => ⟨_, dif_neg (not_not.mpr zero)⟩
  addExpTweak_ok := fun key t nonzero => by
    rw [base_oddEven] at nonzero ⊢
    exact ⟨_, if_pos nonzero, rfl⟩
  addExpTweak_error := fun key t zero => by
    rw [base_oddEven] at zero
    exact ⟨_, if_neg (not_not.mpr zero)⟩
  mulTweak := fun key k _ => ⟨_, rfl, by
    show key * k.val = k.val.val • key
    rw [nsmul_eq_mul, ZMod.natCast_zmod_val, mul_comm]⟩

theorem exists_ephemeral : ∃ params ephemeral, (two "m").params (pairs "sat") = .ok params ∧
    Stage2Role.sender.pubkey params = library.publicKey senderSecret ∧
    params.deriveStage2P2bkEphemeralSecretForOutput library Stage2Role.sender.stage2Context 1 0 =
      .ok ephemeral := by
  have ran : ((two "m").params (pairs "sat")).okAnd (fun params =>
      (params.deriveStage2P2bkEphemeralSecretForOutput library
        Stage2Role.sender.stage2Context 1 0).okAnd fun _ =>
          decide (Stage2Role.sender.pubkey params = library.publicKey senderSecret)) = true := by
    decide +kernel
  obtain ⟨params, made, ran⟩ := Outcome.exists_of_okAnd ran
  obtain ⟨ephemeral, derived, ran⟩ := Outcome.exists_of_okAnd ran
  exact ⟨params, ephemeral, made, of_decide_eq_true ran, derived⟩

end Sample

/-- The key 3 is blinded by 7 and signs, it is not blinded by -3, and it finds the scalar of
an output of its channel. -/
theorem blindedKeys_match_three :
    (∃ blinded, deriveBlindedSecretKey Sample.library Sample.keyOps Sample.senderSecret
        (Sample.point 7) = .ok blinded ∧
      deriveBlindedPubkey Sample.library (Sample.library.publicKey Sample.senderSecret)
        (Sample.point 7) = .ok (Sample.library.publicKey blinded) ∧
      signWithTweakedKeyUtil Sample.library Sample.keyOps
        (secretToHex Sample.library Sample.senderSecret) (Hex.encode (Sample.bytes32 1).val)
        (Hex.encode (Sample.library.scalarToBeBytes (Sample.point 7)).val) =
          .ok (signatureToString (Sample.keyOps.signSchnorr blinded (Sample.bytes32 1)))) ∧
    (∃ error, deriveBlindedSecretKey Sample.library Sample.keyOps Sample.senderSecret
      (-Sample.point 3) = .err error) ∧
    ∃ params ephemeral, (Sample.two "m").params (Sample.pairs "sat") = .ok params ∧
      (do let info ← params.stage2TweakInfoForRole Sample.library .sender 1 0
          return (info.ephemeralPubkey, info.stage2TweakScalar)) =
        (do let scalar ← stage2TweakOfSecret Sample.library Sample.senderSecret
              (Sample.library.publicKey ephemeral)
            return (Sample.library.publicKey ephemeral, scalar)) := by
  obtain ⟨-, blinds, signs, shared⟩ :=
    blindedKeys_match Sample.reading Sample.senderSecret (Sample.point 7)
  obtain ⟨fails, -⟩ := blindedKeys_match Sample.reading Sample.senderSecret (-Sample.point 3)
  obtain ⟨blinded, secret, pubkey⟩ := blinds (by decide +kernel)
  have signed := (signs _ _ _ _ (Sample.bytes32 1) _
    (secretKeyFromHex_toHex Sample.roundTrips Sample.senderSecret) (Hex.decode_encode _)
    (Hex.decode_encode _) (Sample.roundTrips.scalarFromBeBytes_toBeBytes (Sample.point 7))).mpr
    ⟨blinded, secret, rfl⟩
  obtain ⟨params, ephemeral, made, own, derived⟩ := Sample.exists_ephemeral
  exact ⟨⟨blinded, secret, pubkey, signed⟩, (fails (by decide +kernel)).1, params, ephemeral, made,
    shared params .sender 1 0 ephemeral own derived⟩

end Spilman
