/-
# Derived keys

Scalars are hashed out of the channel secret, the channel identifier and a
context, and the parties' keys are shifted by them. A stage-1 key is shared by
all funding proofs; a stage-2 key belongs to one commitment output, by its
amount and its index among outputs of that amount.
-/

import Spilman.Params

namespace Spilman

open Lib

variable {T : Carriers} (L : Cashu T)

/-! ## Scalars -/

/-- A nonzero scalar from hash output. -/
def candidateScalar (candidate : Bytes 32) : Option T.Scalar :=
  (L.scalarFromBeBytes candidate).filter (· ≠ L.zero)

/-- Hash to a nonzero scalar, retrying once with `0xff` appended. -/
def hashToSecpScalar (input : List UInt8) (hash : List UInt8 → Bytes 32) :
    Outcome String T.Scalar :=
  .ofOption "Failed to derive valid secp256k1 scalar after retry"
    (candidateScalar L (hash input) <|> candidateScalar L (hash (input ++ [0xff])))

/-- Shift a key by a scalar, taking the negative of a key with odd vertical
coordinate first. -/
def deriveBlindedPubkey (pubkey : T.PublicKey) (r : T.Scalar) : Outcome String T.PublicKey :=
  let effective := if L.hasOddY pubkey then L.negate pubkey else pubkey
  (Outcome.ofExcept (L.addExpTweak effective r)).mapErr fun e => s!"Failed to blind pubkey: {e}"

/-! ## Stage 1 -/

namespace ChannelParameters

/-- Scalar for a stage-1 context. -/
def deriveBlindingScalar (params : ChannelParameters T) (context : String) :
    Outcome String T.Scalar :=
  let message := utf8 "Cashu_Spilman_stage1_key_tweak_v1" ++
    utf8 (params.getChannelId L ++ "|" ++ context)
  (hashToSecpScalar L message (L.hmacSha256 params.channelSecret.val)).mapErr fun error =>
    s!"Failed to derive stage-1 blinding scalar: {error}"

/-- The sender's key in the two-of-two funding condition. -/
def getSenderBlindedPubkeyForStage1 (params : ChannelParameters T) :
    Outcome String T.PublicKey := do
  let r ← params.deriveBlindingScalar L "sender_stage1"
  deriveBlindedPubkey L params.senderPubkey r

/-- The sender's scalar for signing in stage 1. -/
def deriveSenderBlindingScalarForStage1 (params : ChannelParameters T) :
    Outcome String T.Scalar :=
  params.deriveBlindingScalar L "sender_stage1"

/-- The receiver's scalar for signing in stage 1. -/
def deriveReceiverBlindingScalarForStage1 (params : ChannelParameters T) :
    Outcome String T.Scalar :=
  params.deriveBlindingScalar L "receiver_stage1"

/-- The receiver's key in the two-of-two funding condition. -/
def getReceiverBlindedPubkeyForStage1 (params : ChannelParameters T) :
    Outcome String T.PublicKey := do
  let r ← params.deriveBlindingScalar L "receiver_stage1"
  deriveBlindedPubkey L params.receiverPubkey r

/-- The sender's key in the refund condition, unrelated to the other one. -/
def getSenderBlindedPubkeyForStage1Refund (params : ChannelParameters T) :
    Outcome String T.PublicKey := do
  let r ← params.deriveBlindingScalar L "sender_stage1_refund"
  deriveBlindedPubkey L params.senderPubkey r

end ChannelParameters

/-! ## Stage 2 -/

/-- Whose commitment output it is. -/
inductive Stage2Role
  | sender
  | receiver
  deriving DecidableEq, Repr

/-- The context of a role's stage-2 keys. -/
def Stage2Role.stage2Context : Stage2Role → String
  | .sender => "sender_stage2"
  | .receiver => "receiver_stage2"

/-- The key of the party in a role. -/
def Stage2Role.pubkey (role : Stage2Role) (params : ChannelParameters T) : T.PublicKey :=
  match role with
  | .sender => params.senderPubkey
  | .receiver => params.receiverPubkey

/-- Key material of one commitment output. -/
structure Stage2P2bkTweakInfo (T : Carriers) where
  ephemeralSecret : T.SecretKey
  ephemeralPubkey : T.PublicKey
  ephemeralSharedSecretX : Bytes 32
  stage2TweakScalar : T.Scalar

namespace ChannelParameters

/-- Ephemeral secret of one commitment output. -/
def deriveStage2P2bkEphemeralSecretForOutput (params : ChannelParameters T) (context : String)
    (amount index : Nat) : Outcome String T.SecretKey := do
  let message := utf8 "Cashu_Spilman_P2BK_ephemeral_v1" ++
    utf8 (params.getChannelId L ++ "|" ++ context ++ "|" ++ toString amount ++ "|" ++
      toString index)
  let scalar ← (hashToSecpScalar L message (L.hmacSha256 params.channelSecret.val)).mapErr
    fun error => s!"Failed to derive stage-2 ephemeral secret: {error}"
  (Outcome.ofExcept (L.secretKeyFromSlice (L.scalarToBeBytes scalar).val)).mapErr fun error =>
    s!"Invalid stage-2 ephemeral secret: {error}"

/-- Horizontal coordinate of the shared point of an ephemeral secret and a key. -/
def deriveNut28SharedSecretX (pubkey : T.PublicKey) (secret : T.SecretKey) :
    Outcome String (Bytes 32) := do
  let sharedPoint ← Outcome.ofExcept (L.mulTweak pubkey secret)
  return L.xOnly sharedPoint

/-- Scalar of a shared coordinate. -/
def deriveNut28P2kbSharedSecretScalar (zx : Bytes 32) (iByte : UInt8) : Outcome String T.Scalar :=
  hashToSecpScalar L (utf8 "Cashu_P2BK_v1" ++ zx.val ++ [iByte]) L.sha256

/-- Key material of the output of a role, by amount and index. -/
def stage2TweakInfoForRole (params : ChannelParameters T) (role : Stage2Role)
    (amount index : Nat) : Outcome String (Stage2P2bkTweakInfo T) := do
  let ephemeralSecret ←
    params.deriveStage2P2bkEphemeralSecretForOutput L role.stage2Context amount index
  let ephemeralSharedSecretX ← deriveNut28SharedSecretX L (role.pubkey params) ephemeralSecret
  let stage2TweakScalar ← deriveNut28P2kbSharedSecretScalar L ephemeralSharedSecretX 0x00
  return {
    ephemeralSecret, ephemeralPubkey := L.publicKey ephemeralSecret, ephemeralSharedSecretX,
    stage2TweakScalar }

/-- The key that locks the output of a role, by amount and index. -/
def getBlindedPubkeyForStage2Output (params : ChannelParameters T) (role : Stage2Role)
    (amount index : Nat) : Outcome String T.PublicKey := do
  let tweakInfo ← params.stage2TweakInfoForRole L role amount index
  deriveBlindedPubkey L (role.pubkey params) tweakInfo.stage2TweakScalar

/-- The key that locks one of the sender's outputs. -/
def getSenderBlindedPubkeyForStage2Output (params : ChannelParameters T) (amount index : Nat) :
    Outcome String T.PublicKey :=
  params.getBlindedPubkeyForStage2Output L .sender amount index

/-- The key that locks one of the receiver's outputs. -/
def getReceiverBlindedPubkeyForStage2Output (params : ChannelParameters T) (amount index : Nat) :
    Outcome String T.PublicKey :=
  params.getBlindedPubkeyForStage2Output L .receiver amount index

/-- The key that locks a commitment output of a context. -/
def getStage2BlindedPubkeyForStage1Output (params : ChannelParameters T) (context : String)
    (amount index : Nat) : Outcome String T.PublicKey :=
  match context with
  | "receiver" => params.getReceiverBlindedPubkeyForStage2Output L amount index
  | "sender" => params.getSenderBlindedPubkeyForStage2Output L amount index
  | "funding" =>
      .err "Funding context requires 2-of-2 blinded pubkeys, use new_funding() instead"
  | _ => .err s!"Unknown context: {context}"

/-- Add the ephemeral key of an output to its proof. -/
def attachStage2P2pkE (params : ChannelParameters T) (proof : Proof T) (role : Stage2Role)
    (amount index : Nat) : Outcome String (Proof T) := do
  let tweakInfo ← params.stage2TweakInfoForRole L role amount index
  return { proof with p2pkE := some tweakInfo.ephemeralPubkey }

/-- A locking key exists only if its key material does. -/
theorem stage2TweakInfo_of_blindedPubkey {params : ChannelParameters T} {role : Stage2Role}
    {amount index : Nat} {key : T.PublicKey}
    (derived : params.getBlindedPubkeyForStage2Output L role amount index = .ok key) :
    ∃ info, params.stage2TweakInfoForRole L role amount index = .ok info ∧
      deriveBlindedPubkey L (role.pubkey params) info.stage2TweakScalar = .ok key := by
  rwa [getBlindedPubkeyForStage2Output, Outcome.bind_eq_ok] at derived

/-- The receiver's stage-1 key is its key shifted by its stage-1 scalar. -/
theorem receiverScalar_of_blindedPubkey {params : ChannelParameters T} {key : T.PublicKey}
    (derived : params.getReceiverBlindedPubkeyForStage1 L = .ok key) :
    ∃ r, params.deriveReceiverBlindingScalarForStage1 L = .ok r ∧
      deriveBlindedPubkey L params.receiverPubkey r = .ok key := by
  rwa [getReceiverBlindedPubkeyForStage1, Outcome.bind_eq_ok] at derived

end ChannelParameters

end Spilman
