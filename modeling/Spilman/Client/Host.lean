/-
# The client's host

What the client's bridge asks of its host: what is stored of a channel, the state
of its lifecycle, the time, and the two operations that need a secret key. The
configurable host answers the last two from a ring of keys. A ring holds every key
under the text of its public key, so a name that reads as a public key selects the
secret of that key and no other.
-/

import Spilman.Lib.Table
import Spilman.Signing

namespace Spilman

open Lib

variable {T : Carriers}

/-! ## Stored data -/

/-- What the client saves before the funding swap is submitted. -/
structure ClientChannelOpeningFromSwap (T : Carriers) where
  paramsJson : T.Text
  channelSecretHex : String
  keysetInfoJson : T.Text
  senderPubkeyHex : String
  receiverPubkeyHex : String
  capacity : Nat
  fundingTokenAmount : Nat
  mintUrl : String
  unit : String
  inputToken : T.Text
  changeSecretsJson : T.Text
  changeAmountRaw : Nat
  createdAt : Nat
  deriving DecidableEq

/-- What the client keeps of an open channel. -/
structure ClientChannelFunding (T : Carriers) where
  paramsJson : T.Text
  fundingProofsJson : T.Text
  channelSecretHex : String
  keysetInfoJson : T.Text
  senderPubkeyHex : String
  capacity : Nat
  fundingTokenAmount : Nat
  mintUrl : String
  createdAt : Nat
  deriving DecidableEq

/-- The funding `set_open` stores for an opening whose proofs have arrived. -/
def ClientChannelOpeningFromSwap.funding (opening : ClientChannelOpeningFromSwap T)
    (fundingProofsJson : T.Text) : ClientChannelFunding T where
  paramsJson := opening.paramsJson
  fundingProofsJson := fundingProofsJson
  channelSecretHex := opening.channelSecretHex
  keysetInfoJson := opening.keysetInfoJson
  senderPubkeyHex := opening.senderPubkeyHex
  capacity := opening.capacity
  fundingTokenAmount := opening.fundingTokenAmount
  mintUrl := opening.mintUrl
  createdAt := opening.createdAt

/-- The receiver's record of the channel, had it been given the same texts. -/
def ClientChannelFunding.shared (funding : ClientChannelFunding T) : ChannelFunding T where
  paramsJson := funding.paramsJson
  fundingProofsJson := funding.fundingProofsJson
  channelSecretHex := funding.channelSecretHex
  keysetInfoJson := funding.keysetInfoJson

/-- Lifecycle of a channel, as the client sees it. -/
inductive ClientChannelState
  | openingFromSwap
  | openingFailed
  | opened
  | closing
  | closed
  deriving DecidableEq, Repr

/-- The name of a state in messages. -/
def ClientChannelState.name : ClientChannelState → String
  | openingFromSwap => "OpeningFromSwap"
  | openingFailed => "OpeningFailed"
  | opened => "Open"
  | closing => "Closing"
  | closed => "Closed"

/-- Only an open channel makes payments. -/
def ClientChannelState.isPayable : ClientChannelState → Bool
  | opened => true
  | _ => false

/-- The host's answers at one moment. -/
structure ClientHost (T : Carriers) where
  getChannelFunding : String → Option (ClientChannelFunding T)
  getChannelState : String → Option ClientChannelState
  nowSeconds : Nat
  computeChannelSecret : String → String → Except String String
  signWithTweakedKey : String → String → String → Except String String

/-! ## Keys -/

/-- Secret keys under the texts of their public keys. -/
structure Keyring (L : Cashu T) where
  keys : Table String T.SecretKey
  filed : ∀ name secret, keys.lookup name = some secret →
    name = L.publicKeyToHex (L.publicKey secret)

namespace Keyring

variable {L : Cashu T}

/-- A ring without keys. -/
def empty : Keyring L where
  keys := ∅
  filed := by simp

/-- File a key, in place of one with the same public key. -/
def addKey (ring : Keyring L) (secret : T.SecretKey) : Keyring L where
  keys := ring.keys.insert (L.publicKeyToHex (L.publicKey secret)) secret
  filed := by
    intro name found present
    by_cases same : name = L.publicKeyToHex (L.publicKey secret)
    · subst same
      rw [AList.lookup_insert, Option.some.injEq] at present
      rw [present]
    · rw [AList.lookup_insert_ne same] at present
      exact ring.filed name found present

/-- Take a key off the ring. -/
def removeKey (ring : Keyring L) (pubkeyHex : String) : Keyring L where
  keys := ring.keys.erase pubkeyHex
  filed := by
    intro name found present
    by_cases same : name = pubkeyHex
    · subst same
      rw [AList.lookup_erase] at present
      cases present
    · rw [AList.lookup_erase_ne same] at present
      exact ring.filed name found present

/-- The secret of a public key. -/
def getSecret (ring : Keyring L) (pubkeyHex : String) : Except String T.SecretKey :=
  match ring.keys.lookup pubkeyHex with
  | none => .error s!"No key found for pubkey: {pubkeyHex}"
  | some secret => .ok secret

theorem getSecret_eq_ok {ring : Keyring L} {pubkeyHex : String} {secret : T.SecretKey} :
    ring.getSecret pubkeyHex = .ok secret ↔ ring.keys.lookup pubkeyHex = some secret := by
  unfold getSecret
  cases ring.keys.lookup pubkeyHex with
  | none => simp
  | some found => simp

/-- A name that reads as a public key selects its secret. -/
theorem publicKey_of_getSecret (trips : L.RoundTrips) {ring : Keyring L} {pubkeyHex : String}
    {secret : T.SecretKey} {key : T.PublicKey} (found : ring.getSecret pubkeyHex = .ok secret)
    (reads : L.publicKeyFromHex pubkeyHex = .ok key) : L.publicKey secret = key := by
  have name := ring.filed pubkeyHex secret (getSecret_eq_ok.mp found)
  rw [name, trips.publicKeyFromHex_toHex] at reads
  exact Except.ok.inj reads

end Keyring

section ConfigurableClientHost

variable (L : Cashu T) (K : KeyOps T)

/-- The configurable host, over what its storage answers. -/
def configurableClientHost (ring : Keyring L)
    (getChannelFunding : String → Option (ClientChannelFunding T))
    (getChannelState : String → Option ClientChannelState) (nowSeconds : Nat) : ClientHost T where
  getChannelFunding := getChannelFunding
  getChannelState := getChannelState
  nowSeconds := nowSeconds
  computeChannelSecret := fun senderPubkeyHex receiverPubkeyHex => do
    let secret ← ring.getSecret senderPubkeyHex
    computeChannelSecretFromHex L K (secretToHex L secret) receiverPubkeyHex
  signWithTweakedKey := fun signerPubkeyHex messageHex tweakScalarHex => do
    let secret ← ring.getSecret signerPubkeyHex
    signWithTweakedKeyUtil L K (secretToHex L secret) messageHex tweakScalarHex

variable {L K} {ring : Keyring L}
  {getChannelFunding : String → Option (ClientChannelFunding T)}
  {getChannelState : String → Option ClientChannelState} {nowSeconds : Nat}

/-- What the host signs with the key of a name, for well-formed arguments. -/
theorem signWithTweakedKey_eq_ok_iff (trips : L.RoundTrips) {signerPubkeyHex text : String}
    {digest : Bytes 32} {t : T.Scalar} :
    (configurableClientHost L K ring getChannelFunding getChannelState
        nowSeconds).signWithTweakedKey signerPubkeyHex (Hex.encode digest.val)
        (Hex.encode (L.scalarToBeBytes t).val) = .ok text ↔
      ∃ secret tweaked, ring.getSecret signerPubkeyHex = .ok secret ∧
        L.addTweak (effectiveSecret L K secret) t = .ok tweaked ∧
        text = signatureToString (K.signSchnorr tweaked digest) := by
  simp only [configurableClientHost, bind, Except.bind]
  cases ring.getSecret signerPubkeyHex with
  | error e => simp
  | ok secret => simp [signWithTweakedKeyUtil_eq_ok_iff trips]

/-- The secret the client computes for a channel with a receiver. -/
theorem computeChannelSecret_eq_ok_iff (trips : L.RoundTrips)
    {senderPubkeyHex receiverPubkeyHex text : String} :
    (configurableClientHost L K ring getChannelFunding getChannelState
        nowSeconds).computeChannelSecret senderPubkeyHex receiverPubkeyHex = .ok text ↔
      ∃ secret receiver, ring.getSecret senderPubkeyHex = .ok secret ∧
        L.publicKeyFromHex receiverPubkeyHex = .ok receiver ∧
        text = Hex.encode (computeChannelSecret K secret receiver).val := by
  simp only [configurableClientHost, computeChannelSecretFromHex, bind, Except.bind]
  cases ring.getSecret senderPubkeyHex with
  | error e => simp
  | ok secret =>
      simp only [secretKeyFromHex_toHex trips, Except.mapError]
      cases L.publicKeyFromHex receiverPubkeyHex with
      | error e => simp
      | ok receiver => simp [pure, Except.pure, eq_comm]

end ConfigurableClientHost

end Spilman
