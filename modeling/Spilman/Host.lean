/-
# What the bridge asks of its host, and what it reports

The receiver's bridge keeps no state of its own: it asks a host for stored
funding, prices, policies and keys, and reports failures in three vocabularies.
`BridgeError` is for payments and funding, `ClosePreparationError` for preparing
a close, and `CloseError` for executing one.

A `Host` here is the host as it answers at one moment. Operations that change
what the host has stored are modelled over the storage itself.
-/

import Spilman.Channel

namespace Spilman

open Lib

variable {T : Carriers}

/-! ## Stored data -/

/-- Funding data of a channel, as it is stored. -/
structure ChannelFunding (T : Carriers) where
  paramsJson : T.Text
  fundingProofsJson : T.Text
  channelSecretHex : String
  keysetInfoJson : T.Text
  deriving DecidableEq

/-- A balance with the sender's signature on it. -/
structure PaymentProof where
  balance : Nat
  signature : String
  deriving DecidableEq, Repr

/-- Lifecycle of a channel. -/
inductive ChannelState
  | opened
  | closing
  | closed
  deriving DecidableEq, Repr

/-- What is stored when a channel enters the closing state. -/
structure ClosingData where
  expiryTimestamp : Nat
  balance : Nat
  signature : String
  deriving DecidableEq, Repr

/-- The payment a close was started with. -/
def ClosingData.payment (data : ClosingData) : PaymentProof := ⟨data.balance, data.signature⟩

/-- Thresholds for accepting a channel. -/
structure ChannelPolicy where
  minExpiryInSeconds : Nat
  minCapacity : Nat
  maxAmountPerOutput : Option Nat
  deriving DecidableEq, Repr

/-- The host's answers, with the pricing context as a parameter. -/
structure Host (T : Carriers) (C : Type) where
  receiverKeyIsAcceptable : T.PublicKey → Bool
  mintAndKeysetIsAcceptable : String → T.Id → Bool
  getFunding : String → Option (ChannelFunding T)
  getAmountDue : String → Option C → Nat
  getChannelState : String → Except String (Option ChannelState)
  getClosingData : String → Option ClosingData
  getChannelPolicy : String → Option ChannelPolicy
  nowSeconds : Nat
  getBalanceAndSignatureForUnilateralExit : String → Option PaymentProof
  getActiveKeysetIds : String → T.CurrencyUnit → List T.Id
  getKeysetInfo : String → T.Id → Option T.Text
  computeChannelSecret : String → String → Except String String
  signWithTweakedKey : String → String → String → Except String String

/-- The host signs any digest for a shifted key of the receiver, and the signature
verifies under the shifted key. -/
def SignsHonestly {C : Type} (L : Cashu T) (host : Host T C) (receiver : T.PublicKey) : Prop :=
  ∀ (tweak : T.Scalar) (key : T.PublicKey) (digest : Bytes 32),
    deriveBlindedPubkey L receiver tweak = .ok key →
    ∃ text signature,
      host.signWithTweakedKey (L.publicKeyToHex receiver) (Hex.encode digest.val)
        (Hex.encode (L.scalarToBeBytes tweak).val) = .ok text ∧
      signatureFromStr L text = .ok signature ∧
      L.verifySchnorr signature digest (L.xOnly key) = true

/-! ## Errors of payments and funding -/

/-- Why the bridge refuses a payment or a channel. -/
inductive BridgeError
  | invalidRequest (reason : String)
  | channelClosed
  | channelClosing
  | serverMisconfigured (reason : String)
  | capacityTooSmall (capacity minCapacity : Nat)
  | expiryTooSoon (expiryTimestamp minExpiry now : Nat)
  | maxAmountExceeded (amount maxAllowed : Nat)
  | balanceExceedsCapacity (balance capacity : Nat)
  | unsupportedUnit (unit : String)
  | channelIdMismatch
  | validationFailed (reason : String)
  | unknownChannel
  | invalidSignature (reason : String)
  | insufficientBalance (balance amountDue : Nat)
  | balanceMismatch (expected actual : Nat)
  | internal (reason : String)
  | receiverKeyNotAcceptable
  | mintOrKeysetNotAcceptable
  deriving DecidableEq, Repr

/-- The text of an error. -/
def BridgeError.text : BridgeError → String
  | invalidRequest s => s
  | channelClosed => "channel closed"
  | channelClosing => "channel closing, swap pending"
  | serverMisconfigured s => s!"server misconfigured: {s}"
  | capacityTooSmall capacity minCapacity => s!"capacity too small: {capacity} < {minCapacity}"
  | expiryTooSoon expiryTimestamp minExpiry now =>
      let remaining := expiryTimestamp - now
      s!"expiry too soon: {expiryTimestamp} < {minExpiry} ({remaining}s remaining)"
  | maxAmountExceeded amount maxAllowed =>
      s!"max_amount_per_output exceeded: {amount} > {maxAllowed}"
  | balanceExceedsCapacity balance capacity => s!"balance exceeds capacity: {balance} > {capacity}"
  | unsupportedUnit u => s!"unsupported unit: {u}"
  | channelIdMismatch => "channel_id mismatch"
  | validationFailed s => s!"channel validation failed: {s}"
  | unknownChannel => "unknown channel"
  | invalidSignature s => s!"invalid signature: {s}"
  | insufficientBalance balance amountDue => s!"insufficient balance: {balance} < {amountDue}"
  | balanceMismatch expected actual => s!"balance mismatch: expected {expected}, got {actual}"
  | internal s => s!"internal error: {s}"
  | receiverKeyNotAcceptable => "receiver key not acceptable"
  | mintOrKeysetNotAcceptable => "mint or keyset not acceptable"

/-! ## Errors of close preparation -/

/-- Why a close cannot be prepared, with an HTTP status. -/
structure ClosePreparationError where
  error : String
  reason : String
  status : Nat
  extra : Option (List (String × Json))
  deriving DecidableEq

/-- `text.contains(pattern)`. -/
def containsText (text pattern : String) : Bool :=
  text.toList.tails.any fun rest => pattern.toList.isPrefixOf rest

namespace ClosePreparationError

def badRequest (reason : String) : ClosePreparationError := ⟨"Bad request", reason, 400, none⟩

def paymentRequired (reason : String) : ClosePreparationError :=
  ⟨"Payment required", reason, 402, none⟩

def notFound (reason : String) : ClosePreparationError := ⟨reason, reason, 404, none⟩

def internal (reason : String) : ClosePreparationError := ⟨"Internal error", reason, 500, none⟩

def conflict (reason : String) : ClosePreparationError := ⟨"Channel closing", reason, 409, none⟩

def gone (reason : String) : ClosePreparationError := ⟨"Channel closed", reason, 410, none⟩

def withExtra (error : ClosePreparationError) (extra : List (String × Json)) :
    ClosePreparationError :=
  { error with extra := some extra }

/-- An error of the bridge met during preparation. -/
def fromBridgeError (err : BridgeError) : ClosePreparationError :=
  match err with
  | .channelClosed => gone err.text
  | .channelClosing => conflict err.text
  | .unknownChannel => notFound err.text
  | .invalidRequest msg =>
      if containsText msg "no payment proof" then badRequest err.text
      else paymentRequired err.text
  | .internal _ => internal err.text
  | .serverMisconfigured _ => internal err.text
  | .balanceMismatch expected actual =>
      (paymentRequired err.text).withExtra [("actual", .num actual), ("expected", .num expected)]
  | _ => paymentRequired err.text

end ClosePreparationError

/-! ## What the mint's network reports -/

/-- A validated rejection by the mint, always of HTTP status 400. -/
structure MintRejection where
  code : Nat
  detail : String
  deriving DecidableEq, Repr

/-- Why a request to the mint gave no usable answer. -/
inductive MintRequestError
  | rejected (rejection : MintRejection)
  | http (status : Nat) (body : String)
  | transport (message : String)
  deriving DecidableEq, Repr

namespace MintRequestError

def rejection : MintRequestError → Option MintRejection
  | rejected rejection => some rejection
  | _ => none

/-- Only the two keyset rejections permit another attempt. -/
def permitsKeysetRetry (error : MintRequestError) : Bool :=
  match error.rejection with
  | some rejection => rejection.code = 12001 ∨ rejection.code = 12002
  | none => false

/-- `parse_mint_error_value`: a rejection by itself, anything else with its kind. -/
def value : MintRequestError → Json
  | rejected rejection => .obj [("code", .num rejection.code), ("detail", .str rejection.detail),
      ("status", .num 400)]
  | http status body => .obj [("response", .obj [("body", .str body), ("status", .num status)]),
      ("type", .str "http")]
  | transport message => .obj [("message", .str message), ("type", .str "transport")]

end MintRequestError

/-! ## Errors of closing -/

/-- Why a close has not been completed, with an HTTP status. -/
inductive CloseError
  | validationFailed (reason : String) (status : Nat)
      (expectedBalance actualBalance : Option Nat)
  | unknownChannel (status : Nat)
  | alreadyClosed (closedBalance requestedBalance status : Nat)
  | mintRejected (mintError : Json) (status : Nat)
  | mintRejectedAfterRetry (originalError retryError : Json) (status : Nat)
  | mintRequestFailed (mintError : MintRequestError) (originalError : Option MintRequestError)
      (status : Nat)
  | unblindFailed (reason : String) (status : Nat)
  | storageFailed (reason : String) (status : Nat)
  deriving DecidableEq

namespace CloseError

/-- A failure to prepare, with the balances if they disagree. -/
def fromPreparationError (err : ClosePreparationError) : CloseError :=
  let read (key : String) : Option Nat := err.extra.bind fun extra =>
    ((Json.obj extra).get? key).bind Json.asU64
  .validationFailed err.reason err.status (read "expected") (read "actual")

/-- A response that could not be completed. -/
def unblinding (reason : String) : CloseError := .unblindFailed reason 500

/-- A failure of the host's storage. -/
def storage (reason : String) : CloseError := .storageFailed reason 500

end CloseError

end Spilman
