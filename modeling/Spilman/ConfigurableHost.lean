/-
# The configurable host

The host that the repository ships: trusted mints, policies and prices come from a
configuration, everything else from a store. What is due on a channel is a linear
combination of its usage counters and of the usage that a request is about to add,
divided by a scale and rounded up.

`answers` is the host at one moment. `getAmountDue_eq` says that what is due depends
on a store through its view of the channel only, and `amountDue_incrementUsage` that
usage costs the same before it is counted as after.
-/

import Spilman.Lib.Greedy
import Spilman.Signing
import Spilman.Storage.Interface

namespace Spilman

open Lib

variable {T : Carriers} {σ : Type}

/-! ## Configuration -/

/-- Thresholds and prices for one unit. -/
structure UnitPricingConfig where
  minCapacity : Nat
  maxAmountPerOutput : Option Nat
  /-- The price of each usage variable. -/
  variablePrices : Table String Nat

/-- What the host is configured with, besides its store. -/
structure ConfigurableHostConfig where
  /-- The units that are trusted at each trusted mint. -/
  mints : Table String (List String)
  minExpirySeconds : Nat
  pricingScale : Nat
  pricing : Table String UnitPricingConfig

/-- A host with its key and its store. -/
structure ConfigurableHost (T : Carriers) (σ : Type) where
  config : ConfigurableHostConfig
  serverPubkey : T.PublicKey
  serverSecretHex : String
  storage : SpilmanStorage T σ

/-! ## Pricing -/

/-- `u64::saturating_add`. -/
def saturatingAdd (a b : Nat) : Nat := min (a + b) (2 ^ 64 - 1)

/-- `u64::saturating_mul`. -/
def saturatingMul (a b : Nat) : Nat := min (a * b) (2 ^ 64 - 1)

/-- An object whose values are all `u64`, as a map. -/
def usageOfJson (json : Json) : Option UsageMap := do
  let entries ← json.asObject
  entries.foldlM (fun usage entry => entry.2.asU64.map (usage.insert entry.1)) ∅

namespace ConfigurableHostConfig

variable (config : ConfigurableHostConfig)

/-- The divisor of all prices, at least one. -/
def scale : Nat := max config.pricingScale 1

/-- The price of accumulated and pending usage, before it is scaled. Their sum wraps. -/
def rawTotal (variablePrices : Table String Nat) (accumulated pending : String → Nat) : Nat :=
  variablePrices.entries.foldl (fun total entry =>
    saturatingAdd total
      (saturatingMul ((accumulated entry.1 + pending entry.1) % 2 ^ 64) entry.2)) 0

/-- What is due for usage of a channel in a unit. Nothing is due without prices. -/
def amountDue (unit : String) (accumulated pending : String → Nat) : Nat :=
  match config.pricing.lookup unit with
  | none => 0
  | some unitPricing =>
      Greedy.divCeil (rawTotal unitPricing.variablePrices accumulated pending) config.scale

/-- The policy for channels in a unit. -/
def channelPolicy (unit : String) : Option ChannelPolicy :=
  (config.pricing.lookup unit).map fun unitPricing =>
    ⟨config.minExpirySeconds, unitPricing.minCapacity, unitPricing.maxAmountPerOutput⟩

end ConfigurableHostConfig

variable (L : Cashu T) (K : KeyOps T)

/-- The usage that a context asks to add. A context that is no usage map adds nothing. -/
def usageOfText (context : T.Text) : Option UsageMap :=
  match L.parse context with
  | .ok json => usageOfJson json
  | .error _ => none

/-- What a context adds to a variable. -/
def pendingUsage (context : Option T.Text) (var : String) : Nat :=
  (((context.bind (usageOfText L)).getD ∅).lookup var).getD 0

/-- The unit that funding names. -/
def fundingUnit (funding : ChannelFunding T) : Option String :=
  match L.parse funding.paramsJson with
  | .ok params => (params.get? "unit").bind Json.asStr
  | .error _ => none

/-! ## Answers -/

/-- What a host can see at one moment. -/
structure Moment (σ : Type) where
  store : σ
  now : Nat

namespace ConfigurableHost

variable (H : ConfigurableHost T σ)

/-- The unit of a stored channel. -/
def channelUnit (store : σ) (channelId : String) : Option String :=
  (H.storage.getFunding store channelId).bind (fundingUnit L)

/-- What is due on a channel. Its unit and its usage are read one after the other. -/
def computeAmountDue (units counters : σ) (channelId : String) (context : Option T.Text) : Nat :=
  let accumulated := (H.storage.getUsage counters channelId).getD ∅
  H.config.amountDue ((H.channelUnit L units channelId).getD "")
    (fun var => (accumulated.lookup var).getD 0) (pendingUsage L context)

/-- A keyset has to be active, and of a unit that its mint is trusted with. -/
def mintAndKeysetIsAcceptable (store : σ) (mint : String) (keysetId : T.Id) : Bool :=
  match H.config.mints.lookup mint with
  | none => false
  | some trustedUnits =>
      match H.storage.getKeyset store mint keysetId with
      | some entry => entry.active && trustedUnits.any (· = L.unitToString entry.unit)
      | none => false

/-- The host at one moment. It has one key, whatever key it is asked to use. -/
def answers (moment : Moment σ) : Host T T.Text where
  receiverKeyIsAcceptable := fun key => decide (key = H.serverPubkey)
  mintAndKeysetIsAcceptable := H.mintAndKeysetIsAcceptable L moment.store
  getFunding := H.storage.getFunding moment.store
  getAmountDue := H.computeAmountDue L moment.store moment.store
  getChannelState := H.storage.getState moment.store
  getClosingData := H.storage.getClosingData moment.store
  getChannelPolicy := H.config.channelPolicy
  nowSeconds := moment.now
  getBalanceAndSignatureForUnilateralExit := H.storage.getBalance moment.store
  getActiveKeysetIds := H.storage.getActiveKeysetIds moment.store
  getKeysetInfo := fun mint id =>
    (H.storage.getKeyset moment.store mint id).map KeysetCacheEntry.infoJson
  computeChannelSecret := fun _ senderPubkeyHex =>
    computeChannelSecretFromHex L K H.serverSecretHex senderPubkeyHex
  signWithTweakedKey := fun _ messageHex tweakScalarHex =>
    signWithTweakedKeyUtil L K H.serverSecretHex messageHex tweakScalarHex

end ConfigurableHost

/-! ## What is due -/

namespace ConfigurableHostConfig

variable {config : ConfigurableHostConfig}

/-- The raw total depends on the sums of both kinds of usage only. -/
theorem rawTotal_congr {variablePrices : Table String Nat}
    {accumulated accumulated' pending pending' : String → Nat}
    (same : ∀ var, (accumulated var + pending var) % 2 ^ 64 =
      (accumulated' var + pending' var) % 2 ^ 64) :
    rawTotal variablePrices accumulated pending =
      rawTotal variablePrices accumulated' pending' := by
  unfold rawTotal
  simp only [same]

theorem amountDue_congr {unit : String}
    {accumulated accumulated' pending pending' : String → Nat}
    (same : ∀ var, (accumulated var + pending var) % 2 ^ 64 =
      (accumulated' var + pending' var) % 2 ^ 64) :
    config.amountDue unit accumulated pending = config.amountDue unit accumulated' pending' := by
  unfold amountDue
  simp only [rawTotal_congr same]

/-- Nothing is due for no usage. -/
theorem amountDue_zero (unit : String) :
    config.amountDue unit (fun _ => 0) (fun _ => 0) = 0 := by
  have free : ∀ (entries : List (Σ _ : String, Nat)), entries.foldl (fun total entry =>
      saturatingAdd total (saturatingMul ((0 + 0) % 2 ^ 64) entry.2)) 0 = 0 := by
    intro entries
    induction entries with
    | nil => rfl
    | cons entry rest ih =>
        have nothing : saturatingAdd 0 (saturatingMul ((0 + 0) % 2 ^ 64) entry.2) = 0 := by
          simp [saturatingAdd, saturatingMul]
        rw [List.foldl_cons, nothing]
        exact ih
  unfold amountDue
  cases config.pricing.lookup unit with
  | none => rfl
  | some unitPricing =>
      have positive : 0 < config.scale := by
        unfold scale
        omega
      simp only [rawTotal, free, Greedy.divCeil]
      exact Nat.div_eq_of_lt (by omega)

end ConfigurableHostConfig

section

variable {L K}

@[simp]
theorem pendingUsage_none : pendingUsage L none = fun _ => 0 := by
  funext var
  simp [pendingUsage]

/-- **Usage costs the same before it is counted as after.** Both sums wrap alike. -/
theorem amountDue_incrementUsage {config : ConfigurableHostConfig} {unit : String}
    {view : ChannelView T} {context : T.Text} {increments : UsageMap}
    (parsed : usageOfText L context = some increments) :
    config.amountDue unit (view.incrementUsage increments).usage (pendingUsage L none) =
      config.amountDue unit view.usage (pendingUsage L (some context)) := by
  apply ConfigurableHostConfig.amountDue_congr
  intro var
  have pending : pendingUsage L (some context) var = (increments.lookup var).getD 0 := by
    simp [pendingUsage, parsed]
  rw [pending, pendingUsage_none]
  cases counted : increments.lookup var with
  | none => rw [ChannelView.usage_incrementUsage_none counted, Option.getD_none]
  | some delta =>
      rw [ChannelView.usage_incrementUsage_some counted, Option.getD_some, Nat.add_zero,
        Nat.mod_mod]

/-- A context that is no usage map has no price of its own. -/
theorem pendingUsage_of_unparsed {context : T.Text} (unparsed : usageOfText L context = none) :
    pendingUsage L (some context) = pendingUsage L none := by
  funext var
  simp [pendingUsage, unparsed]

end

namespace ConfigurableHost

variable (H : ConfigurableHost T σ)

/-- What is due on a channel as it is seen. -/
def due (view : ChannelView T) (context : Option T.Text) : Nat :=
  H.config.amountDue ((view.funding.bind (fundingUnit L)).getD "") view.usage
    (pendingUsage L context)

theorem due_of_no_usage {view : ChannelView T} (noUsage : view.usage = fun _ => 0) :
    H.due L view none = 0 := by
  unfold due
  rw [noUsage, pendingUsage_none]
  exact ConfigurableHostConfig.amountDue_zero _

/-- The code computes what is due from the view of the channel. -/
theorem computeAmountDue_eq (units counters : σ) (channelId : String) (context : Option T.Text) :
    H.computeAmountDue L units counters channelId context =
      H.due L { H.storage.view counters channelId with
        funding := H.storage.getFunding units channelId } context := by
  unfold computeAmountDue due channelUnit
  refine congrArg (fun accumulated => H.config.amountDue _ accumulated _) ?_
  funext var
  simp only [SpilmanStorage.view]
  cases H.storage.getUsage counters channelId with
  | none => rfl
  | some usage => rfl

theorem getAmountDue_eq (moment : Moment σ) (channelId : String) (context : Option T.Text) :
    (H.answers L K moment).getAmountDue channelId context =
      H.due L (H.storage.view moment.store channelId) context :=
  H.computeAmountDue_eq L moment.store moment.store channelId context

end ConfigurableHost

end Spilman
