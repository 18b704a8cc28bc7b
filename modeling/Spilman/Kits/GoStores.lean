/-
# The Go kit's stores are interchangeable

The maps of the Go kit are guarded as its SQL statements are: the first funding stays, a
payment has to be larger than the one on record, and a closed channel is left alone. So
its host gives the same answers over both stores after every call.

Counters are `uint64` in memory and wrap. A row whose sum has left the signed range cannot
be scanned into one and reads as zero.
-/

import Spilman.Kits.GoHost
import Spilman.Kits.Stores

namespace Spilman.GoKit

open Lib Kits

variable {T : Carriers} (L : Cashu T)

/-! ## The code -/

/-- What is stored of a closed channel. -/
structure ClosedData (T : Carriers) where
  expiryTimestamp : Nat
  closedAmount : Nat
  valueAfterStage1 : Nat
  receiverSum : Nat
  senderSum : Nat
  receiverProofsJson : T.Text
  senderProofsJson : T.Text

/-- The sum is a `uint64`. -/
def closedData (closed : ClosedArguments T) : ClosedData T :=
  ⟨closed.expiryTimestamp, closed.balance, (closed.receiverSum + closed.senderSum) % 2 ^ 64,
    closed.receiverSum, closed.senderSum, closed.receiverProofs, closed.senderProofs⟩

/-- `json.Unmarshal` into a usage map; errors are ignored. A value that is no `uint64` leaves a
zero, and the last one of a name counts. -/
def unmarshalUsage (contextJson : Option T.Text) : UsageMap :=
  match contextJson.map L.parse with
  | some (.ok (.obj entries)) =>
      entries.foldl (fun usage entry => usage.insert entry.1 (entry.2.asU64.getD 0)) ∅
  | _ => ∅

/-- What is due, by what was read from the stores. -/
def amountDue (pricing : Table String UnitPricingConfig) (pricingScale : Nat)
    (funding : Option (ChannelFundingData T)) (accumulated : String → Option Counter)
    (contextJson : Option T.Text) : Nat :=
  match funding with
  | none => 0
  | some funding =>
      match pricing.lookup (unitOf L funding.paramsJson) with
      | none => 0
      | some unitPricing =>
          scaled pricingScale (total unitPricing.variablePrices
            (fun var => Counter.value (accumulated var)) (pendingUsage L contextJson))

/-- It is what the host computes from a store. -/
theorem getAmountDue_eq {τ : Type} (host : BaseSpilmanHost T τ) (store : τ) (channelId : String)
    (contextJson : Option T.Text) : host.getAmountDue L store channelId contextJson =
      amountDue L host.pricing host.pricingScale (host.stores.getFunding store channelId)
        (fun var => ((host.stores.getUsage store channelId).lookup var).map .integer)
        contextJson := by
  have value (found : Option Nat) : Counter.value (found.map .integer) = found.getD 0 := by
    cases found <;> rfl
  cases funded : host.stores.getFunding store channelId with
  | none => simp only [BaseSpilmanHost.getAmountDue, amountDue, funded]
  | some funding =>
      cases priced : host.pricing.lookup (unitOf L funding.paramsJson) with
      | none => simp only [BaseSpilmanHost.getAmountDue, amountDue, funded, priced]
      | some unitPricing =>
          simp only [BaseSpilmanHost.getAmountDue, amountDue, funded, priced, value]

/-- Only priced usage counts. -/
theorem amountDue_congr {pricing : Table String UnitPricingConfig} {pricingScale : Nat}
    (funding : Option (ChannelFundingData T)) (accumulated accumulated' : String → Option Counter)
    (contextJson : Option T.Text)
    (same : ∀ var, IsPriced pricing var → accumulated var = accumulated' var) :
    amountDue L pricing pricingScale funding accumulated contextJson =
      amountDue L pricing pricingScale funding accumulated' contextJson := by
  cases funding with
  | none => rfl
  | some funding =>
      cases found : pricing.lookup (unitOf L funding.paramsJson) with
      | none => simp only [amountDue, found]
      | some unitPricing =>
          simp only [amountDue, found, total]
          congr 1
          refine List.foldl_ext _ _ _ fun sum entry member => ?_
          have priced : IsPriced pricing entry.1 :=
            ⟨_, unitPricing, found, List.mem_keys_of_mem member⟩
          rw [same entry.1 priced]

/-- The host of the kit. -/
def kit (pricing : Table String UnitPricingConfig) (pricingScale : Nat) :
    Kit T (ChannelFundingData T) (ClosedArguments T) (ClosedData T) Nat where
  increments := fun contextJson => .ok (unmarshalUsage L contextJson)
  recordBalance := fun stores channelId payment store =>
    stores.updateBalance channelId payment store
  recordBalance_cases := fun _ _ _ _ => .inl rfl
  closedData := fun closed => .ok (closedData closed)
  amountDue := amountDue L pricing pricingScale
  Priced := IsPriced pricing
  amountDue_congr := amountDue_congr L

/-- A payment replaces a smaller one, and one without a signature. -/
def updateBalance {F D : Type} (channelId : String) (payment : PaymentProof)
    (store : MemoryStores F D) : MemoryStores F D :=
  match store.balance.lookup channelId with
  | none => store.setBalance channelId payment
  | some current =>
      if payment.balance > current.balance ∨ current.signature = "" then
        store.setBalance channelId payment
      else store

theorem usage_updateBalance {F D : Type} (channelId : String) (payment : PaymentProof)
    (store : MemoryStores F D) :
    (updateBalance channelId payment store).usage = store.usage := by
  unfold updateBalance
  cases store.balance.lookup channelId with
  | none => rfl
  | some current =>
      dsimp only
      split_ifs <;> rfl

def markClosing {F D : Type} (channelId : String) (data : ClosingData)
    (store : MemoryStores F D) : MemoryStores F D :=
  if channelId ∈ store.closed then store else store.setClosing channelId data

def markClosed {F D : Type} (channelId : String) (data : D) (store : MemoryStores F D) :
    MemoryStores F D :=
  if channelId ∈ store.closed then store else store.moveToClosed channelId data

theorem usage_markClosing {F D : Type} (channelId : String) (data : ClosingData)
    (store : MemoryStores F D) : (markClosing channelId data store).usage = store.usage := by
  unfold markClosing
  split_ifs <;> rfl

theorem usage_markClosed {F D : Type} (channelId : String) (data : D)
    (store : MemoryStores F D) : (markClosed channelId data store).usage = store.usage := by
  unfold markClosed
  split_ifs <;> rfl

/-- `NewInMemoryStores`. -/
def maps (F D : Type) : MapWriters F D where
  insertFunding := MemoryStores.insertFunding
  updateBalance := updateBalance
  fresh := ∅
  combine := fun count delta => .integer ((Counter.value count + delta) % 2 ^ 64)
  markClosing := markClosing
  markClosed := markClosed
  usage_insertFunding := MemoryStores.usage_insertFunding
  usage_updateBalance := usage_updateBalance
  usage_markClosing := usage_markClosing
  usage_markClosed := usage_markClosed

/-- A row that is no integer cannot be scanned. -/
def shown (_ : String) (row : Option Counter) : Option Counter :=
  row.map fun count => .integer (Counter.value (some count))

/-! ## The maps against the tables -/

section

variable {F D : Type}

/-- The maps are guarded. -/
theorem guarded_maps : (maps F D).Guarded where
  insertFunding := fun channelId funding _ => MemoryStores.entry_insertFunding funding
  updateBalance := fun channelId payment store signed => by
    show (updateBalance channelId payment store).entry = _
    unfold updateBalance
    cases recorded : store.balance.lookup channelId with
    | none => exact MemoryStores.entry_setBalance_of_exceeds (MemoryStores.exceeds_of_none recorded)
    | some current =>
        dsimp only
        split_ifs with replaces
        · have larger := replaces.resolve_right (signed current recorded)
          exact MemoryStores.entry_setBalance_of_exceeds
            (MemoryStores.exceeds_of_lt recorded larger)
        · exact MemoryStores.update_pay_of_le recorded
            (not_lt.mp fun larger => replaces (.inl larger))
  markClosing := fun channelId data store unclosed => by
    have absent : channelId ∉ store.closed := by
      rw [← AList.lookup_isSome]
      exact Bool.eq_false_iff.mp unclosed
    show (markClosing channelId data store).entry = _
    rw [markClosing, if_neg absent]
    exact MemoryStores.entry_setClosing data
  markClosed := fun channelId data store unclosed => by
    have absent : channelId ∉ store.closed := by
      rw [← AList.lookup_isSome]
      exact Bool.eq_false_iff.mp unclosed
    show (markClosed channelId data store).entry = _
    rw [markClosed, if_neg absent]
    exact MemoryStores.entry_moveToClosed data

/-- Below the signed range, maps and rows count alike. -/
theorem counts_maps (var : String) : Counts (maps F D) shown (2 ^ 63) var where
  unseen := rfl
  seen := fun _ _ => rfl
  first := fun delta small => by
    have value : (0 + delta) % 2 ^ 64 = delta := by omega
    exact congrArg Counter.integer value
  next := fun count delta small =>
    congrArg Counter.integer (Nat.mod_eq_of_lt (by omega : count + delta < 2 ^ 64))

end

/-- The host fails on the same calls over both stores, and gives the same answers after every
call. -/
theorem goStores_interchangeable (pricing : Table String UnitPricingConfig) (pricingScale : Nat)
    (calls : List (HostCall T (ChannelFundingData T) (ClosedArguments T)))
    (permitted : ((kit L pricing pricingScale).host (memoryStores (maps _ _))).Throughout
      (fun call store => call.Permitted (kit L pricing pricingScale) (maps _ _) (2 ^ 63) store)
      calls .new) :
    (((kit L pricing pricingScale).host (memoryStores (maps _ _))).pair
        ((kit L pricing pricingScale).host (sqliteStores shown))).Throughout
      ((kit L pricing pricingScale).Agrees (memoryStores (maps _ _)) (sqliteStores shown))
      calls (.new, .new) := by
  refine Machine.throughout_of_invariant
    (Related (kit L pricing pricingScale) (maps _ _) shown (2 ^ 63))
    (fun call both related allowed => ?_) (related_new fun _ => rfl)
    (Machine.throughout_pair_iff.mpr permitted)
  exact related.step_of_guarded guarded_maps le_rfl allowed fun _ _ _ var _ _ => counts_maps var

open Sample in
/-- A channel of three payments, one of them too small, that is closed twice. -/
theorem goStores_interchangeable_five :
    (((kit library charsPricing 2).host (memoryStores (maps _ _))).pair
        ((kit library charsPricing 2).host (sqliteStores shown))).Throughout
      ((kit library charsPricing 2).Agrees (memoryStores (maps _ _)) (sqliteStores shown))
      [.saveFunding "c" ⟨satParams, Json.null, "", Json.null⟩ ⟨0, "opening"⟩,
        .recordPayment "c" ⟨5, "second"⟩ (charsContext 3),
        .recordPayment "c" ⟨4, "late"⟩ (charsContext 2),
        .markChannelClosing "c" ⟨100, 5, "second"⟩,
        .markChannelClosed "c" ⟨100, 5, Json.null, Json.null, 4, 3⟩,
        .markChannelClosed "c" ⟨100, 5, Json.null, Json.null, 4, 3⟩] (.new, .new) :=
  goStores_interchangeable library charsPricing 2 _ (by decide +kernel)

end Spilman.GoKit
