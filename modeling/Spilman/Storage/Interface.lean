/-
# What a store of the receiver does

A receiver's store is used through one interface, which the code implements in
memory and over SQLite. `SpilmanStorage` is that interface: each method is one
indivisible step on the store.

What the bridge can see of one channel is a `ChannelView`. The view is the
abstract store: it says what saving, paying, counting and closing mean for a
channel without saying how anything is stored. `SpilmanStorage.Laws` connects
the two levels. On a well-formed store every method acts on the view of the
channel it names as the operation of the view does, and on no other channel.
-/

import Spilman.Host
import Spilman.Lib.Table

namespace Spilman

open Lib

variable {T : Carriers} {σ : Type}

/-! ## Records -/

/-- Accumulated usage of a channel, by variable. -/
abbrev UsageMap := Table String Nat

/-- A cached keyset of a mint. -/
structure KeysetCacheEntry (T : Carriers) where
  infoJson : T.Text
  active : Bool
  unit : T.CurrencyUnit
  deriving DecidableEq

/-- What is stored of a closed channel. -/
structure ClosedDataView (T : Carriers) where
  expiryTimestamp : Nat
  closedAmount : Nat
  valueAfterStage1 : Nat
  receiverSum : Nat
  senderSum : Nat
  receiverProofsJson : T.Text
  senderProofsJson : T.Text
  deriving DecidableEq

/-! ## The interface -/

/-- The methods of a store. A writing method gives its result and the store after
it. -/
structure SpilmanStorage (T : Carriers) (σ : Type) where
  getFunding : σ → String → Option (ChannelFunding T)
  saveFunding : σ → String → ChannelFunding T → Except String Unit × σ
  getBalance : σ → String → Option PaymentProof
  updateBalance : σ → String → PaymentProof → Except String Unit × σ
  getUsage : σ → String → Option UsageMap
  incrementUsage : σ → String → UsageMap → Except String Unit × σ
  getState : σ → String → Except String (Option ChannelState)
  markClosing : σ → String → ClosingData → Except String Unit × σ
  getClosingData : σ → String → Option ClosingData
  markClosed : σ → String → ClosedDataView T → Except String Unit × σ
  getClosedData : σ → String → Option (ClosedDataView T)
  /-- Replace a payment that is still the expected one by a larger one. -/
  comparePayment : σ → String → PaymentProof → PaymentProof → Except String Unit × σ
  getCloseJournal : σ → String → Except String (Option String)
  /-- Freeze an open channel at the expected payment, with a journal. -/
  freezeClose : σ → String → PaymentProof → ClosingData → String → Except String Unit × σ
  /-- Replace a journal that is still the expected one, and close the channel if there is a
  payout. -/
  advanceClose : σ → String → String → String → Option (ClosedDataView T) →
    Except String Unit × σ
  getKeyset : σ → String → T.Id → Option (KeysetCacheEntry T)
  setKeyset : σ → String → T.Id → KeysetCacheEntry T → Except String Unit × σ
  getActiveKeysetIds : σ → String → T.CurrencyUnit → List T.Id

/-! ## The abstract store -/

/-- What can be seen of one channel. -/
@[ext]
structure ChannelView (T : Carriers) where
  state : Except String (Option ChannelState)
  funding : Option (ChannelFunding T)
  payment : Option PaymentProof
  usage : String → Nat
  closing : Option ClosingData
  closed : Option (ClosedDataView T)

namespace ChannelView

/-- Nothing is known of the channel. -/
def unknown : ChannelView T := ⟨.ok none, none, none, fun _ => 0, none, none⟩

/-- The channel takes payments. -/
def IsOpen (view : ChannelView T) : Prop := view.state = .ok (some .opened)

/-- The channel is settled for good. -/
def IsClosed (view : ChannelView T) : Prop := view.state = .ok (some .closed)

/-- The channel is being closed with a payment. -/
def ClosingWith (view : ChannelView T) (payment : PaymentProof) : Prop :=
  view.state = .ok (some .closing) ∧ ∃ data, view.closing = some data ∧ data.payment = payment

/-- The balance that is stored, zero if there is none. -/
def balance (view : ChannelView T) : Nat :=
  match view.payment with
  | some payment => payment.balance
  | none => 0

/-- A channel that was unknown is open. -/
def makeKnown (view : ChannelView T) : ChannelView T :=
  { view with state := if view.state = .ok none then .ok (some .opened) else view.state }

/-- The first funding is kept, and makes the channel known. -/
def saveFunding (view : ChannelView T) (funding : ChannelFunding T) : ChannelView T :=
  { view.makeKnown with funding := view.funding.or (some funding) }

/-- The larger payment is kept. -/
def updateBalance (view : ChannelView T) (payment : PaymentProof) : ChannelView T :=
  { view with
    payment := match view.payment with
      | some held => if held.balance < payment.balance then some payment else some held
      | none => some payment }

/-- The counters that are named go up, and wrap. -/
def incrementUsage (view : ChannelView T) (increments : UsageMap) : ChannelView T :=
  { view with
    usage := fun var => match increments.lookup var with
      | some delta => (view.usage var + delta) % 2 ^ 64
      | none => view.usage var }

theorem usage_incrementUsage_some {view : ChannelView T} {increments : UsageMap} {var : String}
    {delta : Nat} (counted : increments.lookup var = some delta) :
    (view.incrementUsage increments).usage var = (view.usage var + delta) % 2 ^ 64 := by
  simp only [incrementUsage, counted]

theorem usage_incrementUsage_none {view : ChannelView T} {increments : UsageMap} {var : String}
    (absent : increments.lookup var = none) :
    (view.incrementUsage increments).usage var = view.usage var := by
  simp only [incrementUsage, absent]

def markClosing (view : ChannelView T) (data : ClosingData) : ChannelView T :=
  { view with state := .ok (some .closing), closing := some data }

def markClosed (view : ChannelView T) (data : ClosedDataView T) : ChannelView T :=
  { view with state := .ok (some .closed), closing := none, closed := some data }

theorem balance_of_payment {view : ChannelView T} {payment : PaymentProof}
    (stored : view.payment = some payment) : view.balance = payment.balance := by
  simp only [balance, stored]

theorem le_balance_updateBalance (view : ChannelView T) (payment : PaymentProof) :
    view.balance ≤ (view.updateBalance payment).balance ∧
      payment.balance ≤ (view.updateBalance payment).balance := by
  unfold balance updateBalance
  cases view.payment with
  | none => exact ⟨Nat.zero_le _, le_refl _⟩
  | some held =>
      by_cases larger : held.balance < payment.balance
      · simp only [larger, if_true]
        exact ⟨larger.le, le_refl _⟩
      · simp only [larger, if_false]
        exact ⟨le_refl _, not_lt.mp larger⟩

theorem isSome_payment_updateBalance (view : ChannelView T) (payment : PaymentProof) :
    (view.updateBalance payment).payment.isSome := by
  unfold updateBalance
  cases view.payment with
  | none => rfl
  | some held =>
      by_cases larger : held.balance < payment.balance
      · simp [larger]
      · simp [larger]

theorem closingWith_iff {view : ChannelView T} {payment : PaymentProof} :
    view.ClosingWith payment ↔ view.state = .ok (some .closing) ∧
      view.closing.map ClosingData.payment = some payment := by
  simp only [ClosingWith, Option.map_eq_some_iff]

instance (view : ChannelView T) (payment : PaymentProof) :
    Decidable (view.ClosingWith payment) :=
  decidable_of_iff _ closingWith_iff.symm

end ChannelView

/-- What a store shows of a channel. -/
def SpilmanStorage.view (S : SpilmanStorage T σ) (store : σ) (channelId : String) :
    ChannelView T where
  state := S.getState store channelId
  funding := S.getFunding store channelId
  payment := S.getBalance store channelId
  usage := fun var => ((S.getUsage store channelId).bind fun usage => usage.lookup var).getD 0
  closing := S.getClosingData store channelId
  closed := S.getClosedData store channelId

/-! ## The laws of a store -/

/-- One channel changes, and no other. -/
def SpilmanStorage.Changes (S : SpilmanStorage T σ) (before after : σ) (channelId : String)
    (change : ChannelView T → ChannelView T) : Prop :=
  S.view after channelId = change (S.view before channelId) ∧
    ∀ other, other ≠ channelId → S.view after other = S.view before other

/-- A store that does what its interface promises. Stores may have limits of their
own: `keeps` says which balances a store can hold and `counts` which counters. A store
is `counting` as long as no counter has left its limit; nothing else depends on it. -/
structure SpilmanStorage.Laws (S : SpilmanStorage T σ) where
  /-- The stores that come up when starting from an empty one. -/
  wellFormed : σ → Prop
  counting : σ → Prop
  keeps : Nat → Prop
  counts : Nat → Prop
  saveFunding : ∀ {store} (channelId funding), wellFormed store →
    (S.saveFunding store channelId funding).1 = .ok () ∧
    wellFormed (S.saveFunding store channelId funding).2 ∧
    S.Changes store (S.saveFunding store channelId funding).2 channelId
      (·.saveFunding funding)
  /-- A payment is stored if the channel is open and the store can hold it. -/
  updateBalance : ∀ {store} (channelId payment), wellFormed store → payment.signature ≠ "" →
    (S.view store channelId).IsOpen → keeps payment.balance →
    (S.updateBalance store channelId payment).1 = .ok () ∧
    wellFormed (S.updateBalance store channelId payment).2 ∧
    S.Changes store (S.updateBalance store channelId payment).2 channelId
      (·.updateBalance payment)
  /-- Otherwise nothing changes, and the caller is told. -/
  updateBalance_refused : ∀ {store} (channelId payment),
    ¬ ((S.view store channelId).IsOpen ∧ keeps payment.balance) →
    (S.updateBalance store channelId payment).1 ≠ .ok () ∧
    (S.updateBalance store channelId payment).2 = store
  /-- Counting usage touches nothing but counters, whether they overflow or not. -/
  incrementUsage_frame : ∀ {store} (channelId increments), wellFormed store →
    wellFormed (S.incrementUsage store channelId increments).2 ∧
    ∃ usage, S.Changes store (S.incrementUsage store channelId increments).2 channelId
      ({ · with usage := usage })
  incrementUsage : ∀ {store} (channelId increments), wellFormed store → counting store →
    (∀ var, counts ((S.view store channelId).usage var + (increments.lookup var).getD 0)) →
    counting (S.incrementUsage store channelId increments).2 ∧
    S.Changes store (S.incrementUsage store channelId increments).2 channelId
      (·.incrementUsage increments)
  /-- A channel that is closed stays closed, and the caller is told. -/
  markClosing : ∀ {store} (channelId data), wellFormed store →
    wellFormed (S.markClosing store channelId data).2 ∧
    ((S.markClosing store channelId data).1 ≠ .ok () ∧
        (S.markClosing store channelId data).2 = store ∨
      (S.markClosing store channelId data).1 = .ok () ∧ ¬ (S.view store channelId).IsClosed ∧
        S.Changes store (S.markClosing store channelId data).2 channelId (·.markClosing data))
  markClosed : ∀ {store} (channelId data), wellFormed store →
    wellFormed (S.markClosed store channelId data).2 ∧
    ((S.markClosed store channelId data).1 ≠ .ok () ∧
        (S.markClosed store channelId data).2 = store ∨
      (S.markClosed store channelId data).1 = .ok () ∧ ¬ (S.view store channelId).IsClosed ∧
        S.Changes store (S.markClosed store channelId data).2 channelId (·.markClosed data))
  setKeyset : ∀ {store} (mint id entry), wellFormed store →
    wellFormed (S.setKeyset store mint id entry).2 ∧
    ∀ channelId, S.view (S.setKeyset store mint id entry).2 channelId = S.view store channelId
  /-- Counters are left alone by everything else. -/
  counting_kept : ∀ {store}, counting store →
    (∀ channelId funding, counting (S.saveFunding store channelId funding).2) ∧
    (∀ channelId payment, counting (S.updateBalance store channelId payment).2) ∧
    (∀ channelId data, counting (S.markClosing store channelId data).2) ∧
    (∀ channelId data, counting (S.markClosed store channelId data).2) ∧
    (∀ mint id entry, counting (S.setKeyset store mint id entry).2)

/-- A payment is stored, or refused without a trace. -/
theorem SpilmanStorage.Laws.updateBalance_cases {S : SpilmanStorage T σ} (laws : S.Laws)
    {store : σ} (formed : laws.wellFormed store) (channelId : String) {payment : PaymentProof}
    (signed : payment.signature ≠ "") :
    (((S.view store channelId).IsOpen ∧ laws.keeps payment.balance) ∧
        (S.updateBalance store channelId payment).1 = .ok () ∧
        laws.wellFormed (S.updateBalance store channelId payment).2 ∧
        S.Changes store (S.updateBalance store channelId payment).2 channelId
          (·.updateBalance payment)) ∨
      (¬ ((S.view store channelId).IsOpen ∧ laws.keeps payment.balance) ∧
        (S.updateBalance store channelId payment).1 ≠ .ok () ∧
        (S.updateBalance store channelId payment).2 = store) := by
  by_cases accepted : (S.view store channelId).IsOpen ∧ laws.keeps payment.balance
  · exact .inl ⟨accepted, laws.updateBalance channelId payment formed signed accepted.1 accepted.2⟩
  · exact .inr ⟨accepted, laws.updateBalance_refused channelId payment accepted⟩

end Spilman
