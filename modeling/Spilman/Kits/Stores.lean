/-
# Stores of the integration kits

The kits bring the receiver's host to Python, Go and TypeScript. Each one has a host that
is written against a few stores, and two implementations of them: maps in memory and tables
of SQLite. The tables, the statements on them and the cache of funding are the same in all
three kits; the maps are guarded in different ways. What the three hosts do with their
stores is here, with the tables, and what has to relate the maps to the tables for a host
to give the same answers over both.

Serialized columns are kept as the records they are made from. Statements are atomic, and
none fails. Amounts are below `2 ^ 63`, so that the integer columns hold them; a sum of
counters that leaves this range is no integer any more.
-/

import Spilman.ConfigurableHost
import Spilman.Lib.Machine
import Spilman.Storage.Interface

namespace Spilman.Kits

open Lib

variable {T : Carriers} {F A D α σ τ : Type}

/-! ## Counters -/

/-- A counter of usage. A column of integers may hold a floating point number as well, and so
may a variable; what other value it is does not matter here. -/
inductive Counter
  | integer (value : Nat)
  | other
  deriving DecidableEq, Repr

namespace Counter

/-- Add to a counter that is an integer below a limit. -/
def add (limit : Nat) : Counter → Nat → Counter
  | .integer count, delta => if count + delta < limit then .integer (count + delta) else .other
  | .other, _ => .other

/-- `INSERT .. ON CONFLICT DO UPDATE SET count = count + excluded.count`. -/
def upsert (count : Option Counter) (delta : Nat) : Counter :=
  (count.getD (.integer 0)).add (2 ^ 63) delta

/-- The number of a counter. A counter that has not been seen is zero. -/
def value : Option Counter → Nat
  | some (.integer count) => count
  | some .other | none => 0

theorem add_of_lt {limit count delta : Nat} (fits : count + delta < limit) :
    (integer count).add limit delta = .integer (count + delta) :=
  if_pos fits

end Counter

/-! ## Contexts -/

/-- What a parser keeps of an object: the last entry of a name counts. -/
def dict (entries : List (String × Json)) : Table String Json :=
  entries.foldl (fun values entry => values.insert entry.1 entry.2) ∅

/-- A whole number. -/
def wholeNumber : Json → Option Nat
  | .num value => some value
  | _ => none

/-- The usage in the entries of an object. Usage maps hold whole numbers. -/
def usageOfEntries (entries : List (String × Json)) : UsageMap :=
  entries.foldl (fun usage entry => usage.insert entry.1 ((wholeNumber entry.2).getD 0)) ∅

/-! ## What a host asks of its stores -/

/-- The stores of a host. A store may remember what it has read, so asking for funding
gives a new store. Usage is read variable by variable. -/
structure SpilmanStores (F D σ : Type) where
  getFunding : String → σ → Option F × σ
  insertFunding : String → F → σ → σ
  getBalance : σ → String → Option PaymentProof
  updateBalance : String → PaymentProof → σ → σ
  getUsage : σ → String → String → Option Counter
  incrementUsage : String → UsageMap → σ → σ
  isClosing : σ → String → Bool
  markClosing : String → ClosingData → σ → σ
  getClosingData : σ → String → Option ClosingData
  isClosed : σ → String → Bool
  markClosed : String → D → σ → σ

namespace SpilmanStores

variable (stores : SpilmanStores F D σ)

def saveFunding (channelId : String) (funding : F) (initial : PaymentProof) (store : σ) : σ :=
  stores.updateBalance channelId initial (stores.insertFunding channelId funding store)

def getChannelState (store : σ) (channelId : String) : Option ChannelState :=
  if stores.isClosed store channelId then some .closed
  else if stores.isClosing store channelId then some .closing
  else if (stores.getFunding channelId store).1.isSome then some .opened
  else none

def markChannelClosing (channelId : String) (data : ClosingData) (store : σ) :
    Except String Unit × σ :=
  if stores.isClosed store channelId then (.error "channel already closed", store)
  else (.ok (), stores.markClosing channelId data
    (stores.updateBalance channelId data.payment store))

/-- The data of a closed channel is made only after the channel was looked up. -/
def markChannelClosed (channelId : String) (closedData : Except String D) (store : σ) :
    Except String Unit × σ :=
  if stores.isClosed store channelId then (.error "channel already closed", store)
  else
    match closedData with
    | .error error => (.error error, store)
    | .ok data => (.ok (), stores.markClosed channelId data store)

variable {stores} {store : σ} {channelId : String}

theorem markChannelClosing_of_unclosed (unclosed : stores.isClosed store channelId = false)
    (data : ClosingData) : stores.markChannelClosing channelId data store =
      (.ok (), stores.markClosing channelId data
        (stores.updateBalance channelId data.payment store)) := by
  rw [markChannelClosing, unclosed]
  rfl

theorem markChannelClosed_of_unclosed (unclosed : stores.isClosed store channelId = false)
    (data : D) : stores.markChannelClosed channelId (.ok data) store =
      (.ok (), stores.markClosed channelId data store) := by
  rw [markChannelClosed, unclosed]
  rfl

end SpilmanStores

/-- What a host is told about a channel that was closed. -/
structure ClosedArguments (T : Carriers) where
  expiryTimestamp : Nat
  balance : Nat
  receiverProofs : T.Text
  senderProofs : T.Text
  receiverSum : Nat
  senderSum : Nat
  deriving DecidableEq

/-- A variable with a price in some unit. -/
def IsPriced (pricing : Table String UnitPricingConfig) (var : String) : Prop :=
  ∃ unit, ∃ unitPricing ∈ pricing.lookup unit, var ∈ unitPricing.variablePrices

instance (pricing : Table String UnitPricingConfig) (var : String) :
    Decidable (IsPriced pricing var) :=
  decidable_of_iff (∃ unit ∈ pricing.keys, ∃ unitPricing ∈ pricing.lookup unit,
    var ∈ unitPricing.variablePrices) ⟨fun ⟨unit, _, priced⟩ => ⟨unit, priced⟩,
      fun ⟨unit, unitPricing, found, priced⟩ => ⟨unit, AList.mem_keys.mp
        (AList.lookup_isSome.mp (Option.isSome_of_mem found)), unitPricing, found, priced⟩⟩

/-- Where the hosts of the kits differ, apart from their stores. -/
structure Kit (T : Carriers) (F A D α : Type) where
  /-- What a payment adds to the usage. -/
  increments : Option T.Text → Except String UsageMap
  /-- How a payment is handed to the stores. -/
  recordBalance : ∀ {σ : Type}, SpilmanStores F D σ → String → PaymentProof → σ → σ
  /-- It is handed on, unless a payment on record is as large. -/
  recordBalance_cases : ∀ {σ : Type} (stores : SpilmanStores F D σ) channelId payment store,
    recordBalance stores channelId payment store =
        stores.updateBalance channelId payment store ∨
      recordBalance stores channelId payment store = store ∧
        ∀ old ∈ stores.getBalance store channelId, payment.balance ≤ old.balance
  /-- What is stored of a closed channel. -/
  closedData : A → Except String D
  /-- What is due, by funding, usage and context. -/
  amountDue : Option F → (String → Option Counter) → Option T.Text → α
  /-- The variables that have a price. -/
  Priced : String → Prop
  amountDue_congr : ∀ funding usage usage' context,
    (∀ var, Priced var → usage var = usage' var) →
      amountDue funding usage context = amountDue funding usage' context

/-- Calls to a host. The other calls that read leave the store as it is or as
`getFundingAndParams` does. -/
inductive HostCall (T : Carriers) (F A : Type)
  | saveFunding (channelId : String) (funding : F) (initial : PaymentProof)
  | recordPayment (channelId : String) (payment : PaymentProof) (context : Option T.Text)
  | markChannelClosing (channelId : String) (data : ClosingData)
  | markChannelClosed (channelId : String) (closed : A)
  | getFundingAndParams (channelId : String)

namespace Kit

variable (kit : Kit T F A D α) (stores : SpilmanStores F D σ)

def recordPayment (channelId : String) (payment : PaymentProof) (context : Option T.Text)
    (store : σ) : Except String Unit × σ :=
  match kit.increments context with
  | .error error => (.error error, store)
  | .ok increments =>
      (.ok (), kit.recordBalance stores channelId payment
        (stores.incrementUsage channelId increments store))

def getAmountDue (store : σ) (channelId : String) (context : Option T.Text) : α :=
  kit.amountDue (stores.getFunding channelId store).1 (stores.getUsage store channelId) context

/-- The host over its stores. -/
def host : Machine (HostCall T F A) (Except String Unit) σ
  | .saveFunding channelId funding initial, store =>
      (.ok (), stores.saveFunding channelId funding initial store)
  | .recordPayment channelId payment context, store =>
      kit.recordPayment stores channelId payment context store
  | .markChannelClosing channelId data, store => stores.markChannelClosing channelId data store
  | .markChannelClosed channelId closed, store =>
      stores.markChannelClosed channelId (kit.closedData closed) store
  | .getFundingAndParams channelId, store => (.ok (), (stores.getFunding channelId store).2)

/-- Over two stores the host gives the same answers. -/
structure SameAnswers (stores' : SpilmanStores F D τ) (store : σ) (store' : τ) : Prop where
  fundingAndParams : ∀ channelId,
    (stores.getFunding channelId store).1 = (stores'.getFunding channelId store').1
  balance : ∀ channelId, stores.getBalance store channelId = stores'.getBalance store' channelId
  amountDue : ∀ channelId context, kit.getAmountDue stores store channelId context =
    kit.getAmountDue stores' store' channelId context
  state : ∀ channelId,
    stores.getChannelState store channelId = stores'.getChannelState store' channelId
  closingData : ∀ channelId,
    stores.getClosingData store channelId = stores'.getClosingData store' channelId

/-- The largest payment of no channel decreases. -/
def Keeps (call : HostCall T F A) (store : σ) : Prop :=
  ∀ channelId, ∀ old ∈ stores.getBalance store channelId,
    ∃ new ∈ stores.getBalance (kit.host stores call store).2 channelId, old.balance ≤ new.balance

/-- A call fails over both stores or over none, and afterwards the answers are the same. -/
def Agrees (stores' : SpilmanStores F D τ) (call : HostCall T F A) (both : σ × τ) : Prop :=
  (kit.host stores call both.1).1 = (kit.host stores' call both.2).1 ∧
    kit.SameAnswers stores stores' (kit.host stores call both.1).2
      (kit.host stores' call both.2).2

end Kit

/-! ## Maps in memory -/

/-- The maps of a kit, by channel. -/
structure MemoryStores (F D : Type) where
  funding : Table String F
  balance : Table String PaymentProof
  usage : Table String (Table String Counter)
  closing : Table String ClosingData
  closed : Table String D

namespace MemoryStores

def new : MemoryStores F D := ⟨∅, ∅, ∅, ∅, ∅⟩

/-- The usage of a channel. What a new map shows depends on the language. -/
def usageOf (fresh : Table String Counter) (store : MemoryStores F D) (channelId : String) :
    Table String Counter :=
  (store.usage.lookup channelId).getD fresh

/-- Every increment is added to what the map shows. -/
def incrementUsage (fresh : Table String Counter) (combine : Option Counter → Nat → Counter)
    (channelId : String) (increments : UsageMap) (store : MemoryStores F D) : MemoryStores F D :=
  let usage := Table.merge id combine increments.entries (store.usageOf fresh channelId)
  { store with usage := store.usage.insert channelId usage }

/-- Only the first funding of a channel is stored. -/
def insertFunding (channelId : String) (funding : F) (store : MemoryStores F D) :
    MemoryStores F D :=
  if channelId ∈ store.funding then store
  else { store with funding := store.funding.insert channelId funding }

def setBalance (channelId : String) (payment : PaymentProof) (store : MemoryStores F D) :
    MemoryStores F D :=
  { store with balance := store.balance.insert channelId payment }

def setClosing (channelId : String) (data : ClosingData) (store : MemoryStores F D) :
    MemoryStores F D :=
  { store with closing := store.closing.insert channelId data }

/-- A closed channel is no longer closing. -/
def moveToClosed (channelId : String) (data : D) (store : MemoryStores F D) :
    MemoryStores F D :=
  { store with
    closed := store.closed.insert channelId data, closing := store.closing.erase channelId }

end MemoryStores

/-- How the maps of a kit are written. -/
structure MapWriters (F D : Type) where
  insertFunding : String → F → MemoryStores F D → MemoryStores F D
  updateBalance : String → PaymentProof → MemoryStores F D → MemoryStores F D
  /-- What a new map of usage shows. -/
  fresh : Table String Counter
  combine : Option Counter → Nat → Counter
  markClosing : String → ClosingData → MemoryStores F D → MemoryStores F D
  markClosed : String → D → MemoryStores F D → MemoryStores F D
  usage_insertFunding : ∀ channelId funding store,
    (insertFunding channelId funding store).usage = store.usage
  usage_updateBalance : ∀ channelId payment store,
    (updateBalance channelId payment store).usage = store.usage
  usage_markClosing : ∀ channelId data store,
    (markClosing channelId data store).usage = store.usage
  usage_markClosed : ∀ channelId data store,
    (markClosed channelId data store).usage = store.usage

/-- The stores in memory. All kits read their maps alike. -/
def memoryStores (W : MapWriters F D) : SpilmanStores F D (MemoryStores F D) where
  getFunding := fun channelId store => (store.funding.lookup channelId, store)
  insertFunding := W.insertFunding
  getBalance := fun store channelId => store.balance.lookup channelId
  updateBalance := W.updateBalance
  getUsage := fun store channelId var => (store.usageOf W.fresh channelId).lookup var
  incrementUsage := MemoryStores.incrementUsage W.fresh W.combine
  isClosing := fun store channelId => (store.closing.lookup channelId).isSome
  markClosing := W.markClosing
  getClosingData := fun store channelId => store.closing.lookup channelId
  isClosed := fun store channelId => (store.closed.lookup channelId).isSome
  markClosed := W.markClosed

/-! ## Tables of SQLite -/

/-- A row of the table of channels. -/
structure Row (F D : Type) where
  funding : F
  balance : Nat
  signature : String
  state : ChannelState
  closing : Option ClosingData
  closed : Option D

/-- The tables, and the funding that is cached. -/
structure Database (F D : Type) where
  channels : Table String (Row F D)
  usage : Table (String × String) Counter
  fundingCache : Table String F

namespace Database

/-- A database that has just been created. -/
def new : Database F D := ⟨∅, ∅, ∅⟩

/-- The cache is asked first, and remembers what was read. -/
def getFunding (channelId : String) (store : Database F D) : Option F × Database F D :=
  match store.fundingCache.lookup channelId with
  | some funding => (some funding, store)
  | none =>
      match store.channels.lookup channelId with
      | none => (none, store)
      | some row => (some row.funding,
          { store with fundingCache := store.fundingCache.insert channelId row.funding })

/-- `INSERT .. ON CONFLICT DO NOTHING`. A conflict clears the cache. -/
def insertFunding (channelId : String) (funding : F) (store : Database F D) : Database F D :=
  if channelId ∈ store.channels then
    { store with fundingCache := store.fundingCache.erase channelId }
  else
    { store with
      channels := store.channels.insert channelId ⟨funding, 0, "", .opened, none, none⟩
      fundingCache := store.fundingCache.insert channelId funding }

/-- `UPDATE .. WHERE channel_id = ?` and a condition on the row. -/
def updateRow (channelId : String) (condition : Row F D → Bool) (change : Row F D → Row F D)
    (store : Database F D) : Database F D :=
  match (store.channels.lookup channelId).filter condition with
  | none => store
  | some row => { store with channels := store.channels.insert channelId (change row) }

/-- A row without a signature has no payment yet. -/
def getBalance (store : Database F D) (channelId : String) : Option PaymentProof :=
  ((store.channels.lookup channelId).filter fun row => row.signature ≠ "").map fun row =>
    ⟨row.balance, row.signature⟩

def updateBalance (channelId : String) (payment : PaymentProof) (store : Database F D) :
    Database F D :=
  store.updateRow channelId (fun row => row.balance < payment.balance ∨ row.signature = "")
    fun row => { row with balance := payment.balance, signature := payment.signature }

def incrementUsage (channelId : String) (increments : UsageMap) (store : Database F D) :
    Database F D :=
  { store with
    usage := Table.merge (Prod.mk channelId) Counter.upsert increments.entries store.usage }

def hasState (state : ChannelState) (store : Database F D) (channelId : String) : Bool :=
  (store.channels.lookup channelId).any fun row => row.state = state

def markClosing (channelId : String) (data : ClosingData) (store : Database F D) :
    Database F D :=
  store.updateRow channelId (fun row => row.state ≠ .closed)
    fun row => { row with state := .closing, closing := some data }

def getClosingData (store : Database F D) (channelId : String) : Option ClosingData :=
  ((store.channels.lookup channelId).filter fun row => row.state = .closing).bind Row.closing

/-- A closed channel leaves the cache. -/
def markClosed (channelId : String) (data : D) (store : Database F D) : Database F D :=
  let store := store.updateRow channelId (fun row => row.state ≠ .closed)
    fun row => { row with state := .closed, closed := some data, closing := none }
  { store with fundingCache := store.fundingCache.erase channelId }

end Database

/-- The stores over SQLite. What a language makes of the row of a variable is its own. -/
def sqliteStores (shown : String → Option Counter → Option Counter) :
    SpilmanStores F D (Database F D) where
  getFunding := Database.getFunding
  insertFunding := Database.insertFunding
  getBalance := Database.getBalance
  updateBalance := Database.updateBalance
  getUsage := fun store channelId var => shown var (store.usage.lookup (channelId, var))
  incrementUsage := Database.incrementUsage
  isClosing := Database.hasState .closing
  markClosing := Database.markClosing
  getClosingData := Database.getClosingData
  isClosed := Database.hasState .closed
  markClosed := Database.markClosed

/-! ## What both show of a channel -/

/-- What is on record about a channel. -/
structure ChannelEntry (F : Type) where
  funding : Option F
  balance : Option PaymentProof
  closing : Option ClosingData
  closed : Bool

namespace ChannelEntry

/-- The first funding stays. -/
def insertFunding (funding : F) (entry : ChannelEntry F) : ChannelEntry F :=
  { entry with funding := some (entry.funding.getD funding) }

/-- A payment is larger than the one on record. -/
def Exceeds (payment : PaymentProof) (entry : ChannelEntry F) : Prop :=
  ∀ old ∈ entry.balance, old.balance < payment.balance

instance (payment : PaymentProof) (entry : ChannelEntry F) : Decidable (entry.Exceeds payment) :=
  inferInstanceAs (Decidable (∀ old ∈ entry.balance, _))

/-- Only a larger payment is recorded. -/
def pay (payment : PaymentProof) (entry : ChannelEntry F) : ChannelEntry F :=
  if entry.Exceeds payment then { entry with balance := some payment } else entry

theorem pay_of_exceeds {payment : PaymentProof} {entry : ChannelEntry F}
    (exceeds : entry.Exceeds payment) :
    entry.pay payment = { entry with balance := some payment } :=
  if_pos exceeds

@[simp]
theorem funding_pay (payment : PaymentProof) (entry : ChannelEntry F) :
    (entry.pay payment).funding = entry.funding := by
  unfold pay
  split_ifs <;> rfl

@[simp]
theorem closed_pay (payment : PaymentProof) (entry : ChannelEntry F) :
    (entry.pay payment).closed = entry.closed := by
  unfold pay
  split_ifs <;> rfl

/-- After paying there is a payment on record. -/
theorem isSome_balance_pay (payment : PaymentProof) (entry : ChannelEntry F) :
    (entry.pay payment).balance.isSome := by
  unfold pay
  split_ifs with exceeds
  · rfl
  · cases recorded : entry.balance with
    | some old => rfl
    | none => exact absurd (fun old found => absurd (recorded.symm.trans found) (by simp)) exceeds

theorem pay_of_le {payment : PaymentProof} {entry : ChannelEntry F} {old : PaymentProof}
    (recorded : entry.balance = some old) (small : payment.balance ≤ old.balance) :
    entry.pay payment = entry :=
  if_neg fun exceeds => absurd (exceeds old recorded) (not_lt.mpr small)

/-- Only the payment on record matters. -/
theorem balance_pay_congr {payment : PaymentProof} {entry entry' : ChannelEntry F}
    (same : entry.balance = entry'.balance) :
    (entry.pay payment).balance = (entry'.pay payment).balance := by
  have sameCondition : entry.Exceeds payment ↔ entry'.Exceeds payment := by
    rw [Exceeds, same, Exceeds]
  by_cases exceeds : entry'.Exceeds payment
  · rw [pay_of_exceeds exceeds, pay_of_exceeds (sameCondition.mpr exceeds)]
  · rw [pay, if_neg (mt sameCondition.mp exceeds), pay, if_neg exceeds, same]

theorem keeps_pay (payment : PaymentProof) (entry : ChannelEntry F) :
    ∀ old ∈ entry.balance, ∃ new ∈ (entry.pay payment).balance, old.balance ≤ new.balance := by
  intro old recorded
  by_cases exceeds : entry.Exceeds payment
  · rw [pay_of_exceeds exceeds]
    exact ⟨payment, rfl, (exceeds old recorded).le⟩
  · rw [pay, if_neg exceeds]
    exact ⟨old, recorded, le_rfl⟩

def startClosing (data : ClosingData) (entry : ChannelEntry F) : ChannelEntry F :=
  { entry with closing := some data }

def finishClosing (entry : ChannelEntry F) : ChannelEntry F :=
  { entry with closed := true, closing := none }

end ChannelEntry

def MemoryStores.entry (store : MemoryStores F D) (channelId : String) : ChannelEntry F :=
  ⟨store.funding.lookup channelId, store.balance.lookup channelId,
    store.closing.lookup channelId, (store.closed.lookup channelId).isSome⟩

/-- What the row of a channel shows. -/
def Row.entry : Option (Row F D) → ChannelEntry F
  | none => ⟨none, none, none, false⟩
  | some row =>
      ⟨some row.funding, if row.signature ≠ "" then some ⟨row.balance, row.signature⟩ else none,
        if row.state = .closing then row.closing else none, row.state = .closed⟩

def Database.entry (store : Database F D) (channelId : String) : ChannelEntry F :=
  Row.entry (store.channels.lookup channelId)

namespace Database

variable {store : Database F D} {channelId other : String}

theorem getBalance_eq : store.getBalance channelId = (store.entry channelId).balance := by
  unfold getBalance entry Row.entry
  cases store.channels.lookup channelId with
  | none => rfl
  | some row => by_cases signed : row.signature = "" <;> simp [signed]

theorem getClosingData_eq : store.getClosingData channelId = (store.entry channelId).closing := by
  unfold getClosingData entry Row.entry
  cases store.channels.lookup channelId with
  | none => rfl
  | some row => by_cases closing : row.state = .closing <;> simp [Option.filter_some, closing]

theorem isClosed_eq : store.hasState .closed channelId = (store.entry channelId).closed := by
  unfold hasState entry Row.entry
  cases store.channels.lookup channelId <;> rfl

/-- A payment that is shown is signed. -/
theorem signed_entry : ∀ old ∈ (store.entry channelId).balance, old.signature ≠ "" := by
  unfold entry Row.entry
  cases store.channels.lookup channelId with
  | none => simp
  | some row => by_cases unsigned : row.signature = "" <;> simp [unsigned]

/-- A row has closing data exactly while it is closing, and the cache holds what the rows do. -/
structure Consistent (store : Database F D) : Prop where
  closing : ∀ channelId, ∀ row ∈ store.channels.lookup channelId,
    row.state = .closing ↔ row.closing.isSome
  cached : ∀ channelId, ∀ funding ∈ store.fundingCache.lookup channelId,
    (store.channels.lookup channelId).map Row.funding = some funding

theorem consistent_new : (new : Database F D).Consistent :=
  ⟨fun _ _ none => absurd none (by simp [new]), fun _ _ none => absurd none (by simp [new])⟩

theorem Consistent.isClosing_eq (consistent : store.Consistent) :
    store.hasState .closing channelId = (store.entry channelId).closing.isSome := by
  have kept := consistent.closing channelId
  unfold hasState entry Row.entry
  cases stored : store.channels.lookup channelId with
  | none => rfl
  | some row =>
      by_cases closing : row.state = .closing
      · simpa [closing] using ((kept row stored).mp closing).symm
      · simp [closing]

theorem Consistent.getFunding_eq (consistent : store.Consistent) :
    (store.getFunding channelId).1 = (store.entry channelId).funding := by
  have same : (store.entry channelId).funding =
      (store.channels.lookup channelId).map Row.funding := by
    unfold entry Row.entry
    cases store.channels.lookup channelId <;> rfl
  rw [same, getFunding]
  cases cached : store.fundingCache.lookup channelId with
  | some funding => exact (consistent.cached channelId funding cached).symm
  | none => cases store.channels.lookup channelId <;> rfl

/-! Each statement, on what is shown. -/

theorem lookup_updateRow {condition : Row F D → Bool} {change : Row F D → Row F D} :
    (store.updateRow channelId condition change).channels.lookup other =
      if other = channelId then
        (store.channels.lookup channelId).map fun row => if condition row then change row else row
      else store.channels.lookup other := by
  unfold updateRow
  cases stored : store.channels.lookup channelId with
  | none =>
      split_ifs with same
      · rw [same]
        exact stored
      · rfl
  | some row =>
      by_cases meets : condition row
      · simp only [Option.filter_some, meets, if_true, Option.map_some]
        split_ifs with same
        · rw [same, AList.lookup_insert]
        · rw [AList.lookup_insert_ne same]
      · rw [Bool.not_eq_true] at meets
        simp only [Option.filter_some, meets, Bool.false_eq_true, if_false, Option.map_some]
        split_ifs with same
        · rw [same]
          exact stored
        · rfl

theorem fundingCache_updateRow {condition : Row F D → Bool} {change : Row F D → Row F D} :
    (store.updateRow channelId condition change).fundingCache = store.fundingCache := by
  unfold updateRow
  cases (store.channels.lookup channelId).filter condition <;> rfl

theorem usage_updateRow {condition : Row F D → Bool} {change : Row F D → Row F D} :
    (store.updateRow channelId condition change).usage = store.usage := by
  unfold updateRow
  cases (store.channels.lookup channelId).filter condition <;> rfl

/-- An update keeps the database consistent if it keeps the funding and leaves closing data
to closing rows. -/
theorem Consistent.updateRow (consistent : store.Consistent) {condition : Row F D → Bool}
    {change : Row F D → Row F D} (funding : ∀ row, (change row).funding = row.funding)
    (closing : ∀ row, (row.state = .closing ↔ row.closing.isSome) →
      ((change row).state = .closing ↔ (change row).closing.isSome)) :
    (store.updateRow channelId condition change).Consistent where
  closing := fun other row stored => by
    rw [lookup_updateRow] at stored
    split_ifs at stored
    · obtain ⟨old, found, rfl⟩ := Option.map_eq_some_iff.mp stored
      have kept := consistent.closing channelId old found
      split_ifs
      · exact closing old kept
      · exact kept
    · exact consistent.closing other row stored
  cached := fun other funding' cached => by
    rw [fundingCache_updateRow] at cached
    have kept := consistent.cached other funding' cached
    rw [lookup_updateRow]
    split_ifs with same
    · rw [← kept, same, Option.map_map]
      refine congrArg (Option.map · _) (funext fun row => ?_)
      show (if condition row then change row else row).funding = row.funding
      split_ifs
      · exact funding row
      · rfl
    · exact kept

/-- Dropping entries of the cache keeps the database consistent. -/
theorem Consistent.eraseCached (consistent : store.Consistent) (channelId : String) :
    ({ store with fundingCache := store.fundingCache.erase channelId } :
      Database F D).Consistent where
  closing := consistent.closing
  cached := fun other funding cached => by
    by_cases same : other = channelId
    · subst same
      rw [AList.lookup_erase] at cached
      cases cached
    · rw [AList.lookup_erase_ne same] at cached
      exact consistent.cached other funding cached

theorem Consistent.getFunding (consistent : store.Consistent) (channelId : String) :
    (store.getFunding channelId).2.Consistent := by
  unfold Database.getFunding
  cases cached : store.fundingCache.lookup channelId with
  | some funding => exact consistent
  | none =>
      cases stored : store.channels.lookup channelId with
      | none => exact consistent
      | some row =>
          refine ⟨consistent.closing, fun other funding cached => ?_⟩
          by_cases same : other = channelId
          · subst same
            rw [AList.lookup_insert] at cached
            cases cached
            exact congrArg (Option.map Row.funding) stored
          · rw [AList.lookup_insert_ne same] at cached
            exact consistent.cached other funding cached

theorem Consistent.insertFunding (consistent : store.Consistent) (channelId : String)
    (funding : F) : (store.insertFunding channelId funding).Consistent := by
  unfold Database.insertFunding
  split_ifs
  · exact consistent.eraseCached channelId
  · refine ⟨fun other row stored => ?_, fun other funding' cached => ?_⟩ <;>
      dsimp only at * <;> by_cases same : other = channelId
    · subst same
      rw [AList.lookup_insert] at stored
      cases stored
      simp
    · rw [AList.lookup_insert_ne same] at stored
      exact consistent.closing other row stored
    · subst same
      rw [AList.lookup_insert] at cached ⊢
      exact cached
    · rw [AList.lookup_insert_ne same] at cached ⊢
      exact consistent.cached other funding' cached

theorem Consistent.updateBalance (consistent : store.Consistent) (channelId : String)
    (payment : PaymentProof) : (store.updateBalance channelId payment).Consistent :=
  consistent.updateRow (fun _ => rfl) fun _ kept => kept

theorem Consistent.markClosing (consistent : store.Consistent) (channelId : String)
    (data : ClosingData) : (store.markClosing channelId data).Consistent :=
  consistent.updateRow (fun _ => rfl) fun _ _ => by simp

theorem Consistent.markClosed (consistent : store.Consistent) (channelId : String) (data : D) :
    (store.markClosed channelId data).Consistent := by
  have closed : (store.updateRow channelId (fun row => row.state ≠ .closed) fun row =>
      { row with state := .closed, closed := some data, closing := none }).Consistent :=
    consistent.updateRow (fun _ => rfl) fun _ _ => by simp
  exact closed.eraseCached channelId

theorem Consistent.incrementUsage (consistent : store.Consistent) (channelId : String)
    (increments : UsageMap) : (store.incrementUsage channelId increments).Consistent :=
  ⟨consistent.closing, consistent.cached⟩

theorem entry_updateRow {condition : Row F D → Bool} {change : Row F D → Row F D} :
    (store.updateRow channelId condition change).entry = Function.update store.entry channelId
      (Row.entry ((store.channels.lookup channelId).map fun row =>
        if condition row then change row else row)) := by
  funext other
  rw [Function.update_apply, entry, lookup_updateRow]
  split_ifs <;> rfl

theorem entry_insertFunding (funding : F) : (store.insertFunding channelId funding).entry =
    Function.update store.entry channelId
      ((store.entry channelId).insertFunding funding) := by
  funext other
  rw [Function.update_apply, insertFunding]
  split_ifs with stored same same
  · obtain ⟨row, found⟩ := Option.isSome_iff_exists.mp (AList.lookup_isSome.mpr stored)
    rw [same, entry, entry, found]
    rfl
  · rfl
  · have absent : store.channels.lookup channelId = none := AList.lookup_eq_none.mpr stored
    rw [same, entry, entry, AList.lookup_insert, absent]
    rfl
  · rw [entry, AList.lookup_insert_ne same, entry]

theorem exists_row_of_funded (funded : (store.entry channelId).funding.isSome) :
    ∃ row, store.channels.lookup channelId = some row := by
  cases stored : store.channels.lookup channelId with
  | none =>
      rw [entry, stored] at funded
      cases funded
  | some row => exact ⟨row, rfl⟩

theorem entry_updateBalance (funded : (store.entry channelId).funding.isSome)
    {payment : PaymentProof} (signed : payment.signature ≠ "") :
    (store.updateBalance channelId payment).entry =
      Function.update store.entry channelId ((store.entry channelId).pay payment) := by
  obtain ⟨row, stored⟩ := exists_row_of_funded funded
  rw [updateBalance, entry_updateRow, entry, stored]
  congr 1
  by_cases unsigned : row.signature = ""
  · simp [Row.entry, ChannelEntry.pay, ChannelEntry.Exceeds, unsigned, signed]
  · by_cases larger : row.balance < payment.balance
    · simp [Row.entry, ChannelEntry.pay, ChannelEntry.Exceeds, unsigned, signed, larger]
    · simp [Row.entry, ChannelEntry.pay, ChannelEntry.Exceeds, unsigned, larger]

theorem entry_markClosing (funded : (store.entry channelId).funding.isSome)
    (unclosed : (store.entry channelId).closed = false) (data : ClosingData) :
    (store.markClosing channelId data).entry =
      Function.update store.entry channelId ((store.entry channelId).startClosing data) := by
  obtain ⟨row, stored⟩ := exists_row_of_funded funded
  rw [entry, stored] at unclosed
  have state : row.state ≠ .closed := of_decide_eq_false unclosed
  rw [markClosing, entry_updateRow, entry, stored]
  congr 1
  simp [Row.entry, ChannelEntry.startClosing, state]

theorem entry_markClosed (funded : (store.entry channelId).funding.isSome)
    (unclosed : (store.entry channelId).closed = false) (data : D) :
    (store.markClosed channelId data).entry =
      Function.update store.entry channelId (store.entry channelId).finishClosing := by
  obtain ⟨row, stored⟩ := exists_row_of_funded funded
  rw [entry, stored] at unclosed
  have state : row.state ≠ .closed := of_decide_eq_false unclosed
  refine entry_updateRow.trans ?_
  rw [entry, stored]
  congr 1
  simp [Row.entry, ChannelEntry.finishClosing, state]

theorem entry_getFunding : (store.getFunding channelId).2.entry = store.entry := by
  unfold getFunding
  cases store.fundingCache.lookup channelId with
  | some funding => rfl
  | none => cases store.channels.lookup channelId <;> rfl

theorem usage_getFunding : (store.getFunding channelId).2.usage = store.usage := by
  unfold getFunding
  cases store.fundingCache.lookup channelId with
  | some funding => rfl
  | none => cases store.channels.lookup channelId <;> rfl

theorem usage_insertFunding {funding : F} :
    (store.insertFunding channelId funding).usage = store.usage := by
  unfold insertFunding
  split_ifs <;> rfl

end Database

namespace MemoryStores

theorem usage_insertFunding (channelId : String) (funding : F) (store : MemoryStores F D) :
    (store.insertFunding channelId funding).usage = store.usage := by
  unfold insertFunding
  split_ifs <;> rfl

theorem usage_setClosing (channelId : String) (data : ClosingData) (store : MemoryStores F D) :
    (store.setClosing channelId data).usage = store.usage :=
  rfl

theorem usage_moveToClosed (channelId : String) (data : D) (store : MemoryStores F D) :
    (store.moveToClosed channelId data).usage = store.usage :=
  rfl

variable {store : MemoryStores F D} {channelId : String}

theorem usageOf_incrementUsage {fresh : Table String Counter}
    {combine : Option Counter → Nat → Counter} {increments : UsageMap} :
    (store.incrementUsage fresh combine channelId increments).usageOf fresh channelId =
      Table.merge id combine increments.entries (store.usageOf fresh channelId) := by
  simp only [usageOf, incrementUsage, AList.lookup_insert, Option.getD_some]

theorem usageOf_incrementUsage_of_ne {other : String} (apart : other ≠ channelId)
    {fresh : Table String Counter} {combine : Option Counter → Nat → Counter}
    {increments : UsageMap} :
    (store.incrementUsage fresh combine channelId increments).usageOf fresh other =
      store.usageOf fresh other := by
  simp only [usageOf, incrementUsage, AList.lookup_insert_ne apart]

theorem entry_insertFunding (funding : F) : (store.insertFunding channelId funding).entry =
    Function.update store.entry channelId
      ((store.entry channelId).insertFunding funding) := by
  funext other
  rw [Function.update_apply, insertFunding]
  split_ifs with stored same same
  · obtain ⟨old, found⟩ := Option.isSome_iff_exists.mp (AList.lookup_isSome.mpr stored)
    subst same
    simp only [entry, ChannelEntry.insertFunding, found, Option.getD_some]
  · rfl
  · have absent : store.funding.lookup channelId = none := AList.lookup_eq_none.mpr stored
    subst same
    simp only [entry, ChannelEntry.insertFunding, absent, AList.lookup_insert, Option.getD_none]
  · simp only [entry, AList.lookup_insert_ne same]

theorem entry_setBalance (payment : PaymentProof) : (store.setBalance channelId payment).entry =
    Function.update store.entry channelId
      { store.entry channelId with balance := some payment } := by
  funext other
  rw [Function.update_apply]
  split_ifs with same
  · subst same
    simp only [entry, setBalance, AList.lookup_insert]
  · simp only [entry, setBalance, AList.lookup_insert_ne same]

theorem entry_setBalance_of_exceeds {payment : PaymentProof}
    (exceeds : (store.entry channelId).Exceeds payment) :
    (store.setBalance channelId payment).entry =
      Function.update store.entry channelId ((store.entry channelId).pay payment) := by
  rw [ChannelEntry.pay_of_exceeds exceeds, entry_setBalance]

/-- Paying no more than is on record changes nothing. -/
theorem update_pay_of_le {payment old : PaymentProof}
    (recorded : store.balance.lookup channelId = some old)
    (small : payment.balance ≤ old.balance) :
    store.entry = Function.update store.entry channelId
      ((store.entry channelId).pay payment) := by
  rw [ChannelEntry.pay_of_le recorded small, Function.update_eq_self]

theorem exceeds_of_none {payment : PaymentProof}
    (unpaid : store.balance.lookup channelId = none) :
    (store.entry channelId).Exceeds payment :=
  fun _ found => absurd (unpaid.symm.trans found) (by simp)

theorem exceeds_of_lt {payment old : PaymentProof}
    (recorded : store.balance.lookup channelId = some old)
    (larger : old.balance < payment.balance) : (store.entry channelId).Exceeds payment := by
  intro other found
  obtain rfl := Option.some.inj (recorded.symm.trans found)
  exact larger

theorem entry_setClosing (data : ClosingData) : (store.setClosing channelId data).entry =
    Function.update store.entry channelId ((store.entry channelId).startClosing data) := by
  funext other
  rw [Function.update_apply]
  split_ifs with same
  · subst same
    simp only [entry, setClosing, ChannelEntry.startClosing, AList.lookup_insert]
  · simp only [entry, setClosing, AList.lookup_insert_ne same]

theorem entry_moveToClosed (data : D) : (store.moveToClosed channelId data).entry =
    Function.update store.entry channelId (store.entry channelId).finishClosing := by
  funext other
  rw [Function.update_apply]
  split_ifs with same
  · subst same
    simp only [entry, moveToClosed, ChannelEntry.finishClosing, AList.lookup_insert,
      AList.lookup_erase, Option.isSome_some]
  · simp only [entry, moveToClosed, AList.lookup_insert_ne same, AList.lookup_erase_ne same]

end MemoryStores

/-! ## What a host does to the records -/

/-- The host on what is on record about each channel: the first funding stays, only a larger
payment is recorded, and a closed channel stays closed. -/
def Kit.spec (kit : Kit T F A D α) :
    Machine (HostCall T F A) (Except String Unit) (String → ChannelEntry F)
  | .saveFunding channelId funding initial, entries =>
      (.ok (), Function.update entries channelId
        (((entries channelId).insertFunding funding).pay initial))
  | .recordPayment channelId payment context, entries =>
      match kit.increments context with
      | .error error => (.error error, entries)
      | .ok _ => (.ok (), Function.update entries channelId ((entries channelId).pay payment))
  | .markChannelClosing channelId data, entries =>
      if (entries channelId).closed then (.error "channel already closed", entries)
      else (.ok (), Function.update entries channelId
        (((entries channelId).pay data.payment).startClosing data))
  | .markChannelClosed channelId closed, entries =>
      if (entries channelId).closed then (.error "channel already closed", entries)
      else
        match kit.closedData closed with
        | .error error => (.error error, entries)
        | .ok _ => (.ok (), Function.update entries channelId (entries channelId).finishClosing)
  | .getFundingAndParams _, entries => (.ok (), entries)

/-- Only funded channels are paid and closed, and every payment is signed. -/
def HostCall.Meant (entries : String → ChannelEntry F) : HostCall T F A → Prop
  | .saveFunding _ _ initial => initial.signature ≠ ""
  | .recordPayment channelId payment _ =>
      (entries channelId).funding.isSome ∧ payment.signature ≠ ""
  | .markChannelClosing channelId data =>
      (entries channelId).funding.isSome ∧ data.signature ≠ ""
  | .markChannelClosed channelId _ => (entries channelId).funding.isSome
  | .getFundingAndParams _ => True

instance (entries : String → ChannelEntry F) :
    ∀ call : HostCall T F A, Decidable (call.Meant entries)
  | .saveFunding _ _ _ => inferInstanceAs (Decidable (_ ≠ _))
  | .recordPayment _ _ _ => inferInstanceAs (Decidable (_ ∧ _))
  | .markChannelClosing _ _ => inferInstanceAs (Decidable (_ ∧ _))
  | .markChannelClosed _ _ => inferInstanceAs (Decidable (_ = _))
  | .getFundingAndParams _ => isTrue trivial

/-- Every funded channel has a payment on record. -/
def Paid (entries : String → ChannelEntry F) : Prop :=
  ∀ channelId, (entries channelId).funding.isSome → (entries channelId).balance.isSome

namespace Kit

variable (kit : Kit T F A D α)

/-- A call changes what is on record of one channel at most. It pays, or leaves funding and
payment alone. -/
theorem spec_cases (call : HostCall T F A) (entries : String → ChannelEntry F) :
    (kit.spec call entries).2 = entries ∨
      ∃ channelId entry, (kit.spec call entries).2 = Function.update entries channelId entry ∧
        ((∃ payment, entry.balance = ((entries channelId).pay payment).balance) ∨
          entry.funding = (entries channelId).funding ∧
            entry.balance = (entries channelId).balance) := by
  cases call with
  | saveFunding channelId funding initial =>
      refine .inr ⟨channelId, _, rfl, .inl ⟨initial, ?_⟩⟩
      exact ChannelEntry.balance_pay_congr rfl
  | recordPayment channelId payment context =>
      cases read : kit.increments context with
      | error error =>
          simp only [spec, read]
          exact .inl trivial
      | ok increments =>
          simp only [spec, read]
          exact .inr ⟨channelId, _, rfl, .inl ⟨payment, rfl⟩⟩
  | markChannelClosing channelId data =>
      cases closed : (entries channelId).closed with
      | true =>
          simp only [spec, closed, if_true]
          exact .inl trivial
      | false =>
          simp only [spec, closed, Bool.false_eq_true, if_false]
          exact .inr ⟨channelId, _, rfl, .inl ⟨data.payment, rfl⟩⟩
  | markChannelClosed channelId closing =>
      cases closed : (entries channelId).closed with
      | true =>
          simp only [spec, closed, if_true]
          exact .inl trivial
      | false =>
          cases made : kit.closedData closing with
          | error error =>
              simp only [spec, closed, made, Bool.false_eq_true, if_false]
              exact .inl trivial
          | ok data =>
              simp only [spec, closed, made, Bool.false_eq_true, if_false]
              exact .inr ⟨channelId, _, rfl, .inr ⟨rfl, rfl⟩⟩
  | getFundingAndParams channelId => exact .inl rfl

theorem paid_spec {entries : String → ChannelEntry F} (paid : Paid entries)
    (call : HostCall T F A) : Paid (kit.spec call entries).2 := by
  rcases kit.spec_cases call entries with unchanged | ⟨channelId, entry, changed, how⟩
  · rw [unchanged]
    exact paid
  · intro other
    rw [changed, Function.update_apply]
    split_ifs with same
    · rcases how with ⟨payment, pays⟩ | ⟨sameFunding, sameBalance⟩
      · intro _
        rw [pays]
        exact ChannelEntry.isSome_balance_pay payment _
      · rw [sameFunding, sameBalance]
        exact paid channelId
    · exact paid other

/-- A payment on record is never replaced by a smaller one. -/
theorem keeps_spec (call : HostCall T F A) (entries : String → ChannelEntry F)
    (channelId : String) : ∀ old ∈ (entries channelId).balance,
      ∃ new ∈ ((kit.spec call entries).2 channelId).balance, old.balance ≤ new.balance := by
  intro old recorded
  rcases kit.spec_cases call entries with unchanged | ⟨other, entry, changed, how⟩
  · rw [unchanged]
    exact ⟨old, recorded, le_rfl⟩
  · rw [changed, Function.update_apply]
    split_ifs with same
    · subst same
      rcases how with ⟨payment, pays⟩ | ⟨-, sameBalance⟩
      · rw [pays]
        exact ChannelEntry.keeps_pay payment _ old recorded
      · rw [sameBalance]
        exact ⟨old, recorded, le_rfl⟩
    · exact ⟨old, recorded, le_rfl⟩

/-- Recording a payment is paying, if the stores pay whenever they are asked to. -/
theorem entry_recordBalance {stores : SpilmanStores F D σ} {entry : σ → String → ChannelEntry F}
    {store : σ} {channelId : String} {payment : PaymentProof}
    (reads : stores.getBalance store channelId = (entry store channelId).balance)
    (recorded : (entry store channelId).balance.isSome)
    (updates : kit.recordBalance stores channelId payment store =
        stores.updateBalance channelId payment store →
      entry (stores.updateBalance channelId payment store) =
        Function.update (entry store) channelId ((entry store channelId).pay payment)) :
    entry (kit.recordBalance stores channelId payment store) =
      Function.update (entry store) channelId ((entry store channelId).pay payment) := by
  rcases kit.recordBalance_cases stores channelId payment store with handed | ⟨kept, small⟩
  · rw [handed]
    exact updates handed
  · obtain ⟨old, found⟩ := Option.isSome_iff_exists.mp recorded
    rw [kept, ChannelEntry.pay_of_le found (small old (reads.trans found)),
      Function.update_eq_self]

/-- The stores write what a call asks for. -/
def Follows (stores : SpilmanStores F D σ) (entry : σ → String → ChannelEntry F) :
    HostCall T F A → σ → Prop
  | .saveFunding channelId funding initial, store =>
      let inserted := stores.insertFunding channelId funding store
      entry inserted = Function.update (entry store) channelId
          ((entry store channelId).insertFunding funding) ∧
        entry (stores.updateBalance channelId initial inserted) =
          Function.update (entry inserted) channelId ((entry inserted channelId).pay initial)
  | .recordPayment channelId payment context, store =>
      ∀ increments, kit.increments context = .ok increments →
        entry (kit.recordBalance stores channelId payment
            (stores.incrementUsage channelId increments store)) =
          Function.update (entry store) channelId ((entry store channelId).pay payment)
  | .markChannelClosing channelId data, store =>
      stores.isClosed store channelId = (entry store channelId).closed ∧
        ((entry store channelId).closed = false →
          let paid := stores.updateBalance channelId data.payment store
          entry paid = Function.update (entry store) channelId
              ((entry store channelId).pay data.payment) ∧
            entry (stores.markClosing channelId data paid) =
              Function.update (entry paid) channelId ((entry paid channelId).startClosing data))
  | .markChannelClosed channelId closing, store =>
      stores.isClosed store channelId = (entry store channelId).closed ∧
        ((entry store channelId).closed = false → ∀ data, kit.closedData closing = .ok data →
          entry (stores.markClosed channelId data store) =
            Function.update (entry store) channelId (entry store channelId).finishClosing)
  | .getFundingAndParams channelId, store =>
      entry (stores.getFunding channelId store).2 = entry store

/-- A host whose stores write what it asks for does what it should. -/
theorem host_of_follows {stores : SpilmanStores F D σ} {entry : σ → String → ChannelEntry F}
    {call : HostCall T F A} {store : σ} (follows : kit.Follows stores entry call store) :
    (kit.host stores call store).1 = (kit.spec call (entry store)).1 ∧
      entry (kit.host stores call store).2 = (kit.spec call (entry store)).2 := by
  cases call with
  | saveFunding channelId funding initial =>
      obtain ⟨inserted, paid⟩ := follows
      refine ⟨rfl, paid.trans ?_⟩
      rw [inserted, Function.update_self, Function.update_idem]
      rfl
  | recordPayment channelId payment context =>
      cases read : kit.increments context with
      | error error =>
          simp only [host, spec, recordPayment, read]
          exact ⟨trivial, trivial⟩
      | ok increments =>
          simp only [host, spec, recordPayment, read]
          exact ⟨trivial, follows increments read⟩
  | markChannelClosing channelId data =>
      obtain ⟨same, writes⟩ := follows
      cases closed : (entry store channelId).closed with
      | true =>
          simp only [host, spec, SpilmanStores.markChannelClosing, same, closed, if_true]
          exact ⟨trivial, trivial⟩
      | false =>
          obtain ⟨paid, marked⟩ := writes closed
          simp only [host, spec, SpilmanStores.markChannelClosing_of_unclosed (same.trans closed),
            closed, Bool.false_eq_true, if_false]
          refine ⟨trivial, marked.trans ?_⟩
          rw [paid, Function.update_self, Function.update_idem]
  | markChannelClosed channelId closing =>
      obtain ⟨same, writes⟩ := follows
      cases closed : (entry store channelId).closed with
      | true =>
          simp only [host, spec, SpilmanStores.markChannelClosed, same, closed, if_true]
          exact ⟨trivial, trivial⟩
      | false =>
          cases made : kit.closedData closing with
          | error error =>
              simp only [host, spec, SpilmanStores.markChannelClosed, same, closed, made,
                Bool.false_eq_true, if_false]
              exact ⟨trivial, trivial⟩
          | ok data =>
              simp only [host, spec, made, closed, Bool.false_eq_true, if_false,
                SpilmanStores.markChannelClosed_of_unclosed (same.trans closed)]
              exact ⟨trivial, writes closed data made⟩
  | getFundingAndParams channelId => exact ⟨rfl, follows⟩

/-- Such a host keeps the largest payment. -/
theorem keeps_of_follows {stores : SpilmanStores F D σ} {entry : σ → String → ChannelEntry F}
    (reads : ∀ store channelId,
      stores.getBalance store channelId = (entry store channelId).balance)
    {call : HostCall T F A} {store : σ} (follows : kit.Follows stores entry call store) :
    kit.Keeps stores call store := by
  intro channelId
  rw [reads, reads, (kit.host_of_follows follows).2]
  exact kit.keeps_spec call (entry store) channelId

/-- What a call adds to the usage of a channel. -/
def counted : HostCall T F A → Option (String × UsageMap)
  | .recordPayment channelId _ context =>
      match kit.increments context with
      | .error _ => none
      | .ok increments => some (channelId, increments)
  | _ => none

theorem counted_eq_some {call : HostCall T F A} {channelId : String} {increments : UsageMap}
    (counted : kit.counted call = some (channelId, increments)) :
    ∃ payment context, call = .recordPayment channelId payment context ∧
      kit.increments context = .ok increments := by
  cases call with
  | recordPayment channelId payment context =>
      cases read : kit.increments context with
      | error error =>
          simp only [Kit.counted, read] at counted
          cases counted
      | ok increments =>
          simp only [Kit.counted, read, Option.some.injEq, Prod.mk.injEq] at counted
          obtain ⟨rfl, rfl⟩ := counted
          exact ⟨payment, context, rfl, read⟩
  | _ => cases counted

end Kit

/-! ## The host over SQLite -/

section Sqlite

variable (kit : Kit T F A D α) (shown : String → Option Counter → Option Counter)
  {store : Database F D} {call : HostCall T F A}

/-- The tables are written as a host asks for. -/
theorem follows_sqlite (paid : Paid store.entry) (meant : call.Meant store.entry) :
    kit.Follows (sqliteStores shown) Database.entry call store := by
  cases call with
  | saveFunding channelId funding initial =>
      have inserted : (store.insertFunding channelId funding).entry = _ :=
        Database.entry_insertFunding funding
      refine ⟨inserted, Database.entry_updateBalance ?_ meant⟩
      show ((store.insertFunding channelId funding).entry channelId).funding.isSome
      rw [inserted, Function.update_self]
      rfl
  | recordPayment channelId payment context =>
      obtain ⟨funded, signed⟩ := meant
      intro increments _
      have stillFunded : ((store.incrementUsage channelId increments).entry
          channelId).funding.isSome := funded
      have updated := Database.entry_updateBalance stillFunded signed
      exact kit.entry_recordBalance Database.getBalance_eq (paid channelId funded) fun _ => updated
  | markChannelClosing channelId data =>
      obtain ⟨funded, signed⟩ := meant
      refine ⟨Database.isClosed_eq, fun unclosed => ?_⟩
      have updated : (store.updateBalance channelId data.payment).entry = _ :=
        Database.entry_updateBalance funded signed
      refine ⟨updated, Database.entry_markClosing ?_ ?_ data⟩
      · show ((store.updateBalance channelId data.payment).entry channelId).funding.isSome
        rw [updated, Function.update_self, ChannelEntry.funding_pay]
        exact funded
      · show ((store.updateBalance channelId data.payment).entry channelId).closed = false
        rw [updated, Function.update_self, ChannelEntry.closed_pay]
        exact unclosed
  | markChannelClosed channelId closing =>
      exact ⟨Database.isClosed_eq, fun unclosed data _ =>
        Database.entry_markClosed meant unclosed data⟩
  | getFundingAndParams channelId => exact Database.entry_getFunding

theorem consistent_host (consistent : store.Consistent) :
    (kit.host (sqliteStores shown) call store).2.Consistent := by
  cases call with
  | saveFunding channelId funding initial =>
      exact (consistent.insertFunding channelId funding).updateBalance channelId initial
  | recordPayment channelId payment context =>
      simp only [Kit.host, Kit.recordPayment]
      cases kit.increments context with
      | error error => exact consistent
      | ok increments =>
          have counted := consistent.incrementUsage channelId increments
          show (kit.recordBalance (sqliteStores shown) channelId payment
            (store.incrementUsage channelId increments)).Consistent
          rcases kit.recordBalance_cases (sqliteStores shown) channelId payment
            (store.incrementUsage channelId increments) with handed | ⟨kept, -⟩
          · rw [handed]
            exact counted.updateBalance channelId payment
          · rwa [kept]
  | markChannelClosing channelId data =>
      simp only [Kit.host, SpilmanStores.markChannelClosing]
      split_ifs
      · exact consistent
      · exact (consistent.updateBalance channelId data.payment).markClosing channelId data
  | markChannelClosed channelId closing =>
      simp only [Kit.host, SpilmanStores.markChannelClosed]
      split_ifs
      · exact consistent
      · cases kit.closedData closing with
        | error error => exact consistent
        | ok data => exact consistent.markClosed channelId data
  | getFundingAndParams channelId => exact consistent.getFunding channelId

end Sqlite

/-! ## What a call counts -/

section Usage

variable (kit : Kit T F A D α)

/-- Over stores that keep usage apart from everything else, only what is counted changes it. -/
theorem usage_host {υ : Type} (stores : SpilmanStores F D σ) (usage : σ → υ)
    (getFunding : ∀ channelId store, usage (stores.getFunding channelId store).2 = usage store)
    (insertFunding : ∀ channelId funding store,
      usage (stores.insertFunding channelId funding store) = usage store)
    (updateBalance : ∀ channelId payment store,
      usage (stores.updateBalance channelId payment store) = usage store)
    (markClosing : ∀ channelId data store,
      usage (stores.markClosing channelId data store) = usage store)
    (markClosed : ∀ channelId data store,
      usage (stores.markClosed channelId data store) = usage store)
    (call : HostCall T F A) (store : σ) :
    usage (kit.host stores call store).2 =
      match kit.counted call with
      | none => usage store
      | some (channelId, increments) =>
          usage (stores.incrementUsage channelId increments store) := by
  cases call with
  | saveFunding channelId funding initial =>
      exact (updateBalance _ _ _).trans (insertFunding _ _ _)
  | recordPayment channelId payment context =>
      simp only [Kit.host, Kit.recordPayment, Kit.counted]
      cases kit.increments context with
      | error error => rfl
      | ok increments =>
          dsimp only
          rcases kit.recordBalance_cases stores channelId payment
            (stores.incrementUsage channelId increments store) with handed | ⟨kept, -⟩
          · rw [handed, updateBalance]
          · rw [kept]
  | markChannelClosing channelId data =>
      simp only [Kit.host, SpilmanStores.markChannelClosing, Kit.counted]
      split_ifs
      · rfl
      · exact (markClosing _ _ _).trans (updateBalance _ _ _)
  | markChannelClosed channelId closing =>
      simp only [Kit.host, SpilmanStores.markChannelClosed, Kit.counted]
      split_ifs
      · rfl
      · cases kit.closedData closing with
        | error error => rfl
        | ok data => exact markClosed _ _ _
  | getFundingAndParams channelId => exact getFunding _ _

end Usage

/-! ## Maps against tables -/

/-- Numbers that a call hands over, and the counters it makes, are below a limit. -/
def HostCall.Below (kit : Kit T F A D α) (limit : Nat)
    (usage : String → String → Option Counter) : HostCall T F A → Prop
  | .saveFunding _ _ initial => initial.balance < limit
  | .recordPayment channelId payment context =>
      payment.balance < limit ∧
        ∀ increments ∈ (kit.increments context).toOption, ∀ entry ∈ increments.entries,
          Counter.value (usage channelId entry.1) + entry.2 < limit
  | .markChannelClosing _ data => data.balance < limit ∧ data.expiryTimestamp < limit
  | .markChannelClosed _ _ | .getFundingAndParams _ => True

instance (kit : Kit T F A D α) (limit : Nat) (usage : String → String → Option Counter) :
    ∀ call : HostCall T F A, Decidable (call.Below kit limit usage)
  | .saveFunding _ _ _ => inferInstanceAs (Decidable (_ < _))
  | .recordPayment _ _ _ => inferInstanceAs (Decidable (_ ∧ ∀ increments ∈ _, ∀ entry ∈ _, _))
  | .markChannelClosing _ _ => inferInstanceAs (Decidable (_ ∧ _))
  | .markChannelClosed _ _ => isTrue trivial
  | .getFundingAndParams _ => isTrue trivial

section Relation

variable (kit : Kit T F A D α) (W : MapWriters F D)
  (shown : String → Option Counter → Option Counter) (limit : Nat)

/-- A call as it is meant: on funded channels, signed, with numbers below the limit. -/
def HostCall.Permitted (call : HostCall T F A) (store : MemoryStores F D) : Prop :=
  call.Meant store.entry ∧
    call.Below kit limit fun channelId var => (store.usageOf W.fresh channelId).lookup var

instance (call : HostCall T F A) (store : MemoryStores F D) :
    Decidable (call.Permitted kit W limit store) :=
  inferInstanceAs (Decidable (_ ∧ _))

/-- A variable is counted alike in the maps and in the tables. -/
structure Counts (var : String) : Prop where
  unseen : shown var none = none
  seen : ∀ count < limit, shown var (some (.integer count)) = some (.integer count)
  first : ∀ delta < limit, W.combine none delta = .integer delta
  next : ∀ count delta, count + delta < limit →
    W.combine (some (.integer count)) delta = .integer (count + delta)

/-- Of priced variables the maps show what the rows do, and they are integers. -/
structure UsageRelated (usage : Table String (Table String Counter))
    (rows : Table (String × String) Counter) : Prop where
  shows : ∀ channelId var, kit.Priced var →
    ((usage.lookup channelId).getD W.fresh).lookup var = shown var (rows.lookup (channelId, var))
  integral : ∀ channelId var, kit.Priced var →
    ∀ cell ∈ rows.lookup (channelId, var), ∃ count < limit, cell = .integer count

/-- The maps show what the tables show. -/
structure Related (both : MemoryStores F D × Database F D) : Prop where
  entry : both.1.entry = both.2.entry
  paid : Paid both.2.entry
  consistent : both.2.Consistent
  usage : UsageRelated kit W shown limit both.1.usage both.2.usage

variable {kit W shown limit} {both : MemoryStores F D × Database F D} {call : HostCall T F A}

theorem related_new (fresh : ∀ var, W.fresh.lookup var = shown var none) :
    Related kit W shown limit (.new, .new) where
  entry := rfl
  paid := fun _ none => absurd none (by simp [Database.entry, Database.new, Row.entry])
  consistent := Database.consistent_new
  usage := ⟨fun _ var _ => fresh var, fun _ _ _ _ none => absurd none (by simp [Database.new])⟩

/-- Related stores give the same answers. -/
theorem Related.sameAnswers (related : Related kit W shown limit both) :
    kit.SameAnswers (memoryStores W) (sqliteStores shown) both.1 both.2 := by
  have funding (channelId : String) : both.1.funding.lookup channelId =
      (both.2.getFunding channelId).1 :=
    (congrArg (fun entries => (entries channelId).funding) related.entry).trans
      related.consistent.getFunding_eq.symm
  have closing (channelId : String) : both.1.closing.lookup channelId =
      (both.2.entry channelId).closing :=
    congrArg (fun entries => (entries channelId).closing) related.entry
  have closed (channelId : String) : (both.1.closed.lookup channelId).isSome =
      both.2.hasState .closed channelId :=
    (congrArg (fun entries => (entries channelId).closed) related.entry).trans
      Database.isClosed_eq.symm
  refine ⟨funding, fun channelId => ?_, fun channelId context => ?_, fun channelId => ?_,
    fun channelId => (closing channelId).trans Database.getClosingData_eq.symm⟩
  · exact (congrArg (fun entries => (entries channelId).balance) related.entry).trans
      Database.getBalance_eq.symm
  · have due := kit.amountDue_congr (both.1.funding.lookup channelId)
      (fun var => (both.1.usageOf W.fresh channelId).lookup var)
      (fun var => shown var (both.2.usage.lookup (channelId, var))) context
      fun var priced => related.usage.shows channelId var priced
    exact due.trans (congrArg (fun found => kit.amountDue found _ context) (funding channelId))
  · have isClosing : (both.1.closing.lookup channelId).isSome =
        both.2.hasState .closing channelId := by
      rw [closing, related.consistent.isClosing_eq]
    show (if (both.1.closed.lookup channelId).isSome then some ChannelState.closed
      else if (both.1.closing.lookup channelId).isSome then some .closing
      else if (both.1.funding.lookup channelId).isSome then some .opened else none) = _
    rw [closed, isClosing, funding]
    rfl

/-- A counter moves alike in a map and in a row. -/
theorem Counts.step {var : String} (counts : Counts W shown limit var) (small : limit ≤ 2 ^ 63)
    {cell : Option Counter} (integral : ∀ count ∈ cell, ∃ n < limit, count = .integer n)
    {delta : Nat} (below : Counter.value (shown var cell) + delta < limit) :
    ∃ total < limit, Counter.upsert cell delta = .integer total ∧
      some (W.combine (shown var cell) delta) = shown var (some (.integer total)) := by
  cases cell with
  | none =>
      have fits : delta < limit := by omega
      refine ⟨delta, fits, ?_, ?_⟩
      · have range : 0 + delta < 2 ^ 63 := by omega
        exact (Counter.add_of_lt range).trans (by rw [Nat.zero_add])
      · rw [counts.unseen, counts.first delta fits, counts.seen delta fits]
  | some count =>
      obtain ⟨n, inRange, rfl⟩ := integral count rfl
      have shownCount := counts.seen n inRange
      have total : n + delta < limit := by
        rw [shownCount] at below
        exact below
      refine ⟨n + delta, total, Counter.add_of_lt (by omega), ?_⟩
      rw [shownCount, counts.next n delta total, counts.seen _ total]

/-- What both stores count stays the same. -/
theorem UsageRelated.incrementUsage {store : MemoryStores F D} {database : Database F D}
    (related : UsageRelated kit W shown limit store.usage database.usage)
    (small : limit ≤ 2 ^ 63) {channelId : String} {increments : UsageMap}
    (below : ∀ entry ∈ increments.entries,
      Counter.value ((store.usageOf W.fresh channelId).lookup entry.1) + entry.2 < limit)
    (counts : ∀ var, kit.Priced var → (increments.lookup var).isSome →
      Counts W shown limit var) :
    UsageRelated kit W shown limit
      (store.incrementUsage W.fresh W.combine channelId increments).usage
      (database.incrementUsage channelId increments).usage := by
  -- what the loops leave in a map and in a row
  have inMap (var : String) := Table.lookup_merge W.combine Function.injective_id increments
    (store.usageOf W.fresh channelId) var
  have inRow (var : String) := Table.lookup_merge Counter.upsert
    (Prod.mk_right_injective channelId) increments database.usage var
  have elsewhere {other : String} (apart : other ≠ channelId) (var : String) :
      (database.incrementUsage channelId increments).usage.lookup (other, var) =
        database.usage.lookup (other, var) :=
    Table.lookup_merge_of_ne _ _ fun _ same => apart (Prod.mk.inj same).1
  have moves {var : String} (priced : kit.Priced var) {delta : Nat}
      (counted : increments.lookup var = some delta) :=
    (counts var priced (Option.isSome_of_eq_some counted)).step small
      (related.integral channelId var priced)
      (related.shows channelId var priced ▸ below ⟨var, delta⟩ (AList.mem_lookup_iff.mp counted))
  refine ⟨fun other var priced => ?_, fun other var priced cell found => ?_⟩
  · show ((store.incrementUsage W.fresh W.combine channelId increments).usageOf W.fresh
      other).lookup var = _
    by_cases same : other = channelId
    · subst same
      rw [MemoryStores.usageOf_incrementUsage]
      refine (inMap var).trans (Eq.trans ?_ (congrArg (shown var) (inRow var)).symm)
      cases counted : increments.lookup var with
      | none => exact related.shows other var priced
      | some delta =>
          obtain ⟨total, -, upserted, agree⟩ := moves priced counted
          dsimp only
          rw [upserted, ← agree]
          exact congrArg (fun cell => some (W.combine cell delta)) (related.shows other var priced)
    · rw [MemoryStores.usageOf_incrementUsage_of_ne same, elsewhere same]
      exact related.shows other var priced
  · by_cases same : other = channelId
    · subst same
      replace found := (inRow var).symm.trans found
      cases counted : increments.lookup var with
      | none =>
          rw [counted] at found
          exact related.integral other var priced cell found
      | some delta =>
          rw [counted] at found
          obtain ⟨total, inRange, upserted, -⟩ := moves priced counted
          exact ⟨total, inRange, (Option.some.inj found).symm.trans upserted⟩
    · rw [elsewhere same] at found
      exact related.integral other var priced cell found

/-- A permitted call over related stores fails over both or over none, and leaves them
related, if the maps are written as the host asks for and count as the tables do. -/
theorem Related.step (related : Related kit W shown limit both) (small : limit ≤ 2 ^ 63)
    (permitted : call.Permitted kit W limit both.1)
    (follows : kit.Follows (memoryStores W) MemoryStores.entry call both.1)
    (counts : ∀ channelId increments, kit.counted call = some (channelId, increments) →
      ∀ var, kit.Priced var → (increments.lookup var).isSome → Counts W shown limit var) :
    (kit.host (memoryStores W) call both.1).1 = (kit.host (sqliteStores shown) call both.2).1 ∧
      Related kit W shown limit ((kit.host (memoryStores W) call both.1).2,
        (kit.host (sqliteStores shown) call both.2).2) := by
  obtain ⟨meant, below⟩ := permitted
  obtain ⟨answer, entries⟩ := kit.host_of_follows follows
  obtain ⟨answer', entries'⟩ :=
    kit.host_of_follows (follows_sqlite kit shown related.paid (related.entry ▸ meant))
  rw [related.entry] at answer entries
  have paid := kit.paid_spec related.paid call
  rw [← entries'] at paid
  refine ⟨answer.trans answer'.symm, entries.trans entries'.symm, paid,
    consistent_host kit shown related.consistent, ?_⟩
  have inMaps := usage_host kit (memoryStores W) MemoryStores.usage (fun _ _ => rfl)
    W.usage_insertFunding W.usage_updateBalance W.usage_markClosing W.usage_markClosed call both.1
  have inRows := usage_host kit (sqliteStores shown) Database.usage
    (fun _ _ => Database.usage_getFunding) (fun _ _ _ => Database.usage_insertFunding)
    (fun _ _ _ => Database.usage_updateRow) (fun _ _ _ => Database.usage_updateRow)
    (fun _ _ _ => Database.usage_updateRow) call both.2
  show UsageRelated kit W shown limit (kit.host (memoryStores W) call both.1).2.usage
    (kit.host (sqliteStores shown) call both.2).2.usage
  rw [inMaps, inRows]
  cases counted : kit.counted call with
  | none => exact related.usage
  | some what =>
      obtain ⟨payment, context, rfl, read⟩ := kit.counted_eq_some counted
      have fits := below.2 what.2 (by rw [read]; rfl)
      exact related.usage.incrementUsage small fits (counts what.1 what.2 counted)

/-- The maps are guarded as the statements are. -/
structure MapWriters.Guarded (W : MapWriters F D) : Prop where
  insertFunding : ∀ channelId funding store, (W.insertFunding channelId funding store).entry =
    Function.update store.entry channelId ((store.entry channelId).insertFunding funding)
  updateBalance : ∀ channelId payment store,
    (∀ old ∈ (store.entry channelId).balance, old.signature ≠ "") →
      (W.updateBalance channelId payment store).entry =
        Function.update store.entry channelId ((store.entry channelId).pay payment)
  markClosing : ∀ channelId data store, (store.entry channelId).closed = false →
    (W.markClosing channelId data store).entry =
      Function.update store.entry channelId ((store.entry channelId).startClosing data)
  markClosed : ∀ channelId data store, (store.entry channelId).closed = false →
    (W.markClosed channelId data store).entry =
      Function.update store.entry channelId (store.entry channelId).finishClosing

/-- Guarded maps are written as the host asks for. -/
theorem MapWriters.Guarded.follows (guarded : W.Guarded) {store : MemoryStores F D}
    (paid : Paid store.entry)
    (signed : ∀ channelId, ∀ old ∈ (store.entry channelId).balance, old.signature ≠ "")
    (meant : call.Meant store.entry) :
    kit.Follows (memoryStores W) MemoryStores.entry call store := by
  cases call with
  | saveFunding channelId funding initial =>
      have inserted := guarded.insertFunding channelId funding store
      refine ⟨inserted,
        guarded.updateBalance channelId initial (W.insertFunding channelId funding store) ?_⟩
      rw [inserted, Function.update_self]
      exact signed channelId
  | recordPayment channelId payment context =>
      intro increments _
      exact kit.entry_recordBalance rfl (paid channelId meant.1) fun _ =>
        guarded.updateBalance channelId payment _ (signed channelId)
  | markChannelClosing channelId data =>
      refine ⟨rfl, fun unclosed => ?_⟩
      have updated := guarded.updateBalance channelId data.payment store (signed channelId)
      refine ⟨updated,
        guarded.markClosing channelId data (W.updateBalance channelId data.payment store) ?_⟩
      rw [updated, Function.update_self, ChannelEntry.closed_pay]
      exact unclosed
  | markChannelClosed channelId closing =>
      exact ⟨rfl, fun unclosed data _ => guarded.markClosed channelId data store unclosed⟩
  | getFundingAndParams channelId => rfl

/-- A permitted call over guarded maps that count as the tables do. -/
theorem Related.step_of_guarded (related : Related kit W shown limit both)
    (guarded : W.Guarded) (small : limit ≤ 2 ^ 63)
    (permitted : call.Permitted kit W limit both.1)
    (counts : ∀ channelId increments, kit.counted call = some (channelId, increments) →
      ∀ var, kit.Priced var → (increments.lookup var).isSome → Counts W shown limit var) :
    kit.Agrees (memoryStores W) (sqliteStores shown) call both ∧
      Related kit W shown limit ((kit.host (memoryStores W) call both.1).2,
        (kit.host (sqliteStores shown) call both.2).2) := by
  have paid : Paid both.1.entry := related.entry ▸ related.paid
  have signed (channelId : String) : ∀ old ∈ (both.1.entry channelId).balance,
      old.signature ≠ "" := by
    rw [related.entry]
    exact Database.signed_entry
  obtain ⟨same, stillRelated⟩ :=
    related.step small permitted (guarded.follows paid signed permitted.1) counts
  exact ⟨⟨same, stillRelated.sameAnswers⟩, stillRelated⟩

end Relation

end Spilman.Kits
