/-
# The Python kit's stores

The host of the Python kit writes into plain dictionaries. Over SQLite the same assignments
go through proxies, and their statements are guarded: the first funding stays, a payment has
to be larger than the one on record, and closing data goes when a channel is closed. The
dictionaries take whatever is assigned.

So the two stores differ as soon as an assignment is one that the statements would refuse, or
a channel is closed that was closing. Here is exactly when.
-/

import Spilman.Kits.GoHost
import Spilman.Kits.Stores

namespace Spilman.PythonKit

open Lib Kits

variable {T : Carriers} (L : Cashu T)

/-! ## The code -/

/-- What the kit stores of a funded channel. -/
structure FundingData (T : Carriers) where
  params : T.Text
  proofs : T.Text
  channelSecret : String
  keysetInfo : T.Text
  deriving DecidableEq

/-- What is stored of a closed channel. -/
structure ChannelClosedData where
  expiryTimestamp : Nat
  balance : Nat
  receiverProofs : Json
  senderProofs : Json
  receiverSum : Nat
  senderSum : Nat

/-- `json.loads`. Exceptions are told apart by their class. -/
def loads (text : T.Text) : Except String Json :=
  (L.parse text).mapError fun _ => "JSONDecodeError"

/-- What a context counts. -/
def increments (contextJson : Option T.Text) : Except String UsageMap :=
  match contextJson with
  | none => .ok ∅
  | some text => do
      match ← loads L text with
      | .obj entries => .ok (usageOfEntries entries)
      | _ => .error "AttributeError"

def closedData (closed : ClosedArguments T) : Except String ChannelClosedData := do
  let receiverProofs ← loads L closed.receiverProofs
  let senderProofs ← loads L closed.senderProofs
  return ⟨closed.expiryTimestamp, closed.balance, receiverProofs, senderProofs,
    closed.receiverSum, closed.senderSum⟩

/-- The prices of the unit that is named in the parameters of a channel. -/
def unitPricing (pricing : Table String UnitPricingConfig) (params : Json) :
    Except String (Option UnitPricingConfig) :=
  match params with
  | .obj entries =>
      match (dict entries).lookup "unit" with
      | some (.str unit) => .ok (pricing.lookup unit)
      | some (.arr _) | some (.obj _) => .error "TypeError"
      | _ => .ok none
  | _ => .error "AttributeError"

/-- One variable of a price: what was counted, what is pending, and its price. -/
structure Term where
  accumulated : Option Counter
  pending : Option Json
  price : Nat

/-- The price of a variable, as long as only whole numbers are involved. -/
def Term.total? (term : Term) : Option Nat := do
  let pending ← term.pending.elim (some 0) wholeNumber
  match term.accumulated with
  | none => return pending * term.price
  | some (.integer count) => return (count + pending) * term.price
  | some .other => none

/-- The variables of a unit. A context that is no object fails with the first one. -/
def terms (variablePrices : Table String Nat) (accumulated : String → Option Counter)
    (pending : Json) : Except String (List Term) :=
  match variablePrices.entries, pending with
  | [], _ => .ok []
  | priced, .obj entries => .ok (priced.map fun entry =>
      ⟨accumulated entry.1, (dict entries).lookup entry.1, entry.2⟩)
  | _, _ => .error "AttributeError"

/-- What is due, by what was read from the stores. What Python makes of numbers that are not
whole, and of values that are no numbers, is a parameter. -/
def amountDue (otherTotal : List Term → Nat → Except String Json)
    (pricing : Table String UnitPricingConfig) (pricingScale : Nat)
    (funding : Option (FundingData T)) (accumulated : String → Option Counter)
    (contextJson : Option T.Text) : Except String Json := do
  let pending ← contextJson.elim (.ok (.obj [])) (loads L)
  match funding with
  | none => return .num 0
  | some funding =>
      let params ← loads L funding.params
      match ← unitPricing pricing params with
      | none => return .num 0
      | some unitPricing =>
          let terms ← terms unitPricing.variablePrices accumulated pending
          let scale := if pricingScale > 0 then pricingScale else 1
          match terms.mapM Term.total? with
          | none => otherTotal terms scale
          | some totals =>
              if totals.sum = 0 then return .num 0
              else return .num ((totals.sum + scale - 1) / scale)

theorem exists_unit_of_unitPricing {pricing : Table String UnitPricingConfig} {params : Json}
    {found : UnitPricingConfig} (named : unitPricing pricing params = .ok (some found)) :
    ∃ unit, pricing.lookup unit = some found := by
  unfold unitPricing at named
  split at named
  · split at named
    · exact ⟨_, Except.ok.inj named⟩
    · cases named
    · cases named
    · cases named
  · cases named

theorem terms_congr {variablePrices : Table String Nat}
    {accumulated accumulated' : String → Option Counter}
    (same : ∀ var ∈ variablePrices, accumulated var = accumulated' var) (pending : Json) :
    terms variablePrices accumulated pending = terms variablePrices accumulated' pending := by
  unfold terms
  split
  · rfl
  · refine congrArg Except.ok (List.map_congr_left fun entry member => ?_)
    rw [same entry.1 (List.mem_keys_of_mem member)]
  · rfl

/-- Only priced usage counts. -/
theorem amountDue_congr {otherTotal : List Term → Nat → Except String Json}
    {pricing : Table String UnitPricingConfig} {pricingScale : Nat}
    (funding : Option (FundingData T)) (accumulated accumulated' : String → Option Counter)
    (contextJson : Option T.Text)
    (same : ∀ var, IsPriced pricing var → accumulated var = accumulated' var) :
    amountDue L otherTotal pricing pricingScale funding accumulated contextJson =
      amountDue L otherTotal pricing pricingScale funding accumulated' contextJson := by
  refine bind_congr fun pending => ?_
  cases funding with
  | none => rfl
  | some funding =>
      refine bind_congr fun params => ?_
      cases named : unitPricing pricing params with
      | error error => rfl
      | ok found =>
          cases found with
          | none => rfl
          | some found =>
              obtain ⟨unit, priced⟩ := exists_unit_of_unitPricing named
              have sameTerms := terms_congr
                (fun var member => same var ⟨unit, found, priced, member⟩) pending
              show (terms found.variablePrices accumulated pending >>= _) =
                terms found.variablePrices accumulated' pending >>= _
              rw [sameTerms]

/-- The host of the kit. A payment is compared before it is assigned. -/
def kit (otherTotal : List Term → Nat → Except String Json)
    (pricing : Table String UnitPricingConfig) (pricingScale : Nat) :
    Kit T (FundingData T) (ClosedArguments T) ChannelClosedData (Except String Json) where
  increments := increments L
  recordBalance := fun stores channelId payment store =>
    let current := stores.getBalance store channelId
    if payment.balance > (current.map PaymentProof.balance).getD 0 then
      stores.updateBalance channelId payment store
    else store
  recordBalance_cases := fun stores channelId payment store => by
    dsimp only
    split_ifs with larger
    · exact .inl rfl
    · refine .inr ⟨rfl, fun old found => ?_⟩
      rw [Option.mem_def.mp found] at larger
      exact not_lt.mp larger
  closedData := closedData L
  amountDue := amountDue L otherTotal pricing pricingScale
  Priced := IsPriced pricing
  amountDue_congr := amountDue_congr L

/-- The dictionaries of `SpilmanStores`. -/
def dicts (F D : Type) : MapWriters F D where
  insertFunding := fun channelId funding store =>
    { store with funding := store.funding.insert channelId funding }
  updateBalance := MemoryStores.setBalance
  fresh := ∅
  combine := fun count delta => match count with
    | none => .integer delta
    | some (.integer count) => .integer (count + delta)
    | some .other => .other
  markClosing := MemoryStores.setClosing
  markClosed := fun channelId data store =>
    { store with closed := store.closed.insert channelId data }
  usage_insertFunding := fun _ _ _ => rfl
  usage_updateBalance := fun _ _ _ => rfl
  usage_markClosing := MemoryStores.usage_setClosing
  usage_markClosed := fun _ _ _ => rfl

/-- A row holds what the dictionary would. -/
def shown (_ : String) (row : Option Counter) : Option Counter := row

/-! ## When the stores agree -/

/-- A context counts whole numbers only. -/
def countsWholeNumbers {F A : Type} : HostCall T F A → Bool
  | .recordPayment _ _ (some text) =>
      match L.parse text with
      | .ok (.obj entries) => entries.all fun entry => (wholeNumber entry.2).isSome
      | _ => true
  | _ => true

/-- The stores in memory. -/
abbrev Dicts (T : Carriers) := MemoryStores (FundingData T) ChannelClosedData

/-- The calls of the kit's host. -/
abbrev Call (T : Carriers) := HostCall T (FundingData T) (ClosedArguments T)

/-- A payment is larger than the one on record, or the same. -/
def Replaces (payment : PaymentProof) (channelId : String) (store : Dicts T) : Prop :=
  ∀ old ∈ store.balance.lookup channelId, old.balance < payment.balance ∨ old = payment

instance (payment : PaymentProof) (channelId : String) (store : Dicts T) :
    Decidable (Replaces payment channelId store) :=
  inferInstanceAs (Decidable (∀ old ∈ _, _ ∨ _))

/-- The statements do what the assignments of a call do. -/
def Accepted : Call T → Dicts T → Prop
  | .saveFunding channelId funding initial, store =>
      (∀ old ∈ store.funding.lookup channelId, old = funding) ∧ Replaces initial channelId store
  | .markChannelClosing channelId data, store =>
      channelId ∉ store.closed → Replaces data.payment channelId store
  | .markChannelClosed channelId closed, store =>
      channelId ∉ store.closed → (closedData L closed).isOk → channelId ∉ store.closing
  | .recordPayment _ _ _, _ | .getFundingAndParams _, _ => True

instance : ∀ (call : Call T) (store : Dicts T), Decidable (Accepted L call store)
  | .saveFunding _ _ _, _ => inferInstanceAs (Decidable ((∀ old ∈ _, _) ∧ _))
  | .markChannelClosing _ _, _ => inferInstanceAs (Decidable (_ → _))
  | .markChannelClosed _ _, _ => inferInstanceAs (Decidable (_ → _ → _))
  | .recordPayment _ _ _, _ => isTrue trivial
  | .getFundingAndParams _, _ => isTrue trivial

section

variable {otherTotal : List Term → Nat → Except String Json}
  {pricing : Table String UnitPricingConfig} {pricingScale : Nat} {call : Call T}

/-- An assignment that the statement would make. -/
theorem entry_setBalance_of_replaces {store : Dicts T} {payment : PaymentProof}
    {channelId : String} (replaces : Replaces payment channelId store) :
    (store.setBalance channelId payment).entry =
      Function.update store.entry channelId ((store.entry channelId).pay payment) := by
  rw [MemoryStores.entry_setBalance]
  by_cases exceeds : (store.entry channelId).Exceeds payment
  · rw [ChannelEntry.pay_of_exceeds exceeds]
  · -- the payment on record is the same
    have recorded : (store.entry channelId).balance = some payment := by
      unfold ChannelEntry.Exceeds at exceeds
      push Not at exceeds
      obtain ⟨old, recorded, small⟩ := exceeds
      rcases replaces old recorded with larger | rfl
      · exact absurd larger (not_lt.mpr small)
      · exact recorded
    rw [ChannelEntry.pay_of_le recorded le_rfl, ← recorded]

theorem entry_setFunding {store : Dicts T} {funding : FundingData T} {channelId : String}
    (same : ∀ old ∈ store.funding.lookup channelId, old = funding) :
    ({ store with funding := store.funding.insert channelId funding } : Dicts T).entry =
      Function.update store.entry channelId
        ((store.entry channelId).insertFunding funding) := by
  funext other
  rw [Function.update_apply]
  split_ifs with here
  · subst here
    have first : (store.funding.lookup other).getD funding = funding := by
      cases found : store.funding.lookup other with
      | none => rfl
      | some old => exact same old found
    simp only [MemoryStores.entry, ChannelEntry.insertFunding, AList.lookup_insert, first]
  · simp only [MemoryStores.entry, AList.lookup_insert_ne here]

theorem entry_setClosed {store : Dicts T} {data : ChannelClosedData} {channelId : String} :
    ({ store with closed := store.closed.insert channelId data } : Dicts T).entry =
      Function.update store.entry channelId { store.entry channelId with closed := true } := by
  funext other
  rw [Function.update_apply]
  split_ifs with here
  · subst here
    simp only [MemoryStores.entry, AList.lookup_insert, Option.isSome_some]
  · simp only [MemoryStores.entry, AList.lookup_insert_ne here]

theorem notMem_closed_iff {store : Dicts T} {channelId : String} :
    channelId ∉ store.closed ↔ (store.entry channelId).closed = false := by
  rw [← AList.lookup_isSome, Bool.not_eq_true]
  rfl

/-- Then the dictionaries are written as the host asks for. -/
theorem follows_dicts {store : Dicts T} (paid : Paid store.entry)
    (meant : call.Meant store.entry) (accepted : Accepted L call store) :
    (kit L otherTotal pricing pricingScale).Follows (memoryStores (dicts _ _))
      MemoryStores.entry call store := by
  cases call with
  | saveFunding channelId funding initial =>
      exact ⟨entry_setFunding accepted.1, entry_setBalance_of_replaces accepted.2⟩
  | recordPayment channelId payment context =>
      intro increments _
      obtain ⟨old, recorded⟩ := Option.isSome_iff_exists.mp (paid channelId meant.1)
      have current : store.balance.lookup channelId = some old := recorded
      show (if payment.balance > ((store.balance.lookup channelId).map _).getD 0 then _
        else _ : Dicts T).entry = _
      rw [current]
      split_ifs with larger
      · exact MemoryStores.entry_setBalance_of_exceeds (MemoryStores.exceeds_of_lt current larger)
      · exact MemoryStores.update_pay_of_le current (not_lt.mp larger)
  | markChannelClosing channelId data =>
      refine ⟨rfl, fun unclosed => ⟨?_, MemoryStores.entry_setClosing data⟩⟩
      exact entry_setBalance_of_replaces (accepted (notMem_closed_iff.mpr unclosed))
  | markChannelClosed channelId closing =>
      refine ⟨rfl, fun unclosed data made => entry_setClosed.trans ?_⟩
      have readable : (closedData L closing).isOk := by
        rw [show closedData L closing = .ok data from made]
        rfl
      have notClosing : (store.entry channelId).closing = none :=
        AList.lookup_eq_none.mpr (accepted (notMem_closed_iff.mpr unclosed) readable)
      rw [ChannelEntry.finishClosing, ← notClosing]
  | getFundingAndParams channelId => rfl

/-- What was assigned is what the statement left, so the statement made the assignment. -/
theorem replaces_of_paid {store : Dicts T} {payment : PaymentProof} {channelId : String}
    (assigned : some payment = ((store.entry channelId).pay payment).balance) :
    Replaces payment channelId store := by
  intro old recorded
  by_cases larger : old.balance < payment.balance
  · exact .inl larger
  · rw [ChannelEntry.pay_of_le recorded (not_lt.mp larger)] at assigned
    exact .inr (Option.some.inj (recorded.symm.trans assigned.symm))

/-- The stores agree on a call only if the statements do what the assignments do. -/
theorem accepted_of_agrees {both : Dicts T × Database (FundingData T) ChannelClosedData}
    (related : Related (kit L otherTotal pricing pricingScale) (dicts _ _) shown (2 ^ 63) both)
    (meant : call.Meant both.1.entry)
    (agrees : (kit L otherTotal pricing pricingScale).Agrees (memoryStores (dicts _ _))
      (sqliteStores shown) call both) : Accepted L call both.1 := by
  -- what the rows show after the call
  have rows := ((kit L otherTotal pricing pricingScale).host_of_follows
    (follows_sqlite _ shown related.paid (related.entry ▸ meant))).2
  rw [← related.entry] at rows
  have consistent : ((kit L otherTotal pricing pricingScale).host (sqliteStores shown) call
      both.2).2.Consistent := consistent_host _ shown related.consistent
  obtain ⟨-, answers⟩ := agrees
  have funding (channelId) := (answers.fundingAndParams channelId).trans consistent.getFunding_eq
  have balance (channelId) := (answers.balance channelId).trans Database.getBalance_eq
  have closing (channelId) := (answers.closingData channelId).trans Database.getClosingData_eq
  rw [rows] at funding balance closing
  cases call with
  | saveFunding channelId data initial =>
      replace funding := funding channelId
      replace balance := balance channelId
      simp only [Kit.spec, Function.update_self, ChannelEntry.funding_pay] at funding balance
      refine ⟨fun old found => ?_, replaces_of_paid ?_⟩
      · have assigned : some data = some ((both.1.funding.lookup channelId).getD data) :=
          (AList.lookup_insert both.1.funding).symm.trans funding
        rw [Option.mem_def.mp found] at assigned
        exact (Option.some.inj assigned).symm
      · exact ((AList.lookup_insert both.1.balance).symm.trans balance).trans
          (ChannelEntry.balance_pay_congr rfl)
  | recordPayment channelId payment context => exact trivial
  | markChannelClosing channelId data =>
      intro unclosed
      have here := notMem_closed_iff.mp unclosed
      have marked := SpilmanStores.markChannelClosing_of_unclosed
        (show (memoryStores (dicts _ _)).isClosed both.1 channelId = false from here) data
      replace balance := balance channelId
      simp only [Kit.host, marked, Kit.spec, here, Bool.false_eq_true, if_false,
        Function.update_self] at balance
      exact replaces_of_paid ((AList.lookup_insert both.1.balance).symm.trans balance)
  | markChannelClosed channelId closed =>
      intro unclosed readable
      have here := notMem_closed_iff.mp unclosed
      obtain ⟨data, made⟩ : ∃ data, closedData L closed = .ok data := by
        cases made : closedData L closed with
        | ok data => exact ⟨data, rfl⟩
        | error error =>
            rw [made] at readable
            cases readable
      have marked := SpilmanStores.markChannelClosed_of_unclosed
        (show (memoryStores (dicts _ _)).isClosed both.1 channelId = false from here) data
      have sameMade : (kit L otherTotal pricing pricingScale).closedData closed = .ok data := made
      replace closing := closing channelId
      simp only [Kit.host, sameMade, marked, Kit.spec, here, Bool.false_eq_true, if_false,
        Function.update_self] at closing
      exact AList.lookup_eq_none.mp closing
  | getFundingAndParams channelId => exact trivial

end

/-- The host raises on the same calls over both stores, gives the same answers after every
call, and the largest payment decreases in neither. -/
structure Interchangeable (otherTotal : List Term → Nat → Except String Json)
    (pricing : Table String UnitPricingConfig) (pricingScale : Nat) (call : Call T)
    (both : Dicts T × Database (FundingData T) ChannelClosedData) : Prop where
  agrees : (kit L otherTotal pricing pricingScale).Agrees (memoryStores (dicts _ _))
    (sqliteStores shown) call both
  memoryKeeps : (kit L otherTotal pricing pricingScale).Keeps (memoryStores (dicts _ _)) call both.1
  sqliteKeeps : (kit L otherTotal pricing pricingScale).Keeps (sqliteStores shown) call both.2

/-- A call as it is meant: on funded channels, signed, with whole numbers below the signed
range. -/
def Permitted (otherTotal : List Term → Nat → Except String Json)
    (pricing : Table String UnitPricingConfig) (pricingScale : Nat) (call : Call T)
    (store : Dicts T) : Prop :=
  call.Permitted (kit L otherTotal pricing pricingScale) (dicts _ _) (2 ^ 63) store ∧
    countsWholeNumbers L call

instance (otherTotal : List Term → Nat → Except String Json)
    (pricing : Table String UnitPricingConfig) (pricingScale : Nat) (call : Call T)
    (store : Dicts T) : Decidable (Permitted L otherTotal pricing pricingScale call store) :=
  inferInstanceAs (Decidable (_ ∧ _))

section

variable {otherTotal : List Term → Nat → Except String Json}
  {pricing : Table String UnitPricingConfig} {pricingScale : Nat} {call : Call T}
  {both : Dicts T × Database (FundingData T) ChannelClosedData}

/-- Below the signed range, dictionaries and rows count alike. -/
theorem counts_dicts {F D : Type} (var : String) : Counts (dicts F D) shown (2 ^ 63) var where
  unseen := rfl
  seen := fun _ _ => rfl
  first := fun _ _ => rfl
  next := fun _ _ _ => rfl

/-- One accepted call. -/
theorem step_of_accepted
    (related : Related (kit L otherTotal pricing pricingScale) (dicts _ _) shown (2 ^ 63) both)
    (permitted : Permitted L otherTotal pricing pricingScale call both.1)
    (accepted : Accepted L call both.1) :
    Interchangeable L otherTotal pricing pricingScale call both ∧
      Related (kit L otherTotal pricing pricingScale) (dicts _ _) shown (2 ^ 63)
        (((kit L otherTotal pricing pricingScale).host (memoryStores (dicts _ _)) call both.1).2,
          ((kit L otherTotal pricing pricingScale).host (sqliteStores shown) call both.2).2) := by
  have paid : Paid both.1.entry := related.entry ▸ related.paid
  have inDicts : (kit L otherTotal pricing pricingScale).Follows (memoryStores (dicts _ _))
      MemoryStores.entry call both.1 := follows_dicts L paid permitted.1.1 accepted
  have inRows := follows_sqlite (kit L otherTotal pricing pricingScale) shown related.paid
    (related.entry ▸ permitted.1.1)
  obtain ⟨same, stillRelated⟩ := related.step le_rfl permitted.1 inDicts
    fun _ _ _ var _ _ => counts_dicts var
  exact ⟨⟨⟨same, stillRelated.sameAnswers⟩, Kit.keeps_of_follows _ (fun _ _ => rfl) inDicts,
    Kit.keeps_of_follows _ (fun _ _ => Database.getBalance_eq) inRows⟩, stillRelated⟩

end

namespace SampleCalls

open Sample

/-- Prices are whole, and so is all usage here. -/
def noOther (_ : List Term) (_ : Nat) : Except String Json := .error "TypeError"

def funding (secret : String) : FundingData carriers := ⟨satParams, Json.null, secret, Json.null⟩

def closed : ClosedArguments carriers := ⟨100, 5, Json.null, Json.null, 4, 3⟩

end SampleCalls

namespace SampleCalls

open Sample

/-- The calls are as they are meant, and the stores are not interchangeable. -/
def Differ (calls : List (Call carriers)) : Prop :=
  ((kit library noOther charsPricing 2).host (memoryStores (dicts _ _))).Throughout
      (Permitted library noOther charsPricing 2) calls .new ∧
    ¬(((kit library noOther charsPricing 2).host (memoryStores (dicts _ _))).pair
        ((kit library noOther charsPricing 2).host (sqliteStores shown))).Throughout
      (Interchangeable library noOther charsPricing 2) calls (.new, .new)

end SampleCalls

end Spilman.PythonKit
