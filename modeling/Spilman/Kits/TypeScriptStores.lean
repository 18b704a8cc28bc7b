/-
# The TypeScript kit's stores

The maps of the TypeScript kit are guarded as its SQL statements are, with two exceptions.

Keysets are cached in memory under the mint and the keyset id, joined by a bar, and are
found again by what a key starts with. In the table they have two columns. A mint or an id
with a bar in it is found under other names as well, or under a part of its id.

Usage is counted in plain objects, which inherit properties. A name such as `constructor`
has a value before anything was counted, and it is no number.
-/

import Mathlib.Data.List.TakeWhile
import Spilman.Kits.GoHost
import Spilman.Kits.Stores
import Spilman.Lib.Text

namespace Spilman.TypeScriptKit

open Lib Kits

variable {T : Carriers} (L : Cashu T)

/-! ## The host -/

/-- What the kit stores of a funded channel. -/
structure ChannelFundingData (T : Carriers) where
  paramsJson : T.Text
  fundingProofsJson : T.Text
  channelSecret : String
  keysetInfoJson : T.Text
  deriving DecidableEq

/-- What is stored of a closed channel. -/
structure ClosedChannelData (T : Carriers) where
  expiryTimestamp : Nat
  closedAmount : Nat
  valueAfterStage1 : Nat
  receiverSum : Nat
  senderSum : Nat
  receiverProofsJson : T.Text
  senderProofsJson : T.Text

def closedData (closed : ClosedArguments T) : ClosedChannelData T :=
  ⟨closed.expiryTimestamp, closed.balance, closed.receiverSum + closed.senderSum,
    closed.receiverSum, closed.senderSum, closed.receiverProofs, closed.senderProofs⟩

/-- Properties that every object has, none of them a number. -/
def inheritedNames : List String :=
  ["constructor", "toString", "valueOf", "hasOwnProperty", "isPrototypeOf",
    "propertyIsEnumerable", "toLocaleString", "__proto__", "__defineGetter__",
    "__defineSetter__", "__lookupGetter__", "__lookupSetter__"]

/-- `JSON.parse`. Exceptions are told apart by their class. -/
def parse (text : T.Text) : Except String Json :=
  (L.parse text).mapError fun _ => "SyntaxError"

/-- What a context counts: the entries of an object, the items of an array under their
indices. -/
def increments (contextJson : Option T.Text) : Except String UsageMap :=
  match contextJson with
  | none => .error "TypeError"
  | some text => do
      match ← parse L text with
      | .null => .error "TypeError"
      | .obj entries => .ok (usageOfEntries entries)
      | .arr items => .ok (usageOfEntries (items.zipIdx.map fun item => (toString item.2, item.1)))
      | .str value => .ok (usageOfEntries (value.toList.zipIdx.map fun char =>
          (toString char.2, .str char.1.toString)))
      | .bool _ | .num _ | .number _ => .ok ∅

/-- A variable with its price, and what was counted. -/
structure Term where
  name : String
  accumulated : Option Counter
  price : Nat

/-- What the language makes of values that are no numbers, or not whole. -/
structure JavaScript where
  /-- A value that is used as the name of a property. -/
  propertyKey : Json → String
  /-- What is due for some variables with a pending usage, over a scale. -/
  otherTotal : Json → List Term → Nat → Except String Float

/-- The pending usage of a variable, if it is a whole number. -/
def pendingNumber (pending : Json) (name : String) : Option Nat :=
  match pending with
  | .obj entries =>
      match (dict entries).lookup name with
      | some .null => some 0
      | some value => wholeNumber value
      | none => if name ∈ inheritedNames then none else some 0
  | _ => none

/-- What was counted and is pending of a variable, if both are whole numbers. -/
def Term.usage? (pending : Json) (term : Term) : Option (Nat × Nat) := do
  let more ← pendingNumber pending term.name
  match term.accumulated with
  | none => return (0, more)
  | some (.integer count) => return (count, more)
  | some .other => none

/-- The name that the unit of a channel is looked up by. -/
def unitName (js : JavaScript) : Json → Except String String
  | .null => .error "TypeError"
  | .obj entries => .ok (((dict entries).lookup "unit").elim "undefined" js.propertyKey)
  | _ => .ok "undefined"

/-- The prices of a unit. -/
def unitPricing (pricing : Table String UnitPricingConfig) (unit : String) :
    Except String (Option UnitPricingConfig) :=
  match pricing.lookup unit with
  | some found => .ok (some found)
  | none => if unit ∈ inheritedNames then .error "TypeError" else .ok none

/-- The variables of a unit, with what was counted. -/
def terms (variablePrices : Table String Nat) (accumulated : String → Option Counter) :
    List Term :=
  variablePrices.entries.map fun entry => ⟨entry.1, accumulated entry.1, entry.2⟩

/-- The price of some variables. Numbers are doubles. -/
def price (js : JavaScript) (pricingScale : Nat) (pending : Json) (terms : List Term) :
    Except String Float :=
  let scale := if pricingScale > 0 then pricingScale else 1
  match terms.mapM (Term.usage? pending) with
  | none => js.otherTotal pending terms scale
  | some usage =>
      let total := (usage.zip terms).foldl (fun total term =>
        total + (Float.ofNat term.1.1 + Float.ofNat term.1.2) * Float.ofNat term.2.price) 0
      let due := Float.ceil (total / Float.ofNat scale)
      if due.isFinite then .ok due else .error "RangeError"

/-- What is due, by what was read from the stores. -/
def amountDue (js : JavaScript) (pricing : Table String UnitPricingConfig) (pricingScale : Nat)
    (funding : Option (ChannelFundingData T)) (accumulated : String → Option Counter)
    (contextJson : Option T.Text) : Except String Float := do
  let pending ← contextJson.elim (.ok (.obj [])) (parse L)
  match funding with
  | none => return 0
  | some funding =>
      let params ← parse L funding.paramsJson
      let unit ← unitName js params
      match ← unitPricing pricing unit with
      | none => return 0
      | some found => price js pricingScale pending (terms found.variablePrices accumulated)

/-- Only priced usage counts. -/
theorem amountDue_congr {js : JavaScript} {pricing : Table String UnitPricingConfig}
    {pricingScale : Nat} (funding : Option (ChannelFundingData T))
    (accumulated accumulated' : String → Option Counter) (contextJson : Option T.Text)
    (same : ∀ var, IsPriced pricing var → accumulated var = accumulated' var) :
    amountDue L js pricing pricingScale funding accumulated contextJson =
      amountDue L js pricing pricingScale funding accumulated' contextJson := by
  refine bind_congr fun pending => ?_
  cases funding with
  | none => rfl
  | some funding =>
      refine bind_congr fun params => bind_congr fun unit => ?_
      cases stored : pricing.lookup unit with
      | none =>
          simp only [unitPricing, stored]
          split_ifs <;> rfl
      | some found =>
          have sameTerms : terms found.variablePrices accumulated =
              terms found.variablePrices accumulated' := by
            refine List.map_congr_left fun entry member => ?_
            rw [same entry.1 ⟨unit, found, stored, List.mem_keys_of_mem member⟩]
          simp only [unitPricing, stored]
          exact congrArg (price js pricingScale pending) sameTerms

/-- The host of the kit. -/
def kit (js : JavaScript) (pricing : Table String UnitPricingConfig) (pricingScale : Nat) :
    Kit T (ChannelFundingData T) (ClosedArguments T) (ClosedChannelData T)
      (Except String Float) where
  increments := increments L
  recordBalance := fun stores channelId payment store =>
    stores.updateBalance channelId payment store
  recordBalance_cases := fun _ _ _ _ => .inl rfl
  closedData := fun closed => .ok (closedData closed)
  amountDue := amountDue L js pricing pricingScale
  Priced := IsPriced pricing
  amountDue_congr := amountDue_congr L

/-! ## The stores -/

/-- A payment replaces a smaller one. -/
def updateBalance {F D : Type} (channelId : String) (payment : PaymentProof)
    (store : MemoryStores F D) : MemoryStores F D :=
  match store.balance.lookup channelId with
  | none => store.setBalance channelId payment
  | some current =>
      if payment.balance > current.balance then store.setBalance channelId payment else store

theorem usage_updateBalance {F D : Type} (channelId : String) (payment : PaymentProof)
    (store : MemoryStores F D) :
    (updateBalance channelId payment store).usage = store.usage := by
  unfold updateBalance
  cases store.balance.lookup channelId with
  | none => rfl
  | some current =>
      dsimp only
      split_ifs <;> rfl

/-- The maps of `createInMemoryStores`. A new object shows what it inherits, and adding to
what is no number does not make it one. -/
def maps (F D : Type) : MapWriters F D where
  insertFunding := MemoryStores.insertFunding
  updateBalance := updateBalance
  fresh := inheritedNames.foldl (fun object name => object.insert name .other) ∅
  combine := fun count delta => (count.getD (.integer 0)).add (2 ^ 53) delta
  markClosing := MemoryStores.setClosing
  markClosed := MemoryStores.moveToClosed
  usage_insertFunding := MemoryStores.usage_insertFunding
  usage_updateBalance := usage_updateBalance
  usage_markClosing := MemoryStores.usage_setClosing
  usage_markClosed := MemoryStores.usage_moveToClosed

/-- The rows are assigned to a new object. A number that is assigned to `__proto__` is lost. -/
def shown (var : String) (row : Option Counter) : Option Counter :=
  if var = "__proto__" then some .other
  else if var ∈ inheritedNames then some (row.getD .other)
  else row

structure KeysetCacheEntry (T : Carriers) where
  infoJson : T.Text
  active : Bool
  unit : String

/-- What a host asks of its keyset cache. -/
structure KeysetCache (T : Carriers) (κ : Type) where
  get : κ → String → String → Option (KeysetCacheEntry T)
  set : String → String → KeysetCacheEntry T → κ → κ
  getActiveIds : κ → String → String → List String
  clearForMint : String → κ → κ

def keysetKey (mint keysetId : String) : String := mint ++ "|" ++ keysetId

def startsWith (key start : String) : Bool := start.toList.isPrefixOf key.toList

/-- `key.split("|")[1]` of a key that has a bar. -/
def secondField (key : String) : String :=
  .ofList (((key.toList.dropWhile (· ≠ '|')).drop 1).takeWhile (· ≠ '|'))

/-- The cache in memory. -/
def memoryKeysets (T : Carriers) : KeysetCache T (Table String (KeysetCacheEntry T)) where
  get := fun cache mint keysetId => cache.lookup (keysetKey mint keysetId)
  set := fun mint keysetId entry cache => cache.insert (keysetKey mint keysetId) entry
  getActiveIds := fun cache mint unit => cache.entries.filterMap fun row =>
    if startsWith row.1 (mint ++ "|") ∧ row.2.unit = unit ∧ row.2.active then
      some (secondField row.1)
    else none
  clearForMint := fun mint cache => cache.reject fun key => startsWith key (mint ++ "|")

/-- The cache in the table of keysets. -/
def sqliteKeysets (T : Carriers) :
    KeysetCache T (Table (String × String) (KeysetCacheEntry T)) where
  get := fun rows mint keysetId => rows.lookup (mint, keysetId)
  set := fun mint keysetId entry rows => rows.insert (mint, keysetId) entry
  getActiveIds := fun rows mint unit => rows.entries.filterMap fun row =>
    if row.1.1 = mint ∧ row.2.active ∧ row.2.unit = unit then some row.1.2 else none
  clearForMint := fun mint rows => rows.reject fun key => key.1 = mint

/-! ## The keyset caches -/

/-- A text without a bar. -/
def Clean (text : String) : Prop := '|' ∉ text.toList

instance (text : String) : Decidable (Clean text) := inferInstanceAs (Decidable (_ ∉ _))

theorem toList_keysetKey (mint keysetId : String) :
    (keysetKey mint keysetId).toList = mint.toList ++ '|' :: keysetId.toList := by
  simp [keysetKey]

section

variable {mint keysetId mint' keysetId' : String}

/-- Two texts without a bar are the only ones that give their key. -/
theorem keysetKey_inj (clean : Clean mint') (clean' : Clean keysetId')
    (same : keysetKey mint keysetId = keysetKey mint' keysetId') :
    mint = mint' ∧ keysetId = keysetId' := by
  have lists := congrArg String.toList same
  rw [toList_keysetKey, toList_keysetKey] at lists
  obtain ⟨mints, ids⟩ := append_cons_inj_of_clean clean clean' lists
  exact ⟨String.toList_inj.mp mints, String.toList_inj.mp ids⟩

/-- Their key starts with no other mint. -/
theorem startsWith_keysetKey_iff (clean : Clean mint') (clean' : Clean keysetId') :
    startsWith (keysetKey mint' keysetId') (mint ++ "|") = true ↔ mint' = mint := by
  rw [startsWith, List.isPrefixOf_iff_prefix, toList_keysetKey, String.toList_append]
  refine ⟨fun ⟨rest, joined⟩ => ?_, fun same => ?_⟩
  · have lists : mint.toList ++ '|' :: rest = mint'.toList ++ '|' :: keysetId'.toList := by
      rw [← joined, List.append_assoc]
      rfl
    exact (String.toList_inj.mp (append_cons_inj_of_clean clean clean' lists).1).symm
  · subst same
    exact ⟨keysetId'.toList, by rw [List.append_assoc]; rfl⟩

/-- And their key gives back the keyset. -/
theorem secondField_keysetKey (clean : Clean mint) (clean' : Clean keysetId) :
    secondField (keysetKey mint keysetId) = keysetId := by
  have inMint : ∀ c ∈ mint.toList, decide (c ≠ '|') = true := fun c member =>
    decide_eq_true fun bar => clean (bar ▸ member)
  have inId : ∀ c ∈ keysetId.toList, decide (c ≠ '|') = true := fun c member =>
    decide_eq_true fun bar => clean' (bar ▸ member)
  have afterMint : ('|' :: keysetId.toList).dropWhile (fun c => decide (c ≠ '|')) =
      '|' :: keysetId.toList := rfl
  rw [secondField, toList_keysetKey, List.dropWhile_append_of_pos inMint, afterMint,
    List.drop_one, List.tail_cons, List.takeWhile_eq_self_iff.mpr inId, String.ofList_toList]

end

/-- The cache in memory answers as the rows do. -/
structure SameKeysets (cache : Table String (KeysetCacheEntry T))
    (rows : Table (String × String) (KeysetCacheEntry T)) : Prop where
  info : ∀ mint keysetId,
    ((memoryKeysets T).get cache mint keysetId).map KeysetCacheEntry.infoJson =
      ((sqliteKeysets T).get rows mint keysetId).map KeysetCacheEntry.infoJson
  activeIds : ∀ mint unit keysetId, keysetId ∈ (memoryKeysets T).getActiveIds cache mint unit ↔
    keysetId ∈ (sqliteKeysets T).getActiveIds rows mint unit

/-- The cache in memory holds the rows, under keys of texts without a bar. -/
structure KeysetsRelated (cache : Table String (KeysetCacheEntry T))
    (rows : Table (String × String) (KeysetCacheEntry T)) : Prop where
  get : ∀ mint keysetId, cache.lookup (keysetKey mint keysetId) = rows.lookup (mint, keysetId)
  keys : ∀ key, ∀ entry ∈ cache.lookup key,
    ∃ mint keysetId, Clean mint ∧ Clean keysetId ∧ key = keysetKey mint keysetId

namespace KeysetsRelated

variable {cache : Table String (KeysetCacheEntry T)}
  {rows : Table (String × String) (KeysetCacheEntry T)}

/-- A row has no bar in its key. -/
theorem clean (related : KeysetsRelated cache rows) {mint keysetId : String}
    {entry : KeysetCacheEntry T} (stored : entry ∈ rows.lookup (mint, keysetId)) :
    Clean mint ∧ Clean keysetId := by
  rw [← related.get] at stored
  obtain ⟨mint', keysetId', clean, clean', same⟩ := related.keys _ entry stored
  obtain ⟨rfl, rfl⟩ := keysetKey_inj clean clean' same
  exact ⟨clean, clean'⟩

theorem new : KeysetsRelated (∅ : Table String (KeysetCacheEntry T)) ∅ :=
  ⟨fun _ _ => rfl, fun _ _ none => absurd none (by simp)⟩

theorem set (related : KeysetsRelated cache rows) {mint keysetId : String}
    (clean : Clean mint) (clean' : Clean keysetId) (entry : KeysetCacheEntry T) :
    KeysetsRelated ((memoryKeysets T).set mint keysetId entry cache)
      ((sqliteKeysets T).set mint keysetId entry rows) := by
  refine ⟨fun other otherId => ?_, fun key value found => ?_⟩
  · show (cache.insert (keysetKey mint keysetId) entry).lookup (keysetKey other otherId) =
      (rows.insert (mint, keysetId) entry).lookup (other, otherId)
    by_cases same : (other, otherId) = (mint, keysetId)
    · obtain ⟨rfl, rfl⟩ := Prod.mk.inj same
      rw [AList.lookup_insert, AList.lookup_insert]
    · have apart : keysetKey other otherId ≠ keysetKey mint keysetId := fun equal =>
        same (Prod.mk.injEq .. ▸ keysetKey_inj clean clean' equal)
      rw [AList.lookup_insert_ne apart, AList.lookup_insert_ne same]
      exact related.get other otherId
  · by_cases same : key = keysetKey mint keysetId
    · exact ⟨mint, keysetId, clean, clean', same⟩
    · rw [show ((memoryKeysets T).set mint keysetId entry cache).lookup key = _ from
        AList.lookup_insert_ne same] at found
      exact related.keys key value found

theorem clearForMint (related : KeysetsRelated cache rows) (mint : String) :
    KeysetsRelated ((memoryKeysets T).clearForMint mint cache)
      ((sqliteKeysets T).clearForMint mint rows) := by
  refine ⟨fun other otherId => Option.ext fun entry => ?_, fun key entry found => ?_⟩
  · refine Table.mem_lookup_reject.trans (Iff.trans ?_ Table.mem_lookup_reject.symm)
    rw [related.get]
    refine and_congr_right fun stored => ?_
    obtain ⟨clean, clean'⟩ := related.clean stored
    rw [Bool.eq_false_iff, Bool.eq_false_iff, Ne, Ne, startsWith_keysetKey_iff clean clean',
      decide_eq_true_iff]
  · exact related.keys key entry (Table.mem_lookup_reject.mp found).1

/-- Related caches give the same answers. -/
theorem sameKeysets (related : KeysetsRelated cache rows) : SameKeysets cache rows := by
  refine ⟨fun mint keysetId => congrArg _ (related.get mint keysetId),
    fun mint unit keysetId => ?_⟩
  show keysetId ∈ cache.entries.filterMap _ ↔ keysetId ∈ rows.entries.filterMap _
  simp only [List.mem_filterMap, Option.ite_none_right_eq_some, Option.some.injEq]
  constructor
  · rintro ⟨row, member, ⟨starts, sameUnit, active⟩, same⟩
    have stored : row.2 ∈ cache.lookup row.1 := AList.mem_lookup_iff.mpr member
    obtain ⟨mint', keysetId', clean, clean', key⟩ := related.keys row.1 row.2 stored
    rw [key] at stored starts same
    rw [related.get] at stored
    rw [secondField_keysetKey clean clean'] at same
    obtain rfl := (startsWith_keysetKey_iff clean clean').mp starts
    exact ⟨⟨(mint', keysetId'), row.2⟩, AList.mem_lookup_iff.mp stored,
      ⟨rfl, active, sameUnit⟩, same⟩
  · rintro ⟨row, member, ⟨rfl, active, sameUnit⟩, rfl⟩
    have stored : row.2 ∈ rows.lookup (row.1.1, row.1.2) := AList.mem_lookup_iff.mpr member
    obtain ⟨clean, clean'⟩ := related.clean stored
    rw [← related.get] at stored
    exact ⟨⟨_, row.2⟩, AList.mem_lookup_iff.mp stored,
      ⟨(startsWith_keysetKey_iff clean clean').mpr rfl, sameUnit, active⟩,
      secondField_keysetKey clean clean'⟩

/-- A keyset whose mint or id has a bar is found under another name. -/
theorem not_sameKeysets_set (related : KeysetsRelated cache rows) {mint keysetId : String}
    (unclean : ¬(Clean mint ∧ Clean keysetId)) (entry : KeysetCacheEntry T) :
    ¬SameKeysets ((memoryKeysets T).set mint keysetId entry cache)
      ((sqliteKeysets T).set mint keysetId entry rows) := by
  have bars : '|' ∈ mint.toList ∨ '|' ∈ keysetId.toList := by
    rw [Clean, Clean, ← not_or, not_not] at unclean
    exact unclean
  obtain ⟨first, second, joined, apart, bar⟩ := exists_other_fields bars
  have sameKey : keysetKey (.ofList first) (.ofList second) = keysetKey mint keysetId :=
    String.toList_inj.mp (by rw [toList_keysetKey, toList_keysetKey, String.toList_ofList,
      String.toList_ofList, joined])
  have otherRow : (String.ofList first, String.ofList second) ≠ (mint, keysetId) := fun equal =>
    apart (by rw [← (Prod.mk.inj equal).1, String.toList_ofList])
  have noRow : rows.lookup (String.ofList first, String.ofList second) = none := by
    refine Option.eq_none_iff_forall_not_mem.mpr fun entry stored => ?_
    obtain ⟨clean, clean'⟩ := related.clean stored
    rw [Clean, String.toList_ofList] at clean clean'
    exact bar.elim clean clean'
  intro same
  have info := same.info (.ofList first) (.ofList second)
  have inMemory : (memoryKeysets T).get ((memoryKeysets T).set mint keysetId entry cache)
      (.ofList first) (.ofList second) = some entry := by
    show (cache.insert (keysetKey mint keysetId) entry).lookup _ = _
    rw [sameKey, AList.lookup_insert]
  have inRows : (sqliteKeysets T).get ((sqliteKeysets T).set mint keysetId entry rows)
      (.ofList first) (.ofList second) = none :=
    (AList.lookup_insert_ne otherRow).trans noRow
  rw [inMemory, inRows] at info
  cases info

end KeysetsRelated

/-! ## The maps -/

section

variable {F D : Type}

/-- The maps are guarded. -/
theorem guarded_maps : (maps F D).Guarded where
  insertFunding := fun _ funding _ => MemoryStores.entry_insertFunding funding
  updateBalance := fun channelId payment store _ => by
    show (updateBalance channelId payment store).entry = _
    unfold updateBalance
    cases recorded : store.balance.lookup channelId with
    | none => exact MemoryStores.entry_setBalance_of_exceeds (MemoryStores.exceeds_of_none recorded)
    | some current =>
        dsimp only
        split_ifs with larger
        · exact MemoryStores.entry_setBalance_of_exceeds
            (MemoryStores.exceeds_of_lt recorded larger)
        · exact MemoryStores.update_pay_of_le recorded (not_lt.mp larger)
  markClosing := fun _ data _ _ => MemoryStores.entry_setClosing data
  markClosed := fun _ data _ _ => MemoryStores.entry_moveToClosed data

/-- A name that is not inherited is counted alike, as long as doubles are exact. -/
theorem counts_maps {var : String} (own : var ∉ inheritedNames) :
    Counts (maps F D) shown (2 ^ 53) var := by
  have notProto : var ≠ "__proto__" := fun same => own (by rw [same]; decide)
  have shows (row : Option Counter) : shown var row = row := by
    rw [shown, if_neg notProto, if_neg own]
  refine ⟨shows _, fun _ _ => shows _, fun delta small => ?_, fun count delta small => ?_⟩
  · have total : 0 + delta < 2 ^ 53 := by omega
    exact (Counter.add_of_lt total).trans (by rw [Nat.zero_add])
  · exact Counter.add_of_lt small

theorem lookup_fresh (var : String) : (maps F D).fresh.lookup var = shown var none := by
  have inherits (names : List String) (object : Table String Counter) :
      (names.foldl (fun object name => object.insert name .other) object).lookup var =
        if var ∈ names then some .other else object.lookup var := by
    induction names generalizing object with
    | nil => rfl
    | cons name rest ih =>
        rw [List.foldl_cons, ih]
        by_cases same : var = name
        · subst same
          simp
        · simp [same]
  refine (inherits inheritedNames ∅).trans ?_
  rw [shown, AList.lookup_empty]
  by_cases proto : var = "__proto__"
  · subst proto
    decide
  · rw [if_neg proto]
    rfl

end

/-! ## The host over both stores -/

/-- Calls to the host and to its keyset cache. -/
inductive Call (T : Carriers)
  | host (call : HostCall T (ChannelFundingData T) (ClosedArguments T))
  | setKeyset (mint keysetId : String) (entry : KeysetCacheEntry T)
  | clearForMint (mint : String)

/-- The host with its stores. -/
def run {D α σ κ : Type} (kit : Kit T (ChannelFundingData T) (ClosedArguments T) D α)
    (stores : SpilmanStores (ChannelFundingData T) D σ) (keysets : KeysetCache T κ) :
    Machine (Call T) (Except String Unit) (σ × κ)
  | .host call, state =>
      let result := kit.host stores call state.1
      (result.1, (result.2, state.2))
  | .setKeyset mint keysetId entry, state =>
      (.ok (), (state.1, keysets.set mint keysetId entry state.2))
  | .clearForMint mint, state => (.ok (), (state.1, keysets.clearForMint mint state.2))

/-- The stores in memory. -/
abbrev Memory (T : Carriers) :=
  MemoryStores (ChannelFundingData T) (ClosedChannelData T) × Table String (KeysetCacheEntry T)

/-- The tables. -/
abbrev Tables (T : Carriers) :=
  Database (ChannelFundingData T) (ClosedChannelData T) ×
    Table (String × String) (KeysetCacheEntry T)

section Host

variable (js : JavaScript) (pricing : Table String UnitPricingConfig) (pricingScale : Nat)

/-- The host over `createInMemoryStores`. -/
def inMemory : Machine (Call T) (Except String Unit) (Memory T) :=
  run (kit L js pricing pricingScale) (memoryStores (maps _ _)) (memoryKeysets T)

/-- The host over `createSqliteStores`. -/
def overSqlite : Machine (Call T) (Except String Unit) (Tables T) :=
  run (kit L js pricing pricingScale) (sqliteStores shown) (sqliteKeysets T)

/-- A call throws over both stores or over none, and afterwards all answers are the same. -/
structure Interchangeable (call : Call T) (both : Memory T × Tables T) : Prop where
  throws : (inMemory L js pricing pricingScale call both.1).1 =
    (overSqlite L js pricing pricingScale call both.2).1
  answers : (kit L js pricing pricingScale).SameAnswers (memoryStores (maps _ _))
    (sqliteStores shown) (inMemory L js pricing pricingScale call both.1).2.1
    (overSqlite L js pricing pricingScale call both.2).2.1
  keysets : SameKeysets (inMemory L js pricing pricingScale call both.1).2.2
    (overSqlite L js pricing pricingScale call both.2).2.2

/-- The values of a context are whole numbers. -/
def countsWholeNumbers : Json → Bool
  | .obj entries => entries.all fun entry => (wholeNumber entry.2).isSome
  | .arr items => items.all fun item => (wholeNumber item).isSome
  | .str value => value = ""
  | _ => true

/-- Only whole numbers are counted, and nothing that has a price and the name of an inherited
property. -/
def Countable : HostCall T (ChannelFundingData T) (ClosedArguments T) → Prop
  | .recordPayment _ _ context =>
      (∀ text ∈ context, ∀ json ∈ (parse L text).toOption, countsWholeNumbers json) ∧
        ∀ counted ∈ (increments L context).toOption, ∀ name ∈ inheritedNames,
          IsPriced pricing name → counted.lookup name = none
  | _ => True

instance : ∀ call, Decidable (Countable L pricing call)
  | .recordPayment _ _ _ => inferInstanceAs (Decidable
      ((∀ text ∈ _, ∀ json ∈ _, _) ∧ ∀ counted ∈ _, ∀ name ∈ inheritedNames, _ → _))
  | .saveFunding _ _ _ => isTrue trivial
  | .markChannelClosing _ _ => isTrue trivial
  | .markChannelClosed _ _ => isTrue trivial
  | .getFundingAndParams _ => isTrue trivial

/-- A call as it is meant: on funded channels, signed, with numbers that doubles hold
exactly. -/
def Permitted : Call T → Memory T → Prop
  | .host call, store =>
      call.Permitted (kit L js pricing pricingScale) (maps _ _) (2 ^ 53) store.1 ∧
        Countable L pricing call
  | .setKeyset _ _ _, _ | .clearForMint _, _ => True

instance : ∀ call store, Decidable (Permitted L js pricing pricingScale call store)
  | .host _, _ => inferInstanceAs (Decidable (_ ∧ _))
  | .setKeyset _ _ _, _ => isTrue trivial
  | .clearForMint _, _ => isTrue trivial

end Host

/-- A keyset is cached under a key that gives it back. -/
def CleanKey : Call T → Prop
  | .setKeyset mint keysetId _ => Clean mint ∧ Clean keysetId
  | .host _ | .clearForMint _ => True

instance : ∀ call : Call T, Decidable (CleanKey call)
  | .setKeyset _ _ _ => inferInstanceAs (Decidable (_ ∧ _))
  | .host _ => isTrue trivial
  | .clearForMint _ => isTrue trivial

/-- Maps and caches show what the tables do. -/
structure BothRelated (js : JavaScript) (pricing : Table String UnitPricingConfig)
    (pricingScale : Nat) (both : Memory T × Tables T) : Prop where
  channels : Related (kit L js pricing pricingScale) (maps _ _) shown (2 ^ 53)
    (both.1.1, both.2.1)
  keysets : KeysetsRelated both.1.2 both.2.2

section

variable {js : JavaScript} {pricing : Table String UnitPricingConfig} {pricingScale : Nat}
  {call : Call T} {both : Memory T × Tables T}

/-- What a call counts is counted alike. -/
theorem counts_of_countable {call : HostCall T (ChannelFundingData T) (ClosedArguments T)}
    (countable : Countable L pricing call) {channelId : String} {counted : UsageMap}
    (isCounted : (kit L js pricing pricingScale).counted call = some (channelId, counted))
    (var : String) (priced : IsPriced pricing var) (found : (counted.lookup var).isSome) :
    Counts (maps (ChannelFundingData T) (ClosedChannelData T)) shown (2 ^ 53) var := by
  obtain ⟨payment, context, rfl, read⟩ := Kit.counted_eq_some _ isCounted
  have isRead : counted ∈ (increments L context).toOption := by
    rw [show increments L context = .ok counted from read]
    rfl
  refine counts_maps fun inherited => ?_
  rw [countable.2 counted isRead var inherited priced] at found
  cases found

/-- One call with a clean key. -/
theorem step_of_cleanKey (related : BothRelated L js pricing pricingScale both)
    (permitted : Permitted L js pricing pricingScale call both.1) (clean : CleanKey call) :
    Interchangeable L js pricing pricingScale call both ∧
      BothRelated L js pricing pricingScale ((inMemory L js pricing pricingScale call both.1).2,
        (overSqlite L js pricing pricingScale call both.2).2) := by
  cases call with
  | host call =>
      obtain ⟨agrees, stillRelated⟩ := related.channels.step_of_guarded guarded_maps (by decide)
        permitted.1 fun _ _ => counts_of_countable L permitted.2
      exact ⟨⟨agrees.1, agrees.2, related.keysets.sameKeysets⟩, stillRelated, related.keysets⟩
  | setKeyset mint keysetId entry =>
      have stillRelated := related.keysets.set clean.1 clean.2 entry
      exact ⟨⟨rfl, related.channels.sameAnswers, stillRelated.sameKeysets⟩, related.channels,
        stillRelated⟩
  | clearForMint mint =>
      have stillRelated := related.keysets.clearForMint mint
      exact ⟨⟨rfl, related.channels.sameAnswers, stillRelated.sameKeysets⟩, related.channels,
        stillRelated⟩

/-- The answers stay the same only if the key is clean. -/
theorem cleanKey_of_interchangeable (related : BothRelated L js pricing pricingScale both)
    (same : Interchangeable L js pricing pricingScale call both) : CleanKey call := by
  cases call with
  | host call => exact trivial
  | setKeyset mint keysetId entry =>
      by_contra unclean
      exact related.keysets.not_sameKeysets_set unclean entry same.keysets
  | clearForMint mint => exact trivial

end

namespace SampleCalls

open Sample

/-- Prices are whole, and so is all usage here. -/
def noOther : JavaScript := ⟨fun _ => "sat", fun _ _ _ => .error "RangeError"⟩

def keyset : KeysetCacheEntry carriers := ⟨Json.null, true, "sat"⟩

def funding : ChannelFundingData carriers := ⟨satParams, Json.null, "s", Json.null⟩

end SampleCalls

end Spilman.TypeScriptKit
