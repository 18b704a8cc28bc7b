/-
# The store over SQLite

One table for channels, one for close journals, one for counters and one for keysets.
Columns of amounts are signed 64-bit integers. A balance that does not fit is refused; a
counter is converted back and forth by reinterpreting its bits. A sum of counters that
leaves the range of the column does not wrap: SQLite turns it into a floating
point number, and a row that holds one is skipped when usage is read.

Serialized columns are kept as the records they are made from. Statements are
atomic, and no statement fails for reasons outside the database.
-/

import Spilman.Storage.Interface

namespace Spilman

open Lib

/-! ## Numbers in columns -/

/-- A number in an integer column. -/
inductive SqlNumber
  | integer (value : Int)
  | real (value : Float)

namespace SqlNumber

/-- The range of a signed 64-bit integer. -/
def InRange (value : Int) : Prop := -2 ^ 63 ≤ value ∧ value < 2 ^ 63

instance (value : Int) : Decidable (InRange value) := inferInstanceAs (Decidable (_ ∧ _))

/-- Storing a floating point number in an integer column: one that is an integer
strictly inside the range becomes one. -/
def ofFloat (value : Float) : SqlNumber :=
  if value.floor == value && value > -9223372036854775808.0 && value < 9223372036854775808.0 then
    .integer value.toInt64.toInt
  else .real value

/-- `count + excluded.count`. -/
def add : SqlNumber → Int → SqlNumber
  | .integer count, delta =>
      if InRange (count + delta) then .integer (count + delta)
      else ofFloat (Float.ofInt count + Float.ofInt delta)
  | .real count, delta => ofFloat (count + Float.ofInt delta)

/-- `as i64` of an unsigned number. -/
def ofU64 (value : Nat) : Int := (value : Int).bmod (2 ^ 64)

/-- `INSERT .. ON CONFLICT DO UPDATE SET count = count + excluded.count`. -/
def upsert : Option SqlNumber → Nat → SqlNumber
  | none, delta => .integer (ofU64 delta)
  | some count, delta => count.add (ofU64 delta)

/-- `as u64` of a signed number. -/
def toU64 (value : Int) : Nat := (value % 2 ^ 64).toNat

/-- A row is readable only if it holds an integer. -/
def read : SqlNumber → Option Nat
  | .integer value => some (toU64 value)
  | .real _ => none

end SqlNumber

/-! ## Tables -/

/-- A row of the table of channels. -/
structure ChannelRow (T : Carriers) where
  funding : ChannelFunding T
  balance : Int
  signature : String
  state : String
  closing : Option ClosingData
  closed : Option (ClosedDataView T)

/-- Balances are never negative. -/
def ChannelRow.Fits {T : Carriers} (row : ChannelRow T) : Prop :=
  0 ≤ row.balance ∧ row.balance < 2 ^ 63

/-- The tables, and the funding that has been cached. -/
structure SqliteStorage (T : Carriers) where
  channels : Table String (ChannelRow T)
  closeJournals : Table String String
  usage : Table (String × String) SqlNumber
  keysets : Table (String × String) (KeysetCacheEntry T)
  fundingCache : Table String (ChannelFunding T)

namespace SqliteStorage

variable {T : Carriers}

/-- A database that has just been created. -/
def new : SqliteStorage T := ⟨∅, ∅, ∅, ∅, ∅⟩

def getState (store : SqliteStorage T) (channelId : String) :
    Except String (Option ChannelState) :=
  match store.channels.lookup channelId with
  | none => .ok none
  | some row =>
      if row.state = "Open" then .ok (some .opened)
      else if row.state = "Closing" then .ok (some .closing)
      else if row.state = "Closed" then .ok (some .closed)
      else .error "invalid stored receiver channel state"

/-- The cache is asked first. -/
def getFunding (store : SqliteStorage T) (channelId : String) : Option (ChannelFunding T) :=
  (store.fundingCache.lookup channelId).or
    ((store.channels.lookup channelId).map ChannelRow.funding)

/-- `INSERT .. ON CONFLICT DO NOTHING`, then the cache is filled if it is empty. -/
def saveFunding (store : SqliteStorage T) (channelId : String) (funding : ChannelFunding T) :
    Except String Unit × SqliteStorage T :=
  let channels :=
    if channelId ∈ store.channels then store.channels
    else store.channels.insert channelId ⟨funding, 0, "", "Open", none, none⟩
  let fundingCache :=
    if channelId ∈ store.fundingCache then store.fundingCache
    else store.fundingCache.insert channelId funding
  (.ok (), { store with channels, fundingCache })

/-- The row of a channel is replaced. -/
def setRow (store : SqliteStorage T) (channelId : String) (row : ChannelRow T) :
    SqliteStorage T :=
  { store with channels := store.channels.insert channelId row }

/-- A row without a signature has no payment yet. -/
def getBalance (store : SqliteStorage T) (channelId : String) : Option PaymentProof :=
  match store.channels.lookup channelId with
  | none => none
  | some row =>
      if row.signature ≠ "" then some ⟨SqlNumber.toU64 row.balance, row.signature⟩ else none

def updateBalance (store : SqliteStorage T) (channelId : String) (payment : PaymentProof) :
    Except String Unit × SqliteStorage T :=
  if 2 ^ 63 ≤ payment.balance then (.error "payment overflow", store)
  else
    match store.channels.lookup channelId with
    | none => (.error "Query returned no rows", store)
    | some row =>
        if row.state ≠ "Open" then (.error "channel is not open", store)
        else if row.balance < payment.balance ∨ row.signature = "" then
          (.ok (), store.setRow channelId
            { row with balance := payment.balance, signature := payment.signature })
        else (.ok (), store)

/-- No readable row counts as none. -/
def getUsage (store : SqliteStorage T) (channelId : String) : Option UsageMap :=
  let usage := Table.slice SqlNumber.read channelId store.usage
  if usage.entries.isEmpty then none else some usage

def incrementUsage (store : SqliteStorage T) (channelId : String) (increments : UsageMap) :
    Except String Unit × SqliteStorage T :=
  (.ok (), { store with
    usage := Table.merge (Prod.mk channelId) SqlNumber.upsert increments.entries store.usage })

/-- The `WHERE` clause of both closing statements. -/
def canClose (store : SqliteStorage T) (channelId : String) (row : ChannelRow T) : Bool :=
  row.state ≠ "Closed" ∧ channelId ∉ store.closeJournals

def markClosing (store : SqliteStorage T) (channelId : String) (data : ClosingData) :
    Except String Unit × SqliteStorage T :=
  match (store.channels.lookup channelId).filter (store.canClose channelId) with
  | none => (.error "channel not found or already closed", store)
  | some row =>
      (.ok (), store.setRow channelId { row with state := "Closing", closing := some data })

def getClosingData (store : SqliteStorage T) (channelId : String) : Option ClosingData :=
  ((store.channels.lookup channelId).filter fun row => row.state = "Closing").bind
    ChannelRow.closing

def markClosed (store : SqliteStorage T) (channelId : String) (data : ClosedDataView T) :
    Except String Unit × SqliteStorage T :=
  match (store.channels.lookup channelId).filter (store.canClose channelId) with
  | none => (.error "channel already closed or not found", store)
  | some row =>
      (.ok (), store.setRow channelId
        { row with state := "Closed", closed := some data, closing := none })

def getClosedData (store : SqliteStorage T) (channelId : String) : Option (ClosedDataView T) :=
  ((store.channels.lookup channelId).filter fun row => row.state = "Closed").bind
    ChannelRow.closed

/-- The row of a channel that is open with a payment. -/
def openRow (store : SqliteStorage T) (channelId : String) (payment : PaymentProof) :
    Option (ChannelRow T) :=
  (store.channels.lookup channelId).filter fun row =>
    row.state = "Open" ∧ row.balance = payment.balance ∧ row.signature = payment.signature

def comparePayment (store : SqliteStorage T) (channelId : String)
    (expected payment : PaymentProof) : Except String Unit × SqliteStorage T :=
  if payment.balance ≤ expected.balance then (.error "payment state conflict", store)
  else if 2 ^ 63 ≤ payment.balance then (.error "payment overflow", store)
  else if 2 ^ 63 ≤ expected.balance then (.error "payment overflow", store)
  else
    match store.openRow channelId expected with
    | none => (.error "payment snapshot or state conflict", store)
    | some row => (.ok (), store.setRow channelId
        { row with balance := payment.balance, signature := payment.signature })

def getCloseJournal (store : SqliteStorage T) (channelId : String) :
    Except String (Option String) :=
  .ok (store.closeJournals.lookup channelId)

/-- One transaction: if the journal cannot be inserted, the row is not changed either. -/
def freezeClose (store : SqliteStorage T) (channelId : String) (expected : PaymentProof)
    (closing : ClosingData) (journal : String) : Except String Unit × SqliteStorage T :=
  if closing.balance ≠ expected.balance ∨ closing.signature ≠ expected.signature then
    (.error "close authorization mismatch", store)
  else if 2 ^ 63 ≤ expected.balance then (.error "balance overflow", store)
  else
    match store.openRow channelId expected with
    | none => (.error "close payment or state conflict", store)
    | some row =>
        if channelId ∈ store.closeJournals then
          (.error "UNIQUE constraint failed: spilman_close_journals.channel_id", store)
        else (.ok (), { store.setRow channelId
            { row with state := "Closing", closing := some closing } with
          closeJournals := store.closeJournals.insert channelId journal })

/-- One transaction. The row that the first statement finds is the one that the second
statement closes. -/
def advanceClose (store : SqliteStorage T) (channelId expected journal : String)
    (completed : Option (ClosedDataView T)) : Except String Unit × SqliteStorage T :=
  match (store.channels.lookup channelId).filter fun row => row.state = "Closing" with
  | none => (.error "close journal conflict", store)
  | some row =>
      if store.closeJournals.lookup channelId ≠ some expected then
        (.error "close journal conflict", store)
      else
        let store := { store with
          closeJournals := store.closeJournals.insert channelId journal }
        match completed with
        | some data => (.ok (), store.setRow channelId
            { row with state := "Closed", closed := some data, closing := none })
        | none => (.ok (), store)

/-- What reading the funding of a channel leaves in the cache. -/
def afterGetFunding (store : SqliteStorage T) (channelId : String) : SqliteStorage T :=
  match store.fundingCache.lookup channelId, store.channels.lookup channelId with
  | none, some row =>
      { store with fundingCache := store.fundingCache.insert channelId row.funding }
  | _, _ => store

/-- Closing and opening the database loses the cache. -/
def reopen (store : SqliteStorage T) : SqliteStorage T := { store with fundingCache := ∅ }

variable (L : Cashu T)

def getKeyset (store : SqliteStorage T) (mint : String) (id : T.Id) :
    Option (KeysetCacheEntry T) :=
  store.keysets.lookup (mint, L.idToString id)

def setKeyset (store : SqliteStorage T) (mint : String) (id : T.Id) (entry : KeysetCacheEntry T) :
    Except String Unit × SqliteStorage T :=
  (.ok (), { store with keysets := store.keysets.insert (mint, L.idToString id) entry })

def getActiveKeysetIds (store : SqliteStorage T) (mint : String) (unit : T.CurrencyUnit) :
    List T.Id :=
  store.keysets.entries.filterMap fun row =>
    if row.1.1 = mint ∧ row.2.active ∧ L.unitToString row.2.unit = L.unitToString unit then
      match L.idFromStr row.1.2 with
      | .ok id => some id
      | .error _ => none
    else none

end SqliteStorage

/-- The interface over SQLite. -/
def sqliteStorage {T : Carriers} (L : Cashu T) : SpilmanStorage T (SqliteStorage T) where
  getFunding := SqliteStorage.getFunding
  saveFunding := SqliteStorage.saveFunding
  getBalance := SqliteStorage.getBalance
  updateBalance := SqliteStorage.updateBalance
  getUsage := SqliteStorage.getUsage
  incrementUsage := SqliteStorage.incrementUsage
  getState := SqliteStorage.getState
  markClosing := SqliteStorage.markClosing
  getClosingData := SqliteStorage.getClosingData
  markClosed := SqliteStorage.markClosed
  getClosedData := SqliteStorage.getClosedData
  comparePayment := SqliteStorage.comparePayment
  getCloseJournal := SqliteStorage.getCloseJournal
  freezeClose := SqliteStorage.freezeClose
  advanceClose := SqliteStorage.advanceClose
  getKeyset := SqliteStorage.getKeyset L
  setKeyset := SqliteStorage.setKeyset L
  getActiveKeysetIds := SqliteStorage.getActiveKeysetIds L

/-! ## Its laws -/

namespace SqlNumber

theorem ofU64_of_lt {value : Nat} (small : value < 2 ^ 63) : ofU64 value = value := by
  unfold ofU64
  rw [Int.bmod_def]
  omega

theorem toU64_natCast {value : Nat} (small : value < 2 ^ 64) : toU64 value = value := by
  unfold toU64
  omega

end SqlNumber

theorem ChannelRow.Fits.toU64_balance {T : Carriers} {row : ChannelRow T} (fits : row.Fits) :
    SqlNumber.toU64 row.balance = row.balance.toNat := by
  obtain ⟨nonneg, small⟩ := fits
  unfold SqlNumber.toU64
  omega

namespace SqliteStorage

variable {T : Carriers} {L : Cashu T} {store : SqliteStorage T} {channelId other : String}

/-- What comes up from an empty database that is not reopened: all funding is in the
cache, and balances are what fits into their column. -/
structure WellFormed (store : SqliteStorage T) : Prop where
  cached : ∀ {channelId row}, store.channels.lookup channelId = some row →
    channelId ∈ store.fundingCache
  balances : ∀ {channelId row}, store.channels.lookup channelId = some row → row.Fits

/-- No counter has left the range of its column. -/
def Counting (store : SqliteStorage T) : Prop :=
  ∀ {key cell}, store.usage.lookup key = some cell →
    ∃ count : Nat, cell = .integer count ∧ count < 2 ^ 63

theorem wellFormed_new : (new : SqliteStorage T).WellFormed where
  cached := by
    intro _ _ found
    cases found
  balances := by
    intro _ _ found
    cases found

theorem counting_new : (new : SqliteStorage T).Counting := by
  intro _ _ found
  cases found

/-- Leaving out an empty map does not change what a variable counts. -/
theorem count_getUsage (store : SqliteStorage T) (channelId var : String) :
    ((store.getUsage channelId).bind fun usage => usage.lookup var).getD 0 =
      ((store.usage.lookup (channelId, var)).bind SqlNumber.read).getD 0 := by
  rw [← Table.lookup_slice]
  unfold getUsage
  generalize Table.slice SqlNumber.read channelId store.usage = usage
  obtain ⟨entries, nodup⟩ := usage
  cases entries with
  | nil => rfl
  | cons entry rest => rfl

/-- The row of a channel, its cached funding and its counters are all there is to
see. -/
theorem view_congr {store' : SqliteStorage T}
    (rows : store'.channels.lookup channelId = store.channels.lookup channelId)
    (cache : store'.fundingCache.lookup channelId = store.fundingCache.lookup channelId)
    (usage : store'.usage = store.usage) :
    (sqliteStorage L).view store' channelId = (sqliteStorage L).view store channelId := by
  refine ChannelView.ext ?_ ?_ ?_ ?_ ?_ ?_
  · simp only [SpilmanStorage.view, sqliteStorage, getState, rows]
  · simp only [SpilmanStorage.view, sqliteStorage, getFunding, rows, cache]
  · simp only [SpilmanStorage.view, sqliteStorage, getBalance, rows]
  · simp only [SpilmanStorage.view, sqliteStorage, getUsage, usage]
  · simp only [SpilmanStorage.view, sqliteStorage, getClosingData, rows]
  · simp only [SpilmanStorage.view, sqliteStorage, getClosedData, rows]

/-- Replacing a row shows in the view of its channel only. -/
theorem view_setRow_of_ne (store : SqliteStorage T) (row : ChannelRow T)
    (apart : other ≠ channelId) :
    (sqliteStorage L).view (store.setRow channelId row) other =
      (sqliteStorage L).view store other :=
  view_congr (AList.lookup_insert_ne apart) rfl rfl

theorem getState_of_row {row : ChannelRow T} (stored : store.channels.lookup channelId = some row) :
    store.getState channelId ≠ .ok none := by
  simp only [getState, stored]
  split_ifs <;> simp

theorem getState_eq_opened_iff :
    store.getState channelId = .ok (some .opened) ↔
      ∃ row, store.channels.lookup channelId = some row ∧ row.state = "Open" := by
  unfold getState
  cases store.channels.lookup channelId with
  | none => simp
  | some row =>
      simp only [Option.some.injEq, exists_eq_left']
      split_ifs <;> simp_all

theorem getState_eq_closing_iff :
    store.getState channelId = .ok (some .closing) ↔
      ∃ row, store.channels.lookup channelId = some row ∧ row.state = "Closing" := by
  unfold getState
  cases store.channels.lookup channelId with
  | none => simp
  | some row =>
      simp only [Option.some.injEq, exists_eq_left']
      split_ifs <;> simp_all

theorem getState_eq_closed_iff :
    store.getState channelId = .ok (some .closed) ↔
      ∃ row, store.channels.lookup channelId = some row ∧ row.state = "Closed" := by
  unfold getState
  cases store.channels.lookup channelId with
  | none => simp
  | some row =>
      simp only [Option.some.injEq, exists_eq_left']
      split_ifs <;> simp_all

/-! ### Funding -/

theorem channels_saveFunding_of_row (funding : ChannelFunding T) {row : ChannelRow T}
    (stored : store.channels.lookup channelId = some row) :
    (store.saveFunding channelId funding).2.channels = store.channels := by
  have known : channelId ∈ store.channels :=
    AList.lookup_isSome.mp (by rw [stored]; rfl)
  simp only [saveFunding, known, if_true]

theorem channels_saveFunding_of_none (funding : ChannelFunding T)
    (fresh : store.channels.lookup channelId = none) :
    (store.saveFunding channelId funding).2.channels =
      store.channels.insert channelId ⟨funding, 0, "", "Open", none, none⟩ := by
  have unknown : channelId ∉ store.channels := AList.lookup_eq_none.mp fresh
  simp only [saveFunding, unknown, if_false]

theorem row_of_saveFunding {funding : ChannelFunding T} {row : ChannelRow T}
    (found : (store.saveFunding channelId funding).2.channels.lookup other = some row) :
    store.channels.lookup other = some row ∨
      other = channelId ∧ row = ⟨funding, 0, "", "Open", none, none⟩ := by
  cases stored : store.channels.lookup channelId with
  | none =>
      rw [channels_saveFunding_of_none funding stored] at found
      by_cases same : other = channelId
      · subst same
        rw [AList.lookup_insert] at found
        exact .inr ⟨rfl, (Option.some.inj found).symm⟩
      · rw [AList.lookup_insert_ne same] at found
        exact .inl found
  | some held =>
      rw [channels_saveFunding_of_row funding stored] at found
      exact .inl found

theorem lookup_cache_saveFunding (store : SqliteStorage T) (channelId : String)
    (funding : ChannelFunding T) :
    (store.saveFunding channelId funding).2.fundingCache.lookup channelId =
      (store.fundingCache.lookup channelId).or (some funding) := by
  by_cases known : channelId ∈ store.fundingCache
  · have held := AList.lookup_isSome.mpr known
    simp only [saveFunding, known, if_true]
    exact (Option.or_of_isSome held).symm
  · simp only [saveFunding, known, if_false, AList.lookup_insert]
    rw [AList.lookup_eq_none.mpr known]
    rfl

theorem view_saveFunding_of_ne (store : SqliteStorage T) (funding : ChannelFunding T)
    (apart : other ≠ channelId) :
    (sqliteStorage L).view (store.saveFunding channelId funding).2 other =
      (sqliteStorage L).view store other := by
  have cache : (store.saveFunding channelId funding).2.fundingCache.lookup other =
      store.fundingCache.lookup other := by
    by_cases known : channelId ∈ store.fundingCache
    · simp only [saveFunding, known, if_true]
    · simp only [saveFunding, known, if_false]
      exact AList.lookup_insert_ne apart
  cases stored : store.channels.lookup channelId with
  | none =>
      refine view_congr ?_ cache rfl
      rw [channels_saveFunding_of_none funding stored, AList.lookup_insert_ne apart]
  | some row =>
      refine view_congr ?_ cache rfl
      rw [channels_saveFunding_of_row funding stored]

theorem saveFunding_frame (store : SqliteStorage T) (channelId : String)
    (funding : ChannelFunding T) :
    (sqliteStorage L).Changes store (store.saveFunding channelId funding).2 channelId
      ({ ·.makeKnown with
        funding := (store.saveFunding channelId funding).2.getFunding channelId }) := by
  refine ⟨?_, fun other apart => view_saveFunding_of_ne store funding apart⟩
  cases stored : store.channels.lookup channelId with
  | none =>
      have row := channels_saveFunding_of_none funding stored
      refine ChannelView.ext ?_ rfl ?_ rfl ?_ ?_
      · simp [SpilmanStorage.view, sqliteStorage, getState, row, stored, ChannelView.makeKnown]
      · simp [SpilmanStorage.view, sqliteStorage, getBalance, row, stored, ChannelView.makeKnown]
      · simp [SpilmanStorage.view, sqliteStorage, getClosingData, row, stored,
          ChannelView.makeKnown]
      · simp [SpilmanStorage.view, sqliteStorage, getClosedData, row, stored,
          ChannelView.makeKnown]
  | some row =>
      have same := channels_saveFunding_of_row funding stored
      have known := getState_of_row stored
      refine ChannelView.ext ?_ rfl ?_ rfl ?_ ?_
      · show getState _ channelId = if store.getState channelId = .ok none then .ok (some .opened)
          else store.getState channelId
        rw [if_neg known]
        simp only [getState, same]
      · simp only [SpilmanStorage.view, sqliteStorage, getBalance, same, ChannelView.makeKnown]
      · simp only [SpilmanStorage.view, sqliteStorage, getClosingData, same,
          ChannelView.makeKnown]
      · simp only [SpilmanStorage.view, sqliteStorage, getClosedData, same,
          ChannelView.makeKnown]

/-- While the cache is complete, the first funding is the one that is returned. -/
theorem WellFormed.getFunding_saveFunding (formed : store.WellFormed) (channelId : String)
    (funding : ChannelFunding T) :
    (store.saveFunding channelId funding).2.getFunding channelId =
      (store.getFunding channelId).or (some funding) := by
  have cache := lookup_cache_saveFunding store channelId funding
  have some_or : ((store.fundingCache.lookup channelId).or (some funding)).isSome := by simp
  rw [getFunding, cache, Option.or_of_isSome some_or]
  cases stored : store.channels.lookup channelId with
  | none => simp only [getFunding, stored, Option.map_none, Option.or_none]
  | some row =>
      have held := AList.lookup_isSome.mpr (formed.cached stored)
      simp only [getFunding, Option.or_of_isSome held]

theorem saveFunding_changes {funding : ChannelFunding T}
    (kept : (store.saveFunding channelId funding).2.getFunding channelId =
      (store.getFunding channelId).or (some funding)) :
    (sqliteStorage L).Changes store (store.saveFunding channelId funding).2 channelId
      (·.saveFunding funding) := by
  obtain ⟨own, others⟩ := saveFunding_frame (L := L) store channelId funding
  refine ⟨own.trans ?_, others⟩
  rw [kept]
  rfl

theorem wellFormed_saveFunding (formed : store.WellFormed) (channelId : String)
    (funding : ChannelFunding T) : (store.saveFunding channelId funding).2.WellFormed := by
  have grows : ∀ other, other ∈ store.fundingCache →
      other ∈ (store.saveFunding channelId funding).2.fundingCache := by
    intro other cached
    by_cases known : channelId ∈ store.fundingCache
    · simpa only [saveFunding, known, if_true] using cached
    · simpa only [saveFunding, known, if_false, AList.mem_insert] using Or.inr cached
  have own : channelId ∈ (store.saveFunding channelId funding).2.fundingCache := by
    rw [← AList.lookup_isSome, lookup_cache_saveFunding]
    simp
  refine ⟨?_, ?_⟩
  · intro other row found
    rcases row_of_saveFunding found with before | ⟨rfl, -⟩
    · exact grows other (formed.cached before)
    · exact own
  · intro other row found
    rcases row_of_saveFunding found with before | ⟨-, rfl⟩
    · exact formed.balances before
    · exact ⟨le_refl _, by norm_num⟩

/-! ### Payments -/

/-- What a row of the table of channels shows. -/
theorem view_of_row {row : ChannelRow T} (stored : store.channels.lookup channelId = some row) :
    (sqliteStorage L).view store channelId =
      { state := if row.state = "Open" then .ok (some .opened)
          else if row.state = "Closing" then .ok (some .closing)
          else if row.state = "Closed" then .ok (some .closed)
          else .error "invalid stored receiver channel state"
        funding := (store.fundingCache.lookup channelId).or (some row.funding)
        payment := if row.signature ≠ "" then some ⟨SqlNumber.toU64 row.balance, row.signature⟩
          else none
        usage := ((sqliteStorage L).view store channelId).usage
        closing := if row.state = "Closing" then row.closing else none
        closed := if row.state = "Closed" then row.closed else none } := by
  refine ChannelView.ext ?_ ?_ ?_ rfl ?_ ?_
  · simp only [SpilmanStorage.view, sqliteStorage, getState, stored]
  · simp only [SpilmanStorage.view, sqliteStorage, getFunding, stored, Option.map_some]
  · simp only [SpilmanStorage.view, sqliteStorage, getBalance, stored]
  · simp only [SpilmanStorage.view, sqliteStorage, getClosingData, stored, Option.filter]
    by_cases isClosing : row.state = "Closing"
    · simp [isClosing]
    · simp [isClosing]
  · simp only [SpilmanStorage.view, sqliteStorage, getClosedData, stored, Option.filter]
    by_cases isClosed : row.state = "Closed"
    · simp [isClosed]
    · simp [isClosed]

/-- Replacing the row of a channel changes what the row shows. -/
theorem setRow_changes {row : ChannelRow T} {change : ChannelView T → ChannelView T}
    (own : (sqliteStorage L).view (store.setRow channelId row) channelId =
      change ((sqliteStorage L).view store channelId)) :
    (sqliteStorage L).Changes store (store.setRow channelId row) channelId change :=
  ⟨own, fun _ apart => view_setRow_of_ne store row apart⟩

theorem lookup_setRow (store : SqliteStorage T) (channelId : String) (row : ChannelRow T) :
    (store.setRow channelId row).channels.lookup channelId = some row :=
  AList.lookup_insert _

/-- A payment is stored unless the row holds one that is not smaller. -/
theorem updateBalance_of_open {row : ChannelRow T} {payment : PaymentProof}
    (stored : store.channels.lookup channelId = some row) (isOpen : row.state = "Open")
    (small : payment.balance < 2 ^ 63) :
    store.updateBalance channelId payment =
      if row.balance < payment.balance ∨ row.signature = "" then
        (.ok (), store.setRow channelId
          { row with balance := payment.balance, signature := payment.signature })
      else (.ok (), store) := by
  simp only [updateBalance, Nat.not_le.mpr small, stored, isOpen, ne_eq, not_true_eq_false,
    if_false]

theorem updateBalance_changes {payment : PaymentProof} (signed : payment.signature ≠ "")
    {row : ChannelRow T} (stored : store.channels.lookup channelId = some row) (fits : row.Fits)
    (isOpen : row.state = "Open") (small : payment.balance < 2 ^ 63) :
    (store.updateBalance channelId payment).1 = .ok () ∧
      (sqliteStorage L).Changes store (store.updateBalance channelId payment).2 channelId
        (·.updateBalance payment) := by
  rw [updateBalance_of_open stored isOpen small]
  have read := fits.toU64_balance
  obtain ⟨nonneg, -⟩ := fits
  have written : SqlNumber.toU64 (payment.balance : Int) = payment.balance :=
    SqlNumber.toU64_natCast (by omega)
  by_cases replaces : row.balance < payment.balance ∨ row.signature = ""
  · rw [if_pos replaces]
    refine ⟨rfl, setRow_changes ?_⟩
    rw [view_of_row (lookup_setRow store channelId _), view_of_row stored]
    refine ChannelView.ext rfl rfl ?_ rfl rfl rfl
    by_cases blank : row.signature = ""
    · simp [ChannelView.updateBalance, blank, signed, written]
    · have larger : row.balance.toNat < payment.balance := by
        rcases replaces with larger | isBlank
        · omega
        · exact absurd isBlank blank
      simp [ChannelView.updateBalance, blank, signed, written, read, larger]
  · rw [if_neg replaces]
    obtain ⟨notLarger, unsigned⟩ := not_or.mp replaces
    have held : ¬ row.balance.toNat < payment.balance := by omega
    refine ⟨rfl, ?_, fun _ _ => rfl⟩
    rw [view_of_row stored]
    refine ChannelView.ext rfl rfl ?_ rfl rfl rfl
    simp [ChannelView.updateBalance, unsigned, read, held]

theorem updateBalance_refused {payment : PaymentProof}
    (refused : ¬ (store.getState channelId = .ok (some .opened) ∧ payment.balance < 2 ^ 63)) :
    (store.updateBalance channelId payment).1 ≠ .ok () ∧
      (store.updateBalance channelId payment).2 = store := by
  by_cases large : 2 ^ 63 ≤ payment.balance
  · rw [updateBalance, if_pos large]
    simp
  · have notOpen : store.getState channelId ≠ .ok (some .opened) :=
      fun isOpen => refused ⟨isOpen, Nat.not_le.mp large⟩
    cases stored : store.channels.lookup channelId with
    | none =>
        rw [updateBalance, if_neg large]
        simp [stored]
    | some row =>
        have shut : row.state ≠ "Open" :=
          fun isOpen => notOpen (getState_eq_opened_iff.mpr ⟨row, stored, isOpen⟩)
        rw [updateBalance, if_neg large]
        simp [stored, shut]

/-! ### Usage -/

theorem lookup_usage_incrementUsage (store : SqliteStorage T) (channelId : String)
    (increments : UsageMap) (var : String) :
    (store.incrementUsage channelId increments).2.usage.lookup (channelId, var) =
      match increments.lookup var with
      | some delta => some (SqlNumber.upsert (store.usage.lookup (channelId, var)) delta)
      | none => store.usage.lookup (channelId, var) := by
  refine (Table.lookup_merge SqlNumber.upsert (Prod.mk_right_injective channelId) increments
    store.usage var).trans ?_
  cases increments.lookup var with
  | some delta => rfl
  | none => rfl

theorem lookup_usage_incrementUsage_of_ne (store : SqliteStorage T) (increments : UsageMap)
    (var : String) (apart : other ≠ channelId) :
    (store.incrementUsage channelId increments).2.usage.lookup (other, var) =
      store.usage.lookup (other, var) :=
  Table.lookup_merge_of_ne _ _ fun _ same => apart (Prod.mk.inj same).1

theorem incrementUsage_frame (store : SqliteStorage T) (channelId : String)
    (increments : UsageMap) :
    ∃ usage, (sqliteStorage L).Changes store (store.incrementUsage channelId increments).2
      channelId ({ · with usage := usage }) := by
  refine ⟨_, rfl, fun other apart => ChannelView.ext rfl rfl rfl ?_ rfl rfl⟩
  funext var
  refine (count_getUsage _ other var).trans (Eq.trans ?_ (count_getUsage store other var).symm)
  rw [lookup_usage_incrementUsage_of_ne store increments var apart]

theorem usage_lt (counting : store.Counting) (channelId var : String) :
    ((sqliteStorage L).view store channelId).usage var < 2 ^ 63 := by
  have counter : ((sqliteStorage L).view store channelId).usage var = _ :=
    count_getUsage store channelId var
  rw [counter]
  cases stored : store.usage.lookup (channelId, var) with
  | none => exact Nat.two_pow_pos 63
  | some cell =>
      obtain ⟨count, rfl, inRange⟩ := counting stored
      have read : SqlNumber.toU64 (count : Int) = count := SqlNumber.toU64_natCast (by omega)
      simpa only [Option.bind_some, SqlNumber.read, read, Option.getD_some] using inRange

/-- A counter that stays in the range of its column is incremented exactly. -/
theorem counter_incrementUsage (counting : store.Counting) {increments : UsageMap} {var : String}
    (small : ((store.usage.lookup (channelId, var)).bind SqlNumber.read).getD 0 +
      (increments.lookup var).getD 0 < 2 ^ 63) {delta : Nat}
    (counted : increments.lookup var = some delta) :
    (store.incrementUsage channelId increments).2.usage.lookup (channelId, var) =
      some (.integer ((((store.usage.lookup (channelId, var)).bind SqlNumber.read).getD 0 +
        delta : Nat))) := by
  rw [lookup_usage_incrementUsage, counted]
  rw [counted, Option.getD_some] at small
  have fits : SqlNumber.ofU64 delta = delta := SqlNumber.ofU64_of_lt (by omega)
  cases stored : store.usage.lookup (channelId, var) with
  | none => simp [SqlNumber.upsert, fits]
  | some cell =>
      obtain ⟨count, rfl, inRange⟩ := counting stored
      have read : SqlNumber.toU64 (count : Int) = count := SqlNumber.toU64_natCast (by omega)
      simp only [stored, Option.bind_some, SqlNumber.read, read, Option.getD_some] at small
      have stays : SqlNumber.InRange ((count : Int) + delta) := by
        constructor <;> omega
      simp only [SqlNumber.upsert, SqlNumber.add, fits, stays, if_true, Option.bind_some,
        SqlNumber.read, read, Option.getD_some, Nat.cast_add]

theorem incrementUsage_changes (counting : store.Counting) (channelId : String)
    (increments : UsageMap)
    (small : ∀ var, ((sqliteStorage L).view store channelId).usage var +
      (increments.lookup var).getD 0 < 2 ^ 63) :
    (store.incrementUsage channelId increments).2.Counting ∧
      (sqliteStorage L).Changes store (store.incrementUsage channelId increments).2 channelId
        (·.incrementUsage increments) := by
  have bound : ∀ var, ((store.usage.lookup (channelId, var)).bind SqlNumber.read).getD 0 +
      (increments.lookup var).getD 0 < 2 ^ 63 := by
    intro var
    rw [← count_getUsage]
    exact small var
  obtain ⟨usage, own, others⟩ := incrementUsage_frame (L := L) store channelId increments
  refine ⟨?_, ?_, others⟩
  · rintro ⟨group, var⟩ cell found
    by_cases same : group = channelId
    · subst same
      cases counted : increments.lookup var with
      | none =>
          rw [lookup_usage_incrementUsage, counted] at found
          exact counting found
      | some delta =>
          rw [counter_incrementUsage counting (bound var) counted] at found
          have fits := bound var
          rw [counted, Option.getD_some] at fits
          exact ⟨_, (Option.some.inj found).symm, fits⟩
    · rw [lookup_usage_incrementUsage_of_ne store increments var same] at found
      exact counting found
  · refine ChannelView.ext rfl rfl rfl ?_ rfl rfl
    funext var
    refine (count_getUsage _ channelId var).trans ?_
    have before : ((sqliteStorage L).view store channelId).usage var = _ :=
      count_getUsage store channelId var
    cases counted : increments.lookup var with
    | none =>
        rw [ChannelView.usage_incrementUsage_none counted, before, lookup_usage_incrementUsage,
          counted]
    | some delta =>
        have fits := bound var
        rw [counted, Option.getD_some] at fits
        rw [ChannelView.usage_incrementUsage_some counted, before,
          counter_incrementUsage counting (bound var) counted]
        show SqlNumber.toU64 _ = _ % 2 ^ 64
        rw [SqlNumber.toU64_natCast (by omega), Nat.mod_eq_of_lt (by omega)]

/-! ### Closing -/

theorem canClose_of_filter {row : ChannelRow T}
    (found : (store.channels.lookup channelId).filter (store.canClose channelId) = some row) :
    store.channels.lookup channelId = some row ∧ row.state ≠ "Closed" := by
  obtain ⟨stored, allowed⟩ := Option.filter_eq_some_iff.mp found
  simp only [canClose, decide_eq_true_eq] at allowed
  exact ⟨stored, allowed.1⟩

/-- A row that may be closed is not closed, and keeps everything but its state. -/
theorem not_isClosed_of_row {row : ChannelRow T}
    (stored : store.channels.lookup channelId = some row) (notClosed : row.state ≠ "Closed") :
    ¬ ((sqliteStorage L).view store channelId).IsClosed := by
  intro isClosed
  obtain ⟨row', stored', closed⟩ := getState_eq_closed_iff.mp isClosed
  obtain rfl := Option.some.inj (stored.symm.trans stored')
  exact notClosed closed

theorem markClosing_changes (store : SqliteStorage T) (channelId : String) (data : ClosingData) :
    (store.markClosing channelId data).1 ≠ .ok () ∧ (store.markClosing channelId data).2 = store ∨
      (store.markClosing channelId data).1 = .ok () ∧
        ¬ ((sqliteStorage L).view store channelId).IsClosed ∧
        (sqliteStorage L).Changes store (store.markClosing channelId data).2 channelId
          (·.markClosing data) := by
  unfold markClosing
  cases found : (store.channels.lookup channelId).filter (store.canClose channelId) with
  | none => exact .inl ⟨by simp, rfl⟩
  | some row =>
      obtain ⟨stored, notClosed⟩ := canClose_of_filter found
      refine .inr ⟨rfl, not_isClosed_of_row stored notClosed, setRow_changes ?_⟩
      rw [view_of_row (lookup_setRow store channelId _), view_of_row stored]
      exact ChannelView.ext (by simp [ChannelView.markClosing]) rfl rfl rfl
        (by simp [ChannelView.markClosing]) (by simp [ChannelView.markClosing, notClosed])

theorem markClosed_changes (store : SqliteStorage T) (channelId : String) (data : ClosedDataView T) :
    (store.markClosed channelId data).1 ≠ .ok () ∧ (store.markClosed channelId data).2 = store ∨
      (store.markClosed channelId data).1 = .ok () ∧
        ¬ ((sqliteStorage L).view store channelId).IsClosed ∧
        (sqliteStorage L).Changes store (store.markClosed channelId data).2 channelId
          (·.markClosed data) := by
  unfold markClosed
  cases found : (store.channels.lookup channelId).filter (store.canClose channelId) with
  | none => exact .inl ⟨by simp, rfl⟩
  | some row =>
      obtain ⟨stored, notClosed⟩ := canClose_of_filter found
      refine .inr ⟨rfl, not_isClosed_of_row stored notClosed, setRow_changes ?_⟩
      rw [view_of_row (lookup_setRow store channelId _), view_of_row stored]
      exact ChannelView.ext (by simp [ChannelView.markClosed]) rfl rfl rfl
        (by simp [ChannelView.markClosed]) (by simp [ChannelView.markClosed])

/-! ### Rows -/

/-- What the operations on a channel do to the tables: a row that is there may be replaced.
It keeps its funding, its balance fits as before, and counters have a table of their own. -/
structure Edits (store store' : SqliteStorage T) : Prop where
  cache : store'.fundingCache = store.fundingCache
  usage : store'.usage = store.usage
  rows : ∀ channelId, store'.channels.lookup channelId = store.channels.lookup channelId ∨
    ∃ row row', store.channels.lookup channelId = some row ∧
      store'.channels.lookup channelId = some row' ∧ row'.funding = row.funding ∧
      (row.Fits → row'.Fits)

theorem Edits.refl (store : SqliteStorage T) : store.Edits store :=
  ⟨rfl, rfl, fun _ => .inl rfl⟩

theorem edits_of_insert {store' : SqliteStorage T} {row row' : ChannelRow T}
    (rows : store'.channels = store.channels.insert channelId row')
    (cache : store'.fundingCache = store.fundingCache) (usage : store'.usage = store.usage)
    (stored : store.channels.lookup channelId = some row) (funding : row'.funding = row.funding)
    (fits : row.Fits → row'.Fits) : store.Edits store' := by
  refine ⟨cache, usage, fun other => ?_⟩
  rw [rows]
  by_cases same : other = channelId
  · subst same
    exact .inr ⟨row, row', stored, AList.lookup_insert _, funding, fits⟩
  · exact .inl (AList.lookup_insert_ne same)

/-- A row comes from one with the same funding. -/
theorem Edits.row_before {store' : SqliteStorage T} (edits : store.Edits store')
    {row' : ChannelRow T} (found : store'.channels.lookup channelId = some row') :
    ∃ row, store.channels.lookup channelId = some row ∧ row'.funding = row.funding ∧
      (row.Fits → row'.Fits) := by
  rcases edits.rows channelId with same | ⟨row, after, stored, replaced, funding, fits⟩
  · exact ⟨row', same.symm.trans found, rfl, id⟩
  · obtain rfl := Option.some.inj (replaced.symm.trans found)
    exact ⟨row, stored, funding, fits⟩

/-- No row is lost. -/
theorem Edits.row_after {store' : SqliteStorage T} (edits : store.Edits store')
    {row : ChannelRow T} (stored : store.channels.lookup channelId = some row) :
    ∃ row', store'.channels.lookup channelId = some row' ∧ row'.funding = row.funding := by
  rcases edits.rows channelId with same | ⟨before, row', found, replaced, funding, -⟩
  · exact ⟨row, same.trans stored, rfl⟩
  · obtain rfl := Option.some.inj (found.symm.trans stored)
    exact ⟨row', replaced, funding⟩

theorem WellFormed.of_edits {store' : SqliteStorage T} (formed : store.WellFormed)
    (edits : store.Edits store') : store'.WellFormed := by
  refine ⟨?_, ?_⟩
  · intro channelId row' found
    obtain ⟨row, stored, -, -⟩ := edits.row_before found
    rw [edits.cache]
    exact formed.cached stored
  · intro channelId row' found
    obtain ⟨row, stored, -, fits⟩ := edits.row_before found
    exact fits (formed.balances stored)

/-- A payment that fits. -/
theorem fits_natCast {row : ChannelRow T} {balance : Nat} (small : balance < 2 ^ 63)
    (signature : String) : { row with balance := (balance : Int), signature }.Fits := by
  refine ⟨Int.natCast_nonneg balance, ?_⟩
  show (balance : Int) < 2 ^ 63
  omega

theorem edits_updateBalance (store : SqliteStorage T) (channelId : String)
    (payment : PaymentProof) : store.Edits (store.updateBalance channelId payment).2 := by
  by_cases accepted : store.getState channelId = .ok (some .opened) ∧ payment.balance < 2 ^ 63
  · obtain ⟨row, stored, isOpen⟩ := getState_eq_opened_iff.mp accepted.1
    rw [updateBalance_of_open stored isOpen accepted.2]
    by_cases replaces : row.balance < payment.balance ∨ row.signature = ""
    · rw [if_pos replaces]
      exact edits_of_insert rfl rfl rfl stored rfl fun _ => fits_natCast accepted.2 payment.signature
    · rw [if_neg replaces]
      exact .refl store
  · rw [(updateBalance_refused accepted).2]
    exact .refl store

theorem edits_markClosing (store : SqliteStorage T) (channelId : String) (data : ClosingData) :
    store.Edits (store.markClosing channelId data).2 := by
  unfold markClosing
  cases found : (store.channels.lookup channelId).filter (store.canClose channelId) with
  | none => exact .refl store
  | some row => exact edits_of_insert rfl rfl rfl (canClose_of_filter found).1 rfl id

theorem edits_markClosed (store : SqliteStorage T) (channelId : String)
    (data : ClosedDataView T) : store.Edits (store.markClosed channelId data).2 := by
  unfold markClosed
  cases found : (store.channels.lookup channelId).filter (store.canClose channelId) with
  | none => exact .refl store
  | some row => exact edits_of_insert rfl rfl rfl (canClose_of_filter found).1 rfl id

/-- Counters have a table of their own. -/
theorem Counting.of_usage_eq {store' : SqliteStorage T} (counting : store.Counting)
    (same : store'.usage = store.usage) : store'.Counting := by
  intro key cell found
  rw [same] at found
  exact counting found

end SqliteStorage

/-- Balances and counters of the store over SQLite are below `2 ^ 63`. -/
def sqliteLaws {T : Carriers} (L : Cashu T) : (sqliteStorage L).Laws where
  wellFormed := SqliteStorage.WellFormed
  counting := SqliteStorage.Counting
  keeps := fun balance => balance < 2 ^ 63
  counts := fun count => count < 2 ^ 63
  saveFunding := fun channelId funding formed =>
    ⟨rfl, SqliteStorage.wellFormed_saveFunding formed channelId funding,
      SqliteStorage.saveFunding_changes (formed.getFunding_saveFunding channelId funding)⟩
  updateBalance := fun _ _ formed signed isOpen small => by
    obtain ⟨row, stored, rowOpen⟩ := SqliteStorage.getState_eq_opened_iff.mp isOpen
    have changes := SqliteStorage.updateBalance_changes (L := L) signed stored
      (formed.balances stored) rowOpen small
    exact ⟨changes.1, formed.of_edits (SqliteStorage.edits_updateBalance _ _ _), changes.2⟩
  updateBalance_refused := fun _ _ refused => SqliteStorage.updateBalance_refused refused
  incrementUsage_frame := fun channelId increments formed =>
    ⟨⟨formed.cached, formed.balances⟩, SqliteStorage.incrementUsage_frame _ channelId increments⟩
  incrementUsage := fun channelId increments _ counting small =>
    SqliteStorage.incrementUsage_changes counting channelId increments small
  markClosing := fun channelId data formed =>
    ⟨formed.of_edits (SqliteStorage.edits_markClosing _ channelId data),
      SqliteStorage.markClosing_changes _ channelId data⟩
  markClosed := fun channelId data formed =>
    ⟨formed.of_edits (SqliteStorage.edits_markClosed _ channelId data),
      SqliteStorage.markClosed_changes _ channelId data⟩
  setKeyset := fun _ _ _ formed => ⟨⟨formed.cached, formed.balances⟩, fun _ => rfl⟩
  counting_kept := fun counting =>
    ⟨fun _ _ => counting.of_usage_eq rfl,
      fun channelId payment =>
        counting.of_usage_eq (SqliteStorage.edits_updateBalance _ channelId payment).usage,
      fun channelId data =>
        counting.of_usage_eq (SqliteStorage.edits_markClosing _ channelId data).usage,
      fun channelId data =>
        counting.of_usage_eq (SqliteStorage.edits_markClosed _ channelId data).usage,
      fun _ _ _ => counting.of_usage_eq rfl⟩

end Spilman
