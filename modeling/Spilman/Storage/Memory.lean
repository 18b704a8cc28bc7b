/-
# The store in memory

Hash maps behind locks. The lifecycle of a channel is not stored by itself: a
channel is closed if it is among the closed ones, else closing if it is among
those, else open if it has funding.
-/

import Spilman.Storage.Interface

namespace Spilman

open Lib

/-- The maps of the store. -/
structure MemoryStorage (T : Carriers) where
  closeJournals : Table String String
  funding : Table String (ChannelFunding T)
  balance : Table String PaymentProof
  usage : Table String UsageMap
  closing : Table String ClosingData
  closed : Table String (ClosedDataView T)
  keysets : Table (String × T.Id) (KeysetCacheEntry T)

namespace MemoryStorage

variable {T : Carriers}

/-- An empty store. -/
def new : MemoryStorage T := ⟨∅, ∅, ∅, ∅, ∅, ∅, ∅⟩

def getState (store : MemoryStorage T) (channelId : String) :
    Except String (Option ChannelState) :=
  if channelId ∈ store.closed then .ok (some .closed)
  else if channelId ∈ store.closing then .ok (some .closing)
  else if channelId ∈ store.funding then .ok (some .opened)
  else .ok none

def getFunding (store : MemoryStorage T) (channelId : String) : Option (ChannelFunding T) :=
  store.funding.lookup channelId

/-- Idempotent: a channel that has funding keeps it. -/
def saveFunding (store : MemoryStorage T) (channelId : String) (funding : ChannelFunding T) :
    Except String Unit × MemoryStorage T :=
  if channelId ∈ store.funding then (.ok (), store)
  else (.ok (), { store with funding := store.funding.insert channelId funding })

def getBalance (store : MemoryStorage T) (channelId : String) : Option PaymentProof :=
  store.balance.lookup channelId

/-- Monotonic: a payment that is not larger is not stored. -/
def updateBalance (store : MemoryStorage T) (channelId : String) (payment : PaymentProof) :
    Except String Unit × MemoryStorage T :=
  if store.getState channelId ≠ .ok (some .opened) then (.error "channel is not open", store)
  else
    let shouldUpdate := match store.balance.lookup channelId with
      | some held => decide (held.balance < payment.balance)
      | none => true
    if shouldUpdate then
      (.ok (), { store with balance := store.balance.insert channelId payment })
    else (.ok (), store)

/-- An empty map counts as none. -/
def getUsage (store : MemoryStorage T) (channelId : String) : Option UsageMap :=
  (store.usage.lookup channelId).filter fun usage => !usage.entries.isEmpty

def incrementUsage (store : MemoryStorage T) (channelId : String) (increments : UsageMap) :
    Except String Unit × MemoryStorage T :=
  let usage := (store.usage.lookup channelId).getD ∅
  (.ok (), { store with
    usage := store.usage.insert channelId
      (Table.merge id (fun count delta => (count.getD 0 + delta) % 2 ^ 64) increments.entries
        usage) })

def markClosing (store : MemoryStorage T) (channelId : String) (data : ClosingData) :
    Except String Unit × MemoryStorage T :=
  if channelId ∈ store.closeJournals then
    (.error "channel has an application close journal", store)
  else if channelId ∈ store.closed then (.error "channel already closed", store)
  else (.ok (), { store with closing := store.closing.insert channelId data })

def getClosingData (store : MemoryStorage T) (channelId : String) : Option ClosingData :=
  store.closing.lookup channelId

def markClosed (store : MemoryStorage T) (channelId : String) (data : ClosedDataView T) :
    Except String Unit × MemoryStorage T :=
  if channelId ∈ store.closeJournals then
    (.error "channel has an application close journal", store)
  else if channelId ∈ store.closed then (.error "channel already closed", store)
  else (.ok (), { store with
    closed := store.closed.insert channelId data
    closing := store.closing.erase channelId })

def getClosedData (store : MemoryStorage T) (channelId : String) : Option (ClosedDataView T) :=
  store.closed.lookup channelId

def comparePayment (store : MemoryStorage T) (channelId : String)
    (expected payment : PaymentProof) : Except String Unit × MemoryStorage T :=
  if store.getState channelId ≠ .ok (some .opened) ∨ payment.balance ≤ expected.balance then
    (.error "payment state conflict", store)
  else
    match store.balance.lookup channelId with
    | none => (.error "missing payment", store)
    | some current =>
        if current.balance ≠ expected.balance ∨ current.signature ≠ expected.signature then
          (.error "payment snapshot conflict", store)
        else (.ok (), { store with balance := store.balance.insert channelId payment })

def getCloseJournal (store : MemoryStorage T) (channelId : String) :
    Except String (Option String) :=
  .ok (store.closeJournals.lookup channelId)

def freezeClose (store : MemoryStorage T) (channelId : String) (expected : PaymentProof)
    (closing : ClosingData) (journal : String) : Except String Unit × MemoryStorage T :=
  if closing.balance ≠ expected.balance ∨ closing.signature ≠ expected.signature then
    (.error "close authorization mismatch", store)
  else
    match store.getBalance channelId with
    | none => (.error "missing payment", store)
    | some payment =>
        if (store.getFunding channelId).isNone ∨ store.getState channelId ≠ .ok (some .opened) ∨
            payment.balance ≠ expected.balance ∨ payment.signature ≠ expected.signature ∨
            (store.closeJournals.lookup channelId).isSome then
          (.error "close payment or state conflict", store)
        else (.ok (), { store with
          closing := store.closing.insert channelId closing
          closeJournals := store.closeJournals.insert channelId journal })

def advanceClose (store : MemoryStorage T) (channelId expected journal : String)
    (completed : Option (ClosedDataView T)) : Except String Unit × MemoryStorage T :=
  if store.closeJournals.lookup channelId ≠ some expected ∨
      store.getState channelId ≠ .ok (some .closing) then
    (.error "close journal conflict", store)
  else
    match completed with
    | some data => (.ok (), { store with
        closed := store.closed.insert channelId data
        closing := store.closing.erase channelId
        closeJournals := store.closeJournals.insert channelId journal })
    | none => (.ok (), { store with
        closeJournals := store.closeJournals.insert channelId journal })

def getKeyset (store : MemoryStorage T) (mint : String) (id : T.Id) :
    Option (KeysetCacheEntry T) :=
  store.keysets.lookup (mint, id)

def setKeyset (store : MemoryStorage T) (mint : String) (id : T.Id) (entry : KeysetCacheEntry T) :
    Except String Unit × MemoryStorage T :=
  (.ok (), { store with keysets := store.keysets.insert (mint, id) entry })

def getActiveKeysetIds (store : MemoryStorage T) (mint : String) (unit : T.CurrencyUnit) :
    List T.Id :=
  store.keysets.entries.filterMap fun row =>
    if row.1.1 = mint ∧ row.2.unit = unit ∧ row.2.active then some row.1.2 else none

end MemoryStorage

/-- The interface in memory. -/
def memoryStorage (T : Carriers) : SpilmanStorage T (MemoryStorage T) where
  getFunding := MemoryStorage.getFunding
  saveFunding := MemoryStorage.saveFunding
  getBalance := MemoryStorage.getBalance
  updateBalance := MemoryStorage.updateBalance
  getUsage := MemoryStorage.getUsage
  incrementUsage := MemoryStorage.incrementUsage
  getState := MemoryStorage.getState
  markClosing := MemoryStorage.markClosing
  getClosingData := MemoryStorage.getClosingData
  markClosed := MemoryStorage.markClosed
  getClosedData := MemoryStorage.getClosedData
  comparePayment := MemoryStorage.comparePayment
  getCloseJournal := MemoryStorage.getCloseJournal
  freezeClose := MemoryStorage.freezeClose
  advanceClose := MemoryStorage.advanceClose
  getKeyset := MemoryStorage.getKeyset
  setKeyset := MemoryStorage.setKeyset
  getActiveKeysetIds := MemoryStorage.getActiveKeysetIds

/-! ## Its laws -/

namespace MemoryStorage

variable {T : Carriers} {store : MemoryStorage T} {channelId other : String}

/-- Leaving out empty maps does not change what a variable counts. -/
theorem count_getUsage (store : MemoryStorage T) (channelId var : String) :
    ((store.getUsage channelId).bind fun usage => usage.lookup var).getD 0 =
      (((store.usage.lookup channelId).getD ∅).lookup var).getD 0 := by
  unfold getUsage
  cases store.usage.lookup channelId with
  | none => rfl
  | some usage =>
      obtain ⟨entries, nodup⟩ := usage
      cases entries with
      | nil => rfl
      | cons entry rest => rfl

theorem getState_eq_opened_iff :
    store.getState channelId = .ok (some .opened) ↔
      channelId ∉ store.closed ∧ channelId ∉ store.closing ∧ channelId ∈ store.funding := by
  unfold getState
  split_ifs <;> simp_all

theorem getState_eq_closed_iff :
    store.getState channelId = .ok (some .closed) ↔ channelId ∈ store.closed := by
  unfold getState
  split_ifs <;> simp_all

theorem saveFunding_ok (store : MemoryStorage T) (channelId : String)
    (funding : ChannelFunding T) : (store.saveFunding channelId funding).1 = .ok () := by
  unfold saveFunding
  split_ifs <;> rfl

theorem saveFunding_changes (store : MemoryStorage T) (channelId : String)
    (funding : ChannelFunding T) :
    (memoryStorage T).Changes store (store.saveFunding channelId funding).2 channelId
      (·.saveFunding funding) := by
  by_cases known : channelId ∈ store.funding
  · have state : store.getState channelId ≠ .ok none := by
      unfold getState
      split_ifs <;> simp
    have stored : (store.getFunding channelId).isSome := AList.lookup_isSome.mpr known
    refine ⟨?_, fun _ _ => by simp only [saveFunding, known, if_true]⟩
    simp only [saveFunding, known, if_true]
    refine ChannelView.ext (if_neg state).symm ?_ rfl rfl rfl rfl
    exact (Option.or_of_isSome stored).symm
  · have fresh : store.getFunding channelId = none := AList.lookup_eq_none.mpr known
    refine ⟨?_, fun other apart => ?_⟩
    · simp only [saveFunding, known, if_false]
      refine ChannelView.ext ?_ ?_ rfl rfl rfl rfl
      · show getState _ channelId = if store.getState channelId = .ok none then .ok (some .opened)
          else store.getState channelId
        unfold getState
        split_ifs <;> simp_all
      · show AList.lookup channelId (store.funding.insert channelId funding) = _
        rw [AList.lookup_insert]
        exact (congrArg (·.or (some funding)) fresh).symm
    · simp only [saveFunding, known, if_false]
      refine ChannelView.ext ?_ (AList.lookup_insert_ne apart) rfl rfl rfl rfl
      show getState _ other = store.getState other
      simp [getState, AList.mem_insert, apart]

theorem updateBalance_of_not_open (payment : PaymentProof)
    (refused : store.getState channelId ≠ .ok (some .opened)) :
    store.updateBalance channelId payment = (.error "channel is not open", store) :=
  if_pos refused

theorem updateBalance_of_open (payment : PaymentProof)
    (isOpen : store.getState channelId = .ok (some .opened)) :
    (store.updateBalance channelId payment).1 = .ok () ∧
      (memoryStorage T).Changes store (store.updateBalance channelId payment).2 channelId
        (·.updateBalance payment) := by
  have others : ∀ other, other ≠ channelId →
      (store.balance.insert channelId payment).lookup other = store.balance.lookup other :=
    fun _ apart => AList.lookup_insert_ne apart
  cases held : store.balance.lookup channelId with
  | none =>
      have stored : store.updateBalance channelId payment =
          (.ok (), { store with balance := store.balance.insert channelId payment }) := by
        simp [updateBalance, isOpen, held]
      rw [stored]
      refine ⟨rfl, ChannelView.ext rfl rfl ?_ rfl rfl rfl, fun other apart => ?_⟩
      · exact (AList.lookup_insert _).trans (by simp [SpilmanStorage.view, memoryStorage,
          getBalance, held, ChannelView.updateBalance])
      · exact ChannelView.ext rfl rfl (others other apart) rfl rfl rfl
  | some payment' =>
      by_cases larger : payment'.balance < payment.balance
      · have stored : store.updateBalance channelId payment =
            (.ok (), { store with balance := store.balance.insert channelId payment }) := by
          simp [updateBalance, isOpen, held, larger]
        rw [stored]
        refine ⟨rfl, ChannelView.ext rfl rfl ?_ rfl rfl rfl, fun other apart => ?_⟩
        · exact (AList.lookup_insert _).trans (by simp [SpilmanStorage.view, memoryStorage,
            getBalance, held, larger, ChannelView.updateBalance])
        · exact ChannelView.ext rfl rfl (others other apart) rfl rfl rfl
      · have stored : store.updateBalance channelId payment = (.ok (), store) := by
          simp [updateBalance, isOpen, held, larger]
        rw [stored]
        refine ⟨rfl, ChannelView.ext rfl rfl ?_ rfl rfl rfl, fun _ _ => rfl⟩
        simp [SpilmanStorage.view, memoryStorage, getBalance, held, larger,
          ChannelView.updateBalance]

theorem incrementUsage_changes (store : MemoryStorage T) (channelId : String)
    (increments : UsageMap) :
    (memoryStorage T).Changes store (store.incrementUsage channelId increments).2 channelId
      (·.incrementUsage increments) := by
  refine ⟨ChannelView.ext rfl rfl rfl ?_ rfl rfl, fun other apart =>
    ChannelView.ext rfl rfl rfl ?_ rfl rfl⟩
  · funext var
    refine (count_getUsage _ channelId var).trans ?_
    have before : ((memoryStorage T).view store channelId).usage var = _ :=
      count_getUsage store channelId var
    have merged := Table.lookup_merge (fun count delta => (count.getD 0 + delta) % 2 ^ 64)
      Function.injective_id increments ((store.usage.lookup channelId).getD ∅) var
    simp only [incrementUsage, AList.lookup_insert, Option.getD_some]
    refine (congrArg (fun count => count.getD 0) merged).trans ?_
    cases counted : increments.lookup var with
    | some delta =>
        rw [ChannelView.usage_incrementUsage_some counted, before]
        rfl
    | none =>
        rw [ChannelView.usage_incrementUsage_none counted, before]
        rfl
  · funext var
    refine (count_getUsage _ other var).trans (Eq.trans ?_ (count_getUsage store other var).symm)
    simp only [incrementUsage, AList.lookup_insert_ne apart]

theorem markClosing_changes (store : MemoryStorage T) (channelId : String) (data : ClosingData) :
    (store.markClosing channelId data).1 ≠ .ok () ∧ (store.markClosing channelId data).2 = store ∨
      (store.markClosing channelId data).1 = .ok () ∧
        ¬ ((memoryStorage T).view store channelId).IsClosed ∧
        (memoryStorage T).Changes store (store.markClosing channelId data).2 channelId
          (·.markClosing data) := by
  unfold markClosing
  split_ifs with journal closed
  · exact .inl ⟨by simp, rfl⟩
  · exact .inl ⟨by simp, rfl⟩
  · refine .inr ⟨rfl, fun isClosed => closed (getState_eq_closed_iff.mp isClosed), ?_, ?_⟩
    · refine ChannelView.ext ?_ rfl rfl rfl (AList.lookup_insert _) rfl
      show getState _ channelId = .ok (some .closing)
      simp [getState, closed, AList.mem_insert]
    · intro other apart
      refine ChannelView.ext ?_ rfl rfl rfl (AList.lookup_insert_ne apart) rfl
      show getState _ other = store.getState other
      simp [getState, AList.mem_insert, apart]

theorem markClosed_changes (store : MemoryStorage T) (channelId : String)
    (data : ClosedDataView T) :
    (store.markClosed channelId data).1 ≠ .ok () ∧ (store.markClosed channelId data).2 = store ∨
      (store.markClosed channelId data).1 = .ok () ∧
        ¬ ((memoryStorage T).view store channelId).IsClosed ∧
        (memoryStorage T).Changes store (store.markClosed channelId data).2 channelId
          (·.markClosed data) := by
  unfold markClosed
  split_ifs with journal closed
  · exact .inl ⟨by simp, rfl⟩
  · exact .inl ⟨by simp, rfl⟩
  · refine .inr ⟨rfl, fun isClosed => closed (getState_eq_closed_iff.mp isClosed), ?_, ?_⟩
    · refine ChannelView.ext ?_ rfl rfl rfl (AList.lookup_erase _ _) (AList.lookup_insert _)
      show getState _ channelId = .ok (some .closed)
      simp [getState, AList.mem_insert]
    · intro other apart
      refine ChannelView.ext ?_ rfl rfl rfl (AList.lookup_erase_ne apart)
        (AList.lookup_insert_ne apart)
      show getState _ other = store.getState other
      simp [getState, AList.mem_insert, AList.mem_erase, apart]

end MemoryStorage

/-- The store in memory has no limits of its own: its counters wrap. -/
def memoryLaws (T : Carriers) : (memoryStorage T).Laws where
  wellFormed := fun _ => True
  counting := fun _ => True
  keeps := fun _ => True
  counts := fun _ => True
  saveFunding := fun channelId funding _ =>
    ⟨MemoryStorage.saveFunding_ok _ channelId funding, trivial,
      MemoryStorage.saveFunding_changes _ channelId funding⟩
  updateBalance := fun _ _ _ _ isOpen _ =>
    have stored := MemoryStorage.updateBalance_of_open _ isOpen
    ⟨stored.1, trivial, stored.2⟩
  updateBalance_refused := fun channelId payment refused => by
    have unchanged := MemoryStorage.updateBalance_of_not_open payment
      (fun isOpen => refused ⟨isOpen, trivial⟩)
    simp [memoryStorage, unchanged]
  incrementUsage_frame := fun channelId increments _ =>
    ⟨trivial, _, MemoryStorage.incrementUsage_changes _ channelId increments⟩
  incrementUsage := fun channelId increments _ _ _ =>
    ⟨trivial, MemoryStorage.incrementUsage_changes _ channelId increments⟩
  markClosing := fun channelId data _ =>
    ⟨trivial, MemoryStorage.markClosing_changes _ channelId data⟩
  markClosed := fun channelId data _ =>
    ⟨trivial, MemoryStorage.markClosed_changes _ channelId data⟩
  setKeyset := fun _ _ _ _ => ⟨trivial, fun _ => rfl⟩
  counting_kept := fun _ =>
    ⟨fun _ _ => trivial, fun _ _ => trivial, fun _ _ => trivial, fun _ _ => trivial,
      fun _ _ _ => trivial⟩

end Spilman
