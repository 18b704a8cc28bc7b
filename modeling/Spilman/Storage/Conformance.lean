/-
# Both stores keep the lifecycle

The store in memory and the store over SQLite implement the abstract store, where two
things are left out that neither of them guards against. In memory a close can be marked
for a channel that has never been funded. Over SQLite a payment without a signature counts
as no payment; and once the database has been opened anew, funding that is saved for a
stored channel hides the stored funding until the next time.
-/

import Spilman.Sample
import Spilman.Storage.Config
import Spilman.Storage.Lifecycle

namespace Spilman

open Lib

variable {T : Carriers}

/-- Payments are compared by their fields. -/
theorem differs_iff {payment expected : PaymentProof} :
    payment.balance ≠ expected.balance ∨ payment.signature ≠ expected.signature ↔
      payment ≠ expected := by
  obtain ⟨balance, signature⟩ := payment
  obtain ⟨balance', signature'⟩ := expected
  simp only [ne_eq, PaymentProof.mk.injEq, not_and_or]

theorem mismatch_iff {closing : ClosingData} {expected : PaymentProof} :
    closing.balance ≠ expected.balance ∨ closing.signature ≠ expected.signature ↔
      closing.payment ≠ expected := by
  rw [← differs_iff]
  rfl

/-! ## In memory -/

namespace MemoryStorage

/-- The store in memory as a machine. It is never opened anew. -/
def machine (T : Carriers) :
    Machine (StorageOperation T) (Except String Unit) (MemoryStorage T) :=
  (memoryStorage T).machine (fun store _ => store) id

/-- Closes are marked for channels that are known. -/
def Permits (operation : StorageOperation T) (store : MemoryStorage T) : Prop :=
  match operation with
  | .markClosing channelId _ | .markClosed channelId _ => store.getState channelId ≠ .ok none
  | _ => True

instance decidablePermits (operation : StorageOperation T) (store : MemoryStorage T) :
    Decidable (Permits operation store) :=
  match operation with
  | .markClosing _ _ | .markClosed _ _ => inferInstanceAs (Decidable (_ ≠ _))
  | .getFunding _ | .saveFunding _ _ | .updateBalance _ _ | .comparePayment _ _ _
  | .incrementUsage _ _ | .freezeClose _ _ _ _ | .advanceClose _ _ _ _ | .setKeyset _ _ _
  | .reopen => isTrue trivial

variable {store store' : MemoryStorage T} {channelId other : String}

/-- What the maps have under the name of a channel is all that is on record. -/
theorem record_congr
    (funding : store'.funding.lookup channelId = store.funding.lookup channelId)
    (balance : store'.balance.lookup channelId = store.balance.lookup channelId)
    (closing : store'.closing.lookup channelId = store.closing.lookup channelId)
    (closed : store'.closed.lookup channelId = store.closed.lookup channelId)
    (journals : store'.closeJournals.lookup channelId = store.closeJournals.lookup channelId) :
    (memoryStorage T).record store' channelId = (memoryStorage T).record store channelId := by
  refine ChannelRecord.ext ?_ funding balance closing closed (congrArg Except.ok journals)
  show store'.getState channelId = store.getState channelId
  simp only [getState, ← AList.lookup_isSome, funding, closing, closed]

/-- Where a close can be marked, if the channel is known. -/
theorem isMarkable_iff (known : store.getState channelId ≠ .ok none) :
    ((memoryStorage T).record store channelId).IsMarkable ↔
      channelId ∉ store.closeJournals ∧ channelId ∉ store.closed := by
  have journal : ((memoryStorage T).record store channelId).journal = .ok none ↔
      channelId ∉ store.closeJournals := by
    rw [← AList.lookup_eq_none]
    exact ⟨Except.ok.inj, congrArg Except.ok⟩
  have alive : ((memoryStorage T).record store channelId).IsOpen ∨
      ((memoryStorage T).record store channelId).IsClosing ↔ channelId ∉ store.closed := by
    show store.getState channelId = .ok (some .opened) ∨
      store.getState channelId = .ok (some .closing) ↔ _
    unfold getState at known ⊢
    split_ifs at known ⊢ <;> simp_all
  unfold ChannelRecord.IsMarkable
  rw [alive, journal, and_comm]

theorem does_saveFunding (store : MemoryStorage T) (channelId : String)
    (funding : ChannelFunding T) :
    Does (fun _ => True) (memoryStorage T).record (.saveFunding channelId funding) store
      (store.saveFunding channelId funding) := by
  refine does_of_accepted (saveFunding_ok store channelId funding) trivial
    (apply_eq_of_views rfl (saveFunding_changes store channelId funding) (fun _ _ => rfl) ?_)
  intro other
  show Except.ok _ = Except.ok _
  unfold saveFunding
  split_ifs <;> rfl

theorem does_updateBalance (store : MemoryStorage T) (channelId : String)
    (payment : PaymentProof) :
    Does (fun _ => True) (memoryStorage T).record (.updateBalance channelId payment) store
      (store.updateBalance channelId payment) := by
  by_cases isOpen : store.getState channelId = .ok (some .opened)
  · obtain ⟨succeeded, changes⟩ := updateBalance_of_open payment isOpen
    refine does_of_accepted succeeded ⟨isOpen, trivial⟩
      (apply_eq_of_views rfl changes (fun _ _ => rfl) ?_)
    intro other
    show Except.ok _ = Except.ok _
    simp only [updateBalance, isOpen, ne_eq, not_true_eq_false, if_false]
    split_ifs <;> rfl
  · have refused := updateBalance_of_not_open payment isOpen
    rw [refused]
    exact does_of_refused (by simp) rfl fun accepted => isOpen accepted.1

theorem does_comparePayment (store : MemoryStorage T) (channelId : String)
    (expected payment : PaymentProof) :
    Does (fun _ => True) (memoryStorage T).record
      (.comparePayment channelId expected payment) store
      (store.comparePayment channelId expected payment) := by
  unfold comparePayment
  by_cases conflict : store.getState channelId ≠ .ok (some .opened) ∨
      payment.balance ≤ expected.balance
  · rw [if_pos conflict]
    refine does_of_refused (by simp) rfl ?_
    rintro ⟨isOpen, -, larger, -⟩
    rcases conflict with notOpen | notLarger
    · exact notOpen isOpen
    · exact absurd larger (Nat.not_lt.mpr notLarger)
  · rw [if_neg conflict]
    obtain ⟨isOpen, larger⟩ := not_or.mp conflict
    cases held : store.balance.lookup channelId with
    | none =>
        refine does_of_refused (by simp) rfl ?_
        rintro ⟨-, isPayment, -⟩
        exact Option.some_ne_none _ (isPayment.symm.trans held)
    | some current =>
        dsimp only
        by_cases same : current = expected
        · rw [if_neg fun differs => differs_iff.mp differs same]
          refine does_of_accepted rfl ⟨not_not.mp isOpen, held.trans (congrArg some same),
            Nat.not_le.mp larger, trivial⟩ (apply_eq_of_changes rfl ?_ ?_)
          · exact ChannelRecord.ext rfl rfl (AList.lookup_insert _) rfl rfl rfl
          · exact fun other apart => record_congr rfl (AList.lookup_insert_ne apart) rfl rfl rfl
        · rw [if_pos (differs_iff.mpr same)]
          refine does_of_refused (by simp) rfl ?_
          rintro ⟨-, isPayment, -⟩
          exact same (Option.some.inj (held.symm.trans isPayment))

theorem markClosing_ok_iff (data : ClosingData) :
    (store.markClosing channelId data).1 = .ok () ↔
      channelId ∉ store.closeJournals ∧ channelId ∉ store.closed := by
  unfold markClosing
  split_ifs <;> simp_all

theorem markClosed_ok_iff (data : ClosedDataView T) :
    (store.markClosed channelId data).1 = .ok () ↔
      channelId ∉ store.closeJournals ∧ channelId ∉ store.closed := by
  unfold markClosed
  split_ifs <;> simp_all

theorem does_markClosing (known : store.getState channelId ≠ .ok none) (data : ClosingData) :
    Does (fun _ => True) (memoryStorage T).record (.markClosing channelId data) store
      (store.markClosing channelId data) := by
  have accepted := (markClosing_ok_iff data).trans (isMarkable_iff known).symm
  rcases markClosing_changes store channelId data with
    ⟨failed, unchanged⟩ | ⟨succeeded, -, changes⟩
  · exact does_of_refused failed unchanged fun markable => failed (accepted.mpr markable)
  · refine does_of_accepted succeeded (accepted.mp succeeded)
      (apply_eq_of_views rfl changes (fun _ _ => rfl) ?_)
    intro other
    show Except.ok _ = Except.ok _
    unfold markClosing
    split_ifs <;> rfl

theorem does_markClosed (known : store.getState channelId ≠ .ok none) (data : ClosedDataView T) :
    Does (fun _ => True) (memoryStorage T).record (.markClosed channelId data) store
      (store.markClosed channelId data) := by
  have accepted := (markClosed_ok_iff data).trans (isMarkable_iff known).symm
  rcases markClosed_changes store channelId data with
    ⟨failed, unchanged⟩ | ⟨succeeded, -, changes⟩
  · exact does_of_refused failed unchanged fun markable => failed (accepted.mpr markable)
  · refine does_of_accepted succeeded (accepted.mp succeeded)
      (apply_eq_of_views rfl changes (fun _ _ => rfl) ?_)
    intro other
    show Except.ok _ = Except.ok _
    unfold markClosed
    split_ifs <;> rfl

/-- A channel that is open has no journal, since its record is orderly. -/
theorem does_freezeClose (orderly : Orderly ((memoryStorage T).record store channelId))
    (expected : PaymentProof) (closing : ClosingData) (journal : String) :
    Does (fun _ => True) (memoryStorage T).record
      (.freezeClose channelId expected closing journal) store
      (store.freezeClose channelId expected closing journal) := by
  unfold freezeClose
  by_cases matched : closing.payment = expected
  · rw [if_neg fun mismatch => mismatch_iff.mp mismatch matched]
    cases held : store.getBalance channelId with
    | none =>
        refine does_of_refused (by simp) rfl ?_
        rintro ⟨-, -, isPayment⟩
        exact Option.some_ne_none _ (isPayment.symm.trans held)
    | some payment =>
        dsimp only
        by_cases accepted : ((memoryStorage T).record store channelId).IsOpen ∧
            payment = expected
        · obtain ⟨isOpen, rfl⟩ := accepted
          obtain ⟨funding, stored, shape⟩ := orderly.of_isOpen isOpen
          have isFunding : store.getFunding channelId = some funding :=
            congrArg ChannelRecord.funding shape
          have noJournal : store.closeJournals.lookup channelId = none :=
            Except.ok.inj (congrArg ChannelRecord.journal shape)
          have state : store.getState channelId = .ok (some .opened) := isOpen
          obtain ⟨notClosed, -, -⟩ := getState_eq_opened_iff.mp state
          rw [if_neg (by simp [isFunding, noJournal, state])]
          refine does_of_accepted rfl ⟨matched, isOpen, held⟩ (apply_eq_of_changes rfl ?_ ?_)
          · refine ChannelRecord.ext ?_ rfl rfl (AList.lookup_insert _) rfl
              (congrArg Except.ok (AList.lookup_insert _))
            show getState _ channelId = .ok (some .closing)
            simp [getState, notClosed, AList.mem_insert]
          · exact fun other apart => record_congr rfl rfl (AList.lookup_insert_ne apart) rfl
              (AList.lookup_insert_ne apart)
        · rw [if_pos ?_]
          · refine does_of_refused (by simp) rfl ?_
            rintro ⟨-, isOpen, isPayment⟩
            exact accepted ⟨isOpen, Option.some.inj (held.symm.trans isPayment)⟩
          · by_cases same : payment = expected
            · exact .inr (.inl fun isOpen => accepted ⟨isOpen, same⟩)
            · rcases differs_iff.mpr same with differs | differs
              · exact .inr (.inr (.inl differs))
              · exact .inr (.inr (.inr (.inl differs)))
  · rw [if_pos (mismatch_iff.mpr matched)]
    exact does_of_refused (by simp) rfl fun accepted => matched accepted.1

theorem does_advanceClose (store : MemoryStorage T) (channelId expected journal : String)
    (completed : Option (ClosedDataView T)) :
    Does (fun _ => True) (memoryStorage T).record
      (.advanceClose channelId expected journal completed) store
      (store.advanceClose channelId expected journal completed) := by
  unfold advanceClose
  by_cases conflict : store.closeJournals.lookup channelId ≠ some expected ∨
      store.getState channelId ≠ .ok (some .closing)
  · rw [if_pos conflict]
    refine does_of_refused (by simp) rfl ?_
    rintro ⟨isClosing, isJournal⟩
    rcases conflict with differs | notClosing
    · exact differs (Except.ok.inj isJournal)
    · exact notClosing isClosing
  · rw [if_neg conflict]
    obtain ⟨isJournal, isClosing⟩ := not_or.mp conflict
    have accepted : (StorageOperation.advanceClose channelId expected journal completed).Accepted
        (fun _ => True) ((memoryStorage T).record store) :=
      ⟨not_not.mp isClosing, congrArg Except.ok (not_not.mp isJournal)⟩
    cases completed with
    | none =>
        refine does_of_accepted rfl accepted (apply_eq_of_changes rfl ?_ ?_)
        · exact ChannelRecord.ext rfl rfl rfl rfl rfl (congrArg Except.ok (AList.lookup_insert _))
        · exact fun other apart => record_congr rfl rfl rfl rfl (AList.lookup_insert_ne apart)
    | some data =>
        refine does_of_accepted rfl accepted (apply_eq_of_changes rfl ?_ ?_)
        · refine ChannelRecord.ext ?_ rfl rfl (AList.lookup_erase _ _) (AList.lookup_insert _)
            (congrArg Except.ok (AList.lookup_insert _))
          show getState _ channelId = .ok (some .closed)
          simp [getState, AList.mem_insert]
        · exact fun other apart => record_congr rfl rfl (AList.lookup_erase_ne apart)
            (AList.lookup_insert_ne apart) (AList.lookup_insert_ne apart)

/-- **The store in memory implements the abstract store**, as far as closes are marked for
channels that are known. -/
theorem implements :
    Implements (machine T) (memoryStorage T).record (fun _ => True) (fun _ => True) Permits where
  formed := fun _ _ _ _ _ => trivial
  does := by
    intro operation store _ orderly permitted
    cases operation with
    | getFunding channelId => exact does_of_accepted rfl trivial rfl
    | saveFunding channelId funding => exact does_saveFunding store channelId funding
    | updateBalance channelId payment => exact does_updateBalance store channelId payment
    | comparePayment channelId expected payment =>
        exact does_comparePayment store channelId expected payment
    | incrementUsage channelId increments => exact does_of_accepted rfl trivial rfl
    | markClosing channelId data => exact does_markClosing permitted data
    | markClosed channelId data => exact does_markClosed permitted data
    | freezeClose channelId expected closing journal =>
        exact does_freezeClose (orderly channelId) expected closing journal
    | advanceClose channelId expected journal completed =>
        exact does_advanceClose store channelId expected journal completed
    | setKeyset mint id entry => exact does_of_accepted rfl trivial rfl
    | reopen => exact does_of_accepted rfl trivial rfl

end MemoryStorage

/-! ## Over SQLite -/

theorem Orderly.readable {record : ChannelRecord T} (orderly : Orderly record) :
    ∃ state, record.state = .ok state := by
  cases orderly with
  | unknown => exact ⟨_, rfl⟩
  | opened funding payment => exact ⟨_, rfl⟩
  | closing funding payment data => exact ⟨_, rfl⟩
  | frozen funding data journal => exact ⟨_, rfl⟩
  | closed funding payment data journal => exact ⟨_, rfl⟩

namespace SqliteStorage

variable {L : Cashu T} {store store' : SqliteStorage T} {channelId other : String}

/-- The store over SQLite as a machine. -/
def machine (L : Cashu T) :
    Machine (StorageOperation T) (Except String Unit) (SqliteStorage T) :=
  (sqliteStorage L).machine afterGetFunding reopen

/-- Payments are signed, and no funding is saved in place of one that is stored but has
not been read since the database was opened. -/
def Permits (operation : StorageOperation T) (store : SqliteStorage T) : Prop :=
  match operation with
  | .saveFunding channelId funding => channelId ∉ store.fundingCache →
      ∀ row ∈ store.channels.lookup channelId, row.funding = funding
  | .updateBalance _ payment => payment.signature ≠ ""
  | .comparePayment _ expected payment => expected.signature ≠ "" ∧ payment.signature ≠ ""
  | .freezeClose _ expected _ _ => expected.signature ≠ ""
  | _ => True

instance decidablePermits (operation : StorageOperation T) (store : SqliteStorage T) :
    Decidable (Permits operation store) :=
  match operation with
  | .saveFunding _ _ => inferInstanceAs (Decidable (_ → _))
  | .updateBalance _ _ | .freezeClose _ _ _ _ => inferInstanceAs (Decidable (_ ≠ _))
  | .comparePayment _ _ _ => inferInstanceAs (Decidable (_ ∧ _))
  | .getFunding _ | .incrementUsage _ _ | .markClosing _ _ | .markClosed _ _
  | .advanceClose _ _ _ _ | .setKeyset _ _ _ | .reopen => isTrue trivial

/-- The cache has what the rows have, and balances fit into their column. -/
structure Consistent (store : SqliteStorage T) : Prop where
  cached : ∀ {channelId funding}, store.fundingCache.lookup channelId = some funding →
    ∃ row, store.channels.lookup channelId = some row ∧ row.funding = funding
  balances : ∀ {channelId row}, store.channels.lookup channelId = some row → row.Fits

theorem Consistent.getFunding_of_row (consistent : store.Consistent) {row : ChannelRow T}
    (stored : store.channels.lookup channelId = some row) :
    store.getFunding channelId = some row.funding := by
  unfold getFunding
  cases cached : store.fundingCache.lookup channelId with
  | none => rw [stored, Option.none_or, Option.map_some]
  | some funding =>
      obtain ⟨row', stored', rfl⟩ := consistent.cached cached
      obtain rfl := Option.some.inj (stored.symm.trans stored')
      rw [Option.some_or]

/-- The record of a channel that has a row. -/
theorem Consistent.record_of_row (consistent : store.Consistent) {row : ChannelRow T}
    (stored : store.channels.lookup channelId = some row) :
    (sqliteStorage L).record store channelId =
      { state := if row.state = "Open" then .ok (some .opened)
          else if row.state = "Closing" then .ok (some .closing)
          else if row.state = "Closed" then .ok (some .closed)
          else .error "invalid stored receiver channel state"
        funding := some row.funding
        payment := if row.signature ≠ "" then some ⟨row.balance.toNat, row.signature⟩ else none
        closing := if row.state = "Closing" then row.closing else none
        closed := if row.state = "Closed" then row.closed else none
        journal := .ok (store.closeJournals.lookup channelId) } := by
  have funding := consistent.getFunding_of_row stored
  have balance := (consistent.balances stored).toU64_balance
  have view := view_of_row (L := L) stored
  rw [SpilmanStorage.record_eq, view, balance]
  exact ChannelRecord.ext rfl ((congrArg ChannelView.funding view).symm.trans funding) rfl rfl rfl
    rfl

theorem Consistent.of_edits (consistent : store.Consistent) (edits : store.Edits store') :
    store'.Consistent := by
  refine ⟨?_, ?_⟩
  · intro channelId funding cached
    rw [edits.cache] at cached
    obtain ⟨row, stored, rfl⟩ := consistent.cached cached
    exact edits.row_after stored
  · intro channelId row' found
    obtain ⟨row, stored, -, fits⟩ := edits.row_before found
    exact fits (consistent.balances stored)

/-! ### Operations -/

theorem openRow_eq_some_iff {payment : PaymentProof} {row : ChannelRow T} :
    store.openRow channelId payment = some row ↔
      store.channels.lookup channelId = some row ∧ row.state = "Open" ∧
        row.balance = payment.balance ∧ row.signature = payment.signature := by
  unfold openRow
  rw [Option.filter_eq_some_iff, decide_eq_true_eq]

theorem edits_comparePayment (store : SqliteStorage T) (channelId : String)
    (expected payment : PaymentProof) :
    store.Edits (store.comparePayment channelId expected payment).2 := by
  unfold comparePayment
  split_ifs with notLarger large largeExpected
  · exact .refl store
  · exact .refl store
  · exact .refl store
  · cases found : store.openRow channelId expected with
    | none => exact .refl store
    | some row =>
        exact edits_of_insert rfl rfl rfl (openRow_eq_some_iff.mp found).1 rfl
          fun _ => fits_natCast (Nat.not_le.mp large) payment.signature

theorem edits_freezeClose (store : SqliteStorage T) (channelId : String)
    (expected : PaymentProof) (closing : ClosingData) (journal : String) :
    store.Edits (store.freezeClose channelId expected closing journal).2 := by
  unfold freezeClose
  split_ifs with mismatch large isJournal
  · exact .refl store
  · exact .refl store
  · cases store.openRow channelId expected with
    | none => exact .refl store
    | some row => exact .refl store
  · cases found : store.openRow channelId expected with
    | none => exact .refl store
    | some row => exact edits_of_insert rfl rfl rfl (openRow_eq_some_iff.mp found).1 rfl id

/-- The row that is being closed. -/
theorem closingRow_of_filter {row : ChannelRow T}
    (found : ((store.channels.lookup channelId).filter fun row => row.state = "Closing") =
      some row) :
    store.channels.lookup channelId = some row ∧ row.state = "Closing" := by
  obtain ⟨stored, isClosing⟩ := Option.filter_eq_some_iff.mp found
  exact ⟨stored, of_decide_eq_true isClosing⟩

theorem edits_advanceClose (store : SqliteStorage T) (channelId expected journal : String)
    (completed : Option (ClosedDataView T)) :
    store.Edits (store.advanceClose channelId expected journal completed).2 := by
  unfold advanceClose
  cases found : (store.channels.lookup channelId).filter fun row => row.state = "Closing" with
  | none => exact .refl store
  | some row =>
      dsimp only
      split_ifs with differs
      · exact .refl store
      · cases completed with
        | none => exact ⟨rfl, rfl, fun _ => .inl rfl⟩
        | some data => exact edits_of_insert rfl rfl rfl (closingRow_of_filter found).1 rfl id

/-- The rows, the cache and the journals are all that is on record. -/
theorem record_congr
    (rows : store'.channels.lookup channelId = store.channels.lookup channelId)
    (cache : store'.fundingCache.lookup channelId = store.fundingCache.lookup channelId)
    (journals : store'.closeJournals.lookup channelId = store.closeJournals.lookup channelId) :
    (sqliteStorage L).record store' channelId = (sqliteStorage L).record store channelId := by
  refine ChannelRecord.ext ?_ ?_ ?_ ?_ ?_ (congrArg Except.ok journals)
  · simp only [SpilmanStorage.record, sqliteStorage, getState, rows]
  · simp only [SpilmanStorage.record, sqliteStorage, getFunding, rows, cache]
  · simp only [SpilmanStorage.record, sqliteStorage, getBalance, rows]
  · simp only [SpilmanStorage.record, sqliteStorage, getClosingData, rows]
  · simp only [SpilmanStorage.record, sqliteStorage, getClosedData, rows]

/-- An operation that replaces the row of its channel, and perhaps its journal. -/
theorem apply_eq_of_row {operation : StorageOperation T} {row : ChannelRow T}
    (named : operation.channel = some channelId)
    (rows : store'.channels = store.channels.insert channelId row)
    (cache : store'.fundingCache = store.fundingCache)
    (journals : ∀ other, other ≠ channelId →
      store'.closeJournals.lookup other = store.closeJournals.lookup other)
    (own : (sqliteStorage L).record store' channelId =
      operation.change ((sqliteStorage L).record store channelId)) :
    (sqliteStorage L).record store' = operation.apply ((sqliteStorage L).record store) := by
  refine apply_eq_of_changes named own fun other apart => ?_
  refine record_congr ?_ (congrArg _ cache) (journals other apart)
  rw [rows, AList.lookup_insert_ne apart]

/-- A row that is open with a signed payment. -/
theorem Consistent.openRow_iff (consistent : store.Consistent) (channelId : String)
    {payment : PaymentProof} (signed : payment.signature ≠ "") :
    (∃ row, store.openRow channelId payment = some row) ↔
      ((sqliteStorage L).record store channelId).IsOpen ∧
        ((sqliteStorage L).record store channelId).payment = some payment := by
  obtain ⟨balance, signature⟩ := payment
  have isOpen : ((sqliteStorage L).record store channelId).IsOpen ↔ _ := getState_eq_opened_iff
  rw [isOpen]
  constructor
  · rintro ⟨row, found⟩
    obtain ⟨stored, rowOpen, isBalance, isSignature⟩ := openRow_eq_some_iff.mp found
    refine ⟨⟨row, stored, rowOpen⟩, ?_⟩
    rw [consistent.record_of_row stored]
    simp [isBalance, isSignature, signed]
  · rintro ⟨⟨row, stored, rowOpen⟩, isPayment⟩
    obtain ⟨nonneg, -⟩ := consistent.balances stored
    rw [consistent.record_of_row stored] at isPayment
    by_cases unsigned : row.signature = ""
    · simp [unsigned] at isPayment
    · simp only [ne_eq, unsigned, not_false_eq_true, if_true, Option.some.injEq,
        PaymentProof.mk.injEq] at isPayment
      refine ⟨row, openRow_eq_some_iff.mpr ⟨stored, rowOpen, ?_, isPayment.2⟩⟩
      show row.balance = (balance : Int)
      omega

/-- Where a close can be marked. -/
theorem isMarkable_iff (orderly : Orderly ((sqliteStorage L).record store channelId)) :
    ((sqliteStorage L).record store channelId).IsMarkable ↔
      ∃ row, (store.channels.lookup channelId).filter (store.canClose channelId) = some row := by
  have journal : ((sqliteStorage L).record store channelId).journal = .ok none ↔
      channelId ∉ store.closeJournals := by
    rw [← AList.lookup_eq_none]
    exact ⟨Except.ok.inj, congrArg Except.ok⟩
  obtain ⟨state, readable⟩ := orderly.readable
  have alive : ((sqliteStorage L).record store channelId).IsOpen ∨
      ((sqliteStorage L).record store channelId).IsClosing ↔
        ∃ row, store.channels.lookup channelId = some row ∧ row.state ≠ "Closed" := by
    show store.getState channelId = .ok (some .opened) ∨
      store.getState channelId = .ok (some .closing) ↔ _
    constructor
    · rintro (isOpen | isClosing)
      · obtain ⟨row, stored, rowOpen⟩ := getState_eq_opened_iff.mp isOpen
        exact ⟨row, stored, by rw [rowOpen]; decide⟩
      · obtain ⟨row, stored, rowClosing⟩ := getState_eq_closing_iff.mp isClosing
        exact ⟨row, stored, by rw [rowClosing]; decide⟩
    · rintro ⟨row, stored, notClosed⟩
      replace readable : store.getState channelId = .ok state := readable
      cases state with
      | none => exact absurd readable (getState_of_row stored)
      | some state =>
          cases state with
          | opened => exact .inl readable
          | closing => exact .inr readable
          | closed =>
              obtain ⟨row', stored', closed⟩ := getState_eq_closed_iff.mp readable
              obtain rfl := Option.some.inj (stored.symm.trans stored')
              exact absurd closed notClosed
  unfold ChannelRecord.IsMarkable
  rw [alive, journal]
  simp only [Option.filter_eq_some_iff, canClose, decide_eq_true_eq]
  constructor
  · rintro ⟨⟨row, stored, notClosed⟩, absent⟩
    exact ⟨row, stored, notClosed, absent⟩
  · rintro ⟨row, stored, notClosed, absent⟩
    exact ⟨⟨row, stored, notClosed⟩, absent⟩

/-- Funding that is already stored, or that is the first. -/
theorem getFunding_saveFunding_of_permitted {funding : ChannelFunding T}
    (permitted : channelId ∉ store.fundingCache →
      ∀ row ∈ store.channels.lookup channelId, row.funding = funding) :
    (store.saveFunding channelId funding).2.getFunding channelId =
      (store.getFunding channelId).or (some funding) := by
  have cache := lookup_cache_saveFunding store channelId funding
  cases cached : store.fundingCache.lookup channelId with
  | some held =>
      rw [getFunding, getFunding, cache, cached]
      rfl
  | none =>
      rw [getFunding, getFunding, cache, cached]
      cases stored : store.channels.lookup channelId with
      | none => rfl
      | some row =>
          have same := permitted (AList.lookup_eq_none.mp cached) row stored
          simp [same]

theorem Consistent.saveFunding (consistent : store.Consistent) {funding : ChannelFunding T}
    (permitted : channelId ∉ store.fundingCache →
      ∀ row ∈ store.channels.lookup channelId, row.funding = funding) :
    (store.saveFunding channelId funding).2.Consistent := by
  have kept : ∀ {other row}, store.channels.lookup other = some row →
      (store.saveFunding channelId funding).2.channels.lookup other = some row := by
    intro other row stored
    cases own : store.channels.lookup channelId with
    | some held => rw [channels_saveFunding_of_row funding own, stored]
    | none =>
        rw [channels_saveFunding_of_none funding own, AList.lookup_insert_ne, stored]
        rintro rfl
        exact Option.some_ne_none _ (stored.symm.trans own)
  refine ⟨?_, ?_⟩
  · intro other held cached
    by_cases known : channelId ∈ store.fundingCache
    · simp only [SqliteStorage.saveFunding, known, if_true] at cached
      obtain ⟨row, stored, isFunding⟩ := consistent.cached cached
      exact ⟨row, kept stored, isFunding⟩
    · simp only [SqliteStorage.saveFunding, known, if_false] at cached
      by_cases same : other = channelId
      · subst same
        rw [AList.lookup_insert] at cached
        obtain rfl := Option.some.inj cached
        cases own : store.channels.lookup other with
        | some row => exact ⟨row, kept own, permitted known row own⟩
        | none =>
            rw [channels_saveFunding_of_none funding own, AList.lookup_insert]
            exact ⟨_, rfl, rfl⟩
      · rw [AList.lookup_insert_ne same] at cached
        obtain ⟨row, stored, isFunding⟩ := consistent.cached cached
        exact ⟨row, kept stored, isFunding⟩
  · intro other row found
    rcases row_of_saveFunding found with before | ⟨-, rfl⟩
    · exact consistent.balances before
    · exact ⟨le_refl _, by norm_num⟩

theorem Consistent.afterGetFunding (consistent : store.Consistent) (channelId : String) :
    (store.afterGetFunding channelId).Consistent := by
  unfold SqliteStorage.afterGetFunding
  cases store.fundingCache.lookup channelId with
  | some held => exact consistent
  | none =>
      cases stored : store.channels.lookup channelId with
      | none => exact consistent
      | some row =>
          refine ⟨?_, consistent.balances⟩
          intro other funding cached
          by_cases same : other = channelId
          · subst same
            rw [AList.lookup_insert] at cached
            exact ⟨row, stored, Option.some.inj cached⟩
          · rw [AList.lookup_insert_ne same] at cached
            exact consistent.cached cached

theorem Consistent.reopen (consistent : store.Consistent) : store.reopen.Consistent := by
  refine ⟨?_, consistent.balances⟩
  rintro _ _ ⟨⟩

theorem does_saveFunding {funding : ChannelFunding T}
    (permitted : channelId ∉ store.fundingCache →
      ∀ row ∈ store.channels.lookup channelId, row.funding = funding) :
    Does (· < 2 ^ 63) (sqliteStorage L).record (.saveFunding channelId funding) store
      (store.saveFunding channelId funding) :=
  does_of_accepted rfl trivial (apply_eq_of_views rfl
    (saveFunding_changes (getFunding_saveFunding_of_permitted permitted)) (fun _ _ => rfl)
    fun _ => rfl)

theorem does_updateBalance (consistent : store.Consistent) {payment : PaymentProof}
    (signed : payment.signature ≠ "") :
    Does (· < 2 ^ 63) (sqliteStorage L).record (.updateBalance channelId payment) store
      (store.updateBalance channelId payment) := by
  by_cases accepted : store.getState channelId = .ok (some .opened) ∧ payment.balance < 2 ^ 63
  · obtain ⟨row, stored, isOpen⟩ := getState_eq_opened_iff.mp accepted.1
    obtain ⟨succeeded, changes⟩ := updateBalance_changes (L := L) signed stored
      (consistent.balances stored) isOpen accepted.2
    refine does_of_accepted succeeded accepted (apply_eq_of_views rfl changes (fun _ _ => rfl) ?_)
    intro other
    show Except.ok _ = Except.ok _
    rw [updateBalance_of_open stored isOpen accepted.2]
    split_ifs <;> rfl
  · obtain ⟨failed, unchanged⟩ := updateBalance_refused accepted
    exact does_of_refused failed unchanged accepted

theorem does_comparePayment (consistent : store.Consistent) {expected payment : PaymentProof}
    (signed : expected.signature ≠ "") (signed' : payment.signature ≠ "") :
    Does (· < 2 ^ 63) (sqliteStorage L).record (.comparePayment channelId expected payment) store
      (store.comparePayment channelId expected payment) := by
  have found := consistent.openRow_iff (L := L) channelId signed
  unfold comparePayment
  split_ifs with notLarger large largeExpected
  · refine does_of_refused (by simp) rfl ?_
    rintro ⟨-, -, larger, -⟩
    exact absurd larger (Nat.not_lt.mpr notLarger)
  · refine does_of_refused (by simp) rfl ?_
    rintro ⟨-, -, -, small⟩
    exact absurd small (Nat.not_lt.mpr large)
  · omega
  · cases isRow : store.openRow channelId expected with
    | none =>
        refine does_of_refused (by simp) rfl ?_
        rintro ⟨isOpen, isPayment, -⟩
        obtain ⟨row, isRow'⟩ := found.mpr ⟨isOpen, isPayment⟩
        exact Option.some_ne_none _ (isRow'.symm.trans isRow)
    | some row =>
        obtain ⟨isOpen, isPayment⟩ := found.mp ⟨row, isRow⟩
        obtain ⟨stored, -⟩ := openRow_eq_some_iff.mp isRow
        have small := Nat.not_le.mp large
        have after : (store.setRow channelId { row with
            balance := payment.balance, signature := payment.signature }).Consistent :=
          consistent.of_edits (edits_of_insert rfl rfl rfl stored rfl fun _ =>
            fits_natCast small payment.signature)
        refine does_of_accepted rfl ⟨isOpen, isPayment, Nat.not_le.mp notLarger, small⟩
          (apply_eq_of_row rfl rfl rfl (fun _ _ => rfl) ?_)
        rw [after.record_of_row (lookup_setRow _ _ _), consistent.record_of_row stored]
        refine ChannelRecord.ext rfl rfl ?_ rfl rfl rfl
        simp [StorageOperation.change, signed']

theorem does_markClosing (orderly : Orderly ((sqliteStorage L).record store channelId))
    (data : ClosingData) :
    Does (· < 2 ^ 63) (sqliteStorage L).record (.markClosing channelId data) store
      (store.markClosing channelId data) := by
  have markable := isMarkable_iff orderly
  have changes := markClosing_changes (L := L) store channelId data
  unfold markClosing at changes ⊢
  cases found : (store.channels.lookup channelId).filter (store.canClose channelId) with
  | none =>
      refine does_of_refused (by simp) rfl fun accepted => ?_
      obtain ⟨row, found'⟩ := markable.mp accepted
      exact Option.some_ne_none _ (found'.symm.trans found)
  | some row =>
      rw [found] at changes
      rcases changes with ⟨failed, -⟩ | ⟨succeeded, -, changes⟩
      · exact absurd rfl failed
      · exact does_of_accepted succeeded (markable.mpr ⟨row, found⟩)
          (apply_eq_of_views rfl changes (fun _ _ => rfl) fun _ => rfl)

theorem does_markClosed (orderly : Orderly ((sqliteStorage L).record store channelId))
    (data : ClosedDataView T) :
    Does (· < 2 ^ 63) (sqliteStorage L).record (.markClosed channelId data) store
      (store.markClosed channelId data) := by
  have markable := isMarkable_iff orderly
  have changes := markClosed_changes (L := L) store channelId data
  unfold markClosed at changes ⊢
  cases found : (store.channels.lookup channelId).filter (store.canClose channelId) with
  | none =>
      refine does_of_refused (by simp) rfl fun accepted => ?_
      obtain ⟨row, found'⟩ := markable.mp accepted
      exact Option.some_ne_none _ (found'.symm.trans found)
  | some row =>
      rw [found] at changes
      rcases changes with ⟨failed, -⟩ | ⟨succeeded, -, changes⟩
      · exact absurd rfl failed
      · exact does_of_accepted succeeded (markable.mpr ⟨row, found⟩)
          (apply_eq_of_views rfl changes (fun _ _ => rfl) fun _ => rfl)

theorem does_freezeClose (consistent : store.Consistent)
    (orderly : Orderly ((sqliteStorage L).record store channelId)) {expected : PaymentProof}
    (signed : expected.signature ≠ "") (closing : ClosingData) (journal : String) :
    Does (· < 2 ^ 63) (sqliteStorage L).record
      (.freezeClose channelId expected closing journal) store
      (store.freezeClose channelId expected closing journal) := by
  have found := consistent.openRow_iff (L := L) channelId signed
  unfold freezeClose
  by_cases matched : closing.payment = expected
  · rw [if_neg fun mismatch => mismatch_iff.mp mismatch matched]
    cases isRow : store.openRow channelId expected with
    | none =>
        have refused : ¬ (((sqliteStorage L).record store channelId).IsOpen ∧
            ((sqliteStorage L).record store channelId).payment = some expected) := by
          intro accepted
          obtain ⟨row, isRow'⟩ := found.mpr accepted
          exact Option.some_ne_none _ (isRow'.symm.trans isRow)
        split_ifs
        all_goals exact does_of_refused (by simp) rfl fun accepted => refused accepted.2
    | some row =>
        obtain ⟨isOpen, isPayment⟩ := found.mp ⟨row, isRow⟩
        obtain ⟨stored, rowOpen, isBalance, -⟩ := openRow_eq_some_iff.mp isRow
        obtain ⟨-, small⟩ := consistent.balances stored
        obtain ⟨funding, payment, shape⟩ := orderly.of_isOpen isOpen
        have noJournal : store.closeJournals.lookup channelId = none :=
          Except.ok.inj (congrArg ChannelRecord.journal shape)
        have after : { store.setRow channelId
            { row with state := "Closing", closing := some closing } with
              closeJournals := store.closeJournals.insert channelId journal }.Consistent :=
          consistent.of_edits (edits_of_insert rfl rfl rfl stored rfl id)
        rw [if_neg (by omega)]
        dsimp only
        rw [if_neg (AList.lookup_eq_none.mp noJournal)]
        refine does_of_accepted rfl ⟨matched, isOpen, isPayment⟩
          (apply_eq_of_row rfl rfl rfl (fun _ apart => AList.lookup_insert_ne apart) ?_)
        rw [after.record_of_row (lookup_setRow _ _ _), consistent.record_of_row stored]
        exact ChannelRecord.ext rfl rfl rfl rfl (if_neg (by simp [rowOpen])).symm
          (congrArg Except.ok (AList.lookup_insert _))
  · rw [if_pos (mismatch_iff.mpr matched)]
    exact does_of_refused (by simp) rfl fun accepted => matched accepted.1

/-- The journal that is found, and the row that is closed with it. -/
theorem does_advanceClose (consistent : store.Consistent) (expected journal : String)
    (completed : Option (ClosedDataView T)) :
    Does (· < 2 ^ 63) (sqliteStorage L).record
      (.advanceClose channelId expected journal completed) store
      (store.advanceClose channelId expected journal completed) := by
  unfold advanceClose
  cases found : (store.channels.lookup channelId).filter fun row => row.state = "Closing" with
  | none =>
      refine does_of_refused (by simp) rfl ?_
      rintro ⟨isClosing, -⟩
      obtain ⟨row, stored, rowClosing⟩ := getState_eq_closing_iff.mp isClosing
      rw [stored, Option.filter_some_pos (by simp [rowClosing])] at found
      cases found
  | some row =>
      obtain ⟨stored, rowClosing⟩ := closingRow_of_filter found
      dsimp only
      split_ifs with differs
      · refine does_of_refused (by simp) rfl ?_
        rintro ⟨-, isJournal⟩
        exact differs (Except.ok.inj isJournal)
      · have accepted : (StorageOperation.advanceClose channelId expected journal
            completed).Accepted (· < 2 ^ 63) ((sqliteStorage L).record store) :=
          ⟨getState_eq_closing_iff.mpr ⟨row, stored, rowClosing⟩,
            congrArg Except.ok (not_not.mp differs)⟩
        cases completed with
        | none =>
            refine does_of_accepted rfl accepted (apply_eq_of_changes rfl ?_ ?_)
            · exact ChannelRecord.ext rfl rfl rfl rfl rfl
                (congrArg Except.ok (AList.lookup_insert _))
            · exact fun other apart => record_congr rfl rfl (AList.lookup_insert_ne apart)
        | some data =>
            have after : (setRow { store with
                closeJournals := store.closeJournals.insert channelId journal } channelId
                { row with state := "Closed", closed := some data, closing := none }).Consistent :=
              consistent.of_edits (edits_of_insert rfl rfl rfl stored rfl id)
            refine does_of_accepted rfl accepted
              (apply_eq_of_row rfl rfl rfl (fun _ apart => AList.lookup_insert_ne apart) ?_)
            rw [after.record_of_row (lookup_setRow _ _ _), consistent.record_of_row stored]
            exact ChannelRecord.ext rfl rfl rfl rfl rfl (congrArg Except.ok (AList.lookup_insert _))

theorem Consistent.getFunding_of_none (consistent : store.Consistent)
    (absent : store.channels.lookup channelId = none) : store.getFunding channelId = none := by
  unfold getFunding
  rw [absent]
  cases cached : store.fundingCache.lookup channelId with
  | none => rfl
  | some funding =>
      obtain ⟨row, stored, -⟩ := consistent.cached cached
      exact absurd (stored.symm.trans absent) (Option.some_ne_none _)

/-- What the cache holds does not show. -/
theorem Consistent.record_eq (consistent : store.Consistent) (consistent' : store'.Consistent)
    (rows : store'.channels = store.channels)
    (journals : store'.closeJournals = store.closeJournals) :
    (sqliteStorage L).record store' = (sqliteStorage L).record store := by
  funext channelId
  have funding : store'.getFunding channelId = store.getFunding channelId := by
    cases stored : store.channels.lookup channelId with
    | none =>
        rw [consistent.getFunding_of_none stored,
          consistent'.getFunding_of_none ((congrArg _ rows).trans stored)]
    | some row =>
        rw [consistent.getFunding_of_row stored,
          consistent'.getFunding_of_row ((congrArg _ rows).trans stored)]
  refine ChannelRecord.ext ?_ funding ?_ ?_ ?_ ?_
  · simp only [SpilmanStorage.record, sqliteStorage, getState, rows]
  · simp only [SpilmanStorage.record, sqliteStorage, getBalance, rows]
  · simp only [SpilmanStorage.record, sqliteStorage, getClosingData, rows]
  · simp only [SpilmanStorage.record, sqliteStorage, getClosedData, rows]
  · simp only [SpilmanStorage.record, sqliteStorage, getCloseJournal, journals]

theorem tables_afterGetFunding (store : SqliteStorage T) (channelId : String) :
    (store.afterGetFunding channelId).channels = store.channels ∧
      (store.afterGetFunding channelId).closeJournals = store.closeJournals := by
  unfold afterGetFunding
  cases store.fundingCache.lookup channelId with
  | some held => exact ⟨rfl, rfl⟩
  | none =>
      cases store.channels.lookup channelId with
      | none => exact ⟨rfl, rfl⟩
      | some row => exact ⟨rfl, rfl⟩

/-- **The store over SQLite implements the abstract store**, as far as payments are signed
and no funding is saved over one that is stored. -/
theorem implements (L : Cashu T) :
    Implements (machine L) (sqliteStorage L).record (· < 2 ^ 63) Consistent Permits where
  formed := by
    intro operation store consistent _ permitted
    cases operation with
    | getFunding channelId => exact consistent.afterGetFunding channelId
    | saveFunding channelId funding => exact consistent.saveFunding permitted
    | updateBalance channelId payment =>
        exact consistent.of_edits (edits_updateBalance store channelId payment)
    | comparePayment channelId expected payment =>
        exact consistent.of_edits (edits_comparePayment store channelId expected payment)
    | incrementUsage channelId increments => exact ⟨consistent.cached, consistent.balances⟩
    | markClosing channelId data =>
        exact consistent.of_edits (edits_markClosing store channelId data)
    | markClosed channelId data =>
        exact consistent.of_edits (edits_markClosed store channelId data)
    | freezeClose channelId expected closing journal =>
        exact consistent.of_edits (edits_freezeClose store channelId expected closing journal)
    | advanceClose channelId expected journal completed =>
        exact consistent.of_edits (edits_advanceClose store channelId expected journal completed)
    | setKeyset mint id entry => exact ⟨consistent.cached, consistent.balances⟩
    | reopen => exact consistent.reopen
  does := by
    intro operation store consistent orderly permitted
    cases operation with
    | getFunding channelId =>
        obtain ⟨rows, journals⟩ := tables_afterGetFunding store channelId
        exact does_of_accepted rfl trivial
          (consistent.record_eq (consistent.afterGetFunding channelId) rows journals)
    | saveFunding channelId funding => exact does_saveFunding permitted
    | updateBalance channelId payment => exact does_updateBalance consistent permitted
    | comparePayment channelId expected payment =>
        exact does_comparePayment consistent permitted.1 permitted.2
    | incrementUsage channelId increments => exact does_of_accepted rfl trivial rfl
    | markClosing channelId data => exact does_markClosing (orderly channelId) data
    | markClosed channelId data => exact does_markClosed (orderly channelId) data
    | freezeClose channelId expected closing journal =>
        exact does_freezeClose consistent (orderly channelId) permitted closing journal
    | advanceClose channelId expected journal completed =>
        exact does_advanceClose consistent expected journal completed
    | setKeyset mint id entry => exact does_of_accepted rfl trivial rfl
    | reopen => exact does_of_accepted rfl trivial (consistent.record_eq consistent.reopen rfl rfl)

theorem consistent_new : (new : SqliteStorage T).Consistent := by
  refine ⟨?_, ?_⟩
  · rintro _ _ ⟨⟩
  · rintro _ _ ⟨⟩

end SqliteStorage

/-! ## Either store -/

namespace StorageConfig

def machine (L : Cashu T) (backend : StorageConfig) :
    Machine (StorageOperation T) (Except String Unit) (backend.Store T) :=
  match backend with
  | memory => MemoryStorage.machine T
  | sqlite => SqliteStorage.machine L

/-- What the stores do not guard against does not happen. -/
def Permits (backend : StorageConfig) (operation : StorageOperation T)
    (store : backend.Store T) : Prop :=
  match backend with
  | memory => MemoryStorage.Permits operation store
  | sqlite => SqliteStorage.Permits operation store

instance (backend : StorageConfig) (operation : StorageOperation T) (store : backend.Store T) :
    Decidable (backend.Permits operation store) :=
  match backend with
  | memory => MemoryStorage.decidablePermits operation store
  | sqlite => SqliteStorage.decidablePermits operation store

/-- What is on record about a channel. -/
def record (L : Cashu T) (backend : StorageConfig) (store : backend.Store T)
    (channelId : String) : ChannelRecord T :=
  (backend.storage L).record store channelId

theorem implements (L : Cashu T) (backend : StorageConfig) :
    ∃ keeps wellFormed, wellFormed backend.new ∧
      Implements (backend.machine L) (backend.record L) keeps wellFormed backend.Permits := by
  cases backend with
  | memory => exact ⟨_, _, trivial, MemoryStorage.implements⟩
  | sqlite => exact ⟨_, _, SqliteStorage.consistent_new, SqliteStorage.implements L⟩

theorem record_new (L : Cashu T) (backend : StorageConfig) (channelId : String) :
    backend.record L backend.new channelId = .unknown := by
  cases backend with
  | memory => rfl
  | sqlite => rfl

/-- **Stores obey the lifecycle**, over every sequence of operations on a new store, which
may be opened anew in between. Every record is orderly and has the first funding that was
saved; every operation advances every channel, or fails and changes nothing; and whatever
comes later only takes channels further. -/
theorem lifecycle_obeyed (L : Cashu T) (backend : StorageConfig)
    {operations : List (StorageOperation T)}
    (permitted : (backend.machine L).Throughout backend.Permits operations backend.new)
    (channelId : String) :
    Orderly (backend.record L ((backend.machine L).after operations backend.new) channelId) ∧
    (backend.record L ((backend.machine L).after operations backend.new) channelId).funding =
      operations.findSome? (StorageOperation.funded channelId) ∧
    ∀ earlier operation later, operations = earlier ++ operation :: later →
      let before := (backend.machine L).after earlier backend.new
      let result := backend.machine L operation before
      Advances operation channelId (backend.record L before channelId)
        (backend.record L result.2 channelId) ∧
      Succeeds (backend.record L before channelId)
        (backend.record L ((backend.machine L).after operations backend.new) channelId) ∧
      (result.1 ≠ .ok () → result.2 = before) := by
  obtain ⟨keeps, wellFormed, formed, implements⟩ := backend.implements L
  have orderly : ∀ channelId, Orderly (backend.record L backend.new channelId) := by
    intro channelId
    rw [record_new]
    exact .unknown
  refine ⟨(implements.orderly_after formed orderly permitted).2 channelId, ?_, ?_⟩
  · rw [implements.funding_after formed orderly permitted, record_new]
    exact Option.none_or
  · rintro earlier operation later rfl
    obtain ⟨permitted, permitted'⟩ := Machine.throughout_append.mp permitted
    obtain ⟨formed, orderly⟩ := implements.orderly_after formed orderly permitted
    rw [Machine.after_append]
    exact ⟨(implements.advances formed orderly permitted'.1 channelId).2,
      implements.succeeds_after formed orderly permitted' channelId,
      (implements.does operation _ formed orderly permitted'.1).refused⟩

end StorageConfig

namespace Sample

/-- Funding with some channel secret. -/
def funding (secret : String) : ChannelFunding carriers := ⟨.null, .null, secret, .null⟩

/-- A channel is paid one and then two, and closed with a journal; the store is opened anew
in between. -/
def frozenClose : List (StorageOperation carriers) :=
  [.saveFunding "c" (funding "a"), .updateBalance "c" ⟨1, "one"⟩, .reopen, .getFunding "c",
    .saveFunding "c" (funding "b"), .comparePayment "c" ⟨1, "one"⟩ ⟨2, "two"⟩,
    .freezeClose "c" ⟨2, "two"⟩ ⟨0, 2, "two"⟩ "prepared", .reopen,
    .advanceClose "c" "prepared" "completed" (some ⟨0, 2, 4, 2, 2, .null, .null⟩)]

/-- The store over SQLite after some operations. -/
def stored (operations : List (StorageOperation carriers)) : SqliteStorage carriers :=
  (SqliteStorage.machine library).after operations .new

end Sample

/-- A close with a journal over SQLite, with other funding offered after the database was
opened anew: the first funding stays. -/
theorem lifecycle_obeyed_frozen :
    (Sample.stored Sample.frozenClose).getState "c" = .ok (some .closed) ∧
      (Sample.stored Sample.frozenClose).getFunding "c" = some (Sample.funding "a") := by
  have permitted : (StorageConfig.sqlite.machine Sample.library).Throughout
      StorageConfig.sqlite.Permits Sample.frozenClose StorageConfig.sqlite.new := by
    decide +kernel
  obtain ⟨-, funding, -⟩ := StorageConfig.lifecycle_obeyed Sample.library .sqlite permitted "c"
  exact ⟨by decide +kernel, funding⟩

/-- What the stores do not guard against. In memory, a channel without funding is marked as
closing. Over SQLite, a database that was opened anew returns other funding than the first;
and a payment without a signature takes away one that is stored. -/
theorem lifecycle_disobeyed :
    ((MemoryStorage.machine Sample.carriers).after [.markClosing "c" ⟨0, 1, "one"⟩]
        .new).getState "c" = .ok (some .closing) ∧
      ((MemoryStorage.machine Sample.carriers).after [.markClosing "c" ⟨0, 1, "one"⟩]
        .new).getFunding "c" = none ∧
    (Sample.stored [.saveFunding "c" (Sample.funding "a"), .reopen,
        .saveFunding "c" (Sample.funding "b")]).getFunding "c" = some (Sample.funding "b") ∧
    (Sample.stored [.saveFunding "c" (Sample.funding "a"),
        .updateBalance "c" ⟨1, "one"⟩]).getBalance "c" = some ⟨1, "one"⟩ ∧
      (Sample.stored [.saveFunding "c" (Sample.funding "a"), .updateBalance "c" ⟨1, "one"⟩,
        .updateBalance "c" ⟨2, ""⟩]).getBalance "c" = none := by
  decide +kernel

end Spilman
