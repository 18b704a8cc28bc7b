/-
# The lifecycle of a stored channel

What a store has on record about a channel, besides its usage, and what the operations of
a store do to it: the abstract store. A channel becomes known with its funding, takes
payments while it is open, is closing and then closed. A close is either marked, or frozen
together with a journal; once there is a journal, only advancing it can close the channel.

`Orderly` says which records come up, and `Advances` what one operation can do to a record;
both are about the abstract store. A store implements it (`Implements`) if every operation
that is permitted does to its records what it does to the abstract ones.
-/

import Spilman.Lib.Machine
import Spilman.Storage.Interface

namespace Spilman

open Lib

variable {T : Carriers} {σ : Type}

/-! ## Operations -/

/-- The methods of a store that can change it. Reading funding fills a cache; opening the
store anew loses it. -/
inductive StorageOperation (T : Carriers)
  | getFunding (channelId : String)
  | saveFunding (channelId : String) (funding : ChannelFunding T)
  | updateBalance (channelId : String) (payment : PaymentProof)
  | comparePayment (channelId : String) (expected payment : PaymentProof)
  | incrementUsage (channelId : String) (increments : UsageMap)
  | markClosing (channelId : String) (data : ClosingData)
  | markClosed (channelId : String) (data : ClosedDataView T)
  | freezeClose (channelId : String) (expected : PaymentProof) (closing : ClosingData)
      (journal : String)
  | advanceClose (channelId expected journal : String) (completed : Option (ClosedDataView T))
  | setKeyset (mint : String) (id : T.Id) (entry : KeysetCacheEntry T)
  | reopen

/-- A store as a machine, with what reading funding and opening it anew leave behind. -/
def SpilmanStorage.machine (S : SpilmanStorage T σ) (afterGetFunding : σ → String → σ)
    (reopen : σ → σ) : Machine (StorageOperation T) (Except String Unit) σ
  | .getFunding channelId, store => (.ok (), afterGetFunding store channelId)
  | .saveFunding channelId funding, store => S.saveFunding store channelId funding
  | .updateBalance channelId payment, store => S.updateBalance store channelId payment
  | .comparePayment channelId expected payment, store =>
      S.comparePayment store channelId expected payment
  | .incrementUsage channelId increments, store => S.incrementUsage store channelId increments
  | .markClosing channelId data, store => S.markClosing store channelId data
  | .markClosed channelId data, store => S.markClosed store channelId data
  | .freezeClose channelId expected closing journal, store =>
      S.freezeClose store channelId expected closing journal
  | .advanceClose channelId expected journal completed, store =>
      S.advanceClose store channelId expected journal completed
  | .setKeyset mint id entry, store => S.setKeyset store mint id entry
  | .reopen, store => (.ok (), reopen store)

/-! ## Records -/

/-- What a store has on record about a channel. -/
@[ext]
structure ChannelRecord (T : Carriers) where
  state : Except String (Option ChannelState)
  funding : Option (ChannelFunding T)
  payment : Option PaymentProof
  closing : Option ClosingData
  closed : Option (ClosedDataView T)
  journal : Except String (Option String)

def SpilmanStorage.record (S : SpilmanStorage T σ) (store : σ) (channelId : String) :
    ChannelRecord T where
  state := S.getState store channelId
  funding := S.getFunding store channelId
  payment := S.getBalance store channelId
  closing := S.getClosingData store channelId
  closed := S.getClosedData store channelId
  journal := S.getCloseJournal store channelId

/-- A record is a view without the usage, and the journal. -/
def ChannelView.record (view : ChannelView T) (journal : Except String (Option String)) :
    ChannelRecord T :=
  ⟨view.state, view.funding, view.payment, view.closing, view.closed, journal⟩

theorem SpilmanStorage.record_eq (S : SpilmanStorage T σ) (store : σ) (channelId : String) :
    S.record store channelId =
      (S.view store channelId).record (S.getCloseJournal store channelId) :=
  rfl

namespace ChannelRecord

/-- Nothing is on record. -/
def unknown : ChannelRecord T := ⟨.ok none, none, none, none, none, .ok none⟩

/-- The channel takes payments. -/
def IsOpen (record : ChannelRecord T) : Prop := record.state = .ok (some .opened)

/-- The channel is being closed. -/
def IsClosing (record : ChannelRecord T) : Prop := record.state = .ok (some .closing)

/-- The channel is closed for good. -/
def IsClosed (record : ChannelRecord T) : Prop := record.state = .ok (some .closed)

/-- The channel can be closed without a journal. -/
def IsMarkable (record : ChannelRecord T) : Prop :=
  (record.IsOpen ∨ record.IsClosing) ∧ record.journal = .ok none

/-- How far a channel has come: unknown, open, closing, closed. -/
def rank (record : ChannelRecord T) : Nat :=
  match record.state with
  | .ok (some .closed) => 3
  | .ok (some .closing) => 2
  | .ok (some .opened) => 1
  | _ => 0

end ChannelRecord

namespace StorageOperation

/-- The channel whose record an operation can change. -/
def channel : StorageOperation T → Option String
  | saveFunding channelId _ | updateBalance channelId _ | comparePayment channelId _ _
  | markClosing channelId _ | markClosed channelId _ | freezeClose channelId _ _ _
  | advanceClose channelId _ _ _ => some channelId
  | getFunding _ | incrementUsage _ _ | setKeyset _ _ _ | reopen => none

/-- The funding that an operation brings for a channel. -/
def funded (channelId : String) : StorageOperation T → Option (ChannelFunding T)
  | saveFunding channelId' funding => if channelId' = channelId then some funding else none
  | _ => none

/-- Where an operation succeeds. A store may hold some balances only. -/
def Accepted (keeps : Nat → Prop) (records : String → ChannelRecord T) :
    StorageOperation T → Prop
  | updateBalance channelId payment => (records channelId).IsOpen ∧ keeps payment.balance
  | comparePayment channelId expected payment => (records channelId).IsOpen ∧
      (records channelId).payment = some expected ∧ expected.balance < payment.balance ∧
      keeps payment.balance
  | markClosing channelId _ => (records channelId).IsMarkable
  | markClosed channelId _ => (records channelId).IsMarkable
  | freezeClose channelId expected closing _ => closing.payment = expected ∧
      (records channelId).IsOpen ∧ (records channelId).payment = some expected
  | advanceClose channelId expected _ _ => (records channelId).IsClosing ∧
      (records channelId).journal = .ok (some expected)
  | _ => True

/-- What an operation makes of the record of its channel. -/
def change (record : ChannelRecord T) : StorageOperation T → ChannelRecord T
  | saveFunding _ funding => { record with
      state := if record.state = .ok none then .ok (some .opened) else record.state
      funding := record.funding.or (some funding) }
  | updateBalance _ payment => { record with
      payment := match record.payment with
        | some held => if held.balance < payment.balance then some payment else some held
        | none => some payment }
  | comparePayment _ _ payment => { record with payment := some payment }
  | markClosing _ data => { record with state := .ok (some .closing), closing := some data }
  | markClosed _ data => { record with
      state := .ok (some .closed), closing := none, closed := some data }
  | freezeClose _ _ closing journal => { record with
      state := .ok (some .closing), closing := some closing, journal := .ok (some journal) }
  | advanceClose _ _ journal none => { record with journal := .ok (some journal) }
  | advanceClose _ _ journal (some data) => { record with
      state := .ok (some .closed), closing := none, closed := some data,
      journal := .ok (some journal) }
  | _ => record

/-- The records after an operation. -/
def apply (operation : StorageOperation T) (records : String → ChannelRecord T)
    (channelId : String) : ChannelRecord T :=
  if operation.channel = some channelId then operation.change (records channelId)
  else records channelId

end StorageOperation

/-! ## What is on record -/

/-- The records that come up. A channel that is known has funding; one that is closing or
closed has the data of that; a journal is there only for a close that was frozen at the
stored payment. -/
inductive Orderly : ChannelRecord T → Prop
  | unknown : Orderly .unknown
  | opened (funding : ChannelFunding T) (payment : Option PaymentProof) :
      Orderly ⟨.ok (some .opened), some funding, payment, none, none, .ok none⟩
  | closing (funding : ChannelFunding T) (payment : Option PaymentProof) (data : ClosingData) :
      Orderly ⟨.ok (some .closing), some funding, payment, some data, none, .ok none⟩
  | frozen (funding : ChannelFunding T) (data : ClosingData) (journal : String) :
      Orderly ⟨.ok (some .closing), some funding, some data.payment, some data, none,
        .ok (some journal)⟩
  | closed (funding : ChannelFunding T) (payment : Option PaymentProof)
      (data : ClosedDataView T) (journal : Option String) :
      Orderly ⟨.ok (some .closed), some funding, payment, none, some data, .ok journal⟩

/-- What one operation can do to the record of a channel. -/
structure Advances (operation : StorageOperation T) (channelId : String)
    (before after : ChannelRecord T) : Prop where
  rank : before.rank ≤ after.rank
  /-- The funding is the first that is saved. -/
  funding : after.funding = before.funding ∨ before.funding = none ∧
    ∃ funding, operation = .saveFunding channelId funding ∧ after.funding = some funding
  /-- Payments change while the channel is open, and grow. -/
  payment : after.payment = before.payment ∨ before.IsOpen ∧ after.IsOpen ∧
    ∃ payment, after.payment = some payment ∧
      ∀ held, before.payment = some held → held.balance < payment.balance
  closed : ∀ data, before.closed = some data → after.closed = some data
  /-- A journal is frozen once, and then advanced from exactly what it is. -/
  journal : after.journal = before.journal ∨
    (before.journal = .ok none ∧ ∃ expected closing text,
      operation = .freezeClose channelId expected closing text ∧
        after.journal = .ok (some text)) ∨
    ∃ expected text completed, operation = .advanceClose channelId expected text completed ∧
      before.journal = .ok (some expected) ∧ after.journal = .ok (some text)
  /-- With a journal, the closing data stays until the channel is closed. -/
  frozen : ∀ text, before.journal = .ok (some text) → after.IsClosing →
    after.closing = before.closing

theorem Advances.refl (operation : StorageOperation T) (channelId : String)
    (record : ChannelRecord T) : Advances operation channelId record record :=
  ⟨le_refl _, .inl rfl, .inl rfl, fun _ isClosed => isClosed, .inl rfl, fun _ _ _ => rfl⟩

/-- What a sequence of operations can do to the record of a channel. -/
structure Succeeds (before after : ChannelRecord T) : Prop where
  rank : before.rank ≤ after.rank
  funding : ∀ funding, before.funding = some funding → after.funding = some funding
  payment : ∀ payment, before.payment = some payment →
    ∃ later, after.payment = some later ∧ payment.balance ≤ later.balance
  settled : before.IsClosing ∨ before.IsClosed → after.payment = before.payment
  closed : ∀ data, before.closed = some data → after.closed = some data

/-! ## What operations keep -/

section Records

variable {record : ChannelRecord T}

theorem Orderly.of_isOpen (orderly : Orderly record) (isOpen : record.IsOpen) :
    ∃ funding payment,
      record = ⟨.ok (some .opened), some funding, payment, none, none, .ok none⟩ := by
  cases orderly with
  | opened funding payment => exact ⟨funding, payment, rfl⟩
  | unknown => cases isOpen
  | closing funding payment data => cases isOpen
  | frozen funding data journal => cases isOpen
  | closed funding payment data journal => cases isOpen

/-- A channel that can be marked may be closing already. -/
theorem Orderly.of_isMarkable (orderly : Orderly record) (markable : record.IsMarkable) :
    ∃ state funding payment data,
      record = ⟨.ok (some state), some funding, payment, data, none, .ok none⟩ ∧
        (state = .opened ∨ state = .closing) := by
  obtain ⟨alive, noJournal⟩ := markable
  cases orderly with
  | opened funding payment => exact ⟨_, funding, payment, none, rfl, .inl rfl⟩
  | closing funding payment data => exact ⟨_, funding, payment, some data, rfl, .inr rfl⟩
  | frozen funding data journal => cases noJournal
  | unknown =>
      rcases alive with isOpen | isClosing
      · cases isOpen
      · cases isClosing
  | closed funding payment data journal =>
      rcases alive with isOpen | isClosing
      · cases isOpen
      · cases isClosing

/-- A journal of a channel that is closing has frozen its payment. -/
theorem Orderly.of_journal (orderly : Orderly record) (isClosing : record.IsClosing)
    {text : String} (isJournal : record.journal = .ok (some text)) :
    ∃ funding data, record = ⟨.ok (some .closing), some funding, some data.payment, some data, none,
      .ok (some text)⟩ := by
  cases orderly with
  | frozen funding data journal =>
      cases isJournal
      exact ⟨funding, data, rfl⟩
  | closing funding payment data => cases isJournal
  | unknown => cases isClosing
  | opened funding payment => cases isClosing
  | closed funding payment data journal => cases isClosing

end Records

section Operations

variable {record : ChannelRecord T} {keeps : Nat → Prop} {records : String → ChannelRecord T}
  {operation : StorageOperation T} {channelId : String}

/-- What an operation does to an orderly record of its channel. -/
def StorageOperation.Proceeds (operation : StorageOperation T) (channelId : String)
    (record : ChannelRecord T) : Prop :=
  Orderly (operation.change record) ∧ Advances operation channelId record (operation.change record)

theorem proceeds_saveFunding (funding : ChannelFunding T) (orderly : Orderly record) :
    (StorageOperation.saveFunding channelId funding).Proceeds channelId record := by
  cases orderly with
  | unknown =>
      refine ⟨.opened funding none, Nat.zero_le _, .inr ⟨rfl, funding, rfl, rfl⟩, .inl rfl, ?_,
        .inl rfl, ?_⟩
      · rintro _ ⟨⟩
      · rintro _ ⟨⟩
  | opened held payment => exact ⟨.opened held payment, .refl _ _ _⟩
  | closing held payment data => exact ⟨.closing held payment data, .refl _ _ _⟩
  | frozen held data journal => exact ⟨.frozen held data journal, .refl _ _ _⟩
  | closed held payment data journal => exact ⟨.closed held payment data journal, .refl _ _ _⟩

/-- A larger payment on an open channel. -/
theorem advances_payment {funding : ChannelFunding T} {held : Option PaymentProof}
    {payment : PaymentProof}
    (larger : ∀ before, held = some before → before.balance < payment.balance) :
    Advances operation channelId
      ⟨.ok (some .opened), some funding, held, none, none, .ok none⟩
      ⟨.ok (some .opened), some funding, some payment, none, none, .ok none⟩ := by
  refine ⟨le_refl _, .inl rfl, .inr ⟨rfl, rfl, payment, rfl, larger⟩, ?_, .inl rfl, ?_⟩
  · rintro _ ⟨⟩
  · rintro _ ⟨⟩

theorem proceeds_updateBalance (payment : PaymentProof) (orderly : Orderly record)
    (isOpen : record.IsOpen) :
    (StorageOperation.updateBalance channelId payment).Proceeds channelId record := by
  obtain ⟨funding, held, rfl⟩ := orderly.of_isOpen isOpen
  cases held with
  | none =>
      refine ⟨.opened funding (some payment), advances_payment ?_⟩
      rintro _ ⟨⟩
  | some before =>
      by_cases larger : before.balance < payment.balance
      · have stored : (StorageOperation.updateBalance channelId payment).change
            ⟨.ok (some .opened), some funding, some before, none, none, .ok none⟩ =
            ⟨.ok (some .opened), some funding, some payment, none, none, .ok none⟩ := by
          simp only [StorageOperation.change, larger, if_true]
        unfold StorageOperation.Proceeds
        rw [stored]
        refine ⟨.opened funding (some payment), advances_payment ?_⟩
        rintro _ ⟨⟩
        exact larger
      · have same : (StorageOperation.updateBalance channelId payment).change
            ⟨.ok (some .opened), some funding, some before, none, none, .ok none⟩ =
            ⟨.ok (some .opened), some funding, some before, none, none, .ok none⟩ := by
          simp only [StorageOperation.change, larger, if_false]
        unfold StorageOperation.Proceeds
        rw [same]
        exact ⟨.opened funding (some before), .refl _ _ _⟩

theorem proceeds_comparePayment {expected payment : PaymentProof} (orderly : Orderly record)
    (isOpen : record.IsOpen) (isPayment : record.payment = some expected)
    (larger : expected.balance < payment.balance) :
    (StorageOperation.comparePayment channelId expected payment).Proceeds channelId record := by
  obtain ⟨funding, held, rfl⟩ := orderly.of_isOpen isOpen
  obtain rfl : held = some expected := isPayment
  refine ⟨.opened funding (some payment), advances_payment ?_⟩
  rintro _ ⟨⟩
  exact larger

theorem proceeds_markClosing (data : ClosingData) (orderly : Orderly record)
    (markable : record.IsMarkable) :
    (StorageOperation.markClosing channelId data).Proceeds channelId record := by
  obtain ⟨state, funding, payment, held, rfl, alive⟩ := orderly.of_isMarkable markable
  refine ⟨.closing funding payment data, ?_, .inl rfl, .inl rfl, ?_, .inl rfl, ?_⟩
  · rcases alive with rfl | rfl
    · exact Nat.le_succ 1
    · exact le_refl 2
  · rintro _ ⟨⟩
  · rintro _ ⟨⟩

theorem proceeds_markClosed (data : ClosedDataView T) (orderly : Orderly record)
    (markable : record.IsMarkable) :
    (StorageOperation.markClosed channelId data).Proceeds channelId record := by
  obtain ⟨state, funding, payment, held, rfl, alive⟩ := orderly.of_isMarkable markable
  refine ⟨.closed funding payment data none, ?_, .inl rfl, .inl rfl, ?_, .inl rfl, ?_⟩
  · rcases alive with rfl | rfl
    · exact Nat.le_add_right 1 2
    · exact Nat.le_succ 2
  · rintro _ ⟨⟩
  · rintro _ ⟨⟩

theorem proceeds_freezeClose {expected : PaymentProof} {closing : ClosingData} (journal : String)
    (orderly : Orderly record) (same : closing.payment = expected) (isOpen : record.IsOpen)
    (isPayment : record.payment = some expected) :
    (StorageOperation.freezeClose channelId expected closing journal).Proceeds channelId
      record := by
  obtain ⟨funding, held, rfl⟩ := orderly.of_isOpen isOpen
  obtain rfl : held = some expected := isPayment
  subst same
  refine ⟨.frozen funding closing journal, Nat.le_succ 1, .inl rfl, .inl rfl, ?_,
    .inr (.inl ⟨rfl, _, _, _, rfl, rfl⟩), ?_⟩
  · rintro _ ⟨⟩
  · rintro _ ⟨⟩

theorem proceeds_advanceClose {expected : String} (journal : String)
    (completed : Option (ClosedDataView T)) (orderly : Orderly record)
    (isClosing : record.IsClosing) (isJournal : record.journal = .ok (some expected)) :
    (StorageOperation.advanceClose channelId expected journal completed).Proceeds channelId
      record := by
  obtain ⟨funding, held, rfl⟩ := orderly.of_journal isClosing isJournal
  cases completed with
  | none =>
      refine ⟨.frozen funding held journal, le_refl _, .inl rfl, .inl rfl, ?_,
        .inr (.inr ⟨_, _, _, rfl, rfl, rfl⟩), fun _ _ _ => rfl⟩
      rintro _ ⟨⟩
  | some data =>
      refine ⟨.closed funding (some held.payment) data (some journal), Nat.le_succ 2, .inl rfl,
        .inl rfl, ?_, .inr (.inr ⟨_, _, _, rfl, rfl, rfl⟩), ?_⟩
      · rintro _ ⟨⟩
      · rintro _ _ ⟨⟩

/-- **Operations that succeed keep the records orderly.** -/
theorem proceeds_of_accepted (named : operation.channel = some channelId)
    (accepted : operation.Accepted keeps records) (orderly : Orderly (records channelId)) :
    operation.Proceeds channelId (records channelId) := by
  cases operation with
  | saveFunding target funding =>
      obtain rfl := Option.some.inj named
      exact proceeds_saveFunding funding orderly
  | updateBalance target payment =>
      obtain rfl := Option.some.inj named
      exact proceeds_updateBalance payment orderly accepted.1
  | comparePayment target expected payment =>
      obtain rfl := Option.some.inj named
      exact proceeds_comparePayment orderly accepted.1 accepted.2.1 accepted.2.2.1
  | markClosing target data =>
      obtain rfl := Option.some.inj named
      exact proceeds_markClosing data orderly accepted
  | markClosed target data =>
      obtain rfl := Option.some.inj named
      exact proceeds_markClosed data orderly accepted
  | freezeClose target expected closing journal =>
      obtain rfl := Option.some.inj named
      exact proceeds_freezeClose journal orderly accepted.1 accepted.2.1 accepted.2.2
  | advanceClose target expected journal completed =>
      obtain rfl := Option.some.inj named
      exact proceeds_advanceClose journal completed orderly accepted.1 accepted.2
  | getFunding target => cases named
  | incrementUsage target increments => cases named
  | setKeyset mint id entry => cases named
  | reopen => cases named

end Operations

/-! ## Sequences of operations -/

section Sequences

variable {before after later : ChannelRecord T} {operation : StorageOperation T}
  {channelId : String}

theorem two_le_rank_iff : 2 ≤ before.rank ↔ before.IsClosing ∨ before.IsClosed := by
  unfold ChannelRecord.rank ChannelRecord.IsClosing ChannelRecord.IsClosed
  rcases before.state with message | _ | (_ | _ | _) <;> simp

theorem Succeeds.refl (record : ChannelRecord T) : Succeeds record record :=
  ⟨le_refl _, fun _ stored => stored, fun payment stored => ⟨payment, stored, le_refl _⟩,
    fun _ => rfl, fun _ stored => stored⟩

theorem Succeeds.trans (first : Succeeds before after) (second : Succeeds after later) :
    Succeeds before later where
  rank := first.rank.trans second.rank
  funding := fun funding stored => second.funding funding (first.funding funding stored)
  payment := by
    intro payment stored
    obtain ⟨middle, isMiddle, larger⟩ := first.payment payment stored
    obtain ⟨last, isLast, largest⟩ := second.payment middle isMiddle
    exact ⟨last, isLast, larger.trans largest⟩
  settled := by
    intro settled
    have still := two_le_rank_iff.mp ((two_le_rank_iff.mpr settled).trans first.rank)
    rw [second.settled still, first.settled settled]
  closed := fun data stored => second.closed data (first.closed data stored)

theorem Advances.succeeds (advances : Advances operation channelId before after) :
    Succeeds before after where
  rank := advances.rank
  funding := by
    intro funding stored
    rcases advances.funding with same | ⟨absent, -⟩
    · rw [same, stored]
    · cases stored.symm.trans absent
  payment := by
    intro payment stored
    rcases advances.payment with same | ⟨-, -, later, isLater, larger⟩
    · exact ⟨payment, same.trans stored, le_refl _⟩
    · exact ⟨later, isLater, (larger payment stored).le⟩
  settled := by
    intro settled
    rcases advances.payment with same | ⟨isOpen, -⟩
    · exact same
    · rcases settled with isClosing | isClosed
      · cases isOpen.symm.trans isClosing
      · cases isOpen.symm.trans isClosed
  closed := advances.closed

end Sequences

/-! ## Stores -/

/-- An operation does to a store what it does to the abstract one: it succeeds where the
records accept it and changes them, or it leaves the store as it is. -/
structure Does (keeps : Nat → Prop) (record : σ → String → ChannelRecord T)
    (operation : StorageOperation T) (store : σ) (result : Except String Unit × σ) : Prop where
  accepted : result.1 = .ok () ↔ operation.Accepted keeps (record store)
  applied : result.1 = .ok () → record result.2 = operation.apply (record store)
  refused : result.1 ≠ .ok () → result.2 = store

/-- Funding is brought to the channel that is named, and kept. -/
theorem StorageOperation.funding_apply (operation : StorageOperation T)
    (records : String → ChannelRecord T) (channelId : String) :
    (operation.apply records channelId).funding =
      (records channelId).funding.or (operation.funded channelId) := by
  unfold apply
  cases operation with
  | saveFunding channelId' funding =>
      by_cases same : channelId' = channelId
      · simp [channel, change, funded, same]
      · simp [channel, funded, same]
  | advanceClose channelId' expected journal completed =>
      cases completed with
      | none => split_ifs <;> exact (Option.or_none).symm
      | some data => split_ifs <;> exact (Option.or_none).symm
  | _ => split_ifs <;> exact (Option.or_none).symm

section Does

variable {keeps : Nat → Prop} {record : σ → String → ChannelRecord T}
  {operation : StorageOperation T} {store : σ}

theorem does_of_accepted {result : Except String Unit × σ} (succeeded : result.1 = .ok ())
    (accepted : operation.Accepted keeps (record store))
    (applied : record result.2 = operation.apply (record store)) :
    Does keeps record operation store result :=
  ⟨⟨fun _ => accepted, fun _ => succeeded⟩, fun _ => applied,
    fun failed => absurd succeeded failed⟩

theorem does_of_refused {result : Except String Unit × σ} (failed : result.1 ≠ .ok ())
    (unchanged : result.2 = store) (refused : ¬ operation.Accepted keeps (record store)) :
    Does keeps record operation store result :=
  ⟨⟨fun succeeded => absurd succeeded failed, fun accepted => absurd accepted refused⟩,
    fun succeeded => absurd succeeded failed, fun _ => unchanged⟩

/-- One record changes, and the others stay as they are. -/
theorem apply_eq_of_changes {channelId : String} {records after : String → ChannelRecord T}
    (named : operation.channel = some channelId)
    (own : after channelId = operation.change (records channelId))
    (others : ∀ other, other ≠ channelId → after other = records other) :
    after = operation.apply records := by
  funext other
  unfold StorageOperation.apply
  rw [named]
  by_cases same : other = channelId
  · subst same
    rw [if_pos rfl, own]
  · rw [if_neg fun equal => same (Option.some.inj equal).symm, others other same]

/-- What can be seen of a channel, but its usage, is on record next to the journal. -/
theorem apply_eq_of_views {S : SpilmanStorage T σ} {after : σ} {channelId : String}
    {change : ChannelView T → ChannelView T} (named : operation.channel = some channelId)
    (views : S.Changes store after channelId change)
    (own : ∀ view journal, (change view).record journal = operation.change (view.record journal))
    (journals : ∀ other, S.getCloseJournal after other = S.getCloseJournal store other) :
    S.record after = operation.apply (S.record store) := by
  refine apply_eq_of_changes named ?_ ?_
  · rw [S.record_eq, S.record_eq, views.1, journals channelId, own]
  · intro other apart
    rw [S.record_eq, S.record_eq, views.2 other apart, journals other]

end Does

/-- A machine that does what the abstract store does, as far as it is permitted. -/
structure Implements (M : Machine (StorageOperation T) (Except String Unit) σ)
    (record : σ → String → ChannelRecord T) (keeps : Nat → Prop) (wellFormed : σ → Prop)
    (permits : StorageOperation T → σ → Prop) : Prop where
  formed : ∀ operation store, wellFormed store →
    (∀ channelId, Orderly (record store channelId)) → permits operation store →
    wellFormed (M operation store).2
  does : ∀ operation store, wellFormed store →
    (∀ channelId, Orderly (record store channelId)) → permits operation store →
    Does keeps record operation store (M operation store)

namespace Implements

variable {M : Machine (StorageOperation T) (Except String Unit) σ}
  {record : σ → String → ChannelRecord T} {keeps : Nat → Prop} {wellFormed : σ → Prop}
  {permits : StorageOperation T → σ → Prop} {operation : StorageOperation T} {store : σ}

/-- A step advances every channel, if only to where it is. -/
theorem advances (implements : Implements M record keeps wellFormed permits)
    (formed : wellFormed store) (orderly : ∀ channelId, Orderly (record store channelId))
    (permitted : permits operation store) (channelId : String) :
    Orderly (record (M operation store).2 channelId) ∧
      Advances operation channelId (record store channelId)
        (record (M operation store).2 channelId) := by
  have does := implements.does operation store formed orderly permitted
  by_cases succeeded : (M operation store).1 = .ok ()
  · rw [does.applied succeeded]
    unfold StorageOperation.apply
    by_cases named : operation.channel = some channelId
    · rw [if_pos named]
      exact proceeds_of_accepted named (does.accepted.mp succeeded) (orderly channelId)
    · rw [if_neg named]
      exact ⟨orderly channelId, .refl _ _ _⟩
  · rw [does.refused succeeded]
    exact ⟨orderly channelId, .refl _ _ _⟩

/-- Stores that come up are well formed, and all their records are orderly. -/
theorem orderly_after (implements : Implements M record keeps wellFormed permits)
    (formed : wellFormed store) (orderly : ∀ channelId, Orderly (record store channelId))
    {operations : List (StorageOperation T)}
    (permitted : M.Throughout permits operations store) :
    wellFormed (M.after operations store) ∧
      ∀ channelId, Orderly (record (M.after operations store) channelId) := by
  refine Machine.invariant_after
    (fun store => wellFormed store ∧ ∀ channelId, Orderly (record store channelId)) ?_
    ⟨formed, orderly⟩ permitted
  rintro operation store ⟨formed, orderly⟩ permitted
  exact ⟨implements.formed operation store formed orderly permitted, fun channelId =>
    (implements.advances formed orderly permitted channelId).1⟩

theorem funding_step (implements : Implements M record keeps wellFormed permits)
    (formed : wellFormed store) (orderly : ∀ channelId, Orderly (record store channelId))
    (permitted : permits operation store) (channelId : String) :
    (record (M operation store).2 channelId).funding =
      (record store channelId).funding.or (operation.funded channelId) := by
  have does := implements.does operation store formed orderly permitted
  by_cases succeeded : (M operation store).1 = .ok ()
  · rw [does.applied succeeded]
    exact operation.funding_apply _ channelId
  · rw [does.refused succeeded]
    -- only saving funding brings funding, and that does not fail
    cases operation with
    | saveFunding channelId' funding => exact absurd (does.accepted.mpr trivial) succeeded
    | _ => exact (Option.or_none).symm

/-- The funding on record is the first that was saved. -/
theorem funding_after (implements : Implements M record keeps wellFormed permits)
    (formed : wellFormed store) (orderly : ∀ channelId, Orderly (record store channelId))
    {operations : List (StorageOperation T)}
    (permitted : M.Throughout permits operations store) (channelId : String) :
    (record (M.after operations store) channelId).funding =
      (record store channelId).funding.or
        (operations.findSome? (StorageOperation.funded channelId)) := by
  induction operations generalizing store with
  | nil => exact (Option.or_none).symm
  | cons operation rest ih =>
      have step := implements.funding_step formed orderly permitted.1 channelId
      have later := ih (implements.formed operation store formed orderly permitted.1)
        (fun other => (implements.advances formed orderly permitted.1 other).1) permitted.2
      refine later.trans ?_
      rw [step, Option.or_assoc, List.findSome?_cons]
      cases operation.funded channelId with
      | none => rfl
      | some funding => rfl

theorem succeeds_after (implements : Implements M record keeps wellFormed permits)
    (formed : wellFormed store) (orderly : ∀ channelId, Orderly (record store channelId))
    {operations : List (StorageOperation T)}
    (permitted : M.Throughout permits operations store) (channelId : String) :
    Succeeds (record store channelId) (record (M.after operations store) channelId) := by
  refine Machine.related_after
    (fun store => wellFormed store ∧ ∀ channelId, Orderly (record store channelId))
    (fun before after => Succeeds (record before channelId) (record after channelId))
    (fun _ => .refl _) (fun _ _ _ => .trans) ?_ ⟨formed, orderly⟩ permitted
  rintro operation store ⟨formed, orderly⟩ permitted
  have advances := implements.advances formed orderly permitted
  exact ⟨⟨implements.formed operation store formed orderly permitted,
    fun other => (advances other).1⟩, (advances channelId).2.succeeds⟩

end Implements

end Spilman
