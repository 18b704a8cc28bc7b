/-
# The client's stores are almost interchangeable

Both stores implement the same abstract store, so they show the same as long as they accept
the same operations. They do not always: the store over SQLite guards its statements with
the state that they need, and the store in memory takes a payment or a close for a channel
it does not know, a close of a channel that is not open, and the failure of an opening that
has failed already. `Comparable` is what is left. A run of both stores agrees in every step
exactly if every operation is comparable where it is made.
-/

import Spilman.Client.Lifecycle

namespace Spilman

open Lib

variable {T : Carriers}

/-! ## Comparing stores -/

/-- Two stores of a client give the same answers. The channels are compared as a set. -/
structure SameClientAnswers {σ τ : Type} (S : ClientStorage T σ) (S' : ClientStorage T τ)
    (store : σ) (store' : τ) : Prop where
  state : ∀ channelId, S.getState store channelId = S'.getState store' channelId
  openingFromSwap : ∀ channelId,
    S.getOpeningFromSwap store channelId = S'.getOpeningFromSwap store' channelId
  openingFailure : ∀ channelId,
    S.getOpeningFailure store channelId = S'.getOpeningFailure store' channelId
  funding : ∀ channelId, S.getFunding store channelId = S'.getFunding store' channelId
  paymentState : ∀ channelId,
    S.getPaymentState store channelId = S'.getPaymentState store' channelId
  listed : ∀ channelId, channelId ∈ S.listChannelIds store ↔ channelId ∈ S'.listChannelIds store'

/-- Both stores perform the same operations: each one succeeds in both or fails in both, and
after each one they give the same answers. -/
def Agree (L : Cashu T) :
    List (ClientOperation T) → MemoryClientStorage T → SqliteClientStorage T → Prop
  | [], _, _ => True
  | operation :: rest, store, store' =>
      ((memoryClientStorage T).perform operation store).1.isOk =
          ((sqliteClientStorage L).perform operation store').1.isOk ∧
        SameClientAnswers (memoryClientStorage T) (sqliteClientStorage L)
          ((memoryClientStorage T).perform operation store).2
          ((sqliteClientStorage L).perform operation store').2 ∧
        Agree L rest ((memoryClientStorage T).perform operation store).2
          ((sqliteClientStorage L).perform operation store').2

/-- A channel is known if it is paid or closed, open if it is closing, and not closed yet if
it is closed. An opening that fails has not failed before. -/
def ClientOperation.Comparable (operation : ClientOperation T) (store : MemoryClientStorage T) :
    Prop :=
  match operation with
  | .setOpeningFailed channelId _ =>
      store.getState channelId = some .openingFromSwap ∨ channelId ∉ store.opening
  | .savePaymentState channelId _ => store.getState channelId ≠ none
  | .setClosed channelId =>
      store.getState channelId ≠ none ∧ store.getState channelId ≠ some .closed
  | .setClosing channelId =>
      store.getState channelId = some .opened ∨ store.getState channelId = some .closing
  | .saveOpeningFromSwap _ _ | .setOpen _ _ | .delete _ | .setKeyset _ _ _ => True

/-! ## One channel -/

namespace ClientView

/-- A known channel has an opening or funding, and with funding its state is a funded one. An
unknown channel has nothing. -/
structure Settled (view : ClientView T) : Prop where
  unknown : view.state = none → view = .unknown
  listed : view.state.isSome → view.opening.isSome ∨ view.funding.isSome
  funded : view.funding.isSome → ∃ state ∈ view.state, state.IsFunded

variable {view : ClientView T}

theorem settled_unknown : (unknown : ClientView T).Settled := by
  constructor <;> simp [unknown]

/-- A channel that is opening has an opening, and no funding. -/
theorem Settled.of_isOpening (settled : view.Settled) {state : ClientChannelState}
    (known : view.state = some state) (isOpening : state.IsOpening) :
    view.opening.isSome ∧ view.funding = none := by
  have unfunded : ¬ view.funding.isSome := by
    intro stored
    obtain ⟨_, same, isFunded⟩ := settled.funded stored
    obtain rfl := Option.some.inj (known.symm.trans same)
    exact not_isFunded_of_isOpening isOpening isFunded
  exact ⟨(settled.listed (Option.isSome_of_eq_some known)).resolve_right unfunded,
    Option.not_isSome_iff_eq_none.mp unfunded⟩

/-- Another state of a known channel, funded if the channel is. -/
theorem Settled.withState (settled : view.Settled) (known : view.state.isSome)
    {later : ClientChannelState} (funded : view.funding.isSome → later.IsFunded)
    (failure : Option ClientOpeningFailure) :
    ({ view with state := some later, failure } : ClientView T).Settled where
  unknown := by rintro ⟨⟩
  listed := fun _ => settled.listed known
  funded := fun stored => ⟨later, rfl, funded stored⟩

/-- What an operation does that both stores accept. -/
theorem Settled.apply (settled : view.Settled) {operation : ClientOperation T}
    (accepts : SqliteClientStorage.Accepts operation view) : (view.apply operation).Settled := by
  cases operation with
  | saveOpeningFromSwap channelId opening =>
      have unfunded : view.funding = none := by
        rcases accepts with fresh | ⟨⟨state, known, isOpening⟩, -⟩
        · rw [settled.unknown fresh]
          rfl
        · exact (settled.of_isOpening known isOpening).2
      refine ⟨by rintro ⟨⟩, fun _ => .inl rfl, ?_⟩
      show view.funding.isSome → _
      rw [unfunded]
      rintro ⟨⟩
  | setOpen channelId proofs =>
      rcases accepts with ⟨known, saved⟩ | ⟨⟨state, known, isFunded⟩, -⟩
      · obtain ⟨opening, saved⟩ := Option.isSome_iff_exists.mp saved
        rw [apply_setOpen_of_opening channelId proofs known, saved]
        exact ⟨by rintro ⟨⟩, fun _ => .inr rfl, fun _ => ⟨_, rfl, .inl rfl⟩⟩
      · rw [apply_setOpen_of_funded channelId proofs known isFunded]
        exact settled
  | setOpeningFailed channelId failure =>
      have unfunded := (settled.of_isOpening accepts (.inl rfl)).2
      refine settled.withState (Option.isSome_of_eq_some accepts) ?_ (some failure)
      rw [unfunded]
      rintro ⟨⟩
  | savePaymentState channelId payment =>
      refine ⟨?_, settled.listed, settled.funded⟩
      intro fresh
      have known : view.state.isSome := accepts
      rw [show view.state = none from fresh] at known
      cases known
  | setClosed channelId =>
      obtain ⟨state, known, -⟩ := accepts
      exact settled.withState (Option.isSome_of_eq_some known) (fun _ => .inr (.inr rfl))
        view.failure
  | setClosing channelId =>
      have known : view.state.isSome := by
        rcases accepts with known | known <;> exact Option.isSome_of_eq_some known
      exact settled.withState known (fun _ => .inr (.inl rfl)) view.failure
  | delete channelId => exact settled_unknown
  | setKeyset mint id entry => exact settled

end ClientView

/-! ## Both stores -/

/-- The two stores show the same of every channel, and it is settled. -/
structure ClientRelated (store : MemoryClientStorage T) (store' : SqliteClientStorage T) :
    Prop where
  view : ∀ channelId, store.view channelId = store'.view channelId
  settled : ∀ channelId, (store.view channelId).Settled

variable {L : Cashu T} {store : MemoryClientStorage T} {store' : SqliteClientStorage T}
  {operation : ClientOperation T}

theorem clientRelated_new : ClientRelated (T := T) .new .new where
  view := fun _ => rfl
  settled := fun _ => ClientView.settled_unknown

/-- Over SQLite, funding is shown in the states of a funded channel. -/
theorem SqliteClientStorage.getFunding_eq {channelId : String}
    (settled : (store'.view channelId).Settled) :
    store'.getFunding channelId = (store'.view channelId).funding := by
  unfold getFunding
  cases found : store'.channels.lookup channelId with
  | none =>
      rw [view_of_none found]
      rfl
  | some row =>
      rw [view_of_some found] at settled ⊢
      by_cases funded : row.state.IsFunded
      · exact if_pos funded
      · have unfunded : ¬ row.funding.isSome := by
          intro stored
          obtain ⟨_, same, isFunded⟩ := settled.funded stored
          exact funded (Option.some.inj same ▸ isFunded)
        exact (if_neg funded).trans (Option.not_isSome_iff_eq_none.mp unfunded).symm

theorem MemoryClientStorage.mem_listChannelIds {channelId : String} :
    channelId ∈ store.listChannelIds ↔
      (store.view channelId).opening.isSome ∨ (store.view channelId).funding.isSome := by
  unfold listChannelIds
  rw [List.mem_dedup, List.mem_append]
  exact or_congr AList.lookup_isSome.symm AList.lookup_isSome.symm

theorem SqliteClientStorage.mem_listChannelIds {channelId : String} :
    channelId ∈ store'.listChannelIds ↔ (store'.view channelId).state.isSome := by
  refine AList.lookup_isSome.symm.trans ?_
  cases found : store'.channels.lookup channelId with
  | none =>
      rw [view_of_none found]
      rfl
  | some row =>
      rw [view_of_some found]
      rfl

/-- Related stores give the same answers. -/
theorem ClientRelated.sameAnswers (related : ClientRelated store store') :
    SameClientAnswers (memoryClientStorage T) (sqliteClientStorage L) store store' where
  state := fun channelId => by
    rw [(memoryClientLaws T).getState, (sqliteClientLaws L).getState]
    exact congrArg ClientView.state (related.view channelId)
  openingFromSwap := fun channelId => by
    rw [(memoryClientLaws T).getOpeningFromSwap, (sqliteClientLaws L).getOpeningFromSwap]
    exact congrArg (ClientView.openingFromSwap · channelId) (related.view channelId)
  openingFailure := fun channelId => by
    rw [(memoryClientLaws T).getOpeningFailure, (sqliteClientLaws L).getOpeningFailure]
    exact congrArg ClientView.openingFailure (related.view channelId)
  funding := fun channelId => by
    have settled := related.settled channelId
    rw [related.view] at settled
    exact (congrArg ClientView.funding (related.view channelId)).trans
      (SqliteClientStorage.getFunding_eq settled).symm
  paymentState := fun channelId => by
    rw [(memoryClientLaws T).getPaymentState, (sqliteClientLaws L).getPaymentState]
    exact congrArg ClientView.payment (related.view channelId)
  listed := fun channelId => by
    refine MemoryClientStorage.mem_listChannelIds.trans
      (Iff.trans ?_ SqliteClientStorage.mem_listChannelIds.symm)
    rw [← related.view]
    refine ⟨?_, (related.settled channelId).listed⟩
    -- A channel that is not known has no records.
    contrapose!
    intro unknown
    rw [(related.settled channelId).unknown (Option.not_isSome_iff_eq_none.mp unknown)]
    exact ⟨Bool.false_ne_true, Bool.false_ne_true⟩

theorem ClientRelated.accepts_iff (related : ClientRelated store store') {channelId : String} :
    SqliteClientStorage.Accepts operation (store.view channelId) ↔
      SqliteClientStorage.Accepts operation (store'.view channelId) := by
  rw [related.view]

/-- An operation on a channel is comparable exactly if both stores accept it or both refuse
it. -/
theorem ClientRelated.comparable_iff (related : ClientRelated store store') {channelId : String}
    (named : operation.channelId = some channelId) :
    operation.Comparable store ↔
      (MemoryClientStorage.Accepts operation (store.view channelId) ↔
        SqliteClientStorage.Accepts operation (store.view channelId)) := by
  have settled := related.settled channelId
  cases operation <;> cases named
  case saveOpeningFromSwap | setOpen | delete => exact iff_of_true trivial Iff.rfl
  case setOpeningFailed failure =>
    show ((store.view channelId).state = some .openingFromSwap ∨ channelId ∉ store.opening) ↔
      ((store.view channelId).opening.isSome ↔
        (store.view channelId).state = some .openingFromSwap)
    have present : channelId ∈ store.opening ↔ (store.view channelId).opening.isSome :=
      AList.lookup_isSome.symm
    have saved : (store.view channelId).state = some .openingFromSwap →
        (store.view channelId).opening.isSome :=
      fun known => (settled.of_isOpening known (.inl rfl)).1
    rw [present]
    tauto
  case savePaymentState payment =>
    exact Option.isSome_iff_ne_none.symm.trans (iff_of_eq (true_iff _).symm)
  case setClosed =>
    show ((store.view channelId).state ≠ none ∧ (store.view channelId).state ≠ some .closed) ↔
      (True ↔ ∃ state ∈ (store.view channelId).state, state ≠ .closed)
    rw [true_iff]
    cases (store.view channelId).state with
    | none => simp
    | some state => simp
  case setClosing => exact iff_of_eq (true_iff _).symm

/-- **One operation.** Comparable operations succeed in both stores or fail in both, and
leave them related. -/
theorem ClientRelated.step (related : ClientRelated store store')
    (comparable : operation.Comparable store) :
    ((memoryClientStorage T).perform operation store).1.isOk =
        ((sqliteClientStorage L).perform operation store').1.isOk ∧
      ClientRelated ((memoryClientStorage T).perform operation store).2
        ((sqliteClientStorage L).perform operation store').2 := by
  cases named : operation.channelId with
  | none =>
      cases operation with
      | setKeyset mint id entry => exact ⟨rfl, related.view, related.settled⟩
      | _ => cases named
  | some channelId =>
      have same := (related.comparable_iff named).mp comparable
      by_cases accepts : SqliteClientStorage.Accepts operation (store.view channelId)
      · obtain ⟨succeeded, moves⟩ :=
          (memoryClientLaws T).accepted operation store channelId named (same.mpr accepts)
        obtain ⟨succeeded', moves'⟩ := (sqliteClientLaws L).accepted operation store' channelId
          named (related.accepts_iff.mp accepts)
        refine ⟨by rw [succeeded, succeeded'], ?_, ?_⟩
        · intro other
          by_cases own : other = channelId
          · subst own
            exact moves.own.trans ((congrArg (·.apply operation) (related.view other)).trans
              moves'.own.symm)
          · exact (moves.others other own).trans
              ((related.view other).trans (moves'.others other own).symm)
        · intro other
          by_cases own : other = channelId
          · subst own
            have settled := (related.settled other).apply accepts
            rwa [← show _ = (store.view other).apply operation from moves.own] at settled
          · have settled := related.settled other
            rwa [← show _ = store.view other from moves.others other own] at settled
      · obtain ⟨_, refused⟩ := (memoryClientLaws T).refused operation store channelId named
          fun accepted => accepts (same.mp accepted)
        obtain ⟨_, refused'⟩ := (sqliteClientLaws L).refused operation store' channelId named
          fun accepted => accepts (related.accepts_iff.mpr accepted)
        rw [refused, refused']
        exact ⟨rfl, related⟩

/-- An operation that is not comparable succeeds in one store and fails in the other. -/
theorem ClientRelated.isOk_ne (related : ClientRelated store store')
    (incomparable : ¬ operation.Comparable store) :
    ((memoryClientStorage T).perform operation store).1.isOk ≠
      ((sqliteClientStorage L).perform operation store').1.isOk := by
  intro same
  cases named : operation.channelId with
  | none =>
      cases operation with
      | setKeyset mint id entry => exact incomparable trivial
      | _ => cases named
  | some channelId =>
      apply incomparable
      rw [related.comparable_iff named]
      by_cases accepts : MemoryClientStorage.Accepts operation (store.view channelId)
      · refine iff_of_true accepts ?_
        by_contra refuses
        obtain ⟨_, refused⟩ := (sqliteClientLaws L).refused operation store' channelId named
          fun accepted => refuses (related.accepts_iff.mpr accepted)
        rw [((memoryClientLaws T).accepted operation store channelId named accepts).1,
          refused] at same
        cases same
      · refine iff_of_false accepts ?_
        intro accepts'
        obtain ⟨_, refused⟩ :=
          (memoryClientLaws T).refused operation store channelId named accepts
        rw [((sqliteClientLaws L).accepted operation store' channelId named
          (related.accepts_iff.mp accepts')).1, refused] at same
        cases same

/-- **Related stores agree** exactly as long as their operations are comparable. -/
theorem ClientRelated.agree_iff (related : ClientRelated store store')
    (operations : List (ClientOperation T)) :
    Agree L operations store store' ↔
      Machine.Throughout (memoryClientStorage T).perform ClientOperation.Comparable operations
        store := by
  induction operations generalizing store store' with
  | nil => exact Iff.rfl
  | cons operation rest ih =>
      by_cases comparable : operation.Comparable store
      · obtain ⟨same, after⟩ := related.step (L := L) comparable
        constructor
        · intro agree
          exact ⟨comparable, (ih after).mp agree.2.2⟩
        · intro throughout
          exact ⟨same, after.sameAnswers, (ih after).mpr throughout.2⟩
      · constructor
        · intro agree
          exact absurd agree.1 (related.isOk_ne comparable)
        · intro throughout
          exact absurd throughout.1 comparable

/-- **The two stores of a client are interchangeable** exactly for comparable operations. -/
theorem clientStores_agree_iff (L : Cashu T) (operations : List (ClientOperation T)) :
    Agree L operations .new .new ↔
      Machine.Throughout (memoryClientStorage T).perform ClientOperation.Comparable operations
        .new :=
  clientRelated_new.agree_iff operations

/-- Closing a closed channel is an error over SQLite. In memory the channel is closing again.
The stores also answer differently when a channel that is not known is paid or closed, and
when an opening fails twice. -/
theorem clientStores_disagree :
    ¬ Agree Sample.library
        [.saveOpeningFromSwap "c" Sample.swapOpening, .setOpen "c" .null, .setClosed "c",
          .setClosing "c"] .new .new ∧
      ¬ Agree Sample.library [.savePaymentState "c" ⟨0, "", 0, 0⟩] .new .new ∧
      ¬ Agree Sample.library [.setClosed "c"] .new .new ∧
      ¬ Agree Sample.library
        [.saveOpeningFromSwap "c" Sample.swapOpening, .setOpeningFailed "c" ⟨"", "", 0⟩,
          .setOpeningFailed "c" ⟨"", "", 0⟩] .new .new := by
  refine ⟨?_, ?_, ?_, ?_⟩
  · intro agree
    exact absurd agree.2.2.2.2.2.2.1 (by decide +kernel)
  · intro agree
    exact absurd agree.1 (by decide +kernel)
  · intro agree
    exact absurd agree.1 (by decide +kernel)
  · intro agree
    exact absurd agree.2.2.2.2.1 (by decide +kernel)

end Spilman
