/-
# The client's stores

Before it submits a funding swap the client saves what it needs to complete the opening
later, and from then on what becomes of the channel: its funding, its last payment, and
the state of its lifecycle. The code has two stores. One keeps five maps in memory, the
other a row for each channel in SQLite.

What can be seen of one channel is a `ClientView`. The view is the abstract store:
`ClientView.apply` says what an operation does to a channel, and `ClientStorage.Laws` that
a store does exactly this when it accepts an operation, and nothing when it refuses one.
The two stores do not accept the same operations. `MemoryClientStorage.Accepts` and
`SqliteClientStorage.Accepts` say what each of them accepts.

Serialized columns are kept as the records they are made from, and the name of a state as
the state. Statements and transactions are atomic, and none fails for reasons outside the
database.
-/

import Spilman.Client.Host
import Spilman.Lib.Machine
import Spilman.Storage.Interface

namespace Spilman

open Lib

variable {T : Carriers} {σ : Type}

/-! ## Records -/

/-- The last payment of a channel. -/
structure ClientPaymentState where
  balance : Nat
  signature : String
  paymentCount : Nat
  lastPaymentAt : Nat
  deriving DecidableEq, Repr

/-- Why the mint has rejected an opening. -/
structure ClientOpeningFailure where
  stage : String
  message : String
  failedAt : Nat
  deriving DecidableEq, Repr

/-- A cached keyset of a mint. -/
abbrev ClientKeysetCacheEntry := KeysetCacheEntry

/-! ## The interface -/

/-- The methods of a client's store. A writing method gives its result and the store after
it. -/
structure ClientStorage (T : Carriers) (σ : Type) where
  saveOpeningFromSwap : σ → String → ClientChannelOpeningFromSwap T → Except String Unit × σ
  setOpen : σ → String → T.Text → Except String Unit × σ
  getOpeningFromSwap : σ → String → Except String (Option (ClientChannelOpeningFromSwap T))
  setOpeningFailed : σ → String → ClientOpeningFailure → Except String Unit × σ
  getOpeningFailure : σ → String → Option ClientOpeningFailure
  getFunding : σ → String → Option (ClientChannelFunding T)
  getPaymentState : σ → String → Option ClientPaymentState
  savePaymentState : σ → String → ClientPaymentState → Except String Unit × σ
  getState : σ → String → Option ClientChannelState
  setClosed : σ → String → Except String Unit × σ
  setClosing : σ → String → Except String Unit × σ
  listChannelIds : σ → List String
  delete : σ → String → Except String Unit × σ
  getKeyset : σ → String → T.Id → Option (ClientKeysetCacheEntry T)
  setKeyset : σ → String → T.Id → ClientKeysetCacheEntry T → Except String Unit × σ
  getActiveKeysetIds : σ → String → T.CurrencyUnit → List T.Id

/-- A writing method with its arguments. -/
inductive ClientOperation (T : Carriers)
  | saveOpeningFromSwap (channelId : String) (opening : ClientChannelOpeningFromSwap T)
  | setOpen (channelId : String) (fundingProofsJson : T.Text)
  | setOpeningFailed (channelId : String) (failure : ClientOpeningFailure)
  | savePaymentState (channelId : String) (payment : ClientPaymentState)
  | setClosed (channelId : String)
  | setClosing (channelId : String)
  | delete (channelId : String)
  | setKeyset (mint : String) (id : T.Id) (entry : ClientKeysetCacheEntry T)

/-- A store as a machine. -/
def ClientStorage.perform (S : ClientStorage T σ) :
    Machine (ClientOperation T) (Except String Unit) σ
  | .saveOpeningFromSwap channelId opening, store => S.saveOpeningFromSwap store channelId opening
  | .setOpen channelId proofs, store => S.setOpen store channelId proofs
  | .setOpeningFailed channelId failure, store => S.setOpeningFailed store channelId failure
  | .savePaymentState channelId payment, store => S.savePaymentState store channelId payment
  | .setClosed channelId, store => S.setClosed store channelId
  | .setClosing channelId, store => S.setClosing store channelId
  | .delete channelId, store => S.delete store channelId
  | .setKeyset mint id entry, store => S.setKeyset store mint id entry

/-- The channel that an operation names, if it names one. -/
def ClientOperation.channelId : ClientOperation T → Option String
  | saveOpeningFromSwap channelId _ | setOpen channelId _ | setOpeningFailed channelId _
  | savePaymentState channelId _ | setClosed channelId | setClosing channelId
  | delete channelId => some channelId
  | setKeyset _ _ _ => none

/-! ## The abstract store -/

/-- The state of a channel that has been funded. -/
def ClientChannelState.IsFunded (state : ClientChannelState) : Prop :=
  state = opened ∨ state = closing ∨ state = closed

/-- The state of a channel that is not funded yet. -/
def ClientChannelState.IsOpening (state : ClientChannelState) : Prop :=
  state = openingFromSwap ∨ state = openingFailed

instance (state : ClientChannelState) : Decidable state.IsFunded :=
  inferInstanceAs (Decidable (_ ∨ _ ∨ _))

instance (state : ClientChannelState) : Decidable state.IsOpening :=
  inferInstanceAs (Decidable (_ ∨ _))

/-- What can be seen of one channel. -/
@[ext]
structure ClientView (T : Carriers) where
  state : Option ClientChannelState
  opening : Option (ClientChannelOpeningFromSwap T)
  funding : Option (ClientChannelFunding T)
  payment : Option ClientPaymentState
  failure : Option ClientOpeningFailure

namespace ClientView

/-- Nothing is known of the channel. -/
def unknown : ClientView T := ⟨none, none, none, none, none⟩

/-- What an operation that is accepted does to the channel it names. -/
def apply (view : ClientView T) : ClientOperation T → ClientView T
  | .saveOpeningFromSwap _ opening => { view with
      state := some .openingFromSwap, opening := some opening
      failure := if view.state = none then view.failure else none }
  | .setOpen _ proofs =>
      if view.state = some .openingFromSwap then { view with
        state := some .opened, opening := none
        funding := view.opening.map fun opening => opening.funding proofs
        failure := none }
      else view
  | .setOpeningFailed _ failure =>
      { view with state := some .openingFailed, failure := some failure }
  | .savePaymentState _ payment => { view with payment := some payment }
  | .setClosed _ => { view with state := some .closed }
  | .setClosing _ => { view with state := some .closing }
  | .delete _ => unknown
  | .setKeyset _ _ _ => view

theorem apply_setOpen_of_opening {view : ClientView T} (channelId : String) (proofs : T.Text)
    (known : view.state = some .openingFromSwap) :
    view.apply (.setOpen channelId proofs) = { view with
      state := some .opened, opening := none
      funding := view.opening.map fun opening => opening.funding proofs
      failure := none } :=
  if_pos known

theorem apply_setOpen_of_funded {view : ClientView T} (channelId : String) (proofs : T.Text)
    {state : ClientChannelState} (known : view.state = some state) (funded : state.IsFunded) :
    view.apply (.setOpen channelId proofs) = view := by
  apply if_neg
  rw [known]
  rintro ⟨⟩
  exact absurd funded (by decide)

/-- The opening that is shown: none but in the state of an opening. -/
def openingFromSwap (view : ClientView T) (channelId : String) :
    Except String (Option (ClientChannelOpeningFromSwap T)) :=
  if view.state ≠ some .openingFromSwap then .ok none
  else
    match view.opening with
    | some opening => .ok (some opening)
    | none => .error s!"channel {channelId} has corrupt OpeningFromSwap state"

/-- The failure that is shown. -/
def openingFailure (view : ClientView T) : Option ClientOpeningFailure :=
  if view.state ≠ some .openingFailed then none else view.failure

/-- An opening can be saved if the channel is new, or again if it is the same one. -/
def AcceptsOpening (view : ClientView T) (opening : ClientChannelOpeningFromSwap T) : Prop :=
  view.state = none ∨
    ((∃ state ∈ view.state, state.IsOpening) ∧ view.opening = some opening)

/-- Proofs complete an opening, or are those it was completed with. -/
def AcceptsProofs (view : ClientView T) (proofs : T.Text) : Prop :=
  (view.state = some .openingFromSwap ∧ view.opening.isSome) ∨
    ((∃ state ∈ view.state, state.IsFunded) ∧
      ∃ funding ∈ view.funding, funding.fundingProofsJson = proofs)

end ClientView

/-- An operation acts on the channel it names, and on no other. -/
structure ActsOn (operation : ClientOperation T) (channelId : String)
    (before after : String → ClientView T) : Prop where
  own : after channelId = (before channelId).apply operation
  others : ∀ other ≠ channelId, after other = before other

/-- How a store implements the abstract store. -/
structure ClientStorage.Laws (S : ClientStorage T σ) where
  view : σ → String → ClientView T
  Accepts : ClientOperation T → ClientView T → Prop
  saves : ∀ channelId opening view,
    Accepts (.saveOpeningFromSwap channelId opening) view ↔ view.AcceptsOpening opening
  completes : ∀ channelId proofs view,
    Accepts (.setOpen channelId proofs) view ↔ view.AcceptsProofs proofs
  fails : ∀ channelId failure view, Accepts (.setOpeningFailed channelId failure) view →
    view.opening.isSome ∨ view.state = some .openingFromSwap
  getState : ∀ store channelId, S.getState store channelId = (view store channelId).state
  getOpeningFromSwap : ∀ store channelId,
    S.getOpeningFromSwap store channelId = (view store channelId).openingFromSwap channelId
  getOpeningFailure : ∀ store channelId,
    S.getOpeningFailure store channelId = (view store channelId).openingFailure
  getPaymentState : ∀ store channelId,
    S.getPaymentState store channelId = (view store channelId).payment
  accepted : ∀ operation store, ∀ channelId ∈ operation.channelId,
    Accepts operation (view store channelId) →
    (S.perform operation store).1 = .ok () ∧
      ActsOn operation channelId (view store) (view (S.perform operation store).2)
  refused : ∀ operation store, ∀ channelId ∈ operation.channelId,
    ¬ Accepts operation (view store channelId) →
    ∃ error, S.perform operation store = (.error error, store)
  setKeyset : ∀ store mint id entry, (S.setKeyset store mint id entry).1 = .ok () ∧
    view (S.setKeyset store mint id entry).2 = view store

/-! ## In memory -/

/-- The maps of the store in memory. -/
structure MemoryClientStorage (T : Carriers) where
  opening : Table String (ClientChannelOpeningFromSwap T)
  funding : Table String (ClientChannelFunding T)
  payments : Table String ClientPaymentState
  states : Table String ClientChannelState
  failures : Table String ClientOpeningFailure
  keysets : Table (String × T.Id) (ClientKeysetCacheEntry T)

namespace MemoryClientStorage

/-- An empty store. -/
def new : MemoryClientStorage T := ⟨∅, ∅, ∅, ∅, ∅, ∅⟩

def saveOpeningFromSwap (store : MemoryClientStorage T) (channelId : String)
    (opening : ClientChannelOpeningFromSwap T) : Except String Unit × MemoryClientStorage T :=
  match store.states.lookup channelId with
  | none => (.ok (), { store with
      opening := store.opening.insert channelId opening
      states := store.states.insert channelId .openingFromSwap })
  | some state =>
      if (state = .openingFromSwap ∨ state = .openingFailed) ∧
          store.opening.lookup channelId = some opening then
        (.ok (), { store with
          failures := store.failures.erase channelId
          states := store.states.insert channelId .openingFromSwap })
      else (.error (s!"channel {channelId} already exists with different opening or " ++
        "lifecycle state"), store)

def setOpen (store : MemoryClientStorage T) (channelId : String) (fundingProofsJson : T.Text) :
    Except String Unit × MemoryClientStorage T :=
  match store.states.lookup channelId with
  | some .openingFromSwap =>
      match store.opening.lookup channelId with
      | none => (.error s!"channel {channelId} has corrupt OpeningFromSwap state", store)
      | some opening => (.ok (), { store with
          funding := store.funding.insert channelId (opening.funding fundingProofsJson)
          opening := store.opening.erase channelId
          failures := store.failures.erase channelId
          states := store.states.insert channelId .opened })
  | some .opened | some .closing | some .closed =>
      match store.funding.lookup channelId with
      | none => (.error s!"channel {channelId} has corrupt completed funding state", store)
      | some funding =>
          if funding.fundingProofsJson = fundingProofsJson then (.ok (), store)
          else (.error s!"channel {channelId} was completed with different funding proofs", store)
  | _ => (.error s!"channel {channelId} is not in OpeningFromSwap state", store)

def getOpeningFromSwap (store : MemoryClientStorage T) (channelId : String) :
    Except String (Option (ClientChannelOpeningFromSwap T)) :=
  if store.states.lookup channelId ≠ some .openingFromSwap then .ok none
  else
    match store.opening.lookup channelId with
    | some opening => .ok (some opening)
    | none => .error s!"channel {channelId} has corrupt OpeningFromSwap state"

/-- Only the opening is looked for, not the state. -/
def setOpeningFailed (store : MemoryClientStorage T) (channelId : String)
    (failure : ClientOpeningFailure) : Except String Unit × MemoryClientStorage T :=
  if channelId ∉ store.opening then
    (.error s!"channel {channelId} is not in OpeningFromSwap state", store)
  else (.ok (), { store with
    failures := store.failures.insert channelId failure
    states := store.states.insert channelId .openingFailed })

def getOpeningFailure (store : MemoryClientStorage T) (channelId : String) :
    Option ClientOpeningFailure :=
  if store.states.lookup channelId ≠ some .openingFailed then none
  else store.failures.lookup channelId

def getFunding (store : MemoryClientStorage T) (channelId : String) :
    Option (ClientChannelFunding T) :=
  store.funding.lookup channelId

def getPaymentState (store : MemoryClientStorage T) (channelId : String) :
    Option ClientPaymentState :=
  store.payments.lookup channelId

def savePaymentState (store : MemoryClientStorage T) (channelId : String)
    (state : ClientPaymentState) : Except String Unit × MemoryClientStorage T :=
  (.ok (), { store with payments := store.payments.insert channelId state })

def getState (store : MemoryClientStorage T) (channelId : String) : Option ClientChannelState :=
  store.states.lookup channelId

def setClosed (store : MemoryClientStorage T) (channelId : String) :
    Except String Unit × MemoryClientStorage T :=
  (.ok (), { store with states := store.states.insert channelId .closed })

def setClosing (store : MemoryClientStorage T) (channelId : String) :
    Except String Unit × MemoryClientStorage T :=
  (.ok (), { store with states := store.states.insert channelId .closing })

def listChannelIds (store : MemoryClientStorage T) : List String :=
  (store.opening.keys ++ store.funding.keys).dedup

def delete (store : MemoryClientStorage T) (channelId : String) :
    Except String Unit × MemoryClientStorage T :=
  (.ok (), { store with
    opening := store.opening.erase channelId
    funding := store.funding.erase channelId
    payments := store.payments.erase channelId
    failures := store.failures.erase channelId
    states := store.states.erase channelId })

def getKeyset (store : MemoryClientStorage T) (mint : String) (id : T.Id) :
    Option (ClientKeysetCacheEntry T) :=
  store.keysets.lookup (mint, id)

def setKeyset (store : MemoryClientStorage T) (mint : String) (id : T.Id)
    (entry : ClientKeysetCacheEntry T) : Except String Unit × MemoryClientStorage T :=
  (.ok (), { store with keysets := store.keysets.insert (mint, id) entry })

def getActiveKeysetIds (store : MemoryClientStorage T) (mint : String) (unit : T.CurrencyUnit) :
    List T.Id :=
  store.keysets.entries.filterMap fun entry =>
    if entry.1.1 = mint ∧ entry.2.active ∧ entry.2.unit = unit then some entry.1.2 else none

end MemoryClientStorage

/-- The interface in memory. -/
def memoryClientStorage (T : Carriers) : ClientStorage T (MemoryClientStorage T) where
  saveOpeningFromSwap := MemoryClientStorage.saveOpeningFromSwap
  setOpen := MemoryClientStorage.setOpen
  getOpeningFromSwap := MemoryClientStorage.getOpeningFromSwap
  setOpeningFailed := MemoryClientStorage.setOpeningFailed
  getOpeningFailure := MemoryClientStorage.getOpeningFailure
  getFunding := MemoryClientStorage.getFunding
  getPaymentState := MemoryClientStorage.getPaymentState
  savePaymentState := MemoryClientStorage.savePaymentState
  getState := MemoryClientStorage.getState
  setClosed := MemoryClientStorage.setClosed
  setClosing := MemoryClientStorage.setClosing
  listChannelIds := MemoryClientStorage.listChannelIds
  delete := MemoryClientStorage.delete
  getKeyset := MemoryClientStorage.getKeyset
  setKeyset := MemoryClientStorage.setKeyset
  getActiveKeysetIds := MemoryClientStorage.getActiveKeysetIds

namespace MemoryClientStorage

/-- What the maps hold of a channel. -/
def view (store : MemoryClientStorage T) (channelId : String) : ClientView T where
  state := store.states.lookup channelId
  opening := store.opening.lookup channelId
  funding := store.funding.lookup channelId
  payment := store.payments.lookup channelId
  failure := store.failures.lookup channelId

/-- Closing is accepted in every state, and so is a payment. -/
def Accepts (operation : ClientOperation T) (view : ClientView T) : Prop :=
  match operation with
  | .saveOpeningFromSwap _ opening => view.AcceptsOpening opening
  | .setOpen _ proofs => view.AcceptsProofs proofs
  | .setOpeningFailed _ _ => view.opening.isSome
  | .savePaymentState _ _ | .setClosed _ | .setClosing _ | .delete _ | .setKeyset _ _ _ => True

variable {store : MemoryClientStorage T} {channelId : String}

theorem accepted_saveOpeningFromSwap {opening : ClientChannelOpeningFromSwap T}
    (accepts : (store.view channelId).AcceptsOpening opening) :
    (store.saveOpeningFromSwap channelId opening).1 = .ok () ∧
      ActsOn (.saveOpeningFromSwap channelId opening) channelId store.view
        (store.saveOpeningFromSwap channelId opening).2.view := by
  unfold saveOpeningFromSwap
  rcases accepts with fresh | ⟨⟨state, known, isOpening⟩, same⟩
  · have fresh : store.states.lookup channelId = none := fresh
    simp only [fresh]
    refine ⟨trivial, ?_, ?_⟩
    · simp [view, ClientView.apply, fresh]
    · intro other away
      simp only [view, AList.lookup_insert_ne away]
  · have known : store.states.lookup channelId = some state := known
    have again : (state = .openingFromSwap ∨ state = .openingFailed) ∧
        store.opening.lookup channelId = some opening := ⟨isOpening, same⟩
    simp only [known, if_pos again]
    refine ⟨trivial, ?_, ?_⟩
    · simp [view, ClientView.apply, known, again.2]
    · intro other away
      simp only [view, AList.lookup_insert_ne away, AList.lookup_erase_ne away]

theorem refused_saveOpeningFromSwap {opening : ClientChannelOpeningFromSwap T}
    (refuses : ¬ (store.view channelId).AcceptsOpening opening) :
    ∃ error, store.saveOpeningFromSwap channelId opening = (.error error, store) := by
  unfold saveOpeningFromSwap
  cases known : store.states.lookup channelId with
  | none => exact absurd (.inl known) refuses
  | some state =>
      have different : ¬ ((state = .openingFromSwap ∨ state = .openingFailed) ∧
          store.opening.lookup channelId = some opening) :=
        fun again => refuses (.inr ⟨⟨state, known, again.1⟩, again.2⟩)
      simp only [if_neg different]
      exact ⟨_, rfl⟩

/-- Completing an opening. -/
theorem setOpen_of_opening {proofs : T.Text} {opening : ClientChannelOpeningFromSwap T}
    (known : store.states.lookup channelId = some .openingFromSwap)
    (saved : store.opening.lookup channelId = some opening) :
    store.setOpen channelId proofs = (.ok (), { store with
      funding := store.funding.insert channelId (opening.funding proofs)
      opening := store.opening.erase channelId
      failures := store.failures.erase channelId
      states := store.states.insert channelId .opened }) := by
  simp only [setOpen, known, saved]

/-- Completing an opening again. -/
theorem setOpen_of_funded {proofs : T.Text} {state : ClientChannelState}
    (known : store.states.lookup channelId = some state) (funded : state.IsFunded) :
    store.setOpen channelId proofs =
      match store.funding.lookup channelId with
      | none => (.error s!"channel {channelId} has corrupt completed funding state", store)
      | some funding =>
          if funding.fundingProofsJson = proofs then (.ok (), store)
          else
            (.error s!"channel {channelId} was completed with different funding proofs", store) := by
  rcases funded with rfl | rfl | rfl <;> simp only [setOpen, known]

theorem accepted_setOpen {proofs : T.Text}
    (accepts : (store.view channelId).AcceptsProofs proofs) :
    (store.setOpen channelId proofs).1 = .ok () ∧
      ActsOn (.setOpen channelId proofs) channelId store.view
        (store.setOpen channelId proofs).2.view := by
  rcases accepts with ⟨known, saved⟩ | ⟨⟨state, known, funded⟩, funding, stored, same⟩
  · obtain ⟨opening, saved⟩ := Option.isSome_iff_exists.mp saved
    rw [setOpen_of_opening known saved]
    have known : store.states.lookup channelId = some .openingFromSwap := known
    have saved : store.opening.lookup channelId = some opening := saved
    refine ⟨rfl, ?_, ?_⟩
    · simp [view, ClientView.apply, known, saved]
    · intro other away
      simp only [view, AList.lookup_insert_ne away, AList.lookup_erase_ne away]
  · have stored : store.funding.lookup channelId = some funding := stored
    rw [setOpen_of_funded known funded, stored]
    simp only [if_pos same]
    exact ⟨trivial, (ClientView.apply_setOpen_of_funded channelId proofs known funded).symm,
      fun _ _ => rfl⟩

theorem refused_setOpen {proofs : T.Text}
    (refuses : ¬ (store.view channelId).AcceptsProofs proofs) :
    ∃ error, store.setOpen channelId proofs = (.error error, store) := by
  cases known : store.states.lookup channelId with
  | none => exact ⟨_, by simp only [setOpen, known]; rfl⟩
  | some state =>
      by_cases funded : state.IsFunded
      · rw [setOpen_of_funded known funded]
        cases stored : store.funding.lookup channelId with
        | none => exact ⟨_, rfl⟩
        | some funding =>
            have different : funding.fundingProofsJson ≠ proofs :=
              fun same => refuses (.inr ⟨⟨state, known, funded⟩, funding, stored, same⟩)
            simp only [if_neg different]
            exact ⟨_, rfl⟩
      · cases state with
        | openingFromSwap =>
            cases saved : store.opening.lookup channelId with
            | none => exact ⟨_, by simp only [setOpen, known, saved]; rfl⟩
            | some opening =>
                exact absurd (.inl ⟨known, Option.isSome_of_eq_some saved⟩) refuses
        | openingFailed => exact ⟨_, by simp only [setOpen, known]; rfl⟩
        | opened => exact absurd (.inl rfl) funded
        | closing => exact absurd (.inr (.inl rfl)) funded
        | closed => exact absurd (.inr (.inr rfl)) funded

theorem accepted_setOpeningFailed {failure : ClientOpeningFailure}
    (saved : (store.view channelId).opening.isSome) :
    (store.setOpeningFailed channelId failure).1 = .ok () ∧
      ActsOn (.setOpeningFailed channelId failure) channelId store.view
        (store.setOpeningFailed channelId failure).2.view := by
  have present : channelId ∈ store.opening := AList.lookup_isSome.mp saved
  unfold setOpeningFailed
  rw [if_neg (not_not.mpr present)]
  refine ⟨rfl, ?_, ?_⟩
  · simp only [view, ClientView.apply, AList.lookup_insert]
  · intro other away
    simp only [view, AList.lookup_insert_ne away]

theorem refused_setOpeningFailed {failure : ClientOpeningFailure}
    (absent : ¬ (store.view channelId).opening.isSome) :
    ∃ error, store.setOpeningFailed channelId failure = (.error error, store) := by
  have absent : channelId ∉ store.opening := fun present =>
    absent (AList.lookup_isSome.mpr present)
  exact ⟨_, if_pos absent⟩

end MemoryClientStorage

/-- **The store in memory implements the abstract store.** -/
def memoryClientLaws (T : Carriers) : (memoryClientStorage T).Laws where
  view := MemoryClientStorage.view
  Accepts := MemoryClientStorage.Accepts
  saves := fun _ _ _ => Iff.rfl
  completes := fun _ _ _ => Iff.rfl
  fails := fun _ _ _ saved => .inl saved
  getState := fun _ _ => rfl
  getOpeningFromSwap := fun _ _ => rfl
  getOpeningFailure := fun _ _ => rfl
  getPaymentState := fun _ _ => rfl
  accepted := by
    rintro operation store channelId named accepts
    cases operation <;> cases named
    case saveOpeningFromSwap => exact MemoryClientStorage.accepted_saveOpeningFromSwap accepts
    case setOpen => exact MemoryClientStorage.accepted_setOpen accepts
    case setOpeningFailed => exact MemoryClientStorage.accepted_setOpeningFailed accepts
    case delete =>
      refine ⟨rfl, ?_, ?_⟩
      · simp [MemoryClientStorage.view, ClientStorage.perform, memoryClientStorage,
          MemoryClientStorage.delete, ClientView.apply, ClientView.unknown]
      · intro other away
        simp only [MemoryClientStorage.view, ClientStorage.perform, memoryClientStorage,
          MemoryClientStorage.delete, AList.lookup_erase_ne away]
    -- The rest insert one value, whatever there is.
    all_goals
      refine ⟨rfl, ?_, ?_⟩
      · simp only [MemoryClientStorage.view, ClientStorage.perform, memoryClientStorage,
          MemoryClientStorage.savePaymentState, MemoryClientStorage.setClosed,
          MemoryClientStorage.setClosing, ClientView.apply, AList.lookup_insert]
      · intro other away
        simp only [MemoryClientStorage.view, ClientStorage.perform, memoryClientStorage,
          MemoryClientStorage.savePaymentState, MemoryClientStorage.setClosed,
          MemoryClientStorage.setClosing, AList.lookup_insert_ne away]
  refused := by
    rintro operation store channelId named refuses
    cases operation <;> cases named
    case saveOpeningFromSwap => exact MemoryClientStorage.refused_saveOpeningFromSwap refuses
    case setOpen => exact MemoryClientStorage.refused_setOpen refuses
    case setOpeningFailed => exact MemoryClientStorage.refused_setOpeningFailed refuses
    all_goals exact absurd trivial refuses
  setKeyset := fun _ _ _ _ => ⟨rfl, rfl⟩

/-! ## Over SQLite -/

/-- A row of the table of channels. -/
structure ClientChannelRow (T : Carriers) where
  state : ClientChannelState
  opening : Option (ClientChannelOpeningFromSwap T)
  funding : Option (ClientChannelFunding T)
  payment : Option ClientPaymentState
  failure : Option ClientOpeningFailure

/-- The tables of the store over SQLite. -/
structure SqliteClientStorage (T : Carriers) where
  channels : Table String (ClientChannelRow T)
  keysets : Table (String × String) (ClientKeysetCacheEntry T)

namespace SqliteClientStorage

/-- A database that has just been created. -/
def new : SqliteClientStorage T := ⟨∅, ∅⟩

/-- Change the row of a channel if it meets a condition, and count the changed rows. -/
def updateWhere (store : SqliteClientStorage T) (channelId : String)
    (meets : ClientChannelState → Bool) (change : ClientChannelRow T → ClientChannelRow T) :
    Nat × SqliteClientStorage T :=
  match store.channels.lookup channelId with
  | none => (0, store)
  | some row =>
      if meets row.state then
        (1, { store with channels := store.channels.insert channelId (change row) })
      else (0, store)

/-- A statement that has to change a row. -/
def changing (store : SqliteClientStorage T) (error : String)
    (updated : Nat × SqliteClientStorage T) : Except String Unit × SqliteClientStorage T :=
  if updated.1 = 0 then (.error error, store) else (.ok (), updated.2)

def saveOpeningFromSwap (store : SqliteClientStorage T) (channelId : String)
    (opening : ClientChannelOpeningFromSwap T) : Except String Unit × SqliteClientStorage T :=
  match store.channels.lookup channelId with
  | none =>
      let row := ⟨.openingFromSwap, some opening, none, none, none⟩
      (.ok (), { store with channels := store.channels.insert channelId row })
  | some ⟨state, some existing, _, _, _⟩ =>
      if state.IsOpening then
        if existing ≠ opening then
          (.error s!"channel {channelId} already exists with different opening", store)
        else (.ok (), (store.updateWhere channelId (fun state => state.IsOpening) fun row =>
          { row with state := .openingFromSwap, failure := none }).2)
      else (.error (s!"channel {channelId} already exists with different opening or " ++
        "lifecycle state"), store)
  | some _ => (.error (s!"channel {channelId} already exists with different opening or " ++
      "lifecycle state"), store)

def setOpen (store : SqliteClientStorage T) (channelId : String) (fundingProofsJson : T.Text) :
    Except String Unit × SqliteClientStorage T :=
  match store.channels.lookup channelId with
  | none => (.error s!"channel {channelId} is not in OpeningFromSwap state", store)
  | some row =>
      if row.state.IsFunded then
        match row.funding with
        | none => (.error s!"channel {channelId} has corrupt completed funding state", store)
        | some funding =>
            if funding.fundingProofsJson = fundingProofsJson then (.ok (), store)
            else (.error s!"channel {channelId} was completed with different funding proofs", store)
      else if row.state ≠ .openingFromSwap then
        (.error s!"channel {channelId} is not in OpeningFromSwap state", store)
      else
        match row.opening with
        | none => (.error s!"channel {channelId} has corrupt OpeningFromSwap state", store)
        | some opening =>
            changing store s!"channel {channelId} changed during completion"
              (store.updateWhere channelId (fun state => state = .openingFromSwap) fun row =>
                { row with
                  state := .opened, opening := none
                  funding := some (opening.funding fundingProofsJson), failure := none })

def getOpeningFromSwap (store : SqliteClientStorage T) (channelId : String) :
    Except String (Option (ClientChannelOpeningFromSwap T)) :=
  match store.channels.lookup channelId with
  | none => .ok none
  | some row =>
      if row.state ≠ .openingFromSwap then .ok none
      else
        match row.opening with
        | some opening => .ok (some opening)
        | none => .error s!"channel {channelId} has corrupt OpeningFromSwap state"

def setOpeningFailed (store : SqliteClientStorage T) (channelId : String)
    (failure : ClientOpeningFailure) : Except String Unit × SqliteClientStorage T :=
  changing store s!"channel {channelId} is not in OpeningFromSwap state"
    (store.updateWhere channelId (fun state => state = .openingFromSwap) fun row =>
      { row with state := .openingFailed, failure := some failure })

def getOpeningFailure (store : SqliteClientStorage T) (channelId : String) :
    Option ClientOpeningFailure :=
  match store.channels.lookup channelId with
  | none => none
  | some row => if row.state = .openingFailed then row.failure else none

def getFunding (store : SqliteClientStorage T) (channelId : String) :
    Option (ClientChannelFunding T) :=
  match store.channels.lookup channelId with
  | none => none
  | some row => if row.state.IsFunded then row.funding else none

def getPaymentState (store : SqliteClientStorage T) (channelId : String) :
    Option ClientPaymentState :=
  (store.channels.lookup channelId).bind ClientChannelRow.payment

def savePaymentState (store : SqliteClientStorage T) (channelId : String)
    (state : ClientPaymentState) : Except String Unit × SqliteClientStorage T :=
  changing store s!"channel not found: {channelId}"
    (store.updateWhere channelId (fun _ => true) fun row => { row with payment := some state })

def getState (store : SqliteClientStorage T) (channelId : String) : Option ClientChannelState :=
  (store.channels.lookup channelId).map ClientChannelRow.state

def setClosed (store : SqliteClientStorage T) (channelId : String) :
    Except String Unit × SqliteClientStorage T :=
  changing store s!"channel not found or already closed: {channelId}"
    (store.updateWhere channelId (fun state => state ≠ .closed) fun row =>
      { row with state := .closed })

/-- A channel that is already closing stays so, without an error. -/
def setClosing (store : SqliteClientStorage T) (channelId : String) :
    Except String Unit × SqliteClientStorage T :=
  if store.getState channelId = some .closing then (.ok (), store)
  else
    changing store s!"channel not found or not open: {channelId}"
      (store.updateWhere channelId (fun state => state = .opened) fun row =>
        { row with state := .closing })

def listChannelIds (store : SqliteClientStorage T) : List String := store.channels.keys

def delete (store : SqliteClientStorage T) (channelId : String) :
    Except String Unit × SqliteClientStorage T :=
  (.ok (), { store with channels := store.channels.erase channelId })

variable (L : Cashu T)

def getKeyset (store : SqliteClientStorage T) (mint : String) (id : T.Id) :
    Option (ClientKeysetCacheEntry T) :=
  store.keysets.lookup (mint, L.idToString id)

def setKeyset (store : SqliteClientStorage T) (mint : String) (id : T.Id)
    (entry : ClientKeysetCacheEntry T) : Except String Unit × SqliteClientStorage T :=
  (.ok (), { store with keysets := store.keysets.insert (mint, L.idToString id) entry })

def getActiveKeysetIds (store : SqliteClientStorage T) (mint : String) (unit : T.CurrencyUnit) :
    List T.Id :=
  store.keysets.entries.filterMap fun row =>
    if row.1.1 = mint ∧ row.2.active ∧ L.unitToString row.2.unit = L.unitToString unit then
      match L.idFromStr row.1.2 with
      | .ok id => some id
      | .error _ => none
    else none

end SqliteClientStorage

/-- The interface over SQLite. -/
def sqliteClientStorage (L : Cashu T) : ClientStorage T (SqliteClientStorage T) where
  saveOpeningFromSwap := SqliteClientStorage.saveOpeningFromSwap
  setOpen := SqliteClientStorage.setOpen
  getOpeningFromSwap := SqliteClientStorage.getOpeningFromSwap
  setOpeningFailed := SqliteClientStorage.setOpeningFailed
  getOpeningFailure := SqliteClientStorage.getOpeningFailure
  getFunding := SqliteClientStorage.getFunding
  getPaymentState := SqliteClientStorage.getPaymentState
  savePaymentState := SqliteClientStorage.savePaymentState
  getState := SqliteClientStorage.getState
  setClosed := SqliteClientStorage.setClosed
  setClosing := SqliteClientStorage.setClosing
  listChannelIds := SqliteClientStorage.listChannelIds
  delete := SqliteClientStorage.delete
  getKeyset := SqliteClientStorage.getKeyset L
  setKeyset := SqliteClientStorage.setKeyset L
  getActiveKeysetIds := SqliteClientStorage.getActiveKeysetIds L

/-- What a row holds of its channel. -/
def ClientChannelRow.view (row : ClientChannelRow T) : ClientView T :=
  ⟨some row.state, row.opening, row.funding, row.payment, row.failure⟩

namespace SqliteClientStorage

/-- What the row of a channel holds. -/
def view (store : SqliteClientStorage T) (channelId : String) : ClientView T :=
  ((store.channels.lookup channelId).map ClientChannelRow.view).getD .unknown

/-- Every statement looks at the state that it needs. -/
def Accepts (operation : ClientOperation T) (view : ClientView T) : Prop :=
  match operation with
  | .saveOpeningFromSwap _ opening => view.AcceptsOpening opening
  | .setOpen _ proofs => view.AcceptsProofs proofs
  | .setOpeningFailed _ _ => view.state = some .openingFromSwap
  | .savePaymentState _ _ => view.state.isSome
  | .setClosed _ => ∃ state ∈ view.state, state ≠ .closed
  | .setClosing _ => view.state = some .opened ∨ view.state = some .closing
  | .delete _ | .setKeyset _ _ _ => True

variable {store : SqliteClientStorage T} {channelId : String} {operation : ClientOperation T}

theorem view_of_none (none : store.channels.lookup channelId = none) :
    store.view channelId = .unknown := by
  unfold view
  rw [none]
  rfl

theorem view_of_some {row : ClientChannelRow T}
    (found : store.channels.lookup channelId = some row) : store.view channelId = row.view := by
  unfold view
  rw [found]
  rfl

/-- A channel with a state has a row. -/
theorem exists_row {state : ClientChannelState}
    (known : (store.view channelId).state = some state) :
    ∃ row, store.channels.lookup channelId = some row ∧ row.state = state := by
  cases found : store.channels.lookup channelId with
  | none =>
      rw [view_of_none found] at known
      cases known
  | some row =>
      rw [view_of_some found] at known
      exact ⟨row, rfl, Option.some.inj known⟩

/-- A row that is written, in place of the one there was. -/
theorem moves_insert {row : ClientChannelRow T}
    (own : row.view = (store.view channelId).apply operation) :
    ActsOn operation channelId store.view
      ({ store with channels := store.channels.insert channelId row } :
        SqliteClientStorage T).view := by
  constructor
  · rw [← own]
    exact view_of_some (AList.lookup_insert _)
  · intro other away
    simp only [view, AList.lookup_insert_ne away]

theorem updateWhere_of_meets {row : ClientChannelRow T} {meets : ClientChannelState → Bool}
    {change : ClientChannelRow T → ClientChannelRow T}
    (found : store.channels.lookup channelId = some row) (met : meets row.state = true) :
    store.updateWhere channelId meets change =
      (1, { store with channels := store.channels.insert channelId (change row) }) := by
  simp only [updateWhere, found, if_pos met]

theorem updateWhere_of_not {meets : ClientChannelState → Bool}
    {change : ClientChannelRow T → ClientChannelRow T}
    (unmet : ∀ state, (store.view channelId).state = some state → meets state = false) :
    store.updateWhere channelId meets change = (0, store) := by
  unfold updateWhere
  cases found : store.channels.lookup channelId with
  | none => rfl
  | some row =>
      have unmet : ¬ meets row.state = true := by
        rw [unmet row.state (by rw [view_of_some found]; rfl)]
        exact Bool.false_ne_true
      simp only [if_neg unmet]

/-- A statement that changes a row does what the operation does. -/
theorem changing_of_meets {row : ClientChannelRow T} {meets : ClientChannelState → Bool}
    {change : ClientChannelRow T → ClientChannelRow T} {error : String}
    (found : store.channels.lookup channelId = some row) (met : meets row.state = true)
    (own : (change row).view = row.view.apply operation) :
    (changing store error (store.updateWhere channelId meets change)).1 = .ok () ∧
      ActsOn operation channelId store.view
        (changing store error (store.updateWhere channelId meets change)).2.view := by
  rw [updateWhere_of_meets found met]
  exact ⟨rfl, moves_insert (own.trans (by rw [view_of_some found]))⟩

theorem changing_of_not {meets : ClientChannelState → Bool}
    {change : ClientChannelRow T → ClientChannelRow T} {error : String}
    (unmet : ∀ state, (store.view channelId).state = some state → meets state = false) :
    changing store error (store.updateWhere channelId meets change) = (.error error, store) := by
  rw [updateWhere_of_not unmet]
  rfl

theorem accepted_saveOpeningFromSwap {opening : ClientChannelOpeningFromSwap T}
    (accepts : (store.view channelId).AcceptsOpening opening) :
    (store.saveOpeningFromSwap channelId opening).1 = .ok () ∧
      ActsOn (.saveOpeningFromSwap channelId opening) channelId store.view
        (store.saveOpeningFromSwap channelId opening).2.view := by
  unfold saveOpeningFromSwap
  cases found : store.channels.lookup channelId with
  | none =>
      refine ⟨rfl, moves_insert ?_⟩
      rw [view_of_none found]
      rfl
  | some row =>
      rw [view_of_some found] at accepts
      rcases accepts with ⟨⟨⟩⟩ | ⟨⟨state, known, isOpening⟩, same⟩
      obtain rfl := Option.some.inj known
      obtain ⟨state, saved, funding, payment, failure⟩ := row
      cases same
      simp only [if_pos isOpening, ne_eq, not_true_eq_false, if_false]
      rw [updateWhere_of_meets found (decide_eq_true isOpening)]
      refine ⟨trivial, moves_insert ?_⟩
      rw [view_of_some found]
      rfl

theorem refused_saveOpeningFromSwap {opening : ClientChannelOpeningFromSwap T}
    (refuses : ¬ (store.view channelId).AcceptsOpening opening) :
    ∃ error, store.saveOpeningFromSwap channelId opening = (.error error, store) := by
  unfold saveOpeningFromSwap
  cases found : store.channels.lookup channelId with
  | none =>
      rw [view_of_none found] at refuses
      exact absurd (.inl rfl) refuses
  | some row =>
      rw [view_of_some found] at refuses
      obtain ⟨state, saved, funding, payment, failure⟩ := row
      cases saved with
      | none => exact ⟨_, rfl⟩
      | some existing =>
          by_cases isOpening : state.IsOpening
          · have different : existing ≠ opening := by
              rintro rfl
              exact refuses (.inr ⟨⟨state, rfl, isOpening⟩, rfl⟩)
            simp only [if_pos isOpening, if_pos different]
            exact ⟨_, rfl⟩
          · simp only [if_neg isOpening]
            exact ⟨_, rfl⟩

theorem accepted_setOpen {proofs : T.Text}
    (accepts : (store.view channelId).AcceptsProofs proofs) :
    (store.setOpen channelId proofs).1 = .ok () ∧
      ActsOn (.setOpen channelId proofs) channelId store.view
        (store.setOpen channelId proofs).2.view := by
  unfold setOpen
  rcases accepts with ⟨known, saved⟩ | ⟨⟨state, known, funded⟩, funding, stored, same⟩
  · obtain ⟨row, found, isOpening⟩ := exists_row known
    rw [view_of_some found] at saved
    obtain ⟨opening, saved⟩ := Option.isSome_iff_exists.mp saved
    have saved : row.opening = some opening := saved
    have notFunded : ¬ ClientChannelState.openingFromSwap.IsFunded := by decide
    simp only [found, isOpening, if_neg notFunded, ne_eq, not_true_eq_false, if_false, saved]
    apply changing_of_meets found (decide_eq_true isOpening)
    simp only [ClientChannelRow.view, ClientView.apply, isOpening, saved, if_true,
      Option.map_some]
  · obtain ⟨row, found, rfl⟩ := exists_row known
    rw [view_of_some found] at stored
    have stored : row.funding = some funding := stored
    simp only [found, if_pos funded, stored, if_pos same]
    exact ⟨trivial, (ClientView.apply_setOpen_of_funded channelId proofs known funded).symm,
      fun _ _ => rfl⟩

theorem refused_setOpen {proofs : T.Text}
    (refuses : ¬ (store.view channelId).AcceptsProofs proofs) :
    ∃ error, store.setOpen channelId proofs = (.error error, store) := by
  unfold setOpen
  cases found : store.channels.lookup channelId with
  | none => exact ⟨_, rfl⟩
  | some row =>
      rw [view_of_some found] at refuses
      by_cases funded : row.state.IsFunded
      · simp only [if_pos funded]
        cases stored : row.funding with
        | none => exact ⟨_, rfl⟩
        | some funding =>
            have different : funding.fundingProofsJson ≠ proofs :=
              fun same => refuses (.inr ⟨⟨row.state, rfl, funded⟩, funding, stored, same⟩)
            simp only [if_neg different]
            exact ⟨_, rfl⟩
      · simp only [if_neg funded]
        by_cases isOpening : row.state = .openingFromSwap
        · have absent : row.opening = none := by
            by_contra saved
            exact refuses (.inl ⟨congrArg some isOpening, Option.isSome_iff_ne_none.mpr saved⟩)
          simp only [isOpening, ne_eq, not_true_eq_false, if_false, absent]
          exact ⟨_, rfl⟩
        · simp only [ne_eq, isOpening, not_false_eq_true, if_true]
          exact ⟨_, rfl⟩

theorem accepted_setClosing
    (accepts : (store.view channelId).state = some .opened ∨
      (store.view channelId).state = some .closing) :
    (store.setClosing channelId).1 = .ok () ∧
      ActsOn (.setClosing channelId) channelId store.view (store.setClosing channelId).2.view := by
  unfold setClosing
  rcases accepts with known | known
  · obtain ⟨row, found, isOpened⟩ := exists_row known
    have notClosing : store.getState channelId ≠ some .closing := by
      unfold getState
      rw [found, Option.map_some, isOpened]
      decide
    rw [if_neg notClosing]
    exact changing_of_meets found (decide_eq_true isOpened) rfl
  · obtain ⟨row, found, isClosing⟩ := exists_row known
    have already : store.getState channelId = some .closing := by
      unfold getState
      rw [found, Option.map_some, isClosing]
    rw [if_pos already]
    refine ⟨rfl, ?_, fun _ _ => rfl⟩
    rw [view_of_some found]
    simp only [ClientChannelRow.view, ClientView.apply, isClosing]

theorem refused_setClosing
    (refuses : ¬ ((store.view channelId).state = some .opened ∨
      (store.view channelId).state = some .closing)) :
    ∃ error, store.setClosing channelId = (.error error, store) := by
  have notClosing : store.getState channelId ≠ some .closing := by
    intro closing
    obtain ⟨row, found, isClosing⟩ := Option.map_eq_some_iff.mp closing
    rw [view_of_some found] at refuses
    exact refuses (.inr (congrArg some isClosing))
  unfold setClosing
  rw [if_neg notClosing]
  refine ⟨_, changing_of_not ?_⟩
  intro state known
  apply decide_eq_false
  rintro rfl
  exact refuses (.inl known)

theorem getOpeningFromSwap_eq (store : SqliteClientStorage T) (channelId : String) :
    store.getOpeningFromSwap channelId = (store.view channelId).openingFromSwap channelId := by
  unfold getOpeningFromSwap ClientView.openingFromSwap
  cases found : store.channels.lookup channelId with
  | none =>
      rw [view_of_none found]
      rfl
  | some row =>
      rw [view_of_some found]
      by_cases isOpening : row.state = .openingFromSwap
      · simp only [isOpening, ClientChannelRow.view]
        rfl
      · simp only [isOpening, ClientChannelRow.view, Option.some.injEq, ne_eq,
          not_false_eq_true, if_true]

theorem getOpeningFailure_eq (store : SqliteClientStorage T) (channelId : String) :
    store.getOpeningFailure channelId = (store.view channelId).openingFailure := by
  unfold getOpeningFailure ClientView.openingFailure
  cases found : store.channels.lookup channelId with
  | none =>
      rw [view_of_none found]
      rfl
  | some row =>
      rw [view_of_some found]
      by_cases failed : row.state = .openingFailed
      · simp [failed, ClientChannelRow.view]
      · simp [failed, ClientChannelRow.view]

end SqliteClientStorage

/-- **The store over SQLite implements the abstract store.** -/
def sqliteClientLaws (L : Cashu T) : (sqliteClientStorage L).Laws where
  view := SqliteClientStorage.view
  Accepts := SqliteClientStorage.Accepts
  saves := fun _ _ _ => Iff.rfl
  completes := fun _ _ _ => Iff.rfl
  fails := fun _ _ _ known => .inr known
  getState := fun store channelId => by
    show store.getState channelId = (store.view channelId).state
    unfold SqliteClientStorage.getState SqliteClientStorage.view
    cases store.channels.lookup channelId <;> rfl
  getOpeningFromSwap := SqliteClientStorage.getOpeningFromSwap_eq
  getOpeningFailure := SqliteClientStorage.getOpeningFailure_eq
  getPaymentState := fun store channelId => by
    show store.getPaymentState channelId = (store.view channelId).payment
    unfold SqliteClientStorage.getPaymentState SqliteClientStorage.view
    cases store.channels.lookup channelId <;> rfl
  accepted := by
    rintro operation store channelId named accepts
    cases operation <;> cases named
    case saveOpeningFromSwap => exact SqliteClientStorage.accepted_saveOpeningFromSwap accepts
    case setOpen => exact SqliteClientStorage.accepted_setOpen accepts
    case setOpeningFailed failure =>
      obtain ⟨row, found, isOpening⟩ := SqliteClientStorage.exists_row accepts
      exact SqliteClientStorage.changing_of_meets found (decide_eq_true isOpening) rfl
    case savePaymentState payment =>
      obtain ⟨state, known⟩ := Option.isSome_iff_exists.mp accepts
      obtain ⟨row, found, -⟩ := SqliteClientStorage.exists_row known
      exact SqliteClientStorage.changing_of_meets found rfl rfl
    case setClosed =>
      obtain ⟨state, known, notClosed⟩ := accepts
      obtain ⟨row, found, rfl⟩ := SqliteClientStorage.exists_row known
      exact SqliteClientStorage.changing_of_meets found (decide_eq_true notClosed) rfl
    case setClosing => exact SqliteClientStorage.accepted_setClosing accepts
    case delete =>
      refine ⟨rfl, SqliteClientStorage.view_of_none (AList.lookup_erase _ _), ?_⟩
      intro other away
      simp only [ClientStorage.perform, sqliteClientStorage, SqliteClientStorage.delete,
        SqliteClientStorage.view, AList.lookup_erase_ne away]
  refused := by
    rintro operation store channelId named refuses
    cases operation <;> cases named
    case saveOpeningFromSwap => exact SqliteClientStorage.refused_saveOpeningFromSwap refuses
    case setOpen => exact SqliteClientStorage.refused_setOpen refuses
    case setOpeningFailed failure =>
      refine ⟨_, SqliteClientStorage.changing_of_not ?_⟩
      intro state known
      apply decide_eq_false
      rintro rfl
      exact refuses known
    case savePaymentState payment =>
      refine ⟨_, SqliteClientStorage.changing_of_not ?_⟩
      exact fun state known => absurd (Option.isSome_of_eq_some known) refuses
    case setClosed =>
      refine ⟨_, SqliteClientStorage.changing_of_not ?_⟩
      intro state known
      apply decide_eq_false
      exact fun notClosed => refuses ⟨state, known, notClosed⟩
    case setClosing => exact SqliteClientStorage.refused_setClosing refuses
    all_goals exact absurd trivial refuses
  setKeyset := fun _ _ _ _ => ⟨rfl, rfl⟩

end Spilman
