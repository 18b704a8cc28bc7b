/-
# What becomes of a client's channel

A channel is opening, then funded, then closed, and its records go with its state. The
stores let a caller break this in one way: they mark a channel as closing or closed that
has no funding yet, and the store in memory also one that it does not know, or that is
closed already. `Orderly` says that a caller does not do that, and deletes nothing. Then
records and state go together in every state reached, and nothing that was recorded is
lost, replaced or undone.
-/

import Spilman.Client.Storage
import Spilman.Sample

namespace Spilman

open Lib

variable {T : Carriers} {σ : Type}

/-! ## One channel -/

namespace ClientView

/-- There is an opening exactly while the channel is opening, and funding exactly after. -/
structure Sound (view : ClientView T) : Prop where
  opening : view.opening.isSome ↔ ∃ state ∈ view.state, state.IsOpening
  funding : view.funding.isSome ↔ ∃ state ∈ view.state, state.IsFunded

/-- How a channel may go on. -/
structure Precedes (view later : ClientView T) : Prop where
  known : view.state.isSome → later.state.isSome
  closed : view.state = some .closed → later.state = some .closed
  closing : view.state = some .closing →
    later.state = some .closing ∨ later.state = some .closed
  opening : ∀ opening ∈ view.opening, later.opening = some opening ∨ later.funding.isSome
  funding : ∀ funding ∈ view.funding, later.funding = some funding

theorem Precedes.refl (view : ClientView T) : view.Precedes view :=
  ⟨id, id, .inl, fun _ saved => .inl saved, fun _ stored => stored⟩

theorem Precedes.trans {first second third : ClientView T} (before : first.Precedes second)
    (after : second.Precedes third) : first.Precedes third where
  known := fun known => after.known (before.known known)
  closed := fun closed => after.closed (before.closed closed)
  closing := fun closing => by
    rcases before.closing closing with still | closed
    · exact after.closing still
    · exact .inr (after.closed closed)
  opening := fun opening saved => by
    rcases before.opening opening saved with still | funded
    · exact after.opening opening still
    · obtain ⟨funding, stored⟩ := Option.isSome_iff_exists.mp funded
      exact .inr (Option.isSome_of_eq_some (after.funding funding stored))
  funding := fun funding stored => after.funding funding (before.funding funding stored)

/-- No state is both. -/
theorem not_isFunded_of_isOpening {state : ClientChannelState} (isOpening : state.IsOpening) :
    ¬ state.IsFunded := by
  rcases isOpening with rfl | rfl <;> decide

theorem sound_unknown : (unknown : ClientView T).Sound := by
  constructor <;> simp [unknown]

/-- A funded channel has no opening any more. -/
theorem Sound.opening_eq_none {view : ClientView T} (sound : view.Sound)
    (funded : view.funding.isSome) : view.opening = none := by
  obtain ⟨state, known, isFunded⟩ := sound.funding.mp funded
  by_contra saved
  obtain ⟨_, same, isOpening⟩ := sound.opening.mp (Option.isSome_iff_ne_none.mpr saved)
  obtain rfl := Option.some.inj (known.symm.trans same)
  exact not_isFunded_of_isOpening isOpening isFunded

/-- An opening is not saved over funding. -/
theorem Sound.not_acceptsOpening {view : ClientView T} (sound : view.Sound)
    (funded : view.funding.isSome) {opening : ClientChannelOpeningFromSwap T} :
    ¬ view.AcceptsOpening opening := by
  obtain ⟨state, known, isFunded⟩ := sound.funding.mp funded
  rintro (fresh | ⟨⟨other, same, isOpening⟩, -⟩)
  · cases known.symm.trans fresh
  · obtain rfl := Option.some.inj (known.symm.trans same)
    exact not_isFunded_of_isOpening isOpening isFunded

end ClientView

/-- What every store looks at before it accepts an operation. -/
def ClientOperation.Enabled (operation : ClientOperation T) (view : ClientView T) : Prop :=
  match operation with
  | .saveOpeningFromSwap _ opening => view.AcceptsOpening opening
  | .setOpen _ proofs => view.AcceptsProofs proofs
  | .setOpeningFailed _ _ => view.opening.isSome ∨ view.state = some .openingFromSwap
  | _ => True

/-- A channel that is closed is funded, and closing does not undo closing. Nothing is
deleted. -/
def ClientOperation.ClosesFunded (operation : ClientOperation T) (view : ClientView T) : Prop :=
  match operation with
  | .setClosing _ => view.state = some .opened ∨ view.state = some .closing
  | .setClosed _ => ∃ state ∈ view.state, state.IsFunded
  | .delete _ => False
  | _ => True

namespace ClientView

variable {view : ClientView T} {operation : ClientOperation T}

theorem sound_of_opening {state : ClientChannelState} (known : view.state = some state)
    (isOpening : state.IsOpening) (saved : view.opening.isSome) (unfunded : view.funding = none) :
    view.Sound := by
  constructor
  · exact ⟨fun _ => ⟨state, known, isOpening⟩, fun _ => saved⟩
  · constructor
    · rw [unfunded]
      rintro ⟨⟩
    · rintro ⟨_, same, isFunded⟩
      obtain rfl := Option.some.inj (known.symm.trans same)
      exact absurd isFunded (not_isFunded_of_isOpening isOpening)

theorem sound_of_funded {state : ClientChannelState} (known : view.state = some state)
    (isFunded : state.IsFunded) (completed : view.opening = none) (funded : view.funding.isSome) :
    view.Sound := by
  constructor
  · constructor
    · rw [completed]
      rintro ⟨⟩
    · rintro ⟨_, same, isOpening⟩
      obtain rfl := Option.some.inj (known.symm.trans same)
      exact absurd isFunded (not_isFunded_of_isOpening isOpening)
  · exact ⟨fun _ => ⟨state, known, isFunded⟩, fun _ => funded⟩

theorem Sound.funding_eq_none (sound : view.Sound)
    (unfunded : ∀ state, view.state = some state → state.IsOpening) : view.funding = none := by
  by_contra stored
  obtain ⟨state, known, isFunded⟩ := sound.funding.mp (Option.isSome_iff_ne_none.mpr stored)
  exact not_isFunded_of_isOpening (unfunded state known) isFunded

/-- A change of the state of a funded channel. -/
theorem Sound.withState (sound : view.Sound) {state later : ClientChannelState}
    (known : view.state = some state) (isFunded : state.IsFunded) (isFundedLater : later.IsFunded)
    (closed : state = .closed → later = .closed)
    (closing : state = .closing → later = .closing ∨ later = .closed) :
    ({ view with state := some later } : ClientView T).Sound ∧
      view.Precedes { view with state := some later } := by
  have funded := sound.funding.mpr ⟨state, known, isFunded⟩
  refine ⟨sound_of_funded rfl isFundedLater (sound.opening_eq_none funded) funded, ?_⟩
  exact {
    known := fun _ => rfl
    closed := fun same => congrArg some (closed (Option.some.inj (known.symm.trans same)))
    closing := fun same =>
      (closing (Option.some.inj (known.symm.trans same))).imp (congrArg some) (congrArg some)
    opening := fun _ saved => .inl saved
    funding := fun _ stored => stored }

/-- A change of an opening that stays one, or becomes one. -/
theorem Sound.withOpening (sound : view.Sound)
    (isOpening : ∀ state, view.state = some state → state.IsOpening)
    {opening : ClientChannelOpeningFromSwap T} (same : ∀ saved ∈ view.opening, saved = opening)
    {later : ClientChannelState} (isOpeningLater : later.IsOpening)
    (failure : Option ClientOpeningFailure) :
    ({ view with state := some later, opening := some opening, failure } : ClientView T).Sound ∧
      view.Precedes { view with state := some later, opening := some opening, failure } := by
  refine ⟨sound_of_opening rfl isOpeningLater rfl (sound.funding_eq_none isOpening), ?_⟩
  have notFunded : ∀ state, view.state = some state → ¬ state.IsFunded :=
    fun state known => not_isFunded_of_isOpening (isOpening state known)
  exact {
    known := fun _ => rfl
    closed := fun known => absurd (.inr (.inr rfl)) (notFunded _ known)
    closing := fun known => absurd (.inr (.inl rfl)) (notFunded _ known)
    opening := fun saved isSaved => .inl (congrArg some (same saved isSaved).symm)
    funding := fun _ stored => stored }

/-- **One step.** -/
theorem Sound.apply (sound : view.Sound) (enabled : operation.Enabled view)
    (careful : operation.ClosesFunded view) :
    (view.apply operation).Sound ∧ view.Precedes (view.apply operation) := by
  cases operation with
  | saveOpeningFromSwap channelId opening =>
      rcases enabled with fresh | ⟨⟨state, known, isOpening⟩, saved⟩
      · apply sound.withOpening _ _ (.inl rfl)
        · intro state known
          rw [fresh] at known
          cases known
        · intro other isSaved
          obtain ⟨state, known, -⟩ := sound.opening.mp (Option.isSome_of_mem isSaved)
          rw [fresh] at known
          cases known
      · apply sound.withOpening _ _ (.inl rfl)
        · intro other same
          obtain rfl := Option.some.inj (known.symm.trans same)
          exact isOpening
        · intro other isSaved
          exact Option.some.inj (isSaved.symm.trans saved)
  | setOpen channelId proofs =>
      rcases enabled with ⟨known, saved⟩ | ⟨⟨state, known, isFunded⟩, -⟩
      · rw [apply_setOpen_of_opening channelId proofs known]
        obtain ⟨opening, saved⟩ := Option.isSome_iff_exists.mp saved
        have unfunded : view.funding = none := by
          apply sound.funding_eq_none
          intro state same
          obtain rfl := Option.some.inj (known.symm.trans same)
          exact .inl rfl
        rw [saved]
        refine ⟨sound_of_funded rfl (.inl rfl) rfl rfl, ?_⟩
        exact {
          known := fun _ => rfl
          closed := fun same => by cases known.symm.trans same
          closing := fun same => by cases known.symm.trans same
          opening := fun _ _ => .inr rfl
          funding := fun funding stored => by cases unfunded.symm.trans stored }
      · rw [apply_setOpen_of_funded channelId proofs known isFunded]
        exact ⟨sound, .refl view⟩
  | setOpeningFailed channelId failure =>
      have exists_opening : ∃ state ∈ view.state, state.IsOpening := by
        rcases enabled with saved | known
        · exact sound.opening.mp saved
        · exact ⟨_, known, .inl rfl⟩
      obtain ⟨opening, saved⟩ := Option.isSome_iff_exists.mp (sound.opening.mpr exists_opening)
      obtain ⟨state, known, isOpening⟩ := exists_opening
      have unfunded : ∀ state, view.state = some state → state.IsOpening := by
        intro other same
        obtain rfl := Option.some.inj (known.symm.trans same)
        exact isOpening
      have same : ∀ other ∈ view.opening, other = opening :=
        fun other isSaved => Option.some.inj (isSaved.symm.trans saved)
      have result := sound.withOpening unfunded same (.inr rfl) (some failure)
      rw [← saved] at result
      exact result
  | savePaymentState channelId payment =>
      exact ⟨⟨sound.opening, sound.funding⟩,
        ⟨id, id, .inl, fun _ saved => .inl saved, fun _ stored => stored⟩⟩
  | setClosed channelId =>
      obtain ⟨state, known, isFunded⟩ := careful
      exact sound.withState known isFunded (.inr (.inr rfl)) (fun _ => rfl) fun _ => .inr rfl
  | setClosing channelId =>
      rcases careful with known | known
      · exact sound.withState known (.inl rfl) (.inr (.inl rfl)) (by rintro ⟨⟩) (by rintro ⟨⟩)
      · exact sound.withState known (.inr (.inl rfl)) (.inr (.inl rfl)) (by rintro ⟨⟩)
          fun _ => .inl rfl
  | delete channelId => exact careful.elim
  | setKeyset mint id entry => exact ⟨sound, .refl view⟩

end ClientView

/-! ## Runs -/

namespace ClientStorage.Laws

variable {S : ClientStorage T σ} (laws : S.Laws)

/-- A caller that closes only funded channels and deletes nothing, as far as the store does
not see to it. -/
def Orderly (operation : ClientOperation T) (store : σ) : Prop :=
  ∀ channelId ∈ operation.channelId, laws.Accepts operation (laws.view store channelId) →
    operation.ClosesFunded (laws.view store channelId)

theorem enabled {operation : ClientOperation T} {view : ClientView T}
    (accepts : laws.Accepts operation view) : operation.Enabled view := by
  cases operation with
  | saveOpeningFromSwap channelId opening => exact (laws.saves channelId opening view).mp accepts
  | setOpen channelId proofs => exact (laws.completes channelId proofs view).mp accepts
  | setOpeningFailed channelId failure => exact laws.fails channelId failure view accepts
  | _ => trivial

/-- What an operation does: it changes its channel, it is refused, or it is about keysets. -/
theorem perform_cases (operation : ClientOperation T) (store : σ) :
    (∃ channelId ∈ operation.channelId, laws.Accepts operation (laws.view store channelId) ∧
      (S.perform operation store).1 = .ok () ∧
      ActsOn operation channelId (laws.view store) (laws.view (S.perform operation store).2)) ∨
    (∃ channelId ∈ operation.channelId, ¬ laws.Accepts operation (laws.view store channelId) ∧
      ∃ error, S.perform operation store = (.error error, store)) ∨
    ((S.perform operation store).1 = .ok () ∧
      laws.view (S.perform operation store).2 = laws.view store) := by
  cases named : operation.channelId with
  | none =>
      cases operation with
      | setKeyset mint id entry => exact .inr (.inr (laws.setKeyset store mint id entry))
      | _ => cases named
  | some channelId =>
      by_cases accepts : laws.Accepts operation (laws.view store channelId)
      · exact .inl ⟨channelId, rfl, accepts, laws.accepted operation store channelId named accepts⟩
      · exact .inr (.inl ⟨channelId, rfl, accepts,
          laws.refused operation store channelId named accepts⟩)

/-- An operation that fails changes nothing. -/
theorem perform_of_error (laws : S.Laws) {operation : ClientOperation T} {store : σ}
    {error : String} (failed : (S.perform operation store).1 = .error error) :
    S.perform operation store = (.error error, store) := by
  rcases laws.perform_cases operation store with
    ⟨_, -, -, succeeded, -⟩ | ⟨_, -, -, other, step⟩ | ⟨succeeded, -⟩
  · rw [succeeded] at failed
    cases failed
  · rw [step] at failed ⊢
    cases failed
    rfl
  · rw [succeeded] at failed
    cases failed

/-- An operation that succeeds on a channel was accepted. -/
theorem accepts_of_ok {operation : ClientOperation T} {store : σ} {channelId : String}
    (named : operation.channelId = some channelId)
    (succeeded : (S.perform operation store).1 = .ok ()) :
    laws.Accepts operation (laws.view store channelId) := by
  by_contra refuses
  obtain ⟨_, step⟩ := laws.refused operation store channelId named refuses
  rw [step] at succeeded
  cases succeeded

/-- **One operation.** -/
theorem step {operation : ClientOperation T} {store : σ}
    (sound : ∀ channelId, (laws.view store channelId).Sound)
    (orderly : laws.Orderly operation store) :
    (∀ channelId, (laws.view (S.perform operation store).2 channelId).Sound) ∧
      ∀ channelId, (laws.view store channelId).Precedes
        (laws.view (S.perform operation store).2 channelId) := by
  have stays : laws.view (S.perform operation store).2 = laws.view store →
      (∀ channelId, (laws.view (S.perform operation store).2 channelId).Sound) ∧
        ∀ channelId, (laws.view store channelId).Precedes
          (laws.view (S.perform operation store).2 channelId) := by
    intro same
    rw [same]
    exact ⟨sound, fun _ => .refl _⟩
  rcases laws.perform_cases operation store with
    ⟨channelId, named, accepts, -, moves⟩ | ⟨_, -, -, _, refused⟩ | ⟨-, same⟩
  · have own := (sound channelId).apply (laws.enabled accepts) (orderly channelId named accepts)
    rw [← moves.own] at own
    constructor
    · intro other
      by_cases same : other = channelId
      · exact same ▸ own.1
      · exact moves.others other same ▸ sound other
    · intro other
      by_cases same : other = channelId
      · exact same ▸ own.2
      · rw [moves.others other same]
        exact .refl _
  · exact stays (by rw [refused])
  · exact stays same

variable {laws}

/-- Records and state go together after every orderly sequence of operations. -/
theorem sound_after {operations : List (ClientOperation T)} {store : σ}
    (sound : ∀ channelId, (laws.view store channelId).Sound)
    (orderly : Machine.Throughout S.perform laws.Orderly operations store) :
    ∀ channelId, (laws.view (Machine.after S.perform operations store) channelId).Sound :=
  Machine.invariant_after (fun store => ∀ channelId, (laws.view store channelId).Sound)
    (fun _ _ sound orderly => (laws.step sound orderly).1) sound orderly

/-- What is recorded lasts. -/
theorem precedes_after {operations : List (ClientOperation T)} {store : σ}
    (sound : ∀ channelId, (laws.view store channelId).Sound)
    (orderly : Machine.Throughout S.perform laws.Orderly operations store) (channelId : String) :
    (laws.view store channelId).Precedes
      (laws.view (Machine.after S.perform operations store) channelId) :=
  Machine.related_after (fun store => ∀ channelId, (laws.view store channelId).Sound)
    (fun store later => (laws.view store channelId).Precedes (laws.view later channelId))
    (fun _ => .refl _) (fun _ _ _ first second => first.trans second)
    (fun _ _ sound orderly =>
      ⟨(laws.step sound orderly).1, (laws.step sound orderly).2 channelId⟩) sound orderly

/-- An opening that is saved again, later: it is the one that is stored, or the channel is
funded. -/
theorem saved_lasts {earlier : σ} {channelId : String}
    {opening : ClientChannelOpeningFromSwap T} {operations : List (ClientOperation T)}
    (sound : ∀ channelId, (laws.view earlier channelId).Sound)
    (orderly : Machine.Throughout S.perform laws.Orderly
      (.saveOpeningFromSwap channelId opening :: operations) earlier)
    (saved : (S.saveOpeningFromSwap earlier channelId opening).1 = .ok ()) :
    (laws.view (Machine.after S.perform (.saveOpeningFromSwap channelId opening :: operations)
        earlier) channelId).opening = some opening ∨
      (laws.view (Machine.after S.perform (.saveOpeningFromSwap channelId opening :: operations)
        earlier) channelId).funding.isSome := by
  have accepts : laws.Accepts (.saveOpeningFromSwap channelId opening)
      (laws.view earlier channelId) := laws.accepts_of_ok rfl saved
  have own := (laws.accepted _ earlier channelId rfl accepts).2.own
  have lasts := precedes_after (laws.step sound orderly.1).1 orderly.2 channelId
  exact lasts.opening opening (by rw [own]; rfl)

/-- The proofs that an opening was completed with stay those of the channel. -/
theorem completed_lasts {earlier : σ} {channelId : String} {proofs : T.Text}
    {operations : List (ClientOperation T)}
    (sound : ∀ channelId, (laws.view earlier channelId).Sound)
    (orderly : Machine.Throughout S.perform laws.Orderly
      (.setOpen channelId proofs :: operations) earlier)
    (completed : (S.setOpen earlier channelId proofs).1 = .ok ()) :
    ∃ funding ∈ (laws.view (Machine.after S.perform (.setOpen channelId proofs :: operations)
      earlier) channelId).funding, funding.fundingProofsJson = proofs := by
  have accepts : laws.Accepts (.setOpen channelId proofs) (laws.view earlier channelId) :=
    laws.accepts_of_ok rfl completed
  have own := (laws.accepted _ earlier channelId rfl accepts).2.own
  have lasts := precedes_after (laws.step sound orderly.1).1 orderly.2 channelId
  have stored : ∃ funding ∈ ((laws.view earlier channelId).apply
      (.setOpen channelId proofs)).funding, funding.fundingProofsJson = proofs := by
    rcases (laws.completes channelId proofs _).mp accepts with
      ⟨known, saved⟩ | ⟨⟨state, known, funded⟩, stored⟩
    · obtain ⟨opening, saved⟩ := Option.isSome_iff_exists.mp saved
      rw [ClientView.apply_setOpen_of_opening channelId proofs known, saved]
      exact ⟨_, rfl, rfl⟩
    · rw [ClientView.apply_setOpen_of_funded channelId proofs known funded]
      exact stored
  obtain ⟨funding, stored, same⟩ := stored
  rw [← own] at stored
  exact ⟨funding, lasts.funding funding stored, same⟩

end ClientStorage.Laws

/-- **What a client's store keeps** in every orderly run from its creation. -/
structure ClientStorage.NeverLoses {S : ClientStorage T σ} (laws : S.Laws) (new : σ) : Prop where
  /-- Records and state go together. -/
  records : ∀ operations, Machine.Throughout S.perform laws.Orderly operations new →
    ∀ channelId, (laws.view (Machine.after S.perform operations new) channelId).Sound
  /-- Closing is not undone, no opening is replaced, and funding does not change. -/
  lasts : ∀ earlier later, Machine.Throughout S.perform laws.Orderly (earlier ++ later) new →
    ∀ channelId, (laws.view (Machine.after S.perform earlier new) channelId).Precedes
        (laws.view (Machine.after S.perform (earlier ++ later) new) channelId) ∧
      ∀ opening ∈ (laws.view (Machine.after S.perform earlier new) channelId).opening,
      ∀ opening' ∈ (laws.view (Machine.after S.perform (earlier ++ later) new) channelId).opening,
        opening' = opening
  /-- An opening can be saved again until it is completed, and is refused after that. -/
  savedAgain : ∀ earlier later channelId opening,
    Machine.Throughout S.perform laws.Orderly
      (earlier ++ .saveOpeningFromSwap channelId opening :: later) new →
    (S.saveOpeningFromSwap (Machine.after S.perform earlier new) channelId opening).1 = .ok () →
    ∀ store, store = Machine.after S.perform
      (earlier ++ .saveOpeningFromSwap channelId opening :: later) new →
    if (laws.view store channelId).funding.isSome then
      ∃ error, S.saveOpeningFromSwap store channelId opening = (.error error, store)
    else
      (S.saveOpeningFromSwap store channelId opening).1 = .ok () ∧
        laws.view (S.saveOpeningFromSwap store channelId opening).2 channelId =
          { laws.view store channelId with state := some .openingFromSwap, failure := none } ∧
        ∀ other ≠ channelId, laws.view (S.saveOpeningFromSwap store channelId opening).2 other =
          laws.view store other
  /-- Completing an opening again with the same proofs succeeds and changes nothing. -/
  openedAgain : ∀ earlier later channelId proofs,
    Machine.Throughout S.perform laws.Orderly (earlier ++ .setOpen channelId proofs :: later) new →
    (S.setOpen (Machine.after S.perform earlier new) channelId proofs).1 = .ok () →
    ∀ store, store = Machine.after S.perform (earlier ++ .setOpen channelId proofs :: later) new →
    (S.setOpen store channelId proofs).1 = .ok () ∧
      laws.view (S.setOpen store channelId proofs).2 = laws.view store
  /-- An operation that fails changes nothing. -/
  failed : ∀ operation store error, (S.perform operation store).1 = .error error →
    S.perform operation store = (.error error, store)

theorem ClientStorage.Laws.neverLoses {S : ClientStorage T σ} (laws : S.Laws) {new : σ}
    (unknown : ∀ channelId, laws.view new channelId = .unknown) :
    ClientStorage.NeverLoses laws new := by
  have start : ∀ channelId, (laws.view new channelId).Sound := by
    intro channelId
    rw [unknown]
    exact ClientView.sound_unknown
  constructor
  case records => exact fun operations orderly => sound_after start orderly
  case lasts =>
    intro earlier later orderly channelId
    have sound := sound_after start orderly channelId
    obtain ⟨first, second⟩ := Machine.throughout_append.mp orderly
    have lasts := precedes_after (sound_after start first) second channelId
    rw [← Machine.after_append] at lasts
    refine ⟨lasts, ?_⟩
    intro opening saved opening' saved'
    rcases lasts.opening opening saved with still | funded
    · exact Option.some.inj (saved'.symm.trans still)
    · have completed := sound.opening_eq_none funded
      cases completed.symm.trans saved'
  case savedAgain =>
    intro earlier later channelId opening orderly saved store isStore
    have sound := sound_after start orderly channelId
    obtain ⟨first, second⟩ := Machine.throughout_append.mp orderly
    have lasts := saved_lasts (sound_after start first) second saved
    rw [← Machine.after_append, ← isStore] at lasts
    rw [← isStore] at sound
    by_cases funded : (laws.view store channelId).funding.isSome = true
    · rw [if_pos funded]
      exact laws.refused (.saveOpeningFromSwap channelId opening) store channelId rfl
        fun accepts => sound.not_acceptsOpening funded ((laws.saves _ _ _).mp accepts)
    · rw [if_neg funded]
      have still := lasts.resolve_right funded
      obtain ⟨state, known, isOpening⟩ := sound.opening.mp (Option.isSome_of_eq_some still)
      have accepts := (laws.saves channelId opening _).mpr (.inr ⟨⟨state, known, isOpening⟩, still⟩)
      obtain ⟨succeeded, moves⟩ := laws.accepted (.saveOpeningFromSwap channelId opening) store
        channelId rfl accepts
      refine ⟨succeeded, moves.own.trans ?_, moves.others⟩
      have isKnown : (laws.view store channelId).state ≠ none := by
        rw [known]
        rintro ⟨⟩
      simp only [ClientView.apply, if_neg isKnown, still]
  case openedAgain =>
    intro earlier later channelId proofs orderly completed store isStore
    have sound := sound_after start orderly channelId
    obtain ⟨first, second⟩ := Machine.throughout_append.mp orderly
    have lasts := completed_lasts (sound_after start first) second completed
    rw [← Machine.after_append, ← isStore] at lasts
    rw [← isStore] at sound
    obtain ⟨funding, stored, same⟩ := lasts
    obtain ⟨state, known, funded⟩ := sound.funding.mp (Option.isSome_of_eq_some stored)
    have accepts := (laws.completes channelId proofs _).mpr
      (.inr ⟨⟨state, known, funded⟩, funding, stored, same⟩)
    obtain ⟨succeeded, moves⟩ := laws.accepted (.setOpen channelId proofs) store channelId rfl
      accepts
    refine ⟨succeeded, funext ?_⟩
    intro other
    by_cases own : other = channelId
    · rw [own]
      exact moves.own.trans (ClientView.apply_setOpen_of_funded channelId proofs known funded)
    · exact moves.others other own
  case failed => exact fun _ _ _ failed => laws.perform_of_error failed

namespace Sample

/-- A channel that is being opened. -/
def swapOpening : ClientChannelOpeningFromSwap carriers :=
  ⟨.null, "", .null, "", "", 1, 1, "m", "sat", .null, .null, 0, 0⟩

/-- The state of the channel after some operations, and whether it has an opening and
funding. -/
def summary {σ : Type} {S : ClientStorage carriers σ} (laws : S.Laws) (new : σ)
    (operations : List (ClientOperation carriers)) :
    Option ClientChannelState × Bool × Bool :=
  let view := laws.view (Machine.after S.perform operations new) "c"
  (view.state, view.opening.isSome, view.funding.isSome)

end Sample

end Spilman
