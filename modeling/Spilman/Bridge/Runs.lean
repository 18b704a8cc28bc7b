/-
# Calls one at a time

What a call that runs alone does to the store. Every write it makes is justified by
the store it meets (`Justified`): funding is saved for an unknown channel, a payment
is stored after it was checked against the stored funding, usage is counted if the
stored balance covers it, a channel is marked closed with a payout that was verified.
Justified writes keep every channel `Sound`.

That a channel which is open or closing has a payment at all (`Paid`) holds between
calls only, and only if the store can hold the first payment of every channel.
-/

import Spilman.Bridge.Payout
import Spilman.Bridge.Readings

namespace Spilman

open Lib

variable {T : Carriers} {σ ω : Type} (L : Cashu T)

/-! ## Channels between steps -/

/-- A payment that can be cashed in under the funding of its channel. -/
structure Cashable (channelId : String) (funding : ChannelFunding T) (payment : PaymentProof) :
    Prop where
  signed : verifySignature L funding channelId payment.balance payment.signature = .ok ()
  within : ∃ params, storedParams L funding = .ok params ∧ payment.balance ≤ params.capacity

/-- What is stored of a closed channel is what its close has paid. -/
def PaidOut (funding : ChannelFunding T) (data : ClosedDataView T) : Prop :=
  ∃ params search, storedParams L funding = .ok params ∧
    data.closedAmount ≤ params.capacity ∧
    params.keysetInfo.inverseDeterministicValueAfterFees data.closedAmount
      params.maximumAmountForOneOutput = .ok search ∧
    data.receiverSum = search.nominalValue ∧
    data.valueAfterStage1 = data.receiverSum + data.senderSum ∧
    params.getValueAfterStage1 = .ok data.valueAfterStage1

/-- What holds of a channel at every moment. -/
structure Sound (channelId : String) (view : ChannelView T) : Prop where
  unknown : view.state = .ok none → view = .unknown
  cashable : ∀ payment, view.payment = some payment →
    ∃ funding, view.funding = some funding ∧ Cashable L channelId funding payment
  funded : view.state ≠ .ok none → view.funding.isSome
  closing : view.state = .ok (some .closing) → view.closing.isSome
  closed : view.state = .ok (some .closed) → view.closed.isSome
  paidOut : ∀ data, view.closed = some data →
    ∃ funding, view.funding = some funding ∧ PaidOut L funding data

/-- A channel that can still be paid out has a payment. -/
def ChannelView.Paid (view : ChannelView T) : Prop :=
  view.state = .ok (some .opened) ∨ view.state = .ok (some .closing) → view.payment.isSome

section Views

variable {L} {channelId : String} {view : ChannelView T}

theorem sound_unknown : Sound L channelId .unknown where
  unknown := fun _ => rfl
  cashable := by
    rintro _ ⟨⟩
  funded := fun known => absurd rfl known
  closing := by
    rintro ⟨⟩
  closed := by
    rintro ⟨⟩
  paidOut := by
    rintro _ ⟨⟩

theorem Sound.saveFunding (sound : Sound L channelId view) (isNew : view.state = .ok none)
    (funding : ChannelFunding T) :
    Sound L channelId (view.saveFunding funding) ∧
      view.saveFunding funding =
        { ChannelView.unknown with state := .ok (some .opened), funding := some funding } := by
  have saved : view.saveFunding funding =
      { ChannelView.unknown with state := .ok (some .opened), funding := some funding } := by
    rw [sound.unknown isNew]
    rfl
  rw [saved]
  exact ⟨⟨by rintro ⟨⟩, by rintro _ ⟨⟩, fun _ => rfl, by rintro ⟨⟩, by rintro ⟨⟩, by rintro _ ⟨⟩⟩,
    rfl⟩

theorem Sound.updateBalance (sound : Sound L channelId view) {funding : ChannelFunding T}
    (stored : view.funding = some funding) {payment : PaymentProof}
    (cashable : Cashable L channelId funding payment) :
    Sound L channelId (view.updateBalance payment) where
  unknown := by
    intro isNew
    have unknown := sound.unknown isNew
    rw [unknown] at stored
    cases stored
  cashable := by
    intro kept isKept
    unfold ChannelView.updateBalance at isKept
    cases held : view.payment with
    | none =>
        simp only [held, Option.some.injEq] at isKept
        exact ⟨funding, stored, isKept ▸ cashable⟩
    | some payment' =>
        by_cases larger : payment'.balance < payment.balance
        · simp only [held, larger, if_true, Option.some.injEq] at isKept
          exact ⟨funding, stored, isKept ▸ cashable⟩
        · simp only [held, larger, if_false, Option.some.injEq] at isKept
          exact sound.cashable kept (isKept ▸ held)
  funded := sound.funded
  closing := sound.closing
  closed := sound.closed
  paidOut := sound.paidOut

theorem Sound.withUsage (sound : Sound L channelId view) (isOpen : view.IsOpen)
    (usage : String → Nat) : Sound L channelId { view with usage := usage } where
  unknown := by
    intro isNew
    have isOpen : view.state = .ok (some .opened) := isOpen
    rw [isOpen] at isNew
    cases isNew
  cashable := sound.cashable
  funded := sound.funded
  closing := sound.closing
  closed := sound.closed
  paidOut := sound.paidOut

theorem Sound.markClosing (sound : Sound L channelId view) (known : view.state ≠ .ok none)
    (data : ClosingData) : Sound L channelId (view.markClosing data) where
  unknown := by
    rintro ⟨⟩
  cashable := sound.cashable
  funded := fun _ => sound.funded known
  closing := fun _ => rfl
  closed := by
    rintro ⟨⟩
  paidOut := sound.paidOut

theorem Sound.markClosed (sound : Sound L channelId view) {funding : ChannelFunding T}
    (stored : view.funding = some funding) {data : ClosedDataView T}
    (paidOut : PaidOut L funding data) : Sound L channelId (view.markClosed data) where
  unknown := by
    rintro ⟨⟩
  cashable := sound.cashable
  funded := fun _ => Option.isSome_of_eq_some stored
  closing := by
    rintro ⟨⟩
  closed := fun _ => rfl
  paidOut := by
    intro stored' isData
    obtain rfl := Option.some.inj isData
    exact ⟨funding, stored, paidOut⟩

end Views

/-! ## Justified steps -/

namespace Bridge

/-- A call that brings a payment with its channel. -/
def Operation.Brings (payment : Payment T) : Operation T → Prop
  | .processPayment brought _ => brought = payment
  | .fundChannel brought => brought = payment
  | .executeCooperativeClose text => parsePayment L text = .ok payment
  | _ => False

variable (K : KeyOps T) (H : ConfigurableHost T σ)

/-- A call that asks to close a channel with a payment: its own, or the stored one. -/
def Operation.Closes (store : σ) (channelId : String) (payment : PaymentProof) :
    Operation T → Prop
  | .executeCooperativeClose text => RequestsClose L text channelId payment
  | .executeUnilateralClose closed =>
      closed = channelId ∧ H.storage.getBalance store channelId = some payment
  | _ => False

/-- What the store a write meets has to be like, for a call that has started from a given
store. -/
def Justified (operation : Operation T) (origin : σ) : Request T → σ → Prop
  | .saveFunding channelId _, store => (H.storage.view store channelId).state = .ok none
  | .updateBalance channelId payment, store => payment.signature ≠ "" ∧
      ∃ funding, (H.storage.view store channelId).funding = some funding ∧
        Cashable L channelId funding payment
  | .incrementUsage channelId increments, store => (H.storage.view store channelId).IsOpen ∧
      H.due L ((H.storage.view store channelId).incrementUsage increments) none ≤
        (H.storage.view store channelId).balance
  | .markClosing channelId data, store =>
      (H.storage.view store channelId).state ≠ .ok none ∧
      operation.Closes L H origin channelId data.payment ∧
      ∀ payment, (H.storage.view store channelId).ClosingWith payment →
        (H.storage.view origin channelId).ClosingWith payment
  | .markClosed channelId data, store =>
      (H.storage.view store channelId).state = .ok (some .closing) ∧
      ∃ funding, (H.storage.view store channelId).funding = some funding ∧ PaidOut L funding data
  | _, _ => True

variable {H} (laws : H.storage.Laws)

/-- The counters of the store have no limit of their own. -/
def Boundless (laws : H.storage.Laws) : Prop :=
  (∀ store, laws.counting store) ∧ ∀ count, laws.counts count

/-- What a justified step does to one channel. -/
inductive Moves (operation : Operation T) (origin : σ) (channelId : String)
    (view : ChannelView T) : ChannelView T → Prop
  | stay : Moves operation origin channelId view view
  | saveFunding (funding : ChannelFunding T) (isNew : view.state = .ok none) :
      Moves operation origin channelId view (view.saveFunding funding)
  | updateBalance (payment : PaymentProof) (funding : ChannelFunding T)
      (stored : view.funding = some funding) (cashable : Cashable L channelId funding payment) :
      Moves operation origin channelId view (view.updateBalance payment)
  | incrementUsage (usage : String → Nat) (isOpen : view.IsOpen)
      (covered : Boundless laws → H.due L { view with usage := usage } none ≤ view.balance) :
      Moves operation origin channelId view { view with usage := usage }
  | markClosing (data : ClosingData) (notClosed : ¬ view.IsClosed)
      (known : view.state ≠ .ok none) (closes : operation.Closes L H origin channelId data.payment)
      (kept : ∀ payment, view.ClosingWith payment →
        (H.storage.view origin channelId).ClosingWith payment) :
      Moves operation origin channelId view (view.markClosing data)
  | markClosed (data : ClosedDataView T) (funding : ChannelFunding T)
      (isClosing : view.state = .ok (some .closing)) (stored : view.funding = some funding)
      (paidOut : PaidOut L funding data) :
      Moves operation origin channelId view (view.markClosed data)

/-- A store in which every channel is sound. -/
structure Standing (store : σ) : Prop where
  wellFormed : laws.wellFormed store
  sound : ∀ channelId, Sound L channelId (H.storage.view store channelId)

variable {L K laws} {operation : Operation T} {origin store after : σ}

theorem Justified.signed {request : Request T}
    (justified : Justified L H operation origin request store) : request.Signed := by
  cases request with
  | updateBalance channelId payment => exact justified.1
  | _ => trivial

theorem Justified.moves {request : Request T} {channelId : String} {now : ChannelView T}
    (justified : Justified L H operation origin request store)
    (effect : Effect laws store request channelId now) :
    Moves L laws operation origin channelId (H.storage.view store channelId) now := by
  cases effect with
  | stay => exact .stay
  | saveFunding funding asked =>
      subst asked
      exact .saveFunding funding justified
  | updateBalance payment asked =>
      subst asked
      obtain ⟨-, funding, stored, cashable⟩ := justified
      exact .updateBalance payment funding stored cashable
  | incrementUsage increments usage asked counted =>
      subst asked
      obtain ⟨isOpen, covered⟩ := justified
      refine .incrementUsage usage isOpen ?_
      rintro ⟨counting, counts⟩
      rw [counted (counting store) fun _ => counts _]
      exact covered
  | markClosing data asked notClosed =>
      subst asked
      obtain ⟨known, closes, kept⟩ := justified
      exact .markClosing data notClosed known closes kept
  | markClosed data asked =>
      subst asked
      obtain ⟨isClosing, funding, stored, paidOut⟩ := justified
      exact .markClosed data funding isClosing stored paidOut

/-- A justified step moves every channel, if only to where it is. -/
theorem moves_of_step {request : Request T} {answer : (requests T σ).Response request}
    (formed : laws.wellFormed store) (justified : Justified L H operation origin request store)
    (step : behaviour H.storage request store answer after) :
    laws.wellFormed after ∧ ∀ channelId, Moves L laws operation origin channelId
      (H.storage.view store channelId) (H.storage.view after channelId) := by
  obtain ⟨formed', effect⟩ := effect_of_step formed justified.signed step
  exact ⟨formed', fun channelId => justified.moves (effect channelId)⟩

theorem Moves.sound {channelId : String} {before now : ChannelView T}
    (moves : Moves L laws operation origin channelId before now)
    (sound : Sound L channelId before) : Sound L channelId now := by
  cases moves with
  | stay => exact sound
  | saveFunding funding isNew => exact (sound.saveFunding isNew funding).1
  | updateBalance payment funding stored cashable => exact sound.updateBalance stored cashable
  | incrementUsage usage isOpen covered => exact sound.withUsage isOpen usage
  | markClosing data notClosed known closes kept => exact sound.markClosing known data
  | markClosed data funding isClosing stored paidOut => exact sound.markClosed stored paidOut

/-- Justified steps keep every channel sound. -/
theorem Standing.step (standing : Standing L laws store) {request : Request T}
    (justified : Justified L H operation origin request store)
    {answer : (requests T σ).Response request}
    (step : behaviour H.storage request store answer after) : Standing L laws after := by
  obtain ⟨formed, moves⟩ := moves_of_step standing.wellFormed justified step
  exact ⟨formed, fun channelId => (moves channelId).sound (standing.sound channelId)⟩

/-! ## Payments between calls -/

/-- Every channel that can still be paid out has a payment. -/
def AllPaid (H : ConfigurableHost T σ) (store : σ) : Prop :=
  ∀ channelId, (H.storage.view store channelId).Paid

theorem AllPaid.of_changes (paid : AllPaid H store) {channelId : String}
    {change : ChannelView T → ChannelView T}
    (changes : H.storage.Changes store after channelId change)
    (own : (change (H.storage.view store channelId)).Paid) : AllPaid H after := by
  intro other
  by_cases same : other = channelId
  · subst same
    rw [changes.1]
    exact own
  · rw [changes.2 other same]
    exact paid other

variable (L) in
/-- A store that a call can leave before it has closed anything: sound, with a payment
for every channel if there was one for every channel before and the store could hold the
new ones, and without a channel that was closed meanwhile. -/
structure Lands (laws : H.storage.Laws) (fits : Prop) (origin after : σ) : Prop where
  standing : Standing L laws after
  paid : fits → AllPaid H origin → AllPaid H after
  noneClosed : ∀ channelId, (H.storage.view after channelId).IsClosed →
    (H.storage.view origin channelId).IsClosed

theorem Lands.refl {fits : Prop} (standing : Standing L laws origin) :
    Lands L laws fits origin origin := ⟨standing, fun _ paid => paid, fun _ closed => closed⟩

/-- One channel changes, keeps its payment and is not closed by that. -/
theorem Lands.of_changes {fits : Prop} (lands : Lands L laws fits origin store)
    (standing : Standing L laws after) {channelId : String}
    {change : ChannelView T → ChannelView T}
    (changes : H.storage.Changes store after channelId change)
    (paid : (H.storage.view store channelId).Paid →
      (change (H.storage.view store channelId)).Paid)
    (stays : ¬ (change (H.storage.view store channelId)).IsClosed ∨
      (change (H.storage.view store channelId)).state = (H.storage.view store channelId).state) :
    Lands L laws fits origin after where
  standing := standing
  paid := fun fit before =>
    (lands.paid fit before).of_changes changes (paid (lands.paid fit before channelId))
  noneClosed := by
    intro other closed
    by_cases same : other = channelId
    · subst same
      rw [changes.1] at closed
      rcases stays with notClosed | sameState
      · exact absurd closed notClosed
      · exact lands.noneClosed other (sameState.symm.trans closed)
    · rw [changes.2 other same] at closed
      exact lands.noneClosed other closed

variable (L) in
/-- The requests that a call may make, and where. -/
abbrev permitted (laws : H.storage.Laws) (operation : Operation T) (origin : σ)
    (request : Request T) (store : σ) : Prop :=
  Standing L laws store ∧ Justified L H operation origin request store

variable (L) in
/-- Alone from a store, a program makes justified steps only, and ends as it should. -/
def Proceeds (laws : H.storage.Laws) (operation : Operation T) (origin : σ) {α : Type}
    (post : α → σ → Prop) (program : Program (requests T σ) α) (store : σ) : Prop :=
  Program.Ensures (behaviour H.storage) (permitted L laws operation origin) post program store

variable (L) in
/-- A program that lands, whatever it returns. -/
abbrev Remains (laws : H.storage.Laws) (operation : Operation T) (origin : σ) (fits : Prop)
    {α : Type} (program : Program (requests T σ) α) (store : σ) : Prop :=
  Proceeds L laws operation origin (fun _ => Lands L laws fits origin) program store

/-- A reading changes nothing, so that whatever it gives is about the store it was made
on. -/
theorem proceeds_observe {ε α β : Type} {post : Outcome ε β → σ → Prop}
    {reading : Reading σ ε α} {rest : α → Call T σ ε β}
    (standing : Standing L laws store) (failed : ∀ outcome, outcome.isOk = false → post outcome store)
    (gives : Gives (At store)
      (fun value => Proceeds L laws operation origin post (rest value) store) reading) :
    Proceeds L laws operation origin post (observe reading >>= rest : Call T σ ε β) store :=
  ensures_observe_bind (fun _ _ step => step) ⟨standing, trivial⟩ failed gives

/-! ## Payments and funding -/

variable {fits : Prop} {β : Type}

variable (L) in
/-- A channel has been recorded: it is open, with its first payment if the store can hold
that, and the others are as they were. -/
structure Registered (laws : H.storage.Laws) (store : σ) (balance : Nat) (after : σ) :
    Prop where
  standing : Standing L laws after
  paid : laws.keeps balance → AllPaid H store → AllPaid H after
  others : ∀ channelId, H.storage.view after channelId = H.storage.view store channelId ∨
    (H.storage.view after channelId).IsOpen

/-- Recording a new channel opens it, with its first payment if the store can hold that. -/
theorem proceeds_recordValidatedNewChannel {validated : ValidatedNewChannel T}
    (standing : Standing L laws store)
    (isNew : (H.storage.view store validated.channelId).state = .ok none)
    (signed : validated.payment.signature ≠ "")
    (cashable : Cashable L validated.channelId validated.funding validated.payment) :
    Proceeds L laws operation origin (fun _ => Registered L laws store validated.balance)
      (recordValidatedNewChannel validated) store := by
  refine ⟨⟨standing, isNew⟩, ?_⟩
  intro answer saved step
  obtain ⟨isOk, -, changes⟩ :=
    laws.saveFunding validated.channelId validated.funding standing.wellFormed
  have standing' : Standing L laws saved := Standing.step standing
    (show Justified L H operation origin (.saveFunding validated.channelId validated.funding) store
      from isNew) step
  obtain ⟨rfl, rfl⟩ := Prod.mk.inj step
  have own := changes.1.trans ((standing.sound _).saveFunding isNew validated.funding).2
  have isOpen : (H.storage.view _ validated.channelId).IsOpen := congrArg ChannelView.state own
  have stored := congrArg ChannelView.funding own
  rw [isOk]
  refine ⟨⟨standing', signed, validated.funding, stored, cashable⟩, ?_⟩
  intro answer after step
  have standing'' : Standing L laws after := Standing.step standing'
    (show Justified L H operation origin (.updateBalance validated.channelId validated.payment) _
      from ⟨signed, validated.funding, stored, cashable⟩) step
  obtain ⟨rfl, rfl⟩ := Prod.mk.inj step
  rcases laws.updateBalance_cases standing'.wellFormed validated.channelId signed with
    ⟨-, -, -, updates⟩ | ⟨refused, -, unchanged⟩
  · refine ⟨standing'', fun _ paid channelId => ?_, fun channelId => ?_⟩
    · by_cases same : channelId = validated.channelId
      · subst same
        intro _
        rw [updates.1]
        exact ChannelView.isSome_payment_updateBalance _ _
      · rw [updates.2 channelId same, changes.2 channelId same]
        exact paid channelId
    · by_cases same : channelId = validated.channelId
      · subst same
        rw [updates.1]
        exact .inr isOpen
      · rw [updates.2 channelId same, changes.2 channelId same]
        exact .inl rfl
  · refine ⟨standing'', fun keeps => absurd ⟨isOpen, keeps⟩ refused, fun channelId => ?_⟩
    rw [unchanged]
    by_cases same : channelId = validated.channelId
    · subst same
      exact .inr isOpen
    · exact .inl (changes.2 channelId same)

/-- A payment that was accepted is recorded, and its usage is counted only if it is. -/
theorem remains_recordPayment {channelId : String} {payment : PaymentProof} {context : T.Text}
    {funding : ChannelFunding T} (lands : Lands L laws fits origin store)
    (isOpen : (H.storage.view store channelId).IsOpen)
    (stored : (H.storage.view store channelId).funding = some funding)
    (signed : payment.signature ≠ "") (cashable : Cashable L channelId funding payment)
    (enough : H.due L (H.storage.view store channelId) (some context) ≤ payment.balance) :
    Remains L laws operation origin fits (recordPayment L channelId payment context) store := by
  have standing := lands.standing
  have justified : Justified L H operation origin (.updateBalance channelId payment) store :=
    ⟨signed, funding, stored, cashable⟩
  refine ⟨⟨standing, justified⟩, ?_⟩
  intro answer updated step
  have standing' : Standing L laws updated := Standing.step standing justified step
  obtain ⟨rfl, rfl⟩ := Prod.mk.inj step
  rcases laws.updateBalance_cases standing.wellFormed channelId signed with
    ⟨-, isOk, -, changes⟩ | ⟨-, notOk, unchanged⟩
  · have lands' : Lands L laws fits origin _ := lands.of_changes standing' changes
      (fun _ _ => ChannelView.isSome_payment_updateBalance _ _) (.inr rfl)
    rw [isOk]
    show Program.Ensures _ _ _ (applyUsageIncrements L channelId context) _
    unfold applyUsageIncrements
    cases parsed : usageOfText L context with
    | none => exact lands'
    | some increments =>
        -- The stored balance is at least the one that was checked against the same sum.
        have covered : H.due L ((H.storage.view (H.storage.updateBalance store channelId payment).2
            channelId).incrementUsage increments) none ≤
              (H.storage.view (H.storage.updateBalance store channelId payment).2
                channelId).balance := by
          rw [changes.1]
          calc H.due L (((H.storage.view store channelId).updateBalance payment).incrementUsage
                increments) none
              = H.due L (H.storage.view store channelId) (some context) :=
                amountDue_incrementUsage parsed
            _ ≤ payment.balance := enough
            _ ≤ _ := (ChannelView.le_balance_updateBalance _ payment).2
        have isOpen' : (H.storage.view (H.storage.updateBalance store channelId payment).2
            channelId).IsOpen := by
          rw [changes.1]
          exact isOpen
        have justified' : Justified L H operation origin (.incrementUsage channelId increments)
            (H.storage.updateBalance store channelId payment).2 := ⟨isOpen', covered⟩
        refine ⟨⟨standing', justified'⟩, ?_⟩
        intro answer after step
        have standing'' : Standing L laws after := Standing.step standing' justified' step
        obtain ⟨rfl, rfl⟩ := Prod.mk.inj step
        obtain ⟨-, usage, counted⟩ :=
          laws.incrementUsage_frame channelId increments standing'.wellFormed
        exact lands'.of_changes standing'' counted (fun paid => paid) (.inr rfl)
  · cases answered : (H.storage.updateBalance store channelId payment).1 with
    | ok done => exact absurd answered notOk
    | error message =>
        rw [unchanged]
        exact lands

/-! ## Payments and funding as calls -/

/-- A channel that was accepted comes with a payment that can be cashed in. -/
theorem cashable_of_acceptance (trips : L.RoundTrips) {C : Type} {host : Host T C}
    {paramsVal : Json} {proofs : List (Proof T)} {validated : ValidatedNewChannel T}
    (a : Acceptance L host paramsVal proofs validated) :
    Cashable L validated.channelId validated.funding validated.payment :=
  ⟨a.signed, a.params, a.storedParams_eq, (a.capacity_params trips).symm ▸ a.within⟩

/-- So is a payment that was accepted on a known channel. -/
theorem cashable_of_validatePayment {now : Nat} {channelId : String} {balance : Nat}
    {signature : String} {context : T.Text} {result : PaymentValidationResult}
    (accepted : Spilman.validatePayment L (H.answers L K ⟨store, now⟩) channelId balance signature
      context = .ok result) :
    (H.storage.view store channelId).IsOpen ∧ signature ≠ "" ∧
      (∃ funding, (H.storage.view store channelId).funding = some funding ∧
        Cashable L channelId funding ⟨balance, signature⟩) ∧
      H.due L (H.storage.view store channelId) (some context) ≤ balance ∧
      result.channelId = channelId ∧ result.balance = balance ∧
      result.senderSignature = signature := by
  obtain ⟨funding, capacity, opened, isCapacity, within, verified, enough, rfl⟩ :=
    validatePayment_eq_ok_iff.mp accepted
  obtain ⟨-, signed, isOpen, stored⟩ := openFunding_eq_ok_iff.mp opened
  obtain ⟨params, _, _, isParams, -⟩ := verifySignature_eq_ok_iff.mp verified
  have sameCapacity := Outcome.ok.inj (isCapacity.symm.trans (storedCapacity_of_storedParams isParams))
  rw [H.getAmountDue_eq] at enough
  exact ⟨isOpen, signed, ⟨funding, stored, verified, params, isParams, sameCapacity ▸ within⟩,
    enough, rfl, rfl, rfl⟩

/-- Validating and recording a new channel, and going on with what was recorded. -/
theorem proceeds_register (trips : L.RoundTrips) {ε : Type} {post : Outcome ε β → σ → Prop}
    {channelId : String} {paramsVal : Json} {proofs : List (Proof T)} {balance : Nat}
    {signature : String} {reading : Reading σ ε (ValidatedNewChannel T)}
    {rest : ValidatedNewChannel T → Call T σ ε β}
    (standing : Standing L laws store) (failed : ∀ outcome, outcome.isOk = false → post outcome store)
    (isNew : H.storage.getState store channelId = .ok none) (signed : signature ≠ "")
    (gives : Gives (At store) (fun validated => ∃ now, Spilman.validateNewChannelFunding L
      (H.answers L K ⟨store, now⟩) channelId paramsVal proofs balance signature = .ok validated)
      reading)
    (next : ∀ validated after, Registered L laws store balance after →
      Proceeds L laws operation origin post (rest validated) after) :
    Proceeds L laws operation origin post
      (observe reading >>= fun validated =>
        (Attempt.perform (recordValidatedNewChannel validated) : Call T σ ε Unit) >>= fun _ =>
          rest validated : Call T σ ε β) store := by
  apply proceeds_observe standing failed
  apply gives.mono
  rintro validated ⟨now, accepted⟩
  obtain ⟨⟨a⟩, rfl, payment⟩ := acceptance_of_validate accepted
  have isSigned : validated.payment.signature ≠ "" := by
    rw [payment]
    exact signed
  have isBalance : validated.balance = balance := congrArg PaymentProof.balance payment
  apply Attempt.ensures_perform (proceeds_recordValidatedNewChannel standing isNew isSigned
    (cashable_of_acceptance trips a))
  intro _ after registered
  rw [isBalance] at registered
  exact next validated after registered

/-- A first payment on a channel is one that the store can hold. -/
def FirstFits (laws : H.storage.Laws) (origin : σ) (payment : Payment T) : Prop :=
  H.storage.getState origin payment.channelId = .ok none → laws.keeps payment.balance

theorem Registered.lands {balance : Nat} (registered : Registered L laws origin balance after)
    (keeps : fits → laws.keeps balance) : Lands L laws fits origin after where
  standing := registered.standing
  paid := fun fit => registered.paid (keeps fit)
  noneClosed := by
    intro channelId closed
    rcases registered.others channelId with same | isOpen
    · exact same ▸ closed
    · have impossible := isOpen.symm.trans closed
      cases impossible

theorem remains_recordNewChannel (trips : L.RoundTrips)
    {missingParams missingProofs : BridgeError} {payment : Payment T}
    (standing : Standing L laws origin)
    (isNew : H.storage.getState origin payment.channelId = .ok none)
    (signed : payment.signature ≠ "") (fit : fits → FirstFits laws origin payment) :
    Remains L laws operation origin fits
      (recordNewChannel L K H missingParams missingProofs payment) origin := by
  have failed : ∀ outcome : Outcome BridgeError (ValidatedNewChannel T), outcome.isOk = false →
      Lands L laws fits origin origin := fun _ _ => .refl standing
  apply Attempt.ensures_lift failed
  intro params _
  apply Attempt.ensures_lift failed
  intro proofs _
  apply proceeds_register trips standing failed isNew signed
    (gives_validateNewChannelFunding _ _ _ _ _)
  intro validated after registered
  exact registered.lands fun fits => fit fits isNew

theorem remains_processPayment (trips : L.RoundTrips) {payment : Payment T} {context : T.Text}
    (standing : Standing L laws origin) (fit : fits → FirstFits laws origin payment) :
    Remains L laws operation origin fits (processPayment L K H payment context) origin := by
  have lands : Lands L laws fits origin origin := .refl standing
  apply proceeds_observe standing fun _ _ => lands
  refine (gives_validatePaymentRequest _ _).mono ?_
  rintro state ⟨-, signed, isState, -⟩
  have firstUse : Remains L laws operation origin fits (recordFirstUse L K H payment state)
      origin := by
    cases state with
    | some held => exact lands
    | none =>
        apply Attempt.ensures_part (remains_recordNewChannel trips standing isState signed fit)
          fun _ _ lands _ _ => lands
        intro validated after lands
        exact lands
  apply Attempt.ensures_part firstUse fun _ _ lands _ _ => lands
  intro _ recorded lands
  apply proceeds_observe lands.standing fun _ _ => lands
  refine (gives_validatePayment _ _ _ _).mono ?_
  rintro val ⟨now, accepted⟩
  obtain ⟨isOpen, signed, ⟨funding, stored, cashable⟩, enough, isChannel, isBalance, isSignature⟩ :=
    cashable_of_validatePayment accepted
  rw [isChannel, isBalance, isSignature]
  apply Attempt.ensures_perform (remains_recordPayment lands isOpen stored signed cashable enough)
  intro _ after lands
  exact lands

theorem remains_fundChannel (trips : L.RoundTrips) {payment : Payment T}
    (standing : Standing L laws origin) (fit : fits → FirstFits laws origin payment) :
    Remains L laws operation origin fits (fundChannel L K H payment) origin := by
  have lands : Lands L laws fits origin origin := .refl standing
  apply proceeds_observe standing fun _ _ => lands
  refine (gives_validatePaymentRequest _ _).mono ?_
  rintro state ⟨-, signed, isState, -⟩
  by_cases known : state.isSome = true
  · rw [if_pos known]
    apply (ensures_observe (fun _ _ step => step) ⟨standing, trivial⟩ (gives_true _)).mono
    rintro _ _ ⟨rfl, -⟩
    exact lands
  · rw [if_neg known]
    rw [Option.not_isSome_iff_eq_none.mp known] at isState
    apply Attempt.ensures_part (remains_recordNewChannel trips standing isState signed fit)
      fun _ _ lands _ _ => lands
    intro validated after lands
    apply Attempt.ensures_lift fun _ _ => lands
    intro capacity _
    exact lands

end Bridge

end Spilman
