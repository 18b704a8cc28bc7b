/-
# Closes one at a time

A close that runs alone marks its channel closing, caches keysets while it tries to
have the swap signed, and marks the channel closed once the answer of the mint has been
checked. `executes_operation` puts the calls of a bridge together: whatever the mint and
the refresher do, every call makes justified steps only, and one that fails has closed
nothing.
-/

import Spilman.Bridge.Runs

namespace Spilman

open Lib

namespace Bridge

variable {T : Carriers} {σ ω : Type} {L : Cashu T} {K : KeyOps T} {H : ConfigurableHost T σ}
  {laws : H.storage.Laws} {operation : Operation T} {origin store current after : σ}
  {fits : Prop}

/-! ## Keysets -/

variable (L) in
/-- The same channels, whatever keysets are cached. -/
structure Alike (laws : H.storage.Laws) (store after : σ) : Prop where
  standing : Standing L laws after
  same : ∀ channelId, H.storage.view after channelId = H.storage.view store channelId

theorem Alike.refl (standing : Standing L laws store) : Alike L laws store store :=
  ⟨standing, fun _ => rfl⟩

theorem Alike.lands (alike : Alike L laws store after) (lands : Lands L laws fits origin store) :
    Lands L laws fits origin after where
  standing := alike.standing
  paid := by
    intro fit paid channelId
    rw [alike.same]
    exact lands.paid fit paid channelId
  noneClosed := by
    intro channelId closed
    rw [alike.same] at closed
    exact lands.noneClosed channelId closed

theorem proceeds_cacheKeysets (keysets : List (FetchedKeyset T))
    (alike : Alike L laws store current) :
    Proceeds L laws operation origin (fun _ => Alike L laws store) (cacheKeysets keysets)
      current := by
  induction keysets generalizing current with
  | nil => exact alike
  | cons fetched rest ih =>
      have justified : Justified L H operation origin
          (.setKeyset fetched.mint fetched.id fetched.entry) current := trivial
      refine ⟨⟨alike.standing, justified⟩, ?_⟩
      intro answer after step
      have standing : Standing L laws after := alike.standing.step justified step
      obtain ⟨-, rfl⟩ := Prod.mk.inj step
      have same := (laws.setKeyset fetched.mint fetched.id fetched.entry
        alike.standing.wellFormed).2
      exact ih ⟨standing, fun channelId => (same channelId).trans (alike.same channelId)⟩

theorem proceeds_refreshKeysets (mint : String) (alike : Alike L laws store current) :
    Proceeds L laws operation origin (fun _ => Alike L laws store) (refreshKeysets mint)
      current := by
  refine ⟨⟨alike.standing, trivial⟩, ?_⟩
  intro answer after step
  obtain rfl : after = current := step
  apply Program.Ensures.bind
  apply (proceeds_cacheKeysets answer.1 alike).mono
  intro _ after alike
  exact alike

theorem proceeds_ensureCloseKeysetsCached (channelId : String)
    (standing : Standing L laws store) :
    Proceeds L laws operation origin (fun _ => Alike L laws store)
      (ensureCloseKeysetsCached L K H channelId) store := by
  have alike : Alike L laws store store := .refl standing
  apply proceeds_observe standing fun _ _ => alike
  apply gives_look
  intro _
  apply Attempt.ensures_lift fun _ _ => alike
  intro mintUnit _
  have selected : Proceeds L laws operation origin (fun _ => Alike L laws store)
      (observe (selectCloseOutputKeysetForChannel L K H channelId)) store :=
    (ensures_observe (fun _ _ step => step) ⟨standing, trivial⟩ (gives_true _)).mono
      fun _ _ unchanged => unchanged.1 ▸ alike
  apply Attempt.ensures_perform selected
  intro found after alike
  cases found with
  | ok keyset => exact alike
  | noReturn => exact alike
  | err error =>
      apply Attempt.ensures_perform (proceeds_refreshKeysets mintUnit.1 alike)
      intro refreshed after alike
      exact alike

/-! ## Submission -/

/-- A prepared close of a stored channel. -/
def PreparedFor (H : ConfigurableHost T σ) (store : σ) (channelId : String) (balance : Nat)
    (prep : PreparedClose T) : Prop :=
  ∃ funding, (H.storage.view store channelId).funding = some funding ∧
    Carried funding channelId balance prep

/-- Submitting a close changes no channel. -/
theorem proceeds_submitClose (channelId : String) (closing : ClosingData)
    (alike : Alike L laws store current) :
    Proceeds L laws operation origin
      (fun result after => Alike L laws store after ∧ ∀ success, result = .ok success →
        PreparedFor H store channelId closing.balance success.attempt)
      (submitClose L K H channelId closing) current := by
  have reading : ∀ {ε α : Type} {good : α → Prop} {reading : Reading σ ε α} {state : σ},
      Alike L laws store state → Gives (At state) good reading →
      Proceeds L laws operation origin
        (fun result after => Alike L laws store after ∧ ∀ value, result = .ok value → good value)
        (observe reading) state :=
    fun alike gives => (ensures_observe (fun _ _ step => step) ⟨alike.standing, trivial⟩ gives).mono
      fun _ _ ends => ⟨ends.1 ▸ alike, ends.2⟩
  apply ensures_withActiveKeysetRetry ?_ alike
  constructor
  case select =>
    intro state alike
    exact (reading alike (gives_true _)).mono fun _ _ ends => ends.1
  case prepare =>
    intro selected state alike
    apply reading alike
    apply gives_mapErr
    refine (gives_prepareCloseForClosingChannelWithKeyset _ _ _ _).mono ?_
    rintro prep ⟨funding, stored, carried⟩
    have sameFunding := congrArg ChannelView.funding (alike.same channelId)
    exact ⟨funding, sameFunding.symm.trans stored, carried⟩
  case submit =>
    intro prep state alike
    refine ⟨⟨alike.standing, trivial⟩, ?_⟩
    intro answer after step
    obtain rfl : after = state := step
    exact alike
  case refresh =>
    intro prep state alike
    apply Program.Ensures.bind
    apply Program.Ensures.bind
    exact proceeds_refreshKeysets prep.mintUrl alike
  case cleanup =>
    intro prep error state alike
    exact alike

/-! ## Payout -/

/-- What is stored of a completed close is what it has paid. -/
theorem paidOut_of_completePreparedClose (laws : L.Unblinds) {host : Host T T.Text}
    {respJson : T.Text} {prep : PreparedClose T} {completed : CompletedClose T}
    {funding : ChannelFunding T} {channelId : String} {balance : Nat}
    (carried : Carried funding channelId balance prep)
    (isCompleted : completePreparedClose L host respJson prep = .ok completed) :
    completed.channelId = channelId ∧ PaidOut L funding (closedDataOf completed) := by
  obtain ⟨c⟩ := completePreparedClose_eq_ok_iff.mp isCompleted
  obtain ⟨⟨search, found, nominal⟩, total, -, -⟩ := c.exactPayout laws
  have isParams := (PreparedClose.readsParams_iff carried.params carried.keysetInfo
    carried.secret).mp c.readsParams
  have balanced : completed.balance = prep.balance :=
    congrArg CompletedClose.balance c.completed_eq
  have named : completed.channelId = prep.channelId :=
    congrArg CompletedClose.channelId c.completed_eq
  -- What stage 1 leaves is a machine integer, so that the stored sum has not wrapped.
  have small : (completed.receiverSum + completed.senderSum) % 2 ^ 64 =
      completed.receiverSum + completed.senderSum :=
    Nat.mod_eq_of_lt (deterministicValueAfterFees_lt total)
  rw [← balanced] at found
  exact ⟨named.trans carried.channelId, c.params, search, isParams, balanced.le.trans c.within,
    found, nominal, small, total.trans (congrArg Outcome.ok small.symm)⟩

variable (L) in
/-- How a call may end: as in `Lands`, except that a call which succeeds may have closed
channels. -/
structure Ends (laws : H.storage.Laws) (fits : Prop) (origin : σ) {ε α : Type}
    (result : Outcome ε α) (after : σ) : Prop where
  standing : Standing L laws after
  paid : fits → AllPaid H origin → AllPaid H after
  noneClosed : result.isOk = false → ∀ channelId,
    (H.storage.view after channelId).IsClosed → (H.storage.view origin channelId).IsClosed

theorem Lands.ends {ε α : Type} (lands : Lands L laws fits origin after)
    (result : Outcome ε α) : Ends L laws fits origin result after :=
  ⟨lands.standing, lands.paid, fun _ => lands.noneClosed⟩

variable (L) in
/-- A call that ends as it may. -/
abbrev Executes (laws : H.storage.Laws) (operation : Operation T) (origin : σ) (fits : Prop)
    {ε α : Type} (call : Call T σ ε α) (store : σ) : Prop :=
  Proceeds L laws operation origin (Ends L laws fits origin) call store

/-- Marking a closing channel closed fails without a trace, or succeeds. -/
theorem proceeds_markChannelClosed {completed : CompletedClose T} {funding : ChannelFunding T}
    (lands : Lands L laws fits origin store)
    (isClosing : (H.storage.view store completed.channelId).state = .ok (some .closing))
    (stored : (H.storage.view store completed.channelId).funding = some funding)
    (paidOut : PaidOut L funding (closedDataOf completed)) :
    Proceeds L laws operation origin
      (fun answer after => answer ≠ .ok () ∧ Lands L laws fits origin after ∨
        answer = .ok () ∧ Standing L laws after ∧ (fits → AllPaid H origin → AllPaid H after))
      (markChannelClosed completed) store := by
  have justified : Justified L H operation origin
      (.markClosed completed.channelId (closedDataOf completed)) store :=
    ⟨isClosing, funding, stored, paidOut⟩
  refine ⟨⟨lands.standing, justified⟩, ?_⟩
  intro answer after step
  have standing : Standing L laws after := lands.standing.step justified step
  obtain ⟨rfl, rfl⟩ := Prod.mk.inj step
  obtain ⟨-, ⟨notOk, unchanged⟩ | ⟨isOk, -, changes⟩⟩ :=
    laws.markClosed completed.channelId (closedDataOf completed) lands.standing.wellFormed
  · exact .inl ⟨notOk, unchanged.symm ▸ lands⟩
  · refine .inr ⟨isOk, standing, fun fit before => ?_⟩
    apply (lands.paid fit before).of_changes changes
    rintro (⟨⟨⟩⟩ | ⟨⟨⟩⟩)

theorem executes_finalizeClose (unblinds : L.Unblinds) {respJson : T.Text}
    {prep : PreparedClose T} {channelId : String} {balance : Nat}
    (lands : Lands L laws fits origin store) (prepared : PreparedFor H store channelId balance prep) :
    Executes L laws operation origin fits (finalizeClose L K H respJson prep) store := by
  obtain ⟨funding, stored, carried⟩ := prepared
  apply proceeds_observe lands.standing fun _ _ => lands.ends _
  apply gives_look
  intro now
  apply Attempt.ensures_lift fun _ _ => lands.ends _
  intro completed isCompleted
  obtain ⟨rfl, paidOut⟩ := paidOut_of_completePreparedClose unblinds carried isCompleted
  apply proceeds_observe lands.standing fun _ _ => lands.ends _
  refine (gives_checkClosing _).mono ?_
  intro _ isClosing
  apply Attempt.ensures_perform (proceeds_markChannelClosed lands isClosing stored paidOut)
  rintro answer after (⟨notOk, lands⟩ | ⟨rfl, standing, paid⟩)
  · cases answer with
    | ok done => exact absurd rfl notOk
    | error message => exact lands.ends _
  · exact ⟨standing, paid, by rintro ⟨⟩⟩

/-- A close of a closing channel, from wherever it has become that. -/
theorem executes_executeCloseForClosingChannel (unblinds : L.Unblinds) {channelId : String}
    (lands : Lands L laws fits origin store) :
    Executes L laws operation origin fits (executeCloseForClosingChannel L K H channelId)
      store := by
  apply proceeds_observe lands.standing fun _ _ => lands.ends _
  refine (gives_checkClosing _).mono ?_
  intro _ _
  apply proceeds_observe lands.standing fun _ _ => lands.ends _
  apply gives_look
  intro _
  apply Attempt.ensures_lift fun _ _ => lands.ends _
  intro closing _
  apply Attempt.ensures_part (proceeds_ensureCloseKeysetsCached channelId lands.standing)
    fun _ _ alike _ _ => (alike.lands lands).ends _
  intro _ cached alike
  have submitted : Proceeds L laws operation origin
      (fun result after => Alike L laws store after ∧ ∀ success, result = .ok success →
        PreparedFor H store channelId closing.balance success.attempt)
      ((submitClose L K H channelId closing).mapErr closeRetryResult) cached := by
    apply Program.Ensures.bind
    apply (proceeds_submitClose channelId closing alike).mono
    intro result after ends
    exact ⟨ends.1, fun success isOk => ends.2 success (Outcome.mapErr_eq_ok.mp isOk)⟩
  apply Attempt.ensures_part submitted fun _ _ ends _ _ => (ends.1.lands lands).ends _
  rintro success answered ⟨alike, prepared⟩
  apply executes_finalizeClose unblinds (alike.lands lands)
  obtain ⟨funding, stored, carried⟩ := prepared success rfl
  exact ⟨funding, (congrArg ChannelView.funding (alike.same _)).trans stored, carried⟩

/-! ## Starting a close -/

theorem remains_markPreparedCloseClosing {transition : PreparedCloseTransition T}
    (lands : Lands L laws fits origin store)
    (closable : Closable H store transition.preparedClose.channelId)
    (closes : operation.Closes L H origin transition.preparedClose.channelId transition.payment)
    (kept : ∀ payment, (H.storage.view store transition.preparedClose.channelId).ClosingWith
      payment → (H.storage.view origin transition.preparedClose.channelId).ClosingWith payment) :
    Remains L laws operation origin fits (markPreparedCloseClosing transition) store := by
  obtain ⟨⟨state, isState, notClosed⟩, -⟩ := closable
  have isState : (H.storage.view store transition.preparedClose.channelId).state =
      .ok (some state) := isState
  have known : (H.storage.view store transition.preparedClose.channelId).state ≠ .ok none := by
    rw [isState]
    rintro ⟨⟩
  have marked : Remains L laws operation origin fits (markChannelClosing
      transition.preparedClose.channelId transition.expiryTimestamp transition.payment) store := by
    have justified : Justified L H operation origin (.markClosing
        transition.preparedClose.channelId ⟨transition.expiryTimestamp, transition.payment.balance,
          transition.payment.signature⟩) store := ⟨known, closes, kept⟩
    refine ⟨⟨lands.standing, justified⟩, ?_⟩
    intro answer after step
    have standing : Standing L laws after := lands.standing.step justified step
    obtain ⟨-, rfl⟩ := Prod.mk.inj step
    obtain ⟨-, ⟨-, unchanged⟩ | ⟨-, -, changes⟩⟩ := laws.markClosing
      transition.preparedClose.channelId ⟨transition.expiryTimestamp, transition.payment.balance,
        transition.payment.signature⟩ lands.standing.wellFormed
    · exact unchanged.symm ▸ lands
    · apply lands.of_changes standing changes
      · -- An open or closing channel had a payment already.
        intro paid _
        apply paid
        rw [isState]
        cases state with
        | opened => exact .inl rfl
        | closing => exact .inr rfl
        | closed => exact absurd rfl notClosed
      · exact .inl (by rintro ⟨⟩)
  apply Attempt.ensures_perform marked
  intro answer after lands
  exact lands

variable (L) in
/-- A call has landed, and started no close. -/
structure Recorded (laws : H.storage.Laws) (fits : Prop) (origin after : σ) : Prop where
  lands : Lands L laws fits origin after
  kept : ∀ channelId payment, (H.storage.view after channelId).ClosingWith payment →
    (H.storage.view origin channelId).ClosingWith payment

theorem proceeds_recordCooperativeCloseFirstUseFunding (trips : L.RoundTrips) {text : T.Text}
    (standing : Standing L laws origin)
    (fit : fits → ∀ payment, parsePayment L text = .ok payment → FirstFits laws origin payment) :
    Proceeds L laws operation origin (fun _ => Recorded L laws fits origin)
      (recordCooperativeCloseFirstUseFunding L K H text) origin := by
  have lands : Recorded L laws fits origin origin := ⟨.refl standing, fun _ _ closing => closing⟩
  apply Attempt.ensures_lift fun _ _ => lands
  intro p parsed
  rw [Outcome.mapErr_eq_ok] at parsed
  by_cases blank : p.channelId = "" ∨ p.signature = ""
  · rw [if_pos blank]
    exact lands
  · rw [if_neg blank]
    have signed : p.signature ≠ "" := fun empty => blank (.inr empty)
    apply proceeds_observe standing fun _ _ => lands
    apply gives_look
    intro now
    apply Attempt.ensures_lift fun _ _ => lands
    intro state isState
    rw [Outcome.mapErr_eq_ok, Outcome.ofExcept_eq_ok] at isState
    cases state with
    | some held => exact lands
    | none =>
        cases p.params with
        | none => exact lands
        | some params =>
            cases p.fundingProofs with
            | none => exact lands
            | some proofs =>
                apply proceeds_register trips standing (fun _ _ => lands) isState signed
                  (gives_mapErr (gives_validateNewChannelFunding _ _ _ _ _))
                intro validated after registered
                refine ⟨registered.lands fun fits => fit fits p parsed isState, ?_⟩
                intro channelId payment closing
                rcases registered.others channelId with same | isOpen
                · exact same ▸ closing
                · have impossible := isOpen.symm.trans closing.1
                  cases impossible

theorem executes_executeCooperativeClose (trips : L.RoundTrips) (unblinds : L.Unblinds)
    {text : T.Text} (standing : Standing L laws origin)
    (fit : fits → ∀ payment, parsePayment L text = .ok payment → FirstFits laws origin payment) :
    Executes L laws (.executeCooperativeClose text) origin fits
      (executeCooperativeClose L K H text) origin := by
  apply Attempt.ensures_part (proceeds_recordCooperativeCloseFirstUseFunding trips standing fit)
    fun _ _ recorded _ _ => recorded.lands.ends _
  rintro _ recorded ⟨lands, kept⟩
  apply proceeds_observe lands.standing fun _ _ => lands.ends _
  apply gives_mapErr
  refine (gives_prepareCooperativeCloseTransition _).mono ?_
  rintro transition ⟨closes, closable⟩
  have marked : Remains L laws (.executeCooperativeClose text) origin fits
      (markPreparedCloseClosing transition) recorded :=
    remains_markPreparedCloseClosing lands closable closes (kept _)
  apply Attempt.ensures_part marked fun _ _ lands _ _ => lands.ends _
  intro _ marked lands
  exact executes_executeCloseForClosingChannel unblinds lands

theorem executes_executeUnilateralClose (unblinds : L.Unblinds) {channelId : String}
    (standing : Standing L laws origin) :
    Executes L laws (.executeUnilateralClose channelId) origin fits
      (executeUnilateralClose L K H channelId) origin := by
  have lands : Lands L laws fits origin origin := .refl standing
  apply proceeds_observe standing fun _ _ => lands.ends _
  apply gives_mapErr
  refine (gives_prepareUnilateralCloseTransition _).mono ?_
  rintro transition ⟨rfl, isPayment, closable⟩
  have marked : Remains L laws (.executeUnilateralClose transition.preparedClose.channelId) origin
      fits (markPreparedCloseClosing transition) origin :=
    remains_markPreparedCloseClosing lands closable ⟨rfl, isPayment⟩ fun _ closing => closing
  apply Attempt.ensures_part marked fun _ _ lands _ _ => lands.ends _
  intro _ marked lands
  exact executes_executeCloseForClosingChannel unblinds lands

/-! ## Every call -/

/-- The call has returned a success. -/
def Reply.isOk : Reply T → Bool
  | .payment result => result.isOk
  | .funding result => result.isOk
  | .close result => result.isOk
  | .keyset _ => true

variable (L) in
/-- The store can hold the first payment of each channel that a call brings. -/
def Fits (laws : H.storage.Laws) (operation : Operation T) (origin : σ) : Prop :=
  ∀ payment, operation.Brings L payment → FirstFits laws origin payment

variable (L) in
/-- How every call returns. -/
structure Returns (laws : H.storage.Laws) (operation : Operation T) (origin : σ)
    (reply : Reply T) (after : σ) : Prop where
  standing : Standing L laws after
  paid : Fits L laws operation origin → AllPaid H origin → AllPaid H after
  noneClosed : reply.isOk = false → ∀ channelId, (H.storage.view after channelId).IsClosed →
    (H.storage.view origin channelId).IsClosed

/-- **A call that runs alone makes justified steps only**, and returns as it should. -/
theorem proceeds_operation (trips : L.RoundTrips) (unblinds : L.Unblinds)
    (operation : Operation T) (standing : Standing L laws origin) :
    Proceeds L laws operation origin (Returns L laws operation origin)
      (operation.program L K H) origin := by
  cases operation with
  | processPayment payment context =>
      apply Program.Ensures.bind
      have fit : Fits L laws (.processPayment payment context) origin →
          FirstFits laws origin payment := fun fits => fits payment rfl
      apply (remains_processPayment trips standing fit).mono
      intro result after lands
      exact ⟨lands.standing, lands.paid, fun _ => lands.noneClosed⟩
  | fundChannel payment =>
      apply Program.Ensures.bind
      have fit : Fits L laws (.fundChannel payment) origin → FirstFits laws origin payment :=
        fun fits => fits payment rfl
      apply (remains_fundChannel trips standing fit).mono
      intro result after lands
      exact ⟨lands.standing, lands.paid, fun _ => lands.noneClosed⟩
  | executeCooperativeClose text =>
      apply Program.Ensures.bind
      apply (executes_executeCooperativeClose trips unblinds standing id).mono
      intro result after ends
      exact ⟨ends.standing, ends.paid, ends.noneClosed⟩
  | executeUnilateralClose channelId =>
      apply Program.Ensures.bind
      apply (executes_executeUnilateralClose unblinds standing).mono
      intro result after ends
      exact ⟨ends.standing, ends.paid, ends.noneClosed⟩
  | executeCloseForClosingChannel channelId =>
      apply Program.Ensures.bind
      apply (executes_executeCloseForClosingChannel unblinds (.refl standing)).mono
      intro result after ends
      exact ⟨ends.standing, ends.paid, ends.noneClosed⟩
  | setKeyset mint id entry =>
      have justified : Justified L H (.setKeyset mint id entry) origin (.setKeyset mint id entry)
          origin := trivial
      refine ⟨⟨standing, justified⟩, ?_⟩
      intro answer after step
      have standing' : Standing L laws after := standing.step justified step
      obtain ⟨-, rfl⟩ := Prod.mk.inj step
      have same := (laws.setKeyset mint id entry standing.wellFormed).2
      refine ⟨standing', fun _ paid channelId => ?_, by rintro ⟨⟩⟩
      rw [same]
      exact paid channelId

end Bridge

end Spilman
