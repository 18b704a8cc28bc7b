/-
# What calls read

A call that runs alone sees the same store at every look, only the time passes.
`Gives` says what a reading returns then. Each validation and each preparation that a
call consists of is shown to give what the function on a host at one moment gives, or
the part of it that runs depend on.

`behaviour` says what can happen to the store at a step, whatever the environment is.
-/

import Spilman.Bridge.Calls

namespace Spilman

open Lib

variable {T : Carriers} {σ ω ε ε' α β : Type}

/-! ## Steps on a store -/

/-- What a step can answer, and what store it leaves. -/
def behaviour (S : SpilmanStorage T σ) : Program.Behaviour (requests T σ) σ
  | .look, store, moment, after => moment.store = store ∧ after = store
  | .saveFunding channelId funding, store, answer, after =>
      (answer, after) = S.saveFunding store channelId funding
  | .updateBalance channelId payment, store, answer, after =>
      (answer, after) = S.updateBalance store channelId payment
  | .incrementUsage channelId increments, store, answer, after =>
      (answer, after) = S.incrementUsage store channelId increments
  | .markClosing channelId data, store, answer, after =>
      (answer, after) = S.markClosing store channelId data
  | .markClosed channelId data, store, answer, after =>
      (answer, after) = S.markClosed store channelId data
  | .setKeyset mint id entry, store, answer, after =>
      (answer, after) = S.setKeyset store mint id entry
  | .callMintSwap _ _, store, _, after => after = store
  | .refresh _, store, _, after => after = store

theorem follows_serve (S : SpilmanStorage T σ) (E : Environment T ω) :
    Program.Follows (serve S E) World.store (behaviour S) := by
  intro request world
  cases request with
  | look => exact ⟨rfl, rfl⟩
  | _ => rfl

/-- A payment that is stored is signed. -/
def Request.Signed : Request T → Prop
  | updateBalance _ payment => payment.signature ≠ ""
  | _ => True

/-- What a step can do to one channel. -/
inductive Effect {S : SpilmanStorage T σ} (laws : S.Laws) (store : σ) (request : Request T)
    (channelId : String) : ChannelView T → Prop
  | stay : Effect laws store request channelId (S.view store channelId)
  | saveFunding (funding : ChannelFunding T) (asked : request = .saveFunding channelId funding) :
      Effect laws store request channelId ((S.view store channelId).saveFunding funding)
  | updateBalance (payment : PaymentProof) (asked : request = .updateBalance channelId payment) :
      Effect laws store request channelId ((S.view store channelId).updateBalance payment)
  | incrementUsage (increments : UsageMap) (usage : String → Nat)
      (asked : request = .incrementUsage channelId increments)
      (counted : laws.counting store →
        (∀ var, laws.counts ((S.view store channelId).usage var +
          (increments.lookup var).getD 0)) →
        { S.view store channelId with usage := usage } =
          (S.view store channelId).incrementUsage increments) :
      Effect laws store request channelId { S.view store channelId with usage := usage }
  | markClosing (data : ClosingData) (asked : request = .markClosing channelId data)
      (notClosed : ¬ (S.view store channelId).IsClosed) :
      Effect laws store request channelId ((S.view store channelId).markClosing data)
  | markClosed (data : ClosedDataView T) (asked : request = .markClosed channelId data) :
      Effect laws store request channelId ((S.view store channelId).markClosed data)

section Effects

variable {S : SpilmanStorage T σ} {laws : S.Laws} {store after : σ} {request : Request T}

/-- One channel changes, and the others stay as they are. -/
theorem effect_of_changes {channelId : String} {change : ChannelView T → ChannelView T}
    (changes : S.Changes store after channelId change)
    (effect : Effect laws store request channelId (change (S.view store channelId)))
    (other : String) : Effect laws store request other (S.view after other) := by
  by_cases same : other = channelId
  · subst same
    rw [changes.1]
    exact effect
  · rw [changes.2 other same]
    exact .stay

/-- **What a step does.** -/
theorem effect_of_step (formed : laws.wellFormed store) (signed : request.Signed)
    {answer : (requests T σ).Response request} (step : behaviour S request store answer after) :
    laws.wellFormed after ∧
      ∀ channelId, Effect laws store request channelId (S.view after channelId) := by
  have unchanged : after = store → laws.wellFormed after ∧
      ∀ channelId, Effect laws store request channelId (S.view after channelId) := by
    rintro rfl
    exact ⟨formed, fun _ => .stay⟩
  cases request with
  | look => exact unchanged step.2
  | callMintSwap mintUrl swapRequest => exact unchanged step
  | refresh mint => exact unchanged step
  | saveFunding channelId funding =>
      obtain ⟨-, rfl⟩ := Prod.mk.inj step
      obtain ⟨-, formed, changes⟩ := laws.saveFunding channelId funding formed
      exact ⟨formed, effect_of_changes changes (.saveFunding funding rfl)⟩
  | updateBalance channelId payment =>
      obtain ⟨-, rfl⟩ := Prod.mk.inj step
      rcases laws.updateBalance_cases formed channelId signed with
        ⟨-, -, formed, changes⟩ | ⟨-, -, same⟩
      · exact ⟨formed, effect_of_changes changes (.updateBalance payment rfl)⟩
      · exact unchanged same
  | incrementUsage channelId increments =>
      obtain ⟨-, rfl⟩ := Prod.mk.inj step
      obtain ⟨formed', usage, changes⟩ := laws.incrementUsage_frame channelId increments formed
      refine ⟨formed', effect_of_changes changes (.incrementUsage increments usage rfl ?_)⟩
      intro counting counts
      exact changes.1.symm.trans
        (laws.incrementUsage channelId increments formed counting counts).2.1
  | markClosing channelId data =>
      obtain ⟨-, rfl⟩ := Prod.mk.inj step
      obtain ⟨formed, ⟨-, same⟩ | ⟨-, notClosed, changes⟩⟩ :=
        laws.markClosing channelId data formed
      · exact unchanged same
      · exact ⟨formed, effect_of_changes changes (.markClosing data rfl notClosed)⟩
  | markClosed channelId data =>
      obtain ⟨-, rfl⟩ := Prod.mk.inj step
      obtain ⟨formed, ⟨-, same⟩ | ⟨-, -, changes⟩⟩ := laws.markClosed channelId data formed
      · exact unchanged same
      · exact ⟨formed, effect_of_changes changes (.markClosed data rfl)⟩
  | setKeyset mint id entry =>
      obtain ⟨-, rfl⟩ := Prod.mk.inj step
      obtain ⟨formed, same⟩ := laws.setKeyset mint id entry formed
      refine ⟨formed, fun channelId => ?_⟩
      rw [same]
      exact .stay

end Effects

/-! ## What readings give -/

/-- The values that a reading can return are good if it sees only certain moments. -/
def Gives (seen : Moment σ → Prop) (good : α → Prop) :
    Program (looks σ) (Outcome ε α) → Prop
  | .done result => ∀ value, result = .ok value → good value
  | .call _ next => ∀ moment, seen moment → Gives seen good (next moment)

/-- The moments at which there is a given store. -/
def At (store : σ) (moment : Moment σ) : Prop := moment.store = store

/-- All moments. -/
def anytime (_ : Moment σ) : Prop := True

section Gives

variable {seen : Moment σ → Prop}

theorem Gives.mono {good better : α → Prop} {reading : Reading σ ε α}
    (gives : Gives seen good reading) (implies : ∀ value, good value → better value) :
    Gives seen better reading := by
  induction reading with
  | done result => exact fun value returned => implies value (gives value returned)
  | call _ next ih => exact fun moment isSeen => ih _ (gives moment isSeen)

theorem gives_true (reading : Reading σ ε α) : Gives seen (fun _ => True) reading := by
  induction reading with
  | done result => exact fun _ _ => trivial
  | call _ next ih => exact fun moment _ => ih _

theorem gives_lift {good : α → Prop} {call : Outcome ε α}
    (each : ∀ value, call = .ok value → good value) :
    Gives seen good (Attempt.lift call : Reading σ ε α) := each

theorem gives_bind {good : β → Prop} {first : Reading σ ε α} {rest : α → Reading σ ε β}
    (gives : Gives seen (fun value => Gives seen good (rest value)) first) :
    Gives seen good (first >>= rest : Reading σ ε β) := by
  induction first with
  | done result =>
      cases result with
      | ok value => exact gives value rfl
      | err error => rintro _ ⟨⟩
      | noReturn => rintro _ ⟨⟩
  | call _ next ih => exact fun moment isSeen => ih _ (gives moment isSeen)

/-- A part whose value does not matter. -/
theorem gives_skip {good : β → Prop} {first : Reading σ ε α}
    {rest : α → Reading σ ε β} (gives : ∀ value, Gives seen good (rest value)) :
    Gives seen good (first >>= rest : Reading σ ε β) :=
  gives_bind ((gives_true first).mono fun value _ => gives value)

theorem gives_mapErr {good : α → Prop} {f : ε → ε'} {reading : Reading σ ε α}
    (gives : Gives seen good reading) : Gives seen good (reading.mapErr f) := by
  induction reading with
  | done result => exact fun value returned => gives value (Outcome.mapErr_eq_ok.mp returned)
  | call _ next ih => exact fun moment isSeen => ih _ (gives moment isSeen)

variable {τ : Type} {behaviour : Program.Behaviour (requests T σ) τ}
  {allowed : Request T → τ → Prop} {state : τ}

/-- Where looking changes nothing, a reading gives what it gives. -/
theorem ensures_observe
    (looking : ∀ moment after, behaviour .look state moment after → seen moment ∧ after = state)
    (mayLook : allowed .look state) {good : α → Prop} {reading : Reading σ ε α}
    (gives : Gives seen good reading) :
    Program.Ensures behaviour allowed
      (fun result after => after = state ∧ ∀ value, result = .ok value → good value)
      (observe reading : Call T σ ε α) state := by
  induction reading with
  | done result => exact ⟨rfl, gives⟩
  | call _ next ih =>
      refine ⟨mayLook, ?_⟩
      intro moment after step
      obtain ⟨isSeen, rfl⟩ := looking moment after step
      exact ih _ (gives moment isSeen)

/-- A reading, and what comes after a value that it gives. -/
theorem ensures_observe_bind {post : Outcome ε β → τ → Prop}
    (looking : ∀ moment after, behaviour .look state moment after → seen moment ∧ after = state)
    (mayLook : allowed .look state)
    (failed : ∀ outcome, outcome.isOk = false → post outcome state)
    {reading : Reading σ ε α} {rest : α → Call T σ ε β}
    (gives : Gives seen (fun value => Program.Ensures behaviour allowed post (rest value) state)
      reading) :
    Program.Ensures behaviour allowed post (observe reading >>= rest : Call T σ ε β) state := by
  apply Attempt.ensures_part (ensures_observe looking mayLook gives)
  · rintro _ _ ⟨rfl, -⟩
    exact failed
  · rintro value _ ⟨rfl, given⟩
    exact given value rfl

end Gives

namespace Bridge

variable {L : Cashu T} {K : KeyOps T} {H : ConfigurableHost T σ} {store : σ}

theorem gives_look {good : Host T T.Text → Prop}
    (each : ∀ now, good (H.answers L K ⟨store, now⟩)) :
    Gives (At store) good (look L K H : Reading σ ε _) := by
  rintro ⟨_, now⟩ rfl value returned
  obtain rfl := Outcome.ok.inj returned
  exact each now

theorem gives_lookDue {good : (String → Option T.Text → Nat) → Prop}
    (due : good (H.computeAmountDue L store store)) :
    Gives (At store) good (lookDue L H : Reading σ ε _) := by
  rintro ⟨_, _⟩ rfl ⟨_, _⟩ rfl value returned
  obtain rfl := Outcome.ok.inj returned
  exact due

/-! ## Validation -/

theorem gives_validatePaymentRequest (channelId signature : String) :
    Gives (At store) (fun state => channelId ≠ "" ∧ signature ≠ "" ∧
        H.storage.getState store channelId = .ok state ∧ (state = none ∨ state = some .opened))
      (validatePaymentRequest L K H channelId signature) := by
  apply gives_bind
  apply gives_look
  intro now
  apply gives_lift
  intro state passed
  exact validatePaymentRequest_eq_ok_iff.mp passed

theorem gives_validateNewChannelFunding (channelId : String) (paramsVal : Json)
    (proofs : List (Proof T)) (balance : Nat) (signature : String) :
    Gives (At store) (fun validated => ∃ now, Spilman.validateNewChannelFunding L
        (H.answers L K ⟨store, now⟩) channelId paramsVal proofs balance signature = .ok validated)
      (validateNewChannelFunding L K H channelId paramsVal proofs balance signature) := by
  apply gives_bind
  apply gives_look
  intro _
  apply gives_bind
  apply gives_look
  intro _
  apply gives_bind
  apply gives_look
  intro now
  apply gives_lift
  intro validated accepted
  exact ⟨now, accepted⟩

theorem gives_validatePayment (channelId : String) (balance : Nat) (signature : String)
    (context : T.Text) :
    Gives (At store) (fun result => ∃ now, Spilman.validatePayment L (H.answers L K ⟨store, now⟩)
        channelId balance signature context = .ok result)
      (validatePayment L K H channelId balance signature context) := by
  apply gives_bind
  apply gives_look
  intro now
  apply gives_bind
  apply gives_look
  intro _
  apply gives_bind
  apply gives_lookDue
  apply gives_lift
  intro result accepted
  exact ⟨now, accepted⟩

/-! ## Preparation -/

/-- The channel is stored and not closed. -/
def Closable (H : ConfigurableHost T σ) (store : σ) (channelId : String) : Prop :=
  (∃ state, H.storage.getState store channelId = .ok (some state) ∧ state ≠ .closed) ∧
    (H.storage.getFunding store channelId).isSome

theorem gives_prepareCloseData (channelId : String) (balance : Nat) (signature : String)
    (validateDue : Bool) :
    Gives (At store) (fun _ => Closable H store channelId)
      (prepareCloseData L K H channelId balance signature validateDue) := by
  apply gives_bind
  apply gives_look
  intro _
  apply gives_bind
  apply gives_lift
  intro found isFound
  apply gives_bind
  apply gives_lift
  intro _ closable
  apply gives_bind
  apply gives_look
  intro _
  apply gives_bind
  apply gives_lift
  intro funding stored
  have isClosable : Closable H store channelId := by
    rw [Outcome.mapErr_eq_ok, Outcome.ofExcept_eq_ok] at isFound
    rw [Outcome.ofOption_eq_ok] at stored
    refine ⟨?_, Option.isSome_of_eq_some stored⟩
    cases found with
    | none => cases closable
    | some state =>
        refine ⟨state, isFound, ?_⟩
        rintro rfl
        cases closable
  apply gives_skip
  intro _
  exact (gives_true _).mono fun _ _ => isClosable

/-- A request to close with a payment of its own. -/
def RequestsClose (L : Cashu T) (text : T.Text) (channelId : String) (payment : PaymentProof) :
    Prop :=
  ∃ p, parsePayment L text = .ok p ∧ p.channelId = channelId ∧
    (⟨p.balance, p.signature⟩ : PaymentProof) = payment

/-- A transition that is prepared names the channel of its request. -/
theorem gives_prepareCooperativeCloseTransition (text : T.Text) :
    Gives (At store) (fun transition =>
        RequestsClose L text transition.preparedClose.channelId transition.payment ∧
        Closable H store transition.preparedClose.channelId)
      (prepareCooperativeCloseTransition L K H text) := by
  apply gives_bind
  apply gives_bind
  apply gives_lift
  intro json parsed
  apply gives_bind
  apply gives_lift
  intro channelId named
  apply gives_bind
  apply gives_mapErr
  apply gives_bind
  apply gives_lift
  intro p isPayment
  apply gives_skip
  intro _
  apply gives_skip
  intro _
  apply (gives_prepareCloseData _ _ _ _).mono
  intro closeData closable
  apply gives_bind
  apply gives_look
  intro _
  apply gives_skip
  intro funding
  apply gives_lift
  intro prepared wrapped
  rw [Outcome.mapErr_eq_ok, Outcome.ofExcept_eq_ok] at parsed
  rw [Outcome.ofOption_eq_ok] at named
  rw [Outcome.mapErr_eq_ok] at isPayment
  obtain ⟨_, _, -, -, rfl⟩ := wrapCloseData_eq_ok_iff.mp wrapped
  intro transition returned
  obtain rfl := Outcome.ok.inj returned
  -- The request is read twice, once as a payment and once field by field.
  have read := isPayment
  simp only [parsePayment, parsed, Outcome.ofExcept_ok, Outcome.ok_bind, Payment.ofJson,
    Outcome.bind_eq_ok, Outcome.ofOption_eq_ok, Outcome.ofExcept_eq_ok, Outcome.pure_eq,
    Outcome.ok.injEq] at read
  obtain ⟨_, isName, _, isBalance, _, isSignature, _, -, rfl⟩ := read
  obtain rfl := Option.some.inj (named.symm.trans isName)
  refine ⟨⟨_, isPayment, rfl, ?_⟩, closable⟩
  simp only [requestSignature, parsed, isBalance, isSignature, Option.getD_some]

theorem gives_prepareUnilateralCloseTransition (channelId : String) :
    Gives (At store) (fun transition => transition.preparedClose.channelId = channelId ∧
        H.storage.getBalance store channelId = some transition.payment ∧
        Closable H store channelId)
      (prepareUnilateralCloseTransition L K H channelId) := by
  apply gives_bind
  apply gives_bind
  apply gives_mapErr
  apply gives_bind
  apply gives_look
  intro _
  apply gives_skip
  intro _
  apply gives_bind
  apply gives_look
  intro _
  apply gives_skip
  intro _
  apply (gives_prepareCloseData _ _ _ _).mono
  intro closeData closable
  apply gives_bind
  apply gives_look
  intro _
  apply gives_skip
  intro _
  apply gives_bind
  apply gives_look
  intro _
  apply gives_skip
  intro _
  apply gives_lift
  intro prepared wrapped
  obtain ⟨_, _, -, -, rfl⟩ := wrapCloseData_eq_ok_iff.mp wrapped
  apply gives_bind
  apply gives_look
  intro _
  apply gives_bind
  apply gives_lift
  intro payment isPayment transition returned
  obtain rfl := Outcome.ok.inj returned
  rw [Outcome.ofOption_eq_ok] at isPayment
  exact ⟨rfl, isPayment, closable⟩

/-- A prepared close carries the texts of stored funding. -/
structure Carried (funding : ChannelFunding T) (channelId : String) (balance : Nat)
    (prep : PreparedClose T) : Prop where
  channelId : prep.channelId = channelId
  balance : prep.balance = balance
  params : prep.paramsJson = funding.paramsJson
  keysetInfo : prep.keysetInfoJson = funding.keysetInfoJson
  secret : prep.channelSecret = funding.channelSecretHex

theorem gives_prepareCloseForClosingChannelWithKeyset (channelId : String) (balance : Nat)
    (signature : String) (selected : SelectedOutputKeyset T) :
    Gives (At store) (fun prep => ∃ funding, H.storage.getFunding store channelId = some funding ∧
        Carried funding channelId balance prep)
      (prepareCloseForClosingChannelWithKeyset L K H channelId balance signature selected) := by
  apply gives_bind
  apply gives_look
  intro _
  apply gives_skip
  intro _
  apply gives_skip
  intro _
  apply gives_skip
  intro closeData
  apply gives_bind
  apply gives_look
  intro _
  apply gives_bind
  apply gives_lift
  intro funding stored
  apply gives_lift
  intro prep wrapped
  rw [Outcome.ofOption_eq_ok] at stored
  obtain ⟨_, _, -, -, rfl⟩ := wrapCloseData_eq_ok_iff.mp wrapped
  exact ⟨funding, stored, rfl, rfl, rfl, rfl, rfl⟩

theorem gives_checkClosing (channelId : String) :
    Gives (At store) (fun _ => H.storage.getState store channelId = .ok (some .closing))
      (checkClosing L K H channelId) := by
  apply gives_bind
  apply gives_look
  intro _
  apply gives_bind
  apply gives_lift
  intro state isState
  apply gives_lift
  intro _ isClosing
  rw [Outcome.mapErr_eq_ok, Outcome.ofExcept_eq_ok] at isState
  rw [Outcome.guard_eq_ok] at isClosing
  exact isClosing ▸ isState

end Bridge

end Spilman
