/-
# What calls can ask for

Next to other calls, a call may see a different store at every look. Whatever it sees,
there are steps that it does not take: only a payment counts usage, and only payments
that are signed are stored. A payment is stored before its usage is counted, which is
the last step of its call (`Recording`).
-/

import Spilman.Bridge.Readings

namespace Spilman

open Lib

variable {T : Carriers} {σ : Type}

/-- A step that counts no usage, and stores certain payments only. -/
def Request.Stores (fine : String → PaymentProof → Prop) : Request T → Prop
  | incrementUsage _ _ => False
  | updateBalance channelId payment => fine channelId payment
  | _ => True

/-- A step that counts no usage, and stores no payment that is not signed. -/
abbrev Request.Plain : Request T → Prop := Request.Stores fun _ payment => payment.signature ≠ ""

namespace Bridge

variable {L : Cashu T} {K : KeyOps T} {H : ConfigurableHost T σ} {ε α β : Type}

/-! ## Readings at any time -/

theorem gives_anytime_look (good : Host T T.Text → Prop) (each : ∀ host, good host) :
    Gives anytime good (look L K H : Reading σ ε _) := by
  intro moment _ value _
  exact each value

theorem gives_anytime_validatePaymentRequest (channelId signature : String) :
    Gives anytime (fun _ => signature ≠ "")
      (validatePaymentRequest L K H channelId signature) := by
  apply gives_bind
  apply gives_anytime_look
  intro host
  apply gives_lift
  intro state passed
  exact (validatePaymentRequest_eq_ok_iff.mp passed).2.1

theorem gives_anytime_validateNewChannelFunding (channelId : String) (paramsVal : Json)
    (proofs : List (Proof T)) (balance : Nat) (signature : String) :
    Gives anytime (fun validated => validated.channelId = channelId ∧
        validated.payment = ⟨balance, signature⟩)
      (validateNewChannelFunding L K H channelId paramsVal proofs balance signature) := by
  apply gives_skip
  intro _
  apply gives_skip
  intro _
  apply gives_skip
  intro _
  apply gives_lift
  intro validated accepted
  exact (acceptance_of_validate accepted).2

theorem gives_anytime_validatePayment (channelId : String) (balance : Nat) (signature : String)
    (context : T.Text) :
    Gives anytime (fun result => signature ≠ "" ∧ result.channelId = channelId ∧
        result.balance = balance ∧ result.senderSignature = signature)
      (validatePayment L K H channelId balance signature context) := by
  apply gives_skip
  intro _
  apply gives_skip
  intro _
  apply gives_skip
  intro _
  apply gives_lift
  intro result accepted
  obtain ⟨funding, capacity, opened, -, -, -, -, rfl⟩ := validatePayment_eq_ok_iff.mp accepted
  exact ⟨(openFunding_eq_ok_iff.mp opened).2.1, rfl, rfl, rfl⟩

/-! ## Calls that count no usage -/

section Stores

variable {fine : String → PaymentProof → Prop}

theorem asks_observe (reading : Reading σ ε α) :
    Program.Asks (Request.Stores fine) (observe reading : Call T σ ε α) :=
  Program.asks_embed (fun _ => trivial) reading

/-- What is asked for may depend on what was read. -/
theorem asks_observe_bind {reading : Reading σ ε α} {rest : α → Call T σ ε β}
    (gives : Gives anytime (fun value => Program.Asks (Request.Stores fine) (rest value))
      reading) :
    Program.Asks (Request.Stores fine) (observe reading >>= rest : Call T σ ε β) := by
  induction reading with
  | done result =>
      cases result with
      | ok value => exact gives value rfl
      | err error => trivial
      | noReturn => trivial
  | call _ next ih => exact ⟨trivial, fun moment => ih moment (gives moment trivial)⟩

theorem asks_recordValidatedNewChannel {validated : ValidatedNewChannel T}
    (isFine : fine validated.channelId validated.payment) :
    Program.Asks (Request.Stores fine)
      (recordValidatedNewChannel validated : Program (requests T σ) Unit) := by
  refine ⟨trivial, ?_⟩
  intro answer
  cases answer with
  | error message => trivial
  | ok done => exact ⟨isFine, fun _ => trivial⟩

/-- Validating a new channel, and recording what was validated. -/
theorem asks_register {reading : Reading σ ε (ValidatedNewChannel T)}
    {rest : ValidatedNewChannel T → Call T σ ε β} {channelId : String} {payment : PaymentProof}
    (isFine : fine channelId payment)
    (gives : Gives anytime
      (fun validated => validated.channelId = channelId ∧ validated.payment = payment) reading)
    (next : ∀ validated, Program.Asks (Request.Stores fine) (rest validated)) :
    Program.Asks (Request.Stores fine)
      (observe reading >>= fun validated =>
        (Attempt.perform (recordValidatedNewChannel validated) : Call T σ ε Unit) >>= fun _ =>
          rest validated : Call T σ ε β) := by
  apply asks_observe_bind
  apply gives.mono
  rintro validated ⟨rfl, rfl⟩
  exact Attempt.asks_bind (Attempt.asks_perform (asks_recordValidatedNewChannel isFine))
    fun _ => next validated

theorem asks_recordNewChannel {missingParams missingProofs : BridgeError} {payment : Payment T}
    (isFine : fine payment.channelId ⟨payment.balance, payment.signature⟩) :
    Program.Asks (Request.Stores fine)
      (recordNewChannel L K H missingParams missingProofs payment) := by
  apply Attempt.asks_bind (Attempt.asks_lift _)
  intro params
  apply Attempt.asks_bind (Attempt.asks_lift _)
  intro proofs
  exact asks_register isFine (gives_anytime_validateNewChannelFunding _ _ _ _ _) fun _ => trivial

end Stores

theorem asks_fundChannel (payment : Payment T) :
    Program.Asks Request.Plain (fundChannel L K H payment) := by
  apply asks_observe_bind
  refine (gives_anytime_validatePaymentRequest _ _).mono ?_
  intro state signed
  by_cases known : state.isSome = true
  · rw [if_pos known]
    exact asks_observe _
  · rw [if_neg known]
    apply Attempt.asks_bind (asks_recordNewChannel signed)
    intro validated
    apply Attempt.asks_bind (Attempt.asks_lift _)
    intro capacity
    trivial

theorem asks_cacheKeysets (keysets : List (FetchedKeyset T)) :
    Program.Asks Request.Plain (cacheKeysets keysets : Program (requests T σ) Unit) := by
  induction keysets with
  | nil => trivial
  | cons fetched rest ih => exact ⟨trivial, fun _ => ih⟩

theorem asks_refreshKeysets (mint : String) :
    Program.Asks Request.Plain
      (refreshKeysets mint : Program (requests T σ) (Except String Unit)) :=
  ⟨trivial, fun answer => (asks_cacheKeysets answer.1).bind fun _ => trivial⟩

theorem asks_ensureCloseKeysetsCached (channelId : String) :
    Program.Asks Request.Plain (ensureCloseKeysetsCached L K H channelId) := by
  apply Attempt.asks_bind (asks_observe _)
  intro host
  apply Attempt.asks_bind (Attempt.asks_lift _)
  intro mintUnit
  apply Attempt.asks_bind (Attempt.asks_perform (asks_observe _))
  intro selected
  cases selected with
  | ok keyset => trivial
  | noReturn => trivial
  | err error =>
      apply Attempt.asks_bind (Attempt.asks_perform (asks_refreshKeysets _))
      intro refreshed
      trivial

theorem asks_submitClose (channelId : String) (closing : ClosingData) :
    Program.Asks Request.Plain (submitClose L K H channelId closing) := by
  apply asks_withActiveKeysetRetry
  case selects => exact asks_observe _
  case prepares => exact fun _ => asks_observe _
  case submits => exact fun _ => ⟨trivial, fun _ => trivial⟩
  case refreshes =>
    intro prep
    exact Attempt.asks_perform ((asks_refreshKeysets _).bind fun _ => trivial)
  case cleans => exact fun _ _ => trivial

theorem asks_markChannelClosed (completed : CompletedClose T) :
    Program.Asks Request.Plain
      (markChannelClosed completed : Program (requests T σ) (Except String Unit)) :=
  ⟨trivial, fun _ => trivial⟩

theorem asks_executeCloseForClosingChannel (channelId : String) :
    Program.Asks Request.Plain (executeCloseForClosingChannel L K H channelId) := by
  apply Attempt.asks_bind (asks_observe _)
  intro _
  apply Attempt.asks_bind (asks_observe _)
  intro host
  apply Attempt.asks_bind (Attempt.asks_lift _)
  intro closing
  apply Attempt.asks_bind (asks_ensureCloseKeysetsCached channelId)
  intro _
  apply Attempt.asks_bind (Attempt.asks_mapErr (asks_submitClose channelId closing))
  intro success
  apply Attempt.asks_bind (asks_observe _)
  intro host
  apply Attempt.asks_bind (Attempt.asks_lift _)
  intro completed
  apply Attempt.asks_bind (asks_observe _)
  intro _
  apply Attempt.asks_bind (Attempt.asks_perform (asks_markChannelClosed completed))
  intro stored
  apply Attempt.asks_bind (Attempt.asks_lift _)
  intro _
  trivial

theorem asks_markPreparedCloseClosing (transition : PreparedCloseTransition T) :
    Program.Asks Request.Plain (markPreparedCloseClosing transition : Call T σ CloseError Unit) :=
  Attempt.asks_bind (Attempt.asks_perform ⟨trivial, fun _ => trivial⟩) fun _ =>
    Attempt.asks_lift _

theorem asks_recordCooperativeCloseFirstUseFunding (text : T.Text) :
    Program.Asks Request.Plain (recordCooperativeCloseFirstUseFunding L K H text) := by
  apply Attempt.asks_bind (Attempt.asks_lift _)
  intro p
  by_cases blank : p.channelId = "" ∨ p.signature = ""
  · rw [if_pos blank]
    trivial
  · rw [if_neg blank]
    have signed : p.signature ≠ "" := fun empty => blank (.inr empty)
    apply Attempt.asks_bind (asks_observe _)
    intro host
    apply Attempt.asks_bind (Attempt.asks_lift _)
    intro state
    cases state with
    | some held => trivial
    | none =>
        cases p.params with
        | none => trivial
        | some params =>
            cases p.fundingProofs with
            | none => trivial
            | some proofs =>
                exact asks_register signed
                  (gives_mapErr (gives_anytime_validateNewChannelFunding _ _ _ _ _))
                  fun _ => trivial

/-- **Only payments count usage.** -/
theorem asks_operation {operation : Operation T}
    (other : ∀ payment context, operation ≠ .processPayment payment context) :
    Program.Asks Request.Plain (operation.program L K H) := by
  cases operation with
  | processPayment payment context => exact absurd rfl (other payment context)
  | fundChannel payment => exact (asks_fundChannel payment).bind fun _ => trivial
  | executeCooperativeClose text =>
      refine Program.Asks.bind ?_ fun _ => trivial
      apply Attempt.asks_bind (asks_recordCooperativeCloseFirstUseFunding text)
      intro _
      apply Attempt.asks_bind (asks_observe _)
      intro transition
      apply Attempt.asks_bind (asks_markPreparedCloseClosing transition)
      intro _
      exact asks_executeCloseForClosingChannel _
  | executeUnilateralClose channelId =>
      refine Program.Asks.bind ?_ fun _ => trivial
      apply Attempt.asks_bind (asks_observe _)
      intro transition
      apply Attempt.asks_bind (asks_markPreparedCloseClosing transition)
      intro _
      exact asks_executeCloseForClosingChannel channelId
  | executeCloseForClosingChannel channelId =>
      exact (asks_executeCloseForClosingChannel channelId).bind fun _ => trivial
  | setKeyset mint id entry => exact ⟨trivial, fun _ => trivial⟩

/-! ## Payments -/

/-- How far a payment has come. -/
inductive Stage
  | validating
  | stored
  | counted
  deriving DecidableEq, Repr

/-- How a payment advances, if storing it succeeds. -/
def stages : Program.Behaviour (requests T σ) Stage
  | .updateBalance _ _, _, answer, after => answer = .ok () ∧ after = .stored
  | .incrementUsage _ _, _, _, after => after = .counted
  | .look, stage, _, after => after = stage
  | .saveFunding _ _, stage, _, after => after = stage
  | .markClosing _ _, stage, _, after => after = stage
  | .markClosed _ _, stage, _, after => after = stage
  | .setKeyset _ _ _, stage, _, after => after = stage
  | .callMintSwap _ _, stage, _, after => after = stage
  | .refresh _, stage, _, after => after = stage

variable (L) in
/-- What a payment may ask for at a stage. It stores itself, and counts its usage last. -/
def Recording (payment : Payment T) (context : T.Text) : Request T → Stage → Prop
  | .updateBalance channelId proof, stage => stage ≠ .counted ∧ channelId = payment.channelId ∧
      proof = ⟨payment.balance, payment.signature⟩ ∧ payment.signature ≠ ""
  | .incrementUsage channelId increments, stage => stage = .stored ∧
      channelId = payment.channelId ∧ usageOfText L context = some increments
  | _, stage => stage ≠ .counted

variable (L) in
/-- A payment succeeds if all of it was recorded, and only then has usage been counted. -/
def EndsRecorded {α : Type} (context : T.Text) (result : Outcome ε α) (stage : Stage) : Prop :=
  (result.isOk = true → stage = .counted ∨ stage = .stored ∧ usageOfText L context = none) ∧
    (result.isOk = false → stage ≠ .counted)

/-- No usage has been counted yet. -/
def Stage.Early (stage : Stage) : Prop := stage ≠ .counted

section Recording

variable {payment : Payment T} {context : T.Text} {stage : Stage}

/-- A part that stores nothing but the payment. -/
theorem recording_of_asks {program : Program (requests T σ) α}
    (signed : payment.signature ≠ "")
    (asks : program.Asks (Request.Stores fun channelId proof =>
      channelId = payment.channelId ∧ proof = ⟨payment.balance, payment.signature⟩))
    (early : stage.Early) :
    program.Ensures stages (Recording L payment context) (fun _ => Stage.Early) stage := by
  apply asks.ensures _ _ early
  · intro request stage fine early
    cases request with
    | incrementUsage channelId increments => exact fine.elim
    | updateBalance channelId proof => exact ⟨early, fine.1, fine.2, signed⟩
    | _ => exact early
  · intro request stage answer after fine early step
    cases request with
    | incrementUsage channelId increments => exact fine.elim
    | updateBalance channelId proof =>
        obtain ⟨-, rfl⟩ := step
        rintro ⟨⟩
    | _ =>
        obtain rfl := step
        exact early

/-- The payment is stored, and then its usage is counted. -/
theorem recording_recordPayment (signed : payment.signature ≠ "") (early : stage.Early) :
    Program.Ensures stages (Recording L payment context)
      (fun _ after => after = .counted ∨ after = .stored ∧ usageOfText L context = none)
      (recordPayment L payment.channelId ⟨payment.balance, payment.signature⟩ context :
        Program (requests T σ) Unit) stage := by
  refine ⟨⟨early, rfl, rfl, signed⟩, ?_⟩
  rintro answer after ⟨rfl, rfl⟩
  show Program.Ensures _ _ _ (applyUsageIncrements L payment.channelId context) _
  unfold applyUsageIncrements
  cases parsed : usageOfText L context with
  | none => exact .inr ⟨rfl, rfl⟩
  | some increments =>
      refine ⟨⟨rfl, rfl, parsed⟩, ?_⟩
      rintro _ after rfl
      exact .inl rfl

/-- **A payment that succeeds was stored, and its usage counted last**, if storing it does not
fail. -/
theorem recording_processPayment :
    Program.Ensures stages (Recording L payment context) (EndsRecorded L context)
      (processPayment L K H payment context) .validating := by
  have unrecorded : ∀ {stage : Stage}, stage.Early → ∀ outcome : Outcome BridgeError PaymentSuccess,
      outcome.isOk = false → EndsRecorded L context outcome stage := by
    intro stage early outcome failed
    refine ⟨?_, fun _ => early⟩
    intro succeeded
    rw [failed] at succeeded
    cases succeeded
  have looking : ∀ (stage : Stage) (moment : Moment σ) (after : Stage),
      stages (T := T) .look stage moment after → anytime moment ∧ after = stage :=
    fun _ _ _ same => ⟨trivial, same⟩
  have validating : Stage.Early .validating := by
    rintro ⟨⟩
  apply ensures_observe_bind (looking _) validating (unrecorded validating)
  refine (gives_anytime_validatePaymentRequest _ _).mono ?_
  intro state signed
  have firstUse : Program.Ensures stages (Recording L payment context) (fun _ => Stage.Early)
      (recordFirstUse L K H payment state) .validating := by
    cases state with
    | some held => exact validating
    | none =>
        apply recording_of_asks signed _ validating
        exact Attempt.asks_bind (asks_recordNewChannel ⟨rfl, rfl⟩) fun _ => trivial
  apply Attempt.ensures_part firstUse fun _ _ early => unrecorded early
  intro _ stage early
  apply ensures_observe_bind (looking _) early (unrecorded early)
  refine (gives_anytime_validatePayment _ _ _ _).mono ?_
  rintro val ⟨signed, isChannel, isBalance, isSignature⟩
  rw [isChannel, isBalance, isSignature]
  apply Attempt.ensures_perform (recording_recordPayment signed early)
  intro _ after recorded
  exact ⟨fun _ => recorded, by rintro ⟨⟩⟩

end Recording

end Bridge

end Spilman
