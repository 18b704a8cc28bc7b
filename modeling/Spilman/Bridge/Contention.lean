/-
# Payments next to each other

A payment reads the counters of its channel, is checked against them, and counts its own
usage two steps later. Nothing locks the counters in between, so that two payments can be
checked against the same counters and be covered by the same balance.

`dues_covered` says that this is the only way to get more than was paid for: if no payment
counts its usage while another one of the channel is about to be recorded, what is due is
covered by the stored balance at every moment, whatever else is going on.
-/

import Spilman.Bridge.Interleaved
import Spilman.Bridge.Sequences

namespace Spilman

open Lib

variable {T : Carriers} {σ : Type}

/-! ## What payments rely on -/

/-- A step that records a payment of a channel. -/
def Request.Pays (channelId : String) : Request T → Prop
  | updateBalance target _ => target = channelId
  | incrementUsage target _ => target = channelId
  | _ => False

instance Request.decidablePays (channelId : String) :
    ∀ request : Request T, Decidable (request.Pays channelId)
  | .updateBalance _ _ | .incrementUsage _ _ => inferInstanceAs (Decidable (_ = _))
  | .look | .saveFunding _ _ | .markClosing _ _ | .markClosed _ _ | .setKeyset _ _ _
  | .callMintSwap _ _ | .refresh _ => instDecidableFalse

theorem Evolves.refl (view : ChannelView T) : Evolves view view :=
  ⟨fun _ stored => stored, fun _ covers => covers⟩

theorem Evolves.trans {first second third : ChannelView T} (early : Evolves first second)
    (late : Evolves second third) : Evolves first third :=
  ⟨fun funding stored => late.funding funding (early.funding funding stored),
    fun balance covers => late.covers balance (early.covers balance covers)⟩

theorem Evolves.funding_eq {before after : ChannelView T} (evolves : Evolves before after)
    (funded : before.funding.isSome) : after.funding = before.funding := by
  obtain ⟨funding, stored⟩ := Option.isSome_iff_exists.mp funded
  rw [stored]
  exact evolves.funding funding stored

/-- What others may do to a store before a request is served. Where a payment is about to be
recorded, they leave the counters alone. -/
structure Disturbs {S : SpilmanStorage T σ} (laws : S.Laws) (request : Request T)
    (before after : σ) : Prop where
  formed : laws.wellFormed before → laws.wellFormed after
  evolves : ∀ channelId, Evolves (S.view before channelId) (S.view after channelId)
  usage : ∀ channelId, request.Pays channelId →
    (S.view after channelId).usage = (S.view before channelId).usage

section Disturbs

variable {S : SpilmanStorage T σ} {laws : S.Laws} {request : Request T}

theorem Disturbs.refl (request : Request T) (store : σ) : Disturbs laws request store store :=
  ⟨fun formed => formed, fun _ => .refl _, fun _ _ => rfl⟩

theorem Disturbs.trans {first second third : σ} (early : Disturbs laws request first second)
    (late : Disturbs laws request second third) : Disturbs laws request first third :=
  ⟨fun formed => late.formed (early.formed formed),
    fun channelId => (early.evolves channelId).trans (late.evolves channelId),
    fun channelId pays => (late.usage channelId pays).trans (early.usage channelId pays)⟩

end Disturbs

namespace Bridge

variable {L : Cashu T} {K : KeyOps T} {H : ConfigurableHost T σ} {ε α β : Type}
  {store after : σ}

variable (L H) in
/-- A payment that is stored is signed, and usage that is counted is covered. -/
def Affordable : Request T → σ → Prop
  | .updateBalance _ payment, _ => payment.signature ≠ ""
  | .incrementUsage channelId increments, store =>
      (H.storage.view store channelId).funding.isSome ∧
        H.due L ((H.storage.view store channelId).incrementUsage increments) none ≤
          (H.storage.view store channelId).balance
  | _, _ => True

variable (L) in
/-- Whatever others do to a store as they may, the program asks for what is affordable. -/
def Affords (laws : H.storage.Laws) (post : α → σ → Prop) (program : Program (requests T σ) α)
    (store : σ) : Prop :=
  program.Ensures (Program.disturbed (Disturbs laws) (behaviour H.storage))
    (Program.Steady (Disturbs laws) (Affordable L H)) post store

theorem Affordable.signed {request : Request T} (affordable : Affordable L H request store) :
    request.Signed := by
  cases request with
  | updateBalance channelId payment => exact affordable
  | _ => trivial

variable {laws : H.storage.Laws}

theorem affords_asks {program : Program (requests T σ) α} (asks : program.Asks Request.Plain)
    (formed : laws.wellFormed store) :
    Affords L laws (fun _ => laws.wellFormed) program store := by
  apply asks.ensures _ _ formed
  · intro request state plain _ between _
    cases request with
    | updateBalance channelId payment => exact plain
    | incrementUsage channelId increments => exact plain.elim
    | _ => trivial
  · rintro request state answer after plain formed ⟨between, disturbs, step⟩
    have signed : request.Signed := by
      cases request with
      | updateBalance channelId payment => exact plain
      | _ => trivial
    exact (effect_of_step (disturbs.formed formed) signed step).1

/-- A reading next to others. -/
theorem affords_observe {good : α → Prop} {reading : Reading σ ε α}
    (gives : Gives anytime good reading) (formed : laws.wellFormed store) :
    Affords L laws (fun result after => laws.wellFormed after ∧
      ∀ value, result = .ok value → good value) (observe reading : Call T σ ε α) store := by
  induction reading generalizing store with
  | done result => exact ⟨formed, gives⟩
  | call _ next ih =>
      refine ⟨fun _ _ => trivial, ?_⟩
      rintro moment after ⟨between, disturbs, -, rfl⟩
      exact ih moment (gives moment trivial) (disturbs.formed formed)

/-! ## One payment -/

variable {channelId signature : String} {balance : Nat} {context : T.Text}

variable (L H) in
/-- What is due on a channel with the usage of a context is covered by a balance. -/
structure Checked (channelId : String) (balance : Nat) (context : T.Text) (store : σ) : Prop where
  funded : (H.storage.view store channelId).funding.isSome
  covered : H.due L (H.storage.view store channelId) (some context) ≤ balance

/-- What is due depends on the unit and the counters only. -/
theorem due_congr {view view' : ChannelView T} (funding : view'.funding = view.funding)
    (usage : view'.usage = view.usage) (context : Option T.Text) :
    H.due L view' context = H.due L view context := by
  unfold ConfigurableHost.due
  rw [funding, usage]

theorem Checked.evolves (checked : Checked L H channelId balance context store)
    (evolves : Evolves (H.storage.view store channelId) (H.storage.view after channelId))
    (usage : (H.storage.view after channelId).usage = (H.storage.view store channelId).usage) :
    Checked L H channelId balance context after := by
  have funding := evolves.funding_eq checked.funded
  refine ⟨?_, ?_⟩
  · rw [funding]
    exact checked.funded
  · rw [due_congr funding usage]
    exact checked.covered

/-- Usage that was checked is covered once the payment is stored. -/
theorem Checked.affordable (checked : Checked L H channelId balance context store)
    (covers : (H.storage.view store channelId).Covers balance) {increments : UsageMap}
    (parsed : usageOfText L context = some increments) :
    Affordable L H (.incrementUsage channelId increments) store := by
  refine ⟨checked.funded, ?_⟩
  have price : H.due L ((H.storage.view store channelId).incrementUsage increments) none =
      H.due L (H.storage.view store channelId) (some context) := amountDue_incrementUsage parsed
  rw [price]
  exact checked.covered.trans covers.le_balance

/-- A payment that was checked is stored and counted. -/
theorem affords_recordPayment (formed : laws.wellFormed store) (signed : signature ≠ "")
    (checked : Checked L H channelId balance context store) :
    Affords L laws (fun _ _ => True)
      (recordPayment L channelId ⟨balance, signature⟩ context : Program (requests T σ) Unit)
      store := by
  refine ⟨fun _ _ => signed, ?_⟩
  rintro answer after ⟨between, disturbs, step⟩
  have checkedThere := checked.evolves (disturbs.evolves channelId) (disturbs.usage channelId rfl)
  obtain ⟨rfl, rfl⟩ := Prod.mk.inj step
  have isSigned : (⟨balance, signature⟩ : PaymentProof).signature ≠ "" := signed
  rcases laws.updateBalance_cases (disturbs.formed formed) channelId isSigned with
    ⟨-, stored, -, changes⟩ | ⟨-, refused, -⟩
  · rw [stored]
    show Program.Ensures _ _ _ (applyUsageIncrements L channelId context) _
    unfold applyUsageIncrements
    cases parsed : usageOfText L context with
    | none => trivial
    | some increments =>
        have evolves : Evolves (H.storage.view between channelId)
            (H.storage.view (H.storage.updateBalance between channelId
              ⟨balance, signature⟩).2 channelId) := by
          rw [changes.1]
          exact ⟨fun _ stored => stored, fun _ covers => covers.updateBalance _⟩
        have checkedAfter := checkedThere.evolves evolves (by rw [changes.1]; rfl)
        have covers : (H.storage.view (H.storage.updateBalance between channelId
            ⟨balance, signature⟩).2 channelId).Covers balance := by
          rw [changes.1]
          exact ChannelView.covers_updateBalance _ _
        refine ⟨?_, fun _ _ _ => trivial⟩
        intro last disturbs
        exact (checkedAfter.evolves (disturbs.evolves channelId)
          (disturbs.usage channelId rfl)).affordable
            ((disturbs.evolves channelId).covers _ covers) parsed
  · cases answer : (H.storage.updateBalance between channelId ⟨balance, signature⟩).1 with
    | error message => trivial
    | ok done => exact absurd answer refused

/-- The looks of a validation see the same unit, and its last one sees the counters. -/
theorem checked_of_looks {state funding units counters : Moment σ} {result : PaymentValidationResult}
    (known : Evolves (H.storage.view funding.store channelId)
      (H.storage.view units.store channelId))
    (later : Evolves (H.storage.view units.store channelId)
      (H.storage.view counters.store channelId))
    (accepted : Spilman.validatePayment L
      { H.answers L K state with
        getFunding := (H.answers L K funding).getFunding
        getAmountDue := H.computeAmountDue L units.store counters.store }
      channelId balance signature context = .ok result) :
    signature ≠ "" ∧ Checked L H channelId balance context counters.store ∧
      result.channelId = channelId ∧ result.balance = balance ∧
      result.senderSignature = signature := by
  obtain ⟨held, capacity, opened, -, -, -, enough, rfl⟩ := validatePayment_eq_ok_iff.mp accepted
  obtain ⟨-, signed, -, stored⟩ := openFunding_eq_ok_iff.mp opened
  have funded : (H.storage.view funding.store channelId).funding.isSome :=
    Option.isSome_of_eq_some stored
  have there := known.funding_eq funded
  have fundedThere : (H.storage.view units.store channelId).funding.isSome := by
    rw [there]
    exact funded
  have sameUnit := later.funding_eq fundedThere
  refine ⟨signed, ⟨?_, ?_⟩, rfl, rfl, rfl⟩
  · rw [sameUnit]
    exact fundedThere
  · have price : H.due L (H.storage.view counters.store channelId) (some context) =
        H.computeAmountDue L units.store counters.store channelId (some context) := by
      rw [H.computeAmountDue_eq]
      apply due_congr
      · exact sameUnit
      · rfl
    exact price.le.trans enough

/-- **A payment counts its usage only where it is covered**, if nobody else counts usage of
the channel before that. -/
theorem affords_processPayment (payment : Payment T) (formed : laws.wellFormed store) :
    Affords L laws (fun _ _ => True) (processPayment L K H payment context) store := by
  apply Attempt.ensures_part
    (affords_observe (gives_anytime_validatePaymentRequest _ _) formed) fun _ _ _ _ _ => trivial
  rintro state store ⟨formed, given⟩
  have signed := given state rfl
  have firstUse : Affords L laws (fun _ => laws.wellFormed) (recordFirstUse L K H payment state)
      store := by
    cases state with
    | some held => exact formed
    | none =>
        apply affords_asks _ formed
        exact Attempt.asks_bind (asks_recordNewChannel signed) fun _ => trivial
  apply Attempt.ensures_part firstUse fun _ _ _ _ _ => trivial
  intro _ store formed
  -- The validation looks four times, and others take steps before each look.
  refine ⟨fun _ _ => trivial, ?_⟩
  rintro state _ ⟨_, early, rfl, rfl⟩
  refine ⟨fun _ _ => trivial, ?_⟩
  rintro funding _ ⟨_, known, rfl, rfl⟩
  refine ⟨fun _ _ => trivial, ?_⟩
  rintro units _ ⟨_, next, rfl, rfl⟩
  refine ⟨fun _ _ => trivial, ?_⟩
  rintro counters _ ⟨_, last, rfl, rfl⟩
  have formedThere := last.formed (next.formed (known.formed (early.formed formed)))
  show Program.Ensures _ _ _
    (Attempt.lift (Spilman.validatePayment L _ _ _ _ _) >>= _ : Call T σ BridgeError _) _
  apply Attempt.ensures_lift fun _ _ => trivial
  intro val accepted
  obtain ⟨signed, checked, isChannel, isBalance, isSignature⟩ :=
    checked_of_looks (next.evolves _) (last.evolves _) accepted
  rw [isChannel, isBalance, isSignature]
  apply Attempt.ensures_perform (affords_recordPayment formedThere signed checked)
  intro _ _ _
  trivial

theorem affords_program (K : KeyOps T) (operation : Operation T) (formed : laws.wellFormed store) :
    Affords L laws (fun _ _ => True) (operation.program L K H) store := by
  cases operation with
  | processPayment payment context =>
      exact Program.Ensures.bind ((affords_processPayment payment formed).mono fun _ _ _ => trivial)
  | _ => exact (affords_asks (asks_operation (by rintro _ _ ⟨⟩)) formed).mono fun _ _ _ => trivial

/-! ## Solvent channels -/

variable (L H) in
/-- A channel that is solvent, and not used before it has a unit. -/
structure Balanced (view : ChannelView T) : Prop where
  unused : view.funding = none → view.usage = fun _ => 0
  solvent : Solvent L H view

theorem balanced_unknown : Balanced L H .unknown :=
  ⟨fun _ => rfl, solvent_of_no_usage rfl⟩

/-- Affordable steps keep every channel balanced. -/
theorem balanced_of_effect {request : Request T} {now : ChannelView T}
    (effect : Effect laws store request channelId now)
    (affordable : Affordable L H request store) (counting : laws.counting store)
    (counts : ∀ increments, request = .incrementUsage channelId increments → ∀ var,
      laws.counts ((H.storage.view store channelId).usage var + (increments.lookup var).getD 0))
    (balanced : Balanced L H (H.storage.view store channelId)) : Balanced L H now := by
  cases effect with
  | stay => exact balanced
  | saveFunding funding asked =>
      cases stored : (H.storage.view store channelId).funding with
      | none =>
          have nothing : ((H.storage.view store channelId).saveFunding funding).usage =
              fun _ => 0 := balanced.unused stored
          exact ⟨fun _ => nothing, solvent_of_no_usage nothing⟩
      | some held =>
          have kept : ((H.storage.view store channelId).saveFunding funding).funding =
              (H.storage.view store channelId).funding := by
            show (H.storage.view store channelId).funding.or (some funding) = _
            rw [stored]
            rfl
          refine ⟨?_, (due_congr kept rfl none).le.trans balanced.solvent⟩
          rw [kept]
          exact balanced.unused
  | updateBalance payment asked =>
      exact ⟨balanced.unused, balanced.solvent.trans
        (ChannelView.le_balance_updateBalance _ payment).1⟩
  | incrementUsage increments usage asked counted =>
      subst asked
      rw [counted counting (counts increments rfl)]
      obtain ⟨funded, covered⟩ := affordable
      refine ⟨?_, covered⟩
      intro unfunded
      have absent : (H.storage.view store channelId).funding = none := unfunded
      rw [absent] at funded
      cases funded
  | markClosing data asked notClosed => exact ⟨balanced.unused, balanced.solvent⟩
  | markClosed data asked => exact ⟨balanced.unused, balanced.solvent⟩

end Bridge

/-! ## Pools of calls -/

namespace Deployment

open Bridge

variable {ω : Type} {n : Nat} (L : Cashu T) (K : KeyOps T) (D : Deployment T ω)

/-- Where usage is counted, nobody else is about to record a payment of the channel, and
SQLite can hold the counters. -/
def CountsAlone (pool : Pool (requests T (D.backend.Store T)) (World (D.backend.Store T) ω)
    (Fin n) (Reply T)) (i : Fin n) : Request T → Prop
  | .incrementUsage channelId increments =>
      (D.backend = .sqlite → ∀ var ∈ increments.keys,
        (D.view L pool.state channelId).usage var + (increments.lookup var).getD 0 < 2 ^ 63) ∧
      ∀ j, j ≠ i → ∀ request ∈ pool.pending j, ¬ Request.Pays channelId request
  | _ => True

/-- The call that moves counts its usage alone. -/
def Alone (pool : Pool (requests T (D.backend.Store T)) (World (D.backend.Store T) ω)
    (Fin n) (Reply T)) (i : Fin n) : Prop :=
  ∀ request ∈ pool.pending i, D.CountsAlone L pool i request

instance decidableCountsAlone (pool : Pool (requests T (D.backend.Store T))
    (World (D.backend.Store T) ω) (Fin n) (Reply T)) (i : Fin n) :
    ∀ request : Request T, Decidable (D.CountsAlone L pool i request)
  | .incrementUsage channelId _ =>
      haveI : ∀ j, Decidable (∀ request ∈ pool.pending j, ¬ Request.Pays channelId request) :=
        Pool.decidablePending (fun request => @instDecidableNot _ (Request.decidablePays channelId request))
          pool
      inferInstanceAs (Decidable (_ ∧ _))
  | .updateBalance _ _ | .look | .saveFunding _ _ | .markClosing _ _ | .markClosed _ _
  | .setKeyset _ _ _ | .callMintSwap _ _ | .refresh _ => instDecidableTrue

instance (pool : Pool (requests T (D.backend.Store T)) (World (D.backend.Store T) ω)
    (Fin n) (Reply T)) (i : Fin n) : Decidable (D.Alone L pool i) :=
  Pool.decidablePending (D.decidableCountsAlone L pool i) pool i

/-- Every channel is balanced, and every call asks for what is affordable. -/
structure Covered (pool : Pool (requests T (D.backend.Store T)) (World (D.backend.Store T) ω)
    (Fin n) (Reply T)) : Prop where
  formed : (D.backend.laws L).wellFormed pool.state.store
  counting : (D.backend.laws L).counting pool.state.store
  affords : ∀ i, Affords (H := D.host L) L (D.backend.laws L) (fun _ _ => True) (pool.thread i)
    pool.state.store
  balanced : ∀ channelId, Balanced L (D.host L) (D.view L pool.state channelId)

variable {L K D}

theorem covered_pool (operations : Fin n → Operation T) : D.Covered L (D.pool L K operations) where
  formed := D.backend.wellFormed_new L
  counting := D.backend.counting_new L
  affords := fun i => affords_program K (operations i) (D.backend.wellFormed_new L)
  balanced := by
    intro channelId
    have unknown : D.view L D.start channelId = .unknown := D.backend.view_new L channelId
    exact unknown ▸ balanced_unknown

/-- A step that counts alone keeps every channel balanced. -/
theorem covered_step
    {pool : Pool (requests T (D.backend.Store T)) (World (D.backend.Store T) ω) (Fin n) (Reply T)}
    (i : Fin n) (covered : D.Covered L pool) (alone : D.Alone L pool i) :
    D.Covered L (pool.step (D.server L) i) := by
  cases calls : pool.thread i with
  | done reply =>
      rw [Pool.step_of_done calls]
      exact covered
  | call request next =>
      have countsAlone := alone request (Pool.pending_of_call calls)
      have affords := covered.affords i
      rw [calls] at affords
      have affordable : Affordable L (D.host L) request pool.state.store :=
        affords.1 _ (.refl _ _)
      have step := follows_serve (D.host L).storage D.environment request pool.state
      obtain ⟨formed, effects⟩ := effect_of_step covered.formed affordable.signed step
      have counts : ∀ channelId increments, request = .incrementUsage channelId increments →
          ∀ var, (D.backend.laws L).counts (((D.host L).storage.view pool.state.store
            channelId).usage var + (increments.lookup var).getD 0) := by
        rintro channelId increments rfl var
        exact counts_of_keys covered.counting countsAlone.1 var
      have moved : (pool.step (D.server L) i).state = (D.server L request pool.state).2 :=
        congrArg Pool.state (Pool.step_of_call calls)
      refine ⟨?_, ?_, ?_, ?_⟩
      · rw [moved]
        exact formed
      · rw [moved]
        exact counting_of_step covered.formed covered.counting counts step
      · apply Pool.disturbed_step (follows_serve (D.host L).storage D.environment)
          Disturbs.refl (fun _ _ _ _ => Disturbs.trans) calls covered.affords
        intro j pending other waits
        refine ⟨fun _ => formed, fun channelId => (effects channelId).evolves, ?_⟩
        intro channelId pays
        apply (effects channelId).usage_eq
        rintro increments rfl
        exact countsAlone.2 j other pending waits pays
      · intro channelId
        have balanced := balanced_of_effect (effects channelId) affordable covered.counting
          (counts channelId) (covered.balanced channelId)
        rw [moved]
        exact balanced

/-- **Calls next to each other stay solvent, as long as usage is counted alone.** However the
steps of calls are ordered: if no payment counts its usage while another one of its channel
is about to be recorded, what is due on a channel is at most what is stored of its
payments, at every moment. -/
theorem dues_covered (D : Deployment T ω) (operations : Fin n → Operation T)
    (schedule : List (Fin n))
    (alone : Pool.Meets (D.server L) (D.Alone L) (D.pool L K operations) schedule)
    (channelId : String) (now : Nat) :
    ((D.host L).answers L K ⟨(D.interleaved L K operations schedule).state.store, now⟩).getAmountDue
        channelId none ≤
      (D.view L (D.interleaved L K operations schedule).state channelId).balance := by
  have covered : D.Covered L (D.interleaved L K operations schedule) :=
    Pool.run_induction (fun _ i => covered_step i) schedule _ (covered_pool operations) alone
  rw [(D.host L).getAmountDue_eq]
  exact (covered.balanced channelId).solvent

end Deployment

/-! ### Two payments with one balance -/

namespace Sample

open Bridge

/-- Two payments of the same balance, each for one character. -/
def contended (opening : Opening) : Fin 3 → Operation carriers :=
  ![cacheKeyset (pairs "sat"), opening.pay 1 1, opening.pay 1 1]

/-- One payment alone. -/
def single : List (Fin 3) := 0 :: List.replicate 12 1

/-- Both payments are checked before either of them is recorded. -/
def overlapping : List (Fin 3) :=
  0 :: List.replicate 10 1 ++ List.replicate 5 2 ++ List.replicate 2 1 ++ List.replicate 2 2

/-- The payments after some of their steps. -/
def contention (opening : Opening) (schedule : List (Fin 3)) :
    Pool (requests carriers ((deployment .memory).backend.Store carriers))
      (World ((deployment .memory).backend.Store carriers) Unit) (Fin 3) (Reply carriers) :=
  (deployment .memory).interleaved library agreedKeys (contended opening) schedule

/-- What is due on the channel of the payments. -/
def contendedDue (opening : Opening) (schedule : List (Fin 3)) : Nat :=
  (((deployment .memory).host library).answers library agreedKeys
    ⟨(contention opening schedule).state.store, 1000⟩).getAmountDue opening.channelId none

/-- The balance that is stored for the channel of the payments. -/
def contendedBalance (opening : Opening) (schedule : List (Fin 3)) : Nat :=
  ((deployment .memory).view library (contention opening schedule).state
    opening.channelId).balance

/-- What comes of both orders. -/
structure Contended (opening : Opening) : Prop where
  alone : Pool.Meets ((deployment .memory).server library) ((deployment .memory).Alone library)
    ((deployment .memory).pool library agreedKeys (contended opening)) single
  used : contendedDue opening single = 1
  succeed : ((contention opening overlapping).returned 1).any Reply.isOk ∧
    ((contention opening overlapping).returned 2).any Reply.isOk
  uncovered : contendedBalance opening overlapping < contendedDue opening overlapping

instance (opening : Opening) : Decidable (Contended opening) :=
  decidable_of_iff (_ ∧ _ ∧ _ ∧ _)
    ⟨fun ⟨alone, used, succeed, uncovered⟩ => ⟨alone, used, succeed, uncovered⟩,
      fun run => ⟨run.alone, run.used, run.succeed, run.uncovered⟩⟩

theorem exists_contended : ∃ opening, Contended opening := by
  have ran : ((two "m").openWith (pairs "sat") 1).okAnd (fun opening =>
      decide (Contended opening)) = true := by
    decide +kernel
  obtain ⟨opening, -, ran⟩ := Outcome.exists_of_okAnd ran
  exact ⟨opening, of_decide_eq_true ran⟩

end Sample

/-- One payment of one, for one character. -/
theorem dues_covered_single : ∃ opening : Sample.Opening,
    Sample.contendedDue opening Sample.single = 1 ∧
      Sample.contendedDue opening Sample.single ≤
        Sample.contendedBalance opening Sample.single := by
  obtain ⟨opening, run⟩ := Sample.exists_contended
  exact ⟨opening, run.used, Deployment.dues_covered (Sample.deployment .memory)
    (Sample.contended opening) Sample.single run.alone opening.channelId 1000⟩

/-- Two payments are checked against the same counters and are covered by the same balance.
Both succeed, and more is due than was paid. -/
theorem dues_uncovered : ∃ opening : Sample.Opening,
    (((Sample.contention opening Sample.overlapping).returned 1).any Bridge.Reply.isOk ∧
      ((Sample.contention opening Sample.overlapping).returned 2).any Bridge.Reply.isOk) ∧
    Sample.contendedBalance opening Sample.overlapping <
      Sample.contendedDue opening Sample.overlapping := by
  obtain ⟨opening, run⟩ := Sample.exists_contended
  exact ⟨opening, run.succeed, run.uncovered⟩

end Spilman
