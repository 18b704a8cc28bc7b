/-
# Calls next to each other

Any number of calls run over one store, and their steps come in any order. Funding and
payments only grow (`Evolves`), whatever the order is. What a payment has stored stays
stored, and what it has counted stays counted.

A payment is checked in one step and stored in another, and storing it may fail without
the caller being told. `payments_recorded` says that this is all that can go wrong: where
a payment meets an open channel and a store that can hold it, everything that was
accepted is recorded.
-/

import Spilman.Lib.Interleaving
import Spilman.Bridge.Deployment
import Spilman.Bridge.Requests

namespace Spilman

open Lib

variable {T : Carriers} {σ : Type}

/-! ## What only grows -/

namespace ChannelView

/-- The stored payment is worth at least a balance. -/
def Covers (view : ChannelView T) (balance : Nat) : Prop :=
  ∃ payment, view.payment = some payment ∧ balance ≤ payment.balance

variable {view : ChannelView T} {balance : Nat}

theorem Covers.le_balance (covers : view.Covers balance) : balance ≤ view.balance := by
  obtain ⟨payment, stored, enough⟩ := covers
  rw [balance_of_payment stored]
  exact enough

theorem covers_updateBalance (view : ChannelView T) (payment : PaymentProof) :
    (view.updateBalance payment).Covers payment.balance := by
  obtain ⟨kept, stored⟩ :=
    Option.isSome_iff_exists.mp (isSome_payment_updateBalance view payment)
  obtain ⟨_, enough⟩ := le_balance_updateBalance view payment
  exact ⟨kept, stored, enough.trans (balance_of_payment stored).le⟩

theorem Covers.updateBalance (covers : view.Covers balance) (payment : PaymentProof) :
    (view.updateBalance payment).Covers balance := by
  obtain ⟨kept, stored, larger⟩ := covers_updateBalance view payment
  refine ⟨kept, stored, covers.le_balance.trans ?_⟩
  rw [← balance_of_payment stored]
  exact (le_balance_updateBalance view payment).1

instance (view : ChannelView T) (balance : Nat) : Decidable (view.Covers balance) :=
  decidable_of_iff (∃ payment ∈ view.payment.toList, balance ≤ payment.balance)
    (by simp only [Option.mem_toList, Covers])

end ChannelView

/-- Funding is never replaced, and payments are only replaced by larger ones. -/
structure Evolves (before after : ChannelView T) : Prop where
  funding : ∀ funding, before.funding = some funding → after.funding = some funding
  covers : ∀ balance, before.Covers balance → after.Covers balance

section Effects

variable {S : SpilmanStorage T σ} {laws : S.Laws} {store : σ} {request : Request T}
  {channelId : String} {now : ChannelView T}

theorem Effect.evolves (effect : Effect laws store request channelId now) :
    Evolves (S.view store channelId) now := by
  cases effect with
  | stay => exact ⟨fun _ stored => stored, fun _ covers => covers⟩
  | saveFunding funding asked =>
      refine ⟨?_, fun _ covers => covers⟩
      intro first stored
      show (S.view store channelId).funding.or (some funding) = some first
      rw [stored]
      rfl
  | updateBalance payment asked =>
      exact ⟨fun _ stored => stored, fun _ covers => covers.updateBalance payment⟩
  | incrementUsage increments usage asked counted =>
      exact ⟨fun _ stored => stored, fun _ covers => covers⟩
  | markClosing data asked notClosed => exact ⟨fun _ stored => stored, fun _ covers => covers⟩
  | markClosed data asked => exact ⟨fun _ stored => stored, fun _ covers => covers⟩

/-- Only counting changes counters. -/
theorem Effect.usage_eq (effect : Effect laws store request channelId now)
    (other : ∀ increments, request ≠ .incrementUsage channelId increments) :
    now.usage = (S.view store channelId).usage := by
  cases effect with
  | incrementUsage increments usage asked counted => exact absurd asked (other increments)
  | saveFunding funding asked => rfl
  | updateBalance payment asked => rfl
  | _ => rfl

end Effects

/-! ## Pools of calls -/

namespace Deployment

open Bridge

variable {ω : Type} {n : Nat} (L : Cashu T) (K : KeyOps T) (D : Deployment T ω)

/-- Calls that have not started yet. -/
def pool (operations : Fin n → Operation T) :
    Pool (requests T (D.backend.Store T)) (World (D.backend.Store T) ω) (Fin n) (Reply T) :=
  ⟨D.start, fun i => (operations i).program L K (D.host L)⟩

/-- The calls after some of their steps. -/
def interleaved (operations : Fin n → Operation T) (schedule : List (Fin n)) :
    Pool (requests T (D.backend.Store T)) (World (D.backend.Store T) ω) (Fin n) (Reply T) :=
  (D.pool L K operations).run (D.server L) schedule

end Deployment

/-! ## Accepted payments -/

namespace Bridge

variable {L : Cashu T} {H : ConfigurableHost T σ} {operation : Operation T} {store after : σ}

variable (L) in
/-- What a call has counted on a channel, once it has returned. -/
def Operation.spent (operation : Operation T) (thread : Program (requests T σ) (Reply T))
    (channelId var : String) : Nat :=
  match operation, thread with
  | .processPayment payment context, .done (.payment (.ok _)) =>
      if payment.channelId = channelId then pendingUsage L (some context) var else 0
  | _, _ => 0

variable (L) in
/-- How a payment ends. -/
def EndsPayment (context : T.Text) (reply : Reply T) (stage : Stage) : Prop :=
  ∃ result, reply = .payment result ∧ EndsRecorded L context result stage

variable (L H) in
/-- What is left of a call, and what it has done to the store so far. -/
def Leaves (operation : Operation T) (store : σ)
    (thread : Program (requests T σ) (Reply T)) : Prop :=
  match operation with
  | .processPayment payment context =>
      ∃ stage, thread.Ensures stages (Recording L payment context) (EndsPayment L context) stage ∧
        (stage ≠ .validating →
          (H.storage.view store payment.channelId).Covers payment.balance)
  | _ => thread.Asks Request.Plain

/-- Every call starts like this. -/
theorem leaves_program (K : KeyOps T) (operation : Operation T) (store : σ) :
    Leaves L H operation store (operation.program L K H) := by
  cases operation with
  | processPayment payment context =>
      refine ⟨.validating, ?_, fun started => absurd rfl started⟩
      apply Program.Ensures.bind
      apply recording_processPayment.mono
      intro result stage ends
      exact ⟨result, rfl, ends⟩
  | _ => exact asks_operation (by rintro _ _ ⟨⟩)

/-- What other calls do is no harm. -/
theorem Leaves.evolve {thread : Program (requests T σ) (Reply T)}
    (leaves : Leaves L H operation store thread)
    (evolves : ∀ channelId, Evolves (H.storage.view store channelId)
      (H.storage.view after channelId)) : Leaves L H operation after thread := by
  cases operation with
  | processPayment payment context =>
      obtain ⟨stage, ensures, covers⟩ := leaves
      exact ⟨stage, ensures, fun started => (evolves _).covers _ (covers started)⟩
  | _ => exact leaves

theorem Leaves.signed {request : Request T}
    {next : (requests T σ).Response request → Program (requests T σ) (Reply T)}
    (leaves : Leaves L H operation store (.call request next)) : request.Signed := by
  cases operation with
  | processPayment payment context =>
      obtain ⟨stage, ⟨allowed, -⟩, -⟩ := leaves
      cases request with
      | updateBalance channelId proof =>
          obtain ⟨-, -, rfl, signed⟩ := allowed
          exact signed
      | _ => trivial
  | _ =>
      cases request with
      | updateBalance channelId proof => exact leaves.1
      | _ => trivial

/-! ### One step -/

section Step

variable {laws : H.storage.Laws} {request : Request T}
  {next : (requests T σ).Response request → Program (requests T σ) (Reply T)}
  {answer : (requests T σ).Response request}

/-- A payment is stored where the store takes it, and counters stay within their limits. -/
def Records {S : SpilmanStorage T σ} (laws : S.Laws) (store : σ) : Request T → Prop
  | .updateBalance channelId payment =>
      (S.view store channelId).IsOpen ∧ laws.keeps payment.balance
  | .incrementUsage channelId increments => ∀ var,
      laws.counts ((S.view store channelId).usage var + (increments.lookup var).getD 0) ∧
        ∀ delta, increments.lookup var = some delta →
          (S.view store channelId).usage var + delta < 2 ^ 64
  | _ => True

/-- Counters stay within their limits if the ones that are incremented do. -/
theorem counting_of_step (formed : laws.wellFormed store) (counting : laws.counting store)
    (counts : ∀ channelId increments, request = .incrementUsage channelId increments → ∀ var,
      laws.counts ((H.storage.view store channelId).usage var + (increments.lookup var).getD 0))
    (step : behaviour H.storage request store answer after) :
    laws.counting after := by
  obtain ⟨keptFunding, keptBalance, keptClosing, keptClosed, keptKeyset⟩ :=
    laws.counting_kept counting
  cases request with
  | look => exact step.2 ▸ counting
  | callMintSwap mintUrl swapRequest => exact step ▸ counting
  | refresh mint => exact step ▸ counting
  | saveFunding channelId funding => exact (Prod.mk.inj step).2 ▸ keptFunding channelId funding
  | updateBalance channelId payment => exact (Prod.mk.inj step).2 ▸ keptBalance channelId payment
  | incrementUsage channelId increments =>
      rw [(Prod.mk.inj step).2]
      exact (laws.incrementUsage channelId increments formed counting (counts _ _ rfl)).1
  | markClosing channelId data => exact (Prod.mk.inj step).2 ▸ keptClosing channelId data
  | markClosed channelId data => exact (Prod.mk.inj step).2 ▸ keptClosed channelId data
  | setKeyset mint id entry => exact (Prod.mk.inj step).2 ▸ keptKeyset mint id entry

/-- Counters within their limits do not wrap. -/
theorem usage_incrementUsage_of_lt {view : ChannelView T} {increments : UsageMap} {var : String}
    (small : ∀ delta, increments.lookup var = some delta → view.usage var + delta < 2 ^ 64) :
    (view.incrementUsage increments).usage var =
      view.usage var + (increments.lookup var).getD 0 := by
  cases counted : increments.lookup var with
  | none => rw [ChannelView.usage_incrementUsage_none counted, Option.getD_none, Nat.add_zero]
  | some delta =>
      rw [ChannelView.usage_incrementUsage_some counted, Option.getD_some,
        Nat.mod_eq_of_lt (small delta counted)]

/-- What a step adds to a counter. -/
def counted (request : Request T) (channelId var : String) : Nat :=
  match request with
  | .incrementUsage target increments =>
      if target = channelId then (increments.lookup var).getD 0 else 0
  | _ => 0

theorem usage_of_step (formed : laws.wellFormed store) (counting : laws.counting store)
    (records : Records laws store request) (signed : request.Signed)
    (step : behaviour H.storage request store answer after) (channelId var : String) :
    (H.storage.view after channelId).usage var =
      (H.storage.view store channelId).usage var + counted request channelId var := by
  have effect := (effect_of_step formed signed step).2 channelId
  by_cases counts : ∃ increments, request = .incrementUsage channelId increments
  · obtain ⟨increments, rfl⟩ := counts
    obtain ⟨-, rfl⟩ := Prod.mk.inj step
    have changes := (laws.incrementUsage channelId increments formed counting
      fun var => (records var).1).2
    rw [changes.1, usage_incrementUsage_of_lt (records var).2]
    simp only [counted, if_true]
  · have nothing : counted request channelId var = 0 := by
      cases request with
      | incrementUsage target increments =>
          apply if_neg
          rintro rfl
          exact counts ⟨increments, rfl⟩
      | _ => rfl
    rw [effect.usage_eq fun increments asked => counts ⟨increments, asked⟩, nothing, Nat.add_zero]

/-- The call that moves has stored what it says. -/
theorem Leaves.step (leaves : Leaves L H operation store (.call request next))
    (formed : laws.wellFormed store) (records : Records laws store request)
    (step : behaviour H.storage request store answer after) :
    Leaves L H operation after (next answer) := by
  have evolves : ∀ channelId, Evolves (H.storage.view store channelId)
      (H.storage.view after channelId) := fun channelId =>
    ((effect_of_step formed leaves.signed step).2 channelId).evolves
  cases operation with
  | processPayment payment context =>
      obtain ⟨stage, ⟨allowed, next⟩, covers⟩ := leaves
      have unmoved : stages request stage answer stage →
          Leaves L H (.processPayment payment context) after (_ : Program (requests T σ) _) :=
        fun stays => ⟨stage, next answer stage stays,
          fun started => (evolves _).covers _ (covers started)⟩
      cases request with
      | updateBalance channelId proof =>
          obtain ⟨-, rfl, rfl, signed⟩ := allowed
          obtain ⟨rfl, rfl⟩ := Prod.mk.inj step
          obtain ⟨stored, -, changes⟩ := laws.updateBalance payment.channelId
            ⟨payment.balance, payment.signature⟩ formed signed records.1 records.2
          refine ⟨.stored, next _ _ ⟨stored, rfl⟩, fun _ => ?_⟩
          rw [changes.1]
          exact ChannelView.covers_updateBalance _ _
      | incrementUsage channelId increments =>
          obtain ⟨rfl, -, -⟩ := allowed
          exact ⟨.counted, next _ _ rfl, fun _ => (evolves _).covers _ (covers (by rintro ⟨⟩))⟩
      | look => exact unmoved rfl
      | saveFunding channelId funding => exact unmoved rfl
      | markClosing channelId data => exact unmoved rfl
      | markClosed channelId data => exact unmoved rfl
      | setKeyset mint id entry => exact unmoved rfl
      | callMintSwap mintUrl swapRequest => exact unmoved rfl
      | refresh mint => exact unmoved rfl
  | _ => exact leaves.2 answer

theorem pendingUsage_of_parsed {context : T.Text} {increments : UsageMap}
    (parsed : usageOfText L context = some increments) (var : String) :
    pendingUsage L (some context) var = (increments.lookup var).getD 0 := by
  simp [pendingUsage, parsed]

/-- A payment that has been counted has succeeded. -/
theorem spent_of_counted {payment : Payment T} {context : T.Text}
    {thread : Program (requests T σ) (Reply T)}
    (ends : thread.Ensures stages (Recording L payment context) (EndsPayment L context) .counted)
    (channelId var : String) :
    (Operation.processPayment payment context).spent L thread channelId var =
      if payment.channelId = channelId then pendingUsage L (some context) var else 0 := by
  cases thread with
  | call request next =>
      obtain ⟨allowed, -⟩ := ends
      cases request with
      | updateBalance channelId proof => exact absurd rfl allowed.1
      | incrementUsage channelId increments => exact absurd allowed.1 (by rintro ⟨⟩)
      | _ => exact absurd rfl allowed
  | done reply =>
      obtain ⟨result, rfl, -, failed⟩ := ends
      cases result with
      | ok value => rfl
      | err error => exact absurd rfl (failed rfl)
      | noReturn => exact absurd rfl (failed rfl)

/-- Before it is counted, a payment has succeeded only if it has no usage. -/
theorem spent_of_early {payment : Payment T} {context : T.Text} {stage : Stage}
    {thread : Program (requests T σ) (Reply T)} (early : stage.Early)
    (ends : thread.Ensures stages (Recording L payment context) (EndsPayment L context) stage)
    (channelId var : String) :
    (Operation.processPayment payment context).spent L thread channelId var = 0 := by
  cases thread with
  | call request next => rfl
  | done reply =>
      obtain ⟨result, rfl, succeeded, -⟩ := ends
      cases result with
      | ok value =>
          rcases succeeded rfl with isCounted | ⟨-, unparsed⟩
          · exact absurd isCounted early
          · simp only [Operation.spent, pendingUsage_of_unparsed unparsed, pendingUsage_none,
              ite_self]
      | err error => rfl
      | noReturn => rfl

theorem spent_call (operation : Operation T) (channelId var : String) :
    operation.spent L (.call request next) channelId var = 0 := by
  cases operation with
  | processPayment payment context => rfl
  | _ => rfl

/-- **A call has spent what its steps have counted.** -/
theorem Leaves.spent_step (leaves : Leaves L H operation store (.call request next))
    (records : Records laws store request) (formed : laws.wellFormed store)
    (step : behaviour H.storage request store answer after) (channelId var : String) :
    operation.spent L (next answer) channelId var = counted request channelId var := by
  cases operation with
  | processPayment payment context =>
      obtain ⟨stage, ⟨allowed, next⟩, -⟩ := leaves
      have unmoved : stage.Early → stages request stage answer stage →
          Operation.spent L (.processPayment payment context) _ channelId var = 0 :=
        fun early stays => spent_of_early early (next answer stage stays) channelId var
      cases request with
      | updateBalance target proof =>
          obtain ⟨-, rfl, rfl, signed⟩ := allowed
          obtain ⟨rfl, rfl⟩ := Prod.mk.inj step
          obtain ⟨stored, -, -⟩ := laws.updateBalance payment.channelId
            ⟨payment.balance, payment.signature⟩ formed signed records.1 records.2
          have early : Stage.Early .stored := by
            rintro ⟨⟩
          exact spent_of_early early (next _ _ ⟨stored, rfl⟩) channelId var
      | incrementUsage target increments =>
          obtain ⟨-, rfl, parsed⟩ := allowed
          rw [spent_of_counted (next _ _ rfl), pendingUsage_of_parsed parsed]
          rfl
      | look => exact unmoved allowed rfl
      | saveFunding target funding => exact unmoved allowed rfl
      | markClosing target data => exact unmoved allowed rfl
      | markClosed target data => exact unmoved allowed rfl
      | setKeyset mint id entry => exact unmoved allowed rfl
      | callMintSwap mintUrl swapRequest => exact unmoved allowed rfl
      | refresh mint => exact unmoved allowed rfl
  | _ =>
      cases request with
      | incrementUsage target increments => exact leaves.1.elim
      | _ => rfl

end Step

end Bridge

/-! ## What is recorded -/

namespace Deployment

open Bridge

variable {ω : Type} {n : Nat} (L : Cashu T) (K : KeyOps T) (D : Deployment T ω)

/-- A payment finds its channel open and a store that can hold it, and no counter overflows. -/
def Takes (world : World (D.backend.Store T) ω) : Request T → Prop
  | .updateBalance channelId payment => (D.view L world channelId).IsOpen ∧
      (D.backend = .sqlite → payment.balance < 2 ^ 63)
  | .incrementUsage channelId increments => ∀ var ∈ increments.keys,
      (D.view L world channelId).usage var + (increments.lookup var).getD 0 <
        if D.backend = .sqlite then 2 ^ 63 else 2 ^ 64
  | _ => True

/-- The call that moves is not disturbed where it records. -/
def Undisturbed (pool : Pool (requests T (D.backend.Store T)) (World (D.backend.Store T) ω)
    (Fin n) (Reply T)) (i : Fin n) : Prop :=
  ∀ request ∈ pool.pending i, D.Takes L pool.state request

instance decidableTakes (world : World (D.backend.Store T) ω) :
    ∀ request : Request T, Decidable (D.Takes L world request)
  | .updateBalance _ _ => inferInstanceAs (Decidable (_ = _ ∧ _))
  | .incrementUsage _ _ => inferInstanceAs (Decidable (∀ _ ∈ _, _))
  | .look | .saveFunding _ _ | .markClosing _ _ | .markClosed _ _ | .setKeyset _ _ _
  | .callMintSwap _ _ | .refresh _ => instDecidableTrue

instance (pool : Pool (requests T (D.backend.Store T)) (World (D.backend.Store T) ω)
    (Fin n) (Reply T)) (i : Fin n) : Decidable (D.Undisturbed L pool i) :=
  Pool.decidablePending (D.decidableTakes L pool.state) pool i

variable {L K D}

/-- A store can hold all counters if it can hold the ones that are incremented. -/
theorem counts_of_keys {store : D.backend.Store T} {channelId : String} {increments : UsageMap}
    (counting : (D.backend.laws L).counting store)
    (small : D.backend = .sqlite → ∀ var ∈ increments.keys,
      ((D.host L).storage.view store channelId).usage var + (increments.lookup var).getD 0 <
        2 ^ 63)
    (var : String) : (D.backend.laws L).counts
      (((D.host L).storage.view store channelId).usage var +
        (increments.lookup var).getD 0) := by
  by_cases named : var ∈ increments
  · exact StorageConfig.counts_of_small L fun isSqlite => small isSqlite var named
  · rw [AList.lookup_eq_none.mpr named]
    exact StorageConfig.counts_usage L counting channelId var

theorem records_of_takes {world : World (D.backend.Store T) ω} {request : Request T}
    (counting : (D.backend.laws L).counting world.store) (takes : D.Takes L world request) :
    Records (S := (D.host L).storage) (D.backend.laws L) world.store request := by
  cases request with
  | updateBalance channelId payment => exact ⟨takes.1, StorageConfig.keeps_of_small L takes.2⟩
  | incrementUsage channelId increments =>
      intro var
      refine ⟨counts_of_keys counting (fun isSqlite var named => ?_) var, ?_⟩
      · have small := takes var named
        rw [if_pos isSqlite] at small
        exact small
      · intro delta counted
        have small := takes var (AList.lookup_isSome.mp (Option.isSome_of_eq_some counted))
        rw [counted, Option.getD_some] at small
        apply small.trans_le
        split_ifs
        · exact Nat.pow_le_pow_right (by decide) (by decide)
        · exact le_refl _
  | _ => trivial

variable (L D) in
/-- Everything that was accepted is recorded. -/
structure Accounted (operations : Fin n → Operation T)
    (pool : Pool (requests T (D.backend.Store T)) (World (D.backend.Store T) ω)
      (Fin n) (Reply T)) : Prop where
  formed : (D.backend.laws L).wellFormed pool.state.store
  counting : (D.backend.laws L).counting pool.state.store
  leaves : ∀ i, Leaves L (D.host L) (operations i) pool.state.store (pool.thread i)
  usage : ∀ channelId var, (D.view L pool.state channelId).usage var =
    ∑ i, (operations i).spent L (pool.thread i) channelId var

theorem accounted_pool (operations : Fin n → Operation T) :
    D.Accounted L operations (D.pool L K operations) where
  formed := D.backend.wellFormed_new L
  counting := D.backend.counting_new L
  leaves := fun i => leaves_program K (operations i) _
  usage := fun channelId var => by
    have unknown : D.view L D.start channelId = .unknown := D.backend.view_new L channelId
    have nothing : ∀ i, (operations i).spent L ((operations i).program L K (D.host L))
        channelId var = 0 := by
      intro i
      cases operations i with
      | processPayment payment context => rfl
      | _ => rfl
    simp only [pool, unknown, nothing, Finset.sum_const_zero]
    rfl

/-- A step keeps the account. -/
theorem accounted_step {operations : Fin n → Operation T}
    {pool : Pool (requests T (D.backend.Store T)) (World (D.backend.Store T) ω) (Fin n) (Reply T)}
    (i : Fin n) (accounted : D.Accounted L operations pool)
    (undisturbed : D.Undisturbed L pool i) :
    D.Accounted L operations (pool.step (D.server L) i) := by
  cases calls : pool.thread i with
  | done reply =>
      rw [Pool.step_of_done calls]
      exact accounted
  | call request next =>
      have records := records_of_takes accounted.counting
        (undisturbed request (Pool.pending_of_call calls))
      have leaves := accounted.leaves i
      rw [calls] at leaves
      have step := follows_serve (D.host L).storage D.environment request pool.state
      obtain ⟨formed, effects⟩ := effect_of_step accounted.formed leaves.signed step
      have moved : (pool.step (D.server L) i).state = (D.server L request pool.state).2 :=
        congrArg Pool.state (Pool.step_of_call calls)
      refine ⟨?_, ?_, ?_, ?_⟩
      · rw [moved]
        exact formed
      · rw [moved]
        apply counting_of_step accounted.formed accounted.counting _ step
        rintro channelId increments rfl var
        exact (records var).1
      · apply Pool.assertions_step
          (fun j world => Leaves L (D.host L) (operations j) world.store) calls
        · exact leaves.step accounted.formed records step
        · intro j _
          exact (accounted.leaves j).evolve fun channelId => (effects channelId).evolves
      · intro channelId var
        have before := accounted.usage channelId var
        have grows := usage_of_step accounted.formed accounted.counting records leaves.signed step
          channelId var
        have spends := leaves.spent_step records accounted.formed step channelId var
        rw [Pool.sum_step (fun j thread => (operations j).spent L thread channelId var) calls
          (spent_call _ _ _), ← before, moved]
        exact grows.trans (congrArg (_ + ·) spends.symm)

/-- **Accepted payments are recorded, unless recording them is refused.** However the steps of
calls are ordered: if every payment that is about to be stored finds its channel open and
fits into the store, and counters do not overflow, then every payment that has returned
successfully is covered by the stored one, and the counters are the sum of what successful
payments have added. -/
theorem payments_recorded (D : Deployment T ω) (operations : Fin n → Operation T)
    (schedule : List (Fin n))
    (undisturbed : Pool.Meets (D.server L) (D.Undisturbed L) (D.pool L K operations) schedule) :
    (∀ i payment context success, operations i = .processPayment payment context →
      (D.interleaved L K operations schedule).thread i = .done (.payment (.ok success)) →
      (D.view L (D.interleaved L K operations schedule).state payment.channelId).Covers
        payment.balance) ∧
    ∀ channelId var,
      (D.view L (D.interleaved L K operations schedule).state channelId).usage var =
        ∑ i, (operations i).spent L ((D.interleaved L K operations schedule).thread i)
          channelId var := by
  have accounted : D.Accounted L operations (D.interleaved L K operations schedule) :=
    Pool.run_induction (fun _ i => accounted_step i) schedule _ (accounted_pool operations)
      undisturbed
  refine ⟨?_, accounted.usage⟩
  intro i payment context success isPayment returned
  have leaves := accounted.leaves i
  rw [isPayment, returned] at leaves
  obtain ⟨stage, ⟨result, isResult, succeeded, -⟩, covers⟩ := leaves
  obtain rfl := Reply.payment.inj isResult
  apply covers
  rcases succeeded rfl with rfl | ⟨rfl, -⟩
  · rintro ⟨⟩
  · rintro ⟨⟩

end Deployment

/-! ### A payment next to a close -/

namespace Sample

open Bridge

/-- The success of a payment. -/
def paymentSuccess : Reply carriers → Option PaymentSuccess
  | .payment (.ok success) => some success
  | _ => none

/-- A first payment of one, a second one of two, and a close. -/
def raced (opening : Opening) (first : String) : Fin 4 → Operation carriers :=
  ![cacheKeyset (pairs "sat"), { opening with signature := first }.pay 1 1, opening.pay 2 1,
    .executeUnilateralClose opening.channelId]

/-- Both payments, one after the other. -/
def inOrder : List (Fin 4) := 0 :: List.replicate 12 1 ++ List.replicate 7 2

/-- The second payment is checked, the channel is closed, and the payment is recorded. -/
def overtaken : List (Fin 4) :=
  0 :: List.replicate 12 1 ++ List.replicate 5 2 ++ List.replicate 30 3 ++ List.replicate 2 2

/-- The payments and the close after some of their steps. -/
def race (opening : Opening) (first : String) (schedule : List (Fin 4)) :
    Pool (requests carriers ((deployment .memory).backend.Store carriers))
      (World ((deployment .memory).backend.Store carriers) Unit) (Fin 4) (Reply carriers) :=
  (deployment .memory).interleaved library agreedKeys (raced opening first) schedule

/-- What comes of both orders. -/
structure Raced (opening : Opening) (first : String) : Prop where
  undisturbed : Pool.Meets ((deployment .memory).server library)
    ((deployment .memory).Undisturbed library)
    ((deployment .memory).pool library agreedKeys (raced opening first)) inOrder
  inOrder : (((race opening first inOrder).returned 2).bind paymentSuccess).isSome
  overtaken : (((race opening first overtaken).returned 2).bind paymentSuccess).isSome
  kept : ¬ ((deployment .memory).view library (race opening first Sample.overtaken).state
    opening.channelId).Covers 2
  uncounted : ((deployment .memory).view library (race opening first Sample.overtaken).state
    opening.channelId).usage "chars" < ∑ i, (raced opening first i).spent library
      ((race opening first Sample.overtaken).thread i) opening.channelId "chars"

instance (opening : Opening) (first : String) : Decidable (Raced opening first) :=
  decidable_of_iff (_ ∧ _ ∧ _ ∧ _ ∧ _)
    ⟨fun ⟨undisturbed, inOrder, overtaken, kept, uncounted⟩ =>
      ⟨undisturbed, inOrder, overtaken, kept, uncounted⟩,
      fun run => ⟨run.undisturbed, run.inOrder, run.overtaken, run.kept, run.uncounted⟩⟩

theorem exists_raced : ∃ opening first, Raced opening first := by
  have ran : ((two "m").openWith (pairs "sat") 2).okAnd (fun opening =>
      ((two "m").sign (pairs "sat") 1).okAnd fun first =>
        decide (Raced opening first)) = true := by
    decide +kernel
  obtain ⟨opening, -, ran⟩ := Outcome.exists_of_okAnd ran
  obtain ⟨first, -, ran⟩ := Outcome.exists_of_okAnd ran
  exact ⟨opening, first, of_decide_eq_true ran⟩

theorem thread_of_paymentSuccess {opening : Opening} {first : String} {schedule : List (Fin 4)}
    {i : Fin 4}
    (succeeds : (((race opening first schedule).returned i).bind paymentSuccess).isSome) :
    ∃ success, (race opening first schedule).thread i = .done (.payment (.ok success)) := by
  obtain ⟨success, isSuccess⟩ := Option.isSome_iff_exists.mp succeeds
  obtain ⟨reply, returned, isReply⟩ := Option.bind_eq_some_iff.mp isSuccess
  refine ⟨success, ?_⟩
  rw [Pool.returned_eq_some.mp returned]
  cases reply with
  | payment result =>
      cases result with
      | ok value =>
          obtain rfl := Option.some.inj isReply
          rfl
      | err error => cases isReply
      | noReturn => cases isReply
  | funding result => cases isReply
  | close result => cases isReply
  | keyset result => cases isReply

end Sample

/-- Two payments one after the other. -/
theorem payments_recorded_inOrder : ∃ (opening : Sample.Opening) (first : String),
    ((Sample.deployment .memory).view Sample.library
      (Sample.race opening first Sample.inOrder).state opening.channelId).Covers 2 ∧
    ((Sample.deployment .memory).view Sample.library
      (Sample.race opening first Sample.inOrder).state opening.channelId).usage "chars" =
      ∑ i, (Sample.raced opening first i).spent Sample.library
        ((Sample.race opening first Sample.inOrder).thread i) opening.channelId "chars" := by
  obtain ⟨opening, first, run⟩ := Sample.exists_raced
  obtain ⟨success, returned⟩ := Sample.thread_of_paymentSuccess run.inOrder
  obtain ⟨covers, counted⟩ := Deployment.payments_recorded (Sample.deployment .memory)
    (Sample.raced opening first) Sample.inOrder run.undisturbed
  exact ⟨opening, first, covers 2 _ _ success rfl returned, counted _ _⟩

/-- A payment is accepted while its channel is being closed: the caller is told that it has
paid two, one is stored, and the usage is not counted. -/
theorem payment_unrecorded : ∃ (opening : Sample.Opening) (first : String)
    (payment : Payment Sample.carriers) (context : Sample.carriers.Text)
    (success : Bridge.PaymentSuccess),
    Sample.raced opening first 2 = .processPayment payment context ∧
    (Sample.race opening first Sample.overtaken).thread 2 = .done (.payment (.ok success)) ∧
    ¬ ((Sample.deployment .memory).view Sample.library
        (Sample.race opening first Sample.overtaken).state payment.channelId).Covers
          payment.balance ∧
    ((Sample.deployment .memory).view Sample.library
        (Sample.race opening first Sample.overtaken).state payment.channelId).usage "chars" <
      ∑ i, (Sample.raced opening first i).spent Sample.library
        ((Sample.race opening first Sample.overtaken).thread i) payment.channelId "chars" := by
  obtain ⟨opening, first, run⟩ := Sample.exists_raced
  obtain ⟨success, returned⟩ := Sample.thread_of_paymentSuccess run.overtaken
  exact ⟨opening, first, _, _, success, rfl, returned, run.kept, run.uncounted⟩

end Spilman
