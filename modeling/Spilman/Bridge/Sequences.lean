/-
# Sequences of calls

What holds of every history of a deployment follows from what justified steps do: a
channel that is closing stays closing until it is closed (`Onward`), usage never costs
more than is paid (`Solvent`), and what is stored of a closed channel is what was paid
out. Two properties have a condition: the receiver holds a payment for every channel
only if the store can hold the first one, and a closing payment stays what it is only if
no later request to close brings another.
-/

import Spilman.Bridge.Deployment

namespace Spilman

open Lib

/-! ## What justified steps keep -/

namespace Bridge

variable {T : Carriers} {σ : Type} {L : Cashu T} {H : ConfigurableHost T σ}
  {laws : H.storage.Laws} {operation : Operation T} {origin : σ} {channelId : String}
  {before after later : ChannelView T}

/-- A channel that is closing stays that until it is closed, for good. -/
structure Onward (before after : ChannelView T) : Prop where
  closed : before.IsClosed → after.IsClosed
  closing : before.state = .ok (some .closing) →
    after.state = .ok (some .closing) ∨ after.IsClosed

theorem Onward.trans (first : Onward before after) (second : Onward after later) :
    Onward before later where
  closed := fun closed => second.closed (first.closed closed)
  closing := by
    intro closing
    rcases first.closing closing with still | closed
    · exact second.closing still
    · exact .inr (second.closed closed)

instance : Trans (@Onward T) Onward Onward := ⟨Onward.trans⟩

instance : Std.Refl (@Onward T) := ⟨fun _ => ⟨id, .inl⟩⟩

theorem Moves.onward (moves : Moves L laws operation origin channelId before after) :
    Onward before after := by
  cases moves with
  | stay => exact ⟨id, .inl⟩
  | updateBalance payment funding stored cashable => exact ⟨id, .inl⟩
  | incrementUsage usage isOpen covered => exact ⟨id, .inl⟩
  | saveFunding funding isNew =>
      constructor
      · intro closed
        have impossible := isNew.symm.trans closed
        cases impossible
      · intro closing
        have impossible := isNew.symm.trans closing
        cases impossible
  | markClosing data notClosed known closes kept =>
      exact ⟨fun closed => absurd closed notClosed, fun _ => .inl rfl⟩
  | markClosed data funding isClosing stored paidOut => exact ⟨fun _ => rfl, fun _ => .inr rfl⟩

/-- The payment that a channel is closed with stays the same until it is closed. -/
structure KeepsPayment (before after : ChannelView T) : Prop where
  closed : before.IsClosed → after.IsClosed
  closing : ∀ payment, before.ClosingWith payment → after.ClosingWith payment ∨ after.IsClosed

theorem KeepsPayment.trans (first : KeepsPayment before after)
    (second : KeepsPayment after later) : KeepsPayment before later where
  closed := fun closed => second.closed (first.closed closed)
  closing := by
    intro payment closing
    rcases first.closing payment closing with still | closed
    · exact second.closing payment still
    · exact .inr (second.closed closed)

instance : Trans (@KeepsPayment T) KeepsPayment KeepsPayment := ⟨KeepsPayment.trans⟩

/-- A call that brings no other payment keeps the one there is. -/
theorem Moves.keepsPayment (moves : Moves L laws operation origin channelId before after)
    (same : ∀ payment held, operation.Closes L H origin channelId payment →
      (H.storage.view origin channelId).ClosingWith held → payment = held) :
    KeepsPayment before after := by
  refine ⟨moves.onward.closed, ?_⟩
  intro payment closing
  cases moves with
  | stay => exact .inl closing
  | updateBalance payment funding stored cashable => exact .inl closing
  | incrementUsage usage isOpen covered => exact .inl closing
  | saveFunding funding isNew =>
      have impossible := isNew.symm.trans closing.1
      cases impossible
  | markClosing data notClosed known closes kept =>
      exact .inl ⟨rfl, data, rfl, same _ _ closes (kept payment closing)⟩
  | markClosed data funding isClosing stored paidOut => exact .inr rfl

/-- What is due is paid. -/
def Solvent (L : Cashu T) (H : ConfigurableHost T σ) (view : ChannelView T) : Prop :=
  H.due L view none ≤ view.balance

theorem solvent_of_no_usage {view : ChannelView T} (noUsage : view.usage = fun _ => 0) :
    Solvent L H view := by
  unfold Solvent
  rw [H.due_of_no_usage L noUsage]
  exact Nat.zero_le _

/-- Counters without limits go up by no more than what was paid for. -/
theorem Moves.solvent (boundless : Boundless laws)
    (moves : Moves L laws operation origin channelId before after)
    (sound : Sound L channelId before) (solvent : Solvent L H before) : Solvent L H after := by
  cases moves with
  | stay => exact solvent
  | updateBalance payment funding stored cashable =>
      exact solvent.trans (ChannelView.le_balance_updateBalance before payment).1
  | incrementUsage usage isOpen covered => exact covered boundless
  | markClosing data notClosed known closes kept => exact solvent
  | markClosed data funding isClosing stored paidOut => exact solvent
  | saveFunding funding isNew =>
      rw [(sound.saveFunding isNew funding).2]
      exact solvent_of_no_usage rfl

end Bridge

/-! ## Worlds -/

namespace Deployment

open Bridge

variable {T : Carriers} {ω : Type} (L : Cashu T) (K : KeyOps T) (D : Deployment T ω)

/-- Two worlds are related at every channel. -/
def Everywhere (related : ChannelView T → ChannelView T → Prop)
    (before after : World (D.backend.Store T) ω) : Prop :=
  ∀ channelId, related (D.view L before channelId) (D.view L after channelId)

instance {related : ChannelView T → ChannelView T → Prop} [Trans related related related] :
    Trans (D.Everywhere L related) (D.Everywhere L related) (D.Everywhere L related) :=
  ⟨fun first second channelId => Trans.trans (first channelId) (second channelId)⟩

instance {related : ChannelView T → ChannelView T → Prop} [Std.Refl related] :
    Std.Refl (D.Everywhere L related) :=
  ⟨fun _ _ => Std.Refl.refl _⟩

/-! ## Calls of a deployment -/

/-- The laws of the store. -/
def laws : (D.host L).storage.Laws := D.backend.laws L

variable {L K D} {world : World (D.backend.Store T) ω} {operation : Operation T}

theorem standing_start : Standing L (D.laws L) D.start.store where
  wellFormed := D.backend.wellFormed_new L
  sound := by
    intro channelId
    have isNew : (D.host L).storage.view D.start.store channelId = .unknown :=
      D.backend.view_new L channelId
    rw [isNew]
    exact sound_unknown

theorem returns_call (trips : L.RoundTrips) (unblinds : L.Unblinds) (operation : Operation T)
    (standing : Standing L (D.laws L) world.store) :
    Returns L (D.laws L) operation world.store (D.call L K operation world).1
      (D.call L K operation world).2.store :=
  Program.Ensures.run (follows_serve _ _) (proceeds_operation trips unblinds operation standing)

/-- What steps on standing stores keep, calls keep. -/
theorem invariant_call (trips : L.RoundTrips) (unblinds : L.Unblinds)
    {invariant : D.backend.Store T → Prop}
    (kept : ∀ before after, Standing L (D.laws L) before → Standing L (D.laws L) after →
      (∀ channelId, Moves L (D.laws L) operation world.store channelId
        ((D.host L).storage.view before channelId) ((D.host L).storage.view after channelId)) →
      invariant before → invariant after)
    (standing : Standing L (D.laws L) world.store) (start : invariant world.store) :
    invariant (D.call L K operation world).2.store ∧
      ∀ reached ∈ D.during L K operation world, invariant reached.store := by
  obtain ⟨last, visited⟩ := Program.Ensures.invariant (follows_serve _ _)
    (by
      rintro request before answer after ⟨standing, justified⟩ step holds
      exact kept before after standing (standing.step justified step)
        (moves_of_step standing.wellFormed justified step).2 holds)
    (proceeds_operation trips unblinds operation standing) start
  refine ⟨last, ?_⟩
  intro reached mem
  rcases List.mem_cons.mp mem with rfl | later
  · exact start
  · exact visited reached later

/-- What holds of every move relates neighbouring worlds of a call. -/
theorem isChain_during (trips : L.RoundTrips) (unblinds : L.Unblinds)
    {related : ChannelView T → ChannelView T → Prop}
    (moved : ∀ channelId before after, Moves L (D.laws L) operation world.store channelId before
      after → related before after)
    (standing : Standing L (D.laws L) world.store) :
    List.IsChain (D.Everywhere L related) (D.during L K operation world) := by
  have stepped : ∀ request before answer after,
      permitted L (D.laws L) operation world.store request before →
      behaviour (D.host L).storage request before answer after →
      ∀ channelId, related ((D.host L).storage.view before channelId)
        ((D.host L).storage.view after channelId) := by
    rintro request before answer after ⟨standing, justified⟩ step channelId
    exact moved channelId _ _ ((moves_of_step standing.wellFormed justified step).2 channelId)
  exact Program.Ensures.isChain_visited (follows_serve _ _) stepped
    (proceeds_operation trips unblinds operation standing)

/-- Every world of a call comes after the first and before the last one. -/
theorem onward_during (trips : L.RoundTrips) (unblinds : L.Unblinds)
    (standing : Standing L (D.laws L) world.store) {reached : World (D.backend.Store T) ω}
    (mem : reached ∈ D.during L K operation world) :
    D.Everywhere L Onward world reached ∧
      D.Everywhere L Onward reached (D.call L K operation world).2 := by
  have onward : (D.during L K operation world).Pairwise (D.Everywhere L Onward) :=
    (isChain_during trips unblinds (fun _ _ _ moves => moves.onward) standing).pairwise
  have last : (D.during L K operation world).getLast (List.ne_nil_of_mem mem) =
      (D.call L K operation world).2 := Program.getLast_visited _ _ _
  exact ⟨onward.rel_head mem, last ▸ onward.rel_getLast mem⟩

/-! ## Worlds between calls -/

theorem standing_afterCalls (trips : L.RoundTrips) (unblinds : L.Unblinds)
    (operations : List (Operation T)) :
    Standing L (D.laws L) (D.afterCalls L K operations).store := by
  have kept : ∀ (operation : Operation T) (world : World (D.backend.Store T) ω), True →
      Standing L (D.laws L) world.store →
      Standing L (D.laws L) (D.call L K operation world).2.store :=
    fun operation _ _ standing => (returns_call trips unblinds operation standing).standing
  exact Program.sequence_invariant kept operations D.start
    (Program.throughout_of_forall (fun _ _ => trivial) operations D.start) standing_start

/-- Every world of every history stands. -/
theorem standing_history (trips : L.RoundTrips) (unblinds : L.Unblinds)
    {operations : List (Operation T)} (mem : world ∈ D.history L K operations) :
    Standing L (D.laws L) world.store := by
  rcases List.mem_cons.mp mem with rfl | visited
  · exact standing_start
  · obtain ⟨before, operation, rest, rfl, during⟩ :=
      Program.exists_of_mem_visited_sequence visited
    have standing := standing_afterCalls (D := D) (K := K) trips unblinds before
    exact (invariant_call trips unblinds (fun _ _ _ standing _ _ => standing) standing
      standing).2 world (List.mem_cons_of_mem _ during)

theorem allPaid_start : AllPaid (D.host L) D.start.store := by
  intro channelId known
  have isNew : (D.host L).storage.view D.start.store channelId = .unknown :=
    D.backend.view_new L channelId
  rw [isNew] at known
  rcases known with ⟨⟨⟩⟩ | ⟨⟨⟩⟩

/-- The store can hold the first payment of a channel that a call brings. -/
def FirstPaymentFits (L : Cashu T) (D : Deployment T ω) (operation : Operation T)
    (world : World (D.backend.Store T) ω) : Prop :=
  ∀ payment, operation.Brings L payment →
    (D.host L).storage.getState world.store payment.channelId = .ok none →
    D.backend = .sqlite → payment.balance < 2 ^ 63

theorem FirstPaymentFits.fits (small : FirstPaymentFits L D operation world) :
    Fits L (D.laws L) operation world.store := by
  intro payment brings isNew
  exact StorageConfig.keeps_of_small L (small payment brings isNew)

theorem allPaid_afterCalls (trips : L.RoundTrips) (unblinds : L.Unblinds)
    {operations : List (Operation T)} (fits : D.Throughout L K (FirstPaymentFits L D) operations) :
    AllPaid (D.host L) (D.afterCalls L K operations).store := by
  have kept : ∀ (operation : Operation T) (world : World (D.backend.Store T) ω),
      FirstPaymentFits L D operation world →
      Standing L (D.laws L) world.store ∧ AllPaid (D.host L) world.store →
      Standing L (D.laws L) (D.call L K operation world).2.store ∧
        AllPaid (D.host L) (D.call L K operation world).2.store := by
    rintro operation world fits ⟨standing, paid⟩
    have returns := returns_call (K := K) trips unblinds operation standing
    exact ⟨returns.standing, returns.paid fits.fits paid⟩
  exact (Program.sequence_invariant kept operations D.start fits
    ⟨standing_start, allPaid_start⟩).2

/-- **The receiver holds a payment it can cash in** for every channel that is not closed, if
the store can hold the first payments. -/
theorem cashable_afterCalls (trips : L.RoundTrips) (unblinds : L.Unblinds)
    {operations : List (Operation T)} (fits : D.Throughout L K (FirstPaymentFits L D) operations)
    {channelId : String}
    (unsettled : (D.view L (D.afterCalls L K operations) channelId).state = .ok (some .opened) ∨
      (D.view L (D.afterCalls L K operations) channelId).state = .ok (some .closing)) :
    ∃ funding payment params,
      (D.view L (D.afterCalls L K operations) channelId).funding = some funding ∧
      (D.view L (D.afterCalls L K operations) channelId).payment = some payment ∧
      verifySignature L funding channelId payment.balance payment.signature = .ok () ∧
      storedParams L funding = .ok params ∧ payment.balance ≤ params.capacity := by
  have isPaid := allPaid_afterCalls trips unblinds fits channelId unsettled
  obtain ⟨payment, isPayment⟩ := Option.isSome_iff_exists.mp isPaid
  have standing := standing_afterCalls (D := D) (K := K) trips unblinds operations
  obtain ⟨funding, isFunding, signed, params, isParams, within⟩ :=
    (standing.sound channelId).cashable payment isPayment
  exact ⟨funding, payment, params, isFunding, isPayment, signed, isParams, within⟩

end Deployment

namespace Sample

/-- A keyset of one denomination that SQLite cannot hold. -/
def wide : KeysetInfo carriers := mintKeyset "sat" [(2 ^ 63, point 5)] 0

/-- A channel of that much. -/
def large : Terms := ⟨"m", "sat", 2 ^ 63, 2 ^ 63, 0, 2000, "ordinary"⟩

theorem exists_paid_sqlite : ∃ opening : Opening, ((deployment .sqlite).view library
    (paid .sqlite (pairs "sat") opening 1 0) opening.channelId).state = .ok (some .opened) := by
  have ran : ((two "m").openWith (pairs "sat") 1).okAnd (fun opening =>
      decide (((deployment .sqlite).view library (paid .sqlite (pairs "sat") opening 1 0)
        opening.channelId).state = .ok (some .opened))) = true := by
    decide +kernel
  obtain ⟨opening, -, opened⟩ := Outcome.exists_of_okAnd ran
  exact ⟨opening, of_decide_eq_true opened⟩

end Sample

/-- A channel over SQLite that was paid one. -/
theorem cashable_paid_sqlite : ∃ (opening : Sample.Opening) (funding : ChannelFunding _)
    (payment : PaymentProof) (params : ChannelParameters _),
    ((Sample.deployment .sqlite).view Sample.library
      (Sample.paid .sqlite (Sample.pairs "sat") opening 1 0) opening.channelId).funding =
        some funding ∧
    ((Sample.deployment .sqlite).view Sample.library
      (Sample.paid .sqlite (Sample.pairs "sat") opening 1 0) opening.channelId).payment =
        some payment ∧
    verifySignature Sample.library funding opening.channelId payment.balance payment.signature =
      .ok () ∧
    storedParams Sample.library funding = .ok params ∧ payment.balance ≤ params.capacity := by
  obtain ⟨opening, opened⟩ := Sample.exists_paid_sqlite
  have fits : (Sample.deployment .sqlite).Throughout Sample.library Sample.agreedKeys
      (Deployment.FirstPaymentFits Sample.library (Sample.deployment .sqlite))
      [Sample.cacheKeyset (Sample.pairs "sat"), opening.pay 1 0] := by
    refine ⟨?_, ?_, trivial⟩
    · rintro payment ⟨⟩
    · rintro payment rfl _ _
      exact Nat.one_lt_two_pow (by decide)
  exact ⟨opening,
    Deployment.cashable_afterCalls Sample.roundTrips Sample.unblinds fits (.inl opened)⟩

/-- A first payment that SQLite cannot hold: the channel is open, the payment is lost. -/
theorem firstPayment_lost : ∃ opening : Sample.Opening,
    ((Sample.deployment .sqlite).view Sample.library
        (Sample.paid .sqlite Sample.wide opening (2 ^ 63) 0) opening.channelId).state =
      .ok (some .opened) ∧
    ((Sample.deployment .sqlite).view Sample.library
        (Sample.paid .sqlite Sample.wide opening (2 ^ 63) 0) opening.channelId).payment =
      none := by
  have ran : (Sample.large.openWith Sample.wide (2 ^ 63)).okAnd (fun opening =>
      decide (((Sample.deployment .sqlite).view Sample.library
          (Sample.paid .sqlite Sample.wide opening (2 ^ 63) 0) opening.channelId).state =
        .ok (some .opened) ∧
      ((Sample.deployment .sqlite).view Sample.library
          (Sample.paid .sqlite Sample.wide opening (2 ^ 63) 0) opening.channelId).payment =
        none)) = true := by
    decide +kernel
  obtain ⟨opening, -, lost⟩ := Outcome.exists_of_okAnd ran
  exact ⟨opening, of_decide_eq_true lost⟩

namespace Deployment

open Bridge

variable {T : Carriers} {ω : Type} {L : Cashu T} {K : KeyOps T} {D : Deployment T ω}
  {world : World (D.backend.Store T) ω}

variable (L D) in
/-- What is due on any channel is paid. -/
def AllSolvent (store : D.backend.Store T) : Prop :=
  ∀ channelId, Solvent L (D.host L) ((D.host L).storage.view store channelId)

theorem allSolvent_start : AllSolvent L D D.start.store := by
  intro channelId
  have isNew : (D.host L).storage.view D.start.store channelId = .unknown :=
    D.backend.view_new L channelId
  rw [isNew]
  exact solvent_of_no_usage rfl

theorem allSolvent_call (trips : L.RoundTrips) (unblinds : L.Unblinds)
    (inMemory : D.backend = .memory) (operation : Operation T)
    (standing : Standing L (D.laws L) world.store) (solvent : AllSolvent L D world.store) :
    AllSolvent L D (D.call L K operation world).2.store := by
  have boundless : Boundless (D.laws L) := StorageConfig.boundless_of_memory L inMemory
  have kept : ∀ before after, Standing L (D.laws L) before → Standing L (D.laws L) after →
      (∀ channelId, Moves L (D.laws L) operation world.store channelId
        ((D.host L).storage.view before channelId) ((D.host L).storage.view after channelId)) →
      AllSolvent L D before → AllSolvent L D after := by
    intro before after standing _ moves solvent channelId
    exact (moves channelId).solvent boundless (standing.sound channelId) (solvent channelId)
  exact (invariant_call trips unblinds kept standing solvent).1

/-- **Calls one after the other stay solvent**: what is due on an open channel is at most
what is stored of its payments. -/
theorem solvent_afterCalls (trips : L.RoundTrips) (unblinds : L.Unblinds)
    (inMemory : D.backend = .memory) (operations : List (Operation T)) (now : Nat)
    {channelId : String}
    (isOpen : (D.view L (D.afterCalls L K operations) channelId).state = .ok (some .opened)) :
    ∃ payment, (D.view L (D.afterCalls L K operations) channelId).payment = some payment ∧
      ((D.host L).answers L K ⟨(D.afterCalls L K operations).store, now⟩).getAmountDue channelId
        none ≤ payment.balance := by
  have kept : ∀ (operation : Operation T) (world : World (D.backend.Store T) ω), True →
      Standing L (D.laws L) world.store ∧ AllSolvent L D world.store →
      Standing L (D.laws L) (D.call L K operation world).2.store ∧
        AllSolvent L D (D.call L K operation world).2.store := by
    rintro operation world - ⟨standing, solvent⟩
    exact ⟨(returns_call trips unblinds operation standing).standing,
      allSolvent_call trips unblinds inMemory operation standing solvent⟩
  obtain ⟨-, solvent⟩ := Program.sequence_invariant kept operations D.start
    (Program.throughout_of_forall (fun _ _ => trivial) operations D.start)
    ⟨standing_start, allSolvent_start⟩
  have fits : D.Throughout L K (FirstPaymentFits L D) operations := by
    apply Program.throughout_of_forall
    intro operation world payment _ _ inSqlite
    have impossible := inMemory.symm.trans inSqlite
    cases impossible
  have isPaid := allPaid_afterCalls trips unblinds fits channelId (.inl isOpen)
  obtain ⟨payment, isPayment⟩ := Option.isSome_iff_exists.mp isPaid
  refine ⟨payment, isPayment, ?_⟩
  rw [(D.host L).getAmountDue_eq]
  exact (solvent channelId).trans (ChannelView.balance_of_payment isPayment).le

end Deployment

/-- A channel that was paid two and has used one. -/
theorem solvent_paid : ∃ (opening : Sample.Opening) (payment : PaymentProof),
    ((Sample.deployment .memory).view Sample.library
      (Sample.paid .memory (Sample.pairs "sat") opening 2 1) opening.channelId).payment =
        some payment ∧
    (((Sample.deployment .memory).host Sample.library).answers Sample.library Sample.agreedKeys
      ⟨(Sample.paid .memory (Sample.pairs "sat") opening 2 1).store, 1000⟩).getAmountDue
        opening.channelId none ≤ payment.balance := by
  obtain ⟨opening, _, run⟩ := Sample.exists_interrupted
  exact ⟨opening, Deployment.solvent_afterCalls Sample.roundTrips Sample.unblinds rfl _ 1000
    run.opened⟩

/-! ## Closes -/

namespace Deployment

open Bridge

variable {T : Carriers} {ω : Type} {L : Cashu T} {K : KeyOps T} {D : Deployment T ω}

/-- No call asks to close a channel with another payment than the one it is closing with. -/
def BringsSamePayment (L : Cashu T) (D : Deployment T ω) (operation : Operation T)
    (world : World (D.backend.Store T) ω) : Prop :=
  ∀ channelId payment held, operation.Closes L (D.host L) world.store channelId payment →
    (D.view L world channelId).ClosingWith held → payment = held

/-- **The closing payment is fixed** if no call brings another. -/
theorem closingPayment_fixed (trips : L.RoundTrips) (unblinds : L.Unblinds)
    {operations : List (Operation T)}
    (same : D.Throughout L K (BringsSamePayment L D) operations) :
    (D.history L K operations).Pairwise fun before after => ∀ channelId payment,
      (D.view L before channelId).ClosingWith payment →
        (D.view L after channelId).ClosingWith payment ∨ (D.view L after channelId).IsClosed := by
  have kept : ∀ (operation : Operation T) (world : World (D.backend.Store T) ω),
      BringsSamePayment L D operation world → Standing L (D.laws L) world.store →
      Standing L (D.laws L) (D.call L K operation world).2.store ∧
        List.IsChain (D.Everywhere L KeepsPayment) (D.during L K operation world) := by
    intro operation world same standing
    refine ⟨(returns_call trips unblinds operation standing).standing, ?_⟩
    apply isChain_during trips unblinds _ standing
    intro channelId before after moves
    exact moves.keepsPayment (same channelId)
  have chain := Program.isChain_visited_sequence kept operations D.start same standing_start
  exact chain.pairwise.imp fun keeps channelId => (keeps channelId).closing

end Deployment

/-- The calls up to an interrupted close, and its resumption. -/
theorem closingPayment_fixed_resumed : ∃ opening : Sample.Opening,
    ((Sample.deployment .memory).view Sample.library (Sample.closes opening).2
      opening.channelId).ClosingWith ⟨2, opening.signature⟩ ∧
    ((Sample.deployment .memory).history Sample.library Sample.agreedKeys
      [Sample.cacheKeyset (Sample.pairs "sat"), opening.pay 2 1,
        .executeUnilateralClose opening.channelId,
        .executeCloseForClosingChannel opening.channelId]).Pairwise fun before after =>
      ∀ channelId payment,
        ((Sample.deployment .memory).view Sample.library before channelId).ClosingWith payment →
        ((Sample.deployment .memory).view Sample.library after channelId).ClosingWith payment ∨
          ((Sample.deployment .memory).view Sample.library after channelId).IsClosed := by
  obtain ⟨opening, _, run⟩ := Sample.exists_interrupted
  refine ⟨opening, run.closing, ?_⟩
  apply Deployment.closingPayment_fixed Sample.roundTrips Sample.unblinds
  have paid : (Sample.deployment .memory).Throughout Sample.library Sample.agreedKeys
      (Deployment.BringsSamePayment Sample.library (Sample.deployment .memory))
      [Sample.cacheKeyset (Sample.pairs "sat"), opening.pay 2 1] :=
    ⟨by rintro _ _ _ ⟨⟩, by rintro _ _ _ ⟨⟩, trivial⟩
  have closed : (Sample.deployment .memory).Throughout Sample.library Sample.agreedKeys
      (Deployment.BringsSamePayment Sample.library (Sample.deployment .memory))
      ([Sample.cacheKeyset (Sample.pairs "sat"), opening.pay 2 1] ++
        [.executeUnilateralClose opening.channelId]) := by
    refine Program.throughout_append.mpr ⟨paid, ?_⟩
    rintro channelId payment held ⟨rfl, -⟩ closing
    have impossible := run.opened.symm.trans closing.1
    cases impossible
  exact Program.throughout_append.mpr ⟨closed, by rintro _ _ _ ⟨⟩⟩

/-- A close that is interrupted is asked for again with a smaller payment, which replaces the
one that may have been submitted. -/
theorem closingPayment_replaced : ∃ (opening : Sample.Opening) (refund : String),
    ((Sample.deployment .memory).view Sample.library
      ((Sample.deployment .memory).afterCalls Sample.library Sample.agreedKeys
        [Sample.cacheKeyset (Sample.pairs "sat"), opening.pay 2 1,
          .executeUnilateralClose opening.channelId])
      opening.channelId).ClosingWith ⟨2, opening.signature⟩ ∧
    ((Sample.deployment .memory).view Sample.library
      ((Sample.deployment .memory).afterCalls Sample.library Sample.agreedKeys
        [Sample.cacheKeyset (Sample.pairs "sat"), opening.pay 2 1,
          .executeUnilateralClose opening.channelId, opening.close 1 refund])
      opening.channelId).ClosingWith ⟨1, refund⟩ := by
  obtain ⟨opening, refund, run⟩ := Sample.exists_interrupted
  have interrupted : (Sample.deployment .memory).afterCalls Sample.library Sample.agreedKeys
      [Sample.cacheKeyset (Sample.pairs "sat"), opening.pay 2 1,
        .executeUnilateralClose opening.channelId] = (Sample.closes opening).2 :=
    Deployment.afterCalls_append _ _ _ [_, _] _
  have again : (Sample.deployment .memory).afterCalls Sample.library Sample.agreedKeys
      [Sample.cacheKeyset (Sample.pairs "sat"), opening.pay 2 1,
        .executeUnilateralClose opening.channelId, opening.close 1 refund] =
      ((Sample.deployment .memory).call Sample.library Sample.agreedKeys (opening.close 1 refund)
        (Sample.closes opening).2).2 := by
    rw [← interrupted]
    exact Deployment.afterCalls_append _ _ _ [_, _, _] _
  refine ⟨opening, refund, ?_⟩
  rw [interrupted, again]
  exact ⟨run.closing, run.replaced⟩

namespace Deployment

open Bridge

variable {T : Carriers} {ω : Type} {L : Cashu T} {K : KeyOps T} {D : Deployment T ω}

/-- **A channel is closed only with its verified payout**, and a call that fails leaves a
channel that it has met closing as it was. -/
theorem closed_only_with_payout (trips : L.RoundTrips) (unblinds : L.Unblinds)
    (operations : List (Operation T)) :
    (∀ world ∈ D.history L K operations, ∀ channelId,
      (D.view L world channelId).state = .ok (some .closed) →
      ∃ funding params search data, (D.view L world channelId).funding = some funding ∧
        storedParams L funding = .ok params ∧ (D.view L world channelId).closed = some data ∧
        data.closedAmount ≤ params.capacity ∧
        params.keysetInfo.inverseDeterministicValueAfterFees data.closedAmount
          params.maximumAmountForOneOutput = .ok search ∧
        data.receiverSum = search.nominalValue ∧
        data.valueAfterStage1 = data.receiverSum + data.senderSum ∧
        params.getValueAfterStage1 = .ok data.valueAfterStage1) ∧
    ∀ operation, (D.call L K operation (D.afterCalls L K operations)).1.isOk = false →
      ∀ world ∈ D.during L K operation (D.afterCalls L K operations), ∀ channelId,
        (D.view L world channelId).state = .ok (some .closing) →
        (D.view L (D.call L K operation (D.afterCalls L K operations)).2 channelId).state =
            .ok (some .closing) ∧
          (D.view L (D.call L K operation (D.afterCalls L K operations)).2
            channelId).closing.isSome := by
  constructor
  · intro world mem channelId closed
    have sound := (standing_history trips unblinds mem).sound channelId
    obtain ⟨data, isData⟩ := Option.isSome_iff_exists.mp (sound.closed closed)
    obtain ⟨funding, isFunding, params, search, isParams, within, found, nominal, total, left⟩ :=
      sound.paidOut data isData
    exact ⟨funding, params, search, data, isFunding, isParams, isData, within, found, nominal,
      total, left⟩
  · intro operation failed world mem channelId closing
    have standing := standing_afterCalls (D := D) (K := K) trips unblinds operations
    have returns := returns_call (K := K) trips unblinds operation standing
    obtain ⟨fromStart, toEnd⟩ := onward_during trips unblinds standing mem
    rcases (toEnd channelId).closing closing with still | closed
    · exact ⟨still, (returns.standing.sound channelId).closing still⟩
    · -- A failed call has closed nothing, and what was closed before is not closing.
      have before := (fromStart channelId).closed (returns.noneClosed failed channelId closed)
      have impossible := closing.symm.trans before
      cases impossible

end Deployment

/-- A close that cannot reach the mint. -/
theorem closes_unreachable : ∃ opening : Sample.Opening,
    (Sample.closes opening).1.isOk = false ∧
    ((Sample.deployment .memory).view Sample.library (Sample.closes opening).2
      opening.channelId).state = .ok (some .closing) ∧
    ((Sample.deployment .memory).view Sample.library (Sample.closes opening).2
      opening.channelId).closing.isSome := by
  obtain ⟨opening, _, run⟩ := Sample.exists_interrupted
  have result := Deployment.closed_only_with_payout (D := Sample.deployment .memory)
    (K := Sample.agreedKeys) Sample.roundTrips Sample.unblinds
    [Sample.cacheKeyset (Sample.pairs "sat"), opening.pay 2 1]
  have left := result.2 (.executeUnilateralClose opening.channelId) run.failed _
    (Deployment.call_mem_during _ _ _ _ _) opening.channelId run.closing.1
  exact ⟨opening, run.failed, left⟩

end Spilman
