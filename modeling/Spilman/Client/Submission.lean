/-
# What an opening's error says of the money

A failed opening tells its caller whether the inputs may be spent. If it says that they
are not, they are not: every swap that was sent was rejected for its keyset. And if it
says that they may be, there is a record in the store from which the opening can be
recovered. Both rest on the order of the steps: a swap is sent only after its opening was
saved, and nothing that comes after an answer other than a rejection removes the record.

The steps are followed with what the store shows and with what was asked and answered so
far (`Seen`); `openCalls_tell_the_truth` is about whole runs with any store that keeps the
laws of client stores, any keys and clocks, and any mint. For the same reason a call offers
its inputs again only after a rejection. A recovery from the record opens the channel or
changes nothing.
-/

import Spilman.Client.Calls
import Spilman.Client.Lifecycle

namespace Spilman

open Lib

variable {T : Carriers}

/-! ## What is seen along a run -/

/-- The steps of a client so far, with their answers. -/
abbrev ClientLog (T : Carriers) := List (Program.Exchange (clientRequests T))

/-- What was asked and answered, and what the store shows. -/
structure Seen (T : Carriers) where
  log : ClientLog T
  views : String → ClientView T

/-- A swap that was sent, and its answer. -/
structure SentSwap (T : Carriers) where
  mintUrl : String
  requestJson : T.Text
  answer : Except MintRequestError T.Text

/-- The swap of a step. -/
def sentSwap : Program.Exchange (clientRequests T) → Option (SentSwap T)
  | ⟨.callMintSwap mintUrl requestJson, answer⟩ => some ⟨mintUrl, requestJson, answer⟩
  | _ => none

/-- The swaps of a run. -/
def sentSwaps (log : ClientLog T) : List (SentSwap T) := log.filterMap sentSwap

/-- What a writing step may do: it fails and changes nothing, or it does what it is for. -/
def Performs (operation : ClientOperation T) (answer : Except String Unit)
    (before after : String → ClientView T) : Prop :=
  (∃ error, answer = .error error ∧ after = before) ∨
  answer = .ok () ∧ (operation.channelId = none → after = before) ∧
    ∀ channelId ∈ operation.channelId, operation.Enabled (before channelId) ∧
      ActsOn operation channelId before after

/-- How a correct store answers, in the terms of what it shows. -/
def Shows : (request : ClientRequest T) → request.Response →
    (before after : String → ClientView T) → Prop
  | .write operation, answer, before, after => Performs operation answer before after
  | .getChannelOpeningFromSwap channelId, answer, before, after =>
      answer = (before channelId).openingFromSwap channelId ∧ after = before
  | _, _, before, after => after = before

/-- A step is written down, and answered as a correct store does. -/
def storing : Program.Behaviour (clientRequests T) (Seen T) := fun request before answer after =>
  after.log = before.log ++ [⟨request, answer⟩] ∧ Shows request answer before.views after.views

section World

variable {σ ω : Type} {S : ClientStorage T σ} {E : ClientEnvironment T σ ω}

theorem performs_of_laws (laws : S.Laws) (operation : ClientOperation T) (store : σ) :
    Performs operation (S.perform operation store).1 (laws.view store)
      (laws.view (S.perform operation store).2) := by
  cases named : operation.channelId with
  | none =>
      cases operation with
      | setKeyset mint id entry =>
          obtain ⟨accepted, same⟩ := laws.setKeyset store mint id entry
          exact .inr ⟨accepted, fun _ => same, by rintro _ ⟨⟩⟩
      | _ => cases named
  | some channelId =>
      by_cases accepts : laws.Accepts operation (laws.view store channelId)
      · obtain ⟨accepted, acts⟩ := laws.accepted operation store channelId named accepts
        refine .inr ⟨accepted, fun none => absurd (named.symm.trans none) (by simp), ?_⟩
        rintro other names
        obtain rfl := Option.some.inj (named.symm.trans names)
        exact ⟨laws.enabled accepts, acts⟩
      · obtain ⟨error, refused⟩ := laws.refused operation store channelId named accepts
        exact .inl ⟨error, by rw [refused], by rw [refused]⟩

/-- What is seen of a world. -/
def ClientStorage.Laws.seen (laws : S.Laws) (state : ClientLog T × ClientWorld σ ω) : Seen T :=
  ⟨state.1, laws.view state.2.store⟩

/-- The world of a client answers so. -/
theorem follows_serveClient (laws : S.Laws) :
    Program.Follows (Program.logged (serveClient S E)) laws.seen storing := by
  intro request state
  refine ⟨rfl, ?_⟩
  cases request with
  | write operation => exact performs_of_laws laws operation state.2.store
  | getChannelOpeningFromSwap channelId =>
      exact ⟨laws.getOpeningFromSwap state.2.store channelId, rfl⟩
  | _ => rfl

end World

/-! ## Steps that touch no opening -/

/-- Reading, asking for keysets and caching them. -/
def Quiet : ClientRequest T → Prop
  | .callMintSwap _ _ => False
  | .write operation => operation.channelId = none
  | _ => True

theorem sentSwaps_concat (log : ClientLog T) (exchange : Program.Exchange (clientRequests T)) :
    sentSwaps (log ++ [exchange]) = sentSwaps log ++ (sentSwap exchange).toList := by
  rw [sentSwaps, List.filterMap_append]
  cases sent : sentSwap exchange with
  | none => rw [List.filterMap_cons_none sent]; rfl
  | some swap => rw [List.filterMap_cons_some sent]; rfl

theorem sentSwaps_of_write {operation : ClientOperation T} {answer : Except String Unit}
    {before after : ClientLog T} (logged : after = before ++ [⟨.write operation, answer⟩]) :
    sentSwaps after = sentSwaps before := by
  rw [logged, sentSwaps_concat]
  exact List.append_nil _

theorem same_of_quiet {request : ClientRequest T} {before after : Seen T}
    {answer : request.Response} (quiet : Quiet request)
    (step : storing request before answer after) :
    sentSwaps after.log = sentSwaps before.log ∧ after.views = before.views := by
  obtain ⟨logged, shows⟩ := step
  rw [logged, sentSwaps_concat]
  cases request with
  | callMintSwap mintUrl requestJson => exact quiet.elim
  | write operation =>
      refine ⟨List.append_nil _, ?_⟩
      obtain ⟨_, -, same⟩ | ⟨-, same, -⟩ := shows
      · exact same
      · exact same quiet
  | getChannelOpeningFromSwap channelId => exact ⟨List.append_nil _, shows.2⟩
  | _ => exact ⟨List.append_nil _, shows⟩

/-! ## What holds at the end -/

variable (L : Cashu T) (W : WalletOps T)

section Evidence

variable (input : T.Text) (terms : OpeningTerms)

/-- An opening that was computed for an input under some terms. -/
def OpeningFor (prepared : PreparedOpenChannel T) : Prop :=
  ∃ host source keysetInfoJson unixTime, source.input = input ∧
    ClientHost.prepareOpenChannel L W host source terms keysetInfoJson unixTime = .ok prepared

/-- A swap is sent for an opening that was saved. -/
def MaySend : ClientRequest T → ClientLog T → Prop
  | .callMintSwap mintUrl requestJson, log => ∃ prepared, OpeningFor L W input terms prepared ∧
      prepared.mintUrl = mintUrl ∧ prepared.swapRequestJson = requestJson ∧
      ⟨.write (.saveOpeningFromSwap prepared.channelId prepared.opening), .ok ()⟩ ∈ log
  | _, _ => True

/-- Every swap so far was rejected for its keyset. -/
def AllRejected (log : ClientLog T) : Prop :=
  ∀ swap ∈ sentSwaps log, KeysetRejection swap.answer

/-- A swap is sent for an opening that was saved, while no other may have been executed. -/
def MayOffer : ClientRequest T → ClientLog T → Prop
  | .callMintSwap mintUrl requestJson, log =>
      MaySend L W input terms (.callMintSwap mintUrl requestJson) log ∧ AllRejected log
  | _, _ => True

/-- The record of a swap that was not rejected is still there. -/
def Recoverable (seen : Seen T) : Prop :=
  ∀ swap ∈ sentSwaps seen.log, ¬ KeysetRejection swap.answer →
    ∃ prepared, OpeningFor L W input terms prepared ∧ prepared.mintUrl = swap.mintUrl ∧
      prepared.swapRequestJson = swap.requestJson ∧
      (seen.views prepared.channelId).openingFromSwap prepared.channelId =
        .ok (some prepared.opening)

/-- An error that says that the inputs may be spent names a channel that is being opened. -/
def NamesOpening (views : String → ClientView T) (error : OpenChannelError) : Prop :=
  error.inputMayBeSpent = true →
    ∃ channelId ∈ error.channelId, (views channelId).state = some .openingFromSwap

/-- The last swap was answered, and all before it were rejected. -/
def LastAnswered (log : ClientLog T) (prepared : PreparedOpenChannel T) (response : T.Text) : Prop :=
  ∃ earlier, sentSwaps log =
      earlier ++ [⟨prepared.mintUrl, prepared.swapRequestJson, .ok response⟩] ∧
    ∀ swap ∈ earlier, KeysetRejection swap.answer

/-- A channel that was opened: its swap was answered, and its record is the funding that the
answer was completed to. -/
structure OpenedChannel (seen : Seen T) (opened : OpenChannelResult T)
    (prepared : PreparedOpenChannel T) (response : T.Text) (completed : CompletedOpenChannel T) :
    Prop where
  computed : OpeningFor L W input terms prepared
  answered : LastAnswered seen.log prepared response
  completes : completePreparedOpenChannel L prepared response = .ok completed
  result : opened = completed.result
  state : (seen.views prepared.channelId).state = some .opened
  funding : (seen.views prepared.channelId).funding =
    some (prepared.opening.funding completed.fundingProofsJson)

/-- What a call may end with. -/
def EndsWith : Outcome OpenChannelError (OpenChannelResult T) → Seen T → Prop
  | .ok opened, seen => ∃ prepared response completed,
      OpenedChannel L W input terms seen opened prepared response completed
  | .err error, seen => (error.inputMayBeSpent = false → AllRejected seen.log) ∧
      NamesOpening seen.views error ∧ Recoverable L W input terms seen
  | .noReturn, seen => Recoverable L W input terms seen

end Evidence

section Rules

variable {L W} {input : T.Text} {terms : OpeningTerms} {prepared : PreparedOpenChannel T}
  {seen : Seen T} {α : Type}

variable (L W input terms) in
/-- What a program ensures along a run that is watched. -/
abbrev Watched (post : α → Seen T → Prop) (program : Program (clientRequests T) α)
    (seen : Seen T) : Prop :=
  Program.Ensures storing (fun request seen => MayOffer L W input terms request seen.log) post
    program seen

theorem recoverable_of_allRejected (rejected : AllRejected seen.log) :
    Recoverable L W input terms seen :=
  fun swap sent other => absurd (rejected swap sent) other

/-- An error that says that the inputs are not spent is right while all swaps were
rejected. -/
theorem endsWith_of_unspent (rejected : AllRejected seen.log) {error : OpenChannelError}
    (unspent : error.inputMayBeSpent = false) : EndsWith L W input terms (.err error) seen :=
  ⟨fun _ => rejected, fun spent => absurd (unspent.symm.trans spent) Bool.false_ne_true,
    recoverable_of_allRejected rejected⟩

variable (L W input terms) in
/-- A part of a call before which all swaps were rejected, and that sends none. -/
def SendsNothing (result : Outcome OpenChannelError α) (after : Seen T) : Prop :=
  AllRejected after.log ∧ ∀ error, result = .err error → EndsWith L W input terms (.err error) after

theorem ensures_part {part : ClientCall T OpenChannelError α}
    {rest : α → ClientCall T OpenChannelError (OpenChannelResult T)}
    (first : Watched L W input terms (SendsNothing L W input terms) part seen)
    (next : ∀ value after, AllRejected after.log →
      Watched L W input terms (EndsWith L W input terms) (rest value) after) :
    Watched L W input terms (EndsWith L W input terms)
      (part >>= rest : ClientCall T OpenChannelError _) seen := by
  apply Attempt.ensures_bind
  apply first.mono
  rintro result after ⟨rejected, failed⟩
  cases result with
  | ok value => exact next value after rejected
  | err error => exact failed error rfl
  | noReturn => exact recoverable_of_allRejected rejected

/-- What keeps to quiet steps sends nothing. -/
theorem ensures_quiet {program : Program (clientRequests T) α} (asks : Program.Asks Quiet program)
    (rejected : AllRejected seen.log) :
    Watched L W input terms (fun _ after => AllRejected after.log) program seen := by
  apply Program.Asks.ensures asks
  case start => exact rejected
  case permits =>
    intro request seen quiet _
    cases request with
    | callMintSwap mintUrl requestJson => exact quiet.elim
    | _ => trivial
  case kept =>
    intro request before answer after quiet rejected step
    rw [AllRejected, (same_of_quiet quiet step).1]
    exact rejected

/-! ### Before the swap -/

open ClientBridge

theorem state_of_openingFromSwap {view : ClientView T} {channelId : String}
    (shown : view.openingFromSwap channelId ≠ .ok none) : view.state = some .openingFromSwap := by
  by_contra other
  exact shown (if_pos other)

theorem ensures_requireFresh (rejected : AllRejected seen.log) :
    Watched L W input terms (SendsNothing L W input terms) (requireFreshOpenSubmission prepared)
      seen := by
  refine ⟨trivial, ?_⟩
  rintro (answer : Except String (Option (ClientChannelOpeningFromSwap T))) after step
  have quiet : Quiet (.getChannelOpeningFromSwap prepared.channelId : ClientRequest T) := trivial
  obtain ⟨sameSwaps, sameViews⟩ := same_of_quiet quiet step
  obtain ⟨isAnswer, -⟩ := step.2
  have rejected' : AllRejected after.log := by
    rw [AllRejected, sameSwaps]
    exact rejected
  -- an error here says that the opening has been submitted, and it has
  have blocked (other : answer ≠ .ok none) (message : String) : SendsNothing L W input terms
      (.err (.new .swapSubmitted (some prepared.channelId) message) : Outcome _ Unit) after := by
    refine ⟨rejected', ?_⟩
    rintro _ ⟨⟩
    refine ⟨fun unspent => absurd unspent (by simp [OpenChannelError.new]),
      fun _ => ⟨prepared.channelId, rfl, ?_⟩, recoverable_of_allRejected rejected'⟩
    rw [sameViews]
    exact state_of_openingFromSwap (isAnswer ▸ other)
  cases answer with
  | error message => exact blocked (by rintro ⟨⟩) message
  | ok existing =>
      cases existing with
      | none => exact ⟨rejected', by rintro _ ⟨⟩⟩
      | some opening => exact blocked (by rintro ⟨⟩) _

/-- The opening has been saved, and is shown. -/
structure Saved (prepared : PreparedOpenChannel T) (seen : Seen T) : Prop where
  written : ⟨.write (.saveOpeningFromSwap prepared.channelId prepared.opening), .ok ()⟩ ∈ seen.log
  state : (seen.views prepared.channelId).state = some .openingFromSwap
  opening : (seen.views prepared.channelId).opening = some prepared.opening

theorem Saved.shown (saved : Saved prepared seen) :
    (seen.views prepared.channelId).openingFromSwap prepared.channelId =
      .ok (some prepared.opening) := by
  rw [ClientView.openingFromSwap, if_neg (not_not.mpr saved.state), saved.opening]

/-- A step that leaves the store as it is. -/
theorem Saved.next {request : ClientRequest T} {answer : request.Response} {after : Seen T}
    (saved : Saved prepared seen) (step : storing request seen answer after)
    (same : after.views = seen.views) : Saved prepared after where
  written := step.1 ▸ List.mem_append_left _ saved.written
  state := same ▸ saved.state
  opening := same ▸ saved.opening

theorem ensures_save (rejected : AllRejected seen.log) :
    Watched L W input terms (fun result after => SendsNothing L W input terms result after ∧
      (result = .ok () → Saved prepared after)) (markPreparedOpenSaved prepared) seen := by
  refine ⟨trivial, ?_⟩
  rintro (answer : Except String Unit) after ⟨logged, performs⟩
  have rejected' : AllRejected after.log := by
    rw [AllRejected, sentSwaps_of_write logged]
    exact rejected
  obtain ⟨message, rfl, -⟩ | ⟨rfl, -, acts⟩ := performs
  · refine ⟨⟨rejected', ?_⟩, by rintro ⟨⟩⟩
    rintro _ ⟨⟩
    exact endsWith_of_unspent rejected' rfl
  · obtain ⟨-, acts⟩ := acts prepared.channelId rfl
    refine ⟨⟨rejected', by rintro _ ⟨⟩⟩, fun _ => ⟨?_, ?_, ?_⟩⟩
    · rw [logged]
      exact List.mem_append_right _ List.mem_cons_self
    · rw [acts.own]
      rfl
    · rw [acts.own]
      rfl

/-! ### After the swap -/

/-- An error that names the channel and says that the inputs may be spent. -/
def MaySpend (prepared : PreparedOpenChannel T) (error : OpenChannelError) : Prop :=
  error.channelId = some prepared.channelId ∧ error.inputMayBeSpent = true

theorem endsWith_of_maySpend {error : OpenChannelError} (maySpend : MaySpend prepared error)
    (saved : Saved prepared seen) (recoverable : Recoverable L W input terms seen) :
    EndsWith L W input terms (.err error) seen :=
  ⟨fun unspent => absurd (unspent.symm.trans maySpend.2) Bool.false_ne_true,
    fun _ => ⟨prepared.channelId, maySpend.1, saved.state⟩, recoverable⟩

theorem failsOnly_complete (response : T.Text) :
    (completePreparedOpenChannel L prepared response).FailsOnly (MaySpend prepared) := by
  refine (Outcome.failsOnly_mapErr fun _ => ⟨rfl, rfl⟩).bind fun _ => ?_
  exact (Outcome.failsOnly_mapErr fun _ => ⟨rfl, rfl⟩).bind fun _ => Outcome.failsOnly_ok _

theorem failsOnly_restoreRequest :
    (fundingRestoreRequestForPreparedOpen L prepared).FailsOnly (MaySpend prepared) :=
  Outcome.failsOnly_mapErr fun _ => ⟨rfl, rfl⟩

theorem failsOnly_completeRestore (response : T.Text) :
    (completeFundingRestoreForPreparedOpen L prepared response).FailsOnly (MaySpend prepared) :=
  (Outcome.failsOnly_mapErr fun _ => ⟨rfl, rfl⟩).bind fun _ => Outcome.failsOnly_ok _

theorem channelId_of_complete {response : T.Text} {completed : CompletedOpenChannel T}
    (completes : completePreparedOpenChannel L prepared response = .ok completed) :
    completed.channelId = prepared.channelId := by
  simp only [completePreparedOpenChannel, Outcome.bind_eq_ok, Outcome.pure_eq,
    Outcome.ok.injEq] at completes
  obtain ⟨_, -, _, -, rfl⟩ := completes
  rfl

variable (L W input terms) in
/-- The swap of an opening was answered, and its record is still there. -/
structure Answered (prepared : PreparedOpenChannel T) (response : T.Text) (seen : Seen T) :
    Prop where
  saved : Saved prepared seen
  recoverable : Recoverable L W input terms seen
  sent : LastAnswered seen.log prepared response

theorem Answered.next {response : T.Text} {request : ClientRequest T} {answer : request.Response}
    {after : Seen T} (answered : Answered L W input terms prepared response seen)
    (quiet : Quiet request) (step : storing request seen answer after) :
    Answered L W input terms prepared response after := by
  obtain ⟨sameSwaps, sameViews⟩ := same_of_quiet quiet step
  refine ⟨answered.saved.next step sameViews, ?_, ?_⟩
  · rw [Recoverable, sameSwaps, sameViews]
    exact answered.recoverable
  · rw [LastAnswered, sameSwaps]
    exact answered.sent

/-- A computation after the answer that may fail. -/
theorem ensures_answered {response : T.Text}
    (answered : Answered L W input terms prepared response seen)
    {call : Outcome OpenChannelError α} (fails : call.FailsOnly (MaySpend prepared))
    {rest : α → ClientCall T OpenChannelError (OpenChannelResult T)}
    (next : ∀ value, call = .ok value →
      Watched L W input terms (EndsWith L W input terms) (rest value) seen) :
    Watched L W input terms (EndsWith L W input terms)
      (Attempt.lift call >>= rest : ClientCall T OpenChannelError _) seen := by
  cases call with
  | ok value => exact next value rfl
  | err error => exact endsWith_of_maySpend (fails error rfl) answered.saved answered.recoverable
  | noReturn => exact answered.recoverable

theorem ensures_completeSubmittedOpen (opening : OpeningFor L W input terms prepared)
    {response : T.Text} (answered : Answered L W input terms prepared response seen) :
    Watched L W input terms (EndsWith L W input terms) (completeSubmittedOpen L prepared response)
      seen := by
  apply ensures_answered answered (failsOnly_complete response)
  intro completed completes
  have isChannel := channelId_of_complete completes
  apply ensures_answered answered failsOnly_restoreRequest
  intro restoreRequest _
  refine ⟨trivial, ?_⟩
  rintro (answer : Except MintRequestError T.Text) after step
  have quiet : Quiet (.callMintRestore prepared.mintUrl restoreRequest : ClientRequest T) := trivial
  have answered := answered.next quiet step
  apply ensures_answered answered (Outcome.failsOnly_mapErr fun _ => ⟨rfl, rfl⟩)
  intro restoreResponse _
  apply ensures_answered answered (failsOnly_completeRestore restoreResponse)
  intro restored _
  apply ensures_answered answered (Outcome.failsOnly_guard ⟨congrArg some isChannel, rfl⟩)
  intro _ _
  refine ⟨trivial, ?_⟩
  rintro (marked : Except String Unit) last ⟨logged, performs⟩
  have sameSwaps : sentSwaps last.log = sentSwaps after.log := sentSwaps_of_write logged
  obtain ⟨message, rfl, same⟩ | ⟨rfl, -, acts⟩ := performs
  · -- the funding could not be stored, so the opening is as it was
    have maySpend : MaySpend prepared (.new .markOpen (some completed.channelId) message) :=
      ⟨congrArg some isChannel, rfl⟩
    refine endsWith_of_maySpend maySpend
      (answered.saved.next ⟨logged, .inl ⟨message, rfl, same⟩⟩ same) ?_
    rw [Recoverable, sameSwaps, same]
    exact answered.recoverable
  · rw [ClientOperation.channelId, isChannel] at acts
    obtain ⟨-, acts⟩ := acts prepared.channelId rfl
    have view := acts.own
    rw [ClientView.apply_setOpen_of_opening _ _ answered.saved.state] at view
    refine ⟨prepared, response, completed, opening, ?_, completes, rfl, ?_, ?_⟩
    · rw [LastAnswered, sameSwaps]
      exact answered.sent
    · rw [view]
    · rw [view, answered.saved.opening]
      rfl

/-! ### The answer to the swap -/

theorem openNetworkError_of_permits {evidence : MintRequestError}
    (permits : evidence.permitsKeysetRetry = true) :
    openNetworkError prepared evidence =
      Program.bind (markPreparedOpenRejected prepared evidence) fun result =>
        .done (eitherError result >>= fun error => .ok { error with mintError := some evidence }) :=
  if_pos permits

theorem openNetworkError_of_not {evidence : MintRequestError}
    (other : ¬ evidence.permitsKeysetRetry = true) :
    openNetworkError prepared evidence =
      pure (.network .swapSubmitted (some prepared.channelId) evidence) :=
  if_neg other

theorem markPreparedOpenRejected_of_permits {evidence : MintRequestError}
    (permits : evidence.permitsKeysetRetry = true) :
    markPreparedOpenRejected prepared evidence = do
      let host ← askHost
      write (fun markErr => .new .markOpen (some prepared.channelId)
        (s!"mint rejected swap, but failed to mark opening failed: {markErr}; " ++
          s!"mint error: {evidence.display}"))
        (.setOpeningFailed prepared.channelId
          ⟨OpenChannelFailureStage.mintRejected.asStr, evidence.display, host.nowSeconds⟩)
      return .network .mintRejected (some prepared.channelId) evidence :=
  if_neg (not_not.mpr permits)

/-- A swap that the mint has rejected for its keyset, whether or not that could be recorded. -/
theorem ensures_rejected {evidence : MintRequestError}
    (permits : evidence.permitsKeysetRetry = true) (saved : Saved prepared seen)
    (rejected : AllRejected seen.log)
    {rest : T.Text → ClientCall T OpenChannelError (OpenChannelResult T)} :
    Watched L W input terms (EndsWith L W input terms)
      (swapAnswer prepared (.error evidence) >>= rest : ClientCall T OpenChannelError _) seen := by
  rw [swapAnswer, openNetworkError_of_permits permits, markPreparedOpenRejected_of_permits permits]
  refine ⟨trivial, ?_⟩
  rintro (host : ClientHost T) after step
  have quiet : Quiet (.host : ClientRequest T) := trivial
  obtain ⟨sameSwaps, sameViews⟩ := same_of_quiet quiet step
  have saved := saved.next step sameViews
  refine ⟨trivial, ?_⟩
  rintro (marked : Except String Unit) last ⟨logged, performs⟩
  have rejected : AllRejected last.log := by
    rw [AllRejected, sentSwaps_of_write logged, sameSwaps]
    exact rejected
  obtain ⟨message, rfl, same⟩ | ⟨rfl, -, -⟩ := performs
  · refine ⟨fun _ => rejected, fun _ => ⟨prepared.channelId, rfl, ?_⟩,
      recoverable_of_allRejected rejected⟩
    rw [same]
    exact saved.state
  · exact endsWith_of_unspent rejected rfl

theorem ensures_submit (opening : OpeningFor L W input terms prepared)
    (rejected : AllRejected seen.log) :
    Watched L W input terms (EndsWith L W input terms) (submitPreparedOpenWithNetwork L prepared)
      seen := by
  apply ensures_part (ensures_requireFresh rejected)
  intro _ seen rejected
  apply Attempt.ensures_bind
  apply (ensures_save rejected).mono
  rintro result seen ⟨⟨rejected, failed⟩, saves⟩
  cases result with
  | err error => exact failed error rfl
  | noReturn => exact recoverable_of_allRejected rejected
  | ok _ =>
      have saved := saves rfl
      refine ⟨⟨⟨prepared, opening, rfl, rfl, saved.written⟩, rejected⟩, ?_⟩
      rintro (answer : Except MintRequestError T.Text) after step
      have same : after.views = seen.views := step.2
      have swaps : sentSwaps after.log =
          sentSwaps seen.log ++ [⟨prepared.mintUrl, prepared.swapRequestJson, answer⟩] := by
        rw [step.1, sentSwaps_concat]
        rfl
      have saved := saved.next step same
      have recoverable : Recoverable L W input terms after := by
        intro swap sent other
        rw [swaps, List.mem_append, List.mem_singleton] at sent
        rcases sent with earlier | rfl
        · exact absurd (rejected swap earlier) other
        · exact ⟨prepared, opening, rfl, rfl, saved.shown⟩
      cases answer with
      | ok response =>
          exact ensures_completeSubmittedOpen opening ⟨saved, recoverable, _, swaps, rejected⟩
      | error evidence =>
          by_cases permits : evidence.permitsKeysetRetry = true
          · refine ensures_rejected permits saved ?_
            intro swap sent
            rw [swaps, List.mem_append, List.mem_singleton] at sent
            rcases sent with earlier | rfl
            · exact rejected swap earlier
            · obtain ⟨rejection, rfl, code⟩ := MintRequestError.permitsKeysetRetry_iff.mp permits
              exact ⟨rejection, rfl, code⟩
          · show Watched L W input terms _
              (swapAnswer prepared (.error evidence) >>= _ : ClientCall T OpenChannelError _) after
            rw [swapAnswer, openNetworkError_of_not permits]
            have maySpend : MaySpend prepared
                (.network .swapSubmitted (some prepared.channelId) evidence) := ⟨rfl, rfl⟩
            exact endsWith_of_maySpend maySpend saved recoverable

/-! ### Whole calls -/

/-- An error that says that the inputs are not spent. -/
def Unspent (error : OpenChannelError) : Prop := error.inputMayBeSpent = false

theorem unspent_beforeSaved (message : String) : Unspent (.beforeSaved message) := rfl

theorem failsOnly_prepare {host : ClientHost T} {source : FundingSource T} {keysetInfoJson : T.Text}
    {unixTime : Nat} : (host.prepareOpenChannel L W source terms keysetInfoJson unixTime).FailsOnly
      Unspent := by
  refine (Outcome.failsOnly_mapErr unspent_beforeSaved).bind fun _ => ?_
  refine (Outcome.failsOnly_mapErr unspent_beforeSaved).bind fun _ => ?_
  refine (Outcome.failsOnly_mapErr unspent_beforeSaved).bind fun _ => ?_
  exact (Outcome.failsOnly_mapErr unspent_beforeSaved).bind fun _ => Outcome.failsOnly_ok _

/-- A part that sends nothing and whose errors say that nothing was spent. -/
abbrev Reads (result : Outcome OpenChannelError α) (after : Seen T) : Prop :=
  KeepsReady (fun seen : Seen T => AllRejected seen.log) (fun _ => True) Unspent result after

theorem sendsNothing_of_reads {result : Outcome OpenChannelError α} {after : Seen T}
    (reads : Reads result after) : SendsNothing L W input terms result after :=
  ⟨reads.1, fun error failed => endsWith_of_unspent reads.1 (reads.2.2 error failed)⟩

theorem reads_of_quiet {part : ClientCall T String α} (asks : Program.Asks Quiet part)
    (rejected : AllRejected seen.log) :
    Watched L W input terms Reads (part.mapErr .beforeSaved) seen := by
  apply Attempt.ensures_mapErr
  apply (ensures_quiet asks rejected).mono
  exact fun result after rejected =>
    ⟨rejected, fun _ _ => trivial, Outcome.failsOnly_mapErr unspent_beforeSaved⟩

/-- A reading part, and what comes after it. -/
theorem ensures_reading {part : ClientCall T String α} (asks : Program.Asks Quiet part)
    (rejected : AllRejected seen.log)
    {rest : α → ClientCall T OpenChannelError (OpenChannelResult T)}
    (next : ∀ value after, AllRejected after.log →
      Watched L W input terms (EndsWith L W input terms) (rest value) after) :
    Watched L W input terms (EndsWith L W input terms)
      (part.mapErr .beforeSaved >>= rest : ClientCall T OpenChannelError _) seen :=
  ensures_part ((reads_of_quiet asks rejected).mono fun _ _ => sendsNothing_of_reads) next

theorem ensures_openChannel (source : FundingSource T) (isInput : source.input = input)
    {keysetInfoJson : T.Text} (rejected : AllRejected seen.log) :
    Watched L W input terms (EndsWith L W input terms)
      (openChannel L W source terms keysetInfoJson) seen := by
  refine ⟨trivial, ?_⟩
  rintro (host : ClientHost T) after step
  have quiet : Quiet (.host : ClientRequest T) := trivial
  have rejected : AllRejected after.log := by
    rw [AllRejected, (same_of_quiet quiet step).1]
    exact rejected
  refine ⟨trivial, ?_⟩
  rintro (unixTime : Nat) later step
  have quiet : Quiet (.unixTime : ClientRequest T) := trivial
  have rejected : AllRejected later.log := by
    rw [AllRejected, (same_of_quiet quiet step).1]
    exact rejected
  show Watched L W input terms _ (Attempt.lift (host.prepareOpenChannel L W source terms
    keysetInfoJson unixTime) >>= submitPreparedOpenWithNetwork L : ClientCall T _ _) later
  cases isPrepared : host.prepareOpenChannel L W source terms keysetInfoJson unixTime with
  | ok prepared => exact ensures_submit ⟨host, source, _, unixTime, isInput, isPrepared⟩ rejected
  | err error => exact endsWith_of_unspent rejected (failsOnly_prepare error isPrepared)
  | noReturn => exact recoverable_of_allRejected rejected

end Rules

/-! ## Reading the cache and the listing of the mint -/

section Reading

open ClientBridge Attempt

variable {L W} {O : KeysetOps T} {ε : Type} {mintUrl : String} {unit : T.CurrencyUnit}
  {policy : KeysetSelectionPolicy}

theorem asks_callMintKeysets : Program.Asks Quiet (callMintKeysets mintUrl : ClientCall T _ _) :=
  asks_bind (asks_ask trivial) fun _ => asks_lift _

theorem asks_callMintKeys {keysetId : String} :
    Program.Asks Quiet (callMintKeys mintUrl keysetId : ClientCall T _ _) :=
  asks_bind (asks_ask trivial) fun _ => asks_lift _

theorem asks_fetchKeysetInfo {keysetId : String} :
    Program.Asks Quiet (fetchKeysetInfo L O mintUrl keysetId) := by
  refine asks_bind (asks_lift _) fun _ => asks_bind (asks_lift _) fun _ => ?_
  exact asks_bind asks_callMintKeysets fun _ => asks_bind asks_callMintKeys fun _ => asks_lift _

theorem asks_refreshKeyset {keysetsJson : T.Text} (keyset : Json) :
    Program.Asks Quiet (refreshKeyset L O mintUrl keysetsJson keyset) := by
  refine asks_bind (asks_lift _) fun _ => asks_bind (asks_lift _) fun _ => ?_
  refine asks_bind (asks_lift _) fun _ => asks_bind (asks_lift _) fun _ => ?_
  refine asks_bind asks_callMintKeys fun _ => asks_bind (asks_lift _) fun _ => ?_
  exact asks_bind (asks_ask rfl) fun _ => asks_lift _

theorem asks_refreshKeysetsInner : Program.Asks Quiet (refreshKeysetsInner L O mintUrl) := by
  refine asks_bind asks_callMintKeysets fun _ => asks_bind (asks_lift _) fun _ => ?_
  exact asks_bind (asks_each asks_refreshKeyset _) fun _ => trivial

theorem asks_isUnexpired (info : Option (KeysetInfo T)) :
    Program.Asks Quiet (isUnexpired info : ClientCall T ε _) := by
  cases info with
  | none => trivial
  | some info => exact asks_bind (asks_ask trivial) fun _ => trivial

theorem asks_usableOutputKeysetIds :
    Program.Asks Quiet (usableOutputKeysetIds L mintUrl unit policy) := by
  refine asks_bind (asks_ask trivial) fun _ => asks_sift (fun id => ?_) _
  exact asks_bind (asks_ask trivial) fun _ => asks_isUnexpired _

theorem asks_firstCachedActiveOutputKeyset :
    Program.Asks Quiet (firstCachedActiveOutputKeyset L mintUrl unit policy) := by
  refine asks_bind (asks_mapErr asks_usableOutputKeysetIds) fun _ => asks_bind (asks_lift _) fun _ => ?_
  exact asks_bind (asks_ask trivial) fun _ => asks_bind (asks_lift _) fun _ => trivial

theorem asks_fetchTokenInputKeysets {name : String} :
    Program.Asks Quiet (fetchTokenInputKeysets L O mintUrl name) := by
  refine asks_bind (asks_lift _) fun _ => asks_bind (asks_ask trivial) fun cached => ?_
  by_cases some : cached ≠ []
  · rw [if_pos some]
    exact asks_lift _
  · rw [if_neg some]
    exact asks_bind asks_callMintKeysets fun _ => asks_lift _

theorem asks_cachedSummaries (ids : List T.Id) :
    Program.Asks Quiet (cachedSummaries L mintUrl unit ids) := by
  induction ids with
  | nil => trivial
  | cons id rest ih =>
      refine asks_bind (asks_ask trivial) fun _ => asks_bind (asks_lift _) fun _ => ?_
      exact asks_bind ih fun _ => trivial

theorem asks_fetchProofInputKeysets {name : String} {inputProofsJson : T.Text} :
    Program.Asks Quiet (fetchProofInputKeysets L W O mintUrl name inputProofsJson) := by
  refine asks_bind (asks_lift _) fun _ => asks_bind (asks_lift _) fun _ => ?_
  refine asks_bind (asks_cachedSummaries _) fun cached => ?_
  by_cases none : cached.2 = []
  · rw [if_pos none]
    trivial
  · rw [if_neg none]
    refine asks_bind asks_callMintKeysets fun _ => asks_bind (asks_lift _) fun _ => ?_
    exact asks_bind (asks_lift _) fun _ => asks_bind (asks_lift _) fun _ => trivial

end Reading

/-! ## Every way to open a channel -/

section Calls

open ClientBridge

variable {L W} {O : KeysetOps T} {input : T.Text} {terms : OpeningTerms} {seen : Seen T}
  {mintUrl : String}

/-- The end of a submission as the end of a call. -/
def ofSubmission {V : Type} : Except (Option OpenChannelError) V → Outcome OpenChannelError V
  | .ok value => .ok value
  | .error (some error) => .err error
  | .error none => .noReturn

theorem ensures_submission {call : ClientCall T OpenChannelError (OpenChannelResult T)}
    (ensures : Watched L W input terms (EndsWith L W input terms) call seen) :
    Watched L W input terms
      (fun answer after => EndsWith L W input terms (ofSubmission answer) after)
      (submission call) seen := by
  apply Program.Ensures.bind
  apply ensures.mono
  intro result after ends
  cases result with
  | ok opened => exact ends
  | err error => exact ends
  | noReturn => exact ends

theorem reads_refreshKeysets (rejected : AllRejected seen.log) :
    Watched L W input terms Reads (refreshKeysets L O mintUrl) seen := by
  apply Attempt.ensures_bind
  apply (reads_of_quiet asks_refreshKeysetsInner rejected).mono
  rintro result after ⟨rejected, -, failed⟩
  cases result with
  | ok keysets => exact ⟨rejected, fun _ _ => trivial, nofun⟩
  | err error =>
      refine ⟨rejected, nofun, ?_⟩
      rintro _ ⟨⟩
      exact failed error rfl
  | noReturn => exact ⟨rejected, nofun, nofun⟩

/-- Both submissions of the loop, and everything around them. -/
theorem ensures_openWithActiveKeyset {A : Type} {unit : T.CurrencyUnit}
    {policy : KeysetSelectionPolicy}
    {prepare : SelectedOutputKeyset T → ClientCall T OpenChannelError A}
    {submit : A → ClientCall T OpenChannelError (OpenChannelResult T)}
    (prepares : ∀ keyset seen, AllRejected seen.log →
      Watched L W input terms Reads (prepare keyset) seen)
    (submits : ∀ attempt seen, AllRejected seen.log →
      Watched L W input terms (EndsWith L W input terms) (submit attempt) seen)
    (rejected : AllRejected seen.log) :
    Watched L W input terms (EndsWith L W input terms)
      (openWithActiveKeyset L O mintUrl unit policy prepare submit) seen := by
  have retryable {error : Option OpenChannelError}
      (permitted : error.any OpenChannelError.isRetryableKeysetRejection = true) :
      ∃ rejection, error = some rejection ∧ Unspent rejection := by
    cases error with
    | none => cases permitted
    | some rejection =>
        have retryable : rejection.isRetryableKeysetRejection = true := permitted
        simp only [OpenChannelError.isRetryableKeysetRejection, Bool.and_eq_true,
          Bool.not_eq_true'] at retryable
        exact ⟨rejection, rfl, retryable.1.2⟩
  have rule : RetryRule storing
      (fun request seen => MayOffer L W input terms request seen.log)
      (fun seen : Seen T => AllRejected seen.log) (fun _ : A => True) Unspent
      (fun _ answer after => EndsWith L W input terms (ofSubmission answer) after)
      (fun result after => EndsWith L W input terms (unwrapOpenChannelRetryResult result) after)
      ((firstCachedActiveOutputKeyset L mintUrl unit policy).mapErr .beforeSaved) prepare
      (fun attempt => submission (submit attempt))
      (fun error => error.any OpenChannelError.isRetryableKeysetRejection)
      (fun _ => refreshKeysets L O mintUrl) (fun _ _ => pure ()) := {
    select := fun seen => reads_of_quiet asks_firstCachedActiveOutputKeyset
    prepare := prepares
    submit := fun attempt seen _ rejected => ensures_submission (submits attempt seen rejected)
    refresh := fun _ seen => reads_refreshKeysets
    cleanup := fun _ _ seen rejected => ⟨rejected, fun _ _ => trivial, nofun⟩
    again := fun attempt error seen ends permitted => by
      obtain ⟨rejection, rfl, unspent⟩ := retryable permitted
      exact ends.1 unspent
    stuck := fun seen => recoverable_of_allRejected
    early := fun failure error seen isPart unspent rejected => by
      cases failure <;> cases isPart <;> exact endsWith_of_unspent rejected unspent
    unchanged := fun attempt error keysetId seen permitted rejected => by
      obtain ⟨rejection, rfl, unspent⟩ := retryable permitted
      exact endsWith_of_unspent rejected unspent
    succeeded := fun _ _ _ _ ends => ends
    failed := fun attempt error first seen ends => by
      cases error with
      | none => exact ends
      | some error => exact ends }
  exact Program.Ensures.bind (rule.ensures rejected)

theorem reads_ensureKeysetsCached {unit : T.CurrencyUnit} {policy : KeysetSelectionPolicy}
    (rejected : AllRejected seen.log) :
    Watched L W input terms Reads (ensureKeysetsCachedForUnit L O mintUrl unit policy) seen := by
  apply Attempt.ensures_bind
  apply Attempt.ensures_mapErr
  apply (ensures_quiet asks_usableOutputKeysetIds rejected).mono
  intro result after rejected
  cases result with
  | err error => exact error.elim
  | noReturn => exact ⟨rejected, nofun, nofun⟩
  | ok usable =>
      cases usable with
      | nil => exact reads_refreshKeysets rejected
      | cons first others => exact ⟨rejected, fun _ _ => trivial, nofun⟩

/-- The unit of a token, and what comes after it. -/
theorem ensures_tokenUnit {tokenString : T.Text} {α : Type} {post : Outcome OpenChannelError α →
      Seen T → Prop} {rest : T.CurrencyUnit → ClientCall T OpenChannelError α}
    (failed : ∀ error, Unspent error → post (.err error) seen) (stuck : post .noReturn seen)
    (next : ∀ unit, Watched L W input terms post (rest unit) seen) :
    Watched L W input terms post
      (Attempt.lift ((tokenUnit W tokenString).mapErr .beforeSaved) >>= rest :
        ClientCall T OpenChannelError α) seen := by
  cases tokenUnit W tokenString with
  | ok unit => exact next unit
  | err message => exact failed _ (unspent_beforeSaved message)
  | noReturn => exact stuck

theorem reads_prepareTokenAutoAttempt {tokenString : T.Text} {keyset : SelectedOutputKeyset T}
    (rejected : AllRejected seen.log) :
    Watched L W input terms Reads (prepareTokenAutoAttempt L W O mintUrl tokenString keyset)
      seen := by
  refine ensures_tokenUnit (fun error unspent => ⟨rejected, nofun, ?_⟩) ⟨rejected, nofun, nofun⟩
    fun unit => ?_
  · rintro _ ⟨⟩
    exact unspent
  · apply Attempt.ensures_bind
    apply (reads_of_quiet asks_fetchTokenInputKeysets rejected).mono
    rintro result after ⟨rejected, -, failed⟩
    cases result with
    | ok inputKeysets => exact ⟨rejected, fun _ _ => trivial, nofun⟩
    | err error =>
        refine ⟨rejected, nofun, ?_⟩
        rintro _ ⟨⟩
        exact failed error rfl
    | noReturn => exact ⟨rejected, nofun, nofun⟩

theorem ensures_openChannelFromTokenWithKeysetId {tokenString : T.Text} {keysetId : String}
    (rejected : AllRejected seen.log) :
    Watched L W tokenString terms (EndsWith L W tokenString terms)
      (openChannelFromTokenWithKeysetId L W O tokenString terms mintUrl keysetId) seen := by
  apply ensures_reading asks_fetchKeysetInfo rejected
  intro keysetInfo seen rejected
  refine ensures_tokenUnit (fun _ => endsWith_of_unspent rejected)
    (recoverable_of_allRejected rejected) fun unit => ?_
  apply ensures_reading asks_fetchTokenInputKeysets rejected
  intro inputKeysets seen rejected
  exact ensures_openChannel (.tokenWithKeysets tokenString inputKeysets) rfl rejected

theorem ensures_openChannelFromProofs {unit : String} {inputProofsJson keysetInfoJson : T.Text}
    (rejected : AllRejected seen.log) :
    Watched L W inputProofsJson terms (EndsWith L W inputProofsJson terms)
      (openChannelFromProofs L W O mintUrl unit inputProofsJson terms keysetInfoJson) seen := by
  apply ensures_reading asks_fetchProofInputKeysets rejected
  intro inputKeysets seen rejected
  exact ensures_openChannel (.proofs mintUrl unit inputProofsJson inputKeysets) rfl rejected

theorem ensures_openChannelFromTokenAuto {tokenString : T.Text} {policy : KeysetSelectionPolicy}
    (rejected : AllRejected seen.log) :
    Watched L W tokenString terms (EndsWith L W tokenString terms)
      (openChannelFromTokenAuto L W O tokenString terms mintUrl policy) seen := by
  refine ensures_tokenUnit (fun _ => endsWith_of_unspent rejected)
    (recoverable_of_allRejected rejected) fun unit => ?_
  apply ensures_part ((reads_ensureKeysetsCached rejected).mono fun _ _ => sendsNothing_of_reads)
  intro _ seen rejected
  refine ensures_openWithActiveKeyset (fun keyset seen => reads_prepareTokenAutoAttempt)
    (fun attempt seen => ?_) rejected
  exact ensures_openChannel (.tokenWithKeysets tokenString attempt.inputKeysets) rfl

theorem ensures_openChannelFromProofsAuto {unit : String} {inputProofsJson : T.Text}
    {policy : KeysetSelectionPolicy} (rejected : AllRejected seen.log) :
    let effective :=
      { terms with requestedCapacity := none, requestedFundingTokenAmount := none }
    Watched L W inputProofsJson effective (EndsWith L W inputProofsJson effective)
      (openChannelFromProofsAuto L W O mintUrl unit inputProofsJson terms policy) seen := by
  apply ensures_part ((reads_ensureKeysetsCached rejected).mono fun _ _ => sendsNothing_of_reads)
  intro _ seen rejected
  refine ensures_openWithActiveKeyset (fun keyset seen rejected => ?_)
    (fun attempt seen => ensures_openChannelFromProofs) rejected
  exact ⟨rejected, fun _ _ => trivial, nofun⟩

/-- **Every way to open a channel** ends with what `EndsWith` says. -/
theorem ensures_program (call : OpenCall T) (views : String → ClientView T) :
    Watched L W call.input (call.effective terms) (EndsWith L W call.input (call.effective terms))
      (call.program L W O terms) ⟨[], views⟩ := by
  have rejected : AllRejected (⟨[], views⟩ : Seen T).log := nofun
  cases call with
  | fromToken tokenString keysetInfoJson =>
      exact ensures_openChannel (.token tokenString) rfl rejected
  | fromTokenWithKeysetId tokenString mintUrl keysetId =>
      exact ensures_openChannelFromTokenWithKeysetId rejected
  | fromTokenAuto tokenString mintUrl policy => exact ensures_openChannelFromTokenAuto rejected
  | fromProofs mintUrl unit inputProofsJson outputKeysetInfoJson =>
      exact ensures_openChannelFromProofs rejected
  | fromProofsWithKeysetId mintUrl unit inputProofsJson outputKeysetId =>
      apply ensures_reading asks_fetchKeysetInfo rejected
      intro keysetInfo seen rejected
      exact ensures_openChannelFromProofs rejected
  | fromProofsAuto mintUrl unit inputProofsJson policy =>
      exact ensures_openChannelFromProofsAuto rejected

/-- Swaps that are offered so are rejected one after the other, up to the last. -/
theorem pairwise_of_mayOffer {log : ClientLog T}
    (offers : ∀ earlier exchange later, log = earlier ++ exchange :: later →
      MayOffer L W input terms exchange.1 earlier) :
    (sentSwaps log).Pairwise fun first _ => KeysetRejection first.answer := by
  induction log using List.reverseRecOn with
  | nil => exact .nil
  | append_singleton log exchange ih =>
      have last := offers log exchange [] rfl
      rw [sentSwaps_concat, List.pairwise_append]
      refine ⟨ih fun earlier other later split => ?_, ?_, ?_⟩
      · apply offers earlier other (later ++ [exchange])
        rw [split, List.append_assoc, List.cons_append]
      · cases sentSwap exchange with
        | none => exact .nil
        | some swap => exact List.pairwise_singleton _ _
      · intro first sent second isLast
        obtain ⟨request, answer⟩ := exchange
        cases request with
        | callMintSwap mintUrl requestJson => exact last.2 first sent
        | _ => cases isLast

end Calls

/-! ## Runs -/

section Runs

variable {σ ω : Type} (S : ClientStorage T σ) (E : ClientEnvironment T σ ω) (O : KeysetOps T)
  (call : OpenCall T) (terms : OpeningTerms) (before : ClientWorld σ ω) (laws : S.Laws)

/-- What a run of a call ends with. -/
theorem endsWith_run :
    EndsWith L W call.input (call.effective terms)
      (Program.run (serveClient S E) (call.program L W O terms) before).1
      ⟨Program.transcript (serveClient S E) (call.program L W O terms) before,
        laws.view (Program.run (serveClient S E) (call.program L W O terms) before).2.store⟩ := by
  have ensures : Watched L W call.input (call.effective terms) _ (call.program L W O terms)
      (laws.seen ([], before)) := ensures_program call (laws.view before.store)
  have ended := ensures.run (follows_serveClient (E := E) laws)
  rw [Program.run_logged (serveClient S E) (call.program L W O terms) [] before] at ended
  exact ended

/-- What a run of a call asks for. -/
theorem mayOffer_run (laws : S.Laws) {earlier later : ClientLog T}
    {exchange : Program.Exchange (clientRequests T)}
    (split : Program.transcript (serveClient S E) (call.program L W O terms) before =
      earlier ++ exchange :: later) :
    MayOffer L W call.input (call.effective terms) exchange.1 earlier := by
  have ensures : Watched L W call.input (call.effective terms) _ (call.program L W O terms)
      (laws.seen ([], before)) := ensures_program call (laws.view before.store)
  exact ensures.asked (follows_serveClient laws) (fun _ => rfl) split

/-- **What an opening's error says of the money is right.** For every store that keeps the
laws, whatever the keys, the clocks and the mint are: a swap is sent only after its opening was
saved. If the error says that the inputs are not spent, the mint has rejected every swap for its
keyset. If it says that they may be, it names a channel whose opening is recorded; and the record
of a swap that was not rejected is there to recover it from. -/
theorem openCalls_tell_the_truth (laws : S.Laws) :
    let program := call.program L W O terms
    let result := (Program.run (serveClient S E) program before).1
    let after := (Program.run (serveClient S E) program before).2
    let log := Program.transcript (serveClient S E) program before
    (∀ earlier exchange later, log = earlier ++ exchange :: later →
      MaySend L W call.input (call.effective terms) exchange.1 earlier) ∧
    ∀ error, result = .err error →
      (error.inputMayBeSpent = false → ∀ swap ∈ sentSwaps log, KeysetRejection swap.answer ∧
        ∀ wire response, swap.answer = MintResponse.intoResult wire response →
          response.status = 400) ∧
      (error.inputMayBeSpent = true → ∃ channelId ∈ error.channelId,
        S.getState after.store channelId = some .openingFromSwap) ∧
      ∀ swap ∈ sentSwaps log, ¬ KeysetRejection swap.answer →
        ∃ prepared, OpeningFor L W call.input (call.effective terms) prepared ∧
          prepared.mintUrl = swap.mintUrl ∧ prepared.swapRequestJson = swap.requestJson ∧
          S.getOpeningFromSwap after.store prepared.channelId = .ok (some prepared.opening) := by
  intro program result after log
  have ended := endsWith_run L W S E O call terms before laws
  refine ⟨fun earlier exchange later split => ?_, fun error failed => ?_⟩
  · have offered := mayOffer_run L W S E O call terms before laws split
    obtain ⟨request, answer⟩ := exchange
    cases request with
    | callMintSwap mintUrl requestJson => exact offered.1
    | _ => trivial
  · have isResult : (Program.run (serveClient S E) (call.program L W O terms) before).1 =
        .err error := failed
    rw [isResult] at ended
    obtain ⟨unspent, names, recoverable⟩ := ended
    refine ⟨fun isUnspent swap sent => ?_, fun maySpend => ?_, fun swap sent other => ?_⟩
    · have rejection := unspent isUnspent swap sent
      exact ⟨rejection, fun wire response isAnswer => status_of_keysetRejection (isAnswer ▸ rejection)⟩
    · obtain ⟨channelId, named, state⟩ := names maySpend
      exact ⟨channelId, named, (laws.getState _ _).trans state⟩
    · obtain ⟨prepared, opening, mint, request, shown⟩ := recoverable swap sent other
      exact ⟨prepared, opening, mint, request, (laws.getOpeningFromSwap _ _).trans shown⟩

/-- **A channel that is returned as open is stored as open.** Its funding is what the mint's
answer to the last swap was completed to; every swap before that one was rejected. -/
theorem openCalls_store_what_they_return {opened : OpenChannelResult T}
    (returned : (Program.run (serveClient S E) (call.program L W O terms) before).1 = .ok opened) :
    let after := (Program.run (serveClient S E) (call.program L W O terms) before).2
    let log := Program.transcript (serveClient S E) (call.program L W O terms) before
    ∃ prepared response completed, OpeningFor L W call.input (call.effective terms) prepared ∧
      LastAnswered log prepared response ∧
      completePreparedOpenChannel L prepared response = .ok completed ∧ opened = completed.result ∧
      S.getState after.store prepared.channelId = some .opened ∧
      (laws.view after.store prepared.channelId).funding =
        some (prepared.opening.funding completed.fundingProofsJson) := by
  intro after log
  have ended := endsWith_run L W S E O call terms before laws
  rw [returned] at ended
  obtain ⟨prepared, response, completed, opening, answered, completes, isResult, state, funding⟩ :=
    ended
  exact ⟨prepared, response, completed, opening, answered, completes, isResult,
    (laws.getState _ _).trans state, funding⟩

/-- **Inputs are offered again only after a rejection.** Whatever the mint answers, of any two
swaps of a call it has rejected the first for its keyset. -/
theorem openCalls_offer_again_only_after_rejection (laws : S.Laws) :
    (sentSwaps (Program.transcript (serveClient S E) (call.program L W O terms) before)).Pairwise
      fun first _ => KeysetRejection first.answer :=
  pairwise_of_mayOffer fun _ _ _ => mayOffer_run L W S E O call terms before laws

end Runs

/-! ## Recovering an opening -/

section Recovering

open ClientBridge Attempt

variable {L} {seen : Seen T} {channelId : String}

/-- Nothing was sent, and the store shows what it has shown. -/
abbrev Untouched (before after : Seen T) : Prop :=
  sentSwaps after.log = sentSwaps before.log ∧ after.views = before.views

theorem ensures_untouched {α : Type} {program : Program (clientRequests T) α} {read : Seen T}
    (asks : Program.Asks Quiet program) (same : Untouched seen read) :
    Program.Ensures storing (fun _ _ => True) (fun _ => Untouched seen) program read := by
  apply Program.Asks.ensures asks (fun _ _ _ _ => trivial) _ same
  intro request before answer after quiet same step
  obtain ⟨sameSwaps, sameViews⟩ := same_of_quiet quiet step
  exact ⟨sameSwaps.trans same.1, sameViews.trans same.2⟩

theorem asks_restoreOpening {mintUrl : String} {request : T.Text} :
    Program.Asks Quiet (restoreOpening channelId mintUrl request) :=
  asks_bind (asks_ask trivial) fun _ => asks_lift _

theorem asks_restoreOpeningChange {mintUrl : String} (request : Option T.Text) :
    Program.Asks Quiet (restoreOpeningChange channelId mintUrl request) := by
  cases request with
  | none => trivial
  | some request => exact asks_bind asks_restoreOpening fun _ => trivial

variable (L channelId) in
/-- An opening that was recorded is recovered with what the mint has answered. -/
def Recovers (opening : ClientChannelOpeningFromSwap T) (completed : CompletedOpenRecovery T) :
    Prop :=
  ∃ prepared funding change,
    prepareOpenChannelRecovery L channelId (.ok (some opening)) = .ok prepared ∧
    completePreparedOpenRecovery L prepared funding change = .ok completed

/-- A recovery that is completed has the record of an opening, and names its channel. -/
theorem recovers_of_completes {saved : Except String (Option (ClientChannelOpeningFromSwap T))}
    {prepared : PreparedOpenRecovery T} {funding : T.Text} {change : Option T.Text}
    {completed : CompletedOpenRecovery T}
    (prepares : prepareOpenChannelRecovery L channelId saved = .ok prepared)
    (completes : completePreparedOpenRecovery L prepared funding change = .ok completed) :
    ∃ opening, saved = .ok (some opening) ∧ Recovers L channelId opening completed ∧
      completed.channelId = channelId := by
  have steps := prepares
  have ended := completes
  simp only [prepareOpenChannelRecovery, completePreparedOpenRecovery, Outcome.bind_eq_ok,
    Outcome.mapErr_eq_ok, Outcome.ofExcept_eq_ok, Outcome.ofOption_eq_ok, Outcome.pure_eq,
    Outcome.ok.injEq] at steps ended
  obtain ⟨_, rfl, opening, rfl, _, -, _, -, rfl⟩ := steps
  obtain ⟨_, -, _, -, _, -, rfl⟩ := ended
  exact ⟨opening, rfl, ⟨_, funding, change, prepares, completes⟩, rfl⟩

variable (L channelId) in
/-- What a recovery ends with. -/
structure RecoveryEnds (before : Seen T) (result : Outcome OpenChannelError (OpenChannelResult T))
    (after : Seen T) : Prop where
  sent : sentSwaps after.log = sentSwaps before.log
  kept : result.isOk = false → after.views = before.views
  opened : ∀ opened, result = .ok opened → ∃ opening completed,
    (before.views channelId).openingFromSwap channelId = .ok (some opening) ∧
    Recovers L channelId opening completed ∧ opened = completed.result ∧
    ActsOn (.setOpen channelId completed.fundingProofsJson) channelId before.views after.views

theorem recoveryEnds_of_untouched {after : Seen T} (same : Untouched seen after)
    (result : Outcome OpenChannelError (OpenChannelResult T)) (failed : result.isOk = false) :
    RecoveryEnds L channelId seen result after where
  sent := same.1
  kept := fun _ => same.2
  opened := by
    rintro opened rfl
    cases failed

theorem ensures_recover :
    Program.Ensures storing (fun _ _ => True) (RecoveryEnds L channelId seen)
      (recoverOpenChannelFromSwap L channelId) seen := by
  refine ⟨trivial, ?_⟩
  rintro (saved : Except String (Option (ClientChannelOpeningFromSwap T))) read step
  have quiet : Quiet (.getChannelOpeningFromSwap channelId : ClientRequest T) := trivial
  have same := same_of_quiet quiet step
  obtain ⟨isSaved, -⟩ := step.2
  apply ensures_lift (recoveryEnds_of_untouched same)
  intro prepared prepares
  apply Attempt.ensures_part (ensures_untouched asks_restoreOpening same)
    fun _ _ => recoveryEnds_of_untouched
  intro funding _ same
  apply Attempt.ensures_part (ensures_untouched (asks_restoreOpeningChange _) same)
    fun _ _ => recoveryEnds_of_untouched
  intro change last same
  apply ensures_lift (recoveryEnds_of_untouched same)
  intro completed completes
  obtain ⟨opening, rfl, recovers, isChannel⟩ := recovers_of_completes prepares completes
  refine ⟨trivial, ?_⟩
  rintro (marked : Except String Unit) after ⟨logged, performs⟩
  have sameSwaps : sentSwaps after.log = sentSwaps seen.log :=
    (sentSwaps_of_write logged).trans same.1
  obtain ⟨message, rfl, unchanged⟩ | ⟨rfl, -, acts⟩ := performs
  · exact recoveryEnds_of_untouched ⟨sameSwaps, unchanged.trans same.2⟩ _ rfl
  · refine ⟨sameSwaps, nofun, ?_⟩
    rintro _ ⟨⟩
    rw [isChannel, same.2] at acts
    exact ⟨opening, completed, isSaved.symm, recovers, rfl, (acts channelId rfl).2⟩

theorem opening_of_openingFromSwap {view : ClientView T}
    {opening : ClientChannelOpeningFromSwap T}
    (shown : view.openingFromSwap channelId = .ok (some opening)) : view.opening = some opening := by
  rw [ClientView.openingFromSwap,
    if_neg (not_not.mpr (state_of_openingFromSwap (shown.trans_ne nofun)))] at shown
  cases recorded : view.opening with
  | none =>
      rw [recorded] at shown
      cases shown
  | some saved =>
      rw [recorded] at shown
      cases shown
      rfl

variable {σ ω : Type} (L) (S : ClientStorage T σ) (E : ClientEnvironment T σ ω)
  (channelId : String) (before : ClientWorld σ ω)

end Recovering

namespace Sample

/-- A wallet whose tokens are lists of proofs. -/
def tokenWallet : WalletOps carriers :=
  { walletOps with parseToken := fun text => do
      let proofs ← library.proofsOfJson text
      return ⟨.ok "m/", some "sat", fun _ => .ok proofs⟩ }

/-- A mint that signs what it is asked to, and remembers the outputs. -/
def openingMint : ClientEnvironment carriers (MemoryClientStorage carriers)
    (List (BlindedMessage carriers)) where
  host := fun outputs => (newClient, outputs)
  unixTime := fun outputs => (1000, outputs)
  listKeysetsForUnit := fun _ _ _ => []
  callMintSwap := fun _ json outputs =>
    match library.parse json >>= library.swapRequestOfJson with
    | .ok request => (.ok (responseToJson (signAll request)), request.outputs)
    | .error _ => (.error (.http 500 ""), outputs)
  callMintRestore := fun _ _ outputs => (.ok (restoreAll outputs firstDleq), outputs)
  callMintKeysets := fun _ outputs => (.error (.http 500 ""), outputs)
  callMintKeys := fun _ _ outputs => (.error (.http 500 ""), outputs)

/-- A token of three units. -/
def tokenCall : OpenCall carriers :=
  .fromToken (library.proofsToJson [⟨3, (pairs "sat").keysetId, "old", point 1, none, none, none⟩])
    ((pairs "sat").toJson library)

/-- The run of the call, with a store that knows nothing. -/
def tokenRun : Outcome OpenChannelError (OpenChannelResult carriers) :=
  (Program.run (serveClient (memoryClientStorage carriers) openingMint)
    (tokenCall.program library tokenWallet keysetOps openingTerms) ⟨.new, []⟩).1

theorem tokenRun_isOk : tokenRun.isOk = true := by
  decide +kernel

end Sample

/-- A token of three units is opened, and the channel is in the store. -/
theorem openCalls_store_what_they_return_token : ∃ opened prepared response completed,
    Sample.tokenRun = .ok opened ∧
    OpeningFor Sample.library Sample.tokenWallet Sample.tokenCall.input Sample.openingTerms
      prepared ∧
    completePreparedOpenChannel Sample.library prepared response = .ok completed ∧
    opened = completed.result := by
  obtain ⟨opened, returned⟩ := Outcome.exists_of_isOk Sample.tokenRun_isOk
  obtain ⟨prepared, response, completed, opening, -, completes, isResult, -⟩ :=
    openCalls_store_what_they_return Sample.library Sample.tokenWallet
      (memoryClientStorage Sample.carriers) Sample.openingMint Sample.keysetOps Sample.tokenCall
      Sample.openingTerms ⟨.new, []⟩ (memoryClientLaws Sample.carriers) returned
  exact ⟨opened, prepared, response, completed, returned, opening, completes, isResult⟩

end Spilman
