/-
# The calls of a client

What a client does to open a channel is a program: it reads its cache of keysets, asks
the mint for more of them, computes a channel for its money, saves the opening, submits
the swap, asks for the outputs again and records the channel as open. Each call to the
host or to the mint is one step.

The channel is computed by functions that work on a host at one moment (`Opening`), and
so is its completion. Errors are all of one type; those of the parts that come before the
opening is saved are written as texts here and wrapped where the source wraps them.
-/

import Spilman.Client.Keysets
import Spilman.Client.Recovery
import Spilman.Client.Storage
import Spilman.KeysetRetry
import Spilman.MintOutcome

namespace Spilman

open Lib

/-! ## Steps -/

/-- A step of a client's call. -/
inductive ClientRequest (T : Carriers)
  /-- The keys and the clock of the host. -/
  | host
  /-- The time of the system. -/
  | unixTime
  | getChannelOpeningFromSwap (channelId : String)
  | write (operation : ClientOperation T)
  | getKeyset (mint : String) (id : T.Id)
  | getActiveKeysetIds (mint : String) (unit : T.CurrencyUnit)
  | listKeysetsForUnit (mint : String) (unit : T.CurrencyUnit)
  | callMintSwap (mintUrl : String) (swapRequestJson : T.Text)
  | callMintRestore (mintUrl : String) (restoreRequestJson : T.Text)
  | callMintKeysets (mintUrl : String)
  | callMintKeys (mintUrl keysetId : String)

/-- What a step answers. -/
def ClientRequest.Response {T : Carriers} : ClientRequest T → Type
  | host => ClientHost T
  | unixTime => Nat
  | getChannelOpeningFromSwap _ => Except String (Option (ClientChannelOpeningFromSwap T))
  | write _ => Except String Unit
  | getKeyset _ _ => Option (ClientKeysetCacheEntry T)
  | getActiveKeysetIds _ _ => List T.Id
  | listKeysetsForUnit _ _ => List (T.Id × ClientKeysetCacheEntry T)
  | callMintSwap _ _ | callMintRestore _ _ | callMintKeysets _ | callMintKeys _ _ =>
      Except MintRequestError T.Text

/-- The steps of a client's calls. -/
def clientRequests (T : Carriers) : Interface := ⟨ClientRequest T, ClientRequest.Response⟩

/-- A call of a client that may fail. -/
abbrev ClientCall (T : Carriers) (ε α : Type) := Attempt (clientRequests T) ε α

/-- `Display` of what the network reports. -/
def MintRequestError.display : MintRequestError → String
  | rejected rejection => s!"mint rejected request (HTTP 400, NUT-00 {rejection.code})"
  | http status _ => s!"unclassified mint HTTP response {status}"
  | transport message => s!"mint transport failure: {message}"

/-- A failure before any opening was saved. -/
def OpenChannelError.beforeSaved (message : String) : OpenChannelError :=
  .new .beforeOpeningSaved none message

/-- A failure of the network, with its evidence. -/
def OpenChannelError.network (stage : OpenChannelFailureStage) (channelId : Option String)
    (evidence : MintRequestError) : OpenChannelError :=
  { OpenChannelError.new stage channelId evidence.display with mintError := some evidence }

/-- The mint has rejected the keyset, and the inputs are known not to be spent. -/
def OpenChannelError.isRetryableKeysetRejection (error : OpenChannelError) : Bool :=
  error.stage = .mintRejected && !error.inputMayBeSpent &&
    error.mintError.any MintRequestError.permitsKeysetRetry

/-- The name of a stage in records. -/
def OpenChannelFailureStage.asStr : OpenChannelFailureStage → String
  | beforeOpeningSaved => "before_opening_saved"
  | mintRejected => "mint_rejected"
  | swapSubmitted => "swap_submitted"
  | fundingProofsReceived => "funding_proofs_received"
  | restoreVerification => "restore_verification"
  | markOpen => "mark_open"

namespace ClientBridge

variable {T : Carriers} {ε : Type}

/-! ## Asking the host and the mint -/

def askHost : ClientCall T ε (ClientHost T) := Attempt.ask (I := clientRequests T) .host

def askUnixTime : ClientCall T ε Nat := Attempt.ask (I := clientRequests T) .unixTime

def askOpening (channelId : String) :
    ClientCall T ε (Except String (Option (ClientChannelOpeningFromSwap T))) :=
  Attempt.ask (I := clientRequests T) (.getChannelOpeningFromSwap channelId)

def askKeyset (mint : String) (id : T.Id) : ClientCall T ε (Option (ClientKeysetCacheEntry T)) :=
  Attempt.ask (I := clientRequests T) (.getKeyset mint id)

def askActiveKeysetIds (mint : String) (unit : T.CurrencyUnit) : ClientCall T ε (List T.Id) :=
  Attempt.ask (I := clientRequests T) (.getActiveKeysetIds mint unit)

def askKeysetsForUnit (mint : String) (unit : T.CurrencyUnit) :
    ClientCall T ε (List (T.Id × ClientKeysetCacheEntry T)) :=
  Attempt.ask (I := clientRequests T) (.listKeysetsForUnit mint unit)

/-- Write to the store, and fail if it does. -/
def write (wrap : String → ε) (operation : ClientOperation T) : ClientCall T ε Unit := do
  let answer : Except String Unit ← Attempt.ask (I := clientRequests T) (.write operation)
  .lift ((Outcome.ofExcept answer).mapErr wrap)

def callMintKeysets (mintUrl : String) : ClientCall T String T.Text := do
  let answer : Except MintRequestError T.Text ←
    Attempt.ask (I := clientRequests T) (.callMintKeysets mintUrl)
  .lift ((Outcome.ofExcept answer).mapErr MintRequestError.display)

def callMintKeys (mintUrl keysetId : String) : ClientCall T String T.Text := do
  let answer : Except MintRequestError T.Text ←
    Attempt.ask (I := clientRequests T) (.callMintKeys mintUrl keysetId)
  .lift ((Outcome.ofExcept answer).mapErr MintRequestError.display)

variable (L : Cashu T) (W : WalletOps T) (O : KeysetOps T)

/-! ## Keysets -/

def fetchKeysetInfo (mintUrl keysetId : String) : ClientCall T String T.Text := do
  let supported ← .lift (supportedKeysetId L keysetId)
  let _ ← .lift (.ofOption "Unsupported keyset version requested" supported)
  let keysetsJson ← callMintKeysets mintUrl
  let keysJson ← callMintKeys mintUrl keysetId
  .lift (buildKeysetInfoFromResponses L O keysetsJson keysJson keysetId)

/-- Fetch the keys of a listed keyset, and cache it. -/
def refreshKeyset (mintUrl : String) (keysetsJson : T.Text) (keyset : Json) :
    ClientCall T String Unit := do
  let idStr ← .lift (.ofOption "Missing 'id' in keyset entry"
    ((keyset.get? "id").bind Json.asStr))
  let id ← .lift ((Outcome.ofExcept (L.idFromStr idStr)).mapErr fun e => s!"Invalid keyset id: {e}")
  let unitStr ← .lift (.ofOption "Missing 'unit' in keyset entry"
    ((keyset.get? "unit").bind Json.asStr))
  let unit ← .lift ((Outcome.ofExcept (L.unitFromStr unitStr)).mapErr fun e =>
    s!"Invalid keyset unit: {e}")
  let active := ((keyset.get? "active").bind Json.asBool).getD false
  let keysJson ← callMintKeys mintUrl idStr
  let infoJson ← .lift (buildKeysetInfoFromResponses L O keysetsJson keysJson idStr)
  write (fun e => e) (.setKeyset mintUrl id ⟨infoJson, active, unit⟩)

/-- Cache all keysets of a mint that are of supported versions. -/
def refreshKeysetsInner (mintUrl : String) : ClientCall T String (List Json) := do
  let keysetsJson ← callMintKeysets mintUrl
  let keysets ← .lift ((discoverKeysets L O keysetsJson).mapErr fun e =>
    s!"Failed to parse /v1/keysets response: {e}")
  Attempt.each (refreshKeyset L O mintUrl keysetsJson) keysets
  return keysets

def refreshKeysets (mintUrl : String) : ClientCall T OpenChannelError Unit := do
  let _ ← (refreshKeysetsInner L O mintUrl).mapErr .beforeSaved
  return ()

/-- The cached keyset is the one it is cached as, and of the unit. -/
def cachedInfo (unit : T.CurrencyUnit) (id : T.Id)
    (entry : Option (ClientKeysetCacheEntry T)) : Option (KeysetInfo T) :=
  entry.bind fun entry =>
    match parseKeysetInfoFromJson L entry.infoJson with
    | .ok info => if info.keysetId = id ∧ info.unit = unit then some info else none
    | _ => none

/-- The clock is asked only for a keyset that fits. -/
def isUnexpired : Option (KeysetInfo T) → ClientCall T ε Bool
  | none => pure false
  | some info => do
      let host ← askHost
      return info.isUnexpiredAt host.nowSeconds

/-- The cached active keysets that outputs can be made for. -/
def usableOutputKeysetIds (mintUrl : String) (unit : T.CurrencyUnit)
    (policy : KeysetSelectionPolicy) : ClientCall T Empty (List T.Id) := do
  let ids ← askActiveKeysetIds mintUrl unit
  let allowed := ids.filter fun id => policy.allowedVersions.allows L id
  allowed |> Attempt.sift fun id => do
    let entry ← askKeyset mintUrl id
    isUnexpired (cachedInfo L unit id entry)

/-- Refresh the cache if it has no usable keyset. -/
def refreshUnlessCached (mintUrl : String) : List T.Id → ClientCall T OpenChannelError Unit
  | [] => refreshKeysets L O mintUrl
  | _ :: _ => pure ()

def ensureKeysetsCachedForUnit (mintUrl : String) (unit : T.CurrencyUnit)
    (policy : KeysetSelectionPolicy) : ClientCall T OpenChannelError Unit := do
  let usable ← (usableOutputKeysetIds L mintUrl unit policy).mapErr nofun
  refreshUnlessCached L O mintUrl usable

/-- The first usable keyset, as it is cached when it is read a second time. -/
def firstCachedActiveOutputKeyset (mintUrl : String) (unit : T.CurrencyUnit)
    (policy : KeysetSelectionPolicy) : ClientCall T String (SelectedOutputKeyset T) := do
  let usable ← (usableOutputKeysetIds L mintUrl unit policy).mapErr nofun
  let keysetId ← .lift (.ofOption (s!"mint {mintUrl} has no compatible cached active keyset for " ++
    s!"unit {L.unitToString unit} with allowed versions {policy.allowedVersions.debug}")
    usable.head?)
  let entry ← askKeyset mintUrl keysetId
  let entry ← .lift (.ofOption s!"active keyset {L.idToString keysetId} was not cached" entry)
  return ⟨L.idToString keysetId, entry.infoJson⟩

/-! ## Keysets of the inputs -/

def fetchTokenInputKeysets (mintUrl unit : String) : ClientCall T String T.Text := do
  let unit ← .lift ((Outcome.ofExcept (L.unitFromStr unit)).mapErr fun e =>
    s!"Invalid token unit: {e}")
  let cached ← askKeysetsForUnit mintUrl unit
  if cached ≠ [] then .lift (inputKeysetsFromCacheEntries L cached unit)
  else do
    let keysetsJson ← callMintKeysets mintUrl
    .lift (tokenInputKeysetsFromResponse L O keysetsJson (L.unitToString unit))

/-- What the cache has of the keysets of proofs, and the keysets that it does not have. -/
def cachedSummaries (mintUrl : String) (unit : T.CurrencyUnit) :
    List T.Id → ClientCall T String (List Json × List T.Id)
  | [] => pure ([], [])
  | id :: rest => do
      let entry ← askKeyset mintUrl id
      let summary ← .lift (.mapAll (keysetSummaryFromCacheEntry L unit)
        (entry.map fun entry => (id, entry)).toList)
      let others ← cachedSummaries mintUrl unit rest
      return (summary ++ others.1, if entry.isNone then id :: others.2 else others.2)

def fetchProofInputKeysets (mintUrl unit : String) (inputProofsJson : T.Text) :
    ClientCall T String T.Text := do
  let expectedUnit ← .lift ((Outcome.ofExcept (L.unitFromStr unit)).mapErr fun e =>
    s!"Invalid input proof unit: {e}")
  let ids ← .lift (proofKeysetIds L inputProofsJson)
  let cached ← cachedSummaries L mintUrl expectedUnit ids
  if cached.2 = [] then return L.render (.arr cached.1)
  else do
    let keysetsJson ← callMintKeysets mintUrl
    let fetchedJson ← .lift (tokenInputKeysetsFromResponse L O keysetsJson unit)
    let fetched ← .lift ((Outcome.ofExcept (L.parse fetchedJson >>= W.keysetsOfJson)).mapErr
      fun e => s!"Failed to parse fetched input keysets: {e}")
    let summaries ← .lift (.mapAll (fetchedSummary L fetched) cached.2)
    return L.render (.arr (cached.1 ++ summaries))

/-- The unit of a token, which is satoshis if it names none. -/
def tokenUnit (tokenString : T.Text) : Outcome String T.CurrencyUnit := do
  let token ← (Outcome.ofExcept (W.parseToken tokenString)).mapErr fun e =>
    s!"Failed to parse token: {e}"
  return token.unit.getD W.sat

/-! ## Submitting an opening -/

def requireFreshOpenSubmission (prepared : PreparedOpenChannel T) :
    ClientCall T OpenChannelError Unit := do
  let submitted := OpenChannelError.new .swapSubmitted (some prepared.channelId)
  let answer ← askOpening prepared.channelId
  let existing ← .lift ((Outcome.ofExcept answer).mapErr submitted)
  .lift (.guard (submitted "existing opening requires recovery, not a fresh submission")
    existing.isNone)

def markPreparedOpenSaved (prepared : PreparedOpenChannel T) : ClientCall T OpenChannelError Unit :=
  write .beforeSaved (.saveOpeningFromSwap prepared.channelId prepared.opening)

/-- Record that the mint has rejected an opening. The error is what the caller reports. -/
def markPreparedOpenRejected (prepared : PreparedOpenChannel T) (evidence : MintRequestError) :
    ClientCall T OpenChannelError OpenChannelError :=
  if ¬ evidence.permitsKeysetRetry then
    .lift (.err (.network .swapSubmitted (some prepared.channelId) evidence))
  else do
    let message := evidence.display
    let host ← askHost
    write (fun markErr => .new .markOpen (some prepared.channelId)
      (s!"mint rejected swap, but failed to mark opening failed: {markErr}; " ++
        s!"mint error: {message}"))
      (.setOpeningFailed prepared.channelId
        ⟨OpenChannelFailureStage.mintRejected.asStr, message, host.nowSeconds⟩)
    return .network .mintRejected (some prepared.channelId) evidence

/-- Whether or not the rejection was recorded, there is an error to report. -/
def eitherError : Outcome OpenChannelError OpenChannelError → Outcome OpenChannelError OpenChannelError
  | .ok error | .err error => .ok error
  | .noReturn => .noReturn

/-- What a swap that was not answered is reported as. -/
def openNetworkError (prepared : PreparedOpenChannel T) (evidence : MintRequestError) :
    ClientCall T OpenChannelError OpenChannelError :=
  if evidence.permitsKeysetRetry then
    Program.bind (markPreparedOpenRejected prepared evidence) fun result =>
      .done (eitherError result >>= fun error => .ok { error with mintError := some evidence })
  else pure (.network .swapSubmitted (some prepared.channelId) evidence)

/-- The mint's answer to a swap, or the error to report. -/
def swapAnswer (prepared : PreparedOpenChannel T) :
    Except MintRequestError T.Text → ClientCall T OpenChannelError T.Text
  | .ok swapResponseJson => pure swapResponseJson
  | .error evidence => do
      let error ← openNetworkError prepared evidence
      .lift (.err error)

def markCompletedOpen (completed : CompletedOpenChannel T) : ClientCall T OpenChannelError Unit :=
  write (.new .markOpen (some completed.channelId))
    (.setOpen completed.channelId completed.fundingProofsJson)

/-- Verify the funding that the mint has signed, and record the channel as open. -/
def completeSubmittedOpen (prepared : PreparedOpenChannel T) (swapResponseJson : T.Text) :
    ClientCall T OpenChannelError (OpenChannelResult T) := do
  let completed ← .lift (completePreparedOpenChannel L prepared swapResponseJson)
  let restoreRequest ← .lift (fundingRestoreRequestForPreparedOpen L prepared)
  let answer : Except MintRequestError T.Text ← Attempt.ask (I := clientRequests T)
    (.callMintRestore prepared.mintUrl restoreRequest)
  let restoreResponse ← .lift ((Outcome.ofExcept answer).mapErr
    (.network .restoreVerification (some prepared.channelId)))
  let restored ← .lift (completeFundingRestoreForPreparedOpen L prepared restoreResponse)
  .lift (verifyCompletedOpenMatchesRestore completed restored)
  markCompletedOpen completed
  return completed.result

def submitPreparedOpenWithNetwork (prepared : PreparedOpenChannel T) :
    ClientCall T OpenChannelError (OpenChannelResult T) := do
  requireFreshOpenSubmission prepared
  markPreparedOpenSaved prepared
  let answer : Except MintRequestError T.Text ← Attempt.ask (I := clientRequests T)
    (.callMintSwap prepared.mintUrl prepared.swapRequestJson)
  let swapResponseJson ← swapAnswer prepared answer
  completeSubmittedOpen L prepared swapResponseJson

/-- Prepare the opening of a channel with what the host says, and submit it. -/
def openChannel (source : FundingSource T) (terms : OpeningTerms) (keysetInfoJson : T.Text) :
    ClientCall T OpenChannelError (OpenChannelResult T) := do
  let host ← askHost
  let unixTime ← askUnixTime
  let prepared ← .lift (host.prepareOpenChannel L W source terms keysetInfoJson unixTime)
  submitPreparedOpenWithNetwork L prepared

/-! ## Opening a channel -/

/-- `open_channel_from_token` and `open_channel_from_token_async`, which take the same
steps. -/
def openChannelFromToken (tokenString : T.Text) (terms : OpeningTerms) (keysetInfoJson : T.Text) :
    ClientCall T OpenChannelError (OpenChannelResult T) :=
  openChannel L W (.token tokenString) terms keysetInfoJson

def openChannelFromTokenWithInputKeysets (tokenString : T.Text) (terms : OpeningTerms)
    (keysetInfoJson inputKeysetsJson : T.Text) :
    ClientCall T OpenChannelError (OpenChannelResult T) :=
  openChannel L W (.tokenWithKeysets tokenString inputKeysetsJson) terms keysetInfoJson

def openChannelFromTokenWithKeysetId (tokenString : T.Text) (terms : OpeningTerms)
    (mintUrl keysetId : String) : ClientCall T OpenChannelError (OpenChannelResult T) := do
  let keysetInfo ← (fetchKeysetInfo L O mintUrl keysetId).mapErr .beforeSaved
  let unit ← .lift ((tokenUnit W tokenString).mapErr .beforeSaved)
  let inputKeysets ← (fetchTokenInputKeysets L O mintUrl (L.unitToString unit)).mapErr .beforeSaved
  openChannelFromTokenWithInputKeysets L W tokenString terms keysetInfo inputKeysets

/-- `open_channel_from_proofs_with_funding_amount`, where the terms have an amount, and
`open_channel_from_proofs`, where they have none. -/
def openChannelFromProofs (mintUrl unit : String) (inputProofsJson : T.Text) (terms : OpeningTerms)
    (outputKeysetInfoJson : T.Text) : ClientCall T OpenChannelError (OpenChannelResult T) := do
  let inputKeysets ← (fetchProofInputKeysets L W O mintUrl unit inputProofsJson).mapErr .beforeSaved
  openChannel L W (.proofs mintUrl unit inputProofsJson inputKeysets) terms outputKeysetInfoJson

def openChannelFromProofsWithKeysetId (mintUrl unit : String) (inputProofsJson : T.Text)
    (terms : OpeningTerms) (outputKeysetId : String) :
    ClientCall T OpenChannelError (OpenChannelResult T) := do
  let keysetInfo ← (fetchKeysetInfo L O mintUrl outputKeysetId).mapErr .beforeSaved
  openChannelFromProofs L W O mintUrl unit inputProofsJson
    { terms with requestedFundingTokenAmount := none } keysetInfo

/-! ### With another keyset if the first is rejected -/

/-- A submission for the loop, which goes on only after an error that permits it. A
submission that does not return gives none. -/
def submission {α : Type} (call : ClientCall T OpenChannelError α) :
    Program (clientRequests T) (Except (Option OpenChannelError) α) :=
  Program.bind call fun
    | .ok value => .done (.ok value)
    | .err error => .done (.error (some error))
    | .noReturn => .done (.error none)

/-- The end of a loop as the end of a call. -/
def unwrapOpenChannelRetryResult {A V : Type} :
    Outcome (KeysetRetryError A OpenChannelError (Option OpenChannelError))
      (KeysetRetrySuccess A V) → Outcome OpenChannelError V
  | .ok success => .ok success.value
  | .err (.select error) | .err (.prepare error) | .err (.refresh error) | .err (.cleanup error) =>
      .err error
  | .err (.submit _ (some error) _) | .err (.retryKeysetUnchanged _ (some error) _) => .err error
  | .err (.submit _ none _) | .err (.retryKeysetUnchanged _ none _) | .noReturn => .noReturn

/-- Open a channel with the first usable keyset, and once more with another one if the mint
rejects it. -/
def openWithActiveKeyset {A : Type} (mintUrl : String) (unit : T.CurrencyUnit)
    (policy : KeysetSelectionPolicy)
    (prepare : SelectedOutputKeyset T → ClientCall T OpenChannelError A)
    (submit : A → ClientCall T OpenChannelError (OpenChannelResult T)) :
    ClientCall T OpenChannelError (OpenChannelResult T) :=
  Program.bind (withActiveKeysetRetry
    ((firstCachedActiveOutputKeyset L mintUrl unit policy).mapErr .beforeSaved)
    SelectedOutputKeyset.id prepare (fun attempt => submission (submit attempt))
    (fun error => error.any OpenChannelError.isRetryableKeysetRejection)
    (fun _ => refreshKeysets L O mintUrl) (fun _ _ => pure ())) fun result =>
      .done (unwrapOpenChannelRetryResult result)

/-- The keyset of an attempt, and the keysets of the token. -/
structure TokenAutoAttempt (T : Carriers) where
  outputKeyset : SelectedOutputKeyset T
  inputKeysets : T.Text

def prepareTokenAutoAttempt (mintUrl : String) (tokenString : T.Text)
    (outputKeyset : SelectedOutputKeyset T) :
    ClientCall T OpenChannelError (TokenAutoAttempt T) := do
  let unit ← .lift ((tokenUnit W tokenString).mapErr .beforeSaved)
  let inputKeysets ← (fetchTokenInputKeysets L O mintUrl (L.unitToString unit)).mapErr .beforeSaved
  return { outputKeyset, inputKeysets }

def openChannelFromTokenAuto (tokenString : T.Text) (terms : OpeningTerms) (mintUrl : String)
    (policy : KeysetSelectionPolicy) : ClientCall T OpenChannelError (OpenChannelResult T) := do
  let unit ← .lift ((tokenUnit W tokenString).mapErr .beforeSaved)
  ensureKeysetsCachedForUnit L O mintUrl unit policy
  openWithActiveKeyset L O mintUrl unit policy (prepareTokenAutoAttempt L W O mintUrl tokenString)
    fun attempt => openChannelFromTokenWithInputKeysets L W tokenString terms
      attempt.outputKeyset.infoJson attempt.inputKeysets

/-- The unit of an automatic opening: one that does not parse is a custom one. -/
def parsedUnit (unit : String) : T.CurrencyUnit :=
  (L.unitFromStr unit).toOption.getD (W.customUnit unit)

def openChannelFromProofsAuto (mintUrl unit : String) (inputProofsJson : T.Text)
    (terms : OpeningTerms) (policy : KeysetSelectionPolicy) :
    ClientCall T OpenChannelError (OpenChannelResult T) := do
  ensureKeysetsCachedForUnit L O mintUrl (parsedUnit L W unit) policy
  openWithActiveKeyset L O mintUrl (parsedUnit L W unit) policy pure
    fun outputKeyset => openChannelFromProofs L W O mintUrl unit inputProofsJson
      { terms with requestedCapacity := none, requestedFundingTokenAmount := none }
      outputKeyset.infoJson

/-! ## Recovering an opening -/

/-- Ask the mint what it has signed of an opening. -/
def restoreOpening (channelId mintUrl : String) (request : T.Text) :
    ClientCall T OpenChannelError T.Text := do
  let answer : Except MintRequestError T.Text ← Attempt.ask (I := clientRequests T)
    (.callMintRestore mintUrl request)
  .lift ((Outcome.ofExcept answer).mapErr (.network .restoreVerification (some channelId)))

/-- The change is asked for if there is any. -/
def restoreOpeningChange (channelId mintUrl : String) :
    Option T.Text → ClientCall T OpenChannelError (Option T.Text)
  | none => pure none
  | some request => do
      let response ← restoreOpening channelId mintUrl request
      return some response

def markCompletedOpenRecovery (completed : CompletedOpenRecovery T) :
    ClientCall T OpenChannelError Unit :=
  write (.new .markOpen (some completed.channelId))
    (.setOpen completed.channelId completed.fundingProofsJson)

def recoverOpenChannelFromSwap (channelId : String) :
    ClientCall T OpenChannelError (OpenChannelResult T) := do
  let saved ← askOpening channelId
  let prepared ← .lift (prepareOpenChannelRecovery L channelId saved)
  let fundingRestoreResponse ← restoreOpening channelId prepared.mintUrl
    prepared.fundingRestoreRequestJson
  let changeRestoreResponse ← restoreOpeningChange channelId prepared.mintUrl
    prepared.changeRestoreRequestJson
  let completed ← .lift (completePreparedOpenRecovery L prepared fundingRestoreResponse
    changeRestoreResponse)
  markCompletedOpenRecovery completed
  return completed.result

end ClientBridge

/-! ## All ways to open a channel -/

/-- A call that opens a channel, with its arguments. -/
inductive OpenCall (T : Carriers)
  | fromToken (tokenString keysetInfoJson : T.Text)
  | fromTokenWithKeysetId (tokenString : T.Text) (mintUrl keysetId : String)
  | fromTokenAuto (tokenString : T.Text) (mintUrl : String) (policy : KeysetSelectionPolicy)
  | fromProofs (mintUrl unit : String) (inputProofsJson outputKeysetInfoJson : T.Text)
  | fromProofsWithKeysetId (mintUrl unit : String) (inputProofsJson : T.Text)
      (outputKeysetId : String)
  | fromProofsAuto (mintUrl unit : String) (inputProofsJson : T.Text)
      (policy : KeysetSelectionPolicy)

namespace OpenCall

open ClientBridge

variable {T : Carriers} (L : Cashu T) (W : WalletOps T) (O : KeysetOps T)

/-- The steps of a call. -/
def program (terms : OpeningTerms) : OpenCall T → ClientCall T OpenChannelError (OpenChannelResult T)
  | fromToken tokenString keysetInfoJson => openChannelFromToken L W tokenString terms keysetInfoJson
  | fromTokenWithKeysetId tokenString mintUrl keysetId =>
      openChannelFromTokenWithKeysetId L W O tokenString terms mintUrl keysetId
  | fromTokenAuto tokenString mintUrl policy =>
      openChannelFromTokenAuto L W O tokenString terms mintUrl policy
  | fromProofs mintUrl unit inputProofsJson outputKeysetInfoJson =>
      openChannelFromProofs L W O mintUrl unit inputProofsJson terms outputKeysetInfoJson
  | fromProofsWithKeysetId mintUrl unit inputProofsJson outputKeysetId =>
      openChannelFromProofsWithKeysetId L W O mintUrl unit inputProofsJson terms outputKeysetId
  | fromProofsAuto mintUrl unit inputProofsJson policy =>
      openChannelFromProofsAuto L W O mintUrl unit inputProofsJson terms policy

/-- The money of a call. -/
def input : OpenCall T → T.Text
  | fromToken tokenString _ | fromTokenWithKeysetId tokenString _ _
  | fromTokenAuto tokenString _ _ => tokenString
  | fromProofs _ _ inputProofsJson _ | fromProofsWithKeysetId _ _ inputProofsJson _
  | fromProofsAuto _ _ inputProofsJson _ => inputProofsJson

/-- The terms as a call uses them. -/
def effective (terms : OpeningTerms) : OpenCall T → OpeningTerms
  | fromProofsWithKeysetId _ _ _ _ => { terms with requestedFundingTokenAmount := none }
  | fromProofsAuto _ _ _ _ =>
      { terms with requestedCapacity := none, requestedFundingTokenAmount := none }
  | _ => terms

end OpenCall

/-! ## The world of a client -/

/-- What a client's store knows nothing of: the keys, the clocks and the mint. -/
structure ClientEnvironment (T : Carriers) (σ ω : Type) where
  host : ω → ClientHost T × ω
  unixTime : ω → Nat × ω
  listKeysetsForUnit : σ → String → T.CurrencyUnit → List (T.Id × ClientKeysetCacheEntry T)
  callMintSwap : String → T.Text → ω → Except MintRequestError T.Text × ω
  callMintRestore : String → T.Text → ω → Except MintRequestError T.Text × ω
  callMintKeysets : String → ω → Except MintRequestError T.Text × ω
  callMintKeys : String → String → ω → Except MintRequestError T.Text × ω

/-- A client's store and its environment. -/
structure ClientWorld (σ ω : Type) where
  store : σ
  env : ω

/-- How the world answers a client. -/
def serveClient {T : Carriers} {σ ω : Type} (S : ClientStorage T σ) (E : ClientEnvironment T σ ω) :
    Server (clientRequests T) (ClientWorld σ ω)
  | .host, world => ((E.host world.env).1, { world with env := (E.host world.env).2 })
  | .unixTime, world => ((E.unixTime world.env).1, { world with env := (E.unixTime world.env).2 })
  | .getChannelOpeningFromSwap channelId, world =>
      (S.getOpeningFromSwap world.store channelId, world)
  | .write operation, world =>
      ((S.perform operation world.store).1,
        { world with store := (S.perform operation world.store).2 })
  | .getKeyset mint id, world => (S.getKeyset world.store mint id, world)
  | .getActiveKeysetIds mint unit, world => (S.getActiveKeysetIds world.store mint unit, world)
  | .listKeysetsForUnit mint unit, world => (E.listKeysetsForUnit world.store mint unit, world)
  | .callMintSwap mintUrl request, world =>
      ((E.callMintSwap mintUrl request world.env).1,
        { world with env := (E.callMintSwap mintUrl request world.env).2 })
  | .callMintRestore mintUrl request, world =>
      ((E.callMintRestore mintUrl request world.env).1,
        { world with env := (E.callMintRestore mintUrl request world.env).2 })
  | .callMintKeysets mintUrl, world =>
      ((E.callMintKeysets mintUrl world.env).1,
        { world with env := (E.callMintKeysets mintUrl world.env).2 })
  | .callMintKeys mintUrl keysetId, world =>
      ((E.callMintKeys mintUrl keysetId world.env).1,
        { world with env := (E.callMintKeys mintUrl keysetId world.env).2 })

end Spilman
