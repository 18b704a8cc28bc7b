/-
# Keysets from the mint's listings

What the client learns of a mint's keysets. A mint lists them with their metadata under
`/v1/keysets` and their keys under `/v1/keys`. Entries of versions that the library does not
implement are skipped; entries of the two it does have to be well formed. From both answers
the text of a keyset is built, in the form in which it is cached and handed on, and its
identifier is recomputed from what it is made of.

Diagnostics of skipped entries are left out: nothing here reads them.
-/

import Spilman.Client.Opening
import Spilman.Storage.Interface

namespace Spilman

open Lib

variable {T : Carriers}

/-! ## Versions -/

/-- A version that the library implements. -/
inductive KeysetVersion
  | v1
  | v2
  deriving DecidableEq, Repr

/-- The bit of a version in a set. -/
def KeysetVersion.bit : KeysetVersion → UInt8
  | v1 => 1
  | v2 => 2

/-- The name of a version in messages. -/
def KeysetVersion.name : KeysetVersion → String
  | v1 => "V1"
  | v2 => "V2"

/-- A set of versions. -/
structure KeysetVersions where
  bits : UInt8
  deriving DecidableEq, Repr

namespace KeysetVersions

def contains (versions : KeysetVersions) (version : KeysetVersion) : Bool :=
  versions.bits &&& version.bit ≠ 0

/-- Whether outputs may be made for a keyset. -/
def allows (L : Cashu T) (versions : KeysetVersions) (id : T.Id) : Bool :=
  versions.contains (match L.getVersion id with | .version00 => .v1 | .version01 => .v2)

/-- The versions in a message. -/
def debug (versions : KeysetVersions) : String :=
  "[" ++ ", ".intercalate (([.v1, .v2].filter versions.contains).map KeysetVersion.name) ++ "]"

end KeysetVersions

/-- Which keysets a caller lets outputs be made for. -/
structure KeysetSelectionPolicy where
  allowedVersions : KeysetVersions

/-! ## Listings -/

/-- Operations of the ecash library on keyset listings. -/
structure KeysetOps (T : Carriers) where
  /-- `serde_json::from_value` into the metadata of a keyset. -/
  infoOfJson : Json → Except String (KeySetSummary T)

variable (L : Cashu T) (O : KeysetOps T)

/-- An identifier of a version that is implemented, or none if it is of another one. -/
def supportedKeysetId (raw : String) : Outcome String (Option T.Id) :=
  match raw.toList with
  | high :: low :: _ =>
      match Hex.digitValue high, Hex.digitValue low with
      | some high, some low =>
          if 16 * high + low > 1 then .ok none
          else ((Outcome.ofExcept (L.idFromStr raw)).mapErr fun e =>
            s!"Invalid supported keyset ID: {e}") >>= fun id => .ok (some id)
      | _, _ => .err "Keyset ID must start with a hex version byte"
  | _ => .err "Keyset ID must start with a hex version byte"

/-- The entries of a listing that are of a supported version. -/
def supportedEntries : List Json → Outcome String (List Json)
  | [] => .ok []
  | entry :: rest => do
      let raw ← .ofOption "Missing or invalid keyset id" ((entry.get? "id").bind Json.asStr)
      match ← supportedKeysetId L raw with
      | some _ => do
          let _ ← (Outcome.ofExcept (O.infoOfJson entry)).mapErr fun e =>
            s!"Invalid supported keyset metadata: {e}"
          return entry :: (← supportedEntries rest)
      | none => supportedEntries rest

/-- `KeysetDiscovery::from_json`. -/
def discoverKeysets (json : T.Text) : Outcome String (List Json) := do
  let response ← Outcome.ofExcept (L.parse json)
  let entries ← .ofOption "Invalid /v1/keysets response: missing 'keysets' array"
    ((response.get? "keysets").bind Json.asArray)
  supportedEntries L O entries

/-- The identifier of an entry, if it reads as one. -/
def entryId (entry : Json) : Option T.Id :=
  ((entry.get? "id").bind Json.asStr).bind fun raw => (L.idFromStr raw).toOption

/-- The only entry of an answer that has the requested identifier. -/
def matchingEntry (requested : T.Id) : List Json → Option Json → Outcome String (Option Json)
  | [], found => .ok found
  | entry :: rest, found => do
      let raw ← .ofOption "Missing keyset id in keys response" ((entry.get? "id").bind Json.asStr)
      if (← supportedKeysetId L raw) = some requested then do
        .guard "Duplicate requested keyset in keys response" found.isNone
        matchingEntry requested rest (some entry)
      else matchingEntry requested rest found

/-- The identifier that a keyset should have. -/
def recomputedId (info : KeysetInfo T) : T.Id :=
  match L.getVersion info.keysetId with
  | .version00 => L.v1FromKeys info.activeKeys
  | .version01 => L.v2FromData info.activeKeys info.unit info.inputFeePpk info.finalExpiry

/-- The text of a keyset, from the answers to both questions. -/
def buildKeysetInfoFromResponses (keysetsJson keysJson : T.Text) (keysetId : String) :
    Outcome String T.Text := do
  let keysets ← discoverKeysets L O keysetsJson
  let keysResp ← (Outcome.ofExcept (L.parse keysJson)).mapErr fun e =>
    s!"Failed to parse /v1/keys response: {e}"
  let requested ← .ofOption "Unsupported keyset version requested" (← supportedKeysetId L keysetId)
  let keysetEntry ← .ofOption s!"Keyset '{keysetId}' not found in /v1/keysets response"
    (keysets.find? fun entry => entryId L entry = some requested)
  let unit ← .ofOption "Missing 'unit' in keyset entry" ((keysetEntry.get? "unit").bind Json.asStr)
  let inputFeePpk := ((keysetEntry.get? "input_fee_ppk").bind Json.asU64).getD 0
  let finalExpiry := keysetEntry.get? "final_expiry"
  .guard "Invalid keyset final_expiry"
    (∀ value ∈ finalExpiry, value = .null ∨ value.asU64.isSome)
  let entries ← .ofOption "Invalid /v1/keys response: missing keysets"
    ((keysResp.get? "keysets").bind Json.asArray)
  let matching ← .ofOption "Requested keyset missing from keys response"
    (← matchingEntry L requested entries none)
  .guard "Keyset keys response unit mismatch"
    ((matching.get? "unit").bind Json.asStr = some unit)
  .guard "Keyset keys response input_fee_ppk mismatch"
    (∀ value ∈ matching.get? "input_fee_ppk", value = .num inputFeePpk)
  .guard "Keyset keys response final_expiry mismatch"
    (∀ value ∈ matching.get? "final_expiry", value = finalExpiry.getD .null)
  let keys ← .ofOption "Invalid /v1/keys response: missing keys" (matching.get? "keys")
  let json := L.render (.obj ([
    ("keysetId", .str keysetId),
    ("unit", .str unit),
    ("keys", keys),
    ("inputFeePpk", .num inputFeePpk)] ++
      (finalExpiry.map fun value => ("finalExpiry", value)).toList))
  let info ← parseKeysetInfoFromJson L json
  .guard (s!"Keyset ID mismatch: claimed {L.idToString info.keysetId} but keys derive " ++
    L.idToString (recomputedId L info)) (info.keysetId = recomputedId L info)
  return json

/-! ## The keyset is authentic -/

/-- An entry of an answer with an identifier of a supported version. -/
def HasKeysetId (entry : Json) (id : T.Id) : Prop :=
  ∃ raw, (entry.get? "id").bind Json.asStr = some raw ∧
    supportedKeysetId L raw = .ok (some id)

/-- The entries of an answer. -/
def Lists (answer : T.Text) (entries : List Json) : Prop :=
  ∃ response, L.parse answer = .ok response ∧
    (response.get? "keysets").bind Json.asArray = some entries

/-- A keyset that agrees with the answers of the mint. -/
structure AuthenticKeyset (keysetsJson keysJson : T.Text) (keysetId : String)
    (info : KeysetInfo T) : Prop where
  requested : supportedKeysetId L keysetId = .ok (some info.keysetId)
  recomputed : recomputedId L info = info.keysetId
  /-- The metadata is that of an entry in the listing, and the answer with the keys has one
  entry with this identifier, which has the keys and contradicts nothing. -/
  agrees : ∃ listing entry keysEntries before matching after unit fields keys,
    Lists L keysetsJson listing ∧ entry ∈ listing ∧ HasKeysetId L entry info.keysetId ∧
    (entry.get? "unit").bind Json.asStr = some unit ∧ L.unitFromStr unit = .ok info.unit ∧
    ((entry.get? "input_fee_ppk").bind Json.asU64).getD 0 = info.inputFeePpk ∧
    (entry.get? "final_expiry").bind Json.asU64 = info.finalExpiry ∧
    Lists L keysJson keysEntries ∧ keysEntries = before ++ matching :: after ∧
    HasKeysetId L matching info.keysetId ∧
    (∀ other ∈ before ++ after, ¬ HasKeysetId L other info.keysetId) ∧
    (matching.get? "unit").bind Json.asStr = some unit ∧
    (∀ value ∈ matching.get? "input_fee_ppk", value = .num info.inputFeePpk) ∧
    (∀ value ∈ matching.get? "final_expiry",
      value = (info.finalExpiry.map Json.num).getD .null) ∧
    matching.get? "keys" = some (.obj fields) ∧
    Outcome.mapAll (parseKeyEntry L) fields = .ok keys ∧ info.activeKeys = .ofList keys
  decreasing : info.amountsLargestFirst.Pairwise (· > ·)
  amounts : ∀ amount, amount ∈ info.amountsLargestFirst ↔ amount ∈ info.activeKeys.keys

section Authenticity

variable {L O}

theorem mem_of_supportedEntries {entries keysets : List Json} {entry : Json}
    (supported : supportedEntries L O entries = .ok keysets) (member : entry ∈ keysets) :
    entry ∈ entries ∧ ∃ id, HasKeysetId L entry id := by
  induction entries generalizing keysets with
  | nil =>
      cases supported
      cases member
  | cons first rest ih =>
      simp only [supportedEntries, Outcome.bind_eq_ok, Outcome.ofOption_eq_ok] at supported
      obtain ⟨raw, named, version, classified, supported⟩ := supported
      cases version with
      | none =>
          obtain ⟨inRest, known⟩ := ih supported member
          exact ⟨List.mem_cons_of_mem _ inRest, known⟩
      | some id =>
          simp only [Outcome.bind_eq_ok, Outcome.pure_eq, Outcome.ok.injEq] at supported
          obtain ⟨_, -, others, later, rfl⟩ := supported
          rcases List.mem_cons.mp member with rfl | inOthers
          · exact ⟨List.mem_cons_self, id, raw, named, classified⟩
          · obtain ⟨inRest, known⟩ := ih later inOthers
            exact ⟨List.mem_cons_of_mem _ inRest, known⟩

/-- A supported identifier is the one its text reads as. -/
theorem idFromStr_of_supportedKeysetId {raw : String} {id : T.Id}
    (classified : supportedKeysetId L raw = .ok (some id)) : L.idFromStr raw = .ok id := by
  unfold supportedKeysetId at classified
  split at classified
  · split at classified
    · split_ifs at classified
      · cases classified
      · simpa only [Outcome.bind_eq_ok, Outcome.mapErr_eq_ok, Outcome.ofExcept_eq_ok,
          Outcome.ok.injEq, Option.some.injEq, exists_eq_right] using classified
    · cases classified
  · cases classified

theorem hasKeysetId_of_entryId {entry : Json} {id id' : T.Id} (known : HasKeysetId L entry id')
    (read : entryId L entry = some id) : HasKeysetId L entry id := by
  obtain ⟨raw, named, classified⟩ := known
  rw [entryId, named, Option.bind_some, idFromStr_of_supportedKeysetId classified] at read
  exact ⟨raw, named, classified.trans (congrArg Outcome.ok read)⟩

/-- The search ends with the entry it had found or with the only one that is left. -/
theorem matchingEntry_eq_ok {requested : T.Id} {entries : List Json} {found : Option Json}
    {matching : Json} (ended : matchingEntry L requested entries found = .ok (some matching)) :
    (found = some matching ∧ ∀ other ∈ entries, ¬ HasKeysetId L other requested) ∨
      (found = none ∧ ∃ before after, entries = before ++ matching :: after ∧
        HasKeysetId L matching requested ∧
        ∀ other ∈ before ++ after, ¬ HasKeysetId L other requested) := by
  induction entries generalizing found with
  | nil =>
      cases ended
      exact .inl ⟨rfl, fun _ none => absurd none List.not_mem_nil⟩
  | cons entry rest ih =>
      simp only [matchingEntry, Outcome.bind_eq_ok, Outcome.ofOption_eq_ok] at ended
      obtain ⟨raw, named, version, classified, ended⟩ := ended
      split_ifs at ended with requestedHere
      · simp only [Outcome.bind_eq_ok, Outcome.guard_eq_ok] at ended
        obtain ⟨-, first, ended⟩ := ended
        rcases ih ended with ⟨same, none⟩ | ⟨impossible, -⟩
        · cases same
          refine .inr ⟨Option.isNone_iff_eq_none.mp first, [], rest, rfl, ?_, none⟩
          exact ⟨raw, named, requestedHere ▸ classified⟩
        · cases impossible
      · have other : ¬ HasKeysetId L entry requested := by
          rintro ⟨raw', named', classified'⟩
          cases named.symm.trans named'
          exact requestedHere (Outcome.ok.inj (classified.symm.trans classified'))
        rcases ih ended with ⟨same, none⟩ | ⟨same, before, after, split, known, none⟩
        · exact .inl ⟨same, List.forall_mem_cons.mpr ⟨other, none⟩⟩
        · exact .inr ⟨same, entry :: before, after, congrArg (entry :: ·) split, known,
            List.forall_mem_cons.mpr ⟨other, none⟩⟩

/-- What is read from the object that is built. -/
theorem keysetInfoOfJson_built {keysetId unit : String} {keysValue : Json} {fee : Nat}
    {finalExpiry : Option Json} {info : KeysetInfo T} (fits : fee < 2 ^ 64)
    (read : keysetInfoOfJson L (.obj ([("keysetId", .str keysetId), ("unit", .str unit),
      ("keys", keysValue), ("inputFeePpk", .num fee)] ++
        (finalExpiry.map fun value => ("finalExpiry", value)).toList)) = .ok info) :
    ∃ id unit' fields keys, L.idFromStr keysetId = .ok id ∧ L.unitFromStr unit = .ok unit' ∧
      keysValue = .obj fields ∧ Outcome.mapAll (parseKeyEntry L) fields = .ok keys ∧
      info = .new id unit' (.ofList keys) fee (finalExpiry.bind Json.asU64) := by
  set object := Json.obj ([("keysetId", .str keysetId), ("unit", .str unit), ("keys", keysValue),
    ("inputFeePpk", .num fee)] ++ (finalExpiry.map fun value => ("finalExpiry", value)).toList)
    with built
  have name : ((object.field "keysetId").asStr <|> (object.field "keyset_id").asStr) =
      some keysetId := rfl
  have unitField : (object.field "unit").asStr = some unit := rfl
  have keysField : object.field "keys" = keysValue := rfl
  have feeField : ((object.field "inputFeePpk").asU64 <|> (object.field "input_fee_ppk").asU64) =
      some fee := by
    show ((Json.num fee).asU64 <|> _) = _
    rw [Json.asU64_num fits]
    rfl
  have expiry : ((object.field "finalExpiry").asU64 <|> (object.field "final_expiry").asU64) =
      finalExpiry.bind Json.asU64 := by
    cases finalExpiry with
    | none => rfl
    | some value =>
        show (value.asU64 <|> none) = value.asU64
        cases value.asU64 <;> rfl
  simp only [keysetInfoOfJson, name, unitField, keysField, feeField, expiry,
    Outcome.bind_eq_ok, Outcome.mapErr_eq_ok, Outcome.ofExcept_eq_ok, Outcome.ofOption_eq_ok,
    Outcome.pure_eq, Outcome.ok.injEq, Option.some.injEq] at read
  obtain ⟨_, rfl, id, readId, _, rfl, unit', readUnit, _, rfl, fields, isObject, keys, readKeys,
    rfl⟩ := read
  refine ⟨id, unit', fields, keys, readId, readUnit, ?_, readKeys, rfl⟩
  cases keysValue <;> cases isObject
  rfl

theorem feeOf_lt (value : Option Json) : (value.bind Json.asU64).getD 0 < 2 ^ 64 := by
  cases read : value.bind Json.asU64 with
  | none => decide
  | some fee =>
      obtain ⟨_, -, isU64⟩ := Option.bind_eq_some_iff.mp read
      exact Json.lt_of_asU64 isU64

/-- An expiry that passes the check is written as it is read. -/
theorem expiry_written {finalExpiry : Option Json}
    (wellFormed : ∀ value ∈ finalExpiry, value = .null ∨ value.asU64.isSome) :
    finalExpiry.getD .null = ((finalExpiry.bind Json.asU64).map Json.num).getD .null := by
  cases finalExpiry with
  | none => rfl
  | some value =>
      rcases wellFormed value rfl with rfl | isU64
      · rfl
      · cases value with
        | num n =>
            rw [Json.asU64] at isU64
            split_ifs at isU64 with fits
            · rw [Option.bind_some, Json.asU64_num fits]
              rfl
            · cases isU64
        | _ => cases isU64

/-- **A keyset that is built is authentic.** Whatever the two answers are, if a text is built
for a requested identifier, it reads as a keyset that agrees with them. -/
theorem buildKeysetInfoFromResponses_authentic (trips : L.RoundTrips)
    {keysetsJson keysJson json : T.Text} {keysetId : String}
    (built : buildKeysetInfoFromResponses L O keysetsJson keysJson keysetId = .ok json) :
    ∃ info, parseKeysetInfoFromJson L json = .ok info ∧
      AuthenticKeyset L keysetsJson keysJson keysetId info := by
  simp only [buildKeysetInfoFromResponses, discoverKeysets, Outcome.bind_eq_ok,
    Outcome.mapErr_eq_ok, Outcome.ofExcept_eq_ok, Outcome.ofOption_eq_ok, Outcome.guard_eq_ok,
    Outcome.pure_eq, Outcome.ok.injEq] at built
  obtain ⟨keysets, ⟨response, readListing, listing, listed, supported⟩, keysResp, readKeys,
    _, classified, requested, rfl, entry, found, unit, unitListed, -, expiryListed, keysEntries,
    keysListed, _, searched, matching, rfl, -, unitAgrees, -, feeAgrees, -, expiryAgrees,
    keysValue, keysGiven, info, parsed, -, sameId, rfl⟩ := built
  refine ⟨info, parsed, ?_⟩
  simp only [parseKeysetInfoFromJson, trips.parse_render, Outcome.ofExcept_ok, Outcome.mapErr_ok,
    Outcome.ok_bind] at parsed
  obtain ⟨id, unit', fields, keys, readId, readUnit, rfl, parsedKeys, rfl⟩ :=
    keysetInfoOfJson_built (feeOf_lt _) parsed
  obtain rfl : requested = id := Except.ok.inj
    ((idFromStr_of_supportedKeysetId classified).symm.trans readId)
  obtain ⟨inListing, id', known⟩ := mem_of_supportedEntries supported (List.mem_of_find?_eq_some found)
  have named := hasKeysetId_of_entryId known (by simpa using List.find?_some found)
  rcases matchingEntry_eq_ok searched with ⟨impossible, -⟩ | ⟨-, before, after, split, only, others⟩
  · cases impossible
  refine ⟨classified, sameId.symm, ⟨listing, entry, keysEntries, before, matching, after, unit,
    fields, keys, ⟨response, readListing, listed⟩, inListing, named, unitListed, readUnit, rfl, rfl,
    ⟨keysResp, readKeys, keysListed⟩, split, only, others, unitAgrees, feeAgrees,
    fun value given => (expiryAgrees value given).trans (expiry_written expiryListed), keysGiven,
    parsedKeys, rfl⟩, ?_, ?_⟩
  · exact KeysetInfo.new_strictlySorted _ _ _ _ _
  · exact fun amount => List.mem_insertionSort _

end Authenticity

namespace Sample

/-- The small library with identifiers of the first version. -/
def versioned : Cashu carriers :=
  { library with v1FromKeys := fun keys => "00" ++ library.v1FromKeys keys }

theorem versioned_roundTrips : versioned.RoundTrips where
  parse_render := roundTrips.parse_render
  publicKeyFromHex_toHex := roundTrips.publicKeyFromHex_toHex
  secretKeyFromSlice_bytes := roundTrips.secretKeyFromSlice_bytes
  scalarFromBeBytes_toBeBytes := roundTrips.scalarFromBeBytes_toBeBytes
  idFromStr_toString := roundTrips.idFromStr_toString
  unitFromStr_toString := roundTrips.unitFromStr_toString
  proofsOfJson_toJson := roundTrips.proofsOfJson_toJson
  swapRequestOfJson_toJson := roundTrips.swapRequestOfJson_toJson

def keysetOps : KeysetOps carriers where
  infoOfJson := fun entry =>
    match (entry.get? "id").bind Json.asStr, (entry.get? "unit").bind Json.asStr with
    | some id, some unit => .ok ⟨id, unit, true, 0, none⟩
    | _, _ => .error "missing field"

/-- One keyset in both answers, and one of a later version in the listing. -/
def keysetAnswers : Json × Json :=
  (.obj [("keysets", .arr [.obj [("id", .str "02ff")],
      .obj [("id", .str "001:05,"), ("unit", .str "sat"), ("final_expiry", .num 9)]])],
    .obj [("keysets", .arr [.obj [("id", .str "001:05,"), ("unit", .str "sat"),
      ("keys", .obj [("1", .str "05")])]])])

end Sample

/-- The text of a keyset of one key. -/
theorem buildKeysetInfoFromResponses_authentic_one : ∃ json info,
    buildKeysetInfoFromResponses Sample.versioned Sample.keysetOps Sample.keysetAnswers.1
      Sample.keysetAnswers.2 "001:05," = .ok json ∧
    parseKeysetInfoFromJson Sample.versioned json = .ok info ∧
    AuthenticKeyset Sample.versioned Sample.keysetAnswers.1 Sample.keysetAnswers.2 "001:05,"
      info := by
  have ran : (buildKeysetInfoFromResponses Sample.versioned Sample.keysetOps
      Sample.keysetAnswers.1 Sample.keysetAnswers.2 "001:05,").okAnd (fun _ => true) = true := by
    decide +kernel
  obtain ⟨json, built, -⟩ := Outcome.exists_of_okAnd ran
  obtain ⟨info, parsed, authentic⟩ :=
    buildKeysetInfoFromResponses_authentic Sample.versioned_roundTrips built
  exact ⟨json, info, built, parsed, authentic⟩

/-! ## Keysets of inputs -/

/-- What is kept of a listed keyset, for the fees of inputs. -/
def listedSummary (unit : String) (entry : Json) : Outcome String Json := do
  let id ← .ofOption "Missing 'id' in keyset entry" ((entry.get? "id").bind Json.asStr)
  return .obj ([
    ("id", .str id),
    ("unit", .str unit),
    ("active", .bool (((entry.get? "active").bind Json.asBool).getD false)),
    ("input_fee_ppk", .num (((entry.get? "input_fee_ppk").bind Json.asU64).getD 0))] ++
      ((entry.get? "final_expiry").map fun value => ("final_expiry", value)).toList)

/-- The keysets of a unit, from a listing. -/
def tokenInputKeysetsFromResponse (keysetsJson : T.Text) (unit : String) :
    Outcome String T.Text := do
  let keysets ← discoverKeysets L O keysetsJson
  let out ← .mapAll (listedSummary unit)
    (keysets.filter fun entry => (entry.get? "unit").bind Json.asStr = some unit)
  .guard s!"no keysets found for unit '{unit}'" (out ≠ [])
  return L.render (.arr out)

/-- What is kept of a cached keyset, for the fees of inputs. -/
def keysetSummaryFromCacheEntry (expectedUnit : T.CurrencyUnit)
    (cached : T.Id × KeysetCacheEntry T) : Outcome String Json := do
  let id := L.idToString cached.1
  .guard (s!"cached keyset {id} unit mismatch: expected {L.unitToString expectedUnit}, got " ++
    L.unitToString cached.2.unit) (cached.2.unit = expectedUnit)
  let info ← parseKeysetInfoFromJson L cached.2.infoJson
  .guard (s!"cached keyset id mismatch: requested {id}, cache entry has " ++
    L.idToString info.keysetId) (info.keysetId = cached.1)
  .guard (s!"cached keyset {id} info unit mismatch: expected {L.unitToString expectedUnit}, " ++
    s!"got {L.unitToString info.unit}") (info.unit = expectedUnit)
  return .obj ([
    ("id", .str id),
    ("unit", .str (L.unitToString expectedUnit)),
    ("active", .bool cached.2.active),
    ("input_fee_ppk", .num info.inputFeePpk)] ++
      (info.finalExpiry.map fun expiry => ("final_expiry", Json.num expiry)).toList)

def inputKeysetsFromCacheEntries (entries : List (T.Id × KeysetCacheEntry T))
    (unit : T.CurrencyUnit) : Outcome String T.Text := do
  let summaries ← .mapAll (keysetSummaryFromCacheEntry L unit) entries
  return L.render (.arr summaries)

/-- The keysets of proofs, each one once, in the order of their first proofs. -/
def proofKeysetIds (inputProofsJson : T.Text) : Outcome String (List T.Id) := do
  let proofs ← (parseProofs L inputProofsJson).mapErr fun e =>
    s!"Failed to parse input proofs: {e}"
  let ids := proofs.foldl (fun ids proof =>
    if proof.keysetId ∈ ids then ids else ids ++ [proof.keysetId]) []
  .guard "input proofs are empty" (ids ≠ [])
  return ids

/-- A fetched keyset that the cache did not have. -/
def fetchedSummary (fetched : List (KeySetSummary T)) (missing : T.Id) : Outcome String Json := do
  let keyset ← .ofOption ("missing input keyset metadata for proof keyset " ++
    L.idToString missing) (fetched.find? fun keyset => keyset.id = missing)
  return .obj [
    ("id", .str (L.idToString keyset.id)),
    ("unit", .str (L.unitToString keyset.unit)),
    ("active", .bool keyset.active),
    ("input_fee_ppk", .num keyset.inputFeePpk),
    ("final_expiry", match keyset.finalExpiry with | none => .null | some expiry => .num expiry)]

end Spilman
