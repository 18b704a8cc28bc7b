/-
# Completing a swap

What the holder of a prepared swap does with the mint's answer: every signature
is checked against the point it was made on, the signatures are unblinded, and
the proofs are checked once more. In rerandomized mode the mint has moved every
point by its own randomness, and the blinding factors are moved along with them.

`completeSwapResponse_eq_ok_iff` says exactly which answers are accepted, and
`completeSwapResponse_of_honest` that the answer of a mint that signs every
output is one of them.
-/

import Spilman.Deterministic

namespace Spilman

open Lib

variable {T : Carriers} (L : Cashu T)

/-- Recovery material for one output: the output as offered, its secret and its
blinding factor. -/
structure PreparedSwapOutput (T : Carriers) where
  blindedMessage : BlindedMessage T
  secret : String
  blindingFactor : T.SecretKey
  deriving DecidableEq

/-! ## The code -/

/-- The outputs the mint has issued for a request. An ordinary request comes
without randomness, a rerandomized one with it. -/
def swapRestoreRequest (request : SwapRequest T) (r : Option (Bytes 32)) :
    Outcome String (List (BlindedMessage T)) := do
  .guard "empty prepared swap outputs" (request.outputs ≠ [])
  .guard "duplicate prepared swap outputs" (request.outputs.map BlindedMessage.blindedSecret).Nodup
  match request.rerandomized, r with
  | false, none => .ok request.outputs
  | true, some r => (Outcome.ofExcept (L.tweakSwapOutputs r request.outputs)).mapErr fun _ =>
      "invalid derived swap points"
  | _, _ => .err "swap mode/randomness mismatch"

/-- The scalar that the mint's randomness stands for. -/
def mintTweak : Option (Bytes 32) → Outcome String (Option T.Scalar)
  | none => .ok none
  | some r => do
      let tweak ← (Outcome.ofExcept (L.deriveRerandomizationTweak r)).mapErr fun _ =>
        "invalid mint randomness"
      return some tweak

/-- A blinding factor moved by the mint's scalar. -/
def effectiveBlindingFactor (blindingFactor : T.SecretKey) :
    Option T.Scalar → Outcome String T.SecretKey
  | none => .ok blindingFactor
  | some tweak => do
      let original ←
        (Outcome.ofExcept (L.secretKeyFromSlice (L.secretBytes blindingFactor).val)).mapErr fun _ =>
          "invalid original blinding scalar"
      let effective ← (Outcome.ofExcept (L.addTweak original tweak)).mapErr fun _ =>
        "invalid effective blinding scalar"
      (Outcome.ofExcept (L.secretKeyFromSlice (L.secretBytes effective).val)).mapErr fun _ =>
        "invalid effective blinding scalar"

/-- Match prepared outputs, requested outputs and issued outputs one by one. The
secrets met so far may not come again. -/
def bindOutputs (keys : KeysetInfo T) (tweak : Option T.Scalar) (seen : List String) :
    List ((PreparedSwapOutput T × BlindedMessage T) × BlindedMessage T) →
      Outcome String (List (PreparedSwapOutput T))
  | [] => .ok []
  | ((p, original), output) :: rest => do
      .guard "prepared swap output binding mismatch"
        (p.blindedMessage = original ∧ original.keysetId = keys.keysetId ∧
          (keys.activeKeys.amountKey original.amount).isSome ∧ p.secret ∉ seen)
      let point ← (Outcome.ofExcept (L.blindMessage p.secret p.blindingFactor)).mapErr fun _ =>
        "invalid original swap blinding"
      .guard "prepared swap secrets do not match original points" (point = original.blindedSecret)
      let blindingFactor ← effectiveBlindingFactor L p.blindingFactor tweak
      let others ← bindOutputs keys tweak (p.secret :: seen) rest
      return ⟨output, p.secret, blindingFactor⟩ :: others

/-- The outputs the mint has really signed, with the factors that unblind them. -/
def effectiveOutputs (request : SwapRequest T) (prepared : List (PreparedSwapOutput T))
    (keys : KeysetInfo T) (r : Option (Bytes 32)) :
    Outcome String (List (PreparedSwapOutput T)) := do
  let derived ← swapRestoreRequest L request r
  .guard "prepared swap output count mismatch" (prepared.length = request.outputs.length)
  let tweak ← mintTweak L r
  bindOutputs L keys tweak [] ((prepared.zip request.outputs).zip derived)

/-- Add up amounts without wrapping. -/
def checkedSum (error : String) : (total : Nat) → List Nat → Outcome String Nat
  | total, [] => .ok total
  | total, amount :: rest =>
      if total + amount < 2 ^ 64 then checkedSum error (total + amount) rest else .err error

/-- One signature against its output: amount, keyset, and equality proof. -/
def checkSignature (keysetInfo : KeysetInfo T)
    (entry : (BlindSignature T × PreparedSwapOutput T) × Nat) : Outcome String Unit := do
  let signature := entry.1.1
  let output := entry.1.2.blindedMessage
  let index := entry.2
  .guard (s!"Signature {index} amount mismatch: expected " ++ toString output.amount ++ ", got " ++
    toString signature.amount) (signature.amount = output.amount)
  .guard (s!"Signature {index} keyset mismatch: expected " ++ L.idToString output.keysetId ++
    ", got " ++ L.idToString signature.keysetId) (signature.keysetId = output.keysetId)
  let mintKey ← .ofOption s!"Missing denomination key for signature {index}"
    (keysetInfo.activeKeys.amountKey output.amount)
  (Outcome.ofExcept (L.verifyBlindDleq signature mintKey output.blindedSecret)).mapErr fun e =>
    s!"Invalid DLEQ for signature {index}: {e}"

/-- Unblind a complete set of signatures, or none of them. -/
def completeExactSignatures (signatures : List (BlindSignature T))
    (expected : List (PreparedSwapOutput T)) (keysetInfo : KeysetInfo T)
    (exactOutputs : Option (List (BlindedMessage T))) : Outcome String (List (Proof T)) := do
  .guard ("Signature count mismatch: expected " ++ toString expected.length ++ ", got " ++
    toString signatures.length) (signatures.length = expected.length)
  .guard "Prepared blinded outputs do not match opening secrets"
    (∀ outputs ∈ exactOutputs, outputs = expected.map PreparedSwapOutput.blindedMessage)
  let expectedTotal ← checkedSum "Expected output total overflow" 0
    (expected.map fun output => output.blindedMessage.amount)
  let responseTotal ← checkedSum "Response signature total overflow" 0
    (signatures.map BlindSignature.amount)
  .guard s!"Signature total mismatch: expected {expectedTotal}, got {responseTotal}"
    (responseTotal = expectedTotal)
  .forAll (checkSignature L keysetInfo) (signatures.zip expected).zipIdx
  (Outcome.ofExcept (L.constructProofs signatures (expected.map PreparedSwapOutput.blindingFactor)
    (expected.map PreparedSwapOutput.secret) keysetInfo.activeKeys)).mapErr fun e =>
      s!"Failed to construct proofs: {e}"

/-- The equality proof of an unblinded proof. -/
def checkProof (keys : KeysetInfo T) (proof : Proof T) : Outcome String Unit := do
  let key ← .ofOption "missing proof denomination key" (keys.activeKeys.amountKey proof.amount)
  (Outcome.ofExcept (L.verifyDleq proof key)).mapErr fun _ => "invalid unblinded swap proof DLEQ"

/-- Unblind a complete set of signatures and check the proofs. -/
def complete (signatures : List (BlindSignature T)) (outputs : List (PreparedSwapOutput T))
    (keys : KeysetInfo T) : Outcome String (List (Proof T)) := do
  let proofs ← (completeExactSignatures L signatures outputs keys none).mapErr fun _ =>
    "invalid complete swap signature set or DLEQ"
  .forAll (checkProof L keys) proofs
  return proofs

/-- Turn the mint's answer to a request into proofs. -/
def completeSwapResponse (request : SwapRequest T) (prepared : List (PreparedSwapOutput T))
    (response : SwapResponse T) (keys : KeysetInfo T) : Outcome String (List (Proof T)) := do
  let outputs ← effectiveOutputs L request prepared keys response.rerandomizationR
  complete L response.signatures outputs keys

/-! ## What is accepted -/

section Specifications

variable {L}

theorem checkedSum_eq_ok_iff {error : String} {total sum : Nat} {amounts : List Nat}
    (fits : total < 2 ^ 64) :
    checkedSum error total amounts = .ok sum ↔ sum = total + amounts.sum ∧ sum < 2 ^ 64 := by
  induction amounts generalizing total with
  | nil =>
      simp only [checkedSum, Outcome.ok.injEq, List.sum_nil, Nat.add_zero]
      constructor
      · rintro rfl
        exact ⟨rfl, fits⟩
      · rintro ⟨rfl, -⟩
        rfl
  | cons amount rest ih =>
      rw [checkedSum, List.sum_cons]
      split_ifs with small
      · rw [ih small]
        constructor <;> rintro ⟨rfl, bound⟩ <;> exact ⟨by omega, by omega⟩
      · constructor
        · rintro ⟨⟩
        · rintro ⟨rfl, bound⟩
          omega

variable (L) in
/-- The mint has signed an output: for its amount and keyset, with an equality
proof that verifies against the output's point. -/
def SignedOutput (keys : Keys T) (signature : BlindSignature T) (output : BlindedMessage T) :
    Prop :=
  signature.amount = output.amount ∧ signature.keysetId = output.keysetId ∧
    ∃ key, keys.amountKey output.amount = some key ∧
      L.verifyBlindDleq signature key output.blindedSecret = .ok ()

theorem checkSignature_eq_ok_iff {keysetInfo : KeysetInfo T}
    {entry : (BlindSignature T × PreparedSwapOutput T) × Nat} :
    checkSignature L keysetInfo entry = .ok () ↔
      SignedOutput L keysetInfo.activeKeys entry.1.1 entry.1.2.blindedMessage := by
  simp only [checkSignature, SignedOutput, Outcome.bind_eq_ok, Outcome.guard_eq_ok,
    Outcome.ofOption_eq_ok, Outcome.mapErr_eq_ok, Outcome.ofExcept_eq_ok]
  constructor
  · rintro ⟨_, amount, _, keyset, proof⟩
    exact ⟨amount, keyset, proof⟩
  · rintro ⟨amount, keyset, proof⟩
    exact ⟨(), amount, (), keyset, proof⟩

/-- Signatures are unblinded exactly when each of them is the mint's signature on
its output, in order. -/
theorem completeExactSignatures_eq_ok_iff {signatures : List (BlindSignature T)}
    {expected : List (PreparedSwapOutput T)} {keysetInfo : KeysetInfo T} {proofs : List (Proof T)} :
    completeExactSignatures L signatures expected keysetInfo none = .ok proofs ↔
      List.Forall₂ (fun signature output =>
        SignedOutput L keysetInfo.activeKeys signature output.blindedMessage) signatures expected ∧
      (expected.map fun output => output.blindedMessage.amount).sum < 2 ^ 64 ∧
      L.constructProofs signatures (expected.map PreparedSwapOutput.blindingFactor)
        (expected.map PreparedSwapOutput.secret) keysetInfo.activeKeys = .ok proofs := by
  have sameTotal (signed : List.Forall₂ (fun signature output =>
      SignedOutput L keysetInfo.activeKeys signature output.blindedMessage) signatures expected) :
      (signatures.map BlindSignature.amount).sum =
        (expected.map fun output => output.blindedMessage.amount).sum := by
    induction signed with
    | nil => rfl
    | cons first _ ih => rw [List.map_cons, List.map_cons, List.sum_cons, List.sum_cons, ih, first.1]
  simp only [completeExactSignatures, Outcome.bind_eq_ok, Outcome.guard_eq_ok,
    checkedSum_eq_ok_iff (show 0 < 2 ^ 64 by decide), Nat.zero_add, Outcome.forAll_eq_ok,
    checkSignature_eq_ok_iff, Outcome.mapErr_eq_ok, Outcome.ofExcept_eq_ok]
  constructor
  · rintro ⟨-, count, -, -, _, ⟨rfl, bound⟩, _, -, -, -, -, each, built⟩
    refine ⟨List.forall₂_iff_zip.mpr ⟨count, fun {signature output} member => ?_⟩, bound, built⟩
    obtain ⟨i, found⟩ := List.mem_iff_getElem?.mp member
    exact each ((signature, output), i) (List.mem_zipIdx_iff_getElem?.mpr found)
  · rintro ⟨signed, bound, built⟩
    refine ⟨(), signed.length_eq, (), by simp, _, ⟨rfl, bound⟩, _,
      ⟨rfl, sameTotal signed ▸ bound⟩, (), sameTotal signed, (), ?_, built⟩
    rintro ⟨⟨signature, output⟩, i⟩ member
    exact (List.forall₂_iff_zip.mp signed).2
      (List.mem_of_getElem? (List.mem_zipIdx_iff_getElem?.mp member))

variable (L) in
/-- A prepared output belongs to the requested one, and its secret and blinding
factor give the requested point. -/
structure BoundTo (keys : KeysetInfo T) (p : PreparedSwapOutput T) (original : BlindedMessage T) :
    Prop where
  message : p.blindedMessage = original
  keysetId : original.keysetId = keys.keysetId
  hasKey : (keys.activeKeys.amountKey original.amount).isSome
  blinds : L.blindMessage p.secret p.blindingFactor = .ok original.blindedSecret

variable (L) in
/-- What a matched entry becomes: the issued output, the secret, and the moved
blinding factor. -/
def EffectiveOutput (tweak : Option T.Scalar)
    (entry : (PreparedSwapOutput T × BlindedMessage T) × BlindedMessage T)
    (output : PreparedSwapOutput T) : Prop :=
  ∃ blindingFactor, effectiveBlindingFactor L entry.1.1.blindingFactor tweak = .ok blindingFactor ∧
    output = ⟨entry.2, entry.1.1.secret, blindingFactor⟩

/-- Outputs are matched exactly when each prepared one is bound to its requested
one and no secret comes twice. -/
theorem bindOutputs_eq_ok_iff {keys : KeysetInfo T} {tweak : Option T.Scalar}
    {seen : List String}
    {entries : List ((PreparedSwapOutput T × BlindedMessage T) × BlindedMessage T)}
    {outputs : List (PreparedSwapOutput T)} :
    bindOutputs L keys tweak seen entries = .ok outputs ↔
      (∀ entry ∈ entries, BoundTo L keys entry.1.1 entry.1.2) ∧
      ((entries.map fun entry => entry.1.1.secret).Nodup ∧
        ∀ entry ∈ entries, entry.1.1.secret ∉ seen) ∧
      List.Forall₂ (EffectiveOutput L tweak) entries outputs := by
  induction entries generalizing seen outputs with
  | nil => simp [bindOutputs, List.forall₂_nil_left_iff, eq_comm]
  | cons entry rest ih =>
      obtain ⟨⟨p, original⟩, issued⟩ := entry
      simp only [bindOutputs, Outcome.bind_eq_ok, Outcome.guard_eq_ok, Outcome.mapErr_eq_ok,
        Outcome.ofExcept_eq_ok, ih, Outcome.pure_eq, Outcome.ok.injEq, List.forall_mem_cons,
        List.map_cons, List.nodup_cons, List.forall₂_cons_left_iff]
      constructor
      · rintro ⟨-, ⟨message, keysetId, hasKey, fresh⟩, _, blinds, -, rfl, factor, effective,
          others, ⟨bound, ⟨distinct, unseen⟩, built⟩, rfl⟩
        refine ⟨⟨⟨message, keysetId, hasKey, blinds⟩, bound⟩, ⟨⟨?_, distinct⟩, fresh, ?_⟩,
          _, _, ⟨factor, effective, rfl⟩, built, rfl⟩
        · rw [List.mem_map]
          rintro ⟨other, member, same⟩
          exact unseen other member (same ▸ List.mem_cons_self)
        · exact fun other member met => unseen other member (List.mem_cons_of_mem _ met)
      · rintro ⟨⟨first, bound⟩, ⟨⟨alone, distinct⟩, fresh, unseen⟩, _, others,
          ⟨factor, effective, rfl⟩, built, rfl⟩
        refine ⟨(), ⟨first.message, first.keysetId, first.hasKey, fresh⟩, _, first.blinds, (), rfl,
          factor, effective, others, ⟨bound, ⟨distinct, fun other member met => ?_⟩, built⟩, rfl⟩
        rcases List.mem_cons.mp met with same | met
        · exact alone (List.mem_map.mpr ⟨other, member, same⟩)
        · exact unseen other member met

theorem complete_eq_ok_iff {signatures : List (BlindSignature T)}
    {outputs : List (PreparedSwapOutput T)} {keys : KeysetInfo T} {proofs : List (Proof T)} :
    complete L signatures outputs keys = .ok proofs ↔
      completeExactSignatures L signatures outputs keys none = .ok proofs ∧
      ∀ proof ∈ proofs, ∃ key, keys.activeKeys.amountKey proof.amount = some key ∧
        L.verifyDleq proof key = .ok () := by
  simp only [complete, checkProof, Outcome.bind_eq_ok, Outcome.mapErr_eq_ok, Outcome.forAll_eq_ok,
    Outcome.ofOption_eq_ok, Outcome.ofExcept_eq_ok, Outcome.pure_eq, Outcome.ok.injEq]
  constructor
  · rintro ⟨_, completed, -, verified, rfl⟩
    exact ⟨completed, verified⟩
  · rintro ⟨completed, verified⟩
    exact ⟨_, completed, (), verified, rfl⟩

/-- **Which answers are accepted.** The request has outputs with distinct points,
the randomness fits its mode, each prepared output is bound to the requested one,
and each signature verifies on the issued point. -/
theorem completeSwapResponse_eq_ok_iff {request : SwapRequest T}
    {prepared : List (PreparedSwapOutput T)} {response : SwapResponse T} {keys : KeysetInfo T}
    {proofs : List (Proof T)} :
    completeSwapResponse L request prepared response keys = .ok proofs ↔
      ∃ derived tweak effective,
        swapRestoreRequest L request response.rerandomizationR = .ok derived ∧
        prepared.length = request.outputs.length ∧
        mintTweak L response.rerandomizationR = .ok tweak ∧
        bindOutputs L keys tweak [] ((prepared.zip request.outputs).zip derived) = .ok effective ∧
        complete L response.signatures effective keys = .ok proofs := by
  simp only [completeSwapResponse, effectiveOutputs, Outcome.bind_eq_ok, Outcome.guard_eq_ok]
  constructor
  · rintro ⟨effective, ⟨derived, issued, -, count, tweak, scalar, matched⟩, completed⟩
    exact ⟨derived, tweak, effective, issued, count, scalar, matched, completed⟩
  · rintro ⟨derived, tweak, effective, issued, count, scalar, matched, completed⟩
    exact ⟨effective, ⟨derived, issued, (), count, tweak, scalar, matched⟩, completed⟩

/-! ## Every completion returns -/

section Returns

variable {request : SwapRequest T} {prepared outputs : List (PreparedSwapOutput T)}
  {keys : KeysetInfo T} {r : Option (Bytes 32)} {signatures : List (BlindSignature T)}

theorem returns_checkedSum {error : String} {total : Nat} {amounts : List Nat} :
    (checkedSum error total amounts).Returns := by
  induction amounts generalizing total with
  | nil => exact Outcome.returns_ok total
  | cons amount rest ih =>
      rw [checkedSum]
      split_ifs
      · exact ih
      · exact Outcome.returns_err error

theorem returns_swapRestoreRequest : (swapRestoreRequest L request r).Returns := by
  refine (Outcome.returns_guard _ _).bind fun _ _ => ?_
  refine (Outcome.returns_guard _ _).bind fun _ _ => ?_
  cases request.rerandomized <;> cases r <;> simp

theorem returns_mintTweak : (mintTweak L r).Returns := by
  cases r with
  | none => exact Outcome.returns_ok none
  | some value =>
      exact (Outcome.returns_mapErr.mpr (Outcome.returns_ofExcept _)).bind fun _ _ =>
        Outcome.returns_ok _

theorem returns_effectiveBlindingFactor {k : T.SecretKey} {tweak : Option T.Scalar} :
    (effectiveBlindingFactor L k tweak).Returns := by
  cases tweak with
  | none => exact Outcome.returns_ok k
  | some tweak =>
      unfold effectiveBlindingFactor
      refine Outcome.Returns.bind (by simp) fun original _ => ?_
      exact Outcome.Returns.bind (by simp) fun effective _ => by simp

theorem returns_bindOutputs {tweak : Option T.Scalar} {seen : List String}
    {entries : List ((PreparedSwapOutput T × BlindedMessage T) × BlindedMessage T)} :
    (bindOutputs L keys tweak seen entries).Returns := by
  induction entries generalizing seen with
  | nil => exact Outcome.returns_ok []
  | cons entry rest ih =>
      refine (Outcome.returns_guard _ _).bind fun _ _ => ?_
      refine (Outcome.returns_mapErr.mpr (Outcome.returns_ofExcept _)).bind fun _ _ => ?_
      refine (Outcome.returns_guard _ _).bind fun _ _ => ?_
      refine returns_effectiveBlindingFactor.bind fun _ _ => ?_
      exact ih.bind fun _ _ => Outcome.returns_ok _

theorem returns_effectiveOutputs : (effectiveOutputs L request prepared keys r).Returns := by
  refine returns_swapRestoreRequest.bind fun _ _ => ?_
  refine (Outcome.returns_guard _ _).bind fun _ _ => ?_
  exact returns_mintTweak.bind fun _ _ => returns_bindOutputs

theorem returns_completeExactSignatures {exactOutputs : Option (List (BlindedMessage T))} :
    (completeExactSignatures L signatures outputs keys exactOutputs).Returns := by
  refine (Outcome.returns_guard _ _).bind fun _ _ => ?_
  refine (Outcome.returns_guard _ _).bind fun _ _ => ?_
  refine returns_checkedSum.bind fun _ _ => returns_checkedSum.bind fun _ _ => ?_
  refine (Outcome.returns_guard _ _).bind fun _ _ => ?_
  refine (Outcome.returns_forAll fun entry _ => ?_).bind fun _ _ => by simp
  refine (Outcome.returns_guard _ _).bind fun _ _ => ?_
  refine (Outcome.returns_guard _ _).bind fun _ _ => ?_
  exact (Outcome.returns_ofOption _ _).bind fun _ _ => by simp

theorem returns_complete : (complete L signatures outputs keys).Returns := by
  refine (Outcome.returns_mapErr.mpr returns_completeExactSignatures).bind fun proofs _ => ?_
  refine (Outcome.returns_forAll fun proof _ => ?_).bind fun _ _ => Outcome.returns_ok proofs
  exact (Outcome.returns_ofOption _ _).bind fun _ _ => by simp

end Returns

/-! ## The answer of an honest mint -/

variable (L) in
/-- Laws of blind issuance: signatures that verify on the points of secrets are
unblinded to proofs of these secrets that verify, and the mint's randomness moves
points and blinding factors alike. -/
structure Cashu.Issues : Prop where
  constructs : ∀ (keys : Keys T) (signatures : List (BlindSignature T))
    (outputs : List (PreparedSwapOutput T)),
    List.Forall₂ (fun signature output =>
      SignedOutput L keys signature output.blindedMessage ∧
      L.blindMessage output.secret output.blindingFactor =
        .ok output.blindedMessage.blindedSecret) signatures outputs →
    ∃ proofs, L.constructProofs signatures (outputs.map PreparedSwapOutput.blindingFactor)
        (outputs.map PreparedSwapOutput.secret) keys = .ok proofs ∧
      List.Forall₂ (fun proof output =>
        proof.amount = output.blindedMessage.amount ∧ proof.secret = output.secret ∧
        ∃ key, keys.amountKey proof.amount = some key ∧ L.verifyDleq proof key = .ok ())
        proofs outputs
  moves : ∀ r tweak outputs derived, L.deriveRerandomizationTweak r = .ok tweak →
    L.tweakSwapOutputs r outputs = .ok derived →
    List.Forall₂ (fun output moved => moved.amount = output.amount ∧
      ∀ secret k k', L.blindMessage secret k = .ok output.blindedSecret →
        L.addTweak k tweak = .ok k' → L.blindMessage secret k' = .ok moved.blindedSecret)
      outputs derived

variable (L) in
/-- What an honest mint answers to a request: a signature on each output in
order, in rerandomized mode on the output moved by its randomness. The
randomness is valid if it gives a scalar and points, and no factor vanishes. -/
inductive HonestResponse (keys : Keys T) (request : SwapRequest T)
    (blindingFactors : List T.SecretKey) : SwapResponse T → Prop
  | ordinary {signatures : List (BlindSignature T)} (mode : request.rerandomized = false)
      (signed : List.Forall₂ (SignedOutput L keys) signatures request.outputs) :
      HonestResponse keys request blindingFactors ⟨signatures, none⟩
  | rerandomized {signatures : List (BlindSignature T)} {r : Bytes 32} {tweak : T.Scalar}
      {derived : List (BlindedMessage T)} (mode : request.rerandomized = true)
      (scalar : L.deriveRerandomizationTweak r = .ok tweak)
      (issued : L.tweakSwapOutputs r request.outputs = .ok derived)
      (factors : ∀ k ∈ blindingFactors, ∃ k', L.addTweak k tweak = .ok k')
      (signed : List.Forall₂ (SignedOutput L keys) signatures derived) :
      HonestResponse keys request blindingFactors ⟨signatures, some r⟩

/-- An answer is honest by what it says of the outputs and the mode, not of the
inputs. -/
theorem HonestResponse.of_outputs {keys : Keys T} {request request' : SwapRequest T}
    {blindingFactors : List T.SecretKey} {response : SwapResponse T}
    (honest : HonestResponse L keys request blindingFactors response)
    (outputs : request'.outputs = request.outputs)
    (mode : request'.rerandomized = request.rerandomized) :
    HonestResponse L keys request' blindingFactors response := by
  cases honest with
  | ordinary isMode signed => exact .ordinary (mode.trans isMode) (outputs ▸ signed)
  | rerandomized isMode scalar issued factors signed =>
      exact .rerandomized (mode.trans isMode) scalar (outputs ▸ issued) factors signed

variable (L) in
/-- An issued output is the requested one moved by the mint's scalar. -/
def Moved (tweak : Option T.Scalar) (output moved : BlindedMessage T) : Prop :=
  moved.amount = output.amount ∧
    ∀ secret k k', L.blindMessage secret k = .ok output.blindedSecret →
      effectiveBlindingFactor L k tweak = .ok k' →
      L.blindMessage secret k' = .ok moved.blindedSecret

theorem effectiveBlindingFactor_some (trips : L.RoundTrips) {k k' : T.SecretKey}
    {tweak : T.Scalar} :
    effectiveBlindingFactor L k (some tweak) = .ok k' ↔ L.addTweak k tweak = .ok k' := by
  simp [effectiveBlindingFactor, trips.secretKeyFromSlice_bytes, Outcome.bind_eq_ok]

/-- Both modes at once: an honest answer signs the requested outputs, moved by a
scalar that every blinding factor can be moved by. -/
theorem HonestResponse.issued (trips : L.RoundTrips) (laws : L.Issues) {keys : Keys T}
    {request : SwapRequest T} {blindingFactors : List T.SecretKey} {response : SwapResponse T}
    (honest : HonestResponse L keys request blindingFactors response)
    (nonempty : request.outputs ≠ [])
    (distinct : (request.outputs.map BlindedMessage.blindedSecret).Nodup) :
    ∃ derived tweak,
      swapRestoreRequest L request response.rerandomizationR = .ok derived ∧
      mintTweak L response.rerandomizationR = .ok tweak ∧
      List.Forall₂ (SignedOutput L keys) response.signatures derived ∧
      List.Forall₂ (Moved L tweak) request.outputs derived ∧
      ∀ k ∈ blindingFactors, ∃ k', effectiveBlindingFactor L k tweak = .ok k' := by
  cases honest with
  | ordinary mode signed =>
      refine ⟨request.outputs, none, ?_, rfl, signed, ?_, fun k _ => ⟨k, rfl⟩⟩
      · simp [swapRestoreRequest, Outcome.guard_pos nonempty, Outcome.guard_pos distinct, mode]
      · refine List.forall₂_same.mpr fun output _ => ⟨rfl, fun secret k k' blinds same => ?_⟩
        cases same
        exact blinds
  | @rerandomized signatures r tweak derived mode scalar issued factors signed =>
      refine ⟨derived, some tweak, ?_, ?_, signed, ?_, fun k member => ?_⟩
      · simp [swapRestoreRequest, Outcome.guard_pos nonempty, Outcome.guard_pos distinct, mode,
          issued]
      · simp [mintTweak, scalar]
      · refine (laws.moves r tweak _ _ scalar issued).imp fun output moved => ?_
        rintro ⟨amount, follows⟩
        exact ⟨amount, fun secret k k' blinds effective =>
          follows secret k k' blinds ((effectiveBlindingFactor_some trips).mp effective)⟩
      · obtain ⟨k', added⟩ := factors k member
        exact ⟨k', (effectiveBlindingFactor_some trips).mpr added⟩

/-- The effective outputs of an honest answer: each is signed by the mint, and
blinds to the point that was signed. -/
theorem exists_effectiveOutputs {keys : KeysetInfo T} {tweak : Option T.Scalar}
    {prepared : List (PreparedSwapOutput T)} {outputs derived : List (BlindedMessage T)}
    {signatures : List (BlindSignature T)}
    (bound : List.Forall₂ (BoundTo L keys) prepared outputs)
    (moved : List.Forall₂ (Moved L tweak) outputs derived)
    (factors : ∀ p ∈ prepared, ∃ k', effectiveBlindingFactor L p.blindingFactor tweak = .ok k')
    (signed : List.Forall₂ (SignedOutput L keys.activeKeys) signatures derived) :
    ∃ effective : List (PreparedSwapOutput T),
      List.Forall₂ (EffectiveOutput L tweak) ((prepared.zip outputs).zip derived) effective ∧
      List.Forall₂ (fun signature output =>
        SignedOutput L keys.activeKeys signature output.blindedMessage ∧
        L.blindMessage output.secret output.blindingFactor =
          .ok output.blindedMessage.blindedSecret) signatures effective ∧
      List.Forall₂ (fun output p => output.blindedMessage.amount = p.blindedMessage.amount ∧
        output.secret = p.secret) effective prepared ∧
      (effective.map fun output => output.blindedMessage.amount) =
        outputs.map BlindedMessage.amount := by
  induction bound generalizing derived signatures with
  | nil =>
      cases moved
      cases signed
      exact ⟨[], .nil, .nil, .nil, rfl⟩
  | @cons p original prepared outputs first _ ih =>
      obtain _ | ⟨movedFirst, moved⟩ := moved
      obtain _ | ⟨signedFirst, signed⟩ := signed
      obtain ⟨effective, matched, verified, kept, amounts⟩ :=
        ih moved (fun p member => factors p (List.mem_cons_of_mem _ member)) signed
      obtain ⟨k', isFactor⟩ := factors p List.mem_cons_self
      have blinds := movedFirst.2 _ _ _ first.blinds isFactor
      have amount := movedFirst.1.trans (congrArg BlindedMessage.amount first.message.symm)
      exact ⟨_ :: effective, .cons ⟨k', isFactor, rfl⟩ matched,
        .cons ⟨signedFirst, blinds⟩ verified, .cons ⟨amount, rfl⟩ kept,
        List.cons_eq_cons.mpr ⟨movedFirst.1, amounts⟩⟩

/-- The secrets of matched entries are those that were prepared. -/
theorem secrets_of_entries {prepared : List (PreparedSwapOutput T)}
    {outputs derived : List (BlindedMessage T)} (count : prepared.length = outputs.length)
    (issued : outputs.length = derived.length) :
    (((prepared.zip outputs).zip derived).map fun entry => entry.1.1.secret) =
      prepared.map PreparedSwapOutput.secret := by
  have sizes : (prepared.zip outputs).length ≤ derived.length := by
    rw [List.length_zip, count, issued, min_self]
  calc (((prepared.zip outputs).zip derived).map fun entry => entry.1.1.secret)
      = ((((prepared.zip outputs).zip derived).map Prod.fst).map Prod.fst).map
          PreparedSwapOutput.secret := by simp [Function.comp_def]
    _ = prepared.map PreparedSwapOutput.secret := by
        rw [List.map_fst_zip sizes, List.map_fst_zip count.le]

/-- **An honest answer is accepted.** If the prepared outputs are bound to the
request, with distinct points and secrets, then every answer of a mint that signs
them all is turned into one proof for each output, with its amount and secret. -/
theorem completeSwapResponse_of_honest (trips : L.RoundTrips) (laws : L.Issues)
    {request : SwapRequest T} {prepared : List (PreparedSwapOutput T)} {response : SwapResponse T}
    {keys : KeysetInfo T}
    (nonempty : request.outputs ≠ [])
    (distinct : (request.outputs.map BlindedMessage.blindedSecret).Nodup)
    (bound : List.Forall₂ (BoundTo L keys) prepared request.outputs)
    (secrets : (prepared.map PreparedSwapOutput.secret).Nodup)
    (total : (request.outputs.map BlindedMessage.amount).sum < 2 ^ 64)
    (honest : HonestResponse L keys.activeKeys request
      (prepared.map PreparedSwapOutput.blindingFactor) response) :
    ∃ proofs, completeSwapResponse L request prepared response keys = .ok proofs ∧
      List.Forall₂ (fun proof p => proof.amount = p.blindedMessage.amount ∧
        proof.secret = p.secret) proofs prepared := by
  obtain ⟨derived, tweak, issued, scalar, signed, moved, factors⟩ :=
    honest.issued trips laws nonempty distinct
  obtain ⟨effective, matched, verified, kept, amounts⟩ := exists_effectiveOutputs bound moved
    (fun p member => factors _ (List.mem_map_of_mem member)) signed
  obtain ⟨proofs, built, unblinded⟩ := laws.constructs _ _ _ verified
  have zipped : ∀ entry ∈ (prepared.zip request.outputs).zip derived,
      BoundTo L keys entry.1.1 entry.1.2 := fun entry member =>
    (List.forall₂_iff_zip.mp bound).2 (List.of_mem_zip member).1
  have secretsOf := secrets_of_entries bound.length_eq moved.length_eq
  refine ⟨proofs, completeSwapResponse_eq_ok_iff.mpr ⟨derived, tweak, effective, issued,
    bound.length_eq, scalar, bindOutputs_eq_ok_iff.mpr ⟨zipped, ⟨?_, by simp⟩, matched⟩,
    complete_eq_ok_iff.mpr ⟨completeExactSignatures_eq_ok_iff.mpr
      ⟨verified.imp fun _ _ => And.left, amounts ▸ total, built⟩, fun proof member => ?_⟩⟩, ?_⟩
  · rw [secretsOf]
    exact secrets
  · obtain ⟨output, -, -, -, checked⟩ := exists_right_of_forall₂ unblinded member
    exact checked
  · refine (forall₂_comp unblinded kept).imp fun proof p => ?_
    rintro ⟨output, ⟨amount, secret, -⟩, sameAmount, sameSecret⟩
    exact ⟨amount.trans sameAmount, secret.trans sameSecret⟩

/-! ## What an accepted answer consists of -/

/-- A proof as it is unblinded from a signature: it has the signature's amount and
keyset, the secret and blinding factor of the output, and no spend metadata. -/
structure UnblindedFrom (pair : BlindSignature T × PreparedSwapOutput T) (proof : Proof T) :
    Prop where
  amount : proof.amount = pair.1.amount
  keysetId : proof.keysetId = pair.1.keysetId
  secret : proof.secret = pair.2.secret
  dleq : proof.dleq = pair.1.dleq.map fun dleq => ⟨dleq.e, dleq.s, pair.2.blindingFactor⟩
  witness : proof.witness = none
  p2pkE : proof.p2pkE = none

variable (L) in
/-- Laws of unblinding, whoever has made the signatures: proofs come one for each
signature, keys are looked up by the signatures' amounts, and the mint's randomness
moves nothing but points. -/
structure Cashu.Unblinds : Prop where
  constructs : ∀ {keys : Keys T} {signatures : List (BlindSignature T)}
    {outputs : List (PreparedSwapOutput T)} {proofs : List (Proof T)},
    L.constructProofs signatures (outputs.map PreparedSwapOutput.blindingFactor)
      (outputs.map PreparedSwapOutput.secret) keys = .ok proofs →
    signatures.length = outputs.length →
    List.Forall₂ UnblindedFrom (signatures.zip outputs) proofs
  looksUp : ∀ {keys keys' : Keys T} {signatures : List (BlindSignature T)}
    {rs : List T.SecretKey} {secrets : List String},
    (∀ signature ∈ signatures, keys'.amountKey signature.amount =
      keys.amountKey signature.amount) →
    L.constructProofs signatures rs secrets keys' = L.constructProofs signatures rs secrets keys
  tweaks : ∀ {r : Bytes 32} {outputs derived : List (BlindedMessage T)},
    L.tweakSwapOutputs r outputs = .ok derived →
    List.Forall₂ (fun output moved => moved.amount = output.amount ∧
      moved.keysetId = output.keysetId) outputs derived

/-- The issued outputs are the requested ones up to their points, and there is
randomness exactly in rerandomized mode. -/
theorem issued_of_swapRestoreRequest (laws : L.Unblinds) {request : SwapRequest T}
    {r : Option (Bytes 32)} {derived : List (BlindedMessage T)}
    (issued : swapRestoreRequest L request r = .ok derived) :
    request.rerandomized = r.isSome ∧
      List.Forall₂ (fun output moved => moved.amount = output.amount ∧
        moved.keysetId = output.keysetId) request.outputs derived := by
  simp only [swapRestoreRequest, Outcome.bind_eq_ok] at issued
  obtain ⟨-, -, -, -, issued⟩ := issued
  cases mode : request.rerandomized with
  | false =>
      cases r with
      | none =>
          simp only [mode, Outcome.ok.injEq] at issued
          subst issued
          exact ⟨rfl, List.forall₂_same.mpr fun _ _ => ⟨rfl, rfl⟩⟩
      | some r => simp [mode] at issued
  | true =>
      cases r with
      | none => simp [mode] at issued
      | some r =>
          simp only [mode, Outcome.mapErr_eq_ok, Outcome.ofExcept_eq_ok] at issued
          exact ⟨rfl, laws.tweaks issued⟩

/-- Matching keeps secrets, and the amounts and keysets that were requested. -/
theorem effective_of_matched {keys : KeysetInfo T} {tweak : Option T.Scalar}
    {prepared effective : List (PreparedSwapOutput T)} {outputs derived : List (BlindedMessage T)}
    (count : prepared.length = outputs.length)
    (issued : List.Forall₂ (fun output moved => moved.amount = output.amount ∧
      moved.keysetId = output.keysetId) outputs derived)
    (bound : ∀ entry ∈ (prepared.zip outputs).zip derived, BoundTo L keys entry.1.1 entry.1.2)
    (matched : List.Forall₂ (EffectiveOutput L tweak) ((prepared.zip outputs).zip derived)
      effective) :
    List.Forall₂ (fun p output => output.secret = p.secret ∧
      output.blindedMessage.amount = p.blindedMessage.amount ∧
      output.blindedMessage.keysetId = keys.keysetId) prepared effective := by
  induction issued generalizing prepared effective with
  | nil =>
      obtain rfl := List.eq_nil_of_length_eq_zero count
      cases matched
      exact .nil
  | cons same _ ih =>
      cases prepared with
      | nil => cases count
      | cons p prepared =>
          simp only [List.zip_cons_cons, List.forall_mem_cons] at bound matched
          obtain _ | ⟨⟨factor, -, rfl⟩, matched⟩ := matched
          obtain ⟨first, bound⟩ := bound
          refine .cons ⟨rfl, ?_, ?_⟩ (ih (Nat.succ.inj count) bound matched)
          · exact same.1.trans (congrArg BlindedMessage.amount first.message.symm)
          · exact same.2.trans first.keysetId

/-! ## Which preparations can be completed -/

variable (L) in
/-- The prepared outputs are those of the request, and the randomness is that of its mode:
it gives a scalar and points, and no factor vanishes. -/
structure PreparedFor (request : SwapRequest T) (prepared : List (PreparedSwapOutput T))
    (keys : KeysetInfo T) (r : Option (Bytes 32)) : Prop where
  nonempty : request.outputs ≠ []
  points : (request.outputs.map BlindedMessage.blindedSecret).Nodup
  mode : request.rerandomized = r.isSome
  bound : List.Forall₂ (BoundTo L keys) prepared request.outputs
  secrets : (prepared.map PreparedSwapOutput.secret).Nodup
  randomness : ∀ value ∈ r, ∃ tweak derived, L.deriveRerandomizationTweak value = .ok tweak ∧
    L.tweakSwapOutputs value request.outputs = .ok derived ∧
    ∀ p ∈ prepared, ∃ k', L.addTweak p.blindingFactor tweak = .ok k'

/-- Prepared outputs that are bound to the request are matched. -/
theorem exists_bindOutputs {keys : KeysetInfo T} (tweak : Option T.Scalar)
    {prepared : List (PreparedSwapOutput T)} {outputs derived : List (BlindedMessage T)}
    (bound : List.Forall₂ (BoundTo L keys) prepared outputs)
    (issued : outputs.length = derived.length)
    (secrets : (prepared.map PreparedSwapOutput.secret).Nodup)
    (factors : ∀ p ∈ prepared, ∃ k', effectiveBlindingFactor L p.blindingFactor tweak = .ok k') :
    ∃ effective, bindOutputs L keys tweak [] ((prepared.zip outputs).zip derived) =
      .ok effective := by
  have each : ∀ entry ∈ (prepared.zip outputs).zip derived,
      ∃ output, EffectiveOutput L tweak entry output := by
    intro entry member
    obtain ⟨k', isFactor⟩ := factors entry.1.1 (List.of_mem_zip (List.of_mem_zip member).1).1
    exact ⟨_, k', isFactor, rfl⟩
  obtain ⟨effective, matched⟩ := exists_forall₂ each
  refine ⟨effective, bindOutputs_eq_ok_iff.mpr ⟨fun entry member => ?_, ⟨?_, by simp⟩, matched⟩⟩
  · exact (List.forall₂_iff_zip.mp bound).2 (List.of_mem_zip member).1
  · rw [secrets_of_entries bound.length_eq issued]
    exact secrets

/-- **A preparation can be completed** exactly if it is one of the request. -/
theorem exists_effectiveOutputs_iff (trips : L.RoundTrips) (laws : L.Unblinds)
    {request : SwapRequest T} {prepared : List (PreparedSwapOutput T)} {keys : KeysetInfo T}
    {r : Option (Bytes 32)} :
    (∃ outputs, effectiveOutputs L request prepared keys r = .ok outputs) ↔
      PreparedFor L request prepared keys r := by
  constructor
  · rintro ⟨effective, matched⟩
    simp only [effectiveOutputs, Outcome.bind_eq_ok, Outcome.guard_eq_ok] at matched
    obtain ⟨derived, restored, -, count, tweak, scalar, bindsTo⟩ := matched
    obtain ⟨mode, issued⟩ := issued_of_swapRestoreRequest laws restored
    obtain ⟨bound, ⟨distinct, -⟩, matched⟩ := bindOutputs_eq_ok_iff.mp bindsTo
    rw [secrets_of_entries count issued.length_eq] at distinct
    have sizes : (prepared.zip request.outputs).length ≤ derived.length := by
      rw [List.length_zip, count, issued.length_eq, min_self]
    have entry_of_mem : ∀ pair ∈ prepared.zip request.outputs,
        ∃ entry ∈ (prepared.zip request.outputs).zip derived, entry.1 = pair := fun pair member =>
      List.mem_map.mp ((List.map_fst_zip sizes).symm ▸ member)
    simp only [swapRestoreRequest, Outcome.bind_eq_ok, Outcome.guard_eq_ok] at restored
    obtain ⟨-, nonempty, -, points, restored⟩ := restored
    refine ⟨nonempty, points, mode, ?_, distinct, ?_⟩
    · refine List.forall₂_iff_zip.mpr ⟨count, fun {p output} member => ?_⟩
      obtain ⟨entry, inEntries, same⟩ := entry_of_mem _ member
      have first := bound entry inEntries
      rw [same] at first
      exact first
    · rintro value rfl
      rw [Option.isSome_some] at mode
      simp only [mode, Outcome.mapErr_eq_ok, Outcome.ofExcept_eq_ok] at restored
      simp only [mintTweak, Outcome.bind_eq_ok, Outcome.mapErr_eq_ok, Outcome.ofExcept_eq_ok,
        Outcome.pure_eq, Outcome.ok.injEq] at scalar
      obtain ⟨scalar, isScalar, rfl⟩ := scalar
      refine ⟨scalar, derived, isScalar, restored, fun p member => ?_⟩
      rw [← List.map_fst_zip count.le] at member
      obtain ⟨pair, inPairs, rfl⟩ := List.mem_map.mp member
      obtain ⟨entry, inEntries, rfl⟩ := entry_of_mem pair inPairs
      obtain ⟨_, -, k', effective, -⟩ := exists_right_of_forall₂ matched inEntries
      exact ⟨k', (effectiveBlindingFactor_some trips).mp effective⟩
  · rintro ⟨nonempty, points, mode, bound, secrets, randomness⟩
    simp only [effectiveOutputs, Outcome.bind_eq_ok, Outcome.guard_eq_ok]
    cases r with
    | none =>
        rw [Option.isSome_none] at mode
        obtain ⟨effective, matched⟩ := exists_bindOutputs none bound rfl secrets
          fun p _ => ⟨p.blindingFactor, rfl⟩
        refine ⟨effective, request.outputs, ?_, (), bound.length_eq, none, rfl, matched⟩
        simp [swapRestoreRequest, Outcome.guard_pos nonempty, Outcome.guard_pos points, mode]
    | some value =>
        rw [Option.isSome_some] at mode
        obtain ⟨tweak, derived, isTweak, isDerived, factors⟩ := randomness value rfl
        have issued := (laws.tweaks isDerived).length_eq
        obtain ⟨effective, matched⟩ := exists_bindOutputs (some tweak) bound issued secrets
          fun p member => by
            obtain ⟨k', added⟩ := factors p member
            exact ⟨k', (effectiveBlindingFactor_some trips).mpr added⟩
        refine ⟨effective, derived, ?_, (), bound.length_eq, some tweak, ?_, matched⟩
        · simp [swapRestoreRequest, Outcome.guard_pos nonempty, Outcome.guard_pos points, mode,
            isDerived]
        · simp [mintTweak, isTweak]

/-! ## What an accepted answer pays -/

variable (L) in
/-- A proof pays an output out: it has the amount and secret of the output, is of the
keyset, carries no spend metadata yet, and the mint's signature in it verifies. -/
structure PaysOut (keys : KeysetInfo T) (p : PreparedSwapOutput T) (proof : Proof T) : Prop where
  amount : proof.amount = p.blindedMessage.amount
  keysetId : proof.keysetId = keys.keysetId
  secret : proof.secret = p.secret
  witness : proof.witness = none
  p2pkE : proof.p2pkE = none
  verified : ∃ key, keys.activeKeys.amountKey proof.amount = some key ∧
    L.verifyDleq proof key = .ok ()

/-- **What is accepted pays every output out**, whatever the answer was, and the
answer has randomness exactly in rerandomized mode. -/
theorem paysOut_of_completeSwapResponse (laws : L.Unblinds) {request : SwapRequest T}
    {prepared : List (PreparedSwapOutput T)} {response : SwapResponse T} {keys : KeysetInfo T}
    {proofs : List (Proof T)}
    (accepted : completeSwapResponse L request prepared response keys = .ok proofs) :
    request.rerandomized = response.rerandomizationR.isSome ∧
      List.Forall₂ (PaysOut L keys) prepared proofs := by
  obtain ⟨derived, tweak, effective, restored, count, -, bindsTo, completed⟩ :=
    completeSwapResponse_eq_ok_iff.mp accepted
  obtain ⟨mode, issued⟩ := issued_of_swapRestoreRequest laws restored
  obtain ⟨bound, -, matched⟩ := bindOutputs_eq_ok_iff.mp bindsTo
  obtain ⟨exact, verified⟩ := complete_eq_ok_iff.mp completed
  obtain ⟨signed, -, built⟩ := completeExactSignatures_eq_ok_iff.mp exact
  have unblinded := forall₂_of_zip signed (laws.constructs built signed.length_eq)
  have kept := forall₂_comp (effective_of_matched count issued bound matched) unblinded
  refine ⟨mode, (List.forall₂_iff_zip.mpr ⟨kept.length_eq, fun {p proof} member => ?_⟩)⟩
  obtain ⟨output, ⟨secret, amount, keyset⟩, signature, isSigned, made⟩ :=
    (List.forall₂_iff_zip.mp kept).2 member
  exact ⟨made.amount.trans (isSigned.1.trans amount),
    made.keysetId.trans (isSigned.2.1.trans keyset), made.secret.trans secret, made.witness,
    made.p2pkE, verified proof (List.of_mem_zip member).2⟩

/-- **Completion depends on the keys of the requested amounts only.** -/
theorem completeSwapResponse_of_keys (laws : L.Unblinds) {request : SwapRequest T}
    {prepared : List (PreparedSwapOutput T)} {response : SwapResponse T} {keys keys' : KeysetInfo T}
    (sameId : keys'.keysetId = keys.keysetId)
    (sameKeys : ∀ output ∈ request.outputs, keys'.activeKeys.amountKey output.amount =
      keys.activeKeys.amountKey output.amount) {proofs : List (Proof T)}
    (accepted : completeSwapResponse L request prepared response keys = .ok proofs) :
    completeSwapResponse L request prepared response keys' = .ok proofs := by
  obtain ⟨derived, tweak, effective, restored, count, scalar, bindsTo, completed⟩ :=
    completeSwapResponse_eq_ok_iff.mp accepted
  obtain ⟨-, issued⟩ := issued_of_swapRestoreRequest laws restored
  obtain ⟨bound, distinct, matched⟩ := bindOutputs_eq_ok_iff.mp bindsTo
  obtain ⟨exact, verified⟩ := complete_eq_ok_iff.mp completed
  obtain ⟨signed, total, built⟩ := completeExactSignatures_eq_ok_iff.mp exact
  have bound' : ∀ entry ∈ (prepared.zip request.outputs).zip derived,
      BoundTo L keys' entry.1.1 entry.1.2 := by
    intro entry member
    obtain ⟨message, keyset, hasKey, blinds⟩ := bound entry member
    rw [← sameKeys _ (List.of_mem_zip (List.of_mem_zip member).1).2] at hasKey
    exact ⟨message, keyset.trans sameId.symm, hasKey, blinds⟩
  have known : ∀ output ∈ effective, keys'.activeKeys.amountKey output.blindedMessage.amount =
      keys.activeKeys.amountKey output.blindedMessage.amount := by
    intro output member
    obtain ⟨entry, inEntries, _, -, rfl⟩ := exists_left_of_forall₂ matched member
    obtain ⟨original, inOutputs, amount, -⟩ :=
      exists_left_of_forall₂ issued (List.of_mem_zip inEntries).2
    rw [amount]
    exact sameKeys original inOutputs
  have signed' : List.Forall₂ (fun signature output =>
      SignedOutput L keys'.activeKeys signature output.blindedMessage) response.signatures
      effective := by
    refine List.forall₂_iff_zip.mpr ⟨signed.length_eq, fun {signature output} member => ?_⟩
    obtain ⟨amount, keyset, key, isKey, proof⟩ := (List.forall₂_iff_zip.mp signed).2 member
    rw [← known output (List.of_mem_zip member).2] at isKey
    exact ⟨amount, keyset, key, isKey, proof⟩
  have built' : L.constructProofs response.signatures
      (effective.map PreparedSwapOutput.blindingFactor) (effective.map PreparedSwapOutput.secret)
      keys'.activeKeys = .ok proofs := by
    refine (laws.looksUp fun signature member => ?_).trans built
    obtain ⟨output, inEffective, amount, -⟩ := exists_right_of_forall₂ signed member
    rw [amount]
    exact known output inEffective
  have verified' : ∀ proof ∈ proofs, ∃ key, keys'.activeKeys.amountKey proof.amount = some key ∧
      L.verifyDleq proof key = .ok () := by
    intro proof member
    obtain ⟨output, inEffective, _, isSigned, made⟩ := exists_left_of_forall₂
      (forall₂_of_zip signed (laws.constructs built signed.length_eq)) member
    rw [made.amount, isSigned.1, known output inEffective, ← isSigned.1, ← made.amount]
    exact verified proof member
  exact completeSwapResponse_eq_ok_iff.mpr ⟨derived, tweak, effective, restored, count, scalar,
    bindOutputs_eq_ok_iff.mpr ⟨bound', distinct, matched⟩, complete_eq_ok_iff.mpr
      ⟨completeExactSignatures_eq_ok_iff.mpr ⟨signed', total, built'⟩, verified'⟩⟩

/-- What is expected in an answer is what the mint has issued. -/
theorem messages_of_effectiveOutputs (laws : L.Unblinds) {request : SwapRequest T}
    {prepared outputs : List (PreparedSwapOutput T)} {keys : KeysetInfo T}
    {r : Option (Bytes 32)}
    (effective : effectiveOutputs L request prepared keys r = .ok outputs) :
    swapRestoreRequest L request r = .ok (outputs.map PreparedSwapOutput.blindedMessage) := by
  simp only [effectiveOutputs, Outcome.bind_eq_ok, Outcome.guard_eq_ok] at effective
  obtain ⟨derived, restored, -, count, tweak, -, bindsTo⟩ := effective
  obtain ⟨-, issued⟩ := issued_of_swapRestoreRequest laws restored
  obtain ⟨-, -, matched⟩ := bindOutputs_eq_ok_iff.mp bindsTo
  have inStep : derived.length ≤ (prepared.zip request.outputs).length := by
    rw [List.length_zip, count, Nat.min_self, issued.length_eq]
  have messages : outputs.map PreparedSwapOutput.blindedMessage = derived := by
    rw [← map_eq_map_of_forall₂ matched (f := Prod.snd), List.map_snd_zip inStep]
    rintro entry output ⟨_, -, rfl⟩
    rfl
  rw [restored, messages]

/-- The signatures that are accepted are on the outputs the mint has issued. -/
theorem signed_of_completeSwapResponse (laws : L.Unblinds) {request : SwapRequest T}
    {prepared : List (PreparedSwapOutput T)} {response : SwapResponse T} {keys : KeysetInfo T}
    {proofs : List (Proof T)}
    (accepted : completeSwapResponse L request prepared response keys = .ok proofs) :
    ∃ derived, swapRestoreRequest L request response.rerandomizationR = .ok derived ∧
      List.Forall₂ (SignedOutput L keys.activeKeys) response.signatures derived := by
  obtain ⟨effective, isEffective, completed⟩ := Outcome.bind_eq_ok.mp accepted
  obtain ⟨exact, -⟩ := complete_eq_ok_iff.mp completed
  obtain ⟨signed, -, -⟩ := completeExactSignatures_eq_ok_iff.mp exact
  refine ⟨_, messages_of_effectiveOutputs laws isEffective, ?_⟩
  rw [List.forall₂_map_right_iff]
  exact signed

variable (L) in
/-- No signature is good under two keys for one amount: the proof of equality that comes
with it binds the key. -/
def Cashu.TellsApart (keys keys' : Keys T) : Prop :=
  ∀ (amount : Nat) (key key' : T.PublicKey) (signature : BlindSignature T) (point : T.PublicKey),
    keys.amountKey amount = some key → keys'.amountKey amount = some key' →
    L.verifyBlindDleq signature key point = .ok () →
    L.verifyBlindDleq signature key' point = .ok () → key' = key

/-- An answer is accepted under two keysets only if they have the same keys for what
was requested. -/
theorem amountKey_eq_of_completeSwapResponse (laws : L.Unblinds) {request : SwapRequest T}
    {prepared prepared' : List (PreparedSwapOutput T)} {response : SwapResponse T}
    {keys keys' : KeysetInfo T} {proofs proofs' : List (Proof T)}
    (tellsApart : L.TellsApart keys.activeKeys keys'.activeKeys)
    (accepted : completeSwapResponse L request prepared response keys = .ok proofs)
    (accepted' : completeSwapResponse L request prepared' response keys' = .ok proofs')
    {output : BlindedMessage T} (member : output ∈ request.outputs) :
    keys'.activeKeys.amountKey output.amount = keys.activeKeys.amountKey output.amount := by
  obtain ⟨derived, restored, signed⟩ := signed_of_completeSwapResponse laws accepted
  obtain ⟨_, restored', signed'⟩ := signed_of_completeSwapResponse laws accepted'
  obtain rfl := Outcome.ok.inj (restored.symm.trans restored')
  obtain ⟨-, issued⟩ := issued_of_swapRestoreRequest laws restored
  obtain ⟨moved, inDerived, amount, -⟩ := exists_right_of_forall₂ issued member
  have both : List.Forall₂ (fun signature moved => SignedOutput L keys.activeKeys signature moved ∧
      SignedOutput L keys'.activeKeys signature moved) response.signatures derived :=
    List.forall₂_iff_zip.mpr ⟨signed.length_eq, fun inZip =>
      ⟨(List.forall₂_iff_zip.mp signed).2 inZip, (List.forall₂_iff_zip.mp signed').2 inZip⟩⟩
  obtain ⟨signature, -, ⟨-, -, key, isKey, verified⟩, -, -, key', isKey', verified'⟩ :=
    exists_left_of_forall₂ both inDerived
  rw [← amount, isKey, isKey', tellsApart _ _ _ _ _ isKey isKey' verified verified']

end Specifications

end Spilman
