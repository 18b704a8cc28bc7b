/-
# Restoring the outputs of a swap

A mint that is asked for outputs answers with those it has signed, in an order of its
own. The answer is completed only if it covers exactly the outputs of one swap: then its
signatures are put into the order of the outputs, and the swap is completed as from the
mint's answer to it. Two empty lists mean that the mint has signed none of them; anything
between is an error.

An honest mint finds outputs by their points. It may prove anew that a signature is by
its key, so what is restored has the equality proofs of the answer, and everything else
as the swap would have given it.
-/

import Spilman.Lib.Matching
import Spilman.SampleChannel

namespace Spilman

open Lib

variable {T : Carriers} (L : Cashu T)

/-! ## The code -/

/-- The mint has signed none of the outputs. -/
def RestoreResponse.IsEmpty (response : RestoreResponse T) : Prop :=
  response.outputs = [] ∧ response.signatures = []

instance (response : RestoreResponse T) : Decidable response.IsEmpty :=
  inferInstanceAs (Decidable (_ ∧ _))

/-- The signatures in the order of the expected outputs. -/
def matchRestoreResponse (response : RestoreResponse T)
    (expectedOutputs : List (BlindedMessage T)) (role : String) :
    Outcome String (List (BlindSignature T)) := do
  let outputs := response.outputs.length
  let signatures := response.signatures.length
  let expected := expectedOutputs.length
  .guard (s!"{role} restore output/signature count mismatch: {outputs} outputs, " ++
    s!"{signatures} signatures") (outputs = signatures)
  .guard s!"{role} restore count mismatch: expected {expected}, got {outputs}" (outputs = expected)
  matchAll s!"{role} restore returned an unknown output"
    s!"{role} restore returned a duplicate output"
    (fun index => s!"{role} restore omitted expected output {index}")
    expectedOutputs (response.outputs.zip response.signatures)

/-- Turn the mint's answer about the outputs of a swap into proofs, or nothing if the mint
has signed none of them. -/
def completeSwapRestore (request : SwapRequest T) (prepared : List (PreparedSwapOutput T))
    (r : Option (Bytes 32)) (response : RestoreResponse T) (keys : KeysetInfo T) :
    Outcome String (Option (List (Proof T))) := do
  let outputs ← effectiveOutputs L request prepared keys r
  if response.IsEmpty then return none
  else
    let expected := outputs.map PreparedSwapOutput.blindedMessage
    let signatures ← (matchRestoreResponse response expected "swap").mapErr fun _ =>
      "invalid exact swap restore"
    let proofs ← complete L signatures outputs keys
    return some proofs

/-! ## What is accepted -/

section Specifications

variable {L} {response : RestoreResponse T} {expected : List (BlindedMessage T)}
  {signatures : List (BlindSignature T)}

/-- An answer that pairs each of some distinct outputs with its signature, in any order. -/
structure Restores (response : RestoreResponse T) (expected : List (BlindedMessage T))
    (signatures : List (BlindSignature T)) : Prop where
  paired : response.outputs.length = response.signatures.length
  distinct : expected.Nodup
  count : signatures.length = expected.length
  perm : (response.outputs.zip response.signatures).Perm (expected.zip signatures)

/-- **Which answers are matched.** -/
theorem matchRestoreResponse_eq_ok_iff {role : String} :
    matchRestoreResponse response expected role = .ok signatures ↔
      Restores response expected signatures := by
  simp only [matchRestoreResponse, Outcome.bind_eq_ok, Outcome.guard_eq_ok, matchAll_eq_ok_iff]
  constructor
  · rintro ⟨-, paired, -, -, distinct, count, perm⟩
    exact ⟨paired, distinct, count, perm⟩
  · rintro ⟨paired, distinct, count, perm⟩
    have sizes := perm.length_eq
    rw [List.length_zip, List.length_zip, ← paired, count, min_self, min_self] at sizes
    exact ⟨(), paired, (), sizes, distinct, count, perm⟩

variable {request : SwapRequest T} {prepared : List (PreparedSwapOutput T)}
  {r : Option (Bytes 32)} {keys : KeysetInfo T} {proofs : List (Proof T)}

/-- **What is restored is what the swap is completed to** by an answer with the same
signatures in order. -/
theorem completeSwapRestore_eq_some_iff :
    completeSwapRestore L request prepared r response keys = .ok (some proofs) ↔
      ¬ response.IsEmpty ∧ ∃ outputs signatures,
        effectiveOutputs L request prepared keys r = .ok outputs ∧
        Restores response (outputs.map PreparedSwapOutput.blindedMessage) signatures ∧
        completeSwapResponse L request prepared ⟨signatures, r⟩ keys = .ok proofs := by
  simp only [completeSwapRestore, Outcome.bind_eq_ok]
  by_cases empty : response.IsEmpty
  · simp [empty]
  · simp only [if_neg empty, Outcome.bind_eq_ok, Outcome.mapErr_eq_ok, Outcome.pure_eq,
      Outcome.ok.injEq, Option.some.injEq, matchRestoreResponse_eq_ok_iff, completeSwapResponse]
    constructor
    · rintro ⟨outputs, effective, signatures, restores, _, completed, rfl⟩
      exact ⟨empty, outputs, signatures, effective, restores, outputs, effective, completed⟩
    · rintro ⟨-, outputs, signatures, effective, restores, _, again, completed⟩
      obtain rfl := Outcome.ok.inj (effective.symm.trans again)
      exact ⟨outputs, effective, signatures, restores, proofs, completed, rfl⟩

theorem completeSwapRestore_eq_none_iff :
    completeSwapRestore L request prepared r response keys = .ok none ↔
      response.IsEmpty ∧ ∃ outputs, effectiveOutputs L request prepared keys r = .ok outputs := by
  simp only [completeSwapRestore, Outcome.bind_eq_ok]
  by_cases empty : response.IsEmpty
  · simp [empty]
  · simp [empty, Outcome.bind_eq_ok]

/-! ## Restoring and completing -/

variable (L) in
/-- The mint's randomness moves distinct points to distinct points. -/
def Cashu.MovesApart : Prop :=
  ∀ {r : Bytes 32} {outputs derived : List (BlindedMessage T)},
    L.tweakSwapOutputs r outputs = .ok derived →
    (outputs.map BlindedMessage.blindedSecret).Nodup →
    (derived.map BlindedMessage.blindedSecret).Nodup

/-- The mint issues distinct points. -/
theorem issued_nodup (apart : L.MovesApart) {issued : List (BlindedMessage T)}
    (restored : swapRestoreRequest L request r = .ok issued) :
    (issued.map BlindedMessage.blindedSecret).Nodup := by
  simp only [swapRestoreRequest, Outcome.bind_eq_ok, Outcome.guard_eq_ok] at restored
  obtain ⟨-, -, -, points, restored⟩ := restored
  cases mode : request.rerandomized with
  | false =>
      cases r with
      | none =>
          simp only [mode, Outcome.ok.injEq] at restored
          exact restored ▸ points
      | some value => simp [mode] at restored
  | true =>
      cases r with
      | none => simp [mode] at restored
      | some value =>
          simp only [mode, Outcome.mapErr_eq_ok, Outcome.ofExcept_eq_ok] at restored
          exact apart restored points

/-- Matching always comes to an end. -/
theorem returns_matchRestoreResponse {role : String} :
    (matchRestoreResponse response expected role).Returns := by
  refine (Outcome.returns_guard _ _).bind fun _ _ => ?_
  refine (Outcome.returns_guard _ _).bind fun _ _ => ?_
  exact returns_matchAll _

/-- A restore always comes to an end. -/
theorem returns_completeSwapRestore :
    (completeSwapRestore L request prepared r response keys).Returns := by
  refine returns_effectiveOutputs.bind fun outputs _ => ?_
  by_cases empty : response.IsEmpty
  · rw [if_pos empty]
    exact Outcome.returns_ok none
  · rw [if_neg empty]
    refine (Outcome.returns_mapErr.mpr returns_matchRestoreResponse).bind fun signatures _ => ?_
    exact returns_complete.bind fun _ _ => Outcome.returns_ok _

/-- **Exact restore equals exact completion.** If an answer to the swap is completed, every
arrangement of the issued outputs with their signatures is restored to the same proofs in
the same order; and nothing else is restored. Two empty lists say that nothing was issued,
for a preparation of this request. An answer that has something, but not each issued output
once and nothing more, is an error, and so is randomness that does not fit the mode. -/
theorem completeSwapRestore_exact (trips : L.RoundTrips) (unblinds : L.Unblinds)
    (apart : L.MovesApart) (request : SwapRequest T) (prepared : List (PreparedSwapOutput T))
    (keys : KeysetInfo T) (r : Option (Bytes 32)) :
    (∀ signatures proofs,
      completeSwapResponse L request prepared ⟨signatures, r⟩ keys = .ok proofs →
      ∃ issued, swapRestoreRequest L request r = .ok issued ∧ ∀ response : RestoreResponse T,
        response.outputs.length = response.signatures.length →
        (response.outputs.zip response.signatures).Perm (issued.zip signatures) →
        completeSwapRestore L request prepared r response keys = .ok (some proofs)) ∧
    (∀ response proofs,
      completeSwapRestore L request prepared r response keys = .ok (some proofs) →
      ∃ issued signatures, swapRestoreRequest L request r = .ok issued ∧
        response.outputs.length = response.signatures.length ∧
        signatures.length = issued.length ∧
        (response.outputs.zip response.signatures).Perm (issued.zip signatures) ∧
        completeSwapResponse L request prepared ⟨signatures, r⟩ keys = .ok proofs) ∧
    (∀ response, completeSwapRestore L request prepared r response keys = .ok none ↔
      response.IsEmpty ∧ PreparedFor L request prepared keys r) ∧
    (∀ response : RestoreResponse T, ¬ response.IsEmpty →
      (∀ issued, swapRestoreRequest L request r = .ok issued →
        ¬ (response.outputs.length = response.signatures.length ∧
          response.outputs.Perm issued)) →
      ∃ error, completeSwapRestore L request prepared r response keys = .err error) ∧
    (request.rerandomized ≠ r.isSome → ∀ response,
      ∃ error, completeSwapRestore L request prepared r response keys = .err error) := by
  refine ⟨?_, ?_, ?_, ?_, ?_⟩
  · intro signatures proofs accepted
    obtain ⟨outputs, effective, completed⟩ := Outcome.bind_eq_ok.mp accepted
    have restored := messages_of_effectiveOutputs unblinds effective
    obtain ⟨signed, -, -⟩ := completeExactSignatures_eq_ok_iff.mp (complete_eq_ok_iff.mp completed).1
    refine ⟨_, restored, fun response paired perm => ?_⟩
    have restores : Restores response (outputs.map PreparedSwapOutput.blindedMessage) signatures :=
      ⟨paired, (issued_nodup apart restored).of_map, signed.length_eq.trans (List.length_map _).symm,
        perm⟩
    refine completeSwapRestore_eq_some_iff.mpr
      ⟨fun empty => ?_, outputs, signatures, effective, restores, accepted⟩
    -- the request has outputs, so the answer has some
    have fits := (exists_effectiveOutputs_iff trips unblinds).mp ⟨outputs, effective⟩
    have issued := (issued_of_swapRestoreRequest unblinds restored).2.length_eq
    have none := restores.perm.length_eq
    rw [empty.1, List.zip_nil_left, List.length_nil, List.length_zip, restores.count,
      Nat.min_self, ← issued] at none
    exact fits.nonempty (List.eq_nil_of_length_eq_zero none.symm)
  · intro response proofs found
    obtain ⟨-, outputs, signatures, effective, restores, accepted⟩ :=
      completeSwapRestore_eq_some_iff.mp found
    exact ⟨_, signatures, messages_of_effectiveOutputs unblinds effective, restores.paired,
      restores.count, restores.perm, accepted⟩
  · intro response
    rw [completeSwapRestore_eq_none_iff, exists_effectiveOutputs_iff trips unblinds]
  · intro response nonempty inexact
    refine returns_completeSwapRestore.exists_err fun result found => ?_
    cases result with
    | none => exact nonempty (completeSwapRestore_eq_none_iff.mp found).1
    | some proofs =>
        obtain ⟨-, outputs, signatures, effective, restores, -⟩ :=
          completeSwapRestore_eq_some_iff.mp found
        have perm := restores.perm.map Prod.fst
        rw [List.map_fst_zip restores.paired.le, List.map_fst_zip restores.count.ge] at perm
        exact inexact _ (messages_of_effectiveOutputs unblinds effective) ⟨restores.paired, perm⟩
  · intro mismatch response
    refine returns_completeSwapRestore.exists_err fun result found => ?_
    obtain ⟨outputs, effective, -⟩ := Outcome.bind_eq_ok.mp found
    exact mismatch ((exists_effectiveOutputs_iff trips unblinds).mp ⟨outputs, effective⟩).mode

/-! ## What an honest mint remembers -/

/-- The same signature, up to its equality proof. -/
structure SameSignature (signature again : BlindSignature T) : Prop where
  amount : again.amount = signature.amount
  keysetId : again.keysetId = signature.keysetId
  c : again.c = signature.c

/-- The mint has issued a point that it is asked for. -/
def Known (issued : List (BlindedMessage T × BlindSignature T)) (query : BlindedMessage T) : Prop :=
  query.blindedSecret ∈ issued.map fun entry => entry.1.blindedSecret

instance (issued : List (BlindedMessage T × BlindSignature T)) :
    DecidablePred (Known issued) :=
  fun query => inferInstanceAs (Decidable (query.blindedSecret ∈ _))

variable (L) in
/-- A pair in the answer: the output as it was asked for or as it was issued, and the
signature that was issued on its point. -/
def Remembers (keys : Keys T) (issued : List (BlindedMessage T × BlindSignature T))
    (query : BlindedMessage T) (pair : BlindedMessage T × BlindSignature T) : Prop :=
  ∃ entry ∈ issued, entry.1.blindedSecret = query.blindedSecret ∧
    (pair.1 = query ∨ pair.1 = entry.1) ∧ SameSignature entry.2 pair.2 ∧
    SignedOutput L keys pair.2 entry.1

variable (L) in
/-- What an honest mint answers about outputs, if of those in question it has issued
some: it pairs each of these with its signature, in any order, and leaves out the others. -/
structure HonestRestore (keys : Keys T) (issued : List (BlindedMessage T × BlindSignature T))
    (queries : List (BlindedMessage T)) (response : RestoreResponse T) : Prop where
  paired : response.outputs.length = response.signatures.length
  remembers : ∃ pairs, (response.outputs.zip response.signatures).Perm pairs ∧
    List.Forall₂ (Remembers L keys issued) (queries.filter (Known issued)) pairs

/-- A signature that was issued on an output, as it is restored. -/
structure Reissued (L : Cashu T) (keys : Keys T)
    (issued : List (BlindedMessage T × BlindSignature T)) (output : BlindedMessage T)
    (again : BlindSignature T) : Prop where
  signed : SignedOutput L keys again output
  same : ∃ signature, (output, signature) ∈ issued ∧ SameSignature signature again

/-- **Outputs that were issued are restored**, each with its own signature. -/
theorem HonestRestore.restores {keys : Keys T}
    {issued : List (BlindedMessage T × BlindSignature T)} {queries : List (BlindedMessage T)}
    (honest : HonestRestore L keys issued queries response)
    (points : (issued.map fun entry => entry.1.blindedSecret).Nodup) (distinct : queries.Nodup)
    (asked : ∀ query ∈ queries, query ∈ issued.map Prod.fst) :
    ∃ again, Restores response queries again ∧
      List.Forall₂ (Reissued L keys issued) queries again := by
  obtain ⟨paired, pairs, perm, remembers⟩ := honest
  have known : queries.filter (Known issued) = queries := by
    refine List.filter_eq_self.mpr fun query member => decide_eq_true ?_
    obtain ⟨entry, inIssued, rfl⟩ := List.mem_map.mp (asked query member)
    exact List.mem_map_of_mem (f := fun entry => entry.1.blindedSecret) inIssued
  rw [known] at remembers
  -- the point finds the output itself, so the answer has it either way
  have exact : List.Forall₂ (fun query pair => pair.1 = query ∧ Reissued L keys issued query pair.2)
      queries pairs := by
    refine List.forall₂_iff_zip.mpr ⟨remembers.length_eq, fun {query pair} member => ?_⟩
    obtain ⟨entry, inIssued, point, echo, same, signed⟩ :=
      (List.forall₂_iff_zip.mp remembers).2 member
    obtain ⟨entry', inIssued', rfl⟩ := List.mem_map.mp (asked query (List.of_mem_zip member).1)
    obtain rfl := List.inj_on_of_nodup_map points inIssued inIssued' point
    exact ⟨echo.elim id id, signed, entry.2, inIssued, same⟩
  have outputs : pairs.map Prod.fst = queries :=
    (map_eq_map_of_forall₂ (f := id) exact fun _ _ each => each.1.symm).symm.trans (List.map_id _)
  refine ⟨pairs.map Prod.snd, ⟨paired, distinct, ?_, ?_⟩, ?_⟩
  · rw [List.length_map, exact.length_eq]
  · rw [← outputs, ← List.unzip_fst, ← List.unzip_snd, List.zip_unzip]
    exact perm
  · rw [List.forall₂_map_right_iff]
    exact exact.imp fun _ _ => And.right

/-- The points of what was issued. -/
theorem issued_points {outputs : List (BlindedMessage T)}
    (count : outputs.length ≤ signatures.length) :
    ((outputs.zip signatures).map fun entry => entry.1.blindedSecret) =
      outputs.map BlindedMessage.blindedSecret := by
  nth_rewrite 2 [← List.map_fst_zip count]
  rw [List.map_map]
  rfl

/-- A point was issued with one signature. -/
theorem signature_eq_of_issued {issued : List (BlindedMessage T × BlindSignature T)}
    (points : (issued.map fun entry => entry.1.blindedSecret).Nodup) {output : BlindedMessage T}
    {signature signature' : BlindSignature T} (member : (output, signature) ∈ issued)
    (member' : (output, signature') ∈ issued) : signature' = signature :=
  congrArg Prod.snd (List.inj_on_of_nodup_map points member' member rfl)

/-- What is restored are the signatures that were issued, and they are repeated as they
were exactly if each comes with the equality proof it was issued with. -/
theorem reissued_same {keys : Keys T} {issued : List (BlindedMessage T × BlindSignature T)}
    (points : (issued.map fun entry => entry.1.blindedSecret).Nodup)
    {outputs : List (BlindedMessage T)} {again : List (BlindSignature T)}
    (reissued : List.Forall₂ (Reissued L keys issued) outputs again)
    (count : signatures.length = outputs.length)
    (inIssued : ∀ entry ∈ outputs.zip signatures, entry ∈ issued) :
    List.Forall₂ SameSignature signatures again ∧
      (again = signatures ↔ ∀ entry ∈ outputs.zip again, entry ∈ issued) := by
  induction reissued generalizing signatures with
  | nil =>
      obtain rfl := List.eq_nil_of_length_eq_zero count
      exact ⟨.nil, by simp⟩
  | @cons output restored outputs again first _ ih =>
      cases signatures with
      | nil => cases count
      | cons signature signatures =>
          simp only [List.zip_cons_cons, List.forall_mem_cons] at inIssued ⊢
          obtain ⟨sameRest, equalRest⟩ := ih (Nat.succ.inj count) inIssued.2
          obtain ⟨-, signature', member, same⟩ := first
          obtain rfl := signature_eq_of_issued points inIssued.1 member
          refine ⟨.cons same sameRest, ?_⟩
          rw [List.cons_eq_cons, equalRest]
          refine and_congr_left' ⟨fun equal => equal ▸ inIssued.1, fun repeated => ?_⟩
          exact signature_eq_of_issued points inIssued.1 repeated

/-! ## What depends on the equality proof -/

variable (L) in
/-- The signature in a proof is computed from the point that was signed with, the blinding
factor and the mint's key. -/
def Cashu.UnblindsPoints : Prop :=
  ∃ unblind : T.PublicKey → T.SecretKey → T.PublicKey → T.PublicKey,
    ∀ {keys : Keys T} {signatures : List (BlindSignature T)}
      {outputs : List (PreparedSwapOutput T)} {proofs : List (Proof T)},
      L.constructProofs signatures (outputs.map PreparedSwapOutput.blindingFactor)
        (outputs.map PreparedSwapOutput.secret) keys = .ok proofs →
      signatures.length = outputs.length →
      List.Forall₂ (fun pair proof => ∃ key, keys.amountKey pair.1.amount = some key ∧
        proof.c = unblind pair.1.c pair.2.blindingFactor key) (signatures.zip outputs) proofs

/-- The same proof, up to its equality proof. -/
structure SameProof (proof again : Proof T) : Prop where
  amount : again.amount = proof.amount
  secret : again.secret = proof.secret
  keysetId : again.keysetId = proof.keysetId
  c : again.c = proof.c

/-- Everything about a proof that is unblinded from a signature. -/
def UnblindsTo (unblind : T.PublicKey → T.SecretKey → T.PublicKey → T.PublicKey) (keys : Keys T)
    (pair : BlindSignature T × PreparedSwapOutput T) (proof : Proof T) : Prop :=
  UnblindedFrom pair proof ∧ ∃ key, keys.amountKey pair.1.amount = some key ∧
    proof.c = unblind pair.1.c pair.2.blindingFactor key

theorem unblindsTo_of_built (unblinds : L.Unblinds) (points : L.UnblindsPoints) :
    ∃ unblind, ∀ {keys : Keys T} {signatures : List (BlindSignature T)}
      {outputs : List (PreparedSwapOutput T)} {proofs : List (Proof T)},
      L.constructProofs signatures (outputs.map PreparedSwapOutput.blindingFactor)
        (outputs.map PreparedSwapOutput.secret) keys = .ok proofs →
      signatures.length = outputs.length →
      List.Forall₂ (UnblindsTo unblind keys) (signatures.zip outputs) proofs := by
  obtain ⟨unblind, points⟩ := points
  refine ⟨unblind, fun built count => ?_⟩
  have plain := List.forall₂_iff_zip.mp (unblinds.constructs built count)
  have signed := List.forall₂_iff_zip.mp (points built count)
  exact List.forall₂_iff_zip.mpr ⟨plain.1, fun member => ⟨plain.2 member, signed.2 member⟩⟩

/-- **The same signature is unblinded to the same proof**, and its equality proof is that
of the signature. -/
theorem sameProof_of_unblindsTo {unblind : T.PublicKey → T.SecretKey → T.PublicKey → T.PublicKey}
    {keys : Keys T} {signature again : BlindSignature T} {output : PreparedSwapOutput T}
    {proof proof' : Proof T} (made : UnblindsTo unblind keys (signature, output) proof)
    (made' : UnblindsTo unblind keys (again, output) proof')
    (same : SameSignature signature again) :
    SameProof proof proof' ∧ (proof' = proof ↔ again = signature) := by
  obtain ⟨made, key, isKey, c⟩ := made
  obtain ⟨made', key', isKey', c'⟩ := made'
  rw [same.amount, isKey, Option.some.injEq] at isKey'
  subst isKey'
  have sameProof : SameProof proof proof' := by
    refine ⟨?_, ?_, ?_, ?_⟩
    · rw [made'.amount, made.amount, same.amount]
    · rw [made'.secret, made.secret]
    · rw [made'.keysetId, made.keysetId, same.keysetId]
    · rw [c', c, same.c]
  refine ⟨sameProof, fun equal => ?_, fun equal => ?_⟩
  · have dleq := congrArg Proof.dleq equal
    rw [made'.dleq, made.dleq] at dleq
    have injective : Function.Injective fun dleq : BlindSignatureDleq T =>
        (⟨dleq.e, dleq.s, output.blindingFactor⟩ : ProofDleq T) := by
      rintro ⟨e, s⟩ ⟨e', s'⟩ equal
      simp only [ProofDleq.mk.injEq, and_true] at equal
      rw [equal.1, equal.2]
    have sameDleq := Option.map_injective injective dleq
    cases again
    cases signature
    obtain ⟨amount, keysetId, c⟩ := same
    dsimp only at amount keysetId c sameDleq
    rw [amount, keysetId, c, sameDleq]
  · have dleq : proof'.dleq = proof.dleq := by rw [made'.dleq, made.dleq, equal]
    have witness := made'.witness.trans made.witness.symm
    have p2pkE := made'.p2pkE.trans made.p2pkE.symm
    cases proof
    cases proof'
    obtain ⟨amount, secret, keysetId, c⟩ := sameProof
    dsimp only at amount secret keysetId c dleq witness p2pkE
    rw [amount, secret, keysetId, c, dleq, witness, p2pkE]

/-- Signature by signature. -/
theorem sameProofs_of_unblindsTo {unblind : T.PublicKey → T.SecretKey → T.PublicKey → T.PublicKey}
    {keys : Keys T} {signatures again : List (BlindSignature T)}
    {outputs : List (PreparedSwapOutput T)} {proofs proofs' : List (Proof T)}
    (made : List.Forall₂ (UnblindsTo unblind keys) (signatures.zip outputs) proofs)
    (made' : List.Forall₂ (UnblindsTo unblind keys) (again.zip outputs) proofs')
    (same : List.Forall₂ SameSignature signatures again)
    (count : signatures.length = outputs.length) :
    List.Forall₂ SameProof proofs proofs' ∧ (proofs' = proofs ↔ again = signatures) := by
  induction same generalizing outputs proofs proofs' with
  | nil =>
      cases made
      cases made'
      exact ⟨.nil, fun _ => rfl, fun _ => rfl⟩
  | cons sameFirst _ ih =>
      cases outputs with
      | nil => cases count
      | cons output outputs =>
          obtain _ | ⟨first, rest⟩ := made
          obtain _ | ⟨first', rest'⟩ := made'
          obtain ⟨sameProof, equal⟩ := sameProof_of_unblindsTo first first' sameFirst
          obtain ⟨sameRest, equalRest⟩ := ih rest rest' (Nat.succ.inj count)
          refine ⟨.cons sameProof sameRest, ?_⟩
          rw [List.cons_eq_cons, List.cons_eq_cons, equal, equalRest]

/-- **What is restored is what was issued**, and it is the same proof by proof, with the
equality proofs, exactly if the signatures are repeated as they were issued. -/
theorem sameProofs_of_reissued
    {unblind : T.PublicKey → T.SecretKey → T.PublicKey → T.PublicKey} {keys keys' : Keys T}
    {issued : List (BlindedMessage T × BlindSignature T)}
    (points : (issued.map fun entry => entry.1.blindedSecret).Nodup)
    {outputs : List (PreparedSwapOutput T)} {again : List (BlindSignature T)}
    {proofs proofs' : List (Proof T)}
    (reissued : List.Forall₂ (Reissued L keys issued)
      (outputs.map PreparedSwapOutput.blindedMessage) again)
    (count : signatures.length = outputs.length)
    (inIssued : ∀ entry ∈ (outputs.map PreparedSwapOutput.blindedMessage).zip signatures,
      entry ∈ issued)
    (made : List.Forall₂ (UnblindsTo unblind keys') (signatures.zip outputs) proofs)
    (made' : List.Forall₂ (UnblindsTo unblind keys') (again.zip outputs) proofs') :
    List.Forall₂ SameProof proofs proofs' ∧
      (proofs' = proofs ↔
        ∀ entry ∈ (outputs.map PreparedSwapOutput.blindedMessage).zip again, entry ∈ issued) := by
  obtain ⟨same, repeated⟩ := reissued_same points reissued
    (count.trans (List.length_map _).symm) inIssued
  obtain ⟨sameProofs, equal⟩ := sameProofs_of_unblindsTo made made' same count
  exact ⟨sameProofs, equal.trans repeated⟩

end Specifications

namespace Sample

theorem unblindsPoints : library.UnblindsPoints := by
  refine ⟨fun c r key => c - r.val * key, fun built count => ?_⟩
  refine (unblind_of_constructProofs built count).imp fun pair proof made => ?_
  unfold unblind at made
  split at made
  · cases made
  · next key isKey =>
      obtain rfl := Except.ok.inj made
      exact ⟨key, isKey, rfl⟩

/-- A signature with an equality proof that was made anew. -/
def signAnew (keyset : KeysetInfo carriers) (dleq : BlindSignatureDleq carriers)
    (output : BlindedMessage carriers) : BlindSignature carriers :=
  { signOutput keyset output with dleq := some dleq }

theorem mem_issued {keyset : KeysetInfo carriers} {outputs : List (BlindedMessage carriers)}
    {output : BlindedMessage carriers} (member : output ∈ outputs) :
    (output, signOutput keyset output) ∈ outputs.zip (outputs.map (signOutput keyset)) := by
  rw [← List.map_id outputs, List.map_map, List.zip_map']
  exact List.mem_map.mpr ⟨output, member, rfl⟩

/-- A mint that has signed some outputs, and is asked for some of them. -/
theorem honestRestore_signAnew {keyset : KeysetInfo carriers}
    {outputs queries : List (BlindedMessage carriers)}
    (keys : ∀ output ∈ outputs, (keyset.activeKeys.amountKey output.amount).isSome)
    (asked : ∀ query ∈ queries, query ∈ outputs) (dleq : BlindSignatureDleq carriers) :
    HonestRestore library keyset.activeKeys (outputs.zip (outputs.map (signOutput keyset))) queries
      ⟨queries, queries.map (signAnew keyset dleq)⟩ := by
  have known : queries.filter (Known (outputs.zip (outputs.map (signOutput keyset)))) = queries :=
    List.filter_eq_self.mpr fun query member => decide_eq_true
      (List.mem_map.mpr ⟨_, mem_issued (asked query member), rfl⟩)
  refine ⟨(List.length_map _).symm, _, .refl _, ?_⟩
  rw [known]
  dsimp only
  rw [← List.map_id queries, List.map_map, List.zip_map', List.forall₂_map_left_iff,
    List.forall₂_map_right_iff, List.forall₂_same]
  intro query member
  obtain ⟨amount, keysetId, key, isKey, verified⟩ :=
    signedOutput_signOutput (keys query (asked query member))
  refine ⟨_, mem_issued (asked query member), rfl, .inl rfl, ⟨rfl, rfl, rfl⟩, amount, keysetId, key,
    isKey, ?_⟩
  have checked : (signOutput keyset query).dleq.isSome ∧
      (signOutput keyset query).c = (key : Point) * query.blindedSecret := by
    by_contra fails
    simp [library, fails] at verified
  exact if_pos ⟨rfl, checked.2⟩

theorem movesApart : library.MovesApart := by
  intro r outputs derived moved distinct
  obtain rfl := Except.ok.inj moved
  rw [List.map_map]
  have shifted := distinct.map (add_left_injective (digest r.val : Point))
  rw [List.map_map] at shifted
  exact shifted

/-- An output of the small mint. -/
def output (amount : Nat) (secret : String) (factor : carriers.SecretKey) :
    PreparedSwapOutput carriers :=
  ⟨⟨amount, (pairs "sat").keysetId, hashToCurve secret + factor.val⟩, secret, factor⟩

/-- Two outputs to be rerandomized. -/
def twoOutputs : List (PreparedSwapOutput carriers) :=
  [output 1 "a" ⟨point 7, point_seven_ne_zero⟩, output 2 "b" ⟨point 9, by decide⟩]

def moving : SwapRequest carriers :=
  ⟨[], twoOutputs.map PreparedSwapOutput.blindedMessage, true⟩

/-- The mint's signatures on the outputs as it has moved them. -/
def movedSignatures : List (BlindSignature carriers) :=
  moving.outputs.map fun message => signOutput (pairs "sat")
    { message with blindedSecret := message.blindedSecret + digest (bytes32 5).val }

end Sample

/-- Two rerandomized outputs, restored in the other order. -/
theorem completeSwapRestore_exact_reversed :
    ∃ issued proofs,
      swapRestoreRequest Sample.library Sample.moving (some (Sample.bytes32 5)) = .ok issued ∧
      completeSwapResponse Sample.library Sample.moving Sample.twoOutputs
        ⟨Sample.movedSignatures, some (Sample.bytes32 5)⟩ (Sample.pairs "sat") = .ok proofs ∧
      completeSwapRestore Sample.library Sample.moving Sample.twoOutputs
        (some (Sample.bytes32 5)) ⟨issued.reverse, Sample.movedSignatures.reverse⟩
        (Sample.pairs "sat") = .ok (some proofs) := by
  have ran : (completeSwapResponse Sample.library Sample.moving Sample.twoOutputs
      ⟨Sample.movedSignatures, some (Sample.bytes32 5)⟩ (Sample.pairs "sat")).isOk = true := by
    decide +kernel
  obtain ⟨proofs, accepted⟩ := Outcome.exists_of_isOk ran
  obtain ⟨issued, restored, arranged⟩ := (completeSwapRestore_exact Sample.roundTrips
    Sample.unblinds Sample.movesApart Sample.moving Sample.twoOutputs (Sample.pairs "sat")
    (some (Sample.bytes32 5))).1 Sample.movedSignatures proofs accepted
  have count : issued.length = Sample.movedSignatures.length :=
    (issued_of_swapRestoreRequest Sample.unblinds restored).2.length_eq.symm
  refine ⟨issued, proofs, restored, accepted, arranged _ ?_ ?_⟩
  · simp [count]
  · obtain ⟨first, second, rfl⟩ := List.length_eq_two.mp count
    exact .swap _ _ _

end Spilman
