/-
# Inputs of the derivations

Every scalar of a channel is hashed under the channel secret, out of unpadded
texts: tags, identifiers, contexts and numbers one after another. Here the texts
are read back. An identifier has a fixed length and no letter a tag starts with,
numbers do not contain the separator, so they are found from the end whatever the
context contains, and the byte that marks a second try occurs in no text. Two
inputs are therefore equal only for the same derivation.
-/

import Spilman.Deterministic

namespace Spilman

open Lib

variable {T : Carriers} (L : Cashu T)

/-! ## The derivations -/

/-- A scalar that is hashed under the channel secret. -/
inductive ScalarDerivation
  | stage1KeyTweak (context : String)
  | stage2Ephemeral (context : String) (amount index : Nat)
  | nonce (context : String) (amount index : Nat)
  | blinding (context : String) (amount index : Nat)
  deriving DecidableEq, Repr

namespace ScalarDerivation

/-- What the scalar is hashed from. -/
def input (params : ChannelParameters T) : ScalarDerivation → List UInt8
  | .stage1KeyTweak context =>
      utf8 "Cashu_Spilman_stage1_key_tweak_v1" ++ utf8 (params.getChannelId L ++ "|" ++ context)
  | .stage2Ephemeral context amount index =>
      utf8 "Cashu_Spilman_P2BK_ephemeral_v1" ++
        utf8 (params.getChannelId L ++ "|" ++ context ++ "|" ++ toString amount ++ "|" ++
          toString index)
  | .nonce context amount index => utf8 (params.nonceText L context amount index)
  | .blinding context amount index => utf8 (params.blindingText L context amount index)

/-- The bytes that are hashed in the first try and in the second one. -/
def hashed (params : ChannelParameters T) (derivation : ScalarDerivation) (retry : Bool) :
    List UInt8 :=
  derivation.input L params ++ (if retry then [0xff] else [])

/-- The scalar of a channel. -/
def scalar (params : ChannelParameters T) (derivation : ScalarDerivation) :
    Outcome String T.Scalar :=
  hashToSecpScalar L (derivation.input L params) (L.hmacSha256 params.channelSecret.val)

end ScalarDerivation

namespace ChannelParameters

variable {L} (params : ChannelParameters T) (context : String) (amount index : Nat)

theorem deriveBlindingScalar_eq : params.deriveBlindingScalar L context =
    ((ScalarDerivation.stage1KeyTweak context).scalar L params).mapErr fun error =>
      s!"Failed to derive stage-1 blinding scalar: {error}" := rfl

theorem deriveStage2Ephemeral_eq :
    params.deriveStage2P2bkEphemeralSecretForOutput L context amount index = (do
      let scalar ← ((ScalarDerivation.stage2Ephemeral context amount index).scalar L params).mapErr
        fun error => s!"Failed to derive stage-2 ephemeral secret: {error}"
      (Outcome.ofExcept (L.secretKeyFromSlice (L.scalarToBeBytes scalar).val)).mapErr
        fun error => s!"Invalid stage-2 ephemeral secret: {error}") := rfl

/-- An output is made of its nonce and its blinding factor. -/
theorem createDeterministicOutput_eq :
    params.createDeterministicOutputWithBlinding L context amount index = (do
      let nonceScalar ← ((ScalarDerivation.nonce context amount index).scalar L params).mapErr
        fun error => s!"Failed to derive deterministic nonce: {error}"
      let nonce := Hex.encode (L.scalarToBeBytes nonceScalar).val
      let blindingScalar ←
        ((ScalarDerivation.blinding context amount index).scalar L params).mapErr
          fun error => s!"Failed to derive deterministic blinding factor: {error}"
      let blindingFactor ←
        (Outcome.ofExcept (L.secretKeyFromSlice (L.scalarToBeBytes blindingScalar).val)).mapErr
          fun error => s!"Invalid deterministic blinding factor: {error}"
      if context = "funding" then
        DeterministicSecretWithBlinding.newFunding L params nonce blindingFactor amount index
      else do
        let pubkey ← params.getStage2BlindedPubkeyForStage1Output L context amount index
        return .newP2pk L pubkey nonce blindingFactor amount index) := rfl

end ChannelParameters

/-! ## Reading an input back -/

namespace ScalarDerivation

/-- The tag in front of the identifier. -/
def tag : ScalarDerivation → String
  | .stage1KeyTweak _ => "Cashu_Spilman_stage1_key_tweak_v1"
  | .stage2Ephemeral .. => "Cashu_Spilman_P2BK_ephemeral_v1"
  | .nonce .. | .blinding .. => ""

def context : ScalarDerivation → String
  | .stage1KeyTweak context | .stage2Ephemeral context .. | .nonce context ..
  | .blinding context .. => context

/-- The fields after the context, the last one first. -/
def fields : ScalarDerivation → List (List Char)
  | .stage1KeyTweak _ => []
  | .stage2Ephemeral _ amount index => [(toString index).toList, (toString amount).toList]
  | .nonce _ amount index => [(toString index).toList, "nonce".toList, (toString amount).toList]
  | .blinding _ amount index =>
      [(toString index).toList, "blinding".toList, (toString amount).toList]

variable {L} {params params' : ChannelParameters T} {derivation derivation' : ScalarDerivation}

variable (L params derivation) in
/-- The input as one text. -/
theorem exists_text : ∃ text : String, derivation.input L params = utf8 text ∧
    text.toList = derivation.tag.toList ++ ((params.getChannelId L).toList ++
      '|' :: withFields '|' derivation.context.toList derivation.fields) := by
  have bar : "|".toList = ['|'] := by decide
  have nonce : "|nonce|".toList = '|' :: ("nonce".toList ++ ['|']) := by decide
  have blinding : "|blinding|".toList = '|' :: ("blinding".toList ++ ['|']) := by decide
  cases derivation with
  | stage1KeyTweak context =>
      refine ⟨_, (utf8_append _ _).symm, ?_⟩
      simp [String.toList_append, bar, tag, ScalarDerivation.context, fields, withFields]
  | stage2Ephemeral context amount index =>
      refine ⟨_, (utf8_append _ _).symm, ?_⟩
      simp [String.toList_append, bar, tag, ScalarDerivation.context, fields, withFields]
  | nonce context amount index =>
      refine ⟨_, rfl, ?_⟩
      simp [ChannelParameters.nonceText, String.toList_append, bar, nonce, tag,
        ScalarDerivation.context, fields, withFields]
  | blinding context amount index =>
      refine ⟨_, rfl, ?_⟩
      simp [ChannelParameters.blindingText, String.toList_append, bar, blinding, tag,
        ScalarDerivation.context, fields, withFields]

theorem clean_fields : ∀ field ∈ derivation.fields, '|' ∉ field := by
  have digits (n : Nat) : '|' ∉ (toString n).toList := Decimal.notMem_toString (by decide) n
  have words : '|' ∉ "nonce".toList ∧ '|' ∉ "blinding".toList := by decide
  cases derivation <;>
    simp only [fields, List.forall_mem_cons, digits, words, not_false_eq_true, true_and] <;>
    exact fun _ none => absurd none List.not_mem_nil

theorem length_channelId (params : ChannelParameters T) :
    (params.getChannelId L).toList.length = 64 := by
  rw [ChannelParameters.getChannelId, Hex.length_encode, (params.getChannelIdBytes L).property]

/-- No identifier starts like a tag. -/
theorem ne_of_tagged (params : ChannelParameters T) {tag : String}
    (starts : tag.toList.head? = some 'C') (rest rest' : List Char) : tag.toList ++ rest ≠ (params.getChannelId L).toList ++ rest' := by
  intro same
  have heads := congrArg List.head? same
  have nonempty : (params.getChannelId L).toList ≠ [] := fun empty => by
    cases empty ▸ length_channelId (L := L) params
  rw [List.head?_append, starts, List.head?_append_of_ne_nil _ nonempty] at heads
  exact Hex.isLower_encode (params.getChannelIdBytes L).val 'C'
    (List.mem_of_head? heads.symm) (by decide)

theorem tag_cases (derivation : ScalarDerivation) :
    derivation.tag = "Cashu_Spilman_stage1_key_tweak_v1" ∨
      derivation.tag = "Cashu_Spilman_P2BK_ephemeral_v1" ∨ derivation.tag = "" := by
  cases derivation <;> simp [tag]

/-- The tag is read off an input. -/
theorem tag_inj {rest rest' : List Char}
    (same : derivation.tag.toList ++ ((params.getChannelId L).toList ++ rest) =
      derivation'.tag.toList ++ ((params'.getChannelId L).toList ++ rest')) :
    derivation.tag = derivation'.tag := by
  have stage1 : "Cashu_Spilman_stage1_key_tweak_v1".toList.head? = some 'C' := by decide
  have stage2 : "Cashu_Spilman_P2BK_ephemeral_v1".toList.head? = some 'C' := by decide
  have empty : "".toList = [] := by decide
  -- the two tags differ in their fifteenth letter
  have apart {first second : List Char} :
      "Cashu_Spilman_stage1_key_tweak_v1".toList ++ first ≠
        "Cashu_Spilman_P2BK_ephemeral_v1".toList ++ second := fun same => by
    have letters := congrArg (fun text => text[14]?) same
    simp at letters
  rcases tag_cases derivation with own | own | own <;>
    rcases tag_cases derivation' with other | other | other <;>
    rw [own, other] at same ⊢ <;>
    try rw [empty, List.nil_append] at same
  · exact absurd same apart
  · exact absurd same (ne_of_tagged params' stage1 _ _)
  · exact absurd same.symm apart
  · exact absurd same (ne_of_tagged params' stage2 _ _)
  · exact absurd same.symm (ne_of_tagged params stage1 _ _)
  · exact absurd same.symm (ne_of_tagged params stage2 _ _)

/-- Derivations with one tag have as many fields. -/
theorem length_fields_of_tag (same : derivation.tag = derivation'.tag) :
    derivation.fields.length = derivation'.fields.length := by
  cases derivation <;> cases derivation' <;>
    first
      | rfl
      | exact absurd same (by simp [tag])

theorem eq_of_parts (tags : derivation.tag = derivation'.tag)
    (contexts : derivation.context = derivation'.context)
    (fields : derivation.fields = derivation'.fields) : derivation = derivation' := by
  cases derivation <;> cases derivation' <;>
    simp only [tag, ScalarDerivation.fields, List.cons.injEq, String.toList_inj,
      Decimal.toString_injective.eq_iff, true_and, and_true] at tags contexts fields <;>
    simp_all [context]

/-- **An input belongs to one derivation of one channel, and to one try.** -/
theorem hashed_inj {retry retry' : Bool}
    (same : derivation.hashed L params retry = derivation'.hashed L params' retry') :
    params.getChannelId L = params'.getChannelId L ∧ derivation = derivation' ∧ retry = retry' := by
  obtain ⟨text, input, letters⟩ := exists_text L params derivation
  obtain ⟨text', input', letters'⟩ := exists_text L params' derivation'
  rw [hashed, hashed, input, input'] at same
  obtain ⟨texts, tries⟩ := utf8_marked_inj same
  rw [texts, letters'] at letters
  have tags := tag_inj letters.symm
  rw [tags] at letters
  obtain ⟨ids, rests⟩ := List.append_inj (List.append_cancel_left letters)
    ((length_channelId params').trans (length_channelId params).symm)
  obtain ⟨contexts, fields⟩ := withFields_inj clean_fields clean_fields
    (length_fields_of_tag tags).symm (List.cons.inj rests).2
  exact ⟨(String.toList_inj.mp ids).symm,
    eq_of_parts tags (String.toList_inj.mp contexts).symm fields.symm, tries⟩

/-- Of the channel an input reads the identifier only. -/
theorem hashed_congr (ids : params.getChannelId L = params'.getChannelId L)
    (derivation : ScalarDerivation) (retry : Bool) :
    derivation.hashed L params retry = derivation.hashed L params' retry := by
  cases derivation <;>
    simp only [hashed, input, ChannelParameters.nonceText, ChannelParameters.blindingText, ids]

end ScalarDerivation

/-- The text a nonce is hashed from names its context, its amount and its index. -/
theorem nonceText_inj {params params' : ChannelParameters T} {context context' : String}
    {slot slot' : Nat × Nat} (same : params.nonceText L context slot.1 slot.2 =
      params'.nonceText L context' slot'.1 slot'.2) : context = context' ∧ slot = slot' := by
  have bytes : (ScalarDerivation.nonce context slot.1 slot.2).hashed L params false =
      (ScalarDerivation.nonce context' slot'.1 slot'.2).hashed L params' false :=
    congrArg (fun text => utf8 text ++ []) same
  obtain ⟨-, derivations, -⟩ := ScalarDerivation.hashed_inj bytes
  obtain ⟨contexts, amounts, indices⟩ := ScalarDerivation.nonce.inj derivations
  exact ⟨contexts, Prod.ext amounts indices⟩

end Spilman
