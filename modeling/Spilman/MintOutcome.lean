/-
# What a response of the mint means

A networking adapter hands on complete HTTP responses. A body under a success status
is the answer. A well-formed rejection counts as one only under status 400; every other
response, and every failure of the transport, leaves open what the mint has done.
-/

import Spilman.Host

namespace Spilman

variable {T : Carriers}

/-- A complete HTTP response of a mint. -/
structure MintResponse (T : Carriers) where
  status : Nat
  body : T.Text

/-- How the texts of an adapter are read. -/
structure Wire (T : Carriers) where
  /-- `serde_json::from_str` into the code and the detail of a rejection. -/
  readRejection : T.Text → Option MintRejection
  /-- `serde_json::from_str` into a response. -/
  readResponse : T.Text → Option (MintResponse T)
  /-- A body as it is reported. -/
  textOf : T.Text → String

/-- Classify a response. -/
def MintResponse.intoResult (W : Wire T) (response : MintResponse T) :
    Except MintRequestError T.Text :=
  if 200 ≤ response.status ∧ response.status < 300 then .ok response.body
  else
    match if response.status = 400 then W.readRejection response.body else none with
    | some rejection => .error (.rejected rejection)
    | none => .error (.http response.status (W.textOf response.body))

/-- Classify what the callback of a binding returns. -/
def MintResponse.fromCallback (W : Wire T) :
    Except String T.Text → Except MintRequestError T.Text
  | .error message => .error (.transport message)
  | .ok wire =>
      match W.readResponse wire with
      | none => .error (.transport "invalid mint response envelope")
      | some response =>
          if 100 ≤ response.status ∧ response.status < 600 then response.intoResult W
          else .error (.transport "invalid mint HTTP status")

/-- The mint has rejected the keyset of a request: it does not know it, or it is inactive. -/
def KeysetRejection (answer : Except MintRequestError T.Text) : Prop :=
  ∃ rejection, answer = .error (.rejected rejection) ∧
    (rejection.code = 12001 ∨ rejection.code = 12002)

theorem MintRequestError.permitsKeysetRetry_iff {error : MintRequestError} :
    error.permitsKeysetRetry = true ↔
      ∃ rejection, error = .rejected rejection ∧
        (rejection.code = 12001 ∨ rejection.code = 12002) := by
  cases error with
  | rejected rejection => simp [permitsKeysetRetry, MintRequestError.rejection]
  | http status body => simp [permitsKeysetRetry, MintRequestError.rejection]
  | transport message => simp [permitsKeysetRetry, MintRequestError.rejection]

/-- Only a response of status 400 is classified as a rejection. -/
theorem MintResponse.intoResult_eq_rejected {W : Wire T} {response : MintResponse T}
    {rejection : MintRejection} :
    response.intoResult W = .error (.rejected rejection) ↔
      response.status = 400 ∧ W.readRejection response.body = some rejection := by
  unfold intoResult
  by_cases success : 200 ≤ response.status ∧ response.status < 300
  · rw [if_pos success]
    have : response.status ≠ 400 := by omega
    simp [this]
  · rw [if_neg success]
    by_cases bad : response.status = 400
    · rw [if_pos bad]
      cases W.readRejection response.body <;> simp [bad]
    · rw [if_neg bad]
      simp [bad]

theorem status_of_keysetRejection {W : Wire T} {response : MintResponse T}
    (rejected : KeysetRejection (response.intoResult W)) : response.status = 400 := by
  obtain ⟨rejection, classified, -⟩ := rejected
  exact (MintResponse.intoResult_eq_rejected.mp classified).1

/-- A callback never makes a rejection of another status either. -/
theorem status_of_fromCallback {W : Wire T} {result : Except String T.Text}
    (rejected : KeysetRejection (MintResponse.fromCallback W result)) :
    ∃ wire response, result = .ok wire ∧ W.readResponse wire = some response ∧
      response.status = 400 := by
  cases result with
  | error message =>
      obtain ⟨_, ⟨⟩, -⟩ := rejected
  | ok wire =>
      cases read : W.readResponse wire with
      | none =>
          simp only [MintResponse.fromCallback, read] at rejected
          obtain ⟨_, ⟨⟩, -⟩ := rejected
      | some response =>
          simp only [MintResponse.fromCallback, read] at rejected
          by_cases valid : 100 ≤ response.status ∧ response.status < 600
          · rw [if_pos valid] at rejected
            exact ⟨wire, response, rfl, read, status_of_keysetRejection rejected⟩
          · rw [if_neg valid] at rejected
            obtain ⟨_, ⟨⟩, -⟩ := rejected

end Spilman
