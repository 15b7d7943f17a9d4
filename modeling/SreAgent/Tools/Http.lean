import SreAgent.Errors
import SreAgent.Lib.Json
import SreAgent.Lib.Retry

/-!
# The shared HTTP client

`post_json` of `tools/_http.py`. What the network and the remote side make of an attempt is not up to
the code: an `Attempt` says whether the remote side took the request and, independently, what the
client gets to see of it. `tenacity` repeats the function on the two classes of exceptions named in
its decorator and re-raises what the last attempt raised.

An attempt has two sides. Whether the message was accepted is a fact about the remote side. Whether
it looks failed is what the client knows. A response that is lost on its way back makes the two
differ, and that is the case in which a message is sent twice.
-/

namespace SreAgent.Tools

open Py (Json)

structure Request where
  url     : String
  json    : Json
  headers : List (String × String)

/-- What `client.post` ends with: a response with its decoded content, or an exception. -/
inductive Answer where
  | response (status : Nat) (content : String)
  | raised (exc : Exc)

structure Attempt where
  accepted : Bool                   -- the remote side took the message
  answer   : Answer

/-- One run of the body of `post_json`. -/
def Answer.toResult : Answer → Except Exc Json
  | .raised exc => .error exc
  | .response status content =>
    if 200 ≤ status ∧ status ≤ 299 then
      if content = "" then .ok (.obj [])
      else match Py.loads content.toList with
        | some v => .ok v
        | none   => .error .valueError
    else .error (.httpStatusError status)

/-- `retry_if_exception_type((httpx.TransportError, httpx.HTTPStatusError))`. -/
def retryable : Except Exc Json → Bool
  | .error (.transportError _)  => true
  | .error (.httpStatusError _) => true
  | _                           => false

/-- Whether `tenacity` runs the function again after this attempt. -/
def Attempt.again (a : Attempt) : Bool := retryable a.answer.toResult

/-- A call that may post: what it returns or raises, the request it posts and the attempts made. -/
structure Posted where
  result   : Except Exc Json
  request  : Option Request := none
  attempts : List Attempt := []

/-- `stop_after_attempt(3)`. -/
def maxAttempts : Nat := 3

/-- `post_json`, where the `k`-th attempt would end as `network k`. The last attempt decides. -/
def postJson (network : ℕ → Attempt) (request : Request) : Posted :=
  let attempts := Retry.made Attempt.again network maxAttempts 0
  { result := (attempts.getLastD (network 0)).answer.toResult, request := some request, attempts }

/-- How many times the remote side took the message. -/
def Posted.acceptances (posted : Posted) : Nat := posted.attempts.countP Attempt.accepted

/-! ## Acceptances

The attempts form a list of at most three. All of them but the last look failed, since the retry
stops at the first one that does not. -/

/-- Two attempts would be accepted although every one before the later of them looks failed to the
client. A lost answer is such a failure, and the code cannot tell it from a lost request. -/
def Resent (network : ℕ → Attempt) : Prop :=
  ∃ i j, i < j ∧ j < maxAttempts ∧ (network i).accepted = true ∧ (network j).accepted = true ∧
    ∀ m < j, (network m).again = true

/-- There are no more acceptances than attempts. -/
theorem acceptances_postJson_le (network : ℕ → Attempt) (request : Request) :
    (postJson network request).acceptances ≤ maxAttempts := by
  have hcount : (postJson network request).acceptances ≤ (postJson network request).attempts.length :=
    List.countP_le_length
  exact hcount.trans (Retry.length_made_le ..)

/-- A request is accepted at most once unless it is sent again after it was. -/
theorem acceptances_postJson_le_one_iff (network : ℕ → Attempt) (request : Request) :
    (postJson network request).acceptances ≤ 1 ↔ ¬ Resent network := by
  show (Retry.made Attempt.again network maxAttempts 0).countP Attempt.accepted ≤ 1 ↔ _
  rw [Retry.countP_made_le_one_iff]
  constructor
  · -- a resend after an accepted attempt means that no attempt up to it stopped the loop
    rintro h ⟨i, j, hij, hj, hi, hej, hall⟩
    obtain ⟨m, hm, hstop⟩ := h i j hij hj hi hej
    have hagain := hall m hm
    rw [hstop] at hagain
    cases hagain
  · intro h i j hij hj hi hej
    by_contra hnone  -- two accepted attempts with every one before the second retried are a resend
    apply h
    refine ⟨i, j, hij, hj, hi, hej, ?_⟩
    intro m hm
    by_contra hstop
    exact hnone ⟨m, hm, by simpa using hstop⟩

end SreAgent.Tools
