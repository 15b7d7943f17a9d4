/-!
# Python exceptions

The exceptions the modelled functions can end with, by class and with the text or the status the
code or its callers look at. A function that may raise returns `Except Exc _`.

Python has one hierarchy of classes and an `except` clause names the class it catches. Here each
clause the code has is a pattern on `Exc`: what it catches is a constructor, and what it lets
through goes on as `.error`. Texts are kept where the code shows them to somebody, a message or a
log line, and left out where no reader can tell them apart.
-/

namespace SreAgent

inductive Exc where
  | keyError (msg : String)
  | typeError
  | valueError
  | attributeError (msg : String)
  | permissionError (msg : String)
  | tenantIsolationError (msg : String)
  | authError (msg : String)
  | apiException (status : Nat)      -- `kubernetes.client.rest.ApiException`
  | transportError (name : String)   -- a subclass of `httpx.TransportError`
  | httpStatusError (status : Nat)   -- `httpx.HTTPStatusError`
  | other (name : String)            -- any other class, by name
  deriving DecidableEq, Repr

/-- A computation that returns has got past its first step. -/
theorem bind_ok {α β : Type} {x : Except Exc α} {f : α → Except Exc β} {b : β}
    (h : x >>= f = .ok b) : ∃ a, x = .ok a ∧ f a = .ok b := by
  cases x with
  | error e => cases h
  | ok a => exact ⟨a, rfl, h⟩

end SreAgent
