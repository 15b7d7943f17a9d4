import SreAgent.Gateway.Basic

/-!
# Callers do not disturb each other

Two gateways that differ in what other callers did are alike for one subject when their limiters
are (`Ratelimit.AlikeFor`). Public and refused requests leave the limiter as it is and another
caller's request leaves this subject's bucket as it is, so the run that takes them all stays alike
to the run that takes the subject's own requests only (`Machine.trace_filter_of_unwinding`).

The verifier may answer differently from one request to the next, as a key server does that is down
for a while. What matters is that it looks at one request only.
-/

namespace SreAgent.Gateway

open Ratelimit (AlikeFor TokenBucketLimiter)

variable {settings : Settings} {limiter limiter' : TokenBucketLimiter} {a : Arrival}
  {subject : String}

/-- A request the limiter never hears of. -/
theorem gateway_limiter_of_not_caller (h : a.subject settings = none) :
    (gateway settings limiter a).2 = limiter := by
  rw [gateway_eq]
  unfold Arrival.subject at h
  split at h
  · cases h
  · next hother =>
    cases hs : standing settings a with
    | open_ => rfl
    | refused msg => rfl
    | caller s => exact absurd hs (hother s)

/-- A request of a verified caller. -/
theorem gateway_of_subject (h : a.subject settings = some subject) :
    gateway settings limiter a =
      ((if (limiter.allow { principal := subject, now := a.now }).1 then .base else rateLimited),
        (limiter.allow { principal := subject, now := a.now }).2) := by
  rw [gateway_eq]
  unfold Arrival.subject at h
  split at h
  · next s hs => rw [hs, Option.some.inj h]
  · cases h

/-- **Foreign step**: whatever else arrives, the subject's bucket is not touched. -/
theorem alike_other (h : AlikeFor subject limiter limiter')
    (hother : a.subject settings ≠ some subject) :
    AlikeFor subject (gateway settings limiter a).2 limiter' := by
  cases hs : a.subject settings with
  | none =>
      rw [gateway_limiter_of_not_caller hs]
      exact h
  | some s =>
      have hne : s ≠ subject := by
        intro heq
        rw [hs, heq] at hother
        exact hother rfl
      rw [gateway_of_subject hs]
      exact h.other hne

/-- **Own step**: the same reply from both gateways, and they stay alike. -/
theorem alike_own (h : AlikeFor subject limiter limiter')
    (hown : a.subject settings = some subject) :
    (gateway settings limiter a).1 = (gateway settings limiter' a).1 ∧
      AlikeFor subject (gateway settings limiter a).2 (gateway settings limiter' a).2 := by
  rw [gateway_of_subject hown, gateway_of_subject hown]
  obtain ⟨hans, hnext⟩ := @AlikeFor.own subject _ _ h { principal := subject, now := a.now } rfl
  exact ⟨by rw [hans], hnext⟩

/-- A request that fails authentication is answered 401 on the spot. -/
theorem gateway_of_failsAuth (h : a.FailsAuth settings) :
    ∃ msg, gateway settings limiter a = (unauthorized msg, limiter) := by
  obtain ⟨msg, hs⟩ := h
  refine ⟨msg, ?_⟩
  rw [gateway_eq, hs]

/-- **Caller isolation.** In every run the replies to one subject's requests are those of the run
from which every other request has been deleted, and a request that fails authentication is never
handed on. -/
theorem callers_isolated (settings : Settings) (arrivals : List Arrival) :
    (∀ subject,
      (serve settings arrivals).filter (fun e => e.1.subject settings = some subject) =
        serve settings (arrivals.filter fun a => a.subject settings = some subject)) ∧
    ∀ e ∈ serve settings arrivals, e.1.FailsAuth settings →
      e.2 ≠ .base ∧ ∃ msg, e.2 = unauthorized msg := by
  constructor
  · intro subject
    -- the limiters of the two runs are alike for this subject; other requests keep them so
    apply Machine.trace_filter_of_unwinding
      (fun a : Arrival => a.subject settings = some subject) (R := AlikeFor subject)
    · exact ⟨rfl, rfl, rfl⟩
    · intro limiter limiter' a h hother
      exact alike_other h (of_decide_eq_false hother)
    · intro limiter limiter' a h hown
      exact alike_own h (of_decide_eq_true hown)
  · intro e he hfail
    obtain ⟨limiter, hreply⟩ := Machine.mem_trace he
    obtain ⟨msg, hgw⟩ := @gateway_of_failsAuth settings limiter e.1 hfail
    have hans : e.2 = unauthorized msg := by
      rw [hreply]
      show (gateway settings limiter e.1).1 = _
      rw [hgw]
    refine ⟨?_, msg, hans⟩
    rw [hans]
    intro hbase
    cases hbase

end SreAgent.Gateway
