import SreAgent.Gateway.Auth
import SreAgent.Ratelimit.Admission

/-!
# The HTTP gateway

The `gateway` of `middleware.py`, which stands before the MCP server: public paths and everything
that is not HTTP go straight on to `base`, the rest needs a bearer token that verifies and a place
under the caller's rate limit. It never waits between reading a request and deciding on it, so one
request is one step.

A run is a `Machine` over the in-memory limiter. Nothing else is kept from one request to the next,
which is why isolation of callers comes down to isolation of buckets.
-/

namespace SreAgent.Gateway

open Ratelimit (TokenBucketLimiter)

/-! ## Bytes

Header values are bytes. Lower case is of ASCII, and Latin-1 reads each byte as the character of
that number. -/

abbrev Bytes := List UInt8

/-- `b"..."` of an ASCII literal. -/
def ascii (s : String) : Bytes := s.toList.map fun c => UInt8.ofNat c.toNat

/-- `bytes.lower`, which only maps ASCII capitals. -/
def lowerBytes (b : Bytes) : Bytes := b.map fun c => if 65 ≤ c ∧ c ≤ 90 then c + 32 else c

/-- `bytes.decode("latin-1")`. -/
def latin1 (b : Bytes) : List Char := b.map fun c => Char.ofNat c.toNat

/-! ## Requests and replies

`base` stands for the server behind the gateway, whatever it answers; the gateway's own replies are
JSON with a status. -/

/-- What the gateway reads of an ASGI scope. -/
structure Scope where
  type    : String := "http"
  path    : String := ""
  headers : List (Bytes × Bytes) := []

/-- A request, the library that checks its token and `time.monotonic()` when its turn comes. -/
structure Arrival where
  scope : Scope
  jwt   : PyJwt
  now   : ℚ

inductive Reply where
  | json (status : Nat) (body : List (String × String)) (headers : List (String × String))
  | base                            -- `await base(scope, receive, send)`
  deriving DecidableEq, Repr

def unauthorized (msg : String) : Reply := .json 401 [("error", msg)] []

def rateLimited : Reply := .json 429 [("error", "rate limit exceeded")] [("Retry-After", "1")]

/-- The probes and the metrics need no token. -/
def publicPaths : List String := ["/healthz", "/readyz", "/metrics"]

/-- The value of the first `Authorization` header, or `b""`. -/
def Scope.authorization (scope : Scope) : Bytes :=
  match scope.headers.find? fun kv => lowerBytes kv.1 == ascii "authorization" with
  | some kv => kv.2
  | none    => []

/-- `gateway`, branch by branch. -/
def gateway (settings : Settings) (limiter : TokenBucketLimiter) (a : Arrival) :
    Reply × TokenBucketLimiter :=
  if a.scope.type ≠ "http" ∨ a.scope.path ∈ publicPaths then
    (.base, limiter)
  else
    let auth := a.scope.authorization
    if lowerBytes (auth.take 7) ≠ ascii "bearer " then
      (unauthorized "missing bearer token", limiter)
    else
      let token := String.ofList (Py.strip (latin1 (auth.drop 7)))
      match verifyBearerToken a.jwt token settings with
      | .error (.authError msg) => (unauthorized msg, limiter)
      | .error _                => (unauthorized "token validation failed", limiter)
      | .ok principal           =>
        match limiter.allow { principal := principal.subject, now := a.now } with
        | (true, limiter)  => (.base, limiter)
        | (false, limiter) => (rateLimited, limiter)

/-- `build_limiter` without a Redis URL. -/
def buildLimiter (settings : Settings) : TokenBucketLimiter :=
  Ratelimit.fresh settings.ratelimitRate settings.ratelimitBurst

/-- The gateway, one request a step. -/
def app (settings : Settings) : Machine TokenBucketLimiter Arrival Reply where
  step := gateway settings

/-- A sequence of requests to a gateway just started, each with its reply. Requests are taken one
after the other, as the lock of the limiter takes them. -/
def serve (settings : Settings) (arrivals : List Arrival) : List (Arrival × Reply) :=
  (app settings).trace (buildLimiter settings) arrivals

/-! ## The three kinds of requests

What is decided before the limiter depends on the request alone. Splitting this off once leaves one
equation (`gateway_eq`) through which all later modules go. -/

/-- What the gateway makes of a request before it looks at the limiter. -/
inductive Standing where
  | open_                           -- public, or no HTTP
  | refused (msg : String)
  | caller (subject : String)

/-- Whatever the token check raises becomes the text of a 401. -/
def refusal : Exc → String
  | .authError msg => msg
  | _              => "token validation failed"

/-- The checks of the gateway up to the limiter. -/
def standing (settings : Settings) (a : Arrival) : Standing :=
  if a.scope.type ≠ "http" ∨ a.scope.path ∈ publicPaths then
    .open_
  else if lowerBytes (a.scope.authorization.take 7) ≠ ascii "bearer " then
    .refused "missing bearer token"
  else
    match verifyBearerToken a.jwt
        (String.ofList (Py.strip (latin1 (a.scope.authorization.drop 7)))) settings with
    | .error e      => .refused (refusal e)
    | .ok principal => .caller principal.subject

/-- **The gateway, by kind of request.** Only a verified caller touches the limiter, and only in
its own name. -/
theorem gateway_eq (settings : Settings) (limiter : TokenBucketLimiter) (a : Arrival) :
    gateway settings limiter a =
      match standing settings a with
      | .open_          => (.base, limiter)
      | .refused msg    => (unauthorized msg, limiter)
      | .caller subject =>
        ((if (limiter.allow { principal := subject, now := a.now }).1 then .base else rateLimited),
          (limiter.allow { principal := subject, now := a.now }).2) := by
  unfold gateway standing
  split
  · rfl
  · dsimp only
    split
    · rfl
    · split
      · -- an error of authentication has its message in the answer
        next msg h => rw [h]; rfl
      · -- any other exception is answered with a fixed one
        next e hne h =>
        rw [h]
        cases e with
        | authError msg => exact absurd rfl (hne msg)
        | _ => rfl
      · next principal h =>
        rw [h]
        dsimp only
        split
        · next l hl => rw [hl]; rfl
        · next l hl => rw [hl]; rfl

/-- The subject whose token came with the request; none for a public path, and none for a token that
does not verify. -/
def Arrival.subject (settings : Settings) (a : Arrival) : Option String :=
  match standing settings a with
  | .caller subject => some subject
  | _               => none

/-- The request needed a token and brought none that verifies: the gateway answers it with a 401,
before the limiter is asked. -/
def Arrival.FailsAuth (settings : Settings) (a : Arrival) : Prop :=
  ∃ msg, standing settings a = .refused msg

end SreAgent.Gateway
