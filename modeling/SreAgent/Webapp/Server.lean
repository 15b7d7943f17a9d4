import SreAgent.Lib.Machine
import SreAgent.Webapp.Auth

/-!
# The dashboard server

The login routes of `webapp/server.py` and the middleware `session_auth` in front of them. A request
comes with what the outside world answers while it is handled: the clock, the random strings and
the identity provider. The routes behind the login set no cookie and read none, so what they answer
is left open.

The middleware runs before the routes and decides whether they are reached. On the public paths it
does not look at the request, so what a route there answers is its own affair.
-/

namespace SreAgent.Webapp

open Py (Json)

inductive ScopeType where
  | http
  | websocket
  | lifespan
  deriving DecidableEq, Repr

/-- The ASGI scope (header values decoded as Latin-1), the query and the transaction cookie as
Starlette parses them for the callback, and the world around the request. -/
structure Request where
  type     : ScopeType := .http
  method   : String := "GET"
  path     : String
  headers  : List (String × String) := []
  code     : Option String := none
  state    : Option String := none
  txCookie : Option String := none
  now      : Time
  answered : Time
  secrets  : LoginSecrets
  idp      : Idp

def publicPaths : List String := ["/healthz", "/auth/login", "/auth/callback", "/auth/logout"]

/-! ## Routes

The two routes of the login set cookies, the one to log out deletes them, and the others do neither. -/

/-- A `Set-Cookie` header; all of them are `HttpOnly` and `SameSite=Lax`. -/
structure SetCookie where
  name   : String
  value  : String
  maxAge : Nat
  secure : Bool
  deriving DecidableEq, Repr

/-- What the inner app answers. `other` sets no cookies: a page, an API answer, 404 or 405. -/
inductive Answer where
  | redirect (location : String) (cookies : List SetCookie) (deleted : List String)
  | loginFailed (e : Exc)
  | raised (e : Exc)
  | other

/-- `cfg.base_url.startswith("https")`. -/
def AuthConfig.secure (self : AuthConfig) : Bool := Py.startsWith self.baseUrl "https"

def authLogin (cfg : AuthConfig) (disco : Option Discovery) (req : Request) :
    Answer × Option Discovery :=
  if !cfg.enabled then (.redirect "/" [] [], disco)
  else
    match beginLogin cfg req.idp disco req.secrets req.answered with
    | (.ok (url, tx), disco) => (.redirect url [⟨TX_COOKIE, tx, 600, cfg.secure⟩] [], disco)
    | (.error e, disco)      => (.raised e, disco)

def authCallback (cfg : AuthConfig) (disco : Option Discovery) (req : Request) :
    Answer × Option Discovery :=
  match req.code with
  | none      => (.loginFailed (.keyError (Py.repr "code")), disco)
  | some code =>
    match completeLogin cfg req.idp disco code (req.state.getD "") req.txCookie req.now req.answered with
    | (.ok session, disco) =>
      (.redirect "/" [⟨SESSION_COOKIE, sign session cfg.secretKey, SESSION_TTL, cfg.secure⟩] [TX_COOKIE],
        disco)
    | (.error e, disco) => (.loginFailed e, disco)

/-- The routes. A route answers GET and HEAD. -/
def app (cfg : AuthConfig) (disco : Option Discovery) (req : Request) :
    Answer × Option Discovery :=
  if req.type != .http || !(req.method == "GET" || req.method == "HEAD") then (.other, disco)
  else if req.path = "/auth/login" then authLogin cfg disco req
  else if req.path = "/auth/callback" then authCallback cfg disco req
  else if req.path = "/auth/logout" then (.redirect "/" [] [SESSION_COOKIE], disco)
  else (.other, disco)

/-! ## Middleware

The header is parsed by hand in the source, so its parsing is modelled as it is: the first header of
the name counts, and in it the last cookie. -/

/-- One part of a `Cookie` header: the name, stripped, and the value as it stands. -/
def cookiePair (part : List Char) : Option (String × String) :=
  if '=' ∈ part then
    some (String.ofList (Py.strip (part.takeWhile (· != '='))),
      String.ofList ((part.dropWhile (· != '=')).drop 1))  -- the value is not stripped
  else none

/-- `_cookies`, for one name: the first `Cookie` header counts, and in it the last cookie of the
name. -/
def cookie (headers : List (String × String)) (name : String) : Option String :=
  match headers.find? fun kv => kv.1 == "cookie" with
  | none          => none
  | some (_, value) =>
    (((Py.splitOn ';' value.toList).filterMap cookiePair).reverse.find? fun kv => kv.1 == name).map
      Prod.snd

/-- The cookie `session_auth` looks at. -/
def Request.session (self : Request) : Option String := cookie self.headers SESSION_COOKIE

/-- What the middleware does with a request: forward it, with the user if it found one, or answer
it itself. -/
inductive Reply where
  | forwarded (user : Option Payload) (answer : Answer)
  | authenticationRequired
  | toLogin
  | raised (e : Exc)

def sessionAuth (cfg : AuthConfig) (disco : Option Discovery) (req : Request) :
    Reply × Option Discovery :=
  let forward (user : Option Payload) : Reply × Option Discovery :=
    let (answer, disco) := app cfg disco req
    (.forwarded user answer, disco)
  if req.type ≠ .http ∨ cfg.enabled = false then forward none
  else if req.path ∈ publicPaths then forward none
  else
    match unsign req.session cfg.secretKey req.now with
    | .error e => (.raised e, disco)  -- nothing around `unsign` catches it
    | .ok user =>
      if user.any (!·.isEmpty) then forward user
      else if Py.startsWith req.path "/api/" then (.authenticationRequired, disco)
      else (.toLogin, disco)

/-- The running server; its state is the discovery document it has fetched. -/
def dashboard (cfg : AuthConfig) : Machine (Option Discovery) Request Reply where
  step := sessionAuth cfg

end SreAgent.Webapp
