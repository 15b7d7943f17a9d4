import SreAgent.Errors
import SreAgent.Lib.Base64
import SreAgent.Lib.Json
import SreAgent.Lib.Sha256

/-!
# Browser login

`webapp/auth.py`: signed cookies, and the two halves of the OIDC login. The identity provider and
the JWT library are not part of the repository; `Idp` is what the code takes from them.

A cookie is a body, a point and a code of the body under a secret of the server. Two kinds of
payload are signed with the same secret, the transaction of a login that has begun and the session
of one that is completed, and nothing in a token says which it is. What follows from that is in
`SreAgent.Webapp.LoginSafety`.
-/

namespace SreAgent.Webapp

open Py (Json)

def SESSION_COOKIE : String := "sre_session"

def TX_COOKIE : String := "sre_oidc_tx"

def SESSION_TTL : Nat := 8 * 3600

structure AuthConfig where
  issuer         : String
  clientId       : String
  clientSecret   : String
  baseUrl        : String
  requiredGroups : List String
  secretKey      : List UInt8

def AuthConfig.enabled (self : AuthConfig) : Bool := self.issuer != "" && self.clientId != ""

def AuthConfig.redirectUri (self : AuthConfig) : String :=
  String.ofList (Py.rstrip '/' self.baseUrl.toList) ++ "/auth/callback"

/-! ## Time

The clock of Python is a float, and what is written into a cookie is its `repr`, with all digits. So
a time is modelled by its digits: what was written is read back as the same number. -/

/-- A reading of `time.time()`, as `repr` shows it. Adding whole seconds is exact: below 2³¹ they
are multiples of the spacing of the floats. -/
structure Time where
  seconds  : Nat
  fraction : List (Fin 10)
  nonempty : fraction ≠ []

def Time.ofSeconds (n : Nat) : Time where
  seconds := n
  fraction := [⟨0, Nat.zero_lt_succ 9⟩]
  nonempty := List.cons_ne_nil _ []

def Time.value (t : Time) : ℚ := t.seconds + Py.fractionValue t.fraction

def Time.add (t : Time) (n : Nat) : Time := { t with seconds := t.seconds + n }

def Time.json (t : Time) : Json := .num { whole := t.seconds, fraction := t.fraction }

/-- Adding seconds leaves the digits behind the point. -/
theorem Time.value_add (t : Time) (n : Nat) : (t.add n).value = t.value + n := by
  simp only [Time.value, Time.add, Nat.cast_add]
  exact add_right_comm _ _ _

/-- The number a time is written as has its value. -/
theorem Time.json_value (t : Time) :
    Py.Number.value { whole := t.seconds, fraction := t.fraction } = t.value := by
  simp [Py.Number.value, Time.value]

/-! ## Signed cookies

The functions are those of the source, one for one, with its exceptions. `expired` compares whatever
stands under `exp` with a float, and Python raises on a string or on nothing. -/

abbrev Payload := List (String × Json)

/-- `s.encode()`. -/
def encode (s : String) : List UInt8 := s.toUTF8.data.toList

/-- `raw.decode()`. -/
def decode (raw : List UInt8) : Option String := String.fromUTF8? ⟨raw.toArray⟩

/-- `s.isascii()`. -/
def isAscii (s : String) : Bool := s.toList.all (·.toNat < 128)

def b64 (raw : List UInt8) : String := String.ofList (Py.rstrip '=' (Base64.urlsafeEncode raw))

/-- `_unb64`. `none` is a `ValueError`. -/
def unb64 (s : String) : Option (List UInt8) :=
  if isAscii s then Base64.urlsafeDecode (s.toList ++ Base64.padding s.toList.length) else none

/-- `json.loads` on UTF-8, which is what `sign` writes. `none` is a `ValueError`. On bytes of another
origin the module may do something else; `JsonModule` stands for whatever it does. -/
def loadsBytes (raw : List UInt8) : Option Json := (decode raw).bind fun s => Py.loads s.toList

/-- `json.dumps(payload, separators=(",", ":"))`, where it does not raise (`Json.refusal`). -/
def dumpsPayload (payload : Payload) : String := String.ofList (Json.dumps [] (.obj payload))

def signature (secret : List UInt8) (body : String) : String :=
  b64 (Sha256.hmac secret (encode body))

/-- `sign`, of a payload that `json.dumps` writes. `signWith` has its failures too. -/
def sign (payload : Payload) (secret : List UInt8) : String :=
  let body := b64 (encode (dumpsPayload payload))
  body ++ "." ++ signature secret body

/-- `hmac.compare_digest` on strings. -/
def compareDigest (a b : String) : Except Exc Bool :=
  if isAscii a && isAscii b then .ok (a == b) else .error .typeError

/-- `payload.get("exp", 0) < time.time()`. -/
def expired (payload : Payload) (now : Time) : Except Exc Bool :=
  match Py.member payload "exp" with
  | none           => .ok (0 < now.value)  -- without a deadline the default 0 has passed
  | some (.num n)  => .ok (n.value < now.value)
  | some (.bool b) => .ok ((if b then 1 else 0) < now.value)  -- a bool is an int to Python
  | some _         => .error .typeError

/-- Under `exp` stands the time it expires at. -/
theorem expired_num {payload : Payload} {t : Time} (h : Py.member payload "exp" = some t.json)
    (now : Time) : expired payload now = .ok (t.value < now.value) := by
  rw [expired, h, Time.json]
  dsimp only
  rw [Time.json_value]

/-- `token.partition(".")`, without the point. -/
def partitionDot (token : String) : String × String :=
  (String.ofList (token.toList.takeWhile (· != '.')),
    String.ofList ((token.toList.dropWhile (· != '.')).drop 1))

/-- The part of `unsign` behind the signature. -/
def readBody (body : String) (now : Time) : Except Exc (Option Payload) :=
  match (unb64 body).bind loadsBytes with
  | none => .ok none  -- `except (ValueError, json.JSONDecodeError)`, around the decoding only
  | some (.obj payload) => (expired payload now).map fun old => if old then none else some payload
  -- what is no object has no `.get`, and this is outside of the `try`
  | some _ => .error (.attributeError "object has no attribute 'get'")

def unsign (token : Option String) (secret : List UInt8) (now : Time) :
    Except Exc (Option Payload) :=
  match token with
  | none => .ok none
  | some token =>
    if token = "" ∨ '.' ∉ token.toList then .ok none
    else
      let (body, sig) := partitionDot token
      match compareDigest sig (signature secret body) with
      | .error e   => .error e  -- `compare_digest` is called outside of the `try`
      | .ok false  => .ok none
      | .ok true   => readBody body now

/-! ## The identity provider

Three answers of the outside world, each of which may be an exception. The checks that a JWT library
makes are its own: what it returns are the claims of a token it accepts. -/

/-- The discovery document; a key may be missing. -/
structure Discovery where
  authorizationEndpoint : Option String
  tokenEndpoint         : Option String
  jwksUri               : Option String

/-- The calls the login makes: the discovery document, the token endpoint (the `id_token` of its
answer), and the signing key together with `jwt.decode`, which verifies signature, audience and
issuer. Any of them may raise. -/
structure Idp where
  discovery : Except Exc Discovery
  token     : (endpoint : String) → (data : List (String × String)) → Except Exc (Option String)
  decode    : (jwksUri idToken audience issuer : String) → Except Exc Payload

/-- `discover`: the document is fetched once. -/
def discover (idp : Idp) (disco : Option Discovery) : Except Exc Discovery × Option Discovery :=
  match disco with
  | some d => (.ok d, disco)
  | none   =>
    match idp.discovery with
    | .ok d    => (.ok d, some d)
    | .error e => (.error e, none)  -- a failure is not remembered

/-- `d[key]`. -/
def required {α : Type} (key : String) : Option α → Except Exc α
  | some a => .ok a
  | none   => .error (.keyError (Py.repr key))

/-- `tx[key]`. `begin_login` signs strings. -/
def requiredText (tx : Payload) (key : String) : Except Exc String :=
  match Py.member tx key with
  | some (.str s) => .ok s
  | some _        => .error .typeError
  | none          => .error (.keyError (Py.repr key))

/-! ## begin_login

Three random strings are made. They go to the provider in the URL, the verifier as its digest only,
and they stay with the browser in the transaction cookie. -/

/-- `secrets.token_urlsafe`, three times. -/
structure LoginSecrets where
  state    : String
  nonce    : String
  verifier : String

def quotePlus (s : String) : String :=
  String.ofList <| (encode s).flatMap fun b =>
    let c := Char.ofNat b.toNat
    if c.isAlphanum || c == '_' || c == '.' || c == '-' || c == '~' then [c]
    else if c == ' ' then ['+']
    else ['%', (Py.hexDigit (b.toNat / 16)).toUpper, (Py.hexDigit (b.toNat % 16)).toUpper]

def urlencode (params : List (String × String)) : String :=
  Py.join "&" (params.map fun kv => quotePlus kv.1 ++ "=" ++ quotePlus kv.2)

/-- The payload of the login transaction. -/
def txPayload (secrets : LoginSecrets) (now : Time) : Payload :=
  [("state", .str secrets.state), ("nonce", .str secrets.nonce), ("verifier", .str secrets.verifier),
   ("exp", (now.add 600).json)]

/-- `begin_login`: the URL to send the browser to, and the transaction cookie. -/
def beginLogin (cfg : AuthConfig) (idp : Idp) (disco : Option Discovery) (secrets : LoginSecrets)
    (now : Time) : Except Exc (String × String) × Option Discovery :=
  let (found, disco) := discover idp disco
  (do
    let found ← found
    let endpoint ← required "authorization_endpoint" found.authorizationEndpoint
    let params :=
      [("response_type", "code"), ("client_id", cfg.clientId), ("redirect_uri", cfg.redirectUri),
       ("scope", "openid profile email"), ("state", secrets.state), ("nonce", secrets.nonce),
       ("code_challenge", b64 (Sha256.digest (encode secrets.verifier))),
       ("code_challenge_method", "S256")]
    pure (endpoint ++ "?" ++ urlencode params, sign (txPayload secrets now) cfg.secretKey), disco)

/-! ## complete_login

The transaction comes back with the browser and the code with the URL. The state ties the two
together, the nonce ties them to the token. The groups are checked last, before the session is made. -/

def validateIdToken (cfg : AuthConfig) (idp : Idp) (idToken jwksUri nonce : String) :
    Except Exc Payload := do
  let claims ← idp.decode jwksUri idToken cfg.clientId cfg.issuer
  let fits := match Py.member claims "nonce" with
    -- `claims.get("nonce") not in (nonce, None)`: no nonce is as good as the right one
    | none | some .null => true
    | some (.str s)     => s == nonce
    | some _            => false
  if nonce != "" && !fits then throw (.permissionError "id_token nonce mismatch")
  pure claims

/-- `a or b`, for values that may be missing. -/
def orMember (a b : Option Json) : Option Json :=
  match a with
  | some v => if v.truthy then a else b
  | none   => b

/-- `claims.get("groups") or claims.get("roles") or []`. -/
def groupsOf (claims : Payload) : Json :=
  (orMember (orMember (Py.member claims "groups") (Py.member claims "roles")) (some (.arr []))).getD .null

/-- The strings in `set(groups)`. -/
def setOf : Json → Except Exc (List String)
  | .arr items =>
    -- an unhashable item
    if items.any fun v => match v with | .arr _ | .obj _ => true | _ => false then .error .typeError
    else .ok (items.filterMap fun v => match v with | .str s => some s | _ => none)
  | .str s       => .ok (s.toList.map fun c => String.ofList [c])
  | .obj members => .ok (members.map Prod.fst)
  | _            => .error .typeError

/-- The check of the required groups. -/
def checkGroups (cfg : AuthConfig) (groups : Json) : Except Exc Unit :=
  if cfg.requiredGroups.isEmpty then .ok ()
  else
    match setOf groups with
    | .error e => .error e
    | .ok names =>
      if cfg.requiredGroups.any names.contains then .ok ()
      else .error (.permissionError "user is not in a required group")

def sessionPayload (claims : Payload) (now : Time) : Payload :=
  let claim (key : String) := Py.member claims key
  [("sub", (claim "sub").getD .null),
   ("name", (orMember (orMember (orMember (claim "name") (claim "preferred_username"))
     (claim "email")) (claim "sub")).getD .null),
   ("groups", groupsOf claims),
   ("exp", (now.add SESSION_TTL).json)]

/-- The transaction behind the cookie, if it is the one of `state`. -/
def checkTx (cfg : AuthConfig) (state : String) (txCookie : Option String) (now : Time) :
    Except Exc Payload := do
  let invalid : Exc := .permissionError "invalid or expired login state"
  match ← unsign txCookie cfg.secretKey now with
  | none => throw invalid
  | some tx =>
    if tx.isEmpty then throw invalid  -- `not tx`
    let signed ← match Py.member tx "state" with
      -- a session, say: its state is the empty string
      | none          => pure ""
      | some (.str s) => pure s
      | some _        => throw .typeError
    if !(← compareDigest signed state) then throw invalid
    pure tx

/-- From the code to the session. -/
def redeem (cfg : AuthConfig) (idp : Idp) (found : Discovery) (code : String) (tx : Payload)
    (now : Time) : Except Exc Payload := do
  -- the keys are looked up in the order in which the source needs them
  let endpoint ← required "token_endpoint" found.tokenEndpoint
  let verifier ← requiredText tx "verifier"
  let answer ← idp.token endpoint
    [("grant_type", "authorization_code"), ("code", code), ("redirect_uri", cfg.redirectUri),
     ("client_id", cfg.clientId), ("client_secret", cfg.clientSecret), ("code_verifier", verifier)]
  let idToken ← required "id_token" answer
  let jwksUri ← required "jwks_uri" found.jwksUri
  let nonce ← requiredText tx "nonce"
  let claims ← validateIdToken cfg idp idToken jwksUri nonce
  checkGroups cfg (groupsOf claims)
  pure (sessionPayload claims now)

/-- `complete_login`. The clock is read for the transaction at `now` and for the session at
`answered`. -/
def completeLogin (cfg : AuthConfig) (idp : Idp) (disco : Option Discovery) (code state : String)
    (txCookie : Option String) (now answered : Time) : Except Exc Payload × Option Discovery :=
  match checkTx cfg state txCookie now with
  | .error e => (.error e, disco)
  | .ok tx   =>
    let (found, disco) := discover idp disco
    (found.bind fun found => redeem cfg idp found code tx answered, disco)

end SreAgent.Webapp
