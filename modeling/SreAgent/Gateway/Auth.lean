import SreAgent.Config
import SreAgent.Lib.Json

/-!
# Inbound authentication

The half of `auth.py` that turns a bearer token into a `Principal`. PyJWT and its JWKS client are
not part of the repository: `PyJwt` is what the code takes from them while it checks one token, so a
key fetch may fail for one request and succeed for the next.

Everything PyJWT does is a parameter, signature and time checks included. What is embedded is what
the repository does around it: which key is asked for, what is demanded of the token, and the policy
on its claims.
-/

namespace SreAgent.Gateway

open Py (Json)

/-- The claims of a decoded token that `authorize_claims` reads. `sub` is a string where it is
present. -/
structure Claims where
  sub    : Option String := none
  groups : Option Json := none
  roles  : Option Json := none
  tid    : Option Json := none

/-- The library during the check of one token; every call may raise. -/
structure PyJwt where
  installed  : Bool := true
  signingKey : (jwksUri token : String) → Except Exc String
  decode     : (token key : String) → (algorithms : List String) → (audience : Option String) →
    (issuer : String) → (require : List String) → Except Exc Claims

/-- A verified caller. -/
structure Principal where
  subject : String
  groups  : Json
  tenant  : Option Json

/-- `v or w`. -/
def orElse (v w : Json) : Json := if v.truthy then v else w

/-- The strings in `set(v)`, which is all an intersection with a set of strings can meet. Only
lists of hashable items, objects and strings can be made a set. -/
def setOfStrings : Json → Except Exc (List String)
  | .arr items =>
    if items.any fun v => match v with | .arr _ | .obj _ => true | _ => false then
      .error .typeError
    else
      .ok (items.filterMap fun v => match v with | .str s => some s | _ => none)
  | .obj members => .ok (members.map Prod.fst)
  | .str s       => .ok (s.toList.map fun c => String.ofList [c])
  | .null | .bool _ | .num _ => .error .typeError

/-- `authorize_claims`: the policy on already validated claims. -/
def authorizeClaims (claims : Claims) (settings : Settings) : Except Exc Principal := do
  let groups := orElse (claims.groups.getD (.arr [])) (claims.roles.getD (.arr []))
  let required := commaSet settings.oidcRequiredGroups
  if required ≠ [] then
    let held ← setOfStrings groups
    if !(required.any held.contains) then
      throw (.authError ("caller lacks required group(s): " ++
        Py.reprList (Py.sortedSet required)))
  return { subject := claims.sub.getD "unknown", groups, tenant := claims.tid }

/-- `verify_bearer_token`: without an issuer nobody is let in. The algorithm is fixed, so a token
cannot choose its own. -/
def verifyBearerToken (jwt : PyJwt) (token : String) (settings : Settings) :
    Except Exc Principal := do
  if !jwt.installed then
    throw (.authError "pyjwt is required for HTTP-transport auth")
  if settings.oidcIssuer = "" then
    throw (.authError "OIDC_ISSUER not configured; refusing unauthenticated HTTP access")
  -- `settings.oidc_issuer.rstrip("/")`, so that a configured slash does no harm
  let jwks := String.ofList (Py.rstrip '/' settings.oidcIssuer.toList) ++ "/discovery/v2.0/keys"
  let signingKey ← jwt.signingKey jwks token
  let audience := if settings.oidcAudience = "" then none else some settings.oidcAudience
  let claims ← jwt.decode token signingKey ["RS256"] audience settings.oidcIssuer
    ["exp", "iss", "aud"]
  authorizeClaims claims settings

end SreAgent.Gateway
