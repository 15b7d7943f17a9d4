import SreAgent.Webapp.LoginSafety

/-!
# Whose login is completed

A login is begun with a cookie, a state and a nonce, and `complete_login` is to bring the three together
with an `id_token` again, whoever else logs in meanwhile. An `id_token` without a nonce is let through; any
other has the nonce of the login (`loginBound`).

Logins of different people run through one server, and their callbacks may come in any order.
Nothing about them is stored on the server: all of it is in the cookie of the transaction, under the
signature.
-/

namespace SreAgent.Webapp

open Py (Json)

variable {cfg : AuthConfig}

/-! ## Completed logins

A login is completed by one call. What it accepts are claims, and whether they belong to the login
that began with this cookie is what `LoginBound` asks. How they have to belong is a parameter, so
that the same statement can be made with a nonce or with a nonce if any. -/

/-- `complete_login` from the code to the claims of the `id_token` it accepts. -/
def acceptedClaims (cfg : AuthConfig) (idp : Idp) (found : Discovery) (code : String) (tx : Payload) :
    Except Exc Payload := do
  let endpoint ← required "token_endpoint" found.tokenEndpoint
  let verifier ← requiredText tx "verifier"
  let answer ← idp.token endpoint
    [("grant_type", "authorization_code"), ("code", code), ("redirect_uri", cfg.redirectUri),
     ("client_id", cfg.clientId), ("client_secret", cfg.clientSecret), ("code_verifier", verifier)]
  let idToken ← required "id_token" answer
  let jwksUri ← required "jwks_uri" found.jwksUri
  let nonce ← requiredText tx "nonce"
  validateIdToken cfg idp idToken jwksUri nonce

/-- What a session is made of. -/
theorem redeem_eq (idp : Idp) (found : Discovery) (code : String) (tx : Payload) (now : Time) :
    redeem cfg idp found code tx now = (do
      let claims ← acceptedClaims cfg idp found code tx
      checkGroups cfg (groupsOf claims)
      pure (sessionPayload claims now)) := by
  unfold redeem acceptedClaims
  simp only [bind_assoc]

/-- The call of `complete_login` for a request. -/
def completion (cfg : AuthConfig) (req : Request) (disco : Option Discovery) (code : String) :
    Except Exc Payload :=
  (completeLogin cfg req.idp disco code (req.state.getD "") req.txCookie req.now req.answered).1

/-- In this call the claims are accepted. -/
def Accepts (cfg : AuthConfig) (req : Request) (disco : Option Discovery) (code : String)
    (claims : Payload) : Prop :=
  ∃ tx found, checkTx cfg (req.state.getD "") req.txCookie req.now = .ok tx ∧
    (discover req.idp disco).1 = .ok found ∧ acceptedClaims cfg req.idp found code tx = .ok claims

/-- The request presents cookie and state of the login that `e` began. -/
structure Presents (req : Request) (e : Entry) : Prop where
  cookie : ∃ token, e.2.Sets TX_COOKIE token ∧ req.txCookie = some token
  state  : req.state.getD "" = e.1.secrets.state

/-- The claims carry the nonce. -/
def Carried (claims : Payload) (nonce : String) : Prop := Py.member claims "nonce" = some (.str nonce)

/-- The claims carry the nonce or none. -/
def CarriedIfAny (claims : Payload) (nonce : String) : Prop :=
  Carried claims nonce ∨ Py.member claims "nonce" = none ∨ Py.member claims "nonce" = some .null

/-- The discovery document that the server has fetched in these requests. -/
def fetched (cfg : AuthConfig) (before : List Entry) : Option Discovery :=
  (dashboard cfg).final none (before.map Prod.fst)

/-- Whatever login is completed is one that was begun, and the claims it accepts fit its nonce.
Requests may come in any order, from any number of browsers at once. -/
def LoginBound (Fits : Payload → String → Prop) (cfg : AuthConfig) (run : List Entry) : Prop :=
  ∀ before req reply after, run = before ++ (req, reply) :: after →
    ∀ code session, req.code = some code → completion cfg req (fetched cfg before) code = .ok session →
      ∃ e ∈ before, ∃ claims, Presents req e ∧ Accepts cfg req (fetched cfg before) code claims ∧
        Fits claims e.1.secrets.nonce

/-! ## One call

What each check of the code establishes, taken apart: the state equals the one under the signature,
and a nonce that is there equals the one under the signature too. -/

/-- The state comes back as it was signed. -/
theorem sameState_ok {signed state : String} {found tx : Payload} (h : (do
      if !(← compareDigest signed state) then
        throw (.permissionError "invalid or expired login state")
      pure found : Except Exc Payload) = .ok tx) : signed = state ∧ tx = found := by
  obtain ⟨same, hsame, h⟩ := bind_ok h
  split at h
  · cases h
  · next hequal =>
    rw [Bool.not_eq_true', Bool.not_eq_false] at hequal
    exact ⟨eq_of_compareDigest (hequal ▸ hsame), (Except.ok.inj h).symm⟩

/-- A transaction that passes was unsigned, and its state is that of the request. -/
theorem checkTx_ok {state : String} {txCookie : Option String} {now : Time} {tx : Payload}
    (h : checkTx cfg state txCookie now = .ok tx) :
    unsign txCookie cfg.secretKey now = .ok (some tx) ∧
      ∀ signed, Py.member tx "state" = some (.str signed) → signed = state := by
  unfold checkTx at h
  obtain ⟨found, hunsign, h⟩ := bind_ok h
  cases found with
  | none => cases h
  | some found =>
      dsimp only at h
      split at h
      · cases h
      · cases hmember : Py.member found "state" with
        | none =>  -- a payload without a state: it was compared as the empty string
            rw [hmember] at h
            obtain ⟨-, rfl⟩ := sameState_ok h
            refine ⟨hunsign, fun signed hsigned => ?_⟩
            rw [hmember] at hsigned
            cases hsigned
        | some v =>
            rw [hmember] at h
            cases v with
            | str text =>
                obtain ⟨hsame, rfl⟩ := sameState_ok h
                refine ⟨hunsign, fun signed hsigned => ?_⟩
                obtain rfl := Json.str.inj (Option.some.inj (hmember.symm.trans hsigned))
                exact hsame
            | _ => cases h

/-- Accepted claims went through the check of the nonce in the transaction, which returns what it
was given, if it fits, and lets a token without a nonce pass. -/
theorem acceptedClaims_ok {idp : Idp} {found : Discovery} {code : String} {tx claims : Payload}
    (h : acceptedClaims cfg idp found code tx = .ok claims) :
    ∃ verifier nonce idToken jwksUri, requiredText tx "verifier" = .ok verifier ∧
      requiredText tx "nonce" = .ok nonce ∧
        validateIdToken cfg idp idToken jwksUri nonce = .ok claims := by
  unfold acceptedClaims at h
  obtain ⟨endpoint, -, h⟩ := bind_ok h
  obtain ⟨verifier, hverifier, h⟩ := bind_ok h
  obtain ⟨answer, -, h⟩ := bind_ok h
  obtain ⟨idToken, -, h⟩ := bind_ok h
  obtain ⟨jwksUri, -, h⟩ := bind_ok h
  obtain ⟨nonce, hnonce, h⟩ := bind_ok h
  exact ⟨verifier, nonce, idToken, jwksUri, hverifier, hnonce, h⟩

theorem nonceCheck_ok {nonce : String} {fits : Bool} {decoded claims : Payload} (h : (do
      if nonce != "" && !fits then throw (.permissionError "id_token nonce mismatch")
      pure decoded : Except Exc Payload) = .ok claims) :
    decoded = claims ∧ (nonce ≠ "" → fits = true) := by
  split at h
  · cases h
  · next hfits =>
    refine ⟨Except.ok.inj h, fun hnonce => ?_⟩
    rwa [bne_iff_ne.mpr hnonce, Bool.true_and, Bool.not_eq_true', Bool.not_eq_false] at hfits

theorem validateIdToken_ok {idp : Idp} {idToken jwksUri nonce : String} {claims : Payload}
    (h : validateIdToken cfg idp idToken jwksUri nonce = .ok claims) :
    idp.decode jwksUri idToken cfg.clientId cfg.issuer = .ok claims ∧
      (nonce ≠ "" → CarriedIfAny claims nonce) := by
  unfold validateIdToken at h
  obtain ⟨decoded, hdecode, h⟩ := bind_ok h
  obtain ⟨rfl, hfits⟩ := nonceCheck_ok h
  refine ⟨hdecode, fun hnonce => ?_⟩
  have hfits := hfits hnonce
  unfold CarriedIfAny Carried
  -- the claims carry no nonce, a null one, the right one, or the check has failed
  cases hmember : Py.member decoded "nonce" with
  | none => exact .inr (.inl rfl)
  | some v =>
      rw [hmember] at hfits
      cases v with
      | null => exact .inr (.inr rfl)
      | str text => exact .inl (by rw [beq_iff_eq.mp hfits])
      | _ => cases hfits

/-- With a transaction and the provider's document, a login redeems its code. -/
theorem completion_eq {req : Request} {disco : Option Discovery} {tx : Payload} {found : Discovery}
    (htx : checkTx cfg (req.state.getD "") req.txCookie req.now = .ok tx)
    (hfound : (discover req.idp disco).1 = .ok found) (code : String) :
    completion cfg req disco code = redeem cfg req.idp found code tx req.answered := by
  unfold completion completeLogin
  rw [htx]
  dsimp only
  rw [hfound]
  rfl

/-- A completed login has accepted some claims. -/
theorem completion_ok {req : Request} {disco : Option Discovery} {code : String} {session : Payload}
    (h : completion cfg req disco code = .ok session) : ∃ claims, Accepts cfg req disco code claims ∧
      session = sessionPayload claims req.answered := by
  cases htx : checkTx cfg (req.state.getD "") req.txCookie req.now with
  | error e =>
      rw [completion, completeLogin, htx] at h
      cases h
  | ok tx =>
      cases hfound : (discover req.idp disco).1 with
      | error e =>
          rw [completion, completeLogin, htx] at h
          dsimp only at h
          rw [hfound] at h
          cases h
      | ok found =>
          rw [completion_eq htx hfound, redeem_eq] at h
          obtain ⟨claims, hclaims, h⟩ := bind_ok h
          obtain ⟨⟨⟩, -, h⟩ := bind_ok h
          exact ⟨claims, ⟨tx, found, htx, hfound, hclaims⟩, (Except.ok.inj h).symm⟩

/-! ## Runs

By `Unforged` a cookie that unsigns was issued in this run. It was issued as a transaction, because
a session has no verifier, and so some earlier request began the login. -/

/-- What is signed as a transaction and unsigned again binds the login to it. -/
theorem bound_of_tx {req : Request} {disco : Option Discovery} {code : String} {claims : Payload}
    {secrets : LoginSecrets} {begun : Time} (hnonce : secrets.nonce ≠ "")
    (htoken : req.txCookie = some (sign (txPayload secrets begun) cfg.secretKey))
    (h : Accepts cfg req disco code claims) :
    req.state.getD "" = secrets.state ∧ CarriedIfAny claims secrets.nonce := by
  obtain ⟨tx, found, htx, -, hclaims⟩ := h
  obtain ⟨hunsign, hstate⟩ := checkTx_ok htx
  rw [htoken] at hunsign
  -- the cookie is an issued transaction, so what it unsigns to is known
  obtain ⟨rfl, -⟩ := unsign_sign_some hunsign
  obtain ⟨verifier, nonce, idToken, jwksUri, -, hread, hvalid⟩ := acceptedClaims_ok hclaims
  obtain rfl : secrets.nonce = nonce := Except.ok.inj hread
  exact ⟨(hstate secrets.state rfl).symm, (validateIdToken_ok hvalid).2 hnonce⟩

/-- A session is no transaction: it has no verifier. -/
theorem not_accepts_session {req : Request} {disco : Option Discovery} {code : String} {claims : Payload}
    {claims' : Payload} {issued : Time}
    (htoken : req.txCookie = some (sign (sessionPayload claims' issued) cfg.secretKey)) :
    ¬ Accepts cfg req disco code claims := by
  rintro ⟨tx, found, htx, -, hclaims⟩
  obtain ⟨hunsign, -⟩ := checkTx_ok htx
  rw [htoken] at hunsign
  obtain ⟨rfl, -⟩ := unsign_sign_some hunsign
  obtain ⟨verifier, nonce, idToken, jwksUri, hverifier, -⟩ := acceptedClaims_ok hclaims
  -- a session has no verifier, and the code asks for one
  have hmissing : Py.member (sessionPayload claims' issued) "verifier" = none := rfl
  rw [requiredText, hmissing] at hverifier
  cases hverifier

/-- **A login is bound to its own transaction**, except for an `id_token` without a nonce. In every run in
which nobody forges a cookie, a completed login presents the cookie and the state of one that was begun,
and what it accepts carries the nonce of that one, or none. -/
theorem loginBound (cfg : AuthConfig) (reqs : List Request)
    (hunforged : Unforged cfg ((dashboard cfg).trace none reqs))
    (hnonce : ∀ req ∈ reqs, req.secrets.nonce ≠ "") :
    LoginBound CarriedIfAny cfg ((dashboard cfg).trace none reqs) := by
  intro before req reply after hrun code session hcode hsession
  obtain ⟨claims, haccepts, -⟩ := completion_ok hsession
  have hentries : ∀ e ∈ before ++ (req, reply) :: after, e ∈ (dashboard cfg).trace none reqs := by
    rw [hrun]
    exact fun e he => he
  obtain ⟨tx, found, htx, -⟩ := id haccepts  -- the cookie unsigns, so the server has issued it
  obtain ⟨token, htoken, hsigned⟩ := validlySigned_of_unsign (checkTx_ok htx).1
  have hissued := hunforged before req reply after hrun token (Or.inr htoken) hsigned
  obtain ⟨e, he, c, hc, rfl⟩ := mem_issued.mp hissued
  have hmem := hentries e (List.mem_append_left _ he)
  cases stands_of_mem hmem hc with
  | session claims' name value login =>
      rw [value] at htoken
      exact absurd haccepts (not_accepts_session htoken)
  | tx name value =>
      have hreq : e.1 ∈ reqs := by
        rw [← (dashboard cfg).map_fst_trace none reqs]
        exact List.mem_map_of_mem hmem
      obtain ⟨hstate, hcarried⟩ := bound_of_tx (hnonce e.1 hreq) (htoken.trans (by rw [value])) haccepts
      exact ⟨e, he, claims, ⟨⟨c.value, ⟨c, hc, name, rfl⟩, htoken⟩, hstate⟩, haccepts, hcarried⟩

/-! ## A token of another login

A provider need not put a nonce into its tokens. The code lets such a token pass, and then nothing
in it says which login it was issued for. -/

def namelessClaims : Payload := [("sub", .str "mallory"), ("groups", .arr [.str "sre"])]

/-- A provider that answers every code with an `id_token` that carries no nonce. -/
def namelessIdp : Idp where
  discovery := demoIdp.discovery
  token _ _ := .ok (some "id_token")
  decode _ _ _ _ := .ok namelessClaims

/-- The transaction of `demoLogin` comes back with its state, a minute later. -/
def namelessCallback : Request where
  path := "/auth/callback"
  code := some "code"
  state := some "state"
  txCookie := some demoTx
  now := .ofSeconds 60
  answered := .ofSeconds 60
  secrets := ⟨"state2", "nonce2", "verifier2"⟩
  idp := namelessIdp

/-- Nobody forges anything, and every login has a nonce. -/
theorem nameless_unforged :
    Unforged demoConfig ((dashboard demoConfig).trace none [demoLogin, namelessCallback]) := by
  apply demoLogin_unforged
  intro token htoken
  rcases htoken with h | h
  · cases h
  · exact (Option.some.inj h).symm

theorem nameless_nonces : ∀ req ∈ [demoLogin, namelessCallback], req.secrets.nonce ≠ "" := by
  simp [demoLogin, namelessCallback]

/-- The login is bound to its cookie and to its state all the same. -/
theorem loginBound_nameless :
    LoginBound CarriedIfAny demoConfig
      ((dashboard demoConfig).trace none [demoLogin, namelessCallback]) :=
  loginBound demoConfig _ nameless_unforged nameless_nonces

/-- The transaction comes back with its state. -/
theorem nameless_checkTx : checkTx demoConfig "state" (some demoTx) (.ofSeconds 60) =
    .ok (txPayload demoLogin.secrets demoLogin.answered) := by
  have hfresh : expired (txPayload demoLogin.secrets demoLogin.answered) (.ofSeconds 60) = .ok false := by
    rw [expired_txPayload, decide_eq_false]
    norm_num [demoLogin, Time.ofSeconds, Time.value, Py.fractionValue]
  unfold checkTx demoTx
  rw [unsign_fresh hfresh]
  rfl

/-- The `id_token` completes the login, and nothing says that it is of this one. -/
theorem nameless_completes :
    Unforged demoConfig ((dashboard demoConfig).trace none [demoLogin, namelessCallback]) ∧
      (∀ req ∈ [demoLogin, namelessCallback], req.secrets.nonce ≠ "") ∧
        ¬ LoginBound Carried demoConfig
          ((dashboard demoConfig).trace none [demoLogin, namelessCallback]) := by
  refine ⟨nameless_unforged, nameless_nonces, fun hbound => ?_⟩
  obtain ⟨login, callback, -, htrace⟩ := demoLogin_trace namelessCallback
  have hsession : completion demoConfig namelessCallback (fetched demoConfig [(demoLogin, login)]) "code" =
      .ok (sessionPayload namelessClaims (.ofSeconds 60)) := by
    have htx : checkTx demoConfig (namelessCallback.state.getD "") namelessCallback.txCookie
        namelessCallback.now = _ := nameless_checkTx
    have hfound : (discover namelessCallback.idp (fetched demoConfig [(demoLogin, login)])).1 =
        demoIdp.discovery := rfl
    rw [completion_eq htx hfound, redeem_eq]
    rfl
  obtain ⟨e, -, claims, -, ⟨tx, found, -, -, hclaims⟩, hcarried⟩ :=
    hbound [(demoLogin, login)] namelessCallback callback [] htrace "code" _ rfl hsession
  obtain ⟨verifier, nonce, idToken, jwksUri, -, -, hvalid⟩ := acceptedClaims_ok hclaims
  obtain rfl : namelessClaims = claims := Except.ok.inj (validateIdToken_ok hvalid).1
  cases hcarried  -- the accepted claims are the nameless ones, and these carry no nonce

end SreAgent.Webapp
