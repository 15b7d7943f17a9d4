import SreAgent.Webapp.Cookies

/-!
# Who gets behind the login

The transaction cookie of a login is signed with the same key and in the same format as a session,
and `session_auth` looks at nothing but signature and expiry. `loginSafe_iff` says which runs of the
server are safe all the same: those in which nobody presents a transaction as a session before it
has expired.

The statement is about runs: requests of any clients in any order, with the discovery document as
the only state of the server. Clients may present whatever the server has issued to anybody, but
they cannot sign.
-/

namespace SreAgent.Webapp

open Py (Json)

variable {cfg : AuthConfig}

/-! ## Runs

Tokens are followed through a run: which reply issued one, under which name, and for which login.
Being safe and keeping transactions are properties of the whole run, and each request is judged by
what came before it. -/

abbrev Entry := Request × Reply

def Answer.cookies : Answer → List SetCookie
  | .redirect _ cookies _ => cookies
  | _ => []

def Reply.cookies : Reply → List SetCookie
  | .forwarded _ answer => answer.cookies
  | _ => []

/-- The reply hands out `token` as the cookie `name`. -/
def Reply.Sets (reply : Reply) (name token : String) : Prop :=
  ∃ c ∈ reply.cookies, c.name = name ∧ c.value = token

/-- The strings the server has signed. -/
def issued (history : List Entry) : List String :=
  history.flatMap fun e => e.2.cookies.map SetCookie.value

/-- **The clients do not forge.** Of the tokens that are presented as a cookie, all that are validly
signed have been issued before. -/
def Unforged (cfg : AuthConfig) (run : List Entry) : Prop :=
  ∀ before req reply after, run = before ++ (req, reply) :: after →
    ∀ token, req.session = some token ∨ req.txCookie = some token →
      ValidlySigned cfg.secretKey token → token ∈ issued before

/-- `complete_login` succeeded with this session: the `id_token` is valid and the groups admitted. -/
structure LoginSucceeded (cfg : AuthConfig) (req : Request) (session : Payload) : Prop where
  callback  : req.path = "/auth/callback"
  completed : ∃ disco code, req.code = some code ∧ (completeLogin cfg req.idp disco code
    (req.state.getD "") req.txCookie req.now req.answered).1 = .ok session
  admitted  : ∃ idToken jwksUri nonce claims,
    validateIdToken cfg req.idp idToken jwksUri nonce = .ok claims ∧
      checkGroups cfg (groupsOf claims) = .ok ()

/-- `token` is the session of a login that succeeded at most `SESSION_TTL` before `now`. -/
def IssuedByLogin (cfg : AuthConfig) (before : List Entry) (token : String) (now : Time) : Prop :=
  ∃ e ∈ before, ∃ session, e.2.Sets SESSION_COOKIE token ∧ token = sign session cfg.secretKey ∧
    LoginSucceeded cfg e.1 session ∧ now.value ≤ e.1.answered.value + SESSION_TTL

/-- A request for a path behind the login. -/
def Request.Protected (req : Request) : Prop := req.type = .http ∧ req.path ∉ publicPaths

/-- Whatever is forwarded behind the login carries the session of a login: a token that
`complete_login` has issued, and not just one that the server has signed. -/
def LoginSafe (cfg : AuthConfig) (run : List Entry) : Prop :=
  ∀ before req reply after, run = before ++ (req, reply) :: after → req.Protected →
    (∃ user answer, reply = .forwarded user answer) →
      ∃ token, req.session = some token ∧ IssuedByLogin cfg before token req.now

/-- No request behind the login presents a login transaction as its session while it lasts. Both
cookies are signed with one key, and nothing in a payload says which of the two it is. -/
def TransactionsKept (run : List Entry) : Prop :=
  ∀ before req reply after, run = before ++ (req, reply) :: after → req.Protected →
    ∀ token, req.session = some token → ∀ e ∈ before, e.2.Sets TX_COOKIE token →
      e.1.answered.value + 600 < req.now.value

/-! ## Steps

What one request can do. Cookies are set on two paths only, and each cookie stands for a transaction
or for a session, with its payload and the time it was signed at. -/

/-- A redeemed code has a valid token whose groups are admitted, and so has a completed login. -/
theorem redeem_ok {idp : Idp} {found : Discovery} {code : String} {tx session : Payload} {now : Time}
    (h : redeem cfg idp found code tx now = .ok session) :
    ∃ idToken jwksUri nonce claims, validateIdToken cfg idp idToken jwksUri nonce = .ok claims ∧
      checkGroups cfg (groupsOf claims) = .ok () ∧ session = sessionPayload claims now := by
  unfold redeem at h
  obtain ⟨endpoint, -, h⟩ := bind_ok h
  obtain ⟨verifier, -, h⟩ := bind_ok h
  obtain ⟨answer, -, h⟩ := bind_ok h
  obtain ⟨idToken, -, h⟩ := bind_ok h
  obtain ⟨jwksUri, -, h⟩ := bind_ok h
  obtain ⟨nonce, -, h⟩ := bind_ok h
  obtain ⟨claims, hclaims, h⟩ := bind_ok h
  obtain ⟨⟨⟩, hgroups, h⟩ := bind_ok h
  exact ⟨idToken, jwksUri, nonce, claims, hclaims, hgroups, (Except.ok.inj h).symm⟩

theorem completeLogin_ok {idp : Idp} {disco : Option Discovery} {code state : String}
    {txCookie : Option String} {now answered : Time} {session : Payload}
    (h : (completeLogin cfg idp disco code state txCookie now answered).1 = .ok session) :
    ∃ idToken jwksUri nonce claims, validateIdToken cfg idp idToken jwksUri nonce = .ok claims ∧
      checkGroups cfg (groupsOf claims) = .ok () ∧ session = sessionPayload claims answered := by
  unfold completeLogin at h
  split at h
  · cases h
  · next tx htx =>
    dsimp only at h
    cases hfound : (discover idp disco).1 with
    | error e =>
        rw [hfound] at h
        cases h
    | ok found =>
        rw [hfound] at h
        exact redeem_ok h

/-- What a cookie the server sets stands for: the transaction of a login, or a session. -/
inductive Stands (cfg : AuthConfig) (req : Request) (c : SetCookie) : Prop where
  | tx (name : c.name = TX_COOKIE)
      (value : c.value = sign (txPayload req.secrets req.answered) cfg.secretKey)
  | session (claims : Payload) (name : c.name = SESSION_COOKIE)
      (value : c.value = sign (sessionPayload claims req.answered) cfg.secretKey)
      (login : LoginSucceeded cfg req (sessionPayload claims req.answered))

/-- What begins a login is a signed transaction. -/
theorem beginLogin_ok {idp : Idp} {disco : Option Discovery} {secrets : LoginSecrets} {now : Time}
    {url tx : String} (h : (beginLogin cfg idp disco secrets now).1 = .ok (url, tx)) :
    tx = sign (txPayload secrets now) cfg.secretKey := by
  unfold beginLogin at h
  obtain ⟨found, -, h⟩ := bind_ok h
  obtain ⟨endpoint, -, h⟩ := bind_ok h
  exact (Prod.mk.inj (Except.ok.inj h)).2.symm

/-- So the first route sets a transaction, and the second one a session, for a login that succeeded.
-/
theorem authLogin_cookies {disco : Option Discovery} {req : Request} {c : SetCookie}
    (h : c ∈ (authLogin cfg disco req).1.cookies) : Stands cfg req c := by
  unfold authLogin at h
  split at h
  · cases h
  · cases hlogin : beginLogin cfg req.idp disco req.secrets req.answered with
    | mk result disco' =>
        rw [hlogin] at h
        cases result with
        | error e => cases h
        | ok pair =>  -- one cookie, and it is the transaction of this request's random strings
            obtain rfl := List.mem_singleton.mp h
            apply Stands.tx rfl
            exact beginLogin_ok (congrArg Prod.fst hlogin)

theorem authCallback_cookies {disco : Option Discovery} {req : Request} {c : SetCookie}
    (hpath : req.path = "/auth/callback") (h : c ∈ (authCallback cfg disco req).1.cookies) :
    Stands cfg req c := by
  unfold authCallback at h
  split at h
  · cases h
  · next code hcode =>
    cases hlogin : completeLogin cfg req.idp disco code (req.state.getD "") req.txCookie req.now
        req.answered with
    | mk result disco' =>
        rw [hlogin] at h
        cases result with
        | error e => cases h
        | ok session =>  -- one cookie, signed after the claims and the groups were accepted
            obtain rfl := List.mem_singleton.mp h
            have hok : (completeLogin cfg req.idp disco code (req.state.getD "") req.txCookie req.now
                req.answered).1 = .ok session := by rw [hlogin]
            obtain ⟨idToken, jwksUri, nonce, claims, hclaims, hgroups, hsession⟩ := completeLogin_ok hok
            rw [hsession] at hok
            refine .session claims rfl (congrArg (sign · cfg.secretKey) hsession) ?_
            exact ⟨hpath, ⟨disco, code, hcode, hok⟩, idToken, jwksUri, nonce, claims, hclaims, hgroups⟩

/-- **What the server signs** is a transaction or the session of a login. -/
theorem step_cookies {disco : Option Discovery} {req : Request} {c : SetCookie}
    (h : c ∈ (sessionAuth cfg disco req).1.cookies) : Stands cfg req c := by
  -- the middleware's own replies set no cookies
  have happ : c ∈ (app cfg disco req).1.cookies := by
    unfold sessionAuth at h
    dsimp only at h
    split at h
    · exact h
    split at h
    · exact h
    split at h
    · cases h
    · split at h
      · exact h
      · split at h <;> cases h
  unfold app at happ
  split at happ
  · cases happ
  split at happ
  · exact authLogin_cookies happ
  split at happ
  · next hpath => exact authCallback_cookies hpath happ
  · split at happ <;> cases happ

/-- Behind the login a request is forwarded if its session cookie unsigns to something. -/
theorem step_forwarded (henabled : cfg.enabled = true) {disco : Option Discovery} {req : Request}
    (hprotected : req.Protected) :
    (∃ user answer, (sessionAuth cfg disco req).1 = .forwarded user answer) ↔
      ∃ user, unsign req.session cfg.secretKey req.now = .ok (some user) ∧ user ≠ [] := by
  obtain ⟨htype, hpath⟩ := hprotected
  unfold sessionAuth
  dsimp only
  rw [if_neg (by simp [htype, henabled]), if_neg hpath]
  cases unsign req.session cfg.secretKey req.now with
  | error e => simp
  | ok user =>
      cases user with
      | none =>
          -- no session: 401 or a redirect
          simp only [Option.any_none, Bool.false_eq_true, if_false]
          split <;> simp
      | some user =>
          cases user with
          | nil =>
              -- an empty payload is falsy
              simp only [Option.any_some, List.isEmpty_nil, Bool.not_true, Bool.false_eq_true, if_false]
              split <;> simp
          | cons kv user => exact iff_of_true ⟨_, _, rfl⟩ ⟨_, rfl, List.cons_ne_nil _ _⟩

/-! ## The two payloads

They have the same key for the expiry, ten minutes in one and eight hours in the other, and
otherwise no key in common. -/

/-- A transaction lasts ten minutes, a session eight hours, and neither is the other. -/
theorem expired_txPayload (secrets : LoginSecrets) (t now : Time) :
    expired (txPayload secrets t) now = .ok (t.value + 600 < now.value) := by
  rw [expired_num (t := t.add 600) rfl, Time.value_add]
  rfl

theorem expired_sessionPayload (claims : Payload) (t now : Time) :
    expired (sessionPayload claims t) now = .ok (t.value + SESSION_TTL < now.value) := by
  rw [expired_num (t := t.add SESSION_TTL) rfl, Time.value_add]

theorem txPayload_ne_sessionPayload (secrets : LoginSecrets) (claims : Payload) (t t' : Time) :
    txPayload secrets t ≠ sessionPayload claims t' := by
  intro h
  have hkey : "state" = "sub" := (Prod.mk.inj (List.cons.inj h).1).1
  exact absurd hkey (by decide)

/-- **A session opens the dashboard** until it expires, whoever presents it. -/
theorem session_forwarded (henabled : cfg.enabled = true) {disco : Option Discovery} {req : Request}
    (hprotected : req.Protected) {claims : Payload} {t : Time}
    (hsession : req.session = some (sign (sessionPayload claims t) cfg.secretKey))
    (hnow : req.now.value ≤ t.value + SESSION_TTL) :
    ∃ user answer, (sessionAuth cfg disco req).1 = .forwarded user answer := by
  apply (step_forwarded henabled hprotected).mpr
  -- the session's time is not over
  have hfresh : expired (sessionPayload claims t) req.now = .ok false := by
    rw [expired_sessionPayload, decide_eq_false (not_lt.mpr hnow)]
  rw [hsession, unsign_fresh hfresh]
  exact ⟨_, rfl, List.cons_ne_nil _ _⟩

/-! ## Histories of the server

What an entry of a run hands out was signed in the step of that entry. -/

/-- An entry is a step of the server, from some state. -/
theorem mem_dashboard_trace {disco : Option Discovery} {reqs : List Request} {e : Entry}
    (h : e ∈ (dashboard cfg).trace disco reqs) : ∃ disco', e.2 = (sessionAuth cfg disco' e.1).1 :=
  Machine.mem_trace h

/-- A token was issued if some entry set it as a cookie. -/
theorem mem_issued {history : List Entry} {token : String} :
    token ∈ issued history ↔ ∃ e ∈ history, ∃ c ∈ e.2.cookies, c.value = token := by
  simp [issued]

/-- What an entry of a run hands out stands for something. -/
theorem stands_of_mem {reqs : List Request} {e : Entry} (he : e ∈ (dashboard cfg).trace none reqs)
    {c : SetCookie} (hc : c ∈ e.2.cookies) : Stands cfg e.1 c := by
  obtain ⟨disco, hreply⟩ := mem_dashboard_trace he
  rw [hreply] at hc
  exact step_cookies hc

/-- A token of `TX_COOKIE` is a signed transaction. -/
theorem tx_of_sets {reqs : List Request} {e : Entry} (he : e ∈ (dashboard cfg).trace none reqs)
    {token : String} (h : e.2.Sets TX_COOKIE token) :
    token = sign (txPayload e.1.secrets e.1.answered) cfg.secretKey := by
  obtain ⟨c, hc, hname, rfl⟩ := h
  cases stands_of_mem he hc with  -- only one of the two kinds of cookie has this name
  | tx _ value => exact value
  | session claims name =>
      rw [name] at hname
      exact absurd hname (by decide)

/-! ## A transaction presented as a session

A login is begun and not completed. Its transaction is taken from the one cookie and sent as the
other, which any client can do with its own browser. -/

/-- A login that finds the provider gets a transaction. -/
theorem sets_tx {disco : Option Discovery} {req : Request} {found : Discovery} {endpoint : String}
    (henabled : cfg.enabled = true) (htype : req.type = .http) (hmethod : req.method = "GET")
    (hpath : req.path = "/auth/login") (hfound : (discover req.idp disco).1 = .ok found)
    (hendpoint : found.authorizationEndpoint = some endpoint) :
    (sessionAuth cfg disco req).1.Sets TX_COOKIE
      (sign (txPayload req.secrets req.answered) cfg.secretKey) := by
  refine ⟨⟨TX_COOKIE, _, 600, cfg.secure⟩, ?_, rfl, rfl⟩
  obtain ⟨url, hlogin⟩ : ∃ url, (beginLogin cfg req.idp disco req.secrets req.answered).1 =
      .ok (url, sign (txPayload req.secrets req.answered) cfg.secretKey) := by
    unfold beginLogin
    dsimp only
    rw [hfound]
    have hrequired : required "authorization_endpoint" found.authorizationEndpoint = .ok endpoint := by
      rw [hendpoint]
      rfl
    simp only [bind, Except.bind, hrequired, pure, Except.pure]
    exact ⟨_, rfl⟩
  -- the login path is public, so the request gets to the login itself
  have hpublic : req.path ∈ publicPaths := by simp [hpath, publicPaths]
  have happ : (app cfg disco req).1 =
      .redirect url [⟨TX_COOKIE, sign (txPayload req.secrets req.answered) cfg.secretKey, 600,
        cfg.secure⟩] [] := by
    unfold app authLogin
    rw [if_neg (by simp [htype, hmethod]), if_pos hpath, if_neg (by simp [henabled])]
    rw [← Prod.mk.eta (p := beginLogin cfg req.idp disco req.secrets req.answered), hlogin]
  have hreply : (sessionAuth cfg disco req).1 = .forwarded none (app cfg disco req).1 := by
    unfold sessionAuth
    dsimp only
    rw [if_neg (by simp [htype, henabled]), if_pos hpublic]
  rw [hreply, happ]
  exact List.mem_singleton.mpr rfl

/-- Nobody ever gets through this login: the token endpoint refuses. -/
def demoIdp : Idp where
  discovery := .ok ⟨some "https://idp/authorize", some "https://idp/token", some "https://idp/keys"⟩
  token _ _ := .error (.other "HTTPStatusError")
  decode _ _ _ _ := .error (.other "InvalidTokenError")

def demoConfig : AuthConfig where
  issuer := "https://idp"
  clientId := "dashboard"
  clientSecret := "secret"
  baseUrl := "http://127.0.0.1:8081"
  requiredGroups := ["sre"]
  secretKey := [107, 101, 121]

def demoLogin : Request where
  path := "/auth/login"
  now := .ofSeconds 0
  answered := .ofSeconds 0
  secrets := ⟨"state", "nonce", "verifier"⟩
  idp := demoIdp

/-- The transaction `demoLogin` hands out. -/
def demoTx : String := sign (txPayload demoLogin.secrets demoLogin.answered) demoConfig.secretKey

/-- The transaction comes back as a session, so many seconds later. -/
def demoReplay (seconds : Nat) : Request where
  path := "/api/clusters"
  headers := [("cookie", SESSION_COOKIE ++ "=" ++ demoTx)]
  now := .ofSeconds seconds
  answered := .ofSeconds seconds
  secrets := ⟨"", "", ""⟩
  idp := demoIdp

/-- What is sent as a session is the transaction, and it was handed out before. -/
theorem demoReplay_session (seconds : Nat) : (demoReplay seconds).session = some demoTx := by
  have htext : SESSION_COOKIE ++ "=" ++ demoTx = String.ofList ([';'].intercalate
      [[] ++ SESSION_COOKIE.toList ++ '=' :: demoTx.toList]) := by
    rw [← String.toList_inj]
    simp
  apply cookie_of_carries (by decide) (by decide) (by decide) (noSemicolon_sign _ _)
  rw [demoReplay, htext]
  exact @Carries.cookie _ _ [] [] [] [] [] (by simp) (by simp) (by simp)

theorem demoLogin_sets : (sessionAuth demoConfig none demoLogin).1.Sets TX_COOKIE demoTx :=
  sets_tx (by decide) rfl rfl rfl rfl rfl

/-- A run of the login and one request. -/
theorem demoLogin_trace (second : Request) :
    ∃ login reply, login.Sets TX_COOKIE demoTx ∧
      (dashboard demoConfig).trace none [demoLogin, second] =
        [(demoLogin, login), (second, reply)] :=
  ⟨_, _, demoLogin_sets, rfl⟩

/-- An entry of a run of two is the first or the second. -/
theorem pair_eq_append {α : Type} {a b e : α} {before after : List α}
    (h : [a, b] = before ++ e :: after) : before = [] ∧ e = a ∨ before = [a] ∧ e = b := by
  rcases before with _ | ⟨x, _ | ⟨y, before⟩⟩
  · exact Or.inl ⟨rfl, (List.cons.inj h).1.symm⟩
  · obtain ⟨rfl, h'⟩ := List.cons.inj h
    exact Or.inr ⟨rfl, (List.cons.inj h').1.symm⟩
  · obtain ⟨-, h⟩ := List.cons.inj h
    obtain ⟨-, h⟩ := List.cons.inj h
    exact absurd h (by simp)

/-- Who presents the transaction of `demoLogin` forges nothing. -/
theorem demoLogin_unforged {second : Request}
    (hsecond : ∀ token, second.session = some token ∨ second.txCookie = some token → token = demoTx) :
    Unforged demoConfig ((dashboard demoConfig).trace none [demoLogin, second]) := by
  intro before req reply after hrun token htoken _
  obtain ⟨login, reply', ⟨c, hc, -, hvalue⟩, htrace⟩ := demoLogin_trace second
  rw [htrace] at hrun
  -- the first request brings no cookie, the second what the first was given
  rcases pair_eq_append hrun with ⟨rfl, heq⟩ | ⟨rfl, heq⟩
  · obtain ⟨rfl, -⟩ := Prod.mk.inj heq
    rcases htoken with h | h <;> cases h
  · obtain ⟨rfl, -⟩ := Prod.mk.inj heq
    obtain rfl := hsecond token htoken
    exact mem_issued.mpr ⟨_, List.mem_singleton.mpr rfl, c, hc, hvalue⟩

/-- In particular who replays it does not. -/
theorem demo_unforged (seconds : Nat) :
    Unforged demoConfig ((dashboard demoConfig).trace none [demoLogin, demoReplay seconds]) := by
  apply demoLogin_unforged
  intro token htoken
  rcases htoken with h | h
  · rw [demoReplay_session] at h
    exact (Option.some.inj h).symm
  · cases h

/-! ## The safe runs

One direction looks for the entry that issued a presented token and finds a session or a transaction
that has expired. The other takes a transaction that is presented in time and finds that it was let
in. -/

/-- In a run that keeps its transactions, what is forwarded carries a session. -/
theorem loginSafe_of_kept (henabled : cfg.enabled = true) {reqs : List Request}
    (hunforged : Unforged cfg ((dashboard cfg).trace none reqs))
    (hkept : TransactionsKept ((dashboard cfg).trace none reqs)) :
    LoginSafe cfg ((dashboard cfg).trace none reqs) := by
  intro before req reply after hrun hprotected hforwarded
  have hentries : ∀ e ∈ before ++ (req, reply) :: after, e ∈ (dashboard cfg).trace none reqs := by
    rw [hrun]
    exact fun e he => he
  obtain ⟨disco, hreply⟩ := mem_dashboard_trace (hentries (req, reply) (by simp))
  dsimp only at hreply
  rw [hreply] at hforwarded
  obtain ⟨user, hunsign, -⟩ := (step_forwarded henabled hprotected).mp hforwarded
  obtain ⟨token, htoken, hsigned⟩ := validlySigned_of_unsign hunsign
  -- whatever got through was signed by the server, so some reply set it
  have hissued := hunforged before req reply after hrun token (Or.inl htoken) hsigned
  obtain ⟨e, he, c, hc, rfl⟩ := mem_issued.mp hissued
  rw [htoken] at hunsign
  refine ⟨c.value, htoken, ?_⟩
  cases stands_of_mem (hentries e (List.mem_append_left _ he)) hc with
  | tx name value =>
      -- it cannot be a transaction: those the run presents behind the login have expired
      have hlate := hkept before req reply after hrun hprotected c.value htoken e he
        ⟨c, hc, name, rfl⟩
      rw [value] at hunsign
      have hfresh := (unsign_sign_some hunsign).2
      rw [expired_txPayload] at hfresh
      exact absurd hlate (of_decide_eq_false (Except.ok.inj hfresh))
  | session claims name value login =>
      rw [value] at hunsign
      have hfresh := (unsign_sign_some hunsign).2
      rw [expired_sessionPayload] at hfresh
      have hnow := not_lt.mp (of_decide_eq_false (Except.ok.inj hfresh))
      exact ⟨e, he, _, ⟨c, hc, name, rfl⟩, value, login, hnow⟩

/-- A session of a login is no transaction. -/
theorem not_issuedByLogin_tx {before : List Entry} {secrets : LoginSecrets} {t now : Time} :
    ¬ IssuedByLogin cfg before (sign (txPayload secrets t) cfg.secretKey) now := by
  rintro ⟨e, -, session, -, hsign, hlogin, -⟩
  obtain ⟨disco, code, -, hcompleted⟩ := hlogin.completed
  obtain ⟨-, -, -, claims, -, -, rfl⟩ := completeLogin_ok hcompleted
  exact txPayload_ne_sessionPayload _ _ _ _ (sign_injective hsign)

/-- A transaction that is presented behind the login before it has expired gets through. -/
theorem kept_of_loginSafe (henabled : cfg.enabled = true) {reqs : List Request}
    (hsafe : LoginSafe cfg ((dashboard cfg).trace none reqs)) :
    TransactionsKept ((dashboard cfg).trace none reqs) := by
  intro before req reply after hrun hprotected token htoken e he hsets
  have hentries : ∀ e ∈ before ++ (req, reply) :: after, e ∈ (dashboard cfg).trace none reqs := by
    rw [hrun]
    exact fun e he => he
  obtain rfl := tx_of_sets (hentries e (List.mem_append_left _ he)) hsets
  by_contra hlate
  -- an unexpired transaction unsigns, and a forwarded one would have to be a session
  have hfresh : expired (txPayload e.1.secrets e.1.answered) req.now = .ok false := by
    rw [expired_txPayload, decide_eq_false hlate]
  obtain ⟨disco, hreply⟩ := mem_dashboard_trace (hentries (req, reply) (by simp))
  have hforwarded : ∃ user answer, reply = .forwarded user answer := by
    rw [show reply = (sessionAuth cfg disco req).1 from hreply]
    apply (step_forwarded henabled hprotected).mpr
    rw [htoken, unsign_fresh hfresh]
    exact ⟨_, rfl, List.cons_ne_nil _ _⟩
  obtain ⟨token, htoken', hlogin⟩ := hsafe before req reply after hrun hprotected hforwarded
  rw [htoken] at htoken'
  obtain rfl := Option.some.inj htoken'
  exact not_issuedByLogin_tx hlogin

/-- **Login safety.** With SSO enabled, a run of the server in which nobody forges a token is safe
exactly if no login transaction is presented as a session before it has expired. -/
theorem loginSafe_iff (cfg : AuthConfig) (henabled : cfg.enabled = true) (reqs : List Request)
    (hunforged : Unforged cfg ((dashboard cfg).trace none reqs)) :
    LoginSafe cfg ((dashboard cfg).trace none reqs) ↔
      TransactionsKept ((dashboard cfg).trace none reqs) :=
  ⟨kept_of_loginSafe henabled, loginSafe_of_kept henabled hunforged⟩

/-- Eleven minutes after the login its transaction opens nothing. -/
theorem loginSafe_demo :
    LoginSafe demoConfig ((dashboard demoConfig).trace none [demoLogin, demoReplay 660]) := by
  apply (loginSafe_iff demoConfig (by decide) _ (demo_unforged 660)).mpr
  intro before req reply after hrun hprotected token htoken e he _
  obtain ⟨login, replay, -, htrace⟩ := demoLogin_trace (demoReplay 660)
  rw [htrace] at hrun
  rcases pair_eq_append hrun with ⟨rfl, heq⟩ | ⟨rfl, heq⟩
  · cases he
  · obtain ⟨rfl, -⟩ := Prod.mk.inj heq
    obtain rfl := List.mem_singleton.mp he
    -- eleven minutes later the transaction is over
    norm_num [demoLogin, demoReplay, Time.ofSeconds, Time.value, Py.fractionValue]

/-- One minute after a login nobody completed, its transaction opens the dashboard. -/
theorem transaction_opens_dashboard :
    demoConfig.enabled = true ∧
      Unforged demoConfig ((dashboard demoConfig).trace none [demoLogin, demoReplay 60]) ∧
      ¬ LoginSafe demoConfig ((dashboard demoConfig).trace none [demoLogin, demoReplay 60]) := by
  refine ⟨by decide, demo_unforged 60, ?_⟩
  intro hsafe
  have hkept := kept_of_loginSafe (by decide) hsafe
  obtain ⟨login, replay, hsets, htrace⟩ := demoLogin_trace (demoReplay 60)
  have hprotected : (demoReplay 60).Protected := ⟨rfl, by simp [demoReplay, publicPaths]⟩
  -- one minute later it is not, and it opens the dashboard
  have hlate := hkept [(demoLogin, login)] _ replay [] htrace hprotected demoTx
    (demoReplay_session 60) (demoLogin, login) (List.mem_singleton.mpr rfl) hsets
  norm_num [demoLogin, demoReplay, Time.ofSeconds, Time.value, Py.fractionValue] at hlate

end SreAgent.Webapp
