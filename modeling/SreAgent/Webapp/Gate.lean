import SreAgent.Webapp.LoginSafety

/-!
# Whatever comes as a cookie

The middleware is to answer every request, and to let through those with a session only. Its way is
`passage`, with any `JsonModule` in the place of `json`: a body under the right signature may be in
any encoding `json.loads` detects, nested too deeply, or hold text that is not Unicode, and the
conditions below say what has to come of that. Nothing is assumed of the module.

* `hmac.compare_digest` raises on text that is not ASCII, and nobody catches it
  (`accented_raises`).
* `handles_iff` is about every request. Whoever does not have the key gets no further than the
  comparison, so that for them the first half of `Acceptable` is all there is.
-/

namespace SreAgent.Webapp

open Py (Json)

variable {J : JsonModule} {cfg : AuthConfig} {req : Request}

/-! ## The way through the middleware

The answer of the inner app is left out, since nothing depends on it here. What is left are four
ways for a request to go, one of which is an exception. -/

/-- What `session_auth` does with a request, up to what the inner app answers. -/
inductive Passage (User : Type) where
  | forwarded (user : Option User)
  | authenticationRequired
  | toLogin
  | raised (e : Exc)

/-- `session_auth`, with any module. The user it found is what `unsign` returned. -/
def passage (J : JsonModule) (cfg : AuthConfig) (req : Request) : Passage J.Value :=
  if req.type ≠ .http ∨ cfg.enabled = false then .forwarded none
  else if req.path ∈ publicPaths then .forwarded none
  else
    match unsignWith J Sha256.hmac req.session cfg.secretKey req.now with
    | .error e => .raised e
    | .ok user =>
      if user.any J.truthy then .forwarded user
      else if Py.startsWith req.path "/api/" then .authenticationRequired
      else .toLogin

/-- A reply without the answer of the inner app. -/
def Reply.passage : Reply → Passage Json
  | .forwarded user _       => .forwarded (user.map Json.obj)
  | .authenticationRequired => .authenticationRequired
  | .toLogin                => .toLogin
  | .raised e               => .raised e

/-- The server's middleware is the instance where nothing is refused. -/
theorem passage_eq (cfg : AuthConfig) (disco : Option Discovery) (req : Request) :
    passage unlimited cfg req = (sessionAuth cfg disco req).1.passage := by
  unfold passage sessionAuth
  dsimp only
  split
  · rfl
  split
  · rfl
  rw [unsign_eq]
  cases unsign req.session cfg.secretKey req.now with
  | error e => rfl
  | ok user =>
      cases user with
      | none =>
          show (if Py.startsWith req.path "/api/" = true then Passage.authenticationRequired
            else Passage.toLogin) = _
          dsimp only [Option.any_none]
          rw [if_neg Bool.false_ne_true]
          split <;> rfl
      | some user =>
          -- an object is true if it has a member
          show (if (!user.isEmpty) = true then _ else _) = _
          dsimp only [Option.any_some]
          split
          · rfl
          · split <;> rfl

/-! ## What has to come of a request

A handled request is answered and is not let in without a session. `Acceptable` speaks of the cookie
alone: of its signature part, and, where the signature is right, of what is under it. -/

/-- The session cookie is a token that `sign` produced and that has not expired. -/
def HasSession (J : JsonModule) (cfg : AuthConfig) (req : Request) : Prop :=
  ∃ token payload, req.session = some token ∧
    signWith J Sha256.hmac payload cfg.secretKey = .ok token ∧ J.expired payload req.now = .ok false

/-- The request is answered, and behind the login it is not forwarded without a session: the
middleware neither raises nor lets through what it should stop. -/
structure Handles (J : JsonModule) (cfg : AuthConfig) (req : Request) : Prop where
  completes : ∀ e, passage J cfg req ≠ .raised e
  guarded   : req.Protected → (∃ user, passage J cfg req = .forwarded user) → HasSession J cfg req

/-- What is under a right signature can be read, and opens the dashboard only if `sign` produced it.
It may be no base64 and no JSON, as long as reading it fails with a `ValueError`. -/
structure Genuine (J : JsonModule) (secret : List UInt8) (now : Time) (token : String) : Prop where
  reads : ∀ raw e, unb64 (partitionDot token).1 = some raw → J.loads raw = .error e → e = .valueError
  value : ∀ raw v, unb64 (partitionDot token).1 = some raw → J.loads raw = .ok v →
    ∃ old, J.expired v now = .ok old ∧ (old = false → J.truthy v = true →
      ∃ payload, signWith J Sha256.hmac payload secret = .ok token ∧ J.expired payload now = .ok false)

/-- The signature part of the session cookie is ASCII, and if it is right, the token is genuine. The
first keeps the comparison from raising, the second what is done with the body. -/
structure Acceptable (J : JsonModule) (cfg : AuthConfig) (req : Request) : Prop where
  ascii   : ∀ token, req.session = some token → '.' ∈ token.toList →
    isAscii (partitionDot token).2 = true
  genuine : ∀ token, req.session = some token → ValidlySigned cfg.secretKey token →
    Genuine J cfg.secretKey req.now token

/-! ## Behind the login, and elsewhere

On a public path the cookie is not looked at. Elsewhere everything is decided by what `unsign` makes
of it. -/

/-- Behind the login: an exception, a user, or neither. -/
theorem passage_protected (henabled : cfg.enabled = true) (hprotected : req.Protected) :
    passage J cfg req =
      match unsignWith J Sha256.hmac req.session cfg.secretKey req.now with
      | .error e => .raised e
      | .ok user =>
        if user.any J.truthy then .forwarded user
        else if Py.startsWith req.path "/api/" then .authenticationRequired
        else .toLogin := by
  obtain ⟨htype, hpath⟩ := hprotected
  rw [passage, if_neg (by simp [htype, henabled]), if_neg hpath]

/-- Behind the login the middleware raises if unsigning does. -/
theorem passage_raised (henabled : cfg.enabled = true) (hprotected : req.Protected) :
    (∃ e, passage J cfg req = .raised e) ↔
      ∃ e, unsignWith J Sha256.hmac req.session cfg.secretKey req.now = .error e := by
  rw [passage_protected henabled hprotected]
  cases unsignWith J Sha256.hmac req.session cfg.secretKey req.now with
  | error e => exact iff_of_true ⟨e, rfl⟩ ⟨e, rfl⟩
  | ok user =>
      refine iff_of_false ?_ (by simp)
      dsimp only
      split
      · simp
      · split <;> simp

/-- It forwards if something true comes out. -/
theorem passage_forwarded (henabled : cfg.enabled = true) (hprotected : req.Protected) :
    (∃ user, passage J cfg req = .forwarded user) ↔
      ∃ v, unsignWith J Sha256.hmac req.session cfg.secretKey req.now = .ok (some v) ∧
        J.truthy v = true := by
  rw [passage_protected henabled hprotected]
  cases unsignWith J Sha256.hmac req.session cfg.secretKey req.now with
  | error e => simp
  | ok user =>
      cases user with
      | none =>
          -- no session: 401 or a redirect
          simp only [Option.any_none, Bool.false_eq_true, if_false]
          split <;> simp
      | some v =>
          dsimp only [Option.any_some]
          split
          · next htruthy => exact iff_of_true ⟨_, rfl⟩ ⟨v, rfl, htruthy⟩
          · next hfalsy =>
            refine iff_of_false ?_ ?_
            · split <;> simp
            · rintro ⟨v', hv, htruthy⟩
              obtain rfl := Option.some.inj (Except.ok.inj hv)
              exact hfalsy htruthy

/-- Elsewhere the cookie is not looked at. -/
theorem passage_public (hpublic : ¬ req.Protected) : passage J cfg req = .forwarded none := by
  unfold passage
  split
  · rfl
  · next hhttp =>
    rw [not_or, not_not] at hhttp
    rw [if_pos (not_not.mp fun hpath => hpublic ⟨hhttp.1, hpath⟩)]

/-! ## Unsigning

Unsigning has three stages, each with its own failures. Comparing raises on text that is not ASCII.
Reading is caught if it fails with a `ValueError`. The comparison of the expiry is not caught at
all. -/

/-- On ASCII the comparison returns. -/
theorem compareDigest_ascii {a b : String} (ha : isAscii a = true) (hb : isAscii b = true) :
    compareDigest a b = .ok (a == b) := by
  rw [compareDigest, ha, hb]
  rfl

/-- A signature is compared, unless it is not ASCII. -/
theorem unsignWith_point {token : String} {secret : List UInt8} {now : Time}
    (hdot : '.' ∈ token.toList) : unsignWith J Sha256.hmac (some token) secret now =
      if isAscii (partitionDot token).2 then
        if (partitionDot token).2 = signature secret (partitionDot token).1 then
          readBodyWith J (partitionDot token).1 now
        else .ok none
      else .error .typeError := by
  have hne : token ≠ "" := by
    rintro rfl
    cases hdot
  rw [unsignWith, if_neg (by simp [hne, hdot])]
  dsimp only
  have hsig : isAscii (signature secret (partitionDot token).1) = true := isAscii_b64 _
  have hcode : signatureWith Sha256.hmac secret (partitionDot token).1 =
      signature secret (partitionDot token).1 := rfl
  rw [hcode]
  -- `compare_digest` raises for text that is not ASCII, and compares otherwise
  cases hascii : isAscii (partitionDot token).2 with
  | false => simp [compareDigest, hascii]
  | true =>
      rw [compareDigest_ascii hascii hsig, if_pos rfl]
      split
      · next h => cases h
      · next h => rw [if_neg (by simpa using Except.ok.inj h)]
      · next h => rw [if_pos (by simpa using Except.ok.inj h)]

/-- Validly signed is: a point, and the right code behind it. -/
theorem validlySigned_iff {token : String} {secret : List UInt8} : ValidlySigned secret token ↔
    '.' ∈ token.toList ∧ (partitionDot token).2 = signature secret (partitionDot token).1 := by
  have hsig : isAscii (signature secret (partitionDot token).1) = true := isAscii_b64 _
  refine and_congr_right fun _ => ⟨eq_of_compareDigest, fun heq => ?_⟩
  rw [heq, compareDigest_self hsig]

/-- Then what is under the signature is read. -/
theorem unsignWith_validlySigned {token : String} {secret : List UInt8} {now : Time}
    (h : ValidlySigned secret token) :
    unsignWith J Sha256.hmac (some token) secret now = readBodyWith J (partitionDot token).1 now := by
  obtain ⟨hdot, hsig⟩ := validlySigned_iff.mp h
  have hascii : isAscii (partitionDot token).2 = true := hsig ▸ isAscii_b64 _
  rw [unsignWith_point hdot, if_pos hascii, if_pos hsig]

/-- What is read of a body that is JSON, and of one that is not. -/
theorem readBodyWith_ok {body : String} {raw : List UInt8} {v : J.Value} {now : Time}
    (hraw : unb64 body = some raw) (hloads : J.loads raw = .ok v) : readBodyWith J body now =
      (J.expired v now).map fun old => if old then none else some v := by
  rw [readBodyWith, hraw]
  dsimp only
  rw [hloads]

theorem readBodyWith_error {body : String} {raw : List UInt8} {e : Exc} {now : Time}
    (hraw : unb64 body = some raw) (hloads : J.loads raw = .error e) (he : e ≠ .valueError) :
    readBodyWith J body now = .error e := by
  rw [readBodyWith, hraw]
  dsimp only
  rw [hloads]
  split
  · next h => exact absurd (Except.error.inj h) he
  · next h => rw [Except.error.inj h]
  · next h => cases h

/-- Reading a genuine token does not raise. -/
theorem readBodyWith_of_genuine {token : String} {secret : List UInt8} {now : Time}
    (h : Genuine J secret now token) (e : Exc) :
    readBodyWith J (partitionDot token).1 now ≠ .error e := by
  cases hraw : unb64 (partitionDot token).1 with  -- a body that is not base64 is refused quietly
  | none =>
      rw [readBodyWith, hraw]
      simp
  | some raw =>
      cases hloads : J.loads raw with
      | error e' =>
          -- of what the reader raises, only a `ValueError` is caught
          obtain rfl := h.reads raw e' hraw hloads
          rw [readBodyWith, hraw]
          dsimp only
          rw [hloads]
          simp
      | ok v =>
          obtain ⟨old, hexpired, -⟩ := h.value raw v hraw hloads
          rw [readBodyWith_ok hraw hloads, hexpired]
          simp [Except.map]

/-- Unsigning returns if the cookie is acceptable. -/
theorem unsignWith_of_acceptable (h : Acceptable J cfg req) (e : Exc) :
    unsignWith J Sha256.hmac req.session cfg.secretKey req.now ≠ .error e := by
  intro herror
  cases hsession : req.session with
  | none => rw [hsession] at herror; cases herror
  | some token =>
      rw [hsession] at herror
      -- a token without a point is refused before anything can raise
      by_cases hdot : '.' ∈ token.toList
      · rw [unsignWith_point hdot, if_pos (h.ascii token hsession hdot)] at herror
        split at herror
        · next hsig =>
          have hgenuine := h.genuine token hsession (validlySigned_iff.mpr ⟨hdot, hsig⟩)
          exact readBodyWith_of_genuine hgenuine e herror
        · cases herror
      · rw [unsignWith, if_pos (.inr hdot)] at herror
        cases herror

/-- A cookie that unsigns to something has the right signature. -/
theorem validlySigned_of_unsignWith {token : Option String} {secret : List UInt8} {now : Time}
    {v : J.Value} (h : unsignWith J Sha256.hmac token secret now = .ok (some v)) :
    ∃ t, token = some t ∧ ValidlySigned secret t := by
  cases token with
  | none => cases h
  | some t =>
      by_cases hdot : '.' ∈ t.toList
      · -- past the comparison the body decides, and only with a right code
        rw [unsignWith_point hdot] at h
        split at h
        · split at h
          · next hsig => exact ⟨t, rfl, validlySigned_iff.mpr ⟨hdot, hsig⟩⟩
          · cases h
        · cases h
      · rw [unsignWith, if_pos (.inr hdot)] at h
        cases h

/-- What unsigns is a session if the cookie is acceptable. -/
theorem hasSession_of_acceptable (h : Acceptable J cfg req) {v : J.Value}
    (hunsign : unsignWith J Sha256.hmac req.session cfg.secretKey req.now = .ok (some v))
    (htruthy : J.truthy v = true) : HasSession J cfg req := by
  obtain ⟨token, hsession, hsigned⟩ := validlySigned_of_unsignWith hunsign
  rw [hsession, unsignWith_validlySigned hsigned] at hunsign
  obtain ⟨raw, hraw, hloads, hfresh⟩ := readBodyWith_some hunsign
  obtain ⟨old, hexpired, hsign⟩ := (h.genuine token hsession hsigned).value raw v hraw hloads
  obtain rfl := Except.ok.inj (hexpired.symm.trans hfresh)
  obtain ⟨payload, htoken, hpayload⟩ := hsign rfl htruthy
  exact ⟨token, payload, hsession, htoken, hpayload⟩

/-- The other way round, a cookie that is not acceptable shows in what becomes of the request. -/
theorem acceptable_of_handles (henabled : cfg.enabled = true) (hprotected : req.Protected)
    (h : Handles J cfg req) : Acceptable J cfg req := by
  -- an exception in the middleware is not caught, so the request would not complete
  have hreturns : ∀ e, unsignWith J Sha256.hmac req.session cfg.secretKey req.now ≠ .error e := by
    intro e herror
    obtain ⟨e', hraised⟩ : ∃ e, passage J cfg req = .raised e :=
      (passage_raised henabled hprotected).mpr ⟨e, herror⟩
    exact h.completes e' hraised
  constructor
  · intro token hsession hdot
    by_contra hascii
    rw [hsession, unsignWith_point hdot, if_neg hascii] at hreturns
    exact hreturns _ rfl
  · intro token hsession hsigned
    rw [hsession, unsignWith_validlySigned hsigned] at hreturns
    constructor
    · intro raw e hraw hloads
      by_contra he
      -- any error but a `ValueError` leaves `unsign`
      exact hreturns e (readBodyWith_error hraw hloads he)
    · intro raw v hraw hloads
      cases hexpired : J.expired v req.now with
      | error e =>
          rw [readBodyWith_ok hraw hloads, hexpired] at hreturns
          exact absurd rfl (hreturns e)
      | ok old =>
          refine ⟨old, rfl, ?_⟩
          rintro rfl htruthy
          -- an unexpired value is handed on as the session, whatever it is
          have hunsign : unsignWith J Sha256.hmac req.session cfg.secretKey req.now = .ok (some v) := by
            rw [hsession, unsignWith_validlySigned hsigned, readBodyWith_ok hraw hloads, hexpired]
            rfl
          obtain ⟨token', payload, hsession', hsign, hfresh⟩ := h.guarded hprotected
            ((passage_forwarded henabled hprotected).mpr ⟨v, hunsign, htruthy⟩)
          obtain rfl := Option.some.inj (hsession.symm.trans hsession')
          exact ⟨payload, hsign, hfresh⟩

/-- **Exactly when a request is handled.** Behind the login its cookie has to be acceptable. -/
theorem handles_iff (J : JsonModule) (henabled : cfg.enabled = true) (req : Request) :
    Handles J cfg req ↔ (req.Protected → Acceptable J cfg req) := by
  constructor
  · intro h hprotected
    exact acceptable_of_handles henabled hprotected h
  · intro h
    by_cases hprotected : req.Protected
    · have hacceptable := h hprotected
      constructor
      · intro e hraised
        obtain ⟨e', herror⟩ := (passage_raised henabled hprotected).mp ⟨e, hraised⟩
        exact unsignWith_of_acceptable hacceptable e' herror
      · intro _ hforwarded
        obtain ⟨v, hunsign, htruthy⟩ := (passage_forwarded henabled hprotected).mp hforwarded
        exact hasSession_of_acceptable hacceptable hunsign htruthy
    · constructor
      · intro e hraised
        rw [passage_public hprotected] at hraised
        cases hraised
      · intro h' _
        exact absurd h' hprotected

/-! ## A cookie with an accent

One byte is enough, and it does not take a key. The header is decoded as Latin-1, so the byte is a
letter with an accent, and the comparison of strings raises. -/

/-- The byte `0xE9` behind the point. -/
def accented : Request where
  path := "/api/clusters"
  headers := [("cookie", "sre_session=x.é")]
  now := .ofSeconds 0
  answered := .ofSeconds 0
  secrets := ⟨"", "", ""⟩
  idp := demoIdp

/-- The accent is in the session cookie, and the path is behind the login. -/
theorem accented_session : accented.session = some "x.é" := by decide

theorem accented_protected : accented.Protected := ⟨rfl, by decide⟩

/-- Nothing answers it, whatever the interpreter reads. -/
theorem accented_raises : demoConfig.enabled = true ∧ ∀ J, ¬ Handles J demoConfig accented := by
  refine ⟨by decide, fun J h => ?_⟩
  have hacceptable := acceptable_of_handles (by decide) accented_protected h
  exact absurd (hacceptable.ascii _ accented_session (by decide)) (by decide)

/-! ## A cookie from the server

Nothing the server signs itself is refused, in whatever company it comes. -/

/-- A token of `sign` is genuine where it can be read. -/
theorem genuine_of_signed {levels : Nat} {payload : Payload} {secret : List UInt8} {now : Time}
    (hread : (Json.obj payload).refusal levels = none) (hfresh : expired payload now = .ok false) :
    Genuine (withLevels levels) secret now (sign payload secret) := by
  have hsign : signWith (withLevels levels) Sha256.hmac (Json.obj payload) secret =
      .ok (sign payload secret) := signWith_written hread
  have hbody : (partitionDot (sign payload secret)).1 = b64 (encode (dumpsPayload payload)) := by
    rw [sign_eq_tokenOf, partitionDot_tokenOf]
  have hloads : (withLevels levels).loads (encode (dumpsPayload payload)) = .ok (.obj payload) :=
    loads_written hread
  constructor
  · intro raw e hraw herror
    rw [hbody, unb64_b64] at hraw
    obtain rfl := Option.some.inj hraw
    rw [hloads] at herror
    cases herror
  · intro raw v hraw hv
    rw [hbody, unb64_b64] at hraw
    obtain rfl := Option.some.inj hraw
    obtain rfl := Except.ok.inj (hloads.symm.trans hv)
    exact ⟨false, hfresh, fun _ _ => ⟨_, hsign, hfresh⟩⟩

/-- Somebody who has logged in comes back, with another cookie beside the session. -/
def visitor : Request := { accented with
  headers := [("cookie", "theme=dark; sre_session=" ++ sign demoSession demoConfig.secretKey)] }

/-- The session is found beside the other cookie, and it is acceptable, so the visitor gets in, on a
path behind the login. -/
theorem visitor_session : visitor.session = some (sign demoSession demoConfig.secretKey) := by
  have htext : "theme=dark; sre_session=" ++ sign demoSession demoConfig.secretKey =
      String.ofList ([';'].intercalate ["theme=dark".toList,
        [' '] ++ SESSION_COOKIE.toList ++ '=' :: (sign demoSession demoConfig.secretKey).toList]) := by
    rw [← String.toList_inj]
    simp [List.intercalate, SESSION_COOKIE]
  apply cookie_of_carries (by decide) (by decide) (by decide) (noSemicolon_sign _ _)
  rw [visitor, htext]
  refine @Carries.cookie _ _ [] [] ["theme=dark".toList] [] [' '] (by simp) ?_
    (List.all_eq_true.mp rfl)
  intro part hpart
  obtain rfl := List.mem_singleton.mp hpart
  refine ⟨by decide, fun pair hpair => ?_⟩
  obtain rfl : ("theme", "dark") = pair := Option.some.inj hpair
  decide

theorem visitor_acceptable : Acceptable (withLevels 1000) demoConfig visitor := by
  have hfresh : expired demoSession visitor.now = .ok false := by
    rw [expired_num (t := Time.ofSeconds 3600) rfl]
    norm_num [visitor, accented, Time.ofSeconds, Time.value, Py.fractionValue]
  constructor
  · intro token hsession _
    obtain rfl := Option.some.inj (hsession.symm.trans visitor_session)
    rw [sign_eq_tokenOf, partitionDot_tokenOf]
    exact isAscii_b64 _
  · intro token hsession _
    obtain rfl := Option.some.inj (hsession.symm.trans visitor_session)
    exact genuine_of_signed (by decide) hfresh

theorem handles_iff_visitor : visitor.Protected ∧ Handles (withLevels 1000) demoConfig visitor :=
  ⟨⟨rfl, by decide⟩, (handles_iff _ (by decide) visitor).mpr fun _ => visitor_acceptable⟩

end SreAgent.Webapp
