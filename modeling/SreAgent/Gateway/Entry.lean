import SreAgent.Gateway.Isolation
import SreAgent.Ratelimit.Windows
import SreAgent.Settings

/-!
# Who gets in, and how often

A request the gateway hands on is public, or a caller stands behind it whose token the identity
provider's key verifies and who is in a required group (`started_serves_authorized`). In any stretch of
time a caller is handed on no more often than its bucket and the rate allow (`forwarded_le`).

What a token proves is up to `PyJwt`. Here it is shown that the gateway lets nobody pass that
library by: whoever is handed on has had a key fetched for its token, the token decoded with that
key under the configured issuer and audience, and its groups compared.
-/

namespace SreAgent.Gateway

open Ratelimit (Call Served TokenBucketLimiter served)

variable {settings : Settings} {a : Arrival} {subject : String}

/-! ## Authorization

The checks are read backwards: from a request that was handed on to everything that must have
succeeded. Each function has one lemma that says what its success means. -/

/-- A request that needs no token. -/
def Public (a : Arrival) : Prop := a.scope.type ≠ "http" ∨ a.scope.path ∈ publicPaths

def Arrival.token (a : Arrival) : String :=
  String.ofList (Py.strip (latin1 (a.scope.authorization.drop 7)))

/-- Claims of a member of a required group, if there are any. -/
def InRequiredGroup (settings : Settings) (claims : Claims) : Prop :=
  commaSet settings.oidcRequiredGroups = [] ∨
    ∃ held group, setOfStrings (orElse (claims.groups.getD (.arr [])) (claims.roles.getD (.arr []))) =
        .ok held ∧ group ∈ commaSet settings.oidcRequiredGroups ∧ group ∈ held

/-- What stands behind a request of a caller. -/
structure Authorized (settings : Settings) (a : Arrival) (subject : String) : Prop where
  issuer : settings.oidcIssuer ≠ ""
  bearer : lowerBytes (a.scope.authorization.take 7) = ascii "bearer "
  claims : ∃ key claims,
    a.jwt.signingKey
        (String.ofList (Py.rstrip '/' settings.oidcIssuer.toList) ++ "/discovery/v2.0/keys")
        a.token = .ok key ∧
      a.jwt.decode a.token key ["RS256"]
        (if settings.oidcAudience = "" then none else some settings.oidcAudience)
        settings.oidcIssuer ["exp", "iss", "aud"] = .ok claims ∧
      claims.sub.getD "unknown" = subject ∧ InRequiredGroup settings claims

/-- Claims that pass the policy name the subject, and some required group is among those they hold.
-/
theorem authorizeClaims_ok {claims : Claims} {principal : Principal}
    (h : authorizeClaims claims settings = .ok principal) :
    claims.sub.getD "unknown" = principal.subject ∧ InRequiredGroup settings claims := by
  unfold authorizeClaims at h
  dsimp only at h
  -- without required groups the groups of the token are not looked at
  by_cases hrequired : commaSet settings.oidcRequiredGroups = []
  · rw [if_neg (not_not.mpr hrequired)] at h
    cases h
    exact ⟨rfl, .inl hrequired⟩
  · rw [if_pos hrequired] at h
    obtain ⟨held, hheld, h⟩ := bind_ok h
    split at h
    · cases h
    · next hany =>
      cases h
      simp only [Bool.not_eq_true', Bool.not_eq_false, List.any_eq_true, List.contains_eq_mem,
        decide_eq_true_eq] at hany
      obtain ⟨group, hgroup, hmem⟩ := hany
      exact ⟨rfl, .inr ⟨held, group, hheld, hgroup, hmem⟩⟩

/-- A token that verifies, and what was checked of it. -/
theorem verifyBearerToken_ok {jwt : PyJwt} {token : String} {principal : Principal}
    (h : verifyBearerToken jwt token settings = .ok principal) :
    settings.oidcIssuer ≠ "" ∧ ∃ key claims,
      jwt.signingKey
          (String.ofList (Py.rstrip '/' settings.oidcIssuer.toList) ++ "/discovery/v2.0/keys")
          token = .ok key ∧
        jwt.decode token key ["RS256"]
          (if settings.oidcAudience = "" then none else some settings.oidcAudience)
          settings.oidcIssuer ["exp", "iss", "aud"] = .ok claims ∧
        authorizeClaims claims settings = .ok principal := by
  unfold verifyBearerToken at h
  -- the two guards in front raise; behind them every step of the check succeeded
  by_cases hinstalled : (!jwt.installed) = true
  · rw [if_pos hinstalled] at h
    cases h
  rw [if_neg hinstalled] at h
  by_cases hissuer : settings.oidcIssuer = ""
  · dsimp only at h
    rw [if_pos hissuer] at h
    cases h
  dsimp only at h
  rw [if_neg hissuer] at h
  obtain ⟨key, hkey, h⟩ := bind_ok h
  obtain ⟨claims, hclaims, h⟩ := bind_ok h
  exact ⟨hissuer, key, claims, hkey, hclaims, h⟩

/-- A caller is authorized. -/
theorem authorized_of_subject (h : a.subject settings = some subject) :
    Authorized settings a subject := by
  -- a subject is only found behind all checks of the middleware, one branch after the other
  unfold Arrival.subject standing at h
  split at h
  · next hs =>
    split at hs
    · cases hs
    · split at hs
      · cases hs
      · next hbearer =>
        split at hs
        · cases hs
        · next principal hverify =>
          cases hs
          cases h
          obtain ⟨hissuer, key, claims, hkey, hclaims, hauth⟩ := verifyBearerToken_ok hverify
          obtain ⟨hsubject, hgroup⟩ := authorizeClaims_ok hauth
          exact ⟨hissuer, not_not.mp hbearer, key, claims, hkey, hclaims, hsubject, hgroup⟩
  · cases h

/-- A request that is handed on is public or a caller's. -/
theorem base_cases {limiter : TokenBucketLimiter} (h : (gateway settings limiter a).1 = .base) :
    Public a ∨ ∃ subject, a.subject settings = some subject := by
  rw [gateway_eq] at h
  cases hs : standing settings a with
  | open_ =>  -- without a caller only a public path is handed on
      left
      unfold standing at hs
      split at hs
      · next hpublic => exact hpublic
      · split at hs
        · cases hs
        · split at hs <;> cases hs
  | refused msg =>
      rw [hs] at h
      cases h
  | caller subject =>
      right
      refine ⟨subject, ?_⟩
      rw [Arrival.subject, hs]

/-- **No way in but by a token.** A server that is asked to serve HTTP refuses to start without an issuer;
one that starts hands a request on only if it is public or if its token verifies under a key of that
issuer, for the audience, and its claims put the caller into a required group. -/
theorem started_serves_authorized (settings : ServerSettings) (arrivals : List Arrival) :
    (settings.start .http = .ok .http → settings.oidcIssuer ≠ "") ∧
      ∀ e ∈ serve settings.toSettings arrivals, e.2 = .base →
        Public e.1 ∨ ∃ subject, e.1.subject settings.toSettings = some subject ∧
          Authorized settings.toSettings e.1 subject := by
  refine ⟨fun h => ((settings.start_ok_iff .http).mp h).1 rfl, ?_⟩
  intro e he hbase
  obtain ⟨limiter, hreply⟩ := Machine.mem_trace he
  rcases base_cases (hreply.symm.trans hbase) with hpublic | ⟨subject, hsubject⟩
  · exact .inl hpublic
  · exact .inr ⟨subject, hsubject, authorized_of_subject hsubject⟩

/-! ## How often

The limiter sees the calls of verified callers only, in their order. So its log is the run with
everything else left out, and the bound on its windows is a bound on the gateway's. -/

/-- The call of the limiter a request leads to. -/
def Arrival.call (settings : Settings) (a : Arrival) : Option Call :=
  (a.subject settings).map fun subject => { principal := subject, now := a.now }

/-- A run, as the limiter sees it. -/
def limiterLog (settings : Settings) (tr : List (Arrival × Reply)) : List Served :=
  tr.filterMap fun e => (e.1.call settings).map fun call => (call, decide (e.2 = .base))

/-- A request of this caller that is handed on. -/
abbrev Forwarded (settings : Settings) (subject : String) (e : Arrival × Reply) : Prop :=
  e.1.subject settings = some subject ∧ e.2 = .base

/-- **The limiter sees its own run**: the calls of the callers, one after the other. -/
theorem limiterLog_trace (limiter : TokenBucketLimiter) (arrivals : List Arrival) :
    limiterLog settings ((app settings).trace limiter arrivals) =
      Ratelimit.inMemory.trace limiter (arrivals.filterMap (Arrival.call settings)) := by
  -- by induction on the requests; one that never gets to the limiter leaves it as it is
  induction arrivals generalizing limiter with
  | nil => rfl
  | cons a arrivals ih =>
      have hnext := ih ((app settings).step limiter a).2
      unfold limiterLog at hnext ⊢
      rw [Machine.trace_cons, List.filterMap_cons, hnext]
      cases hsubject : a.subject settings with
      | none =>
          have hlimiter : ((app settings).step limiter a).2 = limiter := by
            show (gateway settings limiter a).2 = limiter
            exact gateway_limiter_of_not_caller hsubject
          simp [Arrival.call, hsubject, hlimiter]
      | some subject =>
          have hgateway : (app settings).step limiter a =
              ((if (limiter.allow { principal := subject, now := a.now }).1 then .base
                else rateLimited),
                (limiter.allow { principal := subject, now := a.now }).2) :=
            gateway_of_subject hsubject
          rw [hgateway]
          cases hallow : (limiter.allow { principal := subject, now := a.now }).1 <;>
            simp [Arrival.call, hsubject, hallow, Ratelimit.inMemory, rateLimited]

/-- What the limiter sees of two stretches is what it sees of each. -/
theorem limiterLog_append (tr tr' : List (Arrival × Reply)) :
    limiterLog settings (tr ++ tr') = limiterLog settings tr ++ limiterLog settings tr' :=
  List.filterMap_append

/-- What the limiter admitted is what was handed on. -/
theorem admittedCost_limiterLog (subject : String) (tr : List (Arrival × Reply)) :
    Ratelimit.admittedCost subject (limiterLog settings tr) =
      (tr.countP fun e => Forwarded settings subject e : ℕ) := by
  induction tr with  -- an exchange costs something if it is a call of this caller that was admitted
  | nil => rfl
  | cons e tr ih =>
      unfold limiterLog Ratelimit.admittedCost at ih ⊢
      rw [List.filterMap_cons, List.countP_cons, Nat.cast_add, ← ih]
      rcases Option.eq_none_or_eq_some (e.1.subject settings) with hsubject | ⟨s, hsubject⟩
      · simp [Arrival.call, hsubject, Forwarded]
      · by_cases hs : s = subject
        · by_cases hbase : e.2 = .base
          · simp [Arrival.call, hsubject, Forwarded, hs, hbase, Ratelimit.charge, add_comm]
          · simp [Arrival.call, hsubject, Forwarded, hs, hbase, Ratelimit.charge]
        · simp [Arrival.call, hsubject, Forwarded, hs]

/-- **A stretch of time.** Whatever a caller sends, and whatever others send in between, of its requests
that fall into a stretch of time no more are handed on than a full bucket and what the rate yields. -/
theorem forwarded_le {arrivals : List Arrival} {before window after : List (Arrival × Reply)}
    {start length : ℚ} (hrate : 0 ≤ settings.ratelimitRate) (hburst : 0 ≤ settings.ratelimitBurst)
    (hlength : 0 ≤ length) (hrun : serve settings arrivals = before ++ (window ++ after))
    (htime : ∀ e ∈ window, e.1.subject settings = some subject →
      start ≤ e.1.now ∧ e.1.now ≤ start + length) :
    ((window.countP fun e => Forwarded settings subject e : ℕ) : ℚ) ≤
      settings.ratelimitBurst + settings.ratelimitRate * length := by
  -- the limiter has seen the calls of the run, cut in the same places
  have hlog : served settings.ratelimitRate settings.ratelimitBurst
      (arrivals.filterMap (Arrival.call settings)) =
      limiterLog settings before ++ (limiterLog settings window ++ limiterLog settings after) := by
    rw [← limiterLog_append, ← limiterLog_append, ← hrun]
    exact (limiterLog_trace ..).symm
  rw [← admittedCost_limiterLog]
  apply Ratelimit.admittedCost_le hrate (by exact_mod_cast hburst) hlength hlog
  intro s hs hp
  simp only [limiterLog, List.mem_filterMap] at hs
  -- the calls of this caller in the window come from exchanges in the window
  obtain ⟨e, he, hcall⟩ := hs
  cases hsubject : e.1.subject settings with
  | none => simp [Arrival.call, hsubject] at hcall
  | some subject' =>
      simp only [Arrival.call, hsubject, Option.map_some, Option.some.injEq] at hcall
      subst hcall
      have hname : subject' = subject := hp
      exact htime e he (by rw [hsubject, hname])

end SreAgent.Gateway
