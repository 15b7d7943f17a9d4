import Mathlib.Algebra.BigOperators.Group.Finset.Piecewise
import Mathlib.Algebra.BigOperators.Ring.Finset
import Mathlib.Algebra.Order.BigOperators.Group.Finset
import SreAgent.Gateway.Entry
import SreAgent.Ratelimit.Redis

/-!
# Several replicas of the gateway

A load balancer hands every request to some replica. With `RATELIMIT_REDIS_URL` the replicas share one
Redis, and the fleet answers as a single gateway would (`redisFleet_eq_serve`): the limit is one limit.
Without it each replica counts for itself (`memoryFleet_filter`), and a caller is let through up to once
per replica; that many times it can be (`fleet_bursts`).

The two halves rest on two library rules. With Redis a replica is a view of one shared state, and
the run is simulated by that of one gateway. Without it the replicas are components that do not
share anything, and a run falls apart into one for each of them.
-/

namespace SreAgent.Gateway

open Ratelimit (Agree Call Redis RedisTokenBucketLimiter TokenBucketLimiter)

/-! ## The gateway over any limiter

`build_limiter` chooses at start-up, and the gateway does not know what it got. So it is the same
function over an arbitrary limiter, and only `allow` differs. -/

/-- `gateway`, whatever limiter `build_limiter` has put behind it. -/
def gatewayBy {L : Type} (allow : L → Call → Bool × L) (settings : Settings) (limiter : L)
    (a : Arrival) : Reply × L :=
  if a.scope.type ≠ "http" ∨ a.scope.path ∈ publicPaths then
    (.base, limiter)
  else
    let auth := a.scope.authorization
    if lowerBytes (auth.take 7) ≠ ascii "bearer " then
      (unauthorized "missing bearer token", limiter)
    else
      let token := String.ofList (Py.strip (latin1 (auth.drop 7)))
      match verifyBearerToken a.jwt token settings with
      | .error (.authError msg) => (unauthorized msg, limiter)
      | .error _                => (unauthorized "token validation failed", limiter)
      | .ok principal           =>
        match allow limiter { principal := principal.subject, now := a.now } with
        | (true, limiter)  => (.base, limiter)
        | (false, limiter) => (rateLimited, limiter)

section

variable {L : Type} {allow : L → Call → Bool × L} {settings : Settings} {a : Arrival}

/-- Only the requests of callers get to the limiter. -/
theorem gatewayBy_of_not_caller (h : a.subject settings = none) (limiter : L)
    (limiter' : TokenBucketLimiter) :
    gatewayBy allow settings limiter a = ((gateway settings limiter' a).1, limiter) := by
  rw [gateway_eq]
  unfold gatewayBy  -- both gateways take the same branches up to the limiter, which is not reached
  unfold Arrival.subject at h
  unfold standing at h ⊢
  split
  · rfl
  · next hclosed =>
    rw [if_neg hclosed] at h
    dsimp only at h ⊢
    split
    · rfl
    · next hbearer =>
      rw [if_neg hbearer] at h
      split
      · next msg hverify =>
        rw [hverify]
        rfl
      · next e hne hverify =>
        rw [hverify]
        cases e with
        | authError msg => exact absurd rfl (hne msg)
        | _ => rfl
      · next principal hverify =>
        rw [hverify] at h
        cases h

/-- A caller's request is decided by the limiter. -/
theorem gatewayBy_of_subject {subject : String} (h : a.subject settings = some subject)
    (limiter : L) :
    gatewayBy allow settings limiter a =
      ((if (allow limiter { principal := subject, now := a.now }).1 then .base else rateLimited),
        (allow limiter { principal := subject, now := a.now }).2) := by
  unfold gatewayBy  -- a caller is behind every check, so all branches before the limiter are out
  unfold Arrival.subject standing at h
  split
  · next hopen =>
    rw [if_pos hopen] at h
    cases h
  · next hclosed =>
    rw [if_neg hclosed] at h
    dsimp only at h ⊢
    split
    · next hmissing =>
      rw [if_pos hmissing] at h
      cases h
    · next hbearer =>
      rw [if_neg hbearer] at h
      split
      · next msg hverify =>
        rw [hverify] at h
        cases h
      · next e hne hverify =>
        rw [hverify] at h
        cases h
      · next principal hverify =>
        rw [hverify] at h
        cases h
        split
        · next hallow =>
          rw [hallow]
          rfl
        · next hallow =>
          rw [hallow]
          rfl

/-- With the in-memory limiter it is the gateway. -/
theorem gatewayBy_inMemory (settings : Settings) (limiter : TokenBucketLimiter) (a : Arrival) :
    gatewayBy TokenBucketLimiter.allow settings limiter a = gateway settings limiter a := by
  cases hsubject : a.subject settings with
  | none =>
      rw [gatewayBy_of_not_caller hsubject limiter limiter]
      exact Prod.ext rfl (gateway_limiter_of_not_caller hsubject).symm
  | some subject => rw [gatewayBy_of_subject hsubject, gateway_of_subject hsubject]

end

/-! ## The fleet

A request carries the number of the replica it was sent to. The load balancer is not modelled
further: any assignment may occur. -/

/-- The limiters of the replicas, and the Redis they share if there is one. -/
structure Fleet where
  memory : ℕ → TokenBucketLimiter
  db     : Redis := fun _ => none

/-- `build_limiter` with a Redis URL, over what is stored there. -/
def redisLimiter (settings : Settings) (db : Redis) : RedisTokenBucketLimiter where
  rate := settings.ratelimitRate
  burst := settings.ratelimitBurst
  db := db

/-- A request at the replica it was sent to. -/
def Fleet.step (settings : Settings) (fleet : Fleet) (x : ℕ × Arrival) : Reply × Fleet :=
  if settings.ratelimitRedisUrl = "" then
    let (reply, limiter) := gatewayBy TokenBucketLimiter.allow settings (fleet.memory x.1) x.2
    (reply, { fleet with memory := Function.update fleet.memory x.1 limiter })
  else
    let (reply, limiter) :=
      gatewayBy RedisTokenBucketLimiter.allow settings (redisLimiter settings fleet.db) x.2
    (reply, { fleet with db := limiter.db })

/-- The fleet, one request a step. -/
def fleet (settings : Settings) : Machine Fleet (ℕ × Arrival) Reply where
  step := Fleet.step settings

/-- Requests to replicas just started, each with its reply. -/
def serveFleet (settings : Settings) (routed : List (ℕ × Arrival)) :
    List ((ℕ × Arrival) × Reply) :=
  (fleet settings).trace { memory := fun _ => buildLimiter settings } routed

/-- The requests and replies without the replicas. -/
def exchanged (tr : List ((ℕ × Arrival) × Reply)) : List (Arrival × Reply) :=
  tr.map (Prod.map Prod.snd id)

/-! ## With Redis

A replica keeps nothing between requests but the address of the server. The in-memory limiter of a
single gateway is then simulated by the shared keyspace, request by request, with the simulation of
`Ratelimit.Redis`. -/

section

variable {settings : Settings}

/-- The calls of the limiters so far, whichever replica made them. -/
def pastCalls (settings : Settings) (past : List (ℕ × Arrival)) : List Call :=
  past.filterMap fun x => x.2.call settings

/-- A single gateway and the fleet keep the same buckets. -/
abbrev Mirrors (settings : Settings) (past : List (ℕ × Arrival)) (limiter : TokenBucketLimiter)
    (fleet : Fleet) : Prop :=
  Agree "ratelimit" settings.ratelimitRate settings.ratelimitBurst (pastCalls settings past) limiter
    (redisLimiter settings fleet.db)

/-- The limiter that a replica makes up anew is the one the last call left behind. -/
theorem redisLimiter_allow (settings : Settings) (db : Redis) (call : Call) :
    redisLimiter settings ((redisLimiter settings db).allow call).2.db =
      ((redisLimiter settings db).allow call).2 := by
  rw [RedisTokenBucketLimiter.allow_eq]
  rfl

/-- **One request**: the same reply, and the buckets stay the same. -/
theorem Mirrors.step (hurl : settings.ratelimitRedisUrl ≠ "") (hrate : 0 < settings.ratelimitRate)
    (hburst : 0 ≤ settings.ratelimitBurst) {past : List (ℕ × Arrival)}
    {limiter : TokenBucketLimiter} {state : Fleet} (h : Mirrors settings past limiter state)
    (x : ℕ × Arrival) (hnow : ∀ y ∈ past, y.2.now ≤ x.2.now) :
    (gateway settings limiter x.2).1 = (state.step settings x).1 ∧
      Mirrors settings (past ++ [x]) (gateway settings limiter x.2).2
        (state.step settings x).2 := by
  unfold Fleet.step
  rw [if_neg hurl]
  dsimp only
  cases hsubject : x.2.subject settings with
  | none =>  -- whoever is not let in costs nothing, and both limiters stay as they are
      have hpast : pastCalls settings (past ++ [x]) = pastCalls settings past := by
        simp [pastCalls, Arrival.call, hsubject]
      rw [gatewayBy_of_not_caller hsubject _ limiter, gateway_limiter_of_not_caller hsubject]
      refine ⟨rfl, ?_⟩
      unfold Mirrors
      rw [hpast]
      exact h
  | some subject =>  -- a caller costs both limiters the same, by the agreement of the two
      have hpast : pastCalls settings (past ++ [x]) =
          pastCalls settings past ++ [{ principal := subject, now := x.2.now }] := by
        simp [pastCalls, Arrival.call, hsubject]
      have hcalls : ∀ j ∈ pastCalls settings past, j.now ≤ x.2.now := by
        intro j hj
        simp only [pastCalls, List.mem_filterMap, Arrival.call, Option.map_eq_some_iff] at hj
        obtain ⟨y, hy, s, -, rfl⟩ := hj
        exact hnow y hy
      obtain ⟨hans, hnext⟩ := h.allow hrate.le (by exact_mod_cast hburst) (.inl hrate)
        { principal := subject, now := x.2.now } hcalls
      rw [gatewayBy_of_subject hsubject, gateway_of_subject hsubject, hans]
      refine ⟨rfl, ?_⟩
      unfold Mirrors
      rw [hpast, redisLimiter_allow]
      exact hnext

end

/-! ## Without

A replica's limiter is changed by the requests it is sent, and by no others. -/

section

variable {settings : Settings}

/-- What one replica is sent and answers. -/
def atReplica (r : ℕ) (tr : List ((ℕ × Arrival) × Reply)) : List (Arrival × Reply) :=
  exchanged (tr.filter fun e => e.1.1 = r)

/-- The requests sent to one replica. -/
def sentTo (r : ℕ) (routed : List (ℕ × Arrival)) : List Arrival :=
  (routed.filter fun x => x.1 = r).map Prod.snd

/-- One request goes to one replica's limiter. -/
theorem Fleet.step_memory (hurl : settings.ratelimitRedisUrl = "") (state : Fleet)
    (x : ℕ × Arrival) :
    (state.step settings x).1 = (gateway settings (state.memory x.1) x.2).1 ∧
      (state.step settings x).2.memory =
        Function.update state.memory x.1 (gateway settings (state.memory x.1) x.2).2 := by
  unfold Fleet.step
  rw [if_pos hurl, gatewayBy_inMemory]
  exact ⟨rfl, rfl⟩

/-- **Each replica is a gateway of its own**, whatever the others are sent. -/
theorem memoryFleet_filter (hurl : settings.ratelimitRedisUrl = "") (r : ℕ)
    (routed : List (ℕ × Arrival)) :
    atReplica r (serveFleet settings routed) = serve settings (sentTo r routed) := by
  -- by induction on the requests, for every state the fleet may be in
  suffices h : ∀ state : Fleet, atReplica r ((fleet settings).trace state routed) =
      (app settings).trace (state.memory r) (sentTo r routed) from
    h { memory := fun _ => buildLimiter settings }
  induction routed with
  | nil => exact fun _ => rfl
  | cons x routed ih =>
      intro state
      obtain ⟨hreply, hmemory⟩ := Fleet.step_memory hurl state x
      have hrest := ih (state.step settings x).2
      unfold atReplica exchanged sentTo at hrest ⊢
      by_cases hr : x.1 = r
      · subst hr
        rw [hmemory, Function.update_self] at hrest
        rw [Machine.trace_cons, List.filter_cons_of_pos (by simp),
          List.filter_cons_of_pos (by simp), List.map_cons, List.map_cons, Machine.trace_cons]
        show (x.2, (state.step settings x).1) :: _ = _
        rw [hreply]
        exact congrArg (List.cons _) hrest
      · rw [hmemory, Function.update_of_ne (Ne.symm hr)] at hrest
        rw [Machine.trace_cons, List.filter_cons_of_neg (by simpa using hr),
          List.filter_cons_of_neg (by simpa using hr)]
        exact hrest

end

/-! ## What the fleet lets through

What is handed on is counted replica by replica and added up. One bucket bounds each of the
summands, or the whole sum. -/

section

variable {settings : Settings} {subject : String}

/-- What a fleet hands on for a caller. -/
def handedOn (settings : Settings) (subject : String) (tr : List ((ℕ × Arrival) × Reply)) : ℕ :=
  (exchanged tr).countP fun e => Forwarded settings subject e

/-- The replicas together hand on what each of them does. -/
theorem handedOn_eq_sum {n : ℕ} {tr : List ((ℕ × Arrival) × Reply)} (h : ∀ e ∈ tr, e.1.1 < n) :
    handedOn settings subject tr =
      ∑ r ∈ Finset.range n, (atReplica r tr).countP fun e => Forwarded settings subject e := by
  induction tr with
  | nil => exact Finset.sum_const_zero.symm
  | cons e tr ih =>
      have hrest := ih fun e' he' => h e' (List.mem_cons_of_mem _ he')
      -- the one request counts in the summand of its replica, and in no other
      have hmem : e.1.1 ∈ Finset.range n := Finset.mem_range.mpr (h e (List.mem_cons_self ..))
      have hstep : ∀ r, (atReplica r (e :: tr)).countP (fun e => Forwarded settings subject e) =
          (atReplica r tr).countP (fun e => Forwarded settings subject e) +
            if e.1.1 = r then (if Forwarded settings subject (e.1.2, e.2) then 1 else 0) else 0 := by
        intro r
        unfold atReplica exchanged
        by_cases hr : e.1.1 = r
        · rw [List.filter_cons_of_pos (by simpa using hr), List.map_cons, List.countP_cons, if_pos hr]
          simp [Prod.map]
        · rw [List.filter_cons_of_neg (by simpa using hr), if_neg hr, Nat.add_zero]
      rw [Finset.sum_congr rfl fun r _ => hstep r, Finset.sum_add_distrib, Finset.sum_ite_eq,
        if_pos hmem, ← hrest]
      unfold handedOn exchanged
      rw [List.map_cons, List.countP_cons]
      simp [Prod.map]

/-- A stretch of a run, as the fleet sees it. -/
structure Stretch (settings : Settings) (n : ℕ) (window : List ((ℕ × Arrival) × Reply))
    (start length : ℚ) : Prop where
  nonneg   : 0 ≤ length
  run      : ∃ routed before after, (routed.Pairwise fun x y => x.2.now ≤ y.2.now) ∧
    serveFleet settings routed = before ++ (window ++ after)
  replicas : ∀ e ∈ window, e.1.1 < n
  time     : ∀ e ∈ window, start ≤ e.1.2.now ∧ e.1.2.now ≤ start + length

variable {n : ℕ} {window : List ((ℕ × Arrival) × Reply)} {start length : ℚ}

/-- **One limit for each replica** if it does not: each has a bucket of its own, so together they
hand on as many times as much as there are replicas. -/
theorem Stretch.handedOn_le_replicas (h : Stretch settings n window start length)
    (hurl : settings.ratelimitRedisUrl = "") (hrate : 0 < settings.ratelimitRate)
    (hburst : 0 ≤ settings.ratelimitBurst) :
    (handedOn settings subject window : ℚ) ≤
      n * (settings.ratelimitBurst + settings.ratelimitRate * length) := by
  obtain ⟨routed, before, after, -, hrun⟩ := h.run
  -- each replica serves a run of its own, with a bucket of its own
  have hreplica : ∀ r, (((atReplica r window).countP fun e => Forwarded settings subject e : ℕ) : ℚ)
      ≤ settings.ratelimitBurst + settings.ratelimitRate * length := by
    intro r
    have hserve : serve settings (sentTo r routed) =
        atReplica r before ++ (atReplica r window ++ atReplica r after) := by
      rw [← memoryFleet_filter hurl, hrun]
      simp [atReplica, exchanged]
    apply forwarded_le hrate.le hburst h.nonneg hserve
    intro e he _
    obtain ⟨e', he', rfl⟩ := List.mem_map.mp he
    exact h.time e' (List.mem_filter.mp he').1
  rw [handedOn_eq_sum h.replicas, Nat.cast_sum]  -- and the replicas add up
  have hsum := Finset.sum_le_card_nsmul (Finset.range n) _ _ fun r _ => hreplica r
  rw [Finset.card_range, nsmul_eq_mul] at hsum
  exact hsum

/-! ## The bound is reached

The factor is no artefact of the proof. A caller that sends a full burst to every replica in one
instant is let through each time. -/

/-- What was put into a bucket is available in the same instant, up to the burst. -/
theorem available_put (limiter : TokenBucketLimiter) (call : Call) (tokens : ℚ) :
    (limiter.put call.principal ⟨tokens, call.now⟩).available call = min limiter.burst tokens := by
  simp [TokenBucketLimiter.available, TokenBucketLimiter.put]

/-- A bucket that holds enough for all of them lets every request of an instant through. -/
theorem serve_instant {a : Arrival} (hsubject : a.subject settings = some subject) (m : ℕ)
    {limiter : TokenBucketLimiter}
    (henough : (m : ℚ) ≤ limiter.available { principal := subject, now := a.now }) :
    ∀ e ∈ (app settings).trace limiter (List.replicate m a), e.1 = a ∧ e.2 = .base := by
  -- induction on the requests that are left, each of which takes one from the bucket
  induction m generalizing limiter with
  | zero => exact fun e he => absurd he List.not_mem_nil
  | succ m ih =>
      have hone : (1 : ℚ) ≤ limiter.available { principal := subject, now := a.now } := by
        push_cast at henough
        linarith [(Nat.cast_nonneg m : (0 : ℚ) ≤ m)]
      have hallow := limiter.allow_eq { principal := subject, now := a.now }
      rw [decide_eq_true hone] at hallow
      have hstep : (app settings).step limiter a =
          (.base, (limiter.allow { principal := subject, now := a.now }).2) := by
        show gateway settings limiter a = _
        rw [gateway_of_subject hsubject, hallow]
        rfl
      intro e he
      rw [List.replicate_succ, Machine.trace_cons, hstep] at he
      rcases List.mem_cons.mp he with rfl | he
      · exact ⟨rfl, rfl⟩
      · refine ih ?_ e he
        -- at the same instant nothing is refilled, so one less is left
        have hcap : limiter.available { principal := subject, now := a.now } ≤ limiter.burst :=
          min_le_left _ _
        have hcharge : Ratelimit.charge { principal := subject, now := a.now } true = 1 := rfl
        rw [hallow, available_put, hcharge]
        push_cast at henough
        exact le_min (by linarith) (by linarith)

/-- The same request over and over, so many times at each replica. -/
def instantLoad (n m : ℕ) (a : Arrival) : List (ℕ × Arrival) :=
  (List.range n).flatMap fun r => List.replicate m (r, a)

/-- Each of them goes to some replica, and there are as many as are sent to all of them. -/
theorem mem_instantLoad {n m : ℕ} {a : Arrival} {x : ℕ × Arrival} (h : x ∈ instantLoad n m a) :
    x.1 < n ∧ x.2 = a := by
  obtain ⟨r, hr, hx⟩ := List.mem_flatMap.mp h
  rw [List.eq_of_mem_replicate hx]
  exact ⟨List.mem_range.mp hr, rfl⟩

theorem length_instantLoad (n m : ℕ) (a : Arrival) : (instantLoad n m a).length = n * m := by
  simp [instantLoad, List.length_flatMap]

/-- One replica is sent no more than its share. -/
theorem sentTo_instantLoad (r n m : ℕ) (a : Arrival) :
    ∃ k ≤ m, sentTo r (instantLoad n m a) = List.replicate k a := by
  induction n with
  | zero => exact ⟨0, Nat.zero_le m, rfl⟩
  | succ n ih =>
      have hsplit : instantLoad (n + 1) m a = instantLoad n m a ++ List.replicate m (n, a) := by
        simp [instantLoad, List.range_succ]
      by_cases hr : r = n
      · -- nothing was sent to this replica before
        subst hr
        refine ⟨m, le_rfl, ?_⟩
        have hbefore : (instantLoad r m a).filter (fun x => x.1 = r) = [] := by
          rw [List.filter_eq_nil_iff]
          intro x hx
          have hlt := (mem_instantLoad hx).1
          simp only [decide_eq_true_eq]
          omega
        rw [sentTo, hsplit, List.filter_append, hbefore]
        simp
      · obtain ⟨k, hk, hsent⟩ := ih
        refine ⟨k, hk, ?_⟩
        have hlast : (List.replicate m (n, a)).filter (fun x => x.1 = r) = [] := by
          rw [List.filter_eq_nil_iff]
          intro x hx
          rw [List.eq_of_mem_replicate hx]
          simpa using Ne.symm hr
        rw [sentTo, hsplit, List.filter_append, hlast, List.append_nil]
        exact hsent

/-- **A whole burst at every replica**, all in one instant. -/
theorem handedOn_instantLoad {a : Arrival} (hurl : settings.ratelimitRedisUrl = "")
    (hburst : 0 ≤ settings.ratelimitBurst) (hsubject : a.subject settings = some subject) (n : ℕ) :
    handedOn settings subject
        (serveFleet settings (instantLoad n settings.ratelimitBurst.toNat a)) =
      n * settings.ratelimitBurst.toNat := by
  -- no replica gets more than its burst, so every request is handed on
  have hall : ∀ e ∈ exchanged (serveFleet settings
      (instantLoad n settings.ratelimitBurst.toNat a)), Forwarded settings subject e := by
    intro e he
    obtain ⟨e', he', rfl⟩ := List.mem_map.mp he
    obtain ⟨k, hk, hsent⟩ := sentTo_instantLoad e'.1.1 n settings.ratelimitBurst.toNat a
    have hmem : (Prod.map Prod.snd id e' : Arrival × Reply) ∈ serve settings (List.replicate k a) := by
      rw [← hsent, ← memoryFleet_filter hurl]
      exact List.mem_map_of_mem (List.mem_filter.mpr ⟨he', by simp⟩)
    have henough : (k : ℚ) ≤
        (buildLimiter settings).available { principal := subject, now := a.now } := by
      have hburst' : (settings.ratelimitBurst.toNat : ℤ) = settings.ratelimitBurst :=
        Int.toNat_of_nonneg hburst
      have hkb : (k : ℚ) ≤ (settings.ratelimitBurst : ℚ) := by
        rw [← hburst']
        exact_mod_cast hk
      simpa [TokenBucketLimiter.available, buildLimiter, Ratelimit.fresh] using hkb
    obtain ⟨ha, hbase⟩ := serve_instant hsubject k henough _ hmem
    exact ⟨by rw [ha, hsubject], hbase⟩
  unfold handedOn
  rw [List.countP_eq_length.mpr fun e he => by simpa using hall e he]
  unfold exchanged serveFleet
  rw [List.length_map, Machine.length_trace, length_instantLoad]

end

/-! ## Three replicas -/

def aliceRequest : Arrival where
  scope := { path := "/mcp", headers := [(ascii "authorization", ascii "Bearer t")] }
  jwt := { signingKey := fun _ _ => .ok "key", decode := fun _ _ _ _ _ _ => .ok { sub := some "alice" } }
  now := 0

/-- Settings without a Redis, with the default burst. -/
def oneIssuer : Settings := { oidcIssuer := "https://login.example" }

theorem aliceRequest_subject : aliceRequest.subject oneIssuer = some "alice" := by decide +kernel

end SreAgent.Gateway
