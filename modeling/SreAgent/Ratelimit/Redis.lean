import SreAgent.Ratelimit.Admission

/-!
# The Redis limiter against the in-memory one

Both limiters do the same arithmetic; they differ in how long a bucket lives. The simulation
`Agree` therefore pairs every in-memory bucket with a Redis hash that holds the same two numbers
and is due to expire `ttl` seconds after them. As long as a bucket left alone for `ttl` seconds is
full again (`burst_le_ttl_mul_rate`), an expired hash and its in-memory twin offer the same tokens,
and the simulation goes through. That is the case for every positive rate, and it is the only case
that matters: at rate `0` a spent bucket never refills in memory, while Redis drops it after an
hour and hands out a full one.

The two conditions on the calls are what the gateway guarantees of its own: it stamps requests as
their turn comes, and each costs one token.
-/

namespace SreAgent.Ratelimit

def freshRedis (ns : String) (rate burst : ℚ) : RedisTokenBucketLimiter := { rate, burst, ns }

/-- Time stamps do not decrease. -/
def InOrder (calls : List Call) : Prop := calls.Pairwise fun a b => a.now ≤ b.now

/-- Every call costs something. -/
abbrev Costly (calls : List Call) : Prop := ∀ c ∈ calls, 0 < c.cost

/-- The two limiters answer every admissible sequence of calls alike: one may be put in the place of
the other without any caller noticing, however the calls are spaced. -/
def SameDecisions (ns : String) (rate burst : ℚ) : Prop :=
  ∀ calls, InOrder calls → Costly calls →
    inMemory.trace (fresh rate burst) calls = inRedis.trace (freshRedis ns rate burst) calls

/-! ## The time to live

`ttl` is a full refill rounded up, plus one second. The rounding is the whole argument: a fraction
of a second less, and an expired bucket could be fuller than the one it replaces. -/

variable {rate burst : ℚ}

/-- `ttl` seconds are enough to fill an empty bucket. -/
theorem burst_le_ttl_mul_rate {red : RedisTokenBucketLimiter} (hr : 0 ≤ red.rate)
    (hb : 0 ≤ red.burst) (h : 0 < red.rate ∨ red.burst = 0) :
    red.burst ≤ red.ttl * red.rate := by
  -- at a positive rate the time to live is a full refill rounded up; at rate zero there is
  -- nothing to fill
  by_cases hpos : 0 < red.rate
  · have hq : 0 ≤ red.burst / red.rate := div_nonneg hb hr
    have hint : red.burst / red.rate ≤ (pyInt (red.burst / red.rate) + 1 : ℤ) := by
      rw [pyInt, if_pos hq]; push_cast; exact (Int.lt_floor_add_one _).le
    have httl : pyInt (red.burst / red.rate) + 1 ≤ red.ttl := by
      rw [RedisTokenBucketLimiter.ttl, if_neg (not_le.mpr hpos)]; exact le_max_right _ _
    have hle : red.burst / red.rate ≤ (red.ttl : ℚ) := hint.trans (by exact_mod_cast httl)
    exact (div_le_iff₀ hpos).mp hle
  · have hz : red.rate = 0 := le_antisymm (not_lt.mp hpos) hr
    rcases h with h | h
    · exact absurd h hpos
    · simp [h, hz]

/-! ## The simulation

The relation is between buckets, principal by principal, together with what is known of a bucket:
that it is not overdrawn, and that its stamp is one of the calls so far. The first is needed where a
hash has expired, the second to know that time has passed since. -/

/-- A stored bucket and its hash. The bucket is not overdrawn and was last touched by one of the
calls so far. -/
structure Paired (ttl : ℤ) (past : List Call) (b : Bucket) (h : RedisHash) : Prop where
  tokens    : h.tokens = b.tokens
  updated   : h.updated = b.updated
  expires   : h.expiresAt = b.updated + ttl
  nonneg    : 0 ≤ b.tokens
  last_call : ∃ j ∈ past, b.updated = j.now

/-- The two limiters hold the same buckets. -/
structure Agree (ns : String) (rate burst : ℚ) (past : List Call) (lim : TokenBucketLimiter)
    (red : RedisTokenBucketLimiter) : Prop where
  lim_rate  : lim.rate = rate
  lim_burst : lim.burst = burst
  red_rate  : red.rate = rate
  red_burst : red.burst = burst
  buckets   : ∀ p, Option.Rel (Paired red.ttl past) (lim.buckets p) (red.db (red.key p))

variable {ns : String} {past : List Call} {lim : TokenBucketLimiter}
  {red : RedisTokenBucketLimiter}

/-- Both find the same tokens available, and not less than none. -/
theorem Agree.available_eq (hr : 0 ≤ rate) (hb : 0 ≤ burst) (hfull : 0 < rate ∨ burst = 0)
    (h : Agree ns rate burst past lim red) (call : Call) (hnow : ∀ j ∈ past, j.now ≤ call.now) :
    lim.available call = red.available call ∧ 0 ≤ lim.available call := by
  have hkey := h.buckets call.principal
  simp only [TokenBucketLimiter.available, RedisTokenBucketLimiter.available, Redis.hmget,
    h.lim_rate, h.lim_burst, h.red_rate, h.red_burst]
  generalize lim.buckets call.principal = ob at hkey ⊢
  generalize red.db (red.key call.principal) = oh at hkey ⊢
  cases hkey with
  | none => simp [hb]
  | @some b hash hpair =>
      obtain ⟨j, hj, hupd⟩ := hpair.last_call
      have helapsed : 0 ≤ call.now - b.updated := by linarith [hnow j hj]
      have hmem : 0 ≤ min burst (b.tokens + (call.now - b.updated) * rate) :=
        CappedBucket.refill_nonneg hb hr hpair.nonneg helapsed
      refine ⟨?_, hmem⟩
      dsimp only [Option.getD_some]
      split
      · simp [hpair.tokens, hpair.updated]
      · next hgone =>
        -- the hash expired: the bucket kept in memory has refilled meanwhile
        have hidle : (red.ttl : ℚ) ≤ call.now - b.updated := by
          rw [hpair.expires] at hgone; linarith
        have hcap : burst ≤ (call.now - b.updated) * rate := by
          have httl : red.burst ≤ red.ttl * red.rate := by
            apply burst_le_ttl_mul_rate
            · rwa [h.red_rate]
            · rwa [h.red_burst]
            · rwa [h.red_rate, h.red_burst]
          rw [h.red_rate, h.red_burst] at httl
          exact httl.trans (mul_le_mul_of_nonneg_right hidle hr)
        have hrefill : min burst (b.tokens + (call.now - b.updated) * rate) = burst :=
          CappedBucket.refill_eq_cap hpair.nonneg hcap
        simp [hrefill]

/-- A call changes the keyspace only: not the time to live, and not the keys. -/
theorem RedisTokenBucketLimiter.allow_ttl (red : RedisTokenBucketLimiter) (call : Call) :
    (red.allow call).2.ttl = red.ttl := by rw [red.allow_eq]; rfl

theorem RedisTokenBucketLimiter.allow_key (red : RedisTokenBucketLimiter) (call : Call)
    (p : String) : (red.allow call).2.key p = red.key p := by rw [red.allow_eq]; rfl

/-- **One call**: same answer, and the limiters still agree. A key that has expired stands for a
bucket that is full again. -/
theorem Agree.allow (hr : 0 ≤ rate) (hb : 0 ≤ burst) (hfull : 0 < rate ∨ burst = 0)
    (h : Agree ns rate burst past lim red) (call : Call) (hnow : ∀ j ∈ past, j.now ≤ call.now) :
    (lim.allow call).1 = (red.allow call).1 ∧
      Agree ns rate burst (past ++ [call]) (lim.allow call).2 (red.allow call).2 := by
  obtain ⟨havail, hnonneg⟩ := h.available_eq hr hb hfull call hnow
  have hans : (lim.allow call).1 = (red.allow call).1 := by
    rw [lim.allow_eq, red.allow_eq, havail]
  refine ⟨hans, ?_⟩
  have hkeys := red.allow_key call
  have httl := red.allow_ttl call
  constructor
  · rw [lim.allow_eq]; exact h.lim_rate
  · rw [lim.allow_eq]; exact h.lim_burst
  · rw [red.allow_eq]; exact h.red_rate
  · rw [red.allow_eq]; exact h.red_burst
  · intro p
    rw [hkeys, httl, lim.allow_eq, red.allow_eq]
    rcases eq_or_ne p call.principal with rfl | hp
    -- a bucket is never overdrawn: a call that costs more is refused
    · have hleft : 0 ≤ lim.available call
          - charge call (decide (call.cost ≤ lim.available call)) := by
        by_cases hle : call.cost ≤ lim.available call
        · simp [charge, hle]
        · simpa [charge, hle] using hnonneg
      simp only [TokenBucketLimiter.put, Redis.hmset, Function.update_self, ← havail]
      exact .some ⟨rfl, rfl, rfl, hleft, call, by simp, rfl⟩
    -- another principal's bucket stays, and its last call stays among the past ones
    · have hkp : red.key p ≠ red.key call.principal := fun e => hp (red.key_inj.mp e)
      simp only [TokenBucketLimiter.put, Redis.hmset, Function.update_of_ne hp,
        Function.update_of_ne hkp]
      have hold := h.buckets p
      generalize lim.buckets p = ob at hold ⊢
      generalize red.db (red.key p) = oh at hold ⊢
      cases hold with
      | none => exact .none
      | some hpair =>
          obtain ⟨j, hj, hupd⟩ := hpair.last_call
          exact .some { hpair with last_call := ⟨j, by simp [hj], hupd⟩ }

/-- **Every run** has the same decisions, by induction on its calls, if a bucket that is never
refilled is of no size. -/
theorem sameDecisions_of_refill (ns : String) (hr : 0 ≤ rate) (hb : 0 ≤ burst)
    (hfull : 0 < rate ∨ burst = 0) : SameDecisions ns rate burst := by
  intro calls hord hcost
  have start : Agree ns rate burst [] (fresh rate burst) (freshRedis ns rate burst) :=
    ⟨rfl, rfl, rfl, rfl, fun _ => .none⟩
  refine Machine.trace_eq_of_sim (R := Agree ns rate burst) start ?_ hord hcost
  intro past lim red call h hnow _
  exact h.allow hr hb hfull call hnow

/-! ## Rate zero

The code's own special case: `ttl` is an hour where there is no refill to wait for. That is where
the two limiters part. -/

/-- Two calls an hour apart, each for the whole burst. -/
def hourApart (burst : ℚ) : List Call := [⟨"alice", burst, 0⟩, ⟨"alice", burst, 3600⟩]

/-- The later one is stamped later, and both cost something. -/
theorem hourApart_inOrder (burst : ℚ) : InOrder (hourApart burst) := by
  simp [InOrder, hourApart]

theorem hourApart_costly (hb : 0 < burst) : Costly (hourApart burst) := by
  simp [Costly, hourApart, hb]

/-- In memory the second one is refused: nothing has refilled. -/
theorem hourApart_inMemory (hb : 0 < burst) :
    (inMemory.trace (fresh 0 burst) (hourApart burst)).map Prod.snd = [true, false] := by
  simp [hourApart, inMemory, fresh, TokenBucketLimiter.allow_eq, TokenBucketLimiter.available,
    TokenBucketLimiter.put, charge, hb, hb.le]

/-- In Redis it is admitted: the hash is gone. -/
theorem hourApart_inRedis (ns : String) (burst : ℚ) :
    (inRedis.trace (freshRedis ns 0 burst) (hourApart burst)).map Prod.snd = [true, true] := by
  simp [hourApart, inRedis, freshRedis, RedisTokenBucketLimiter.allow_eq,
    RedisTokenBucketLimiter.available, RedisTokenBucketLimiter.ttl, RedisTokenBucketLimiter.key,
    Redis.hmget, Redis.hmset, charge]

/-- So the limiters disagree, whatever the burst. -/
theorem not_sameDecisions_zero (ns : String) (hb : 0 < burst) : ¬ SameDecisions ns 0 burst := by
  intro h
  have heq := congrArg (List.map Prod.snd)
    (h (hourApart burst) (hourApart_inOrder burst) (hourApart_costly hb))
  rw [hourApart_inMemory hb, hourApart_inRedis ns burst] at heq
  simp at heq

/-- **Exactly when the limiters agree**: when the rate refills a bucket at all, or there is no
bucket to refill. -/
theorem sameDecisions_iff (ns : String) (rate burst : ℚ) (hr : 0 ≤ rate) (hb : 0 ≤ burst) :
    SameDecisions ns rate burst ↔ 0 < rate ∨ burst = 0 := by
  refine ⟨fun h => ?_, sameDecisions_of_refill ns hr hb⟩
  by_contra hno
  obtain ⟨hrate, hburst⟩ := not_or.mp hno
  have hz : rate = 0 := le_antisymm (not_lt.mp hrate) hr
  subst hz
  exact not_sameDecisions_zero ns (lt_of_le_of_ne hb (Ne.symm hburst)) h

theorem sameDecisions_iff_default :
    SameDecisions "ratelimit" 5 30 ↔ (0 : ℚ) < 5 ∨ (30 : ℚ) = 0 :=
  sameDecisions_iff "ratelimit" 5 30 (by norm_num) (by norm_num)

/-- A budget of one token that is never replenished: the in-memory limiter admits one call, the
Redis one admits another an hour later. -/
theorem redis_forgets_spent_budget :
    ¬ SameDecisions "ratelimit" 0 1 ∧
      (inMemory.trace (fresh 0 1) (hourApart 1)).map Prod.snd = [true, false] ∧
      (inRedis.trace (freshRedis "ratelimit" 0 1) (hourApart 1)).map Prod.snd = [true, true] :=
  ⟨not_sameDecisions_zero _ one_pos, hourApart_inMemory one_pos, hourApart_inRedis _ _⟩

end SreAgent.Ratelimit
