import SreAgent.Lib.Rounding
import SreAgent.Ratelimit.Burst

/-!
# The burst of concurrent callers, in doubles

The two limiters again, this time with every result of an operation rounded: `self.rate`, the
stamps, the stored tokens and the numbers of the Lua script are doubles, and a sum, a difference, a
product or a quotient of them is the double nearest to the exact one. The rounding is a parameter.
With `Rounding.exact` these are the limiters of `Ratelimit.Basic` and `Ratelimit.Burst` again
(`allowIn_exact`, `luaTokenBucketIn_exact`); with `Rounding.double` they are what Python and Lua
compute.

What survives rounding is the integer bound: after `k` admitted calls on a fresh bucket of `n`
there are at least `n - k` tokens left (`HoldsTokens`). A refill keeps it as long as it does not
take tokens away, which is to say as long as no call is stamped before the one served before it.
So a burst whose stamps come in order is admitted whole, however the additions are rounded
(`firstAdmitted_of_stamped`), and a stamp that comes late breaks it (`late_stamp_refused`).

The order of the operations is the source's. It matters: rounding is not associative, and the least
bit decides whether a call that needs the last token finds it.
-/

namespace SreAgent.Ratelimit

/-! ## The limiters

Each operation of the source has its own `R.rnd`. Comparisons and `min` are exact, since they only
choose between numbers that are there already. -/

/-- `TokenBucketLimiter.allow` in rounded arithmetic. A new bucket holds `float(self.burst)`. -/
def TokenBucketLimiter.allowIn (R : Rounding) (self : TokenBucketLimiter) (call : Call) :
    Bool × TokenBucketLimiter :=
  let b := (self.buckets call.principal).getD ⟨R.rnd self.burst, call.now⟩
  -- `min` may hand back the int `self.burst`, which the next operation turns into a double
  let tokens := min self.burst
    (R.rnd (R.rnd b.tokens + R.rnd (R.rnd (call.now - b.updated) * self.rate)))
  if tokens ≥ call.cost then
    (true, self.put call.principal ⟨R.rnd (R.rnd tokens - call.cost), call.now⟩)
  else
    (false, self.put call.principal ⟨tokens, call.now⟩)

/-- Without rounding this is `allow`. -/
theorem TokenBucketLimiter.allowIn_exact (self : TokenBucketLimiter) (call : Call) :
    self.allowIn .exact call = self.allow call := rfl

/-- `_LUA_TOKEN_BUCKET` in rounded arithmetic: all numbers of Lua are doubles, the capacity too. -/
def luaTokenBucketIn (R : Rounding) (clock : ℚ) (db : Redis) (key : String)
    (rate burst now cost : ℚ) (ttl : ℤ) : ℤ × Redis :=
  let burst := R.rnd burst
  let (tokens, updated) := (db.hmget key clock).getD (burst, now)
  let tokens := min burst (R.rnd (tokens + R.rnd (R.rnd (now - updated) * rate)))
  if tokens ≥ cost then
    (1, db.hmset key (R.rnd (tokens - cost)) now clock ttl)
  else
    (0, db.hmset key tokens now clock ttl)

/-- Without rounding this is the script of `Ratelimit.Burst`. -/
theorem luaTokenBucketIn_exact (clock : ℚ) (db : Redis) (key : String)
    (rate burst now cost : ℚ) (ttl : ℤ) :
    luaTokenBucketIn .exact clock db key rate burst now cost ttl =
      luaTokenBucketAt clock db key rate burst now cost ttl := rfl

/-- The time to live, with the quotient of two doubles under `int`. -/
def RedisTokenBucketLimiter.ttlIn (R : Rounding) (self : RedisTokenBucketLimiter) : ℤ :=
  if self.rate ≤ 0 then 3600
  else max 1 (pyInt (R.rnd (R.rnd self.burst / self.rate)) + 1)

/-- Without rounding this is the time to live of that module. -/
theorem RedisTokenBucketLimiter.ttlIn_exact (self : RedisTokenBucketLimiter) :
    self.ttlIn .exact = self.ttl := rfl

/-- `RedisTokenBucketLimiter.allow` against a server whose clock says `clock` and whose `EXPIRE`
accepts the times to live that `takes` says (a rate so small that the time to live is beyond 64
bits is an error of the server, or of `int` where the quotient overflows). -/
def RedisTokenBucketLimiter.allowIn (R : Rounding) (takes : ℤ → Bool)
    (self : RedisTokenBucketLimiter) (clock : ℚ) (call : Call) :
    Option Bool × RedisTokenBucketLimiter :=
  if takes (self.ttlIn R) then
    let (result, db) := luaTokenBucketIn R clock self.db (self.key call.principal) self.rate
      self.burst call.now call.cost (self.ttlIn R)
    (some (result != 0), { self with db })
  else
    -- the call raises, as does every other call of this limiter: nobody reads what it wrote
    (none, self)

/-- Without rounding the limiter is the one of that module, where the server takes every time to
live. -/
theorem RedisTokenBucketLimiter.allowIn_exact (self : RedisTokenBucketLimiter) (clock : ℚ)
    (call : Call) :
    self.allowIn .exact (fun _ => true) clock call =
      (some (self.allowAt clock call).1, (self.allowAt clock call).2) := by
  unfold RedisTokenBucketLimiter.allowIn
  rw [if_pos rfl]
  rfl

/-- The unit-cost calls of one principal, in the order they take the lock. -/
def callerInMemoryIn (R : Rounding) (p : String) : Machine TokenBucketLimiter Reading Bool where
  step lim r := lim.allowIn R { principal := p, now := r.now }

/-- The unit-cost calls of one principal, in the order their scripts run, and whether they are
admitted. -/
def callerInRedisIn (R : Rounding) (takes : ℤ → Bool) (p : String) :
    Machine RedisTokenBucketLimiter Reading Bool where
  step red r :=
    let (answer, red) := red.allowIn R takes r.clock { principal := p, now := r.now }
    (answer == some true, red)

/-! ## What one call does

A call that is refused plays no part in what follows, so one equation for each limiter is enough: a
call that finds its cost. -/

/-- The tokens `allow` finds after replenishing. -/
def TokenBucketLimiter.availableIn (R : Rounding) (self : TokenBucketLimiter) (call : Call) : ℚ :=
  let b := (self.buckets call.principal).getD ⟨R.rnd self.burst, call.now⟩
  min self.burst (R.rnd (R.rnd b.tokens + R.rnd (R.rnd (call.now - b.updated) * self.rate)))

/-- A call that finds its cost is admitted and pays. -/
theorem TokenBucketLimiter.allowIn_of_le {R : Rounding} {self : TokenBucketLimiter} {call : Call}
    (h : call.cost ≤ self.availableIn R call) :
    self.allowIn R call = (true, self.put call.principal
      ⟨R.rnd (R.rnd (self.availableIn R call) - call.cost), call.now⟩) := if_pos h

/-- The tokens the script finds after replenishing. -/
def RedisTokenBucketLimiter.availableIn (R : Rounding) (self : RedisTokenBucketLimiter)
    (clock : ℚ) (call : Call) : ℚ :=
  let (tokens, updated) :=
    (self.db.hmget (self.key call.principal) clock).getD (R.rnd self.burst, call.now)
  min (R.rnd self.burst) (R.rnd (tokens + R.rnd (R.rnd (call.now - updated) * self.rate)))

/-- The same of the script, where the server takes the time to live. -/
theorem RedisTokenBucketLimiter.allowIn_of_le {R : Rounding} {takes : ℤ → Bool}
    {self : RedisTokenBucketLimiter} {clock : ℚ} {call : Call} (ht : takes (self.ttlIn R))
    (h : call.cost ≤ self.availableIn R clock call) :
    self.allowIn R takes clock call = (some true, { self with
      db := self.db.hmset (self.key call.principal)
        (R.rnd (self.availableIn R clock call - call.cost)) call.now clock (self.ttlIn R) }) := by
  have hscript : luaTokenBucketIn R clock self.db (self.key call.principal) self.rate self.burst
      call.now call.cost (self.ttlIn R) = (1, self.db.hmset (self.key call.principal)
        (R.rnd (self.availableIn R clock call - call.cost)) call.now clock (self.ttlIn R)) := if_pos h
  rw [RedisTokenBucketLimiter.allowIn, if_pos ht, hscript]
  rfl

/-! ## What is left

Integers up to 2 ^ 53 are doubles, and rounding is monotone. So a number that is at least `m` before
it is rounded is at least `m` afterwards. This carries an integer bound through every operation,
without a word about the size of the errors. -/

variable {R : Rounding} {rate : ℚ} {n : ℕ} {p : String}

/-- `m` tokens that wait for a stamp that is not earlier are still `m` tokens. -/
theorem le_refill {tokens elapsed : ℚ} {m : ℕ} (hr : 0 ≤ rate) (hm : m ≤ n) (hn : n ≤ 2 ^ 53)
    (htokens : (m : ℚ) ≤ tokens) (helapsed : 0 ≤ elapsed) :
    (m : ℚ) ≤ min (n : ℚ) (R.rnd (tokens + R.rnd (R.rnd elapsed * rate))) := by
  have hyield : 0 ≤ R.rnd (R.rnd elapsed * rate) :=
    R.rnd_nonneg (mul_nonneg (R.rnd_nonneg helapsed) hr)
  apply le_min
  · exact_mod_cast hm
  · exact R.natCast_le_rnd (hm.trans hn) (htokens.trans (le_add_of_nonneg_right hyield))

/-- A call that is paid leaves all but one of them. -/
theorem le_spend {found : ℚ} {m : ℕ} (hm : m ≤ 2 ^ 53) (h : ((m + 1 : ℕ) : ℚ) ≤ found) :
    (m : ℚ) ≤ R.rnd (found - 1) := by
  push_cast at h
  exact R.natCast_le_rnd hm (by linarith)

/-- Where at least one token is left, a call can pay. -/
theorem one_le_of_succ_le {found : ℚ} {m : ℕ} (h : ((m + 1 : ℕ) : ℚ) ≤ found) : 1 ≤ found := by
  have hone : ((1 : ℕ) : ℚ) ≤ ((m + 1 : ℕ) : ℚ) := by exact_mod_cast Nat.le_add_left 1 m
  simpa using hone.trans h

/-- Each call is stamped no earlier than the one served before it, unless the bucket of that one
is gone. -/
abbrev Stamped (alive : Reading → Reading → Prop) (calls : List Reading) : Prop :=
  calls.IsChain fun r r' => alive r r' → r.now ≤ r'.now

/-- The last two of stamped calls are in order. -/
theorem Stamped.last {alive : Reading → Reading → Prop} {past : List Reading} {r a : Reading}
    (h : Stamped alive (past ++ [r] ++ [a])) (halive : alive r a) : r.now ≤ a.now :=
  (List.isChain_append.mp h).2.2 r (by simp) a (by simp) halive

/-- **Bursts of any machine** that serves one call after the other: if it serves the next of fewer
than `n` stamped calls, it serves `n` of them. -/
theorem all_admitted_of_stamped {σ : Type} {m : Machine σ Reading Bool} {s : σ}
    {alive : Reading → Reading → Prop} {Holds : List Reading → σ → Prop} (start : Holds [] s)
    (step : ∀ past s a, Holds past s → past.length < n → Stamped alive (past ++ [a]) →
      (m.step s a).1 = true ∧ Holds (past ++ [a]) (m.step s a).2)
    (calls : List Reading) (hlen : calls.length ≤ n) (hstamp : Stamped alive calls) :
    (∀ e ∈ m.trace s calls, e.2 = true) ∧ Holds calls (m.final s calls) := by
  -- by induction on the calls, the newest last: the ones before it are stamped as well
  induction calls using List.reverseRecOn with
  | nil => exact ⟨by simp, start⟩
  | append_singleton past a ih =>
      have hlt : past.length < n := by rwa [List.length_append] at hlen
      obtain ⟨hpast, hholds⟩ := ih hlt.le (List.isChain_append.mp hstamp).1
      obtain ⟨hlast, hnext⟩ := step past _ a hholds hlt hstamp
      rw [Machine.forall_trace_concat, Machine.final_append]
      exact ⟨⟨hpast, hlast⟩, hnext⟩

/-! ## In memory

The bucket is described by what the next stamped call finds in it, so that a fresh bucket needs no
case of its own. -/

/-- What a stamped call finds after `past` admitted ones: a bucket that is not stamped later and
holds the tokens that they have left. -/
structure AffordsInMemory (R : Rounding) (rate : ℚ) (n : ℕ) (p : String) (past : List Reading)
    (lim : TokenBucketLimiter) : Prop where
  rate_eq  : lim.rate = rate
  burst_eq : lim.burst = n
  bucket   : ∀ a, Stamped Always (past ++ [a]) →
    ((lim.buckets p).getD ⟨R.rnd n, a.now⟩).updated ≤ a.now ∧
      ((n - past.length : ℕ) : ℚ) ≤ ((lim.buckets p).getD ⟨R.rnd n, a.now⟩).tokens

/-- **One stamped call** is admitted, and leaves enough for the next. -/
theorem callerInMemoryIn_step (hr : 0 ≤ rate) (hn : n ≤ 2 ^ 53) {past : List Reading}
    {lim : TokenBucketLimiter} {a : Reading} (h : AffordsInMemory R rate n p past lim)
    (hlen : past.length < n) (hstamp : Stamped Always (past ++ [a])) :
    ((callerInMemoryIn R p).step lim a).1 = true ∧
      AffordsInMemory R rate n p (past ++ [a]) ((callerInMemoryIn R p).step lim a).2 := by
  obtain ⟨hupdated, htokens⟩ := h.bucket a hstamp
  obtain ⟨m, hm⟩ : ∃ m, n - past.length = m + 1 := ⟨n - past.length - 1, by omega⟩
  rw [hm] at htokens
  -- refilling and rounding do not go below an integer that was there before
  have hfound : ((m + 1 : ℕ) : ℚ) ≤ lim.availableIn R { principal := p, now := a.now } := by
    simp only [TokenBucketLimiter.availableIn, h.rate_eq, h.burst_eq]
    exact le_refill hr (by omega) hn (R.natCast_le_rnd (by omega) htokens)
      (sub_nonneg.mpr hupdated)
  have hstep : (callerInMemoryIn R p).step lim a = _ :=
    TokenBucketLimiter.allowIn_of_le (one_le_of_succ_le hfound)
  rw [hstep]
  refine ⟨rfl, h.rate_eq, h.burst_eq, fun a' hstamp' => ?_⟩
  -- one less may be asked for, and one less is needed
  have hrest : n - (past ++ [a]).length = m := by
    rw [List.length_append, List.length_singleton]
    omega
  rw [hrest]
  simp only [TokenBucketLimiter.put, Function.update_self, Option.getD_some]
  exact ⟨hstamp'.last trivial, le_spend (by omega) (R.natCast_le_rnd (by omega) hfound)⟩

/-! ## In Redis

A key that has expired is as good as a fresh bucket, and a key that is alive has the stamp of the
call that wrote it. -/

/-- The same of the script: a key that is gone counts as a full bucket. -/
structure AffordsInRedis (R : Rounding) (rate : ℚ) (n : ℕ) (ttl : ℤ) (p : String)
    (past : List Reading) (red : RedisTokenBucketLimiter) : Prop where
  rate_eq  : red.rate = rate
  burst_eq : red.burst = n
  ttl_eq   : red.ttlIn R = ttl
  hash     : ∀ a, Stamped (KeepsAlive ttl) (past ++ [a]) →
    ((red.db.hmget (red.key p) a.clock).getD (R.rnd n, a.now)).2 ≤ a.now ∧
      ((n - past.length : ℕ) : ℚ) ≤ ((red.db.hmget (red.key p) a.clock).getD (R.rnd n, a.now)).1

/-- **One stamped script**, likewise, as long as the server takes its time to live. -/
theorem callerInRedisIn_step {ttl : ℤ} {takes : ℤ → Bool} (hr : 0 ≤ rate) (hn : n ≤ 2 ^ 53)
    (htakes : takes ttl) {past : List Reading} {red : RedisTokenBucketLimiter} {a : Reading}
    (h : AffordsInRedis R rate n ttl p past red) (hlen : past.length < n)
    (hstamp : Stamped (KeepsAlive ttl) (past ++ [a])) :
    ((callerInRedisIn R takes p).step red a).1 = true ∧
      AffordsInRedis R rate n ttl p (past ++ [a]) ((callerInRedisIn R takes p).step red a).2 := by
  obtain ⟨hupdated, htokens⟩ := h.hash a hstamp
  obtain ⟨m, hm⟩ : ∃ m, n - past.length = m + 1 := ⟨n - past.length - 1, by omega⟩
  rw [hm] at htokens
  have hfound : ((m + 1 : ℕ) : ℚ) ≤
      red.availableIn R a.clock { principal := p, now := a.now } := by
    simp only [RedisTokenBucketLimiter.availableIn, h.rate_eq, h.burst_eq]
    rw [R.rnd_natCast hn] at htokens hupdated ⊢
    exact le_refill hr (by omega) hn htokens (sub_nonneg.mpr hupdated)
  have htakes' : takes (red.ttlIn R) := by rwa [h.ttl_eq]
  have hstep := RedisTokenBucketLimiter.allowIn_of_le htakes' (one_le_of_succ_le hfound)
  constructor
  · show ((red.allowIn R takes a.clock _).1 == some true) = true
    rw [hstep]
    rfl
  show AffordsInRedis R rate n ttl p (past ++ [a]) (red.allowIn R takes a.clock _).2
  rw [hstep]
  refine ⟨h.rate_eq, h.burst_eq, h.ttl_eq, fun a' hstamp' => ?_⟩
  have hrest : n - (past ++ [a]).length = m := by
    rw [List.length_append, List.length_singleton]
    omega
  rw [hrest]
  have hleft := le_spend (R := R) (by omega) hfound
  show ((Redis.hmget (Redis.hmset _ _ _ _ _ _) (red.key p) a'.clock).getD _).2 ≤ _ ∧
    _ ≤ ((Redis.hmget (Redis.hmset _ _ _ _ _ _) (red.key p) a'.clock).getD _).1
  by_cases halive : KeepsAlive ttl a a'
  · have hlast := hstamp'.last halive
    simp only [Redis.hmget, Redis.hmset, Function.update_self, h.ttl_eq, if_pos halive,
      Option.getD_some]
    exact ⟨hlast, hleft⟩
  · -- the key is gone: the bucket is full
    simp only [Redis.hmget, Redis.hmset, Function.update_self, h.ttl_eq, if_neg halive,
      Option.getD_none]
    refine ⟨le_rfl, ?_⟩
    rw [R.rnd_natCast hn]
    exact_mod_cast (by omega : m ≤ n)

/-! ## The first `n` calls

The condition is sufficient. It is not necessary: a late stamp that costs less than the bucket has
to spare does no harm, and which one does depends on single bits. -/

/-- **Bursts go through, however sums are rounded.** The first `n` calls on a fresh bucket of `n`
are all admitted if each of them is stamped no earlier than the one served before it: in memory,
and in Redis for those calls that the key outlives, as long as the server takes the time to live.
Above 2 ^ 53 a double cannot count down by one. -/
theorem firstAdmitted_of_stamped (R : Rounding) (takes : ℤ → Bool) (rate : ℚ) (hr : 0 < rate)
    (n : ℕ) (hn : n ≤ 2 ^ 53) (ns p : String) (calls : List Reading) :
    (Stamped Always (calls.take n) →
        FirstAdmitted n ((callerInMemoryIn R p).trace (fresh rate n) calls)) ∧
      (takes ((freshRedis ns rate n).ttlIn R) →
        Stamped (KeepsAlive ((freshRedis ns rate n).ttlIn R)) (calls.take n) →
        FirstAdmitted n ((callerInRedisIn R takes p).trace (freshRedis ns rate n) calls)) := by
  unfold FirstAdmitted
  rw [Machine.take_trace, Machine.take_trace]
  constructor
  · intro hstamp
    -- the bucket is full, and its size is an integer that is not rounded
    have start : AffordsInMemory R rate n p [] (fresh rate n) :=
      ⟨rfl, rfl, fun a _ => ⟨le_rfl, (R.rnd_natCast hn).ge⟩⟩
    refine (all_admitted_of_stamped start ?_ _ (List.length_take_le n calls) hstamp).1
    intro past lim a h hlen hst
    exact callerInMemoryIn_step hr.le hn h hlen hst
  · intro htakes hstamp
    have start : AffordsInRedis R rate n ((freshRedis ns rate n).ttlIn R) p []
        (freshRedis ns rate n) := ⟨rfl, rfl, rfl, fun a _ => ⟨le_rfl, (R.rnd_natCast hn).ge⟩⟩
    refine (all_admitted_of_stamped start ?_ _ (List.length_take_le n calls) hstamp).1
    intro past red a h hlen hst
    exact callerInRedisIn_step hr.le hn htakes h hlen hst

/-- Three calls, of which the second and the third read the time together. -/
def jostling : List Reading := [⟨1, 1⟩, ⟨2, 2⟩, ⟨2, 2⟩]

/-- At the rate `0.1`, which no double is. -/
theorem firstAdmitted_of_stamped_tenth :
    FirstAdmitted 3 ((callerInMemoryIn .double "alice").trace
        (fresh (Rounding.toDouble (1 / 10)) 3) jostling) ∧
      FirstAdmitted 3 ((callerInRedisIn .double (fun _ => true) "alice").trace
        (freshRedis "ratelimit" (Rounding.toDouble (1 / 10)) 3) jostling) := by
  have hstamp : ∀ alive, Stamped alive (jostling.take 3) := by
    intro alive
    simp [Stamped, jostling]
  have h := firstAdmitted_of_stamped .double (fun _ => true) (Rounding.toDouble (1 / 10))
    (by decide +kernel) 3 (by norm_num) "ratelimit" "alice" jostling
  exact ⟨h.1 (hstamp _), h.2 rfl (hstamp _)⟩

/-! ## A late stamp

Two calls suffice. The caller that was served first read its time last, and at five tokens a second
a second's difference costs five tokens, which is more than the burst. -/

/-- The first `n` of any calls that reach a fresh bucket of `n` are admitted, whatever their stamps
are, and however the callers were scheduled between reading the clock and taking the lock. -/
def BurstGuaranteed (R : Rounding) (takes : ℤ → Bool) (rate : ℚ) (n : ℕ) (ns p : String) : Prop :=
  ∀ calls, FirstAdmitted n ((callerInMemoryIn R p).trace (fresh rate n) calls) ∧
    FirstAdmitted n ((callerInRedisIn R takes p).trace (freshRedis ns rate n) calls)

/-- Two calls of which the one served first read its time a second after the other. -/
def overtaken : List Reading := [⟨1, 1⟩, ⟨0, 1⟩]

/-- All numbers on the way are small integers, so every rounding leaves them alone: the refill of
the second call is `-5`. -/
theorem overtaken_rounds (R : Rounding) :
    R.rnd 2 = 2 ∧ R.rnd 1 = 1 ∧ R.rnd (-1) = -1 ∧ R.rnd (-5) = -5 ∧ R.rnd (-4) = -4 := by
  have hsmall : ∀ z : ℤ, |z| ≤ 2 ^ 53 → R.rnd z = z := R.fixed
  refine ⟨?_, ?_, ?_, ?_, ?_⟩
  · exact_mod_cast hsmall 2 (by norm_num)
  · exact_mod_cast hsmall 1 (by norm_num)
  · exact_mod_cast hsmall (-1) (by norm_num)
  · exact_mod_cast hsmall (-5) (by norm_num)
  · exact_mod_cast hsmall (-4) (by norm_num)

/-- In memory the second call is refused, and in Redis as well. -/
theorem overtaken_inMemory (R : Rounding) :
    ((callerInMemoryIn R "alice").trace (fresh 5 2) overtaken).map Prod.snd = [true, false] := by
  obtain ⟨h2, h1, h₁, h₅, h₄⟩ := overtaken_rounds R
  norm_num [overtaken, callerInMemoryIn, fresh, TokenBucketLimiter.allowIn, TokenBucketLimiter.put,
    h2, h1, h₁, h₅, h₄]

theorem overtaken_inRedis (R : Rounding) :
    ((callerInRedisIn R (fun _ => true) "alice").trace (freshRedis "ratelimit" 5 2) overtaken).map
      Prod.snd = [true, false] := by
  obtain ⟨h2, h1, h₁, h₅, h₄⟩ := overtaken_rounds R
  have httl : 0 < RedisTokenBucketLimiter.ttlIn R { rate := 5, burst := 2 } := by
    rw [RedisTokenBucketLimiter.ttlIn]
    split
    · norm_num
    · exact lt_max_of_lt_left one_pos
  norm_num [overtaken, callerInRedisIn, freshRedis, RedisTokenBucketLimiter.allowIn,
    luaTokenBucketIn, RedisTokenBucketLimiter.key, Redis.hmget, Redis.hmset, h2, h1, h₁, h₅, h₄, httl]

/-- At five tokens a second and a burst of two the second one is refused, in memory and in Redis,
in doubles as in exact arithmetic. -/
theorem overtaken_call_refused :
    ¬ (∀ rate : ℚ, 0 < rate → ∀ n : ℕ, 1 ≤ n → ∀ ns p,
        BurstGuaranteed .double (fun _ => true) rate n ns p) ∧
      ((callerInMemoryIn .double "alice").trace (fresh 5 2) overtaken).map Prod.snd
        = [true, false] ∧
      ((callerInRedisIn .double (fun _ => true) "alice").trace
        (freshRedis "ratelimit" 5 2) overtaken).map Prod.snd = [true, false] := by
  refine ⟨?_, overtaken_inMemory _, overtaken_inRedis _⟩
  intro h
  -- five calls a second and a burst of two, of which the second call is refused
  have hburst := (h 5 (by norm_num) 2 (by norm_num) "ratelimit" "alice" overtaken).1
  have hrefused : false ∈ (((callerInMemoryIn .double "alice").trace (fresh 5 2) overtaken).take
      2).map Prod.snd := by
    rw [List.map_take, overtaken_inMemory]
    simp
  obtain ⟨e, he, hfalse⟩ := List.mem_map.mp hrefused
  have htrue := hburst e (by simpa using he)
  rw [hfalse] at htrue
  cases htrue

end SreAgent.Ratelimit
