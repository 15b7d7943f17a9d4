import Mathlib.Data.Rat.Floor
import Mathlib.Logic.Function.Basic
import SreAgent.Lib.Machine

/-!
# Per-principal token-bucket rate limiting

The two limiters of `ratelimit.py`, in exact arithmetic (the code's floats and ints are rationals
here, and `burst` may be any rational): the in-memory `TokenBucketLimiter`, and
`RedisTokenBucketLimiter`, whose state is a Redis hash per principal that the Lua script reads and
writes in one atomic step. Both are `Machine`s that answer one `allow` call a step; the time stamp
is part of the call, as it is in the code's `now` argument.

One call of either limiter looks at one bucket, its own principal's, and writes it back whether it
admits or not. `allow_eq` says so in one line for each of them, and later modules unfold neither.
-/

namespace SreAgent.Ratelimit

/-- The arguments of one `allow(principal, cost, now=now)`. -/
structure Call where
  principal : String
  cost      : ℚ := 1
  now       : ℚ

/-! ## In memory

The buckets are a dictionary that never shrinks. Its `threading.Lock` makes a call one step; what
the order of concurrent callers does to their time stamps is the subject of `Ratelimit.Burst`. -/

/-- What is left, and when it was counted. -/
structure Bucket where
  tokens  : ℚ
  updated : ℚ

/-- `rate` tokens a second, up to `burst`, one bucket per principal. -/
structure TokenBucketLimiter where
  rate    : ℚ := 1
  burst   : ℚ := 20
  buckets : String → Option Bucket := fun _ => none

/-- `self._buckets[principal] = b`. -/
def TokenBucketLimiter.put (self : TokenBucketLimiter) (principal : String) (b : Bucket) :
    TokenBucketLimiter :=
  { self with buckets := Function.update self.buckets principal (some b) }

/-- `TokenBucketLimiter.allow`. A principal met for the first time gets a full bucket stamped with
this call's own time. -/
def TokenBucketLimiter.allow (self : TokenBucketLimiter) (call : Call) :
    Bool × TokenBucketLimiter :=
  let b := (self.buckets call.principal).getD ⟨self.burst, call.now⟩
  let tokens := min self.burst (b.tokens + (call.now - b.updated) * self.rate)
  if tokens ≥ call.cost then
    (true, self.put call.principal ⟨tokens - call.cost, call.now⟩)
  else
    (false, self.put call.principal ⟨tokens, call.now⟩)

/-- The in-memory limiter, one call a step. -/
def inMemory : Machine TokenBucketLimiter Call Bool where
  step := TokenBucketLimiter.allow

/-! ## In Redis

The hash lives on the server, so the state is the server's keyspace, and what expires is forgotten.
The caller hands its own time to the script; that the server has a clock of its own comes in with
`Ratelimit.Burst`. -/

/-- The hash under one key, and when Redis deletes it. -/
structure RedisHash where
  tokens    : ℚ
  updated   : ℚ
  expiresAt : ℚ

/-- The keyspace. An entry past its `expiresAt` is still stored here but `hmget` no longer
sees it. -/
abbrev Redis := String → Option RedisHash

/-- `HMSET key ..` and `EXPIRE key ttl` at `now`. -/
def Redis.hmset (db : Redis) (key : String) (tokens updated now : ℚ) (ttl : ℤ) : Redis :=
  Function.update db key (some ⟨tokens, updated, now + ttl⟩)

/-- `HMGET key tokens updated` at `now`: a key is gone exactly `ttl` seconds after its last
write. -/
def Redis.hmget (db : Redis) (key : String) (now : ℚ) : Option (ℚ × ℚ) :=
  match db key with
  | some h => if now < h.expiresAt then some (h.tokens, h.updated) else none
  | none   => none

/-- `_LUA_TOKEN_BUCKET`, run atomically: answers `1` or `0` and writes the hash back with its
time to live. -/
def luaTokenBucket (db : Redis) (key : String) (rate burst now cost : ℚ) (ttl : ℤ) : ℤ × Redis :=
  let (tokens, updated) := (db.hmget key now).getD (burst, now)
  let tokens := min burst (tokens + (now - updated) * rate)
  if tokens ≥ cost then
    (1, db.hmset key (tokens - cost) now now ttl)
  else
    (0, db.hmset key tokens now now ttl)

/-- Python's `int(q)`: the fraction is cut off towards zero. -/
def pyInt (q : ℚ) : ℤ := if 0 ≤ q then ⌊q⌋ else ⌈q⌉

structure RedisTokenBucketLimiter where
  rate  : ℚ
  burst : ℚ
  ns    : String := "ratelimit"
  db    : Redis := fun _ => none

/-- Seconds after which an idle bucket is dropped. -/
def RedisTokenBucketLimiter.ttl (self : RedisTokenBucketLimiter) : ℤ :=
  if self.rate ≤ 0 then 3600 else max 1 (pyInt (self.burst / self.rate) + 1)

/-- The Redis key of a principal. -/
def RedisTokenBucketLimiter.key (self : RedisTokenBucketLimiter) (principal : String) : String :=
  self.ns ++ ":" ++ principal

/-- `RedisTokenBucketLimiter.allow`: the script's answer as a truth value. -/
def RedisTokenBucketLimiter.allow (self : RedisTokenBucketLimiter) (call : Call) :
    Bool × RedisTokenBucketLimiter :=
  let (result, db) := luaTokenBucket self.db (self.key call.principal) self.rate self.burst
    call.now call.cost self.ttl
  (result != 0, { self with db })

/-- The Redis-backed limiter, one call a step. -/
def inRedis : Machine RedisTokenBucketLimiter Call Bool where
  step := RedisTokenBucketLimiter.allow

/-! ## What one call does

Replenish, compare, pay: the same three steps in both limiters. -/

/-- The tokens `allow` finds after replenishing. -/
def TokenBucketLimiter.available (self : TokenBucketLimiter) (call : Call) : ℚ :=
  let b := (self.buckets call.principal).getD ⟨self.burst, call.now⟩
  min self.burst (b.tokens + (call.now - b.updated) * self.rate)

/-- What a call costs the bucket: its cost if admitted, nothing if refused. -/
def charge (call : Call) (allowed : Bool) : ℚ := if allowed then call.cost else 0

/-- **`allow`, in one line**: the answer compares the cost with what is available, and the bucket
keeps the rest. Everything about the in-memory limiter goes through this. -/
theorem TokenBucketLimiter.allow_eq (self : TokenBucketLimiter) (call : Call) :
    self.allow call =
      (decide (call.cost ≤ self.available call),
        self.put call.principal
          ⟨self.available call - charge call (decide (call.cost ≤ self.available call)),
            call.now⟩) := by
  unfold TokenBucketLimiter.allow TokenBucketLimiter.available charge
  dsimp only
  split
  · next h => simp [h]
  · next h => simp [not_le.mpr (not_le.mp h)]

/-- The tokens the script finds after replenishing. -/
def RedisTokenBucketLimiter.available (self : RedisTokenBucketLimiter) (call : Call) : ℚ :=
  let (tokens, updated) :=
    (self.db.hmget (self.key call.principal) call.now).getD (self.burst, call.now)
  min self.burst (tokens + (call.now - updated) * self.rate)

/-- The same line for the Redis limiter. -/
theorem RedisTokenBucketLimiter.allow_eq (self : RedisTokenBucketLimiter) (call : Call) :
    self.allow call =
      (decide (call.cost ≤ self.available call),
        { self with
          db := self.db.hmset (self.key call.principal)
            (self.available call - charge call (decide (call.cost ≤ self.available call)))
            call.now call.now self.ttl }) := by
  unfold RedisTokenBucketLimiter.allow luaTokenBucket RedisTokenBucketLimiter.available charge
  dsimp only
  -- the script answers with an integer, which is nonzero exactly if it admits
  by_cases h : call.cost ≤ min self.burst (((self.db.hmget (self.key call.principal)
      call.now).getD (self.burst, call.now)).1 + (call.now - ((self.db.hmget
      (self.key call.principal) call.now).getD (self.burst, call.now)).2) * self.rate)
  · simp [h]
  · simp [h]

/-- Different principals have different keys. -/
theorem RedisTokenBucketLimiter.key_inj (self : RedisTokenBucketLimiter) {p q : String} :
    self.key p = self.key q ↔ p = q := by
  simp [RedisTokenBucketLimiter.key]

end SreAgent.Ratelimit
