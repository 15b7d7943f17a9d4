import Mathlib.Data.List.Chain
import SreAgent.Ratelimit.Redis

/-!
# The burst of concurrent callers

`allow` reads the time before it takes the lock, and before its script runs in Redis, so the calls
of concurrent callers reach the bucket in an order that need not be that of their time stamps. An
earlier stamp after a later one takes tokens away. How far behind a stamp may be is, in exact
arithmetic, the law of windows again (`CappedBucket.one_le_level_units_iff`): the calls of a burst
are all admitted iff each of its windows, from one call to a later one, fits (`InBudget`). In Redis
a bucket also ends when its key expires, and that goes by the server's own clock. What is left of
this law where sums are rounded is in `Ratelimit.Doubles`.

The two limiters differ only in when a bucket begins. So the induction over the calls is done once,
for any machine that keeps a capped bucket (`all_admitted_iff`), with the calls that found it alive
as its history (`since`), and each limiter supplies its step.
-/

namespace SreAgent.Ratelimit

open CappedBucket (Draw level)

/-! ## Two clocks

`EXPIRE` counts on the server, `now` comes from the caller's `time.monotonic()`. The two need not
agree, or even have a common zero. -/

/-- `_LUA_TOKEN_BUCKET` when the server's clock says `clock`; the script itself only sees the
caller's `now`. -/
def luaTokenBucketAt (clock : ℚ) (db : Redis) (key : String) (rate burst now cost : ℚ) (ttl : ℤ) :
    ℤ × Redis :=
  let (tokens, updated) := (db.hmget key clock).getD (burst, now)
  let tokens := min burst (tokens + (now - updated) * rate)
  if tokens ≥ cost then
    (1, db.hmset key (tokens - cost) now clock ttl)
  else
    (0, db.hmset key tokens now clock ttl)

/-- Where the two clocks agree this is the script of `luaTokenBucket`. -/
theorem luaTokenBucketAt_self (db : Redis) (key : String) (rate burst now cost : ℚ) (ttl : ℤ) :
    luaTokenBucketAt now db key rate burst now cost ttl =
      luaTokenBucket db key rate burst now cost ttl := rfl

/-- `RedisTokenBucketLimiter.allow` against a server whose clock says `clock`. -/
def RedisTokenBucketLimiter.allowAt (self : RedisTokenBucketLimiter) (clock : ℚ) (call : Call) :
    Bool × RedisTokenBucketLimiter :=
  let (result, db) := luaTokenBucketAt clock self.db (self.key call.principal) self.rate self.burst
    call.now call.cost self.ttl
  (result != 0, { self with db })

/-- The tokens the script finds after replenishing. -/
def RedisTokenBucketLimiter.availableAt (self : RedisTokenBucketLimiter) (clock : ℚ) (call : Call) :
    ℚ :=
  let (tokens, updated) :=
    (self.db.hmget (self.key call.principal) clock).getD (self.burst, call.now)
  min self.burst (tokens + (call.now - updated) * self.rate)

/-- The one line of `RedisTokenBucketLimiter.allow_eq`, with two clocks. -/
theorem RedisTokenBucketLimiter.allowAt_eq (self : RedisTokenBucketLimiter) (clock : ℚ)
    (call : Call) :
    self.allowAt clock call =
      (decide (call.cost ≤ self.availableAt clock call),
        { self with
          db := self.db.hmset (self.key call.principal)
            (self.availableAt clock call
              - charge call (decide (call.cost ≤ self.availableAt clock call)))
            call.now clock self.ttl }) := by
  unfold RedisTokenBucketLimiter.allowAt luaTokenBucketAt RedisTokenBucketLimiter.availableAt charge
  dsimp only
  -- as with one clock: the answer is nonzero exactly if the call is admitted
  by_cases h : call.cost ≤ min self.burst (((self.db.hmget (self.key call.principal)
      clock).getD (self.burst, call.now)).1 + (call.now - ((self.db.hmget
      (self.key call.principal) clock).getD (self.burst, call.now)).2) * self.rate)
  · simp [h]
  · simp [h]

/-- A unit-cost call: the time its caller read, and the server's clock when its script ran. -/
structure Reading where
  now   : ℚ
  clock : ℚ

/-- The unit-cost calls of one principal, in the order they take the lock. -/
def callerInMemory (p : String) : Machine TokenBucketLimiter Reading Bool where
  step lim r := lim.allow { principal := p, now := r.now }

/-- The unit-cost calls of one principal, in the order their scripts run. -/
def callerInRedis (p : String) : Machine RedisTokenBucketLimiter Reading Bool where
  step red r := red.allowAt r.clock { principal := p, now := r.now }

/-! ## Windows of a burst

A window runs from a call to a later one. It counts for the bucket only if the bucket was alive all
the way; a bucket that was gone in between started over, full. -/

/-- Every window of `calls` whose bucket stayed `alive` holds no more calls than a full bucket and
what the rate yields (or takes away) between the stamps at its two ends. -/
def InBudget (rate burst : ℚ) (alive : Reading → Reading → Prop) (calls : List Reading) : Prop :=
  ∀ before first window last after, calls = before ++ first :: (window ++ last :: after) →
    (first :: (window ++ [last])).IsChain alive →
      (window.length + 2 : ℚ) ≤ burst + rate * (last.now - first.now)

variable {alive : Reading → Reading → Prop} [DecidableRel alive]

/-- The calls before `a`, newest first, back to the one that found a fresh bucket. -/
def since (alive : Reading → Reading → Prop) [DecidableRel alive] (a : Reading) :
    List Reading → List Reading
  | []      => []
  | r :: rs => if alive r a then r :: since alive r rs else []

/-- What `since` keeps: an unbroken chain of live buckets. -/
theorem since_eq_append_cons {a d : Reading} {past newer older : List Reading}
    (h : since alive a past = newer ++ d :: older) :
    (∃ rest, past = newer ++ d :: rest) ∧ (d :: (newer.reverse ++ [a])).IsChain alive := by
  -- by induction on the calls before, newest first; the chain is extended at its end
  induction past generalizing a newer with
  | nil => cases newer <;> cases h
  | cons r rs ih =>
      rw [since] at h
      split at h
      · next halive =>
        cases newer with
        | nil =>
            obtain ⟨rfl, -⟩ := List.cons.inj h
            exact ⟨⟨rs, rfl⟩, by simpa using halive⟩
        | cons r' newer =>
            obtain ⟨rfl, hrest⟩ := List.cons.inj h
            obtain ⟨⟨rest, rfl⟩, hchain⟩ := ih hrest
            refine ⟨⟨rest, rfl⟩, ?_⟩
            have hsplit := @List.isChain_append_cons_cons _ alive r a (d :: newer.reverse) []
            simp only [List.reverse_cons, List.append_assoc, List.singleton_append]
            exact hsplit.mpr ⟨hchain, halive, by simp⟩
      · cases newer <;> cases h

/-- And it keeps all of them. -/
theorem since_of_isChain {a d : Reading} {newer rest : List Reading}
    (h : (d :: (newer.reverse ++ [a])).IsChain alive) :
    ∃ older, since alive a (newer ++ d :: rest) = newer ++ d :: older := by
  induction newer generalizing a with
  | nil =>
      have halive : alive d a := by simpa using h
      exact ⟨since alive d rest, by simp [since, halive]⟩
  | cons r newer ih =>
      have hsplit := @List.isChain_append_cons_cons _ alive r a (d :: newer.reverse) []
      simp only [List.reverse_cons, List.append_assoc, List.singleton_append] at h
      obtain ⟨hchain, halive, -⟩ := hsplit.mp h
      obtain ⟨older, heq⟩ := ih hchain
      exact ⟨older, by simp [since, halive, heq]⟩

/-- A burst grows by one call: the new windows are those that end there. -/
theorem inBudget_concat {rate burst : ℚ} {calls : List Reading} {a : Reading} :
    InBudget rate burst alive (calls ++ [a]) ↔ InBudget rate burst alive calls ∧
      ∀ newer d older, since alive a calls.reverse = newer ++ d :: older →
        (newer.length + 2 : ℚ) ≤ burst + rate * (a.now - d.now) := by
  constructor
  · intro h
    constructor
    · rintro before first window last after rfl hchain
      exact h before first window last (after ++ [a]) (by simp) hchain
    · intro newer d older hsince
      obtain ⟨⟨rest, hpast⟩, hchain⟩ := since_eq_append_cons hsince
      have hcalls : calls ++ [a] = rest.reverse ++ d :: (newer.reverse ++ a :: []) := by
        rw [← List.reverse_reverse calls, hpast]
        simp
      simpa using h rest.reverse d newer.reverse a [] hcalls hchain
  · rintro ⟨hold, hnew⟩ before first window last after heq hchain
    rcases List.eq_nil_or_concat after with rfl | ⟨after, b, rfl⟩
    · -- a window that ends at the new call
      have hsplit : calls ++ [a] = (before ++ first :: window) ++ [last] := by simpa using heq
      obtain ⟨rfl, hlast⟩ := List.append_inj' hsplit rfl
      obtain rfl := List.singleton_inj.mp hlast
      obtain ⟨older, hsince⟩ := @since_of_isChain alive _ a first window.reverse before.reverse
        (by simpa using hchain)
      have hwin := hnew window.reverse first older (by simpa using hsince)
      simpa using hwin
    · -- a window of the calls before it
      have hsplit : calls ++ [a] = (before ++ first :: (window ++ last :: after)) ++ [b] := by
        simpa using heq
      obtain ⟨rfl, -⟩ := List.append_inj' hsplit rfl
      exact hold before first window last after rfl hchain

/-! ## A machine that keeps a bucket

All calls are admitted, so what they drew is known without looking at the answers: one token each.
This is why the condition is one on the stamps alone. -/

def unit (r : Reading) : Draw ℚ := ⟨r.now, 1⟩

/-- **Bursts of any machine that keeps a capped bucket**: its calls are all admitted iff they are in
budget. -/
theorem all_admitted_iff {σ : Type} {m : Machine σ Reading Bool} {s : σ} {rate burst : ℚ}
    {Holds : List Reading → σ → Prop} (start : Holds [] s)
    (step : ∀ past s a, Holds past s →
      ((m.step s a).1 = true ↔ 1 ≤ level burst rate ((since alive a past.reverse).map unit) a.now) ∧
      ((m.step s a).1 = true → Holds (past ++ [a]) (m.step s a).2))
    (hb : 1 ≤ burst) (calls : List Reading) :
    ((∀ e ∈ m.trace s calls, e.2 = true) ↔ InBudget rate burst alive calls) ∧
      ((∀ e ∈ m.trace s calls, e.2 = true) → Holds calls (m.final s calls)) := by
  -- one more call at the end: if all before it were admitted, the bucket holds what they have
  -- left
  induction calls using List.reverseRecOn with
  | nil =>
      constructor
      · constructor
        · intro _ before first window last after heq
          simp at heq
        · simp
      · intro _
        exact start
  | append_singleton past a ih =>
      obtain ⟨hiff, hholds⟩ := ih
      rw [Machine.forall_trace_concat, inBudget_concat, ← hiff]
      constructor
      · refine and_congr_right fun hpast => ?_
        rw [(step past _ a (hholds hpast)).1]
        have hunits := @CappedBucket.one_le_level_units_iff ℚ _ _ _ Reading burst rate a.now
          Reading.now (since alive a past.reverse)
        rw [show (fun b : Reading => (⟨b.now, 1⟩ : Draw ℚ)) = unit from rfl] at hunits
        rw [hunits]
        exact and_iff_right hb
      · rintro ⟨hpast, hlast⟩
        rw [Machine.final_append]
        exact (step past _ a (hholds hpast)).2 hlast

/-! ## In memory

Every earlier call counts, back to the first. -/

/-- Nothing expires in memory: the relation between neighbouring calls that the in-memory limiter
needs is the one that always holds. -/
abbrev Always : Reading → Reading → Prop := fun _ _ => True

/-- Without expiry nothing is left out. -/
theorem since_always (a : Reading) (past : List Reading) : since Always a past = past := by
  induction past generalizing a with
  | nil => rfl
  | cons r rs ih => rw [since, if_pos trivial, ih]

/-- The bucket of `p` after `past`, all admitted. -/
structure HoldsInMemory (rate burst : ℚ) (p : String) (past : List Reading)
    (lim : TokenBucketLimiter) : Prop where
  rate_eq  : lim.rate = rate
  burst_eq : lim.burst = burst
  bucket   : lim.buckets p = bucketAfter rate burst (past.reverse.map unit)

/-- **One call** under the lock: it is admitted if a token is left, and the bucket is then as after
one more draw. -/
theorem callerInMemory_step {rate burst : ℚ} {p : String} {past : List Reading}
    {lim : TokenBucketLimiter} (a : Reading) (h : HoldsInMemory rate burst p past lim) :
    (((callerInMemory p).step lim a).1 = true ↔
        1 ≤ level burst rate ((since Always a past.reverse).map unit) a.now) ∧
      (((callerInMemory p).step lim a).1 = true →
        HoldsInMemory rate burst p (past ++ [a]) ((callerInMemory p).step lim a).2) := by
  -- what the limiter finds is the level of the bucket, also before the first call
  have havail : lim.available { principal := p, now := a.now } =
      level burst rate (past.reverse.map unit) a.now := by
    simp only [TokenBucketLimiter.available, h.bucket, h.rate_eq, h.burst_eq]
    cases past.reverse with
    | nil => simp [bucketAfter]
    | cons r rs => rfl
  rw [since_always]
  show ((lim.allow _).1 = true ↔ _) ∧ ((lim.allow _).1 = true → HoldsInMemory _ _ _ _ (lim.allow _).2)
  rw [lim.allow_eq, havail]
  constructor
  · exact decide_eq_true_iff
  · intro hfit
    refine ⟨h.rate_eq, h.burst_eq, ?_⟩
    have hrev : (past ++ [a]).reverse = a :: past.reverse := by simp
    simp only [decide_eq_true_eq] at hfit
    rw [hrev, List.map_cons]
    simp [-List.map_reverse, TokenBucketLimiter.put, bucketAfter, charge, hfit, unit]

/-! ## In Redis

The history of a bucket goes back to the call that found no key. -/

/-- The key written by one call is still there at the next: its time to live, set by the server, has
not run out on the server's clock. -/
abbrev KeepsAlive (ttl : ℤ) (r r' : Reading) : Prop := r'.clock < r.clock + ttl

/-- What is stored after admitted calls, newest first. -/
def hashAfter (rate burst : ℚ) (ttl : ℤ) : List Reading → Option RedisHash
  | []      => none
  | r :: rs =>
    some ⟨level burst rate ((since (KeepsAlive ttl) r rs).map unit) r.now - 1, r.now, r.clock + ttl⟩

/-- The key of `p` after `past`, all admitted. -/
structure HoldsInRedis (rate burst : ℚ) (ttl : ℤ) (p : String) (past : List Reading)
    (red : RedisTokenBucketLimiter) : Prop where
  rate_eq  : red.rate = rate
  burst_eq : red.burst = burst
  ttl_eq   : red.ttl = ttl
  hash     : red.db (red.key p) = hashAfter rate burst ttl past.reverse

/-- **One script**, likewise, over the calls since the key was made. -/
theorem callerInRedis_step {rate burst : ℚ} {ttl : ℤ} {p : String} {past : List Reading}
    {red : RedisTokenBucketLimiter} (a : Reading) (h : HoldsInRedis rate burst ttl p past red) :
    (((callerInRedis p).step red a).1 = true ↔
        1 ≤ level burst rate ((since (KeepsAlive ttl) a past.reverse).map unit) a.now) ∧
      (((callerInRedis p).step red a).1 = true →
        HoldsInRedis rate burst ttl p (past ++ [a]) ((callerInRedis p).step red a).2) := by
  have havail : red.availableAt a.clock { principal := p, now := a.now } =
      level burst rate ((since (KeepsAlive ttl) a past.reverse).map unit) a.now := by
    simp only [RedisTokenBucketLimiter.availableAt, Redis.hmget, h.hash, h.rate_eq, h.burst_eq]
    cases past.reverse with
    | nil => simp [hashAfter, since]
    | cons r rs =>
        -- a key past its time to live is not seen, and `since` starts over
        by_cases halive : a.clock < r.clock + ttl
        · simp [hashAfter, since, halive, unit, CappedBucket.level_cons, CappedBucket.refill]
        · simp [hashAfter, since, halive]
  show ((red.allowAt _ _).1 = true ↔ _) ∧
    ((red.allowAt _ _).1 = true → HoldsInRedis _ _ _ _ _ (red.allowAt _ _).2)
  rw [red.allowAt_eq, havail]
  constructor
  · exact decide_eq_true_iff
  · intro hfit
    simp only [decide_eq_true_eq] at hfit
    refine ⟨h.rate_eq, h.burst_eq, h.ttl_eq, ?_⟩
    show Redis.hmset _ _ _ _ _ _ (red.key p) = _
    simp [Redis.hmset, hashAfter, charge, hfit, h.ttl_eq]

/-! ## The first `n` calls

A burst of `n` on a fresh bucket of `n` is the case that the documentation promises. With stamps in
order every window fits, since it holds at most `n` calls; otherwise it depends on how far back they
go. -/

/-- The first `n` calls of a run were all admitted; of a shorter run, all of them. -/
def FirstAdmitted (n : ℕ) (run : List (Reading × Bool)) : Prop := ∀ e ∈ run.take n, e.2 = true

/-- **When a burst goes through** in exact arithmetic, in memory and in Redis: exactly when all its
windows fit, from a call to any later one whose bucket has not expired in between. -/
theorem firstAdmitted_iff (rate : ℚ) (n : ℕ) (ns p : String) (calls : List Reading) :
    (FirstAdmitted n ((callerInMemory p).trace (fresh rate n) calls) ↔
        InBudget rate n Always (calls.take n)) ∧
      (FirstAdmitted n ((callerInRedis p).trace (freshRedis ns rate n) calls) ↔
        InBudget rate n (KeepsAlive (freshRedis ns rate n).ttl) (calls.take n)) := by
  unfold FirstAdmitted
  rw [Machine.take_trace, Machine.take_trace]
  rcases Nat.eq_zero_or_pos n with rfl | hn
  · -- a burst of none asks for nothing
    constructor <;> simp [InBudget]
  · have hb : (1 : ℚ) ≤ n := by exact_mod_cast hn
    constructor
    · apply (@all_admitted_iff Always _ _ _ _ rate n (HoldsInMemory rate n p) _ _ hb _).1
      · exact ⟨rfl, rfl, rfl⟩
      · intro past lim a h
        exact callerInMemory_step a h
    · apply (@all_admitted_iff (KeepsAlive (freshRedis ns rate n).ttl) _ _ _ _ rate n
        (HoldsInRedis rate n (freshRedis ns rate n).ttl p) _ _ hb _).1
      · exact ⟨rfl, rfl, rfl, rfl⟩
      · intro past red a h
        exact callerInRedis_step a h

end SreAgent.Ratelimit
