import Mathlib.Data.List.Induction
import Mathlib.Order.Fin.Basic
import SreAgent.Lib.CappedBucket
import SreAgent.Ratelimit.Basic

/-!
# The admission law of the in-memory limiter

The limiter keeps two numbers per principal; the law it obeys speaks of every past window. The
bridge is `CappedBucket`: `Tracks` says that the stored pair of a principal is the capped bucket's
level after exactly the draws the principal's own admitted calls made, one step keeps that
(`allow_tracks`), so a run keeps it (`tracks_run`), and the closed form of the level
(`CappedBucket.le_level_iff`) then reads as the law about windows.

That other principals have no influence is a second induction over the run, for two limiters that
are alike for one principal (`AlikeFor`). Both facts are about every sequence of calls, with no
condition on the order of the stamps.
-/

namespace SreAgent.Ratelimit

open CappedBucket (Draw level drawn)

/-- A call and the answer it got. -/
abbrev Served := Call × Bool

def fresh (rate burst : ℚ) : TokenBucketLimiter := { rate, burst }

/-- The run of an empty limiter on a sequence of calls, each with the answer it got. A run is
determined by its calls, since time is an argument of every call. -/
def served (rate burst : ℚ) (calls : List Call) : List Served :=
  inMemory.trace (fresh rate burst) calls

/-- The costs `principal` was admitted at in `log`, added up. Refused calls cost nothing, and the
calls of other principals are not counted. -/
def admittedCost (principal : String) (log : List Served) : ℚ :=
  ((log.filter fun s => s.1.principal = principal).map fun s => charge s.1 s.2).sum

@[simp] theorem admittedCost_nil (p : String) : admittedCost p [] = 0 := rfl

/-- What a served call drew from its principal's bucket. -/
def draw (s : Served) : Draw ℚ := ⟨s.1.now, charge s.1 s.2⟩

/-- The draws of one principal, newest first. -/
def draws (p : String) (log : List Served) : List (Draw ℚ) :=
  ((log.filter fun s => s.1.principal = p).map draw).reverse

@[simp] theorem draws_nil (p : String) : draws p [] = [] := rfl

/-- A call adds its draw to its principal's history, and to no other. -/
theorem draws_concat_self (log : List Served) (s : Served) :
    draws s.1.principal (log ++ [s]) = draw s :: draws s.1.principal log := by
  simp [draws]

theorem draws_concat_other {p : String} {log : List Served} {s : Served}
    (h : s.1.principal ≠ p) : draws p (log ++ [s]) = draws p log := by
  simp [draws, h]

/-- The bucket that a history of draws leaves behind. -/
def bucketAfter (rate burst : ℚ) : List (Draw ℚ) → Option Bucket
  | []      => none
  | d :: ds => some ⟨level burst rate ds d.time - d.amount, d.time⟩

/-! ## The invariant

The limiter's buckets are a function of the log. A principal that has not called yet has no bucket,
which counts as a full one. -/

/-- Every stored bucket is the one its principal's draws leave behind. -/
structure Tracks (rate burst : ℚ) (log : List Served) (lim : TokenBucketLimiter) : Prop where
  rate_eq  : lim.rate = rate
  burst_eq : lim.burst = burst
  bucket   : ∀ p, lim.buckets p = bucketAfter rate burst (draws p log)

variable {rate burst : ℚ}

/-- Under the invariant, what `allow` finds available is the level of the capped bucket. -/
theorem Tracks.available_eq {log : List Served} {lim : TokenBucketLimiter}
    (h : Tracks rate burst log lim) (call : Call) :
    lim.available call = level burst rate (draws call.principal log) call.now := by
  simp only [TokenBucketLimiter.available, h.bucket, h.rate_eq, h.burst_eq]
  cases draws call.principal log with
  | nil => simp [bucketAfter]
  | cons d ds => rfl

/-- **One call keeps the invariant**: the bucket of each principal is what its draws, refilled over
time, have left of the burst. -/
theorem allow_tracks {log : List Served} {lim : TokenBucketLimiter}
    (h : Tracks rate burst log lim) (call : Call) :
    Tracks rate burst (log ++ [(call, (lim.allow call).1)]) (lim.allow call).2 := by
  rw [lim.allow_eq call]
  refine ⟨h.rate_eq, h.burst_eq, fun p => ?_⟩
  -- the caller's own bucket is written, the others stay
  rcases eq_or_ne call.principal p with rfl | hp
  · rw [draws_concat_self (s := (call, _))]
    simp [TokenBucketLimiter.put, bucketAfter, draw, h.available_eq]
  · rw [draws_concat_other hp]
    simp [TokenBucketLimiter.put, Function.update_of_ne hp.symm, h.bucket]

/-- **Every run keeps it**, by induction on the calls, from an empty limiter, where every bucket is
full. -/
theorem tracks_run (calls : List Call) :
    Tracks rate burst (served rate burst calls) (inMemory.final (fresh rate burst) calls) :=
  Machine.run_induction' (P := Tracks rate burst) ⟨rfl, rfl, fun _ => rfl⟩
    (fun _ _ call h => allow_tracks h call) calls

/-! ## From histories to windows

A history of draws is the log of one principal read backwards, so a prefix of the history is a
window of the log that ends now. The lemmas translate the one into the other. -/

/-- The total drawn over a window is the admitted cost over it. -/
theorem drawn_draws (p : String) (log : List Served) :
    drawn (draws p log) = admittedCost p log := by
  simp [drawn, draws, admittedCost, draw, Function.comp_def, List.sum_reverse]

/-- A longer log is a longer history, with the newer part in front. -/
theorem draws_append (p : String) (log log' : List Served) :
    draws p (log ++ log') = draws p log' ++ draws p log := by
  simp [draws]

/-- A draw in the history of `p` comes from a call of `p`, and the draws newer than it from the
calls after that one. -/
theorem draws_eq_append_cons {p : String} {log : List Served} {newer older : List (Draw ℚ)}
    {d : Draw ℚ} (h : draws p log = newer ++ d :: older) :
    ∃ before s window, log = before ++ s :: window ∧ s.1.principal = p ∧ draw s = d ∧
      draws p window = newer := by
  have hrev : (log.filter fun s => s.1.principal = p).map draw
      = older.reverse ++ d :: newer.reverse := by
    simpa [draws] using congrArg List.reverse h
  obtain ⟨l₁, l₂, hfilter, -, htail⟩ := List.map_eq_append_iff.mp hrev
  obtain ⟨s, rest, rfl, hs, hrest⟩ := List.map_eq_cons_iff.mp htail
  obtain ⟨log₁, log₂, rfl, -, hlog₂⟩ := List.filter_eq_append_iff.mp hfilter
  obtain ⟨mid, window, rfl, -, hp, hw⟩ := List.filter_eq_cons_iff.mp hlog₂
  refine ⟨log₁ ++ mid, s, window, by simp, by simpa using hp, hs, ?_⟩
  rw [draws, hw, hrest, List.reverse_reverse]

/-- The level law over the served log: windows are given by where they start. -/
theorem le_level_draws_iff {p : String} {log : List Served} {now x : ℚ} :
    x ≤ level burst rate (draws p log) now ↔
      x ≤ burst ∧ ∀ before s window, log = before ++ s :: window → s.1.principal = p →
        x + admittedCost p (s :: window) ≤ burst + rate * (now - s.1.now) := by
  rw [CappedBucket.le_level_iff]
  refine and_congr_right fun _ => ⟨?_, ?_⟩
  · rintro h before s window rfl rfl
    -- a window of the log is a window of the draws
    have hself : draws s.1.principal (s :: window)
        = draws s.1.principal window ++ [draw s] := by simp [draws]
    have hwin := h (draws s.1.principal window) (draw s) (draws s.1.principal before)
      (by rw [draws_append, hself, List.append_assoc]; rfl)
    rwa [← hself, drawn_draws] at hwin
  · intro h newer d older heq
    obtain ⟨before, s, window, rfl, rfl, rfl, rfl⟩ := draws_eq_append_cons heq
    have hwin := h before s window rfl rfl
    rw [← drawn_draws] at hwin
    simpa [draws, draw] using hwin

/-- The same, with windows given by indices: `j` runs over the calls before the `k`-th and the
`k`-th itself, whose window is empty. -/
theorem le_level_take_iff {log : List Served} (k : Fin log.length) :
    log[k].1.cost ≤ level burst rate (draws log[k].1.principal (log.take k)) log[k].1.now ↔
      ∀ j ≤ k, log[j].1.principal = log[k].1.principal →
        log[k].1.cost + admittedCost log[k].1.principal ((log.take k).drop j)
          ≤ burst + rate * (log[k].1.now - log[j].1.now) := by
  rw [le_level_draws_iff]
  constructor
  · rintro ⟨hcap, hwin⟩ j hj hp
    -- the window of the call alone says that its cost is at most the burst
    rcases eq_or_lt_of_le hj with rfl | hlt
    · simpa [List.drop_eq_nil_of_le] using hcap
    · have hlen : j.val < (log.take k).length := by simp; omega
      have hdrop : (log.take k).drop j = log[j] :: (log.take k).drop (j + 1) := by
        rw [List.drop_eq_getElem_cons hlen]; simp
      rw [hdrop]
      exact hwin ((log.take k).take j) log[j] _ (by rw [← hdrop, List.take_append_drop]) hp
  · intro h
    refine ⟨by simpa [List.drop_eq_nil_of_le] using h k le_rfl rfl, ?_⟩
    intro before s window heq hp
    have hlen : before.length < k := by  -- a place in the log before the call, from its length
      have := congrArg List.length heq
      simp at this; omega
    have hlog : before.length < log.length := by omega
    have hs : log[before.length] = s := by
      have htake : before.length < (log.take k).length := by simp; omega
      have hget : (log.take k)[before.length] = s := by simp [heq]
      simpa using hget
    have hwin := h ⟨before.length, hlog⟩ (by simpa [Fin.le_def] using hlen.le)
      (by simpa [hs] using hp)
    simpa [heq, hs] using hwin

/-! ## Independence of principals

The unwinding of noninterference: a foreign call changes nothing, and an own call is answered alike. -/

/-- Two limiters nobody can tell apart by calling as `p`. -/
structure AlikeFor (p : String) (lim lim' : TokenBucketLimiter) : Prop where
  rate   : lim.rate = lim'.rate
  burst  : lim.burst = lim'.burst
  bucket : lim.buckets p = lim'.buckets p

/-- A call of somebody else changes nothing for `p`. -/
theorem AlikeFor.other {p : String} {lim lim' : TokenBucketLimiter} (h : AlikeFor p lim lim')
    {call : Call} (hp : call.principal ≠ p) : AlikeFor p (lim.allow call).2 lim' := by
  rw [lim.allow_eq call]
  refine ⟨h.rate, h.burst, ?_⟩
  show Function.update lim.buckets _ _ p = _
  rw [Function.update_of_ne hp.symm, h.bucket]

/-- A call of `p` itself is answered the same, and the limiters stay alike. -/
theorem AlikeFor.own {p : String} {lim lim' : TokenBucketLimiter} (h : AlikeFor p lim lim')
    {call : Call} (hp : call.principal = p) :
    (lim.allow call).1 = (lim'.allow call).1 ∧ AlikeFor p (lim.allow call).2 (lim'.allow call).2 := by
  have havail : lim.available call = lim'.available call := by
    simp only [TokenBucketLimiter.available, hp, h.rate, h.burst, h.bucket]
  rw [lim.allow_eq call, lim'.allow_eq call, havail]
  refine ⟨rfl, h.rate, h.burst, ?_⟩
  subst hp
  simp [TokenBucketLimiter.put]

/-- The answers to the calls of `p` are those of the run in which nobody else calls. -/
theorem served_filter (calls : List Call) (p : String) :
    (served rate burst calls).filter (fun s => s.1.principal = p) =
      served rate burst (calls.filter fun c => c.principal = p) := by
  apply Machine.trace_filter_of_unwinding (fun c : Call => c.principal = p) (R := AlikeFor p)
  · exact ⟨rfl, rfl, rfl⟩
  · intro lim lim' call h hother
    exact h.other (of_decide_eq_false hother)
  · intro lim lim' call h hown
    exact h.own (of_decide_eq_true hown)

/-! ## The law

Three statements in one: when a call is admitted, that the run answers the calls it was given, and
that the calls of others may be deleted. -/

/-- **The admission law.** The `k`-th call is admitted iff for every earlier-or-same call `j` of its
principal, its cost and what the principal was admitted at from `j` up to it fit under a full
burst plus what the rate yields between the two time stamps; and the calls of other principals
have no influence at all. -/
theorem served_iff_windows (rate burst : ℚ) (calls : List Call) :
    (∀ k : Fin (served rate burst calls).length,
      (served rate burst calls)[k].2 = true ↔
        ∀ j ≤ k, (served rate burst calls)[j].1.principal
            = (served rate burst calls)[k].1.principal →
          (served rate burst calls)[k].1.cost
              + admittedCost (served rate burst calls)[k].1.principal
                  (((served rate burst calls).take k).drop j)
            ≤ burst + rate * ((served rate burst calls)[k].1.now
                - (served rate burst calls)[j].1.now)) ∧
    (served rate burst calls).map Prod.fst = calls ∧
    ∀ p, (served rate burst calls).filter (fun s => s.1.principal = p) =
      served rate burst (calls.filter fun c => c.principal = p) := by
  refine ⟨fun k => ?_, ?_, served_filter calls⟩
  · have hk : k.val < calls.length := by simpa [served] using k.isLt
    -- the decision is that of the bucket after the calls before, which holds what their draws
    -- have left
    have htracks := @tracks_run rate burst (calls.take k)
    have hlog : served rate burst (calls.take k) = (served rate burst calls).take k :=
      (Machine.take_trace ..).symm
    have hget := Machine.getElem_trace inMemory (fresh rate burst) calls k.val hk k.isLt
    have hcall : (served rate burst calls)[k].1 = calls[k.val] := congrArg Prod.fst hget
    have hans : (served rate burst calls)[k].2
        = ((inMemory.final (fresh rate burst) (calls.take k)).allow calls[k.val]).1 :=
      congrArg Prod.snd hget
    rw [← le_level_take_iff, hans, TokenBucketLimiter.allow_eq, htracks.available_eq, hlog, hcall]
    simp
  · exact Machine.map_fst_trace ..

end SreAgent.Ratelimit
