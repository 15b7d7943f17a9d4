import Mathlib.Algebra.Order.Floor.Ring
import Mathlib.Data.List.GetD
import Mathlib.Data.List.Sort
import Mathlib.Data.Multiset.Basic
import Mathlib.Data.Rat.Floor
import Mathlib.Tactic.Linarith

/-!
# The load generator

`loadtest/run_load.py`: a number of workers share one counter of the requests sent, and each sends
the next request when its last one is answered. The workers run on one event loop, so what a worker
does between two `await`s is one step; which worker goes next is open.

* **Every request is counted once** (`finished_run`) — whatever the interleaving, a run that is over
  reports as many latencies and statuses as there were answers, and with a number of requests asked
  for exactly that many.
* **The run ends** (`run_length_le`, `exists_step`) — it has at most two steps for each request and
  one for each worker, and until all workers have stopped one of them can go on.
* **The latencies are in order** (`report_ordered`) — p50 ≤ p90 ≤ p95 ≤ p99 ≤ max.

Times are rational numbers here, and they only go into the latencies. What is counted does not
depend on them, so the statements about counts hold of the real clock as well. A percentile is one
of the values, chosen by a rank that is rounded.
-/

namespace SreAgent.Loadtest

/-! ## The pool of workers

A worker is a program with two places where it waits: at its condition, which it checks again after
each answer, and at the answer itself. Between the two it adds one to the counter, and no other
worker runs meanwhile. -/

/-- A worker is at its `while`, waits for an answer since `t0`, or has returned. -/
inductive Phase where
  | ready
  | waiting (t0 : ℚ)
  | stopped
  deriving DecidableEq, Repr

def Phase.isWaiting : Phase → Bool
  | .waiting _ => true
  | _          => false

def Phase.isStopped : Phase → Bool
  | .stopped => true
  | _        => false

structure Pool where
  workers  : List Phase
  counter  : ℤ := 0
  lats     : List ℚ := []
  statuses : Multiset ℕ := 0

/-- What the loops of all workers compare with. -/
structure Plan where
  nTarget  : ℤ
  deadline : ℚ
  deriving DecidableEq, Repr

inductive Event where
  /-- Worker `i` evaluates its condition at `now`, and if it holds sends a request at `t0`. -/
  | check (i : ℕ) (now t0 : ℚ)
  /-- Worker `i` gets a status, or 0 for an exception. -/
  | answer (i status : ℕ) (now : ℚ)
  deriving DecidableEq, Repr

def Event.now : Event → ℚ
  | .check _ now _  => now
  | .answer _ _ now => now

def Event.status : Event → Option ℕ
  | .check ..           => none
  | .answer _ status _ => some status

/-- One pass of `_worker` from one `await` to the next, in two halves. -/
def step (plan : Plan) (pool : Pool) : Event → Option Pool
  | .check i now t0 =>
      match pool.workers[i]? with
      | some .ready =>
          if now < plan.deadline ∧ pool.counter < plan.nTarget then
            some { pool with
              workers := pool.workers.set i (.waiting t0), counter := pool.counter + 1 }
          else some { pool with workers := pool.workers.set i .stopped }
      | _ => none
  | .answer i status now =>
      match pool.workers[i]? with
      | some (.waiting t0) =>
          some { pool with
            workers := pool.workers.set i .ready
            lats := pool.lats ++ [(now - t0) * 1000]
            statuses := status ::ₘ pool.statuses }
      | _ => none

def runFrom (plan : Plan) (pool : Pool) : List Event → Option Pool
  | []      => some pool
  | e :: es => (step plan pool e).bind fun pool => runFrom plan pool es

/-- The `gather` of `run`. -/
def Pool.start (concurrency : ℕ) : Pool where
  workers := List.replicate concurrency .ready

/-- `n_target` and `deadline` of `run`. -/
def planOf (now duration : ℚ) (requests : ℤ) : Plan where
  nTarget := if requests = 0 then 10 ^ 12 else requests
  deadline := now + if requests = 0 then duration else 10 ^ 6

/-- All workers have returned. -/
def Pool.Done (pool : Pool) : Prop := ∀ w ∈ pool.workers, w = .stopped

/-! ## The report

The result of a run, from what the workers left behind. Rounding is Python's: a half goes to the
even neighbour. -/

/-- `round(x)`, to the even neighbour from the middle. -/
def round (x : ℚ) : ℤ :=
  if x - ⌊x⌋ < 1 / 2 ∨ x - ⌊x⌋ = 1 / 2 ∧ ⌊x⌋ % 2 = 0 then ⌊x⌋ else ⌊x⌋ + 1

/-- `k` of `_percentile`, for `n` values. -/
def rank (n : ℕ) (p : ℚ) : ℕ :=
  let last : ℤ := n - 1
  (max 0 (min last (round (p / 100 * last)))).toNat

def percentile (values : List ℚ) (p : ℚ) : ℚ :=
  if values.isEmpty then 0
  else
    let s := values.insertionSort (· ≤ ·)
    s.getD (rank s.length p) 0

structure Report where
  total    : ℕ
  wall     : ℚ
  rps      : ℚ
  p50      : ℚ
  p90      : ℚ
  p95      : ℚ
  p99      : ℚ
  max      : ℚ
  statuses : Multiset ℕ

/-- The result of `run`; `dict(statuses)` has the number of times each status came. -/
def report (pool : Pool) (wall : ℚ) : Report where
  total := pool.lats.length
  wall := wall
  rps := if wall = 0 then 0 else pool.lats.length / wall
  p50 := percentile pool.lats 50
  p90 := percentile pool.lats 90
  p95 := percentile pool.lats 95
  p99 := percentile pool.lats 99
  max := pool.lats.max?.getD 0
  statuses := pool.statuses

/-! ## What a step does

Three things can happen: a request is sent, a worker stops, an answer comes. The lemma says what
changes in each, and all later proofs go through it. -/

variable {plan : Plan} {pool pool' : Pool} {e : Event} {es : List Event}

/-- A step sends a request if there is time and there are some left, stops a worker if not, or takes
an answer. -/
theorem step_cases (h : step plan pool e = some pool') :
    (∃ i t0, e.now < plan.deadline ∧ pool.counter < plan.nTarget ∧ e.status = none ∧
      pool.workers[i]? = some .ready ∧ pool' = { pool with
        workers := pool.workers.set i (.waiting t0), counter := pool.counter + 1 }) ∨
    (∃ i, (e.now < plan.deadline → plan.nTarget ≤ pool.counter) ∧ e.status = none ∧
      pool.workers[i]? = some .ready ∧
      pool' = { pool with workers := pool.workers.set i .stopped }) ∨
    ∃ i t0 status lat, e.status = some status ∧ pool.workers[i]? = some (.waiting t0) ∧
      pool' = { pool with
        workers := pool.workers.set i .ready
        lats := pool.lats ++ [lat]
        statuses := status ::ₘ pool.statuses } := by
  cases e with
  | check i now t0 =>
      simp only [step] at h
      split at h
      · next hi =>
          split at h
          · next hgo =>
              cases h
              exact .inl ⟨i, t0, hgo.1, hgo.2, rfl, hi, rfl⟩
          · next hgo =>
              cases h
              refine .inr (.inl ⟨i, fun hnow => ?_, rfl, hi, rfl⟩)
              exact not_lt.mp fun hlt => hgo ⟨hnow, hlt⟩
      · cases h
  | answer i status now =>
      simp only [step] at h
      split at h
      · next t0 hi =>
          cases h
          exact .inr (.inr ⟨i, t0, status, _, rfl, hi, rfl⟩)
      · cases h

/-- Putting `b` in the place of `a` changes a count by these two. -/
theorem countP_set_add {α : Type*} {l : List α} {i : ℕ} {a : α} (hi : l[i]? = some a) (p : α → Bool)
    (b : α) : (l.set i b).countP p + (p a).toNat = l.countP p + (p b).toNat := by
  obtain ⟨hlt, rfl⟩ := List.getElem?_eq_some_iff.mp hi
  have hle := List.boole_getElem_le_countP (p := p) hlt
  have hnat (q : Bool) : (if q = true then 1 else 0) = q.toNat := by
    cases q <;> rfl
  rw [hnat] at hle
  rw [List.countP_set hlt, hnat, hnat]
  omega

/-! ## What is kept

The invariant relates four things that are stored apart: the counter, the list of latencies, the
table of statuses and the phases of the workers. Each step moves one request from one of them to the
next. -/

def Pool.inFlight (pool : Pool) : ℕ := pool.workers.countP Phase.isWaiting

def Pool.stopped (pool : Pool) : ℕ := pool.workers.countP Phase.isStopped

/-- Every request sent is in flight or answered, every answer is timed and counted, and no more
requests are sent than asked for. A step goes to a request, which has two, or to a worker that
stops. -/
structure Pool.Inv (plan : Plan) (past : List Event) (pool : Pool) : Prop where
  sent    : pool.counter = pool.lats.length + pool.inFlight
  counted : pool.statuses = Multiset.ofList (past.filterMap Event.status)
  timed   : pool.lats.length = (past.filterMap Event.status).length
  bound   : pool.counter ≤ max plan.nTarget 0
  spent   : (past.length : ℤ) = pool.counter + pool.lats.length + pool.stopped

/-- At the start nothing is sent and nothing is answered. -/
theorem Pool.start_inv (plan : Plan) (concurrency : ℕ) : (Pool.start concurrency).Inv plan [] where
  sent := by simp [Pool.start, Pool.inFlight, List.countP_replicate, Phase.isWaiting]
  counted := rfl
  timed := rfl
  bound := le_max_right _ _
  spent := by simp [Pool.start, Pool.stopped, List.countP_replicate, Phase.isStopped]

/-- Every step keeps it. -/
theorem step_inv {past : List Event} (h : step plan pool e = some pool') (hi : pool.Inv plan past) :
    pool'.Inv plan (past ++ [e]) := by
  obtain ⟨hsent, hcounted, htimed, hbound, hspent⟩ := hi
  rcases step_cases h with ⟨i, t0, -, hlt, hnone, hw, rfl⟩ | ⟨i, -, hnone, hw, rfl⟩ |
    ⟨i, t0, status, lat, hstatus, hw, rfl⟩
  · -- a request is sent
    have hflight : (pool.workers.set i (.waiting t0)).countP Phase.isWaiting = pool.inFlight + 1 :=
      countP_set_add hw Phase.isWaiting (.waiting t0)
    have hstopped : (pool.workers.set i (.waiting t0)).countP Phase.isStopped = pool.stopped :=
      countP_set_add hw Phase.isStopped (.waiting t0)
    have hpast : (past ++ [e]).filterMap Event.status = past.filterMap Event.status := by
      simp [hnone]
    constructor
    case sent =>
      show pool.counter + 1 = pool.lats.length +
        ((pool.workers.set i (.waiting t0)).countP Phase.isWaiting : ℤ)
      omega
    case counted => rw [hpast, hcounted]
    case timed => rw [hpast, htimed]
    case bound =>
      show pool.counter + 1 ≤ _
      omega
    case spent =>
      show ((past ++ [e]).length : ℤ) = pool.counter + 1 + pool.lats.length +
        ((pool.workers.set i (.waiting t0)).countP Phase.isStopped : ℤ)
      rw [List.length_append, List.length_singleton]
      omega
  · -- a worker stops
    have hflight : (pool.workers.set i .stopped).countP Phase.isWaiting = pool.inFlight :=
      countP_set_add hw Phase.isWaiting .stopped
    have hstopped : (pool.workers.set i .stopped).countP Phase.isStopped = pool.stopped + 1 :=
      countP_set_add hw Phase.isStopped .stopped
    have hpast : (past ++ [e]).filterMap Event.status = past.filterMap Event.status := by
      simp [hnone]
    constructor
    case sent =>
      show pool.counter = pool.lats.length +
        ((pool.workers.set i .stopped).countP Phase.isWaiting : ℤ)
      rw [hflight, hsent]
    case counted => rw [hpast, hcounted]
    case timed => rw [hpast, htimed]
    case bound => exact hbound
    case spent =>
      show ((past ++ [e]).length : ℤ) = pool.counter + pool.lats.length +
        ((pool.workers.set i .stopped).countP Phase.isStopped : ℤ)
      rw [List.length_append, List.length_singleton]
      omega
  · -- a request is answered
    have hflight : (pool.workers.set i .ready).countP Phase.isWaiting + 1 = pool.inFlight :=
      countP_set_add hw Phase.isWaiting .ready
    have hstopped : (pool.workers.set i .ready).countP Phase.isStopped = pool.stopped :=
      countP_set_add hw Phase.isStopped .ready
    have hpast : (past ++ [e]).filterMap Event.status =
        past.filterMap Event.status ++ [status] := by
      simp [hstatus]
    have hlats : (pool.lats ++ [lat]).length = pool.lats.length + 1 := by
      rw [List.length_append, List.length_singleton]
    constructor
    case sent =>
      show pool.counter = ((pool.lats ++ [lat]).length : ℤ) +
        ((pool.workers.set i .ready).countP Phase.isWaiting : ℤ)
      omega
    case counted =>
      show status ::ₘ pool.statuses = _
      rw [hpast, hcounted, Multiset.cons_coe, Multiset.coe_eq_coe]
      exact (List.perm_append_singleton status _).symm
    case timed =>
      show (pool.lats ++ [lat]).length = _
      rw [hlats, hpast, List.length_append, List.length_singleton, htimed]
    case bound => exact hbound
    case spent =>
      show ((past ++ [e]).length : ℤ) = pool.counter + ((pool.lats ++ [lat]).length : ℤ) +
        ((pool.workers.set i .ready).countP Phase.isStopped : ℤ)
      rw [List.length_append, List.length_singleton]
      omega

/-- No worker comes or goes. -/
theorem step_length_workers (h : step plan pool e = some pool') :
    pool'.workers.length = pool.workers.length := by
  rcases step_cases h with ⟨_, _, -, -, -, -, rfl⟩ | ⟨_, -, -, -, rfl⟩ | ⟨_, _, _, _, -, -, rfl⟩
  · exact List.length_set
  · exact List.length_set
  · exact List.length_set

/-- A worker that has stopped before the deadline has seen that all requests are sent. -/
def Pool.StoppedLate (plan : Plan) (pool : Pool) : Prop :=
  .stopped ∈ pool.workers → plan.nTarget ≤ pool.counter

/-- Before the deadline a worker stops only when there is nothing left to send, and the counter
never goes down. -/
theorem step_stoppedLate (h : step plan pool e = some pool') (hnow : e.now < plan.deadline)
    (hs : pool.StoppedLate plan) : pool'.StoppedLate plan := by
  intro hmem
  rcases step_cases h with ⟨i, t0, -, hlt, -, -, rfl⟩ | ⟨i, hge, -, -, rfl⟩ |
    ⟨i, t0, status, lat, -, -, rfl⟩
  · rcases List.mem_or_eq_of_mem_set hmem with hmem | hmem
    · exact (hs hmem).trans (Int.le_add_of_nonneg_right (by decide))
    · cases hmem
  · exact hge hnow
  · rcases List.mem_or_eq_of_mem_set hmem with hmem | hmem
    · exact hs hmem
    · cases hmem

/-! ## Whole runs

A run is a list of events, in an order that is open. What is kept by a step holds at the end of
every run, whichever worker went first. -/

/-- What holds at the start and is kept by every event of the run holds at its end. -/
theorem runFrom_induction {P : List Event → Pool → Prop}
    (keep : ∀ past, ∀ e ∈ es, ∀ pool pool', step plan pool e = some pool' → P past pool →
      P (past ++ [e]) pool')
    (h : runFrom plan pool es = some pool') (start : P [] pool) : P es pool' := by
  -- with any past in front, so that the induction goes from the first event on
  suffices H : ∀ past, P past pool → P (past ++ es) pool' from H [] start
  clear start
  induction es generalizing pool with
  | nil =>
      intro past hpast
      cases h
      rwa [List.append_nil]
  | cons e es ih =>
      intro past hpast
      obtain ⟨next, hstep, hrest⟩ := Option.bind_eq_some_iff.mp h
      have hnext := keep past e List.mem_cons_self _ _ hstep hpast
      have hlast := ih (fun past e he => keep past e (List.mem_cons_of_mem _ he)) hrest _ hnext
      rwa [List.append_assoc] at hlast

section Run

variable {concurrency : ℕ} (h : runFrom plan (Pool.start concurrency) es = some pool)

include h

/-- The invariant holds at the end, with the workers there were at the start, and who stopped did so
late. -/
theorem inv_of_run : pool.Inv plan es :=
  runFrom_induction (fun _ _ _ _ _ hstep hinv => step_inv hstep hinv) h
    (Pool.start_inv plan concurrency)

theorem length_workers_of_run : pool.workers.length = concurrency :=
  runFrom_induction (P := fun _ pool => pool.workers.length = concurrency)
    (fun _ _ _ _ _ hstep hlength => (step_length_workers hstep).trans hlength) h
    List.length_replicate

theorem stoppedLate_of_run (hnow : ∀ e ∈ es, e.now < plan.deadline) : pool.StoppedLate plan := by
  apply runFrom_induction (P := fun _ => Pool.StoppedLate plan) _ h
  · intro hmem
    cases List.eq_of_mem_replicate hmem
  · intro past e he pool pool' hstep hs
    exact step_stoppedLate hstep (hnow e he) hs

/-- When all have stopped nothing is in flight, so what was sent was answered. -/
theorem counter_of_done (hdone : pool.Done) : pool.counter = pool.lats.length := by
  have hnone : pool.inFlight = 0 := by
    apply List.countP_eq_zero.mpr
    intro w hw
    rw [hdone w hw]
    decide
  rw [(inv_of_run h).sent, hnone, Nat.cast_zero, add_zero]

/-- **The run is bounded** by two steps for each request and one for each worker. -/
theorem run_length_le : (es.length : ℤ) ≤ 2 * max plan.nTarget 0 + concurrency := by
  have hi := inv_of_run h
  have hstopped : pool.stopped ≤ concurrency := by
    rw [← length_workers_of_run h]
    exact List.countP_le_length
  have hsent := hi.sent
  have hbound := hi.bound
  rw [hi.spent]
  omega

/-- **A finished run** counts every answer once, whatever the interleaving, sends no more requests
than asked for, and sends exactly as many unless the deadline comes first. -/
theorem finished_run (hdone : pool.Done) (wall : ℚ) :
    (report pool wall).statuses = Multiset.ofList (es.filterMap Event.status) ∧
    (report pool wall).total = (report pool wall).statuses.card ∧
    ((report pool wall).total : ℤ) ≤ max plan.nTarget 0 ∧
    (0 < concurrency → (∀ e ∈ es, e.now < plan.deadline) →
      ((report pool wall).total : ℤ) = max plan.nTarget 0) := by
  have hi := inv_of_run h
  have htotal : pool.counter = ((report pool wall).total : ℤ) := counter_of_done h hdone
  refine ⟨hi.counted, ?_, ?_, ?_⟩
  · show pool.lats.length = pool.statuses.card
    rw [hi.counted, Multiset.coe_card, hi.timed]
  · rw [← htotal]
    exact hi.bound
  · intro hpos hnow
    -- there is a worker, and it has stopped before the deadline
    have hworkers : 0 < pool.workers.length := by rwa [length_workers_of_run h]
    have hstopped : .stopped ∈ pool.workers := by
      have hmem := List.getElem_mem hworkers
      rwa [hdone _ hmem] at hmem
    -- so all requests that were asked for have been sent
    have hall : plan.nTarget ≤ pool.counter := stoppedLate_of_run h hnow hstopped
    have hnonneg : 0 ≤ pool.counter := by
      rw [htotal]
      exact Int.natCast_nonneg _
    rw [← htotal]
    exact le_antisymm hi.bound (max_le hall hnonneg)

end Run

/-- Two workers and three requests: the first one is answered twice before the second is. -/
def threeRequests : List Event :=
  [.check 0 0 0, .check 1 0 0, .answer 0 200 (1 / 100), .check 0 (1 / 100) (1 / 100),
   .answer 0 503 (3 / 100), .check 0 (3 / 100) (3 / 100), .answer 1 0 (4 / 100),
   .check 1 (4 / 100) (4 / 100)]

def threeDone : Pool where
  workers  := [.stopped, .stopped]
  counter  := 3
  lats     := [10, 20, 40]
  statuses := {0, 503, 200}

/-- It is a run, and ends with three latencies. -/
theorem runFrom_threeRequests :
    runFrom (planOf 0 10 3) (Pool.start 2) threeRequests = some threeDone := by
  norm_num [threeRequests, threeDone, runFrom, step, planOf, Pool.start, List.replicate]

/-- Three requests were asked for, and three are reported. -/
theorem finished_run_three : ((report threeDone (4 / 100)).total : ℤ) = 3 := by
  have hdone : threeDone.Done := by
    simp [Pool.Done, threeDone]
  have hnow : ∀ e ∈ threeRequests, e.now < (planOf 0 10 3).deadline := by
    simp only [threeRequests, List.forall_mem_cons, Event.now, planOf]
    norm_num
  obtain ⟨-, -, -, hexact⟩ := finished_run runFrom_threeRequests hdone (4 / 100)
  exact hexact (by decide) hnow

/-- Until all workers have stopped, one of them can go on. -/
theorem exists_step (plan : Plan) (hnot : ¬ pool.Done) (now : ℚ) :
    ∃ e pool', e.now = now ∧ step plan pool e = some pool' := by
  simp only [Pool.Done, not_forall] at hnot
  obtain ⟨w, hw, hgoes⟩ := hnot
  obtain ⟨i, hi⟩ := List.mem_iff_getElem?.mp hw
  cases w with
  | ready =>
      by_cases hgo : now < plan.deadline ∧ pool.counter < plan.nTarget
      · exact ⟨.check i now now, _, rfl, by simp only [step, hi, if_pos hgo]; rfl⟩
      · exact ⟨.check i now now, _, rfl, by simp only [step, hi, if_neg hgo]; rfl⟩
  | waiting t0 => exact ⟨.answer i 0 now, _, rfl, by simp only [step, hi]; rfl⟩
  | stopped => exact (hgoes rfl).elim

/-! ## Percentiles

All percentiles look into the same sorted list. So they are in order if their ranks are, and the
ranks are because rounding is monotone. -/

/-- Rounding to the even neighbour is monotone: two numbers between the same integers are rounded
apart only in their order. -/
theorem round_mono {x y : ℚ} (h : x ≤ y) : round x ≤ round y := by
  have hfloor : ⌊x⌋ ≤ ⌊y⌋ := Int.floor_mono h
  have hle (z : ℚ) : ⌊z⌋ ≤ round z ∧ round z ≤ ⌊z⌋ + 1 := by
    unfold round
    split <;> omega
  rcases hfloor.lt_or_eq with hlt | heq
  · exact (hle x).2.trans ((Int.add_one_le_iff.mpr hlt).trans (hle y).1)
  · -- one unit: past the middle stays past the middle
    unfold round
    rw [heq]
    split
    · split <;> omega
    · next hx =>
        have hy : ¬ (y - ⌊y⌋ < 1 / 2 ∨ y - ⌊y⌋ = 1 / 2 ∧ ⌊y⌋ % 2 = 0) := by
          intro hy
          apply hx
          rcases hy with hy | ⟨hy, heven⟩
          · left
            linarith
          · rcases (sub_le_sub_right h (⌊y⌋ : ℚ)).lt_or_eq with hlt | heq'
            · left
              linarith
            · right
              exact ⟨heq'.trans hy, heven⟩
        rw [if_neg hy]

/-- A rank is a place in the list, and a higher percentile has no lower rank. -/
theorem rank_lt {n : ℕ} (hn : 0 < n) (p : ℚ) : rank n p < n := by
  simp only [rank]
  omega

theorem rank_mono {n : ℕ} (hn : 0 < n) {p q : ℚ} (h : p ≤ q) : rank n p ≤ rank n q := by
  have hlast : (0 : ℚ) ≤ ((n : ℤ) - 1 : ℤ) := by
    exact_mod_cast (by omega : (0 : ℤ) ≤ (n : ℤ) - 1)
  have hshare : p / 100 ≤ q / 100 := by
    linarith
  have hround := round_mono (mul_le_mul_of_nonneg_right hshare hlast)
  simp only [rank]
  omega

/-- A percentile of some values is one of them, in their sorted order. -/
theorem percentile_eq {values : List ℚ} (hne : values ≠ []) (p : ℚ) :
    ∃ hk : rank values.length p < (values.insertionSort (· ≤ ·)).length,
      percentile values p = (values.insertionSort (· ≤ ·))[rank values.length p] := by
  have hk : rank values.length p < (values.insertionSort (· ≤ ·)).length := by
    rw [List.length_insertionSort]
    exact rank_lt (List.length_pos_iff.mpr hne) p
  refine ⟨hk, ?_⟩
  have hempty : values.isEmpty = false := by
    simpa using hne
  simp only [percentile, hempty, List.length_insertionSort]
  exact List.getD_eq_getElem _ _ hk

/-- So a higher percentile has no smaller value, and none is beyond the maximum. -/
theorem percentile_mono (values : List ℚ) {p q : ℚ} (h : p ≤ q) :
    percentile values p ≤ percentile values q := by
  rcases eq_or_ne values [] with rfl | hne
  · exact le_refl _
  · obtain ⟨hp, hpeq⟩ := percentile_eq hne p
    obtain ⟨hq, hqeq⟩ := percentile_eq hne q
    have hsorted := List.pairwise_insertionSort (· ≤ ·) values
    rw [hpeq, hqeq]
    rcases (rank_mono (List.length_pos_iff.mpr hne) h).lt_or_eq with hlt | heq
    · exact List.pairwise_iff_getElem.mp hsorted _ _ hp hq hlt
    · simp only [heq, le_refl]

theorem percentile_le_max (values : List ℚ) (p : ℚ) : percentile values p ≤ values.max?.getD 0 := by
  cases hmax : values.max? with
  | none =>
      rw [List.max?_eq_none_iff.mp hmax]
      exact le_refl _
  | some m =>
      have hne : values ≠ [] := by
        rintro rfl
        cases hmax
      obtain ⟨hp, hpeq⟩ := percentile_eq hne p
      have hmem := (List.mem_insertionSort _).mp (List.getElem_mem hp)
      rw [hpeq]
      exact (List.max?_eq_some_iff.mp hmax).2 _ hmem

/-- **The latencies of a report are in order**, of whatever pool. -/
theorem report_ordered (pool : Pool) (wall : ℚ) :
    (report pool wall).p50 ≤ (report pool wall).p90 ∧
    (report pool wall).p90 ≤ (report pool wall).p95 ∧
    (report pool wall).p95 ≤ (report pool wall).p99 ∧
    (report pool wall).p99 ≤ (report pool wall).max := by
  refine ⟨percentile_mono _ ?_, percentile_mono _ ?_, percentile_mono _ ?_, percentile_le_max _ _⟩
  · norm_num
  · norm_num
  · norm_num

end SreAgent.Loadtest
