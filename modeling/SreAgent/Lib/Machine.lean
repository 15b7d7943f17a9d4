import Mathlib.Data.List.Basic

/-!
# Deterministic machines and their runs

A service that answers one request at a time is a function from a state and an input to an answer
and a next state. This file has the runs of such a machine and the induction rules the
developments on top of it use:

* `run_induction` — an invariant of (trace so far, current state) that every step keeps holds at
  the end of every run, under a guard on what each step may be given;
* `trace_eq_of_sim` — two machines whose states stay related answer every run alike;
* `trace_filter_of_unwinding` — a run answers some of its inputs as the run without the others does;
* `getElem_trace` — the `k`-th answer is the step taken from the state its prefix leads to.
-/

/-- One step reads an input, answers it and moves to the next state. -/
structure Machine (σ ι ο : Type*) where
  step : σ → ι → ο × σ

namespace Machine

variable {σ τ ι ο : Type*}

def final (m : Machine σ ι ο) (s : σ) : List ι → σ
  | []      => s
  | i :: is => m.final (m.step s i).2 is

/-- Every input of a run, each with the answer it got. -/
def trace (m : Machine σ ι ο) (s : σ) : List ι → List (ι × ο)
  | []      => []
  | i :: is => (i, (m.step s i).1) :: m.trace (m.step s i).2 is

/-- A run each of whose inputs the guard admits in the state it meets. -/
def Guarded (m : Machine σ ι ο) (ok : σ → ι → Prop) (s : σ) : List ι → Prop
  | []      => True
  | i :: is => ok s i ∧ m.Guarded ok (m.step s i).2 is

/-! ## Runs and concatenation

Both functions recur on the inputs from the front, as a run takes place. Most arguments want the
last input instead, so the laws for `++` come first and everything else is stated with them. -/

@[simp] theorem final_nil (m : Machine σ ι ο) (s : σ) : m.final s [] = s := rfl

@[simp] theorem trace_nil (m : Machine σ ι ο) (s : σ) : m.trace s [] = [] := rfl

@[simp] theorem final_cons (m : Machine σ ι ο) (s : σ) (i : ι) (is : List ι) :
    m.final s (i :: is) = m.final (m.step s i).2 is := rfl

@[simp] theorem trace_cons (m : Machine σ ι ο) (s : σ) (i : ι) (is : List ι) :
    m.trace s (i :: is) = (i, (m.step s i).1) :: m.trace (m.step s i).2 is := rfl

/-- A run may be stopped anywhere and taken up again from the state it has reached. -/
theorem final_append (m : Machine σ ι ο) (s : σ) (is js : List ι) :
    m.final s (is ++ js) = m.final (m.final s is) js := by
  induction is generalizing s with
  | nil => rfl
  | cons i is ih => exact ih _

/-- The same for the answers: those of the second part are given from the state the first part ends
in. -/
theorem trace_append (m : Machine σ ι ο) (s : σ) (is js : List ι) :
    m.trace s (is ++ js) = m.trace s is ++ m.trace (m.final s is) js := by
  induction is generalizing s with
  | nil => rfl
  | cons i is ih => simp [ih]

@[simp] theorem length_trace (m : Machine σ ι ο) (s : σ) (is : List ι) :
    (m.trace s is).length = is.length := by
  induction is generalizing s with
  | nil => rfl
  | cons i is ih => simp [ih]

@[simp] theorem map_fst_trace (m : Machine σ ι ο) (s : σ) (is : List ι) :
    (m.trace s is).map Prod.fst = is := by
  induction is generalizing s with
  | nil => rfl
  | cons i is ih => simp [ih]

/-- The `k`-th entry of a trace is the step from the state the first `k` inputs lead to. -/
theorem getElem_trace (m : Machine σ ι ο) (s : σ) (is : List ι) (k : Nat) (hk : k < is.length)
    (hk' : k < (m.trace s is).length) :
    (m.trace s is)[k] = (is[k], (m.step (m.final s (is.take k)) is[k]).1) := by
  induction is generalizing s k with
  | nil => simp at hk
  | cons i is ih =>
      cases k with
      | zero => rfl
      | succ k =>
          have hk₁ : k < is.length := by simpa using hk
          exact ih _ k hk₁ (by simpa using hk₁)

/-- The beginning of a trace is the trace of the beginning: what comes later has no influence on it.
-/
theorem take_trace (m : Machine σ ι ο) (s : σ) (is : List ι) (k : Nat) :
    (m.trace s is).take k = m.trace s (is.take k) := by
  induction is generalizing s k with
  | nil => simp
  | cons i is ih =>
      cases k with
      | zero => rfl
      | succ k => simp [ih]

/-- Every entry of a trace is a step from some state. -/
theorem mem_trace {m : Machine σ ι ο} {s : σ} {is : List ι} {e : ι × ο} (h : e ∈ m.trace s is) :
    ∃ s', e.2 = (m.step s' e.1).1 := by
  induction is generalizing s with
  | nil => cases h
  | cons i is ih =>
      rcases List.mem_cons.mp h with rfl | h
      · exact ⟨s, rfl⟩
      · exact ih h

/-- Every answer of a run is the answer to its input from the state the inputs before it lead to,
so they all have a property iff those before the last one have and the last one has. -/
theorem forall_trace_concat {m : Machine σ ι ο} {s : σ} {is : List ι} {i : ι} {P : ι × ο → Prop} :
    (∀ e ∈ m.trace s (is ++ [i]), P e) ↔
      (∀ e ∈ m.trace s is, P e) ∧ P (i, (m.step (m.final s is) i).1) := by
  rw [trace_append, List.forall_mem_append]
  simp

/-! ## Induction rules

An invariant may speak of the whole trace and not only of the state, since a statement about a history
(no more than so many requests in a minute) is rarely a property of the last state. `R` of a
simulation likewise carries the inputs that were already taken. -/

/-- **Invariants of guarded runs.** What holds of the empty trace and survives every admitted step
holds of the whole run, trace and state together. -/
theorem run_induction {m : Machine σ ι ο} {ok : σ → ι → Prop} {s : σ}
    {P : List (ι × ο) → σ → Prop} (start : P [] s)
    (keep : ∀ tr s i, P tr s → ok s i → P (tr ++ [(i, (m.step s i).1)]) (m.step s i).2)
    {is : List ι} (h : m.Guarded ok s is) : P (m.trace s is) (m.final s is) := by
  -- for any trace so far, as the run goes on from the middle
  suffices H : ∀ tr, P tr s → P (tr ++ m.trace s is) (m.final s is) by simpa using H [] start
  clear start
  induction is generalizing s with
  | nil => intro tr htr; simpa using htr
  | cons i is ih =>
      intro tr htr
      have hnext := ih h.2 (tr ++ [(i, (m.step s i).1)]) (keep tr s i htr h.1)
      simpa using hnext

/-- The unguarded rule, for machines that take every input. -/
theorem run_induction' {m : Machine σ ι ο} {s : σ} {P : List (ι × ο) → σ → Prop}
    (start : P [] s) (keep : ∀ tr s i, P tr s → P (tr ++ [(i, (m.step s i).1)]) (m.step s i).2)
    (is : List ι) : P (m.trace s is) (m.final s is) := by
  have hg : m.Guarded (fun _ _ => True) s is := by
    clear start
    induction is generalizing s with
    | nil => trivial
    | cons i is ih => exact ⟨trivial, ih⟩
  exact run_induction start (fun tr s i h _ => keep tr s i h) hg

/-- **Simulation.** Two machines whose states stay related, given inputs that are good each for
itself and ordered by `r` among themselves, answer alike all along. `R` may speak of the inputs
already taken. -/
theorem trace_eq_of_sim {m : Machine σ ι ο} {n : Machine τ ι ο} {r : ι → ι → Prop}
    {good : ι → Prop} {R : List ι → σ → τ → Prop} {s : σ} {t : τ} (start : R [] s t)
    (keep : ∀ past s t i, R past s t → (∀ j ∈ past, r j i) → good i →
      (m.step s i).1 = (n.step t i).1 ∧ R (past ++ [i]) (m.step s i).2 (n.step t i).2)
    {is : List ι} (hr : is.Pairwise r) (hg : ∀ i ∈ is, good i) : m.trace s is = n.trace t is := by
  -- for any inputs so far; the order among them and the rest is part of the hypothesis
  suffices H : ∀ past, R past s t → (past ++ is).Pairwise r → m.trace s is = n.trace t is from
    H [] start (by simpa using hr)
  clear start hr
  induction is generalizing s t with
  | nil => intros; rfl
  | cons i is ih =>
      intro past hR hpair
      have hbefore : ∀ j ∈ past, r j i := fun j hj =>
        (List.pairwise_append.mp hpair).2.2 j hj i (List.mem_cons_self ..)
      obtain ⟨hout, hnext⟩ := keep past s t i hR hbefore (hg i (List.mem_cons_self ..))
      have htail := ih (fun j hj => hg j (List.mem_cons_of_mem _ hj)) (past ++ [i]) hnext
        (by simpa using hpair)
      simp only [trace_cons, hout, htail]

/-- **Unwinding.** Suppose the states of two runs can be kept alike while one of them also takes
the inputs that are not `own`: those leave it alike, and an own input is answered the same in like
states. Then the own inputs are answered as if there were no others. -/
theorem trace_filter_of_unwinding {m : Machine σ ι ο} (own : ι → Bool) {R : σ → σ → Prop} {s t : σ}
    (start : R s t) (other : ∀ s t i, R s t → own i = false → R (m.step s i).2 t)
    (mine : ∀ s t i, R s t → own i = true →
      (m.step s i).1 = (m.step t i).1 ∧ R (m.step s i).2 (m.step t i).2) (is : List ι) :
    (m.trace s is).filter (fun e => own e.1) = m.trace t (is.filter own) := by
  induction is generalizing s t with
  | nil => rfl
  | cons i is ih =>
      cases hi : own i with
      | false =>  -- a step of somebody else is not seen, and the second run does not make it
          have hnext := ih (other s t i start hi)
          simpa [hi] using hnext
      | true =>  -- an own step is made by both, with the same output
          obtain ⟨hout, hR⟩ := mine s t i start hi
          have hnext := ih hR
          simpa [hi, hout] using hnext

/-! ## Routed inputs

A component often gets more with an input than it uses. Forgetting that part commutes with the run,
so a theorem about the smaller inputs is one about the larger. -/

/-- The machine that is handed its inputs wrapped up in something it does not look at. -/
def comap {ι' : Type*} (m : Machine σ ι ο) (f : ι' → ι) : Machine σ ι' ο where
  step s i := m.step s (f i)

/-- The answers are those of the machine itself to what is inside the wrapping. -/
theorem trace_comap {ι' : Type*} (m : Machine σ ι ο) (f : ι' → ι) (s : σ) (is : List ι') :
    ((m.comap f).trace s is).map (Prod.map f id) = m.trace s (is.map f) := by
  induction is generalizing s with
  | nil => rfl
  | cons i is ih =>
      have hnext := ih (m.step s (f i)).2
      rw [List.map_cons, trace_cons, trace_cons, List.map_cons, ← hnext]
      rfl

end Machine
