import SreAgent.Ratelimit.Admission

/-!
# What a window of time lets through

The admission law read the other way round: whatever the calls of a principal are, those of them that
fall into a stretch of time are admitted at no more than a full burst and what the rate yields over
that stretch (`admittedCost_le`).

In contrast to the law itself this asks nothing of the calls: stamps may go back, and a cost may be
whatever it likes. It needs no bound on how late a call is, because a stamp that goes back only
takes tokens away.
-/

namespace SreAgent.Ratelimit

open CappedBucket (Draw Sound level drawn)

variable {rate burst : ℚ}

/-- **One call** draws nothing, or what the bucket holds: so over no window is more drawn than the
burst and the refill. -/
theorem Tracks.sound_step {log : List Served} {lim : TokenBucketLimiter}
    (h : Tracks rate burst log lim) {p : String} (hsound : Sound burst rate (draws p log))
    (call : Call) : Sound burst rate (draws p (log ++ [(call, (lim.allow call).1)])) := by
  by_cases hp : call.principal = p
  · subst hp
    rw [draws_concat_self (s := (call, _))]
    apply hsound.cons
    rw [lim.allow_eq call, h.available_eq call]
    -- an admitted call found its cost in the bucket; a refused one draws nothing
    by_cases hle : call.cost ≤ level burst rate (draws call.principal log) call.now
    · right
      simp [draw, charge, hle]
    · left
      simp [draw, charge, hle]
  · rw [draws_concat_other hp]
    exact hsound

/-- **Every run** draws soundly, by the step above and induction on its calls. -/
theorem sound_served (rate burst : ℚ) (calls : List Call) (p : String) :
    Sound burst rate (draws p (served rate burst calls)) := by
  have hrun := Machine.run_induction' (m := inMemory) (s := fresh rate burst)
    (P := fun log lim => Tracks rate burst log lim ∧ Sound burst rate (draws p log))
    ⟨⟨rfl, rfl, fun _ => rfl⟩, CappedBucket.sound_nil burst rate⟩
    (fun log lim call h => ⟨allow_tracks h.1 call, h.1.sound_step h.2 call⟩) calls
  exact hrun.2

/-- **A stretch of time** admits no more than a full burst and what the rate yields over it. -/
theorem admittedCost_le {calls : List Call} {before window after : List Served} {p : String}
    {start length : ℚ} (hrate : 0 ≤ rate) (hburst : 0 ≤ burst) (hlength : 0 ≤ length)
    (hrun : served rate burst calls = before ++ (window ++ after))
    (htime : ∀ s ∈ window, s.1.principal = p → start ≤ s.1.now ∧ s.1.now ≤ start + length) :
    admittedCost p window ≤ burst + rate * length := by
  have hsound := sound_served rate burst calls p
  rw [hrun, draws_append, draws_append, List.append_assoc] at hsound
  rw [← drawn_draws]
  apply hsound.drawn_le hburst hrate hlength
  intro d hd
  simp only [draws, List.mem_reverse, List.mem_map, List.mem_filter, decide_eq_true_eq] at hd
  obtain ⟨s, ⟨hs, hp⟩, rfl⟩ := hd
  exact htime s hs hp

end SreAgent.Ratelimit
