import SreAgent.Rca.Ordinary

/-!
# Which detector credits a change

Only `crashloop_db_connection` blames a change: it asks for a rollback of a release, and cites a
secret with the time of its change. No other detector does either (`Uncredited`), so what a
hypothesis says about a change can be read off the crash loop and the recent change alone.

The argument goes through all fifteen detectors. Thirteen of them fall under a common description
(`Ordinary`); the other two are looked at branch by branch.
-/

namespace SreAgent.Rca

/-! ## The other detectors

A detector is uncredited if each of its hypotheses is. Evidence about logs and metrics may carry a
time; what is said of the cluster itself does not. -/

/-- No rollback is asked for, and nothing the cluster says of itself carries a time. -/
structure Uncredited (h : Hypothesis) : Prop where
  rollback : h.rollbackRequired = false
  undated  : ∀ e ∈ h.evidence, e.source = "k8s" → e.timestamp = ""

/-- The usual hypothesis has one piece of evidence. -/
theorem Uncredited.single {h : Hypothesis} {e : Evidence} (hrollback : h.rollbackRequired = false)
    (hevidence : h.evidence = [e]) (he : e.source = "k8s" → e.timestamp = "") : Uncredited h := by
  refine ⟨hrollback, fun e' he' => ?_⟩
  rw [hevidence] at he'
  rw [List.mem_singleton.mp he']
  exact he

/-- A second piece of evidence in place of the first one alone. -/
theorem Uncredited.pair {h : Hypothesis} {e e' : Evidence} (hrollback : h.rollbackRequired = false)
    (hevidence : h.evidence = [e, e']) (he : e.source = "k8s" → e.timestamp = "")
    (he' : e'.source = "k8s" → e'.timestamp = "") : Uncredited h := by
  refine ⟨hrollback, fun x hx => ?_⟩
  rw [hevidence] at hx
  rcases List.mem_cons.mp hx with rfl | hx
  · exact he
  · rw [List.mem_singleton.mp hx]
    exact he'

variable {ctx : Context} {h : Hypothesis}

/-- Ordinary detectors credit nothing. -/
theorem Ordinary.uncredited {issues : List String} (hh : Ordinary issues h) : Uncredited h :=
  ⟨hh.rollback, fun e he => (hh.evidence e he).undated⟩

/-- **Whatever is credited is credited by the crash loop**: every other hypothesis of a diagnosis
cites no change. -/
theorem crashloop_or_uncredited (hh : h ∈ evaluate ctx) :
    crashloopDbConnection ctx = some h ∨ Uncredited h := by
  rcases crashloop_or_ordinary hh with hcrash | ⟨issues, hordinary⟩
  · exact .inl hcrash
  · exact .inr hordinary.uncredited

/-! ## The crash loop

Its branches one by one: only the one for rejected credentials looks at the change before the
release is credited. -/

/-- The hypothesis it starts from credits nothing, and neither does the branch for an unreachable
database. -/
theorem genericCrashloop_uncredited : Uncredited genericCrashloop :=
  Uncredited.single rfl rfl fun _ => rfl

theorem crashloopReach_uncredited (logs : String) (services : Option (List String)) :
    Uncredited (crashloopReach logs services genericCrashloop) := by
  unfold crashloopReach
  dsimp only
  split
  · refine ⟨rfl, ?_⟩
    simp [genericCrashloop]
  · exact Uncredited.pair rfl rfl (fun _ => rfl) fun _ => rfl

/-- What the crash loop cites for a secret. -/
def secretEvidence (c : Change) : Evidence where
  source := "k8s"
  summary := s!"Secret {Py.showOpt c.name} changed {c.at_} before crash"
  weight := 0.12
  timestamp := c.at_

/-- The branch for credentials cites a secret and no other change, and never asks for a rollback by
itself. -/
theorem crashloopAuth_secret {c : Change} (hkind : c.kind = .secret) :
    (crashloopAuth (some c) genericCrashloop).evidence =
      [{ source := "k8s", summary := "Pod in CrashLoopBackOff", weight := 0.4 },
       { source := "logs", summary := "DB authentication failure in crash logs", weight := 0.42 },
       secretEvidence c] := by
  unfold crashloopAuth
  dsimp only
  rw [if_pos hkind]
  rfl

theorem crashloopAuth_other {change : Option Change} (h : ∀ c ∈ change, c.kind ≠ .secret) :
    Uncredited (crashloopAuth change genericCrashloop) := by
  unfold crashloopAuth
  dsimp only
  split
  · next c =>
    rw [if_neg (h c rfl)]
    exact Uncredited.pair rfl rfl (fun _ => rfl) fun _ => rfl
  · exact Uncredited.pair rfl rfl (fun _ => rfl) fun _ => rfl

theorem crashloopAuth_rollback (change : Option Change) :
    (crashloopAuth change genericCrashloop).rollbackRequired = false := by
  unfold crashloopAuth
  dsimp only
  split
  · split <;> rfl
  · rfl

end SreAgent.Rca
