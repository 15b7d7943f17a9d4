import SreAgent.Rca.Collected
import SreAgent.Rca.Issues

/-!
# Failed reads taken for absent things

`collect_context` fills in a default for every read that fails. Two of the defaults look like data
to a detector: the empty list of services, and no log lines. `noAbsence_iff` says when a diagnosis
gets by without drawing a conclusion from them.

A detector cannot tell an empty namespace from one it may not read. The report does say which reads
failed (`Rca.Degradation`), but only beside a conclusion that has been drawn from them already.
-/

namespace SreAgent.Rca

open Kube (Client Read Labels Pod Timestamp)

/-! ## The two conclusions

Both are inferences from something that is missing: a Service that is not on the list, an error that
is not in the logs. Each has a condition on the rest of the context under which it is drawn, and the
missing thing is its last conjunct. -/

/-- A crash loop whose logs report an unreachable host, by name, and neither a DNS nor an
authentication error. -/
def NamesUnreachableHost (ctx : Context) : Prop :=
  isCrashlooping ctx = true ∧ Py.containsAny (allLogs ctx) dnsSpecific = false ∧
    Py.containsAny (allLogs ctx) dbAuth = false ∧ Py.containsAny (allLogs ctx) dbReach = true ∧
    hostShort (allLogs ctx) ≠ []

/-- Restarts of a container with a liveness probe, and no `Unhealthy` event. The probe detector
reads this as a failing probe, for want of an error in the logs. -/
def RestartsQuietly (ctx : Context) : Prop :=
  (∀ e ∈ ctx.events, e.reason ≠ some "Unhealthy") ∧
    ctx.describe.containers.any ContainerInfo.liveness = true ∧
    ctx.pods.any (fun p => p.reason == some "CrashLoopBackOff" || Py.truthy p.lastTerminated) = true

/-- The hypothesis blames the liveness probe because the logs show no error. -/
def InfersProbe (h : Hypothesis) : Prop :=
  h.issue = inferredProbeFailure.issue ∧ h.rootCause = inferredProbeFailure.rootCause

/-- A Service is missed by name, so there is a name. -/
theorem hostShort_of_missing {logs : String} {services : Option (List String)}
    (h : serviceMissing logs services = true) : hostShort logs ≠ [] := by
  intro hnil
  rw [serviceMissing, hnil] at h
  cases h

/-- The crash loop reports a missing dependency in one of its branches: a host that was not reached
and is no Service. -/
theorem crashloop_missing_iff (ctx : Context) :
    (∃ h, crashloopDbConnection ctx = some h ∧ h.issue = missingDependency) ↔
      NamesUnreachableHost ctx ∧ serviceMissing (allLogs ctx) ctx.services = true := by
  have hgeneric : genericCrashloop.issue ≠ missingDependency := by decide
  constructor
  · rintro ⟨h, hd, hissue⟩
    -- only the branch for an unreachable host has another issue than the generic one
    cases crashloopDbConnection_iff.mp hd with
    | generic => exact absurd hissue hgeneric
    | auth =>
        rw [creditRelease_issue, crashloopAuth_issue] at hissue
        exact absurd hissue hgeneric
    | reach hloop hdns hauth hreach =>
        rw [creditRelease_issue, crashloopReach_issue] at hissue
        split at hissue
        · next hserv => exact ⟨⟨hloop, hdns, hauth, hreach, hostShort_of_missing hserv⟩, hserv⟩
        · exact absurd hissue hgeneric
  · rintro ⟨⟨hloop, hdns, hauth, hreach, -⟩, hserv⟩
    refine ⟨_, crashloopDbConnection_iff.mpr (.reach hloop hdns hauth hreach), ?_⟩
    rw [creditRelease_issue, crashloopReach_issue, if_pos hserv]

/-- **The missing dependency** is reported exactly on such a crash loop, with the Service known to
be missing. -/
theorem missing_iff (ctx : Context) :
    (∃ h ∈ evaluate ctx, h.issue = missingDependency) ↔
      NamesUnreachableHost ctx ∧ serviceMissing (allLogs ctx) ctx.services = true := by
  rw [← crashloop_missing_iff]
  constructor
  · rintro ⟨h, hh, hissue⟩
    have hlisted : (crashloopDbConnection, ["CrashLoopBackOff", missingDependency]) ∈
        issuesByDetector := List.mem_cons_self ..
    exact ⟨h, detector_of_issue hh hlisted (by rw [hissue]; simp), hissue⟩
  · rintro ⟨h, hfire, hissue⟩
    exact ⟨h, mem_evaluate.mpr ⟨_, List.mem_cons_self .., hfire⟩, hissue⟩

/-- The probe is inferred where no event says so and the logs show no error. -/
theorem probe_infers_iff (ctx : Context) :
    (∃ h, probeFailure ctx = some h ∧ InfersProbe h) ↔
      RestartsQuietly ctx ∧ Py.containsAny (allLogs ctx) appErrorSignals = false := by
  unfold RestartsQuietly
  by_cases hquiet : ∀ e ∈ ctx.events, e.reason ≠ some "Unhealthy"
  · rw [probeFailure_of_quiet hquiet]
    constructor
    · rintro ⟨h, hfire, -⟩
      split at hfire
      · next hcond =>
        simp only [Bool.and_eq_true, Bool.not_eq_true'] at hcond
        exact ⟨⟨hquiet, hcond.1⟩, hcond.2⟩
      · cases hfire
    · rintro ⟨⟨-, hlive, hrestart⟩, hlogs⟩
      exact ⟨inferredProbeFailure, by rw [hlive, hrestart, hlogs]; rfl, rfl, rfl⟩
  -- an event is left, and the hypothesis rests on it
  · obtain ⟨hyp, hfires, -, hcause⟩ := probeFailure_of_event hquiet
    apply iff_of_false
    · rintro ⟨h, hfire, -, hinfers⟩
      obtain rfl := Option.some.inj (hfires.symm.trans hfire)
      exact hcause hinfers
    · exact fun hboth => hquiet hboth.1.1

/-- **The inferred probe failure** is reported exactly on such restarts, with no error in the
logs. -/
theorem inferred_iff (ctx : Context) :
    (∃ h ∈ evaluate ctx, InfersProbe h) ↔
      RestartsQuietly ctx ∧ Py.containsAny (allLogs ctx) appErrorSignals = false := by
  rw [← probe_infers_iff]
  constructor
  · rintro ⟨h, hh, hinfers⟩
    have hlisted : (probeFailure, ["Liveness Probe Failure", "Readiness Probe Failure",
        "Probe Probe Failure"]) ∈ issuesByDetector := by simp [issuesByDetector]
    exact ⟨h, detector_of_issue hh hlisted (by rw [hinfers.1]; decide), hinfers⟩
  · rintro ⟨h, hfire, hinfers⟩
    exact ⟨h, mem_evaluate.mpr ⟨_, by simp [allDetectors], hfire⟩, hinfers⟩

/-! ## What a failed read leaves

The condition is restated over the cluster: what was read of the subject itself decides whether a
default matters. If the services or the logs could not be read, the missing part is missing whatever
there is. -/

variable {cl : Client} {ns subject : String}

/-- What was read of the subject itself: its pods, the description and the logs of its first pod,
and its events. -/
def subjectView (cl : Client) (ns subject : String) : Context where
  pods := ((cl.namespaces ns).pods.filter fun p =>
    (podNamesOf cl ns subject).contains p.name).map podInfo
  describe := (resultsOf cl ns subject).describe
  logs := (resultsOf cl ns subject).logs
  previousLogs := (resultsOf cl ns subject).previousLogs
  events := keptEvents cl ns subject

/-- Both log reads of the target pod failed, so the empty logs of the context say nothing about what
the container printed. -/
def LogReadsFailed (cl : Client) (ns subject : String) : Prop :=
  ∃ pod, targetPod (podNamesOf cl ns subject) = some pod ∧
    (∃ e, readPodLog cl .logs ns pod none false = .error e) ∧
    (∃ e, readPodLog cl .previousLogs ns pod none true = .error e)

/-- No conclusion is drawn from the services or from the logs if they could not be read: what was
not seen is not taken for what is not there. -/
structure NoAbsence (cl : Client) (ns subject : String) (ctx : Context) : Prop where
  services : cl.faults .services ≠ none → ∀ h ∈ evaluate ctx, h.issue ≠ missingDependency
  logs     : LogReadsFailed cl ns subject → ∀ h ∈ evaluate ctx, ¬ InfersProbe h

/-- Services that could not be read are an empty list. -/
theorem services_failed (h : cl.faults .services ≠ none) : (resultsOf cl ns subject).services = [] := by
  simp only [resultsOf, fanOut, Client.attempt]
  cases hf : cl.faults .services with
  | none => exact absurd hf h
  | some e => rfl

/-- Unread logs are empty logs. -/
theorem logs_failed (h : LogReadsFailed cl ns subject) : allLogs (subjectView cl ns subject) = "" := by
  obtain ⟨pod, htarget, ⟨e, hlogs⟩, ⟨e', hprevious⟩⟩ := h
  have h₁ : (resultsOf cl ns subject).logs = [] := by
    rw [resultsOf, htarget]
    show readLogs cl .logs ns pod none false = []
    rw [readLogs, hlogs]
  have h₂ : (resultsOf cl ns subject).previousLogs = [] := by
    rw [resultsOf, htarget]
    show readLogs cl .previousLogs ns pod none true = []
    rw [readLogs, hprevious]
  rw [allLogs, subjectView]
  dsimp only
  rw [h₁, h₂]
  decide

/-- Unread services are missing services. -/
theorem missing_unread (hf : cl.faults .services ≠ none) (name : String) (pdbs : List PdbInfo)
    (anchor : Option Py.DateTime) (recent : Option Change) :
    (∃ h ∈ evaluate { bundleOf cl name ns subject pdbs anchor with recentChange := recent },
      h.issue = missingDependency) ↔ NamesUnreachableHost (subjectView cl ns subject) := by
  have hmissing := missing_iff
    { bundleOf cl name ns subject pdbs anchor with recentChange := recent }
  refine hmissing.trans (and_iff_left_of_imp ?_)
  intro hhost
  -- the detectors see the subject as the view shows it
  show serviceMissing (allLogs (subjectView cl ns subject))
    (some (resultsOf cl ns subject).services) = true
  rw [services_failed hf, serviceMissing]
  have hne : hostShort (allLogs (subjectView cl ns subject)) ≠ [] := hhost.2.2.2.2
  simp [hne]

/-- Unread logs show no error. -/
theorem inferred_unread (hf : LogReadsFailed cl ns subject) (name : String) (pdbs : List PdbInfo)
    (anchor : Option Py.DateTime) (recent : Option Change) :
    (∃ h ∈ evaluate { bundleOf cl name ns subject pdbs anchor with recentChange := recent },
      InfersProbe h) ↔ RestartsQuietly (subjectView cl ns subject) := by
  have hinferred := inferred_iff
    { bundleOf cl name ns subject pdbs anchor with recentChange := recent }
  refine hinferred.trans (and_iff_left_of_imp ?_)
  intro _
  show Py.containsAny (allLogs (subjectView cl ns subject)) appErrorSignals = false
  rw [logs_failed hf]
  decide

/-- **Exactly when no failed read is taken for evidence.** The services could be read, or the
subject is not in a crash loop whose logs name an unreachable host; and some log of the target pod
could be read, or the subject does not restart quietly under a liveness probe. -/
theorem noAbsence_iff {w : World} {cluster : Option String} {name : String} {ctx : Context}
    (hreach : w.reach cluster ns = .ok (name, cl))
    (hctx : collectContext w cluster ns subject = .ok ctx) :
    NoAbsence cl ns subject ctx ↔
      (cl.faults .services = none ∨ ¬ NamesUnreachableHost (subjectView cl ns subject)) ∧
        (¬ LogReadsFailed cl ns subject ∨ ¬ RestartsQuietly (subjectView cl ns subject)) := by
  rw [collectContext_of_reach hreach] at hctx
  -- the context is that of the subject, whatever the anchor and the change are
  obtain ⟨-, -, pdbs, anchor, recent, rfl, -⟩ := collectFrom_inv hctx
  constructor
  · rintro ⟨hs, hl⟩
    constructor
    · rw [or_iff_not_imp_left]
      intro hf hhost
      obtain ⟨h, hh, hissue⟩ := (missing_unread hf name pdbs anchor recent).mpr hhost
      exact hs hf h hh hissue
    · rw [or_iff_not_imp_left, not_not]
      intro hf hquiet
      obtain ⟨h, hh, hinfers⟩ := (inferred_unread hf name pdbs anchor recent).mpr hquiet
      exact hl hf h hh hinfers
  · rintro ⟨hs, hl⟩
    constructor
    · intro hf h hh hissue
      apply hs.resolve_left hf
      exact (missing_unread hf name pdbs anchor recent).mp ⟨h, hh, hissue⟩
    · intro hf h hh hinfers
      apply hl.resolve_left (not_not.mpr hf)
      exact (inferred_unread hf name pdbs anchor recent).mp ⟨h, hh, hinfers⟩

/-- A crash-looping pod that cannot reach `db`; the Service `db` exists, but services may not be
listed. -/
def deniedServices : Client where
  namespaces _ :=
    { pods := [{ name := "web-0"
                 containers := [{ name := "app" }]
                 containerStatuses :=
                   [{ name := "app", waiting := some ⟨some "CrashLoopBackOff"⟩ }] }]
      services := ["db"]
      podLog := fun _ _ _ => .ok "dial tcp db:5432" }
  faults read := if read = .services then some (.apiException 403) else none

/-- Its context is collected all the same. -/
theorem deniedServices_collects :
    ∃ ctx, collectContext (demoWorld deniedServices) (some "prod") "shop" "web-0" = .ok ctx := by
  have hpdbs : ¬ MeetsNullSelector deniedServices "shop" "web-0" := fun h => h.1 (by decide)
  obtain ⟨pdbs, anchor, recent, hctx, -⟩ := collectFrom_ok rfl hpdbs "prod" demoNow
  exact ⟨_, (collectContext_of_reach rfl).trans hctx⟩

/-- The condition at this cluster. -/
theorem noAbsence_iff_denied :
    ∃ ctx, collectContext (demoWorld deniedServices) (some "prod") "shop" "web-0" = .ok ctx ∧
      (NoAbsence deniedServices "shop" "web-0" ctx ↔
        (deniedServices.faults .services = none ∨
            ¬ NamesUnreachableHost (subjectView deniedServices "shop" "web-0")) ∧
          (¬ LogReadsFailed deniedServices "shop" "web-0" ∨
            ¬ RestartsQuietly (subjectView deniedServices "shop" "web-0"))) := by
  obtain ⟨ctx, hctx⟩ := deniedServices_collects
  exact ⟨ctx, hctx, noAbsence_iff rfl hctx⟩

/-- The diagnosis says that the Service `db` was never deployed. -/
theorem denied_taken_for_missing :
    ∃ ctx, collectContext (demoWorld deniedServices) (some "prod") "shop" "web-0" = .ok ctx ∧
      ¬ NoAbsence deniedServices "shop" "web-0" ctx := by
  obtain ⟨ctx, hctx⟩ := deniedServices_collects
  refine ⟨ctx, hctx, fun h => ?_⟩
  rw [collectContext_of_reach rfl] at hctx
  obtain ⟨-, -, pdbs, anchor, recent, rfl, -⟩ := collectFrom_inv hctx
  have hhost : NamesUnreachableHost (subjectView deniedServices "shop" "web-0") :=
    ⟨by decide +kernel, by decide +kernel, by decide +kernel, by decide +kernel, by decide +kernel⟩
  -- a list that was denied is empty to the detector, so the host is none of it
  have hmissing : serviceMissing (allLogs (subjectView deniedServices "shop" "web-0")) (some []) =
      true := by decide +kernel
  obtain ⟨hyp, hh, hissue⟩ := (missing_iff
    { bundleOf deniedServices "prod" "shop" "web-0" pdbs anchor with
      recentChange := recent }).mpr ⟨hhost, hmissing⟩
  exact h.services (by decide) hyp hh hissue

end SreAgent.Rca
